import As2Exchange.Failure
import As2Exchange.Receipt.Basic

/-!
# Responses

The outcome of one send: the id of the message, the receipt if one came back, and the failure if
there was one. A message may have both.
-/

namespace As2Exchange

/-- The outcome of a send. -/
structure Response where
  originalMessageId : String := ""
  receipt : Option Receipt := none
  failure : Option Failure := none

namespace Response

def orNone (text : String) : String := if text.isEmpty then "<none>" else text

def receiptLines : Option Receipt → List String
  | none => []
  | some receipt =>
    let text := if receipt.text.isEmpty then [] else ["MDN text: " ++ receipt.text]
    ("MDN disposition: " ++ orNone (receipt.disposition.getD "")) :: text

def failureLines : Option Failure → List String
  | none => []
  | some failure => ["Error: " ++ failure.kind ++ ": " ++ failure.message]

/-- The line for an outcome without receipt and failure. -/
def quietLines (response : Response) : List String :=
  match response.receipt, response.failure with
  | none, none => ["Sent without receiving an MDN"]
  | _, _ => []

def summary (response : Response) : String :=
  "\n".intercalate <|
    ("OriginalMessageID: " ++ orNone response.originalMessageId)
      :: receiptLines response.receipt ++ failureLines response.failure ++ response.quietLines

end Response

end As2Exchange
