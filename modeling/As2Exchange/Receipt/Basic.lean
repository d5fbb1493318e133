import As2Exchange.Validation.Check
import As2Exchange.Text.Case

/-!
# Receipts

A receipt, or message disposition notification, tells the sender what became of a message: a text
for people, the disposition, the id of the message and the digest of what was received.

- `Receipt.status?` is the part of the disposition behind its first semicolon;
- `Receipt.isError` says whether the status reports a failure.
-/

namespace As2Exchange

/-- A message disposition notification. -/
structure Receipt where
  text : String := ""
  disposition : Option String := none
  originalMessageId : Option String := none
  receivedDigest : Option String := none
  attributes : List (String × String) := []
  deriving DecidableEq, Repr

namespace Receipt

/-- The status of a disposition: what stands behind its first semicolon, without blanks at the
ends. -/
def statusOf? (disposition : String) : Option String :=
  match disposition.toList.dropWhile (· ≠ ';') with
  | [] => none
  | _ :: status => some (Text.strip (String.ofList status))

def status? (receipt : Receipt) : Option String := receipt.disposition.bind statusOf?

/-- Whether a status in lower case tells of a failure. -/
def tellsFailure (status : List Char) : Bool :=
  Text.occursIn "error".toList status || Text.occursIn "failed".toList status

/-- Whether the receipt reports a failure. -/
def isError (receipt : Receipt) : Bool :=
  match receipt.status? with
  | some status => tellsFailure (Text.lower status).toList
  | none => false

/-- Entries with repeated names: each name once, with its last value. -/
def joined (entries : List (String × String)) : List (String × String) :=
  entries.foldl (fun done entry =>
    if (done.lookup entry.1).isSome then
      done.map fun old => if old.1 = entry.1 then entry else old
    else done ++ [entry]) []

def check (v : Value) : Checked Receipt :=
  Receipt.mk
    <$> Check.withDefault v "text" "" Check.text
    <*> Check.withDefault v "disposition" none Check.optionalText
    <*> Check.withDefault v "original_message_id" none Check.optionalText
    <*> Check.withDefault v "received_mic" none Check.optionalText
    <*> Check.withDefault v "attributes" [] fun v => (Check.dictionary Check.text v).map joined

end Receipt

end As2Exchange
