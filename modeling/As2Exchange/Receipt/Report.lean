import As2Exchange.Mime.Entity
import As2Exchange.Receipt.Basic

/-!
# Reports

A receipt comes back as a report: a multipart body with a text for people and a part of disposition
fields. Any other body is taken as a plain text.

- `Report.read?` reads the receipt from the content type and the bytes of an answer.
-/

namespace As2Exchange

open Mime

namespace Report

/-- The content type of disposition fields. -/
def notificationType : String := "message/disposition-notification"

/-- The fields that describe a block and belong to no disposition. -/
def isDescriptive (name : String) : Bool :=
  name = "content-type" || name = "content-transfer-encoding"

/-- The disposition fields of a header block, with their names in lower case and their values on
one line. -/
def blockFields (fields : List Field) : List (String × String) :=
  (fields.filter fun field => !isDescriptive (Text.lower field.name)).map fun field =>
    (Text.lower field.name, Text.unfold field.value)

/-- The disposition fields of a notification: those of the blocks in it. -/
def dispositionFields (notification : Entity) : List (String × String) :=
  match notification with
  | .leaf fields _ _ => blockFields fields
  | .branch _ _ parts => parts.flatMap fun block => blockFields block.fields

/-- The disposition fields of all notifications among entities. -/
def allFields (entities : List Entity) : List (String × String) :=
  (entities.filter fun entity => entity.type = notificationType).flatMap dispositionFields

/-- Whether the entity tells that it is a plain text. -/
def isTextPart (entity : Entity) : Bool :=
  entity.type = "text/plain" && !(entity.contentType?.getD "").isEmpty

/-- The first text among plain texts that holds more than blanks. -/
def firstText [Codecs] : List Entity → Except Failure String
  | [] => .ok ""
  | entity :: rest =>
    if isTextPart entity then do
      let text := Text.strip (← entity.text)
      if text.isEmpty then firstText rest else return text
    else firstText rest

/-- A text without angle brackets at its ends. -/
def stripBrackets (text : String) : String :=
  String.ofList (Text.trimBoth (fun c => c = '<' || c = '>') (Text.strip text).toList)

/-- The receipt that a report holds. -/
def ofParts (text : String) (fields : List (String × String)) : Receipt :=
  let attributes := Receipt.joined fields
  { text := text
    disposition := attributes.lookup "disposition"
    originalMessageId := (attributes.lookup "original-message-id").map stripBrackets
    receivedDigest := attributes.lookup "received-content-mic"
    attributes := attributes }

def ofEntity [Codecs] (report : Entity) : Except Failure Receipt :=
  match report with
  -- an answer in a single part is a text for people and tells nothing else
  | .leaf _ _ _ => do return { text := Text.strip (← report.text) }
  | .branch _ _ _ => do
    let entities := report.walk
    return ofParts (← firstText entities) (allFields entities)

/-- The content type of an answer that does not tell one. -/
def typeOrPlain (contentType? : Option String) : String :=
  match contentType? with
  | some contentType => if contentType.isEmpty then "text/plain" else contentType
  | none => "text/plain"

/-- The header block that an answer stands for. -/
def headOf (contentType : String) : String := "Content-Type: " ++ contentType ++ "\r\n\r\n"

/-- Reads the receipt of an answer; an empty answer has none. -/
def read? [Codecs] [Nesting] (contentType? : Option String) (content : Bytes)
    : Except Failure (Option Receipt) :=
  if content.isEmpty then .ok none
  else
    match Charset.encode .ascii (headOf (typeOrPlain contentType?)) with
    | .error gap => .error (.charset (.lacking gap))
    | .ok head => do
      return some (← ofEntity (← Entity.read (lines (head ++ content))))

end Report

end As2Exchange
