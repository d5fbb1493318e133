import As2Exchange.MimeBody

/-!
# Requests

A request is what a caller wants to have sent: a subject and a payload, with its content type,
charset and transfer encoding.
-/

namespace As2Exchange

inductive Payload where
  | bytes (data : Bytes)
  | text (text : String)
  | file (path : PathName)
  deriving DecidableEq, Repr

namespace Payload

def toValue : Payload → Value
  | bytes data => .bytes data
  | text s => .text s
  | file path => .path path

/-- Checks a payload; what is none of the three is told thrice. -/
def check : Value → Checked Payload
  | .bytes data => .valid (bytes data)
  | .text s => .valid (text s)
  | .path path => .valid (file path)
  | _ =>
    ⟨.error [⟨["bytes"], .bytes⟩, ⟨["str"], .text⟩, ⟨["path"], .path⟩]⟩

end Payload

/-- The content type of a payload about which nothing is said. -/
def defaultContentType : String := "application/octet-stream"

/-- Outbound content. -/
structure Request where
  subject : String
  contentType : String := defaultContentType
  payload : Payload := .bytes []
  charset : String := "utf-8"
  transferEncoding : String := "binary"
  deriving DecidableEq, Repr

namespace Request

def check (v : Value) : Checked Request :=
  Request.mk
    <$> Check.required v "subject" Check.text
    <*> Check.withDefault v "content_type" defaultContentType Check.text
    <*> Check.withDefault v "data" (.bytes []) Payload.check
    <*> Check.withDefault v "charset" "utf-8" Check.text
    <*> Check.withDefault v "content_transfer_encoding" "binary" Check.text

/-- Renders the request; files are read now. -/
def render [Codecs] (request : Request) (files : FileTree) : Except Failure MimeBody :=
  MimeBody.ofPayload files request.payload.toValue (.text request.contentType) request.charset
    request.transferEncoding

end Request

end As2Exchange
