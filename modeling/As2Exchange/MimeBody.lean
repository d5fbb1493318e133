import As2Exchange.Base64
import As2Exchange.Digest.Algorithm
import As2Exchange.Failure
import As2Exchange.Validation.Check

/-!
# Bodies

A body is what is put on the wire for a message: its content type, its transfer encoding and its
bytes.

- `MimeBody.transmitted` are the bytes as they are posted;
- `MimeBody.integrityCheck` is the digest of those bytes together with the name of its algorithm;
- `MimeBody.ofPayload` renders a payload: bytes as they are, a text in a charset, a file by reading
  it.
-/

namespace As2Exchange

/-- A body ready to be put on the wire. -/
structure MimeBody where
  contentType : String
  transferEncoding : String := "binary"
  data : Bytes := []
  deriving DecidableEq, Repr

namespace MimeBody

/-! ## Checks -/

/-- Bytes, or a text that stands for its bytes. -/
def checkBytes : Value → Checked Bytes
  | .bytes data => .valid data
  | .text s => .valid (Charset.Utf8.encode s.toList)
  | _ => .expected .bytes

def check (v : Value) : Checked MimeBody :=
  MimeBody.mk
    <$> Check.required v "content_type" Check.text
    <*> Check.withDefault v "content_transfer_encoding" "binary" Check.text
    <*> Check.withDefault v "data" [] checkBytes

/-! ## The bytes on the wire -/

/-- The bytes as they are posted: in base64 lines if the transfer encoding asks for it. -/
def transmitted (body : MimeBody) : Bytes :=
  if body.transferEncoding = "base64" then Bytes.ofAscii (Base64.encodeLines body.data)
  else body.data

/-- The digest of the posted bytes, with the name of the algorithm in lower case. -/
def integrityCheck (body : MimeBody) (algorithm : String) : Except Failure String :=
  match DigestAlgorithm.ofName? algorithm with
  | none => .error (.protocol (.digest algorithm))
  | some digest =>
    .ok (String.ofList (Base64.encode (digest.digest body.transmitted)) ++ ", "
      ++ Text.lower algorithm)

/-! ## Rendering -/

/-- The transfer encodings that a body may have. -/
def transferEncodings : List String := ["binary", "8bit", "7bit", "base64"]

/-- The content type of a text: it names the charset unless it does so already. -/
def withCharset (contentType charset : String) : String :=
  if Text.occursIn "charset=".toList (Text.lower contentType).toList then contentType
  else contentType ++ "; charset=" ++ charset

/-- The body with a content type that has not been checked. -/
def assemble (contentType : Value) (transferEncoding : String) (data : Bytes) :
    Except Failure MimeBody :=
  match ((Check.text contentType).within "content_type").result with
  | .ok contentType => .ok ⟨contentType, transferEncoding, data⟩
  | .error issues => .error (.invalid issues)

/-- The bytes of a text in a charset. An unknown charset and characters that it lacks are encoding
problems; a name that no charset can have is none, nor are other exceptions. -/
def textBytes [Codecs] (text charset : String) : Except Failure Bytes :=
  match Charset.encodeNamed charset text with
  | .ok bytes => .ok bytes
  | .error cause =>
    if cause.is "LookupError" || cause.is "UnicodeEncodeError" then
      .error (.serialization (.charset charset cause))
    else .error (.charset cause)

/-- The bytes of a file. A name that no file can have is no reading problem. -/
def fileBytes (files : FileTree) (path : PathName) : Except Failure Bytes :=
  match files.read (toString path) with
  | .ok data => .ok data
  | .error .nulInName => .error (.file .nulInName)
  | .error cause => .error (.serialization (.file path cause))

def ofPayload [Codecs] (files : FileTree) (payload contentType : Value)
    (charset transferEncoding : String) : Except Failure MimeBody :=
  if !transferEncodings.contains transferEncoding then
    .error (.serialization (.transferEncoding transferEncoding))
  else
    match payload with
    | .bytes data => assemble contentType transferEncoding data
    -- the charset is tried before the content type is
    | .text text => do
      let data ← textBytes text charset
      match contentType with
      | .text contentType =>
        return ⟨withCharset contentType charset, transferEncoding, data⟩
      | other => .error (.misuse (.noMember other.kind "lower"))
    | .path path => do
      assemble contentType transferEncoding (← fileBytes files path)
    | other => .error (.serialization (.kind other.kind))

end MimeBody

end As2Exchange
