import As2Exchange.Validation.Issue
import As2Exchange.Charset.Name
import As2Exchange.Files.Tree
import As2Exchange.Template

/-!
# Failures

Every way in which an operation can fail, as a cause. The wording of a failure, the name of its kind
and the cause behind it are read off the cause.

- the failures of the exchange itself: of serialization, of the protocol, of a component and of the
  transmission;
- failures that come from below: charsets, files, templates, checks, unsuitable values, and the
  exceptions of other libraries;
- `Foreign` failures, which a collaborator raises and which only carry a name and a text.
-/

namespace As2Exchange

/-! ## Failures raised by collaborators -/

/-- How a failure is met: failures of the exchange pass unchanged, those of the transport are
wrapped by the sender, interrupts are never caught, all others are ordinary. -/
inductive Family where
  | exchange
  | transport
  | ordinary
  | interrupt
  deriving DecidableEq, Repr

/-- A failure that a collaborator raises, with an optional text. -/
structure Foreign where
  family : Family
  name : String
  text : Option String
  deriving DecidableEq, Repr

/-- The names of the failures that stand for a request to stop. -/
def interruptNames : List String :=
  ["KeyboardInterrupt", "SystemExit", "GeneratorExit", "BaseException", "BaseExceptionGroup"]

def exchangeNames : List String :=
  ["As2ClientError", "SerializationError", "ProtocolError", "ComponentInitError",
   "TransmissionError"]

/-- The failure with a name, as raised by a collaborator other than the transport. -/
def Foreign.named (name : String) (text : Option String) : Foreign :=
  let family :=
    if interruptNames.contains name then .interrupt
    else if exchangeNames.contains name then .exchange
    else .ordinary
  ⟨family, name, text⟩

/-- The wording: a missing key is told as a literal, all other texts as they are. -/
def Foreign.message (f : Foreign) : String :=
  match f.text with
  | none => ""
  | some text => if f.name = "KeyError" then Text.quoted text else text

/-! ## Causes by area -/

/-- Why a payload cannot be rendered. -/
inductive SerializationError where
  | transferEncoding (name : String)
  | charset (name : String) (cause : CharsetError)
  | file (path : PathName) (cause : FileError)
  | kind (name : String)
  deriving DecidableEq, Repr

/-- What is missing or unsuitable in a partnership or a message. -/
inductive ProtocolError where
  | digest (name : String)
  | noDestination (partnership : String)
  | noIdentifiers (partnership : String)
  | messageIdFormat (format : String) (cause : TemplateError)
  | action (name : String)
  deriving DecidableEq, Repr

/-- Which credential a key store does not have. -/
inductive CredentialError where
  | noCertificate (name : String)
  | noKey (name : String)
  deriving DecidableEq, Repr

/-- Which component of a session cannot be set up. -/
inductive ComponentError where
  | unreadKeyStore (path : PathName) (cause : FileError)
  | unopenedKeyStore (path : PathName) (cause : Raised)
  | partnerships (cause : Foreign)
  deriving DecidableEq, Repr

/-- Why posting a message fails: the transport fails, or the answer has a status of failure. -/
inductive PostError where
  | transport (cause : Foreign)
  | status (code : Int) (reason url : String)
  deriving DecidableEq, Repr

/-- Why a message counts as not delivered. -/
inductive TransmissionError where
  | noDestination (messageId : String)
  | credential (cause : CredentialError)
  | post (messageId : String) (cause : PostError)
  | errorDisposition (disposition : String)
  | otherMessage (reported messageId : String)
  | digestMismatch (messageId sent received : String)
  deriving DecidableEq, Repr

/-- An operation on a value of an unsuitable kind. -/
inductive Misuse where
  | noMember (kind member : String)
  | notPathLike (kind : String)
  | notOrdered (left right : String)
  | notIndexable
  | notAssignable (kind : String)
  | notArguments (kind : String)
  | namesNotText
  deriving DecidableEq, Repr

/-- Why a configuration text cannot be read. -/
inductive ConfigError where
  /-- The bytes from a place on are no text. -/
  | undecodable (place : Nat) (bytes : Bytes) (fault : Charset.Utf8.Fault)
  /-- The text breaks a rule of the language. -/
  | malformed
  /-- A value of the text cannot be read. -/
  | unreadable (kind text : String)
  deriving DecidableEq, Repr

inductive Failure where
  | serialization (e : SerializationError)
  | protocol (e : ProtocolError)
  | component (e : ComponentError)
  | transmission (e : TransmissionError)
  /-- A sender failed with something that is no failure of the exchange. -/
  | sender (messageId : String) (cause : Failure)
  | charset (e : CharsetError)
  | file (e : FileError)
  | template (e : TemplateError)
  | credential (e : CredentialError)
  | post (e : PostError)
  | invalid (issues : List Issue)
  | misuse (e : Misuse)
  | config (e : ConfigError)
  | unknownHome
  | unknownBackend (name : String)
  | unknownState (name : String)
  /-- There is no room for so many levels of entities. -/
  | tooDeep
  /-- A library raised an exception that is passed on as it is. -/
  | raised (e : Raised)
  | foreign (f : Foreign)
  deriving Repr

/-! ## Wordings -/

def SerializationError.message : SerializationError → String
  | .transferEncoding name => "Unsupported content transfer encoding: " ++ name
  | .charset name cause => s!"Cannot encode payload with charset '{name}': " ++ cause.message
  | .file path cause => s!"Cannot read payload file '{path}': " ++ cause.message
  | .kind name => s!"Cannot serialize payload of type '{name}'"

def ProtocolError.message : ProtocolError → String
  | .digest name => "Unsupported MIC algorithm: " ++ name
  | .noDestination partnership => s!"Partnership {partnership} has no destination URL"
  | .noIdentifiers partnership =>
    s!"Partnership {partnership} is missing the sender or receiver AS2 id"
  | .messageIdFormat format cause => s!"Invalid message id format '{format}': " ++ cause.message
  | .action name => "Unsupported sender action: " ++ name

/-- The wording of a missing credential. -/
def CredentialError.message : CredentialError → String
  | .noCertificate name => s!"No certificate with alias '{name}' in key store"
  | .noKey name => s!"No private key with alias '{name}' in key store"

def ComponentError.message : ComponentError → String
  | .unreadKeyStore path cause => s!"Cannot read key store '{path}': " ++ cause.message
  | .unopenedKeyStore path cause => s!"Cannot load key store '{path}': " ++ cause.text
  | .partnerships cause => "Cannot initialize partnership factory: " ++ cause.message

/-- The wording of a failed post. -/
def PostError.message : PostError → String
  | .transport cause => cause.message
  | .status code reason url =>
    let side := if code < 500 then "Client" else "Server"
    s!"{code} {side} Error: {reason} for url: {url}"

def TransmissionError.message : TransmissionError → String
  | .noDestination messageId => s!"Message {messageId} has no destination URL"
  | .credential cause => cause.message
  | .post messageId cause => s!"Failed to send message {messageId}: " ++ cause.message
  | .errorDisposition disposition =>
    "Partner reported an error disposition: " ++ disposition
  | .otherMessage reported messageId =>
    s!"MDN refers to message {reported}, expected {messageId}"
  | .digestMismatch messageId sent received =>
    s!"MIC mismatch for {messageId}: sent {sent}, received {received}"

def Misuse.message : Misuse → String
  | .noMember kind member => s!"'{kind}' object has no attribute '{member}'"
  | .notPathLike kind => "expected str, bytes or os.PathLike object, not " ++ kind
  | .notOrdered left right =>
    s!"'<' not supported between instances of '{left}' and '{right}'"
  | .notIndexable => "list indices must be integers or slices, not str"
  | .notAssignable kind => s!"'{kind}' object does not support item assignment"
  | .notArguments kind =>
    "as2client.config.ClientConfig() argument after ** must be a mapping, not " ++ kind
  | .namesNotText => "keywords must be strings"

/-- The wording of a configuration error. -/
def ConfigError.message : ConfigError → String
  | .undecodable place bytes fault => (CharsetError.undecodable place bytes fault).message
  | .malformed => ""
  | .unreadable _ text => text

def Failure.message : Failure → String
  | serialization e => e.message
  | protocol e => e.message
  | component e => e.message
  | transmission e => e.message
  | sender messageId cause => s!"Sender failed for message {messageId}: " ++ cause.message
  | charset e => e.message
  | file e => e.message
  | template e => e.message
  | credential e => Text.quoted e.message
  | post e => e.message
  | invalid _ => ""
  | misuse e => e.message
  | config e => e.message
  | unknownHome => "Could not determine home directory."
  | unknownBackend name => "Unsupported sender backend: " ++ name
  | unknownState name => Text.quoted name ++ " is not a valid SendState"
  | tooDeep => "maximum recursion depth exceeded"
  | raised e => e.text
  | foreign f => f.message

/-! ## Kinds -/

def FileError.kind : FileError → String
  | .unreadable .missing _ => "FileNotFoundError"
  | .unreadable .notDirectory _ => "NotADirectoryError"
  | .unreadable .isDirectory _ => "IsADirectoryError"
  | .unreadable .nameTooLong _ => "OSError"
  | .noWorkingDirectory => "FileNotFoundError"
  | .nulInName => "ValueError"

def TemplateError.kind : TemplateError → String
  | .malformed _ => "ValueError"
  | .position _ | .characterMissing => "IndexError"
  | .unknownField _ => "KeyError"
  | .indexNotNumeric => "TypeError"
  | .object e => e.kind
  | .tooLarge => "MemoryError"

/-- The name of the kind of a failed post. -/
def PostError.kind : PostError → String
  | .transport cause => cause.name
  | .status _ _ _ => "HTTPError"

def Misuse.kind : Misuse → String
  | .noMember _ _ => "AttributeError"
  | _ => "TypeError"

/-- The name of the kind of a configuration error. -/
def ConfigError.kind : ConfigError → String
  | .undecodable _ _ _ => "UnicodeDecodeError"
  | .malformed => "YAMLError"
  | .unreadable kind _ => kind

def Failure.kind : Failure → String
  | serialization _ => "SerializationError"
  | protocol _ => "ProtocolError"
  | component _ => "ComponentInitError"
  | transmission _ | sender _ _ => "TransmissionError"
  | charset e => e.kind
  | file e => e.kind
  | template e => e.kind
  | credential _ => "KeyError"
  | post e => e.kind
  | invalid _ => "ValidationError"
  | misuse e => e.kind
  | config e => e.kind
  | unknownHome => "RuntimeError"
  | unknownBackend _ | unknownState _ => "ValueError"
  | tooDeep => "RecursionError"
  | raised e => e.kind
  | foreign f => f.name

/-- The failure behind a failure, where one was met and wrapped. -/
def Failure.cause? : Failure → Option Failure
  | serialization (.charset _ cause) => some (charset cause)
  | serialization (.file _ cause) => some (file cause)
  | protocol (.messageIdFormat _ cause) => some (template cause)
  | component (.unreadKeyStore _ cause) => some (file cause)
  | component (.unopenedKeyStore _ cause) => some (raised cause)
  | component (.partnerships cause) => some (foreign cause)
  | transmission (.credential cause) => some (credential cause)
  | transmission (.post _ cause) => some (post cause)
  | sender _ cause => some cause
  | _ => none

def Failure.family : Failure → Family
  | serialization _ | protocol _ | component _ | transmission _ | sender _ _ => .exchange
  | post (.transport cause) => cause.family
  | post (.status _ _ _) => .transport
  | foreign f => f.family
  | _ => .ordinary

/-- Whether a failure asks the program to stop. -/
def Failure.isInterrupt (failure : Failure) : Bool := failure.family = .interrupt

end As2Exchange
