import As2Exchange.Moment
import As2Exchange.Request
import As2Exchange.Partnership
import As2Exchange.Receipt.Basic
import As2Exchange.Settings

/-!
# Messages

A message is the envelope in which a request travels: the partnership, a unique id, and the rendered
body. A message id comes from the template of the partnership; besides the two partners it may name
the moment and a number that is never used twice.

- `Stamp` is the moment and the number for one id;
- `Message.newId` makes an id, `Message.assemble` a message;
- `Message.headers` are the headers with which a message is posted.
-/

namespace As2Exchange

/-! ## Stamps -/

/-- What makes one message id: the moment, and a number of 128 bits. -/
structure Stamp where
  moment : Moment
  unique : Nat
  deriving DecidableEq, Repr

/-- The number as 32 hexadecimal digits. -/
def Stamp.uniqueText (stamp : Stamp) : String := String.ofList (Text.hexDigits 32 stamp.unique)

/-! ## Messages -/

/-- The envelope of a request. -/
structure Message where
  contentType : String
  subject : String
  partnership : Partnership
  messageId : String
  attributes : Entries := []
  body : MimeBody
  receipt : Option Receipt := none
  deriving DecidableEq, Repr

namespace Message

/-- The template of message ids of a partnership; an absent or empty one is the default. -/
def idFormat (p : Partnership) : String :=
  match p.attribute? Key.messageIdFormat with
  | some format => if format.isEmpty then defaultMessageIdFormat else format
  | none => defaultMessageIdFormat

/-- The texts that the template of message ids may name. -/
def idFields (p : Partnership) (stamp : Stamp) : List (String × String) :=
  [("date", stamp.moment.compact), ("uuid", stamp.uniqueText),
   ("sender", (p.senderId? Key.as2Id).getD ""), ("receiver", (p.receiverId? Key.as2Id).getD "")]

/-- Whether a template error is one of the format itself: a flaw, or something that is asked for by
its name or its number and is not there. -/
def isFormatError : TemplateError → Bool
  | .malformed _ | .position _ | .unknownField _ | .characterMissing => true
  | .indexNotNumeric | .tooLarge => false
  | .object e => e.is "KeyError" || e.is "IndexError" || e.is "ValueError"

/-- Makes a message id. -/
def newId [Template.Objects] (p : Partnership) (stamp : Stamp) : Except Failure String :=
  match Template.expand (idFormat p) (idFields p stamp) with
  | .ok id => .ok id
  | .error cause =>
    if isFormatError cause then .error (.protocol (.messageIdFormat (idFormat p) cause))
    else .error (.template cause)

/-- An entry that is there with a text that is not empty. -/
def given? (value : Option String) : Option String := value.filter fun text => !text.isEmpty

/-- What a partnership must have for a message: the destination and both identifiers. -/
def route (p : Partnership) : Except Failure (String × String) :=
  match given? (p.attribute? Key.url) with
  | none => .error (.protocol (.noDestination p.name))
  | some url =>
    match given? (p.senderId? Key.as2Id), given? (p.receiverId? Key.as2Id) with
    | some _, some receiver => .ok (url, receiver)
    | _, _ => .error (.protocol (.noIdentifiers p.name))

/-- The content of a message: a request with the outcome of its rendering. -/
structure Draft where
  subject : String
  contentType : String
  body : Except Failure MimeBody

def Draft.ofRequest [Codecs] (request : Request) (files : FileTree) : Draft :=
  ⟨request.subject, request.contentType, request.render files⟩

/-- Puts a message together from its parts. -/
def assemble [Template.Objects] (p : Partnership) (draft : Draft) (stamp : Stamp)
    : Except Failure Message := do
  let (url, receiver) ← route p
  -- the id is made before the body is looked at, so its error comes first
  let id ← newId p stamp
  let body ← draft.body
  return {
    contentType := draft.contentType
    subject := draft.subject
    partnership := p
    messageId := id
    attributes :=
      [(Key.url, some url), (Key.as2Id, some receiver), (Key.email, p.senderId? Key.email)]
    body := body }

/-- Whether making a message uses up the number of a stamp: it does once the partnership has what a
message needs. -/
def usesStamp (p : Partnership) : Bool := (route p).toOption.isSome

def attribute? (message : Message) (key : String) : Option String :=
  message.attributes.value? key

/-- The address to which the message is posted. -/
def destination? (message : Message) : Option String := message.attribute? Key.url

/-- The headers with which the message is posted. A receipt is asked for at once: it is requested
without an address to send it to. -/
def headers (message : Message) : List (String × String) :=
  let email := given? (message.attribute? Key.email)
  let always := [
    ("AS2-Version", "1.2"),
    ("AS2-From", (message.partnership.senderId? Key.as2Id).getD ""),
    ("AS2-To", (message.attribute? Key.as2Id).getD ""),
    ("Message-ID", "<" ++ message.messageId ++ ">"),
    ("Subject", message.subject),
    ("Content-Type", message.body.contentType),
    ("Content-Transfer-Encoding", message.body.transferEncoding),
    ("Mime-Version", "1.0")]
  let sender := match email with
    | some email => [("From", email)]
    | none => []
  let receipt := match given? (message.partnership.attribute? Key.receiptOptions) with
    | some options =>
      [("Disposition-Notification-To", email.getD "sync"),
       ("Disposition-Notification-Options", options)]
    | none => []
  always ++ sender ++ receipt

end Message

end As2Exchange
