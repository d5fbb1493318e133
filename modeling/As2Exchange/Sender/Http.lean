import As2Exchange.Sender.Basic
import As2Exchange.Receipt.Report

/-!
# The HTTP sender

Posts the body of a message to the address of the partner and reads the receipt from the answer.

1. The message must have a destination.
2. Its partnership is completed from the known ones.
3. The keys for signing and for encryption must be in the key store.
4. The digest of the posted bytes is taken.
5. The message is posted; a failure or a status of failure ends the sending.
6. The receipt in the answer is attached to the message and compared with what was sent.
-/

namespace As2Exchange.Sender

/-! ## Before the post -/

/-- The digest of messages whose partnership names none. -/
def defaultDigest : String := "sha-256"

/-- Looks up the keys that the partnership asks for. A partner without an alias has the empty
alias. -/
def requireKeys (p : Partnership) (store : KeyStore) : Except CredentialError Unit := do
  if (Message.given? (p.attribute? Key.sign)).isSome then
    let _ ← store.privateKey ((p.senderId? Key.keyAlias).getD "")
  if (Message.given? (p.attribute? Key.encrypt)).isSome then
    let _ ← store.certificate ((p.receiverId? Key.keyAlias).getD "")

/-- The digest under which a message is sent, with the name of its algorithm. -/
def sentDigest (message : Message) : Except Failure String :=
  message.body.integrityCheck
    ((Message.given? (message.partnership.attribute? Key.sign)).getD defaultDigest)

def postOf (message : Message) (url : String) (timeout : Double) : Post :=
  ⟨url, message.body.transmitted, message.headers, timeout⟩

/-! ## After the post -/

/-- A digest without the name of its algorithm, which partners spell in different ways. -/
def bareDigest (text : String) : String :=
  Text.strip (String.ofList (text.toList.takeWhile (· ≠ ',')))

def verdict (receipt : Receipt) (messageId sent : String) : Option TransmissionError :=
  if receipt.isError then some (.errorDisposition (receipt.disposition.getD ""))
  else
    match Message.given? receipt.originalMessageId with
    | some reported =>
      if reported ≠ messageId then some (.otherMessage reported messageId)
      else digestVerdict
    | none => digestVerdict
where
  /-- Compares the digest of what was received with that of what was sent. -/
  digestVerdict : Option TransmissionError :=
    match Message.given? receipt.receivedDigest with
    | some received =>
      if bareDigest received ≠ bareDigest sent then some (.digestMismatch messageId sent received)
      else none
    | none => none

/-- What becomes of a message whose post is answered. -/
def receive [Codecs] [Mime.Nesting] (message : Message) (sent : String) (answer : Answer)
    : Message × Option Failure :=
  match Report.read? (answer.header? "Content-Type") answer.body with
  | .error failure => (message, some failure)
  -- an empty answer takes an earlier receipt off the message
  | .ok none => ({ message with receipt := none }, none)
  | .ok (some receipt) =>
    ({ message with receipt := some receipt },
      (verdict receipt message.messageId sent).map Failure.transmission)

/-- How a failure of the transport is reported; other failures pass as they are. -/
def postFailure (messageId : String) (cause : Foreign) : Failure :=
  if cause.family = .transport then .transmission (.post messageId (.transport cause))
  else .foreign cause

/-! ## The sender -/

/-- What must hold before a message is posted: the keys are there and the digest is known. The
result is the digest. -/
def prepare (message : Message) (session : Session) : Except Failure String :=
  match requireKeys message.partnership session.keyStore with
  | .error cause => .error (.transmission (.credential cause))
  | .ok () => sentDigest message

/-- Posts a message and takes in the reply. -/
def exchange [Codecs] [Mime.Nesting] (timeout : Double) (url sent : String) : Sender :=
  fun message session network =>
    let (reply, network) := network.next
    let posts := [postOf message url timeout]
    match reply with
    | .failure cause =>
      { message, session, network, posts, failure := some (postFailure message.messageId cause) }
    | .answer answer =>
      match answer.failure? url with
      -- the body of an answer with a status of failure is not read
      | some error =>
        { message, session, network, posts
          failure := some (.transmission (.post message.messageId error)) }
      | none =>
        let (message, failure) := receive message sent answer
        { message, session, network, posts, failure }

/-- The sender that posts messages. -/
def http [Codecs] [Mime.Nesting] (timeout : Double) : Sender := fun message session network =>
  match Message.given? message.destination? with
  | none =>
    { message, session, network
      failure := some (.transmission (.noDestination message.messageId)) }
  | some url =>
    -- the destination is looked up before the partnership is completed
    let (message, session) := complete message session
    match prepare message session with
    | .error failure => { message, session, network, failure := some failure }
    | .ok sent => exchange timeout url sent message session network

/-- The seconds to wait for an answer where nothing is said. -/
def defaultTimeout : Double := (Double.ofInt? 60).getD (Double.zero false)

end As2Exchange.Sender
