import As2Exchange.Session
import As2Exchange.Network

/-!
# Senders

A sender transmits a message within a session. It may attach a receipt to the message before it
fails, so a delivery tells the message as the sender left it on every way out.

- `Shelf` is what a sender holds from one message to the next;
- `Delivery` is what a sender leaves behind;
- `Sender` is any way to transmit a message;
- `Sender.handle` asks a sender to perform an action by name.
-/

namespace As2Exchange

/-! ## What a sender holds -/

/-- The messages that a sender has been given, and the places of those that it has sent, in order. A
place stands for the message there: who changes that message changes it for all that hold the
place. -/
structure Shelf where
  messages : List Message := []
  sent : List Nat := []
  deriving DecidableEq, Repr

namespace Shelf

def message? (shelf : Shelf) (place : Nat) : Option Message := shelf.messages[place]?

/-- Takes a message in; it has the place behind all others. -/
def add (shelf : Shelf) (message : Message) : Shelf × Nat :=
  ({ shelf with messages := shelf.messages ++ [message] }, shelf.messages.length)

/-- Counts the message at a place as sent. -/
def keep (shelf : Shelf) (place : Nat) : Shelf := { shelf with sent := shelf.sent ++ [place] }

/-- Changes the message at a place. -/
def edit (shelf : Shelf) (place : Nat) (change : Message → Message) : Shelf :=
  { shelf with messages := shelf.messages.modify place change }

/-- The messages that were sent, as they are now. -/
def kept (shelf : Shelf) : List Message := shelf.sent.filterMap shelf.message?

end Shelf

/-! ## Senders -/

/-- What a sender leaves behind. -/
structure Delivery where
  /-- The message as the sender left it. -/
  message : Message
  session : Session
  network : Network
  posts : List Post := []
  /-- What the sender holds, if that has changed. -/
  shelf? : Option Shelf := none
  /-- Why the sender failed, if it did. -/
  failure : Option Failure := none

/-- A way to transmit a message in a session, over a network. -/
abbrev Sender := Message → Session → Network → Delivery

namespace Sender

def sendAction : String := "send"

/-- Asks a sender to perform an action. -/
def handle (sender : Sender) (action : String) : Sender := fun message session network =>
  if action = sendAction then sender message session network
  else { message, session, network, failure := some (.protocol (.action action)) }

/-- The message completed from the partnership that is known under its name. -/
def complete (message : Message) (session : Session) : Message × Session :=
  let (partnership, registry) := session.registry.complete message.partnership
  ({ message with partnership }, { session with registry })

end Sender

end As2Exchange
