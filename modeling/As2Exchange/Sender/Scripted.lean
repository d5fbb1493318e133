import As2Exchange.Sender.Basic

/-!
# Scripted senders

A sender that does what it is told: it may attach a receipt, change the partnership of the message,
and fail.
-/

namespace As2Exchange.Sender

/-- What a scripted sender does with each message. -/
structure Script where
  /-- The receipt to put on the message, or its removal. -/
  receipt : Option (Option Receipt) := none
  /-- The entries to set in the partnership of the message. -/
  changes : List (Partnership.Section × String × Option String) := []
  failure : Option Failure := none

/-- The message after what the script does with it. -/
def Script.apply (script : Script) (message : Message) : Message :=
  let partnership := script.changes.foldl
    (fun p change => p.set change.1 change.2.1 change.2.2) message.partnership
  { message with partnership, receipt := script.receipt.getD message.receipt }

def scripted (script : Script) : Sender := fun message session network =>
  { message := script.apply message, session, network, failure := script.failure }

end As2Exchange.Sender
