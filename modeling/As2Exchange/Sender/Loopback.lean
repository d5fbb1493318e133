import As2Exchange.Sender.Basic

/-!
# The loopback sender

Keeps each message and answers it with a receipt of success, without posting anything.
-/

namespace As2Exchange.Sender

/-- The disposition of a message that was processed. -/
def processedDisposition : String := "automatic-action/MDN-sent-automatically; processed"

def processedReceipt (messageId : String) : Receipt :=
  { text := "processed", disposition := some processedDisposition
    originalMessageId := some messageId }

/-- The sender that keeps messages, with those that it holds already. -/
def loopback (shelf : Shelf) : Sender := fun message session network =>
  let (message, session) := complete message session
  let (shelf, place) := shelf.add message
  let shelf := shelf.keep place
  -- the message is answered where it lies: it has been kept without its receipt
  let shelf := shelf.edit place fun message =>
    { message with receipt := some (processedReceipt message.messageId) }
  { message := (shelf.message? place).getD message, session, network, shelf? := some shelf }

end As2Exchange.Sender
