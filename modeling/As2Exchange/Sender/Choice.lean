import As2Exchange.Config
import As2Exchange.Sender.Http
import As2Exchange.Sender.Loopback

/-!
# Choice of the sender

The sender is chosen by name: by the caller, else by the environment, else by the configuration.
-/

namespace As2Exchange

/-- The senders that can be chosen. -/
inductive Backend where
  | http (timeout : Double)
  | loopback
  deriving DecidableEq, Repr

namespace Backend

/-- The environment variable that names a sender. -/
def nameVariable : String := "AS2CLIENT_SENDER"

/-- The name by which the sender is chosen. -/
def nameOf (surroundings : Surroundings) (name? : Option String) (config : Config) : String :=
  let asked := (Message.given? name?).orElse fun _ =>
    Message.given? (surroundings.lookup? nameVariable)
  Text.lower (asked.getD config.sender.backend)

/-- Chooses a sender. Without a configuration the configuration file is read. -/
def choose (surroundings : Surroundings) (name? : Option String) (config? : Option Config) :
    Except Failure Backend := do
  let config ← match config? with
    | some config => pure config
    | none => Config.load surroundings none
  let name := nameOf surroundings name? config
  if name = "http" then return .http config.sender.timeout
  else if name = "loopback" then return .loopback
  else .error (.unknownBackend name)

/-- The sender as it is made for one run. -/
def sender [Codecs] [Mime.Nesting] : Backend → Sender
  | http timeout => Sender.http timeout
  | loopback => Sender.loopback {}

end Backend

end As2Exchange
