import As2Exchange.Send.Collector
import As2Exchange.Sender.Basic

/-!
# Sends

One send takes a request to the partner of the settings: the partnership is derived, the message is
assembled, a session is opened, and a sender transmits the message. Exactly one attempt is made.
Failures are part of the response; only a request to stop passes on.

- `Supply` is what sends use up: the numbers for message ids and the replies of the network;
- `send` performs one send, `sendAll` several of them in a row.
-/

namespace As2Exchange

/-- What sends use up. -/
structure Supply where
  /-- The number for the next message id. -/
  unique : Nat
  network : Network := []

/-- The numbers for message ids start over at this one. -/
def uniqueLimit : Nat := Nat.pow 2 128

namespace Supply

/-- The stamp for the next message id. -/
def stamp (supply : Supply) (moment : Moment) : Stamp := ⟨moment, supply.unique % uniqueLimit⟩

/-- The supply after a message of a partnership has been assembled, or has failed to be. -/
def afterAssembly (supply : Supply) (p : Partnership) : Supply :=
  if Message.usesStamp p then { supply with unique := (supply.unique + 1) % uniqueLimit }
  else supply

end Supply

/-- What a send is asked to do. -/
structure Order where
  settings : Settings
  draft : Message.Draft
  /-- Why the partnerships of the session cannot be set up, if they cannot. -/
  partnershipsFail : Option Foreign := none

structure Outcome where
  /-- The response, or the request to stop that passed through the send. -/
  response : Except Failure Response
  posts : List Post := []
  /-- What the sender holds, if the send has changed that. -/
  shelf? : Option Shelf := none
  /-- Whether the sender was asked to transmit a message. -/
  reachedSender : Bool := false
  supply : Supply

namespace Outcome

/-- The messages that the sender keeps, if the send has changed them. -/
def kept (outcome : Outcome) : List Message := (outcome.shelf?.getD {}).kept

/-- The outcome of a send that a failure ended before the sender was reached. -/
def early (c : Collector) (failure : Failure) (supply : Supply) : Outcome :=
  let (c, passed) := c.leave (some failure)
  { response := match passed with
      | some failure => .error failure
      | none => .ok c.collect.1
    supply }

/-- The outcome of a send after the sender is done. -/
def late (c : Collector) (failure : Option Failure) (delivery : Delivery) (supply : Supply) :
    Outcome :=
  let (c, passed) := c.leave failure
  { response := match passed with
      | some failure => .error failure
      | none => .ok c.collect.1
    posts := delivery.posts
    shelf? := delivery.shelf?
    reachedSender := true
    supply := { supply with network := delivery.network } }

end Outcome

/-- How a failure of a sender is reported: failures of the exchange and requests to stop pass as
they are, all others as failures of the transmission. -/
def transmissionFailure (messageId : String) (failure : Failure) : Failure :=
  match failure.family with
  | .exchange | .interrupt => failure
  | .transport | .ordinary => .sender messageId failure

def transmit (c : Collector) (sender : Sender) (message : Message) (session : Session)
    (supply : Supply) : Outcome :=
  let delivery := sender.handle Sender.sendAction message session supply.network
  let c := { c with message := some delivery.message }
  match delivery.failure with
  | none => .late (c.advance .sent) none delivery supply
  | some failure =>
    .late c (some (transmissionFailure delivery.message.messageId failure)) delivery supply

def send [Template.Objects] (surroundings : Surroundings) (sender : Sender) (order : Order)
    (supply : Supply) : Outcome :=
  let c : Collector := {}
  match order.settings.partnership with
  | .error failure => .early c failure supply
  | .ok partnership =>
    let stamp := supply.stamp surroundings.clock
    -- the number is used up whether or not the assembly succeeds
    let supply := supply.afterAssembly partnership
    match Message.assemble partnership order.draft stamp with
    | .error failure => .early c failure supply
    | .ok message =>
      -- from here on every outcome tells the id of the message
      let c := { c with message := some message }.advance .assembled
      match Session.start surroundings order.settings order.partnershipsFail with
      | .error failure => .early c failure supply
      | .ok session => transmit (c.advance .sessionReady) sender message session supply

/-- Performs sends in a row through one sender, each with what the ones before have left: the
messages that the sender holds, and the supply. -/
def sendAll [Template.Objects] (surroundings : Surroundings) (sender : Shelf → Sender) :
    List Order → Shelf → Supply → List Outcome
  | [], _, _ => []
  | order :: rest, shelf, supply =>
    let outcome := send surroundings (sender shelf) order supply
    outcome :: sendAll surroundings sender rest (outcome.shelf?.getD shelf) outcome.supply

/-- What a sender holds after several sends. -/
def Shelf.after (shelf : Shelf) (outcomes : List Outcome) : Shelf :=
  outcomes.foldl (fun shelf outcome => outcome.shelf?.getD shelf) shelf

end As2Exchange
