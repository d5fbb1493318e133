import As2Exchange.Message
import As2Exchange.Response

/-!
# Collectors

A collector follows one send and gathers its outcome: how far it came, the message, the receipt and
the failure. A stretch of the send is tracked: whatever ends it, the receipt on the message is taken
over, and a failure is noted instead of passed on, unless it is a request to stop.

- `SendState` is how far a send has come;
- `Collector.leave` ends a tracked stretch, `Collector.collect` makes the response;
- `Collector.run` performs a list of steps, with tracked stretches nested to any depth.
-/

namespace As2Exchange

/-! ## States -/

/-- How far a send has come. -/
inductive SendState where
  | built
  | assembled
  | sessionReady
  | sent
  | failed
  | collected
  deriving DecidableEq, Repr

namespace SendState

def name : SendState → String
  | built => "built"
  | assembled => "assembled"
  | sessionReady => "session_ready"
  | sent => "sent"
  | failed => "failed"
  | collected => "collected"

def all : List SendState := [built, assembled, sessionReady, sent, failed, collected]

def ofName (name : String) : Except Failure SendState :=
  match all.find? fun state => state.name = name with
  | some state => .ok state
  | none => .error (.unknownState name)

end SendState

/-! ## Collectors -/

/-- The outcome of a send so far. -/
structure Collector where
  state : SendState := .built
  message : Option Message := none
  receipt : Option Receipt := none
  failure : Option Failure := none

namespace Collector

/-- Notes that the send has come to a state. -/
def advance (c : Collector) (state : SendState) : Collector := { c with state }

/-- Takes over the receipt that the message carries. -/
def takeReceipt (c : Collector) : Collector :=
  match c.message.bind (·.receipt) with
  | some receipt => { c with receipt := some receipt }
  | none => c

/-- Notes the failure that ended a tracked stretch; a request to stop is not noted. -/
def note (c : Collector) : Option Failure → Collector
  | none => c
  | some failure =>
    if failure.isInterrupt then c else { c with failure := some failure, state := .failed }

/-- Ends a tracked stretch, which a failure may have ended. What passes on is a request to stop. -/
def leave (c : Collector) (failure : Option Failure) : Collector × Option Failure :=
  ((c.note failure).takeReceipt, failure.filter (·.isInterrupt))

def collect (c : Collector) : Response × Collector :=
  (⟨(c.message.map (·.messageId)).getD "", c.receipt, c.failure⟩, c.advance .collected)

/-! ## Runs -/

/-- What a caller can do with a collector. -/
inductive Step where
  | advance (state : Except Failure SendState)
  | setMessage (message : Option Message)
  /-- Puts a receipt on the message or takes it off; nothing happens without a message. -/
  | setReceipt (receipt : Option Receipt)
  | raise (failure : Failure)
  /-- A tracked stretch; what passes on is met by the caller, who goes on with the next step. -/
  | track (steps : List Step)
  /-- A tracked stretch; what passes on ends the steps around it as well. -/
  | enclose (steps : List Step)
  | collect

/-- What a step gives to its caller. -/
inductive StepResult where
  | nothing
  | response (response : Response)
  | failure (failure : Failure)

mutual

/-- Performs one step: the collectors after the step and the steps within it, each with what the
step gave; the collector at the end; and the failure that passes on. -/
def perform (c : Collector) : Step →
    List (Collector × StepResult) × Collector × Option Failure
  | .advance (.ok state) =>
    let c := c.advance state
    ([(c, .nothing)], c, none)
  | .advance (.error failure) => ([(c, .failure failure)], c, none)
  | .setMessage message =>
    let c := { c with message }
    ([(c, .nothing)], c, none)
  | .setReceipt receipt =>
    let c := { c with message := c.message.map fun message => { message with receipt } }
    ([(c, .nothing)], c, none)
  | .raise failure => ([], c, some failure)
  | .track steps =>
    let (inner, c, failure) := run c steps
    -- the stretch ends with the receipt taken over, however its steps ended
    let (c, passed) := c.leave failure
    let result := match passed with
      | some failure => StepResult.failure failure
      | none => .nothing
    (inner ++ [(c, result)], c, none)
  | .enclose steps =>
    let (inner, c, failure) := run c steps
    let (c, passed) := c.leave failure
    match passed with
    | some failure => (inner, c, some failure)
    | none => (inner ++ [(c, .nothing)], c, none)
  | .collect =>
    let (response, c) := c.collect
    ([(c, .response response)], c, none)

/-- Performs steps until one of them raises a failure. -/
def run (c : Collector) : List Step → List (Collector × StepResult) × Collector × Option Failure
  | [] => ([], c, none)
  | step :: rest =>
    match perform c step with
    | (taken, c, some failure) => (taken, c, some failure)
    | (taken, c, none) =>
      let (more, c, failure) := run c rest
      (taken ++ more, c, failure)

end

end Collector

end As2Exchange
