import As2Exchange.Proofs.Send.Steps

/-!
# What a collector tells

A collector keeps no record of its steps: it holds the message, and the receipt and the failure that
it met last. Here the steps get such a record, their events in order, and what a response tells is
read off the record.

- `Collector.course` lists the events of steps, and tells which failure the steps end with;
- `Collector.response` is what the events before a collection call for;
- `Collector.Follows` is the invariant: the fields of the collector are what the events say;
- `Collector.run_tells` says that every response of a run is the one its events call for.
-/

namespace As2Exchange

namespace Collector

/-! ## Events -/

/-- What happens in the course of steps, as far as a response may tell of it. -/
inductive Event where
  | message (message : Option Message)
  | receipt (receipt : Option Receipt)
  /-- A tracked stretch ends; a failure may have ended its steps. -/
  | exit (failure : Option Failure)
  | collect

/-- Whether the response is asked for. -/
def Event.isCollect : Event → Bool
  | collect => true
  | _ => false

/-- The failure that ended the steps of a tracked stretch, unless it is a request to stop. -/
def Event.caught? : Event → Option Failure
  | exit failure => failure.filter fun failure => !failure.isInterrupt
  | _ => none

mutual

/-- The events of a step, and the failure that ends the steps around it. -/
def Step.course : Step → List Event × Option Failure
  | .advance _ => ([], none)
  | .setMessage message => ([.message message], none)
  | .setReceipt receipt => ([.receipt receipt], none)
  | .raise failure => ([], some failure)
  | .track steps => ((course steps).1 ++ [.exit (course steps).2], none)
  | .enclose steps =>
    ((course steps).1 ++ [.exit (course steps).2], (course steps).2.filter (·.isInterrupt))
  | .collect => ([.collect], none)

/-- The events of steps until one of them raises a failure. -/
def course : List Step → List Event × Option Failure
  | [] => ([], none)
  | step :: rest =>
    match step.course with
    | (events, some failure) => (events, some failure)
    | (events, none) => (events ++ (course rest).1, (course rest).2)

end

/-! ## What events say -/

/-- The message that stands after events. -/
def standing (message : Option Message) : List Event → Option Message
  | [] => message
  | .message message :: rest => standing message rest
  | .receipt receipt :: rest => standing (message.map ({ · with receipt })) rest
  | .exit _ :: rest | .collect :: rest => standing message rest

/-- The receipts that the standing message carried when a tracked stretch ended, in order. -/
def carried (message : Option Message) : List Event → List Receipt
  | [] => []
  | .message message :: rest => carried message rest
  | .receipt receipt :: rest => carried (message.map ({ · with receipt })) rest
  | .exit _ :: rest => (message.bind (·.receipt)).toList ++ carried message rest
  | .collect :: rest => carried message rest

/-- The failures that ended the steps of tracked stretches, in order. -/
def caught (events : List Event) : List Failure := events.filterMap Event.caught?

/-- The response that the events before a collection call for: the id of the message that stands,
and the last receipt and the last failure. -/
def response (events : List Event) : Response where
  originalMessageId := ((standing none events).map (·.messageId)).getD ""
  receipt := (carried none events).getLast?
  failure := (caught events).getLast?

/-- The responses that events call for, one for each collection. -/
def responses (before : List Event) : List Event → List Response
  | [] => []
  | event :: rest =>
    (if event.isCollect then [response before] else []) ++ responses (before ++ [event]) rest

theorem standing_append (message : Option Message) (events more : List Event) :
    standing message (events ++ more) = standing (standing message events) more := by
  induction events generalizing message with
  | nil => rfl
  | cons event rest ih => cases event <;> exact ih _

theorem carried_append (message : Option Message) (events more : List Event) :
    carried message (events ++ more) =
      carried message events ++ carried (standing message events) more := by
  induction events generalizing message with
  | nil => rfl
  | cons event rest ih =>
    cases event with
    | message _ => exact ih _
    | receipt _ => exact ih _
    -- only the end of a stretch looks at the message that stands
    | exit _ => simp [carried, standing, ih]
    | collect => exact ih _

theorem caught_append (events more : List Event) :
    caught (events ++ more) = caught events ++ caught more :=
  List.filterMap_append

theorem responses_append (before events more : List Event) :
    responses before (events ++ more) =
      responses before events ++ responses (before ++ events) more := by
  induction events generalizing before with
  | nil => simp [responses]
  | cons event rest ih => simp [responses, ih]

theorem length_responses (before events : List Event) :
    (responses before events).length = events.countP Event.isCollect := by
  induction events generalizing before with
  | nil => rfl
  | cons event rest ih =>
    rw [responses, List.length_append, ih, List.countP_cons, Nat.add_comm]
    split <;> rfl

/-- The response at a place is called for by the events before that place. -/
theorem getElem?_responses (before events more : List Event) :
    (responses before (events ++ .collect :: more))[events.countP Event.isCollect]? =
      some (response (before ++ events)) := by
  -- the responses before the collection are counted off, and the next one is the one it calls for
  rw [responses_append, ← length_responses before events,
    List.getElem?_append_right (Nat.le_refl _)]
  simp [responses, Event.isCollect]

/-! ## The invariant -/

/-- The fields of a collector are what the events so far say. -/
structure Follows (c : Collector) (events : List Event) : Prop where
  message : c.message = standing none events
  receipt : c.receipt = (carried none events).getLast?
  failure : c.failure = (caught events).getLast?

theorem getLast?_toList {α : Type} (o : Option α) : o.toList.getLast? = o := by
  cases o <;> rfl

theorem note_message (c : Collector) (failure : Option Failure) :
    (c.note failure).message = c.message := by
  unfold note
  split
  · rfl
  · split <;> rfl

theorem note_receipt (c : Collector) (failure : Option Failure) :
    (c.note failure).receipt = c.receipt := by
  unfold note
  split
  · rfl
  · split <;> rfl

theorem leave_message (c : Collector) (failure : Option Failure) :
    (c.leave failure).1.message = c.message := by
  rw [leave, takeReceipt_message, note_message]

/-- A tracked stretch ends with the receipt of the message, or the one of before. -/
theorem leave_receipt (c : Collector) (failure : Option Failure) :
    (c.leave failure).1.receipt = (c.message.bind (·.receipt)).or c.receipt := by
  rw [leave, takeReceipt_receipt, note_message, note_receipt]

/-- A tracked stretch ends with the failure that ended its steps, or the one of before. -/
theorem leave_failure (c : Collector) (failure : Option Failure) :
    (c.leave failure).1.failure = (Event.exit failure).caught?.or c.failure := by
  rw [leave, takeReceipt_failure]
  cases failure with
  | none => rfl
  -- a request to stop is let through without a note
  | some failure => cases h : failure.isInterrupt <;> simp [note, Event.caught?, h, Option.filter]

namespace Follows

variable {c : Collector} {events : List Event}

theorem empty : Follows {} [] := ⟨rfl, rfl, rfl⟩

theorem append_nil (h : c.Follows events) : c.Follows (events ++ []) := by
  rwa [List.append_nil]

theorem advance (h : c.Follows events) (state : SendState) : (c.advance state).Follows events :=
  ⟨h.message, h.receipt, h.failure⟩

theorem setMessage (h : c.Follows events) (message : Option Message) :
    Follows { c with message } (events ++ [.message message]) where
  message := by rw [standing_append]; rfl
  receipt := by simpa [carried_append, carried] using h.receipt
  failure := by simpa [caught_append, caught, Event.caught?] using h.failure

theorem setReceipt (h : c.Follows events) (receipt : Option Receipt) :
    Follows { c with message := c.message.map ({ · with receipt }) }
      (events ++ [.receipt receipt]) where
  message := by rw [standing_append, ← h.message]; rfl
  receipt := by simpa [carried_append, carried] using h.receipt
  failure := by simpa [caught_append, caught, Event.caught?] using h.failure

theorem collect (h : c.Follows events) : c.collect.2.Follows (events ++ [.collect]) where
  message := by
    rw [standing_append]
    exact h.message
  receipt := by
    have hcollected : c.collect.2.receipt = c.receipt := rfl
    simpa [carried_append, carried, hcollected] using h.receipt
  failure := by
    have hcollected : c.collect.2.failure = c.failure := rfl
    simpa [caught_append, caught, Event.caught?, hcollected] using h.failure

theorem leave (h : c.Follows events) (failure : Option Failure) :
    (c.leave failure).1.Follows (events ++ [.exit failure]) where
  message := by
    rw [leave_message, standing_append]
    exact h.message
  receipt := by
    -- a message without a receipt leaves the one of before
    rw [leave_receipt, carried_append, List.getLast?_append, h.receipt, ← h.message]
    simp [carried, getLast?_toList]
  failure := by
    rw [leave_failure, caught_append, List.getLast?_append, h.failure]
    cases hcaught : (Event.exit failure).caught? <;> simp [caught, hcaught]

/-- The response of a collector is the one that the events so far call for. -/
theorem response_eq (h : c.Follows events) : c.collect.1 = response events := by
  simp [Collector.collect, response, h.message, h.receipt, h.failure]

end Follows

/-! ## Runs -/

def responseOf? : StepResult → Option Response
  | .response response => some response
  | _ => none

/-- The responses that steps gave, in order. -/
def answers (taken : List (Collector × StepResult)) : List Response :=
  taken.filterMap fun shot => responseOf? shot.2

/-- What steps did to a collector is what their events say. -/
structure Traced (before : List Event)
    (outcome : List (Collector × StepResult) × Collector × Option Failure)
    (course : List Event × Option Failure) : Prop where
  follows : outcome.2.1.Follows (before ++ course.1)
  failure : outcome.2.2 = course.2
  answers : answers outcome.1 = responses before course.1

/-- The collector at the end of a tracked stretch of steps. -/
def exited (c : Collector) (steps : List Step) : Collector :=
  ((run c steps).2.1.leave (run c steps).2.2).1

/-- However the steps of a tracked stretch end, the collector is left in the same way; only a
request to stop passes on. -/
theorem perform_enclose (c : Collector) (steps : List Step) :
    perform c (.enclose steps) =
      match (run c steps).2.2.filter (·.isInterrupt) with
      | some failure => ((run c steps).1, exited c steps, some failure)
      | none => ((run c steps).1 ++ [(exited c steps, .nothing)], exited c steps, none) := by
  rw [perform, exited]
  -- the run is left unevaluated: only how it ends matters
  rcases run c steps with ⟨inner, c, failure⟩
  rfl

/-- What passes on from a tracked stretch is met by the caller, who goes on. -/
theorem perform_track (c : Collector) (steps : List Step) :
    perform c (.track steps) =
      match (run c steps).2.2.filter (·.isInterrupt) with
      | some failure =>
        ((run c steps).1 ++ [(exited c steps, .failure failure)], exited c steps, none)
      | none => ((run c steps).1 ++ [(exited c steps, .nothing)], exited c steps, none) := by
  rw [perform, exited]
  rcases run c steps with ⟨inner, c, failure⟩
  show (inner ++ [(_, match failure.filter (·.isInterrupt) with
    | some failure => StepResult.failure failure
    | none => .nothing)], _, none) = _
  cases failure.filter (·.isInterrupt) <;> rfl

theorem answers_append_silent {taken : List (Collector × StepResult)} {c : Collector}
    {result : StepResult} (h : responseOf? result = none) :
    answers (taken ++ [(c, result)]) = answers taken := by
  simp [answers, h]

namespace Traced

variable {c : Collector} {before : List Event}

theorem exited {steps : List Step} (h : Traced before (run c steps) (course steps)) :
    (exited c steps).Follows (before ++ ((course steps).1 ++ [.exit (course steps).2])) := by
  rw [Collector.exited, h.failure, ← List.append_assoc]
  exact h.follows.leave _

/-- The end of a tracked stretch calls for no response. -/
theorem answers_exit {steps : List Step} (h : Traced before (run c steps) (course steps)) :
    Collector.answers (run c steps).1 =
      responses before ((course steps).1 ++ [.exit (course steps).2]) := by
  rw [h.answers, responses_append]
  exact (List.append_nil _).symm

theorem enclose {steps : List Step} (h : Traced before (run c steps) (course steps)) :
    Traced before (perform c (.enclose steps)) (Step.enclose steps).course where
  follows := by
    rw [perform_enclose]
    -- how the stretch ends decides what is shown, not what is left
    cases (run c steps).2.2.filter (·.isInterrupt) with
    | none => exact h.exited
    | some failure => exact h.exited
  failure := by
    rw [perform_enclose, Step.course, ← h.failure]
    cases (run c steps).2.2.filter (·.isInterrupt) with
    | none => rfl
    | some failure => rfl
  answers := by
    rw [perform_enclose]
    cases (run c steps).2.2.filter (·.isInterrupt) with
    | none => exact (answers_append_silent rfl).trans h.answers_exit
    | some failure => exact h.answers_exit

theorem track {steps : List Step} (h : Traced before (run c steps) (course steps)) :
    Traced before (perform c (.track steps)) (Step.track steps).course := by
  rw [perform_track]
  cases (run c steps).2.2.filter (·.isInterrupt) with
  | none => exact ⟨h.exited, rfl, (answers_append_silent rfl).trans h.answers_exit⟩
  | some failure => exact ⟨h.exited, rfl, (answers_append_silent rfl).trans h.answers_exit⟩

theorem cons {step : Step} {rest : List Step} (h : Traced before (perform c step) step.course)
    (hrest : ∀ {c : Collector} {before : List Event}, c.Follows before →
      Traced before (run c rest) (course rest)) :
    Traced before (run c (step :: rest)) (course (step :: rest)) := by
  rw [run, course]
  generalize perform c step = outcome at h ⊢
  generalize step.course = stepCourse at h ⊢
  obtain ⟨taken, c', failure⟩ := outcome
  obtain ⟨events, failure'⟩ := stepCourse
  obtain ⟨hfollows, rfl, hanswers⟩ := h
  cases failure with
  | some failure =>
    -- the rest is not performed, and has no events
    exact ⟨hfollows, rfl, hanswers⟩
  | none =>
    -- the rest starts from what the step has left, and from its events
    have hmore := hrest hfollows
    refine ⟨?_, hmore.failure, ?_⟩
    · rw [← List.append_assoc]
      exact hmore.follows
    · rw [responses_append, ← hanswers, ← hmore.answers]
      exact List.filterMap_append

end Traced

-- The recursion is on the nesting of stretches and, within a stretch, on its steps.
mutual

-- Each step has its lemma above; the two kinds of stretches hand over to their steps.
/-- Each step keeps the invariant. -/
theorem perform_traced (step : Step) {c : Collector} {before : List Event}
    (h : c.Follows before) : Traced before (perform c step) step.course := by
  cases step with
  | advance state =>
    cases state with
    | ok state => exact ⟨(h.advance state).append_nil, rfl, rfl⟩
    | error failure => exact ⟨h.append_nil, rfl, rfl⟩
  | setMessage message => exact ⟨h.setMessage message, rfl, rfl⟩
  | setReceipt receipt => exact ⟨h.setReceipt receipt, rfl, rfl⟩
  | raise failure => exact ⟨h.append_nil, rfl, rfl⟩
  | track steps => exact (run_traced steps h).track
  | enclose steps => exact (run_traced steps h).enclose
  | collect => exact ⟨h.collect, rfl, congrArg (fun response => [response]) h.response_eq⟩

/-- Steps keep the invariant, however deep their tracked stretches are nested. -/
theorem run_traced (steps : List Step) {c : Collector} {before : List Event}
    (h : c.Follows before) : Traced before (run c steps) (course steps) := by
  cases steps with
  | nil => exact ⟨h.append_nil, rfl, rfl⟩
  | cons step rest => exact (perform_traced step h).cons (run_traced rest)

end

/-! ## What is let out -/

/-- A tracked stretch lets out just the request to stop that ended its steps. -/
theorem perform_enclose_eq_some {c : Collector} {steps : List Step} {failure : Failure} :
    (perform c (.enclose steps)).2.2 = some failure ↔
      (run c steps).2.2 = some failure ∧ failure.isInterrupt = true := by
  rw [← Option.filter_eq_some_iff, perform_enclose]
  cases (run c steps).2.2.filter (·.isInterrupt) <;> simp

/-- The caller of a tracked stretch meets just the request to stop that ended its steps. -/
theorem perform_track_meets {c : Collector} {steps : List Step} {failure : Failure} :
    (∃ c', (perform c (.track steps)).1.getLast? = some (c', .failure failure)) ↔
      (run c steps).2.2 = some failure ∧ failure.isInterrupt = true := by
  rw [← Option.filter_eq_some_iff, perform_track]
  cases (run c steps).2.2.filter (·.isInterrupt) <;> simp

/-! ## What responses tell -/

/-- **Every response tells what came last.** A run collects as often as its events say, and each
response has the id of the message that stands then, the receipt that the standing message carried
at the latest end of a tracked stretch where it carried one, and the latest failure that ended the
steps of a tracked stretch. A tracked stretch lets out no failure but a request to stop, and always
lets out that, whatever the collector and the steps. -/
theorem run_tells (steps : List Step) :
    (run {} steps).2.2 = (course steps).2 ∧
    (answers (run {} steps).1).length = (course steps).1.countP Event.isCollect ∧
    (∀ before after, (course steps).1 = before ++ .collect :: after →
      (answers (run {} steps).1)[before.countP Event.isCollect]? =
        some ⟨((standing none before).map (·.messageId)).getD "", (carried none before).getLast?,
          (caught before).getLast?⟩) ∧
    ∀ (c : Collector) (body : List Step) (failure : Failure),
      ((perform c (.enclose body)).2.2 = some failure ↔
        (run c body).2.2 = some failure ∧ failure.isInterrupt = true) ∧
      ((∃ c', (perform c (.track body)).1.getLast? = some (c', .failure failure)) ↔
        (run c body).2.2 = some failure ∧ failure.isInterrupt = true) := by
  -- the invariant of the whole run, from a collector that nothing was done to
  have htraced := run_traced steps Follows.empty
  refine ⟨htraced.failure, ?_, ?_, fun c body failure => ?_⟩
  -- a response for each collection
  · rw [htraced.answers]
    exact length_responses [] _
  · intro before after hevents
    rw [htraced.answers, hevents]
    exact getElem?_responses [] before after
  · exact ⟨perform_enclose_eq_some, perform_track_meets⟩

/-! ## A request to stop within two stretches -/

namespace Stopped

def processed : Receipt where
  disposition := some "automatic-action/MDN-sent-automatically; processed"

def order : Message where
  contentType := defaultContentType
  subject := "Order 1"
  partnership := ⟨"ME-THEM", [(Key.as2Id, some "ME")], [(Key.as2Id, some "THEM")], []⟩
  messageId := "1@ME"
  body := ⟨defaultContentType, "binary", []⟩

def refusal : Failure := .foreign ⟨.ordinary, "ValueError", some "refused"⟩

def stop : Failure := .foreign ⟨.interrupt, "KeyboardInterrupt", none⟩

/-- The inner stretch catches a failure and keeps the receipt, which the message then loses; a
request to stop leaves two stretches. -/
def steps : List Step :=
  [.setMessage (some order),
    .track [
      .enclose [.setReceipt (some processed), .raise refusal],
      .collect,
      .setReceipt none,
      .enclose [.raise stop],
      .collect],
    .setMessage none,
    .collect]

end Stopped

open Stopped

/-- The request to stop passes through, and changes nothing of what was noted. -/
theorem run_tells_stopped :
    (answers (run {} steps).1).length = 2 ∧
    (answers (run {} steps).1)[0]? = some ⟨"1@ME", some processed, some refusal⟩ ∧
    (answers (run {} steps).1)[1]? = some ⟨"", some processed, some refusal⟩ ∧
    (perform {} (.enclose [.enclose [.raise stop]])).2.2 = some stop := by
  obtain ⟨-, hlength, hcollect, htrack⟩ := run_tells steps
  let inner : List Event :=
    [.message (some order), .receipt (some processed), .exit (some refusal)]
  let outer : List Event := [.receipt none, .exit (some stop), .exit (some stop), .message none]
  have hinner : (perform {} (.enclose [.raise stop])).2.2 = some stop :=
    (htrack {} [.raise stop] stop).1.2 ⟨rfl, rfl⟩
  exact ⟨hlength, hcollect inner (outer ++ [.collect]) rfl,
    hcollect (inner ++ .collect :: outer) [] rfl,
    (htrack {} [.enclose [.raise stop]] stop).1.2 ⟨hinner, rfl⟩⟩

end Collector

end As2Exchange
