import As2Exchange.Proofs.Send.Tracking
import Mathlib.Data.List.Chain

/-!
# How far a collector comes

The state of a collector is meant to go on from built to assembled, session ready, sent and
collected, or off this way to failed. A collector does not see to this: it goes wherever it is told
to advance. All that it does by itself keeps to the way, so a run keeps to it just if its callers
advance onward. A send does.

- `SendState.Onward` are the moves along the way;
- `Collector.operations` lists the operations of steps, and `Operation.effect` says what each does;
- `Collector.Keeps` says that an operation keeps to the way;
- `Collector.run_keeps_order` is the result on all runs, and on all sends.
-/

namespace As2Exchange

/-! ## The way of a send -/

namespace SendState

/-- The place of a state on the way of a send. Failure lies off the way. -/
def place? : SendState → Option Nat
  | built => some 0
  | assembled => some 1
  | sessionReady => some 2
  | sent => some 3
  | collected => some 4
  | failed => none

/-- A move on along the way, or off it to failure. -/
inductive Onward : SendState → SendState → Prop where
  | along {state next : SendState} {i j : Nat} (hstate : state.place? = some i)
      (hnext : next.place? = some j) (h : i ≤ j) : Onward state next
  | fail (state : SendState) : Onward state failed

theorem Onward.refl (state : SendState) : state.Onward state := by
  cases hplace : state.place? with
  | some i => exact .along hplace hplace (Nat.le_refl i)
  | none =>
    -- only failure has no place on the way
    cases state <;> first | exact .fail _ | cases hplace

/-- Every state on the way may go on to the last one. -/
theorem onward_collected {state : SendState} (h : state ≠ failed) : state.Onward collected := by
  cases state with
  | failed => exact absurd rfl h
  | built => exact .along rfl rfl (by decide)
  | assembled => exact .along rfl rfl (by decide)
  | sessionReady => exact .along rfl rfl (by decide)
  | sent => exact .along rfl rfl (by decide)
  | collected => exact .refl _

/-- There is no way on from failure. -/
theorem Onward.of_failed {next : SendState} (h : failed.Onward next) : next = failed := by
  cases h with
  | along hstate _ _ => cases hstate
  | fail => rfl

/-- From the last state of the way there is only failure. -/
theorem Onward.of_collected {next : SendState} (h : collected.Onward next) :
    next = failed ∨ next = collected := by
  cases h with
  | fail => exact .inl rfl
  | along hstate hnext hle =>
    cases hstate
    cases next with
    | collected => exact .inr rfl
    | failed => exact .inl rfl
    | _ =>
      -- the last place is not before any other
      cases hnext
      exact absurd hle (by decide)

end SendState

namespace Collector

/-! ## Operations -/

/-- How far a collector has come, and the failure that it holds. -/
structure Progress where
  state : SendState := .built
  failure : Option Failure := none

def progress (c : Collector) : Progress := ⟨c.state, c.failure⟩

/-- What is done to a collector. -/
inductive Operation where
  | advance (state : SendState)
  /-- A tracked stretch ends; a failure may have ended its steps. -/
  | exit (failure : Option Failure)
  | collect
  /-- What does not concern the state. -/
  | other

namespace Operation

/-- The failure that an operation records. -/
def recorded? : Operation → Option Failure
  | exit failure => (Event.exit failure).caught?
  | _ => none

/-- What an operation does. -/
def effect (p : Progress) : Operation → Progress
  | advance state => { p with state }
  | exit failure =>
    match (Event.exit failure).caught? with
    | some failure => ⟨.failed, some failure⟩
    | none => p
  | collect => { p with state := .collected }
  | other => p

end Operation

mutual

/-- The operations of a step, and of the steps within it. A stretch that lets out a request to stop
leaves the collector as it was. -/
def Step.operations : Step → List Operation
  | .advance (.ok state) => [.advance state]
  | .advance (.error _) => [.other]
  | .setMessage _ => [.other]
  | .setReceipt _ => [.other]
  | .raise _ => []
  | .track steps => operations steps ++ [.exit (course steps).2]
  | .enclose steps =>
    operations steps ++
      if ((course steps).2.filter (·.isInterrupt)).isSome then [] else [.exit (course steps).2]
  | .collect => [.collect]

/-- The operations of steps until one of them raises a failure. -/
def operations : List Step → List Operation
  | [] => []
  | step :: rest => step.operations ++ if step.course.2.isSome then [] else operations rest

end

/-- Where operations lead through. -/
def through (p : Progress) : List Operation → List Progress
  | [] => []
  | operation :: rest => operation.effect p :: through (operation.effect p) rest

/-- Where operations lead to. -/
def after (p : Progress) (operations : List Operation) : Progress :=
  operations.foldl Operation.effect p

theorem through_append (p : Progress) (operations more : List Operation) :
    through p (operations ++ more) = through p operations ++ through (after p operations) more := by
  induction operations generalizing p with
  | nil => rfl
  | cons operation rest ih => exact congrArg (_ :: ·) (ih _)

theorem after_append (p : Progress) (operations more : List Operation) :
    after p (operations ++ more) = after (after p operations) more :=
  List.foldl_append

theorem length_through (p : Progress) (operations : List Operation) :
    (through p operations).length = operations.length := by
  induction operations generalizing p with
  | nil => rfl
  | cons operation rest ih => exact congrArg Nat.succ (ih _)

/-! ## What steps do -/

/-- The progress that steps show. -/
def shown (taken : List (Collector × StepResult)) : List Progress :=
  taken.map fun shot => shot.1.progress

/-- What was done to a collector is what the operations do. -/
structure Performs (c : Collector)
    (outcome : List (Collector × StepResult) × Collector × Option Failure)
    (operations : List Operation) : Prop where
  shown : shown outcome.1 = through c.progress operations
  progress : outcome.2.1.progress = after c.progress operations

/-- The end of a tracked stretch records the failure that ended its steps. -/
theorem progress_leave (c : Collector) (failure : Option Failure) :
    (c.leave failure).1.progress = (Operation.exit failure).effect c.progress := by
  have hstate : (c.leave failure).1.state = (c.note failure).state := by
    unfold leave takeReceipt
    dsimp only
    -- the receipt that is taken over is no part of the progress
    split <;> rfl
  have hfailure := leave_failure c failure
  unfold progress Operation.effect
  rw [hstate, hfailure]
  cases failure with
  | none => rfl
  | some failure => cases h : failure.isInterrupt <;> simp [note, Event.caught?, h, Option.filter]

/-- A request to stop is not recorded. -/
theorem effect_exit_of_interrupt {failure : Option Failure}
    (h : (failure.filter (·.isInterrupt)).isSome = true) (p : Progress) :
    (Operation.exit failure).effect p = p := by
  cases failure with
  -- without a failure there is no request to stop
  | none => cases h
  | some failure =>
    cases hinterrupt : failure.isInterrupt with
    | true => simp [Operation.effect, Event.caught?, hinterrupt, Option.filter]
    | false => simp [hinterrupt, Option.filter] at h

mutual

/-- Steps end with a failure or not whatever the collector is. -/
theorem perform_failure (step : Step) (c : Collector) :
    (perform c step).2.2 = step.course.2 := by
  cases step with
  | advance state => cases state <;> rfl
  | setMessage message => rfl
  | setReceipt receipt => rfl
  | raise failure => rfl
  | track steps =>
    rw [perform_track]
    split <;> rfl
  -- the stretch meets the same failure whatever it starts from, so it lets out the same
  | enclose steps =>
    rw [perform_enclose, run_failure steps c, Step.course]
    cases (course steps).2.filter (·.isInterrupt) <;> rfl
  | collect => rfl

theorem run_failure (steps : List Step) (c : Collector) :
    (run c steps).2.2 = (course steps).2 := by
  cases steps with
  | nil => rfl
  | cons step rest =>
    have hstep := perform_failure step c
    rw [run, course]
    generalize perform c step = outcome at hstep ⊢
    generalize step.course = stepCourse at hstep ⊢
    obtain ⟨taken, c', failure⟩ := outcome
    obtain ⟨events, failure'⟩ := stepCourse
    obtain rfl : failure = failure' := hstep
    cases failure with
    | some failure => rfl
    | none => exact run_failure rest c'

end

namespace Performs

variable {c : Collector}

/-- A tracked stretch is left with what its end records. -/
theorem exited {steps : List Step} (h : Performs c (run c steps) (operations steps)) :
    (Collector.exited c steps).progress =
      (Operation.exit (course steps).2).effect (after c.progress (operations steps)) := by
  rw [Collector.exited, progress_leave, run_failure, h.progress]

/-- Whatever the end of a stretch gives to the caller, it shows the collector as it was left. -/
theorem shown_exit {steps : List Step} (h : Performs c (run c steps) (operations steps))
    (result : StepResult) :
    Collector.shown ((run c steps).1 ++ [(Collector.exited c steps, result)]) =
      through c.progress (operations steps ++ [.exit (course steps).2]) := by
  rw [through_append, ← h.shown, Collector.shown, List.map_append]
  exact congrArg (Collector.shown (run c steps).1 ++ [·]) h.exited

theorem track {steps : List Step} (h : Performs c (run c steps) (operations steps)) :
    Performs c (perform c (.track steps)) (Step.track steps).operations := by
  have hprogress : (Collector.exited c steps).progress =
      after c.progress (operations steps ++ [.exit (course steps).2]) := by
    rw [after_append]
    exact h.exited
  rw [perform_track]
  cases (run c steps).2.2.filter (·.isInterrupt) with
  | none => exact ⟨h.shown_exit _, hprogress⟩
  | some failure => exact ⟨h.shown_exit _, hprogress⟩

theorem enclose {steps : List Step} (h : Performs c (run c steps) (operations steps)) :
    Performs c (perform c (.enclose steps)) (Step.enclose steps).operations := by
  rw [perform_enclose, run_failure, Step.operations]
  cases hpassed : (course steps).2.filter (·.isInterrupt) with
  | none =>
    refine ⟨h.shown_exit _, ?_⟩
    -- the stretch is left as its end records
    rw [Option.isSome_none, if_neg (by decide), after_append]
    exact h.exited
  | some failure =>
    -- the request to stop passes on, so the end of the stretch shows nothing, and does nothing
    rw [Option.isSome_some, if_pos rfl, List.append_nil]
    refine ⟨h.shown, ?_⟩
    rw [← effect_exit_of_interrupt (by rw [hpassed]; rfl) (after c.progress (operations steps))]
    exact h.exited

theorem cons {step : Step} {rest : List Step} (h : Performs c (perform c step) step.operations)
    (hrest : ∀ c : Collector, Performs c (run c rest) (operations rest)) :
    Performs c (run c (step :: rest)) (operations (step :: rest)) := by
  have hfailure := perform_failure step c
  rw [run, operations, ← hfailure]
  generalize perform c step = outcome at h ⊢
  obtain ⟨taken, c', failure⟩ := outcome
  cases failure with
  | some failure =>
    -- the rest is not performed, and has no operations
    rw [Option.isSome_some, if_pos rfl, List.append_nil]
    exact ⟨h.shown, h.progress⟩
  | none =>
    have hmore := hrest c'
    obtain ⟨hshown, hprogress⟩ := h
    dsimp only at hshown hprogress
    rw [Option.isSome_none, if_neg (by decide)]
    refine ⟨?_, ?_⟩
    · rw [through_append, ← hshown, ← hprogress, ← hmore.shown]
      exact List.map_append
    · rw [after_append, ← hprogress]
      exact hmore.progress

end Performs

-- The recursion is on the nesting of stretches and, within a stretch, on its steps.
mutual
-- Only the two kinds of stretches need more than their definition.

theorem perform_performs (step : Step) (c : Collector) :
    Performs c (perform c step) step.operations := by
  cases step with
  | advance state => cases state <;> exact ⟨rfl, rfl⟩
  | setMessage message => exact ⟨rfl, rfl⟩
  | setReceipt receipt => exact ⟨rfl, rfl⟩
  | raise failure => exact ⟨rfl, rfl⟩
  | track steps => exact (run_performs steps c).track
  | enclose steps => exact (run_performs steps c).enclose
  | collect => exact ⟨rfl, rfl⟩

/-- Steps do what their operations do, however deep their tracked stretches are nested. -/
theorem run_performs (steps : List Step) (c : Collector) :
    Performs c (run c steps) (operations steps) := by
  cases steps with
  | nil => exact ⟨rfl, rfl⟩
  | cons step rest => exact (perform_performs step c).cons (run_performs rest)

end

/-! ## Keeping to the way -/

/-- What was done to the collector of a run, from its start on, and how far it had come then. -/
def passage (steps : List Step) : List (Operation × Progress) :=
  (.other, {}) :: (operations steps).zip (shown (run {} steps).1)

/-- If the collector is told to advance next, then to go on. -/
def AdvancesOnward (before next : Operation × Progress) : Prop :=
  ∀ state, next.1 = .advance state → before.2.state.Onward state

theorem AdvancesOnward.advance {before : Operation × Progress} {state : SendState} {p : Progress}
    (h : before.2.state.Onward state) : AdvancesOnward before (.advance state, p) := by
  rintro _ ⟨⟩
  exact h

/-- A collector that holds a failure has failed, or is collected. -/
def Progress.Sound (p : Progress) : Prop :=
  p.failure.isSome → p.state = .failed ∨ p.state = .collected

/-- What an operation does keeps to the way. -/
structure Keeps (before next : Operation × Progress) : Prop where
  /-- The state goes on; only a collection leaves failure. -/
  onward : before.2.state.Onward next.2.state ∨ before.2.state = .failed ∧ next.1 = .collect
  collected : next.1 = .collect → next.2.state = .collected
  /-- A recorded failure is held, and the collector has failed. -/
  recorded : ∀ failure, next.1.recorded? = some failure → next.2 = ⟨.failed, some failure⟩
  /-- Only a collection changes what has failed. -/
  absorbed : before.2.state = .failed → next.1 ≠ .collect → next.2.state = .failed
  sound : next.2.Sound

/-- An operation that does not advance off the way keeps to it. -/
theorem keeps_effect {before : Operation × Progress} {operation : Operation}
    (hsound : before.2.Sound)
    (honward : ∀ state, operation = .advance state → before.2.state.Onward state) :
    Keeps before (operation, operation.effect before.2) := by
  cases operation with
  | advance state =>
    have hstate := honward state rfl
    refine ⟨.inl hstate, nofun, nofun, fun hfailed _ => ?_, fun hfailure => ?_⟩
    · exact (hfailed ▸ hstate).of_failed
    · -- the failure stays, and from where one may be held the way leads nowhere else
      cases hsound hfailure with
      | inl hfailed => exact .inl (hfailed ▸ hstate).of_failed
      | inr hcollected => exact (hcollected ▸ hstate).of_collected
  | exit failure =>
    cases hcaught : (Event.exit failure).caught? with
    | none =>
      -- nothing is recorded, so nothing changes
      have heffect : (Operation.exit failure).effect before.2 = before.2 := by
        rw [Operation.effect, hcaught]
      rw [heffect]
      refine ⟨.inl (.refl _), nofun, fun f hrecorded => ?_, fun hfailed _ => hfailed, hsound⟩
      rw [Operation.recorded?, hcaught] at hrecorded
      cases hrecorded
    | some f =>
      -- a failure is recorded, from whatever state
      have heffect : (Operation.exit failure).effect before.2 = ⟨.failed, some f⟩ := by
        rw [Operation.effect, hcaught]
      rw [heffect]
      refine ⟨.inl (.fail _), nofun, fun f' hrecorded => ?_, fun _ _ => rfl, fun _ => .inl rfl⟩
      rw [Operation.recorded?, hcaught] at hrecorded
      cases hrecorded
      rfl
  | collect =>
    refine ⟨?_, fun _ => rfl, nofun, fun _ hother => absurd rfl hother, fun _ => .inr rfl⟩
    -- only a collection leaves failure behind
    by_cases hfailed : before.2.state = .failed
    · exact .inr ⟨hfailed, rfl⟩
    · exact .inl (SendState.onward_collected hfailed)
  | other => exact ⟨.inl (.refl _), nofun, nofun, fun hfailed _ => hfailed, hsound⟩

/-- Operations lead from one place to the next. -/
theorem isChain_effect (before : Operation × Progress) (operations : List Operation) :
    (before :: operations.zip (through before.2 operations)).IsChain
      fun before next => next.2 = next.1.effect before.2 := by
  induction operations generalizing before with
  | nil => exact .singleton _
  | cons operation rest ih => exact .cons_cons rfl (ih (operation, operation.effect before.2))

/-- An advance that keeps to the way goes on. -/
theorem Keeps.advancesOnward {before : Operation × Progress} {operation : Operation}
    (h : Keeps before (operation, operation.effect before.2)) :
    AdvancesOnward before (operation, operation.effect before.2) := by
  intro state (hadvance : operation = .advance state)
  subst hadvance
  -- a collection is no advance
  cases h.onward with
  | inl honward => exact honward
  | inr hcollected => cases hcollected.2

/-- Operations keep to the way just if their advances go on. -/
theorem isChain_keeps_iff {before : Operation × Progress} {operations : List Operation}
    (hsound : before.2.Sound) :
    (before :: operations.zip (through before.2 operations)).IsChain Keeps ↔
      (before :: operations.zip (through before.2 operations)).IsChain AdvancesOnward := by
  induction operations generalizing before with
  | nil => exact ⟨fun _ => .singleton _, fun _ => .singleton _⟩
  | cons operation rest ih =>
    -- both ways, the first operation leads on with what the collector may then hold
    constructor
    · intro h
      obtain ⟨hfirst, hrest⟩ := List.isChain_cons_cons.1 h
      exact .cons_cons hfirst.advancesOnward ((ih hfirst.sound).1 hrest)
    · intro h
      obtain ⟨hfirst, hrest⟩ := List.isChain_cons_cons.1 h
      have hkeeps := keeps_effect hsound hfirst
      have hmore : (operation, operation.effect before.2).2.Sound := hkeeps.sound
      exact .cons_cons hkeeps ((ih hmore).2 hrest)

theorem passage_eq (steps : List Step) :
    passage steps = (.other, {}) :: (operations steps).zip (through {} (operations steps)) :=
  congrArg (fun shown => (Operation.other, ({} : Progress)) :: (operations steps).zip shown)
    (run_performs steps {}).shown

/-! ## Sends as runs -/

/-- The steps that a sender's delivery leads to. -/
def deliverySteps (delivery : Delivery) : List Step :=
  .setMessage (some delivery.message) ::
    match delivery.failure with
    | none => [.advance (.ok .sent)]
    | some failure => [.raise (transmissionFailure delivery.message.messageId failure)]

/-- The steps before the response is collected, by the message, the session and the delivery. -/
def bodySteps (message : Except Failure Message) (session : Except Failure Session)
    (deliver : Message → Session → Delivery) : List Step :=
  match message with
  | .error failure => [.raise failure]
  | .ok message =>
    .setMessage (some message) :: .advance (.ok .assembled) ::
      match session with
      | .error failure => [.raise failure]
      | .ok session => .advance (.ok .sessionReady) :: deliverySteps (deliver message session)

/-- The steps of a send. -/
def stepsOfSend [Template.Objects] (surroundings : Surroundings) (sender : Sender)
    (order : Order) (supply : Supply) : List Step :=
  [.enclose (bodySteps (order.message surroundings supply)
    (Session.start surroundings order.settings order.partnershipsFail)
    fun message session => sender.handle Sender.sendAction message session supply.network),
   .collect]

/-- The response of a collector whose only tracked stretch ends, or the request to stop. -/
def finish (c : Collector) (failure : Option Failure) : Except Failure Response :=
  match (c.leave failure).2 with
  | some failure => .error failure
  | none => .ok (c.leave failure).1.collect.1

/-- A stretch that collects nothing and is collected then answers once, unless it lets out a request
to stop. -/
theorem run_finish {body : List Step} (c : Collector) (failure : Option Failure)
    (hbody : (run {} body).2 = (c, failure)) (hsilent : answers (run {} body).1 = []) :
    answers (run {} [.enclose body, .collect]).1 = (c.finish failure).toOption.toList ∧
    ∀ f, c.finish failure = .error f ↔ (run {} [.enclose body, .collect]).2.2 = some f := by
  have hpassed : (c.leave failure).2 = failure.filter (·.isInterrupt) := rfl
  rw [run, perform_enclose, Collector.exited, hbody, finish, hpassed]
  cases failure.filter (·.isInterrupt) with
  -- the request to stop leaves before anything is collected
  | some f => exact ⟨hsilent, fun _ => by simp⟩
  | none =>
    refine ⟨?_, fun _ => by simp [run, perform]⟩
    -- one answer is put behind those of the stretch, which are none
    show answers (((run {} body).1 ++ [_]) ++ [_]) = _
    simp only [answers, List.filterMap_append] at hsilent ⊢
    rw [hsilent]
    rfl

/-- Operations that do not advance do not advance off the way. -/
theorem isChain_onward_of_forall {operations : List Operation}
    (h : ∀ state, Operation.advance state ∉ operations) (before : Operation × Progress) :
    (before :: operations.zip (through before.2 operations)).IsChain AdvancesOnward := by
  induction operations generalizing before with
  | nil => exact .singleton _
  | cons operation rest ih =>
    refine .cons_cons (fun state heq => ?_) (ih (fun state hmem => ?_) _)
    · obtain rfl : operation = .advance state := heq
      exact absurd List.mem_cons_self (h state)
    · exact h state (List.mem_cons_of_mem _ hmem)

/-- Nothing advances once the tracked stretch has ended. -/
theorem operations_enclose_collect (body : List Step) :
    ∃ rest, operations [.enclose body, .collect] = operations body ++ rest ∧
      ∀ state, Operation.advance state ∉ rest := by
  rw [operations, Step.operations, Step.course]
  cases (course body).2.filter (·.isInterrupt) with
  | some failure => exact ⟨[], by simp, nofun⟩
  -- after the end of the stretch there is only the collection
  | none =>
    exact ⟨[.exit (course body).2, .collect], by simp [operations, Step.operations, Step.course],
      by simp⟩

/-- The steps of a send advance onward. -/
theorem stepsOfSend_onward [Template.Objects] (surroundings : Surroundings) (sender : Sender)
    (order : Order) (supply : Supply) :
    (passage (stepsOfSend surroundings sender order supply)).IsChain AdvancesOnward := by
  have hassembled : SendState.built.Onward .assembled := .along rfl rfl (by decide)
  have hready : SendState.assembled.Onward .sessionReady := .along rfl rfl (by decide)
  have hsent : SendState.sessionReady.Onward .sent := .along rfl rfl (by decide)
  rw [passage_eq, stepsOfSend]
  obtain ⟨rest, hoperations, hrest⟩ := operations_enclose_collect
    (bodySteps (order.message surroundings supply)
      (Session.start surroundings order.settings order.partnershipsFail)
      fun message session => sender.handle Sender.sendAction message session supply.network)
  have hend := isChain_onward_of_forall hrest
  rw [hoperations]
  -- one chain for each way the send can end, as far as it has come
  cases order.message surroundings supply with
  | error failure => exact hend _
  | ok message =>
    cases Session.start surroundings order.settings order.partnershipsFail with
    | error failure => exact .cons_cons nofun (.cons_cons (.advance hassembled) (hend _))
    | ok session =>
      unfold bodySteps deliverySteps
      dsimp only
      cases (sender.handle Sender.sendAction message session supply.network).failure with
      | some failure =>
        exact .cons_cons nofun (.cons_cons (.advance hassembled) (.cons_cons (.advance hready)
          (.cons_cons nofun (hend _))))
      | none =>
        exact .cons_cons nofun (.cons_cons (.advance hassembled) (.cons_cons (.advance hready)
          (.cons_cons nofun (.cons_cons (.advance hsent) (hend _)))))

/-- A send takes its steps. -/
theorem send_eq_run [Template.Objects] (surroundings : Surroundings) (sender : Sender)
    (order : Order) (supply : Supply) :
    let outcome := run {} (stepsOfSend surroundings sender order supply)
    answers outcome.1 = (send surroundings sender order supply).response.toOption.toList ∧
    ∀ failure, (send surroundings sender order supply).response = .error failure ↔
      outcome.2.2 = some failure := by
  rw [send_eq, stepsOfSend]
  -- a failed step is raised at once; else the delivery decides
  cases order.message surroundings supply with
  | error failure => exact run_finish {} (some failure) rfl rfl
  | ok message =>
    cases Session.start surroundings order.settings order.partnershipsFail with
    | error failure => exact run_finish _ (some failure) rfl rfl
    | ok session =>
      unfold transmit bodySteps deliverySteps
      rw [order.drawn_network]
      dsimp only
      cases (sender.handle Sender.sendAction message session supply.network).failure with
      | none => exact run_finish _ none rfl rfl
      | some failure => exact run_finish _ (some _) rfl rfl

/-! ## Runs -/

/-- **A run keeps to the way just if it advances onward.** A collector shows what it has come to
after every operation. An advance sets whatever state it is given, the end of a tracked stretch
records failure, a collection collects, and nothing else touches the state. So just if every advance
of a run goes on from where it finds the collector, every operation goes on, a recorded failure
lasts until a collection, and a collector that holds a failure has failed or is collected. A send is
such a run. -/
theorem run_keeps_order [Template.Objects] (steps : List Step) :
    (operations steps).length = (run {} steps).1.length ∧
    (passage steps).IsChain (fun before next => next.2 = next.1.effect before.2) ∧
    ((passage steps).IsChain Keeps ↔ (passage steps).IsChain AdvancesOnward) ∧
    ∀ (surroundings : Surroundings) (sender : Sender) (order : Order) (supply : Supply),
      let response := (send surroundings sender order supply).response
      let sent := stepsOfSend surroundings sender order supply
      (passage sent).IsChain Keeps ∧
      answers (run {} sent).1 = response.toOption.toList ∧
      ∀ failure, response = .error failure ↔ (run {} sent).2.2 = some failure := by
  have hkeeps : ∀ steps : List Step,
      (passage steps).IsChain Keeps ↔ (passage steps).IsChain AdvancesOnward := by
    intro steps
    rw [passage_eq]
    exact isChain_keeps_iff nofun
  -- all runs do what their operations do, and a send is one of them
  refine ⟨?_, ?_, hkeeps steps, fun surroundings sender order supply => ?_⟩
  · have hlength := congrArg List.length (run_performs steps {}).shown
    rw [shown, List.length_map, length_through] at hlength
    exact hlength.symm
  · rw [passage_eq]
    exact isChain_effect (.other, {}) (operations steps)
  · exact ⟨(hkeeps _).2 (stepsOfSend_onward surroundings sender order supply),
      send_eq_run surroundings sender order supply⟩

namespace Strayed

open Stopped

/-- A failure is caught within a longer stretch, which then ends as planned. -/
def kept : List Step :=
  [.setMessage (some order), .advance (.ok .assembled),
    .track [.advance (.ok .sessionReady), .enclose [.raise refusal], .advance (.ok .failed)],
    .collect]

/-- The longer stretch goes on to advance after the failure is caught. -/
def strayed : List Step :=
  [.track [.track [.raise refusal], .advance (.ok .sessionReady)]]

end Strayed

open Strayed

attribute [local instance] Template.Objects.kinds

/-- The failure that was caught lasts until the collection. -/
theorem run_keeps_order_caught :
    (passage kept).IsChain AdvancesOnward ∧ (passage kept).IsChain Keeps ∧
    (shown (run {} kept).1).map (·.state) =
      [.built, .assembled, .sessionReady, .failed, .failed, .failed, .collected] := by
  have honward : (passage kept).IsChain AdvancesOnward := by
    refine .cons_cons nofun (.cons_cons (.advance (.along rfl rfl (by decide)))
      (.cons_cons (.advance (.along rfl rfl (by decide)))
        (.cons_cons nofun (.cons_cons (.advance (.fail _)) (.cons_cons nofun
          (.cons_cons nofun (.singleton _)))))))
  exact ⟨honward, (run_keeps_order kept).2.2.1.2 honward, rfl⟩

/-- A collector that has failed leaves failure when it is told to advance, and holds the failure. -/
theorem run_leaves_failed :
    (shown (run {} strayed).1).map (fun p => (p.state, p.failure.isSome)) =
      [(.failed, true), (.sessionReady, true), (.sessionReady, true)] ∧
    ¬ (passage strayed).IsChain Keeps := by
  refine ⟨rfl, fun hkeeps => ?_⟩
  obtain ⟨-, hrest⟩ := List.isChain_cons_cons.1 hkeeps
  obtain ⟨hadvance, -⟩ := List.isChain_cons_cons.1 hrest
  exact absurd (hadvance.absorbed rfl nofun) (by decide)

end Collector

end As2Exchange
