import As2Exchange.Proofs.Send.Reportable
import As2Exchange.Proofs.Message.Assembly

/-!
# The steps of a send

A send takes four steps: the partnership, the message, the session, the sender. This module runs
them without the collector and shows that the collector gathers just their results:

- `Order.ready` runs the steps before the sender;
- `send_eq` shows the collector's way through the steps;
- `send_of_unready` and `send_of_ready` are the outcomes of a send, by the result of `Order.ready`.
-/

namespace As2Exchange

open Failure

/-! ## The steps before the sender -/

namespace Order

section

variable [Template.Objects]

def message (order : Order) (surroundings : Surroundings) (supply : Supply) :
    Except Failure Message := do
  let partnership ← order.settings.partnership
  Message.assemble partnership order.draft (supply.stamp surroundings.clock)

/-- What the sender is asked with: the message of the order, and a session. -/
def ready (order : Order) (surroundings : Surroundings) (supply : Supply) :
    Except Failure (Message × Session) := do
  let message ← order.message surroundings supply
  let session ← Session.start surroundings order.settings order.partnershipsFail
  return (message, session)

end

/-- The supply from which the message of the order has been drawn. -/
def drawn (order : Order) (supply : Supply) : Supply :=
  match order.settings.partnership with
  | .ok partnership => supply.afterAssembly partnership
  | .error _ => supply

@[simp] theorem drawn_network (order : Order) (supply : Supply) :
    (order.drawn supply).network = supply.network := by
  unfold drawn Supply.afterAssembly
  split
  · split <;> rfl
  · rfl

variable [Template.Objects]

/-- The sender is asked with the message of the order and the session that was opened. -/
theorem ready_eq_ok {order : Order} {surroundings : Surroundings} {supply : Supply}
    {message : Message} {session : Session} :
    order.ready surroundings supply = .ok (message, session) ↔
      order.message surroundings supply = .ok message ∧
        Session.start surroundings order.settings order.partnershipsFail = .ok session := by
  unfold ready
  constructor
  · intro h
    obtain ⟨message', hm, h⟩ := bind_eq_ok.1 h
    obtain ⟨session', hs, h⟩ := bind_eq_ok.1 h
    cases h
    exact ⟨hm, hs⟩
  · rintro ⟨hm, hs⟩
    exact bind_eq_ok.2 ⟨message, hm, bind_eq_ok.2 ⟨session, hs, rfl⟩⟩

/-- None of the steps before the sender asks to stop unless a collaborator does. -/
theorem ready_reportable {order : Order} {surroundings : Surroundings} {supply : Supply}
    (hdraft : Reportable order.draft.body)
    (hpartnerships : ∀ cause, order.partnershipsFail = some cause → cause.family ≠ .interrupt) :
    Reportable (order.ready surroundings supply) := by
  have hmessage : Reportable (order.message surroundings supply) :=
    order.settings.partnership_reportable.bind fun _ _ => Message.assemble_reportable hdraft
  refine hmessage.bind fun _ _ => ?_
  exact (Session.start_reportable hpartnerships).bind fun _ _ => reportable_ok _

end Order

/-! ## The collector's way -/

/-- A send is its steps in order, gathered by one collector. -/
theorem send_eq [Template.Objects] (surroundings : Surroundings) (sender : Sender) (order : Order)
    (supply : Supply) :
    send surroundings sender order supply =
      match order.message surroundings supply with
      | .error failure => .early {} failure (order.drawn supply)
      | .ok message =>
        match Session.start surroundings order.settings order.partnershipsFail with
        | .error failure =>
          .early (Collector.advance { message := some message } .assembled) failure
            (order.drawn supply)
        | .ok session =>
          transmit (Collector.advance { message := some message } .sessionReady) sender message
            session (order.drawn supply) := by
  unfold send Order.message Order.drawn
  -- the order of the steps: the partnership, the message, the session
  cases hp : order.settings.partnership with
  | error failure => rfl
  | ok partnership =>
    cases hm : Message.assemble partnership order.draft (supply.stamp surroundings.clock) with
    | error failure => simp [hm, bind, Except.bind]
    | ok message =>
      cases Session.start surroundings order.settings order.partnershipsFail with
      | error failure => simp [hm, bind, Except.bind, Collector.advance]
      | ok session => simp [hm, bind, Except.bind, Collector.advance]

namespace Collector

theorem leave_some {c : Collector} {failure : Failure} (h : failure.isInterrupt = false) :
    c.leave (some failure) =
      ({ c with failure := some failure, state := .failed }.takeReceipt, none) := by
  simp [leave, note, h, Option.filter]

@[simp] theorem leave_none (c : Collector) : c.leave none = (c.takeReceipt, none) := rfl

@[simp] theorem takeReceipt_message (c : Collector) : c.takeReceipt.message = c.message := by
  unfold takeReceipt
  split <;> rfl

@[simp] theorem takeReceipt_failure (c : Collector) : c.takeReceipt.failure = c.failure := by
  unfold takeReceipt
  split <;> rfl

/-- The receipt that the message carries is taken over; else the one of before is kept. -/
theorem takeReceipt_receipt (c : Collector) :
    c.takeReceipt.receipt = (c.message.bind (·.receipt)).or c.receipt := by
  unfold takeReceipt
  -- what the message carries comes first
  cases c.message.bind (·.receipt) <;> rfl

end Collector

namespace Outcome

/-- A send that ends before the sender responds with the failure, and touches nothing. -/
theorem early_of_reportable {c : Collector} {failure : Failure} (supply : Supply)
    (h : failure.isInterrupt = false) (hc : c.receipt = none)
    (hm : c.message.bind (·.receipt) = none) :
    early c failure supply =
      { response := .ok ⟨(c.message.map (·.messageId)).getD "", none, some failure⟩, supply } := by
  simp [early, Collector.leave_some h, Collector.collect, Collector.takeReceipt_receipt, hm, hc]

/-- A send that the sender ends responds with what the message carries and with the failure. -/
theorem late_of_reportable {c : Collector} {failure : Option Failure} (delivery : Delivery)
    (supply : Supply) (h : ∀ f, failure = some f → f.isInterrupt = false) (hc : c.receipt = none)
    (hf : c.failure = none) :
    late c failure delivery supply =
      { response := .ok
          ⟨(c.message.map (·.messageId)).getD "", c.message.bind (·.receipt), failure⟩
        posts := delivery.posts
        shelf? := delivery.shelf?
        reachedSender := true
        supply := { supply with network := delivery.network } } := by
  cases failure with
  | none => simp [late, Collector.collect, Collector.takeReceipt_receipt, hc, hf]
  | some failure =>
    simp [late, Collector.leave_some (h failure rfl), Collector.collect,
      Collector.takeReceipt_receipt, hc]

end Outcome

/-! ## Failures of the sender -/

/-- A failure of the exchange is reported as it is; any other one that is not a request to stop is
wrapped, with itself as the cause. -/
theorem transmissionFailure_eq (messageId : String) {failure : Failure}
    (h : failure.isInterrupt = false) :
    transmissionFailure messageId failure =
      if failure.family = .exchange then failure else .sender messageId failure := by
  unfold transmissionFailure
  -- the two families that are no failures of the exchange and no request are wrapped alike
  cases hfamily : failure.family with
  | exchange => rfl
  | transport => rfl
  | ordinary => rfl
  | interrupt => simp [Failure.isInterrupt, hfamily] at h

theorem transmissionFailure_isInterrupt (messageId : String) {failure : Failure}
    (h : failure.isInterrupt = false) :
    (transmissionFailure messageId failure).isInterrupt = false := by
  rw [transmissionFailure_eq messageId h]
  split
  · exact h
  · rfl

/-! ## Outcomes -/

/-- A sender that may do anything but ask to stop. -/
def Sender.Tells (sender : Sender) : Prop :=
  ∀ message session network failure,
    (sender message session network).failure = some failure → failure.isInterrupt = false

/-- A send whose message or session fails. -/
theorem send_of_unready [Template.Objects] {surroundings : Surroundings} {order : Order}
    {supply : Supply}
    {failure : Failure} (sender : Sender)
    (hready : order.ready surroundings supply = .error failure) (h : failure.isInterrupt = false) :
    send surroundings sender order supply =
      { response := .ok
          ⟨((order.message surroundings supply).toOption.map (·.messageId)).getD "", none,
            some failure⟩
        supply := order.drawn supply } := by
  rw [send_eq]
  rcases bind_eq_error.1 hready with hm | ⟨message, hm, hready⟩
  · -- there is no message
    rw [hm]
    exact Outcome.early_of_reportable _ h rfl rfl
  · -- there is a message, which has no receipt yet, but no session
    obtain ⟨partnership, -, ha⟩ := bind_eq_ok.1 hm
    have hreceipt := Message.receipt_of_assemble ha
    rcases bind_eq_error.1 hready with hs | ⟨session, -, hpure⟩
    · rw [hm, hs]
      exact Outcome.early_of_reportable _ h rfl hreceipt
    · cases hpure

/-- A send whose sender is asked, and does not ask to stop. -/
theorem send_of_ready [Template.Objects] {surroundings : Surroundings} {order : Order}
    {supply : Supply} {sender : Sender} {message : Message} {session : Session}
    (hready : order.ready surroundings supply = .ok (message, session))
    (h : ∀ failure, (sender message session supply.network).failure = some failure →
      failure.isInterrupt = false) :
    send surroundings sender order supply =
      let delivery := sender message session supply.network
      { response := .ok
          ⟨delivery.message.messageId, delivery.message.receipt,
            delivery.failure.map (transmissionFailure delivery.message.messageId)⟩
        posts := delivery.posts
        shelf? := delivery.shelf?
        reachedSender := true
        supply := { order.drawn supply with network := delivery.network } } := by
  obtain ⟨hm, hs⟩ := Order.ready_eq_ok.1 hready
  rw [send_eq, hm, hs]
  -- drawing the message has left the network as it was
  have hasked : sender.handle Sender.sendAction message session (order.drawn supply).network =
      sender message session supply.network := by
    rw [Order.drawn_network]
    rfl
  simp only [transmit, hasked]
  cases hf : (sender message session supply.network).failure with
  | none =>
    simp only [Option.map_none]
    exact Outcome.late_of_reportable _ _ (by simp) rfl rfl
  | some failure =>
    simp only [Option.map_some]
    refine Outcome.late_of_reportable _ _ ?_ rfl rfl
    intro f hsome
    cases hsome
    exact transmissionFailure_isInterrupt _ (h failure hf)

end As2Exchange
