import As2Exchange.Proofs.Send.Confirmed
import As2Exchange.Proofs.Sender.Shelf
import Mathlib.Data.List.Forall2

/-!
# What the loopback sender keeps

The loopback sender holds the messages of all its sends. A send that fails before the sender is
asked leaves no trace with it, and once it is asked a send succeeds. So what is kept are the
messages of the sends that succeeded.

- `Outcome.success?` is the response of a send that succeeded;
- `Message.ToldBy` says that a kept message is the one that a response tells of;
- `send_settled` is the step: what one send does to the messages that are held;
- `sendAll_settled` is the run, by induction on the orders, and `sendAll_keeps_successes` is what it
  means for a sender that starts with nothing.
-/

namespace As2Exchange

open Failure

/-! ## Successes -/

/-- The response without a failure, if the send gave one. -/
def Outcome.success? (outcome : Outcome) : Option Response :=
  match outcome.response with
  | .ok response => if response.failure.isNone then some response else none
  | .error _ => none

/-- The orders whose sends succeeded, each with its response. -/
def successes (orders : List Order) (outcomes : List Outcome) : List (Order × Response) :=
  (orders.zip outcomes).filterMap fun sent => sent.2.success?.map fun response => (sent.1, response)

/-- The message is the one that was made for the order and that the response tells of. -/
structure Message.ToldBy (order : Order) (response : Response) (message : Message) : Prop where
  messageId : message.messageId = response.originalMessageId
  body : order.draft.body = .ok message.body
  /-- The message carries the receipt of the response, which tells of this message, and of
  success. -/
  receipt : ∃ receipt, message.receipt = some receipt ∧ response.receipt = some receipt ∧
    receipt.originalMessageId = some message.messageId ∧
    receipt.status? = some "processed" ∧ receipt.isError = false

/-- A send through a sender that holds a shelf has reached the sender and succeeded, and there is
one sent message more; or it has not, and nothing is changed. -/
inductive Settled (shelf : Shelf) (order : Order) (outcome : Outcome) : Prop where
  | kept {response : Response} {message : Message} (hsuccess : outcome.success? = some response)
      (hreached : outcome.reachedSender = true)
      (hshelf : outcome.shelf? = some (shelf.withSent message))
      (htold : message.ToldBy order response)
  | nothing (hsuccess : outcome.success? = none) (hreached : outcome.reachedSender = false)
      (hshelf : outcome.shelf? = none)

/-! ## One send -/

namespace Outcome

/-- A send that ends before the sender is no success, also if it ends with a request to stop. -/
theorem success?_early (c : Collector) (failure : Failure) (supply : Supply) :
    (early c failure supply).success? = none := by
  cases h : failure.isInterrupt with
  | true => simp [early, Collector.leave, h, Option.filter, success?]
  | false => simp [early, Collector.leave_some h, Collector.collect, success?]

end Outcome

theorem successes_cons_some {order : Order} {outcome : Outcome} {response : Response}
    (h : outcome.success? = some response) (orders : List Order) (outcomes : List Outcome) :
    successes (order :: orders) (outcome :: outcomes) =
      (order, response) :: successes orders outcomes := by
  simp [successes, h]

theorem successes_cons_none {order : Order} {outcome : Outcome} (h : outcome.success? = none)
    (orders : List Order) (outcomes : List Outcome) :
    successes (order :: orders) (outcome :: outcomes) = successes orders outcomes := by
  simp [successes, h]

/-- The receipt of the loopback sender tells of success. -/
theorem Sender.status?_processedReceipt (messageId : String) :
    (processedReceipt messageId).status? = some "processed" ∧
      (processedReceipt messageId).isError = false := by
  have hstatus : Receipt.statusOf? processedDisposition = some "processed" := by decide +kernel
  have hfailure : Receipt.tellsFailure (Text.lower "processed").toList = false := by
    decide +kernel
  refine ⟨hstatus, ?_⟩
  unfold Receipt.isError
  rw [show (processedReceipt messageId).status? = some "processed" from hstatus]
  exact hfailure

section

variable [Template.Objects]

/-- A send that never asks its sender is no success, and leaves nothing with it. -/
theorem settled_of_unready {surroundings : Surroundings} {order : Order} {supply : Supply}
    {failure : Failure} (shelf : Shelf) (sender : Sender)
    (hready : order.ready surroundings supply = .error failure) :
    Settled shelf order (send surroundings sender order supply) := by
  rw [send_eq]
  rcases bind_eq_error.1 hready with hmessage | ⟨message, hmessage, hready⟩
  · rw [hmessage]
    exact .nothing (Outcome.success?_early _ _ _) rfl rfl
  · rcases bind_eq_error.1 hready with hsession | ⟨session, -, hpure⟩
    · rw [hmessage, hsession]
      exact .nothing (Outcome.success?_early _ _ _) rfl rfl
    · cases hpure

theorem Order.body_of_message {order : Order} {surroundings : Surroundings} {supply : Supply}
    {message : Message} (h : order.message surroundings supply = .ok message) :
    order.draft.body = .ok message.body := by
  obtain ⟨partnership, -, hassemble⟩ := bind_eq_ok.1 h
  obtain ⟨url, receiver, id, body, -, -, hbody, rfl⟩ := Message.assemble_eq_ok hassemble
  exact hbody

/-- **A send through the loopback sender is settled**: it succeeds just if its message is kept. -/
theorem send_settled (surroundings : Surroundings) (shelf : Shelf) (order : Order)
    (supply : Supply) :
    Settled shelf order (send surroundings (Sender.loopback shelf) order supply) := by
  cases hready : order.ready surroundings supply with
  | error failure => exact settled_of_unready shelf _ hready
  | ok asked =>
    obtain ⟨message, session⟩ := asked
    have hbody := Order.body_of_message (Order.ready_eq_ok.1 hready).1
    have hdelivery := Sender.loopback_eq shelf message session supply.network
    -- the sender itself never fails
    have htells : ∀ failure, (Sender.loopback shelf message session supply.network).failure =
        some failure → failure.isInterrupt = false := by
      rw [hdelivery]
      nofun
    rw [send_of_ready hready htells, hdelivery]
    refine .kept rfl rfl rfl ⟨rfl, hbody, ?_⟩
    -- the message that is kept is the one that was answered
    exact ⟨_, rfl, rfl, rfl, Sender.status?_processedReceipt message.messageId⟩

/-! ## Sends in a row -/

/-- **Each success adds its message** to those that the sender holds, behind the ones of before. -/
theorem sendAll_settled (surroundings : Surroundings) (orders : List Order) {shelf : Shelf}
    (hshelf : shelf.Sound) (supply : Supply) :
    let outcomes := sendAll surroundings Sender.loopback orders shelf supply
    (shelf.after outcomes).Sound ∧
      (∃ added, (shelf.after outcomes).kept = shelf.kept ++ added ∧
        List.Forall₂ (fun success message => Message.ToldBy success.1 success.2 message)
          (successes orders outcomes) added) ∧
      ∀ outcome ∈ outcomes, outcome.reachedSender = outcome.success?.isSome := by
  -- the invariant of the shelf carries the induction
  induction orders generalizing shelf supply with
  | nil => exact ⟨hshelf, ⟨[], (List.append_nil _).symm, .nil⟩, nofun⟩
  | cons order orders ih =>
    rw [sendAll]
    dsimp only
    generalize houtcome : send surroundings (Sender.loopback shelf) order supply = outcome
    have hsettled : Settled shelf order outcome :=
      houtcome ▸ send_settled surroundings shelf order supply
    unfold Shelf.after at ih ⊢
    rw [List.foldl_cons]
    cases hsettled with
    | @kept response message hsuccess hreached heq htold =>
      rw [heq, Option.getD_some, successes_cons_some hsuccess]
      obtain ⟨hsound, ⟨added, hadded, htolds⟩, hreaches⟩ :=
        ih (hshelf.withSent message) outcome.supply
      refine ⟨hsound, ⟨message :: added, ?_, .cons htold htolds⟩, ?_⟩
      · rw [hadded, hshelf.kept_withSent, List.append_assoc, List.singleton_append]
      · exact List.forall_mem_cons.2 ⟨by rw [hreached, hsuccess]; rfl, hreaches⟩
    | nothing hsuccess hreached heq =>
      rw [heq, Option.getD_none, successes_cons_none hsuccess]
      obtain ⟨hsound, hadded, hreaches⟩ := ih hshelf outcome.supply
      exact ⟨hsound, hadded, List.forall_mem_cons.2 ⟨by rw [hreached, hsuccess]; rfl, hreaches⟩⟩

/-- **The loopback sender keeps the messages of the sends that succeeded**, one for each, in the
order of the sends, and nothing of the others. Each lies there with the id that its response tells,
the body that its request was rendered to, and the receipt of its response. A send succeeds just if
it reaches the sender. -/
theorem sendAll_keeps_successes (surroundings : Surroundings) (orders : List Order)
    (supply : Supply) :
    let outcomes := sendAll surroundings Sender.loopback orders {} supply
    let shelf := Shelf.after {} outcomes
    shelf.sent.Nodup ∧ shelf.kept.length = shelf.sent.length ∧
      List.Forall₂ (fun success message => Message.ToldBy success.1 success.2 message)
        (successes orders outcomes) shelf.kept ∧
      ∀ outcome ∈ outcomes, outcome.reachedSender = outcome.success?.isSome := by
  obtain ⟨hsound, ⟨added, hadded, htold⟩, hreached⟩ :=
    sendAll_settled surroundings orders Shelf.Sound.empty supply
  have hkept : (Shelf.after {} (sendAll surroundings Sender.loopback orders {} supply)).kept =
      added := hadded
  rw [← hkept] at htold
  exact ⟨hsound.once, hsound.length_kept, htold, hreached⟩

end

namespace HonestPartner

attribute [local instance] Codecs.empty Template.Objects.kinds

/-- An order whose session cannot be opened. -/
def unopened : Order :=
  { order plainFormat with partnershipsFail := some ⟨.ordinary, "RuntimeError", none⟩ }

end HonestPartner

open HonestPartner

attribute [local instance] Codecs.empty Template.Objects.kinds

/-- Of a send that fails and one that does not, the message of the latter is kept, with its
receipt. -/
theorem sendAll_keeps_second :
    let outcomes := sendAll surroundings Sender.loopback [unopened, order plainFormat] {} ⟨1, []⟩
    outcomes.map (·.reachedSender) = [false, true] ∧
    ∃ message, (Shelf.after {} outcomes).kept = [message] ∧
      message.messageId = "00000000000000000000000000000002@ME" ∧
      (message.receipt.bind (·.status?)) = some "processed" := by
  obtain ⟨-, -, htold, -⟩ :=
    sendAll_keeps_successes surroundings [unopened, order plainFormat] ⟨1, []⟩
  have hreached : (sendAll surroundings Sender.loopback [unopened, order plainFormat] {}
      ⟨1, []⟩).map (·.reachedSender) = [false, true] := by
    decide +kernel
  have hids : (successes [unopened, order plainFormat] (sendAll surroundings Sender.loopback
      [unopened, order plainFormat] {} ⟨1, []⟩)).map (·.2.originalMessageId) =
        ["00000000000000000000000000000002@ME"] := by
    decide +kernel
  obtain ⟨success, hsuccess, hid⟩ := List.map_eq_singleton_iff.1 hids
  rw [hsuccess] at htold
  refine ⟨hreached, ?_⟩
  generalize (Shelf.after {} (sendAll surroundings Sender.loopback [unopened, order plainFormat] {}
    ⟨1, []⟩)).kept = kept at htold ⊢
  cases htold with
  | cons hfirst hrest =>
    cases hrest
    obtain ⟨receipt, hreceipt, -, -, hstatus, -⟩ := hfirst.receipt
    refine ⟨_, rfl, hfirst.messageId.trans hid, ?_⟩
    rw [hreceipt]
    exact hstatus

end As2Exchange
