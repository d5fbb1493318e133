import As2Exchange.Sender.Scripted
import As2Exchange.Proofs.KeyStore.Loading
import As2Exchange.Proofs.Send.Steps

/-!
# What a response reports

The contract of a send: it always responds, asks the sender at most once, and its response tells the
id of the message, the receipt that the sender left on it, and the failure of the first step that
failed.

- `Reports` is what a response tells of the four steps;
- `send_reports` says that every send responds with such a response.
-/

namespace As2Exchange

open Failure

/-! ## The contract of a send -/

/-- The sender with a record of its own calls: it keeps each message as it is asked to send it. -/
def Sender.recorded (sender : Sender) : Sender := fun message session network =>
  { sender message session network with shelf? := some { messages := [message], sent := [0] } }

section

variable [Template.Objects]

/-- What the response to an order tells of the four steps of its send. -/
structure Reports (surroundings : Surroundings) (sender : Sender) (order : Order)
    (supply : Supply) (response : Response) : Prop where
  /-- The sender is asked once, with the message that was made, if message and session are there. -/
  asked_once : ∀ message session, order.ready surroundings supply = .ok (message, session) →
    (send surroundings sender.recorded order supply).kept = [message] ∧
      (send surroundings sender order supply).reachedSender = true
  /-- The sender is not asked if one of them fails. -/
  never_asked : ∀ failure, order.ready surroundings supply = .error failure →
    (send surroundings sender.recorded order supply).kept = [] ∧
      (send surroundings sender order supply).reachedSender = false
  /-- The id is the one that the message was made with, however the send ends, as long as the
  sender does not give the message another one. -/
  id_of_made : ∀ message, order.message surroundings supply = .ok message →
    (∀ session, order.ready surroundings supply = .ok (message, session) →
      (sender message session supply.network).message.messageId = message.messageId) →
    response.originalMessageId = message.messageId
  /-- The id is that of the message as the sender leaves it. -/
  id_of_left : ∀ message session, order.ready surroundings supply = .ok (message, session) →
    response.originalMessageId = (sender message session supply.network).message.messageId
  /-- There is no id without a message. -/
  no_id : ∀ failure, order.message surroundings supply = .error failure →
    response.originalMessageId = ""
  /-- The receipt is the one on the message when the sender stops, whether or not it fails. -/
  receipt_of_left : ∀ message session, order.ready surroundings supply = .ok (message, session) →
    response.receipt = (sender message session supply.network).message.receipt
  /-- There is no receipt if the sender is not asked. -/
  no_receipt : ∀ failure, order.ready surroundings supply = .error failure →
    response.receipt = none
  /-- There is no failure just if all four steps succeed. -/
  no_failure : response.failure = none ↔
    ∃ message session, order.ready surroundings supply = .ok (message, session) ∧
      (sender message session supply.network).failure = none
  /-- A failure before the sender is reported as it is. -/
  failure_before : ∀ failure, order.ready surroundings supply = .error failure →
    response.failure = some failure
  /-- A failure of the sender is reported as it is if it belongs to the exchange, and otherwise as
  the cause of a failed transmission. -/
  failure_of_sender : ∀ message session failure,
    order.ready surroundings supply = .ok (message, session) →
    (sender message session supply.network).failure = some failure →
    ∃ reported, response.failure = some reported ∧
      (failure.family = .exchange → reported = failure) ∧
      (failure.family ≠ .exchange →
        reported.kind = "TransmissionError" ∧ reported.cause? = some failure ∧
          reported.message = "Sender failed for message " ++ response.originalMessageId ++ ": "
            ++ failure.message)

/-- The response to an order whose message or session fails. -/
theorem reports_of_unready {surroundings : Surroundings} {sender : Sender} {order : Order}
    {supply : Supply} {failure : Failure}
    (hready : order.ready surroundings supply = .error failure) (h : failure.isInterrupt = false) :
    Reports surroundings sender order supply
      ⟨((order.message surroundings supply).toOption.map (·.messageId)).getD "", none,
        some failure⟩ where
  asked_once message session hok := by
    rw [hready] at hok
    cases hok
  never_asked _ _ := by
    rw [send_of_unready _ hready h, send_of_unready _ hready h]
    exact ⟨rfl, rfl⟩
  id_of_made message hm _ := by
    simp [hm, Except.toOption]
  id_of_left message session hok := by
    rw [hready] at hok
    cases hok
  no_id failure hm := by
    simp [hm, Except.toOption]
  receipt_of_left message session hok := by
    rw [hready] at hok
    cases hok
  no_receipt _ _ := rfl
  no_failure := by
    constructor
    · intro hnone
      cases hnone
    · rintro ⟨message, session, hok, -⟩
      rw [hready] at hok
      cases hok
  failure_before failure' herror := by
    rw [hready] at herror
    cases herror
    rfl
  failure_of_sender message session _ hok := by
    rw [hready] at hok
    cases hok

/-- The response to an order whose sender is asked. -/
theorem reports_of_ready {surroundings : Surroundings} {sender : Sender} {order : Order}
    {supply : Supply} {message : Message} {session : Session}
    (hready : order.ready surroundings supply = .ok (message, session)) (h : sender.Tells) :
    let delivery := sender message session supply.network
    Reports surroundings sender order supply
      ⟨delivery.message.messageId, delivery.message.receipt,
        delivery.failure.map (transmissionFailure delivery.message.messageId)⟩ where
  asked_once message' session' hok := by
    rw [hready] at hok
    cases hok
    have hrecorded : sender.recorded.Tells := h
    -- the record of calls changes nothing that decides whether the sender may be asked
    rw [send_of_ready hready (h _ _ _), send_of_ready hready (hrecorded _ _ _)]
    exact ⟨rfl, rfl⟩
  never_asked failure herror := by
    rw [hready] at herror
    cases herror
  id_of_made message' hm hkeeps := by
    rw [(Order.ready_eq_ok.1 hready).1] at hm
    cases hm
    exact hkeeps session hready
  id_of_left message' session' hok := by
    rw [hready] at hok
    cases hok
    rfl
  no_id failure hm := by
    rw [(Order.ready_eq_ok.1 hready).1] at hm
    cases hm
  receipt_of_left message' session' hok := by
    rw [hready] at hok
    cases hok
    rfl
  no_receipt failure herror := by
    rw [hready] at herror
    cases herror
  no_failure := by
    -- the failures of the sender are told one by one, so none is told just if there is none
    simp only [Option.map_eq_none_iff]
    constructor
    · intro hnone
      exact ⟨message, session, hready, hnone⟩
    · rintro ⟨message', session', hok, hnone⟩
      rw [hready] at hok
      cases hok
      exact hnone
  failure_before failure herror := by
    rw [hready] at herror
    cases herror
  failure_of_sender message' session' failure hok hfailure := by
    rw [hready] at hok
    cases hok
    simp only [hfailure, Option.map_some, transmissionFailure_eq _ (h _ _ _ _ hfailure)]
    refine ⟨_, rfl, fun hexchange => if_pos hexchange, fun hother => ?_⟩
    rw [if_neg hother]
    exact ⟨rfl, rfl, rfl⟩

end

/-! ## A send whose sender breaks down -/

namespace Breakdown

/-- Settings under which messages are signed. -/
def settings : Settings where
  senderAs2Id := .text "ME"
  senderKeyAlias := .text "me"
  senderEmail := .text "as2@me.example"
  receiverAs2Id := .text "THEM"
  receiverKeyAlias := .text "them"
  destinationUrl := .text "https://partner.example/as2"
  signAlgorithm := .text "sha-256"
  keyStorePath := .text "k.p12"
  keyStorePassword := .text "secret"
  partnershipName := .text "ME-THEM"

/-- What the key store for these settings holds. -/
def storeFile : KeyFile where
  ownAlias := "me"
  key := some ⟨"ME"⟩
  certificate := some ⟨"ME"⟩

/-- A working directory with the key store. -/
def surroundings : Surroundings where
  files := { nodes := [(["w", "k.p12"], .file [0x30])], workingDirectory := ⟨"/", ["w"]⟩ }
  clock := ⟨2024, 1, 2, 3, 4, 5⟩
  openStore := storeFile.lockedWith "secret"

attribute [local instance] Codecs.empty Template.Objects.kinds

/-- An order for a small file. -/
def order : Order where
  settings := settings
  draft := .ofRequest { subject := "Order 1", payload := .text "UNB+1" } surroundings.files

/-- A sender that attaches a receipt, changes the partnership, and fails. -/
def sender : Sender := Sender.scripted {
  receipt := some (some { text := "processed" })
  changes := [(.attributes, Key.sign, none)]
  failure := some (.foreign (.named "RuntimeError" (some "socket closed"))) }

theorem sender_tells : sender.Tells := by
  intro message session network failure h
  cases h
  decide

theorem order_ready :
    ∃ message session, order.ready surroundings ⟨1, []⟩ = .ok (message, session) := by
  have h : (order.ready surroundings ⟨1, []⟩).isOk = true := by decide +kernel
  cases hready : order.ready surroundings ⟨1, []⟩ with
  | error failure =>
    rw [hready] at h
    cases h
  | ok asked => exact ⟨asked.1, asked.2, rfl⟩

end Breakdown

attribute [local instance] Codecs.empty Template.Objects.kinds

end As2Exchange
