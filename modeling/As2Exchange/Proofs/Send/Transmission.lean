import As2Exchange.Proofs.Receipt.Unreadable
import As2Exchange.Proofs.Send.Confirmed

/-!
# Failures in transmission

Once a message is made under checked settings and a session is open, a send fails in transmission or
not at all. Two layers see to this: the sender wraps what the key store and the transport refuse,
and the send wraps everything else, such as an answer that cannot be read.

- `Failure.InTransmission` are the failures that the two layers make failures of the transmission;
- `Sender.http_inTransmission` says that the HTTP sender fails with no other ones;
- `send_fails_in_transmission` says what this means for a send.
-/

namespace As2Exchange

/-! ## Failures -/

/-- The failure is one of the transmission, or one that is wrapped into one. -/
def Failure.InTransmission (failure : Failure) : Prop :=
  (∃ e, failure = .transmission e) ∨ failure.Ordinary

theorem Failure.Ordinary.isInterrupt {failure : Failure} (h : failure.Ordinary) :
    failure.isInterrupt = false := by
  rw [Failure.isInterrupt, h]
  rfl

theorem Failure.InTransmission.isInterrupt {failure : Failure} (h : failure.InTransmission) :
    failure.isInterrupt = false := by
  rcases h with ⟨e, rfl⟩ | hordinary
  · rfl
  · exact hordinary.isInterrupt

theorem transmissionFailure_of_ordinary (messageId : String) {failure : Failure}
    (h : failure.Ordinary) : transmissionFailure messageId failure = .sender messageId failure := by
  unfold transmissionFailure
  rw [h]

theorem transmissionFailure_kind (messageId : String) {failure : Failure}
    (h : failure.InTransmission) :
    (transmissionFailure messageId failure).kind = "TransmissionError" := by
  rcases h with ⟨e, rfl⟩ | hordinary
  · rfl
  · rw [transmissionFailure_of_ordinary messageId hordinary]
    rfl

/-- The transport fails with a failure of its own or an ordinary one: with none of the exchange, and
with no request to stop. -/
def Foreign.OfTransport (cause : Foreign) : Prop :=
  cause.family = .transport ∨ cause.family = .ordinary

/-! ## The session -/

/-- In a session that has just been opened no partnerships are known. -/
theorem Session.eq_of_start {surroundings : Surroundings} {settings : Settings}
    {partnershipsFail : Option Foreign} {session : Session}
    (h : start surroundings settings partnershipsFail = .ok session) :
    session = { keyStore := session.keyStore } := by
  obtain ⟨store, -, h⟩ := bind_eq_ok.1 h
  -- a registry that cannot be opened opens no session
  cases partnershipsFail with
  | none =>
    cases h
    rfl
  | some cause =>
    dsimp only at h
    split at h
    · cases h
    · cases h

namespace Sender

/-! ## The sender -/

variable {timeout : Double} {message : Message} {session : Session} {network : Network}

/-- With a digest that is known, only a key can be lacking. -/
theorem prepare_inTransmission {sent : String} (hsent : sentDigest message = .ok sent) :
    FailsIn Failure.InTransmission (prepare message session) := by
  unfold prepare
  split
  · exact .error (.inl ⟨_, rfl⟩)
  · rw [hsent]
    exact .ok _

theorem postFailure_inTransmission (messageId : String) {cause : Foreign} (h : cause.OfTransport) :
    (postFailure messageId cause).InTransmission := by
  unfold postFailure
  split
  · exact .inl ⟨_, rfl⟩
  · rename_i hother
    exact .inr (h.resolve_left hother)

section

variable [Codecs] [Mime.Nesting]

/-- An answer that cannot be read or is not accepted fails in transmission. -/
theorem receive_inTransmission {sent : String} {answer : Answer} {failure : Failure}
    (h : (receive message sent answer).2 = some failure) : failure.InTransmission := by
  -- the answer is unreadable, there is none to judge, or a verdict was reached
  unfold receive at h
  split at h
  · rename_i hread
    cases h
    exact .inr (Report.read?_ofReading _ _ _ hread).ordinary
  · cases h
  · obtain ⟨e, -, rfl⟩ := Option.map_eq_some_iff.1 h
    exact .inl ⟨e, rfl⟩

theorem exchange_inTransmission {url sent : String}
    (hreply : ∀ cause, network.next.1 = .failure cause → cause.OfTransport) {failure : Failure}
    (h : (exchange timeout url sent message session network).failure = some failure) :
    failure.InTransmission := by
  unfold exchange at h
  revert hreply h
  -- either a reply came, with its status and its body, or the post failed
  rcases network.next with ⟨answer | cause, rest⟩
  · intro _ h
    dsimp only at h
    cases hstatus : answer.failure? url with
    | some error =>
      rw [hstatus] at h
      cases h
      exact .inl ⟨_, rfl⟩
    | none =>
      rw [hstatus] at h
      exact receive_inTransmission h
  · intro hreply h
    cases h
    exact postFailure_inTransmission _ (hreply cause rfl)

/-- **The HTTP sender fails in transmission** if the digest is known and so does the transport. -/
theorem http_inTransmission {sent : String}
    (hsent : sentDigest (complete message session).1 = .ok sent)
    (hreply : ∀ cause, network.next.1 = .failure cause → cause.OfTransport) {failure : Failure}
    (h : (http timeout message session network).failure = some failure) :
    failure.InTransmission := by
  unfold http at h
  split at h
  · cases h
    exact .inl ⟨_, rfl⟩
  · dsimp only at h
    split at h
    · rename_i hprepare
      cases h
      exact prepare_inTransmission hsent _ hprepare
    · exact exchange_inTransmission hreply h

/-- A message that was posted fails with an answer that cannot be read. -/
theorem http_of_unread (hposts : (http timeout message session network).posts ≠ [])
    {answer : Answer} {rest : Network} (hanswer : network.next = (.answer answer, rest))
    (hstatus : answer.status < 400 ∨ 600 ≤ answer.status) {failure : Failure}
    (hread : Report.read? (answer.header? "Content-Type") answer.body = .error failure) :
    (http timeout message session network).failure = some failure ∧
      (http timeout message session network).message = (complete message session).1 := by
  obtain ⟨url, sent, -, -, hexchange⟩ := http_of_posts hposts
  rw [hexchange, exchange_answered hanswer hstatus]
  dsimp only
  unfold receive
  rw [hread]
  exact ⟨rfl, rfl⟩

end

end Sender

/-! ## The send -/

/-- The digest under which a message is sent is the one of the settings, as they spell it, or the
default one. -/
theorem Settings.Valid.digestName_eq {s : Settings} (hvalid : s.Valid) {message : Message}
    (h : s.partnership = .ok message.partnership) :
    s.signAlgorithm = .text message.digestName ∨
      s.signAlgorithm = .null ∧ message.digestName = "sha-256" := by
  have hvalue := attribute?_partnership h (show s.attributes.lookup Key.sign =
    some s.signAlgorithm from rfl)
  unfold Message.digestName
  -- a name that was checked is that of a digest, and so is given
  rcases hvalid.signAlgorithm with hnull | ⟨name, algorithm, hname, halgorithm⟩
  · rw [hnull] at hvalue
    rw [← Checked.valid_eq_ok.1 hvalue]
    exact .inr ⟨hnull, rfl⟩
  · rw [hname] at hvalue
    have hne := DigestAlgorithm.ne_empty_of_ofName? halgorithm
    rw [Message.given?_eq_some.2 ⟨eq_some_of_optionalText hvalue, hne⟩]
    exact .inl hname

theorem Network.next_mem {network : Network} {cause : Foreign}
    (h : network.next.1 = .failure cause) : Reply.failure cause ∈ network := by
  cases network with
  | nil => cases h
  | cons reply rest =>
    obtain rfl : reply = .failure cause := h
    exact List.mem_cons_self

/-- **A send under checked settings fails in transmission or not at all**, once its message is made
and its session is open. The digest is always known, and an answer that cannot be read is told as
the cause of a failed transmission. -/
theorem send_fails_in_transmission [Codecs] [Mime.Nesting] [Template.Objects] {record : Value}
    {surroundings : Surroundings} {order : Order} {supply : Supply} {message : Message}
    {session : Session} (timeout : Double)
    (hsettings : (Settings.check record).result = .ok order.settings)
    (hready : order.ready surroundings supply = .ok (message, session))
    (hreplies : ∀ cause, Reply.failure cause ∈ supply.network → cause.OfTransport) :
    let digestName := (Sender.complete message session).1.digestName
    (order.settings.signAlgorithm = .text digestName ∨
      order.settings.signAlgorithm = .null ∧ digestName = "sha-256") ∧
    (∀ body : MimeBody, ∃ sent, body.integrityCheck digestName = .ok sent) ∧
    ∃ response,
      (send surroundings (Sender.http timeout) order supply).response = .ok response ∧
      (∀ failure, response.failure = some failure → failure.kind = "TransmissionError") ∧
      ∀ answer rest failure,
        (send surroundings (Sender.http timeout) order supply).posts ≠ [] →
        supply.network.next = (.answer answer, rest) →
        answer.status < 400 ∨ 600 ≤ answer.status →
        Report.read? (answer.header? "Content-Type") answer.body = .error failure →
        ∃ reported, response.failure = some reported ∧
          reported.kind = "TransmissionError" ∧ reported.cause? = some failure := by
  obtain ⟨hmessage, hsession⟩ := Order.ready_eq_ok.1 hready
  obtain ⟨partnership, hpartnership, hassemble⟩ := bind_eq_ok.1 hmessage
  obtain ⟨rfl, -⟩ := Message.destination_of_assemble hassemble
  have hvalid := Settings.valid_of_check hsettings
  obtain ⟨algorithm, halgorithm⟩ := hvalid.digest_known hpartnership
  -- nothing is known in the session, so the message is judged as it was made
  have hcomplete : (Sender.complete message session).1 = message := by
    rw [Session.eq_of_start hsession, Sender.complete_fresh]
  have hdigest : ∀ body : MimeBody, ∃ sent,
      body.integrityCheck message.digestName = .ok sent := by
    intro body
    rw [MimeBody.integrityCheck, halgorithm]
    exact ⟨_, rfl⟩
  obtain ⟨sent, hsent⟩ : ∃ sent,
      Sender.sentDigest (Sender.complete message session).1 = .ok sent := by
    rw [hcomplete]
    exact hdigest message.body
  have hfails : ∀ failure,
      (Sender.http timeout message session supply.network).failure = some failure →
        failure.InTransmission := fun failure hfailure =>
    Sender.http_inTransmission hsent (fun cause hcause => hreplies cause (Network.next_mem hcause))
      hfailure
  have hsend := send_of_ready hready fun failure hfailure => (hfails failure hfailure).isInterrupt
  dsimp only at hsend ⊢
  rw [hsend, hcomplete]
  refine ⟨hvalid.digestName_eq hpartnership, hdigest, _, rfl, ?kind, ?unread⟩
  case kind =>
    intro failure hfailure
    obtain ⟨cause, hcause, rfl⟩ := Option.map_eq_some_iff.1 hfailure
    exact transmissionFailure_kind _ (hfails cause hcause)
  case unread =>
    intro answer rest failure hposts hanswer hstatus hread
    obtain ⟨hfailure, -⟩ := Sender.http_of_unread hposts hanswer hstatus hread
    have hordinary := (Report.read?_ofReading _ _ _ hread).ordinary
    dsimp only
    rw [hfailure, Option.map_some, transmissionFailure_of_ordinary _ hordinary]
    exact ⟨_, rfl, rfl, rfl⟩

/-! ## An answer in an unknown charset -/

namespace Unread

attribute [local instance] Codecs.empty

/-- A record of settings whose digest is spelled in another letter case. -/
def record : Value :=
  .mapping [(.text "sender_as2_id", .text "ME"), (.text "sender_key_alias", .text "me"),
    (.text "sender_email", .text "as2@me.example"), (.text "receiver_as2_id", .text "THEM"),
    (.text "receiver_key_alias", .text "them"),
    (.text "destination_url", .text "https://partner.example/as2"),
    (.text "sign_algorithm", .text "SHA-256"), (.text "key_store_path", .text "k.p12"),
    (.text "key_store_password", .text "secret")]

def order : Order where
  settings :=
    { HonestPartner.settings defaultMessageIdFormat with signAlgorithm := .text "SHA-256" }
  draft := .ofRequest { subject := "Order 1", payload := .text "UNB+1" }
    HonestPartner.surroundings.files

def answer : Answer where
  headers := [("Content-Type", "text/plain; charset=nosuch")]
  body := [111, 107]

end Unread

attribute [local instance] Codecs.empty Mime.Nesting.thousand Template.Objects.kinds

open HonestPartner Unread in
/-- The charset of the answer is not known; the message was posted, and the send fails in
transmission. -/
theorem send_fails_in_transmission_unread :
    (Settings.check Unread.record).result = .ok Unread.order.settings ∧
    ∃ message session response reported failure,
      Unread.order.ready surroundings ⟨1, [.answer answer]⟩ = .ok (message, session) ∧
      (send surroundings (Sender.http Sender.defaultTimeout) Unread.order
        ⟨1, [.answer answer]⟩).response = .ok response ∧
      response.failure = some reported ∧ reported.kind = "TransmissionError" ∧
      reported.cause? = some failure := by
  have hsettings : (Settings.check Unread.record).result = .ok Unread.order.settings := rfl
  have hready : (Unread.order.ready surroundings ⟨1, [.answer answer]⟩).isOk = true := by
    decide +kernel
  have hposts : (send surroundings (Sender.http Sender.defaultTimeout) Unread.order
      ⟨1, [.answer answer]⟩).posts ≠ [] := by
    decide +kernel
  have hread : (Report.read? (answer.header? "Content-Type") answer.body).isOk = false := by
    decide +kernel
  cases hasked : Unread.order.ready surroundings ⟨1, [.answer answer]⟩ with
  | error failure =>
    rw [hasked] at hready
    cases hready
  | ok asked =>
    cases hunread : Report.read? (answer.header? "Content-Type") answer.body with
    | ok receipt? =>
      rw [hunread] at hread
      cases hread
    | error failure =>
      obtain ⟨message, session⟩ := asked
      have hreplies : ∀ cause, Reply.failure cause ∈ [Reply.answer answer] →
          cause.OfTransport := by
        simp
      obtain ⟨-, -, response, hresponse, -, htold⟩ := send_fails_in_transmission
        Sender.defaultTimeout hsettings hasked hreplies
      obtain ⟨reported, hreported, hkind, hcause⟩ :=
        htold answer [] failure hposts rfl (.inl (by decide)) hunread
      exact ⟨hsettings, message, session, response, reported, failure, rfl, hresponse, hreported,
        hkind, hcause⟩

end As2Exchange
