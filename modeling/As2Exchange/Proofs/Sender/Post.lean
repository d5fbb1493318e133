import As2Exchange.Sender.Http
import As2Exchange.Proofs.Failure.Result
import As2Exchange.Proofs.Message.Assembly
import As2Exchange.Proofs.Partnership.Fill

/-!
# The way to the post

What must hold for the HTTP sender to post a message, and what it does then.

- `http_posts` says when a message is posted, and `http_of_posts` goes back from the post to the
  steps before it;
- `exchange_eq` is the outcome of a post, and `exchange_answered` that of one whose answer has no
  status of failure.
-/

namespace As2Exchange

/-- The name of the digest under which a message is sent. -/
def Message.digestName (message : Message) : String :=
  (Message.given? (message.partnership.attribute? Key.sign)).getD Sender.defaultDigest

namespace Answer

/-- A status tells of no failure just if it is not one from 400 to 599. -/
theorem failure?_eq_none {answer : Answer} {url : String} :
    answer.failure? url = none ↔ answer.status < 400 ∨ 600 ≤ answer.status := by
  unfold failure?
  split
  · rename_i h
    simp only [Bool.and_eq_true, decide_eq_true_eq] at h
    constructor
    · intro hsome
      cases hsome
    · intro hstatus
      omega
  · rename_i h
    simp only [Bool.and_eq_true, decide_eq_true_eq] at h
    constructor
    · intro _
      omega
    · intro _
      rfl

end Answer

namespace Sender

/-! ## Before the post -/

/-- The digest is that of the posted bytes, under an algorithm that is known. -/
theorem sentDigest_eq_ok {message : Message} {sent : String} :
    sentDigest message = .ok sent ↔
      ∃ algorithm, DigestAlgorithm.ofName? message.digestName = some algorithm ∧
        sent = String.ofList (Base64.encode (algorithm.digest message.body.transmitted)) ++ ", "
          ++ Text.lower message.digestName := by
  show message.body.integrityCheck message.digestName = .ok sent ↔ _
  unfold MimeBody.integrityCheck
  cases DigestAlgorithm.ofName? message.digestName with
  | none =>
    constructor
    · intro h
      cases h
    · rintro ⟨algorithm, h, -⟩
      cases h
  | some algorithm =>
    constructor
    · intro h
      cases h
      exact ⟨algorithm, rfl, rfl⟩
    · rintro ⟨_, h, rfl⟩
      cases h
      rfl

/-- A message is prepared if its keys are there and its digest is known. -/
theorem prepare_eq_ok {message : Message} {session : Session} {sent : String} :
    prepare message session = .ok sent ↔
      requireKeys message.partnership session.keyStore = .ok () ∧
        sentDigest message = .ok sent := by
  unfold prepare
  cases requireKeys message.partnership session.keyStore with
  | error cause =>
    constructor
    · intro h
      cases h
    · rintro ⟨h, -⟩
      cases h
  | ok _ =>
    constructor
    · intro h
      exact ⟨rfl, h⟩
    · rintro ⟨-, h⟩
      exact h

/-! ## The post -/

theorem handle_send (sender : Sender) : sender.handle sendAction = sender := by
  funext message session network
  unfold handle
  rw [if_pos rfl]

section

variable [Codecs] [Mime.Nesting] {timeout : Double} {message : Message} {session : Session}
  {network : Network}

/-- A message is posted only when it has a destination and is prepared, and then it is exchanged. -/
theorem http_of_posts (h : (http timeout message session network).posts ≠ []) :
    ∃ url sent, Message.given? message.destination? = some url ∧
      prepare (complete message session).1 (complete message session).2 = .ok sent ∧
      http timeout message session network =
        exchange timeout url sent (complete message session).1 (complete message session).2
          network := by
  unfold http at h ⊢
  -- two ways end before the post: no destination, and keys or a digest that are lacking
  cases hurl : Message.given? message.destination? with
  | none =>
    rw [hurl] at h
    exact absurd rfl h
  | some url =>
    rw [hurl] at h
    dsimp only at h ⊢
    cases hprepare : prepare (complete message session).1 (complete message session).2 with
    | error failure =>
      rw [hprepare] at h
      exact absurd rfl h
    | ok sent => exact ⟨url, sent, rfl, rfl, rfl⟩

/-- The answer to a post puts at most a receipt on the message. -/
theorem receive_message (message : Message) (sent : String) (answer : Answer) :
    ∃ receipt, (receive message sent answer).1 = { message with receipt } := by
  unfold receive
  -- a reading that fails leaves the old receipt, and an empty answer takes it away
  split
  · exact ⟨message.receipt, rfl⟩
  · exact ⟨none, rfl⟩
  · exact ⟨some _, rfl⟩

/-- Whatever the reply, the message is posted once, one reply is taken, and at most a receipt is put
on the message. -/
theorem exchange_eq (timeout : Double) (url sent : String) (message : Message) (session : Session)
    (network : Network) :
    ∃ receipt failure, exchange timeout url sent message session network =
      { message := { message with receipt }
        session
        network := network.drop 1
        posts := [postOf message url timeout]
        failure } := by
  have hnext : network.next.2 = network.drop 1 := by
    cases network with
    | nil => rfl
    | cons reply rest => rfl
  rw [← hnext]
  unfold exchange
  -- either the network has an answer, or the post fails and puts nothing on the message
  rcases network.next with ⟨answer | cause, rest⟩
  · dsimp only
    cases answer.failure? url with
    | some error => exact ⟨message.receipt, _, rfl⟩
    | none =>
      obtain ⟨receipt, hmessage⟩ := receive_message message sent answer
      dsimp only
      rw [hmessage]
      exact ⟨receipt, _, rfl⟩
  · exact ⟨message.receipt, _, rfl⟩

theorem exchange_posts (url sent : String) :
    (exchange timeout url sent message session network).posts = [postOf message url timeout] := by
  obtain ⟨receipt, failure, heq⟩ := exchange_eq timeout url sent message session network
  rw [heq]

/-- A message with a destination that is prepared goes to the exchange. -/
theorem http_eq {url sent : String} (hurl : Message.given? message.destination? = some url)
    (hprepare : prepare (complete message session).1 (complete message session).2 = .ok sent) :
    http timeout message session network =
      exchange timeout url sent (complete message session).1 (complete message session).2
        network := by
  unfold http
  rw [hurl]
  dsimp only
  rw [hprepare]

theorem http_posts {url sent : String} (hurl : Message.given? message.destination? = some url)
    (hprepare : prepare (complete message session).1 (complete message session).2 = .ok sent) :
    (http timeout message session network).posts =
      [postOf (complete message session).1 url timeout] := by
  rw [http_eq hurl hprepare]
  exact exchange_posts url sent

/-- An answer without a status of failure is taken in as it is. -/
theorem exchange_answered {url sent : String} {answer : Answer} {rest : Network}
    (hanswer : network.next = (.answer answer, rest))
    (hstatus : answer.status < 400 ∨ 600 ≤ answer.status) :
    exchange timeout url sent message session network =
      { message := (receive message sent answer).1
        session
        network := rest
        posts := [postOf message url timeout]
        failure := (receive message sent answer).2 } := by
  unfold exchange
  rw [hanswer]
  dsimp only
  rw [Answer.failure?_eq_none.2 hstatus]

end

/-- In a session where no partnerships are known, a message stays as it is. -/
theorem complete_fresh (message : Message) (store : KeyStore) :
    complete message { keyStore := store } =
      (message, ⟨store, ⟨[(message.partnership.name, message.partnership)]⟩⟩) := by
  -- the partnership is added as it is, and completes itself
  have hadded : complete message { keyStore := store } =
      ({ message with partnership := message.partnership.fillFrom message.partnership },
        ⟨store, ⟨[(message.partnership.name, message.partnership)]⟩⟩) := rfl
  rw [hadded, Partnership.fillFrom_self]

end Sender

end As2Exchange
