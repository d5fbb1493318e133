import As2Exchange.Proofs.Sender.Acceptance

/-!
# Statuses of answers

The HTTP sender leaves it to the transport to say which statuses are failures, and that says so of
those from 400 to 599 only. Such an answer ends the sending, and its body is not read. The status of
any other answer plays no part in what follows: informational answers, redirects and statuses from
600 on are taken for a success, and their body for a receipt.
-/

namespace As2Exchange.Sender

variable {timeout : Double} {message : Message} {session : Session} {network : Network}

/-- A run rejects the answer to its post: it fails in the transmission, and the receipt of the
message is the one from before. -/
def Rejects (before : Message) (delivery : Delivery) : Prop :=
  (∃ error, delivery.failure = some (.transmission error)) ∧
    delivery.message.receipt = before.receipt

/-- A run ends with the status of the answer to its post. -/
structure EndsWithStatus (before : Message) (answer : Answer) (delivery : Delivery) : Prop where
  /-- The failure tells the status, and the address that was posted to. -/
  failure : ∃ post, delivery.posts = [post] ∧ delivery.failure =
    some (.transmission (.post before.messageId (.status answer.status answer.reason post.url)))
  receipt : delivery.message.receipt = before.receipt

theorem EndsWithStatus.rejects {answer : Answer} {delivery : Delivery}
    (h : EndsWithStatus message answer delivery) : Rejects message delivery := by
  obtain ⟨post, -, hfailure⟩ := h.failure
  exact ⟨⟨_, hfailure⟩, h.receipt⟩

section

variable [Codecs] [Mime.Nesting]

/-! ## The exchange -/

/-- The body of an answer with a status of failure is not read. -/
theorem exchange_of_status {url sent : String} {answer : Answer} {rest : Network}
    (hanswer : network.next = (.answer answer, rest))
    (hstatus : 400 ≤ answer.status ∧ answer.status < 600) :
    exchange timeout url sent message session network =
      { message
        session
        network := rest
        posts := [postOf message url timeout]
        failure := some (.transmission (.post message.messageId
          (.status answer.status answer.reason url))) } := by
  have herror : answer.failure? url = some (.status answer.status answer.reason url) := by
    unfold Answer.failure?
    rw [if_pos (by simpa using hstatus)]
  unfold exchange
  rw [hanswer]
  dsimp only
  rw [herror]

/-- Of an answer without a status of failure only the headers and the body count. -/
theorem exchange_ignores_status {url sent : String} {answer : Answer} {rest : Network}
    (hstatus : answer.status < 400 ∨ 600 ≤ answer.status) :
    exchange timeout url sent message session (.answer answer :: rest) =
      exchange timeout url sent message session
        (.answer { headers := answer.headers, body := answer.body } :: rest) := by
  rw [exchange_answered rfl hstatus,
    exchange_answered rfl (.inl (show (200 : Int) < 400 by decide))]
  rfl

/-! ## The sender -/

/-- A message is posted whatever the network holds. -/
theorem http_eq_of_posts (h : (http timeout message session network).posts ≠ []) :
    ∃ url sent, ∀ replies, http timeout message session replies =
      exchange timeout url sent (complete message session).1 (complete message session).2
        replies := by
  obtain ⟨url, sent, hurl, hprepare, -⟩ := http_of_posts h
  exact ⟨url, sent, fun _ => http_eq hurl hprepare⟩

theorem http_posts_whatever (h : (http timeout message session network).posts ≠ [])
    (replies : Network) : (http timeout message session replies).posts ≠ [] := by
  obtain ⟨url, sent, hhttp⟩ := http_eq_of_posts h
  rw [hhttp, exchange_posts]
  exact List.cons_ne_nil _ _

/-- **The sender rejects just the statuses from 400 to 599.** For a message that is posted, the
answers of a status are all rejected just if the status is one of these, and then the failure tells
it. An answer with any other status is taken as one with 200 would be. -/
theorem http_rejects_iff (hposts : (http timeout message session network).posts ≠ [])
    (status : Int) :
    ((∀ answer rest, answer.status = status →
        Rejects message (http timeout message session (.answer answer :: rest))) ↔
      400 ≤ status ∧ status < 600) ∧
    ∀ answer rest, answer.status = status →
      (400 ≤ status ∧ status < 600 →
        EndsWithStatus message answer
          (http timeout message session (.answer answer :: rest))) ∧
      (status < 400 ∨ 600 ≤ status →
        http timeout message session (.answer answer :: rest) =
          http timeout message session
            (.answer { headers := answer.headers, body := answer.body } :: rest)) := by
  obtain ⟨url, sent, hhttp⟩ := http_eq_of_posts hposts
  have hends : ∀ answer rest, 400 ≤ answer.status ∧ answer.status < 600 →
      EndsWithStatus message answer
        (http timeout message session (.answer answer :: rest)) := by
    intro answer rest hstatus
    rw [hhttp, exchange_of_status rfl hstatus]
    exact ⟨⟨_, rfl, rfl⟩, rfl⟩
  refine ⟨⟨fun hall => ?_, fun hstatus answer rest heq => ?_⟩, fun answer rest heq => ⟨?_, ?_⟩⟩
  · -- an empty answer of another status ends the sending well
    by_contra hother
    have hfine : status < 400 ∨ 600 ≤ status := by omega
    obtain ⟨⟨error, hfailure⟩, -⟩ := hall { status } [] rfl
    have hanswered := @exchange_answered _ _ timeout (complete message session).1
      (complete message session).2 [.answer { status }] url sent { status } [] rfl hfine
    rw [hhttp, hanswered] at hfailure
    cases hfailure
  · subst heq
    exact (hends answer rest hstatus).rejects
  · subst heq
    exact hends answer rest
  · subst heq
    intro hstatus
    rw [hhttp, hhttp, exchange_ignores_status hstatus]

end

attribute [local instance] Codecs.empty Mime.Nesting.thousand

theorem Confirmed.posts_ne_nil (replies : Network) :
    (http defaultTimeout original {} replies).posts ≠ [] := by
  refine @http_posts_whatever defaultTimeout original {} [.answer answer] _ _ ?_ replies
  rw [posts_original]
  exact List.cons_ne_nil _ _

/-- The message of the confirmation is posted, and rejected when the partner is not there. -/
theorem http_rejects_iff_missing :
    (http defaultTimeout Confirmed.original {} []).posts ≠ [] ∧
    ∀ answer rest, answer.status = 404 →
      Rejects Confirmed.original
        (http defaultTimeout Confirmed.original {} (.answer answer :: rest)) :=
  ⟨Confirmed.posts_ne_nil [],
    (http_rejects_iff (Confirmed.posts_ne_nil []) 404).1.2 ⟨by decide, by decide⟩⟩

/-- A redirect with a page that says so. -/
def redirect : Answer where
  status := 302
  reason := "Found"
  headers := [("Content-Type", "text/html")]
  body := "moved".toUTF8.toList

/-- A redirect is not rejected: the message gets its page for a receipt. -/
theorem http_accepts_redirect :
    (http defaultTimeout Confirmed.original {} [.answer redirect]).posts ≠ [] ∧
    (redirect.status < 200 ∨ 300 ≤ redirect.status) ∧
    (http defaultTimeout Confirmed.original {} [.answer redirect]).failure = none ∧
    Confirmed.original.receipt = none ∧
    (http defaultTimeout Confirmed.original {} [.answer redirect]).message.receipt =
      some { text := "moved" } := by
  exact ⟨Confirmed.posts_ne_nil _, .inr (by decide), by decide +kernel, rfl, by decide +kernel⟩

end As2Exchange.Sender
