import As2Exchange.Proofs.Receipt.Confirmation
import As2Exchange.Proofs.Receipt.Echo
import As2Exchange.Proofs.Sender.Acceptance

/-!
# Posts that are confirmed

An honest partner confirms a post with the digest of the posted bytes. The disposition and the
digest are always accepted. The id is accepted as long as it is the same after it has been read, or
nothing is left of it.

- `Confirmation.verdict_eq` is the verdict on a receipt with this disposition and digest;
- `Sender.http_confirmed` is what becomes of the message.
-/

namespace As2Exchange

open Mime

/-! ## Digests as they are sent -/

/-- The name of a digest is a word of printable characters. -/
theorem DigestAlgorithm.name_plain {name : String} {algorithm : DigestAlgorithm}
    (h : ofName? name = some algorithm) : Text.lower name ≠ "" ∧
      ∀ c ∈ (Text.lower name).toList, 33 ≤ c.toNat ∧ c.toNat ≤ 126 := by
  -- the name in lower case is one of the known ones
  have hall : ∀ known ∈ names.map (·.1), known ≠ "" ∧
      ∀ c ∈ known.toList, 33 ≤ c.toNat ∧ c.toNat ≤ 126 := by
    decide
  apply hall
  rw [mem_names_iff, show names.lookup (Text.lower name) = some algorithm from h]
  rfl

/-- The digest of bytes as it is sent. -/
def digestText (algorithm : DigestAlgorithm) (name : String) (bytes : Bytes) : String :=
  labelled (algorithm.digest bytes) (Text.lower name)

theorem digestText_plain {name : String} {algorithm : DigestAlgorithm}
    (h : DigestAlgorithm.ofName? name = some algorithm) (bytes : Bytes) :
    ∀ c ∈ (digestText algorithm name bytes).toList, 32 ≤ c.toNat ∧ c.toNat ≤ 126 :=
  labelled_plain (DigestAlgorithm.name_plain h).2 _

theorem tidy_digestText {name : String} {algorithm : DigestAlgorithm}
    (h : DigestAlgorithm.ofName? name = some algorithm) (bytes : Bytes) :
    Text.tidy (digestText algorithm name bytes) = digestText algorithm name bytes :=
  tidy_labelled (DigestAlgorithm.name_plain h).1 (DigestAlgorithm.name_plain h).2 _

namespace Confirmation

/-! ## The verdict -/

/-- A receipt with this disposition and with the digest that was sent is refused for its id only. -/
theorem verdict_eq {receipt : Receipt} {messageId reported sent : String}
    (hdisposition : receipt.disposition = some disposition)
    (hreceived : receipt.receivedDigest = some sent)
    (hreported : receipt.originalMessageId = some reported) :
    Sender.verdict receipt messageId sent =
      if reported = "" ∨ reported = messageId then none
      else some (.otherMessage reported messageId) := by
  -- the disposition reports no failure, and the digest is the one that was sent
  have herror := isError_of_disposition hdisposition
  have hdigest : Sender.verdict.digestVerdict receipt messageId sent = none := by
    unfold Sender.verdict.digestVerdict
    rw [hreceived]
    cases hgiven : Message.given? (some sent) with
    | none => rfl
    | some received =>
      obtain ⟨hsame, -⟩ := Message.given?_eq_some.1 hgiven
      cases hsame
      exact if_neg (not_not.2 rfl)
  unfold Sender.verdict
  rw [herror, hreported, hdigest, if_neg Bool.false_ne_true]
  by_cases hempty : reported = ""
  · -- an empty id is not compared
    have hgiven : Message.given? (some reported) = none := by
      rw [hempty]
      rfl
    rw [hgiven, if_pos (.inl hempty)]
  · have hgiven : Message.given? (some reported) = some reported :=
      Message.given?_eq_some.2 ⟨rfl, hempty⟩
    rw [hgiven]
    by_cases hsame : reported = messageId
    · rw [if_pos (.inr hsame)]
      exact if_neg (not_not.2 hsame)
    · rw [if_neg (not_or.2 ⟨hempty, hsame⟩)]
      exact if_pos hsame

end Confirmation

/-! ## The post -/

theorem Message.lookup_headers (message : Message) :
    message.headers.lookup "Message-ID" = some ("<" ++ message.messageId ++ ">") := by
  unfold Message.headers
  rfl

/-- What becomes of a message that is posted to an honest partner: the receipt is attached, and it
is refused only if its id is neither empty nor that of the message. -/
theorem Sender.http_confirmed [Codecs] [Mime.Nesting] {message : Message} {store : KeyStore}
    {timeout : Double} {url : String} {algorithm : DigestAlgorithm} {network rest : Network}
    (hurl : Message.given? message.destination? = some url)
    (halgorithm : DigestAlgorithm.ofName? message.digestName = some algorithm)
    (hkeys : requireKeys message.partnership store = .ok ())
    (hprintable : ∀ c ∈ message.messageId.toList, 32 ≤ c.toNat ∧ c.toNat ≤ 126)
    (hanswer : network.next = (.answer (Confirmation.answer (postOf message url timeout)
      (digestText algorithm message.digestName (postOf message url timeout).data)), rest)) :
    let answer := Confirmation.answer (postOf message url timeout)
      (digestText algorithm message.digestName (postOf message url timeout).data)
    ∃ receipt, Report.read? (answer.header? "Content-Type") answer.body = .ok (some receipt) ∧
      receipt.text = Confirmation.text ∧ receipt.disposition = some Confirmation.disposition ∧
      receipt.receivedDigest =
        some (digestText algorithm message.digestName (postOf message url timeout).data) ∧
      receipt.originalMessageId = some (Receipt.echo message.messageId) ∧
      http timeout message { keyStore := store } network =
        { message := { message with receipt := some receipt }
          session := ⟨store, ⟨[(message.partnership.name, message.partnership)]⟩⟩
          network := rest
          posts := [postOf message url timeout]
          failure := if Receipt.echo message.messageId = "" ∨
              Receipt.echo message.messageId = message.messageId then none
            else some (.transmission
              (.otherMessage (Receipt.echo message.messageId) message.messageId)) } := by
  have hid : ∀ c ∈ ("<" ++ message.messageId ++ ">").toList, 32 ≤ c.toNat ∧ c.toNat ≤ 126 := by
    intro c hc
    -- an id between brackets is as printable as the id
    rw [ContentType.toList_between, List.mem_append, List.mem_append] at hc
    rcases hc with (hc | hc) | hc
    · rw [List.mem_singleton.1 hc]
      decide
    · exact hprintable c hc
    · rw [List.mem_singleton.1 hc]
      decide
  have hplain := digestText_plain halgorithm (postOf message url timeout).data
  -- the partner repeats the id of the posted headers, brackets and all
  have hpost : (postOf message url timeout).headers.lookup "Message-ID" =
      some ("<" ++ message.messageId ++ ">") := message.lookup_headers
  obtain ⟨receipt, hread, htext, hdisposition, hreceived, horiginal⟩ :=
    Confirmation.answer_read hid hplain hpost
  have hecho : receipt.originalMessageId = some (Receipt.echo message.messageId) := horiginal
  rw [tidy_digestText halgorithm] at hreceived
  have hsent : sentDigest message =
      .ok (digestText algorithm message.digestName (postOf message url timeout).data) :=
    sentDigest_eq_ok.2 ⟨algorithm, halgorithm, rfl⟩
  -- the keys are there and the digest is known, so the message is posted
  have hprepare : prepare (complete message { keyStore := store }).1
      (complete message { keyStore := store }).2 =
        .ok (digestText algorithm message.digestName (postOf message url timeout).data) := by
    rw [complete_fresh]
    exact prepare_eq_ok.2 ⟨hkeys, hsent⟩
  have hstatus : (200 : Int) < 400 ∨ 600 ≤ (200 : Int) := .inl (by decide)
  have hverdict : (verdict receipt message.messageId
      (digestText algorithm message.digestName (postOf message url timeout).data)).map
        Failure.transmission =
      if Receipt.echo message.messageId = "" ∨
          Receipt.echo message.messageId = message.messageId then none
        else some (.transmission
          (.otherMessage (Receipt.echo message.messageId) message.messageId)) := by
    rw [Confirmation.verdict_eq hdisposition hreceived hecho]
    split
    · rfl
    · rfl
  refine ⟨receipt, hread, htext, hdisposition, hreceived, hecho, ?_⟩
  rw [http_eq hurl hprepare, complete_fresh, exchange_answered hanswer hstatus,
    receive_read hread, Option.bind_some, hverdict]

end As2Exchange
