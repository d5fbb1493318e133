import As2Exchange.Proofs.Base64.RoundTrip
import As2Exchange.Proofs.Receipt.Confirmation
import As2Exchange.Proofs.Receipt.Status
import As2Exchange.Proofs.Sender.Post
import As2Exchange.Proofs.Text.Blank

/-!
# When a receipt is accepted

The receipt in the answer to a post decides whether the sending succeeds. Three comparisons are
made: the disposition reports no failure, the receipt is about the message that was posted, and the
digest in it is that of the bytes that were posted.

- `Carries` says that a text names a digest, whatever stands behind its first comma;
- `Acceptable` collects the three comparisons;
- `http_succeeds_iff` says that a post with a readable answer succeeds just if the answer has no
  receipt or an acceptable one.
-/

namespace As2Exchange

/-! ## Digests in texts -/

/-- The text consists of the digest, which may have blanks around it, up to its first comma. -/
def Carries (text : String) (digest : List Char) : Prop :=
  ∃ front back tail, text.toList = front ++ digest ++ back ++ tail ∧
    (∀ c ∈ front, Text.isBlank c = true) ∧ (∀ c ∈ back, Text.isBlank c = true) ∧
    (∀ c, tail.head? = some c → c = ',')

namespace Sender

/-- What stands before the first comma, whatever follows the comma. -/
theorem takeWhile_comma {before tail : List Char} (hbefore : ',' ∉ before)
    (htail : ∀ c, tail.head? = some c → c = ',') :
    (before ++ tail).takeWhile (· ≠ ',') = before := by
  rw [List.takeWhile_append_of_pos]
  · cases tail with
    | nil => simp
    | cons c rest =>
      have hc := htail c rfl
      subst hc
      simp
  · intro c hc
    exact decide_eq_true fun he => hbefore (he ▸ hc)

/-- A text carries a digest in base64 just if the digest is left of it without the name of the
algorithm. -/
theorem bareDigest_eq_iff {text : String} {bytes : Bytes} :
    bareDigest text = String.ofList (Base64.encode bytes) ↔ Carries text (Base64.encode bytes) := by
  unfold bareDigest Text.strip
  rw [String.toList_ofList]
  constructor
  · -- what was trimmed and what stands behind the comma are the rest of the text
    intro h
    have htrim := String.ofList_injective h
    obtain ⟨front, back, hsplit, hfront, hback⟩ :=
      Text.trimBoth_split Text.isBlank (text.toList.takeWhile (· ≠ ','))
    rw [htrim] at hsplit
    refine ⟨front, back, text.toList.dropWhile (· ≠ ','), ?_, hfront, hback, ?_⟩
    · rw [← hsplit, List.takeWhile_append_dropWhile]
    · intro c hc
      have hhead := List.head?_dropWhile_not (fun c => decide (c ≠ ',')) text.toList
      rw [hc] at hhead
      simpa using hhead
  · rintro ⟨front, back, tail, htext, hfront, hback, htail⟩
    -- neither a blank nor a letter of the digest is a comma
    have hblank : ∀ {l : List Char}, (∀ c ∈ l, Text.isBlank c = true) → ',' ∉ l := by
      intro l hl hmem
      exact absurd (hl ',' hmem) (by decide)
    have hcomma : ',' ∉ front ++ Base64.encode bytes ++ back := by
      simp only [List.mem_append, not_or]
      exact ⟨⟨hblank hfront, fun hmem => (Base64.encode_plain hmem).2.1 rfl⟩, hblank hback⟩
    -- what stands before the comma is the digest between blanks
    rw [htext, takeWhile_comma hcomma htail, Text.trimBoth_surrounded hfront hback,
      Text.trimBoth_of_forall]
    intro c hc
    exact (Base64.encode_plain hc).1

theorem bareDigest_sent (bytes : Bytes) (name : String) :
    bareDigest (String.ofList (Base64.encode bytes) ++ ", " ++ name) =
      String.ofList (Base64.encode bytes) := by
  apply bareDigest_eq_iff.2
  refine ⟨[], [], ", ".toList ++ name.toList, ?_, by simp, by simp, ?_⟩
  · simp
  · intro c hc
    cases hc
    rfl

theorem carries_unique {text : String} {left right : Bytes}
    (hleft : Carries text (Base64.encode left)) (hright : Carries text (Base64.encode right)) :
    left = right := by
  apply Base64.encode_injective
  apply String.ofList_injective
  rw [← bareDigest_eq_iff.2 hleft, bareDigest_eq_iff.2 hright]

/-! ## Acceptable receipts -/

/-- The receipt confirms that the message arrived with the bytes that were posted. What the receipt
leaves out, or leaves empty, is not held against it. -/
structure Acceptable (receipt : Receipt) (message : Message) (posted : Bytes) : Prop where
  /-- Behind the first semicolon of the disposition no failure is named. -/
  no_failure : ∀ mode status, receipt.disposition = some (mode ++ ";" ++ status) →
    ';' ∉ mode.toList → ¬ Receipt.NamesFailure (Text.lower status)
  /-- The receipt is about the message. -/
  same_message : ∀ id, receipt.originalMessageId = some id → id = "" ∨ id = message.messageId
  /-- The digest is that of the posted bytes, under the digest of the message. -/
  same_digest : ∀ received, receipt.receivedDigest = some received → received = "" ∨
    ∃ algorithm, DigestAlgorithm.ofName? message.digestName = some algorithm ∧
      Carries received (Base64.encode (algorithm.digest posted))

variable {receipt : Receipt} {message : Message}

/-- The digest in a receipt is compared with the digest that was sent. -/
theorem digestVerdict_eq_none {messageId name : String} {bytes : Bytes} :
    verdict.digestVerdict receipt messageId
        (String.ofList (Base64.encode bytes) ++ ", " ++ name) = none ↔
      ∀ received, receipt.receivedDigest = some received →
        received = "" ∨ Carries received (Base64.encode bytes) := by
  unfold verdict.digestVerdict
  rw [bareDigest_sent]
  cases hgiven : Message.given? receipt.receivedDigest with
  | none =>
    constructor
    · intro _ received hreceived
      exact .inl (Message.given?_eq_none.1 hgiven received hreceived)
    · intro _
      rfl
  | some received =>
    obtain ⟨hreceived, hne⟩ := Message.given?_eq_some.1 hgiven
    dsimp only
    rw [hreceived]
    split
    · rename_i hdiffers
      constructor
      · intro hnone
        cases hnone
      · intro hcarries
        rcases hcarries received rfl with hempty | hsame
        · exact absurd hempty hne
        · exact absurd (bareDigest_eq_iff.2 hsame) hdiffers
    · rename_i hsame
      constructor
      · intro _ received' heq
        cases heq
        exact .inr (bareDigest_eq_iff.1 (not_not.1 hsame))
      · intro _
        rfl

/-- The comparison of a receipt with what was sent finds nothing just if the receipt is
acceptable. -/
theorem verdict_eq_none {sent : String} {url : String} {timeout : Double}
    (hsent : sentDigest message = .ok sent) :
    verdict receipt message.messageId sent = none ↔
      Acceptable receipt message (postOf message url timeout).data := by
  obtain ⟨algorithm, halgorithm, rfl⟩ := sentDigest_eq_ok.1 hsent
  have hdigest : verdict.digestVerdict receipt message.messageId
      (String.ofList (Base64.encode (algorithm.digest message.body.transmitted)) ++ ", "
        ++ Text.lower message.digestName) = none ↔
      ∀ received, receipt.receivedDigest = some received → received = "" ∨
        ∃ algorithm, DigestAlgorithm.ofName? message.digestName = some algorithm ∧
          Carries received (Base64.encode (algorithm.digest message.body.transmitted)) := by
    rw [digestVerdict_eq_none, halgorithm]
    simp only [Option.some.injEq, exists_eq_left']
  unfold verdict
  split
  · -- the disposition reports a failure
    rename_i herror
    obtain ⟨mode, status, hdisposition, hmode, hnames⟩ := (Receipt.isError_iff receipt).1 herror
    constructor
    · intro hnone
      cases hnone
    · intro hacceptable
      exact absurd hnames (hacceptable.no_failure mode status hdisposition hmode)
  · rename_i hfine
    have hstatus : ∀ mode status, receipt.disposition = some (mode ++ ";" ++ status) →
        ';' ∉ mode.toList → ¬ Receipt.NamesFailure (Text.lower status) := by
      intro mode status hdisposition hmode hnames
      exact hfine ((Receipt.isError_iff receipt).2 ⟨mode, status, hdisposition, hmode, hnames⟩)
    cases hgiven : Message.given? receipt.originalMessageId with
    | none =>
      -- no id is told, or an empty one
      constructor
      · intro hnone
        exact ⟨hstatus, fun id hid => .inl (Message.given?_eq_none.1 hgiven id hid),
          hdigest.1 hnone⟩
      · intro hacceptable
        exact hdigest.2 hacceptable.same_digest
    | some reported =>
      obtain ⟨hreported, hne⟩ := Message.given?_eq_some.1 hgiven
      dsimp only
      split
      · -- the receipt is about another message
        rename_i hother
        constructor
        · intro hnone
          cases hnone
        · intro hacceptable
          rcases hacceptable.same_message reported hreported with hempty | hsame
          · exact absurd hempty hne
          · exact absurd hsame hother
      · -- the id is that of the message, so the digest decides
        rename_i hsame
        constructor
        · intro hnone
          refine ⟨hstatus, fun id hid => ?_, hdigest.1 hnone⟩
          rw [hreported] at hid
          cases hid
          exact .inr (not_not.1 hsame)
        · intro hacceptable
          exact hdigest.2 hacceptable.same_digest

/-! ## The answer to a post -/

/-- What a readable answer makes of a message. -/
theorem receive_read [Codecs] [Mime.Nesting] {value : Option Receipt} {sent : String}
    {answer : Answer}
    (hread : Report.read? (answer.header? "Content-Type") answer.body = .ok value) :
    receive message sent answer =
      ({ message with receipt := value },
        (value.bind fun receipt => verdict receipt message.messageId sent).map
          Failure.transmission) := by
  unfold receive
  rw [hread]
  cases value <;> rfl

/-- **A post succeeds** just if its answer has no receipt or an acceptable one. The receipt stays on
the message either way, and any failure is one of the transmission. After a success, a partner that
reports a digest has taken it of bytes with the digest of the posted ones. -/
theorem http_succeeds_iff [Codecs] [Mime.Nesting] {timeout : Double} {session : Session}
    {network rest : Network} {answer : Answer} {value : Option Receipt}
    (hposts : (http timeout message session network).posts ≠ [])
    (hanswer : network.next = (.answer answer, rest))
    (hstatus : answer.status < 400 ∨ 600 ≤ answer.status)
    (hread : Report.read? (answer.header? "Content-Type") answer.body = .ok value) :
    let delivery := http timeout message session network
    ∃ post, delivery.posts = [post] ∧
      delivery.message = { (complete message session).1 with receipt := value } ∧
      (delivery.failure = none ↔
        ∀ receipt, value = some receipt → Acceptable receipt delivery.message post.data) ∧
      (∀ failure, delivery.failure = some failure →
        value ≠ none ∧ ∃ cause, failure = .transmission cause) ∧
      ∀ receipt received algorithm content, delivery.failure = none → value = some receipt →
        receipt.receivedDigest = some received → received ≠ "" →
        DigestAlgorithm.ofName? delivery.message.digestName = some algorithm →
        Carries received (Base64.encode (algorithm.digest content)) →
        algorithm.digest content = algorithm.digest post.data := by
  obtain ⟨url, sent, -, hprepare, hexchange⟩ := http_of_posts hposts
  obtain ⟨-, hsent⟩ := prepare_eq_ok.1 hprepare
  rw [hexchange, exchange_answered hanswer hstatus, receive_read hread]
  -- the verdict is given by the message as it was completed, which the receipt does not change
  have hverdict : ((value.bind fun receipt =>
      verdict receipt (complete message session).1.messageId sent).map Failure.transmission = none ↔
      ∀ receipt, value = some receipt →
        Acceptable receipt { (complete message session).1 with receipt := value }
          (postOf (complete message session).1 url timeout).data) := by
    rw [Option.map_eq_none_iff, Option.bind_eq_none_iff]
    refine forall_congr' fun receipt => imp_congr_right fun _ => ?_
    rw [verdict_eq_none hsent]
    exact ⟨fun h => ⟨h.1, h.2, h.3⟩, fun h => ⟨h.1, h.2, h.3⟩⟩
  refine ⟨_, rfl, rfl, hverdict, ?_, ?_⟩
  · intro failure hfailure
    obtain ⟨cause, hcause, rfl⟩ := Option.map_eq_some_iff.1 hfailure
    refine ⟨fun hnone => ?_, cause, rfl⟩
    rw [hnone] at hcause
    cases hcause
  · intro receipt received algorithm content hnone hvalue hreceived hne halgorithm hcarries
    -- the receipt is acceptable, so the digest it carries is that of the posted bytes as well
    rcases (hverdict.1 hnone receipt hvalue).same_digest received hreceived with
      hempty | ⟨algorithm', halgorithm', hcarries'⟩
    · exact absurd hempty hne
    · rw [halgorithm] at halgorithm'
      cases halgorithm'
      exact carries_unique hcarries hcarries'

/-! ## A message that is confirmed -/

attribute [local instance] Codecs.empty Mime.Nesting.thousand

namespace Confirmed

def original : Message where
  contentType := "application/edifact"
  subject := "Order 1"
  partnership := { name := "ME-THEM" }
  messageId := "1@ME"
  attributes := [(Key.url, some "https://partner.example/as2")]
  body := { contentType := "application/edifact", data := Bytes.ofAscii "UNB+1".toList }

def post : Post := postOf original "https://partner.example/as2" defaultTimeout

/-- The digest of the body as a partner may tell it, under a name of its own. -/
def digestTold : String := labelled (DigestAlgorithm.sha256.digest original.body.data) "SHA256"

/-- The answer with a report that confirms the message. -/
def answer : Answer := Confirmation.answer post digestTold

theorem answer_read : ∃ receipt,
    Report.read? (answer.header? "Content-Type") answer.body = .ok (some receipt) ∧
      receipt.disposition = some Confirmation.disposition ∧
      receipt.originalMessageId = some original.messageId ∧
      receipt.receivedDigest = some digestTold := by
  have hid : ∀ c ∈ "<1@ME>".toList, 32 ≤ c.toNat ∧ c.toNat ≤ 126 := by decide
  have hname : ∀ c ∈ "SHA256".toList, 33 ≤ c.toNat ∧ c.toNat ≤ 126 := by decide
  have htold : Report.stripBrackets (Text.tidy "<1@ME>") = original.messageId := by
    decide +kernel
  obtain ⟨receipt, hread, -, hdisposition, hreceived, horiginal⟩ := Confirmation.answer_read hid
    (labelled_plain hname (DigestAlgorithm.sha256.digest original.body.data))
    (show post.headers.lookup "Message-ID" = some "<1@ME>" by decide)
  rw [tidy_labelled (by decide) hname] at hreceived
  rw [htold] at horiginal
  exact ⟨receipt, hread, hdisposition, horiginal, hreceived⟩

theorem posts_original :
    (http defaultTimeout original {} [.answer answer]).posts = [post] := by
  have hsent : sentDigest original =
      .ok (labelled (DigestAlgorithm.sha256.digest original.body.data) "sha-256") :=
    sentDigest_eq_ok.2 ⟨.sha256, by decide, rfl⟩
  have hprepare : prepare (complete original {}).1 (complete original {}).2 =
      .ok (labelled (DigestAlgorithm.sha256.digest original.body.data) "sha-256") :=
    prepare_eq_ok.2 ⟨rfl, hsent⟩
  exact http_posts (by decide) hprepare

/-- A receipt with this disposition, id and digest is acceptable. -/
theorem acceptable_of_told {receipt : Receipt} (m : Message)
    (hid : m.messageId = original.messageId) (hname : m.digestName = defaultDigest)
    (hdisposition : receipt.disposition = some Confirmation.disposition)
    (horiginal : receipt.originalMessageId = some original.messageId)
    (hreceived : receipt.receivedDigest = some digestTold) :
    Acceptable receipt m original.body.data where
  no_failure mode status htold hmode hnames := by
    have herror := (Receipt.isError_iff receipt).2 ⟨mode, status, htold, hmode, hnames⟩
    rw [Confirmation.isError_of_disposition hdisposition] at herror
    cases herror
  same_message id hreported := by
    rw [horiginal] at hreported
    cases hreported
    exact .inr hid.symm
  same_digest received htold := by
    rw [hreceived] at htold
    cases htold
    refine .inr ⟨.sha256, by rw [hname]; decide, ?_⟩
    exact bareDigest_eq_iff.1 (bareDigest_sent _ _)

end Confirmed

/-- The post of a message that is confirmed succeeds, and its receipt stays on the message. -/
theorem http_succeeds_confirmed :
    (http defaultTimeout Confirmed.original {} [.answer Confirmed.answer]).posts ≠ [] ∧
    ∃ receipt,
      Report.read? (Confirmed.answer.header? "Content-Type") Confirmed.answer.body =
        .ok (some receipt) ∧
      receipt.receivedDigest = some Confirmed.digestTold ∧
      (http defaultTimeout Confirmed.original {} [.answer Confirmed.answer]).message.receipt =
        some receipt ∧
      (http defaultTimeout Confirmed.original {} [.answer Confirmed.answer]).failure = none := by
  have hposts : (http defaultTimeout Confirmed.original {} [.answer Confirmed.answer]).posts ≠
      [] := by
    rw [Confirmed.posts_original]
    exact List.cons_ne_nil _ _
  have hstatus : Confirmed.answer.status < 400 ∨ 600 ≤ Confirmed.answer.status :=
    .inl (show (200 : Int) < 400 by decide)
  obtain ⟨receipt, hread, hdisposition, horiginal, hreceived⟩ := Confirmed.answer_read
  obtain ⟨post, hpost, hmessage, hiff, -, -⟩ := http_succeeds_iff hposts rfl hstatus hread
  rw [Confirmed.posts_original] at hpost
  refine ⟨hposts, receipt, hread, hreceived, by rw [hmessage], hiff.2 fun receipt' heq => ?_⟩
  cases heq
  cases hpost
  rw [hmessage]
  exact Confirmed.acceptable_of_told _ rfl rfl hdisposition horiginal hreceived

end Sender

end As2Exchange
