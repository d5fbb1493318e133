import As2Exchange.Proofs.Send.Confirmed

/-!
# What a post reads of a partnership

Before a message is posted its partnership is completed from the known one of its name. A post reads
few entries of the partnership, its terms. Settings give all of them, some without a value, so what
else is known under the name has no influence.

- `Partnership.terms` are the entries that a post reads;
- `Partnership.Complete.terms_fillFrom` says that completing leaves the terms as they are;
- `Sender.shown_http` says that a post shows nothing of the known partnerships;
- `Sender.http_ignores_known` is what this means for messages from checked settings.
-/

namespace As2Exchange

namespace Partnership

/-! ## Terms -/

/-- The entries of a partnership that a post reads. -/
structure Terms where
  sign : Option String
  encrypt : Option String
  receiptOptions : Option String
  /-- The identifier under which the sender posts. -/
  senderId : Option String
  senderAlias : Option String
  receiverAlias : Option String

def terms (p : Partnership) : Terms where
  sign := p.attribute? Key.sign
  encrypt := p.attribute? Key.encrypt
  receiptOptions := p.attribute? Key.receiptOptions
  senderId := p.senderId? Key.as2Id
  senderAlias := p.senderId? Key.keyAlias
  receiverAlias := p.receiverId? Key.keyAlias

/-- The entries that a post reads are there, with or without a value. -/
structure Complete (p : Partnership) : Prop where
  sign : p.attributes.has Key.sign = true
  encrypt : p.attributes.has Key.encrypt = true
  receiptOptions : p.attributes.has Key.receiptOptions = true
  senderId : p.senderIds.has Key.as2Id = true
  senderAlias : p.senderIds.has Key.keyAlias = true
  receiverAlias : p.receiverIds.has Key.keyAlias = true

/-- Completing a partnership changes none of the terms that are there. -/
theorem Complete.terms_fillFrom {p : Partnership} (h : p.Complete) (source : Partnership) :
    (p.fillFrom source).terms = p.terms := by
  unfold terms attribute? senderId? receiverId?
  dsimp only [fillFrom]
  rw [Entries.value?_fillFrom h.sign, Entries.value?_fillFrom h.encrypt,
    Entries.value?_fillFrom h.receiptOptions, Entries.value?_fillFrom h.senderId,
    Entries.value?_fillFrom h.senderAlias, Entries.value?_fillFrom h.receiverAlias]

end Partnership

/-- A partnership of settings has all terms. -/
theorem Settings.complete_partnership {s : Settings} {p : Partnership}
    (h : s.partnership = .ok p) : p.Complete := by
  obtain ⟨-, hsender, hreceiver, hattributes⟩ := partnership_eq_ok h
  exact {
    sign := has_entries hattributes rfl
    encrypt := has_entries hattributes rfl
    receiptOptions := has_entries hattributes rfl
    senderId := has_entries hsender rfl
    senderAlias := has_entries hsender rfl
    receiverAlias := has_entries hreceiver rfl }

/-- What a delivery shows to the sender and to the partner: the posts, the receipt, the failure, and
the replies that are left. -/
def Delivery.shown (delivery : Delivery) :
    List Post × Option Receipt × Option Failure × Network :=
  (delivery.posts, delivery.message.receipt, delivery.failure, delivery.network)

namespace Sender

/-! ## Posts under the same terms -/

variable {message : Message} {p q : Partnership}

theorem requireKeys_congr (h : p.terms = q.terms) (store : KeyStore) :
    requireKeys p store = requireKeys q store := by
  have hsign : p.attribute? Key.sign = q.attribute? Key.sign := congrArg Partnership.Terms.sign h
  have hencrypt : p.attribute? Key.encrypt = q.attribute? Key.encrypt :=
    congrArg Partnership.Terms.encrypt h
  have hsender : p.senderId? Key.keyAlias = q.senderId? Key.keyAlias :=
    congrArg Partnership.Terms.senderAlias h
  have hreceiver : p.receiverId? Key.keyAlias = q.receiverId? Key.keyAlias :=
    congrArg Partnership.Terms.receiverAlias h
  unfold requireKeys
  rw [hsign, hencrypt, hsender, hreceiver]

theorem sentDigest_congr (h : p.terms = q.terms) :
    sentDigest { message with partnership := p } =
      sentDigest { message with partnership := q } := by
  have hsign : p.attribute? Key.sign = q.attribute? Key.sign := congrArg Partnership.Terms.sign h
  unfold sentDigest
  dsimp only
  rw [hsign]

theorem prepare_congr (h : p.terms = q.terms) (store : KeyStore) (known known' : Registry) :
    prepare { message with partnership := p } ⟨store, known⟩ =
      prepare { message with partnership := q } ⟨store, known'⟩ := by
  unfold prepare
  dsimp only
  rw [requireKeys_congr h, sentDigest_congr h]

theorem postOf_congr (h : p.terms = q.terms) (url : String) (timeout : Double) :
    postOf { message with partnership := p } url timeout =
      postOf { message with partnership := q } url timeout := by
  have hid : p.senderId? Key.as2Id = q.senderId? Key.as2Id :=
    congrArg Partnership.Terms.senderId h
  have hoptions : p.attribute? Key.receiptOptions = q.attribute? Key.receiptOptions :=
    congrArg Partnership.Terms.receiptOptions h
  unfold postOf Message.headers
  dsimp only [Message.attribute?]
  rw [hid, hoptions]

/-- The answer to a post is compared with the message, whatever its partnership. -/
theorem receive_congr [Codecs] [Mime.Nesting] (sent : String) (answer : Answer) :
    let left := receive { message with partnership := p } sent answer
    let right := receive { message with partnership := q } sent answer
    left.1.receipt = right.1.receipt ∧ left.2 = right.2 := by
  dsimp only [receive]
  -- the receipt and the verdict are taken from the answer and the id alone
  cases Report.read? (answer.header? "Content-Type") answer.body with
  | error failure => exact ⟨rfl, rfl⟩
  | ok read =>
    cases read with
    | none => exact ⟨rfl, rfl⟩
    | some receipt => exact ⟨rfl, rfl⟩

theorem shown_exchange_congr [Codecs] [Mime.Nesting] (h : p.terms = q.terms) (timeout : Double)
    (url sent : String) (session session' : Session) (network : Network) :
    (exchange timeout url sent { message with partnership := p } session network).shown =
      (exchange timeout url sent { message with partnership := q } session' network).shown := by
  unfold exchange
  rw [postOf_congr h]
  -- the transport answers, or fails in the same way for both
  rcases network.next with ⟨answer | cause, rest⟩
  · dsimp only
    cases answer.failure? url with
    | some error => rfl
    | none =>
      obtain ⟨hreceipt, hfailure⟩ := @receive_congr message p q _ _ sent answer
      dsimp only [Delivery.shown]
      rw [hreceipt, hfailure]
  · rfl

/-- **What is known of other partnerships does not show in a post** if the message brings all
terms. -/
theorem shown_http [Codecs] [Mime.Nesting] (h : message.partnership.Complete) (timeout : Double)
    (store : KeyStore) (known known' : Registry) (network : Network) :
    (http timeout message ⟨store, known⟩ network).shown =
      (http timeout message ⟨store, known'⟩ network).shown := by
  unfold http
  -- without a destination neither is posted
  cases Message.given? message.destination? with
  | none => rfl
  | some url =>
    -- both completions have the terms of the message
    have hterms : (message.partnership.fillFrom (known.resolve message.partnership).1).terms =
        (message.partnership.fillFrom (known'.resolve message.partnership).1).terms := by
      rw [h.terms_fillFrom, h.terms_fillFrom]
    dsimp only [complete, Registry.complete]
    rw [prepare_congr hterms store _ (known'.resolve message.partnership).2]
    split
    · rfl
    · exact shown_exchange_congr hterms timeout url _ _ _ network

/-! ## Messages from checked settings -/

/-- **Known partnerships do not influence a send from checked settings.** Whatever partnerships a
session knows, also one with the name of the message's own, the message is posted in the same way,
ends up with the same receipt, and fails for the same reason. -/
theorem http_ignores_known [Codecs] [Mime.Nesting] [Template.Objects] {record : Value}
    {s : Settings} (h : (Settings.check record).result = .ok s) :
    ∃ p, s.partnership = .ok p ∧
      ∀ draft stamp message, Message.assemble p draft stamp = .ok message →
        ∀ timeout store known known' network,
          let left := (http timeout).handle sendAction message ⟨store, known⟩ network
          let right := (http timeout).handle sendAction message ⟨store, known'⟩ network
          left.posts = right.posts ∧ left.message.receipt = right.message.receipt ∧
            left.failure = right.failure ∧ left.network = right.network := by
  obtain ⟨p, hp⟩ := (Settings.valid_of_check h).partnership_ok
  refine ⟨p, hp, ?_⟩
  intro draft stamp message hmessage timeout store known known' network
  obtain ⟨rfl, -⟩ := Message.destination_of_assemble hmessage
  have hshown := shown_http (Settings.complete_partnership hp) timeout store known known' network
  simp only [Delivery.shown, Prod.mk.injEq] at hshown
  exact hshown

end Sender

namespace HonestPartner

/-- A partnership under the name of the message's own that differs in all its terms. -/
def stale : Partnership where
  name := "ME-THEM"
  senderIds := [(Key.as2Id, some "OLD"), (Key.keyAlias, some "old"), (Key.email, none)]
  receiverIds := [(Key.as2Id, some "OTHER"), (Key.keyAlias, some "other")]
  attributes := [(Key.url, some "https://old.example"), (Key.encrypt, some "3des"),
    (Key.sign, some "md5"), (Key.receiptOptions, none)]

end HonestPartner

open HonestPartner

attribute [local instance] Codecs.empty Mime.Nesting.thousand Template.Objects.kinds

/-- A session that knows a stale partnership posts the message as one that knows none. -/
theorem Sender.http_ignores_known_stale :
    (Settings.check (record plainFormat)).result = .ok (settings plainFormat) ∧
    ∃ message url store, (order plainFormat).message surroundings ⟨1, []⟩ = .ok message ∧
      ∀ network,
        ((http defaultTimeout).handle sendAction message
          ⟨store, ⟨[(stale.name, stale)]⟩⟩ network).posts =
            [postOf message url defaultTimeout] := by
  have hsettings : (Settings.check (record plainFormat)).result = .ok (settings plainFormat) := rfl
  have hprepared : Prepared plainFormat "00000000000000000000000000000001@ME" :=
    prepared_of_told (by decide +kernel)
  obtain ⟨message, store, hmessage, -, -, hkeys⟩ := hprepared
  obtain ⟨p, hp, hassemble⟩ := bind_eq_ok.1 hmessage
  obtain ⟨rfl, url, hurl⟩ := Message.destination_of_assemble hassemble
  obtain ⟨p', hp', hignores⟩ := http_ignores_known hsettings
  refine ⟨hsettings, message, url, store, hmessage, fun network => ?_⟩
  obtain rfl : message.partnership = p' := Except.ok.inj (hp.symm.trans hp')
  have hposts := (hignores _ _ message hassemble defaultTimeout store ⟨[(stale.name, stale)]⟩ {}
    network).1
  rw [hposts]
  -- without a known partnership the message is posted as it is
  obtain ⟨algorithm, halgorithm⟩ := (Settings.valid_of_check hsettings).digest_known hp
  obtain ⟨sent, hprepare⟩ : ∃ sent, prepare (complete message { keyStore := store }).1
      (complete message { keyStore := store }).2 = .ok sent := by
    rw [complete_fresh]
    exact ⟨_, prepare_eq_ok.2 ⟨hkeys, sentDigest_eq_ok.2 ⟨algorithm, halgorithm, rfl⟩⟩⟩
  have hfresh := @http_posts _ _ defaultTimeout message _ network _ _ hurl hprepare
  rw [complete_fresh] at hfresh
  exact hfresh

end As2Exchange
