import As2Exchange.Proofs.KeyStore.Loading
import As2Exchange.Proofs.Send.Steps
import As2Exchange.Proofs.Sender.Confirmation
import As2Exchange.Proofs.Settings.Partnership

/-!
# Sends to an honest partner

A send under settings that were checked, with the keys at hand, posts its message once. If the
partner confirms the post with its own id and digest, the response has the receipt. Whether the
send succeeds depends on the id alone.

- `confirmed_send_succeeds_iff` says for which ids it does.
-/

namespace As2Exchange

/-! ## The message of an order -/

/-- No digest has the empty name. -/
theorem DigestAlgorithm.ne_empty_of_ofName? {name : String} {algorithm : DigestAlgorithm}
    (h : ofName? name = some algorithm) : name ≠ "" := by
  rintro rfl
  have hempty : ofName? "" = none := by decide +kernel
  rw [hempty] at h
  cases h

/-- The digest of a message under settings that were checked is known. -/
theorem Settings.Valid.digest_known {s : Settings} (hvalid : s.Valid) {message : Message}
    (h : s.partnership = .ok message.partnership) :
    ∃ algorithm, DigestAlgorithm.ofName? message.digestName = some algorithm := by
  unfold Message.digestName
  -- checked settings name a digest that is known, or none
  rcases hvalid.sign_known h with hnone | ⟨name, algorithm, hname, halgorithm⟩
  · -- no digest is named, so the default one is used
    rw [hnone]
    exact ⟨.sha256, by decide +kernel⟩
  · have hne := DigestAlgorithm.ne_empty_of_ofName? halgorithm
    rw [Message.given?_eq_some.2 ⟨hname, hne⟩]
    exact ⟨algorithm, halgorithm⟩

/-- A message that was assembled has a destination, and no receipt yet. -/
theorem Message.destination_of_assemble [Template.Objects] {p : Partnership} {draft : Draft}
    {stamp : Stamp} {message : Message} (h : assemble p draft stamp = .ok message) :
    message.partnership = p ∧ ∃ url, given? message.destination? = some url := by
  obtain ⟨url, receiver, id, body, hroute, -, -, rfl⟩ := assemble_eq_ok h
  refine ⟨rfl, url, ?_⟩
  -- the message was made for a url that was given
  unfold route at hroute
  cases hurl : given? (p.attribute? Key.url) with
  | none =>
    rw [hurl] at hroute
    cases hroute
  | some url' =>
    rw [hurl] at hroute
    dsimp only at hroute
    split at hroute
    · cases hroute
      obtain ⟨-, hne⟩ := given?_eq_some.1 hurl
      exact given?_eq_some.2 ⟨rfl, hne⟩
    · cases hroute

theorem Session.start_fresh {surroundings : Surroundings} {settings : Settings} {store : KeyStore}
    (hstore : KeyStore.load surroundings settings.keyStorePath settings.keyStorePassword =
      .ok store) : Session.start surroundings settings none = .ok { keyStore := store } := by
  unfold Session.start
  rw [hstore]
  rfl

/-! ## The send -/

section

variable [Codecs] [Mime.Nesting] [Template.Objects] {record : Value} {surroundings : Surroundings}
  {order : Order} {supply : Supply}
  {message : Message} {store : KeyStore}

/-- What a send to an honest partner responds with, by the id that is read from the receipt. -/
theorem send_confirmed (timeout : Double)
    (hsettings : (Settings.check record).result = .ok order.settings)
    (hpartnerships : order.partnershipsFail = none)
    (hmessage : order.message surroundings supply = .ok message)
    (hprintable : ∀ c ∈ message.messageId.toList, 32 ≤ c.toNat ∧ c.toNat ≤ 126)
    (hstore : KeyStore.load surroundings order.settings.keyStorePath
      order.settings.keyStorePassword = .ok store)
    (hkeys : Sender.requireKeys message.partnership store = .ok ()) :
    ∃ url algorithm, Message.given? message.destination? = some url ∧
      DigestAlgorithm.ofName? message.digestName = some algorithm ∧
      ∀ network rest,
        let post := Sender.postOf message url timeout
        let digest := digestText algorithm message.digestName post.data
        let answer := Confirmation.answer post digest
        network.next = (.answer answer, rest) →
        let outcome := send surroundings (Sender.http timeout) order { supply with network }
        outcome.posts = [post] ∧
          ∃ receipt,
            Report.read? (answer.header? "Content-Type") answer.body = .ok (some receipt) ∧
            receipt.text = Confirmation.text ∧
            receipt.disposition = some Confirmation.disposition ∧
            receipt.receivedDigest = some digest ∧
            receipt.originalMessageId = some (Receipt.echo message.messageId) ∧
            outcome.response = .ok ⟨message.messageId, some receipt,
              if Receipt.echo message.messageId = "" ∨
                  Receipt.echo message.messageId = message.messageId then none
                else some (.transmission
                  (.otherMessage (Receipt.echo message.messageId) message.messageId))⟩ := by
  -- the message was made of the settings, so it has their digest and a destination
  obtain ⟨partnership, hpartnership, hassemble⟩ := bind_eq_ok.1 hmessage
  obtain ⟨rfl, url, hurl⟩ := Message.destination_of_assemble hassemble
  obtain ⟨algorithm, halgorithm⟩ := (Settings.valid_of_check hsettings).digest_known hpartnership
  refine ⟨url, algorithm, hurl, halgorithm, fun network rest hanswer => ?_⟩
  obtain ⟨receipt, hread, htext, hdisposition, hreceived, horiginal, hdelivery⟩ :=
    Sender.http_confirmed hurl halgorithm hkeys hprintable hanswer
  have hready : order.ready surroundings { supply with network } =
      .ok (message, { keyStore := store }) := by
    refine Order.ready_eq_ok.2 ⟨hmessage, ?_⟩
    rw [hpartnerships]
    exact Session.start_fresh hstore
  -- the sender fails at most with a refusal, which the response tells
  have htold : ∀ failure, (Sender.http timeout message { keyStore := store } network).failure =
      some failure → failure.isInterrupt = false := by
    intro failure hfailure
    rw [hdelivery] at hfailure
    dsimp only at hfailure
    split at hfailure
    · cases hfailure
    · cases hfailure
      rfl
  have hsend := send_of_ready hready htold
  dsimp only at hsend
  rw [hdelivery] at hsend
  rw [hsend]
  refine ⟨rfl, receipt, hread, htext, hdisposition, hreceived, horiginal, ?_⟩
  dsimp only
  split
  · rfl
  · rfl

/-- **A send to an honest partner** posts the message once and has the receipt in its response. It
succeeds just if the message id is all angle brackets, or has none at its ends and no two spaces
that meet. -/
theorem confirmed_send_succeeds_iff (timeout : Double)
    (hsettings : (Settings.check record).result = .ok order.settings)
    (hpartnerships : order.partnershipsFail = none)
    (hmessage : order.message surroundings supply = .ok message)
    (hprintable : ∀ c ∈ message.messageId.toList, 32 ≤ c.toNat ∧ c.toNat ≤ 126)
    (hstore : KeyStore.load surroundings order.settings.keyStorePath
      order.settings.keyStorePassword = .ok store)
    (hkeys : Sender.requireKeys message.partnership store = .ok ()) :
    ∃ url algorithm, Message.given? message.destination? = some url ∧
      DigestAlgorithm.ofName? message.digestName = some algorithm ∧
      ∀ network rest,
        let post := Sender.postOf message url timeout
        let digest := digestText algorithm message.digestName post.data
        let answer := Confirmation.answer post digest
        network.next = (.answer answer, rest) →
        let outcome := send surroundings (Sender.http timeout) order { supply with network }
        outcome.posts = [post] ∧
          ∃ receipt failure,
            outcome.response = .ok ⟨message.messageId, some receipt, failure⟩ ∧
            Report.read? (answer.header? "Content-Type") answer.body = .ok (some receipt) ∧
            receipt.text = Confirmation.text ∧
            receipt.disposition = some Confirmation.disposition ∧
            receipt.receivedDigest = some digest ∧
            receipt.originalMessageId = some (Receipt.echo message.messageId) ∧
            (failure = none ↔ (∀ c ∈ message.messageId.toList, Receipt.isBracket c = true) ∨
              Receipt.Survives message.messageId) ∧
            ∀ cause, failure = some cause → cause =
              .transmission (.otherMessage (Receipt.echo message.messageId) message.messageId) := by
  obtain ⟨url, algorithm, hurl, halgorithm, hsend⟩ :=
    send_confirmed timeout hsettings hpartnerships hmessage hprintable hstore hkeys
  refine ⟨url, algorithm, hurl, halgorithm, fun network rest hanswer => ?_⟩
  obtain ⟨hposts, receipt, hread, htext, hdisposition, hreceived, horiginal, hresponse⟩ :=
    hsend network rest hanswer
  refine ⟨hposts, receipt, _, hresponse, hread, htext, hdisposition, hreceived, horiginal, ?_, ?_⟩
  -- the id in the receipt decides: it is empty, the one that was sent, or another one
  · rw [← Receipt.echo_accepted_iff hprintable]
    split
    · rename_i haccepted
      exact ⟨fun _ => haccepted, fun _ => rfl⟩
    · rename_i hrefused
      constructor
      · intro hnone
        cases hnone
      · intro haccepted
        exact absurd haccepted hrefused
  · intro cause hcause
    split at hcause
    · cases hcause
    · cases hcause
      rfl

end

/-! ## An id that survives, and one that does not -/

namespace HonestPartner

/-- A record of settings with a template of message ids. -/
def record (format : String) : Value :=
  .mapping [(.text "sender_as2_id", .text "ME"), (.text "sender_key_alias", .text "me"),
    (.text "sender_email", .text "as2@me.example"), (.text "receiver_as2_id", .text "THEM"),
    (.text "receiver_key_alias", .text "them"),
    (.text "destination_url", .text "https://partner.example/as2"),
    (.text "sign_algorithm", .text "sha-256"), (.text "message_id_format", .text format),
    (.text "key_store_path", .text "k.p12"), (.text "key_store_password", .text "secret")]

def settings (format : String) : Settings where
  senderAs2Id := .text "ME"
  senderKeyAlias := .text "me"
  senderEmail := .text "as2@me.example"
  receiverAs2Id := .text "THEM"
  receiverKeyAlias := .text "them"
  destinationUrl := .text "https://partner.example/as2"
  signAlgorithm := .text "sha-256"
  messageIdFormat := .text format
  keyStorePath := .path (PathName.ofString "k.p12")
  keyStorePassword := .text "secret"
  partnershipName := .text "ME-THEM"

/-- What the key store for these settings holds. -/
def storeFile : KeyFile where
  ownAlias := "me"
  key := some ⟨"ME"⟩
  certificate := some ⟨"ME"⟩

/-- A working directory with the key store. -/
def surroundings : Surroundings where
  files := { nodes := [(["w", "k.p12"], .file [0x30])], workingDirectory := ⟨"/", ["w"]⟩ }
  clock := ⟨2024, 1, 2, 3, 4, 5⟩
  openStore := storeFile.lockedWith "secret"

attribute [local instance] Codecs.empty Template.Objects.kinds

def order (format : String) : Order where
  settings := settings format
  draft := .ofRequest { subject := "Order 1", payload := .text "UNB+1" } surroundings.files

def plainFormat : String := "\x7buuid\x7d@\x7bsender\x7d"

def bracketedFormat : String := "<\x7buuid\x7d@\x7bsender\x7d>"

/-- The order has a message with an id, and the key store has the keys for it. -/
def Prepared (format id : String) : Prop := ∃ message store,
  (order format).message surroundings ⟨1, []⟩ = .ok message ∧ message.messageId = id ∧
    KeyStore.load surroundings (settings format).keyStorePath (settings format).keyStorePassword =
      .ok store ∧
    Sender.requireKeys message.partnership store = .ok ()

theorem prepared_of_told {format id : String}
    (h : ((order format).message surroundings ⟨1, []⟩).toOption.bind (fun message =>
      (KeyStore.load surroundings (settings format).keyStorePath
        (settings format).keyStorePassword).toOption.map fun store =>
          (message.messageId, (Sender.requireKeys message.partnership store).toOption)) =
      some (id, some ())) : Prepared format id := by
  obtain ⟨message, hmessage, hstore⟩ := Option.bind_eq_some_iff.1 h
  obtain ⟨store, hstore, htold⟩ := Option.map_eq_some_iff.1 hstore
  obtain ⟨hid, hkeys⟩ := Prod.mk.inj htold
  exact ⟨message, store, eq_ok_of_toOption hmessage, hid, eq_ok_of_toOption hstore,
    eq_ok_of_toOption hkeys⟩

end HonestPartner

open HonestPartner

attribute [local instance] Codecs.empty Mime.Nesting.thousand Template.Objects.kinds

/-- A plain id survives, so the send succeeds. -/
theorem confirmed_send_succeeds_plain :
    (Settings.check (record plainFormat)).result = .ok (order plainFormat).settings ∧
    ∃ message url algorithm receipt,
      (order plainFormat).message surroundings ⟨1, []⟩ = .ok message ∧
      (send surroundings (Sender.http Sender.defaultTimeout) (order plainFormat)
        ⟨1, [.answer (Confirmation.answer (Sender.postOf message url Sender.defaultTimeout)
          (digestText algorithm message.digestName message.body.transmitted))]⟩).response =
        .ok ⟨"00000000000000000000000000000001@ME", some receipt, none⟩ := by
  have hsettings : (Settings.check (record plainFormat)).result =
      .ok (order plainFormat).settings := rfl
  have hprepared : Prepared plainFormat "00000000000000000000000000000001@ME" :=
    prepared_of_told (by decide +kernel)
  obtain ⟨message, store, hmessage, hid, hstore, hkeys⟩ := hprepared
  have hprintable : ∀ c ∈ message.messageId.toList, 32 ≤ c.toNat ∧ c.toNat ≤ 126 := by
    rw [hid]
    decide
  obtain ⟨url, algorithm, -, -, hsend⟩ := confirmed_send_succeeds_iff Sender.defaultTimeout
    hsettings rfl hmessage hprintable hstore hkeys
  obtain ⟨-, receipt, failure, hresponse, -, -, -, -, -, hiff, -⟩ := hsend [.answer _] [] rfl
  have hsurvives : Receipt.Survives message.messageId := by
    rw [hid]
    -- its ends are no brackets, and no two blanks meet in it
    refine ⟨by decide, ?_, ?_⟩
    · intro c hc
      cases hc
      decide
    · intro c hc
      cases hc
      decide
  rw [hiff.2 (.inr hsurvives), hid] at hresponse
  exact ⟨hsettings, message, url, algorithm, receipt, hmessage, hresponse⟩

/-- An id in angle brackets does not survive: the send fails although the partner has confirmed the
message. -/
theorem confirmed_send_fails_bracketed :
    (Settings.check (record bracketedFormat)).result = .ok (order bracketedFormat).settings ∧
    ∃ message url algorithm receipt,
      (order bracketedFormat).message surroundings ⟨1, []⟩ = .ok message ∧
      (send surroundings (Sender.http Sender.defaultTimeout) (order bracketedFormat)
        ⟨1, [.answer (Confirmation.answer (Sender.postOf message url Sender.defaultTimeout)
          (digestText algorithm message.digestName message.body.transmitted))]⟩).response =
        .ok ⟨"<00000000000000000000000000000001@ME>", some receipt, some (.transmission
          (.otherMessage "00000000000000000000000000000001@ME"
            "<00000000000000000000000000000001@ME>"))⟩ := by
  have hsettings : (Settings.check (record bracketedFormat)).result =
      .ok (order bracketedFormat).settings := rfl
  have hprepared : Prepared bracketedFormat "<00000000000000000000000000000001@ME>" :=
    prepared_of_told (by decide +kernel)
  have hecho : Receipt.echo "<00000000000000000000000000000001@ME>" =
      "00000000000000000000000000000001@ME" := by
    decide +kernel
  obtain ⟨message, store, hmessage, hid, hstore, hkeys⟩ := hprepared
  have hprintable : ∀ c ∈ message.messageId.toList, 32 ≤ c.toNat ∧ c.toNat ≤ 126 := by
    rw [hid]
    decide
  obtain ⟨url, algorithm, -, -, hsend⟩ := send_confirmed Sender.defaultTimeout
    hsettings rfl hmessage hprintable hstore hkeys
  obtain ⟨-, receipt, -, -, -, -, -, hresponse⟩ := hsend [.answer _] [] rfl
  rw [hid, hecho, if_neg (by decide)] at hresponse
  exact ⟨hsettings, message, url, algorithm, receipt, hmessage, hresponse⟩

end As2Exchange
