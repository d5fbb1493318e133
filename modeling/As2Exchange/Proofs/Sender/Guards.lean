import As2Exchange.Proofs.Sender.Post

/-!
# Guards before the post

The HTTP sender refuses a message before it is posted, for one of five reasons that are looked at
in a fixed order. A message that is not refused is posted exactly once. Whatever happens, the sender
only ever puts a receipt on the message and adds entries to its partnership.

- `Partnership.LacksKey`, `Partnership.LacksCertificate` and `Partnership.UnknownDigest` are judged
  on the completed partnership;
- `Sender.Refused` says for which reason a message is refused;
- `Message.Kept` says what a sender leaves of a message;
- `Sender.http_guarded` collects what holds of every run of the sender.
-/

namespace As2Exchange

/-! ## Conditions -/

/-- An entry is there with a text that is not empty. -/
def Message.Given (value : Option String) : Prop := ∃ text, value = some text ∧ text ≠ ""

theorem Message.given?_isSome {value : Option String} :
    (given? value).isSome = true ↔ Given value := by
  rw [Option.isSome_iff_exists]
  exact exists_congr fun _ => given?_eq_some

namespace KeyStore

/-- One of the credentials stands under the name, in any letter case. -/
def Holds (credentials : List (String × Credential)) (name : String) : Prop :=
  ∃ credential, (Text.lower name, credential) ∈ credentials

theorem find?_isSome {credentials : List (String × Credential)} {name : String} :
    (find? credentials name).isSome = true ↔ Holds credentials name := by
  rw [find?, ← mem_names_iff]
  simp [Holds]

variable {store : KeyStore} {name : String}

theorem privateKey_of_holds (h : Holds store.privateKeys name) :
    ∃ key, store.privateKey name = .ok key := by
  obtain ⟨key, hkey⟩ := Option.isSome_iff_exists.1 (find?_isSome.2 h)
  unfold privateKey
  rw [hkey]
  exact ⟨key, rfl⟩

theorem privateKey_of_not_holds (h : ¬ Holds store.privateKeys name) :
    store.privateKey name = .error (.noKey name) := by
  rw [← find?_isSome, Option.not_isSome_iff_eq_none] at h
  unfold privateKey
  rw [h]

theorem certificate_of_holds (h : Holds store.certificates name) :
    ∃ certificate, store.certificate name = .ok certificate := by
  obtain ⟨certificate, hcertificate⟩ := Option.isSome_iff_exists.1 (find?_isSome.2 h)
  unfold KeyStore.certificate
  rw [hcertificate]
  exact ⟨certificate, rfl⟩

theorem certificate_of_not_holds (h : ¬ Holds store.certificates name) :
    store.certificate name = .error (.noCertificate name) := by
  rw [← find?_isSome, Option.not_isSome_iff_eq_none] at h
  unfold KeyStore.certificate
  rw [h]

end KeyStore

namespace Partnership

/-- The alias under which the key of the sender is looked up. -/
def senderAlias (p : Partnership) : String := (p.senderId? Key.keyAlias).getD ""

/-- The alias under which the certificate of the receiver is looked up. -/
def receiverAlias (p : Partnership) : String := (p.receiverId? Key.keyAlias).getD ""

/-- A signature is asked for, and there is no private key of the sender. -/
def LacksKey (p : Partnership) (store : KeyStore) : Prop :=
  Message.Given (p.attribute? Key.sign) ∧ ¬ KeyStore.Holds store.privateKeys p.senderAlias

/-- Encryption is asked for, and there is no certificate of the receiver. -/
def LacksCertificate (p : Partnership) (store : KeyStore) : Prop :=
  Message.Given (p.attribute? Key.encrypt) ∧ ¬ KeyStore.Holds store.certificates p.receiverAlias

/-- A digest is asked for by a name that no digest has. -/
def UnknownDigest (p : Partnership) (name : String) : Prop :=
  p.attribute? Key.sign = some name ∧ name ≠ "" ∧ DigestAlgorithm.ofName? name = none

end Partnership

/-- What a sender leaves of a message: it may put a receipt on it and add entries to its
partnership. -/
structure Message.Kept (before after : Message) : Prop where
  messageId : after.messageId = before.messageId
  subject : after.subject = before.subject
  contentType : after.contentType = before.contentType
  attributes : after.attributes = before.attributes
  body : after.body = before.body
  partnership : before.partnership.Extends after.partnership

/-- A post that meets the reply fails: the transport does, or the answer has a status of failure. -/
def Reply.Fails : Reply → Prop
  | .failure _ => True
  | .answer received => 400 ≤ received.status ∧ received.status < 600

namespace Sender

/-! ## Refusals -/

variable {p : Partnership} {store : KeyStore}

theorem requireKeys_of_lacksKey (h : p.LacksKey store) :
    requireKeys p store = .error (.noKey p.senderAlias) := by
  obtain ⟨hgiven, hnone⟩ := h
  have hkey := KeyStore.privateKey_of_not_holds hnone
  unfold Partnership.senderAlias at hkey
  unfold requireKeys
  dsimp only
  rw [if_pos (Message.given?_isSome.2 hgiven), hkey]
  rfl

/-- If no private key is missing, the certificate decides. -/
theorem requireKeys_of_not_lacksKey (h : ¬ p.LacksKey store) :
    requireKeys p store =
      if (Message.given? (p.attribute? Key.encrypt)).isSome then do
        let _ ← store.certificate p.receiverAlias
      else .ok () := by
  unfold requireKeys
  dsimp only
  -- either no signature is asked for, or its key is there
  by_cases hgiven : Message.Given (p.attribute? Key.sign)
  · obtain ⟨key, hkey⟩ :=
      KeyStore.privateKey_of_holds (Classical.not_not.1 fun hnone => h ⟨hgiven, hnone⟩)
    unfold Partnership.senderAlias at hkey
    rw [if_pos (Message.given?_isSome.2 hgiven), hkey]
    rfl
  · rw [if_neg (mt Message.given?_isSome.1 hgiven)]
    rfl

theorem requireKeys_of_lacksCertificate (hkey : ¬ p.LacksKey store)
    (h : p.LacksCertificate store) :
    requireKeys p store = .error (.noCertificate p.receiverAlias) := by
  obtain ⟨hgiven, hnone⟩ := h
  rw [requireKeys_of_not_lacksKey hkey, if_pos (Message.given?_isSome.2 hgiven),
    KeyStore.certificate_of_not_holds hnone]
  rfl

theorem requireKeys_of_holds (hkey : ¬ p.LacksKey store) (h : ¬ p.LacksCertificate store) :
    requireKeys p store = .ok () := by
  rw [requireKeys_of_not_lacksKey hkey]
  by_cases hgiven : Message.Given (p.attribute? Key.encrypt)
  · obtain ⟨certificate, hcertificate⟩ :=
      KeyStore.certificate_of_holds (Classical.not_not.1 fun hnone => h ⟨hgiven, hnone⟩)
    rw [if_pos (Message.given?_isSome.2 hgiven), hcertificate]
    rfl
  · rw [if_neg (mt Message.given?_isSome.1 hgiven)]

/-- The digest is taken unless it is asked for by an unknown name. -/
theorem sentDigest_of_unknown {message : Message} {name : String}
    (h : message.partnership.UnknownDigest name) :
    sentDigest message = .error (.protocol (.digest name)) := by
  obtain ⟨hsign, hne, hunknown⟩ := h
  unfold sentDigest MimeBody.integrityCheck
  rw [Message.given?_eq_some.2 ⟨hsign, hne⟩, Option.getD_some, hunknown]

theorem sentDigest_of_known {message : Message}
    (h : ∀ name, ¬ message.partnership.UnknownDigest name) :
    ∃ sent, sentDigest message = .ok sent := by
  obtain ⟨algorithm, halgorithm⟩ :
      ∃ algorithm, DigestAlgorithm.ofName? message.digestName = some algorithm := by
    -- without a name it is the default digest, and that one is known
    unfold Message.digestName
    cases hgiven : Message.given? (message.partnership.attribute? Key.sign) with
    | none => exact ⟨.sha256, by decide +kernel⟩
    | some name =>
      obtain ⟨hsign, hne⟩ := Message.given?_eq_some.1 hgiven
      exact Option.ne_none_iff_exists'.1 fun hunknown => h name ⟨hsign, hne, hunknown⟩
  exact ⟨_, sentDigest_eq_ok.2 ⟨algorithm, halgorithm, rfl⟩⟩

/-- The partnership by which a message is judged: its own, completed from the known one. -/
def judged (message : Message) (session : Session) : Partnership :=
  (complete message session).1.partnership

/-- The reasons for which a message is refused before it is posted, each behind the ones that are
looked at before it. -/
inductive Refused (action : String) (message : Message) (session : Session) : Failure → Prop where
  | action (h : action ≠ sendAction) :
      Refused action message session (.protocol (.action action))
  | destination (haction : action = sendAction) (h : ¬ Message.Given message.destination?) :
      Refused action message session (.transmission (.noDestination message.messageId))
  | key (haction : action = sendAction) (hdestination : Message.Given message.destination?)
      (h : (judged message session).LacksKey session.keyStore) :
      Refused action message session
        (.transmission (.credential (.noKey (judged message session).senderAlias)))
  | certificate (haction : action = sendAction) (hdestination : Message.Given message.destination?)
      (hkey : ¬ (judged message session).LacksKey session.keyStore)
      (h : (judged message session).LacksCertificate session.keyStore) :
      Refused action message session
        (.transmission (.credential (.noCertificate (judged message session).receiverAlias)))
  | digest (haction : action = sendAction) (hdestination : Message.Given message.destination?)
      (hkey : ¬ (judged message session).LacksKey session.keyStore)
      (hcertificate : ¬ (judged message session).LacksCertificate session.keyStore)
      {name : String} (h : (judged message session).UnknownDigest name) :
      Refused action message session (.protocol (.digest name))

/-- The message passes all guards. -/
structure Passes (action : String) (message : Message) (session : Session) : Prop where
  action : action = sendAction
  destination : Message.Given message.destination?
  key : ¬ (judged message session).LacksKey session.keyStore
  certificate : ¬ (judged message session).LacksCertificate session.keyStore
  digest : ∀ name, ¬ (judged message session).UnknownDigest name

variable {action : String} {message : Message} {session : Session} {failure : Failure}

/-- A message is refused, or it passes. -/
theorem refused_or_passes (action : String) (message : Message) (session : Session) :
    (∃ failure, Refused action message session failure) ∨ Passes action message session := by
  -- one guard after the other, in the order in which they are looked at
  by_cases haction : action = sendAction
  case neg => exact .inl ⟨_, .action haction⟩
  by_cases hdestination : Message.Given message.destination?
  case neg => exact .inl ⟨_, .destination haction hdestination⟩
  by_cases hkey : (judged message session).LacksKey session.keyStore
  case pos => exact .inl ⟨_, .key haction hdestination hkey⟩
  by_cases hcertificate : (judged message session).LacksCertificate session.keyStore
  case pos => exact .inl ⟨_, .certificate haction hdestination hkey hcertificate⟩
  by_cases hdigest : ∃ name, (judged message session).UnknownDigest name
  case pos =>
    obtain ⟨name, hname⟩ := hdigest
    exact .inl ⟨_, .digest haction hdestination hkey hcertificate hname⟩
  exact .inr ⟨haction, hdestination, hkey, hcertificate, not_exists.1 hdigest⟩

theorem Refused.not_passes (h : Refused action message session failure) :
    ¬ Passes action message session := by
  rintro ⟨haction, hdestination, hkey, hcertificate, hdigest⟩
  cases h with
  | action h => exact h haction
  | destination _ h => exact h hdestination
  | key _ _ h => exact hkey h
  | certificate _ _ _ h => exact hcertificate h
  | digest _ _ _ _ h => exact hdigest _ h

/-- A message passes just if none of the guards holds it up. -/
theorem passes_iff : Passes action message session ↔
    ¬ (action ≠ sendAction ∨ ¬ Message.Given message.destination? ∨
      (judged message session).LacksKey session.keyStore ∨
      (judged message session).LacksCertificate session.keyStore ∨
      ∃ name, (judged message session).UnknownDigest name) := by
  simp only [not_or, Classical.not_not, not_exists]
  constructor
  · rintro ⟨haction, hdestination, hkey, hcertificate, hdigest⟩
    exact ⟨haction, hdestination, hkey, hcertificate, hdigest⟩
  · rintro ⟨haction, hdestination, hkey, hcertificate, hdigest⟩
    exact ⟨haction, hdestination, hkey, hcertificate, hdigest⟩

/-! ## Runs of the sender -/

variable {timeout : Double} {network : Network}

/-- A message that is not prepared is left as it was completed. -/
theorem http_of_prepare_error [Codecs] [Mime.Nesting]
    (hdestination : Message.Given message.destination?)
    (hprepare : prepare (complete message session).1 (complete message session).2 =
      .error failure) :
    http timeout message session network =
      { message := (complete message session).1, session := (complete message session).2, network
        failure := some failure } := by
  obtain ⟨url, hurl, hne⟩ := hdestination
  unfold http
  rw [Message.given?_eq_some.2 ⟨hurl, hne⟩]
  dsimp only
  rw [hprepare]

theorem prepare_of_keys_error {cause : CredentialError}
    (h : requireKeys (judged message session) session.keyStore = .error cause) :
    prepare (complete message session).1 (complete message session).2 =
      .error (.transmission (.credential cause)) := by
  have hkeys : requireKeys (complete message session).1.partnership
      (complete message session).2.keyStore = .error cause := h
  unfold prepare
  rw [hkeys]

theorem prepare_of_keys_ok (h : requireKeys (judged message session) session.keyStore = .ok ()) :
    prepare (complete message session).1 (complete message session).2 =
      sentDigest (complete message session).1 := by
  have hkeys : requireKeys (complete message session).1.partnership
      (complete message session).2.keyStore = .ok () := h
  unfold prepare
  rw [hkeys]

/-- A refused message is not posted, and fails for the reason of its refusal. -/
theorem handle_of_refused [Codecs] [Mime.Nesting] (timeout : Double) (network : Network)
    (h : Refused action message session failure) :
    let delivery := (http timeout).handle action message session network
    delivery.posts = [] ∧ delivery.failure = some failure ∧
      (delivery.message = message ∨ delivery.message = (complete message session).1) := by
  -- a message that is completed but not prepared
  have hunprepared : ∀ {failure}, Message.Given message.destination? →
      prepare (complete message session).1 (complete message session).2 = .error failure →
      let delivery := (http timeout).handle sendAction message session network
      delivery.posts = [] ∧ delivery.failure = some failure ∧
        (delivery.message = message ∨ delivery.message = (complete message session).1) := by
    intro failure hdestination hprepare
    rw [handle_send, http_of_prepare_error hdestination hprepare]
    exact ⟨rfl, rfl, .inr rfl⟩
  cases h with
  | action h =>
    unfold handle
    rw [if_neg h]
    exact ⟨rfl, rfl, .inl rfl⟩
  | destination haction h =>
    subst haction
    rw [handle_send]
    unfold http
    rw [Option.not_isSome_iff_eq_none.1 (mt Message.given?_isSome.1 h)]
    exact ⟨rfl, rfl, .inl rfl⟩
  | key haction hdestination h =>
    subst haction
    exact hunprepared hdestination (prepare_of_keys_error (requireKeys_of_lacksKey h))
  | certificate haction hdestination hkey h =>
    subst haction
    exact hunprepared hdestination
      (prepare_of_keys_error (requireKeys_of_lacksCertificate hkey h))
  | digest haction hdestination hkey hcertificate h =>
    subst haction
    apply hunprepared hdestination
    rw [prepare_of_keys_ok (requireKeys_of_holds hkey hcertificate)]
    exact sentDigest_of_unknown h

/-- A message that passes goes to the exchange. -/
theorem handle_of_passes [Codecs] [Mime.Nesting] (timeout : Double) (network : Network)
    (h : Passes action message session) :
    ∃ url sent, message.destination? = some url ∧ url ≠ "" ∧
      (http timeout).handle action message session network =
        exchange timeout url sent (complete message session).1 (complete message session).2
          network := by
  obtain ⟨haction, ⟨url, hurl, hne⟩, hkey, hcertificate, hdigest⟩ := h
  subst haction
  obtain ⟨sent, hsent⟩ := @sentDigest_of_known (complete message session).1 hdigest
  rw [← prepare_of_keys_ok (requireKeys_of_holds hkey hcertificate)] at hsent
  refine ⟨url, sent, hurl, hne, ?_⟩
  rw [handle_send]
  exact http_eq (Message.given?_eq_some.2 ⟨hurl, hne⟩) hsent

/-! ## What is left of the message -/

theorem kept_refl (message : Message) : message.Kept message :=
  ⟨rfl, rfl, rfl, rfl, rfl, .refl message.partnership⟩

theorem kept_complete (message : Message) (session : Session) :
    message.Kept (complete message session).1 where
  messageId := rfl
  subject := rfl
  contentType := rfl
  attributes := rfl
  body := rfl
  partnership := Partnership.extends_fillFrom message.partnership _

theorem kept_attach {before after : Message} (h : before.Kept after) (receipt : Option Receipt) :
    before.Kept { after with receipt } :=
  ⟨h.messageId, h.subject, h.contentType, h.attributes, h.body, h.partnership⟩

/-- A post that fails leaves the message as it is. -/
theorem exchange_of_fails [Codecs] [Mime.Nesting] (url sent : String) (h : network.next.1.Fails) :
    let delivery := exchange timeout url sent message session network
    delivery.message = message ∧ delivery.failure ≠ none := by
  unfold exchange
  revert h
  -- an answer whose status is a failure, or no answer at all
  rcases network.next with ⟨answer | cause, rest⟩
  · intro hstatus
    dsimp only
    cases hfailure : answer.failure? url with
    | some error => exact ⟨rfl, Option.some_ne_none _⟩
    | none =>
      have hfine := Answer.failure?_eq_none.1 hfailure
      obtain ⟨hlow, hhigh⟩ : 400 ≤ answer.status ∧ answer.status < 600 := hstatus
      omega
  · intro _
    exact ⟨rfl, Option.some_ne_none _⟩

/-! ## All runs -/

/-- What holds of every run of the HTTP sender. -/
structure Guarded (timeout : Double) (action : String) (message : Message) (session : Session)
    (network : Network) (delivery : Delivery) : Prop where
  /-- Nothing is posted just if one of the guards holds the message up. -/
  posts_eq_nil_iff : delivery.posts = [] ↔
    action ≠ sendAction ∨ ¬ Message.Given message.destination? ∨
      (judged message session).LacksKey session.keyStore ∨
      (judged message session).LacksCertificate session.keyStore ∨
      ∃ name, (judged message session).UnknownDigest name
  /-- A run without a post fails for the first reason, and puts no receipt on the message. -/
  refused : delivery.posts = [] → ∃ failure, Refused action message session failure ∧
    delivery.failure = some failure ∧ delivery.message.receipt = message.receipt
  /-- Any other run posts the message once, under its completed partnership. -/
  posted : delivery.posts ≠ [] → ∃ url, message.destination? = some url ∧ url ≠ "" ∧
    delivery.posts = [{
      url
      data := message.body.transmitted
      headers := { message with partnership := judged message session }.headers
      timeout }]
  /-- If the post fails, so does the run, and it puts no receipt on the message. -/
  unanswered : delivery.posts ≠ [] → network.next.1.Fails →
    delivery.failure ≠ none ∧ delivery.message.receipt = message.receipt
  kept : message.Kept delivery.message

theorem guarded_of_refused [Codecs] [Mime.Nesting] (timeout : Double) (network : Network)
    (h : Refused action message session failure) :
    Guarded timeout action message session network
      ((http timeout).handle action message session network) := by
  obtain ⟨hposts, hfailure, hmessage⟩ := handle_of_refused timeout network h
  constructor
  case posts_eq_nil_iff =>
    exact iff_of_true hposts (Classical.not_not.1 (mt passes_iff.2 h.not_passes))
  case refused =>
    intro _
    refine ⟨failure, h, hfailure, ?_⟩
    -- the message is the one that came, or that one with its partnership completed
    rcases hmessage with hmessage | hmessage
    · rw [hmessage]
    · rw [hmessage]
      rfl
  case posted => exact fun hposted => absurd hposts hposted
  case unanswered => exact fun hposted => absurd hposts hposted
  case kept =>
    rcases hmessage with hmessage | hmessage
    · rw [hmessage]
      exact kept_refl message
    · rw [hmessage]
      exact kept_complete message session

theorem guarded_of_passes [Codecs] [Mime.Nesting] (timeout : Double) (network : Network)
    (h : Passes action message session) :
    Guarded timeout action message session network
      ((http timeout).handle action message session network) := by
  obtain ⟨url, sent, hurl, hne, hdelivery⟩ := handle_of_passes timeout network h
  rw [hdelivery]
  -- there is one post, so nothing that holds of runs without a post applies
  have hposts := @exchange_posts _ _ timeout (complete message session).1 (complete message session).2
    network url sent
  have hposted : (exchange timeout url sent (complete message session).1
      (complete message session).2 network).posts ≠ [] := by
    rw [hposts]
    exact List.cons_ne_nil _ _
  constructor
  case posts_eq_nil_iff => exact iff_of_false hposted (passes_iff.1 h)
  case refused => exact fun hnone => absurd hnone hposted
  case posted =>
    intro _
    exact ⟨url, hurl, hne, hposts⟩
  case unanswered =>
    intro _ hfails
    obtain ⟨hmessage, hfailure⟩ := exchange_of_fails url sent hfails
    refine ⟨hfailure, ?_⟩
    rw [hmessage]
    rfl
  case kept =>
    obtain ⟨receipt, _, hexchange⟩ := exchange_eq timeout url sent (complete message session).1
      (complete message session).2 network
    rw [hexchange]
    exact kept_attach (kept_complete message session) receipt

/-- **Every run of the HTTP sender is guarded**: it posts nothing if a guard holds the message up,
and posts the message once if none does. Whatever happens it keeps the message. -/
theorem http_guarded [Codecs] [Mime.Nesting] (timeout : Double) (action : String)
    (message : Message) (session : Session)
    (network : Network) : Guarded timeout action message session network
      ((http timeout).handle action message session network) := by
  rcases refused_or_passes action message session with ⟨failure, hrefused⟩ | hpasses
  · exact guarded_of_refused timeout network hrefused
  · exact guarded_of_passes timeout network hpasses

end Sender

end As2Exchange
