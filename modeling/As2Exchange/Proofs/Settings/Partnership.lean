import As2Exchange.Settings
import As2Exchange.Proofs.Lookup
import As2Exchange.Proofs.Text.Lower
import As2Exchange.Proofs.Validation.Checked

/-!
# Settings that were checked

Settings that passed their check hold texts where texts are asked for, a digest that is known or
none, and a template of message ids with the placeholder that makes ids differ.

- `Settings.Valid` is what the check of settings grants;
- `Settings.Valid.partnership_ok` says that such settings have a partnership;
- `Settings.lookup_entries` tells the entries of a partnership by the values of the settings.
-/

namespace As2Exchange.Settings

/-! ## What a check grants -/

def IsText (v : Value) : Prop := ∃ text, v = .text text

theorem isText_text (text : String) : IsText (.text text) := ⟨text, rfl⟩

/-- What is known of settings that passed their check. -/
structure Valid (s : Settings) : Prop where
  senderAs2Id : IsText s.senderAs2Id
  senderKeyAlias : IsText s.senderKeyAlias
  senderEmail : IsText s.senderEmail
  receiverAs2Id : IsText s.receiverAs2Id
  receiverKeyAlias : IsText s.receiverKeyAlias
  destinationUrl : IsText s.destinationUrl
  signAlgorithm : s.signAlgorithm = .null ∨
    ∃ name algorithm, s.signAlgorithm = .text name ∧ DigestAlgorithm.ofName? name = some algorithm
  encryptAlgorithm : s.encryptAlgorithm = .null ∨ IsText s.encryptAlgorithm
  receiptOptions : IsText s.receiptOptions
  messageIdFormat : ∃ format, s.messageIdFormat = .text format ∧
    uniquePlaceholder.toList <:+: format.toList
  keyStorePath : ∃ path, s.keyStorePath = .path path
  keyStorePassword : IsText s.keyStorePassword
  partnershipName : IsText s.partnershipName

theorem isText_of_textField {v w : Value} (h : (textField v).result = .ok w) : IsText w := by
  obtain ⟨text, -, rfl⟩ := Checked.map_eq_ok.1 h
  exact ⟨text, rfl⟩

theorem of_optionalTextField {v w : Value} (h : (optionalTextField v).result = .ok w) :
    w = .null ∨ IsText w := by
  unfold optionalTextField at h
  split at h
  · exact .inl (Checked.valid_eq_ok.1 h).symm
  · exact .inr (isText_of_textField h)

theorem of_signField {v w : Value} (h : (signField v).result = .ok w) : w = .null ∨
    ∃ name algorithm, w = .text name ∧ DigestAlgorithm.ofName? name = some algorithm := by
  -- the field is checked as an optional text before the digest is looked up
  obtain ⟨kept, hkept, h⟩ := Checked.andThen_eq_ok.1 h
  rcases of_optionalTextField hkept with rfl | ⟨name, rfl⟩
  · exact .inl (Checked.valid_eq_ok.1 h).symm
  · -- the digest is looked up under the name
    dsimp only at h
    split at h
    · rename_i hknown
      obtain ⟨algorithm, halgorithm⟩ := Option.isSome_iff_exists.1 hknown
      exact .inr ⟨name, algorithm, (Checked.valid_eq_ok.1 h).symm, halgorithm⟩
    · exact (Checked.expected_eq_ok.1 h).elim

theorem of_formatField {v w : Value} (h : (formatField v).result = .ok w) :
    ∃ format, w = .text format ∧ uniquePlaceholder.toList <:+: format.toList := by
  obtain ⟨format, -, h⟩ := Checked.andThen_eq_ok.1 h
  split at h
  · rename_i hoccurs
    exact ⟨format, (Checked.valid_eq_ok.1 h).symm, Text.occursIn_iff.1 hoccurs⟩
  · exact (Checked.expected_eq_ok.1 h).elim

/-! ## Fields of a record -/

/-- A property of all values that pass a check holds of the field that must be there. -/
theorem of_required {record v : Value} {name : String} {check : Value → Checked Value}
    {P : Value → Prop} (hP : ∀ {w v}, (check w).result = .ok v → P v)
    (h : (Check.required record name check).result = .ok v) : P v := by
  have h := Checked.within_eq_ok.1 h
  -- the field is there, or the check of a field that must be there fails
  split at h
  · exact hP h
  · exact (Checked.expected_eq_ok.1 h).elim

/-- A property of the default and of all values that pass a check holds of the field. -/
theorem of_withDefault {record v default : Value} {name : String} {check : Value → Checked Value}
    {P : Value → Prop} (hP : ∀ {w v}, (check w).result = .ok v → P v) (hdefault : P default)
    (h : (Check.withDefault record name default check).result = .ok v) : P v := by
  have h := Checked.within_eq_ok.1 h
  split at h
  · exact hP h
  · rw [← Checked.valid_eq_ok.1 h]
    exact hdefault

/-- **Settings that passed their check are valid.** -/
theorem valid_of_check {record : Value} {s : Settings} (h : (check record).result = .ok s) :
    s.Valid := by
  simp only [check, Checked.seq_eq_ok, Checked.fmap_eq_ok] at h
  -- the fields stand inside out: the record is checked from its last field on
  obtain ⟨_, _, ⟨_, _, ⟨_, _, ⟨_, _, ⟨_, _, ⟨_, _, ⟨_, _, ⟨_, _, ⟨_, _, ⟨_, _, ⟨_, _, ⟨_, _,
    ⟨_, hourId, rfl⟩, hourAlias, rfl⟩, hemail, rfl⟩, htheirId, rfl⟩, htheirAlias, rfl⟩, hurl, rfl⟩,
    hsign, rfl⟩, hencrypt, rfl⟩, hoptions, rfl⟩, hformat, rfl⟩, hpath, rfl⟩, hpassword, rfl⟩,
    hname, rfl⟩ := h
  have hplaceholder : uniquePlaceholder.toList <:+: defaultMessageIdFormat.toList :=
    Text.occursIn_iff.1 (by decide +kernel)
  exact {
    senderAs2Id := of_required isText_of_textField hourId
    senderKeyAlias := of_required isText_of_textField hourAlias
    senderEmail := of_required isText_of_textField hemail
    receiverAs2Id := of_required isText_of_textField htheirId
    receiverKeyAlias := of_required isText_of_textField htheirAlias
    destinationUrl := of_required isText_of_textField hurl
    signAlgorithm := of_withDefault of_signField (.inl rfl) hsign
    encryptAlgorithm := of_withDefault of_optionalTextField (.inl rfl) hencrypt
    receiptOptions := of_withDefault isText_of_textField ⟨_, rfl⟩ hoptions
    messageIdFormat := of_withDefault of_formatField ⟨_, rfl, hplaceholder⟩ hformat
    keyStorePath := of_required
      (fun hpassed => (Checked.map_eq_ok.1 hpassed).imp fun _ hv => hv.2.symm) hpath
    keyStorePassword := of_withDefault isText_of_textField ⟨_, rfl⟩ hpassword
    partnershipName := isText_of_textField (Checked.within_eq_ok.1 hname) }

/-! ## The partnership -/

/-- An entry of a partnership is there with the checked value of the settings. -/
theorem lookup_entries {values : List (String × Value)} {done : Entries}
    (h : (entries values).result = .ok done) {key : String} {v : Value}
    (hv : values.lookup key = some v) :
    ∃ text, (Check.optionalText v).result = .ok text ∧ done.lookup key = some text := by
  -- on the entries that are checked, whose first one with the key counts
  induction values generalizing done with
  | nil => cases hv
  | cons entry values ih =>
    rw [entries, List.map_cons] at h
    obtain ⟨first, rest, hfirst, hrest, rfl⟩ := Checked.all_cons_eq_ok.1 h
    obtain ⟨text, htext, rfl⟩ := Checked.map_eq_ok.1 hfirst
    rw [lookup_cons_eq] at hv ⊢
    split at hv
    · -- the entry itself
      cases hv
      exact ⟨text, Checked.within_eq_ok.1 htext, by simp_all⟩
    · rename_i hother
      rw [if_neg hother]
      exact ih hrest hv

/-- Every entry of a partnership is there, with or without a value. -/
theorem has_entries {values : List (String × Value)} {done : Entries}
    (h : (entries values).result = .ok done) {key : String}
    (hkey : (values.lookup key).isSome = true) : done.has key = true := by
  obtain ⟨v, hv⟩ := Option.isSome_iff_exists.1 hkey
  obtain ⟨text, -, hlookup⟩ := lookup_entries h hv
  rw [Entries.has, hlookup]
  rfl

/-- Texts and absent values pass the second check. -/
theorem entries_ok {values : List (String × Value)}
    (h : ∀ entry ∈ values, entry.2 = .null ∨ IsText entry.2) :
    ∃ done, (entries values).result = .ok done := by
  -- on the entries: none of them can fail, since an absent value is one too
  induction values with
  | nil => exact ⟨[], rfl⟩
  | cons entry values ih =>
    obtain ⟨rest, hrest⟩ := ih fun other hother => h other (List.mem_cons_of_mem _ hother)
    have hentry : ∃ text, (Check.optionalText entry.2).result = .ok text := by
      rcases h entry List.mem_cons_self with hnull | ⟨text, htext⟩
      · exact ⟨none, by rw [hnull]; rfl⟩
      · exact ⟨some text, by rw [htext]; rfl⟩
    obtain ⟨text, htext⟩ := hentry
    refine ⟨(entry.1, text) :: rest, ?_⟩
    rw [entries, List.map_cons]
    refine Checked.all_cons_eq_ok.2 ⟨_, rest, ?_, hrest, rfl⟩
    exact Checked.map_eq_ok.2 ⟨text, Checked.within_eq_ok.2 htext, rfl⟩

/-- What a partnership is derived from. -/
theorem partnership_eq_ok {s : Settings} {p : Partnership} (h : s.partnership = .ok p) :
    (Check.text s.partnershipName).result = .ok p.name ∧
      (entries s.senderIds).result = .ok p.senderIds ∧
      (entries s.receiverIds).result = .ok p.receiverIds ∧
      (entries s.attributes).result = .ok p.attributes := by
  unfold partnership at h
  dsimp only at h
  split at h
  · rename_i checked hchecked
    cases h
    simp only [Checked.seq_eq_ok, Checked.fmap_eq_ok, Checked.within_eq_ok] at hchecked
    obtain ⟨_, _, ⟨_, _, ⟨_, _, ⟨_, hname, rfl⟩, hsender, rfl⟩, hreceiver, rfl⟩, hattributes,
      rfl⟩ := hchecked
    exact ⟨hname, hsender, hreceiver, hattributes⟩
  · cases h

/-- Valid settings have a partnership. -/
theorem Valid.partnership_ok {s : Settings} (hvalid : s.Valid) : ∃ p, s.partnership = .ok p := by
  -- the second check reads texts and absent values, and valid settings have no others
  obtain ⟨name, hname⟩ := hvalid.partnershipName
  have hsign : s.signAlgorithm = .null ∨ IsText s.signAlgorithm :=
    hvalid.signAlgorithm.imp_right fun ⟨digest, _, hdigest, _⟩ => ⟨digest, hdigest⟩
  have hformat : IsText s.messageIdFormat :=
    hvalid.messageIdFormat.imp fun _ hformat => hformat.1
  obtain ⟨senderIds, hsender⟩ := @entries_ok s.senderIds (by
    simp [senderIds, hvalid.senderAs2Id, hvalid.senderKeyAlias, hvalid.senderEmail])
  obtain ⟨receiverIds, hreceiver⟩ := @entries_ok s.receiverIds (by
    simp [receiverIds, hvalid.receiverAs2Id, hvalid.receiverKeyAlias])
  obtain ⟨attributes, hattributes⟩ := @entries_ok s.attributes (by
    simp [attributes, hvalid.destinationUrl, hvalid.encryptAlgorithm, hsign,
      hvalid.receiptOptions, hformat, isText_text])
  refine ⟨⟨name, senderIds, receiverIds, attributes⟩, ?_⟩
  have hchecked : (Partnership.mk
      <$> (Check.text s.partnershipName).within "name"
      <*> (entries s.senderIds).within "sender_ids"
      <*> (entries s.receiverIds).within "receiver_ids"
      <*> (entries s.attributes).within "attributes").result =
        .ok ⟨name, senderIds, receiverIds, attributes⟩ := by
    have htext : (Check.text s.partnershipName).result = .ok name := by
      rw [hname]
      rfl
    simp only [Checked.seq_eq_ok, Checked.fmap_eq_ok, Checked.within_eq_ok]
    exact ⟨_, _, ⟨_, _, ⟨_, _, ⟨_, htext, rfl⟩, hsender, rfl⟩, hreceiver, rfl⟩, hattributes, rfl⟩
  unfold partnership
  dsimp only
  rw [hchecked]

/-- A text passes the second check as it is. -/
theorem eq_some_of_optionalText {text : String} {value : Option String}
    (h : (Check.optionalText (.text text)).result = .ok value) : value = some text := by
  obtain ⟨_, htext, rfl⟩ := Checked.map_eq_ok.1 h
  cases htext
  rfl

/-- An attribute of a partnership has the checked value of the settings. -/
theorem attribute?_partnership {s : Settings} {p : Partnership} (h : s.partnership = .ok p)
    {key : String} {v : Value} (hv : s.attributes.lookup key = some v) :
    (Check.optionalText v).result = .ok (p.attribute? key) := by
  obtain ⟨-, -, -, hattributes⟩ := partnership_eq_ok h
  obtain ⟨text, htext, hlookup⟩ := lookup_entries hattributes hv
  rw [Partnership.attribute?, Entries.value?, hlookup]
  exact htext

/-- Under valid settings the digest for signing is known, if there is one. -/
theorem Valid.sign_known {s : Settings} (hvalid : s.Valid) {p : Partnership}
    (h : s.partnership = .ok p) : p.attribute? Key.sign = none ∨
      ∃ name algorithm, p.attribute? Key.sign = some name ∧
        DigestAlgorithm.ofName? name = some algorithm := by
  have hvalue := attribute?_partnership h (show s.attributes.lookup Key.sign =
    some s.signAlgorithm from rfl)
  -- the value in the partnership is that of the settings, absent or a text
  rcases hvalid.signAlgorithm with hnull | ⟨name, algorithm, hname, halgorithm⟩
  · rw [hnull] at hvalue
    exact .inl (Checked.valid_eq_ok.1 hvalue).symm
  · rw [hname] at hvalue
    exact .inr ⟨name, algorithm, eq_some_of_optionalText hvalue, halgorithm⟩

end As2Exchange.Settings
