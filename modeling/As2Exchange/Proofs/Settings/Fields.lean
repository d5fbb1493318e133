import As2Exchange.Config
import As2Exchange.Proofs.Send.Password
import As2Exchange.Proofs.Validation.Checked
import As2Exchange.Proofs.Value.Document

/-!
# Records that checks do not tell apart

The check of a record looks up its fields by name, and refuses every collection among them for one
and the same reason. So it does not tell apart two records in which the fields are alike.

- `Check.Refuses` is said of checks that no collection passes;
- `SenderConfig.check_congr` and `Settings.check_congr` are the checks of the two parts of a
  configuration, and `Settings.check_withPassword` is the latter with another password.
-/

namespace As2Exchange

/-! ## Checks of fields -/

namespace Check

variable {α β : Type} {v w : Value} {name : String} {check : Value → Checked α} {default a : α}
  {reason : Expectation}

/-- The check refuses every collection, for the reason that is given. -/
def Refuses (check : Value → Checked α) (reason : Expectation) : Prop :=
  ∀ v, v.isCollection = true → check v = .expected reason

theorem refuses_text : Refuses text .text := by
  intro v hv
  cases v with
  | list | set | mapping => rfl
  | _ => cases hv

theorem refuses_path : Refuses path .path := by
  intro v hv
  cases v with
  | list | set | mapping => rfl
  | _ => cases hv

theorem refuses_number : Refuses number .number := by
  intro v hv
  cases v with
  | list | set | mapping => rfl
  | _ => cases hv

namespace Refuses

variable (hrefuses : Refuses check reason)

include hrefuses

theorem map (f : α → β) : Refuses (fun v => (check v).map f) reason := by
  intro v hv
  dsimp only
  rw [hrefuses v hv]
  rfl

theorem andThen (next : α → Checked β) : Refuses (fun v => (check v).andThen next) reason := by
  intro v hv
  dsimp only
  rw [hrefuses v hv]
  rfl

theorem congr (halike : Value.Alike v w) : check w = check v := by
  cases halike with
  | same => rfl
  | lists | mappings => rw [hrefuses _ rfl, hrefuses _ rfl]

/-- What passes is no collection, so no other value is like it. -/
theorem eq_of_passes (h : (check v).result = .ok a) (halike : Value.Alike v w) : w = v := by
  refine halike.eq_of_plain ?_
  cases hv : v.isCollection with
  | false => rfl
  | true =>
    rw [hrefuses v hv] at h
    cases h

theorem required_congr (halike : Option.Rel Value.Alike (v.field? name) (w.field? name)) :
    required w name check = required v name check := by
  unfold required
  -- only the fields under the name are looked at, and these are alike
  generalize v.field? name = field at halike ⊢
  generalize w.field? name = other at halike ⊢
  cases halike with
  | none => rfl
  | some hfield =>
    dsimp only
    rw [hrefuses.congr hfield]

theorem withDefault_congr (halike : Option.Rel Value.Alike (v.field? name) (w.field? name)) :
    withDefault w name default check = withDefault v name default check := by
  unfold withDefault
  generalize v.field? name = field at halike ⊢
  generalize w.field? name = other at halike ⊢
  cases halike with
  | none => rfl
  | some hfield =>
    dsimp only
    rw [hrefuses.congr hfield]

/-- A field that must be there and passes is the same in both records. -/
theorem field?_eq (halike : Option.Rel Value.Alike (v.field? name) (w.field? name))
    (h : (required v name check).result = .ok a) : w.field? name = v.field? name := by
  unfold required at h
  rw [Checked.within_eq_ok] at h
  generalize v.field? name = field at halike h ⊢
  generalize w.field? name = other at halike ⊢
  cases halike with
  | none => rfl
  | some hfield => rw [hrefuses.eq_of_passes h hfield]

end Refuses

/-- The check of a record takes mappings only, whose kind is seen in alike values. -/
theorem model_congr (halike : Value.Alike v w) (hcheck : check w = check v) :
    model name check w = model name check v := by
  cases halike with
  | same => rfl
  | lists => rfl
  | mappings => exact hcheck

end Check

/-! ## Senders -/

namespace SenderConfig

theorem refuses_checkBackend :
    Check.Refuses checkBackend (.choice "'http' or 'loopback'") := by
  intro v hv
  cases v with
  | list | set | mapping => rfl
  | _ => cases hv

/-- A sender is configured by its own fields alone. -/
theorem check_congr {v w : Value}
    (hbackend : Option.Rel Value.Alike (v.field? "backend") (w.field? "backend"))
    (htimeout : Option.Rel Value.Alike (v.field? "timeout") (w.field? "timeout")) :
    check w = check v := by
  unfold check
  dsimp only
  rw [refuses_checkBackend.withDefault_congr hbackend,
    Check.refuses_number.withDefault_congr htimeout]

end SenderConfig

/-! ## Settings -/

namespace Settings

variable {v w : Value} {settings : Settings} {password : String}

theorem refuses_textField : Check.Refuses textField .text := Check.refuses_text.map _

theorem refuses_optionalTextField : Check.Refuses optionalTextField .text := by
  intro v hv
  cases v with
  | list | set | mapping => rfl
  | _ => cases hv

theorem refuses_signField : Check.Refuses signField .text := refuses_optionalTextField.andThen _

theorem refuses_formatField : Check.Refuses formatField .text := Check.refuses_text.andThen _

/-! ### Fields before the password -/

/-- The check of the fields that stand before the password. -/
def checkFront (v : Value) : Checked (Value → Value → Settings) :=
  Settings.mk
    <$> Check.required v "sender_as2_id" textField
    <*> Check.required v "sender_key_alias" textField
    <*> Check.required v "sender_email" textField
    <*> Check.required v "receiver_as2_id" textField
    <*> Check.required v "receiver_key_alias" textField
    <*> Check.required v "destination_url" textField
    <*> Check.withDefault v "sign_algorithm" .null signField
    <*> Check.withDefault v "encrypt_algorithm" .null optionalTextField
    <*> Check.withDefault v "mdn_options" (.text defaultReceiptOptions) textField
    <*> Check.withDefault v "message_id_format" (.text defaultMessageIdFormat) formatField
    <*> Check.required v "key_store_path" (fun v => (Check.path v).map .path)

theorem check_eq (v : Value) : check v = checkFront v
    <*> Check.withDefault v "key_store_password" (.text "") textField
    <*> (textField (nameOf v)).within "partnership_name" := rfl

/-- Where these fields pass, both identifiers do, and the password has a place of its own. -/
theorem of_checkFront {g : Value → Value → Settings} (h : (checkFront v).result = .ok g) :
    (∃ ourId, (Check.required v "sender_as2_id" textField).result = .ok ourId) ∧
      (∃ theirId, (Check.required v "receiver_as2_id" textField).result = .ok theirId) ∧
      ∀ given name password, (g given name).withPassword password = g (.text password) name := by
  simp only [checkFront, Checked.seq_eq_ok, Checked.fmap_eq_ok] at h
  -- the fields stand inside out, from the last one on
  obtain ⟨_, _, ⟨_, _, ⟨_, _, ⟨_, _, ⟨_, _, ⟨_, _, ⟨_, _, ⟨_, theirId, ⟨_, _, ⟨_, _,
    ⟨ourId, hourId, rfl⟩, -, rfl⟩, -, rfl⟩, htheirId, rfl⟩, -, rfl⟩, -, rfl⟩, -, rfl⟩, -, rfl⟩,
    -, rfl⟩, -, rfl⟩, -, rfl⟩ := h
  exact ⟨⟨ourId, hourId⟩, ⟨theirId, htheirId⟩, fun _ _ _ => rfl⟩

section Front

variable (halike : ∀ name, name ≠ "key_store_password" →
  Option.Rel Value.Alike (v.field? name) (w.field? name))

include halike

theorem checkFront_congr : checkFront w = checkFront v := by
  unfold checkFront
  rw [refuses_textField.required_congr (halike "sender_as2_id" (by decide)),
    refuses_textField.required_congr (halike "sender_key_alias" (by decide)),
    refuses_textField.required_congr (halike "sender_email" (by decide)),
    refuses_textField.required_congr (halike "receiver_as2_id" (by decide)),
    refuses_textField.required_congr (halike "receiver_key_alias" (by decide)),
    refuses_textField.required_congr (halike "destination_url" (by decide)),
    refuses_signField.withDefault_congr (halike "sign_algorithm" (by decide)),
    refuses_optionalTextField.withDefault_congr (halike "encrypt_algorithm" (by decide)),
    refuses_textField.withDefault_congr (halike "mdn_options" (by decide)),
    refuses_formatField.withDefault_congr (halike "message_id_format" (by decide)),
    (Check.refuses_path.map _).required_congr (halike "key_store_path" (by decide))]

/-- Where these fields pass, the two records have the same identifiers. -/
theorem fallback_congr {g : Value → Value → Settings} (h : (checkFront v).result = .ok g) :
    nameOf.fallback w = nameOf.fallback v := by
  obtain ⟨⟨_, hourId⟩, ⟨_, htheirId⟩, -⟩ := of_checkFront h
  simp only [nameOf.fallback,
    refuses_textField.field?_eq (halike "sender_as2_id" (by decide)) hourId,
    refuses_textField.field?_eq (halike "receiver_as2_id" (by decide)) htheirId]

/-- The name of a partnership is given in both records, or in both made of the identifiers. -/
theorem textField_nameOf : textField (nameOf w) = textField (nameOf v) ∨
    nameOf w = nameOf.fallback w ∧ nameOf v = nameOf.fallback v := by
  -- what counts as given does so in both records, and a name that is given is checked itself
  have hname := halike "partnership_name" (by decide)
  unfold nameOf
  generalize v.field? "partnership_name" = field at hname ⊢
  generalize w.field? "partnership_name" = other at hname ⊢
  cases hname with
  | none => exact .inr ⟨rfl, rfl⟩
  | some hfield =>
    dsimp only
    rw [hfield.isTrue_eq]
    split
    · exact .inl (refuses_textField.congr hfield)
    · exact .inr ⟨rfl, rfl⟩

theorem textField_nameOf_of_passes {g : Value → Value → Settings}
    (h : (checkFront v).result = .ok g) : textField (nameOf w) = textField (nameOf v) := by
  rcases textField_nameOf halike with hname | ⟨hw, hv⟩
  · exact hname
  · rw [hw, hv, fallback_congr halike h]

end Front

/-! ### All fields -/

/-- A name that is made of the identifiers is a text, whatever they are. -/
theorem issues_fallback (v : Value) : (textField (nameOf.fallback v)).issues = [] := rfl

/-- **Alike records pass the check of settings with the same result.** -/
theorem check_congr (halike : ∀ name, Option.Rel Value.Alike (v.field? name) (w.field? name)) :
    check w = check v := by
  have hothers : ∀ name, name ≠ "key_store_password" →
      Option.Rel Value.Alike (v.field? name) (w.field? name) := fun name _ => halike name
  rw [check_eq, check_eq, checkFront_congr hothers,
    refuses_textField.withDefault_congr (halike "key_store_password")]
  -- a name may be made of identifiers that are collections, but these are refused before it
  refine Checked.seq_congr (fun g hg => ?passes) ?issues
  case passes =>
    obtain ⟨front, _, hfront, -, -⟩ := Checked.seq_eq_ok.1 hg
    rw [textField_nameOf_of_passes hothers hfront]
  case issues =>
    rw [Checked.issues_within, Checked.issues_within]
    rcases textField_nameOf hothers with hname | ⟨hw, hv⟩
    · rw [hname]
    · rw [hw, hv, issues_fallback, issues_fallback]

/-- **Settings that pass their check pass it with another password.** The record may differ in any
way that the fields other than the password do not tell apart. -/
theorem check_withPassword
    (halike : ∀ name, name ≠ "key_store_password" →
      Option.Rel Value.Alike (v.field? name) (w.field? name))
    (hpassword : w.field? "key_store_password" = some (.text password))
    (h : (check v).result = .ok settings) :
    (check w).result = .ok (settings.withPassword password) := by
  rw [check_eq, Checked.seq_eq_ok] at h ⊢
  obtain ⟨_, name, hg, hname, rfl⟩ := h
  -- the fields before the password pass, and the name is one of those behind it
  obtain ⟨front, given, hfront, -, rfl⟩ := Checked.seq_eq_ok.1 hg
  obtain ⟨-, -, hwith⟩ := of_checkFront hfront
  have hgiven : (Check.withDefault w "key_store_password" (.text "") textField).result =
      .ok (.text password) := by
    unfold Check.withDefault
    rw [hpassword]
    rfl
  refine ⟨front (.text password), name, ?_, ?_, ?_⟩
  · exact Checked.seq_eq_ok.2
      ⟨front, .text password, by rw [checkFront_congr halike, hfront], hgiven, rfl⟩
  · rwa [textField_nameOf_of_passes halike hfront]
  · rw [hwith]

end Settings

end As2Exchange
