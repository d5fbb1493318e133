import As2Exchange.Proofs.Settings.Fields

/-!
# Checks of configurations

A configuration is a part with settings and a part on the sender. Each part is looked up under its
name in the document, and checked by its own fields.

- `Config.ofValue_eq_ok` and `Config.check_eq_ok` say when a configuration passes, part by part;
- `Config.settings_of_given` and `Config.settings_eq_none` say what the settings of a configuration
  that passes are in its document;
- `Config.ofValue_tree` is why a document is seen to a depth of three: what lies deeper does not
  count.
-/

namespace As2Exchange

/-! ## Parts of a record -/

namespace Check

variable {α : Type} {v : Value} {name : String} {check : Value → Checked α} {a : α}

theorem mapping_of_model (h : (model name check v).result = .ok a) :
    ∃ entries, v = .mapping entries := by
  cases v with
  | mapping entries => exact ⟨entries, rfl⟩
  | _ => cases h

/-- A part of a record is the item that the document has under its name. -/
theorem withDefault_tree {d : Document} {item : Item} {depth : Nat} {default : α} :
    withDefault (d.tree (depth + 1) item) name default check =
      ((d.member? item name).elim (.valid default) fun part => check (d.tree depth part)).within
        name := by
  unfold withDefault
  rw [Document.field?_tree]
  cases d.member? item name <;> rfl

end Check

namespace Config

variable {v w : Value} {config : Config} {settings : Option Settings} {d : Document} {item : Item}

/-! ## Settings that may be absent -/

theorem checkSettings_of_given (h : v.isTrue = true) :
    checkSettings v = (Check.model "ClientSettings" Settings.check v).map some := by
  cases v with
  | null => cases h
  | _ => rfl

/-- What does not count as given stands for no settings, or is refused for the fields it lacks. -/
theorem checkSettings_of_not_given (h : v.isTrue = false)
    (hchecked : (checkSettings v).result = .ok settings) : settings = none := by
  have hempty : ∃ issues, (Settings.check (.mapping [])).result = .error issues := ⟨_, rfl⟩
  cases v with
  | null => exact (Checked.valid_eq_ok.1 hchecked).symm
  | mapping entries =>
    have hentries : entries = [] := by simpa [Value.isTrue] using h
    subst hentries
    obtain ⟨s, hs, -⟩ := Checked.map_eq_ok.1 hchecked
    obtain ⟨issues, hissues⟩ := hempty
    rw [show (Settings.check (.mapping [])).result = .ok s from hs] at hissues
    cases hissues
  | _ => cases hchecked

theorem checkSettings_congr (halike : Value.Alike v w)
    (hfields : ∀ name, Option.Rel Value.Alike (v.field? name) (w.field? name)) :
    checkSettings w = checkSettings v := by
  have hmodel : Check.model "ClientSettings" Settings.check w =
      Check.model "ClientSettings" Settings.check v :=
    Check.model_congr halike (Settings.check_congr hfields)
  cases halike with
  | same => rfl
  | lists => rfl
  | mappings => exact congrArg (Checked.map some) hmodel

/-! ## Both parts -/

theorem check_eq_ok : (check v).result = .ok config ↔
    (Check.withDefault v "settings" none checkSettings).result = .ok config.settings ∧
      (Check.withDefault v "sender" {} (Check.model "SenderConfig" SenderConfig.check)).result =
        .ok config.sender := by
  simp only [check, Checked.seq_eq_ok, Checked.fmap_eq_ok]
  constructor
  · rintro ⟨_, sender, ⟨settings, hsettings, rfl⟩, hsender, rfl⟩
    exact ⟨hsettings, hsender⟩
  · rintro ⟨hsettings, hsender⟩
    exact ⟨_, config.sender, ⟨config.settings, hsettings, rfl⟩, hsender, rfl⟩

/-- A mapping whose keys are texts. -/
def HasNames (v : Value) : Prop :=
  ∃ entries, v = .mapping entries ∧ ∀ entry ∈ entries, ∃ name, entry.1 = .text name

/-- The parts of a configuration stand under names, and pass their checks. -/
theorem ofValue_eq_ok : ofValue v = .ok config ↔ HasNames v ∧ (check v).result = .ok config := by
  unfold ofValue
  cases v with
  | mapping entries =>
    dsimp only
    split
    · rename_i hall
      have hnames : HasNames (.mapping entries) := by
        refine ⟨entries, rfl, fun entry hentry => ?_⟩
        have hkey := List.all_eq_true.1 hall entry hentry
        cases hname : entry.1 with
        | text name => exact ⟨name, rfl⟩
        | _ => simp [hname] at hkey
      simp only [hnames, true_and]
      cases (check (.mapping entries)).result <;> simp
    · rename_i hnot
      refine iff_of_false (by simp) fun ⟨⟨_, heq, hnames⟩, _⟩ => hnot ?_
      cases heq
      rw [List.all_eq_true]
      intro entry hentry
      obtain ⟨name, hname⟩ := hnames entry hentry
      simp only [hname]
  | _ => simp [HasNames]

/-! ## Parts of a document -/

/-- The settings of a configuration are what its file has under their name. -/
theorem checkSettings_of_member? (h : (check (seen d)).result = .ok config)
    (hitem : d.member? d.root "settings" = some item) :
    (checkSettings (d.tree 2 item)).result = .ok config.settings := by
  have hsettings := (check_eq_ok.1 h).1
  unfold seen at hsettings
  rwa [Check.withDefault_tree, Checked.within_eq_ok, hitem] at hsettings

theorem settings_eq_none (h : (check (seen d)).result = .ok config)
    (hnone : ∀ item, d.member? d.root "settings" = some item → (d.tree 1 item).isTrue = false) :
    config.settings = none := by
  cases hitem : d.member? d.root "settings" with
  | none =>
    have hsettings := (check_eq_ok.1 h).1
    unfold seen at hsettings
    rw [Check.withDefault_tree, Checked.within_eq_ok, hitem] at hsettings
    exact (Checked.valid_eq_ok.1 hsettings).symm
  | some item =>
    refine checkSettings_of_not_given ?_ (checkSettings_of_member? h hitem)
    rw [Document.isTrue_tree, hnone item hitem]

/-- Settings that are given and pass their check are a mapping of the document. -/
theorem settings_of_given (h : (check (seen d)).result = .ok config)
    (hitem : d.member? d.root "settings" = some item) (hgiven : (d.tree 1 item).isTrue = true) :
    ∃ settings own, config.settings = some settings ∧ d.collection? item = some (.mapping own) ∧
      (Check.model "ClientSettings" Settings.check (d.tree 2 item)).result = .ok settings := by
  have hchecked := checkSettings_of_member? h hitem
  rw [checkSettings_of_given (by rwa [Document.isTrue_tree])] at hchecked
  obtain ⟨settings, hsettings, hconfig⟩ := Checked.map_eq_ok.1 hchecked
  obtain ⟨_, hentries⟩ := Check.mapping_of_model hsettings
  obtain ⟨own, hown, -⟩ := Document.collection?_of_tree hentries
  exact ⟨settings, own, hconfig.symm, hown, hsettings⟩

/-! ## Depth -/

theorem check_tree (depth : Nat) : check (d.tree (depth + 3) item) = check (d.tree 3 item) := by
  have hsettings : ∀ part,
      checkSettings (d.tree (depth + 2) part) = checkSettings (d.tree 2 part) := by
    intro part
    apply checkSettings_congr (Document.alike_tree 1 (depth + 1))
    intro name
    exact Document.fields_tree 0 depth
  have hsender : ∀ part, Check.model "SenderConfig" SenderConfig.check (d.tree (depth + 2) part) =
      Check.model "SenderConfig" SenderConfig.check (d.tree 2 part) := by
    intro part
    apply Check.model_congr (Document.alike_tree 1 (depth + 1))
    exact SenderConfig.check_congr (Document.fields_tree 0 depth) (Document.fields_tree 0 depth)
  unfold check
  simp only [Check.withDefault_tree, hsettings, hsender]

/-- **A document counts to a depth of three.** However deep it is seen, it is the same
configuration, or is refused for the same reasons. -/
theorem ofValue_tree (depth : Nat) : ofValue (d.tree (depth + 3) d.root) = ofValue (seen d) := by
  have hcheck : check (d.tree (depth + 3) d.root) = check (seen d) := check_tree depth
  unfold seen at hcheck ⊢
  cases h : d.collection? d.root with
  | none => rw [Document.tree_of_no_collection? h, Document.tree_of_no_collection? h]
  | some c =>
    rw [Document.tree_of_collection? h, Document.tree_of_collection? h] at hcheck ⊢
    cases c with
    | list | set => rfl
    | mapping own =>
      simp only [ofValue, Collection.value, List.all_map] at hcheck ⊢
      rw [hcheck]
      rfl

end Config

end As2Exchange
