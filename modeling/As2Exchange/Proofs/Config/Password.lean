import As2Exchange.Proofs.Config.Check
import As2Exchange.Proofs.Failure.Result

/-!
# The password of the environment

A password in the environment takes the place of the one in the settings before anything is
checked. The mapping of the settings is changed in place, and the file may refer to it from
elsewhere: from the part on the sender, or from the settings themselves if these are the whole
configuration. None of this shows: a file that is read without the variable is read with it, to the
same configuration but for the password.

- `Surroundings.Sets` relates the surroundings of two runs, one with a variable and one without;
- `Config.check_withPassword` follows the change through the check of the document;
- `Config.load_overrides_only_password` is the result on all configuration files.
-/

namespace As2Exchange

/-! ## Surroundings -/

/-- The same files, and the same environment but for one variable, which is now set. -/
structure Surroundings.Sets (before after : Surroundings) (name value : String) : Prop where
  files : after.files = before.files
  unset : before.lookup? name = none
  set : after.lookup? name = some value
  others : ∀ other, other ≠ name → after.lookup? other = before.lookup? other

theorem Surroundings.sets_cons {surroundings : Surroundings} {name : String} (value : String)
    (h : surroundings.lookup? name = none) :
    surroundings.Sets { surroundings with environment := (name, value) :: surroundings.environment }
      name value where
  files := rfl
  unset := h
  set := by simp [lookup?]
  others other hother := by simp [lookup?, List.lookup_cons, beq_eq_false_iff_ne.2 hother]

/-! ## Changed documents -/

/-- The document with a password in the mapping of its settings. -/
def Document.withPassword (d : Document) (settings : Item) (password : String) : Document :=
  d.setMember settings "key_store_password" (.plain (.text password))

theorem Check.model_of_alike {α : Type} {v w : Value} {name : String} {check : Value → Checked α}
    {a b : α} (halike : Value.Alike v w)
    (hcheck : (check v).result = .ok a → (check w).result = .ok b)
    (h : (model name check v).result = .ok a) : (model name check w).result = .ok b := by
  obtain ⟨entries, rfl⟩ := mapping_of_model h
  cases halike with
  | same | mappings => exact hcheck h

namespace Config

variable {config : Config}

/-- The configuration with another password in its settings, if it has any. -/
def withPassword (config : Config) (password : String) : Config :=
  { config with settings := config.settings.map (·.withPassword password) }

theorem withPassword_of_none (password : String) (h : config.settings = none) :
    config.withPassword password = config := by
  cases config
  simp_all [withPassword]

section Override

variable {d : Document} {item : Item} {password : String}

theorem hasNames_setMember {target : Item} {name : String} {new : Item} (h : HasNames (seen d)) :
    HasNames (seen (d.setMember target name new)) := by
  obtain ⟨entries, hentries, hnames⟩ := h
  obtain ⟨own, hown, rfl⟩ := Document.collection?_of_tree hentries
  -- the keys of the mapping are the old ones and perhaps that of the password: all texts
  obtain ⟨changed, hchanged, hkeys⟩ := Document.keys_setMember target name new hown
  unfold seen
  rw [Document.root_setMember, Document.tree_of_collection? hchanged]
  refine ⟨_, rfl, fun entry hentry => ?_⟩
  obtain ⟨raw, hraw, rfl⟩ := List.mem_map.1 hentry
  rcases hkeys raw hraw with hkey | ⟨old, hold, hkey⟩
  · exact ⟨name, by rw [hkey]; rfl⟩
  · obtain ⟨other, hother⟩ := hnames _ (List.mem_map.2 ⟨old, hold, rfl⟩)
    refine ⟨other, ?_⟩
    rw [← hkey]
    exact hother

/-- The settings themselves take the password. -/
theorem checkSettings_withPassword {own : List (Scalar × Item)} {settings : Settings}
    (hown : d.collection? item = some (.mapping own)) (hgiven : (d.tree 1 item).isTrue = true)
    (h : (Check.model "ClientSettings" Settings.check (d.tree 2 item)).result = .ok settings) :
    (checkSettings ((d.withPassword item password).tree 2 item)).result =
      .ok (some (settings.withPassword password)) := by
  have halike : Value.Alike (d.tree 2 item) ((d.withPassword item password).tree 2 item) :=
    Document.alike_setMember hgiven
  have hmember : (d.withPassword item password).member? item "key_store_password" =
      some (.plain (.text password)) := Document.member?_setMember_self hown
  have hpassword : ((d.withPassword item password).tree 2 item).field? "key_store_password" =
      some (.text password) := by
    rw [Document.field?_tree, hmember]
    rfl
  rw [checkSettings_of_given (by rw [halike.isTrue_eq, Document.isTrue_tree, hgiven])]
  refine Checked.map_eq_ok.2 ⟨_, Check.model_of_alike halike ?_ h, rfl⟩
  exact Settings.check_withPassword
    (fun _ hname => Document.fields_setMember hgiven hname) hpassword

/-- The part on the sender is checked as before, also if it is the mapping of the settings. -/
theorem checkSender_withPassword (hgiven : (d.tree 1 item).isTrue = true) (part : Item) :
    Check.model "SenderConfig" SenderConfig.check ((d.withPassword item password).tree 2 part) =
      Check.model "SenderConfig" SenderConfig.check (d.tree 2 part) := by
  have hfields : ∀ name, name ≠ "key_store_password" → Option.Rel Value.Alike
      ((d.tree 2 part).field? name) (((d.withPassword item password).tree 2 part).field? name) :=
    fun name hname => Document.fields_setMember hgiven hname
  apply Check.model_congr (Document.alike_setMember hgiven)
  exact SenderConfig.check_congr (hfields "backend" (by decide)) (hfields "timeout" (by decide))

/-- **A password that is put into the settings changes nothing but the password.** The mapping of
the settings may be shared with other parts of the configuration, which are changed with it. -/
theorem check_withPassword (h : (check (seen d)).result = .ok config)
    (hitem : d.member? d.root "settings" = some item) (hgiven : (d.tree 1 item).isTrue = true) :
    (check (seen (d.withPassword item password))).result = .ok (config.withPassword password) := by
  obtain ⟨settings, own, hconfig, hown, hsettings⟩ := settings_of_given h hitem hgiven
  have hroot : (d.withPassword item password).root = d.root := Document.root_setMember d item _ _
  have hmember : ∀ name, name ≠ "key_store_password" →
      (d.withPassword item password).member? d.root name = d.member? d.root name :=
    fun name hname => Document.member?_setMember_of_ne d item d.root _ _ hname
  -- the parts are the same items as before, though what they are seen as may differ
  refine check_eq_ok.2 ⟨?settings, ?sender⟩
  case settings =>
    unfold seen
    rw [Check.withDefault_tree, Checked.within_eq_ok, hroot, hmember _ (by decide), hitem,
      withPassword, hconfig]
    exact checkSettings_withPassword hown hgiven hsettings
  case sender =>
    have hsender := (check_eq_ok.1 h).2
    unfold seen at hsender ⊢
    rw [Check.withDefault_tree, hroot, hmember _ (by decide)]
    simp only [checkSender_withPassword hgiven]
    rwa [Check.withDefault_tree] at hsender

variable (password) in
/-- The password can be put into any document that is accepted without it. -/
theorem overridePassword_ok (h : ofValue (seen d) = .ok config) :
    ∃ d', overridePassword password d = .ok d' ∧
      ofValue (seen d') = .ok (config.withPassword password) := by
  obtain ⟨hnames, hchecked⟩ := ofValue_eq_ok.1 h
  -- without settings, or with settings that do not count as given, nothing is put anywhere
  have hkept (hnone : ∀ item, d.member? d.root "settings" = some item →
      (d.tree 1 item).isTrue = false) : ofValue (seen d) = .ok (config.withPassword password) := by
    rwa [withPassword_of_none password (settings_eq_none hchecked hnone)]
  obtain ⟨entries, hentries, -⟩ := id hnames
  unfold overridePassword
  rw [hentries]
  dsimp only
  cases hitem : d.member? d.root "settings" with
  | none => exact ⟨d, rfl, hkept (by simp [hitem])⟩
  | some item =>
    cases hgiven : (d.tree 1 item).isTrue with
    | false => exact ⟨d, by simp [hgiven], hkept (by simp [hitem, hgiven])⟩
    | true =>
      -- the settings passed their check, so they are a mapping of the document
      obtain ⟨_, own, -, hown, -⟩ := settings_of_given hchecked hitem hgiven
      refine ⟨d.withPassword item password, ?_, ?_⟩
      · simp only [hgiven, if_true, putPassword]
        rw [Document.tree_of_collection? hown]
        rfl
      · exact ofValue_eq_ok.2 ⟨hasNames_setMember hnames, check_withPassword hchecked hitem hgiven⟩

end Override

/-! ## Configuration files -/

theorem load_eq_ok {surroundings : Surroundings} {path? : Option String}
    (h : surroundings.lookup? passwordVariable = none) :
    load surroundings path? = .ok config ↔
      ∃ d, documentAt surroundings (pathOf surroundings path?) = .ok d ∧
        ofValue (seen d) = .ok config := by
  unfold load
  rw [h, bind_eq_ok]

/-- **The password of the environment changes nothing but the password.** A configuration that loads
without the variable loads with it, whatever its file holds and whatever the password is: the sender
is the same, and so are the settings but for their password. Without settings nothing changes. -/
theorem load_overrides_only_password {before after : Surroundings} {password : String}
    (hset : before.Sets after passwordVariable password) {path? : Option String}
    (hload : load before path? = .ok config) :
    load after path? = .ok (config.withPassword password) ∧
      (config.settings = none → load after path? = load before path?) := by
  -- the file that is read and what it holds do not depend on the variable
  have hpath : pathOf after path? = pathOf before path? := by
    unfold pathOf
    rw [hset.others pathVariable (by decide)]
  have hdocument : ∀ path, documentAt after path = documentAt before path := by
    intro path
    unfold documentAt
    rw [hset.files]
  obtain ⟨d, hd, hchecked⟩ := (load_eq_ok hset.unset).1 hload
  obtain ⟨d', hoverride, hchanged⟩ := overridePassword_ok password hchecked
  have hafter : load after path? = .ok (config.withPassword password) := by
    unfold load
    rw [hset.set, hpath, hdocument]
    exact bind_eq_ok.2 ⟨d, hd, bind_eq_ok.2 ⟨d', hoverride, hchanged⟩⟩
  refine ⟨hafter, fun hnone => ?_⟩
  rw [hafter, hload, withPassword_of_none password hnone]

namespace SelfContained

/-- A configuration that is its own settings and its own part on the sender. -/
def configuration : String :=
  "&all \x7bsettings: *all, sender: *all, backend: loopback, sender_as2_id: a, " ++
    "sender_key_alias: k, sender_email: e, receiver_as2_id: b, receiver_key_alias: k, " ++
    "destination_url: u, key_store_path: k, key_store_password: file, " ++
    "partnership_name: \x7b\x7d\x7d"

def surroundings : Surroundings where
  files :=
    { nodes := [(["w", defaultPath], .file configuration.toUTF8.toList)]
      workingDirectory := ⟨"/", ["w"]⟩ }
  clock := ⟨2024, 1, 2, 3, 4, 5⟩
  openStore := KeyFile.lockedWith "file" {}

/-- The same files, with a password in the environment. -/
def guarded : Surroundings := { surroundings with environment := [(passwordVariable, "secret")] }

/-- What is told of a configuration: the sender, and the name and the password of the settings. -/
def told (config : Config) : String × Option (String × String) :=
  (config.sender.backend,
    config.settings.map fun s => (s.partnershipName.plain, s.keyStorePassword.plain))

theorem exists_load : ∃ config, load surroundings none = .ok config ∧
    told config = ("loopback", some ("a-b", "file")) := by
  have htold : (load surroundings none).toOption.map told =
      some ("loopback", some ("a-b", "file")) := by
    decide +kernel
  obtain ⟨config, hconfig, h⟩ := Option.map_eq_some_iff.1 htold
  exact ⟨config, eq_ok_of_toOption hconfig, h⟩

theorem told_withPassword {backend name old : String} (password : String)
    (h : told config = (backend, some (name, old))) :
    told (config.withPassword password) = (backend, some (name, password)) := by
  unfold told at h
  cases hsettings : config.settings with
  | none => simp [hsettings] at h
  | some settings =>
    rw [hsettings] at h
    cases h
    simp only [told, withPassword, hsettings]
    rfl

end SelfContained

open SelfContained in
/-- The mapping that is changed is the whole configuration, all of its parts included. -/
theorem load_self_contained :
    surroundings.Sets guarded passwordVariable "secret" ∧
      ∃ config, load surroundings none = .ok config ∧
        told config = ("loopback", some ("a-b", "file")) ∧
        load guarded none = .ok (config.withPassword "secret") ∧
        told (config.withPassword "secret") = ("loopback", some ("a-b", "secret")) := by
  have hset : surroundings.Sets guarded passwordVariable "secret" :=
    Surroundings.sets_cons "secret" (by decide)
  obtain ⟨config, hload, htold⟩ := exists_load
  exact ⟨hset, config, hload, htold, (load_overrides_only_password hset hload).1,
    told_withPassword "secret" htold⟩

end Config

end As2Exchange
