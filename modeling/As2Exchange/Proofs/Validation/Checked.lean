import As2Exchange.Validation.Check

/-!
# Checks that pass

A check of several parts passes just if each part passes, whatever the order in which issues are
collected. The lemmas here take checks apart, one for each way to put checks together. After a part
that fails, only the issues of the others count.
-/

namespace As2Exchange.Checked

variable {α β : Type} {c : Checked α} {f : Checked (α → β)} {a : α} {b : β}

theorem map_eq_ok {g : α → β} : (c.map g).result = .ok b ↔ ∃ a, c.result = .ok a ∧ g a = b := by
  unfold map
  cases c.result with
  | error issues => simp
  | ok a => simp

theorem fmap_eq_ok {g : α → β} : (g <$> c).result = .ok b ↔ ∃ a, c.result = .ok a ∧ g a = b :=
  map_eq_ok

theorem seq_eq_ok : (f <*> c).result = .ok b ↔
    ∃ g a, f.result = .ok g ∧ c.result = .ok a ∧ g a = b := by
  show (ap f c).result = .ok b ↔ _
  unfold ap
  cases f.result with
  | error issues =>
    cases c.result with
    | error more => simp
    | ok a => simp
  | ok g =>
    cases c.result with
    | error issues => simp
    | ok a => simp

/-- The value of the second part matters only if the first one passes. -/
theorem seq_congr {c' : Checked α} (hpasses : ∀ g, f.result = .ok g → c' = c)
    (hissues : c'.issues = c.issues) : f <*> c' = f <*> c := by
  show ap f c' = ap f c
  cases hf : f.result with
  | ok g => rw [hpasses g hf]
  | error first =>
    unfold ap issues at *
    rw [hf]
    cases hc : c.result <;> cases hc' : c'.result <;> simp_all

@[simp] theorem issues_within (outer : String) :
    (c.within outer).issues = c.issues.map (Issue.within outer) := by
  unfold within issues
  cases c.result <;> rfl

theorem andThen_eq_ok {check : α → Checked β} :
    (c.andThen check).result = .ok b ↔ ∃ a, c.result = .ok a ∧ (check a).result = .ok b := by
  unfold andThen
  cases c.result with
  | error issues => simp
  | ok a => simp

@[simp] theorem within_eq_ok {outer : String} : (c.within outer).result = .ok a ↔
    c.result = .ok a := by
  unfold within
  cases c.result with
  | error issues => simp
  | ok a => simp

@[simp] theorem valid_eq_ok {a' : α} : (valid a).result = .ok a' ↔ a = a' := by
  simp [valid]

@[simp] theorem expected_eq_ok {expectation : Expectation} :
    (expected expectation : Checked α).result = .ok a ↔ False := by
  simp [expected]

/-- A list of checks passes just if they all do, each with its own value. -/
theorem all_cons_eq_ok {checks : List (Checked α)} {values : List α} :
    (all (c :: checks)).result = .ok values ↔
      ∃ a rest, c.result = .ok a ∧ (all checks).result = .ok rest ∧ values = a :: rest := by
  -- the first check is joined to the others as a field is to a record
  have hseq : all (c :: checks) = ((· :: ·) <$> c <*> all checks) := rfl
  rw [hseq, seq_eq_ok]
  constructor
  · rintro ⟨g, rest, hg, hrest, rfl⟩
    obtain ⟨a, ha, rfl⟩ := fmap_eq_ok.1 hg
    exact ⟨a, rest, ha, hrest, rfl⟩
  · rintro ⟨a, rest, ha, hrest, rfl⟩
    exact ⟨_, rest, fmap_eq_ok.2 ⟨a, ha, rfl⟩, hrest, rfl⟩

end As2Exchange.Checked
