import As2Exchange.Failure

/-!
# Results of steps

Operations that may fail are chained by binding. This module takes such chains apart:

- `bind_eq_ok` and `bind_eq_error` say how a chain of two steps ends, `mapError_eq_ok` and
  `mapError_eq_error` how a step ends whose error is wrapped;
- `mapM_cons_eq_ok` and `mapM_eq_error` say how a step along a list ends;
- `bind_isOk` and `mapM_isOk` say when there is a value at the end;
- `FailsIn` says that all failures of a result have a property, which is kept by chains;
- `Failure.Reportable` is the case of results that are no request to stop.
-/

namespace As2Exchange

variable {ε α β : Type}

/-! ## Chains -/

theorem bind_eq_ok {result : Except ε α} {next : α → Except ε β} {b : β} :
    (result >>= next) = .ok b ↔ ∃ a, result = .ok a ∧ next a = .ok b := by
  cases result with
  | error e =>
    constructor
    · intro h
      cases h
    · rintro ⟨a, h, -⟩
      cases h
  | ok a =>
    constructor
    · intro h
      exact ⟨a, rfl, h⟩
    · rintro ⟨a', h, hb⟩
      cases h
      exact hb

/-- A chain fails at its first step, or at the second one after a value of the first. -/
theorem bind_eq_error {result : Except ε α} {next : α → Except ε β} {e : ε} :
    (result >>= next) = .error e ↔
      result = .error e ∨ ∃ a, result = .ok a ∧ next a = .error e := by
  cases result with
  | error e' =>
    constructor
    · intro h
      cases h
      exact .inl rfl
    · rintro (h | ⟨a, h, -⟩)
      · cases h
        rfl
      · cases h
  | ok a =>
    constructor
    · intro h
      exact .inr ⟨a, rfl, h⟩
    · rintro (h | ⟨a', h, he⟩)
      · cases h
      · cases h
        exact he

theorem eq_ok_of_toOption {result : Except ε α} {a : α} (h : result.toOption = some a) :
    result = .ok a := by
  cases result with
  | error e => cases h
  | ok a' =>
    cases h
    rfl

/-! ## Wrapped errors -/

section

variable {ε' : Type} {wrap : ε → ε'} {result : Except ε α}

theorem mapError_eq_ok {a : α} : result.mapError wrap = .ok a ↔ result = .ok a := by
  cases result with
  | error e => exact iff_of_false nofun nofun
  | ok a' => exact ⟨fun h => congrArg Except.ok (Except.ok.inj h), fun h => h ▸ rfl⟩

theorem mapError_eq_error {e' : ε'} :
    result.mapError wrap = .error e' ↔ ∃ e, result = .error e ∧ e' = wrap e := by
  cases result with
  | ok a => exact iff_of_false nofun nofun
  | error e =>
    constructor
    · intro h
      cases h
      exact ⟨e, rfl, rfl⟩
    · rintro ⟨e, h, rfl⟩
      cases h
      rfl

@[simp] theorem isOk_mapError : (result.mapError wrap).isOk = result.isOk := by
  cases result <;> rfl

end

/-! ## Steps along a list -/

/-- A step is taken for each element of a list just if it is for the first and for the others. -/
theorem mapM_cons_eq_ok {step : α → Except ε β} {a : α} {as : List α} {bs : List β} :
    (a :: as).mapM step = .ok bs ↔
      ∃ b rest, step a = .ok b ∧ as.mapM step = .ok rest ∧ bs = b :: rest := by
  rw [List.mapM_cons, bind_eq_ok]
  constructor
  · rintro ⟨b, hb, h⟩
    obtain ⟨rest, hrest, h⟩ := bind_eq_ok.1 h
    cases h
    exact ⟨b, rest, hb, hrest, rfl⟩
  · rintro ⟨b, rest, hb, hrest, rfl⟩
    exact ⟨b, hb, bind_eq_ok.2 ⟨rest, hrest, rfl⟩⟩

theorem exists_of_mapM_ok {step : α → Except ε β} {as : List α} {bs : List β}
    (h : as.mapM step = .ok bs) {a : α} (ha : a ∈ as) : ∃ b ∈ bs, step a = .ok b := by
  induction as generalizing bs with
  | nil => cases ha
  | cons first as ih =>
    obtain ⟨b, rest, hb, hrest, rfl⟩ := mapM_cons_eq_ok.1 h
    rcases List.mem_cons.1 ha with rfl | ha
    · exact ⟨b, List.mem_cons_self, hb⟩
    · obtain ⟨b', hb', hstep⟩ := ih hrest ha
      exact ⟨b', List.mem_cons_of_mem _ hb', hstep⟩

/-- Steps along a list fail at the first element whose step fails. -/
theorem mapM_eq_error {step : α → Except ε β} {as : List α} {e : ε} :
    as.mapM step = .error e ↔
      ∃ before a after, as = before ++ a :: after ∧ (∀ b ∈ before, (step b).isOk = true) ∧
        step a = .error e := by
  induction as with
  | nil =>
    -- no element has a step that could fail
    constructor
    · intro h
      cases h
    · rintro ⟨before, a, after, h, -⟩
      simp at h
  | cons a as ih =>
    rw [List.mapM_cons, bind_eq_error]
    constructor
    · rintro (ha | ⟨b, hb, h⟩)
      · exact ⟨[], a, as, rfl, by simp, ha⟩
      · -- the first step succeeds, so the failure is one of the others
        rcases bind_eq_error.1 h with h | ⟨bs, -, h⟩
        · obtain ⟨before, a', after, rfl, hbefore, ha'⟩ := ih.1 h
          refine ⟨a :: before, a', after, rfl, ?_, ha'⟩
          rintro b' (_ | ⟨_, hb'⟩)
          · rw [hb]
            rfl
          · exact hbefore b' hb'
        · cases h
    · rintro ⟨before, a', after, heq, hbefore, ha'⟩
      -- the step that fails is the first one, or stands behind a first one that succeeds
      cases before with
      | nil =>
        cases heq
        exact .inl ha'
      | cons b before =>
        cases heq
        have hfirst := hbefore a List.mem_cons_self
        have hothers := ih.2 ⟨before, a', after, rfl,
          fun b' hb' => hbefore b' (List.mem_cons_of_mem _ hb'), ha'⟩
        cases hstep : step a with
        | error e' =>
          rw [hstep] at hfirst
          cases hfirst
        | ok b => exact .inr ⟨b, rfl, bind_eq_error.2 (.inl hothers)⟩

theorem mapM_congr {step step' : α → Except ε β} {as : List α}
    (h : ∀ a ∈ as, step a = step' a) : as.mapM step = as.mapM step' := by
  induction as with
  | nil => rfl
  | cons a as ih =>
    rw [List.mapM_cons, List.mapM_cons, h a List.mem_cons_self,
      ih fun b hb => h b (List.mem_cons_of_mem _ hb)]

/-! ## Results that are values -/

theorem isOk_iff {result : Except ε α} : result.isOk = true ↔ ∃ a, result = .ok a := by
  cases result with
  | error e => simp [Except.isOk, Except.toBool]
  | ok a => simp [Except.isOk, Except.toBool]

theorem bind_isOk {result : Except ε α} {next : α → Except ε β} :
    (result >>= next).isOk = true ↔ ∃ a, result = .ok a ∧ (next a).isOk = true := by
  simp only [isOk_iff, bind_eq_ok]
  constructor
  · rintro ⟨b, a, ha, hb⟩
    exact ⟨a, ha, b, hb⟩
  · rintro ⟨a, ha, b, hb⟩
    exact ⟨b, a, ha, hb⟩

/-- A step that never fails does not count. -/
theorem bind_isOk_of_ok {result : Except ε α} {next : α → Except ε β}
    (h : ∀ a, (next a).isOk = true) : (result >>= next).isOk = result.isOk := by
  cases result with
  | error e => rfl
  | ok a => exact h a

/-- Steps along a list succeed if each of them does. -/
theorem mapM_isOk (step : α → Except ε β) (as : List α) :
    (as.mapM step).isOk = as.all fun a => (step a).isOk := by
  induction as with
  | nil => rfl
  | cons a as ih =>
    rw [List.mapM_cons, List.all_cons, ← ih]
    -- on both sides the first step decides, unless it succeeds
    cases step a with
    | error e => rfl
    | ok b => cases as.mapM step <;> rfl

/-! ## Failures with a property -/

/-- The result is a value or a failure with the property. -/
def FailsIn (P : ε → Prop) (result : Except ε α) : Prop := ∀ e, result = .error e → P e

namespace FailsIn

variable {P : ε → Prop}

theorem ok (a : α) : FailsIn P (.ok a : Except ε α) := by
  intro e h
  cases h

theorem error {e : ε} (he : P e) : FailsIn P (.error e : Except ε α) := by
  intro e' h
  cases h
  exact he

theorem ite {c : Prop} [Decidable c] {result other : Except ε α} (h : FailsIn P result)
    (hother : FailsIn P other) : FailsIn P (if c then result else other) := by
  split
  · exact h
  · exact hother

/-- A failure of a chain is one of its first step or one of the next. -/
theorem bind {result : Except ε α} {next : α → Except ε β} (h : FailsIn P result)
    (hnext : ∀ a, result = .ok a → FailsIn P (next a)) : FailsIn P (result >>= next) := by
  intro e he
  rcases bind_eq_error.1 he with hr | ⟨a, ha, hn⟩
  · exact h e hr
  · exact hnext a ha e hn

/-- Failures that are wrapped have a property that the wrapped ones have. -/
theorem mapError {ε' : Type} {P : ε' → Prop} {wrap : ε → ε'} {result : Except ε α}
    (h : FailsIn (fun e => P (wrap e)) result) : FailsIn P (result.mapError wrap) := by
  cases result with
  | ok a => exact .ok a
  | error e => exact .error (h e rfl)

theorem mapM {step : α → Except ε β} (h : ∀ a, FailsIn P (step a)) (as : List α) :
    FailsIn P (as.mapM step) := by
  intro e he
  obtain ⟨before, a, after, -, -, ha⟩ := mapM_eq_error.1 he
  exact h a e ha

end FailsIn

/-! ## Results without requests to stop -/

namespace Failure

/-- The result is a value or a failure that is noted, never a request to stop. -/
def Reportable (result : Except Failure α) : Prop :=
  ∀ failure, result = .error failure → failure.isInterrupt = false

@[simp] theorem reportable_ok (a : α) : Reportable (.ok a : Except Failure α) := FailsIn.ok a

@[simp] theorem reportable_error {failure : Failure} :
    Reportable (.error failure : Except Failure α) ↔ failure.isInterrupt = false :=
  ⟨fun h => h failure rfl, fun h => FailsIn.error h⟩

/-- A chain of reportable steps is reportable. -/
theorem Reportable.bind {result : Except Failure α} {next : α → Except Failure β}
    (h : Reportable result) (hnext : ∀ a, result = .ok a → Reportable (next a)) :
    Reportable (result >>= next) :=
  FailsIn.bind h hnext

theorem Reportable.ite {c : Prop} [Decidable c] {result other : Except Failure α}
    (h : Reportable result) (hother : Reportable other) :
    Reportable (if c then result else other) :=
  FailsIn.ite h hother

/-- Reportable steps along a list are reportable. -/
theorem Reportable.mapM {step : α → Except Failure β} (h : ∀ a, Reportable (step a))
    (as : List α) : Reportable (as.mapM step) :=
  FailsIn.mapM h as

end Failure

end As2Exchange
