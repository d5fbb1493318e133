import As2Exchange.Proofs.Registry.Shared

/-!
# Copies

A registry stores copies. Over every run of actions on one registry, a stored value is the one that
the first partnership of its name had when the registry was asked for it, with the edits made
through what the lookups gave; and a partnership of a caller changes only when it is edited or
updated.

- `SharedRegistry.Action.target?` is the partnership that an action may change;
- `SharedRegistry.editedBy` are the edits made through what the lookups of a name gave;
- `SharedRegistry.run_keeps_copies` is the result.
-/

namespace As2Exchange

namespace SharedRegistry

open Partnership

variable {shared : SharedRegistry}

/-! ## Partnerships of callers -/

/-- The partnership that an action may change. -/
def Action.target? : Action → Option Handle
  | .update handle | .edit handle _ _ => some handle
  | _ => none

/-- Another handle leads to another place than that of a caller's partnership. -/
theorem Sound.place_ne_own (h : shared.Sound) {handle : Handle} {i place other : Nat}
    (hown : shared.place? (.own i) = some place) (hplace : shared.place? handle = some other)
    (hhandle : handle ≠ .own i) : place ≠ other := by
  rintro rfl
  cases handle with
  | own j =>
    have hlt : i < shared.own.length := (List.getElem?_eq_some_iff.1 hown).1
    have heq : shared.own[i]? = shared.own[j]? := hown.trans hplace.symm
    obtain rfl : i = j := (List.getElem?_inj hlt h.distinct).1 heq
    exact hhandle rfl
  | given j =>
    -- what a lookup gave is stored, and what is stored is no caller's own
    obtain ⟨name, -, hfound⟩ := h.lookup_of_given hplace
    exact h.apart (mem_of_lookup hfound) (mem_own hown)

theorem place?_resolve (p : Partnership) (i : Nat) :
    (shared.resolve p).2.place? (.own i) = shared.place? (.own i) :=
  congrArg (·[i]?) (resolve_own p)

/-- An update completes a partnership from the stored value as it is then, and leaves the others. -/
theorem Sound.value?_perform_update (h : shared.Sound) {handle : Handle} {p : Partnership}
    {target : Nat} (htarget : shared.place? handle = some target)
    (hp : shared.memory.value? target = some p) {i place : Nat} {q : Partnership}
    (hplace : shared.place? (.own i) = some place)
    (hq : shared.memory.value? place = some q) :
    (shared.perform (.update handle)).value? (.own i) =
      some (if place = target then q.fillFrom (shared.registry.resolve p).1 else q) := by
  have hvalue : shared.value? handle = some p := Option.bind_eq_some_iff.2 ⟨target, htarget, hp⟩
  have hkept := (h.value?_resolve p (Memory.lt_of_value? hq)).trans hq
  rw [SharedRegistry.perform, htarget, hvalue]
  refine Option.bind_eq_some_iff.2 ⟨place, (place?_resolve p i).trans hplace, ?_⟩
  show ((shared.resolve p).2.memory.fill target (shared.resolve p).1).value? place = _
  rw [Memory.value?_fill (h.resolve p).separate (h.registry_resolve p).2, hkept, Option.map_some]

/-- What an action does not aim at keeps its value. -/
theorem Sound.value?_perform_own (h : shared.Sound) {action : Action} {i : Nat} {p : Partnership}
    (hvalue : shared.value? (.own i) = some p) (htarget : action.target? ≠ some (.own i)) :
    (shared.perform action).value? (.own i) = some p := by
  obtain ⟨place, hplace, hp⟩ := Option.bind_eq_some_iff.1 hvalue
  -- only an update or an edit changes values, and those of other handles change other places
  cases action with
  | make q =>
    have hown : (shared.own ++ [shared.memory.records.length])[i]? = some place := by
      rw [List.getElem?_append_left (List.getElem?_eq_some_iff.1 hplace).1]
      exact hplace
    refine Option.bind_eq_some_iff.2 ⟨place, hown, ?_⟩
    exact (Memory.value?_add_of_lt q h.separate (Memory.lt_of_value? hp)).trans hp
  | get handle =>
    rw [SharedRegistry.perform]
    cases shared.value? handle with
    | none => exact hvalue
    | some q =>
      have hkept := (h.value?_resolve q (Memory.lt_of_value? hp)).trans hp
      exact Option.bind_eq_some_iff.2 ⟨place, (place?_resolve q i).trans hplace, hkept⟩
  | update handle =>
    cases hother : shared.place? handle with
    | none =>
      rw [SharedRegistry.perform, hother]
      exact hvalue
    | some other =>
      have hne := h.place_ne_own hplace hother fun heq => htarget (congrArg some heq)
      cases hq : shared.memory.value? other with
      | none =>
        have hnone : shared.value? handle = none := by rw [value?, hother]; exact hq
        rw [SharedRegistry.perform, hother, hnone]
        exact hvalue
      | some q => rw [h.value?_perform_update hother hq hplace hp, if_neg hne]
  | edit handle part f =>
    rw [SharedRegistry.perform]
    cases hother : shared.place? handle with
    | none => exact hvalue
    | some other =>
      have hne := h.place_ne_own hplace hother fun heq => htarget (congrArg some heq)
      refine Option.bind_eq_some_iff.2 ⟨place, hplace, ?_⟩
      show (shared.memory.edit other part f).value? place = some p
      rw [Memory.value?_edit _ _ _ h.separate, hp, Option.map_some, if_neg hne]

theorem Sound.value?_run_own (h : shared.Sound) {actions : List Action} {i : Nat} {p : Partnership}
    (hvalue : shared.value? (.own i) = some p)
    (htarget : ∀ action ∈ actions, action.target? ≠ some (.own i)) :
    (shared.run actions).value? (.own i) = some p := by
  -- on the actions, along a registry that stays sound with each of them
  induction actions generalizing shared with
  | nil => exact hvalue
  | cons action rest ih =>
    have hstep := h.value?_perform_own hvalue (htarget action List.mem_cons_self)
    exact ih (h.perform action) hstep fun other hother =>
      htarget other (List.mem_cons_of_mem _ hother)

/-- A partnership is updated from the stored value, as it is then. -/
theorem Sound.value?_update (h : shared.Sound) {i : Nat} {p : Partnership}
    (hvalue : shared.value? (.own i) = some p) :
    (shared.perform (.update (.own i))).value? (.own i) = some (shared.registry.complete p).1 := by
  obtain ⟨place, hplace, hp⟩ := Option.bind_eq_some_iff.1 hvalue
  rw [h.value?_perform_update hplace hp hplace hp, if_pos rfl]
  rfl

theorem Sound.value?_edit (h : shared.Sound) {i : Nat} {p : Partnership}
    (hvalue : shared.value? (.own i) = some p) (part : Section) (f : Entries → Entries) :
    (shared.perform (.edit (.own i) part f)).value? (.own i) = some (p.modify part f) := by
  obtain ⟨place, hplace, hp⟩ := Option.bind_eq_some_iff.1 hvalue
  rw [SharedRegistry.perform, hplace]
  refine Option.bind_eq_some_iff.2 ⟨place, hplace, ?_⟩
  show (shared.memory.edit place part f).value? place = _
  rw [Memory.value?_edit _ _ _ h.separate, hp, Option.map_some, if_pos rfl]

/-! ## Stored values -/

/-- A lookup of a partnership gives the one that is stored under its name. -/
theorem given_perform_get {handle : Handle} {p : Partnership}
    (hvalue : shared.value? handle = some p) :
    (shared.perform (.get handle)).given = shared.given ++ [(p.name, (shared.resolve p).1)] := by
  rw [perform, hvalue]
  exact congrArg (· ++ [(p.name, (shared.resolve p).1)]) (resolve_given p)

/-- What the edits among actions make of the value under a name. -/
def editedBy (name : String) : SharedRegistry → List Action → Partnership → Partnership
  | _, [], p => p
  | shared, action :: rest, p =>
    editedBy name (shared.perform action) rest (shared.edited name p action)

/-- A value that is stored changes with the edits of what is stored, and with nothing else. -/
theorem Sound.find?_run (h : shared.Sound) {name : String} {p : Partnership}
    (hfind : shared.registry.find? name = some p) (actions : List Action) :
    (shared.run actions).registry.find? name = some (editedBy name shared actions p) := by
  -- what one action makes of the value is where the edits of the others start from
  induction actions generalizing shared p with
  | nil => exact hfind
  | cons action rest ih =>
    have hstep : (shared.perform action).registry.find? name =
        some (shared.edited name p action) := by
      rw [h.find?_perform, hfind]
      rfl
    exact ih (h.perform action) hstep

/-- **Stored partnerships are copies.** Every lookup gives a partnership. After any actions, two
lookups gave the same one just if they asked for the same name; it was never one of a caller's; and
its value is the stored one. The value that is stored under a name is that of the first partnership
with the name that the registry was asked for, as it was then, with the edits made since through
what lookups of the name gave. A partnership of a caller shows its edits, is completed from the
stored value by an update, and keeps its value while none of the actions aims at it. -/
theorem run_keeps_copies (actions rest : List Action) :
    let shared := run {} actions
    let later := shared.run rest
    (∀ handle p, shared.value? handle = some p →
      ∃ place, (shared.perform (.get handle)).given = shared.given ++ [(p.name, place)]) ∧
    (∀ (i j : Nat) (name name' : String) (place place' : Nat),
      later.given[i]? = some (name, place) → later.given[j]? = some (name', place') →
        (place = place' ↔ name = name')) ∧
    (∀ (i : Nat) (name : String) (place : Nat), later.given[i]? = some (name, place) →
      place ∉ later.own ∧ later.memory.value? place = later.registry.find? name) ∧
    (∀ name action, shared.registry.find? name = none →
      (shared.perform action).registry.find? name =
        (shared.asked? action).filter (·.name = name)) ∧
    (∀ name p, shared.registry.find? name = some p →
      later.registry.find? name = some (editedBy name shared rest p)) ∧
    ∀ i p, shared.value? (.own i) = some p →
      (∀ part f, (shared.perform (.edit (.own i) part f)).value? (.own i) =
        some (p.modify part f)) ∧
      (shared.perform (.update (.own i))).value? (.own i) =
        some (shared.registry.complete p).1 ∧
      ((∀ action ∈ rest, action.target? ≠ some (.own i)) → later.value? (.own i) = some p) := by
  have hshared : (run {} actions).Sound := Sound.empty.run actions
  have hlater := hshared.run rest
  have hgiven : ∀ {i : Nat} {name : String} {place : Nat},
      ((run {} actions).run rest).given[i]? = some (name, place) →
        (name, place) ∈ ((run {} actions).run rest).known := fun hi =>
    mem_of_lookup (hlater.given (List.mem_of_getElem? hi))
  refine ⟨fun handle p hvalue => ⟨_, given_perform_get hvalue⟩, ?same, ?stored, ?first,
    fun name p hfind => hshared.find?_run hfind rest, ?own⟩
  case same =>
    exact fun i j name name' place place' hi hj => hlater.place_eq_iff (hgiven hi) (hgiven hj)
  case stored =>
    intro i name place hi
    refine ⟨hlater.apart (hgiven hi), ?_⟩
    rw [hlater.find?_registry, hlater.found (hgiven hi)]
    rfl
  case first =>
    intro name action hfind
    rw [hshared.find?_perform, hfind]
    rfl
  case own =>
    exact fun i p hvalue => ⟨hshared.value?_edit hvalue, hshared.value?_update hvalue,
      hshared.value?_run_own hvalue⟩

/-! ## A stored partnership that is edited -/

namespace Edited

def first : Partnership where
  name := "ME-THEM"
  senderIds := [(Key.as2Id, some "ME")]

def second : Partnership where
  name := "ME-THEM"
  attributes := [(Key.url, some "https://partner.example/as2")]

def actions : List Action := [.make first, .make second, .get (.own 0)]

/-- The caller clears the sender of his own partnership, and adds to the stored one. -/
def edits : List Action :=
  [.edit (.own 0) .senderIds fun _ => [],
    .edit (.given 0) .attributes (·.set "compression" (some "zlib")), .get (.own 1)]

end Edited

open Edited

/-- Both lookups gave the one copy, which shows the one edit; the second partnership shows it when
it is updated. -/
theorem run_keeps_copies_edited :
    (run {} (actions ++ edits)).given.map (·.1) = ["ME-THEM", "ME-THEM"] ∧
    (∃ place, (run {} (actions ++ edits)).given[0]? = some ("ME-THEM", place) ∧
      (run {} (actions ++ edits)).given[1]? = some ("ME-THEM", place) ∧
      place ∉ (run {} (actions ++ edits)).own) ∧
    ((run {} actions).run edits).registry.find? "ME-THEM" =
      some { first with attributes := [("compression", some "zlib")] } ∧
    ((run {} actions).run edits).value? (.own 1) = some second ∧
    ((run {} (actions ++ edits)).perform (.update (.own 1))).value? (.own 1) =
      some ⟨"ME-THEM", first.senderIds, [],
        second.attributes ++ [("compression", some "zlib")]⟩ := by
  obtain ⟨-, -, -, -, hstored, hown⟩ := run_keeps_copies actions edits
  obtain ⟨-, -, hcopy, -, -, hupdated⟩ := run_keeps_copies (actions ++ edits) []
  have hplace : (run {} (actions ++ edits)).given[0]? = some ("ME-THEM", 2) := rfl
  have hplace' : (run {} (actions ++ edits)).given[1]? = some ("ME-THEM", 2) := rfl
  refine ⟨rfl, ⟨2, hplace, hplace', (hcopy 0 _ _ hplace).1⟩, hstored _ first rfl, ?_, ?_⟩
  · exact (hown 1 second rfl).2.2 (by simp [edits, Action.target?])
  · exact (hupdated 1 second rfl).2.1

end SharedRegistry

end As2Exchange
