import As2Exchange.Proofs.Registry.Memory
import Mathlib.Data.List.Basic

/-!
# Shared registries

Whatever its callers do to partnerships of their own, a registry in memory keeps the values that it
has copied; only what a lookup gave leads to them.

- `SharedRegistry.Sound` is the invariant of a registry and its callers, kept by every action;
- `SharedRegistry.registry` are the stored values, which every action changes as `Registry` has it;
- `SharedRegistry.Sound.find?_perform` says what becomes of the value under one name.
-/

namespace As2Exchange

namespace Registry

/-! ## Values -/

/-- A partnership is added under its name if the name is new. -/
theorem find?_resolve (registry : Registry) (p : Partnership) (name : String) :
    (registry.resolve p).2.find? name =
      (registry.find? name).or (if p.name = name then some p else none) := by
  unfold resolve
  cases hfind : registry.find? p.name with
  | some stored =>
    by_cases hname : p.name = name
    · rw [← hname, hfind]
      rfl
    · rw [if_neg hname, Option.or_none]
  | none =>
    show (registry.stored ++ [_]).lookup name = _
    rw [List.lookup_append, lookup_cons_eq, List.lookup_nil, find?]
    simp only [eq_comm]

theorem find?_modify (registry : Registry) (name other : String) (f : Partnership → Partnership) :
    (registry.modify name f).find? other =
      (registry.find? other).map fun p => if other = name then f p else p := by
  unfold modify find?
  induction registry.stored with
  | nil => rfl
  | cons entry rest ih =>
    have hkey : (if entry.1 = name then (entry.1, f entry.2) else entry).1 = entry.1 := by
      split <;> rfl
    rw [List.map_cons, lookup_cons_eq, hkey, lookup_cons_eq, ih]
    by_cases hother : other = entry.1
    · by_cases hname : entry.1 = name <;> simp [hother, hname]
    · rw [if_neg hother, if_neg hother]

end Registry

namespace SharedRegistry

open Partnership

variable {shared : SharedRegistry}

/-! ## The invariant -/

/-- A registry and its callers share nothing but what the lookups gave. -/
structure Sound (shared : SharedRegistry) : Prop where
  separate : shared.memory.Separate
  named : ∀ {name : String} {place : Nat}, (name, place) ∈ shared.known →
    ∃ record, shared.memory.records[place]? = some record ∧ record.name = name
  /-- One partnership is stored under a name. -/
  found : ∀ {name : String} {place : Nat}, (name, place) ∈ shared.known →
    shared.known.lookup name = some place
  given : ∀ {name : String} {place : Nat}, (name, place) ∈ shared.given →
    shared.known.lookup name = some place
  own : ∀ {place : Nat}, place ∈ shared.own → place < shared.memory.records.length
  distinct : shared.own.Nodup
  /-- What is stored is no caller's own. -/
  apart : ∀ {name : String} {place : Nat}, (name, place) ∈ shared.known → place ∉ shared.own

namespace Sound

theorem empty : Sound {} where
  separate := .empty
  named := nofun
  found := nofun
  given := nofun
  own := nofun
  distinct := .nil
  apart := nofun

theorem known_lt (h : shared.Sound) {name : String} {place : Nat}
    (hknown : (name, place) ∈ shared.known) : place < shared.memory.records.length := by
  obtain ⟨record, hrecord, -⟩ := h.named hknown
  exact (List.getElem?_eq_some_iff.1 hrecord).1

/-- The partnerships in memory may change, and more may be added. -/
theorem withMemory (h : shared.Sound) {memory : Memory} (hseparate : memory.Separate)
    (hrecords : shared.memory.records <+: memory.records) : Sound { shared with memory } where
  separate := hseparate
  named hknown := by
    obtain ⟨record, hrecord, hname⟩ := h.named hknown
    obtain ⟨added, hadded⟩ := hrecords
    refine ⟨record, ?_, hname⟩
    show memory.records[_]? = some record
    rw [← hadded, List.getElem?_append_left (h.known_lt hknown)]
    exact hrecord
  found := h.found
  given := h.given
  own hown := Nat.lt_of_lt_of_le (h.own hown) hrecords.length_le
  distinct := h.distinct
  apart := h.apart

theorem add (h : shared.Sound) (p : Partnership) :
    Sound { shared with memory := (shared.memory.add p).2 } :=
  h.withMemory (h.separate.add p) (List.prefix_append ..)

theorem edit (h : shared.Sound) (place : Nat) (part : Section) (f : Entries → Entries) :
    Sound { shared with memory := shared.memory.edit place part f } :=
  h.withMemory (h.separate.edit place part f)
    ⟨[], (List.append_nil _).trans (Memory.records_edit ..).symm⟩

theorem fill (h : shared.Sound) {source : Nat} {p : Partnership}
    (hsource : shared.memory.value? source = some p) (target : Nat) :
    Sound { shared with memory := shared.memory.fill target source } :=
  h.withMemory (h.separate.fill hsource)
    ⟨[], (List.append_nil _).trans Memory.records_fill.symm⟩

/-- A partnership that has just been made is no one else's. -/
theorem make (h : shared.Sound) (p : Partnership) : (shared.perform (.make p)).Sound :=
  { h.add p with
    own := by
      intro place hown
      show place < (shared.memory.records ++ [_]).length
      rw [List.length_append, List.length_singleton]
      rcases List.mem_append.1 hown with hold | hnew
      · have := h.own hold
        omega
      · obtain rfl : place = shared.memory.records.length := List.mem_singleton.1 hnew
        omega
    distinct := by
      refine List.nodup_append.2 ⟨h.distinct, List.pairwise_singleton .., ?_⟩
      intro place hold other hnew
      obtain rfl : other = shared.memory.records.length := List.mem_singleton.1 hnew
      exact Nat.ne_of_lt (h.own hold)
    apart := by
      intro name place hknown hown
      rcases List.mem_append.1 hown with hold | hnew
      · exact h.apart hknown hold
      · obtain rfl : place = shared.memory.records.length := List.mem_singleton.1 hnew
        exact Nat.lt_irrefl _ (h.known_lt hknown) }

/-- What is stored under a name stays there when another name is added. -/
theorem resolve (h : shared.Sound) (p : Partnership) : (shared.resolve p).2.Sound := by
  unfold SharedRegistry.resolve
  split
  · exact h
  · rename_i hnew
    -- the copy goes under a new name, so the other names still lead where they did
    have hkept {name : String} {place : Nat} (hfound : shared.known.lookup name = some place) :
        (shared.known ++ [(p.name, shared.memory.records.length)]).lookup name = some place :=
      (List.prefix_append ..).lookup_eq_some hfound
    refine { h.add p with named := ?named, found := ?found, given := ?given, apart := ?apart }
    case named =>
      intro name place hknown
      rcases List.mem_append.1 hknown with hold | hadded
      · exact (h.add p).named hold
      · cases List.mem_singleton.1 hadded
        exact ⟨_, List.getElem?_concat_length .., rfl⟩
    case found =>
      intro name place hknown
      rcases List.mem_append.1 hknown with hold | hadded
      · exact hkept (h.found hold)
      · cases List.mem_singleton.1 hadded
        show (shared.known ++ [_]).lookup p.name = _
        rw [List.lookup_append, hnew]
        exact List.lookup_cons_self
    case given => exact fun hgiven => hkept (h.given hgiven)
    case apart =>
      intro name place hknown hown
      rcases List.mem_append.1 hknown with hold | hadded
      · exact h.apart hold hown
      · cases List.mem_singleton.1 hadded
        exact Nat.lt_irrefl _ (h.own hown)

end Sound

/-! ## The stored values -/

/-- The stored values, as they are now. -/
def registry (shared : SharedRegistry) : Registry where
  stored := shared.known.filterMap fun entry =>
    (shared.memory.value? entry.2).map fun p => (entry.1, p)

/-- Only changes of what is stored are changes of the stored values. -/
theorem registry_withMemory {memory : Memory}
    (h : ∀ name place, (name, place) ∈ shared.known →
      memory.value? place = shared.memory.value? place) :
    registry { shared with memory } = shared.registry := by
  unfold registry
  congr 1
  exact List.filterMap_congr fun entry hentry => by rw [h entry.1 entry.2 hentry]

theorem registry_append (shared : SharedRegistry) (name : String) {place : Nat} {p : Partnership}
    (h : shared.memory.value? place = some p) :
    registry { shared with known := shared.known ++ [(name, place)] } =
      ⟨shared.registry.stored ++ [(name, p)]⟩ := by
  simp [registry, h]

theorem Sound.value?_known (h : shared.Sound) {name : String} {place : Nat}
    (hknown : (name, place) ∈ shared.known) :
    ∃ p, shared.memory.value? place = some p ∧ p.name = name := by
  obtain ⟨record, hrecord, hname⟩ := h.named hknown
  exact ⟨_, by rw [Memory.value?, hrecord]; rfl, hname⟩

theorem Sound.find?_registry (h : shared.Sound) (name : String) :
    shared.registry.find? name = (shared.known.lookup name).bind shared.memory.value? := by
  -- what is known is in memory, so no name is left out of the values
  have hvalues : ∀ entry ∈ shared.known, ∃ p, shared.memory.value? entry.2 = some p :=
    fun entry hentry => (h.value?_known hentry).imp fun _ hp => hp.1
  unfold registry Registry.find?
  dsimp only
  generalize shared.known = known at hvalues
  induction known with
  | nil => rfl
  | cons entry rest ih =>
    obtain ⟨p, hp⟩ := hvalues entry List.mem_cons_self
    have hrest := ih fun other hother => hvalues other (List.mem_cons_of_mem _ hother)
    rw [List.filterMap_cons, hp, lookup_cons_eq entry rest, Option.map_some]
    dsimp only
    rw [lookup_cons_eq, hrest]
    split
    · exact hp.symm
    · rfl

theorem resolve_own (p : Partnership) : (shared.resolve p).2.own = shared.own := by
  unfold resolve
  split <;> rfl

theorem resolve_given (p : Partnership) : (shared.resolve p).2.given = shared.given := by
  unfold resolve
  split <;> rfl

theorem lookup_known_resolve (p : Partnership) :
    (shared.resolve p).2.known.lookup p.name = some (shared.resolve p).1 := by
  unfold resolve
  split
  · assumption
  · rename_i hnew
    show (shared.known ++ [_]).lookup p.name = _
    rw [List.lookup_append, hnew]
    exact List.lookup_cons_self

/-- What is in memory keeps its value when a copy is added. -/
theorem Sound.value?_resolve (h : shared.Sound) (p : Partnership) {place : Nat}
    (hplace : place < shared.memory.records.length) :
    (shared.resolve p).2.memory.value? place = shared.memory.value? place := by
  unfold SharedRegistry.resolve
  split
  · rfl
  · exact Memory.value?_add_of_lt p h.separate hplace

/-- A registry resolves a partnership as its values say. -/
theorem Sound.registry_resolve (h : shared.Sound) (p : Partnership) :
    (shared.resolve p).2.registry = (shared.registry.resolve p).2 ∧
    (shared.resolve p).2.memory.value? (shared.resolve p).1 =
      some (shared.registry.resolve p).1 := by
  have hfind := h.find?_registry p.name
  unfold SharedRegistry.resolve Registry.resolve
  cases hknown : shared.known.lookup p.name with
  | some place =>
    obtain ⟨q, hq, -⟩ := h.value?_known (mem_of_lookup hknown)
    rw [hknown, Option.bind_some, hq] at hfind
    rw [hfind]
    exact ⟨rfl, hq⟩
  | none =>
    rw [hknown, Option.bind_none] at hfind
    rw [hfind]
    refine ⟨?_, Memory.value?_add_self ..⟩
    have hkept : registry { shared with memory := (shared.memory.add p).2 } = shared.registry :=
      registry_withMemory fun name place hplace =>
        Memory.value?_add_of_lt p h.separate (h.known_lt hplace)
    have hadded : (shared.memory.add p).2.value? shared.memory.records.length = some p :=
      Memory.value?_add_self ..
    rw [← hkept]
    exact registry_append { shared with memory := (shared.memory.add p).2 } p.name hadded

/-! ## Actions -/

theorem mem_own {i place : Nat} (h : shared.place? (.own i) = some place) : place ∈ shared.own :=
  List.mem_of_getElem? h

/-- What a lookup gave is stored under the name that was asked for. -/
theorem Sound.lookup_of_given (h : shared.Sound) {i place : Nat}
    (hplace : shared.place? (.given i) = some place) :
    ∃ name, shared.given[i]? = some (name, place) ∧ shared.known.lookup name = some place := by
  obtain ⟨⟨name, place'⟩, hgiven, rfl⟩ := Option.map_eq_some_iff.1 hplace
  exact ⟨name, hgiven, h.given (List.mem_of_getElem? hgiven)⟩

/-- Every action keeps the invariant. -/
theorem Sound.perform (h : shared.Sound) (action : Action) : (shared.perform action).Sound := by
  cases action with
  | make p => exact h.make p
  | get handle =>
    unfold SharedRegistry.perform
    dsimp only
    split
    · rename_i p hvalue
      have hresolved := h.resolve p
      exact { hresolved with
        given := by
          intro name place hgiven
          rcases List.mem_append.1 hgiven with hold | hnew
          · exact hresolved.given hold
          · cases List.mem_singleton.1 hnew
            exact lookup_known_resolve p }
    · exact h
  | update handle =>
    unfold SharedRegistry.perform
    dsimp only
    split
    · rename_i place p hplace hvalue
      exact (h.resolve p).fill (h.registry_resolve p).2 place
    · exact h
  | edit handle part f =>
    unfold SharedRegistry.perform
    dsimp only
    split
    · exact h.edit ..
    · exact h

theorem Sound.run (h : shared.Sound) (actions : List Action) : (shared.run actions).Sound := by
  induction actions generalizing shared with
  | nil => exact h
  | cons action rest ih => exact ih (h.perform action)

/-! ## What actions do to the stored values -/

/-- One partnership is stored under each name. -/
theorem Sound.place_eq_iff (h : shared.Sound) {name name' : String} {place place' : Nat}
    (hknown : (name, place) ∈ shared.known) (hknown' : (name', place') ∈ shared.known) :
    place = place' ↔ name = name' := by
  constructor
  · rintro rfl
    obtain ⟨p, hp, hname⟩ := h.value?_known hknown
    obtain ⟨p', hp', hname'⟩ := h.value?_known hknown'
    cases hp.symm.trans hp'
    exact hname.symm.trans hname'
  · rintro rfl
    exact Option.some.inj ((h.found hknown).symm.trans (h.found hknown'))

/-- The values after an action. -/
def registryAfter (shared : SharedRegistry) : Action → Registry
  | .make _ => shared.registry
  | .get handle | .update handle =>
    match shared.value? handle with
    | some p => (shared.registry.resolve p).2
    | none => shared.registry
  | .edit (.own _) _ _ => shared.registry
  | .edit (.given i) part f =>
    match shared.given[i]? with
    | some (name, _) => shared.registry.modify name (·.modify part f)
    | none => shared.registry

/-- A partnership of a caller is not stored, so it may be changed. -/
theorem Sound.registry_edit_own (h : shared.Sound) {place : Nat} (hown : place ∈ shared.own)
    (part : Section) (f : Entries → Entries) :
    registry { shared with memory := shared.memory.edit place part f } = shared.registry := by
  refine registry_withMemory fun name other hknown => ?_
  have hother : other ≠ place := by
    rintro rfl
    exact h.apart hknown hown
  rw [Memory.value?_edit _ _ _ h.separate]
  simp only [if_neg hother, Option.map_id']

/-- A change of a stored partnership is a change of the value under its name. -/
theorem Sound.registry_edit_stored (h : shared.Sound) {name : String} {place : Nat}
    (hfound : shared.known.lookup name = some place) (part : Section) (f : Entries → Entries) :
    registry { shared with memory := shared.memory.edit place part f } =
      shared.registry.modify name (·.modify part f) := by
  unfold registry Registry.modify
  rw [List.map_filterMap]
  congr 1
  refine List.filterMap_congr fun entry hentry => ?_
  have hiff := h.place_eq_iff hentry (mem_of_lookup hfound)
  dsimp only
  rw [Memory.value?_edit _ _ _ h.separate, Option.map_map, Option.map_map]
  refine Option.map_congr fun p _ => ?_
  simp only [Function.comp, hiff]
  split <;> rfl

/-- Completing a partnership changes no stored value: a stored one has nothing to add to itself. -/
theorem Sound.registry_fill (h : shared.Sound) {place stored : Nat} {p : Partnership}
    (hstored : shared.memory.value? stored = some p)
    (hself : ∀ name, (name, place) ∈ shared.known → place = stored) :
    registry { shared with memory := shared.memory.fill place stored } = shared.registry := by
  refine registry_withMemory fun name other hknown => ?_
  rw [Memory.value?_fill h.separate hstored]
  by_cases hother : other = place
  · obtain rfl : place = stored := hself name (hother ▸ hknown)
    rw [hother, hstored]
    simp [fillFrom_self]
  · simp only [if_neg hother, Option.map_id']

/-- If a partnership that is looked up is a stored one, it is the one that is found. -/
theorem Sound.resolve_of_known (h : shared.Sound) {name : String} {place : Nat} {p : Partnership}
    (hvalue : shared.memory.value? place = some p)
    (hknown : (name, place) ∈ (shared.resolve p).2.known) : place = (shared.resolve p).1 := by
  have hresolved := h.resolve p
  have hfound : (p.name, (shared.resolve p).1) ∈ (shared.resolve p).2.known :=
    mem_of_lookup (lookup_known_resolve p)
  obtain ⟨q, hq, hname⟩ := hresolved.value?_known hknown
  rw [h.value?_resolve p (Memory.lt_of_value? hvalue), hvalue] at hq
  cases hq
  exact (hresolved.place_eq_iff hknown hfound).2 hname.symm

/-- **A registry in memory is the registry of its values**, whatever is done to it. -/
theorem Sound.registry_perform (h : shared.Sound) (action : Action) :
    (shared.perform action).registry = shared.registryAfter action := by
  cases action with
  | make p =>
    exact registry_withMemory fun name place hknown =>
      Memory.value?_add_of_lt p h.separate (h.known_lt hknown)
  | get handle =>
    rw [SharedRegistry.perform, registryAfter]
    cases shared.value? handle with
    | none => rfl
    | some p => exact (h.registry_resolve p).1
  | update handle =>
    rw [registryAfter]
    cases hvalue : shared.value? handle with
    | none =>
      rw [SharedRegistry.perform, hvalue]
      cases shared.place? handle <;> rfl
    | some p =>
      obtain ⟨place, hplace, hp⟩ := Option.bind_eq_some_iff.1 hvalue
      obtain ⟨hregistry, hstored⟩ := h.registry_resolve p
      rw [SharedRegistry.perform, hvalue, hplace]
      -- looking the name up may add a copy; completing from it then changes no stored value
      exact ((h.resolve p).registry_fill hstored fun _ hknown =>
        h.resolve_of_known hp hknown).trans hregistry
  | edit handle part f =>
    rw [SharedRegistry.perform]
    cases hplace : shared.place? handle with
    | none =>
      cases handle with
      | own i => rfl
      | given i => rw [registryAfter, Option.map_eq_none_iff.1 hplace]
    | some place =>
      cases handle with
      | own i => exact h.registry_edit_own (mem_own hplace) part f
      | given i =>
        obtain ⟨name, hgiven, hfound⟩ := h.lookup_of_given hplace
        rw [registryAfter, hgiven]
        exact h.registry_edit_stored hfound part f

/-- The partnership that an action asks the registry for. -/
def asked? (shared : SharedRegistry) : Action → Option Partnership
  | .get handle | .update handle => shared.value? handle
  | _ => none

/-- What an action does to the value under a name, if it is an edit of what a lookup of this name
gave. -/
def edited (shared : SharedRegistry) (name : String) (p : Partnership) : Action → Partnership
  | .edit (.given i) part f =>
    if shared.given[i]?.map (·.1) = some name then p.modify part f else p
  | _ => p

/-- An action stores the partnership that it asks for if the name is new, and else edits the value
that is there or leaves it. -/
theorem Sound.find?_perform (h : shared.Sound) (action : Action) (name : String) :
    (shared.perform action).registry.find? name =
      ((shared.registry.find? name).map (shared.edited name · action)).or
        ((shared.asked? action).filter (·.name = name)) := by
  rw [h.registry_perform]
  cases action with
  | make p => simp [registryAfter, edited, asked?]
  | get handle =>
    cases hvalue : shared.value? handle with
    | none => simp [registryAfter, edited, asked?, hvalue]
    | some p => simp [registryAfter, edited, asked?, hvalue, Registry.find?_resolve, Option.filter]
  | update handle =>
    cases hvalue : shared.value? handle with
    | none => simp [registryAfter, edited, asked?, hvalue]
    | some p => simp [registryAfter, edited, asked?, hvalue, Registry.find?_resolve, Option.filter]
  | edit handle part f =>
    cases handle with
    | own i => simp [registryAfter, edited, asked?]
    | given i =>
      cases hgiven : shared.given[i]? with
      | none => simp [registryAfter, edited, asked?, hgiven]
      | some entry =>
        simp [registryAfter, edited, asked?, hgiven, Registry.find?_modify, eq_comm]

end SharedRegistry

end As2Exchange
