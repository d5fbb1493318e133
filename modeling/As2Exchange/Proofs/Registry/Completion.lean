import As2Exchange.Proofs.Registry.Shared

/-!
# Completing a partnership

An update completes a partnership from the stored one of its name. In each list of entries what is
there stays as it is, and the entries whose names are missing are added behind it. The partnership
may be the stored one itself, or the one of which the stored one has just become a copy; then there
is nothing to add. Doing it again changes nothing any more.

- `SharedRegistry.Sound.value?_perform_update_self` is the value after an update;
- `SharedRegistry.Sound.perform_update_update` says that a second update changes nothing at all;
- `SharedRegistry.update_completes` collects what an update does.
-/

namespace As2Exchange

open Partnership

/-! ## Completing what is complete -/

namespace Memory

variable {memory : Memory} {place source : Nat} {p q : Partnership}

/-- A change that leaves a list of entries as it is changes nothing in memory. -/
theorem edit_eq_self (hvalue : memory.value? place = some p) {part : Section}
    {f : Entries → Entries} (h : f (p.part part) = p.part part) :
    memory.edit place part f = memory := by
  obtain ⟨record, hrecord, rfl⟩ := Option.map_eq_some_iff.1 hvalue
  rw [part_value] at h
  unfold edit
  rw [hrecord]
  dsimp only
  -- only the list at the place of the part is changed, and it is there as it was
  have hentries : memory.entries.modify (record.place part) f = memory.entries := by
    apply List.ext_getElem?
    intro i
    rw [List.getElem?_modify]
    split
    · subst_vars
      cases hentry : memory.entries[record.place part]? with
      | none => rfl
      | some entries =>
        rw [read, List.getD_eq_getElem?_getD, hentry] at h
        exact congrArg some h
    · exact id_map _
  rw [hentries]

theorem fill_eq_self (hvalue : memory.value? place = some p)
    (hsource : memory.value? source = some q)
    (h : ∀ part, (p.part part).fillFrom (q.part part) = p.part part) :
    memory.fill place source = memory := by
  -- each of the three lists is left as it is, so all of them are
  have hpart : ∀ part, fillPart place source memory part = memory := fun part => by
    rw [fillPart_eq place hsource, edit_eq_self hvalue (h part)]
  have hparts : ∀ parts : List Section,
      parts.foldl (fillPart place source) memory = memory := by
    intro parts
    induction parts with
    | nil => rfl
    | cons part rest ih => rw [List.foldl_cons, hpart, ih]
  exact hparts Section.all

end Memory

/-- A partnership is resolved to the one that is stored, or to itself if there is none. -/
theorem Registry.resolve_fst (registry : Registry) (p : Partnership) :
    (registry.resolve p).1 = (registry.find? p.name).getD p := by
  unfold resolve
  cases registry.find? p.name <;> rfl

namespace SharedRegistry

variable {shared : SharedRegistry} {handle : Handle} {p : Partnership}

/-! ## One update -/

theorem part_fillFrom (p source : Partnership) (part : Section) :
    (p.fillFrom source).part part = (p.part part).fillFrom (source.part part) := by
  cases part <;> rfl

/-- What an update leaves behind: the partnership is completed where it lies. -/
theorem perform_update {place : Nat} (hplace : shared.place? handle = some place)
    (hvalue : shared.value? handle = some p) :
    shared.perform (.update handle) =
      { (shared.resolve p).2 with
        memory := (shared.resolve p).2.memory.fill place (shared.resolve p).1 } := by
  rw [perform, hplace, hvalue]

theorem place?_perform_update (hvalue : shared.value? handle = some p) (other : Handle) :
    (shared.perform (.update handle)).place? other = shared.place? other := by
  obtain ⟨place, hplace, -⟩ := Option.bind_eq_some_iff.1 hvalue
  rw [perform_update hplace hvalue]
  -- adding the partnership of the name moves none of those that are there
  cases other with
  | own i => exact congrArg (·[i]?) (resolve_own p)
  | given i => exact congrArg (·[i]?.map (·.2)) (resolve_given p)

/-- The updated partnership has the entries of the stored one, as it is then, added to its own. -/
theorem Sound.value?_perform_update_self (h : shared.Sound)
    (hvalue : shared.value? handle = some p) :
    (shared.perform (.update handle)).value? handle =
      some (p.fillFrom (shared.registry.resolve p).1) := by
  obtain ⟨place, hplace, hp⟩ := Option.bind_eq_some_iff.1 hvalue
  have hkept := (h.value?_resolve p (Memory.lt_of_value? hp)).trans hp
  refine Option.bind_eq_some_iff.2 ⟨place, (place?_perform_update hvalue handle).trans hplace, ?_⟩
  rw [perform_update hplace hvalue]
  show ((shared.resolve p).2.memory.fill place (shared.resolve p).1).value? place = _
  rw [Memory.value?_fill (h.resolve p).separate (h.registry_resolve p).2, hkept, Option.map_some,
    if_pos rfl]

/-- After an update, the stored partnership of the name is the one that was completed from. -/
theorem Sound.find?_perform_update (h : shared.Sound) (hvalue : shared.value? handle = some p) :
    (shared.perform (.update handle)).registry.find? p.name =
      some (shared.registry.resolve p).1 := by
  rw [h.registry_perform, registryAfter, hvalue]
  dsimp only
  rw [Registry.find?_resolve, if_pos rfl, Registry.resolve]
  cases hfind : shared.registry.find? p.name <;> rfl

/-! ## Two updates -/

/-- **A second update changes nothing**, neither in the partnership nor anywhere else. -/
theorem Sound.perform_update_update (h : shared.Sound) (hvalue : shared.value? handle = some p) :
    (shared.perform (.update handle)).perform (.update handle) =
      shared.perform (.update handle) := by
  have hupdated := h.perform (.update handle)
  have hvalue' := h.value?_perform_update_self hvalue
  have hfind := h.find?_perform_update hvalue
  -- from here on only what is known of the registry after the first update counts
  generalize shared.perform (.update handle) = updated at hupdated hvalue' hfind ⊢
  generalize (shared.registry.resolve p).1 = stored at hvalue' hfind
  obtain ⟨place, hplace, hq⟩ := Option.bind_eq_some_iff.1 hvalue'
  -- the name is known by now, so the second lookup finds the same partnership
  rw [hupdated.find?_registry] at hfind
  obtain ⟨source, hknown, hsource⟩ := Option.bind_eq_some_iff.1 hfind
  have hresolve : updated.resolve (p.fillFrom stored) = (source, updated) := by
    unfold SharedRegistry.resolve
    rw [show updated.known.lookup (p.fillFrom stored).name = some source from hknown]
  rw [perform_update hplace hvalue', hresolve]
  dsimp only
  rw [Memory.fill_eq_self hq hsource fun part => ?_]
  rw [part_fillFrom, Entries.fillFrom_fillFrom]

/-- **An update completes a partnership** and does nothing else to it. Whatever has been done to a
registry before, what counts is the partnership that is stored under the name, or a copy of this one
if the name is not known. Each list gets the entries of the stored one whose names are missing, so
all names of it are there afterwards. The stored partnership stays as it is, and a second update
changes nothing. -/
theorem update_completes (actions : List Action)
    (hvalue : (run {} actions).value? handle = some p) :
    let shared := run {} actions
    let updated := shared.perform (.update handle)
    let stored := (shared.registry.find? p.name).getD p
    ∃ q, updated.value? handle = some q ∧ q.name = p.name ∧
      (∀ part, (p.part part).CompletedFrom (stored.part part) (q.part part)) ∧
      (shared.registry.find? p.name = none → q = p) ∧
      updated.registry.find? p.name = some stored ∧
      (∀ part name, (stored.part part).has name = true → (q.part part).has name = true) ∧
      updated.perform (.update handle) = updated := by
  have hsound : (run {} actions).Sound := Sound.empty.run actions
  have hupdated := hsound.value?_perform_update_self hvalue
  have hstored := hsound.find?_perform_update hvalue
  rw [Registry.resolve_fst] at hupdated hstored
  refine ⟨_, hupdated, rfl, fun part => ?completed, fun hfind => ?unknown, hstored,
    fun part name hname => ?present, hsound.perform_update_update hvalue⟩
  case completed =>
    rw [part_fillFrom]
    exact Entries.completedFrom_fillFrom _ _
  case unknown =>
    rw [hfind]
    exact fillFrom_self p
  case present =>
    rw [part_fillFrom]
    exact Entries.has_fillFrom hname _

/-! ## A partnership with an entry without a value -/

namespace Stale

/-- What is stored: an earlier agreement under the same name. -/
def earlier : Partnership where
  name := "ME-THEM"
  senderIds := [(Key.email, some "old@me.example"), (Key.as2Id, some "OTHER")]
  attributes := [("compression", some "zlib"), (Key.sign, some "sha-1"), ("archive", none)]

/-- What is updated: it asks for no signature. -/
def current : Partnership where
  name := "ME-THEM"
  senderIds := [(Key.as2Id, some "ME")]
  attributes := [(Key.url, some "https://partner.example/as2"), (Key.sign, none)]

def actions : List Action := [.make earlier, .get (.own 0), .make current]

end Stale

open Stale in
/-- The missing signature stays missing, and the other entries come in the order in which they are
stored. -/
theorem update_completes_unsigned :
    (run {} actions).value? (.own 1) = some current ∧
    (run {} actions).registry.find? "ME-THEM" = some earlier ∧
    ∃ q, ((run {} actions).perform (.update (.own 1))).value? (.own 1) = some q ∧
      q.name = "ME-THEM" ∧
      (∃ added, q.attributes = current.attributes ++ added ∧ added.Sublist earlier.attributes) ∧
      q.attributes.lookup Key.sign = some none ∧
      q.attributes.lookup "compression" = some (some "zlib") ∧
      q.senderIds.lookup Key.as2Id = some (some "ME") ∧
      ((run {} actions).perform (.update (.own 1))).perform (.update (.own 1)) =
        (run {} actions).perform (.update (.own 1)) := by
  have hvalue : (run {} actions).value? (.own 1) = some current := rfl
  have hfind : (run {} actions).registry.find? "ME-THEM" = some earlier := rfl
  obtain ⟨q, hq, hname, hparts, -, -, -, hagain⟩ := update_completes actions hvalue
  rw [show (run {} actions).registry.find? current.name = some earlier from hfind] at hparts
  obtain ⟨added, hadded, hsublist, -, -⟩ := (hparts .attributes).added
  exact ⟨hvalue, hfind, q, hq, hname, ⟨added, hadded, hsublist⟩,
    (hparts .attributes).lookup Key.sign, (hparts .attributes).lookup "compression",
    (hparts .senderIds).lookup Key.as2Id, hagain⟩

end SharedRegistry

end As2Exchange
