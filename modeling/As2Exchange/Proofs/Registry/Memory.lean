import As2Exchange.Registry.Shared
import As2Exchange.Proofs.Partnership.Fill

/-!
# Partnerships in memory

While no two lists of entries of partnerships share a place, a change of one partnership leaves all
others as they are. New partnerships get lists of their own, so it stays like this.

- `Memory.Separate` is the invariant, kept by `Memory.add`, `Memory.edit` and `Memory.fill`;
- `Memory.value?_add_of_lt`, `Memory.value?_edit` and `Memory.value?_fill` tell the values then.
-/

namespace As2Exchange

namespace Memory

open Partnership

/-- No two lists of entries of the partnerships in memory share a place. -/
structure Separate (memory : Memory) : Prop where
  lt : ∀ {place : Nat} {record : Record}, memory.records[place]? = some record →
    ∀ part, record.place part < memory.entries.length
  eq : ∀ {place other : Nat} {record record' : Record}, memory.records[place]? = some record →
    memory.records[other]? = some record' →
    ∀ {part part' : Section}, record.place part = record'.place part' → place = other ∧ part = part'

theorem Separate.empty : Separate {} := ⟨nofun, nofun⟩

variable {memory : Memory}

@[simp] theorem part_value (memory : Memory) (record : Record) (part : Section) :
    (memory.value record).part part = memory.read (record.place part) := by
  cases part <;> rfl

theorem lt_of_value? {place : Nat} {p : Partnership} (h : memory.value? place = some p) :
    place < memory.records.length := by
  obtain ⟨record, hrecord, -⟩ := Option.map_eq_some_iff.1 h
  exact (List.getElem?_eq_some_iff.1 hrecord).1

/-! ## Adding -/

section Add

variable (memory) (p : Partnership)

theorem length_le_fresh_place (name : String) (part : Section) :
    memory.entries.length ≤ (memory.fresh name).place part := by
  cases part <;> simp [fresh, Record.place]

theorem fresh_place_lt (part : Section) :
    (memory.fresh p.name).place part < (memory.add p).2.entries.length := by
  cases part <;> simp [fresh, add, Record.place]

theorem fresh_place_injective (name : String) {part part' : Section}
    (h : (memory.fresh name).place part = (memory.fresh name).place part') : part = part' := by
  cases part <;> cases part' <;> first | rfl | simp [fresh, Record.place] at h

theorem value_fresh : (memory.add p).2.value (memory.fresh p.name) = p := by
  refine eq_of_parts rfl fun part => ?_
  rw [part_value]
  cases part <;> simp [add, fresh, Record.place, read, part]

theorem value?_add_self : (memory.add p).2.value? (memory.add p).1 = some p := by
  show Option.map _ (memory.records ++ [memory.fresh p.name])[memory.records.length]? = _
  rw [List.getElem?_concat_length, Option.map_some, value_fresh]

variable {memory}

/-- What is in memory keeps its value. -/
theorem value?_add_of_lt (h : memory.Separate) {place : Nat}
    (hplace : place < memory.records.length) :
    (memory.add p).2.value? place = memory.value? place := by
  show Option.map _ (memory.records ++ [memory.fresh p.name])[place]? = _
  rw [List.getElem?_append_left hplace, value?]
  refine Option.map_congr fun record hrecord => eq_of_parts rfl fun part => ?_
  simp only [part_value, read, List.getD]
  rw [add, List.getElem?_append_left (h.lt hrecord part)]

theorem records_add {place : Nat} {record : Record}
    (h : (memory.add p).2.records[place]? = some record) :
    memory.records[place]? = some record ∨
      place = memory.records.length ∧ record = memory.fresh p.name := by
  replace h : (memory.records ++ [memory.fresh p.name])[place]? = some record := h
  rw [List.getElem?_append] at h
  split at h
  · exact .inl h
  · obtain ⟨hplace, hrecord⟩ := List.getElem?_eq_some_iff.1 h
    rw [List.length_singleton] at hplace
    refine .inr ⟨by omega, ?_⟩
    rw [← hrecord, List.getElem_singleton]

/-- New lists of entries share no place with those in memory, nor with each other. -/
theorem Separate.add (h : memory.Separate) : (memory.add p).2.Separate where
  lt hrecord part := by
    rcases records_add p hrecord with hold | ⟨-, rfl⟩
    · have hlt := h.lt hold part
      show _ < (memory.entries ++ _).length
      rw [List.length_append]
      omega
    · exact fresh_place_lt memory p part
  eq hrecord hrecord' part part' hplace := by
    -- the new lists lie behind all that are in memory
    have hfresh := length_le_fresh_place memory p.name
    rcases records_add p hrecord with hold | ⟨rfl, rfl⟩ <;>
      rcases records_add p hrecord' with hold' | ⟨rfl, rfl⟩
    · exact h.eq hold hold' hplace
    · exact absurd (h.lt hold part) (by have := hfresh part'; omega)
    · exact absurd (h.lt hold' part') (by have := hfresh part; omega)
    · exact ⟨rfl, fresh_place_injective memory p.name hplace⟩

end Add

/-! ## Changing -/

section Edit

variable (memory) (place : Nat) (part : Section) (f : Entries → Entries)

@[simp] theorem records_edit : (memory.edit place part f).records = memory.records := by
  unfold edit
  split <;> rfl

@[simp] theorem length_entries_edit :
    (memory.edit place part f).entries.length = memory.entries.length := by
  unfold edit
  split
  · exact List.length_modify ..
  · rfl

variable {memory}

theorem Separate.edit (h : memory.Separate) : (memory.edit place part f).Separate where
  lt hrecord := by
    rw [records_edit] at hrecord
    rw [length_entries_edit]
    exact h.lt hrecord
  eq hrecord hrecord' := by
    rw [records_edit] at hrecord hrecord'
    exact h.eq hrecord hrecord'

theorem edit_of_none (h : memory.records[place]? = none) : memory.edit place part f = memory := by
  rw [edit, h]

theorem read_edit {changed : Record} (h : memory.records[place]? = some changed) {spot : Nat}
    (hspot : spot < memory.entries.length) :
    (memory.edit place part f).read spot =
      if changed.place part = spot then f (memory.read spot) else memory.read spot := by
  rw [edit, h]
  simp only [read, List.getD, List.getElem?_modify, List.getElem?_eq_getElem hspot]
  split <;> rfl

/-- A change of a partnership reaches no other one, and of this one only the list it is made in. -/
theorem value?_edit (h : memory.Separate) (other : Nat) :
    (memory.edit place part f).value? other =
      (memory.value? other).map fun p => if other = place then p.modify part f else p := by
  rw [value?, value?, records_edit, Option.map_map]
  refine Option.map_congr fun record hrecord => ?_
  show _ = if other = place then (memory.value record).modify part f else memory.value record
  cases hchanged : memory.records[place]? with
  | none =>
    -- nothing lies at the place, so nothing is changed there
    rw [edit_of_none place part f hchanged, if_neg]
    rintro rfl
    rw [hrecord] at hchanged
    cases hchanged
  | some changed =>
    refine eq_of_parts (by split <;> simp [value]) fun part' => ?_
    rw [part_value, read_edit place part f hchanged (h.lt hrecord part')]
    by_cases hother : other = place
    · subst hother
      obtain rfl : record = changed := Option.some.inj (hrecord.symm.trans hchanged)
      have hpart : record.place part = record.place part' ↔ part = part' :=
        ⟨fun hplace => (h.eq hrecord hrecord hplace).2, fun heq => heq ▸ rfl⟩
      simp only [if_true, part_modify, part_value, hpart]
    · -- the lists of another partnership lie elsewhere
      have hplace : changed.place part ≠ record.place part' := fun heq =>
        hother (h.eq hchanged hrecord heq).1.symm
      rw [if_neg hplace, if_neg hother, part_value]

end Edit

/-! ## Completing -/

section Fill

variable {target source : Nat}

theorem records_foldl_fillPart (parts : List Section) :
    (parts.foldl (fillPart target source) memory).records = memory.records := by
  -- on the lists, with the memory that those before have left
  induction parts generalizing memory with
  | nil => rfl
  | cons part rest ih =>
    refine ih.trans ?_
    unfold fillPart
    split
    · exact records_edit ..
    · rfl

theorem records_fill : (memory.fill target source).records = memory.records :=
  records_foldl_fillPart Section.all

variable {p : Partnership}

theorem fillPart_eq (target : Nat) (h : memory.value? source = some p) (part : Section) :
    fillPart target source memory part = memory.edit target part (·.fillFrom (p.part part)) := by
  rw [fillPart, h]

/-- A partnership from which lists are completed stays as it is, even if they are its own: these
have nothing to add to themselves. -/
theorem value?_fillPart_source (h : memory.Separate) (hsource : memory.value? source = some p)
    (part : Section) : (fillPart target source memory part).value? source = some p := by
  rw [fillPart_eq _ hsource, value?_edit _ _ _ h, hsource, Option.map_some]
  -- the source may be the target itself
  split
  · rw [modify_fillFrom_self]
  · rfl

theorem value?_foldl_fillPart (h : memory.Separate) (hsource : memory.value? source = some p)
    (parts : List Section) (other : Nat) :
    (parts.foldl (fillPart target source) memory).Separate ∧
    (parts.foldl (fillPart target source) memory).value? other =
      (memory.value? other).map fun q =>
        if other = target then
          parts.foldl (fun q part => q.modify part (·.fillFrom (p.part part))) q
        else q := by
  induction parts generalizing memory with
  | nil => exact ⟨h, by simp⟩
  | cons part rest ih =>
    -- the source is the same after the first list, so the others are completed from it as well
    have hstep := fillPart_eq target hsource part
    have hseparate : (fillPart target source memory part).Separate := by
      rw [hstep]
      exact h.edit ..
    obtain ⟨hlast, hvalue⟩ := ih hseparate (value?_fillPart_source h hsource part)
    refine ⟨hlast, ?_⟩
    rw [List.foldl_cons, hvalue, hstep, value?_edit _ _ _ h, Option.map_map]
    refine Option.map_congr fun q _ => ?_
    by_cases hother : other = target
    · simp only [Function.comp, if_pos hother, List.foldl_cons]
    · simp only [Function.comp, if_neg hother]

theorem Separate.fill (h : memory.Separate) (hsource : memory.value? source = some p) :
    (memory.fill target source).Separate :=
  (value?_foldl_fillPart h hsource Section.all 0).1

/-- Completing a partnership leaves all others as they are. -/
theorem value?_fill (h : memory.Separate) (hsource : memory.value? source = some p) (other : Nat) :
    (memory.fill target source).value? other =
      (memory.value? other).map fun q => if other = target then q.fillFrom p else q := by
  rw [fill, (value?_foldl_fillPart h hsource Section.all other).2]
  simp only [foldl_modify_fillFrom]

end Fill

end Memory

end As2Exchange
