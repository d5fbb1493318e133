import As2Exchange.Partnership
import As2Exchange.Proofs.Lookup

/-!
# Filling in

Completing a partnership adds the entries whose names are not there, so there is nothing to add from
a source with the same names. The entries that are there stay in front, with their values.

- `Entries.value?_fillFrom` says that names that are there keep their values;
- `Entries.completedFrom_fillFrom` says what is added to them, and in which order;
- `Partnership.Extends` is what every completion does to a partnership;
- `Partnership.fillFrom_self` is the case of a partnership that completes itself.
-/

namespace As2Exchange

namespace Entries

theorem has_of_mem {entries : Entries} {entry : String × Option String} (h : entry ∈ entries) :
    entries.has entry.1 = true :=
  mem_names_iff.1 (List.mem_map_of_mem h)

/-- Names that are there are not added again. -/
theorem fillFrom_of_has {entries source : Entries}
    (h : ∀ entry ∈ source, entries.has entry.1 = true) : entries.fillFrom source = entries := by
  induction source with
  | nil => rfl
  | cons entry source ih =>
    -- the first entry of the source adds nothing, so the others meet the same entries
    have hkept : entries.setDefault entry = entries := by
      rw [setDefault, if_pos (h entry List.mem_cons_self)]
    show (entries.setDefault entry).fillFrom source = entries
    rw [hkept]
    exact ih fun other hother => h other (List.mem_cons_of_mem _ hother)

theorem fillFrom_self (entries : Entries) : entries.fillFrom entries = entries :=
  fillFrom_of_has fun _ hentry => has_of_mem hentry

theorem prefix_setDefault (entries : Entries) (entry : String × Option String) :
    entries <+: entries.setDefault entry := by
  unfold setDefault
  split
  · exact List.prefix_rfl
  · exact List.prefix_append entries [entry]

/-- Entries are added behind those that are there. -/
theorem prefix_fillFrom (entries source : Entries) : entries <+: entries.fillFrom source := by
  induction source generalizing entries with
  | nil => exact List.prefix_rfl
  | cons entry source ih =>
    exact (prefix_setDefault entries entry).trans (ih (entries.setDefault entry))

/-- A name that is there keeps its value, also if it has none. -/
theorem value?_fillFrom {entries : Entries} {name : String} (h : entries.has name = true)
    (source : Entries) : (entries.fillFrom source).value? name = entries.value? name := by
  obtain ⟨added, hadded⟩ := prefix_fillFrom entries source
  obtain ⟨value, hvalue⟩ := Option.isSome_iff_exists.1 h
  rw [← hadded, value?, value?, List.lookup_append, hvalue]
  rfl

/-! ## What is added -/

/-- What completing makes of entries. -/
structure CompletedFrom (entries source result : Entries) : Prop where
  /-- What is there stays in its place. Behind it stand entries of the source, in their order, under
  names that were missing. -/
  added : ∃ added, result = entries ++ added ∧ added.Sublist source ∧ (added.map (·.1)).Nodup ∧
    ∀ entry ∈ added, entries.has entry.1 = false
  /-- A name that is there keeps its value, also if it has none; another one gets that of the
  source. -/
  lookup : ∀ name, result.lookup name = (entries.lookup name).or (source.lookup name)

theorem lookup_setDefault (entries : Entries) (entry : String × Option String) (name : String) :
    (entries.setDefault entry).lookup name = (entries.lookup name).or ([entry].lookup name) := by
  unfold setDefault
  split
  · rename_i hthere
    -- only the name of the entry itself would be looked up in it, and that is there
    obtain ⟨value, hvalue⟩ := Option.isSome_iff_exists.1 hthere
    rw [lookup_cons_eq, List.lookup_nil]
    split
    · rename_i hname
      rw [hname, hvalue]
      rfl
    · rw [Option.or_none]
  · exact List.lookup_append

theorem lookup_fillFrom (entries source : Entries) (name : String) :
    (entries.fillFrom source).lookup name = (entries.lookup name).or (source.lookup name) := by
  induction source generalizing entries with
  | nil => exact Option.or_none.symm
  | cons entry source ih =>
    show ((entries.setDefault entry).fillFrom source).lookup name = _
    rw [ih, lookup_setDefault, Option.or_assoc, ← List.lookup_append, List.singleton_append]

/-- Completing adds the entries of the source whose names are missing. -/
theorem fillFrom_eq_append (entries source : Entries) : ∃ added,
    entries.fillFrom source = entries ++ added ∧ added.Sublist source ∧
      (added.map (·.1)).Nodup ∧ ∀ entry ∈ added, entries.has entry.1 = false := by
  induction source generalizing entries with
  | nil => exact ⟨[], (List.append_nil _).symm, List.Sublist.refl _, List.nodup_nil, nofun⟩
  | cons entry source ih =>
    obtain ⟨added, hadded, hsublist, hnodup, hmissing⟩ := ih (entries.setDefault entry)
    replace hadded : entries.fillFrom (entry :: source) = entries.setDefault entry ++ added := hadded
    unfold setDefault at hadded hmissing
    split at hadded
    · rename_i hthere
      rw [if_pos hthere] at hmissing
      exact ⟨added, hadded, hsublist.cons entry, hnodup, hmissing⟩
    · rename_i hnew
      rw [if_neg hnew] at hmissing
      -- what is added later has names that are missing from the first entry as well
      have hapart : ∀ other ∈ added, entries.has other.1 = false ∧ other.1 ≠ entry.1 := by
        intro other hother
        have hnone := hmissing other hother
        rw [has, List.lookup_append, Option.isSome_or, Bool.or_eq_false_iff] at hnone
        refine ⟨hnone.1, fun hname => ?_⟩
        rw [hname, List.lookup_cons_self] at hnone
        cases hnone.2
      refine ⟨entry :: added, by rw [hadded, List.append_assoc]; rfl, hsublist.cons_cons entry, ?_, ?_⟩
      · rw [List.map_cons, List.nodup_cons]
        refine ⟨fun hmem => ?_, hnodup⟩
        obtain ⟨other, hother, hname⟩ := List.mem_map.1 hmem
        exact (hapart other hother).2 hname
      · intro other hother
        rcases List.mem_cons.1 hother with rfl | hother
        · exact Bool.eq_false_iff.2 hnew
        · exact (hapart other hother).1

theorem completedFrom_fillFrom (entries source : Entries) :
    entries.CompletedFrom source (entries.fillFrom source) :=
  ⟨fillFrom_eq_append entries source, lookup_fillFrom entries source⟩

/-- Every name of the source is there afterwards. -/
theorem has_fillFrom {source : Entries} {name : String} (h : source.has name = true)
    (entries : Entries) : (entries.fillFrom source).has name = true := by
  rw [has, lookup_fillFrom, Option.isSome_or]
  exact Bool.or_eq_true_iff.2 (.inr h)

/-- What has been completed has nothing more to be added from the same source. -/
theorem fillFrom_fillFrom (entries source : Entries) :
    (entries.fillFrom source).fillFrom source = entries.fillFrom source :=
  fillFrom_of_has fun _ hentry => has_fillFrom (has_of_mem hentry) entries

end Entries

namespace Partnership

/-- The one partnership has all that the other has, in its place and with its value, and may have
more. -/
structure Extends (p q : Partnership) : Prop where
  name : q.name = p.name
  senderIds : p.senderIds <+: q.senderIds
  receiverIds : p.receiverIds <+: q.receiverIds
  attributes : p.attributes <+: q.attributes

theorem Extends.refl (p : Partnership) : p.Extends p :=
  ⟨rfl, List.prefix_rfl, List.prefix_rfl, List.prefix_rfl⟩

theorem extends_fillFrom (p source : Partnership) : p.Extends (p.fillFrom source) where
  name := rfl
  senderIds := Entries.prefix_fillFrom p.senderIds source.senderIds
  receiverIds := Entries.prefix_fillFrom p.receiverIds source.receiverIds
  attributes := Entries.prefix_fillFrom p.attributes source.attributes

theorem fillFrom_self (p : Partnership) : p.fillFrom p = p := by
  unfold fillFrom
  rw [Entries.fillFrom_self, Entries.fillFrom_self, Entries.fillFrom_self]

/-! ## List by list -/

theorem eq_of_parts {p q : Partnership} (hname : p.name = q.name)
    (hparts : ∀ part, p.part part = q.part part) : p = q := by
  obtain ⟨name, senderIds, receiverIds, attributes⟩ := p
  obtain rfl : name = q.name := hname
  obtain rfl : senderIds = q.senderIds := hparts .senderIds
  obtain rfl : receiverIds = q.receiverIds := hparts .receiverIds
  obtain rfl : attributes = q.attributes := hparts .attributes
  rfl

@[simp] theorem modify_name (p : Partnership) (part : Section) (f : Entries → Entries) :
    (p.modify part f).name = p.name := by
  cases part <;> rfl

theorem part_modify (p : Partnership) (part other : Section) (f : Entries → Entries) :
    (p.modify part f).part other = if part = other then f (p.part other) else p.part other := by
  cases part <;> cases other <;> rfl

/-- A partnership is completed list by list. -/
theorem foldl_modify_fillFrom (p source : Partnership) :
    Section.all.foldl (fun p part => p.modify part (·.fillFrom (source.part part))) p =
      p.fillFrom source :=
  rfl

theorem modify_fillFrom_self (p : Partnership) (part : Section) :
    p.modify part (·.fillFrom (p.part part)) = p := by
  refine eq_of_parts (modify_name ..) fun other => ?_
  rw [part_modify]
  split
  · subst_vars
    exact Entries.fillFrom_self _
  · rfl

end Partnership

end As2Exchange
