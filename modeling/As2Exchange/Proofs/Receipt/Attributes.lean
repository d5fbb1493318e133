import As2Exchange.Receipt.Basic
import As2Exchange.Proofs.Lookup

/-!
# Attributes of receipts

Entries with repeated names are joined one after the other: an entry whose name is there takes the
place of the earlier one, any other entry is added at the end.

- `lookup_joined` says that the last value under a name counts;
- `nodup_joined` says that each name is there once;
- `joined_append_eq_iff` says when further entries change nothing.
-/

namespace As2Exchange.Receipt

/-! ## One entry -/

/-- Adds an entry, or puts it in the place of the one under its name. -/
def put (done : List (String × String)) (entry : String × String) : List (String × String) :=
  if (done.lookup entry.1).isSome then done.map fun old => if old.1 = entry.1 then entry else old
  else done ++ [entry]

theorem joined_eq_foldl (entries : List (String × String)) :
    joined entries = entries.foldl put [] := rfl

variable {done : List (String × String)} {entry : String × String} {name : String}

theorem lookup_replace :
    (done.map fun old => if old.1 = entry.1 then entry else old).lookup name =
      if name = entry.1 then (done.lookup name).map fun _ => entry.2 else done.lookup name := by
  induction done with
  | nil => simp
  | cons old done ih =>
    rw [List.map_cons, lookup_cons_eq, lookup_cons_eq, ih]
    by_cases hold : old.1 = entry.1
    · by_cases hname : name = entry.1
      · simp [hold, hname]
      · simp [hold, hname]
    · by_cases hname : name = old.1
      · simp [hold, hname]
      · simp [hold, hname]

theorem lookup_put :
    (put done entry).lookup name = if name = entry.1 then some entry.2 else done.lookup name := by
  unfold put
  split
  · -- the name is there, so the entry takes its place
    rename_i hthere
    rw [lookup_replace]
    by_cases hname : name = entry.1
    · obtain ⟨value, hvalue⟩ := Option.isSome_iff_exists.1 hthere
      rw [if_pos hname, if_pos hname, hname, hvalue]
      rfl
    · rw [if_neg hname, if_neg hname]
  · -- the name is new, so the entry is found at the end
    rename_i hnew
    rw [List.lookup_append, lookup_cons_eq]
    by_cases hname : name = entry.1
    · rw [hname, Option.not_isSome_iff_eq_none.1 hnew]
      simp
    · simp [hname]

/-- The names stay where they are, and a new one is added at the end. -/
theorem names_put : (put done entry).map (·.1) =
    if entry.1 ∈ done.map (·.1) then done.map (·.1) else done.map (·.1) ++ [entry.1] := by
  unfold put
  simp only [mem_names_iff]
  split
  · -- an entry that takes the place of another one has its name
    rw [List.map_map]
    apply List.map_congr_left
    intro old hold
    simp only [Function.comp_apply]
    split
    · rename_i heq
      exact heq.symm
    · rfl
  · rw [List.map_append, List.map_singleton]

theorem nodup_put (h : (done.map (·.1)).Nodup) : ((put done entry).map (·.1)).Nodup := by
  rw [names_put]
  split
  · exact h
  · rename_i hnew
    rw [List.nodup_append]
    refine ⟨h, by simp, ?_⟩
    intro name hname other hother heq
    rw [heq, List.mem_singleton.1 hother] at hname
    exact hnew hname

/-! ## All entries -/

theorem lookup_foldl_put (entries : List (String × String)) :
    (entries.foldl put done).lookup name = (entries.reverse.lookup name).or (done.lookup name) := by
  induction entries generalizing done with
  | nil => simp
  | cons entry entries ih =>
    -- later entries come first in both lists, then this one, then those that were there
    rw [List.foldl_cons, ih, lookup_put, List.reverse_cons, List.lookup_append, Option.or_assoc,
      lookup_cons_eq]
    by_cases hname : name = entry.1
    · simp [hname]
    · simp [hname]

/-- **The last value under a name counts.** -/
theorem lookup_joined (entries : List (String × String)) (name : String) :
    (joined entries).lookup name = entries.reverse.lookup name := by
  rw [joined_eq_foldl, lookup_foldl_put]
  simp

theorem nodup_joined (entries : List (String × String)) : ((joined entries).map (·.1)).Nodup := by
  -- distinct names are the invariant, whatever is there at the start
  have h : ∀ done : List (String × String), (done.map (·.1)).Nodup →
      ((entries.foldl put done).map (·.1)).Nodup := by
    induction entries with
    | nil => exact fun done hdone => hdone
    | cons entry entries ih => exact fun done hdone => ih _ (nodup_put hdone)
  exact h [] List.nodup_nil

/-! ## Further entries -/

theorem joined_append (entries more : List (String × String)) :
    joined (entries ++ more) = more.foldl put (joined entries) := by
  rw [joined_eq_foldl, joined_eq_foldl, List.foldl_append]

/-- Entries with distinct names stay as they are. -/
theorem joined_of_nodup {entries : List (String × String)} (h : (entries.map (·.1)).Nodup) :
    joined entries = entries := by
  -- what is there so far has names of its own
  have hfoldl : ∀ done : List (String × String), ((done ++ entries).map (·.1)).Nodup →
      entries.foldl put done = done ++ entries := by
    clear h
    induction entries with
    | nil => exact fun done _ => (List.append_nil done).symm
    | cons entry entries ih =>
      intro done hdone
      have hnew : ¬ (done.lookup entry.1).isSome = true := by
        rw [← mem_names_iff]
        rw [List.map_append, List.map_cons, List.nodup_append] at hdone
        exact fun hmem => hdone.2.2 _ hmem _ List.mem_cons_self rfl
      rw [List.append_cons] at hdone ⊢
      rw [List.foldl_cons, put, if_neg hnew]
      exact ih _ hdone
  exact hfoldl [] h

/-- Entries may be joined before others are added. -/
theorem joined_joined_append (entries more : List (String × String)) :
    joined (joined entries ++ more) = joined (entries ++ more) := by
  rw [joined_append, joined_append, joined_of_nodup (nodup_joined entries)]

theorem names_foldl_put {more : List (String × String)}
    (h : ∀ entry ∈ more, entry.1 ∈ done.map (·.1)) :
    (more.foldl put done).map (·.1) = done.map (·.1) := by
  induction more generalizing done with
  | nil => rfl
  | cons entry more ih =>
    have hnames : (put done entry).map (·.1) = done.map (·.1) := by
      rw [names_put, if_pos (h entry List.mem_cons_self)]
    rw [List.foldl_cons, ih, hnames]
    intro other hother
    rw [hnames]
    exact h other (List.mem_cons_of_mem _ hother)

/-- **Further entries change nothing just if they agree with what is there**: the last of them under
a name has the value that counts already. -/
theorem joined_append_eq_iff {entries more : List (String × String)} :
    joined (entries ++ more) = joined entries ↔
      ∀ name value, more.reverse.lookup name = some value →
        (joined entries).lookup name = some value := by
  have hlookup : ∀ name, (joined (entries ++ more)).lookup name =
      (more.reverse.lookup name).or ((joined entries).lookup name) := by
    intro name
    rw [joined_append, lookup_foldl_put]
  constructor
  · intro h name value hvalue
    rw [← h, hlookup, hvalue]
    rfl
  · intro h
    refine eq_of_lookup (nodup_joined entries) ?_ fun name => ?_
    · -- each name of a further entry has a last value, so it is there
      rw [joined_append]
      refine names_foldl_put fun entry hentry => ?_
      have hmem : entry.1 ∈ more.reverse.map (·.1) :=
        List.mem_map_of_mem (List.mem_reverse.2 hentry)
      obtain ⟨value, hvalue⟩ := Option.isSome_iff_exists.1 (mem_names_iff.1 hmem)
      rw [mem_names_iff, h _ value hvalue]
      rfl
    · rw [hlookup]
      cases hvalue : more.reverse.lookup name with
      | none => rfl
      | some value => exact (h name value hvalue).symm

end As2Exchange.Receipt
