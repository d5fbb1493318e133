/-!
# Looking up names

What looking up a name in a list of entries gives, entry by entry.

- `eq_of_lookup` says that names in their order and what is found under them make the list.
-/

namespace As2Exchange

variable {α : Type} {name : String}

theorem lookup_cons_eq (entry : String × α) (entries : List (String × α)) :
    (entry :: entries).lookup name = if name = entry.1 then some entry.2 else entries.lookup name := by
  obtain ⟨key, value⟩ := entry
  rw [List.lookup_cons]
  by_cases h : name = key
  · simp [h]
  · simp [h, beq_eq_false_iff_ne.2 h]

theorem mem_of_lookup {entries : List (String × α)} {value : α}
    (h : entries.lookup name = some value) : (name, value) ∈ entries := by
  obtain ⟨front, back, rfl, -⟩ := List.lookup_eq_some_iff.1 h
  exact List.mem_append_right front List.mem_cons_self

/-- The names that are there are those under which there is a value. -/
theorem mem_names_iff {entries : List (String × α)} :
    name ∈ entries.map (·.1) ↔ (entries.lookup name).isSome = true := by
  induction entries with
  | nil => simp
  | cons entry entries ih =>
    rw [List.map_cons, List.mem_cons, lookup_cons_eq, ih]
    by_cases h : name = entry.1
    · simp [h]
    · simp [h]

/-- Two lists with the same names, each there once, are equal if they agree under each name. -/
theorem eq_of_lookup {entries others : List (String × α)} (hnodup : (entries.map (·.1)).Nodup)
    (hnames : others.map (·.1) = entries.map (·.1))
    (h : ∀ name, others.lookup name = entries.lookup name) : others = entries := by
  induction entries generalizing others with
  | nil => exact List.map_eq_nil_iff.1 hnames
  | cons entry entries ih =>
    obtain ⟨other, others, rfl, hname, hrest⟩ := List.map_eq_cons_iff.1 hnames
    rw [List.map_cons, List.nodup_cons] at hnodup
    have hfirst := h entry.1
    rw [lookup_cons_eq, lookup_cons_eq, if_pos rfl, if_pos hname.symm] at hfirst
    have hentry : other = entry := Prod.ext hname (Option.some.inj hfirst)
    subst hentry
    congr 1
    refine ih hnodup.2 hrest fun name => ?_
    by_cases heq : name = other.1
    · -- the name is that of the first entry, so it is in neither rest
      have hnone : ∀ rest : List (String × α), other.1 ∉ rest.map (·.1) →
          rest.lookup other.1 = none := by
        intro rest hrest
        rwa [mem_names_iff, Option.not_isSome_iff_eq_none] at hrest
      rw [heq, hnone entries hnodup.1, hnone others (by rw [hrest]; exact hnodup.1)]
    · have hothers := h name
      rwa [lookup_cons_eq, lookup_cons_eq, if_neg heq, if_neg heq] at hothers

end As2Exchange
