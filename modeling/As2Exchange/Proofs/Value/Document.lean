import As2Exchange.Value.Document

/-!
# Changes of documents

An entry that is put into a mapping shows wherever the document refers to the mapping: in the part
it was meant for, in other parts that share the mapping, and within the mapping itself. What stands
under other names stays the same item, and every value stays of its kind.

- `Value.Alike` is said of values of one kind that both count as given or both do not;
- `Document.field?_tree` ties the fields of a value to the items of the document;
- `Document.member?_setMember` and `Document.alike_setMember` say what a change leaves as it is.
-/

namespace As2Exchange

/-! ## Values of one kind -/

namespace Value

def isCollection : Value → Bool
  | list _ | set _ | mapping _ => true
  | _ => false

/-- The same value, or two lists or two mappings that are both empty or both not. -/
inductive Alike : Value → Value → Prop where
  | same (v : Value) : Alike v v
  | lists {items others : List Value} (h : others.isEmpty = items.isEmpty) :
      Alike (list items) (list others)
  | mappings {entries others : List (Value × Value)} (h : others.isEmpty = entries.isEmpty) :
      Alike (mapping entries) (mapping others)

variable {v w : Value}

theorem Alike.eq_of_plain (h : Alike v w) (hv : v.isCollection = false) : w = v := by
  cases h with
  | same => rfl
  | lists | mappings => cases hv

theorem Alike.isTrue_eq (h : Alike v w) : w.isTrue = v.isTrue := by
  cases h with
  | same => rfl
  | lists h | mappings h => simp [isTrue, h]

end Value

theorem Scalar.sameKey_text (s : Scalar) (name : String) :
    s.sameKey (.text name) = decide (s = .text name) := by
  cases s <;> simp [sameKey]

/-! ## Entries -/

namespace Collection

variable {entries : List (Scalar × Item)} {name other : String} {item : Item}

theorem isEmpty_addEntry (entries : List (Scalar × Item)) (entry : Scalar × Item) :
    (addEntry entries entry).isEmpty = false := by
  unfold addEntry
  -- there is an entry with the key, or one is added behind the others
  split
  · rename_i hany
    cases entries with
    | nil => simp at hany
    | cons => rfl
  · simp

/-- A new entry brings no key but its own. -/
theorem mem_addEntry {entry added : Scalar × Item} (h : entry ∈ addEntry entries added) :
    entry.1 = added.1 ∨ ∃ old ∈ entries, old.1 = entry.1 := by
  unfold addEntry at h
  split at h
  · obtain ⟨old, hold, rfl⟩ := List.mem_map.1 h
    refine .inr ⟨old, hold, ?_⟩
    split <;> rfl
  · rcases List.mem_append.1 h with h | h
    · exact .inr ⟨entry, h, rfl⟩
    · exact .inl (by rw [List.mem_singleton.1 h])

/-- A change of the values under one key does not change which entry has a key. -/
theorem find?_replaced (entries : List (Scalar × Item)) (key other : Scalar) (item : Item) :
    (entries.map fun old => if old.1 = key then (old.1, item) else old).reverse.find?
        (fun entry => entry.1 = other) =
      (entries.reverse.find? fun entry => entry.1 = other).map
        fun old => if old.1 = key then (old.1, item) else old := by
  rw [← List.map_reverse, List.find?_map]
  congr 2
  funext old
  simp only [Function.comp_apply]
  split <;> rfl

/-- An entry is found under its own name. -/
theorem member?_addEntry_self :
    (mapping (addEntry entries (.text name, item))).member? name = some item := by
  unfold member? addEntry
  simp only [Scalar.sameKey_text, decide_eq_true_eq]
  -- the last entry under a key counts: a replaced one has the new value, a new one is last
  split
  · rename_i hany
    rw [find?_replaced]
    obtain ⟨old, hold, hname⟩ := List.any_eq_true.1 hany
    cases hfound : entries.reverse.find? fun entry => entry.1 = .text name with
    | none =>
      have hnone := List.find?_eq_none.1 hfound old (List.mem_reverse.2 hold)
      exact absurd hname hnone
    | some found =>
      have hkey := List.find?_some hfound
      simp only [decide_eq_true_eq] at hkey
      simp [hkey]
  · simp

/-- Under other names an entry changes nothing. -/
theorem member?_addEntry_of_ne (h : other ≠ name) :
    (mapping (addEntry entries (.text name, item))).member? other =
      (mapping entries).member? other := by
  unfold member? addEntry
  simp only [Scalar.sameKey_text, decide_eq_true_eq]
  split
  -- the entries under the other name are found before and after, at the same places
  · rw [find?_replaced, Option.map_map]
    refine Option.map_congr fun found hfound => ?_
    have hkey := List.find?_some hfound
    simp only [decide_eq_true_eq] at hkey
    simp [hkey, h]
  · simp [Ne.symm h]

variable (c : Collection)

theorem member?_put_of_ne (h : other ≠ name) :
    (c.put name item).member? other = c.member? other := by
  cases c with
  | list | set => rfl
  | mapping entries => exact member?_addEntry_of_ne h

/-- What a mapping holds under a name is what its value holds there. -/
theorem field?_value (seen : Item → Value) :
    (c.value seen).field? name = (c.member? name).map seen := by
  cases c with
  | list | set => rfl
  | mapping entries =>
    show Option.map _ (List.find? _ (entries.map _).reverse) =
      Option.map seen (Option.map _ (List.find? _ entries.reverse))
    rw [← List.map_reverse, List.find?_map, Option.map_map, Option.map_map]
    refine congrArg (Option.map (seen ∘ Prod.snd)) (congrArg (List.find? · entries.reverse) ?_)
    -- a key is seen as the name just if it is the name
    funext ⟨key, item⟩
    cases key <;> simp [Scalar.value]

variable (seen seen' : Item → Value)

theorem alike_value : Value.Alike (c.value seen) (c.value seen') := by
  cases c with
  | list items => exact .lists (by simp)
  | set members => exact .same _
  | mapping entries => exact .mappings (by simp)

/-- A mapping with entries still counts as given with one more. -/
theorem alike_put (h : (c.value seen).isTrue = true) :
    Value.Alike (c.value seen) ((c.put name item).value seen') := by
  cases c with
  | list | set => exact alike_value _ seen seen'
  -- only an empty mapping would change whether it counts as given
  | mapping entries =>
    have hentries : entries.isEmpty = false := by simpa [value, Value.isTrue] using h
    refine .mappings ?_
    simp [hentries, isEmpty_addEntry]

end Collection

/-! ## Documents -/

namespace Document

variable (d : Document) (target item : Item) (name : String) (new : Item)

theorem root_setMember : (d.setMember target name new).root = d.root := by
  cases target <;> rfl

/-- A change is made at one place. -/
theorem collection?_setMember :
    (d.setMember target name new).collection? item =
      if item = target then (d.collection? item).map (Collection.put name new)
      else d.collection? item := by
  -- a scalar is no place, and a change at another place does not show here
  cases target with
  | plain s => cases item <;> simp [setMember, collection?]
  | shared place =>
    cases item with
    | plain s => simp [collection?]
    | shared other =>
      simp only [setMember, collection?, List.getElem?_modify, Item.shared.injEq]
      by_cases h : other = place
      · simp [h]
      · simp [h, Ne.symm h]

theorem member?_setMember_of_ne {other : String} (h : other ≠ name) :
    (d.setMember target name new).member? item other = d.member? item other := by
  unfold member?
  rw [collection?_setMember]
  split
  · cases d.collection? item with
    | none => rfl
    | some c => exact Collection.member?_put_of_ne c h
  · rfl

variable {d target item name new} {depth : Nat}

theorem tree_of_collection? {c : Collection} (h : d.collection? item = some c) :
    d.tree (depth + 1) item = c.value (d.tree depth) := by
  cases item with
  | plain s => cases h
  | shared place =>
    replace h : d.collections[place]? = some c := h
    rw [tree, h]

theorem tree_of_no_collection? (h : d.collection? item = none) :
    d.tree (depth + 1) item = d.tree 0 item := by
  cases item with
  | plain s => rfl
  | shared place =>
    replace h : d.collections[place]? = none := h
    rw [tree, tree, h]

theorem collection?_of_tree {entries : List (Value × Value)}
    (h : d.tree (depth + 1) item = .mapping entries) :
    ∃ own, d.collection? item = some (.mapping own) ∧
      entries = own.map fun entry => (entry.1.value, d.tree depth entry.2) := by
  cases hcollection : d.collection? item with
  | none =>
    rw [tree_of_no_collection? hcollection] at h
    cases item with
    | plain s => cases s <;> cases h
    | shared => cases h
  | some c =>
    rw [tree_of_collection? hcollection] at h
    cases c with
    | list | set => cases h
    | mapping own =>
      cases h
      exact ⟨own, rfl, rfl⟩

/-- The kind of a value, and whether it is empty, are seen at any depth. -/
theorem alike_tree (depth other : Nat) :
    Value.Alike (d.tree (depth + 1) item) (d.tree (other + 1) item) := by
  -- below the surface the values can differ in everything but what is asked of the kind
  cases h : d.collection? item with
  | none =>
    rw [tree_of_no_collection? h, tree_of_no_collection? h]
    exact .same _
  | some c =>
    rw [tree_of_collection? h, tree_of_collection? h]
    exact Collection.alike_value c _ _

theorem isTrue_tree : (d.tree (depth + 1) item).isTrue = (d.tree 1 item).isTrue :=
  (alike_tree 0 depth).isTrue_eq

/-- What a mapping holds is what its value holds one level up. -/
theorem field?_tree :
    (d.tree (depth + 1) item).field? name = (d.member? item name).map (d.tree depth) := by
  unfold member?
  cases h : d.collection? item with
  | none =>
    rw [tree_of_no_collection? h]
    cases item with
    | plain s => cases s <;> rfl
    | shared place => rfl
  | some c =>
    rw [tree_of_collection? h, Collection.field?_value]
    rfl

theorem fields_tree (depth other : Nat) :
    Option.Rel Value.Alike ((d.tree (depth + 2) item).field? name)
      ((d.tree (other + 2) item).field? name) := by
  rw [field?_tree, field?_tree]
  cases d.member? item name with
  | none => exact .none
  | some field => exact .some (alike_tree depth other)

/-! ### Changes -/

/-- What is put under a name is found there. -/
theorem member?_setMember_self {own : List (Scalar × Item)}
    (h : d.collection? target = some (.mapping own)) :
    (d.setMember target name new).member? target name = some new := by
  unfold member?
  rw [collection?_setMember, if_pos rfl, h]
  exact Collection.member?_addEntry_self

variable (target name new) in
/-- A change brings no key but its own to any mapping. -/
theorem keys_setMember {own : List (Scalar × Item)}
    (h : d.collection? item = some (.mapping own)) :
    ∃ changed, (d.setMember target name new).collection? item = some (.mapping changed) ∧
      ∀ entry ∈ changed, entry.1 = .text name ∨ ∃ old ∈ own, old.1 = entry.1 := by
  rw [collection?_setMember, h]
  split
  · exact ⟨_, rfl, fun entry hentry => Collection.mem_addEntry hentry⟩
  · exact ⟨own, rfl, fun entry hentry => .inr ⟨entry, hentry, rfl⟩⟩

/-- A change leaves every value of its kind, if the mapping that is changed had entries before. -/
theorem alike_setMember (htarget : (d.tree 1 target).isTrue = true) :
    Value.Alike (d.tree (depth + 1) item)
      ((d.setMember target name new).tree (depth + 1) item) := by
  have hchanged := collection?_setMember d target item name new
  -- the item is no collection before just if it is none after
  cases h : d.collection? item with
  | none =>
    have hnone : (d.setMember target name new).collection? item = none := by
      rw [hchanged, h]
      simp
    rw [tree_of_no_collection? h, tree_of_no_collection? hnone]
    cases item <;> exact .same _
  | some c =>
    rw [h] at hchanged
    rw [tree_of_collection? h]
    -- the changed mapping had an entry before, all others are as they were
    split at hchanged
    · rename_i heq
      subst heq
      rw [tree_of_collection? hchanged]
      refine Collection.alike_put c _ _ ?_
      rwa [← tree_of_collection? h, isTrue_tree]
    · rw [tree_of_collection? hchanged]
      exact Collection.alike_value c _ _

/-- Under other names than the changed one, fields stay alike. -/
theorem fields_setMember (htarget : (d.tree 1 target).isTrue = true) {other : String}
    (hother : other ≠ name) :
    Option.Rel Value.Alike ((d.tree (depth + 2) item).field? other)
      (((d.setMember target name new).tree (depth + 2) item).field? other) := by
  rw [field?_tree, field?_tree, member?_setMember_of_ne d target item name new hother]
  cases d.member? item other with
  | none => exact .none
  | some field => exact .some (alike_setMember htarget)

end Document

end As2Exchange
