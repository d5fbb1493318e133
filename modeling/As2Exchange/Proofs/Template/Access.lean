import As2Exchange.Proofs.Failure.Result
import As2Exchange.Proofs.Template.Alike

/-!
# Accesses that fail

Behind the name of a field stand accesses, which lead step by step from a text to what the field
stands for. Accesses that are written as they should be fail at the first one that asks for what is
not there, or that raises an exception.

- `Access` is a single step, with its result and the accesses that are left;
- `Misses` says that a step fails after others have been taken;
- `follow_eq_error` says that accesses fail by a flaw or by such a step;
- `writtenIn_of_field` says by which characters a template shows its accesses and layouts.
-/

namespace As2Exchange.Template

/-! ## Single steps -/

/-- The name behind a point, up to the next access. -/
def partName (rest : List Char) : List Char := rest.takeWhile fun c => c ≠ '.' && c ≠ '['

/-- What stands in square brackets, behind the opening one. -/
def indexName (rest : List Char) : List Char := rest.takeWhile (· ≠ ']')

section

variable [Objects]

/-- An access at the front of a text, with its result and the accesses behind it. -/
inductive Access (found : Found) : List Char → Except TemplateError Found → List Char → Prop where
  /-- What stands under a name is asked for. -/
  | part {rest : List Char} (hname : partName rest ≠ []) :
      Access found ('.' :: rest) (found.part (String.ofList (partName rest)))
        (rest.drop (partName rest).length)
  /-- What stands at an index is asked for, which is a number or a name. -/
  | item {rest more : List Char} {bracket : Char} {index? : Option Nat}
      (hname : indexName rest ≠ [])
      (hrest : rest.drop (indexName rest).length = bracket :: more)
      (hindex : wholeNumber? (indexName rest) = .ok index?) :
      Access found ('[' :: rest) (found.item (indexOf (indexName rest) index?)) more

/-- A step goes wrong: the first one, or one behind it. -/
inductive Misses : Found → List Char → TemplateError → Prop where
  | here {found : Found} {cs more : List Char} {e : TemplateError}
      (h : Access found cs (.error e) more) : Misses found cs e
  | later {found inner : Found} {cs more : List Char} {e : TemplateError}
      (h : Access found cs (.ok inner) more) (hlater : Misses inner more e) : Misses found cs e

/-! ## Failures of single steps -/

theorem Found.part_eq_error {found : Found} {name : String} {e : TemplateError}
    (h : found.part name = .error e) : ∃ raised, e = .object raised := by
  obtain ⟨raised, -, rfl⟩ := mapError_eq_error.1 h
  exact ⟨raised, rfl⟩

theorem Found.item_eq_error {found : Found} {index : Index} {e : TemplateError}
    (h : found.item index = .error e) :
    e = .indexNotNumeric ∨ e = .characterMissing ∨ ∃ raised, e = .object raised := by
  cases found with
  | text cs =>
    cases index with
    | name text =>
      cases h
      exact .inl rfl
    | number n =>
      dsimp only [item] at h
      split at h
      · cases h
        exact .inr (.inl rfl)
      · cases h
  | object id =>
    obtain ⟨raised, -, rfl⟩ := mapError_eq_error.1 h
    exact .inr (.inr ⟨raised, rfl⟩)

/-- A step that goes wrong asks for a character of a text in an unsuitable way or beyond its end, or
what is within a text or an object raises an exception. -/
theorem Misses.cases {found : Found} {cs : List Char} {e : TemplateError}
    (h : Misses found cs e) :
    e = .indexNotNumeric ∨ e = .characterMissing ∨ ∃ raised, e = .object raised := by
  induction h with
  | later _ _ ih => exact ih
  | here h =>
    generalize hresult : Except.error _ = result at h
    cases h with
    | part hname => exact .inr (.inr (Found.part_eq_error hresult.symm))
    | item hname hrest hindex => exact Found.item_eq_error hresult.symm

/-! ## All steps -/

/-- Accesses take the first step and then the others. -/
theorem Access.follow_eq {found : Found} {cs more : List Char}
    {result : Except TemplateError Found} (h : Access found cs result more) :
    follow found cs = result >>= fun inner => follow inner more := by
  cases h with
  | part hname =>
    rename_i rest
    unfold partName at hname ⊢
    rw [follow, if_neg fun hempty => hname (List.isEmpty_iff.1 hempty)]
    split <;> rename_i hpart <;> rw [hpart] <;> rfl
  | item hname hrest hindex =>
    rename_i rest bracket index?
    unfold indexName at hname hrest hindex
    rw [follow]
    split
    · rename_i hnil
      rw [hrest] at hnil
      cases hnil
    · rename_i hmore
      rw [hrest] at hmore
      cases hmore
      rw [hindex]
      dsimp only
      rw [if_neg fun hempty => hname (List.isEmpty_iff.1 hempty)]
      -- the index is a name or a number
      cases index? with
      | none =>
        dsimp only [indexOf, indexName]
        cases found.item _ <;> rfl
      | some n =>
        dsimp only [indexOf]
        cases found.item _ <;> rfl

theorem Misses.follow_eq {found : Found} {cs : List Char} {e : TemplateError}
    (h : Misses found cs e) : follow found cs = .error e := by
  induction h with
  | here h => exact h.follow_eq
  | later h _ ih => exact h.follow_eq.trans ih

/-- **Accesses without a flaw fail just if a step goes wrong.** -/
theorem follow_eq_error {found : Found} {cs : List Char} {e : TemplateError}
    (hflaw : ∀ flaw, e ≠ .malformed flaw) : follow found cs = .error e ↔ Misses found cs e := by
  refine ⟨fun h => ?_, Misses.follow_eq⟩
  fun_induction follow found cs with
  | case3 found rest name hname e' hpart =>
    cases h
    have hstep : Access found ('.' :: rest) _ _ := .part fun h => hname (List.isEmpty_iff.2 h)
    exact .here (hpart ▸ hstep)
  | case4 found rest name hname inner hpart ih =>
    have hstep : Access found ('.' :: rest) _ _ := .part fun h => hname (List.isEmpty_iff.2 h)
    exact .later (hpart ▸ hstep) (ih h)
  | case8 found rest name bracket more hrest index? hindex hname index e' hitem =>
    cases h
    have hstep : Access found ('[' :: rest) (found.item index) more :=
      .item (fun h => hname (List.isEmpty_iff.2 h)) hrest hindex
    exact .here (hitem ▸ hstep)
  | case9 found rest name bracket more hrest index? hindex hname index inner hitem ih =>
    have hstep : Access found ('[' :: rest) (found.item index) more :=
      .item (fun h => hname (List.isEmpty_iff.2 h)) hrest hindex
    exact .later (hitem ▸ hstep) (ih h)
  | case1 => cases h
  | _ =>
    -- the accesses have a flaw
    cases h
    exact absurd rfl (hflaw _)

/-! ## Characters of a field -/

/-- Accesses start with a point or a square bracket. -/
theorem Misses.mark_mem {found : Found} {cs : List Char} {e : TemplateError}
    (h : Misses found cs e) : '.' ∈ cs ∨ '[' ∈ cs := by
  have hstep {result : Except TemplateError Found} {more : List Char}
      (h : Access found cs result more) : '.' ∈ cs ∨ '[' ∈ cs := by
    cases h with
    | part => exact .inl List.mem_cons_self
    | item => exact .inr List.mem_cons_self
  cases h with
  | here h => exact hstep h
  | later h _ => exact hstep h

end

/-- A name is made of the characters read, and what is left stands at the end of them. -/
theorem scanName_spec {within : Bool} {name cs : List Char} :
    (∀ c ∈ (scanName within name cs).1, c ∈ name ∨ c ∈ cs) ∧
      ((scanName within name cs).2.1 = .colon → ':' ∈ cs) ∧
      (scanName within name cs).2.2 <:+ cs := by
  fun_induction scanName within name cs with
  | case2 name c rest ih | case7 name c rest _ _ _ _ ih =>
    -- one more character of the name
    obtain ⟨hname, hcolon, hrest⟩ := ih
    refine ⟨fun d hd => ?_, fun h => .tail _ (hcolon h), hrest.trans (List.suffix_cons _ _)⟩
    simpa [or_left_comm, or_assoc] using hname d hd
  | _ => simp_all

theorem scanLayout_spec {depth : Nat} {layout cs : List Char} {out : List Char × List Char}
    (h : scanLayout depth layout cs = .ok out) :
    (∀ c ∈ out.1, c ∈ layout ∨ c ∈ cs) ∧ out.2 <:+ cs := by
  fun_induction scanLayout depth layout cs with
  | case1 => cases h
  | case3 =>
    cases h
    exact ⟨fun c hc => .inl (List.mem_reverse.1 hc), List.suffix_cons _ _⟩
  | case2 _ _ _ ih | case4 _ _ _ _ ih | case5 _ _ _ _ _ _ ih =>
    obtain ⟨hlayout, hrest⟩ := ih h
    refine ⟨fun d hd => ?_, hrest.trans (List.suffix_cons _ _)⟩
    simpa [or_left_comm, or_assoc] using hlayout d hd

/-- The field is made of the characters of a text, and its layout stands behind a colon. -/
structure Field.WrittenIn (field : Field) (cs : List Char) : Prop where
  name : field.name ⊆ cs
  layout : field.layout ⊆ cs
  colon : field.layout ≠ [] → ':' ∈ cs

variable {field : Field} {cs ds rest : List Char}

theorem Field.WrittenIn.mono (h : field.WrittenIn cs) (hsub : cs ⊆ ds) : field.WrittenIn ds where
  name := List.Subset.trans h.name hsub
  layout := List.Subset.trans h.layout hsub
  colon hgiven := hsub (h.colon hgiven)

theorem scanField_spec (h : scanField cs = .ok (field, rest)) :
    field.WrittenIn cs ∧ rest <:+ cs := by
  obtain ⟨hname, hcolon, hrest⟩ := @scanName_spec false [] cs
  unfold scanField at h
  split at h <;> rename_i hscan <;> rw [hscan] at hname hcolon hrest
  · cases h
  · cases h
  · -- the field ends behind its name
    cases h
    exact ⟨⟨fun c => by simpa using hname c, by simp, by simp⟩, hrest⟩
  · -- a layout follows the name
    obtain ⟨⟨layout, rest⟩, hscan', h⟩ := bind_eq_ok.1 h
    cases h
    obtain ⟨hlayout, hrest'⟩ := scanLayout_spec hscan'
    exact ⟨⟨fun c => by simpa using hname c, fun c hc => hrest.subset (by simpa using hlayout c hc),
      fun _ => hcolon rfl⟩, hrest'.trans hrest⟩
  · split at h
    · cases h
    · cases h
    · rename_i c d more
      have hmore : more <:+ cs := (List.suffix_append [c, d] more).trans hrest
      split at h
      · -- the field ends behind its conversion
        cases h
        exact ⟨⟨fun c => by simpa using hname c, by simp, by simp⟩, hmore⟩
      · split at h
        · -- a layout follows the conversion
          rename_i hd
          obtain ⟨⟨layout, rest⟩, hscan', h⟩ := bind_eq_ok.1 h
          cases h
          obtain ⟨hlayout, hrest'⟩ := scanLayout_spec hscan'
          exact ⟨⟨fun c => by simpa using hname c,
            fun c hc => hmore.subset (by simpa using hlayout c hc),
            fun _ => hrest.subset (by simp [hd])⟩, hrest'.trans hmore⟩
        · cases h

/-- Each field is scanned somewhere in the template. -/
theorem scanned_of_field {text : List Char} (h : .field field ∈ segmentsFrom text cs) :
    ∃ more rest, more <:+ cs ∧ scanField more = .ok (field, rest) := by
  fun_induction segmentsFrom text cs with
  | case3 text more ih | case7 text more _ ih =>
    -- a bracket written twice
    obtain ⟨more', rest, hmore, hscan⟩ := ih (by simpa using h)
    exact ⟨more', rest, hmore.trans (List.suffix_append [_, _] _), hscan⟩
  | case9 text c rest hc field' rest' hscan _ ih =>
    dsimp only at h
    split at h
    · simp at h
    · rename_i hscan'
      cases hscan.symm.trans hscan'
      have hrest : rest' <:+ '\x7b' :: c :: rest :=
        (scanField_spec hscan).2.trans (List.suffix_cons _ _)
      -- the field is the one that is scanned here, or one behind it
      rcases h with _ | ⟨_, _ | ⟨_, h⟩⟩
      · exact ⟨_, _, List.suffix_cons _ _, hscan⟩
      · obtain ⟨more, rest, hmore, hfield⟩ := ih h
        exact ⟨more, rest, hmore.trans hrest, hfield⟩
  | case10 text c rest _ _ ih =>
    obtain ⟨more, rest', hmore, hscan⟩ := ih h
    exact ⟨more, rest', hmore.trans (List.suffix_cons _ _), hscan⟩
  | case8 =>
    dsimp only at h
    split at h <;> simp_all
  | _ => simp at h

/-- A field is made of characters of the template. -/
theorem writtenIn_of_field (h : .field field ∈ segments cs) : field.WrittenIn cs := by
  obtain ⟨more, rest, hmore, hscan⟩ := scanned_of_field h
  exact (scanField_spec hscan).1.mono hmore.subset

end As2Exchange.Template
