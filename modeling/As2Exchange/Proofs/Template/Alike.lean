import As2Exchange.Template
import Mathlib.Data.List.Basic

/-!
# Values alike

Two expansions of one template meet different texts, such as two dates. If these texts have the same
length and only characters that a literal writes as they are, no access to their characters, no
conversion and no layout can make a difference in length of them. Of what stands under a name within
them nothing is known.

- `Found.Alike` relates what a field finds in the one expansion and in the other;
- `Found.Alike.follow` says that accesses without names keep it;
- `Found.Even.length_layOut` says that conversions and layouts then give texts of the same length.
-/

namespace As2Exchange.Template

/-- The characters can stand in a literal as they are. -/
def Plain (cs : List Char) : Prop :=
  ∀ c ∈ cs, (32 ≤ c.toNat ∧ c.toNat < 127) ∧ c ≠ '\'' ∧ c ≠ '"' ∧ c ≠ '\\'

instance (cs : List Char) : Decidable (Plain cs) :=
  inferInstanceAs (Decidable (∀ c ∈ cs, _))

theorem plain_append {cs ds : List Char} (hcs : Plain cs) (hds : Plain ds) : Plain (cs ++ ds) := by
  intro c hc
  rcases List.mem_append.1 hc with hc | hc
  · exact hcs c hc
  · exact hds c hc

/-! ## Literals -/

theorem quotedChar_of_plain {cs : List Char} (h : Plain cs) {c : Char} (hc : c ∈ cs) :
    Text.quotedChar '\'' c = [c] := by
  obtain ⟨⟨hlow, hhigh⟩, hmark, -, hback⟩ := h c hc
  have hcode : ∀ d : Char, d.toNat < 32 → c ≠ d := by
    rintro d hd rfl
    omega
  have hprintable : Text.isPrintable c = true := by
    unfold Text.isPrintable
    rw [if_pos (by omega), Bool.and_eq_true, decide_eq_true_eq, decide_eq_true_eq]
    exact ⟨hlow, hhigh⟩
  unfold Text.quotedChar
  -- none of the marks, and none of the line ends and tabs that have a spelling of their own
  rw [if_neg (by simp [hmark, hback]), if_neg (hcode _ (by decide)), if_neg (hcode _ (by decide)),
    if_neg (hcode _ (by decide)), if_pos hprintable]

/-- A plain text as a literal stands between apostrophes as it is. -/
theorem quoted_of_plain {cs : List Char} (h : Plain cs) :
    (Text.quoted (String.ofList cs)).toList = '\'' :: cs ++ ['\''] := by
  have hmark : Text.quoteMark cs = '\'' := by
    have hnone : '\'' ∉ cs := fun hmem => (h _ hmem).2.1 rfl
    unfold Text.quoteMark
    rw [if_neg (by simp [hnone])]
  have hbody : cs.flatMap (Text.quotedChar '\'') = cs.flatMap fun c => [c] :=
    List.flatMap_congr fun c hc => quotedChar_of_plain h hc
  unfold Text.quoted
  dsimp only
  rw [String.toList_ofList, String.toList_ofList, hmark, hbody, List.flatMap_singleton']

theorem quotedAscii_of_plain {cs : List Char} (h : Plain cs) :
    (Text.quotedAscii (String.ofList cs)).toList = '\'' :: cs ++ ['\''] := by
  have hascii : ∀ c ∈ '\'' :: cs ++ ['\''], c.toNat < 128 := by
    intro c hc
    rcases List.mem_append.1 hc with hc | hc
    · rcases List.mem_cons.1 hc with rfl | hc
      · decide
      · have := (h c hc).1.2
        omega
    · rw [List.mem_singleton.1 hc]
      decide
  unfold Text.quotedAscii
  rw [String.toList_ofList, quoted_of_plain h]
  refine (List.flatMap_congr fun c hc => if_pos (hascii c hc)).trans ?_
  exact List.flatMap_singleton' _

/-! ## Values -/

/-- A layout looks at a text for its length only. -/
theorem Layout.length_apply_eq (layout : Layout) {left right : List Char}
    (h : left.length = right.length) :
    (layout.apply left).length = (layout.apply right).length := by
  unfold Layout.apply
  cases layout.precision with
  | none => simp [h]
  | some n => simp [h]

namespace Found

/-- What two expansions find under one name: the same, or plain texts of the same length. -/
inductive Alike : Found → Found → Prop where
  | same (found : Found) : Alike found found
  | plain {left right : List Char} (hlength : left.length = right.length) (hleft : Plain left)
      (hright : Plain right) : Alike (text left) (text right)

/-! ## Accesses -/

section

variable [Objects]

theorem item_text_eq_ok {cs : List Char} {index : Index} {found : Found}
    (h : (text cs).item index = .ok found) : ∃ c ∈ cs, found = text [c] := by
  cases index with
  | name text => cases h
  | number n =>
    dsimp only [item] at h
    split at h
    · cases h
    · rename_i c hc
      cases h
      exact ⟨c, List.mem_of_getElem? hc, rfl⟩

theorem Alike.item {left right left' right' : Found} (h : Alike left right) {index : Index}
    (hleft : left.item index = .ok left') (hright : right.item index = .ok right') :
    Alike left' right' := by
  cases h with
  | same =>
    rw [hleft] at hright
    cases hright
    exact .same _
  | plain _ hplain hplain' =>
    -- one character of each text
    obtain ⟨c, hc, rfl⟩ := item_text_eq_ok hleft
    obtain ⟨d, hd, rfl⟩ := item_text_eq_ok hright
    refine .plain rfl ?_ ?_
    · intro x hx
      rw [List.mem_singleton.1 hx]
      exact hplain c hc
    · intro x hx
      rw [List.mem_singleton.1 hx]
      exact hplain' d hd

end

end Found

section

variable [Objects]

/-- The index that stands in square brackets: a number, or else a name. -/
def indexOf (name : List Char) (index? : Option Nat) : Index :=
  match index? with
  | some n => .number n
  | none => .name (String.ofList name)

/-- What an access in square brackets needs. -/
theorem follow_item_eq_ok {found out : Found} {rest : List Char}
    (h : follow found ('[' :: rest) = .ok out) :
    let name := rest.takeWhile (· ≠ ']')
    ∃ bracket more index? inner, rest.drop name.length = bracket :: more ∧
      wholeNumber? name = .ok index? ∧ found.item (indexOf name index?) = .ok inner ∧
      follow inner more = .ok out := by
  rw [follow] at h
  split at h
  · cases h
  · rename_i bracket more hmore
    split at h
    · cases h
    · rename_i index? hindex
      split at h
      · cases h
      · dsimp only at h
        split at h
        · cases h
        · rename_i inner hinner
          exact ⟨bracket, more, index?, inner, hmore, hindex, hinner, h⟩

/-- The same accesses into values alike give values alike, as long as nothing is asked for by a name
behind a point. -/
theorem Found.Alike.follow {left right left' right' : Found} (h : Alike left right)
    {cs : List Char} (hpoint : '.' ∉ cs) (hleft : follow left cs = .ok left')
    (hright : follow right cs = .ok right') : Alike left' right' := by
  -- the induction is on the accesses into the value on the left
  fun_induction Template.follow left cs generalizing right with
  | case1 left =>
    rw [Template.follow] at hright
    cases hleft
    cases hright
    exact h
  | case4 => exact absurd List.mem_cons_self hpoint
  -- the same access on the right goes to the same index, and its value is alike
  | case9 left rest name bracket more hmore index? hindex _ index inner hitem =>
    rename_i ih
    obtain ⟨_, _, index', inner', hmore', hindex', hitem', hright⟩ := follow_item_eq_ok hright
    rw [hmore] at hmore'
    rw [hindex] at hindex'
    cases hmore'
    cases hindex'
    have hmem : more ⊆ '[' :: rest := by
      have hsuffix : bracket :: more <:+ rest := hmore ▸ List.drop_suffix _ _
      exact fun c hc => List.mem_cons_of_mem _ (hsuffix.subset (List.mem_cons_of_mem _ hc))
    exact ih (h.item hitem hitem') (fun hmore => hpoint (hmem hmore)) hleft hright
  | _ => cases hleft

/-! ## Conversions -/

/-- What two expansions find after a conversion: the same, or texts of the same length. -/
inductive Found.Even : Found → Found → Prop where
  | same (found : Found) : Even found found
  | text {left right : List Char} (hlength : left.length = right.length) :
      Even (text left) (text right)

/-- A conversion of values alike gives texts of the same length. -/
theorem Found.Alike.convert {left right left' right' : Found} (h : Alike left right)
    {conversion : Option Char} (hleft : convert left conversion = .ok left')
    (hright : convert right conversion = .ok right') : Even left' right' := by
  cases h with
  | same =>
    rw [hleft] at hright
    cases hright
    exact .same _
  | plain hlength hplain hplain' =>
    unfold Template.convert at hleft hright
    cases conversion with
    | none =>
      cases hleft
      cases hright
      exact .text hlength
    | some c =>
      dsimp only at hleft hright
      split at hleft
      · -- the text itself
        rw [if_pos ‹_›] at hright
        cases hleft
        cases hright
        exact .text hlength
      rw [if_neg ‹_›] at hright
      split at hleft
      · -- a literal
        rw [if_pos ‹_›] at hright
        cases hleft
        cases hright
        refine .text ?_
        simp [quoted_of_plain hplain, quoted_of_plain hplain', hlength]
      rw [if_neg ‹_›] at hright
      split at hleft
      · -- a literal in ASCII
        rw [if_pos ‹_›] at hright
        cases hleft
        cases hright
        refine .text ?_
        simp [quotedAscii_of_plain hplain, quotedAscii_of_plain hplain', hlength]
      · cases hleft

/-! ## Layouts -/

theorem Found.Even.length_layOut {left right : Found} (h : Even left right)
    {layout cs ds : List Char} (hleft : layOut left layout = .ok cs)
    (hright : layOut right layout = .ok ds) : cs.length = ds.length := by
  cases h with
  | same =>
    rw [hleft] at hright
    cases hright
    rfl
  | text hlength =>
    -- an empty layout puts out the text; any other one is the same for both
    unfold layOut at hleft hright
    dsimp only at hleft hright
    split at hleft
    · rename_i hempty
      rw [if_pos hempty] at hright
      cases hleft
      cases hright
      exact hlength
    · rename_i hgiven
      rw [if_neg hgiven] at hright
      cases hread : Layout.ofText layout with
      | error flaw =>
        rw [hread] at hleft
        cases hleft
      | ok read =>
        rw [hread] at hleft hright
        dsimp only at hleft hright
        split at hleft
        · rename_i hfits
          rw [if_pos hfits] at hright
          cases hleft
          cases hright
          exact read.length_apply_eq hlength
        · cases hleft

end

end As2Exchange.Template
