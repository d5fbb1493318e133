import As2Exchange.Text.Case
import As2Exchange.Proofs.Text.Blank
import Mathlib.Data.List.Infix

/-!
# Words in lower-case texts

The lower-case form of a text depends on the context of a letter only where it meets a capital
sigma. So whether a word without sigmas occurs in the lower-case form can be told letter by letter,
and blanks at the ends of the text do not matter for it.

- `occursIn_iff` reads `occursIn` as the infix relation of lists;
- `lower_toList` writes the lower-case form as a recursion on the characters;
- `infix_lower_between_iff` looks on both sides of a mark;
- `infix_lower_strip_iff` drops the blanks at the ends.
-/

namespace As2Exchange.Text

/-! ## Occurrences -/

theorem occursIn_iff {part whole : List Char} : occursIn part whole = true ↔ part <:+: whole := by
  induction whole with
  | nil => simp [occursIn, List.isEmpty_iff]
  | cons c rest ih =>
    rw [occursIn, Bool.or_eq_true, ih, List.isPrefixOf_iff_prefix, List.infix_cons_iff]

/-- A map that neither moves the characters of a word nor sends others to them keeps the
occurrences of the word. -/
theorem infix_map_iff {word cs : List Char} {f : Char → Char}
    (h : ∀ c ∈ word, ∀ x, f x = c ↔ x = c) : word <:+: cs.map f ↔ word <:+: cs := by
  constructor
  · rintro ⟨front, back, hcs⟩
    obtain ⟨whole, back', rfl, hwhole, -⟩ := List.map_eq_append_iff.1 hcs.symm
    obtain ⟨front', word', rfl, -, hword⟩ := List.map_eq_append_iff.1 hwhole
    -- the place of the word in the image is the place of the word itself
    have hsame : word' = word := by
      rw [← hword]
      refine (List.map_id word').symm.trans (List.map_congr_left fun x hx => ?_)
      exact (h (f x) (hword ▸ List.mem_map_of_mem hx) x).1 rfl
    exact ⟨front', back', by rw [hsame]⟩
  · rintro ⟨front, back, rfl⟩
    have hword : word.map f = word := by
      conv_rhs => rw [← List.map_id word]
      exact List.map_congr_left fun x hx => (h x hx x).2 rfl
    exact ⟨front.map f, back.map f, by simp [hword]⟩

/-- Characters that are not in a word may be dropped in front of where it occurs. -/
theorem infix_append_left_iff {word front cs : List Char} (hne : word ≠ [])
    (h : ∀ c ∈ front, c ∉ word) : word <:+: front ++ cs ↔ word <:+: cs := by
  induction front with
  | nil => rfl
  | cons c front ih =>
    rw [List.cons_append, List.infix_cons_iff, ih fun d hd => h d (List.mem_cons_of_mem _ hd)]
    -- the word would have to begin with a character that is not in it
    refine or_iff_right fun hprefix => ?_
    obtain ⟨d, word, rfl⟩ := List.exists_cons_of_ne_nil hne
    have hdc : d = c := (List.cons_prefix_cons.1 hprefix).1
    exact h c (List.mem_cons_self ..) (hdc ▸ List.mem_cons_self ..)

theorem infix_append_right_iff {word cs back : List Char} (hne : word ≠ [])
    (h : ∀ c ∈ back, c ∉ word) : word <:+: cs ++ back ↔ word <:+: cs := by
  rw [← List.reverse_infix, List.reverse_append,
    infix_append_left_iff (by simpa using hne) (by simpa using h), List.reverse_infix]

/-- A character that is not in a word divides a text for it: the word occurs in front of it or
behind. -/
theorem infix_between_iff {word front back : List Char} {c : Char} (hc : c ∉ word) :
    word <:+: front ++ c :: back ↔ word <:+: front ∨ word <:+: back := by
  constructor
  · rintro ⟨before, behind, h⟩
    rcases List.append_eq_append_iff.1 h with ⟨rest, hfront, -⟩ | ⟨rest, hword, hback⟩
    · -- the word ends before the character
      exact .inl ⟨before, rest, hfront.symm⟩
    rcases List.cons_eq_append_iff.1 hback with ⟨rfl, -⟩ | ⟨rest', rfl, hrest⟩
    · exact .inl ⟨before, [], by rw [hword, List.append_nil, List.append_nil]⟩
    rcases List.append_eq_append_iff.1 hword with ⟨part, -, rfl⟩ | ⟨part, -, hpart⟩
    · -- the character would be in the word
      exact absurd (by simp) hc
    rcases List.cons_eq_append_iff.1 hpart with ⟨-, rfl⟩ | ⟨part', -, hpart'⟩
    · exact absurd List.mem_cons_self hc
    · exact .inr ⟨part', behind, by rw [hrest, hpart']⟩
  · rintro (⟨before, behind, rfl⟩ | ⟨before, behind, rfl⟩)
    · exact ⟨before, behind ++ c :: back, by simp⟩
    · exact ⟨front ++ c :: before, behind, by simp⟩

/-! ## Lower case, letter by letter -/

/-- The lower-case form of a character between those before it, the nearest first, and those after
it. -/
def lowerAt (before : List Char) (c : Char) (rest : List Char) : List Char :=
  if c = 'İ' then ['i', '\u0307']
  else if c = 'Σ' then [if nextIsCased before && !nextIsCased rest then 'ς' else 'σ']
  else [lowerChar c]

/-- The lower-case form of characters behind others. -/
def lowerBehind (before : List Char) : List Char → List Char
  | [] => []
  | c :: rest => lowerAt before c rest ++ lowerBehind (c :: before) rest

theorem lowerFrom_eq (before cs done : List Char) :
    lowerFrom before cs done = done.reverse ++ lowerBehind before cs := by
  induction cs generalizing before done with
  | nil => simp [lowerFrom, lowerBehind]
  | cons c rest ih =>
    rw [lowerFrom, ih, lowerBehind, lowerAt]
    split
    · simp
    · split <;> simp

theorem lower_toList (text : String) : (lower text).toList = lowerBehind [] text.toList := by
  simp [lower, lowerFrom_eq]

theorem lowerBehind_ascii {cs : List Char} (h : ∀ c ∈ cs, c.toNat < 128) (before : List Char) :
    lowerBehind before cs = cs.map Char.toLower := by
  induction cs generalizing before with
  | nil => rfl
  | cons c cs ih =>
    have hc := h c List.mem_cons_self
    have hother : ∀ d : Char, 128 ≤ d.toNat → c ≠ d := by
      rintro d hd rfl
      omega
    rw [lowerBehind, ih fun d hd => h d (List.mem_cons_of_mem _ hd), lowerAt,
      if_neg (hother _ (by decide)), if_neg (hother _ (by decide)), lowerChar, if_pos hc]
    rfl

/-- In ASCII each letter has its own lower-case form. -/
theorem lower_ascii {text : String} (h : ∀ c ∈ text.toList, c.toNat < 128) :
    (lower text).toList = text.toList.map Char.toLower := by
  rw [lower_toList, lowerBehind_ascii h]

/-! ## Lower case without context -/

/-- Makes the two small sigmas one. -/
def mergeSigma (c : Char) : Char := if c = 'ς' then 'σ' else c

/-- The lower-case form of a character, the two small sigmas made one. -/
def lowerAlone (c : Char) : List Char := (lowerAt [] c []).map mergeSigma

theorem map_mergeSigma_lowerAt (before rest : List Char) (c : Char) :
    (lowerAt before c rest).map mergeSigma = lowerAlone c := by
  unfold lowerAlone lowerAt
  split
  · rfl
  · split
    · -- either small sigma is merged to the same one, whatever the context says
      split <;> split <;> rfl
    · rfl

theorem map_mergeSigma_lowerBehind (before cs : List Char) :
    (lowerBehind before cs).map mergeSigma = cs.flatMap lowerAlone := by
  induction cs generalizing before with
  | nil => rfl
  | cons c rest ih =>
    rw [lowerBehind, List.map_append, map_mergeSigma_lowerAt, ih, List.flatMap_cons]

def WithoutSigma (word : List Char) : Prop := 'σ' ∉ word ∧ 'ς' ∉ word

instance (word : List Char) : Decidable (WithoutSigma word) :=
  inferInstanceAs (Decidable (_ ∧ _))

/-- A word without sigmas occurs in the lower-case form of a text just if it does so letter by
letter. -/
theorem infix_lower_iff {word : List Char} (h : WithoutSigma word) (text : String) :
    word <:+: (lower text).toList ↔ word <:+: text.toList.flatMap lowerAlone := by
  rw [lower_toList, ← map_mergeSigma_lowerBehind [], infix_map_iff]
  intro c hc x
  have hsmall : c ≠ 'σ' := fun hs => h.1 (hs ▸ hc)
  have hfinal : c ≠ 'ς' := fun hs => h.2 (hs ▸ hc)
  unfold mergeSigma
  split
  · -- a final sigma is neither in the word nor sent to it
    rename_i hx
    subst hx
    exact ⟨fun he => absurd he.symm hsmall, fun he => absurd he.symm hfinal⟩
  · rfl

/-- A mark that is its own lower-case form divides a text for a word that it is not in. -/
theorem infix_lower_between_iff {word : List Char} (hsigma : WithoutSigma word) {c : Char}
    (hlower : lowerAlone c = [c]) (hc : c ∉ word) (front back : String) :
    word <:+: (lower (front ++ String.singleton c ++ back)).toList ↔
      word <:+: (lower front).toList ∨ word <:+: (lower back).toList := by
  rw [infix_lower_iff hsigma, infix_lower_iff hsigma, infix_lower_iff hsigma,
    ← infix_between_iff hc, String.toList_append, String.toList_append, String.toList_singleton,
    List.append_assoc, List.flatMap_append, List.singleton_append, List.flatMap_cons, hlower]
  rfl

/-! ## Blanks at the ends -/

/-- The blank characters, in order. -/
def blanks : List Char :=
  blankRanges.flatMap fun range =>
    (List.range (range.2 + 1 - range.1)).map fun i => Char.ofNat (range.1 + i)

theorem mem_blanks {c : Char} (h : isBlank c = true) : c ∈ blanks := by
  obtain ⟨range, hrange, hlow, hhigh⟩ := inRanges_iff.1 h
  refine List.mem_flatMap.2 ⟨range, hrange, List.mem_map.2 ⟨c.toNat - range.1, ?_, ?_⟩⟩
  · exact List.mem_range.2 (by omega)
  · rw [Nat.add_sub_cancel' hlow, Char.ofNat_toNat]

/-- Blanks have no other case. -/
theorem lowerAlone_of_isBlank {c : Char} (h : isBlank c = true) : lowerAlone c = [c] := by
  have hall : ∀ b ∈ blanks, lowerAlone b = [b] := by decide +kernel
  exact hall c (mem_blanks h)

theorem flatMap_lowerAlone_of_isBlank {cs : List Char} (h : ∀ c ∈ cs, isBlank c = true) :
    cs.flatMap lowerAlone = cs := by
  induction cs with
  | nil => rfl
  | cons c cs ih =>
    rw [List.flatMap_cons, lowerAlone_of_isBlank (h c (List.mem_cons_self ..)),
      ih fun d hd => h d (List.mem_cons_of_mem _ hd)]
    rfl

/-- Whether a word without sigmas and blanks occurs in the lower-case form of a text does not hang
on the blanks at the ends of the text. -/
theorem infix_lower_strip_iff {word : List Char} (hne : word ≠ []) (hsigma : WithoutSigma word)
    (hblank : ∀ c ∈ word, isBlank c = false) (text : String) :
    word <:+: (lower (strip text)).toList ↔ word <:+: (lower text).toList := by
  obtain ⟨front, back, hsplit, hfront, hback⟩ := trimBoth_split isBlank text.toList
  -- what was trimmed is blank, and no blank is in the word
  have hfresh : ∀ {cs : List Char}, (∀ c ∈ cs, isBlank c = true) → ∀ c ∈ cs, c ∉ word := by
    intro cs hcs c hc hword
    have hb := hblank c hword
    rw [hcs c hc] at hb
    cases hb
  rw [infix_lower_iff hsigma, infix_lower_iff hsigma, hsplit, List.flatMap_append,
    List.flatMap_append, flatMap_lowerAlone_of_isBlank hfront, flatMap_lowerAlone_of_isBlank hback,
    infix_append_right_iff hne (hfresh hback), infix_append_left_iff hne (hfresh hfront), strip,
    String.toList_ofList]

end As2Exchange.Text
