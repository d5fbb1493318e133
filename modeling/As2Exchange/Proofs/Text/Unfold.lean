import As2Exchange.Proofs.Text.Blank

/-!
# Runs of blanks

Joining the words of a text by single spaces is the same as putting one space in the place of each
run of blanks and trimming the ends.

- `unfold_eq` says so for every text;
- `squeeze_eq_self_iff` says which characters stay as they are;
- `tidy_pair` is a text of two words.
-/

namespace As2Exchange.Text

/-! ## Squeezing -/

/-- Puts one space in the place of each run of blanks. -/
def squeeze : List Char → List Char
  | [] => []
  | c :: rest => if isBlank c then ' ' :: (squeeze rest).dropWhile isBlank else c :: squeeze rest

theorem squeeze_cons_of_blank {c : Char} (h : isBlank c = true) (rest : List Char) :
    squeeze (c :: rest) = ' ' :: (squeeze rest).dropWhile isBlank := if_pos h

theorem squeeze_cons_of_not {c : Char} (h : isBlank c = false) (rest : List Char) :
    squeeze (c :: rest) = c :: squeeze rest := if_neg (by simp [h])

/-- A text on one line, with single spaces in it and none at its ends. -/
def tidy (text : String) : String := strip (String.ofList (squeeze text.toList))

/-! ## Joined words -/

/-- Characters without the blanks at their end. -/
def trimEnd (cs : List Char) : List Char := (cs.reverse.dropWhile isBlank).reverse

/-- The words among characters, behind the word under way. -/
def wordsFrom (piece cs : List Char) : List (List Char) :=
  (pieces isBlank piece cs).filter (· ≠ [])

variable {cs : List Char}

theorem trimEnd_of_forall (h : ∀ c ∈ cs, isBlank c = false) : trimEnd cs = cs := by
  rw [trimEnd]
  cases hr : cs.reverse with
  | nil => exact (List.reverse_eq_nil_iff.1 hr).symm
  | cons c rest =>
    have hc := h c (List.mem_reverse.1 (by rw [hr]; exact List.mem_cons_self))
    rw [List.dropWhile_cons, if_neg (by simp [hc]), ← hr, List.reverse_reverse]

theorem trimEnd_append (h : trimEnd cs ≠ []) (front : List Char) :
    trimEnd (front ++ cs) = front ++ trimEnd cs := by
  have hne : cs.reverse.dropWhile isBlank ≠ [] := by
    intro hnil
    exact h (by rw [trimEnd, hnil]; rfl)
  rw [trimEnd, List.reverse_append, List.dropWhile_append, if_neg (by simpa using hne),
    List.reverse_append, List.reverse_reverse]
  rfl

theorem trimEnd_append_space (cs : List Char) : trimEnd (cs ++ [' ']) = trimEnd cs := by
  rw [trimEnd, List.reverse_append]
  rfl

theorem trimEnd_cons_ne_nil {c : Char} (hc : isBlank c = false) (rest : List Char) :
    trimEnd (c :: rest) ≠ [] := by
  rw [trimEnd, List.reverse_cons, List.dropWhile_append]
  split
  · rw [List.dropWhile_cons, if_neg (by simp [hc])]
    simp
  · simp

theorem dropWhile_cons_not {c : Char} {rest : List Char} (h : cs.dropWhile isBlank = c :: rest) :
    isBlank c = false := by
  have hhead := List.head?_dropWhile_not isBlank cs
  rw [h] at hhead
  simpa using hhead

theorem dropWhile_dropWhile (cs : List Char) :
    (cs.dropWhile isBlank).dropWhile isBlank = cs.dropWhile isBlank := by
  cases h : cs.dropWhile isBlank with
  | nil => rfl
  | cons c rest => rw [List.dropWhile_cons, if_neg (by simp [dropWhile_cons_not h])]

/-- Words joined by spaces are empty only if there is no word. -/
theorem join_eq_nil {ws : List (List Char)} (h : ∀ w ∈ ws, w ≠ []) :
    [' '].intercalate ws = [] ↔ ws = [] := by
  constructor
  · intro hnil
    cases ws with
    | nil => rfl
    | cons w ws =>
      have hw := h w List.mem_cons_self
      cases ws with
      | nil =>
        rw [List.intercalate_singleton] at hnil
        exact absurd hnil hw
      | cons w' ws =>
        rw [List.intercalate_cons_cons] at hnil
        simp at hnil
  · rintro rfl
    rfl

theorem wordsFrom_ne_nil {piece : List Char} : ∀ w ∈ wordsFrom piece cs, w ≠ [] := by
  intro w hw
  simpa using (List.mem_filter.1 hw).2

/-- The words joined by spaces: by induction on the characters, once with no word under way and
once with one. -/
theorem join_wordsFrom (cs : List Char) :
    [' '].intercalate (wordsFrom [] cs) = trimEnd ((squeeze cs).dropWhile isBlank) ∧
    ∀ word, word ≠ [] → (∀ c ∈ word, isBlank c = false) →
      [' '].intercalate (wordsFrom word.reverse cs) = trimEnd (word ++ squeeze cs) := by
  induction cs with
  | nil =>
    refine ⟨rfl, fun word hne hword => ?_⟩
    rw [wordsFrom, pieces, List.reverse_reverse, List.filter_cons_of_pos (by simpa using hne),
      squeeze, List.append_nil, trimEnd_of_forall hword]
    exact List.intercalate_singleton
  | cons c rest ih =>
    obtain ⟨ihnone, ihword⟩ := ih
    cases hc : isBlank c with
    | false =>
      -- the character begins a word, or goes on with the one under way
      have hpieces : ∀ piece, wordsFrom piece (c :: rest) = wordsFrom (c :: piece) rest := by
        intro piece
        rw [wordsFrom, pieces, if_neg (by simp [hc])]
        rfl
      have hsqueeze := squeeze_cons_of_not hc rest
      refine ⟨?_, fun word hne hword => ?_⟩
      · rw [hpieces, hsqueeze, List.dropWhile_cons, if_neg (by simp [hc])]
        exact ihword [c] (by simp) (by simpa using hc)
      · rw [hpieces, hsqueeze]
        have h := ihword (word ++ [c]) (by simp) (by
          intro c' hc'
          rcases List.mem_append.1 hc' with hc' | hc'
          · exact hword c' hc'
          · rw [List.mem_singleton.1 hc', hc])
        rwa [List.reverse_append, List.append_assoc] at h
    | true =>
      -- a blank ends the word under way
      have hsqueeze := squeeze_cons_of_blank hc rest
      have hpieces : ∀ piece, wordsFrom piece (c :: rest) =
          [piece.reverse].filter (· ≠ []) ++ wordsFrom [] rest := by
        intro piece
        rw [wordsFrom, pieces, if_pos hc, ← List.singleton_append, List.filter_append]
        rfl
      refine ⟨?_, fun word hne hword => ?_⟩
      · rw [hpieces, hsqueeze, List.dropWhile_cons, if_pos (by decide), dropWhile_dropWhile]
        exact ihnone
      · have hjoin : [' '].intercalate (wordsFrom word.reverse (c :: rest)) =
            [' '].intercalate (word :: wordsFrom [] rest) := by
          rw [hpieces, List.reverse_reverse, List.filter_cons_of_pos (by simpa using hne)]
          rfl
        rw [hjoin, hsqueeze]
        -- either no word follows, or the space stands in front of the next one
        cases hafter : (squeeze rest).dropWhile isBlank with
        | nil =>
          rw [hafter] at ihnone
          have hnone := (join_eq_nil wordsFrom_ne_nil).1 ihnone
          rw [hnone, trimEnd_append_space, trimEnd_of_forall hword]
          exact List.intercalate_singleton
        | cons d after =>
          have hne' := trimEnd_cons_ne_nil (dropWhile_cons_not hafter) after
          have hwords : wordsFrom [] rest ≠ [] := by
            intro hnil
            rw [hnil, hafter] at ihnone
            exact hne' ihnone.symm
          have happend := trimEnd_append hne' (word ++ [' '])
          rw [List.append_assoc] at happend
          rw [List.intercalate_cons_of_ne_nil hwords, ihnone, hafter]
          exact happend.symm

/-- **Unfolding tidies a text.** -/
theorem unfold_eq (text : String) : unfold text = tidy text := by
  apply String.toList_inj.1
  have hwords : (words text).map String.toList = wordsFrom [] text.toList := by
    have hid : String.toList ∘ String.ofList = id := funext fun _ => String.toList_ofList
    rw [words, List.map_map, wordsFrom, hid, List.map_id]
  have hsingle : " ".toList = [' '] := by decide
  rw [unfold, String.toList_intercalate, hwords, hsingle, (join_wordsFrom text.toList).1, tidy,
    strip, String.toList_ofList, String.toList_ofList]
  rfl

/-- Spaces in front of a text make no difference. -/
theorem tidy_dropWhile_space (cs : List Char) :
    tidy (String.ofList (cs.dropWhile (· = ' '))) = tidy (String.ofList cs) := by
  induction cs with
  | nil => rfl
  | cons c cs ih =>
    by_cases hc : c = ' '
    · -- the space is trimmed on the other side
      subst hc
      have hdrop : trimBoth isBlank (squeeze (' ' :: cs)) = trimBoth isBlank (squeeze cs) := by
        rw [squeeze, if_pos (by decide), trimBoth, List.dropWhile_cons, if_pos (by decide),
          dropWhile_dropWhile]
        rfl
      rw [List.dropWhile_cons, if_pos (by simp), ih]
      simp only [tidy, strip, String.toList_ofList, hdrop]
    · rw [List.dropWhile_cons, if_neg (by simpa using hc)]

/-! ## What stays -/

theorem squeeze_of_forall (h : ∀ c ∈ cs, isBlank c = false) : squeeze cs = cs := by
  induction cs with
  | nil => rfl
  | cons c rest ih =>
    rw [squeeze_cons_of_not (h c List.mem_cons_self),
      ih fun c' hc' => h c' (List.mem_cons_of_mem _ hc')]

theorem length_squeeze_le (cs : List Char) : (squeeze cs).length ≤ cs.length := by
  induction cs with
  | nil => exact Nat.le_refl 0
  | cons c rest ih =>
    cases hc : isBlank c with
    | true =>
      have hdrop := (List.dropWhile_sublist isBlank (l := squeeze rest)).length_le
      rw [squeeze_cons_of_blank hc, List.length_cons, List.length_cons]
      omega
    | false =>
      rw [squeeze_cons_of_not hc, List.length_cons, List.length_cons]
      omega

theorem squeeze_append {d : Char} (hd : isBlank d = false) (cs rest : List Char) :
    squeeze (cs ++ d :: rest) = squeeze cs ++ d :: squeeze rest := by
  induction cs with
  | nil => exact squeeze_cons_of_not hd rest
  | cons c cs ih =>
    cases hc : isBlank c with
    | true =>
      -- the blanks that follow end at the latest where `d` stands
      rw [List.cons_append, squeeze_cons_of_blank hc, squeeze_cons_of_blank hc, ih,
        List.dropWhile_append]
      split
      · rename_i hempty
        rw [List.isEmpty_iff.1 hempty, List.dropWhile_cons, if_neg (by simp [hd])]
        rfl
      · rfl
    | false =>
      rw [List.cons_append, squeeze_cons_of_not hc, squeeze_cons_of_not hc, ih]
      rfl

/-- Characters whose only blanks are spaces stay as they are just if no two spaces meet. -/
theorem squeeze_eq_self_iff (h : ∀ c ∈ cs, isBlank c = true → c = ' ') :
    squeeze cs = cs ↔ ¬ [' ', ' '] <:+: cs := by
  induction cs with
  | nil => simp [squeeze]
  | cons c rest ih =>
    have hrest := ih fun c' hc' => h c' (List.mem_cons_of_mem _ hc')
    rw [List.infix_cons_iff, not_or, ← hrest, List.cons_prefix_cons]
    cases hc : isBlank c with
    | false =>
      -- the first two characters are no spaces, so the rest decides
      have hne : c ≠ ' ' := by
        rintro rfl
        exact absurd hc (by decide)
      rw [squeeze_cons_of_not hc]
      constructor
      · intro heq
        exact ⟨fun hspaces => hne hspaces.1.symm, (List.cons.inj heq).2⟩
      · rintro ⟨-, heq⟩
        rw [heq]
    | true =>
      rw [squeeze_cons_of_blank hc, h c List.mem_cons_self hc]
      constructor
      · -- squeezing drops nothing of what follows, so what follows begins with no blank
        intro heq
        have hdrop := (List.cons.inj heq).2
        have hsuffix := List.dropWhile_suffix (l := squeeze rest) isBlank
        have hwhole : (squeeze rest).dropWhile isBlank = squeeze rest := by
          apply hsuffix.eq_of_length
          have hle := hsuffix.length_le
          have hsqueeze := length_squeeze_le rest
          rw [hdrop] at hle ⊢
          omega
        refine ⟨?_, by rw [← hwhole, hdrop]⟩
        rintro ⟨-, after, hafter⟩
        rw [← hafter] at hdrop
        exact absurd (dropWhile_cons_not hdrop) (by decide)
      · rintro ⟨hspaces, heq⟩
        rw [heq]
        cases rest with
        | nil => rfl
        | cons d after =>
          -- what follows the space is no second one
          have hd : isBlank d = false := by
            cases hblank : isBlank d with
            | false => rfl
            | true =>
              have hspace := h d (by simp) hblank
              exact absurd ⟨rfl, after, by rw [hspace]; rfl⟩ hspaces
          rw [List.dropWhile_cons, if_neg (by simp [hd])]

/-- Two words that are parted by a comma and a space are tidy. -/
theorem tidy_pair {left right : List Char} (hleft : ∀ c ∈ left, isBlank c = false)
    (hright : ∀ c ∈ right, isBlank c = false) (hne : right ≠ []) :
    tidy (String.ofList (left ++ ',' :: ' ' :: right)) =
      String.ofList (left ++ ',' :: ' ' :: right) := by
  have hspace : squeeze (' ' :: right) = ' ' :: right := by
    rw [squeeze_cons_of_blank (by decide), squeeze_of_forall hright]
    cases right with
    | nil => rfl
    | cons c rest => rw [List.dropWhile_cons, if_neg (by simp [hright c List.mem_cons_self])]
  have hsqueeze : squeeze (left ++ ',' :: ' ' :: right) = left ++ ',' :: ' ' :: right := by
    rw [squeeze_append (by decide), squeeze_of_forall hleft, hspace]
  unfold tidy strip
  rw [String.toList_ofList, String.toList_ofList, hsqueeze, trimBoth_of_ends]
  · intro c hc
    cases left with
    | nil =>
      cases hc
      decide
    | cons d rest =>
      cases hc
      exact hleft c List.mem_cons_self
  · intro c hc
    have happend : left ++ ',' :: ' ' :: right = (left ++ [',', ' ']) ++ right := by simp
    rw [happend, List.getLast?_append, List.getLast?_eq_some_getLast hne, Option.some_or] at hc
    rw [← List.getLast?_eq_some_getLast hne] at hc
    exact hright c (List.mem_of_getLast? hc)

end As2Exchange.Text
