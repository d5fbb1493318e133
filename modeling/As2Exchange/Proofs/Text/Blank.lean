import As2Exchange.Text.Blank

/-!
# Trimming

What dropping a class of characters from both ends does to a list of characters.

- `isBlank_printable` tells the blanks among printable characters;
- `trimBoth_split` parts a list into what is dropped and what is kept;
- `trimBoth_of_ends` says that a list with other characters at its ends is kept whole;
- `trimBoth_surrounded` says that characters of the class may be put around a list.
-/

namespace As2Exchange.Text

variable {drop : Char → Bool} {cs : List Char}

/-! ## Printable characters -/

/-- Whether all characters of a text have a property is decided by going through the text, not
through all the characters there are. -/
instance (priority := 2000) decidableForallMem {p : Char → Prop} [DecidablePred p]
    (cs : List Char) : Decidable (∀ c ∈ cs, p c) := List.decidableBAll p cs

/-- The space is the only blank among printable ASCII characters. -/
theorem isBlank_printable {c : Char} (hlow : 32 ≤ c.toNat) (hhigh : c.toNat ≤ 126) :
    isBlank c = true ↔ c = ' ' := by
  -- there are few enough of them to go through
  have hall : ∀ n < 127, 32 ≤ n → (isBlank (Char.ofNat n) = true ↔ Char.ofNat n = ' ') := by
    decide +kernel
  have hc := hall c.toNat (by omega) hlow
  rwa [Char.ofNat_toNat] at hc

/-! ## What is dropped -/

/-- Trimming drops characters of the class in front and at the end, and nothing else. -/
theorem trimBoth_split (drop : Char → Bool) (cs : List Char) :
    ∃ front back, cs = front ++ trimBoth drop cs ++ back ∧
      (∀ c ∈ front, drop c = true) ∧ (∀ c ∈ back, drop c = true) := by
  -- the front is what the class takes from the left, the back what it takes from the right
  refine ⟨cs.takeWhile drop, ((cs.dropWhile drop).reverse.takeWhile drop).reverse, ?_, ?_, ?_⟩
  · have hback : trimBoth drop cs ++ ((cs.dropWhile drop).reverse.takeWhile drop).reverse =
        cs.dropWhile drop := by
      rw [trimBoth, ← List.reverse_append, List.takeWhile_append_dropWhile, List.reverse_reverse]
    rw [List.append_assoc, hback, List.takeWhile_append_dropWhile]
  · intro c hc
    exact List.all_eq_true.1 (List.all_takeWhile) c hc
  · intro c hc
    exact List.all_eq_true.1 (List.all_takeWhile) c (List.mem_reverse.1 hc)

/-! ## What is kept -/

/-- A list that ends in characters of another class on both sides is kept whole. -/
theorem trimBoth_of_ends (hfirst : ∀ c, cs.head? = some c → drop c = false)
    (hlast : ∀ c, cs.getLast? = some c → drop c = false) : trimBoth drop cs = cs := by
  -- nothing is dropped in front, and nothing in front of the reversed list
  have keep : ∀ {l : List Char}, (∀ c, l.head? = some c → drop c = false) →
      l.dropWhile drop = l := by
    intro l hl
    cases l with
    | nil => rfl
    | cons c l => rw [List.dropWhile_cons, if_neg (by simp [hl c rfl])]
  have hreverse : ∀ c, cs.reverse.head? = some c → drop c = false := by
    intro c hc
    exact hlast c (by rwa [List.head?_reverse] at hc)
  rw [trimBoth, keep hfirst, keep hreverse, List.reverse_reverse]

theorem trimBoth_of_forall (h : ∀ c ∈ cs, drop c = false) : trimBoth drop cs = cs :=
  trimBoth_of_ends (fun c hc => h c (List.mem_of_head? hc))
    (fun c hc => h c (List.mem_of_getLast? hc))

/-! ## What is put around -/

/-- Characters of the class in front of a list and behind it make no difference. -/
theorem trimBoth_surrounded {front back : List Char} (hfront : ∀ c ∈ front, drop c = true)
    (hback : ∀ c ∈ back, drop c = true) :
    trimBoth drop (front ++ cs ++ back) = trimBoth drop cs := by
  have hnil : back.dropWhile drop = [] := by
    have hall : (back ++ []).dropWhile drop = [].dropWhile drop :=
      List.dropWhile_append_of_pos hback
    rwa [List.append_nil] at hall
  rw [trimBoth, trimBoth, List.append_assoc, List.dropWhile_append_of_pos hfront,
    List.dropWhile_append]
  split
  · -- all of the list is dropped, and then all of what follows
    rename_i hempty
    rw [List.isEmpty_iff.1 hempty, hnil]
  · rw [List.reverse_append, List.dropWhile_append_of_pos]
    intro c hc
    exact hback c (List.mem_reverse.1 hc)

theorem trimBoth_trimBoth (drop : Char → Bool) (cs : List Char) :
    trimBoth drop (trimBoth drop cs) = trimBoth drop cs := by
  obtain ⟨front, back, hsplit, hfront, hback⟩ := trimBoth_split drop cs
  have hsurrounded : trimBoth drop (front ++ trimBoth drop cs ++ back) =
      trimBoth drop (trimBoth drop cs) := trimBoth_surrounded hfront hback
  rw [← hsplit] at hsurrounded
  exact hsurrounded.symm

/-- Nothing is kept of a list just if all its characters are of the class. -/
theorem trimBoth_eq_nil_iff : trimBoth drop cs = [] ↔ ∀ c ∈ cs, drop c = true := by
  obtain ⟨front, back, hsplit, hfront, hback⟩ := trimBoth_split drop cs
  constructor
  · intro h c hc
    rw [h, List.append_nil] at hsplit
    rw [hsplit] at hc
    rcases List.mem_append.1 hc with hc | hc
    · exact hfront c hc
    · exact hback c hc
  · intro h
    -- all of the list is in front of nothing
    have hnil : trimBoth drop (cs ++ [] ++ []) = trimBoth drop [] :=
      trimBoth_surrounded h fun c hc => absurd hc List.not_mem_nil
    rwa [List.append_nil, List.append_nil] at hnil

theorem head?_trimBoth {c : Char} (h : (trimBoth drop cs).head? = some c) : drop c = false := by
  -- trimming the end leaves the front as it is
  have hsuffix := List.dropWhile_suffix (l := (cs.dropWhile drop).reverse) drop
  have hfront : trimBoth drop cs <+: cs.dropWhile drop := by
    rw [← List.reverse_suffix, trimBoth, List.reverse_reverse]
    exact hsuffix
  have hhead := List.head?_dropWhile_not drop cs
  obtain ⟨rest, hrest⟩ := hfront
  rw [← hrest, List.head?_append, h] at hhead
  exact hhead

theorem getLast?_trimBoth {c : Char} (h : (trimBoth drop cs).getLast? = some c) :
    drop c = false := by
  have hhead := List.head?_dropWhile_not drop (cs.dropWhile drop).reverse
  rw [trimBoth, List.getLast?_reverse] at h
  rw [h] at hhead
  exact hhead

theorem trimBoth_eq_self_iff : trimBoth drop cs = cs ↔
    (∀ c, cs.head? = some c → drop c = false) ∧ ∀ c, cs.getLast? = some c → drop c = false := by
  constructor
  · intro h
    refine ⟨fun c hc => ?_, fun c hc => ?_⟩
    · have hfirst : (trimBoth drop cs).head? = some c := by rw [h, hc]
      exact head?_trimBoth hfirst
    · have hlast : (trimBoth drop cs).getLast? = some c := by rw [h, hc]
      exact getLast?_trimBoth hlast
  · rintro ⟨hfirst, hlast⟩
    exact trimBoth_of_ends hfirst hlast

end As2Exchange.Text
