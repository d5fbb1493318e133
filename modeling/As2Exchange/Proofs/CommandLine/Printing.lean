import As2Exchange.CommandLine.Run

/-!
# Printed lines

A line is printed without the terminal sequences in it. Partners choose the texts of their receipts,
so a summary may hold such sequences, and then it is not printed as it is.

- `IsTerminalSequence` says what is left out;
- `printed_eq_iff` says that just the lines without one are printed as they are.
-/

namespace As2Exchange.CommandLine

/-- An escape, a bracket, parameters and a letter. -/
def IsTerminalSequence (cs : List Char) : Prop := ∃ parameters letter,
  cs = '\x1b' :: '[' :: (parameters ++ [letter]) ∧
    (∀ c ∈ parameters, isTerminalParameter c = true) ∧ letter.isAlpha = true

/-- What can be held back: the start of a terminal sequence, last character first. -/
inductive Opening : List Char → Prop where
  | nothing : Opening []
  | escape : Opening ['\x1b']
  | parameters (cs : List Char) (h : ∀ c ∈ cs, isTerminalParameter c = true) :
      Opening (cs ++ ['[', '\x1b'])

/-- A character among the parameters or at the end of a sequence starts no other one. -/
theorem ne_escape {c : Char} (h : isTerminalParameter c = true ∨ c.isAlpha = true) :
    c ≠ '\x1b' := by
  rintro rfl
  revert h
  decide

theorem not_parameter_of_isAlpha {c : Char} (h : c.isAlpha = true) :
    isTerminalParameter c = false := by
  -- all parameters have smaller codes than the letters
  have hletter : 65 ≤ c.val.toNat := by
    rcases Bool.or_eq_true_iff.1 h with hupper | hlower
    · exact UInt32.le_iff_toNat_le.1 (of_decide_eq_true hupper).1
    · have ha : 'a'.val ≤ c.val := of_decide_eq_true (Bool.and_eq_true_iff.1 hlower).1
      exact Nat.le_trans (by decide) (UInt32.le_iff_toNat_le.1 ha)
  refine Bool.or_eq_false_iff.2 ⟨Bool.or_eq_false_iff.2 ⟨decide_eq_false ?_, decide_eq_false ?_⟩, ?_⟩
  · rintro rfl
    exact absurd hletter (by decide)
  · rintro rfl
    exact absurd hletter (by decide)
  · refine Bool.and_eq_false_iff.2 (.inr (decide_eq_false fun hdigit => ?_))
    exact absurd (Nat.le_trans hletter (UInt32.le_iff_toNat_le.1 hdigit)) (by decide)

/-! ## One character -/

/-- An escape brings out what is held back. -/
theorem withoutSequences_escape (held rest : List Char) :
    withoutSequences held ('\x1b' :: rest) = held.reverse ++ withoutSequences ['\x1b'] rest := by
  rw [withoutSequences.eq_def]
  exact if_pos rfl

/-- Any other character comes out with what is held back, is held back itself, or ends a sequence.
-/
theorem withoutSequences_cons {c : Char} (hc : c ≠ '\x1b') (held rest : List Char) :
    withoutSequences held (c :: rest) =
      match held with
      | [] => c :: withoutSequences [] rest
      | [escape] =>
        if c = '[' then withoutSequences [c, escape] rest
        else escape :: c :: withoutSequences [] rest
      | _ =>
        if isTerminalParameter c then withoutSequences (c :: held) rest
        else if c.isAlpha then withoutSequences [] rest
        else held.reverse ++ c :: withoutSequences [] rest := by
  rw [withoutSequences.eq_def]
  exact if_neg hc

theorem withoutSequences_parameters {parameters : List Char} {c : Char} (hc : c ≠ '\x1b')
    (rest : List Char) :
    withoutSequences (parameters ++ ['[', '\x1b']) (c :: rest) =
      if isTerminalParameter c then withoutSequences (c :: parameters ++ ['[', '\x1b']) rest
      else if c.isAlpha then withoutSequences [] rest
      else (parameters ++ ['[', '\x1b']).reverse ++ c :: withoutSequences [] rest := by
  rw [withoutSequences_cons hc]
  cases parameters with
  | nil => rfl
  -- more than two characters are held back only behind the bracket
  | cons parameter others =>
    cases others with
    | nil => rfl
    | cons _ _ => rfl

/-- With one character, what has come out and what is held back grow by at most one together. -/
theorem length_withoutSequences_cons (held : List Char) (c : Char) (rest : List Char) :
    ∃ out next, withoutSequences held (c :: rest) = out ++ withoutSequences next rest ∧
      out.length + next.length ≤ held.length + 1 := by
  by_cases hc : c = '\x1b'
  · subst hc
    exact ⟨held.reverse, ['\x1b'], withoutSequences_escape held rest, by simp⟩
  rw [withoutSequences_cons hc]
  -- nothing is held back, just the escape is, or a bracket and parameters are
  split
  · exact ⟨[c], [], rfl, by simp⟩
  · rename_i escape
    split
    · exact ⟨[], [c, escape], rfl, by simp⟩
    · exact ⟨[escape, c], [], rfl, by simp⟩
  · split
    · exact ⟨[], c :: held, rfl, by simp⟩
    · split
      · exact ⟨[], [], rfl, by simp⟩
      · exact ⟨held.reverse ++ [c], [], by simp, by simp⟩

/-! ## Lines without sequences -/

/-- Where there is no sequence, all that is held back comes out again. -/
theorem withoutSequences_of_none {held cs : List Char} (hheld : Opening held)
    (h : ∀ sequence, IsTerminalSequence sequence → ¬ sequence <:+: held.reverse ++ cs) :
    withoutSequences held cs = held.reverse ++ cs := by
  -- on the line, with what is held back: no end of it can become a sequence with what follows
  induction cs generalizing held with
  | nil => simp [withoutSequences]
  | cons c rest ih =>
    have hafter : ∀ sequence, IsTerminalSequence sequence → ¬ sequence <:+: c :: rest :=
      fun sequence hsequence hwithin =>
        h sequence hsequence (hwithin.trans (List.suffix_append _ _).isInfix)
    have hrest : ∀ sequence, IsTerminalSequence sequence → ¬ sequence <:+: rest :=
      fun sequence hsequence hwithin =>
        hafter sequence hsequence (hwithin.trans (List.suffix_cons c rest).isInfix)
    by_cases hc : c = '\x1b'
    · subst hc
      rw [withoutSequences_escape, ih .escape hafter]
      rfl
    cases hheld with
    | nothing =>
      rw [withoutSequences_cons hc]
      dsimp only
      rw [ih .nothing hrest]
      rfl
    | escape =>
      rw [withoutSequences_cons hc]
      dsimp only
      split
      · rename_i hbracket
        subst hbracket
        exact ih (.parameters [] (by simp)) h
      · rw [ih .nothing hrest]
        rfl
    | parameters parameters hparameters =>
      rw [withoutSequences_parameters hc]
      split
      · rename_i hparameter
        have hheld : Opening (c :: parameters ++ ['[', '\x1b']) :=
          .parameters (c :: parameters) (by simpa using ⟨hparameter, hparameters⟩)
        rw [ih hheld (by simpa using h)]
        simp
      · split
        · rename_i hletter
          -- the letter completes a sequence
          refine absurd ?_ (h ('\x1b' :: '[' :: (parameters.reverse ++ [c]))
            ⟨_, c, rfl, by simpa using hparameters, hletter⟩)
          exact ⟨[], rest, by simp⟩
        · rw [ih .nothing hrest]
          simp

/-! ## Lines with sequences -/

theorem length_withoutSequences_le (held cs : List Char) :
    (withoutSequences held cs).length ≤ held.length + cs.length := by
  induction cs generalizing held with
  | nil => simp [withoutSequences]
  | cons c rest ih =>
    obtain ⟨out, next, heq, hlength⟩ := length_withoutSequences_cons held c rest
    have hrest := ih next
    rw [heq, List.length_append, List.length_cons]
    omega

/-- A sequence is left out, whatever stands before it. -/
theorem withoutSequences_sequence {sequence : List Char} (h : IsTerminalSequence sequence)
    (held after : List Char) :
    withoutSequences held (sequence ++ after) = held.reverse ++ withoutSequences [] after := by
  obtain ⟨parameters, letter, rfl, hparameters, hletter⟩ := h
  have hbehind : ∀ read, withoutSequences (read ++ ['[', '\x1b']) (parameters ++ letter :: after) =
      withoutSequences [] after := by
    -- on the parameters, however many have been read before
    induction parameters with
    | nil =>
      intro read
      rw [List.nil_append, withoutSequences_parameters (ne_escape (.inr hletter)),
        not_parameter_of_isAlpha hletter, if_neg Bool.false_ne_true, if_pos hletter]
    | cons c parameters ih =>
      intro read
      have hc := hparameters c List.mem_cons_self
      rw [List.cons_append, withoutSequences_parameters (ne_escape (.inl hc)), if_pos hc]
      exact ih (fun c hc => hparameters c (List.mem_cons_of_mem _ hc)) (c :: read)
  simp only [List.cons_append, List.append_assoc, List.nil_append]
  rw [withoutSequences_escape, withoutSequences_cons (show '[' ≠ '\x1b' by decide)]
  exact congrArg _ (hbehind [])

/-- A line with a sequence in it gets shorter. -/
theorem length_withoutSequences_lt {sequence : List Char} (h : IsTerminalSequence sequence)
    (held before after : List Char) :
    (withoutSequences held (before ++ sequence ++ after)).length <
      held.length + (before ++ sequence ++ after).length := by
  induction before generalizing held with
  -- a sequence that starts here is at least one character long, and all of it goes
  | nil =>
    have hafter := length_withoutSequences_le [] after
    have hlength : 0 < sequence.length := by
      obtain ⟨parameters, letter, rfl, -, -⟩ := h
      simp
    rw [List.nil_append, withoutSequences_sequence h]
    simp only [List.length_append, List.length_reverse, List.length_nil] at *
    omega
  | cons c before ih =>
    rw [List.cons_append, List.cons_append]
    obtain ⟨out, next, heq, hlength⟩ :=
      length_withoutSequences_cons held c (before ++ sequence ++ after)
    have hrest := ih next
    rw [heq, List.length_append, List.length_cons]
    omega

/-! ## Lines -/

/-- **Just the lines without terminal sequences are printed as they are.** -/
theorem printed_eq_iff {line : String} : printed line = line ++ "\n" ↔
    ∀ sequence, IsTerminalSequence sequence → ¬ sequence <:+: line.toList := by
  have hprinted : printed line = line ++ "\n" ↔
      withoutSequences [] line.toList = line.toList := by
    unfold printed
    rw [String.append_left_inj, ← String.toList_inj, String.toList_ofList]
  rw [hprinted]
  constructor
  · rintro hsame sequence hsequence ⟨before, after, heq⟩
    have hshorter := length_withoutSequences_lt hsequence [] before after
    rw [heq, hsame] at hshorter
    simp at hshorter
  · exact fun h => withoutSequences_of_none .nothing h

end As2Exchange.CommandLine
