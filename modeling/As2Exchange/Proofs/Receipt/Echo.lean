import As2Exchange.Receipt.Report
import As2Exchange.Proofs.Text.Unfold

/-!
# Echoed message ids

A partner that confirms a message writes its id in angle brackets, just as it came with the message.
When the receipt is read, runs of blanks in the id become single spaces, and all angle brackets at
its ends are taken off, not only the pair that was put around it.

- `echo_eq` is the id that is left;
- `echo_accepted_iff` says which ids are left as they were, or of which nothing is left.
-/

namespace As2Exchange.Receipt

/-- An angle bracket. -/
def isBracket (c : Char) : Bool := c = '<' || c = '>'

/-- The id that is read where a partner has written an id in angle brackets. -/
def echo (id : String) : String := Report.stripBrackets (Text.tidy ("<" ++ id ++ ">"))

/-- The id has no angle bracket at an end, and no two spaces meet in it. -/
structure Survives (id : String) : Prop where
  no_spaces : ¬ [' ', ' '] <:+: id.toList
  first : ∀ c, id.toList.head? = some c → isBracket c = false
  last : ∀ c, id.toList.getLast? = some c → isBracket c = false

/-! ## What is left -/

theorem toList_tidy_enclosed (id : String) :
    (Text.tidy ("<" ++ id ++ ">")).toList = '<' :: Text.squeeze id.toList ++ ['>'] := by
  -- the brackets are no blanks, so they stay where they are
  have hlist : ("<" ++ id ++ ">").toList = '<' :: (id.toList ++ ['>']) := by
    rw [String.toList_append, String.toList_append]
    rfl
  have hsqueeze : Text.squeeze ("<" ++ id ++ ">").toList =
      '<' :: (Text.squeeze id.toList ++ ['>']) := by
    rw [hlist, Text.squeeze_cons_of_not (by decide), Text.squeeze_append (by decide)]
    rfl
  unfold Text.tidy Text.strip
  rw [String.toList_ofList, String.toList_ofList, hsqueeze, Text.trimBoth_of_ends]
  · rfl
  · intro c hc
    cases hc
    decide
  · intro c hc
    rw [← List.cons_append, List.getLast?_concat] at hc
    cases hc
    decide

/-- What is left of an id lies between the brackets of its squeezed form. -/
theorem echo_eq (id : String) :
    echo id = String.ofList (Text.trimBoth isBracket (Text.squeeze id.toList)) := by
  -- the brackets are at the ends, so tidying has left nothing to strip
  have hstrip : Text.strip (Text.tidy ("<" ++ id ++ ">")) = Text.tidy ("<" ++ id ++ ">") := by
    unfold Text.tidy Text.strip
    rw [String.toList_ofList, String.toList_ofList, Text.trimBoth_trimBoth]
  have htrim : Text.trimBoth isBracket (['<'] ++ Text.squeeze id.toList ++ ['>']) =
      Text.trimBoth isBracket (Text.squeeze id.toList) :=
    Text.trimBoth_surrounded (by decide) (by decide)
  unfold echo Report.stripBrackets
  rw [hstrip, toList_tidy_enclosed]
  exact congrArg String.ofList htrim

/-! ## Ids that are left as they were -/

/-- Squeezing keeps an id from being all brackets: what is no bracket stays, or becomes a space. -/
theorem squeeze_brackets {cs : List Char} :
    (∀ c ∈ Text.squeeze cs, isBracket c = true) ↔ ∀ c ∈ cs, isBracket c = true := by
  induction cs with
  | nil => rfl
  | cons c rest ih =>
    cases hc : Text.isBlank c with
    | true =>
      -- a blank becomes a space, and neither is a bracket
      rw [Text.squeeze_cons_of_blank hc]
      constructor
      · intro h
        exact absurd (h ' ' List.mem_cons_self) (by decide)
      · intro h
        have hbracket := h c List.mem_cons_self
        simp only [isBracket, Bool.or_eq_true, decide_eq_true_eq] at hbracket
        rcases hbracket with rfl | rfl
        · exact absurd hc (by decide)
        · exact absurd hc (by decide)
    | false =>
      rw [Text.squeeze_cons_of_not hc, List.forall_mem_cons, List.forall_mem_cons, ih]

/-- Nothing is left of an id just if it is all brackets. -/
theorem echo_eq_empty_iff {id : String} :
    echo id = "" ↔ ∀ c ∈ id.toList, isBracket c = true := by
  rw [echo_eq, ← squeeze_brackets, ← Text.trimBoth_eq_nil_iff, String.ofList_eq_empty_iff]

theorem echo_eq_self_iff {id : String}
    (h : ∀ c ∈ id.toList, Text.isBlank c = true → c = ' ') : echo id = id ↔ Survives id := by
  rw [echo_eq]
  constructor
  · intro heq
    have hlist : Text.trimBoth isBracket (Text.squeeze id.toList) = id.toList := by
      have htoList := congrArg String.toList heq
      rwa [String.toList_ofList] at htoList
    -- neither step made the id longer, so neither has dropped anything
    have hsqueeze : Text.squeeze id.toList = id.toList := by
      obtain ⟨front, back, hsplit, -, -⟩ := Text.trimBoth_split isBracket (Text.squeeze id.toList)
      have hle := Text.length_squeeze_le id.toList
      have hlength := congrArg List.length hsplit
      rw [hlist] at hlength hsplit
      simp only [List.length_append] at hlength
      have hfront : front = [] := List.eq_nil_of_length_eq_zero (by omega)
      have hback : back = [] := List.eq_nil_of_length_eq_zero (by omega)
      rw [hsplit, hfront, hback, List.nil_append, List.append_nil]
    rw [hsqueeze] at hlist
    obtain ⟨hfirst, hlast⟩ := Text.trimBoth_eq_self_iff.1 hlist
    exact ⟨(Text.squeeze_eq_self_iff h).1 hsqueeze, hfirst, hlast⟩
  · intro hsurvives
    rw [(Text.squeeze_eq_self_iff h).2 hsurvives.no_spaces,
      Text.trimBoth_of_ends hsurvives.first hsurvives.last, String.ofList_toList]

/-- An id is not taken for another one just if it is all brackets or survives. -/
theorem echo_accepted_iff {id : String}
    (h : ∀ c ∈ id.toList, 32 ≤ c.toNat ∧ c.toNat ≤ 126) : echo id = "" ∨ echo id = id ↔
      (∀ c ∈ id.toList, isBracket c = true) ∨ Survives id := by
  have hblank : ∀ c ∈ id.toList, Text.isBlank c = true → c = ' ' :=
    fun c hc => (Text.isBlank_printable (h c hc).1 (h c hc).2).1
  rw [echo_eq_empty_iff, echo_eq_self_iff hblank]

end As2Exchange.Receipt
