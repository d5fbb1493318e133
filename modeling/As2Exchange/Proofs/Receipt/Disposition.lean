import As2Exchange.Proofs.Receipt.Status

/-!
# Dispositions

A disposition says how it came about, what became of the message, and maybe, as an error or a
warning, why. What became of the message and the word `error` should decide whether it reports a
failure; but the explanation is searched for the words of a failure as well, so a warning may count
as one because of how it is put.

- `Disposition.written` is a disposition as a receipt has it;
- `isError_written_iff` says when it reports a failure.
-/

namespace As2Exchange.Receipt

/-- A disposition by its parts. -/
structure Disposition where
  /-- How it came about. -/
  mode : String
  /-- What became of the message. -/
  type : String
  /-- The kind of an explanation, and the explanation. -/
  modifier? : Option (String × String) := none

namespace Disposition

/-- What stands behind the mode. -/
def status (d : Disposition) : String :=
  match d.modifier? with
  | none => d.type
  | some (modifier, text) => d.type ++ "/" ++ modifier ++ ": " ++ text

def written (d : Disposition) : String := d.mode ++ "; " ++ d.status

/-- The words of a disposition are those that there are, in any letter case. The explanation is
free, and so is the mode but for the semicolon that ends it. -/
structure Regular (d : Disposition) : Prop where
  mode : ';' ∉ d.mode.toList
  type : Text.lower d.type = "processed" ∨ Text.lower d.type = "failed"
  modifier : ∀ modifier text, d.modifier? = some (modifier, text) →
    Text.lower modifier = "error" ∨ Text.lower modifier = "warning"

/-- The type or the modifier tells of a failure. -/
def Fails (d : Disposition) : Prop :=
  Text.lower d.type = "failed" ∨
    ∃ modifier text, d.modifier? = some (modifier, text) ∧ Text.lower modifier = "error"

/-- The explanation has a word in it that tells of a failure. -/
def ExplainsFailure (d : Disposition) : Prop :=
  ∃ modifier text, d.modifier? = some (modifier, text) ∧ NamesFailure (Text.lower text)

end Disposition

/-! ## The parts of a status -/

instance (text : String) : Decidable (NamesFailure text) :=
  decidable_of_iff _ tellsFailure_iff

/-- Of two words of which one names a failure, a word is that one just if it names a failure. -/
theorem namesFailure_word {word harmless failing : String} (hharmless : ¬ NamesFailure harmless)
    (hfailing : NamesFailure failing) (h : word = harmless ∨ word = failing) :
    NamesFailure word ↔ word = failing := by
  rcases h with rfl | rfl
  · exact iff_of_false hharmless fun heq => hharmless (heq ▸ hfailing)
  · exact iff_of_true hfailing rfl

/-- A status names a failure in its type, in its modifier or in its explanation. -/
theorem namesFailure_status {d : Disposition} (h : d.Regular) :
    NamesFailure (Text.lower d.status) ↔ d.Fails ∨ d.ExplainsFailure := by
  -- the marks between the texts are in no word, so a status is searched part by part
  have hempty : ¬ NamesFailure (Text.lower "") := by decide
  have htype : NamesFailure (Text.lower d.type) ↔ Text.lower d.type = "failed" :=
    namesFailure_word (by decide) (by decide) h.type
  unfold Disposition.status Disposition.Fails Disposition.ExplainsFailure
  cases hmodifier : d.modifier? with
  | none =>
    dsimp only
    rw [htype]
    simp
  | some pair =>
    obtain ⟨modifier, text⟩ := pair
    have hparts : d.type ++ "/" ++ modifier ++ ": " ++ text =
        d.type ++ String.singleton '/' ++ (modifier ++ String.singleton ':' ++
          ("" ++ String.singleton ' ' ++ text)) := by
      apply String.toList_inj.1
      simp
    have hword : NamesFailure (Text.lower modifier) ↔ Text.lower modifier = "error" :=
      namesFailure_word (by decide) (by decide) (h.modifier modifier text hmodifier).symm
    dsimp only
    -- the slash, the colon and the blank behind it separate four texts, of which one is empty
    rw [hparts, namesFailure_lower_between (by decide), namesFailure_lower_between (by decide),
      namesFailure_lower_between (by decide), htype, hword]
    simp [hempty, or_assoc]

theorem isError_written_iff {receipt : Receipt} {d : Disposition} (h : d.Regular)
    (hdisposition : receipt.disposition = some d.written) :
    receipt.isError = true ↔ d.Fails ∨ d.ExplainsFailure := by
  -- the blank behind the semicolon separates an empty text from the status
  have hwritten : d.written = d.mode ++ ";" ++ ("" ++ String.singleton ' ' ++ d.status) := by
    apply String.toList_inj.1
    simp [Disposition.written]
  rw [hwritten] at hdisposition
  rw [isError_of_status h.mode hdisposition, namesFailure_lower_between (by decide),
    namesFailure_status h]
  have hempty : ¬ NamesFailure (Text.lower "") := by decide
  exact or_iff_right hempty

end As2Exchange.Receipt
