import As2Exchange.Receipt.Basic
import As2Exchange.Proofs.Text.Lower

/-!
# What a disposition reports

The status of a disposition is what stands behind its first semicolon. A receipt reports a failure
just if its status, in lower case, holds one of two words.

- `statusOf?_append` reads the status off a disposition;
- `isError_iff` says when a receipt reports a failure.
-/

namespace As2Exchange.Receipt

/-! ## The status -/

/-- The status of a disposition stands behind its first semicolon. -/
theorem statusOf?_append {mode : String} (h : ';' ∉ mode.toList) (status : String) :
    statusOf? (mode ++ ";" ++ status) = some (Text.strip status) := by
  have hdrop : (mode ++ ";" ++ status).toList.dropWhile (· ≠ ';') = ';' :: status.toList := by
    rw [String.toList_append, String.toList_append, List.append_assoc,
      List.dropWhile_append_of_pos]
    · rfl
    · intro c hc
      exact decide_eq_true fun he => h (he ▸ hc)
  unfold statusOf?
  rw [hdrop]
  dsimp only
  rw [String.ofList_toList]

theorem statusOf?_eq_some {disposition text : String} (h : statusOf? disposition = some text) :
    ∃ mode status, disposition = mode ++ ";" ++ status ∧ ';' ∉ mode.toList ∧
      text = Text.strip status := by
  unfold statusOf? at h
  split at h
  · cases h
  · rename_i c status hdrop
    cases h
    -- what is left begins with the character at which the search stopped
    have hc : c = ';' := by
      have hhead := List.head?_dropWhile_not (fun c => decide (c ≠ ';')) disposition.toList
      rw [hdrop] at hhead
      simpa using hhead
    have hsplit : disposition.toList.takeWhile (· ≠ ';') ++ ';' :: status = disposition.toList := by
      have hwhole := List.takeWhile_append_dropWhile (p := (· ≠ ';')) (l := disposition.toList)
      rw [hdrop, hc] at hwhole
      exact hwhole
    -- the mode is all that was passed over, and the status what stands behind the semicolon
    refine ⟨String.ofList (disposition.toList.takeWhile (· ≠ ';')), String.ofList status, ?_, ?_,
      rfl⟩
    · apply String.toList_inj.1
      simp only [String.toList_append, String.toList_ofList, List.append_assoc]
      exact hsplit.symm
    · -- no semicolon was passed over
      intro hmem
      rw [String.toList_ofList] at hmem
      have hne := List.all_eq_true.1 List.all_takeWhile _ hmem
      simp at hne

/-! ## Failures -/

/-- A text holds one of the words that tell of a failure. -/
def NamesFailure (text : String) : Prop :=
  "error".toList <:+: text.toList ∨ "failed".toList <:+: text.toList

theorem tellsFailure_iff {text : String} : tellsFailure text.toList = true ↔ NamesFailure text := by
  rw [tellsFailure, Bool.or_eq_true, Text.occursIn_iff, Text.occursIn_iff, NamesFailure]

/-- Blanks at the ends of a status make no difference to whether it names a failure. -/
theorem namesFailure_lower_strip (status : String) :
    NamesFailure (Text.lower (Text.strip status)) ↔ NamesFailure (Text.lower status) := by
  -- the words have neither blanks in them nor letters that lowering could make of blanks
  unfold NamesFailure
  rw [Text.infix_lower_strip_iff (by decide) (by decide) (by decide),
    Text.infix_lower_strip_iff (by decide) (by decide) (by decide)]

/-- Marks between the parts of a status do not make up a word that names a failure. -/
theorem namesFailure_lower_between {c : Char} (h : c ∈ [' ', '/', ':']) (front back : String) :
    NamesFailure (Text.lower (front ++ String.singleton c ++ back)) ↔
      NamesFailure (Text.lower front) ∨ NamesFailure (Text.lower back) := by
  have hmark : ∀ c ∈ [' ', '/', ':'], Text.lowerAlone c = [c] ∧
      c ∉ "error".toList ∧ c ∉ "failed".toList := by
    decide +kernel
  -- none of the marks is changed by lowering, and none occurs in the words
  obtain ⟨hlower, herror, hfailed⟩ := hmark c h
  unfold NamesFailure
  rw [Text.infix_lower_between_iff (by decide) hlower herror,
    Text.infix_lower_between_iff (by decide) hlower hfailed, or_or_or_comm]

theorem isError_of_status {receipt : Receipt} {mode : String} (h : ';' ∉ mode.toList)
    {status : String} (hdisposition : receipt.disposition = some (mode ++ ";" ++ status)) :
    receipt.isError = true ↔ NamesFailure (Text.lower status) := by
  unfold isError status?
  rw [hdisposition, Option.bind_some, statusOf?_append h]
  exact tellsFailure_iff.trans (namesFailure_lower_strip status)

/-- **A receipt reports a failure** just if what follows the first semicolon of its disposition
names one in lower case. -/
theorem isError_iff (receipt : Receipt) :
    receipt.isError = true ↔ ∃ mode status, receipt.disposition = some (mode ++ ";" ++ status) ∧
      ';' ∉ mode.toList ∧ NamesFailure (Text.lower status) := by
  constructor
  · intro h
    unfold isError status? at h
    split at h
    · rename_i text hstatus
      obtain ⟨disposition, hdisposition, htext⟩ := Option.bind_eq_some_iff.1 hstatus
      obtain ⟨mode, status, rfl, hmode, rfl⟩ := statusOf?_eq_some htext
      exact ⟨mode, status, hdisposition, hmode,
        (namesFailure_lower_strip status).1 (tellsFailure_iff.1 h)⟩
    · cases h
  · rintro ⟨mode, status, hdisposition, hmode, hnames⟩
    exact (isError_of_status hmode hdisposition).2 hnames

end As2Exchange.Receipt
