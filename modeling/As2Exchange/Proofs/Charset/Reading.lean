import As2Exchange.Proofs.Charset.Name

/-!
# Reading under a name

Bytes that are to be read come with the name of a charset, which a partner may choose. Reading fails
for the name, or for what a charset that is not written out raises; the others put a replacement
character in the place of what is no text. A reader that meets some kinds of errors goes on with the
bytes as they are.

- `Decodes` says that bytes can be read, and `decodeNamed_isOk_iff` that they are read just then;
- `Raises` says that reading raises what a reader does not meet: `raises_decode_iff` for a reader
  that replaces what is no text, `raises_decodeStrict_iff` for one that does not.
-/

namespace As2Exchange.Charset

/-- The charset reads the bytes: those that are written out read all bytes. -/
def Named.Reads : Named → Bytes → Prop
  | own _, _ => True
  | other codec, bytes => (codec.decode bytes).isOk = true

theorem Named.decode_isOk_iff {charset : Named} {bytes : Bytes} :
    (charset.decode bytes).isOk = true ↔ charset.Reads bytes := by
  cases charset with
  | own charset => exact iff_of_true rfl trivial
  | other codec =>
    show ((codec.decode bytes).mapError CharsetError.codec).isOk = true ↔ _
    rw [isOk_mapError]
    exact Iff.rfl

section

variable [Codecs] {name : String} {bytes : Bytes}

/-! ## Reading with replacements -/

/-- The name of a charset can be used for some bytes. No bytes are a text in every charset. -/
def Decodes (name : String) (bytes : Bytes) : Prop :=
  '\x00' ∉ name.toList ∧
    (bytes = [] ∨ ∃ charset, named name false = .ok charset ∧ charset.Reads bytes)

theorem decodeNamed_isOk_iff : (decodeNamed name bytes).isOk = true ↔ Decodes name bytes := by
  unfold decodeNamed Decodes
  -- a NUL in the name is found first, and no bytes are a text before the name is looked up
  by_cases hnul : '\x00' ∈ name.toList
  · rw [if_pos (by simpa using hnul)]
    exact iff_of_false Bool.false_ne_true fun h => h.1 hnul
  · rw [if_neg (by simpa using hnul), and_iff_right hnul]
    by_cases hempty : bytes = []
    · rw [if_pos (List.isEmpty_iff.2 hempty)]
      exact iff_of_true rfl (.inl hempty)
    · rw [if_neg (mt List.isEmpty_iff.1 hempty), or_iff_right hempty]
      simp only [bind_isOk, Named.decode_isOk_iff]

/-! ## Errors that are not met -/

/-- Reading raises an error that is none of the kinds that are met: there is a NUL in the name, or a
charset that is not written out raises an exception. -/
def Raises (read : Codec → Bytes → Except Raised String) (met : List String) (name : String)
    (bytes : Bytes) : Prop :=
  '\x00' ∈ name.toList ∨ bytes ≠ [] ∧ ∃ codec e, named name false = .ok (.other codec) ∧
    read codec bytes = .error e ∧ ∀ kind ∈ met, e.is kind = false

/-- An unknown name and one that is for no texts are met. -/
theorem is_lookupError_of_named {e : CharsetError} (hnul : '\x00' ∉ name.toList)
    (h : named name false = .error e) : e.is "LookupError" = true := by
  rcases named_eq_error h with ⟨-, h⟩ | rfl | rfl
  · exact absurd h hnul
  · rfl
  · rfl

theorem raises_decode_iff : Raises Codec.decode ["LookupError"] name bytes ↔
    ∃ e, decodeNamed name bytes = .error e ∧ e.is "LookupError" = false := by
  unfold Raises decodeNamed
  -- a NUL in the name, and no bytes, are seen to before a charset is asked for
  by_cases hnul : '\x00' ∈ name.toList
  · rw [if_pos (by simpa using hnul)]
    exact iff_of_true (.inl hnul) ⟨_, rfl, rfl⟩
  rw [if_neg (by simpa using hnul), or_iff_right hnul]
  by_cases hempty : bytes = []
  · rw [if_pos (List.isEmpty_iff.2 hempty)]
    exact iff_of_false (fun h => h.1 hempty) nofun
  rw [if_neg (mt List.isEmpty_iff.1 hempty), and_iff_right hempty]
  constructor
  · rintro ⟨codec, e, hname, hread, hmet⟩
    refine ⟨.codec e, bind_eq_error.2 (.inr ⟨_, hname, ?_⟩), hmet _ List.mem_cons_self⟩
    exact mapError_eq_error.2 ⟨e, hread, rfl⟩
  · rintro ⟨e, h, hmet⟩
    rcases bind_eq_error.1 h with hname | ⟨charset, hname, hread⟩
    · -- what is wrong with the name is met
      rw [is_lookupError_of_named hnul hname] at hmet
      cases hmet
    · cases charset with
      | own charset => cases hread
      | other codec =>
        obtain ⟨cause, hcause, rfl⟩ := mapError_eq_error.1 hread
        exact ⟨codec, cause, hname, hcause, fun kind hkind => List.mem_singleton.1 hkind ▸ hmet⟩

/-- A reader that wants a text throughout takes what it meets for a text that cannot be read. -/
theorem raises_decodeStrict_iff :
    Raises Codec.decodeStrict ["LookupError", "UnicodeError"] name bytes ↔
      (decodeNamedStrict name bytes).isOk = false := by
  unfold Raises decodeNamedStrict
  by_cases hnul : '\x00' ∈ name.toList
  · rw [if_pos (by simpa using hnul)]
    exact iff_of_true (.inl hnul) rfl
  rw [if_neg (by simpa using hnul), or_iff_right hnul]
  by_cases hempty : bytes = []
  · rw [if_pos (List.isEmpty_iff.2 hempty)]
    exact iff_of_false (fun h => h.1 hempty) nofun
  rw [if_neg (mt List.isEmpty_iff.1 hempty), and_iff_right hempty]
  -- what is wrong with a name is met, and charsets that are written out raise nothing
  cases named name false with
  | error e => exact iff_of_false nofun nofun
  | ok charset =>
    cases charset with
    | own charset => exact iff_of_false nofun nofun
    | other codec =>
      unfold Named.decodeStrict
      dsimp only
      cases hread : codec.decodeStrict bytes with
      | ok text =>
        refine iff_of_false ?_ nofun
        rintro ⟨_, e, ⟨⟩, h, -⟩
        cases hread.symm.trans h
      | error e =>
        dsimp only
        split
        · -- the exception is met
          rename_i hmet
          refine iff_of_false ?_ nofun
          rintro ⟨_, e', ⟨⟩, h, hnone⟩
          cases hread.symm.trans h
          rcases Bool.or_eq_true_iff.1 hmet with hkind | hkind
          · exact absurd hkind (by simp [hnone])
          · exact absurd hkind (by simp [hnone])
        · rename_i hnone
          rw [Bool.or_eq_true_iff, not_or] at hnone
          exact iff_of_true ⟨codec, e, rfl, hread, by simpa using hnone⟩ rfl

end

end As2Exchange.Charset
