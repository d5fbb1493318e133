import As2Exchange.Proofs.Charset.Name
import As2Exchange.Proofs.Charset.Units
import As2Exchange.Proofs.Charset.Utf8

/-!
# Texts read back

A text that is written in a charset is read back from its bytes, whatever the charset is, and so it
is under every name that the charset goes by. Charsets that are not written out may lose something
of a text.

- `Charset.characters_encode` is the round trip of a charset that is written out;
- `Charset.Named.Restores` says that a charset has the round trip of a text;
- `Charset.decodeNamedStrict_iff` says that a text is read back under a name just then.
-/

namespace As2Exchange.Charset

/-! ## Charsets of single bytes -/

/-- If each byte gives back its character, so do the bytes of a text. -/
theorem map_of_encodeBytewise {charset : Charset} {byte? : Char → Option UInt8}
    {char? : UInt8 → Option Char} (hback : ∀ {c b}, byte? c = some b → char? b = some c)
    {cs : List Char} {bytes : Bytes} (h : encodeBytewise charset byte? cs = .ok bytes) :
    bytes.map char? = cs.map some := by
  rw [encodeBytewise_eq_ok] at h
  -- on the text: by what was written, no byte is left over and none is missing
  induction cs generalizing bytes with
  | nil =>
    cases bytes with
    | nil => rfl
    | cons b bytes => cases h
  | cons c cs ih =>
    cases bytes with
    | nil => cases h
    | cons b bytes =>
      obtain ⟨hfirst, hrest⟩ := List.cons.inj h
      rw [List.map_cons, List.map_cons, hback hfirst, ih hrest]

/-- The byte for a character is its code point. -/
theorem byteBelow?_spec {limit : Nat} (hlimit : limit ≤ 256) {c : Char} {b : UInt8}
    (h : byteBelow? limit c = some b) : b.toNat < limit ∧ Char.ofNat b.toNat = c := by
  unfold byteBelow? at h
  rw [Option.ite_none_right_eq_some] at h
  obtain ⟨hc, hb⟩ := h
  cases hb
  rw [Bytes.toNat_ofNat (by omega)]
  exact ⟨hc, Char.ofNat_toNat c⟩

theorem windowsChar?_of_windowsByte? {c : Char} {b : UInt8} (h : windowsByte? c = some b) :
    windowsChar? b = some c := by
  unfold windowsByte? at h
  dsimp only at h
  split at h
  · -- the byte is the code point
    rename_i hcode
    simp only [Bool.or_eq_true, Bool.and_eq_true, decide_eq_true_eq] at hcode
    cases h
    have hn : (UInt8.ofNat c.toNat).toNat = c.toNat := Bytes.toNat_ofNat (by omega)
    unfold windowsChar?
    dsimp only
    rw [hn, if_neg (by simp; omega), Char.ofNat_toNat]
  · -- the byte is found in the table
    rename_i hcode
    simp only [Bool.or_eq_true, Bool.and_eq_true, decide_eq_true_eq] at hcode
    obtain ⟨i, hi, rfl⟩ := Option.map_eq_some_iff.1 h
    obtain ⟨hlength, hfound, -⟩ := List.findIdx?_eq_some_iff_getElem.1 hi
    have hsize : i < 32 := hlength
    have hentry : windowsUpper.getD i 0 = c.toNat := by
      rw [List.getD_eq_getElem?_getD, List.getElem?_eq_getElem hlength, Option.getD_some]
      exact eq_of_beq hfound
    have hn : (UInt8.ofNat (0x80 + i)).toNat = 0x80 + i := Bytes.toNat_ofNat (by omega)
    unfold windowsChar?
    dsimp only
    rw [hn, if_pos (by simp; omega), Nat.add_sub_cancel_left, hentry]
    -- a zero in the table would be the code point of a character below 128
    split
    · omega
    · exact congrArg some (Char.ofNat_toNat c)

/-! ## All charsets -/

/-- **A text is read back from its bytes.** -/
theorem characters_encode {charset : Charset} {text : String} {bytes : Bytes}
    (h : charset.encode text = .ok bytes) : charset.characters bytes = text.toList.map some := by
  -- one case per charset; the two directions of the wide ones are those of their units
  cases charset with
  | utf8 =>
    cases h
    exact Utf8.characters_encode _
  | utf8Marked =>
    cases h
    exact Utf8.characters_encode _
  | ascii =>
    refine map_of_encodeBytewise (fun hb => ?_) h
    obtain ⟨hlow, hchar⟩ := byteBelow?_spec (by decide) hb
    exact (if_pos hlow).trans (congrArg some hchar)
  | latin1 =>
    show (bytes.map fun b => Char.ofNat b.toNat).map some = _
    rw [List.map_map]
    exact map_of_encodeBytewise (fun hb => congrArg some (byteBelow?_spec (by decide) hb).2) h
  | windows1252 => exact map_of_encodeBytewise windowsChar?_of_windowsByte? h
  | utf16 order? =>
    cases order? <;> cases h <;> exact Utf16.decode_encode _ _
  | utf32 order? =>
    cases order? <;> cases h <;> exact Utf32.decode_encode _ _

theorem mapM_id_some (cs : List Char) : (cs.map some).mapM id = some cs := by
  induction cs with
  | nil => rfl
  | cons c cs ih =>
    rw [List.map_cons, List.mapM_cons, ih]
    rfl

/-- No bytes are the empty text. -/
theorem characters_nil (charset : Charset) : charset.characters [] = [] := by
  cases charset with
  | utf16 order? =>
    cases order? with
    | none => exact Utf16.decode_encode .little []
    | some order => exact Utf16.decode_encode order []
  | utf32 order? => cases order? <;> rfl
  | _ => rfl

theorem decodeStrict?_of_encode {charset : Charset} {text : String} {bytes : Bytes}
    (h : charset.encode text = .ok bytes) : charset.decodeStrict? bytes = some text := by
  unfold decodeStrict?
  rw [characters_encode h, mapM_id_some]
  exact congrArg some String.ofList_toList

/-! ## Names -/

/-- What the charset writes for a text gives back the text. A charset that is written out always
does so; of another one nothing is known, and no bytes are the empty text in every charset. -/
def Named.Restores : Named → String → Prop
  | own _, _ => True
  | other codec, text => ∀ bytes, codec.encode text = .ok bytes →
    if bytes.isEmpty then text = "" else codec.decodeStrict bytes = .ok text

theorem Named.restores_other {codec : Codec} {text : String} {bytes : Bytes}
    (h : codec.encode text = .ok bytes) : (other codec).Restores text ↔
      if bytes.isEmpty then text = "" else codec.decodeStrict bytes = .ok text := by
  refine ⟨fun hrestores => hrestores bytes h, fun hback bytes' h' => ?_⟩
  cases h.symm.trans h'
  exact hback

theorem Named.decodeStrict_iff {charset : Named} {text : String} {bytes : Bytes}
    (h : charset.encode text = .ok bytes) (hne : bytes ≠ []) :
    charset.decodeStrict bytes = .ok (some text) ↔ charset.Restores text := by
  cases charset with
  | own charset =>
    have hread := decodeStrict?_of_encode (mapError_eq_ok.1 h)
    exact iff_of_true (congrArg Except.ok hread) trivial
  | other codec =>
    rw [restores_other (mapError_eq_ok.1 h), if_neg (by simpa using hne)]
    unfold Named.decodeStrict
    dsimp only
    cases codec.decodeStrict bytes with
    | ok text' => simp
    | error e =>
      -- an exception never gives the text, whether it is caught or not
      refine iff_of_false (fun hread => ?_) nofun
      dsimp only at hread
      split at hread <;> cases hread

/-- **A text is read back under the name of its charset** just if the charset restores it. -/
theorem decodeNamedStrict_iff [Codecs] {name text : String} {writing : Bool} {charset : Named}
    {bytes : Bytes} (hname : named name writing = .ok charset)
    (h : charset.encode text = .ok bytes) :
    decodeNamedStrict name bytes = .ok (some text) ↔ charset.Restores text := by
  have hnul := (named_eq_ok.1 hname).1
  unfold decodeNamedStrict
  rw [if_neg (by simpa using hnul)]
  by_cases hempty : bytes = []
  · -- no bytes are read as the empty text, without the charset
    subst hempty
    rw [if_pos (by rfl)]
    cases charset with
    | own charset =>
      have hcharacters := characters_encode (mapError_eq_ok.1 h)
      rw [characters_nil] at hcharacters
      rw [String.toList_eq_nil_iff.1 (List.map_eq_nil_iff.1 hcharacters.symm)]
      exact iff_of_true rfl trivial
    | other codec =>
      rw [Named.restores_other (mapError_eq_ok.1 h), if_pos (by rfl)]
      exact ⟨fun heq => (Option.some.inj (Except.ok.inj heq)).symm, fun heq => heq ▸ rfl⟩
  · rw [if_neg (by simpa using hempty), named_direction hname false]
    exact Named.decodeStrict_iff h hempty

end As2Exchange.Charset
