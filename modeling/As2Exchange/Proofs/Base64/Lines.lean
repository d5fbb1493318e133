import As2Exchange.Proofs.Base64.RoundTrip
import As2Exchange.Proofs.Bytes

/-!
# Base64 in lines

Bytes that are written in lines of base64 are cut into blocks of 57 bytes. Because 57 is a multiple
of three, no block but the last one is padded, and the lines without their ends are the base64 form
of the whole.

- `Lined` says what the lines look like, and `lined_encodeLines` that lines are written so;
- `decodeStrict_encode` says that nothing but letters and padding is written;
- `decodeStrict_encodeLines` is the round trip, with the line ends passed over.
-/

namespace As2Exchange

/-! ## Blocks -/

namespace Bytes

variable {size : Nat} {bytes block : Bytes}

/-- No block is empty or too long. -/
theorem of_mem_blocks (h : block ∈ blocks size bytes) :
    0 < block.length ∧ block.length ≤ size := by
  fun_induction blocks size bytes with
  | case1 bytes hend => cases h
  | case2 bytes hend ih =>
    rcases List.mem_cons.1 h with rfl | h
    -- the blocks end only at the end of the bytes, or when they would have no size
    · have hne : bytes.length ≠ 0 := fun hnil => hend (.inl (List.length_eq_zero_iff.1 hnil))
      have hsize : size ≠ 0 := fun hzero => hend (.inr hzero)
      rw [List.length_take]
      omega
    · exact ih h

/-- All blocks but the last one are full. -/
theorem of_mem_dropLast_blocks (h : block ∈ (blocks size bytes).dropLast) :
    block.length = size := by
  fun_induction blocks size bytes with
  | case1 bytes hend => cases h
  | case2 bytes hend ih =>
    cases hrest : blocks size (bytes.drop size) with
    | nil =>
      rw [hrest] at h
      cases h
    | cons next others =>
      rw [hrest, List.dropLast_cons_cons, ← hrest] at h
      rcases List.mem_cons.1 h with rfl | h
      · -- a block is followed by another one only if there are more bytes
        have hmore : bytes.drop size ≠ [] := by
          intro hnil
          rw [hnil, blocks] at hrest
          simp at hrest
        have hlength : size < bytes.length := Nat.lt_of_not_le (mt List.drop_eq_nil_iff.2 hmore)
        rw [List.length_take, Nat.min_eq_left (Nat.le_of_lt hlength)]
      · exact ih h

theorem blocks_eq_nil (h : size ≠ 0) : blocks size bytes = [] ↔ bytes = [] := by
  constructor
  · intro hnil
    rw [← flatten_blocks h bytes, hnil]
    rfl
  · rintro rfl
    rw [blocks]
    exact dif_pos (.inl rfl)

end Bytes

namespace Base64

/-! ## Lengths and pieces -/

theorem length_encode (bytes : Bytes) : (encode bytes).length = 4 * ((bytes.length + 2) / 3) := by
  fun_induction encode bytes with
  | case1 => rfl
  | case2 a => simp
  | case3 a b => simp
  | case4 a b c rest ih =>
    simp only [List.length_cons, ih]
    omega

/-- Only the last group is padded, so whole groups can be written on their own. -/
theorem encode_append {left : Bytes} (h : left.length % 3 = 0) (right : Bytes) :
    encode (left ++ right) = encode left ++ encode right := by
  fun_induction encode left with
  | case1 => rfl
  | case2 a => simp at h
  | case3 a b => simp at h
  | case4 a b c rest ih =>
    -- the first three bytes are a group, so what is left of them is whole groups again
    have hrest : rest.length % 3 = 0 := by
      simp only [List.length_cons] at h
      omega
    simp only [List.cons_append, encode, ih hrest]

/-- The lines of a text written in blocks of whole groups are together what is written at once. -/
theorem flatMap_encode_blocks (bytes : Bytes) :
    (bytes.blocks 57).flatMap encode = encode bytes := by
  fun_induction Bytes.blocks 57 bytes with
  | case1 bytes hend =>
    have hnil : bytes = [] := by simpa using hend
    rw [hnil]
    rfl
  | case2 bytes hend ih =>
    rw [List.flatMap_cons, ih]
    -- either this is the last block, or it is full and 57 is a multiple of three
    by_cases hshort : bytes.length ≤ 57
    · rw [List.drop_eq_nil_of_le hshort, List.take_of_length_le hshort]
      exact List.append_nil _
    · have hfull : (bytes.take 57).length % 3 = 0 := by
        rw [List.length_take, Nat.min_eq_left (by omega)]
      rw [← encode_append hfull, List.take_append_drop]

/-! ## Lines -/

/-- The byte that ends a line. -/
def newline : UInt8 := 10

/-- A letter of the alphabet or padding. -/
def IsLetter (b : UInt8) : Prop := (letterValue? b).isSome = true ∨ b = padByte

/-- Bytes that are lines of base64, each ended by a newline: all lines but the last one have 76
letters, and the last one has whole groups of four. -/
structure Lined (wire : Bytes) (lines : List Bytes) : Prop where
  wire_eq : wire = lines.flatMap fun line => line ++ [newline]
  letters : ∀ line ∈ lines, ∀ b ∈ line, IsLetter b
  full : ∀ line ∈ lines.dropLast, line.length = 76
  last : ∀ line, lines.getLast? = some line →
    4 ≤ line.length ∧ line.length ≤ 76 ∧ line.length % 4 = 0

theorem isLetter_of_mem {bytes : Bytes} {b : UInt8} (h : b ∈ Bytes.ofAscii (encode bytes)) :
    IsLetter b := by
  obtain ⟨c, hc, rfl⟩ := List.mem_map.1 h
  rcases mem_encode hc with ⟨n, hn, rfl⟩ | rfl
  · left
    show (letterValue? (letterByte n)).isSome = true
    rw [letterValue?_letterByte hn]
    rfl
  · exact .inr rfl

theorem IsLetter.ne_newline {b : UInt8} (h : IsLetter b) : b ≠ newline := by
  rintro rfl
  rcases h with h | h
  · cases h
  · cases h

/-- The lines in which bytes are written. -/
def linesOf (bytes : Bytes) : List Bytes :=
  (bytes.blocks 57).map fun block => Bytes.ofAscii (encode block)

theorem ofAscii_encodeLines (bytes : Bytes) : Bytes.ofAscii (encodeLines bytes) =
    (linesOf bytes).flatMap fun line => line ++ [newline] := by
  unfold encodeLines linesOf Bytes.ofAscii
  rw [List.map_flatMap, List.flatMap_map]
  simp only [List.map_append]
  rfl

theorem lined_encodeLines (bytes : Bytes) :
    Lined (Bytes.ofAscii (encodeLines bytes)) (linesOf bytes) where
  wire_eq := ofAscii_encodeLines bytes
  letters := by
    intro line hline b hb
    obtain ⟨block, -, rfl⟩ := List.mem_map.1 hline
    exact isLetter_of_mem hb
  full := by
    intro line hline
    unfold linesOf at hline
    rw [← List.map_dropLast] at hline
    obtain ⟨block, hblock, rfl⟩ := List.mem_map.1 hline
    have hlength := Bytes.of_mem_dropLast_blocks hblock
    rw [Bytes.ofAscii, List.length_map, length_encode, hlength]
  last := by
    intro line hline
    unfold linesOf at hline
    rw [List.getLast?_map] at hline
    obtain ⟨block, hblock, rfl⟩ := Option.map_eq_some_iff.1 hline
    have hlength := Bytes.of_mem_blocks (List.mem_of_getLast? hblock)
    rw [Bytes.ofAscii, List.length_map, length_encode]
    omega

theorem linesOf_eq_nil {bytes : Bytes} : linesOf bytes = [] ↔ bytes = [] := by
  unfold linesOf
  rw [List.map_eq_nil_iff, Bytes.blocks_eq_nil (by decide)]

/-! ## The round trip -/

/-- Passing over the line ends leaves what would have been written at once. -/
theorem filter_encodeLines (bytes : Bytes) :
    (Bytes.ofAscii (encodeLines bytes)).filter (fun b => b ≠ newline) =
      Bytes.ofAscii (encode bytes) := by
  have hline : ∀ block : Bytes,
      (Bytes.ofAscii (encode block) ++ [newline]).filter (fun b => b ≠ newline) =
        Bytes.ofAscii (encode block) := by
    intro block
    -- letters are no newlines, so of a line just its end goes
    rw [List.filter_append, List.filter_eq_self.2]
    · simp
    · intro b hb
      simpa using (isLetter_of_mem hb).ne_newline
  rw [ofAscii_encodeLines, List.filter_flatMap, linesOf, List.flatMap_map]
  simp only [hline]
  rw [← flatMap_encode_blocks bytes, Bytes.ofAscii, List.map_flatMap]
  rfl

/-- A whole group of letters in front does not matter. -/
theorem isPlain_group {v w x y : Nat} (hv : v < 64) (hw : w < 64) (hx : x < 64) (hy : y < 64)
    (rest : Bytes) :
    isPlain (letterByte v :: letterByte w :: letterByte x :: letterByte y :: rest) =
      isPlain rest := by
  have hmod : ∀ n, (n + 1 + 1 + 1 + 1) % 4 = n % 4 := by omega
  unfold isPlain
  simp [letterValue?_letterByte, hv, hw, hx, hy, hmod]

/-- Two letters are followed by two padding letters. -/
theorem isPlain_two {v w : Nat} (hv : v < 64) (hw : w < 64) :
    isPlain [letterByte v, letterByte w, padByte, padByte] = true := by
  have hpad : letterValue? padByte = none := by decide
  unfold isPlain
  simp [letterValue?_letterByte, hv, hw, hpad]

/-- Three letters are followed by one padding letter. -/
theorem isPlain_three {v w x : Nat} (hv : v < 64) (hw : w < 64) (hx : x < 64) :
    isPlain [letterByte v, letterByte w, letterByte x, padByte] = true := by
  have hpad : letterValue? padByte = none := by decide
  unfold isPlain
  simp [letterValue?_letterByte, hv, hw, hx, hpad]

/-- Nothing but letters and padding is written. -/
theorem isPlain_encode (bytes : Bytes) : isPlain (Bytes.ofAscii (encode bytes)) = true := by
  fun_induction encode bytes with
  | case1 => rfl
  -- each case writes sums of bits of its bytes, and these stay below 64
  | case2 a =>
    have := a.toNat_lt
    exact isPlain_two (by omega) (by omega)
  | case3 a b =>
    have := a.toNat_lt
    have := b.toNat_lt
    exact isPlain_three (by omega) (by omega) (by omega)
  | case4 a b c rest ih =>
    have := a.toNat_lt
    have := b.toNat_lt
    have := c.toNat_lt
    rw [ofAscii_letter, ofAscii_letter, ofAscii_letter, ofAscii_letter,
      isPlain_group (by omega) (by omega) (by omega) (by omega), ih]

theorem decodeStrict_encode (bytes : Bytes) :
    decodeStrict (Bytes.ofAscii (encode bytes)) = some bytes := by
  unfold decodeStrict
  rw [if_pos (isPlain_encode bytes), decode_encode]

/-- **Lines are read back** once their ends are taken off. -/
theorem decodeStrict_encodeLines (bytes : Bytes) :
    decodeStrict ((Bytes.ofAscii (encodeLines bytes)).filter fun b => b ≠ newline) =
      some bytes := by
  rw [filter_encodeLines, decodeStrict_encode]

end Base64

end As2Exchange
