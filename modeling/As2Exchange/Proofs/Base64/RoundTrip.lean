import As2Exchange.Base64
import As2Exchange.Text.Blank

/-!
# Base64 letters read back

What is written in base64 consists of letters of the alphabet and padding, and reading it gives the
bytes back.

- `mem_encode` says which characters are written;
- `decode_encode` is the round trip, and `encode_injective` follows from it.
-/

namespace As2Exchange.Base64

/-! ## Letters -/

/-- A letter as a byte. -/
def letterByte (n : Nat) : UInt8 := UInt8.ofNat (letter n).toNat

theorem ofAscii_letter (n : Nat) (cs : List Char) :
    Bytes.ofAscii (letter n :: cs) = letterByte n :: Bytes.ofAscii cs := rfl

theorem letterValue?_letterByte {n : Nat} (h : n < 64) : letterValue? (letterByte n) = some n := by
  have hall : ∀ n < 64, letterValue? (letterByte n) = some n := by decide
  exact hall n h

theorem letterByte_ne_padByte {n : Nat} (h : n < 64) : letterByte n ≠ padByte := by
  have hall : ∀ n < 64, letterByte n ≠ padByte := by decide
  exact hall n h

/-- No letter is a blank, a comma or a character that ends a line. -/
theorem letter_plain {n : Nat} (h : n < 64) :
    Text.isBlank (letter n) = false ∧ letter n ≠ ',' ∧
      33 ≤ (letter n).toNat ∧ (letter n).toNat ≤ 126 := by
  have hall : ∀ n < 64, Text.isBlank (letter n) = false ∧ letter n ≠ ',' ∧
      33 ≤ (letter n).toNat ∧ (letter n).toNat ≤ 126 := by decide
  exact hall n h

/-- Each character written is a letter or padding. -/
theorem mem_encode {bytes : Bytes} {c : Char} (h : c ∈ encode bytes) :
    (∃ n < 64, c = letter n) ∨ c = '=' := by
  fun_induction encode bytes with
  | case1 => cases h
  | case2 a =>
    have := a.toNat_lt
    simp only [List.mem_cons, List.not_mem_nil, or_false] at h
    rcases h with rfl | rfl | rfl | rfl
    · exact .inl ⟨_, by omega, rfl⟩
    · exact .inl ⟨_, by omega, rfl⟩
    · exact .inr rfl
    · exact .inr rfl
  | case3 a b =>
    have := a.toNat_lt
    have := b.toNat_lt
    simp only [List.mem_cons, List.not_mem_nil, or_false] at h
    rcases h with rfl | rfl | rfl | rfl
    · exact .inl ⟨_, by omega, rfl⟩
    · exact .inl ⟨_, by omega, rfl⟩
    · exact .inl ⟨_, by omega, rfl⟩
    · exact .inr rfl
  | case4 a b c' rest ih =>
    have := a.toNat_lt
    have := b.toNat_lt
    have := c'.toNat_lt
    simp only [List.mem_cons] at h
    rcases h with rfl | rfl | rfl | rfl | h
    · exact .inl ⟨_, by omega, rfl⟩
    · exact .inl ⟨_, by omega, rfl⟩
    · exact .inl ⟨_, by omega, rfl⟩
    · exact .inl ⟨_, by omega, rfl⟩
    · exact ih h

/-- All that is written is printable, and neither a blank nor a comma. -/
theorem encode_plain {bytes : Bytes} {c : Char} (h : c ∈ encode bytes) :
    Text.isBlank c = false ∧ c ≠ ',' ∧ 33 ≤ c.toNat ∧ c.toNat ≤ 126 := by
  rcases mem_encode h with ⟨n, hn, rfl⟩ | rfl
  · exact letter_plain hn
  · decide

/-! ## Reading letters

The first letter of a group completes no byte, each of the others completes one. -/

variable {v held : Nat} (rest : Bytes)

/-- A letter is taken into the group. -/
theorem decodeFrom_letterByte (h : v < 64) (g : Group) :
    decodeFrom g (letterByte v :: rest) =
      match g.take v with
      | (g, none) => decodeFrom g rest
      | (g, some byte) => (decodeFrom g rest).map (byte :: ·) := by
  rcases htake : g.take v with ⟨g', _ | byte⟩
  · simp [decodeFrom, letterByte_ne_padByte h, letterValue?_letterByte h, htake]
  · simp [decodeFrom, letterByte_ne_padByte h, letterValue?_letterByte h, htake]

theorem decodeFrom_first (h : v < 64) :
    decodeFrom {} (letterByte v :: rest) = decodeFrom ⟨1, v, 0⟩ rest :=
  decodeFrom_letterByte rest h {}

theorem decodeFrom_second (h : v < 64) :
    decodeFrom ⟨1, held, 0⟩ (letterByte v :: rest) =
      (decodeFrom ⟨2, v % 16, 0⟩ rest).map (UInt8.ofNat (held * 4 + v / 16) :: ·) :=
  decodeFrom_letterByte rest h ⟨1, held, 0⟩

theorem decodeFrom_third (h : v < 64) :
    decodeFrom ⟨2, held, 0⟩ (letterByte v :: rest) =
      (decodeFrom ⟨3, v % 4, 0⟩ rest).map (UInt8.ofNat (held * 16 + v / 4) :: ·) :=
  decodeFrom_letterByte rest h ⟨2, held, 0⟩

theorem decodeFrom_fourth (h : v < 64) :
    decodeFrom ⟨3, held, 0⟩ (letterByte v :: rest) =
      (decodeFrom {} rest).map (UInt8.ofNat (held * 64 + v) :: ·) :=
  decodeFrom_letterByte rest h ⟨3, held, 0⟩

/-! ## The round trip -/

/-- **Reading undoes writing.** -/
theorem decode_encode (bytes : Bytes) : decode (Bytes.ofAscii (encode bytes)) = some bytes := by
  unfold decode
  fun_induction encode bytes with
  | case1 => rfl
  | case2 a =>
    -- one byte, written with two letters
    have := a.toNat_lt
    have ha : a.toNat / 4 * 4 + a.toNat % 4 * 16 / 16 = a.toNat := by omega
    rw [ofAscii_letter, ofAscii_letter, decodeFrom_first _ (by omega),
      decodeFrom_second _ (by omega), ha, UInt8.ofNat_toNat]
    rfl
  | case3 a b =>
    -- two bytes, written with three letters
    have := a.toNat_lt
    have := b.toNat_lt
    have ha : a.toNat / 4 * 4 + (a.toNat % 4 * 16 + b.toNat / 16) / 16 = a.toNat := by omega
    have hb : (a.toNat % 4 * 16 + b.toNat / 16) % 16 * 16 + b.toNat % 16 * 4 / 4 = b.toNat := by
      omega
    rw [ofAscii_letter, ofAscii_letter, ofAscii_letter, decodeFrom_first _ (by omega),
      decodeFrom_second _ (by omega), decodeFrom_third _ (by omega), ha, hb,
      UInt8.ofNat_toNat, UInt8.ofNat_toNat]
    rfl
  | case4 a b c rest ih =>
    -- a whole group, and the rest
    have := a.toNat_lt
    have := b.toNat_lt
    have := c.toNat_lt
    have ha : a.toNat / 4 * 4 + (a.toNat % 4 * 16 + b.toNat / 16) / 16 = a.toNat := by omega
    have hb : (a.toNat % 4 * 16 + b.toNat / 16) % 16 * 16 + (b.toNat % 16 * 4 + c.toNat / 64) / 4 =
        b.toNat := by omega
    have hc : (b.toNat % 16 * 4 + c.toNat / 64) % 4 * 64 + c.toNat % 64 = c.toNat := by omega
    rw [ofAscii_letter, ofAscii_letter, ofAscii_letter, ofAscii_letter,
      decodeFrom_first _ (by omega), decodeFrom_second _ (by omega),
      decodeFrom_third _ (by omega), decodeFrom_fourth _ (by omega), ha, hb, hc,
      UInt8.ofNat_toNat, UInt8.ofNat_toNat, UInt8.ofNat_toNat, ih]
    rfl

theorem encode_injective {left right : Bytes} (h : encode left = encode right) : left = right := by
  have hread := decode_encode left
  rw [h, decode_encode right] at hread
  exact (Option.some_inj.1 hread).symm

end As2Exchange.Base64
