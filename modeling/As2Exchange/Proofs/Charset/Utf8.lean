import As2Exchange.Charset.Basic
import As2Exchange.Proofs.Bytes

/-!
# UTF-8 read back

Each character is written as one sequence of bytes, and the reader completes just that character at
the end of the sequence. Only ASCII characters are written with bytes below 128.

- `characters_encode` is the round trip;
- `encodeChar_ascii` and `mem_encodeChar` tell the two kinds of characters apart by their bytes.
-/

namespace As2Exchange.Charset.Utf8

/-! ## Single steps -/

theorem begin_ascii {n : Nat} (h : n < 0x80) :
    begin (UInt8.ofNat n) = ([.scalar (Char.ofNat n)], .start) := by
  have hn : (UInt8.ofNat n).toNat = n := Bytes.toNat_ofNat (by omega)
  simp [begin, hn, h]

theorem begin_two {n : Nat} (hlow : 0xC2 ≤ n) (hhigh : n < 0xE0) :
    begin (UInt8.ofNat n) = ([], .within 1 (n - 0xC0) 0x80 0xBF [UInt8.ofNat n]) := by
  have hn : (UInt8.ofNat n).toNat = n := Bytes.toNat_ofNat (by omega)
  have h1 : ¬ n < 0x80 := by omega
  have h2 : ¬ n < 0xC2 := by omega
  simp [begin, hn, h1, h2, hhigh]

theorem begin_three {n : Nat} (hlow : 0xE0 ≤ n) (hhigh : n < 0xF0) :
    begin (UInt8.ofNat n) = ([], .within 2 (n - 0xE0) (if n = 0xE0 then 0xA0 else 0x80)
      (if n = 0xED then 0x9F else 0xBF) [UInt8.ofNat n]) := by
  have hn : (UInt8.ofNat n).toNat = n := Bytes.toNat_ofNat (by omega)
  have h1 : ¬ n < 0x80 := by omega
  have h2 : ¬ n < 0xC2 := by omega
  have h3 : ¬ n < 0xE0 := by omega
  simp [begin, hn, h1, h2, h3, hhigh]

theorem begin_four {n : Nat} (hlow : 0xF0 ≤ n) (hhigh : n < 0xF5) :
    begin (UInt8.ofNat n) = ([], .within 3 (n - 0xF0) (if n = 0xF0 then 0x90 else 0x80)
      (if n = 0xF4 then 0x8F else 0xBF) [UInt8.ofNat n]) := by
  have hn : (UInt8.ofNat n).toNat = n := Bytes.toNat_ofNat (by omega)
  have h1 : ¬ n < 0x80 := by omega
  have h2 : ¬ n < 0xC2 := by omega
  have h3 : ¬ n < 0xE0 := by omega
  have h4 : ¬ n < 0xF0 := by omega
  simp [begin, hn, h1, h2, h3, h4, hhigh]

theorem toNat_continuation (bits : Nat) : (continuation bits).toNat = 0x80 + bits % 64 :=
  Bytes.toNat_ofNat (by omega)

variable {due code low high bits : Nat} {seen : Bytes}

/-- The last byte of a sequence completes the character. -/
theorem step_last (hlow : low ≤ 0x80 + bits % 64) (hhigh : 0x80 + bits % 64 ≤ high) :
    step (.within 1 code low high seen) (continuation bits) =
      ([.scalar (Char.ofNat (code * 64 + bits % 64))], .start) := by
  have hmod : (0x80 + bits % 64) % 64 = bits % 64 := by omega
  simp [step, toNat_continuation, hlow, hhigh, hmod]

/-- An inner byte adds six bits. -/
theorem step_inner (hlow : low ≤ 0x80 + bits % 64) (hhigh : 0x80 + bits % 64 ≤ high) :
    step (.within (due + 2) code low high seen) (continuation bits) =
      ([], .within (due + 1) (code * 64 + bits % 64) 0x80 0xBF (continuation bits :: seen)) := by
  have hmod : (0x80 + bits % 64) % 64 = bits % 64 := by omega
  simp [step, toNat_continuation, hlow, hhigh, hmod]

theorem piecesFrom_cons (done : List Piece) (state : State) (b : UInt8) (rest : Bytes) :
    piecesFrom done state (b :: rest) =
      piecesFrom ((step state b).1.reverse ++ done) (step state b).2 rest := rfl

/-! ## Characters -/

/-- The scalar values leave out the surrogates. -/
theorem scalar_range (c : Char) :
    c.toNat < 0xD800 ∨ (0xDFFF < c.toNat ∧ c.toNat < 0x110000) := c.valid

/-- The bytes of one character are read as that character. -/
theorem piecesFrom_encodeChar (done : List Piece) (c : Char) (rest : Bytes) :
    piecesFrom done .start (encodeChar c ++ rest) =
      piecesFrom (.scalar c :: done) .start rest := by
  have hscalar := scalar_range c
  have hc : Char.ofNat c.toNat = c := Char.ofNat_toNat c
  -- the arithmetic is about the number of the character, so the character goes out of the way
  generalize hn : c.toNat = n at hscalar hc
  unfold encodeChar
  simp only [hn]
  split
  · -- one byte
    rename_i h
    show piecesFrom _ _ (UInt8.ofNat n :: rest) = _
    rw [piecesFrom_cons, step, begin_ascii h, hc]
    rfl
  split
  · -- two bytes
    rename_i h1 h2
    have hcode : (0xC0 + n / 64 - 0xC0) * 64 + n % 64 = n := by omega
    show piecesFrom _ _ (UInt8.ofNat (0xC0 + n / 64) :: continuation n :: rest) = _
    rw [piecesFrom_cons, step, begin_two (by omega) (by omega), piecesFrom_cons,
      step_last (by omega) (by omega), hcode, hc]
    rfl
  split
  · -- three bytes: the second one leaves room neither for fewer bytes nor for a surrogate
    rename_i h1 h2 h3
    have hcode : ((0xE0 + n / 4096 - 0xE0) * 64 + n / 64 % 64) * 64 + n % 64 = n := by omega
    have hlow : (if 0xE0 + n / 4096 = 0xE0 then 0xA0 else 0x80) ≤ 0x80 + n / 64 % 64 := by
      split <;> omega
    have hhigh : 0x80 + n / 64 % 64 ≤ (if 0xE0 + n / 4096 = 0xED then 0x9F else 0xBF) := by
      split <;> omega
    show piecesFrom _ _ (UInt8.ofNat (0xE0 + n / 4096) :: continuation (n / 64) ::
      continuation n :: rest) = _
    rw [piecesFrom_cons, step, begin_three (by omega) (by omega), piecesFrom_cons,
      step_inner hlow hhigh, piecesFrom_cons, step_last (by omega) (by omega), hcode, hc]
    rfl
  · -- four bytes: the second one leaves room neither for fewer bytes nor for too large a code
    rename_i h1 h2 h3
    have hcode : (((0xF0 + n / 262144 - 0xF0) * 64 + n / 4096 % 64) * 64 + n / 64 % 64) * 64 +
        n % 64 = n := by omega
    have hlow : (if 0xF0 + n / 262144 = 0xF0 then 0x90 else 0x80) ≤ 0x80 + n / 4096 % 64 := by
      split <;> omega
    have hhigh : 0x80 + n / 4096 % 64 ≤ (if 0xF0 + n / 262144 = 0xF4 then 0x8F else 0xBF) := by
      split <;> omega
    show piecesFrom _ _ (UInt8.ofNat (0xF0 + n / 262144) :: continuation (n / 4096) ::
      continuation (n / 64) :: continuation n :: rest) = _
    rw [piecesFrom_cons, step, begin_four (by omega) (by omega), piecesFrom_cons,
      step_inner hlow hhigh, piecesFrom_cons, step_inner (by omega) (by omega), piecesFrom_cons,
      step_last (by omega) (by omega), hcode, hc]
    rfl

/-! ## Texts -/

theorem encode_cons (c : Char) (cs : List Char) : encode (c :: cs) = encodeChar c ++ encode cs :=
  List.flatMap_cons

theorem encode_append (left right : List Char) :
    encode (left ++ right) = encode left ++ encode right := List.flatMap_append

theorem piecesFrom_encode (done : List Piece) (cs : List Char) :
    piecesFrom done .start (encode cs) = done.reverse ++ cs.map .scalar := by
  -- the pieces that are done come in reverse, so they are kept general
  induction cs generalizing done with
  | nil => rfl
  | cons c cs ih =>
    rw [encode_cons, piecesFrom_encodeChar, ih, List.reverse_cons, List.append_assoc]
    rfl

/-- **Reading undoes writing.** -/
theorem characters_encode (cs : List Char) : characters (encode cs) = cs.map some := by
  rw [characters, pieces, piecesFrom_encode, List.reverse_nil, List.nil_append, List.map_map]
  rfl

/-- A text in UTF-8 is read back. -/
theorem decode_encode (cs : List Char) : Charset.utf8.decode (encode cs) = String.ofList cs := by
  show String.ofList ((characters (encode cs)).map _) = _
  rw [characters_encode, List.map_map]
  congr 1
  exact List.map_id cs

/-! ## Bytes below 128 -/

theorem encodeChar_ne_nil (c : Char) : encodeChar c ≠ [] := by
  unfold encodeChar
  simp only
  split
  · exact List.cons_ne_nil _ _
  split
  · exact List.cons_ne_nil _ _
  split
  · exact List.cons_ne_nil _ _
  · exact List.cons_ne_nil _ _

theorem encodeChar_ascii {c : Char} (h : c.toNat < 0x80) : encodeChar c = [UInt8.ofNat c.toNat]
    := by
  unfold encodeChar
  exact if_pos h

/-- Characters beyond ASCII are written with bytes from 128 on. -/
theorem mem_encodeChar {c : Char} {b : UInt8} (hb : b ∈ encodeChar c) :
    (c.toNat < 0x80 ∧ b.toNat = c.toNat) ∨ 0x80 ≤ b.toNat := by
  have hscalar := scalar_range c
  unfold encodeChar at hb
  simp only at hb
  split at hb
  · -- an ASCII character is its own byte
    rename_i h
    cases List.mem_singleton.1 hb
    exact .inl ⟨h, Bytes.toNat_ofNat (by omega)⟩
  · -- all other bytes have their highest bit set
    right
    have hlead : ∀ {n : Nat}, 0x80 ≤ n → n < 0x100 → 0x80 ≤ (UInt8.ofNat n).toNat := by
      intro n hlow hhigh
      rw [Bytes.toNat_ofNat hhigh]
      exact hlow
    have hinner : ∀ n, 0x80 ≤ (continuation n).toNat := by
      intro n
      rw [toNat_continuation]
      omega
    split at hb
    · -- two bytes
      simp only [List.mem_cons, List.not_mem_nil, or_false] at hb
      rcases hb with rfl | rfl
      · exact hlead (by omega) (by omega)
      · exact hinner _
    split at hb
    · -- three bytes
      simp only [List.mem_cons, List.not_mem_nil, or_false] at hb
      rcases hb with rfl | rfl | rfl
      · exact hlead (by omega) (by omega)
      · exact hinner _
      · exact hinner _
    · -- four bytes
      simp only [List.mem_cons, List.not_mem_nil, or_false] at hb
      rcases hb with rfl | rfl | rfl | rfl
      · exact hlead (by omega) (by omega)
      · exact hinner _
      · exact hinner _
      · exact hinner _

end As2Exchange.Charset.Utf8
