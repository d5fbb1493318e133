import As2Exchange.Text.Quoted

/-!
# Hexadecimal digits

A number in hexadecimal digits of at least some width reads back as itself, so numbers that differ
are written differently.

- `ofHexDigits_hexDigits` is the round trip, `hexDigits_injective` what follows from it;
- `length_hexDigits` says when the width is kept.
-/

namespace As2Exchange.Text

/-- The number of a hexadecimal digit in lower case. -/
def hexDigitValue (c : Char) : Nat := if c.isDigit then c.toNat - 48 else c.toNat - 87

/-- The number that digits write behind those of another number. -/
def ofHexDigits (value : Nat) (cs : List Char) : Nat :=
  cs.foldl (fun value c => 16 * value + hexDigitValue c) value

/-! ## Single digits -/

/-- The digits that numbers are written with. -/
def lowerHexDigits : List Char := "0123456789abcdef".toList

theorem digitChar_mem : ∀ d < 16, d.digitChar ∈ lowerHexDigits := by decide

theorem hexDigitValue_digitChar : ∀ d < 16, hexDigitValue d.digitChar = d := by decide

/-! ## Numbers -/

theorem mem_toDigits {n : Nat} {c : Char} (h : c ∈ Nat.toDigits 16 n) : c ∈ lowerHexDigits := by
  -- what holds of all digits is inherited from the digits in front of the last one
  induction n using Nat.strongRecOn with
  | ind n ih =>
    rw [Nat.toDigits_eq_if (by decide)] at h
    split at h
    · rename_i hsmall
      rw [List.mem_singleton.1 h]
      exact digitChar_mem n hsmall
    · -- the last digit, or one of the digits before it
      rename_i hlarge
      rcases List.mem_append.1 h with hfront | hlast
      · exact ih (n / 16) (Nat.div_lt_self (by omega) (by decide)) hfront
      · rw [List.mem_singleton.1 hlast]
        exact digitChar_mem _ (Nat.mod_lt n (by decide))

theorem ofHexDigits_toDigits (n : Nat) : ofHexDigits 0 (Nat.toDigits 16 n) = n := by
  induction n using Nat.strongRecOn with
  | ind n ih =>
    rw [Nat.toDigits_eq_if (by decide)]
    split
    · rename_i hsmall
      show 16 * 0 + hexDigitValue n.digitChar = n
      rw [hexDigitValue_digitChar n hsmall, Nat.mul_zero, Nat.zero_add]
    · rename_i hlarge
      have hfront := ih (n / 16) (Nat.div_lt_self (by omega) (by decide))
      unfold ofHexDigits at hfront ⊢
      rw [List.foldl_append, hfront]
      show 16 * (n / 16) + hexDigitValue (n % 16).digitChar = n
      rw [hexDigitValue_digitChar _ (Nat.mod_lt n (by decide)), Nat.div_add_mod]

/-! ## Padded numbers -/

/-- Zeros in front do not count. -/
theorem ofHexDigits_zeros (k : Nat) (cs : List Char) :
    ofHexDigits 0 (List.replicate k '0' ++ cs) = ofHexDigits 0 cs := by
  -- a zero in front leaves the value that the fold starts with
  induction k with
  | zero => rfl
  | succ k ih => exact ih

theorem ofHexDigits_hexDigits (width n : Nat) : ofHexDigits 0 (hexDigits width n) = n := by
  rw [hexDigits, ofHexDigits_zeros, ofHexDigits_toDigits]

/-- Numbers with the same digits are the same. -/
theorem hexDigits_injective {width m n : Nat} (h : hexDigits width m = hexDigits width n) :
    m = n := by
  rw [← ofHexDigits_hexDigits width m, h, ofHexDigits_hexDigits]

theorem length_hexDigits {width n : Nat} (hwidth : 0 < width) (h : n < Nat.pow 16 width) :
    (hexDigits width n).length = width := by
  have hfits := (Nat.length_toDigits_le_iff (b := 16) (by decide) hwidth).2 h
  rw [hexDigits, List.length_append, List.length_replicate]
  omega

theorem mem_hexDigits {width n : Nat} {c : Char} (h : c ∈ hexDigits width n) :
    c ∈ lowerHexDigits := by
  rcases List.mem_append.1 h with hzero | hdigit
  · rw [List.eq_of_mem_replicate hzero]
    decide
  · exact mem_toDigits hdigit

end As2Exchange.Text
