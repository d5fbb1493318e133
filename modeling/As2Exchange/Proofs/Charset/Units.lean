import As2Exchange.Charset.Units
import As2Exchange.Proofs.Bytes
import Mathlib.Algebra.Group.Nat.Defs

/-!
# UTF-16 and UTF-32 read back

A character is written as one unit, or as a pair of units that stand for nothing else, and each unit
as its bytes in the given order.

- `ByteOrder.read_write` reads the number of a unit;
- `Utf16.decode_encode` and `Utf32.decode_encode` are the round trips.
-/

namespace As2Exchange

/-! ## Numbers in bytes -/

namespace Bytes

theorem littleEndian_succ (size n : Nat) :
    littleEndian (size + 1) n = UInt8.ofNat n :: littleEndian size (n / 256) := by
  unfold littleEndian
  rw [List.range_succ_eq_map, List.map_cons, List.map_map]
  congr 1
  · exact congrArg UInt8.ofNat (Nat.div_one n)
  · refine List.map_congr_left fun i _ => ?_
    show UInt8.ofNat (n / 256 ^ (i + 1)) = UInt8.ofNat (n / 256 / 256 ^ i)
    rw [Nat.div_div_eq_div_mul, Nat.pow_succ, Nat.mul_comm]

/-- The two orders write the same bytes from the two ends. -/
theorem bigEndian_eq_reverse (size n : Nat) :
    bigEndian size n = (littleEndian size n).reverse := by
  apply List.ext_getElem
  · simp
  · intro i h h'
    simp [bigEndian, littleEndian]

theorem toNat_concat (bytes : Bytes) (b : UInt8) :
    toNat (bytes ++ [b]) = toNat bytes * 256 + b.toNat := by
  simp [toNat, List.foldl_append]

theorem toNat_littleEndian {size n : Nat} (h : n < 256 ^ size) :
    toNat (littleEndian size n).reverse = n := by
  -- on the bytes: the lowest one comes first, and the others write what is left of the number
  induction size generalizing n with
  | zero =>
    rw [Nat.pow_zero] at h
    rw [Nat.lt_one_iff.1 h]
    rfl
  | succ size ih =>
    have hrest : n / 256 < 256 ^ size := by
      rw [Nat.pow_succ] at h
      exact Nat.div_lt_of_lt_mul (by rwa [Nat.mul_comm])
    have hbyte : (UInt8.ofNat n).toNat = n % 256 := UInt8.toNat_ofNat'
    rw [littleEndian_succ, List.reverse_cons, toNat_concat, ih hrest, hbyte]
    omega

end Bytes

namespace Charset

variable {order : ByteOrder} {done : List (Option Char)} {rest : Bytes}

theorem ByteOrder.length_write (order : ByteOrder) (size n : Nat) :
    (order.write size n).length = size := by
  cases order with
  | little => exact Bytes.length_littleEndian size n
  | big => exact Bytes.length_bigEndian size n

/-- The number of a unit is read back. -/
theorem ByteOrder.read_write (order : ByteOrder) {size n : Nat} (h : n < 256 ^ size) :
    order.read (order.write size n) = n := by
  cases order with
  | little => exact Bytes.toNat_littleEndian h
  | big =>
    show Bytes.toNat (Bytes.bigEndian size n) = n
    rw [Bytes.bigEndian_eq_reverse, Bytes.toNat_littleEndian h]

/-! ## UTF-16 -/

namespace Utf16

/-- The bytes of a unit, and the number that is read from them. -/
theorem unit_eq (order : ByteOrder) {n : Nat} (h : n < 0x10000) :
    ∃ a b, order.write 2 n = [a, b] ∧ order.read [a, b] = n := by
  have hread : order.read (order.write 2 n) = n := order.read_write (by omega)
  match hunit : order.write 2 n, order.length_write 2 n with
  | [a, b], _ => exact ⟨a, b, rfl, hunit ▸ hread⟩

/-- A unit that is no half of a pair is a character. -/
theorem decodeFrom_single {n : Nat} (h : n < 0x10000) (hhigh : isHighSurrogate n = false)
    (hlow : isLowSurrogate n = false) :
    decodeFrom order done (order.write 2 n ++ rest) =
      decodeFrom order (some (Char.ofNat n) :: done) rest := by
  obtain ⟨a, b, hunit, hread⟩ := unit_eq order h
  rw [hunit]
  show decodeFrom order done (a :: b :: rest) = _
  rw [decodeFrom.eq_def]
  simp [hread, hhigh, hlow]

/-- Two units that are the halves of a pair are a character beyond the first plane. -/
theorem decodeFrom_pair {n m : Nat} (hn : isHighSurrogate n = true) (hm : isLowSurrogate m = true) :
    decodeFrom order done (order.write 2 n ++ (order.write 2 m ++ rest)) =
      decodeFrom order
        (some (Char.ofNat (0x10000 + (n - 0xD800) * 1024 + (m - 0xDC00))) :: done) rest := by
  -- the half of a pair is within the range of units
  have hn' : n < 0x10000 := by
    simp only [isHighSurrogate, Bool.and_eq_true, decide_eq_true_eq] at hn
    omega
  have hm' : m < 0x10000 := by
    simp only [isLowSurrogate, Bool.and_eq_true, decide_eq_true_eq] at hm
    omega
  obtain ⟨a, b, hfirst, hread⟩ := unit_eq order hn'
  obtain ⟨c, d, hsecond, hread'⟩ := unit_eq order hm'
  rw [hfirst, hsecond]
  show decodeFrom order done (a :: b :: c :: d :: rest) = _
  rw [decodeFrom]
  simp only [hread, hread', hn, hm]
  rfl

/-- The units of one character are read as that character: scalar values are no halves of pairs. -/
theorem decodeFrom_units (c : Char) :
    decodeFrom order done ((units c).flatMap (order.write 2) ++ rest) =
      decodeFrom order (some c :: done) rest := by
  have hscalar : c.toNat < 0xD800 ∨ (0xDFFF < c.toNat ∧ c.toNat < 0x110000) := c.valid
  have hc : Char.ofNat c.toNat = c := Char.ofNat_toNat c
  -- from here on only the number of the character and its bounds count
  generalize hn : c.toNat = n at hscalar hc
  unfold units
  simp only [hn]
  split
  · -- one unit
    rename_i hplane
    have hhigh : isHighSurrogate n = false := by
      simp only [isHighSurrogate, Bool.and_eq_false_iff, decide_eq_false_iff_not]
      omega
    have hlow : isLowSurrogate n = false := by
      simp only [isLowSurrogate, Bool.and_eq_false_iff, decide_eq_false_iff_not]
      omega
    rw [List.flatMap_singleton, decodeFrom_single hplane hhigh hlow, hc]
  · -- a pair
    rename_i hplane
    have hhigh : isHighSurrogate (0xD800 + (n - 0x10000) / 1024) = true := by
      simp only [isHighSurrogate, Bool.and_eq_true, decide_eq_true_eq]
      omega
    have hlow : isLowSurrogate (0xDC00 + (n - 0x10000) % 1024) = true := by
      simp only [isLowSurrogate, Bool.and_eq_true, decide_eq_true_eq]
      omega
    have hcode : 0x10000 + (0xD800 + (n - 0x10000) / 1024 - 0xD800) * 1024 +
        (0xDC00 + (n - 0x10000) % 1024 - 0xDC00) = n := by
      omega
    rw [List.flatMap_cons, List.flatMap_singleton, List.append_assoc,
      decodeFrom_pair hhigh hlow, hcode, hc]

theorem decodeFrom_encode (cs : List Char) :
    decodeFrom order done (encode order cs) = done.reverse ++ cs.map some := by
  -- on the text, with the characters that are read already in reverse
  induction cs generalizing done with
  | nil =>
    show decodeFrom order done [] = _
    rw [decodeFrom, List.map_nil, List.append_nil]
  | cons c cs ih =>
    have hcons : encode order (c :: cs) =
        (units c).flatMap (order.write 2) ++ encode order cs := by
      unfold encode
      rw [List.flatMap_cons, List.flatMap_append]
    rw [hcons, decodeFrom_units, ih, List.reverse_cons, List.append_assoc]
    rfl

/-- **A text in UTF-16 is read back.** -/
theorem decode_encode (order : ByteOrder) (cs : List Char) :
    decode order (encode order cs) = cs.map some := decodeFrom_encode cs

end Utf16

/-! ## UTF-32 -/

namespace Utf32

theorem decodeFrom_unit (c : Char) :
    decodeFrom order done (order.write 4 c.toNat ++ rest) =
      decodeFrom order (some c :: done) rest := by
  have hlimit : c.toNat < 256 ^ 4 := by
    have hvalid : c.toNat < 0xD800 ∨ (0xDFFF < c.toNat ∧ c.toNat < 0x110000) := c.valid
    omega
  have hread := order.read_write hlimit
  have hvalid : c.toNat.isValidChar := c.valid
  -- a unit has four bytes, so the reader takes all of them at once
  match hunit : order.write 4 c.toNat, order.length_write 4 c.toNat with
  | [x, y, z, w], _ =>
    rw [hunit] at hread
    show decodeFrom order done (x :: y :: z :: w :: rest) = _
    rw [decodeFrom]
    simp only [hread, if_pos hvalid, Char.ofNat_toNat]

theorem decodeFrom_encode (cs : List Char) :
    decodeFrom order done (encode order cs) = done.reverse ++ cs.map some := by
  induction cs generalizing done with
  | nil =>
    show decodeFrom order done [] = _
    rw [decodeFrom, List.map_nil, List.append_nil]
  | cons c cs ih =>
    have hcons : encode order (c :: cs) = order.write 4 c.toNat ++ encode order cs :=
      List.flatMap_cons
    rw [hcons, decodeFrom_unit, ih, List.reverse_cons, List.append_assoc]
    rfl

/-- **A text in UTF-32 is read back.** -/
theorem decode_encode (order : ByteOrder) (cs : List Char) :
    decode order (encode order cs) = cs.map some := decodeFrom_encode cs

end Utf32

end Charset

end As2Exchange
