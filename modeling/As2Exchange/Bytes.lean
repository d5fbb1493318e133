/-!
# Strings of bytes

A payload is a list of bytes. This module cuts such lists into blocks and writes numbers in a fixed
number of bytes, the largest place first or last.
-/

namespace As2Exchange

abbrev Bytes := List UInt8

namespace Bytes

/-- The bytes of a text that holds no character beyond ASCII. -/
def ofAscii (cs : List Char) : Bytes :=
  cs.map fun c => UInt8.ofNat c.toNat

/-- The characters whose codes are the bytes. -/
def toChars (bytes : Bytes) : List Char :=
  bytes.map fun b => Char.ofNat b.toNat

/-- A number in `count` bytes, the largest place first. -/
def bigEndian (count n : Nat) : Bytes :=
  (List.range count).map fun i => UInt8.ofNat (n / Nat.pow 256 (count - 1 - i))

/-- A number in `count` bytes, the smallest place first. -/
def littleEndian (count n : Nat) : Bytes :=
  (List.range count).map fun i => UInt8.ofNat (n / Nat.pow 256 i)

/-- The number written by bytes with the largest place first. -/
def toNat (bytes : Bytes) : Nat :=
  bytes.foldl (fun sum b => sum * 256 + b.toNat) 0

/-- Cuts a list into blocks of `size`; the last one may be shorter. -/
def blocks (size : Nat) (bytes : Bytes) : List Bytes :=
  if _h : bytes = [] ∨ size = 0 then []
  else bytes.take size :: blocks size (bytes.drop size)
termination_by bytes.length
decreasing_by
  have : bytes.length ≠ 0 := fun h => _h (Or.inl (List.length_eq_zero_iff.1 h))
  simp only [List.length_drop]
  omega

@[simp] theorem length_bigEndian (count n : Nat) : (bigEndian count n).length = count := by
  simp [bigEndian]

@[simp] theorem length_littleEndian (count n : Nat) : (littleEndian count n).length = count := by
  simp [littleEndian]

/-- Cutting into blocks loses nothing. -/
theorem flatten_blocks {size : Nat} (h : size ≠ 0) (bytes : Bytes) :
    (blocks size bytes).flatten = bytes := by
  fun_induction blocks size bytes with
  | case1 bytes hb => simp_all
  | case2 bytes hb ih => simp [ih]

end Bytes

end As2Exchange
