/-!
# Doubles

A floating-point number of 64 bits, kept as its bits. A finite one is a whole number of at most 53
bits times a power of two.

- `Double.parts` takes a number apart;
- `Double.ofQuotient` rounds a quotient of whole numbers to the nearest double, a tie going to the
  even neighbour.
-/

namespace As2Exchange

/-- A floating-point number, as its sign bit, eleven bits of exponent and 52 bits of fraction. -/
structure Double where
  bits : UInt64
  deriving DecidableEq, Repr

namespace Double

/-- What the bits stand for: `finite` is the whole number `significand` times two to the power of
`exponent`. -/
inductive Parts where
  | finite (negative : Bool) (significand : Nat) (exponent : Int)
  | infinite (negative : Bool)
  | notANumber
  deriving DecidableEq, Repr

def parts (d : Double) : Parts :=
  let n := d.bits.toNat
  let negative := n / Nat.pow 2 63 = 1
  let field := n / Nat.pow 2 52 % 2048
  let fraction := n % Nat.pow 2 52
  if field = 2047 then
    if fraction = 0 then .infinite negative else .notANumber
  else if field = 0 then .finite negative fraction (-1074)
  else .finite negative (fraction + Nat.pow 2 52) (Int.ofNat field - 1075)

def signBits (negative : Bool) : Nat := if negative then Nat.pow 2 63 else 0

def infinity (negative : Bool) : Double := ⟨UInt64.ofNat (signBits negative + 2047 * Nat.pow 2 52)⟩

/-- What is not a number, with a sign. -/
def nan (negative : Bool) : Double :=
  ⟨UInt64.ofNat (signBits negative + 2047 * Nat.pow 2 52 + Nat.pow 2 51)⟩

def zero (negative : Bool) : Double := ⟨UInt64.ofNat (signBits negative)⟩

/-- A quotient rounded to the nearest whole number, a tie going to the even one. -/
def roundDiv (num den : Nat) : Nat :=
  let q := num / den
  let twice := 2 * (num % den)
  if den < twice || (twice = den && q % 2 = 1) then q + 1 else q

/-- The power of two by which a quotient is divided so that 53 bits are left before the point, but
no less than the smallest power that a double has. -/
def scale (num den : Nat) : Int :=
  let estimate := Int.ofNat (Nat.log2 num) - Int.ofNat (Nat.log2 den)
  -- the quotient lies between half and twice this power of two
  let low := num * Nat.pow 2 (-estimate).toNat < den * Nat.pow 2 estimate.toNat
  let top := if low then estimate - 1 else estimate
  max (top - 52) (-1074)

/-- The double nearest to a quotient of whole numbers; nothing if it is beyond the largest one. -/
def ofQuotient? (negative : Bool) (num den : Nat) : Option Double :=
  if num = 0 || den = 0 then some (zero negative)
  else
    let exponent := scale num den
    let significand := roundDiv (num * Nat.pow 2 (-exponent).toNat) (den * Nat.pow 2 exponent.toNat)
    -- a significand of 53 bits carries into the field of the exponent by itself
    let magnitude :=
      if significand < Nat.pow 2 52 then significand
      else (exponent + 1074).toNat * Nat.pow 2 52 + significand
    if magnitude < 2047 * Nat.pow 2 52 then
      some ⟨UInt64.ofNat (signBits negative + magnitude)⟩
    else none

/-- The double nearest to a whole number; nothing if it is beyond the largest one. -/
def ofInt? (n : Int) : Option Double := ofQuotient? (n < 0) n.natAbs 1

/-- The double nearest to a decimal fraction: a whole number times a power of ten. -/
def ofDecimal (negative : Bool) (digits : Nat) (exponent : Int) : Double :=
  (ofQuotient? negative (digits * Nat.pow 10 exponent.toNat) (Nat.pow 10 (-exponent).toNat)).getD
    (infinity negative)

/-- The double of a truth value. -/
def ofBool (b : Bool) : Double := ((ofInt? (if b then 1 else 0)).getD (zero false))

/-- Whether the number is zero of either sign. -/
def isZero (d : Double) : Bool := d.bits.toNat % Nat.pow 2 63 = 0

/-- The sixteen hexadecimal digits of the bits. -/
def hex (d : Double) : String :=
  let digits := Nat.toDigits 16 d.bits.toNat
  String.ofList (List.replicate (16 - digits.length) '0' ++ digits)

end Double

end As2Exchange
