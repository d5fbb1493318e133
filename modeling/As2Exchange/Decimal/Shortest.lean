import As2Exchange.Decimal.Double

/-!
# Shortest decimals

The decimal text of a double: the fewest digits that read back as the same double, and of those the
ones nearest to it. Texts are positional for a decimal point within the first sixteen places.
-/

namespace As2Exchange.Double

/-! ## Digits -/

/-- A decimal: digits as a whole number times a power of ten. -/
structure Decimal where
  digits : Nat
  exponent : Int
  deriving DecidableEq, Repr

/-- The quotient of whole numbers that is `n` times two to the power of `exponent`. -/
def scaled (n : Nat) (exponent : Int) : Nat × Nat :=
  (n * Nat.pow 2 exponent.toNat, Nat.pow 2 (-exponent).toNat)

/-- A decimal digit count that is enough to tell any two doubles apart. -/
def enoughDigits : Nat := 17

/-- The place of the leading digit of a quotient: the largest power of ten that is not above it. -/
def leadingPlace (num den : Nat) : Int :=
  let up := (Nat.toDigits 10 (num / den)).length
  if den ≤ num then Int.ofNat up - 1
  else -Int.ofNat (Nat.toDigits 10 ((den - 1) / num)).length

/-- The two decimals of a given number of digits around a quotient, the nearer one first and of
two equally near ones the even one. -/
def neighbours (num den count : Nat) : List Decimal :=
  let exponent := leadingPlace num den - Int.ofNat count + 1
  let (top, bottom) := (num * Nat.pow 10 (-exponent).toNat, den * Nat.pow 10 exponent.toNat)
  let nearest := roundDiv top bottom
  let below := top / bottom
  let other := if nearest = below then below + 1 else below
  [⟨nearest, exponent⟩, ⟨other, exponent⟩]

/-- The shortest decimal that reads back as the double of the given significand and exponent. -/
def shortestDecimal (significand : Nat) (exponent : Int) : Decimal :=
  let (num, den) := scaled significand exponent
  let this := ofQuotient? false num den
  let candidates := (List.range enoughDigits).flatMap fun i => neighbours num den (i + 1)
  (candidates.find? fun c => some (ofDecimal false c.digits c.exponent) = this).getD ⟨0, 0⟩

/-! ## Texts -/

/-- Digits without their trailing zeros, with the exponent that makes up for them. -/
def Decimal.trim (d : Decimal) : List Char × Int :=
  let digits := Nat.toDigits 10 d.digits
  let kept := (digits.reverse.dropWhile (· = '0')).reverse
  (kept, d.exponent + Int.ofNat (digits.length - kept.length))

/-- An exponent of ten with its sign and at least two digits. -/
def exponentText (n : Int) : List Char :=
  let digits := Nat.toDigits 10 n.natAbs
  (if n < 0 then '-' else '+') :: (if digits.length < 2 then '0' :: digits else digits)

/-- The text of digits times a power of ten. -/
def decimalText (digits : List Char) (exponent : Int) : List Char :=
  let point := Int.ofNat digits.length + exponent
  if -4 < point && point ≤ 16 then
    if point ≤ 0 then '0' :: '.' :: List.replicate (-point).toNat '0' ++ digits
    else if Int.ofNat digits.length ≤ point then
      digits ++ List.replicate (point - Int.ofNat digits.length).toNat '0' ++ ['.', '0']
    else digits.take point.toNat ++ '.' :: digits.drop point.toNat
  else
    let tail := if digits.length ≤ 1 then [] else '.' :: digits.drop 1
    digits.take 1 ++ tail ++ 'e' :: exponentText (point - 1)

protected def toString (d : Double) : String :=
  match d.parts with
  | .notANumber => "nan"
  | .infinite negative => if negative then "-inf" else "inf"
  | .finite negative significand exponent =>
    let text :=
      if significand = 0 then ['0', '.', '0']
      else
        let (digits, exponent) := (shortestDecimal significand exponent).trim
        decimalText digits exponent
    String.ofList (if negative then '-' :: text else text)

instance : ToString Double := ⟨Double.toString⟩

end As2Exchange.Double
