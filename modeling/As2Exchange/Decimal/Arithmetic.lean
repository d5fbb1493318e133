import As2Exchange.Decimal.Double

/-!
# Sums and products of doubles

Sums and products, each rounded once to the nearest double.
-/

namespace As2Exchange.Double

/-- A finite double as a quotient of a whole number and a power of two; zero for the others. -/
def toQuotient (d : Double) : Int × Nat :=
  match d.parts with
  | .finite negative significand exponent =>
    let top := Int.ofNat (significand * Nat.pow 2 exponent.toNat)
    (if negative then -top else top, Nat.pow 2 (-exponent).toNat)
  | _ => (0, 1)

/-- The double nearest to a quotient; an infinity beyond the largest one. -/
def ofQuotient (top : Int) (bottom : Nat) : Double :=
  (ofQuotient? (top < 0) top.natAbs bottom).getD (infinity (top < 0))

/-- The sum of finite doubles. -/
def add (x y : Double) : Double :=
  let (a, b) := x.toQuotient
  let (c, d) := y.toQuotient
  ofQuotient (a * Int.ofNat d + c * Int.ofNat b) (b * d)

/-- A finite double times a whole number that is a double itself. -/
def scaleBy (x : Double) (n : Nat) : Double :=
  let (a, b) := x.toQuotient
  ofQuotient (a * Int.ofNat n) b

def negate (x : Double) : Double :=
  ⟨UInt64.ofNat ((x.bits.toNat + Nat.pow 2 63) % Nat.pow 2 64)⟩

/-- Whether a double is the given whole number. -/
def isInt (x : Double) (n : Int) : Bool :=
  match x.parts with
  | .finite _ _ _ => let (a, b) := x.toQuotient; a = n * Int.ofNat b
  | _ => false

end As2Exchange.Double
