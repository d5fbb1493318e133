import As2Exchange.Decimal.Double
import As2Exchange.Text.Blank

/-!
# Numerals

Decimal numerals: digits with an optional point and an optional exponent, or the words for infinity
and for what is no number. White space around a numeral and single low lines within it are allowed.
-/

namespace As2Exchange.Numeral

/-- White space around a numeral: blanks other than the information separators. -/
def isSpace (c : Char) : Bool := Text.isBlank c && !(0x1C ≤ c.toNat && c.toNat ≤ 0x1F)

/-- A sign at the front, and what follows it. -/
def splitSign : List Char → Bool × List Char
  | '-' :: rest => (true, rest)
  | '+' :: rest => (false, rest)
  | cs => (false, cs)

/-- Digits at the front, and what follows them. -/
def splitDigits (cs : List Char) : List Char × List Char :=
  (cs.takeWhile Char.isDigit, cs.dropWhile Char.isDigit)

def digitsNumber (cs : List Char) : Nat :=
  cs.foldl (fun n c => n * 10 + (c.toNat - 48)) 0

/-- The exponent behind a numeral; nothing if there is text that is no exponent. -/
def exponent? : List Char → Option Int
  | [] => some 0
  | c :: rest =>
    if c = 'e' || c = 'E' then
      let (negative, rest) := splitSign rest
      match splitDigits rest with
      | (d :: digits, []) =>
        let n := Int.ofNat (digitsNumber (d :: digits))
        some (if negative then -n else n)
      | _ => none
    else none

/-- An exponent beyond which every numeral of the given length is zero or infinite. -/
def clampExponent (length : Nat) (exponent : Int) : Int :=
  let bound := Int.ofNat (length + 400)
  max (-bound) (min bound exponent)

/-- The double for digits with a point and an exponent. -/
def decimal? (negative : Bool) (cs : List Char) : Option Double :=
  let (whole, rest) := splitDigits cs
  let (fraction, rest) := match rest with
    | '.' :: rest => splitDigits rest
    | rest => ([], rest)
  if whole.isEmpty && fraction.isEmpty then none
  else
    (exponent? rest).map fun exponent =>
      let exponent := clampExponent (whole.length + fraction.length) exponent
      Double.ofDecimal negative (digitsNumber (whole ++ fraction))
        (exponent - Int.ofNat fraction.length)

/-- Reads a numeral without anything around it. -/
def read? (cs : List Char) : Option Double :=
  let (negative, rest) := splitSign cs
  let word := String.ofList (rest.map Char.toLower)
  if word = "inf" || word = "infinity" then some (Double.infinity negative)
  else if word = "nan" then some (Double.nan negative)
  else decimal? negative rest

/-- The text without its low lines, if each of them stands alone and within the text. -/
def withoutLines? (cs : List Char) : Option (List Char) :=
  let pieces := Text.pieces (· = '_') [] cs
  if pieces.length ≤ 1 || pieces.any List.isEmpty then none else some pieces.flatten

/-- Reads a numeral of a setting. -/
def ofText? (text : String) : Option Double :=
  let cs := text.toList
  match read? (Text.trimBoth isSpace cs) with
  | some d => some d
  | none => (withoutLines? cs).bind read?

end As2Exchange.Numeral
