import As2Exchange.Text.Range
import As2Exchange.Text.PrintableTable

/-!
# Quoted literals

A text or a string of bytes written as a literal: apostrophes around it unless it holds an
apostrophe and no quotation mark, a backslash before what would end it, and characters without a
visible form by their code.
-/

namespace As2Exchange.Text

/-! ## Codes -/

/-- The hexadecimal digits of a number, at least `width` of them. -/
def hexDigits (width n : Nat) : List Char :=
  let digits := Nat.toDigits 16 n
  List.replicate (width - digits.length) '0' ++ digits

/-- A code point written after a backslash, as short as its size allows. -/
def escapedCode (n : Nat) : List Char :=
  if n < 0x100 then ['\\', 'x'] ++ hexDigits 2 n
  else if n < 0x10000 then ['\\', 'u'] ++ hexDigits 4 n
  else ['\\', 'U'] ++ hexDigits 8 n

/-- Whether the character is written as itself. -/
def isPrintable (c : Char) : Bool :=
  if c.toNat < 128 then 32 ≤ c.toNat && c.toNat < 127 else !inRanges hiddenRanges c.toNat

/-! ## Literals -/

/-- The mark to put around a literal. -/
def quoteMark (cs : List Char) : Char :=
  if cs.contains '\'' && !cs.contains '"' then '"' else '\''

/-- One character inside a literal with the given mark. -/
def quotedChar (mark c : Char) : List Char :=
  if c = mark || c = '\\' then ['\\', c]
  else if c = '\n' then ['\\', 'n']
  else if c = '\r' then ['\\', 'r']
  else if c = '\t' then ['\\', 't']
  else if isPrintable c then [c]
  else escapedCode c.toNat

def quoted (text : String) : String :=
  let cs := text.toList
  let mark := quoteMark cs
  String.ofList (mark :: cs.flatMap (quotedChar mark) ++ [mark])

/-- A text as a quoted literal in which every character beyond ASCII is written by its code. -/
def quotedAscii (text : String) : String :=
  String.ofList ((quoted text).toList.flatMap fun c =>
    if c.toNat < 128 then [c] else escapedCode c.toNat)

def quotedBytes (bytes : List UInt8) : String :=
  let cs := bytes.map fun b => Char.ofNat b.toNat
  let mark := quoteMark cs
  String.ofList ('b' :: mark :: cs.flatMap (fun c =>
    if c.toNat < 128 then quotedChar mark c else escapedCode c.toNat) ++ [mark])

end As2Exchange.Text
