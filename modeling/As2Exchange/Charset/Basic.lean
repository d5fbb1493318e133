import As2Exchange.Charset.Utf8
import As2Exchange.Charset.Units

/-!
# Charsets

The charsets in which a text can be put on the wire.

- `Charset.encode` writes a text, or says which characters the charset lacks;
- `Charset.decode` reads bytes, with a replacement character for what is no text;
- `Charset.decodeStrict?` reads bytes that are a text throughout.
-/

namespace As2Exchange

/-- A charset. Without an order, the wide charsets write a byte order mark and then the low byte
first, and read in the order that a mark announces. -/
inductive Charset where
  | utf8
  | utf8Marked
  | ascii
  | latin1
  | windows1252
  | utf16 (order : Option Charset.ByteOrder)
  | utf32 (order : Option Charset.ByteOrder)
  deriving DecidableEq, Repr

namespace Charset

/-! ## Charsets of single bytes -/

/-- The code points of the bytes from 0x80 to 0x9F in the Western charset of typewriter quotes;
zero marks a byte without a character. -/
def windowsUpper : List Nat :=
  [0x20AC, 0, 0x201A, 0x0192, 0x201E, 0x2026, 0x2020, 0x2021, 0x02C6, 0x2030, 0x0160, 0x2039,
   0x0152, 0, 0x017D, 0, 0, 0x2018, 0x2019, 0x201C, 0x201D, 0x2022, 0x2013, 0x2014, 0x02DC,
   0x2122, 0x0161, 0x203A, 0x0153, 0, 0x017E, 0x0178]

/-- The byte for a character in the Western charset. -/
def windowsByte? (c : Char) : Option UInt8 :=
  let n := c.toNat
  if n < 0x80 || (0xA0 ≤ n && n < 0x100) then some (UInt8.ofNat n)
  else (windowsUpper.findIdx? (· == n)).map fun i => UInt8.ofNat (0x80 + i)

/-- The character for a byte in the Western charset. -/
def windowsChar? (b : UInt8) : Option Char :=
  let n := b.toNat
  if 0x80 ≤ n && n < 0xA0 then
    match windowsUpper.getD (n - 0x80) 0 with
    | 0 => none
    | code => some (Char.ofNat code)
  else some (Char.ofNat n)

/-- The byte for a character whose code point is below a limit. -/
def byteBelow? (limit : Nat) (c : Char) : Option UInt8 :=
  if c.toNat < limit then some (UInt8.ofNat c.toNat) else none

/-! ## Writing -/

/-- A run of characters that a charset lacks: its first character, where it starts and ends. -/
structure Gap where
  charset : Charset
  first : Char
  start : Nat
  stop : Nat
  deriving DecidableEq, Repr

/-- Writes one byte for each character, or gives the first run of characters without a byte. -/
def encodeBytewise (charset : Charset) (byte? : Char → Option UInt8) (cs : List Char) :
    Except Gap Bytes :=
  let known := cs.takeWhile fun c => (byte? c).isSome
  match cs.drop known.length with
  | [] => .ok (cs.filterMap byte?)
  | c :: rest =>
    let run := (c :: rest).takeWhile fun c => (byte? c).isNone
    .error ⟨charset, c, known.length, known.length + run.length⟩

def encode (charset : Charset) (text : String) : Except Gap Bytes :=
  let cs := text.toList
  match charset with
  | .utf8 => .ok (Utf8.encode cs)
  | .utf8Marked => .ok (0xEF :: 0xBB :: 0xBF :: Utf8.encode cs)
  | .ascii => encodeBytewise charset (byteBelow? 0x80) cs
  | .latin1 => encodeBytewise charset (byteBelow? 0x100) cs
  | .windows1252 => encodeBytewise charset windowsByte? cs
  | .utf16 none => .ok (0xFF :: 0xFE :: Utf16.encode .little cs)
  | .utf16 (some order) => .ok (Utf16.encode order cs)
  | .utf32 none => .ok (0xFF :: 0xFE :: 0 :: 0 :: Utf32.encode .little cs)
  | .utf32 (some order) => .ok (Utf32.encode order cs)

/-! ## Reading -/

/-- The bytes behind the mark of the marked charset, where there is one. -/
def dropMark : Bytes → Bytes
  | 0xEF :: 0xBB :: 0xBF :: rest => rest
  | bytes => bytes

/-- The characters of a string of bytes, with nothing in the place of what is no text. -/
def characters (charset : Charset) (bytes : Bytes) : List (Option Char) :=
  match charset with
  | .utf8 => Utf8.characters bytes
  | .utf8Marked => Utf8.characters (dropMark bytes)
  | .ascii => bytes.map fun b => if b < 0x80 then some (Char.ofNat b.toNat) else none
  | .latin1 => (Bytes.toChars bytes).map some
  | .windows1252 => bytes.map windowsChar?
  | .utf16 none => let (order, rest) := Utf16.splitMark bytes; Utf16.decode order rest
  | .utf16 (some order) => Utf16.decode order bytes
  | .utf32 none => let (order, rest) := Utf32.splitMark bytes; Utf32.decode order rest
  | .utf32 (some order) => Utf32.decode order bytes

/-- The text of a string of bytes, with a replacement character for what is no text. -/
def decode (charset : Charset) (bytes : Bytes) : String :=
  String.ofList ((charset.characters bytes).map fun c? => c?.getD '\uFFFD')

/-- The text of a string of bytes that are a text throughout. -/
def decodeStrict? (charset : Charset) (bytes : Bytes) : Option String :=
  ((charset.characters bytes).mapM id).map String.ofList

end Charset

end As2Exchange
