import As2Exchange.Mime.Line
import As2Exchange.Base64

/-!
# Transfer encodings of parts

How the content of a part was written for transport, and how to read it back. All readers are
lenient: what does not fit is kept as it stands.

- `quotedPrintable` reads escapes behind equals signs;
- `Uuencoded.read?` reads lines that each begin with their length;
- `decodeTransfer` picks the reader by the name of the encoding.
-/

namespace As2Exchange.Mime

/-! ## Quoted-printable -/

/-- The number of a hexadecimal digit. -/
def hexByte? (b : UInt8) : Option Nat :=
  let n := b.toNat
  if 48 ≤ n && n ≤ 57 then some (n - 48)
  else if 65 ≤ n && n ≤ 70 then some (n - 55)
  else if 97 ≤ n && n ≤ 102 then some (n - 87)
  else none

/-- Where the reading of quoted-printable text stands. -/
inductive QuotedState where
  /-- Outside of an escape. -/
  | plain
  /-- Behind an equals sign. -/
  | escape
  /-- Behind an equals sign and a hexadecimal digit. -/
  | digit (b : UInt8)
  /-- Behind an equals sign and a carriage return: all is skipped up to the newline. -/
  | softBreak

/-- Reads a byte that stands in no escape. -/
def plainByte (b : UInt8) : Bytes × QuotedState :=
  if b = 61 then ([], .escape) else ([b], .plain)

/-- Reads one byte: the bytes that it completes and the next state. -/
def quotedStep : QuotedState → UInt8 → Bytes × QuotedState
  | .plain, b => plainByte b
  | .escape, b =>
    if b = 0x0A then ([], .plain)
    else if b = 0x0D then ([], .softBreak)
    else if b = 61 then ([61], .plain)
    else if (hexByte? b).isSome then ([], .digit b)
    else ([61, b], .plain)
  | .digit a, b =>
    match hexByte? a, hexByte? b with
    | some x, some y => ([UInt8.ofNat (x * 16 + y)], .plain)
    | _, _ =>
      let (out, next) := plainByte b
      (61 :: a :: out, next)
  | .softBreak, b => ([], if b = 0x0A then .plain else .softBreak)

/-- The bytes that an unfinished escape leaves at the end. -/
def quotedEnd : QuotedState → Bytes
  | .digit a => [61, a]
  | _ => []

def quotedFrom (done : Bytes) : QuotedState → Bytes → Bytes
  | state, [] => done.reverse ++ quotedEnd state
  | state, b :: rest =>
    let (out, next) := quotedStep state b
    quotedFrom (out.reverse ++ done) next rest

/-- Reads quoted-printable text. -/
def quotedPrintable (bytes : Bytes) : Bytes := quotedFrom [] .plain bytes

/-! ## Uuencoded text -/

namespace Uuencoded

/-- Reads six bits for each byte of a line until `due` bytes are complete; a line that ends early
is continued by zeros. Nothing if a byte is no letter of the encoding. -/
def readBits : Nat → Nat → Nat → Nat → Bytes → Option (Bytes × Bytes)
  | 0, _, _, _, rest => some ([], rest)
  | _ + 1, 0, _, _, _ => none
  | fuel + 1, due + 1, bits, held, line =>
    let value? : Option (Nat × Bytes) := match line with
      | [] => some (0, [])
      | b :: rest =>
        if isLineEnd b then some (0, rest)
        else if 32 ≤ b.toNat && b.toNat ≤ 96 then some ((b.toNat - 32) % 64, rest)
        else none
    match value? with
    | none => none
    | some (value, rest) =>
      let held := held * 64 + value
      let bits := bits + 6
      if 8 ≤ bits then
        let bits := bits - 8
        -- the bits that are left over behind the last byte are dropped
        if due = 0 then some ([UInt8.ofNat (held / Nat.pow 2 bits)], rest)
        else
          (readBits fuel due bits (held % Nat.pow 2 bits) rest).map fun (out, rest) =>
            (UInt8.ofNat (held / Nat.pow 2 bits) :: out, rest)
      else readBits fuel (due + 1) bits held rest

/-- Reads one line: its first byte tells how many bytes it holds, and nothing but padding may follow
them. -/
def readLine? (line : Bytes) : Option Bytes :=
  match line with
  | [] => none
  | first :: rest =>
    let due := (first.toNat + 32) % 64
    let read? := if due = 0 then some ([], rest) else readBits (2 * due + 2) due 0 0 rest
    match read? with
    | none => none
    | some (out, rest) =>
      if rest.all fun b => b = 32 || b = 96 || isLineEnd b then some out else none

/-- Reads one line, if need be only as much of it as its first byte tells. -/
def readLineMended? (line : Bytes) : Option Bytes :=
  match readLine? line with
  | some out => some out
  | none =>
    match line with
    | [] => none
    | first :: _ => readLine? (line.take (((first.toNat + 32) % 64 * 4 + 5) / 3))

/-- Whether the byte is a blank at the end of the text. -/
def isTextBlank (b : UInt8) : Bool := b = 32 || b = 9 || b = 13 || b = 10 || b = 12

def isEnd (line : Bytes) : Bool :=
  ((line.dropWhile isTextBlank).reverse.dropWhile isTextBlank).reverse = Bytes.ofAscii "end".toList

/-- Whether octal digits, with single low lines between them, are a file mode. -/
def isOctal (cs : Bytes) : Bool :=
  let isDigit (b : UInt8) := 48 ≤ b.toNat && b.toNat ≤ 55
  let rec digits : Bool → Bytes → Bool
    | afterDigit, [] => afterDigit
    | afterDigit, b :: rest =>
      if isDigit b then digits true rest
      else b = 95 && afterDigit && digits false rest
  digits false cs

/-- Whether a word is a file mode: octal digits with an optional sign and mark. -/
def isMode (word : Bytes) : Bool :=
  let isSpace (b : UInt8) := 9 ≤ b.toNat && b.toNat ≤ 13 || b = 32
  let word := ((word.dropWhile isSpace).reverse.dropWhile isSpace).reverse
  let word := match word with
    | 43 :: rest => rest
    | 45 :: rest => rest
    | word => word
  let word := match word with
    -- one low line may stand behind the mark of octal digits
    | 48 :: 111 :: 95 :: rest => rest
    | 48 :: 79 :: 95 :: rest => rest
    | 48 :: 111 :: rest => rest
    | 48 :: 79 :: rest => rest
    | word => word
  isOctal word

/-- Whether the line begins the text: it names a mode. -/
def isBegin (line : Bytes) : Bool :=
  let mark := Bytes.ofAscii "begin ".toList
  mark.isPrefixOf line && isMode ((line.drop mark.length).takeWhile (· ≠ 32))

/-- Reads the lines behind the first one up to the end; an empty line is an error. -/
def readLines? : List Bytes → Option Bytes
  | [] => some []
  | line :: rest =>
    if line.isEmpty then none
    else if isEnd line then some []
    else
      match readLineMended? line with
      | none => none
      | some out => (readLines? rest).map (out ++ ·)

/-- Reads a whole text; nothing if it is broken. -/
def read? (bytes : Bytes) : Option Bytes :=
  match ((lines bytes).map chomp).dropWhile fun line => !isBegin line with
  | [] => none
  | _ :: rest => readLines? rest

end Uuencoded

/-! ## Choice -/

/-- The content of a part written in the named transfer encoding. -/
def decodeTransfer (encoding : String) (bytes : Bytes) : Bytes :=
  if encoding = "quoted-printable" then quotedPrintable bytes
  else if encoding = "base64" then Base64.decodeMended ((lines bytes).map chomp).flatten
  else if ["x-uuencode", "uuencode", "uue", "x-uue"].contains encoding then
    (Uuencoded.read? bytes).getD bytes
  else bytes

end As2Exchange.Mime
