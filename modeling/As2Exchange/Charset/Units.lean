import As2Exchange.Bytes

/-!
# UTF-16 and UTF-32

Texts as units of two or of four bytes, in either byte order. Reading gives nothing in the place of
each unit that is no character, and of an incomplete end.
-/

namespace As2Exchange.Charset

/-- Which byte of a unit comes first. -/
inductive ByteOrder where
  | little
  | big
  deriving DecidableEq, Repr

def ByteOrder.write (order : ByteOrder) (size n : Nat) : Bytes :=
  match order with
  | .little => Bytes.littleEndian size n
  | .big => Bytes.bigEndian size n

/-- The number that the bytes of a unit write. -/
def ByteOrder.read (order : ByteOrder) (unit : Bytes) : Nat :=
  match order with
  | .little => Bytes.toNat unit.reverse
  | .big => Bytes.toNat unit

/-- A unit that pairs with a following one. -/
def isHighSurrogate (n : Nat) : Bool := 0xD800 ≤ n && n < 0xDC00

/-- A unit that pairs with the one before it. -/
def isLowSurrogate (n : Nat) : Bool := 0xDC00 ≤ n && n < 0xE000

namespace Utf16

/-- The units of one character: a pair beyond the first plane. -/
def units (c : Char) : List Nat :=
  let n := c.toNat
  if n < 0x10000 then [n]
  else [0xD800 + (n - 0x10000) / 1024, 0xDC00 + (n - 0x10000) % 1024]

def encode (order : ByteOrder) (cs : List Char) : Bytes :=
  (cs.flatMap units).flatMap (order.write 2)

/-- Reads units. A first surrogate without its second is one broken unit; at the end of the input
it takes a stray last byte with it. -/
def decodeFrom (order : ByteOrder) (done : List (Option Char)) :
    Bytes → List (Option Char)
  | [] => done.reverse
  | [_] => (none :: done).reverse
  | a :: b :: rest =>
    let n := order.read [a, b]
    if isHighSurrogate n then
      match rest with
      | c :: d :: more =>
        let m := order.read [c, d]
        if isLowSurrogate m then
          let code := 0x10000 + (n - 0xD800) * 1024 + (m - 0xDC00)
          decodeFrom order (some (Char.ofNat code) :: done) more
        -- the second unit is read afresh: it may start a character of its own
        else decodeFrom order (none :: done) (c :: d :: more)
      | _ => (none :: done).reverse
    else if isLowSurrogate n then decodeFrom order (none :: done) rest
    else decodeFrom order (some (Char.ofNat n) :: done) rest
termination_by bytes => bytes.length

/-- The characters of a string of bytes in a known order. -/
def decode (order : ByteOrder) (bytes : Bytes) : List (Option Char) := decodeFrom order [] bytes

/-- The order that a mark at the start announces, and the bytes behind the mark. -/
def splitMark : Bytes → ByteOrder × Bytes
  | 0xFF :: 0xFE :: rest => (.little, rest)
  | 0xFE :: 0xFF :: rest => (.big, rest)
  | bytes => (.little, bytes)

end Utf16

namespace Utf32

def encode (order : ByteOrder) (cs : List Char) : Bytes :=
  cs.flatMap fun c => order.write 4 c.toNat

/-- Reads units of four bytes. -/
def decodeFrom (order : ByteOrder) (done : List (Option Char)) :
    Bytes → List (Option Char)
  | [] => done.reverse
  | a :: b :: c :: d :: rest =>
    let n := order.read [a, b, c, d]
    let char := if Nat.isValidChar n then some (Char.ofNat n) else none
    decodeFrom order (char :: done) rest
  | _ => (none :: done).reverse

/-- The characters of a string of bytes in a known order. -/
def decode (order : ByteOrder) (bytes : Bytes) : List (Option Char) := decodeFrom order [] bytes

/-- The order that a mark at the start announces, and the bytes behind the mark. -/
def splitMark : Bytes → ByteOrder × Bytes
  | 0xFF :: 0xFE :: 0 :: 0 :: rest => (.little, rest)
  | 0 :: 0 :: 0xFE :: 0xFF :: rest => (.big, rest)
  | bytes => (.little, bytes)

end Utf32

end As2Exchange.Charset
