import As2Exchange.Digest.Sha2

/-!
# The SHA-1 digest

Eighty rounds over five words; each quarter of the rounds has its own function and constant.
-/

namespace As2Exchange.Digest.Sha1

/-- A word rotated to the left. -/
def rotateLeft (x : UInt32) (n : UInt32) : UInt32 := Sha2.rotate32 x (32 - n)

/-- The five words of a chaining value. -/
structure Chain where
  (a b c d e : UInt32)

/-- Puts `count` further words in front of a schedule that holds the newest word first. -/
def extend : Nat → List UInt32 → List UInt32
  | 0, newest => newest
  | count + 1, newest =>
    let mixed := newest.getD 2 0 ^^^ newest.getD 7 0 ^^^ newest.getD 13 0 ^^^ newest.getD 15 0
    extend count (rotateLeft mixed 1 :: newest)

/-- The schedule of a block: its sixteen words and sixty-four more. -/
def schedule (block : Bytes) : List UInt32 :=
  (extend 64 ((block.blocks 4).map Sha2.narrow.read).reverse).reverse

/-- The function and the constant of a round. -/
def quarter (round : Nat) (b c d : UInt32) : UInt32 × UInt32 :=
  if round < 20 then ((b &&& c) ||| (~~~b &&& d), 0x5a827999)
  else if round < 40 then (b ^^^ c ^^^ d, 0x6ed9eba1)
  else if round < 60 then ((b &&& c) ||| (b &&& d) ||| (c &&& d), 0x8f1bbcdc)
  else (b ^^^ c ^^^ d, 0xca62c1d6)

/-- One round, with the scheduled word and the number of the round. -/
def round (s : Chain) (step : UInt32 × Nat) : Chain :=
  let (mixed, constant) := quarter step.2 s.b s.c s.d
  ⟨rotateLeft s.a 5 + mixed + s.e + constant + step.1, s.a, rotateLeft s.b 30, s.c, s.d⟩

/-- Takes one block into the chaining value. -/
def compress (s : Chain) (block : Bytes) : Chain :=
  let t := (schedule block).zipIdx.foldl round s
  ⟨s.a + t.a, s.b + t.b, s.c + t.c, s.d + t.d, s.e + t.e⟩

/-- The chaining value before the first block. -/
def start : Chain := ⟨0x67452301, 0xefcdab89, 0x98badcfe, 0x10325476, 0xc3d2e1f0⟩

end Sha1

/-- The digest of 160 bits. -/
def sha1 (message : Bytes) : Bytes :=
  let s := chain 64 Sha1.compress Sha1.start
    (pad 64 (Bytes.bigEndian 8 (8 * message.length)) message)
  [s.a, s.b, s.c, s.d, s.e].flatMap fun x => Bytes.bigEndian 4 x.toNat

end As2Exchange.Digest
