import As2Exchange.Digest.Sha1

/-!
# The MD5 digest

Sixty-four rounds over four words, with the smallest place of each word first. The constants are
the sines of the first whole numbers.
-/

namespace As2Exchange.Digest.Md5

/-- The sines of the numbers from 1 to 64, in units of two to the power of -32. -/
def sines : List UInt32 :=
  [0xd76aa478, 0xe8c7b756, 0x242070db, 0xc1bdceee, 0xf57c0faf, 0x4787c62a, 0xa8304613, 0xfd469501,
   0x698098d8, 0x8b44f7af, 0xffff5bb1, 0x895cd7be, 0x6b901122, 0xfd987193, 0xa679438e, 0x49b40821,
   0xf61e2562, 0xc040b340, 0x265e5a51, 0xe9b6c7aa, 0xd62f105d, 0x02441453, 0xd8a1e681, 0xe7d3fbc8,
   0x21e1cde6, 0xc33707d6, 0xf4d50d87, 0x455a14ed, 0xa9e3e905, 0xfcefa3f8, 0x676f02d9, 0x8d2a4c8a,
   0xfffa3942, 0x8771f681, 0x6d9d6122, 0xfde5380c, 0xa4beea44, 0x4bdecfa9, 0xf6bb4b60, 0xbebfbc70,
   0x289b7ec6, 0xeaa127fa, 0xd4ef3085, 0x04881d05, 0xd9d4d039, 0xe6db99e5, 0x1fa27cf8, 0xc4ac5665,
   0xf4292244, 0x432aff97, 0xab9423a7, 0xfc93a039, 0x655b59c3, 0x8f0ccc92, 0xffeff47d, 0x85845dd1,
   0x6fa87e4f, 0xfe2ce6e0, 0xa3014314, 0x4e0811a1, 0xf7537e82, 0xbd3af235, 0x2ad7d2bb, 0xeb86d391]

/-- The four words of a chaining value. -/
structure Chain where
  (a b c d : UInt32)

/-- The function of a round, and the place of the word of the block that it takes in. -/
def quarter (round : Nat) (b c d : UInt32) : UInt32 × Nat :=
  if round < 16 then ((b &&& c) ||| (~~~b &&& d), round)
  else if round < 32 then ((d &&& b) ||| (~~~d &&& c), (5 * round + 1) % 16)
  else if round < 48 then (b ^^^ c ^^^ d, (3 * round + 5) % 16)
  else (c ^^^ (b ||| ~~~d), 7 * round % 16)

/-- How far a round turns its sum. -/
def turn (round : Nat) : UInt32 :=
  ([7, 12, 17, 22, 5, 9, 14, 20, 4, 11, 16, 23, 6, 10, 15, 21] : List UInt32).getD
    (round / 16 * 4 + round % 4) 0

/-- One round, with its constant and its number, over the words of a block. -/
def round (words : List UInt32) (s : Chain) (step : UInt32 × Nat) : Chain :=
  let (mixed, place) := quarter step.2 s.b s.c s.d
  let sum := s.a + mixed + step.1 + words.getD place 0
  ⟨s.d, s.b + Sha1.rotateLeft sum (turn step.2), s.b, s.c⟩

/-- Takes one block into the chaining value. -/
def compress (s : Chain) (block : Bytes) : Chain :=
  let words := (block.blocks 4).map fun bytes => UInt32.ofNat (Bytes.toNat bytes.reverse)
  let t := sines.zipIdx.foldl (round words) s
  ⟨s.a + t.a, s.b + t.b, s.c + t.c, s.d + t.d⟩

/-- The chaining value before the first block. -/
def start : Chain := ⟨0x67452301, 0xefcdab89, 0x98badcfe, 0x10325476⟩

end Md5

/-- The digest of 128 bits. -/
def md5 (message : Bytes) : Bytes :=
  let s := chain 64 Md5.compress Md5.start
    (pad 64 (Bytes.littleEndian 8 (8 * message.length)) message)
  [s.a, s.b, s.c, s.d].flatMap fun x => Bytes.littleEndian 4 x.toNat

end As2Exchange.Digest
