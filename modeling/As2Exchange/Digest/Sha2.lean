import As2Exchange.Digest.Block

/-!
# The SHA-2 digests

One compression serves words of 32 and of 64 bits: a `Family` holds what differs. The constants of
the narrow words are the upper halves of those of the wide ones.
-/

namespace As2Exchange.Digest.Sha2

/-! ## Constants -/

/-- The fractional parts of the cube roots of the first eighty primes. -/
def roundConstants : List UInt64 :=
  [0x428a2f98d728ae22, 0x7137449123ef65cd, 0xb5c0fbcfec4d3b2f, 0xe9b5dba58189dbbc,
   0x3956c25bf348b538, 0x59f111f1b605d019, 0x923f82a4af194f9b, 0xab1c5ed5da6d8118,
   0xd807aa98a3030242, 0x12835b0145706fbe, 0x243185be4ee4b28c, 0x550c7dc3d5ffb4e2,
   0x72be5d74f27b896f, 0x80deb1fe3b1696b1, 0x9bdc06a725c71235, 0xc19bf174cf692694,
   0xe49b69c19ef14ad2, 0xefbe4786384f25e3, 0x0fc19dc68b8cd5b5, 0x240ca1cc77ac9c65,
   0x2de92c6f592b0275, 0x4a7484aa6ea6e483, 0x5cb0a9dcbd41fbd4, 0x76f988da831153b5,
   0x983e5152ee66dfab, 0xa831c66d2db43210, 0xb00327c898fb213f, 0xbf597fc7beef0ee4,
   0xc6e00bf33da88fc2, 0xd5a79147930aa725, 0x06ca6351e003826f, 0x142929670a0e6e70,
   0x27b70a8546d22ffc, 0x2e1b21385c26c926, 0x4d2c6dfc5ac42aed, 0x53380d139d95b3df,
   0x650a73548baf63de, 0x766a0abb3c77b2a8, 0x81c2c92e47edaee6, 0x92722c851482353b,
   0xa2bfe8a14cf10364, 0xa81a664bbc423001, 0xc24b8b70d0f89791, 0xc76c51a30654be30,
   0xd192e819d6ef5218, 0xd69906245565a910, 0xf40e35855771202a, 0x106aa07032bbd1b8,
   0x19a4c116b8d2d0c8, 0x1e376c085141ab53, 0x2748774cdf8eeb99, 0x34b0bcb5e19b48a8,
   0x391c0cb3c5c95a63, 0x4ed8aa4ae3418acb, 0x5b9cca4f7763e373, 0x682e6ff3d6b2b8a3,
   0x748f82ee5defb2fc, 0x78a5636f43172f60, 0x84c87814a1f0ab72, 0x8cc702081a6439ec,
   0x90befffa23631e28, 0xa4506cebde82bde9, 0xbef9a3f7b2c67915, 0xc67178f2e372532b,
   0xca273eceea26619c, 0xd186b8c721c0c207, 0xeada7dd6cde0eb1e, 0xf57d4f7fee6ed178,
   0x06f067aa72176fba, 0x0a637dc5a2c898a6, 0x113f9804bef90dae, 0x1b710b35131c471b,
   0x28db77f523047d84, 0x32caab7b40c72493, 0x3c9ebe0a15c9bebc, 0x431d67c49c100d4c,
   0x4cc5d4becb3e42b6, 0x597f299cfc657e2a, 0x5fcb6fab3ad6faec, 0x6c44198c4a475817]

/-- The fractional parts of the square roots of the first eight primes. -/
def firstRoots : List UInt64 :=
  [0x6a09e667f3bcc908, 0xbb67ae8584caa73b, 0x3c6ef372fe94f82b, 0xa54ff53a5f1d36f1,
   0x510e527fade682d1, 0x9b05688c2b3e6c1f, 0x1f83d9abfb41bd6b, 0x5be0cd19137e2179]

/-- The fractional parts of the square roots of the next eight primes. -/
def nextRoots : List UInt64 :=
  [0xcbbb9d5dc1059ed8, 0x629a292a367cd507, 0x9159015a3070dd17, 0x152fecd8f70e5939,
   0x67332667ffc00b31, 0x8eb44a8768581511, 0xdb0c2e0d64f98fa7, 0x47b5481dbefa4fa4]

/-! ## Families -/

/-- What the words of one width bring to the compression. -/
structure Family (word : Type) where
  /-- The bytes in a word. -/
  width : Nat
  /-- A word from its bytes. -/
  read : Bytes → word
  /-- The bytes of a word. -/
  write : word → Bytes
  /-- The mixing of an old word and of a recent word in the schedule. -/
  oldMix : word → word
  recentMix : word → word
  /-- The mixing of the first and of the fifth word in a round. -/
  firstMix : word → word
  fifthMix : word → word
  /-- One constant for each round. -/
  constants : List word

/-- A 32-bit word rotated to the right. -/
def rotate32 (x : UInt32) (n : UInt32) : UInt32 := (x >>> n) ||| (x <<< (32 - n))

/-- A 64-bit word rotated to the right. -/
def rotate64 (x : UInt64) (n : UInt64) : UInt64 := (x >>> n) ||| (x <<< (64 - n))

/-- The words of 32 bits. -/
def narrow : Family UInt32 where
  width := 4
  read bytes := UInt32.ofNat (Bytes.toNat bytes)
  write x := Bytes.bigEndian 4 x.toNat
  oldMix x := rotate32 x 7 ^^^ rotate32 x 18 ^^^ (x >>> 3)
  recentMix x := rotate32 x 17 ^^^ rotate32 x 19 ^^^ (x >>> 10)
  firstMix x := rotate32 x 2 ^^^ rotate32 x 13 ^^^ rotate32 x 22
  fifthMix x := rotate32 x 6 ^^^ rotate32 x 11 ^^^ rotate32 x 25
  constants := (roundConstants.take 64).map fun (k : UInt64) => (k >>> 32).toUInt32

/-- The words of 64 bits. -/
def wide : Family UInt64 where
  width := 8
  read bytes := UInt64.ofNat (Bytes.toNat bytes)
  write x := Bytes.bigEndian 8 x.toNat
  oldMix x := rotate64 x 1 ^^^ rotate64 x 8 ^^^ (x >>> 7)
  recentMix x := rotate64 x 19 ^^^ rotate64 x 61 ^^^ (x >>> 6)
  firstMix x := rotate64 x 28 ^^^ rotate64 x 34 ^^^ rotate64 x 39
  fifthMix x := rotate64 x 14 ^^^ rotate64 x 18 ^^^ rotate64 x 41
  constants := roundConstants

/-! ## Compression -/

variable {word : Type} [Add word] [AndOp word] [XorOp word] [Complement word]

/-- The eight words of a chaining value. -/
structure Chain (word : Type) where
  (a b c d e f g h : word)

/-- The chaining value with the given words. -/
def Chain.ofList (fallback : word) (words : List word) : Chain word :=
  let at' (i : Nat) := words.getD i fallback
  ⟨at' 0, at' 1, at' 2, at' 3, at' 4, at' 5, at' 6, at' 7⟩

/-- The words of a chaining value in order. -/
def Chain.toList (s : Chain word) : List word := [s.a, s.b, s.c, s.d, s.e, s.f, s.g, s.h]

/-- Adds two chaining values word by word. -/
def Chain.add (s t : Chain word) : Chain word :=
  ⟨s.a + t.a, s.b + t.b, s.c + t.c, s.d + t.d, s.e + t.e, s.f + t.f, s.g + t.g, s.h + t.h⟩

/-- Puts `count` further words in front of a schedule that holds the newest word first. -/
def extend (fam : Family word) (fallback : word) : Nat → List word → List word
  | 0, newest => newest
  | count + 1, newest =>
    let word' := fam.recentMix (newest.getD 1 fallback) + newest.getD 6 fallback
      + fam.oldMix (newest.getD 14 fallback) + newest.getD 15 fallback
    extend fam fallback count (word' :: newest)

/-- The schedule of a block: its sixteen words, then one word for each further round. -/
def schedule (fam : Family word) (fallback : word) (block : Bytes) : List word :=
  let first := (block.blocks fam.width).map fam.read
  (extend fam fallback (fam.constants.length - 16) first.reverse).reverse

/-- One round, with the constant and the scheduled word of the round. -/
def round (fam : Family word) (s : Chain word) (step : word × word) : Chain word :=
  let choice := (s.e &&& s.f) ^^^ (~~~s.e &&& s.g)
  let majority := (s.a &&& s.b) ^^^ (s.a &&& s.c) ^^^ (s.b &&& s.c)
  let first := s.h + fam.fifthMix s.e + choice + step.1 + step.2
  let second := fam.firstMix s.a + majority
  ⟨first + second, s.a, s.b, s.c, s.d + first, s.e, s.f, s.g⟩

/-- Takes one block into the chaining value. -/
def compress (fam : Family word) (fallback : word) (s : Chain word) (block : Bytes) : Chain word :=
  s.add ((fam.constants.zip (schedule fam fallback block)).foldl (round fam) s)

/-- The bytes of the chaining value after the whole message. -/
def digest (fam : Family word) (fallback : word) (start : List word) (message : Bytes) : Bytes :=
  let length := Bytes.bigEndian (2 * fam.width) (8 * message.length)
  let last := chain (16 * fam.width) (compress fam fallback) (Chain.ofList fallback start)
    (pad (16 * fam.width) length message)
  last.toList.flatMap fam.write

end Sha2

/-! ## The digests -/

/-- The digest of 256 bits. -/
def sha256 (message : Bytes) : Bytes :=
  Sha2.digest Sha2.narrow 0 (Sha2.firstRoots.map fun (r : UInt64) => (r >>> 32).toUInt32) message

/-- The digest of 512 bits. -/
def sha512 (message : Bytes) : Bytes :=
  Sha2.digest Sha2.wide 0 Sha2.firstRoots message

/-- The digest of 384 bits: the wide digest from other roots, cut short. -/
def sha384 (message : Bytes) : Bytes :=
  (Sha2.digest Sha2.wide 0 Sha2.nextRoots message).take 48

end As2Exchange.Digest
