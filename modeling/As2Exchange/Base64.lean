import As2Exchange.Bytes

/-!
# Base64

Groups of three bytes written as four letters of a 64-letter alphabet.

- `encode` writes one run of letters, `encodeLines` lines of 76 letters, each ended by a newline;
- `decode` reads leniently: letters outside of the alphabet are passed over;
- `decodeStrict` refuses whatever is not a plain run of letters with its padding.
-/

namespace As2Exchange.Base64

/-! ## Alphabet -/

/-- The letter for a number below 64. -/
def letter (n : Nat) : Char :=
  if n < 26 then Char.ofNat (65 + n)
  else if n < 52 then Char.ofNat (71 + n)
  else if n < 62 then Char.ofNat (n - 4)
  else if n = 62 then '+'
  else '/'

def letterValue? (b : UInt8) : Option Nat :=
  let n := b.toNat
  if 65 ≤ n && n ≤ 90 then some (n - 65)
  else if 97 ≤ n && n ≤ 122 then some (n - 71)
  else if 48 ≤ n && n ≤ 57 then some (n + 4)
  else if n = 43 then some 62
  else if n = 47 then some 63
  else none

/-- The padding letter. -/
def padByte : UInt8 := 61

/-! ## Writing -/

/-- The base64 form of a string of bytes. -/
def encode : Bytes → List Char
  | [] => []
  | [a] =>
    [letter (a.toNat / 4), letter (a.toNat % 4 * 16), '=', '=']
  | [a, b] =>
    [letter (a.toNat / 4), letter (a.toNat % 4 * 16 + b.toNat / 16), letter (b.toNat % 16 * 4), '=']
  | a :: b :: c :: rest =>
    letter (a.toNat / 4) :: letter (a.toNat % 4 * 16 + b.toNat / 16)
      :: letter (b.toNat % 16 * 4 + c.toNat / 64) :: letter (c.toNat % 64) :: encode rest

/-- The base64 form in lines of 76 letters, each ended by a newline. -/
def encodeLines (bytes : Bytes) : List Char :=
  (bytes.blocks 57).flatMap fun line => encode line ++ ['\n']

/-! ## Reading -/

/-- How far a group of four letters has been read: the letters read, the bits not yet written, and
the padding letters since the last proper one. -/
structure Group where
  position : Nat := 0
  held : Nat := 0
  pads : Nat := 0

/-- Takes in one proper letter; gives the byte that it completes. -/
def Group.take (g : Group) (v : Nat) : Group × Option UInt8 :=
  match g.position with
  | 0 => (⟨1, v, 0⟩, none)
  | 1 => (⟨2, v % 16, 0⟩, some (UInt8.ofNat (g.held * 4 + v / 16)))
  | 2 => (⟨3, v % 4, 0⟩, some (UInt8.ofNat (g.held * 16 + v / 4)))
  | _ => (⟨0, 0, 0⟩, some (UInt8.ofNat (g.held * 64 + v)))

/-- Reads letters from the middle of a group on, passing over what is no letter. The reading ends
where padding completes a group; letters that end within a group are refused. -/
def decodeFrom (g : Group) : Bytes → Option Bytes
  | [] => if g.position = 0 then some [] else none
  | b :: rest =>
    if b = padByte then
      if 2 ≤ g.position then
        -- what stands behind the padding of a group is not looked at
        if 4 ≤ g.position + g.pads + 1 then some []
        else decodeFrom { g with pads := g.pads + 1 } rest
      else decodeFrom g rest
    else
      match letterValue? b with
      | none => decodeFrom g rest
      | some v =>
        match g.take v with
        | (g, none) => decodeFrom g rest
        | (g, some byte) => (decodeFrom g rest).map (byte :: ·)

/-- Reads base64, passing over what is no letter of the alphabet. -/
def decode (bytes : Bytes) : Option Bytes :=
  decodeFrom {} bytes

/-- Whether padding is met only where it completes a group, with nothing behind it. -/
def isPlain (bytes : Bytes) : Bool :=
  let letters := bytes.takeWhile fun b => (letterValue? b).isSome
  let tail := bytes.drop letters.length
  match letters.length % 4, tail with
  | _, [] => true
  | 2, [p, q] => p = padByte && q = padByte
  | 3, [p] => p = padByte
  | _, _ => false

/-- Reads base64 that holds nothing but letters of the alphabet and the padding. -/
def decodeStrict (bytes : Bytes) : Option Bytes :=
  if isPlain bytes then decode bytes else none

/-- Reads base64 as far as it can be mended: missing padding is supplied, then stray letters are
passed over, then still more padding is supplied; text beyond repair is kept as it stands. -/
def decodeMended (bytes : Bytes) : Bytes :=
  let missing := if bytes.length % 4 = 0 then 0 else 4 - bytes.length % 4
  match decodeStrict (bytes ++ List.replicate missing padByte) with
  | some out => out
  | none =>
    match decode bytes with
    | some out => out
    | none => (decode (bytes ++ [padByte, padByte])).getD bytes

end As2Exchange.Base64
