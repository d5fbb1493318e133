import As2Exchange.Bytes

/-!
# Blocks of a message to be digested

A message is followed by one set bit, zeros up to the last places of a block, and its length in
bits; the result is cut into blocks, and a chaining value runs through them.
-/

namespace As2Exchange.Digest

/-- How many zero bytes stand between the set bit and the length. -/
def paddingZeros (block lengthSize size : Nat) : Nat :=
  (block - (size + 1 + lengthSize) % block) % block

/-- The message followed by a set bit, zeros, and the given form of its length. -/
def pad (block : Nat) (lengthBytes : Bytes) (message : Bytes) : Bytes :=
  message ++ (0x80 :: List.replicate (paddingZeros block lengthBytes.length message.length) 0)
    ++ lengthBytes

/-- Runs a chaining value through the blocks of a padded message. -/
def chain {state : Type} (block : Nat) (compress : state → Bytes → state) (start : state)
    (padded : Bytes) : state :=
  (padded.blocks block).foldl compress start

end As2Exchange.Digest
