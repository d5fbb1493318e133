import As2Exchange.Bytes

/-!
# UTF-8

Writing is one function on characters. Reading is a step on single bytes: each step gives the
`Piece`s that end there and the state in which the next byte is met. A sequence that cannot be
completed is one broken piece, as long as it was well formed, and the byte that breaks it is read
afresh.
-/

namespace As2Exchange.Charset.Utf8

/-! ## Writing -/

/-- A byte that continues a sequence, with six bits of a code point. -/
def continuation (bits : Nat) : UInt8 := UInt8.ofNat (0x80 + bits % 64)

def encodeChar (c : Char) : Bytes :=
  let n := c.toNat
  if n < 0x80 then [UInt8.ofNat n]
  else if n < 0x800 then [UInt8.ofNat (0xC0 + n / 64), continuation n]
  else if n < 0x10000 then
    [UInt8.ofNat (0xE0 + n / 4096), continuation (n / 64), continuation n]
  else
    [UInt8.ofNat (0xF0 + n / 262144), continuation (n / 4096), continuation (n / 64),
      continuation n]

def encode (cs : List Char) : Bytes := cs.flatMap encodeChar

/-! ## Reading -/

/-- Why a sequence is broken. -/
inductive Fault where
  | startByte
  | continuationByte
  | endOfData
  deriving DecidableEq, Repr

def Fault.message : Fault → String
  | .startByte => "invalid start byte"
  | .continuationByte => "invalid continuation byte"
  | .endOfData => "unexpected end of data"

/-- A stretch of the input: a character, or the bytes of a broken sequence. -/
inductive Piece where
  | scalar (c : Char)
  | broken (bytes : Bytes) (fault : Fault)

/-- Where the reading stands between two bytes. Within a sequence it knows how many bytes are
still due, the bits read so far, the bounds of the next byte and the bytes seen, the last first. -/
inductive State where
  | start
  | within (due code low high : Nat) (seen : Bytes)

/-- Meets a byte at the start of a sequence. -/
def begin (b : UInt8) : List Piece × State :=
  let n := b.toNat
  if n < 0x80 then ([.scalar (Char.ofNat n)], .start)
  -- the bounds leave out code points written longer than need be, the surrogates, and
  -- all that is beyond the last plane
  else if n < 0xC2 then ([.broken [b] .startByte], .start)
  else if n < 0xE0 then ([], .within 1 (n - 0xC0) 0x80 0xBF [b])
  else if n < 0xF0 then
    let low := if n = 0xE0 then 0xA0 else 0x80
    let high := if n = 0xED then 0x9F else 0xBF
    ([], .within 2 (n - 0xE0) low high [b])
  else if n < 0xF5 then
    let low := if n = 0xF0 then 0x90 else 0x80
    let high := if n = 0xF4 then 0x8F else 0xBF
    ([], .within 3 (n - 0xF0) low high [b])
  else ([.broken [b] .startByte], .start)

/-- Meets a byte in any state. -/
def step : State → UInt8 → List Piece × State
  | .start, b => begin b
  | .within due code low high seen, b =>
    let n := b.toNat
    if low ≤ n && n ≤ high then
      let code := code * 64 + n % 64
      if due ≤ 1 then ([.scalar (Char.ofNat code)], .start)
      else ([], .within (due - 1) code 0x80 0xBF (b :: seen))
    else
      let (pieces, next) := begin b
      (.broken seen.reverse .continuationByte :: pieces, next)

/-- The piece that the end of the input leaves. -/
def finish : State → List Piece
  | .start => []
  | .within _ _ _ _ seen => [.broken seen.reverse .endOfData]

/-- Reads on from a state; `done` holds the pieces already read, the last first. -/
def piecesFrom (done : List Piece) : State → Bytes → List Piece
  | state, [] => done.reverse ++ finish state
  | state, b :: rest =>
    let (pieces, next) := step state b
    piecesFrom (pieces.reverse ++ done) next rest

def pieces (bytes : Bytes) : List Piece := piecesFrom [] .start bytes

def Piece.char? : Piece → Option Char
  | .scalar c => some c
  | .broken _ _ => none

/-- The characters of a string of bytes, with nothing in the place of each broken piece. -/
def characters (bytes : Bytes) : List (Option Char) := (pieces bytes).map Piece.char?

/-- The first broken piece, with the place where it starts. -/
structure Broken where
  start : Nat
  bytes : Bytes
  fault : Fault

/-- Collects the characters of the pieces up to the first broken one. -/
def collect : Nat → List Char → List Piece → Except Broken (List Char)
  | _, done, [] => .ok done.reverse
  | place, done, .scalar c :: rest => collect (place + (encodeChar c).length) (c :: done) rest
  | place, _, .broken bytes fault :: _ => .error ⟨place, bytes, fault⟩

/-- The text of a string of bytes that has no broken piece. -/
def decodeStrict (bytes : Bytes) : Except Broken (List Char) :=
  collect 0 [] (pieces bytes)

end As2Exchange.Charset.Utf8
