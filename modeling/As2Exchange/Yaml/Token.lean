import As2Exchange.Yaml.Scalar

/-!
# Tokens

The marks and texts of which a YAML text consists. Indentation is made explicit: a collection of
lines starts with a token of its own and ends with another. A mapping key without a mark is only
known as one when the colon behind it is met; its token is then put in before it.

- `Token.scan` gives the tokens of a text.
-/

namespace As2Exchange.Yaml

inductive Directive where
  | version (major : Nat)
  | tag (handle start : List Char)
  | other
  deriving DecidableEq, Repr

/-- A mark or a text. -/
inductive Token where
  | directive (directive : Directive)
  | documentStart
  | documentEnd
  | streamEnd
  | blockSequenceStart
  | blockMappingStart
  | blockEnd
  | flowSequenceStart
  | flowSequenceEnd
  | flowMappingStart
  | flowMappingEnd
  | blockEntry
  | flowEntry
  | key
  | value
  | reference (name : List Char)
  | anchor (name : List Char)
  /-- A tag: its handle, if it has one, and what follows the handle. -/
  | tag (handle : Option (List Char)) (suffix : List Char)
  | scalar (text : List Char) (plain : Bool)
  deriving DecidableEq, Repr

/-! ## Tags and directives -/

/-- Whether the character can stand in the address of a tag; a percent sign is seen to apart. -/
def isAddressChar (c : Char) : Bool :=
  c.isAlphanum || "-;/?:@&=+$,_.!~*'()[]".toList.contains c

/-- The bytes behind percent signs. -/
def percentBytes : Nat → List UInt8 → Cursor → Reading (List UInt8 × Cursor)
  | 0, bytes, c => .ok (bytes, c)
  | fuel + 1, bytes, c =>
    if c.peek = '%' then
      let digits := (c.rest.drop 1).take 2
      if digits.length = 2 && digits.all isHexDigit then
        percentBytes fuel (bytes ++ [UInt8.ofNat (hexNumber digits)]) (c.skip 3)
      else malformed
    else .ok (bytes, c)

/-- Reads the address of a tag as far as it goes. -/
def addressFrom : Nat → List Char → Cursor → Reading (List Char × Cursor)
  | 0, text, c => .ok (text, c)
  | fuel + 1, text, c =>
    if c.peek = '%' then do
      let (bytes, c) ← percentBytes c.rest.length [] c
      match Charset.Utf8.decodeStrict bytes with
      | .ok cs => addressFrom fuel (text ++ cs) c
      | .error _ => malformed
    else
      let (stretch, c) := c.takeWhile isAddressChar
      if stretch.isEmpty then .ok (text, c) else addressFrom fuel (text ++ stretch) c

/-- Reads the address of a tag, which is not empty. -/
def readAddress (c : Cursor) : Reading (List Char × Cursor) := do
  let (text, after) ← addressFrom (c.rest.length + 1) [] c
  if after.index = c.index then malformed else return (text, after)

/-- Reads the handle of a tag: a word between exclamation marks, or a single one. -/
def readHandle (c : Cursor) : Reading (List Char × Cursor) :=
  if c.peek ≠ '!' then malformed
  else if c.peek 1 = ' ' then .ok (['!'], c.step)
  else
    let word := (c.rest.drop 1).takeWhile isWordChar
    if c.peek (word.length + 1) = '!' then
      .ok ('!' :: word ++ ['!'], c.skip (word.length + 2))
    else malformed

/-- Reads a tag that starts here. -/
def readTag (c : Cursor) : Reading (Token × Cursor) := do
  let next := c.peek 1
  let (token, c) ←
    if next = '<' then do
      let (suffix, c) ← readAddress (c.skip 2)
      if c.peek = '>' then pure (Token.tag none suffix, c.step) else malformed
    else if isGapOrEnd next then pure (Token.tag none ['!'], c.step)
    else
      let word := (c.rest.drop 1).takeWhile fun ch => !isSpaceOrEnd ch
      if word.contains '!' then do
        let (handle, c) ← readHandle c
        let (suffix, c) ← readAddress c
        pure (Token.tag (some handle) suffix, c)
      else do
        let (suffix, c) ← readAddress c.step
        pure (Token.tag (some ['!']) suffix, c)
  if isSpaceOrEnd c.peek then return (token, c) else malformed

def readNumber (c : Cursor) : Reading (Nat × Cursor) :=
  let (digits, c) := c.takeWhile Char.isDigit
  if digits.isEmpty then malformed
  else .ok (digits.foldl (fun n d => n * 10 + hexDigit d) 0, c)

def directiveBody (name : List Char) (c : Cursor) : Reading (Directive × Cursor) := do
  if name = "YAML".toList then
    let (major, c) ← readNumber c.skipSpaces
    if c.peek ≠ '.' then malformed
    else
      let (_, c) ← readNumber c.step
      if isSpaceOrEnd c.peek then return (.version major, c) else malformed
  else if name = "TAG".toList then
    let (handle, c) ← readHandle c.skipSpaces
    if c.peek ≠ ' ' then malformed
    else
      let (start, c) ← readAddress c.skipSpaces
      if isSpaceOrEnd c.peek then return (.tag handle start, c) else malformed
  else return (.other, c.dropWhile fun ch => !isBreakOrEnd ch)

/-- Reads a directive that starts here. -/
def readDirective (c : Cursor) : Reading (Token × Cursor) := do
  let (name, c) := c.step.takeWhile isWordChar
  if name.isEmpty || !isSpaceOrEnd c.peek then malformed
  else
    let (directive, c) ← directiveBody name c
    return (.directive directive, ← c.endLine)

/-- Reads the name of an anchor or an alias that starts here. -/
def readName (c : Cursor) : Reading (List Char × Cursor) :=
  let (name, c) := c.step.takeWhile isWordChar
  if name.isEmpty then malformed
  else if isGapOrEnd c.peek || "?:,]\x7d%@\x60".toList.contains c.peek then .ok (name, c)
  else malformed

/-! ## Scanning -/

/-- A place where a key without a mark may have started. -/
structure PossibleKey where
  /-- How many tokens stood before it. -/
  place : Nat
  /-- Whether nothing else may stand there. -/
  required : Bool
  index : Nat
  line : Nat
  column : Nat

/-- What the scanning knows about the text read so far. -/
structure Scan where
  cursor : Cursor
  tokens : List Token := []
  /-- The indent of the innermost collection of lines, and of those around it. -/
  indent : Int := -1
  outer : List Int := []
  /-- How many brackets are open. -/
  depth : Nat := 0
  /-- Whether a key without a mark may start here. -/
  keyAllowed : Bool := true
  /-- The possible key at each depth of brackets. -/
  keys : List (Nat × PossibleKey) := []
  done : Bool := false

namespace Scan

def push (s : Scan) (token : Token) : Scan := { s with tokens := s.tokens ++ [token] }

def insert (s : Scan) (place : Nat) (token : Token) : Scan :=
  { s with tokens := s.tokens.take place ++ token :: s.tokens.drop place }

/-- Skips spaces, comments and line ends; outside of brackets a key may start behind a line end. -/
def skipGapTo : Nat → Scan → Scan
  | 0, s => s
  | fuel + 1, s =>
    let c := s.cursor.skipSpaces.skipComment
    if isBreak c.peek then
      let s := if s.depth = 0 then { s with keyAllowed := true } else s
      skipGapTo fuel { s with cursor := c.takeBreak.2 }
    else { s with cursor := c }

/-- Skips what stands between two tokens. -/
def skipGap (s : Scan) : Scan :=
  let c := s.cursor
  -- a byte order mark may stand at the start of the text
  let c := if c.index = 0 && c.peek = '\uFEFF' then c.step else c
  skipGapTo (c.rest.length + 1) { s with cursor := c }

/-- How far a key may be from its colon. -/
def longestKey : Nat := 1024

/-- Forgets the possible keys that are too far back; a required one is an error. -/
def dropStale (s : Scan) : Reading Scan :=
  let isStale (key : PossibleKey) : Bool :=
    key.line ≠ s.cursor.line || longestKey < s.cursor.index - key.index
  if s.keys.any fun entry => isStale entry.2 && entry.2.required then malformed
  else .ok { s with keys := s.keys.filter fun entry => !isStale entry.2 }

/-- Forgets the possible key at the present depth; a required one is an error. -/
def dropKey (s : Scan) : Reading Scan :=
  match s.keys.lookup s.depth with
  | some key =>
    if key.required then malformed
    else .ok { s with keys := s.keys.filter fun entry => entry.1 ≠ s.depth }
  | none => .ok s

/-- Notes that a key may start here. -/
def saveKey (s : Scan) : Reading Scan := do
  -- at the indent of a mapping of lines nothing but a key may stand
  let required := s.depth = 0 && s.indent = Int.ofNat s.cursor.column
  if s.keyAllowed then
    let s ← s.dropKey
    let key : PossibleKey :=
      ⟨s.tokens.length, required, s.cursor.index, s.cursor.line, s.cursor.column⟩
    return { s with keys := (s.depth, key) :: s.keys }
  else return s

/-- Ends the collections of lines that are indented more than a column. -/
def unwindTo : List Int → Int → Scan → Scan
  | outer, column, s =>
    if column < s.indent then
      match outer with
      | [] => { (s.push .blockEnd) with indent := -1, outer := [] }
      | indent :: outer => unwindTo outer column { (s.push .blockEnd) with indent, outer }
    else s

/-- Ends the collections of lines that are indented more than a column; within brackets indentation
does not count. -/
def unwind (s : Scan) (column : Int) : Scan :=
  if s.depth = 0 then unwindTo s.outer column s else s

/-- Opens a collection of lines at a column if it is indented more than the present one; `place` is
where its token goes. -/
def openBlock (s : Scan) (column place : Nat) (token : Token) : Scan :=
  if s.indent < Int.ofNat column then
    { (s.insert place token) with indent := Int.ofNat column, outer := s.indent :: s.outer }
  else s

/-- Reads a mark of one character. -/
def mark (s : Scan) (token : Token) : Scan := { (s.push token) with cursor := s.cursor.step }

def fetchEnd (s : Scan) : Reading Scan := do
  let s ← (s.unwind (-1)).dropKey
  return { (s.push .streamEnd) with keyAllowed := false, keys := [], done := true }

def fetchDirective (s : Scan) : Reading Scan := do
  let s ← (s.unwind (-1)).dropKey
  let (token, cursor) ← readDirective s.cursor
  return { (s.push token) with cursor, keyAllowed := false }

def fetchDocumentMark (s : Scan) (token : Token) : Reading Scan := do
  let s ← (s.unwind (-1)).dropKey
  return { (s.push token) with cursor := s.cursor.skip 3, keyAllowed := false }

def fetchOpening (s : Scan) (token : Token) : Reading Scan := do
  let s ← s.saveKey
  return { (s.mark token) with depth := s.depth + 1, keyAllowed := true }

/-- A closing bracket, which must have an opening one. -/
def fetchClosing (s : Scan) (token : Token) : Reading Scan := do
  let s ← s.dropKey
  if s.depth = 0 then malformed
  else return { (s.mark token) with depth := s.depth - 1, keyAllowed := false }

/-- A comma between brackets. -/
def fetchFlowEntry (s : Scan) : Reading Scan := do
  let s ← { s with keyAllowed := true }.dropKey
  return s.mark .flowEntry

/-- The mark of an entry of a sequence of lines. -/
def fetchBlockEntry (s : Scan) : Reading Scan := do
  let s ←
    if s.depth = 0 then
      if s.keyAllowed then
        pure (s.openBlock s.cursor.column s.tokens.length .blockSequenceStart)
      else malformed
    else pure s
  let s ← { s with keyAllowed := true }.dropKey
  return s.mark .blockEntry

def fetchKey (s : Scan) : Reading Scan := do
  let s ←
    if s.depth = 0 then
      if s.keyAllowed then
        pure (s.openBlock s.cursor.column s.tokens.length .blockMappingStart)
      else malformed
    else pure s
  -- behind the mark another collection may start, but not between brackets
  let s ← { s with keyAllowed := s.depth = 0 }.dropKey
  return s.mark .key

/-- The colon behind a key. -/
def fetchValue (s : Scan) : Reading Scan := do
  match s.keys.lookup s.depth with
  | some key =>
    let s := { s with keys := s.keys.filter fun entry => entry.1 ≠ s.depth }
    -- the key is only known as one now, so its tokens go in where it started
    let s := s.insert key.place .key
    let s := if s.depth = 0 then s.openBlock key.column key.place .blockMappingStart else s
    return { s with keyAllowed := false }.mark .value
  | none =>
    let s ←
      if s.depth = 0 then
        if s.keyAllowed then
          pure (s.openBlock s.cursor.column s.tokens.length .blockMappingStart)
        else malformed
      else pure s
    let s ← { s with keyAllowed := s.depth = 0 }.dropKey
    return s.mark .value

/-- A token that may be a key without a mark. -/
def fetchKeyLike (s : Scan) (read : Cursor → Reading (Token × Cursor)) : Reading Scan := do
  let s ← s.saveKey
  let (token, cursor) ← read s.cursor
  return { (s.push token) with cursor, keyAllowed := false }

/-- A scalar between quotes. -/
def readQuotedToken (c : Cursor) : Reading (Token × Cursor) := do
  let (text, c) ← readQuoted c
  return (.scalar text false, c)

/-- An alias or an anchor. -/
def readNamed (token : List Char → Token) (c : Cursor) : Reading (Token × Cursor) := do
  let (name, c) ← readName c
  return (token name, c)

def fetchBlockScalar (s : Scan) : Reading Scan := do
  let s ← { s with keyAllowed := true }.dropKey
  let (text, cursor) ← readBlock s.indent s.cursor
  return { (s.push (.scalar text false)) with cursor }

/-- A plain scalar. A key may follow it only if it ended at the start of a line. -/
def fetchPlain (s : Scan) : Reading Scan := do
  let s ← s.saveKey
  let plain := readPlain (s.depth ≠ 0) s.indent s.cursor
  return { (s.push (.scalar plain.text true)) with
    cursor := plain.cursor, keyAllowed := plain.atLineStart }

/-- Whether a plain scalar can start here. -/
def startsPlain (s : Scan) : Bool :=
  let ch := s.cursor.peek
  let next := s.cursor.peek 1
  let marks := "-?:,[]\x7b\x7d#&*!|>'\"%@\x60".toList
  (!isGapOrEnd ch && !marks.contains ch)
    || (!isGapOrEnd next && (ch = '-' || (s.depth = 0 && (ch = '?' || ch = ':'))))

/-- Reads the next token behind the gap. -/
def fetchHere (s : Scan) : Reading Scan :=
  let c := s.cursor
  let ch := c.peek
  let beforeGap := isGapOrEnd (c.peek 1)
  if ch = '\x00' then s.fetchEnd
  -- directives and document marks count at the start of a line only
  else if ch = '%' && c.column = 0 then s.fetchDirective
  else if c.column = 0 && c.atMark '-' then s.fetchDocumentMark .documentStart
  else if c.column = 0 && c.atMark '.' then s.fetchDocumentMark .documentEnd
  else if ch = '[' then s.fetchOpening .flowSequenceStart
  else if ch = '\x7b' then s.fetchOpening .flowMappingStart
  else if ch = ']' then s.fetchClosing .flowSequenceEnd
  else if ch = '\x7d' then s.fetchClosing .flowMappingEnd
  else if ch = ',' then s.fetchFlowEntry
  else if ch = '-' && beforeGap then s.fetchBlockEntry
  else if ch = '?' && (s.depth ≠ 0 || beforeGap) then s.fetchKey
  else if ch = ':' && (s.depth ≠ 0 || beforeGap) then s.fetchValue
  else if ch = '*' then s.fetchKeyLike (readNamed .reference)
  else if ch = '&' then s.fetchKeyLike (readNamed .anchor)
  else if ch = '!' then s.fetchKeyLike readTag
  else if (ch = '|' || ch = '>') && s.depth = 0 then s.fetchBlockScalar
  else if ch = '\'' || ch = '"' then s.fetchKeyLike readQuotedToken
  else if s.startsPlain then s.fetchPlain
  else malformed

/-- Reads the next token. -/
def fetch (s : Scan) : Reading Scan := do
  let s ← s.skipGap.dropStale
  (s.unwind (Int.ofNat s.cursor.column)).fetchHere

/-- Reads tokens up to the end of the text. -/
def run : Nat → Scan → Reading (List Token)
  | 0, _ => malformed
  | fuel + 1, s =>
    if s.done then .ok s.tokens
    else do run fuel (← s.fetch)

end Scan

/-- Whether the character may stand in a text at all. -/
def isAllowed (c : Char) : Bool :=
  let n := c.toNat
  n = 9 || n = 10 || n = 13 || (0x20 ≤ n && n ≤ 0x7E) || n = 0x85 || (0xA0 ≤ n && n ≤ 0xD7FF)
    || (0xE000 ≤ n && n ≤ 0xFFFD) || 0x10000 ≤ n

/-- The tokens of a text. Each but the last takes up a character. -/
def Token.scan (text : List Char) : Reading (List Token) :=
  if text.all isAllowed then Scan.run (text.length + 3) { cursor := ⟨text, 0, 0, 0⟩ }
  else malformed

end As2Exchange.Yaml
