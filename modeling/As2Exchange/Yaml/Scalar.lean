import As2Exchange.Yaml.Cursor

/-!
# Scalars

How a single text is written: plain, between quotes, or as a block of lines.

- `readPlain` reads a plain scalar, which ends before a comment, a mapping mark or a smaller indent;
- `readQuoted` reads a scalar between apostrophes or quotation marks;
- `readBlock` reads a block, whose lines are kept or folded.

A line end within a plain or quoted scalar is folded: alone it is a space, of several the first one
is dropped.
-/

namespace As2Exchange.Yaml

/-! ## Plain scalars -/

/-- Whether the characters `c` and `next` end a plain stretch, within brackets or outside. -/
def endsPlain (inFlow : Bool) (c next : Char) : Bool :=
  isGapOrEnd c
    || (c = ':' && (isGapOrEnd next || (inFlow && [',', '[', ']', '\x7b', '\x7d'].contains next)))
    || (inFlow && [',', '?', '[', ']', '\x7b', '\x7d'].contains c)

/-- The plain stretch at the front of a text. -/
def plainStretch (inFlow : Bool) : List Char → List Char
  | [] => []
  | c :: rest =>
    if endsPlain inFlow c (rest.headD '\x00') then [] else c :: plainStretch inFlow rest

/-- A folded line end with the line ends after it. -/
def fold (first : List Char) (more : List Char) : List Char :=
  if first ≠ ['\n'] then first ++ more
  else if more.isEmpty then [' ']
  else more

/-- Skips spaces and line ends up to the next text or document mark; gives the line ends, and
whether a document mark was met. -/
def plainBreaks : Nat → List Char → Cursor → List Char × Bool × Cursor
  | 0, breaks, c => (breaks, false, c)
  | fuel + 1, breaks, c =>
    if c.peek = ' ' then plainBreaks fuel breaks c.step
    else if isBreak c.peek then
      let (lineEnd, c) := c.takeBreak
      if c.atDocumentMark then (breaks ++ lineEnd, true, c)
      else plainBreaks fuel (breaks ++ lineEnd) c
    else (breaks, false, c)

/-- The gap behind a plain stretch: what it stands for if the scalar goes on, and whether it crosses
a line end. -/
def plainGap (c : Cursor) : List Char × Bool × Cursor :=
  let (spaces, c) := c.takeWhile (· = ' ')
  if isBreak c.peek then
    let (lineEnd, c) := c.takeBreak
    if c.atDocumentMark then ([], true, c)
    else
      let (breaks, marked, c) := plainBreaks c.rest.length [] c
      (if marked then [] else fold lineEnd breaks, true, c)
  else (spaces, false, c)

/-- A plain scalar that has been read. -/
structure Plain where
  text : List Char
  /-- Whether the scalar ended at the start of a line. -/
  atLineStart : Bool
  cursor : Cursor

/-- Reads stretches and the gaps between them. -/
def plainFrom (inFlow : Bool) (indent : Int) :
    Nat → List Char → List Char → Bool → Cursor → Plain
  | 0, text, _, atLineStart, c => ⟨text, atLineStart, c⟩
  | fuel + 1, text, gap, atLineStart, c =>
    -- a number sign behind a gap starts a comment, within a stretch it is text
    let stretch := if c.peek = '#' then [] else plainStretch inFlow c.rest
    if stretch.isEmpty then ⟨text, atLineStart, c⟩
    else
      let text := text ++ gap ++ stretch
      let (gap, atLineStart, c) := plainGap (c.skip stretch.length)
      if gap.isEmpty || c.peek = '#' || (!inFlow && Int.ofNat c.column < indent) then
        ⟨text, atLineStart, c⟩
      else plainFrom inFlow indent fuel text gap atLineStart c

/-- Reads a plain scalar within a collection of the given indent. -/
def readPlain (inFlow : Bool) (indent : Int) (c : Cursor) : Plain :=
  plainFrom inFlow (indent + 1) (c.rest.length + 1) [] [] false c

/-! ## Quoted scalars -/

/-- The characters that single letters behind a backslash stand for. -/
def escapes : List (Char × Char) :=
  [('0', '\x00'), ('a', '\x07'), ('b', '\x08'), ('t', '\t'), ('\t', '\t'), ('n', '\n'),
   ('v', '\x0b'), ('f', '\x0c'), ('r', '\r'), ('e', '\x1b'), (' ', ' '), ('"', '"'),
   ('\\', '\\'), ('/', '/'), ('N', '\u0085'), ('_', '\u00a0'), ('L', '\u2028'), ('P', '\u2029')]

/-- How many hexadecimal digits follow a letter behind a backslash. -/
def codeLength? (c : Char) : Option Nat :=
  if c = 'x' then some 2 else if c = 'u' then some 4 else if c = 'U' then some 8 else none

/-- Skips blanks and line ends within quotes; gives the line ends. A document mark is an error. -/
def quotedBreaks : Nat → List Char → Cursor → Reading (List Char × Cursor)
  | 0, breaks, c => .ok (breaks, c)
  | fuel + 1, breaks, c =>
    if c.atDocumentMark then malformed
    else
      let c := c.dropWhile fun ch => ch = ' ' || ch = '\t'
      if isBreak c.peek then
        let (lineEnd, c) := c.takeBreak
        quotedBreaks fuel (breaks ++ lineEnd) c
      else .ok (breaks, c)

/-- The character of a code behind a backslash. -/
def escapedCode (digits : List Char) (length : Nat) : Reading Char :=
  if digits.length < length || !digits.all isHexDigit then malformed
  else
    let code := hexNumber digits
    if 0x80000000 ≤ code then
      .error (.unreadable "OverflowError" "Python int too large to convert to C int")
    else if 0x110000 ≤ code then
      .error (.unreadable "ValueError" "chr() arg not in range(0x110000)")
    else if Nat.isValidChar code then .ok (Char.ofNat code)
    else malformed

/-- Reads what a backslash stands for. -/
def readEscape (c : Cursor) : Reading (List Char × Cursor) :=
  let ch := c.peek
  match escapes.lookup ch with
  | some meant => .ok ([meant], c.step)
  | none =>
    match codeLength? ch with
    | some length => do
      let digits := c.step.rest.take length
      return ([← escapedCode digits length], c.step.skip length)
    | none =>
      if isBreak ch then
        let c := c.takeBreak.2
        quotedBreaks c.rest.length [] c
      else malformed

/-- Whether the character ends a stretch without blanks within quotes. -/
def endsQuotedStretch (c : Char) : Bool :=
  isGapOrEnd c || c = '\'' || c = '"' || c = '\\'

def quotedGap (c : Cursor) : Reading (List Char × Cursor) := do
  let (blanks, c) := c.takeWhile fun ch => ch = ' ' || ch = '\t'
  if c.peek = '\x00' then malformed
  else if isBreak c.peek then
    let (lineEnd, c) := c.takeBreak
    let (breaks, c) ← quotedBreaks c.rest.length [] c
    return (fold lineEnd breaks, c)
  else return (blanks, c)

/-- Reads up to the closing quote. -/
def quotedFrom (double : Bool) : Nat → List Char → Cursor → Reading (List Char × Cursor)
  | 0, _, _ => malformed
  | fuel + 1, text, c => do
    let ch := c.peek
    if !double && ch = '\'' then
      if c.peek 1 = '\'' then quotedFrom double fuel (text ++ ['\'']) (c.skip 2)
      else return (text, c.step)
    else if double && ch = '"' then return (text, c.step)
    else if double && ch = '\\' then
      let (meant, c) ← readEscape c.step
      quotedFrom double fuel (text ++ meant) c
    else if isGapOrEnd ch then
      let (gap, c) ← quotedGap c
      quotedFrom double fuel (text ++ gap) c
    else if endsQuotedStretch ch then quotedFrom double fuel (text ++ [ch]) c.step
    else
      let (stretch, c) := c.takeWhile fun ch => !endsQuotedStretch ch
      quotedFrom double fuel (text ++ stretch) c

/-- Reads a scalar that starts with a quote here. -/
def readQuoted (c : Cursor) : Reading (List Char × Cursor) :=
  quotedFrom (c.peek = '"') (c.rest.length + 1) [] c.step

/-! ## Block scalars -/

/-- What is done with the line ends at the end of a block. -/
inductive Chomping where
  | strip
  | clip
  | keep
  deriving DecidableEq, Repr

def chomping? (c : Char) : Option Chomping :=
  if c = '+' then some .keep else if c = '-' then some .strip else none

/-- The digit that tells the indent of a block, which is not zero. -/
def increment (c : Char) : Reading Nat :=
  if c = '0' then malformed else .ok (c.toNat - 48)

/-- The signs in the first line of a block: the chomping and the indent, in either order. -/
def blockSigns (c : Cursor) : Reading (Chomping × Option Nat × Cursor) := do
  let (chomping, number, c) ← match chomping? c.peek with
    | some chomping =>
      let c := c.step
      if c.peek.isDigit then pure (chomping, some (← increment c.peek), c.step)
      else pure (chomping, none, c)
    | none =>
      if c.peek.isDigit then
        let number ← increment c.peek
        let c := c.step
        match chomping? c.peek with
        | some chomping => pure (chomping, some number, c.step)
        | none => pure (Chomping.clip, some number, c)
      else pure (Chomping.clip, none, c)
  if isSpaceOrEnd c.peek then return (chomping, number, c) else malformed

/-- Skips the empty lines before a block without a told indent; gives their line ends and the
largest indent that was met. -/
def blockStart : Nat → List Char → Nat → Cursor → List Char × Nat × Cursor
  | 0, breaks, widest, c => (breaks, widest, c)
  | fuel + 1, breaks, widest, c =>
    if c.peek = ' ' then
      let c := c.step
      blockStart fuel breaks (max widest c.column) c
    else if isBreak c.peek then
      let (lineEnd, c) := c.takeBreak
      blockStart fuel (breaks ++ lineEnd) widest c
    else (breaks, widest, c)

/-- The place behind spaces up to an indent. -/
def skipIndent (indent : Nat) (c : Cursor) : Cursor :=
  c.skip ((c.rest.take (indent - c.column)).takeWhile (· = ' ')).length

/-- Skips empty lines within a block; gives their line ends. -/
def blockBreaks (indent : Nat) : Nat → List Char → Cursor → List Char × Cursor
  | 0, breaks, c => (breaks, c)
  | fuel + 1, breaks, c =>
    let c := skipIndent indent c
    if isBreak c.peek then
      let (lineEnd, c) := c.takeBreak
      blockBreaks indent fuel (breaks ++ lineEnd) c
    else (breaks, c)

/-- Whether a line of a block is more indented than the block. -/
def startsBlank (c : Cursor) : Bool := c.peek = ' ' || c.peek = '\t'

/-- Reads the lines of a block; `breaks` are the line ends of the empty lines before the next one.
Gives the text, the last line end and the line ends after it. -/
def blockLines (folded : Bool) (indent : Nat) :
    Nat → List Char → List Char → Cursor → List Char × List Char × List Char × Cursor
  | 0, text, breaks, c => (text, [], breaks, c)
  | fuel + 1, text, breaks, c =>
    if c.column = indent && c.peek ≠ '\x00' then
      let blank := startsBlank c
      let (line, c) := c.takeWhile fun ch => !isBreakOrEnd ch
      let text := text ++ breaks ++ line
      let (lineEnd, c) := c.takeBreak
      let (breaks, c) := blockBreaks indent (c.rest.length + 1) [] c
      if c.column = indent && c.peek ≠ '\x00' then
        -- a line end is folded only between two lines that start at the indent itself
        let joint :=
          if folded && lineEnd = ['\n'] && !blank && !startsBlank c then
            if breaks.isEmpty then [' '] else []
          else lineEnd
        blockLines folded indent fuel (text ++ joint) breaks c
      else (text, lineEnd, breaks, c)
    else (text, [], breaks, c)

/-- Reads a block that starts with its sign here, within a collection of the given indent. -/
def readBlock (indent : Int) (c : Cursor) : Reading (List Char × Cursor) := do
  let folded := c.peek = '>'
  let (chomping, number, c) ← blockSigns c.step
  let c ← c.endLine
  let least := max 1 (indent + 1).toNat
  let (breaks, column, c) := match number with
    | none =>
      -- the first line that is not empty sets the indent
      let (breaks, widest, c) := blockStart c.rest.length [] 0 c
      (breaks, max least widest, c)
    | some number =>
      let column := least + number - 1
      let (breaks, c) := blockBreaks column (c.rest.length + 1) [] c
      (breaks, column, c)
  let (text, lineEnd, after, c) := blockLines folded column (c.rest.length + 1) [] breaks c
  let tail := match chomping with
    | .strip => []
    | .clip => lineEnd
    | .keep => lineEnd ++ after
  return (text ++ tail, c)

end As2Exchange.Yaml
