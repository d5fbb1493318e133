import As2Exchange.Failure

/-!
# Cursors

A place in a YAML text: what is left to read, and how far the place is from the start of the text
and of its line. Line ends are newlines, the next-line control and the two Unicode separators.
-/

namespace As2Exchange.Yaml

/-- A reading that may find the text malformed. -/
abbrev Reading := Except ConfigError

/-- The text breaks a rule of the language. -/
def malformed {α : Type} : Reading α := .error .malformed

/-- A place in a text. -/
structure Cursor where
  rest : List Char
  index : Nat := 0
  line : Nat := 0
  column : Nat := 0

/-- Whether the character ends a line. -/
def isBreak (c : Char) : Bool := c = '\n' || c = '\u0085' || c = '\u2028' || c = '\u2029'

/-- Whether the character ends a line or stands for the end of the text. -/
def isBreakOrEnd (c : Char) : Bool := c = '\x00' || isBreak c

/-- Whether the character is a space or ends a line or the text. -/
def isSpaceOrEnd (c : Char) : Bool := c = ' ' || isBreakOrEnd c

/-- Whether the character is a space or a tab or ends a line or the text. -/
def isGapOrEnd (c : Char) : Bool := c = '\t' || isSpaceOrEnd c

/-- Whether the character can stand in the name of an anchor. -/
def isWordChar (c : Char) : Bool := c.isAlphanum || c = '-' || c = '_'

/-- Whether the character is a hexadecimal digit. -/
def isHexDigit (c : Char) : Bool :=
  c.isDigit || ('a' ≤ c && c ≤ 'f') || ('A' ≤ c && c ≤ 'F')

/-- The number of a hexadecimal digit. -/
def hexDigit (c : Char) : Nat :=
  if c.isDigit then c.toNat - 48 else if 'a' ≤ c then c.toNat - 87 else c.toNat - 55

/-- The number that hexadecimal digits write. -/
def hexNumber (cs : List Char) : Nat := cs.foldl (fun n c => n * 16 + hexDigit c) 0

namespace Cursor

/-- The character some places ahead; a NUL stands for the end of the text. -/
def peek (c : Cursor) (ahead : Nat := 0) : Char := c.rest.getD ahead '\x00'

/-- The place behind the next character. A byte order mark takes up no column. -/
def step (c : Cursor) : Cursor :=
  match c.rest with
  | [] => c
  | ch :: rest =>
    if isBreak ch then ⟨rest, c.index + 1, c.line + 1, 0⟩
    else if ch = '\uFEFF' then ⟨rest, c.index + 1, c.line, c.column⟩
    else ⟨rest, c.index + 1, c.line, c.column + 1⟩

/-- The place some characters on. -/
def skip (c : Cursor) : Nat → Cursor
  | 0 => c
  | n + 1 => c.step.skip n

/-- The characters of a class at the place, and the place behind them. -/
def takeWhile (c : Cursor) (wanted : Char → Bool) : List Char × Cursor :=
  let taken := c.rest.takeWhile wanted
  (taken, c.skip taken.length)

/-- The place behind the characters of a class. -/
def dropWhile (c : Cursor) (wanted : Char → Bool) : Cursor := (c.takeWhile wanted).2

/-- The place behind spaces. -/
def skipSpaces (c : Cursor) : Cursor := c.dropWhile (· = ' ')

/-- The place behind a comment, if one starts here. -/
def skipComment (c : Cursor) : Cursor :=
  if c.peek = '#' then c.dropWhile fun ch => !isBreakOrEnd ch else c

/-- The line end at the place as it counts in a text, if there is one, and the place behind it. -/
def takeBreak (c : Cursor) : List Char × Cursor :=
  let ch := c.peek
  if ch = '\n' || ch = '\u0085' then (['\n'], c.step)
  else if isBreak ch then ([ch], c.step)
  else ([], c)

/-- The end of a line that holds nothing more than a comment. -/
def endLine (c : Cursor) : Reading Cursor :=
  let c := c.skipSpaces.skipComment
  if isBreakOrEnd c.peek then .ok c.takeBreak.2 else malformed

/-- Whether three equal characters with a gap behind them stand here. -/
def atMark (c : Cursor) (mark : Char) : Bool :=
  c.rest.take 3 = [mark, mark, mark] && isGapOrEnd (c.peek 3)

/-- Whether a mark between documents stands here. -/
def atDocumentMark (c : Cursor) : Bool := c.atMark '-' || c.atMark '.'

end Cursor

end As2Exchange.Yaml
