import As2Exchange.Mime.Line
import As2Exchange.Text.Blank
import As2Exchange.Text.Case

/-!
# Header blocks

The header block at the start of an entity. It ends before the first line that is neither a field
nor the continuation of one; a blank line there belongs to the block, any other line begins the
body.

- `Header.split` parts the lines of an entity into header lines and body lines;
- `Header.ofLines` reads the fields of header lines;
- `Header.get?` finds a field by its name in any letter case.
-/

namespace As2Exchange.Mime

/-- A field of a header block. -/
structure Field where
  name : String
  value : String
  deriving DecidableEq, Repr

namespace Header

/-! ## Lines -/

/-- What an envelope line of a mailbox starts with. -/
def envelopeMark : Bytes := Bytes.ofAscii "From ".toList

/-- Whether the line is the envelope line of a mailbox. -/
def isEnvelope (line : Line) : Bool := envelopeMark.isPrefixOf line

/-- Whether the line continues the field before it. -/
def isContinuation : Line → Bool
  | b :: _ => b = 0x20 || b = 0x09
  | [] => false

/-- Whether the byte can stand in the name of a field. -/
def isNameByte (b : UInt8) : Bool := 33 ≤ b && b ≤ 126 && b ≠ 58

/-- Whether the line starts a field: a name, which may be empty, and a colon. -/
def isFieldStart (line : Line) : Bool := (line.dropWhile isNameByte).head? = some 58

/-- Whether the line belongs to a header block. -/
def isHeaderLine (line : Line) : Bool :=
  isEnvelope line || isContinuation line || isFieldStart line

/-- Parts the lines of an entity into header lines and body lines. -/
def split (lines : List Line) : List Line × List Line :=
  let head := lines.takeWhile isHeaderLine
  match lines.dropWhile isHeaderLine with
  | line :: rest => (head, if isBlankLine line then rest else line :: rest)
  | [] => (head, [])

/-! ## Fields -/

/-- Bytes as text; a byte beyond ASCII becomes a replacement character. -/
def textOf (bytes : Bytes) : String :=
  String.ofList (bytes.map fun b => if b < 128 then Char.ofNat b.toNat else '\uFFFD')

/-- The field that starts with a line and is continued by others. -/
def fieldOf (first : Line) (continued : List Line) : Field :=
  let name := first.takeWhile isNameByte
  -- one more byte is dropped for the colon
  let value := (first.drop (name.length + 1)).dropWhile fun b => b = 0x20 || b = 0x09
  let whole := value ++ continued.flatten
  ⟨textOf name, textOf ((whole.reverse.dropWhile isLineEnd).reverse)⟩

/-- Reads header lines. Lines that continue nothing, fields without a name and envelope lines are
passed over; an envelope line that is the last of several lines belongs to the body and is given
back. -/
def fieldsFrom (isFirst : Bool) : List Line → List Field × Option Line
  | [] => ([], none)
  | line :: rest =>
    let continued := rest.takeWhile isContinuation
    if isContinuation line then fieldsFrom false rest
    else if isEnvelope line then
      if isFirst then fieldsFrom false rest
      else if rest.isEmpty then ([], some line)
      else fieldsFrom false rest
    else if line.head? = some 58 then fieldsFrom false rest
    else
      let (fields, back) := fieldsFrom false rest
      (fieldOf line continued :: fields, back)

/-- The fields of header lines, and the line that belongs to the body, if there is one. -/
def ofLines (lines : List Line) : List Field × Option Line := fieldsFrom true lines

/-- The value of the first field with a name. -/
def get? (fields : List Field) (name : String) : Option String :=
  (fields.find? fun field => Text.lower field.name = name).map (·.value)

end Header

end As2Exchange.Mime
