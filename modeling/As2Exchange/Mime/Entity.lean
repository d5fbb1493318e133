import As2Exchange.Mime.Parameter
import As2Exchange.Mime.Transfer

/-!
# Entities

An entity is a header block with a body. The body is a text or a list of further entities: the parts
of a multipart, the message inside a message, or the blocks of a delivery status.

- `Nesting` is how many levels of entities within entities there is room for;
- `Entity.read` reads an entity from its lines;
- `Entity.walk` lists an entity and all that it encloses, from the outside;
- `Entity.text` decodes the body of an entity.
-/

namespace As2Exchange.Mime

/-- How many levels of entities within entities can be read, the outermost one counted. Each level
takes up room in the machine that runs the program, so the number depends on its settings and on
what it is doing besides. There is always room for sixteen. -/
class Nesting where
  levels : Nat
  enough : 16 ≤ levels

/-- Room for a thousand levels. -/
@[reducible]
def Nesting.thousand : Nesting := ⟨1000, by decide⟩

/-- A header block with its body. -/
inductive Entity where
  /-- A body of bytes. -/
  | leaf (fields : List Field) (type : String) (content : Bytes)
  /-- A body of further entities. -/
  | branch (fields : List Field) (type : String) (parts : List Entity)

namespace Entity

/-! ## Access -/

/-- The fields of the header block. -/
def fields : Entity → List Field
  | leaf fields _ _ => fields
  | branch fields _ _ => fields

/-- The content type in lower case, without its parameters. -/
def type : Entity → String
  | leaf _ type _ => type
  | branch _ type _ => type

/-- The entities that the body consists of. -/
def parts : Entity → List Entity
  | leaf _ _ _ => []
  | branch _ _ parts => parts

def contentType? (entity : Entity) : Option String := Header.get? entity.fields "content-type"

mutual

/-- An entity and all that it encloses, each before what it encloses. -/
def walk : Entity → List Entity
  | leaf fields type content => [leaf fields type content]
  | branch fields type parts => branch fields type parts :: walkAll parts

/-- Several entities and all that they enclose. -/
def walkAll : List Entity → List Entity
  | [] => []
  | entity :: rest => walk entity ++ walkAll rest

end

/-! ## Boundaries -/

/-- How a boundary line goes on: it parts two entities, or it ends the last one. -/
inductive Delimiter where
  | opens
  | closes
  deriving DecidableEq, Repr

/-- Whether nothing follows but blanks and the end of the line. -/
def isLineTail (bytes : Bytes) : Bool :=
  match bytes.dropWhile fun b => b = 32 || b = 9 with
  | [] | [0x0A] | [0x0D] | [0x0D, 0x0A] => true
  | _ => false

/-- How a line goes on behind a boundary; nothing if it is no boundary line. -/
def delimiter? (boundary : List Char) (line : Line) : Option Delimiter :=
  let mark := '-' :: '-' :: boundary
  if mark.all (fun c => c.toNat < 128) && (Bytes.ofAscii mark).isPrefixOf line then
    match line.drop mark.length with
    | 45 :: 45 :: rest =>
      if isLineTail rest then some .closes else none
    | rest => if isLineTail rest then some .opens else none
  else none

def isDelimiter (boundary : List Char) (line : Line) : Bool := (delimiter? boundary line).isSome

/-- Cuts the lines behind a boundary line into parts. Boundary lines that follow each other count as
one; a missing last boundary line is tolerated. -/
def cutParts (boundary : List Char) (lines : List Line) : List (List Line) :=
  let content := lines.dropWhile (isDelimiter boundary)
  let part := content.takeWhile fun line => !isDelimiter boundary line
  match _h : content.dropWhile fun line => !isDelimiter boundary line with
  | [] => [part]
  | line :: rest =>
    if delimiter? boundary line = some .closes then [part] else part :: cutParts boundary rest
termination_by lines.length
decreasing_by
  have h1 : (content.dropWhile fun line => !isDelimiter boundary line).length ≤ content.length :=
    (List.dropWhile_suffix _).length_le
  have h2 : content.length ≤ lines.length :=
    (List.dropWhile_suffix (isDelimiter boundary)).length_le
  rw [_h] at h1
  simp only [List.length_cons] at h1
  omega

/-- The parts of a multipart body. Without a boundary line that opens a part there are none, and the
body is the text before the first boundary line. -/
def multipart (boundary : List Char) (lines : List Line) : Except Bytes (List (List Line)) :=
  let before := lines.takeWhile fun line => !isDelimiter boundary line
  match lines.dropWhile fun line => !isDelimiter boundary line with
  | [] => .error before.flatten
  | line :: rest =>
    if delimiter? boundary line = some .closes then .error before.flatten
    else .ok (cutParts boundary rest)

/-- The blocks of a delivery status, which blank lines set apart. -/
def cutBlocks (lines : List Line) : List (List Line) :=
  let block := lines.takeWhile fun line => !isBlankLine line
  match _h : lines.dropWhile fun line => !isBlankLine line with
  | [] => [block]
  | _ :: rest => if rest.isEmpty then [block] else block :: cutBlocks rest
termination_by lines.length
decreasing_by
  have h1 : (lines.dropWhile fun line => !isBlankLine line).length ≤ lines.length :=
    (List.dropWhile_suffix _).length_le
  rw [_h] at h1
  simp only [List.length_cons] at h1
  omega

/-! ## Reading -/

/-- Takes the line end that belongs to the next boundary line off the innermost last body. -/
def chompLast : Entity → Entity
  | leaf fields type content =>
    if ContentType.mainType type = "multipart" then leaf fields type content
    else leaf fields type (chomp content)
  | branch fields type parts =>
    if ContentType.mainType type = "multipart" then branch fields type parts
    else branch fields type (chompEnd parts)
where
  /-- Does so for the last of several entities. -/
  chompEnd : List Entity → List Entity
    | [] => []
    | [entity] => [chompLast entity]
    | entity :: next :: rest => entity :: chompEnd (next :: rest)

/-- Reads an entity where there is room for `depth` levels of them. An entity that does not tell its
type has the default one. -/
def readTo [Codecs] (defaultType : String) : Nat → List Line → Except Failure Entity
  | 0, _ => .error .tooDeep
  | depth + 1, lines => do
    let (head, rest) := Header.split lines
    let (fields, back) := Header.ofLines head
    -- an envelope line that ended the header block is the first line of the body
    let body := back.toList ++ rest
    let contentType? := Header.get? fields "content-type"
    let type := match contentType? with
      | some value => ContentType.ofField value
      | none => defaultType
    if type = "message/delivery-status" then
      return .branch fields type (← (cutBlocks body).mapM (readTo "text/plain" depth))
    else if ContentType.mainType type = "message" then
      return .branch fields type [← readTo "text/plain" depth body]
    else if ContentType.mainType type = "multipart" then
      match ← ContentType.boundary (contentType?.getD "") with
      | none => return .leaf fields type body.flatten
      | some boundary =>
        match multipart boundary body with
        | .error content => return .leaf fields type content
        | .ok parts =>
          -- a part of a digest is a message unless it says otherwise
          let inner := if type = "multipart/digest" then "message/rfc822" else "text/plain"
          return .branch fields type
            (← parts.mapM fun part => return (← readTo inner depth part).chompLast)
    else return .leaf fields type body.flatten

/-- Reads an entity. -/
def read [Codecs] [Nesting] (lines : List Line) : Except Failure Entity :=
  readTo "text/plain" Nesting.levels lines

/-! ## Content -/

/-- The text of an entity: its content, read from its transfer encoding and in its charset. A
branch has no text of its own. -/
def text [Codecs] (entity : Entity) : Except Failure String :=
  match entity with
  | branch _ _ _ => .ok ""
  | leaf fields _ content => do
    let encoding := Text.lower ((Header.get? fields "content-transfer-encoding").getD "")
    let charset? ← match Header.get? fields "content-type" with
      | some value => ContentType.charset value
      | none => pure none
    let charset := match charset? with
      -- a charset with an empty name counts as none
      | some name => if name.isEmpty then "utf-8" else name
      | none => "utf-8"
    match Charset.decodeNamed charset (decodeTransfer encoding content) with
    | .ok text => return text
    | .error e => .error (.charset e)

end Entity

end As2Exchange.Mime
