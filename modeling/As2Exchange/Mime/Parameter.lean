import As2Exchange.Mime.Header
import As2Exchange.Failure

/-!
# Content types and their parameters

A content type is followed by parameters, each a name and a value parted by an equals sign and set
off by semicolons. A value may be quoted. A long value may be spread over numbered parameters, and a
value with other characters may name its charset and write its bytes behind percent signs.

- `Parameter.list` reads the parameters of a field;
- `ContentType.charset` and `ContentType.boundary` are the two parameters that reading a report
  needs.
-/

namespace As2Exchange.Mime

namespace Parameter

/-! ## Pieces -/

/-- Whether a quoted text is open after the characters: a quotation mark behind a backslash does
not count. -/
def opensQuote : Bool → List Char → Bool
  | isOpen, [] => isOpen
  | isOpen, '\\' :: '"' :: rest => opensQuote isOpen rest
  | isOpen, c :: rest => opensQuote (if c = '"' then !isOpen else isOpen) rest

/-- The piece up to the first semicolon that stands outside of quotes, and what follows it; `piece`
holds the characters before, reversed. -/
def cutPiece (piece : List Char) : List Char → List Char × List Char
  | [] => (piece.reverse, [])
  | c :: rest =>
    if c = ';' && !opensQuote false piece.reverse then (piece.reverse, c :: rest)
    else cutPiece (c :: piece) rest

theorem length_cutPiece (piece cs : List Char) : (cutPiece piece cs).2.length ≤ cs.length := by
  fun_induction cutPiece piece cs <;> grind

/-- The pieces of a text that are each behind a semicolon. -/
def cutPieces (cs : List Char) : List (List Char) :=
  match cs with
  | ';' :: rest =>
    let cut := cutPiece [] rest
    cut.1 :: cutPieces cut.2
  | _ => []
termination_by cs.length
decreasing_by
  have := length_cutPiece [] rest
  simp only [List.length_cons]
  omega

/-- A text without blanks at its ends. -/
def trim (cs : List Char) : List Char := Text.trimBoth Text.isBlank cs

/-- The name and the value of a piece: a name in lower case before the equals sign, or a bare
name. -/
def nameAndValue (piece : List Char) : String × List Char :=
  match piece.dropWhile (· ≠ '=') with
  | _ :: value =>
    let name := trim (piece.takeWhile (· ≠ '='))
    (Text.lower (String.ofList name), trim value)
  | [] => (String.ofList (trim piece), [])

/-! ## Quotes -/

/-- Puts one character in the place of each pair of characters `first second`, from the left. -/
def replacePair (first second by' : Char) : List Char → List Char
  | c :: d :: rest =>
    if c = first && d = second then by' :: replacePair first second by' rest
    else c :: replacePair first second by' (d :: rest)
  | cs => cs

/-- Takes the quotes or the angle brackets off a value. -/
def unquote (cs : List Char) : List Char :=
  let inner := (cs.drop 1).dropLast
  if 1 < cs.length then
    if cs.head? = some '"' && cs.getLast? = some '"' then
      replacePair '\\' '"' '"' (replacePair '\\' '\\' '\\' inner)
    else if cs.head? = some '<' && cs.getLast? = some '>' then inner
    else cs
  else cs

/-- Puts a backslash before each backslash and each quotation mark. -/
def escape (cs : List Char) : List Char :=
  (cs.flatMap fun c => if c = '\\' then [c, c] else [c]).flatMap fun c =>
    if c = '"' then ['\\', c] else [c]

/-- A value in quotes. -/
def quote (cs : List Char) : List Char := '"' :: cs ++ ['"']

/-! ## Values -/

/-- The value of a parameter: as it is written, or with the names of its charset and its language
where it tells them. -/
inductive Value where
  | plain (text : List Char)
  | extended (charset language : Option (List Char)) (text : List Char)
  deriving DecidableEq, Repr

/-- A parameter that is one of several under a name: its number, its value, and whether the value
writes bytes behind percent signs. -/
structure Section where
  number : Option Nat
  text : List Char
  isEncoded : Bool
  deriving DecidableEq, Repr

def isWordChar (c : Char) : Bool := c.isAlphanum || c = '_'

/-- The name and the number of a parameter whose name ends in a star, or in a star and a number. -/
def sectionName? (name : List Char) : Option (List Char × Option Nat) :=
  let word := name.takeWhile isWordChar
  match word, name.drop word.length with
  | [], _ => none
  | word, '*' :: rest =>
    let digits := rest.takeWhile Char.isDigit
    match rest.drop digits.length with
    | [] => some (word, if digits.isEmpty then none else (String.ofList digits).toNat?)
    | ['*'] => if digits.isEmpty then none else some (word, (String.ofList digits).toNat?)
    | _ => none
  | _, _ => none

/-- The number of a hexadecimal digit. -/
def hexValue? (c : Char) : Option Nat :=
  if c.isDigit then some (c.toNat - 48)
  else if 'a' ≤ c && c ≤ 'f' then some (c.toNat - 87)
  else if 'A' ≤ c && c ≤ 'F' then some (c.toNat - 55)
  else none

/-- Puts characters in the place of percent signs with two digits. -/
def percentDecode : List Char → List Char
  | '%' :: a :: b :: rest =>
    match hexValue? a, hexValue? b with
    | some x, some y => Char.ofNat (x * 16 + y) :: percentDecode rest
    | _, _ => '%' :: percentDecode (a :: b :: rest)
  | c :: rest => c :: percentDecode rest
  | [] => []

/-- Whether one section comes before another: by number, then by text, a plain one first. -/
def Section.le (a b : Section) : Bool :=
  let left := a.number.getD 0
  let right := b.number.getD 0
  if left ≠ right then left < right
  else
    let leftText := String.ofList a.text
    let rightText := String.ofList b.text
    if leftText ≠ rightText then leftText < rightText
    else !a.isEncoded || b.isEncoded

/-- Sections can be ordered if all of them have a number or none has. -/
def checkOrder (sections : List Section) : Except Failure Unit :=
  match sections with
  | [] => .ok ()
  | first :: rest =>
    if rest.all fun s => s.number.isSome = first.number.isSome then .ok ()
    else if first.number.isSome then .error (.misuse (.notOrdered "NoneType" "int"))
    else .error (.misuse (.notOrdered "int" "NoneType"))

/-- Parts a value into charset, language and text at the first two apostrophes. -/
def splitExtended (cs : List Char) : Value :=
  match Text.pieces (· = '\'') [] cs with
  | charset :: language :: text :: more =>
    .extended (some charset) (some language)
      (quote (more.foldl (fun text piece => text ++ '\'' :: piece) text))
  | _ => .extended none none (quote cs)

def join (sections : List Section) : Except Failure Value := do
  checkOrder sections
  -- sections without numbers are put in the order of their texts
  let ordered := sections.mergeSort Section.le
  let text := (ordered.map fun s => if s.isEncoded then percentDecode s.text else s.text).flatten
  return if ordered.any (·.isEncoded) then splitExtended (escape text)
    else .plain (quote (escape text))

/-! ## Lists of parameters -/

def addSection (sections : List (List Char × List Section)) (name : List Char) (s : Section) :
    List (List Char × List Section) :=
  if (sections.lookup name).isSome then
    sections.map fun entry => if entry.1 = name then (name, entry.2 ++ [s]) else entry
  else sections ++ [(name, [s])]

/-- Parts parameters into those that stand alone and the sections of the others. -/
def sort : List (String × List Char) →
    List (String × Value) × List (List Char × List Section) →
    List (String × Value) × List (List Char × List Section)
  | [], done => done
  | (name, value) :: rest, (alone, sections) =>
    let value := unquote value
    match sectionName? name.toList with
    | some (word, number) =>
      let isEncoded := name.toList.getLast? = some '*'
      sort rest (alone, addSection sections word ⟨number, value, isEncoded⟩)
    | none => sort rest (alone ++ [(name, .plain (quote (escape value)))], sections)

/-- The parameters of a field, the content type itself first. Values that were spread over several
parameters come last. -/
def list (field : String) : Except Failure (List (String × Value)) :=
  -- with a semicolon before it the content type is a piece like its parameters
  match (cutPieces (';' :: field.toList)).map nameAndValue with
  | [] => .ok []
  | (first, value) :: rest => do
    let (alone, sections) := sort rest ([], [])
    let joined ← sections.mapM fun entry => do
      return (String.ofList entry.1, ← join entry.2)
    return (first, .plain value) :: alone ++ joined

/-- The first value under a name, without its quotes. -/
def find? (parameters : List (String × Value)) (name : String) : Option Value :=
  (parameters.find? fun entry => Text.lower entry.1 = name).map fun entry =>
    match entry.2 with
    | .plain text => .plain (unquote text)
    | .extended charset language text => .extended charset language (unquote text)

end Parameter

/-! ## Content types -/

namespace ContentType

/-- The type and subtype of a field in lower case; plain text if there is not exactly one slash. -/
def ofField (field : String) : String :=
  let type := Text.lower (Text.strip (String.ofList (field.toList.takeWhile (· ≠ ';'))))
  if type.toList.count '/' = 1 then type else "text/plain"

/-- The part of a type before the slash. -/
def mainType (type : String) : String := String.ofList (type.toList.takeWhile (· ≠ '/'))

/-- The bytes that stand for characters: one byte each below 256, else the escaped code. -/
def rawBytes (cs : List Char) : Bytes :=
  cs.flatMap fun c =>
    if c.toNat < 256 then [UInt8.ofNat c.toNat] else Bytes.ofAscii (Text.escapedCode c.toNat)

/-- The charset that a field names, in lower case; nothing if it names none or the name is beyond
ASCII. -/
def charset [Codecs] (field : String) : Except Failure (Option String) := do
  let name? ← match Parameter.find? (← Parameter.list field) "charset" with
    | none => pure none
    | some (.plain text) => pure (some (String.ofList text))
    | some (.extended inner _ text) =>
      let inner := (inner.getD [])
      let inner := if inner.isEmpty then "us-ascii" else String.ofList inner
      match Charset.decodeNamedStrict inner (rawBytes text) with
      | .ok decoded => pure (some (decoded.getD (String.ofList text)))
      | .error e => .error (.charset e)
  return name?.bind fun name =>
    if name.toList.all fun c => c.toNat < 128 then some (Text.lower name) else none

/-- The boundary that a field names, without blanks at its end; nothing if it names none. -/
def boundary [Codecs] (field : String) : Except Failure (Option (List Char)) := do
  let text? ← match Parameter.find? (← Parameter.list field) "boundary" with
    | none => pure none
    -- the lookup has taken one pair of quotes off, and a second pair goes here
    | some (.plain text) => pure (some (Parameter.unquote text))
    | some (.extended inner _ text) =>
      match Charset.decodeNamed (String.ofList (inner.getD "us-ascii".toList)) (rawBytes text) with
      | .ok decoded => pure (some decoded.toList)
      | .error e =>
        -- in an unknown charset the value stays as it is written
        if e.is "LookupError" then pure (some (Parameter.unquote text)) else .error (.charset e)
  return text?.map fun text => (text.reverse.dropWhile Text.isBlank).reverse

end ContentType

end As2Exchange.Mime
