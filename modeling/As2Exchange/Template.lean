import As2Exchange.Template.Objects
import As2Exchange.Text.Quoted
import As2Exchange.Text.Digit

/-!
# Templates

A template is a text with fields in curly brackets. A field names one of the known texts, perhaps
picks a single character of it or goes on to what is within it, perhaps asks for a literal, and
perhaps says how the text is to be laid out. A bracket written twice stands for itself.

- `Template.segments` cuts a template into literal texts and fields;
- `Layout.ofText` reads a layout and `Layout.apply` lays a text out;
- `Template.expand` puts a template together.

Everything is evaluated from the left: an error of an early field comes before a flaw of the
template further on.
-/

namespace As2Exchange

/-! ## Errors -/

inductive TemplateFlaw where
  | loneOpening
  | loneClosing
  | openingInName
  | unfinishedConversion
  | colonMissing
  | openLayout
  | closingMissing
  | tooDeep
  | tooManyDigits
  | emptyAccess
  | bracketMissing
  | strayAfterBracket
  | unknownConversion (c : Char)
  | bothSeparators
  | precisionMissing
  | invalidLayout (layout : String)
  | separatorNotAllowed (separator type : Char)
  | unknownType (c : Char)
  | spaceSign
  | sign
  | zeroSign
  | alternate
  | numericAlignment
  deriving DecidableEq, Repr

/-- Why a template cannot be expanded. -/
inductive TemplateError where
  | malformed (flaw : TemplateFlaw)
  /-- A field that asks for a text by its position. -/
  | position (index : Nat)
  /-- A field that names no known text. -/
  | unknownField (name : String)
  /-- A character asked for beyond the end of a text. -/
  | characterMissing
  /-- A character of a text asked for by something that is no number. -/
  | indexNotNumeric
  /-- An exception of what is within a text, or of another object. -/
  | object (e : Raised)
  /-- A text that is too large to be laid out. -/
  | tooLarge
  deriving DecidableEq, Repr

/-- A character shown in an error: itself, or its code when it is not visible ASCII. -/
def visibleOrCode (limit : Nat) (c : Char) : String :=
  if 32 < c.toNat && c.toNat < limit then c.toString
  else "\\x" ++ String.ofList (Nat.toDigits 16 c.toNat)

def TemplateFlaw.message : TemplateFlaw → String
  | .loneOpening => "Single '\x7b' encountered in format string"
  | .loneClosing => "Single '\x7d' encountered in format string"
  | .openingInName => "unexpected '\x7b' in field name"
  | .unfinishedConversion => "end of string while looking for conversion specifier"
  | .colonMissing => "expected ':' after conversion specifier"
  | .openLayout => "unmatched '\x7b' in format spec"
  | .closingMissing => "expected '\x7d' before end of string"
  | .tooDeep => "Max string recursion exceeded"
  | .tooManyDigits => "Too many decimal digits in format string"
  | .emptyAccess => "Empty attribute in format string"
  | .bracketMissing => "Missing ']' in format string"
  | .strayAfterBracket => "Only '.' or '[' may follow ']' in format field specifier"
  | .unknownConversion c => "Unknown conversion specifier " ++ visibleOrCode 127 c
  | .bothSeparators => "Cannot specify both ',' and '_'."
  | .precisionMissing => "Format specifier missing precision"
  | .invalidLayout layout => "Invalid format specifier '" ++ layout ++ "' for object of type 'str'"
  | .separatorNotAllowed separator type =>
    "Cannot specify '" ++ separator.toString ++ "' with '" ++ visibleOrCode 128 type ++ "'."
  | .unknownType c =>
    "Unknown format code '" ++ visibleOrCode 128 c ++ "' for object of type 'str'"
  | .spaceSign => "Space not allowed in string format specifier"
  | .sign => "Sign not allowed in string format specifier"
  | .zeroSign => "Negative zero coercion (z) not allowed in string format specifier"
  | .alternate => "Alternate form (#) not allowed in string format specifier"
  | .numericAlignment => "'=' alignment not allowed in string format specifier"

def TemplateError.message : TemplateError → String
  | .malformed flaw => flaw.message
  | .position index =>
    "Replacement index " ++ toString index ++ " out of range for positional args tuple"
  | .unknownField name => Text.quoted name
  | .characterMissing => "string index out of range"
  | .indexNotNumeric => "string indices must be integers, not 'str'"
  | .object e => e.text
  | .tooLarge => ""

namespace Template

/-! ## Numbers -/

/-- The largest number that a template may hold. -/
def largestNumber : Nat := 0x7FFFFFFFFFFFFFFF

/-- Reads the digits at the front of a text; gives their number, how many they are, and the rest. A
number that grows too large is a flaw even if no digit follows. -/
def number (value count : Nat) : List Char → Except TemplateFlaw (Nat × Nat × List Char)
  | [] => .ok (value, count, [])
  | c :: rest =>
    match Text.digitValue? c with
    | none => .ok (value, count, c :: rest)
    | some d =>
      if largestNumber < value * 10 + d then .error .tooManyDigits
      else number (value * 10 + d) (count + 1) rest

/-- The number that a whole text is; nothing if it is empty or holds other characters. -/
def wholeNumber? (cs : List Char) : Except TemplateFlaw (Option Nat) := do
  let (value, count, rest) ← number 0 0 cs
  return if count ≠ 0 && rest.isEmpty then some value else none

/-! ## Segments -/

/-- A field as it is written: its name with all accesses, the mark of the conversion, and the
layout, which may hold fields of its own. -/
structure Field where
  name : List Char
  conversion : Option Char
  layout : List Char
  deriving DecidableEq, Repr

/-- A stretch of a template. -/
inductive Segment where
  | literal (text : List Char)
  | field (field : Field)
  | broken (flaw : TemplateFlaw)
  deriving DecidableEq, Repr

inductive NameEnd where
  | closing
  | colon
  | exclamation
  | opening
  | endOfText
  deriving DecidableEq, Repr

/-- Reads the name of a field; within square brackets nothing but their end counts. -/
def scanName : Bool → List Char → List Char → List Char × NameEnd × List Char
  | _, name, [] => (name.reverse, .endOfText, [])
  | true, name, c :: rest => scanName (c ≠ ']') (c :: name) rest
  | false, name, c :: rest =>
    if c = '\x7b' then (name.reverse, .opening, rest)
    else if c = '\x7d' then (name.reverse, .closing, rest)
    else if c = ':' then (name.reverse, .colon, rest)
    else if c = '!' then (name.reverse, .exclamation, rest)
    else scanName (c = '[') (c :: name) rest

/-- Reads a layout up to the bracket that closes its field. -/
def scanLayout : Nat → List Char → List Char → Except TemplateFlaw (List Char × List Char)
  | _, _, [] => .error .openLayout
  | depth, layout, c :: rest =>
    if c = '\x7b' then scanLayout (depth + 1) (c :: layout) rest
    else if c = '\x7d' then
      match depth with
      | 0 => .ok (layout.reverse, rest)
      | depth + 1 => scanLayout depth (c :: layout) rest
    else scanLayout depth (c :: layout) rest

/-- Reads a field behind its opening bracket. -/
def scanField (cs : List Char) : Except TemplateFlaw (Field × List Char) :=
  match scanName false [] cs with
  | (_, .opening, _) => .error .openingInName
  | (_, .endOfText, _) => .error .closingMissing
  | (name, .closing, rest) => .ok (⟨name, none, []⟩, rest)
  | (name, .colon, rest) => do
    let (layout, rest) ← scanLayout 0 [] rest
    return (⟨name, none, layout⟩, rest)
  | (name, .exclamation, rest) =>
    match rest with
    | [] => .error .unfinishedConversion
    -- a conversion at the very end leaves its layout open
    | [_] => .error .openLayout
    | c :: d :: rest =>
      if d = '\x7d' then .ok (⟨name, some c, []⟩, rest)
      else if d = ':' then do
        let (layout, rest) ← scanLayout 0 [] rest
        return (⟨name, some c, layout⟩, rest)
      else .error .colonMissing

/-! The rest of a template is shorter than what was read from. -/

theorem length_scanName (within : Bool) (name cs : List Char) :
    (scanName within name cs).2.2.length ≤ cs.length := by
  fun_induction scanName within name cs <;> simp_all <;> omega

theorem length_scanLayout {depth : Nat} {layout cs : List Char} {out : List Char × List Char}
    (h : scanLayout depth layout cs = .ok out) : out.2.length ≤ cs.length := by
  induction cs generalizing depth layout with
  | nil => cases h
  | cons c rest ih =>
    unfold scanLayout at h
    split at h
    · exact Nat.le_succ_of_le (ih h)
    · split at h
      · split at h
        · cases h; exact Nat.le_succ _
        · exact Nat.le_succ_of_le (ih h)
      · exact Nat.le_succ_of_le (ih h)

theorem length_scanField {cs : List Char} {out : Field × List Char}
    (h : scanField cs = .ok out) : out.2.length ≤ cs.length := by
  have bound := length_scanName false [] cs
  have layout {depth : Nat} {name : List Char} {conversion : Option Char} {rest : List Char}
      (fits : rest.length ≤ cs.length)
      (h : (do
        let (layout, rest) ← scanLayout depth [] rest
        return ((⟨name, conversion, layout⟩ : Field), rest)) = .ok out) :
      out.2.length ≤ cs.length := by
    cases scan : scanLayout depth [] rest with
    | error e => rw [scan] at h; cases h
    | ok pair =>
      rw [scan] at h
      have := length_scanLayout scan
      cases h
      exact Nat.le_trans this fits
  -- a field ends at its bracket, or a layout follows its name or its conversion
  unfold scanField at h
  split at h
  · cases h
  · cases h
  · rename_i scan; rw [scan] at bound; cases h; exact bound
  · rename_i scan; rw [scan] at bound; exact layout bound h
  · rename_i scan
    rw [scan] at bound
    split at h
    · cases h
    · cases h
    · simp only [List.length_cons] at bound
      split at h
      · cases h; simp only; omega
      · split at h
        · exact layout (by omega) h
        · cases h

/-- Cuts a template into its stretches; `text` holds the literal text under way, reversed. A flaw is
the last stretch. -/
def segmentsFrom (text : List Char) (cs : List Char) : List Segment :=
  match cs with
  | [] => if text.isEmpty then [] else [.literal text.reverse]
  | c :: rest =>
    if c = '\x7d' then
      match rest with
      | d :: more =>
        if d = '\x7d' then .literal (c :: text).reverse :: segmentsFrom [] more
        else [.broken .loneClosing]
      | [] => [.broken .loneClosing]
    else if c = '\x7b' then
      match rest with
      | [] => [.broken .loneOpening]
      | d :: more =>
        if d = '\x7b' then .literal (c :: text).reverse :: segmentsFrom [] more
        else
          -- the literal before a field is a stretch of its own even if it is empty
          let before := .literal text.reverse
          match _h : scanField (d :: more) with
          | .error flaw => [before, .broken flaw]
          | .ok (field, rest) => before :: .field field :: segmentsFrom [] rest
    else segmentsFrom (c :: text) rest
termination_by cs.length
decreasing_by
  · simp only [List.length_cons]; omega
  · simp only [List.length_cons]; omega
  · have := length_scanField ‹_›; simp only [List.length_cons] at this ⊢; omega
  · simp only [List.length_cons]; omega

def segments (template : List Char) : List Segment := segmentsFrom [] template

/-! ## Layouts -/

/-- How a text is laid out in a number of places. -/
structure Layout where
  fill : Char := ' '
  alignment : Char := '<'
  width : Nat := 0
  precision : Option Nat := none
  deriving DecidableEq, Repr

/-- Lays a text out: cuts it to the precision and fills it up to the width. -/
def Layout.apply (layout : Layout) (text : List Char) : List Char :=
  let text := match layout.precision with
    | some n => text.take n
    | none => text
  let missing := layout.width - text.length
  let left :=
    if layout.alignment = '>' then missing
    else if layout.alignment = '^' then missing / 2
    else 0
  List.replicate left layout.fill ++ text ++ List.replicate (missing - left) layout.fill

/-- Whether the character says on which side a text stands. -/
def isAlignment (c : Char) : Bool := c = '<' || c = '>' || c = '=' || c = '^'

/-- Takes a character off the front if it is in the class. -/
def takeIf (wanted : Char → Bool) : List Char → Option Char × List Char
  | c :: rest => if wanted c then (some c, rest) else (none, c :: rest)
  | [] => (none, [])

/-- The fill and the alignment at the front of a layout. -/
def scanAlignment (cs : List Char) : Option Char × Option Char × List Char :=
  match cs with
  | c :: d :: rest =>
    if isAlignment d then (some c, some d, rest)
    else if isAlignment c then (none, some c, d :: rest)
    else (none, none, cs)
  | [c] => if isAlignment c then (none, some c, []) else (none, none, cs)
  | [] => (none, none, [])

/-- The separator of thousands at the front of a layout. -/
def scanSeparator (cs : List Char) : Except TemplateFlaw (Option Char × List Char) :=
  let (comma, cs) := takeIf (· = ',') cs
  -- the comma is looked for first, so one behind a low line is still to come
  let (line, cs) := takeIf (· = '_') cs
  match comma, line with
  | some _, some _ => .error .bothSeparators
  | some c, none => .ok (some c, cs)
  | none, some c => if cs.head? = some ',' then .error .bothSeparators else .ok (some c, cs)
  | none, none => .ok (none, cs)

/-- The precision at the front of a layout, behind a point. -/
def scanPrecision (cs : List Char) : Except TemplateFlaw (Option Nat × List Char) :=
  match takeIf (· = '.') cs with
  | (none, cs) => .ok (none, cs)
  | (some _, cs) => do
    let (value, count, rest) ← number 0 0 cs
    if count = 0 then .error .precisionMissing else .ok (some value, rest)

/-- Whether a separator of thousands may stand before the type; the types are those of numbers. -/
def allowsSeparator (separator type : Char) : Bool :=
  ['d', 'e', 'f', 'g', 'E', 'G', '%', 'F'].contains type ||
    (separator = '_' && ['b', 'o', 'x', 'X'].contains type)

/-- Reads a layout for a text. Whatever concerns numbers only is refused. -/
def Layout.ofText (text : List Char) : Except TemplateFlaw Layout := do
  let (fill?, alignment?, cs) := scanAlignment text
  let (sign?, cs) := takeIf (fun c => c = ' ' || c = '+' || c = '-') cs
  let (zero?, cs) := takeIf (· = 'z') cs
  let (alternate?, cs) := takeIf (· = '#') cs
  -- a zero before the width fills only where no other fill is written
  let (padding?, cs) := if fill?.isSome then (none, cs) else takeIf (· = '0') cs
  let (width, _, cs) ← number 0 0 cs
  let (separator?, cs) ← scanSeparator cs
  let (precision, cs) ← scanPrecision cs
  let type ← match cs with
    | [] => pure 's'
    | [c] => pure c
    | _ => .error (.invalidLayout (String.ofList text))
  match separator? with
  | some separator =>
    if !allowsSeparator separator type then .error (.separatorNotAllowed separator type)
  | none => pure ()
  -- from here on each refusal hides those after it
  if type ≠ 's' then .error (.unknownType type)
  match sign? with
  | some ' ' => .error .spaceSign
  | some _ => .error .sign
  | none => pure ()
  if zero?.isSome then .error .zeroSign
  if alternate?.isSome then .error .alternate
  let alignment := alignment?.getD '<'
  if alignment = '=' then .error .numericAlignment
  let fill := fill?.getD (padding?.getD ' ')
  return ⟨fill, alignment, width, precision⟩

/-! ## Fields -/

/-- The text under a name among the known ones. -/
def known? (fields : List (String × String)) (name : List Char) : Option String :=
  fields.lookup (String.ofList name)

section

variable [Objects]

namespace Found

/-- What stands under a name within what was found. -/
def part (found : Found) (name : String) : Except TemplateError Found :=
  (Objects.part found name).mapError .object

/-- What stands in square brackets within what was found: a character of a text, or what an object
has. -/
def item (found : Found) (index : Index) : Except TemplateError Found :=
  match found, index with
  | text _, .name _ => .error .indexNotNumeric
  | text cs, .number n =>
    match cs[n]? with
    | none => .error .characterMissing
    | some c => .ok (text [c])
  | object id, index => (Objects.item id index).mapError .object

end Found

/-- Follows the accesses behind the name of a field into what it stands for. -/
def follow (found : Found) (cs : List Char) : Except TemplateError Found :=
  match cs with
  | [] => .ok found
  | '.' :: rest =>
    let name := rest.takeWhile fun c => c ≠ '.' && c ≠ '['
    if name.isEmpty then .error (.malformed .emptyAccess)
    else
      match found.part (String.ofList name) with
      | .error e => .error e
      | .ok found => follow found (rest.drop name.length)
  | '[' :: rest =>
    let name := rest.takeWhile (· ≠ ']')
    match _h : rest.drop name.length with
    | [] => .error (.malformed .bracketMissing)
    | _ :: more =>
      -- a number that is too large comes before the empty access
      match wholeNumber? name with
      | .error flaw => .error (.malformed flaw)
      | .ok index? =>
        if name.isEmpty then .error (.malformed .emptyAccess)
        else
          let index := match index? with
            | some n => Index.number n
            | none => .name (String.ofList name)
          match found.item index with
          | .error e => .error e
          | .ok found => follow found more
  | _ :: _ => .error (.malformed .strayAfterBracket)
termination_by cs.length
decreasing_by
  · simp only [List.length_drop, List.length_cons]; omega
  · have := congrArg List.length _h
    simp only [List.length_drop, List.length_cons] at this ⊢
    omega

def valueOf (fields : List (String × String)) (name : List Char) :
    Except TemplateError Found := do
  let first := name.takeWhile fun c => c ≠ '.' && c ≠ '['
  let index? ← match wholeNumber? first with
    | .ok index? => pure index?
    | .error flaw => .error (.malformed flaw)
  match index? with
  | some index => .error (.position index)
  | none =>
    -- a field without a name counts positions from zero, and there are no texts by position
    if first.isEmpty then .error (.position 0)
    else
      match known? fields first with
      | none => .error (.unknownField (String.ofList first))
      | some text => follow (.text text.toList) (name.drop first.length)

/-- What was found after the conversion that a field asks for. -/
def convert (found : Found) (conversion : Option Char) : Except TemplateError Found :=
  match conversion with
  | none => .ok found
  | some c =>
    match found with
    | .text cs =>
      if c = 's' then .ok found
      else if c = 'r' then .ok (.text (Text.quoted (String.ofList cs)).toList)
      else if c = 'a' then .ok (.text (Text.quotedAscii (String.ofList cs)).toList)
      else .error (.malformed (.unknownConversion c))
    | .object id =>
      if c = 's' || c = 'r' || c = 'a' then
        ((Objects.convert id c).map .text).mapError .object
      else .error (.malformed (.unknownConversion c))

/-! ## Expansion -/

/-- The width from which on no text can be laid out. -/
def tooWide : Nat := 0x1000000000

/-- What was found, in the layout of a field; an empty layout leaves a text as it is. -/
def layOut (found : Found) (layout : List Char) : Except TemplateError (List Char) :=
  match found with
  | .object id => (Objects.layOut id layout).mapError .object
  | .text cs =>
    if layout.isEmpty then .ok cs
    else
      match Layout.ofText layout with
      | .error flaw => .error (.malformed flaw)
      | .ok layout => if layout.width < tooWide then .ok (layout.apply cs) else .error .tooLarge

/-- Expands a template with at most `depth` levels of fields within layouts. -/
def expandTo (fields : List (String × String)) :
    Nat → List Char → Except TemplateError (List Char)
  | 0, _ => .error (.malformed .tooDeep)
  | depth + 1, template => do
    let parts ← (segments template).mapM fun
      | .literal text => pure text
      | .broken flaw => .error (.malformed flaw)
      | .field field => do
        let found ← convert (← valueOf fields field.name) field.conversion
        let layout ←
          if field.layout.contains '\x7b' then expandTo fields depth field.layout
          else pure field.layout
        layOut found layout
    return parts.flatten

/-- Expands a template with the given texts. Layouts may hold fields, but not those any more. -/
def expand (template : String) (fields : List (String × String)) : Except TemplateError String :=
  (expandTo fields 2 template.toList).map String.ofList

end

end Template

end As2Exchange
