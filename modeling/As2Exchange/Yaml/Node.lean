import As2Exchange.Yaml.Token

/-!
# Nodes

What the tokens of a YAML text make up: scalars, sequences and mappings, each with a tag. An anchor
names a node, and an alias refers to the node that was named before it, which may be one that the
alias itself is in. So nodes lie at places and refer to each other by these.

- `Resolve.scalarTag` finds the tag of a plain scalar from its text;
- `Graph.ofText` reads the single document of a text.
-/

namespace As2Exchange.Yaml

/-! ## Tags -/

namespace Tag

/-- The address at which the common tags stand. -/
def common (name : String) : String := "tag:yaml.org,2002:" ++ name

end Tag

namespace Resolve

/-- Whether all characters, at least one, are in a class. -/
def allOf (wanted : Char → Bool) (cs : List Char) : Bool := !cs.isEmpty && cs.all wanted

/-- A character that is a digit or a low line. -/
def isDigitOrLine (c : Char) : Bool := c.isDigit || c = '_'

/-- The text without a sign at its front. -/
def unsigned : List Char → List Char
  | '-' :: rest => rest
  | '+' :: rest => rest
  | cs => cs

/-- A number of up to 59 in one or two digits. -/
def isSixtieth (cs : List Char) : Bool :=
  match cs with
  | [d] => d.isDigit
  | [t, d] => '0' ≤ t && t ≤ '5' && d.isDigit
  | _ => false

/-- Whole numbers: binary, octal, decimal, hexadecimal, or of base sixty with colons. -/
def isInt (cs : List Char) : Bool :=
  match unsigned cs with
  | ['0'] => true
  | '0' :: 'b' :: rest => allOf (fun c => c = '0' || c = '1' || c = '_') rest
  | '0' :: 'x' :: rest => allOf (fun c => isHexDigit c || c = '_') rest
  | '0' :: rest => allOf (fun c => ('0' ≤ c && c ≤ '7') || c = '_') rest
  | d :: rest =>
    '1' ≤ d && d ≤ '9' &&
      match Text.pieces (· = ':') [] rest with
      | first :: sixtieths => first.all isDigitOrLine && sixtieths.all isSixtieth
      | [] => false
  | [] => false

/-- An exponent, which has a sign, or nothing. -/
def isExponent : List Char → Bool
  | [] => true
  | e :: sign :: digits =>
    (e = 'e' || e = 'E') && (sign = '-' || sign = '+') && allOf Char.isDigit digits
  | _ => false

/-- Decimal fractions with digits before the point, perhaps with an exponent. -/
def isFraction (cs : List Char) : Bool :=
  match cs with
  | d :: _ =>
    d.isDigit &&
      match cs.dropWhile isDigitOrLine with
      | '.' :: rest => isExponent (rest.dropWhile isDigitOrLine)
      | _ => false
  | [] => false

/-- Fractions of base sixty: at least one colon, and a point behind the last sixtieth. -/
def isSexagesimalFraction (cs : List Char) : Bool :=
  match Text.pieces (· = ':') [] cs with
  | (d :: first) :: second :: more =>
    let sixtieths := second :: more
    let last := sixtieths.getLastD []
    d.isDigit && first.all isDigitOrLine && sixtieths.dropLast.all isSixtieth
      && isSixtieth (last.takeWhile (· ≠ '.'))
      && match last.dropWhile (· ≠ '.') with
        | _ :: rest => rest.all isDigitOrLine
        | [] => false
  | _ => false

/-- Numbers with a point, infinity, and what is no number. -/
def isFloat (cs : List Char) : Bool :=
  let word (names : List String) (cs : List Char) := names.contains (String.ofList cs)
  isFraction (unsigned cs)
    || (match cs with
      | '.' :: d :: rest => d.isDigit && isExponent (rest.dropWhile isDigitOrLine)
      | _ => false)
    || isSexagesimalFraction (unsigned cs)
    || word [".inf", ".Inf", ".INF"] (unsigned cs)
    || word [".nan", ".NaN", ".NAN"] cs

/-- The truth values. -/
def isBool (cs : List Char) : Bool :=
  ["yes", "Yes", "YES", "no", "No", "NO", "true", "True", "TRUE", "false", "False", "FALSE", "on",
    "On", "ON", "off", "Off", "OFF"].contains (String.ofList cs)

/-- The ways to write nothing. -/
def isNull (cs : List Char) : Bool :=
  ["", "~", "null", "Null", "NULL"].contains (String.ofList cs)

/-- A day and perhaps a time that a text writes. -/
structure Stamp where
  (year month day : List Char)
  /-- Hour, minute, second, the digits of the fraction, and the offset. -/
  time : Option (List Char × List Char × List Char × List Char × List Char)

/-- Digits at the front, at least `least` and at most `most` of them. -/
def digits? (least most : Nat) (cs : List Char) : Option (List Char × List Char) :=
  let taken := (cs.take most).takeWhile Char.isDigit
  if taken.length < least then none else some (taken, cs.drop taken.length)

/-- The text behind a character. -/
def behind? (mark : Char) : List Char → Option (List Char)
  | c :: rest => if c = mark then some rest else none
  | [] => none

/-- Whether the text is the offset of a time, or nothing. -/
def isOffset (cs : List Char) : Bool :=
  match cs with
  | [] => true
  | ['Z'] => true
  | sign :: rest =>
    (sign = '-' || sign = '+') &&
      match digits? 1 2 rest with
      | some (_, []) => true
      | some (_, ':' :: rest) => match digits? 2 2 rest with
        | some (_, []) => true
        | _ => false
      | _ => false

/-- The time behind a day: a separator, the time of the day, a fraction and an offset. -/
def time? (cs : List Char) :
    Option (List Char × List Char × List Char × List Char × List Char) := do
  let isGap (c : Char) := c = ' ' || c = '\t'
  let rest ← match cs with
    | 'T' :: rest | 't' :: rest => some rest
    | c :: rest => if isGap c then some (rest.dropWhile isGap) else none
    | [] => none
  let (hour, rest) ← digits? 1 2 rest
  let (minute, rest) ← digits? 2 2 (← behind? ':' rest)
  let (second, rest) ← digits? 2 2 (← behind? ':' rest)
  let (fraction, rest) := match rest with
    | '.' :: rest => (rest.takeWhile Char.isDigit, rest.dropWhile Char.isDigit)
    | rest => ([], rest)
  let offset := rest.dropWhile isGap
  -- blanks may only stand before an offset
  if isOffset offset && (!offset.isEmpty || rest.isEmpty) then
    some (hour, minute, second, fraction, offset)
  else none

/-- Reads a day and perhaps a time. -/
def stamp? (cs : List Char) : Option Stamp := do
  let (year, rest) ← digits? 4 4 cs
  let (month, rest) ← digits? 1 2 (← behind? '-' rest)
  let (day, rest) ← digits? 1 2 (← behind? '-' rest)
  if rest.isEmpty then some ⟨year, month, day, none⟩
  else
    let time ← time? rest
    some ⟨year, month, day, some time⟩

/-- Whether a plain text is a day or a time: a bare day has two digits for month and day. -/
def isTimestamp (cs : List Char) : Bool :=
  match stamp? cs with
  | some stamp => stamp.time.isSome || (stamp.month.length = 2 && stamp.day.length = 2)
  | none => false

def scalarTag (cs : List Char) : String :=
  Tag.common <|
    if isBool cs then "bool"
    else if isFloat cs then "float"
    else if isInt cs then "int"
    else if cs = ['<', '<'] then "merge"
    else if isNull cs then "null"
    else if isTimestamp cs then "timestamp"
    else if cs = ['='] then "value"
    else "str"

end Resolve

/-! ## Nodes -/

/-- A part of a document, which refers to other parts by their places. -/
inductive Node where
  | scalar (tag : String) (text : List Char)
  | sequence (tag : String) (items : List Nat)
  | mapping (tag : String) (entries : List (Nat × Nat))
  deriving Inhabited

def Node.tag : Node → String
  | .scalar tag _ | .sequence tag _ | .mapping tag _ => tag

/-- The number of entries of a mapping; other nodes have none. -/
def Node.entryCount : Node → Nat
  | .mapping _ entries => entries.length
  | _ => 0

/-- The nodes of a document by their places, and the place of the outermost one. -/
structure Graph where
  nodes : List Node
  root : Nat

/-- What reading nodes goes through: the tokens still to come, the nodes that were read, and the
places of the named ones. -/
structure Compose where
  tokens : List Token
  nodes : List Node := []
  anchors : List (List Char × Nat) := []
  /-- What the handles of tags stand for. -/
  handles : List (List Char × List Char)

/-- A step of reading nodes. -/
abbrev Composing := StateT Compose Reading

namespace Composing

/-- The next token; behind the last one stands the end of the text. -/
def peek : Composing Token := do return (← get).tokens.headD .streamEnd

/-- Passes over the next token. -/
def drop : Composing Unit := modify fun s => { s with tokens := s.tokens.drop 1 }

def fail {α : Type} : Composing α := throw .malformed

/-- Passes over the next token if it is the given one; says whether it was. -/
def accept (token : Token) : Composing Bool := do
  if (← peek) = token then
    drop
    return true
  else return false

/-- Passes over the given token, which must come next. -/
def expect (token : Token) : Composing Unit := do
  if !(← accept token) then fail

/-- The anchor before a node. -/
def anchor? : Composing (Option (List Char)) := do
  match ← peek with
  | .anchor name =>
    drop
    return some name
  | _ => return none

/-- The tag before a node. -/
def tag? : Composing (Option (List Char)) := do
  match ← peek with
  | .tag none suffix =>
    drop
    return some suffix
  | .tag (some handle) suffix =>
    drop
    match (← get).handles.lookup handle with
    | some start => return some (start ++ suffix)
    | none => fail
  | _ => return none

/-- The anchor and the tag before a node, in either order. -/
def properties : Composing (Option (List Char) × Option (List Char)) := do
  match ← anchor? with
  | some name => return (some name, ← tag?)
  | none =>
    let tag ← tag?
    match tag with
    | some _ => return (← anchor?, tag)
    | none => return (none, none)

/-- Fails if the name was given to another node. -/
def checkFresh (name : Option (List Char)) : Composing Unit := do
  let anchors := (← get).anchors
  if (name.bind fun name => anchors.lookup name).isSome then fail

/-- Gives a node the next place. -/
def add (node : Node) : Composing Nat := do
  let place := (← get).nodes.length
  modify fun s => { s with nodes := s.nodes ++ [node] }
  return place

/-- Adds a node under a name, if it has one. -/
def addNamed (name : Option (List Char)) (node : Node) : Composing Nat := do
  let place ← add node
  match name with
  | none => pure ()
  | some name => modify fun s => { s with anchors := (name, place) :: s.anchors }
  return place

/-- Reads the content of a collection, which has its place and its name before that. -/
def enclose {α : Type} (name : Option (List Char)) (node : List α → Node)
    (content : Composing (List α)) : Composing Nat := do
  let place ← addNamed name (node [])
  let content ← content
  modify fun s => { s with nodes := s.nodes.set place (node content) }
  return place

/-- The place of the node that an alias refers to. -/
def aliased (name : List Char) : Composing Nat := do
  match (← get).anchors.lookup name with
  | some place => return place
  | none => fail

/-- Whether a tag leaves the kind of a node open. -/
def isOpenTag (tag : Option (List Char)) : Bool := tag = none || tag = some ['!']

def collectionTag (tag : Option (List Char)) (name : String) : String :=
  if isOpenTag tag then Tag.common name else String.ofList (tag.getD [])

def scalarNode (tag : Option (List Char)) (text : List Char) (plain : Bool) : Node :=
  if (plain && tag = none) || tag = some ['!'] then .scalar (Resolve.scalarTag text) text
  else
    match tag with
    | none => .scalar (Tag.common "str") text
    | some tag => .scalar (String.ofList tag) text

def absent : Node := scalarNode none [] true

/-- Where a node stands: it may be a collection of lines, or even a sequence that is indented no
more than the mapping around it. -/
inductive Place where
  | flow
  | block
  | mappingBlock
  deriving DecidableEq, Repr

mutual

def node : Nat → Place → Composing Nat
  | 0, _ => fail
  | fuel + 1, place => do
    match ← peek with
    | .reference name =>
      drop
      aliased name
    | _ =>
      let (anchor, tag) ← properties
      checkFresh anchor
      content fuel place anchor tag

/-- Reads a node behind its anchor and its tag. -/
def content : Nat → Place → Option (List Char) → Option (List Char) → Composing Nat
  | 0, _, _, _ => fail
  | fuel + 1, place, anchor, tag => do
    let sequence := Node.sequence (collectionTag tag "seq")
    let mapping := Node.mapping (collectionTag tag "map")
    match ← peek, place with
    -- the dash itself stays for the entries, which have no token of their own around them
    | .blockEntry, .mappingBlock => enclose anchor sequence (looseEntries fuel)
    | .scalar text plain, _ =>
      drop
      addNamed anchor (scalarNode tag text plain)
    | .flowSequenceStart, _ =>
      drop
      enclose anchor sequence (flowEntries fuel true)
    | .flowMappingStart, _ =>
      drop
      enclose anchor mapping (flowPairs fuel true)
    | .blockSequenceStart, .block | .blockSequenceStart, .mappingBlock =>
      drop
      enclose anchor sequence (blockEntries fuel)
    | .blockMappingStart, .block | .blockMappingStart, .mappingBlock =>
      drop
      enclose anchor mapping (blockPairs fuel)
    | _, _ =>
      -- a node that is only named or only tagged is there, and empty
      if anchor.isSome || tag.isSome then
        if isOpenTag tag then addNamed anchor absent
        else addNamed anchor (.scalar (String.ofList (tag.getD [])) [])
      else fail

/-- Reads a node unless one of the given tokens comes next. -/
def nodeUnless : Nat → Place → List Token → Composing Nat
  | 0, _, _ => fail
  | fuel + 1, place, tokens => do
    if tokens.contains (← peek) then add absent else node fuel place

/-- Reads the entries of a sequence of lines up to its end. -/
def blockEntries : Nat → Composing (List Nat)
  | 0 => fail
  | fuel + 1 => do
    if ← accept .blockEntry then
      let entry ← nodeUnless fuel .block [.blockEntry, .blockEnd]
      return entry :: (← blockEntries fuel)
    else
      expect .blockEnd
      return []

/-- Reads the entries of a sequence that is indented no more than the mapping around it. -/
def looseEntries : Nat → Composing (List Nat)
  | 0 => fail
  | fuel + 1 => do
    if ← accept .blockEntry then
      let entry ← nodeUnless fuel .block [.blockEntry, .key, .value, .blockEnd]
      return entry :: (← looseEntries fuel)
    else return []

/-- Reads the pairs of a mapping of lines up to its end. A value without a key is an error. -/
def blockPairs : Nat → Composing (List (Nat × Nat))
  | 0 => fail
  | fuel + 1 => do
    if ← accept .key then
      let key ← nodeUnless fuel .mappingBlock [.key, .value, .blockEnd]
      let value ←
        if ← accept .value then nodeUnless fuel .mappingBlock [.key, .value, .blockEnd]
        else add absent
      return (key, value) :: (← blockPairs fuel)
    else
      expect .blockEnd
      return []

/-- Reads the value behind a key between brackets. -/
def flowValue : Nat → Token → Composing Nat
  | 0, _ => fail
  | fuel + 1, closing => do
    if ← accept .value then nodeUnless fuel .flow [.flowEntry, closing]
    else add absent

/-- Reads the entries of a sequence between brackets up to the closing one. A pair stands for a
mapping of its own. -/
def flowEntries : Nat → Bool → Composing (List Nat)
  | 0, _ => fail
  | fuel + 1, isFirst => do
    if ← accept .flowSequenceEnd then return []
    if !isFirst then expect .flowEntry
    if ← accept .flowSequenceEnd then return []
    if ← accept .key then
      let key ← nodeUnless fuel .flow [.value, .flowEntry, .flowSequenceEnd]
      let value ← flowValue fuel .flowSequenceEnd
      let pair ← add (.mapping (Tag.common "map") [(key, value)])
      return pair :: (← flowEntries fuel false)
    else
      let entry ← node fuel .flow
      return entry :: (← flowEntries fuel false)

/-- Reads the pairs of a mapping between brackets up to the closing one. An entry that is no pair is
a key without a value. -/
def flowPairs : Nat → Bool → Composing (List (Nat × Nat))
  | 0, _ => fail
  | fuel + 1, isFirst => do
    if ← accept .flowMappingEnd then return []
    if !isFirst then expect .flowEntry
    if ← accept .flowMappingEnd then return []
    if ← accept .key then
      let key ← nodeUnless fuel .flow [.value, .flowEntry, .flowMappingEnd]
      let value ← flowValue fuel .flowMappingEnd
      return (key, value) :: (← flowPairs fuel false)
    else
      let key ← node fuel .flow
      let value ← add absent
      return (key, value) :: (← flowPairs fuel false)

end

/-! ## Documents -/

/-- What the handles of tags stand for where nothing is said. -/
def defaultHandles : List (List Char × List Char) :=
  [(['!'], ['!']), (['!', '!'], (Tag.common "").toList)]

/-- Reads directives; says whether a version was told, and what handles were told. -/
def directives : List Token → Bool → List (List Char × List Char) →
    Reading (List Token × List (List Char × List Char))
  | .directive (.version major) :: rest, versioned, handles =>
    if versioned || major ≠ 1 then malformed else directives rest true handles
  | .directive (.tag handle start) :: rest, versioned, handles =>
    if (handles.lookup handle).isSome then malformed
    else directives rest versioned ((handle, start) :: handles)
  | .directive .other :: rest, versioned, handles => directives rest versioned handles
  | tokens, _, handles => .ok (tokens, handles)

def endsDocument : Token → Bool
  | .directive _ | .documentStart | .documentEnd | .streamEnd => true
  | _ => false

/-- Whether nothing follows a document but marks of its end. -/
def isOver (tokens : List Token) : Bool :=
  tokens.dropWhile (· = .documentEnd) = [.streamEnd]

/-- Reads the content of a single document. -/
def root (tokens : List Token) (handles : List (List Char × List Char)) : Reading Graph := do
  -- each call reads a token or is one of a few between two tokens
  let (place, rest) ← (node (8 * tokens.length + 8) .block).run { tokens, handles }
  if isOver rest.tokens then return ⟨rest.nodes, place⟩ else malformed

/-- Reads the single document of the tokens, if there is one. -/
def document? (tokens : List Token) : Reading (Option Graph) := do
  match tokens with
  | .directive _ :: _ | .documentStart :: _ =>
    let (tokens, handles) ← directives tokens false []
    match tokens with
    | .documentStart :: rest =>
      if endsDocument (rest.headD .streamEnd) then
        if isOver rest then return some ⟨[absent], 0⟩ else malformed
      else return some (← root rest (handles ++ defaultHandles))
    | _ => malformed
  | [.streamEnd] => return none
  | tokens => return some (← root tokens defaultHandles)

end Composing

/-- Reads the single document of a text; an empty text has none. -/
def Graph.ofText (text : List Char) : Reading (Option Graph) := do
  Composing.document? (← Token.scan text)

end As2Exchange.Yaml
