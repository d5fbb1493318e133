import As2Exchange.Yaml.Node
import As2Exchange.Value.Document
import As2Exchange.Decimal.Numeral
import As2Exchange.Text.Case
import As2Exchange.Base64

/-!
# Content

What the nodes of a text stand for. The tag of a node decides: scalars are read as numbers, truth
values, days and so on, and mappings take in the entries of the mappings that they merge. A node
stands for one item, however often it is referred to.

- `Construction.item` gives the item of a node, `Construction.fill` the content of a collection;
- `Graph.document` is the document of a whole graph, and `readText` that of a text.
-/

namespace As2Exchange.Yaml

/-! ## Scalars -/

namespace ScalarText

/-- A failed reading of a number or a day. -/
def invalid {α : Type} (text : String) : Reading α := .error (.unreadable "ValueError" text)

/-- The most digits of a whole number in base ten. -/
def mostDigits : Nat := 4300

/-- The wording for a whole number that is too long. -/
def tooManyDigits (count : Nat) : String :=
  s!"Exceeds the limit ({mostDigits} digits) for integer string conversion: value has {count} "
    ++ "digits; use sys.set_int_max_str_digits() to increase the limit"

/-- The digits of a whole number in a base, blanks around them and a sign before them allowed. -/
def wholeNumber (base : Nat) (cs : List Char) : Reading Int :=
  let bare := Text.trimBoth Text.isBlank cs
  let (negative, digits) := Numeral.splitSign bare
  let value? (c : Char) : Option Nat :=
    let n := if isHexDigit c then some (hexDigit c) else Text.digitValue? c
    n.filter (· < base)
  match digits.mapM value? with
  | some (d :: values) =>
    if base = 10 && mostDigits < digits.length then
      invalid (tooManyDigits digits.length)
    else
      let n := Int.ofNat ((d :: values).foldl (fun n v => n * base + v) 0)
      .ok (if negative then -n else n)
  | _ =>
    invalid s!"invalid literal for int() with base {base}: {Text.quoted (String.ofList cs)}"

/-- The text without low lines. -/
def withoutLines (cs : List Char) : List Char := cs.filter (· ≠ '_')

/-- A sign at the front; an empty text has no character to look at. -/
def signed (cs : List Char) : Reading (Bool × List Char) :=
  if cs.isEmpty then .error (.unreadable "IndexError" "string index out of range")
  else .ok (Numeral.splitSign cs)

/-- The sum of places of base sixty, the last one first. -/
def sexagesimal (places : List Int) : Int :=
  places.foldl (fun sum place => sum * 60 + place) 0

/-- A whole number. -/
def int (text : List Char) : Reading Int := do
  let (negative, cs) ← signed (withoutLines text)
  let n ← match cs with
    | ['0'] => pure 0
    | '0' :: 'b' :: rest => wholeNumber 2 rest
    | '0' :: 'x' :: rest => wholeNumber 16 rest
    | '0' :: _ => wholeNumber 8 cs
    | [] => .error (.unreadable "IndexError" "string index out of range")
    | cs =>
      -- the sign goes with the whole sum of base sixty, not with its first place
      if cs.contains ':' then
        return signOf negative (sexagesimal (← (Text.pieces (· = ':') [] cs).mapM (wholeNumber 10)))
      else wholeNumber 10 cs
  return signOf negative n
where
  /-- The number with its sign. -/
  signOf (negative : Bool) (n : Int) : Int := if negative then -n else n

/-- A decimal number with blanks around it allowed. -/
def decimal (cs : List Char) : Reading Double :=
  match Numeral.read? (Text.trimBoth Text.isBlank cs) with
  | some d => .ok d
  | none => invalid s!"could not convert string to float: {Text.quoted (String.ofList cs)}"

/-- The sum of places of base sixty, the last one first, with the worth of the next place. -/
def sexagesimalDouble : Double → Nat → List Double → Double
  | sum, _, [] => sum
  | sum, worth, place :: rest =>
    sexagesimalDouble (sum.add (place.scaleBy worth)) (worth * 60) rest

/-- A number with a point. What is no number has a sign of its own. -/
def float (text : List Char) : Reading Double := do
  let lowered := (Text.lower (String.ofList (withoutLines text))).toList
  let (negative, cs) ← signed lowered
  let signOf (d : Double) : Double := if negative then d.negate else d
  if cs = ".inf".toList then return Double.infinity negative
  else if cs = ".nan".toList then return Double.nan true
  else if cs.contains ':' then
    let places ← (Text.pieces (· = ':') [] cs).mapM decimal
    return signOf (sexagesimalDouble (Double.zero false) 1 places.reverse)
  else return signOf (← decimal cs)

/-- A truth value. -/
def bool (text : List Char) : Reading Bool :=
  let word := Text.lower (String.ofList text)
  if ["yes", "true", "on"].contains word then .ok true
  else if ["no", "false", "off"].contains word then .ok false
  else .error (.unreadable "KeyError" (Text.quoted word))

def binary (text : List Char) : Reading Bytes :=
  if text.all fun c => c.toNat < 128 then
    match Base64.decode (Bytes.ofAscii text) with
    | some bytes => .ok bytes
    | none => malformed
  else malformed

/-- The number that decimal digits write. -/
def digitsNumber (cs : List Char) : Nat := Numeral.digitsNumber cs

def daysOf (year month : Nat) : Nat :=
  if month = 2 then
    if year % 4 = 0 && (year % 100 ≠ 0 || year % 400 = 0) then 29 else 28
  else if [4, 6, 9, 11].contains month then 30
  else 31

def day (year month day : Nat) : Reading Day :=
  if year = 0 then invalid "year 0 is out of range"
  else if month = 0 || 12 < month then invalid "month must be in 1..12"
  else if day = 0 || daysOf year month < day then invalid "day is out of range for month"
  else .ok ⟨year, month, day⟩

/-- The minutes of an offset; nothing if none is told. -/
def offset (cs : List Char) : Option Int :=
  match cs with
  | [] => none
  | ['Z'] => some 0
  | sign :: rest =>
    let hours := digitsNumber (rest.takeWhile (· ≠ ':'))
    let minutes := digitsNumber ((rest.dropWhile (· ≠ ':')).drop 1)
    let sum := Int.ofNat (hours * 60 + minutes)
    some (if sign = '-' then -sum else sum)

def dayMinutes : Int := 1440

/-- A span of minutes as days and the seconds of a further day. -/
def spanText (minutes : Int) : String :=
  let days := Int.fdiv minutes dayMinutes
  let seconds := Int.fmod minutes dayMinutes * 60
  let rest := if seconds = 0 then [] else [s!"seconds={seconds}"]
  Value.enclosed "datetime.timedelta(" ")" (s!"days={days}" :: rest)

/-- An offset, which is less than a day in either direction. -/
def checkedOffset (cs : List Char) : Reading (Option Int) :=
  match offset cs with
  | none => .ok none
  | some minutes =>
    if -dayMinutes < minutes && minutes < dayMinutes then .ok (some minutes)
    else
      invalid <| "offset must be a timedelta strictly between -timedelta(hours=24) and "
        ++ s!"timedelta(hours=24), not {spanText minutes}."

/-- A day or a time. -/
def timestamp (text : List Char) : Reading Scalar := do
  match Resolve.stamp? text with
  | none => .error (.unreadable "AttributeError" "'NoneType' object has no attribute 'groupdict'")
  | some stamp =>
    let day := day (digitsNumber stamp.year) (digitsNumber stamp.month) (digitsNumber stamp.day)
    match stamp.time with
    | none => return .date (← day)
    | some (hour, minute, second, fraction, zone) =>
      -- the offset is checked before the day
      let offset ← checkedOffset zone
      let day ← day
      let (h, m, s) := (digitsNumber hour, digitsNumber minute, digitsNumber second)
      if 23 < h then invalid "hour must be in 0..23"
      else if 59 < m then invalid "minute must be in 0..59"
      else if 59 < s then invalid "second must be in 0..59"
      else
        -- the fraction is cut to six digits, not rounded
        let micro := digitsNumber ((fraction ++ List.replicate 6 '0').take 6)
        return .timestamp day ⟨h, m, s, micro, offset⟩

/-- How the text of a scalar with a tag is read, for the tags of scalars. -/
def reader? (tag : String) : Option (List Char → Reading Scalar) :=
  if tag = Tag.common "null" then some fun _ => .ok .null
  else if tag = Tag.common "bool" then some fun text => .bool <$> bool text
  else if tag = Tag.common "int" then some fun text => .int <$> int text
  else if tag = Tag.common "float" then some fun text => .double <$> float text
  else if tag = Tag.common "binary" then some fun text => .bytes <$> binary text
  else if tag = Tag.common "timestamp" then some timestamp
  else if tag = Tag.common "str" then some fun text => .ok (.text (String.ofList text))
  else none

end ScalarText

/-! ## Construction -/

/-- The nodes of a graph on their way to the items of a document. A collection has its place before
it has its content, so that it can be referred to from within. -/
structure Construct where
  nodes : List Node
  collections : List Collection := []
  /-- The items that nodes are known to stand for. -/
  items : List (Nat × Item) := []
  /-- The nodes of the collections that are still to be filled, with the places of these. -/
  waiting : List (Nat × Nat) := []

/-- A step of construction. -/
abbrev Construction := StateT Construct Reading

namespace Construction

def fail {α : Type} : Construction α := throw .malformed

def nodeAt (place : Nat) : Construction Node := do
  match (← get).nodes[place]? with
  | some node => return node
  | none => fail

def setNode (place : Nat) (node : Node) : Construction Unit :=
  modify fun s => { s with nodes := s.nodes.set place node }

/-- Gives a collection the next place. -/
def add (collection : Collection) : Construction Nat := do
  let place := (← get).collections.length
  modify fun s => { s with collections := s.collections ++ [collection] }
  return place

/-! ### Scalars -/

/-- The text of a node that is read as a scalar. A mapping is read as the scalar under its key for a
bare value. -/
def scalarText : Nat → Nat → Construction (List Char)
  | 0, _ => throw (.unreadable "RecursionError" "maximum recursion depth exceeded")
  | fuel + 1, place => do
    match ← nodeAt place with
    | .scalar _ text => return text
    | .sequence _ _ => fail
    | .mapping _ entries =>
      let nodes := (← get).nodes
      let isBare (key : Nat) := (nodes[key]?.map Node.tag) = some (Tag.common "value")
      match entries.find? fun entry => isBare entry.1 with
      | some entry => scalarText fuel entry.2
      | none => fail

def scalar (place : Nat) (tag : String) : Construction Scalar := do
  match ScalarText.reader? tag with
  | some read =>
    -- a way through more nodes than there are goes round in circles
    let text ← scalarText ((← get).nodes.length + 1) place
    read text
  | none => fail

/-! ### Items -/

/-- The empty collection of the kind that a tag asks for. -/
def emptyCollection? (tag : String) : Option Collection :=
  if ["seq", "omap", "pairs"].map Tag.common |>.contains tag then some (.list [])
  else if tag = Tag.common "set" then some (.set [])
  else if tag = Tag.common "map" then some (.mapping [])
  else none

/-- The item that a node stands for. A collection is filled later, when its turn comes. -/
def item (place : Nat) : Construction Item := do
  match (← get).items.lookup place with
  | some item => return item
  | none =>
    let tag := (← nodeAt place).tag
    let item ← match emptyCollection? tag with
      | some collection =>
        let target ← add collection
        modify fun s => { s with waiting := s.waiting ++ [(place, target)] }
        pure (Item.shared target)
      | none => Item.plain <$> scalar place tag
    modify fun s => { s with items := (place, item) :: s.items }
    return item

/-- The value of a node that stands as a key. A collection is none. -/
def key (place : Nat) : Construction Scalar := do
  match ← item place with
  | .plain s => return s
  | .shared _ => fail

/-! ### Merging -/

def entriesOf (place : Nat) : Construction (List (Nat × Nat)) := do
  match ← nodeAt place with
  | .mapping _ entries => return entries
  | _ => fail

def setEntries (place : Nat) (entries : List (Nat × Nat)) : Construction Unit := do
  setNode place (.mapping (← nodeAt place).tag entries)

/-- The mark of a bare value is a text where it stands as a key. -/
def settleKey (place : Nat) : Construction Unit := do
  if (← nodeAt place).tag = Tag.common "value" then
    modify fun s => { s with nodes := s.nodes.modify place fun
      | .scalar _ text => .scalar (Tag.common "str") text
      | .sequence _ items => .sequence (Tag.common "str") items
      | .mapping _ entries => .mapping (Tag.common "str") entries }

/-- The first entry by which others are merged, and the entries without it. -/
def takeMerge? (nodes : List Node) :
    List (Nat × Nat) → Option (Nat × List (Nat × Nat))
  | [] => none
  | entry :: rest =>
    if nodes[entry.1]?.map Node.tag = some (Tag.common "merge") then some (entry.2, rest)
    else (takeMerge? nodes rest).map fun (value, others) => (value, entry :: others)

/-- Puts the entries that a mapping merges before its own ones, and leaves none that merge. A
mapping that is met again within lends what it has by then. -/
def flatten : Nat → Nat → List (Nat × Nat) → Construction Unit
  | 0, _, _ => fail
  | fuel + 1, place, merged => do
    let entries ← entriesOf place
    match takeMerge? (← get).nodes entries with
    | none =>
      setEntries place (merged ++ entries)
      entries.forM fun entry => settleKey entry.1
    | some (value, others) =>
      setEntries place others
      let lent ← lend (fun place => flatten fuel place []) value
      flatten fuel place (merged ++ lent)
where
  /-- The entries that a mapping lends, or each of several mappings, those of the last one first. -/
  lend (flatten : Nat → Construction Unit) (place : Nat) : Construction (List (Nat × Nat)) := do
    let flattened (place : Nat) := do
      flatten place
      entriesOf place
    match ← nodeAt place with
    | .scalar _ _ => fail
    | .mapping _ _ => flattened place
    | .sequence _ items => return (← items.mapM flattened).reverse.flatten

/-! ### Filling -/

/-- The list of the two items of a mapping of a single pair. -/
def pair (place : Nat) : Construction Item := do
  match ← nodeAt place with
  | .mapping _ [(first, second)] => return .shared (← add (.list [← item first, ← item second]))
  | _ => fail

/-- The entries of a mapping, each key once. -/
def entries (merges place : Nat) : Construction (List (Scalar × Item)) := do
  flatten (merges + 1) place []
  (← entriesOf place).foldlM (fun done entry => do
    let key ← key entry.1
    return Collection.addEntry done (key, ← item entry.2)) []

/-- The content of a collection. That the tag does not fit its node is found out here. -/
def content (merges place : Nat) : Construction Collection := do
  match ← nodeAt place with
  | .sequence tag items =>
    if tag = Tag.common "seq" then .list <$> items.mapM item
    else if ["omap", "pairs"].map Tag.common |>.contains tag then .list <$> items.mapM pair
    else fail
  | .mapping tag _ =>
    if tag = Tag.common "map" then .mapping <$> entries merges place
    else if tag = Tag.common "set" then
      return .set ((← entries merges place).map (·.1))
    else fail
  | .scalar _ _ => fail

/-- Fills the collections in the order in which they were met, those met on the way included. -/
def fill (merges : Nat) : Nat → Construction Unit
  | 0 => fail
  | fuel + 1 => do
    match (← get).waiting with
    | [] => return
    | (place, target) :: rest =>
      modify fun s => { s with waiting := rest }
      let collection ← content merges place
      modify fun s => { s with collections := s.collections.set target collection }
      fill merges fuel

end Construction

/-! ## Texts -/

/-- The document that the nodes of a graph stand for. -/
def Graph.document (graph : Graph) : Reading Document := do
  let build : Construction Item := do
    let root ← Construction.item graph.root
    -- each node waits once, and each step of merging takes an entry away
    let merges := graph.nodes.foldl (fun count node => count + node.entryCount) 0
    Construction.fill merges (graph.nodes.length + 1)
    return root
  let (root, rest) ← build.run { nodes := graph.nodes }
  return ⟨rest.collections, root⟩

/-- The document that a text holds; an empty text holds nothing. -/
def readText (text : List Char) : Reading Document := do
  match ← Graph.ofText text with
  | some graph => graph.document
  | none => return ⟨[], .plain .null⟩

end As2Exchange.Yaml
