import As2Exchange.PathName
import As2Exchange.Bytes
import As2Exchange.Text.Quoted
import As2Exchange.Decimal.Shortest

/-!
# Unchecked values

What a configuration file or a caller may put in the place of a setting. A value is checked where it
is used; until then nothing is known about its kind.

- `Value.kind` names the kind of a value;
- `Value.isTrue` says which values count as given;
- `Value.shown` and `Value.text` write a value as a literal and as plain text.
-/

namespace As2Exchange

structure Day where
  (year month day : Nat)
  deriving DecidableEq, Repr

/-- A time of the day, with its offset from universal time in minutes where one is known. -/
structure Hour where
  (hour minute second micro : Nat)
  offset : Option Int
  deriving DecidableEq, Repr

/-- A value of any kind. The entries of a mapping keep their order. -/
inductive Value where
  | null
  | bool (b : Bool)
  | int (n : Int)
  | double (d : Double)
  | text (s : String)
  | bytes (data : Bytes)
  | path (path : PathName)
  | date (day : Day)
  | timestamp (day : Day) (hour : Hour)
  | list (items : List Value)
  | set (items : List Value)
  | mapping (entries : List (Value × Value))
  deriving Inhabited

namespace Value

def kind : Value → String
  | null => "NoneType"
  | bool _ => "bool"
  | int _ => "int"
  | double _ => "float"
  | text _ => "str"
  | bytes _ => "bytes"
  | path _ => "PosixPath"
  | date _ => "date"
  | timestamp _ _ => "datetime"
  | list _ => "list"
  | set _ => "set"
  | mapping _ => "dict"

/-- The name of a kind with the family that it belongs to. -/
def fullKind (v : Value) : String :=
  match v with
  | date _ | timestamp _ _ => "datetime." ++ v.kind
  | path _ => "pathlib." ++ v.kind
  | _ => v.kind

/-- Whether a value counts as given: nothing, zeros and whatever is empty do not. -/
def isTrue : Value → Bool
  | null => false
  | bool b => b
  | int n => n ≠ 0
  | double d => !d.isZero
  | text s => !s.isEmpty
  | bytes data => !data.isEmpty
  | list items => !items.isEmpty
  | set items => !items.isEmpty
  | mapping entries => !entries.isEmpty
  | path _ | date _ | timestamp _ _ => true

/-- The last value under a name in a mapping. -/
def field? (name : String) : Value → Option Value
  | mapping entries =>
    (entries.reverse.find? fun entry => match entry.1 with
      | text key => key = name
      | _ => false).map (·.2)
  | _ => none

/-! ## Literals -/

/-- A list of literals between brackets. -/
def enclosed (opening closing : String) (items : List String) : String :=
  opening ++ ", ".intercalate items ++ closing

/-- The literal of a day and of a time. -/
def dayNumbers (day : Day) : List String :=
  [toString day.year, toString day.month, toString day.day]

mutual

def shown : Value → String
  | null => "None"
  | bool b => if b then "True" else "False"
  | int n => toString n
  | double d => toString d
  | text s => Text.quoted s
  | bytes data => Text.quotedBytes data
  | path p => enclosed "PosixPath(" ")" [Text.quoted (toString p)]
  | date day => enclosed "datetime.date(" ")" (dayNumbers day)
  | timestamp day hour =>
    enclosed "datetime.datetime(" ")"
      (dayNumbers day ++ [toString hour.hour, toString hour.minute, toString hour.second])
  | list items => enclosed "[" "]" (shownAll items)
  | set [] => "set()"
  | set items => enclosed "\x7b" "\x7d" (shownAll items)
  | mapping entries => enclosed "\x7b" "\x7d" (shownEntries entries)

/-- The literals of several values. -/
def shownAll : List Value → List String
  | [] => []
  | v :: rest => shown v :: shownAll rest

/-- The literals of the entries of a mapping. -/
def shownEntries : List (Value × Value) → List String
  | [] => []
  | (key, v) :: rest => (shown key ++ ": " ++ shown v) :: shownEntries rest

end

/-- A value as plain text: a text as it is, a path by its name, others as literals. -/
def plain : Value → String
  | text s => s
  | path p => toString p
  | v => v.shown

end Value

end As2Exchange
