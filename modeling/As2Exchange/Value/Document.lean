import As2Exchange.Value.Basic
import As2Exchange.Decimal.Arithmetic

/-!
# Documents

A text can name a collection and refer to it again, even from within the collection. What such a
text holds is no tree: its collections lie at places, and whatever refers to a place sees the
changes that are made there.

- `Document.member?` is what a mapping holds under a name, `Document.setMember` changes it in place;
- `Document.tree` is the value that is seen from an item, down to a depth.
-/

namespace As2Exchange

/-! ## Scalars -/

/-- A value that is no collection, as a text writes one. -/
inductive Scalar where
  | null
  | bool (b : Bool)
  | int (n : Int)
  | double (d : Double)
  | text (s : String)
  | bytes (data : Bytes)
  | date (day : Day)
  | timestamp (day : Day) (hour : Hour)
  deriving DecidableEq, Repr

namespace Scalar

def value : Scalar → Value
  | null => .null
  | bool b => .bool b
  | int n => .int n
  | double d => .double d
  | text s => .text s
  | bytes data => .bytes data
  | date day => .date day
  | timestamp day hour => .timestamp day hour

/-- Whether two scalars are the same key. Numbers of different kinds are the same key if they are
equal; a truth value counts as a number. -/
def sameKey : Scalar → Scalar → Bool
  | text a, text b => a = b
  | bytes a, bytes b => a = b
  | null, null => true
  | date a, date b => a = b
  | timestamp a b, timestamp c d => a = c && b = d
  | double a, double b => a = b || (a.isZero && b.isZero)
  | double a, int b => a.isInt b
  | int a, double b => b.isInt a
  | double a, bool b => a.isInt (if b then 1 else 0)
  | bool a, double b => b.isInt (if a then 1 else 0)
  | int a, int b => a = b
  | int a, bool b => a = if b then 1 else 0
  | bool a, int b => b = if a then 1 else 0
  | bool a, bool b => a = b
  | _, _ => false

end Scalar

/-! ## Collections -/

/-- A scalar, or the place of a collection. -/
inductive Item where
  | plain (s : Scalar)
  | shared (place : Nat)
  deriving DecidableEq, Repr

/-- A collection. Keys and members of sets are scalars. -/
inductive Collection where
  | list (items : List Item)
  | set (members : List Scalar)
  | mapping (entries : List (Scalar × Item))
  deriving DecidableEq, Repr

namespace Collection

/-- The value of a collection, given what is seen of its items. -/
def value (seen : Item → Value) : Collection → Value
  | list items => .list (items.map seen)
  | set members => .set (members.map Scalar.value)
  | mapping entries => .mapping (entries.map fun entry => (entry.1.value, seen entry.2))

/-- Adds an entry to a mapping: in the place of the key if it is there, else at the end. -/
def addEntry (entries : List (Scalar × Item)) (entry : Scalar × Item) : List (Scalar × Item) :=
  if entries.any fun old => old.1.sameKey entry.1 then
    entries.map fun old => if old.1.sameKey entry.1 then (old.1, entry.2) else old
  else entries ++ [entry]

/-- What stands under a name; only mappings have names. -/
def member? (name : String) : Collection → Option Item
  | mapping entries => (entries.reverse.find? fun entry => entry.1 = .text name).map (·.2)
  | _ => none

/-- Puts an item under a name of a mapping. -/
def put (name : String) (item : Item) : Collection → Collection
  | mapping entries => mapping (addEntry entries (.text name, item))
  | collection => collection

end Collection

/-! ## Documents -/

/-- Collections by their places, and the item from which they are reached. -/
structure Document where
  collections : List Collection
  root : Item
  deriving DecidableEq, Repr

namespace Document

/-- A document without entries. -/
def empty : Document := ⟨[.mapping []], .shared 0⟩

def collection? (d : Document) : Item → Option Collection
  | .plain _ => none
  | .shared place => d.collections[place]?

def member? (d : Document) (item : Item) (name : String) : Option Item :=
  (d.collection? item).bind (Collection.member? name)

/-- Puts an item under a name of a mapping. The change is seen from wherever the mapping is. -/
def setMember (d : Document) (target : Item) (name : String) (new : Item) : Document :=
  match target with
  | .plain _ => d
  | .shared place => { d with collections := d.collections.modify place (Collection.put name new) }

/-- The value of an item down to a depth. A collection below that depth is not told, and the same
one may be met again on the way down. -/
def tree (d : Document) : Nat → Item → Value
  | _, .plain s => s.value
  | 0, .shared _ => .null
  | depth + 1, .shared place =>
    match d.collections[place]? with
    | some c => c.value (d.tree depth)
    | none => .null

end Document

end As2Exchange
