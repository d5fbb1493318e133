import As2Exchange.Raised

/-!
# Objects behind texts

A field of a template starts from a text, but it may ask for what stands under a name within it: for
the operations of texts, for their kind, and so on from there. What comes of that are texts again,
or objects of other kinds. These are left to the language that defines them, and nothing is supposed
of them: each access to them, and each way to write them out, may raise an exception of any kind.

- `Template.Found` is what a field stands for;
- `Template.Objects` says what objects have within them and how they are written;
- `Template.Objects.kinds` are objects of which only the kinds of texts and of kinds are there.
-/

namespace As2Exchange.Template

/-- What a field stands for: a text, or another object by its number. -/
inductive Found where
  | text (cs : List Char)
  | object (id : Nat)
  deriving DecidableEq, Repr

/-- What a field asks for in square brackets. -/
inductive Index where
  | number (n : Nat)
  | name (text : String)
  deriving DecidableEq, Repr

/-- What is within texts and objects, and how objects are written. -/
class Objects where
  /-- What stands under a name within a text or an object. -/
  part : Found → String → Except Raised Found
  /-- What an object has at an index. -/
  item : Nat → Index → Except Raised Found
  /-- An object as a text, by the mark of the conversion. -/
  convert : Nat → Char → Except Raised (List Char)
  /-- An object in a layout, which may be empty. -/
  layOut : Nat → List Char → Except Raised (List Char)

namespace Objects

/-- The kind of texts comes first, and then the kind of kinds. -/
def kindName (id : Nat) : String := if id = 0 then "str" else "type"

def kindPart (id : Nat) (name : String) : Except Raised Found :=
  if name = "__class__" then .ok (.object 1)
  else if name = "__name__" || name = "__qualname__" then .ok (.text (kindName id).toList)
  else if name = "__module__" then .ok (.text "builtins".toList)
  else
    .error ⟨"AttributeError", ["Exception"],
      "type object '" ++ kindName id ++ "' has no attribute '" ++ name ++ "'"⟩

def textPart (name : String) : Except Raised Found :=
  if name = "__class__" then .ok (.object 0)
  else .error ⟨"AttributeError", ["Exception"], "'str' object has no attribute '" ++ name ++ "'"⟩

def writtenKind (id : Nat) : List Char := ("<class '" ++ kindName id ++ "'>").toList

/-- A text only tells its kind, and a kind tells its names. -/
@[reducible]
def kinds : Objects where
  part
    | .text _, name => textPart name
    | .object id, name => kindPart id name
  item id _ :=
    .error ⟨"TypeError", ["Exception"], "type '" ++ kindName id ++ "' is not subscriptable"⟩
  convert id _ := .ok (writtenKind id)
  layOut id layout :=
    if layout.isEmpty then .ok (writtenKind id)
    else .error ⟨"TypeError", ["Exception"], "unsupported format string passed to type.__format__"⟩

end Objects

end As2Exchange.Template
