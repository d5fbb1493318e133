import As2Exchange.Text.Blank

/-!
# Path names

A path name is a root and a list of parts. Writing one collapses what does not matter for finding
the file: repeated and trailing slashes, and parts that are a single point. Two points stay, and so
do exactly two slashes at the start.
-/

namespace As2Exchange

/-- A path name in collapsed form. -/
structure PathName where
  /-- Nothing for a relative name, else one slash or two. -/
  root : String
  /-- The parts, none of them empty or a single point. -/
  parts : List String
  deriving DecidableEq, Repr, Inhabited

namespace PathName

/-- The root of a name and the characters behind it. -/
def splitRoot (cs : List Char) : String × List Char :=
  let slashes := cs.takeWhile (· = '/')
  let root := match slashes.length with
    | 0 => ""
    -- two slashes are a root of their own, three and more are one
    | 2 => "//"
    | _ => "/"
  (root, cs.drop slashes.length)

/-- The pieces of a name between its slashes. -/
def rawParts (cs : List Char) : List String :=
  (Text.pieces (· = '/') [] cs).map String.ofList

def ofString (text : String) : PathName :=
  let (root, rest) := splitRoot text.toList
  ⟨root, (rawParts rest).filter fun part => part ≠ "" && part ≠ "."⟩

/-- Writes a path name; the empty one is a single point. -/
protected def toString (path : PathName) : String :=
  if path.root = "" && path.parts.isEmpty then "."
  else path.root ++ "/".intercalate path.parts

instance : ToString PathName := ⟨PathName.toString⟩

/-- The last part of a name, which is empty for a bare root. -/
def name (path : PathName) : String := path.parts.getLastD ""

def isAbsolute (path : PathName) : Bool := path.root ≠ ""

/-- One name seen from another: an absolute name stands for itself. -/
def below (path base : PathName) : PathName :=
  if path.isAbsolute then path else ⟨base.root, base.parts ++ path.parts⟩

/-- The user whose home directory the first part of a name asks for; the empty name is the user of
the run. -/
def homeUser? (path : PathName) : Option String :=
  match path.root, path.parts with
  | "", first :: _ =>
    match first.toList with
    | '~' :: user => some (String.ofList user)
    | _ => none
  | _, _ => none

/-- A name whose first part asks for a home directory, with that directory in its place; nothing
if the directory is unknown. -/
def expandHome? (path : PathName) (home? : String → Option PathName) : Option PathName :=
  match path.homeUser? with
  | some user => (home? user).map fun home => ⟨home.root, home.parts ++ path.parts.tail⟩
  | none => some path

end PathName

end As2Exchange
