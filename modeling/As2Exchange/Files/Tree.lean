import As2Exchange.PathName
import As2Exchange.Text.Quoted
import As2Exchange.Charset.Utf8

/-!
# File trees

The files that the program can read: a tree of directories with a working directory in it. Finding
a file walks the parts of its name from the left, so the first part that fails decides the error.

- `FileTree.put` adds a file or a directory with the directories above it;
- `FileTree.find` and `FileTree.read` find a node by its name;
- `FileError` says why a file cannot be read.
-/

namespace As2Exchange

/-! ## Nodes and errors -/

inductive FileNode where
  | directory
  | file (data : Bytes)

/-- Why a file cannot be read. -/
inductive FileFault where
  | missing
  | notDirectory
  | isDirectory
  | nameTooLong
  deriving DecidableEq, Repr

/-- The number and the wording of a fault. -/
def FileFault.describe : FileFault → Nat × String
  | .missing => (2, "No such file or directory")
  | .notDirectory => (20, "Not a directory")
  | .isDirectory => (21, "Is a directory")
  | .nameTooLong => (36, "File name too long")

/-- Why a file cannot be read, or not even be named. -/
inductive FileError where
  | unreadable (fault : FileFault) (name : String)
  /-- No file can have the name. -/
  | nulInName
  /-- The name is seen from a working directory that is there no more. -/
  | noWorkingDirectory
  deriving DecidableEq, Repr

/-- The wording of a failed reading. -/
def FileError.message : FileError → String
  | .unreadable fault name =>
    let (number, text) := fault.describe
    s!"[Errno {number}] {text}: {Text.quoted name}"
  | .nulInName => "embedded null byte"
  | .noWorkingDirectory =>
    let (number, text) := FileFault.missing.describe
    s!"[Errno {number}] {text}"

/-! ## Trees -/

/-- The nodes below the root by their parts, and the working directory. -/
structure FileTree where
  nodes : List (List String × FileNode)
  workingDirectory : PathName
  /-- Whether the working directory has been removed from under the program. -/
  isDetached : Bool := false

namespace FileTree

/-- The longest part of a name, in bytes. -/
def longestPart : Nat := 255

/-- The length in bytes from which on a whole name is too long. -/
def longestName : Nat := 4096

/-- A tree in which only the working directory exists. -/
def empty (workingDirectory : PathName) : FileTree := { nodes := [], workingDirectory }

/-- The node at a place below the root. The root and all directories above and at the working
directory exist, unless that one has been removed. -/
def node? (tree : FileTree) (place : List String) : Option FileNode :=
  if tree.isDetached && tree.workingDirectory.parts.isPrefixOf place then none
  else if place.isPrefixOf tree.workingDirectory.parts then some .directory
  else tree.nodes.lookup place

def set (tree : FileTree) (place : List String) (node : FileNode) : FileTree :=
  { tree with nodes := (place, node) :: tree.nodes.filter fun entry => entry.1 ≠ place }

/-- The places above a place, from the top. -/
def above (place : List String) : List (List String) :=
  (List.range place.length).map place.take

/-- The parts of a place from which each step up has been taken. -/
def settle (parts : List String) : List String :=
  parts.foldl (fun place part => if part = ".." then place.dropLast else place ++ [part]) []

/-- Adds a node under a name seen from the working directory, with the directories above it. -/
def put (tree : FileTree) (name : String) (node : FileNode) : FileTree :=
  let place := settle ((PathName.ofString name).below tree.workingDirectory).parts
  let tree := (above place).foldl (fun tree place =>
    if (tree.node? place).isSome then tree else tree.set place .directory) tree
  match node, tree.node? place with
  | .directory, some .directory => tree
  | node, _ => tree.set place node

/-- The number of bytes in which a name is stored. -/
def storedSize (name : String) : Nat := (Charset.Utf8.encode name.toList).length

/-- Walks the parts of a name from a place, whose node is known to be a directory or not. An empty
part or a point asks for a directory, two points lead to the directory above. -/
def walk (tree : FileTree) : List String → FileNode → List String → Except FileFault FileNode
  | _, node, [] => .ok node
  | _, .file _, _ :: _ => .error .notDirectory
  | place, .directory, part :: rest =>
    if part = "" || part = "." then tree.walk place .directory rest
    -- above the root stands the root
    else if part = ".." then tree.walk place.dropLast .directory rest
    else if longestPart < storedSize part then .error .nameTooLong
    else
      match tree.node? (place ++ [part]) with
      | none => .error .missing
      | some node => tree.walk (place ++ [part]) node rest

def find (tree : FileTree) (name : String) : Except FileFault FileNode :=
  let cs := name.toList
  if cs.isEmpty then .error .missing
  else if longestName ≤ storedSize name then .error .nameTooLong
  else
    let (root, rest) := PathName.splitRoot cs
    let start := if root = "" then tree.workingDirectory.parts else []
    tree.walk start .directory (PathName.rawParts rest)

def contains (tree : FileTree) (name : String) : Bool :=
  !name.toList.contains '\x00' && (tree.find name).toOption.isSome

def read (tree : FileTree) (name : String) : Except FileError Bytes :=
  if name.toList.contains '\x00' then .error .nulInName
  else
    match tree.find name with
    | .error fault => .error (.unreadable fault name)
    | .ok .directory => .error (.unreadable .isDirectory name)
    | .ok (.file data) => .ok data

end FileTree

end As2Exchange
