import NbdAttach.Path
import NbdAttach.SystemError

/-!
# File systems

A file system holds nodes at locations. A location is where a node really is, as the list of names
from the root down; a path leads to a location, through symbolic links and the directory above.

* `FileSystem.find?` looks at a location, `put` and `erase` change it, and nothing else.
* `FileSystem.locate` follows a path to the location it leads to, or fails as the system does.
-/

namespace NbdAttach

/-- Where a node is: the names from the root down. -/
abbrev Location := List String

/-- What the user may do with a directory. -/
structure Access where
  /-- Look up names in it. -/
  search : Bool := true
  /-- Add and remove names in it. -/
  write : Bool := true
deriving DecidableEq, Repr, Inhabited

/-- What a node is. -/
inductive NodeKind
  | file (content : ByteArray) (executable : Bool)
  | directory (access : Access)
  | link (target : Path)

/-- A node, with its number in the file system. -/
structure Node where
  number : UInt64
  kind : NodeKind

structure FileSystem where
  /-- The number of the file system itself. -/
  device : UInt64
  nodes : List (Location × Node)
  /-- The number for the next node that is made. -/
  nextNumber : UInt64
  /-- Where relative paths start. -/
  workingDir : Location

namespace FileSystem

/-- The node at a location. -/
def find? (fs : FileSystem) (loc : Location) : Option Node :=
  fs.nodes.lookup loc

/-- Takes the node at a location away. -/
def erase (fs : FileSystem) (loc : Location) : FileSystem :=
  { fs with nodes := fs.nodes.filter fun entry => entry.1 != loc }

/-- Puts a node at a location, in place of the one that is there. -/
def put (fs : FileSystem) (loc : Location) (node : Node) : FileSystem :=
  { fs with nodes := (loc, node) :: (fs.erase loc).nodes }

/-- Makes a new node at a location. -/
def make (fs : FileSystem) (loc : Location) (kind : NodeKind) : FileSystem :=
  { fs.put loc ⟨fs.nextNumber, kind⟩ with nextNumber := fs.nextNumber + 1 }

/-! ### Following paths -/

/-- The longest name that a directory can hold, in bytes. -/
def longestName : Nat := 255

/-- The longest path that the system takes, in bytes. -/
def longestPath : Nat := 4095

/-- How many symbolic links one path may lead through. -/
def mostLinks : Nat := 40

/-- The names between the separators of a path. An empty name stands for the directory itself. -/
def pathNames (path : Path) : List String :=
  (Text.splitOn '/' path.text.toList).map String.ofList

def isAbsolute (path : Path) : Bool :=
  path.text.toList.head? == some '/'

/-- Goes from a directory along names. At a symbolic link the rest of the way is handed to `jump`,
with the directory that the link is in and the names of its target in front. A last name that is
missing is where something can be made. -/
def walkFrom (fs : FileSystem) (followLast : Bool)
    (jump : Location → Path → List String → Except Errno Location) :
    Location → List String → Except Errno Location
  | here, [] => .ok here
  | here, name :: rest =>
    match fs.find? here with
    | some ⟨_, .directory access⟩ =>
      if !access.search then .error .accessDenied
      else if name = "" ∨ name = "." then walkFrom fs followLast jump here rest
      else if name = ".." then walkFrom fs followLast jump here.dropLast rest
      else if longestName < name.utf8ByteSize then .error .nameTooLong
      else
        match fs.find? (here ++ [name]) with
        | none => if rest.isEmpty then .ok (here ++ [name]) else .error .noEntry
        | some ⟨_, .link target⟩ =>
          if rest.isEmpty && !followLast then .ok (here ++ [name]) else jump here target rest
        | some _ => walkFrom fs followLast jump (here ++ [name]) rest
    | some _ => .error .notDirectory
    | none => .error .noEntry

/-- Goes from a directory along names, through at most the given number of links. -/
def walk (fs : FileSystem) (followLast : Bool) :
    Nat → Location → List String → Except Errno Location
  | 0 => walkFrom fs followLast fun _ _ _ => .error .tooManyLinks
  | links + 1 =>
    walkFrom fs followLast fun dir target rest =>
      if target.text = "" then .error .noEntry
      else
        walk fs followLast links (if isAbsolute target then [] else dir) (pathNames target ++ rest)

/-- The location that a path leads to. A link at its end is followed if `followLast` says so. -/
def locate (fs : FileSystem) (followLast : Bool) (path : Path) : Except Errno Location :=
  if path.hasNul then .error .invalidArgument
  else if path.text = "" then .error .noEntry
  else if longestPath < path.text.utf8ByteSize then .error .nameTooLong
  else
    walk fs followLast mostLinks (if isAbsolute path then [] else fs.workingDir) (pathNames path)

end FileSystem

end NbdAttach
