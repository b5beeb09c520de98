import NbdAttach.Text.Cut

/-!
# Paths

A path is kept as it was written, since that text is what processes are given. Two paths are
compared by their components: repeated separators, inner dots and a separator at the end do not
count.

* `Path.components` reads a path; `Path.Same` compares two.
* `Path.join` puts one more name behind a directory, with a separator only where one is missing.
-/

namespace NbdAttach

open Text

/-- One step of a path. -/
inductive Component
  /-- The separator that an absolute path starts with. -/
  | root
  /-- A dot at the start of a relative path. -/
  | here
  /-- The directory above. -/
  | parent
  | normal (name : List Char)
deriving DecidableEq, Repr

/-- A path as it was written. -/
structure Path where
  text : String
deriving DecidableEq, Repr, Inhabited

namespace Path

/-- The component that one piece between separators stands for. A lone dot counts only where
`Path.components` says so. -/
def component? (piece : List Char) : Option Component :=
  if piece = [] ∨ piece = ['.'] then none
  else if piece = ['.', '.'] then some .parent
  else some (.normal piece)

/-- The components of a written path, in order. -/
def componentsOf (text : List Char) : List Component :=
  let pieces := splitOn '/' text
  let start : List Component :=
    match text with
    | '/' :: _ => [.root]
    | _ => if pieces.head? = some ['.'] then [.here] else []
  start ++ pieces.filterMap component?

def components (p : Path) : List Component :=
  componentsOf p.text.toList

/-- Two paths are the same when their components are. -/
def Same (a b : Path) : Prop :=
  a.components = b.components

instance (a b : Path) : Decidable (Same a b) :=
  inferInstanceAs (Decidable (_ = _))

/-- The path of `name` in the directory `dir`; the empty directory adds nothing in front. -/
def join (dir : Path) (name : String) : Path :=
  match dir.text.toList.getLast? with
  | none => ⟨name⟩
  | some '/' => ⟨dir.text ++ name⟩
  | some _ => ⟨dir.text ++ "/" ++ name⟩

/-- The last component, if it is a name. -/
def fileName? (p : Path) : Option String :=
  match p.components.getLast? with
  | some (.normal name) => some (String.ofList name)
  | _ => none

/-- Does the path begin with all components of `dir`? -/
def isUnder (p dir : Path) : Bool :=
  dir.components.isPrefixOf p.components

/-- A NUL character cannot be part of a path that is handed to the system. -/
def hasNul (p : Path) : Bool :=
  p.text.toList.contains '\x00'

end Path

end NbdAttach
