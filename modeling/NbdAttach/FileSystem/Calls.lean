import NbdAttach.Endpoint.Identity
import NbdAttach.FileSystem.Basic

/-!
# Calls on files

The calls of the system that look at files and change them. Each takes a path, and each fails
without changing anything.

* `stat` and `exists?` look, through a link at the end of the path or at the link itself;
  `content` reads.
* `unlink` takes away a name that is no directory; a link goes away itself, not what it leads to.
* `writeFile`, `makeDirectory` and `makeLink` make something at a path.
-/

namespace NbdAttach.FileSystem

/-- The node that a path leads to. -/
def node (fs : FileSystem) (followLast : Bool) (path : Path) : Except Errno (Location × Node) :=
  match fs.locate followLast path with
  | .error e => .error e
  | .ok loc =>
    match fs.find? loc with
    | none => .error .noEntry
    | some node => .ok (loc, node)

/-- The identity of what a path leads to, through a link at its end. -/
def stat (fs : FileSystem) (path : Path) : Except Errno DeviceIdentity :=
  (fs.node true path).map fun (_, node) => { device := fs.device, inode := node.number }

/-- Is there anything at a path? A link counts wherever it leads. -/
def exists? (fs : FileSystem) (path : Path) : Bool :=
  match fs.node false path with
  | .ok _ => true
  | .error _ => false

/-- May names be added to and removed from the directory that a location is in? -/
def mayChange (fs : FileSystem) (loc : Location) : Bool :=
  match fs.find? loc.dropLast with
  | some ⟨_, .directory access⟩ => access.write && access.search
  | _ => false

/-- Takes the name at the end of a path away, unless it is that of a directory. -/
def unlink (fs : FileSystem) (path : Path) : Except Errno Unit × FileSystem :=
  match fs.node false path with
  | .error e => (.error e, fs)
  | .ok (loc, node) =>
    match node.kind with
    | .directory _ => (.error .isDirectory, fs)
    | _ => if fs.mayChange loc then (.ok (), fs.erase loc) else (.error .accessDenied, fs)

/-- The content of a file. -/
def content (fs : FileSystem) (path : Path) : Except Errno ByteArray :=
  match fs.node true path with
  | .error e => .error e
  | .ok (_, node) =>
    match node.kind with
    | .file content _ => .ok content
    | .directory _ => .error .isDirectory
    | .link _ => .error .tooManyLinks

/-- Makes something at a path where nothing is. -/
def makeNew (fs : FileSystem) (path : Path) (kind : NodeKind) : Except Errno Unit × FileSystem :=
  match fs.locate false path with
  | .error e => (.error e, fs)
  | .ok loc =>
    match fs.find? loc with
    | some _ => (.error .alreadyExists, fs)
    | none => if fs.mayChange loc then (.ok (), fs.make loc kind) else (.error .accessDenied, fs)

/-- A path without the separators at its end. -/
def withoutTrailing (path : Path) : Path :=
  ⟨String.ofList (path.text.toList.reverse.dropWhile (· == '/')).reverse⟩

/-- Makes a directory. Unlike other names, that of a new directory may be followed by separators. -/
def makeDirectory (fs : FileSystem) (path : Path) : Except Errno Unit × FileSystem :=
  let bare := withoutTrailing path
  fs.makeNew (if bare.text = "" then path else bare) (.directory {})

def makeLink (fs : FileSystem) (path target : Path) : Except Errno Unit × FileSystem :=
  fs.makeNew path (.link target)

/-- Writes a file, at the end of the links that the path leads through. `content` is what it is to
hold, given what it holds. -/
def updateFile (fs : FileSystem) (path : Path) (content : ByteArray → ByteArray) :
    Except Errno Unit × FileSystem :=
  match fs.locate true path with
  | .error e => (.error e, fs)
  | .ok loc =>
    match fs.find? loc with
    | some ⟨number, .file old executable⟩ =>
      (.ok (), fs.put loc ⟨number, .file (content old) executable⟩)
    | some ⟨_, .directory _⟩ => (.error .isDirectory, fs)
    | some ⟨_, .link _⟩ => (.error .tooManyLinks, fs)
    | none =>
      if fs.mayChange loc then (.ok (), fs.make loc (.file (content .empty) false))
      else (.error .accessDenied, fs)

def writeFile (fs : FileSystem) (path : Path) (content : ByteArray) :
    Except Errno Unit × FileSystem :=
  fs.updateFile path fun _ => content

def appendFile (fs : FileSystem) (path : Path) (content : ByteArray) :
    Except Errno Unit × FileSystem :=
  fs.updateFile path fun old => old ++ content

/-! ### Calls that refuse a NUL -/

/-- Refuses a path that cannot be handed to the system. -/
def refuseNul {α : Type} (path : Path) (answer : Except Errno α) : Except IoError α :=
  if path.hasNul then .error .nulInPath
  else
    match answer with
    | .ok a => .ok a
    | .error e => .error (.system e)

/-- One look for a file. -/
def look (fs : FileSystem) (path : Path) : Except IoError Unit :=
  (refuseNul path (fs.stat path)).map fun _ => ()

def read (fs : FileSystem) (path : Path) : Except IoError ByteArray :=
  refuseNul path (fs.content path)

/-- Removes what is at a path; it is no error when there is nothing. -/
def remove (fs : FileSystem) (path : Path) : Except IoError Unit × FileSystem :=
  let (answer, after) := fs.unlink path
  match refuseNul path answer with
  | .ok () => (.ok (), after)
  | .error e => if e.isNotFound then (.ok (), fs) else (.error e, fs)

end NbdAttach.FileSystem
