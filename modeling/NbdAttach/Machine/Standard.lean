import NbdAttach.Machine.Basic

/-!
# The standard machine

A machine as it comes: the usual directories with next to nothing in them, and the programs that
every machine has.
-/

namespace NbdAttach

namespace FileSystem

/-- The usual directories. The first is the root, the last the one that relative paths start
from. -/
def standardDirectories : List Location :=
  [[], ["dev"], ["etc"], ["run"], ["tmp"], ["usr"], ["usr", "bin"], ["bin"], ["var"], ["root"],
   ["home"], ["work"]]

/-- The usual files, which are empty. -/
def standardFiles : List Location :=
  [["dev", "null"], ["dev", "zero"]]

def standard : FileSystem :=
  let bare : FileSystem := { device := 46, nodes := [], nextNumber := 3100, workingDir := ["work"] }
  let furnished := standardDirectories.foldl (fun fs loc => fs.make loc (.directory {})) bare
  standardFiles.foldl (fun fs loc => fs.make loc (.file .empty false)) furnished

end FileSystem

namespace Machine

/-- Installs the programs that every machine has. -/
def withPrograms (m : Machine) : Machine :=
  Behaviour.standard.foldl (fun m (name, behaviour) => m.install ["bin", name] behaviour) m

def standard : Machine :=
  withPrograms { fs := .standard }

end Machine

end NbdAttach
