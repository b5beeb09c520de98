import NbdAttach.Proofs.Endpoint.Names
import NbdAttach.Proofs.Path.Join

/-!
# The paths of endpoints

The name of an endpoint is a name in every directory (`DeviceIdentity.isName_name`): it cannot leave
the directory of the sockets, and it cannot vanish in it. So the path of an endpoint is taken apart
into the directory and the name again, however the directory is written, and two paths are the same
exactly if both parts are (`Endpoint.path_law`).
-/

namespace NbdAttach

/-- The name of an endpoint has an underscore in it, so it is none of the names with a meaning of
their own, and no separator. -/
theorem DeviceIdentity.isName_name (id : DeviceIdentity) : Path.IsName id.name := by
  have hunderscore : '_' ∈ id.name.toList := by
    rw [toList_name]
    exact List.mem_append_right _ List.mem_cons_self
  have hother : ∀ text : List Char, '_' ∉ text → id.name.toList ≠ text := by
    rintro text htext rfl
    exact htext hunderscore
  refine ⟨hother [] (by decide), ?_, hother ['.'] (by decide), hother ['.', '.'] (by decide)⟩
  -- all other characters are digits
  have hdigit : ∀ width n, '/' ∉ Text.hex width n := by
    intro width n hmem
    have hlower : Text.IsLowerHex '/' := Text.isLowerHex_of_mem_hex width n '/' hmem
    exact absurd hlower (by decide)
  rw [toList_name]
  simp [nameChars, hdigit]

namespace Endpoint

variable {dir dir' : Path} {id id' : DeviceIdentity}

/-- The path of an endpoint goes to the directory and one step further. -/
theorem components_forDevice (dir : Path) (id : DeviceIdentity) :
    (forDevice dir id).path.components = dir.components ++ [.normal id.name.toList] :=
  Path.components_join dir id.isName_name

/-- The last steps of the two paths are compared by themselves, and so are the directories. -/
theorem same_forDevice_iff :
    Path.Same (forDevice dir id).path (forDevice dir' id').path ↔
      Path.Same dir dir' ∧ id.name = id'.name := by
  unfold Path.Same
  rw [components_forDevice, components_forDevice, ← List.concat_eq_append, ← List.concat_eq_append,
    List.concat_inj, Component.normal.injEq, String.toList_inj]

/-- How the path of an endpoint is made up, and when two of them are the same. -/
structure PathLaw (dir : Path) (id : DeviceIdentity) : Prop where
  /-- The name is one step, and a plain one, behind those of the directory. -/
  components : (forDevice dir id).path.components = dir.components ++ [.normal id.name.toList]
  under : (forDevice dir id).path.isUnder dir = true
  fileName : (forDevice dir id).path.fileName? = some id.name
  /-- Two endpoints are at the same path exactly if their directories are the same and their names
  are. -/
  same_iff : ∀ dir' id', Path.Same (forDevice dir id).path (forDevice dir' id').path ↔
    Path.Same dir dir' ∧ id.name = id'.name
  /-- Devices that differ are never at the same path. -/
  apart : ∀ dir' id', (id.device, id.inode) ≠ (id'.device, id'.inode) →
    ¬Path.Same (forDevice dir id).path (forDevice dir' id').path

/-- **An endpoint stays in its directory, and every device has its own there.** -/
theorem path_law (dir : Path) (id : DeviceIdentity) : PathLaw dir id where
  components := components_forDevice dir id
  under := by
    rw [Path.isUnder, components_forDevice]
    exact List.isPrefixOf_iff_prefix.mpr (List.prefix_append _ _)
  fileName := by
    rw [Path.fileName?, components_forDevice, List.getLast?_concat]
    exact congrArg some String.ofList_toList
  same_iff dir' id' := same_forDevice_iff
  apart dir' id' hne hsame := by
    obtain ⟨-, hname⟩ := same_forDevice_iff.mp hsame
    obtain ⟨hdevice, hinode⟩ := DeviceIdentity.eq_of_name_eq hname
    exact hne (Prod.ext hdevice hinode)

-- The directory may be written in many ways.
example : Path.Same (forDevice ⟨"./run//./nbd/"⟩ { device := 5, inode := 7 }).path
    (forDevice ⟨"./run/nbd"⟩ { device := 5, inode := 7 }).path := by cbv
example : (forDevice ⟨""⟩ { device := 5, inode := 7 }).path.text =
    "0000000000000005_0000000000000007" := by cbv

end Endpoint

end NbdAttach
