import NbdAttach.Proofs.FileSystem.Lookup

/-!
# Removing names

`FileSystem.unlink` takes away one entry at most, the one that the path ends at, and never a
directory or what a link leads to (`FileSystem.Cleared`, `cleared_unlink`). Once the entry is gone
the path ends at nothing any more, so to remove it again changes nothing (`unlink_unlink`), and
every lookup that does not come through the entry goes as before (`stat_erase`).

`FileSystem.remove` in addition takes it as done when there is nothing at the path (`removal_law`).
-/

namespace NbdAttach.FileSystem

variable {fs : FileSystem} {followLast : Bool} {loc : Location} {path : Path}

/-! ### Paths and their locations -/

/-- Does following the path lead through the location, or to it? -/
def Passes (fs : FileSystem) (followLast : Bool) (path : Path) (loc : Location) : Prop :=
  fs.LooksAt followLast mostLinks (if isAbsolute path then [] else fs.workingDir) (pathNames path)
    loc

/-- Whatever is checked of a path before it is followed does not depend on the nodes. -/
theorem locate_erase (fs : FileSystem) (followLast : Bool) (path : Path) (loc : Location) :
    Fares loc (fs.Passes followLast path loc) (fs.locate followLast path)
      ((fs.erase loc).locate followLast path) := by
  unfold locate
  split
  · exact .error _
  · split
    · exact .error _
    · split
      · exact .error _
      · exact walk_erase fs followLast loc _ _ _

/-- The node at a path is the same as before once another node is gone, unless the path leads
through that one; then there is none. -/
theorem node_erase (fs : FileSystem) (followLast : Bool) (path : Path) (loc : Location) :
    (fs.erase loc).node followLast path = fs.node followLast path ∨
      fs.Passes followLast path loc ∧ (fs.erase loc).node followLast path = .error .noEntry := by
  unfold node
  rcases locate_erase fs followLast path loc with ⟨hsame, hother⟩ | ⟨hpasses, hgone | hgone⟩
  · left
    rw [hsame]
    -- the path leads elsewhere, so its node is still there
    cases hlocate : fs.locate followLast path with
    | error e => rfl
    | ok found =>
      have hne : found ≠ loc := by
        rintro rfl
        exact hother hlocate
      simp only [find?_erase_of_ne hne]
  · right
    refine ⟨hpasses, ?_⟩
    rw [hgone]
  · right
    refine ⟨hpasses, ?_⟩
    rw [hgone]
    simp only [find?_erase_self]

/-- At the end of a path there is nothing once its node is gone. -/
theorem node_erase_of_locate (hlocate : fs.locate followLast path = .ok loc) :
    (fs.erase loc).node followLast path = .error .noEntry := by
  unfold node
  rcases locate_erase fs followLast path loc with ⟨-, hother⟩ | ⟨-, hgone | hgone⟩
  · exact absurd hlocate hother
  · rw [hgone]
  · rw [hgone]
    simp only [find?_erase_self]

/-- What is looked at elsewhere looks as before. -/
theorem stat_erase (hpasses : ¬fs.Passes true path loc) :
    (fs.erase loc).stat path = fs.stat path := by
  have hnode : (fs.erase loc).node true path = fs.node true path := by
    rcases node_erase fs true path loc with hsame | ⟨hthrough, -⟩
    · exact hsame
    · exact absurd hthrough hpasses
  rw [stat, stat, hnode]
  rfl

/-! ### Paths of entries -/

/-- A name stands for an entry, and not for the directory or the one above. -/
theorem isEntry_of_isName {name : String} (hname : Path.IsName name) : IsEntry name := by
  constructor
  · rintro (rfl | rfl)
    · exact hname.nonempty rfl
    · exact hname.not_here rfl
  · rintro rfl
    exact hname.not_parent rfl

/-- The names of a path in a directory are the names of the directory and the last one, and a path
in a relative directory is relative. -/
theorem exists_names (dir : Path) : ∃ names, ∀ last : String, last ≠ "" → '/' ∉ last.toList →
    pathNames (dir.join last) = names ++ [last] ∧
      isAbsolute (dir.join last) = isAbsolute (dir.join ".") := by
  obtain ⟨stem, hstem | ⟨front, hstem⟩, hjoin⟩ := dir.exists_stem
  · refine ⟨[], ?_⟩
    intro last hlast hplain
    have hhead : last.toList.head? ≠ some '/' := by
      intro hhead
      exact hplain (List.mem_of_head? hhead)
    simp [pathNames, isAbsolute, hjoin, hstem, Text.splitOn_of_notMem hplain, hhead]
  · refine ⟨(Text.splitOn '/' front).map String.ofList, ?_⟩
    intro last _ hplain
    have htext : ∀ last, (dir.join last).text.toList = front ++ '/' :: last.toList := by
      intro last
      rw [hjoin, String.toList_append, hstem, List.append_assoc, List.singleton_append]
    constructor
    · rw [pathNames, htext, Text.splitOn_append_cons, Text.splitOn_of_notMem hplain,
        List.map_append]
      simp
    · -- the first character belongs to the directory, whatever follows it
      rw [isAbsolute, isAbsolute, htext, htext]
      cases front <;> rfl

/-- An entry of a directory is where the path of the directory leads, with the name behind it. The
directory itself is written with a dot for the name. -/
theorem locate_join {dir : Path} {name : String} (hname : Path.IsName name)
    (hlocate : fs.locate false (dir.join name) = .ok loc) :
    ∃ place, fs.locate true (dir.join ".") = .ok place ∧ loc = place ++ [name] := by
  obtain ⟨names, hnames⟩ := exists_names dir
  obtain ⟨stem, -, hjoin⟩ := dir.exists_stem
  have hne : name ≠ "" := by
    rintro rfl
    exact hname.nonempty rfl
  obtain ⟨hnamesEntry, habsolute⟩ := hnames name hne hname.plain
  obtain ⟨hnamesDot, -⟩ := hnames "." (by decide) (by decide)
  -- what the system takes with the name in it, it takes with the dot in its place
  have hnul : (dir.join ".").hasNul = true → (dir.join name).hasNul = true := by
    simp only [Path.hasNul, hjoin, String.toList_append, List.contains_iff_mem, List.mem_append]
    rintro (hstem | hdot)
    · exact .inl hstem
    · exact absurd hdot (by decide)
  have hempty : (dir.join ".").text ≠ "" := by
    rw [hjoin]
    intro hempty
    exact absurd (String.append_eq_empty_iff.mp hempty).2 (by decide)
  have hlength : (dir.join ".").text.utf8ByteSize ≤ (dir.join name).text.utf8ByteSize := by
    have hpos : name.utf8ByteSize ≠ 0 := fun h => hne (String.utf8ByteSize_eq_zero_iff.mp h)
    have hdot : ".".utf8ByteSize = 1 := by decide
    rw [hjoin, hjoin, String.utf8ByteSize_append, String.utf8ByteSize_append, hdot]
    omega
  unfold locate at hlocate ⊢
  split at hlocate
  · cases hlocate
  · next hnoNul =>
    split at hlocate
    · cases hlocate
    · split at hlocate
      · cases hlocate
      · next hshort =>
        rw [if_neg fun h => hnoNul (hnul h), if_neg hempty,
          if_neg fun h => hshort (h.trans_le hlength), hnamesDot]
        rw [hnamesEntry, habsolute] at hlocate
        exact walk_concat (isEntry_of_isName hname) fs _ _ _ loc hlocate

/-! ### Removal -/

/-- Is there something at the location that is no directory, in a directory that may be changed? -/
def Removable (fs : FileSystem) (loc : Location) : Prop :=
  (∃ node, fs.find? loc = some node ∧ ∀ access, node.kind ≠ .directory access) ∧
    fs.mayChange loc = true

/-- An entry that can be removed goes away, and nothing else does. -/
theorem unlink_of_removable (hlocate : fs.locate false path = .ok loc)
    (hremovable : fs.Removable loc) : fs.unlink path = (.ok (), fs.erase loc) := by
  obtain ⟨⟨⟨number, kind⟩, hnode, hkind⟩, hchange⟩ := hremovable
  simp only [unlink, node, hlocate, hnode]
  cases kind with
  | directory access => exact absurd rfl (hkind access)
  | file _ _ => exact if_pos hchange
  | link _ => exact if_pos hchange

/-- Where there is no such entry, the removal fails and changes nothing. -/
theorem unlink_of_not_removable
    (hkept : ∀ loc, fs.locate false path = .ok loc → ¬fs.Removable loc) :
    ∃ e, fs.unlink path = (.error e, fs) := by
  unfold unlink node
  cases hlocate : fs.locate false path with
  | error e => exact ⟨e, rfl⟩
  | ok loc =>
    dsimp only
    rcases hnode : fs.find? loc with _ | ⟨number, kind⟩
    · exact ⟨_, rfl⟩
    · -- with a node that is no directory, only its own directory can be the reason
      have hchange (hkind : ∀ access, kind ≠ .directory access) : ¬fs.mayChange loc = true := by
        intro hmay
        exact hkept loc hlocate ⟨⟨_, hnode, hkind⟩, hmay⟩
      cases kind with
      | directory access => exact ⟨_, rfl⟩
      | file _ _ => exact ⟨_, if_neg (hchange nofun)⟩
      | link _ => exact ⟨_, if_neg (hchange nofun)⟩

/-- A removal either takes out what can be removed, or leaves everything as it is. -/
theorem unlink_cases (fs : FileSystem) (path : Path) :
    (∃ loc, fs.locate false path = .ok loc ∧ fs.Removable loc ∧
        fs.unlink path = (.ok (), fs.erase loc)) ∨
      (∀ loc, fs.locate false path = .ok loc → ¬fs.Removable loc) ∧
        ∃ e, fs.unlink path = (.error e, fs) := by
  by_cases hremovable : ∃ loc, fs.locate false path = .ok loc ∧ fs.Removable loc
  · obtain ⟨loc, hlocate, hloc⟩ := hremovable
    exact .inl ⟨loc, hlocate, hloc, unlink_of_removable hlocate hloc⟩
  · have hkept : ∀ loc, fs.locate false path = .ok loc → ¬fs.Removable loc := by
      intro loc hlocate hloc
      exact hremovable ⟨loc, hlocate, hloc⟩
    exact .inr ⟨hkept, unlink_of_not_removable hkept⟩

/-- The entry at the end of a path has been cleared away as far as it can be, and nothing else has
changed. -/
structure Cleared (fs : FileSystem) (path : Path) (after : FileSystem) : Prop where
  /-- What is at any other place is as it was, also what a link at the path leads to. -/
  frame : ∀ loc, fs.locate false path ≠ .ok loc → after.find? loc = fs.find? loc
  gone : ∀ loc, fs.locate false path = .ok loc → fs.Removable loc → after.find? loc = none
  /-- A directory stays, and what may not be removed; then all is as it was. -/
  kept : (∀ loc, fs.locate false path = .ok loc → ¬fs.Removable loc) → after = fs
  /-- Apart from its nodes the file system is the same in any case. -/
  same : after.device = fs.device ∧ after.nextNumber = fs.nextNumber ∧
    after.workingDir = fs.workingDir

/-- Where nothing can be removed, the file system is cleared as it is. -/
theorem cleared_refl (hkept : ∀ loc, fs.locate false path = .ok loc → ¬fs.Removable loc) :
    Cleared fs path fs where
  frame _ _ := rfl
  gone loc hlocate hloc := absurd hloc (hkept loc hlocate)
  kept _ := rfl
  same := ⟨rfl, rfl, rfl⟩

/-- Either course of a removal clears the end of the path. -/
theorem cleared_unlink (fs : FileSystem) (path : Path) : Cleared fs path (fs.unlink path).2 := by
  rcases fs.unlink_cases path with ⟨loc, hlocate, hloc, hunlink⟩ | ⟨hkept, e, hunlink⟩
  · rw [hunlink]
    refine ⟨?_, ?_, ?_, rfl, rfl, rfl⟩
    · intro other hother
      apply find?_erase_of_ne
      rintro rfl
      exact hother hlocate
    · rintro loc' hlocate' -
      obtain rfl := Except.ok.inj (hlocate.symm.trans hlocate')
      exact find?_erase_self fs loc
    · intro hkept
      exact absurd hloc (hkept loc hlocate)
  · rw [hunlink]
    exact cleared_refl hkept

/-- What was removed can be removed only once. -/
theorem unlink_of_unlinked {after : FileSystem} (hunlink : fs.unlink path = (.ok (), after)) :
    after.node false path = .error .noEntry ∧ after.unlink path = (.error .noEntry, after) := by
  rcases fs.unlink_cases path with ⟨loc, hlocate, -, hunlink'⟩ | ⟨-, e, hunlink'⟩
  · rw [hunlink'] at hunlink
    obtain ⟨-, rfl⟩ := Prod.mk.inj hunlink
    have hnode : (fs.erase loc).node false path = .error .noEntry := node_erase_of_locate hlocate
    refine ⟨hnode, ?_⟩
    simp only [unlink, hnode]
  · rw [hunlink'] at hunlink
    cases hunlink

/-- A second removal at the same path changes nothing more. -/
theorem unlink_unlink (fs : FileSystem) (path : Path) :
    ((fs.unlink path).2.unlink path).2 = (fs.unlink path).2 := by
  rcases hunlink : fs.unlink path with ⟨e | _, after⟩
  · -- nothing was changed, so the same happens again
    rcases fs.unlink_cases path with ⟨loc, -, -, hunlink'⟩ | ⟨-, e', hunlink'⟩
    · rw [hunlink'] at hunlink
      cases hunlink
    · rw [hunlink'] at hunlink
      obtain ⟨-, rfl⟩ := Prod.mk.inj hunlink
      rw [hunlink']
  · dsimp only
    rw [(unlink_of_unlinked hunlink).2]

/-! ### Removal of what may be missing -/

/-- A path that leads anywhere has no NUL in it. -/
theorem hasNul_of_locate (hlocate : fs.locate followLast path = .ok loc) : path.hasNul = false := by
  by_contra hnul
  rw [locate, if_pos (Bool.not_eq_false _ ▸ hnul)] at hlocate
  cases hlocate

/-- Only where there is nothing does a removal fail for that reason. -/
theorem node_of_unlink {after : FileSystem} (hunlink : fs.unlink path = (.error .noEntry, after)) :
    fs.node false path = .error .noEntry := by
  unfold unlink at hunlink
  rcases hnode : fs.node false path with e | ⟨loc, number, kind⟩
  · rw [hnode] at hunlink
    exact congrArg _ (Except.error.inj (Prod.mk.inj hunlink).1)
  · -- there is something, and then the reasons are others
    rw [hnode] at hunlink
    cases kind with
    | directory access => cases hunlink
    | file content executable =>
      dsimp only at hunlink
      split at hunlink <;> cases hunlink
    | link target =>
      dsimp only at hunlink
      split at hunlink <;> cases hunlink

/-- Where there is nothing, to remove it ends well without a change. -/
theorem remove_of_node (hnode : fs.node false path = .error .noEntry) :
    fs.remove path = (.ok (), fs) := by
  have hnul : ¬path.hasNul = true := by
    intro hnul
    rw [node, locate, if_pos hnul] at hnode
    cases hnode
  simp only [remove, unlink, hnode, refuseNul, if_neg hnul]
  rfl

/-- A removal takes the entry away, finds nothing to take away, or fails and changes nothing. -/
theorem remove_cases (fs : FileSystem) (path : Path) :
    (∃ after, fs.unlink path = (.ok (), after) ∧ fs.remove path = (.ok (), after)) ∨
      fs.node false path = .error .noEntry ∧ fs.remove path = (.ok (), fs) ∨
      (fs.unlink path).2 = fs ∧ ∃ e, fs.remove path = (.error e, fs) := by
  rcases fs.unlink_cases path with ⟨loc, hlocate, -, hunlink⟩ | ⟨-, e, hunlink⟩
  · refine .inl ⟨_, hunlink, ?_⟩
    simp only [remove, hunlink, refuseNul, hasNul_of_locate hlocate]
    rfl
  · have hafter : (fs.unlink path).2 = fs := by rw [hunlink]
    by_cases hnul : path.hasNul = true
    · refine .inr (.inr ⟨hafter, .nulInPath, ?_⟩)
      simp only [remove, hunlink, refuseNul, if_pos hnul]
      rfl
    · -- of the failures of the system, one is none here
      by_cases he : e = .noEntry
      · subst he
        have hnode := node_of_unlink hunlink
        exact .inr (.inl ⟨hnode, remove_of_node hnode⟩)
      · refine .inr (.inr ⟨hafter, .system e, ?_⟩)
        simp [remove, hunlink, refuseNul, hnul, IoError.isNotFound, he]

/-- What removing a path does, where it is no failure that there is nothing. -/
structure RemovalLaw (path : Path) (fs : FileSystem) (result : Except IoError Unit × FileSystem) :
    Prop where
  cleared : Cleared fs path result.2
  /-- It ends well only with nothing left at the path, not even a link. -/
  absent : result.1 = .ok () → result.2.node false path = .error .noEntry
  unchanged : ∀ e, result.1 = .error e → result.2 = fs
  again : result.1 = .ok () → result.2.remove path = (.ok (), result.2)

/-- The law holds of every path. In each case of `remove_cases` the file system is cleared by the
removal, or as it is. -/
theorem removal_law (fs : FileSystem) (path : Path) : RemovalLaw path fs (fs.remove path) := by
  have hcleared := cleared_unlink fs path
  rcases fs.remove_cases path with
    ⟨after, hunlink, hremove⟩ | ⟨hnode, hremove⟩ | ⟨hafter, e, hremove⟩
  · obtain ⟨hnode, -⟩ := unlink_of_unlinked hunlink
    rw [hunlink] at hcleared
    rw [hremove]
    exact ⟨hcleared, fun _ => hnode, nofun, fun _ => remove_of_node hnode⟩
  · have hafter : (fs.unlink path).2 = fs := by simp only [unlink, hnode]
    rw [hafter] at hcleared
    rw [hremove]
    exact ⟨hcleared, fun _ => hnode, nofun, fun _ => remove_of_node hnode⟩
  · rw [hafter] at hcleared
    rw [hremove]
    exact ⟨hcleared, nofun, fun _ _ => rfl, nofun⟩

end NbdAttach.FileSystem
