import Mathlib
import NbdAttach.FileSystem.Calls
import NbdAttach.Proofs.Path.Join

/-!
# Following paths

Which nodes decide where a path leads. `FileSystem.LooksAt` are the locations that a lookup looks at
on its way: the directories it goes through, the links it follows, and where it ends. The node at
any other location may go away, and the lookup does not notice (`walk_erase`). If it does notice, it
ends without finding anything.

The last name of a path stands in the directory that the path without it leads to, whatever links
there are on the way (`walk_concat`).
-/

namespace NbdAttach.FileSystem

variable {fs : FileSystem} {followLast : Bool} {links : Nat} {here loc : Location}
  {name : String} {rest names : List String}

/-! ### Nodes -/

/-- What was taken out is not there. -/
theorem find?_erase_self (fs : FileSystem) (loc : Location) : (fs.erase loc).find? loc = none := by
  apply List.lookup_eq_none_iff.mpr
  intro entry hentry
  have hne := (List.mem_filter.mp hentry).2
  rw [bne_iff_ne] at hne
  exact bne_iff_ne.mpr hne.symm

/-- The other nodes are found as before. -/
theorem find?_erase_of_ne {other : Location} (hne : other ≠ loc) :
    (fs.erase loc).find? other = fs.find? other := by
  unfold find? erase
  induction fs.nodes with
  | nil => rfl
  | cons entry entries ih =>
    obtain ⟨place, node⟩ := entry
    by_cases hplace : place = loc
    · -- the entry that is left out is not the one that is looked for
      have hother : (other == place) = false := beq_eq_false_iff_ne.mpr (hplace ▸ hne)
      rw [List.filter_cons_of_neg (by simpa using hplace), List.lookup_cons, hother]
      exact ih
    · rw [List.filter_cons_of_pos (by simpa using hplace), List.lookup_cons, List.lookup_cons]
      cases other == place with
      | true => rfl
      | false => exact ih

/-! ### Steps of a lookup -/

/-- May names be looked up at a location? -/
def enter (fs : FileSystem) (here : Location) : Except Errno Unit :=
  match fs.find? here with
  | some ⟨_, .directory access⟩ => if !access.search then .error .accessDenied else .ok ()
  | some _ => .error .notDirectory
  | none => .error .noEntry

/-- What becomes of a lookup at a link, when so many links may still be followed. -/
def jump (fs : FileSystem) (followLast : Bool) :
    Nat → Location → Path → List String → Except Errno Location
  | 0 => fun _ _ _ => .error .tooManyLinks
  | links + 1 => fun dir target rest =>
    if target.text = "" then .error .noEntry
    else
      fs.walk followLast links (if isAbsolute target then [] else dir) (pathNames target ++ rest)

/-- What becomes of a lookup at an entry of a directory. -/
def descend (fs : FileSystem) (followLast : Bool) (links : Nat) (here : Location) (name : String)
    (rest : List String) : Except Errno Location :=
  match fs.find? (here ++ [name]) with
  | none => if rest.isEmpty then .ok (here ++ [name]) else .error .noEntry
  | some ⟨_, .link target⟩ =>
    if rest.isEmpty && !followLast then .ok (here ++ [name])
    else fs.jump followLast links here target rest
  | some _ => fs.walk followLast links (here ++ [name]) rest

/-- Does the name stand for an entry of a directory, and not for the directory itself or the one
above? -/
def IsEntry (name : String) : Prop :=
  ¬(name = "" ∨ name = ".") ∧ name ≠ ".."

/-- The two cases of a lookup differ only in what becomes of a link. -/
theorem walk_eq (fs : FileSystem) (followLast : Bool) (links : Nat) :
    fs.walk followLast links = fs.walkFrom followLast (fs.jump followLast links) := by
  cases links <;> rfl

theorem walk_nil (fs : FileSystem) (followLast : Bool) (links : Nat) (here : Location) :
    fs.walk followLast links here [] = .ok here := by
  rw [walk_eq, walkFrom]

/-- A lookup takes one name after the other. -/
theorem walk_cons (fs : FileSystem) (followLast : Bool) (links : Nat) (here : Location)
    (name : String) (rest : List String) :
    fs.walk followLast links here (name :: rest) = (fs.enter here).bind fun _ =>
      if name = "" ∨ name = "." then fs.walk followLast links here rest
      else if name = ".." then fs.walk followLast links here.dropLast rest
      else if longestName < name.utf8ByteSize then .error .nameTooLong
      else fs.descend followLast links here name rest := by
  simp only [walk_eq, walkFrom, enter, descend]
  -- the two sides differ only in where the directory is checked
  rcases fs.find? here with _ | ⟨number, content | ⟨search, write⟩ | target⟩
  · rfl
  · rfl
  · cases search <;> rfl
  · rfl

/-- A lookup goes on with fewer names, or it follows a link and has one link less to follow. -/
theorem walk_induction {motive : Nat → Location → List String → Prop}
    (nil : ∀ links here, motive links here [])
    (cons : ∀ links here name rest, (∀ here', motive links here' rest) →
      (∀ links' < links, ∀ here' names, motive links' here' names) →
      motive links here (name :: rest)) :
    ∀ links here names, motive links here names := by
  intro links
  induction links using Nat.strong_induction_on with
  | _ links ih =>
    intro here names
    induction names generalizing here with
    | nil => exact nil links here
    | cons name rest ih' => exact cons links here name rest ih' ih

/-- The locations that a lookup looks at. -/
inductive LooksAt (fs : FileSystem) (followLast : Bool) :
    Nat → Location → List String → Location → Prop
  | here {links : Nat} {here : Location} {names : List String} :
    LooksAt fs followLast links here names here
  | stay {links : Nat} {here loc : Location} {name : String} {rest : List String}
      (hname : name = "" ∨ name = ".") (hrest : LooksAt fs followLast links here rest loc) :
    LooksAt fs followLast links here (name :: rest) loc
  | up {links : Nat} {here loc : Location} {name : String} {rest : List String}
      (hname : name = "..") (hrest : LooksAt fs followLast links here.dropLast rest loc) :
    LooksAt fs followLast links here (name :: rest) loc
  | entry {links : Nat} {here : Location} {name : String} {rest : List String}
      (hname : IsEntry name) :
    LooksAt fs followLast links here (name :: rest) (here ++ [name])
  | down {links : Nat} {here loc : Location} {name : String} {rest : List String} {node : Node}
      (hname : IsEntry name) (hnode : fs.find? (here ++ [name]) = some node)
      (hkind : ∀ target, node.kind ≠ .link target)
      (hrest : LooksAt fs followLast links (here ++ [name]) rest loc) :
    LooksAt fs followLast links here (name :: rest) loc
  | follow {links : Nat} {here loc : Location} {name : String} {rest : List String}
      {number : UInt64} {target : Path} (hname : IsEntry name)
      (hnode : fs.find? (here ++ [name]) = some ⟨number, .link target⟩)
      (hlast : rest ≠ [] ∨ followLast = true)
      (hrest : LooksAt fs followLast links (if isAbsolute target then [] else here)
        (pathNames target ++ rest) loc) :
    LooksAt fs followLast (links + 1) here (name :: rest) loc

/-- A lookup without names looks at one place only. -/
theorem looksAt_nil_iff : fs.LooksAt followLast links here [] loc ↔ loc = here := by
  constructor
  · intro hlooks
    cases hlooks
    rfl
  · rintro rfl
    exact .here

/-- A name that stands for the directory itself leads to no other place. -/
theorem looksAt_stay_iff (hname : name = "" ∨ name = ".") :
    fs.LooksAt followLast links here (name :: rest) loc ↔
      fs.LooksAt followLast links here rest loc := by
  constructor
  · intro hlooks
    cases hlooks with
    | here => exact .here
    | stay _ hrest => exact hrest
    | up hup => rcases hname with rfl | rfl <;> exact absurd hup (by decide)
    | entry hentry | down hentry | follow hentry => exact absurd hname hentry.1
  · exact .stay hname

/-- A name that is no link is looked at, and then the lookup goes on from there. -/
theorem looksAt_down_iff {node : Node} (hname : IsEntry name)
    (hnode : fs.find? (here ++ [name]) = some node) (hkind : ∀ target, node.kind ≠ .link target) :
    fs.LooksAt followLast links here (name :: rest) loc ↔
      loc = here ∨ fs.LooksAt followLast links (here ++ [name]) rest loc := by
  constructor
  · intro hlooks
    cases hlooks with
    | here => exact .inl rfl
    | stay hstay => exact absurd hstay hname.1
    | up hup => exact absurd hup hname.2
    | entry => exact .inr .here
    | down _ _ _ hrest => exact .inr hrest
    | follow _ hlink =>
      rw [hnode] at hlink
      obtain rfl := Option.some.inj hlink
      exact absurd rfl (hkind _)
  · rintro (rfl | hrest)
    · exact .here
    · exact .down hname hnode hkind hrest

/-! ### Without a node -/

/-- How a lookup that ends with `before` fares once the node at a location is gone: as before,
without coming there, or it has looked there and ends without finding anything. -/
def Fares (loc : Location) (looks : Prop) (before after : Except Errno Location) : Prop :=
  after = before ∧ before ≠ .ok loc ∨ looks ∧ (after = .error .noEntry ∨ after = .ok loc)

theorem Fares.mono {looks looks' : Prop} {before after : Except Errno Location}
    (hfares : Fares loc looks before after) (himp : looks → looks') :
    Fares loc looks' before after :=
  hfares.imp_right fun ⟨hlooks, hafter⟩ => ⟨himp hlooks, hafter⟩

theorem Fares.error {looks : Prop} (e : Errno) : Fares loc looks (.error e) (.error e) :=
  .inl ⟨rfl, nofun⟩

/-- What ends elsewhere ends there all the same. -/
theorem Fares.ok {looks : Prop} (hne : here ≠ loc) :
    Fares loc looks (.ok here) (.ok here) := by
  refine .inl ⟨rfl, ?_⟩
  intro heq
  exact hne (Except.ok.inj heq)

/-- The part of `walk_erase` behind a link. The links that are left are fewer, and with fewer it is
known. -/
theorem jump_erase {target : Path}
    (ih : ∀ links' < links, ∀ here' names, Fares loc (fs.LooksAt followLast links' here' names loc)
      (fs.walk followLast links' here' names) ((fs.erase loc).walk followLast links' here' names))
    {number : UInt64} (hname : IsEntry name)
    (hnode : fs.find? (here ++ [name]) = some ⟨number, .link target⟩)
    (hlast : rest ≠ [] ∨ followLast = true) :
    Fares loc (fs.LooksAt followLast links here (name :: rest) loc)
      (fs.jump followLast links here target rest)
      ((fs.erase loc).jump followLast links here target rest) := by
  cases links with
  | zero => exact .error _
  | succ links =>
    simp only [jump]
    split
    · exact .error _
    · -- there is one link less to follow now
      exact (ih links links.lt_succ_self _ _).mono (.follow hname hnode hlast)

/-- The part of `walk_erase` at an entry. Which case it is depends on the node of the entry, and
that is the same as before unless it is the one that is gone. -/
theorem descend_erase (hname : IsEntry name)
    (ih : ∀ here', Fares loc (fs.LooksAt followLast links here' rest loc)
      (fs.walk followLast links here' rest) ((fs.erase loc).walk followLast links here' rest))
    (ihLinks : ∀ links' < links, ∀ here' names,
      Fares loc (fs.LooksAt followLast links' here' names loc)
        (fs.walk followLast links' here' names)
        ((fs.erase loc).walk followLast links' here' names)) :
    Fares loc (fs.LooksAt followLast links here (name :: rest) loc)
      (fs.descend followLast links here name rest)
      ((fs.erase loc).descend followLast links here name rest) := by
  unfold descend
  by_cases hentry : here ++ [name] = loc
  · -- the entry is the one that is gone: as the last name it is still a place, with nothing there
    subst hentry
    rw [find?_erase_self]
    refine .inr ⟨.entry hname, ?_⟩
    cases rest with
    | nil => exact .inr rfl
    | cons _ _ => exact .inl rfl
  rw [find?_erase_of_ne hentry]
  rcases hnode : fs.find? (here ++ [name]) with _ | ⟨number, content | access | target⟩
  · dsimp only
    split
    · exact .ok hentry
    · exact .error _
  · -- the lookup goes on below the entry
    exact (ih _).mono (.down hname hnode nofun)
  · exact (ih _).mono (.down hname hnode nofun)
  · dsimp only
    split
    · -- a link at the end that is not followed is where the path leads
      exact .ok hentry
    · next hlast =>
      apply jump_erase ihLinks hname hnode
      cases rest with
      | nil => exact .inr (by simpa using hlast)
      | cons _ _ => exact .inl (List.cons_ne_nil _ _)

/-- With the node at a location gone, a lookup goes as before, unless it looks there. -/
theorem walk_erase (fs : FileSystem) (followLast : Bool) (loc : Location) (links : Nat)
    (here : Location) (names : List String) :
    Fares loc (fs.LooksAt followLast links here names loc) (fs.walk followLast links here names)
      ((fs.erase loc).walk followLast links here names) := by
  induction links, here, names using walk_induction with
  | nil links here =>
    rw [walk_nil, walk_nil]
    by_cases hhere : here = loc
    · subst hhere
      exact .inr ⟨.here, .inr rfl⟩
    · exact .ok hhere
  | cons links here name rest ih ihLinks =>
    rw [walk_cons, walk_cons]
    by_cases hhere : here = loc
    · -- no name can be looked up in what is gone
      subst hhere
      refine .inr ⟨.here, .inl ?_⟩
      simp only [enter, find?_erase_self, Except.bind]
    have henter : (fs.erase loc).enter here = fs.enter here := by
      rw [enter, find?_erase_of_ne hhere, enter]
    rw [henter]
    cases fs.enter here with
    | error e => exact .error e
    | ok _ =>
      simp only [Except.bind]
      split
      · next hname => exact (ih _).mono (.stay hname)
      · next hstay =>
        split
        · next hup => exact (ih _).mono (.up hup)
        · next hup =>
          split
          · exact .error _
          · exact descend_erase ⟨hstay, hup⟩ ih ihLinks

/-! ### The last name -/

/-- Where a lookup ends that stops at the entry `name` of a directory: in that directory, which is
where the dot in place of the name leads. -/
def EndsIn (name : String) (toEntry toDot : Except Errno Location) : Prop :=
  ∀ loc, toEntry = .ok loc → ∃ dir, toDot = .ok dir ∧ loc = dir ++ [name]

/-- An entry at the end is found as it stands, a link too. -/
theorem descend_last (fs : FileSystem) (links : Nat) (here : Location) (name : String) :
    fs.descend false links here name [] = .ok (here ++ [name]) := by
  unfold descend
  rcases fs.find? (here ++ [name]) with _ | ⟨number, content | access | target⟩
  · rfl
  · exact walk_nil _ _ _ _
  · exact walk_nil _ _ _ _
  · rfl

/-- The part of `walk_concat` at an entry in front of the last one. -/
theorem descend_concat {first : String}
    (ih : ∀ here', EndsIn name (fs.walk false links here' (rest ++ [name]))
      (fs.walk true links here' (rest ++ ["."])))
    (ihLinks : ∀ links' < links, ∀ here' names,
      EndsIn name (fs.walk false links' here' (names ++ [name]))
        (fs.walk true links' here' (names ++ ["."]))) :
    EndsIn name (fs.descend false links here first (rest ++ [name]))
      (fs.descend true links here first (rest ++ ["."])) := by
  have hmore : ∀ last : String, (rest ++ [last]).isEmpty = false := by simp
  unfold descend
  rcases fs.find? (here ++ [first]) with _ | ⟨number, content | access | target⟩
  · simp only [hmore]
    exact nofun
  · exact ih _
  · exact ih _
  · -- neither lookup is at its end, so both of them follow the link
    simp only [hmore, Bool.false_and]
    cases links with
    | zero => exact nofun
    | succ links =>
      by_cases htarget : target.text = ""
      · simp only [jump, if_pos htarget]
        exact nofun
      · simp only [jump, if_neg htarget, ← List.append_assoc]
        exact ihLinks links links.lt_succ_self _ _

/-- The last name of a path is that of an entry of the directory that the path leads to without
it. -/
theorem walk_concat (hname : IsEntry name) (fs : FileSystem) (links : Nat) (here : Location)
    (names : List String) :
    EndsIn name (fs.walk false links here (names ++ [name]))
      (fs.walk true links here (names ++ ["."])) := by
  induction links, here, names using walk_induction with
  | nil links here =>
    simp only [List.nil_append, walk_cons, walk_nil]
    cases fs.enter here with
    | error e => exact nofun
    | ok _ =>
      simp only [Except.bind, if_neg hname.1, if_neg hname.2]
      split
      · exact nofun
      · -- the place of the entry, in the directory that the lookup is in by now
        rw [descend_last]
        intro loc hloc
        exact ⟨here, rfl, (Except.ok.inj hloc).symm⟩
  | cons links here first rest ih ihLinks =>
    -- both lookups take the same steps as long as there are names in front of the last one
    simp only [List.cons_append, walk_cons]
    cases fs.enter here with
    | error e => exact nofun
    | ok _ =>
      simp only [Except.bind]
      split
      · exact ih _
      · split
        · exact ih _
        · split
          · exact nofun
          · exact descend_concat ih ihLinks

end NbdAttach.FileSystem
