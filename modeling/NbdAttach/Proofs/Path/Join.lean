import Mathlib
import NbdAttach.Path

/-!
# Names in directories

What `Path.join` writes is the directory, a separator and the name, with the separator left out
where one is there already or the directory is empty (`join_cases`). However the directory is
written, the components of the result are those of the directory with the name behind them
(`components_join`).

A name is whatever can be the last step of a path: not empty, without a separator, and not one of
the two spellings with a meaning of their own.
-/

namespace NbdAttach

open Text

namespace Path

/-- Can this be a name in a directory? -/
structure IsName (name : String) : Prop where
  nonempty : name.toList ≠ []
  plain : '/' ∉ name.toList
  not_here : name.toList ≠ ['.']
  not_parent : name.toList ≠ ['.', '.']

/-! ### Texts -/

/-- Behind a separator the name is put as it is. -/
theorem join_of_separator {dir : Path} {front : List Char}
    (hdir : dir.text.toList = front ++ ['/']) (name : String) :
    (dir.join name).text.toList = front ++ '/' :: name.toList := by
  have hlast : dir.text.toList.getLast? = some '/' := by rw [hdir, List.getLast?_concat]
  have hjoin : dir.join name = ⟨dir.text ++ name⟩ := by simp only [join, hlast]
  rw [hjoin, String.toList_append, hdir, List.append_assoc, List.singleton_append]

/-- Behind any other character a separator comes first. -/
theorem join_of_other {dir : Path} {c : Char} (hlast : dir.text.toList.getLast? = some c)
    (hc : c ≠ '/') (name : String) :
    (dir.join name).text.toList = dir.text.toList ++ '/' :: name.toList := by
  have hjoin : dir.join name = ⟨dir.text ++ "/" ++ name⟩ := by
    unfold join
    split
    · next h => rw [hlast] at h; cases h
    · next h => rw [hlast] at h; exact absurd (Option.some.inj h) hc
    · rfl
  have hseparator : "/".toList = ['/'] := rfl
  rw [hjoin, String.toList_append, String.toList_append, hseparator, List.append_assoc,
    List.singleton_append]

/-- What stands in front of a name in a directory depends on the directory alone: nothing, or its
text up to a separator. -/
theorem join_cases (dir : Path) :
    (dir.text.toList = [] ∧ ∀ name, (dir.join name).text.toList = name.toList) ∨
      ∃ front, (dir.text.toList = front ++ ['/'] ∨ dir.text.toList = front ∧ front ≠ []) ∧
        ∀ name, (dir.join name).text.toList = front ++ '/' :: name.toList := by
  cases hlast : dir.text.toList.getLast? with
  | none =>
    refine .inl ⟨List.getLast?_eq_none_iff.mp hlast, ?_⟩
    intro name
    simp only [join, hlast]
  | some c =>
    obtain ⟨front, hfront⟩ := List.getLast?_eq_some_iff.mp hlast
    by_cases hc : c = '/'
    · subst hc
      exact .inr ⟨front, .inl hfront, join_of_separator hfront⟩
    · exact .inr ⟨_, .inr ⟨rfl, by simp [hfront]⟩, join_of_other hlast hc⟩

/-- What stands in front of the name ends with a separator, unless it is empty. -/
theorem exists_stem (dir : Path) : ∃ stem : String,
    (stem.toList = [] ∨ ∃ front, stem.toList = front ++ ['/']) ∧
      ∀ name, (dir.join name).text = stem ++ name := by
  rcases dir.join_cases with ⟨-, hjoin⟩ | ⟨front, -, hjoin⟩
  · refine ⟨"", .inl rfl, ?_⟩
    intro name
    apply String.toList_inj.mp
    rw [hjoin, String.toList_append]
    rfl
  · refine ⟨String.ofList (front ++ ['/']), .inr ⟨front, String.toList_ofList⟩, ?_⟩
    intro name
    apply String.toList_inj.mp
    rw [hjoin, String.toList_append, String.toList_ofList, List.append_assoc, List.singleton_append]

/-! ### Components -/

/-- What a path starts with, in front of its names. -/
def startOf (text : List Char) : List Component :=
  if text.head? = some '/' then [.root]
  else if (splitOn '/' text).head? = some ['.'] then [.here] else []

/-- The components of a path are what it starts with, and then those of its pieces. -/
theorem componentsOf_eq (text : List Char) :
    componentsOf text = startOf text ++ (splitOn '/' text).filterMap component? := by
  cases text with
  | nil => rfl
  | cons x rest =>
    by_cases hx : x = '/'
    · subst hx
      rfl
    · simp [componentsOf, startOf, hx]

/-- What a path starts with is decided before the first separator. -/
theorem startOf_append {front : List Char} (hfront : front ≠ []) (rest : List Char) :
    startOf (front ++ '/' :: rest) = startOf front := by
  have hpieces : (splitOn '/' front ++ splitOn '/' rest).head? = (splitOn '/' front).head? :=
    List.head?_append_of_ne_nil _ (splitOn_ne_nil _ _)
  rw [startOf, List.head?_append_of_ne_nil _ hfront, splitOn_append_cons, hpieces, startOf]

/-- A piece behind a separator adds its own component. -/
theorem componentsOf_append {front piece : List Char} (hfront : front ≠ []) (hpiece : '/' ∉ piece) :
    componentsOf (front ++ '/' :: piece) = componentsOf front ++ (component? piece).toList := by
  rw [componentsOf_eq, componentsOf_eq, startOf_append hfront, splitOn_append_cons,
    splitOn_of_notMem hpiece, List.filterMap_append, List.append_assoc]
  cases hcomponent : component? piece <;> simp [hcomponent]

/-- Behind the root a piece adds its own component, too. -/
theorem componentsOf_root {piece : List Char} (hpiece : '/' ∉ piece) :
    componentsOf ('/' :: piece) = .root :: (component? piece).toList := by
  have hempty : component? [] = none := rfl
  rw [componentsOf_eq, startOf, splitOn, splitOn_of_notMem hpiece]
  cases hcomponent : component? piece <;> simp [hempty, hcomponent]

namespace IsName

variable {name : String}

theorem component?_eq (hname : IsName name) :
    component? name.toList = some (.normal name.toList) := by
  simp [component?, hname.nonempty, hname.not_here, hname.not_parent]

/-- A path that is just a name has it as its only component. -/
theorem componentsOf_eq (hname : IsName name) :
    componentsOf name.toList = [.normal name.toList] := by
  have hroot : name.toList.head? ≠ some '/' :=
    fun hhead => hname.plain (List.mem_of_head? hhead)
  rw [Path.componentsOf_eq, startOf, if_neg hroot, splitOn_of_notMem hname.plain]
  simp [hname.not_here, hname.component?_eq]

end IsName

/-- The components of a name in a directory are those of the directory and the name. -/
theorem components_join (dir : Path) {name : String} (hname : IsName name) :
    (dir.join name).components = dir.components ++ [.normal name.toList] := by
  have hseparator : '/' ∉ ([] : List Char) := List.not_mem_nil
  unfold components
  rcases dir.join_cases with ⟨hdir, hjoin⟩ | ⟨front, hdir, hjoin⟩
  · -- an empty directory has no components
    rw [hjoin, hdir, hname.componentsOf_eq]
    rfl
  · rw [hjoin]
    rcases hdir with hdir | ⟨hdir, hfront⟩
    · -- the separator at the end of the directory counts only where it is the root
      rw [hdir]
      cases front with
      | nil =>
        rw [List.nil_append, List.nil_append, componentsOf_root hname.plain,
          componentsOf_root hseparator, hname.component?_eq]
        rfl
      | cons x rest =>
        rw [componentsOf_append (List.cons_ne_nil _ _) hname.plain,
          componentsOf_append (List.cons_ne_nil _ _) hseparator, hname.component?_eq]
        simp [component?]
    · rw [hdir, componentsOf_append hfront hname.plain, hname.component?_eq]
      rfl

end Path

end NbdAttach
