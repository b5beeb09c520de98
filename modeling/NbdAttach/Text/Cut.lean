/-!
# Cutting texts

A flag such as `--size=4G` is read by cutting it at its first `=`, and a path by cutting it at
every `/`. Both cuts are defined here over lists of characters.

* `cutAt c` gives what stands before the first `c`, and what stands after it when there is one;
  `cutAt_eq_none_iff` says when there is none, and `join_cutAt` that nothing is lost.
* `splitOn c` gives the pieces between all the `c`s, empty pieces included; `splitOn_append_cons`
  cuts at any of them, `splitOn_append` at the first.
-/

namespace NbdAttach.Text

/-- What stands before the first `c`, and what stands after it if there is a `c`. -/
def cutAt (c : Char) : List Char → List Char × Option (List Char)
  | [] => ([], none)
  | x :: rest =>
    if x = c then ([], some rest)
    else (x :: (cutAt c rest).1, (cutAt c rest).2)

/-- The pieces between the `c`s; there is always at least one piece. -/
def splitOn (c : Char) : List Char → List (List Char)
  | [] => [[]]
  | x :: rest =>
    if x = c then [] :: splitOn c rest
    else
      match splitOn c rest with
      | [] => [[x]]
      | piece :: pieces => (x :: piece) :: pieces

/-- `text` after `head`, when `text` begins with `head`. -/
def after? : (head text : List Char) → Option (List Char)
  | [], text => some text
  | _ :: _, [] => none
  | c :: head, x :: text => if c = x then after? head text else none

theorem cutAt_eq_none_iff {c : Char} {text : List Char} :
    (cutAt c text).2 = none ↔ c ∉ text := by
  induction text with
  | nil => simp [cutAt]
  | cons x rest ih =>
    by_cases h : x = c
    · simp [cutAt, h]
    · have h' : ¬c = x := fun e => h e.symm
      simp [cutAt, h, h', ih]

/-- A text that has a `c` is its two parts with that `c` between them. -/
theorem join_cutAt {c : Char} {text after : List Char} (h : (cutAt c text).2 = some after) :
    text = (cutAt c text).1 ++ c :: after := by
  induction text with
  | nil => simp [cutAt] at h
  | cons x rest ih =>
    by_cases hx : x = c
    · simp [cutAt, hx] at h ⊢
      exact h
    · simp only [cutAt, if_neg hx] at h ⊢
      rw [List.cons_append, ← ih h]

/-- The part before the cut has no `c`. -/
theorem notMem_cutAt_fst (c : Char) (text : List Char) : c ∉ (cutAt c text).1 := by
  induction text with
  | nil => simp [cutAt]
  | cons x rest ih =>
    by_cases hx : x = c
    · simp [cutAt, hx]
    · have h' : ¬c = x := fun e => hx e.symm
      simp [cutAt, hx, h', ih]

theorem cutAt_append {c : Char} {before : List Char} (h : c ∉ before) (after : List Char) :
    cutAt c (before ++ c :: after) = (before, some after) := by
  induction before with
  | nil => simp [cutAt]
  | cons x rest ih =>
    rw [List.mem_cons, not_or] at h
    have hx : ¬x = c := fun e => h.1 e.symm
    simp [cutAt, hx, ih h.2]

theorem cutAt_of_notMem {c : Char} {text : List Char} (h : c ∉ text) :
    cutAt c text = (text, none) := by
  induction text with
  | nil => rfl
  | cons x rest ih =>
    rw [List.mem_cons, not_or] at h
    have hx : ¬x = c := fun e => h.1 e.symm
    simp [cutAt, hx, ih h.2]

theorem after?_eq_some_iff {head text rest : List Char} :
    after? head text = some rest ↔ text = head ++ rest := by
  induction head generalizing text with
  | nil => simp [after?, eq_comm]
  | cons c head ih =>
    cases text with
    | nil => simp [after?]
    | cons x text =>
      by_cases h : c = x
      · simp [after?, h, ih]
      · have h' : ¬x = c := fun e => h e.symm
        simp [after?, h, h']

theorem splitOn_of_notMem {c : Char} {text : List Char} (h : c ∉ text) :
    splitOn c text = [text] := by
  induction text with
  | nil => rfl
  | cons x rest ih =>
    rw [List.mem_cons, not_or] at h
    have hx : ¬x = c := fun e => h.1 e.symm
    simp only [splitOn, if_neg hx, ih h.2]

theorem splitOn_ne_nil (c : Char) (text : List Char) : splitOn c text ≠ [] := by
  cases text with
  | nil => simp [splitOn]
  | cons x rest =>
    by_cases hx : x = c
    · simp [splitOn, hx]
    · simp only [splitOn, if_neg hx]
      split <;> simp

/-- A `c` separates the pieces before it from the pieces behind it. -/
theorem splitOn_append_cons (c : Char) (before after : List Char) :
    splitOn c (before ++ c :: after) = splitOn c before ++ splitOn c after := by
  induction before with
  | nil => simp [splitOn]
  | cons x before ih =>
    by_cases hx : x = c
    · simp [splitOn, hx, ih]
    · simp only [List.cons_append, splitOn, if_neg hx, ih]
      cases hpieces : splitOn c before with
      | nil => exact absurd hpieces (splitOn_ne_nil c before)
      | cons piece pieces => rfl

/-- A piece without a `c` in front of a `c` is the first of the pieces. -/
theorem splitOn_append {c : Char} {piece : List Char} (h : c ∉ piece) (rest : List Char) :
    splitOn c (piece ++ c :: rest) = piece :: splitOn c rest := by
  rw [splitOn_append_cons, splitOn_of_notMem h, List.singleton_append]

end NbdAttach.Text
