import NbdAttach.Log.Directive

/-!
# Log filters

Which notices are shown. A filter is a text of directives with commas between them. For each notice
the directive that says most about it decides, and of two that say as much the later one; a notice
that no directive is about is not shown (`LogFilter.limitOf`). So the empty filter shows nothing.

* `LogFilter.read?` reads a filter, and `LogFilter.ofRun` gives the one of a run.
-/

namespace NbdAttach

open Text

/-- A filter: its directives, in the order of the text. -/
structure LogFilter where
  directives : List LogDirective
deriving DecidableEq, Repr

namespace LogFilter

/-- The filter of one directive, about every notice. -/
def upTo (level : Level) : LogFilter :=
  ⟨[{ limit := .upTo level }]⟩

/-- Reads a filter. With one directive that cannot be read there is none. -/
def read? (text : String) : Option LogFilter :=
  (((splitOn ',' text.toList).filter (· ≠ [])).mapM LogDirective.read?).map LogFilter.mk

/-- The limit of the most specific directive, the last one of these; nothing without any. -/
def limitOfAll (directives : List LogDirective) : LogLimit :=
  match directives.foldl choose none with
  | none => .nothing
  | some d => d.limit
where
  choose (best? : Option LogDirective) (d : LogDirective) : Option LogDirective :=
    match best? with
    | none => some d
    | some best => if d.isAsSpecificAs best then some d else some best

/-- The limit for a notice. -/
def limitOf (filter : LogFilter) (n : Notice) : LogLimit :=
  limitOfAll (filter.directives.filter (·.concerns n))

/-- Is the notice shown? -/
def shows (filter : LogFilter) (n : Notice) : Bool :=
  (filter.limitOf n).shows n.level

/-- The filter of a run, given the text from outside. Without one, debugging shows more; a text that
cannot be read counts as one that asks for the usual. -/
def ofRun (text? : Option String) (debug : Bool) : LogFilter :=
  match text? with
  | none => .upTo (if debug then .debug else .info)
  | some text => (read? text).getD (.upTo .info)

theorem limitOf_upTo (level : Level) (n : Notice) : (upTo level).limitOf n = .upTo level :=
  rfl

theorem shows_upTo_iff {level : Level} {n : Notice} :
    (upTo level).shows n = true ↔ n.level.rank ≤ level.rank := by
  simp [shows, limitOf_upTo, LogLimit.shows]

/-- A notice that no directive is about is not shown. -/
theorem shows_eq_false_of_not_concerns {filter : LogFilter} {n : Notice}
    (h : ∀ d ∈ filter.directives, d.concerns n = false) : filter.shows n = false := by
  have hf : filter.directives.filter (·.concerns n) = [] := by
    rw [List.filter_eq_nil_iff]
    intro d hd
    simp [h d hd]
  simp [shows, limitOf, hf, limitOfAll, LogLimit.shows]

end LogFilter

end NbdAttach
