import NbdAttach.Log

/-!
# Log limits

A limit is a level down to which notices are shown, or none at all. `LogLimit.ofWord?` reads one:
the name of its level or its number, from 0 for nothing to 5 for everything.
-/

namespace NbdAttach

/-- How much is shown. -/
inductive LogLimit
  | nothing
  | upTo (level : Level)
deriving DecidableEq, Repr, Inhabited

namespace LogLimit

def shows (limit : LogLimit) (level : Level) : Bool :=
  match limit with
  | .nothing => false
  | .upTo lightest => level.rank ≤ lightest.rank

def everything : LogLimit := .upTo .trace

/-- The limits by their numbers. -/
def scale : List LogLimit :=
  [.nothing, .upTo .error, .upTo .warn, .upTo .info, .upTo .debug, .upTo .trace]

/-- The words for limits. -/
def words : List (String × LogLimit) :=
  [("off", .nothing), ("error", .upTo .error), ("warn", .upTo .warn), ("info", .upTo .info),
   ("debug", .upTo .debug), ("trace", .upTo .trace)]

/-- The limit for a number, which may have a plus sign and zeros in front. -/
def ofNumber? (word : List Char) : Option LogLimit :=
  let digits := if word.head? = some '+' then word.drop 1 else word
  if digits = [] ∨ !digits.all Char.isDigit then none
  else scale[digits.foldl (fun n c => 10 * n + (c.toNat - '0'.toNat)) 0]?

/-- The limit for a number or a word; letters of either case will do. -/
def ofWord? (word : List Char) : Option LogLimit :=
  match ofNumber? word with
  | some limit => some limit
  | none => words.lookup (String.ofList (word.map Char.toLower))

/-- A limit that shows a level shows every graver one. -/
theorem shows_of_rank_le {limit : LogLimit} {grave light : Level} (h : grave.rank ≤ light.rank)
    (hs : limit.shows light = true) : limit.shows grave = true := by
  cases limit with
  | nothing => exact hs
  | upTo lightest =>
    simp only [shows, decide_eq_true_eq] at hs ⊢
    exact Nat.le_trans h hs

theorem shows_everything (level : Level) : everything.shows level = true := by
  cases level <;> rfl

end LogLimit

end NbdAttach
