import Mathlib
import NbdAttach.Readiness

/-!
# Looks for a file

A wait is told two things, again and again: what a look finds, and how much time is used up. A
`Watch.Course` is any sequence of the one with any sequence of the other, in whatever unit the clock
counts; not even that time passes is assumed here.

* Every watch shows a wait some course (`Watch.course`), and the course alone decides with which
  look the wait ends and what it answers (`await_eq_some_iff`).
* Every course is shown by some watch: `Course.watch` plays it, and keeps a diary of the looks that
  were taken and of the sleeps that were asked for.
* `Course.PollingLaw` says what a wait does that is told a course (`polling_law`).
-/

namespace NbdAttach.Watch

variable {σ : Type} {interval budget : Nat}

/-- What a wait is told: what each look finds, and the time that is read after it. -/
structure Course where
  found : Nat → Except IoError Unit
  elapsed : Nat → Nat

namespace Course

variable {c : Course} {k : Nat}

/-- Nothing is there yet and time is left, so the wait goes on after this look. -/
def GoesOn (c : Course) (budget k : Nat) : Prop :=
  c.found k = .error (.system .noEntry) ∧ c.elapsed k < budget

/-- The wait goes on after every look before this one. -/
def Reaches (c : Course) (budget k : Nat) : Prop :=
  ∀ j < k, c.GoesOn budget j

/-- The answer of a wait that ends with a look. The time counts only where nothing was found. -/
inductive Answers (c : Course) (budget k : Nat) : Except IoError Bool → Prop
  | there (hfound : c.found k = .ok ()) : Answers c budget k (.ok true)
  | failed {e : IoError} (hfound : c.found k = .error e) (hother : e ≠ .system .noEntry) :
    Answers c budget k (.error e)
  | late (hfound : c.found k = .error (.system .noEntry)) (helapsed : budget ≤ c.elapsed k) :
    Answers c budget k (.ok false)

/-- After every look the wait goes on or has an answer. -/
theorem goesOn_or_answers (c : Course) (budget k : Nat) :
    c.GoesOn budget k ∨ ∃ a, c.Answers budget k a := by
  cases hfound : c.found k with
  | ok => exact .inr ⟨_, .there hfound⟩
  | error e =>
    by_cases hentry : e = .system .noEntry
    · -- nothing is there, which is the only case where the time counts
      subst hentry
      rcases Nat.lt_or_ge (c.elapsed k) budget with hleft | hlate
      · exact .inl ⟨hfound, hleft⟩
      · exact .inr ⟨_, .late hfound hlate⟩
    · exact .inr ⟨_, .failed hfound hentry⟩

/-- A wait gets to the next look if it goes on after this one. -/
theorem reaches_succ_iff :
    c.Reaches budget (k + 1) ↔ c.Reaches budget k ∧ c.GoesOn budget k := by
  constructor
  · intro hreaches
    refine ⟨?_, hreaches k k.lt_succ_self⟩
    intro j hj
    exact hreaches j (Nat.lt_succ_of_lt hj)
  · rintro ⟨hreaches, hgoes⟩ j hj
    rcases Nat.lt_succ_iff_lt_or_eq.mp hj with hj | rfl
    · exact hreaches j hj
    · exact hgoes

theorem Reaches.mono {j : Nat} (hreaches : c.Reaches budget k) (hj : j ≤ k) :
    c.Reaches budget j := by
  intro i hi
  exact hreaches i (hi.trans_le hj)

/-- A wait either goes on for all of its looks or gets to one that ends it. -/
theorem reaches_or_exists_answers (c : Course) (budget looks : Nat) :
    c.Reaches budget looks ∨ ∃ k < looks, c.Reaches budget k ∧ ∃ a, c.Answers budget k a := by
  induction looks with
  | zero =>
    left
    intro j hj
    exact absurd hj j.not_lt_zero
  | succ looks ih =>
    rcases ih with hreaches | ⟨k, hk, hends⟩
    · -- it has gone on so far, so the last look decides
      rcases c.goesOn_or_answers budget looks with hgoes | hanswer
      · exact .inl (reaches_succ_iff.mpr ⟨hreaches, hgoes⟩)
      · exact .inr ⟨looks, looks.lt_succ_self, hreaches, hanswer⟩
    · exact .inr ⟨k, Nat.lt_succ_of_lt hk, hends⟩

/-- A look that ends the wait ends it with one answer. -/
theorem Answers.unique {a a' : Except IoError Bool} (ha : c.Answers budget k a)
    (ha' : c.Answers budget k a') : a = a' := by
  -- what the look has found rules out every pair of two different cases
  cases ha <;> cases ha' <;> simp_all

/-- A look that finds nothing can end the wait only when the time is used up. -/
theorem Answers.of_noEntry {a : Except IoError Bool} (ha : c.Answers budget k a)
    (hfound : c.found k = .error (.system .noEntry)) : a = .ok false ∧ budget ≤ c.elapsed k := by
  cases ha with
  | there hfound' => simp [hfound] at hfound'
  | failed hfound' hother =>
    rw [hfound] at hfound'
    exact absurd (Except.error.inj hfound').symm hother
  | late _ hlate => exact ⟨rfl, hlate⟩

end Course

/-! ### Any watch -/

/-- The state of a watch before look `k`, as long as the wait goes on. -/
def state (w : Watch σ) (interval budget : Nat) (s : σ) : Nat → σ
  | 0 => s
  | k + 1 =>
    match w.elapsed (w.look (w.state interval budget s k)).2 with
    | (elapsed, s) => w.sleep (pause interval budget elapsed) s

/-- What a watch tells a wait that starts from a state. -/
def course (w : Watch σ) (interval budget : Nat) (s : σ) : Course where
  found k := (w.look (w.state interval budget s k)).1
  elapsed k := (w.elapsed (w.look (w.state interval budget s k)).2).1

/-- The state in which look `k` leaves a watch, if the wait ends with it. -/
def final (w : Watch σ) (interval budget : Nat) (s : σ) (k : Nat) : σ :=
  match w.look (w.state interval budget s k) with
  | (.ok (), s) => s
  | (.error e, s) => if e.isNotFound then (w.elapsed s).2 else s

variable {w : Watch σ} {s s' : σ} {k looks : Nat} {a : Except IoError Bool}

theorem look_eq (w : Watch σ) (interval budget : Nat) (s : σ) (k : Nat) :
    w.look (w.state interval budget s k) =
      ((w.course interval budget s).found k, (w.look (w.state interval budget s k)).2) := rfl

theorem elapsed_eq (w : Watch σ) (interval budget : Nat) (s : σ) (k : Nat) :
    (w.elapsed (w.look (w.state interval budget s k)).2).1 =
      (w.course interval budget s).elapsed k := rfl

/-- A look after which the wait goes on takes the watch to its next state. -/
theorem await_of_goesOn (hgoes : (w.course interval budget s).GoesOn budget k) (looks : Nat) :
    w.await interval budget (w.state interval budget s k) (looks + 1) =
      w.await interval budget (w.state interval budget s (k + 1)) looks := by
  obtain ⟨hfound, hleft⟩ := hgoes
  have hnot : ¬budget ≤ (w.course interval budget s).elapsed k := Nat.not_le.mpr hleft
  rw [await, look_eq, hfound]
  simp [IoError.isNotFound, elapsed_eq, hnot, state]

/-- A look that has an answer ends the wait. -/
theorem await_of_answers (ha : (w.course interval budget s).Answers budget k a) (looks : Nat) :
    w.await interval budget (w.state interval budget s k) (looks + 1) =
      some (a, w.final interval budget s k) := by
  rw [await, final, look_eq]
  cases ha with
  | there hfound => simp [hfound]
  | failed hfound hother => simp [hfound, IoError.isNotFound, hother]
  | late hfound hlate => simp [hfound, IoError.isNotFound, elapsed_eq, hlate]

/-- A wait that goes on for `k` looks takes the watch through its first `k` states. -/
theorem await_of_reaches (hreaches : (w.course interval budget s).Reaches budget k) (looks : Nat) :
    w.await interval budget s (k + looks) =
      w.await interval budget (w.state interval budget s k) looks := by
  induction k generalizing looks with
  | zero => rw [Nat.zero_add, state]
  | succ k ih =>
    obtain ⟨hbefore, hgoes⟩ := Course.reaches_succ_iff.mp hreaches
    calc w.await interval budget s (k + 1 + looks)
      _ = w.await interval budget s (k + (looks + 1)) := by rw [Nat.succ_add_eq_add_succ]
      _ = w.await interval budget (w.state interval budget s k) (looks + 1) := ih hbefore _
      _ = w.await interval budget (w.state interval budget s (k + 1)) looks :=
        await_of_goesOn hgoes looks

/-- A wait returns with its first look that does not let it go on. -/
theorem await_eq_some_iff :
    w.await interval budget s looks = some (a, s') ↔
      ∃ k < looks, (w.course interval budget s).Reaches budget k ∧
        (w.course interval budget s).Answers budget k a ∧ s' = w.final interval budget s k := by
  -- a look that decides is the one with which the wait returns
  have hends : ∀ k < looks, (w.course interval budget s).Reaches budget k →
      ∀ a', (w.course interval budget s).Answers budget k a' →
      w.await interval budget s looks = some (a', w.final interval budget s k) := by
    intro k hk hreaches a' ha'
    obtain ⟨more, rfl⟩ := Nat.exists_eq_add_of_lt hk
    rw [Nat.add_assoc, await_of_reaches hreaches, await_of_answers ha']
  constructor
  · intro hawait
    rcases (w.course interval budget s).reaches_or_exists_answers budget looks with
      hreaches | ⟨k, hk, hreaches, a', ha'⟩
    · -- after those looks there are none left that could give the answer
      rw [← Nat.add_zero looks, await_of_reaches hreaches] at hawait
      cases hawait
    · rw [hends k hk hreaches a' ha'] at hawait
      obtain ⟨rfl, rfl⟩ := Prod.mk.inj (Option.some.inj hawait)
      exact ⟨k, hk, hreaches, ha', rfl⟩
  · rintro ⟨k, hk, hreaches, ha, rfl⟩
    exact hends k hk hreaches a ha

/-- A wait runs out of looks if and only if it goes on after each of them. -/
theorem await_eq_none_iff :
    w.await interval budget s looks = none ↔ (w.course interval budget s).Reaches budget looks := by
  constructor
  · intro hnone
    rcases (w.course interval budget s).reaches_or_exists_answers budget looks with
      hreaches | ⟨k, hk, hreaches, a, ha⟩
    · exact hreaches
    · rw [await_eq_some_iff.mpr ⟨k, hk, hreaches, ha, rfl⟩] at hnone
      cases hnone
  · intro hreaches
    exact await_of_reaches hreaches 0

/-- The answer of a wait depends on nothing but the course that the watch shows it. -/
theorem exists_await_iff :
    (∃ s', w.await interval budget s looks = some (a, s')) ↔
      ∃ k < looks, (w.course interval budget s).Reaches budget k ∧
        (w.course interval budget s).Answers budget k a := by
  simp only [await_eq_some_iff]
  constructor
  · rintro ⟨-, k, hk, hreaches, ha, -⟩
    exact ⟨k, hk, hreaches, ha⟩
  · rintro ⟨k, hk, hreaches, ha⟩
    exact ⟨_, k, hk, hreaches, ha, rfl⟩

/-! ### The watch for a course -/

/-- What a wait has done: how many looks it took, and the sleeps that it asked for, in order. -/
structure Diary where
  looks : Nat := 0
  sleeps : List Nat := []
deriving DecidableEq, Repr

namespace Course

/-- The watch that plays a course. The time is read after the look that was taken last. -/
def watch (c : Course) : Watch Diary where
  look d := (c.found d.looks, { d with looks := d.looks + 1 })
  elapsed d := (c.elapsed (d.looks - 1), d)
  sleep ms d := { d with sleeps := d.sleeps ++ [ms] }

/-- The sleeps that are asked for in front of look `k`. -/
def sleepsBefore (c : Course) (interval budget k : Nat) : List Nat :=
  (List.range k).map fun j => min interval (budget - c.elapsed j)

variable {c : Course} {k looks : Nat} {a : Except IoError Bool} {d : Diary}

theorem sleepsBefore_succ (c : Course) (interval budget k : Nat) :
    c.sleepsBefore interval budget (k + 1) =
      c.sleepsBefore interval budget k ++ [min interval (budget - c.elapsed k)] := by
  simp [sleepsBefore, List.range_succ]

/-- The watch that plays a course keeps its diary. -/
theorem state_watch (c : Course) (interval budget k : Nat) :
    c.watch.state interval budget {} k = ⟨k, c.sleepsBefore interval budget k⟩ := by
  induction k with
  | zero => rfl
  | succ k ih =>
    rw [state, ih, sleepsBefore_succ]
    rfl

/-- A wait on the watch that plays a course is told this course. -/
@[simp] theorem course_watch (c : Course) (interval budget : Nat) :
    c.watch.course interval budget {} = c := by
  simp only [course, state_watch]
  rfl

/-- The last look is in the diary, and no sleep follows it. -/
theorem final_watch (c : Course) (interval budget k : Nat) :
    c.watch.final interval budget {} k = ⟨k + 1, c.sleepsBefore interval budget k⟩ := by
  rw [final, state_watch]
  simp only [watch]
  split
  · -- where the file is there, the time is not read
    next hlook => exact (Prod.mk.inj hlook).2.symm
  · next hlook =>
    rw [← (Prod.mk.inj hlook).2]
    split <;> rfl

/-- The diary of a wait that has returned says which look has decided it. -/
theorem await_watch_eq_some_iff :
    c.watch.await interval budget {} looks = some (a, d) ↔
      ∃ k < looks, c.Reaches budget k ∧ c.Answers budget k a ∧
        d = ⟨k + 1, c.sleepsBefore interval budget k⟩ := by
  simp only [await_eq_some_iff, course_watch, final_watch]

/-- A wait on such a watch runs out of looks if and only if its course goes on for all of them. -/
theorem await_watch_eq_none_iff :
    c.watch.await interval budget {} looks = none ↔ c.Reaches budget looks := by
  rw [await_eq_none_iff, course_watch]

/-! ### The theorem -/

/-- How a wait goes that is told a course. -/
structure PollingLaw (c : Course) (interval budget : Nat) : Prop where
  /-- The wait returns with the first look that decides it, and with no other. -/
  returns_iff : ∀ looks a d, c.watch.await interval budget {} looks = some (a, d) ↔
    ∃ k < looks, c.Reaches budget k ∧ c.Answers budget k a ∧
      d = ⟨k + 1, c.sleepsBefore interval budget k⟩
  /-- It goes on for ever if it goes on after every look, and in no other case. -/
  forever_iff : (∀ looks, c.watch.await interval budget {} looks = none) ↔ ∀ k, c.GoesOn budget k
  /-- It is given up only when no look has found anything and the time is used up. -/
  given_up : ∀ looks d, c.watch.await interval budget {} looks = some (.ok false, d) →
    (∀ k < d.looks, c.found k = .error (.system .noEntry)) ∧
      ∃ k, d.looks = k + 1 ∧ budget ≤ c.elapsed k
  /-- A look that finds the file ends it well, however late it is. -/
  found : ∀ k, c.Reaches budget k → c.found k = .ok () → ∀ looks > k,
    ∃ d, c.watch.await interval budget {} looks = some (.ok true, d) ∧ d.looks = k + 1
  /-- A look that fails in another way ends it at once, and is what it answers. -/
  failed : ∀ k e, c.Reaches budget k → c.found k = .error e → e ≠ .system .noEntry →
    ∀ looks > k, ∃ d, c.watch.await interval budget {} looks = some (.error e, d) ∧ d.looks = k + 1
  /-- What it has asked for when it gets to a look, whether it ever ends or not. -/
  underway : ∀ k, c.Reaches budget k → ∀ looks,
    c.watch.await interval budget {} (k + looks) =
      c.watch.await interval budget ⟨k, c.sleepsBefore interval budget k⟩ looks
  /-- A sleep is asked for only while time is left, so there is something to subtract from; it is no
  longer than the interval, and no longer than what is left. -/
  sleep_le : ∀ k, c.Reaches budget k → ∀ ms ∈ c.sleepsBefore interval budget k,
    ∃ j < k, c.elapsed j < budget ∧ ms = min interval (budget - c.elapsed j) ∧ ms ≤ interval ∧
      c.elapsed j + ms ≤ budget
  /-- A wait on any other watch that tells the same has the same answer. -/
  any_watch : ∀ {σ : Type} (w : Watch σ) (s : σ), w.course interval budget s = c → ∀ looks a,
    (∃ s', w.await interval budget s looks = some (a, s')) ↔
      ∃ d, c.watch.await interval budget {} looks = some (a, d)

/-- **A wait ends with the first look that decides it.** What the look finds counts before the time
that is read after it, and no sleep goes beyond the time that is left. -/
theorem polling_law (c : Course) (interval budget : Nat) : c.PollingLaw interval budget where
  returns_iff _ _ _ := await_watch_eq_some_iff
  forever_iff := by
    simp only [await_watch_eq_none_iff]
    constructor
    · intro hreaches k
      exact hreaches (k + 1) k k.lt_succ_self
    · intro hgoes looks k _
      exact hgoes k
  given_up looks d hawait := by
    obtain ⟨k, -, hreaches, ha, rfl⟩ := await_watch_eq_some_iff.mp hawait
    cases ha with
    | late hfound hlate =>
      refine ⟨?_, k, rfl, hlate⟩
      intro j hj
      -- the last look found nothing either, else it would have been the answer
      rcases Nat.lt_succ_iff_lt_or_eq.mp hj with hj | rfl
      · exact (hreaches j hj).1
      · exact hfound
  found k hreaches hfound looks hlooks := by
    refine ⟨⟨k + 1, c.sleepsBefore interval budget k⟩, ?_, rfl⟩
    exact await_watch_eq_some_iff.mpr ⟨k, hlooks, hreaches, .there hfound, rfl⟩
  failed k e hreaches hfound hother looks hlooks := by
    refine ⟨⟨k + 1, c.sleepsBefore interval budget k⟩, ?_, rfl⟩
    exact await_watch_eq_some_iff.mpr ⟨k, hlooks, hreaches, .failed hfound hother, rfl⟩
  underway k hreaches looks := by
    -- the watch shows this very course
    rw [← course_watch c interval budget] at hreaches
    rw [await_of_reaches hreaches, state_watch]
  sleep_le k hreaches ms hms := by
    obtain ⟨j, hj, rfl⟩ := List.mem_map.mp hms
    have hj : j < k := List.mem_range.mp hj
    -- the wait went on after that look, so there was time left then
    have hleft : c.elapsed j < budget := (hreaches j hj).2
    have hpause : min interval (budget - c.elapsed j) ≤ budget - c.elapsed j := Nat.min_le_right _ _
    exact ⟨j, hj, hleft, rfl, Nat.min_le_left _ _, by omega⟩
  any_watch w s hcourse looks a := by
    rw [exists_await_iff, exists_await_iff, hcourse, course_watch]

end Course

end NbdAttach.Watch
