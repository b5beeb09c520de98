import Mathlib
import NbdAttach.Machine.Basic
import NbdAttach.Proofs.Readiness.Looks
import NbdAttach.Proofs.Settings.Validity

/-!
# Bounds of a wait

How long a wait can go on is decided by the clock alone. If every sleep takes at least as long as
was asked for (`Course.Advances`), each look but the last is a whole interval after the one before
it, so the number of looks is bounded; and if every sleep takes exactly as long and nothing else
takes time (`Course.Punctual`), the times of the looks are known, the last one being at the very
end.

`Course.BoundedLaw` collects what follows (`bounded_law`). The wait on a simulated machine is one of
those with a bound, so it always gives an answer of its own (`Machine.awaitFile_eq`).
-/

namespace NbdAttach

namespace Watch.Course

variable {c : Course} {interval budget step k : Nat}

/-- Wherever the wait goes on, the time read after the next look has advanced by `step` or by all
that was left. -/
def Advances (c : Course) (step budget : Nat) : Prop :=
  ∀ k, c.GoesOn budget k → c.elapsed k + pause step budget (c.elapsed k) ≤ c.elapsed (k + 1)

/-- Time passes in the sleeps alone, and each of them lasts as long as was asked for. -/
structure Punctual (c : Course) (interval budget : Nat) : Prop where
  start : c.elapsed 0 = 0
  sleeps : ∀ k, c.GoesOn budget k →
    c.elapsed (k + 1) = c.elapsed k + pause interval budget (c.elapsed k)

/-- A punctual clock advances by each sleep. -/
theorem Punctual.advances (hpunctual : c.Punctual interval budget) :
    c.Advances interval budget := by
  intro k hgoes
  exact (hpunctual.sleeps k hgoes).ge

/-! ### The number of looks -/

/-- The invariant of the looks: each of them is at least a step after the one before it, until the
time is used up. -/
theorem Advances.min_le_elapsed (hadvances : c.Advances step budget)
    (hreaches : c.Reaches budget k) : min (k * step) budget ≤ c.elapsed k := by
  induction k with
  | zero => simp
  | succ k ih =>
    obtain ⟨hreaches, hgoes⟩ := reaches_succ_iff.mp hreaches
    have hbefore : min (k * step) budget ≤ c.elapsed k := ih hreaches
    have hleft : c.elapsed k < budget := hgoes.2
    have hstep : c.elapsed k + min step (budget - c.elapsed k) ≤ c.elapsed (k + 1) :=
      hadvances k hgoes
    -- time was left, so the invariant says that `k` steps have passed, and this is one more
    rw [Nat.succ_mul]
    omega

/-- A wait whose sleeps add up does not get beyond the looks that fit into its budget. -/
theorem Advances.not_reaches (hadvances : c.Advances step budget) (hstep : 1 ≤ step) {looks : Nat}
    (hlooks : budget ⌈/⌉ step < looks) : ¬c.Reaches budget looks := by
  intro hreaches
  have hall : budget ≤ budget ⌈/⌉ step * step := by
    rw [Nat.mul_comm]
    exact (ceilDiv_le_iff_le_mul hstep).mp le_rfl
  -- the budget is used up by then, and yet the wait is to go on
  have hleft : c.elapsed (budget ⌈/⌉ step) < budget := (hreaches _ hlooks).2
  have helapsed := hadvances.min_le_elapsed (hreaches.mono hlooks.le)
  omega

/-- A wait on a watch that shows such a course ends by itself. -/
theorem Advances.exists_await {σ : Type} {w : Watch σ} {s : σ} {looks : Nat}
    (hadvances : (w.course interval budget s).Advances step budget) (hstep : 1 ≤ step)
    (hlooks : budget ⌈/⌉ step < looks) :
    ∃ a s', w.await interval budget s looks = some (a, s') := by
  cases hawait : w.await interval budget s looks with
  | none => exact absurd (await_eq_none_iff.mp hawait) (hadvances.not_reaches hstep hlooks)
  | some result => exact ⟨result.1, result.2, rfl⟩

/-- A wait that is told such a course by the watch that plays it ends by itself. -/
theorem Advances.exists_await_watch (hadvances : c.Advances step budget) (hstep : 1 ≤ step)
    {looks : Nat} (hlooks : budget ⌈/⌉ step < looks) (interval : Nat) :
    ∃ a d, c.watch.await interval budget {} looks = some (a, d) := by
  rw [← course_watch c interval budget] at hadvances
  exact hadvances.exists_await hstep hlooks

/-! ### The sleeps -/

/-- What was slept so far has passed on the clock, and no sleep went beyond the end of the time. -/
theorem Advances.sum_sleepsBefore_le (hadvances : c.Advances interval budget)
    (hreaches : c.Reaches budget k) :
    (c.sleepsBefore interval budget k).sum ≤ min (c.elapsed k) budget := by
  induction k with
  | zero => simp [sleepsBefore]
  | succ k ih =>
    obtain ⟨hreaches, hgoes⟩ := reaches_succ_iff.mp hreaches
    have hbefore : (c.sleepsBefore interval budget k).sum ≤ min (c.elapsed k) budget := ih hreaches
    have hleft : c.elapsed k < budget := hgoes.2
    have hstep : c.elapsed k + min interval (budget - c.elapsed k) ≤ c.elapsed (k + 1) :=
      hadvances k hgoes
    -- the new sleep is counted once on either side, and it fits into what was left
    rw [sleepsBefore_succ, List.sum_append, List.sum_singleton]
    omega

/-- Looks and sleeps of a wait that has ended. -/
theorem Advances.diary_le (hadvances : c.Advances interval budget) {looks : Nat}
    {a : Except IoError Bool} {d : Diary}
    (hawait : c.watch.await interval budget {} looks = some (a, d)) :
    d.looks ≤ looks ∧ d.sleeps.sum ≤ budget := by
  obtain ⟨k, hk, hreaches, -, rfl⟩ := await_watch_eq_some_iff.mp hawait
  exact ⟨hk, (hadvances.sum_sleepsBefore_le hreaches).trans (Nat.min_le_right _ _)⟩

/-! ### The times of the looks -/

/-- On a punctual clock a look is as many intervals from the start as there were looks before it, or
at the end of the budget. -/
theorem Punctual.elapsed_eq (hpunctual : c.Punctual interval budget)
    (hreaches : c.Reaches budget k) : c.elapsed k = min (k * interval) budget := by
  induction k with
  | zero => simp [hpunctual.start]
  | succ k ih =>
    obtain ⟨hreaches, hgoes⟩ := reaches_succ_iff.mp hreaches
    have hbefore : c.elapsed k = min (k * interval) budget := ih hreaches
    have hleft : c.elapsed k < budget := hgoes.2
    -- the look before was before the end, so it was a whole number of intervals from the start
    rw [hpunctual.sleeps k hgoes, pause, Nat.succ_mul]
    omega

/-! ### The theorem -/

/-- What is known of every wait with an interval and a budget, given how its clock goes. -/
structure BoundedLaw (interval budget : Nat) : Prop where
  /-- If no sleep is cut short, the wait ends within a number of looks, and it does not ask to sleep
  for longer than it may wait. -/
  ends : ∀ c : Course, c.Advances interval budget →
    ∃ a d, c.watch.await interval budget {} (budget ⌈/⌉ interval + 1) = some (a, d) ∧
      d.looks ≤ budget ⌈/⌉ interval + 1 ∧ d.sleeps.sum ≤ budget
  /-- For bounds in milliseconds that are valid, on a clock with so many ticks to the millisecond:
  60001 looks are enough, and a minute of sleep. -/
  valid : ∀ (bounds : Readiness) (ticks : Nat), bounds.validate = .ok () →
    interval = bounds.pollInterval.toNat * ticks → budget = bounds.maxWait.toNat * ticks →
    ∀ c : Course, c.Advances interval budget →
      ∃ a d, c.watch.await interval budget {} 60001 = some (a, d) ∧ d.looks ≤ 60001 ∧
        d.sleeps.sum ≤ 60000 * ticks
  /-- If time passes in the sleeps alone, as was asked for, the looks are an interval apart from the
  start on, and none is later than the budget allows. -/
  looks_at : ∀ c : Course, c.Punctual interval budget → ∀ k, c.Reaches budget k →
    c.elapsed k = min (k * interval) budget
  /-- Where nothing is ever found, all those looks are taken, the last when the time is just up. -/
  last_look : ∀ c : Course, c.Punctual interval budget →
    (∀ k, c.Reaches budget k → c.found k = .error (.system .noEntry)) →
    ∃ d, c.watch.await interval budget {} (budget ⌈/⌉ interval + 1) = some (.ok false, d) ∧
      d.looks = budget ⌈/⌉ interval + 1 ∧ c.elapsed (budget ⌈/⌉ interval) = budget ∧
      ∀ k < budget ⌈/⌉ interval, c.elapsed k = k * interval ∧ k * interval < budget
  /-- A file that is there from some time on within the budget is found, if no look fails in another
  way. -/
  finds : ∀ c : Course, c.Punctual interval budget → ∀ t ≤ budget,
    (∀ k, c.Reaches budget k → t ≤ c.elapsed k → c.found k = .ok ()) →
    (∀ k, c.Reaches budget k → c.elapsed k < t →
      c.found k = .ok () ∨ c.found k = .error (.system .noEntry)) →
    ∃ d, c.watch.await interval budget {} (budget ⌈/⌉ interval + 1) = some (.ok true, d)

/-- Valid bounds allow for no more than 60000 sleeps, in whatever unit they are counted. -/
theorem ceilDiv_le_of_valid {bounds : Readiness} {ticks : Nat} (hvalid : bounds.IsValid)
    (hinterval : 1 ≤ bounds.pollInterval.toNat * ticks) :
    bounds.maxWait.toNat * ticks ⌈/⌉ (bounds.pollInterval.toNat * ticks) ≤ 60000 := by
  obtain ⟨hpoll, -, hwait⟩ := hvalid
  apply (ceilDiv_le_iff_le_mul hinterval).mpr
  calc bounds.maxWait.toNat * ticks ≤ 60000 * ticks := Nat.mul_le_mul_right ticks hwait
    _ ≤ 60000 * (bounds.pollInterval.toNat * ticks) :=
      Nat.mul_le_mul_left 60000 (Nat.le_mul_of_pos_left ticks hpoll)
    _ = bounds.pollInterval.toNat * ticks * 60000 := Nat.mul_comm _ _

/-- **A wait is bounded and misses nothing.** The number of its looks follows from the budget and
the interval, and on a punctual clock the looks are spread over the whole of the budget, with one at
its end. -/
theorem bounded_law {interval : Nat} (hinterval : 1 ≤ interval) (budget : Nat) :
    BoundedLaw interval budget where
  ends c hadvances := by
    obtain ⟨a, d, hawait⟩ := hadvances.exists_await_watch hinterval (Nat.lt_succ_self _) interval
    exact ⟨a, d, hawait, hadvances.diary_le hawait⟩
  valid bounds ticks hvalid hinterval' hbudget c hadvances := by
    have hbounds : bounds.IsValid := bounds.validate_eq_ok_iff.mp hvalid
    have hceil : budget ⌈/⌉ interval ≤ 60000 := by
      rw [hbudget, hinterval']
      exact ceilDiv_le_of_valid hbounds (hinterval' ▸ hinterval)
    obtain ⟨a, d, hawait⟩ :=
      hadvances.exists_await_watch hinterval (Nat.lt_succ_of_le hceil) interval
    obtain ⟨hlooks, hsleeps⟩ := hadvances.diary_le hawait
    refine ⟨a, d, hawait, hlooks, hsleeps.trans ?_⟩
    rw [hbudget]
    exact Nat.mul_le_mul_right ticks hbounds.2.2
  looks_at c hpunctual k hreaches := hpunctual.elapsed_eq hreaches
  last_look c hpunctual hnothing := by
    obtain ⟨a, d, hawait⟩ :=
      hpunctual.advances.exists_await_watch hinterval (Nat.lt_succ_self _) interval
    obtain ⟨k, hk, hreaches, ha, rfl⟩ := await_watch_eq_some_iff.mp hawait
    obtain ⟨rfl, hlate⟩ := ha.of_noEntry (hnothing k hreaches)
    have helapsed := hpunctual.elapsed_eq hreaches
    -- the time is used up at this look, so it is not one of those before the last
    have hle : budget ⌈/⌉ interval ≤ k := by
      rw [ceilDiv_le_iff_le_mul hinterval, Nat.mul_comm]
      omega
    obtain rfl : k = budget ⌈/⌉ interval := Nat.le_antisymm (Nat.le_of_lt_succ hk) hle
    refine ⟨_, hawait, rfl, by omega, ?_⟩
    intro j hj
    have helapsed' := hpunctual.elapsed_eq (hreaches.mono hj.le)
    have hleft : c.elapsed j < budget := (hreaches j hj).2
    omega
  finds c hpunctual t ht hthere hquiet := by
    obtain ⟨a, d, hawait⟩ :=
      hpunctual.advances.exists_await_watch hinterval (Nat.lt_succ_self _) interval
    obtain ⟨k, -, hreaches, ha, -⟩ := await_watch_eq_some_iff.mp hawait
    have hok : c.found k = .ok () := by
      rcases Nat.lt_or_ge (c.elapsed k) t with hbefore | hafter
      · -- before that time nothing but the end of the budget could end the wait
        rcases hquiet k hreaches hbefore with hok | hnothing
        · exact hok
        · obtain ⟨-, hlate⟩ := ha.of_noEntry hnothing
          omega
      · exact hthere k hreaches hafter
    -- the look has found the file, and a look has one answer
    obtain rfl := ha.unique (.there hok)
    exact ⟨d, hawait⟩

/-- A file that appears after 95 milliseconds, looked for on a punctual clock every 30 milliseconds
for 100 milliseconds. -/
def lateFile : Course where
  found k := if k * 30 < 95 then .error (.system .noEntry) else .ok ()
  elapsed k := min (k * 30) 100

/-- The clock of the example is punctual, with a last sleep that is cut short. -/
theorem punctual_lateFile : lateFile.Punctual 30 100 where
  start := rfl
  sleeps k hgoes := by
    have hleft : min (k * 30) 100 < 100 := hgoes.2
    simp only [lateFile, pause]
    omega

/-- The file is found by the last look, which is at 100 milliseconds. -/
theorem lateFile_bounded_law :
    1 ≤ 30 ∧ lateFile.Punctual 30 100 ∧
      ∃ d, lateFile.watch.await 30 100 {} (100 ⌈/⌉ 30 + 1) = some (.ok true, d) := by
  refine ⟨by decide, punctual_lateFile,
    (bounded_law (by decide) 100).finds lateFile punctual_lateFile 95 (by decide) ?_ ?_⟩
  · intro k _ hlate
    have hlate' : ¬k * 30 < 95 := by
      simp only [lateFile] at hlate
      omega
    simp only [lateFile, if_neg hlate']
  · intro k _ _
    simp only [lateFile]
    split
    · exact .inr rfl
    · exact .inl rfl

-- The last sleep is cut, so that the last look is not too late.
example : lateFile.watch.await 30 100 {} 5 = some (.ok true, ⟨5, [30, 30, 30, 10]⟩) := rfl

end Watch.Course

/-! ### On a machine -/

namespace Machine

/-- A machine that takes steps up to a time is at that time at the end, or later. -/
theorem le_clock_stepsUntil (m : Machine) (limit actions : Nat) :
    limit ≤ (m.stepsUntil limit actions).clock := by
  induction actions generalizing m with
  | zero => exact Nat.le_max_right _ _
  | succ actions ih =>
    rw [stepsUntil]
    cases m.step limit with
    | none => exact Nat.le_max_right _ _
    | some m' => exact ih m'

/-- Time that is let pass does pass. -/
theorem le_clock_advance (m : Machine) (ms : Nat) : m.clock + ms ≤ (m.advance ms).clock :=
  le_clock_stepsUntil m _ _

/-- The clock of a machine does not go back during a wait. -/
theorem le_clock_state (path : Path) (interval budget : Nat) (m : Machine) (k : Nat) :
    m.clock ≤ ((watch path m.clock).state interval budget m k).clock := by
  induction k with
  | zero => exact Nat.le_refl _
  | succ k ih =>
    -- a look takes no time, and the sleep behind it only adds some
    refine ih.trans ?_
    exact (Nat.le_add_right _ _).trans (le_clock_advance _ _)

/-- Even the shortest sleep of a run on a machine takes a moment. -/
theorem advances_watch (path : Path) (interval budget : Nat) (m : Machine) :
    ((watch path m.clock).course interval budget m).Advances (max interval 1) budget := by
  intro k hgoes
  -- the clock never went back, so the time that is read is the time since the begin of the wait
  have hstarted := le_clock_state path interval budget m k
  have hpassed := le_clock_advance ((watch path m.clock).state interval budget m k)
    (max (Watch.pause interval budget
      (((watch path m.clock).state interval budget m k).clock - m.clock)) 1)
  have hleft := hgoes.2
  simp only [Watch.course, Watch.state, watch, Watch.pause] at hstarted hpassed hleft ⊢
  omega

/-- The wait for a file on a machine ends by itself, whatever its bounds are: it never runs out of
looks. -/
theorem awaitFile_eq (path : Path) (bounds : Readiness) (m : Machine) :
    (watch path m.clock).await bounds.pollInterval.toNat bounds.maxWait.toNat m
      (bounds.maxWait.toNat + 2) = some (awaitFile path bounds m) := by
  have hceil : bounds.maxWait.toNat ⌈/⌉ max bounds.pollInterval.toNat 1 ≤ bounds.maxWait.toNat :=
    (ceilDiv_le_iff_le_mul (by omega)).mpr (Nat.le_mul_of_pos_left _ (by omega))
  -- every sleep lasts for a millisecond at least, so the looks of the program are enough
  obtain ⟨a, s', hawait⟩ :=
    (advances_watch path bounds.pollInterval.toNat bounds.maxWait.toNat m).exists_await
      (Nat.le_max_right _ _) (Nat.lt_add_right 1 (Nat.lt_succ_of_le hceil))
  simp only [awaitFile, hawait]

end Machine

end NbdAttach
