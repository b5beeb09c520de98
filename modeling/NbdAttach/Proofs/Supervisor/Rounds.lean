import NbdAttach.Proofs.Supervisor.Calls

/-!
# Passes and rounds

A wait goes round in passes, each of which begins with a look for a request: `Session.pass` is one
of them, and `Session.followWait_succ` says that a wait is one pass after the other. A reap is waits
in a row, and each loop is followed for a number of rounds. For what a reap does in the end the
rounds do not matter, and neither do the waits: `Session.Drains` is the reap as one loop of passes.

* More rounds change nothing once a call has returned (`Session.followWait_add`,
  `Session.followReap_add`).
* A reap that returns drains (`Session.drains_of_reapAll`), and one that drains returns, with the
  same result (`Session.Drains.reapAll`). It drains in one way only (`Session.Drains.unique`).
-/

namespace NbdAttach

variable {σ : Type}

attribute [ext] Progress

namespace Session

variable {h : Host σ} {s s' s₁ : Session σ}

/-! ### Waits -/

/-- One pass of a wait. Without a result the wait goes on with the next pass. -/
def pass (h : Host σ) (blocks : Bool) (s : Session σ) : Progress σ (Except IoError WaitOutcome) :=
  match s.takePending h with
  | (some signal, s) => ⟨some (.ok .interrupted), s.tell (.signalTaken signal)⟩
  | (none, s) =>
    if s.registry.isEmpty then
      if blocks then ⟨none, s.idle h⟩ else ⟨some (.ok .noneLeft), s⟩
    else
      match s.waitAny h with
      | (.error cause, s) => ⟨some (.error cause), s⟩
      | (.ok .interrupted, s) => ⟨none, s⟩
      | (.ok (.child pid), s) =>
        if s.registry.contains pid then
          ⟨some (.ok (.exited pid)),
            { s with registry := s.registry.erase pid }.tell (.reaped pid)⟩
        else ⟨none, s.tell (.reapedUntracked pid)⟩

/-- A wait is one pass after the other, until a pass has a result. -/
theorem followWait_succ (h : Host σ) (blocks : Bool) (s : Session σ) (rounds : Nat) :
    s.followWait h blocks (rounds + 1) =
      match s.pass h blocks with
      | ⟨some outcome, s₁⟩ => ⟨some outcome, s₁⟩
      | ⟨none, s₁⟩ => s₁.followWait h blocks rounds := by
  rw [followWait, pass]
  rcases s.takePending h with ⟨_ | signal, s₁⟩
  · dsimp only
    split
    · split <;> rfl
    · rcases s₁.waitAny h with ⟨cause | (pid | _), s₂⟩
      · rfl
      · dsimp only
        split <;> rfl
      · rfl
  · rfl

/-- The courses that a pass can take. -/
inductive PassCourse (h : Host σ) (blocks : Bool) (s : Session σ) :
    Progress σ (Except IoError WaitOutcome) → Prop
  | taken {signal : Signal} {s₁ : Session σ} (htake : s.takePending h = (some signal, s₁)) :
    PassCourse h blocks s ⟨some (.ok .interrupted), s₁.tell (.signalTaken signal)⟩
  | slept {s₁ : Session σ} (htake : s.takePending h = (none, s₁))
      (hempty : s.registry.isEmpty = true) (hblocks : blocks = true) :
    PassCourse h blocks s ⟨none, s₁.idle h⟩
  | noneLeft {s₁ : Session σ} (htake : s.takePending h = (none, s₁))
      (hempty : s.registry.isEmpty = true) (hblocks : blocks = false) :
    PassCourse h blocks s ⟨some (.ok .noneLeft), s₁⟩
  | failed {s₁ s₂ : Session σ} {cause : IoError} (htake : s.takePending h = (none, s₁))
      (hwait : s₁.waitAny h = (.error cause, s₂)) :
    PassCourse h blocks s ⟨some (.error cause), s₂⟩
  | cutShort {s₁ s₂ : Session σ} (htake : s.takePending h = (none, s₁))
      (hwait : s₁.waitAny h = (.ok .interrupted, s₂)) : PassCourse h blocks s ⟨none, s₂⟩
  | untracked {s₁ s₂ : Session σ} {pid : Pid} (htake : s.takePending h = (none, s₁))
      (hwait : s₁.waitAny h = (.ok (.child pid), s₂)) :
    PassCourse h blocks s ⟨none, s₂.tell (.reapedUntracked pid)⟩
  | exited {s₁ s₂ : Session σ} {pid : Pid} (htake : s.takePending h = (none, s₁))
      (hwait : s₁.waitAny h = (.ok (.child pid), s₂)) :
    PassCourse h blocks s
      ⟨some (.ok (.exited pid)), { s₂ with registry := s₂.registry.erase pid }.tell (.reaped pid)⟩

/-- Every pass takes one of the courses. -/
theorem pass_course (h : Host σ) (blocks : Bool) (s : Session σ) :
    PassCourse h blocks s (s.pass h blocks) := by
  rw [pass]
  rcases htake : s.takePending h with ⟨_ | signal, s₁⟩
  · -- a look for a request leaves the registry alone
    have hregistry : s₁.registry = s.registry := registry_of_ask htake
    dsimp only
    rw [hregistry]
    split
    · next hempty =>
      split
      · next hblocks => exact .slept htake hempty hblocks
      · next hblocks => exact .noneLeft htake hempty (Bool.eq_false_iff.mpr hblocks)
    · rcases hwait : s₁.waitAny h with ⟨cause | (pid | _), s₂⟩
      · exact .failed htake hwait
      · dsimp only
        split
        · exact .exited htake hwait
        · exact .untracked htake hwait
      · exact .cutShort htake hwait
  · exact .taken htake

/-- A wait that has returned does not use further rounds. -/
theorem followWait_add (h : Host σ) (blocks : Bool) (s : Session σ) (rounds more : Nat)
    (hreturned : (s.followWait h blocks rounds).result? ≠ none) :
    s.followWait h blocks (rounds + more) = s.followWait h blocks rounds := by
  induction rounds generalizing s with
  | zero => exact absurd rfl hreturned
  | succ rounds ih =>
    rw [followWait_succ] at hreturned ⊢
    rw [Nat.add_right_comm, followWait_succ]
    -- both waits begin with the same pass
    rcases hpass : s.pass h blocks with ⟨_ | outcome, s₁⟩
    · rw [hpass] at hreturned
      exact ih s₁ hreturned
    · rfl

/-! ### Reaps -/

/-- The result of a reap in which a wait has ended, if the reap ends with it. -/
def endOfReap : Except IoError WaitOutcome → Option (Except IoError Unit)
  | .error cause => some (.error cause)
  | .ok .noneLeft => some (.ok ())
  | .ok _ => none

/-- A reap is one wait after the other, until a wait ends the reap. -/
theorem followReap_succ (h : Host σ) (s : Session σ) (rounds : Nat) :
    s.followReap h (rounds + 1) =
      match s.followWait h false (rounds + 1) with
      | ⟨none, s₁⟩ => ⟨none, s₁⟩
      | ⟨some outcome, s₁⟩ =>
        match endOfReap outcome with
        | some result => ⟨some result, s₁⟩
        | none => s₁.followReap h rounds := by
  rw [followReap]
  rcases s.followWait h false (rounds + 1) with ⟨_ | cause | (pid | _ | _), s₁⟩ <;> rfl

/-- A reap that has returned does not use further rounds. -/
theorem followReap_add (h : Host σ) (s : Session σ) (rounds more : Nat)
    (hreturned : (s.followReap h rounds).result? ≠ none) :
    s.followReap h (rounds + more) = s.followReap h rounds := by
  induction rounds generalizing s with
  | zero => exact absurd rfl hreturned
  | succ rounds ih =>
    rw [followReap_succ] at hreturned ⊢
    rw [Nat.add_right_comm, followReap_succ, Nat.add_right_comm]
    rcases hwait : s.followWait h false (rounds + 1) with ⟨_ | outcome, s₁⟩
    · rw [hwait] at hreturned
      exact absurd rfl hreturned
    · -- the wait has returned, and does not use the further rounds either
      have hmore := followWait_add h false s (rounds + 1) more (by rw [hwait]; exact nofun)
      rw [hmore, hwait]
      rw [hwait] at hreturned
      cases hend : endOfReap outcome with
      | some result => simp only [hend]
      | none =>
        simp only [hend] at hreturned ⊢
        exact ih s₁ hreturned

/-! ### Reaps as one loop -/

/-- One pass of a reap. -/
def reapPass (h : Host σ) (s : Session σ) : Progress σ (Except IoError Unit) :=
  ⟨(s.pass h false).result?.bind endOfReap, (s.pass h false).session⟩

/-- A request that is taken in a reap is dropped, and the reap goes on. -/
theorem reapPass_of_taken {signal : Signal} (htake : s.takePending h = (some signal, s₁)) :
    s.reapPass h = ⟨none, s₁.tell (.signalTaken signal)⟩ := by
  rw [reapPass, pass, htake]
  rfl

/-- A reap without rounds: it goes on, pass after pass, until it has a result. -/
inductive Drains (h : Host σ) : Session σ → Except IoError Unit → Session σ → Prop
  | last {s s' : Session σ} {result : Except IoError Unit}
      (hpass : s.reapPass h = ⟨some result, s'⟩) : Drains h s result s'
  | next {s s₁ s' : Session σ} {result : Except IoError Unit} (hpass : s.reapPass h = ⟨none, s₁⟩)
      (hrest : Drains h s₁ result s') : Drains h s result s'

/-- The way on from a wait that has ended with an outcome. -/
def DrainsAfter (h : Host σ) (outcome : Except IoError WaitOutcome) (s₁ : Session σ)
    (result : Except IoError Unit) (s' : Session σ) : Prop :=
  match endOfReap outcome with
  | some result' => result' = result ∧ s₁ = s'
  | none => Drains h s₁ result s'

/-- The passes of a wait are passes of the reap that it belongs to. -/
theorem drains_of_followWait {rounds : Nat} {outcome : Except IoError WaitOutcome}
    {result : Except IoError Unit} (hfollow : s.followWait h false rounds = ⟨some outcome, s₁⟩)
    (hafter : DrainsAfter h outcome s₁ result s') : Drains h s result s' := by
  induction rounds generalizing s with
  | zero => cases hfollow
  | succ rounds ih =>
    rw [followWait_succ] at hfollow
    rcases hpass : s.pass h false with ⟨_ | outcome', s₂⟩
    · rw [hpass] at hfollow
      -- the wait goes on, and so does the reap
      exact .next (by rw [reapPass, hpass]; rfl) (ih hfollow)
    · rw [hpass] at hfollow
      obtain ⟨rfl, rfl⟩ : outcome' = outcome ∧ s₂ = s₁ := by
        injection hfollow with houtcome hsession
        exact ⟨Option.some.inj houtcome, hsession⟩
      rw [DrainsAfter] at hafter
      -- the pass ends the wait, and the outcome tells whether it ends the reap, too
      cases hend : endOfReap outcome' with
      | some result' =>
        rw [hend] at hafter
        obtain ⟨rfl, rfl⟩ := hafter
        refine .last ?_
        rw [reapPass, hpass]
        exact congrArg (Progress.mk · s₂) hend
      | none =>
        rw [hend] at hafter
        refine .next ?_ hafter
        rw [reapPass, hpass]
        exact congrArg (Progress.mk · s₂) hend

/-- A reap that has returned has drained, with the same result. -/
theorem drains_of_followReap {rounds : Nat} {result : Except IoError Unit}
    (hreap : s.followReap h rounds = ⟨some result, s'⟩) : Drains h s result s' := by
  induction rounds generalizing s with
  | zero => cases hreap
  | succ rounds ih =>
    rw [followReap_succ] at hreap
    rcases hwait : s.followWait h false (rounds + 1) with ⟨_ | outcome, s₁⟩
    · rw [hwait] at hreap
      cases hreap
    · rw [hwait] at hreap
      -- its first wait has returned, so its passes are known
      refine drains_of_followWait hwait ?_
      rw [DrainsAfter]
      cases hend : endOfReap outcome with
      | some result' =>
        simp only [hend] at hreap ⊢
        injection hreap with hresult hsession
        exact ⟨Option.some.inj hresult, hsession⟩
      | none =>
        simp only [hend] at hreap ⊢
        exact ih hreap

theorem drains_of_reapAll {rounds : Nat} {result : Except IoError Unit}
    (hreap : s.reapAll h rounds = some (result, s')) : Drains h s result s' :=
  drains_of_followReap (Progress.returned_eq_some_iff.mp hreap)

/-- A pass in front of a reap costs one round. -/
theorem followReap_of_reapPass {rounds : Nat} {result : Except IoError Unit}
    (hpass : s.reapPass h = ⟨none, s₁⟩) (hreap : s₁.followReap h rounds = ⟨some result, s'⟩) :
    s.followReap h (rounds + 1) = ⟨some result, s'⟩ := by
  rcases hstep : s.pass h false with ⟨_ | outcome, s₂⟩
  · -- the wait goes on with the wait that the reap begins with in the next session
    rw [reapPass, hstep] at hpass
    obtain rfl : s₂ = s₁ := congrArg Progress.session hpass
    cases rounds with
    | zero => cases hreap
    | succ rounds =>
      rw [followReap_succ, followWait_succ, hstep]
      rw [followReap_succ] at hreap
      rcases hwait : s₂.followWait h false (rounds + 1) with ⟨_ | outcome, s₃⟩
      · rw [hwait] at hreap
        cases hreap
      · rw [hwait] at hreap
        cases hend : endOfReap outcome with
        | some result' => simpa only [hwait, hend] using hreap
        | none =>
          simp only [hwait, hend] at hreap ⊢
          rw [followReap_add h s₃ rounds 1 (by rw [hreap]; exact nofun), hreap]
  · -- the wait has ended with this pass, but the reap goes on with the next wait
    rw [reapPass, hstep] at hpass
    obtain rfl : s₂ = s₁ := congrArg Progress.session hpass
    have hend : endOfReap outcome = none := congrArg Progress.result? hpass
    rw [followReap_succ, followWait_succ, hstep]
    simp only [hend]
    exact hreap

/-- A reap that drains returns, if it is given the rounds: one for each of its passes is enough. -/
theorem Drains.followReap {result : Except IoError Unit} (hdrains : Drains h s result s') :
    ∃ rounds, s.followReap h rounds = ⟨some result, s'⟩ := by
  induction hdrains with
  | @last s s' result hpass =>
    -- one round is enough for the last pass
    refine ⟨1, ?_⟩
    rcases hstep : s.pass h false with ⟨_ | outcome, s₂⟩
    · rw [reapPass, hstep] at hpass
      cases hpass
    · rw [reapPass, hstep] at hpass
      obtain rfl : s₂ = s' := congrArg Progress.session hpass
      have hend : endOfReap outcome = some result := congrArg Progress.result? hpass
      rw [followReap_succ, followWait_succ, hstep]
      simp only [hend]
  | next hpass _ ih =>
    obtain ⟨rounds, hreap⟩ := ih
    exact ⟨rounds + 1, followReap_of_reapPass hpass hreap⟩

/-- A reap that drains returns, if it is given enough rounds. -/
theorem Drains.reapAll {result : Except IoError Unit} (hdrains : Drains h s result s') :
    ∃ rounds, s.reapAll h rounds = some (result, s') := by
  obtain ⟨rounds, hreap⟩ := hdrains.followReap
  exact ⟨rounds, Progress.returned_eq_some_iff.mpr hreap⟩

/-- A pass is either the last or not, so a reap drains in one way. -/
theorem Drains.unique {result result' : Except IoError Unit} {s'' : Session σ}
    (hdrains : Drains h s result s') (hdrains' : Drains h s result' s'') :
    result = result' ∧ s' = s'' := by
  induction hdrains with
  | last hpass =>
    cases hdrains' with
    | last hpass' =>
      rw [hpass] at hpass'
      injection hpass' with hresult hsession
      exact ⟨Option.some.inj hresult, hsession⟩
    | next hpass' _ =>
      rw [hpass] at hpass'
      cases hpass'
  | next hpass _ ih =>
    cases hdrains' with
    | last hpass' =>
      rw [hpass] at hpass'
      cases hpass'
    | next hpass' hrest' =>
      rw [hpass] at hpass'
      obtain rfl := congrArg Progress.session hpass'
      exact ih hrest'

/-- Whatever the rounds, a reap that returns does so with one result. -/
theorem reapAll_unique {rounds rounds' : Nat} {r r' : Except IoError Unit × Session σ}
    (hreap : s.reapAll h rounds = some r) (hreap' : s.reapAll h rounds' = some r') : r = r' :=
  have hsame := (drains_of_reapAll hreap).unique (drains_of_reapAll hreap')
  Prod.ext hsame.1 hsame.2

end Session

end NbdAttach
