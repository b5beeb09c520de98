import NbdAttach.Proofs.Adversary
import NbdAttach.Proofs.Supervisor.Waits

/-!
# The contract of a wait

A wait is a loop with five ways out, and all that a run does with its children is made of waits. Its
contract says which way out it takes, from its calls and their answers alone, and what has become of
the registry by then.

Which calls end a wait can be told from the registry at its begin (`Event.EndsWait`), for nothing
changes there before the end: a wait stops at the first such call (`WaitCalls.onlyLast`), and only
the exit of a registered child takes an entry out (`WaitCalls.kept`). So the wait has the outcome
that belongs to its last call, and no other way of asking the host is open to it.
-/

namespace NbdAttach

variable {σ : Type}

/-! ### Calls that end a wait -/

/-- Does the call end a wait for the children in the registry, by its answer? -/
def Event.EndsWait (r : Registry) : Event → Prop
  | .takePending (some _) => True
  | .waitAny (.error _) => True
  | .waitAny (.ok (.child pid)) => pid ∈ r.pids
  | _ => False

/-- Nothing comes after an event with the property. -/
def OnlyLast (P : Event → Prop) (es : List Event) : Prop :=
  ∀ before e after, es = before ++ e :: after → P e → after = []

namespace OnlyLast

variable {P : Event → Prop} {e : Event} {es : List Event}

theorem nil : OnlyLast P [] := by
  intro before e after heq
  simp at heq

theorem cons (he : ¬P e) (hes : OnlyLast P es) : OnlyLast P (e :: es) := by
  intro before e' after heq he'
  cases before with
  | nil =>
    obtain ⟨rfl, -⟩ := List.cons.inj heq
    exact absurd he' he
  | cons _ before =>
    obtain ⟨-, rfl⟩ := List.cons.inj heq
    exact hes before e' after rfl he'

theorem singleton (e : Event) : OnlyLast P [e] := by
  intro before e' after heq _
  cases before with
  | nil => exact (List.cons.inj heq).2.symm
  | cons _ before => simp at heq

/-- What stands before something else does not have the property. -/
theorem not_of_mem {last : Event} (hes : OnlyLast P (es ++ [last])) (he : e ∈ es) : ¬P e := by
  obtain ⟨before, after, rfl⟩ := List.append_of_mem he
  intro hP
  have hlast := hes before e (after ++ [last]) (by simp) hP
  simp at hlast

end OnlyLast

namespace WaitCalls

variable {blocks : Bool} {r r' : Registry} {es : List Event}
  {outcome? : Option (Except IoError WaitOutcome)}

/-- **A wait stops at the first call that ends it.** -/
theorem onlyLast (hcalls : WaitCalls blocks r es outcome? r') : OnlyLast (Event.EndsWait r) es := by
  induction hcalls with
  | goesOn => exact .nil
  | interrupted signal => exact .singleton _
  | noneLeft _ _ => exact .singleton _
  -- a pass after which the wait goes on ends in a call that ends no wait
  | idle _ _ _ ih => exact .cons nofun (.cons nofun ih)
  | failed _ cause => exact .cons nofun (.singleton _)
  | cutShort _ _ ih => exact .cons nofun (.cons nofun ih)
  | untracked _ hpid _ ih => exact .cons nofun (.cons hpid ih)
  | exited _ => exact .cons nofun (.singleton _)

/-- Only the exit of a registered child changes the registry. -/
theorem kept (hcalls : WaitCalls blocks r es outcome? r')
    (houtcome : ∀ pid, outcome? ≠ some (.ok (.exited pid))) : r' = r := by
  induction hcalls with
  | idle _ _ _ ih => exact ih houtcome
  | cutShort _ _ ih => exact ih houtcome
  | untracked _ _ _ ih => exact ih houtcome
  | @exited pid _ => exact absurd rfl (houtcome pid)
  | _ => rfl

/-! ### Which outcome a wait has -/

/-- A wait ends with an exit if and only if the host has reported that of a registered child. -/
theorem exited_iff {pid : Pid} (hcalls : WaitCalls blocks r es outcome? r') :
    outcome? = some (.ok (.exited pid)) ↔
      pid ∈ r.pids ∧ .waitAny (.ok (.child pid)) ∈ es := by
  induction hcalls with
  | idle _ _ _ ih => simpa using ih
  | cutShort _ _ ih => simpa using ih
  | @untracked _ _ _ stranger _ hstranger _ ih =>
    rw [ih]
    refine and_congr_right fun hmem => ?_
    -- the process that was found in this pass is not registered
    have hne : pid ≠ stranger := by
      rintro rfl
      exact hstranger hmem
    simp [hne]
  | @exited pid' hpid =>
    constructor
    · rintro ⟨rfl⟩
      exact ⟨hpid, by simp⟩
    · rintro ⟨-, he⟩
      obtain rfl : pid = pid' := by simpa using he
      rfl
  | _ => simp

/-- A wait is interrupted if and only if it has taken a request. -/
theorem interrupted_iff (hcalls : WaitCalls blocks r es outcome? r') :
    outcome? = some (.ok .interrupted) ↔ ∃ signal, .takePending (some signal) ∈ es := by
  constructor
  · intro houtcome
    obtain ⟨before, last, rfl, signal, rfl⟩ := hcalls.ends houtcome
    exact ⟨signal, by simp⟩
  · rintro ⟨signal, hmem⟩
    -- a wait that takes a request does nothing else with it
    rcases hcalls.takesOnlyIf with huntaken | ⟨-, houtcome⟩
    · cases huntaken _ hmem
    · exact houtcome

/-- A wait finds nobody left at its first look, or not at all. -/
theorem noneLeft_iff (hcalls : WaitCalls blocks r es outcome? r') :
    outcome? = some (.ok .noneLeft) ↔
      r.pids = [] ∧ blocks = false ∧ es.head? = some (.takePending none) := by
  constructor
  · rintro rfl
    obtain ⟨hempty, hblocks⟩ := hcalls.of_noneLeft
    -- also where it has gone on before, its first look has found no request
    cases hcalls with
    | noneLeft _ _ => exact ⟨hempty, hblocks, rfl⟩
    | idle _ _ _ => exact ⟨hempty, hblocks, rfl⟩
    | cutShort _ _ => exact ⟨hempty, hblocks, rfl⟩
    | untracked _ _ _ => exact ⟨hempty, hblocks, rfl⟩
  · rintro ⟨hempty, hblocks, hhead⟩
    cases hcalls with
    | goesOn => cases hhead
    | interrupted signal => cases hhead
    | noneLeft _ _ => rfl
    | idle _ hsleeps _ =>
      rw [hblocks] at hsleeps
      cases hsleeps
    | failed hsome _ => exact absurd hempty hsome
    | cutShort hsome _ => exact absurd hempty hsome
    | untracked hsome _ _ => exact absurd hempty hsome
    | exited hpid => exact absurd hempty (List.ne_nil_of_mem hpid)

/-! ### What a wait may ask -/

/-- Without children the host is not asked to wait. -/
theorem waitAny_notMem (hcalls : WaitCalls blocks r es outcome? r') (hempty : r.pids = [])
    (answer : Except IoError Reaped) : .waitAny answer ∉ es := by
  intro he
  have hregistered : WaitsRegistered r.pids ([] ++ es) := hcalls.waitsRegistered
  cases hregistered.none_left hempty (commands_eq_nil_of_isEnding hcalls.isEnding) _ he

/-- A wait for registered children never sleeps. -/
theorem idle_notMem (hcalls : WaitCalls blocks r es outcome? r') (hsome : r.pids ≠ []) :
    .idle ∉ es := by
  induction hcalls with
  -- it sleeps only where there is nobody, and the registry is the same in every pass
  | idle hempty _ _ _ => exact absurd hempty hsome
  | cutShort _ _ ih => simpa using ih
  | untracked _ _ _ ih => simpa using ih
  | _ => simp

end WaitCalls

/-- If the event is a wait by the host, a look that has found no request stands right before it. -/
def LooksBefore (before : List Event) (e : Event) : Prop :=
  e.isHostWait = true → ∃ earlier, before = earlier ++ [.takePending none]

/-- A pass looks for a request before it asks the host to wait. -/
private theorem always_looksBefore_pass {e : Event} {es : List Event}
    (hes : Always LooksBefore es) : Always LooksBefore ([.takePending none, e] ++ es) := by
  refine Always.append_iff.mpr ⟨?_, ?_⟩
  · change Always LooksBefore ([.takePending none] ++ [e])
    refine Always.append_iff.mpr ⟨Always.singleton_iff.mpr nofun, Always.singleton_iff.mpr ?_⟩
    exact fun _ => ⟨[], rfl⟩
  · -- an earlier pass only adds to what stands before the look
    intro before e' after heq hwait
    obtain ⟨earlier, rfl⟩ := hes before e' after heq hwait
    exact ⟨_ ++ earlier, (List.append_assoc ..).symm⟩

/-- A wait by the host is always right behind a look that has found no request. -/
theorem WaitCalls.looksBefore {blocks : Bool} {r r' : Registry} {es : List Event}
    {outcome? : Option (Except IoError WaitOutcome)} (hcalls : WaitCalls blocks r es outcome? r') :
    Always LooksBefore es := by
  induction hcalls with
  | goesOn => exact Always.nil
  | interrupted signal => exact Always.singleton_iff.mpr nofun
  | noneLeft _ _ => exact Always.singleton_iff.mpr nofun
  | idle _ _ _ ih => exact always_looksBefore_pass ih
  | failed _ _ => exact always_looksBefore_pass Always.nil
  | cutShort _ _ ih => exact always_looksBefore_pass ih
  | untracked _ _ _ ih => exact always_looksBefore_pass ih
  | exited _ => exact always_looksBefore_pass Always.nil

/-! ### The contract -/

/-- What a wait for any child has asked of the host, what it returns, and what it has made of the
registry. `es` are its calls; while it has not returned, `outcome?` is missing and the calls are
those so far. -/
structure WaitLaw (blocks : Bool) (r : Registry) (es : List Event)
    (outcome? : Option (Except IoError WaitOutcome)) (r' : Registry) : Prop where
  /-- The wait begins with a look for a request. -/
  begins : ∀ e ∈ es.head?, e.isLook = true
  /-- A request that is there at the begin wins over everything else. -/
  atOnce : ∀ signal, es.head? = some (.takePending (some signal)) →
    es = [.takePending (some signal)] ∧ outcome? = some (.ok .interrupted)
  interrupted_iff : outcome? = some (.ok .interrupted) ↔ ∃ signal, .takePending (some signal) ∈ es
  /-- Nothing is asked after a request was taken. -/
  taken_last : ∀ before signal after,
    es = before ++ .takePending (some signal) :: after → after = []
  noneLeft_iff : outcome? = some (.ok .noneLeft) ↔
    r.pids = [] ∧ blocks = false ∧ es.head? = some (.takePending none)
  exited_iff : ∀ pid, outcome? = some (.ok (.exited pid)) ↔
    pid ∈ r.pids ∧ .waitAny (.ok (.child pid)) ∈ es
  /-- The exit is the first that the host reports of a registered child, and it takes the earliest
  entry of the child out of the registry. -/
  exited : ∀ pid, outcome? = some (.ok (.exited pid)) →
    (∃ before, es = before ++ [.waitAny (.ok (.child pid))] ∧
      ∀ other, .waitAny (.ok (.child other)) ∈ before → other ∉ r.pids) ∧
    ∃ front back, pid ∉ front ∧ r.pids = front ++ pid :: back ∧ r'.pids = front ++ back
  /-- No other way out changes the registry. -/
  kept : (∀ pid, outcome? ≠ some (.ok (.exited pid))) → r' = r
  failed_iff : ∀ cause, outcome? = some (.error cause) ↔ .waitAny (.error cause) ∈ es
  /-- Nothing is asked after the host's wait has failed. -/
  failed_last : ∀ before cause after,
    es = before ++ .waitAny (.error cause) :: after → after = []
  /-- Without children the host is not asked to wait. -/
  waitAny_notMem : r.pids = [] → ∀ answer, .waitAny answer ∉ es
  /-- With children the wait does not sleep. -/
  idle_notMem : r.pids ≠ [] → .idle ∉ es
  /-- Right before the host is asked to wait, a look has found no request. -/
  looksBefore : ∀ before answer after, es = before ++ .waitAny answer :: after →
    ∃ earlier, before = earlier ++ [.takePending none]

/-- The contract, read off the calls. -/
theorem WaitCalls.law {blocks : Bool} {r r' : Registry} {es : List Event}
    {outcome? : Option (Except IoError WaitOutcome)} (hcalls : WaitCalls blocks r es outcome? r') :
    WaitLaw blocks r es outcome? r' := by
  constructor
  case begins => exact hcalls.begins
  case atOnce =>
    intro signal hhead
    obtain ⟨rest, rfl⟩ := List.head?_eq_some_iff.mp hhead
    -- the look ends the wait, so it is all there is
    obtain rfl := hcalls.onlyLast [] _ rest rfl trivial
    exact ⟨rfl, hcalls.interrupted_iff.mpr ⟨signal, List.mem_singleton_self _⟩⟩
  case interrupted_iff => exact hcalls.interrupted_iff
  case taken_last => exact fun before signal after heq => hcalls.onlyLast before _ after heq trivial
  case noneLeft_iff => exact hcalls.noneLeft_iff
  case exited_iff => exact fun pid => hcalls.exited_iff
  case exited =>
    rintro pid rfl
    -- the exit is the last call, and no call before it has ended the wait
    obtain ⟨hpid, rfl⟩ := hcalls.of_exited
    obtain ⟨before, last, rfl, rfl⟩ := hcalls.ends rfl
    exact ⟨⟨before, rfl, fun other hother => hcalls.onlyLast.not_of_mem hother⟩,
      List.exists_erase_eq hpid⟩
  case kept => exact hcalls.kept
  case failed_iff => exact fun cause => hcalls.mem_failed_iff.symm
  case failed_last => exact fun before cause after heq => hcalls.onlyLast before _ after heq trivial
  case waitAny_notMem => exact hcalls.waitAny_notMem
  case idle_notMem => exact hcalls.idle_notMem
  case looksBefore => exact fun before answer after heq => hcalls.looksBefore before _ after heq rfl

/-- **The contract of a wait** holds against every host, for every registry at the begin, and after
every number of rounds. -/
theorem Session.followWait_law (h : Host σ) (blocks : Bool) (s : Session σ) (rounds : Nat) :
    ∃ es, s.Leads es (s.followWait h blocks rounds).session ∧
      WaitLaw blocks s.registry es (s.followWait h blocks rounds).result?
        (s.followWait h blocks rounds).session.registry := by
  obtain ⟨es, hleads, hcalls⟩ := s.followWait_follows h blocks rounds
  exact ⟨es, hleads, hcalls.law⟩

/-- A stranger exits, a signal cuts the next wait short, then a child exits whose number stands in
the registry twice. -/
example :
    let s : Session (List Event) := {
      host := [.takePending none, .waitAny (.ok (.child 99)), .takePending none,
        .waitAny (.ok .interrupted), .takePending none, .waitAny (.ok (.child 101))]
      registry := ⟨[100, 101, 102, 101]⟩ }
    (s.waitForAny .adversary false 3).map (fun r => (r.1.toOption, r.2.registry)) =
      some (some (.exited 101), ⟨[100, 102, 101]⟩) := by
  decide

end NbdAttach
