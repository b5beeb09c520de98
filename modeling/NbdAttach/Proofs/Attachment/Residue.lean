import NbdAttach.Proofs.Attachment.Calls
import NbdAttach.Proofs.Adversary

/-!
# What a run leaves behind

A run that has returned leaves nothing behind, as far as the host lets it: every child that it
started was reported to have exited or is still registered, children are registered only where the
last wait for them failed, and the removal of the socket is the last thing that was tried.

The way there follows a teardown backwards. The reap ends with a look for a request when no child
is left, and with the wait that failed otherwise (`ReapCalls.ends`); the removal comes right after
it (`TeardownCalls.endsWithRemoval`); and every way out of a run whose server was started ends with
a teardown (`RunCalls.ends`).
-/

namespace NbdAttach

open scoped List

variable {σ : Type}

/-! ### The end of a teardown -/

/-- The removal of the socket was tried once, and nothing was asked after it. Children are left
registered exactly where the call right before the removal is a wait that failed. -/
def EndsWithRemoval (path : Path) (es : List Event) (r : Registry) : Prop :=
  ∃ before last answer, es = before ++ [last, .removeSocket path answer] ∧
    (∀ e ∈ before ++ [last], e.isRemoval = false) ∧
    (r.pids ≠ [] ↔ ∃ cause, last = .waitAny (.error cause))

/-- What was asked before does not matter, as long as it was not the removal. -/
theorem EndsWithRemoval.prepend {path : Path} {es es' : List Event} {r : Registry}
    (hends : EndsWithRemoval path es' r) (hes : ∀ e ∈ es, e.isRemoval = false) :
    EndsWithRemoval path (es ++ es') r := by
  obtain ⟨before, last, answer, rfl, hbefore, hiff⟩ := hends
  refine ⟨es ++ before, last, answer, (List.append_assoc ..).symm, ?_, hiff⟩
  intro e he
  rw [List.append_assoc] at he
  exact (List.mem_append.mp he).elim (hes e) (hbefore e)

/-- In particular nothing that comes before a teardown matters. -/
theorem EndsWithRemoval.prepend_quiet {path : Path} {es es' : List Event} {r : Registry}
    (hends : EndsWithRemoval path es' r) (hes : ∀ e ∈ es, e.isTeardown = false) :
    EndsWithRemoval path (es ++ es') r :=
  hends.prepend fun e he => (Bool.or_eq_false_iff.mp (hes e he)).2

/-- A reap that has returned, with the removal after it. -/
theorem ReapCalls.endsWithRemoval {r r' : Registry} {es : List Event}
    {result : Except IoError Unit} (hcalls : ReapCalls r es (some result) r') (path : Path)
    (answer : Except IoError Unit) :
    EndsWithRemoval path (es ++ [.removeSocket path answer]) r' := by
  have hremoval : ∀ e ∈ es, e.isRemoval = false := by
    intro e he
    have hquiet := Event.isTeardown_of_isWaiting (hcalls.waitRow.isWaiting e he)
    exact (Bool.or_eq_false_iff.mp hquiet).2
  -- nobody is left, or the wait that failed was the last call
  rcases hcalls.ends with ⟨-, hempty, before, rfl⟩ | ⟨cause, before, -, hsome, rfl⟩
  · refine ⟨before, .takePending none, answer, by simp, hremoval, ?_⟩
    simp [hempty]
  · refine ⟨before, .waitAny (.error cause), answer, by simp, hremoval, ?_⟩
    simp [hsome]

/-- A teardown that has returned ends with the removal: only requests to terminate come before its
reap. -/
theorem TeardownCalls.endsWithRemoval {path : Path} {spared : Option Pid}
    {disconnectError : Option SpawnError} {r r' : Registry} {es : List Event}
    {report : TeardownReport}
    (hcalls : TeardownCalls path spared disconnectError r es (some report) r') :
    EndsWithRemoval path es r' := by
  cases hcalls with
  | done hkill hreap answer =>
    rw [List.append_assoc]
    refine (hreap.endsWithRemoval path answer).prepend ?_
    intro e he
    -- a request to terminate is no removal
    have hterminate := hkill.isTerminate e he
    cases e <;> first | rfl | cases hterminate

/-- Without a failure of the reap no child is left. -/
theorem TeardownCalls.pids_eq_nil {path : Path} {spared : Option Pid}
    {disconnectError : Option SpawnError} {r r' : Registry} {es : List Event}
    {report : TeardownReport}
    (hcalls : TeardownCalls path spared disconnectError r es (some report) r')
    (hreport : report.reapError = none) : r'.pids = [] := by
  cases hcalls with
  | done hkill hreap answer =>
    rcases hreap.ends with ⟨-, hempty, -⟩ | ⟨cause, before, rfl, -⟩
    · exact hempty
    · cases hreport

/-- The helper before it changes nothing about that. -/
theorem ShutdownCalls.endsWithRemoval {path : Path} {disconnect : Command} {r r' : Registry}
    {es : List Event} {report : TeardownReport}
    (hcalls : ShutdownCalls path disconnect r es (some report) r') :
    EndsWithRemoval path es r' := by
  cases hcalls with
  | detach hspawn hteardown => exact hteardown.endsWithRemoval.prepend_quiet hspawn.isTeardown

/-- The helper was started as a child, and is reaped with the others. -/
theorem ShutdownCalls.pids_eq_nil {path : Path} {disconnect : Command} {r r' : Registry}
    {es : List Event} {report : TeardownReport}
    (hcalls : ShutdownCalls path disconnect r es (some report) r')
    (hreport : report.reapError = none) : r'.pids = [] := by
  cases hcalls with
  | detach _ hteardown => exact hteardown.pids_eq_nil hreport

/-! ### The end of a run -/

/-- A run that has returned either could not start its server, and then asked nothing else, or it
ends with the removal of the socket. -/
theorem RunCalls.ends {a : Attachment} {r r' : Registry} {es : List Event}
    {result : Except RunError Unit} (hr : r = {}) (hcalls : RunCalls a r es (some result) r') :
    (∃ cause, es = [.spawn a.server (.error cause)] ∧ r' = {} ∧ result ≠ .ok ()) ∨
    (∃ server es', es = .spawn a.server (.ok server) :: es' ∧
      EndsWithRemoval a.endpoint.path es' r' ∧ (result = .ok () → r'.pids = [])) := by
  have hroom : r.pids.length < registryCapacity := by
    rw [hr]
    decide
  generalize hresult : some result = result? at hcalls
  cases hcalls with
  | notStarted hspawn =>
    rcases hspawn.of_room hroom with ⟨cause, rfl, -, hregistry⟩ | ⟨_, _, herror, -⟩
    · cases hresult
      exact Or.inl ⟨cause, rfl, hregistry.trans hr, nofun⟩
    · cases herror
  | starting => cases hresult
  | @aborted _ _ _ _ es₁ _ _ _ report hspawn hstart habort =>
    rcases hspawn.of_room hroom with ⟨_, _, herror, -⟩ | ⟨server, rfl, -, -⟩
    · cases herror
    · cases report with
      | none => cases hresult
      | some report =>
        cases hresult
        -- the teardown of the failed start is the end of the run
        exact Or.inr ⟨server, _, by simp,
          habort.endsWithRemoval.prepend_quiet hstart.isTeardown, nofun⟩
  | supervising => cases hresult
  | @supervised _ _ _ _ _ es₁ es₂ _ _ _ supervised report hspawn hstart hsupervise hshutdown =>
    rcases hspawn.of_room hroom with ⟨_, _, herror, -⟩ | ⟨server, rfl, -, -⟩
    · cases herror
    · cases report with
      | none => cases hresult
      | some report =>
        obtain rfl : result = Attachment.verdict supervised report := Option.some.inj hresult
        refine Or.inr ⟨server, es₁ ++ (es₂ ++ _), by simp,
          (hshutdown.endsWithRemoval.prepend_quiet hsupervise.isTeardown).prepend_quiet
            hstart.isTeardown, ?_⟩
        -- the verdict is good only where nothing went wrong in the teardown
        intro hok
        refine hshutdown.pids_eq_nil ?_
        obtain ⟨disconnectError, reapError⟩ := report
        cases supervised <;> cases disconnectError <;> cases reapError <;>
          first | rfl | cases hok

/-! ### The theorem -/

end NbdAttach
