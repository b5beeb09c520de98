import NbdAttach.Proofs.Attachment.Capacity
import NbdAttach.Proofs.Supervisor.WaitContract

/-!
# What a run fails with

Much can go wrong in one run, also several things at once. What a run fails with is the first of
them, and it ends well if there is none.

What goes wrong is read off the trace. The same answer of the host means different things at
different times, or nothing at all, so the trace is read with the `Leg` of the run in mind: a wait
that fails is one thing during the supervision, another in the teardown after it, and nothing in the
teardown of a failed start. `Attachment.mishap?` says of an answer which `Mishap` it is, and
`Attachment.mishaps` lists the mishaps of a whole trace.

Each part of a run is scanned by itself, under what is registered there: `LauncherCalls.scans`,
`AttachCalls.scans` and `StartCalls.scans` for the start-up, `SupervisionCalls.scans` and
`ShutdownCalls.scans` for the rest. `RunCalls.mishaps` puts them together, and `RunMishaps` has
what the mishaps of a run can be.
-/

namespace NbdAttach

variable {σ α : Type}

/-! ### Mishaps -/

/-- How far a run has come. -/
inductive Leg
  | outset
  /-- The server was started, and the client was not. -/
  | starting
  /-- The start has failed, and what is there is torn down. -/
  | abandoned
  | supervising
  /-- The start of the helper was tried, and the rest is torn down. -/
  | ending
deriving DecidableEq

/-- What can go wrong in a run. -/
inductive Juncture
  | serverStart
  /-- The wait for the process that was started as the server. -/
  | launch
  | background
  | readiness
  | clientStart
  | supervision
  | helperStart
  | reap
deriving DecidableEq

/-- The place of a juncture in the course of a run. -/
def Juncture.rank : Juncture → Nat
  | .serverStart => 0
  | .launch => 1
  | .background => 2
  | .readiness => 3
  | .clientStart => 4
  | .supervision => 5
  | .helperStart => 6
  | .reap => 7

/-- Something that goes wrong, with the error for it. -/
structure Mishap where
  juncture : Juncture
  error : RunError

/-- The error of the first mishap, where there is one. -/
def firstError : List Mishap → Except RunError Unit
  | [] => .ok ()
  | m :: _ => .error m.error

namespace Attachment

/-- What the answer to a request means on a leg of the run, if it is a mishap there. -/
def mishap? (a : Attachment) : Leg → Event → Option Mishap
  | .outset, .spawn c (.error cause) => some ⟨.serverStart, .spawn (.launch c.program cause)⟩
  | .starting, .waitAny (.error cause) => some ⟨.launch, .wait cause⟩
  | .starting, .takePending (some _) => some ⟨.launch, .setupInterrupted⟩
  | .starting, .background _ (.error e) => some ⟨.background, e⟩
  | .starting, .awaitSocket _ (.error cause) =>
    some ⟨.readiness, .readiness a.endpoint.path cause⟩
  | .starting, .awaitSocket _ (.ok false) =>
    some ⟨.readiness, .readinessTimeout a.settings.serverExecutable
      a.settings.readiness.maxWait.toNat⟩
  | .starting, .spawn c (.error cause) => some ⟨.clientStart, .spawn (.launch c.program cause)⟩
  | .supervising, .waitAny (.error cause) => some ⟨.supervision, .wait cause⟩
  | .supervising, .spawn c (.error cause) => some ⟨.helperStart, .spawn (.launch c.program cause)⟩
  | .ending, .waitAny (.error cause) => some ⟨.reap, .wait cause⟩
  | _, _ => none

/-- The leg after an event. Starts of children lead on, and until the client is there each mishap
leads to the teardown. -/
def nextLeg (a : Attachment) (leg : Leg) (e : Event) : Leg :=
  match leg with
  | .outset =>
    if (a.mishap? leg e).isSome then .abandoned
    else if e.command?.isSome then .starting else .outset
  | .starting =>
    if (a.mishap? leg e).isSome then .abandoned
    else if e.command?.isSome then .supervising else .starting
  | .abandoned => .abandoned
  | .supervising => if e.command?.isSome then .ending else .supervising
  | .ending => .ending

def legAfter (a : Attachment) (leg : Leg) (es : List Event) : Leg :=
  es.foldl a.nextLeg leg

/-- The mishaps of a trace that begins on a leg, in order. -/
def mishaps (a : Attachment) : Leg → List Event → List Mishap
  | _, [] => []
  | leg, e :: es => (a.mishap? leg e).toList ++ a.mishaps (a.nextLeg leg e) es

/-- The junctures at which the start-up of a run can fail once the server was started. -/
def startJunctures (a : Attachment) : List Juncture :=
  (if a.inv.mode.foreground then [] else [.launch, .background]) ++ [.readiness, .clientStart]

variable {a : Attachment} {leg leg₁ leg' : Leg} {e : Event} {es es' : List Event}
  {ms ms' : List Mishap}

theorem legAfter_append (a : Attachment) (leg : Leg) (es es' : List Event) :
    a.legAfter leg (es ++ es') = a.legAfter (a.legAfter leg es) es' :=
  List.foldl_append

/-- The later part of a trace is read on the leg that the earlier one has led to. -/
theorem mishaps_append (a : Attachment) (leg : Leg) (es es' : List Event) :
    a.mishaps leg (es ++ es') = a.mishaps leg es ++ a.mishaps (a.legAfter leg es) es' := by
  induction es generalizing leg with
  | nil => rfl
  | cons e es ih =>
    rw [List.cons_append, mishaps, mishaps, ih, List.append_assoc]
    rfl

/-! ### Scans -/

/-- The events, on the way from one leg to another, have exactly these mishaps. -/
structure Scans (a : Attachment) (leg : Leg) (es : List Event) (ms : List Mishap) (leg' : Leg) :
    Prop where
  mishaps : a.mishaps leg es = ms
  leg : a.legAfter leg es = leg'

theorem Scans.trans (h₁ : a.Scans leg es ms leg₁) (h₂ : a.Scans leg₁ es' ms' leg') :
    a.Scans leg (es ++ es') (ms ++ ms') leg' where
  mishaps := by rw [mishaps_append, h₁.mishaps, h₁.leg, h₂.mishaps]
  leg := by rw [legAfter_append, h₁.leg, h₂.leg]

theorem Scans.nil (a : Attachment) (leg : Leg) : a.Scans leg [] [] leg where
  mishaps := rfl
  leg := rfl

/-- One event is the mishap that it is on its leg, or none. -/
theorem Scans.single (a : Attachment) (leg : Leg) (e : Event) :
    a.Scans leg [e] (a.mishap? leg e).toList (a.nextLeg leg e) where
  mishaps := List.append_nil _
  leg := rfl

/-- The event is no mishap on this leg, and starts nothing. -/
def Quiet (a : Attachment) (leg : Leg) (e : Event) : Prop :=
  a.mishap? leg e = none ∧ e.command? = none

/-- Such an event leaves the run on its leg. -/
theorem nextLeg_of_quiet (he : a.Quiet leg e) : a.nextLeg leg e = leg := by
  obtain ⟨hmishap, hcommand⟩ := he
  cases leg <;> simp [nextLeg, hmishap, hcommand]

/-- Events that leave the run on its leg count for nothing. -/
theorem scans_of_quiet (hes : ∀ e ∈ es, a.Quiet leg e) : a.Scans leg es [] leg := by
  induction es with
  | nil => exact .nil a leg
  | cons e es ih =>
    rw [List.forall_mem_cons] at hes
    have hfirst := Scans.single a leg e
    rw [nextLeg_of_quiet hes.1, hes.1.1] at hfirst
    exact hfirst.trans (ih hes.2)

/-- Nothing that happens once a run is abandoned counts. -/
theorem scans_abandoned (a : Attachment) (es : List Event) :
    a.Scans .abandoned es [] .abandoned := by
  induction es with
  | nil => exact .nil a .abandoned
  | cons e es ih => exact (Scans.single a .abandoned e).trans ih

/-- Teardowns have their requests to terminate and the removal for themselves. -/
theorem quiet_of_isTeardown (leg : Leg) (he : e.isTeardown = true) : a.Quiet leg e := by
  cases e with
  | terminate pid answer => cases leg <;> exact ⟨rfl, rfl⟩
  | removeSocket path answer => cases leg <;> exact ⟨rfl, rfl⟩
  | _ => cases he

end Attachment

open Attachment

/-! ### Waits -/

/-- What does not end a wait is no mishap, wherever the run is. -/
theorem Event.quiet_of_isWaiting {a : Attachment} {r : Registry} {e : Event} (leg : Leg)
    (hwaiting : e.isWaiting = true) (hends : ¬e.EndsWait r) : a.Quiet leg e := by
  cases e with
  | takePending found =>
    cases found with
    | none => cases leg <;> exact ⟨rfl, rfl⟩
    | some signal => exact absurd trivial hends
  | waitAny answer =>
    cases answer with
    | error cause => exact absurd trivial hends
    | ok reaped => cases leg <;> exact ⟨rfl, rfl⟩
  | idle => cases leg <;> exact ⟨rfl, rfl⟩
  | _ => cases hwaiting

/-- The last call of a wait decides whether there is a mishap in it. -/
theorem WaitCalls.scans {blocks : Bool} {r r' : Registry} {es : List Event}
    {outcome : Except IoError WaitOutcome} (hcalls : WaitCalls blocks r es (some outcome) r')
    (a : Attachment) (leg : Leg) :
    ∃ last, EndOfWait last r' outcome ∧
      a.Scans leg es (a.mishap? leg last).toList (a.nextLeg leg last) := by
  obtain ⟨before, last, rfl, hend⟩ := hcalls.ends rfl
  have hquiet : ∀ e ∈ before, a.Quiet leg e := fun e he =>
    Event.quiet_of_isWaiting leg (hcalls.isWaiting e (List.mem_append_left _ he))
      (hcalls.onlyLast.not_of_mem he)
  exact ⟨last, hend, (scans_of_quiet hquiet).trans (.single a leg last)⟩

/-- A wait that does not fail is no mishap, except that a request interrupts the start-up. -/
theorem WaitCalls.scans_ok {blocks : Bool} {r r' : Registry} {es : List Event}
    {outcome : WaitOutcome} (hcalls : WaitCalls blocks r es (some (.ok outcome)) r')
    (a : Attachment) (leg : Leg) (hleg : leg ≠ .starting ∨ outcome ≠ .interrupted) :
    a.Scans leg es [] leg := by
  obtain ⟨last, hend, hscans⟩ := hcalls.scans a leg
  have hquiet : a.Quiet leg last := by
    cases outcome with
    | exited pid =>
      obtain rfl := hend
      cases leg <;> exact ⟨rfl, rfl⟩
    | interrupted =>
      obtain ⟨signal, rfl⟩ := hend
      cases leg with
      | starting => simp at hleg
      -- anywhere else a request is no mishap
      | _ => exact ⟨rfl, rfl⟩
    | noneLeft =>
      obtain ⟨rfl, -⟩ := hend
      cases leg <;> exact ⟨rfl, rfl⟩
  rw [nextLeg_of_quiet hquiet, hquiet.1] at hscans
  exact hscans

/-- A wait that fails is the mishap that its last call is. -/
theorem WaitCalls.scans_error {blocks : Bool} {r r' : Registry} {es : List Event}
    {cause : IoError} (hcalls : WaitCalls blocks r es (some (.error cause)) r') (a : Attachment)
    (leg : Leg) :
    a.Scans leg es (a.mishap? leg (.waitAny (.error cause))).toList
      (a.nextLeg leg (.waitAny (.error cause))) := by
  obtain ⟨last, ⟨rfl, -⟩, hscans⟩ := hcalls.scans a leg
  exact hscans

/-! ### The start-up -/

/-- The events have no mishap and lead on, or they have the one with which the part has failed. -/
def Attachment.ScansPart (a : Attachment) (es : List Event) (junctures : List Juncture)
    (leg' : Leg) : Except RunError α → Prop
  | .ok _ => a.Scans .starting es [] leg'
  | .error e => ∃ juncture ∈ junctures, a.Scans .starting es [⟨juncture, e⟩] .abandoned

/-- As long as the server is the only child, no exit is unexpected. -/
theorem LauncherCalls.scans {a : Attachment} {server : Pid} {r r' : Registry} {es : List Event}
    {result? : Option (Except RunError Unit)} {result : Except RunError Unit}
    (hr : r.pids = [server]) (hcalls : LauncherCalls a server r es result? r')
    (hresult : result? = some result) :
    a.ScansPart es [.launch, .background] .starting result := by
  cases hcalls with
  | goesOn _ => cases hresult
  | waitFailed hwait =>
    cases hresult
    exact ⟨.launch, by simp, hwait.scans_error a .starting⟩
  | interrupted hwait =>
    cases hresult
    -- a request on this leg is a mishap, and abandons the run
    obtain ⟨last, ⟨signal, rfl⟩, hscans⟩ := hwait.scans a .starting
    exact ⟨.launch, by simp, hscans⟩
  | noneLeft hwait => rcases hwait.of_singleton hr with hother | hother <;> cases hother
  | stranger hpid hwait =>
    -- the wait could only have found the server
    rcases hwait.of_singleton hr with hother | hserver
    · cases hother
    · cases hserver
      exact absurd rfl hpid
  | exited hwait answer =>
    cases hresult
    -- the exit of the process is none, but the step that follows may be one
    have hscans := (hwait.scans_ok a .starting (Or.inr nofun)).trans
      (.single a .starting (.background a.inv result))
    cases result with
    | ok _ => exact hscans
    | error e => exact ⟨.background, by simp, hscans⟩

/-- With room in the registry the client fails for the socket or for the host, and there is no third
way. -/
theorem AttachCalls.scans {a : Attachment} {r r' : Registry} {es : List Event}
    {result : Except RunError Pid} (hroom : r.pids.length < registryCapacity)
    (hcalls : AttachCalls a r es result r') :
    a.ScansPart es [.readiness, .clientStart] .supervising result := by
  cases hcalls with
  | failed cause => exact ⟨.readiness, by simp, .single a .starting _⟩
  | timedOut => exact ⟨.readiness, by simp, .single a .starting _⟩
  | spawnFailed hspawn =>
    have hready := Scans.single a .starting (.awaitSocket a.endpoint.path (.ok true))
    rcases hspawn.of_room hroom with ⟨cause, rfl, hresult, -⟩ | ⟨_, _, hresult, _⟩
    · cases hresult
      exact ⟨.clientStart, by simp, hready.trans (.single a .starting _)⟩
    · cases hresult
  | attached hspawn =>
    have hready := Scans.single a .starting (.awaitSocket a.endpoint.path (.ok true))
    rcases hspawn.of_room hroom with ⟨_, _, hresult, _⟩ | ⟨_, rfl, _, -⟩
    · cases hresult
    · exact hready.trans (.single a .starting _)

/-- The start of a run fails at one of the junctures of its mode. -/
theorem StartCalls.scans {a : Attachment} {server : Pid} {r r' : Registry} {es : List Event}
    {result? : Option (Except RunError Pid)} {result : Except RunError Pid}
    (hr : r.pids = [server]) (hcalls : StartCalls a server r es result? r')
    (hresult : result? = some result) :
    a.ScansPart es a.startJunctures .supervising result := by
  have hlength : r.pids.length ≤ 1 := by simp [hr]
  cases hcalls with
  | foreground hmode hattach =>
    cases hresult
    have hscans := hattach.scans (hlength.trans_lt (by decide))
    cases result with
    | ok _ => exact hscans
    | error e =>
      obtain ⟨juncture, hmem, hscans⟩ := hscans
      exact ⟨juncture, List.mem_append_right _ hmem, hscans⟩
  | goesOn _ _ => cases hresult
  | failed hmode hlauncher =>
    cases hresult
    obtain ⟨juncture, hmem, hscans⟩ := hlauncher.scans hr rfl
    exact ⟨juncture, List.mem_append_left _ (by simpa [hmode] using hmem), hscans⟩
  | @background r₁ _ _ _ _ hmode hlauncher hattach =>
    cases hresult
    have hlaunched := hlauncher.scans hr rfl
    -- the server has left the registry, so there is room for the client
    have hroom : r₁.pids.length < registryCapacity := by
      rw [hlauncher.of_ok]
      exact (List.length_erase_le.trans hlength).trans_lt (by decide)
    have hscans := hattach.scans hroom
    cases result with
    | ok _ => exact Scans.trans hlaunched hscans
    | error e =>
      obtain ⟨juncture, hmem, hscans⟩ := hscans
      exact ⟨juncture, List.mem_append_right _ hmem, Scans.trans hlaunched hscans⟩

/-! ### The supervision and the teardown after it -/

/-- The mishap of a part that fails at a juncture. -/
def mishapAt (juncture : Juncture) : Except RunError α → List Mishap
  | .ok _ => []
  | .error e => [⟨juncture, e⟩]

/-- The mishaps of a teardown, by its report. -/
def TeardownReport.mishaps (report : TeardownReport) : List Mishap :=
  report.disconnectError.toList.map (fun error => ⟨.helperStart, .spawn error⟩) ++
    report.reapError.toList.map fun cause => ⟨.reap, .wait cause⟩

/-- A supervision has a mishap only where a wait fails, and then it is the last of its waits. -/
theorem SupervisionCalls.scans {a : Attachment} {server : Pid} {client : Option Pid}
    {r r' : Registry} {es : List Event} {result? : Option (Except RunError Unit)}
    {result : Except RunError Unit} (hcalls : SupervisionCalls a server client r es result? r')
    (hresult : result? = some result) :
    a.Scans .supervising es (mishapAt .supervision result) .supervising := by
  induction hcalls with
  | goesOn _ => cases hresult
  | waitFailed hwait =>
    cases hresult
    exact hwait.scans_error a .supervising
  | interrupted hwait =>
    cases hresult
    exact hwait.scans_ok a .supervising (Or.inl nofun)
  | noneLeft hwait =>
    cases hresult
    exact hwait.scans_ok a .supervising (Or.inl nofun)
  | clientExited hwait _ ih =>
    exact (hwait.scans_ok a .supervising (Or.inl nofun)).trans (ih hresult)
  | ended _ hwait =>
    cases hresult
    exact hwait.scans_ok a .supervising (Or.inl nofun)

/-- What the children say to a request to terminate is no mishap. -/
theorem KillCalls.scans {targets : List Pid} {es : List Event} (hcalls : KillCalls targets es)
    (a : Attachment) (leg : Leg) : a.Scans leg es [] leg := by
  refine scans_of_quiet fun e he => quiet_of_isTeardown leg ?_
  rw [Event.isTeardown, hcalls.isTerminate e he, Bool.true_or]

/-- A reap drops the requests that it takes, so only a wait that fails is a mishap in it. -/
theorem ReapCalls.scans {r r' : Registry} {es : List Event}
    {result? : Option (Except IoError Unit)} {result : Except IoError Unit}
    (hcalls : ReapCalls r es result? r') (hresult : result? = some result) (a : Attachment) :
    a.Scans .ending es (mishapAt .reap (result.mapError .wait)) .ending := by
  induction hcalls with
  | goesOn _ => cases hresult
  | failed hwait =>
    cases hresult
    exact hwait.scans_error a .ending
  | done hwait =>
    cases hresult
    exact hwait.scans_ok a .ending (Or.inl nofun)
  | more hwait _ _ ih => exact (hwait.scans_ok a .ending (Or.inl nofun)).trans (ih hresult)

/-- Of a teardown, only the reap can have a mishap. The failure of the helper is reported with it,
but lies before it. -/
theorem TeardownCalls.scans {path : Path} {spared : Option Pid}
    {disconnectError : Option SpawnError} {r r' : Registry} {es : List Event}
    {report? : Option TeardownReport} {report : TeardownReport}
    (hcalls : TeardownCalls path spared disconnectError r es report? r')
    (hreport : report? = some report) (a : Attachment) :
    report.disconnectError = disconnectError ∧
      a.Scans .ending es { report with disconnectError := none }.mishaps .ending := by
  cases hcalls with
  | goesOn _ _ => cases hreport
  | @done _ _ _ reaped hkill hreap answer =>
    cases hreport
    have hremoval : a.Scans .ending [.removeSocket path answer] [] .ending :=
      scans_of_quiet (List.forall_mem_singleton.mpr (quiet_of_isTeardown .ending rfl))
    have hscans := ((hkill.scans a .ending).trans (hreap.scans rfl a)).trans hremoval
    refine ⟨rfl, ?_⟩
    -- the reap has failed or not, and the report says the same
    cases reaped <;> exact hscans

/-- With the helper before it, the mishaps are those of the report. -/
theorem ShutdownCalls.scans {path : Path} {disconnect : Command} {r r' : Registry}
    {es : List Event} {report? : Option TeardownReport} {report : TeardownReport}
    (hcalls : ShutdownCalls path disconnect r es report? r') (hreport : report? = some report)
    (hroom : r.pids.length < registryCapacity) (a : Attachment) :
    a.Scans .supervising es report.mishaps .ending := by
  cases hcalls with
  | detach hspawn hteardown =>
    -- the report repeats what the start of the helper came to
    obtain ⟨hdisconnect, hscans⟩ := hteardown.scans hreport a
    obtain ⟨disconnectError, reapError⟩ := report
    rcases hspawn.of_room hroom with ⟨cause, rfl, rfl, -⟩ | ⟨helper, rfl, rfl, -⟩
    · obtain rfl : disconnectError = _ := hdisconnect
      exact (Scans.single a .supervising _).trans hscans
    · obtain rfl : disconnectError = _ := hdisconnect
      exact (Scans.single a .supervising _).trans hscans

/-- The verdict is the first of the mishaps that it is made of. -/
theorem Attachment.verdict_eq (supervised : Except RunError Unit) (report : TeardownReport) :
    verdict supervised report =
      firstError (mishapAt .supervision supervised ++ report.mishaps) := by
  obtain ⟨disconnectError, reapError⟩ := report
  cases supervised <;> cases disconnectError <;> cases reapError <;> rfl

/-- The mishaps that a verdict is made of come in order. -/
theorem pairwise_rank (supervised : Except RunError Unit) (report : TeardownReport) :
    (mishapAt .supervision supervised ++ report.mishaps).Pairwise fun m m' =>
      m.juncture.rank < m'.juncture.rank := by
  obtain ⟨disconnectError, reapError⟩ := report
  cases supervised <;> cases disconnectError <;> cases reapError <;>
    simp [mishapAt, TeardownReport.mishaps, Juncture.rank]

/-- They come after all that can go wrong in the start-up. -/
theorem supervision_le_rank (supervised : Except RunError Unit) (report : TeardownReport) :
    ∀ m ∈ mishapAt .supervision supervised ++ report.mishaps,
      Juncture.supervision.rank ≤ m.juncture.rank := by
  obtain ⟨disconnectError, reapError⟩ := report
  cases supervised <;> cases disconnectError <;> cases reapError <;>
    simp [mishapAt, TeardownReport.mishaps, Juncture.rank]

/-! ### The run -/

/-- The mishaps of a run that has returned: the one with which its start has failed, or those that
make up the verdict on its supervision. -/
inductive RunMishaps (a : Attachment) (es : List Event) : Except RunError Unit → Prop
  | startFailed {m : Mishap}
      (hjuncture : m.juncture = .serverStart ∨ m.juncture ∈ a.startJunctures)
      (hmishaps : a.mishaps .outset es = [m]) : RunMishaps a es (.error m.error)
  | supervised {supervised : Except RunError Unit} {report : TeardownReport}
      (hmishaps : a.mishaps .outset es = mishapAt .supervision supervised ++ report.mishaps) :
    RunMishaps a es (verdict supervised report)

/-- Every run that has returned has mishaps of this kind: the parts are scanned one after the
other. -/
theorem RunCalls.mishaps {a : Attachment} {r r' : Registry} {es : List Event}
    {result? : Option (Except RunError Unit)} {result : Except RunError Unit} (hr : r = {})
    (hcalls : RunCalls a r es result? r') (hresult : result? = some result) :
    RunMishaps a es result := by
  have hroom : r.pids.length < registryCapacity := by
    rw [hr]
    decide
  cases hcalls with
  | notStarted hspawn =>
    cases hresult
    rcases hspawn.of_room hroom with ⟨cause, rfl, hresult, -⟩ | ⟨_, _, hresult, _⟩
    · cases hresult
      have hmishaps : a.mishaps .outset [.spawn a.server (.error cause)] =
          [⟨.serverStart, .spawn (.launch a.server.program cause)⟩] := rfl
      exact .startFailed (Or.inl rfl) hmishaps
    · cases hresult
  | starting _ _ => cases hresult
  | @aborted _ _ _ _ _ es₂ server e report hspawn hstart _ =>
    cases report with
    | none => cases hresult
    | some report =>
      -- whatever the teardown is like, the run is abandoned by then
      cases hresult
      obtain ⟨rfl, rfl⟩ := hspawn.of_started
      obtain ⟨juncture, hmem, hscans⟩ := hstart.scans (by rw [hr]; rfl) rfl
      have hstarted := Scans.single a .outset (.spawn a.server (.ok server))
      have hrun := (hstarted.trans hscans).trans (scans_abandoned a es₂)
      exact .startFailed (Or.inr hmem) hrun.mishaps
  | supervising _ _ _ => cases hresult
  | @supervised _ _ _ _ _ _ _ _ server client supervised report hspawn hstart hsupervise
      hshutdown =>
    cases report with
    | none => cases hresult
    | some report =>
      cases hresult
      obtain ⟨rfl, rfl⟩ := hspawn.of_started
      have hserver : (r.insert server).pids = [server] := by
        rw [hr]
        rfl
      have hstarted := Scans.single a .outset (.spawn a.server (.ok server))
      have hup : a.Scans .starting _ [] .supervising := hstart.scans hserver rfl
      have hdown := hshutdown.scans rfl (hsupervise.hasRoom (hstart.watched hserver)) a
      have hrun := ((hstarted.trans hup).trans (hsupervise.scans rfl)).trans hdown
      exact .supervised hrun.mishaps

/-- A mishap in the start-up abandons the run. -/
theorem Attachment.nextLeg_of_start {a : Attachment} {leg : Leg} {e : Event} {m : Mishap}
    (hmishap : a.mishap? leg e = some m) (hstart : m.juncture.rank < Juncture.supervision.rank) :
    a.nextLeg leg e = .abandoned := by
  rw [mishap?.eq_def] at hmishap
  -- what can go wrong once the client is there comes later
  split at hmishap <;> cases hmishap <;> first | rfl | simp [Juncture.rank] at hstart

/-- What comes after a mishap in the start-up adds none. -/
theorem Attachment.mishaps_of_start {a : Attachment} {before : List Event} {e : Event} {m : Mishap}
    (hmishap : a.mishap? (a.legAfter .outset before) e = some m)
    (hstart : m.juncture.rank < Juncture.supervision.rank) (after : List Event) :
    a.mishaps .outset (before ++ e :: after) = a.mishaps .outset before ++ [m] := by
  rw [mishaps_append, mishaps, hmishap, nextLeg_of_start hmishap hstart,
    (scans_abandoned a after).mishaps]
  rfl

namespace RunMishaps

variable {a : Attachment} {es : List Event} {result : Except RunError Unit}

theorem first (hmishaps : RunMishaps a es result) :
    firstError (a.mishaps .outset es) = result := by
  cases hmishaps with
  | startFailed _ hmishaps =>
    rw [hmishaps]
    rfl
  | supervised hmishaps => rw [hmishaps, verdict_eq]

theorem inOrder (hmishaps : RunMishaps a es result) :
    (a.mishaps .outset es).Pairwise fun m m' => m.juncture.rank < m'.juncture.rank := by
  cases hmishaps with
  | startFailed _ hmishaps =>
    rw [hmishaps]
    exact List.pairwise_singleton _ _
  | @supervised supervised report hmishaps =>
    rw [hmishaps]
    exact pairwise_rank supervised report

theorem foreground (hmishaps : RunMishaps a es result) (hmode : a.inv.mode.foreground = true) :
    ∀ m ∈ a.mishaps .outset es, m.juncture ≠ .launch ∧ m.juncture ≠ .background := by
  intro m hm
  cases hmishaps with
  | startFailed hjuncture hmishaps =>
    rw [hmishaps, List.mem_singleton] at hm
    rw [hm]
    rw [startJunctures, hmode] at hjuncture
    rcases hjuncture with hjuncture | hjuncture
    · simp [hjuncture]
    · rcases List.mem_pair.mp hjuncture with hjuncture | hjuncture <;> simp [hjuncture]
  | @supervised supervised report hmishaps =>
    rw [hmishaps] at hm
    -- a run that was supervised has come past the start-up
    have hlater := supervision_le_rank supervised report m hm
    constructor
    · intro hjuncture
      rw [hjuncture] at hlater
      exact absurd hlater (by decide)
    · intro hjuncture
      rw [hjuncture] at hlater
      exact absurd hlater (by decide)

/-- A mishap in the start-up is the first one. -/
theorem before_eq_nil {before after : List Event} {e : Event} {m : Mishap}
    (hmishaps : RunMishaps a (before ++ e :: after) result)
    (hmishap : a.mishap? (a.legAfter .outset before) e = some m)
    (hstart : m.juncture.rank < Juncture.supervision.rank) : a.mishaps .outset before = [] := by
  have hsplit := mishaps_of_start hmishap hstart after
  cases hmishaps with
  | @startFailed m' _ hmishaps =>
    rw [hsplit, ← List.nil_append [m']] at hmishaps
    exact (List.append_inj' hmishaps rfl).1
  | @supervised supervised report hmishaps =>
    -- after a supervision there is no such mishap
    have hm : m ∈ a.mishaps .outset (before ++ e :: after) := by
      rw [hsplit]
      exact List.mem_append_right _ (List.mem_singleton_self m)
    rw [hmishaps] at hm
    exact absurd hstart (supervision_le_rank supervised report m hm).not_gt

end RunMishaps

/-! ### The law -/

namespace Attachment

variable {a : Attachment} {leg : Leg} {e : Event} {es es' : List Event}

/-- The first error is that of a mishap before which there was none. -/
theorem firstError_mishaps_eq_iff {error : RunError} :
    firstError (a.mishaps leg es) = .error error ↔
      ∃ before e after juncture, es = before ++ e :: after ∧ a.mishaps leg before = [] ∧
        a.mishap? (a.legAfter leg before) e = some ⟨juncture, error⟩ := by
  constructor
  · intro herror
    induction es generalizing leg with
    | nil => cases herror
    | cons e es ih =>
      -- on the way to the first mishap the leg moves on with each event
      cases hmishap : a.mishap? leg e with
      | some m =>
        rw [mishaps, hmishap] at herror
        obtain rfl := Except.error.inj herror
        exact ⟨[], e, es, m.juncture, rfl, rfl, hmishap⟩
      | none =>
        rw [mishaps, hmishap] at herror
        obtain ⟨before, e', after, juncture, rfl, hbefore, hmishap'⟩ := ih herror
        refine ⟨e :: before, e', after, juncture, rfl, ?_, hmishap'⟩
        rw [mishaps, hmishap, hbefore]
        rfl
  · rintro ⟨before, e, after, juncture, rfl, hbefore, hmishap⟩
    rw [mishaps_append, hbefore, mishaps, hmishap]
    rfl

/-- What a teardown asks for besides its waits is no mishap on any leg. -/
theorem mishaps_filter (a : Attachment) (leg : Leg) (es : List Event) :
    a.mishaps leg (es.filter fun e => !e.isTeardown) = a.mishaps leg es := by
  induction es generalizing leg with
  | nil => rfl
  | cons e es ih =>
    cases hteardown : e.isTeardown with
    | true =>
      have hquiet : a.Quiet leg e := quiet_of_isTeardown leg hteardown
      rw [List.filter_cons_of_neg (by simp [hteardown]), ih, mishaps, nextLeg_of_quiet hquiet,
        hquiet.1]
      rfl
    | false => rw [List.filter_cons_of_pos (by simp [hteardown]), mishaps, mishaps, ih]

end Attachment

/-- What a run that has returned has failed with, if it has failed. `es` are its events. -/
structure VerdictLaw (a : Attachment) (es : List Event) (result : Except RunError Unit) : Prop where
  /-- The run fails with the error of the first mishap. -/
  error_iff : ∀ error, result = .error error ↔
    ∃ before e after juncture, es = before ++ e :: after ∧ a.mishaps .outset before = [] ∧
      a.mishap? (a.legAfter .outset before) e = some ⟨juncture, error⟩
  /-- It ends well if there is none. -/
  ok_iff : result = .ok () ↔ a.mishaps .outset es = []
  /-- The mishaps come in the order of their junctures, at most one at each. -/
  inOrder : (a.mishaps .outset es).Pairwise fun m m' => m.juncture.rank < m'.juncture.rank
  /-- In the foreground no process is waited for in the start-up, and no step is taken. -/
  foreground : a.inv.mode.foreground = true →
    ∀ m ∈ a.mishaps .outset es, m.juncture ≠ .launch ∧ m.juncture ≠ .background
  /-- A start that has failed decides alone. Whatever comes after it could be anything else. -/
  abandoned : ∀ before e after m, es = before ++ e :: after →
    a.mishap? (a.legAfter .outset before) e = some m →
    m.juncture.rank < Juncture.supervision.rank →
    a.mishaps .outset es = [m] ∧
      ∀ after', firstError (a.mishaps .outset (before ++ e :: after')) = result
  /-- Requests to terminate and the removal of the socket could be answered in any other way. -/
  teardown : ∀ es', es'.filter (fun e => !e.isTeardown) = es.filter (fun e => !e.isTeardown) →
    firstError (a.mishaps .outset es') = result

/-- **The verdict.** What a run returns that began with an empty registry is the error of its first
mishap, against every host. -/
theorem run_verdict {a : Attachment} {h : Host σ} {s s' : Session σ} {rounds : Nat}
    {result : Except RunError Unit} (hs : s.registry = {})
    (hrun : a.run h s rounds = some (result, s')) :
    ∃ es, s.Leads es s' ∧ VerdictLaw a es result := by
  obtain ⟨es, hleads, hcalls⟩ := a.followRun_follows h s rounds
  rw [Progress.returned_eq_some_iff.mp hrun] at hleads hcalls
  refine ⟨es, hleads, ?_⟩
  have hmishaps := hcalls.mishaps hs rfl
  have hfirst := hmishaps.first
  constructor
  case error_iff =>
    intro error
    rw [← hfirst]
    exact firstError_mishaps_eq_iff
  case ok_iff =>
    rw [← hfirst]
    cases a.mishaps .outset es <;> simp [firstError]
  case inOrder => exact hmishaps.inOrder
  case foreground => exact hmishaps.foreground
  case abandoned =>
    rintro before e after m rfl hmishap hstart
    have hsplit := mishaps_of_start hmishap hstart
    refine ⟨by rw [hsplit, hmishaps.before_eq_nil hmishap hstart]; rfl, fun after' => ?_⟩
    rw [← hfirst, hsplit, hsplit]
  case teardown =>
    intro es' heq
    rw [← mishaps_filter a .outset es', heq, mishaps_filter, hfirst]

/-- Everything comes up, and then three things go wrong: a wait of the supervision, the start of the
helper, and a wait of the reap. Nobody is terminated, and the socket stays where it is. -/
def failingRun : Session (List Event) where
  host :=
    [.spawn default (.ok 100), .takePending none, .waitAny (.ok (.child 100)),
      .background default (.ok ()), .awaitSocket default (.ok true), .spawn default (.ok 101),
      .takePending none, .waitAny (.error (.system .interrupted)),
      .spawn default (.error .nulInArgument), .terminate 101 .denied, .takePending none,
      .waitAny (.error (.system .noChild)), .removeSocket default (.error .nulInPath)]

theorem failingRun_verdict :
    let s' := (Attachment.sample.followRun .adversary failingRun 4).session
    failingRun.registry = {} ∧
      Attachment.sample.run .adversary failingRun 4 =
        some (.error (.wait (.system .interrupted)), s') ∧
      ∃ es, failingRun.Leads es s' ∧
        VerdictLaw Attachment.sample es (.error (.wait (.system .interrupted))) := by
  intro s'
  have hrun : Attachment.sample.run .adversary failingRun 4 =
      some (.error (.wait (.system .interrupted)), s') := rfl
  exact ⟨rfl, hrun, run_verdict rfl hrun⟩

example :
    ((Attachment.sample.mishaps .outset
      (Attachment.sample.followRun .adversary failingRun 4).session.trace).map Mishap.juncture) =
        [.supervision, .helperStart, .reap] := by
  decide

end NbdAttach
