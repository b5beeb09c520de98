import NbdAttach.Proofs.Adversary
import NbdAttach.Proofs.Attachment.Calls
import NbdAttach.Proofs.Supervisor.History
import NbdAttach.SystemCalls

/-!
# Who is asked to terminate

The number of a process means something only while the process is there: once its exit was waited
for, the system may give the number to anybody. So a request to terminate goes to registered
children alone, whatever operations, teardowns and runs a supervisor goes through.

* `AimsAtRegistered` says so of the calls, with one lemma for each part that terminates anything;
  `Session.Aimed` is the invariant over a sequence of activities.
* `TerminationLaw` spells out what it means to be registered, by what happened before: such a child
  was started, and no exit that was reported since then was its own.
* `SystemCalls.KnownAs` takes it to the system, where a number that is not positive would reach a
  whole group of processes: the number that is signalled is the one under which the child was
  started, and its exit is found under the same number.
-/

namespace NbdAttach

variable {σ : Type}

/-! ### The calls -/

namespace Event

/-- The process that an event asks to terminate. -/
def target? : Event → Option Pid
  | .terminate pid _ => some pid
  | _ => none

theorem target?_of_isTeardown {e : Event} (he : e.isTeardown = false) : e.target? = none := by
  cases e <;> first | rfl | cases he

end Event

/-- Whoever is asked to terminate is registered at that moment. -/
def AimsAtRegistered (pids : List Pid) : List Event → Prop :=
  Always fun before e => ∀ pid, e.target? = some pid → pid ∈ registeredAfter pids before

namespace AimsAtRegistered

variable {pids : List Pid} {es es' : List Event}

theorem append_iff :
    AimsAtRegistered pids (es ++ es') ↔
      AimsAtRegistered pids es ∧ AimsAtRegistered (registeredAfter pids es) es' :=
  Always.append_registered_iff (P := fun pids e => ∀ pid, e.target? = some pid → pid ∈ pids)

theorem of_isTeardown (hes : ∀ e ∈ es, e.isTeardown = false) : AimsAtRegistered pids es := by
  refine Always.of_forall fun e he before pid hpid => ?_
  rw [Event.target?_of_isTeardown (hes e he)] at hpid
  cases hpid

/-- Before the teardown nobody is asked to terminate. -/
theorem prepend (hes : ∀ e ∈ es, e.isTeardown = false)
    (hes' : AimsAtRegistered (registeredAfter pids es) es') : AimsAtRegistered pids (es ++ es') :=
  append_iff.mpr ⟨of_isTeardown hes, hes'⟩

end AimsAtRegistered

/-- A sweep over registered children is aimed at registered children. The induction is on the
targets, of which the rest is as registered as before. -/
theorem KillCalls.aims {targets pids : List Pid} {es : List Event} (hcalls : KillCalls targets es)
    (htargets : ∀ pid ∈ targets, pid ∈ pids) : AimsAtRegistered pids es := by
  induction hcalls with
  | nil => exact Always.nil
  | @cons _ es pid answer _ ih =>
    rw [List.forall_mem_cons] at htargets
    change AimsAtRegistered pids ([.terminate pid answer] ++ es)
    -- a request to terminate takes nobody out of the registry
    refine AimsAtRegistered.append_iff.mpr ⟨Always.singleton_iff.mpr ?_, ih htargets.2⟩
    rintro _ ⟨rfl⟩
    exact htargets.1

theorem Registry.mem_of_mem_targets {r : Registry} {spared : Option Pid} {pid : Pid}
    (hpid : pid ∈ r.targets spared) : pid ∈ r.pids :=
  List.mem_of_mem_filter hpid

/-- Waits tear nothing down. -/
theorem WaitRow.isTeardown {blocks : Bool} {r r' : Registry} {es : List Event}
    (hrow : WaitRow blocks r es r') : ∀ e ∈ es, e.isTeardown = false :=
  fun e he => Event.isTeardown_of_isWaiting (hrow.isWaiting e he)

/-- A teardown is aimed at the registry that it begins with. -/
theorem TeardownCalls.aims {path : Path} {spared : Option Pid}
    {disconnectError : Option SpawnError} {r r' : Registry} {es : List Event}
    {report : Option TeardownReport}
    (hcalls : TeardownCalls path spared disconnectError r es report r') :
    AimsAtRegistered r.pids es := by
  -- the targets are read off the registry once, and nobody leaves it before all are asked
  cases hcalls with
  | goesOn hkill hreap =>
    refine AimsAtRegistered.append_iff.mpr ⟨?_, ?_⟩
    · exact hkill.aims fun _ => Registry.mem_of_mem_targets
    · exact .of_isTeardown hreap.waitRow.isTeardown
  | done hkill hreap answer =>
    refine AimsAtRegistered.append_iff.mpr ⟨AimsAtRegistered.append_iff.mpr ⟨?_, ?_⟩, ?_⟩
    · exact hkill.aims fun _ => Registry.mem_of_mem_targets
    · exact .of_isTeardown hreap.waitRow.isTeardown
    · exact Always.singleton_iff.mpr nofun

/-- The helper is registered by then, and is spared. -/
theorem ShutdownCalls.aims {path : Path} {disconnect : Command} {r r' : Registry}
    {es : List Event} {report : Option TeardownReport}
    (hcalls : ShutdownCalls path disconnect r es report r') : AimsAtRegistered r.pids es := by
  cases hcalls with
  | detach hspawn hteardown =>
    refine .prepend hspawn.isTeardown ?_
    rw [← hspawn.track]
    exact hteardown.aims

/-- The teardown is the last part of a run, whichever course that takes. -/
theorem RunCalls.aims {a : Attachment} {r r' : Registry} {es : List Event}
    {result : Option (Except RunError Unit)} (hcalls : RunCalls a r es result r') :
    AimsAtRegistered r.pids es := by
  -- all that goes before the teardown only moves the registry on
  cases hcalls with
  | notStarted hspawn => exact .of_isTeardown hspawn.isTeardown
  | starting hspawn hstart =>
    exact .of_isTeardown (List.forall_mem_append.mpr ⟨hspawn.isTeardown, hstart.isTeardown⟩)
  | aborted hspawn hstart habort =>
    refine .prepend (List.forall_mem_append.mpr ⟨hspawn.isTeardown, hstart.isTeardown⟩) ?_
    rw [registeredAfter_append, ← hspawn.track, ← hstart.track]
    -- the registry that the start has left is the one that is torn down
    exact habort.aims
  | supervising hspawn hstart hsupervise =>
    have hup := List.forall_mem_append.mpr ⟨hspawn.isTeardown, hstart.isTeardown⟩
    exact .of_isTeardown (List.forall_mem_append.mpr ⟨hup, hsupervise.isTeardown⟩)
  | supervised hspawn hstart hsupervise hshutdown =>
    have hup := List.forall_mem_append.mpr ⟨hspawn.isTeardown, hstart.isTeardown⟩
    refine .prepend (List.forall_mem_append.mpr ⟨hup, hsupervise.isTeardown⟩) ?_
    rw [registeredAfter_append, registeredAfter_append, ← hspawn.track, ← hstart.track,
      ← hsupervise.track]
    exact hshutdown.aims

namespace Session

/-! ### Sequences of activities -/

/-- Of the operations of a supervisor, only the sweep asks anybody to terminate. -/
theorem OperationCalls.aims {operation : Operation} {r r' : Registry} {es : List Event}
    (hcalls : OperationCalls operation r es r') : AimsAtRegistered r.pids es := by
  cases hcalls with
  | spawn hcalls => exact .of_isTeardown hcalls.isTeardown
  | wait hcalls => exact .of_isTeardown hcalls.isTeardown
  | kill hcalls => exact hcalls.aims fun _ => Registry.mem_of_mem_targets
  | reap hcalls => exact .of_isTeardown hcalls.waitRow.isTeardown

/-- What a supervisor can be used for: one of its operations, a teardown of either kind, or a whole
run. Each is followed for some rounds. -/
inductive Activity
  | operation (operation : Operation)
  | shutdown (endpoint : Endpoint) (disconnect : Command) (rounds : Nat)
  | abort (endpoint : Endpoint) (rounds : Nat)
  | run (a : Attachment) (rounds : Nat)

/-- The session after an activity. -/
def undertake (h : Host σ) (s : Session σ) : Activity → Session σ
  | .operation operation => s.perform h operation
  | .shutdown endpoint disconnect rounds => (s.followShutdown h endpoint disconnect rounds).session
  | .abort endpoint rounds => (s.followAbort h endpoint rounds).session
  | .run a rounds => (a.followRun h s rounds).session

/-- The session that a new supervisor comes to by a sequence of activities. -/
def afterActivities (h : Host σ) (host : σ) (activities : List Activity) : Session σ :=
  activities.foldl (undertake h) { host }

/-- Every activity keeps the registry in step with the trace and aims at registered children. -/
theorem undertake_leads (h : Host σ) (s : Session σ) (activity : Activity) :
    ∃ es, s.Leads es (s.undertake h activity) ∧
      (s.undertake h activity).registry.pids = registeredAfter s.registry.pids es ∧
      AimsAtRegistered s.registry.pids es := by
  cases activity with
  | operation operation =>
    obtain ⟨es, hleads, hcalls⟩ := perform_leads h s operation
    exact ⟨es, hleads, hcalls.track, hcalls.aims⟩
  | shutdown endpoint disconnect rounds =>
    obtain ⟨es, hleads, hcalls⟩ := followShutdown_follows h endpoint disconnect s rounds
    exact ⟨es, hleads, hcalls.track, hcalls.aims⟩
  | abort endpoint rounds =>
    obtain ⟨es, hleads, hcalls⟩ := followTeardown_follows h endpoint .running none none s rounds
    exact ⟨es, hleads, hcalls.track, hcalls.aims⟩
  | run a rounds =>
    obtain ⟨es, hleads, hcalls⟩ := a.followRun_follows h s rounds
    exact ⟨es, hleads, hcalls.track, hcalls.aims⟩

/-- The registry is the one that the trace gives, and it held everybody who was asked to
terminate. -/
structure Aimed (s : Session σ) : Prop where
  registered : s.registry.pids = registeredAfter [] s.trace
  aims : AimsAtRegistered [] s.trace

/-- A new supervisor has no children and has asked nobody. -/
theorem Aimed.new (host : σ) : Aimed ({ host } : Session σ) where
  registered := rfl
  aims := Always.nil

/-- The invariant is kept by every activity. -/
theorem Aimed.undertake {s : Session σ} (hs : Aimed s) (h : Host σ) (activity : Activity) :
    Aimed (s.undertake h activity) := by
  obtain ⟨es, hleads, htrack, haims⟩ := undertake_leads h s activity
  rw [hs.registered] at htrack haims
  constructor
  · rw [hleads.trace, registeredAfter_append]
    exact htrack
  · rw [hleads.trace]
    exact AimsAtRegistered.append_iff.mpr ⟨hs.aims, haims⟩

/-- Hence it holds after any sequence of activities; each adds its events at the end of the
trace. -/
theorem aimed_afterActivities (h : Host σ) (host : σ) (activities : List Activity) :
    Aimed (afterActivities h host activities) := by
  induction activities using List.reverseRecOn with
  | nil => exact Aimed.new host
  | append_singleton activities activity ih =>
    rw [afterActivities, List.foldl_append]
    exact ih.undertake h activity

end Session

/-! ### Numbers of processes -/

/-- Is this the number of a process? Zero and the upper half stand for groups of processes, once
the system takes them as signed numbers. -/
def Pid.IsProcess (pid : Pid) : Prop :=
  0 < pid.toNat ∧ pid.toNat < 2 ^ 31

/-- The number of a process is the same for the system, which takes it as signed. -/
theorem Pid.IsProcess.toInt_toSystem {pid : Pid} (hpid : pid.IsProcess) :
    pid.toSystem.toInt = pid.toNat := by
  have hsmall : 2 * pid.toBitVec.toNat < 2 ^ 32 := by
    have hlt : pid.toBitVec.toNat < 2 ^ 31 := hpid.2
    omega
  exact BitVec.toInt_eq_toNat_of_lt hsmall

/-- A positive number of the system keeps its value on the way back. -/
theorem Pid.toNat_ofSystem {number : SystemPid} (hnumber : 0 < number.toInt) :
    ((Pid.ofSystem number).toNat : Int) = number.toInt := by
  -- the signed and the unsigned reading of the same bits agree in the lower half
  have hcond : number.toInt = if 2 * (Pid.ofSystem number).toNat < 2 ^ 32
      then ((Pid.ofSystem number).toNat : Int) else (Pid.ofSystem number).toNat - 2 ^ 32 :=
    BitVec.toInt_eq_toNat_cond number.toBitVec
  have hlt := (Pid.ofSystem number).toNat_lt
  split at hcond <;> omega

/-- A number of the system that is positive stands for a process. -/
theorem Pid.isProcess_ofSystem {number : SystemPid} (hnumber : 0 < number.toInt) :
    (Pid.ofSystem number).IsProcess := by
  have hnat := Pid.toNat_ofSystem hnumber
  have hlt := number.toInt_lt
  constructor <;> omega

/-- No two numbers of the system become the same one. -/
theorem Pid.ofSystem_inj {number number' : SystemPid} :
    Pid.ofSystem number = Pid.ofSystem number' ↔ number = number' := by
  constructor
  · intro heq
    rw [← Pid.toSystem_ofSystem number, heq, Pid.toSystem_ofSystem]
  · exact congrArg Pid.ofSystem

namespace SystemCalls

variable {calls : SystemCalls σ} {number : SystemPid}

/-- The process that requests call `pid` is the one that the calls of a system call `number`. -/
structure KnownAs (calls : SystemCalls σ) (number : SystemPid) (pid : Pid) : Prop where
  /-- The number stands for one process, never for a group. -/
  positive : 0 < number.toInt
  isProcess : pid.IsProcess
  toNat_eq : pid.toNat = number.toInt
  /-- A request to terminate the process signals the number. -/
  terminate : ∀ st, calls.terminate pid st =
    (calls.kill number terminationSignal st).map Termination.ofKill id
  /-- A wait reports the process exactly where the system reports the number. -/
  waitAny : ∀ st, (calls.waitAny st).1 = .ok (.child pid) ↔
    ∃ ending, (calls.wait st).1 = .ok { number, ending }

/-- The conversion keeps the numbers apart, so a report about a number is a report about this very
number of the system. -/
theorem waitAny_eq_child_iff {st : σ} :
    (calls.waitAny st).1 = .ok (.child (.ofSystem number)) ↔
      ∃ ending, (calls.wait st).1 = .ok { number, ending } := by
  rw [waitAny]
  -- a wait that fails reports nobody, and one that is cut short neither
  rcases calls.wait st with ⟨e | ⟨reported, ending⟩, st'⟩
  · by_cases he : e = .interrupted <;> simp [Reaped.ofWait, he]
  · simp [Reaped.ofWait, Pid.ofSystem_inj]

/-- A positive number of the system stands for the process that it is converted to. -/
theorem knownAs_ofSystem (calls : SystemCalls σ) (hnumber : 0 < number.toInt) :
    calls.KnownAs number (.ofSystem number) where
  positive := hnumber
  isProcess := Pid.isProcess_ofSystem hnumber
  toNat_eq := Pid.toNat_ofSystem hnumber
  terminate _ := rfl
  waitAny _ := waitAny_eq_child_iff

/-- Every process has a number by which the calls know it. -/
theorem exists_knownAs {pid : Pid} (hpid : pid.IsProcess) :
    ∃ number, ∀ (τ : Type) (calls : SystemCalls τ), calls.KnownAs number pid := by
  refine ⟨pid.toSystem, fun τ calls => calls.knownAs_ofSystem ?_⟩
  rw [hpid.toInt_toSystem]
  exact Int.natCast_pos.mpr hpid.1

/-- A child is known by the number under which it was started. -/
theorem spawn_knownAs {c : Command} {st st' : σ} (hstart : calls.start c st = (.ok number, st'))
    (hnumber : 0 < number.toInt) :
    ∃ pid, calls.spawn c st = (.ok pid, st') ∧ calls.KnownAs number pid :=
  ⟨.ofSystem number, by rw [spawn, hstart], calls.knownAs_ofSystem hnumber⟩

end SystemCalls

/-! ### The law -/

/-- What holds of a process that is asked to terminate. `before` is what happened until then. -/
structure TerminationLaw (before : List Event) (pid : Pid) : Prop where
  /-- It stands in the registry. -/
  registered : pid ∈ registeredAfter [] before
  /-- It was started. The exits that were reported since then under its number are as many as there
  were registered children with the same number at the start, which were to exit before it. -/
  started : ∃ earlier c since, before = earlier ++ .spawn c (.ok pid) :: since ∧
    since.countP (Event.isExitOf pid) = (registeredAfter [] earlier).count pid
  /-- Wherever no child stood in the registry under its number, be it that the last one was taken
  out or that there never was one, a child was started under this number since. -/
  gone : ∀ earlier since, before = earlier ++ since → pid ∉ registeredAfter [] earlier →
    ∃ c, .spawn c (.ok pid) ∈ since
  /-- Where the system never gives a new child the number of a registered one, the process is one
  that was started and whose exit was not reported. -/
  unreported : FreshPids before → pid ∈ unreported before
  /-- Where the system starts children as processes, the calls of every system know this one by a
  number, which is positive and the same. -/
  known : (∀ c child, .spawn c (.ok child) ∈ before → child.IsProcess) →
    ∃ number, ∀ (τ : Type) (calls : SystemCalls τ), calls.KnownAs number pid

/-- All that the law says of a process follows from its place in the registry, for the registry is
made of starts and exits. -/
theorem TerminationLaw.of_registered {before : List Event} {pid : Pid}
    (hpid : pid ∈ registeredAfter [] before) : TerminationLaw before pid := by
  -- wherever there was no entry with the number, the earliest one of now was started since
  have hstart : ∀ earlier since, before = earlier ++ since → pid ∉ registeredAfter [] earlier →
      ∃ mid c rest, since = mid ++ .spawn c (.ok pid) :: rest ∧
        (registeredAfter (registeredAfter [] earlier) mid).count pid =
          0 + rest.countP (Event.isExitOf pid) := by
    rintro earlier since rfl hgone
    rw [registeredAfter_append, ← List.count_pos_iff] at hpid
    exact exists_spawn_of_lt_count (List.count_eq_zero.mpr hgone).le hpid
  obtain ⟨earlier, c, since, hbefore, hcount⟩ := hstart [] before rfl List.not_mem_nil
  rw [registeredAfter_nil, Nat.zero_add] at hcount
  constructor
  case registered => exact hpid
  case started => exact ⟨earlier, c, since, hbefore, hcount.symm⟩
  case gone =>
    intro earlier since heq hgone
    obtain ⟨mid, c, rest, rfl, -⟩ := hstart earlier since heq hgone
    exact ⟨c, by simp⟩
  case unreported =>
    intro hfresh
    rw [← (registeredAfter_eq_unreported hfresh).2]
    exact hpid
  case known =>
    intro hprocesses
    have hprocess : pid.IsProcess := hprocesses c pid (by simp [hbefore])
    exact SystemCalls.exists_knownAs hprocess

/-- **Only registered children are asked to terminate.** Whatever a supervisor was used for, against
every host, everybody who was asked to terminate was in the registry, which is the one that the
trace gives. On every system the child is known by the number under which it was started. -/
theorem termination_law (h : Host σ) (host : σ) (activities : List Session.Activity) {τ : Type}
    (calls : SystemCalls τ) :
    (Session.afterActivities h host activities).registry.pids =
        registeredAfter [] (Session.afterActivities h host activities).trace ∧
      (∀ before pid answer after, (Session.afterActivities h host activities).trace =
        before ++ .terminate pid answer :: after → TerminationLaw before pid) ∧
      ∀ c st number st', calls.start c st = (.ok number, st') → 0 < number.toInt →
        ∃ pid, calls.spawn c st = (.ok pid, st') ∧ calls.KnownAs number pid := by
  have haimed := Session.aimed_afterActivities h host activities
  refine ⟨haimed.registered, ?_, fun c st number st' => SystemCalls.spawn_knownAs⟩
  intro before pid answer after heq
  exact .of_registered (haimed.aims before _ after heq pid rfl)

/-- A system on which every child has the number 7 and exits at once. -/
def SystemCalls.sample : SystemCalls Unit where
  start _ st := (.ok 7, st)
  wait st := (.ok { number := 7, ending := .exited 0 }, st)
  kill _ _ st := (.error .noProcess, st)

theorem signalledRun_termination_law :
    (∃ before after,
      (Session.afterActivities .adversary signalledRun.host [.run .sample 4]).trace =
        before ++ .terminate 101 .delivered :: after ∧ TerminationLaw before 101) ∧
      ∃ pid, SystemCalls.sample.spawn default () = (.ok pid, ()) ∧
        SystemCalls.sample.KnownAs 7 pid := by
  obtain ⟨-, hlaw, hknown⟩ :=
    termination_law .adversary signalledRun.host [.run .sample 4] SystemCalls.sample
  have hasked : .terminate 101 .delivered ∈
      (Session.afterActivities .adversary signalledRun.host [.run .sample 4]).trace :=
    List.mem_of_getElem? (i := 8) rfl
  obtain ⟨before, after, heq⟩ := List.append_of_mem hasked
  exact ⟨⟨before, after, heq, hlaw before 101 .delivered after heq⟩,
    hknown default () 7 () rfl (by decide)⟩

end NbdAttach
