import NbdAttach.Attachment
import NbdAttach.Proofs.Supervisor.Calls

/-!
# The calls of a run

What a run asks of the host, in order, part by part: the step into the background, the start of the
client, the supervision, and the run as a whole, `RunCalls`. The relations are read like those of
the supervisor's operations, whose calls they are made of; `Attachment.followRun_follows` says that
every run keeps to them.
-/

namespace NbdAttach

variable {σ : Type}

/-! ### The relations -/

/-- The calls of the step into the background: a wait for the process that was started as the
server, and the step itself. -/
inductive LauncherCalls (a : Attachment) (server : Pid) :
    Registry → List Event → Option (Except RunError Unit) → Registry → Prop
  | goesOn {r r' : Registry} {es : List Event} (hwait : WaitCalls false r es none r') :
    LauncherCalls a server r es none r'
  | waitFailed {r r' : Registry} {es : List Event} {cause : IoError}
      (hwait : WaitCalls false r es (some (.error cause)) r') :
    LauncherCalls a server r es (some (.error (.wait cause))) r'
  | interrupted {r r' : Registry} {es : List Event}
      (hwait : WaitCalls false r es (some (.ok .interrupted)) r') :
    LauncherCalls a server r es (some (.error .setupInterrupted)) r'
  | noneLeft {r r' : Registry} {es : List Event}
      (hwait : WaitCalls false r es (some (.ok .noneLeft)) r') :
    LauncherCalls a server r es (some (.error (.unexpectedExit server))) r'
  | stranger {r r' : Registry} {es : List Event} {pid : Pid} (hpid : pid ≠ server)
      (hwait : WaitCalls false r es (some (.ok (.exited pid))) r') :
    LauncherCalls a server r es (some (.error (.unexpectedExit pid))) r'
  | exited {r r' : Registry} {es : List Event}
      (hwait : WaitCalls false r es (some (.ok (.exited server))) r')
      (answer : Except RunError Unit) :
    LauncherCalls a server r (es ++ [.background a.inv answer]) (some answer) r'

/-- The calls of the wait for the socket and of the start of the client. -/
inductive AttachCalls (a : Attachment) :
    Registry → List Event → Except RunError Pid → Registry → Prop
  | failed (r : Registry) (cause : IoError) :
    AttachCalls a r [.awaitSocket a.endpoint.path (.error cause)]
      (.error (.readiness a.endpoint.path cause)) r
  | timedOut (r : Registry) :
    AttachCalls a r [.awaitSocket a.endpoint.path (.ok false)]
      (.error (.readinessTimeout a.settings.serverExecutable
        a.settings.readiness.maxWait.toNat)) r
  | spawnFailed {r r' : Registry} {es : List Event} {error : SpawnError}
      (hspawn : SpawnCalls a.client r es (.error error) r') :
    AttachCalls a r (.awaitSocket a.endpoint.path (.ok true) :: es) (.error (.spawn error)) r'
  | attached {r r' : Registry} {es : List Event} {client : Pid}
      (hspawn : SpawnCalls a.client r es (.ok client) r') :
    AttachCalls a r (.awaitSocket a.endpoint.path (.ok true) :: es) (.ok client) r'

/-- The calls between the start of the server and the end of the start of the client. -/
inductive StartCalls (a : Attachment) (server : Pid) :
    Registry → List Event → Option (Except RunError Pid) → Registry → Prop
  | foreground {r r' : Registry} {es : List Event} {result : Except RunError Pid}
      (hmode : a.inv.mode.foreground = true) (hattach : AttachCalls a r es result r') :
    StartCalls a server r es (some result) r'
  | goesOn {r r' : Registry} {es : List Event} (hmode : a.inv.mode.foreground = false)
      (hlauncher : LauncherCalls a server r es none r') : StartCalls a server r es none r'
  | failed {r r' : Registry} {es : List Event} {e : RunError}
      (hmode : a.inv.mode.foreground = false)
      (hlauncher : LauncherCalls a server r es (some (.error e)) r') :
    StartCalls a server r es (some (.error e)) r'
  | background {r r₁ r' : Registry} {es es' : List Event} {result : Except RunError Pid}
      (hmode : a.inv.mode.foreground = false)
      (hlauncher : LauncherCalls a server r es (some (.ok ())) r₁)
      (hattach : AttachCalls a r₁ es' result r') :
    StartCalls a server r (es ++ es') (some result) r'

/-- The calls of the supervision. The exit of the expected client is the only one that does not end
it. -/
inductive SupervisionCalls (a : Attachment) (server : Pid) : Option Pid →
    Registry → List Event → Option (Except RunError Unit) → Registry → Prop
  | goesOn {client : Option Pid} {r r' : Registry} {es : List Event}
      (hwait : WaitCalls (!a.inv.mode.foreground) r es none r') :
    SupervisionCalls a server client r es none r'
  | waitFailed {client : Option Pid} {r r' : Registry} {es : List Event} {cause : IoError}
      (hwait : WaitCalls (!a.inv.mode.foreground) r es (some (.error cause)) r') :
    SupervisionCalls a server client r es (some (.error (.wait cause))) r'
  | interrupted {client : Option Pid} {r r' : Registry} {es : List Event}
      (hwait : WaitCalls (!a.inv.mode.foreground) r es (some (.ok .interrupted)) r') :
    SupervisionCalls a server client r es (some (.ok ())) r'
  | noneLeft {client : Option Pid} {r r' : Registry} {es : List Event}
      (hwait : WaitCalls (!a.inv.mode.foreground) r es (some (.ok .noneLeft)) r') :
    SupervisionCalls a server client r es (some (.ok ())) r'
  | clientExited {client : Pid} {r r₁ r' : Registry} {es es' : List Event}
      {result : Option (Except RunError Unit)}
      (hwait : WaitCalls (!a.inv.mode.foreground) r es (some (.ok (.exited client))) r₁)
      (hrest : SupervisionCalls a server none r₁ es' result r') :
    SupervisionCalls a server (some client) r (es ++ es') result r'
  | ended {client : Option Pid} {r r' : Registry} {es : List Event} {pid : Pid}
      (hclient : some pid ≠ client)
      (hwait : WaitCalls (!a.inv.mode.foreground) r es (some (.ok (.exited pid))) r') :
    SupervisionCalls a server client r es (some (.ok ())) r'

/-- The calls of a run. Every way out after the start of the server leads through a teardown. -/
inductive RunCalls (a : Attachment) :
    Registry → List Event → Option (Except RunError Unit) → Registry → Prop
  | notStarted {r r' : Registry} {es : List Event} {error : SpawnError}
      (hspawn : SpawnCalls a.server r es (.error error) r') :
    RunCalls a r es (some (.error (.spawn error))) r'
  | starting {r r₁ r' : Registry} {es es₁ : List Event} {server : Pid}
      (hspawn : SpawnCalls a.server r es (.ok server) r₁)
      (hstart : StartCalls a server r₁ es₁ none r') : RunCalls a r (es ++ es₁) none r'
  | aborted {r r₁ r₂ r' : Registry} {es es₁ es₂ : List Event} {server : Pid} {e : RunError}
      {report : Option TeardownReport} (hspawn : SpawnCalls a.server r es (.ok server) r₁)
      (hstart : StartCalls a server r₁ es₁ (some (.error e)) r₂)
      (habort : TeardownCalls a.endpoint.path none none r₂ es₂ report r') :
    RunCalls a r (es ++ es₁ ++ es₂) (report.map fun _ => .error e) r'
  | supervising {r r₁ r₂ r' : Registry} {es es₁ es₂ : List Event} {server client : Pid}
      (hspawn : SpawnCalls a.server r es (.ok server) r₁)
      (hstart : StartCalls a server r₁ es₁ (some (.ok client)) r₂)
      (hsupervise : SupervisionCalls a server (some client) r₂ es₂ none r') :
    RunCalls a r (es ++ es₁ ++ es₂) none r'
  | supervised {r r₁ r₂ r₃ r' : Registry} {es es₁ es₂ es₃ : List Event} {server client : Pid}
      {result : Except RunError Unit} {report : Option TeardownReport}
      (hspawn : SpawnCalls a.server r es (.ok server) r₁)
      (hstart : StartCalls a server r₁ es₁ (some (.ok client)) r₂)
      (hsupervise : SupervisionCalls a server (some client) r₂ es₂ (some result) r₃)
      (hshutdown : ShutdownCalls a.endpoint.path a.disconnect r₃ es₃ report r') :
    RunCalls a r (es ++ es₁ ++ es₂ ++ es₃) (report.map (Attachment.verdict result)) r'

/-! ### A run keeps to the relations -/

namespace Attachment

open Session

variable {h : Host σ}

/-- The step into the background keeps to its relation. Of the outcomes of the wait only the exit of
the process that was started as the server leads to the step itself. -/
theorem followLauncher_follows (a : Attachment) (h : Host σ) (server : Pid) (s : Session σ)
    (rounds : Nat) :
    s.Follows (LauncherCalls a server) (a.followLauncher h server s rounds).result?
      (a.followLauncher h server s rounds).session := by
  obtain ⟨es, hleads, hwait⟩ := followWait_follows h false s rounds
  rw [followLauncher]
  rcases hfollow : s.followWait h false rounds with ⟨_ | cause | (pid | _ | _), s₁⟩ <;>
    rw [hfollow] at hleads hwait
  · exact ⟨es, hleads, .goesOn hwait⟩
  · exact ⟨es, hleads, .waitFailed hwait⟩
  · by_cases hpid : pid = server
    · subst hpid
      rcases hbackground : s₁.background h a.inv with ⟨answer, s₂⟩
      have hregistry : s₂.registry = s₁.registry := registry_of_ask hbackground
      simp only [if_true, hbackground]
      refine ⟨_, hleads.trans (leads_of_ask hbackground), ?_⟩
      rw [hregistry]
      exact .exited hwait answer
    · simp only [hpid, if_false]
      -- some other child has exited, and the run gives up
      exact ⟨es, hleads, .stranger hpid hwait⟩
  · exact ⟨es, hleads, .interrupted hwait⟩
  · exact ⟨es, hleads, .noneLeft hwait⟩

/-- The start of the client keeps to its relation: it is tried only when the socket was found, and
its notices ask the host nothing. -/
theorem follows_of_attach {a : Attachment} {s s' : Session σ} {result : Except RunError Pid}
    (hattach : a.attach h s = (result, s')) : s.Follows (AttachCalls a) result s' := by
  rw [attach] at hattach
  rcases hawait : s.awaitSocket h a.endpoint.path a.settings.readiness with ⟨answer, s₁⟩
  have hleads : s.Leads [.awaitSocket a.endpoint.path answer] s₁ := leads_of_ask hawait
  have hregistry : s₁.registry = s.registry := registry_of_ask hawait
  simp only [hawait] at hattach
  rcases answer with cause | (_ | _)
  · -- the look for the socket itself has failed
    obtain ⟨rfl, rfl⟩ := Prod.mk.inj hattach
    exact ⟨_, hleads, by rw [hregistry]; exact .failed _ cause⟩
  · -- the socket did not appear in time
    obtain ⟨rfl, rfl⟩ := Prod.mk.inj hattach
    exact ⟨_, hleads, by rw [hregistry]; exact .timedOut _⟩
  · -- the socket is there, and the client is started next
    rcases hspawn : ((s₁.tell (.appeared a.endpoint.path)).tell (.ready a.endpoint.path)).spawn h
      a.client with ⟨answer, s₂⟩
    simp only [hspawn] at hattach
    obtain ⟨es, hleads₂, hcalls⟩ := follows_of_spawn hspawn
    rw [registry_tell, registry_tell, hregistry] at hcalls
    have hleads₃ := ((hleads.tell _).tell _).trans hleads₂
    cases answer with
    | error error =>
      obtain ⟨rfl, rfl⟩ := Prod.mk.inj hattach
      exact ⟨_, hleads₃, .spawnFailed hcalls⟩
    | ok client =>
      obtain ⟨rfl, rfl⟩ := Prod.mk.inj hattach
      exact ⟨_, hleads₃, .attached hcalls⟩

/-- The start as a whole makes its own calls, with the step into the background in front where the
run goes there. -/
theorem followStart_follows (a : Attachment) (h : Host σ) (server : Pid) (s : Session σ)
    (rounds : Nat) :
    s.Follows (StartCalls a server) (a.followStart h server s rounds).result?
      (a.followStart h server s rounds).session := by
  rw [followStart]
  cases hmode : a.inv.mode.foreground with
  | true =>
    simp only [if_true]
    rcases hattach : a.attach h s with ⟨result, s₁⟩
    obtain ⟨es, hleads, hcalls⟩ := follows_of_attach hattach
    exact ⟨es, hleads, .foreground hmode hcalls⟩
  | false =>
    simp only [Bool.false_eq_true, if_false]
    obtain ⟨es, hleads, hlauncher⟩ := followLauncher_follows a h server s rounds
    rcases hfollow : a.followLauncher h server s rounds with ⟨_ | e | _, s₁⟩ <;>
      rw [hfollow] at hleads hlauncher
    · exact ⟨es, hleads, .goesOn hmode hlauncher⟩
    · exact ⟨es, hleads, .failed hmode hlauncher⟩
    · -- in the background by now
      rcases hattach : a.attach h s₁ with ⟨result, s₂⟩
      obtain ⟨es', hleads', hcalls⟩ := follows_of_attach hattach
      simp only [hattach]
      exact ⟨_, hleads.trans hleads', .background hmode hlauncher hcalls⟩

/-- And so does the supervision. The induction is on the rounds, of which each pass takes one; the
session is arbitrary, and so is the client, who is expected in the first pass and no more after its
exit. -/
theorem followSupervision_follows (a : Attachment) (h : Host σ) (server : Pid)
    (client : Option Pid) (s : Session σ) (rounds : Nat) :
    s.Follows (SupervisionCalls a server client)
      (a.followSupervision h server client s rounds).result?
      (a.followSupervision h server client s rounds).session := by
  induction rounds generalizing client s with
  | zero => exact ⟨[], .refl s, .goesOn (.goesOn _)⟩
  | succ rounds ih =>
    obtain ⟨es, hleads, hwait⟩ :=
      followWait_follows h (!a.inv.mode.foreground) s (rounds + 1)
    rw [followSupervision]
    rcases hfollow : s.followWait h (!a.inv.mode.foreground) (rounds + 1) with
      ⟨_ | cause | (pid | _ | _), s₁⟩ <;> rw [hfollow] at hleads hwait
    · -- the wait of this pass has not returned yet
      exact ⟨es, hleads, .goesOn hwait⟩
    · exact ⟨es, hleads, .waitFailed hwait⟩
    · -- the exit of the client is expected once; then there is no client to expect any more
      by_cases hclient : some pid = client
      · subst hclient
        simp only [if_true]
        obtain ⟨es', hleads', hrest⟩ := ih none
          (s₁.tell (.memberExited a.settings.clientExecutable pid))
        exact ⟨_, (hleads.tell _).trans hleads', .clientExited hwait hrest⟩
      · simp only [hclient, if_false]
        -- which child it was makes a difference to the log alone
        split
        · exact ⟨es, hleads.tell _, .ended hclient hwait⟩
        · exact ⟨es, hleads.tell _, .ended hclient hwait⟩
    · exact ⟨es, hleads.tell _, .interrupted hwait⟩
    · exact ⟨es, hleads, .noneLeft hwait⟩

/-- Every run keeps to its relation, against every host and for every number of rounds. The parts
come in order, and each begins with the registry that the one before it has left. -/
theorem followRun_follows (a : Attachment) (h : Host σ) (s : Session σ) (rounds : Nat) :
    s.Follows (RunCalls a) (a.followRun h s rounds).result? (a.followRun h s rounds).session := by
  rw [followRun]
  rcases hspawn : s.spawn h a.server with ⟨error | server, s₁⟩
  · -- without a server there is nothing to tear down
    obtain ⟨es, hleads, hcalls⟩ := follows_of_spawn hspawn
    exact ⟨es, hleads, .notStarted hcalls⟩
  obtain ⟨es, hleads, hcalls⟩ := follows_of_spawn hspawn
  obtain ⟨es₁, hleads₁, hstart⟩ := followStart_follows a h server s₁ rounds
  rcases hfollow : a.followStart h server s₁ rounds with ⟨_ | e | client, s₂⟩ <;>
    rw [hfollow] at hleads₁ hstart <;> simp only [hfollow]
  · exact ⟨_, hleads.trans hleads₁, .starting hcalls hstart⟩
  · -- the start has failed
    obtain ⟨es₂, hleads₂, habort⟩ := followTeardown_follows h a.endpoint .running none none
      (s₂.tell (.aborting e)) rounds
    rw [← followAbort] at hleads₂ habort
    rcases hreport : (s₂.tell (.aborting e)).followAbort h a.endpoint rounds with ⟨_ | report, s₃⟩
      <;> rw [hreport] at hleads₂ habort
    · exact ⟨_, ((hleads.trans hleads₁).tell _).trans hleads₂, .aborted hcalls hstart habort⟩
    · exact ⟨_, ((hleads.trans hleads₁).tell _).trans hleads₂, .aborted hcalls hstart habort⟩
  · -- the client is up
    obtain ⟨es₂, hleads₂, hsupervise⟩ :=
      followSupervision_follows a h server (some client) s₂ rounds
    rcases hfollow : a.followSupervision h server (some client) s₂ rounds with ⟨_ | result, s₃⟩ <;>
      rw [hfollow] at hleads₂ hsupervise <;> simp only
    · exact ⟨_, (hleads.trans hleads₁).trans hleads₂, .supervising hcalls hstart hsupervise⟩
    · obtain ⟨es₃, hleads₃, hshutdown⟩ :=
        followShutdown_follows h a.endpoint a.disconnect s₃ rounds
      rcases hreport : s₃.followShutdown h a.endpoint a.disconnect rounds with ⟨_ | report, s₄⟩ <;>
        rw [hreport] at hleads₃ hshutdown
      · exact ⟨_, ((hleads.trans hleads₁).trans hleads₂).trans hleads₃,
          .supervised hcalls hstart hsupervise hshutdown⟩
      · -- the last notice leaves the registry as it is
        replace hshutdown : ShutdownCalls a.endpoint.path a.disconnect s₃.registry es₃
            (some report) (s₄.tell (.disconnected a.inv.bucket a.inv.device)).registry := hshutdown
        exact ⟨_, (((hleads.trans hleads₁).trans hleads₂).trans hleads₃).tell _,
          .supervised hcalls hstart hsupervise hshutdown⟩

end Attachment

/-! ### No teardown before its time -/

/-- While the run waits for the process that was started as the server, nothing is torn down. -/
theorem LauncherCalls.isTeardown {a : Attachment} {server : Pid} {r r' : Registry}
    {es : List Event} {result : Option (Except RunError Unit)}
    (hcalls : LauncherCalls a server r es result r') : ∀ e ∈ es, e.isTeardown = false := by
  cases hcalls with
  | goesOn hwait => exact hwait.isTeardown
  | waitFailed hwait => exact hwait.isTeardown
  | interrupted hwait => exact hwait.isTeardown
  | noneLeft hwait => exact hwait.isTeardown
  | stranger _ hwait => exact hwait.isTeardown
  | exited hwait answer =>
    intro e he
    rcases List.mem_append.mp he with hmem | hmem
    · exact hwait.isTeardown e hmem
    · obtain rfl := List.mem_singleton.mp hmem
      rfl

/-- A look for the socket and a start tear nothing down. -/
theorem AttachCalls.isTeardown {a : Attachment} {r r' : Registry} {es : List Event}
    {result : Except RunError Pid} (hcalls : AttachCalls a r es result r') :
    ∀ e ∈ es, e.isTeardown = false := by
  cases hcalls with
  | failed => simp [Event.isTeardown, Event.isTerminate, Event.isRemoval]
  | timedOut => simp [Event.isTeardown, Event.isTerminate, Event.isRemoval]
  | spawnFailed hspawn =>
    simpa [Event.isTeardown, Event.isTerminate, Event.isRemoval] using hspawn.isTeardown
  | attached hspawn =>
    simpa [Event.isTeardown, Event.isTerminate, Event.isRemoval] using hspawn.isTeardown

/-- Hence nothing is torn down before the client is there. -/
theorem StartCalls.isTeardown {a : Attachment} {server : Pid} {r r' : Registry} {es : List Event}
    {result : Option (Except RunError Pid)} (hcalls : StartCalls a server r es result r') :
    ∀ e ∈ es, e.isTeardown = false := by
  cases hcalls with
  | foreground _ hattach => exact hattach.isTeardown
  | goesOn _ hlauncher => exact hlauncher.isTeardown
  | failed _ hlauncher => exact hlauncher.isTeardown
  | background _ hlauncher hattach =>
    intro e he
    exact (List.mem_append.mp he).elim (hlauncher.isTeardown e) (hattach.isTeardown e)

/-- A supervision is a row of waits. They block in the background, where a run without children goes
on until somebody ends it. -/
theorem SupervisionCalls.waitRow {a : Attachment} {server : Pid} {client : Option Pid}
    {r r' : Registry} {es : List Event} {result : Option (Except RunError Unit)}
    (hcalls : SupervisionCalls a server client r es result r') :
    WaitRow (!a.inv.mode.foreground) r es r' := by
  induction hcalls with
  | goesOn hwait => exact .last hwait
  | waitFailed hwait => exact .last hwait
  | interrupted hwait => exact .last hwait
  | noneLeft hwait => exact .last hwait
  | clientExited hwait _ ih => exact .more hwait ih
  | ended _ hwait => exact .last hwait

/-- A supervision makes no calls but those of waits. -/
theorem SupervisionCalls.isWaiting {a : Attachment} {server : Pid} {client : Option Pid}
    {r r' : Registry} {es : List Event} {result : Option (Except RunError Unit)}
    (hcalls : SupervisionCalls a server client r es result r') :
    ∀ e ∈ es, e.isWaiting = true :=
  hcalls.waitRow.isWaiting

/-- A supervision tears nothing down. -/
theorem SupervisionCalls.isTeardown {a : Attachment} {server : Pid} {client : Option Pid}
    {r r' : Registry} {es : List Event} {result : Option (Except RunError Unit)}
    (hcalls : SupervisionCalls a server client r es result r') :
    ∀ e ∈ es, e.isTeardown = false :=
  fun e he => Event.isTeardown_of_isWaiting (hcalls.isWaiting e he)

/-- A supervision brings nothing up. -/
theorem SupervisionCalls.isEnding {a : Attachment} {server : Pid} {client : Option Pid}
    {r r' : Registry} {es : List Event} {result : Option (Except RunError Unit)}
    (hcalls : SupervisionCalls a server client r es result r') :
    ∀ e ∈ es, e.isEnding = true :=
  fun e he => Event.isEnding_of_isWaiting (hcalls.isWaiting e he)

/-! ### The registry is the one of the trace -/

/-- The step into the background itself changes no registry, so what its wait has left is what is
there. -/
theorem LauncherCalls.track {a : Attachment} {server : Pid} {r r' : Registry} {es : List Event}
    {result : Option (Except RunError Unit)} (hcalls : LauncherCalls a server r es result r') :
    r'.pids = registeredAfter r.pids es := by
  cases hcalls with
  | goesOn hwait => exact hwait.track
  | waitFailed hwait => exact hwait.track
  | interrupted hwait => exact hwait.track
  | noneLeft hwait => exact hwait.track
  | stranger _ hwait => exact hwait.track
  | exited hwait answer =>
    rw [registeredAfter_append, ← hwait.track]
    rfl

/-- Only a client that was started is added. -/
theorem AttachCalls.track {a : Attachment} {r r' : Registry} {es : List Event}
    {result : Except RunError Pid} (hcalls : AttachCalls a r es result r') :
    r'.pids = registeredAfter r.pids es := by
  cases hcalls with
  | failed => rfl
  | timedOut => rfl
  | spawnFailed hspawn => exact hspawn.track
  | attached hspawn => exact hspawn.track

/-- The two parts of a start in the background hand the registry on. -/
theorem StartCalls.track {a : Attachment} {server : Pid} {r r' : Registry} {es : List Event}
    {result : Option (Except RunError Pid)} (hcalls : StartCalls a server r es result r') :
    r'.pids = registeredAfter r.pids es := by
  cases hcalls with
  | foreground _ hattach => exact hattach.track
  | goesOn _ hlauncher => exact hlauncher.track
  | failed _ hlauncher => exact hlauncher.track
  | background _ hlauncher hattach =>
    rw [registeredAfter_append, ← hlauncher.track, hattach.track]

/-- As for any row of waits. -/
theorem SupervisionCalls.track {a : Attachment} {server : Pid} {client : Option Pid}
    {r r' : Registry} {es : List Event} {result : Option (Except RunError Unit)}
    (hcalls : SupervisionCalls a server client r es result r') :
    r'.pids = registeredAfter r.pids es :=
  hcalls.waitRow.track

/-- The registry that a run has come to can be read off its events. -/
theorem RunCalls.track {a : Attachment} {r r' : Registry} {es : List Event}
    {result : Option (Except RunError Unit)} (hcalls : RunCalls a r es result r') :
    r'.pids = registeredAfter r.pids es := by
  cases hcalls with
  | notStarted hspawn => exact hspawn.track
  | starting hspawn hstart =>
    rw [registeredAfter_append, ← hspawn.track, hstart.track]
  | aborted hspawn hstart habort =>
    rw [registeredAfter_append, registeredAfter_append, ← hspawn.track, ← hstart.track,
      habort.track]
  | supervising hspawn hstart hsupervise =>
    rw [registeredAfter_append, registeredAfter_append, ← hspawn.track, ← hstart.track,
      hsupervise.track]
  | supervised hspawn hstart hsupervise hshutdown =>
    -- server and client, then who has exited, then the helper and who was reaped
    rw [registeredAfter_append, registeredAfter_append, registeredAfter_append, ← hspawn.track,
      ← hstart.track, ← hsupervise.track, hshutdown.track]

end NbdAttach
