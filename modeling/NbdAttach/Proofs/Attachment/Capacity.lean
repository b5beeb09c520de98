import NbdAttach.Proofs.Attachment.StartUp

/-!
# A run never runs out of room

A run that begins with an empty registry has at most three children at a time, so a start never
finds the registry full. The same count of children closes the branches of the run that are there
for what cannot happen: while the server is launched there is only one child that can exit, and
during the supervision there are only the watched ones, of which one is always left in the
foreground.

* `Attachment.Tries` says where a run tries to start a child; `Attachment.Tries.hasRoom` is about
  the registry there.
* `Attachment.Passes` leads from one pass of the supervision's loop to a later one, and
  `Attachment.Passes.watched` carries the watched children along.
* `RunCalls.unreached` follows an unexpected exit, or a full registry, back to where it can come
  from. Of all that a run does itself nothing is left; only the step into the background, which may
  fail with any error, can bring it in.

Nothing is assumed about the numbers of processes: a child may have the number of a registered one.
-/

namespace NbdAttach

variable {σ : Type}

namespace Attachment

open Session

variable {h : Host σ} {rounds : Nat} {s : Session σ}

/-! ### The starts of a run -/

/-- Where the client's turn comes: at once in the foreground, and in the background after the step
there. -/
def Launched (a : Attachment) (h : Host σ) (server : Pid) (rounds : Nat) (s s' : Session σ) :
    Prop :=
  if a.inv.mode.foreground then s' = s
  else a.followLauncher h server s rounds = ⟨some (.ok ()), s'⟩

/-- The run from `s` tries to start the command, and does so from the given session. -/
inductive Tries (a : Attachment) (h : Host σ) (rounds : Nat) (s : Session σ) :
    Command → Session σ → Prop
  | server : Tries a h rounds s a.server s
  | client {server : Pid} {s₁ s₂ s₃ : Session σ} (hspawn : s.spawn h a.server = (.ok server, s₁))
      (hlaunched : a.Launched h server rounds s₁ s₂)
      (hready : s₂.awaitSocket h a.endpoint.path a.settings.readiness = (.ok true, s₃)) :
    Tries a h rounds s a.client
      ((s₃.tell (.appeared a.endpoint.path)).tell (.ready a.endpoint.path))
  | disconnect {server client : Pid} {s₁ s₂ s₃ : Session σ} {result : Except RunError Unit}
      (hspawn : s.spawn h a.server = (.ok server, s₁))
      (hstart : a.followStart h server s₁ rounds = ⟨some (.ok client), s₂⟩)
      (hfollow : a.followSupervision h server (some client) s₂ rounds = ⟨some result, s₃⟩) :
    Tries a h rounds s a.disconnect (s₃.advance .running .disconnecting)

/-- After the start of the server it is the only child. -/
theorem registry_of_server {a : Attachment} {server : Pid} {s₁ : Session σ}
    (hs : s.registry = {}) (hspawn : s.spawn h a.server = (.ok server, s₁)) :
    s₁.registry.pids = [server] := by
  obtain ⟨es, -, hcalls⟩ := follows_of_spawn hspawn
  obtain ⟨-, hregistry⟩ := hcalls.of_started
  rw [hregistry, hs]
  rfl

/-- Before the client there is at most the server. -/
theorem Launched.length_le {a : Attachment} {server : Pid} {s₁ s₂ : Session σ}
    (hregistry : s₁.registry.pids = [server]) (hlaunched : a.Launched h server rounds s₁ s₂) :
    s₂.registry.pids.length ≤ 1 := by
  rw [Launched] at hlaunched
  split at hlaunched
  · rw [hlaunched, hregistry]
    rfl
  · -- the server's process has exited on the way into the background
    obtain ⟨es, -, hcalls⟩ := a.followLauncher_follows h server s₁ rounds
    rw [hlaunched] at hcalls
    rw [hcalls.of_ok, ← List.length_singleton (a := server), ← hregistry]
    exact List.length_erase_le

/-- No try finds the registry full: there is nobody before the server, at most the server before the
client, and at most the two before the helper. -/
theorem Tries.hasRoom {a : Attachment} {c : Command} {s₁ : Session σ} (hs : s.registry = {})
    (htries : a.Tries h rounds s c s₁) : s₁.registry.pids.length < registryCapacity := by
  cases htries with
  | server =>
    rw [hs]
    decide
  | client hspawn hlaunched hready =>
    have hlength := hlaunched.length_le (registry_of_server hs hspawn)
    rw [registry_tell, registry_tell, registry_of_ask hready]
    exact hlength.trans_lt (by decide)
  | disconnect hspawn hstart hfollow =>
    obtain ⟨started, during, hsupervises⟩ := exists_supervises hspawn hstart hfollow
    have hroom := hsupervises.hasRoom hs
    exact hroom

/-! ### The passes of the supervision -/

/-- The supervision comes from one pass of its loop to a later one. `client` and `client'` are the
client that is expected in the passes, and `rounds` and `rounds'` what is left of the rounds. -/
inductive Passes (a : Attachment) (h : Host σ) (server : Pid) :
    Option Pid → Session σ → Nat → Option Pid → Session σ → Nat → Prop
  | here (client : Option Pid) (s : Session σ) (rounds : Nat) :
    Passes a h server client s rounds client s rounds
  | next {client : Pid} {client' : Option Pid} {s s₁ s' : Session σ} {rounds rounds' : Nat}
      (hwait : s.followWait h (!a.inv.mode.foreground) (rounds + 1) =
        ⟨some (.ok (.exited client)), s₁⟩)
      (hrest : Passes a h server none
        (s₁.tell (.memberExited a.settings.clientExecutable client)) rounds client' s' rounds') :
    Passes a h server (some client) s (rounds + 1) client' s' rounds'

/-- What is left of a supervision is the supervision from the later pass. -/
theorem Passes.followSupervision_eq {a : Attachment} {server : Pid} {client client' : Option Pid}
    {s s' : Session σ} {rounds rounds' : Nat}
    (hpasses : a.Passes h server client s rounds client' s' rounds') :
    a.followSupervision h server client s rounds =
      a.followSupervision h server client' s' rounds' := by
  induction hpasses with
  | here => rfl
  | next hwait _ ih =>
    rw [followSupervision, hwait, ← ih]
    exact if_pos rfl

/-- In every pass the registered children are the watched ones. -/
theorem Passes.watched {a : Attachment} {server : Pid} {client client' : Option Pid}
    {s s' : Session σ} {rounds rounds' : Nat}
    (hpasses : a.Passes h server client s rounds client' s' rounds')
    (hwatched : s.registry.pids = a.watched server client) :
    s'.registry.pids = a.watched server client' := by
  induction hpasses with
  | here => exact hwatched
  | @next client client' s s₁ s' rounds rounds' hwait _ ih =>
    -- the wait between two passes has found the expected client
    obtain ⟨es, -, hcalls⟩ := followWait_follows h (!a.inv.mode.foreground) s (rounds + 1)
    rw [hwait] at hcalls
    exact ih (hcalls.watched_of_client hwatched)

end Attachment

/-! ### Branches that are never taken -/

/-- While the server is the only child, the wait for its process finds its exit or a request. -/
theorem WaitCalls.of_singleton {server : Pid} {r r' : Registry} {es : List Event}
    {outcome : WaitOutcome} (hr : r.pids = [server])
    (hcalls : WaitCalls false r es (some (.ok outcome)) r') :
    outcome = .interrupted ∨ outcome = .exited server := by
  cases outcome with
  | interrupted => exact Or.inl rfl
  | noneLeft =>
    rw [hcalls.of_noneLeft.1] at hr
    cases hr
  | exited pid =>
    obtain ⟨hpid, -⟩ := hcalls.of_exited
    rw [hr, List.mem_singleton] at hpid
    exact Or.inr (congrArg WaitOutcome.exited hpid)

/-- The errors for which a run has a branch that it never takes: the exit of a child that it did not
expect, and a registry without room. -/
def RunError.isUnreached : RunError → Bool
  | .unexpectedExit _ | .spawn (.registryFull _) => true
  | _ => false

/-- The wait for the server's process never fails with such an error, so only the step into the
background is left to bring it in. -/
theorem LauncherCalls.unreached {a : Attachment} {server : Pid} {r r' : Registry}
    {es : List Event} {result : Option (Except RunError Unit)} {e : RunError}
    (hr : r.pids = [server]) (hcalls : LauncherCalls a server r es result r')
    (hresult : result = some (.error e)) (he : e.isUnreached = true) :
    .background a.inv (.error e) ∈ es := by
  cases hcalls with
  | goesOn _ => cases hresult
  | waitFailed _ =>
    cases hresult
    cases he
  | interrupted _ =>
    cases hresult
    cases he
  | noneLeft hwait =>
    -- the server is registered, so there is somebody left
    rcases hwait.of_singleton hr with hother | hother <;> cases hother
  | stranger hpid hwait =>
    -- nobody but the server is registered
    rcases hwait.of_singleton hr with hother | hserver
    · cases hother
    · cases hserver
      exact absurd rfl hpid
  | exited _ answer =>
    obtain rfl := Option.some.inj hresult
    exact List.mem_append_right _ (List.mem_singleton_self _)

/-- With room in the registry, a start of the client fails for reasons of the host alone. -/
theorem AttachCalls.ne_unreached {a : Attachment} {r r' : Registry} {es : List Event}
    {result : Except RunError Pid} {e : RunError} (hroom : r.pids.length < registryCapacity)
    (hcalls : AttachCalls a r es result r') (he : e.isUnreached = true) : result ≠ .error e := by
  rintro rfl
  cases hcalls with
  | failed => cases he
  | timedOut => cases he
  | spawnFailed hspawn =>
    rcases hspawn.of_room hroom with ⟨_, -, herror, -⟩ | ⟨_, -, herror, -⟩
    · cases herror
      cases he
    · cases herror

/-- The same for a start as a whole: neither its wait nor its client can fail so. -/
theorem StartCalls.unreached {a : Attachment} {server : Pid} {r r' : Registry} {es : List Event}
    {result : Option (Except RunError Pid)} {e : RunError} (hr : r.pids = [server])
    (hcalls : StartCalls a server r es result r') (hresult : result = some (.error e))
    (he : e.isUnreached = true) : .background a.inv (.error e) ∈ es := by
  have hlength : r.pids.length ≤ 1 := by rw [hr]; rfl
  cases hcalls with
  | foreground _ hattach =>
    exact absurd (Option.some.inj hresult)
      (hattach.ne_unreached (hlength.trans_lt (by decide)) he)
  | goesOn _ _ => cases hresult
  | failed _ hlauncher =>
    cases hresult
    exact hlauncher.unreached hr rfl he
  | @background r₁ _ _ _ _ _ hlauncher hattach =>
    -- the server's process has left the registry, so there is as much room as before
    have hlength₁ : r₁.pids.length ≤ 1 := by
      rw [hlauncher.of_ok]
      exact List.length_erase_le.trans hlength
    exact absurd (Option.some.inj hresult)
      (hattach.ne_unreached (hlength₁.trans_lt (by decide)) he)

/-- A supervision fails only where a wait does. -/
theorem SupervisionCalls.of_error {a : Attachment} {server : Pid} {client : Option Pid}
    {r r' : Registry} {es : List Event} {result? : Option (Except RunError Unit)} {e : RunError}
    (hcalls : SupervisionCalls a server client r es result? r')
    (hresult : result? = some (.error e)) : ∃ cause, e = .wait cause := by
  induction hcalls with
  | waitFailed _ =>
    cases hresult
    exact ⟨_, rfl⟩
  | clientExited _ _ ih => exact ih hresult
  | _ => cases hresult

/-- With room in the registry, the report of a full teardown does not complain of it. -/
theorem ShutdownCalls.ne_registryFull {path : Path} {disconnect : Command} {r r' : Registry}
    {es : List Event} {report : TeardownReport} (hroom : r.pids.length < registryCapacity)
    (hcalls : ShutdownCalls path disconnect r es (some report) r') (capacity : Nat) :
    report.disconnectError ≠ some (.registryFull capacity) := by
  cases hcalls with
  | detach hspawn hteardown =>
    -- the report has the error with which the start of the helper has failed
    cases hteardown
    rcases hspawn.of_room hroom with ⟨_, -, rfl, -⟩ | ⟨_, -, rfl, -⟩ <;> nofun

/-- A run that begins with an empty registry never comes to such an error by itself. -/
theorem RunCalls.unreached {a : Attachment} {r r' : Registry} {es : List Event}
    {result : Option (Except RunError Unit)} {e : RunError} (hr : r = {})
    (hcalls : RunCalls a r es result r') (hresult : result = some (.error e))
    (he : e.isUnreached = true) : .background a.inv (.error e) ∈ es := by
  have hserver : ∀ server, (r.insert server).pids = [server] := by
    intro server
    rw [hr]
    rfl
  -- a start-up that fails reports its own error, whatever the teardown finds
  cases hcalls with
  | notStarted hspawn =>
    cases hresult
    rw [hr] at hspawn
    rcases hspawn.of_room (by decide) with ⟨_, -, herror, -⟩ | ⟨_, -, herror, -⟩
    · cases herror
      cases he
    · cases herror
  | starting _ _ => cases hresult
  | @aborted _ _ _ _ _ _ _ _ report hspawn hstart _ =>
    cases report with
    | none => cases hresult
    | some report =>
      cases hresult
      obtain ⟨-, rfl⟩ := hspawn.of_started
      have hmem := hstart.unreached (hserver _) rfl he
      exact List.mem_append_left _ (List.mem_append_right _ hmem)
  | supervising _ _ _ => cases hresult
  | @supervised _ _ _ _ _ _ _ _ _ _ result report hspawn hstart hsupervise hshutdown =>
    rcases report with _ | ⟨disconnectError, reapError⟩
    · cases hresult
    obtain ⟨-, rfl⟩ := hspawn.of_started
    have hroom := hsupervise.hasRoom (hstart.watched (hserver _))
    -- a failed supervision decides the verdict, then a helper that was not started, then the reap
    cases result with
    | error e' =>
      obtain ⟨cause, rfl⟩ := hsupervise.of_error rfl
      cases hresult
      cases he
    | ok _ =>
      cases disconnectError with
      | some error =>
        cases hresult
        cases error with
        | registryFull capacity => exact absurd rfl (hshutdown.ne_registryFull hroom capacity)
        | launch _ _ => cases he
      | none =>
        cases reapError with
        | some cause =>
          cases hresult
          cases he
        | none => cases hresult

/-! ### The law -/

/-- What holds of a run, or of as much of it as there is after some rounds, with regard to the
children that it has at a time. `es` are its events. -/
structure CapacityLaw (a : Attachment) (h : Host σ) (rounds : Nat) (s : Session σ)
    (es : List Event) : Prop where
  /-- The registry is the one that the events give. -/
  registered : (a.followRun h s rounds).session.registry.pids = registeredAfter [] es
  /-- There were never more than three children in it. -/
  length_le : ∀ before after, es = before ++ after → (registeredAfter [] before).length ≤ 3
  /-- No start of the run finds the registry full. -/
  room : ∀ c s₁, a.Tries h rounds s c s₁ → s₁.registry.isFull = false ∧
    ∀ capacity, (s₁.spawn h c).1 ≠ .error (.registryFull capacity)
  /-- The wait for the server's process finds its exit or a request. -/
  launch : ∀ server s₁ outcome s₂, s.spawn h a.server = (.ok server, s₁) →
    s₁.followWait h false rounds = ⟨some (.ok outcome), s₂⟩ →
    outcome = .interrupted ∨ outcome = .exited server
  /-- The run itself never fails with an unexpected exit: such an error is the one with which the
  step into the background has failed. -/
  unexpectedExit : ∀ pid, (a.followRun h s rounds).result? = some (.error (.unexpectedExit pid)) →
    .background a.inv (.error (.unexpectedExit pid)) ∈ es
  /-- Nor does it fail for want of room in the registry, -/
  registryFull : ∀ capacity,
    (a.followRun h s rounds).result? = some (.error (.spawn (.registryFull capacity))) →
    .background a.inv (.error (.spawn (.registryFull capacity))) ∈ es
  /-- and its teardown does not report that either, where another error decides the result. -/
  disconnectError : ∀ result report capacity,
    (a.followUp h s rounds).result? = some (.supervised result) →
    ((a.followUp h s rounds).session.followShutdown h a.endpoint a.disconnect rounds).result? =
      some report → report.disconnectError ≠ some (.registryFull capacity)
  /-- At every pass of the supervision, what is left of it is the supervision from there. The wait
  of the pass, if it returns, finds a request, or the exit of the client that is still expected or
  of the server. -/
  supervision : ∀ server client s₁ s₂ expected s₃ left,
    s.spawn h a.server = (.ok server, s₁) →
    a.followStart h server s₁ rounds = ⟨some (.ok client), s₂⟩ →
    a.Passes h server (some client) s₂ rounds expected s₃ left →
    a.followSupervision h server (some client) s₂ rounds =
        a.followSupervision h server expected s₃ left ∧
      ∀ outcome s₄, s₃.followWait h (!a.inv.mode.foreground) left = ⟨some (.ok outcome), s₄⟩ →
        outcome = .interrupted ∨ ∃ pid, outcome = .exited pid ∧
          (some pid = expected ∨ a.inv.mode.foreground = true ∧ pid = server)

/-- **Room for the children.** The law holds of every run that begins with an empty registry,
against every host and after every number of rounds. -/
theorem run_capacity (a : Attachment) (h : Host σ) {s : Session σ} (rounds : Nat)
    (hs : s.registry = {}) :
    ∃ es, (a.followRun h s rounds).session.trace = s.trace ++ es ∧
      CapacityLaw a h rounds s es := by
  obtain ⟨es, hleads, hcourse⟩ := a.followRun_starts h rounds hs
  obtain ⟨es', hleads', hcalls⟩ := a.followRun_follows h s rounds
  obtain rfl := hleads.unique hleads'
  refine ⟨es, hleads.trace, ?_⟩
  constructor
  case registered => rw [hcalls.track, hs]
  case length_le =>
    -- only a start adds a child, and a run has three starts at most
    rintro before after rfl
    have hlength := length_registeredAfter_le [] before
    have hattempts : (commands (before ++ after)).length ≤ 3 := by
      rcases hcourse.attempts with heq | heq | heq <;> simp [heq]
    rw [commands_append, List.length_append] at hattempts
    simp only [List.length_nil] at hlength
    omega
  case room =>
    intro c s₁ htries
    have hroom := htries.hasRoom hs
    refine ⟨?_, fun capacity hfull => ?_⟩
    · exact Bool.eq_false_iff.mpr fun hfull => (Registry.isFull_iff.mp hfull).not_gt hroom
    · -- with room in the registry the host decides, and its failures are of another kind
      obtain ⟨es', -, hcalls⟩ := Session.follows_of_spawn (Prod.mk.eta (p := s₁.spawn h c)).symm
      rcases hcalls.of_room hroom with ⟨_, -, hresult, -⟩ | ⟨_, -, hresult, -⟩ <;>
        rw [hfull] at hresult <;> cases hresult
  case launch =>
    intro server s₁ outcome s₂ hspawn hwait
    obtain ⟨es', -, hcalls⟩ := Session.followWait_follows h false s₁ rounds
    rw [hwait] at hcalls
    exact hcalls.of_singleton (Attachment.registry_of_server hs hspawn)
  case unexpectedExit =>
    intro pid hresult
    exact hcalls.unreached hs hresult rfl
  case registryFull =>
    intro capacity hresult
    exact hcalls.unreached hs hresult rfl
  case disconnectError =>
    intro result report capacity hup hreport
    obtain ⟨server, client, started, s₂, during, answer, after, hsupervises, -, -⟩ :=
      hcourse.disconnect_next hup
    obtain ⟨down, -, hshutdown⟩ := Session.followShutdown_follows h a.endpoint a.disconnect
      (a.followUp h s rounds).session rounds
    rw [hreport] at hshutdown
    exact hshutdown.ne_registryFull (hsupervises.hasRoom hs) capacity
  case supervision =>
    intro server client s₁ s₂ expected s₃ left hspawn hstart hpasses
    refine ⟨hpasses.followSupervision_eq, fun outcome s₄ hwait => ?_⟩
    obtain ⟨es₁, -, hstarted⟩ := a.followStart_follows h server s₁ rounds
    rw [hstart] at hstarted
    have hwatched := hstarted.watched (Attachment.registry_of_server hs hspawn)
    -- the watched children are all that the wait of the pass can find
    obtain ⟨es₂, -, hcalls⟩ := Session.followWait_follows h (!a.inv.mode.foreground) s₃ left
    rw [hwait] at hcalls
    exact hcalls.of_watched (hpasses.watched hwatched)

theorem signalledRun_capacity :
    signalledRun.registry = {} ∧
      (Attachment.sample.followRun .adversary signalledRun 4).result? = some (.ok ()) ∧
      ∃ es, (Attachment.sample.followRun .adversary signalledRun 4).session.trace =
          signalledRun.trace ++ es ∧
        CapacityLaw Attachment.sample .adversary 4 signalledRun es :=
  ⟨rfl, rfl, run_capacity Attachment.sample .adversary 4 rfl⟩

end NbdAttach
