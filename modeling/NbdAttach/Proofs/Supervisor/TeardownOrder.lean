import NbdAttach.Proofs.Supervisor.InStep
import NbdAttach.Proofs.Supervisor.Phases

/-!
# The order of a teardown

A teardown starts the helper, asks the children to terminate, waits for them and removes the socket,
in this order and to the end, whatever goes wrong on the way. `teardown_law` says so for every
registry and every host, of the full teardown and of the one that starts no helper.

The two teardowns differ in the helper alone: where it cannot be started, the full teardown does
from there on what the other would do (`Session.followShutdown_of_failed`). This holds because
nothing reads the record, so a reap goes the same way from two sessions that differ in their records
(`Session.followReap_inStep`).
-/

namespace NbdAttach

open scoped List

variable {σ : Type}

namespace Session

/-! ### Reaps do not read the record -/

variable {h : Host σ} {p : Event → Bool} {s t : Session σ}

/-- A wait goes the same way from sessions that differ in their records, pass by pass. -/
theorem followWait_inStep (h : Host σ) (blocks : Bool) (halike : Alike Eq s t) (rounds : Nat) :
    (s.followWait h blocks rounds).result? = (t.followWait h blocks rounds).result? ∧
      InStep Eq p s t (s.followWait h blocks rounds).session
        (t.followWait h blocks rounds).session := by
  induction rounds generalizing s t with
  | zero => exact ⟨rfl, .refl halike⟩
  | succ rounds ih =>
    obtain ⟨hresult, hstep⟩ := pass_inStep (p := p) h.agrees_self blocks halike
      (.of_eq (congrArg h.takePending halike.host))
    rw [followWait_succ, followWait_succ]
    rcases hpass : s.pass h blocks with ⟨result?, s₁⟩
    rcases hpass' : t.pass h blocks with ⟨result?', t₁⟩
    rw [hpass, hpass'] at hresult hstep
    -- the pass has ended both waits, or neither
    obtain rfl : result? = result?' := hresult
    cases result? with
    | none => exact ⟨(ih hstep.alike).1, hstep.trans (ih hstep.alike).2⟩
    | some outcome => exact ⟨rfl, hstep⟩

/-- A reap goes the same way from sessions that differ in their records, wait by wait. -/
theorem followReap_inStep (h : Host σ) (halike : Alike Eq s t) (rounds : Nat) :
    (s.followReap h rounds).result? = (t.followReap h rounds).result? ∧
      InStep Eq p s t (s.followReap h rounds).session (t.followReap h rounds).session := by
  induction rounds generalizing s t with
  | zero => exact ⟨rfl, .refl halike⟩
  | succ rounds ih =>
    obtain ⟨hresult, hstep⟩ := followWait_inStep (p := p) h false halike (rounds + 1)
    rw [followReap_succ, followReap_succ]
    rcases hfollow : s.followWait h false (rounds + 1) with ⟨result?, s₁⟩
    rcases hfollow' : t.followWait h false (rounds + 1) with ⟨result?', t₁⟩
    rw [hfollow, hfollow'] at hresult hstep
    -- both waits have returned, with the same outcome, or neither
    obtain rfl : result? = result?' := hresult
    cases result? with
    | none => exact ⟨rfl, hstep⟩
    | some outcome =>
      dsimp only
      cases endOfReap outcome with
      | none => exact ⟨(ih hstep.alike).1, hstep.trans (ih hstep.alike).2⟩
      | some result => exact ⟨rfl, hstep⟩

/-- What went wrong with the helper stands in the report of a teardown and nowhere else. -/
theorem followTeardown_inStep (h : Host σ) (halike : Alike Eq s t) (endpoint : Endpoint)
    (before before' : Phase) (spared : Option Pid)
    (disconnectError disconnectError' : Option SpawnError) (rounds : Nat) :
    (s.followTeardown h endpoint before spared disconnectError rounds).result? =
        (t.followTeardown h endpoint before' spared disconnectError' rounds).result?.map
          (fun report => { report with disconnectError }) ∧
      InStep Eq p s t
        (s.followTeardown h endpoint before spared disconnectError rounds).session
        (t.followTeardown h endpoint before' spared disconnectError' rounds).session := by
  -- neither the phase nor the error is read before the report is made
  have hkill : InStep Eq p s t (s.beginReap h before spared) (t.beginReap h before' spared) :=
    beginReap_inStep h.agrees_self halike before before' spared
  obtain ⟨hresult, hreap⟩ := followReap_inStep (p := p) h hkill.alike rounds
  rw [followTeardown_eq, followTeardown_eq]
  rcases hfollow : (s.beginReap h before spared).followReap h rounds with ⟨result?, s₁⟩
  rcases hfollow' : (t.beginReap h before' spared).followReap h rounds with ⟨result?', t₁⟩
  rw [hfollow, hfollow'] at hresult hreap
  obtain rfl : result? = result?' := hresult
  cases result? with
  | none => exact ⟨rfl, hkill.trans hreap⟩
  | some reaped =>
    have hfinish := finish_inStep (p := p) h.agrees_self hreap.alike endpoint disconnectError
      disconnectError' reaped
    exact ⟨rfl, (hkill.trans hreap).trans hfinish⟩

/-! ### Without a helper -/

/-- Sessions that are in step for all calls have made the same ones. -/
theorem InStep.same_calls {s' t' : Session σ} (hstep : InStep Eq (fun _ => true) s t s' t') :
    ∃ es, s.Leads es s' ∧ t.Leads es t' := by
  obtain ⟨es, es', hs, ht, heq⟩ := hstep.calls
  rw [List.filter_true, List.filter_true] at heq
  exact ⟨es, hs, heq ▸ ht⟩

/-- Where the helper cannot be started, the full teardown goes on as the teardown that starts none:
by the same calls, to the same registry and with the same result of the reap. -/
theorem followShutdown_of_failed {disconnect : Command} {error : SpawnError} {s₁ : Session σ}
    (hspawn : s.spawn h disconnect = (.error error, s₁)) (endpoint : Endpoint) (rounds : Nat) :
    (s.followShutdown h endpoint disconnect rounds).result? =
        (s₁.followAbort h endpoint rounds).result?.map
          (fun report => { report with disconnectError := some error }) ∧
      ∃ es, s₁.Leads es (s.followShutdown h endpoint disconnect rounds).session ∧
        s₁.Leads es (s₁.followAbort h endpoint rounds).session ∧
        (s.followShutdown h endpoint disconnect rounds).session.registry =
          (s₁.followAbort h endpoint rounds).session.registry := by
  -- the phase that the teardown has told before the start makes no difference to the start
  have htold : Alike Eq s (s.advance .running .disconnecting) := ⟨rfl, rfl⟩
  obtain ⟨t₁, hspawn', hstep⟩ :=
    spawn_inStep (p := fun _ => true) h.agrees_self htold hspawn
  obtain ⟨es₁, hs₁, ht₁⟩ := hstep.same_calls
  obtain ⟨hresult, hrest⟩ := followTeardown_inStep (p := fun _ => true) h
    (s := t₁.tell (.disconnectFailed error)) ⟨hstep.alike.host.symm, hstep.alike.registry.symm⟩
    endpoint .disconnecting .running none (some error) none rounds
  obtain ⟨es, ht, hs⟩ := hrest.same_calls
  rw [followShutdown, hspawn', followAbort]
  refine ⟨hresult, es, ⟨?_, ?_⟩, hs, hrest.alike.registry⟩
  · -- the start was tried from traces that are equal, so they are equal after it
    have htrace : t₁.trace = s₁.trace := by
      rw [ht₁.trace, hs₁.trace, advance, trace_tell]
    rw [ht.trace, trace_tell, htrace]
  · exact ht.overflowed.trans (ht₁.overflowed.trans hs₁.overflowed.symm)

end Session

/-! ### The law -/

/-- What a teardown that has returned did from the session `s` on, and what it left. Before anybody
was asked to terminate came the calls `starts`; they started the `helper`, if there is one. -/
structure TornDown (h : Host σ) (path : Path) (phases : List Phase) (starts : List Event)
    (helper : Option Pid) (s : Session σ) (report : TeardownReport) (s' : Session σ) : Prop where
  /-- The calls, in order: the start, one request to terminate for each child that was registered,
  in the order of their starts and save the helper, the reap, and the removal. -/
  order : ∃ kills reaps answer,
    s.Leads (starts ++ kills ++ reaps ++ [.removeSocket path answer]) s' ∧
    KillCalls (s.registry.targets helper) kills ∧
    (∀ e ∈ reaps, e.isReaping = true) ∧
    (∀ cause, report.reapError = some cause ↔ .waitAny (.error cause) ∈ reaps) ∧
    s'.registry.pids = registeredAfter (s.registry.pids ++ helper.toList) reaps ∧
    s.registry.pids ++ helper.toList ~
      reapedPids (s.registry.pids ++ helper.toList) reaps ++ s'.registry.pids
  /-- Children are left exactly where the reap has failed. -/
  left : s'.registry.pids ≠ [] ↔ report.reapError ≠ none
  /-- The log tells the steps through the phases, up to the last. -/
  steps : s.Tells h (Phase.steps phases) s'
  /-- Every step leads on. -/
  advances : ∀ step ∈ Phase.steps phases, step.1.rank < step.2.rank

/-- What holds of the two teardowns of a session. -/
structure TeardownLaw (h : Host σ) (endpoint : Endpoint) (disconnect : Command) (s : Session σ)
    (rounds : Nat) : Prop where
  /-- A full teardown returns exactly where its reap does. -/
  shutdown_returns : (s.shutdown h endpoint disconnect rounds).isSome =
    ((s.beginShutdownReap h disconnect).reapAll h rounds).isSome
  /-- It tries to start the helper, unless the registry is full, and then tears down. -/
  shutdown_order : ∀ report s', s.shutdown h endpoint disconnect rounds = some (report, s') →
    ∃ starts helper r₁, SpawnCalls disconnect s.registry starts helper r₁ ∧
      report.disconnectError = failure? helper ∧
      TornDown h endpoint.path Phase.ofShutdown starts helper.toOption s report s'
  /-- The same of the teardown that starts no helper. -/
  abort_returns : (s.abort h endpoint rounds).isSome =
    ((s.beginReap h .running none).reapAll h rounds).isSome
  abort_order : ∀ report s', s.abort h endpoint rounds = some (report, s') →
    report.disconnectError = none ∧ TornDown h endpoint.path Phase.ofAbort [] none s report s'
  /-- Where the helper cannot be started, the full teardown does what the other one would do. -/
  without_helper : ∀ error s₁, s.spawn h disconnect = (.error error, s₁) →
    (s.followShutdown h endpoint disconnect rounds).result? =
        (s₁.followAbort h endpoint rounds).result?.map
          (fun report => { report with disconnectError := some error }) ∧
      ∃ es, s₁.Leads es (s.followShutdown h endpoint disconnect rounds).session ∧
        s₁.Leads es (s₁.followAbort h endpoint rounds).session ∧
        (s.followShutdown h endpoint disconnect rounds).session.registry =
          (s₁.followAbort h endpoint rounds).session.registry

theorem failure?_eq_some_iff {ε α : Type} {x : Except ε α} {e : ε} :
    failure? x = some e ↔ x = .error e := by
  cases x <;> simp [failure?]

/-- The helper, where it was started, is the last of the children. -/
theorem SpawnCalls.pids_eq {c : Command} {r r₁ : Registry} {es : List Event}
    {helper : Except SpawnError Pid} (hspawn : SpawnCalls c r es helper r₁) :
    r₁.pids = r.pids ++ helper.toOption.toList := by
  cases hspawn with
  | full _ => exact (List.append_nil _).symm
  | failed _ _ => exact (List.append_nil _).symm
  | started _ pid => rfl

/-- Nobody is started in a reap, so all children of its account were there at its begin. -/
theorem ReapCalls.account {r r' : Registry} {es : List Event}
    {result : Option (Except IoError Unit)}
    (hcalls : ReapCalls r es result r') : r.pids ~ reapedPids r.pids es ++ r'.pids := by
  -- nothing but a start adds a child, and a reap has none
  have hspawned : spawnedPids es = [] := by
    refine List.filterMap_eq_nil_iff.mpr fun e he => ?_
    have hcommand := Event.command?_of_isEnding (hcalls.isEnding e he)
    cases e <;> first | rfl | cases hcommand
  have haccount := perm_registeredAfter r.pids es
  rwa [hspawned, List.append_nil, ← hcalls.track] at haccount

namespace Session

/-- A teardown whose reap has returned. The calls `starts` were made before it, and they registered
the `helper`, if there is one. -/
theorem tornDown_of_reap {h : Host σ} {endpoint : Endpoint} {before : Phase}
    {phases : List Phase} {starts : List Event} {helper : Option Pid}
    {disconnectError : Option SpawnError} {reaped : Except IoError Unit} {rounds : Nat}
    {s s₁ s₂ : Session σ} (hstart : s.Leads starts s₁)
    (hregistry : s₁.registry.pids = s.registry.pids ++ helper.toList)
    (htargets : s₁.registry.targets helper = s.registry.targets helper)
    (hreap : (s₁.beginReap h before helper).reapAll h rounds = some (reaped, s₂))
    (hsteps : s.Tells h (Phase.steps phases) (s₂.finish h endpoint disconnectError reaped).2)
    (hadvances : ∀ step ∈ Phase.steps phases, step.1.rank < step.2.rank) :
    TornDown h endpoint.path phases starts helper s
      (s₂.finish h endpoint disconnectError reaped).1
      (s₂.finish h endpoint disconnectError reaped).2 := by
  -- the three parts that follow the start, each with its calls
  obtain ⟨kills, hkills, hkill, hregistry₁⟩ := beginReap_leads h before helper s₁
  obtain ⟨reaps, hreaps, hcalls⟩ := followReap_follows h (s₁.beginReap h before helper) rounds
  rw [Progress.returned_eq_some_iff.mp hreap] at hreaps hcalls
  rw [hregistry₁] at hcalls
  obtain ⟨answer, hremoval, hregistry₂⟩ := finish_leads h endpoint disconnectError reaped s₂
  refine ⟨⟨kills, reaps, answer, ?_, ?_, hcalls.isReaping, ?_, ?_, ?_⟩, ?_, hsteps, hadvances⟩
  · exact ((hstart.trans hkills).trans hreaps).trans hremoval
  · rw [← htargets]
    exact hkill
  · intro cause
    rw [hcalls.mem_failed_iff, Option.some.injEq]
    exact failure?_eq_some_iff
  · rw [hregistry₂, ← hregistry]
    exact hcalls.track
  · rw [hregistry₂, ← hregistry]
    exact hcalls.account
  · rw [hregistry₂]
    -- a reap ends well with an empty registry, and fails only while a child is registered
    rcases hcalls.ends with ⟨rfl, hempty, -⟩ | ⟨cause, -, rfl, hsome, -⟩
    · exact iff_of_false (absurd hempty) (absurd rfl)
    · exact iff_of_true hsome nofun

/-- A full teardown that has returned did what its helper left to do. -/
theorem tornDown_of_shutdown {h : Host σ} {endpoint : Endpoint} {disconnect : Command}
    {rounds : Nat} {s s' : Session σ} {report : TeardownReport}
    (hshutdown : s.shutdown h endpoint disconnect rounds = some (report, s')) :
    ∃ starts helper r₁, SpawnCalls disconnect s.registry starts helper r₁ ∧
      report.disconnectError = failure? helper ∧
      TornDown h endpoint.path Phase.ofShutdown starts helper.toOption s report s' := by
  rw [shutdown_eq, Option.map_eq_some_iff] at hshutdown
  obtain ⟨⟨reaped, s₂⟩, hreap, hfinish⟩ := hshutdown
  obtain ⟨rfl, rfl⟩ := Prod.mk.inj hfinish
  obtain ⟨starts, hstart, hspawn⟩ := detach_follows h disconnect s
  -- the reap tells no steps, so those before it and the one behind it are all
  have hsteps : s.Tells h (Phase.steps Phase.ofShutdown)
      (s₂.finish h endpoint (failure? (s.detach h disconnect).1) reaped).2 := by
    have hreaped := followReap_tells (h := h) (s.beginShutdownReap h disconnect) rounds
    rw [Progress.returned_eq_some_iff.mp hreap] at hreaped
    exact ((beginShutdownReap_tells s disconnect).quiet hreaped).trans (finish_tells s₂ _ _ _)
  exact ⟨starts, _, _, hspawn, rfl,
    tornDown_of_reap hstart hspawn.pids_eq hspawn.targets_eq hreap hsteps (by decide)⟩

/-- A teardown without a helper that has returned did the same as a full one, with nothing before
it. -/
theorem tornDown_of_abort {h : Host σ} {endpoint : Endpoint} {rounds : Nat} {s s' : Session σ}
    {report : TeardownReport} (habort : s.abort h endpoint rounds = some (report, s')) :
    report.disconnectError = none ∧
      TornDown h endpoint.path Phase.ofAbort [] none s report s' := by
  rw [abort_eq, Option.map_eq_some_iff] at habort
  obtain ⟨⟨reaped, s₂⟩, hreap, hfinish⟩ := habort
  obtain ⟨rfl, rfl⟩ := Prod.mk.inj hfinish
  have hsteps : s.Tells h (Phase.steps Phase.ofAbort)
      (s₂.finish h endpoint none reaped).2 := by
    have hreaped := followReap_tells (h := h) (s.beginReap h .running none) rounds
    rw [Progress.returned_eq_some_iff.mp hreap] at hreaped
    exact ((beginReap_tells s .running none).quiet hreaped).trans (finish_tells s₂ _ _ _)
  exact ⟨rfl,
    tornDown_of_reap (.refl s) (List.append_nil _).symm rfl hreap hsteps (by decide)⟩

end Session

/-- **The order of a teardown.** The law holds of every session, whatever its registry, against
every host and for every number of rounds. -/
theorem teardown_law (h : Host σ) (endpoint : Endpoint) (disconnect : Command) (s : Session σ)
    (rounds : Nat) : TeardownLaw h endpoint disconnect s rounds where
  shutdown_returns := by rw [Session.shutdown_eq, Option.isSome_map]
  shutdown_order _ _ hshutdown := Session.tornDown_of_shutdown hshutdown
  abort_returns := by rw [Session.abort_eq, Option.isSome_map]
  abort_order _ _ habort := Session.tornDown_of_abort habort
  without_helper _ _ hspawn := Session.followShutdown_of_failed hspawn endpoint rounds

end NbdAttach
