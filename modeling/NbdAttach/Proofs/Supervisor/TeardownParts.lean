import NbdAttach.Proofs.Supervisor.Calls

/-!
# The parts of a teardown

Between its calls a teardown has one loop, the reap, and straight pieces before and after it:

* `Session.detach` starts the helper, `Session.beginReap` asks the children to terminate, and
  `Session.beginShutdownReap` is both, as the full teardown has them;
* `Session.finish` is what comes after the reap: the report, and the removal of the socket.

`Session.shutdown_eq` and `Session.abort_eq` put the parts together again. So a teardown returns
exactly where its reap does, and what is to be said about it is said of the parts.
-/

namespace NbdAttach

variable {σ α β : Type}

/-- Goes on with a call that takes no loop, once the call before it has returned. -/
def Progress.andThen (p : Progress σ α) (f : α → Session σ → β × Session σ) : Progress σ β :=
  match p with
  | ⟨none, s⟩ => ⟨none, s⟩
  | ⟨some a, s⟩ => ⟨some (f a s).1, (f a s).2⟩

theorem Progress.result?_andThen (p : Progress σ α) (f : α → Session σ → β × Session σ) :
    (p.andThen f).result? = p.result?.map fun a => (f a p.session).1 := by
  obtain ⟨result?, s⟩ := p
  cases result? <;> rfl

theorem Progress.returned_andThen (p : Progress σ α) (f : α → Session σ → β × Session σ) :
    (p.andThen f).returned = p.returned.map fun r => f r.1 r.2 := by
  obtain ⟨result?, s⟩ := p
  cases result? <;> rfl

namespace Session

/-! ### The parts -/

/-- Starts the helper that detaches the device. -/
def detach (h : Host σ) (disconnect : Command) (s : Session σ) :
    Except SpawnError Pid × Session σ :=
  match (s.advance .running .disconnecting).spawn h disconnect with
  | (.ok helper, s) => (.ok helper, s)
  | (.error error, s) => (.error error, s.tell (.disconnectFailed error))

/-- Asks all children but one to terminate. The reap is next. -/
def beginReap (h : Host σ) (before : Phase) (spared : Option Pid) (s : Session σ) : Session σ :=
  ((s.advance before .killing).killAllExcept h spared).advance .killing .reaping

/-- The way of the full teardown to its reap. -/
def beginShutdownReap (h : Host σ) (disconnect : Command) (s : Session σ) : Session σ :=
  (s.detach h disconnect).2.beginReap h .disconnecting (s.detach h disconnect).1.toOption

/-- What is told about a reap that has returned. -/
def tellReaped (s : Session σ) : Except IoError Unit → Session σ
  | .ok () => s
  | .error cause => s.tell (.reapFailed cause)

/-- What comes after the reap, where the helper was not started because of `disconnectError`. -/
def finish (h : Host σ) (endpoint : Endpoint) (disconnectError : Option SpawnError)
    (reaped : Except IoError Unit) (s : Session σ) : TeardownReport × Session σ :=
  ({ disconnectError, reapError := failure? reaped },
    ((s.tellReaped reaped).advance .reaping .done).cleanUp h endpoint)

/-! ### The parts make up the teardowns -/

/-- A teardown is its begin, its reap, and what comes after the reap. -/
theorem followTeardown_eq (h : Host σ) (endpoint : Endpoint) (before : Phase)
    (spared : Option Pid) (disconnectError : Option SpawnError) (s : Session σ) (rounds : Nat) :
    s.followTeardown h endpoint before spared disconnectError rounds =
      ((s.beginReap h before spared).followReap h rounds).andThen
        (finish h endpoint disconnectError) := by
  rw [followTeardown, beginReap]
  generalize ((s.advance before .killing).killAllExcept h spared).advance .killing .reaping = s₁
  rcases s₁.followReap h rounds with ⟨_ | cause | _, s₂⟩ <;> rfl

/-- The teardown that starts no helper spares nobody. -/
theorem followAbort_eq (h : Host σ) (endpoint : Endpoint) (s : Session σ) (rounds : Nat) :
    s.followAbort h endpoint rounds =
      ((s.beginReap h .running none).followReap h rounds).andThen (finish h endpoint none) :=
  followTeardown_eq ..

/-- The full teardown starts the helper first, and spares it where it was started. -/
theorem followShutdown_eq (h : Host σ) (endpoint : Endpoint) (disconnect : Command)
    (s : Session σ) (rounds : Nat) :
    s.followShutdown h endpoint disconnect rounds =
      ((s.beginShutdownReap h disconnect).followReap h rounds).andThen
        (finish h endpoint (failure? (s.detach h disconnect).1)) := by
  rw [followShutdown, beginShutdownReap, detach]
  rcases (s.advance .running .disconnecting).spawn h disconnect with ⟨error | helper, s₁⟩
  · -- the helper was not started, and the report will say why
    exact followTeardown_eq ..
  · exact followTeardown_eq ..

/-- The teardown without a helper returns where its reap does. -/
theorem abort_eq (h : Host σ) (endpoint : Endpoint) (s : Session σ) (rounds : Nat) :
    s.abort h endpoint rounds =
      ((s.beginReap h .running none).reapAll h rounds).map fun r =>
        r.2.finish h endpoint none r.1 := by
  rw [abort, followAbort_eq, Progress.returned_andThen]
  rfl

/-- The full teardown returns where its reap does. -/
theorem shutdown_eq (h : Host σ) (endpoint : Endpoint) (disconnect : Command) (s : Session σ)
    (rounds : Nat) :
    s.shutdown h endpoint disconnect rounds =
      ((s.beginShutdownReap h disconnect).reapAll h rounds).map fun r =>
        r.2.finish h endpoint (failure? (s.detach h disconnect).1) r.1 := by
  rw [shutdown, followShutdown_eq, Progress.returned_andThen]
  rfl

/-! ### The calls of the parts -/

/-- To detach the device takes the calls of one start. -/
theorem detach_follows (h : Host σ) (disconnect : Command) (s : Session σ) :
    s.Follows (SpawnCalls disconnect) (s.detach h disconnect).1 (s.detach h disconnect).2 := by
  rw [detach]
  rcases hspawn : (s.advance .running .disconnecting).spawn h disconnect with ⟨error | helper, s₁⟩
  · -- that the start has failed is told, and nothing else
    obtain ⟨es, hleads, hcalls⟩ := follows_of_spawn hspawn
    exact ⟨es, (((Leads.refl s).tell _).trans hleads).tell _, hcalls⟩
  · obtain ⟨es, hleads, hcalls⟩ := follows_of_spawn hspawn
    exact ⟨es, ((Leads.refl s).tell _).trans hleads, hcalls⟩

/-- Each child but the spared one is asked to terminate, and stays registered. -/
theorem beginReap_leads (h : Host σ) (before : Phase) (spared : Option Pid) (s : Session σ) :
    ∃ kills, s.Leads kills (s.beginReap h before spared) ∧
      KillCalls (s.registry.targets spared) kills ∧
      (s.beginReap h before spared).registry = s.registry := by
  obtain ⟨kills, hleads, hkill, hregistry⟩ :=
    killAllExcept_leads h spared (s.advance before .killing)
  exact ⟨kills, (((Leads.refl s).tell _).trans hleads).tell _, hkill, hregistry⟩

/-- What comes after the reap is one call, to remove the socket. -/
theorem finish_leads (h : Host σ) (endpoint : Endpoint) (disconnectError : Option SpawnError)
    (reaped : Except IoError Unit) (s : Session σ) :
    ∃ answer, s.Leads [.removeSocket endpoint.path answer]
        (s.finish h endpoint disconnectError reaped).2 ∧
      (s.finish h endpoint disconnectError reaped).2.registry = s.registry := by
  obtain ⟨answer, hleads, hregistry⟩ :=
    cleanUp_leads h endpoint ((s.tellReaped reaped).advance .reaping .done)
  refine ⟨answer, ?_, ?_⟩
  · cases reaped with
    | ok _ => exact ((Leads.refl s).tell _).trans hleads
    | error cause => exact (((Leads.refl s).tell _).tell _).trans hleads
  · cases reaped with
    | ok _ => exact hregistry
    | error cause => exact hregistry

end Session

/-! ### Who is asked to terminate -/

/-- The new helper is spared, so those that are asked to terminate were there before it. -/
theorem Registry.targets_insert (r : Registry) (helper : Pid) :
    (r.insert helper).targets (some helper) = r.targets (some helper) := by
  simp [Registry.targets, Registry.insert]

/-- Whether the helper was started or not, the same children are asked to terminate. -/
theorem SpawnCalls.targets_eq {c : Command} {r r₁ : Registry} {es : List Event}
    {helper : Except SpawnError Pid} (hspawn : SpawnCalls c r es helper r₁) :
    r₁.targets helper.toOption = r.targets helper.toOption := by
  cases hspawn with
  | full _ => rfl
  | failed _ _ => rfl
  | started _ pid => exact r.targets_insert pid

end NbdAttach
