import NbdAttach.Supervisor.Children

/-!
# Teardown

However a run ends, its children are asked to terminate, their exits are awaited, and the socket is
removed, in this order. `shutdown` starts the helper that detaches the device first, and spares it;
`abort` is for a run that never attached the device.

A teardown always goes to its end. What went wrong on the way is in the `TeardownReport`.
-/

namespace NbdAttach

/-- What went wrong in a teardown. -/
structure TeardownReport where
  disconnectError : Option SpawnError := none
  reapError : Option IoError := none
deriving DecidableEq, Repr, Inhabited

namespace Session

variable {σ : Type}

/-- Steps from one phase to the next. -/
def advance (s : Session σ) (before after : Phase) : Session σ :=
  s.tell (.phase before after)

/-- Removes the socket; a failure is told and has no other effect. -/
def cleanUp (h : Host σ) (endpoint : Endpoint) (s : Session σ) : Session σ :=
  match s.removeSocket h endpoint.path with
  | (.ok (), s) => s
  | (.error cause, s) => s.tell (.removeFailed endpoint.path cause)

/-- The part that both teardowns share: kill, reap, remove. -/
def followTeardown (h : Host σ) (endpoint : Endpoint) (before : Phase) (spared : Option Pid)
    (disconnectError : Option SpawnError) (s : Session σ) (rounds : Nat) :
    Progress σ TeardownReport :=
  match (((s.advance before .killing).killAllExcept h spared).advance .killing .reaping).followReap
      h rounds with
  | ⟨none, s⟩ => ⟨none, s⟩
  | ⟨some (.ok ()), s⟩ =>
    ⟨some { disconnectError }, (s.advance .reaping .done).cleanUp h endpoint⟩
  | ⟨some (.error cause), s⟩ =>
    ⟨some { disconnectError, reapError := some cause },
      ((s.tell (.reapFailed cause)).advance .reaping .done).cleanUp h endpoint⟩

/-- The full teardown: detach the device, then end everything else. -/
def followShutdown (h : Host σ) (endpoint : Endpoint) (disconnect : Command) (s : Session σ)
    (rounds : Nat) : Progress σ TeardownReport :=
  match (s.advance .running .disconnecting).spawn h disconnect with
  | (.ok pid, s) => s.followTeardown h endpoint .disconnecting (some pid) none rounds
  | (.error error, s) =>
    (s.tell (.disconnectFailed error)).followTeardown h endpoint .disconnecting none (some error)
      rounds

/-- The teardown of a run that failed before the device was attached. -/
def followAbort (h : Host σ) (endpoint : Endpoint) (s : Session σ) (rounds : Nat) :
    Progress σ TeardownReport :=
  s.followTeardown h endpoint .running none none rounds

/-- The full teardown, where it returns within the rounds. -/
def shutdown (h : Host σ) (endpoint : Endpoint) (disconnect : Command) (s : Session σ)
    (rounds : Nat) : Option (TeardownReport × Session σ) :=
  (s.followShutdown h endpoint disconnect rounds).returned

/-- The teardown of a failed start, where it returns within the rounds. -/
def abort (h : Host σ) (endpoint : Endpoint) (s : Session σ) (rounds : Nat) :
    Option (TeardownReport × Session σ) :=
  (s.followAbort h endpoint rounds).returned

end Session

end NbdAttach
