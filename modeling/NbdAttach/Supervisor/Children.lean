import NbdAttach.Supervisor.Session

/-!
# Watching children

The four things a run does with its children. Each keeps the registry in step with what the host
reports.

* `spawn` starts a child, if the registry has room for it.
* `waitForAny` waits until a registered child has exited or a request to end is there. The request
  is looked for before every wait, so it wins over children that have exited meanwhile.
* `killAllExcept` asks all children to terminate, save one.
* `reapAll` waits until no child is left; requests to end are taken and dropped meanwhile.

The waits need not end, so they are followed for a number of rounds: `followWait` and `followReap`
give how far they have come by then, `waitForAny` and `reapAll` only what they returned.
-/

namespace NbdAttach

/-- How a wait for any child ended. -/
inductive WaitOutcome
  /-- A registered child has exited; it is registered no more. -/
  | exited (pid : Pid)
  /-- A request to end was taken. -/
  | interrupted
  /-- No child is registered, and the caller did not want to wait for a signal. -/
  | noneLeft
deriving DecidableEq, Repr, Inhabited

namespace Session

variable {σ : Type}

/-- Tells the log each argument with its place. -/
def tellArguments (s : Session σ) (index : Nat) : List String → Session σ
  | [] => s
  | arg :: rest => (s.tell (.argument index arg)).tellArguments (index + 1) rest

/-- Starts a child and registers it. -/
def spawn (h : Host σ) (c : Command) (s : Session σ) : Except SpawnError Pid × Session σ :=
  if s.registry.isFull then (.error (.registryFull registryCapacity), s)
  else
    match ((s.tell (.executing c.program)).tellArguments 0 c.argv).spawnProcess h c with
    | (.error cause, s) => (.error (.launch c.program cause), s)
    | (.ok pid, s) => (.ok pid, (s.register pid).tell (.started c.program pid))

/-- Waits until a registered child has exited or a request to end is there. Without children it
gives up at once, unless it is to block until the request comes. -/
def followWait (h : Host σ) (blockIfEmpty : Bool) :
    Session σ → Nat → Progress σ (Except IoError WaitOutcome)
  | s, 0 => ⟨none, s⟩
  | s, rounds + 1 =>
    match s.takePending h with
    | (some signal, s) => ⟨some (.ok .interrupted), s.tell (.signalTaken signal)⟩
    | (none, s) =>
      if s.registry.isEmpty then
        if blockIfEmpty then followWait h blockIfEmpty (s.idle h) rounds
        else ⟨some (.ok .noneLeft), s⟩
      else
        match s.waitAny h with
        | (.error cause, s) => ⟨some (.error cause), s⟩
        | (.ok .interrupted, s) => followWait h blockIfEmpty s rounds
        | (.ok (.child pid), s) =>
          if s.registry.contains pid then
            ⟨some (.ok (.exited pid)),
              { s with registry := s.registry.erase pid }.tell (.reaped pid)⟩
          else followWait h blockIfEmpty (s.tell (.reapedUntracked pid)) rounds

/-- The wait, where it returns within the rounds. -/
def waitForAny (h : Host σ) (blockIfEmpty : Bool) (s : Session σ) (rounds : Nat) :
    Option (Except IoError WaitOutcome × Session σ) :=
  (s.followWait h blockIfEmpty rounds).returned

/-- Asks one child to terminate. -/
def kill (h : Host σ) (pid : Pid) (s : Session σ) : Session σ :=
  match (s.tell (.killing pid)).terminate h pid with
  | (.delivered, s) => s
  | (.notFound, s) => s.tell (.alreadyGone pid)
  | (answer, s) => s.tell (.terminateFailed pid answer)

/-- Asks children to terminate, one after the other. -/
def killEach (h : Host σ) : List Pid → Session σ → Session σ
  | [], s => s
  | pid :: rest, s => killEach h rest (s.kill h pid)

/-- Asks all registered children but one to terminate. -/
def killAllExcept (h : Host σ) (spared : Option Pid) (s : Session σ) : Session σ :=
  killEach h (s.registry.pids.filter fun pid => some pid != spared) s

/-- Waits until no child is registered. -/
def followReap (h : Host σ) : Session σ → Nat → Progress σ (Except IoError Unit)
  | s, 0 => ⟨none, s⟩
  | s, rounds + 1 =>
    match s.followWait h false (rounds + 1) with
    | ⟨none, s⟩ => ⟨none, s⟩
    | ⟨some (.error cause), s⟩ => ⟨some (.error cause), s⟩
    | ⟨some (.ok .noneLeft), s⟩ => ⟨some (.ok ()), s⟩
    | ⟨some (.ok _), s⟩ => followReap h s rounds

/-- The wait for all children, where it returns within the rounds. -/
def reapAll (h : Host σ) (s : Session σ) (rounds : Nat) :
    Option (Except IoError Unit × Session σ) :=
  (s.followReap h rounds).returned

end Session

end NbdAttach
