import NbdAttach.CommandLine.Invocation
import NbdAttach.Endpoint.Identity
import NbdAttach.Log

/-!
# The host

Everything a run asks of the outside world: processes, signals, the wait for the server's socket,
the step into the background, and the few calls on files. A `Host` answers each request from a
state `σ` of its own, about which nothing is assumed, so what is proved for every host holds for
every behaviour of the operating system.

An `Event` is one request with its answer; a run records its events in order.
-/

namespace NbdAttach

/-- One request to the host with the answer to it. -/
inductive Event
  /-- A process was to be started. -/
  | spawn (command : Command) (answer : Except IoError Pid)
  /-- A wait for any child. -/
  | waitAny (answer : Except IoError Reaped)
  | terminate (pid : Pid) (answer : Termination)
  /-- A short sleep while there is no child to wait for. -/
  | idle
  /-- A look for a request to end; an answer takes it away. -/
  | takePending (answer : Option Signal)
  /-- The wait for the server's socket: did it appear in time? -/
  | awaitSocket (path : Path) (answer : Except IoError Bool)
  /-- The step into the background. -/
  | background (inv : Invocation) (answer : Except RunError Unit)
  /-- The removal of the server's socket. -/
  | removeSocket (path : Path) (answer : Except IoError Unit)
  /-- A look at a file, by its path. -/
  | stat (path : Path) (answer : Except Errno DeviceIdentity)
  | unlink (path : Path) (answer : Except Errno Unit)
  /-- From here on signals that ask to end are kept instead of ending the program. -/
  | catchSignals (answer : Except IoError Unit)

/-- The outside world, as a state and the answers given from it. -/
structure Host (σ : Type) where
  spawn : Command → σ → Except IoError Pid × σ
  waitAny : σ → Except IoError Reaped × σ
  terminate : Pid → σ → Termination × σ
  idle : σ → σ
  takePending : σ → Option Signal × σ
  awaitSocket : Path → Readiness → σ → Except IoError Bool × σ
  background : Invocation → σ → Except RunError Unit × σ
  removeSocket : Path → σ → Except IoError Unit × σ
  stat : Path → σ → Except Errno DeviceIdentity × σ
  unlink : Path → σ → Except Errno Unit × σ
  catchSignals : σ → Except IoError Unit × σ
  /-- What the host has to say in the log about a request that it has just answered. -/
  remarks : Event → σ → List Notice := fun _ _ => []

end NbdAttach
