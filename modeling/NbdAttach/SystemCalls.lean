import NbdAttach.Process
import NbdAttach.SystemError

/-!
# Process control by system calls

Three calls of the system are behind the control of processes: one starts a program, one waits for
a child that has ended, and one sends a signal. They speak of processes by the numbers of the
system and fail with its error numbers; a run speaks of them by their `Pid`, and its requests are
made of the calls here.

* `SystemCalls.spawn`, `SystemCalls.waitAny` and `SystemCalls.terminate` are the three requests.
* `Reaped.ofWait` and `Termination.ofKill` read the answers of the calls.
-/

namespace NbdAttach

/-- How a process ended. -/
inductive Ending
  | exited (status : Nat)
  | killed (signal : Signal)
deriving DecidableEq, Repr, Inhabited

/-- What the system reports about a child that has ended. -/
structure ChildStatus where
  number : SystemPid
  ending : Ending
deriving DecidableEq, Repr, Inhabited

/-- The calls of a system, as answers given from its state. -/
structure SystemCalls (σ : Type) where
  /-- Starts a program as a child. -/
  start : Command → σ → Except IoError SystemPid × σ
  /-- Waits for any child to end. Children that are stopped or go on are not reported: the wait does
  not ask for them. -/
  wait : σ → Except Errno ChildStatus × σ
  /-- Sends a signal to a process, or to a group of processes where the number is not positive. -/
  kill : SystemPid → Signal → σ → Except Errno Unit × σ

/-- The signal that asks a process to terminate. -/
def terminationSignal : Signal := 15

/-- A wait that was cut short by a signal has not failed. -/
def Reaped.ofWait : Except Errno ChildStatus → Except IoError Reaped
  | .ok status => .ok (.child (.ofSystem status.number))
  | .error e => if e = .interrupted then .ok .interrupted else .error (.system e)

/-- The answer to a request to terminate a process. -/
def Termination.ofKill : Except Errno Unit → Termination
  | .ok () => .delivered
  | .error e =>
    if e = .noProcess then .notFound
    else if e = .notPermitted then .denied
    else .failed s!"SIGTERM failed: {e.text}"

namespace SystemCalls

variable {σ : Type}

def spawn (calls : SystemCalls σ) (c : Command) (st : σ) : Except IoError Pid × σ :=
  match calls.start c st with
  | (.ok number, st) => (.ok (.ofSystem number), st)
  | (.error cause, st) => (.error cause, st)

def waitAny (calls : SystemCalls σ) (st : σ) : Except IoError Reaped × σ :=
  match calls.wait st with
  | (answer, st) => (Reaped.ofWait answer, st)

def terminate (calls : SystemCalls σ) (pid : Pid) (st : σ) : Termination × σ :=
  match calls.kill pid.toSystem terminationSignal st with
  | (answer, st) => (Termination.ofKill answer, st)

end SystemCalls

end NbdAttach
