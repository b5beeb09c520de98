import NbdAttach.CommandLine.Flag
import NbdAttach.Path
import NbdAttach.Process
import NbdAttach.Settings.Basic
import NbdAttach.SystemError

/-!
# Errors of a run

Every way in which a run can fail, with its wording and its exit code. Usage errors are set apart:
they have an exit code of their own, and the usage text follows them.
-/

namespace NbdAttach

/-- Why a child process was not started. -/
inductive SpawnError
  /-- The table of children has no room; the system was not asked. -/
  | registryFull (capacity : Nat)
  | launch (executable : String) (cause : IoError)
deriving DecidableEq, Repr, Inhabited

def SpawnError.message : SpawnError → String
  | .registryFull capacity => s!"child process table is full ({capacity} entries)"
  | .launch executable cause => s!"{executable}: {cause.message}"

/-- Why a run failed. -/
inductive RunError
  | usage (error : UsageError)
  /-- The device could not be examined. -/
  | deviceLookup (path : Path) (cause : IoError)
  /-- The place of the endpoint may not be examined by this user. -/
  | insufficientPrivilege (path : Path)
  | endpoint (path : Path) (cause : IoError)
  | spawn (error : SpawnError)
  /-- The server did not open its socket in time. -/
  | readinessTimeout (executable : String) (waitedMs : Nat)
  | readiness (path : Path) (cause : IoError)
  | signalSetup (cause : IoError)
  | wait (cause : IoError)
  /-- A request to end arrived while the server was starting. -/
  | setupInterrupted
  | unexpectedExit (pid : Pid)
  | background (reason : String)
  /-- The settings cannot be used; the causes stand outermost first. -/
  | settings (causes : List String)
deriving DecidableEq, Repr, Inhabited

namespace RunError

def message : RunError → String
  | .usage error => error.message
  | .deviceLookup path cause => s!"{path.text}: {cause.message}"
  | .insufficientPrivilege path =>
    s!"must be run as root when the \"--nbd\" flag is used ({path.text})"
  | .endpoint path cause => s!"{path.text}: {cause.message}"
  | .spawn error => error.message
  | .readinessTimeout executable waitedMs =>
    s!"{executable} failed to start within {waitedMs}ms"
  | .readiness path cause => s!"{path.text}: {cause.message}"
  | .signalSetup cause => s!"sigaction: {cause.message}"
  | .wait cause => s!"wait: {cause.message}"
  | .setupInterrupted => "got signal during setup"
  | .unexpectedExit pid => s!"unexpected exit of child process {pid}"
  | .background reason => s!"failed to enter background: {reason}"
  | .settings causes => "settings: " ++ ": ".intercalate causes

/-- Does the usage text follow the error? -/
def isUsage : RunError → Bool
  | .usage _ => true
  | _ => false

/-- The code that tells usage errors from all others. -/
def exitCode (e : RunError) : Nat :=
  if e.isUsage then 2 else 1

/-- What the program ends with. A usage error is a plain failure once the usage text is shown; other
codes are passed on where they fit in a byte. -/
def exitStatus (e : RunError) : Nat :=
  if e.isUsage then 1 else if e.exitCode < 256 then e.exitCode else 1

/-- Whatever the code is, the program fails in one way. -/
@[simp] theorem exitStatus_eq (e : RunError) : e.exitStatus = 1 := by
  unfold exitStatus exitCode
  cases e.isUsage <;> rfl

end RunError

end NbdAttach
