import NbdAttach.RunError
import NbdAttach.Text.Quoted

/-!
# The log

A run tells what it does in notices. A `Notice` says what happened; `Notice.level` says how grave
it is, `Notice.origin` which part of the program tells it, and `Notice.text` gives the wording.
`Notice.shown` is how a notice looks on a terminal: characters that could steer the terminal are
written by their numbers.

The phases of a teardown are defined here as well, because a notice tells each step from one to
the next.
-/

namespace NbdAttach

/-- How grave a notice is. -/
inductive Level
  | error
  | warn
  | info
  | debug
  | trace
deriving DecidableEq, Repr, Inhabited

namespace Level

def name : Level → String
  | .error => "ERROR"
  | .warn => "WARN"
  | .info => "INFO"
  | .debug => "DEBUG"
  | .trace => "TRACE"

/-- How much is said: a log at some level shows the notices up to its rank. -/
def rank : Level → Nat
  | .error => 1
  | .warn => 2
  | .info => 3
  | .debug => 4
  | .trace => 5

end Level

/-- The parts of the program that tell notices. -/
inductive Origin
  /-- What is done before a run begins, and after it has ended. -/
  | program
  /-- The step into the background. -/
  | background
  /-- Starting children, waiting for them and killing them. -/
  | supervisor
  | teardown
  /-- The run itself. -/
  | attachment
  /-- The wait for the socket. -/
  | readiness
  /-- The place where the socket goes. -/
  | endpoint
  /-- The processes of the host. -/
  | processes
deriving DecidableEq, Repr

/-- The name that filters know an origin by. -/
def Origin.name : Origin → String
  | .program => "nbd_trampoline"
  | .background => "nbd_trampoline::background"
  | .supervisor => "nbd_trampoline_core::supervisor"
  | .teardown => "nbd_trampoline_core::shutdown"
  | .attachment => "nbd_trampoline_core::trampoline"
  | .readiness => "nbd_trampoline_core::readiness"
  | .endpoint => "nbd_trampoline_unix::endpoint"
  | .processes => "nbd_trampoline_unix::unix_process_control"

/-- How far a teardown has come. There is no way back. -/
inductive Phase
  | running
  /-- The helper that detaches the device is started. -/
  | disconnecting
  | killing
  | reaping
  | done
deriving DecidableEq, Repr, Inhabited

namespace Phase

def name : Phase → String
  | .running => "running"
  | .disconnecting => "disconnecting"
  | .killing => "killing"
  | .reaping => "reaping"
  | .done => "done"

/-- The place of a phase in the order of the teardown. -/
def rank : Phase → Nat
  | .running => 0
  | .disconnecting => 1
  | .killing => 2
  | .reaping => 3
  | .done => 4

end Phase

/-- What a run tells its log. -/
inductive Notice
  -- starting and watching children
  | executing (program : String)
  | argument (index : Nat) (arg : String)
  | started (program : String) (pid : Pid)
  | signalTaken (signal : Signal)
  | reaped (pid : Pid)
  | reapedUntracked (pid : Pid)
  | killing (pid : Pid)
  | alreadyGone (pid : Pid)
  | terminateFailed (pid : Pid) (answer : Termination)
  -- the teardown
  | phase (before after : Phase)
  | disconnectFailed (error : SpawnError)
  | reapFailed (cause : IoError)
  | removeFailed (path : Path) (cause : IoError)
  -- the run
  | aborting (error : RunError)
  | appeared (path : Path)
  | ready (path : Path)
  | memberExited (executable : String) (pid : Pid)
  | childExited (pid : Pid)
  | terminationRequested
  | disconnected (bucket : String) (device : Path)
  -- the endpoint
  | leftoverRemoved (path : Path)
  | leftoverKept (path : Path) (number : Errno)
  | stillThere (path : Path)
  -- the host
  | exitedWith (pid : Pid) (status : Nat)
  | killedBy (pid : Pid) (signalName : String)
  | terminationSent (pid : Pid)
  | terminationMissed (pid : Pid)
  | terminationDenied (pid : Pid)
  | terminationFailed (pid : Pid) (reason : String)
  -- the program
  | connecting (bucket : String) (device : Path)
  | runningOn (platform : String) (mode : Mode)
  | usingEndpoint (path : Path)
  | runFailed (error : RunError)
  | settingsFailed (causes : List String)
  | failedWithCode (code : Nat)
deriving DecidableEq, Repr

namespace Notice

/-- At least two digits. -/
def twoDigits (n : Nat) : String :=
  if n < 10 then s!"0{n}" else s!"{n}"

/-- How the answer to a request to terminate is named in the log. -/
def answerName : Termination → String
  | .delivered => "Success"
  | .notFound => "ProcessNotFound"
  | .denied => "AccessDenied"
  | .failed reason => s!"Failed({Text.quote reason})"

/-- How the modes of a run are shown in the log. -/
def modeText (mode : Mode) : String :=
  "TrampolineConfig \x7b " ++
    s!"debug: {mode.debug}, foreground: {mode.foreground}, read_only: {mode.readOnly}" ++ " \x7d"

/-- The names that the log gives to the error numbers of a failed removal. -/
def errnoName (number : Errno) : String :=
  (([(1, "EPERM: Operation not permitted"), (2, "ENOENT: No such file or directory"),
     (5, "EIO: I/O error"), (12, "ENOMEM: Out of memory"), (13, "EACCES: Permission denied"),
     (14, "EFAULT: Bad address"), (16, "EBUSY: Device or resource busy"),
     (20, "ENOTDIR: Not a directory"), (21, "EISDIR: Is a directory"),
     (22, "EINVAL: Invalid argument"), (30, "EROFS: Read-only file system"),
     (36, "ENAMETOOLONG: File name too long"),
     (40, "ELOOP: Too many symbolic links encountered")] : List (Nat × String)).lookup
        number.code).getD "UnknownErrno: Unknown errno"

def level : Notice → Level
  | .disconnectFailed _ | .reapFailed _ | .runFailed _ | .settingsFailed _ => .error
  | .terminateFailed .. | .removeFailed .. | .stillThere _ | .terminationDenied _
  | .terminationFailed .. => .warn
  | .started .. | .memberExited .. | .childExited _ | .terminationRequested | .disconnected ..
  | .terminationSent _ | .terminationMissed _ | .connecting .. => .info
  | _ => .debug

/-- The part of the program that tells the notice. -/
def origin : Notice → Origin
  | .executing _ | .argument .. | .started .. | .signalTaken _ | .reaped _ | .reapedUntracked _
  | .killing _ | .alreadyGone _ | .terminateFailed .. => .supervisor
  | .phase .. | .disconnectFailed _ | .reapFailed _ | .removeFailed .. => .teardown
  | .aborting _ | .ready _ | .memberExited .. | .childExited _ | .terminationRequested
  | .disconnected .. => .attachment
  | .appeared _ => .readiness
  | .leftoverRemoved _ | .leftoverKept .. | .stillThere _ => .endpoint
  | .exitedWith .. | .killedBy .. | .terminationSent _ | .terminationMissed _
  | .terminationDenied _ | .terminationFailed .. => .processes
  | .connecting .. => .background
  | .runningOn .. | .usingEndpoint _ | .runFailed _ | .settingsFailed _ | .failedWithCode _ =>
    .program

def text : Notice → String
  | .executing program => s!"executing {program} with these parameters:"
  | .argument index arg => s!"  [{twoDigits index}] \"{arg}\""
  | .started program pid => s!"started {program} as process {pid}"
  | .signalTaken signal => s!"rec'd signal {signal} while waiting"
  | .reaped pid => s!"reaped child {pid}"
  | .reapedUntracked pid => s!"reaped untracked process {pid}"
  | .killing pid => s!"killing child {pid}"
  | .alreadyGone pid => s!"child {pid} already gone"
  | .terminateFailed pid answer => s!"failed to terminate child {pid}: {answerName answer}"
  | .phase before after => s!"shutdown: {before.name} -> {after.name}"
  | .disconnectFailed error => s!"failed to run disconnect helper: {error.message}"
  | .reapFailed cause => s!"wait failed while reaping children: {cause.message}"
  | .removeFailed path cause => s!"failed to remove {path.text}: {cause.message}"
  | .aborting error => s!"aborting startup: {error.message}"
  | .appeared path => s!"{path.text} appeared"
  | .ready path => s!"{path.text} is ready"
  | .memberExited executable pid => s!"{executable} process {pid} exited"
  | .childExited pid => s!"child process {pid} exited"
  | .terminationRequested => "termination requested, shutting down"
  | .disconnected bucket device => s!"{bucket} disconnected from {device.text}"
  | .leftoverRemoved path => s!"removed leftover {path.text}"
  | .leftoverKept path number => s!"could not remove {path.text}: {errnoName number}"
  | .stillThere path => s!"{path.text} still exists after cleanup"
  | .exitedWith pid status => s!"process {pid} exited with status {status}"
  | .killedBy pid signalName => s!"process {pid} terminated by {signalName}"
  | .terminationSent pid => s!"Sent SIGTERM to process {pid}"
  | .terminationMissed pid => s!"Process {pid} not found (already terminated)"
  | .terminationDenied pid => s!"Permission denied to terminate process {pid}"
  | .terminationFailed pid reason => s!"Failed to send SIGTERM to process {pid}: {reason}"
  | .connecting bucket device => s!"connecting {bucket} to {device.text}"
  | .runningOn platform mode => s!"running on {platform} with {modeText mode}"
  | .usingEndpoint path => s!"using endpoint {path.text}"
  | .runFailed error => error.message
  | .settingsFailed causes => ": ".intercalate causes
  | .failedWithCode code => s!"run failed with code {code}"

/-- The notice as a line: its level and its wording. -/
def line (n : Notice) : String :=
  s!"{n.level.name} {n.text}"

/-! ### On the terminal -/

/-- One character as it is printed. -/
def shownChar (c : Char) : String :=
  if c = '\x1b' ∨ c = '\x07' ∨ c = '\x08' ∨ c = '\x0c' ∨ c = '\x7f' then
    "\\x" ++ String.ofList [Text.hexDigit (c.toNat / 16), Text.hexDigit (c.toNat % 16)]
  else if 0x80 ≤ c.toNat ∧ c.toNat ≤ 0x9f then
    "\\u\x7b" ++ String.ofList [Text.hexDigit (c.toNat / 16), Text.hexDigit (c.toNat % 16)] ++
      "\x7d"
  else c.toString

/-- The notice as it is printed. -/
def shown (n : Notice) : String :=
  n.level.name ++ " " ++ String.join (n.text.toList.map shownChar)

end Notice

end NbdAttach
