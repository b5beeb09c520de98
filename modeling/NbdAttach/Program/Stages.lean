import NbdAttach.Attachment
import NbdAttach.Endpoint.Resolve

/-!
# The stages of a start

On the way from a command line to a run there are five stages: the settings are checked, the
command line is read, the endpoint is resolved, signals are caught, and the run begins. The first
stage that fails gives the error, and no later one has any effect.
-/

namespace NbdAttach

/-- What the log calls the system that the program was made for. -/
def platform : String := "Unix"

namespace Session

variable {σ : Type}

/-- The last two stages: catches signals, then runs. -/
def catchAndRun (h : Host σ) (a : Attachment) (s : Session σ) (rounds : Nat) :
    Option (Except RunError Unit × Session σ) :=
  match s.catchSignals h with
  | (.error cause, s) => some (.error (.signalSetup cause), s)
  | (.ok (), s) => a.run h s rounds

/-- The stages on the host, for an invocation that was found to be right. -/
def runInvocation (h : Host σ) (settings : Settings) (inv : Invocation) (s : Session σ)
    (rounds : Nat) : Option (Except RunError Unit × Session σ) :=
  match (s.tell (.runningOn platform inv.mode)).resolve h settings.socketDir inv.device with
  | (.error e, s) => some (.error e, s)
  | (.ok endpoint, s) =>
    (s.tell (.usingEndpoint endpoint.path)).catchAndRun h { settings, inv, endpoint } rounds

/-- All stages. -/
def runCommandLine (h : Host σ) (settings : Settings) (args : List String) (s : Session σ)
    (rounds : Nat) : Option (Except RunError Unit × Session σ) :=
  match settings.validate with
  | .error fault => some (.error (.settings fault.messages), s)
  | .ok () =>
    match Invocation.parse .plugin args with
    | .error e => some (.error (.usage e), s)
    | .ok inv => s.runInvocation h settings inv rounds

end Session

end NbdAttach
