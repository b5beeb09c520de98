import NbdAttach.Log.Filter
import NbdAttach.Program.Request
import NbdAttach.Program.Stages
import NbdAttach.Settings.Load

/-!
# Outcomes of the program

A start of the program answers a question or attaches a device, and ends with a code: 0 when the
question was answered or the run ended well, and 1 on every error. Usage errors are known by the
usage text that follows them.

* `Start.play` is the whole program.
* `Outcome.report` is what the one who started it sees. When the run steps into the background, the
  program ends well for whoever waits for it, and nothing is shown of what comes after.
-/

namespace NbdAttach

/-- What the program is started with. -/
structure Start where
  /-- The command line, the program's name not included. -/
  args : List String
  /-- The settings file that the environment names, with what reading it gives. -/
  settingsFile? : Option (Path × Except IoError ByteArray) := none
  /-- What the environment says about the log. -/
  logFilterText? : Option String := none

/-- How the program ended. -/
structure Outcome (σ : Type) where
  code : Nat
  output : String := ""
  /-- Does the usage text follow the error? -/
  usageShown : Bool := false
  session : Session σ

namespace Start

variable {σ : Type}

/-- The name in the environment that a settings file is given by. -/
def settingsVariable : String := "NBD_TRAMPOLINE_SETTINGS"

/-- The settings of the start: those of the file, or the defaults. -/
def settings (start : Start) : Except (List String) Settings :=
  match start.settingsFile? with
  | none => .ok {}
  | some (path, contents) =>
    match Settings.load path contents with
    | .ok settings => .ok settings
    | .error e => .error (s!"{settingsVariable}={path.text}" :: e.messages)

/-- Attaches the device, until the run ends. -/
def attach (start : Start) (h : Host σ) (s : Session σ) (rounds : Nat) : Option (Outcome σ) :=
  match start.settings with
  | .error causes => some { code := 1, session := s.tell (.settingsFailed causes) }
  | .ok settings =>
    match s.runCommandLine h settings start.args rounds with
    | none => none
    | some (.ok (), s) => some { code := 0, session := s }
    | some (.error e, s) =>
      some {
        code := e.exitStatus
        usageShown := e.isUsage
        session := (s.tell (.runFailed e)).tell (.failedWithCode e.exitCode) }

/-- The whole program. -/
def play (start : Start) (h : Host σ) (s : Session σ) (rounds : Nat) : Option (Outcome σ) :=
  match Request.ofArgs start.args with
  | .help => some { code := 0, output := usageText, session := s }
  | .version => some { code := 0, output := versionText, session := s }
  | .attach => start.attach h s rounds

/-- Was debugging asked for? The command line says so only when it was found to be right. -/
def wantsDebug (start : Start) : Bool :=
  match start.settings, Invocation.parse .plugin start.args with
  | .ok _, .ok inv => inv.mode.debug
  | _, _ => false

/-- Which notices are shown. -/
def logFilter (start : Start) : LogFilter :=
  .ofRun start.logFilterText? start.wantsDebug

end Start

/-- Is this the step into the background? -/
def Entry.isDetachment : Entry → Bool
  | .event (.background _ (.ok ())) => true
  | _ => false

/-- What the one who started the program sees. -/
structure Report where
  code : Nat
  output : String
  /-- The notices that are shown, and the usage text where it follows. -/
  errors : String
deriving DecidableEq, Repr, Inhabited

namespace Outcome

variable {σ : Type}

/-- Did the run step into the background? -/
def detached (o : Outcome σ) : Bool :=
  o.session.record.any Entry.isDetachment

/-- The notices up to the step into the background. -/
def noticesAtTerminal (o : Outcome σ) : List Notice :=
  (o.session.record.reverse.takeWhile fun e => !e.isDetachment).filterMap Entry.notice?

def report (o : Outcome σ) (filter : LogFilter) : Report where
  code := if o.detached then 0 else o.code
  output := o.output
  errors :=
    String.join ((o.noticesAtTerminal.filter filter.shows).map fun n => n.shown ++ "\n") ++
      if o.usageShown then usageText else ""

end Outcome

end NbdAttach
