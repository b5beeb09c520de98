import NbdAttach.Path
import NbdAttach.Process
import NbdAttach.Text.Cut

/-!
# What programs do

On a machine a program is a list of actions, made from its arguments when it is started. The few
programs that every machine has are here: `true`, `false`, `sleep`, and a shell for the simplest of
scripts.
-/

namespace NbdAttach

/-- One thing that a process does. -/
inductive Action
  | sleep (ms : Nat)
  /-- Makes a file with this text, in place of what it held. -/
  | write (path : Path) (text : String)
  /-- Adds a text to a file. -/
  | append (path : Path) (text : String)
  /-- Waits until a file is there and holds something. -/
  | awaitText (path : Path)
  /-- Sends a signal to the run that is observed. -/
  | signalRun (signal : Signal)
  /-- Dies of a signal. -/
  | die (signal : Signal)
  | exit (status : Nat)
deriving DecidableEq, Repr

/-- What a program does, given its arguments. -/
abbrev Behaviour := List String → List Action

namespace Behaviour

/-- The number of milliseconds in a number of seconds such as `30` or `0.15`. -/
def milliseconds? (text : String) : Option Nat :=
  let (whole, fraction?) := Text.cutAt '.' text.toList
  let thousandths := ((fraction?.getD []) ++ ['0', '0', '0']).take 3
  match (String.ofList whole).toNat?, (String.ofList thousandths).toNat? with
  | some s, some ms => some (s * 1000 + ms)
  | _, _ => none

def sleep : Behaviour
  | [duration] =>
    match milliseconds? duration with
    | some ms => [.sleep ms, .exit 0]
    | none => [.exit 1]
  | _ => [.exit 1]

/-- The signals that a script can name. -/
def signalNumbers : List (String × Signal) :=
  [("HUP", 1), ("INT", 2), ("QUIT", 3), ("KILL", 9), ("TERM", 15)]

/-- The signal for a name or a number. -/
def signal? (word : String) : Option Signal :=
  match signalNumbers.lookup word with
  | some signal => some signal
  | none => word.toNat?

/-- The words of a command of a script. -/
def words (command : List Char) : List String :=
  ((Text.splitOn ' ' command).filter (· ≠ [])).map String.ofList

/-- What one command of a script does. An unknown command does nothing. -/
def scriptCommand : List String → List Action
  | ["sleep", duration] =>
    match milliseconds? duration with
    | some ms => [.sleep ms]
    | none => []
  | ["exit", status] => [.exit (status.toNat?.getD 0)]
  | ["exit"] => [.exit 0]
  | ["exec", "sleep", duration] => sleep [duration]
  | ["exec", "true"] => [.exit 0]
  | ["exec", "false"] => [.exit 1]
  | ["kill", option, target] =>
    match Text.after? ['-'] option.toList with
    | some name =>
      match signal? (String.ofList name) with
      | some signal =>
        if target = "$$" then [.die signal]
        else if target = "$PPID" then [.signalRun signal]
        else []
      | none => []
    | none => []
  | _ => []

/-- Runs the commands of a script that are separated by semicolons. -/
def shell : Behaviour
  | "-c" :: script :: _ =>
    (Text.splitOn ';' script.toList).flatMap (fun c => scriptCommand (words c)) ++ [.exit 0]
  | _ => [.exit 0]

/-- The programs of every machine, by name. -/
def standard : List (String × Behaviour) :=
  [("true", fun _ => [.exit 0]), ("false", fun _ => [.exit 1]), ("sleep", sleep), ("sh", shell)]

end Behaviour

end NbdAttach
