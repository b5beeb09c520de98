import NbdAttach.Machine.Standard
import NbdAttach.Program.Outcome

/-!
# The command line

Reads the environment and the settings file, plays the program on the standard machine, and prints
what the one who started it sees. What the program asks of processes and devices stays on that
machine, so a command line can be tried without touching a device.
-/

namespace NbdAttach

/-- The error number of a failed read. Some calls report it negated. -/
def errnoOfRead : IO.Error → Errno
  | .noFileOrDirectory _ code _ | .permissionDenied _ code _ | .inappropriateType _ code _
  | .invalidArgument _ code _ | .resourceExhausted _ code _ | .otherError code _ =>
    ⟨code.toInt32.toInt.natAbs⟩
  | _ => ⟨5⟩

/-- Reads a file. -/
def readContents (path : String) : IO (Except IoError ByteArray) := do
  match ← (IO.FS.readBinFile path).toBaseIO with
  | .ok bytes => pure (.ok bytes)
  | .error e => pure (.error (.system (errnoOfRead e)))

/-- What the program is started with, from the command line and the environment. A question is
answered without a look at the environment. -/
def Start.ofEnvironment (args : List String) : IO Start := do
  if Request.ofArgs args ≠ .attach then
    return { args }
  let settingsFile? ← match ← IO.getEnv Start.settingsVariable with
    | none => pure none
    | some path => do
      let contents ← readContents path
      pure (some (⟨path⟩, contents))
  let logFilterText? ← IO.getEnv "RUST_LOG"
  pure { args, settingsFile?, logFilterText? }

/-- For how many rounds a run is followed. -/
def playedRounds : Nat := 20000

end NbdAttach

open NbdAttach in
def main (args : List String) : IO UInt32 := do
  let start ← Start.ofEnvironment args
  match start.play Machine.host { host := Machine.standard } playedRounds with
  | none => pure 1
  | some outcome =>
    let report := outcome.report start.logFilter
    IO.print report.output
    IO.eprint report.errors
    pure (UInt32.ofNat report.code)
