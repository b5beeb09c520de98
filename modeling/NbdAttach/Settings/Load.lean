import NbdAttach.Json.Record
import NbdAttach.Settings.Basic
import NbdAttach.SystemError

/-!
# Settings files

A settings file is a JSON text that changes some of the defaults. It is read in three stages: the
file has to be text, the text has to be a record of settings, and the settings have to be valid.

* `Settings.decode` reads the text; absent fields keep their defaults, unknown ones are skipped.
* `Settings.load` goes through all stages, given what reading the file gave.
-/

namespace NbdAttach

open Json

namespace Readiness

/-- The fields of the bounds of a wait, in order. -/
def fields : List (FieldReader Readiness) :=
  [⟨"pollIntervalMs", fun r text =>
      (readNatural "u64" maxWord text).map fun (n, rest) =>
        ({ r with pollInterval := UInt64.ofNat n }, rest)⟩,
   ⟨"maxWaitMs", fun r text =>
      (readNatural "u64" maxWord text).map fun (n, rest) =>
        ({ r with maxWait := UInt64.ofNat n }, rest)⟩]

end Readiness

namespace Settings

/-- A field that holds a text. -/
def textField (expected name : String) (put : Settings → String → Settings) :
    FieldReader Settings where
  name
  read s text := (readText expected text).map fun (value, rest) => (put s value, rest)

/-- The fields of settings, in order. -/
def fields : List (FieldReader Settings) :=
  [textField "a string" "serverExecutable" fun s v => { s with serverExecutable := v },
   textField "a string" "clientExecutable" fun s v => { s with clientExecutable := v },
   textField "a string" "pluginName" fun s v => { s with pluginName := v },
   textField "path string" "socketDir" fun s v => { s with socketDir := ⟨v⟩ },
   textField "a string" "paramPrefix" fun s v => { s with paramPrefix := v },
   textField "a string" "bucketParam" fun s v => { s with bucketParam := v },
   textField "a string" "exitFilter" fun s v => { s with exitFilter := v },
   ⟨"clientBlockSize", fun s text =>
      (readNatural "u32" 0xffffffff text).map fun (n, rest) =>
        ({ s with clientBlockSize := UInt32.ofNat n }, rest)⟩,
   ⟨"readiness", fun s text =>
      (readRecord "struct ReadinessConfig" Readiness.fields {} text).map fun (r, rest) =>
        ({ s with readiness := r }, rest)⟩]

/-- Reads the text of a settings file. -/
def decode (text : String) : Except Failure Settings :=
  decodeRecord "struct TrampolineSettings" fields {} text.toList

/-- Why a settings file cannot be used. -/
inductive LoadError
  | read (path : Path) (cause : IoError)
  | parse (path : Path) (text : String) (failure : Failure)
  | invalid (fault : Fault)
deriving DecidableEq, Repr

/-- The message and the causes behind it, outermost first. -/
def LoadError.messages : LoadError → List String
  | .read path cause => [s!"Failed to read settings file {path.text}", cause.message]
  | .parse path text failure =>
    [s!"Failed to parse settings file {path.text}", failure.message text.toList]
  | .invalid fault => fault.messages

/-- Reads bytes as text. -/
def textOfBytes (bytes : ByteArray) : Except IoError String :=
  match String.fromUTF8? bytes with
  | some text => .ok text
  | none => .error .notText

/-- The settings of a file, given the bytes that it holds or the failure to read them. -/
def load (path : Path) (contents : Except IoError ByteArray) : Except LoadError Settings :=
  match contents.bind textOfBytes with
  | .error cause => .error (.read path cause)
  | .ok text =>
    match decode text with
    | .error failure => .error (.parse path text failure)
    | .ok settings =>
      match settings.validate with
      | .error fault => .error (.invalid fault)
      | .ok () => .ok settings

end Settings

end NbdAttach
