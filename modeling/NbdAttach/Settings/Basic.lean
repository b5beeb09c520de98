import NbdAttach.Json.Write
import NbdAttach.Path

/-!
# Settings

What an installation fixes for every run: the programs, the place of the sockets, the spelling of
the plugin's parameters, the block size and the bounds of the wait for the server.

`Settings.validate` accepts settings that a run can start from; `Settings.Fault` says what is wrong
with others. `Settings.write` is an object of all the fields, in order, so that a file of them does
not depend on any default.
-/

namespace NbdAttach

/-- The bounds of the wait for the server, in milliseconds. -/
structure Readiness where
  /-- The pause between two looks. -/
  pollInterval : UInt64 := 50
  /-- The time after which the wait is given up. -/
  maxWait : UInt64 := 1000
deriving DecidableEq, Repr, Inhabited

namespace Readiness

/-- What is wrong with the bounds of a wait. -/
inductive Fault
  | zeroInterval
  | intervalAboveWait
  | waitTooLong
deriving DecidableEq, Repr

def Fault.message : Fault → String
  | .zeroInterval => "poll_interval_ms must be greater than zero"
  | .intervalAboveWait => "poll_interval_ms cannot be greater than max_wait_ms"
  | .waitTooLong => "max_wait_ms should not exceed 60 seconds"

/-- The longest wait that is accepted. -/
def longestWait : UInt64 := 60000

def validate (r : Readiness) : Except Fault Unit :=
  if r.pollInterval = 0 then .error .zeroInterval
  else if r.maxWait < r.pollInterval then .error .intervalAboveWait
  else if longestWait < r.maxWait then .error .waitTooLong
  else .ok ()

end Readiness

/-- What an installation fixes for every run. -/
structure Settings where
  serverExecutable : String := "nbdkit"
  clientExecutable : String := "nbd-client"
  /-- The plugin that the server loads to reach the bucket. -/
  pluginName : String := "s3backer"
  socketDir : Path := ⟨"/run/s3backer-nbd"⟩
  /-- Stands in front of the name of each parameter of the plugin. -/
  paramPrefix : String := "s3b_"
  bucketParam : String := "bucket"
  /-- The filter that ends the server when its last client leaves. -/
  exitFilter : String := "exitlast"
  clientBlockSize : UInt32 := 4096
  readiness : Readiness := {}
deriving DecidableEq, Repr, Inhabited

namespace Settings

/-- What is wrong with settings. -/
inductive Fault
  | emptyExecutable
  | blockSize (found : UInt32)
  | readiness (fault : Readiness.Fault)
deriving DecidableEq, Repr

/-- The message and the causes behind it, outermost first. -/
def Fault.messages : Fault → List String
  | .emptyExecutable => ["executable names must not be empty"]
  | .blockSize found => [s!"client_block_size must be a power of two, got {found}"]
  | .readiness fault => ["invalid readiness settings", fault.message]

/-- Is exactly one bit of the number set? -/
def isBlockSize (n : UInt32) : Bool :=
  n != 0 && n &&& (n - 1) == 0

def validate (s : Settings) : Except Fault Unit :=
  if s.serverExecutable = "" ∨ s.clientExecutable = "" then .error .emptyExecutable
  else if ¬isBlockSize s.clientBlockSize then .error (.blockSize s.clientBlockSize)
  else
    match s.readiness.validate with
    | .error fault => .error (.readiness fault)
    | .ok () => .ok ()

end Settings

/-! ### Their text -/

open Json

def Readiness.write (r : Readiness) : List Char :=
  writeObject
    [("pollIntervalMs", writeNatural r.pollInterval.toNat),
     ("maxWaitMs", writeNatural r.maxWait.toNat)]

/-- The text of a settings file. -/
def Settings.write (s : Settings) : String :=
  String.ofList <| writeObject
    [("serverExecutable", writeText s.serverExecutable),
     ("clientExecutable", writeText s.clientExecutable),
     ("pluginName", writeText s.pluginName),
     ("socketDir", writeText s.socketDir.text),
     ("paramPrefix", writeText s.paramPrefix),
     ("bucketParam", writeText s.bucketParam),
     ("exitFilter", writeText s.exitFilter),
     ("clientBlockSize", writeNatural s.clientBlockSize.toNat),
     ("readiness", s.readiness.write)]

end NbdAttach
