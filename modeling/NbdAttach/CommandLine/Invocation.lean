import NbdAttach.CommandLine.Flag
import NbdAttach.Path

/-!
# Invocations

An invocation is a command line that was found to be right: which bucket goes to which device, in
which modes, and what the server and the plugin are told besides.

A command line is checked in three stages, and the first stage that finds something wrong decides:

1. every token that begins with `--nbd` is one of the extras;
2. there are exactly two operands, the bucket and the device;
3. every other token of the flag run is a flag.
-/

namespace NbdAttach

/-- A command line that was found to be right. -/
structure Invocation where
  mode : Mode
  /-- The bucket, with a directory in it where one was given. -/
  bucket : String
  /-- The block device on this host. -/
  device : Path
  /-- More flags for the server. -/
  serverFlags : List String
  /-- The flags that are handed on to the plugin, with their values. -/
  params : List (String × String)
  /-- More parameters, as they were written. -/
  extraParams : List String
deriving Repr, Inhabited

namespace Invocation

/-- Two invocations ask for the same: all parts are equal, and the devices are the same path. -/
def Same (a b : Invocation) : Prop :=
  a.mode = b.mode ∧ a.bucket = b.bucket ∧ a.device.Same b.device ∧
    a.serverFlags = b.serverFlags ∧ a.params = b.params ∧ a.extraParams = b.extraParams

instance (a b : Invocation) : Decidable (Same a b) :=
  inferInstanceAs (Decidable (_ ∧ _ ∧ _ ∧ _ ∧ _ ∧ _))

/-- The first token of the run that begins with `--nbd` and is none of the extras. -/
def badExtra? (run : List String) : Option String :=
  run.find? fun token => Token.read token == .badExtra

/-- The bucket and the device. Where there are not two operands, a flag among those behind the
bucket is what is wrong; without one, their number is. -/
def readOperands : List String → Except UsageError (String × String)
  | [bucket, device] => .ok (bucket, device)
  | found =>
    match found.tail.find? isDashed with
    | some stray => .error (.invalidFlag stray)
    | none => .error (.operandCount found.length)

/-- The tokens of the run that are for the plugin or switch a mode. -/
def flagTokens (run : List String) : List String :=
  run.filter fun token => !(Token.read token).isExtra

/-- The flags of a run, in order; the first wrong one decides. -/
def readFlags (table : FlagTable) : List String → Except UsageError (List Flag)
  | [] => .ok []
  | token :: rest =>
    match Flag.read table token with
    | .error e => .error e
    | .ok flag =>
      match readFlags table rest with
      | .error e => .error e
      | .ok flags => .ok (flag :: flags)

/-- Reads a command line, the program's name not included. -/
def parse (table : FlagTable) (args : List String) : Except UsageError Invocation :=
  let run := flagRun args
  match badExtra? run with
  | some token => .error (.invalidFlag token)
  | none =>
    match readOperands (operands args) with
    | .error e => .error e
    | .ok (bucket, device) =>
      match readFlags table (flagTokens run) with
      | .error e => .error e
      | .ok flags =>
        .ok {
          mode := .ofFlags flags
          bucket
          device := ⟨device⟩
          serverFlags := run.filterMap fun token => (Token.read token).serverFlag?
          params := flags.filterMap Flag.param?
          extraParams := run.filterMap fun token => (Token.read token).extraParam? }

end Invocation

end NbdAttach
