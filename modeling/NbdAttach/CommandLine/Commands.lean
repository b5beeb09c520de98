import NbdAttach.CommandLine.Invocation
import NbdAttach.Endpoint.Identity
import NbdAttach.Process
import NbdAttach.Settings.Basic

/-!
# The three commands of an invocation

* `serverCommand` starts the server; the device is not part of it.
* `clientCommand` attaches the device to the server's endpoint.
* `disconnectCommand` detaches the device again.

The server reads its arguments in order, so the order here is part of the meaning: the server's own
flags, more flags from the command line, the plugin, its parameters, the bucket, more parameters.
-/

namespace NbdAttach.Invocation

/-- `arg` where the condition holds, and nothing otherwise. -/
def argIf (condition : Bool) (arg : String) : List String :=
  if condition then [arg] else []

/-- The switches that the server itself understands. -/
def modeFlags (mode : Mode) : List String :=
  argIf mode.debug "--verbose" ++ argIf mode.foreground "--foreground" ++
    argIf mode.readOnly "--read-only"

def serverCommand (settings : Settings) (endpoint : Endpoint) (inv : Invocation) : Command where
  program := settings.serverExecutable
  args :=
    modeFlags inv.mode ++
    [s!"--filter={settings.exitFilter}", "--unix", endpoint.path.text] ++
    inv.serverFlags ++
    [settings.pluginName] ++
    inv.params.map (fun (name, value) => s!"{settings.paramPrefix}{name}={value}") ++
    [s!"{settings.bucketParam}={inv.bucket}"] ++
    inv.extraParams

def clientCommand (settings : Settings) (endpoint : Endpoint) (inv : Invocation) : Command where
  program := settings.clientExecutable
  args :=
    ["-unix", endpoint.path.text, "-block-size", toString settings.clientBlockSize.toNat,
      "-nofork"] ++
    argIf inv.mode.readOnly "-readonly" ++
    [inv.device.text]

def disconnectCommand (settings : Settings) (inv : Invocation) : Command where
  program := settings.clientExecutable
  args := ["-d", inv.device.text]

end NbdAttach.Invocation
