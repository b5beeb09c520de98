import NbdAttach.CommandLine.FlagTable
import NbdAttach.CommandLine.Token

/-!
# Flags

A token of the flag run that is not an extra becomes a flag once the table says what its name
means. `Flag.read` does this for one token; `Flag.param?` is what the plugin gets to see of a
flag, and `Mode.ofFlags` what a run of flags switches on.

* A `UsageError` says how a command line can be wrong. Such an error is found before any process is
  started.
* A `Mode` has three switches that are derived from the command line once and hold for the whole
  run. A `Mode.Setting` changes one of them, or takes all of them back.
-/

namespace NbdAttach

/-! ### Usage errors -/

/-- What is wrong with a command line. -/
inductive UsageError
  /-- A flag that does not exist, is spelled wrongly or stands behind the bucket. -/
  | invalidFlag (token : String)
  /-- A flag that can only be switched on was given another value. -/
  | notBoolean (flag value : String)
  | missingValue (flag : String)
  /-- There are not exactly two operands. -/
  | operandCount (found : Nat)
deriving DecidableEq, Repr, Inhabited

namespace UsageError

def message : UsageError → String
  | .invalidFlag token => s!"invalid flag \"{token}\""
  | .notBoolean flag value => s!"boolean flag \"--{flag}\" value must be \"true\", got \"{value}\""
  | .missingValue flag => s!"flag \"--{flag}\" requires a value"
  | .operandCount found =>
    s!"expected bucket and device arguments, found {found} positional argument(s)"

end UsageError

/-! ### Modes of a run -/

/-- The switches of a run; all are off by default. -/
structure Mode where
  debug : Bool := false
  foreground : Bool := false
  readOnly : Bool := false
deriving DecidableEq, Repr, Inhabited

namespace Mode

/-- One change of the switches. -/
inductive Setting
  | debug (on : Bool)
  | foreground (on : Bool)
  | readOnly (on : Bool)
  /-- All switches return to their defaults. -/
  | reset
deriving DecidableEq, Repr

def apply (m : Mode) : Setting → Mode
  | .debug on => { m with debug := on }
  | .foreground on => { m with foreground := on }
  | .readOnly on => { m with readOnly := on }
  | .reset => {}

/-- The modes after each of the settings in turn. -/
def applyEach (m : Mode) : List Setting → List Mode
  | [] => []
  | s :: rest => m.apply s :: (m.apply s).applyEach rest

/-- The modes after all of the settings. -/
def applyAll (m : Mode) (settings : List Setting) : Mode :=
  settings.foldl apply m

end Mode

/-! ### Flags -/

/-- Texts that differ from `true` only in the case of ASCII letters. -/
def saysTrue (value : String) : Bool :=
  value.toList.map Char.toLower == "true".toList

/-- A flag of the command line. -/
inductive Flag
  /-- `-f`: stay in the foreground. -/
  | foreground
  /-- `-d`: log more, and stay in the foreground. -/
  | debug
  /-- A flag that the table declares as a switch. -/
  | switch (name : String)
  /-- A flag that the table declares as taking a value. -/
  | valued (name value : String)
deriving DecidableEq, Repr

namespace Flag

/-- Reads a named flag by what the table declares; `token` is how it was spelled. -/
def ofNamed (table : FlagTable) (token name : String) (value? : Option String) :
    Except UsageError Flag :=
  match table.kind? name with
  | some .boolean =>
    match value? with
    | none => .ok (.switch name)
    | some value => if saysTrue value then .ok (.switch name) else .error (.notBoolean name value)
  | some .valued =>
    match value? with
    | none => .error (.missingValue name)
    | some value => .ok (.valued name value)
  | none => .error (.invalidFlag token)

/-- Reads a token of the flag run that does not begin with `--nbd`. -/
def read (table : FlagTable) (token : String) : Except UsageError Flag :=
  match Token.read token with
  | .foreground => .ok .foreground
  | .debug => .ok .debug
  | .named name value? => ofNamed table token name value?
  | _ => .error (.invalidFlag token)

/-- What the plugin is given for a flag: its name and its value. -/
def param? : Flag → Option (String × String)
  | .switch name => some (name, "true")
  | .valued name value => some (name, value)
  | .foreground | .debug => none

end Flag

/-- What a run of flags switches on. The order of the flags does not count. -/
def Mode.ofFlags (flags : List Flag) : Mode where
  debug := flags.contains .debug || flags.contains (.switch "debug")
  foreground := flags.contains .foreground || flags.contains .debug
  readOnly := flags.contains (.switch "readOnly")

end NbdAttach
