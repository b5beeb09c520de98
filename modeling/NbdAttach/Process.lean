/-!
# Processes

What a child process is started with, what the operating system says about child processes, and the
signals that end a run.

A `Command` is the program and its arguments. Nothing is quoted or split on the way to the system;
`Command.line` is for the eyes of an operator only.
-/

namespace NbdAttach

/-! ### Commands -/

/-- The program of a child process and its arguments. -/
structure Command where
  program : String
  args : List String
deriving DecidableEq, Repr, Inhabited

namespace Command

/-- The argument vector: the program comes first. -/
def argv (c : Command) : List String :=
  c.program :: c.args

/-- The command on one line, with blanks between. -/
def line (c : Command) : String :=
  " ".intercalate c.argv

end Command

/-! ### Process numbers and answers -/

/-- The number of a process. -/
abbrev Pid := UInt32

/-- The number of a process as the system takes it. It is signed there, for zero and the negative
numbers stand for groups of processes. -/
abbrev SystemPid := Int32

/-- The number to give to the system for a process. -/
def Pid.toSystem (pid : Pid) : SystemPid :=
  pid.toInt32

/-- The process for a number from the system. -/
def Pid.ofSystem (number : SystemPid) : Pid :=
  number.toUInt32

theorem Pid.toSystem_ofSystem (number : SystemPid) : (Pid.ofSystem number).toSystem = number := rfl

theorem Pid.ofSystem_toSystem (pid : Pid) : Pid.ofSystem pid.toSystem = pid := rfl

/-- The number of a signal. -/
abbrev Signal := Nat

/-- The answer to a wait for any child. -/
inductive Reaped
  /-- A child has exited, and its entry is gone from the system's table. -/
  | child (pid : Pid)
  /-- A signal cut the wait short. -/
  | interrupted
deriving DecidableEq, Repr, Inhabited

/-- The answer to a request to terminate a process. -/
inductive Termination
  /-- The request was delivered. -/
  | delivered
  /-- There is no such process any more. -/
  | notFound
  /-- The process belongs to somebody else. -/
  | denied
  | failed (reason : String)
deriving DecidableEq, Repr, Inhabited

end NbdAttach
