import NbdAttach.Attachment
import NbdAttach.FileSystem.Calls
import NbdAttach.Machine.Behaviour
import NbdAttach.Readiness
import NbdAttach.SignalCell
import NbdAttach.SystemCalls

/-!
# Machines

A machine is a simulated host with a clock, a file system and processes. Time passes only while the
run that is observed waits or sleeps; then the actions of all processes happen in the order of the
times at which they are due.

* `Machine.step` performs the action that is due first.
* `Machine.advance` lets time pass.
* `Machine.calls` are the system calls of the machine, and `Machine.host` is the machine as a host
  for runs, whose control of processes is made of these calls.
-/

namespace NbdAttach

/-- A process of a machine. It stays in the table after its end, until it is waited for. -/
structure MachineProcess where
  number : SystemPid
  /-- Was it started by the run? Only such processes are waited for. -/
  isChild : Bool
  todo : List Action
  /-- When the next action is due. -/
  due : Nat
  ending? : Option Ending := none
deriving Repr

structure Machine where
  /-- In milliseconds. -/
  clock : Nat := 0
  fs : FileSystem
  processes : List MachineProcess := []
  nextNumber : SystemPid := 1000
  signals : SignalCell := {}
  /-- What the executable files do. -/
  programs : List (Location × Behaviour) := []
  /-- Where programs are looked for that are named without a directory. -/
  searchPath : List Path := [⟨"/usr/bin"⟩, ⟨"/bin"⟩]
  /-- How the process ended that was waited for last. -/
  lastEnding? : Option Ending := none

namespace Machine

/-! ### Processes -/

def isRunning (p : MachineProcess) : Bool :=
  p.ending?.isNone

/-- Puts a process in place of the one with its number. -/
def update (m : Machine) (p : MachineProcess) : Machine :=
  { m with processes := m.processes.map fun q => if q.number = p.number then p else q }

/-- The running process whose next action is due first; of several, the oldest. -/
def next? (m : Machine) : Option MachineProcess :=
  (m.processes.filter isRunning).foldl (fun best p =>
    match best with
    | none => some p
    | some b => if p.due < b.due then some p else some b) none

/-- Is there something in the file at a path? -/
def hasText (m : Machine) (path : Path) : Bool :=
  match m.fs.content path with
  | .ok content => !content.isEmpty
  | .error _ => false

/-- Performs the next action of a process. -/
def perform (m : Machine) (p : MachineProcess) : Machine :=
  match p.todo with
  | [] => m.update { p with ending? := some (.exited 0) }
  | .sleep ms :: rest => m.update { p with todo := rest, due := p.due + ms }
  | .write path text :: rest =>
    { m.update { p with todo := rest } with fs := (m.fs.writeFile path text.toUTF8).2 }
  | .append path text :: rest =>
    { m.update { p with todo := rest } with fs := (m.fs.appendFile path text.toUTF8).2 }
  | .awaitText path :: rest =>
    if m.hasText path then m.update { p with todo := rest }
    else m.update { p with due := p.due + 1 }
  | .signalRun signal :: rest =>
    { m.update { p with todo := rest } with signals := m.signals.record signal }
  | .die signal :: _ => m.update { p with ending? := some (.killed signal) }
  | .exit status :: _ => m.update { p with ending? := some (.exited status) }

/-- Performs the next action of a process at the time at which it is due. -/
def performDue (m : Machine) (p : MachineProcess) : Machine :=
  { m with clock := max m.clock p.due }.perform p

/-- Performs the action that is due first, if that is not after `limit`. -/
def step (m : Machine) (limit : Nat) : Option Machine :=
  match m.next? with
  | none => none
  | some p => if limit < p.due then none else some (m.performDue p)

/-- Performs all actions that are due up to `limit`, but no more than the given number. -/
def stepsUntil (m : Machine) (limit : Nat) : Nat → Machine
  | 0 => { m with clock := max m.clock limit }
  | actions + 1 =>
    match m.step limit with
    | none => { m with clock := max m.clock limit }
    | some m => m.stepsUntil limit actions

/-- The most actions that can be due within a time. -/
def actionsWithin (m : Machine) (ms : Nat) : Nat :=
  m.processes.foldl (fun n p => n + p.todo.length + 1) 0 * (ms + 2)

/-- Lets time pass. -/
def advance (m : Machine) (ms : Nat) : Machine :=
  m.stepsUntil (m.clock + ms) (m.actionsWithin ms)

/-- Adds a process, whose first action is due in a moment. -/
def start (m : Machine) (isChild : Bool) (todo : List Action) : SystemPid × Machine :=
  (m.nextNumber,
    { m with
      processes := m.processes ++ [{ number := m.nextNumber, isChild, todo, due := m.clock + 1 }]
      nextNumber := m.nextNumber + 1 })

/-! ### Programs -/

/-- Makes an executable file. -/
def install (m : Machine) (loc : Location) (behaviour : Behaviour) : Machine :=
  { m with
    fs := m.fs.make loc (.file .empty true)
    programs := (loc, behaviour) :: m.programs }

/-- What the file at a path does when it is executed. -/
def executable (m : Machine) (path : Path) : Except Errno Behaviour :=
  match m.fs.node true path with
  | .error e => .error e
  | .ok (loc, node) =>
    match node.kind, m.programs.lookup loc with
    | .file _ true, some behaviour => .ok behaviour
    | _, _ => .error .accessDenied

/-- Looks for a program in directories. A directory where it is missing is passed over, also one
where it cannot be executed, but then that is the failure in the end. -/
def search (m : Machine) (program : String) (missing : Errno) :
    List Path → Except Errno Behaviour
  | [] => .error missing
  | dir :: dirs =>
    match m.executable (dir.join program) with
    | .ok behaviour => .ok behaviour
    | .error e =>
      if e = .noEntry ∨ e = .notDirectory then m.search program missing dirs
      else if e = .accessDenied then m.search program e dirs
      else .error e

/-- What a program does, by its path or by its name alone. -/
def findProgram (m : Machine) (program : String) : Except Errno Behaviour :=
  if program = "" then .error .noEntry
  else if program.toList.contains '/' then m.executable ⟨program⟩
  else m.search program .noEntry m.searchPath

/-! ### System calls -/

def hasNul (text : String) : Bool :=
  text.toList.contains '\x00'

def startProgram (c : Command) (m : Machine) : Except IoError SystemPid × Machine :=
  if c.argv.any hasNul then (.error .nulInArgument, m)
  else
    match m.findProgram c.program with
    | .error e => (.error (.system e), m)
    | .ok behaviour =>
      let (number, m) := m.start true (behaviour c.args)
      (.ok number, m)

/-- How long a wait is observed, in actions. -/
def waitLimit : Nat := 1000000

/-- Waits until a child has ended or a signal arrives. A child that has ended before counts first,
and a signal only when it arrives during the wait. -/
def waitWithin (m : Machine) : Nat → Except Errno ChildStatus × Machine
  | 0 => (.error .tryAgain, m)
  | actions + 1 =>
    match m.processes.find? fun p => p.isChild && !isRunning p with
    | some p =>
      (.ok { number := p.number, ending := p.ending?.getD default },
        { m with
          processes := m.processes.filter (·.number != p.number)
          lastEnding? := p.ending? })
    | none =>
      if !m.processes.any (·.isChild) then (.error .noChild, m)
      else
        match m.next? with
        | none => (.error .tryAgain, m)
        | some p =>
          match p.todo with
          | .signalRun _ :: _ => (.error .interrupted, m.performDue p)
          | _ => (m.performDue p).waitWithin actions

/-- Sends a signal that ends processes. It reaches a process that has ended too, as long as that was
not waited for. -/
def kill (number : SystemPid) (signal : Signal) (m : Machine) : Except Errno Unit × Machine :=
  match m.processes.find? (·.number == number) with
  | none => (.error .noProcess, m)
  | some p =>
    if isRunning p then (.ok (), m.update { p with ending? := some (.killed signal) })
    else (.ok (), m)

/-- The calls of the machine that control processes. -/
def calls : SystemCalls Machine where
  start := startProgram
  wait m := m.waitWithin waitLimit
  kill

/-! ### Requests of a run -/

def spawn (c : Command) (m : Machine) : Except IoError Pid × Machine :=
  calls.spawn c m

def waitAny (m : Machine) : Except IoError Reaped × Machine :=
  calls.waitAny m

def terminate (pid : Pid) (m : Machine) : Termination × Machine :=
  calls.terminate pid m

/-- How long a run sleeps while there is no child to wait for, in milliseconds. -/
def idleInterval : Nat := 50

def idle (m : Machine) : Machine :=
  m.advance idleInterval

def takePending (m : Machine) : Option Signal × Machine :=
  let (signal?, signals) := m.signals.take
  (signal?, { m with signals })

/-- The run's view of a wait for a file that started at some time. Even the shortest sleep takes a
moment. -/
def watch (path : Path) (started : Nat) : Watch Machine where
  look m := (m.fs.look path, m)
  elapsed m := (m.clock - started, m)
  sleep ms m := m.advance (max ms 1)

def awaitFile (path : Path) (bounds : Readiness) (m : Machine) : Except IoError Bool × Machine :=
  let budget := bounds.maxWait.toNat
  match (watch path m.clock).await bounds.pollInterval.toNat budget m (budget + 2) with
  | some answer => answer
  | none => (.ok false, m)

def removeSocket (path : Path) (m : Machine) : Except IoError Unit × Machine :=
  let (answer, fs) := m.fs.remove path
  (answer, { m with fs })

def unlink (path : Path) (m : Machine) : Except Errno Unit × Machine :=
  let (answer, fs) := m.fs.unlink path
  (answer, { m with fs })

/-- In the background a run starts from the root directory, whatever directory it was started
from. -/
def background (m : Machine) : Except RunError Unit × Machine :=
  (.ok (), { m with fs.workingDir := [] })

/-- The names of signals in the log. -/
def signalNames : List (Signal × String) :=
  [(1, "SIGHUP"), (2, "SIGINT"), (3, "SIGQUIT"), (9, "SIGKILL"), (15, "SIGTERM")]

/-- What a machine says about the requests of a run. -/
def remarks (e : Event) (m : Machine) : List Notice :=
  match e with
  | .waitAny (.ok (.child pid)) =>
    match m.lastEnding? with
    | some (.exited status) => [.exitedWith pid status]
    | some (.killed signal) => [.killedBy pid ((signalNames.lookup signal).getD "")]
    | none => []
  | .terminate pid .delivered => [.terminationSent pid]
  | .terminate pid .notFound => [.terminationMissed pid]
  | .terminate pid .denied => [.terminationDenied pid]
  | .terminate pid (.failed reason) => [.terminationFailed pid reason]
  | .background inv _ => [.connecting inv.bucket inv.device]
  | _ => []

/-- The machine as a host for runs. -/
def host : Host Machine where
  spawn
  waitAny
  terminate
  idle
  takePending
  awaitSocket := awaitFile
  background _ := background
  removeSocket
  stat path m := (m.fs.stat path, m)
  unlink
  catchSignals m := (.ok (), m)
  remarks

end Machine

end NbdAttach
