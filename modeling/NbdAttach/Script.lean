import NbdAttach.Attachment
import NbdAttach.FileSystem.Calls

/-!
# Scripted hosts

A scripted host answers from lists that are fixed beforehand: which starts fail, what the waits
report, when signals come. Where a list is used up it does what a well-behaved system would do, so
every run against it ends: children exit when nothing else is to be reported, and a run that idles
for too long is asked to end.

* `Script` is the state of such a host, `Script.host` the host.
* `Script.rounds` is a number of rounds that is enough for every wait against the script.
-/

namespace NbdAttach

/-- What can be put at the place of a socket, to stand for a socket or to be in its way. -/
inductive Artifact
  | none
  | file
  | directory
  | fullDirectory
  /-- A link to a file. -/
  | link
  /-- A link to nothing. -/
  | dangling
  /-- A link to itself. -/
  | loop
  /-- Whatever is there goes away. -/
  | delete
deriving DecidableEq, Repr, Inhabited

/-- Puts an artifact at a path, as far as this is possible. Links lead into `home`: to `plain`, and
to `nowhere`. -/
def Artifact.place (a : Artifact) (home path : Path) (fs : FileSystem) : FileSystem :=
  match a with
  | .none => fs
  | .file => (fs.writeFile path .empty).2
  | .directory => (fs.makeDirectory path).2
  | .fullDirectory =>
    match fs.makeDirectory path with
    | (.ok (), fs) => (fs.writeFile (path.join "x") .empty).2
    | (.error _, fs) => fs
  | .link => (fs.makeLink path (home.join "plain")).2
  | .dangling => (fs.makeLink path (home.join "nowhere")).2
  | .loop => (fs.makeLink path path).2
  | .delete => (fs.unlink path).2

/-- A start of `program` that fails, after `skip` starts that do not. -/
structure PlannedFailure where
  program : String
  number : Errno
  skip : Nat
deriving DecidableEq, Repr, Inhabited

/-- A signal that is found by the look after `after` more looks. -/
structure PlannedSignal where
  after : Nat
  signal : Signal
deriving DecidableEq, Repr, Inhabited

/-- What the step into the background does. -/
structure PlannedBackground where
  artifact : Artifact := .none
  signals : List PlannedSignal := []
  error? : Option String := none
deriving DecidableEq, Repr, Inhabited

/-- The state of a scripted host. -/
structure Script where
  /-- The numbers of the next processes, and the one after those. -/
  pids : List Pid := []
  nextPid : Pid := 100
  failures : List PlannedFailure := []
  /-- What the next waits report. -/
  reports : List (Except Errno Reaped) := []
  /-- The answers to requests to terminate, by process. -/
  terminations : List (Pid × Termination) := []
  signals : List PlannedSignal := []
  live : List Pid := []
  /-- The processes that were asked to terminate, in order. -/
  terminated : List Pid := []
  /-- The processes that were started, in order. -/
  spawned : List (Pid × Command) := []
  idles : Nat := 0
  fs : FileSystem
  /-- The directory that the links of artifacts lead into. -/
  home : Path
  /-- Where artifacts are put. -/
  socket : Path
  /-- The program that makes an artifact when it is started. -/
  server : String := ""
  serverArtifact : Artifact := .none
  /-- What the step into the background does; nothing at all, where this is missing. -/
  background? : Option PlannedBackground := some {}
  /-- The buckets that steps into the background were made for. -/
  backgrounds : List String := []

namespace Script

/-- Puts an artifact at the place of the socket. -/
def place (s : Script) (a : Artifact) : Script :=
  { s with fs := a.place s.home s.socket s.fs }

/-- The failure of this start of `program`, if there is one, and the failures still to come. -/
def planSpawn (program : String) : List PlannedFailure → Option Errno × List PlannedFailure
  | [] => (none, [])
  | f :: rest =>
    if f.program = program then
      if f.skip = 0 then (some f.number, f :: rest)
      else
        let (answer, rest) := planSpawn program rest
        (answer, { f with skip := f.skip - 1 } :: rest)
    else
      let (answer, rest) := planSpawn program rest
      (answer, f :: rest)

def spawn (c : Command) (s : Script) : Except IoError Pid × Script :=
  match planSpawn c.program s.failures with
  | (some number, failures) => (.error (.system number), { s with failures })
  | (none, failures) =>
    let (pid, pids, nextPid) :=
      match s.pids with
      | pid :: rest => (pid, rest, s.nextPid)
      | [] => (s.nextPid, [], s.nextPid + 1)
    let s := { s with
      failures, pids, nextPid
      spawned := s.spawned ++ [(pid, c)]
      live := s.live ++ [pid] }
    (.ok pid, if c.program = s.server then s.place s.serverArtifact else s)

/-- The child that exits when nothing else is reported: the one that was asked last to terminate,
else the oldest. -/
def nextExit? (s : Script) : Option Pid :=
  match s.terminated.reverse.find? s.live.contains with
  | some pid => some pid
  | none => s.live.head?

/-- Reports the exit of a child. -/
def exit (s : Script) (pid : Pid) : Except IoError Reaped × Script :=
  (.ok (.child pid), { s with live := s.live.filter (· != pid) })

def waitAny (s : Script) : Except IoError Reaped × Script :=
  match s.reports with
  | .error number :: rest => (.error (.system number), { s with reports := rest })
  | .ok .interrupted :: rest => (.ok .interrupted, { s with reports := rest })
  | .ok (.child pid) :: rest => { s with reports := rest }.exit pid
  | [] =>
    match s.nextExit? with
    | some pid => s.exit pid
    | none => (.error (.system .noChild), s)

def terminate (pid : Pid) (s : Script) : Termination × Script :=
  match s.terminations.lookup pid with
  | some answer => (answer, s)
  | none =>
    if s.live.contains pid then (.delivered, { s with terminated := s.terminated ++ [pid] })
    else (.notFound, s)

/-- After how many idle rounds a run is asked to end. -/
def idleLimit : Nat := 200

/-- The signal that ends a run that idles for too long. -/
def idleSignal : Signal := 15

def idle (s : Script) : Script :=
  let s := { s with idles := s.idles + 1 }
  if s.idles % idleLimit = 0 ∧ s.signals = [] then { s with signals := [⟨0, idleSignal⟩] } else s

def takePending (s : Script) : Option Signal × Script :=
  match s.signals with
  | [] => (none, s)
  | next :: rest =>
    if next.after = 0 then (some next.signal, { s with signals := rest })
    else (none, { s with signals := { next with after := next.after - 1 } :: rest })

/-- Nothing changes while a scripted host waits, so one look tells how the wait ends. -/
def awaitSocket (path : Path) (_ : Readiness) (s : Script) : Except IoError Bool × Script :=
  match s.fs.look path with
  | .ok () => (.ok true, s)
  | .error e => if e.isNotFound then (.ok false, s) else (.error e, s)

def background (inv : Invocation) (s : Script) : Except RunError Unit × Script :=
  match s.background? with
  | none => (.ok (), s)
  | some plan =>
    let s := { s with
      backgrounds := s.backgrounds ++ [inv.bucket]
      signals := s.signals ++ plan.signals }
    let s := s.place plan.artifact
    match plan.error? with
    | none => (.ok (), s)
    | some reason => (.error (.background reason), s)

def removeSocket (path : Path) (s : Script) : Except IoError Unit × Script :=
  let (answer, fs) := s.fs.remove path
  (answer, { s with fs })

def unlink (path : Path) (s : Script) : Except Errno Unit × Script :=
  let (answer, fs) := s.fs.unlink path
  (answer, { s with fs })

/-- The host that answers from a script. -/
def host : Host Script where
  spawn
  waitAny
  terminate
  idle
  takePending
  awaitSocket
  background
  removeSocket
  stat path s := (s.fs.stat path, s)
  unlink
  catchSignals s := (.ok (), s)

/-- A number of rounds that is enough for every wait against the script, with the given number of
children registered: each round takes up a report, a child, or a look of a signal that is planned,
or it is one of the idle rounds before the run is asked to end. -/
def rounds (s : Script) (registered : Nat) : Nat :=
  let planned (signals : List PlannedSignal) := signals.foldl (fun n p => n + p.after + 1) 0
  let background := match s.background? with
    | none => 0
    | some plan => planned plan.signals
  s.reports.length + s.live.length + registered + planned s.signals + background +
    2 * idleLimit + registryCapacity

end Script

end NbdAttach
