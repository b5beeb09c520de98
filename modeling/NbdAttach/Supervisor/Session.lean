import NbdAttach.Host

/-!
# Sessions

A session is a run in progress: the state of the host, the registry of children, and the record of
all that was asked of the host and told to the log. Nothing reads the record; it is there so that
the order of requests and notices can be spoken about.

* The `Registry` has the children that were started and whose exit has not been reported, in the
  order of their start. A process number can stand in it twice, when the system hands out a number
  again too early; an exit then takes the earlier entry.
* `Session.trace` lists the events, `Session.log` the notices, both from the first to the last.
* Each request to the host is one function here, and each of them is `Session.ask`, which records
  the request with its answer.
* `Session.register` is the only way into the registry.
* A call that may go on for ever is followed for some rounds; `Progress` is how far it has come.
-/

namespace NbdAttach

/-! ### The registry of children -/

/-- The most children that are watched at a time: server, client and helper, with room to spare. -/
def registryCapacity : Nat := 10

/-- The children that are watched. -/
structure Registry where
  pids : List Pid := []
deriving DecidableEq, Repr, Inhabited

namespace Registry

def isEmpty (r : Registry) : Bool :=
  r.pids.isEmpty

def isFull (r : Registry) : Bool :=
  registryCapacity ≤ r.pids.length

def size (r : Registry) : Nat :=
  r.pids.length

def contains (r : Registry) (pid : Pid) : Bool :=
  r.pids.contains pid

/-- Adds a child that was just started. -/
def insert (r : Registry) (pid : Pid) : Registry :=
  ⟨r.pids ++ [pid]⟩

/-- Takes out the earliest entry of a child that has exited. -/
def erase (r : Registry) (pid : Pid) : Registry :=
  ⟨r.pids.erase pid⟩

end Registry

/-! ### Sessions -/

/-- One entry of the record. -/
inductive Entry
  | event (e : Event)
  | notice (n : Notice)

namespace Entry

def event? : Entry → Option Event
  | .event e => some e
  | .notice _ => none

def notice? : Entry → Option Notice
  | .notice n => some n
  | .event _ => none

end Entry

/-- A run in progress. -/
structure Session (σ : Type) where
  host : σ
  registry : Registry := {}
  /-- What happened, the latest first. -/
  record : List Entry := []
  /-- Was a child to be registered although the registry was full? The program would have stopped
  there. -/
  overflowed : Bool := false

namespace Session

variable {σ : Type}

/-- The requests to the host with their answers, in order. -/
def trace (s : Session σ) : List Event :=
  s.record.reverse.filterMap Entry.event?

/-- The notices, in order. -/
def log (s : Session σ) : List Notice :=
  s.record.reverse.filterMap Entry.notice?

/-- Tells the log. -/
def tell (s : Session σ) (n : Notice) : Session σ :=
  { s with record := .notice n :: s.record }

/-- Records an answered request, and in front of it what the host has to say about it. -/
def answered (h : Host σ) (s : Session σ) (e : Event) (host : σ) : Session σ :=
  { s with
    host
    record := .event e :: ((h.remarks e host).reverse.map .notice ++ s.record) }

/-- Registers a child that was just started. -/
def register (s : Session σ) (pid : Pid) : Session σ :=
  if s.registry.isFull then { s with overflowed := true }
  else { s with registry := s.registry.insert pid }

/-! ### Requests -/

/-- Makes a request, whose answer from the host is given with the host's next state. -/
def ask {α : Type} (h : Host σ) (e : α → Event) (answer : α × σ) (s : Session σ) :
    α × Session σ :=
  (answer.1, s.answered h (e answer.1) answer.2)

def spawnProcess (h : Host σ) (c : Command) (s : Session σ) : Except IoError Pid × Session σ :=
  s.ask h (.spawn c) (h.spawn c s.host)

def waitAny (h : Host σ) (s : Session σ) : Except IoError Reaped × Session σ :=
  s.ask h .waitAny (h.waitAny s.host)

def terminate (h : Host σ) (pid : Pid) (s : Session σ) : Termination × Session σ :=
  s.ask h (.terminate pid) (h.terminate pid s.host)

def idle (h : Host σ) (s : Session σ) : Session σ :=
  s.answered h .idle (h.idle s.host)

def takePending (h : Host σ) (s : Session σ) : Option Signal × Session σ :=
  s.ask h .takePending (h.takePending s.host)

def awaitSocket (h : Host σ) (path : Path) (bounds : Readiness) (s : Session σ) :
    Except IoError Bool × Session σ :=
  s.ask h (.awaitSocket path) (h.awaitSocket path bounds s.host)

def background (h : Host σ) (inv : Invocation) (s : Session σ) :
    Except RunError Unit × Session σ :=
  s.ask h (.background inv) (h.background inv s.host)

def removeSocket (h : Host σ) (path : Path) (s : Session σ) : Except IoError Unit × Session σ :=
  s.ask h (.removeSocket path) (h.removeSocket path s.host)

def stat (h : Host σ) (path : Path) (s : Session σ) : Except Errno DeviceIdentity × Session σ :=
  s.ask h (.stat path) (h.stat path s.host)

def unlink (h : Host σ) (path : Path) (s : Session σ) : Except Errno Unit × Session σ :=
  s.ask h (.unlink path) (h.unlink path s.host)

def catchSignals (h : Host σ) (s : Session σ) : Except IoError Unit × Session σ :=
  s.ask h .catchSignals (h.catchSignals s.host)

end Session

/-! ### Progress -/

/-- How far a call has come that is followed for some rounds: its result, once it has returned, and
the session as it then stands. -/
structure Progress (σ α : Type) where
  result? : Option α
  session : Session σ

/-- The result of a call that has returned, and the session it leaves. -/
def Progress.returned {σ α : Type} (p : Progress σ α) : Option (α × Session σ) :=
  p.result?.map fun a => (a, p.session)

theorem Progress.returned_eq_some_iff {σ α : Type} {p : Progress σ α} {a : α} {s : Session σ} :
    p.returned = some (a, s) ↔ p = ⟨some a, s⟩ := by
  obtain ⟨result?, session⟩ := p
  cases result? <;> simp [Progress.returned]

end NbdAttach
