import NbdAttach.Proofs.Supervisor.Calls

/-!
# The registry over whole histories

A supervisor that starts with an empty registry goes through any sequence of its four operations,
against any host. `registry_history` says what holds after every such sequence: the registry keeps
to its capacity, the system is asked for a child only where there is room for it, and the registry
is the list that the trace gives.

The invariant is `Tracked`. An operation keeps it as soon as its events replay to its registry and
start children only with room (`Tracked.extend`), which the relations of the operations say.
-/

namespace NbdAttach

variable {σ : Type}

namespace Session

/-! ### Sequences of operations -/

/-- One operation of a supervisor. The waits are followed for some rounds, so that those count as
well which have not returned by then. -/
inductive Operation
  | spawn (c : Command)
  | wait (blocks : Bool) (rounds : Nat)
  | kill (spared : Option Pid)
  | reap (rounds : Nat)

/-- The session after an operation. -/
def perform (h : Host σ) (s : Session σ) : Operation → Session σ
  | .spawn c => (s.spawn h c).2
  | .wait blocks rounds => (s.followWait h blocks rounds).session
  | .kill spared => s.killAllExcept h spared
  | .reap rounds => (s.followReap h rounds).session

/-- The session that a new supervisor comes to by a sequence of operations. -/
def afterOperations (h : Host σ) (host : σ) (operations : List Operation) : Session σ :=
  operations.foldl (perform h) { host }

/-- The calls of an operation. -/
inductive OperationCalls : Operation → Registry → List Event → Registry → Prop
  | spawn {c : Command} {r r' : Registry} {es : List Event} {result : Except SpawnError Pid}
      (hcalls : SpawnCalls c r es result r') : OperationCalls (.spawn c) r es r'
  | wait {blocks : Bool} {rounds : Nat} {r r' : Registry} {es : List Event}
      {result : Option (Except IoError WaitOutcome)} (hcalls : WaitCalls blocks r es result r') :
    OperationCalls (.wait blocks rounds) r es r'
  | kill {spared : Option Pid} {r : Registry} {es : List Event}
      (hcalls : KillCalls (r.targets spared) es) : OperationCalls (.kill spared) r es r
  | reap {rounds : Nat} {r r' : Registry} {es : List Event} {result : Option (Except IoError Unit)}
      (hcalls : ReapCalls r es result r') : OperationCalls (.reap rounds) r es r'

/-- Every operation leads on by calls of its own kind. -/
theorem perform_leads (h : Host σ) (s : Session σ) (operation : Operation) :
    ∃ es, s.Leads es (s.perform h operation) ∧
      OperationCalls operation s.registry es (s.perform h operation).registry := by
  cases operation with
  | spawn c =>
    obtain ⟨es, hleads, hcalls⟩ := follows_of_spawn (s := s) (h := h) (c := c) rfl
    exact ⟨es, hleads, .spawn hcalls⟩
  | wait blocks rounds =>
    obtain ⟨es, hleads, hcalls⟩ := followWait_follows h blocks s rounds
    exact ⟨es, hleads, .wait hcalls⟩
  | kill spared =>
    obtain ⟨es, hleads, hcalls, hregistry⟩ := killAllExcept_leads h spared s
    refine ⟨es, hleads, ?_⟩
    rw [perform, hregistry]
    exact .kill hcalls
  | reap rounds =>
    obtain ⟨es, hleads, hcalls⟩ := followReap_follows h s rounds
    exact ⟨es, hleads, .reap hcalls⟩

namespace OperationCalls

variable {operation : Operation} {r r' : Registry} {es : List Event}

/-- The calls of an operation replay to its registry. -/
theorem track (hcalls : OperationCalls operation r es r') :
    r'.pids = registeredAfter r.pids es := by
  cases hcalls with
  | spawn hcalls => exact hcalls.track
  | wait hcalls => exact hcalls.track
  | kill hcalls => exact hcalls.track.symm
  | reap hcalls => exact hcalls.track

/-- An operation starts children only with room, for a start looks whether there is some. -/
theorem startsWithRoom (hcalls : OperationCalls operation r es r') : StartsWithRoom r.pids es := by
  cases hcalls with
  | spawn hcalls => exact hcalls.startsWithRoom
  -- the other operations start nobody
  | wait hcalls => exact .of_commands_eq_nil (commands_eq_nil_of_isEnding hcalls.isEnding)
  | kill hcalls => exact .of_commands_eq_nil (commands_eq_nil_of_isEnding hcalls.isEnding)
  | reap hcalls => exact .of_commands_eq_nil (commands_eq_nil_of_isEnding hcalls.isEnding)

end OperationCalls

/-! ### The invariant -/

/-- The registry is the one that the trace gives, and no child was started without room for it. -/
structure Tracked (s : Session σ) : Prop where
  registered : s.registry.pids = registeredAfter [] s.trace
  room : StartsWithRoom [] s.trace
  not_overflowed : s.overflowed = false

theorem Tracked.new (host : σ) : Tracked ({ host } : Session σ) where
  registered := rfl
  room := Always.nil
  not_overflowed := rfl

/-- Events that replay to the registry, and that start children only with room, keep the
invariant. -/
theorem Tracked.extend {s s' : Session σ} {es : List Event} (hs : Tracked s)
    (hleads : s.Leads es s') (htrack : s'.registry.pids = registeredAfter s.registry.pids es)
    (hroom : StartsWithRoom s.registry.pids es) : Tracked s' where
  registered := by
    rw [hleads.trace, registeredAfter_append, ← hs.registered]
    exact htrack
  room := by
    rw [hleads.trace]
    refine StartsWithRoom.append_iff.mpr ⟨hs.room, ?_⟩
    rw [← hs.registered]
    exact hroom
  not_overflowed := hleads.overflowed.trans hs.not_overflowed

/-- **Invariant preservation.** Every operation keeps the invariant. -/
theorem Tracked.perform {s : Session σ} (hs : Tracked s) (h : Host σ) (operation : Operation) :
    Tracked (s.perform h operation) := by
  obtain ⟨es, hleads, hcalls⟩ := perform_leads h s operation
  exact hs.extend hleads hcalls.track hcalls.startsWithRoom

/-- The invariant holds after every sequence of operations. -/
theorem tracked_afterOperations (h : Host σ) (host : σ) (operations : List Operation) :
    Tracked (afterOperations h host operations) := by
  induction operations using List.reverseRecOn with
  | nil => exact Tracked.new host
  | append_singleton operations operation ih =>
    -- on the sequence from its end, where the last operation was performed
    rw [afterOperations, List.foldl_append]
    exact Tracked.perform ih h operation

/-! ### One start -/

/-- With room in the registry the system is asked exactly once. A failure leaves the registry as it
was, and a child that was started is appended to it. -/
theorem spawn_of_room {h : Host σ} {c : Command} {s s' : Session σ}
    {result : Except SpawnError Pid} (hspawn : s.spawn h c = (result, s'))
    (hroom : s.registry.isFull = false) :
    (∃ cause, result = .error (.launch c.program cause) ∧ s'.registry = s.registry ∧
      s'.trace = s.trace ++ [.spawn c (.error cause)]) ∨
    (∃ pid, result = .ok pid ∧ s'.registry.pids = s.registry.pids ++ [pid] ∧
      s'.trace = s.trace ++ [.spawn c (.ok pid)]) := by
  have hroom : s.registry.pids.length < registryCapacity := by
    by_contra hfull
    rw [Registry.isFull_iff.mpr (not_lt.mp hfull)] at hroom
    cases hroom
  obtain ⟨es, hleads, hcalls⟩ := follows_of_spawn hspawn
  rcases hcalls.of_room hroom with ⟨cause, rfl, hresult, hregistry⟩ | ⟨pid, rfl, hresult, hregistry⟩
  · exact Or.inl ⟨cause, hresult, hregistry, hleads.trace⟩
  · exact Or.inr ⟨pid, hresult, congrArg Registry.pids hregistry, hleads.trace⟩

/-! ### The theorem -/

/-- What holds of the registry after a history, and of the next start. -/
structure RegistryLaw (h : Host σ) (s : Session σ) : Prop where
  /-- The registry keeps to its capacity. -/
  size_le : s.registry.size ≤ registryCapacity
  /-- No child was ever to be registered while the registry was full. -/
  not_overflowed : s.overflowed = false
  /-- Whenever the system was asked for a child, there was room for it. -/
  room : ∀ before c answer after, s.trace = before ++ .spawn c answer :: after →
    (registeredAfter [] before).length < registryCapacity
  /-- A start with a full registry fails, asks nothing and changes nothing. -/
  spawn_of_full : ∀ c, s.registry.isFull = true →
    s.spawn h c = (.error (.registryFull registryCapacity), s)
  /-- A start that fails otherwise leaves the registry as it is. -/
  spawn_failed : ∀ c e s', s.spawn h c = (.error e, s') → s'.registry = s.registry
  /-- The registry is the list of the started children in order, where each reported exit of a
  registered child took out the earliest entry with its number. -/
  registered : s.registry.pids = registeredAfter [] s.trace
  /-- Where the system never gives a new child the number of a registered one, the entries are
  pairwise distinct, and they are the started children whose exit was not reported. -/
  distinct : FreshPids s.trace →
    s.registry.pids.Nodup ∧ s.registry.pids = unreported s.trace

/-- **The registry over whole histories.** The law holds after every sequence of operations on a new
supervisor, against every host. -/
theorem registry_history (h : Host σ) (host : σ) (operations : List Operation) :
    RegistryLaw h (afterOperations h host operations) := by
  have htracked := tracked_afterOperations h host operations
  generalize afterOperations h host operations = s at htracked
  refine ⟨?_, htracked.not_overflowed, ?_, ?_, ?_, htracked.registered, ?_⟩
  · -- the registry was empty at first
    change s.registry.pids.length ≤ registryCapacity
    rw [htracked.registered]
    exact htracked.room.length_le (Nat.zero_le _)
  · intro before c answer after heq
    exact htracked.room before _ after heq c rfl
  · intro c hfull
    rw [spawn, if_pos hfull]
  · -- a start can fail before the system is asked, and after
    intro c e s' hspawn
    cases hfull : s.registry.isFull with
    | true =>
      rw [spawn, if_pos hfull] at hspawn
      rw [← (Prod.mk.inj hspawn).2]
    | false =>
      rcases spawn_of_room hspawn hfull with ⟨_, _, hregistry, _⟩ | ⟨_, hresult, _⟩
      · exact hregistry
      · cases hresult
  · intro hfresh
    rw [htracked.registered]
    -- the registry is what the trace gives, so this is a fact about the trace
    exact registeredAfter_eq_unreported hfresh

end Session

end NbdAttach
