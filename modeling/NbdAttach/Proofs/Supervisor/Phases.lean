import NbdAttach.Proofs.Supervisor.Rounds
import NbdAttach.Proofs.Supervisor.TeardownParts

/-!
# Phases in the log

A teardown tells its log each step from one phase to the next, and nothing else does, unless the
host speaks of phases in its remarks. `Session.Tells` says which steps were told between two
sessions; starts, waits and requests to terminate tell none, so what is left are the steps that the
parts of a teardown take (`Session.beginReap_tells`, `Session.detach_tells`,
`Session.finish_tells`).
-/

namespace NbdAttach

open scoped List

variable {σ α : Type}

/-- The step from one phase to the next that a notice tells. -/
def Notice.step? : Notice → Option (Phase × Phase)
  | .phase before after => some (before, after)
  | _ => none

/-- The steps through some phases, from each to the next. -/
def Phase.steps (phases : List Phase) : List (Phase × Phase) :=
  phases.zip phases.tail

/-- The phases of a full teardown. -/
def Phase.ofShutdown : List Phase :=
  [.running, .disconnecting, .killing, .reaping, .done]

/-- The phases of a teardown that starts no helper. -/
def Phase.ofAbort : List Phase :=
  [.running, .killing, .reaping, .done]

/-- The host itself tells no steps from phase to phase. -/
def Host.SilentOnPhases (h : Host σ) : Prop :=
  ∀ e st n, n ∈ h.remarks e st → n.step? = none

namespace Session

/-- The steps from phase to phase that the log tells, in order. -/
def steps (s : Session σ) : List (Phase × Phase) :=
  s.log.filterMap Notice.step?

/-- Between the sessions the log tells the steps. There are no others, except for those that the
host tells of its own accord. -/
def Tells (h : Host σ) (s : Session σ) (steps : List (Phase × Phase)) (s' : Session σ) : Prop :=
  ∃ told, s'.steps = s.steps ++ told ∧ steps <+ told ∧ (h.SilentOnPhases → told = steps)

/-- A notice adds its step, if it tells one. -/
theorem steps_tell (s : Session σ) (n : Notice) : (s.tell n).steps = s.steps ++ n.step?.toList := by
  have hlog : (s.tell n).log = s.log ++ [n] := by
    simp [log, tell, Entry.notice?]
  rw [steps, hlog, List.filterMap_append]
  cases hn : n.step? <;> simp [steps, hn]

/-- An answer adds the steps that the host tells with it. -/
theorem steps_answered (h : Host σ) (s : Session σ) (e : Event) (host : σ) :
    (s.answered h e host).steps = s.steps ++ (h.remarks e host).filterMap Notice.step? := by
  -- remarks stand in the record as notices, the last one first
  have hremarks : ∀ ns : List Notice, (ns.map Entry.notice).filterMap Entry.notice? = ns := by
    intro ns
    rw [List.filterMap_map]
    exact List.filterMap_some
  have hlog : (s.answered h e host).log = s.log ++ h.remarks e host := by
    simp only [log, answered, List.reverse_cons, List.reverse_append, List.filterMap_append,
      ← List.map_reverse, List.reverse_reverse, hremarks]
    exact List.append_nil _
  rw [steps, hlog, List.filterMap_append]
  rfl

namespace Tells

variable {h : Host σ} {s s₁ s₂ : Session σ} {steps steps' : List (Phase × Phase)}

theorem refl (s : Session σ) : s.Tells h [] s :=
  ⟨[], (List.append_nil _).symm, List.Sublist.refl _, fun _ => rfl⟩

theorem trans (h₁ : s.Tells h steps s₁) (h₂ : s₁.Tells h steps' s₂) :
    s.Tells h (steps ++ steps') s₂ := by
  obtain ⟨told, heq, hsub, hsilent⟩ := h₁
  obtain ⟨told', heq', hsub', hsilent'⟩ := h₂
  -- the steps of both parts, with what the host tells between them
  refine ⟨told ++ told', ?_, hsub.append hsub', fun hhost => ?_⟩
  · rw [heq', heq, List.append_assoc]
  · rw [hsilent hhost, hsilent' hhost]

/-- What tells no steps adds none. -/
theorem quiet (h₁ : s.Tells h steps s₁) (h₂ : s₁.Tells h [] s₂) : s.Tells h steps s₂ := by
  have htold := h₁.trans h₂
  rwa [List.append_nil] at htold

theorem tell (h₁ : s.Tells h steps s₁) (n : Notice) :
    s.Tells h (steps ++ n.step?.toList) (s₁.tell n) :=
  h₁.trans ⟨n.step?.toList, steps_tell s₁ n, List.Sublist.refl _, fun _ => rfl⟩

end Tells

variable {h : Host σ}

theorem tells_tell (s : Session σ) {n : Notice} (hn : n.step? = none) :
    s.Tells h [] (s.tell n) := by
  have htold := (Tells.refl (h := h) s).tell n
  rwa [hn] at htold

/-- An answered request tells what the host remarks. -/
theorem tells_answered (s : Session σ) (e : Event) (host : σ) :
    s.Tells h [] (s.answered h e host) := by
  refine ⟨_, steps_answered h s e host, List.nil_sublist _, fun hsilent => ?_⟩
  exact List.filterMap_eq_nil_iff.mpr (hsilent e host)

/-- A request tells no steps, whatever is answered. -/
theorem tells_of_ask {e : α → Event} {answer : α × σ} {s s' : Session σ} {a : α}
    (hask : s.ask h e answer = (a, s')) : s.Tells h [] s' := by
  obtain ⟨rfl, rfl⟩ := Prod.mk.inj hask
  exact tells_answered s _ _

theorem tells_setRegistry (s : Session σ) (registry : Registry) :
    s.Tells h [] { s with registry } :=
  Tells.refl s

/-! ### What tells no steps -/

/-- A list of arguments is told without steps. -/
theorem tellArguments_tells (s : Session σ) (index : Nat) (args : List String) :
    s.Tells h [] (s.tellArguments index args) := by
  induction args generalizing s index with
  | nil => exact .refl s
  | cons arg rest ih => exact (tells_tell s rfl).quiet (ih _ _)

/-- To register a child tells nothing. -/
theorem register_tells (s : Session σ) (pid : Pid) : s.Tells h [] (s.register pid) := by
  rw [register]
  split
  · exact .refl s
  · exact tells_setRegistry s _

/-- A start tells no steps, whether it succeeds or not. -/
theorem spawn_tells (s : Session σ) (c : Command) : s.Tells h [] (s.spawn h c).2 := by
  rw [spawn]
  split
  · exact .refl s
  · -- the command is told first, argument by argument
    have htold := (tells_tell (h := h) s (n := .executing c.program) rfl).quiet
      (tellArguments_tells _ 0 c.argv)
    rcases hprocess : ((s.tell (.executing c.program)).tellArguments 0 c.argv).spawnProcess h c with
      ⟨cause | pid, s₁⟩
    · exact htold.quiet (tells_of_ask hprocess)
    · exact ((htold.quiet (tells_of_ask hprocess)).quiet (register_tells s₁ pid)).quiet
        (tells_tell _ rfl)

/-- A pass of a wait tells no steps. -/
theorem pass_tells (blocks : Bool) (s : Session σ) : s.Tells h [] (s.pass h blocks).session := by
  rcases htake : s.takePending h with ⟨_ | signal, s₁⟩
  · -- no request: on to the registry, and then to the wait by the host
    have htaken : s.Tells h [] s₁ := tells_of_ask htake
    rw [pass, htake]
    dsimp only
    split
    · split
      · exact htaken.quiet (tells_answered s₁ _ _)
      · exact htaken
    · rcases hwait : s₁.waitAny h with ⟨cause | (pid | _), s₂⟩
      · exact htaken.quiet (tells_of_ask hwait)
      · have hwaited : s.Tells h [] s₂ := htaken.quiet (tells_of_ask hwait)
        dsimp only
        split
        · exact (hwaited.quiet (tells_setRegistry s₂ _)).quiet (tells_tell _ rfl)
        · exact hwaited.quiet (tells_tell s₂ rfl)
      · exact htaken.quiet (tells_of_ask hwait)
  · rw [pass, htake]
    exact (tells_of_ask htake).quiet (tells_tell s₁ rfl)

/-- A wait tells no steps, in any of its passes. -/
theorem followWait_tells (blocks : Bool) (s : Session σ) (rounds : Nat) :
    s.Tells h [] (s.followWait h blocks rounds).session := by
  induction rounds generalizing s with
  | zero => exact .refl s
  | succ rounds ih =>
    have hpassed := pass_tells (h := h) blocks s
    rw [followWait_succ]
    rcases hpass : s.pass h blocks with ⟨_ | outcome, s₁⟩ <;> rw [hpass] at hpassed
    · exact hpassed.quiet (ih s₁)
    · exact hpassed

/-- A reap tells no steps, in any of its waits. -/
theorem followReap_tells (s : Session σ) (rounds : Nat) :
    s.Tells h [] (s.followReap h rounds).session := by
  induction rounds generalizing s with
  | zero => exact .refl s
  | succ rounds ih =>
    have hwaited := followWait_tells (h := h) false s (rounds + 1)
    rw [followReap_succ]
    rcases hwait : s.followWait h false (rounds + 1) with ⟨_ | outcome, s₁⟩ <;>
      rw [hwait] at hwaited
    · exact hwaited
    · dsimp only
      -- the reap goes on after this wait, or ends with it
      cases endOfReap outcome with
      | none => exact hwaited.quiet (ih s₁)
      | some result => exact hwaited

/-- A request to terminate tells no steps. -/
theorem kill_tells (s : Session σ) (pid : Pid) : s.Tells h [] (s.kill h pid) := by
  rcases hterminate : (s.tell (.killing pid)).terminate h pid with ⟨answer, s₁⟩
  have htold : s.Tells h [] s₁ := (tells_tell s rfl).quiet (tells_of_ask hterminate)
  rw [kill, hterminate]
  cases answer with
  | delivered => exact htold
  | notFound => exact htold.quiet (tells_tell s₁ rfl)
  | denied => exact htold.quiet (tells_tell s₁ rfl)
  | failed reason => exact htold.quiet (tells_tell s₁ rfl)

theorem killEach_tells (pids : List Pid) (s : Session σ) : s.Tells h [] (killEach h pids s) := by
  induction pids generalizing s with
  | nil => exact .refl s
  | cons pid rest ih => exact (kill_tells s pid).quiet (ih _)

/-- The removal of the socket tells no steps. -/
theorem cleanUp_tells (s : Session σ) (endpoint : Endpoint) :
    s.Tells h [] (s.cleanUp h endpoint) := by
  rcases hremove : s.removeSocket h endpoint.path with ⟨_ | _, s₁⟩
  · rw [cleanUp, hremove]
    exact (tells_of_ask hremove).quiet (tells_tell s₁ rfl)
  · rw [cleanUp, hremove]
    exact tells_of_ask hremove

/-! ### The steps of a teardown -/

/-- The way to the reap leads through two phases. -/
theorem beginReap_tells (s : Session σ) (before : Phase) (spared : Option Pid) :
    s.Tells h [(before, .killing), (.killing, .reaping)] (s.beginReap h before spared) :=
  (((Tells.refl s).tell (.phase before .killing)).quiet (killEach_tells _ _)).tell
    (.phase .killing .reaping)

/-- The start of the helper is the step out of the running phase. -/
theorem detach_tells (s : Session σ) (disconnect : Command) :
    s.Tells h [(.running, .disconnecting)] (s.detach h disconnect).2 := by
  have htold : s.Tells h [(.running, .disconnecting)] (s.advance .running .disconnecting) :=
    (Tells.refl s).tell (.phase .running .disconnecting)
  -- the step is told before the start, so it is told also where the start fails
  have hspawn := spawn_tells (h := h) (s.advance .running .disconnecting) disconnect
  rw [detach]
  rcases hspawned : (s.advance .running .disconnecting).spawn h disconnect with ⟨error | helper, s₁⟩
    <;> rw [hspawned] at hspawn
  · exact (htold.quiet hspawn).quiet (tells_tell s₁ rfl)
  · exact htold.quiet hspawn

/-- The way of the full teardown to its reap leads through three phases. -/
theorem beginShutdownReap_tells (s : Session σ) (disconnect : Command) :
    s.Tells h [(.running, .disconnecting), (.disconnecting, .killing), (.killing, .reaping)]
      (s.beginShutdownReap h disconnect) :=
  (detach_tells s disconnect).trans (beginReap_tells _ _ _)

/-- The last step is told behind the reap, and before the socket is removed. -/
theorem finish_tells (s : Session σ) (endpoint : Endpoint) (disconnectError : Option SpawnError)
    (reaped : Except IoError Unit) :
    s.Tells h [(.reaping, .done)] (s.finish h endpoint disconnectError reaped).2 := by
  -- a failure of the reap is told, but it is no step
  have htold : s.Tells h [] (s.tellReaped reaped) := by
    cases reaped with
    | ok _ => exact .refl s
    | error cause => exact tells_tell s rfl
  exact (htold.tell (.phase .reaping .done)).quiet (cleanUp_tells _ endpoint)

end Session

end NbdAttach
