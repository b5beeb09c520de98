import NbdAttach.Proofs.Supervisor.Replay
import NbdAttach.Supervisor.Teardown

/-!
# The calls of the supervisor

What each operation on children asks of the host, in order, and what it makes of the answers. Every
operation has a relation between the registry before, the events, the result and the registry
after. The result of a call that may go on for ever is missing while it does: the relation then
describes the events so far.

* `SpawnCalls`, `WaitCalls`, `KillCalls` and `ReapCalls` are for the four operations, and
  `TeardownCalls` and `ShutdownCalls` for the two teardowns. `WaitRow` is for waits in a row, of
  which a reap is one.
* The theorems `follows_of_spawn`, `followWait_follows` and so on say that the operations keep to
  them, against every host and for every number of rounds.
* `SpawnCalls.track`, `WaitCalls.track` and so on say that the registry after the events is the one
  that `registeredAfter` gives.
-/

namespace NbdAttach

variable {σ : Type}

namespace Registry

theorem isEmpty_iff {r : Registry} : r.isEmpty = true ↔ r.pids = [] :=
  List.isEmpty_iff

theorem contains_iff {r : Registry} {pid : Pid} : r.contains pid = true ↔ pid ∈ r.pids :=
  List.contains_iff_mem

theorem isFull_iff {r : Registry} : r.isFull = true ↔ registryCapacity ≤ r.pids.length :=
  decide_eq_true_iff

end Registry

/-! ### The relations -/

/-- The calls of a start of `c`. A full registry is found before the system is asked. -/
inductive SpawnCalls (c : Command) :
    Registry → List Event → Except SpawnError Pid → Registry → Prop
  | full {r : Registry} (hfull : registryCapacity ≤ r.pids.length) :
    SpawnCalls c r [] (.error (.registryFull registryCapacity)) r
  | failed {r : Registry} (hroom : r.pids.length < registryCapacity) (cause : IoError) :
    SpawnCalls c r [.spawn c (.error cause)] (.error (.launch c.program cause)) r
  | started {r : Registry} (hroom : r.pids.length < registryCapacity) (pid : Pid) :
    SpawnCalls c r [.spawn c (.ok pid)] (.ok pid) (r.insert pid)

/-- The calls of a wait for any child. Each pass of the loop looks for a request first. -/
inductive WaitCalls (blocks : Bool) :
    Registry → List Event → Option (Except IoError WaitOutcome) → Registry → Prop
  | goesOn (r : Registry) : WaitCalls blocks r [] none r
  | interrupted (r : Registry) (signal : Signal) :
    WaitCalls blocks r [.takePending (some signal)] (some (.ok .interrupted)) r
  | noneLeft {r : Registry} (hempty : r.pids = []) (hblocks : blocks = false) :
    WaitCalls blocks r [.takePending none] (some (.ok .noneLeft)) r
  | idle {r r' : Registry} {es : List Event} {result : Option (Except IoError WaitOutcome)}
      (hempty : r.pids = []) (hblocks : blocks = true) (hrest : WaitCalls blocks r es result r') :
    WaitCalls blocks r (.takePending none :: .idle :: es) result r'
  | failed {r : Registry} (hsome : r.pids ≠ []) (cause : IoError) :
    WaitCalls blocks r [.takePending none, .waitAny (.error cause)] (some (.error cause)) r
  | cutShort {r r' : Registry} {es : List Event} {result : Option (Except IoError WaitOutcome)}
      (hsome : r.pids ≠ []) (hrest : WaitCalls blocks r es result r') :
    WaitCalls blocks r (.takePending none :: .waitAny (.ok .interrupted) :: es) result r'
  | untracked {r r' : Registry} {es : List Event} {result : Option (Except IoError WaitOutcome)}
      {pid : Pid} (hsome : r.pids ≠ []) (hpid : pid ∉ r.pids)
      (hrest : WaitCalls blocks r es result r') :
    WaitCalls blocks r (.takePending none :: .waitAny (.ok (.child pid)) :: es) result r'
  | exited {r : Registry} {pid : Pid} (hpid : pid ∈ r.pids) :
    WaitCalls blocks r [.takePending none, .waitAny (.ok (.child pid))]
      (some (.ok (.exited pid))) (r.erase pid)

/-- The calls of requests to terminate some children, one after the other, whatever the answers. -/
inductive KillCalls : List Pid → List Event → Prop
  | nil : KillCalls [] []
  | cons {pids : List Pid} {es : List Event} (pid : Pid) (answer : Termination)
      (hrest : KillCalls pids es) : KillCalls (pid :: pids) (.terminate pid answer :: es)

/-- The calls of a wait for all children. -/
inductive ReapCalls : Registry → List Event → Option (Except IoError Unit) → Registry → Prop
  | goesOn {r r' : Registry} {es : List Event} (hwait : WaitCalls false r es none r') :
    ReapCalls r es none r'
  | failed {r r' : Registry} {es : List Event} {cause : IoError}
      (hwait : WaitCalls false r es (some (.error cause)) r') :
    ReapCalls r es (some (.error cause)) r'
  | done {r r' : Registry} {es : List Event}
      (hwait : WaitCalls false r es (some (.ok .noneLeft)) r') :
    ReapCalls r es (some (.ok ())) r'
  | more {r r₁ r' : Registry} {es es' : List Event} {outcome : WaitOutcome}
      {result : Option (Except IoError Unit)}
      (hwait : WaitCalls false r es (some (.ok outcome)) r₁) (houtcome : outcome ≠ .noneLeft)
      (hrest : ReapCalls r₁ es' result r') : ReapCalls r (es ++ es') result r'

/-- Waits in a row, whatever their results. Loops of waits are made of them, and much of what is
said of one wait is said of a row. -/
inductive WaitRow (blocks : Bool) : Registry → List Event → Registry → Prop
  | last {r r' : Registry} {es : List Event} {result : Option (Except IoError WaitOutcome)}
      (hwait : WaitCalls blocks r es result r') : WaitRow blocks r es r'
  | more {r r₁ r' : Registry} {es es' : List Event}
      {result : Option (Except IoError WaitOutcome)} (hwait : WaitCalls blocks r es result r₁)
      (hrest : WaitRow blocks r₁ es' r') : WaitRow blocks r (es ++ es') r'

/-- The children that a teardown asks to terminate. -/
def Registry.targets (r : Registry) (spared : Option Pid) : List Pid :=
  r.pids.filter fun pid => some pid != spared

/-- What went wrong, if something did. -/
def failure? {ε α : Type} : Except ε α → Option ε
  | .error e => some e
  | .ok _ => none

/-- The calls of the part that both teardowns share. `disconnectError` is what went wrong before. -/
inductive TeardownCalls (path : Path) (spared : Option Pid)
    (disconnectError : Option SpawnError) :
    Registry → List Event → Option TeardownReport → Registry → Prop
  | goesOn {r r' : Registry} {kills reaps : List Event} (hkill : KillCalls (r.targets spared) kills)
      (hreap : ReapCalls r reaps none r') :
    TeardownCalls path spared disconnectError r (kills ++ reaps) none r'
  | done {r r' : Registry} {kills reaps : List Event} {reaped : Except IoError Unit}
      (hkill : KillCalls (r.targets spared) kills) (hreap : ReapCalls r reaps (some reaped) r')
      (answer : Except IoError Unit) :
    TeardownCalls path spared disconnectError r (kills ++ reaps ++ [.removeSocket path answer])
      (some { disconnectError, reapError := failure? reaped }) r'

/-- The calls of the full teardown: the start of the helper, and the shared part, which spares the
helper if there is one. -/
inductive ShutdownCalls (path : Path) (disconnect : Command) :
    Registry → List Event → Option TeardownReport → Registry → Prop
  | detach {r r₁ r' : Registry} {es es' : List Event} {helper : Except SpawnError Pid}
      {report : Option TeardownReport} (hspawn : SpawnCalls disconnect r es helper r₁)
      (hteardown : TeardownCalls path helper.toOption (failure? helper) r₁ es' report r') :
    ShutdownCalls path disconnect r (es ++ es') report r'

/-! ### The operations keep to the relations -/

namespace Session

variable {h : Host σ}

/-- Telling the log what a child is started with asks the host nothing and registers nobody. -/
theorem tellArguments_leads (s : Session σ) (index : Nat) (args : List String) :
    s.Leads [] (s.tellArguments index args) ∧
      (s.tellArguments index args).registry = s.registry := by
  induction args generalizing s index with
  | nil => exact ⟨.refl s, rfl⟩
  | cons arg rest ih =>
    obtain ⟨hleads, hregistry⟩ := ih (s.tell (.argument index arg)) (index + 1)
    exact ⟨((Leads.refl s).tell _).trans hleads, hregistry⟩

/-- A child is registered only where there is room, so the registry does not overflow. -/
theorem leads_register {s : Session σ} (hroom : s.registry.pids.length < registryCapacity)
    (pid : Pid) :
    s.Leads [] (s.register pid) ∧ (s.register pid).registry = s.registry.insert pid := by
  have hnotFull : ¬s.registry.isFull = true := by
    rw [Registry.isFull_iff]
    omega
  rw [register, if_neg hnotFull]
  exact ⟨⟨(List.append_nil _).symm, rfl⟩, rfl⟩

/-- A start is refused when the registry is full; else the system is asked once, and only a success
is registered. -/
theorem follows_of_spawn {c : Command} {s s' : Session σ} {result : Except SpawnError Pid}
    (hspawn : s.spawn h c = (result, s')) : s.Follows (SpawnCalls c) result s' := by
  rw [spawn] at hspawn
  by_cases hfull : s.registry.isFull = true
  · rw [if_pos hfull] at hspawn
    obtain ⟨rfl, rfl⟩ := Prod.mk.inj hspawn
    exact ⟨[], .refl s, .full (Registry.isFull_iff.mp hfull)⟩
  · rw [if_neg hfull] at hspawn
    have hroom : s.registry.pids.length < registryCapacity := by
      rw [Registry.isFull_iff] at hfull
      omega
    obtain ⟨hleads, hregistry⟩ := tellArguments_leads (s.tell (.executing c.program)) 0 c.argv
    rcases hprocess : ((s.tell (.executing c.program)).tellArguments 0 c.argv).spawnProcess h c with
      ⟨answer, s₁⟩
    rw [hprocess] at hspawn
    have hleads₁ : s.Leads [.spawn c answer] s₁ :=
      (((Leads.refl s).tell _).trans hleads).trans (leads_of_ask hprocess)
    have hregistry₁ : s₁.registry = s.registry := (registry_of_ask hprocess).trans hregistry
    cases answer with
    | error cause =>
      obtain ⟨rfl, rfl⟩ := Prod.mk.inj hspawn
      exact ⟨_, hleads₁, by rw [hregistry₁]; exact .failed hroom cause⟩
    | ok pid =>
      obtain ⟨rfl, rfl⟩ := Prod.mk.inj hspawn
      obtain ⟨hleads₂, hregistry₂⟩ := leads_register (s := s₁) (by rw [hregistry₁]; exact hroom) pid
      refine ⟨_, (hleads₁.trans hleads₂).tell _, ?_⟩
      rw [registry_tell, hregistry₂, hregistry₁]
      exact .started hroom pid

/-- A wait keeps to its relation. The induction is on the rounds, one for each pass of the loop; the
passes that do not end the wait leave the registry as it was, so the hypothesis applies to the
session after them. -/
theorem followWait_follows (h : Host σ) (blocks : Bool) (s : Session σ) (rounds : Nat) :
    s.Follows (WaitCalls blocks) (s.followWait h blocks rounds).result?
      (s.followWait h blocks rounds).session := by
  induction rounds generalizing s with
  | zero => exact ⟨[], .refl s, .goesOn _⟩
  | succ rounds ih =>
    -- each pass begins with a look for a request
    rcases htake : s.takePending h with ⟨pending?, s₁⟩
    have hleads₁ : s.Leads [.takePending pending?] s₁ := leads_of_ask htake
    have hregistry₁ : s₁.registry = s.registry := registry_of_ask htake
    rw [followWait, htake]
    cases pending? with
    | some signal =>
      -- a request wins over everything else
      exact ⟨_, hleads₁.tell _, by rw [registry_tell, hregistry₁]; exact .interrupted _ signal⟩
    | none =>
      by_cases hempty : s₁.registry.isEmpty = true
      · have hempty' : s.registry.pids = [] := by
          rw [← hregistry₁]
          exact Registry.isEmpty_iff.mp hempty
        cases blocks with
        | true =>
          -- only a request ends the wait, which sleeps and looks again
          obtain ⟨es, hleads, hcalls⟩ := ih (s₁.idle h)
          have hleads₂ : s.Leads [.takePending none, .idle] (s₁.idle h) :=
            hleads₁.trans (leads_answered h s₁ .idle _)
          simp only [hempty, if_true]
          refine ⟨_, hleads₂.trans hleads, .idle hempty' rfl ?_⟩
          rw [← hregistry₁]
          exact hcalls
        | false =>
          simp only [hempty, if_true, Bool.false_eq_true, if_false]
          exact ⟨_, hleads₁, by rw [hregistry₁]; exact .noneLeft hempty' rfl⟩
      · -- there are children, so the host is asked to wait for one of them
        have hsome : s.registry.pids ≠ [] := by
          rw [← hregistry₁]
          exact fun heq => hempty (Registry.isEmpty_iff.mpr heq)
        rcases hwait : s₁.waitAny h with ⟨answer, s₂⟩
        have hleads₂ : s.Leads [.takePending none, .waitAny answer] s₂ :=
          hleads₁.trans (leads_of_ask hwait)
        have hregistry₂ : s₂.registry = s.registry := (registry_of_ask hwait).trans hregistry₁
        simp only [hempty, Bool.false_eq_true, if_false, hwait]
        -- the host waits for a child; the answer leaves the registry for the wait to look at
        rcases answer with cause | (pid | _)
        · exact ⟨_, hleads₂, by rw [hregistry₂]; exact .failed hsome cause⟩
        · by_cases hpid : s₂.registry.contains pid = true
          · have hpid' : pid ∈ s.registry.pids := by
              rw [← hregistry₂]
              exact Registry.contains_iff.mp hpid
            simp only [hpid, if_true]
            refine ⟨_, (hleads₂.setRegistry _).tell _, ?_⟩
            rw [registry_tell, hregistry₂]
            -- the exit of a registered child is what the wait was for
            exact .exited hpid'
          · have hpid' : pid ∉ s.registry.pids := by
              rw [← hregistry₂]
              exact fun hmem => hpid (Registry.contains_iff.mpr hmem)
            simp only [hpid, Bool.false_eq_true, if_false]
            obtain ⟨es, hleads, hcalls⟩ := ih (s₂.tell (.reapedUntracked pid))
            refine ⟨_, (hleads₂.tell _).trans hleads, .untracked hsome hpid' ?_⟩
            rw [← hregistry₂]
            exact hcalls
        · -- a signal has cut the wait short; the next pass will look for it
          obtain ⟨es, hleads, hcalls⟩ := ih s₂
          refine ⟨_, hleads₂.trans hleads, .cutShort hsome ?_⟩
          rw [← hregistry₂]
          exact hcalls

/-- A request to terminate is sent once, and whatever the answer is, the child stays registered
until its exit is reported. -/
theorem kill_leads (h : Host σ) (pid : Pid) (s : Session σ) :
    ∃ answer, s.Leads [.terminate pid answer] (s.kill h pid) ∧
      (s.kill h pid).registry = s.registry := by
  rcases hterminate : (s.tell (.killing pid)).terminate h pid with ⟨answer, s₁⟩
  have hleads : s.Leads [.terminate pid answer] s₁ :=
    ((Leads.refl s).tell _).trans (leads_of_ask hterminate)
  have hregistry : s₁.registry = s.registry :=
    (registry_of_ask hterminate).trans (registry_tell s _)
  refine ⟨answer, ?_⟩
  rw [kill, hterminate]
  -- the answers differ only in what the log is told
  cases answer with
  | delivered => exact ⟨hleads, hregistry⟩
  | notFound => exact ⟨hleads.tell _, hregistry⟩
  | denied => exact ⟨hleads.tell _, hregistry⟩
  | failed reason => exact ⟨hleads.tell _, hregistry⟩

/-- The children of a list are asked to terminate one after the other; no answer keeps the others
from being asked. -/
theorem killEach_leads (h : Host σ) (pids : List Pid) (s : Session σ) :
    ∃ es, s.Leads es (killEach h pids s) ∧ KillCalls pids es ∧
      (killEach h pids s).registry = s.registry := by
  induction pids generalizing s with
  | nil => exact ⟨[], .refl s, .nil, rfl⟩
  | cons pid rest ih =>
    obtain ⟨answer, hleads, hregistry⟩ := kill_leads h pid s
    obtain ⟨es, hleads', hcalls, hregistry'⟩ := ih (s.kill h pid)
    exact ⟨_, hleads.trans hleads', .cons pid answer hcalls, hregistry'.trans hregistry⟩

/-- A sweep asks those that are registered when it begins, the spared one apart. -/
theorem killAllExcept_leads (h : Host σ) (spared : Option Pid) (s : Session σ) :
    ∃ es, s.Leads es (s.killAllExcept h spared) ∧ KillCalls (s.registry.targets spared) es ∧
      (s.killAllExcept h spared).registry = s.registry :=
  killEach_leads h _ s

/-- A reap keeps to its relation: it waits until a wait finds nobody left, or fails. -/
theorem followReap_follows (h : Host σ) (s : Session σ) (rounds : Nat) :
    s.Follows ReapCalls (s.followReap h rounds).result? (s.followReap h rounds).session := by
  induction rounds generalizing s with
  | zero => exact ⟨[], .refl s, .goesOn (.goesOn _)⟩
  | succ rounds ih =>
    obtain ⟨es, hleads, hwait⟩ := followWait_follows h false s (rounds + 1)
    rw [followReap]
    rcases hfollow : s.followWait h false (rounds + 1) with ⟨_ | cause | outcome, s₁⟩ <;>
      rw [hfollow] at hleads hwait
    · exact ⟨es, hleads, .goesOn hwait⟩
    · exact ⟨es, hleads, .failed hwait⟩
    · -- whatever the wait has returned, the next one begins where it ended
      obtain ⟨es', hleads', hrest⟩ := ih s₁
      cases outcome with
      | noneLeft => exact ⟨es, hleads, .done hwait⟩
      | exited pid => exact ⟨_, hleads.trans hleads', .more hwait nofun hrest⟩
      | interrupted => exact ⟨_, hleads.trans hleads', .more hwait nofun hrest⟩

/-- The clean-up tries to remove the socket once; a failure is only told to the log. -/
theorem cleanUp_leads (h : Host σ) (endpoint : Endpoint) (s : Session σ) :
    ∃ answer, s.Leads [.removeSocket endpoint.path answer] (s.cleanUp h endpoint) ∧
      (s.cleanUp h endpoint).registry = s.registry := by
  rcases hremove : s.removeSocket h endpoint.path with ⟨answer, s₁⟩
  have hleads : s.Leads [.removeSocket endpoint.path answer] s₁ := leads_of_ask hremove
  have hregistry : s₁.registry = s.registry := registry_of_ask hremove
  refine ⟨answer, ?_⟩
  rw [cleanUp, hremove]
  cases answer with
  | ok _ => exact ⟨hleads, hregistry⟩
  | error cause => exact ⟨hleads.tell _, hregistry⟩

/-- The part that both teardowns share keeps to its relation: a sweep, a reap, and the removal of
the socket, which is tried even where the reap has failed. -/
theorem followTeardown_follows (h : Host σ) (endpoint : Endpoint) (before : Phase)
    (spared : Option Pid) (disconnectError : Option SpawnError) (s : Session σ) (rounds : Nat) :
    s.Follows (TeardownCalls endpoint.path spared disconnectError)
      (s.followTeardown h endpoint before spared disconnectError rounds).result?
      (s.followTeardown h endpoint before spared disconnectError rounds).session := by
  obtain ⟨kills, hleads₁, hkill, hregistry₁⟩ :=
    killAllExcept_leads h spared (s.advance before .killing)
  rw [followTeardown]
  generalize hkilled : ((s.advance before .killing).killAllExcept h spared).advance .killing
    .reaping = s₁
  have hleads₁ : s.Leads kills s₁ :=
    hkilled ▸ (((Leads.refl s).tell _).trans hleads₁).tell _
  have hregistry₁ : s₁.registry = s.registry := hkilled ▸ hregistry₁
  -- requests to terminate leave the registry alone, so all that were registered are awaited
  obtain ⟨reaps, hleads₂, hreap⟩ := followReap_follows h s₁ rounds
  rw [hregistry₁] at hreap
  rcases hfollow : s₁.followReap h rounds with ⟨_ | cause | _, s₂⟩ <;>
    rw [hfollow] at hleads₂ hreap
  · exact ⟨_, hleads₁.trans hleads₂, .goesOn hkill hreap⟩
  · -- the reap has failed, and the teardown goes on all the same
    obtain ⟨answer, hleads₃, hregistry₃⟩ :=
      cleanUp_leads h endpoint ((s₂.tell (.reapFailed cause)).advance .reaping .done)
    refine ⟨_, (((hleads₁.trans hleads₂).tell _).tell _).trans hleads₃, ?_⟩
    rw [hregistry₃]
    exact .done hkill hreap answer
  · obtain ⟨answer, hleads₃, hregistry₃⟩ := cleanUp_leads h endpoint (s₂.advance .reaping .done)
    refine ⟨_, ((hleads₁.trans hleads₂).tell _).trans hleads₃, ?_⟩
    rw [hregistry₃]
    exact .done hkill hreap answer

/-- A full teardown keeps to its relation. A helper that could not be started is remembered in the
report, and spared by nobody. -/
theorem followShutdown_follows (h : Host σ) (endpoint : Endpoint) (disconnect : Command)
    (s : Session σ) (rounds : Nat) :
    s.Follows (ShutdownCalls endpoint.path disconnect)
      (s.followShutdown h endpoint disconnect rounds).result?
      (s.followShutdown h endpoint disconnect rounds).session := by
  rw [followShutdown]
  rcases hspawn : (s.advance .running .disconnecting).spawn h disconnect with ⟨_ | helper, s₁⟩
  · -- without a helper nobody is spared
    obtain ⟨es, hleads, hcalls⟩ := follows_of_spawn hspawn
    obtain ⟨es', hleads', hteardown⟩ := followTeardown_follows h endpoint .disconnecting none
      (some _) (s₁.tell (.disconnectFailed _)) rounds
    exact ⟨_, ((((Leads.refl s).tell _).trans hleads).tell _).trans hleads',
      .detach hcalls hteardown⟩
  · -- the helper does its work while the others are torn down
    obtain ⟨es, hleads, hcalls⟩ := follows_of_spawn hspawn
    obtain ⟨es', hleads', hteardown⟩ := followTeardown_follows h endpoint .disconnecting
      (some helper) none s₁ rounds
    exact ⟨_, (((Leads.refl s).tell _).trans hleads).trans hleads', .detach hcalls hteardown⟩

end Session

/-! ### Kinds of calls -/

/-- A wait looks for requests, sleeps and waits for children, and nothing else. -/
theorem WaitCalls.isWaiting {blocks : Bool} {r r' : Registry} {es : List Event}
    {result : Option (Except IoError WaitOutcome)} (hcalls : WaitCalls blocks r es result r') :
    ∀ e ∈ es, e.isWaiting = true := by
  induction hcalls with
  | idle _ _ _ ih => simpa [Event.isWaiting] using ih
  | cutShort _ _ ih => simpa [Event.isWaiting] using ih
  | untracked _ _ _ ih => simpa [Event.isWaiting] using ih
  | _ => simp [Event.isWaiting]

/-- A row of waits does nothing but wait. -/
theorem WaitRow.isWaiting {blocks : Bool} {r r' : Registry} {es : List Event}
    (hrow : WaitRow blocks r es r') : ∀ e ∈ es, e.isWaiting = true := by
  induction hrow with
  | last hwait => exact hwait.isWaiting
  | more hwait _ ih =>
    intro e he
    exact (List.mem_append.mp he).elim (hwait.isWaiting e) (ih e)

/-- A reap is a row of waits that do not block. -/
theorem ReapCalls.waitRow {r r' : Registry} {es : List Event}
    {result : Option (Except IoError Unit)} (hcalls : ReapCalls r es result r') :
    WaitRow false r es r' := by
  induction hcalls with
  | goesOn hwait => exact .last hwait
  | failed hwait => exact .last hwait
  | done hwait => exact .last hwait
  | more hwait _ _ ih => exact .more hwait ih

/-- A sweep consists of requests to terminate. -/
theorem KillCalls.isTerminate {pids : List Pid} {es : List Event} (hcalls : KillCalls pids es) :
    ∀ e ∈ es, e.isTerminate = true := by
  induction hcalls with
  | nil => simp
  | cons _ _ _ ih => simpa [Event.isTerminate] using ih

/-- A wait that does not block never sleeps. -/
theorem WaitCalls.isReaping {blocks : Bool} {r r' : Registry} {es : List Event}
    {result : Option (Except IoError WaitOutcome)} (hcalls : WaitCalls blocks r es result r')
    (hblocks : blocks = false) : ∀ e ∈ es, e.isReaping = true := by
  induction hcalls with
  | idle _ hsleeps =>
    rw [hblocks] at hsleeps
    cases hsleeps
  | cutShort _ _ ih => simpa [Event.isReaping, Event.isLook, Event.isHostWait] using ih
  | untracked _ _ _ ih => simpa [Event.isReaping, Event.isLook, Event.isHostWait] using ih
  | _ => simp [Event.isReaping, Event.isLook, Event.isHostWait]

/-- A row of waits that do not block is part of a reap: between waits nothing is asked. -/
theorem WaitRow.isReaping {r r' : Registry} {es : List Event} (hrow : WaitRow false r es r') :
    ∀ e ∈ es, e.isReaping = true := by
  induction hrow with
  | last hwait => exact hwait.isReaping rfl
  | more hwait _ ih =>
    intro e he
    exact (List.mem_append.mp he).elim (hwait.isReaping rfl e) (ih e)

/-- A reap looks for requests and waits for children, but it does not sleep. -/
theorem ReapCalls.isReaping {r r' : Registry} {es : List Event}
    {result : Option (Except IoError Unit)} (hcalls : ReapCalls r es result r') :
    ∀ e ∈ es, e.isReaping = true :=
  hcalls.waitRow.isReaping

/-- While a wait goes on, nothing is torn down. -/
theorem WaitCalls.isTeardown {blocks : Bool} {r r' : Registry} {es : List Event}
    {result : Option (Except IoError WaitOutcome)} (hcalls : WaitCalls blocks r es result r') :
    ∀ e ∈ es, e.isTeardown = false :=
  fun e he => Event.isTeardown_of_isWaiting (hcalls.isWaiting e he)

/-- A start tears nothing down. -/
theorem SpawnCalls.isTeardown {c : Command} {r r' : Registry} {es : List Event}
    {result : Except SpawnError Pid} (hcalls : SpawnCalls c r es result r') :
    ∀ e ∈ es, e.isTeardown = false := by
  cases hcalls with
  | full _ => simp
  | failed _ _ => simp [Event.isTeardown, Event.isTerminate, Event.isRemoval]
  | started _ _ => simp [Event.isTeardown, Event.isTerminate, Event.isRemoval]

/-- A wait brings nothing up, so it may stand in a teardown. -/
theorem WaitCalls.isEnding {blocks : Bool} {r r' : Registry} {es : List Event}
    {result : Option (Except IoError WaitOutcome)} (hcalls : WaitCalls blocks r es result r') :
    ∀ e ∈ es, e.isEnding = true :=
  fun e he => Event.isEnding_of_isWaiting (hcalls.isWaiting e he)

/-- A reap brings nothing up. -/
theorem ReapCalls.isEnding {r r' : Registry} {es : List Event}
    {result : Option (Except IoError Unit)} (hcalls : ReapCalls r es result r') :
    ∀ e ∈ es, e.isEnding = true :=
  fun e he => Event.isEnding_of_isWaiting (hcalls.waitRow.isWaiting e he)

theorem KillCalls.isEnding {pids : List Pid} {es : List Event} (hcalls : KillCalls pids es) :
    ∀ e ∈ es, e.isEnding = true :=
  fun e he => Event.isEnding_of_isTerminate (hcalls.isTerminate e he)

/-- Hence nothing is brought up in the part that both teardowns share, from the sweep to the removal
of the socket. -/
theorem TeardownCalls.isEnding {path : Path} {spared : Option Pid}
    {disconnectError : Option SpawnError} {r r' : Registry} {es : List Event}
    {report : Option TeardownReport}
    (hcalls : TeardownCalls path spared disconnectError r es report r') :
    ∀ e ∈ es, e.isEnding = true := by
  intro e he
  cases hcalls with
  | goesOn hkill hreap =>
    exact (List.mem_append.mp he).elim (hkill.isEnding e) (hreap.isEnding e)
  | done hkill hreap answer =>
    rcases List.mem_append.mp he with hmem | hmem
    · exact (List.mem_append.mp hmem).elim (hkill.isEnding e) (hreap.isEnding e)
    · obtain rfl := List.mem_singleton.mp hmem
      rfl

/-- Neither a sweep nor the reap behind it sleeps. -/
theorem TeardownCalls.idle_notMem {path : Path} {spared : Option Pid}
    {disconnectError : Option SpawnError} {r r' : Registry} {es : List Event}
    {report : Option TeardownReport}
    (hcalls : TeardownCalls path spared disconnectError r es report r') : .idle ∉ es := by
  intro he
  cases hcalls with
  | goesOn hkill hreap =>
    rcases List.mem_append.mp he with hmem | hmem
    · cases hkill.isTerminate _ hmem
    · cases hreap.isReaping _ hmem
  | done hkill hreap answer =>
    rcases List.mem_append.mp he with hmem | hmem
    · rcases List.mem_append.mp hmem with hmem | hmem
      · cases hkill.isTerminate _ hmem
      · cases hreap.isReaping _ hmem
    · cases List.mem_singleton.mp hmem

/-- A teardown never sleeps. -/
theorem ShutdownCalls.idle_notMem {path : Path} {disconnect : Command} {r r' : Registry}
    {es : List Event} {report : Option TeardownReport}
    (hcalls : ShutdownCalls path disconnect r es report r') : .idle ∉ es := by
  cases hcalls with
  | detach hspawn hteardown =>
    rw [List.mem_append, not_or]
    refine ⟨?_, hteardown.idle_notMem⟩
    cases hspawn <;> simp

/-- A start of a child is no step into the background. -/
theorem SpawnCalls.countP_isBackground {c : Command} {r r' : Registry} {es : List Event}
    {result : Except SpawnError Pid} (hcalls : SpawnCalls c r es result r') :
    es.countP Event.isBackground = 0 := by
  cases hcalls with
  | full _ => rfl
  | failed _ _ => rfl
  | started _ _ => rfl

/-! ### The ends of waits and reaps, and the start of a child -/

/-- How a wait with a given result ends: its last event, and what it leaves in the registry. -/
def EndOfWait (last : Event) (r' : Registry) : Except IoError WaitOutcome → Prop
  | .error cause => last = .waitAny (.error cause) ∧ r'.pids ≠ []
  | .ok .noneLeft => last = .takePending none ∧ r'.pids = []
  | .ok .interrupted => ∃ signal, last = .takePending (some signal)
  | .ok (.exited pid) => last = .waitAny (.ok (.child pid))

/-- The last event of a wait that has returned shows its result. By induction along the passes: the
passes before the last only add events in front. -/
theorem WaitCalls.ends {blocks : Bool} {r r' : Registry} {es : List Event}
    {result? : Option (Except IoError WaitOutcome)} {result : Except IoError WaitOutcome}
    (hcalls : WaitCalls blocks r es result? r') (hresult : result? = some result) :
    ∃ before last, es = before ++ [last] ∧ EndOfWait last r' result := by
  induction hcalls with
  | goesOn => cases hresult
  | interrupted signal =>
    cases hresult
    exact ⟨[], _, rfl, signal, rfl⟩
  | noneLeft hempty _ =>
    cases hresult
    exact ⟨[], _, rfl, rfl, hempty⟩
  | failed hsome =>
    cases hresult
    exact ⟨[_], _, rfl, rfl, hsome⟩
  | exited _ =>
    cases hresult
    exact ⟨[_], _, rfl, rfl⟩
  | idle _ _ _ ih =>
    -- the passes before the last one do not matter
    obtain ⟨before, last, rfl, hend⟩ := ih hresult
    exact ⟨_ :: _ :: before, last, rfl, hend⟩
  | cutShort _ _ ih =>
    obtain ⟨before, last, rfl, hend⟩ := ih hresult
    exact ⟨_ :: _ :: before, last, rfl, hend⟩
  | untracked _ _ _ ih =>
    obtain ⟨before, last, rfl, hend⟩ := ih hresult
    exact ⟨_ :: _ :: before, last, rfl, hend⟩

/-- A reap ends with a look for a request and no child left, or with the wait that failed while
there were children left. -/
theorem ReapCalls.ends {r r' : Registry} {es : List Event} {result : Except IoError Unit}
    (hcalls : ReapCalls r es (some result) r') :
    (result = .ok () ∧ r'.pids = [] ∧ ∃ before, es = before ++ [.takePending none]) ∨
    (∃ cause before, result = .error cause ∧ r'.pids ≠ [] ∧
      es = before ++ [.waitAny (.error cause)]) := by
  generalize hresult : some result = result? at hcalls
  induction hcalls with
  | goesOn _ => cases hresult
  | failed hwait =>
    cases hresult
    obtain ⟨before, last, rfl, rfl, hsome⟩ := hwait.ends rfl
    exact Or.inr ⟨_, before, rfl, hsome, rfl⟩
  | done hwait =>
    cases hresult
    obtain ⟨before, last, rfl, rfl, hempty⟩ := hwait.ends rfl
    exact Or.inl ⟨rfl, hempty, before, rfl⟩
  | @more _ _ _ es _ _ _ _ _ _ ih =>
    rcases ih hresult with ⟨hok, hempty, before, rfl⟩ | ⟨cause, before, herror, hsome, rfl⟩
    · exact Or.inl ⟨hok, hempty, es ++ before, (List.append_assoc ..).symm⟩
    · exact Or.inr ⟨cause, es ++ before, herror, hsome, (List.append_assoc ..).symm⟩

/-- A wait fails exactly where the host's wait has failed, and with the same cause. -/
theorem WaitCalls.mem_failed_iff {blocks : Bool} {r r' : Registry} {es : List Event}
    {result : Option (Except IoError WaitOutcome)} {cause : IoError}
    (hcalls : WaitCalls blocks r es result r') :
    .waitAny (.error cause) ∈ es ↔ result = some (.error cause) := by
  induction hcalls with
  | failed _ cause' => simp [eq_comm]
  | idle _ _ _ ih => simpa using ih
  | cutShort _ _ ih => simpa using ih
  | untracked _ _ _ ih => simpa using ih
  | _ => simp

/-- A reap fails with the first wait of the host that fails, and with its cause. -/
theorem ReapCalls.mem_failed_iff {r r' : Registry} {es : List Event}
    {result : Option (Except IoError Unit)} {cause : IoError}
    (hcalls : ReapCalls r es result r') :
    .waitAny (.error cause) ∈ es ↔ result = some (.error cause) := by
  induction hcalls with
  | goesOn hwait => simp [hwait.mem_failed_iff]
  | failed hwait => simp [hwait.mem_failed_iff]
  | done hwait => simp [hwait.mem_failed_iff]
  | more hwait _ _ ih =>
    -- the waits before the last one have not failed
    rw [List.mem_append, hwait.mem_failed_iff, ih]
    simp

/-- With room in the registry, a start is one request to the system. -/
theorem SpawnCalls.of_room {c : Command} {r r' : Registry} {es : List Event}
    {result : Except SpawnError Pid} (hcalls : SpawnCalls c r es result r')
    (hroom : r.pids.length < registryCapacity) :
    (∃ cause, es = [.spawn c (.error cause)] ∧ result = .error (.launch c.program cause) ∧
      r' = r) ∨
    (∃ pid, es = [.spawn c (.ok pid)] ∧ result = .ok pid ∧ r' = r.insert pid) := by
  cases hcalls with
  -- the registry has room by hypothesis
  | full hfull => omega
  | failed _ cause => exact Or.inl ⟨cause, rfl, rfl, rfl⟩
  | started _ pid => exact Or.inr ⟨pid, rfl, rfl, rfl⟩

/-- A start asks the system for nothing else. -/
theorem SpawnCalls.eq_spawn {c : Command} {r r' : Registry} {es : List Event} {e : Event}
    {result : Except SpawnError Pid} (hcalls : SpawnCalls c r es result r') (he : e ∈ es) :
    ∃ answer, e = .spawn c answer := by
  cases hcalls with
  | full _ => cases he
  | failed _ cause => exact ⟨_, List.mem_singleton.mp he⟩
  | started _ pid => exact ⟨_, List.mem_singleton.mp he⟩

/-- A start asks the system only while there is room. -/
theorem SpawnCalls.startsWithRoom {c : Command} {r r' : Registry} {es : List Event}
    {result : Except SpawnError Pid} (hcalls : SpawnCalls c r es result r') :
    StartsWithRoom r.pids es := by
  cases hcalls with
  | full _ => exact Always.nil
  | failed hroom _ => exact Always.singleton_iff.mpr fun _ _ => hroom
  | started hroom _ => exact Always.singleton_iff.mpr fun _ _ => hroom

/-! ### The registry is the one of the trace -/

/-- A start that has succeeded adds its child to the registry of the trace as well. -/
theorem SpawnCalls.track {c : Command} {r r' : Registry} {es : List Event}
    {result : Except SpawnError Pid} (hcalls : SpawnCalls c r es result r') :
    r'.pids = registeredAfter r.pids es := by
  cases hcalls with
  | full _ => rfl
  | failed _ _ => rfl
  | started _ _ => rfl

/-- Of all that a wait reports, only the exit of a registered child changes the registry. -/
theorem WaitCalls.track {blocks : Bool} {r r' : Registry} {es : List Event}
    {result : Option (Except IoError WaitOutcome)} (hcalls : WaitCalls blocks r es result r') :
    r'.pids = registeredAfter r.pids es := by
  induction hcalls with
  | goesOn => rfl
  | interrupted => rfl
  | noneLeft => rfl
  | idle _ _ _ ih => exact ih
  | failed => rfl
  | cutShort _ _ ih => exact ih
  | untracked _ hpid _ ih =>
    -- a process that is not registered takes no entry with it
    rw [ih]
    simp [Event.track, List.erase_of_not_mem hpid]
  | exited => rfl

/-- A request to terminate changes no registry: the child is there until its exit is reported. -/
theorem KillCalls.track {pids targets : List Pid} {es : List Event}
    (hcalls : KillCalls targets es) : registeredAfter pids es = pids := by
  induction hcalls with
  | nil => rfl
  | cons _ _ _ ih => exact ih

/-- The registries of waits in a row fit together. -/
theorem WaitRow.track {blocks : Bool} {r r' : Registry} {es : List Event}
    (hrow : WaitRow blocks r es r') : r'.pids = registeredAfter r.pids es := by
  induction hrow with
  | last hwait => exact hwait.track
  | more hwait _ ih => rw [ih, hwait.track, registeredAfter_append]

/-- A reap takes out those whose exits are reported in it. -/
theorem ReapCalls.track {r r' : Registry} {es : List Event} {result : Option (Except IoError Unit)}
    (hcalls : ReapCalls r es result r') : r'.pids = registeredAfter r.pids es :=
  hcalls.waitRow.track

/-- A teardown takes out those that its reap has found. -/
theorem TeardownCalls.track {path : Path} {spared : Option Pid}
    {disconnectError : Option SpawnError} {r r' : Registry} {es : List Event}
    {report : Option TeardownReport}
    (hcalls : TeardownCalls path spared disconnectError r es report r') :
    r'.pids = registeredAfter r.pids es := by
  cases hcalls with
  -- the sweep leaves the registry to the reap
  | goesOn hkill hreap => rw [registeredAfter_append, hkill.track, hreap.track]
  | done hkill hreap answer =>
    rw [registeredAfter_append, registeredAfter_append, hkill.track, hreap.track]
    rfl

/-- A full teardown registers the helper first, if there is one. -/
theorem ShutdownCalls.track {path : Path} {disconnect : Command} {r r' : Registry}
    {es : List Event} {report : Option TeardownReport}
    (hcalls : ShutdownCalls path disconnect r es report r') :
    r'.pids = registeredAfter r.pids es := by
  cases hcalls with
  | detach hspawn hteardown => rw [registeredAfter_append, ← hspawn.track, hteardown.track]

end NbdAttach
