import NbdAttach.Proofs.Supervisor.Rounds
import NbdAttach.Proofs.Supervisor.TeardownParts

/-!
# Sessions in step

Two sessions that ask two hosts. As long as the hosts give both the same answers, the sessions make
the same calls: nothing they do depends on their records, or on what else there is in the states of
the hosts.

* `Host.Agrees` says that two hosts answer alike in related states, looks for a request excepted.
* `Session.InStep` says that two sessions have gone on by the same calls, as far as calls of the
  kinds `p` are concerned, and that they can go on alike.

Each part of a teardown keeps two sessions in step. The reap looks for requests, so it does so where
the looks find the same in both sessions; this is said of one pass (`Session.pass_inStep`), and what
it means for a reap is left to those who know what the looks find.
-/

namespace NbdAttach

variable {σ σ₁ σ₂ α : Type}

/-- The same answer, and host states that are related again. -/
def SameAnswer (R : σ₁ → σ₂ → Prop) (x : α × σ₁) (y : α × σ₂) : Prop :=
  x.1 = y.1 ∧ R x.2 y.2

/-- In related states two hosts give the same answers to whatever a teardown asks, looks for a
request excepted. -/
structure Host.Agrees (h₁ : Host σ₁) (h₂ : Host σ₂) (R : σ₁ → σ₂ → Prop) : Prop where
  spawn : ∀ c st₁ st₂, R st₁ st₂ → SameAnswer R (h₁.spawn c st₁) (h₂.spawn c st₂)
  waitAny : ∀ st₁ st₂, R st₁ st₂ → SameAnswer R (h₁.waitAny st₁) (h₂.waitAny st₂)
  terminate : ∀ pid st₁ st₂, R st₁ st₂ →
    SameAnswer R (h₁.terminate pid st₁) (h₂.terminate pid st₂)
  removeSocket : ∀ path st₁ st₂, R st₁ st₂ →
    SameAnswer R (h₁.removeSocket path st₁) (h₂.removeSocket path st₂)
  idle : ∀ st₁ st₂, R st₁ st₂ → R (h₁.idle st₁) (h₂.idle st₂)

theorem SameAnswer.of_eq {x y : α × σ} (heq : x = y) : SameAnswer Eq x y :=
  ⟨congrArg Prod.fst heq, congrArg Prod.snd heq⟩

/-- A host agrees with itself. -/
theorem Host.agrees_self (h : Host σ) : h.Agrees h Eq where
  spawn c _ _ heq := .of_eq (congrArg (h.spawn c) heq)
  waitAny _ _ heq := .of_eq (congrArg h.waitAny heq)
  terminate pid _ _ heq := .of_eq (congrArg (h.terminate pid) heq)
  removeSocket path _ _ heq := .of_eq (congrArg (h.removeSocket path) heq)
  idle _ _ heq := congrArg h.idle heq

namespace Session

/-! ### Sessions that go on alike -/

/-- What two sessions have in common that go on alike. -/
structure Alike (R : σ₁ → σ₂ → Prop) (s : Session σ₁) (t : Session σ₂) : Prop where
  host : R s.host t.host
  registry : s.registry = t.registry

/-- The sessions `s` and `t` have gone on to `s'` and `t'` by calls that are the same, as far as
they are of the kinds `p`. -/
structure InStep (R : σ₁ → σ₂ → Prop) (p : Event → Bool) (s : Session σ₁) (t : Session σ₂)
    (s' : Session σ₁) (t' : Session σ₂) : Prop where
  calls : ∃ es es', s.Leads es s' ∧ t.Leads es' t' ∧ es.filter p = es'.filter p
  alike : Alike R s' t'

namespace InStep

variable {R : σ₁ → σ₂ → Prop} {p : Event → Bool} {s s₁ s₂ s' : Session σ₁}
  {t t₁ t₂ t' : Session σ₂}

theorem refl (halike : Alike R s t) : InStep R p s t s t where
  calls := ⟨[], [], .refl s, .refl t, rfl⟩
  alike := halike

theorem of_leads {es : List Event} (hs : s.Leads es s') (ht : t.Leads es t')
    (halike : Alike R s' t') : InStep R p s t s' t' where
  calls := ⟨es, es, hs, ht, rfl⟩
  alike := halike

theorem trans (h₁ : InStep R p s t s₁ t₁) (h₂ : InStep R p s₁ t₁ s₂ t₂) :
    InStep R p s t s₂ t₂ where
  calls := by
    obtain ⟨es, es', hs, ht, heq⟩ := h₁.calls
    obtain ⟨fs, fs', hs', ht', heq'⟩ := h₂.calls
    refine ⟨es ++ fs, es' ++ fs', hs.trans hs', ht.trans ht', ?_⟩
    rw [List.filter_append, List.filter_append, heq, heq']
  alike := h₂.alike

/-- Notices do not matter, so they need not even be the same. -/
theorem tell (hstep : InStep R p s t s₁ t₁) (n n' : Notice) :
    InStep R p s t (s₁.tell n) (t₁.tell n') where
  calls := by
    obtain ⟨es, es', hs, ht, heq⟩ := hstep.calls
    exact ⟨es, es', hs.tell n, ht.tell n', heq⟩
  alike := ⟨hstep.alike.host, hstep.alike.registry⟩

/-- Both registries may be replaced by the same one. -/
theorem setRegistry (hstep : InStep R p s t s₁ t₁) (registry : Registry) :
    InStep R p s t { s₁ with registry } { t₁ with registry } where
  calls := by
    obtain ⟨es, es', hs, ht, heq⟩ := hstep.calls
    exact ⟨es, es', hs.setRegistry registry, ht.setRegistry registry, heq⟩
  alike := ⟨hstep.alike.host, rfl⟩

/-- Calls of other kinds leave the one session where it is. -/
theorem prepend_left {es : List Event} (hs : s.Leads es s₁) (hes : es.filter p = [])
    (hstep : InStep R p s₁ t s' t') : InStep R p s t s' t' where
  calls := by
    obtain ⟨fs, fs', hs', ht, heq⟩ := hstep.calls
    refine ⟨es ++ fs, fs', hs.trans hs', ht, ?_⟩
    rw [List.filter_append, hes, heq, List.nil_append]
  alike := hstep.alike

theorem prepend_right {es : List Event} (ht : t.Leads es t₁) (hes : es.filter p = [])
    (hstep : InStep R p s t₁ s' t') : InStep R p s t s' t' where
  calls := by
    obtain ⟨fs, fs', hs, ht', heq⟩ := hstep.calls
    refine ⟨fs, es ++ fs', hs, ht.trans ht', ?_⟩
    rw [List.filter_append, hes, heq, List.nil_append]
  alike := hstep.alike

end InStep

variable {R : σ₁ → σ₂ → Prop} {p : Event → Bool} {s s' : Session σ₁} {t : Session σ₂}
  {h₁ : Host σ₁} {h₂ : Host σ₂}

theorem Alike.tell (halike : Alike R s t) (n n' : Notice) : Alike R (s.tell n) (t.tell n') where
  host := halike.host
  registry := halike.registry

/-- A request with the same answer in both sessions. -/
theorem ask_inStep (h₂ : Host σ₂) {e : α → Event} {x : α × σ₁} {y : α × σ₂} {a : α}
    {s₁ : Session σ₁} (halike : Alike R s t) (hsame : SameAnswer R x y)
    (hask : s.ask h₁ e x = (a, s₁)) :
    ∃ t₁, t.ask h₂ e y = (a, t₁) ∧ InStep R p s t s₁ t₁ := by
  obtain ⟨rfl, rfl⟩ := Prod.mk.inj hask
  refine ⟨t.answered h₂ (e y.1) y.2, ?_, ?_⟩
  · rw [ask, hsame.1]
  · -- the events of both are the same, for their answers are
    refine .of_leads (leads_answered h₁ s (e x.1) x.2) ?_ ⟨hsame.2, halike.registry⟩
    rw [hsame.1]
    exact leads_answered h₂ t (e y.1) y.2

/-! ### Passes -/

/-- Where the looks find the same, a whole pass does the same in both sessions. -/
theorem pass_inStep (hagrees : h₁.Agrees h₂ R) (blocks : Bool) (halike : Alike R s t)
    (hlook : SameAnswer R (h₁.takePending s.host) (h₂.takePending t.host)) :
    (s.pass h₁ blocks).result? = (t.pass h₂ blocks).result? ∧
      InStep R p s t (s.pass h₁ blocks).session (t.pass h₂ blocks).session := by
  rcases htake : s.takePending h₁ with ⟨_ | signal, s₁⟩
  · obtain ⟨t₁, htake', hlooked⟩ := ask_inStep h₂ (p := p) halike hlook htake
    rw [pass, pass, htake, takePending, htake']
    dsimp only
    -- both look at the same registry, so they take the same branch
    rw [← hlooked.alike.registry]
    split
    · split
      · -- both sleep
        have hslept : InStep R p s₁ t₁ (s₁.idle h₁) (t₁.idle h₂) :=
          .of_leads (leads_answered h₁ s₁ .idle _) (leads_answered h₂ t₁ .idle _)
            ⟨hagrees.idle _ _ hlooked.alike.host, hlooked.alike.registry⟩
        exact ⟨rfl, hlooked.trans hslept⟩
      · exact ⟨rfl, hlooked⟩
    · rcases hwait : s₁.waitAny h₁ with ⟨answer, s₂⟩
      -- there are children, and both hosts report the same
      obtain ⟨t₂, hwait', hstep⟩ := ask_inStep h₂ (p := p) hlooked.alike
        (hagrees.waitAny _ _ hlooked.alike.host) hwait
      rw [waitAny, hwait']
      have hwaited := hlooked.trans hstep
      rcases answer with cause | (pid | _)
      · exact ⟨rfl, hwaited⟩
      · dsimp only
        -- the child is registered in both sessions or in none
        rw [← hwaited.alike.registry]
        split
        · exact ⟨rfl, (hwaited.setRegistry _).tell _ _⟩
        · exact ⟨rfl, hwaited.tell _ _⟩
      · exact ⟨rfl, hwaited⟩
  · obtain ⟨t₁, htake', hlooked⟩ := ask_inStep h₂ (p := p) halike hlook htake
    rw [pass, pass, htake, takePending, htake']
    exact ⟨rfl, hlooked.tell _ _⟩

/-- Where the looks find the same, a pass of a reap does the same in both sessions. -/
theorem reapPass_inStep (hagrees : h₁.Agrees h₂ R) (halike : Alike R s t)
    (hlook : SameAnswer R (h₁.takePending s.host) (h₂.takePending t.host)) :
    (s.reapPass h₁).result? = (t.reapPass h₂).result? ∧
      InStep R p s t (s.reapPass h₁).session (t.reapPass h₂).session := by
  obtain ⟨hresult, hstep⟩ := pass_inStep (p := p) hagrees false halike hlook
  exact ⟨congrArg (Option.bind · endOfReap) hresult, hstep⟩

/-! ### The parts of a teardown -/

/-- The arguments of a command are told in step. -/
theorem tellArguments_inStep (halike : Alike R s t) (index : Nat) (args : List String) :
    InStep R p s t (s.tellArguments index args) (t.tellArguments index args) := by
  induction args generalizing s t index with
  | nil => exact .refl halike
  | cons arg rest ih =>
    have hrest := ih (halike.tell (.argument index arg) (.argument index arg)) (index + 1)
    exact ((InStep.refl halike).tell _ _).trans hrest

/-- With room for it, both sessions register the child. -/
theorem register_inStep (halike : Alike R s t) (hroom : s.registry.pids.length < registryCapacity)
    (pid : Pid) : InStep R p s t (s.register pid) (t.register pid) := by
  obtain ⟨hleads, hinsert⟩ := leads_register hroom pid
  obtain ⟨hleads', hinsert'⟩ := leads_register (halike.registry ▸ hroom) pid
  refine .of_leads hleads hleads' ⟨?_, ?_⟩
  · have hhost : ∀ {σ : Type} (s : Session σ), (s.register pid).host = s.host := by
      intro σ s
      rw [register]
      split <;> rfl
    rw [hhost, hhost]
    exact halike.host
  · rw [hinsert, hinsert', halike.registry]

/-- Both sessions make the start, with the same result. -/
theorem spawn_inStep (hagrees : h₁.Agrees h₂ R) (halike : Alike R s t) {c : Command}
    {result : Except SpawnError Pid} (hspawn : s.spawn h₁ c = (result, s')) :
    ∃ t', t.spawn h₂ c = (result, t') ∧ InStep R p s t s' t' := by
  rw [spawn] at hspawn ⊢
  by_cases hfull : s.registry.isFull = true
  · -- with a full registry neither of the hosts is asked
    rw [if_pos hfull] at hspawn
    rw [← halike.registry, if_pos hfull]
    obtain ⟨rfl, rfl⟩ := Prod.mk.inj hspawn
    exact ⟨t, rfl, .refl halike⟩
  · rw [if_neg hfull] at hspawn
    rw [← halike.registry, if_neg hfull]
    have htold : InStep R p s t ((s.tell (.executing c.program)).tellArguments 0 c.argv)
        ((t.tell (.executing c.program)).tellArguments 0 c.argv) :=
      ((InStep.refl halike).tell _ _).trans (tellArguments_inStep (halike.tell _ _) 0 c.argv)
    rcases hprocess : ((s.tell (.executing c.program)).tellArguments 0 c.argv).spawnProcess h₁ c
      with ⟨answer, s₁⟩
    obtain ⟨t₁, hprocess', hstep⟩ :=
      ask_inStep h₂ (p := p) htold.alike (hagrees.spawn c _ _ htold.alike.host) hprocess
    rw [hprocess] at hspawn
    rw [spawnProcess, hprocess']
    cases answer with
    | error cause =>
      obtain ⟨rfl, rfl⟩ := Prod.mk.inj hspawn
      exact ⟨t₁, rfl, htold.trans hstep⟩
    | ok pid =>
      obtain ⟨rfl, rfl⟩ := Prod.mk.inj hspawn
      -- both registries have room for the child, for both are the one there was before the start
      have hroom : s₁.registry.pids.length < registryCapacity := by
        have hregistry : s₁.registry = s.registry :=
          (registry_of_ask hprocess).trans (tellArguments_leads _ _ _).2
        rw [Registry.isFull_iff] at hfull
        rw [hregistry]
        omega
      have hasked := htold.trans hstep
      exact ⟨(t₁.register pid).tell (.started c.program pid), rfl,
        (hasked.trans (register_inStep hasked.alike hroom pid)).tell _ _⟩

/-- Both sessions ask a child to terminate. -/
theorem kill_inStep (hagrees : h₁.Agrees h₂ R) (halike : Alike R s t) (pid : Pid) :
    InStep R p s t (s.kill h₁ pid) (t.kill h₂ pid) := by
  have htold : InStep R p s t (s.tell (.killing pid)) (t.tell (.killing pid)) :=
    (InStep.refl halike).tell _ _
  rcases hterminate : (s.tell (.killing pid)).terminate h₁ pid with ⟨answer, s₁⟩
  obtain ⟨t₁, hterminate', hstep⟩ :=
    ask_inStep h₂ (p := p) htold.alike (hagrees.terminate pid _ _ htold.alike.host) hterminate
  rw [kill, kill, hterminate, terminate, hterminate']
  have hasked := htold.trans hstep
  cases answer with
  | delivered => exact hasked
  | notFound => exact hasked.tell _ _
  | denied => exact hasked.tell _ _
  | failed reason => exact hasked.tell _ _

/-- Both sessions ask the same children to terminate, in the same order. -/
theorem killEach_inStep (hagrees : h₁.Agrees h₂ R) (halike : Alike R s t) (pids : List Pid) :
    InStep R p s t (killEach h₁ pids s) (killEach h₂ pids t) := by
  induction pids generalizing s t with
  | nil => exact .refl halike
  | cons pid rest ih =>
    have hkill := kill_inStep (p := p) hagrees halike pid
    exact hkill.trans (ih hkill.alike)

/-- The children are the same, so the same ones are asked to terminate. -/
theorem beginReap_inStep (hagrees : h₁.Agrees h₂ R) (halike : Alike R s t) (before before' : Phase)
    (spared : Option Pid) :
    InStep R p s t (s.beginReap h₁ before spared) (t.beginReap h₂ before' spared) := by
  have htold : InStep R p s t (s.advance before .killing) (t.advance before' .killing) :=
    (InStep.refl halike).tell _ _
  have hkill := killEach_inStep (p := p) hagrees htold.alike
    ((s.advance before .killing).registry.pids.filter fun pid => some pid != spared)
  rw [beginReap, beginReap, killAllExcept, killAllExcept, ← htold.alike.registry]
  exact (htold.trans hkill).tell _ _

/-- The helper is started in both sessions or in none. -/
theorem detach_inStep (hagrees : h₁.Agrees h₂ R) (halike : Alike R s t) (disconnect : Command) :
    (s.detach h₁ disconnect).1 = (t.detach h₂ disconnect).1 ∧
      InStep R p s t (s.detach h₁ disconnect).2 (t.detach h₂ disconnect).2 := by
  have htold : InStep R p s t (s.advance .running .disconnecting)
      (t.advance .running .disconnecting) := (InStep.refl halike).tell _ _
  rcases hspawn : (s.advance .running .disconnecting).spawn h₁ disconnect with ⟨result, s₁⟩
  obtain ⟨t₁, hspawn', hstep⟩ := spawn_inStep (p := p) hagrees htold.alike hspawn
  rw [detach, detach, hspawn, hspawn']
  cases result with
  | error error => exact ⟨rfl, (htold.trans hstep).tell _ _⟩
  | ok helper => exact ⟨rfl, htold.trans hstep⟩

/-- The way to the reap is the same in both sessions. -/
theorem beginShutdownReap_inStep (hagrees : h₁.Agrees h₂ R) (halike : Alike R s t)
    (disconnect : Command) :
    InStep R p s t (s.beginShutdownReap h₁ disconnect) (t.beginShutdownReap h₂ disconnect) := by
  obtain ⟨hhelper, hstep⟩ := detach_inStep (p := p) hagrees halike disconnect
  -- so the same helper is spared
  rw [beginShutdownReap, beginShutdownReap, ← hhelper]
  exact hstep.trans (beginReap_inStep hagrees hstep.alike _ _ _)

/-- Both sessions remove the socket. -/
theorem cleanUp_inStep (hagrees : h₁.Agrees h₂ R) (halike : Alike R s t) (endpoint : Endpoint) :
    InStep R p s t (s.cleanUp h₁ endpoint) (t.cleanUp h₂ endpoint) := by
  rcases hremove : s.removeSocket h₁ endpoint.path with ⟨answer, s₁⟩
  obtain ⟨t₁, hremove', hstep⟩ :=
    ask_inStep h₂ (p := p) halike (hagrees.removeSocket _ _ _ halike.host) hremove
  rw [cleanUp, cleanUp, hremove, removeSocket, hremove']
  cases answer with
  | ok _ => exact hstep
  | error cause => exact hstep.tell _ _

/-- What comes after the reap is the same in both sessions, whatever has become of the helper. -/
theorem finish_inStep (hagrees : h₁.Agrees h₂ R) (halike : Alike R s t) (endpoint : Endpoint)
    (disconnectError disconnectError' : Option SpawnError) (reaped : Except IoError Unit) :
    InStep R p s t (s.finish h₁ endpoint disconnectError reaped).2
      (t.finish h₂ endpoint disconnectError' reaped).2 := by
  have htold : InStep R p s t ((s.tellReaped reaped).advance .reaping .done)
      ((t.tellReaped reaped).advance .reaping .done) := by
    cases reaped with
    | ok _ => exact (InStep.refl halike).tell _ _
    | error cause => exact ((InStep.refl halike).tell _ _).tell _ _
  exact htold.trans (cleanUp_inStep hagrees htold.alike endpoint)

end Session

end NbdAttach
