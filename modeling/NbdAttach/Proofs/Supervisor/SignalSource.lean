import NbdAttach.Proofs.Adversary
import NbdAttach.Proofs.Supervisor.InStep

/-!
# Signals during a teardown

A host whose processes and whose signals are independent of each other: a control of processes,
which is any host, and a source of signals with a state of its own. Only looks for a request see
the source, and only they move it on.

Such a host is put under the same session with two sources, and both of them report finitely many
signals. In a reap each signal costs one look and nothing else, so the reaps are in step, with
stutters: `Session.Drains.transfer` goes through the passes of the one reap, skips the signals of
the other (`Session.exists_quietLook`), and takes the next pass of both from the looks that have
found nothing. A teardown is in step before and after its reap.
-/

namespace NbdAttach

variable {σ κ τ τ₁ τ₂ α : Type}

/-! ### Sources of signals -/

/-- Where requests to end come from: what the next look finds, and what then is left. -/
structure SignalSource (τ : Type) where
  take : τ → Option Signal × τ

namespace SignalSource

/-- The state of the source after some looks. -/
def after (src : SignalSource τ) (st : τ) : Nat → τ
  | 0 => st
  | looks + 1 => src.after (src.take st).2 looks

/-- What a look finds, when there have been `looks` others before it. -/
def find (src : SignalSource τ) (st : τ) (looks : Nat) : Option Signal :=
  (src.take (src.after st looks)).1

/-- From the state on, only finitely many looks find a signal. -/
def FinitelyMany (src : SignalSource τ) (st : τ) : Prop :=
  {looks | src.find st looks ≠ none}.Finite

theorem FinitelyMany.take {src : SignalSource τ} {st : τ} (hfinite : src.FinitelyMany st) :
    src.FinitelyMany (src.take st).2 :=
  hfinite.preimage Nat.succ_injective.injOn

/-- From some look on nothing is found. -/
theorem FinitelyMany.exists_bound {src : SignalSource τ} {st : τ}
    (hfinite : src.FinitelyMany st) : ∃ bound, ∀ looks ≥ bound, src.find st looks = none := by
  obtain ⟨last, hlast⟩ := hfinite.bddAbove
  refine ⟨last + 1, fun looks hlooks => ?_⟩
  by_contra hfound
  have := hlast hfound
  omega

/-- The source that hands out the signals of a list, one with each look. -/
def queue : SignalSource (List Signal) where
  take
    | [] => (none, [])
    | signal :: rest => (some signal, rest)

/-- A look finds the signal whose place in the list is its own. -/
theorem find_queue (signals : List Signal) (looks : Nat) :
    queue.find signals looks = signals[looks]? := by
  induction looks generalizing signals with
  | zero => cases signals <;> rfl
  | succ looks ih =>
    cases signals with
    | nil => exact ih []
    | cons signal rest => exact ih rest

theorem queue_finitelyMany (signals : List Signal) : queue.FinitelyMany signals := by
  refine (Set.finite_Iio signals.length).subset fun looks hfound => ?_
  by_contra hbeyond
  exact hfound ((find_queue signals looks).trans (List.getElem?_eq_none (not_lt.mp hbeyond)))

end SignalSource

/-- An answer of the control, in front of a source that stays as it is. -/
def onControl (f : κ → α × κ) (st : κ × τ) : α × (κ × τ) :=
  ((f st.1).1, (f st.1).2, st.2)

/-- The host whose processes are those of the control, and whose signals are those of the source. -/
def Host.withSignals (control : Host κ) (src : SignalSource τ) : Host (κ × τ) where
  spawn c := onControl (control.spawn c)
  waitAny := onControl control.waitAny
  terminate pid := onControl (control.terminate pid)
  idle st := (control.idle st.1, st.2)
  takePending st := ((src.take st.2).1, st.1, (src.take st.2).2)
  awaitSocket path bounds := onControl (control.awaitSocket path bounds)
  background inv := onControl (control.background inv)
  removeSocket path := onControl (control.removeSocket path)
  stat path := onControl (control.stat path)
  unlink path := onControl (control.unlink path)
  catchSignals := onControl control.catchSignals
  remarks e st := control.remarks e st.1

/-- The same control, in front of a second source that reports finitely many signals. -/
def SameControl (src₂ : SignalSource τ₂) (x : κ × τ₁) (y : κ × τ₂) : Prop :=
  x.1 = y.1 ∧ src₂.FinitelyMany y.2

/-- What the control answers is the same behind both sources. -/
theorem SameControl.onControl {src₂ : SignalSource τ₂} {x : κ × τ₁} {y : κ × τ₂}
    (hsame : SameControl src₂ x y) (f : κ → α × κ) :
    SameAnswer (SameControl src₂) (onControl f x) (onControl f y) :=
  ⟨congrArg (fun st => (f st).1) hsame.1, congrArg (fun st => (f st).2) hsame.1, hsame.2⟩

/-- The sources make no difference to what the control answers. -/
theorem Host.withSignals_agrees (control : Host κ) (src₁ : SignalSource τ₁)
    (src₂ : SignalSource τ₂) :
    (control.withSignals src₁).Agrees (control.withSignals src₂) (SameControl src₂) where
  spawn c _ _ hsame := hsame.onControl (control.spawn c)
  waitAny _ _ hsame := hsame.onControl control.waitAny
  terminate pid _ _ hsame := hsame.onControl (control.terminate pid)
  removeSocket path _ _ hsame := hsame.onControl (control.removeSocket path)
  idle _ _ hsame := ⟨congrArg control.idle hsame.1, hsame.2⟩

/-- Is the event anything but a look for a request? -/
def Event.notLook (e : Event) : Bool :=
  !e.isLook

namespace Session

/-! ### Reaps in step, with stutters -/

variable {control : Host κ} {src₁ : SignalSource τ₁} {src₂ : SignalSource τ₂}

/-- A look is answered by the source, and leaves the control as it is. -/
theorem takePending_withSignals (control : Host κ) (src : SignalSource τ) (s : Session (κ × τ)) :
    ∃ s₁, s.takePending (control.withSignals src) = ((src.take s.host.2).1, s₁) ∧
      s.Leads [.takePending (src.take s.host.2).1] s₁ ∧ s₁.registry = s.registry ∧
      s₁.host = (s.host.1, (src.take s.host.2).2) :=
  ⟨_, rfl, leads_answered .., rfl, rfl⟩

/-- A look that finds a signal is a pass of the reap, and changes nothing but the source. -/
theorem reapPass_of_signal (control : Host κ) {src : SignalSource τ} {s : Session (κ × τ)}
    {signal : Signal} (hfound : (src.take s.host.2).1 = some signal) :
    ∃ s₁, s.reapPass (control.withSignals src) = ⟨none, s₁⟩ ∧
      s.Leads [.takePending (some signal)] s₁ ∧ s₁.registry = s.registry ∧
      s₁.host = (s.host.1, (src.take s.host.2).2) := by
  obtain ⟨s₁, htake, hleads, hregistry, hhost⟩ := takePending_withSignals control src s
  rw [hfound] at htake hleads
  exact ⟨_, reapPass_of_taken htake, hleads.tell _, hregistry, hhost⟩

/-- Where finitely many signals come, a reap gets to a look that finds nothing. -/
theorem exists_quietLook (control : Host κ) {src : SignalSource τ} {t : Session (κ × τ)}
    (hfinite : src.FinitelyMany t.host.2) :
    ∃ looks t₁, (src.take t₁.host.2).1 = none ∧ t.Leads looks t₁ ∧ looks.filter Event.notLook = [] ∧
      t₁.registry = t.registry ∧ t₁.host.1 = t.host.1 ∧ src.FinitelyMany t₁.host.2 ∧
      ∀ result t', Drains (control.withSignals src) t₁ result t' →
        Drains (control.withSignals src) t result t' := by
  obtain ⟨bound, hbound⟩ := hfinite.exists_bound
  -- on the looks that may find something
  induction bound generalizing t with
  | zero => exact ⟨[], t, hbound 0 le_rfl, .refl t, rfl, rfl, rfl, hfinite, fun _ _ => id⟩
  | succ bound ih =>
    cases hfound : (src.take t.host.2).1 with
    | none => exact ⟨[], t, hfound, .refl t, rfl, rfl, rfl, hfinite, fun _ _ => id⟩
    | some signal =>
      obtain ⟨t₁, hpass, hleads, hregistry, hhost⟩ :=
        reapPass_of_signal control hfound
      have hfinite₁ : src.FinitelyMany t₁.host.2 := by
        rw [hhost]
        exact hfinite.take
      -- one look fewer may find something now
      have hbound₁ : ∀ looks ≥ bound, src.find t₁.host.2 looks = none := by
        intro looks hlooks
        rw [hhost]
        exact hbound (looks + 1) (by omega)
      obtain ⟨looks, t₂, hnone, hleads', hlooks, hregistry', hhost', hfinite', hdrains⟩ :=
        ih hfinite₁ hbound₁
      refine ⟨_, t₂, hnone, hleads.trans hleads', ?_, hregistry'.trans hregistry, ?_, hfinite',
        fun result t' hrest => .next hpass (hdrains result t' hrest)⟩
      · rw [List.filter_append, hlooks]
        rfl
      · rw [hhost', hhost]

/-- A pass of the one reap that finds no signal is in step with the next such pass of the other. -/
theorem exists_quietPass (control : Host κ) {s : Session (κ × τ₁)} {t : Session (κ × τ₂)}
    (halike : Alike (SameControl src₂) s t) (hnone : (src₁.take s.host.2).1 = none) :
    ∃ t₁, (s.reapPass (control.withSignals src₁)).result? =
        (t₁.reapPass (control.withSignals src₂)).result? ∧
      InStep (SameControl src₂) Event.notLook s t (s.reapPass (control.withSignals src₁)).session
        (t₁.reapPass (control.withSignals src₂)).session ∧
      ∀ result t', Drains (control.withSignals src₂) t₁ result t' →
        Drains (control.withSignals src₂) t result t' := by
  obtain ⟨looks, t₁, hnone', hleads, hlooks, hregistry, hcontrol, hfinite, hdrains⟩ :=
    exists_quietLook control halike.host.2
  have halike₁ : Alike (SameControl src₂) s t₁ :=
    ⟨⟨halike.host.1.trans hcontrol.symm, hfinite⟩, halike.registry.trans hregistry.symm⟩
  -- both looks find nothing
  have hlook : SameAnswer (SameControl src₂) ((control.withSignals src₁).takePending s.host)
      ((control.withSignals src₂).takePending t₁.host) :=
    ⟨hnone.trans hnone'.symm, halike₁.host.1, hfinite.take⟩
  obtain ⟨hresult, hstep⟩ := reapPass_inStep (p := Event.notLook)
    (control.withSignals_agrees src₁ src₂) halike₁ hlook
  exact ⟨t₁, hresult, hstep.prepend_right hleads hlooks, hdrains⟩

/-- **Reaps are in step.** A reap that returns under one source returns under another that reports
finitely many signals, with the same result. -/
theorem Drains.transfer {s s' : Session (κ × τ₁)} {result : Except IoError Unit}
    (hdrains : Drains (control.withSignals src₁) s result s') {t : Session (κ × τ₂)}
    (halike : Alike (SameControl src₂) s t) :
    ∃ t', Drains (control.withSignals src₂) t result t' ∧
      InStep (SameControl src₂) Event.notLook s t s' t' := by
  induction hdrains generalizing t with
  | @last s s' result hpass =>
    cases hfound : (src₁.take s.host.2).1 with
    | some signal =>
      -- the reap would go on
      obtain ⟨s₁, hpass', -⟩ := reapPass_of_signal control hfound
      rw [hpass] at hpass'
      cases hpass'
    | none =>
      -- the last pass of the one reap is the last of the other, too
      obtain ⟨t₁, hresult, hstep, hdrains⟩ :=
        exists_quietPass control halike hfound
      rw [hpass] at hresult hstep
      exact ⟨_, hdrains _ _ (.last (Progress.ext hresult.symm rfl)), hstep⟩
  | @next s s₁ s' result hpass hrest ih =>
    cases hfound : (src₁.take s.host.2).1 with
    | some signal =>
      -- a stutter: the other reap stays where it is
      obtain ⟨s₂, hpass', hleads, hregistry, hhost⟩ :=
        reapPass_of_signal control hfound
      rw [hpass] at hpass'
      obtain rfl := congrArg Progress.session hpass'
      have halike₁ : Alike (SameControl src₂) s₁ t :=
        ⟨⟨(congrArg Prod.fst hhost).trans halike.host.1, halike.host.2⟩,
          hregistry.trans halike.registry⟩
      obtain ⟨t', hdrains, hstep⟩ := ih halike₁
      exact ⟨t', hdrains, hstep.prepend_left hleads rfl⟩
    | none =>
      -- both reaps take their next pass from looks that find nothing
      obtain ⟨t₁, hresult, hstep, hdrains⟩ :=
        exists_quietPass control halike hfound
      rw [hpass] at hresult hstep
      obtain ⟨t', hdrains', hstep'⟩ := ih hstep.alike
      exact ⟨t', hdrains _ _ (.next (Progress.ext hresult.symm rfl) hdrains'), hstep.trans hstep'⟩

/-! ### Calls that carry over -/

/-- Where the one call returns from `s`, the other returns from `t`, with the same result, and the
calls are in step. -/
def CarriesOver (src₂ : SignalSource τ₂) (s : Session (κ × τ₁)) (t : Session (κ × τ₂))
    (call₁ : Nat → Option (α × Session (κ × τ₁)))
    (call₂ : Nat → Option (α × Session (κ × τ₂))) : Prop :=
  ∀ rounds a s', call₁ rounds = some (a, s') → ∃ rounds' t', call₂ rounds' = some (a, t') ∧
    InStep (SameControl src₂) Event.notLook s t s' t'

variable {s s₁ : Session (κ × τ₁)} {t t₁ : Session (κ × τ₂)}

/-- A reap carries over, from wherever the two sessions have come in step. -/
theorem reapAll_carriesOver (control : Host κ) (src₁ : SignalSource τ₁)
    (hstep : InStep (SameControl src₂) Event.notLook s t s₁ t₁) :
    CarriesOver src₂ s t (s₁.reapAll (control.withSignals src₁))
      (t₁.reapAll (control.withSignals src₂)) := by
  intro rounds reaped s₂ hreap
  obtain ⟨t₂, hdrains, hreaped⟩ := (drains_of_reapAll hreap).transfer hstep.alike
  obtain ⟨rounds', hreap'⟩ := hdrains.reapAll
  exact ⟨rounds', t₂, hreap', hstep.trans hreaped⟩

/-- What comes after a reap carries over with it. -/
theorem finish_carriesOver (control : Host κ) (src₁ : SignalSource τ₁)
    {reap₁ : Nat → Option (Except IoError Unit × Session (κ × τ₁))}
    {reap₂ : Nat → Option (Except IoError Unit × Session (κ × τ₂))}
    (hreap : CarriesOver src₂ s t reap₁ reap₂) (endpoint : Endpoint)
    (disconnectError : Option SpawnError) :
    CarriesOver src₂ s t
      (fun rounds => (reap₁ rounds).map fun r =>
        r.2.finish (control.withSignals src₁) endpoint disconnectError r.1)
      (fun rounds => (reap₂ rounds).map fun r =>
        r.2.finish (control.withSignals src₂) endpoint disconnectError r.1) := by
  intro rounds report s' hfinish
  obtain ⟨⟨reaped, s₂⟩, hreaped, hfinish⟩ := Option.map_eq_some_iff.mp hfinish
  obtain ⟨rfl, rfl⟩ := Prod.mk.inj hfinish
  obtain ⟨rounds', t₂, hreaped', hstep⟩ := hreap rounds reaped s₂ hreaped
  have hfinished := finish_inStep (p := Event.notLook) (control.withSignals_agrees src₁ src₂)
    hstep.alike endpoint disconnectError disconnectError reaped
  exact ⟨rounds', _, Option.map_eq_some_iff.mpr ⟨_, hreaped', rfl⟩, hstep.trans hfinished⟩

/-- A teardown without a helper carries over, with its reap. -/
theorem abort_carriesOver (endpoint : Endpoint) (halike : Alike (SameControl src₂) s t) :
    CarriesOver src₂ s t (s.abort (control.withSignals src₁) endpoint)
      (t.abort (control.withSignals src₂) endpoint) := by
  have hkill := beginReap_inStep (p := Event.notLook) (control.withSignals_agrees src₁ src₂) halike
    .running .running none
  simpa only [CarriesOver, abort_eq] using
    finish_carriesOver control src₁ (reapAll_carriesOver control src₁ hkill) endpoint none

/-- The full teardown carries over, from the start of its helper on. -/
theorem shutdown_carriesOver (endpoint : Endpoint) (disconnect : Command)
    (halike : Alike (SameControl src₂) s t) :
    CarriesOver src₂ s t (s.shutdown (control.withSignals src₁) endpoint disconnect)
      (t.shutdown (control.withSignals src₂) endpoint disconnect) := by
  have hagrees := control.withSignals_agrees src₁ src₂
  -- the helper is started in both sessions, or fails in both for the same reason
  have hhelper := (detach_inStep (p := Event.notLook) hagrees halike disconnect).1
  have hkill := beginShutdownReap_inStep (p := Event.notLook) hagrees halike disconnect
  have hfinish := finish_carriesOver control src₁ (reapAll_carriesOver control src₁ hkill) endpoint
    (failure? (s.detach (control.withSignals src₁) disconnect).1)
  rw [CarriesOver]
  simp only [shutdown_eq, ← hhelper]
  exact hfinish

/-- Whatever the rounds, a teardown without a helper returns in one way. -/
theorem abort_unique {h : Host σ} {endpoint : Endpoint} {s : Session σ} {rounds rounds' : Nat}
    {r r' : TeardownReport × Session σ} (habort : s.abort h endpoint rounds = some r)
    (habort' : s.abort h endpoint rounds' = some r') : r = r' := by
  rw [abort_eq, Option.map_eq_some_iff] at habort habort'
  obtain ⟨x, hreap, rfl⟩ := habort
  obtain ⟨y, hreap', rfl⟩ := habort'
  -- both have come from the one result of the reap
  rw [reapAll_unique hreap hreap']

/-- Whatever the rounds, a full teardown returns in one way. -/
theorem shutdown_unique {h : Host σ} {endpoint : Endpoint} {disconnect : Command} {s : Session σ}
    {rounds rounds' : Nat} {r r' : TeardownReport × Session σ}
    (hshutdown : s.shutdown h endpoint disconnect rounds = some r)
    (hshutdown' : s.shutdown h endpoint disconnect rounds' = some r') : r = r' := by
  rw [shutdown_eq, Option.map_eq_some_iff] at hshutdown hshutdown'
  obtain ⟨x, hreap, rfl⟩ := hshutdown
  obtain ⟨y, hreap', rfl⟩ := hshutdown'
  rw [reapAll_unique hreap hreap']

/-! ### Calls that never sleep -/

/-- Wherever the call returns from `s`, it has not slept. -/
def NeverSleeps (s : Session σ) (call : Nat → Option (α × Session σ)) : Prop :=
  ∀ rounds a s', call rounds = some (a, s') → ∃ es, s.Leads es s' ∧ .idle ∉ es

/-- Only a wait that blocks sleeps, and the waits of a reap do not. -/
theorem reapAll_neverSleeps (h : Host σ) (s : Session σ) : NeverSleeps s (s.reapAll h) := by
  intro rounds reaped s' hreap
  obtain ⟨es, hleads, hcalls⟩ := followReap_follows h s rounds
  rw [Progress.returned_eq_some_iff.mp hreap] at hleads
  exact ⟨es, hleads, fun he => (nomatch hcalls.isReaping _ he)⟩

/-- A teardown without a helper never sleeps. -/
theorem abort_neverSleeps (h : Host σ) (endpoint : Endpoint) (s : Session σ) :
    NeverSleeps s (s.abort h endpoint) := by
  intro rounds report s' habort
  obtain ⟨es, hleads, hcalls⟩ :=
    followTeardown_follows h endpoint .running none none s rounds
  rw [abort, followAbort] at habort
  rw [Progress.returned_eq_some_iff.mp habort] at hleads
  exact ⟨es, hleads, hcalls.idle_notMem⟩

/-- The full teardown never sleeps either. -/
theorem shutdown_neverSleeps (h : Host σ) (endpoint : Endpoint) (disconnect : Command)
    (s : Session σ) : NeverSleeps s (s.shutdown h endpoint disconnect) := by
  intro rounds report s' hshutdown
  obtain ⟨es, hleads, hcalls⟩ := followShutdown_follows h endpoint disconnect s rounds
  rw [Progress.returned_eq_some_iff.mp hshutdown] at hleads
  exact ⟨es, hleads, hcalls.idle_notMem⟩

/-! ### Teardowns under two sources -/

/-- What is the same of a call that is made in the sessions `s` and `t`, under two sources. -/
structure Undisturbed (s : Session (κ × τ₁)) (t : Session (κ × τ₂))
    (call₁ : Nat → Option (α × Session (κ × τ₁)))
    (call₂ : Nat → Option (α × Session (κ × τ₂))) : Prop where
  /-- Under the one source it returns exactly where it returns under the other. -/
  returns : (∃ rounds, (call₁ rounds).isSome) ↔ ∃ rounds, (call₂ rounds).isSome
  /-- It has the same result and leaves the same, and the calls differ in their looks for a request
  at most. It does not sleep. -/
  course : ∀ rounds₁ rounds₂ a b s' t', call₁ rounds₁ = some (a, s') →
    call₂ rounds₂ = some (b, t') →
      a = b ∧ s'.registry = t'.registry ∧ s'.host.1 = t'.host.1 ∧
        ∃ es es', s.Leads es s' ∧ t.Leads es' t' ∧
          es.filter Event.notLook = es'.filter Event.notLook ∧ .idle ∉ es ∧ .idle ∉ es'

/-- Calls that carry over both ways are undisturbed, if each returns in one way and never sleeps. -/
theorem Undisturbed.of_carriesOver {call₁ : Nat → Option (α × Session (κ × τ₁))}
    {call₂ : Nat → Option (α × Session (κ × τ₂))} (hover : CarriesOver src₂ s t call₁ call₂)
    (hback : CarriesOver src₁ t s call₂ call₁)
    (hunique : ∀ {rounds rounds' r r'}, call₂ rounds = some r → call₂ rounds' = some r' → r = r')
    (hawake₁ : NeverSleeps s call₁) (hawake₂ : NeverSleeps t call₂) :
    Undisturbed s t call₁ call₂ where
  returns := by
    constructor
    · rintro ⟨rounds, hreturned⟩
      obtain ⟨⟨a, s'⟩, hcall⟩ := Option.isSome_iff_exists.mp hreturned
      obtain ⟨rounds', t', hcall', -⟩ := hover rounds a s' hcall
      exact ⟨rounds', by rw [hcall']; rfl⟩
    · rintro ⟨rounds, hreturned⟩
      obtain ⟨⟨a, t'⟩, hcall⟩ := Option.isSome_iff_exists.mp hreturned
      obtain ⟨rounds', s', hcall', -⟩ := hback rounds a t' hcall
      exact ⟨rounds', by rw [hcall']; rfl⟩
  course := by
    intro rounds₁ rounds₂ a b s' t' hcall₁ hcall₂
    obtain ⟨rounds', t'', hcall', hstep⟩ := hover rounds₁ a s' hcall₁
    -- the call returns in one way, so what was carried over is what it returns
    obtain ⟨rfl, rfl⟩ := Prod.mk.inj (hunique hcall' hcall₂)
    obtain ⟨es, es', hs, ht, heq⟩ := hstep.calls
    obtain ⟨fs, hfs, hawake⟩ := hawake₁ rounds₁ a s' hcall₁
    obtain ⟨fs', hfs', hawake'⟩ := hawake₂ rounds₂ _ _ hcall₂
    -- two sessions determine the calls that lead from the one to the other
    obtain rfl := hs.unique hfs
    obtain rfl := ht.unique hfs'
    exact ⟨rfl, hstep.alike.registry, hstep.alike.host.1, es, es', hs, ht, heq, hawake, hawake'⟩

/-- A session with a control of processes, put under a source of signals. -/
def under (s : Session κ) (st : τ) : Session (κ × τ) :=
  { s with host := (s.host, st) }

end Session

open Session

/-- **Signals do not disturb a teardown.** A session is put under two sources that report finitely
many signals each. Then the two teardowns and the reap are the same under both, except for the looks
for a request. -/
theorem teardown_undisturbed (control : Host κ) (s : Session κ) (endpoint : Endpoint)
    (disconnect : Command) {src₁ : SignalSource τ₁} {src₂ : SignalSource τ₂} {st₁ : τ₁} {st₂ : τ₂}
    (hfinite₁ : src₁.FinitelyMany st₁) (hfinite₂ : src₂.FinitelyMany st₂) :
    Undisturbed (s.under st₁) (s.under st₂)
        ((s.under st₁).shutdown (control.withSignals src₁) endpoint disconnect)
        ((s.under st₂).shutdown (control.withSignals src₂) endpoint disconnect) ∧
      Undisturbed (s.under st₁) (s.under st₂)
        ((s.under st₁).abort (control.withSignals src₁) endpoint)
        ((s.under st₂).abort (control.withSignals src₂) endpoint) ∧
      Undisturbed (s.under st₁) (s.under st₂)
        ((s.under st₁).reapAll (control.withSignals src₁))
        ((s.under st₂).reapAll (control.withSignals src₂)) := by
  -- the relation is not symmetric: it speaks of the signals of the second source alone
  have halike : Alike (SameControl src₂) (s.under st₁) (s.under st₂) := ⟨⟨rfl, hfinite₂⟩, rfl⟩
  have halike' : Alike (SameControl src₁) (s.under st₂) (s.under st₁) := ⟨⟨rfl, hfinite₁⟩, rfl⟩
  refine ⟨?_, ?_, ?_⟩
  · exact .of_carriesOver (shutdown_carriesOver endpoint disconnect halike)
      (shutdown_carriesOver endpoint disconnect halike') shutdown_unique
      (shutdown_neverSleeps _ endpoint disconnect _) (shutdown_neverSleeps _ endpoint disconnect _)
  · exact .of_carriesOver (abort_carriesOver endpoint halike) (abort_carriesOver endpoint halike')
      abort_unique (abort_neverSleeps _ endpoint _) (abort_neverSleeps _ endpoint _)
  · exact .of_carriesOver (reapAll_carriesOver control src₁ (.refl halike))
      (reapAll_carriesOver control src₂ (.refl halike')) reapAll_unique (reapAll_neverSleeps _ _)
      (reapAll_neverSleeps _ _)

/-- A session whose device is attached: the client 101 is registered, and the adversary has what a
teardown asks. -/
def attachedSession : Session (List Event) where
  host :=
    [.spawn default (.ok 102), .terminate 101 .delivered, .waitAny (.ok (.child 102)),
      .waitAny (.ok (.child 101)), .removeSocket default (.ok ())]
  registry := ⟨[101]⟩

/-- Two signals come during the one teardown, and none during the other. -/
theorem attachedSession_undisturbed :
    let h := Host.adversary.withSignals SignalSource.queue
    let a := Attachment.sample
    let s := attachedSession.under [15, 2]
    let t := attachedSession.under []
    SignalSource.queue.FinitelyMany [15, 2] ∧ SignalSource.queue.FinitelyMany [] ∧
      (s.shutdown h a.endpoint a.disconnect 5).isSome ∧
      (t.shutdown h a.endpoint a.disconnect 3).isSome ∧
      Undisturbed s t (s.shutdown h a.endpoint a.disconnect)
          (t.shutdown h a.endpoint a.disconnect) ∧
        Undisturbed s t (s.abort h a.endpoint) (t.abort h a.endpoint) ∧
        Undisturbed s t (s.reapAll h) (t.reapAll h) := by
  intro h a s t
  have hfinite := SignalSource.queue_finitelyMany [15, 2]
  have hfinite' := SignalSource.queue_finitelyMany []
  exact ⟨hfinite, hfinite', rfl, rfl,
    teardown_undisturbed .adversary attachedSession a.endpoint a.disconnect hfinite hfinite'⟩

end NbdAttach
