import NbdAttach.Proofs.Supervisor.Agenda
import NbdAttach.Proofs.Supervisor.Rounds
import NbdAttach.Proofs.Supervisor.TeardownParts

/-!
# Waits return

Against a host that keeps to an agenda every loop of the supervisor ends. No count of anything that
the supervisor holds will do to see it: a pass may report a stranger, or be cut short, and a
registry with a number in it twice outlives the processes. But every pass that the host's wait or a
request has let go on takes something off the agenda (`Host.Scripted.left_lt_of_pass`). Only a wait
that blocks although no child is registered takes nothing off; it goes on looking until a request is
in line, and the host sees to this (`Host.Scripted.settles_of_queued`, `settles_of_empty`).

`Settles` is the form of the results: from some number of rounds on the call has returned, and
always in the same way. So the rounds do not matter for what a call returns.
-/

namespace NbdAttach

variable {σ α β : Type}

/-- From some number of rounds on the call has returned, with one result and in one session. -/
def Settles (call : Nat → Progress σ α) : Prop :=
  ∃ a s' enough, ∀ rounds, enough ≤ rounds → call rounds = ⟨some a, s'⟩

/-- One round more or less does not matter. -/
theorem settles_succ_iff {call : Nat → Progress σ α} :
    Settles (fun rounds => call (rounds + 1)) ↔ Settles call := by
  constructor
  · rintro ⟨a, s', enough, hreturned⟩
    refine ⟨a, s', enough + 1, fun rounds hrounds => ?_⟩
    obtain ⟨rounds, rfl⟩ := Nat.exists_eq_add_of_le' (Nat.le_of_add_left_le hrounds)
    exact hreturned rounds (Nat.le_of_succ_le_succ hrounds)
  · rintro ⟨a, s', enough, hreturned⟩
    exact ⟨a, s', enough, fun rounds hrounds => hreturned _ (Nat.le_succ_of_le hrounds)⟩

/-- A call settles that goes on once another one has settled. -/
theorem Settles.next {call : Nat → Progress σ α} {call' : Nat → Progress σ β} (hcall : Settles call)
    (hnext : ∀ a s₁, ∃ b s' enough, ∀ rounds, enough ≤ rounds →
      call rounds = ⟨some a, s₁⟩ → call' rounds = ⟨some b, s'⟩) : Settles call' := by
  obtain ⟨a, s₁, enough, hreturned⟩ := hcall
  obtain ⟨b, s', enough', hreturned'⟩ := hnext a s₁
  refine ⟨b, s', max enough enough', fun rounds hrounds => ?_⟩
  obtain ⟨hrounds, hrounds'⟩ := max_le_iff.mp hrounds
  exact hreturned' rounds hrounds' (hreturned rounds hrounds)

/-- A call that takes no loop can be added to one that settles. -/
theorem Settles.andThen {call : Nat → Progress σ α} (hcall : Settles call)
    (f : α → Session σ → β × Session σ) : Settles fun rounds => (call rounds).andThen f := by
  refine hcall.next fun a s₁ => ⟨(f a s₁).1, (f a s₁).2, 0, fun rounds _ hreturned => ?_⟩
  exact congrArg (Progress.andThen · f) hreturned

namespace Host.Scripted

open Session

variable {h : Host σ} {agenda : σ → Agenda} {blocks : Bool} {s s₁ : Session σ}

/-! ### Requests to a host with an agenda -/

/-- A look for a request is answered from the agenda. -/
theorem looks_of_takePending (hscripted : h.Scripted agenda) {found : Option Signal}
    (htake : s.takePending h = (found, s₁)) :
    (agenda s.host).Looks found (agenda s₁.host) := by
  obtain ⟨rfl, rfl⟩ := Prod.mk.inj htake
  exact hscripted.looks s.host

/-- A wait by the host is answered from the agenda. -/
theorem answers_of_waitAny (hscripted : h.Scripted agenda) {answer : Except IoError Reaped}
    (hwait : s.waitAny h = (answer, s₁)) :
    (agenda s.host).Answers answer (agenda s₁.host) := by
  obtain ⟨rfl, rfl⟩ := Prod.mk.inj hwait
  exact hscripted.answers s.host

/-- A pass with children to wait for, or one that is not to block, takes something off the agenda
unless it is the last one, also of a reap. -/
theorem left_lt_of_pass (hscripted : h.Scripted agenda)
    (hbusy : blocks = false ∨ s.registry.isEmpty = false)
    (hgoesOn : (s.pass h blocks).result?.bind endOfReap = none) :
    (agenda (s.pass h blocks).session.host).left < (agenda s.host).left := by
  have hwaited : ∀ {s₁ s₂ : Session σ} {reaped}, s.takePending h = (none, s₁) →
      s₁.waitAny h = (.ok reaped, s₂) → (agenda s₂.host).left < (agenda s.host).left := by
    intro s₁ s₂ reaped htake hwait
    -- the look before the wait adds nothing to the agenda
    have hlooks := (hscripted.looks_of_takePending htake).left_le
    exact (hscripted.answers_of_waitAny hwait).left_lt.trans_le hlooks
  have hcourse := pass_course h blocks s
  generalize s.pass h blocks = p at hcourse hgoesOn
  cases hcourse with
  -- a reap drops the request and goes on
  | taken htake => exact (hscripted.looks_of_takePending htake).left_lt
  | slept _ hempty hblocks => simp [hempty, hblocks] at hbusy
  | noneLeft _ _ _ => cases hgoesOn
  | failed _ _ => cases hgoesOn
  | cutShort htake hwait => exact hwaited htake hwait
  | untracked htake hwait =>
    have hlt := hwaited htake hwait
    exact hlt
  | exited htake hwait =>
    have hlt := hwaited htake hwait
    exact hlt

/-! ### Waits -/

/-- A wait settles in its first pass, or if it does so after it. -/
theorem settles_of_pass (h : Host σ) (blocks : Bool) (s : Session σ)
    (hnext : (s.pass h blocks).result? = none →
      Settles ((s.pass h blocks).session.followWait h blocks)) :
    Settles (s.followWait h blocks) := by
  rcases hpass : s.pass h blocks with ⟨_ | outcome, s₁⟩
  · -- the later passes take one round less
    rw [hpass] at hnext
    obtain ⟨outcome, s', enough, hreturned⟩ := hnext rfl
    refine ⟨outcome, s', enough + 1, fun rounds hrounds => ?_⟩
    obtain ⟨rounds, rfl⟩ := Nat.exists_eq_add_of_lt hrounds
    rw [followWait_succ, hpass]
    exact hreturned _ (Nat.le_add_right ..)
  · refine ⟨outcome, s₁, 1, fun rounds hrounds => ?_⟩
    obtain ⟨rounds, rfl⟩ := Nat.exists_eq_add_of_le' hrounds
    rw [followWait_succ, hpass]

/-- A pass that goes on leaves the registry alone. -/
theorem registry_of_pass (hpass : (s.pass h blocks).result? = none) :
    (s.pass h blocks).session.registry = s.registry := by
  have hcourse := pass_course h blocks s
  generalize s.pass h blocks = p at hcourse hpass
  cases hcourse with
  | slept htake _ _ =>
    have hregistry := registry_of_ask htake
    exact hregistry
  | cutShort htake hwait => exact (registry_of_ask hwait).trans (registry_of_ask htake)
  | untracked htake hwait =>
    have hregistry := (registry_of_ask hwait).trans (registry_of_ask htake)
    exact hregistry
  | _ => cases hpass

/-- The agenda does not last for ever. -/
theorem settles_of_busy (hscripted : h.Scripted agenda) (s : Session σ)
    (hbusy : blocks = false ∨ s.registry.isEmpty = false) :
    Settles (s.followWait h blocks) := by
  refine settles_of_pass h blocks s fun hpass => ?_
  have hlt := hscripted.left_lt_of_pass hbusy (by rw [hpass]; rfl)
  -- the next pass has as many children to wait for
  rw [← registry_of_pass hpass] at hbusy
  exact settles_of_busy hscripted (s.pass h blocks).session hbusy
termination_by (agenda s.host).left

/-- Without children a wait that blocks goes on from pass to pass by being idle. -/
theorem pass_of_empty (hempty : s.registry.isEmpty = true)
    (hpass : (s.pass h true).result? = none) :
    ∃ s₁, s.takePending h = (none, s₁) ∧ (s.pass h true).session = s₁.idle h := by
  rcases htake : s.takePending h with ⟨_ | signal, s₁⟩
  · have hregistry : s₁.registry = s.registry := registry_of_ask htake
    refine ⟨s₁, rfl, ?_⟩
    rw [Session.pass, htake]
    simp only [hregistry, hempty, if_true]
  · rw [Session.pass, htake] at hpass
    cases hpass

/-- Once a request is in line, the looks come to it. `front` are the looks up to there. -/
theorem settles_of_queued (hscripted : h.Scripted agenda) {front back : List (Option Signal)}
    (hempty : s.registry.isEmpty = true) (hlooks : (agenda s.host).looks = front ++ back)
    (hqueued : ∃ signal, some signal ∈ front) : Settles (s.followWait h true) := by
  induction front generalizing s back with
  | nil =>
    obtain ⟨signal, hmem⟩ := hqueued
    cases hmem
  | cons found front ih =>
    refine settles_of_pass h true s fun hpass => ?_
    obtain ⟨s₁, htake, hidle⟩ := pass_of_empty hempty hpass
    rw [← registry_of_pass hpass] at hempty
    obtain ⟨more, hmore⟩ := (hscripted.idles s₁.host).looks_eq
    have hanswer := hscripted.looks_of_takePending htake
    generalize agenda s₁.host = agenda₁ at hanswer hmore
    cases hanswer with
    | planned hplanned =>
      -- the look has found nothing, so the request is further on
      rw [hlooks] at hplanned
      obtain ⟨rfl, rfl⟩ := List.cons.inj hplanned
      have hfurther : (agenda (s.pass h true).session.host).looks = front ++ (back ++ more) := by
        rw [hidle, ← List.append_assoc]
        exact hmore
      exact ih hempty hfurther (by simpa using hqueued)
    | unplanned hnone =>
      -- what was planned includes the request
      rw [hlooks] at hnone
      cases hnone

/-- As long as no request is in line, the host is idle, and it is not idle for ever. -/
theorem settles_of_empty (hscripted : h.Scripted agenda) (s : Session σ)
    (hempty : s.registry.isEmpty = true) : Settles (s.followWait h true) := by
  refine settles_of_pass h true s fun hpass => ?_
  obtain ⟨s₁, htake, hidle⟩ := pass_of_empty hempty hpass
  rw [← registry_of_pass hpass] at hempty
  rw [hidle] at hempty ⊢
  rcases (hscripted.idles s₁.host).queued_or with hqueued | ⟨hidles, hlimit⟩
  · exact hscripted.settles_of_queued hempty (List.append_nil _).symm hqueued
  · -- a look leaves the count alone, so the host is nearer to its limit
    have hbefore := (hscripted.looks_of_takePending htake).idles_eq
    have hlt : Script.idleLimit - (agenda (s₁.idle h).host).idles <
        Script.idleLimit - (agenda s.host).idles := by
      change Script.idleLimit - (agenda (h.idle s₁.host)).idles < _
      omega
    exact hscripted.settles_of_empty (s₁.idle h) hempty
termination_by Script.idleLimit - (agenda s.host).idles

/-- **Every wait returns.** -/
theorem settles_followWait (hscripted : h.Scripted agenda) (blocks : Bool) (s : Session σ) :
    Settles (s.followWait h blocks) := by
  cases hempty : s.registry.isEmpty with
  | false => exact hscripted.settles_of_busy s (Or.inr hempty)
  | true =>
    cases blocks with
    | false => exact hscripted.settles_of_busy s (Or.inl rfl)
    | true => exact hscripted.settles_of_empty s hempty

/-! ### Reaps and teardowns -/

/-- A reap drains, for each of its passes but the last takes something off the agenda. -/
theorem drains (hscripted : h.Scripted agenda) (s : Session σ) :
    ∃ result s', Drains h s result s' := by
  -- a pass of a reap is one of a wait that does not block
  rcases hpass : s.reapPass h with ⟨_ | result, s₁⟩
  · have hgoesOn : (s.pass h false).result?.bind endOfReap = none :=
      congrArg Progress.result? hpass
    have hlt := hscripted.left_lt_of_pass (Or.inl rfl) hgoesOn
    obtain rfl : (s.pass h false).session = s₁ := congrArg Progress.session hpass
    obtain ⟨result, s', hdrains⟩ := hscripted.drains (s.pass h false).session
    exact ⟨result, s', .next hpass hdrains⟩
  · exact ⟨result, s₁, .last hpass⟩
termination_by (agenda s.host).left

/-- A reap settles, for it drains, and from then on the rounds do not matter. -/
theorem settles_followReap (hscripted : h.Scripted agenda) (s : Session σ) :
    Settles (s.followReap h) := by
  obtain ⟨result, s', hdrains⟩ := hscripted.drains s
  obtain ⟨enough, hreturned⟩ := hdrains.followReap
  refine ⟨result, s', enough, fun rounds hrounds => ?_⟩
  obtain ⟨more, rfl⟩ := Nat.exists_eq_add_of_le hrounds
  rw [followReap_add h s enough more (by rw [hreturned]; exact nofun), hreturned]

/-- A teardown without a helper settles with its reap. -/
theorem settles_followAbort (hscripted : h.Scripted agenda) (endpoint : Endpoint)
    (s : Session σ) : Settles (s.followAbort h endpoint) := by
  have hsettles := (hscripted.settles_followReap (s.beginReap h .running none)).andThen
    (finish h endpoint none)
  simpa only [← followAbort_eq] using hsettles

/-- The full teardown settles with its reap. -/
theorem settles_followShutdown (hscripted : h.Scripted agenda) (endpoint : Endpoint)
    (disconnect : Command) (s : Session σ) : Settles (s.followShutdown h endpoint disconnect) := by
  have hsettles := (hscripted.settles_followReap (s.beginShutdownReap h disconnect)).andThen
    (finish h endpoint (failure? (s.detach h disconnect).1))
  simpa only [← followShutdown_eq] using hsettles

end Host.Scripted

end NbdAttach
