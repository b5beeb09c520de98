import NbdAttach.Attachment
import NbdAttach.Proofs.Supervisor.TeardownParts
import NbdAttach.Proofs.Supervisor.Waits

/-!
# The way up and the way down

A run goes up until its teardown begins, and then down: `Attachment.followUp` is the first part,
with what has come of it, the `Upshot`, and `Attachment.followDown` is the teardown that the upshot
calls for. `Attachment.followRun_eq` puts them together again, so "before the teardown" has a
meaning for every run: it is what the way up does.

`Attachment.UpCourse` lists the courses that the way up can take. Of the way down it is said where
its reap is (`Attachment.followDown_reaps`): outside of it no request is looked for.
-/

namespace NbdAttach

variable {σ α β : Type}

/-- What has come of a run when its teardown is to begin. -/
inductive Upshot
  /-- There is nothing to tear down. -/
  | notStarted (error : SpawnError)
  /-- The server was started, but then something failed before the supervision. -/
  | failed (e : RunError)
  | supervised (result : Except RunError Unit)

/-- Goes on with another call, once the call before it has returned. -/
def Progress.bind (p : Progress σ α) (f : α → Session σ → Progress σ β) : Progress σ β :=
  match p with
  | ⟨none, s⟩ => ⟨none, s⟩
  | ⟨some a, s⟩ => f a s

/-- Where the second call has returned, the first one had. -/
theorem Progress.bind_eq_some {p : Progress σ α} {f : α → Session σ → Progress σ β} {b : β}
    {s' : Session σ} (hbind : p.bind f = ⟨some b, s'⟩) :
    ∃ a s₁, p = ⟨some a, s₁⟩ ∧ f a s₁ = ⟨some b, s'⟩ := by
  rcases p with ⟨_ | a, s₁⟩
  · cases hbind
  · exact ⟨a, s₁, rfl, hbind⟩

namespace Attachment

variable {h : Host σ} {rounds : Nat} {s : Session σ}

/-! ### The two parts -/

/-- The run up to its teardown. -/
def followUp (a : Attachment) (h : Host σ) (s : Session σ) (rounds : Nat) : Progress σ Upshot :=
  match s.spawn h a.server with
  | (.error error, s) => ⟨some (.notStarted error), s⟩
  | (.ok server, s) =>
    match a.followStart h server s rounds with
    | ⟨none, s⟩ => ⟨none, s⟩
    | ⟨some (.error e), s⟩ => ⟨some (.failed e), s.tell (.aborting e)⟩
    | ⟨some (.ok client), s⟩ =>
      match a.followSupervision h server (some client) s rounds with
      | ⟨none, s⟩ => ⟨none, s⟩
      | ⟨some result, s⟩ => ⟨some (.supervised result), s⟩

/-- The teardown, with the result of the run. -/
def followDown (a : Attachment) (h : Host σ) (rounds : Nat) :
    Upshot → Session σ → Progress σ (Except RunError Unit)
  | .notStarted error, s => ⟨some (.error (.spawn error)), s⟩
  | .failed e, s => (s.followAbort h a.endpoint rounds).andThen fun _ s => (.error e, s)
  | .supervised result, s =>
    (s.followShutdown h a.endpoint a.disconnect rounds).andThen fun report s =>
      (verdict result report, s.tell (.disconnected a.inv.bucket a.inv.device))

/-- A run is its way up and its way down. -/
theorem followRun_eq (a : Attachment) (h : Host σ) (s : Session σ) (rounds : Nat) :
    a.followRun h s rounds = (a.followUp h s rounds).bind (a.followDown h rounds) := by
  rw [followRun, followUp]
  rcases s.spawn h a.server with ⟨error | server, s₁⟩
  · rfl
  · dsimp only
    -- part by part, both sides go the same way
    rcases a.followStart h server s₁ rounds with ⟨_ | e | client, s₂⟩
    · rfl
    · dsimp only [Progress.bind, followDown]
      rcases (s₂.tell (.aborting e)).followAbort h a.endpoint rounds with ⟨_ | report, s₃⟩ <;> rfl
    · dsimp only
      rcases a.followSupervision h server (some client) s₂ rounds with ⟨_ | result, s₃⟩
      · rfl
      · dsimp only [Progress.bind, followDown]
        rcases s₃.followShutdown h a.endpoint a.disconnect rounds with ⟨_ | report, s₄⟩ <;> rfl

/-- A run that is still on its way up. -/
theorem followRun_of_none {a : Attachment} (hup : (a.followUp h s rounds).result? = none) :
    a.followRun h s rounds = ⟨none, (a.followUp h s rounds).session⟩ := by
  rw [followRun_eq]
  rcases hfollow : a.followUp h s rounds with ⟨_ | upshot, s₁⟩
  · rfl
  · rw [hfollow] at hup
    cases hup

/-- A run on its way down. -/
theorem followRun_of_upshot {a : Attachment} {upshot : Upshot}
    (hup : (a.followUp h s rounds).result? = some upshot) :
    a.followRun h s rounds = a.followDown h rounds upshot (a.followUp h s rounds).session := by
  rw [followRun_eq]
  rcases hfollow : a.followUp h s rounds with ⟨_ | upshot', s₁⟩
  · rw [hfollow] at hup
    cases hup
  · rw [hfollow] at hup
    obtain rfl := Option.some.inj hup
    rfl

/-! ### The courses of the way up -/

/-- The courses that the way up can take, by how far it has come and what has come of it. -/
inductive UpCourse (a : Attachment) (h : Host σ) (rounds : Nat) (s : Session σ) :
    Progress σ Upshot → Prop
  | notStarted {error : SpawnError} {s₁ : Session σ}
      (hspawn : s.spawn h a.server = (.error error, s₁)) :
    UpCourse a h rounds s ⟨some (.notStarted error), s₁⟩
  | starting {server : Pid} {s₁ s₂ : Session σ} (hspawn : s.spawn h a.server = (.ok server, s₁))
      (hstart : a.followStart h server s₁ rounds = ⟨none, s₂⟩) :
    UpCourse a h rounds s ⟨none, s₂⟩
  | failed {server : Pid} {s₁ s₂ : Session σ} {e : RunError}
      (hspawn : s.spawn h a.server = (.ok server, s₁))
      (hstart : a.followStart h server s₁ rounds = ⟨some (.error e), s₂⟩) :
    UpCourse a h rounds s ⟨some (.failed e), s₂.tell (.aborting e)⟩
  | supervised {server client : Pid} {s₁ s₂ s₃ : Session σ}
      {result? : Option (Except RunError Unit)}
      (hspawn : s.spawn h a.server = (.ok server, s₁))
      (hstart : a.followStart h server s₁ rounds = ⟨some (.ok client), s₂⟩)
      (hfollow : a.followSupervision h server (some client) s₂ rounds = ⟨result?, s₃⟩) :
    UpCourse a h rounds s ⟨result?.map .supervised, s₃⟩

/-- The way up takes one of these courses: it can end at the server, in the start of the client, or
with the supervision. -/
theorem followUp_course (a : Attachment) (h : Host σ) (s : Session σ) (rounds : Nat) :
    UpCourse a h rounds s (a.followUp h s rounds) := by
  rw [followUp]
  rcases hspawn : s.spawn h a.server with ⟨error | server, s₁⟩
  · exact .notStarted hspawn
  · dsimp only
    rcases hstart : a.followStart h server s₁ rounds with ⟨_ | e | client, s₂⟩
    · -- the start goes on, or has failed, or the client is there
      exact .starting hspawn hstart
    · exact .failed hspawn hstart
    · dsimp only
      rcases hfollow : a.followSupervision h server (some client) s₂ rounds with ⟨_ | result, s₃⟩
      · exact .supervised hspawn hstart hfollow
      · exact .supervised hspawn hstart hfollow

/-- A call that goes on without calls of its own has the calls of the first. -/
theorem leads_andThen {p : Progress σ α} {f : α → Session σ → β × Session σ}
    (hf : ∀ a (s : Session σ), s.Leads [] (f a s).2) :
    p.session.Leads [] (p.andThen f).session := by
  rcases p with ⟨_ | a, s⟩
  · exact .refl s
  · exact hf a s

/-- The way down from a failed start brings nothing up. -/
theorem followDown_isEnding (a : Attachment) (h : Host σ) (rounds : Nat) (e : RunError)
    (s : Session σ) :
    ∃ down, s.Leads down (a.followDown h rounds (.failed e) s).session ∧
      ∀ e ∈ down, e.isEnding = true := by
  -- the teardown of a failed start has no helper to start
  obtain ⟨down, hleads, hcalls⟩ :=
    Session.followTeardown_follows h a.endpoint .running none none s rounds
  have hend := hleads.trans (leads_andThen
    (f := fun _ s => ((.error e : Except RunError Unit), s)) fun _ s => .refl s)
  rw [List.append_nil] at hend
  exact ⟨down, hend, hcalls.isEnding⟩

/-- The way down from a supervision keeps to the calls of a full teardown. -/
theorem followDown_shutdown (a : Attachment) (h : Host σ) (rounds : Nat)
    (result : Except RunError Unit) (s : Session σ) :
    ∃ down report r', s.Leads down (a.followDown h rounds (.supervised result) s).session ∧
      ShutdownCalls a.endpoint.path a.disconnect s.registry down report r' := by
  obtain ⟨down, hleads, hcalls⟩ := Session.followShutdown_follows h a.endpoint a.disconnect s rounds
  -- what the run says of the device afterwards is a notice
  have hend := hleads.trans (leads_andThen (f := fun report s =>
    (verdict result report, s.tell (.disconnected a.inv.bucket a.inv.device)))
    fun _ s => (Session.Leads.refl s).tell _)
  rw [List.append_nil] at hend
  exact ⟨down, _, _, hend, hcalls⟩

/-- Only a supervision that has ended well can be followed by a run that ends well. -/
theorem upshot_of_followDown_ok {a : Attachment} {upshot : Upshot}
    (hdown : (a.followDown h rounds upshot s).result? = some (.ok ())) :
    upshot = .supervised (.ok ()) := by
  -- a failed start decides the result, and so does a failed supervision
  cases upshot with
  | notStarted error => cases hdown
  | failed e =>
    rw [followDown, Progress.result?_andThen, Option.map_eq_some_iff] at hdown
    obtain ⟨report, -, hresult⟩ := hdown
    cases hresult
  | supervised result =>
    rw [followDown, Progress.result?_andThen, Option.map_eq_some_iff] at hdown
    obtain ⟨report, -, hresult⟩ := hdown
    cases result with
    | ok _ => rfl
    | error e => cases hresult

end Attachment

/-! ### The reap of the way down -/

namespace Session

variable {s s₁ s' : Session σ}

/-- A session has gone on without taking a request. -/
def Quietly (s s' : Session σ) : Prop :=
  ∃ es, s.Leads es s' ∧ Untaken es

theorem Quietly.refl (s : Session σ) : s.Quietly s :=
  ⟨[], .refl s, nofun⟩

theorem Quietly.trans (h₁ : s.Quietly s₁) (h₂ : s₁.Quietly s') : s.Quietly s' := by
  obtain ⟨es, hleads, hes⟩ := h₁
  obtain ⟨es', hleads', hes'⟩ := h₂
  exact ⟨es ++ es', hleads.trans hleads', hes.append hes'⟩

theorem quietly_tell (s : Session σ) (n : Notice) : s.Quietly (s.tell n) :=
  ⟨[], (Leads.refl s).tell n, nofun⟩

/-- What comes after a call is quiet, if what it goes on with is. -/
theorem quietly_andThen {p : Progress σ α} {f : α → Session σ → β × Session σ}
    (hf : ∀ a (s : Session σ), s.Quietly (f a s).2) : p.session.Quietly (p.andThen f).session := by
  rcases p with ⟨_ | a, s⟩
  · exact .refl s
  · exact hf a s

/-- The start of the helper looks for no request. -/
theorem quietly_detach (h : Host σ) (disconnect : Command) (s : Session σ) :
    s.Quietly (s.detach h disconnect).2 := by
  obtain ⟨starts, hleads, hspawn⟩ := detach_follows h disconnect s
  refine ⟨starts, hleads, fun e he => ?_⟩
  obtain ⟨answer, rfl⟩ := hspawn.eq_spawn he
  rfl

/-- The sweep before the reap takes no request. -/
theorem quietly_beginReap (h : Host σ) (before : Phase) (spared : Option Pid) (s : Session σ) :
    s.Quietly (s.beginReap h before spared) := by
  obtain ⟨kills, hleads, hkill, -⟩ := beginReap_leads h before spared s
  refine ⟨kills, hleads, fun e he => ?_⟩
  have hterminate := hkill.isTerminate e he
  -- a request to terminate a child is none to end the run
  cases e <;> first | rfl | cases hterminate

/-- What comes after the reap takes no request: it is the removal of the socket. -/
theorem quietly_finish (h : Host σ) (endpoint : Endpoint) (disconnectError : Option SpawnError)
    (reaped : Except IoError Unit) (s : Session σ) :
    s.Quietly (s.finish h endpoint disconnectError reaped).2 := by
  obtain ⟨answer, hleads, -⟩ := finish_leads h endpoint disconnectError reaped s
  exact ⟨_, hleads, by simp [Untaken, Event.isTaken]⟩

/-- Between two sessions stands a reap, and before it and after it no request is taken. -/
structure Reaps (h : Host σ) (rounds : Nat) (s : Session σ) (es : List Event)
    (s' : Session σ) : Prop where
  parts : ∃ start reaps stop s₁, es = start ++ reaps ++ stop ∧ s.Leads start s₁ ∧
    s₁.Leads reaps (s₁.followReap h rounds).session ∧
    (s₁.followReap h rounds).session.Leads stop s' ∧ Untaken start ∧ Untaken stop

/-- Quiet parts around a reap make its frame. -/
theorem Reaps.of_quietly {h : Host σ} {rounds : Nat} (hstart : s.Quietly s₁)
    (hstop : (s₁.followReap h rounds).session.Quietly s') :
    ∃ es, s.Leads es s' ∧ Reaps h rounds s es s' := by
  obtain ⟨start, hleads, hstart⟩ := hstart
  obtain ⟨reaps, hreaps, -⟩ := followReap_follows h s₁ rounds
  obtain ⟨stop, hleads', hstop⟩ := hstop
  exact ⟨_, (hleads.trans hreaps).trans hleads',
    ⟨start, reaps, stop, s₁, rfl, hleads, hreaps, hleads', hstart, hstop⟩⟩

end Session

namespace Attachment

open Session

/-- On its way down, a run that has something to tear down reaps. -/
theorem followDown_reaps (a : Attachment) (h : Host σ) (rounds : Nat) (upshot : Upshot)
    (s : Session σ) :
    ∃ down, s.Leads down (a.followDown h rounds upshot s).session ∧
      (down = [] ∨ Reaps h rounds s down (a.followDown h rounds upshot s).session) := by
  cases upshot with
  | notStarted error => exact ⟨[], .refl s, Or.inl rfl⟩
  | failed e =>
    -- a sweep, the reap, and the removal of the socket
    have hfinish := quietly_andThen (p := (s.beginReap h .running none).followReap h rounds)
      (quietly_finish h a.endpoint none)
    have hresult := hfinish.trans (quietly_andThen
      (f := fun _ s => ((.error e : Except RunError Unit), s)) fun _ s => .refl s)
    obtain ⟨down, hleads, hreaps⟩ :=
      Reaps.of_quietly (quietly_beginReap h .running none s) hresult
    rw [followDown, followAbort_eq]
    exact ⟨down, hleads, Or.inr hreaps⟩
  | supervised result =>
    -- the same with the helper before the sweep
    have hstart := (quietly_detach h a.disconnect s).trans
      (quietly_beginReap h .disconnecting (s.detach h a.disconnect).1.toOption _)
    have hfinish := quietly_andThen (p := (s.beginShutdownReap h a.disconnect).followReap h rounds)
      (quietly_finish h a.endpoint (failure? (s.detach h a.disconnect).1))
    have hresult := hfinish.trans (quietly_andThen (f := fun report s =>
      (verdict result report, s.tell (.disconnected a.inv.bucket a.inv.device)))
      fun _ s => quietly_tell s _)
    obtain ⟨down, hleads, hreaps⟩ := Reaps.of_quietly hstart hresult
    rw [followDown, followShutdown_eq]
    exact ⟨down, hleads, Or.inr hreaps⟩

/-- Once its way up has ended, a run takes requests in its reap only. -/
theorem followRun_reaps (a : Attachment) (h : Host σ) (s : Session σ) (rounds : Nat) :
    ∃ down, (a.followUp h s rounds).session.Leads down (a.followRun h s rounds).session ∧
      (down = [] ∨
        Reaps h rounds (a.followUp h s rounds).session down (a.followRun h s rounds).session) := by
  cases hup : (a.followUp h s rounds).result? with
  | none =>
    -- the teardown has not begun
    rw [followRun_of_none hup]
    exact ⟨[], .refl _, Or.inl rfl⟩
  | some upshot =>
    rw [followRun_of_upshot hup]
    exact a.followDown_reaps h rounds upshot _

end Attachment

end NbdAttach
