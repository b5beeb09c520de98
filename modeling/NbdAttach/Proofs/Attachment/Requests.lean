import NbdAttach.Proofs.Attachment.StartUp

/-!
# No request to end is lost

A request that a run takes on its way up begins the teardown: it is the last thing on the way up,
so there is at most one. It is taken while the run waits for the process that was started as the
server, or in the supervision, for there are no other waits on the way up; what follows is the
teardown of a failed start in the one case and the helper's start in the other
(`RequestLaw.heeded`). On the way down, requests are taken in the reap and nowhere else
(`RequestLaw.dropped`).
-/

namespace NbdAttach

variable {σ : Type}

/-! ### Requests in the parts of the way up -/

/-- The wait for the process that was started as the server takes a request only where it is
interrupted by it, and then all its calls are those of a wait. -/
theorem LauncherCalls.takesOnlyIf {a : Attachment} {server : Pid} {r r' : Registry}
    {es : List Event} {result : Option (Except RunError Unit)}
    (hcalls : LauncherCalls a server r es result r') :
    TakesOnlyIf (result = some (.error .setupInterrupted) ∧ ∀ e ∈ es, e.isWaiting = true) es := by
  cases hcalls with
  | goesOn hwait => exact Or.inl (hwait.takesOnlyIf.untaken nofun)
  | waitFailed hwait => exact Or.inl (hwait.takesOnlyIf.untaken nofun)
  | interrupted hwait => exact hwait.takesOnlyIf.mono fun _ => ⟨rfl, hwait.isWaiting⟩
  | noneLeft hwait => exact Or.inl (hwait.takesOnlyIf.untaken nofun)
  | stranger _ hwait => exact Or.inl (hwait.takesOnlyIf.untaken nofun)
  | exited hwait answer =>
    refine Or.inl ((hwait.takesOnlyIf.untaken nofun).append ?_)
    simp [Untaken, Event.isTaken]

/-- With any other outcome no request was taken. -/
theorem LauncherCalls.untaken {a : Attachment} {server : Pid} {r r' : Registry}
    {es : List Event} {result : Option (Except RunError Unit)}
    (hcalls : LauncherCalls a server r es result r')
    (hresult : result ≠ some (.error .setupInterrupted)) : Untaken es :=
  hcalls.takesOnlyIf.untaken fun hinterrupted => hresult hinterrupted.1

/-- A start looks for no request. -/
theorem SpawnCalls.untaken {c : Command} {r r' : Registry} {es : List Event}
    {result : Except SpawnError Pid} (hcalls : SpawnCalls c r es result r') : Untaken es := by
  intro e he
  obtain ⟨answer, rfl⟩ := hcalls.eq_spawn he
  rfl

/-- The start of the client takes no request. -/
theorem AttachCalls.untaken {a : Attachment} {r r' : Registry} {es : List Event}
    {result : Except RunError Pid} (hcalls : AttachCalls a r es result r') : Untaken es := by
  have hawait : ∀ answer, Untaken [.awaitSocket a.endpoint.path answer] := fun answer e he => by
    obtain rfl := List.mem_singleton.mp he
    rfl
  cases hcalls with
  | failed cause => exact hawait _
  | timedOut => exact hawait _
  | spawnFailed hspawn => exact (hawait _).append hspawn.untaken
  | attached hspawn => exact (hawait _).append hspawn.untaken

/-- A supervision takes a request only where it ends well. -/
theorem SupervisionCalls.takesOnlyIf {a : Attachment} {server : Pid} {client : Option Pid}
    {r r' : Registry} {es : List Event} {result : Option (Except RunError Unit)}
    (hcalls : SupervisionCalls a server client r es result r') :
    TakesOnlyIf (result = some (.ok ())) es := by
  induction hcalls with
  | goesOn hwait => exact Or.inl (hwait.takesOnlyIf.untaken nofun)
  | waitFailed hwait => exact Or.inl (hwait.takesOnlyIf.untaken nofun)
  | interrupted hwait => exact hwait.takesOnlyIf.mono fun _ => rfl
  | noneLeft hwait => exact Or.inl (hwait.takesOnlyIf.untaken nofun)
  | clientExited hwait _ ih => exact (hwait.takesOnlyIf.untaken nofun).append_takesOnlyIf ih
  | ended _ hwait => exact Or.inl (hwait.takesOnlyIf.untaken nofun)

namespace Attachment

open Session

variable {h : Host σ} {rounds : Nat} {s s' : Session σ} {a : Attachment}

/-- A start takes a request only while it waits for the process that was started as the server. -/
theorem followStart_takesOnlyIf {server : Pid} {result? : Option (Except RunError Pid)}
    (hstart : a.followStart h server s rounds = ⟨result?, s'⟩) :
    ∃ es, s.Leads es s' ∧
      TakesOnlyIf (a.inv.mode.foreground = false ∧ (∀ e ∈ es, e.isWaiting = true) ∧
        result? = some (.error .setupInterrupted) ∧
        a.followLauncher h server s rounds = ⟨some (.error .setupInterrupted), s'⟩) es := by
  rw [followStart] at hstart
  cases hmode : a.inv.mode.foreground with
  | true =>
    rw [hmode, if_pos rfl] at hstart
    rcases hattach : a.attach h s with ⟨result, s₁⟩
    rw [hattach] at hstart
    -- in the foreground a start has no wait for children in it
    obtain ⟨es, hleads, hcalls⟩ := follows_of_attach hattach
    obtain rfl := congrArg Progress.session hstart
    exact ⟨es, hleads, Or.inl hcalls.untaken⟩
  | false =>
    rw [hmode, if_neg Bool.false_ne_true] at hstart
    obtain ⟨es, hleads, hcalls⟩ := a.followLauncher_follows h server s rounds
    rcases hfollow : a.followLauncher h server s rounds with ⟨_ | e | _, s₁⟩ <;>
      rw [hfollow] at hleads hcalls hstart
    · obtain rfl := congrArg Progress.session hstart
      exact ⟨es, hleads, Or.inl (hcalls.untaken (by simp))⟩
    · obtain rfl := congrArg Progress.session hstart
      obtain rfl := congrArg Progress.result? hstart
      -- the failure of the wait is the failure of the start
      refine ⟨es, hleads, hcalls.takesOnlyIf.mono ?_⟩
      rintro ⟨hresult, hwaiting⟩
      injection hresult with herror
      injection herror with herror
      rw [herror]
      exact ⟨rfl, hwaiting, rfl, rfl⟩
    · -- in the background by now, where no wait is left
      rcases hattach : a.attach h s₁ with ⟨result, s₂⟩
      dsimp only at hstart
      rw [hattach] at hstart
      obtain ⟨es', hleads', hcalls'⟩ := follows_of_attach hattach
      obtain rfl := congrArg Progress.session hstart
      exact ⟨_, hleads.trans hleads',
        Or.inl ((hcalls.untaken (by simp)).append hcalls'.untaken)⟩

/-! ### Requests on the way up -/

/-- The calls `before` have led the run to its wait for the process that was started as the server,
and the request is what has ended this wait. -/
structure TakenInLaunch (a : Attachment) (h : Host σ) (rounds : Nat) (s : Session σ)
    (before : List Event) (signal : Signal) : Prop where
  background : a.inv.mode.foreground = false
  waits : ∃ server s₁ waits, s.spawn h a.server = (.ok server, s₁) ∧
    before = .spawn a.server (.ok server) :: waits ∧ (∀ e ∈ waits, e.isWaiting = true) ∧
    s₁.Leads (waits ++ [.takePending (some signal)])
      (a.followLauncher h server s₁ rounds).session ∧
    (a.followLauncher h server s₁ rounds).result? = some (.error .setupInterrupted)
  upshot : (a.followUp h s rounds).result? = some (.failed .setupInterrupted)

/-- The calls `before` have led the run into its supervision, and the request is what has ended
it. -/
structure TakenInSupervision (a : Attachment) (h : Host σ) (rounds : Nat) (s : Session σ)
    (before : List Event) (signal : Signal) : Prop where
  waits : ∃ server client started s₂ waits, before = started ++ waits ∧
    a.Supervises h rounds s server client started s₂ (waits ++ [.takePending (some signal)])
      (some (.ok ())) (a.followUp h s rounds).session
  upshot : (a.followUp h s rounds).result? = some (.supervised (.ok ()))

/-- What follows a request that was taken in the wait for the process that was started as the
server: the teardown of a failed start, and nothing is brought up in it. -/
theorem TakenInLaunch.followDown {before down : List Event} {signal : Signal}
    (hlaunch : a.TakenInLaunch h rounds s before signal)
    (hdown : (a.followUp h s rounds).session.Leads down (a.followRun h s rounds).session) :
    (∀ e ∈ down, e.isEnding = true) ∧
      (a.followRun h s rounds).result? =
        ((a.followUp h s rounds).session.followAbort h a.endpoint rounds).result?.map
          fun _ => .error .setupInterrupted := by
  rw [followRun_of_upshot hlaunch.upshot] at hdown ⊢
  obtain ⟨down', hleads, hending⟩ :=
    a.followDown_isEnding h rounds .setupInterrupted (a.followUp h s rounds).session
  obtain rfl := hdown.unique hleads
  exact ⟨hending, Progress.result?_andThen _ _⟩

/-- What follows a request that was taken in the supervision: the start of the helper. -/
theorem TakenInSupervision.followDown {before down : List Event} {signal : Signal}
    (hs : s.registry = {}) (hsupervision : a.TakenInSupervision h rounds s before signal)
    (hdown : (a.followUp h s rounds).session.Leads down (a.followRun h s rounds).session) :
    ∃ answer rest, down = .spawn a.disconnect answer :: rest := by
  obtain ⟨server, client, started, s₂, waits, -, hsupervises⟩ := hsupervision.waits
  obtain ⟨answer, rest, hleads, -⟩ := hsupervises.disconnects hs
  exact ⟨answer, rest, hdown.unique hleads⟩

/-- On the way up at most one request is taken, and it is the last event there. The cases are the
courses of the way up: in two of them the request cannot have been taken at all, and the other two
are those of the conclusion. -/
theorem followUp_requests (a : Attachment) (h : Host σ) (s : Session σ) (rounds : Nat) :
    ∃ up, s.Leads up (a.followUp h s rounds).session ∧ up.countP Event.isTaken ≤ 1 ∧
      ∀ before signal after, up = before ++ .takePending (some signal) :: after →
        after = [] ∧ (a.TakenInLaunch h rounds s before signal ∨
          a.TakenInSupervision h rounds s before signal) := by
  have hcourse := a.followUp_course h s rounds
  generalize hup : a.followUp h s rounds = p at hcourse
  cases hcourse with
  | notStarted hspawn =>
    obtain ⟨es, hleads, hcalls⟩ := follows_of_spawn hspawn
    have htakes : TakesOnlyIf False es := Or.inl hcalls.untaken
    refine ⟨es, hleads, htakes.countP_le, fun before signal after heq => ?_⟩
    exact (htakes.of_taken (show Untaken [] from nofun) heq).2.1.elim
  | @starting server s₁ s₂ hspawn hstart =>
    obtain ⟨es, hleads, hcalls⟩ := follows_of_spawn hspawn
    obtain ⟨es', hleads', htakes⟩ := followStart_takesOnlyIf hstart
    refine ⟨es ++ es', hleads.trans hleads', (hcalls.untaken.append_takesOnlyIf htakes).countP_le,
      fun before signal after heq => ?_⟩
    -- a start that goes on has not been interrupted
    obtain ⟨-, ⟨-, -, hresult, -⟩, -⟩ := htakes.of_taken hcalls.untaken heq
    cases hresult
  | @failed server s₁ s₂ e hspawn hstart =>
    obtain ⟨es, hleads, hcalls⟩ := follows_of_spawn hspawn
    obtain ⟨es', hleads', htakes⟩ := followStart_takesOnlyIf hstart
    refine ⟨es ++ es', (hleads.trans hleads').tell _,
      (hcalls.untaken.append_takesOnlyIf htakes).countP_le, fun before signal after heq => ?_⟩
    -- the start has failed by the request, in its wait for the process of the server
    obtain ⟨rfl, ⟨hmode, hwaiting, hresult, hlauncher⟩, waits, rfl, rfl⟩ :=
      htakes.of_taken hcalls.untaken heq
    obtain ⟨rfl, -⟩ := hcalls.of_started
    injection hresult with herror
    injection herror with herror
    refine ⟨rfl, Or.inl ⟨hmode, ⟨server, s₁, waits, hspawn, rfl, ?_, ?_, ?_⟩, ?_⟩⟩
    · exact fun e he => hwaiting e (List.mem_append_left _ he)
    · rw [hlauncher]
      exact hleads'
    · rw [hlauncher]
    · rw [hup, herror]
  | @supervised server client s₁ s₂ s₃ result? hspawn hstart hfollow =>
    obtain ⟨es, hleads, hcalls⟩ := follows_of_spawn hspawn
    obtain ⟨es', hleads', htakes'⟩ := followStart_takesOnlyIf hstart
    obtain ⟨during, hduring, hcalls'⟩ :=
      followSupervision_follows a h server (some client) s₂ rounds
    rw [hfollow] at hduring hcalls'
    -- the start has not failed, so it has taken no request
    have hstarted : Untaken (es ++ es') := by
      refine hcalls.untaken.append (htakes'.untaken ?_)
      rintro ⟨-, -, hresult, -⟩
      cases hresult
    refine ⟨es ++ es' ++ during, (hleads.trans hleads').trans hduring,
      (hstarted.append_takesOnlyIf hcalls'.takesOnlyIf).countP_le,
      fun before signal after heq => ?_⟩
    -- so the request was taken in the supervision, which has ended with it
    obtain ⟨rfl, rfl, waits, rfl, rfl⟩ := hcalls'.takesOnlyIf.of_taken hstarted heq
    refine ⟨rfl, Or.inr ⟨⟨server, client, es ++ es', s₂, waits, rfl, ?_⟩, by rw [hup]; rfl⟩⟩
    rw [hup]
    exact ⟨⟨s₁, hspawn, hstart⟩, hleads.trans hleads', hfollow, hduring⟩

end Attachment

/-! ### The law -/

/-- What holds of a run with regard to the requests that it takes: `up` are its calls before the
teardown, `down` those from the begin of the teardown on. -/
structure RequestLaw (a : Attachment) (h : Host σ) (rounds : Nat) (s : Session σ)
    (up down : List Event) : Prop where
  /-- The teardown begins where the way up has ended. -/
  parts : a.followRun h s rounds = (a.followUp h s rounds).bind (a.followDown h rounds)
  at_most_one : up.countP Event.isTaken ≤ 1
  /-- A request that is taken before the teardown begins it. In the wait for the process that was
  started as the server it begins the teardown of a failed start, which brings nothing up, and the
  result of the run is that it was interrupted; in the supervision the helper is started next. -/
  heeded : ∀ before signal after, up = before ++ .takePending (some signal) :: after →
    after = [] ∧
      ((a.TakenInLaunch h rounds s before signal ∧ (∀ e ∈ down, e.isEnding = true) ∧
          (a.followRun h s rounds).result? =
            ((a.followUp h s rounds).session.followAbort h a.endpoint rounds).result?.map
              fun _ => .error .setupInterrupted) ∨
        (a.TakenInSupervision h rounds s before signal ∧
          ∃ answer rest, down = .spawn a.disconnect answer :: rest))
  /-- In the teardown requests are taken in the reap only. -/
  dropped : down = [] ∨
    Session.Reaps h rounds (a.followUp h s rounds).session down (a.followRun h s rounds).session

/-- **No request is lost.** The law holds of every run that begins with an empty registry, against
every host and after every number of rounds. -/
theorem request_law (a : Attachment) (h : Host σ) (rounds : Nat) {s : Session σ}
    (hs : s.registry = {}) :
    ∃ up down, s.Leads up (a.followUp h s rounds).session ∧
      (a.followUp h s rounds).session.Leads down (a.followRun h s rounds).session ∧
      RequestLaw a h rounds s up down := by
  obtain ⟨up, hup, hcount, htaken⟩ := a.followUp_requests h s rounds
  obtain ⟨down, hdown, hreaps⟩ := a.followRun_reaps h s rounds
  refine ⟨up, down, hup, hdown, ⟨a.followRun_eq h s rounds, hcount, ?_, hreaps⟩⟩
  intro before signal after heq
  obtain ⟨hlast, hlaunch | hsupervision⟩ := htaken before signal after heq
  · exact ⟨hlast, Or.inl ⟨hlaunch, hlaunch.followDown hdown⟩⟩
  · exact ⟨hlast, Or.inr ⟨hsupervision, hsupervision.followDown hs hdown⟩⟩

theorem signalledRun_request_law :
    signalledRun.registry = {} ∧
      (Attachment.sample.followUp .adversary signalledRun 4).result? = some (.supervised (.ok ())) ∧
      ∃ up down,
        signalledRun.Leads up (Attachment.sample.followUp .adversary signalledRun 4).session ∧
          (Attachment.sample.followUp .adversary signalledRun 4).session.Leads down
            (Attachment.sample.followRun .adversary signalledRun 4).session ∧
          RequestLaw Attachment.sample .adversary 4 signalledRun up down :=
  ⟨rfl, rfl, request_law Attachment.sample .adversary 4 rfl⟩

end NbdAttach
