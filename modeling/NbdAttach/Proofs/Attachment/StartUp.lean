import NbdAttach.Proofs.Attachment.Supervision

/-!
# The order of a run's starts

A run tries to start the server, then the client, then the helper that detaches the device, and it
tries none of them before its time: the client not before the server is ready, the helper not before
the supervision has ended, and nothing once a child was asked to terminate.

Each part of a run is looked at for what it starts: the start of the client in
`StartCalls.attempt`, the teardown in `ShutdownCalls.attempt`. `StartUpCourse` has the courses of
the run as a whole, and `Attachment.followRun_starts` says that there are no others. What is said of
the helper is said from the end of the supervision on, so it holds also where the teardown does not
end. The three commands are different from one another, whatever the settings and the invocation
(`Attachment.commands_nodup`), so a trace shows which of them was meant.
-/

namespace NbdAttach

open scoped List

variable {σ : Type}

namespace Attachment

/-! ### The three commands -/

/-- Both commands are of the program of the client, but the first argument differs. -/
theorem client_ne_disconnect (a : Attachment) : a.client ≠ a.disconnect := by
  intro heq
  have hargs := congrArg (fun c => c.args.head?) heq
  simp [client, disconnect, Invocation.clientCommand, Invocation.disconnectCommand] at hargs

/-- The first argument of the server is a flag with two dashes. -/
theorem head?_server (a : Attachment) : ∃ name, a.server.args.head? = some ("--" ++ name) := by
  unfold server Invocation.serverCommand Invocation.modeFlags Invocation.argIf
  -- the first switch that is on comes first, and the filter where none is
  obtain ⟨debug, foreground, readOnly⟩ := a.inv.mode
  cases debug
  · cases foreground
    · cases readOnly
      · refine ⟨"filter=" ++ a.settings.exitFilter, ?_⟩
        have hsplit : "--filter=" ++ a.settings.exitFilter =
            "--" ++ ("filter=" ++ a.settings.exitFilter) := by
          rw [← String.append_assoc]
          rfl
        exact congrArg some hsplit
      · exact ⟨"read-only", rfl⟩
    · exact ⟨"foreground", rfl⟩
  · exact ⟨"verbose", rfl⟩

/-- The flags of the client's program have one dash. -/
theorem server_ne {a : Attachment} {c : Command} {second : Char} {rest : List Char}
    (hsecond : second ≠ '-') (hc : c.args.head? = some (String.ofList ('-' :: second :: rest))) :
    a.server ≠ c := by
  rintro rfl
  -- the second characters of the first arguments differ
  obtain ⟨name, hname⟩ := a.head?_server
  rw [hname] at hc
  have hchars := congrArg String.toList (Option.some.inj hc)
  simp at hchars
  exact hsecond hchars.1.symm

/-- The first argument of the client is a flag with one dash. -/
theorem server_ne_client (a : Attachment) : a.server ≠ a.client :=
  @server_ne a a.client 'u' ['n', 'i', 'x'] (by decide) rfl

/-- The first argument of the helper is a flag with one dash, too. -/
theorem server_ne_disconnect (a : Attachment) : a.server ≠ a.disconnect :=
  @server_ne a a.disconnect 'd' [] (by decide) rfl

/-- The three commands differ pairwise, whatever the settings are. -/
theorem commands_nodup (a : Attachment) : [a.server, a.client, a.disconnect].Nodup := by
  simp [a.server_ne_client, a.server_ne_disconnect, a.client_ne_disconnect]

/-! ### What the client waits for -/

/-- What happens before the wait for the socket: in the background the process that was started as
the server exits, and then the step into the background succeeds. -/
def launchGate (a : Attachment) (server : Pid) : List Event :=
  if a.inv.mode.foreground then []
  else [.waitAny (.ok (.child server)), .background a.inv (.ok ())]

/-- What happens before the start of the client, in this order. -/
def clientGate (a : Attachment) (server : Pid) : List Event :=
  .spawn a.server (.ok server) ::
    (a.launchGate server ++ [.awaitSocket a.endpoint.path (.ok true)])

end Attachment

/-- Between the start of the server and the client nothing is started. -/
theorem LauncherCalls.commands_eq_nil {a : Attachment} {server : Pid} {r r' : Registry}
    {es : List Event} {result : Option (Except RunError Unit)}
    (hcalls : LauncherCalls a server r es result r') : commands es = [] := by
  cases hcalls with
  | goesOn hwait => exact commands_eq_nil_of_isEnding hwait.isEnding
  | waitFailed hwait => exact commands_eq_nil_of_isEnding hwait.isEnding
  | interrupted hwait => exact commands_eq_nil_of_isEnding hwait.isEnding
  | noneLeft hwait => exact commands_eq_nil_of_isEnding hwait.isEnding
  | stranger _ hwait => exact commands_eq_nil_of_isEnding hwait.isEnding
  | exited hwait answer =>
    rw [commands_append, commands_eq_nil_of_isEnding hwait.isEnding]
    rfl

/-- A run is in the background only after the exit of the process that was started as the
server. -/
theorem LauncherCalls.launchGate {a : Attachment} {server : Pid} {r r' : Registry}
    {es : List Event} (hmode : a.inv.mode.foreground = false)
    (hcalls : LauncherCalls a server r es (some (.ok ())) r') : a.launchGate server <+ es := by
  rw [Attachment.launchGate, hmode]
  cases hcalls with
  | exited hwait answer =>
    obtain ⟨before, last, rfl, rfl⟩ := hwait.ends rfl
    have hexit := List.sublist_append_right before [Event.waitAny (.ok (.child server))]
    -- the exit ends the wait, and the step comes after it
    exact hexit.append (List.Sublist.refl [Event.background a.inv (.ok ())])

/-- With room in the registry, the client is tried exactly where the socket was found. -/
theorem AttachCalls.attempt {a : Attachment} {r r' : Registry} {es : List Event}
    {result : Except RunError Pid} (hcalls : AttachCalls a r es result r')
    (hroom : r.pids.length < registryCapacity) :
    (commands es = [] ∧ ∀ client, result ≠ .ok client) ∨
    (∃ answer, es = [.awaitSocket a.endpoint.path (.ok true), .spawn a.client answer] ∧
      ∀ client, result = .ok client ↔ answer = .ok client) := by
  cases hcalls with
  | failed => exact Or.inl ⟨rfl, nofun⟩
  | timedOut => exact Or.inl ⟨rfl, nofun⟩
  | spawnFailed hspawn =>
    -- with room, only the host can refuse to start the client
    rcases hspawn.of_room hroom with ⟨cause, rfl, -, -⟩ | ⟨_, _, herror, -⟩
    · exact Or.inr ⟨_, rfl, by simp⟩
    · cases herror
  | attached hspawn =>
    rcases hspawn.of_room hroom with ⟨_, _, herror, -⟩ | ⟨client, rfl, hok, -⟩
    · cases herror
    · cases hok
      exact Or.inr ⟨_, rfl, by simp⟩

/-- With room in the registry, a start either ends without a try of the client, or the try is the
last that it does, when everything that the client waits for has happened. -/
theorem StartCalls.attempt {a : Attachment} {server : Pid} {r r' : Registry} {es : List Event}
    {result : Option (Except RunError Pid)} (hcalls : StartCalls a server r es result r')
    (hroom : r.pids.length < registryCapacity) :
    (commands es = [] ∧ ∀ client, result ≠ some (.ok client)) ∨
    (∃ before answer, es = before ++ [.spawn a.client answer] ∧ commands before = [] ∧
      a.launchGate server ++ [.awaitSocket a.endpoint.path (.ok true)] <+ before ∧
      ∀ client, result = some (.ok client) ↔ answer = .ok client) := by
  cases hcalls with
  | foreground hmode hattach =>
    rcases hattach.attempt hroom with ⟨hcommands, hresult⟩ | ⟨answer, rfl, hanswer⟩
    · exact Or.inl ⟨hcommands, fun client hok => hresult client (Option.some.inj hok)⟩
    · refine Or.inr ⟨[.awaitSocket a.endpoint.path (.ok true)], answer, rfl, rfl, ?_, ?_⟩
      · rw [Attachment.launchGate, hmode]
        exact List.Sublist.refl _
      · intro client
        rw [Option.some.injEq]
        exact hanswer client
  | goesOn _ hlauncher => exact Or.inl ⟨hlauncher.commands_eq_nil, nofun⟩
  | failed _ hlauncher => exact Or.inl ⟨hlauncher.commands_eq_nil, nofun⟩
  | @background r₁ _ es es' result hmode hlauncher hattach =>
    -- the wait for the server's process starts nothing, so there is still room
    have hroom₁ : r₁.pids.length < registryCapacity := by
      have hlength := length_registeredAfter_le r.pids es
      rw [← hlauncher.track, hlauncher.commands_eq_nil, List.length_nil] at hlength
      omega
    rcases hattach.attempt hroom₁ with ⟨hcommands, hresult⟩ | ⟨answer, rfl, hanswer⟩
    · refine Or.inl ⟨?_, fun client hok => hresult client (Option.some.inj hok)⟩
      rw [commands_append, hlauncher.commands_eq_nil, hcommands]
      rfl
    · refine Or.inr ⟨es ++ [.awaitSocket a.endpoint.path (.ok true)], answer,
        by simp, ?_, (hlauncher.launchGate hmode).append (List.Sublist.refl _), ?_⟩
      · rw [commands_append, hlauncher.commands_eq_nil]
        rfl
      · intro client
        rw [Option.some.injEq]
        exact hanswer client

/-- The same for the start of the server and of the client together, from an empty registry. -/
theorem StartCalls.attempt_after_server {a : Attachment} {server : Pid} {r r₁ r' : Registry}
    {es es₁ : List Event} {result : Option (Except RunError Pid)} (hr : r = {})
    (hspawn : SpawnCalls a.server r es (.ok server) r₁)
    (hcalls : StartCalls a server r₁ es₁ result r') :
    (commands (es ++ es₁) = [a.server] ∧ ∀ client, result ≠ some (.ok client)) ∨
    (∃ before answer, es ++ es₁ = before ++ [.spawn a.client answer] ∧
      commands before = [a.server] ∧ a.clientGate server <+ before ∧
      ∀ client, result = some (.ok client) ↔ answer = .ok client) := by
  subst hr
  rcases hspawn.of_room (by decide) with ⟨_, _, herror, -⟩ | ⟨pid, rfl, hok, rfl⟩
  · cases herror
  cases hok
  -- the server is the only child that is registered now
  rcases hcalls.attempt (show 1 < registryCapacity by decide) with
    ⟨hcommands, hresult⟩ | ⟨before, answer, rfl, hbefore, hgate, hresult⟩
  · refine Or.inl ⟨?_, hresult⟩
    rw [List.singleton_append, commands_spawn, hcommands]
  · refine Or.inr ⟨.spawn a.server (.ok server) :: before, answer, rfl, ?_, ?_, hresult⟩
    · rw [commands_spawn, hbefore]
    · rw [Attachment.clientGate]
      exact hgate.cons_cons _

/-- With room in the registry, a full teardown tries the helper first, and nothing after it. -/
theorem ShutdownCalls.attempt {path : Path} {disconnect : Command} {r r' : Registry}
    {es : List Event} {report : Option TeardownReport}
    (hcalls : ShutdownCalls path disconnect r es report r')
    (hroom : r.pids.length < registryCapacity) :
    ∃ answer after, es = .spawn disconnect answer :: after ∧ commands after = [] := by
  cases hcalls with
  | detach hspawn hteardown =>
    have hafter := commands_eq_nil_of_isEnding hteardown.isEnding
    rcases hspawn.of_room hroom with ⟨cause, rfl, -, -⟩ | ⟨helper, rfl, -, -⟩
    · exact ⟨_, _, rfl, hafter⟩
    · exact ⟨_, _, rfl, hafter⟩

/-! ### The starts of a run -/

section Starts

open Session

variable {a : Attachment} {h : Host σ} {rounds : Nat} {s : Session σ}

/-- The way up of a run that is supervised leads into the supervision, and has ended where that has.
The sessions in `Supervises` are therefore the run's own. -/
theorem Attachment.Supervises.followUp_eq {server client : Pid} {started during : List Event}
    {result? : Option (Except RunError Unit)} {s₂ s₃ : Session σ}
    (hsupervises : a.Supervises h rounds s server client started s₂ during result? s₃) :
    a.followUp h s rounds = ⟨result?.map .supervised, s₃⟩ := by
  obtain ⟨s₁, hspawn, hstart⟩ := hsupervises.comesUp
  rw [followUp, hspawn]
  dsimp only
  rw [hstart]
  dsimp only
  rw [hsupervises.follows]
  cases result? <;> rfl

/-- The last call before a supervision is the successful start of the client. -/
theorem Attachment.Supervises.client_mem {server client : Pid} {started during : List Event}
    {result? : Option (Except RunError Unit)} {s₂ s₃ : Session σ}
    (hsupervises : a.Supervises h rounds s server client started s₂ during result? s₃) :
    .spawn a.client (.ok client) ∈ started := by
  obtain ⟨s₁, hspawn, hstart⟩ := hsupervises.comesUp
  obtain ⟨es, hleads, -⟩ := follows_of_spawn hspawn
  obtain ⟨es', hleads', hcalls⟩ := a.followStart_follows h server s₁ rounds
  rw [hstart] at hleads' hcalls
  rw [hsupervises.started.unique (hleads.trans hleads')]
  refine List.mem_append_right es ?_
  cases hcalls with
  | foreground _ hattach => simp [hattach.of_attached.1]
  | background _ _ hattach => simp [hattach.of_attached.1]

/-- While a run is supervised nothing is started. -/
theorem Attachment.Supervises.commands_eq_nil {server client : Pid} {started during : List Event}
    {result? : Option (Except RunError Unit)} {s₂ s₃ : Session σ}
    (hsupervises : a.Supervises h rounds s server client started s₂ during result? s₃) :
    commands during = [] :=
  commands_eq_nil_of_isEnding hsupervises.calls.isEnding

/-- Once a supervision has ended, with whatever result, the helper is tried next: the server and the
client were the only children, so there is room for it. -/
theorem Attachment.Supervises.disconnects (hs : s.registry = {}) {server client : Pid}
    {started during : List Event} {result : Except RunError Unit} {s₂ s₃ : Session σ}
    (hsupervises : a.Supervises h rounds s server client started s₂ during (some result) s₃) :
    ∃ answer after,
      s₃.Leads (.spawn a.disconnect answer :: after) (a.followRun h s rounds).session ∧
        commands after = [] := by
  have hup := hsupervises.followUp_eq
  have hrun := followRun_of_upshot (a := a) (congrArg Progress.result? hup)
  rw [congrArg Progress.session hup] at hrun
  obtain ⟨down, report, r', hleads, hcalls⟩ := a.followDown_shutdown h rounds result s₃
  rw [← hrun] at hleads
  obtain ⟨answer, after, rfl, hafter⟩ := hcalls.attempt (hsupervises.hasRoom hs)
  exact ⟨answer, after, hleads, hafter⟩

/-- Where the way up ends without a supervision, or goes on, nothing more is started after it: there
is no teardown yet, or it is that of a failed start. -/
theorem Attachment.followRun_of_unsupervised {upshot? : Option Upshot} {s' : Session σ}
    (hup : a.followUp h s rounds = ⟨upshot?, s'⟩)
    (hother : ∀ result, upshot? ≠ some (.supervised result)) :
    (∀ result, (a.followUp h s rounds).result? ≠ some (.supervised result)) ∧
      ∃ down, s'.Leads down (a.followRun h s rounds).session ∧ commands down = [] := by
  have hresult : (a.followUp h s rounds).result? = upshot? := congrArg Progress.result? hup
  have hsession : (a.followUp h s rounds).session = s' := congrArg Progress.session hup
  refine ⟨by rwa [hresult], ?_⟩
  cases upshot? with
  | none =>
    rw [followRun_of_none hresult, hsession]
    exact ⟨[], .refl _, rfl⟩
  | some upshot =>
    rw [followRun_of_upshot hresult, hsession]
    cases upshot with
    | notStarted error => exact ⟨[], .refl _, rfl⟩
    | failed e =>
      obtain ⟨down, hleads, hending⟩ := a.followDown_isEnding h rounds e s'
      exact ⟨down, hleads, commands_eq_nil_of_isEnding hending⟩
    | supervised result => exact absurd rfl (hother result)

/-- The events of a run, read for its starts. The run has tried the server alone, or the client as
well, or all three; the client was started exactly where the run is supervised, and the helper is
tried exactly where the supervision has ended. -/
inductive StartUpCourse (a : Attachment) (h : Host σ) (rounds : Nat) (s : Session σ) :
    List Event → Prop
  | server {es : List Event} (hcommands : commands es = [a.server])
      (hother : ∀ result, (a.followUp h s rounds).result? ≠ some (.supervised result)) :
    StartUpCourse a h rounds s es
  | clientFailed {before after : List Event} {server : Pid} {cause : IoError}
      (hbefore : commands before = [a.server]) (hgate : a.clientGate server <+ before)
      (hafter : commands after = [])
      (hother : ∀ result, (a.followUp h s rounds).result? ≠ some (.supervised result)) :
    StartUpCourse a h rounds s (before ++ .spawn a.client (.error cause) :: after)
  | supervising {before during : List Event} {server client : Pid} {s₂ s₃ : Session σ}
      (hbefore : commands before = [a.server]) (hgate : a.clientGate server <+ before)
      (hsupervises : a.Supervises h rounds s server client
        (before ++ [.spawn a.client (.ok client)]) s₂ during none s₃) :
    StartUpCourse a h rounds s (before ++ .spawn a.client (.ok client) :: during)
  | supervised {before during after : List Event} {server client : Pid} {s₂ s₃ : Session σ}
      {result : Except RunError Unit} {answer : Except IoError Pid}
      (hbefore : commands before = [a.server]) (hgate : a.clientGate server <+ before)
      (hsupervises : a.Supervises h rounds s server client
        (before ++ [.spawn a.client (.ok client)]) s₂ during (some result) s₃)
      (hafter : commands after = []) :
    StartUpCourse a h rounds s
      (before ++ .spawn a.client (.ok client) :: during ++ .spawn a.disconnect answer :: after)

/-- A start that has not succeeded, because it goes on or because it has failed, leads to one of the
first two courses. -/
theorem Attachment.followStart_starts (hs : s.registry = {}) {server : Pid} {s₁ s₂ : Session σ}
    {result : Option (Except RunError Pid)} (hspawn : s.spawn h a.server = (.ok server, s₁))
    (hstart : a.followStart h server s₁ rounds = ⟨result, s₂⟩)
    (hresult : ∀ client, result ≠ some (.ok client))
    (hother : ∀ result, (a.followUp h s rounds).result? ≠ some (.supervised result))
    {down : List Event} (hdown : commands down = []) :
    ∃ up, s.Leads up s₂ ∧ StartUpCourse a h rounds s (up ++ down) := by
  obtain ⟨es, hleads, hspawned⟩ := follows_of_spawn hspawn
  obtain ⟨es', hleads', hstarted⟩ := a.followStart_follows h server s₁ rounds
  rw [hstart] at hleads' hstarted
  refine ⟨es ++ es', hleads.trans hleads', ?_⟩
  rcases hstarted.attempt_after_server hs hspawned with
    ⟨hcommands, -⟩ | ⟨before, answer, heq, hbefore, hgate, hanswer⟩
  · exact .server (by rw [commands_append, hcommands, hdown, List.append_nil]) hother
  · -- the start would have succeeded with the try of the client
    cases answer with
    | ok client => exact absurd ((hanswer client).mpr rfl) (hresult client)
    | error cause =>
      rw [heq, List.append_assoc, List.singleton_append]
      exact .clientFailed hbefore hgate hdown hother

/-- Every run that begins with an empty registry takes one of the courses. -/
theorem Attachment.followRun_starts (a : Attachment) (h : Host σ) (rounds : Nat)
    (hs : s.registry = {}) :
    ∃ es, s.Leads es (a.followRun h s rounds).session ∧ StartUpCourse a h rounds s es := by
  have hcourse := a.followUp_course h s rounds
  generalize hup : a.followUp h s rounds = p at hcourse
  cases hcourse with
  | notStarted hspawn =>
    obtain ⟨hother, down, hdown, hcommands⟩ := followRun_of_unsupervised hup nofun
    obtain ⟨es, hleads, hcalls⟩ := follows_of_spawn hspawn
    rw [hs] at hcalls
    rcases hcalls.of_room (by decide) with ⟨cause, rfl, -, -⟩ | ⟨_, _, herror, -⟩
    · refine ⟨_, hleads.trans hdown, .server ?_ hother⟩
      rw [List.singleton_append, commands_spawn, hcommands]
    · cases herror
  | starting hspawn hstart =>
    obtain ⟨hother, down, hdown, hcommands⟩ := followRun_of_unsupervised hup nofun
    obtain ⟨up, hleads, hstarts⟩ := followStart_starts hs hspawn hstart nofun hother hcommands
    exact ⟨_, hleads.trans hdown, hstarts⟩
  | failed hspawn hstart =>
    obtain ⟨hother, down, hdown, hcommands⟩ := followRun_of_unsupervised hup nofun
    obtain ⟨up, hleads, hstarts⟩ := followStart_starts hs hspawn hstart nofun hother hcommands
    exact ⟨_, (hleads.tell _).trans hdown, hstarts⟩
  | @supervised server client s₁ s₂ s₃ result? hspawn hstart hfollow =>
    obtain ⟨started, during, hsupervises⟩ := exists_supervises hspawn hstart hfollow
    obtain ⟨es, hleads, hspawned⟩ := follows_of_spawn hspawn
    obtain ⟨es', hleads', hstarted⟩ := a.followStart_follows h server s₁ rounds
    rw [hstart] at hleads' hstarted
    have heq := hsupervises.started.unique (hleads.trans hleads')
    -- a start with a client has tried the client last
    rcases hstarted.attempt_after_server hs hspawned with
      ⟨-, hresult⟩ | ⟨before, answer, htried, hbefore, hgate, hanswer⟩
    · exact absurd rfl (hresult client)
    obtain rfl := (hanswer client).mp rfl
    obtain rfl := heq.trans htried
    have hup' := hsupervises.started.trans hsupervises.during
    rw [List.append_assoc, List.singleton_append] at hup'
    cases result? with
    | none =>
      rw [followRun_of_none (congrArg Progress.result? hup), hup]
      exact ⟨_, hup', .supervising hbefore hgate hsupervises⟩
    | some result =>
      obtain ⟨answer, after, hdown, hafter⟩ := hsupervises.disconnects hs
      exact ⟨_, hup'.trans hdown, .supervised hbefore hgate hsupervises hafter⟩

end Starts

/-! ### The step into the background -/

/-- The step is taken at the end of the launch, if at all. -/
theorem LauncherCalls.countP_isBackground_le {a : Attachment} {server : Pid} {r r' : Registry}
    {es : List Event} {result : Option (Except RunError Unit)}
    (hcalls : LauncherCalls a server r es result r') : es.countP Event.isBackground ≤ 1 := by
  cases hcalls with
  | goesOn hwait => simp [countP_isBackground_of_isEnding hwait.isEnding]
  | waitFailed hwait => simp [countP_isBackground_of_isEnding hwait.isEnding]
  | interrupted hwait => simp [countP_isBackground_of_isEnding hwait.isEnding]
  | noneLeft hwait => simp [countP_isBackground_of_isEnding hwait.isEnding]
  | stranger _ hwait => simp [countP_isBackground_of_isEnding hwait.isEnding]
  | exited hwait answer =>
    rw [List.countP_append, countP_isBackground_of_isEnding hwait.isEnding]
    exact Nat.le_refl 1

/-- The client is started after that step, or without one. -/
theorem AttachCalls.countP_isBackground {a : Attachment} {r r' : Registry} {es : List Event}
    {result : Except RunError Pid} (hcalls : AttachCalls a r es result r') :
    es.countP Event.isBackground = 0 := by
  cases hcalls with
  | failed => rfl
  | timedOut => rfl
  | spawnFailed hspawn => exact hspawn.countP_isBackground
  | attached hspawn => exact hspawn.countP_isBackground

/-- A start steps into the background at most once, and in the foreground never. -/
theorem StartCalls.countP_isBackground_le {a : Attachment} {server : Pid} {r r' : Registry}
    {es : List Event} {result : Option (Except RunError Pid)}
    (hcalls : StartCalls a server r es result r') :
    es.countP Event.isBackground ≤ if a.inv.mode.foreground then 0 else 1 := by
  cases hcalls with
  | foreground hmode hattach =>
    rw [hattach.countP_isBackground]
    exact Nat.zero_le _
  | goesOn hmode hlauncher =>
    rw [hmode]
    exact hlauncher.countP_isBackground_le
  | failed hmode hlauncher =>
    rw [hmode]
    exact hlauncher.countP_isBackground_le
  | background hmode hlauncher hattach =>
    rw [hmode, List.countP_append, hattach.countP_isBackground]
    exact hlauncher.countP_isBackground_le

/-- A teardown takes no step into the background. -/
theorem ShutdownCalls.countP_isBackground {path : Path} {disconnect : Command} {r r' : Registry}
    {es : List Event} {report : Option TeardownReport}
    (hcalls : ShutdownCalls path disconnect r es report r') :
    es.countP Event.isBackground = 0 := by
  cases hcalls with
  | detach hspawn hteardown =>
    rw [List.countP_append, hspawn.countP_isBackground,
      countP_isBackground_of_isEnding hteardown.isEnding]

/-- Hence the step of the start is the only one of a run. -/
theorem RunCalls.countP_isBackground_le {a : Attachment} {r r' : Registry} {es : List Event}
    {result : Option (Except RunError Unit)} (hcalls : RunCalls a r es result r') :
    es.countP Event.isBackground ≤ if a.inv.mode.foreground then 0 else 1 := by
  cases hcalls with
  | notStarted hspawn =>
    rw [hspawn.countP_isBackground]
    exact Nat.zero_le _
  | starting hspawn hstart =>
    rw [List.countP_append, hspawn.countP_isBackground, Nat.zero_add]
    exact hstart.countP_isBackground_le
  | aborted hspawn hstart habort =>
    rw [List.countP_append, List.countP_append, hspawn.countP_isBackground, Nat.zero_add,
      countP_isBackground_of_isEnding habort.isEnding]
    exact hstart.countP_isBackground_le
  | supervising hspawn hstart hsupervise =>
    rw [List.countP_append, List.countP_append, hspawn.countP_isBackground, Nat.zero_add,
      countP_isBackground_of_isEnding hsupervise.isEnding]
    exact hstart.countP_isBackground_le
  | supervised hspawn hstart hsupervise hshutdown =>
    rw [List.countP_append, List.countP_append, List.countP_append, hspawn.countP_isBackground,
      Nat.zero_add, countP_isBackground_of_isEnding hsupervise.isEnding,
      hshutdown.countP_isBackground]
    exact hstart.countP_isBackground_le

/-! ### Nothing is started in a teardown -/

/-- The events have two parts: in the first nothing is torn down, in the second nothing comes up. -/
def UpThenDown (es : List Event) : Prop :=
  ∃ up down, es = up ++ down ∧ (∀ e ∈ up, e.isTeardown = false) ∧ ∀ e ∈ down, e.isEnding = true

namespace UpThenDown

variable {es es' : List Event}

theorem up (hes : ∀ e ∈ es, e.isTeardown = false) : UpThenDown es :=
  ⟨es, [], (List.append_nil _).symm, hes, by simp⟩

theorem down (hes : ∀ e ∈ es, e.isEnding = true) : UpThenDown es :=
  ⟨[], es, rfl, by simp, hes⟩

/-- The first part can be made longer. -/
theorem prepend (hes : ∀ e ∈ es, e.isTeardown = false) (hes' : UpThenDown es') :
    UpThenDown (es ++ es') := by
  obtain ⟨up, down, rfl, hup, hdown⟩ := hes'
  refine ⟨es ++ up, down, (List.append_assoc ..).symm, ?_, hdown⟩
  intro e he
  exact (List.mem_append.mp he).elim (hes e) (hup e)

/-- Once a child was asked to terminate, nothing is started. -/
theorem always (hes : UpThenDown es) :
    Always (fun before e => (∃ e' ∈ before, e'.isTerminate = true) → e.command? = none) es := by
  obtain ⟨up, down, rfl, hup, hdown⟩ := hes
  refine Always.append_iff.mpr ⟨?_, ?_⟩
  · -- in the first part nobody was asked to terminate yet
    rintro before e after rfl ⟨e', he', hterminate⟩
    have hquiet := hup e' (by simp [he'])
    rw [Event.isTeardown, hterminate, Bool.true_or] at hquiet
    cases hquiet
  · exact Always.of_forall fun e he _ _ => Event.command?_of_isEnding (hdown e he)

end UpThenDown

/-- The helper is started before anybody is asked to terminate. -/
theorem ShutdownCalls.upThenDown {path : Path} {disconnect : Command} {r r' : Registry}
    {es : List Event} {report : Option TeardownReport}
    (hcalls : ShutdownCalls path disconnect r es report r') : UpThenDown es := by
  cases hcalls with
  | detach hspawn hteardown => exact .prepend hspawn.isTeardown (.down hteardown.isEnding)

/-- A run goes up and then down. The supervision could be counted to either part. -/
theorem RunCalls.upThenDown {a : Attachment} {r r' : Registry} {es : List Event}
    {result : Option (Except RunError Unit)} (hcalls : RunCalls a r es result r') :
    UpThenDown es := by
  cases hcalls with
  | notStarted hspawn => exact .up hspawn.isTeardown
  | starting hspawn hstart => exact .prepend hspawn.isTeardown (.up hstart.isTeardown)
  | aborted hspawn hstart habort =>
    rw [List.append_assoc]
    exact .prepend hspawn.isTeardown (.prepend hstart.isTeardown (.down habort.isEnding))
  | supervising hspawn hstart hsupervise =>
    rw [List.append_assoc]
    exact .prepend hspawn.isTeardown (.prepend hstart.isTeardown (.down hsupervise.isEnding))
  | supervised hspawn hstart hsupervise hshutdown =>
    rw [List.append_assoc, List.append_assoc]
    exact .prepend hspawn.isTeardown (.prepend hstart.isTeardown
      (.prepend hsupervise.isTeardown hshutdown.upThenDown))

/-! ### What the starts of a run say -/

namespace StartUpCourse

open Session

variable {a : Attachment} {h : Host σ} {rounds : Nat} {s : Session σ} {es : List Event}

/-- What was tried is the server alone, or the client after it, or the helper after both. -/
theorem attempts (hcourse : StartUpCourse a h rounds s es) :
    commands es = [a.server] ∨ commands es = [a.server, a.client] ∨
      commands es = [a.server, a.client, a.disconnect] := by
  cases hcourse with
  | server hcommands _ => exact Or.inl hcommands
  | clientFailed hbefore _ hafter _ => exact Or.inr (Or.inl (by simp [hbefore, hafter]))
  | supervising hbefore _ hsupervises =>
    exact Or.inr (Or.inl (by simp [hbefore, hsupervises.commands_eq_nil]))
  | supervised hbefore _ hsupervises hafter =>
    exact Or.inr (Or.inr (by simp [hbefore, hsupervises.commands_eq_nil, hafter]))

/-- The client was tried behind its gate, by the construction of the courses. -/
theorem client_gated (hcourse : StartUpCourse a h rounds s es) {before after : List Event}
    {answer : Except IoError Pid} (heq : es = before ++ .spawn a.client answer :: after) :
    ∃ server, a.clientGate server <+ before := by
  -- where the client is tried at all it is tried once, so this is the try
  have hnotBefore : ∀ {before'}, commands before' = [a.server] → a.client ∉ commands before' := by
    intro before' hbefore
    simp [hbefore, a.server_ne_client.symm]
  cases hcourse with
  | server hcommands _ =>
    have hmem : a.client ∈ commands es := by simp [heq]
    rw [hcommands, List.mem_singleton] at hmem
    exact absurd hmem.symm a.server_ne_client
  | @clientFailed _ _ server _ hbefore hgate hafter _ =>
    -- the given try is the one of the course, so what is before it is the same
    obtain ⟨rfl, -, -⟩ := eq_of_append_spawn_eq heq (hnotBefore hbefore) (by simp [hafter])
    exact ⟨server, hgate⟩
  | @supervising _ _ server _ _ _ hbefore hgate hsupervises =>
    obtain ⟨rfl, -, -⟩ := eq_of_append_spawn_eq heq (hnotBefore hbefore)
      (by simp [hsupervises.commands_eq_nil])
    exact ⟨server, hgate⟩
  | @supervised _ _ _ server _ _ _ _ _ hbefore hgate hsupervises hafter =>
    rw [List.append_assoc, List.cons_append] at heq
    obtain ⟨rfl, -, -⟩ := eq_of_append_spawn_eq heq (hnotBefore hbefore)
      (by simp [hsupervises.commands_eq_nil, hafter, a.client_ne_disconnect])
    exact ⟨server, hgate⟩

/-- Where the helper is tried, a supervision has just ended. -/
theorem disconnect_gated (hcourse : StartUpCourse a h rounds s es) {before after : List Event}
    {answer : Except IoError Pid} (heq : es = before ++ .spawn a.disconnect answer :: after) :
    ∃ server client started s₂ during result s₃, before = started ++ during ∧
      a.Supervises h rounds s server client started s₂ during (some result) s₃ := by
  have hmem : a.disconnect ∈ commands es := by simp [heq]
  cases hcourse with
  | server hcommands _ =>
    rw [hcommands, List.mem_singleton] at hmem
    exact absurd hmem.symm a.server_ne_disconnect
  | clientFailed hbefore _ hafter _ =>
    simp [hbefore, hafter, a.server_ne_disconnect.symm, a.client_ne_disconnect.symm] at hmem
  | supervising hbefore _ hsupervises =>
    simp [hbefore, hsupervises.commands_eq_nil, a.server_ne_disconnect.symm,
      a.client_ne_disconnect.symm] at hmem
  | @supervised up during _ server client s₂ s₃ result _ hbefore _ hsupervises hafter =>
    have hnotBefore :
        a.disconnect ∉ commands (up ++ .spawn a.client (.ok client) :: during) := by
      simp [hbefore, hsupervises.commands_eq_nil, a.server_ne_disconnect.symm,
        a.client_ne_disconnect.symm]
    obtain ⟨rfl, -, -⟩ := eq_of_append_spawn_eq heq hnotBefore (by simp [hafter])
    exact ⟨server, client, _, s₂, during, result, s₃, by simp, hsupervises⟩

/-- Where a supervision has ended, the helper is tried next, and nothing after it. -/
theorem disconnect_next (hcourse : StartUpCourse a h rounds s es) {result : Except RunError Unit}
    (hup : (a.followUp h s rounds).result? = some (.supervised result)) :
    ∃ server client started s₂ during answer after,
      a.Supervises h rounds s server client started s₂ during (some result)
        (a.followUp h s rounds).session ∧
      es = started ++ during ++ .spawn a.disconnect answer :: after ∧ commands after = [] := by
  cases hcourse with
  | server _ hother => exact absurd hup (hother result)
  | clientFailed _ _ _ hother => exact absurd hup (hother result)
  | supervising _ _ hsupervises =>
    -- the supervision goes on, so the way up has not ended
    rw [hsupervises.followUp_eq] at hup
    cases hup
  | @supervised _ during after server client s₂ s₃ _ answer _ _ hsupervises hafter =>
    have heq := hsupervises.followUp_eq
    rw [heq] at hup ⊢
    cases hup
    exact ⟨server, client, _, s₂, during, answer, after, hsupervises, by simp, hafter⟩

/-- The client was started exactly where the run is supervised. -/
theorem supervised_iff (hcourse : StartUpCourse a h rounds s es)
    (hleads : s.Leads es (a.followRun h s rounds).session) :
    (∃ client, .spawn a.client (.ok client) ∈ es) ↔
      ∃ server client started s₂ during result? s₃,
        a.Supervises h rounds s server client started s₂ during result? s₃ := by
  constructor
  · rintro ⟨client, hmem⟩
    have hserver : ∀ {es' : List Event}, commands es' = [a.server] →
        .spawn a.client (.ok client) ∉ es' := by
      intro es' hcommands hmem
      have htry := mem_commands hmem
      rw [hcommands, List.mem_singleton] at htry
      exact a.server_ne_client htry.symm
    cases hcourse with
    | server hcommands _ => exact absurd hmem (hserver hcommands)
    | clientFailed hbefore _ hafter _ =>
      -- the one try of the client has failed
      rcases List.mem_append.mp hmem with hmem | hmem
      · exact absurd hmem (hserver hbefore)
      · rcases List.mem_cons.mp hmem with heq | hmem
        · cases heq
        · have htry := mem_commands hmem
          rw [hafter] at htry
          cases htry
    | supervising _ _ hsupervises => exact ⟨_, _, _, _, _, _, _, hsupervises⟩
    | supervised _ _ hsupervises _ => exact ⟨_, _, _, _, _, _, _, hsupervises⟩
  · rintro ⟨server, client, started, s₂, during, result?, s₃, hsupervises⟩
    -- the events of the run begin with those that lead to the supervision
    obtain ⟨down, hdown, -⟩ := a.followRun_reaps h s rounds
    rw [hsupervises.followUp_eq] at hdown
    refine ⟨client, ?_⟩
    rw [hleads.unique ((hsupervises.started.trans hsupervises.during).trans hdown)]
    exact List.mem_append_left _ (List.mem_append_left _ hsupervises.client_mem)

/-- The helper is tried exactly where the client was started and the way up has ended. -/
theorem disconnected_iff (hcourse : StartUpCourse a h rounds s es)
    (hleads : s.Leads es (a.followRun h s rounds).session) :
    commands es = [a.server, a.client, a.disconnect] ↔
      (∃ client, .spawn a.client (.ok client) ∈ es) ∧ (a.followUp h s rounds).result? ≠ none := by
  constructor
  · intro hcommands
    have hmem : a.disconnect ∈ commands es := by simp [hcommands]
    obtain ⟨e, he, hcommand⟩ := List.mem_filterMap.mp hmem
    cases e with
    | spawn c answer =>
      obtain rfl := Option.some.inj hcommand
      obtain ⟨before, after, heq⟩ := List.append_of_mem he
      obtain ⟨server, client, started, s₂, during, result, s₃, -, hsupervises⟩ :=
        hcourse.disconnect_gated heq
      refine ⟨(hcourse.supervised_iff hleads).mpr ⟨_, _, _, _, _, _, _, hsupervises⟩, ?_⟩
      rw [hsupervises.followUp_eq]
      nofun
    | _ => cases hcommand
  · rintro ⟨hclient, hended⟩
    obtain ⟨server, client, started, s₂, during, result?, s₃, hsupervises⟩ :=
      (hcourse.supervised_iff hleads).mp hclient
    have hup := hsupervises.followUp_eq
    obtain ⟨result, rfl⟩ : ∃ result, result? = some result := by
      refine Option.ne_none_iff_exists'.mp ?_
      rintro rfl
      exact hended (congrArg Progress.result? hup)
    obtain ⟨_, _, _, _, _, _, _, -, heq, -⟩ :=
      hcourse.disconnect_next (congrArg Progress.result? hup)
    -- of the three lists of tries only one has the helper in it
    have hmem : a.disconnect ∈ commands es := by simp [heq]
    rcases hcourse.attempts with hcommands | hcommands | hcommands
    · simp [hcommands, a.server_ne_disconnect.symm] at hmem
    · simp [hcommands, a.server_ne_disconnect.symm, a.client_ne_disconnect.symm] at hmem
    · exact hcommands

end StartUpCourse

/-! ### The theorem -/

/-- What holds of the events of a run, or of as much of it as there is after some rounds, with
regard to the processes that it starts. -/
structure StartUpLaw (a : Attachment) (h : Host σ) (rounds : Nat) (s : Session σ)
    (es : List Event) : Prop where
  /-- The three commands cannot be taken for one another. -/
  distinct : [a.server, a.client, a.disconnect].Nodup
  /-- Every command is tried at most once, and in this order. -/
  attempts : commands es = [a.server] ∨ commands es = [a.server, a.client] ∨
    commands es = [a.server, a.client, a.disconnect]
  /-- The client is tried when the server was started and its socket was found; in the background
  also the exit of the server's process was reported, and then the step into the background
  succeeded. -/
  client_gated : ∀ before answer after, es = before ++ .spawn a.client answer :: after →
    ∃ server, a.clientGate server <+ before
  /-- Where the client was started the run is supervised, and nowhere else. -/
  supervised_iff : (∃ client, .spawn a.client (.ok client) ∈ es) ↔
    ∃ server client started s₂ during result? s₃,
      a.Supervises h rounds s server client started s₂ during result? s₃
  /-- The helper is tried when the supervision of the run has just ended, with whatever result. -/
  disconnect_gated : ∀ before answer after, es = before ++ .spawn a.disconnect answer :: after →
    ∃ server client started s₂ during result s₃, before = started ++ during ∧
      a.Supervises h rounds s server client started s₂ during (some result) s₃
  /-- Once the supervision has ended, with whatever result, the helper is tried next, and nothing
  after it. This does not depend on how the teardown goes on, or whether it ends. -/
  disconnect_next : ∀ result, (a.followUp h s rounds).result? = some (.supervised result) →
    ∃ server client started s₂ during answer after,
      a.Supervises h rounds s server client started s₂ during (some result)
        (a.followUp h s rounds).session ∧
      es = started ++ during ++ .spawn a.disconnect answer :: after ∧ commands after = []
  /-- The helper is tried exactly where the client was started and the way up has ended. -/
  disconnected_iff : commands es = [a.server, a.client, a.disconnect] ↔
    (∃ client, .spawn a.client (.ok client) ∈ es) ∧ (a.followUp h s rounds).result? ≠ none
  /-- The way up of a run that has returned has ended. -/
  up_of_returned : (a.followRun h s rounds).result? ≠ none →
    (a.followUp h s rounds).result? ≠ none
  /-- The step into the background is taken at most once, and in the foreground never. -/
  background_le : es.countP Event.isBackground ≤ if a.inv.mode.foreground then 0 else 1
  /-- Nothing is started once a child was asked to terminate. -/
  none_after_terminate : Always
    (fun before e => (∃ e' ∈ before, e'.isTerminate = true) → e.command? = none) es

/-- **Start-up discipline.** The law holds of every run that begins with an empty registry, against
every host and after every number of rounds, whether the run has returned by then or not. -/
theorem start_up_discipline (a : Attachment) (h : Host σ) {s : Session σ} (rounds : Nat)
    (hs : s.registry = {}) :
    ∃ es, (a.followRun h s rounds).session.trace = s.trace ++ es ∧
      StartUpLaw a h rounds s es := by
  obtain ⟨es, hleads, hcourse⟩ := a.followRun_starts h rounds hs
  obtain ⟨es', hleads', hcalls⟩ := a.followRun_follows h s rounds
  obtain rfl := hleads.unique hleads'
  refine ⟨es, hleads.trace, ?_⟩
  constructor
  case distinct => exact a.commands_nodup
  case attempts => exact hcourse.attempts
  case client_gated =>
    intro before answer after heq
    exact hcourse.client_gated heq
  case supervised_iff => exact hcourse.supervised_iff hleads
  case disconnect_gated =>
    intro before answer after heq
    exact hcourse.disconnect_gated heq
  case disconnect_next =>
    intro result hup
    exact hcourse.disconnect_next hup
  case disconnected_iff => exact hcourse.disconnected_iff hleads
  case up_of_returned =>
    -- a run that is on its way up has no result
    intro hreturned hup
    exact hreturned (congrArg Progress.result? (Attachment.followRun_of_none hup))
  case background_le => exact hcalls.countP_isBackground_le
  case none_after_terminate => exact hcalls.upThenDown.always

theorem signalledRun_start_up_discipline :
    signalledRun.registry = {} ∧
      (Attachment.sample.followRun .adversary signalledRun 4).result? = some (.ok ()) ∧
      ∃ es, (Attachment.sample.followRun .adversary signalledRun 4).session.trace =
          signalledRun.trace ++ es ∧
        StartUpLaw Attachment.sample .adversary 4 signalledRun es :=
  ⟨rfl, rfl, start_up_discipline Attachment.sample .adversary 4 rfl⟩

end NbdAttach
