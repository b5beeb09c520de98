import NbdAttach.Proofs.Adversary
import NbdAttach.Proofs.Attachment.Calls
import NbdAttach.Proofs.Attachment.UpDown
import NbdAttach.Proofs.Supervisor.Waits

/-!
# What ends a supervision

A supervision ends well when a request to end is taken, or, in the foreground, when the server
exits. Nothing else ends it well: not the exit of the client, not exits of processes that are not
registered, not even that no child is left.

The invariant is in the registry. During a supervision the children are the server, in the
foreground, and the client until it exits: `Attachment.watched`. In the background the process that
was started as the server has gone before the client was started, so the client may well have its
number.
-/

namespace NbdAttach

variable {σ : Type}

namespace Attachment

/-- The children that are registered during a supervision, where `client` is the client while its
exit was not reported. -/
def watched (a : Attachment) (server : Pid) (client : Option Pid) : List Pid :=
  (if a.inv.mode.foreground then [server] else []) ++ client.toList

/-- Without the client, who has exited, the children are those that are watched when none is
expected. -/
theorem watched_erase_client (a : Attachment) (server client : Pid) :
    (a.watched server (some client)).erase client = a.watched server none := by
  cases hmode : a.inv.mode.foreground with
  | false => simp [watched, hmode]
  | true =>
    -- should both have one number, then one entry of the two is left
    by_cases hsame : server = client
    · simp [watched, hmode, hsame]
    · simp [watched, hmode, hsame]

/-- How a supervision ends, by its last event. -/
def EndOfSupervision (a : Attachment) (server : Pid) (last : Event) : Except RunError Unit → Prop
  | .ok () => last.isTaken = true ∨
    a.inv.mode.foreground = true ∧ last = .waitAny (.ok (.child server))
  | .error e => ∃ cause, e = .wait cause ∧ last = .waitAny (.error cause)

end Attachment

/-! ### The registry at the begin of a supervision -/

/-- A start that has succeeded has asked the system, so there was room, and the child is
registered. -/
theorem SpawnCalls.of_started {c : Command} {r r' : Registry} {es : List Event} {pid : Pid}
    (hcalls : SpawnCalls c r es (.ok pid) r') :
    es = [.spawn c (.ok pid)] ∧ r' = r.insert pid := by
  cases hcalls
  exact ⟨rfl, rfl⟩

/-- A client that was started was started behind its socket, and is registered last. -/
theorem AttachCalls.of_attached {a : Attachment} {r r' : Registry} {es : List Event}
    {client : Pid} (hcalls : AttachCalls a r es (.ok client) r') :
    es = [.awaitSocket a.endpoint.path (.ok true), .spawn a.client (.ok client)] ∧
      r' = r.insert client := by
  cases hcalls with
  | attached hspawn =>
    obtain ⟨rfl, rfl⟩ := hspawn.of_started
    exact ⟨rfl, rfl⟩

/-- In the background the process that was started as the server is registered no more. -/
theorem LauncherCalls.of_ok {a : Attachment} {server : Pid} {r r' : Registry} {es : List Event}
    (hcalls : LauncherCalls a server r es (some (.ok ())) r') : r' = r.erase server := by
  cases hcalls with
  -- only the exit of that process leads into the background
  | exited hwait _ => exact hwait.of_exited.2

/-- When the client is there, the children are the watched ones: with the server in the foreground,
and alone in the background. -/
theorem StartCalls.watched {a : Attachment} {server client : Pid} {r r' : Registry}
    {es : List Event} (hr : r.pids = [server])
    (hcalls : StartCalls a server r es (some (.ok client)) r') :
    r'.pids = a.watched server (some client) := by
  cases hcalls with
  | foreground hmode hattach =>
    obtain ⟨-, rfl⟩ := hattach.of_attached
    simp [Attachment.watched, Registry.insert, hmode, hr]
  | background hmode hlauncher hattach =>
    obtain ⟨-, rfl⟩ := hattach.of_attached
    obtain rfl := hlauncher.of_ok
    simp [Attachment.watched, Registry.insert, Registry.erase, hmode, hr]

/-! ### The end of a supervision -/

/-- While the watched children are registered, a wait of the supervision finds a request, or the
exit of the expected client or of the server. It never finds that nobody is left. -/
theorem WaitCalls.of_watched {a : Attachment} {server : Pid} {client : Option Pid}
    {r r' : Registry} {es : List Event} {outcome : WaitOutcome}
    (hr : r.pids = a.watched server client)
    (hcalls : WaitCalls (!a.inv.mode.foreground) r es (some (.ok outcome)) r') :
    outcome = .interrupted ∨ ∃ pid, outcome = .exited pid ∧
      (some pid = client ∨ a.inv.mode.foreground = true ∧ pid = server) := by
  cases outcome with
  | interrupted => exact Or.inl rfl
  | noneLeft =>
    -- in the foreground the server is still there, and in the background the wait blocks
    obtain ⟨hempty, hblocks⟩ := hcalls.of_noneLeft
    have hmode : a.inv.mode.foreground = true := by simpa using hblocks
    rw [hr, Attachment.watched, hmode] at hempty
    cases hempty
  | exited pid =>
    refine Or.inr ⟨pid, rfl, ?_⟩
    obtain ⟨hpid, -⟩ := hcalls.of_exited
    rw [hr, Attachment.watched, List.mem_append, Option.mem_toList] at hpid
    rcases hpid with hserver | hexpected
    · cases hmode : a.inv.mode.foreground with
      | false =>
        rw [hmode] at hserver
        cases hserver
      | true =>
        rw [hmode] at hserver
        exact Or.inr ⟨rfl, List.mem_singleton.mp hserver⟩
    · exact Or.inl hexpected.symm

/-- The exit of the expected client leaves the children that are watched from then on. -/
theorem WaitCalls.watched_of_client {a : Attachment} {server client : Pid} {blocks : Bool}
    {r r' : Registry} {es : List Event} (hr : r.pids = a.watched server (some client))
    (hcalls : WaitCalls blocks r es (some (.ok (.exited client))) r') :
    r'.pids = a.watched server none := by
  obtain ⟨-, rfl⟩ := hcalls.of_exited
  rw [← a.watched_erase_client server client, ← hr]
  rfl

/-- While the watched children are registered, a supervision ends by a request, by the exit of the
server, or by a wait that fails. -/
theorem SupervisionCalls.ends {a : Attachment} {server : Pid} {client : Option Pid}
    {r r' : Registry} {es : List Event} {result? : Option (Except RunError Unit)}
    {result : Except RunError Unit} (hr : r.pids = a.watched server client)
    (hcalls : SupervisionCalls a server client r es result? r') (hresult : result? = some result) :
    ∃ before last, es = before ++ [last] ∧ a.EndOfSupervision server last result := by
  induction hcalls with
  | goesOn _ => cases hresult
  | waitFailed hwait =>
    cases hresult
    obtain ⟨before, last, rfl, rfl, -⟩ := hwait.ends rfl
    exact ⟨before, _, rfl, _, rfl, rfl⟩
  | interrupted hwait =>
    cases hresult
    obtain ⟨before, last, rfl, signal, rfl⟩ := hwait.ends rfl
    exact ⟨before, _, rfl, Or.inl rfl⟩
  | noneLeft hwait => rcases hwait.of_watched hr with hother | ⟨_, hother, _⟩ <;> cases hother
  | @clientExited client r r₁ r' es es' result hwait _ ih =>
    obtain ⟨before, last, rfl, hend⟩ := ih (hwait.watched_of_client hr) hresult
    exact ⟨es ++ before, last, (List.append_assoc ..).symm, hend⟩
  | @ended client r r' es pid hclient hwait =>
    cases hresult
    obtain ⟨before, last, rfl, rfl⟩ := hwait.ends rfl
    -- the child is watched and not the client, so it is the server
    rcases hwait.of_watched hr with hother | ⟨_, hpid, hexpected | ⟨hmode, rfl⟩⟩
    · cases hother
    · cases hpid
      exact absurd hexpected hclient
    · cases hpid
      exact ⟨before, _, rfl, Or.inr ⟨hmode, rfl⟩⟩

/-- After a supervision there is room in the registry, for nobody was started in it. -/
theorem SupervisionCalls.hasRoom {a : Attachment} {server client : Pid} {r r' : Registry}
    {es : List Event} {result? : Option (Except RunError Unit)}
    (hr : r.pids = a.watched server (some client))
    (hcalls : SupervisionCalls a server (some client) r es result? r') :
    r'.pids.length < registryCapacity := by
  -- waits start nobody, so there are at most those who were there
  have hlength := length_registeredAfter_le r.pids es
  rw [← hcalls.track, commands_eq_nil_of_isEnding hcalls.isEnding, hr] at hlength
  have hwatched : (a.watched server (some client)).length ≤ 2 := by
    cases hmode : a.inv.mode.foreground <;> simp [Attachment.watched, hmode]
  exact (hlength.trans hwatched).trans_lt (by decide)

/-! ### Runs that are supervised -/

namespace Attachment

open Session

variable {h : Host σ} {rounds : Nat} {s s₂ s₃ : Session σ} {server client : Pid}
  {started during : List Event} {result? : Option (Except RunError Unit)}

/-- The run from `s` is supervised: the server and the client have come up by the calls `started`,
and `during` are the calls of the supervision, as far as it has come. -/
structure Supervises (a : Attachment) (h : Host σ) (rounds : Nat) (s : Session σ)
    (server client : Pid) (started : List Event) (s₂ : Session σ) (during : List Event)
    (result? : Option (Except RunError Unit)) (s₃ : Session σ) : Prop where
  comesUp : ∃ s₁, s.spawn h a.server = (.ok server, s₁) ∧
    a.followStart h server s₁ rounds = ⟨some (.ok client), s₂⟩
  started : s.Leads started s₂
  follows : a.followSupervision h server (some client) s₂ rounds = ⟨result?, s₃⟩
  during : s₂.Leads during s₃

namespace Supervises

variable {a : Attachment}

/-- The events of a supervised run, from the start of its supervision on, are the calls of a
supervision: events that lead from one session to another are determined by the two. -/
theorem calls (hsupervises : a.Supervises h rounds s server client started s₂ during result? s₃) :
    SupervisionCalls a server (some client) s₂.registry during result? s₃.registry := by
  obtain ⟨es, hleads, hcalls⟩ := followSupervision_follows a h server (some client) s₂ rounds
  rw [hsupervises.follows] at hleads hcalls
  rw [hsupervises.during.unique hleads]
  exact hcalls

/-- The supervision begins with the watched children, and these are the registry of the trace. -/
theorem registry (hs : s.registry = {})
    (hsupervises : a.Supervises h rounds s server client started s₂ during result? s₃) :
    s₂.registry.pids = a.watched server (some client) ∧
      s₂.registry.pids = registeredAfter [] started := by
  obtain ⟨s₁, hspawn, hstart⟩ := hsupervises.comesUp
  obtain ⟨es, hleads, hspawned⟩ := follows_of_spawn hspawn
  obtain ⟨es', hleads', hstarted⟩ := a.followStart_follows h server s₁ rounds
  rw [hstart] at hleads' hstarted
  rw [hsupervises.started.unique (hleads.trans hleads'), registeredAfter_append]
  rw [hs] at hspawned
  constructor
  · obtain ⟨-, hregistry⟩ := hspawned.of_started
    exact StartCalls.watched (by rw [hregistry]; rfl) hstarted
  · rw [hstarted.track, hspawned.track]

/-- Where it has come to there is room for one more child, for the server and the client were
all. -/
theorem hasRoom (hs : s.registry = {})
    (hsupervises : a.Supervises h rounds s server client started s₂ during result? s₃) :
    s₃.registry.pids.length < registryCapacity :=
  hsupervises.calls.hasRoom (hsupervises.registry hs).1

/-- The exit of the client does not end a supervision. -/
theorem after_client_exit (hs : s.registry = {})
    (hsupervises : a.Supervises h rounds s server client started s₂ during result? s₃)
    (hfresh : FreshPids started) {before rest : List Event}
    (hduring : during = before ++ .waitAny (.ok (.child client)) :: rest) :
    (rest = [] ∧ result? = none) ∨ ∃ found rest', rest = .takePending found :: rest' := by
  have hcalls := hsupervises.calls
  obtain ⟨hwatched, hregistry⟩ := hsupervises.registry hs
  subst hduring
  -- behind a wait that has found a child there is a look for a request, or nothing yet
  rcases looks_of_isChain hcalls.waitRow.isChain with rfl | hlook
  · refine Or.inl ⟨rfl, ?_⟩
    by_contra hended
    -- were the exit the last event of a supervision that has ended, it would have ended it
    obtain ⟨result, hresult⟩ := Option.ne_none_iff_exists'.mp hended
    obtain ⟨before', last, heq, hend⟩ := hcalls.ends hwatched hresult
    obtain ⟨-, hlast⟩ := List.append_inj' heq rfl
    obtain rfl := List.singleton_inj.mp hlast
    cases result with
    | error e =>
      obtain ⟨cause, -, hfailed⟩ := hend
      cases hfailed
    | ok _ =>
      rcases hend with htaken | ⟨hmode, hserver⟩
      · cases htaken
      · -- in the foreground the client was started while the server was registered
        have hsame : client = server := by
          injection hserver with hserver
          injection hserver with hserver
          injection hserver
        have hnodup := (registeredAfter_eq_unreported hfresh).1
        rw [← hregistry, hwatched, watched, hmode, hsame] at hnodup
        simp at hnodup
  · exact Or.inr hlook

/-- When nobody is registered any more, the host is not asked to wait for a child again. -/
theorem none_left (hs : s.registry = {})
    (hsupervises : a.Supervises h rounds s server client started s₂ during result? s₃)
    {before rest : List Event} (hduring : during = before ++ rest)
    (hempty : registeredAfter [] (started ++ before) = []) :
    ∀ e ∈ rest, e.isHostWait = false := by
  have hcalls := hsupervises.calls
  subst hduring
  rw [registeredAfter_append, ← (hsupervises.registry hs).2] at hempty
  -- waits ask the host only while somebody is registered, and nobody is started in between
  refine hcalls.waitRow.waitsRegistered.none_left hempty ?_
  exact commands_eq_nil_of_isEnding fun e he =>
    hcalls.isEnding e (List.mem_append_right before he)

end Supervises

/-- A run that has come to its supervision is supervised: the events are those that its parts have
added. -/
theorem exists_supervises {a : Attachment} {s₁ : Session σ}
    (hspawn : s.spawn h a.server = (.ok server, s₁))
    (hstart : a.followStart h server s₁ rounds = ⟨some (.ok client), s₂⟩)
    (hfollow : a.followSupervision h server (some client) s₂ rounds = ⟨result?, s₃⟩) :
    ∃ started during, a.Supervises h rounds s server client started s₂ during result? s₃ := by
  obtain ⟨es, hleads, -⟩ := follows_of_spawn hspawn
  obtain ⟨es', hleads', -⟩ := a.followStart_follows h server s₁ rounds
  obtain ⟨during, hduring, -⟩ := followSupervision_follows a h server (some client) s₂ rounds
  rw [hstart] at hleads'
  rw [hfollow] at hduring
  exact ⟨es ++ es', during, ⟨s₁, hspawn, hstart⟩, hleads.trans hleads', hfollow, hduring⟩

/-- A run that has ended well was supervised, and the supervision has ended well. -/
theorem supervises_of_ok {a : Attachment} {s' : Session σ}
    (hrun : a.run h s rounds = some (.ok (), s')) :
    ∃ server client started s₂ during s₃ down,
      a.Supervises h rounds s server client started s₂ during (some (.ok ())) s₃ ∧
        s.Leads (started ++ during ++ down) s' := by
  rw [run, Progress.returned_eq_some_iff, followRun_eq] at hrun
  obtain ⟨upshot, s₃, hup, hdown⟩ := Progress.bind_eq_some hrun
  obtain rfl := upshot_of_followDown_ok (congrArg Progress.result? hdown)
  obtain ⟨down, hleads, -⟩ := a.followDown_reaps h rounds (.supervised (.ok ())) s₃
  rw [hdown] at hleads
  have hcourse := a.followUp_course h s rounds
  generalize a.followUp h s rounds = p at hup hcourse
  -- of the courses of the way up, only the one with a supervision can end well
  cases hcourse with
  | notStarted _ => cases hup
  | starting _ _ => cases hup
  | failed _ _ => cases hup
  | @supervised server client _ s₂ _ result? hspawn hstart hfollow =>
    injection hup with hresult hsession
    obtain ⟨result, rfl, hok⟩ := Option.map_eq_some_iff.mp hresult
    obtain rfl : result = .ok () := by injection hok
    subst hsession
    obtain ⟨started, during, hsupervises⟩ := exists_supervises hspawn hstart hfollow
    exact ⟨server, client, started, s₂, during, _, down, hsupervises,
      (hsupervises.started.trans hsupervises.during).trans hleads⟩

end Attachment

/-! ### The law -/

/-- What holds of a run with regard to the end of its supervision. -/
structure SupervisionLaw (a : Attachment) (h : Host σ) (rounds : Nat) (s : Session σ) : Prop where
  /-- A run that has ended well was supervised. The supervision has ended by a request to end that
  was taken, or, in the foreground only, by the exit of the server. -/
  of_ok : ∀ s', a.run h s rounds = some (.ok (), s') →
    ∃ server client started s₂ before last s₃ down,
      a.Supervises h rounds s server client started s₂ (before ++ [last]) (some (.ok ())) s₃ ∧
        s.Leads (started ++ (before ++ [last]) ++ down) s' ∧
        (last.isTaken = true ∨
          a.inv.mode.foreground = true ∧ last = .waitAny (.ok (.child server)))
  /-- After the exit of the client the supervision goes on: it looks for a request, unless it is not
  followed any further. -/
  after_client_exit : ∀ server client started s₂ before rest result? s₃,
    a.Supervises h rounds s server client started s₂
      (before ++ .waitAny (.ok (.child client)) :: rest) result? s₃ → FreshPids started →
      (rest = [] ∧ result? = none) ∨ ∃ found rest', rest = .takePending found :: rest'
  /-- Once nothing is registered, the supervision looks for requests and sleeps, and no more. -/
  none_left : ∀ server client started s₂ before rest result? s₃,
    a.Supervises h rounds s server client started s₂ (before ++ rest) result? s₃ →
      registeredAfter [] (started ++ before) = [] → ∀ e ∈ rest, e.isLook = true ∨ e = .idle

/-- **What ends a supervision.** The law holds of every run that begins with an empty registry. -/
theorem supervision_law (a : Attachment) (h : Host σ) (rounds : Nat) {s : Session σ}
    (hs : s.registry = {}) : SupervisionLaw a h rounds s where
  of_ok := by
    intro s' hrun
    obtain ⟨server, client, started, s₂, during, s₃, down, hsupervises, hleads⟩ :=
      Attachment.supervises_of_ok hrun
    obtain ⟨before, last, rfl, hend⟩ :=
      hsupervises.calls.ends (hsupervises.registry hs).1 rfl
    exact ⟨server, client, started, s₂, before, last, s₃, down, hsupervises, hleads, hend⟩
  after_client_exit := by
    intro server client started s₂ before rest result? s₃ hsupervises hfresh
    exact hsupervises.after_client_exit hs hfresh rfl
  none_left := by
    intro server client started s₂ before rest result? s₃ hsupervises hempty e he
    have hwaiting := hsupervises.calls.isWaiting e (List.mem_append_right before he)
    have hnone := hsupervises.none_left hs rfl hempty e he
    cases e with
    | takePending found => exact Or.inl rfl
    | idle => exact Or.inr rfl
    | waitAny answer => cases hnone
    | _ => cases hwaiting

theorem signalledRun_supervision_law :
    signalledRun.registry = {} ∧
      (Attachment.sample.followRun .adversary signalledRun 4).result? = some (.ok ()) ∧
      SupervisionLaw Attachment.sample .adversary 4 signalledRun :=
  ⟨rfl, rfl, supervision_law Attachment.sample .adversary 4 rfl⟩

end NbdAttach
