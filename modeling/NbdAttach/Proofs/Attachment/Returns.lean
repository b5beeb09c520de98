import NbdAttach.Attachment
import NbdAttach.Proofs.Supervisor.Returns

/-!
# Runs return

Against a host that keeps to an agenda every call that waits for children returns, up to the run as
a whole: `ReturnsLaw` lists them. A run is made of few loops, one after the other. Its supervision
is a loop of waits of which there are two at most (`Host.Scripted.settles_followSupervision`), since
only the exit of the client that is still expected leads to a next one.
-/

namespace NbdAttach

variable {σ α : Type}

namespace Host.Scripted

open Session Attachment

variable {h : Host σ} {agenda : σ → Agenda}

/-! ### The start -/

/-- The step into the background is one wait and what is made of its outcome. -/
theorem settles_followLauncher (hscripted : h.Scripted agenda) (a : Attachment) (server : Pid)
    (s : Session σ) : Settles (a.followLauncher h server s) := by
  refine (hscripted.settles_followWait false s).next fun outcome s₁ => ?_
  rcases outcome with cause | (pid | _ | _)
  · -- the wait was all that takes rounds, so none are needed for the rest
    exact ⟨_, _, 0, fun rounds _ hwait => by rw [followLauncher, hwait]⟩
  · by_cases hpid : pid = server
    · exact ⟨_, _, 0, fun rounds _ hwait => by rw [followLauncher, hwait]; exact if_pos hpid⟩
    · exact ⟨_, _, 0, fun rounds _ hwait => by rw [followLauncher, hwait]; exact if_neg hpid⟩
  · exact ⟨_, _, 0, fun rounds _ hwait => by rw [followLauncher, hwait]⟩
  · exact ⟨_, _, 0, fun rounds _ hwait => by rw [followLauncher, hwait]⟩

/-- Whatever the wait for the socket finds, the start returns. -/
theorem settles_followStart (hscripted : h.Scripted agenda) (a : Attachment) (server : Pid)
    (s : Session σ) : Settles (a.followStart h server s) := by
  refine (hscripted.settles_followLauncher a server s).next fun launched s₁ => ?_
  by_cases hmode : a.inv.mode.foreground = true
  · -- in the foreground the start has no wait in it
    exact ⟨_, _, 0, fun rounds _ _ => by rw [followStart, if_pos hmode]⟩
  · cases launched with
    | error e => exact ⟨_, _, 0, fun rounds _ hlaunch => by rw [followStart, if_neg hmode, hlaunch]⟩
    | ok _ => exact ⟨_, _, 0, fun rounds _ hlaunch => by rw [followStart, if_neg hmode, hlaunch]⟩

/-! ### The supervision -/

/-- A wait of the supervision is the last one, unless it reports the exit of the expected client. -/
theorem settles_followSupervision_of (hscripted : h.Scripted agenda) (a : Attachment)
    (server : Pid) (client : Option Pid) (s : Session σ)
    (hnext : ∀ pid, some pid = client → ∀ s, Settles (a.followSupervision h server none s)) :
    Settles (a.followSupervision h server client s) := by
  have hwait := hscripted.settles_followWait (!a.inv.mode.foreground) s
  -- the supervision spends one round on each of its waits
  refine settles_succ_iff.mp ((settles_succ_iff.mpr hwait).next fun outcome s₁ => ?_)
  rcases outcome with cause | (pid | _ | _)
  · exact ⟨_, _, 0, fun rounds _ hwait => by rw [followSupervision, hwait]⟩
  · by_cases hclient : some pid = client
    · -- from here on no client is expected
      obtain ⟨result, s', enough, hreturned⟩ := hnext pid hclient
        (s₁.tell (.memberExited a.settings.clientExecutable pid))
      refine ⟨result, s', enough, fun rounds hrounds hwait => ?_⟩
      rw [followSupervision, hwait]
      exact (if_pos hclient).trans (hreturned rounds hrounds)
    · by_cases hserver : pid = server
      · exact ⟨_, _, 0, fun rounds _ hwait => by
          rw [followSupervision, hwait]
          exact (if_neg hclient).trans (if_pos hserver)⟩
      · exact ⟨_, _, 0, fun rounds _ hwait => by
          rw [followSupervision, hwait]
          exact (if_neg hclient).trans (if_neg hserver)⟩
  · exact ⟨_, _, 0, fun rounds _ hwait => by rw [followSupervision, hwait]⟩
  · exact ⟨_, _, 0, fun rounds _ hwait => by rw [followSupervision, hwait]⟩

/-- After the exit of the client none is expected, so a supervision has two waits at most. -/
theorem settles_followSupervision (hscripted : h.Scripted agenda) (a : Attachment) (server : Pid)
    (client : Option Pid) (s : Session σ) : Settles (a.followSupervision h server client s) :=
  hscripted.settles_followSupervision_of a server client s fun _ _ s =>
    hscripted.settles_followSupervision_of a server none s nofun

/-! ### The run -/

/-- The parts of a run that take rounds come one after the other, each with the same number of
rounds, so the largest number that one of them needs is enough for all. -/
theorem settles_followRun (hscripted : h.Scripted agenda) (a : Attachment) (s : Session σ) :
    Settles (a.followRun h s) := by
  rcases hspawn : s.spawn h a.server with ⟨error | server, s₁⟩
  · exact ⟨_, _, 0, fun rounds _ => by rw [followRun, hspawn]⟩
  refine (hscripted.settles_followStart a server s₁).next fun started s₂ => ?_
  cases started with
  | error e =>
    -- a start that has failed is torn down
    obtain ⟨report, s₃, enough, habort⟩ :=
      hscripted.settles_followAbort a.endpoint (s₂.tell (.aborting e))
    refine ⟨.error e, s₃, enough, fun rounds hrounds hstart => ?_⟩
    rw [followRun, hspawn]
    simp only [hstart, habort rounds hrounds]
  | ok client =>
    obtain ⟨result, s₃, enough, hsupervise⟩ :=
      hscripted.settles_followSupervision a server (some client) s₂
    obtain ⟨report, s₄, enough', hshutdown⟩ :=
      hscripted.settles_followShutdown a.endpoint a.disconnect s₃
    refine ⟨verdict result report, s₄.tell (.disconnected a.inv.bucket a.inv.device),
      max enough enough', fun rounds hrounds hstart => ?_⟩
    -- rounds enough for the longer of the two loops are enough for both
    obtain ⟨hrounds, hrounds'⟩ := max_le_iff.mp hrounds
    rw [followRun, hspawn]
    simp only [hstart, hsupervise rounds hrounds, hshutdown rounds hrounds']

end Host.Scripted

/-! ### The law -/

/-- From some number of rounds on the call returns, always in the same way. -/
def Returns {β : Type} (call : Nat → Option β) : Prop :=
  ∃ returned enough, ∀ rounds, enough ≤ rounds → call rounds = some returned

/-- A loop that settles returns, as a call with a result. -/
theorem returns_of_settles {call : Nat → Progress σ α} (hcall : Settles call) :
    Returns fun rounds => (call rounds).returned := by
  obtain ⟨a, s', enough, hreturned⟩ := hcall
  exact ⟨(a, s'), enough, fun rounds hrounds =>
    Progress.returned_eq_some_iff.mpr (hreturned rounds hrounds)⟩

/-- Every call from the session that waits for children returns. -/
structure ReturnsLaw (h : Host σ) (s : Session σ) : Prop where
  waitForAny : ∀ blocks, Returns (s.waitForAny h blocks)
  reapAll : Returns (s.reapAll h)
  supervision : ∀ (a : Attachment) server client,
    Returns fun rounds => (a.followSupervision h server client s rounds).returned
  shutdown : ∀ endpoint disconnect, Returns (s.shutdown h endpoint disconnect)
  abort : ∀ endpoint, Returns (s.abort h endpoint)
  run : ∀ a : Attachment, Returns (a.run h s)

/-- **Every call returns.** Against a host that keeps to an agenda, from every session, and whatever
the attachment is. -/
theorem Host.Scripted.returns {h : Host σ} {agenda : σ → Agenda} (hscripted : h.Scripted agenda)
    (s : Session σ) : ReturnsLaw h s where
  waitForAny blocks := returns_of_settles (hscripted.settles_followWait blocks s)
  reapAll := returns_of_settles (hscripted.settles_followReap s)
  supervision a server client :=
    returns_of_settles (hscripted.settles_followSupervision a server client s)
  shutdown endpoint disconnect :=
    returns_of_settles (hscripted.settles_followShutdown endpoint disconnect s)
  abort endpoint := returns_of_settles (hscripted.settles_followAbort endpoint s)
  run a := returns_of_settles (hscripted.settles_followRun a s)

/-- A child that stands in the registry twice and can exit once. Before that a stranger exits, and a
wait is cut short. -/
def outlivingSession : Session Script where
  host :=
    { reports := [.ok (.child 99), .ok .interrupted], live := [100]
      fs := { device := 1, nodes := [], nextNumber := 1, workingDir := [] }
      home := ⟨"/home"⟩, socket := ⟨"/run/socket"⟩ }
  registry := ⟨[100, 100]⟩

theorem outlivingSession_returns :
    Script.host.Scripted Script.agenda ∧ ReturnsLaw Script.host outlivingSession :=
  ⟨Script.host_scripted, Script.host_scripted.returns outlivingSession⟩

/-- The reap ends all the same: when nobody is left to wait for, the host says so. -/
example :
    (outlivingSession.reapAll Script.host 5).map Prod.fst = some (.error (.system .noChild)) := by
  decide

end NbdAttach
