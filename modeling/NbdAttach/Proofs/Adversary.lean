import NbdAttach.Attachment
import NbdAttach.Proofs.Supervisor.Calls

/-!
# The adversary

A host that plays a list of events: each request takes the next event, provided that it is of the
right kind, and gets the answer that stands in it. It is the adversary who realizes what the
relations of the calls allow; `WaitCalls.happens` says so of the waits, so that `WaitCalls` has no
case that a host could not bring about. At the end stands one whole run for it to play.
-/

namespace NbdAttach

/-- Takes the answer out of the next event, if it is of the right kind. Otherwise the events stay as
they are, and the answer is `otherwise`. -/
def play {α : Type} (answer? : Event → Option α) (otherwise : α) : List Event → α × List Event
  | [] => (otherwise, [])
  | e :: es =>
    match answer? e with
    | some answer => (answer, es)
    | none => (otherwise, e :: es)

/-- The host that plays a list of events. A request for which the next event is of another kind
fails. -/
def Host.adversary : Host (List Event) where
  spawn _ := play (fun | .spawn _ answer => some answer | _ => none) (.error default)
  waitAny := play (fun | .waitAny answer => some answer | _ => none) (.error default)
  terminate _ := play (fun | .terminate _ answer => some answer | _ => none) .notFound
  idle es := (play (fun | .idle => some () | _ => none) () es).2
  takePending := play (fun | .takePending answer => some answer | _ => none) none
  awaitSocket _ _ := play (fun | .awaitSocket _ answer => some answer | _ => none) (.error default)
  background _ := play (fun | .background _ answer => some answer | _ => none) (.error default)
  removeSocket _ := play (fun | .removeSocket _ answer => some answer | _ => none) (.error default)
  stat _ := play (fun | .stat _ answer => some answer | _ => none) (.error default)
  unlink _ := play (fun | .unlink _ answer => some answer | _ => none) (.error default)
  catchSignals := play (fun | .catchSignals answer => some answer | _ => none) (.error default)

namespace Session

variable {s : Session (List Event)} {es : List Event}

/-! ### Requests to the adversary -/

/-- A look for a request gets the answer that stands in the next event, where that event is such a
look. -/
theorem takePending_adversary {answer : Option Signal}
    (hhost : s.host = .takePending answer :: es) :
    s.takePending .adversary = (answer, s.answered .adversary (.takePending answer) es) := by
  simp only [takePending, ask, Host.adversary, hhost, play]

/-- A wait gets the answer that stands in the next event, where that event is a wait. -/
theorem waitAny_adversary {answer : Except IoError Reaped}
    (hhost : s.host = .waitAny answer :: es) :
    s.waitAny .adversary = (answer, s.answered .adversary (.waitAny answer) es) := by
  simp only [waitAny, ask, Host.adversary, hhost, play]

theorem idle_adversary (hhost : s.host = .idle :: es) :
    s.idle .adversary = s.answered .adversary .idle es := by
  simp only [idle, Host.adversary, hhost, play]

/-- A pass with children registered gets as far as the answer to its wait. -/
private theorem pass_adversary {answer : Except IoError Reaped}
    (hsome : s.registry.pids ≠ []) (hhost : s.host = .takePending none :: .waitAny answer :: es) :
    ∃ s₁ s₂, s.takePending .adversary = (none, s₁) ∧ s₁.registry.isEmpty = false ∧
      s₁.waitAny .adversary = (answer, s₂) ∧ s.Leads [.takePending none, .waitAny answer] s₂ ∧
      s₂.registry = s.registry ∧ s₂.host = es := by
  refine ⟨_, _, takePending_adversary hhost, ?_, waitAny_adversary rfl,
    (leads_answered ..).trans (leads_answered ..), rfl, rfl⟩
  exact Bool.eq_false_iff.mpr fun hempty => hsome (Registry.isEmpty_iff.mp hempty)

end Session

/-! ### Waits against the adversary -/

open Session

/-- **Every wait happens.** Against the host that plays its events, a wait makes exactly the calls
that the relation allows, and has the result that the relation says. -/
theorem WaitCalls.happens {blocks : Bool} {r r' : Registry} {es : List Event}
    {result : Option (Except IoError WaitOutcome)} (hcalls : WaitCalls blocks r es result r')
    {s : Session (List Event)} {rest : List Event} (hregistry : s.registry = r)
    (hhost : s.host = es ++ rest) :
    ∃ rounds s', s.followWait .adversary blocks rounds = ⟨result, s'⟩ ∧ s.Leads es s' ∧
      s'.registry = r' ∧ s'.host = rest := by
  -- one round for each pass; the session is arbitrary, for every pass begins with another one
  induction hcalls generalizing s with
  | goesOn => exact ⟨0, s, rfl, .refl s, hregistry, hhost⟩
  | interrupted signal =>
    have htake := takePending_adversary hhost
    refine ⟨1, (s.answered .adversary (.takePending (some signal)) rest).tell (.signalTaken signal),
      ?_, (leads_answered ..).tell _, hregistry, rfl⟩
    rw [followWait, htake]
    rfl
  | noneLeft hempty hblocks =>
    subst hregistry hblocks
    have htake := takePending_adversary hhost
    refine ⟨1, s.answered .adversary (.takePending none) rest, ?_, leads_answered .., rfl, rfl⟩
    rw [followWait, htake]
    exact if_pos (Registry.isEmpty_iff.mpr hempty)
  | idle hempty hblocks hrest ih =>
    subst hregistry hblocks
    have htake := takePending_adversary hhost
    obtain ⟨rounds, s', hfollow, hleads, hregistry', hhost'⟩ :=
      @ih ((s.answered .adversary (.takePending none) _).answered .adversary .idle (_ ++ rest))
        rfl rfl
    refine ⟨rounds + 1, s', ?_,
      ((leads_answered ..).trans (leads_answered ..)).trans hleads, hregistry', hhost'⟩
    rw [followWait, htake]
    refine (if_pos (Registry.isEmpty_iff.mpr hempty)).trans ?_
    rw [if_pos rfl, idle_adversary rfl]
    exact hfollow
  | failed hsome cause =>
    subst hregistry
    -- the wait that fails is the last thing that this pass asks for
    obtain ⟨s₁, s₂, htake, hempty, hwait, hleads, hregistry, hhost⟩ := pass_adversary hsome hhost
    refine ⟨1, s₂, ?_, hleads, hregistry, hhost⟩
    rw [followWait, htake]
    simp only [hempty, Bool.false_eq_true, if_false, hwait]
  | cutShort hsome hrest ih =>
    subst hregistry
    obtain ⟨s₁, s₂, htake, hempty, hwait, hleads, hregistry, hhost⟩ := pass_adversary hsome hhost
    obtain ⟨rounds, s', hfollow, hleads', hregistry', hhost'⟩ := ih hregistry hhost
    refine ⟨rounds + 1, s', ?_, hleads.trans hleads', hregistry', hhost'⟩
    rw [followWait, htake]
    simp only [hempty, Bool.false_eq_true, if_false, hwait]
    exact hfollow
  | @untracked r' es result pid hsome hpid hrest ih =>
    subst hregistry
    obtain ⟨s₁, s₂, htake, hempty, hwait, hleads, hregistry, hhost⟩ := pass_adversary hsome hhost
    obtain ⟨rounds, s', hfollow, hleads', hregistry', hhost'⟩ :=
      @ih (s₂.tell (.reapedUntracked pid)) hregistry hhost
    refine ⟨rounds + 1, s', ?_, (hleads.tell _).trans hleads', hregistry', hhost'⟩
    -- the process is not registered, so the wait takes another pass
    have hmissing : s₂.registry.contains pid = false := by
      rw [hregistry]
      exact Bool.eq_false_iff.mpr fun hmem => hpid (Registry.contains_iff.mp hmem)
    rw [followWait, htake]
    simp only [hempty, Bool.false_eq_true, if_false, hwait, hmissing]
    exact hfollow
  | @exited pid hpid =>
    subst hregistry
    obtain ⟨s₁, s₂, htake, hempty, hwait, hleads, hregistry, hhost⟩ :=
      pass_adversary (List.ne_nil_of_mem hpid) hhost
    refine ⟨1, { s₂ with registry := s₂.registry.erase pid }.tell (.reaped pid), ?_,
      (hleads.setRegistry _).tell _, congrArg (Registry.erase · pid) hregistry, hhost⟩
    -- the child is registered, and its exit ends the wait
    have hmember : s₂.registry.contains pid = true := by
      rw [hregistry]
      exact Registry.contains_iff.mpr hpid
    rw [followWait, htake]
    simp only [hempty, Bool.false_eq_true, if_false, hwait, hmember, if_true]

/-! ### A run for the adversary -/

/-- A device that is attached in the background, with the settings as they come. -/
def Attachment.sample : Attachment where
  settings := {}
  inv :=
    { mode := {}, bucket := "backups", device := ⟨"/dev/nbd0"⟩, serverFlags := [], params := []
      extraParams := [] }
  endpoint := ⟨⟨"/run/s3backer-nbd/5_1"⟩⟩

/-- Everything comes up, then a signal ends the run: the server's process goes into the background
as 100, the client is 101 and the helper that detaches the device is 102. -/
def signalledRun : Session (List Event) where
  host :=
    [.spawn default (.ok 100), .takePending none, .waitAny (.ok (.child 100)),
      .background default (.ok ()), .awaitSocket default (.ok true), .spawn default (.ok 101),
      .takePending (some 15), .spawn default (.ok 102), .terminate 101 .delivered,
      .takePending none, .waitAny (.ok (.child 102)), .takePending none,
      .waitAny (.ok (.child 101)), .takePending none, .removeSocket default (.ok ())]

end NbdAttach
