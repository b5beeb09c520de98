import NbdAttach.Machine.Basic
import NbdAttach.Program.Stages
import NbdAttach.Proofs.Attachment.Calls

/-!
# The stages of a start

A start has four stages in front of the run: the settings, the command line, the endpoint and the
signals. `Stage.Passes` and `Stage.Fails` say of each stage when it passes and when it fails, what
it asks of the host meanwhile, and which error a failure gives. `Session.startLaw` puts this
together: the first stage that fails decides, nothing of a later stage has happened by then, and the
run begins behind the last stage.

A run need not end, so the start is followed for some rounds here (`Session.followCommandLine`), and
what is said of its events holds of unfinished runs too.
-/

namespace NbdAttach

variable {σ : Type}

/-! ### A start that is followed for some rounds -/

namespace Session

/-- The last two stages, followed. -/
def followCatchAndRun (h : Host σ) (a : Attachment) (s : Session σ) (rounds : Nat) :
    Progress σ (Except RunError Unit) :=
  match s.catchSignals h with
  | (.error cause, s) => ⟨some (.error (.signalSetup cause)), s⟩
  | (.ok (), s) => a.followRun h s rounds

/-- The stages on the host, followed. -/
def followInvocation (h : Host σ) (settings : Settings) (inv : Invocation) (s : Session σ)
    (rounds : Nat) : Progress σ (Except RunError Unit) :=
  match (s.tell (.runningOn platform inv.mode)).resolve h settings.socketDir inv.device with
  | (.error e, s) => ⟨some (.error e), s⟩
  | (.ok endpoint, s) =>
    (s.tell (.usingEndpoint endpoint.path)).followCatchAndRun h { settings, inv, endpoint } rounds

/-- All stages, followed. -/
def followCommandLine (h : Host σ) (settings : Settings) (args : List String) (s : Session σ)
    (rounds : Nat) : Progress σ (Except RunError Unit) :=
  match settings.validate with
  | .error fault => ⟨some (.error (.settings fault.messages)), s⟩
  | .ok () =>
    match Invocation.parse .plugin args with
    | .error e => ⟨some (.error (.usage e)), s⟩
    | .ok inv => s.followInvocation h settings inv rounds

variable {h : Host σ}

/-- The last two stages return what the followed ones do. -/
theorem catchAndRun_eq (a : Attachment) (s : Session σ) (rounds : Nat) :
    s.catchAndRun h a rounds = (s.followCatchAndRun h a rounds).returned := by
  unfold catchAndRun followCatchAndRun
  rcases s.catchSignals h with ⟨cause | _, s₁⟩
  · rfl
  · rfl

/-- The stages on the host return what the followed ones do. -/
theorem runInvocation_eq (settings : Settings) (inv : Invocation) (s : Session σ) (rounds : Nat) :
    s.runInvocation h settings inv rounds =
      (s.followInvocation h settings inv rounds).returned := by
  unfold runInvocation followInvocation
  rcases (s.tell (.runningOn platform inv.mode)).resolve h settings.socketDir inv.device with
    ⟨e | endpoint, s₁⟩
  · rfl
  · exact catchAndRun_eq _ _ rounds

/-- What the program runs is the followed start, where it returns. -/
theorem runCommandLine_eq (settings : Settings) (args : List String) (s : Session σ)
    (rounds : Nat) :
    s.runCommandLine h settings args rounds =
      (s.followCommandLine h settings args rounds).returned := by
  unfold runCommandLine followCommandLine
  cases settings.validate with
  | error fault => rfl
  | ok _ =>
    dsimp only
    cases Invocation.parse .plugin args with
    | error e => rfl
    | ok inv => exact runInvocation_eq settings inv s rounds

end Session

/-! ### Stages -/

/-- The stages in front of a run. -/
inductive Stage
  | settings
  | commandLine
  | endpoint
  | signals
deriving DecidableEq

namespace Stage

/-- The stages in their order. -/
def order : List Stage :=
  [.settings, .commandLine, .endpoint, .signals]

/-- The calls of a stage that passes. The endpoint is judged by the look after the removal alone. -/
inductive Passes (settings : Settings) (args : List String) : Stage → List Event → Prop
  | settings (hvalid : settings.validate = .ok ()) : Passes settings args .settings []
  | commandLine {inv : Invocation} (hparse : Invocation.parse .plugin args = .ok inv) :
    Passes settings args .commandLine []
  | endpoint {inv : Invocation} {identity : DeviceIdentity} {path : Path}
      {removal : Except Errno Unit} {found : Except Errno DeviceIdentity}
      (hparse : Invocation.parse .plugin args = .ok inv)
      (hpath : path = (Endpoint.forDevice settings.socketDir identity).path)
      (hfound : found = .error .noEntry ∨ ∃ other, found = .ok other) :
    Passes settings args .endpoint
      [.stat inv.device (.ok identity), .unlink path removal, .stat path found]
  | signals : Passes settings args .signals [.catchSignals (.ok ())]

/-- The calls of a stage that fails, and the error. -/
inductive Fails (settings : Settings) (args : List String) :
    Stage → List Event → RunError → Prop
  | settings {fault : Settings.Fault} (hfault : settings.validate = .error fault) :
    Fails settings args .settings [] (.settings fault.messages)
  | commandLine {e : UsageError} (hparse : Invocation.parse .plugin args = .error e) :
    Fails settings args .commandLine [] (.usage e)
  | device {inv : Invocation} {errno : Errno}
      (hparse : Invocation.parse .plugin args = .ok inv) :
    Fails settings args .endpoint [.stat inv.device (.error errno)]
      (.deviceLookup inv.device (.system errno))
  | privilege {inv : Invocation} {identity : DeviceIdentity} {path : Path}
      {removal : Except Errno Unit} {errno : Errno}
      (hparse : Invocation.parse .plugin args = .ok inv)
      (hpath : path = (Endpoint.forDevice settings.socketDir identity).path)
      (herrno : errno = .notPermitted ∨ errno = .accessDenied) :
    Fails settings args .endpoint
      [.stat inv.device (.ok identity), .unlink path removal, .stat path (.error errno)]
      (.insufficientPrivilege path)
  | endpoint {inv : Invocation} {identity : DeviceIdentity} {path : Path}
      {removal : Except Errno Unit} {errno : Errno}
      (hparse : Invocation.parse .plugin args = .ok inv)
      (hpath : path = (Endpoint.forDevice settings.socketDir identity).path)
      (hentry : errno ≠ .noEntry) (hpermitted : errno ≠ .notPermitted)
      (haccess : errno ≠ .accessDenied) :
    Fails settings args .endpoint
      [.stat inv.device (.ok identity), .unlink path removal, .stat path (.error errno)]
      (.endpoint path (.system errno))
  | signals {cause : IoError} :
    Fails settings args .signals [.catchSignals (.error cause)] (.signalSetup cause)

/-- The calls of stages that pass one after the other. -/
inductive PassInTurn (settings : Settings) (args : List String) :
    List Stage → List Event → Prop
  | nil : PassInTurn settings args [] []
  | cons {stage : Stage} {later : List Stage} {es es' : List Event}
      (hpasses : stage.Passes settings args es) (hlater : PassInTurn settings args later es') :
    PassInTurn settings args (stage :: later) (es ++ es')

end Stage

/-- How a start can go: one of the stages fails, after all those in front of it have passed, or all
of them pass and the run follows. -/
inductive StartCourse (h : Host σ) (settings : Settings) (args : List String) (rounds : Nat)
    (s : Session σ) : List Event → Progress σ (Except RunError Unit) → Prop
  | failed {earlier later : List Stage} {stage : Stage} {es es' : List Event} {e : RunError}
      {s' : Session σ} (horder : Stage.order = earlier ++ stage :: later)
      (hearlier : Stage.PassInTurn settings args earlier es)
      (hfails : stage.Fails settings args es' e) :
    StartCourse h settings args rounds s (es ++ es') ⟨some (.error e), s'⟩
  | ran {es es' : List Event} {inv : Invocation} {identity : DeviceIdentity} {s₁ : Session σ}
      (hstages : Stage.PassInTurn settings args Stage.order es)
      (hparse : Invocation.parse .plugin args = .ok inv)
      (hdevice : .stat inv.device (.ok identity) ∈ es)
      (hleads : s.Leads es s₁) (hregistry : s₁.registry = s.registry) :
    StartCourse h settings args rounds s (es ++ es') (Attachment.followRun
      { settings, inv, endpoint := .forDevice settings.socketDir identity } h s₁ rounds)

/-! ### The endpoint -/

namespace Session

variable {h : Host σ} {s s₁ : Session σ} {device : Path}

/-- To clear an endpoint is one call, whatever comes of it. -/
theorem leads_clear (h : Host σ) (endpoint : Endpoint) (s : Session σ) :
    ∃ removal, s.Leads [.unlink endpoint.path removal] (s.clear h endpoint) ∧
      (s.clear h endpoint).registry = s.registry := by
  rcases hunlink : s.unlink h endpoint.path with ⟨removal, s₁⟩
  have hleads : s.Leads [.unlink endpoint.path removal] s₁ := leads_of_ask hunlink
  have hregistry : s₁.registry = s.registry := registry_of_ask hunlink
  refine ⟨removal, ?_⟩
  unfold clear
  rw [hunlink]
  cases removal with
  | ok _ => exact ⟨hleads.tell _, hregistry⟩
  | error e =>
    -- that there was nothing to remove is not told
    dsimp only
    split
    · exact ⟨hleads, hregistry⟩
    · exact ⟨hleads.tell _, hregistry⟩

/-- A device that cannot be looked up has no endpoint, and nothing is cleared. -/
theorem resolve_of_error {errno : Errno} (hstat : s.stat h device = (.error errno, s₁))
    (socketDir : Path) :
    s.resolve h socketDir device = (.error (.deviceLookup device (.system errno)), s₁) := by
  unfold resolve
  rw [hstat]

/-- With the device known, its endpoint is cleared and then looked at. -/
theorem resolve_of_ok {identity : DeviceIdentity}
    (hstat : s.stat h device = (.ok identity, s₁)) (socketDir : Path) :
    ∃ removal found s', s.resolve h socketDir device =
        (judge (.forDevice socketDir identity) found, s') ∧
      s₁.Leads [.unlink (Endpoint.forDevice socketDir identity).path removal,
        .stat (Endpoint.forDevice socketDir identity).path found] s' ∧
      s'.registry = s₁.registry := by
  obtain ⟨removal, hclear, hregistry⟩ := leads_clear h (.forDevice socketDir identity) s₁
  rcases hlook : (s₁.clear h (.forDevice socketDir identity)).stat h
    (Endpoint.forDevice socketDir identity).path with ⟨found, s₂⟩
  have hleads := hclear.trans (leads_of_ask hlook)
  have hregistry₂ : s₂.registry = s₁.registry := (registry_of_ask hlook).trans hregistry
  unfold resolve
  rw [hstat]
  dsimp only
  rw [hlook]
  cases found with
  | ok other => exact ⟨removal, .ok other, _, rfl, hleads.tell _, hregistry₂⟩
  | error e => exact ⟨removal, .error e, _, rfl, hleads, hregistry₂⟩

/-- An endpoint is accepted where the look after the removal succeeds, or finds nothing. -/
theorem judge_eq_ok {endpoint endpoint' : Endpoint} {found : Except Errno DeviceIdentity}
    (hjudge : judge endpoint found = .ok endpoint') :
    endpoint' = endpoint ∧ (found = .error .noEntry ∨ ∃ other, found = .ok other) := by
  unfold judge at hjudge
  cases found with
  | ok other => exact ⟨(Except.ok.inj hjudge).symm, Or.inr ⟨other, rfl⟩⟩
  | error e =>
    dsimp only at hjudge
    split at hjudge
    · next hentry => exact ⟨(Except.ok.inj hjudge).symm, Or.inl (by rw [hentry])⟩
    · split at hjudge <;> cases hjudge

end Session

/-- An endpoint that cannot be examined fails its stage. -/
theorem Stage.Fails.of_judge {settings : Settings} {args : List String} {inv : Invocation}
    {identity : DeviceIdentity} {removal : Except Errno Unit}
    {found : Except Errno DeviceIdentity} {e : RunError}
    (hparse : Invocation.parse .plugin args = .ok inv)
    (hjudge : Session.judge (.forDevice settings.socketDir identity) found = .error e) :
    Stage.Fails settings args .endpoint [.stat inv.device (.ok identity),
      .unlink (Endpoint.forDevice settings.socketDir identity).path removal,
      .stat (Endpoint.forDevice settings.socketDir identity).path found] e := by
  unfold Session.judge at hjudge
  cases found with
  | ok other => cases hjudge
  | error errno =>
    dsimp only at hjudge
    split at hjudge
    · cases hjudge
    · next hentry =>
      split at hjudge
      · next hprivilege =>
        cases hjudge
        exact .privilege hparse rfl hprivilege
      · next hother =>
        cases hjudge
        rw [not_or] at hother
        exact .endpoint hparse rfl hentry hother.1 hother.2

/-! ### Every start takes one of the courses -/

namespace Session

variable {h : Host σ} {settings : Settings} {args : List String} {inv : Invocation}

/-- Settings that are not valid end the start before the command line is read. -/
theorem followCommandLine_of_fault {fault : Settings.Fault}
    (hfault : settings.validate = .error fault) (args : List String) (s : Session σ)
    (rounds : Nat) :
    s.followCommandLine h settings args rounds =
      ⟨some (.error (.settings fault.messages)), s⟩ := by
  unfold followCommandLine
  rw [hfault]

/-- A command line that is not accepted ends the start before the host is asked for anything. -/
theorem followCommandLine_of_usage {e : UsageError} (hvalid : settings.validate = .ok ())
    (hparse : Invocation.parse .plugin args = .error e) (s : Session σ) (rounds : Nat) :
    s.followCommandLine h settings args rounds = ⟨some (.error (.usage e)), s⟩ := by
  unfold followCommandLine
  rw [hvalid, hparse]

/-- With settings and a command line the stages on the host follow. -/
theorem followCommandLine_of_parsed (hvalid : settings.validate = .ok ())
    (hparse : Invocation.parse .plugin args = .ok inv) (s : Session σ) (rounds : Nat) :
    s.followCommandLine h settings args rounds = s.followInvocation h settings inv rounds := by
  unfold followCommandLine
  rw [hvalid, hparse]

/-- The first two stages pass without calls. -/
theorem passInTurn_parsed (hvalid : settings.validate = .ok ())
    (hparse : Invocation.parse .plugin args = .ok inv) {later : List Stage} {es : List Event}
    (hlater : Stage.PassInTurn settings args later es) :
    Stage.PassInTurn settings args (.settings :: .commandLine :: later) es := by
  -- neither of the two asks the host for anything
  change Stage.PassInTurn settings args (.settings :: .commandLine :: later) ([] ++ ([] ++ es))
  exact .cons (.settings hvalid) (.cons (.commandLine hparse) hlater)

/-- A device that cannot be looked up ends the start at once. -/
theorem followInvocation_of_error {errno : Errno} {s s₁ : Session σ}
    (hstat : (s.tell (.runningOn platform inv.mode)).stat h inv.device = (.error errno, s₁))
    (settings : Settings) (rounds : Nat) :
    s.followInvocation h settings inv rounds =
      ⟨some (.error (.deviceLookup inv.device (.system errno))), s₁⟩ := by
  unfold followInvocation
  rw [resolve_of_error hstat]

/-- The stages on the host, with the device known. -/
theorem followInvocation_of_ok (hvalid : settings.validate = .ok ())
    (hparse : Invocation.parse .plugin args = .ok inv) {identity : DeviceIdentity}
    {s s₁ : Session σ}
    (hstat : (s.tell (.runningOn platform inv.mode)).stat h inv.device = (.ok identity, s₁))
    (rounds : Nat) :
    ∃ later, s.Leads (.stat inv.device (.ok identity) :: later)
        (s.followInvocation h settings inv rounds).session ∧
      StartCourse h settings args rounds s (.stat inv.device (.ok identity) :: later)
        (s.followInvocation h settings inv rounds) := by
  have hleads₁ : s.Leads [.stat inv.device (.ok identity)] s₁ :=
    ((Leads.refl s).tell _).trans (leads_of_ask hstat)
  have hregistry₁ : s₁.registry = s.registry :=
    (registry_of_ask hstat).trans (registry_tell s _)
  obtain ⟨removal, found, s₂, hresolve, hcleared, hregistry₂⟩ :=
    resolve_of_ok hstat settings.socketDir
  have hleads₂ : s.Leads [.stat inv.device (.ok identity),
      .unlink (Endpoint.forDevice settings.socketDir identity).path removal,
      .stat (Endpoint.forDevice settings.socketDir identity).path found] s₂ :=
    hleads₁.trans hcleared
  unfold followInvocation
  rw [hresolve]
  cases hjudge : judge (.forDevice settings.socketDir identity) found with
  | error e =>
    -- the device is known, but its endpoint cannot be used
    have horder : Stage.order = [.settings, .commandLine] ++ .endpoint :: [.signals] := rfl
    exact ⟨_, hleads₂, .failed horder (passInTurn_parsed hvalid hparse .nil)
      (.of_judge hparse hjudge)⟩
  | ok endpoint =>
    obtain ⟨rfl, hfound⟩ := judge_eq_ok hjudge
    -- the endpoint is judged by the look behind the removal
    have hendpoint : Stage.Passes settings args .endpoint
        [.stat inv.device (.ok identity),
          .unlink (Endpoint.forDevice settings.socketDir identity).path removal,
          .stat (Endpoint.forDevice settings.socketDir identity).path found] :=
      .endpoint hparse rfl hfound
    dsimp only
    unfold followCatchAndRun
    rcases hcatch : (s₂.tell (.usingEndpoint (Endpoint.forDevice settings.socketDir
      identity).path)).catchSignals h with ⟨answer, s₃⟩
    have hleads₃ := (hleads₂.tell _).trans (leads_of_ask hcatch)
    have hregistry₃ : s₃.registry = s₂.registry :=
      (registry_of_ask hcatch).trans (registry_tell s₂ _)
    rcases answer with cause | _
    · -- the endpoint is there, but signals are not caught
      have horder : Stage.order = [.settings, .commandLine, .endpoint] ++ .signals :: [] := rfl
      have hbefore := passInTurn_parsed hvalid hparse (.cons hendpoint .nil)
      exact ⟨_, hleads₃, .failed horder hbefore .signals⟩
    · -- all stages have passed
      have hstages := passInTurn_parsed hvalid hparse (.cons hendpoint (.cons .signals .nil))
      obtain ⟨es, hrun, -⟩ := Attachment.followRun_follows
        { settings, inv, endpoint := .forDevice settings.socketDir identity } h s₃ rounds
      exact ⟨_, hleads₃.trans hrun, .ran hstages hparse List.mem_cons_self hleads₃
        (hregistry₃.trans (hregistry₂.trans hregistry₁))⟩

/-- Every start takes one of the courses, with the calls that belong to it. -/
theorem followCommandLine_course (h : Host σ) (settings : Settings) (args : List String)
    (s : Session σ) (rounds : Nat) :
    ∃ es, s.Leads es (s.followCommandLine h settings args rounds).session ∧
      StartCourse h settings args rounds s es
        (s.followCommandLine h settings args rounds) := by
  cases hvalid : settings.validate with
  | error fault =>
    -- the first stage has failed, and none is in front of it
    rw [followCommandLine_of_fault hvalid]
    have horder : Stage.order = [] ++ .settings :: [.commandLine, .endpoint, .signals] := rfl
    exact ⟨[], .refl s, .failed horder .nil (.settings hvalid)⟩
  | ok _ =>
    cases hparse : Invocation.parse .plugin args with
    | error e =>
      -- the second has failed, after the first has passed
      rw [followCommandLine_of_usage hvalid hparse]
      have horder : Stage.order = [.settings] ++ .commandLine :: [.endpoint, .signals] := rfl
      exact ⟨[], .refl s, .failed horder (.cons (.settings hvalid) .nil)
        (.commandLine hparse)⟩
    | ok inv =>
      rw [followCommandLine_of_parsed hvalid hparse]
      rcases hstat : (s.tell (.runningOn platform inv.mode)).stat h inv.device with
        ⟨errno | identity, s₁⟩
      · -- the device cannot be looked up, so the stage of the endpoint fails with its first call
        have horder : Stage.order = [.settings, .commandLine] ++ .endpoint :: [.signals] := rfl
        have hleads : s.Leads [.stat inv.device (.error errno)] s₁ :=
          ((Leads.refl s).tell _).trans (leads_of_ask hstat)
        rw [followInvocation_of_error hstat]
        exact ⟨_, hleads, .failed horder (passInTurn_parsed hvalid hparse .nil) (.device hparse)⟩
      · obtain ⟨later, hleads, hcourse⟩ := followInvocation_of_ok hvalid hparse hstat rounds
        exact ⟨_, hleads, hcourse⟩

end Session

/-! ### Nothing happens before its stage -/

/-- A stage that passes starts no process. -/
theorem Stage.Passes.command?_eq_none {settings : Settings} {args : List String} {stage : Stage}
    {es : List Event} (hpasses : stage.Passes settings args es) :
    ∀ e ∈ es, e.command? = none := by
  cases hpasses <;> simp [Event.command?]

/-- A stage that fails has started no process. -/
theorem Stage.Fails.command?_eq_none {settings : Settings} {args : List String} {stage : Stage}
    {es : List Event} {e : RunError} (hfails : stage.Fails settings args es e) :
    ∀ e ∈ es, e.command? = none := by
  cases hfails <;> simp [Event.command?]

/-- Stages that pass one after the other start no process. -/
theorem Stage.PassInTurn.command?_eq_none {settings : Settings} {args : List String}
    {stages : List Stage} {es : List Event} (hpass : PassInTurn settings args stages es) :
    ∀ e ∈ es, e.command? = none := by
  induction hpass with
  | nil =>
    intro e he
    cases he
  | cons hpasses _ ih =>
    intro e he
    rcases List.mem_append.mp he with he | he
    · exact hpasses.command?_eq_none e he
    · exact ih e he

/-- What is started is started behind the last stage. -/
theorem StartCourse.spawn_gated {h : Host σ} {settings : Settings} {args : List String}
    {rounds : Nat} {s : Session σ} {es : List Event} {p : Progress σ (Except RunError Unit)}
    (hcourse : StartCourse h settings args rounds s es p) {before after : List Event} {c : Command}
    {answer : Except IoError Pid} (heq : es = before ++ .spawn c answer :: after) :
    ∃ stages rest, before = stages ++ rest ∧
      Stage.PassInTurn settings args Stage.order stages := by
  cases hcourse with
  | @failed _ _ _ es es' e s' horder hearlier hfails =>
    -- a failed start has started nothing
    have hmem : .spawn c answer ∈ es ++ es' := by
      rw [heq]
      exact List.mem_append_right _ List.mem_cons_self
    have hnone : (Event.spawn c answer).command? = none := by
      rcases List.mem_append.mp hmem with hmem | hmem
      · exact hearlier.command?_eq_none _ hmem
      · exact hfails.command?_eq_none _ hmem
    cases hnone
  | @ran es es' inv identity s₁ hstages hparse hdevice hleads hregistry =>
    rcases List.append_eq_append_iff.mp heq with ⟨mid, hbefore, -⟩ | ⟨mid, hes, hmid⟩
    · -- the start stands behind the calls of the stages
      exact ⟨es, mid, hbefore, hstages⟩
    · cases mid with
      | nil =>
        rw [List.append_nil] at hes
        exact ⟨es, [], by rw [List.append_nil, hes], hstages⟩
      | cons e mid =>
        -- the start would be one of the calls of the stages
        obtain ⟨rfl, -⟩ := List.cons.inj hmid
        have hmem : .spawn c answer ∈ es := by
          rw [hes]
          exact List.mem_append_right _ List.mem_cons_self
        cases hstages.command?_eq_none _ hmem

/-- Up to the look at the device nothing changes that a look does not change, and without the
device nothing else is done. -/
theorem Session.followCommandLine_changes {h : Host σ} {settings : Settings} {args : List String}
    {s : Session σ} {rounds : Nat} {τ : Type} {files : σ → τ}
    (hstat : ∀ path x, files (h.stat path x).2 = files x)
    (hchanged : files (s.followCommandLine h settings args rounds).session.host ≠ files s.host) :
    settings.validate = .ok () ∧ ∃ inv identity later,
      Invocation.parse .plugin args = .ok inv ∧
      s.Leads (.stat inv.device (.ok identity) :: later)
        (s.followCommandLine h settings args rounds).session := by
  cases hvalid : settings.validate with
  | error fault =>
    rw [followCommandLine_of_fault hvalid] at hchanged
    -- the host was not asked for anything
    exact absurd rfl hchanged
  | ok _ =>
    cases hparse : Invocation.parse .plugin args with
    | error e =>
      rw [followCommandLine_of_usage hvalid hparse] at hchanged
      exact absurd rfl hchanged
    | ok inv =>
      rw [followCommandLine_of_parsed hvalid hparse] at hchanged ⊢
      rcases hlook : (s.tell (.runningOn platform inv.mode)).stat h inv.device with
        ⟨errno | identity, s₁⟩
      · -- the look is all that was done
        have hhost : s₁.host = (h.stat inv.device s.host).2 :=
          (congrArg (fun answered => answered.2.host) hlook).symm
        rw [followInvocation_of_error hlook, hhost, hstat] at hchanged
        exact absurd rfl hchanged
      · obtain ⟨later, hleads, -⟩ := followInvocation_of_ok hvalid hparse hlook rounds
        exact ⟨rfl, inv, identity, later, rfl, hleads⟩

/-! ### The law of starts -/

/-- What holds of a start and its calls, or of as much of it as there is after some rounds. -/
structure StartLaw (h : Host σ) (settings : Settings) (args : List String) (s : Session σ)
    (rounds : Nat) (es : List Event) : Prop where
  /-- The start returns what the followed one does. -/
  returned : s.runCommandLine h settings args rounds =
    (s.followCommandLine h settings args rounds).returned
  /-- The first stage that fails decides, and nothing of a later stage has happened. -/
  course : StartCourse h settings args rounds s es (s.followCommandLine h settings args rounds)
  /-- What is started is started behind the last stage. -/
  spawn_gated : ∀ before c answer after, es = before ++ .spawn c answer :: after →
    ∃ stages rest, before = stages ++ rest ∧
      Stage.PassInTurn settings args Stage.order stages
  /-- Where a look changes no files, they change only if the settings and the command line were
  right and the device was found. -/
  files_gated : ∀ {τ : Type} (files : σ → τ),
    (∀ path x, files (h.stat path x).2 = files x) →
    files (s.followCommandLine h settings args rounds).session.host ≠ files s.host →
      settings.validate = .ok () ∧ ∃ inv identity later,
        Invocation.parse .plugin args = .ok inv ∧
        es = .stat inv.device (.ok identity) :: later
  /-- With settings that are not valid, the command line does not matter. -/
  any_arguments : ∀ fault, settings.validate = .error fault → ∀ args',
    s.followCommandLine h settings args' rounds = s.followCommandLine h settings args rounds

/-- The law of starts holds against every host and after every number of rounds. -/
theorem Session.startLaw (h : Host σ) (settings : Settings) (args : List String) (s : Session σ)
    (rounds : Nat) :
    ∃ es, (s.followCommandLine h settings args rounds).session.trace = s.trace ++ es ∧
      StartLaw h settings args s rounds es := by
  obtain ⟨es, hleads, hcourse⟩ := followCommandLine_course h settings args s rounds
  refine ⟨es, hleads.trace, runCommandLine_eq settings args s rounds, hcourse, ?_, ?_, ?_⟩
  · intro before c answer after heq
    exact hcourse.spawn_gated heq
  · intro τ files hstat hchanged
    obtain ⟨hvalid, inv, identity, later, hparse, hleads'⟩ :=
      followCommandLine_changes hstat hchanged
    exact ⟨hvalid, inv, identity, later, hparse, hleads.unique hleads'⟩
  · intro fault hfault args'
    rw [followCommandLine_of_fault hfault, followCommandLine_of_fault hfault]

-- A look changes no files of the machine that the program is tried on.
example (path : Path) (m : Machine) : (Machine.host.stat path m).2.fs = m.fs := rfl

end NbdAttach
