import NbdAttach.Program.Outcome
import NbdAttach.Proofs.Program.Stages

/-!
# The end of the program

What the program ends with, and when the usage text is shown. `EndingCourse` lists the ways in which
it can end, `Start.endingCourse_of_play` says that there are no others, and everything in
`EndingLaw` is read off them. The main result, `staged_start`, joins this to the law of starts.
-/

namespace NbdAttach

variable {σ : Type}

/-! ### The courses -/

namespace Start

/-- Nothing went wrong: a question was answered, or the run ended well. -/
def EndsWell (start : Start) (h : Host σ) (s : Session σ) (rounds : Nat) : Prop :=
  Request.ofArgs start.args ≠ .attach ∨ ∃ settings, start.settings = .ok settings ∧
    (s.followCommandLine h settings start.args rounds).result? = some (.ok ())

/-- The program found a fault in how it is used. -/
def EndsWithUsage (start : Start) (h : Host σ) (s : Session σ) (rounds : Nat) : Prop :=
  Request.ofArgs start.args = .attach ∧ ∃ settings e, start.settings = .ok settings ∧
    (s.followCommandLine h settings start.args rounds).result? = some (.error (.usage e))

end Start

/-- How the program can end. -/
inductive EndingCourse (start : Start) (h : Host σ) (s : Session σ) (rounds : Nat) :
    Outcome σ → Prop
  | answered {output : String} (hrequest : Request.ofArgs start.args ≠ .attach) :
    EndingCourse start h s rounds { code := 0, output, session := s }
  | noSettings {causes : List String} (hrequest : Request.ofArgs start.args = .attach)
      (hsettings : start.settings = .error causes) :
    EndingCourse start h s rounds { code := 1, session := s.tell (.settingsFailed causes) }
  | ended {settings : Settings} {s' : Session σ} (hrequest : Request.ofArgs start.args = .attach)
      (hsettings : start.settings = .ok settings)
      (hstart : s.followCommandLine h settings start.args rounds = ⟨some (.ok ()), s'⟩) :
    EndingCourse start h s rounds { code := 0, session := s' }
  | failed {settings : Settings} {s' : Session σ} {e : RunError}
      (hrequest : Request.ofArgs start.args = .attach) (hsettings : start.settings = .ok settings)
      (hstart : s.followCommandLine h settings start.args rounds = ⟨some (.error e), s'⟩) :
    EndingCourse start h s rounds {
      code := e.exitStatus
      usageShown := e.isUsage
      session := (s'.tell (.runFailed e)).tell (.failedWithCode e.exitCode) }

namespace Start

variable {start : Start} {h : Host σ} {s : Session σ} {rounds : Nat} {o : Outcome σ}

/-- Where a device is to be attached, no question is answered first. -/
theorem play_of_attach (hrequest : Request.ofArgs start.args = .attach) (h : Host σ)
    (s : Session σ) (rounds : Nat) : start.play h s rounds = start.attach h s rounds := by
  unfold play
  rw [hrequest]

/-- With settings the program ends as the start does. -/
theorem attach_of_ok {settings : Settings} (hsettings : start.settings = .ok settings)
    {result : Except RunError Unit} {s' : Session σ}
    (hstart : s.followCommandLine h settings start.args rounds = ⟨some result, s'⟩) :
    start.attach h s rounds = some (match result with
      | .ok () => { code := 0, session := s' }
      | .error e => {
          code := e.exitStatus
          usageShown := e.isUsage
          session := (s'.tell (.runFailed e)).tell (.failedWithCode e.exitCode) }) := by
  have hrun : s.runCommandLine h settings start.args rounds = some (result, s') := by
    rw [Session.runCommandLine_eq]
    exact Progress.returned_eq_some_iff.mpr hstart
  unfold attach
  rw [hsettings]
  dsimp only
  rw [hrun]
  cases result <;> rfl

/-- A start that does not return keeps the program from ending. -/
theorem attach_of_none {settings : Settings} (hsettings : start.settings = .ok settings)
    (hstart : (s.followCommandLine h settings start.args rounds).result? = none) :
    start.attach h s rounds = none := by
  have hrun : s.runCommandLine h settings start.args rounds = none := by
    rw [Session.runCommandLine_eq, Progress.returned, hstart, Option.map_none]
  unfold attach
  rw [hsettings]
  dsimp only
  rw [hrun]

/-- The program ends by one of the courses. -/
theorem endingCourse_of_play (hplay : start.play h s rounds = some o) :
    EndingCourse start h s rounds o := by
  cases hrequest : Request.ofArgs start.args with
  | help =>
    rw [play, hrequest] at hplay
    cases hplay
    exact .answered (by rw [hrequest]; decide)
  | version =>
    rw [play, hrequest] at hplay
    cases hplay
    exact .answered (by rw [hrequest]; decide)
  | attach =>
    rw [play_of_attach hrequest] at hplay
    cases hsettings : start.settings with
    | error causes =>
      rw [attach, hsettings] at hplay
      cases hplay
      exact .noSettings hrequest hsettings
    | ok settings =>
      -- either the start has not returned yet, or it has failed, or it has ended well
      rcases hstart : s.followCommandLine h settings start.args rounds with ⟨_ | e | _, s'⟩
      · rw [attach_of_none hsettings (by rw [hstart])] at hplay
        cases hplay
      · rw [attach_of_ok hsettings hstart] at hplay
        cases hplay
        exact .failed hrequest hsettings hstart
      · rw [attach_of_ok hsettings hstart] at hplay
        cases hplay
        exact .ended hrequest hsettings hstart

end Start

/-- The notices that are shown, each on a line of its own. -/
def Outcome.shownNotices (o : Outcome σ) (filter : LogFilter) : String :=
  String.join ((o.noticesAtTerminal.filter filter.shows).map fun n => n.shown ++ "\n")

namespace EndingCourse

variable {start : Start} {h : Host σ} {s : Session σ} {rounds : Nat} {o : Outcome σ}

/-- The status tells whether all went well, in every course. -/
theorem code (hcourse : EndingCourse start h s rounds o) :
    (start.EndsWell h s rounds ∧ o.code = 0) ∨ (¬start.EndsWell h s rounds ∧ o.code = 1) := by
  cases hcourse with
  | answered hrequest => exact Or.inl ⟨Or.inl hrequest, rfl⟩
  | noSettings hrequest hsettings =>
    refine Or.inr ⟨?_, rfl⟩
    -- this is no question, and there are no settings that a run could have ended well with
    rintro (hother | ⟨settings, hok, -⟩)
    · exact hother hrequest
    · rw [hsettings] at hok
      cases hok
  | ended hrequest hsettings hstart =>
    exact Or.inl ⟨Or.inr ⟨_, hsettings, by rw [hstart]⟩, rfl⟩
  | @failed settings s' e hrequest hsettings hstart =>
    refine Or.inr ⟨?_, e.exitStatus_eq⟩
    -- the settings are the ones that the run has failed with
    rintro (hother | ⟨settings', hok, hresult⟩)
    · exact hother hrequest
    · obtain rfl := Except.ok.inj (hsettings.symm.trans hok)
      rw [hstart] at hresult
      cases hresult

/-- The text is shown in one course only, and for one kind of error. -/
theorem usageShown_iff (hcourse : EndingCourse start h s rounds o) :
    o.usageShown = true ↔ start.EndsWithUsage h s rounds := by
  cases hcourse with
  | answered hrequest =>
    refine iff_of_false Bool.false_ne_true ?_
    rintro ⟨hattach, -⟩
    exact hrequest hattach
  | noSettings hrequest hsettings =>
    refine iff_of_false Bool.false_ne_true ?_
    rintro ⟨-, settings, e, hok, -⟩
    rw [hsettings] at hok
    cases hok
  | ended hrequest hsettings hstart =>
    refine iff_of_false Bool.false_ne_true ?_
    rintro ⟨-, settings, e, hok, hresult⟩
    -- these settings are those of the run, which has ended well
    obtain rfl := Except.ok.inj (hsettings.symm.trans hok)
    rw [hstart] at hresult
    cases hresult
  | @failed settings s' e hrequest hsettings hstart =>
    constructor
    · intro husage
      -- only one kind of error asks for the text
      obtain ⟨fault, rfl⟩ : ∃ fault, e = .usage fault := by
        cases e with
        | usage fault => exact ⟨fault, rfl⟩
        | _ => cases husage
      exact ⟨hrequest, settings, fault, hsettings, by rw [hstart]⟩
    · rintro ⟨-, settings', fault, hok, hresult⟩
      obtain rfl := Except.ok.inj (hsettings.symm.trans hok)
      rw [hstart] at hresult
      cases hresult
      rfl

end EndingCourse

/-- What holds of the end of the program. -/
structure EndingLaw (start : Start) (h : Host σ) (s : Session σ) (rounds : Nat) : Prop where
  /-- A question is answered at once, and nothing is asked of the host. -/
  answers : Request.ofArgs start.args ≠ .attach →
    ∃ o, start.play h s rounds = some o ∧ o.session = s
  /-- Without settings the program ends at once, and nothing is asked of the host. -/
  settingsFail : Request.ofArgs start.args = .attach → ∀ causes, start.settings = .error causes →
    ∃ o, start.play h s rounds = some o ∧ o.session.trace = s.trace ∧ o.session.host = s.host
  /-- With settings the program ends when the start does. -/
  attaches : Request.ofArgs start.args = .attach → ∀ settings, start.settings = .ok settings →
    ((∃ o, start.play h s rounds = some o) ↔
      ∃ result, (s.followCommandLine h settings start.args rounds).result? = some result)
  code_eq_zero_iff : ∀ o, start.play h s rounds = some o →
    (o.code = 0 ↔ start.EndsWell h s rounds)
  code_eq_one_iff : ∀ o, start.play h s rounds = some o →
    (o.code = 1 ↔ ¬start.EndsWell h s rounds)
  /-- The usage text follows the notices where the program is used wrongly, and nowhere else. -/
  usage : ∀ o filter, start.play h s rounds = some o → start.EndsWithUsage h s rounds →
    (o.report filter).errors = o.shownNotices filter ++ usageText
  noUsage : ∀ o filter, start.play h s rounds = some o → ¬start.EndsWithUsage h s rounds →
    (o.report filter).errors = o.shownNotices filter

/-- The law of endings, read off the courses. -/
theorem Start.endingLaw (start : Start) (h : Host σ) (s : Session σ) (rounds : Nat) :
    EndingLaw start h s rounds where
  answers := by
    intro hrequest
    unfold play
    cases hanswer : Request.ofArgs start.args with
    | help => exact ⟨_, rfl, rfl⟩
    | version => exact ⟨_, rfl, rfl⟩
    | attach => exact absurd hanswer hrequest
  settingsFail := by
    intro hrequest causes hsettings
    rw [play_of_attach hrequest, attach, hsettings]
    exact ⟨_, rfl, Session.trace_tell _ _, rfl⟩
  attaches := by
    intro hrequest settings hsettings
    rw [play_of_attach hrequest]
    rcases hstart : s.followCommandLine h settings start.args rounds with ⟨_ | result, s'⟩
    · rw [attach_of_none hsettings (by rw [hstart])]
      simp
    · rw [attach_of_ok hsettings hstart]
      simp
  code_eq_zero_iff := by
    intro o hplay
    -- the two statuses exclude each other
    rcases (endingCourse_of_play hplay).code with ⟨hwell, hcode⟩ | ⟨hwell, hcode⟩
    · exact iff_of_true hcode hwell
    · exact iff_of_false (by rw [hcode]; decide) hwell
  code_eq_one_iff := by
    intro o hplay
    rcases (endingCourse_of_play hplay).code with ⟨hwell, hcode⟩ | ⟨hwell, hcode⟩
    · exact iff_of_false (by rw [hcode]; decide) (not_not.mpr hwell)
    · exact iff_of_true hcode hwell
  usage := by
    intro o filter hplay husage
    have hshown : o.usageShown = true := (endingCourse_of_play hplay).usageShown_iff.mpr husage
    unfold Outcome.report
    rw [hshown]
    rfl
  noUsage := by
    intro o filter hplay husage
    have hshown : o.usageShown = false := by
      rw [← Bool.not_eq_true, (endingCourse_of_play hplay).usageShown_iff]
      exact husage
    unfold Outcome.report
    rw [hshown]
    exact String.append_empty

/-! ### The theorem -/

/-- **The stages of a start.** Against every host and after every number of rounds, a start is
decided by the first of its stages that fails, with nothing done for a later one, and the program
ends well exactly where a question was answered or the run ended well. -/
theorem staged_start (h : Host σ) (s : Session σ) (rounds : Nat) :
    (∀ settings args, ∃ es,
      (s.followCommandLine h settings args rounds).session.trace = s.trace ++ es ∧
        StartLaw h settings args s rounds es) ∧
      ∀ start : Start, EndingLaw start h s rounds :=
  ⟨fun settings args => s.startLaw h settings args rounds,
    fun start => start.endingLaw h s rounds⟩

end NbdAttach
