import NbdAttach.Proofs.Adversary
import NbdAttach.Proofs.CommandLine.Respelling
import NbdAttach.Proofs.Program.Ending

/-!
# Questions on the command line

The program looks for a question among its options before anything else is done, and the command
line is read only afterwards, by rules of its own. Both have to agree on where the options end:
otherwise a bucket could be taken for a question, or a question be refused as a flag.

* `Request.scanned_eq_flagRun` says that they agree: what is looked through is the flag run.
* `Start.Answers` says that the program does nothing but show a text, whatever the settings are.
  `Start.answers_iff_isFirst` says when: the first question of the flag run decides.
* `Outcome.ofRun` is how the program ends when it runs the command line instead.
-/

namespace NbdAttach

/-! ### Questions -/

/-- The text that a token asks for. -/
inductive Asks : String → String → Prop
  | short : Asks "-h" usageText
  | long : Asks "--help" usageText
  | version : Asks "--version" versionText

/-- Is the token, as a whole, one of the questions? -/
def IsQuestion (token : String) : Prop :=
  ∃ text, Asks token text

theorem IsQuestion.begins_nbd {token : String} (hquestion : IsQuestion token) :
    begins "--nbd" token = false := by
  obtain ⟨_, _ | _ | _⟩ := hquestion <;> decide

/-- The switch of a server flag, with whatever value, is no question. -/
theorem not_isQuestion_serverFlag (value : String) : ¬IsQuestion ("--nbd-flag=" ++ value) := by
  intro hquestion
  have hextra : begins "--nbd" ("--nbd-flag=" ++ value) = true :=
    begins_of_begins_append "--nbd" "-flag=" (begins_append "--nbd-flag=" value)
  rw [hquestion.begins_nbd] at hextra
  cases hextra

namespace Request

/-- What the program shows where this is asked for. -/
def answer? : Request → Option String
  | .help => some usageText
  | .version => some versionText
  | .attach => none

/-- What a token asks for is what its request is answered with. -/
theorem asks_iff {token text : String} :
    Asks token text ↔ (ofToken? token).bind answer? = some text := by
  constructor
  · rintro (_ | _ | _) <;> rfl
  · intro hanswer
    unfold ofToken? at hanswer
    split at hanswer
    · next htoken =>
      cases hanswer
      rcases htoken with rfl | rfl
      · exact .short
      · exact .long
    · split at hanswer
      · next htoken =>
        cases hanswer
        rw [htoken]
        exact .version
      · cases hanswer

/-- The tokens that are passed over are those that ask for nothing. -/
theorem ofToken?_eq_none_iff {token : String} : ofToken? token = none ↔ ¬IsQuestion token := by
  simp only [IsQuestion, asks_iff, not_exists]
  unfold ofToken?
  split
  · simp [answer?]
  · split <;> simp [answer?]

/-- The scan goes token by token, and stops at the first that is not in the flag run. -/
theorem scanned_cons (token : String) (rest : List String) :
    scanned (token :: rest) = if inFlagRun token then token :: scanned rest else [] := by
  rw [scanned, inFlagRun, isDashed]
  split
  · next heq =>
    -- the terminator ends the scan, as it ends the flag run
    obtain rfl : token = terminator := String.toList_inj.mp heq
    rfl
  · next chars hother heq =>
    -- the token is longer than `--`, or shorter
    have hne : token ≠ terminator := by
      rintro rfl
      exact hother (List.cons.inj heq).2.symm
    simp [heq, hne]
  · next hother =>
    -- a token without a dash in front ends both
    have hplain : (token.toList.head? == some '-') = false := by
      cases hchars : token.toList with
      | nil => rfl
      | cons c chars =>
        have hc : c ≠ '-' := by
          rintro rfl
          exact hother chars hchars
        simp [hc]
    rw [hplain]
    rfl

/-- **One flag run.** What is looked through for a question is what the command line is read by. -/
theorem scanned_eq_flagRun (args : List String) : scanned args = flagRun args := by
  induction args with
  | nil => rfl
  | cons token rest ih => rw [scanned_cons, ih, flagRun, flagRun, List.takeWhile_cons]

/-- The first question decides. -/
theorem findSome?_ofToken?_iff {tokens : List String} {text : String} :
    (tokens.findSome? ofToken?).bind answer? = some text ↔
      ∃ token, IsFirst IsQuestion tokens token ∧ Asks token text := by
  induction tokens with
  | nil => simp [isFirst_nil]
  | cons token rest ih =>
    rw [List.findSome?_cons]
    simp only [isFirst_cons]
    cases htoken : ofToken? token with
    | none =>
      -- the decision is left to the rest
      simp [ofToken?_eq_none_iff.mp htoken, ih]
    | some request =>
      have hquestion : IsQuestion token := by
        by_contra hno
        rw [ofToken?_eq_none_iff.mpr hno] at htoken
        cases htoken
      have hasks : Asks token text ↔ request.answer? = some text := by
        rw [asks_iff, htoken, Option.bind_some]
      simp [hquestion, hasks]

/-- The answer is that to the first token of the flag run that asks for something. -/
theorem answer?_ofArgs (args : List String) :
    (ofArgs args).answer? = ((flagRun args).findSome? ofToken?).bind answer? := by
  rw [ofArgs, scanned_eq_flagRun]
  cases (flagRun args).findSome? ofToken? <;> rfl

theorem answer?_eq_none_iff {request : Request} : request.answer? = none ↔ request = .attach := by
  cases request <;> simp [answer?]

end Request

/-! ### Answers -/

namespace Start

/-- The program shows the text and ends well. Nothing is asked of the host, and it makes no
difference what the settings are or what the environment says about the log. -/
def Answers (args : List String) (text : String) : Prop :=
  ∀ (σ : Type) (h : Host σ) (s : Session σ) (rounds : Nat) (start : Start), start.args = args →
    start.play h s rounds = some { code := 0, output := text, session := s }

/-- An answer does not depend on anything but the command line. -/
theorem answers_of_answer? {args : List String} {text : String}
    (hanswer : (Request.ofArgs args).answer? = some text) : Answers args text := by
  rintro σ h s rounds start rfl
  unfold play
  cases hrequest : Request.ofArgs start.args <;> rw [hrequest] at hanswer <;> cases hanswer <;> rfl

/-- Without settings there is no answer where a device is to be attached. -/
theorem not_answers_of_attach {args : List String} (hrequest : Request.ofArgs args = .attach)
    (text : String) : ¬Answers args text := by
  intro hanswers
  -- settings that cannot be read end the program with a failure
  have hplay := hanswers _ .adversary { host := [] } 0
    { args, settingsFile? := some (⟨""⟩, .error .nulInPath) } rfl
  rw [play_of_attach hrequest] at hplay
  have hcode := congrArg (Option.map Outcome.code) hplay
  cases hcode

/-- The program answers exactly what the request of its command line is answered with. -/
theorem answers_iff {args : List String} {text : String} :
    Answers args text ↔ (Request.ofArgs args).answer? = some text := by
  refine ⟨fun hanswers => ?_, answers_of_answer?⟩
  cases hanswer : (Request.ofArgs args).answer? with
  | none =>
    have hrequest := Request.answer?_eq_none_iff.mp hanswer
    exact absurd hanswers (not_answers_of_attach hrequest text)
  | some text' =>
    -- both texts are shown
    have hplay := hanswers _ .adversary { host := [] } 0 { args } rfl
    rw [answers_of_answer? hanswer _ .adversary { host := [] } 0 { args } rfl] at hplay
    exact congrArg (Option.map Outcome.output) hplay

/-- The first question among the options decides. -/
theorem answers_iff_isFirst {args : List String} {text : String} :
    Answers args text ↔ ∃ token, IsFirst IsQuestion (flagRun args) token ∧ Asks token text := by
  rw [answers_iff, Request.answer?_ofArgs, Request.findSome?_ofToken?_iff]

/-- There is an answer if and only if there is a question in the flag run. -/
theorem exists_answers_iff {args : List String} :
    (∃ text, Answers args text) ↔ ∃ token ∈ flagRun args, IsQuestion token := by
  -- where there is a question there is a first one
  rw [← exists_isFirst_iff]
  simp only [answers_iff_isFirst]
  constructor
  · rintro ⟨text, token, hfirst, -⟩
    exact ⟨token, hfirst⟩
  · rintro ⟨token, hfirst⟩
    obtain ⟨text, hasks⟩ := hfirst.holds
    exact ⟨text, token, hfirst, hasks⟩

/-- Command lines with the same flag run have the same answer. -/
theorem answers_congr {args args' : List String} (hrun : flagRun args = flagRun args')
    (text : String) : Answers args text ↔ Answers args' text := by
  rw [answers_iff_isFirst, answers_iff_isFirst, hrun]

/-- What ends the flag run has no part in the answer, nor has anything behind it. -/
theorem answers_append {run rest : List String} (hrun : ∀ token ∈ run, IsRunToken token)
    (hrest : flagRun rest = []) (text : String) :
    Answers (run ++ rest) text ↔ Answers run text := by
  refine answers_congr ?_ text
  calc flagRun (run ++ rest)
    _ = run ++ flagRun rest := flagRun_append_flagRun hrun rest
    _ = run ++ flagRun [] := by rw [hrest]; rfl
    _ = flagRun (run ++ []) := (flagRun_append_flagRun hrun []).symm
    _ = flagRun run := by rw [List.append_nil]

/-- An option that is no question has no part in the answer. -/
theorem answers_insert {token : String} (htoken : IsRunToken token) (hno : ¬IsQuestion token)
    (before after : List String) (text : String) :
    Answers (before ++ token :: after) text ↔ Answers (before ++ after) text := by
  have hfind : (flagRun (before ++ token :: after)).findSome? Request.ofToken? =
      (flagRun (before ++ after)).findSome? Request.ofToken? := by
    -- along the tokens before it, of which one may be the end of the flag run already
    induction before with
    | nil =>
      have hcons : flagRun (token :: after) = token :: flagRun after :=
        List.takeWhile_cons_of_pos (inFlagRun_iff.mpr htoken)
      rw [List.nil_append, List.nil_append, hcons, List.findSome?_cons,
        Request.ofToken?_eq_none_iff.mpr hno]
    | cons first before ih =>
      simp only [List.cons_append, flagRun, List.takeWhile_cons] at ih ⊢
      split
      · rw [List.findSome?_cons, List.findSome?_cons, ih]
      · rfl
  rw [answers_iff, answers_iff, Request.answer?_ofArgs, Request.answer?_ofArgs, hfind]

end Start

/-! ### Runs -/

/-- How the program ends that has run a command line. -/
def Outcome.ofRun {σ : Type} : Except RunError Unit × Session σ → Outcome σ
  | (.ok (), s) => { code := 0, session := s }
  | (.error e, s) => {
      code := e.exitStatus
      usageShown := e.isUsage
      session := (s.tell (.runFailed e)).tell (.failedWithCode e.exitCode) }

variable {σ : Type}

/-- To attach is to run the command line, and to end as it says. -/
theorem Start.attach_eq_map {start : Start} {settings : Settings}
    (hsettings : start.settings = .ok settings) (h : Host σ) (s : Session σ) (rounds : Nat) :
    start.attach h s rounds =
      (s.runCommandLine h settings start.args rounds).map Outcome.ofRun := by
  unfold attach
  rw [hsettings]
  dsimp only
  rcases s.runCommandLine h settings start.args rounds with _ | ⟨_ | _, s'⟩ <;> rfl

/-- The program loads its settings, and runs the command line with them, as it is. -/
structure HandedOn (start : Start) (h : Host σ) (s : Session σ) (rounds : Nat) : Prop where
  noSettings : ∀ causes, start.settings = .error causes →
    start.play h s rounds = some { code := 1, session := s.tell (.settingsFailed causes) }
  runs : ∀ settings, start.settings = .ok settings → start.play h s rounds =
    (s.runCommandLine h settings start.args rounds).map Outcome.ofRun

/-- Where no question is to be answered, the command line is handed on. -/
theorem handedOn_of_attach {start : Start} (hrequest : Request.ofArgs start.args = .attach)
    (h : Host σ) (s : Session σ) (rounds : Nat) : HandedOn start h s rounds where
  noSettings := by
    intro causes hsettings
    rw [Start.play_of_attach hrequest, Start.attach, hsettings]
  runs := by
    intro settings hsettings
    rw [Start.play_of_attach hrequest, Start.attach_eq_map hsettings]

/-- A token that is not in the flag run is never refused as a flag, only as an operand. -/
theorem Invocation.operandFault_of_notMem {table : FlagTable} {args : List String} {token : String}
    (hparse : parse table args = .error (.invalidFlag token)) (hnotMem : token ∉ flagRun args) :
    OperandFault (operands args) (.invalidFlag token) := by
  cases parse_eq_error_iff.mp hparse with
  | extra hfirst => exact absurd hfirst.mem hnotMem
  | operands _ hfault => exact hfault
  | flag _ _ hfirst hfault =>
    -- the error names the token that it is about
    cases hfault with
    | unspelled => exact absurd hfirst.mem hnotMem
    | undeclared => exact absurd hfirst.mem hnotMem

/-! ### The theorem -/

/-- What holds of the questions on a command line. -/
structure QuestionLaw (args : List String) : Prop where
  /-- What is looked through is what the command line is read by. -/
  scanned_eq : Request.scanned args = flagRun args
  /-- It is the flag run of the one way to divide the command line, -/
  divides_iff : ∀ run rest, Divides args run rest ↔
    run = Request.scanned args ∧ rest = operands args
  /-- and it decides, with the operands, which command lines are accepted, -/
  accepts_iff : ∀ table, (∃ inv, Invocation.parse table args = .ok inv) ↔
    RightLine table (Request.scanned args) (operands args)
  /-- and what is said about the others. -/
  refuses_iff : ∀ table e, Invocation.parse table args = .error e ↔
    LineFault table (Request.scanned args) (operands args) e
  /-- There is an answer exactly where one of the options is a question. -/
  exists_answers_iff : (∃ text, Start.Answers args text) ↔ ∃ token ∈ flagRun args, IsQuestion token
  /-- The first question decides what the answer is. -/
  answers_iff : ∀ text, Start.Answers args text ↔
    ∃ token, IsFirst IsQuestion (flagRun args) token ∧ Asks token text
  /-- Without an answer the command line is handed on as it is. -/
  handed_on : (∀ text, ¬Start.Answers args text) → ∀ (σ : Type) (h : Host σ) (s : Session σ)
    (rounds : Nat) (start : Start), start.args = args → HandedOn start h s rounds
  /-- Then no question is among the tokens that are read as flags, -/
  no_flag : (∀ text, ¬Start.Answers args text) → ∀ token ∈ flagRun args, ¬IsQuestion token
  /-- and none is refused as a flag. -/
  not_refused : (∀ text, ¬Start.Answers args text) → ∀ table token, IsQuestion token →
    Invocation.parse table args = .error (.invalidFlag token) →
    OperandFault (operands args) (.invalidFlag token)
  /-- Behind `--` there are no questions, -/
  terminated : ∀ rest text, Start.Answers (flagRun args ++ "--" :: rest) text ↔
    Start.Answers (flagRun args) text
  /-- and there are none from the bucket on, -/
  operands : ∀ bucket rest text, begins "-" bucket = false →
    (Start.Answers (flagRun args ++ bucket :: rest) text ↔ Start.Answers (flagRun args) text)
  /-- nor is the value of an extra flag one. -/
  value : ∀ value rest text, Start.Answers (args ++ ("--nbd-flag=" ++ value) :: rest) text ↔
    Start.Answers (args ++ rest) text

/-- **Questions are looked for in the flag run.** -/
theorem question_law (args : List String) : QuestionLaw args where
  scanned_eq := Request.scanned_eq_flagRun args
  divides_iff run rest := by
    rw [Request.scanned_eq_flagRun]
    constructor
    · intro hdivides
      -- a command line is divided in one way only
      exact (divides_flagRun args).unique hdivides
    · rintro ⟨rfl, rfl⟩
      exact divides_flagRun args
  accepts_iff table := by
    rw [Request.scanned_eq_flagRun]
    exact Invocation.parse_accepts_iff
  refuses_iff table e := by
    rw [Request.scanned_eq_flagRun]
    exact Invocation.parse_eq_error_iff
  exists_answers_iff := Start.exists_answers_iff
  answers_iff _ := Start.answers_iff_isFirst
  handed_on := by
    rintro hnone σ h s rounds start rfl
    -- without an answer the request is to attach
    refine handedOn_of_attach (Request.answer?_eq_none_iff.mp ?_) h s rounds
    refine Option.eq_none_iff_forall_ne_some.mpr fun text hanswer => ?_
    exact hnone text (Start.answers_of_answer? hanswer)
  no_flag := by
    intro hnone token htoken hquestion
    obtain ⟨text, hanswers⟩ := Start.exists_answers_iff.mpr ⟨token, htoken, hquestion⟩
    exact hnone text hanswers
  not_refused := by
    intro hnone table token hquestion hparse
    -- a question among the flags would have been answered
    refine Invocation.operandFault_of_notMem hparse fun htoken => ?_
    obtain ⟨text, hanswers⟩ := Start.exists_answers_iff.mpr ⟨token, htoken, hquestion⟩
    exact hnone text hanswers
  terminated rest text := Start.answers_append (divides_flagRun args).flags rfl text
  operands := by
    intro bucket rest text hbucket
    have hrest : flagRun (bucket :: rest) = [] := flagRun_of_plain (by simpa using hbucket)
    exact Start.answers_append (divides_flagRun args).flags hrest text
  value := by
    intro value rest text
    have htoken : IsRunToken ("--nbd-flag=" ++ value) :=
      (@isRunToken_switch "nbd-flag" (by decide) value).2
    exact Start.answers_insert htoken (not_isQuestion_serverFlag value) args rest text

-- The first of two questions is answered; behind the bucket neither of them is.
example : Request.ofArgs ["-f", "--version", "--help"] = .version := rfl
example : Request.ofArgs ["-f", "bucket", "--help"] = .attach := rfl

end NbdAttach
