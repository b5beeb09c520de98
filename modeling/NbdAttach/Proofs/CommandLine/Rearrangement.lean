import NbdAttach.Proofs.CommandLine.ServerArgv

/-!
# Rearranged command lines

The order of the tokens in a flag run matters little. Which of them can be moved past which follows
from what a command line is read for (`Invocation.parse_congr`): the tokens of each class in their
order, and whether `-f` and `-d` are there at all. This holds of what is wrong with a line as well
as of what it says, because the extras are checked before the flags, and `-f` and `-d` are never
wrong (`Invocation.readFlags_filter`).

`RearrangementLaw` has the three ways to rearrange a flag run that follow.
-/

namespace NbdAttach

/-! ### Filters -/

section Filters

variable {α β : Type} {p q : α → Bool} {xs ys : List α}

/-- What agrees after a filter agrees after a finer one. -/
theorem filter_eq_of_imp (hq : xs.filter q = ys.filter q) (hpq : ∀ x, p x = true → q x = true) :
    xs.filter p = ys.filter p := by
  have hfiner : ∀ zs : List α, zs.filter p = (zs.filter q).filter p := by
    intro zs
    rw [List.filter_filter]
    refine List.filter_congr fun x _ => ?_
    cases hx : p x with
    | true => rw [hpq x hx, Bool.and_self]
    | false => rfl
  rw [hfiner xs, hq, ← hfiner ys]

theorem mem_iff_of_filter_eq (hq : xs.filter q = ys.filter q) {x : α} (hx : q x = true) :
    x ∈ xs ↔ x ∈ ys := by
  have hmem := congrArg (x ∈ ·) hq
  simpa [List.mem_filter, hx] using hmem

/-- What has no image can be left out before the images are taken. -/
theorem filterMap_filter_of_none {f : α → Option β} (hf : ∀ x, p x = false → f x = none)
    (xs : List α) : (xs.filter p).filterMap f = xs.filterMap f := by
  rw [List.filterMap_filter]
  refine List.filterMap_congr fun x _ => ?_
  cases hx : p x with
  | true => rfl
  | false => exact (hf x hx).symm

/-- Lists that agree but for elements without an image have the same images. -/
theorem filterMap_eq_of_filter_eq {f : α → Option β} (hf : ∀ x, p x = false → f x = none)
    (hp : xs.filter p = ys.filter p) : xs.filterMap f = ys.filterMap f := by
  rw [← filterMap_filter_of_none hf xs, hp, filterMap_filter_of_none hf ys]

end Filters

/-! ### What a flag run says -/

/-- The tokens that begin with `--nbd` and are none of the extras. -/
def badExtras (run : List String) : List String :=
  run.filter fun token => Token.read token == .badExtra

/-- Two flag runs say the same: each class of tokens is the same, and so are the modes. -/
structure SaysSame (run run' : List String) : Prop where
  badExtras : badExtras run = badExtras run'
  flagExtras : flagExtras run = flagExtras run'
  paramExtras : paramExtras run = paramExtras run'
  pluginFlags : pluginFlags run = pluginFlags run'
  foreground : "-f" ∈ run ↔ "-f" ∈ run'
  debug : "-d" ∈ run ↔ "-d" ∈ run'

/-- Behind a flag run this is not taken for more of it. -/
def EndsRun (rest : List String) : Prop :=
  rest = [] ∨ ∃ token more, rest = token :: more ∧ (token = "--" ∨ begins "-" token = false)

/-- The first token of such a rest is none of a flag run. -/
theorem EndsRun.not_inFlagRun {rest : List String} (hrest : EndsRun rest) :
    ∀ token ∈ rest.head?, inFlagRun token = false := by
  rcases hrest with rfl | ⟨token, more, rfl, htoken⟩
  · nofun
  · rintro _ ⟨rfl⟩
    refine Bool.eq_false_iff.mpr fun hin => ?_
    obtain ⟨hdash, hne⟩ := inFlagRun_iff.mp hin
    rcases htoken with rfl | hplain
    · exact hne rfl
    · rw [hdash] at hplain
      cases hplain

/-- The flag run of a line ends where the rest begins. -/
theorem flagRun_append {run rest : List String} (hrun : ∀ token ∈ run, IsRunToken token)
    (hrest : EndsRun rest) : flagRun (run ++ rest) = run := by
  rw [flagRun_append_flagRun hrun, flagRun_eq_nil hrest.not_inFlagRun, List.append_nil]

/-! ### Modes are never wrong -/

/-- Of a named flag the plugin is told. -/
theorem Flag.param?_ne_none {table : FlagTable} {token name : String} {value? : Option String}
    {flag : Flag} (hread : Flag.ofNamed table token name value? = .ok flag) :
    flag.param? ≠ none := by
  unfold ofNamed at hread
  split at hread
  · -- a switch that is on, with or without a value
    cases value? with
    | none =>
      obtain rfl := Except.ok.inj hread
      nofun
    | some value =>
      dsimp only at hread
      split at hread
      · obtain rfl := Except.ok.inj hread
        nofun
      · cases hread
  · cases value? with
    | none => cases hread
    | some value =>
      obtain rfl := Except.ok.inj hread
      nofun
  · cases hread

/-- The flags of which the plugin is not told are those of the two tokens that only switch modes. -/
theorem Flag.param?_eq_none_iff {table : FlagTable} {token : String} {flag : Flag}
    (hread : Flag.read table token = .ok flag) :
    flag.param? = none ↔ token = "-f" ∨ token = "-d" := by
  constructor
  · intro hnone
    rw [Flag.read] at hread
    split at hread
    · next hforeground =>
      cases Token.reads_iff.mpr hforeground
      exact Or.inl rfl
    · next hdebug =>
      cases Token.reads_iff.mpr hdebug
      exact Or.inr rfl
    · -- a named flag is told to the plugin
      exact absurd hnone (param?_ne_none hread)
    · cases hread
  · rintro (rfl | rfl)
    · obtain rfl := Except.ok.inj hread
      rfl
    · obtain rfl := Except.ok.inj hread
      rfl

namespace Invocation

variable {table : FlagTable}

/-- Without the tokens that switch modes, the same is read without what they mean. -/
theorem readFlags_filter (table : FlagTable) (tokens : List String) :
    readFlags table (tokens.filter fun token => token ≠ "-f" ∧ token ≠ "-d") =
      (readFlags table tokens).map (List.filter fun flag => flag.param?.isSome) := by
  induction tokens with
  | nil => rfl
  | cons token rest ih =>
    by_cases hmode : token = "-f" ∨ token = "-d"
    · -- such a token is always read, and of what it means nothing is told
      have hdropped : (token :: rest).filter (fun token => token ≠ "-f" ∧ token ≠ "-d") =
          rest.filter fun token => token ≠ "-f" ∧ token ≠ "-d" :=
        List.filter_cons_of_neg (by simpa [← not_or] using hmode)
      obtain ⟨flag, hread⟩ : ∃ flag, Flag.read table token = .ok flag := by
        rcases hmode with rfl | rfl <;> exact ⟨_, rfl⟩
      have hparam := (Flag.param?_eq_none_iff hread).mpr hmode
      rw [hdropped, ih]
      simp only [readFlags, hread]
      -- whether the rest is right does not depend on this token
      cases readFlags table rest with
      | error e => rfl
      | ok flags => simp [Except.map, hparam]
    · have hkept : (token :: rest).filter (fun token => token ≠ "-f" ∧ token ≠ "-d") =
          token :: rest.filter fun token => token ≠ "-f" ∧ token ≠ "-d" :=
        List.filter_cons_of_pos (by simpa [← not_or] using hmode)
      rw [hkept]
      simp only [readFlags, ih]
      cases hread : Flag.read table token with
      | error e => rfl
      | ok flag =>
        have hparam : flag.param?.isSome = true := by
          rw [Option.isSome_iff_ne_none, ne_eq, Flag.param?_eq_none_iff hread]
          exact hmode
        cases readFlags table rest with
        | error e => rfl
        | ok flags => simp [Except.map, hparam]

/-- The modes that two runs switch are the same, if the runs say the same. Of `-f` and `-d` the runs
themselves tell, and of the other modes the flags for the plugin. -/
theorem ofFlags_congr {run run' : List String} {flags flags' : List Flag}
    (hsame : SaysSame run run') (hread : readFlags table (flagTokens run) = .ok flags)
    (hread' : readFlags table (flagTokens run') = .ok flags')
    (hflags : flags.filter (fun flag => flag.param?.isSome) =
      flags'.filter fun flag => flag.param?.isSome) :
    Mode.ofFlags flags = Mode.ofFlags flags' := by
  have hmeans := (readFlags_eq_ok_iff begins_of_mem_flagTokens).mp hread
  have hmeans' := (readFlags_eq_ok_iff begins_of_mem_flagTokens).mp hread'
  have hforeground : .foreground ∈ flags ↔ .foreground ∈ flags' := by
    rw [mem_flags_iff_mem_run hmeans (fun _ => means_foreground_iff) rfl,
      mem_flags_iff_mem_run hmeans' (fun _ => means_foreground_iff) rfl, hsame.foreground]
  have hdebug : .debug ∈ flags ↔ .debug ∈ flags' := by
    rw [mem_flags_iff_mem_run hmeans (fun _ => means_debug_iff) rfl,
      mem_flags_iff_mem_run hmeans' (fun _ => means_debug_iff) rfl, hsame.debug]
  -- of a switch the plugin is told, so the filter keeps it
  have hswitch : ∀ name, .switch name ∈ flags ↔ .switch name ∈ flags' := by
    intro name
    have hmem := congrArg (Flag.switch name ∈ ·) hflags
    simpa [List.mem_filter, Flag.param?] using hmem
  have hcontains : ∀ {flag}, (flag ∈ flags ↔ flag ∈ flags') →
      flags.contains flag = flags'.contains flag := by
    intro flag hmem
    rw [Bool.eq_iff_iff, List.contains_iff_mem, List.contains_iff_mem, hmem]
  rw [Mode.ofFlags, Mode.ofFlags, hcontains hforeground, hcontains hdebug,
    hcontains (hswitch "debug"), hcontains (hswitch "readOnly")]

/-- The flags of two runs that say the same are wrong in the same way, or they switch the same modes
and the plugin is told the same. -/
theorem readFlags_congr (table : FlagTable) {run run' : List String} (hsame : SaysSame run run') :
    (∃ e, readFlags table (flagTokens run) = .error e ∧
      readFlags table (flagTokens run') = .error e) ∨
    ∃ flags flags', readFlags table (flagTokens run) = .ok flags ∧
      readFlags table (flagTokens run') = .ok flags' ∧ Mode.ofFlags flags = Mode.ofFlags flags' ∧
      flags.filterMap Flag.param? = flags'.filterMap Flag.param? := by
  -- what is wrong with a run can be told from its flags for the plugin
  have hplugin := congrArg (readFlags table) hsame.pluginFlags
  rw [pluginFlags_eq, pluginFlags_eq, readFlags_filter, readFlags_filter] at hplugin
  cases hread : readFlags table (flagTokens run) with
  | error e =>
    cases hread' : readFlags table (flagTokens run') with
    | error e' =>
      rw [hread, hread'] at hplugin
      obtain rfl : e = e' := Except.error.inj hplugin
      exact Or.inl ⟨e, rfl, rfl⟩
    | ok flags' =>
      rw [hread, hread'] at hplugin
      cases hplugin
  | ok flags =>
    cases hread' : readFlags table (flagTokens run') with
    | error e' =>
      rw [hread, hread'] at hplugin
      cases hplugin
    | ok flags' =>
      rw [hread, hread'] at hplugin
      have hflags := Except.ok.inj hplugin
      have hparams : flags.filterMap Flag.param? = flags'.filterMap Flag.param? :=
        filterMap_eq_of_filter_eq (fun _ => by simp) hflags
      exact Or.inr ⟨flags, flags', rfl, rfl, ofFlags_congr hsame hread hread' hflags, hparams⟩

/-- What a command line is read for: lines whose flag runs say the same are read in the same
way, also where they are wrong. -/
theorem parse_congr (table : FlagTable) {run run' rest : List String}
    (hrun : ∀ token ∈ run, IsRunToken token) (hrun' : ∀ token ∈ run', IsRunToken token)
    (hrest : EndsRun rest) (hsame : SaysSame run run') :
    parse table (run ++ rest) = parse table (run' ++ rest) := by
  -- the first of the wrong extras is the same, for all of them are
  have hbad : badExtra? run = badExtra? run' := by
    rw [badExtra?, badExtra?, ← List.head?_filter, ← List.head?_filter]
    exact congrArg List.head? hsame.badExtras
  have hflags : (run.filterMap fun token => (Token.read token).serverFlag?) =
      run'.filterMap fun token => (Token.read token).serverFlag? :=
    filterMap_eq_of_filter_eq (p := begins "--nbd-flag=")
      (fun _ => value?_eq_none fun _ _ => Token.serverFlag?_read_eq_some_iff) hsame.flagExtras
  have hparams : (run.filterMap fun token => (Token.read token).extraParam?) =
      run'.filterMap fun token => (Token.read token).extraParam? :=
    filterMap_eq_of_filter_eq (p := begins "--nbd-param=")
      (fun _ => value?_eq_none fun _ _ => Token.extraParam?_read_eq_some_iff) hsame.paramExtras
  simp only [parse, flagRun_append hrun hrest, flagRun_append hrun' hrest,
    operands_append hrun rest, operands_append hrun' rest, hbad, hflags, hparams]
  rcases readFlags_congr table hsame with ⟨e, hread, hread'⟩ |
    ⟨flags, flags', hread, hread', hmode, hplugin⟩
  · rw [hread, hread']
  · rw [hread, hread']
    simp only [hmode, hplugin]

/-! ### Rearrangements -/

/-- A wrong extra begins with `--nbd`. -/
theorem begins_of_read_eq_badExtra {token : String}
    (htoken : (Token.read token == .badExtra) = true) : begins "--nbd" token = true :=
  (Token.read_eq_badExtra_iff.mp (beq_iff_eq.mp htoken)).1

theorem badExtras_eq_nil_iff {run : List String} : badExtras run = [] ↔ RightExtras run := by
  rw [← badExtra?_eq_none_iff, badExtra?, List.find?_eq_none, badExtras, List.filter_eq_nil_iff]

section Rearrangements

variable {run run' : List String}

/-- If the extras agree and the other tokens do, the runs say the same. How the two are mixed does
not matter. -/
theorem saysSame_of_extras (hextras : run.filter (begins "--nbd") = run'.filter (begins "--nbd"))
    (hothers : (run.filter fun token => !begins "--nbd" token) =
      run'.filter fun token => !begins "--nbd" token) : SaysSame run run' where
  badExtras := filter_eq_of_imp hextras fun _ => begins_of_read_eq_badExtra
  flagExtras := filter_eq_of_imp hextras fun _ => begins_of_begins_append "--nbd" "-flag="
  paramExtras := filter_eq_of_imp hextras fun _ => begins_of_begins_append "--nbd" "-param="
  pluginFlags := filter_eq_of_imp hothers fun _ h => by simpa using (of_decide_eq_true h).2.2
  foreground := mem_iff_of_filter_eq hothers rfl
  debug := mem_iff_of_filter_eq hothers rfl

/-- If the runs agree but for `-f` and `-d`, and either has both where the other has, they say the
same. -/
theorem saysSame_of_modes
    (hothers : (run.filter fun token => token ≠ "-f" ∧ token ≠ "-d") =
      run'.filter fun token => token ≠ "-f" ∧ token ≠ "-d")
    (hforeground : "-f" ∈ run ↔ "-f" ∈ run') (hdebug : "-d" ∈ run ↔ "-d" ∈ run') :
    SaysSame run run' := by
  -- neither mode is switched by a token that begins with --nbd
  have hnbd : ∀ token, begins "--nbd" token = true →
      decide (token ≠ "-f" ∧ token ≠ "-d") = true := by
    intro token htoken
    refine decide_eq_true ⟨?_, ?_⟩ <;> rintro rfl <;> cases htoken
  exact {
    badExtras := filter_eq_of_imp hothers fun token h =>
      hnbd token (begins_of_read_eq_badExtra h)
    flagExtras := filter_eq_of_imp hothers fun token h =>
      hnbd token (begins_of_begins_append "--nbd" "-flag=" h)
    paramExtras := filter_eq_of_imp hothers fun token h =>
      hnbd token (begins_of_begins_append "--nbd" "-param=" h)
    pluginFlags := filter_eq_of_imp hothers fun token h => by
      obtain ⟨hf, hd, -⟩ := of_decide_eq_true h
      exact decide_eq_true ⟨hf, hd⟩
    foreground := hforeground
    debug := hdebug }

/-- In a right run all tokens that begin with `--nbd` are extras, and then so they are in the other,
for it has the same tokens. -/
theorem saysSame_of_rightExtras (hright : RightExtras run)
    (hflags : run.filter (begins "--nbd-flag") = run'.filter (begins "--nbd-flag"))
    (hparams : run.filter (begins "--nbd-param") = run'.filter (begins "--nbd-param"))
    (hothers : (run.filter fun token => !begins "--nbd-flag" token && !begins "--nbd-param" token) =
      run'.filter fun token => !begins "--nbd-flag" token && !begins "--nbd-param" token) :
    SaysSame run run' := by
  have hright' : RightExtras run' := by
    intro token htoken
    -- each token of a run is kept by one of the filters
    have hmem : token ∈ run := by
      cases hflag : begins "--nbd-flag" token with
      | true => exact (mem_iff_of_filter_eq hflags hflag).mpr htoken
      | false =>
        cases hparam : begins "--nbd-param" token with
        | true => exact (mem_iff_of_filter_eq hparams hparam).mpr htoken
        | false => exact (mem_iff_of_filter_eq hothers (by simp [hflag, hparam])).mpr htoken
    exact hright token hmem
  exact {
    badExtras := by rw [badExtras_eq_nil_iff.mpr hright, badExtras_eq_nil_iff.mpr hright']
    flagExtras := filter_eq_of_imp hflags fun _ => begins_of_begins_append "--nbd-flag" "="
    paramExtras := filter_eq_of_imp hparams fun _ => begins_of_begins_append "--nbd-param" "="
    pluginFlags := filter_eq_of_imp hothers fun token h => by
      have hnbd : begins "--nbd" token = false := (of_decide_eq_true h).2.2
      have hflag : begins "--nbd-flag" token = false := not_begins_append hnbd "-flag"
      have hparam : begins "--nbd-param" token = false := not_begins_append hnbd "-param"
      rw [hflag, hparam]
      rfl
    foreground := mem_iff_of_filter_eq hothers rfl
    debug := mem_iff_of_filter_eq hothers rfl }

end Rearrangements

/-- The ways to rearrange the flag run in front of the operands that change nothing. -/
structure RearrangementLaw (table : FlagTable) (run run' rest : List String) : Prop where
  /-- Tokens that begin with `--nbd` may stand anywhere between the others. -/
  extras : run.filter (begins "--nbd") = run'.filter (begins "--nbd") →
    (run.filter fun token => !begins "--nbd" token) =
      (run'.filter fun token => !begins "--nbd" token) →
    parse table (run ++ rest) = parse table (run' ++ rest)
  /-- `-f` and `-d` may stand anywhere, and as often as one likes. -/
  modes : (run.filter fun token => token ≠ "-f" ∧ token ≠ "-d") =
      (run'.filter fun token => token ≠ "-f" ∧ token ≠ "-d") →
    ("-f" ∈ run ↔ "-f" ∈ run') → ("-d" ∈ run ↔ "-d" ∈ run') →
    parse table (run ++ rest) = parse table (run' ++ rest)
  /-- In a line that is right, flags for the server and parameters may be mixed in any way. -/
  mixed : ∀ inv, parse table (run ++ rest) = .ok inv →
    run.filter (begins "--nbd-flag") = run'.filter (begins "--nbd-flag") →
    run.filter (begins "--nbd-param") = run'.filter (begins "--nbd-param") →
    (run.filter fun token => !begins "--nbd-flag" token && !begins "--nbd-param" token) =
      (run'.filter fun token => !begins "--nbd-flag" token && !begins "--nbd-param" token) →
    parse table (run' ++ rest) = .ok inv

/-- **Rearrangements of a flag run** that change neither what a command line says nor what is wrong
with it, whatever the table is. -/
theorem rearrangement (table : FlagTable) {run run' rest : List String}
    (hrun : ∀ token ∈ run, IsRunToken token) (hrun' : ∀ token ∈ run', IsRunToken token)
    (hrest : EndsRun rest) : RearrangementLaw table run run' rest where
  extras hextras hothers :=
    parse_congr table hrun hrun' hrest (saysSame_of_extras hextras hothers)
  modes hothers hforeground hdebug :=
    parse_congr table hrun hrun' hrest (saysSame_of_modes hothers hforeground hdebug)
  mixed inv hparse hflags hparams hothers := by
    -- only in a line that is wrong the first wrong extra could be another one
    have hright := (parse_eq_ok_iff.mp hparse).1
    rw [flagRun_append hrun hrest] at hright
    have hsame := saysSame_of_rightExtras hright hflags hparams hothers
    rw [← parse_congr table hrun hrun' hrest hsame, hparse]

theorem sampleRun_rearrangement :
    RearrangementLaw .plugin ["--nbd", "-f", "--nbd-flag=-v", "--region=eu"]
        ["-f", "--nbd", "--region=eu", "--nbd-flag=-v"] ["--", "bucket", "/dev/nbd0"] ∧
      parse .plugin
          (["--nbd", "-f", "--nbd-flag=-v", "--region=eu"] ++ ["--", "bucket", "/dev/nbd0"]) =
        parse .plugin
          (["-f", "--nbd", "--region=eu", "--nbd-flag=-v"] ++ ["--", "bucket", "/dev/nbd0"]) := by
  have hrun : ∀ token ∈ ["--nbd", "-f", "--nbd-flag=-v", "--region=eu"],
      inFlagRun token = true := by
    decide
  have hrun' : ∀ token ∈ ["-f", "--nbd", "--region=eu", "--nbd-flag=-v"],
      inFlagRun token = true := by
    decide
  have hlaw := rearrangement .plugin (fun token h => inFlagRun_iff.mp (hrun token h))
    (fun token h => inFlagRun_iff.mp (hrun' token h))
    (Or.inr ⟨"--", ["bucket", "/dev/nbd0"], rfl, Or.inl rfl⟩)
  exact ⟨hlaw, hlaw.extras rfl rfl⟩

end Invocation

end NbdAttach
