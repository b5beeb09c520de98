import NbdAttach.CommandLine.Commands
import NbdAttach.Proofs.CommandLine.Grammar

/-!
# The arguments of the server

What the server is told, token by token: its argument vector is made of the settings, the endpoint
and the tokens of the command line, and each token of the flag run has its place in it.

* `classes` takes a flag run apart; `perm_classes` says that every token belongs to exactly one
  class.
* `ServerArgv` is the vector with its parts, each of which is related to the tokens that it comes
  from, in their order. `mem_flags_iff` carries the modes over from the tokens to the vector, and
  `forall₂_filter_filterMap` the parts that are lists.
-/

namespace NbdAttach

/-! ### The classes of tokens -/

/-- The tokens that say nothing. -/
def markers (run : List String) : List String :=
  run.filter fun token => token = "--nbd"

/-- The tokens that add a flag for the server. -/
def flagExtras (run : List String) : List String :=
  run.filter (begins "--nbd-flag=")

/-- The tokens that add a parameter as it is written. -/
def paramExtras (run : List String) : List String :=
  run.filter (begins "--nbd-param=")

/-- The tokens that do nothing but switch modes. -/
def modeSwitches (run : List String) : List String :=
  run.filter fun token => token = "-f" ∨ token = "-d"

/-- The tokens that are left for the plugin. -/
def pluginFlags (run : List String) : List String :=
  run.filter fun token => token ≠ "-f" ∧ token ≠ "-d" ∧ begins "--nbd" token = false

/-- The tokens of a run class by class, in the order of the run within each class. -/
def classes (run : List String) : List String :=
  markers run ++ flagExtras run ++ paramExtras run ++ modeSwitches run ++ pluginFlags run

theorem one_class {token : String} (htoken : begins "--nbd" token = true → RightExtra token) :
    (decide (token = "--nbd")).toNat + (begins "--nbd-flag=" token).toNat +
      (begins "--nbd-param=" token).toNat + (decide (token = "-f" ∨ token = "-d")).toNat +
      (decide (token ≠ "-f" ∧ token ≠ "-d" ∧ begins "--nbd" token = false)).toNat = 1 := by
  cases hnbd : begins "--nbd" token with
  | true =>
    -- an extra has one of three beginnings, and each excludes all the other classes
    rcases htoken hnbd with rfl | hflag | hparam
    · rfl
    · obtain ⟨value, rfl⟩ := begins_iff.mp hflag
      simp [begins, List.isPrefixOf, ← String.toList_inj]
    · obtain ⟨value, rfl⟩ := begins_iff.mp hparam
      simp [begins, List.isPrefixOf, ← String.toList_inj]
  | false =>
    have hmarker : token ≠ "--nbd" := by
      rintro rfl
      cases hnbd
    have hflag : begins "--nbd-flag=" token = false := not_begins_append hnbd "-flag="
    have hparam : begins "--nbd-param=" token = false := not_begins_append hnbd "-param="
    by_cases hmode : token = "-f" ∨ token = "-d"
    · rcases hmode with rfl | rfl <;> rfl
    · rw [not_or] at hmode
      simp [hmarker, hflag, hparam, hmode]

/-- A filter keeps an element wherever it stands, or nowhere. -/
theorem count_filter_eq {α : Type} [DecidableEq α] (p : α → Bool) (x : α) (xs : List α) :
    (xs.filter p).count x = (p x).toNat * xs.count x := by
  cases hx : p x with
  | true => rw [List.count_filter hx, Bool.toNat_true, Nat.one_mul]
  | false =>
    rw [Bool.toNat_false, Nat.zero_mul, List.count_eq_zero]
    exact fun hmem => Bool.eq_false_iff.mp hx (List.of_mem_filter hmem)

/-- Every token of a right command line is in exactly one class. -/
theorem perm_classes {run : List String} (hrun : RightExtras run) : run.Perm (classes run) := by
  -- a token occurs in a class as often as in the run, or not at all
  rw [List.perm_iff_count]
  intro token
  simp only [classes, List.count_append, markers, flagExtras, paramExtras, modeSwitches,
    pluginFlags, count_filter_eq, ← Nat.add_mul]
  by_cases htoken : token ∈ run
  · rw [one_class (hrun token htoken), Nat.one_mul]
  · rw [List.count_eq_zero.mpr htoken, Nat.mul_zero]

/-! ### The parts of the vector -/

/-- The list has the argument, if `P` holds, and nothing else. -/
def OnlyIf (P : Prop) (arg : String) (args : List String) : Prop :=
  P ∧ args = [arg] ∨ ¬P ∧ args = []

/-- Among the tokens is a flag with the name, which the table declares as a switch. -/
def Switched (table : FlagTable) (run : List String) (name : String) : Prop :=
  ∃ token ∈ run, ∃ value?, Spells token name value? ∧ table.Declares name .boolean

/-- The parameter that the plugin is given for a token. The name is one that the table declares. -/
inductive ParamOf (table : FlagTable) (front : String) : String → String → Prop
  | switch {token name : String} {value? : Option String} (hspells : Spells token name value?)
      (hname : table.Declares name .boolean) :
    ParamOf table front token (front ++ name ++ "=" ++ "true")
  | valued {token name value : String} (hspells : Spells token name (some value))
      (hname : table.Declares name .valued) :
    ParamOf table front token (front ++ name ++ "=" ++ value)

/-- The argument vector of the server for a flag run and a bucket: the parts in their order, and
nothing else. -/
inductive ServerArgv (settings : Settings) (endpoint : Endpoint) (table : FlagTable)
    (run : List String) (bucket : String) : List String → Prop
  | of_parts {verbose foreground readOnly flags params more : List String}
      (hverbose : OnlyIf ("-d" ∈ run ∨ Switched table run "debug") "--verbose" verbose)
      (hforeground : OnlyIf ("-f" ∈ run ∨ "-d" ∈ run) "--foreground" foreground)
      (hreadOnly : OnlyIf (Switched table run "readOnly") "--read-only" readOnly)
      (hflags : List.Forall₂ (fun token flag => token = "--nbd-flag=" ++ flag) (flagExtras run)
        flags)
      (hparams : List.Forall₂ (ParamOf table settings.paramPrefix) (pluginFlags run) params)
      (hmore : List.Forall₂ (fun token param => token = "--nbd-param=" ++ param) (paramExtras run)
        more) :
    ServerArgv settings endpoint table run bucket
      (settings.serverExecutable ::
        (verbose ++ foreground ++ readOnly ++
          ["--filter=" ++ settings.exitFilter, "--unix", endpoint.path.text] ++
          flags ++ [settings.pluginName] ++ params ++ [settings.bucketParam ++ "=" ++ bucket] ++
          more))

/-- Two lists that are related element by element stay so when the same elements are dropped from
both. -/
theorem forall₂_filter_filterMap {α β γ : Type} {R : α → β → Prop} {S : α → γ → Prop}
    {p : α → Bool} {g : β → Option γ} {xs : List α} {ys : List β} (hxs : List.Forall₂ R xs ys)
    (hkept : ∀ x y, R x y → p x = true → ∃ z, g y = some z ∧ S x z)
    (hdropped : ∀ x y, R x y → p x = false → g y = none) :
    List.Forall₂ S (xs.filter p) (ys.filterMap g) := by
  induction hxs with
  | nil => exact .nil
  | @cons x y _ _ hxy _ ih =>
    cases hx : p x with
    | true =>
      obtain ⟨z, hz, hS⟩ := hkept x y hxy hx
      rw [List.filter_cons_of_pos hx, List.filterMap_cons_some hz]
      exact .cons hS ih
    | false =>
      rw [List.filter_cons_of_neg (Bool.eq_false_iff.mp hx),
        List.filterMap_cons_none (hdropped x y hxy hx)]
      exact ih

/-- Other tokens have no value behind a fixed beginning. -/
theorem value?_eq_none {head token : String} {value? : String → Option String}
    (hvalue : ∀ token value, value? token = some value ↔ token = head ++ value)
    (htoken : begins head token = false) : value? token = none := by
  refine Option.eq_none_iff_forall_ne_some.mpr fun value hsome => ?_
  rw [(hvalue token value).mp hsome, begins_append] at htoken
  cases htoken

/-- The values behind a fixed beginning. -/
theorem forall₂_begins {head : String} {value? : String → Option String}
    (hvalue : ∀ token value, value? token = some value ↔ token = head ++ value)
    (run : List String) :
    List.Forall₂ (fun token value => token = head ++ value) (run.filter (begins head))
      (run.filterMap value?) := by
  refine forall₂_filter_filterMap (List.forall₂_eq_eq_eq ▸ rfl : List.Forall₂ Eq run run) ?_ ?_
  · rintro token _ rfl htoken
    obtain ⟨value, rfl⟩ := begins_iff.mp htoken
    exact ⟨value, (hvalue _ value).mpr rfl, rfl⟩
  · rintro token _ rfl htoken
    exact value?_eq_none hvalue htoken

/-- An argument under a condition is there if the condition holds. -/
theorem onlyIf_argIf {P : Prop} {condition : Bool} (hP : condition = true ↔ P) (arg : String) :
    OnlyIf P arg (Invocation.argIf condition arg) := by
  cases condition with
  | true => exact Or.inl ⟨hP.mp rfl, rfl⟩
  | false => exact Or.inr ⟨fun h => (nomatch hP.mpr h), rfl⟩

/-! ### The flags behind the parts -/

section Flags

variable {table : FlagTable} {tokens run : List String} {flags : List Flag} {flag : Flag}

/-- A token that is no extra means one flag at most. -/
theorem Flag.Means.unique {token : String} {flag' : Flag} (htoken : begins "--nbd" token = false)
    (hmeans : Flag.Means table token flag) (hmeans' : Flag.Means table token flag') :
    flag = flag' :=
  Except.ok.inj ((hmeans.read_eq htoken).symm.trans (hmeans'.read_eq htoken))

/-- A flag was read if some token means it. -/
theorem mem_flags_iff (htokens : ∀ token ∈ tokens, begins "--nbd" token = false)
    (hmeans : List.Forall₂ (Flag.Means table) tokens flags) :
    flag ∈ flags ↔ ∃ token ∈ tokens, Flag.Means table token flag := by
  induction hmeans with
  | nil => simp
  | @cons token flag' _ _ hhead _ ih =>
    rw [List.forall_mem_cons] at htokens
    rw [List.mem_cons, List.exists_mem_cons_iff, ih htokens.2]
    refine or_congr_left ⟨?_, fun h => h.unique htokens.1 hhead⟩
    rintro rfl
    exact hhead

/-- Only one token means the mode `-f`. -/
theorem means_foreground_iff {token : String} :
    Flag.Means table token .foreground ↔ token = "-f" :=
  ⟨fun h => by cases h; rfl, fun h => h ▸ .foreground⟩

/-- Only one token means `-d`, for the long spellings are switches. -/
theorem means_debug_iff {token : String} : Flag.Means table token .debug ↔ token = "-d" :=
  ⟨fun h => by cases h; rfl, fun h => h ▸ .debug⟩

/-- A name with two dashes in front is no flag of a mode with one dash. -/
theorem Spells.ne_mode {token name : String} {value? : Option String}
    (hspells : Spells token name value?) : token ≠ "-f" ∧ token ≠ "-d" := by
  constructor <;> rintro rfl <;> cases (Token.reads_iff.mp (.named rfl hspells))

/-- A flag is no extra if its name does not even begin like one. -/
theorem Spells.begins_nbd {token name : String} {value? : Option String} {c : Char}
    {rest : List Char} (hspells : Spells token name value?) (hname : name.toList = c :: rest)
    (hc : c ≠ 'n') : begins "--nbd" token = false := by
  rw [hspells.begins_nbd_eq]
  simp [begins, List.isPrefixOf, hname, hc.symm]

theorem mem_flagTokens_iff {token : String} :
    token ∈ Invocation.flagTokens run ↔ token ∈ run ∧ begins "--nbd" token = false := by
  rw [Invocation.flagTokens_eq, List.mem_filter, Bool.not_eq_true']

/-- A flag that only one token means. -/
theorem mem_flags_iff_mem_run {token : String}
    (hmeans : List.Forall₂ (Flag.Means table) (Invocation.flagTokens run) flags)
    (hflag : ∀ token', Flag.Means table token' flag ↔ token' = token)
    (htoken : begins "--nbd" token = false) : flag ∈ flags ↔ token ∈ run := by
  rw [mem_flags_iff Invocation.begins_of_mem_flagTokens hmeans]
  simp only [hflag, exists_eq_right, mem_flagTokens_iff]
  exact and_iff_left htoken

/-- A switch is on exactly where a token has its name, whatever the value is: with a value that does
not say so the line would be wrong. -/
theorem switch_mem_iff {name : String} {c : Char} {rest : List Char}
    (hmeans : List.Forall₂ (Flag.Means table) (Invocation.flagTokens run) flags)
    (hname : name.toList = c :: rest) (hc : c ≠ 'n') :
    .switch name ∈ flags ↔ Switched table run name := by
  rw [mem_flags_iff Invocation.begins_of_mem_flagTokens hmeans]
  constructor
  · rintro ⟨token, htoken, hswitch⟩
    cases hswitch with
    | switch hspells hname _ => exact ⟨token, (mem_flagTokens_iff.mp htoken).1, _, hspells, hname⟩
  · rintro ⟨token, htoken, value?, hspells, hdeclared⟩
    have hnbd := hspells.begins_nbd hname hc
    have hmem := mem_flagTokens_iff.mpr ⟨htoken, hnbd⟩
    have hread := (Token.Reads.named hnbd hspells).read_eq
    -- the token is a flag, for the command line is right; which one is up to the table
    obtain ⟨flag, hflag⟩ := exists_forall₂_iff.mp ⟨flags, hmeans⟩ token hmem
    refine ⟨token, hmem, ?_⟩
    cases hflag with
    | foreground => cases hread
    | debug => cases hread
    | switch hspells' hdeclared' hvalue =>
      rw [(Token.Reads.named hnbd hspells').read_eq] at hread
      cases hread
      exact .switch hspells' hdeclared' hvalue
    | valued hspells' hdeclared' =>
      rw [(Token.Reads.named hnbd hspells').read_eq] at hread
      cases hread
      rw [FlagTable.declares_iff] at hdeclared hdeclared'
      -- the table has one kind for each name
      rw [hdeclared] at hdeclared'
      cases hdeclared'

/-- The modes that a right command line switches on. -/
theorem Mode.ofFlags_iff {flags : List Flag}
    (hmeans : List.Forall₂ (Flag.Means table) (Invocation.flagTokens run) flags) :
    ((Mode.ofFlags flags).debug = true ↔ "-d" ∈ run ∨ Switched table run "debug") ∧
      ((Mode.ofFlags flags).foreground = true ↔ "-f" ∈ run ∨ "-d" ∈ run) ∧
      ((Mode.ofFlags flags).readOnly = true ↔ Switched table run "readOnly") := by
  have hf := mem_flags_iff_mem_run hmeans (fun _ => means_foreground_iff) rfl
  have hd := mem_flags_iff_mem_run hmeans (fun _ => means_debug_iff) rfl
  have hdebug := switch_mem_iff hmeans
    (rfl : "debug".toList = 'd' :: "ebug".toList) (by decide)
  have hreadOnly := switch_mem_iff hmeans
    (rfl : "readOnly".toList = 'r' :: "eadOnly".toList) (by decide)
  simp only [Mode.ofFlags, Bool.or_eq_true, List.contains_iff_mem, hf, hd, hdebug, hreadOnly,
    and_self, iff_self]

/-- The tokens for the plugin are the flags without the two that only switch modes. -/
theorem pluginFlags_eq (run : List String) :
    pluginFlags run =
      (Invocation.flagTokens run).filter fun token => token ≠ "-f" ∧ token ≠ "-d" := by
  rw [pluginFlags, Invocation.flagTokens_eq, List.filter_filter]
  refine List.filter_congr fun token _ => ?_
  cases begins "--nbd" token <;> simp

/-- The parameters of the plugin, token by token. -/
theorem params_of_means (front : String)
    (hmeans : List.Forall₂ (Flag.Means table) (Invocation.flagTokens run) flags) :
    List.Forall₂ (ParamOf table front) (pluginFlags run)
      ((flags.filterMap Flag.param?).map fun (name, value) => front ++ name ++ "=" ++ value) := by
  rw [pluginFlags_eq, List.map_filterMap]
  -- the flags without a parameter are the two modes, which are filtered out of the tokens
  refine forall₂_filter_filterMap hmeans ?_ ?_
  · rintro token flag hflag htoken
    cases hflag with
    | foreground => simp at htoken
    | debug => simp at htoken
    | switch hspells hname _ => exact ⟨_, rfl, .switch hspells hname⟩
    | valued hspells hname => exact ⟨_, rfl, .valued hspells hname⟩
  · rintro token flag hflag htoken
    cases hflag with
    | foreground => rfl
    | debug => rfl
    | switch hspells _ _ => simp [hspells.ne_mode] at htoken
    | valued hspells _ => simp [hspells.ne_mode] at htoken

end Flags

/-! ### The theorem -/

namespace Invocation

/-- **The arguments of the server.** Of a command line that is accepted, the server is told exactly
what its tokens say, class by class and in their order; no token is lost or counted twice. -/
theorem server_argv {table : FlagTable} {args : List String} {inv : Invocation}
    (settings : Settings) (endpoint : Endpoint) (hparse : parse table args = .ok inv) :
    ∃ run device, Divides args run [inv.bucket, device] ∧ inv.device = ⟨device⟩ ∧
      ServerArgv settings endpoint table run inv.bucket
        (inv.serverCommand settings endpoint).argv ∧
      run.Perm (classes run) := by
  obtain ⟨hextras, bucket, device, flags, hoperands, hmeans, rfl⟩ := parse_eq_ok_iff.mp hparse
  obtain ⟨hdebug, hforeground, hreadOnly⟩ := Mode.ofFlags_iff hmeans
  refine ⟨flagRun args, device, hoperands ▸ divides_flagRun args, rfl, ?_, perm_classes hextras⟩
  apply ServerArgv.of_parts
  case hverbose => exact onlyIf_argIf hdebug "--verbose"
  case hforeground => exact onlyIf_argIf hforeground "--foreground"
  case hreadOnly => exact onlyIf_argIf hreadOnly "--read-only"
  case hflags => exact forall₂_begins (fun _ _ => Token.serverFlag?_read_eq_some_iff) _
  case hparams => exact params_of_means settings.paramPrefix hmeans
  case hmore => exact forall₂_begins (fun _ _ => Token.extraParam?_read_eq_some_iff) _

/-- A command line with tokens of every class, and with a bucket that looks like a flag. -/
def sampleLine : List String :=
  ["--nbd-flag=--threads=4", "-d", "--nbd", "--readOnly=TRUE", "--region=", "--nbd-param=a=b c",
    "--size=4G", "--", "-bucket", "/dev/nbd0"]

theorem sampleLine_server_argv :
    ∃ inv, parse .plugin sampleLine = .ok inv ∧
      (inv.serverCommand {} ⟨⟨"/run/5_1"⟩⟩).argv =
        ["nbdkit", "--verbose", "--foreground", "--read-only", "--filter=exitlast", "--unix",
          "/run/5_1", "--threads=4", "s3backer", "s3b_readOnly=true", "s3b_region=", "s3b_size=4G",
          "bucket=-bucket", "a=b c"] ∧
      ∃ run device, Divides sampleLine run [inv.bucket, device] ∧ inv.device = ⟨device⟩ ∧
        ServerArgv {} ⟨⟨"/run/5_1"⟩⟩ .plugin run inv.bucket
          (inv.serverCommand {} ⟨⟨"/run/5_1"⟩⟩).argv ∧
        run.Perm (classes run) :=
  ⟨_, rfl, rfl, server_argv {} ⟨⟨"/run/5_1"⟩⟩ rfl⟩

end Invocation

end NbdAttach
