import NbdAttach.Proofs.CommandLine.Tokens

/-!
# The grammar of command lines

Which command lines are right, and what is said about the others, in terms of the spelling of their
tokens.

* `Divides` divides a command line into its flag run and its operands; there is one way to do so
  (`divides_flagRun`, `Divides.unique`).
* `RightLine` is the grammar, and `LineFault` gives the error of a line that is not of it. The
  stages of the check come in the order extras, operands, flags, and `IsFirst` picks the token that
  decides within a stage.
-/

namespace NbdAttach

/-! ### The first of a list -/

/-- `x` is the first in the list of which `P` holds. -/
def IsFirst {α : Type} (P : α → Prop) (xs : List α) (x : α) : Prop :=
  ∃ before after, xs = before ++ x :: after ∧ P x ∧ ∀ y ∈ before, ¬P y

section IsFirst

variable {α : Type} {P : α → Prop} {p : α → Bool} {xs : List α} {x : α}

/-- What a search finds is the first. -/
theorem find?_eq_some_iff_isFirst (hp : ∀ x, p x = true ↔ P x) :
    xs.find? p = some x ↔ IsFirst P xs x := by
  simp only [List.find?_eq_some_iff_append, Bool.not_eq_true', Bool.eq_false_iff, ne_eq, hp]
  constructor
  · rintro ⟨hx, before, after, heq, hbefore⟩
    exact ⟨before, after, heq, hx, hbefore⟩
  · rintro ⟨before, after, heq, hx, hbefore⟩
    exact ⟨hx, before, after, heq, hbefore⟩

theorem isFirst_nil : ¬IsFirst P [] x := by
  rintro ⟨before, after, heq, -⟩
  simp at heq

/-- The first of a list is its head, or the first of the rest if the head is none. -/
theorem isFirst_cons {y : α} : IsFirst P (y :: xs) x ↔ P y ∧ x = y ∨ ¬P y ∧ IsFirst P xs x := by
  constructor
  · rintro ⟨before, after, heq, hx, hbefore⟩
    cases before with
    | nil =>
      obtain ⟨rfl, -⟩ := List.cons.inj heq
      exact Or.inl ⟨hx, rfl⟩
    | cons z before =>
      obtain ⟨rfl, rfl⟩ := List.cons.inj heq
      rw [List.forall_mem_cons] at hbefore
      exact Or.inr ⟨hbefore.1, before, after, rfl, hx, hbefore.2⟩
  · rintro (⟨hx, rfl⟩ | ⟨hy, before, after, rfl, hx, hbefore⟩)
    · exact ⟨[], xs, rfl, hx, nofun⟩
    · exact ⟨y :: before, after, rfl, hx, List.forall_mem_cons.mpr ⟨hy, hbefore⟩⟩

theorem IsFirst.mem (h : IsFirst P xs x) : x ∈ xs := by
  obtain ⟨before, after, rfl, -⟩ := h
  exact List.mem_append_right before List.mem_cons_self

theorem IsFirst.holds (h : IsFirst P xs x) : P x := by
  obtain ⟨before, after, -, hx, -⟩ := h
  exact hx

/-- There is a first if there is any. -/
theorem exists_isFirst_iff : (∃ x, IsFirst P xs x) ↔ ∃ x ∈ xs, P x := by
  constructor
  · rintro ⟨x, hfirst⟩
    exact ⟨x, hfirst.mem, hfirst.holds⟩
  · intro hexists
    induction xs with
    | nil => simp at hexists
    | cons y xs ih =>
      simp only [isFirst_cons]
      by_cases hy : P y
      · exact ⟨y, Or.inl ⟨hy, rfl⟩⟩
      · obtain ⟨x, hfirst⟩ := ih (by simpa [hy] using hexists)
        exact ⟨x, Or.inr ⟨hy, hfirst⟩⟩

/-- To look in a filtered list is to look for both properties in the whole. -/
theorem isFirst_filter : IsFirst P (xs.filter p) x ↔ IsFirst (fun y => p y = true ∧ P y) xs x := by
  induction xs with
  | nil => exact iff_of_false isFirst_nil isFirst_nil
  | cons y xs ih => by_cases hy : p y = true <;> simp [isFirst_cons, hy, ih]

end IsFirst

/-! ### The parts of a command line -/

/-- The tokens of which the flag run is made. -/
def IsRunToken (token : String) : Prop :=
  begins "-" token = true ∧ token ≠ "--"

/-- The command line is the flag run, perhaps a `--`, and the operands. -/
structure Divides (args run rest : List String) : Prop where
  flags : ∀ token ∈ run, IsRunToken token
  /-- The flag run is the longest there is. -/
  longest : ∀ front, front <+: args → (∀ token ∈ front, IsRunToken token) → front <+: run
  /-- One `--` right behind the flag run is dropped. -/
  rest : args = run ++ "--" :: rest ∨ args = run ++ rest ∧ rest.head? ≠ some "--"

/-- The tokens of which a flag run is made are told by their spelling. -/
theorem inFlagRun_iff {token : String} : inFlagRun token = true ↔ IsRunToken token := by
  rw [inFlagRun, Bool.and_eq_true, isDashed_eq, bne_iff_ne]
  rfl

/-- Behind tokens of the flag run it goes on with the flag run of the rest. -/
theorem flagRun_append_flagRun {run : List String} (hrun : ∀ token ∈ run, IsRunToken token)
    (rest : List String) : flagRun (run ++ rest) = run ++ flagRun rest :=
  List.takeWhile_append_of_pos fun token h => inFlagRun_iff.mpr (hrun token h)

/-- Behind tokens of the flag run the operands are those of the rest. -/
theorem operands_append {run : List String} (hrun : ∀ token ∈ run, IsRunToken token)
    (rest : List String) : operands (run ++ rest) = operands rest := by
  rw [operands, List.dropWhile_append_of_pos fun token h => inFlagRun_iff.mpr (hrun token h),
    operands]

/-- Where the first token does not belong to a flag run there is none. -/
theorem flagRun_eq_nil {rest : List String}
    (hrest : ∀ token ∈ rest.head?, inFlagRun token = false) : flagRun rest = [] := by
  cases rest with
  | nil => rfl
  | cons token more => exact List.takeWhile_cons_of_neg (Bool.eq_false_iff.mp (hrest token rfl))

/-- Where the first token has no dash there is no flag run. -/
theorem flagRun_of_plain {rest : List String}
    (hrest : ∀ token ∈ rest.head?, begins "-" token = false) : flagRun rest = [] := by
  refine flagRun_eq_nil fun token htoken => Bool.eq_false_iff.mpr fun hin => ?_
  have hplain := hrest token htoken
  rw [(inFlagRun_iff.mp hin).1] at hplain
  cases hplain

/-- Where the first token has no dash there are only operands. -/
theorem operands_of_plain {rest : List String}
    (hrest : ∀ token ∈ rest.head?, begins "-" token = false) : operands rest = rest := by
  have hsplit : flagRun rest ++ rest.dropWhile inFlagRun = rest := List.takeWhile_append_dropWhile
  rw [flagRun_of_plain hrest, List.nil_append] at hsplit
  rw [operands, hsplit]
  cases rest with
  | nil => rfl
  | cons token more =>
    -- a first token without a dash is not the one that ends the flag run
    refine if_neg ?_
    rintro rfl
    cases hrest terminator rfl

/-- A command line is divided by the two functions that read it. -/
theorem divides_flagRun (args : List String) : Divides args (flagRun args) (operands args) where
  flags token htoken := inFlagRun_iff.mp (List.mem_takeWhile_imp htoken)
  longest front hfront hflags := by
    obtain ⟨back, rfl⟩ := hfront
    rw [flagRun_append_flagRun hflags]
    exact List.prefix_append ..
  rest := by
    have hsplit : args = flagRun args ++ args.dropWhile inFlagRun :=
      List.takeWhile_append_dropWhile.symm
    unfold operands
    split
    · -- nothing follows the flag run
      next heq => exact Or.inr ⟨heq ▸ hsplit, nofun⟩
    · next token rest heq =>
      rw [heq] at hsplit
      split
      · next htoken =>
        subst htoken
        exact Or.inl hsplit
      · next htoken => exact Or.inr ⟨hsplit, fun hhead => htoken (Option.some.inj hhead)⟩

theorem Divides.run_prefix {args run rest : List String} (h : Divides args run rest) :
    run <+: args := by
  rcases h.rest with heq | ⟨heq, -⟩ <;> rw [heq] <;> exact List.prefix_append ..

/-- There is no other way to divide a line: of two flag runs each is as long as the other. -/
theorem Divides.unique {args run run' rest rest' : List String} (h : Divides args run rest)
    (h' : Divides args run' rest') : run' = run ∧ rest' = rest := by
  obtain rfl : run' = run :=
    (h.longest run' h'.run_prefix h'.flags).eq_of_length_le
      (h'.longest run h.run_prefix h.flags).length_le
  refine ⟨rfl, ?_⟩
  -- behind the same flag run there is the same, and it begins with `--` or it does not
  rcases h.rest with heq | ⟨heq, hhead⟩ <;> rcases h'.rest with heq' | ⟨heq', hhead'⟩ <;>
    have hrest := List.append_cancel_left (heq'.symm.trans heq)
  · exact (List.cons.inj hrest).2
  · exact absurd (by rw [hrest]; rfl) hhead'
  · exact absurd (by rw [← hrest]; rfl) hhead
  · exact hrest

/-! ### The grammar -/

/-- Every token of the run that begins with `--nbd` is an extra. -/
def RightExtras (run : List String) : Prop :=
  ∀ token ∈ run, begins "--nbd" token = true → RightExtra token

/-- The command lines that are right, by their flag run and their operands. -/
structure RightLine (table : FlagTable) (run rest : List String) : Prop where
  extras : RightExtras run
  operands : rest.length = 2
  flags : ∀ token ∈ run, begins "--nbd" token = false → ∃ flag, Flag.Means table token flag

/-- What is wrong with operands that are not two. -/
inductive OperandFault (rest : List String) : UsageError → Prop
  | stray {token : String} (hcount : rest.length ≠ 2)
      (hfirst : IsFirst (begins "-" · = true) rest.tail token) :
    OperandFault rest (.invalidFlag token)
  | count (hcount : rest.length ≠ 2) (hnone : ∀ token ∈ rest.tail, begins "-" token = false) :
    OperandFault rest (.operandCount rest.length)

/-- What is wrong with a command line that is not right. -/
inductive LineFault (table : FlagTable) (run rest : List String) : UsageError → Prop
  | extra {token : String}
      (hfirst : IsFirst (fun t => begins "--nbd" t = true ∧ ¬RightExtra t) run token) :
    LineFault table run rest (.invalidFlag token)
  | operands {e : UsageError} (hextras : RightExtras run) (hfault : OperandFault rest e) :
    LineFault table run rest e
  | flag {token : String} {e : UsageError} (hextras : RightExtras run) (hcount : rest.length = 2)
      (hfirst : IsFirst (fun t => begins "--nbd" t = false ∧ ∀ flag, ¬Flag.Means table t flag) run
        token) (hfault : Flag.Fault table token e) : LineFault table run rest e

/-! ### The stages -/

/-- To give every token a meaning is to give one to each. -/
theorem exists_forall₂_iff {α β : Type} {R : α → β → Prop} {xs : List α} :
    (∃ ys, List.Forall₂ R xs ys) ↔ ∀ x ∈ xs, ∃ y, R x y := by
  induction xs with
  | nil => simp
  | cons x xs ih =>
    rw [List.forall_mem_cons, ← ih]
    constructor
    · rintro ⟨zs, hzs⟩
      obtain ⟨y, ys, hy, hys, rfl⟩ := List.forall₂_cons_left_iff.mp hzs
      exact ⟨⟨y, hy⟩, ys, hys⟩
    · rintro ⟨⟨y, hy⟩, ys, hys⟩
      exact ⟨y :: ys, .cons hy hys⟩

namespace Invocation

/-- The first stage finds the first extra that is wrong. -/
theorem badExtra?_eq_some_iff {run : List String} {token : String} :
    badExtra? run = some token ↔
      IsFirst (fun t => begins "--nbd" t = true ∧ ¬RightExtra t) run token :=
  find?_eq_some_iff_isFirst fun t => by rw [beq_iff_eq, Token.read_eq_badExtra_iff]

theorem badExtra?_eq_none_iff {run : List String} : badExtra? run = none ↔ RightExtras run := by
  rw [badExtra?, List.find?_eq_none]
  refine forall₂_congr fun t _ => ?_
  rw [beq_iff_eq, Token.read_eq_badExtra_iff, not_and, not_not]

/-- Two operands are taken as they are. -/
theorem readOperands_eq_ok_iff {rest : List String} {bucket device : String} :
    readOperands rest = .ok (bucket, device) ↔ rest = [bucket, device] := by
  unfold readOperands
  split
  · simp
  · next hne =>
    constructor
    · intro h
      split at h <;> cases h
    · intro h
      exact absurd h (hne bucket device)

/-- The flag that is complained of is the first behind the bucket. -/
theorem stray?_eq_some_iff {rest : List String} {token : String} :
    rest.tail.find? isDashed = some token ↔ IsFirst (begins "-" · = true) rest.tail token :=
  find?_eq_some_iff_isFirst fun t => by rw [isDashed_eq]

theorem stray?_eq_none_iff {rest : List String} :
    rest.tail.find? isDashed = none ↔ ∀ token ∈ rest.tail, begins "-" token = false := by
  simp only [List.find?_eq_none, isDashed_eq, Bool.not_eq_true]

/-- The second stage refuses all other operands, for a flag among them or for their number. -/
theorem readOperands_eq_error_iff {rest : List String} {e : UsageError} :
    readOperands rest = .error e ↔ OperandFault rest e := by
  unfold readOperands
  split
  · refine iff_of_false nofun ?_
    rintro (⟨hcount, -⟩ | ⟨hcount, -⟩) <;> exact hcount rfl
  · -- not two: the operands behind the first are searched for a flag
    next hne =>
    have hcount : rest.length ≠ 2 := by
      intro htwo
      obtain ⟨bucket, device, rfl⟩ := List.length_eq_two.mp htwo
      exact hne bucket device rfl
    constructor
    · intro hread
      split at hread <;> cases hread
      · next hfind => exact .stray hcount (stray?_eq_some_iff.mp hfind)
      · next hfind => exact .count hcount (stray?_eq_none_iff.mp hfind)
    · rintro (⟨-, hfirst⟩ | ⟨-, hnone⟩)
      · rw [stray?_eq_some_iff.mpr hfirst]
      · rw [stray?_eq_none_iff.mpr hnone]

/-- The third stage is about the tokens that are no extras. -/
theorem flagTokens_eq (run : List String) :
    flagTokens run = run.filter fun token => !begins "--nbd" token :=
  List.filter_congr fun token _ => by rw [Token.isExtra_read]

section readFlags

variable {table : FlagTable} {tokens : List String}

/-- The third stage reads each of its tokens as the flag that it means. -/
theorem readFlags_eq_ok_iff {flags : List Flag}
    (htokens : ∀ token ∈ tokens, begins "--nbd" token = false) :
    readFlags table tokens = .ok flags ↔ List.Forall₂ (Flag.Means table) tokens flags := by
  induction tokens generalizing flags with
  | nil => simp [readFlags, eq_comm]
  | cons token rest ih =>
    rw [List.forall_mem_cons] at htokens
    -- both sides in terms of `Flag.read` of the token and `readFlags` of the rest
    simp only [readFlags, List.forall₂_cons_left_iff, ← Flag.read_eq_ok_iff htokens.1,
      ← ih htokens.2]
    cases Flag.read table token with
    | error e => simp
    | ok flag => cases readFlags table rest <;> simp [eq_comm]

/-- The third stage stops at the first token that means no flag, with what is wrong with it. -/
theorem readFlags_eq_error_iff {e : UsageError}
    (htokens : ∀ token ∈ tokens, begins "--nbd" token = false) :
    readFlags table tokens = .error e ↔
      ∃ token, IsFirst (fun t => ∀ flag, ¬Flag.Means table t flag) tokens token ∧
        Flag.Fault table token e := by
  induction tokens with
  | nil => simp [readFlags, isFirst_nil]
  | cons token rest ih =>
    rw [List.forall_mem_cons] at htokens
    simp only [readFlags, isFirst_cons, ← Flag.read_eq_ok_iff htokens.1]
    cases hread : Flag.read table token with
    | error e' => simp [← Flag.read_eq_error_iff htokens.1, hread]
    | ok flag =>
      -- a flag leaves the decision to the rest
      have hok : ¬∀ flag', (Except.ok flag : Except UsageError Flag) ≠ .ok flag' :=
        fun h => h flag rfl
      simp only [hok, false_and, false_or, not_false_eq_true, true_and, ← ih htokens.2]
      cases readFlags table rest <;> simp

end readFlags

/-! ### The theorem -/

/-- The tokens of the third stage are no extras. -/
theorem begins_of_mem_flagTokens {run : List String} :
    ∀ token ∈ flagTokens run, begins "--nbd" token = false := by
  intro token htoken
  rw [flagTokens_eq] at htoken
  simpa using List.of_mem_filter htoken

/-- A command line that is right, and what it says. -/
theorem parse_eq_ok_iff {table : FlagTable} {args : List String} {inv : Invocation} :
    parse table args = .ok inv ↔
      RightExtras (flagRun args) ∧ ∃ bucket device flags, operands args = [bucket, device] ∧
        List.Forall₂ (Flag.Means table) (flagTokens (flagRun args)) flags ∧
        inv = {
          mode := .ofFlags flags
          bucket
          device := ⟨device⟩
          serverFlags := (flagRun args).filterMap fun token => (Token.read token).serverFlag?
          params := flags.filterMap Flag.param?
          extraParams :=
            (flagRun args).filterMap fun token => (Token.read token).extraParam? } := by
  -- each condition on the right is the success of one stage
  simp only [← badExtra?_eq_none_iff, ← readOperands_eq_ok_iff,
    ← readFlags_eq_ok_iff begins_of_mem_flagTokens, parse]
  cases badExtra? (flagRun args) with
  | some token => simp
  | none =>
    rcases readOperands (operands args) with e | ⟨bucket, device⟩
    · simp
    · cases readFlags table (flagTokens (flagRun args)) <;> simp [eq_comm]

/-- The first among the flags, in terms of the whole run. -/
theorem isFirst_flagTokens {P : String → Prop} {run : List String} {token : String} :
    IsFirst P (flagTokens run) token ↔
      IsFirst (fun t => begins "--nbd" t = false ∧ P t) run token := by
  simp only [flagTokens_eq, isFirst_filter, Bool.not_eq_true']

/-- The first stage that finds something wrong decides. -/
theorem parse_eq_error_iff {table : FlagTable} {args : List String} {e : UsageError} :
    parse table args = .error e ↔ LineFault table (flagRun args) (operands args) e := by
  constructor
  · intro hparse
    rw [parse] at hparse
    -- stage by stage: what a stage finds is decided by its own lemma, given that those before it
    -- found nothing
    cases hextra : badExtra? (flagRun args) with
    | some token =>
      simp only [hextra] at hparse
      cases hparse
      exact .extra (badExtra?_eq_some_iff.mp hextra)
    | none =>
      have hextras := badExtra?_eq_none_iff.mp hextra
      rcases hoperands : readOperands (operands args) with e' | ⟨bucket, device⟩
      · simp only [hextra, hoperands] at hparse
        cases hparse
        exact .operands hextras (readOperands_eq_error_iff.mp hoperands)
      · cases hflags : readFlags table (flagTokens (flagRun args)) with
        | error e' =>
          simp only [hextra, hoperands, hflags] at hparse
          cases hparse
          obtain ⟨token, hfirst, hfault⟩ :=
            (readFlags_eq_error_iff begins_of_mem_flagTokens).mp hflags
          exact .flag hextras (by rw [readOperands_eq_ok_iff.mp hoperands]; rfl)
            (isFirst_flagTokens.mp hfirst) hfault
        | ok flags =>
          simp only [hextra, hoperands, hflags] at hparse
          cases hparse
  · intro hfault
    rw [parse]
    cases hfault with
    | extra hfirst => simp only [badExtra?_eq_some_iff.mpr hfirst]
    | operands hextras hfault =>
      simp only [badExtra?_eq_none_iff.mpr hextras, readOperands_eq_error_iff.mpr hfault]
    | flag hextras hcount hfirst hfault =>
      obtain ⟨bucket, device, hoperands⟩ := List.length_eq_two.mp hcount
      have hflags := (readFlags_eq_error_iff begins_of_mem_flagTokens).mpr
        ⟨_, isFirst_flagTokens.mpr hfirst, hfault⟩
      simp only [badExtra?_eq_none_iff.mpr hextras, readOperands_eq_ok_iff.mpr hoperands, hflags]

/-- A command line is accepted exactly where it is right. -/
theorem parse_accepts_iff {table : FlagTable} {args : List String} :
    (∃ inv, parse table args = .ok inv) ↔
      RightLine table (flagRun args) (operands args) := by
  have hflags : (∃ flags, List.Forall₂ (Flag.Means table) (flagTokens (flagRun args)) flags) ↔
      ∀ token ∈ flagRun args, begins "--nbd" token = false →
        ∃ flag, Flag.Means table token flag := by
    simp only [exists_forall₂_iff, flagTokens_eq, List.mem_filter, Bool.not_eq_true', and_imp]
  simp only [parse_eq_ok_iff]
  constructor
  · rintro ⟨inv, hextras, bucket, device, flags, hoperands, hmeans, -⟩
    exact ⟨hextras, by rw [hoperands]; rfl, hflags.mp ⟨flags, hmeans⟩⟩
  · rintro ⟨hextras, hcount, hright⟩
    obtain ⟨bucket, device, hoperands⟩ := List.length_eq_two.mp hcount
    obtain ⟨flags, hmeans⟩ := hflags.mpr hright
    exact ⟨_, hextras, bucket, device, flags, hoperands, hmeans, rfl⟩

/-- **The grammar of command lines.** A command line has one flag run and one list of operands. It
is accepted exactly where these are right, and refused with exactly the error that the first fault
of the first stage gives. -/
theorem parse_grammar (table : FlagTable) (args : List String) :
    ∃ run rest, Divides args run rest ∧
      (∀ run' rest', Divides args run' rest' → run' = run ∧ rest' = rest) ∧
      ((∃ inv, parse table args = .ok inv) ↔ RightLine table run rest) ∧
      ∀ e, parse table args = .error e ↔ LineFault table run rest e :=
  ⟨flagRun args, operands args, divides_flagRun args,
    fun _ _ => (divides_flagRun args).unique, parse_accepts_iff, fun _ => parse_eq_error_iff⟩

-- An extra decides before the operands, and the operands decide before the flags.
example : parse .plugin ["--nope", "--nbd-x", "bucket"] = .error (.invalidFlag "--nbd-x") := rfl
example : parse .plugin ["--nope", "bucket", "-f", "/dev"] = .error (.invalidFlag "-f") := rfl
example : parse .plugin ["--nope", "--", "-f"] = .error (.operandCount 1) := rfl

end Invocation

end NbdAttach
