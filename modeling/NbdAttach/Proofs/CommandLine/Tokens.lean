import Mathlib
import NbdAttach.CommandLine.Invocation

/-!
# The spelling of tokens

What the single tokens of a command line mean, said by how they are spelled: which text they begin
with, and what stands before and after their first `=`.

* `Token.Reads` has one spelling for each kind of token; `Token.reads_iff` says that tokens are read
  by it.
* `Flag.Means` is about the flags that a table declares, and `Flag.Fault` about the tokens that are
  no flag; `Flag.read_eq_ok_iff` and `Flag.read_eq_error_iff` say that flags are read by them.

The lemmas `exists_reads` and `exists_means_or_fault` carry these results: as every token has a
spelling, it is enough that each spelling is read in the right way.
-/

namespace NbdAttach

open Text

/-! ### Beginnings of texts -/

/-- Does the text begin with `head`? -/
def begins (head text : String) : Bool :=
  head.toList.isPrefixOf text.toList

/-- A beginning is what can be taken off in front. -/
theorem begins_iff {head text : String} :
    begins head text = true ↔ ∃ rest, text = head ++ rest := by
  rw [begins, List.isPrefixOf_iff_prefix]
  constructor
  · rintro ⟨rest, hrest⟩
    refine ⟨String.ofList rest, String.toList_inj.mp ?_⟩
    rw [String.toList_append, String.toList_ofList, hrest]
  · rintro ⟨rest, rfl⟩
    exact ⟨rest.toList, String.toList_append.symm⟩

@[simp] theorem begins_append (head rest : String) : begins head (head ++ rest) = true :=
  begins_iff.mpr ⟨rest, rfl⟩

/-- A beginning in common makes no difference. -/
theorem begins_append_append (head more text : String) :
    begins (head ++ more) (head ++ text) = begins more text := by
  rw [begins, String.toList_append, String.toList_append, begins, Bool.eq_iff_iff,
    List.isPrefixOf_iff_prefix, List.isPrefixOf_iff_prefix]
  exact List.prefix_append_right_inj _

/-- What begins with a text begins with each beginning of it. -/
theorem begins_of_begins_append (head more : String) {token : String}
    (htoken : begins (head ++ more) token = true) : begins head token = true := by
  obtain ⟨rest, rfl⟩ := begins_iff.mp htoken
  rw [String.append_assoc]
  exact begins_append head _

/-- What does not begin with a text does not begin with a longer one. -/
theorem not_begins_append {head token : String} (htoken : begins head token = false)
    (more : String) : begins (head ++ more) token = false :=
  Bool.eq_false_iff.mpr fun h =>
    Bool.eq_false_iff.mp htoken (begins_of_begins_append head more h)

/-- A token with a dash in front begins with one. -/
theorem isDashed_eq (token : String) : isDashed token = begins "-" token := by
  rw [isDashed, begins]
  cases token.toList with
  | nil => rfl
  | cons c rest => by_cases hc : c = '-' <;> simp [List.isPrefixOf, hc, eq_comm]

/-! ### Spellings -/

/-- The extras of a command line. -/
def RightExtra (token : String) : Prop :=
  token = "--nbd" ∨ begins "--nbd-flag=" token = true ∨ begins "--nbd-param=" token = true

/-- `token` is `--name` or `--name=value`, and the `=` in front of the value is its first. -/
inductive Spells : String → String → Option String → Prop
  | bare {name : String} (hname : '=' ∉ name.toList) : Spells ("--" ++ name) name none
  | assigned {name : String} (hname : '=' ∉ name.toList) (value : String) :
    Spells ("--" ++ name ++ "=" ++ value) name (some value)

/-- A text has no `=`, or it has a first one. -/
theorem cut_cases (body : String) :
    '=' ∉ body.toList ∨ ∃ name value, '=' ∉ name.toList ∧ body = name ++ ("=" ++ value) := by
  cases hcut : (cutAt '=' body.toList).2 with
  | none => exact Or.inl (cutAt_eq_none_iff.mp hcut)
  | some value =>
    refine Or.inr ⟨String.ofList (cutAt '=' body.toList).1, String.ofList value, ?_, ?_⟩
    · rw [String.toList_ofList]
      exact notMem_cutAt_fst '=' body.toList
    · apply String.toList_inj.mp
      simpa using join_cutAt hcut

/-- Whatever follows two dashes is a name, perhaps with a value. -/
theorem exists_spells (body : String) : ∃ name value?, Spells ("--" ++ body) name value? := by
  rcases cut_cases body with hnone | ⟨name, value, hname, rfl⟩
  · exact ⟨body, none, .bare hnone⟩
  · exact ⟨name, some value, by simpa only [String.append_assoc] using Spells.assigned hname value⟩

theorem toList_assigned (name value : String) :
    (name ++ ("=" ++ value)).toList = name.toList ++ '=' :: value.toList := by
  simp

/-- A beginning without a `=` does not reach behind the first one. -/
theorem begins_assigned {head : String} (hhead : '=' ∉ head.toList) (name value : String) :
    begins head (name ++ ("=" ++ value)) = begins head name := by
  rw [begins, begins, Bool.eq_iff_iff, List.isPrefixOf_iff_prefix, List.isPrefixOf_iff_prefix,
    toList_assigned]
  constructor
  · rintro ⟨rest, hrest⟩
    -- the beginning ends within the name, or reaches into what is behind it
    rcases List.append_eq_append_iff.mp hrest with ⟨more, hmore, -⟩ | ⟨more, hmore, hvalue⟩
    · exact ⟨more, hmore.symm⟩
    · cases more with
      | nil => exact ⟨[], by rw [hmore, List.append_nil, List.append_nil]⟩
      | cons c more =>
        -- the beginning would go on with the `=` behind the name
        obtain ⟨rfl, -⟩ := List.cons.inj hvalue
        exact absurd (by rw [hmore]; simp) hhead
  · intro hname
    exact hname.trans (List.prefix_append ..)

/-- A token is an extra, right or wrong, if its name begins like one. -/
theorem Spells.begins_nbd_eq {token name : String} {value? : Option String}
    (hspells : Spells token name value?) : begins "--nbd" token = begins "nbd" name := by
  cases hspells with
  | bare _ => exact begins_append_append "--" "nbd" name
  | assigned _ value =>
    rw [String.append_assoc, String.append_assoc]
    exact (begins_append_append "--" "nbd" _).trans (begins_assigned (by decide) name value)

/-- The tokens of the flag run by their spelling. -/
inductive Token.Reads : String → Token → Prop
  | marker : Reads "--nbd" .marker
  | serverFlag (value : String) : Reads ("--nbd-flag=" ++ value) (.serverFlag value)
  | extraParam (value : String) : Reads ("--nbd-param=" ++ value) (.extraParam value)
  | badExtra {token : String} (htoken : begins "--nbd" token = true) (hwrong : ¬RightExtra token) :
    Reads token .badExtra
  | foreground : Reads "-f" .foreground
  | debug : Reads "-d" .debug
  | named {token name : String} {value? : Option String} (htoken : begins "--nbd" token = false)
      (hspells : Spells token name value?) : Reads token (.named name value?)
  | badOption {token : String} (htoken : begins "--" token = false) (hf : token ≠ "-f")
      (hd : token ≠ "-d") : Reads token .badOption

namespace Token

/-- A token that begins with `--nbd` is an extra, and what follows decides which. -/
theorem read_nbd (rest : String) : read ("--nbd" ++ rest) = readExtra rest.toList := by
  rw [read, String.toList_append]
  rfl

/-- Any other token with two dashes is cut at its first `=`. -/
theorem read_long {body : String} (hbody : begins "--nbd" ("--" ++ body) = false) :
    read ("--" ++ body) = .named (String.ofList (cutAt '=' body.toList).1)
      ((cutAt '=' body.toList).2.map String.ofList) := by
  have hlist : ("--" ++ body).toList = '-' :: '-' :: body.toList := String.toList_append
  rw [begins, hlist] at hbody
  simp only [read, hlist]
  split
  · -- the extras come first among the cases
    next rest heq => simp [heq] at hbody
  · rfl

/-- Of the tokens without two dashes, only `-f` and `-d` have a meaning. -/
theorem read_short {token : String} (htoken : begins "--" token = false) (hf : token ≠ "-f")
    (hd : token ≠ "-d") : read token = .badOption := by
  simp only [read]
  split
  · -- a name needs two dashes
    next body heq => simp [begins, heq] at htoken
  · next heq => exact absurd (String.toList_inj.mp heq) hf
  · next heq => exact absurd (String.toList_inj.mp heq) hd
  · rfl

/-- An extra without a value is `--nbd` itself, or a wrong one. -/
theorem read_nbd_bare {rest : String} (hsome : rest ≠ "") (hrest : '=' ∉ rest.toList) :
    read ("--nbd" ++ rest) = .badExtra := by
  rw [read_nbd]
  unfold readExtra
  split
  · next heq => exact absurd (String.toList_inj.mp heq) hsome
  · simp only [cutAt_of_notMem hrest]

/-- With a value, the name in front of the first `=` decides. -/
theorem read_nbd_assigned {name : String} (hname : '=' ∉ name.toList) (value : String) :
    read ("--nbd" ++ (name ++ ("=" ++ value))) =
      if name = "-flag" then .serverFlag value
      else if name = "-param" then .extraParam value
      else .badExtra := by
  rw [read_nbd, toList_assigned]
  unfold readExtra
  split
  · next heq => simp at heq
  · simp only [cutAt_append hname, String.toList_inj, String.ofList_toList]

/-- Of the tokens that begin with `--nbd`, only the extras are right. -/
theorem read_of_not_rightExtra {token : String} (htoken : begins "--nbd" token = true)
    (hwrong : ¬RightExtra token) : read token = .badExtra := by
  obtain ⟨rest, rfl⟩ := begins_iff.mp htoken
  -- without a value only `--nbd` itself is right, and with one only the two names are
  rcases cut_cases rest with hnone | ⟨name, value, hname, rfl⟩
  · refine read_nbd_bare ?_ hnone
    rintro rfl
    exact hwrong (Or.inl rfl)
  · rw [read_nbd_assigned hname, if_neg, if_neg]
    · rintro rfl
      refine hwrong (Or.inr (Or.inr ?_))
      rw [← String.append_assoc, ← String.append_assoc]
      exact begins_append "--nbd-param=" value
    · rintro rfl
      refine hwrong (Or.inr (Or.inl ?_))
      rw [← String.append_assoc, ← String.append_assoc]
      exact begins_append "--nbd-flag=" value

/-- Tokens are read as their spelling says. -/
theorem Reads.read_eq {token : String} {t : Token} (hreads : Reads token t) : read token = t := by
  cases hreads with
  | marker => rfl
  | serverFlag value =>
    -- the `=` of the beginning is the first of the token, whatever the value is
    have hread := read_nbd_assigned (show '=' ∉ "-flag".toList by decide) value
    rwa [← String.append_assoc, ← String.append_assoc] at hread
  | extraParam value =>
    have hread := read_nbd_assigned (show '=' ∉ "-param".toList by decide) value
    rwa [← String.append_assoc, ← String.append_assoc] at hread
  | badExtra htoken hwrong => exact read_of_not_rightExtra htoken hwrong
  | foreground => rfl
  | debug => rfl
  | @named _ name _ htoken hspells =>
    cases hspells with
    | bare hname =>
      rw [read_long htoken, cutAt_of_notMem hname, Option.map_none, String.ofList_toList]
    | assigned hname value =>
      rw [String.append_assoc, String.append_assoc] at htoken ⊢
      rw [read_long htoken, toList_assigned, cutAt_append hname]
      simp only [Option.map_some, String.ofList_toList]
  | badOption htoken hf hd => exact read_short htoken hf hd

/-- Every token has a spelling. -/
theorem exists_reads (token : String) : ∃ t, Reads token t := by
  cases hnbd : begins "--nbd" token with
  | true =>
    by_cases hright : RightExtra token
    · rcases hright with rfl | hflag | hparam
      · exact ⟨_, .marker⟩
      · obtain ⟨value, rfl⟩ := begins_iff.mp hflag
        exact ⟨_, .serverFlag value⟩
      · obtain ⟨value, rfl⟩ := begins_iff.mp hparam
        exact ⟨_, .extraParam value⟩
    · exact ⟨_, .badExtra hnbd hright⟩
  | false =>
    cases hlong : begins "--" token with
    | true =>
      obtain ⟨body, rfl⟩ := begins_iff.mp hlong
      obtain ⟨name, value?, hspells⟩ := exists_spells body
      exact ⟨_, .named hnbd hspells⟩
    | false =>
      rcases eq_or_ne token "-f" with rfl | hf
      · exact ⟨_, .foreground⟩
      rcases eq_or_ne token "-d" with rfl | hd
      · exact ⟨_, .debug⟩
      exact ⟨_, .badOption hlong hf hd⟩

/-- **Tokens are read by their spelling.** -/
theorem reads_iff {token : String} {t : Token} : Reads token t ↔ read token = t := by
  constructor
  · exact Reads.read_eq
  · rintro rfl
    obtain ⟨t, hreads⟩ := exists_reads token
    rw [hreads.read_eq]
    exact hreads

/-- The extras, right and wrong ones, are the tokens that begin with `--nbd`. These are set aside
before the flags are read. -/
theorem isExtra_read (token : String) : (read token).isExtra = begins "--nbd" token := by
  obtain ⟨t, hreads⟩ := exists_reads token
  rw [hreads.read_eq]
  cases hreads with
  | marker => rfl
  | serverFlag value => simp [isExtra, begins]
  | extraParam value => simp [isExtra, begins]
  | badExtra htoken _ => exact htoken.symm
  | foreground => rfl
  | debug => rfl
  | named htoken _ => exact htoken.symm
  | badOption htoken _ _ =>
    -- what does not begin with `--` does not begin with `--nbd`
    refine (Bool.eq_false_iff.mpr fun hnbd => ?_).symm
    obtain ⟨rest, rfl⟩ := begins_iff.mp hnbd
    simp [begins] at htoken

/-- A wrong extra begins with `--nbd` and is none of the three right ones. -/
theorem read_eq_badExtra_iff {token : String} :
    read token = .badExtra ↔ begins "--nbd" token = true ∧ ¬RightExtra token := by
  rw [← reads_iff]
  constructor
  · rintro ⟨⟩
    exact ⟨‹_›, ‹_›⟩
  · exact fun h => .badExtra h.1 h.2

/-- The flag that a token adds for the server is what stands behind the fixed beginning. -/
theorem serverFlag?_read_eq_some_iff {token value : String} :
    (read token).serverFlag? = some value ↔ token = "--nbd-flag=" ++ value := by
  constructor
  · intro hvalue
    obtain ⟨t, hreads⟩ := exists_reads token
    rw [hreads.read_eq] at hvalue
    cases hreads <;> cases hvalue
    rfl
  · rintro rfl
    rw [(Reads.serverFlag value).read_eq, serverFlag?]

/-- The same for the parameters that are taken over as they are. -/
theorem extraParam?_read_eq_some_iff {token value : String} :
    (read token).extraParam? = some value ↔ token = "--nbd-param=" ++ value := by
  constructor
  · intro hvalue
    obtain ⟨t, hreads⟩ := exists_reads token
    rw [hreads.read_eq] at hvalue
    cases hreads <;> cases hvalue
    rfl
  · rintro rfl
    rw [(Reads.extraParam value).read_eq, extraParam?]

end Token

/-! ### Flags -/

/-- Texts that differ from `true` only in the case of ASCII letters. -/
def SaysTrue (value : String) : Prop :=
  List.Forall₂ (fun c letter => c = letter ∨ c = letter.toUpper) value.toList "true".toList

/-- Two characters become the same small letter: the letter itself and its capital. -/
theorem toLower_eq_iff {c letter : Char} (hletter : letter.isLower = true) :
    c.toLower = letter ↔ c = letter ∨ c = letter.toUpper := by
  have hfixed : letter.toLower = letter :=
    Char.toLower_eq_of_not_isUpper (Char.not_isUpper_of_isLower hletter)
  constructor
  · rintro rfl
    -- a capital is the capital of its small letter, and anything else stays as it is
    by_cases hc : c.isUpper = true
    · rw [Char.toUpper_toLower_eq_toUpper,
        Char.toUpper_eq_of_not_isLower (Char.not_isLower_of_isUpper hc)]
      exact Or.inr rfl
    · exact Or.inl (Char.toLower_eq_of_not_isUpper hc).symm
  · rintro (rfl | rfl)
    · exact hfixed
    · rw [Char.toLower_toUpper_eq_toLower, hfixed]

/-- The same for texts of small letters, character by character. -/
theorem map_toLower_eq_iff {cs letters : List Char}
    (hletters : ∀ letter ∈ letters, letter.isLower = true) :
    cs.map Char.toLower = letters ↔
      List.Forall₂ (fun c letter => c = letter ∨ c = letter.toUpper) cs letters := by
  induction cs generalizing letters with
  | nil => cases letters <;> simp
  | cons c cs ih =>
    cases letters with
    | nil => simp
    | cons letter letters =>
      rw [List.forall_mem_cons] at hletters
      rw [List.map_cons, List.cons_eq_cons, toLower_eq_iff hletters.1, ih hletters.2,
        List.forall₂_cons]

/-- The comparison that ignores the case is one of this kind. -/
theorem saysTrue_iff {value : String} : saysTrue value = true ↔ SaysTrue value := by
  rw [saysTrue, beq_iff_eq, SaysTrue, map_toLower_eq_iff]
  simp

/-- The last entry for a name decides. -/
def FlagTable.Declares (table : FlagTable) (name : String) (kind : FlagKind) : Prop :=
  ∃ before after, table.entries = before ++ (name, kind) :: after ∧
    ∀ entry ∈ after, entry.1 ≠ name

/-- The look-up in the table finds the entry that decides. -/
theorem FlagTable.declares_iff {table : FlagTable} {name : String} {kind : FlagKind} :
    table.Declares name kind ↔ table.kind? name = some kind := by
  rw [kind?, List.lookup_eq_some_iff]
  constructor
  · rintro ⟨before, after, heq, hafter⟩
    -- the table is looked up from its end
    refine ⟨after.reverse, before.reverse, by simp [heq], fun entry hentry => ?_⟩
    exact bne_iff_ne.mpr (hafter entry (List.mem_reverse.mp hentry)).symm
  · rintro ⟨after, before, heq, hafter⟩
    refine ⟨before.reverse, after.reverse, ?_, fun entry hentry => ?_⟩
    · rw [List.reverse_eq_iff] at heq
      simp [heq]
    · exact (bne_iff_ne.mp (hafter entry (List.mem_reverse.mp hentry))).symm

namespace Flag

/-- What a token of the flag run means as a flag. -/
inductive Means (table : FlagTable) : String → Flag → Prop
  | foreground : Means table "-f" .foreground
  | debug : Means table "-d" .debug
  | switch {token name : String} {value? : Option String} (hspells : Spells token name value?)
      (hname : table.Declares name .boolean) (hvalue : ∀ value ∈ value?, SaysTrue value) :
    Means table token (.switch name)
  | valued {token name value : String} (hspells : Spells token name (some value))
      (hname : table.Declares name .valued) : Means table token (.valued name value)

/-- What is wrong with a token of the flag run that is no flag. -/
inductive Fault (table : FlagTable) : String → UsageError → Prop
  | unspelled {token : String} (hf : token ≠ "-f") (hd : token ≠ "-d")
      (hspells : ∀ name value?, ¬Spells token name value?) : Fault table token (.invalidFlag token)
  | undeclared {token name : String} {value? : Option String} (hspells : Spells token name value?)
      (hname : ∀ kind, ¬table.Declares name kind) : Fault table token (.invalidFlag token)
  | notBoolean {token name value : String} (hspells : Spells token name (some value))
      (hname : table.Declares name .boolean) (hvalue : ¬SaysTrue value) :
    Fault table token (.notBoolean name value)
  | missingValue {token name : String} (hspells : Spells token name none)
      (hname : table.Declares name .valued) : Fault table token (.missingValue name)

variable {table : FlagTable} {token : String}

/-- A token is read as the flag that it means, if it is no extra. -/
theorem Means.read_eq {flag : Flag} (htoken : begins "--nbd" token = false)
    (hmeans : Means table token flag) : read table token = .ok flag := by
  cases hmeans with
  | foreground => rfl
  | debug => rfl
  | @switch _ name value? hspells hname hvalue =>
    have hread := (Token.Reads.named htoken hspells).read_eq
    simp only [read, hread, ofNamed, FlagTable.declares_iff.mp hname]
    cases value? with
    | none => rfl
    -- a value of a switch can only repeat that it is on
    | some value => exact if_pos (saysTrue_iff.mpr (hvalue value rfl))
  | valued hspells hname =>
    have hread := (Token.Reads.named htoken hspells).read_eq
    simp only [read, hread, ofNamed, FlagTable.declares_iff.mp hname]

/-- What is wrong with a token is the error with which it is refused. -/
theorem Fault.read_eq {e : UsageError} (htoken : begins "--nbd" token = false)
    (hfault : Fault table token e) : read table token = .error e := by
  cases hfault with
  | unspelled hf hd hspells =>
    -- a token with two dashes would have a spelling
    have hshort : begins "--" token = false := by
      refine Bool.eq_false_iff.mpr fun hlong => ?_
      obtain ⟨body, rfl⟩ := begins_iff.mp hlong
      obtain ⟨name, value?, hspells'⟩ := exists_spells body
      exact hspells name value? hspells'
    simp only [read, (Token.Reads.badOption hshort hf hd).read_eq]
  | @undeclared name _ hspells hname =>
    have hread := (Token.Reads.named htoken hspells).read_eq
    have hkind : table.kind? name = none :=
      Option.eq_none_iff_forall_ne_some.mpr fun kind hkind =>
        hname kind (FlagTable.declares_iff.mpr hkind)
    simp only [read, hread, ofNamed, hkind]
  | notBoolean hspells hname hvalue =>
    have hread := (Token.Reads.named htoken hspells).read_eq
    simp only [read, hread, ofNamed, FlagTable.declares_iff.mp hname]
    exact if_neg fun htrue => hvalue (saysTrue_iff.mp htrue)
  | missingValue hspells hname =>
    have hread := (Token.Reads.named htoken hspells).read_eq
    simp only [read, hread, ofNamed, FlagTable.declares_iff.mp hname]

/-- A token is a flag, or something is wrong with it. -/
theorem exists_means_or_fault (table : FlagTable) (token : String) :
    (∃ flag, Means table token flag) ∨ ∃ e, Fault table token e := by
  rcases eq_or_ne token "-f" with rfl | hf
  · exact Or.inl ⟨_, .foreground⟩
  rcases eq_or_ne token "-d" with rfl | hd
  · exact Or.inl ⟨_, .debug⟩
  by_cases hspells : ∃ name value?, Spells token name value?
  · obtain ⟨name, value?, hspells⟩ := hspells
    -- it is up to the table whether the name is right with this value, or without one
    cases hkind : table.kind? name with
    | none =>
      refine Or.inr ⟨_, .undeclared hspells fun kind hname => ?_⟩
      rw [FlagTable.declares_iff, hkind] at hname
      cases hname
    | some kind =>
      have hname := FlagTable.declares_iff.mpr hkind
      cases kind with
      | boolean =>
        cases value? with
        | none => exact Or.inl ⟨_, .switch hspells hname nofun⟩
        | some value =>
          by_cases hvalue : SaysTrue value
          · exact Or.inl ⟨_, .switch hspells hname fun | _, rfl => hvalue⟩
          · exact Or.inr ⟨_, .notBoolean hspells hname hvalue⟩
      | valued =>
        cases value? with
        | none => exact Or.inr ⟨_, .missingValue hspells hname⟩
        | some value => exact Or.inl ⟨_, .valued hspells hname⟩
  · exact Or.inr ⟨_, .unspelled hf hd fun name value? h => hspells ⟨name, value?, h⟩⟩

/-- **Flags are read by their meaning.** A token has a meaning or a fault, so the one that was read
is its meaning. -/
theorem read_eq_ok_iff {flag : Flag} (htoken : begins "--nbd" token = false) :
    read table token = .ok flag ↔ Means table token flag := by
  constructor
  · intro hread
    -- the meaning is there by `exists_means_or_fault`, and it is the one that was read
    rcases exists_means_or_fault table token with ⟨flag', hmeans⟩ | ⟨e, hfault⟩
    · rw [hmeans.read_eq htoken] at hread
      exact Except.ok.inj hread ▸ hmeans
    · rw [hfault.read_eq htoken] at hread
      cases hread
  · exact Means.read_eq htoken

/-- **Tokens are refused for what is wrong with them.** By the same argument, with the fault in
place of the meaning. -/
theorem read_eq_error_iff {e : UsageError} (htoken : begins "--nbd" token = false) :
    read table token = .error e ↔ Fault table token e := by
  constructor
  · intro hread
    rcases exists_means_or_fault table token with ⟨flag, hmeans⟩ | ⟨e', hfault⟩
    · rw [hmeans.read_eq htoken] at hread
      cases hread
    · rw [hfault.read_eq htoken] at hread
      exact Except.error.inj hread ▸ hfault
  · exact Fault.read_eq htoken

end Flag

end NbdAttach
