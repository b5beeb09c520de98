import NbdAttach.Proofs.CommandLine.ServerArgv

/-!
# Other spellings of a command line

One command line can be spelled in several ways. `Respells` has the single changes: the value of a
switch may be left out, a `--nbd` may stand anywhere in the flag run, and the flag run may be ended
by a `--` where it ends anyway. `Respelled` is any number of such changes, in both directions.

A change happens in the middle of a line that may be wrong in other places, so what has to be shown
is that it is not noticed there. `ReadAlike` says this of two parts of a flag run, and
`ReadAlike.surround` puts the rest of the run around them.
-/

namespace NbdAttach

/-- One change of the spelling. What stands in front of it belongs to the flag run. -/
inductive Respells (table : FlagTable) : List String → List String → Prop
  /-- A switch gets the value that it has without one. -/
  | value {run rest : List String} {name value : String} (hrun : ∀ token ∈ run, IsRunToken token)
      (hname : name ≠ "") (hplain : '=' ∉ name.toList) (hnbd : begins "nbd" name = false)
      (hdeclared : table.Declares name .boolean) (hvalue : SaysTrue value) :
    Respells table (run ++ ("--" ++ name) :: rest) (run ++ ("--" ++ name ++ "=" ++ value) :: rest)
  /-- The marker is put somewhere in the flag run. -/
  | marker {run : List String} (hrun : ∀ token ∈ run, IsRunToken token) (rest : List String) :
    Respells table (run ++ rest) (run ++ "--nbd" :: rest)
  /-- The flag run is ended in front of what does not belong to it. -/
  | terminator {run rest : List String} (hrun : ∀ token ∈ run, IsRunToken token)
      (hrest : ∀ token ∈ rest.head?, begins "-" token = false) :
    Respells table (run ++ rest) (run ++ "--" :: rest)

/-- The command lines differ by any number of changes of the spelling, made or taken back. -/
def Respelled (table : FlagTable) : List String → List String → Prop :=
  Relation.EqvGen (Respells table)

/-! ### Tokens of the flag run -/

/-- A token that begins with two dashes belongs to the flag run, if it goes on. -/
theorem isRunToken_long {body : String} (hbody : body ≠ "") : IsRunToken ("--" ++ body) := by
  refine ⟨begins_of_begins_append "-" "-" (begins_append "--" body), fun heq => hbody ?_⟩
  -- what is added to the two dashes is nothing
  rw [← String.toList_inj, String.toList_append] at heq
  exact String.toList_inj.mp (List.append_right_eq_self.mp heq)

/-- Both spellings of a switch belong to the flag run. -/
theorem isRunToken_switch {name : String} (hname : name ≠ "") (value : String) :
    IsRunToken ("--" ++ name) ∧ IsRunToken ("--" ++ name ++ "=" ++ value) := by
  refine ⟨isRunToken_long hname, ?_⟩
  rw [String.append_assoc, String.append_assoc]
  apply isRunToken_long
  intro hempty
  have hlist := toList_assigned name value
  rw [hempty] at hlist
  simp at hlist

namespace Invocation

variable {table : FlagTable} {run run' : List String}

/-! ### Parts of a flag run that are read alike -/

/-- The two parts of a flag run make no difference for what is read. -/
structure ReadAlike (table : FlagTable) (run run' : List String) : Prop where
  badExtra : badExtra? run = badExtra? run'
  flags : readFlags table (flagTokens run) = readFlags table (flagTokens run')
  serverFlags : (run.filterMap fun token => (Token.read token).serverFlag?) =
    run'.filterMap fun token => (Token.read token).serverFlag?
  extraParams : (run.filterMap fun token => (Token.read token).extraParam?) =
    run'.filterMap fun token => (Token.read token).extraParam?

theorem ReadAlike.refl (table : FlagTable) (run : List String) : ReadAlike table run run :=
  ⟨rfl, rfl, rfl, rfl⟩

/-- Flags are read in order: the second part counts only where the first is right. -/
theorem readFlags_append (table : FlagTable) (tokens tokens' : List String) :
    readFlags table (tokens ++ tokens') =
      (readFlags table tokens).bind fun flags => (readFlags table tokens').map (flags ++ ·) := by
  induction tokens with
  | nil =>
    rw [List.nil_append]
    cases readFlags table tokens' <;> rfl
  | cons token rest ih =>
    rw [List.cons_append, readFlags, readFlags, ih]
    cases Flag.read table token with
    | error e => rfl
    | ok flag =>
      cases readFlags table rest with
      | error e => rfl
      | ok flags => cases readFlags table tokens' <;> rfl

/-- What is read of a flag run is read of its parts, one after the other. -/
theorem ReadAlike.surround (halike : ReadAlike table run run') (before after : List String) :
    ReadAlike table (before ++ (run ++ after)) (before ++ (run' ++ after)) where
  badExtra := by
    have hrun : run.find? (fun token => Token.read token == .badExtra) =
        run'.find? fun token => Token.read token == .badExtra := halike.badExtra
    simp only [badExtra?, List.find?_append, hrun]
  flags := by
    -- a token is a flag wherever it stands
    have hsplit : ∀ part, flagTokens (before ++ (part ++ after)) =
        flagTokens before ++ (flagTokens part ++ flagTokens after) := by
      intro part
      rw [flagTokens, List.filter_append, List.filter_append]
      rfl
    rw [hsplit run, hsplit run', readFlags_append, readFlags_append, readFlags_append,
      readFlags_append, halike.flags]
  serverFlags := by
    simp only [List.filterMap_append, halike.serverFlags]
  extraParams := by
    simp only [List.filterMap_append, halike.extraParams]

/-- A command line is read by its flag run and its operands. -/
theorem ReadAlike.parse_eq {args args' : List String}
    (halike : ReadAlike table (flagRun args) (flagRun args'))
    (hoperands : operands args = operands args') : parse table args = parse table args' := by
  simp only [parse, halike.badExtra, halike.flags, halike.serverFlags, halike.extraParams,
    hoperands]

theorem readAlike_marker (table : FlagTable) : ReadAlike table [] ["--nbd"] :=
  ⟨rfl, rfl, rfl, rfl⟩

/-- Of a token that is no extra there is nothing to read but the flag that it means. -/
theorem read_single_of_means {token : String} {flag : Flag}
    (htoken : begins "--nbd" token = false) (hmeans : Flag.Means table token flag) :
    badExtra? [token] = none ∧ readFlags table (flagTokens [token]) = .ok [flag] ∧
      (Token.read token).serverFlag? = none ∧ (Token.read token).extraParam? = none := by
  refine ⟨?_, ?_, ?_, ?_⟩
  · rw [badExtra?_eq_none_iff]
    intro token' hmem hnbd
    rw [List.mem_singleton.mp hmem, htoken] at hnbd
    cases hnbd
  · have htokens : flagTokens [token] = [token] := by
      rw [flagTokens_eq]
      exact List.filter_cons_of_pos (by rw [htoken]; rfl)
    rw [htokens, readFlags, hmeans.read_eq htoken]
    rfl
  · exact value?_eq_none (fun _ _ => Token.serverFlag?_read_eq_some_iff)
      (not_begins_append htoken "-flag=")
  · exact value?_eq_none (fun _ _ => Token.extraParam?_read_eq_some_iff)
      (not_begins_append htoken "-param=")

/-- Tokens that mean the same flag are read alike. -/
theorem readAlike_of_means {token token' : String} {flag : Flag}
    (htoken : begins "--nbd" token = false) (htoken' : begins "--nbd" token' = false)
    (hmeans : Flag.Means table token flag) (hmeans' : Flag.Means table token' flag) :
    ReadAlike table [token] [token'] := by
  obtain ⟨hbad, hread, hserver, hextra⟩ := read_single_of_means htoken hmeans
  obtain ⟨hbad', hread', hserver', hextra'⟩ := read_single_of_means htoken' hmeans'
  exact {
    badExtra := by rw [hbad, hbad']
    flags := by rw [hread, hread']
    serverFlags := by simp only [List.filterMap_cons, hserver, hserver', List.filterMap_nil]
    extraParams := by simp only [List.filterMap_cons, hextra, hextra', List.filterMap_nil] }

end Invocation

open Invocation

/-! ### Changes of the spelling -/

/-- A part of the flag run is exchanged for another. -/
theorem parse_exchange {table : FlagTable} {before part part' : List String}
    (hbefore : ∀ token ∈ before, IsRunToken token) (hpart : ∀ token ∈ part, IsRunToken token)
    (hpart' : ∀ token ∈ part', IsRunToken token) (halike : ReadAlike table part part')
    (rest : List String) :
    parse table (before ++ (part ++ rest)) = parse table (before ++ (part' ++ rest)) := by
  have hflagRun : ∀ {p}, (∀ token ∈ p, IsRunToken token) →
      flagRun (before ++ (p ++ rest)) = before ++ (p ++ flagRun rest) := by
    intro p hp
    rw [flagRun_append_flagRun hbefore, flagRun_append_flagRun hp]
  have hoperands : ∀ {p}, (∀ token ∈ p, IsRunToken token) →
      operands (before ++ (p ++ rest)) = operands rest := by
    intro p hp
    rw [operands_append hbefore, operands_append hp]
  -- what follows is cut off at the same place, and the operands are the same
  apply ReadAlike.parse_eq
  · rw [hflagRun hpart, hflagRun hpart']
    exact halike.surround before (flagRun rest)
  · rw [hoperands hpart, hoperands hpart']

/-- A single change of the spelling is not noticed. -/
theorem Respells.parse_eq {table : FlagTable} {args args' : List String}
    (hspells : Respells table args args') : parse table args = parse table args' := by
  cases hspells with
  | @value run rest name value hrun hname hplain hnbd hdeclared hvalue =>
    obtain ⟨hbare, hassigned⟩ := isRunToken_switch hname value
    -- both spellings have the same name, so neither is an extra, and both mean the switch
    have hspells : Spells ("--" ++ name) name none := .bare hplain
    have hspells' : Spells ("--" ++ name ++ "=" ++ value) name (some value) :=
      .assigned hplain value
    have halike : ReadAlike table ["--" ++ name] ["--" ++ name ++ "=" ++ value] :=
      readAlike_of_means (hspells.begins_nbd_eq.trans hnbd) (hspells'.begins_nbd_eq.trans hnbd)
        (.switch hspells hdeclared nofun) (.switch hspells' hdeclared fun | _, rfl => hvalue)
    exact parse_exchange hrun (List.forall_mem_singleton.mpr hbare)
      (List.forall_mem_singleton.mpr hassigned) halike rest
  | marker hrun rest =>
    -- the marker takes the place of no token at all
    have hmarker : IsRunToken "--nbd" := @isRunToken_long "nbd" (by decide)
    exact parse_exchange hrun (List.forall_mem_nil _) (List.forall_mem_singleton.mpr hmarker)
      (readAlike_marker table) rest
  | @terminator run rest hrun hrest =>
    -- here nothing is exchanged: both lines have the same flag run and the same operands
    have hflagRun : flagRun (run ++ rest) = flagRun (run ++ "--" :: rest) := by
      rw [flagRun_append_flagRun hrun, flagRun_append_flagRun hrun, flagRun_of_plain hrest]
      rfl
    have hoperands : operands (run ++ rest) = operands (run ++ "--" :: rest) := by
      rw [operands_append hrun, operands_append hrun, operands_of_plain hrest]
      rfl
    refine ReadAlike.parse_eq ?_ hoperands
    rw [hflagRun]
    exact .refl table _

/-! ### The theorem -/

/-- **Spellings.** Command lines that differ in their spelling are read in the same way: what they
say is the same, or they are wrong in the same way. So the commands are the same, too. -/
theorem respelling {table : FlagTable} {args args' : List String} (settings : Settings)
    (endpoint : Endpoint) (hspelled : Respelled table args args') :
    parse table args = parse table args' ∧
      ∀ inv inv', parse table args = .ok inv → parse table args' = .ok inv' →
        inv.serverCommand settings endpoint = inv'.serverCommand settings endpoint ∧
        inv.clientCommand settings endpoint = inv'.clientCommand settings endpoint ∧
        inv.disconnectCommand settings = inv'.disconnectCommand settings := by
  have hparse : parse table args = parse table args' := by
    -- changes can be taken back and made one after the other, as readings are compared by equality
    induction hspelled with
    | rel _ _ hspells => exact hspells.parse_eq
    | refl _ => rfl
    | symm _ _ _ ih => exact ih.symm
    | trans _ _ _ _ _ ih₁ ih₂ => exact ih₁.trans ih₂
  refine ⟨hparse, ?_⟩
  intro inv inv' hinv hinv'
  rw [hparse, hinv'] at hinv
  obtain rfl := Except.ok.inj hinv
  exact ⟨rfl, rfl, rfl⟩

/-- All three changes, one of them taken back. -/
theorem respelled_sampleSwitch :
    Respelled .plugin ["--nbd", "--ssl", "bucket", "/dev/nbd0"]
      ["--ssl=True", "--", "bucket", "/dev/nbd0"] := by
  have hssl : ∀ token ∈ ["--ssl=True"], IsRunToken token :=
    List.forall_mem_singleton.mpr (@isRunToken_long "ssl=True" (by decide))
  have hmarker : Respells .plugin ["--ssl", "bucket", "/dev/nbd0"]
      ["--nbd", "--ssl", "bucket", "/dev/nbd0"] :=
    .marker (List.forall_mem_nil _) ["--ssl", "bucket", "/dev/nbd0"]
  have hvalue : Respells .plugin ["--ssl", "bucket", "/dev/nbd0"]
      ["--ssl=True", "bucket", "/dev/nbd0"] :=
    @Respells.value .plugin [] ["bucket", "/dev/nbd0"] "ssl" "True" (List.forall_mem_nil _)
      (by decide) (by decide) rfl (FlagTable.declares_iff.mpr (by decide))
      (saysTrue_iff.mp (by decide))
  have hterminator : Respells .plugin ["--ssl=True", "bucket", "/dev/nbd0"]
      ["--ssl=True", "--", "bucket", "/dev/nbd0"] :=
    .terminator hssl fun | _, rfl => rfl
  exact ((Relation.EqvGen.rel _ _ hmarker).symm.trans _ _ _ (.rel _ _ hvalue)).trans _ _ _
    (.rel _ _ hterminator)

theorem sampleSwitch_respelling :
    let args := ["--nbd", "--ssl", "bucket", "/dev/nbd0"]
    let args' := ["--ssl=True", "--", "bucket", "/dev/nbd0"]
    Respelled .plugin args args' ∧ (∃ inv, parse .plugin args = .ok inv) ∧
      parse .plugin args = parse .plugin args' ∧
      ∀ inv inv', parse .plugin args = .ok inv → parse .plugin args' = .ok inv' →
        inv.serverCommand {} ⟨⟨"/run/5_1"⟩⟩ = inv'.serverCommand {} ⟨⟨"/run/5_1"⟩⟩ ∧
        inv.clientCommand {} ⟨⟨"/run/5_1"⟩⟩ = inv'.clientCommand {} ⟨⟨"/run/5_1"⟩⟩ ∧
        inv.disconnectCommand {} = inv'.disconnectCommand {} :=
  ⟨respelled_sampleSwitch, ⟨_, rfl⟩, respelling {} ⟨⟨"/run/5_1"⟩⟩ respelled_sampleSwitch⟩

end NbdAttach
