import NbdAttach.Proofs.CommandLine.Grammar

/-!
# Flags behind the bucket

In a command line without `--` the bucket is the first token that is no flag. A flag behind it is
refused, with one exception: where it is the only token behind the bucket there are two operands,
and it is taken for the device. `OperandLaw.taken_iff` says which lines these are.
-/

namespace NbdAttach

/-- Without a `--` the operands follow the flag run, and the first of them is no flag. -/
theorem Divides.rest_plain {args run rest : List String} (h : Divides args run rest)
    (hterminator : "--" ∉ args) :
    args = run ++ rest ∧ ∀ token ∈ rest.head?, begins "-" token = false := by
  rcases h.rest with heq | ⟨heq, hhead⟩
  · exact absurd (by rw [heq]; simp) hterminator
  refine ⟨heq, ?_⟩
  cases rest with
  | nil => nofun
  | cons token more =>
    rintro _ ⟨rfl⟩
    refine Bool.eq_false_iff.mpr fun hdash => ?_
    -- the flag run would be longer by this token
    have hrun : ∀ t ∈ run ++ [token], IsRunToken t := by
      intro t ht
      rcases List.mem_append.mp ht with ht | ht
      · exact h.flags t ht
      · rw [List.mem_singleton.mp ht]
        exact ⟨hdash, fun heq => hhead (congrArg some heq)⟩
    have hprefix : run ++ [token] <+: args := ⟨more, by rw [heq, List.append_assoc]; rfl⟩
    have hlength := (h.longest _ hprefix hrun).length_le
    simp at hlength

/-- A line whose operands are known, and begin with no flag. -/
theorem divides_of_plain {run rest : List String} (hrun : ∀ token ∈ run, IsRunToken token)
    (hrest : ∀ token ∈ rest.head?, begins "-" token = false) : Divides (run ++ rest) run rest := by
  have hdivides := divides_flagRun (run ++ rest)
  rwa [flagRun_append_flagRun hrun, flagRun_of_plain hrest, List.append_nil, operands_append hrun,
    operands_of_plain hrest] at hdivides

namespace Invocation

variable {table : FlagTable} {args : List String}

/-- The operands of an accepted line are its bucket and its device. -/
theorem operands_of_parse {inv : Invocation} (hparse : parse table args = .ok inv) :
    operands args = [inv.bucket, inv.device.text] := by
  obtain ⟨-, bucket, device, flags, hoperands, -, rfl⟩ := parse_eq_ok_iff.mp hparse
  exact hoperands

/-- An accepted line without `--` consists of its flag run, a bucket that is no flag, and a
device. -/
theorem accepted_parts {inv : Invocation} (hterminator : "--" ∉ args)
    (hparse : parse table args = .ok inv) :
    ∃ run, Divides args run [inv.bucket, inv.device.text] ∧
      args = run ++ [inv.bucket, inv.device.text] ∧ begins "-" inv.bucket = false ∧
      RightLine table run [inv.bucket, inv.device.text] := by
  have hright := parse_accepts_iff.mp ⟨inv, hparse⟩
  have hdivides := divides_flagRun args
  rw [operands_of_parse hparse] at hdivides hright
  obtain ⟨hargs, hplain⟩ := hdivides.rest_plain hterminator
  exact ⟨flagRun args, hdivides, hargs, hplain inv.bucket rfl, hright⟩

/-- A right line without `--` is accepted with its operands as they are, the device also where it is
a flag. -/
theorem parse_of_rightLine {run : List String} {bucket device : String}
    (hrun : ∀ token ∈ run, IsRunToken token) (hbucket : begins "-" bucket = false)
    (hright : RightLine table run [bucket, device]) :
    ∃ inv, parse table (run ++ [bucket, device]) = .ok inv ∧ inv.device.text = device := by
  have hdivides : Divides (run ++ [bucket, device]) run [bucket, device] :=
    divides_of_plain hrun fun | _, rfl => hbucket
  obtain ⟨hflagRun, hoperands⟩ := hdivides.unique (divides_flagRun _)
  have hline : RightLine table (flagRun (run ++ [bucket, device]))
      (operands (run ++ [bucket, device])) := by
    rw [hflagRun, hoperands]
    exact hright
  obtain ⟨inv, hparse⟩ := parse_accepts_iff.mpr hline
  have hsame := (operands_of_parse hparse).symm.trans hoperands
  exact ⟨inv, hparse, (List.cons.inj (List.cons.inj hsame).2).1⟩

/-- A flag among several tokens behind the bucket is refused, if nothing before it is. -/
theorem parse_of_stray {run more : List String} {bucket : String}
    (hdivides : Divides args run (bucket :: more)) (hcount : more.length ≠ 1)
    (hstray : ∃ token ∈ more, begins "-" token = true) :
    ∃ token, parse table args = .error (.invalidFlag token) := by
  obtain ⟨rfl, hoperands⟩ := (divides_flagRun args).unique hdivides
  simp only [parse_eq_error_iff, ← hoperands]
  -- a wrong extra is found before the operands are looked at
  cases hextra : badExtra? (flagRun args) with
  | some token => exact ⟨token, .extra (badExtra?_eq_some_iff.mp hextra)⟩
  | none =>
    cases hfind : (bucket :: more).tail.find? isDashed with
    | some token =>
      have hlength : (bucket :: more).length ≠ 2 := fun heq => hcount (Nat.succ.inj heq)
      have hfault := OperandFault.stray hlength (stray?_eq_some_iff.mp hfind)
      exact ⟨token, .operands (badExtra?_eq_none_iff.mp hextra) hfault⟩
    | none =>
      obtain ⟨token, htoken, hdash⟩ := hstray
      rw [stray?_eq_none_iff.mp hfind token htoken] at hdash
      cases hdash

/-! ### The theorem -/

/-- What becomes of a flag that stands behind the bucket. -/
structure OperandLaw (table : FlagTable) (args : List String) : Prop where
  /-- The bucket is no flag. -/
  bucket : ∀ inv, parse table args = .ok inv → begins "-" inv.bucket = false
  /-- A flag is taken for the device exactly where it is the only token behind the bucket, and the
  line is right otherwise. -/
  taken_iff : (∃ inv, parse table args = .ok inv ∧ begins "-" inv.device.text = true) ↔
    ∃ run bucket flag, args = run ++ [bucket, flag] ∧ (∀ token ∈ run, IsRunToken token) ∧
      begins "-" bucket = false ∧ begins "-" flag = true ∧ RightLine table run [bucket, flag]
  /-- With other tokens behind the bucket, a flag among them is refused. -/
  refused : ∀ run bucket more, Divides args run (bucket :: more) → more.length ≠ 1 →
    (∃ token ∈ more, begins "-" token = true) →
    ∃ token, parse table args = .error (.invalidFlag token)

/-- **Flags behind the bucket.** In a line without `--` no flag is taken for the bucket. One is
taken for the device in one case only, which is the one in which it is not looked for. -/
theorem operand_law (table : FlagTable) {args : List String} (hterminator : "--" ∉ args) :
    OperandLaw table args where
  bucket inv hparse := by
    obtain ⟨run, -, -, hbucket, -⟩ := accepted_parts hterminator hparse
    exact hbucket
  taken_iff := by
    constructor
    · rintro ⟨inv, hparse, hdevice⟩
      obtain ⟨run, hdivides, hargs, hbucket, hright⟩ := accepted_parts hterminator hparse
      exact ⟨run, inv.bucket, inv.device.text, hargs, hdivides.flags, hbucket, hdevice, hright⟩
    · rintro ⟨run, bucket, flag, rfl, hrun, hbucket, hflag, hright⟩
      obtain ⟨inv, hparse, rfl⟩ := parse_of_rightLine hrun hbucket hright
      exact ⟨inv, hparse, hflag⟩
  refused _ _ _ hdivides hcount hstray := parse_of_stray hdivides hcount hstray

theorem strayLine_operand_law :
    let args := ["--readOnly", "bucket", "--ssl"]
    "--" ∉ args ∧ OperandLaw .plugin args ∧
      ∃ inv, parse .plugin args = .ok inv ∧ begins "-" inv.device.text = true :=
  ⟨by decide, operand_law .plugin (by decide), _, rfl, rfl⟩

/-- That no flag is ever taken for an operand would be too much to say. -/
theorem not_forall_operands_plain :
    ¬∀ (table : FlagTable) (args : List String) (inv : Invocation), "--" ∉ args →
      parse table args = .ok inv →
      begins "-" inv.bucket = false ∧ begins "-" inv.device.text = false := by
  intro h
  have hdevice := (h .plugin ["bucket", "--ssl"] _ (by decide) rfl).2
  cases hdevice

-- One more token, before or behind the flag, and it is refused.
example : parse .plugin ["bucket", "--ssl", "/dev/nbd0"] = .error (.invalidFlag "--ssl") := rfl
example : parse .plugin ["bucket", "/dev/nbd0", "--ssl"] = .error (.invalidFlag "--ssl") := rfl

end Invocation

end NbdAttach
