import NbdAttach.Proofs.CommandLine.Operands
import NbdAttach.Proofs.CommandLine.ServerArgv

/-!
# What each command is told

The device concerns the client alone, and all else on a command line concerns the server alone, save
the switch to read only. Both halves compare two command lines: `DeviceLaw.server` two that differ
in the device, and `DeviceLaw.client` two that may differ in everything but the device.

The first half rests on `Invocation.parse_device`: the device decides nothing while a line is read.
This needs that another device does not change what the tokens in front of it are, also where it
looks like a flag (`operands_concat`).
-/

namespace NbdAttach

/-! ### The last operand -/

/-- There are at most as many operands as there are tokens. -/
theorem length_operands_le (args : List String) : (operands args).length ≤ args.length := by
  have hlength := (List.dropWhile_suffix inFlagRun : args.dropWhile inFlagRun <:+ args).length_le
  unfold operands
  split
  · exact Nat.zero_le _
  · next heq =>
    rw [heq, List.length_cons] at hlength
    split
    · omega
    · exact hlength

/-- What stands behind an operand is an operand, whatever it looks like. -/
theorem operands_concat {front : List String} (hfront : front.dropWhile inFlagRun ≠ [])
    (last : String) :
    flagRun (front ++ [last]) = flagRun front ∧
      operands (front ++ [last]) = operands front ++ [last] := by
  constructor
  · -- the flag run is shorter than what stands in front of the last token
    have hsplit := congrArg List.length
      (List.takeWhile_append_dropWhile :
        front.takeWhile inFlagRun ++ front.dropWhile inFlagRun = front)
    have hsome := List.length_pos_iff.mpr hfront
    rw [List.length_append] at hsplit
    rw [flagRun, List.takeWhile_append, if_neg (by omega), flagRun]
  · -- the first operand is there already, so the last token comes behind it
    obtain ⟨token, more, heq⟩ := List.exists_cons_of_ne_nil hfront
    simp only [operands, List.dropWhile_append, heq, List.isEmpty_cons, Bool.false_eq_true,
      if_false, List.cons_append]
    split <;> rfl

/-- Without the second of its two operands, a line has the same flag run and the first operand. -/
theorem operands_dropLast {args : List String} {bucket device : String}
    (hoperands : operands args = [bucket, device]) :
    flagRun args = flagRun args.dropLast ∧ operands args.dropLast = [bucket] := by
  have hsome : args ≠ [] := by
    rintro rfl
    cases hoperands
  have hargs := List.dropLast_concat_getLast hsome
  have hfront : args.dropLast.dropWhile inFlagRun ≠ [] := by
    intro hnone
    -- otherwise there would be one operand at most, the last token
    have hrun : ∀ token ∈ args.dropLast, IsRunToken token := fun token h =>
      inFlagRun_iff.mp (List.dropWhile_eq_nil_iff.mp hnone token h)
    have hlength := length_operands_le [args.getLast hsome]
    rw [← operands_append hrun, hargs, hoperands] at hlength
    exact absurd hlength (by simp)
  obtain ⟨hflagRun, hlast⟩ := operands_concat hfront (args.getLast hsome)
  rw [hargs] at hflagRun
  rw [hargs, hoperands] at hlast
  have hbucket : [bucket] = operands args.dropLast :=
    (List.append_inj' (show [bucket] ++ [device] = _ from hlast) rfl).1
  exact ⟨hflagRun, hbucket.symm⟩

namespace Invocation

variable {table : FlagTable} {args args' : List String} {bucket bucket' device device' : String}

/-- A line is read up to its device, whatever the device is. -/
theorem parse_device (hrun : flagRun args' = flagRun args)
    (hoperands : operands args = [bucket, device])
    (hoperands' : operands args' = [bucket, device']) :
    parse table args' = (parse table args).map fun inv => { inv with device := ⟨device'⟩ } := by
  simp only [parse, hrun, hoperands, hoperands', readOperands]
  -- no stage looks at the device
  cases badExtra? (flagRun args) with
  | some token => rfl
  | none => cases readFlags table (flagTokens (flagRun args)) <;> rfl

/-- The device of an accepted line is its second operand, as it was written. -/
theorem device_of_parse {inv : Invocation} (hoperands : operands args = [bucket, device])
    (hparse : parse table args = .ok inv) : inv.device = ⟨device⟩ := by
  have hsame := (operands_of_parse hparse).symm.trans hoperands
  exact congrArg Path.mk (List.cons.inj (List.cons.inj hsame).2).1

/-! ### The theorem -/

/-- The argument vectors end with the two devices, and are the same in front of them. -/
def EndIn (device device' : String) (argv argv' : List String) : Prop :=
  ∃ front, argv = front ++ [device] ∧ argv' = front ++ [device']

/-- What two command lines, each with a device of its own, have to do with the commands that are
built from them. -/
structure DeviceLaw (settings : Settings) (endpoint : Endpoint) (table : FlagTable)
    (args args' : List String) (device device' : String) : Prop where
  /-- Where the lines differ in the device at most, they are both wrong and in the same way, or the
  server is started in the same way and the client is told of each device as it was written. -/
  server : args.dropLast = args'.dropLast →
    (∃ e, parse table args = .error e ∧ parse table args' = .error e) ∨
    ∃ inv inv', parse table args = .ok inv ∧ parse table args' = .ok inv' ∧
      inv.serverCommand settings endpoint = inv'.serverCommand settings endpoint ∧
      EndIn device device' (inv.clientCommand settings endpoint).argv
        (inv'.clientCommand settings endpoint).argv ∧
      EndIn device device' (inv.disconnectCommand settings).argv
        (inv'.disconnectCommand settings).argv
  /-- Where the device is the same, and so is whether it is only read, the client is started and
  stopped in the same way. -/
  client : device = device' → ∀ inv inv', parse table args = .ok inv →
    parse table args' = .ok inv' → inv.mode.readOnly = inv'.mode.readOnly →
    inv.clientCommand settings endpoint = inv'.clientCommand settings endpoint ∧
      inv.disconnectCommand settings = inv'.disconnectCommand settings

/-- **What each command is told.** Of two command lines with two operands each, the device reaches
the client only, and everything else but the switch to read only reaches the server only. -/
theorem device_law (settings : Settings) (endpoint : Endpoint) (table : FlagTable)
    {run run' : List String} (hargs : Divides args run [bucket, device])
    (hargs' : Divides args' run' [bucket', device']) :
    DeviceLaw settings endpoint table args args' device device' := by
  obtain ⟨-, hoperands⟩ := hargs.unique (divides_flagRun args)
  obtain ⟨-, hoperands'⟩ := hargs'.unique (divides_flagRun args')
  constructor
  case server =>
    intro hfront
    obtain ⟨hrun, hbucket⟩ := operands_dropLast hoperands
    obtain ⟨hrun', hbucket'⟩ := operands_dropLast hoperands'
    -- the same tokens stand in front of the devices, so the flag runs and the buckets are the same
    rw [← hfront] at hrun' hbucket'
    obtain rfl : bucket = bucket' := (List.cons.inj (hbucket.symm.trans hbucket')).1
    have hparse := @parse_device table _ _ _ _ _ (hrun'.trans hrun.symm) hoperands hoperands'
    cases hread : parse table args with
    | error e =>
      rw [hread] at hparse
      exact Or.inl ⟨e, rfl, hparse⟩
    | ok inv =>
      rw [hread] at hparse
      have hdevice := device_of_parse hoperands hread
      refine Or.inr ⟨inv, { inv with device := ⟨device'⟩ }, rfl, hparse, rfl, ?_, ?_⟩
      · refine ⟨settings.clientExecutable :: _, ?_, rfl⟩
        rw [Command.argv, clientCommand, hdevice]
        rfl
      · refine ⟨[settings.clientExecutable, "-d"], ?_, rfl⟩
        rw [Command.argv, disconnectCommand, hdevice]
        rfl
  case client =>
    -- of the invocation, the client is told of the device and of one mode
    intro hsame inv inv' hparse hparse' hreadOnly
    have hdevice := device_of_parse hoperands hparse
    have hdevice' := device_of_parse hoperands' hparse'
    rw [← hsame] at hdevice'
    constructor
    · rw [clientCommand, clientCommand, hdevice, hdevice', hreadOnly]
    · rw [disconnectCommand, disconnectCommand, hdevice, hdevice']

/-- A line with another device, which looks like a flag, and a line that has nothing but the device
and the mode in common with the first. -/
theorem sampleLine_device_law :
    let other := sampleLine.dropLast ++ ["--region"]
    let short := ["--readOnly", "archive", "/dev/nbd0"]
    Divides sampleLine (flagRun sampleLine) ["-bucket", "/dev/nbd0"] ∧
      Divides other (flagRun other) ["-bucket", "--region"] ∧
      Divides short (flagRun short) ["archive", "/dev/nbd0"] ∧
      sampleLine.dropLast = other.dropLast ∧
      DeviceLaw {} ⟨⟨"/run/5_1"⟩⟩ .plugin sampleLine other "/dev/nbd0" "--region" ∧
      DeviceLaw {} ⟨⟨"/run/5_1"⟩⟩ .plugin sampleLine short "/dev/nbd0" "/dev/nbd0" := by
  intro other short
  have hsample := divides_flagRun sampleLine
  have hother := divides_flagRun other
  have hshort := divides_flagRun short
  exact ⟨hsample, hother, hshort, rfl, device_law {} ⟨⟨"/run/5_1"⟩⟩ .plugin hsample hother,
    device_law {} ⟨⟨"/run/5_1"⟩⟩ .plugin hsample hshort⟩

end Invocation

end NbdAttach
