import Mathlib
import NbdAttach.Settings.Load

/-!
# Valid settings

`Settings.IsValid` says in numbers what `Settings.validate` accepts (`validate_eq_ok_iff`). A text
that is decoded is then loaded if its settings are valid, and otherwise fails with their fault
(`load_of_decode`).
-/

namespace NbdAttach

/-- A pause of at least a millisecond that is not longer than the wait, and at most a minute of
waiting. -/
def Readiness.IsValid (r : Readiness) : Prop :=
  1 ≤ r.pollInterval.toNat ∧ r.pollInterval.toNat ≤ r.maxWait.toNat ∧ r.maxWait.toNat ≤ 60000

/-- The checks of the bounds are made one after the other, and all of them pass on valid bounds. -/
theorem Readiness.validate_eq_ok_iff (r : Readiness) : r.validate = .ok () ↔ r.IsValid := by
  have hzero : r.pollInterval = 0 ↔ r.pollInterval.toNat = 0 := UInt64.toNat_inj.symm
  have habove : r.maxWait < r.pollInterval ↔ r.maxWait.toNat < r.pollInterval.toNat :=
    UInt64.lt_iff_toNat_lt
  have hlong : longestWait < r.maxWait ↔ 60000 < r.maxWait.toNat := UInt64.lt_iff_toNat_lt
  -- the checks are comparisons of words, so they are those of the numbers
  simp only [validate, IsValid, hzero, habove, hlong]
  split
  · simp only [reduceCtorEq, false_iff]
    omega
  · split
    · simp only [reduceCtorEq, false_iff]
      omega
    · split
      · simp only [reduceCtorEq, false_iff]
        omega
      · simp only [true_iff]
        omega

namespace Settings

/-- The block sizes are the powers of two that fit in 32 bits. -/
theorem isBlockSize_iff (n : UInt32) : isBlockSize n = true ↔ ∃ k ≤ 31, n.toNat = 2 ^ k := by
  have hbits : isBlockSize n = true ↔ n.toNat ≠ 0 ∧ n.toNat &&& (n.toNat - 1) = 0 := by
    have hzero : n = 0 ↔ n.toNat = 0 := UInt32.toNat_inj.symm
    simp only [isBlockSize, Bool.and_eq_true, bne_iff_ne, beq_iff_eq, ne_eq, hzero]
    refine and_congr_right fun hne => ?_
    -- the subtraction does not wrap around, since the number is not zero
    have hone : (1 : UInt32) ≤ n := UInt32.le_iff_toNat_le.mpr (Nat.one_le_iff_ne_zero.mpr hne)
    rw [← UInt32.toNat_inj, UInt32.toNat_and, UInt32.toNat_sub_of_le n 1 hone]
    rfl
  rw [hbits]
  constructor
  · rintro ⟨hne, hand⟩
    obtain ⟨k, hk⟩ := (Nat.and_sub_one_eq_zero_iff_isPowerOfTwo hne).mp hand
    have hlt : 2 ^ k < 2 ^ 32 := hk ▸ n.toNat_lt
    have hexponent : k < 32 := (Nat.pow_lt_pow_iff_right (by decide)).mp hlt
    exact ⟨k, by omega, hk⟩
  · rintro ⟨k, -, hk⟩
    have hne : n.toNat ≠ 0 := by
      rw [hk]
      exact (Nat.two_pow_pos k).ne'
    exact ⟨hne, (Nat.and_sub_one_eq_zero_iff_isPowerOfTwo hne).mpr ⟨k, hk⟩⟩

/-- Settings that a run can start from. -/
def IsValid (s : Settings) : Prop :=
  s.serverExecutable ≠ "" ∧ s.clientExecutable ≠ "" ∧
    (∃ k ≤ 31, s.clientBlockSize.toNat = 2 ^ k) ∧ s.readiness.IsValid

/-- Settings pass all of their checks if and only if they are valid. -/
theorem validate_eq_ok_iff (s : Settings) : s.validate = .ok () ↔ s.IsValid := by
  have hsize := isBlockSize_iff s.clientBlockSize
  have hreadiness := s.readiness.validate_eq_ok_iff
  unfold validate IsValid
  -- the checks are gone through in their order: the executables, the block size, the bounds
  split
  · next hempty =>
    simp only [reduceCtorEq, false_iff]
    rintro ⟨hserver, hclient, -⟩
    exact hempty.elim hserver hclient
  · next hempty =>
    obtain ⟨hserver, hclient⟩ := not_or.mp hempty
    split
    · next hblock =>
      simp only [reduceCtorEq, false_iff]
      rintro ⟨-, -, hpower, -⟩
      exact hblock (hsize.mpr hpower)
    · next hblock =>
      have hpower := hsize.mp (not_not.mp hblock)
      split
      · next fault hfault =>
        simp only [reduceCtorEq, false_iff]
        rintro ⟨-, -, -, hvalid⟩
        -- valid bounds have no fault
        rw [hreadiness.mpr hvalid] at hfault
        cases hfault
      · next hok => exact iff_of_true rfl ⟨hserver, hclient, hpower, hreadiness.mp hok⟩

/-- Settings if they are valid, and otherwise what is wrong with them. -/
def validated (s : Settings) : Except LoadError Settings :=
  match s.validate with
  | .ok () => .ok s
  | .error fault => .error (.invalid fault)

/-- Valid settings are returned as they are. -/
theorem validated_eq_ok_iff (s : Settings) : s.validated = .ok s ↔ s.IsValid := by
  rw [← validate_eq_ok_iff]
  unfold validated
  split
  · next hok => exact iff_of_true rfl hok
  · next fault hfault => rw [hfault]; exact iff_of_false nofun nofun

/-- Settings that are not valid have a fault, and it is what is returned. -/
theorem exists_fault_of_not_isValid {s : Settings} (hs : ¬s.IsValid) :
    ∃ fault, s.validate = .error fault ∧ s.validated = .error (.invalid fault) := by
  rw [← validate_eq_ok_iff] at hs
  unfold validated
  cases hvalidate : s.validate with
  | ok => exact absurd hvalidate hs
  | error fault => exact ⟨fault, rfl, rfl⟩

/-- The bytes of a text are read as that text. -/
theorem textOfBytes_toUTF8 (text : String) : textOfBytes text.toUTF8 = .ok text := by
  have hread : String.fromUTF8? text.toUTF8 = some text := dif_pos text.isValidUTF8
  unfold textOfBytes
  rw [hread]

/-- A text that is decoded is loaded as what its settings are validated to. -/
theorem load_of_decode {text : String} {s : Settings} (hdecode : decode text = .ok s)
    (path : Path) :
    load path (.ok text.toUTF8) = s.validated := by
  have hread : (Except.ok text.toUTF8).bind textOfBytes = .ok text := textOfBytes_toUTF8 text
  unfold load validated
  rw [hread]
  simp only [hdecode]
  cases s.validate <;> rfl

end Settings

end NbdAttach
