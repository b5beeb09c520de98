import Mathlib
import NbdAttach.Text.Hex

/-!
# Hexadecimal numerals

What is written in base 16 is read back as the same number (`readHex_hex`), and its length is known:
a numeral has the width that was asked for when the number fits in it (`length_hex`), and is just
the digits of the number when it does not fit (`hex_of_lt_length`).

The numerals are built from the last digit up, so the proofs are inductions over `hexDigits`, with
one digit split off at the end in every step.
-/

namespace NbdAttach.Text

/-! ### Single digits -/

/-- Is the character a digit of lower-case numerals? -/
def IsLowerHex (c : Char) : Prop :=
  ('0' ≤ c ∧ c ≤ '9') ∨ ('a' ≤ c ∧ c ≤ 'f')

instance : DecidablePred IsLowerHex :=
  fun _ => inferInstanceAs (Decidable (_ ∨ _))

/-- Every digit is written in lower case. -/
theorem isLowerHex_hexDigit {d : Nat} (hd : d < 16) : IsLowerHex (hexDigit d) := by
  have hall : ∀ d < 16, IsLowerHex (hexDigit d) := by decide
  exact hall d hd

/-- A digit is read as what it was written for. -/
theorem hexValue?_hexDigit {d : Nat} (hd : d < 16) : hexValue? (hexDigit d) = some d := by
  have hall : ∀ d < 16, hexValue? (hexDigit d) = some d := by decide
  exact hall d hd

theorem hexDigit_ne_zero {d : Nat} (hd : d < 16) (hpos : 0 < d) : hexDigit d ≠ '0' := by
  have hall : ∀ d < 16, 0 < d → hexDigit d ≠ '0' := by decide
  exact hall d hd hpos

/-! ### Reading -/

/-- Takes one more digit up into the number read so far. -/
def takeHexDigit (acc : Option Nat) (c : Char) : Option Nat :=
  acc.bind fun n =>
    if ('0' ≤ c ∧ c ≤ '9') ∨ ('a' ≤ c ∧ c ≤ 'f') then (hexValue? c).map (16 * n + ·) else none

/-- A numeral is read digit by digit. -/
theorem readHex_eq_foldl {digits : List Char} (hdigits : digits ≠ []) :
    readHex digits = digits.foldl takeHexDigit (some 0) := by
  have hempty : digits.isEmpty = false := by simpa using hdigits
  unfold readHex
  rw [hempty]
  rfl

/-- One more digit puts the others one place up. -/
theorem takeHexDigit_hexDigit (n : Nat) {d : Nat} (hd : d < 16) :
    takeHexDigit (some n) (hexDigit d) = some (16 * n + d) := by
  have hlower : IsLowerHex (hexDigit d) := isLowerHex_hexDigit hd
  show (if IsLowerHex (hexDigit d) then (hexValue? (hexDigit d)).map (16 * n + ·) else none) = _
  rw [if_pos hlower, hexValue?_hexDigit hd, Option.map_some]

/-! ### The digits of a number -/

theorem hexDigits_of_lt {n : Nat} (hn : n < 16) : hexDigits n = [hexDigit n] := by
  rw [hexDigits, if_pos hn]

/-- A larger number has its last digit behind those of the rest. -/
theorem hexDigits_of_le {n : Nat} (hn : 16 ≤ n) :
    hexDigits n = hexDigits (n / 16) ++ [hexDigit (n % 16)] := by
  rw [hexDigits, if_neg (Nat.not_lt.mpr hn)]

/-- Every number has a digit. -/
theorem hexDigits_ne_nil (n : Nat) : hexDigits n ≠ [] := by
  rcases Nat.lt_or_ge n 16 with hn | hn
  · rw [hexDigits_of_lt hn]
    exact List.cons_ne_nil _ _
  · rw [hexDigits_of_le hn]
    exact List.append_ne_nil_of_right_ne_nil _ (List.cons_ne_nil _ _)

/-- All of the digits are in lower case. -/
theorem isLowerHex_of_mem_hexDigits (n : Nat) : ∀ c ∈ hexDigits n, IsLowerHex c := by
  induction n using hexDigits.induct with
  | case1 n hn =>
    intro c hc
    rw [hexDigits_of_lt hn, List.mem_singleton] at hc
    rw [hc]
    exact isLowerHex_hexDigit hn
  | case2 n hn ih =>
    intro c hc
    rw [hexDigits_of_le (Nat.not_lt.mp hn), List.mem_append, List.mem_singleton] at hc
    rcases hc with hc | rfl
    · exact ih c hc
    · exact isLowerHex_hexDigit (Nat.mod_lt n (by decide))

/-- The digits of a number are read as that number. The induction takes off the last digit, which is
the last one to be read. -/
theorem foldl_hexDigits (n : Nat) : (hexDigits n).foldl takeHexDigit (some 0) = some n := by
  induction n using hexDigits.induct with
  | case1 n hn =>
    rw [hexDigits_of_lt hn, List.foldl_cons, List.foldl_nil, takeHexDigit_hexDigit 0 hn]
    simp
  | case2 n hn ih =>
    have hdigit : n % 16 < 16 := Nat.mod_lt n (by decide)
    rw [hexDigits_of_le (Nat.not_lt.mp hn), List.foldl_append, ih, List.foldl_cons, List.foldl_nil,
      takeHexDigit_hexDigit (n / 16) hdigit, Nat.div_add_mod]

/-- A number below a power of 16 has no more digits than the exponent. -/
theorem length_hexDigits_le {n k : Nat} (hk : 0 < k) (hn : n < 16 ^ k) :
    (hexDigits n).length ≤ k := by
  induction n using hexDigits.induct generalizing k with
  | case1 n hn' =>
    rw [hexDigits_of_lt hn', List.length_singleton]
    exact hk
  | case2 n hn' ih =>
    -- at least two digits are needed, so one less is left for the number without its last digit
    have hge : 16 ≤ n := Nat.not_lt.mp hn'
    obtain ⟨k, rfl⟩ : ∃ k', k = k' + 1 := ⟨k - 1, by omega⟩
    have hquotient : n / 16 < 16 ^ k := by
      rw [pow_succ] at hn
      exact Nat.div_lt_of_lt_mul (by rw [Nat.mul_comm]; exact hn)
    have hrest : 0 < k := by
      rcases Nat.eq_zero_or_pos k with rfl | hpos
      · simp only [Nat.zero_add, pow_one] at hn
        omega
      · exact hpos
    have hlength : (hexDigits (n / 16)).length ≤ k := ih hrest hquotient
    rw [hexDigits_of_le hge, List.length_append, List.length_singleton]
    omega

/-- A number that is not below it has more. -/
theorem lt_length_hexDigits {n k : Nat} (hn : 16 ^ k ≤ n) : k < (hexDigits n).length := by
  induction n using hexDigits.induct generalizing k with
  | case1 n hn' =>
    rw [hexDigits_of_lt hn', List.length_singleton]
    by_contra hk
    have hpow : 16 ^ 1 ≤ 16 ^ k := Nat.pow_le_pow_right (by decide) (Nat.not_lt.mp hk)
    omega
  | case2 n hn' ih =>
    have hge : 16 ≤ n := Nat.not_lt.mp hn'
    rw [hexDigits_of_le hge, List.length_append, List.length_singleton]
    cases k with
    | zero => omega
    | succ k =>
      have hquotient : 16 ^ k ≤ n / 16 := by
        rw [pow_succ] at hn
        exact (Nat.le_div_iff_mul_le (by decide)).mpr hn
      have hlength : k < (hexDigits (n / 16)).length := ih hquotient
      omega

/-- No number but zero has a zero in front. -/
theorem head?_hexDigits {n : Nat} (hn : 0 < n) : (hexDigits n).head? ≠ some '0' := by
  induction n using hexDigits.induct with
  | case1 n hn' =>
    rw [hexDigits_of_lt hn', List.head?_cons]
    intro hhead
    exact hexDigit_ne_zero hn' hn (Option.some.inj hhead)
  | case2 n hn' ih =>
    -- the highest digit is that of the number without its last digit
    have hge : 16 ≤ n := Nat.not_lt.mp hn'
    have hquotient : 0 < n / 16 := Nat.div_pos hge (by decide)
    rw [hexDigits_of_le hge, List.head?_append_of_ne_nil _ (hexDigits_ne_nil _)]
    exact ih hquotient

/-- Only zero itself is written with a zero in front. -/
theorem hexDigits_of_head? {n : Nat} (hhead : (hexDigits n).head? = some '0') :
    hexDigits n = ['0'] := by
  rcases Nat.eq_zero_or_pos n with rfl | hn
  · rw [hexDigits_of_lt (by decide)]
    rfl
  · exact absurd hhead (head?_hexDigits hn)

/-! ### Numerals of a least width -/

theorem hex_ne_nil (width n : Nat) : hex width n ≠ [] :=
  List.append_ne_nil_of_right_ne_nil _ (hexDigits_ne_nil n)

/-- The zeros in front are digits like the others. -/
theorem isLowerHex_of_mem_hex (width n : Nat) : ∀ c ∈ hex width n, IsLowerHex c := by
  intro c hc
  rcases List.mem_append.mp hc with hc | hc
  · rw [List.eq_of_mem_replicate hc]
    decide
  · exact isLowerHex_of_mem_hexDigits n c hc

/-- The zeros in front do not count. -/
theorem foldl_zeros (k : Nat) :
    (List.replicate k '0').foldl takeHexDigit (some 0) = some 0 := by
  induction k with
  | zero => rfl
  | succ k ih =>
    have hzero : takeHexDigit (some 0) '0' = some 0 := by decide
    rw [List.replicate_succ, List.foldl_cons, hzero, ih]

/-- What is written is read back, whatever the width is. -/
theorem readHex_hex (width n : Nat) : readHex (hex width n) = some n := by
  rw [readHex_eq_foldl (hex_ne_nil width n), hex, List.foldl_append, foldl_zeros, foldl_hexDigits]

/-- A number that fits in the width is written with just so many digits. -/
theorem length_hex {width n : Nat} (hwidth : 0 < width) (hn : n < 16 ^ width) :
    (hex width n).length = width := by
  have hdigits : (hexDigits n).length ≤ width := length_hexDigits_le hwidth hn
  rw [hex, List.length_append, List.length_replicate]
  omega

/-- A number that does not fit gets its own digits and no others. -/
theorem hex_of_lt_length {width n : Nat} (hlength : width < (hexDigits n).length) :
    hex width n = hexDigits n := by
  have hnone : width - (hexDigits n).length = 0 := by omega
  rw [hex, hnone, List.replicate_zero, List.nil_append]

end NbdAttach.Text
