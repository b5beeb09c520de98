import Mathlib
import NbdAttach.Proofs.Json.Grammar

/-!
# Numerals

A numeral of the grammar is read up to its end, whatever number it stands for
(`skipNumber_of_parts`), and the numeral of a natural number of 64 bits is read as that number
(`readNumber_toDigits`).

A number is read through its double, so that of a natural number is bounded here: rounding at most
doubles it (`Double.nearest_le`), and 64 bits leave plenty of room below the largest double.
-/

namespace NbdAttach

/-! ### The size of a double -/

namespace Double

theorem roundQuotient_le (n d : Nat) : roundQuotient n d ≤ n / d + 1 := by
  unfold roundQuotient
  dsimp only
  split <;> omega

/-- Neighbours are no further apart than a number is from zero. -/
theorem spacing_le (units : Nat) : spacing units ≤ max 1 units := by
  unfold spacing
  rw [Nat.one_shiftLeft]
  rcases Nat.eq_zero_or_pos units with rfl | hpos
  · decide
  · have hexponent : units.log2 + 1 - 53 ≤ units.log2 := by omega
    calc 2 ^ (units.log2 + 1 - 53) ≤ 2 ^ units.log2 := Nat.pow_le_pow_right (by decide) hexponent
      _ ≤ units := Nat.log2_self_le (by omega)
      _ ≤ max 1 units := Nat.le_max_right 1 units

/-- The nearest double of a fraction is at most twice the fraction, in units, and one more. -/
theorem nearest_le (n d : Nat) : nearest n d ≤ 2 * (n * one / d) + 1 := by
  unfold nearest
  dsimp only
  generalize hunits : n * one / d = units
  have hspacing : spacing units ≤ max 1 units := spacing_le units
  generalize spacing units = step at hspacing
  -- a multiple of the distance between neighbours, at most one of them up
  have hrounded : roundQuotient (n * one) (d * step) ≤ units / step + 1 := by
    have hquotient := roundQuotient_le (n * one) (d * step)
    rwa [← Nat.div_div_eq_div_mul, hunits] at hquotient
  calc roundQuotient (n * one) (d * step) * step ≤ (units / step + 1) * step :=
        Nat.mul_le_mul_right step hrounded
    _ = units / step * step + step := by rw [Nat.add_mul, Nat.one_mul]
    _ ≤ units + step := Nat.add_le_add_right (Nat.div_mul_le_self units step) step
    _ ≤ 2 * units + 1 := by omega

theorem one_pos : 0 < one := by decide

/-- Seventy binary digits in front of the point are not too many for a double. -/
theorem lt_limit : 2 ^ 70 * one < limit := by
  -- stated for any exponents, so that no power is evaluated
  have hshift : ∀ j k, 70 < j → 2 ^ 70 * 1 <<< k < 1 <<< (j + k) := by
    intro j k hj
    rw [Nat.one_shiftLeft, Nat.one_shiftLeft, pow_add]
    exact Nat.mul_lt_mul_of_pos_right (Nat.pow_lt_pow_right (by decide) hj)
      (Nat.pow_pos (by decide))
  exact hshift 1024 1074 (by decide)

/-- The bound for whole numbers. -/
theorem nearest_one_le (n : Nat) : nearest n 1 ≤ 2 * (n * one) + 1 := by
  have hbound := nearest_le n 1
  rwa [Nat.div_one] at hbound

/-- A product of 66 and two binary digits in front of the point is not too large. -/
theorem product_lt_limit {a b : Nat} (ha : a ≤ 2 ^ 66 * one) (hb : b ≤ 2 ^ 2 * one) :
    product a b < limit := by
  have hproduct : a * b ≤ 2 ^ 68 * (one * one) :=
    calc a * b ≤ 2 ^ 66 * one * (2 ^ 2 * one) := Nat.mul_le_mul ha hb
      _ = 2 ^ 68 * (one * one) := by ring
  have hquotient : a * b * one / (one * one) ≤ 2 ^ 68 * one := by
    refine Nat.div_le_of_le_mul ?_
    calc a * b * one ≤ 2 ^ 68 * (one * one) * one := Nat.mul_le_mul_right one hproduct
      _ = one * one * (2 ^ 68 * one) := by ring
  have hone := one_pos
  calc product a b ≤ 2 * (a * b * one / (one * one)) + 1 := nearest_le (a * b) (one * one)
    _ ≤ 2 ^ 70 * one := by omega
    _ < limit := lt_limit

/-- A whole number of 64 bits is not too large for a double. -/
theorem ofDecimal?_natural {n : Nat} (hn : n < 2 ^ 64) : ∃ units, ofDecimal? n 0 = some units := by
  have hone := one_pos
  have hunits : nearest n 1 ≤ 2 ^ 66 * one := by
    have hbound := nearest_one_le n
    have hproduct : n * one ≤ 2 ^ 64 * one := Nat.mul_le_mul_right one hn.le
    omega
  have hpower : powerOfTen 0 ≤ 2 ^ 2 * one := by
    have hbound : powerOfTen 0 ≤ 2 * (1 * one) + 1 := nearest_one_le 1
    omega
  unfold ofDecimal?
  dsimp only
  rw [if_neg (by decide)]
  split
  · exact ⟨0, rfl⟩
  · rw [if_neg (by decide)]
    exact ⟨_, if_pos (product_lt_limit hunits hpower)⟩

end Double

namespace Json

/-! ### The parts of a numeral -/

theorem isDigit_iff {c : Char} : isDigit c = true ↔ '0' ≤ c ∧ c ≤ '9' := by
  simp [isDigit]

/-- What follows does not begin with a digit. -/
def EndsDigits (rest : List Char) : Prop :=
  ∀ c, rest.head? = some c → isDigit c = false

/-- What follows does not go on with a numeral. -/
def EndsNumeral (rest : List Char) : Prop :=
  ∀ c, rest.head? = some c → isDigit c = false ∧ c ≠ '.' ∧ c ≠ 'e' ∧ c ≠ 'E'

theorem EndsNumeral.endsDigits {rest : List Char} (hrest : EndsNumeral rest) : EndsDigits rest :=
  fun c hc => (hrest c hc).1

/-- The first of some digits is one, whatever follows. -/
theorem Digits.exists_cons {text : List Char} (htext : Digits text) :
    ∃ c digits, text = c :: digits ∧ isDigit c = true := by
  obtain ⟨hne, hall⟩ := htext
  cases text with
  | nil => exact absurd rfl hne
  | cons c digits => exact ⟨c, digits, rfl, isDigit_iff.mpr (hall c List.mem_cons_self)⟩

/-- Of some digits and what does not begin with one, the digits are taken. -/
theorem takeWhile_digits {digits rest : List Char} (hdigits : Digits digits)
    (hrest : EndsDigits rest) : (digits ++ rest).takeWhile isDigit = digits := by
  rw [List.takeWhile_append_of_pos fun c hc => isDigit_iff.mpr (hdigits.2 c hc)]
  cases rest with
  | nil => exact List.append_nil digits
  | cons c rest =>
    rw [List.takeWhile_cons_of_neg (by simp [hrest c rfl]), List.append_nil]

/-- What is left then is what follows the digits. -/
theorem dropWhile_digits {digits rest : List Char} (hdigits : Digits digits)
    (hrest : EndsDigits rest) : (digits ++ rest).dropWhile isDigit = rest := by
  rw [List.dropWhile_append_of_pos fun c hc => isDigit_iff.mpr (hdigits.2 c hc)]
  cases rest with
  | nil => rfl
  | cons c rest => exact List.dropWhile_cons_of_neg (by simp [hrest c rfl])

/-- The part in front of the point is read up to its end. A zero is that part by itself, so what
follows it may be no digit. -/
theorem integerDigits_of_part {integer rest : List Char} (hinteger : IntegerPart integer)
    (hrest : EndsDigits rest) (missing : Cause) :
    integerDigits missing (integer ++ rest) = .ok (integer, rest) := by
  cases hinteger with
  | zero =>
    cases rest with
    | nil => rfl
    | cons c rest =>
      have hc : isDigit c = false := hrest c rfl
      show (if isDigit c then _ else _) = _
      rw [hc]
      rfl
  | digits hdigits hzero =>
    -- no zero in front, so all of the digits belong to it
    obtain ⟨c, digits, rfl, hc⟩ := hdigits.exists_cons
    have hne : c ≠ '0' := fun h => hzero (by rw [h]; rfl)
    have htake := takeWhile_digits hdigits hrest
    have hdrop := dropWhile_digits hdigits hrest
    rw [List.cons_append, List.takeWhile_cons_of_pos hc] at htake
    rw [List.cons_append, List.dropWhile_cons_of_pos hc] at hdrop
    rw [List.cons_append, integerDigits, if_pos hc, htake, hdrop]
    exact hne

/-- The fraction is read without its point. Without a fraction nothing is read, if no point
follows. -/
theorem fractionDigits_of_part {fraction rest : List Char} (hfraction : FractionPart fraction)
    (hrest : EndsDigits rest) (hpoint : rest.head? ≠ some '.') (missing : Cause) :
    fractionDigits missing (fraction ++ rest) = .ok (fraction.drop 1, rest) := by
  cases hfraction with
  | none =>
    cases rest with
    | nil => rfl
    | cons c rest =>
      have hc : c ≠ '.' := fun h => hpoint (by rw [h]; rfl)
      rw [List.nil_append, fractionDigits]
      · rfl
      · exact fun _ h => hc (List.cons.inj h).1
  | @digits digits hdigits =>
    have hne := hdigits.1
    cases digits with
    | nil => exact absurd rfl hne
    | cons c digits =>
      have htake := takeWhile_digits hdigits hrest
      have hdrop := dropWhile_digits hdigits hrest
      rw [List.cons_append, fractionDigits.eq_def]
      simp only [htake, hdrop, List.drop_one, List.tail_cons]

/-- The exponent is read with its sign, in any of the spellings of that. -/
theorem exponentDigits_of_part {exponent rest : List Char} (hexponent : ExponentPart exponent)
    (hrest : EndsNumeral rest) (missing : Cause) :
    ∃ exponent?, exponentDigits missing (exponent ++ rest) = .ok (exponent?, rest) ∧
      (exponent = [] → exponent? = none) := by
  cases hexponent with
  | none =>
    refine ⟨none, ?_, fun _ => rfl⟩
    cases rest with
    | nil => rfl
    | cons c rest =>
      obtain ⟨-, -, he, hE⟩ := hrest c rfl
      rw [List.nil_append, exponentDigits.eq_def]
      exact if_neg (by simp [he, hE])
  | @digits e sign digits he hsign hdigits =>
    have htake := takeWhile_digits hdigits hrest.endsDigits
    have hdrop := dropWhile_digits hdigits hrest.endsDigits
    obtain ⟨c, digits, rfl, hc⟩ := hdigits.exists_cons
    rw [List.cons_append] at htake hdrop
    suffices hread : ∃ negative, exponentDigits missing (e :: (sign ++ c :: (digits ++ rest))) =
        .ok (some (negative, c :: digits), rest) by
      obtain ⟨negative, hread⟩ := hread
      refine ⟨some (negative, c :: digits), ?_, fun h => absurd h (List.cons_ne_nil _ _)⟩
      simpa using hread
    rw [exponentDigits.eq_def]
    simp only [if_pos he]
    rcases hsign with rfl | rfl | rfl
    · -- a digit is no sign, so none is taken for one
      have hplus : c ≠ '+' := by rintro rfl; exact absurd hc (by decide)
      have hminus : c ≠ '-' := by rintro rfl; exact absurd hc (by decide)
      refine ⟨false, ?_⟩
      rw [List.nil_append]
      split <;> simp_all
    · refine ⟨false, ?_⟩
      simp only [List.cons_append, List.nil_append, htake, hdrop]
    · refine ⟨true, ?_⟩
      simp only [List.cons_append, List.nil_append, htake, hdrop]

/-! ### Whole numerals -/

/-- A fraction that is there begins with a point. -/
theorem FractionPart.head? {fraction : List Char} (hfraction : FractionPart fraction) :
    fraction = [] ∨ fraction.head? = some '.' := by
  cases hfraction with
  | none => exact .inl rfl
  | digits => exact .inr rfl

/-- An exponent that is there begins with one of two letters. -/
theorem ExponentPart.head? {exponent : List Char} (hexponent : ExponentPart exponent) :
    exponent = [] ∨ exponent.head? = some 'e' ∨ exponent.head? = some 'E' := by
  cases hexponent with
  | none => exact .inl rfl
  | digits he =>
    rcases he with rfl | rfl
    · exact .inr (.inl rfl)
    · exact .inr (.inr rfl)

/-- No digit stands in front of an exponent or behind a numeral, and no point. -/
theorem ExponentPart.endsDigits {exponent rest : List Char} (hexponent : ExponentPart exponent)
    (hrest : EndsNumeral rest) :
    EndsDigits (exponent ++ rest) ∧ (exponent ++ rest).head? ≠ some '.' := by
  rcases hexponent.head? with rfl | he | he
  · exact ⟨hrest.endsDigits, fun h => (hrest '.' h).2.1 rfl⟩
  all_goals
    refine ⟨fun c hc => ?_, fun h => ?_⟩
    · rw [List.head?_append, he] at hc
      obtain rfl := Option.some.inj hc
      decide
    · rw [List.head?_append, he] at h
      exact absurd (Option.some.inj h) (by decide)

/-- No digit stands in front of a fraction. -/
theorem FractionPart.endsDigits {fraction rest : List Char} (hfraction : FractionPart fraction)
    (hrest : EndsDigits rest) : EndsDigits (fraction ++ rest) := by
  rcases hfraction.head? with rfl | hpoint
  · exact hrest
  · intro c hc
    rw [List.head?_append, hpoint] at hc
    obtain rfl := Option.some.inj hc
    decide

/-- The parts of a numeral are read one after the other, since each of them ends where the next
begins. -/
theorem numberParts_of_parts {integer fraction exponent rest : List Char}
    (hinteger : IntegerPart integer) (hfraction : FractionPart fraction)
    (hexponent : ExponentPart exponent) (hrest : EndsNumeral rest) (missing : Cause) :
    ∃ exponent?, numberParts missing (integer ++ (fraction ++ (exponent ++ rest))) =
        .ok (⟨integer, fraction.drop 1, exponent?⟩, rest) ∧
      (exponent = [] → exponent? = none) := by
  obtain ⟨hdigits, hpoint⟩ := hexponent.endsDigits hrest
  obtain ⟨exponent?, hread, hnone⟩ := exponentDigits_of_part hexponent hrest missing
  refine ⟨exponent?, ?_, hnone⟩
  unfold numberParts
  rw [integerDigits_of_part hinteger (hfraction.endsDigits hdigits) missing]
  show Except.bind (fractionDigits missing (fraction ++ (exponent ++ rest))) _ = _
  rw [fractionDigits_of_part hfraction hdigits hpoint missing]
  show Except.bind (exponentDigits missing (exponent ++ rest)) _ = _
  rw [hread]
  rfl

/-- A numeral is passed over up to its end, whatever its size. -/
theorem skipNumber_of_parts {integer fraction exponent rest : List Char}
    (hinteger : IntegerPart integer) (hfraction : FractionPart fraction)
    (hexponent : ExponentPart exponent) (hrest : EndsNumeral rest) :
    skipNumber (integer ++ (fraction ++ (exponent ++ rest))) = .ok rest := by
  obtain ⟨exponent?, hread, -⟩ :=
    numberParts_of_parts hinteger hfraction hexponent hrest .badNumber
  unfold skipNumber
  rw [hread]
  rfl

/-! ### Natural numbers -/

theorem digits_toDigits (n : Nat) : Digits (Nat.toDigits 10 n) := by
  refine ⟨Nat.toDigits_ne_nil, fun c hc => ?_⟩
  have hdigit := Nat.isDigit_of_mem_toDigits (by decide) (by decide) hc
  exact Char.isDigit_iff_toNat.mp hdigit

/-- The numeral of a number has no zero in front, unless the number is zero. -/
theorem head?_toDigits {n : Nat} (hn : 0 < n) : (Nat.toDigits 10 n).head? ≠ some '0' := by
  induction n using Nat.strong_induction_on with
  | _ n ih =>
    rcases Nat.lt_or_ge n 10 with hlt | hge
    · have hall : ∀ d < 10, 0 < d → [Nat.digitChar d].head? ≠ some '0' := by decide
      rw [Nat.toDigits_of_lt_base hlt]
      exact hall n hlt hn
    · -- the first digit is that of the number without its last digit
      rw [Nat.toDigits_of_base_le (by decide) hge,
        List.head?_append_of_ne_nil _ Nat.toDigits_ne_nil]
      exact ih (n / 10) (by omega) (by omega)

/-- The numeral of a number can stand in front of a point. -/
theorem integerPart_toDigits (n : Nat) : IntegerPart (Nat.toDigits 10 n) := by
  rcases Nat.eq_zero_or_pos n with rfl | hn
  · rw [Nat.toDigits_zero]
    exact .zero
  · exact .digits (digits_toDigits n) (head?_toDigits hn)

/-- The digits of a number are a numeral by themselves, without a fraction and without an
exponent. -/
theorem isNumeral_toDigits (n : Nat) : IsNumeral (Nat.toDigits 10 n) := by
  have hnumeral := IsNumeral.mk (.inl rfl) (integerPart_toDigits n) .none .none
  simpa using hnumeral

/-- The digits of a number are read as that number. -/
theorem decimal_toDigits (n : Nat) : decimal (Nat.toDigits 10 n) = n := by
  have hsame : decimal (Nat.toDigits 10 n) = Nat.ofDigitChars 10 (Nat.toDigits 10 n) 0 := by
    simp only [decimal, Nat.ofDigitChars, digitValue, Nat.mul_comm]
  rw [hsame, Nat.ofDigitChars_toDigits (by decide) (by decide)]

/-- A number gets no smaller by the digits behind it. -/
theorem le_foldl_digits (digits : List Char) (n : Nat) :
    n ≤ digits.foldl (fun n c => n * 10 + digitValue c) n := by
  induction digits generalizing n with
  | nil => exact Nat.le_refl n
  | cons c digits ih =>
    have hnext := ih (n * 10 + digitValue c)
    rw [List.foldl_cons]
    omega

/-- A number that fits is taken up with all its digits. -/
theorem takeInteger_of_le {digits : List Char} {n : Nat}
    (h : digits.foldl (fun n c => n * 10 + digitValue c) n ≤ maxWord) :
    takeInteger n digits = (digits.foldl (fun n c => n * 10 + digitValue c) n, 0) := by
  induction digits generalizing n with
  | nil => rfl
  | cons c digits ih =>
    have hnext := le_foldl_digits digits (n * 10 + digitValue c)
    rw [List.foldl_cons] at h ⊢
    rw [takeInteger, if_neg (by omega), ih h]

/-- The numeral of a natural number of 64 bits is read as that number. -/
theorem readNumber_toDigits {n : Nat} (hn : n ≤ maxWord) {rest : List Char}
    (hrest : EndsNumeral rest) :
    readNumber false (Nat.toDigits 10 n ++ rest) = .ok (.natural n, rest) := by
  obtain ⟨exponent?, hparts, hnone⟩ :=
    numberParts_of_parts (integerPart_toDigits n) .none .none hrest .endInValue
  obtain rfl := hnone rfl
  simp only [List.nil_append, List.drop_nil] at hparts
  -- all digits fit, so the significand is the number itself and nothing is scaled
  have hdecimal := decimal_toDigits n
  have htake : takeInteger 0 (Nat.toDigits 10 n) = (n, 0) := by
    have hfits : decimal (Nat.toDigits 10 n) ≤ maxWord := by rw [hdecimal]; exact hn
    rw [takeInteger_of_le hfits]
    exact congrArg (·, 0) hdecimal
  obtain ⟨units, hunits⟩ : ∃ units, Double.ofDecimal? n 0 = some units :=
    Double.ofDecimal?_natural (Nat.lt_succ_of_le hn)
  have hdouble : NumberParts.double? ⟨Nat.toDigits 10 n, [], none⟩ = some units := by
    unfold NumberParts.double?
    simp only [htake, takeFraction]
    exact hunits
  have hnumber : NumberParts.toNumber ⟨Nat.toDigits 10 n, [], none⟩ false units = .natural n := by
    unfold NumberParts.toNumber
    simp only [hdecimal]
    exact if_pos ⟨rfl, rfl, hn⟩
  unfold readNumber
  rw [hparts]
  simp only [bind, Except.bind, hdouble, hnumber]
  rfl

end Json

end NbdAttach
