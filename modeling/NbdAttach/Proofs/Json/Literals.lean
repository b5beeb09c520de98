import Mathlib
import NbdAttach.Proofs.Json.Grammar

/-!
# String literals

Every spelling of a text is read as that text (`readString_of_spells`), and every spelling of any
units is passed over up to its closing quote (`skipString_of_spells`). The two differ on half of a
surrogate pair only, which no text has.

The reader goes character by character where the grammar goes unit by unit, and a character beyond
the first 65536 is two units. So the first result is an induction over the text and not over the
spelling: what stands in front spells the first character, in one piece or in two.
-/

namespace NbdAttach.Json

open Text

/-! ### The units of characters -/

theorem charUnits_of_lt {c : Char} (hc : c.toNat < 0x10000) : charUnits c = [c.toNat] :=
  if_pos hc

theorem charUnits_of_le {c : Char} (hc : 0x10000 ≤ c.toNat) :
    charUnits c =
      [0xd800 + (c.toNat - 0x10000) / 0x400, 0xdc00 + (c.toNat - 0x10000) % 0x400] :=
  if_neg (Nat.not_lt.mpr hc)

/-- There are seventeen times 65536 numbers for characters. -/
theorem toNat_lt (c : Char) : c.toNat < 0x110000 := by
  have hvalid := c.valid
  have hnat : c.toNat = c.val.toNat := rfl
  rcases hvalid with h | h <;> omega

/-- A character is no half of a surrogate pair. -/
theorem toNat_not_surrogate (c : Char) : ¬(0xd800 ≤ c.toNat ∧ c.toNat ≤ 0xdfff) := by
  have hvalid := c.valid
  have hnat : c.toNat = c.val.toNat := rfl
  rcases hvalid with h | h <;> omega

/-- The first unit of a character is the character itself or the first half of a pair. -/
theorem charUnits_cases (c : Char) :
    (c.toNat < 0x10000 ∧ charUnits c = [c.toNat]) ∨
      ∃ high low, 0xd800 ≤ high ∧ high ≤ 0xdbff ∧ 0xdc00 ≤ low ∧ low ≤ 0xdfff ∧
        c.toNat = 0x10000 + (high - 0xd800) * 0x400 + (low - 0xdc00) ∧
        charUnits c = [high, low] := by
  have hbound := toNat_lt c
  rcases Nat.lt_or_ge c.toNat 0x10000 with hc | hc
  · exact .inl ⟨hc, charUnits_of_lt hc⟩
  · right
    refine ⟨_, _, ?_, ?_, ?_, ?_, ?_, charUnits_of_le hc⟩ <;> omega

theorem charUnits_append_ne_nil (c : Char) (us : List Nat) : charUnits c ++ us ≠ [] := by
  intro hnil
  unfold charUnits at hnil
  split at hnil <;> cases hnil

/-- Units that begin with a character begin with no other: the first of them tells whether it is one
unit or two. -/
theorem charUnits_append_inj {c d : Char} {us vs : List Nat}
    (h : charUnits c ++ us = charUnits d ++ vs) : c = d ∧ us = vs := by
  have hcs := toNat_not_surrogate c
  have hds := toNat_not_surrogate d
  have hnat : c.toNat = d.toNat ∧ us = vs := by
    rcases charUnits_cases c with ⟨-, hc⟩ | ⟨high, low, hh, hh', hl, hl', hc, hcu⟩ <;>
      rcases charUnits_cases d with ⟨-, hd⟩ | ⟨high', low', gh, gh', gl, gl', hd, hdu⟩
    · rw [hc, hd] at h
      exact List.cons.inj h
    · rw [hc, hdu] at h
      -- a character is no first half, so the two cannot begin alike
      have hfirst : c.toNat = high' := (List.cons.inj h).1
      omega
    · rw [hcu, hd] at h
      have hfirst : high = d.toNat := (List.cons.inj h).1
      omega
    · rw [hcu, hdu] at h
      obtain ⟨rfl, hseconds⟩ : high = high' ∧ low :: us = low' :: vs := List.cons.inj h
      obtain ⟨rfl, hsame⟩ : low = low' ∧ us = vs := List.cons.inj hseconds
      exact ⟨by omega, hsame⟩
  exact ⟨Char.toNat_inj.mp hnat.1, hnat.2⟩

/-- The two halves of a character are put together again. -/
theorem pairChar_eq {c : Char} {high low : Nat}
    (hc : c.toNat = 0x10000 + (high - 0xd800) * 0x400 + (low - 0xdc00)) :
    pairChar high low = c := by
  rw [pairChar, ← hc, Char.ofNat_toNat]

/-! ### Steps of the readers -/

/-- The reader knows the letters of the grammar. -/
theorem escaped?_of_mem {letter c : Char} (hletter : (letter, c) ∈ escapes) :
    escaped? letter = some c := by
  have hall : ∀ e ∈ escapes, escaped? e.1 = some e.2 := by decide
  exact hall (letter, c) hletter

theorem ne_u_of_mem {letter c : Char} (hletter : (letter, c) ∈ escapes) : letter ≠ 'u' := by
  have hall : ∀ e ∈ escapes, e.1 ≠ 'u' := by decide
  exact hall (letter, c) hletter

/-- A character with an escape of its own is one of the first 128. -/
theorem toNat_lt_of_mem {letter c : Char} (hletter : (letter, c) ∈ escapes) : c.toNat < 0x80 := by
  have hall : ∀ e ∈ escapes, e.2.toNat < 0x80 := by decide
  exact hall (letter, c) hletter

/-- A character without a meaning of its own is read as it is. -/
theorem readStringFrom_plain {done : List Char} {c : Char} {text : List Char} (hquote : c ≠ '"')
    (hbackslash : c ≠ '\\') (hcontrol : ' ' ≤ c) :
    readStringFrom done (c :: text) = readStringFrom (c :: done) text := by
  have hlt : ¬c < ' ' := Char.not_lt.mpr hcontrol
  rw [readStringFrom.eq_def]
  split <;> simp_all

/-- An escape is read as the character that its letter stands for. -/
theorem readStringFrom_escape {done : List Char} {letter c : Char} {text : List Char}
    (hletter : (letter, c) ∈ escapes) :
    readStringFrom done ('\\' :: letter :: text) = readStringFrom (c :: done) text := by
  have hu := ne_u_of_mem hletter
  have hescaped := escaped?_of_mem hletter
  rw [readStringFrom.eq_def]
  split <;> grind

theorem isHighSurrogate_iff {n : Nat} : isHighSurrogate n = true ↔ 0xd800 ≤ n ∧ n ≤ 0xdbff := by
  simp [isHighSurrogate]

theorem isLowSurrogate_iff {n : Nat} : isLowSurrogate n = true ↔ 0xdc00 ≤ n ∧ n ≤ 0xdfff := by
  simp [isLowSurrogate]

/-- A number that is no half of a pair is read as its character. -/
theorem readStringFrom_unit {done : List Char} {a b c d : Char} {n : Nat} {text : List Char}
    (hunit : hexQuad? a b c d = some n) (hn : ¬(0xd800 ≤ n ∧ n ≤ 0xdfff)) :
    readStringFrom done ('\\' :: 'u' :: a :: b :: c :: d :: text) =
      readStringFrom (Char.ofNat n :: done) text := by
  have hlow : ¬isLowSurrogate n = true := mt isLowSurrogate_iff.mp (by omega)
  have hhigh : ¬isHighSurrogate n = true := mt isHighSurrogate_iff.mp (by omega)
  rw [readStringFrom]
  simp [hunit, hlow, hhigh]

/-- The numbers of two halves are read as one character. -/
theorem readStringFrom_pair {done : List Char} {a b c d a' b' c' d' : Char} {high low : Nat}
    {text : List Char} (hhigh : hexQuad? a b c d = some high)
    (hlow : hexQuad? a' b' c' d' = some low) (hh : 0xd800 ≤ high) (hh' : high ≤ 0xdbff)
    (hl : 0xdc00 ≤ low) (hl' : low ≤ 0xdfff) :
    readStringFrom done
        ('\\' :: 'u' :: a :: b :: c :: d :: '\\' :: 'u' :: a' :: b' :: c' :: d' :: text) =
      readStringFrom (pairChar high low :: done) text := by
  have hnotLow : ¬isLowSurrogate high = true := mt isLowSurrogate_iff.mp (by omega)
  have hisHigh : isHighSurrogate high = true := isHighSurrogate_iff.mpr ⟨hh, hh'⟩
  have hisLow : isLowSurrogate low = true := isLowSurrogate_iff.mpr ⟨hl, hl'⟩
  rw [readStringFrom]
  simp [hhigh, hnotLow, hisHigh, hlow, hisLow]

/-! ### Reading a literal -/

/-- The second half of a pair can only be written by its number. -/
theorem SpellsUnits.of_low {low : Nat} {us : List Nat} {body : List Char}
    (hbody : SpellsUnits (low :: us) body) (hlow : 0xdc00 ≤ low) (hlow' : low ≤ 0xdfff) :
    ∃ a b c d text, body = '\\' :: 'u' :: a :: b :: c :: d :: text ∧
      hexQuad? a b c d = some low ∧ SpellsUnits us text := by
  generalize hunits : low :: us = units at hbody
  cases hbody with
  | nil => cases hunits
  | @plain c vs text hquote hbackslash hcontrol hrest =>
    -- the first unit of a character is itself or the first half of a pair
    have hc := toNat_not_surrogate c
    rcases charUnits_cases c with ⟨-, hu⟩ | ⟨high, low', hh, hh', -, -, -, hu⟩ <;>
    · rw [hu] at hunits
      have hfirst := (List.cons.inj hunits).1
      omega
  | @escape letter c vs text hletter hrest =>
    have hsmall : c.toNat < 0x80 := toNat_lt_of_mem hletter
    have hfirst : low = c.toNat := (List.cons.inj hunits).1
    omega
  | @unit a b c d n vs text hunit hrest =>
    obtain ⟨rfl, rfl⟩ : low = n ∧ us = vs := List.cons.inj hunits
    exact ⟨a, b, c, d, text, rfl, hunit, hrest⟩

/-- What stands in front of a spelling of units that begin with a character spells that
character. -/
theorem readStringFrom_char {c : Char} {us : List Nat} {body : List Char}
    (hbody : SpellsUnits (charUnits c ++ us) body) (rest : List Char) :
    ∃ text, SpellsUnits us text ∧ ∀ done, readStringFrom done (body ++ '"' :: rest) =
      readStringFrom (c :: done) (text ++ '"' :: rest) := by
  have hsurrogate := toNat_not_surrogate c
  generalize hunits : charUnits c ++ us = units at hbody
  cases hbody with
  | nil => exact absurd hunits (charUnits_append_ne_nil c us)
  | plain hquote hbackslash hcontrol hrest =>
    obtain ⟨rfl, rfl⟩ := charUnits_append_inj hunits
    exact ⟨_, hrest, fun done => readStringFrom_plain hquote hbackslash hcontrol⟩
  | @escape letter e vs text hletter hrest =>
    -- the unit is the character that is escaped, since such a character is a single unit
    have hsmall : e.toNat < 0x80 := toNat_lt_of_mem hletter
    have he : charUnits e = [e.toNat] := charUnits_of_lt (by omega)
    have hsame : charUnits c ++ us = charUnits e ++ vs := by rw [hunits, he]; rfl
    obtain ⟨rfl, rfl⟩ := charUnits_append_inj hsame
    exact ⟨text, hrest, fun done => readStringFrom_escape hletter⟩
  | @unit a b c' d n vs text hunit hrest =>
    rcases charUnits_cases c with ⟨-, hc⟩ | ⟨high, low, hh, hh', hl, hl', hcode, hc⟩
    · -- one unit, or the first of two, of which the second is a number as well
      rw [hc] at hunits
      obtain ⟨rfl, rfl⟩ : c.toNat = n ∧ us = vs := List.cons.inj hunits
      refine ⟨text, hrest, fun done => ?_⟩
      show readStringFrom done ('\\' :: 'u' :: a :: b :: c' :: d :: (text ++ '"' :: rest)) = _
      rw [readStringFrom_unit hunit hsurrogate, Char.ofNat_toNat]
    · rw [hc] at hunits
      obtain ⟨rfl, hvs⟩ : high = n ∧ low :: us = vs := List.cons.inj hunits
      subst hvs
      obtain ⟨a₂, b₂, c₂, d₂, text, rfl, hunit₂, hrest⟩ := hrest.of_low hl hl'
      refine ⟨text, hrest, fun done => ?_⟩
      show readStringFrom done ('\\' :: 'u' :: a :: b :: c' :: d :: '\\' :: 'u' :: a₂ :: b₂ ::
        c₂ :: d₂ :: (text ++ '"' :: rest)) = _
      rw [readStringFrom_pair hunit hunit₂ hh hh' hl hl', pairChar_eq hcode]

/-- Every spelling of a text is read, character by character, behind what was read before. -/
theorem readStringFrom_of_spells {s body : List Char} (hbody : SpellsUnits (textUnits s) body)
    (rest done : List Char) :
    readStringFrom done (body ++ '"' :: rest) = .ok (done.reverse ++ s, rest) := by
  induction s generalizing body done with
  | nil =>
    -- there are no units left, so nothing is spelled but the end
    generalize hunits : textUnits [] = units at hbody
    have hnil : units = [] := hunits.symm
    cases hbody with
    | nil => rw [List.nil_append, readStringFrom, List.append_nil]
    | @plain c us text => exact absurd hnil (charUnits_append_ne_nil c us)
    | escape => cases hnil
    | unit => cases hnil
  | cons c s ih =>
    obtain ⟨text, htext, hstep⟩ := readStringFrom_char hbody rest
    rw [hstep, ih htext, List.reverse_cons, List.append_assoc]
    rfl

/-- Every spelling of a text is read as that text. -/
theorem readString_of_spells {s : String} {body : List Char}
    (hbody : SpellsUnits (textUnits s.toList) body) (rest : List Char) :
    readString (body ++ '"' :: rest) = .ok (s, rest) := by
  unfold readString
  rw [readStringFrom_of_spells hbody rest []]
  simp

/-! ### Passing over a literal -/

/-- Every spelling of any units is passed over, half of a surrogate pair included. -/
theorem skipString_of_spells {us : List Nat} {body : List Char} (hbody : SpellsUnits us body)
    (rest : List Char) : skipString (body ++ '"' :: rest) = .ok rest := by
  induction hbody with
  | nil => rw [List.nil_append, skipString]
  | @plain c us text hquote hbackslash hcontrol hrest ih =>
    have hlt : ¬c < ' ' := Char.not_lt.mpr hcontrol
    rw [← ih, List.cons_append, skipString.eq_def]
    split <;> simp_all
  | @escape letter c us text hletter hrest ih =>
    have hu := ne_u_of_mem hletter
    have hescaped := escaped?_of_mem hletter
    rw [← ih, List.cons_append, List.cons_append, skipString.eq_def]
    split <;> grind
  | @unit a b c d n us text hunit hrest ih =>
    show skipString ('\\' :: 'u' :: a :: b :: c :: d :: (text ++ '"' :: rest)) = _
    rw [skipString, hunit]
    exact ih

end NbdAttach.Json
