import Mathlib
import NbdAttach.Json.Skip
import NbdAttach.Proofs.Json.Literals
import NbdAttach.Proofs.Json.Numerals

/-!
# Skipping values

Every spelling of every value is passed over up to its end (`skipValue_of_spells`), at any depth.

The walk keeps a stack where the grammar nests, so what is proved of a piece of a text is that the
walk gets over it with the same stack below it. `Reaches` says so together with a bound on the
steps: two for each character of the piece, which the walk over the whole text is given.
-/

namespace NbdAttach.Json

/-! ### How values begin and end -/

/-- What follows a value: blanks, and then the text ends or a character comes that no numeral
has. -/
theorem endsNumeral_of_blanks {after rest : List Char} (hafter : Blanks after)
    (hrest : EndsNumeral rest) : EndsNumeral (after ++ rest) := by
  cases after with
  | nil => exact hrest
  | cons c after =>
    intro d hd
    obtain rfl : c = d := Option.some.inj hd
    rcases hafter c List.mem_cons_self with rfl | rfl | rfl | rfl <;> decide

/-- Behind a value of an enclosure comes a comma or the end of the enclosure. -/
theorem endsNumeral_cons {c : Char} (hc : c = ',' ∨ c = ']' ∨ c = '\x7d') (rest : List Char) :
    EndsNumeral (c :: rest) := by
  intro d hd
  obtain rfl : c = d := Option.some.inj hd
  rcases hc with rfl | rfl | rfl <;> decide

theorem isDigit_ne {c d : Char} (hc : isDigit c = true) (hd : isDigit d = false) : c ≠ d := by
  rintro rfl
  exact absurd hc (by simp [hd])

/-- The part in front of the point begins with a digit. -/
theorem IntegerPart.exists_cons {integer : List Char} (hinteger : IntegerPart integer) :
    ∃ c digits, integer = c :: digits ∧ isDigit c = true := by
  cases hinteger with
  | zero => exact ⟨'0', [], rfl, by decide⟩
  | digits hdigits => exact hdigits.exists_cons

/-- A character that a value can begin with. -/
def BeginsValue (c : Char) : Prop :=
  c ∈ ['n', 't', 'f', '"', '-', '[', '\x7b'] ∨ isDigit c = true

/-- A numeral begins with its sign or with a digit. -/
theorem IsNumeral.exists_cons {numeral : List Char} (hnumeral : IsNumeral numeral) :
    ∃ c rest, numeral = c :: rest ∧ (c = '-' ∨ isDigit c = true) := by
  obtain @⟨sign, integer, fraction, exponent, hsign, hinteger, -, -⟩ := hnumeral
  obtain ⟨c, digits, rfl, hc⟩ := hinteger.exists_cons
  rcases hsign with rfl | rfl
  · exact ⟨c, _, rfl, .inr hc⟩
  · exact ⟨'-', _, rfl, .inl rfl⟩

/-- A value begins with a character that tells what kind of value it is. -/
theorem Spells.begins {v : Value} {text : List Char} (htext : Spells (.value v) text) :
    ∃ c rest, text = c :: rest ∧ BeginsValue c := by
  cases htext with
  | number hnumeral =>
    obtain ⟨c, rest, rfl, hc⟩ := hnumeral.exists_cons
    exact ⟨c, rest, rfl, hc.imp (fun h => by rw [h]; decide) id⟩
  | _ => exact ⟨_, _, rfl, .inl (by decide)⟩

/-- Such a character is no blank. -/
theorem BeginsValue.isBlank {c : Char} (hc : BeginsValue c) : isBlank c = false := by
  rcases hc with hc | hc
  · simp only [List.mem_cons, List.not_mem_nil, or_false] at hc
    rcases hc with rfl | rfl | rfl | rfl | rfl | rfl | rfl <;> decide
  · have hne := fun d (hd : isDigit d = false) => isDigit_ne hc hd
    simp only [Json.isBlank, Bool.or_eq_false_iff, decide_eq_false_iff_not]
    exact ⟨⟨⟨hne _ (by decide), hne _ (by decide)⟩, hne _ (by decide)⟩, hne _ (by decide)⟩

/-- The first character of a value does not end a list or an object. -/
theorem BeginsValue.ne_end {c : Char} (hc : BeginsValue c) : c ≠ ']' ∧ c ≠ '\x7d' := by
  rcases hc with hc | hc
  · simp only [List.mem_cons, List.not_mem_nil, or_false] at hc
    rcases hc with rfl | rfl | rfl | rfl | rfl | rfl | rfl <;> decide
  · exact ⟨isDigit_ne hc (by decide), isDigit_ne hc (by decide)⟩

/-- There are no blanks in front of a value to be skipped. -/
theorem Spells.skipBlanks_value {v : Value} {text : List Char} (htext : Spells (.value v) text)
    (rest : List Char) : skipBlanks (text ++ rest) = text ++ rest := by
  obtain ⟨c, more, rfl, hc⟩ := htext.begins
  exact skipBlanks_cons hc.isBlank _

/-- The elements of a list begin with a value. -/
theorem Spells.elements_begin {vs : List Value} {text : List Char}
    (htext : Spells (.elements vs) text) (rest : List Char) :
    ∃ c more, skipBlanks (text ++ rest) = c :: more ∧ BeginsValue c := by
  cases htext with
  | element hbefore hvalue =>
    obtain ⟨c, more, rfl, hc⟩ := hvalue.begins
    rw [List.append_assoc, skipBlanks_append hbefore]
    exact ⟨c, _, skipBlanks_cons hc.isBlank _, hc⟩
  | elements hbefore hvalue =>
    obtain ⟨c, more, rfl, hc⟩ := hvalue.begins
    rw [List.append_assoc, skipBlanks_append hbefore]
    exact ⟨c, _, skipBlanks_cons hc.isBlank _, hc⟩

/-- The members of an object begin with a name. -/
theorem Spells.members_begin {ms : List (List Nat × Value)} {text : List Char}
    (htext : Spells (.members ms) text) (rest : List Char) :
    ∃ more, skipBlanks (text ++ rest) = '"' :: more := by
  cases htext with
  | member hbefore =>
    rw [List.append_assoc, skipBlanks_append hbefore]
    exact ⟨_, skipBlanks_cons (by decide) _⟩
  | members hbefore =>
    rw [List.append_assoc, skipBlanks_append hbefore]
    exact ⟨_, skipBlanks_cons (by decide) _⟩

/-! ### Values that enclose nothing -/

/-- A numeral is passed over up to its end, with or without a sign. -/
theorem skipScalar_number {numeral : List Char} (hnumeral : IsNumeral numeral) {rest : List Char}
    (hrest : EndsNumeral rest) : skipScalar (numeral ++ rest) = .ok rest := by
  obtain @⟨sign, integer, fraction, exponent, hsign, hinteger, hfraction, hexponent⟩ := hnumeral
  have hskip := skipNumber_of_parts hinteger hfraction hexponent hrest
  simp only [List.append_assoc]
  rcases hsign with rfl | rfl
  · obtain ⟨c, digits, rfl, hc⟩ := hinteger.exists_cons
    have hne := fun d (hd : isDigit d = false) => isDigit_ne hc hd
    rw [List.nil_append, List.cons_append, skipScalar, if_pos hc]
    · exact hskip
    all_goals exact hne _ (by decide)
  · exact hskip

/-! ### Steps of the walk -/

section Steps

variable {enclosures : List Enclosure} {text rest : List Char}

/-- One step gets over a value that encloses nothing, with the blanks in front of it. -/
theorem skipStep_scalar {c : Char} {before : List Char} (hbefore : Blanks before)
    (hc : BeginsValue c) (hlist : c ≠ '[') (hobject : c ≠ '\x7b')
    (hscalar : skipScalar (c :: text) = .ok rest) :
    skipStep .value enclosures (before ++ c :: text) = .ok (.afterValue, enclosures, rest) := by
  unfold skipStep
  rw [skipBlanks_append hbefore, skipBlanks_cons hc.isBlank]
  simp only
  split
  · next h => exact absurd (List.cons.inj h).1 hlist
  · next h => exact absurd (List.cons.inj h).1 hobject
  · rw [hscalar]

/-- The character at which an enclosure begins. -/
def Enclosure.first : Enclosure → Char
  | .list => '['
  | .object => '\x7b'

/-- The character at which an enclosure ends. -/
def Enclosure.last : Enclosure → Char
  | .list => ']'
  | .object => '\x7d'

/-- Which character ends an enclosure depends on its kind. -/
theorem Enclosure.ends_iff {e : Enclosure} {c : Char} :
    ((e = .list ∧ c = ']') ∨ (e = .object ∧ c = '\x7d')) ↔ c = e.last := by
  cases e <;> simp [Enclosure.last]

/-- A bracket or a brace opens an enclosure, inside the others. -/
theorem skipStep_open (e : Enclosure) {before : List Char} (hbefore : Blanks before) :
    skipStep .value enclosures (before ++ e.first :: text) =
      .ok (.opened, e :: enclosures, text) := by
  have hblank : isBlank e.first = false := by cases e <;> decide
  unfold skipStep
  rw [skipBlanks_append hbefore, skipBlanks_cons hblank]
  cases e with
  | list => rfl
  | object => rfl

/-- The end of the innermost enclosure is the end of a value of the next one. -/
theorem skipStep_close {state : SkipState} (hstate : state ≠ .value) {e : Enclosure}
    (htext : skipBlanks text = e.last :: rest) :
    skipStep state (e :: enclosures) text = .ok (.afterValue, enclosures, rest) := by
  cases state with
  | value => exact absurd rfl hstate
  | opened =>
    unfold skipStep
    simp only [htext, if_pos (Enclosure.ends_iff.mpr rfl)]
  | afterValue =>
    unfold skipStep
    simp only [htext, if_pos (Enclosure.ends_iff.mpr rfl)]

/-- Goes to the next value of an enclosure. -/
def goOn (e : Enclosure) (text : List Char) : Except Failure (List Char) :=
  match e with
  | .list => .ok text
  | .object => skipKey text

/-- At the beginning of an enclosure with something in it, the walk goes to its first value. -/
theorem skipStep_opened {e : Enclosure} {c : Char} {more : List Char}
    (htext : skipBlanks text = c :: more) (hc : c ≠ e.last)
    (hnext : goOn e (c :: more) = .ok rest) :
    skipStep .opened (e :: enclosures) text = .ok (.value, e :: enclosures, rest) := by
  unfold skipStep
  simp only [htext, if_neg (mt Enclosure.ends_iff.mp hc)]
  cases e with
  | list => rw [Except.ok.inj hnext]
  | object =>
    have hkey : skipKey (c :: more) = .ok rest := hnext
    simp only [hkey]

/-- Behind a comma it goes to the next value. -/
theorem skipStep_comma {e : Enclosure} {more : List Char}
    (htext : skipBlanks text = ',' :: more) (hnext : goOn e more = .ok rest) :
    skipStep .afterValue (e :: enclosures) text = .ok (.value, e :: enclosures, rest) := by
  have hc : ',' ≠ e.last := by cases e <;> decide
  unfold skipStep
  simp only [htext, if_neg (mt Enclosure.ends_iff.mp hc)]
  cases e with
  | list => rw [Except.ok.inj hnext]; rfl
  | object =>
    have hkey : skipKey more = .ok rest := hnext
    simp only [hkey, if_true]

end Steps

/-! ### Walks -/

/-- From a place in a text, the walk comes behind a value in at least one step and at most the given
number of them, and goes on from there. -/
def Reaches (bound : Nat) (state : SkipState) (enclosures : List Enclosure) (text : List Char)
    (outer : List Enclosure) (rest : List Char) : Prop :=
  ∃ k, 0 < k ∧ k ≤ bound ∧
    ∀ n, skipFrom state enclosures text (k + n) = skipFrom .afterValue outer rest n

namespace Reaches

variable {state state' : SkipState} {enclosures enclosures' outer outer' : List Enclosure}
  {text text' rest rest' : List Char} {bound bound' : Nat}

theorem mono (h : Reaches bound state enclosures text outer rest) (hbound : bound ≤ bound') :
    Reaches bound' state enclosures text outer rest := by
  obtain ⟨k, hpos, hk, hwalk⟩ := h
  exact ⟨k, hpos, hk.trans hbound, hwalk⟩

/-- Walks are put together, and so are their bounds. -/
theorem trans (h : Reaches bound state enclosures text outer rest)
    (h' : Reaches bound' .afterValue outer rest outer' rest') :
    Reaches (bound + bound') state enclosures text outer' rest' := by
  obtain ⟨k, hpos, hk, hwalk⟩ := h
  obtain ⟨k', hpos', hk', hwalk'⟩ := h'
  refine ⟨k + k', by omega, by omega, fun n => ?_⟩
  rw [Nat.add_assoc, hwalk, hwalk']

/-- One step that does not stop the walk. -/
theorem skipFrom_succ (hgo : ¬(state = .afterValue ∧ enclosures = []))
    (hstep : skipStep state enclosures text = .ok (state', enclosures', text')) (n : Nat) :
    skipFrom state enclosures text (1 + n) = skipFrom state' enclosures' text' n := by
  rw [Nat.add_comm, skipFrom, if_neg hgo, hstep]

theorem one (hgo : ¬(state = .afterValue ∧ enclosures = []))
    (hstep : skipStep state enclosures text = .ok (.afterValue, outer, rest)) :
    Reaches 1 state enclosures text outer rest :=
  ⟨1, Nat.one_pos, Nat.le_refl 1, fun n => skipFrom_succ hgo hstep n⟩

/-- A walk with one step in front. -/
theorem step (hgo : ¬(state = .afterValue ∧ enclosures = []))
    (hstep : skipStep state enclosures text = .ok (state', enclosures', text'))
    (h : Reaches bound state' enclosures' text' outer rest) :
    Reaches (bound + 1) state enclosures text outer rest := by
  obtain ⟨k, hpos, hk, hwalk⟩ := h
  refine ⟨1 + k, by omega, by omega, fun n => ?_⟩
  rw [Nat.add_assoc, skipFrom_succ hgo hstep, hwalk]

end Reaches

/-! ### Getting over what is spelled -/

/-- Over a value, over the rest of a list and over the rest of an object. The members of an object
are entered behind the colon of the first. -/
def Skipped : Part → List Char → Prop
  | .value _, text =>
    ∀ (enclosures : List Enclosure) (before rest : List Char), Blanks before → EndsNumeral rest →
      Reaches (2 * text.length) .value enclosures (before ++ (text ++ rest)) enclosures rest
  | .elements _, text =>
    ∀ (outer : List Enclosure) (rest : List Char),
      Reaches (2 * text.length + 2) .value (.list :: outer) (text ++ ']' :: rest) outer rest
  | .members _, text =>
    ∀ (outer : List Enclosure) (rest : List Char),
      ∃ value, skipKey (text ++ '\x7d' :: rest) = .ok value ∧
        Reaches (2 * text.length + 2) .value (.object :: outer) value outer rest

/-- In front of a value the walk is not done. -/
theorem not_done_value {enclosures : List Enclosure} :
    ¬(SkipState.value = .afterValue ∧ enclosures = []) :=
  fun h => nomatch h.1

theorem not_done_cons {state : SkipState} {e : Enclosure} {outer : List Enclosure} :
    ¬(state = .afterValue ∧ e :: outer = []) :=
  fun h => nomatch h.2

theorem skipBlanks_skipBlanks (text : List Char) : skipBlanks (skipBlanks text) = skipBlanks text :=
  List.dropWhile_idempotent isBlank text

/-- Blanks in front of a value make no difference to the walk. -/
theorem Reaches.of_skipBlanks {enclosures outer : List Enclosure} {text rest : List Char}
    {bound : Nat} (h : Reaches bound .value enclosures text outer rest) :
    Reaches bound .value enclosures (skipBlanks text) outer rest := by
  obtain ⟨k, hpos, hk, hwalk⟩ := h
  have hstep : skipStep .value enclosures (skipBlanks text) = skipStep .value enclosures text := by
    unfold skipStep
    rw [skipBlanks_skipBlanks]
  refine ⟨k, hpos, hk, fun n => ?_⟩
  -- the first step is the same, and there is a first step
  obtain ⟨j, rfl⟩ : ∃ j, k = j + 1 := ⟨k - 1, by omega⟩
  rw [← hwalk, Nat.add_right_comm, skipFrom, skipFrom, hstep, if_neg not_done_value,
    if_neg not_done_value]

/-- Blanks in front of a name make no difference. -/
theorem skipKey_skipBlanks (text : List Char) : skipKey (skipBlanks text) = skipKey text := by
  unfold skipKey
  rw [skipBlanks_skipBlanks]

/-- A name and the colon behind it are passed over together. -/
theorem skipKey_of_spells {us : List Nat} {before name beforeColon : List Char}
    (hbefore : Blanks before) (hname : SpellsUnits us name) (hbeforeColon : Blanks beforeColon)
    (rest : List Char) :
    skipKey (before ++ '"' :: (name ++ '"' :: (beforeColon ++ ':' :: rest))) = .ok rest := by
  unfold skipKey
  rw [skipBlanks_append hbefore, skipBlanks_cons (by decide)]
  simp only [skipString_of_spells hname]
  rw [skipBlanks_append hbeforeColon, skipBlanks_cons (by decide)]
  rfl

/-- Behind blanks, the character that comes next is found. -/
theorem skipBlanks_to {blanks : List Char} (hblanks : Blanks blanks) {c : Char}
    (hc : isBlank c = false) (rest : List Char) : skipBlanks (blanks ++ c :: rest) = c :: rest := by
  rw [skipBlanks_append hblanks, skipBlanks_cons hc]

theorem Enclosure.isBlank_last (e : Enclosure) : isBlank e.last = false := by
  cases e <;> decide

theorem Enclosure.last_cases (e : Enclosure) : e.last = ',' ∨ e.last = ']' ∨ e.last = '\x7d' := by
  cases e <;> decide

/-- A value that encloses nothing is passed over in one step, so in no more than twice its
length. -/
theorem skipped_scalar {v : Value} {c : Char} {more : List Char} (hc : BeginsValue c)
    (hlist : c ≠ '[') (hobject : c ≠ '\x7b')
    (hscalar : ∀ rest, EndsNumeral rest → skipScalar (c :: more ++ rest) = .ok rest) :
    Skipped (.value v) (c :: more) := by
  intro enclosures before rest hbefore hrest
  have hstep : skipStep .value enclosures (before ++ (c :: more ++ rest)) =
      .ok (.afterValue, enclosures, rest) :=
    skipStep_scalar hbefore hc hlist hobject (hscalar rest hrest)
  refine (Reaches.one not_done_value hstep).mono ?_
  simp only [List.length_cons]
  omega

/-- The end of an enclosure, behind a value or right at its beginning. -/
theorem reaches_end {state : SkipState} (hstate : state ≠ .value) (e : Enclosure)
    (outer : List Enclosure) {blanks : List Char} (hblanks : Blanks blanks) (rest : List Char) :
    Reaches 1 state (e :: outer) (blanks ++ e.last :: rest) outer rest :=
  Reaches.one not_done_cons
    (skipStep_close hstate (skipBlanks_to hblanks e.isBlank_last rest))

/-- An enclosure with nothing in it. -/
theorem skipped_empty {v : Value} (e : Enclosure) {blanks : List Char} (hblanks : Blanks blanks) :
    Skipped (.value v) (e.first :: (blanks ++ [e.last])) := by
  intro enclosures before rest hbefore hrest
  have hclose : Reaches 1 .opened (e :: enclosures) (blanks ++ e.last :: rest) enclosures rest :=
    reaches_end (by decide) e enclosures hblanks rest
  have hopen := hclose.step not_done_value (skipStep_open e hbefore)
  have htext : e.first :: (blanks ++ [e.last]) ++ rest = e.first :: (blanks ++ e.last :: rest) := by
    simp
  rw [htext]
  refine hopen.mono ?_
  simp only [List.length_cons, List.length_append]
  omega

/-- A value and the end of the enclosure behind it. -/
theorem reaches_last {v : Value} {text : List Char} (htext : Skipped (.value v) text)
    (e : Enclosure) (outer : List Enclosure) {before after : List Char} (hbefore : Blanks before)
    (hafter : Blanks after) (rest : List Char) :
    Reaches (2 * text.length + 1) .value (e :: outer)
      (before ++ (text ++ (after ++ e.last :: rest))) outer rest := by
  have hends : EndsNumeral (after ++ e.last :: rest) :=
    endsNumeral_of_blanks hafter (endsNumeral_cons e.last_cases rest)
  exact (htext (e :: outer) before _ hbefore hends).trans
    (reaches_end (by decide) e outer hafter rest)

/-- A value and the comma behind it, up to the next value. -/
theorem reaches_comma {v : Value} {text : List Char} (htext : Skipped (.value v) text)
    (e : Enclosure) (outer : List Enclosure) {before after : List Char} (hbefore : Blanks before)
    (hafter : Blanks after) {more value rest : List Char} {bound : Nat}
    (hnext : goOn e more = .ok value) (hmore : Reaches bound .value (e :: outer) value outer rest) :
    Reaches (2 * text.length + (bound + 1)) .value (e :: outer)
      (before ++ (text ++ (after ++ ',' :: more))) outer rest := by
  have hends : EndsNumeral (after ++ ',' :: more) :=
    endsNumeral_of_blanks hafter (endsNumeral_cons (.inl rfl) more)
  have hcomma := hmore.step not_done_cons
    (skipStep_comma (skipBlanks_to hafter (by decide) more) hnext)
  exact (htext (e :: outer) before _ hbefore hends).trans hcomma

/-- Every spelling of every part is passed over. The induction is on the spelling; the stack is
arbitrary, for an enclosure is entered with one more on it. -/
theorem skipped_of_spells {part : Part} {text : List Char} (htext : Spells part text) :
    Skipped part text := by
  induction htext with
  | null => exact skipped_scalar (.inl (by decide)) (by decide) (by decide) fun _ _ => rfl
  | true => exact skipped_scalar (.inl (by decide)) (by decide) (by decide) fun _ _ => rfl
  | false => exact skipped_scalar (.inl (by decide)) (by decide) (by decide) fun _ _ => rfl
  | number hnumeral =>
    -- the walk tells a sign from a digit, and both are passed over in one step
    have hscalar := fun rest (hrest : EndsNumeral rest) => skipScalar_number hnumeral hrest
    obtain ⟨c, more, rfl, rfl | hc⟩ := hnumeral.exists_cons
    · exact skipped_scalar (.inl (by decide)) (by decide) (by decide) hscalar
    · exact skipped_scalar (.inr hc) (isDigit_ne hc (by decide)) (isDigit_ne hc (by decide)) hscalar
  | @string us body hbody =>
    refine skipped_scalar (.inl (by decide)) (by decide) (by decide) fun rest _ => ?_
    show skipString (body ++ ['"'] ++ rest) = _
    rw [List.append_assoc]
    exact skipString_of_spells hbody rest
  | emptyList hblanks => exact skipped_empty .list hblanks
  | emptyObject hblanks => exact skipped_empty .object hblanks
  | @list vs text helements ih =>
    intro enclosures before rest hbefore hrest
    -- the step behind the bracket skips the blanks that belong to the first element
    obtain ⟨c, more, hfirst, hc⟩ := helements.elements_begin (']' :: rest)
    have hinner := (ih enclosures rest).of_skipBlanks
    rw [hfirst] at hinner
    have hopened := hinner.step not_done_cons
      (skipStep_opened (e := .list) hfirst hc.ne_end.1 rfl)
    have hwhole := hopened.step not_done_value (skipStep_open .list hbefore)
    have htext : '[' :: (text ++ [']']) ++ rest = '[' :: (text ++ ']' :: rest) := by simp
    rw [htext]
    refine hwhole.mono ?_
    simp only [List.length_cons, List.length_append, List.length_nil]
    omega
  | @object ms text hmembers ih =>
    intro enclosures before rest hbefore hrest
    -- the step behind the brace goes over the first name and its colon as well
    obtain ⟨more, hfirst⟩ := hmembers.members_begin ('\x7d' :: rest)
    obtain ⟨value, hkey, hinner⟩ := ih enclosures rest
    rw [← skipKey_skipBlanks, hfirst] at hkey
    have hopened := hinner.step not_done_cons
      (skipStep_opened (e := .object) hfirst (by decide) hkey)
    have hwhole := hopened.step not_done_value (skipStep_open .object hbefore)
    have htext : '\x7b' :: (text ++ ['\x7d']) ++ rest = '\x7b' :: (text ++ '\x7d' :: rest) := by
      simp
    rw [htext]
    refine hwhole.mono ?_
    simp only [List.length_cons, List.length_append, List.length_nil]
    omega
  | @element v before text after hbefore hvalue hafter ih =>
    intro outer rest
    have hlast := reaches_last ih .list outer hbefore hafter rest
    simp only [List.append_assoc]
    refine hlast.mono ?_
    simp only [List.length_append]
    omega
  | @elements v vs before text after more hbefore hvalue hafter hrest ihvalue ih =>
    intro outer rest
    have hcomma := reaches_comma ihvalue .list outer hbefore hafter rfl (ih outer rest)
    simp only [List.append_assoc, List.cons_append]
    refine hcomma.mono ?_
    simp only [List.length_append, List.length_cons]
    omega
  | @member us v before name beforeColon afterColon text after hbefore hname hbeforeColon
      hafterColon hvalue hafter ih =>
    intro outer rest
    have hlast := reaches_last ih .object outer hafterColon hafter rest
    simp only [List.append_assoc, List.cons_append]
    refine ⟨_, skipKey_of_spells hbefore hname hbeforeColon _, hlast.mono ?_⟩
    simp only [List.length_append, List.length_cons]
    omega
  | @members us v ms before name beforeColon afterColon text after more hbefore hname hbeforeColon
      hafterColon hvalue hafter hrest ihvalue ih =>
    intro outer rest
    -- the step behind the comma goes over the next name and its colon
    obtain ⟨value, hkey, hmore⟩ := ih outer rest
    have hcomma := reaches_comma ihvalue .object outer hafterColon hafter hkey hmore
    simp only [List.append_assoc, List.cons_append]
    refine ⟨_, skipKey_of_spells hbefore hname hbeforeColon _, hcomma.mono ?_⟩
    simp only [List.length_append, List.length_cons]
    omega

/-- Every spelling of every value is passed over up to its end. -/
theorem skipValue_of_spells {v : Value} {text : List Char} (htext : Spells (.value v) text)
    {before rest : List Char} (hbefore : Blanks before) (hrest : EndsNumeral rest) :
    skipValue (before ++ (text ++ rest)) = .ok rest := by
  obtain ⟨k, hpos, hk, hwalk⟩ : Reaches _ _ _ _ _ _ :=
    skipped_of_spells htext [] before rest hbefore hrest
  have hlength : k ≤ 2 * (before ++ (text ++ rest)).length := by
    simp only [List.length_append]
    omega
  obtain ⟨n, hn⟩ : ∃ n, 2 * (before ++ (text ++ rest)).length + 2 = k + (n + 1) :=
    ⟨2 * (before ++ (text ++ rest)).length + 1 - k, by omega⟩
  -- one step is left, in which the walk sees that it is done
  unfold skipValue
  rw [hn, hwalk, skipFrom, if_pos ⟨rfl, rfl⟩]

end NbdAttach.Json
