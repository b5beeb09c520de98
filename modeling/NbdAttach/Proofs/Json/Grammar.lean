import Mathlib
import NbdAttach.Json.Record

/-!
# The grammar of JSON

Which texts are JSON, and what they say. A `Value` is what a text says: of a number it keeps the
numeral, and of a string the 16-bit units that its literal stands for, since a literal can hold half
of a surrogate pair, which is no character. `Value.text`, `Value.natural` and `Value.record` are the
values that settings are made of.

`Spells` has one rule for each way to write a value, with blanks wherever the grammar has them, so a
value has many spellings: what is proved of a reader for every spelling does not depend on how the
text is laid out. Neither relation follows the readers; those walk over the text once, from left to
right, and are related to it in the modules that follow.
-/

namespace NbdAttach.Json

/-! ### Values -/

/-- The 16-bit units that a character is written with. -/
def charUnits (c : Char) : List Nat :=
  if c.toNat < 0x10000 then [c.toNat]
  else [0xd800 + (c.toNat - 0x10000) / 0x400, 0xdc00 + (c.toNat - 0x10000) % 0x400]

/-- The 16-bit units of a text. -/
def textUnits (text : List Char) : List Nat :=
  text.flatMap charUnits

/-- A JSON value. -/
inductive Value
  | null
  | boolean (b : Bool)
  | number (numeral : List Char)
  /-- A string, as 16-bit units; those of a text, unless half of a surrogate pair stands alone. -/
  | string (units : List Nat)
  | list (elements : List Value)
  | object (members : List (List Nat × Value))

namespace Value

/-- A string that is a text. -/
def text (s : String) : Value :=
  .string (textUnits s.toList)

/-- A natural number, without a fraction and without an exponent. -/
def natural (n : Nat) : Value :=
  .number (Nat.toDigits 10 n)

/-- A member whose name is a text. -/
def textMember (member : String × Value) : List Nat × Value :=
  (textUnits member.1.toList, member.2)

/-- An object whose names are texts. -/
def record (members : List (String × Value)) : Value :=
  .object (members.map textMember)

end Value

/-! ### Leaves -/

/-- Only blanks. -/
def Blanks (text : List Char) : Prop :=
  ∀ c ∈ text, c = ' ' ∨ c = '\n' ∨ c = '\t' ∨ c = '\r'

theorem blanks_nil : Blanks [] :=
  fun _ h => nomatch h

theorem isBlank_iff {c : Char} : isBlank c = true ↔ c = ' ' ∨ c = '\n' ∨ c = '\t' ∨ c = '\r' := by
  simp [isBlank, or_assoc]

/-- Blanks in front are skipped, whatever follows. -/
theorem skipBlanks_append {blanks : List Char} (hblanks : Blanks blanks) (text : List Char) :
    skipBlanks (blanks ++ text) = skipBlanks text :=
  List.dropWhile_append_of_pos fun c hc => isBlank_iff.mpr (hblanks c hc)

theorem skipBlanks_cons {c : Char} (hc : isBlank c = false) (text : List Char) :
    skipBlanks (c :: text) = c :: text :=
  List.dropWhile_cons_of_neg (by simp [hc])

/-- The letters that may stand behind a backslash, each with the character that it stands for. -/
def escapes : List (Char × Char) :=
  [('"', '"'), ('\\', '\\'), ('/', '/'), ('b', '\x08'), ('f', '\x0c'), ('n', '\n'), ('r', '\r'),
   ('t', '\t')]

/-- The spellings of a string between its quotes. -/
inductive SpellsUnits : List Nat → List Char → Prop
  | nil : SpellsUnits [] []
  /-- A character as it is, unless it has a meaning of its own. -/
  | plain {c : Char} {us : List Nat} {text : List Char} (hquote : c ≠ '"') (hbackslash : c ≠ '\\')
      (hcontrol : ' ' ≤ c) (hrest : SpellsUnits us text) :
    SpellsUnits (charUnits c ++ us) (c :: text)
  | escape {letter c : Char} {us : List Nat} {text : List Char} (hletter : (letter, c) ∈ escapes)
      (hrest : SpellsUnits us text) : SpellsUnits (c.toNat :: us) ('\\' :: letter :: text)
  /-- Any unit by its number. -/
  | unit {a b c d : Char} {n : Nat} {us : List Nat} {text : List Char}
      (hunit : hexQuad? a b c d = some n) (hrest : SpellsUnits us text) :
    SpellsUnits (n :: us) ('\\' :: 'u' :: a :: b :: c :: d :: text)

/-- Only decimal digits, and at least one. -/
def Digits (text : List Char) : Prop :=
  text ≠ [] ∧ ∀ c ∈ text, '0' ≤ c ∧ c ≤ '9'

/-- The part of a numeral in front of its point. No zero stands in front of other digits. -/
inductive IntegerPart : List Char → Prop
  | zero : IntegerPart ['0']
  | digits {text : List Char} (hdigits : Digits text) (hzero : text.head? ≠ some '0') :
    IntegerPart text

inductive FractionPart : List Char → Prop
  | none : FractionPart []
  | digits {text : List Char} (hdigits : Digits text) : FractionPart ('.' :: text)

inductive ExponentPart : List Char → Prop
  | none : ExponentPart []
  | digits {e : Char} {sign text : List Char} (he : e = 'e' ∨ e = 'E')
      (hsign : sign = [] ∨ sign = ['+'] ∨ sign = ['-']) (hdigits : Digits text) :
    ExponentPart (e :: (sign ++ text))

inductive IsNumeral : List Char → Prop
  | mk {sign integer fraction exponent : List Char} (hsign : sign = [] ∨ sign = ['-'])
      (hinteger : IntegerPart integer) (hfraction : FractionPart fraction)
      (hexponent : ExponentPart exponent) :
    IsNumeral (sign ++ (integer ++ (fraction ++ exponent)))

/-! ### Values and their parts -/

/-- What a piece of a text can say: a value, or what is enclosed in a list or an object. -/
inductive Part
  | value (v : Value)
  | elements (vs : List Value)
  | members (ms : List (List Nat × Value))

/-- The spellings of values, of the elements of a list and of the members of an object. -/
inductive Spells : Part → List Char → Prop
  | null : Spells (.value .null) ['n', 'u', 'l', 'l']
  | true : Spells (.value (.boolean true)) ['t', 'r', 'u', 'e']
  | false : Spells (.value (.boolean false)) ['f', 'a', 'l', 's', 'e']
  | number {numeral : List Char} (hnumeral : IsNumeral numeral) :
    Spells (.value (.number numeral)) numeral
  | string {us : List Nat} {body : List Char} (hbody : SpellsUnits us body) :
    Spells (.value (.string us)) ('"' :: (body ++ ['"']))
  | emptyList {blanks : List Char} (hblanks : Blanks blanks) :
    Spells (.value (.list [])) ('[' :: (blanks ++ [']']))
  | list {vs : List Value} {text : List Char} (helements : Spells (.elements vs) text) :
    Spells (.value (.list vs)) ('[' :: (text ++ [']']))
  | emptyObject {blanks : List Char} (hblanks : Blanks blanks) :
    Spells (.value (.object [])) ('\x7b' :: (blanks ++ ['\x7d']))
  | object {ms : List (List Nat × Value)} {text : List Char}
      (hmembers : Spells (.members ms) text) :
    Spells (.value (.object ms)) ('\x7b' :: (text ++ ['\x7d']))
  | element {v : Value} {before text after : List Char} (hbefore : Blanks before)
      (hvalue : Spells (.value v) text) (hafter : Blanks after) :
    Spells (.elements [v]) (before ++ (text ++ after))
  | elements {v : Value} {vs : List Value} {before text after rest : List Char}
      (hbefore : Blanks before) (hvalue : Spells (.value v) text) (hafter : Blanks after)
      (hrest : Spells (.elements vs) rest) :
    Spells (.elements (v :: vs)) (before ++ (text ++ (after ++ ',' :: rest)))
  | member {us : List Nat} {v : Value} {before name beforeColon afterColon text after : List Char}
      (hbefore : Blanks before) (hname : SpellsUnits us name) (hbeforeColon : Blanks beforeColon)
      (hafterColon : Blanks afterColon) (hvalue : Spells (.value v) text) (hafter : Blanks after) :
    Spells (.members [(us, v)])
      (before ++ '"' :: (name ++ '"' :: (beforeColon ++ ':' :: (afterColon ++ (text ++ after)))))
  | members {us : List Nat} {v : Value} {ms : List (List Nat × Value)}
      {before name beforeColon afterColon text after rest : List Char}
      (hbefore : Blanks before) (hname : SpellsUnits us name) (hbeforeColon : Blanks beforeColon)
      (hafterColon : Blanks afterColon) (hvalue : Spells (.value v) text) (hafter : Blanks after)
      (hrest : Spells (.members ms) rest) :
    Spells (.members ((us, v) :: ms))
      (before ++ '"' :: (name ++ '"' :: (beforeColon ++ ':' ::
        (afterColon ++ (text ++ (after ++ ',' :: rest))))))

end NbdAttach.Json
