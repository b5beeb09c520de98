import Mathlib
import NbdAttach.Json.Write
import NbdAttach.Proofs.Json.Literals
import NbdAttach.Proofs.Json.Numerals
import NbdAttach.Proofs.Text.Hex

/-!
# What is written

What is written for a value is one of its spellings: for any text (`spells_writeText`), for any
natural number (`spells_writeNatural`), and for an object whose values are written so
(`spells_writeObject`).
-/

namespace NbdAttach.Json

open Text

/-! ### Literals -/

/-- A control character is its own unit. -/
theorem charUnits_of_control {c : Char} (hc : c < ' ') : charUnits c = [c.toNat] := by
  have hsmall : c.toNat < 0x20 := hc
  exact charUnits_of_lt (by omega)

/-- The number of a control character, as it is written. -/
theorem hexQuad?_control {n : Nat} (hn : n < 0x20) :
    hexQuad? '0' '0' (hexDigit (n / 16)) (hexDigit (n % 16)) = some n := by
  have hzero : hexValue? '0' = some 0 := by decide
  have hhigh : hexValue? (hexDigit (n / 16)) = some (n / 16) := hexValue?_hexDigit (by omega)
  have hlow : hexValue? (hexDigit (n % 16)) = some (n % 16) := hexValue?_hexDigit (by omega)
  have hsum : ((0 * 16 + 0) * 16 + n / 16) * 16 + n % 16 = n := by omega
  simp only [hexQuad?, hzero, hhigh, hlow, hsum]

/-- What is written for a character is one of its spellings. -/
theorem spellsUnits_escape (c : Char) {us : List Nat} {text : List Char}
    (htext : SpellsUnits us text) : SpellsUnits (charUnits c ++ us) (escape c ++ text) := by
  unfold escape
  split
  case h_8 hquote hbackslash _ _ _ _ _ =>
    -- no escape with a letter, so a number for a control character and else the character itself
    split
    · next hcontrol =>
      rw [charUnits_of_control hcontrol]
      exact .unit (hexQuad?_control hcontrol) htext
    · next hcontrol => exact .plain hquote hbackslash (Char.not_lt.mp hcontrol) htext
  all_goals exact .escape (by decide) htext

/-- A text is written character by character. -/
theorem spellsUnits_flatMap_escape (s : List Char) :
    SpellsUnits (textUnits s) (s.flatMap escape) := by
  induction s with
  | nil => exact .nil
  | cons c s ih => exact spellsUnits_escape c ih

theorem spells_writeText (s : String) : Spells (.value (.text s)) (writeText s) :=
  .string (spellsUnits_flatMap_escape s.toList)

example : writeText "a\"\n\x1f\x7fé" =
    ['"', 'a', '\\', '"', '\\', 'n', '\\', 'u', '0', '0', '1', 'f', '\x7f', 'é', '"'] := by
  decide

/-! ### Numbers -/

theorem spells_writeNatural (n : Nat) : Spells (.value (.natural n)) (writeNatural n) :=
  .number (isNumeral_toDigits n)

/-! ### Objects -/

/-- A member, and its name with a spelling of its value. -/
def MemberSpelled (member : String × Value) (spelled : String × List Char) : Prop :=
  member.1 = spelled.1 ∧ Spells (.value member.2) spelled.2

/-- Members whose values are spelled are written without blanks, with commas between them. -/
theorem spells_writeMembers {members : List (String × Value)} {spelled : List (String × List Char)}
    (hspelled : List.Forall₂ MemberSpelled members spelled) (hne : members ≠ []) :
    Spells (.members (members.map Value.textMember)) (writeMembers spelled) := by
  induction hspelled with
  | nil => exact absurd rfl hne
  | @cons member name members spelled hmember hrest ih =>
    obtain ⟨key, v⟩ := member
    obtain ⟨_, value⟩ := name
    obtain ⟨rfl, hvalue⟩ : key = _ ∧ Spells (.value v) value := hmember
    have hname := spellsUnits_flatMap_escape key.toList
    -- the last member has no comma behind it
    cases hrest with
    | nil =>
      have hone := Spells.member blanks_nil hname blanks_nil blanks_nil hvalue blanks_nil
      simpa [writeMembers, writeText, Value.textMember] using hone
    | cons hnext hrest =>
      have hmore := Spells.members blanks_nil hname blanks_nil blanks_nil hvalue blanks_nil
        (ih (List.cons_ne_nil _ _))
      simpa [writeMembers, writeText, Value.textMember] using hmore

/-- What is written for an object spells it, if what is written for its values does. -/
theorem spells_writeObject {members : List (String × Value)} {spelled : List (String × List Char)}
    (hspelled : List.Forall₂ MemberSpelled members spelled) :
    Spells (.value (.record members)) (writeObject spelled) := by
  cases hspelled with
  | nil => exact .emptyObject blanks_nil
  | cons hmember hrest =>
    exact .object (spells_writeMembers (.cons hmember hrest) (List.cons_ne_nil _ _))

end NbdAttach.Json
