import NbdAttach.Text.CharClass
import NbdAttach.Text.Hex

/-!
# Patterns

A value that is asked for may be given by a pattern, a regular expression. Here only its form is
read: `isPattern` holds of the texts that are well-formed. Groups and sets have to be closed, a
repetition has to follow what it repeats, the ends of a range have to stand in their order, and an
escape has to be known. Classes and word boundaries that depend on a script are not known.

A `Reader` goes over the text one character at a time.
-/

namespace NbdAttach.Text.Pattern

/-- What a single character is part of. -/
inductive Context
  | text
  | set
  /-- A range of a set, of which it is the end. -/
  | rangeFrom (low : Char)
deriving DecidableEq, Repr

/-- What the reader has just passed. -/
inductive Place
  /-- A whole item, outside of any set. -/
  | text
  /-- A backslash. -/
  | escape (within : Context)
  /-- Some digits of a character that is given by its number. -/
  | code (within : Context) (digitsLeft value : Nat)
  /-- An opening parenthesis. -/
  | group
  /-- An opening parenthesis and a question mark. -/
  | groupMark
  /-- The letter of a named group. -/
  | groupLetter
  /-- The beginning of a group's name. -/
  | groupName (name : List Char)
  /-- Some flags, the last one first. -/
  | flags (seen : List Char)
  /-- An opening bracket, with the sign of negation and with dashes or without. -/
  | setStart (negated dashed : Bool)
  /-- A whole item of a set. -/
  | set
  /-- A character that is an operator of sets when it is written twice. -/
  | operator (c : Char)
  /-- An item of a set from which a range could start. -/
  | item (c : Char)
  /-- Such an item, and a dash. -/
  | dash (low : Char)
deriving DecidableEq, Repr

/-- How far a pattern is read. -/
structure Reader where
  place : Place := .text
  /-- The number of groups that are open. -/
  groups : Nat := 0
  /-- The number of sets that are open. -/
  sets : Nat := 0
  names : List (List Char) := []
  /-- Is there something that can be repeated? -/
  repeatable : Bool := false
deriving DecidableEq, Repr

namespace Reader

/-- Goes on behind a whole item. -/
def behindItem (r : Reader) : Reader :=
  { r with place := .text, repeatable := true }

/-- Goes on at the beginning of a group or of an alternative. -/
def atBeginning (r : Reader) : Reader :=
  { r with place := .text, repeatable := false }

/-- Goes on behind a single character. -/
def behindChar (r : Reader) (c : Char) : Context → Option Reader
  | .text => some r.behindItem
  | .set => some { r with place := .item c }
  | .rangeFrom low => if low ≤ c then some { r with place := .set } else none

/-- Closes the innermost set. -/
def closeSet (r : Reader) : Reader :=
  if r.sets ≤ 1 then { r with sets := 0 }.behindItem
  else { r with sets := r.sets - 1, place := .set }

/-- Behind a backslash. -/
def escape (r : Reader) (within : Context) (c : Char) : Option Reader :=
  match c with
  | 'x' => some { r with place := .code within 2 0 }
  | 'u' => some { r with place := .code within 4 0 }
  | 'U' => some { r with place := .code within 8 0 }
  | 'a' => r.behindChar '\x07' within
  | 'f' => r.behindChar '\x0c' within
  | 't' => r.behindChar '\t' within
  | 'n' => r.behindChar '\n' within
  | 'r' => r.behindChar '\r' within
  | 'v' => r.behindChar '\x0b' within
  | _ =>
    if c = 'A' ∨ c = 'z' then if within = .text then some r.behindItem else none
    else if c.toNat < 0x80 ∧ !c.isAlphanum ∧ c ≠ '<' ∧ c ≠ '>' then r.behindChar c within
    else none

/-- Among the digits of a character that is given by its number. -/
def code (r : Reader) (within : Context) (digitsLeft value : Nat) (c : Char) : Option Reader :=
  match hexValue? c with
  | none => none
  | some digit =>
    let value := 16 * value + digit
    if 1 < digitsLeft then some { r with place := .code within (digitsLeft - 1) value }
    else if value.isValidChar then r.behindChar (Char.ofNat value) within
    else none

/-- Outside of any set. -/
def text (r : Reader) (c : Char) : Option Reader :=
  match c with
  | '(' => some { r with place := .group }
  | ')' => if r.groups = 0 then none else some { r with groups := r.groups - 1 }.behindItem
  | '|' => some r.atBeginning
  | '[' => some { r with place := .setStart false false, sets := 1 }
  | '\\' => some { r with place := .escape .text }
  | '?' | '*' | '+' => if r.repeatable then some r.behindItem else none
  | '\x7b' => none
  | _ => some r.behindItem

/-- Among the flags of a group. -/
def flags (r : Reader) (seen : List Char) (c : Char) : Option Reader :=
  if c = ':' then
    if seen.head? = some '-' then none else some { r with groups := r.groups + 1 }.atBeginning
  else if c = ')' then
    if seen = [] ∨ seen.head? = some '-' then none else some r.atBeginning
  else if c ∈ ['-', 'i', 'm', 's', 'U', 'u', 'R', 'x'] ∧ c ∉ seen then
    some { r with place := .flags (c :: seen) }
  else none

/-- May the character stand in the name of a group? -/
def isNameChar (first : Bool) (c : Char) : Bool :=
  c = '_' || isAlphanumeric c && !(first && c.isDigit) || !first && (c = '.' || c = '[' || c = ']')

/-- In the name of a group; a name is given once. -/
def groupName (r : Reader) (name : List Char) (c : Char) : Option Reader :=
  if c = '>' then
    if name = [] ∨ name ∈ r.names then none
    else some { r with groups := r.groups + 1, names := name :: r.names }.atBeginning
  else if isNameChar name.isEmpty c then some { r with place := .groupName (name ++ [c]) }
  else none

/-- Behind an item of a set. -/
def set (r : Reader) (c : Char) : Option Reader :=
  match c with
  | '[' => some { r with place := .setStart false false, sets := r.sets + 1 }
  | ']' => some r.closeSet
  | '\\' => some { r with place := .escape .set }
  | '&' | '-' | '~' => some { r with place := .operator c }
  | _ => some { r with place := .item c }

/-- Behind an item of a set from which a range could start. -/
def item (r : Reader) (before c : Char) : Option Reader :=
  if c = '-' then some { r with place := .dash before } else r.set c

/-- Takes up the next character. -/
def step (r : Reader) (c : Char) : Option Reader :=
  match r.place with
  | .text => r.text c
  | .escape within => r.escape within c
  | .code within digitsLeft value => r.code within digitsLeft value c
  | .group =>
    if c = '?' then some { r with place := .groupMark }
    else { r with groups := r.groups + 1 }.atBeginning.text c
  | .groupMark =>
    if c = 'P' then some { r with place := .groupLetter }
    else if c = '<' then some { r with place := .groupName [] }
    else r.flags [] c
  | .groupLetter => if c = '<' then some { r with place := .groupName [] } else none
  | .groupName name => r.groupName name c
  | .flags seen => r.flags seen c
  | .setStart negated dashed =>
    if c = '^' ∧ !negated ∧ !dashed then some { r with place := .setStart true false }
    else if c = '-' then some { r with place := .setStart negated true }
    else if c = ']' ∧ !dashed then some { r with place := .set }
    else r.set c
  | .set => r.set c
  | .operator before => if c = before then some { r with place := .set } else r.item before c
  | .item before => r.item before c
  | .dash low =>
    if c = ']' then some r.closeSet
    else if c = '-' then some { r with place := .set }
    else if c = '\\' then some { r with place := .escape (.rangeFrom low) }
    else r.behindChar c (.rangeFrom low)

end Reader

/-- Is the text a well-formed pattern? -/
def isPattern (text : List Char) : Bool :=
  match text.foldlM Reader.step {} with
  | none => false
  | some r => r.place = .text && r.groups = 0

end NbdAttach.Text.Pattern
