import NbdAttach.Text.Hex

/-!
# Writing JSON

Values are written without any blanks, and a character of a literal is escaped only where it has to
be: quotes, backslashes and control characters. A control character has an escape with a letter or
else one with its number.
-/

namespace NbdAttach.Json

open Text

/-- How a character is written in a literal. -/
def escape (c : Char) : List Char :=
  match c with
  | '"' => ['\\', '"']
  | '\\' => ['\\', '\\']
  | '\x08' => ['\\', 'b']
  | '\x0c' => ['\\', 'f']
  | '\n' => ['\\', 'n']
  | '\r' => ['\\', 'r']
  | '\t' => ['\\', 't']
  | c =>
    if c < ' ' then ['\\', 'u', '0', '0', hexDigit (c.toNat / 16), hexDigit (c.toNat % 16)]
    else [c]

def writeText (s : String) : List Char :=
  '"' :: (s.toList.flatMap escape ++ ['"'])

def writeNatural (n : Nat) : List Char :=
  Nat.toDigits 10 n

/-- Members of an object, given their names and their written values. -/
def writeMembers : List (String × List Char) → List Char
  | [] => []
  | [(name, value)] => writeText name ++ ':' :: value
  | (name, value) :: members => writeText name ++ ':' :: (value ++ ',' :: writeMembers members)

def writeObject (members : List (String × List Char)) : List Char :=
  '\x7b' :: (writeMembers members ++ ['\x7d'])

end NbdAttach.Json
