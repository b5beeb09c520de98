/-!
# Hexadecimal numerals

Lower-case base-16 numerals, padded with zeros to a least width. A numeral is never cut: a number
that needs more digits than the width gets them all.

* `hex width n` writes `n`; `readHex` reads a numeral, `none` for anything else.
-/

namespace NbdAttach.Text

/-- The lower-case digit for a value below sixteen. -/
def hexDigit (d : Nat) : Char :=
  if d < 10 then Char.ofNat ('0'.toNat + d) else Char.ofNat ('a'.toNat + (d - 10))

/-- The value of a hexadecimal digit, in either case. -/
def hexValue? (c : Char) : Option Nat :=
  if '0' ≤ c ∧ c ≤ '9' then some (c.toNat - '0'.toNat)
  else if 'a' ≤ c ∧ c ≤ 'f' then some (c.toNat - 'a'.toNat + 10)
  else if 'A' ≤ c ∧ c ≤ 'F' then some (c.toNat - 'A'.toNat + 10)
  else none

/-- The digits of `n`, highest first; zero has one digit. -/
def hexDigits (n : Nat) : List Char :=
  if n < 16 then [hexDigit n] else hexDigits (n / 16) ++ [hexDigit (n % 16)]
termination_by n

/-- The digits of `n`, with zeros in front up to `width` characters. -/
def hex (width n : Nat) : List Char :=
  List.replicate (width - (hexDigits n).length) '0' ++ hexDigits n

/-- The number that a lower-case numeral stands for. -/
def readHex (digits : List Char) : Option Nat :=
  if digits.isEmpty then none
  else
    digits.foldl (fun acc c => acc.bind fun n =>
      if ('0' ≤ c ∧ c ≤ '9') ∨ ('a' ≤ c ∧ c ≤ 'f') then (hexValue? c).map (16 * n + ·) else none)
      (some 0)

end NbdAttach.Text
