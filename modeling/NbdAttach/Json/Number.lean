import NbdAttach.Decimal.Double
import NbdAttach.Json.Failure

/-!
# Numbers

A number is read to its end before anybody asks what it is for. Only whole numbers that are written
without a fraction and without an exponent count as integers, and minus zero is none. A number that
is too large for a double-precision float is not accepted at all.

`skipNumber` goes over a number whose value does not matter, so its size does not matter either.
-/

namespace NbdAttach.Json

/-- A number that was read. -/
inductive Number
  | natural (n : Nat)
  /-- The negative of a number other than zero. -/
  | negative (n : Nat)
  /-- A number with a fraction or an exponent, or out of the range of integers; its size is given
  in units of the smallest double. -/
  | float (negative : Bool) (units : Nat)
deriving DecidableEq, Repr

def isDigit (c : Char) : Bool :=
  '0' ≤ c && c ≤ '9'

def digitValue (c : Char) : Nat :=
  c.toNat - '0'.toNat

/-- The largest number of 64 bits. -/
def maxWord : Nat := 0xffffffffffffffff

/-! ### Size

Digits are taken up until the next one would leave 64 bits; those behind only count for the power
of ten. -/

/-- Takes up digits in front of the point: the significand, and the digits that had no room. -/
def takeInteger (significand : Nat) : List Char → Nat × Nat
  | [] => (significand, 0)
  | c :: rest =>
    if maxWord < significand * 10 + digitValue c then (significand, rest.length + 1)
    else takeInteger (significand * 10 + digitValue c) rest

/-- Takes up digits behind the point: the significand, and how many had room. -/
def takeFraction (significand : Nat) : List Char → Nat × Nat
  | [] => (significand, 0)
  | c :: rest =>
    if maxWord < significand * 10 + digitValue c then (significand, 0)
    else
      let (s, n) := takeFraction (significand * 10 + digitValue c) rest
      (s, n + 1)

/-- The number that digits stand for. -/
def decimal (digits : List Char) : Nat :=
  digits.foldl (fun n c => n * 10 + digitValue c) 0

/-! ### Reading -/

/-- The digits in front of a point, of which there is at least one, and no zero stands in front of
others. `missing` is the problem when the text ends here. -/
def integerDigits (missing : Cause) : List Char → Except Failure (List Char × List Char)
  | [] => .error ⟨missing, 0⟩
  | '0' :: rest =>
    match rest with
    | c :: _ => if isDigit c then .error (.on .badNumber rest) else .ok (['0'], rest)
    | [] => .ok (['0'], rest)
  | c :: rest =>
    if isDigit c then .ok (c :: rest.takeWhile isDigit, rest.dropWhile isDigit)
    else .error (.on .badNumber (c :: rest))

/-- The digits behind a point, if there is one. -/
def fractionDigits (missing : Cause) : List Char → Except Failure (List Char × List Char)
  | '.' :: rest =>
    match rest.takeWhile isDigit with
    | [] => .error (match rest with | [] => ⟨missing, 0⟩ | _ => .on .badNumber rest)
    | digits => .ok (digits, rest.dropWhile isDigit)
  | rest => .ok ([], rest)

/-- The exponent, if there is one: its digits, and whether it is negative. -/
def exponentDigits (missing : Cause) :
    List Char → Except Failure (Option (Bool × List Char) × List Char)
  | c :: rest =>
    if c = 'e' ∨ c = 'E' then
      let (negative, rest) :=
        match rest with
        | '+' :: r => (false, r)
        | '-' :: r => (true, r)
        | r => (false, r)
      match rest.takeWhile isDigit with
      | [] => .error (match rest with | [] => ⟨missing, 0⟩ | _ => .on .badNumber rest)
      | digits => .ok (some (negative, digits), rest.dropWhile isDigit)
    else .ok (none, c :: rest)
  | [] => .ok (none, [])

/-- The parts of a number behind its sign. -/
structure NumberParts where
  integer : List Char
  fraction : List Char
  exponent? : Option (Bool × List Char)

def numberParts (missing : Cause) (text : List Char) :
    Except Failure (NumberParts × List Char) := do
  let (integer, rest) ← integerDigits missing text
  let (fraction, rest) ← fractionDigits missing rest
  let (exponent?, rest) ← exponentDigits missing rest
  return (⟨integer, fraction, exponent?⟩, rest)

/-- The largest exponent that is taken up. -/
def largestExponent : Nat := 0x7fffffff

/-- How many digits of an exponent are read up to the first that makes it too large. -/
def digitsUntilTooLarge (value : Nat) : List Char → Nat
  | [] => 0
  | c :: rest =>
    if largestExponent < value * 10 + digitValue c then 1
    else digitsUntilTooLarge (value * 10 + digitValue c) rest + 1

namespace NumberParts

/-- The double for a number, unless the number is too large for one. -/
def double? (p : NumberParts) : Option Nat :=
  let (significand, dropped) := takeInteger 0 p.integer
  let (significand, places) := takeFraction significand p.fraction
  let shift : Int := (dropped : Int) - places
  match p.exponent? with
  | none => Double.ofDecimal? significand shift
  | some (false, digits) => Double.ofDecimal? significand (shift + decimal digits)
  | some (true, digits) => Double.ofDecimal? significand (shift - decimal digits)

/-- The digits of the exponent that are still to come when the number turns out to be too large.
Only an exponent that is too large by itself shows that before its end. -/
def unreadDigits (p : NumberParts) : List Char :=
  match p.exponent? with
  | some (_, digits) => digits.drop (digitsUntilTooLarge 0 digits)
  | none => []

/-- The number, given its double. -/
def toNumber (p : NumberParts) (negative : Bool) (double : Nat) : Number :=
  let n := decimal p.integer
  if p.fraction.isEmpty ∧ p.exponent?.isNone ∧ n ≤ maxWord then
    if negative then if n = 0 ∨ 0x8000000000000000 < n then .float true double else .negative n
    else .natural n
  else .float negative double

end NumberParts

/-- Reads a number behind its sign. -/
def readNumber (negative : Bool) (text : List Char) : Except Failure (Number × List Char) := do
  let (parts, rest) ← numberParts .endInValue text
  match parts.double? with
  | none => .error (.before .numberTooLarge (parts.unreadDigits ++ rest))
  | some double => return (parts.toNumber negative double, rest)

/-- What follows a number behind its sign. A number that ends early is no number. -/
def skipNumber (text : List Char) : Except Failure (List Char) := do
  let (_, rest) ← numberParts .badNumber text
  return rest

end NbdAttach.Json
