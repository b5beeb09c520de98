/-!
# Doubles

Double-precision floats that are finite and not negative, in exact arithmetic. Each is a whole
number of units of 2⁻¹⁰⁷⁴, the smallest double, and is kept as that number. Not every number of
units is a double: only the first 53 binary digits may differ from zero.

* `Double.nearest` rounds a quotient of natural numbers to a double.
* `Double.ofDecimal?` is a significand times a power of ten, each factor and the product rounded.
-/

namespace NbdAttach.Double

/-- How many units are one. -/
def one : Nat := 1 <<< 1074

/-- The numbers of units from here on are too large for a double. -/
def limit : Nat := 1 <<< (1024 + 1074)

/-- A quotient, rounded to a natural number; a half goes to the even neighbour. -/
def roundQuotient (n d : Nat) : Nat :=
  let q := n / d
  let r := n % d
  if d < 2 * r ∨ (2 * r = d ∧ q % 2 = 1) then q + 1 else q

/-- The distance between neighbours around a number of units. -/
def spacing (units : Nat) : Nat :=
  1 <<< (units.log2 + 1 - 53)

/-- The units of the double that is nearest to `n / d`. -/
def nearest (n d : Nat) : Nat :=
  let step := spacing (n * one / d)
  roundQuotient (n * one) (d * step) * step

def product (a b : Nat) : Nat :=
  nearest (a * b) (one * one)

def quotient (a b : Nat) : Nat :=
  nearest a b

/-- The largest power of ten that a significand is scaled by in one step. -/
def largestPower : Nat := 308

/-- The double nearest to a power of ten. -/
def powerOfTen (exponent : Nat) : Nat :=
  nearest (Nat.pow 10 exponent) 1

/-- Divides by a power of ten, in at most the given number of steps. -/
def shrink (units exponent : Nat) : Nat → Nat
  | 0 => 0
  | steps + 1 =>
    if exponent ≤ largestPower then quotient units (powerOfTen exponent)
    else shrink (quotient units (powerOfTen largestPower)) (exponent - largestPower) steps

/-- The double for a significand of at most 64 bits times a power of ten, unless it is too large.
After three steps of the largest power nothing is left of such a significand. -/
def ofDecimal? (significand : Nat) (exponent : Int) : Option Nat :=
  let units := nearest significand 1
  if exponent < 0 then some (shrink units exponent.natAbs 4)
  else if significand = 0 then some 0
  else if largestPower < exponent.natAbs then none
  else
    let scaled := product units (powerOfTen exponent.natAbs)
    if scaled < limit then some scaled else none

end NbdAttach.Double
