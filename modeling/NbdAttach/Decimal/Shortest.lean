import NbdAttach.Decimal.Double

/-!
# Shortest decimals

The text of a double is the shortest decimal that reads back as the same double. A decimal reads
back so when it lies no farther away than half way to a neighbour, and half way itself counts for
doubles whose significand is even.

* `Double.shortest` looks for the coarsest decimal grid that has such a point, and takes the point
  of it that is nearest.
* `Double.text` lays the digits out: with a point from 10⁻⁵ to below 10¹⁶, and with an exponent
  outside of these.
-/

namespace NbdAttach.Double

/-- The point of the grid of multiples of `10 ^ k` that reads back as a double, as the multiple. Of
two the nearer one is taken, and the even one when both are as near. -/
def onGrid? (units : Nat) (k : Int) : Option Nat :=
  let scale := Nat.pow 10 (-k).toNat
  let mesh := Nat.pow 10 k.toNat * one
  let step := spacing units
  let stepDown := if units = 1 <<< units.log2 ∧ 1 < step then step / 2 else step
  let reaches (distance step : Nat) : Bool :=
    if units / step % 2 = 0 then 2 * distance ≤ step * scale else 2 * distance < step * scale
  let below := units * scale / mesh
  let down := units * scale - below * mesh
  let up := (below + 1) * mesh - units * scale
  match decide (0 < below) && reaches down stepDown, reaches up step with
  | true, true =>
    some (if down < up ∨ (down = up ∧ below % 2 = 0) then below else below + 1)
  | true, false => some below
  | false, true => some (below + 1)
  | false, false => none

/-- The power of ten of the finest grid that is ever needed. -/
def finestGrid : Int := -324

/-- The shortest decimal for a double other than zero, on one of the `grids` finest grids: its
digits as a number, and the power of ten that they are multiplied by. -/
def shortestOf (units : Nat) : (grids : Nat) → Nat × Int
  | 0 => (0, 0)
  | grids + 1 =>
    match onGrid? units (finestGrid + grids) with
    | some digits => (digits, finestGrid + grids)
    | none => shortestOf units grids

def shortest (units : Nat) : Nat × Int :=
  shortestOf units 633

/-! ### Layout -/

/-- The most digits in front of a point, and the most zeros behind one. -/
def mostBefore : Int := 16
def mostZeros : Int := 4

/-- An exponent, with its sign. -/
def exponent (e : Int) : List Char :=
  (if 0 < e then ['+'] else []) ++ (toString e).toList

/-- Digits times a power of ten, as they are written. -/
def layOut (digits : List Char) (k : Int) : List Char :=
  let point := digits.length + k
  let zeros (n : Int) : List Char := List.replicate n.toNat '0'
  if 0 ≤ k ∧ point ≤ mostBefore then digits ++ zeros k ++ ['.', '0']
  else if 0 < point ∧ point ≤ mostBefore then
    digits.take point.toNat ++ ['.'] ++ digits.drop point.toNat
  else if -mostZeros ≤ point ∧ point ≤ 0 then ['0', '.'] ++ zeros (-point) ++ digits
  else
    let fraction := match digits.drop 1 with
      | [] => []
      | rest => '.' :: rest
    digits.take 1 ++ fraction ++ 'e' :: exponent (point - 1)

/-- The text of a double. -/
def text (units : Nat) : String :=
  if units = 0 then "0.0"
  else
    let (digits, k) := shortest units
    String.ofList (layOut (toString digits).toList k)

end NbdAttach.Double
