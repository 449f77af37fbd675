import Decisioning.Number.Binary64

/-!
# Shortest Decimals

The shortest decimal that reads back as a given magnitude.

The reals that round to a magnitude form an interval around it, which contains
its ends exactly when the significand is even. For one digit, two digits and so
on, the two points of the decimal grid next to the value are tested; the first
grid with a point inside gives the answer. If any point of a grid lies in the
interval then so does one of the value's two neighbours, so no shorter decimal
is overlooked. Of two neighbours inside, the nearer one is taken, and the even
one of two equally near.

## Main definitions

* `Decimal`: Significant digits and the exponent of the first of them.
* `roundingInterval`: The reals that round to a magnitude.
* `Decimal.shortest`: The shortest decimal in that interval.
-/

namespace Decisioning

/-- The decimal `d.ddd * 10 ^ exponent` with the digits of `digits`. -/
structure Decimal where
  /-- The significant digits, as one number. -/
  digits : Nat
  /-- The decimal exponent of the first digit. -/
  exponent : Int
deriving DecidableEq, Repr

namespace Binary64

/-- The interval of reals that round to a magnitude, in quarters of the least
    subnormal: lower end, value, upper end. Below a power of two the numbers lie
    twice as close, so the lower half of its interval is half as wide. -/
def roundingInterval (place : Nat) : Nat × Nat × Nat :=
  let step := powTwo (shift place)
  let value := 4 * units place
  let below := if mantissa place = powTwo 52 ∧ 0 < shift place then step else 2 * step
  (value - below, value, value + 2 * step)

/-- A number of decimal places that leaves no finite magnitude below one. -/
def decimalPlaces : Nat := 400

/-- The exponent of the first significant digit of a positive magnitude. -/
def firstExponent (place : Nat) : Int :=
  let scaled := units place * powTen decimalPlaces / powTwo 1074
  ((Nat.toDigits 10 scaled).length : Int) - 1 - decimalPlaces

end Binary64

namespace Decimal

open Binary64

/-- The point of the grid with the given number of digits that reads back as
    the magnitude and is nearest to it, if there is one. -/
def onGrid? (place : Nat) (first : Int) (count : Nat) : Option Decimal :=
  let (low, value, high) := roundingInterval place
  let grid := first - count + 1
  -- A point `c` of the grid is compared as `c * unit` with an end times `up`.
  let unit := powTwo 1076 * powTen grid.toNat
  let up := powTen (-grid).toNat
  let inside (c : Nat) : Bool :=
    if mantissa place % 2 = 0 then low * up ≤ c * unit && c * unit ≤ high * up
    else low * up < c * unit && c * unit < high * up
  let c := value * up / unit
  let upper := decide (roundDiv (value * up) unit = c + 1)
  let chosen? : Option Nat :=
    match inside c, inside (c + 1) with
    | true, true => some (if upper then c + 1 else c)
    | true, false => some c
    | false, true => some (c + 1)
    | false, false => none
  -- Rounding up may carry into a digit more.
  chosen?.map fun d => if d = powTen count then ⟨1, first + 1⟩ else ⟨d, first⟩

/-- Seventeen digits tell all magnitudes apart. -/
def maxDigits : Nat := 17

/-- The shortest decimal that reads back as a magnitude. -/
def shortest (place : Nat) : Decimal :=
  if place = 0 then ⟨0, 0⟩
  else
    let first := firstExponent place
    ((List.range maxDigits).findSome? fun n => onGrid? place first (n + 1)).getD ⟨0, 0⟩

end Decimal

end Decisioning
