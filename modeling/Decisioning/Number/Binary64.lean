/-!
# Finite Binary Floating-Point Numbers

The finite numbers of the 64-bit binary format, and how a decimal is turned
into one.

A magnitude is kept as its place among the finite magnitudes: number 0 is
zero, number 1 the least subnormal, and so on up to the last finite one. That
place is also the bit pattern without its sign, so `mantissa` and `shift` read
it as `mantissa * 2 ^ shift` in units of the least subnormal, and rounding can
step from one binade into the next by plain addition.

Everything here is exact arithmetic on natural numbers. A quotient is rounded
once, to the nearest number and to the even one of two; `ofDecimal?` rounds the
significand first and the scaled value afterwards, which is one rounding more
than a correctly rounded conversion and may differ from it in the last bit.

## Main definitions

* `roundDiv`: A quotient rounded to the nearest integer, ties to even.
* `Binary64`: A sign and the place of a magnitude.
* `Binary64.nearest?`: The magnitude nearest to a quotient.
* `Binary64.ofDecimal?`: A significand scaled by a power of ten.
* `Binary64.toInt?`: The integer a number is, if it is one.
-/

namespace Decisioning

/-- A power of two. -/
def powTwo (n : Nat) : Nat := Nat.pow 2 n

/-- A power of ten. -/
def powTen (n : Nat) : Nat := Nat.pow 10 n

/-- The integer nearest to `num / den`, the even one of two equally near. -/
def roundDiv (num den : Nat) : Nat :=
  let q := num / den
  let r := num % den
  if 2 * r < den then q
  else if den < 2 * r then q + 1
  else q + q % 2

/-- A finite number of the 64-bit binary format. -/
structure Binary64 where
  /-- Whether the sign bit is set; zero has both signs. -/
  negative : Bool
  /-- The place of the magnitude among all finite magnitudes. -/
  place : Nat
deriving DecidableEq, Repr, Inhabited

namespace Binary64

/-- The first place that is no longer finite. -/
def firstInfinite : Nat := 2047 * powTwo 52

/-- The integer significand of a magnitude. -/
def mantissa (place : Nat) : Nat :=
  if place < powTwo 52 then place else powTwo 52 + place % powTwo 52

/-- The exponent of a magnitude over that of the least subnormal. -/
def shift (place : Nat) : Nat := place / powTwo 52 - 1

/-- A magnitude in units of the least subnormal, `2 ^ -1074`. -/
def units (place : Nat) : Nat := mantissa place * powTwo (shift place)

/-- The place of the magnitude nearest to `num / den`; `none` when that is
    beyond the largest finite one. -/
def nearest? (num den : Nat) : Option Nat :=
  let scaled := num * powTwo 1074
  let s := Nat.log2 (scaled / den) - 52
  let place := s * powTwo 52 + roundDiv scaled (den * powTwo s)
  if place < firstInfinite then some place else none

/-- The product of two magnitudes, rounded. -/
def mul? (a b : Nat) : Option Nat :=
  nearest? (units a * units b) (powTwo 2148)

/-- The quotient of two magnitudes, rounded. -/
def div? (a b : Nat) : Option Nat :=
  nearest? (units a) (units b)

/-- The greatest power of ten that is a finite number. -/
def maxTenPower : Nat := 308

/-- The magnitude nearest to a power of ten. -/
def tenPower? (exponent : Nat) : Option Nat :=
  nearest? (powTen exponent) 1

/-- Divide by the greatest power of ten, `count` times; zero stays zero. -/
def divideDown : (count place : Nat) → Option Nat
  | 0, place => some place
  | _ + 1, 0 => some 0
  | count + 1, place + 1 => do
      divideDown count (← div? (place + 1) (← tenPower? maxTenPower))

/-- The magnitude of `significand * 10 ^ exponent`, rounding the significand,
    then multiplying or dividing it by a power of ten and rounding again. A
    scale below the range of the powers of ten is applied in portions. -/
def scale? (significand : Nat) (exponent : Int) : Option Nat := do
  let base ← nearest? significand 1
  if base = 0 then
    return 0
  match exponent with
  | .ofNat e => if e ≤ maxTenPower then mul? base (← tenPower? e) else none
  | .negSucc e =>
      -- The exponent is `-(e + 1)`.
      let portions := e / maxTenPower
      div? (← divideDown portions base) (← tenPower? (e + 1 - portions * maxTenPower))

/-- A decimal number as a floating-point number; `none` when it is too large. -/
def ofDecimal? (negative : Bool) (significand : Nat) (exponent : Int) : Option Binary64 :=
  (scale? significand exponent).map fun place => { negative, place }

/-- The integer a number is equal to, if it has no fraction part. -/
def toInt? (x : Binary64) : Option Int :=
  let n := units x.place
  if n % powTwo 1074 = 0 then
    let whole : Int := (n / powTwo 1074 : Nat)
    some (if x.negative then -whole else whole)
  else
    none

end Binary64

end Decisioning
