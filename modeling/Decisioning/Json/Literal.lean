import Decisioning.Json.Value
import Decisioning.Number.Shortest

/-!
# Number Literals

How JSON numbers are read and written.

A literal without fraction and exponent is an integer if it fits in 64 bits,
with or without a sign. Every other literal is a float, among them negative
zero and the integers beyond 64 bits. The significand of a float takes in
digits for as long as it fits in 64 bits and drops the rest; see
`Binary64.ofDecimal?` for the two roundings that follow. A literal beyond the
largest float has no value.

Floats are written with the shortest digits that read back. Positional
notation, with at least one digit after the point, is kept for decimal
exponents from -5 to 15.

## Main definitions

* `Literal`: The parts of a number literal.
* `Literal.ofChars?`: The grammar of literals.
* `Literal.number?`: The number that a literal denotes.
* `Number.chars`: The written form of a number.
-/

namespace Decisioning

/-- The value of a decimal digit. -/
def digit? (c : Char) : Option Nat :=
  if '0' ≤ c ∧ c ≤ '9' then some (c.toNat - '0'.toNat) else none

/-- The digits at the start of a text, and the rest of it. -/
def spanDigits : List Char → List Nat × List Char
  | [] => ([], [])
  | c :: rest =>
      match digit? c with
      | some d =>
          let (ds, rest') := spanDigits rest
          (d :: ds, rest')
      | none => ([], c :: rest)

/-- The number with the given decimal digits. -/
def ofDigits (digits : List Nat) : Nat :=
  digits.foldl (fun n d => n * 10 + d) 0

/-- The parts of a number literal. -/
structure Literal where
  negative : Bool
  /-- The digits before the point. -/
  whole : List Nat
  /-- The digits after the point, if there is one. -/
  fraction : Option (List Nat)
  /-- The sign and the digits of the exponent, if there is one. -/
  exponent : Option (Bool × List Nat)
deriving DecidableEq, Repr

namespace Literal

/-- A point and the digits after it. -/
def fraction? : List Char → Option (Option (List Nat) × List Char)
  | '.' :: rest =>
      match spanDigits rest with
      | ([], _) => none
      | (ds, rest') => some (some ds, rest')
  | cs => some (none, cs)

/-- The digits of an exponent, to the end of the literal. -/
def exponentDigits? (negative : Bool) (cs : List Char) : Option (Option (Bool × List Nat)) :=
  match spanDigits cs with
  | ([], _) => none
  | (ds, []) => some (some (negative, ds))
  | (_, _ :: _) => none

/-- An exponent, to the end of the literal. -/
def exponent? : List Char → Option (Option (Bool × List Nat))
  | [] => some none
  | c :: rest =>
      if c = 'e' ∨ c = 'E' then
        match rest with
        | '+' :: ds => exponentDigits? false ds
        | '-' :: ds => exponentDigits? true ds
        | ds => exponentDigits? false ds
      else
        none

/-- The digits before the point: a single zero, or no zero in front. -/
def whole? (cs : List Char) : Option (List Nat × List Char) :=
  match spanDigits cs with
  | ([], _) => none
  | (0 :: _ :: _, _) => none
  | parts => some parts

/-- Read a complete text as a number literal. -/
def ofChars? (cs : List Char) : Option Literal := do
  let (negative, unsigned) : Bool × List Char :=
    match cs with
    | '-' :: rest => (true, rest)
    | _ => (false, cs)
  let (whole, afterWhole) ← whole? unsigned
  let (fraction, afterFraction) ← fraction? afterWhole
  let exponent ← exponent? afterFraction
  return { negative, whole, fraction, exponent }

/-- The largest significand that is kept exactly: the largest integer of 64
    bits. -/
def maxSignificand : Nat := 18446744073709551615

/-- Append digits to a significand for as long as it stays within 64 bits;
    answers the significand and how many digits were left over. -/
def extend (significand : Nat) : List Nat → Nat × Nat
  | [] => (significand, 0)
  | d :: ds =>
      if significand * 10 + d ≤ maxSignificand then extend (significand * 10 + d) ds
      else (significand, ds.length + 1)

/-- The significand and the decimal exponent of a literal. -/
def scaled (l : Literal) : Nat × Int :=
  let (whole, dropped) := extend 0 l.whole
  let fraction := l.fraction.getD []
  let (significand, unused) := extend whole fraction
  let written : Int :=
    match l.exponent with
    | none => 0
    | some (true, ds) => -(ofDigits ds : Int)
    | some (false, ds) => ofDigits ds
  (significand, dropped - (fraction.length - unused : Nat) + written)

/-- The number that a literal denotes; `none` for one that is too large. -/
def number? (l : Literal) : Option Number :=
  let n := ofDigits l.whole
  let isInteger := l.fraction.isNone && l.exponent.isNone
  if isInteger && !l.negative && n ≤ maxSignificand then
    some (.int n)
  else if isInteger && l.negative && 0 < n && n ≤ minInt64.natAbs then
    some (.int (-n))
  else
    let (significand, exponent) := l.scaled
    (Binary64.ofDecimal? l.negative significand exponent).map .float

end Literal

namespace Decimal

/-- The greatest exponent of positional notation. -/
def maxPositional : Int := 15

/-- The least exponent of positional notation. -/
def minPositional : Int := -5

/-- The written form of a decimal. -/
def chars (d : Decimal) : List Char :=
  let digits := Nat.toDigits 10 d.digits
  if d.exponent < minPositional ∨ maxPositional < d.exponent then
    let fraction := if digits.length = 1 then [] else '.' :: digits.drop 1
    let sign := if d.exponent < 0 then '-' else '+'
    digits.take 1 ++ fraction ++ 'e' :: sign :: Nat.toDigits 10 d.exponent.natAbs
  else if d.exponent < 0 then
    '0' :: '.' :: List.replicate (d.exponent.natAbs - 1) '0' ++ digits
  else
    let places := d.exponent.toNat + 1
    let whole := digits.take places ++ List.replicate (places - digits.length) '0'
    let fraction := digits.drop places
    whole ++ '.' :: (if fraction.isEmpty then ['0'] else fraction)

end Decimal

namespace Number

/-- The written form of an integer. -/
def intChars : Int → List Char
  | .ofNat n => Nat.toDigits 10 n
  | .negSucc n => '-' :: Nat.toDigits 10 (n + 1)

/-- The written form of a number. -/
def chars : Number → List Char
  | .int n => intChars n
  | .float x =>
      let digits := (Decimal.shortest x.place).chars
      if x.negative then '-' :: digits else digits

end Number

end Decisioning
