import Decisioning.Json.Token
import Decisioning.Toml

/-!
# TOML Scalars

The literals that are written without quotes: truth values, integers, floats,
dates and times.

A literal is read as a whole. An integer has a sign and decimal digits without
leading zeros, or a base prefix and no sign; it must fit in 64 bits with a sign.
A float must not be so large that it rounds to positive infinity. Underscores
may stand between digits. A date must exist in the Gregorian calendar; a minute
may have a leap second.

## Main definitions

* `Toml.digits?`: Digits with underscores between them.
* `Toml.integer?`, `Toml.isFloat`: The number literals.
* `Toml.isDateTime`: The literals of dates and times.
* `Toml.ofLiteral?`: The value of a literal.
-/

namespace Decisioning

namespace Toml

/-- The digits of a run of digits, between which single underscores may stand. -/
def digits? (isDigit : Char → Bool) : List Char → Option (List Char)
  | [] => none
  | [c] => if isDigit c then some [c] else none
  | c :: '_' :: rest => if isDigit c then (digits? isDigit rest).map (c :: ·) else none
  | c :: rest => if isDigit c then (digits? isDigit rest).map (c :: ·) else none

/-- Decimal digits, possibly with zeros in front. -/
def decimals? (cs : List Char) : Option (List Nat) :=
  (digits? Char.isDigit cs).bind fun ds => ds.mapM digit?

/-- Decimal digits without a zero in front of others. -/
def wholePart? (cs : List Char) : Option (List Nat) :=
  match decimals? cs with
  | some (0 :: _ :: _) => none
  | ds => ds

/-- A sign, if there is one, and the rest of a literal. -/
def splitSign : List Char → Bool × List Char
  | '-' :: rest => (true, rest)
  | '+' :: rest => (false, rest)
  | cs => (false, cs)

/-- The bases other than ten, by the letter of their prefix. -/
def baseOf? : Char → Option Nat
  | 'x' => some 16
  | 'o' => some 8
  | 'b' => some 2
  | _ => none

/-- The value of a digit in a base. -/
def digitIn? (base : Nat) (c : Char) : Option Nat :=
  (Token.hexDigit? c).filter fun d => decide (d < base)

/-- An integer that fits in 64 bits with a sign. -/
def integerOf? (n : Int) : Option Int := if Json.fitsInt64 n then some n else none

/-- The integer of a literal. -/
def integer? : List Char → Option Int
  | '0' :: letter :: rest => do
      let base ← baseOf? letter
      let ds ← (← digits? (fun c => (digitIn? base c).isSome) rest).mapM (digitIn? base)
      integerOf? (ds.foldl (fun n d => n * base + d) 0 : Nat)
  | cs => do
      let (negative, unsigned) := splitSign cs
      let n : Int := ofDigits (← wholePart? unsigned)
      integerOf? (if negative then -n else n)

/-- The most digits that a finite number has before the point. -/
def maxWholeDigits : Nat := 309

/-- Whether `digits * 10 ^ exponent` rounds to a finite number. -/
def isFinite (digits : Nat) (exponent : Int) : Bool :=
  let places : Int := (Nat.toDigits 10 digits).length + exponent
  if digits = 0 ∨ places ≤ 0 then true
  else if (maxWholeDigits : Int) < places then false
  else
    match exponent with
    | .ofNat e => (Binary64.nearest? (digits * powTen e) 1).isSome
    | .negSucc e => (Binary64.nearest? digits (powTen (e + 1))).isSome

/-- The exponent of a float, from its letter on; there need not be one. -/
def exponent? : List Char → Option Int
  | [] => some 0
  | _ :: cs => do
      let (negative, unsigned) := splitSign cs
      let n : Int := ofDigits (← decimals? unsigned)
      return if negative then -n else n

/-- The digits after the point of a float, from the point on; there need not be
    any. -/
def fractionPart? : List Char → Option (List Nat)
  | [] => some []
  | _ :: cs => decimals? cs

/-- Whether a literal is a float that is not too large. -/
def isFloat (cs : List Char) : Bool :=
  let (negative, unsigned) := splitSign cs
  if unsigned = ['i', 'n', 'f'] ∨ unsigned = ['n', 'a', 'n'] then true
  else
    let (significand, power) := unsigned.span fun c => c ≠ 'e' && c ≠ 'E'
    let (whole, fraction) := significand.span (· ≠ '.')
    match wholePart? whole, fractionPart? fraction, exponent? power with
    | some w, some f, some e =>
        (!fraction.isEmpty || !power.isEmpty)
          && (negative || isFinite (ofDigits (w ++ f)) (e - f.length))
    | _, _, _ => false

/-- The number that exactly these decimal digits write. -/
def number? (cs : List Char) : Option Nat := (cs.mapM digit?).map ofDigits

/-- Whether two digits write a number between two bounds. -/
def isBetween (low high : Nat) (a b : Char) : Bool :=
  match number? [a, b] with
  | some n => decide (low ≤ n ∧ n ≤ high)
  | none => false

/-- Whether a year has a leap day. -/
def isLeapYear (year : Nat) : Bool := year % 4 = 0 && (year % 100 ≠ 0 || year % 400 = 0)

/-- The number of days of a month. -/
def daysOf (year month : Nat) : Nat :=
  if month = 2 then (if isLeapYear year then 29 else 28)
  else if month = 4 ∨ month = 6 ∨ month = 9 ∨ month = 11 then 30
  else 31

/-- Whether these are the digits of a date of the calendar. -/
def isDate (year month day : List Char) : Bool :=
  match number? year, number? month, number? day with
  | some y, some m, some d => decide (1 ≤ m ∧ m ≤ 12 ∧ 1 ≤ d ∧ d ≤ daysOf y m)
  | _, _, _ => false

/-- Whether a text is an offset from universal time, or empty. -/
def isOffset : List Char → Bool
  | [] | ['Z'] | ['z'] => true
  | [sign, h, h', ':', m, m'] =>
      (sign = '+' || sign = '-') && isBetween 0 23 h h' && isBetween 0 59 m m'
  | _ => false

/-- What follows the fraction of a second, if there is one; `none` for a point
    without digits. -/
def afterFraction? : List Char → Option (List Char)
  | '.' :: rest =>
      match spanDigits rest with
      | ([], _) => none
      | (_, rest') => some rest'
  | cs => some cs

/-- What follows a time of day; `none` if there is no time. -/
def afterTime? : List Char → Option (List Char)
  | h :: h' :: ':' :: m :: m' :: ':' :: s :: s' :: rest =>
      if isBetween 0 23 h h' && isBetween 0 59 m m' && isBetween 0 60 s s' then
        afterFraction? rest
      else none
  | _ => none

/-- Whether a literal is a date, a time, or both, the latter possibly with an
    offset. -/
def isDateTime : List Char → Bool
  | [y, y', y'', y''', '-', m, m', '-', d, d'] => isDate [y, y', y'', y'''] [m, m'] [d, d']
  | y :: y' :: y'' :: y''' :: '-' :: m :: m' :: '-' :: d :: d' :: delimiter :: time =>
      isDate [y, y', y'', y'''] [m, m'] [d, d']
        && (delimiter = 'T' || delimiter = 't' || delimiter = ' ')
        && (afterTime? time).any isOffset
  | cs => (afterTime? cs).any List.isEmpty

/-- The value of a literal. -/
def ofLiteral? (literal : String) : Option Toml :=
  let cs := literal.toList
  if literal = "true" then some (.boolean true)
  else if literal = "false" then some (.boolean false)
  else if isDateTime cs then some (.dateTime literal)
  else if isFloat cs then some (.float literal)
  else (integer? cs).map .integer

end Toml

end Decisioning
