import Decisioning.Text.Combining
import Decisioning.Text.Unassigned

/-!
# Invisible Characters

The characters that cannot be told from the text around them when they are
shown: controls, blanks other than the space, format characters, letters
without a shape, private characters, combining characters, and code points that
are no characters at all.

## Main definitions

* `isWithin`: Membership in ranges.
* `isInvisible`: The characters that a reader would not see.
-/

namespace Decisioning

/-- Whether a number lies in one of some ranges, which stand in order. -/
def isWithin (n : Nat) : List (Nat × Nat) → Bool
  | [] => false
  | (low, high) :: rest => decide (low ≤ n) && (decide (n ≤ high) || isWithin n rest)

/-- The controls (general category Cc). -/
def controlRanges : List (Nat × Nat) :=
  [(0x0, 0x1F), (0x7F, 0x9F)]

/-- The spaces and separators other than the space itself (general categories
    Zs, Zl and Zp). -/
def separatorRanges : List (Nat × Nat) :=
  [(0xA0, 0xA0), (0x1680, 0x1680), (0x2000, 0x200A), (0x2028, 0x2029), (0x202F, 0x202F),
   (0x205F, 0x205F), (0x3000, 0x3000)]

/-- The format characters (general category Cf). -/
def formatRanges : List (Nat × Nat) :=
  [(0xAD, 0xAD), (0x600, 0x605), (0x61C, 0x61C), (0x6DD, 0x6DD), (0x70F, 0x70F), (0x890, 0x891),
   (0x8E2, 0x8E2), (0x180E, 0x180E), (0x200B, 0x200F), (0x202A, 0x202E), (0x2060, 0x2064),
   (0x2066, 0x206F), (0xFEFF, 0xFEFF), (0xFFF9, 0xFFFB), (0x110BD, 0x110BD), (0x110CD, 0x110CD),
   (0x13430, 0x1343F), (0x1BCA0, 0x1BCA3), (0x1D173, 0x1D17A), (0xE0001, 0xE0001),
   (0xE0020, 0xE007F)]

/-- The letters that have no shape and only fill a place in a syllable. -/
def fillerRanges : List (Nat × Nat) :=
  [(0x115F, 0x1160), (0x3164, 0x3164), (0xFFA0, 0xFFA0)]

/-- The characters whose meaning is a private agreement (general category
    Co). -/
def privateRanges : List (Nat × Nat) :=
  [(0xE000, 0xF8FF), (0xF0000, 0xFFFFD), (0x100000, 0x10FFFD)]

/-- Whether a character would not be seen, or not as a character of its own. -/
def isInvisible (c : Char) : Bool :=
  [controlRanges, separatorRanges, formatRanges, fillerRanges, privateRanges, combiningRanges,
    unassignedRanges].any (isWithin c.toNat)

end Decisioning
