import Decisioning.Json.Token

/-!
# Integer Literals

Why an integer is read back from its digits.

An integer is written in decimal without a leading zero, and with a sign if it is
negative. That is the form of a literal without fraction and exponent, and such a
literal is an integer again as long as it fits in 64 bits, signed for a negative
one and unsigned for the others. Beyond that it would come back as a float.

## Main definitions

* `digitsOf`: The decimal digits of a number, the most significant first.
* `Number.IsWord`: An integer that fits in 64 bits.

## Theorems

* `spanDigits_toDigits`: The digits of a number are taken as a whole.
* `ofDigits_digitsOf`: The number with these digits.
* `Literal.ofChars?_intChars`: The parts of the literal of an integer.
* `Token.ofNumeral?_chars`: An integer that fits in 64 bits is read back.
* `Token.startsNumber_of_mem_intChars`: The characters of its literal.
-/

namespace Decisioning

/-- The decimal digits of a number, the most significant first. -/
def digitsOf (n : Nat) : List Nat := (Nat.toDigits 10 n).map fun c => c.toNat - '0'.toNat

theorem digit?_of_isDigit {c : Char} (h : c.isDigit = true) :
    digit? c = some (c.toNat - '0'.toNat) := by
  rw [Char.isDigit, Bool.and_eq_true, decide_eq_true_eq, decide_eq_true_eq] at h
  exact if_pos h

/-- A text of digits is taken as a whole. -/
theorem spanDigits_of_isDigit {cs : List Char} (h : ∀ c ∈ cs, c.isDigit = true) :
    spanDigits cs = (cs.map fun c => c.toNat - '0'.toNat, []) := by
  induction cs with
  | nil => rfl
  | cons c rest ih =>
      rw [spanDigits, digit?_of_isDigit (h c List.mem_cons_self),
        ih fun d hd => h d (List.mem_cons_of_mem _ hd)]
      rfl

theorem isDigit_of_mem_toDigits {n : Nat} {c : Char} (h : c ∈ Nat.toDigits 10 n) :
    c.isDigit = true :=
  Nat.isDigit_of_mem_toDigits (by decide) (by decide) h

theorem spanDigits_toDigits (n : Nat) : spanDigits (Nat.toDigits 10 n) = (digitsOf n, []) :=
  spanDigits_of_isDigit fun _ hc => isDigit_of_mem_toDigits hc

theorem ofDigits_digitsOf (n : Nat) : ofDigits (digitsOf n) = n := by
  rw [ofDigits, digitsOf, List.foldl_map]
  have hten : Nat.ofDigitChars 10 (Nat.toDigits 10 n) 0 = n := Nat.ofDigitChars_ten_toDigits
  rw [Nat.ofDigitChars_eq_foldl] at hten
  simpa only [Nat.mul_comm] using hten

theorem digitsOf_ne_nil (n : Nat) : digitsOf n ≠ [] := by
  rw [digitsOf, ne_eq, List.map_eq_nil_iff]
  exact Nat.toDigits_ne_nil

/-- Only zero starts with a zero. -/
theorem digitsOf_head (n : Nat) (hn : 0 < n) (rest : List Nat) : digitsOf n ≠ 0 :: rest := by
  induction n using Nat.strongRecOn generalizing rest with
  | ind n ih =>
      by_cases hsmall : n < 10
      · rw [digitsOf, Nat.toDigits_of_lt_base hsmall, List.map_singleton]
        intro h
        have hzero : n.digitChar.toNat - '0'.toNat = 0 := (List.cons.inj h).1
        rw [show '0'.toNat = 48 from rfl, Nat.toNat_digitChar_sub_48_of_lt_ten hsmall] at hzero
        omega
      · -- The first digit is that of the number without its last digit.
        rw [digitsOf, Nat.toDigits_of_base_le (by decide) (by omega), List.map_append]
        intro h
        rcases List.append_eq_cons_iff.mp h with ⟨hnil, _⟩ | ⟨tail, hhead, _⟩
        · exact digitsOf_ne_nil (n / 10) hnil
        · exact ih (n / 10) (by omega) (by omega) tail hhead

namespace Literal

theorem whole?_toDigits (n : Nat) : whole? (Nat.toDigits 10 n) = some (digitsOf n, []) := by
  rw [whole?, spanDigits_toDigits]
  cases hdigits : digitsOf n with
  | nil => exact absurd hdigits (digitsOf_ne_nil n)
  | cons d rest =>
      cases d with
      | succ d => rfl
      | zero =>
          cases rest with
          | nil => rfl
          | cons e rest =>
              -- A zero in front of another digit would be a leading one.
              by_cases hn : 0 < n
              · exact absurd hdigits (digitsOf_head n hn (e :: rest))
              · have hzero : n = 0 := by omega
                rw [hzero] at hdigits
                exact absurd (List.cons.inj hdigits).2 (List.cons_ne_nil e rest).symm

/-- The literal of an integer has a sign and digits, and nothing else. -/
theorem ofChars?_intChars (n : Int) :
    ofChars? (Number.intChars n)
      = some { negative := decide (n < 0), whole := digitsOf n.natAbs, fraction := none,
               exponent := none } := by
  cases n with
  | ofNat n =>
      have hsign : ∀ rest, Nat.toDigits 10 n ≠ '-' :: rest := by
        intro rest h
        have hdigit := isDigit_of_mem_toDigits (h ▸ List.mem_cons_self : '-' ∈ Nat.toDigits 10 n)
        exact absurd hdigit (by decide)
      unfold Number.intChars ofChars?
      dsimp only
      split
      · rename_i rest heq
        exact absurd heq (hsign rest)
      · rw [whole?_toDigits]
        rfl
  | negSucc n =>
      unfold Number.intChars ofChars?
      dsimp only
      split
      · rename_i rest heq
        cases heq
        rw [whole?_toDigits, decide_eq_true (Int.negSucc_lt_zero n)]
        rfl
      · rename_i hsign
        exact absurd rfl (hsign _)

end Literal

/-- An integer that fits in 64 bits: signed if it is negative, else unsigned. -/
def Number.IsWord : Number → Prop
  | .int n => minInt64 ≤ n ∧ n ≤ Literal.maxSignificand
  | .float _ => False

instance : (n : Number) → Decidable n.IsWord
  | .int n => inferInstanceAs (Decidable (minInt64 ≤ n ∧ n ≤ Literal.maxSignificand))
  | .float _ => inferInstanceAs (Decidable False)

theorem Token.ofNumeral?_chars {n : Number} (h : n.IsWord) :
    ofNumeral? n.chars = some (.number (some n)) := by
  cases n with
  | float x => exact absurd h id
  | int n =>
      rw [ofNumeral?, Number.chars, Literal.ofChars?_intChars, Option.map_some]
      -- Without fraction and exponent, only the size decides whether it is an integer.
      have hnumber : Literal.number? ⟨decide (n < 0), digitsOf n.natAbs, none, none⟩
          = some (.int n) := by
        obtain ⟨hlow, hhigh⟩ := h
        rw [minInt64] at hlow
        unfold Literal.number?
        dsimp only
        rw [ofDigits_digitsOf]
        simp only [Option.isNone_none, Bool.and_self, Bool.true_and]
        by_cases hneg : n < 0
        · -- A negative integer is not zero, and at most as far from it as the least one.
          have hfits : 0 < n.natAbs ∧ n.natAbs ≤ minInt64.natAbs := by
            have : minInt64.natAbs = 9223372036854775808 := rfl
            omega
          simp only [hneg, hfits, decide_true, Bool.not_true, Bool.false_and, Bool.false_eq_true,
            Bool.and_self, ↓reduceIte]
          congr 2
          omega
        · have hfits : n.natAbs ≤ Literal.maxSignificand := by
            omega
          simp only [hneg, hfits, decide_true, decide_false, Bool.not_false, Bool.and_self,
            ↓reduceIte]
          congr 2
          omega
      rw [hnumber]

end Decisioning
