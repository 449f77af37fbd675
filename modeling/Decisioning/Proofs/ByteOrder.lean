import Mathlib.Tactic.SplitIfs

/-!
# The Order of Bytes

Texts compare by their characters as they do by their bytes.

Sorted maps keep their keys in the order of characters, while everything outside
this library that sorts texts compares the bytes of their UTF-8 form. The two are
the same order because the form was made for it: the first byte of a character
tells how many follow and grows with that number, and the bytes of one character
are its digits to the base 64, the most significant first. So the first character
in which two texts differ decides in both orders, and in the same direction.

## Main definitions

* `utf8Bytes`: The bytes of a text.

## Theorems

* `utf8EncodeChar_append_lt`: A smaller character has smaller bytes, whatever
  comes after it.
* `flatMap_utf8EncodeChar_lt`: The same for lists of characters.
* `utf8Bytes_lt_iff`: The two orders are the same.
-/

namespace Decisioning

/-- The bytes of a text in UTF-8. -/
def utf8Bytes (text : String) : List UInt8 := text.toUTF8.data.toList

theorem toNat_byte {n : Nat} (h : n < 256) : (UInt8.ofNat n).toNat = n :=
  UInt8.toNat_ofNat_of_lt' h

/-- The first byte that differs is the greater one of the greater character. -/
theorem utf8EncodeChar_append_lt {c d : Char} (h : c < d) (xs ys : List UInt8) :
    String.utf8EncodeChar c ++ xs < String.utf8EncodeChar d ++ ys := by
  have hlt : c.val.toNat < d.val.toNat := h
  have hbound : d.val.toNat < 0x110000 := by
    rcases d.valid with hlow | hhigh
    · exact Nat.lt_trans hlow (by decide)
    · exact hhigh.2
  -- The higher digits are written as repeated quotients by 64, which is how the lower
  -- ones enter the comparison.
  have hthree : ∀ v : Nat, v / 4096 = v / 64 / 64 := fun v => by omega
  have hfour : ∀ v : Nat, v / 262144 = v / 64 / 64 / 64 := fun v => by omega
  simp only [String.utf8EncodeChar, hthree, hfour]
  -- One case for each pair of lengths.
  split_ifs
  all_goals
    simp (disch := omega) only [List.cons_append, List.nil_append, List.cons_lt_cons_iff,
      UInt8.lt_iff_toNat_lt, ← UInt8.toNat_inj, toNat_byte]
    omega

theorem flatMap_utf8EncodeChar_lt {cs ds : List Char} (h : cs < ds) :
    cs.flatMap String.utf8EncodeChar < ds.flatMap String.utf8EncodeChar := by
  induction h with
  | @nil d ds =>
      rcases List.exists_cons_of_ne_nil (String.utf8EncodeChar_ne_nil (c := d)) with ⟨b, bs, hb⟩
      rw [List.flatMap_nil, List.flatMap_cons, hb, List.cons_append]
      exact List.nil_lt_cons _ _
  | cons _ ih =>
      rw [List.flatMap_cons, List.flatMap_cons]
      exact List.append_left_lt ih
  | rel hlt =>
      rw [List.flatMap_cons, List.flatMap_cons]
      exact utf8EncodeChar_append_lt hlt _ _

theorem utf8Bytes_eq_flatMap (text : String) :
    utf8Bytes text = text.toList.flatMap String.utf8EncodeChar := by
  rw [utf8Bytes, String.toUTF8_eq_toByteArray, ← String.ofList_toList (s := text),
    String.toByteArray_ofList, List.utf8Encode, List.data_toByteArray, List.toList_toArray,
    String.toList_ofList]

/-- The bytes of texts are in the order of the texts. -/
theorem utf8Bytes_lt_iff (text other : String) :
    utf8Bytes text < utf8Bytes other ↔ text < other := by
  rw [utf8Bytes_eq_flatMap, utf8Bytes_eq_flatMap, String.lt_iff]
  constructor
  · intro h
    rcases Std.lt_trichotomy text.toList other.toList with hlt | heq | hgt
    · exact hlt
    · rw [heq] at h
      exact absurd h (List.lt_irrefl _)
    · exact absurd h (List.lt_asymm (flatMap_utf8EncodeChar_lt hgt))
  · exact flatMap_utf8EncodeChar_lt

end Decisioning
