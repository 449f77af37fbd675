import Decisioning.Number.Binary64
import Decisioning.SortedMap

/-!
# JSON Values

The values that payloads, rules, events and cached snapshots are made of.

A number is an integer or a floating-point number, and the two never mix: the
integer 1 and the float 1.0 are different values that print differently. An
object is a list of fields. Readers and builders keep the keys strictly
increasing, which `IsCanonical` says of a whole value, so a value has one
representation and one written form.

Payload contents are free-form, so most readers below are partial: `get?`,
`asString?` and their kin answer `none` when a value has another shape.

## Main definitions

* `Number`, `Json`: Numbers and values.
* `Json.get?`: The field of an object.
* `Json.asInt64?`, `Json.asWhole?`: The two ways in which an integer is read.
* `Json.IsCanonical`: Keys strictly increase at every level.
-/

namespace Decisioning

/-- The least integer of 64 bits with a sign. -/
def minInt64 : Int := -9223372036854775808

/-- The largest integer of 64 bits with a sign. -/
def maxInt64 : Int := 9223372036854775807

/-- A JSON number. -/
inductive Number where
  /-- An integer, written without fraction and exponent. -/
  | int (value : Int)
  /-- Any other number. -/
  | float (value : Binary64)
deriving DecidableEq, Repr, Inhabited

/-- A JSON value. -/
inductive Json where
  | null
  | bool (value : Bool)
  | num (value : Number)
  | str (value : String)
  | arr (items : List Json)
  | obj (fields : List (String × Json))
deriving Repr, Inhabited

/-- The fields of a JSON object. -/
abbrev Fields := List (String × Json)

namespace Json

mutual

/-- Equality of values is decidable. -/
protected def decEq : (a b : Json) → Decidable (a = b)
  | .null, b => match b with
    | .null => isTrue rfl
    | .bool _ | .num _ | .str _ | .arr _ | .obj _ =>
        isFalse (by simp only [reduceCtorEq, not_false_eq_true])
  | .bool x, b => match b with
    | .bool y => decidable_of_iff (x = y) (by rw [Json.bool.injEq])
    | .null | .num _ | .str _ | .arr _ | .obj _ =>
        isFalse (by simp only [reduceCtorEq, not_false_eq_true])
  | .num x, b => match b with
    | .num y => decidable_of_iff (x = y) (by rw [Json.num.injEq])
    | .null | .bool _ | .str _ | .arr _ | .obj _ =>
        isFalse (by simp only [reduceCtorEq, not_false_eq_true])
  | .str x, b => match b with
    | .str y => decidable_of_iff (x = y) (by rw [Json.str.injEq])
    | .null | .bool _ | .num _ | .arr _ | .obj _ =>
        isFalse (by simp only [reduceCtorEq, not_false_eq_true])
  | .arr xs, b => match b with
    | .arr ys => match Json.decEqItems xs ys with
      | isTrue h => isTrue (by rw [h])
      | isFalse h => isFalse (by rw [Json.arr.injEq]; exact h)
    | .null | .bool _ | .num _ | .str _ | .obj _ =>
        isFalse (by simp only [reduceCtorEq, not_false_eq_true])
  | .obj xs, b => match b with
    | .obj ys => match Json.decEqFields xs ys with
      | isTrue h => isTrue (by rw [h])
      | isFalse h => isFalse (by rw [Json.obj.injEq]; exact h)
    | .null | .bool _ | .num _ | .str _ | .arr _ =>
        isFalse (by simp only [reduceCtorEq, not_false_eq_true])

/-- Equality of lists of values is decidable. -/
protected def decEqItems : (xs ys : List Json) → Decidable (xs = ys)
  | [], [] => isTrue rfl
  | [], _ :: _ =>
        isFalse (by simp only [reduceCtorEq, not_false_eq_true])
  | _ :: _, [] =>
        isFalse (by simp only [reduceCtorEq, not_false_eq_true])
  | x :: xs, y :: ys => match Json.decEq x y, Json.decEqItems xs ys with
    | isTrue h, isTrue t => isTrue (by rw [h, t])
    | isFalse h, _ => isFalse fun e => h (List.cons.inj e).1
    | _, isFalse t => isFalse fun e => t (List.cons.inj e).2

/-- Equality of lists of fields is decidable. -/
protected def decEqFields : (xs ys : List (String × Json)) → Decidable (xs = ys)
  | [], [] => isTrue rfl
  | [], _ :: _ =>
        isFalse (by simp only [reduceCtorEq, not_false_eq_true])
  | _ :: _, [] =>
        isFalse (by simp only [reduceCtorEq, not_false_eq_true])
  | (k, x) :: xs, (j, y) :: ys =>
    match decEq k j, Json.decEq x y, Json.decEqFields xs ys with
    | isTrue hk, isTrue h, isTrue t => isTrue (by rw [hk, h, t])
    | isFalse hk, _, _ => isFalse fun e => hk (Prod.mk.inj (List.cons.inj e).1).1
    | _, isFalse h, _ => isFalse fun e => h (Prod.mk.inj (List.cons.inj e).1).2
    | _, _, isFalse t => isFalse fun e => t (List.cons.inj e).2

end

instance : DecidableEq Json := Json.decEq

/-- An integer as a value. -/
def int (n : Int) : Json := .num (.int n)

/-- A natural number as a value. -/
def nat (n : Nat) : Json := .num (.int n)

/-- A list of strings as a value. -/
def strings (xs : List String) : Json := .arr (xs.map .str)

/-- A value or, in its absence, null. -/
def ofOption (value : Option Json) : Json := value.getD .null

/-- The field of an object under a key; other values have no fields. -/
def get? (key : String) : Json → Option Json
  | .obj fields => lookup? key fields
  | _ => none

/-- The string that a value is. -/
def asString? : Json → Option String
  | .str s => some s
  | _ => none

/-- The items of an array. -/
def asArray? : Json → Option (List Json)
  | .arr items => some items
  | _ => none

/-- The fields of an object. -/
def asObject? : Json → Option Fields
  | .obj fields => some fields
  | _ => none

/-- Whether a value is an object. -/
def isObject (value : Json) : Bool := value.asObject?.isSome

/-- Whether a value is an array. -/
def isArray (value : Json) : Bool := value.asArray?.isSome

/-- Whether a value is a string. -/
def isString (value : Json) : Bool := value.asString?.isSome

/-- Whether an integer fits in 64 bits with a sign. -/
def fitsInt64 (n : Int) : Bool := decide (minInt64 ≤ n ∧ n ≤ maxInt64)

/-- The signed 64-bit integer that a value is; a float is none. -/
def asInt64? : Json → Option Int
  | .num (.int n) => if fitsInt64 n then some n else none
  | _ => none

/-- The signed 64-bit integer that a value is, also one written as a float
    without fraction part. The least integer itself counts only when it is
    written as an integer. -/
def asWhole? : Json → Option Int
  | .num (.int n) => if fitsInt64 n then some n else none
  | .num (.float x) => x.toInt?.filter fun n => n.natAbs ≤ maxInt64
  | _ => none

/-- The string under a key of an object. -/
def string? (key : String) (value : Json) : Option String :=
  (value.get? key).bind asString?

/-- The array under a key of an object. -/
def array? (key : String) (value : Json) : Option (List Json) :=
  (value.get? key).bind asArray?

/-- The object under a key of an object. -/
def object? (key : String) (value : Json) : Option Fields :=
  (value.get? key).bind asObject?

mutual

/-- The keys of every object in a value are strictly increasing. -/
def IsCanonical : Json → Prop
  | .null | .bool _ | .num _ | .str _ => True
  | .arr items => AllCanonical items
  | .obj fields => IsSorted fields ∧ FieldsCanonical fields

/-- Every value of a list is canonical. -/
def AllCanonical : List Json → Prop
  | [] => True
  | item :: rest => IsCanonical item ∧ AllCanonical rest

/-- Every value of a list of fields is canonical. -/
def FieldsCanonical : List (String × Json) → Prop
  | [] => True
  | (_, value) :: rest => IsCanonical value ∧ FieldsCanonical rest

end

end Json

end Decisioning
