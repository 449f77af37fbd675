import Decisioning.Json.Value

/-!
# Records

Structures read from JSON by their field names.

A record is written as an object, whose other fields are ignored, or as an
array that lists the fields in their declared order. In an array only fields at
the end can be left out, and there may be no further items.

What a missing field means is decided by the reader of the record: `required`
refuses it, `orDefault` replaces it. A field that is present must be readable
in either case, so null stands for itself.

## Main definitions

* `Json.record?`: The fields of a record, in their declared order.
* `required`, `orDefault`: Two readings of a field.
-/

namespace Decisioning

/-- Read a field that must be present. -/
def required {α : Type} (read? : Json → Option α) (field : Option Json) : Option α :=
  field.bind read?

/-- Read a field that has a default. -/
def orDefault {α : Type} (default : α) (read? : Json → Option α) : Option Json → Option α
  | none => some default
  | some value => read? value

namespace Json

/-- The fields with the given names, in that order. -/
def record? (names : List String) : Json → Option (List (Option Json))
  | .obj fields => some (names.map fun name => lookup? name fields)
  | .arr items =>
      if items.length ≤ names.length then
        some (items.map some ++ List.replicate (names.length - items.length) none)
      else
        none
  | _ => none

/-- The truth value that a value is. -/
def asBool? : Json → Option Bool
  | .bool b => some b
  | _ => none

/-- A list read item by item; all must be readable. -/
def listOf? {α : Type} (read? : Json → Option α) : Json → Option (List α)
  | .arr items => items.mapM read?
  | _ => none

/-- A field whose value is a string. -/
def stringField? (field : String × Json) : Option (String × String) :=
  field.2.asString?.map fun s => (field.1, s)

/-- An object whose values are all strings. -/
def stringMap? : Json → Option (SortedMap String)
  | .obj fields => (fields.mapM stringField?).map SortedMap.ofList
  | _ => none

end Json

end Decisioning
