import Decisioning.SortedMap

/-!
# TOML Values

What a TOML text denotes.

Numbers with a fraction and points in time are kept as they are written,
because nothing in this library is set by one. A table remembers how it came
about, because that decides what may still be added to it while the rest of the
text is read.

## Main definitions

* `TableOrigin`: How a table came about.
* `Toml`: The values.
-/

namespace Decisioning

/-- How a table came about. -/
inductive TableOrigin where
  /-- By a header of its own. -/
  | header
  /-- As a part of the path in another table's header. -/
  | path
  /-- As a part of a dotted key. -/
  | dotted
  /-- In braces, complete as it stands. -/
  | inline
deriving DecidableEq, Repr

/-- A TOML value. -/
inductive Toml where
  | string (value : String)
  | boolean (value : Bool)
  | integer (value : Int)
  | float (literal : String)
  | dateTime (literal : String)
  | array (items : List Toml)
  | table (origin : TableOrigin) (entries : List (String × Toml))
  /-- The tables of repeated double-bracket headers, oldest first. -/
  | tables (elements : List (List (String × Toml)))
deriving Repr, Inhabited

namespace Toml

/-- The entries of a table, sorted by key. -/
abbrev Entries := List (String × Toml)

end Toml

end Decisioning
