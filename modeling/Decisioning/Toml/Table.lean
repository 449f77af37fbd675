import Decisioning.Toml

/-!
# Building Tables

How statements add to the tables of a document, and when they may not.

A key is given a value once and never again. A dotted key goes through tables
that it creates on its way; it may go on through tables that came about the same
way, or as part of the path in a header, but it may add a value only to a table
that dotted keys made. A header may name a table that so far was only part of a
path, and no other. A table in braces is complete and takes nothing more. Where
a path meets the tables of a double-bracket header, it goes on in the last one.

## Main definitions

* `Toml.bind?`: Give a value to a dotted key.
* `Toml.atTable?`: Change the table that the path of a header leads to.
* `Toml.declare?`: Add the table of a header.
* `Toml.append?`: Add a table to those of a double-bracket header.
-/

namespace Decisioning

namespace Toml

/-- Change the last of some tables. -/
def changeLast? (change : Entries → Option Entries) (elements : List Entries) :
    Option (List Entries) :=
  match elements.getLast? with
  | none => none
  | some last => (change last).map fun changed => elements.dropLast ++ [changed]

/-- Give a value to a dotted key. The table itself takes a value only if
    `isOpen` holds. -/
def bind? (isOpen : Bool) (value : Toml) : (path : List String) → Entries → Option Entries
  | [], _ => none
  | [key], entries =>
      if isOpen && (lookup? key entries).isNone then some (insertEntry key value entries)
      else none
  | key :: rest, entries =>
      let put (changed : Option Toml) : Option Entries :=
        changed.map fun table => insertEntry key table entries
      match lookup? key entries with
      | none => put ((bind? true value rest []).map (.table .dotted))
      | some (.table .dotted inner) => put ((bind? true value rest inner).map (.table .dotted))
      | some (.table .path inner) => put ((bind? false value rest inner).map (.table .path))
      | some (.tables elements) =>
          put ((changeLast? (bind? false value rest) elements).map .tables)
      | some _ => none

/-- Change the table that a path of a header leads to. -/
def atTable? (change : Entries → Option Entries) : (path : List String) → Entries → Option Entries
  | [], entries => change entries
  | key :: rest, entries =>
      let put (changed : Option Toml) : Option Entries :=
        changed.map fun table => insertEntry key table entries
      match lookup? key entries with
      | none => put ((atTable? change rest []).map (.table .path))
      | some (.table .inline _) => none
      | some (.table origin inner) => put ((atTable? change rest inner).map (.table origin))
      | some (.tables elements) => put ((changeLast? (atTable? change rest) elements).map .tables)
      | some _ => none

/-- Add the table of a header to the table around it. -/
def declare? (key : String) (entries : Entries) : Option Entries :=
  match lookup? key entries with
  | none => some (insertEntry key (.table .header []) entries)
  | some (.table .path inner) => some (insertEntry key (.table .header inner) entries)
  | some _ => none

/-- Add a table to those of a double-bracket header. -/
def append? (key : String) (entries : Entries) : Option Entries :=
  match lookup? key entries with
  | none => some (insertEntry key (.tables [[]]) entries)
  | some (.tables elements) => some (insertEntry key (.tables (elements ++ [[]])) entries)
  | some _ => none

end Toml

end Decisioning
