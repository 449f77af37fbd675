import Decisioning.Cache
import Decisioning.Json.Printer
import Decisioning.Json.Raw
import Decisioning.Json.Record

/-!
# Reading Entries

Entries as records, and entries as the contents of files.

A file is read without going through a value first. Fields that an entry does
not have are skipped unread, so what stands in them need not have a value, and
their strings need not even be UTF-8; but a field that an entry has may occur
only once. A file that is no entry is refused for the first fault that is found.

## Main definitions

* `EntryFault`: Why a file is no entry.
* `CacheEntry.ofRecord?`: The entry that a value is.
* `CacheEntry.ofBytes`: The entry that a file is.
* `CacheEntry.text`: The text of an entry.
-/

namespace Decisioning

/-- Why a file is no entry. -/
inductive EntryFault where
  /-- The file is not a JSON text. -/
  | notJson
  /-- The value is neither an object nor an array of the fields. -/
  | notRecord
  /-- Some key of the object has no value. -/
  | unreadableKey
  | repeated (field : String)
  | missing (field : String)
  /-- What stands in the field is not what belongs there. -/
  | unreadable (field : String)
deriving DecidableEq, Repr

namespace EntryFault

/-- The text that reports a fault. -/
def message : EntryFault → String
  | .notJson => "not a JSON text"
  | .notRecord => "not an entry"
  | .unreadableKey => "a key cannot be read"
  | .repeated field => "duplicate field `" ++ field ++ "`"
  | .missing field => "missing field `" ++ field ++ "`"
  | .unreadable field => "field `" ++ field ++ "` cannot be read"

/-- What was found, or a fault if nothing was. -/
def unlessFound {α : Type} (fault : EntryFault) : Option α → Except EntryFault α
  | some a => .ok a
  | none => .error fault

end EntryFault

namespace RawJson

/-- How deep the value of an entry may nest. -/
def partDepth : Nat := Json.maxDepth - 1

/-- The tree under a key of an object, which may be left out but not repeated. No key
    of the object may be without value. -/
def partNamed (name : String) (fields : List (Option String × RawJson)) :
    Except EntryFault (Option RawJson) :=
  if fields.any fun field => field.1.isNone then .error .unreadableKey
  else
    match (fields.filter fun field => field.1 = some name).map Prod.snd with
    | [] => .ok none
    | [tree] => .ok (some tree)
    | _ => .error (.repeated name)

/-- A field whose value is a string. -/
def stringField? : Option String × RawJson → Option (String × String)
  | (some key, .string (some value)) => some (key, value)
  | _ => none

/-- An object whose values are all strings, of which the last one of a key
    counts. -/
def stringMap? : RawJson → Option (SortedMap String)
  | .object fields => (fields.mapM stringField?).map SortedMap.ofList
  | _ => none

/-- The two parts of an entry. -/
def entryParts : RawJson → Except EntryFault (Option RawJson × Option RawJson)
  | .object fields => do return (← partNamed "data" fields, ← partNamed "metadata" fields)
  | .array [data] => .ok (some data, none)
  | .array [data, metadata] => .ok (some data, some metadata)
  | _ => .error .notRecord

end RawJson

namespace CacheEntry

/-- Read an entry from data and metadata. -/
def ofRecord? (value : Json) : Option CacheEntry := do
  match ← value.record? ["data", "metadata"] with
  | [data, metadata] =>
      return { data := ← data, metadata := ← orDefault .empty Json.stringMap? metadata }
  | _ => none

/-- Read an entry from a syntax tree. -/
def ofRaw (tree : RawJson) : Except EntryFault CacheEntry := do
  let (data, metadata) ← tree.entryParts
  let data ← EntryFault.unlessFound (.missing "data") data
  let data ← EntryFault.unlessFound (.unreadable "data") (data.value? RawJson.partDepth)
  match metadata with
  | none => return ofData data
  | some metadata =>
      let metadata ← EntryFault.unlessFound (.unreadable "metadata") metadata.stringMap?
      return { data, metadata }

/-- Read an entry from the bytes of a file. -/
def ofBytes (bytes : ByteArray) : Except EntryFault CacheEntry := do
  ofRaw (← EntryFault.unlessFound .notJson (RawJson.ofPieces? (TextPiece.ofBytes bytes)))

/-- The text of an entry. -/
def text (entry : CacheEntry) : String := entry.toJson.compact

end CacheEntry

end Decisioning
