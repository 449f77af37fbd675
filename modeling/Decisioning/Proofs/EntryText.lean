import Decisioning.Cache.Entry
import Decisioning.Proofs.JsonText

/-!
# Entries and Their Texts

Why an entry comes back from the file that it was written to.

An entry is written as an object with its data and, if there is any, its metadata.
The reader takes any object apart in which each of the two stands at most once, so
it does not care about the order, but what it finds is then read as a value and as
a map of strings. The value of the data comes back by `Json.value?_tree`, one level
down in the text. Metadata is written in key order, and building a map from the
entries of a map gives that map. Metadata that is left out is the empty map, which
is also the only one that is left out.

## Main definitions

* `CacheEntry.IsStorable`: The entries whose text is read back.

## Theorems

* `CacheEntry.ofRaw_tree`: The tree of an entry has that entry.
* `CacheEntry.ofBytes_text`: The bytes of its text have it.
-/

namespace Decisioning

theorem TextPiece.ofBytes_toUTF8 (text : String) : ofBytes text.toUTF8 = ofText text := by
  have htext : String.fromUTF8? text.toUTF8 = some text := dif_pos text.isValidUTF8
  rw [ofBytes, htext]

namespace RawJson

/-- Fields whose values are strings come back from their trees. -/
theorem mapM_stringField?_fieldTrees (fields : List (String × String)) :
    (Json.fieldTrees (fields.map fun e => (e.1, Json.str e.2))).mapM stringField?
      = some fields := by
  induction fields with
  | nil => rfl
  | cons e rest ih =>
      rw [List.map_cons, Json.fieldTrees, List.mapM_cons, ih]
      rfl

/-- A map of strings comes back from its tree. -/
theorem stringMap?_tree (m : SortedMap String) :
    stringMap? (Json.obj (m.map Json.str).entries).tree = some m := by
  rw [Json.tree, stringMap?, SortedMap.map, mapM_stringField?_fieldTrees, Option.map_some,
    SortedMap.ofList_entries]

end RawJson

namespace CacheEntry

/-- An entry whose data is a value in key order, has only integers that fit in 64
    bits and nests no deeper than the reader goes, which is 126 levels. Any metadata
    will do. -/
structure IsStorable (entry : CacheEntry) : Prop where
  canonical : entry.data.IsCanonical
  words : entry.data.HasWords
  nesting : entry.data.nesting ≤ RawJson.partDepth

theorem fieldsHaveWords_strings (fields : List (String × String)) :
    Json.FieldsHaveWords (fields.map fun e => (e.1, Json.str e.2)) := by
  induction fields with
  | nil => exact trivial
  | cons e rest ih => exact ⟨trivial, ih⟩

/-- Writing an entry adds no numbers to its data. -/
theorem hasWords_toJson {entry : CacheEntry} (h : entry.data.HasWords) :
    entry.toJson.HasWords := by
  rw [toJson]
  split
  · exact ⟨h, trivial⟩
  · exact ⟨h, fieldsHaveWords_strings entry.metadata.entries, trivial⟩

/-- The tree of an entry has that entry. -/
theorem ofRaw_tree {entry : CacheEntry} (h : entry.IsStorable) :
    ofRaw entry.toJson.tree = .ok entry := by
  have hdata : entry.data.tree.value? RawJson.partDepth = some entry.data :=
    Json.value?_tree entry.data h.canonical h.nesting
  rw [toJson]
  split
  · rename_i hempty
    have hmetadata : entry.metadata = .empty := entry.metadata.isEmpty_iff.mp hempty
    have hparts : RawJson.entryParts (Json.obj [("data", entry.data)]).tree
        = .ok (some entry.data.tree, none) := rfl
    -- Only the data is read, and the metadata is the empty map.
    rw [ofRaw, hparts]
    change (EntryFault.unlessFound _ (entry.data.tree.value? RawJson.partDepth)).bind _ = _
    rw [hdata]
    change Except.ok (ofData entry.data) = _
    rw [ofData, ← hmetadata]
  · have hparts : RawJson.entryParts (Json.obj [("data", entry.data),
          ("metadata", .obj (entry.metadata.map Json.str).entries)]).tree
        = .ok (some entry.data.tree,
          some (Json.obj (entry.metadata.map Json.str).entries).tree) := rfl
    -- Both parts are there, and each is read by itself.
    rw [ofRaw, hparts]
    change (EntryFault.unlessFound _ (entry.data.tree.value? RawJson.partDepth)).bind _ = _
    rw [hdata]
    change (EntryFault.unlessFound _ (RawJson.stringMap? _)).bind _ = _
    rw [RawJson.stringMap?_tree]
    rfl

/-- The bytes of the text of an entry have that entry. -/
theorem ofBytes_text {entry : CacheEntry} (h : entry.IsStorable) :
    ofBytes entry.text.toUTF8 = .ok entry := by
  rw [ofBytes, TextPiece.ofBytes_toUTF8, text, Json.ofPieces?_compact (hasWords_toJson h.words)]
  exact ofRaw_tree h

end CacheEntry

end Decisioning
