import Decisioning.Json.Record
import Decisioning.Proposition

/-!
# Propositions as Records

Propositions, items and tracking records read as records, the form in which
programs hand them to each other. Unlike a payload, a record must be well
formed throughout; unlike the strict reading of a payload, it may leave out
its items, and it may be an array.

## Main definitions

* `Item.ofRecord?`, `Proposition.ofRecord?`, `TrackingRecord.ofRecord?`
-/

namespace Decisioning

/-- Read an item from id, schema and data. -/
def Item.ofRecord? (value : Json) : Option Item := do
  match ← value.record? ["id", "schema", "data"] with
  | [id, schema, data] =>
      return .unowned (← required Json.asString? id)
        (.classify (← required Json.asString? schema)) (Json.ofOption data)
  | _ => none

/-- Read a proposition from id, scope, details and items, and link its items. -/
def Proposition.ofRecord? (value : Json) : Option Proposition := do
  match ← value.record? ["id", "scope", "scopeDetails", "items"] with
  | [id, scope, scopeDetails, items] =>
      return .build (← required Json.asString? id) (← required Json.asString? scope)
        (← orDefault [] Json.asObject? scopeDetails)
        (← orDefault [] (Json.listOf? Item.ofRecord?) items)
  | _ => none

/-- Read a tracking record from id, scope and details. -/
def TrackingRecord.ofRecord? (value : Json) : Option TrackingRecord := do
  match ← value.record? ["id", "scope", "scopeDetails"] with
  | [id, scope, scopeDetails] =>
      return {
        id := ← required Json.asString? id
        scope := ← required Json.asString? scope
        scopeDetails := ← orDefault [] Json.asObject? scopeDetails }
  | _ => none

end Decisioning
