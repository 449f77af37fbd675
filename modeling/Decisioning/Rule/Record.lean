import Decisioning.Json.Record
import Decisioning.Rule

/-!
# Rules as Records

Rules and their parts read as records. A condition and a detail may be any
value here, because a record states what some compiler has already accepted.

## Main definitions

* `RuleCategory.ofJson?`, `Consequence.ofRecord?`, `Rule.ofRecord?`
-/

namespace Decisioning

/-- Read a category: its name, or an object with its name as the only key and
    null under it. -/
def RuleCategory.ofJson? : Json → Option RuleCategory
  | .str name => ofName? name
  | .obj [(name, .null)] => ofName? name
  | _ => none

/-- Read a consequence from id, type and detail. -/
def Consequence.ofRecord? (value : Json) : Option Consequence := do
  match ← value.record? ["id", "type", "detail"] with
  | [id, type, detail] =>
      return {
        id := ← required Json.asString? id
        type := ← required Json.asString? type
        detail := ← detail }
  | _ => none

/-- Read a rule from condition, consequence and category. -/
def Rule.ofRecord? (value : Json) : Option Rule := do
  match ← value.record? ["condition", "consequence", "consequence_schema"] with
  | [condition, consequence, category] =>
      return {
        condition := ← condition
        consequence := ← required Consequence.ofRecord? consequence
        category := ← required RuleCategory.ofJson? category }
  | _ => none

end Decisioning
