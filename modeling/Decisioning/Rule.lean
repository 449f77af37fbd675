import Decisioning.Content.Schema
import Decisioning.Json.Value

/-!
# Rules

A rule pairs a condition with one consequence. The condition is a tree that
only a rule engine interprets; the consequence has a category, which decides
the engine that runs the rule.

## Main definitions

* `RuleCategory`: The categories of consequences.
* `Consequence`, `Rule`: Consequences and rules.
* `Rule.document`: The form in which an engine takes a rule.
-/

namespace Decisioning

/-- What the consequence of a rule brings about. -/
inductive RuleCategory where
  | inApp
  | contentCard
  | eventHistory
deriving DecidableEq, Repr, Inhabited

namespace RuleCategory

/-- The category of a schema; no engine runs the other schemas. -/
def ofSchema? : ContentSchema → Option RuleCategory
  | .inApp => some .inApp
  | .contentCard | .feed => some .contentCard
  | .eventHistoryOperation => some .eventHistory
  | _ => none

/-- The name of a category. -/
def name : RuleCategory → String
  | .inApp => "in_app"
  | .contentCard => "content_card"
  | .eventHistory => "event_history_operation"

/-- All categories. -/
def all : List RuleCategory := [.inApp, .contentCard, .eventHistory]

/-- The category with a given name. -/
def ofName? (name : String) : Option RuleCategory := all.find? fun c => c.name = name

end RuleCategory

/-- The consequence type of rules that predate consequence schemas. -/
def legacyInAppType : String := "cjmiam"

/-- The consequence type of rules whose detail names a schema. -/
def schemaType : String := "schema"

/-- What a rule does when its condition holds. -/
structure Consequence where
  id : String
  type : String
  detail : Json
deriving DecidableEq, Repr

namespace Consequence

/-- The schema that the detail names. -/
def schema (c : Consequence) : ContentSchema :=
  ((c.detail.string? "schema").map ContentSchema.classify).getD .unknown

/-- The data of the detail. -/
def data? (c : Consequence) : Option Json := c.detail.get? "data"

/-- The written form of a consequence. -/
def toJson (c : Consequence) : Json :=
  .obj [("detail", c.detail), ("id", .str c.id), ("type", .str c.type)]

end Consequence

/-- A condition and its consequence. -/
structure Rule where
  condition : Json
  consequence : Consequence
  category : RuleCategory
deriving DecidableEq, Repr

namespace Rule

/-- The id of the consequence, by which a rule is known. -/
def id (r : Rule) : String := r.consequence.id

/-- The document that an engine takes. -/
def document (r : Rule) : Json :=
  .obj [("condition", r.condition), ("consequences", .arr [r.consequence.toJson])]

end Rule

end Decisioning
