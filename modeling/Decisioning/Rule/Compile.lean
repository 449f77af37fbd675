import Decisioning.Content.View
import Decisioning.Rule

/-!
# Compiling Rules

From documents of the rule language to rules.

A document lists conditions, each with several consequences, and every usable
consequence becomes a rule of its own. What cannot be used contributes nothing
and disturbs nothing: a condition that is not an object, a consequence without
id or detail, a schema without engine, data that is not what its schema asks
for. Consequences of the legacy type are taken without looking at their data.

## Main definitions

* `RuleCategory.accepts`: Whether data is what a category asks for.
* `Consequence.category?`: The category of a usable consequence.
* `Rule.compile`: The rules of a list of documents.
* `Rule.compileItem`: The rules of a ruleset item.
-/

namespace Decisioning

/-- Whether data is what the consequences of a category carry. -/
def RuleCategory.accepts (category : RuleCategory) (data : Json) : Bool :=
  match category with
  | .inApp => (InAppMessage.ofData? data).isSome
  | .contentCard => (ContentCard.ofData? data).isSome
  | .eventHistory => (HistoryOperation.ofData? data).isSome

namespace Consequence

/-- Read a consequence; its type may be left out. -/
def decode? (value : Json) : Option Consequence := do
  let id ← value.string? "id"
  let detail ← (value.get? "detail").filter Json.isObject
  return { id, type := (value.string? "type").getD schemaType, detail }

/-- The category of a consequence that an engine can use. -/
def category? (c : Consequence) : Option RuleCategory :=
  if c.type = legacyInAppType then some .inApp
  else do
    let category ← RuleCategory.ofSchema? c.schema
    let data ← c.data?
    if category.accepts data then some category else none

end Consequence

namespace Rule

/-- The rule of one consequence. -/
def ofConsequence? (condition consequence : Json) : Option Rule := do
  let consequence ← Consequence.decode? consequence
  let category ← consequence.category?
  return { condition, consequence, category }

/-- The rules of one document. -/
def compileDocument (document : Json) : List Rule :=
  match (document.get? "condition").filter Json.isObject, document.array? "consequences" with
  | some condition, some consequences => consequences.filterMap (ofConsequence? condition)
  | _, _ => []

/-- The rules of a list of documents, in order. -/
def compile (documents : List Json) : List Rule := documents.flatMap compileDocument

/-- The rules of an item; only ruleset items have any. -/
def compileItem (item : Item) : List Rule :=
  match RulesetDocument.ofItem? item with
  | some ruleset => compile ruleset.rules
  | none => []

end Rule

end Decisioning
