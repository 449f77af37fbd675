import Decisioning.Content.View
import Decisioning.Rule

/-!
# History Rules

The rules that record the life of a content card in event history.

A card is accompanied by three rules. The first one fires on the card's own
condition and records that the user qualified for it; the second and the third
fire when the card is reported as displayed or dismissed. A card is known in
event history by its activity or, without one, by the id of its rule.

## Main definitions

* `matcher`, `interactionCondition`: The conditions of the last two rules.
* `Rule.historyRules`: The three rules of a card.
-/

namespace Decisioning

/-- The condition that a key has a value. -/
def matcher (key value : String) : Json :=
  .obj [
    ("definition", .obj [("key", .str key), ("matcher", .str "eq"), ("values", .strings [value])]),
    ("type", .str "matcher")]

/-- The condition that an interaction with a card was reported. -/
def interactionCondition (event messageId : String) : Json :=
  .obj [
    ("definition", .obj [
      ("conditions", .arr [
        matcher "~type" "com.adobe.eventType.messaging",
        matcher "~source" "com.adobe.eventSource.requestContent",
        matcher historyEventType event,
        matcher historyMessageId messageId]),
      ("logic", .str "and")]),
    ("type", .str "group")]

namespace Rule

/-- A rule that writes an event of a card to event history. -/
def historyRule (condition : Json) (id operation event messageId : String) : Rule :=
  { condition
    category := .eventHistory
    consequence := {
      id
      type := schemaType
      detail := .obj [
        ("data", .obj [
          ("content", .obj [(historyEventType, .str event), (historyMessageId, .str messageId)]),
          ("operation", .str operation)]),
        ("id", .str id),
        ("schema", .str ContentSchema.eventHistoryOperation.uri)] } }

/-- The three rules that accompany a card. A card qualifies and is displayed once,
    and may be dismissed any number of times. -/
def historyRules (card : Rule) (activity : Option String) : List Rule :=
  let messageId := activity.getD card.id
  [ historyRule card.condition (card.id ++ "#qualify") "insertIfNotExists" "qualify" messageId,
    historyRule (interactionCondition "display" messageId) (card.id ++ "#display")
      "insertIfNotExists" "display" messageId,
    historyRule (interactionCondition "dismiss" messageId) (card.id ++ "#disqualify")
      "insert" "disqualify" messageId ]

end Rule

end Decisioning
