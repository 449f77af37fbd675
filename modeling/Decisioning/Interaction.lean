import Decisioning.Content.View
import Decisioning.Proposition

/-!
# Interactions

What is reported when a user sees, uses or dismisses content: the document sent
to the edge, and the record written to event history.

An interaction can be built from an item together with its proposition, or
from a tracking record when the proposition itself is no longer at hand. The
document is the same either way, because a proposition enters it only through
its tracking record.

## Main definitions

* `EdgeEvent`: The kinds of interaction.
* `Interaction.forItem?`, `Interaction.forRecord`: The two ways to build one.
* `Interaction.document`: The document for the edge.
* `HistoryWrite.of?`: The record for event history.
-/

namespace Decisioning

/-- The kinds of interaction that are reported. -/
inductive EdgeEvent where
  | display
  | interact
  | dismiss
  | trigger
deriving DecidableEq, Repr, Inhabited

namespace EdgeEvent

/-- The name of an event in event history. -/
def name : EdgeEvent → String
  | .display => "display"
  | .interact => "interact"
  | .dismiss => "dismiss"
  | .trigger => "trigger"

/-- The event type that the edge knows an event by. -/
def edgeType : EdgeEvent → String
  | .display => "decisioning.propositionDisplay"
  | .interact => "decisioning.propositionInteract"
  | .dismiss => "decisioning.propositionDismiss"
  | .trigger => "decisioning.propositionTrigger"

/-- The event with a given edge type. -/
def ofEdgeType? : String → Option EdgeEvent
  | "decisioning.propositionDisplay" => some .display
  | "decisioning.propositionInteract" => some .interact
  | "decisioning.propositionDismiss" => some .dismiss
  | "decisioning.propositionTrigger" => some .trigger
  | _ => none

end EdgeEvent

/-- One interaction with an item. -/
structure Interaction where
  event : EdgeEvent
  /-- What the user chose; reported for an `interact` event only. -/
  label : Option String
  record : TrackingRecord
  item : String
  /-- The parts of the item that were involved. -/
  tokens : List String
deriving DecidableEq, Repr

namespace Interaction

/-- An interaction with content that is known by its tracking record. -/
def forRecord (event : EdgeEvent) (label : Option String) (item : String)
    (record : TrackingRecord) (tokens : List String) : Interaction :=
  { event, label, record, item, tokens }

/-- An interaction with an item of a proposition; `none` when the item belongs to
    another proposition or to none. -/
def forItem? (event : EdgeEvent) (label : Option String) (item : Item)
    (proposition : Proposition) (tokens : List String) : Option Interaction :=
  if item.owner = some proposition.id then
    some (forRecord event label item.id (.ofProposition proposition) tokens)
  else
    none

/-- The item as it is reported: its id, and its tokens if there are any. -/
def itemEntry (i : Interaction) : Json :=
  if i.tokens.isEmpty then .obj [("id", .str i.item)]
  else
    .obj [("characteristics", .obj [("tokens", .str (String.intercalate "," i.tokens))]),
      ("id", .str i.item)]

/-- The proposition as it is reported. -/
def propositionEntry (i : Interaction) : Json :=
  .obj [("id", .str i.record.id), ("items", .arr [i.itemEntry]), ("scope", .str i.record.scope),
    ("scopeDetails", .obj i.record.scopeDetails)]

/-- The action as it is reported: for an `interact` event, its label, which is
    empty if there is none. -/
def actionFields (i : Interaction) : Fields :=
  match i.event with
  | .interact =>
      let label := Json.str (i.label.getD "")
      [("propositionAction", .obj [("id", label), ("label", label)])]
  | _ => []

/-- The document sent to the edge. -/
def document (i : Interaction) : Json :=
  .obj [
    ("_experience", .obj [("decisioning", .obj (i.actionFields ++ [
      ("propositionEventType", .obj [(i.event.name, .nat 1)]),
      ("propositions", .arr [i.propositionEntry])]))]),
    ("eventType", .str i.event.edgeType)]

end Interaction

/-- A write to event history. -/
structure HistoryWrite where
  /-- The record itself. -/
  data : Json
  /-- The keys by which the record is found again. -/
  mask : List String
deriving DecidableEq, Repr

/-- The record of an interaction with an activity; `none` for an empty activity
    id. -/
def HistoryWrite.of? (activity : String) (event : EdgeEvent) (label : Option String) :
    Option HistoryWrite :=
  if activity.isEmpty then none
  else
    some {
      data := .obj [("iam", .obj [("action", .str (label.getD "")), ("eventType", .str event.name),
        ("id", .str activity)])]
      mask := [historyEventType, historyMessageId, historyAction] }

end Decisioning
