import Decisioning.Content.Schema
import Decisioning.Json.Value
import Decisioning.Surface

/-!
# Propositions

A proposition is one decision of the server: the content selected for one
surface, as a list of items of various kinds. Which further facts it carries
is up to the server; they are kept as they came, and a few are read from them.

Every item knows the proposition it was delivered with. The link is made once,
when a proposition is built, and an item that already belongs to a proposition
keeps its first owner.

## Main definitions

* `Item`, `Proposition`: Items and propositions.
* `Proposition.build`: A proposition together with the links of its items.
* `Proposition.rank`: The place of a proposition in its surface.
* `TrackingRecord`: What is remembered about a proposition for telemetry.
* `Proposition.toJson`: The written form.
-/

namespace Decisioning

/-- One piece of content. -/
structure Item where
  id : String
  schema : ContentSchema
  /-- The content, whose shape depends on the schema. -/
  data : Json
  /-- The id of the proposition that the item was delivered with. -/
  owner : Option String
deriving DecidableEq, Repr

namespace Item

/-- An item that belongs to no proposition yet. -/
def unowned (id : String) (schema : ContentSchema) (data : Json) : Item :=
  { id, schema, data, owner := none }

/-- Link an item to a proposition, unless it has an owner. -/
def attach (proposition : String) (item : Item) : Item :=
  { item with owner := some (item.owner.getD proposition) }

/-- The written form of an item; its owner is not written. -/
def toJson (item : Item) : Json :=
  .obj [("data", item.data), ("id", .str item.id), ("schema", .str item.schema.uri)]

end Item

/-- The content selected for a surface. -/
structure Proposition where
  id : String
  /-- The URI of the surface. -/
  scope : String
  /-- Facts about the decision, as the server sent them. -/
  scopeDetails : Fields
  items : List Item
deriving DecidableEq, Repr

namespace Proposition

/-- A proposition whose items are linked to it. -/
def build (id scope : String) (scopeDetails : Fields) (items : List Item) : Proposition :=
  { id, scope, scopeDetails, items := items.map (Item.attach id) }

/-- The surface that a proposition is for. -/
def surface (p : Proposition) : Surface := ⟨p.scope⟩

/-- The activity that made the decision, if it is described by an object. -/
def activity? (p : Proposition) : Option Json :=
  (lookup? "activity" p.scopeDetails).filter Json.isObject

/-- The rank of a proposition without one. -/
def defaultRank : Int := -1

/-- The priority of a proposition without one. -/
def defaultPriority : Int := 0

/-- The place among the propositions of a surface; lower comes first. -/
def rank (p : Proposition) : Int :=
  ((lookup? "rank" p.scopeDetails).bind Json.asWhole?).getD defaultRank

/-- The priority of the activity, which orders nothing. -/
def priority (p : Proposition) : Int :=
  ((p.activity?.bind (Json.get? "priority")).bind Json.asWhole?).getD defaultPriority

/-- The id of the activity. -/
def activityId? (p : Proposition) : Option String := p.activity?.bind (Json.string? "id")

/-- The written form of a proposition. -/
def toJson (p : Proposition) : Json :=
  .obj [("id", .str p.id), ("items", .arr (p.items.map Item.toJson)), ("scope", .str p.scope),
    ("scopeDetails", .obj p.scopeDetails)]

end Proposition

/-- What interaction telemetry has to know about a proposition. -/
structure TrackingRecord where
  id : String
  scope : String
  scopeDetails : Fields
deriving DecidableEq, Repr

namespace TrackingRecord

/-- The record of a proposition. -/
def ofProposition (p : Proposition) : TrackingRecord :=
  { id := p.id, scope := p.scope, scopeDetails := p.scopeDetails }

/-- The id of the activity. -/
def activityId? (r : TrackingRecord) : Option String :=
  (lookup? "activity" r.scopeDetails).bind (Json.string? "id")

/-- The written form of a record. -/
def toJson (r : TrackingRecord) : Json :=
  .obj [("id", .str r.id), ("scope", .str r.scope), ("scopeDetails", .obj r.scopeDetails)]

end TrackingRecord

end Decisioning
