import Decisioning.Proposition

/-!
# Decoding Payloads

How propositions are read from what the server sends.

There is a strict and a tolerant reading. The strict one answers the first
fault it meets. The tolerant one drops an item without id on its own and keeps
the proposition; a proposition with any other fault is dropped as a whole, and
its siblings are kept. Both agree on the parts in front of the items, which
`Header.decode` reads, and on what an item is.

## Main definitions

* `DecodeError`: The faults of a proposition.
* `Proposition.decode`: The strict reading.
* `Proposition.decodeTolerant?`, `Proposition.ofPayload`: The tolerant reading
  of a proposition and of a payload.
* `Fragment.ofEvent?`, `completedRequest?`: The two events of a response stream.
-/

namespace Decisioning

/-- Why a proposition cannot be read. -/
inductive DecodeError where
  /-- A required field is missing or has another type. -/
  | missingField (name : String)
  /-- The item at an index has no id. -/
  | itemWithoutId (proposition : String) (index : Nat)
  /-- The scope details are present and not an object. -/
  | detailsNotObject (proposition : String)
deriving DecidableEq, Repr

namespace DecodeError

/-- The text that reports a fault. -/
def message : DecodeError → String
  | .missingField name => "proposition missing required field: '" ++ name ++ "'"
  | .itemWithoutId proposition index =>
      "proposition '" ++ proposition ++ "' item " ++ toString index ++ ": missing 'id' field"
  | .detailsNotObject proposition =>
      "invalid payload: proposition '" ++ proposition ++ "': 'scopeDetails' is not an object"

end DecodeError

namespace Item

/-- Read an item. Only the id is required; without a known schema the item is of
    unknown kind, and without data its data is null. -/
def decode? (value : Json) : Option Item :=
  (value.string? "id").map fun id =>
    .unowned id (((value.string? "schema").map ContentSchema.classify).getD .unknown)
      (Json.ofOption (value.get? "data"))

end Item

/-- The parts of a proposition that must be well formed in either reading; the
    items are still unread. -/
structure Header where
  id : String
  scope : String
  scopeDetails : Fields
  items : List Json
deriving DecidableEq, Repr

namespace Header

/-- A string that must be present. -/
def requiredString (name : String) (value : Json) : Except DecodeError String :=
  match value.string? name with
  | some s => .ok s
  | none => .error (.missingField name)

/-- Scope details may be absent or null. -/
def decodeDetails (proposition : String) (value : Json) : Except DecodeError Fields :=
  match value.get? "scopeDetails" with
  | none | some .null => .ok []
  | some (.obj fields) => .ok fields
  | some _ => .error (.detailsNotObject proposition)

/-- Read the parts in front of the items. -/
def decode (value : Json) : Except DecodeError Header := do
  let id ← requiredString "id" value
  let scope ← requiredString "scope" value
  let scopeDetails ← decodeDetails id value
  match value.array? "items" with
  | some items => return { id, scope, scopeDetails, items }
  | none => throw (.missingField "items")

end Header

namespace Proposition

/-- Read every item; the first unreadable one is a fault, reported with its
    index, counted from `index` on. -/
def decodeItems (proposition : String) :
    (index : Nat) → List Json → Except DecodeError (List Item)
  | _, [] => .ok []
  | index, value :: rest =>
      match Item.decode? value with
      | none => .error (.itemWithoutId proposition index)
      | some item => (decodeItems proposition (index + 1) rest).map (item :: ·)

/-- Read a proposition, or tell its first fault. -/
def decode (value : Json) : Except DecodeError Proposition := do
  let header ← Header.decode value
  let items ← decodeItems header.id 0 header.items
  return build header.id header.scope header.scopeDetails items

/-- Read a proposition without its unreadable items. -/
def decodeTolerant? (value : Json) : Option Proposition :=
  match Header.decode value with
  | .ok header =>
      some (build header.id header.scope header.scopeDetails
        (header.items.filterMap Item.decode?))
  | .error _ => none

/-- The entries of a payload: an array, or an object with an array under
    `payload`. -/
def payloadEntries : Json → List Json
  | .arr entries => entries
  | .obj fields => ((lookup? "payload" fields).bind Json.asArray?).getD []
  | _ => []

/-- Read a payload without its unreadable entries. -/
def ofPayload (payload : Json) : List Proposition :=
  (payloadEntries payload).filterMap decodeTolerant?

end Proposition

/-- A string under a key that is not empty. -/
def nonEmptyString? (name : String) (value : Json) : Option String :=
  (value.string? name).filter fun s => !s.isEmpty

/-- A part of the response to a request. -/
structure Fragment where
  /-- The request that is answered. -/
  request : String
  propositions : List Proposition
deriving DecidableEq, Repr

/-- Read a fragment from an event that names a request and holds a payload. -/
def Fragment.ofEvent? (event : Json) : Option Fragment :=
  (nonEmptyString? "requestEventId" event).map fun request =>
    { request, propositions := Proposition.ofPayload event }

/-- The event that carries a payload for a request. -/
def Fragment.event (request : String) (payload : Json) : Json :=
  .obj [("payload", payload), ("requestEventId", .str request)]

/-- The request whose response stream an event ends. -/
def completedRequest? (event : Json) : Option String :=
  nonEmptyString? "endingEventId" event

/-- The event that ends the response stream of a request. -/
def completionEvent (request : String) : Json := .obj [("endingEventId", .str request)]

end Decisioning
