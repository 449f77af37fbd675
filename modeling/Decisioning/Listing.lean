import Decisioning.Pipeline

/-!
# Listings

What the four stores of propositions hold, by the ids of the propositions.

A listing is all that reports show of a store, so the image of a batch and a
pipeline that took it in can be compared by their listings.

## Main definitions

* `SurfaceStore.idLists`: The ids in a store, by surface.
* `Listing`: The ids in all four stores.
* `Listing.toJson`: The written form of a listing.
* `BatchSummary`: What a batch comes to.
-/

namespace Decisioning

/-- The ids of the propositions in a store, by surface. -/
def SurfaceStore.idLists (store : SurfaceStore Proposition) : SurfaceLists String :=
  store.lists.map fun ps => ps.map Proposition.id

/-- Lists of ids by surface, as a value. -/
def idListsJson (lists : SurfaceLists String) : Json := .obj (lists.map Json.strings).entries

/-- The ids in the four stores of propositions. -/
structure Listing where
  persisted : SurfaceLists String
  codeBased : SurfaceLists String
  cards : SurfaceLists String
  inbox : SurfaceLists String
deriving DecidableEq

namespace Listing

/-- The listing of a batch's image. -/
def ofImage (image : BatchImage) : Listing :=
  { persisted := image.persisted.idLists
    codeBased := image.codeBased.idLists
    cards := image.cards.idLists
    inbox := image.inbox.idLists }

/-- The listing of a pipeline. -/
def ofPipeline (p : Pipeline) : Listing :=
  { persisted := p.persisted.idLists
    codeBased := p.codeBased.idLists
    cards := p.cards.idLists
    inbox := p.inbox.idLists }

/-- The fields by which a listing is written, sorted by key. -/
def fields (l : Listing) : Fields :=
  [("code_based", idListsJson l.codeBased), ("content_cards", idListsJson l.cards),
    ("inbox", idListsJson l.inbox), ("persisted", idListsJson l.persisted)]

end Listing

/-- What a batch comes to for a set of requested surfaces. -/
structure BatchSummary where
  /-- How many propositions could be read. -/
  propositions : Nat
  /-- How many of them are for a requested surface. -/
  inScope : Nat
  inAppRules : Nat
  cardRules : Nat
  historyRules : Nat
  listing : Listing
  /-- The ids under which something can be tracked, sorted. -/
  tracked : List String
deriving DecidableEq

namespace BatchSummary

/-- The summary of a batch. -/
def ofBatch (propositions : List Proposition) (requested : SurfaceSet) : BatchSummary :=
  let image := BatchImage.ofBatch propositions requested
  { propositions := propositions.length
    inScope := (propositions.filter fun p => requested.contains p.surface).length
    inAppRules := image.ruleCount .inApp
    cardRules := image.ruleCount .contentCard
    historyRules := image.ruleCount .eventHistory
    listing := .ofImage image
    tracked := image.tracking.keys }

/-- The written form of a summary. -/
def toJson (s : BatchSummary) : Json :=
  .obj (s.listing.fields ++
    [("propositions", .nat s.propositions),
      ("rules", .obj [("content_card", .nat s.cardRules), ("event_history", .nat s.historyRules),
        ("in_app", .nat s.inAppRules)]),
      ("tracked", .strings s.tracked)])

end BatchSummary

end Decisioning
