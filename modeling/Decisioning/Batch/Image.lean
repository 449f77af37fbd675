import Decisioning.Batch.Placement
import Decisioning.Rule.Stores

/-!
# Batch Images

What a completed batch of propositions comes to: per surface, the propositions
of each kind and the rules of each category.

Only propositions for a requested surface count. They are taken in rank order,
and propositions of equal rank in the order in which they arrived.

## Main definitions

* `BatchImage`: The image of a batch.
* `inScope`: The propositions that count, in the order in which they count.
* `BatchImage.ofBatch`: The image of a list of propositions for a request.
-/

namespace Decisioning

/-- What a batch comes to. -/
structure BatchImage where
  /-- What can be tracked, by item id and rule id. -/
  tracking : SortedMap TrackingRecord
  codeBased : SurfaceStore Proposition
  persisted : SurfaceStore Proposition
  cards : SurfaceStore Proposition
  inbox : SurfaceStore Proposition
  rules : RuleStores
deriving DecidableEq

/-- The propositions for requested surfaces, in rank order. -/
def inScope (propositions : List Proposition) (requested : SurfaceSet) : List Proposition :=
  (propositions.filter fun p => requested.contains p.surface).mergeSort
    fun p q => decide (p.rank ≤ q.rank)

namespace BatchImage

/-- The image of nothing. -/
def empty : BatchImage :=
  { tracking := .empty, codeBased := .empty, persisted := .empty, cards := .empty,
    inbox := .empty, rules := .empty }

instance : Inhabited BatchImage := ⟨empty⟩

/-- Append a proposition to the list of its surface, if it belongs there. -/
def pushIf (belongs : Bool) (p : Proposition) (store : SurfaceStore Proposition) :
    SurfaceStore Proposition :=
  if belongs then store.push p.surface p else store

/-- Add a proposition where it belongs. -/
def add (image : BatchImage) (p : Proposition) : BatchImage :=
  let placement := Placement.ofProposition p
  let record := TrackingRecord.ofProposition p
  { tracking := placement.tracked.foldl (fun t id => t.insert id record) image.tracking
    codeBased := pushIf placement.codeBased p image.codeBased
    persisted := pushIf placement.persisted p image.persisted
    cards := pushIf placement.card p image.cards
    inbox := pushIf placement.inbox p image.inbox
    rules := placement.rules.foldl (fun rules r => rules.push p.surface r) image.rules }

/-- The image of a batch for a set of requested surfaces. -/
def ofBatch (propositions : List Proposition) (requested : SurfaceSet) : BatchImage :=
  (inScope propositions requested).foldl add empty

/-- The number of rules of a category, over all surfaces. -/
def ruleCount (image : BatchImage) (category : RuleCategory) : Nat :=
  (image.rules.get category).count

/-- Whether the batch brought any rule. -/
def hasRules (image : BatchImage) : Bool :=
  RuleCategory.all.any fun category =>
    (image.rules.get category).lists.values.any fun rules => !rules.isEmpty

/-- The code-based propositions, in URI order of their surfaces. -/
def codeBasedPropositions (image : BatchImage) : List Proposition := image.codeBased.flatten

/-- Whether the batch came to nothing. -/
def isEmpty (image : BatchImage) : Bool :=
  !image.hasRules && image.codeBased.isEmpty && image.persisted.isEmpty && image.cards.isEmpty
    && image.inbox.isEmpty

end BatchImage

end Decisioning
