import Decisioning.Batch.Image
import Decisioning.Dispatch

/-!
# Retained Rules

The rules of all batches so far, and what can be tracked through them.

An engine has to be given its rules anew when a batch brought some for it, or
when a surface that held some was dropped. Otherwise its list is unchanged and
it is left alone.

## Main definitions

* `Retained`: The rules per category and surface, and the tracking records.
* `Retained.inAppRules`, `Retained.cardRules`: The lists for the two engines.
* `Retained.merge`: Take in the image of a batch.
* `Retained.removeSurfaces`: Forget surfaces.
-/

namespace Decisioning

/-- The rules that engines should have, and the tracking records. -/
structure Retained where
  rules : RuleStores
  tracking : SortedMap TrackingRecord
deriving DecidableEq

namespace Retained

/-- Nothing is retained. -/
def empty : Retained := { rules := .empty, tracking := .empty }

instance : Inhabited Retained := ⟨empty⟩

/-- The rules of the in-app engine: the in-app rules of all surfaces, then the
    history rules of all surfaces. -/
def inAppRules (r : Retained) : List Rule :=
  r.rules.inApp.flatten ++ r.rules.eventHistory.flatten

/-- The rules of the card engine. -/
def cardRules (r : Retained) : List Rule := r.rules.contentCard.flatten

/-- A plan that gives the addressed engines their rules. -/
def plan (r : Retained) (inApp cards : Bool) : DispatchPlan :=
  { inAppRules := if inApp then some r.inAppRules else none
    cardRules := if cards then some r.cardRules else none
    codeBased := [] }

/-- The tracking records whose surface is outside a set. -/
def trackingOutside (r : Retained) (surfaces : SurfaceSet) : SortedMap TrackingRecord :=
  r.tracking.filter fun _ record => !surfaces.contains ⟨record.scope⟩

/-- Take in the image of a batch for the requested surfaces, and plan which
    engines to address. -/
def merge (r : Retained) (requested : SurfaceSet) (image : BatchImage) :
    DispatchPlan × Retained :=
  let (inApp, inAppRules) := r.rules.inApp.merge requested image.rules.inApp.lists
  let (card, cardRules) := r.rules.contentCard.merge requested image.rules.contentCard.lists
  let (history, historyRules) := r.rules.eventHistory.merge requested image.rules.eventHistory.lists
  let merged : Retained :=
    { rules := { inApp := inAppRules, contentCard := cardRules, eventHistory := historyRules }
      tracking := (r.trackingOutside requested).union image.tracking }
  let touched (category : RuleCategory) (outcome : MergeOutcome) : Bool :=
    decide (0 < image.ruleCount category + outcome.removed)
  (merged.plan (touched .inApp inApp || touched .eventHistory history)
      (touched .contentCard card),
    merged)

/-- Forget surfaces, and plan which engines to address. -/
def removeSurfaces (r : Retained) (surfaces : SurfaceSet) : DispatchPlan × Retained :=
  let (inApp, inAppRules) := r.rules.inApp.removeSurfaces surfaces
  let (card, cardRules) := r.rules.contentCard.removeSurfaces surfaces
  let (history, historyRules) := r.rules.eventHistory.removeSurfaces surfaces
  let rest : Retained :=
    { rules := { inApp := inAppRules, contentCard := cardRules, eventHistory := historyRules }
      tracking := r.trackingOutside surfaces }
  (rest.plan (decide (0 < inApp + history)) (decide (0 < card)), rest)

end Retained

end Decisioning
