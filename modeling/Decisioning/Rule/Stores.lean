import Decisioning.Rule
import Decisioning.Surface.Store

/-!
# Rules by Category and Surface

One surface store of rules for every category.

## Main definitions

* `RuleStores`: The stores.
* `RuleStores.get`: The store of a category.
* `RuleStores.push`: Add a rule to the list of a surface in its category.
-/

namespace Decisioning

/-- The rules of every category, by surface. -/
structure RuleStores where
  inApp : SurfaceStore Rule
  contentCard : SurfaceStore Rule
  eventHistory : SurfaceStore Rule
deriving DecidableEq

namespace RuleStores

/-- No rules. -/
def empty : RuleStores := ⟨.empty, .empty, .empty⟩

instance : Inhabited RuleStores := ⟨empty⟩

/-- The store of a category. -/
def get (rules : RuleStores) : RuleCategory → SurfaceStore Rule
  | .inApp => rules.inApp
  | .contentCard => rules.contentCard
  | .eventHistory => rules.eventHistory

/-- Append a rule to the list of a surface in the rule's category. -/
def push (rules : RuleStores) (s : Surface) (rule : Rule) : RuleStores :=
  match rule.category with
  | .inApp => { rules with inApp := rules.inApp.push s rule }
  | .contentCard => { rules with contentCard := rules.contentCard.push s rule }
  | .eventHistory => { rules with eventHistory := rules.eventHistory.push s rule }

end RuleStores

end Decisioning
