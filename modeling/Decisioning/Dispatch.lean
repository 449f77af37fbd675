import Decisioning.Proposition
import Decisioning.Rule

/-!
# Dispatch

What a batch sends out, and the record of everything that was sent.

Two engines run rules, one of them in-app and history rules, the other card
rules. An engine is always given its complete list and never a difference.
Listeners are told about code-based propositions. A plan says for each of the
three whether it is addressed at all.

## Main definitions

* `DispatchPlan`: What is to be sent.
* `Receipt`: How much was sent.
* `Outbox`: Everything that was sent, oldest first.
* `Outbox.dispatch`: Carry out a plan.
-/

namespace Decisioning

/-- What is to be sent; an absent list leaves its engine alone. -/
structure DispatchPlan where
  inAppRules : Option (List Rule)
  cardRules : Option (List Rule)
  /-- Listeners are told about these, if there are any. -/
  codeBased : List Proposition
deriving DecidableEq, Repr

namespace DispatchPlan

/-- Nothing to send. -/
def nothing : DispatchPlan := { inAppRules := none, cardRules := none, codeBased := [] }

instance : Inhabited DispatchPlan := ⟨nothing⟩

/-- Whether nothing is to be sent. -/
def isEmpty (plan : DispatchPlan) : Bool :=
  plan.inAppRules.isNone && plan.cardRules.isNone && plan.codeBased.isEmpty

end DispatchPlan

/-- How much was sent; an absent count means that nobody was addressed. -/
structure Receipt where
  inAppRules : Option Nat
  cardRules : Option Nat
  notified : Option Nat
deriving DecidableEq, Repr

namespace Receipt

/-- Nothing was sent. -/
def nothing : Receipt := { inAppRules := none, cardRules := none, notified := none }

instance : Inhabited Receipt := ⟨nothing⟩

/-- The written form of a receipt. -/
def toJson (receipt : Receipt) : Json :=
  .obj [("card_rules", Json.ofOption (receipt.cardRules.map Json.nat)),
    ("in_app_rules", Json.ofOption (receipt.inAppRules.map Json.nat)),
    ("notified", Json.ofOption (receipt.notified.map Json.nat))]

/-- The receipt for a plan that is carried out. -/
def ofPlan (plan : DispatchPlan) : Receipt :=
  { inAppRules := plan.inAppRules.map List.length
    cardRules := plan.cardRules.map List.length
    notified := if plan.codeBased.isEmpty then none else some plan.codeBased.length }

end Receipt

/-- The event by which listeners are told about propositions. -/
def notificationEvent (propositions : List Proposition) : Json :=
  .obj [("propositions", .arr (propositions.map Proposition.toJson))]

/-- Everything that was sent, oldest first. -/
structure Outbox where
  /-- The lists given to the in-app engine. -/
  inApp : List (List Rule)
  /-- The lists given to the card engine. -/
  cards : List (List Rule)
  /-- The propositions that listeners were told about. -/
  notices : List (List Proposition)
deriving DecidableEq, Repr

namespace Outbox

/-- Nothing was ever sent. -/
def empty : Outbox := { inApp := [], cards := [], notices := [] }

instance : Inhabited Outbox := ⟨empty⟩

/-- Carry out a plan. -/
def dispatch (outbox : Outbox) (plan : DispatchPlan) : Receipt × Outbox :=
  (.ofPlan plan,
    { inApp := outbox.inApp ++ plan.inAppRules.toList
      cards := outbox.cards ++ plan.cardRules.toList
      notices := outbox.notices ++ (if plan.codeBased.isEmpty then [] else [plan.codeBased]) })

/-- The rules that the in-app engine has now: those given to it last. -/
def inAppRules (outbox : Outbox) : List Rule := outbox.inApp.getLast?.getD []

/-- The rules that the card engine has now. -/
def cardRules (outbox : Outbox) : List Rule := outbox.cards.getLast?.getD []

end Outbox

end Decisioning
