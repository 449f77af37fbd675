import Decisioning.Rule.Compile
import Decisioning.Rule.History

/-!
# Placements

Where a single proposition belongs, and which rules it brings.

A proposition can belong to several images at once, and to each of them once
however many of its items ask for it. Items are looked at in order. The first
card rule of a proposition brings the three history rules with it, unless the
proposition was already placed among the cards by an earlier item.

Ids under which the proposition can be tracked are those of its ruleset items
that compile to a rule, and those of the rules.

## Main definitions

* `Placement`: The images, the rules and the ids of a proposition.
* `Placement.addRule`, `Placement.addItem`: What one rule or item adds.
* `Placement.ofProposition`: All items together.
-/

namespace Decisioning

/-- Where a proposition belongs. -/
structure Placement where
  /-- Among the propositions that are kept across restarts. -/
  persisted : Bool
  /-- Among the content that is used as it is. -/
  codeBased : Bool
  /-- Among the content cards. -/
  card : Bool
  /-- Among the inbox containers. -/
  inbox : Bool
  /-- The rules, in the order in which they are met. -/
  rules : List Rule
  /-- The ids under which the proposition is tracked. -/
  tracked : List String
deriving DecidableEq, Repr

namespace Placement

/-- Nowhere. -/
def empty : Placement :=
  { persisted := false, codeBased := false, card := false, inbox := false, rules := [],
    tracked := [] }

instance : Inhabited Placement := ⟨empty⟩

/-- Add a compiled rule of a proposition with the given activity. -/
def addRule (activity : Option String) (placement : Placement) (rule : Rule) : Placement :=
  let tracked := placement.tracked ++ [rule.id]
  match rule.category with
  | .inApp => { placement with tracked, persisted := true, rules := placement.rules ++ [rule] }
  | .contentCard =>
      let history := if placement.card then [] else rule.historyRules activity
      { placement with
        tracked, card := true, rules := placement.rules ++ history ++ [rule] }
  | .eventHistory => { placement with tracked, rules := placement.rules ++ [rule] }

/-- Add the rules that a ruleset item compiles to. -/
def addRuleset (activity : Option String) (placement : Placement) (item : Item) : Placement :=
  match Rule.compileItem item with
  | [] => placement
  | rules =>
      rules.foldl (addRule activity) { placement with tracked := placement.tracked ++ [item.id] }

/-- Add one item of a proposition with the given activity. -/
def addItem (activity : Option String) (placement : Placement) (item : Item) : Placement :=
  match item.schema with
  | .ruleset => addRuleset activity placement item
  | .htmlContent =>
      { placement with
        codeBased := placement.codeBased || (HtmlContent.ofItem? item).isSome }
  | .jsonContent =>
      { placement with
        codeBased := placement.codeBased || (JsonContent.ofItem? item).isSome }
  | .defaultContent => { placement with codeBased := true }
  | .container => { placement with inbox := placement.inbox || item.data.isObject }
  | .feed | .contentCard =>
      { placement with card := placement.card || (ContentCard.ofData? item.data).isSome }
  | .inApp | .eventHistoryOperation | .nativeAlert | .unknown => placement

/-- Where a proposition belongs. -/
def ofProposition (p : Proposition) : Placement := p.items.foldl (addItem p.activityId?) empty

end Placement

end Decisioning
