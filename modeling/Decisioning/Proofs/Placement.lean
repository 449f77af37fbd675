import Decisioning.Batch.Placement

/-!
# What a Placement Says

A placement read off the items of its proposition.

Items are placed one after another, each on top of what the earlier ones left,
and the rules of an item one after another as well. Most of what comes out does
not show it: the compiled rules of a category stand in item order, and whether
a proposition is persisted or a card only asks whether some item makes it one.
The history rules are the exception. They are added with a card rule only while
the proposition is not yet a card, so their number depends on what came before.

## Main definitions

* `Proposition.compiledRules`: The rules that the ruleset items compile to.
* `compiledIn`: Those of one category, over a list of propositions.
* `rulesIn`: The rules of one category in a list.
* `Item.isRawCard`, `Item.bringsCardRule`: The two ways in which an item makes
  its proposition a card.
* `Placement.historyBefore`: The history rules that come with a compiled rule.

## Theorems

* `Placement.rulesIn_ofProposition`: The rules of the categories that are only
  compiled.
* `Placement.persisted_ofProposition`: What is persisted.
* `Placement.card_addItem`, `card_ofProposition`: How a proposition becomes a
  card.
-/

namespace Decisioning

/-- The rules of one category in a list. -/
def rulesIn (category : RuleCategory) (rules : List Rule) : List Rule :=
  rules.filter fun r => r.category = category

/-- The rules that the ruleset items of a proposition compile to, in item order. -/
def Proposition.compiledRules (p : Proposition) : List Rule := p.items.flatMap Rule.compileItem

/-- The rules of one category that propositions compile to, in order. -/
def compiledIn (category : RuleCategory) (ps : List Proposition) : List Rule :=
  ps.flatMap fun p => rulesIn category p.compiledRules

namespace Item

/-- Whether an item is a card without a ruleset. -/
def isRawCard (item : Item) : Bool :=
  (item.schema = .feed || item.schema = .contentCard) && (ContentCard.ofData? item.data).isSome

/-- Whether an item compiles to a card rule. -/
def bringsCardRule (item : Item) : Bool :=
  (Rule.compileItem item).any fun r => r.category = .contentCard

theorem isRawCard_of_ruleset {item : Item} (h : item.schema = .ruleset) :
    item.isRawCard = false := by
  unfold isRawCard
  rw [h]
  rfl

end Item

theorem rulesIn_append (category : RuleCategory) (rs ts : List Rule) :
    rulesIn category (rs ++ ts) = rulesIn category rs ++ rulesIn category ts :=
  List.filter_append rs ts

/-- What contributes nothing can be left out before. -/
theorem flatMap_filter_of_eq_nil {α β : Type} {f : α → List β} {keep : α → Bool}
    (h : ∀ x, keep x = false → f x = []) (xs : List α) :
    (xs.filter keep).flatMap f = xs.flatMap f := by
  induction xs with
  | nil => rfl
  | cons x rest ih =>
      cases hx : keep x with
      | true => rw [List.filter_cons_of_pos hx, List.flatMap_cons, List.flatMap_cons, ih]
      | false =>
          rw [List.filter_cons_of_neg (by simp only [hx, Bool.false_eq_true, not_false_eq_true]),
            List.flatMap_cons, ih, h x hx, List.nil_append]

/-- Propositions without rules of a category can be left out before compiling. -/
theorem compiledIn_filter {category : RuleCategory} {belongs : Proposition → Bool}
    (h : ∀ p, belongs p = false → rulesIn category p.compiledRules = [])
    (ps : List Proposition) : compiledIn category (ps.filter belongs) = compiledIn category ps :=
  flatMap_filter_of_eq_nil h ps

theorem Rule.compileItem_of_not_ruleset {item : Item} (h : item.schema ≠ .ruleset) :
    Rule.compileItem item = [] := by
  unfold Rule.compileItem RulesetDocument.ofItem?
  rw [if_neg h]

theorem Rule.category_of_mem_historyRules {card r : Rule} {activity : Option String}
    (h : r ∈ card.historyRules activity) : r.category = .eventHistory := by
  simp only [Rule.historyRules, List.mem_cons, List.not_mem_nil, or_false] at h
  rcases h with rfl | rfl | rfl <;> rfl

/-- The history rules of a card are of no other category. -/
theorem rulesIn_historyRules {category : RuleCategory} (h : category ≠ .eventHistory)
    (card : Rule) (activity : Option String) :
    rulesIn category (card.historyRules activity) = [] := by
  rw [rulesIn, List.filter_eq_nil_iff]
  intro r hr hcat
  rw [decide_eq_true_eq, Rule.category_of_mem_historyRules hr] at hcat
  exact h hcat.symm

namespace Placement

variable (activity : Option String)

/-- The history rules that come with a compiled rule: those of a card rule, unless
    the proposition is a card already. -/
def historyBefore (placement : Placement) (rule : Rule) : List Rule :=
  if rule.category = .contentCard && !placement.card then rule.historyRules activity else []

/-- What a rule adds to the rules, whatever its category. -/
theorem rules_addRule (placement : Placement) (rule : Rule) :
    (addRule activity placement rule).rules
      = placement.rules ++ historyBefore activity placement rule ++ [rule] := by
  unfold addRule historyBefore
  cases hcat : rule.category with
  | inApp => simp only [reduceCtorEq, decide_false, Bool.false_and, Bool.false_eq_true,
      ↓reduceIte, List.append_nil]
  | contentCard =>
      cases placement.card with
      | true => simp only [↓reduceIte, Bool.not_true, Bool.and_false, Bool.false_eq_true]
      | false => simp only [decide_true, Bool.false_eq_true, ↓reduceIte, Bool.not_false,
          Bool.and_true]
  | eventHistory => simp only [reduceCtorEq, decide_false, Bool.false_and, Bool.false_eq_true,
      ↓reduceIte, List.append_nil]

theorem card_addRule (placement : Placement) (rule : Rule) :
    (addRule activity placement rule).card
      = (placement.card || decide (rule.category = .contentCard)) := by
  unfold addRule
  cases hcat : rule.category with
  | inApp => simp only [reduceCtorEq, decide_false, Bool.or_false]
  | contentCard => simp only [decide_true, Bool.or_true]
  | eventHistory => simp only [reduceCtorEq, decide_false, Bool.or_false]

theorem persisted_addRule (placement : Placement) (rule : Rule) :
    (addRule activity placement rule).persisted
      = (placement.persisted || decide (rule.category = .inApp)) := by
  unfold addRule
  cases hcat : rule.category with
  | inApp => simp only [decide_true, Bool.or_true]
  | contentCard => simp only [reduceCtorEq, decide_false, Bool.or_false]
  | eventHistory => simp only [reduceCtorEq, decide_false, Bool.or_false]

/-- An item without rules adds nothing, so a ruleset item is a walk over its
    rules either way, up to the id under which it is tracked. -/
theorem addRuleset_eq (placement : Placement) (item : Item) :
    ∃ tracked, addRuleset activity placement item
      = (Rule.compileItem item).foldl (addRule activity) { placement with tracked } := by
  unfold addRuleset
  cases Rule.compileItem item with
  | nil => exact ⟨placement.tracked, rfl⟩
  | cons r rs => exact ⟨placement.tracked ++ [item.id], rfl⟩

/-- Outside rulesets an item only sets flags, and not the one for persistence. -/
theorem addItem_of_not_ruleset (placement : Placement) {item : Item}
    (h : item.schema ≠ .ruleset) :
    (addItem activity placement item).rules = placement.rules
      ∧ (addItem activity placement item).persisted = placement.persisted
      ∧ (addItem activity placement item).card = (placement.card || item.isRawCard) := by
  unfold addItem Item.isRawCard
  cases hschema : item.schema with
  | ruleset => exact absurd hschema h
  | feed => exact ⟨rfl, rfl, rfl⟩
  | contentCard => exact ⟨rfl, rfl, rfl⟩
  | _ => exact ⟨rfl, rfl, (Bool.or_false _).symm⟩

section Compiled

variable {category : RuleCategory} (hcat : category ≠ .eventHistory)
include hcat

theorem rulesIn_addRule (placement : Placement) (rule : Rule) :
    rulesIn category (addRule activity placement rule).rules
      = rulesIn category placement.rules ++ rulesIn category [rule] := by
  rw [rules_addRule, rulesIn_append, rulesIn_append]
  -- What stands before the rule is history, and of another category.
  have hnone : rulesIn category (historyBefore activity placement rule) = [] := by
    unfold historyBefore
    split
    · exact rulesIn_historyRules hcat rule activity
    · rfl
  rw [hnone, List.append_nil]

theorem rulesIn_foldl_addRule (rules : List Rule) (placement : Placement) :
    rulesIn category (rules.foldl (addRule activity) placement).rules
      = rulesIn category placement.rules ++ rulesIn category rules := by
  induction rules generalizing placement with
  | nil => exact (List.append_nil _).symm
  | cons r rest ih =>
      rw [List.foldl_cons, ih, rulesIn_addRule activity hcat, List.append_assoc,
        ← rulesIn_append, List.singleton_append]

theorem rulesIn_addItem (placement : Placement) (item : Item) :
    rulesIn category (addItem activity placement item).rules
      = rulesIn category placement.rules ++ rulesIn category (Rule.compileItem item) := by
  by_cases hschema : item.schema = .ruleset
  · rcases addRuleset_eq activity placement item with ⟨tracked, heq⟩
    simp only [addItem, hschema, heq]
    exact rulesIn_foldl_addRule activity hcat _ _
  · -- Any other item leaves the rules alone and compiles to none.
    rw [Rule.compileItem_of_not_ruleset hschema,
      (addItem_of_not_ruleset activity placement hschema).1]
    exact (List.append_nil _).symm

/-- The rules of a category that history rules do not belong to are the compiled
    ones, in item order. -/
theorem rulesIn_ofProposition (p : Proposition) :
    rulesIn category (ofProposition p).rules = rulesIn category p.compiledRules := by
  -- Over all placements to start from, as each item changes it.
  have hfold : ∀ (items : List Item) (placement : Placement),
      rulesIn category (items.foldl (addItem p.activityId?) placement).rules
        = rulesIn category placement.rules
          ++ rulesIn category (items.flatMap Rule.compileItem) := by
    intro items
    induction items with
    | nil => intro placement; exact (List.append_nil _).symm
    | cons item rest ih =>
        intro placement
        rw [List.foldl_cons, ih, rulesIn_addItem _ hcat, List.append_assoc, List.flatMap_cons,
          rulesIn_append]
  exact hfold p.items empty

end Compiled

theorem persisted_foldl_addRule (rules : List Rule) (placement : Placement) :
    (rules.foldl (addRule activity) placement).persisted
      = (placement.persisted || rules.any fun r => r.category = .inApp) := by
  induction rules generalizing placement with
  | nil => exact (Bool.or_false _).symm
  | cons r rest ih => rw [List.foldl_cons, ih, persisted_addRule, List.any_cons, Bool.or_assoc]

theorem card_foldl_addRule (rules : List Rule) (placement : Placement) :
    (rules.foldl (addRule activity) placement).card
      = (placement.card || rules.any fun r => r.category = .contentCard) := by
  induction rules generalizing placement with
  | nil => exact (Bool.or_false _).symm
  | cons r rest ih => rw [List.foldl_cons, ih, card_addRule, List.any_cons, Bool.or_assoc]

theorem persisted_addItem (placement : Placement) (item : Item) :
    (addItem activity placement item).persisted
      = (placement.persisted || (Rule.compileItem item).any fun r => r.category = .inApp) := by
  by_cases hschema : item.schema = .ruleset
  · rcases addRuleset_eq activity placement item with ⟨tracked, heq⟩
    simp only [addItem, hschema, heq]
    exact persisted_foldl_addRule activity _ _
  · rw [Rule.compileItem_of_not_ruleset hschema,
      (addItem_of_not_ruleset activity placement hschema).2.1]
    exact (Bool.or_false _).symm

/-- An item makes its proposition a card in one of two ways. -/
theorem card_addItem (placement : Placement) (item : Item) :
    (addItem activity placement item).card
      = (placement.card || (item.isRawCard || item.bringsCardRule)) := by
  unfold Item.bringsCardRule
  by_cases hschema : item.schema = .ruleset
  · rcases addRuleset_eq activity placement item with ⟨tracked, heq⟩
    rw [Item.isRawCard_of_ruleset hschema, Bool.false_or]
    simp only [addItem, hschema, heq]
    exact card_foldl_addRule activity _ _
  · rw [Rule.compileItem_of_not_ruleset hschema,
      (addItem_of_not_ruleset activity placement hschema).2.2, List.any_nil, Bool.or_false]

/-- A proposition is persisted if some rule of it is an in-app rule. -/
theorem persisted_ofProposition (p : Proposition) :
    (ofProposition p).persisted = p.compiledRules.any fun r => r.category = .inApp := by
  have hfold : ∀ (items : List Item) (placement : Placement),
      (items.foldl (addItem p.activityId?) placement).persisted
        = (placement.persisted
          || (items.flatMap Rule.compileItem).any fun r => r.category = .inApp) := by
    intro items
    induction items with
    | nil => intro placement; exact (Bool.or_false _).symm
    | cons item rest ih =>
        intro placement
        rw [List.foldl_cons, ih, persisted_addItem, List.flatMap_cons, List.any_append,
          Bool.or_assoc]
  exact hfold p.items empty

/-- A proposition is a card if some item of it makes it one. -/
theorem card_ofProposition (p : Proposition) :
    (ofProposition p).card = p.items.any fun item => item.isRawCard || item.bringsCardRule := by
  have hfold : ∀ (items : List Item) (placement : Placement),
      (items.foldl (addItem p.activityId?) placement).card
        = (placement.card || items.any fun item => item.isRawCard || item.bringsCardRule) := by
    intro items
    induction items with
    | nil => intro placement; exact (Bool.or_false _).symm
    | cons item rest ih =>
        intro placement
        rw [List.foldl_cons, ih, card_addItem, List.any_cons, Bool.or_assoc]
  exact hfold p.items empty

/-- A proposition that is not persisted has no in-app rule. -/
theorem rulesIn_inApp_of_not_persisted {p : Proposition}
    (h : (ofProposition p).persisted = false) : rulesIn .inApp p.compiledRules = [] := by
  rw [persisted_ofProposition, List.any_eq_false] at h
  rw [rulesIn, List.filter_eq_nil_iff]
  exact h

end Placement

end Decisioning
