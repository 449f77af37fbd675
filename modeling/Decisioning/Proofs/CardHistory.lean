import Decisioning.Proofs.BatchImage

/-!
# History Rules of Cards

How many history rules a batch brings to a surface.

A proposition with a card rule should bring three of them. It does, however
many card rules it has, as the first one marks it as a card. But a card without
a ruleset marks it just the same, so when such an item stands in front of the
first card rule, the three rules are left out and the card is not followed in
event history. Such a proposition is `isOvertaken`, and nothing else is missed:
the rules of a batch are as many as they should be, less three for each of these.

## Main definitions

* `historyCount`: The number of history rules among rules.
* `Proposition.hasCardRule`: Whether a card rule is compiled from its items.
* `Proposition.isOvertaken`: Whether a raw card stands in front of that rule.

## Theorems

* `Placement.historyCount_ofProposition`: The history rules of a proposition.
* `BatchImage.history_rules_count`: The history rules of a surface, and when they
  are three for each card.
* `BatchImage.overtaken_card_has_no_history`: A card without history rules.
-/

namespace Decisioning

/-- The number of history rules. -/
def historyCount (rules : List Rule) : Nat := (rulesIn .eventHistory rules).length

theorem historyCount_append (rs ts : List Rule) :
    historyCount (rs ++ ts) = historyCount rs + historyCount ts := by
  rw [historyCount, rulesIn_append, List.length_append]
  rfl

theorem historyCount_cons (r : Rule) (rs : List Rule) :
    historyCount (r :: rs) = historyCount [r] + historyCount rs :=
  historyCount_append [r] rs

theorem historyCount_historyRules (card : Rule) (activity : Option String) :
    historyCount (card.historyRules activity) = 3 := rfl

/-- Whether a card rule is compiled from the items of a proposition. -/
def Proposition.hasCardRule (p : Proposition) : Bool :=
  p.compiledRules.any fun r => r.category = .contentCard

/-- Whether a card without a ruleset stands in front of the first item that a card
    rule is compiled from. -/
def Proposition.isOvertaken (p : Proposition) : Bool :=
  p.hasCardRule && (p.items.takeWhile fun item => !item.bringsCardRule).any Item.isRawCard

theorem Proposition.hasCardRule_eq (p : Proposition) :
    p.hasCardRule = p.items.any Item.bringsCardRule := by
  rw [hasCardRule, compiledRules, List.any_flatMap]
  rfl

namespace Placement

variable (activity : Option String)

/-- A rule adds itself and, if it is the first of a card, three history rules. -/
theorem historyCount_addRule (placement : Placement) (rule : Rule) :
    historyCount (addRule activity placement rule).rules
      = historyCount placement.rules + historyCount [rule]
        + if rule.category = .contentCard && !placement.card then 3 else 0 := by
  rw [rules_addRule, historyCount_append, historyCount_append, historyBefore]
  split
  · rw [historyCount_historyRules]
    omega
  · change _ + 0 + _ = _
    omega

theorem historyCount_foldl_addRule (rules : List Rule) (placement : Placement) :
    historyCount (rules.foldl (addRule activity) placement).rules
      = historyCount placement.rules + historyCount rules
        + if (rules.any fun r => r.category = .contentCard) && !placement.card then 3 else 0 := by
  induction rules generalizing placement with
  | nil => rfl
  | cons r rest ih =>
      rw [List.foldl_cons, ih, historyCount_addRule, card_addRule, historyCount_cons r rest,
        List.any_cons]
      -- After a card rule the proposition is a card, so no later rule counts again.
      cases decide (r.category = .contentCard) <;> cases placement.card <;> simp <;> omega

theorem historyCount_addItem (placement : Placement) (item : Item) :
    historyCount (addItem activity placement item).rules
      = historyCount placement.rules + historyCount (Rule.compileItem item)
        + if item.bringsCardRule && !placement.card then 3 else 0 := by
  unfold Item.bringsCardRule
  by_cases hschema : item.schema = .ruleset
  · rcases addRuleset_eq activity placement item with ⟨tracked, heq⟩
    simp only [addItem, hschema, heq]
    exact historyCount_foldl_addRule activity _ _
  · rw [Rule.compileItem_of_not_ruleset hschema,
      (addItem_of_not_ruleset activity placement hschema).1]
    rfl

/-- A walk over items brings three history rules if it starts before the
    proposition is a card and meets a card rule before any raw card. -/
theorem historyCount_foldl_addItem (items : List Item) (placement : Placement) :
    historyCount (items.foldl (addItem activity) placement).rules
      = historyCount placement.rules + historyCount (items.flatMap Rule.compileItem)
        + if !placement.card && (items.any Item.bringsCardRule
            && !(items.takeWhile fun item => !item.bringsCardRule).any Item.isRawCard)
          then 3 else 0 := by
  induction items generalizing placement with
  | nil =>
      simp only [List.foldl_nil, List.flatMap_nil, List.any_nil, Bool.false_and, Bool.and_false,
        Bool.false_eq_true, ↓reduceIte]
      rfl
  | cons item rest ih =>
      rw [List.foldl_cons, ih, historyCount_addItem, card_addItem, List.flatMap_cons,
        historyCount_append, List.any_cons, List.takeWhile_cons]
      cases hbrings : item.bringsCardRule with
      | true =>
          -- The item itself decides, and the rest finds a card.
          simp only [Bool.or_true, Bool.not_true, Bool.false_and, Bool.true_and, Bool.true_or,
            Bool.false_eq_true, ↓reduceIte, List.any_nil, Bool.not_false, Bool.and_true]
          omega
      | false =>
          simp only [Bool.or_false, Bool.not_false, Bool.false_and, Bool.false_or,
            Bool.false_eq_true, ↓reduceIte, List.any_cons, Bool.not_or]
          cases placement.card <;> cases item.isRawCard <;> simp <;> omega

/-- The history rules of a proposition: those that are compiled, and three more if
    it has a card rule and is not overtaken. -/
theorem historyCount_ofProposition (p : Proposition) :
    historyCount (ofProposition p).rules + 3 * (if p.isOvertaken then 1 else 0)
      = historyCount p.compiledRules + 3 * if p.hasCardRule then 1 else 0 := by
  have hwalk := historyCount_foldl_addItem p.activityId? p.items empty
  rw [← p.hasCardRule_eq] at hwalk
  have hzero : historyCount empty.rules = 0 := rfl
  have hcard : empty.card = false := rfl
  rw [hzero, hcard] at hwalk
  rw [ofProposition, hwalk, Proposition.isOvertaken, Proposition.compiledRules]
  cases p.hasCardRule <;>
    cases (p.items.takeWhile fun item => !item.bringsCardRule).any Item.isRawCard <;>
    simp

end Placement

namespace BatchImage

/-- The history rules of a list of propositions together. -/
theorem length_flatMap_history (ps : List Proposition) :
    (ps.flatMap fun p => rulesIn .eventHistory (Placement.ofProposition p).rules).length
        + 3 * ps.countP Proposition.isOvertaken
      = (ps.flatMap fun p => rulesIn .eventHistory p.compiledRules).length
        + 3 * ps.countP Proposition.hasCardRule := by
  induction ps with
  | nil => rfl
  | cons p rest ih =>
      have hp := Placement.historyCount_ofProposition p
      unfold historyCount at hp
      rw [List.flatMap_cons, List.flatMap_cons, List.length_append, List.length_append,
        List.countP_cons, List.countP_cons]
      omega

/-- The history rules at a requested surface are those that are compiled from its
    propositions, and three for each proposition with a card rule, except for the
    overtaken ones. So they are three for each card exactly if no proposition of
    the surface is overtaken. -/
theorem history_rules_count (propositions : List Proposition) {requested : SurfaceSet}
    {s : Surface} (hs : requested.contains s = true) :
    let mine := propositions.filter fun p => p.surface = s
    let count := ((ofBatch propositions requested).rules.eventHistory.get s).length
    let compiled := (mine.flatMap fun p => rulesIn .eventHistory p.compiledRules).length
    let cards := mine.countP Proposition.hasCardRule
    count + 3 * mine.countP Proposition.isOvertaken = compiled + 3 * cards
      ∧ (count = compiled + 3 * cards ↔ ∀ p ∈ mine, p.isOvertaken = false) := by
  intro mine count compiled cards
  have hperm : (rankedAt s propositions).Perm mine := List.mergeSort_perm mine _
  have hcount : count + 3 * mine.countP Proposition.isOvertaken = compiled + 3 * cards := by
    have hget := get_rules_ofBatch propositions requested .eventHistory s
    rw [if_pos hs] at hget
    -- Ranks decide the order of the rules, but not how many there are.
    have hranked := length_flatMap_history (rankedAt s propositions)
    rw [← hget, hperm.countP_eq, hperm.countP_eq, (hperm.flatMap_right _).length_eq] at hranked
    exact hranked
  refine ⟨hcount, ?_⟩
  have hnone : mine.countP Proposition.isOvertaken = 0 ↔ ∀ p ∈ mine, p.isOvertaken = false := by
    rw [List.countP_eq_zero]
    simp only [Bool.not_eq_true]
  rw [← hnone]
  omega

/-- A card without a ruleset. -/
def rawCard : Item :=
  .unowned "raw" .contentCard
    (.obj [("content", .str "A card."), ("contentType", .str "text/plain")])

/-- A ruleset with one card rule. -/
def cardRuleset : Item :=
  .unowned "ruleset" .ruleset (.obj [("rules", .arr [.obj [
    ("condition", .obj []),
    ("consequences", .arr [.obj [
      ("detail", .obj [
        ("data", .obj [("content", .str "A card."), ("contentType", .str "text/plain")]),
        ("schema", .str ContentSchema.contentCard.uri)]),
      ("id", .str "card")]])]])])

/-- A proposition with a card rule that brings no history rules, because a raw card
    stands in front of it. With the same items in the other order it brings
    three. -/
theorem overtaken_card_has_no_history :
    let s : Surface := ⟨"mobileapp://app/cards"⟩
    let p := Proposition.build "proposition" s.uri [] [rawCard, cardRuleset]
    let q := Proposition.build "proposition" s.uri [] [cardRuleset, rawCard]
    ((ofBatch [p] (.ofList [s])).rules.eventHistory.get s).length = 0
      ∧ ([p].flatMap fun r => rulesIn .eventHistory r.compiledRules).length
          + 3 * [p].countP Proposition.hasCardRule = 3
      ∧ ((ofBatch [q] (.ofList [s])).rules.eventHistory.get s).length = 3 := by
  decide +kernel

/-- Of two cards at a surface, only the one that is not overtaken has history
    rules. -/
theorem history_rules_count_of_two_cards :
    let s : Surface := ⟨"mobileapp://app/cards"⟩
    let overtaken := Proposition.build "first" s.uri [] [rawCard, cardRuleset]
    let followed := Proposition.build "second" s.uri [] [cardRuleset, rawCard]
    ((ofBatch [overtaken, followed] (.ofList [s])).rules.eventHistory.get s).length + 3 * 1
        = 0 + 3 * 2
      ∧ overtaken.isOvertaken = true := by
  intro s overtaken followed
  have hs : (SurfaceSet.ofList [s]).contains s = true := by decide +kernel
  exact ⟨(history_rules_count [overtaken, followed] hs).1, by decide +kernel⟩

end BatchImage

end Decisioning
