import Decisioning.Proofs.Tracking

/-!
# Clean Images

The image of a batch has nothing in it that is not about a requested surface.

The image is filled by pushes: a list comes into being with its first value, a rule
with the item that compiles to it, a record with the rules of its item. So a surface
occurs in a store if it was requested and some proposition for it belongs there, and
this one description of the surfaces settles how the stores go together. What
persists a proposition is an in-app rule of it, so the two have the same surfaces. A
card rule makes its proposition a card, while a card may have no rule at all, so the
surfaces of card rules are only among those of cards.

That an image brought rules is asked in three ways, by looking for a list that is not
empty, by counting, and by the records. They agree because a proposition is tracked
as soon as one of its items compiles, and the history rules of a card only come with
a compiled rule.

## Main definitions

* `BatchImage.IsCleanFor`: The image has nothing that the request and the batch do not
  account for.

## Theorems

* `Placement.rules_ofProposition_eq_nil_iff`: Rules come from compiled rules.
* `BatchImage.contains_store_ofBatch`, `contains_rules_ofBatch`: The surfaces of the
  stores.
* `BatchImage.surfaces_inApp_ofBatch`, `contains_cards_of_contentCard`: How the surfaces
  of rules and propositions go together.
* `BatchImage.hasRules_ofBatch`, `tracking_ofBatch_eq_empty_iff`: When there are rules
  and records.
* `BatchImage.isEmpty_ofBatch_iff`: When there is nothing.
* `BatchImage.isCleanFor_ofBatch`: All of this for every batch.
-/

namespace Decisioning

universe u

namespace SurfaceStore

variable {α : Type u}

/-- Some list of a store has a value if values are counted. -/
theorem any_values_iff (store : SurfaceStore α) :
    (store.lists.values.any fun values => !values.isEmpty) = true ↔ 0 < store.count := by
  rw [count, flatten, List.length_pos_iff, ne_eq, List.flatten_eq_nil_iff, List.any_eq_true]
  simp only [Bool.not_eq_true', List.isEmpty_eq_false_iff, Classical.not_forall, exists_prop, ne_eq]

theorem count_pos_iff (store : SurfaceStore α) : 0 < store.count ↔ ∃ s, store.get s ≠ [] := by
  rw [Nat.pos_iff_ne_zero, ne_eq, count_eq_zero_iff, Classical.not_forall]

theorem surfaces_congr {β : Type u} {store : SurfaceStore α} {other : SurfaceStore β}
    (h : ∀ s, store.contains s = true ↔ other.contains s = true) :
    store.surfaces = other.surfaces := by
  refine eq_of_increasing store.surfaces_sorted other.surfaces_sorted fun s => ?_
  rw [mem_surfaces, mem_surfaces, h]

end SurfaceStore

namespace Placement

variable (activity : Option String)

theorem rules_foldl_addRule_eq_nil_iff (rules : List Rule) (placement : Placement) :
    (rules.foldl (addRule activity) placement).rules = [] ↔ placement.rules = [] ∧ rules = [] := by
  induction rules generalizing placement with
  | nil => simp only [List.foldl_nil, and_true]
  | cons r rest ih =>
      rw [List.foldl_cons, ih, rules_addRule]
      simp only [List.append_eq_nil_iff, List.cons_ne_nil, and_false, false_and]

theorem rules_addItem_eq_nil_iff (placement : Placement) (item : Item) :
    (addItem activity placement item).rules = []
      ↔ placement.rules = [] ∧ Rule.compileItem item = [] := by
  by_cases hschema : item.schema = .ruleset
  · rcases addRuleset_eq activity placement item with ⟨tracked, heq⟩
    simp only [addItem, hschema, heq]
    exact rules_foldl_addRule_eq_nil_iff activity _ _
  · rw [(addItem_of_not_ruleset activity placement hschema).1,
      Rule.compileItem_of_not_ruleset hschema]
    exact (and_iff_left rfl).symm

/-- A proposition brings rules if some item compiles to one. The history rules come
    with a compiled rule. -/
theorem rules_ofProposition_eq_nil_iff (p : Proposition) :
    (ofProposition p).rules = [] ↔ p.compiledRules = [] := by
  -- The walk starts from nothing, and the induction needs any placement to start from.
  have hfold : ∀ (items : List Item) (placement : Placement),
      (items.foldl (addItem p.activityId?) placement).rules = []
        ↔ placement.rules = [] ∧ items.flatMap Rule.compileItem = [] := by
    intro items
    induction items with
    | nil => intro placement; exact (and_iff_left rfl).symm
    | cons item rest ih =>
        intro placement
        rw [List.foldl_cons, ih, rules_addItem_eq_nil_iff, List.flatMap_cons,
          List.append_eq_nil_iff, and_assoc]
  exact (hfold p.items empty).trans (and_iff_right rfl)

end Placement

theorem Item.trackingIds_eq_nil_iff (item : Item) :
    item.trackingIds = [] ↔ Rule.compileItem item = [] := by
  unfold trackingIds
  cases Rule.compileItem item with
  | nil => exact iff_of_true rfl rfl
  | cons r rest => simp only [reduceCtorEq]

theorem Proposition.trackingIds_eq_nil_iff (p : Proposition) :
    p.trackingIds = [] ↔ p.compiledRules = [] := by
  rw [trackingIds, compiledRules, List.flatMap_eq_nil_iff, List.flatMap_eq_nil_iff]
  exact forall₂_congr fun item _ => item.trackingIds_eq_nil_iff

theorem rulesIn_ne_nil_iff {category : RuleCategory} {rules : List Rule} :
    rulesIn category rules ≠ [] ↔ ∃ r ∈ rules, r.category = category := by
  simp only [rulesIn, ne_eq, List.filter_eq_nil_iff, decide_eq_true_eq, Classical.not_forall,
    Classical.not_not, exists_prop]

namespace BatchImage

variable (propositions : List Proposition) (requested : SurfaceSet)

/-- A surface has propositions of a kind if it was requested and one of those for it
    belongs there. -/
theorem contains_store_ofBatch (kind : ContentKind) (s : Surface) :
    ((ofBatch propositions requested).store kind).contains s = true
      ↔ s ∈ requested ∧ ∃ q ∈ propositions, q.surface = s
        ∧ (Placement.ofProposition q).belongs kind = true := by
  rw [((holdsContent_ofBatch propositions requested).store kind).contains_iff, get_store_ofBatch]
  by_cases hs : requested.contains s = true
  · rw [if_pos hs, and_iff_right (show s ∈ requested from hs)]
    simp only [ne_eq, List.filter_eq_nil_iff, mem_rankedAt, Classical.not_forall, Classical.not_not,
      exists_prop, and_assoc]
  · rw [if_neg hs]
    exact iff_of_false (fun hne => hne rfl) (fun h => hs h.1)

/-- A surface has rules of a category if it was requested and a proposition for it
    brings one. -/
theorem contains_rules_ofBatch (category : RuleCategory) (s : Surface) :
    ((ofBatch propositions requested).rules.get category).contains s = true
      ↔ s ∈ requested ∧ ∃ q ∈ propositions, q.surface = s
        ∧ ∃ r ∈ (Placement.ofProposition q).rules, r.category = category := by
  rw [((holdsContent_ofBatch propositions requested).rules category).contains_iff,
    get_rules_ofBatch]
  by_cases hs : requested.contains s = true
  · rw [if_pos hs, and_iff_right (show s ∈ requested from hs), ne_eq, List.flatMap_eq_nil_iff]
    simp only [Classical.not_forall, exists_prop, mem_rankedAt, and_assoc, ← ne_eq,
      rulesIn_ne_nil_iff]
  · rw [if_neg hs]
    exact iff_of_false (fun hne => hne rfl) (fun h => hs h.1)

/-- An in-app rule is what persists its proposition. -/
theorem surfaces_inApp_ofBatch :
    (ofBatch propositions requested).rules.inApp.surfaces
      = (ofBatch propositions requested).persisted.surfaces := by
  refine SurfaceStore.surfaces_congr fun s => ?_
  change ((ofBatch propositions requested).rules.get .inApp).contains s = true
    ↔ ((ofBatch propositions requested).store .persisted).contains s = true
  rw [contains_rules_ofBatch, contains_store_ofBatch]
  -- What is left is about one proposition: it brings such a rule if it belongs there.
  refine and_congr_right' (exists_congr fun q => and_congr_right' (and_congr_right' ?_))
  rw [← rulesIn_ne_nil_iff, Placement.rulesIn_ofProposition (by decide), rulesIn_ne_nil_iff,
    Placement.belongs, Placement.persisted_ofProposition, List.any_eq_true]
  simp only [decide_eq_true_eq]

/-- A card rule makes its proposition a card. -/
theorem contains_cards_of_contentCard {s : Surface}
    (h : (ofBatch propositions requested).rules.contentCard.contains s = true) :
    (ofBatch propositions requested).cards.contains s = true := by
  rcases (contains_rules_ofBatch propositions requested .contentCard s).mp h with
    ⟨hs, q, hq, hsurface, hrule⟩
  refine (contains_store_ofBatch propositions requested .cards s).mpr ⟨hs, q, hq, hsurface, ?_⟩
  rw [← rulesIn_ne_nil_iff, Placement.rulesIn_ofProposition (by decide)] at hrule
  rw [Placement.belongs, ← Bool.not_eq_false]
  exact fun hcard => hrule (Placement.rulesIn_contentCard_of_not_card hcard)

theorem hasRules_iff_ruleCount (image : BatchImage) :
    image.hasRules = true ↔ ∃ category, 0 < image.ruleCount category := by
  rw [hasRules, List.any_eq_true]
  simp only [SurfaceStore.any_values_iff, ruleCount]
  -- All categories are looked at.
  refine exists_congr fun category => and_iff_right ?_
  cases category <;> decide

/-- An image has rules if a proposition in scope has an item that compiles to one. -/
theorem hasRules_ofBatch :
    (ofBatch propositions requested).hasRules = true
      ↔ ∃ q ∈ inScope propositions requested, q.compiledRules ≠ [] := by
  rw [hasRules_iff_ruleCount]
  simp only [ruleCount, SurfaceStore.count_pos_iff,
    ← ((holdsContent_ofBatch propositions requested).rules _).contains_iff,
    contains_rules_ofBatch, mem_inScope]
  constructor
  · rintro ⟨category, s, hs, q, hq, rfl, r, hr, _⟩
    refine ⟨q, ⟨hq, hs⟩, ?_⟩
    rw [ne_eq, ← Placement.rules_ofProposition_eq_nil_iff]
    exact List.ne_nil_of_mem hr
  · rintro ⟨q, ⟨hq, hs⟩, hrules⟩
    rw [ne_eq, ← Placement.rules_ofProposition_eq_nil_iff] at hrules
    rcases List.exists_mem_of_ne_nil _ hrules with ⟨r, hr⟩
    exact ⟨r.category, q.surface, hs, q, hq, rfl, r, hr, rfl⟩

/-- An image has no records if no proposition in scope has an item that compiles. -/
theorem tracking_ofBatch_eq_empty_iff :
    (ofBatch propositions requested).tracking = .empty
      ↔ ∀ q ∈ inScope propositions requested, q.compiledRules = [] := by
  -- An index is empty if no id is found in it.
  have hnone : (ofBatch propositions requested).tracking = .empty
      ↔ ∀ id, lastTracked? id (inScope propositions requested) = none := by
    constructor
    · intro h id
      rw [← Option.map_eq_none_iff, ← get?_tracking_ofBatch, h]
      rfl
    · intro h
      refine SortedMap.ext_get? fun id => ?_
      rw [get?_tracking_ofBatch, h]
      rfl
  rw [hnone]
  simp only [lastTracked?_eq_none_iff]
  constructor
  · intro h q hq
    rw [← q.trackingIds_eq_nil_iff, List.eq_nil_iff_forall_not_mem]
    exact fun id => h id q hq
  · intro h id q hq
    rw [q.trackingIds_eq_nil_iff.mpr (h q hq)]
    exact List.not_mem_nil

theorem hasRules_iff_tracking :
    (ofBatch propositions requested).hasRules = true
      ↔ (ofBatch propositions requested).tracking ≠ .empty := by
  rw [hasRules_ofBatch, ne_eq, tracking_ofBatch_eq_empty_iff]
  simp only [Classical.not_forall, exists_prop, ne_eq]

/-- Without rules in any category the stores of rules are empty. -/
theorem HoldsContent.rules_eq_empty {image : BatchImage} (h : image.HoldsContent)
    (hrules : image.hasRules = false) : image.rules = .empty := by
  refine RuleStores.ext_get fun category => ?_
  have hempty : (RuleStores.empty.get category).HoldsContent := holdsContent_empty.rules category
  refine SurfaceStore.ext_get (h.rules category) hempty fun s => ?_
  have hnone : ¬∃ category, 0 < image.ruleCount category := by
    rw [← hasRules_iff_ruleCount, hrules]
    exact Bool.false_ne_true
  have hcount : image.ruleCount category = 0 :=
    Nat.eq_zero_of_not_pos fun hpos => hnone ⟨category, hpos⟩
  rw [ruleCount, SurfaceStore.count_eq_zero_iff] at hcount
  rw [hcount s]
  cases category <;> rfl

/-- An image is empty if it has nothing at all, not even a record. That it has none
    is not looked at, but there are no records without rules. -/
theorem isEmpty_ofBatch_iff :
    (ofBatch propositions requested).isEmpty = true ↔ ofBatch propositions requested = .empty := by
  constructor
  · intro h
    simp only [isEmpty, Bool.and_eq_true, Bool.not_eq_true', SurfaceStore.isEmpty_iff] at h
    rcases h with ⟨⟨⟨⟨hrules, hcodeBased⟩, hpersisted⟩, hcards⟩, hinbox⟩
    have hstores := (holdsContent_ofBatch propositions requested).rules_eq_empty hrules
    have htracking : (ofBatch propositions requested).tracking = .empty := by
      rw [← Decidable.not_not (p := _ = _), ← ne_eq, ← hasRules_iff_tracking, hrules]
      exact Bool.false_ne_true
    -- Each of the six parts is empty, and what the image was made from is of no interest.
    clear hrules
    generalize ofBatch propositions requested = image at *
    cases image
    simp only at hstores htracking hcodeBased hpersisted hcards hinbox
    rw [hstores, htracking, hcodeBased, hpersisted, hcards, hinbox]
    rfl
  · intro h
    rw [h]
    decide

/-- The image has nothing that the request and the batch do not account for. -/
structure IsCleanFor (image : BatchImage) : Prop where
  /-- Surfaces with propositions were requested, and have some. -/
  store_held : ∀ kind s ps, (image.store kind).held? s = some ps → s ∈ requested ∧ ps ≠ []
  /-- Surfaces with rules were requested, and have some. -/
  rules_held : ∀ category s rules, (image.rules.get category).held? s = some rules →
    s ∈ requested ∧ rules ≠ []
  /-- The surfaces with in-app rules are those with persisted propositions. -/
  inApp_surfaces : image.rules.inApp.surfaces = image.persisted.surfaces
  /-- The surfaces with card rules are among those with cards. -/
  card_surfaces : ∀ s ∈ image.rules.contentCard.surfaces, s ∈ image.cards.surfaces
  /-- There are rules if those of some category are counted. -/
  rules_counted : image.hasRules = true ↔ ∃ category, 0 < image.ruleCount category
  /-- There are rules if there are records. -/
  rules_tracked : image.hasRules = true ↔ image.tracking.isEmpty = false
  /-- An image without content is the image of nothing. -/
  empty_iff : image.isEmpty = true ↔ image = .empty
  /-- A record is that of a proposition for a requested surface. -/
  tracked_in_scope : ∀ id record, image.tracking.get? id = some record →
    ∃ q ∈ propositions, q.surface ∈ requested ∧ id ∈ q.trackingIds ∧ record = .ofProposition q

/-- The image of a batch is clean, whatever propositions arrive for whatever request:
    propositions without content, for other surfaces or with items that do not compile,
    in any order. Every list is about a requested surface and has something in it, the
    rules go with the propositions, the three ways of asking for rules agree, an image
    that counts as empty is the empty one, and every record is that of a proposition
    for a requested surface, under an id of its items and rules. -/
theorem isCleanFor_ofBatch :
    (ofBatch propositions requested).IsCleanFor propositions requested := by
  have hcontent := holdsContent_ofBatch propositions requested
  constructor
  case store_held =>
    -- An image has a list exactly where there is content, and then it is not empty.
    intro kind s ps hheld
    have hcontains : ((ofBatch propositions requested).store kind).contains s = true := by
      rw [SurfaceStore.contains_eq_held?, hheld, Option.isSome_some]
    refine ⟨((contains_store_ofBatch propositions requested kind s).mp hcontains).1, ?_⟩
    exact fun hnil => hcontent.store kind s (hnil ▸ hheld)
  case rules_held =>
    intro category s rules hheld
    have hcontains : ((ofBatch propositions requested).rules.get category).contains s = true := by
      rw [SurfaceStore.contains_eq_held?, hheld, Option.isSome_some]
    refine ⟨((contains_rules_ofBatch propositions requested category s).mp hcontains).1, ?_⟩
    exact fun hnil => hcontent.rules category s (hnil ▸ hheld)
  case inApp_surfaces => exact surfaces_inApp_ofBatch propositions requested
  case card_surfaces =>
    intro s hs
    rw [SurfaceStore.mem_surfaces] at hs ⊢
    exact contains_cards_of_contentCard propositions requested hs
  case rules_counted => exact hasRules_iff_ruleCount _
  case rules_tracked =>
    rw [hasRules_iff_tracking, ne_eq, ← SortedMap.isEmpty_iff, Bool.not_eq_true]
  case empty_iff => exact isEmpty_ofBatch_iff propositions requested
  case tracked_in_scope =>
    -- A record is that of the last proposition in scope that is known by the id.
    intro id record hrecord
    rw [get?_tracking_ofBatch, Option.map_eq_some_iff] at hrecord
    rcases hrecord with ⟨q, hlast, rfl⟩
    rcases mem_of_lastTracked? hlast with ⟨hq, hid⟩
    rcases mem_inScope.mp hq with ⟨hmem, hs⟩
    exact ⟨q, hmem, hs, hid, rfl⟩

end BatchImage

end Decisioning
