import Decisioning.Proofs.BatchImage

/-!
# Rules That Recompile

Why a rule comes back from the document that an engine is given.

A rule is written for an engine as a document of the language it was compiled
from, without its category. Whoever compiles the document finds the category
again from the consequence, and takes the rule only if condition, detail and data
are as they have to be. So being recovered is a property of the rule alone,
`IsSound`: it is what the compiler has checked, said of the result. Consequences of
the legacy type are the exception, as their data was never looked at.

Compiled rules are sound, since the compiler made these checks on parts that it
then keeps. The history rules of a card were not compiled from anything. They take
their condition from the card or have one of their own, and all the rest of them
is fixed but for texts that nothing depends on.

## Main definitions

* `Rule.IsSound`: What the compiler asks of a rule.
* `RuleStores.AreSound`: All rules in stores are sound and of their category.

## Theorems

* `Consequence.category?_eq_some_iff`: When a consequence has a category.
* `Rule.compile_document_iff`: The rules that come back are the sound ones.
* `Rule.isSound_of_mem_compile`: Compiled rules are sound.
* `Rule.compile_documents_of_isSound`: Sound rules come back, in order.
* `Rule.isSound_of_mem_historyRules`: So are the history rules of a card.
* `BatchImage.areSound_ofBatch`: All rules of a batch are sound.
-/

namespace Decisioning

namespace Consequence

/-- A consequence has a category if it is of the legacy type, or if its schema has
    that category and its data is what the category carries. -/
theorem category?_eq_some_iff (c : Consequence) (category : RuleCategory) :
    c.category? = some category
      ↔ if c.type = legacyInAppType then category = .inApp
        else RuleCategory.ofSchema? c.schema = some category
          ∧ ∃ data, c.data? = some data ∧ category.accepts data = true := by
  unfold category?
  by_cases hlegacy : c.type = legacyInAppType
  · rw [if_pos hlegacy, if_pos hlegacy, Option.some.injEq]
    exact eq_comm
  · rw [if_neg hlegacy, if_neg hlegacy]
    -- The schema decides on the category, and the data on whether it is used.
    cases hschema : RuleCategory.ofSchema? c.schema with
    | none => simp only [bind, Option.bind_none, reduceCtorEq, false_and]
    | some found =>
        cases hdata : c.data? with
        | none => simp only [bind, Option.bind_none, Option.bind_some, reduceCtorEq, false_and,
            exists_false, and_false]
        | some data =>
            simp only [bind, Option.bind_some, Option.some.injEq, exists_eq_left']
            by_cases haccepts : found.accepts data = true
            · rw [if_pos haccepts, Option.some.injEq]
              constructor
              · rintro rfl
                exact ⟨rfl, haccepts⟩
              · exact fun h => h.1
            · rw [if_neg haccepts]
              constructor
              · intro h
                exact absurd h (by simp only [reduceCtorEq, not_false_eq_true])
              · rintro ⟨rfl, h⟩
                exact absurd h haccepts

/-- A consequence is read back from its written form if its detail is an object. -/
theorem decode?_toJson (c : Consequence) :
    decode? c.toJson = if c.detail.isObject then some c else none := by
  have hid : c.toJson.string? "id" = some c.id := rfl
  have htype : c.toJson.string? "type" = some c.type := rfl
  have hdetail : c.toJson.get? "detail" = some c.detail := rfl
  unfold decode?
  rw [hid, htype, hdetail, Option.filter_some]
  by_cases hobject : c.detail.isObject = true
  · rw [if_pos hobject, if_pos hobject]
    rfl
  · rw [if_neg hobject, if_neg hobject]
    rfl

/-- What is read of a consequence has an object for a detail. -/
theorem isObject_of_decode? {value : Json} {c : Consequence} (h : decode? value = some c) :
    c.detail.isObject = true := by
  unfold decode? at h
  rcases Option.bind_eq_some_iff.mp h with ⟨id, _, hrest⟩
  rcases Option.bind_eq_some_iff.mp hrest with ⟨detail, hdetail, hc⟩
  rw [← Option.some.inj hc]
  exact (Option.filter_eq_some_iff.mp hdetail).2

end Consequence

namespace Rule

/-- What the compiler asks of a rule. -/
structure IsSound (r : Rule) : Prop where
  condition : r.condition.isObject = true
  detail : r.consequence.detail.isObject = true
  /-- The category is the one that the schema denotes, or that of the legacy type. -/
  category : if r.consequence.type = legacyInAppType then r.category = .inApp
    else RuleCategory.ofSchema? r.consequence.schema = some r.category
  /-- The data is what the category carries. Legacy consequences may have any data. -/
  data : r.consequence.type ≠ legacyInAppType →
    ∃ data, r.consequence.data? = some data ∧ r.category.accepts data = true

/-- Soundness is made of the checks of the compiler. -/
theorem isSound_iff (r : Rule) :
    r.IsSound ↔ r.condition.isObject = true ∧ r.consequence.detail.isObject = true
      ∧ r.consequence.category? = some r.category := by
  rw [Consequence.category?_eq_some_iff]
  constructor
  · rintro ⟨hcondition, hdetail, hcategory, hdata⟩
    refine ⟨hcondition, hdetail, ?_⟩
    by_cases hlegacy : r.consequence.type = legacyInAppType
    · rw [if_pos hlegacy] at hcategory ⊢
      exact hcategory
    · rw [if_neg hlegacy] at hcategory ⊢
      exact ⟨hcategory, hdata hlegacy⟩
  · rintro ⟨hcondition, hdetail, hcategory⟩
    by_cases hlegacy : r.consequence.type = legacyInAppType
    · rw [if_pos hlegacy] at hcategory
      exact ⟨hcondition, hdetail, by rw [if_pos hlegacy]; exact hcategory,
        fun hne => absurd hlegacy hne⟩
    · rw [if_neg hlegacy] at hcategory
      exact ⟨hcondition, hdetail, by rw [if_neg hlegacy]; exact hcategory.1,
        fun _ => hcategory.2⟩

/-- The document of a rule has its condition and its one consequence. -/
theorem compile_document (r : Rule) :
    compile [r.document]
      = if r.condition.isObject && r.consequence.detail.isObject then
          (r.consequence.category?.map fun category => { r with category }).toList
        else [] := by
  have hcondition : r.document.get? "condition" = some r.condition := rfl
  have hconsequences : r.document.array? "consequences" = some [r.consequence.toJson] := rfl
  rw [compile, List.flatMap_singleton, compileDocument, hcondition, hconsequences,
    Option.filter_some]
  by_cases hobject : r.condition.isObject = true
  · rw [if_pos hobject, hobject, Bool.true_and]
    dsimp only
    rw [List.filterMap_cons, List.filterMap_nil, ofConsequence?, Consequence.decode?_toJson]
    by_cases hdetail : r.consequence.detail.isObject = true
    · rw [if_pos hdetail, if_pos hdetail]
      cases hcategory : r.consequence.category? with
      | none => simp only [bind, Option.bind_some, hcategory, Option.bind_none, Option.map_none,
          Option.toList_none]
      | some category => simp only [bind, Option.bind_some, hcategory, pure, Option.map_some,
          Option.toList_some]
    · rw [if_neg hdetail, if_neg hdetail]
      rfl
  · rw [Bool.not_eq_true] at hobject
    rw [hobject, Bool.false_and, if_neg Bool.false_ne_true, if_neg Bool.false_ne_true]

/-- The rules that come back from their documents are the sound ones. -/
theorem compile_document_iff (r : Rule) : compile [r.document] = [r] ↔ r.IsSound := by
  rw [compile_document, isSound_iff]
  by_cases hobjects : (r.condition.isObject && r.consequence.detail.isObject) = true
  · rw [if_pos hobjects]
    rw [Bool.and_eq_true] at hobjects
    simp only [hobjects, true_and]
    cases r.consequence.category? with
    | none => simp only [Option.map_none, Option.toList_none, reduceCtorEq, List.nil_eq,
        List.cons_ne_self]
    | some category =>
        -- All but the category is the rule's own.
        rw [Option.map_some, Option.toList_some, List.singleton_inj, Option.some.injEq]
        constructor
        · exact fun h => congrArg Rule.category h
        · rintro rfl
          rfl
  · rw [if_neg hobjects]
    rw [Bool.and_eq_true] at hobjects
    constructor
    · intro h
      exact absurd h (by simp only [List.nil_eq, reduceCtorEq, not_false_eq_true])
    · rintro ⟨hcondition, hdetail, _⟩
      exact absurd ⟨hcondition, hdetail⟩ hobjects

/-- Compiled rules are sound, from whatever documents they come. -/
theorem isSound_of_mem_compile {documents : List Json} {r : Rule} (h : r ∈ compile documents) :
    r.IsSound := by
  rcases List.mem_flatMap.mp h with ⟨document, _, hr⟩
  unfold compileDocument at hr
  split at hr
  · rename_i condition consequences hcondition _
    rcases List.mem_filterMap.mp hr with ⟨value, _, hrule⟩
    rcases Option.bind_eq_some_iff.mp hrule with ⟨consequence, hdecode, hrest⟩
    rcases Option.bind_eq_some_iff.mp hrest with ⟨category, hcategory, hr⟩
    rw [← Option.some.inj hr, isSound_iff]
    exact ⟨(Option.filter_eq_some_iff.mp hcondition).2, Consequence.isObject_of_decode? hdecode,
      hcategory⟩
  · exact absurd hr List.not_mem_nil

theorem isSound_of_mem_compileItem {item : Item} {r : Rule} (h : r ∈ compileItem item) :
    r.IsSound := by
  unfold compileItem at h
  split at h
  · exact isSound_of_mem_compile h
  · exact absurd h List.not_mem_nil

/-- Sound rules come back from their documents one after another. -/
theorem compile_documents_of_isSound {rules : List Rule} (h : ∀ r ∈ rules, r.IsSound) :
    compile (rules.map document) = rules := by
  induction rules with
  | nil => rfl
  | cons r rest ih =>
      have hrest : compile (rest.map document) = rest :=
        ih fun later hlater => h later (List.mem_cons_of_mem _ hlater)
      have hfirst : compile [r.document] = [r] :=
        (compile_document_iff r).mpr (h r List.mem_cons_self)
      calc compile ((r :: rest).map document)
          = compile [r.document] ++ compile (rest.map document) := by
            rw [compile, List.map_cons, List.flatMap_cons, compile, List.flatMap_singleton, compile]
        _ = r :: rest := by rw [hfirst, hrest, List.singleton_append]

theorem isSound_historyRule {condition : Json} (h : condition.isObject = true)
    (id operation event messageId : String) :
    (historyRule condition id operation event messageId).IsSound where
  condition := h
  detail := rfl
  category := rfl
  data := fun _ => ⟨_, rfl, rfl⟩

/-- The history rules of a card are sound if its condition is an object, whatever
    the card is known by. -/
theorem isSound_of_mem_historyRules {card : Rule} (h : card.condition.isObject = true)
    {activity : Option String} {r : Rule} (hr : r ∈ card.historyRules activity) : r.IsSound := by
  simp only [historyRules, List.mem_cons, List.not_mem_nil, or_false] at hr
  rcases hr with rfl | rfl | rfl
  · exact isSound_historyRule h _ _ _ _
  · exact isSound_historyRule rfl _ _ _ _
  · exact isSound_historyRule rfl _ _ _ _

end Rule

namespace Placement

variable {activity : Option String}

/-- A sound rule brings sound rules only. -/
theorem isSound_addRule {placement : Placement} (h : ∀ r ∈ placement.rules, r.IsSound)
    {rule : Rule} (hrule : rule.IsSound) :
    ∀ r ∈ (addRule activity placement rule).rules, r.IsSound := by
  intro r hr
  rw [rules_addRule, List.append_assoc, List.mem_append, List.mem_append] at hr
  rcases hr with hold | hhistory | hnew
  · exact h r hold
  · unfold historyBefore at hhistory
    split at hhistory
    · exact Rule.isSound_of_mem_historyRules hrule.condition hhistory
    · exact absurd hhistory List.not_mem_nil
  · rw [List.mem_singleton.mp hnew]
    exact hrule

theorem isSound_foldl_addRule {rules : List Rule} (hrules : ∀ r ∈ rules, r.IsSound)
    {placement : Placement} (h : ∀ r ∈ placement.rules, r.IsSound) :
    ∀ r ∈ (rules.foldl (addRule activity) placement).rules, r.IsSound := by
  induction rules generalizing placement with
  | nil => exact h
  | cons rule rest ih =>
      have hfirst : ∀ r ∈ (addRule activity placement rule).rules, r.IsSound :=
        isSound_addRule h (hrules rule List.mem_cons_self)
      exact ih (fun r hr => hrules r (List.mem_cons_of_mem _ hr)) hfirst

theorem isSound_addItem {placement : Placement} (h : ∀ r ∈ placement.rules, r.IsSound)
    (item : Item) : ∀ r ∈ (addItem activity placement item).rules, r.IsSound := by
  by_cases hschema : item.schema = .ruleset
  · rcases addRuleset_eq activity placement item with ⟨tracked, heq⟩
    simp only [addItem, hschema, heq]
    exact isSound_foldl_addRule (fun r => Rule.isSound_of_mem_compileItem) h
  · rw [(addItem_of_not_ruleset activity placement hschema).1]
    exact h

/-- All rules that a proposition brings are sound, the compiled ones and the history
    rules. -/
theorem isSound_ofProposition (p : Proposition) :
    ∀ r ∈ (ofProposition p).rules, r.IsSound := by
  have hfold : ∀ (items : List Item) (placement : Placement),
      (∀ r ∈ placement.rules, r.IsSound) →
      ∀ r ∈ (items.foldl (addItem p.activityId?) placement).rules, r.IsSound := by
    intro items
    induction items with
    | nil => exact fun _ h => h
    | cons item rest ih => exact fun placement h => ih _ (isSound_addItem h item)
  exact hfold p.items empty fun r hr => absurd hr List.not_mem_nil

end Placement

/-- Every rule in the stores is sound, and stands in the store of its category. -/
def RuleStores.AreSound (rules : RuleStores) : Prop :=
  ∀ category s, ∀ r ∈ (rules.get category).get s, r.IsSound ∧ r.category = category

theorem RuleStores.areSound_empty : RuleStores.empty.AreSound := by
  intro category s r hr
  cases category <;> exact absurd hr List.not_mem_nil

/-- All rules of a batch are sound, whatever the propositions are. -/
theorem BatchImage.areSound_ofBatch (propositions : List Proposition) (requested : SurfaceSet) :
    (ofBatch propositions requested).rules.AreSound := by
  intro category s r hr
  rw [get_rules_ofBatch] at hr
  by_cases hs : requested.contains s = true
  · rw [if_pos hs] at hr
    rcases List.mem_flatMap.mp hr with ⟨p, _, hrule⟩
    rw [rulesIn, List.mem_filter, decide_eq_true_eq] at hrule
    exact ⟨Placement.isSound_ofProposition p r hrule.1, hrule.2⟩
  · rw [if_neg hs] at hr
    exact absurd hr List.not_mem_nil

end Decisioning
