import Decisioning.Proofs.Placement
import Decisioning.Proofs.RankOrder

/-!
# Batch Images at a Surface

What the image of a batch has at one surface.

The image is built by one walk over the sorted batch, which fills seven stores
for all surfaces at once. Each proposition only touches its own surface, and
each store only asks what the proposition's placement says about it. So what a
store has at a surface is the ranked list of that surface, filtered in a store
of propositions and expanded into rules in a store of rules. Nothing about
other surfaces remains, and the request only decides whether the surface is
looked at.

The four stores of propositions and the three stores of rules differ in nothing
but what they ask a placement, so each family is one statement.

## Main definitions

* `ContentKind`: The four kinds of stores of propositions.
* `BatchImage.store`, `Placement.belongs`: The store of a kind, and whether a
  proposition belongs there.
* `BatchImage.HoldsContent`: No store of the image has an empty list.

## Theorems

* `BatchImage.get_store_ofBatch`: The propositions of a kind at a surface.
* `BatchImage.get_rules_ofBatch`: The rules of a category at a surface.
* `BatchImage.get_compiled_ofBatch`: Those of the categories that are only
  compiled.
* `BatchImage.ofBatch_nil`: The image of an empty batch.
* `BatchImage.holdsContent_ofBatch`: Images have no empty lists.
* `BatchImage.held?_store_ofBatch_singleton`,
  `held?_rules_ofBatch_singleton`: A surface is not affected by the others.
-/

namespace Decisioning

/-- The kinds of stores of propositions. -/
inductive ContentKind where
  | codeBased
  | persisted
  | cards
  | inbox
deriving DecidableEq, Repr

/-- Whether a proposition belongs among those of a kind. -/
def Placement.belongs (placement : Placement) : ContentKind → Bool
  | .codeBased => placement.codeBased
  | .persisted => placement.persisted
  | .cards => placement.card
  | .inbox => placement.inbox

namespace RuleStores

theorem get_push (rules : RuleStores) (s : Surface) (rule : Rule) (category : RuleCategory) :
    (rules.push s rule).get category
      = if rule.category = category then (rules.get category).push s rule
        else rules.get category := by
  unfold push
  cases hr : rule.category <;> cases category <;> rfl

theorem ext_get {rules other : RuleStores} (h : ∀ c, rules.get c = other.get c) :
    rules = other := by
  have hi : rules.inApp = other.inApp := h .inApp
  have hc : rules.contentCard = other.contentCard := h .contentCard
  have he : rules.eventHistory = other.eventHistory := h .eventHistory
  cases rules
  cases other
  simp only [RuleStores.mk.injEq]
  exact ⟨hi, hc, he⟩

/-- The rules of one proposition go to its surface, category by category. -/
theorem get_foldl_push (s t : Surface) (rs : List Rule) (rules : RuleStores)
    (category : RuleCategory) :
    ((rs.foldl (fun rules r => rules.push s r) rules).get category).get t
      = (rules.get category).get t ++ if t = s then rulesIn category rs else [] := by
  induction rs generalizing rules with
  | nil => simp only [List.foldl_nil, rulesIn, List.filter_nil, ite_self, List.append_nil]
  | cons r rest ih =>
      rw [List.foldl_cons, ih, get_push]
      by_cases hcat : r.category = category
      · -- The rule stands before those that are still to be pushed.
        rw [if_pos hcat, SurfaceStore.get_push]
        by_cases hts : t = s
        · simp only [hts, ↓reduceIte, rulesIn, hcat, decide_true, List.filter_cons_of_pos,
            List.append_assoc, List.singleton_append]
        · simp only [hts, ↓reduceIte]
      · rw [if_neg hcat]
        by_cases hts : t = s
        · simp only [hts, ↓reduceIte, rulesIn, hcat, decide_false, Bool.false_eq_true,
            not_false_eq_true, List.filter_cons_of_neg]
        · simp only [hts, ↓reduceIte]

/-- No surface is held with an empty list of rules. -/
def HoldsContent (rules : RuleStores) : Prop := ∀ c, (rules.get c).HoldsContent

theorem HoldsContent.push {rules : RuleStores} (h : rules.HoldsContent) (s : Surface)
    (rule : Rule) : (rules.push s rule).HoldsContent := by
  intro c
  rw [get_push]
  by_cases hcat : rule.category = c
  · rw [if_pos hcat]
    exact (h c).push s rule
  · rw [if_neg hcat]
    exact h c

theorem HoldsContent.foldl_push {rules : RuleStores} (h : rules.HoldsContent) (s : Surface)
    (rs : List Rule) : (rs.foldl (fun rules r => rules.push s r) rules).HoldsContent := by
  induction rs generalizing rules with
  | nil => exact h
  | cons r rest ih => exact ih (h.push s r)

end RuleStores

namespace BatchImage

/-- The propositions of a kind. -/
def store (image : BatchImage) : ContentKind → SurfaceStore Proposition
  | .codeBased => image.codeBased
  | .persisted => image.persisted
  | .cards => image.cards
  | .inbox => image.inbox

/-- No store of the image has an empty list. -/
structure HoldsContent (image : BatchImage) : Prop where
  store : ∀ kind, (image.store kind).HoldsContent
  rules : image.rules.HoldsContent

theorem store_add (image : BatchImage) (p : Proposition) (kind : ContentKind) :
    (image.add p).store kind
      = pushIf ((Placement.ofProposition p).belongs kind) p (image.store kind) := by
  cases kind <;> rfl

theorem get_pushIf (belongs : Bool) (p : Proposition) (store : SurfaceStore Proposition)
    (s : Surface) :
    (pushIf belongs p store).get s
      = store.get s ++ if s = p.surface ∧ belongs = true then [p] else [] := by
  unfold pushIf
  cases belongs with
  | false => simp only [Bool.false_eq_true, ↓reduceIte, and_false, List.append_nil]
  | true =>
      rw [if_pos rfl, SurfaceStore.get_push]
      by_cases hs : s = p.surface
      · simp only [hs, ↓reduceIte, and_self]
      · simp only [hs, ↓reduceIte, false_and, List.append_nil]

/-- What a walk over propositions adds to a store of propositions at a surface. -/
theorem get_store_foldl_add (ps : List Proposition) (image : BatchImage) (kind : ContentKind)
    (s : Surface) :
    ((ps.foldl add image).store kind).get s
      = (image.store kind).get s
        ++ (ps.filter fun p => p.surface = s).filter
          fun p => (Placement.ofProposition p).belongs kind := by
  induction ps generalizing image with
  | nil => exact (List.append_nil _).symm
  | cons p rest ih =>
      rw [List.foldl_cons, ih, store_add, get_pushIf, List.append_assoc]
      congr 1
      -- What the first proposition adds is what the filters leave of it.
      by_cases hs : p.surface = s
      · rw [List.filter_cons_of_pos (by exact decide_eq_true hs)]
        cases hb : (Placement.ofProposition p).belongs kind with
        | true =>
            rw [if_pos ⟨hs.symm, rfl⟩, List.filter_cons_of_pos (by exact hb),
              List.singleton_append]
        | false =>
            rw [if_neg (fun h => Bool.false_ne_true h.2), List.filter_cons_of_neg
              (by simp only [hb, Bool.false_eq_true, not_false_eq_true]), List.nil_append]
      · rw [if_neg (fun h => hs h.1.symm), List.filter_cons_of_neg
          (by simpa only [decide_eq_true_eq] using hs), List.nil_append]

/-- What a walk over propositions adds to a store of rules at a surface. -/
theorem get_rules_foldl_add (ps : List Proposition) (image : BatchImage)
    (category : RuleCategory) (s : Surface) :
    ((ps.foldl add image).rules.get category).get s
      = (image.rules.get category).get s
        ++ (ps.filter fun p => p.surface = s).flatMap
          fun p => rulesIn category (Placement.ofProposition p).rules := by
  induction ps generalizing image with
  | nil => exact (List.append_nil _).symm
  | cons p rest ih =>
      rw [List.foldl_cons, ih]
      change ((((Placement.ofProposition p).rules.foldl
        (fun rules r => rules.push p.surface r) image.rules).get category).get s) ++ _ = _
      rw [RuleStores.get_foldl_push, List.append_assoc]
      congr 1
      by_cases hs : p.surface = s
      · rw [if_pos hs.symm, List.filter_cons_of_pos (by exact decide_eq_true hs), List.flatMap_cons]
      · rw [if_neg (fun h => hs h.symm), List.filter_cons_of_neg
          (by simpa only [decide_eq_true_eq] using hs), List.nil_append]

/-- The propositions of a kind at a surface: those of its ranked list that belong
    there. -/
theorem get_store_ofBatch (propositions : List Proposition) (requested : SurfaceSet)
    (kind : ContentKind) (s : Surface) :
    ((ofBatch propositions requested).store kind).get s
      = if requested.contains s then
          (rankedAt s propositions).filter fun p => (Placement.ofProposition p).belongs kind
        else [] := by
  -- The walk starts from nothing, and meets at the surface what counts there.
  have hempty : ((empty : BatchImage).store kind).get s = [] := by cases kind <;> rfl
  rw [ofBatch, get_store_foldl_add, hempty, List.nil_append, inScope_filter_surface]
  by_cases hs : requested.contains s = true
  · rw [if_pos hs, if_pos hs]
  · rw [if_neg hs, if_neg hs, List.filter_nil]

/-- The rules of a category at a surface: those of its ranked list, proposition
    after proposition. -/
theorem get_rules_ofBatch (propositions : List Proposition) (requested : SurfaceSet)
    (category : RuleCategory) (s : Surface) :
    ((ofBatch propositions requested).rules.get category).get s
      = if requested.contains s then
          (rankedAt s propositions).flatMap
            fun p => rulesIn category (Placement.ofProposition p).rules
        else [] := by
  have hempty : ((empty : BatchImage).rules.get category).get s = [] := by cases category <;> rfl
  rw [ofBatch, get_rules_foldl_add, hempty, List.nil_append, inScope_filter_surface]
  by_cases hs : requested.contains s = true
  · rw [if_pos hs, if_pos hs]
  · rw [if_neg hs, if_neg hs, List.flatMap_nil]

/-- In the categories that history rules do not belong to, these are the compiled
    rules. -/
theorem get_compiled_ofBatch {category : RuleCategory} (hcat : category ≠ .eventHistory)
    (propositions : List Proposition) (requested : SurfaceSet) (s : Surface) :
    ((ofBatch propositions requested).rules.get category).get s
      = if requested.contains s then compiledIn category (rankedAt s propositions) else [] := by
  have hget := get_rules_ofBatch propositions requested category s
  simp only [Placement.rulesIn_ofProposition hcat] at hget
  exact hget

theorem HoldsContent.add {image : BatchImage} (h : image.HoldsContent) (p : Proposition) :
    (image.add p).HoldsContent := by
  constructor
  · intro kind
    rw [store_add, pushIf]
    split
    · exact (h.store kind).push p.surface p
    · exact h.store kind
  · exact h.rules.foldl_push p.surface (Placement.ofProposition p).rules

theorem holdsContent_empty : (empty : BatchImage).HoldsContent := by
  constructor
  · intro kind
    cases kind <;> exact SurfaceStore.holdsContent_empty
  · intro category
    cases category <;> exact SurfaceStore.holdsContent_empty

/-- A batch without propositions comes to nothing. -/
theorem ofBatch_nil (requested : SurfaceSet) : ofBatch [] requested = .empty := by
  rw [ofBatch, inScope, List.filter_nil, List.mergeSort_nil, List.foldl_nil]

/-- A list in an image is started by the first value pushed to it, so none is
    empty. -/
theorem holdsContent_ofBatch (propositions : List Proposition) (requested : SurfaceSet) :
    (ofBatch propositions requested).HoldsContent := by
  have hfold : ∀ (ps : List Proposition) (image : BatchImage), image.HoldsContent →
      (ps.foldl BatchImage.add image).HoldsContent := by
    intro ps
    induction ps with
    | nil => intro image h; exact h
    | cons p rest ih => intro image h; exact ih _ (h.add p)
  exact hfold _ _ holdsContent_empty

section Locality

variable (propositions : List Proposition) {requested : SurfaceSet} {s : Surface}
  (hs : requested.contains s = true)
include hs

/-- A requested surface gets the propositions that it would get if it were
    requested alone. -/
theorem held?_store_ofBatch_singleton (kind : ContentKind) :
    ((ofBatch propositions requested).store kind).held? s
      = ((ofBatch propositions (.ofList [s])).store kind).held? s := by
  have hself : (SurfaceSet.ofList [s]).contains s = true :=
    (SurfaceSet.contains_ofList_singleton s s).mpr rfl
  rw [((holdsContent_ofBatch propositions _).store kind).held?_eq,
    ((holdsContent_ofBatch propositions _).store kind).held?_eq,
    get_store_ofBatch, get_store_ofBatch, if_pos hs, if_pos hself]

/-- A requested surface gets the rules that it would get if it were requested
    alone. -/
theorem held?_rules_ofBatch_singleton (category : RuleCategory) :
    ((ofBatch propositions requested).rules.get category).held? s
      = ((ofBatch propositions (.ofList [s])).rules.get category).held? s := by
  have hself : (SurfaceSet.ofList [s]).contains s = true :=
    (SurfaceSet.contains_ofList_singleton s s).mpr rfl
  rw [((holdsContent_ofBatch propositions _).rules category).held?_eq,
    ((holdsContent_ofBatch propositions _).rules category).held?_eq,
    get_rules_ofBatch, get_rules_ofBatch, if_pos hs, if_pos hself]

end Locality

end BatchImage

end Decisioning
