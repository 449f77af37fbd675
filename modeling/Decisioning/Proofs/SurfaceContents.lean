import Decisioning.Proofs.BatchImage

/-!
# What a Surface Gets

The image of a batch, read off the batch without walking over it.

Where a proposition belongs is decided item by item, through flags that are only
ever set. So a proposition belongs among those of a kind if one of its items asks
for it, and which item that is and what the others are does not matter. With
this, the image at a surface can be said in terms of the delivered items alone:
the propositions that are scoped to the surface are put in order, those with a
fitting item are kept, and the rules of their rulesets are written one after
another. Nothing is left of the walk, which visits all surfaces in one go.

The order is that of ranks, and of arrival among equal ranks. `IsRankedAt` says
this without an algorithm, and it leaves no choice.

## Main definitions

* `Json.isMessage`: Data that a message can be made of.
* `Item.asksFor`: Whether an item puts its proposition among those of a kind.
* `IsRankedAt`: The propositions for a surface in the order of their ranks.
* `unlessEmpty`: A list, unless it is empty.

## Theorems

* `isSome_ofData?_message`: Which data is a message.
* `isRankedAt_iff`: The ranked list is the one that is meant.
* `Placement.belongs_ofProposition`: Where a proposition belongs, by its items.
* `BatchImage.image_at_surface`: The image of a batch at a surface.
-/

namespace Decisioning

/-- Data that a message can be made of: it names the type of its content, and the
    content is an object if that type is JSON, and a text otherwise. -/
def Json.isMessage (data : Json) : Bool :=
  match data.string? "contentType", data.get? "content" with
  | some contentType, some content =>
      if contentType = "application/json" then content.isObject else content.isString
  | _, _ => false

theorem MediaType.ofName_eq_applicationJson_iff (name : String) :
    ofName name = .applicationJson ↔ name = "application/json" := by
  constructor
  · intro h
    unfold ofName at h
    -- The other names are those of other types.
    split at h
    · rfl
    all_goals exact absurd h (by simp only [reduceCtorEq, not_false_eq_true])
  · rintro rfl
    rfl

theorem isSome_ofData?_message (data : Json) : (Message.ofData? data).isSome = data.isMessage := by
  unfold Message.ofData? Json.isMessage
  cases htype : data.string? "contentType" with
  | none => rfl
  | some name =>
      cases hcontent : data.get? "content" with
      | none => rfl
      | some content =>
          simp only [bind, Option.bind_some, MediaType.ofName_eq_applicationJson_iff]
          -- The facts that are read besides are all optional.
          by_cases hjson : name = "application/json"
          · simp only [hjson, ↓reduceIte]
            cases content.isObject <;> rfl
          · simp only [hjson, ↓reduceIte]
            cases content.isString <;> rfl

namespace Item

/-- Whether an item puts its proposition among those of a kind. -/
def asksFor (item : Item) : ContentKind → Bool
  | .codeBased =>
      item.schema = .defaultContent
        || (item.schema = .htmlContent && (item.data.get? "content").any Json.isString)
        || (item.schema = .jsonContent
          && (item.data.get? "content").any fun content => content.isObject || content.isArray)
  | .persisted =>
      item.schema = .ruleset && (Rule.compileItem item).any fun r => r.category = .inApp
  | .cards =>
      (item.schema = .ruleset && (Rule.compileItem item).any fun r => r.category = .contentCard)
        || ((item.schema = .feed || item.schema = .contentCard) && item.data.isMessage)
  | .inbox => item.schema = .container && item.data.isObject

/-- Only ruleset items compile to rules, so asking for the schema is no more. -/
theorem any_compileItem (item : Item) (test : Rule → Bool) :
    (item.schema = .ruleset && (Rule.compileItem item).any test)
      = (Rule.compileItem item).any test := by
  by_cases hschema : item.schema = .ruleset
  · simp only [hschema, decide_true, Bool.true_and]
  · rw [Rule.compileItem_of_not_ruleset hschema, List.any_nil, Bool.and_false]

theorem isSome_htmlContent {item : Item} (h : item.schema = .htmlContent) :
    (HtmlContent.ofItem? item).isSome = (item.data.get? "content").any Json.isString := by
  unfold HtmlContent.ofItem? Json.string?
  rw [if_pos h, Option.isSome_map]
  cases item.data.get? "content" <;> rfl

theorem isSome_jsonContent {item : Item} (h : item.schema = .jsonContent) :
    (JsonContent.ofItem? item).isSome
      = (item.data.get? "content").any fun content => content.isObject || content.isArray := by
  unfold JsonContent.ofItem?
  rw [if_pos h, Option.isSome_map]
  cases item.data.get? "content" with
  | none => rfl
  | some content =>
      rw [Option.any_some, Option.filter_some]
      cases (content.isObject || content.isArray) <;> rfl

theorem isRawCard_eq (item : Item) :
    item.isRawCard
      = ((item.schema = .feed || item.schema = .contentCard) && item.data.isMessage) := by
  unfold isRawCard ContentCard.ofData?
  rw [Option.isSome_map, isSome_ofData?_message]

end Item

namespace Placement

variable (activity : Option String)

/-- Rules neither make content that is used as it is, nor inbox containers. -/
theorem flags_foldl_addRule (rules : List Rule) (placement : Placement) :
    (rules.foldl (addRule activity) placement).codeBased = placement.codeBased
      ∧ (rules.foldl (addRule activity) placement).inbox = placement.inbox := by
  induction rules generalizing placement with
  | nil => exact ⟨rfl, rfl⟩
  | cons r rest ih =>
      rw [List.foldl_cons, (ih _).1, (ih _).2]
      unfold addRule
      cases r.category <;> exact ⟨rfl, rfl⟩

theorem codeBased_addItem (placement : Placement) (item : Item) :
    (addItem activity placement item).codeBased
      = (placement.codeBased || item.asksFor .codeBased) := by
  unfold addItem Item.asksFor
  cases hschema : item.schema with
  | ruleset =>
      rcases addRuleset_eq activity placement item with ⟨tracked, heq⟩
      have hflags := flags_foldl_addRule activity (Rule.compileItem item)
        { placement with tracked }
      simp only [heq, hflags.1, reduceCtorEq, decide_false, Bool.false_and, Bool.or_false]
  | htmlContent =>
      simp only [Item.isSome_htmlContent hschema, reduceCtorEq, decide_false, decide_true,
        Bool.true_and, Bool.false_and, Bool.false_or, Bool.or_false]
  | jsonContent =>
      simp only [Item.isSome_jsonContent hschema, reduceCtorEq, decide_false, decide_true,
        Bool.true_and, Bool.false_and, Bool.false_or]
  | defaultContent => simp only [decide_true, Bool.true_or, Bool.or_true]
  | _ => simp only [reduceCtorEq, decide_false, Bool.false_and, Bool.or_false]

theorem inbox_addItem (placement : Placement) (item : Item) :
    (addItem activity placement item).inbox = (placement.inbox || item.asksFor .inbox) := by
  unfold addItem Item.asksFor
  cases hschema : item.schema with
  | ruleset =>
      rcases addRuleset_eq activity placement item with ⟨tracked, heq⟩
      have hflags := flags_foldl_addRule activity (Rule.compileItem item)
        { placement with tracked }
      simp only [heq, hflags.2, reduceCtorEq, decide_false, Bool.false_and, Bool.or_false]
  | container => simp only [decide_true, Bool.true_and]
  | _ => simp only [reduceCtorEq, decide_false, Bool.false_and, Bool.or_false]

/-- An item adds its proposition to the kinds that it asks for, and takes it out of
    none. -/
theorem belongs_addItem (placement : Placement) (item : Item) (kind : ContentKind) :
    (addItem activity placement item).belongs kind
      = (placement.belongs kind || item.asksFor kind) := by
  cases kind with
  | codeBased => exact codeBased_addItem activity placement item
  | inbox => exact inbox_addItem activity placement item
  | persisted =>
      have hasks : item.asksFor .persisted
          = (Rule.compileItem item).any fun r => r.category = .inApp := item.any_compileItem _
      rw [hasks]
      exact persisted_addItem activity placement item
  | cards =>
      have hasks : item.asksFor .cards = (item.bringsCardRule || item.isRawCard) := by
        rw [Item.isRawCard_eq, Item.bringsCardRule, ← item.any_compileItem]
        rfl
      rw [hasks, Bool.or_comm item.bringsCardRule]
      exact card_addItem activity placement item

/-- A proposition belongs among those of a kind if one of its items asks for it. -/
theorem belongs_ofProposition (p : Proposition) (kind : ContentKind) :
    (ofProposition p).belongs kind = p.items.any fun item => item.asksFor kind := by
  have hfold : ∀ (items : List Item) (placement : Placement),
      (items.foldl (addItem p.activityId?) placement).belongs kind
        = (placement.belongs kind || items.any fun item => item.asksFor kind) := by
    intro items
    induction items with
    | nil => intro placement; exact (Bool.or_false _).symm
    | cons item rest ih =>
        intro placement
        rw [List.foldl_cons, ih, belongs_addItem, List.any_cons, Bool.or_assoc]
  have hempty : empty.belongs kind = false := by cases kind <;> rfl
  have hitems := hfold p.items empty
  rw [hempty, Bool.false_or] at hitems
  exact hitems

end Placement

/-- The propositions that are scoped to a surface, by ascending rank, and those of
    one rank as they came. -/
structure IsRankedAt (s : Surface) (propositions ranked : List Proposition) : Prop where
  ascending : ranked.Pairwise fun p q => p.rank ≤ q.rank
  inOrder : ∀ rank, ranked.filter (fun p => p.rank = rank)
    = propositions.filter fun p => p.rank = rank && p.surface = s

theorem isRankedAt_rankedAt (s : Surface) (propositions : List Proposition) :
    IsRankedAt s propositions (rankedAt s propositions) where
  ascending := sortByKey_sorted Proposition.rank _
  inOrder := by
    intro rank
    rw [rankedAt, filter_key_sortByKey, List.filter_filter]

/-- Ranks and arrival leave no choice. -/
theorem isRankedAt_iff {s : Surface} {propositions ranked : List Proposition} :
    IsRankedAt s propositions ranked ↔ ranked = rankedAt s propositions := by
  constructor
  · intro h
    have hranked := isRankedAt_rankedAt s propositions
    refine eq_of_sorted_of_filter_key Proposition.rank _ _ h.ascending hranked.ascending ?_
    intro rank
    rw [h.inOrder, hranked.inOrder]
  · rintro rfl
    exact isRankedAt_rankedAt s propositions

/-- A list, unless it is empty. -/
def unlessEmpty {α : Type} (values : List α) : Option (List α) :=
  if values = [] then none else some values

namespace BatchImage

variable (propositions : List Proposition) (requested : SurfaceSet)

/-- What the image of a batch holds for a surface. If the surface is not requested,
    that is nothing. If it is requested, let `mine` be the propositions that are
    scoped to it, in rank order, and equal ranks as they came. Then each kind has
    those of `mine` with an item that asks for the kind, each occurrence once and
    in the same order, and in-app and card rules are the rules of the category that
    are compiled from `mine`, proposition after proposition, item after item. A
    surface for which this is nothing is not held at all. -/
theorem image_at_surface (s : Surface) :
    let image := ofBatch propositions requested
    let mine := rankedAt s propositions
    (∀ ranked, IsRankedAt s propositions ranked ↔ ranked = mine)
      ∧ (∀ kind, (image.store kind).held? s
          = if requested.contains s then
              unlessEmpty (mine.filter fun p => p.items.any fun item => item.asksFor kind)
            else none)
      ∧ (∀ kind, ((image.store kind).get s).Sublist mine)
      ∧ (∀ category, category ≠ .eventHistory → (image.rules.get category).held? s
          = if requested.contains s then
              unlessEmpty (mine.flatMap fun p => p.items.flatMap fun item =>
                (Rule.compileItem item).filter fun r => r.category = category)
            else none)
      ∧ (requested.contains s = false → image.rules.eventHistory.held? s = none) := by
  intro image mine
  have hcontent : image.HoldsContent := holdsContent_ofBatch propositions requested
  have hget : ∀ kind, (image.store kind).get s
      = if requested.contains s then
          mine.filter fun p => p.items.any fun item => item.asksFor kind
        else [] := by
    intro kind
    have hstore := get_store_ofBatch propositions requested kind s
    simp only [Placement.belongs_ofProposition] at hstore
    exact hstore
  refine ⟨fun ranked => isRankedAt_iff, ?_, ?_, ?_, ?_⟩
  · intro kind
    rw [(hcontent.store kind).held?_eq, hget]
    by_cases hs : requested.contains s = true
    · simp only [hs, ↓reduceIte]
      rfl
    · simp only [hs, Bool.false_eq_true, ↓reduceIte]
  · intro kind
    rw [hget]
    by_cases hs : requested.contains s = true
    · rw [if_pos hs]
      exact List.filter_sublist
    · rw [if_neg hs]
      exact List.nil_sublist _
  · intro category hcat
    have hrules := get_compiled_ofBatch hcat propositions requested s
    -- Compiling all items and then choosing is choosing item by item.
    have hcompiled : compiledIn category mine
        = mine.flatMap fun p => p.items.flatMap fun item =>
            (Rule.compileItem item).filter fun r => r.category = category := by
      simp only [compiledIn, rulesIn, Proposition.compiledRules, List.filter_flatMap]
    rw [(hcontent.rules category).held?_eq, hrules]
    by_cases hs : requested.contains s = true
    · simp only [hs, ↓reduceIte]
      rw [hcompiled]
      rfl
    · simp only [hs, Bool.false_eq_true, ↓reduceIte]
  · intro hs
    have hrules := get_rules_ofBatch propositions requested .eventHistory s
    rw [if_neg (Bool.eq_false_iff.mp hs)] at hrules
    have hheld := (hcontent.rules .eventHistory).held?_eq s
    rw [if_pos hrules] at hheld
    exact hheld

end BatchImage

end Decisioning
