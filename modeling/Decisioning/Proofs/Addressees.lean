import Decisioning.Proofs.CardHistory
import Decisioning.Proofs.Engines

/-!
# Addressees

Who is addressed when the stores change.

Whether an engine is given its rules anew is decided from counts: the rules that
a batch brings for it, and the surfaces that lost theirs. A surface that takes
new rules for old ones is in neither count, and does not have to be, as the batch
has brought rules then. So the counts add up to something exactly if the batch
has a rule for the engine or a requested surface had one, `SurfaceStore.touched_iff`.
This takes that no surface is held without rules, or such a surface would be
counted as one that lost some.

The two engines differ in nothing but the categories that they run, so there is
one statement for both.

## Main definitions

* `Engine`: The two engines, with the categories that they run.
* `Engine.HasRulesAt`: An engine has rules at a surface.
* `Outbox.Sends`: What is sent by one operation, and its receipt.

## Theorems

* `SurfaceStore.touched_iff`: When a store is touched by a merge.
* `Retained.isSome_rulesFor_merge`: When a merge addresses an engine.
* `Retained.get_merge_of_rulesFor_eq_none`: An engine that is not addressed keeps
  its rules.
* `Pipeline.rulesHoldContent_reached`: No surface is held without rules.
* `Pipeline.addressed_exactly_when_concerned`: Who is addressed, by completed
  requests and when surfaces are forgotten.
-/

namespace Decisioning

universe u

/-- The engines that run rules. -/
inductive Engine where
  | inApp
  | cards
deriving DecidableEq, Repr

namespace Engine

/-- The categories of the rules that an engine runs. -/
def categories : Engine → List RuleCategory
  | .inApp => [.inApp, .eventHistory]
  | .cards => [.contentCard]

/-- Some rule at a surface is for the engine. -/
def HasRulesAt (engine : Engine) (rules : RuleStores) (s : Surface) : Prop :=
  ∃ category ∈ engine.categories, (rules.get category).get s ≠ []

instance (engine : Engine) (rules : RuleStores) (s : Surface) :
    Decidable (engine.HasRulesAt rules s) :=
  inferInstanceAs (Decidable (∃ category ∈ engine.categories, (rules.get category).get s ≠ []))

theorem not_hasRulesAt_empty (engine : Engine) (s : Surface) :
    ¬engine.HasRulesAt .empty s := by
  rintro ⟨category, _, hget⟩
  cases category <;> exact hget rfl

end Engine

/-- The rules that are to be given to an engine, if it is addressed. -/
def DispatchPlan.rulesFor (plan : DispatchPlan) : Engine → Option (List Rule)
  | .inApp => plan.inAppRules
  | .cards => plan.cardRules

/-- The number of rules that an engine was given, if it was addressed. -/
def Receipt.countFor (receipt : Receipt) : Engine → Option Nat
  | .inApp => receipt.inAppRules
  | .cards => receipt.cardRules

namespace Outbox

/-- The lists that an engine was given, oldest first. -/
def listsFor (outbox : Outbox) : Engine → List (List Rule)
  | .inApp => outbox.inApp
  | .cards => outbox.cards

/-- From one state of the outbox to the next, each engine is given a list or none,
    the listeners are told of propositions or not, and a receipt has the lengths. -/
structure Sends (before after : Outbox) (lists : Engine → Option (List Rule))
    (notice : Option (List Proposition)) (receipt : Receipt) : Prop where
  toEngines : ∀ engine, after.listsFor engine = before.listsFor engine ++ (lists engine).toList
  toListeners : after.notices = before.notices ++ notice.toList
  counts : ∀ engine, receipt.countFor engine = (lists engine).map List.length
  notified : receipt.notified = notice.map List.length

theorem isSome_notice (propositions : List Proposition) :
    (if propositions = [] then none else some propositions).isSome = true ↔ propositions ≠ [] := by
  cases propositions with
  | nil => exact iff_of_false Bool.false_ne_true (fun h => h rfl)
  | cons q rest => exact iff_of_true rfl (List.cons_ne_nil q rest)

/-- A plan that is carried out sends its lists, and its code-based propositions if
    there are any. -/
theorem sends_dispatch (outbox : Outbox) (plan : DispatchPlan) :
    outbox.Sends (outbox.dispatch plan).2 plan.rulesFor
      (if plan.codeBased = [] then none else some plan.codeBased) (.ofPlan plan) := by
  constructor
  case toEngines => intro engine; cases engine <;> rfl
  case counts => intro engine; cases engine <;> rfl
  case toListeners =>
    change outbox.notices ++ (if plan.codeBased.isEmpty then [] else [plan.codeBased]) = _
    cases plan.codeBased <;> rfl
  case notified =>
    change (if plan.codeBased.isEmpty then none else some plan.codeBased.length) = _
    cases plan.codeBased <;> rfl

end Outbox

namespace SurfaceStore

variable {α : Type u}

/-- A merge touches a store if the batch has a value, or if a requested surface had
    one. Which of the two it is, the counts do not tell apart: a surface that had
    values and takes new ones is not counted, but the new ones are. -/
theorem touched_iff {store : SurfaceStore α} (h : store.HoldsContent) (requested : SurfaceSet)
    (batch : SurfaceStore α) :
    0 < batch.count + (store.merge requested batch.lists).1.removed
      ↔ (∃ s, batch.get s ≠ []) ∨ ∃ s ∈ requested, store.get s ≠ [] := by
  by_cases hbatch : ∃ s, batch.get s ≠ []
  · -- The values of the batch count on their own.
    have hcount : batch.count ≠ 0 := by
      rw [ne_eq, count_eq_zero_iff, Classical.not_forall]
      exact hbatch
    exact iff_of_true (by omega) (Or.inl hbatch)
  · have hnone : ∀ s, batch.get s = [] := by
      simpa only [ne_eq, not_exists, Classical.not_not] using hbatch
    have hcount : batch.count = 0 := batch.count_eq_zero_iff.mpr hnone
    rw [hcount, Nat.zero_add, merge_removed, List.countP_pos_iff]
    simp only [hbatch, false_or]
    -- Without values in the batch, every requested surface that is held is dropped.
    refine exists_congr fun s => and_congr (requested.mem_toList s) ?_
    rw [content?_lists_of_get_eq_nil (hnone s), Option.isNone_none, Bool.and_true, h.contains_iff]

end SurfaceStore

namespace Retained

variable (r : Retained) (requested : SurfaceSet) (image : BatchImage)

theorem get_merge (category : RuleCategory) :
    (r.merge requested image).2.rules.get category
      = ((r.rules.get category).merge requested (image.rules.get category).lists).2 := by
  cases category <;> rfl

/-- A merge addresses an engine if it touches the rules of a category that the
    engine runs. -/
theorem isSome_rulesFor_merge_iff_touched (engine : Engine) :
    ((r.merge requested image).1.rulesFor engine).isSome = true
      ↔ ∃ category ∈ engine.categories, 0 < (image.rules.get category).count
        + ((r.rules.get category).merge requested (image.rules.get category).lists).1.removed := by
  have hplan : ∀ (addressed : Bool) (rules : List Rule),
      (if addressed then some rules else none).isSome = addressed := by
    intro addressed rules
    cases addressed <;> rfl
  cases engine with
  | inApp =>
      refine (Bool.eq_iff_iff.mp (hplan _ _)).trans ?_
      simp only [Bool.or_eq_true, decide_eq_true_eq, Engine.categories, List.mem_cons,
        List.not_mem_nil, or_false, exists_eq_or_imp, exists_eq_left]
      rfl
  | cards =>
      refine (Bool.eq_iff_iff.mp (hplan _ _)).trans ?_
      simp only [decide_eq_true_eq, Engine.categories, List.mem_cons, List.not_mem_nil, or_false,
        exists_eq_left]
      rfl

variable {r}

/-- A merge addresses an engine if the batch has rules for it, or if a requested
    surface had some. -/
theorem isSome_rulesFor_merge (h : r.rules.HoldsContent) (engine : Engine) :
    ((r.merge requested image).1.rulesFor engine).isSome = true
      ↔ (∃ s, engine.HasRulesAt image.rules s)
        ∨ ∃ s ∈ requested, engine.HasRulesAt r.rules s := by
  rw [isSome_rulesFor_merge_iff_touched]
  -- Each category has its own surfaces, so the quantifiers change places.
  simp only [SurfaceStore.touched_iff (h _), Engine.HasRulesAt, and_or_left, exists_or]
  exact or_congr ⟨fun ⟨category, hmem, s, hs⟩ => ⟨s, category, hmem, hs⟩,
      fun ⟨s, category, hmem, hs⟩ => ⟨category, hmem, s, hs⟩⟩
    ⟨fun ⟨category, hmem, s, hs, hget⟩ => ⟨s, hs, category, hmem, hget⟩,
      fun ⟨s, hs, category, hmem, hget⟩ => ⟨category, hmem, s, hs, hget⟩⟩

theorem get_merge_of_rulesFor_eq_none {engine : Engine}
    (hnone : (r.merge requested image).1.rulesFor engine = none) {category : RuleCategory}
    (hcategory : category ∈ engine.categories) :
    (r.merge requested image).2.rules.get category = r.rules.get category := by
  rw [← Option.isNone_iff_eq_none, ← Option.not_isSome, Bool.not_eq_true',
    ← Bool.not_eq_true, isSome_rulesFor_merge_iff_touched] at hnone
  rw [get_merge]
  exact SurfaceStore.merge_eq_self_of_untouched fun htouched =>
    hnone ⟨category, hcategory, htouched⟩

theorem holdsContent_merge (h : r.rules.HoldsContent) :
    (r.merge requested image).2.rules.HoldsContent := by
  intro category
  rw [get_merge]
  exact (h category).merge requested _

end Retained

/-- A batch has code-based propositions if one of its propositions for a requested
    surface belongs there. -/
theorem BatchImage.codeBasedPropositions_ne_nil (propositions : List Proposition)
    (requested : SurfaceSet) :
    (ofBatch propositions requested).codeBasedPropositions ≠ []
      ↔ ∃ q ∈ propositions, q.surface ∈ requested
        ∧ (Placement.ofProposition q).codeBased = true := by
  have hget := get_store_ofBatch propositions requested .codeBased
  rw [codeBasedPropositions, ne_eq, List.eq_nil_iff_forall_not_mem, Classical.not_forall]
  simp only [Classical.not_not, SurfaceStore.mem_flatten]
  constructor
  · rintro ⟨q, s, hq⟩
    -- What the image has at a surface comes from the ranked list of the surface.
    rw [show (ofBatch propositions requested).codeBased.get s = _ from hget s] at hq
    by_cases hs : requested.contains s = true
    · rw [if_pos hs, List.mem_filter, mem_rankedAt] at hq
      exact ⟨q, hq.1.1, hq.1.2 ▸ hs, hq.2⟩
    · rw [if_neg hs] at hq
      exact absurd hq List.not_mem_nil
  · rintro ⟨q, hq, hs, hbelongs⟩
    refine ⟨q, q.surface, ?_⟩
    rw [show (ofBatch propositions requested).codeBased.get q.surface = _ from hget q.surface,
      if_pos (show requested.contains q.surface = true from hs), List.mem_filter, mem_rankedAt]
    exact ⟨⟨hq, rfl⟩, hbelongs⟩

namespace Pipeline

variable {σ : Type} (home : Home (StateM σ))

/-- No surface is held without rules, whatever was done. -/
theorem rulesHoldContent_call {p : Pipeline} (h : p.retained.rules.HoldsContent) (call : Call)
    (c : σ) : ((p.call home call).run c).1.2.retained.rules.HoldsContent := by
  rcases p.retained_call home call c with ⟨requested, propositions, hmerge⟩
  rw [hmerge]
  exact Retained.holdsContent_merge _ _ h

theorem rulesHoldContent_reached {p : Pipeline} (h : p.retained.rules.HoldsContent) (c : σ)
    (calls : List Call) : (p.reached home c calls).1.retained.rules.HoldsContent :=
  reached_of_kept home (fun p => p.retained.rules.HoldsContent)
    (fun _ call c h => rulesHoldContent_call home h call c) h c calls

theorem isSome_rulesFor_reconcilePlan {p : Pipeline} (h : p.retained.rules.HoldsContent)
    (w : Write) (engine : Engine) :
    ((p.reconcilePlan w.surfaces w.image).rulesFor engine).isSome = true
      ↔ (∃ s, engine.HasRulesAt w.image.rules s)
        ∨ ∃ s ∈ w.surfaces, engine.HasRulesAt p.retained.rules s := by
  rw [← Retained.isSome_rulesFor_merge w.surfaces w.image h]
  cases engine <;> exact Iff.rfl

/-- The rules of an engine that a write does not address stay as they are. -/
theorem get_written_of_rulesFor_eq_none {p : Pipeline} {w : Write} {engine : Engine}
    (hnone : (p.reconcilePlan w.surfaces w.image).rulesFor engine = none)
    {category : RuleCategory} (hcategory : category ∈ engine.categories) :
    (p.written w).retained.rules.get category = p.retained.rules.get category := by
  have hmerge : (p.retained.merge w.surfaces w.image).1.rulesFor engine = none := by
    cases engine <;> exact hnone
  exact Retained.get_merge_of_rulesFor_eq_none w.surfaces w.image hmerge hcategory

/-- Engines and listeners are addressed exactly when they should be. A completed
    request addresses an engine if its batch has a rule for it or one of its
    surfaces had one, and the listeners if one of its propositions is code-based.
    Forgetting surfaces addresses an engine if one of them had a rule for it, and
    never the listeners. Whoever is not addressed has the rules that it had, and
    the receipt has the lengths of what was sent. -/
theorem addressed_exactly_when_concerned (appId : String) (c : σ) (calls : List Call) :
    let p := ((start appId).reached home c calls).1
    let c := ((start appId).reached home c calls).2
    (∀ id batch, (p.pending.complete id).1 = some batch →
      let image := BatchImage.ofBatch batch.propositions batch.surfaces
      let done := (p.complete home id).run c
      ∃ lists notice receipt,
        done.1.1 = some {
          request := id
          propositions := batch.propositions.length
          dispatched := receipt }
        ∧ p.outbox.Sends done.1.2.outbox lists notice receipt
        ∧ (∀ engine, (lists engine).isSome = true
          ↔ (∃ s, engine.HasRulesAt image.rules s)
            ∨ ∃ s ∈ batch.surfaces, engine.HasRulesAt p.retained.rules s)
        ∧ (notice.isSome = true ↔ ∃ q ∈ batch.propositions, q.surface ∈ batch.surfaces
          ∧ (Placement.ofProposition q).codeBased = true)
        ∧ ∀ engine, lists engine = none → ∀ category ∈ engine.categories,
          done.1.2.retained.rules.get category = p.retained.rules.get category)
    ∧ ∀ surfaces,
      let done := (p.clear home surfaces).run c
      ∃ lists, p.outbox.Sends done.1.2.outbox lists none done.1.1
        ∧ (∀ engine, (lists engine).isSome = true
          ↔ ∃ s ∈ surfaces, engine.HasRulesAt p.retained.rules s)
        ∧ ∀ engine, lists engine = none → ∀ category ∈ engine.categories,
          done.1.2.retained.rules.get category = p.retained.rules.get category := by
  intro p c
  have hcontent : p.retained.rules.HoldsContent :=
    rulesHoldContent_reached home BatchImage.holdsContent_empty.rules _ calls
  constructor
  · intro id batch hbatch image done
    have hcomplete : done = _ := p.complete_run home id c
    rw [show p.pending.complete id = (some batch, (p.pending.complete id).2) from
      Prod.ext hbatch rfl] at hcomplete
    rw [hcomplete]
    -- Only the open requests have changed when the batch is written.
    let q : Pipeline := { p with pending := (p.pending.complete id).2 }
    let w : Write := .complete batch
    refine ⟨_, _, _, rfl, q.outbox.sends_dispatch (q.reconcilePlan w.surfaces w.image),
      isSome_rulesFor_reconcilePlan (p := q) hcontent w, ?_,
      fun engine hnone category hcategory => get_written_of_rulesFor_eq_none hnone hcategory⟩
    exact (Outbox.isSome_notice image.codeBasedPropositions).trans
      (BatchImage.codeBasedPropositions_ne_nil batch.propositions batch.surfaces)
  · intro surfaces done
    let w : Write := .clear (.ofList surfaces)
    rw [show done.1.1 = _ from p.clear_receipt home surfaces c,
      show done.1.2 = _ from (p.clear_run home surfaces c).1]
    refine ⟨_, p.outbox.sends_dispatch (p.reconcilePlan w.surfaces w.image), fun engine => ?_,
      fun engine hnone category hcategory => get_written_of_rulesFor_eq_none hnone hcategory⟩
    rw [isSome_rulesFor_reconcilePlan hcontent]
    -- Nothing is brought, so only what the surfaces had counts.
    have himage : ¬∃ s, engine.HasRulesAt w.image.rules s :=
      fun ⟨s, hs⟩ => engine.not_hasRulesAt_empty s hs
    rw [or_iff_right himage]
    exact exists_congr fun s => and_congr_left' (SurfaceSet.contains_ofList surfaces s)

/-- A request with one content card. Both engines are addressed when it is
    completed, the in-app engine for the history rules of the card, but no
    listener is. -/
theorem card_addresses_both_engines :
    let s : Surface := ⟨"mobileapp://app/cards"⟩
    let card := Proposition.build "card" s.uri [] [BatchImage.cardRuleset]
    let home : Home (StateM Unit) := ⟨none, "propositions"⟩
    let calls : List Call := [.operation (.register "request" (.ofList [s])),
      .operation (.fragment (Fragment.event "request" (.arr [card.toJson])))]
    let p := ((start "app").reached home () calls).1
    let batch : Batch :=
      { request := "request", surfaces := .ofList [s], propositions := [card] }
    (p.pending.complete "request").1 = some batch
      ∧ ∃ lists receipt,
        p.outbox.Sends ((p.complete home "request").run ()).1.2.outbox lists none receipt
          ∧ ∀ engine, (lists engine).isSome = true := by
  intro s card home calls p batch
  have hbatch : (p.pending.complete "request").1 = some batch := by decide +kernel
  rcases (addressed_exactly_when_concerned home "app" () calls).1 "request" batch hbatch with
    ⟨lists, notice, receipt, _, hsends, hlists, hnotice, _⟩
  have hnone : notice = none := by
    rw [← Option.not_isSome_iff_eq_none, hnotice]
    decide +kernel
  subst hnone
  refine ⟨hbatch, lists, receipt, hsends, fun engine => (hlists engine).mpr (Or.inl ⟨s, ?_⟩)⟩
  cases engine <;> decide +kernel

end Pipeline

end Decisioning
