import Decisioning.Proofs.Operation

/-!
# Engines and Retained Rules

Why an engine that is left alone has nothing to catch up on.

An engine is only given its list anew when a count says so: the rules that a
batch brought for it, over all surfaces, plus the surfaces that were dropped
from its stores. The count is taken over whole stores and never compares a list
with the one before. It is enough because a merge that brings no rule and drops
no surface cannot have changed its store, which is
`SurfaceStore.merge_eq_self_of_untouched`. The in-app engine runs the rules of
two categories, so it is left alone only if both counts are zero.

The cache has no part in this. It is any cache at all below: one that holds
something else, fails now and then, or answers differently every time.

## Main definitions

* `EnginesCurrent`: The engines have the retained rules.

## Theorems

* `SurfaceStore.merge_eq_self_of_untouched`: A store whose engine is not
  addressed has not changed.
* `Retained.inAppRules_merge`, `cardRules_merge`: A plan keeps the engines up to
  date.
* `enginesCurrent_call`: Every call keeps the engines up to date.
* `outbox_call`, `retained_call`: Every call sends out one plan and merges one
  batch.
* `engines_have_retained_rules`: The engines have the retained rules after any
  calls.
-/

namespace Decisioning

universe u

/-- A merge without a rule in the batch and without a dropped surface changes
    nothing, so the engine that it concerns need not hear of it. -/
theorem SurfaceStore.merge_eq_self_of_untouched {α : Type u} {store batch : SurfaceStore α}
    {requested : SurfaceSet}
    (h : ¬0 < batch.count + (store.merge requested batch.lists).1.removed) :
    (store.merge requested batch.lists).2 = store := by
  have hcount : batch.count = 0 := by omega
  have hremoved : (store.merge requested batch.lists).1.removed = 0 := by omega
  refine merge_eq_self store requested batch.lists (fun s => ?_) hremoved
  exact content?_lists_of_get_eq_nil (batch.count_eq_zero_iff.mp hcount s)

/-- A list that is only sent when a store was touched is up to date afterwards if
    an untouched store keeps it. -/
theorem getD_of_untouched {α : Type u} {touched : Bool} {new old : α}
    (h : touched = false → new = old) : (if touched then some new else none).getD old = new := by
  cases touched with
  | true => rfl
  | false => exact (h rfl).symm

namespace Retained

/-- After a merge the in-app engine has its rules: they are sent, or they are the
    ones that it had. -/
theorem inAppRules_merge (r : Retained) (requested : SurfaceSet) (image : BatchImage) :
    (r.merge requested image).1.inAppRules.getD r.inAppRules
      = (r.merge requested image).2.inAppRules := by
  refine getD_of_untouched fun huntouched => ?_
  rw [Bool.or_eq_false_iff, decide_eq_false_iff_not, decide_eq_false_iff_not] at huntouched
  -- The engine runs two categories, and neither of their stores has changed.
  have hinApp : (r.rules.inApp.merge requested image.rules.inApp.lists).2 = r.rules.inApp :=
    SurfaceStore.merge_eq_self_of_untouched huntouched.1
  have hhistory : (r.rules.eventHistory.merge requested image.rules.eventHistory.lists).2
      = r.rules.eventHistory := SurfaceStore.merge_eq_self_of_untouched huntouched.2
  change SurfaceStore.flatten (r.rules.inApp.merge requested image.rules.inApp.lists).2
    ++ SurfaceStore.flatten (r.rules.eventHistory.merge requested
      image.rules.eventHistory.lists).2 = r.inAppRules
  rw [hinApp, hhistory]
  rfl

/-- After a merge the card engine has its rules. -/
theorem cardRules_merge (r : Retained) (requested : SurfaceSet) (image : BatchImage) :
    (r.merge requested image).1.cardRules.getD r.cardRules
      = (r.merge requested image).2.cardRules := by
  refine getD_of_untouched fun huntouched => ?_
  rw [decide_eq_false_iff_not] at huntouched
  have hcards : (r.rules.contentCard.merge requested image.rules.contentCard.lists).2
      = r.rules.contentCard := SurfaceStore.merge_eq_self_of_untouched huntouched
  change SurfaceStore.flatten (r.rules.contentCard.merge requested
    image.rules.contentCard.lists).2 = r.cardRules
  rw [hcards]
  rfl

end Retained

namespace Outbox

/-- The list that was sent last: the one of the plan, or the last one before. -/
theorem getLast?_append_toList (sent : List (List Rule)) (rules : Option (List Rule)) :
    (sent ++ rules.toList).getLast?.getD [] = rules.getD (sent.getLast?.getD []) := by
  cases rules with
  | none => rw [Option.toList_none, List.append_nil, Option.getD_none]
  | some rules =>
      rw [Option.toList_some, List.getLast?_concat, Option.getD_some, Option.getD_some]

theorem inAppRules_dispatch (outbox : Outbox) (plan : DispatchPlan) :
    (outbox.dispatch plan).2.inAppRules = plan.inAppRules.getD outbox.inAppRules :=
  getLast?_append_toList outbox.inApp plan.inAppRules

theorem cardRules_dispatch (outbox : Outbox) (plan : DispatchPlan) :
    (outbox.dispatch plan).2.cardRules = plan.cardRules.getD outbox.cardRules :=
  getLast?_append_toList outbox.cards plan.cardRules

end Outbox

namespace Pipeline

/-- The engines have the retained rules. -/
structure EnginesCurrent (p : Pipeline) : Prop where
  inApp : p.outbox.inAppRules = p.retained.inAppRules
  cards : p.outbox.cardRules = p.retained.cardRules

variable {σ : Type} (home : Home (StateM σ))

/-- Engines stay up to date when the plan of a merge is carried out, whatever is
    told to the listeners and whatever happens to the other stores. -/
theorem EnginesCurrent.dispatch_merge {p q : Pipeline} (h : p.EnginesCurrent)
    {requested : SurfaceSet} {image : BatchImage} {plan : DispatchPlan}
    (houtbox : q.outbox = p.outbox)
    (hretained : q.retained = (p.retained.merge requested image).2)
    (hinApp : plan.inAppRules = (p.retained.merge requested image).1.inAppRules)
    (hcards : plan.cardRules = (p.retained.merge requested image).1.cardRules) :
    (q.dispatch plan).2.EnginesCurrent := by
  constructor
  · change (q.outbox.dispatch plan).2.inAppRules = q.retained.inAppRules
    rw [Outbox.inAppRules_dispatch, houtbox, h.inApp, hinApp, hretained,
      Retained.inAppRules_merge]
  · change (q.outbox.dispatch plan).2.cardRules = q.retained.cardRules
    rw [Outbox.cardRules_dispatch, houtbox, h.cards, hcards, hretained,
      Retained.cardRules_merge]

theorem EnginesCurrent.after {p : Pipeline} (h : p.EnginesCurrent) (op : Operation) :
    (p.after op).EnginesCurrent := by
  cases hwrite : p.write? op with
  | none =>
      rw [after_of_no_write p hwrite]
      exact ⟨h.inApp, h.cards⟩
  | some w =>
      rw [after_of_write p hwrite]
      exact h.dispatch_merge rfl rfl rfl rfl

theorem EnginesCurrent.restoredFrom {p : Pipeline} (h : p.EnginesCurrent)
    (loaded : SurfaceStore Proposition) : (p.restoredFrom loaded).EnginesCurrent :=
  h.dispatch_merge rfl rfl rfl rfl

/-- Every call keeps the engines up to date. -/
theorem enginesCurrent_call {p : Pipeline} (h : p.EnginesCurrent) (call : Call) (c : σ) :
    ((p.call home call).run c).1.2.EnginesCurrent := by
  cases call with
  | load =>
      change ((p.load home).run c).1.2.EnginesCurrent
      rw [(p.load_run home c).1]
      cases (home.stored?.run c).1 with
      | none => exact h
      | some loaded => exact h.restoredFrom loaded
  | operation op =>
      change ((p.perform home op).run c).1.2.EnginesCurrent
      rw [(p.perform_run home op c).1]
      exact h.after op

theorem enginesCurrent_reached {p : Pipeline} (h : p.EnginesCurrent) (c : σ)
    (calls : List Call) : (p.reached home c calls).1.EnginesCurrent :=
  reached_of_kept home EnginesCurrent (fun _ call c h => enginesCurrent_call home h call c) h c calls

/-- Every call sends out one plan, if only the empty one. -/
theorem outbox_call (p : Pipeline) (call : Call) (c : σ) :
    ∃ plan, ((p.call home call).run c).1.2.outbox = (p.outbox.dispatch plan).2 := by
  cases call with
  | load =>
      change ∃ plan, ((p.load home).run c).1.2.outbox = (p.outbox.dispatch plan).2
      rw [(p.load_run home c).1]
      cases (home.stored?.run c).1 with
      | none => exact ⟨.nothing, p.outbox.dispatch_nothing.symm⟩
      | some loaded => exact ⟨_, rfl⟩
  | operation op =>
      change ∃ plan, ((p.perform home op).run c).1.2.outbox = (p.outbox.dispatch plan).2
      rw [(p.perform_run home op c).1]
      cases hwrite : p.write? op with
      | none =>
          -- Nothing is sent, as by the empty plan.
          rw [after_of_no_write p hwrite]
          exact ⟨.nothing, p.outbox.dispatch_nothing.symm⟩
      | some w =>
          rw [after_of_write p hwrite]
          exact ⟨_, rfl⟩

/-- Every call merges the image of one batch into the retained rules, if only that
    of nothing for no surface. -/
theorem retained_call (p : Pipeline) (call : Call) (c : σ) :
    ∃ requested propositions, ((p.call home call).run c).1.2.retained
      = (p.retained.merge requested (.ofBatch propositions requested)).2 := by
  -- What changes nothing is a merge that no surface is requested for.
  have hsame : p.retained
      = (p.retained.merge (.ofList []) (.ofBatch [] (.ofList []))).2 := by
    rw [BatchImage.ofBatch_nil, Retained.merge_no_surfaces]
  cases call with
  | load =>
      change ∃ requested propositions, ((p.load home).run c).1.2.retained = _
      rw [(p.load_run home c).1]
      cases (home.stored?.run c).1 with
      | none => exact ⟨_, _, hsame⟩
      | some loaded => exact ⟨loaded.surfaceSet, loaded.flatten, rfl⟩
  | operation op =>
      change ∃ requested propositions, ((p.perform home op).run c).1.2.retained = _
      rw [(p.perform_run home op c).1]
      cases hwrite : p.write? op with
      | none =>
          rw [after_of_no_write p hwrite]
          exact ⟨_, _, hsame⟩
      | some w =>
          rw [after_of_write p hwrite]
          cases w with
          | complete batch => exact ⟨batch.surfaces, batch.propositions, rfl⟩
          | clear surfaces =>
              refine ⟨surfaces, [], ?_⟩
              rw [BatchImage.ofBatch_nil]
              rfl

theorem enginesCurrent_start (appId : String) : (start appId).EnginesCurrent := ⟨rfl, rfl⟩

/-- Engines and retained rules never drift apart. After any calls, over any cache,
    the list that the in-app engine was given last is that of all in-app rules
    and then all history rules that are retained, and the list that the card
    engine was given last is that of all card rules, each surface after surface
    in URI order. A further call gives each engine at most one list. -/
theorem engines_have_retained_rules (appId : String) (c : σ) (calls : List Call) :
    let p := ((start appId).reached home c calls).1
    let rules := p.retained.rules
    p.outbox.inAppRules
        = rules.inApp.surfaces.flatMap rules.inApp.get
          ++ rules.eventHistory.surfaces.flatMap rules.eventHistory.get
      ∧ p.outbox.cardRules = rules.contentCard.surfaces.flatMap rules.contentCard.get
      ∧ (∀ category, (rules.get category).surfaces.Pairwise fun s t => s.uri < t.uri)
      ∧ ∀ call, ∃ toInApp toCards : List (List Rule),
        toInApp.length ≤ 1 ∧ toCards.length ≤ 1
          ∧ ((start appId).reached home c (calls ++ [call])).1.outbox.inApp
            = p.outbox.inApp ++ toInApp
          ∧ ((start appId).reached home c (calls ++ [call])).1.outbox.cards
            = p.outbox.cards ++ toCards := by
  intro p rules
  have hcurrent : p.EnginesCurrent :=
    enginesCurrent_reached home (enginesCurrent_start appId) c calls
  refine ⟨?_, ?_, fun category => (rules.get category).surfaces_sorted, fun call => ?_⟩
  · rw [hcurrent.inApp, ← SurfaceStore.flatten_eq_flatMap_get,
      ← SurfaceStore.flatten_eq_flatMap_get]
    rfl
  · rw [hcurrent.cards, ← SurfaceStore.flatten_eq_flatMap_get]
    rfl
  · -- One more call carries out one plan, which has at most one list for each engine.
    rw [reached_append]
    change ∃ toInApp toCards : List (List Rule), _ ∧ _
      ∧ ((p.call home call).run ((start appId).reached home c calls).2).1.2.outbox.inApp = _
      ∧ ((p.call home call).run ((start appId).reached home c calls).2).1.2.outbox.cards = _
    rcases outbox_call home p call ((start appId).reached home c calls).2 with ⟨plan, hplan⟩
    rw [hplan]
    exact ⟨plan.inAppRules.toList, plan.cardRules.toList, Option.length_toList_le,
      Option.length_toList_le, rfl, rfl⟩

end Pipeline

end Decisioning
