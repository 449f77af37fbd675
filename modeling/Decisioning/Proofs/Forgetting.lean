import Decisioning.Proofs.LastWriter

/-!
# Forgetting Surfaces

Why forgetting surfaces needs no rules of its own.

There are two ways to empty a surface: to forget it, and to complete a request
for it whose answer holds nothing. They are written apart, one over removals and
one over merges, and an engine is addressed for what the first counts and for what
the second counts. Both come to the same, in what is kept, in what is sent and in
what the cache is asked to do, because a removal is the merge of an empty batch in
each of the seven stores, with the same count, and the tracking records that a
merge leaves are those that a removal leaves.

What lies outside the surfaces is not touched by either.

## Theorems

* `Pipeline.trackingRecord?_forget`, `heldAt_forget`: What is left of the
  tracking records, and at each surface.
* `Pipeline.forgetting_is_completing_nothing`: The two ways are one.
-/

namespace Decisioning

namespace Pipeline

variable {σ : Type} (home : Home (StateM σ)) (p : Pipeline) (surfaces : SurfaceSet) (c : σ)

/-- The surfaces are absent from all stores afterwards, and no other surface has
    changed. -/
theorem heldAt_forget (s : Surface) :
    ((p.forget home surfaces).run c).1.2.heldAt s
      = if surfaces.contains s then .none else p.heldAt s := by
  rw [forget_run, reconcile_run, ← BatchImage.heldAt_empty s]
  -- Nothing was sent yet, but what is sent is no part of what is held.
  have hwritten : (p.reconciled surfaces .empty).heldAt s
      = (p.written (.clear surfaces)).heldAt s := by
    apply Holdings.ext
    · funext kind
      cases kind <;> rfl
    · rfl
  exact hwritten.trans (p.heldAt_written (.clear surfaces) s)

/-- The tracking records that are left are those of other surfaces. -/
theorem trackingRecord?_forget (id : String) :
    ((p.forget home surfaces).run c).1.2.trackingRecord? id
      = (p.trackingRecord? id).filter fun record => !surfaces.contains ⟨record.scope⟩ :=
  SortedMap.get?_filter _ p.retained.tracking id

/-- Forgetting surfaces is completing an empty batch for them. From any state the
    two change the stores, the retained rules and the tracking records alike, plan
    to send the same lists to the same engines, and ask the same of the cache.
    Listeners are not told. What is kept for other surfaces, and every tracking
    record of another surface, stays as it is. -/
theorem forgetting_is_completing_nothing :
    p.forget home surfaces = p.reconcile home surfaces (.ofBatch [] surfaces)
      ∧ ∀ c : σ,
        let plan := ((p.forget home surfaces).run c).1.1
        let after := ((p.forget home surfaces).run c).1.2
        plan.codeBased = []
          ∧ (∀ s, after.heldAt s = if surfaces.contains s then .none else p.heldAt s)
          ∧ ∀ id, after.trackingRecord? id
            = (p.trackingRecord? id).filter fun record => !surfaces.contains ⟨record.scope⟩ := by
  refine ⟨?_, fun c => ⟨?_, p.heldAt_forget home surfaces c,
    p.trackingRecord?_forget home surfaces c⟩⟩
  · rw [BatchImage.ofBatch_nil]
    funext c
    exact p.forget_run home surfaces c
  · rw [forget_run, reconcile_run]
    rfl

end Pipeline

end Decisioning
