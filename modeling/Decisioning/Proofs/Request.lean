import Decisioning.Request

/-!
# Pending Requests by Id

What the steps on pending requests do to each id.

A step on one request is a step on one key of a map, so it shows at that id and
nowhere else. The three look-ups below say what it shows there, and everything
else about requests follows from them.

## Theorems

* `PendingRequests.get?_register`, `get?_append`, `get?_complete`: The open
  requests after a step.
* `PendingRequests.complete_fst`: What a closed request hands over.
* `PendingRequests.complete_of_none`: Closing a request that is not open.
-/

namespace Decisioning

namespace PendingRequests

variable {pending : PendingRequests}

theorem get?_register (id key : String) (surfaces : SurfaceSet) :
    (pending.register id surfaces).2.get? key
      = if key = id then some { surfaces, propositions := [], fragments := 0 }
        else pending.get? key :=
  SortedMap.get?_insert _ _ _ _

theorem get?_append (id key : String) (propositions : List Proposition) :
    (pending.append id propositions).2.get? key
      = if key = id then (pending.get? id).map fun request =>
          { request with
            propositions := request.propositions ++ propositions
            fragments := request.fragments + 1 }
        else pending.get? key := by
  unfold append
  cases hget : pending.get? id with
  | none =>
      by_cases hkey : key = id
      · rw [if_pos hkey, hkey, hget, Option.map_none]
      · rw [if_neg hkey]
  | some request => exact SortedMap.get?_insert _ _ _ _

theorem get?_complete (id key : String) :
    (pending.complete id).2.get? key = if key = id then none else pending.get? key := by
  unfold complete
  cases hget : pending.get? id with
  | none =>
      by_cases hkey : key = id
      · rw [if_pos hkey, hkey, hget]
      · rw [if_neg hkey]
  | some request => exact SortedMap.get?_erase _ _ _

/-- The batch of a completed request is what it had received. -/
theorem complete_fst (id : String) :
    (pending.complete id).1 = (pending.get? id).map fun request =>
      { request := id, surfaces := request.surfaces, propositions := request.propositions } := by
  unfold complete
  cases pending.get? id with
  | none => rfl
  | some request => rfl

/-- Closing a request that is not open changes nothing. -/
theorem complete_of_none {id : String}
    (h : (pending.complete id).1 = none) : (pending.complete id).2 = pending := by
  unfold complete at h ⊢
  cases hget : pending.get? id with
  | none => rfl
  | some request =>
      rw [hget] at h
      exact absurd h (by simp only [reduceCtorEq, not_false_eq_true])

end PendingRequests

end Decisioning
