import Decisioning.Session.Replay
import Decisioning.Proofs.Arrival
import Decisioning.Proofs.RequestedSurfaces
import Decisioning.Proofs.SessionText

/-!
# Replaying an Answered Request

What the steps of a session do to the pipeline.

A session has labels where the pipeline has ids, and its steps are requests,
fragments and completions of the pipeline with the ids put in. The log of a session
shows what the pipeline answered. So a session that asks for surfaces, delivers an
answer in pieces and completes the request is an answered request in the sense of
`Pipeline.answered`, with a log in which every piece is accepted.

## Main definitions

* `arrivals`: The operations by which the pieces of an answer arrive.

## Theorems

* `Replay.step_fragment`, `run_fragments`: The pieces of an answer are accepted and
  arrive at their request.
* `Replay.run_response`: A session with one request is one answered request.
* `Session.replay_run`: A session without a cache.
-/

namespace Decisioning

/-- The fragments in which the pieces of an answer arrive. -/
def arrivals (id : String) (pieces : List (List Json)) : List Operation :=
  pieces.map fun piece => .fragment (Fragment.event id (.arr piece))

theorem arrives_arrivals {id : String} (hid : id.isEmpty = false) (pieces : List (List Json)) :
    Arrives id pieces.flatten (arrivals id pieces) := by
  induction pieces with
  | nil => exact .done
  | cons piece rest ih => exact ih.event hid piece

namespace Replay

variable {σ : Type} (home : Home (StateM σ)) (supply : Nat → String)

theorem run_cons_run (r : Replay) (s : Step) (rest : List Step) (c : σ) :
    (r.run home supply (s :: rest)).run c
      = let first := (r.step home supply s).run c
        let others := (first.1.2.run home supply rest).run first.2
        ((first.1.1 :: others.1.1, others.1.2), others.2) := rfl

/-- A fragment that comes under a label goes to the request with the id of the label.
    If this is open, the fragment is accepted, adds to it, and leaves it open. -/
theorem step_fragment {label id : String} (hid : id.isEmpty = false) {r : Replay}
    (hlabel : r.idOf label = id) (hopen : (r.pipeline.pending.get? id).isSome = true)
    (payload : Json) (c : σ) :
    let pending := r.pipeline.pendingAfter (.fragment (Fragment.event id payload))
    (r.step home supply (.fragment label payload)).run c
        = ((.fragment label true, { r with pipeline := { r.pipeline with pending } }), c)
      ∧ (pending.get? id).isSome = true := by
  intro pending
  let event := Fragment.event id payload
  have hread : Fragment.ofEvent? event
      = some { request := id, propositions := Proposition.ofPayload event } :=
    Fragment.ofEvent?_event hid payload
  have hpending : pending = (r.pipeline.pending.append id (Proposition.ofPayload event)).2 := by
    change r.pipeline.pendingAfter (.fragment event) = _
    dsimp only [Pipeline.pendingAfter]
    rw [hread]
  -- A request that is open takes the fragment and stays open.
  rcases Option.isSome_iff_exists.mp hopen with ⟨request, hrequest⟩
  have haccepted : (r.pipeline.pending.append id (Proposition.ofPayload event)).1 = true := by
    rw [PendingRequests.append, hrequest]
  constructor
  · change (r.fragment label payload, c) = _
    rw [fragment, hlabel, Pipeline.receiveEvent, hread]
    dsimp only [Pipeline.receive]
    rw [haccepted, hpending]
  · rw [hpending, PendingRequests.get?_append, if_pos rfl, hrequest]
    rfl

/-- Pieces of an answer that come under a label arrive at the request with its id, and
    are accepted one after another, while the request stays open. -/
theorem run_fragments {label id : String} (hid : id.isEmpty = false) (pieces : List (List Json))
    {r : Replay} (hlabel : r.idOf label = id)
    (hopen : (r.pipeline.pending.get? id).isSome = true) (rest : List Step) (c : σ) :
    (r.run home supply (pieces.map (fun piece => .fragment label (.arr piece)) ++ rest)).run c
      = let reached := r.pipeline.reached home c ((arrivals id pieces).map .operation)
        let later := (run home supply { r with pipeline := reached.1 } rest).run reached.2
        ((List.replicate pieces.length (.fragment label true) ++ later.1.1, later.1.2),
          later.2) := by
  induction pieces generalizing r with
  | nil => rfl
  | cons piece others ih =>
      rcases step_fragment home supply hid hlabel hopen (.arr piece) c with ⟨hstep, hstillOpen⟩
      rw [List.map_cons, List.cons_append, run_cons_run, hstep, arrivals, List.map_cons,
        List.map_cons, Pipeline.reached_fragment]
      dsimp only
      -- No label is given meanwhile, so the next piece goes to the same request.
      rw [ih (by exact hlabel) (by exact hstillOpen)]
      rfl

theorem run_complete {label id : String} (hid : id.isEmpty = false) {r : Replay}
    (hlabel : r.idOf label = id) (c : σ) :
    (r.run home supply [.complete label]).run c
      = let done := (r.pipeline.complete home id).run c
        (([.complete label done.1.1], { r with pipeline := done.1.2 }), done.2) := by
  have hevent : r.pipeline.completeEvent home (completionEvent (r.idOf label))
      = r.pipeline.complete home id := by
    rw [Pipeline.completeEvent, hlabel, completedRequest?_completionEvent hid]
  rw [← hevent]
  rfl

/-- A session with one request is that request, answered with the pieces and
    completed. -/
theorem run_response (label : String) {surfaces : List String} (hsome : surfaces ≠ [])
    (hvalid : ∀ s ∈ surfaces, (Surface.mk s).isValid = true) (hid : (supply 0).isEmpty = false)
    (pieces : List (List Json)) (p : Pipeline) (c : σ) :
    let done := p.answered home c (supply 0) (.ofList (surfaces.map Surface.mk))
      (arrivals (supply 0) pieces)
    let replayed :=
      ((start p).run home supply (Session.ofResponse label surfaces pieces).steps).run c
    replayed.1.1 = .request label surfaces.length true
        :: List.replicate pieces.length (.fragment label true) ++ [.complete label done.1.1]
      ∧ replayed.1.2.pipeline = done.1.2 := by
  intro done replayed
  let requested := SurfaceSet.ofList (surfaces.map Surface.mk)
  let asking : Replay := { pipeline := p.register (supply 0) requested
                           labels := SortedMap.empty.insert label (supply 0)
                           issued := 1 }
  have hrequest : ((start p).step home supply (.request label surfaces)).run c
      = ((.request label surfaces.length true, asking), c) := by
    have hopened : p.request (supply 0) (surfaces.map Surface.mk)
        = some (p.register (supply 0) requested) :=
      p.request_of_isValid (supply 0) (mt List.map_eq_nil_iff.mp hsome)
        (List.forall_mem_map.mpr hvalid)
    change ((start p).request supply label surfaces, c) = _
    rw [request, show (start p).pipeline.request (supply (start p).issued) _ = _ from hopened]
    rfl
  have hlabel : asking.idOf label = supply 0 := by
    change ((SortedMap.empty.insert label (supply 0)).get? label).getD label = supply 0
    rw [SortedMap.get?_insert, if_pos rfl, Option.getD_some]
  have hopen : (asking.pipeline.pending.get? (supply 0)).isSome = true := by
    change ((p.pending.register (supply 0) requested).2.get? (supply 0)).isSome = true
    rw [PendingRequests.get?_register, if_pos rfl, Option.isSome_some]
  -- The request opens, the fragments arrive, and the completion closes it.
  have hreplayed : replayed = ((.request label surfaces.length true
      :: List.replicate pieces.length (.fragment label true) ++ [.complete label done.1.1],
      { asking with pipeline := done.1.2 }), done.2) := by
    change ((start p).run home supply (.request label surfaces
      :: (pieces.map (fun piece => .fragment label (.arr piece)) ++ [.complete label]))).run c = _
    rw [run_cons_run, hrequest]
    dsimp only
    rw [run_fragments home supply hid pieces hlabel hopen]
    dsimp only
    rw [run_complete home supply hid (by exact hlabel)]
    rfl
  rw [hreplayed]
  exact ⟨rfl, rfl⟩

end Replay

/-- Without a cache, nothing is restored before the first step. -/
theorem Session.replay_run {σ : Type} (session : Session) (appId key : String)
    (supply : Nat → String) (c : σ) :
    let home : Home (StateM σ) := ⟨none, key⟩
    let replayed := ((Replay.start (.start appId)).run home supply session.steps).run c
    (session.replay appId home supply).run c
      = (.ofPipeline replayed.1.1 replayed.1.2.pipeline, replayed.2) := rfl

end Decisioning
