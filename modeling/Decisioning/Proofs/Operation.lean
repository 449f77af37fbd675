import Decisioning.Pipeline
import Decisioning.Proofs.BatchImage
import Decisioning.Proofs.Request

/-!
# Operations on Pipelines

The operations of a host as data, and what each of them does to a pipeline.

Whatever a host does, the stores change in one way only: a set of surfaces is
replaced by the image of a batch. A completed request does that with its own
batch, and forgetting surfaces is the same with a batch that has nothing, which
is `Retained.removeSurfaces_eq_merge` and its kin for the other stores. All other
operations only concern the open requests. `after` says this without a cache,
and `perform_run` that the operations do exactly that with any cache: the cache
is written after the stores have changed, and nothing is read from it. So every
invariant has to be shown for one kind of step, and the cache never enters.

Loading is the one step that reads the cache, and is kept apart from the other
operations for that reason.

## Main definitions

* `Operation`, `Call`, `Answer`: What a host asks, without and with loading, and
  what it is told.
* `Pipeline.perform`, `call`, `run`: Operations, calls and lists of calls.
* `Pipeline.reached`: Where a list of calls leads, from a state of the cache.
* `Write`: What an operation does to the stores, if anything.
* `Pipeline.after`: The pipeline after an operation, whatever the cache.

## Theorems

* `Pipeline.forget_run`: Forgetting surfaces is completing an empty batch.
* `Pipeline.perform_run`: The pipeline and the cache after an operation.
* `Pipeline.held?_store_written`, `held?_rules_written`: The stores after a
  write.
* `Home.stored?_run`: What is read from a cache.
* `Pipeline.load_run`, `get_compiled_restoredFrom`: The pipeline after loading,
  and its compiled rules.
* `Pipeline.reached_of_kept`: What every call keeps, a run keeps.
-/

namespace Decisioning

/-- What a host can ask of a running pipeline, apart from loading. -/
inductive Operation where
  /-- Ask for the content of surfaces, under an id drawn for this request. -/
  | request (freshId : String) (surfaces : List Surface)
  /-- Open a request under an id that was issued elsewhere. -/
  | register (id : String) (surfaces : SurfaceSet)
  /-- Pass on a fragment event. -/
  | fragment (event : Json)
  /-- Pass on a completion event. -/
  | completion (event : Json)
  /-- Forget surfaces. -/
  | clear (surfaces : List Surface)

/-- What a host can do with a pipeline. -/
inductive Call where
  /-- Restore what was persisted. -/
  | load
  /-- Any other operation. -/
  | operation (op : Operation)

/-- What a host is told in answer to a call. -/
inductive Answer where
  /-- The id of the request, if one was opened. -/
  | requested (id : Option String)
  | registered
  /-- Whether the fragment was accepted. -/
  | taken (accepted : Bool)
  /-- The report on the batch, if one was completed. -/
  | reported (report : Option BatchReport)
  /-- What was sent out. -/
  | sent (receipt : Receipt)
deriving DecidableEq, Repr

/-- A change of the stores. -/
inductive Write where
  /-- A request was completed with this batch. -/
  | complete (batch : Batch)
  /-- Surfaces were forgotten. -/
  | clear (surfaces : SurfaceSet)

namespace Write

/-- The surfaces that a write covers. -/
def surfaces : Write → SurfaceSet
  | .complete batch => batch.surfaces
  | .clear surfaces => surfaces

/-- What a write puts at the surfaces that it covers. -/
def image : Write → BatchImage
  | .complete batch => .ofBatch batch.propositions batch.surfaces
  | .clear _ => .empty

end Write

theorem Write.image_holdsContent (w : Write) : w.image.HoldsContent := by
  cases w with
  | complete batch => exact BatchImage.holdsContent_ofBatch _ _
  | clear surfaces => exact BatchImage.holdsContent_empty

namespace Pipeline

section Running

variable {m : Type → Type} [Monad m] (home : Home m)

/-- Carry out an operation. -/
def perform (p : Pipeline) : Operation → m (Answer × Pipeline)
  | .request freshId surfaces =>
      return match p.request freshId surfaces with
        | some p => (.requested (some freshId), p)
        | none => (.requested none, p)
  | .register id surfaces => return (.registered, p.register id surfaces)
  | .fragment event =>
      let (accepted, p) := p.receiveEvent event
      return (.taken accepted, p)
  | .completion event => do
      let (report, p) ← p.completeEvent home event
      return (.reported report, p)
  | .clear surfaces => do
      let (receipt, p) ← p.clear home surfaces
      return (.sent receipt, p)

/-- Carry out a call. -/
def call (p : Pipeline) : Call → m (Answer × Pipeline)
  | .load => do
      let (receipt, p) ← p.load home
      return (.sent receipt, p)
  | .operation op => p.perform home op

/-- Carry out calls one after another. -/
def run (p : Pipeline) : List Call → m (List Answer × Pipeline)
  | [] => return ([], p)
  | call :: rest => do
      let (answer, p) ← p.call home call
      let (answers, p) ← run p rest
      return (answer :: answers, p)

end Running

/-- The propositions of a kind that the pipeline has. -/
def store (p : Pipeline) : ContentKind → SurfaceStore Proposition
  | .codeBased => p.codeBased
  | .persisted => p.persisted
  | .cards => p.cards
  | .inbox => p.inbox

/-- The pipeline with the image of a batch for the requested surfaces. -/
def reconciled (p : Pipeline) (requested : SurfaceSet) (image : BatchImage) : Pipeline :=
  { p with
    persisted := (p.persisted.merge requested image.persisted.lists).2
    codeBased := (p.codeBased.merge requested image.codeBased.lists).2
    cards := (p.cards.merge requested image.cards.lists).2
    inbox := (p.inbox.merge requested image.inbox.lists).2
    retained := (p.retained.merge requested image).2 }

/-- What is to be sent for the image of a batch. -/
def reconcilePlan (p : Pipeline) (requested : SurfaceSet) (image : BatchImage) : DispatchPlan :=
  { (p.retained.merge requested image).1 with codeBased := image.codeBasedPropositions }

/-- What an operation does to the stores, if anything. A completion of a request
    that is not open does nothing. -/
def write? (p : Pipeline) : Operation → Option Write
  | .completion event =>
      (completedRequest? event).bind fun id => (p.pending.complete id).1.map .complete
  | .clear surfaces => some (.clear (.ofList surfaces))
  | _ => none

/-- The open requests after an operation. -/
def pendingAfter (p : Pipeline) : Operation → PendingRequests
  | .request freshId surfaces =>
      if (p.requestedSurfaces surfaces).isEmpty then p.pending
      else (p.pending.register freshId (p.requestedSurfaces surfaces)).2
  | .register id surfaces => (p.pending.register id surfaces).2
  | .fragment event =>
      match Fragment.ofEvent? event with
      | some fragment => (p.pending.append fragment.request fragment.propositions).2
      | none => p.pending
  | .completion event =>
      match completedRequest? event with
      | some id => (p.pending.complete id).2
      | none => p.pending
  | .clear _ => p.pending

/-- The pipeline after a write, with everything sent that has to be. -/
def written (p : Pipeline) (w : Write) : Pipeline :=
  ((p.reconciled w.surfaces w.image).dispatch (p.reconcilePlan w.surfaces w.image)).2

/-- The pipeline after a store was loaded, with its rules rebuilt and sent. -/
def restoredFrom (p : Pipeline) (loaded : SurfaceStore Proposition) : Pipeline :=
  let image := BatchImage.ofBatch loaded.flatten loaded.surfaceSet
  let merged := p.retained.merge loaded.surfaceSet image
  (dispatch { p with persisted := loaded, retained := merged.2 } merged.1).2

/-- The pipeline after an operation, in which no cache has a part. -/
def after (p : Pipeline) (op : Operation) : Pipeline :=
  match p.write? op with
  | some w => written { p with pending := p.pendingAfter op } w
  | none => { p with pending := p.pendingAfter op }

end Pipeline

/-- The empty plan sends nothing out, not even to the listeners. -/
theorem Outbox.dispatch_nothing (outbox : Outbox) : (outbox.dispatch .nothing).2 = outbox := by
  unfold dispatch DispatchPlan.nothing
  simp only [Option.toList_none, List.append_nil, List.isEmpty_nil, ↓reduceIte]

namespace Retained

/-- Forgetting surfaces is merging a batch that has nothing for them: the same
    rules, the same tracking records, and the same engines to address. -/
theorem removeSurfaces_eq_merge (r : Retained) (surfaces : SurfaceSet) :
    r.removeSurfaces surfaces = r.merge surfaces .empty := by
  unfold removeSurfaces merge
  simp only [SurfaceStore.removeSurfaces_eq_merge]
  -- The batch has no rules, so only the dropped surfaces are counted.
  have hcount : ∀ category, BatchImage.ruleCount .empty category = 0 := by
    intro category
    cases category <;> rfl
  simp only [hcount, Nat.zero_add]
  have hsum : ∀ a b : Nat, decide (0 < a + b) = (decide (0 < a) || decide (0 < b)) := by
    intro a b
    rw [Bool.eq_iff_iff, Bool.or_eq_true]
    simp only [decide_eq_true_eq]
    omega
  rw [hsum]
  rfl

/-- Merging for no surface at all changes nothing and addresses nobody. -/
theorem merge_no_surfaces (r : Retained) : r.merge (.ofList []) .empty = (.nothing, r) := by
  have htracking : r.trackingOutside (.ofList []) = r.tracking := by
    refine SortedMap.ext (List.filter_eq_self.mpr fun e _ => ?_)
    rfl
  have hmerge : r.merge (.ofList []) .empty
      = (.nothing, { r with tracking := r.trackingOutside (.ofList []) }) := rfl
  rw [hmerge, htracking]

end Retained

/-- What is read from home: the snapshot under the key, if there is one. A failure is
    as good as nothing. -/
theorem Home.stored?_run {σ : Type} (cache : Cache (StateM σ)) (key : String) (c : σ) :
    (stored? ⟨some cache, key⟩).run c
      = (match ((cache.get key).run c).1 with
          | .ok (some entry) => some (.ofSnapshot entry.data)
          | .ok none | .error _ => none,
        ((cache.get key).run c).2) := by
  unfold stored?
  simp only [StateT.run_bind]
  rcases (cache.get key).run c with ⟨fault | (_ | entry), d⟩ <;> rfl

namespace Pipeline

variable {σ : Type} (home : Home (StateM σ)) (p : Pipeline)

theorem reconcile_run (requested : SurfaceSet) (image : BatchImage) (c : σ) :
    (p.reconcile home requested image).run c
      = ((p.reconcilePlan requested image, p.reconciled requested image),
          ((home.save (p.reconciled requested image).persisted).run c).2) := rfl

/-- Forgetting surfaces is completing an empty batch for them. -/
theorem forget_run (surfaces : SurfaceSet) (c : σ) :
    (p.forget home surfaces).run c = (p.reconcile home surfaces .empty).run c := by
  rw [reconcile_run]
  have hforget : (p.forget home surfaces).run c
      = (((p.retained.removeSurfaces surfaces).1,
          { p with
            persisted := (p.persisted.removeSurfaces surfaces).2
            codeBased := (p.codeBased.removeSurfaces surfaces).2
            cards := (p.cards.removeSurfaces surfaces).2
            inbox := (p.inbox.removeSurfaces surfaces).2
            retained := (p.retained.removeSurfaces surfaces).2 }),
          ((home.save (p.persisted.removeSurfaces surfaces).2).run c).2) := rfl
  rw [hforget]
  simp only [SurfaceStore.removeSurfaces_eq_merge, Retained.removeSurfaces_eq_merge]
  rfl

theorem clear_run (surfaces : List Surface) (c : σ) :
    ((p.clear home surfaces).run c).1.2 = p.written (.clear (.ofList surfaces))
      ∧ ((p.clear home surfaces).run c).2
        = ((home.save (p.written (.clear (.ofList surfaces))).persisted).run c).2 := by
  have hclear : (p.clear home surfaces).run c
      = ((((p.forget home (.ofList surfaces)).run c).1.2.dispatch
          ((p.forget home (.ofList surfaces)).run c).1.1),
          ((p.forget home (.ofList surfaces)).run c).2) := rfl
  rw [hclear, forget_run]
  exact ⟨rfl, rfl⟩

theorem clear_receipt (surfaces : List Surface) (c : σ) :
    ((p.clear home surfaces).run c).1.1
      = .ofPlan (p.reconcilePlan (.ofList surfaces) .empty) := by
  have hclear : ((p.clear home surfaces).run c).1.1
      = .ofPlan ((p.forget home (.ofList surfaces)).run c).1.1 := rfl
  rw [hclear, forget_run]
  rfl

/-- Completing a request that is not open changes nothing; completing an open one
    writes its batch. -/
theorem complete_run (id : String) (c : σ) :
    (p.complete home id).run c
      = match p.pending.complete id with
        | (none, _) => ((none, p), c)
        | (some batch, pending) =>
            let q := written { p with pending } (.complete batch)
            ((some {
                request := id
                propositions := batch.propositions.length
                dispatched := .ofPlan (p.reconcilePlan batch.surfaces
                  (.ofBatch batch.propositions batch.surfaces)) }, q),
              ((home.save q.persisted).run c).2) := by
  unfold complete
  cases hcomplete : p.pending.complete id with
  | mk batch pending =>
      cases batch with
      | none => rfl
      | some batch => rfl

/-- What an operation does to the pipeline and to the cache, and that the cache
    has no part in the first. It is written last, if at all. -/
theorem perform_run (op : Operation) (c : σ) :
    ((p.perform home op).run c).1.2 = p.after op
      ∧ ((p.perform home op).run c).2
        = match p.write? op with
          | some _ => ((home.save (p.after op).persisted).run c).2
          | none => c := by
  cases op with
  | request freshId surfaces =>
      unfold perform request after
      dsimp only [pendingAfter, write?]
      by_cases hnone : (p.requestedSurfaces surfaces).isEmpty = true
      · simp only [hnone, ↓reduceIte]
        exact ⟨rfl, rfl⟩
      · simp only [hnone, Bool.false_eq_true, ↓reduceIte]
        exact ⟨rfl, rfl⟩
  | register id surfaces => exact ⟨rfl, rfl⟩
  | fragment event =>
      unfold perform receiveEvent after
      dsimp only [pendingAfter, write?]
      cases Fragment.ofEvent? event with
      | none => exact ⟨rfl, rfl⟩
      | some fragment => exact ⟨rfl, rfl⟩
  | completion event =>
      unfold perform completeEvent after
      dsimp only [pendingAfter, write?]
      cases completedRequest? event with
      | none => exact ⟨rfl, rfl⟩
      | some id =>
          have hcompletion : (do
                let (report, p) ← p.complete home id
                return (Answer.reported report, p) : StateM σ (Answer × Pipeline)).run c
              = ((.reported ((p.complete home id).run c).1.1, ((p.complete home id).run c).1.2),
                ((p.complete home id).run c).2) := rfl
          dsimp only [Option.bind_some]
          rw [hcompletion, complete_run]
          cases hcomplete : p.pending.complete id with
          | mk batch pending =>
              cases batch with
              | none =>
                  -- An unknown request leaves the open requests alone as well.
                  have hpending : pending = p.pending := by
                    have := PendingRequests.complete_of_none (congrArg Prod.fst hcomplete)
                    rwa [hcomplete] at this
                  rw [hpending]
                  exact ⟨rfl, rfl⟩
              | some batch => exact ⟨rfl, rfl⟩
  | clear surfaces => exact p.clear_run home surfaces c

theorem dispatch_nothing : (p.dispatch .nothing).2 = p := by
  change { p with outbox := (p.outbox.dispatch .nothing).2 } = p
  rw [Outbox.dispatch_nothing]

/-- An empty store from home leaves the rules alone and sends nothing, as the rules
    of no surface would. -/
theorem restoredFrom_empty : p.restoredFrom .empty = { p with persisted := .empty } := by
  have himage : BatchImage.ofBatch (SurfaceStore.empty : SurfaceStore Proposition).flatten
      (SurfaceStore.empty : SurfaceStore Proposition).surfaceSet = .empty :=
    BatchImage.ofBatch_nil _
  have hmerge : p.retained.merge (SurfaceStore.empty : SurfaceStore Proposition).surfaceSet .empty
      = (.nothing, p.retained) := Retained.merge_no_surfaces p.retained
  dsimp only [restoredFrom]
  rw [himage, hmerge]
  exact dispatch_nothing { p with persisted := .empty }

/-- Loading puts the store from home in place of the persisted one and rebuilds
    its rules, if there is one. -/
theorem load_run (c : σ) :
    ((p.load home).run c).1.2
        = (match (home.stored?.run c).1 with
          | none => p
          | some loaded => p.restoredFrom loaded)
      ∧ ((p.load home).run c).2 = (home.stored?.run c).2 := by
  unfold load restore Home.load
  simp only [StateT.run_bind]
  rcases home.stored?.run c with ⟨answer, d⟩
  cases answer with
  | none => exact ⟨p.dispatch_nothing, rfl⟩
  | some loaded =>
      -- The state goes first, while its monad can still be told from the inner one.
      simp only [bind, StateT.run_pure]
      simp only [pure]
      by_cases hsize : loaded.size = 0
      · -- Without surfaces there is nothing to rebuild.
        have hempty : loaded = .empty := loaded.eq_empty_of_size hsize
        subst hempty
        rw [restoredFrom_empty]
        exact ⟨dispatch_nothing _, rfl⟩
      · simp only [hsize, ↓reduceIte]
        exact ⟨rfl, rfl⟩

/-- A write replaces what is kept at the surfaces that it covers. -/
theorem held?_store_written (w : Write) (kind : ContentKind) (s : Surface) :
    ((p.written w).store kind).held? s
      = if w.surfaces.contains s then (w.image.store kind).held? s
        else (p.store kind).held? s := by
  rw [← (w.image_holdsContent.store kind).content?_lists]
  cases kind <;> exact SurfaceStore.held?_merge _ _ _ s

/-- A write replaces the rules at the surfaces that it covers. -/
theorem held?_rules_written (w : Write) (category : RuleCategory) (s : Surface) :
    ((p.written w).retained.rules.get category).held? s
      = if w.surfaces.contains s then (w.image.rules.get category).held? s
        else (p.retained.rules.get category).held? s := by
  rw [← (w.image_holdsContent.rules category).content?_lists]
  cases category <;> exact SurfaceStore.held?_merge _ _ _ s

theorem get_store_written (w : Write) (kind : ContentKind) (s : Surface) :
    ((p.written w).store kind).get s
      = if w.surfaces.contains s then (w.image.store kind).get s else (p.store kind).get s := by
  rw [SurfaceStore.get_eq_held?, held?_store_written, apply_ite (Option.getD · [])]
  rfl

theorem get_rules_written (w : Write) (category : RuleCategory) (s : Surface) :
    ((p.written w).retained.rules.get category).get s
      = if w.surfaces.contains s then (w.image.rules.get category).get s
        else (p.retained.rules.get category).get s := by
  rw [SurfaceStore.get_eq_held?, held?_rules_written, apply_ite (Option.getD · [])]
  rfl

/-- Loading gives the surfaces that come from home the rules of the batch that the
    loaded store would be. -/
theorem get_compiled_restoredFrom {category : RuleCategory} (hcat : category ≠ .eventHistory)
    (loaded : SurfaceStore Proposition) (s : Surface) :
    ((p.restoredFrom loaded).retained.rules.get category).get s
      = if loaded.contains s then compiledIn category (rankedAt s loaded.flatten)
        else (p.retained.rules.get category).get s := by
  let image := BatchImage.ofBatch loaded.flatten loaded.surfaceSet
  have himage : image.HoldsContent := BatchImage.holdsContent_ofBatch _ _
  have hmerge : ((p.restoredFrom loaded).retained.rules.get category).held? s
      = if loaded.contains s then (image.rules.get category).held? s
        else (p.retained.rules.get category).held? s := by
    -- The surfaces of the batch are those of the loaded store.
    rw [← (himage.rules category).content?_lists, ← loaded.contains_surfaceSet]
    cases category <;> exact SurfaceStore.held?_merge _ _ _ s
  rw [SurfaceStore.get_eq_held?, hmerge, apply_ite (Option.getD · [])]
  by_cases hs : loaded.contains s = true
  · have hget := BatchImage.get_compiled_ofBatch hcat loaded.flatten loaded.surfaceSet s
    rw [loaded.contains_surfaceSet, if_pos hs] at hget
    rw [if_pos hs, if_pos hs, ← hget]
    rfl
  · rw [if_neg hs, if_neg hs]
    rfl

theorem after_of_write {op : Operation} {w : Write} (h : p.write? op = some w) :
    p.after op = written { p with pending := p.pendingAfter op } w := by
  rw [after, h]

theorem after_of_no_write {op : Operation} (h : p.write? op = none) :
    p.after op = { p with pending := p.pendingAfter op } := by
  rw [after, h]

/-- Where calls lead, and what they leave in the cache. -/
def reached (c : σ) (calls : List Call) : Pipeline × σ :=
  (((p.run home calls).run c).1.2, ((p.run home calls).run c).2)

theorem reached_cons (c : σ) (call : Call) (rest : List Call) :
    p.reached home c (call :: rest)
      = ((p.call home call).run c).1.2.reached home ((p.call home call).run c).2 rest := rfl

theorem reached_append (c : σ) (calls rest : List Call) :
    p.reached home c (calls ++ rest)
      = (p.reached home c calls).1.reached home (p.reached home c calls).2 rest := by
  induction calls generalizing p c with
  | nil => rfl
  | cons call calls ih => rw [List.cons_append, reached_cons, reached_cons, ih]

/-- What every call keeps, a run of calls keeps. -/
theorem reached_of_kept (kept : Pipeline → Prop)
    (hcall : ∀ p call (c : σ), kept p → kept ((p.call home call).run c).1.2) {p : Pipeline}
    (h : kept p) (c : σ) (calls : List Call) : kept (p.reached home c calls).1 := by
  induction calls generalizing p c with
  | nil => exact h
  | cons call rest ih =>
      rw [reached_cons]
      exact ih (hcall p call c h) _

end Pipeline

end Decisioning
