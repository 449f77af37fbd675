import Decisioning.Proofs.Operation

/-!
# The Last Writer

Why each surface only knows its last writer.

Seven stores are written by two operations, and requests may be open side by side
with surfaces in common. Still, what a pipeline has at a surface can be told from
one write alone: the last completed request that asked for the surface, or the
last call that forgot it, whichever came later. Writes to other surfaces do not
reach it, earlier writes are replaced as a whole, and what else the last request
had asked for does not matter either.

Nothing here is loaded: what comes from home was not written in this run. The
cache that is saved to is arbitrary, as it is never read.

## Main definitions

* `Holdings`: What the seven stores have at a surface.
* `Pipeline.heldAt`, `BatchImage.heldAt`: Those of a pipeline and of an image.
* `Pipeline.writes`: The writes of a run.
* `lastWrite?`: The last write that covers a surface.

## Theorems

* `Pipeline.heldAt_after`: What one operation does at a surface.
* `Pipeline.heldAt_reached`: What a run does at a surface.
* `Pipeline.perform_completion_answer`: A completion writes if it reports.
* `Pipeline.last_writer_wins`: A surface holds what its last writer gave it.
-/

namespace Decisioning

/-- What is held at a surface: in the stores of propositions, and in the stores of
    rules. -/
@[ext]
structure Holdings where
  propositions : ContentKind → Option (List Proposition)
  rules : RuleCategory → Option (List Rule)

/-- The surface is absent from all stores. -/
def Holdings.none : Holdings := { propositions := fun _ => .none, rules := fun _ => .none }

/-- What an image has for a surface. -/
def BatchImage.heldAt (image : BatchImage) (s : Surface) : Holdings :=
  { propositions := fun kind => (image.store kind).held? s
    rules := fun category => (image.rules.get category).held? s }

/-- What a pipeline has at a surface. -/
def Pipeline.heldAt (p : Pipeline) (s : Surface) : Holdings :=
  { propositions := fun kind => (p.store kind).held? s
    rules := fun category => (p.retained.rules.get category).held? s }

theorem BatchImage.heldAt_empty (s : Surface) : BatchImage.empty.heldAt s = .none := by
  ext kind <;> cases kind <;> rfl

/-- A batch gives a surface what it would give it if nothing else was requested. -/
theorem BatchImage.heldAt_ofBatch_singleton (propositions : List Proposition)
    {requested : SurfaceSet} {s : Surface} (hs : requested.contains s = true) :
    (ofBatch propositions requested).heldAt s = (ofBatch propositions (.ofList [s])).heldAt s := by
  apply Holdings.ext
  · funext kind
    exact held?_store_ofBatch_singleton propositions hs kind
  · funext category
    exact held?_rules_ofBatch_singleton propositions hs category

/-- The last write that covers a surface. -/
def lastWrite? (s : Surface) (writes : List Write) : Option Write :=
  (writes.filter fun w => w.surfaces.contains s).getLast?

theorem lastWrite?_append (s : Surface) (earlier later : List Write) :
    lastWrite? s (earlier ++ later) = (lastWrite? s later).or (lastWrite? s earlier) := by
  rw [lastWrite?, List.filter_append, List.getLast?_append]
  rfl

theorem lastWrite?_eq_none_iff (s : Surface) (writes : List Write) :
    lastWrite? s writes = none ↔ ¬∃ w ∈ writes, s ∈ w.surfaces := by
  rw [lastWrite?, List.getLast?_eq_none_iff, List.filter_eq_nil_iff]
  simp only [not_exists, not_and]
  exact Iff.rfl

theorem mem_of_lastWrite? {s : Surface} {writes : List Write} {w : Write}
    (h : lastWrite? s writes = some w) : w ∈ writes :=
  (List.mem_filter.mp (List.mem_of_getLast? h)).1

theorem covers_of_lastWrite? {s : Surface} {writes : List Write} {w : Write}
    (h : lastWrite? s writes = some w) : w.surfaces.contains s = true :=
  (List.mem_filter.mp (List.mem_of_getLast? h)).2

namespace Pipeline

variable {σ : Type} (home : Home (StateM σ))

/-- The writes of a run, in order. -/
def writes (p : Pipeline) (c : σ) : List Operation → List Write
  | [] => []
  | op :: rest =>
      (p.write? op).toList
        ++ writes ((p.perform home op).run c).1.2 ((p.perform home op).run c).2 rest

/-- A completion is answered with a report exactly if it writes; all others are
    dropped. -/
theorem perform_completion_answer (p : Pipeline) (event : Json) (c : σ) :
    ∃ report, ((p.perform home (.completion event)).run c).1.1 = .reported report
      ∧ report.isSome = (p.write? (.completion event)).isSome := by
  dsimp only [perform, completeEvent, write?]
  cases completedRequest? event with
  | none => exact ⟨none, rfl, rfl⟩
  | some id =>
      refine ⟨((p.complete home id).run c).1.1, rfl, ?_⟩
      rw [complete_run, Option.bind_some, Option.isSome_map]
      cases p.pending.complete id with
      | mk batch pending => cases batch <;> rfl

/-- A write decides what is held at the surfaces that it covers, and nothing else. -/
theorem heldAt_written (p : Pipeline) (w : Write) (s : Surface) :
    (p.written w).heldAt s = if w.surfaces.contains s then w.image.heldAt s else p.heldAt s := by
  by_cases hs : w.surfaces.contains s = true
  · -- All seven stores have taken the image of the write.
    rw [if_pos hs]
    apply Holdings.ext
    · funext kind
      exact (p.held?_store_written w kind s).trans (if_pos hs)
    · funext category
      exact (p.held?_rules_written w category s).trans (if_pos hs)
  · rw [if_neg hs]
    apply Holdings.ext
    · funext kind
      exact (p.held?_store_written w kind s).trans (if_neg hs)
    · funext category
      exact (p.held?_rules_written w category s).trans (if_neg hs)

/-- Open requests are no part of what is held. -/
theorem heldAt_pending (p : Pipeline) (pending : PendingRequests) (s : Surface) :
    heldAt { p with pending } s = p.heldAt s := by
  apply Holdings.ext
  · funext kind
    cases kind <;> rfl
  · rfl

/-- What one operation does at a surface. -/
theorem heldAt_after (p : Pipeline) (op : Operation) (s : Surface) :
    (p.after op).heldAt s
      = match lastWrite? s (p.write? op).toList with
        | some w => w.image.heldAt s
        | none => p.heldAt s := by
  cases hwrite : p.write? op with
  | none =>
      rw [after_of_no_write p hwrite, heldAt_pending]
      rfl
  | some w =>
      rw [after_of_write p hwrite, heldAt_written, heldAt_pending, Option.toList_some, lastWrite?]
      by_cases hs : w.surfaces.contains s = true
      · rw [if_pos hs, List.filter_cons_of_pos (by exact hs)]
        rfl
      · rw [if_neg hs, List.filter_cons_of_neg (by exact hs)]
        rfl

/-- What a run does at a surface, from any pipeline. -/
theorem heldAt_reached (p : Pipeline) (c : σ) (ops : List Operation) (s : Surface) :
    (p.reached home c (ops.map .operation)).1.heldAt s
      = match lastWrite? s (p.writes home c ops) with
        | some w => w.image.heldAt s
        | none => p.heldAt s := by
  induction ops generalizing p c with
  | nil => rfl
  | cons op rest ih =>
      rw [List.map_cons, reached_cons, writes, lastWrite?_append]
      change (((p.perform home op).run c).1.2.reached home ((p.perform home op).run c).2
        (rest.map .operation)).1.heldAt s = _
      rw [ih]
      -- A later write hides the first operation, which counts only without one.
      cases lastWrite? s (writes home ((p.perform home op).run c).1.2
          ((p.perform home op).run c).2 rest) with
      | some w => rfl
      | none =>
          rw [(p.perform_run home op c).1, Option.none_or]
          exact p.heldAt_after op s

theorem heldAt_start (appId : String) (s : Surface) : (start appId).heldAt s = .none := by
  ext kind <;> cases kind <;> rfl

/-- A surface holds what its last writer gave it. Without one, or when it was
    forgotten last, it is absent from all seven stores. Otherwise it has what the
    last completed batch that was requested for it has there, no matter what else
    was requested, so no other operation of the run shows at the surface. -/
theorem last_writer_wins (appId : String) (c : σ) (ops : List Operation) (s : Surface) :
    let p := ((start appId).reached home c (ops.map .operation)).1
    match lastWrite? s ((start appId).writes home c ops) with
    | none => p.heldAt s = .none
    | some (.clear _) => p.heldAt s = .none
    | some (.complete batch) =>
        p.heldAt s = (BatchImage.ofBatch batch.propositions batch.surfaces).heldAt s
          ∧ p.heldAt s = (BatchImage.ofBatch batch.propositions (.ofList [s])).heldAt s := by
  intro p
  -- A new pipeline has nothing anywhere, so only the run counts.
  have hheld : p.heldAt s = _ := heldAt_reached home (start appId) c ops s
  cases hlast : lastWrite? s ((start appId).writes home c ops) with
  | none =>
      rw [hlast] at hheld
      exact hheld.trans (heldAt_start appId s)
  | some w =>
      rw [hlast] at hheld
      cases w with
      | clear surfaces => exact hheld.trans (BatchImage.heldAt_empty s)
      | complete batch =>
          have hcovers : batch.surfaces.contains s = true := covers_of_lastWrite? hlast
          exact ⟨hheld,
            hheld.trans (BatchImage.heldAt_ofBatch_singleton batch.propositions hcovers)⟩

end Pipeline

end Decisioning
