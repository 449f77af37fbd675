import Decisioning.Proofs.Operation
import Decisioning.Proofs.Snapshot

/-!
# Persisted Propositions and In-App Rules

How the persisted propositions determine the in-app rules.

A proposition is persisted for having an in-app rule, so the propositions that
are not persisted have none, and the in-app rules of a surface can be compiled
again from the propositions that are persisted for it. All that this takes is
that the propositions of a surface are still its own, in rank order and with
their items linked to them: a batch leaves them so, `restorableAt_image`, and
no operation does anything else to them than to replace them by those of a batch.
Sorting and compiling them again then changes nothing.

## Main definitions

* `RestorableAt`: What is kept at a surface can be rebuilt.
* `PendingRequests.IsLinked`: All that has arrived so far is linked.
* `Pipeline.Coherent`: What is kept can be rebuilt at every surface.

## Theorems

* `restorableAt_image`: What a batch brings can be rebuilt.
* `Pipeline.Coherent.after`: Operations keep this.
* `Pipeline.Coherent.inApp_restoredFrom`: Loading rebuilds the in-app rules.
-/

namespace Decisioning

/-- The in-app rules of a surface can be rebuilt from its persisted
    propositions. -/
structure RestorableAt (s : Surface) (persisted : List Proposition) (inApp : List Rule) : Prop where
  placed : ∀ p ∈ persisted, p.surface = s
  linked : ∀ p ∈ persisted, p.IsLinked
  ranked : persisted.Pairwise fun p q => p.rank ≤ q.rank
  compiled : inApp = compiledIn .inApp persisted

theorem restorableAt_nil (s : Surface) : RestorableAt s [] [] where
  placed := fun _ hp => absurd hp List.not_mem_nil
  linked := fun _ hp => absurd hp List.not_mem_nil
  ranked := List.Pairwise.nil
  compiled := rfl

/-- Where each list only has propositions of its own surface, a filter by surface
    takes it back out of all lists together. -/
theorem filter_surface_flatMap {lists : Surface → List Proposition}
    (hplaced : ∀ t, ∀ p ∈ lists t, p.surface = t) (s : Surface) {ss : List Surface}
    (hnodup : ss.Nodup) :
    (ss.flatMap lists).filter (fun p => p.surface = s) = if s ∈ ss then lists s else [] := by
  induction ss with
  | nil => rw [if_neg List.not_mem_nil, List.flatMap_nil, List.filter_nil]
  | cons t rest ih =>
      rw [List.nodup_cons] at hnodup
      rw [List.flatMap_cons, List.filter_append, ih hnodup.2]
      by_cases hts : t = s
      · subst hts
        have hall : (lists t).filter (fun p => p.surface = t) = lists t :=
          List.filter_eq_self.mpr fun p hp => decide_eq_true (hplaced t p hp)
        rw [hall, if_neg hnodup.1, if_pos List.mem_cons_self, List.append_nil]
      · -- Nothing in the list of another surface passes the filter.
        have hnone : (lists t).filter (fun p => p.surface = s) = [] := by
          rw [List.filter_eq_nil_iff]
          intro p hp hps
          exact hts ((hplaced t p hp).symm.trans (of_decide_eq_true hps))
        have hmem : s ∈ t :: rest ↔ s ∈ rest := by
          rw [List.mem_cons]
          exact or_iff_right (Ne.symm hts)
        rw [hnone, List.nil_append]
        simp only [hmem]

/-- What a batch of linked propositions brings can be rebuilt. -/
theorem restorableAt_image {w : Write}
    (hlinked : ∀ batch, w = .complete batch → ∀ p ∈ batch.propositions, p.IsLinked) (s : Surface) :
    RestorableAt s (w.image.persisted.get s) (w.image.rules.inApp.get s) := by
  cases w with
  | clear surfaces => exact restorableAt_nil s
  | complete batch =>
      change RestorableAt s
        (((BatchImage.ofBatch batch.propositions batch.surfaces).store .persisted).get s)
        (((BatchImage.ofBatch batch.propositions batch.surfaces).rules.get .inApp).get s)
      rw [BatchImage.get_store_ofBatch, BatchImage.get_compiled_ofBatch (by decide)]
      by_cases hs : batch.surfaces.contains s = true
      · -- At a covered surface are the propositions of the batch that stay persisted, by rank.
        rw [if_pos hs, if_pos hs]
        have hmem : ∀ p ∈ (rankedAt s batch.propositions).filter
            fun p => (Placement.ofProposition p).belongs .persisted,
            p ∈ batch.propositions ∧ p.surface = s :=
          fun p hp => mem_rankedAt.mp (List.mem_filter.mp hp).1
        constructor
        case placed => exact fun p hp => (hmem p hp).2
        case linked => exact fun p hp => hlinked batch rfl p (hmem p hp).1
        case ranked => exact (sortByKey_sorted Proposition.rank _).filter _
        case compiled =>
          exact (compiledIn_filter (fun _ => Placement.rulesIn_inApp_of_not_persisted) _).symm
      · rw [if_neg hs, if_neg hs]
        exact restorableAt_nil s

/-- Everything that has arrived for open requests is linked. -/
def PendingRequests.IsLinked (pending : PendingRequests) : Prop :=
  ∀ id request, pending.get? id = some request → ∀ p ∈ request.propositions, p.IsLinked

namespace PendingRequests

variable {pending : PendingRequests}

theorem IsLinked.register (h : pending.IsLinked) (id : String) (surfaces : SurfaceSet) :
    (pending.register id surfaces).2.IsLinked := by
  intro key request hget
  rw [get?_register] at hget
  by_cases hkey : key = id
  · rw [if_pos hkey] at hget
    rw [← Option.some.inj hget]
    exact fun p hp => absurd hp List.not_mem_nil
  · rw [if_neg hkey] at hget
    exact h key request hget

theorem IsLinked.append (h : pending.IsLinked) (id : String) {propositions : List Proposition}
    (hpropositions : ∀ p ∈ propositions, p.IsLinked) :
    (pending.append id propositions).2.IsLinked := by
  intro key request hget
  rw [get?_append] at hget
  by_cases hkey : key = id
  · rw [if_pos hkey] at hget
    rcases Option.map_eq_some_iff.mp hget with ⟨before, hbefore, rfl⟩
    intro p hp
    rcases List.mem_append.mp hp with hold | hnew
    · exact h id before hbefore p hold
    · exact hpropositions p hnew
  · rw [if_neg hkey] at hget
    exact h key request hget

theorem IsLinked.complete (h : pending.IsLinked) (id : String) :
    (pending.complete id).2.IsLinked := by
  intro key request hget
  rw [get?_complete] at hget
  by_cases hkey : key = id
  · rw [if_pos hkey] at hget
    exact absurd hget (by simp only [reduceCtorEq, not_false_eq_true])
  · rw [if_neg hkey] at hget
    exact h key request hget

theorem IsLinked.batch (h : pending.IsLinked) {id : String} {batch : Batch}
    (hcomplete : (pending.complete id).1 = some batch) :
    ∀ p ∈ batch.propositions, p.IsLinked := by
  rw [complete_fst] at hcomplete
  rcases Option.map_eq_some_iff.mp hcomplete with ⟨request, hrequest, rfl⟩
  exact h id request hrequest

end PendingRequests

namespace Pipeline

/-- What is kept can be rebuilt at every surface, and so can what open requests
    will bring. -/
structure Coherent (p : Pipeline) : Prop where
  persisted : p.persisted.HoldsContent
  inApp : p.retained.rules.inApp.HoldsContent
  restorable : ∀ s, RestorableAt s (p.persisted.get s) (p.retained.rules.inApp.get s)
  pending : p.pending.IsLinked

theorem coherent_start (appId : String) : (start appId).Coherent where
  persisted := SurfaceStore.holdsContent_empty
  inApp := SurfaceStore.holdsContent_empty
  restorable := restorableAt_nil
  pending := fun _ _ hget => absurd hget (by
    simp only [start, PendingRequests.empty, PendingRequests.get?, SortedMap.get?_empty,
      reduceCtorEq, not_false_eq_true])

theorem Coherent.written {p : Pipeline} (h : p.Coherent) {w : Write}
    (hlinked : ∀ batch, w = .complete batch → ∀ q ∈ batch.propositions, q.IsLinked) :
    (p.written w).Coherent := by
  constructor
  case persisted => exact h.persisted.merge w.surfaces w.image.persisted.lists
  case inApp => exact h.inApp.merge w.surfaces w.image.rules.inApp.lists
  case pending => exact h.pending
  case restorable =>
    intro s
    change RestorableAt s (((p.written w).store .persisted).get s)
      (((p.written w).retained.rules.get .inApp).get s)
    rw [get_store_written, get_rules_written]
    -- Propositions and rules of a surface are replaced together or not at all.
    by_cases hs : w.surfaces.contains s = true
    · rw [if_pos hs, if_pos hs]
      exact restorableAt_image hlinked s
    · rw [if_neg hs, if_neg hs]
      exact h.restorable s

/-- What arrives for open requests was read from a payload, and the reader links
    it. -/
theorem isLinked_pendingAfter {p : Pipeline} (h : p.pending.IsLinked) (op : Operation) :
    (p.pendingAfter op).IsLinked := by
  cases op with
  | request freshId surfaces =>
      dsimp only [Pipeline.pendingAfter]
      split
      · exact h
      · exact h.register freshId _
  | register id surfaces => exact h.register id surfaces
  | fragment event =>
      dsimp only [Pipeline.pendingAfter]
      cases hevent : Fragment.ofEvent? event with
      | none => exact h
      | some fragment =>
          -- Only a fragment brings propositions, and its reader links their items.
          refine h.append fragment.request fun p hp => ?_
          unfold Fragment.ofEvent? at hevent
          rcases Option.map_eq_some_iff.mp hevent with ⟨request, _, rfl⟩
          exact Proposition.isLinked_of_mem_ofPayload hp
  | completion event =>
      dsimp only [Pipeline.pendingAfter]
      cases completedRequest? event with
      | none => exact h
      | some id => exact h.complete id
  | clear surfaces => exact h

/-- Only open requests bring batches. -/
theorem complete_of_write? {p : Pipeline} {op : Operation} {batch : Batch}
    (h : p.write? op = some (.complete batch)) :
    ∃ id, (p.pending.complete id).1 = some batch := by
  cases op with
  | completion event =>
      rcases Option.bind_eq_some_iff.mp h with ⟨id, _, hbatch⟩
      rcases Option.map_eq_some_iff.mp hbatch with ⟨completed, hcompleted, heq⟩
      cases heq
      exact ⟨id, hcompleted⟩
  | clear surfaces => exact absurd h (by simp only [write?, reduceCtorEq, not_false_eq_true,
      Option.some.injEq])
  | request freshId surfaces => cases h
  | register id surfaces => cases h
  | fragment event => cases h

/-- The batch of a write is linked, as what had arrived for its request was. -/
theorem isLinked_of_write? {p : Pipeline} (h : p.pending.IsLinked) {op : Operation} {w : Write}
    (hwrite : p.write? op = some w) :
    ∀ batch, w = .complete batch → ∀ q ∈ batch.propositions, q.IsLinked := by
  intro batch hbatch
  rcases complete_of_write? (hbatch ▸ hwrite) with ⟨id, hcomplete⟩
  exact h.batch hcomplete

/-- Operations keep a pipeline coherent. -/
theorem Coherent.after {p : Pipeline} (h : p.Coherent) (op : Operation) : (p.after op).Coherent := by
  have hpending : Coherent { p with pending := p.pendingAfter op } :=
    { h with pending := isLinked_pendingAfter h.pending op }
  cases hwrite : p.write? op with
  | none =>
      rw [after_of_no_write p hwrite]
      exact hpending
  | some w =>
      rw [after_of_write p hwrite]
      exact hpending.written (isLinked_of_write? h.pending hwrite)

/-- Of a flattened store, a surface takes back what it had, in the order in which
    it had it. -/
theorem Coherent.rankedAt_flatten {p : Pipeline} (h : p.Coherent) (s : Surface) :
    rankedAt s p.persisted.flatten = p.persisted.get s := by
  have hplaced : ∀ t, ∀ q ∈ p.persisted.get t, q.surface = t := fun t => (h.restorable t).placed
  have hown : p.persisted.flatten.filter (fun q => q.surface = s) = p.persisted.get s := by
    rw [SurfaceStore.flatten_eq_flatMap_get,
      filter_surface_flatMap hplaced s p.persisted.surfaces_nodup]
    by_cases hs : p.persisted.contains s = true
    · rw [if_pos ((p.persisted.mem_surfaces s).mpr hs)]
    · rw [if_neg (mt (p.persisted.mem_surfaces s).mp hs),
        p.persisted.get_eq_nil_of_not_contains s (Bool.not_eq_true _ ▸ hs)]
  rw [rankedAt, hown]
  exact sortByKey_of_sorted Proposition.rank (h.restorable s).ranked

/-- Loading the persisted store into a new pipeline rebuilds the in-app rules. -/
theorem Coherent.inApp_restoredFrom {p : Pipeline} (h : p.Coherent) (appId : String) :
    ((start appId).restoredFrom p.persisted).retained.rules.inApp = p.retained.rules.inApp := by
  refine SurfaceStore.ext_get (SurfaceStore.holdsContent_empty.merge _ _) h.inApp fun s => ?_
  change ((((start appId).restoredFrom p.persisted).retained.rules.get .inApp).get s) = _
  rw [get_compiled_restoredFrom _ (by decide), h.rankedAt_flatten,
    ← (h.restorable s).compiled]
  by_cases hs : p.persisted.contains s = true
  · rw [if_pos hs]
  · -- Without propositions there were no rules either.
    have hnil : p.persisted.get s = [] :=
      p.persisted.get_eq_nil_of_not_contains s (Bool.not_eq_true _ ▸ hs)
    rw [if_neg hs, (h.restorable s).compiled, hnil]
    rfl

theorem Coherent.restoredFrom {p : Pipeline} (h : p.Coherent) (appId : String) :
    ((start appId).restoredFrom p.persisted).Coherent where
  persisted := h.persisted
  inApp := by
    rw [h.inApp_restoredFrom]
    exact h.inApp
  restorable := by
    rw [h.inApp_restoredFrom]
    exact h.restorable
  pending := (coherent_start appId).pending

end Pipeline

end Decisioning
