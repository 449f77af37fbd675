import Decisioning.Proofs.Addressees
import Decisioning.Proofs.ByteOrder
import Decisioning.Proofs.CleanImage

/-!
# Notices

What listeners are told, and what a reader finds when it asks afterwards.

A completed request tells the listeners about the code-based propositions of its
batch, and puts them into a store. The first is read off the image of the batch and
the second is a merge into what was there before, so they could differ in what a
requested surface had, in a surface that was dropped or in the order of the surfaces.
They do not: at a requested surface a merge leaves what the image has, be it nothing,
and the image has no other surfaces. So the notice is what the reader answers
for the requested surfaces, one after the other in the order of their bytes, and
without a notice it answers nothing. A reader that asks for other surfaces does not see
that anything was completed.

None of this depends on how the state came about.

## Main definitions

* `SurfaceLists.along`: The lists of surfaces, one after the other.

## Theorems

* `Pipeline.get?_propositionsFor`: What the reader answers for a surface.
* `SurfaceStore.flatten_eq_flatMap_toList`: A store along a set with all its surfaces.
* `Pipeline.held?_codeBased_written`: The store after a write.
* `Pipeline.listeners_and_readers_agree`: Notices and answers.
-/

namespace Decisioning

/-- The lists that there are for surfaces, one after the other. -/
def SurfaceLists.along {α : Type} (lists : SurfaceLists α) (surfaces : List Surface) : List α :=
  surfaces.flatMap fun s => (lists.get? s.uri).getD []

/-- A store is the lists of any set of surfaces that has all of its own, as the others
    add nothing. -/
theorem SurfaceStore.flatten_eq_flatMap_toList {α : Type} (store : SurfaceStore α)
    (set : SurfaceSet) (h : ∀ s, store.contains s = true → s ∈ set) :
    store.flatten = set.toList.flatMap store.get := by
  -- Both are in the same order, so that they are equal if they have the same members.
  have hsurfaces : store.surfaces = set.toList.filter store.contains := by
    refine eq_of_increasing store.surfaces_sorted (set.toList_increasing.filter _) fun s => ?_
    rw [mem_surfaces, List.mem_filter, SurfaceSet.mem_toList]
    exact (and_iff_right_of_imp (h s)).symm
  rw [flatten_eq_flatMap_get, hsurfaces]
  exact flatMap_filter_of_eq_nil store.get_eq_nil_of_not_contains _

theorem BatchImage.codeBasedPropositions_ofBatch (propositions : List Proposition)
    (requested : SurfaceSet) :
    (ofBatch propositions requested).codeBasedPropositions
      = requested.toList.flatMap (ofBatch propositions requested).codeBased.get :=
  SurfaceStore.flatten_eq_flatMap_toList _ requested fun s hs =>
    ((contains_store_ofBatch propositions requested .codeBased s).mp hs).1

namespace Pipeline

section Reading

variable (p : Pipeline) (surfaces : List Surface)

theorem get?_propositionsFor (s : Surface) :
    (p.propositionsFor surfaces).get? s.uri
      = if s ∈ surfaces then p.codeBased.held? s else none := by
  rw [propositionsFor, SortedMap.get?_ofList, ← List.map_reverse, lookup?_map_surfaces]
  simp only [List.mem_reverse, List.mem_filter]
  by_cases hs : s ∈ surfaces
  · cases hheld : p.codeBased.held? s with
    | none => simp only [hs, SurfaceStore.contains_eq_held?, hheld, Option.isSome_none,
        Bool.false_eq_true, and_false, ↓reduceIte]
    | some ps => simp only [hs, SurfaceStore.contains_eq_held?, SurfaceStore.get_eq_held?, hheld,
        Option.isSome_some, and_self, ↓reduceIte, Option.getD_some]
  · simp only [hs, false_and, ↓reduceIte]

variable {p surfaces}

/-- Two readers answer the same if they find the same at all surfaces asked for. -/
theorem propositionsFor_congr {q : Pipeline}
    (h : ∀ s ∈ surfaces, p.codeBased.held? s = q.codeBased.held? s) :
    p.propositionsFor surfaces = q.propositionsFor surfaces := by
  refine SortedMap.ext_get? fun k => ?_
  -- Every key of an answer is the text of a surface.
  change (p.propositionsFor surfaces).get? (Surface.mk k).uri
    = (q.propositionsFor surfaces).get? (Surface.mk k).uri
  rw [get?_propositionsFor, get?_propositionsFor]
  by_cases hs : Surface.mk k ∈ surfaces
  · rw [if_pos hs, if_pos hs, h _ hs]
  · rw [if_neg hs, if_neg hs]

/-- A reader that finds nothing at any surface asked for answers nothing. -/
theorem propositionsFor_eq_empty (h : ∀ s ∈ surfaces, p.codeBased.held? s = none) :
    p.propositionsFor surfaces = .empty := by
  refine SortedMap.ext_get? fun k => ?_
  change (p.propositionsFor surfaces).get? (Surface.mk k).uri = none
  rw [get?_propositionsFor]
  by_cases hs : Surface.mk k ∈ surfaces
  · rw [if_pos hs, h _ hs]
  · rw [if_neg hs]

/-- Along surfaces that were all asked for, the answers are those of the store. -/
theorem along_propositionsFor {asked : List Surface} (h : ∀ s ∈ surfaces, s ∈ asked) :
    (p.propositionsFor asked).along surfaces = surfaces.flatMap p.codeBased.get := by
  refine List.flatMap_congr fun s hs => ?_
  rw [get?_propositionsFor, if_pos (h s hs)]
  rfl

end Reading

/-- What a reader finds after a batch was written: the image at the surfaces of the
    batch, and everywhere else what was there. -/
theorem held?_codeBased_written (p : Pipeline) (batch : Batch) (s : Surface) :
    (p.written (.complete batch)).codeBased.held? s
      = if s ∈ batch.surfaces then
          (BatchImage.ofBatch batch.propositions batch.surfaces).codeBased.held? s
        else p.codeBased.held? s :=
  p.held?_store_written (.complete batch) .codeBased s

/-- The code-based propositions of a batch are those that a reader finds at its
    surfaces once the batch was written. -/
theorem codeBasedPropositions_eq_flatMap_written (p : Pipeline) (batch : Batch) :
    (BatchImage.ofBatch batch.propositions batch.surfaces).codeBasedPropositions
      = batch.surfaces.toList.flatMap (p.written (.complete batch)).codeBased.get := by
  rw [BatchImage.codeBasedPropositions_ofBatch]
  refine List.flatMap_congr fun s hs => ?_
  rw [SurfaceStore.get_eq_held?, SurfaceStore.get_eq_held?, held?_codeBased_written,
    if_pos (show s ∈ batch.surfaces from (batch.surfaces.mem_toList s).mp hs)]

/-- Where a batch has no code-based proposition, a reader finds none at its surfaces once
    the batch was written, whatever was there before. -/
theorem propositionsFor_written_eq_empty (p : Pipeline) {batch : Batch} {surfaces : List Surface}
    (h : (BatchImage.ofBatch batch.propositions batch.surfaces).codeBasedPropositions = [])
    (hsurfaces : ∀ s ∈ surfaces, s ∈ batch.surfaces) :
    (p.written (.complete batch)).propositionsFor surfaces = .empty := by
  refine propositionsFor_eq_empty fun s hs => ?_
  rw [BatchImage.codeBasedPropositions_ofBatch, List.flatMap_eq_nil_iff] at h
  have hget := h s ((batch.surfaces.mem_toList s).mpr (hsurfaces s hs))
  have hcontent : (BatchImage.ofBatch batch.propositions batch.surfaces).codeBased.HoldsContent :=
    (BatchImage.holdsContent_ofBatch _ _).store .codeBased
  -- The image has no list at the surface, as it would not be empty.
  rw [held?_codeBased_written, if_pos (hsurfaces s hs), hcontent.held?_eq]
  exact if_pos hget

variable {σ : Type} (home : Home (StateM σ))

/-- Listeners and readers see the same. A request that is completed in any state sends
    the listeners one notice or none. A reader that asks for the surfaces of the request
    right after that, in any order, is answered with what the notice has: the notice is
    the lists of these surfaces one after the other, in the order of their bytes, and
    never without a proposition. Without a notice the answer is the empty map. A reader
    that asks for other surfaces is answered as it was before. -/
theorem listeners_and_readers_agree (p : Pipeline) (c : σ) {id : String} {batch : Batch}
    (hbatch : (p.pending.complete id).1 = some batch) :
    let done := ((p.complete home id).run c).1.2
    (∃ notice : Option (List Proposition),
      done.outbox.notices = p.outbox.notices ++ notice.toList
        ∧ ∀ asked, (∀ s, s ∈ asked ↔ s ∈ batch.surfaces) →
          (∀ told, notice = some told →
            told ≠ [] ∧ told = (done.propositionsFor asked).along batch.surfaces.toList)
          ∧ (notice = none → done.propositionsFor asked = .empty))
      ∧ (∀ s, s ∈ batch.surfaces.toList ↔ s ∈ batch.surfaces)
      ∧ batch.surfaces.toList.Pairwise (fun s t => utf8Bytes s.uri < utf8Bytes t.uri)
      ∧ ∀ others, (∀ s ∈ others, s ∉ batch.surfaces) →
        done.propositionsFor others = p.propositionsFor others := by
  intro done
  let image := BatchImage.ofBatch batch.propositions batch.surfaces
  -- Only the open requests have changed when the batch is written.
  let q : Pipeline := { p with pending := (p.pending.complete id).2 }
  have hdone : done = q.written (.complete batch) := by
    have hcomplete := p.complete_run home id c
    rw [show p.pending.complete id = (some batch, (p.pending.complete id).2) from
      Prod.ext hbatch rfl] at hcomplete
    exact congrArg (fun outcome => outcome.1.2) hcomplete
  have hmember : ∀ s, s ∈ batch.surfaces.toList ↔ s ∈ batch.surfaces := batch.surfaces.mem_toList
  rw [hdone]
  refine ⟨⟨if image.codeBasedPropositions = [] then none else some image.codeBasedPropositions,
    (q.outbox.sends_dispatch (q.reconcilePlan batch.surfaces image)).toListeners,
    fun asked hasked => ?_⟩, hmember, ?_, fun others hothers => ?_⟩
  · by_cases hnone : image.codeBasedPropositions = []
    · rw [if_pos hnone]
      refine ⟨fun told htold => absurd htold (by simp only [reduceCtorEq, not_false_eq_true]),
        fun _ => q.propositionsFor_written_eq_empty hnone fun s hs => (hasked s).mp hs⟩
    · rw [if_neg hnone]
      refine ⟨fun told htold => ?_,
        fun habsent => absurd habsent (by simp only [reduceCtorEq, not_false_eq_true])⟩
      rw [← Option.some.inj htold]
      refine ⟨hnone, ?_⟩
      rw [along_propositionsFor fun s hs => (hasked s).mpr ((hmember s).mp hs)]
      exact q.codeBasedPropositions_eq_flatMap_written batch
  · exact batch.surfaces.toList_increasing.imp fun hlt => (utf8Bytes_lt_iff _ _).mpr hlt
  · refine propositionsFor_congr fun s hs => ?_
    rw [held?_codeBased_written, if_neg (hothers s hs)]

/-- Two surfaces have content when they are both asked for again, and what arrives is
    for the second one only. The listeners are told of what the reader is then answered,
    and the content of the first one is gone. -/
theorem renewed_and_dropped_surfaces_agree :
    let one : Surface := ⟨"mobileapp://app/one"⟩
    let two : Surface := ⟨"mobileapp://app/two"⟩
    let content := fun (id : String) (s : Surface) =>
      Proposition.build id s.uri [] [.unowned "item" .defaultContent .null]
    let home : Home (StateM Unit) := ⟨none, "propositions"⟩
    let arrival := fun (id : String) (p : Proposition) =>
      Call.operation (.fragment (Fragment.event id (.arr [p.toJson])))
    let calls : List Call := [.operation (.register "first" (.ofList [one])),
      arrival "first" (content "a" one), .operation (.completion (completionEvent "first")),
      .operation (.register "second" (.ofList [two])),
      arrival "second" (content "b" two), .operation (.completion (completionEvent "second")),
      .operation (.register "third" (.ofList [two, one])), arrival "third" (content "c" two)]
    let p := ((start "app").reached home () calls).1
    let done := ((p.complete home "third").run ()).1.2
    p.codeBased.surfaces = [one, two]
      ∧ ∃ told, done.outbox.notices = p.outbox.notices ++ [told]
        ∧ told = [content "c" two]
        ∧ told = (done.propositionsFor [two, one]).along [one, two]
        ∧ done.codeBased.surfaces = [two] := by
  intro one two content home arrival calls p
  let batch : Batch :=
    { request := "third", surfaces := .ofList [two, one], propositions := [content "c" two] }
  have hbatch : (p.pending.complete "third").1 = some batch := by decide +kernel
  have hsurfaces : batch.surfaces.toList = [one, two] := by decide +kernel
  have hnotices : ((p.complete home "third").run ()).1.2.outbox.notices
      = p.outbox.notices ++ [[content "c" two]] := by decide +kernel
  rcases listeners_and_readers_agree home p () hbatch with ⟨⟨notice, hnotice, hasked⟩, hmember, _⟩
  have htold : notice.toList = [[content "c" two]] :=
    List.append_cancel_left (hnotice.symm.trans hnotices)
  have hsome : notice = some [content "c" two] := Option.toList_eq_singleton_iff.mp htold
  have hmembers : ∀ s, s ∈ [two, one] ↔ s ∈ batch.surfaces := by
    intro s
    rw [← hmember s, hsurfaces]
    simp only [List.mem_cons, List.not_mem_nil, or_false]
    exact or_comm
  have hbefore : p.codeBased.surfaces = [one, two] := by decide +kernel
  have hafter : ((p.complete home "third").run ()).1.2.codeBased.surfaces = [two] := by
    decide +kernel
  refine ⟨hbefore, [content "c" two], hnotices, rfl, ?_, hafter⟩
  have hread := ((hasked [two, one] hmembers).1 _ hsome).2
  rw [hsurfaces] at hread
  exact hread

end Pipeline

end Decisioning
