import Decisioning.Proofs.SurfaceStore

/-!
# Merging

What callers may rely on when they merge more than once.

A merge is a walk over a set. What the walk does to a surface depends on the batch
and on nothing else, and what it counts there on the batch and on whether the
surface was held. From this follow the laws: two merges in a row are one merge, in
which the later batch is laid over the earlier one; a merge that is repeated does
nothing; and merges for different surfaces may change places. It also follows that
no order in which the surfaces are visited shows, that the batch is not looked at
outside of what was requested, and that the store is not either.

A batch with an empty list for a surface has nothing for it. The later batch is laid
over the earlier one all the same, as the surface was requested again.

## Main definitions

* `SurfaceSet.union`: The surfaces of two sets.
* `SurfaceSet.EnumeratedBy`: A list has every surface of a set once.
* `SurfaceLists.overlaid`: A batch laid over another one.

## Theorems

* `SurfaceStore.merge_merge`: Two merges in a row are one.
* `SurfaceStore.merge_merge_self`, `merge_comm`: Merges that are repeated or that
  change places.
* `SurfaceStore.foldl_mergeSurface_of_enumeratedBy`: No order of the walk shows.
* `SurfaceStore.merge_congr_batch`, `merge_congr_store`: What a merge looks at.
* `SurfaceStore.merging_laws`: All of it together.
-/

namespace Decisioning

universe u

namespace SurfaceSet

/-- The surfaces that are in one set or the other. -/
def union (set other : SurfaceSet) : SurfaceSet := ⟨set.members.union other.members⟩

theorem contains_union (set other : SurfaceSet) (s : Surface) :
    (set.union other).contains s = (other.contains s || set.contains s) := by
  rw [contains, union, SortedMap.contains, SortedMap.get?_union, Option.isSome_or]
  rfl

/-- A list has every surface of a set, once, and no others. -/
structure EnumeratedBy (set : SurfaceSet) (order : List Surface) : Prop where
  nodup : order.Nodup
  mem_iff : ∀ s, s ∈ order ↔ s ∈ set

/-- Two ways to go through a set differ in the order only. -/
theorem EnumeratedBy.perm {set : SurfaceSet} {order : List Surface}
    (h : set.EnumeratedBy order) : order.Perm set.toList := by
  rw [List.perm_ext_iff_of_nodup h.nodup set.toList_nodup]
  intro s
  rw [h.mem_iff, mem_toList]
  rfl

end SurfaceSet

namespace SurfaceLists

variable {α : Type u}

/-- A later batch laid over an earlier one: what the later one has for its surfaces,
    and what the earlier one has for those of its surfaces that are left. -/
def overlaid (earlier : SurfaceLists α) (first second : SurfaceSet) (later : SurfaceLists α) :
    SurfaceLists α :=
  (earlier.filter fun uri _ => first.contains ⟨uri⟩ && !second.contains ⟨uri⟩).union
    (later.filter fun uri _ => second.contains ⟨uri⟩)

theorem get?_overlaid (earlier later : SurfaceLists α) (first second : SurfaceSet) (s : Surface) :
    (earlier.overlaid first second later).get? s.uri
      = if second.contains s then later.get? s.uri
        else if first.contains s then earlier.get? s.uri else none := by
  rw [overlaid, SortedMap.get?_union,
    SortedMap.get?_filter_keys fun uri => first.contains ⟨uri⟩ && !second.contains ⟨uri⟩,
    SortedMap.get?_filter_keys fun uri => second.contains ⟨uri⟩]
  by_cases hsecond : second.contains s = true
  · -- The rest of the earlier batch has been taken out.
    simp only [hsecond, Bool.not_true, Bool.and_false, Bool.false_eq_true, ↓reduceIte,
      Option.or_none]
  · simp only [hsecond, Bool.not_false, Bool.and_true, Bool.false_eq_true, ↓reduceIte,
      Option.none_or]

theorem content?_overlaid (earlier later : SurfaceLists α) (first second : SurfaceSet)
    (s : Surface) :
    (earlier.overlaid first second later).content? s
      = if second.contains s then later.content? s
        else if first.contains s then earlier.content? s else none := by
  rw [content?, get?_overlaid]
  by_cases hsecond : second.contains s = true
  · rw [if_pos hsecond, if_pos hsecond, content?]
  · rw [if_neg hsecond, if_neg hsecond]
    by_cases hfirst : first.contains s = true
    · rw [if_pos hfirst, if_pos hfirst, content?]
    · rw [if_neg hfirst, if_neg hfirst, Option.filter_none]

end SurfaceLists

namespace SurfaceStore

variable {α : Type u}

/-- Two merges in a row are one merge for all the surfaces, with the later batch laid
    over the earlier one. -/
theorem merge_merge (store : SurfaceStore α) (first second : SurfaceSet)
    (earlier later : SurfaceLists α) :
    ((store.merge first earlier).2.merge second later).2
      = (store.merge (first.union second) (earlier.overlaid first second later)).2 := by
  refine ext_held? fun s => ?_
  rw [held?_merge, held?_merge, held?_merge, SurfaceSet.contains_union,
    SurfaceLists.content?_overlaid]
  by_cases hsecond : second.contains s = true
  · simp only [hsecond, Bool.true_or, ↓reduceIte]
  · by_cases hfirst : first.contains s = true
    · simp only [hsecond, hfirst, Bool.or_true, Bool.false_eq_true, ↓reduceIte]
    · simp only [hsecond, hfirst, Bool.or_self, Bool.false_eq_true, ↓reduceIte]

/-- A merge that is repeated does nothing more. -/
theorem merge_merge_self (store : SurfaceStore α) (requested : SurfaceSet)
    (batch : SurfaceLists α) :
    ((store.merge requested batch).2.merge requested batch).2
      = (store.merge requested batch).2 := by
  refine ext_held? fun s => ?_
  rw [held?_merge, held?_merge]
  by_cases hs : requested.contains s = true
  · rw [if_pos hs, if_pos hs]
  · rw [if_neg hs]

/-- Merges for different surfaces may change places. -/
theorem merge_comm (store : SurfaceStore α) {first second : SurfaceSet}
    (hdisjoint : ∀ s ∈ first, s ∉ second) (one other : SurfaceLists α) :
    ((store.merge first one).2.merge second other).2
      = ((store.merge second other).2.merge first one).2 := by
  refine ext_held? fun s => ?_
  rw [held?_merge, held?_merge, held?_merge, held?_merge]
  by_cases hfirst : first.contains s = true
  · have hsecond : ¬second.contains s = true := hdisjoint s hfirst
    rw [if_neg hsecond, if_pos hfirst, if_pos hfirst]
  · rw [if_neg hfirst, if_neg hfirst]

/-- No order in which the surfaces are visited shows, in the store or in the counts. -/
theorem foldl_mergeSurface_of_enumeratedBy (store : SurfaceStore α) {requested : SurfaceSet}
    {order : List Surface} (horder : requested.EnumeratedBy order) (batch : SurfaceLists α) :
    order.foldl (mergeSurface batch) (⟨0, 0⟩, store) = store.merge requested batch := by
  refine Prod.ext ?_ (ext_held? fun s => ?_)
  · rw [merge, outcome_foldl_mergeSurface batch _ horder.nodup,
      outcome_foldl_mergeSurface batch _ requested.toList_nodup, horder.perm.countP_eq,
      horder.perm.countP_eq]
  · rw [merge, held?_foldl_mergeSurface, held?_foldl_mergeSurface]
    simp only [horder.perm.mem_iff]

theorem foldl_removeSurface_of_enumeratedBy (store : SurfaceStore α) {surfaces : SurfaceSet}
    {order : List Surface} (horder : surfaces.EnumeratedBy order) :
    order.foldl removeSurface (0, store) = store.removeSurfaces surfaces := by
  rw [removeSurfaces_eq_merge, ← foldl_mergeSurface_of_enumeratedBy store horder .empty]
  exact foldl_removeSurface order ⟨0, 0⟩ store

/-- What a merge counts is decided by what the batch has for the requested surfaces, and
    by which of them are held. -/
theorem merge_outcome_congr {store other : SurfaceStore α} {requested : SurfaceSet}
    {batch later : SurfaceLists α}
    (hheld : ∀ s ∈ requested, store.contains s = other.contains s)
    (hcontent : ∀ s ∈ requested, batch.content? s = later.content? s) :
    (store.merge requested batch).1 = (other.merge requested later).1 := by
  have hreplaced : requested.toList.countP (fun s => (batch.content? s).isSome)
      = requested.toList.countP fun s => (later.content? s).isSome :=
    List.countP_congr fun s hs => by rw [hcontent s ((requested.mem_toList s).mp hs)]
  have hremoved : requested.toList.countP
        (fun s => store.contains s && (batch.content? s).isNone)
      = requested.toList.countP fun s => other.contains s && (later.content? s).isNone :=
    List.countP_congr fun s hs => by
      have hs := (requested.mem_toList s).mp hs
      rw [hheld s hs, hcontent s hs]
  rw [merge, outcome_foldl_mergeSurface batch _ requested.toList_nodup, hreplaced, hremoved,
    merge, outcome_foldl_mergeSurface later _ requested.toList_nodup]

/-- A merge does not look at what a batch has for surfaces that were not requested. -/
theorem merge_congr_batch (store : SurfaceStore α) {requested : SurfaceSet}
    {batch later : SurfaceLists α} (h : ∀ s ∈ requested, batch.get? s.uri = later.get? s.uri) :
    store.merge requested batch = store.merge requested later := by
  have hcontent : ∀ s ∈ requested, batch.content? s = later.content? s := by
    intro s hs
    rw [SurfaceLists.content?, h s hs, SurfaceLists.content?]
  refine Prod.ext (merge_outcome_congr (fun _ _ => rfl) hcontent) (ext_held? fun s => ?_)
  rw [held?_merge, held?_merge]
  by_cases hs : requested.contains s = true
  · rw [if_pos hs, if_pos hs, hcontent s hs]
  · rw [if_neg hs, if_neg hs]

/-- Nor does it look at what a store holds for such surfaces. -/
theorem merge_congr_store {store other : SurfaceStore α} {requested : SurfaceSet}
    (h : ∀ s ∈ requested, store.held? s = other.held? s) (batch : SurfaceLists α) :
    (store.merge requested batch).1 = (other.merge requested batch).1
      ∧ ∀ s ∈ requested, (store.merge requested batch).2.held? s
        = (other.merge requested batch).2.held? s := by
  have hheld : ∀ s ∈ requested, store.contains s = other.contains s := by
    intro s hs
    rw [contains_eq_held?, h s hs, contains_eq_held?]
  refine ⟨merge_outcome_congr hheld fun _ _ => rfl, fun s hs => ?_⟩
  have hcovered : requested.contains s = true := hs
  rw [held?_merge, held?_merge, if_pos hcovered, if_pos hcovered]

/-- Merging has the algebra that callers rely on. Two merges in a row are one merge of
    all requested surfaces, where each has the batch that was merged for it last. So a
    merge that is repeated does nothing, and merges for different surfaces may change
    places. Dropping surfaces is merging a batch that has nothing, and counts the same.
    In whatever order the surfaces are visited, the store and the counts are the same:
    a surface counts as replaced if the batch has a list for it that is not empty, and
    as removed if it has none and the store held the surface. Surfaces that were not
    requested are left as they were, and neither they nor what the batch has for them
    make a difference to the others or to the counts. -/
theorem merging_laws (store : SurfaceStore α) (requested others : SurfaceSet)
    (batch later : SurfaceLists α) :
    ((store.merge requested batch).2.merge others later).2
        = (store.merge (requested.union others) (batch.overlaid requested others later)).2
      ∧ ((store.merge requested batch).2.merge requested batch).2
        = (store.merge requested batch).2
      ∧ ((∀ s ∈ requested, s ∉ others) →
        ((store.merge requested batch).2.merge others later).2
          = ((store.merge others later).2.merge requested batch).2)
      ∧ store.removeSurfaces requested
        = ((store.merge requested .empty).1.removed, (store.merge requested .empty).2)
      ∧ (∀ order, requested.EnumeratedBy order →
        order.foldl (mergeSurface batch) (⟨0, 0⟩, store) = store.merge requested batch
          ∧ order.foldl removeSurface (0, store) = store.removeSurfaces requested
          ∧ (store.merge requested batch).1 = {
              replaced := order.countP fun s => (batch.content? s).isSome
              removed := order.countP fun s => store.contains s && (batch.content? s).isNone })
      ∧ (∀ s, s ∉ requested → (store.merge requested batch).2.held? s = store.held? s)
      ∧ (∀ given, (∀ s ∈ requested, batch.get? s.uri = SortedMap.get? given s.uri) →
        store.merge requested batch = store.merge requested given)
      ∧ ∀ other : SurfaceStore α, (∀ s ∈ requested, store.held? s = other.held? s) →
        (store.merge requested batch).1 = (other.merge requested batch).1
          ∧ ∀ s ∈ requested, (store.merge requested batch).2.held? s
            = (other.merge requested batch).2.held? s := by
  refine ⟨merge_merge store requested others batch later, merge_merge_self store requested batch,
    fun hdisjoint => merge_comm store hdisjoint batch later,
    removeSurfaces_eq_merge store requested, ?_, ?_,
    fun given h => merge_congr_batch store h, fun other h => merge_congr_store h batch⟩
  · -- All that is needed of an order is that it has each surface once.
    intro order horder
    have hwalk := foldl_mergeSurface_of_enumeratedBy store horder batch
    refine ⟨hwalk, foldl_removeSurface_of_enumeratedBy store horder, ?_⟩
    rw [← hwalk, outcome_foldl_mergeSurface batch order horder.nodup, Nat.zero_add, Nat.zero_add]
  · intro s hs
    have hnot : ¬requested.contains s = true := hs
    rw [held?_merge, if_neg hnot]

/-- A store with three surfaces takes a batch for two of them and a new one, and then
    a batch for a surface of its own. The first batch replaces one surface, has an empty
    list for the next, and has nothing for the last. The surfaces are visited in no
    order at all, and a surface that was not asked for comes with the batch. -/
theorem lists_merged_in_any_order :
    let a : Surface := ⟨"app://a"⟩
    let b : Surface := ⟨"app://b"⟩
    let c : Surface := ⟨"app://c"⟩
    let d : Surface := ⟨"app://d"⟩
    let store : SurfaceStore Nat := .ofLists (.ofList [(a.uri, [1]), (b.uri, [2]), (d.uri, [4])])
    let other : SurfaceStore Nat := .ofLists (.ofList [(a.uri, [1]), (b.uri, [2])])
    let requested : SurfaceSet := .ofList [a, b, c]
    let batch : SurfaceLists Nat := .ofList [(a.uri, [5, 6]), (b.uri, [])]
    let given : SurfaceLists Nat := batch.insert d.uri [9]
    let later : SurfaceLists Nat := .ofList [(d.uri, [7])]
    ((∀ s ∈ requested, s ∉ SurfaceSet.ofList [d])
        ∧ ((store.merge requested batch).2.merge (.ofList [d]) later).2
          = ((store.merge (.ofList [d]) later).2.merge requested batch).2)
      ∧ (requested.EnumeratedBy [c, a, b]
        ∧ [c, a, b].foldl (mergeSurface batch) (⟨0, 0⟩, store) = store.merge requested batch
        ∧ (store.merge requested batch).1 = { replaced := 1, removed := 1 })
      ∧ (d ∉ requested ∧ (store.merge requested batch).2.held? d = some [4])
      ∧ ((∀ s ∈ requested, batch.get? s.uri = given.get? s.uri)
        ∧ store.merge requested batch = store.merge requested given)
      ∧ (∀ s ∈ requested, store.held? s = other.held? s)
        ∧ (store.merge requested batch).1 = (other.merge requested batch).1 := by
  intro a b c d store other requested batch given later
  rcases merging_laws store requested (.ofList [d]) batch later with
    ⟨-, -, hcomm, -, hwalk, hkept, hbatch, hstore⟩
  have hmem : ∀ s, s ∈ requested ↔ s ∈ [a, b, c] := SurfaceSet.contains_ofList [a, b, c]
  have hdisjoint : ∀ s ∈ requested, s ∉ SurfaceSet.ofList [d] := by
    simp only [hmem]
    decide +kernel
  have horder : requested.EnumeratedBy [c, a, b] := by
    refine ⟨by decide +kernel, fun s => ?_⟩
    have hperm : [c, a, b].Perm [a, b, c] := by decide +kernel
    rw [hmem, hperm.mem_iff]
  have hd : d ∉ requested := by decide +kernel
  have hsame : ∀ s ∈ requested, batch.get? s.uri = given.get? s.uri := by
    simp only [hmem]
    decide +kernel
  have hheld : ∀ s ∈ requested, store.held? s = other.held? s := by
    simp only [hmem]
    decide +kernel
  rcases hwalk [c, a, b] horder with ⟨hfold, -, houtcome⟩
  exact ⟨⟨hdisjoint, hcomm hdisjoint⟩, ⟨horder, hfold, houtcome.trans (by decide +kernel)⟩,
    ⟨hd, (hkept d hd).trans (by decide +kernel)⟩, ⟨hsame, hbatch given hsame⟩,
    hheld, (hstore other hheld).1⟩

end SurfaceStore

end Decisioning
