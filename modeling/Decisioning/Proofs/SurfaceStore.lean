import Decisioning.Proofs.SortedMap
import Decisioning.Surface.Store

/-!
# Surface Stores by Surface

What the operations on surface stores do to each surface.

A merge walks over the requested surfaces and inserts, drops and counts as it
goes. Nothing of that order remains in the result: `held?_merge` says for each
surface alone what is held afterwards, and the two counts are the numbers of
requested surfaces with a property that can be read off before the merge. Every
later statement about stores goes through these equations.

The lists of a batch may be empty, and a merge treats an empty list like none.
`SurfaceLists.content?` is what a batch really has for a surface. A store that
itself never holds an empty list, `HoldsContent`, is determined by the lists
that its reader answers, which is how stores are compared.

## Main definitions

* `SurfaceLists.content?`: The list of a surface, unless it is empty.
* `SurfaceStore.held?`: What a store holds for a surface.
* `SurfaceStore.HoldsContent`: No surface is held with an empty list.

## Theorems

* `lookup?_map_surfaces`, `eq_of_increasing`: Lists of surfaces.
* `SurfaceSet.contains_ofList`, `mem_toList`, `toList_increasing`: Sets of surfaces.
* `SurfaceStore.held?_foldl_mergeSurface`, `held?_merge`, `merge_replaced`,
  `merge_removed`: A merge.
* `SurfaceStore.held?_removeSurfaces`, `removeSurfaces_count`: A removal.
* `SurfaceStore.mem_get_merge`: Where the values after a merge come from.
* `SurfaceStore.held?_push`, `held?_ofLists`: The other operations.
* `SurfaceStore.merge_eq_self`: A merge that brings and drops nothing.
* `SurfaceStore.flatten_eq_flatMap_get`: The flattened store by its reader.
* `SurfaceStore.HoldsContent.contains_iff`: What is held has content.
* `SurfaceStore.ext_get`: The reader determines a store without empty lists.
-/

namespace Decisioning

universe u

theorem uri_eq_iff (s t : Surface) : s.uri = t.uri ↔ s = t := by
  cases s
  cases t
  exact (Surface.mk.injEq _ _).symm.to_iff

/-- Looking a surface up among others, each with a value of its own. -/
theorem lookup?_map_surfaces {α : Type u} (value : Surface → α) (ss : List Surface) (s : Surface) :
    lookup? s.uri (ss.map fun t => (t.uri, value t)) = if s ∈ ss then some (value s) else none := by
  induction ss with
  | nil => rfl
  | cons t rest ih =>
      rw [List.map_cons, lookup?, ih]
      by_cases hst : s = t
      · rw [if_pos (congrArg Surface.uri hst), if_pos (List.mem_cons.mpr (Or.inl hst)), hst]
      · rw [if_neg (mt (uri_eq_iff s t).mp hst)]
        simp only [List.mem_cons, hst, false_or]

theorem nodup_of_increasing {ss : List Surface} (h : ss.Pairwise fun s t => s.uri < t.uri) :
    ss.Nodup := by
  refine h.imp ?_
  intro s t hlt heq
  exact String.lt_irrefl t.uri (heq ▸ hlt)

/-- Surfaces in URI order, each of them once, are determined by which they are. -/
theorem eq_of_increasing {ss ts : List Surface} (hss : ss.Pairwise fun s t => s.uri < t.uri)
    (hts : ts.Pairwise fun s t => s.uri < t.uri) (h : ∀ s, s ∈ ss ↔ s ∈ ts) : ss = ts := by
  refine List.Perm.eq_of_pairwise (fun s t _ _ hst hts => ?_) hss hts
    ((List.perm_ext_iff_of_nodup (nodup_of_increasing hss) (nodup_of_increasing hts)).mpr h)
  exact absurd (String.lt_trans hst hts) (String.lt_irrefl s.uri)

namespace SurfaceSet

/-- A set made from a list has the members of the list. -/
theorem contains_ofList (surfaces : List Surface) (s : Surface) :
    (ofList surfaces).contains s = true ↔ s ∈ surfaces := by
  rw [contains, ofList, SortedMap.contains, SortedMap.get?_ofList, ← List.map_reverse,
    lookup?_map_surfaces fun _ => ()]
  by_cases hs : s ∈ surfaces
  · simp only [List.mem_reverse, hs, ↓reduceIte, Option.isSome_some]
  · simp only [List.mem_reverse, hs, ↓reduceIte, Option.isSome_none, Bool.false_eq_true]

theorem mem_toList (set : SurfaceSet) (s : Surface) :
    s ∈ set.toList ↔ set.contains s = true := by
  rw [contains, SortedMap.contains_iff_mem_keys, toList, List.mem_map]
  constructor
  · rintro ⟨k, hk, rfl⟩
    exact hk
  · intro hk
    exact ⟨s.uri, hk, rfl⟩

theorem toList_increasing (set : SurfaceSet) :
    set.toList.Pairwise fun s t => s.uri < t.uri := by
  rw [toList, List.pairwise_map]
  exact set.members.keys_sorted

theorem toList_nodup (set : SurfaceSet) : set.toList.Nodup :=
  nodup_of_increasing set.toList_increasing

theorem contains_ofList_singleton (s t : Surface) :
    (ofList [s]).contains t = true ↔ t = s := by
  rw [contains_ofList, List.mem_singleton]

theorem isEmpty_ofList (surfaces : List Surface) :
    (ofList surfaces).isEmpty = surfaces.isEmpty := by
  cases surfaces with
  | nil => rfl
  | cons s rest =>
      rw [List.isEmpty_cons, isEmpty, Bool.eq_false_iff]
      intro hempty
      have hs : (ofList (s :: rest)).contains s = true :=
        (contains_ofList _ s).mpr List.mem_cons_self
      rw [contains, (SortedMap.isEmpty_iff _).mp hempty] at hs
      exact absurd hs Bool.false_ne_true

end SurfaceSet

/-- The list of a surface, unless it is empty. -/
def SurfaceLists.content? {α : Type u} (lists : SurfaceLists α) (s : Surface) :
    Option (List α) :=
  (lists.get? s.uri).filter fun values => !values.isEmpty

namespace SurfaceStore

variable {α : Type u}

/-- What is held for a surface. -/
def held? (store : SurfaceStore α) (s : Surface) : Option (List α) := store.lists.get? s.uri

theorem get_eq_held? (store : SurfaceStore α) (s : Surface) :
    store.get s = (store.held? s).getD [] := rfl

theorem contains_eq_held? (store : SurfaceStore α) (s : Surface) :
    store.contains s = (store.held? s).isSome := rfl

theorem held?_eq_none_iff (store : SurfaceStore α) (s : Surface) :
    store.held? s = none ↔ store.contains s = false := by
  rw [contains_eq_held?, Option.isSome_eq_false_iff, Option.isNone_iff_eq_none]

@[simp]
theorem held?_empty (s : Surface) : (empty : SurfaceStore α).held? s = none := rfl

@[simp]
theorem get_empty (s : Surface) : (empty : SurfaceStore α).get s = [] := rfl

theorem ext_held? {store other : SurfaceStore α} (h : ∀ s, store.held? s = other.held? s) :
    store = other := by
  have hlists : store.lists = other.lists := SortedMap.ext_get? fun k => h ⟨k⟩
  cases store
  cases other
  exact congrArg SurfaceStore.mk hlists

theorem held?_insert (store : SurfaceStore α) (s t : Surface) (values : List α) :
    (⟨store.lists.insert s.uri values⟩ : SurfaceStore α).held? t
      = if t = s then some values else store.held? t := by
  rw [held?, SortedMap.get?_insert]
  simp only [uri_eq_iff]
  rfl

theorem held?_erase (store : SurfaceStore α) (s t : Surface) :
    (⟨store.lists.erase s.uri⟩ : SurfaceStore α).held? t
      = if t = s then none else store.held? t := by
  rw [held?, SortedMap.get?_erase]
  simp only [uri_eq_iff]
  rfl

theorem held?_push (store : SurfaceStore α) (s t : Surface) (value : α) :
    (store.push s value).held? t
      = if t = s then some (store.get s ++ [value]) else store.held? t :=
  held?_insert store s t _

theorem get_push (store : SurfaceStore α) (s t : Surface) (value : α) :
    (store.push s value).get t = if t = s then store.get s ++ [value] else store.get t := by
  rw [get_eq_held?, held?_push]
  by_cases hts : t = s
  · rw [if_pos hts, if_pos hts, Option.getD_some]
  · rw [if_neg hts, if_neg hts, get_eq_held?]

theorem held?_ofLists (lists : SurfaceLists α) (s : Surface) :
    (ofLists lists).held? s = lists.content? s :=
  SortedMap.get?_filter _ lists s.uri

/-- One step of a merge touches one surface, and counts what it does there. -/
theorem mergeSurface_eq (batch : SurfaceLists α) (outcome : MergeOutcome)
    (store : SurfaceStore α) (s : Surface) :
    mergeSurface batch (outcome, store) s
      = match batch.content? s with
        | some values =>
            ({ outcome with replaced := outcome.replaced + 1 }, ⟨store.lists.insert s.uri values⟩)
        | none =>
            if store.contains s then
              ({ outcome with removed := outcome.removed + 1 }, ⟨store.lists.erase s.uri⟩)
            else
              (outcome, store) := by
  unfold mergeSurface SurfaceLists.content?
  cases hget : batch.get? s.uri with
  | none => rfl
  | some values =>
      cases values with
      | nil => rfl
      | cons value values => rfl

theorem held?_mergeSurface (batch : SurfaceLists α) (state : MergeOutcome × SurfaceStore α)
    (s t : Surface) :
    (mergeSurface batch state s).2.held? t
      = if t = s then batch.content? s else state.2.held? t := by
  obtain ⟨outcome, store⟩ := state
  rw [mergeSurface_eq]
  cases batch.content? s with
  | some values => exact held?_insert store s t values
  | none =>
      by_cases hs : store.contains s = true
      · simp only [hs, ↓reduceIte]
        exact held?_erase store s t
      · -- Nothing is held for the surface, which is what dropping it would leave.
        simp only [hs, Bool.false_eq_true, ↓reduceIte]
        by_cases hts : t = s
        · rw [if_pos hts, hts]
          exact (store.held?_eq_none_iff s).mpr (Bool.not_eq_true _ ▸ hs)
        · rw [if_neg hts]

/-- What a walk over any list of surfaces leaves at a surface. Visiting a surface
    twice changes nothing, so this needs no bookkeeping. -/
theorem held?_foldl_mergeSurface (batch : SurfaceLists α) (ss : List Surface)
    (state : MergeOutcome × SurfaceStore α) (t : Surface) :
    (ss.foldl (mergeSurface batch) state).2.held? t
      = if t ∈ ss then batch.content? t else state.2.held? t := by
  induction ss generalizing state with
  | nil => simp only [List.foldl_nil, List.not_mem_nil, ↓reduceIte]
  | cons s rest ih =>
      rw [List.foldl_cons, ih, held?_mergeSurface]
      by_cases hts : t = s
      · simp only [hts, List.mem_cons, true_or, ↓reduceIte, ite_self]
      · simp only [hts, List.mem_cons, false_or, ↓reduceIte]

/-- After a merge a requested surface has what the batch has for it, and every
    other surface has what it had. -/
theorem held?_merge (store : SurfaceStore α) (requested : SurfaceSet)
    (batch : SurfaceLists α) (t : Surface) :
    (store.merge requested batch).2.held? t
      = if requested.contains t then batch.content? t else store.held? t := by
  rw [merge, held?_foldl_mergeSurface]
  simp only [SurfaceSet.mem_toList]

/-- What a merge counts, over surfaces that are visited once each. -/
theorem outcome_foldl_mergeSurface (batch : SurfaceLists α) (ss : List Surface)
    (hnodup : ss.Nodup) (outcome : MergeOutcome) (store : SurfaceStore α) :
    (ss.foldl (mergeSurface batch) (outcome, store)).1
      = { replaced := outcome.replaced + ss.countP fun s => (batch.content? s).isSome
          removed := outcome.removed
            + ss.countP fun s => store.contains s && (batch.content? s).isNone } := by
  induction ss generalizing outcome store with
  | nil => rfl
  | cons s rest ih =>
      rw [List.nodup_cons] at hnodup
      rw [List.foldl_cons]
      -- The surfaces still to come are held after the first step if they were before it.
      have hrest : ∀ state : MergeOutcome × SurfaceStore α,
          mergeSurface batch (outcome, store) s = state →
          (rest.countP fun t => state.2.contains t && (batch.content? t).isNone)
            = rest.countP fun t => store.contains t && (batch.content? t).isNone := by
        intro state hstate
        refine List.countP_congr fun t ht => ?_
        have hts : t ≠ s := fun heq => hnodup.1 (heq ▸ ht)
        rw [contains_eq_held?, contains_eq_held?, ← hstate, held?_mergeSurface, if_neg hts]
      rw [ih hnodup.2, hrest _ rfl, List.countP_cons, List.countP_cons, mergeSurface_eq]
      cases batch.content? s with
      | some values =>
          simp only [Option.isSome_some, Option.isNone_some, Bool.and_false, ↓reduceIte,
            Bool.false_eq_true, MergeOutcome.mk.injEq]
          omega
      | none =>
          cases store.contains s with
          | true =>
              simp only [↓reduceIte, Option.isSome_none, Option.isNone_none, Bool.and_true,
                Bool.false_eq_true, MergeOutcome.mk.injEq]
              omega
          | false =>
              simp only [↓reduceIte, Option.isSome_none, Option.isNone_none, Bool.and_true,
                Bool.false_eq_true, Nat.add_zero]

/-- A merge counts the requested surfaces for which the batch has something. -/
theorem merge_replaced (store : SurfaceStore α) (requested : SurfaceSet)
    (batch : SurfaceLists α) :
    (store.merge requested batch).1.replaced
      = requested.toList.countP fun s => (batch.content? s).isSome := by
  rw [merge, outcome_foldl_mergeSurface batch _ requested.toList_nodup]
  exact Nat.zero_add _

/-- A merge counts the requested surfaces that were held and for which the batch
    has nothing. -/
theorem merge_removed (store : SurfaceStore α) (requested : SurfaceSet)
    (batch : SurfaceLists α) :
    (store.merge requested batch).1.removed
      = requested.toList.countP fun s => store.contains s && (batch.content? s).isNone := by
  rw [merge, outcome_foldl_mergeSurface batch _ requested.toList_nodup]
  exact Nat.zero_add _

/-- A merge that brings nothing and drops nothing leaves the store as it was. -/
theorem merge_eq_self (store : SurfaceStore α) (requested : SurfaceSet)
    (batch : SurfaceLists α) (hbatch : ∀ s, batch.content? s = none)
    (hremoved : (store.merge requested batch).1.removed = 0) :
    (store.merge requested batch).2 = store := by
  refine ext_held? fun s => ?_
  rw [held?_merge, hbatch]
  by_cases hs : requested.contains s = true
  · rw [if_pos hs]
    rw [merge_removed, List.countP_eq_zero] at hremoved
    have hnot := hremoved s ((requested.mem_toList s).mpr hs)
    rw [hbatch, Option.isNone_none, Bool.and_true, Bool.not_eq_true] at hnot
    exact ((store.held?_eq_none_iff s).mpr hnot).symm
  · rw [if_neg hs]

/-- A walk that drops surfaces is a walk that merges a batch without content. -/
theorem foldl_removeSurface (ss : List Surface) (outcome : MergeOutcome)
    (store : SurfaceStore α) :
    ss.foldl removeSurface (outcome.removed, store)
      = ((ss.foldl (mergeSurface .empty) (outcome, store)).1.removed,
          (ss.foldl (mergeSurface .empty) (outcome, store)).2) := by
  induction ss generalizing outcome store with
  | nil => rfl
  | cons s rest ih =>
      rw [List.foldl_cons, List.foldl_cons]
      -- One step: the batch is empty, so only the second branch of a merge is left.
      have hstep : mergeSurface .empty (outcome, store) s
          = if store.contains s then
              ({ outcome with removed := outcome.removed + 1 }, ⟨store.lists.erase s.uri⟩)
            else (outcome, store) := rfl
      rw [hstep, removeSurface]
      by_cases hs : store.contains s = true
      · simp only [hs, ↓reduceIte]
        exact ih { outcome with removed := outcome.removed + 1 } _
      · simp only [hs, Bool.false_eq_true, ↓reduceIte]
        exact ih outcome store

/-- Dropping surfaces is merging a batch that has nothing for them. -/
theorem removeSurfaces_eq_merge (store : SurfaceStore α) (surfaces : SurfaceSet) :
    store.removeSurfaces surfaces
      = ((store.merge surfaces .empty).1.removed, (store.merge surfaces .empty).2) :=
  foldl_removeSurface surfaces.toList ⟨0, 0⟩ store

theorem content?_empty (s : Surface) :
    SurfaceLists.content? (.empty : SurfaceLists α) s = none := rfl

theorem held?_removeSurfaces (store : SurfaceStore α) (surfaces : SurfaceSet) (t : Surface) :
    (store.removeSurfaces surfaces).2.held? t
      = if surfaces.contains t then none else store.held? t := by
  rw [removeSurfaces_eq_merge]
  exact held?_merge store surfaces .empty t

/-- A removal counts the given surfaces that were held. -/
theorem removeSurfaces_count (store : SurfaceStore α) (surfaces : SurfaceSet) :
    (store.removeSurfaces surfaces).1 = surfaces.toList.countP store.contains := by
  rw [removeSurfaces_eq_merge, merge_removed]
  refine List.countP_congr fun s _ => ?_
  rw [content?_empty, Option.isNone_none, Bool.and_true]

/-- A removal that counts nothing leaves the store as it was. -/
theorem removeSurfaces_eq_self (store : SurfaceStore α) (surfaces : SurfaceSet)
    (hcount : (store.removeSurfaces surfaces).1 = 0) :
    (store.removeSurfaces surfaces).2 = store := by
  rw [removeSurfaces_eq_merge] at hcount ⊢
  exact merge_eq_self store surfaces .empty content?_empty hcount

theorem surfaces_sorted (store : SurfaceStore α) :
    store.surfaces.Pairwise fun s t => s.uri < t.uri := by
  rw [surfaces, List.pairwise_map]
  exact store.lists.keys_sorted

theorem surfaces_nodup (store : SurfaceStore α) : store.surfaces.Nodup :=
  nodup_of_increasing store.surfaces_sorted

theorem mem_surfaces (store : SurfaceStore α) (s : Surface) :
    s ∈ store.surfaces ↔ store.contains s = true := by
  rw [contains, SortedMap.contains_iff_mem_keys, surfaces, List.mem_map]
  constructor
  · rintro ⟨k, hk, rfl⟩
    exact hk
  · intro hk
    exact ⟨s.uri, hk, rfl⟩

theorem contains_surfaceSet (store : SurfaceStore α) (s : Surface) :
    store.surfaceSet.contains s = store.contains s := by
  rw [Bool.eq_iff_iff, surfaceSet, SurfaceSet.contains_ofList, mem_surfaces]

/-- The flattened store is what the reader answers for the surfaces in URI
    order. -/
theorem flatten_eq_flatMap_get (store : SurfaceStore α) :
    store.flatten = store.surfaces.flatMap store.get := by
  rw [flatten, SortedMap.flatten_values, surfaces, List.flatMap_map]
  rfl

theorem get_eq_nil_of_not_contains (store : SurfaceStore α) (s : Surface)
    (h : store.contains s = false) : store.get s = [] := by
  rw [get_eq_held?, (store.held?_eq_none_iff s).mpr h, Option.getD_none]

theorem mem_flatten (store : SurfaceStore α) (value : α) :
    value ∈ store.flatten ↔ ∃ s, value ∈ store.get s := by
  rw [flatten_eq_flatMap_get, List.mem_flatMap]
  constructor
  · rintro ⟨s, _, hmem⟩
    exact ⟨s, hmem⟩
  · rintro ⟨s, hmem⟩
    refine ⟨s, ?_, hmem⟩
    -- A surface that is not held has no value.
    rw [mem_surfaces, ← Bool.not_eq_false]
    intro hnot
    rw [get_eq_nil_of_not_contains store s hnot] at hmem
    exact absurd hmem List.not_mem_nil

theorem count_eq_zero_iff (store : SurfaceStore α) :
    store.count = 0 ↔ ∀ s, store.get s = [] := by
  rw [count, List.length_eq_zero_iff, List.eq_nil_iff_forall_not_mem]
  simp only [mem_flatten, List.eq_nil_iff_forall_not_mem, not_exists]
  exact forall_comm

theorem eq_empty_of_size (store : SurfaceStore α) (h : store.size = 0) : store = empty := by
  have hlists : store.lists = .empty := SortedMap.ext (List.eq_nil_of_length_eq_zero h)
  cases store
  exact congrArg SurfaceStore.mk hlists

theorem isEmpty_iff (store : SurfaceStore α) : store.isEmpty = true ↔ store = empty := by
  constructor
  · intro h
    exact store.eq_empty_of_size (List.isEmpty_iff_length_eq_zero.mp h)
  · rintro rfl
    rfl

/-- No surface is held with an empty list. -/
def HoldsContent (store : SurfaceStore α) : Prop := ∀ s, store.held? s ≠ some []

theorem holdsContent_empty : (empty : SurfaceStore α).HoldsContent := by
  intro s h
  exact absurd h (by simp only [held?_empty, reduceCtorEq, not_false_eq_true])

theorem content?_ne_some_nil (lists : SurfaceLists α) (s : Surface) :
    lists.content? s ≠ some [] := by
  intro h
  have := (Option.filter_eq_some_iff.mp h).2
  simp only [List.isEmpty_nil, Bool.not_true, Bool.false_eq_true] at this

theorem HoldsContent.merge {store : SurfaceStore α} (h : store.HoldsContent)
    (requested : SurfaceSet) (batch : SurfaceLists α) :
    (store.merge requested batch).2.HoldsContent := by
  intro s
  rw [held?_merge]
  by_cases hs : requested.contains s = true
  · rw [if_pos hs]
    exact content?_ne_some_nil batch s
  · rw [if_neg hs]
    exact h s

theorem HoldsContent.removeSurfaces {store : SurfaceStore α} (h : store.HoldsContent)
    (surfaces : SurfaceSet) : (store.removeSurfaces surfaces).2.HoldsContent := by
  rw [removeSurfaces_eq_merge]
  exact h.merge surfaces .empty

theorem HoldsContent.push {store : SurfaceStore α} (h : store.HoldsContent) (s : Surface)
    (value : α) : (store.push s value).HoldsContent := by
  intro t
  rw [held?_push]
  by_cases hts : t = s
  · rw [if_pos hts, ne_eq, Option.some.injEq]
    exact List.append_ne_nil_of_right_ne_nil _ (List.cons_ne_nil _ _)
  · rw [if_neg hts]
    exact h t

theorem holdsContent_ofLists (lists : SurfaceLists α) : (ofLists lists).HoldsContent := by
  intro s
  rw [held?_ofLists]
  exact content?_ne_some_nil lists s

/-- A store without empty lists holds exactly what its reader answers, if that is
    anything. -/
theorem HoldsContent.held?_eq {store : SurfaceStore α} (h : store.HoldsContent) (s : Surface) :
    store.held? s = if store.get s = [] then none else some (store.get s) := by
  rw [get_eq_held?]
  cases hs : store.held? s with
  | none => simp only [Option.getD_none, ↓reduceIte]
  | some values =>
      have hne : values ≠ [] := fun heq => h s (heq ▸ hs)
      simp only [Option.getD_some, hne, ↓reduceIte]

theorem HoldsContent.contains_iff {store : SurfaceStore α} (h : store.HoldsContent)
    (s : Surface) : store.contains s = true ↔ store.get s ≠ [] := by
  rw [contains_eq_held?, h.held?_eq]
  by_cases hs : store.get s = []
  · simp only [hs, ↓reduceIte, Option.isSome_none, Bool.false_eq_true, ne_eq, not_true_eq_false]
  · simp only [hs, ↓reduceIte, Option.isSome_some, ne_eq, not_false_eq_true]

/-- A surface for which a store answers nothing has no content in its lists, be it
    that the surface is not held or that it is held with an empty list. -/
theorem content?_lists_of_get_eq_nil {store : SurfaceStore α} {s : Surface}
    (h : store.get s = []) : store.lists.content? s = none := by
  change (store.held? s).filter _ = none
  rw [get_eq_held?] at h
  cases hs : store.held? s with
  | none => rfl
  | some values =>
      rw [hs, Option.getD_some] at h
      rw [h]
      rfl

/-- What the lists of a store have for a surface is what its reader answers. -/
theorem get_eq_of_content?_lists {store : SurfaceStore α} {s : Surface} {values : List α}
    (h : store.lists.content? s = some values) : store.get s = values := by
  have hheld : store.held? s = some values := (Option.filter_eq_some_iff.mp h).1
  rw [get_eq_held?, hheld, Option.getD_some]

/-- A value that is kept at a surface after a merge comes from the batch, or was
    kept there before. -/
theorem mem_get_merge {store : SurfaceStore α} {requested : SurfaceSet}
    {batch : SurfaceLists α} {s : Surface} {value : α}
    (h : value ∈ (store.merge requested batch).2.get s) :
    (∃ values, batch.content? s = some values ∧ value ∈ values) ∨ value ∈ store.get s := by
  rw [get_eq_held?, held?_merge] at h
  by_cases hs : requested.contains s = true
  · rw [if_pos hs] at h
    cases hcontent : batch.content? s with
    | none =>
        rw [hcontent] at h
        exact absurd h List.not_mem_nil
    | some values =>
        rw [hcontent] at h
        exact Or.inl ⟨values, rfl, h⟩
  · rw [if_neg hs] at h
    exact Or.inr h

/-- The lists of a store without empty lists, as a batch. -/
theorem HoldsContent.content?_lists {store : SurfaceStore α} (h : store.HoldsContent)
    (s : Surface) : store.lists.content? s = store.held? s := by
  change (store.held? s).filter _ = _
  cases hs : store.held? s with
  | none => rfl
  | some values =>
      have hne : values ≠ [] := fun heq => h s (heq ▸ hs)
      rw [Option.filter_some, if_pos (by simpa only [List.isEmpty_eq_false_iff, Bool.not_eq_true',
        ne_eq] using hne)]

/-- The reader determines a store without empty lists. -/
theorem ext_get {store other : SurfaceStore α} (h : store.HoldsContent)
    (h' : other.HoldsContent) (hget : ∀ s, store.get s = other.get s) : store = other :=
  ext_held? fun s => by rw [h.held?_eq, h'.held?_eq, hget]

end SurfaceStore

end Decisioning
