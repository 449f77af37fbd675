import Decisioning.Proofs.BuiltStore
import Decisioning.Proofs.ByteOrder

/-!
# Readers of a Store

What the readers of a store have to do with one another.

That a surface is held means that it has content. Nothing in a store keeps an
empty list out, and all that build one are handed lists that may be empty, so this
is a fact about how stores come about: an empty list counts as none in a merge,
is left out when a store is made from lists or from a snapshot, and a removal brings
no lists at all. It is what makes the readers agree: asking whether a surface is held,
asking for its list and looking for it among the surfaces are then the same question,
and a store is empty when it has no value.

The number of surfaces is not counted by a merge, which counts what it replaced
together with what is new. The difference in size counts the surfaces that are new,
and takes off what was dropped.

## Main definitions

* `SurfaceStore.IsBuilt`: A store that the operations lead to.
* `SurfaceStore.ReadersAgree`: The readers answer the same questions alike.
* `SurfaceStore.newSurfaces`: The surfaces that were not held before.

## Theorems

* `SurfaceStore.IsBuilt.holdsContent`: No operation leaves an empty list.
* `SurfaceStore.HoldsContent.readersAgree`: What follows for the readers.
* `SurfaceStore.size_add_newSurfaces`: How two stores differ in size.
* `SurfaceStore.size_merge`: The size of a merged store.
* `SurfaceStore.readers_agree`: Both, for all stores that are built.
-/

namespace Decisioning

namespace SurfaceStore

/-- The stores that the operations lead to, from any lists, batches, sets and
    snapshots. Only propositions are read from snapshots. -/
inductive IsBuilt : {α : Type} → SurfaceStore α → Prop where
  | empty {α : Type} : IsBuilt (empty : SurfaceStore α)
  | ofLists {α : Type} (lists : SurfaceLists α) : IsBuilt (ofLists lists)
  | ofSnapshot (data : Json) : IsBuilt (ofSnapshot data)
  | merge {α : Type} {store : SurfaceStore α} (h : IsBuilt store) (requested : SurfaceSet)
      (batch : SurfaceLists α) : IsBuilt (store.merge requested batch).2
  | removeSurfaces {α : Type} {store : SurfaceStore α} (h : IsBuilt store)
      (surfaces : SurfaceSet) : IsBuilt (store.removeSurfaces surfaces).2

variable {α : Type} {store : SurfaceStore α}

theorem IsBuilt.holdsContent (h : store.IsBuilt) : store.HoldsContent := by
  induction h with
  | empty => exact holdsContent_empty
  | ofLists lists => exact holdsContent_ofLists lists
  | ofSnapshot data => exact holdsContent_ofSnapshot data
  | merge _ requested batch ih => exact ih.merge requested batch
  | removeSurfaces _ surfaces ih => exact ih.removeSurfaces surfaces

/-- The steps by which stores of propositions are built are among the operations. -/
theorem isBuilt_build (steps : List StoreStep) : (build steps).IsBuilt := by
  refine List.foldlRecOn steps apply .empty fun store h step _ => ?_
  cases step with
  | merge requested batch => exact h.merge requested batch
  | removeSurfaces surfaces => exact h.removeSurfaces surfaces
  | ofLists lists => exact .ofLists lists
  | ofSnapshot data => exact .ofSnapshot data

/-- The readers of a store answer the same questions alike. -/
structure ReadersAgree (store : SurfaceStore α) : Prop where
  /-- A surface is held if its list has a value. -/
  contains_iff_get : ∀ s, store.contains s = true ↔ store.get s ≠ []
  /-- A surface is held if it is listed. -/
  contains_iff_mem : ∀ s, store.contains s = true ↔ s ∈ store.surfaces
  /-- The surfaces are listed in the order of their bytes, each of them once. -/
  surfaces_increase : store.surfaces.Pairwise fun s t => utf8Bytes s.uri < utf8Bytes t.uri
  /-- The size is the number of surfaces. -/
  size_eq : store.size = store.surfaces.length
  /-- The empty store is the one without surfaces. -/
  isEmpty_iff : store.isEmpty = true ↔ store.surfaces = []
  /-- All values are the lists of the surfaces, one after the other. -/
  flatten_eq : store.flatten = store.surfaces.flatMap store.get
  /-- The empty store is the one without values. -/
  flatten_eq_nil_iff : store.flatten = [] ↔ store.isEmpty = true

theorem surfaces_increase (store : SurfaceStore α) :
    store.surfaces.Pairwise fun s t => utf8Bytes s.uri < utf8Bytes t.uri :=
  store.surfaces_sorted.imp fun hlt => (utf8Bytes_lt_iff _ _).mpr hlt

theorem size_eq_length_surfaces (store : SurfaceStore α) : store.size = store.surfaces.length := by
  rw [surfaces, SortedMap.keys, List.length_map, List.length_map]
  rfl

theorem isEmpty_iff_surfaces (store : SurfaceStore α) :
    store.isEmpty = true ↔ store.surfaces = [] := by
  rw [← List.length_eq_zero_iff, ← size_eq_length_surfaces]
  exact List.isEmpty_iff_length_eq_zero

/-- A store is empty when it has no value, as every surface that is held has one. -/
theorem HoldsContent.flatten_eq_nil_iff (h : store.HoldsContent) :
    store.flatten = [] ↔ store.isEmpty = true := by
  rw [isEmpty_iff_surfaces, flatten_eq_flatMap_get, List.flatMap_eq_nil_iff,
    List.eq_nil_iff_forall_not_mem]
  refine forall_congr' fun s => ?_
  rw [mem_surfaces, h.contains_iff]
  exact ⟨fun himp hne => hne (himp hne), fun hnot hne => absurd hne hnot⟩

theorem HoldsContent.readersAgree (h : store.HoldsContent) : store.ReadersAgree where
  contains_iff_get := h.contains_iff
  contains_iff_mem := fun s => (store.mem_surfaces s).symm
  surfaces_increase := store.surfaces_increase
  size_eq := store.size_eq_length_surfaces
  isEmpty_iff := store.isEmpty_iff_surfaces
  flatten_eq := store.flatten_eq_flatMap_get
  flatten_eq_nil_iff := h.flatten_eq_nil_iff

/-- The surfaces that are held and were not held before. -/
def newSurfaces (store before : SurfaceStore α) : List Surface :=
  store.surfaces.filter fun s => !before.contains s

/-- Two stores differ in size by what each has that the other has not, since what they
    share is the same from both sides. -/
theorem size_add_newSurfaces (store other : SurfaceStore α) :
    store.size + (other.newSurfaces store).length
      = other.size + (store.newSurfaces other).length := by
  -- What they share is listed twice, in orders that need not be compared.
  have hshared : (store.surfaces.filter other.contains).Perm
      (other.surfaces.filter store.contains) := by
    refine (List.perm_ext_iff_of_nodup (store.surfaces_nodup.filter _)
      (other.surfaces_nodup.filter _)).mpr fun s => ?_
    rw [List.mem_filter, List.mem_filter, mem_surfaces, mem_surfaces, and_comm]
  have hlength := hshared.length_eq
  have hstore := store.surfaces.length_eq_length_filter_add other.contains
  have hother := other.surfaces.length_eq_length_filter_add store.contains
  rw [size_eq_length_surfaces, size_eq_length_surfaces, newSurfaces, newSurfaces]
  omega

/-- What a merge dropped is what was held before and is not held any more. -/
theorem removed_eq_length_newSurfaces (store : SurfaceStore α) (requested : SurfaceSet)
    (batch : SurfaceLists α) :
    (store.merge requested batch).1.removed
      = (store.newSurfaces (store.merge requested batch).2).length := by
  rw [merge_removed, List.countP_eq_length_filter]
  -- One side goes through the request and the other through the store.
  refine ((List.perm_ext_iff_of_nodup (requested.toList_nodup.filter _)
    (store.surfaces_nodup.filter _)).mpr fun s => ?_).length_eq
  rw [List.mem_filter, List.mem_filter, SurfaceSet.mem_toList, mem_surfaces, contains_eq_held?,
    contains_eq_held?, held?_merge]
  by_cases hs : requested.contains s = true
  · rw [if_pos hs, Bool.and_eq_true, Option.not_isSome]
    exact and_iff_right hs
  · -- A surface outside of the request is held afterwards if it was held before.
    rw [if_neg hs]
    simp only [hs, Bool.false_eq_true, false_and, Bool.not_eq_true', Bool.eq_false_iff, ne_eq,
      and_not_self_iff]

/-- A merge changes the size by the surfaces that it brought and those it dropped. -/
theorem size_merge (store : SurfaceStore α) (requested : SurfaceSet) (batch : SurfaceLists α) :
    ((store.merge requested batch).2.size : Int)
      = store.size + ((store.merge requested batch).2.newSurfaces store).length
        - (store.merge requested batch).1.removed := by
  have hsize := store.size_add_newSurfaces (store.merge requested batch).2
  rw [removed_eq_length_newSurfaces]
  omega

/-- No store that was built holds a surface without content, and its readers agree: on
    whether a surface is held, on the number of surfaces and on whether there is any, and
    the values of the whole are those of the surfaces. The surfaces are listed in the
    order of their bytes. A merge of any batch, for any request, changes the size by the
    surfaces that it brought, less those that it counts as removed. -/
theorem readers_agree (h : store.IsBuilt) :
    store.HoldsContent ∧ store.ReadersAgree
      ∧ ∀ (requested : SurfaceSet) (batch : SurfaceLists α),
        ((store.merge requested batch).2.size : Int)
          = store.size + ((store.merge requested batch).2.newSurfaces store).length
            - (store.merge requested batch).1.removed :=
  ⟨h.holdsContent, h.holdsContent.readersAgree, store.size_merge⟩

/-- A snapshot with a surface where nothing is readable, and then a batch with an empty
    list for a surface that was held. The merge brings one surface and drops one. -/
theorem emptied_store_readers_agree :
    let payload : Json := .arr [.obj [("id", .str "p"), ("items", .arr []),
      ("scope", .str "mobileapp://app")]]
    let saved : Json := .obj [("mobileapp://app/é", payload), ("mobileapp://app/bad", .arr [.null]),
      ("mobileapp://app/z", payload)]
    let batch : SurfaceLists Proposition := .ofList
      [("mobileapp://app/new", Proposition.ofPayload payload), ("mobileapp://app/z", [])]
    let requested : SurfaceSet := .ofList [⟨"mobileapp://app/new"⟩, ⟨"mobileapp://app/z"⟩]
    let store := build [.ofSnapshot saved]
    let merged := build [.ofSnapshot saved, .merge requested batch]
    store.surfaces = [⟨"mobileapp://app/z"⟩, ⟨"mobileapp://app/é"⟩]
      ∧ merged.surfaces = [⟨"mobileapp://app/new"⟩, ⟨"mobileapp://app/é"⟩]
      ∧ merged.ReadersAgree
      ∧ merged.size = (store.size : Int) + 1 - 1 := by
  intro payload saved batch requested store merged
  have hnew : (merged.newSurfaces store).length = 1 := by decide +kernel
  have hremoved : (store.merge requested batch).1.removed = 1 := by decide +kernel
  have hsize := (readers_agree (isBuilt_build [.ofSnapshot saved])).2.2 requested batch
  refine ⟨by decide +kernel, by decide +kernel, (readers_agree (isBuilt_build _)).2.1, ?_⟩
  rw [hremoved] at hsize
  change (merged.size : Int) = store.size + (merged.newSurfaces store).length - 1 at hsize
  rw [hnew] at hsize
  exact hsize

end SurfaceStore

end Decisioning
