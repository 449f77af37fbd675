import Decisioning.Proofs.Snapshot

/-!
# Stores That Were Built

Why a store can be written out whenever it was built by this library.

A store is recovered from its snapshot if no surface is held with an empty list
and all items are linked to their propositions. Neither is checked when a
snapshot is taken, so both have to hold of whatever steps led to the store. The
steps differ in how they meet this. A merge and a list of lists bring propositions
from outside, which were read by the tolerant reader and are linked for that
reason; the reader of snapshots is the same one. Empty lists may be handed to any
of the steps, and each of them leaves them out on its own.

The surface under which a proposition is kept need not be the one that it was
scoped to. The written form does not depend on it either.

## Main definitions

* `Proposition.IsDelivered`: A proposition that was read from a payload or from a
  snapshot.
* `StoreStep`, `SurfaceStore.build`: The steps by which stores are built.
* `SurfaceStore.IsRecoverable`: No empty lists, and linked items.

## Theorems

* `SurfaceStore.IsRecoverable.apply`: Every step keeps a store recoverable.
* `SurfaceStore.isRecoverable_build`: Whatever is built is recoverable.
* `SurfaceStore.built_store_comes_back`: What is built is read back as it was.
-/

namespace Decisioning

/-- A proposition was read, from a payload or from a snapshot. -/
def Proposition.IsDelivered (p : Proposition) : Prop :=
  (∃ payload, p ∈ ofPayload payload) ∨ ∃ data s, p ∈ (SurfaceStore.ofSnapshot data).get s

/-- The reader links whatever it reads. -/
theorem Proposition.IsDelivered.isLinked {p : Proposition} (h : p.IsDelivered) : p.IsLinked := by
  rcases h with ⟨payload, hpayload⟩ | ⟨data, s, hsnapshot⟩
  · exact isLinked_of_mem_ofPayload hpayload
  · exact SurfaceStore.isLinked_of_mem_ofSnapshot hsnapshot

/-- A step by which a store of propositions is built. -/
inductive StoreStep where
  /-- Merge a batch for the requested surfaces. -/
  | merge (requested : SurfaceSet) (batch : SurfaceLists Proposition)
  /-- Drop surfaces. -/
  | removeSurfaces (surfaces : SurfaceSet)
  /-- Start over with the given lists. -/
  | ofLists (lists : SurfaceLists Proposition)
  /-- Start over with what a snapshot holds. -/
  | ofSnapshot (data : Json)

/-- The propositions that a step is handed. -/
def StoreStep.propositions : StoreStep → List Proposition
  | .merge _ batch => batch.values.flatten
  | .ofLists lists => lists.values.flatten
  | .removeSurfaces _ | .ofSnapshot _ => []

/-- What has content in lists is among their values. -/
theorem SurfaceLists.mem_flatten_of_content? {lists : SurfaceLists Proposition} {s : Surface}
    {values : List Proposition} (h : lists.content? s = some values) {p : Proposition}
    (hp : p ∈ values) : p ∈ lists.values.flatten := by
  have hget : lists.get? s.uri = some values := (Option.filter_eq_some_iff.mp h).1
  have hentry : (s.uri, values) ∈ lists.entries := (lists.get?_eq_some_iff s.uri values).mp hget
  exact List.mem_flatten.mpr ⟨values, List.mem_map.mpr ⟨(s.uri, values), hentry, rfl⟩, hp⟩

namespace SurfaceStore

/-- The store after a step. -/
def apply (store : SurfaceStore Proposition) : StoreStep → SurfaceStore Proposition
  | .merge requested batch => (store.merge requested batch).2
  | .removeSurfaces surfaces => (store.removeSurfaces surfaces).2
  | .ofLists lists => .ofLists lists
  | .ofSnapshot data => .ofSnapshot data

/-- The store that steps lead to from the empty one. -/
def build (steps : List StoreStep) : SurfaceStore Proposition := steps.foldl apply .empty

/-- The store loses nothing when it is written out. -/
structure IsRecoverable (store : SurfaceStore Proposition) : Prop where
  content : store.HoldsContent
  linked : ∀ s, ∀ p ∈ store.get s, p.IsLinked

variable {store : SurfaceStore Proposition}

theorem isRecoverable_empty : (empty : SurfaceStore Proposition).IsRecoverable where
  content := holdsContent_empty
  linked := fun _ _ hp => absurd hp List.not_mem_nil

theorem isRecoverable_ofSnapshot (data : Json) : (ofSnapshot data).IsRecoverable where
  content := holdsContent_ofSnapshot data
  linked := fun _ _ hp => isLinked_of_mem_ofSnapshot hp

/-- A merge brings nothing but the propositions of its batch. -/
theorem IsRecoverable.merge (h : store.IsRecoverable) {batch : SurfaceLists Proposition}
    (hbatch : ∀ p ∈ batch.values.flatten, p.IsLinked) (requested : SurfaceSet) :
    (store.merge requested batch).2.IsRecoverable where
  content := h.content.merge requested batch
  linked := by
    intro s p hp
    rcases mem_get_merge hp with ⟨values, hvalues, hmem⟩ | hmem
    · exact hbatch p (SurfaceLists.mem_flatten_of_content? hvalues hmem)
    · exact h.linked s p hmem

theorem isRecoverable_ofLists {lists : SurfaceLists Proposition}
    (hlists : ∀ p ∈ lists.values.flatten, p.IsLinked) : (ofLists lists).IsRecoverable where
  content := holdsContent_ofLists lists
  linked := by
    intro s p hp
    rw [get_eq_held?, held?_ofLists] at hp
    cases hcontent : lists.content? s with
    | none =>
        rw [hcontent] at hp
        exact absurd hp List.not_mem_nil
    | some values =>
        rw [hcontent] at hp
        exact hlists p (SurfaceLists.mem_flatten_of_content? hcontent hp)

/-- A step keeps a store recoverable if what it is handed was delivered. -/
theorem IsRecoverable.apply (h : store.IsRecoverable) {step : StoreStep}
    (hstep : ∀ p ∈ step.propositions, p.IsDelivered) : (store.apply step).IsRecoverable := by
  have hlinked : ∀ p ∈ step.propositions, p.IsLinked := fun p hp => (hstep p hp).isLinked
  cases step with
  | merge requested batch => exact h.merge hlinked requested
  | removeSurfaces surfaces =>
      -- A removal merges the batch that has nothing.
      have hempty : ∀ p ∈ (SortedMap.empty : SurfaceLists Proposition).values.flatten, p.IsLinked :=
        fun _ hp => absurd hp List.not_mem_nil
      change (store.removeSurfaces surfaces).2.IsRecoverable
      rw [removeSurfaces_eq_merge]
      exact h.merge hempty surfaces
  | ofLists lists => exact isRecoverable_ofLists hlinked
  | ofSnapshot data => exact isRecoverable_ofSnapshot data

/-- Whatever is built of delivered propositions is recoverable. -/
theorem isRecoverable_build {steps : List StoreStep}
    (hsteps : ∀ step ∈ steps, ∀ p ∈ step.propositions, p.IsDelivered) :
    (build steps).IsRecoverable := by
  -- Over all stores to start from, as each step changes it.
  have hfold : ∀ (rest : List StoreStep) (store : SurfaceStore Proposition),
      store.IsRecoverable → (∀ step ∈ rest, ∀ p ∈ step.propositions, p.IsDelivered) →
      (rest.foldl SurfaceStore.apply store).IsRecoverable := by
    intro rest
    induction rest with
    | nil => exact fun store h _ => h
    | cons step rest ih =>
        intro store h hrest
        have hstep := h.apply (hrest step List.mem_cons_self)
        exact ih _ hstep fun later hlater => hrest later (List.mem_cons_of_mem _ hlater)
  exact hfold steps .empty isRecoverable_empty hsteps

theorem IsRecoverable.ofSnapshot_snapshot (h : store.IsRecoverable) :
    ofSnapshot store.snapshot = store :=
  h.content.ofSnapshot_snapshot h.linked

/-- Every store that is built comes back from its snapshot as it was: the surfaces,
    the propositions in their order with their details, and the items with their
    data, their schema and the proposition that they belong to. This holds after
    any merges, removals, lists and snapshots, whatever payloads and snapshots the
    propositions were read from and under whatever surfaces they were put. In
    particular, a snapshot that was made by someone else, readable or not, is read
    as a store that comes back from its own snapshot. -/
theorem built_store_comes_back {steps : List StoreStep}
    (hsteps : ∀ step ∈ steps, ∀ p ∈ step.propositions, p.IsDelivered) :
    ofSnapshot (build steps).snapshot = build steps
      ∧ ∀ data, ofSnapshot (ofSnapshot data).snapshot = ofSnapshot data :=
  ⟨(isRecoverable_build hsteps).ofSnapshot_snapshot,
    fun data => (isRecoverable_ofSnapshot data).ofSnapshot_snapshot⟩

/-- A payload is read in part, as one item has no id, and is put under a surface
    that it was not meant for, next to a surface with an empty list. The snapshot
    before that has a surface with nothing readable. What was read comes back. -/
theorem partly_readable_store_comes_back :
    let item := fun (fields : Fields) => Json.obj (fields ++ [("schema", .str "unheard of")])
    let payload : Json := .arr [.null, .obj [("id", .str "p"),
      ("items", .arr [item [("data", .arr [.null])], item [("id", .str "i")]]),
      ("scope", .str "mobileapp://app")]]
    let saved : Json := .obj [("mobileapp://app/bad", .arr [.null]), ("mobileapp://app/old", payload)]
    let batch : SurfaceLists Proposition := .ofList
      [("mobileapp://app/new", Proposition.ofPayload payload), ("mobileapp://app/none", [])]
    let requested : SurfaceSet := .ofList [⟨"mobileapp://app/new"⟩, ⟨"mobileapp://app/none"⟩]
    let store := build [.ofSnapshot saved, .merge requested batch]
    ofSnapshot store.snapshot = store
      ∧ store.surfaces = [⟨"mobileapp://app/new"⟩, ⟨"mobileapp://app/old"⟩]
      ∧ store.get ⟨"mobileapp://app/new"⟩ = [.build "p" "mobileapp://app" []
        [.unowned "i" .unknown .null]] := by
  intro item payload saved batch requested store
  have hbatch : batch.values.flatten = Proposition.ofPayload payload := by decide +kernel
  have hsteps : ∀ step ∈ [StoreStep.ofSnapshot saved, .merge requested batch],
      ∀ p ∈ step.propositions, p.IsDelivered := by
    intro step hstep p hp
    rcases List.mem_pair.mp hstep with rfl | rfl
    · exact absurd hp List.not_mem_nil
    · change p ∈ batch.values.flatten at hp
      exact Or.inl ⟨payload, hbatch ▸ hp⟩
  exact ⟨(built_store_comes_back hsteps).1, by decide +kernel, by decide +kernel⟩

end SurfaceStore

end Decisioning
