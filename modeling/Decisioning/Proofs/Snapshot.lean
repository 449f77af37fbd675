import Mathlib.Data.List.Basic
import Decisioning.Proofs.SurfaceStore
import Decisioning.Store.Snapshot

/-!
# Snapshots of Stores

Why a store comes back from its snapshot as it was.

A proposition is written without the links of its items and without its surface,
and read by the tolerant reader that is also used for what a server sends. It
comes back the same if its items were linked to it before, `IsLinked`, which is
how the reader leaves them. A store comes back if in addition no surface is held
with an empty list, as the reader drops those.

## Main definitions

* `Proposition.IsLinked`: All items belong to the proposition.

## Theorems

* `ContentSchema.classify_uri`: A schema is recovered from its URI.
* `Proposition.decodeTolerant?_toJson`: A linked proposition is recovered.
* `Proposition.isLinked_of_mem_ofPayload`: What is read is linked.
* `SurfaceStore.holdsContent_ofSnapshot`, `isLinked_of_mem_ofSnapshot`: What any
  snapshot is read as.
* `SurfaceStore.HoldsContent.ofSnapshot_snapshot`: A store is recovered.
-/

namespace Decisioning

/-- Unknown schemas are written as the empty text, which no known schema has. -/
theorem ContentSchema.classify_uri (schema : ContentSchema) : classify schema.uri = schema := by
  cases schema <;> decide

namespace Item

/-- An item comes back without its owner. -/
theorem decode?_toJson (item : Item) :
    decode? item.toJson = some (unowned item.id item.schema item.data) := by
  have hid : item.toJson.string? "id" = some item.id := rfl
  have hschema : item.toJson.string? "schema" = some item.schema.uri := rfl
  have hdata : item.toJson.get? "data" = some item.data := rfl
  unfold decode?
  rw [hid, hschema, hdata, Option.map_some, Option.map_some, Option.getD_some,
    ContentSchema.classify_uri]
  rfl

end Item

namespace Proposition

/-- The items belong to the proposition. -/
def IsLinked (p : Proposition) : Prop := ∀ item ∈ p.items, item.owner = some p.id

theorem isLinked_of_decodeTolerant? {value : Json} {p : Proposition}
    (h : decodeTolerant? value = some p) : p.IsLinked := by
  unfold decodeTolerant? at h
  cases hheader : Header.decode value with
  | error e =>
      rw [hheader] at h
      exact absurd h (by simp only [reduceCtorEq, not_false_eq_true])
  | ok header =>
      rw [hheader] at h
      rw [← Option.some.inj h]
      -- The reader makes items without owner, so each is linked here.
      intro item hitem
      rcases List.mem_map.mp hitem with ⟨read, hread, rfl⟩
      rcases List.mem_filterMap.mp hread with ⟨itemValue, _, hdecode⟩
      unfold Item.decode? at hdecode
      rcases Option.map_eq_some_iff.mp hdecode with ⟨id, _, rfl⟩
      rfl

theorem isLinked_of_mem_ofPayload {payload : Json} {p : Proposition} (h : p ∈ ofPayload payload) :
    p.IsLinked := by
  rcases List.mem_filterMap.mp h with ⟨value, _, hvalue⟩
  exact isLinked_of_decodeTolerant? hvalue

/-- Linking the items that were read back restores them. -/
theorem IsLinked.items_eq {p : Proposition} (h : p.IsLinked) :
    ((p.items.map Item.toJson).filterMap Item.decode?).map (Item.attach p.id) = p.items := by
  rw [List.filterMap_map, List.map_filterMap]
  have hread : ∀ item ∈ p.items,
      ((Item.decode? ∘ Item.toJson) item).map (Item.attach p.id) = some item := by
    intro item hitem
    rw [Function.comp_apply, Item.decode?_toJson, Option.map_some]
    have howner : item.owner = some p.id := h item hitem
    cases item
    subst howner
    rfl
  rw [List.filterMap_congr hread, List.filterMap_some]

/-- A linked proposition comes back as it was. -/
theorem IsLinked.decodeTolerant?_toJson {p : Proposition} (h : p.IsLinked) :
    decodeTolerant? p.toJson = some p := by
  have hheader : Header.decode p.toJson
      = .ok { id := p.id, scope := p.scope, scopeDetails := p.scopeDetails,
              items := p.items.map Item.toJson } := rfl
  unfold decodeTolerant?
  rw [hheader]
  dsimp only [build]
  rw [h.items_eq]

theorem ofPayload_toJson {ps : List Proposition} (h : ∀ p ∈ ps, p.IsLinked) :
    ofPayload (.arr (ps.map toJson)) = ps := by
  change (ps.map toJson).filterMap decodeTolerant? = ps
  rw [List.filterMap_map]
  have hread : ∀ p ∈ ps, (decodeTolerant? ∘ toJson) p = some p :=
    fun p hp => (h p hp).decodeTolerant?_toJson
  rw [List.filterMap_congr hread, List.filterMap_some]

end Proposition

namespace SurfaceStore

variable {store : SurfaceStore Proposition}

/-- The lists in a snapshot are those of the store. -/
theorem snapshotLists_snapshot (h : ∀ s, ∀ p ∈ store.get s, p.IsLinked) :
    snapshotLists store.snapshot = store.lists := by
  -- The list of each surface comes back, as linked items come back.
  have hread : ∀ e ∈ store.lists.entries,
      (e.1, Proposition.ofPayload (.arr (e.2.map Proposition.toJson))) = e := by
    intro e he
    have hget : store.get ⟨e.1⟩ = e.2 := by
      have hsome : store.held? ⟨e.1⟩ = some e.2 := (store.lists.get?_eq_some_iff e.1 e.2).mpr he
      rw [get_eq_held?, hsome, Option.getD_some]
    have hlinked : ∀ p ∈ e.2, p.IsLinked := fun p hp => h ⟨e.1⟩ p (by rw [hget]; exact hp)
    rw [Proposition.ofPayload_toJson hlinked]
  have hentries : (store.lists.entries.map fun e =>
      (e.1, Json.arr (e.2.map Proposition.toJson))).map
        (fun field => (field.1, Proposition.ofPayload field.2)) = store.lists.entries := by
    rw [List.map_map]
    exact (List.map_congr_left hread).trans (List.map_id' _)
  calc snapshotLists store.snapshot
      = .ofList ((store.lists.entries.map fun e =>
          (e.1, Json.arr (e.2.map Proposition.toJson))).map
            fun field => (field.1, Proposition.ofPayload field.2)) := rfl
    _ = .ofList store.lists.entries := by rw [hentries]
    _ = store.lists := SortedMap.ofList_entries store.lists

/-- What is read from a snapshot, whatever it is, has no surface without content. -/
theorem holdsContent_ofSnapshot (data : Json) : (ofSnapshot data).HoldsContent :=
  holdsContent_ofLists _

/-- What is read from a snapshot, whatever it is, is linked. -/
theorem isLinked_of_mem_ofSnapshot {data : Json} {s : Surface} {p : Proposition}
    (h : p ∈ (ofSnapshot data).get s) : p.IsLinked := by
  rw [get_eq_held?, ofSnapshot, held?_ofLists] at h
  cases hcontent : (snapshotLists data).content? s with
  | none =>
      rw [hcontent] at h
      exact absurd h List.not_mem_nil
  | some values =>
      rw [hcontent] at h
      have hget : (snapshotLists data).get? s.uri = some values :=
        (Option.filter_eq_some_iff.mp hcontent).1
      cases data with
      | obj fields =>
          -- The list of a surface is read from one of the fields.
          have hread : (lookup? s.uri fields.reverse).map Proposition.ofPayload = some values := by
            rw [← lookup?_map, List.map_reverse, ← SortedMap.get?_ofList]
            exact hget
          rcases Option.map_eq_some_iff.mp hread with ⟨payload, _, rfl⟩
          exact Proposition.isLinked_of_mem_ofPayload h
      | null | bool _ | num _ | str _ | arr _ =>
          exact absurd hget (by simp only [snapshotLists, SortedMap.get?_empty, reduceCtorEq,
            not_false_eq_true])

/-- A store comes back from its snapshot as it was. -/
theorem HoldsContent.ofSnapshot_snapshot (hcontent : store.HoldsContent)
    (h : ∀ s, ∀ p ∈ store.get s, p.IsLinked) : ofSnapshot store.snapshot = store := by
  refine ext_held? fun s => ?_
  rw [ofSnapshot, snapshotLists_snapshot h, held?_ofLists, hcontent.content?_lists]

end SurfaceStore

end Decisioning
