import Decisioning.Proposition.Decode
import Decisioning.Surface.Store

/-!
# Snapshots

The written form of a store of propositions: an object with the list of
propositions of every surface.

Reading a snapshot is as tolerant as reading a payload. Surfaces without a
readable proposition are left out, and anything but an object is the empty
store.

## Main definitions

* `SurfaceStore.snapshot`: The snapshot of a store.
* `SurfaceStore.ofSnapshot`: The store of a snapshot.
-/

namespace Decisioning

namespace SurfaceStore

/-- The snapshot of a store. -/
def snapshot (store : SurfaceStore Proposition) : Json :=
  .obj (store.lists.map fun ps => Json.arr (ps.map Proposition.toJson)).entries

/-- The lists of propositions in a snapshot, some of them possibly empty. -/
def snapshotLists : Json → SurfaceLists Proposition
  | .obj fields => .ofList (fields.map fun field => (field.1, Proposition.ofPayload field.2))
  | _ => .empty

/-- The store of a snapshot. -/
def ofSnapshot (data : Json) : SurfaceStore Proposition := .ofLists (snapshotLists data)

end SurfaceStore

end Decisioning
