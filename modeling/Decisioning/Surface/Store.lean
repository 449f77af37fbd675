import Decisioning.Surface.Set

/-!
# Surface Stores

Lists of values kept per surface, and the merge that replaces whole surfaces.

A completed batch has the last word on exactly the surfaces it was requested
for. Each of those takes the batch's list, or is dropped when the batch has
nothing for it; all other surfaces stay as they are. So no operation here ever
leaves a surface with an empty list behind, and a surface is held exactly when
it has content.

## Main definitions

* `SurfaceLists`: Lists per surface, some of them possibly empty.
* `SurfaceStore`: The store.
* `SurfaceStore.merge`: Replace or drop every requested surface.
* `SurfaceStore.removeSurfaces`: Drop surfaces.
* `SurfaceStore.push`: Append one value to the list of a surface.
* `SurfaceStore.flatten`: All values, in URI order of their surfaces.
-/

namespace Decisioning

universe u

/-- Lists of values by surface URI. -/
abbrev SurfaceLists (α : Type u) := SortedMap (List α)

/-- What a merge did: how many surfaces took new content, and how many were
    dropped. -/
structure MergeOutcome where
  replaced : Nat
  removed : Nat
deriving DecidableEq, Repr, Inhabited

/-- The values of one kind, by surface. -/
structure SurfaceStore (α : Type u) where
  /-- The list of every surface that is held. -/
  lists : SurfaceLists α
deriving DecidableEq

namespace SurfaceStore

variable {α : Type u}

/-- The store without surfaces. -/
def empty : SurfaceStore α := ⟨.empty⟩

instance : Inhabited (SurfaceStore α) := ⟨empty⟩

/-- The store with the given lists, without the empty ones. -/
def ofLists (lists : SurfaceLists α) : SurfaceStore α :=
  ⟨lists.filter fun _ values => !values.isEmpty⟩

/-- The list of a surface; empty when the surface is not held. -/
def get (store : SurfaceStore α) (s : Surface) : List α :=
  (store.lists.get? s.uri).getD []

/-- Whether a surface is held. -/
def contains (store : SurfaceStore α) (s : Surface) : Bool := store.lists.contains s.uri

/-- The surfaces held, in URI order. -/
def surfaces (store : SurfaceStore α) : List Surface := store.lists.keys.map Surface.mk

/-- The set of the surfaces held. -/
def surfaceSet (store : SurfaceStore α) : SurfaceSet := .ofList store.surfaces

/-- All values, in URI order of their surfaces. -/
def flatten (store : SurfaceStore α) : List α := store.lists.values.flatten

/-- The number of surfaces held. -/
def size (store : SurfaceStore α) : Nat := store.lists.size

/-- Whether no surface is held. -/
def isEmpty (store : SurfaceStore α) : Bool := store.lists.isEmpty

/-- The number of values held. -/
def count (store : SurfaceStore α) : Nat := store.flatten.length

/-- Append a value to the list of a surface. -/
def push (store : SurfaceStore α) (s : Surface) (value : α) : SurfaceStore α :=
  ⟨store.lists.insert s.uri (store.get s ++ [value])⟩

/-- Replace one surface by the batch's list for it, or drop it. -/
def mergeSurface (batch : SurfaceLists α) (state : MergeOutcome × SurfaceStore α)
    (s : Surface) : MergeOutcome × SurfaceStore α :=
  let (outcome, store) := state
  match batch.get? s.uri with
  | some (value :: values) =>
      ({ outcome with replaced := outcome.replaced + 1 },
        ⟨store.lists.insert s.uri (value :: values)⟩)
  | some [] | none =>
      if store.contains s then
        ({ outcome with removed := outcome.removed + 1 }, ⟨store.lists.erase s.uri⟩)
      else
        (outcome, store)

/-- Replace every requested surface by the batch's list for it, or drop it when
    the batch has none. -/
def merge (store : SurfaceStore α) (requested : SurfaceSet) (batch : SurfaceLists α) :
    MergeOutcome × SurfaceStore α :=
  requested.toList.foldl (mergeSurface batch) (⟨0, 0⟩, store)

/-- Drop one surface, counting those that were held. -/
def removeSurface (state : Nat × SurfaceStore α) (s : Surface) : Nat × SurfaceStore α :=
  let (count, store) := state
  if store.contains s then (count + 1, ⟨store.lists.erase s.uri⟩) else (count, store)

/-- Drop the given surfaces; answers how many of them were held. -/
def removeSurfaces (store : SurfaceStore α) (surfaces : SurfaceSet) : Nat × SurfaceStore α :=
  surfaces.toList.foldl removeSurface (0, store)

end SurfaceStore

end Decisioning
