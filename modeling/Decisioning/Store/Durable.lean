import Decisioning.Cache
import Decisioning.Store.Snapshot

/-!
# Durable Stores

A store of propositions that survives a restart.

After every change the whole store is written to a cache under one key, or the
key is removed when the store is empty. The store in memory is what counts:
whether the write succeeds is not looked at, and no answer depends on it. Only
loading reads the cache, and a cache that fails is one that holds nothing.

## Main definitions

* `Home`: A cache and the key under which a store lives in it.
* `Home.save`: Write a store, or remove its key.
* `Home.load`: Replace a store by the one in the cache.
* `Home.merge`, `Home.removeSurfaces`: Change a store and save it.
-/

namespace Decisioning

/-- Where a store lives across restarts; without a cache, nowhere. -/
structure Home (m : Type → Type) where
  cache : Option (Cache m)
  key : String

namespace Home

variable {m : Type → Type} [Monad m]

/-- Write a store to its home. -/
def save (home : Home m) (store : SurfaceStore Proposition) : m Unit := do
  match home.cache with
  | none => return ()
  | some cache =>
      if store.isEmpty then
        let _ ← cache.remove home.key
      else
        let _ ← cache.set home.key (.ofData store.snapshot)

/-- The store that the home holds, if it can be read. -/
def stored? (home : Home m) : m (Option (SurfaceStore Proposition)) := do
  match home.cache with
  | none => return none
  | some cache =>
      match ← cache.get home.key with
      | .ok (some entry) => return some (.ofSnapshot entry.data)
      | .ok none | .error _ => return none

/-- Replace a store by the one at home, if there is one; answers how many
    surfaces were loaded. -/
def load (home : Home m) (store : SurfaceStore Proposition) :
    m (Nat × SurfaceStore Proposition) := do
  match ← home.stored? with
  | some loaded => return (loaded.size, loaded)
  | none => return (0, store)

/-- Merge a batch into a store and save it. -/
def merge (home : Home m) (store : SurfaceStore Proposition) (requested : SurfaceSet)
    (batch : SurfaceLists Proposition) : m (MergeOutcome × SurfaceStore Proposition) := do
  let (outcome, store) := store.merge requested batch
  home.save store
  return (outcome, store)

/-- Drop surfaces from a store and save it. -/
def removeSurfaces (home : Home m) (store : SurfaceStore Proposition) (surfaces : SurfaceSet) :
    m (Nat × SurfaceStore Proposition) := do
  let (removed, store) := store.removeSurfaces surfaces
  home.save store
  return (removed, store)

end Home

end Decisioning
