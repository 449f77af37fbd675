import Decisioning.Cache

/-!
# Caches in Memory

A cache that is a map, for hosts without a writable directory. Every key but
the empty one can have an entry.

## Main definitions

* `MemoryCache`: The entries.
* `MemoryCache.cache`: The operations.
-/

namespace Decisioning

/-- The entries of a cache in memory. -/
abbrev MemoryCache := SortedMap CacheEntry

namespace MemoryCache

/-- Run an operation on a key unless it is empty. -/
def checked {α : Type} (key : String) (run : StateM MemoryCache α) :
    StateM MemoryCache (Except StorageError α) :=
  if key.isEmpty then return .error (.invalidKey key) else return .ok (← run)

/-- The operations of a cache in memory. -/
def cache : Cache (StateM MemoryCache) where
  get key := checked key do return (← get).get? key
  set key entry := checked key do modify fun entries => entries.insert key entry
  remove key := checked key do modify fun entries => entries.erase key

end MemoryCache

end Decisioning
