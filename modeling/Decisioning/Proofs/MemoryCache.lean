import Decisioning.Cache.Memory

/-!
# Running a Cache in Memory

What the operations of a cache in memory answer, and the entries they leave.

The only key that is refused is the empty one, and a refused operation changes
nothing. For every other key the operations are those of the map.

## Theorems

* `MemoryCache.checked_run`, `checked_run_of_isEmpty`: Accepted and refused keys.
* `MemoryCache.get_run`, `set_run`, `remove_run`: The operations on accepted keys;
  with `_of_isEmpty`, on the empty one.
-/

namespace Decisioning

namespace MemoryCache

/-- An operation on the empty key is refused and changes nothing. -/
theorem checked_run_of_isEmpty {α : Type} {key : String} (hkey : key.isEmpty = true)
    (run : StateM MemoryCache α) (c : MemoryCache) :
    (checked key run).run c = (.error (.invalidKey key), c) := by
  rw [checked, if_pos hkey]
  rfl

/-- An operation on any other key goes through. -/
theorem checked_run {α : Type} {key : String} (hkey : key.isEmpty = false)
    (run : StateM MemoryCache α) (c : MemoryCache) :
    (checked key run).run c = (.ok (run.run c).1, (run.run c).2) := by
  rw [checked, if_neg (ne_true_of_eq_false hkey)]
  rfl

section Refused

variable {key : String}

theorem get_run_of_isEmpty (hkey : key.isEmpty = true) (c : MemoryCache) :
    (cache.get key).run c = (.error (.invalidKey key), c) :=
  checked_run_of_isEmpty hkey _ c

theorem set_run_of_isEmpty (hkey : key.isEmpty = true) (entry : CacheEntry) (c : MemoryCache) :
    (cache.set key entry).run c = (.error (.invalidKey key), c) :=
  checked_run_of_isEmpty hkey _ c

theorem remove_run_of_isEmpty (hkey : key.isEmpty = true) (c : MemoryCache) :
    (cache.remove key).run c = (.error (.invalidKey key), c) :=
  checked_run_of_isEmpty hkey _ c

end Refused

section Accepted

variable {key : String}

theorem get_run (hkey : key.isEmpty = false) (c : MemoryCache) :
    (cache.get key).run c = (.ok (c.get? key), c) :=
  checked_run hkey _ c

theorem set_run (hkey : key.isEmpty = false) (entry : CacheEntry) (c : MemoryCache) :
    (cache.set key entry).run c = (.ok (), c.insert key entry) :=
  checked_run hkey _ c

theorem remove_run (hkey : key.isEmpty = false) (c : MemoryCache) :
    (cache.remove key).run c = (.ok (), c.erase key) :=
  checked_run hkey _ c

end Accepted

end MemoryCache

end Decisioning
