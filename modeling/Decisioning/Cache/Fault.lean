import Decisioning.Cache

/-!
# Faulty Caches

Caches that break their contract on purpose.

A fault is put in front of a cache and changes what its operations do: it makes
them fail, confuses keys, or forgets what it should keep. Faults are how the
contract check is itself checked, and how the rest of the library is run
against a cache that cannot be relied on.

## Main definitions

* `Fault`: The ways in which an operation goes wrong.
* `Cache.withFaults`: A cache behind a list of faults.
-/

namespace Decisioning

/-- A way in which a cache goes wrong. -/
inductive Fault where
  /-- Every read fails. -/
  | getError
  /-- Every write fails. -/
  | setError
  /-- Every removal fails. -/
  | removeError
  /-- An empty key is refused, but reported as another one. -/
  | wrongKey
  /-- All keys but the empty one are the same. -/
  | oneKey
  /-- The empty key is a key like any other. -/
  | acceptEmpty
  /-- Metadata is lost. -/
  | noMetadata
  /-- Writes are forgotten. -/
  | setNoop
  /-- Writes to a key that has an entry are forgotten. -/
  | keepFirst
  /-- Removals are forgotten. -/
  | removeNoop
deriving DecidableEq, Repr

namespace Cache

/-- What a backend reports that cannot be reached. -/
def offline : StorageError := .backend "offline"

/-- The key that an operation works on behind the given faults. -/
def faultyKey (faults : List Fault) (key : String) : Except StorageError String :=
  if Fault.wrongKey ∈ faults ∧ key.isEmpty then .error (.invalidKey "?")
  else if Fault.oneKey ∈ faults ∧ !key.isEmpty then .ok "one"
  else if Fault.acceptEmpty ∈ faults ∧ key.isEmpty then .ok "empty"
  else .ok key

variable {m : Type → Type} [Monad m]

/-- Run an operation on the key behind the faults, unless the given fault makes
    it fail. -/
def throughFaults {α : Type} (faults : List Fault) (failure : Fault) (key : String)
    (run : String → m (Except StorageError α)) : m (Except StorageError α) :=
  if failure ∈ faults then pure (.error offline)
  else
    match faultyKey faults key with
    | .error fault => pure (.error fault)
    | .ok key => run key

/-- Read an entry, possibly without its metadata. -/
def faultyGet (cache : Cache m) (faults : List Fault) (key : String) :
    m (Except StorageError (Option CacheEntry)) := do
  match ← cache.get key with
  | .ok (some entry) =>
      return .ok (some (if Fault.noMetadata ∈ faults then .ofData entry.data else entry))
  | answer => return answer

/-- Write an entry, or forget to. -/
def faultySet (cache : Cache m) (faults : List Fault) (key : String) (entry : CacheEntry) :
    m (Except StorageError Unit) := do
  if Fault.setNoop ∈ faults ∧ !key.isEmpty then
    return .ok ()
  else if Fault.keepFirst ∈ faults then
    match ← cache.get key with
    | .error fault => return .error fault
    | .ok (some _) => return .ok ()
    | .ok none => cache.set key entry
  else
    cache.set key entry

/-- Remove an entry, or forget to. -/
def faultyRemove (cache : Cache m) (faults : List Fault) (key : String) :
    m (Except StorageError Unit) :=
  if Fault.removeNoop ∈ faults ∧ !key.isEmpty then pure (.ok ()) else cache.remove key

/-- A cache behind a list of faults. -/
def withFaults (cache : Cache m) (faults : List Fault) : Cache m where
  get key := throughFaults faults .getError key (faultyGet cache faults)
  set key entry :=
    throughFaults faults .setError key fun key => faultySet cache faults key entry
  remove key := throughFaults faults .removeError key (faultyRemove cache faults)

end Cache

end Decisioning
