import Decisioning.Cache.Directory
import Decisioning.Cache.Entry

/-!
# Caches in a Directory

A cache that keeps one file a key in a directory, the key being the file's name.

A key must therefore be a plain file name, and it must not look like the name
of a temporary file. An entry is written to a temporary file first and then
given its name, so a reader finds the old entry or the new one and never a part
of one. Temporary names hold the key, the process and a ticket, which keeps
them apart from each other.

## Main definitions

* `FileCache.isValidKey`: The keys that can have an entry.
* `FileCache.pathFor`: The path of a key's file.
* `FileCache.temporaryName`: The name under which an entry is first written.
* `FileCache.cache`: The operations.
-/

namespace Decisioning

namespace FileCache

/-- The end of every temporary name. -/
def temporaryEnding : String := ".tmp"

/-- Whether a key is a plain file name other than a temporary one. -/
def isValidKey (key : String) : Bool :=
  !key.isEmpty && key ≠ "." && key ≠ ".." && !key.toList.contains '/'
    && !key.toList.contains '\\' && !temporaryEnding.toList.isSuffixOf key.toList

/-- The path of a key's file, as components, below the path of the directory. -/
def pathFor (directory : List String) (key : String) : Except StorageError (List String) :=
  if isValidKey key then .ok (directory ++ [key]) else .error (.invalidKey key)

/-- The name under which a process first writes an entry. -/
def temporaryName (key : String) (process ticket : Nat) : String :=
  "." ++ key ++ "." ++ toString process ++ "." ++ toString ticket ++ temporaryEnding

variable {m : Type → Type} [Monad m]

/-- Run an operation on a key if it is valid. -/
def checked {α : Type} (key : String) (run : m (Except StorageError α)) :
    m (Except StorageError α) :=
  if isValidKey key then run else pure (.error (.invalidKey key))

/-- Read the entry of a key. A missing file or directory is a missing entry. -/
def read (access : DirectoryAccess m) (key : String) :
    m (Except StorageError (Option CacheEntry)) := do
  match ← access.read key with
  | .error .notFound => return .ok none
  | .error cause => return .error (.file key cause)
  | .ok bytes =>
      match CacheEntry.ofBytes bytes with
      | .ok entry => return .ok (some entry)
      | .error fault => return .error (.corrupt key fault.message)

/-- Give the temporary file its name; if that fails, remove it. -/
def publish (access : DirectoryAccess m) (key temporary : String) :
    m (Except StorageError Unit) := do
  match ← access.rename temporary key with
  | .ok () => return .ok ()
  | .error cause =>
      let _ ← access.remove temporary
      return .error (.file key cause)

/-- Write the entry of a key: create the directory, write a temporary file and
    give it the key's name. -/
def write (access : DirectoryAccess m) (process : Nat) (key : String) (entry : CacheEntry) :
    m (Except StorageError Unit) := do
  match ← access.create with
  | .error cause => return .error (.file key cause)
  | .ok () =>
      let temporary := temporaryName key process (← access.ticket)
      match ← access.write temporary entry.text.toUTF8 with
      | .error cause => return .error (.file key cause)
      | .ok () => publish access key temporary

/-- Remove the file of a key. -/
def delete (access : DirectoryAccess m) (key : String) : m (Except StorageError Unit) := do
  match ← access.remove key with
  | .ok () | .error .notFound => return .ok ()
  | .error cause => return .error (.file key cause)

/-- The operations of a cache in a directory, for one process. -/
def cache (access : DirectoryAccess m) (process : Nat) : Cache m where
  get key := checked key (read access key)
  set key entry := checked key (write access process key entry)
  remove key := checked key (delete access key)

end FileCache

end Decisioning
