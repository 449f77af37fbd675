import Decisioning.Json.Value
import Decisioning.Text.Quoted

/-!
# Caches

What a cache is to the rest of the library: three operations on entries under
keys, each of which may fail.

A cache is given by its operations in some monad. A backend over a pure state
lives in a state monad, which is what statements are made about; the program
runs the same operations in `IO`.

## Main definitions

* `CacheEntry`: A value and its metadata.
* `FileError`, `StorageError`: Why an operation fails.
* `Cache`: The operations.
-/

namespace Decisioning

/-- A cached value, with free-form metadata. -/
structure CacheEntry where
  data : Json
  metadata : SortedMap String
deriving DecidableEq

namespace CacheEntry

/-- An entry without metadata. -/
def ofData (data : Json) : CacheEntry := { data, metadata := .empty }

/-- The written form of an entry; metadata is written only if there is any. -/
def toJson (entry : CacheEntry) : Json :=
  if entry.metadata.isEmpty then .obj [("data", entry.data)]
  else
    .obj [("data", entry.data),
      ("metadata", .obj (entry.metadata.map Json.str).entries)]

end CacheEntry

/-- Why a file operation fails. -/
inductive FileError where
  | notFound
  | notDirectory
  | isDirectory
  | nameTooLong
  /-- The name holds a NUL character. -/
  | nulInName
  /-- The contents are not UTF-8. -/
  | notText
  /-- A failure reported by the system in its own words. -/
  | other (description : String)
deriving DecidableEq, Repr

namespace FileError

/-- The text that reports a failure. -/
def message : FileError → String
  | .notFound => "No such file or directory (os error 2)"
  | .notDirectory => "Not a directory (os error 20)"
  | .isDirectory => "Is a directory (os error 21)"
  | .nameTooLong => "File name too long (os error 36)"
  | .nulInName => "file name contained an unexpected NUL byte"
  | .notText => "stream did not contain valid UTF-8"
  | .other description => description

end FileError

/-- Why a cache operation fails. -/
inductive StorageError where
  /-- The backend cannot have an entry under the key. -/
  | invalidKey (key : String)
  /-- Reading or writing the file of the key failed. -/
  | file (key : String) (cause : FileError)
  /-- What is stored under the key is not an entry, for a reason that the reader gives. -/
  | corrupt (key message : String)
  /-- The backend itself failed. -/
  | backend (reason : String)
deriving DecidableEq, Repr

namespace StorageError

/-- The text that reports a failure. -/
def message : StorageError → String
  | .invalidKey key => "invalid cache key: " ++ quoteText key
  | .file key cause => "cache i/o error on " ++ key ++ ": " ++ cause.message
  | .corrupt key message => "corrupt cache entry " ++ key ++ ": " ++ message
  | .backend reason => "storage backend error: " ++ reason

end StorageError

/-- The operations of a cache. Reading a missing key finds nothing, writing
    replaces the whole entry, and removing a missing key succeeds. -/
structure Cache (m : Type → Type) where
  get : String → m (Except StorageError (Option CacheEntry))
  set : String → CacheEntry → m (Except StorageError Unit)
  remove : String → m (Except StorageError Unit)

end Decisioning
