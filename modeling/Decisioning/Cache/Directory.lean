import Decisioning.Cache
import Decisioning.SortedMap

/-!
# Directories

A directory of the file system as a map from names to files, and the operations
on it that caches need.

A name is one component of a path. It has at most 255 bytes and no NUL. A
directory need not exist yet, and something that is not a directory may stand
in its place; reading from a missing directory finds nothing, whatever the name,
unless it is too long for any path.

The operations are also given as a record over a monad, so that the same cache
runs on this model and on a real directory.

## Main definitions

* `Node`: Files and folders.
* `Directory`: What stands where a directory is expected.
* `Directory.create`, `read`, `write`, `rename`, `remove`: The operations.
* `DirectoryAccess`: The operations in a monad.
-/

namespace Decisioning

/-- A file with its bytes, or a folder with named nodes, sorted by name. -/
inductive Node where
  | file (bytes : ByteArray)
  | folder (entries : List (String × Node))
deriving Inhabited

/-- What stands where a directory is expected. -/
inductive Directory where
  /-- Nothing yet. -/
  | missing
  /-- Something that makes every operation fail. -/
  | blocked (cause : FileError)
  /-- A directory, with its entries sorted by name. -/
  | present (entries : List (String × Node))
deriving Inhabited

namespace Directory

/-- The number of bytes that a name may have. -/
def maxNameBytes : Nat := 255

/-- The number of bytes that a path may have. -/
def maxPathBytes : Nat := 4095

/-- Why a name or a path cannot be used, before anything is looked at. -/
def nameFault? (name : String) : Option FileError :=
  if name.toList.contains '\x00' then some .nulInName
  else if maxPathBytes < name.utf8ByteSize then some .nameTooLong
  else none

/-- Why a name cannot be used in a directory that exists. -/
def lengthFault? (name : String) : Option FileError :=
  if maxNameBytes < name.utf8ByteSize then some .nameTooLong else none

/-- The entries, for an operation on the given name. -/
def entriesFor (directory : Directory) (name : String) :
    Except FileError (List (String × Node)) :=
  match nameFault? name, directory with
  | some fault, _ => .error fault
  | none, .missing => .error .notFound
  | none, .blocked cause => .error cause
  | none, .present entries =>
      match lengthFault? name with
      | some fault => .error fault
      | none => .ok entries

/-- Make sure that the directory exists. -/
def create : Directory → Except FileError Directory
  | .missing => .ok (.present [])
  | .blocked cause => .error cause
  | .present entries => .ok (.present entries)

/-- The bytes of a file. -/
def read (directory : Directory) (name : String) : Except FileError ByteArray :=
  match directory.entriesFor name with
  | .error fault => .error fault
  | .ok entries =>
      match lookup? name entries with
      | none => .error .notFound
      | some (.folder _) => .error .isDirectory
      | some (.file bytes) => .ok bytes

/-- Create or overwrite a file. -/
def write (directory : Directory) (name : String) (bytes : ByteArray) :
    Except FileError Directory :=
  match directory.entriesFor name with
  | .error fault => .error fault
  | .ok entries =>
      match lookup? name entries with
      | some (.folder _) => .error .isDirectory
      | _ => .ok (.present (insertEntry name (.file bytes) entries))

/-- Give a file a new name, in place of the file that has it. -/
def rename (directory : Directory) (source target : String) : Except FileError Directory :=
  match directory.entriesFor source, directory.entriesFor target with
  | .error fault, _ => .error fault
  | _, .error fault => .error fault
  | .ok entries, .ok _ =>
      match lookup? source entries, lookup? target entries with
      | none, _ => .error .notFound
      | some _, some (.folder _) => .error .isDirectory
      | some node, _ => .ok (.present (insertEntry target node (eraseEntry source entries)))

/-- Remove a file. -/
def remove (directory : Directory) (name : String) : Except FileError Directory :=
  match directory.entriesFor name with
  | .error fault => .error fault
  | .ok entries =>
      match lookup? name entries with
      | none => .error .notFound
      | some (.folder _) => .error .isDirectory
      | some (.file _) => .ok (.present (eraseEntry name entries))

/-- The names in a directory, sorted. -/
def names : Directory → List String
  | .present entries => entries.map Prod.fst
  | _ => []

end Directory

/-- The operations on a directory, in a monad. -/
structure DirectoryAccess (m : Type → Type) where
  create : m (Except FileError Unit)
  read : String → m (Except FileError ByteArray)
  write : String → ByteArray → m (Except FileError Unit)
  rename : String → String → m (Except FileError Unit)
  remove : String → m (Except FileError Unit)
  /-- A number that was never given before. -/
  ticket : m Nat

/-- A directory together with the next ticket. -/
structure Disk where
  directory : Directory
  nextTicket : Nat
deriving Inhabited

namespace Disk

/-- A disk on which the directory does not exist yet. -/
def blank : Disk := { directory := .missing, nextTicket := 0 }

/-- Run an operation that changes the directory, unless it fails. -/
def change (operation : Directory → Except FileError Directory) :
    StateM Disk (Except FileError Unit) := do
  match operation (← get).directory with
  | .error fault => return .error fault
  | .ok directory =>
      modify fun disk => { disk with directory }
      return .ok ()

/-- The operations on the directory of a disk. -/
def access : DirectoryAccess (StateM Disk) where
  create := change Directory.create
  read name := return (← get).directory.read name
  write name bytes := change fun directory => directory.write name bytes
  rename source target := change fun directory => directory.rename source target
  remove name := change fun directory => directory.remove name
  ticket := modifyGet fun disk => (disk.nextTicket, { disk with nextTicket := disk.nextTicket + 1 })

end Disk

end Decisioning
