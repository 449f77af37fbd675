import Decisioning.Cache.Directory
import Decisioning.Proofs.SortedMap

/-!
# Directories of Files

What the operations on a directory do while it has files only.

The files of a directory are then a map from names to bytes, and each operation is
the one of the map that its name suggests. Folders and other obstacles never come
in, since no operation makes one. A directory that is missing stands for the map
without files: reading and removing find nothing in it, and writing is preceded by
its creation.

Names can be refused for a NUL or for their length before anything is looked at,
so `IsName` is asked of every name that is used.

## Main definitions

* `Directory.IsName`: The names that a file can have.
* `Directory.ofFiles`: The directory with given files.
* `Directory.Holds`: A directory with given files, or none where there are no files.

## Theorems

* `Directory.nameFault?_eq_none_iff`, `lengthFault?_eq_none_iff`: Which paths and names can
  be used.
* `Directory.Holds.read`, `create`, `remove`: The operations that may meet a
  missing directory.
* `Directory.write_ofFiles`, `rename_ofFiles`: The operations that follow a
  creation.
* `Directory.Holds.names`: The names are those of the files.
* `Disk.change_run_ok`, `change_run_error`: Operations on the directory of a disk.
-/

namespace Decisioning

namespace Directory

/-- A name that a file can have. -/
structure IsName (name : String) : Prop where
  noNul : '\x00' ∉ name.toList
  short : name.utf8ByteSize ≤ maxNameBytes

/-- A path can be used if it has no NUL and is not too long. -/
theorem nameFault?_eq_none_iff (name : String) :
    nameFault? name = none ↔ '\x00' ∉ name.toList ∧ name.utf8ByteSize ≤ maxPathBytes := by
  rw [nameFault?, ← List.contains_iff_mem]
  split
  · rename_i hnul
    exact ⟨nofun, fun h => absurd hnul h.1⟩
  · rename_i hnul
    split
    · rename_i hlong
      exact ⟨nofun, fun h => absurd hlong (Nat.not_lt.mpr h.2)⟩
    · rename_i hshort
      exact ⟨fun _ => ⟨hnul, Nat.not_lt.mp hshort⟩, fun _ => rfl⟩

theorem lengthFault?_eq_none_iff (name : String) :
    lengthFault? name = none ↔ name.utf8ByteSize ≤ maxNameBytes := by
  rw [lengthFault?]
  split
  · rename_i hlong
    exact ⟨nofun, fun h => absurd hlong (Nat.not_lt.mpr h)⟩
  · rename_i hshort
    exact ⟨fun _ => Nat.not_lt.mp hshort, fun _ => rfl⟩

theorem IsName.nameFault? {name : String} (h : IsName name) : nameFault? name = none :=
  (nameFault?_eq_none_iff name).mpr ⟨h.noNul, Nat.le_trans h.short (by decide)⟩

theorem IsName.lengthFault? {name : String} (h : IsName name) : lengthFault? name = none :=
  (lengthFault?_eq_none_iff name).mpr h.short

/-- The directory with the given files. -/
def ofFiles (files : SortedMap ByteArray) : Directory := .present (files.map Node.file).entries

/-- A directory has the given files and nothing else, or is missing while there are
    no files. -/
def Holds (directory : Directory) (files : SortedMap ByteArray) : Prop :=
  directory = ofFiles files ∨ directory = .missing ∧ files = .empty

theorem holds_ofFiles (files : SortedMap ByteArray) : (ofFiles files).Holds files := Or.inl rfl

section Operations

variable {directory : Directory} {files : SortedMap ByteArray} {name : String}

theorem entriesFor_ofFiles (hname : IsName name) :
    (ofFiles files).entriesFor name = .ok (files.map Node.file).entries := by
  unfold entriesFor ofFiles
  simp only [hname.nameFault?, hname.lengthFault?]

theorem entriesFor_missing (hname : IsName name) :
    missing.entriesFor name = .error .notFound := by
  unfold entriesFor
  simp only [hname.nameFault?]

theorem lookup?_ofFiles (files : SortedMap ByteArray) (name : String) :
    lookup? name (files.map Node.file).entries = (files.get? name).map Node.file :=
  files.get?_map Node.file name

/-- A directory with given files has their bytes. -/
theorem Holds.read (h : directory.Holds files) (hname : IsName name) :
    directory.read name = (files.get? name).elim (.error .notFound) .ok := by
  rcases h with rfl | ⟨rfl, rfl⟩
  · rw [Directory.read, entriesFor_ofFiles hname]
    simp only [lookup?_ofFiles]
    cases files.get? name <;> rfl
  · rw [Directory.read, entriesFor_missing hname]
    rfl

/-- Creating a directory leaves the files as they were. -/
theorem Holds.create (h : directory.Holds files) : directory.create = .ok (ofFiles files) := by
  rcases h with rfl | ⟨rfl, rfl⟩ <;> rfl

/-- Writing to a directory of files sets the bytes of a name. -/
theorem write_ofFiles (hname : IsName name) (bytes : ByteArray) :
    (ofFiles files).write name bytes = .ok (ofFiles (files.insert name bytes)) := by
  have hinsert : insertEntry name (Node.file bytes) (files.map Node.file).entries
      = ((files.insert name bytes).map Node.file).entries :=
    congrArg SortedMap.entries (SortedMap.map_insert Node.file files name bytes).symm
  rw [write, entriesFor_ofFiles hname]
  simp only [lookup?_ofFiles, hinsert]
  cases files.get? name <;> rfl

/-- Giving a file another name moves its bytes there. -/
theorem rename_ofFiles {target : String} {bytes : ByteArray} (hname : IsName name)
    (htarget : IsName target) (hbytes : files.get? name = some bytes) :
    (ofFiles files).rename name target
      = .ok (ofFiles ((files.erase name).insert target bytes)) := by
  have hmove : insertEntry target (Node.file bytes) (eraseEntry name (files.map Node.file).entries)
      = (((files.erase name).insert target bytes).map Node.file).entries := by
    rw [SortedMap.map_insert, SortedMap.map_erase]
    rfl
  rw [rename, entriesFor_ofFiles hname, entriesFor_ofFiles htarget]
  simp only [lookup?_ofFiles, hbytes, Option.map_some]
  rw [ofFiles, ← hmove]
  cases files.get? target <;> rfl

/-- Removing a file. -/
theorem Holds.remove_some (h : directory.Holds files) (hname : IsName name) {bytes : ByteArray}
    (hbytes : files.get? name = some bytes) :
    directory.remove name = .ok (ofFiles (files.erase name)) := by
  rcases h with rfl | ⟨rfl, rfl⟩
  · have herase : eraseEntry name (files.map Node.file).entries
        = ((files.erase name).map Node.file).entries :=
      congrArg SortedMap.entries (SortedMap.map_erase Node.file files name).symm
    rw [remove, entriesFor_ofFiles hname]
    simp only [lookup?_ofFiles, hbytes, Option.map_some, herase]
    rfl
  · exact nomatch hbytes

/-- Removing a file that there is not. -/
theorem Holds.remove_none (h : directory.Holds files) (hname : IsName name)
    (hbytes : files.get? name = none) : directory.remove name = .error .notFound := by
  rcases h with rfl | ⟨rfl, rfl⟩
  · rw [remove, entriesFor_ofFiles hname]
    simp only [lookup?_ofFiles, hbytes, Option.map_none]
  · rw [remove, entriesFor_missing hname]

/-- The names in a directory are those of its files. -/
theorem Holds.names (h : directory.Holds files) : directory.names = files.keys := by
  rcases h with rfl | ⟨rfl, rfl⟩
  · exact List.map_map
  · rfl

end Operations

end Directory

/-- A program that starts with a step goes on from where the step led. -/
theorem run_bind_of_run {σ α β : Type} {x : StateM σ α} {a : α} {s t : σ}
    (h : x.run s = (a, t)) (f : α → StateM σ β) : (x >>= f).run s = (f a).run t := by
  rw [StateT.run_bind, h]
  rfl

namespace Disk

/-- Reading answers what the directory has and changes nothing. -/
theorem read_run (disk : Disk) (name : String) :
    (access.read name).run disk = (disk.directory.read name, disk) := rfl

variable {disk : Disk} (operation : Directory → Except FileError Directory)

/-- An operation on the directory of a disk replaces it and draws no ticket. -/
theorem change_run_ok {directory : Directory} (h : operation disk.directory = .ok directory) :
    (change operation).run disk = (.ok (), { disk with directory }) := by
  have hstart : (get : StateM Disk Disk).run disk = (disk, disk) := rfl
  rw [change, run_bind_of_run hstart, h]
  rfl

/-- A failed operation on the directory of a disk leaves the disk as it was. -/
theorem change_run_error {fault : FileError} (h : operation disk.directory = .error fault) :
    (change operation).run disk = (.error fault, disk) := by
  have hstart : (get : StateM Disk Disk).run disk = (disk, disk) := rfl
  rw [change, run_bind_of_run hstart, h]
  rfl

end Disk

end Decisioning
