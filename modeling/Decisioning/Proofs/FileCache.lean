import Decisioning.Cache.File
import Decisioning.Proofs.Directory
import Decisioning.Proofs.EntryText
import Decisioning.Proofs.MemoryCache

/-!
# Caches in a Directory and in Memory

Why it makes no difference whether entries are kept in files or in memory.

The directory mirrors the map: its files are named by the keys of the map and hold
the texts of the entries. Reading a key is then reading its text back, and a missing
file is a missing key. Writing goes through a temporary file, which is there only
between two steps of one operation. Its name ends as no key may, so it stands beside
the files of the keys and not in place of one, and after it has been given its name
the directory is as if the key had been written at once.

What a file system and a text cannot do has to be kept out. A key must be a file
name, with room for what a temporary name adds to it, and an entry must be one that
its text gives back.

## Main definitions

* `CacheRequest`, `CacheAnswer`: What is asked of a cache, and what it answers.
* `Cache.serveAll`: The answers to a list of requests.
* `FileCache.Takes`: The keys and entries that a directory can keep.
* `FileCache.Mirrors`: A directory with the entries of a map as its files.

## Theorems

* `FileCache.Mirrors.get_run`, `set_run`, `remove_run`: The three operations.
* `FileCache.Mirrors.serve`: A request keeps a directory and a map alike.
* `FileCache.Mirrors.serveAll`: So does a list of requests.
* `FileCache.directory_answers_as_memory`: A directory that starts empty is like a map.
-/

namespace Decisioning

/-- What is asked of a cache. -/
inductive CacheRequest where
  | get (key : String)
  | set (key : String) (entry : CacheEntry)
  | remove (key : String)

/-- What a cache answers. -/
inductive CacheAnswer where
  | found (entry : Except StorageError (Option CacheEntry))
  | done (outcome : Except StorageError Unit)

namespace CacheRequest

/-- The key that a request is about. -/
def key : CacheRequest → String
  | .get key | .set key _ | .remove key => key

/-- The entry that a request brings. -/
def entry? : CacheRequest → Option CacheEntry
  | .set _ entry => some entry
  | .get _ | .remove _ => none

/-- How many tickets a request draws: one for a temporary name. -/
def tickets : CacheRequest → Nat
  | .set _ _ => 1
  | .get _ | .remove _ => 0

end CacheRequest

namespace Cache

variable {m : Type → Type} [Monad m]

/-- Answer a request. -/
def serve (cache : Cache m) : CacheRequest → m CacheAnswer
  | .get key => .found <$> cache.get key
  | .set key entry => .done <$> cache.set key entry
  | .remove key => .done <$> cache.remove key

/-- Answer one request after the other. -/
def serveAll (cache : Cache m) (requests : List CacheRequest) : m (List CacheAnswer) :=
  requests.mapM cache.serve

theorem serveAll_cons_run {σ : Type} (cache : Cache (StateM σ)) (request : CacheRequest)
    (rest : List CacheRequest) (c : σ) :
    (cache.serveAll (request :: rest)).run c
      = let (answer, d) := (cache.serve request).run c
        (answer :: ((cache.serveAll rest).run d).1, ((cache.serveAll rest).run d).2) := by
  rw [serveAll, List.mapM_cons]
  rfl

end Cache

namespace FileCache

/-- A key that can be a file name, also after a temporary name has been made of it. -/
structure TakesKey (process ticket : Nat) (key : String) : Prop where
  valid : isValidKey key = true
  noNul : '\x00' ∉ key.toList
  short : (temporaryName key process ticket).utf8ByteSize ≤ Directory.maxNameBytes

/-- Requests about such keys, given the ticket that is drawn next, and with entries
    that their texts give back. -/
def Takes (process : Nat) : Nat → List CacheRequest → Prop
  | _, [] => True
  | ticket, request :: rest =>
      TakesKey process ticket request.key ∧ (∀ entry ∈ request.entry?, entry.IsStorable)
        ∧ Takes process (ticket + request.tickets) rest

section Names

variable {process ticket : Nat} {key : String}

theorem isEmpty_of_isValidKey (h : isValidKey key = true) : key.isEmpty = false := by
  cases hempty : key.isEmpty with
  | false => rfl
  | true =>
      simp only [isValidKey, hempty, Bool.not_true, Bool.false_and, Bool.false_eq_true] at h

/-- A temporary name has the ending of its kind. -/
theorem suffix_temporaryName (key : String) (process ticket : Nat) :
    temporaryEnding.toList <:+ (temporaryName key process ticket).toList := by
  rw [temporaryName, String.toList_append]
  exact List.suffix_append _ _

/-- A temporary name is no key. -/
theorem isValidKey_temporaryName (key : String) (process ticket : Nat) :
    isValidKey (temporaryName key process ticket) = false := by
  have hending : temporaryEnding.toList.isSuffixOf (temporaryName key process ticket).toList
      = true :=
    List.isSuffixOf_iff_suffix.mpr (suffix_temporaryName key process ticket)
  rw [isValidKey, hending, Bool.not_true, Bool.and_false]

theorem notMem_toString {c : Char} (h : c.isDigit = false) (n : Nat) :
    c ∉ (toString n).toList := by
  intro hmem
  have hdigits : (toString n).toList = Nat.toDigits 10 n := Nat.toList_repr
  rw [isDigit_of_mem_toDigits (hdigits ▸ hmem)] at h
  cases h

/-- Besides digits, making a temporary name of a key puts in the characters of the
    ending only. -/
theorem notMem_temporaryName {c : Char} (hkey : c ∉ key.toList) (hdigit : c.isDigit = false)
    (hending : c ∉ temporaryEnding.toList) (process ticket : Nat) :
    c ∉ (temporaryName key process ticket).toList := by
  have hne : c ≠ '.' := by
    rintro rfl
    exact hending (by decide)
  have hdot : c ∉ ".".toList := fun hmem => hne (List.mem_singleton.mp hmem)
  simp only [temporaryName, String.toList_append, List.mem_append, not_or]
  exact ⟨⟨⟨⟨⟨⟨hdot, hkey⟩, hdot⟩, notMem_toString hdigit process⟩, hdot⟩,
    notMem_toString hdigit ticket⟩, hending⟩

theorem utf8ByteSize_le_temporaryName (key : String) (process ticket : Nat) :
    key.utf8ByteSize ≤ (temporaryName key process ticket).utf8ByteSize := by
  simp only [temporaryName, String.utf8ByteSize_append]
  omega

theorem TakesKey.isName (h : TakesKey process ticket key) : Directory.IsName key where
  noNul := h.noNul
  short := Nat.le_trans (utf8ByteSize_le_temporaryName key process ticket) h.short

theorem TakesKey.isName_temporaryName (h : TakesKey process ticket key) :
    Directory.IsName (temporaryName key process ticket) where
  noNul := notMem_temporaryName h.noNul (by decide) (by decide) process ticket
  short := h.short

end Names

section Steps

variable {directory : Directory} {process ticket : Nat} {key : String}

/-- A file that is missing is a key that is missing. -/
theorem read_run_notFound (hread : directory.read key = .error .notFound) :
    (read Disk.access key).run ⟨directory, ticket⟩ = (.ok none, ⟨directory, ticket⟩) := by
  rw [read, run_bind_of_run (Disk.read_run _ key)]
  simp only [hread]
  rfl

/-- A file with the text of an entry is that entry. -/
theorem read_run_text {entry : CacheEntry} (hentry : entry.IsStorable)
    (hread : directory.read key = .ok entry.text.toUTF8) :
    (read Disk.access key).run ⟨directory, ticket⟩ = (.ok (some entry), ⟨directory, ticket⟩) := by
  rw [read, run_bind_of_run (Disk.read_run _ key)]
  simp only [hread, CacheEntry.ofBytes_text hentry]
  rfl

/-- Writing is creating the directory, drawing a ticket, writing the temporary file
    and giving it its name. -/
theorem write_run {entry : CacheEntry} {created written published : Directory}
    (hcreate : directory.create = .ok created)
    (hwrite : created.write (temporaryName key process ticket) entry.text.toUTF8 = .ok written)
    (hrename : written.rename (temporaryName key process ticket) key = .ok published) :
    (write Disk.access process key entry).run ⟨directory, ticket⟩
      = (.ok (), ⟨published, ticket + 1⟩) := by
  let temporary := temporaryName key process ticket
  have hcreated : Disk.access.create.run ⟨directory, ticket⟩ = (.ok (), ⟨created, ticket⟩) :=
    Disk.change_run_ok _ hcreate
  have hticket : Disk.access.ticket.run ⟨created, ticket⟩ = (ticket, ⟨created, ticket + 1⟩) := rfl
  have hwritten : (Disk.access.write temporary entry.text.toUTF8).run ⟨created, ticket + 1⟩
      = (.ok (), ⟨written, ticket + 1⟩) :=
    Disk.change_run_ok (fun directory => directory.write temporary entry.text.toUTF8) hwrite
  have hpublished : (Disk.access.rename temporary key).run ⟨written, ticket + 1⟩
      = (.ok (), ⟨published, ticket + 1⟩) :=
    Disk.change_run_ok (fun directory => directory.rename temporary key) hrename
  -- Each call finds the directory that the one before it has left.
  rw [write, run_bind_of_run hcreated]
  dsimp only
  rw [run_bind_of_run hticket, run_bind_of_run hwritten]
  dsimp only
  rw [publish, run_bind_of_run hpublished]
  rfl

theorem delete_run_ok {removed : Directory} (hremove : directory.remove key = .ok removed) :
    (delete Disk.access key).run ⟨directory, ticket⟩ = (.ok (), ⟨removed, ticket⟩) := by
  have hremoved : (Disk.access.remove key).run ⟨directory, ticket⟩ = (.ok (), ⟨removed, ticket⟩) :=
    Disk.change_run_ok (fun directory => directory.remove key) hremove
  rw [delete, run_bind_of_run hremoved]
  rfl

/-- Removing a file that is missing succeeds. -/
theorem delete_run_notFound (hremove : directory.remove key = .error .notFound) :
    (delete Disk.access key).run ⟨directory, ticket⟩ = (.ok (), ⟨directory, ticket⟩) := by
  have hmissing : (Disk.access.remove key).run ⟨directory, ticket⟩
      = (.error .notFound, ⟨directory, ticket⟩) :=
    Disk.change_run_error (fun directory => directory.remove key) hremove
  rw [delete, run_bind_of_run hmissing]
  rfl

end Steps

/-- The files that keep the entries of a map. -/
def files (memory : MemoryCache) : SortedMap ByteArray :=
  memory.map fun entry => entry.text.toUTF8

theorem get?_files (memory : MemoryCache) (key : String) :
    (files memory).get? key = (memory.get? key).map fun entry => entry.text.toUTF8 :=
  memory.get?_map _ key

theorem files_insert (memory : MemoryCache) (key : String) (entry : CacheEntry) :
    files (memory.insert key entry) = (files memory).insert key entry.text.toUTF8 :=
  memory.map_insert _ key entry

theorem files_erase (memory : MemoryCache) (key : String) :
    files (memory.erase key) = (files memory).erase key :=
  memory.map_erase _ key

/-- A key is valid and a file name, and its entry is one that its text gives back. -/
structure Keeps (key : String) (entry : CacheEntry) : Prop where
  valid : isValidKey key = true
  isName : Directory.IsName key
  storable : entry.IsStorable

/-- A directory has a file for every entry of a map, and nothing else. -/
structure Mirrors (directory : Directory) (memory : MemoryCache) : Prop where
  holds : directory.Holds (files memory)
  keeps : ∀ {key entry}, memory.get? key = some entry → Keeps key entry

namespace Mirrors

variable {directory : Directory} {memory : MemoryCache} {process ticket : Nat} {key : String}

/-- No key of the map is a temporary name, so these are free. -/
theorem temporaryName_free (h : Mirrors directory memory) (key : String)
    (process ticket : Nat) : (files memory).get? (temporaryName key process ticket) = none := by
  rw [get?_files]
  cases hentry : memory.get? (temporaryName key process ticket) with
  | none => rfl
  | some entry =>
      have hvalid := (h.keeps hentry).valid
      rw [isValidKey_temporaryName] at hvalid
      exact nomatch hvalid

/-- Reading a key finds its entry, if it has one. -/
theorem get_run (h : Mirrors directory memory) (hkey : TakesKey process ticket key) :
    ((cache Disk.access process).get key).run ⟨directory, ticket⟩
      = (.ok (memory.get? key), ⟨directory, ticket⟩) := by
  have hread := h.holds.read hkey.isName
  rw [get?_files] at hread
  dsimp only [cache]
  rw [checked, if_pos hkey.valid]
  cases hentry : memory.get? key with
  | none =>
      rw [hentry] at hread
      exact read_run_notFound hread
  | some entry =>
      rw [hentry] at hread
      exact read_run_text (h.keeps hentry).storable hread

/-- Writing a key sets its entry, and the next ticket is drawn. -/
theorem set_run (h : Mirrors directory memory) (hkey : TakesKey process ticket key)
    (entry : CacheEntry) :
    ((cache Disk.access process).set key entry).run ⟨directory, ticket⟩
      = (.ok (), ⟨.ofFiles (files (memory.insert key entry)), ticket + 1⟩) := by
  let temporary := temporaryName key process ticket
  let written := (files memory).insert temporary entry.text.toUTF8
  have hwritten : written.get? temporary = some entry.text.toUTF8 :=
    (SortedMap.get?_insert _ _ _ _).trans (if_pos rfl)
  -- Taking the temporary file away again leaves the files that there were.
  have herase : written.erase temporary = files memory :=
    (SortedMap.erase_insert _ _ _).trans
      (SortedMap.erase_of_get?_eq_none (h.temporaryName_free key process ticket))
  have hrename := Directory.rename_ofFiles hkey.isName_temporaryName hkey.isName hwritten
  rw [herase, ← files_insert] at hrename
  dsimp only [cache]
  rw [checked, if_pos hkey.valid]
  exact write_run h.holds.create (Directory.write_ofFiles hkey.isName_temporaryName _) hrename

/-- Removing a key removes its entry, if it has one. -/
theorem remove_run (h : Mirrors directory memory) (hkey : TakesKey process ticket key) :
    ∃ removed : Directory, removed.Holds (files (memory.erase key))
      ∧ ((cache Disk.access process).remove key).run ⟨directory, ticket⟩
        = (.ok (), ⟨removed, ticket⟩) := by
  dsimp only [cache]
  rw [checked, if_pos hkey.valid, files_erase]
  cases hfile : (files memory).get? key with
  | none =>
      -- The directory may be missing as well, so it is the same one that holds the files.
      refine ⟨directory, ?_, delete_run_notFound (h.holds.remove_none hkey.isName hfile)⟩
      rw [SortedMap.erase_of_get?_eq_none hfile]
      exact h.holds
  | some bytes =>
      exact ⟨_, Directory.holds_ofFiles _,
        delete_run_ok (h.holds.remove_some hkey.isName hfile)⟩

/-- A map with one more entry that a directory can keep. -/
theorem insert (h : Mirrors directory memory) {entry : CacheEntry}
    (hkeeps : Keeps key entry) :
    Mirrors (.ofFiles (files (memory.insert key entry))) (memory.insert key entry) where
  holds := Directory.holds_ofFiles _
  keeps := by
    intro k other hother
    rw [SortedMap.get?_insert] at hother
    split at hother
    · rename_i hk
      cases hother
      exact hk ▸ hkeeps
    · exact h.keeps hother

/-- A map with an entry less. -/
theorem erase {removed : Directory} (h : Mirrors directory memory)
    (hremoved : removed.Holds (files (memory.erase key))) : Mirrors removed (memory.erase key) where
  holds := hremoved
  keeps := by
    intro k other hother
    rw [SortedMap.get?_erase] at hother
    split at hother
    · exact nomatch hother
    · exact h.keeps hother

/-- A request gets the same answer from a directory and from a map, and leaves them
    alike. -/
theorem serve (h : Mirrors directory memory) {request : CacheRequest}
    (hkey : TakesKey process ticket request.key)
    (hentry : ∀ entry ∈ request.entry?, entry.IsStorable) :
    ∃ next : Directory,
      Mirrors next ((MemoryCache.cache.serve request).run memory).2
        ∧ ((cache Disk.access process).serve request).run ⟨directory, ticket⟩
          = (((MemoryCache.cache.serve request).run memory).1,
            ⟨next, ticket + request.tickets⟩) := by
  have hnonempty : request.key.isEmpty = false := isEmpty_of_isValidKey hkey.valid
  cases request with
  | get key =>
      dsimp only [CacheRequest.key] at hkey hnonempty
      rw [Cache.serve, Cache.serve, StateT.run_map, StateT.run_map, h.get_run hkey,
        MemoryCache.get_run hnonempty]
      exact ⟨directory, h, rfl⟩
  | set key entry =>
      dsimp only [CacheRequest.key] at hkey hnonempty
      rw [Cache.serve, Cache.serve, StateT.run_map, StateT.run_map, h.set_run hkey,
        MemoryCache.set_run hnonempty]
      exact ⟨_, h.insert ⟨hkey.valid, hkey.isName, hentry entry rfl⟩, rfl⟩
  | remove key =>
      dsimp only [CacheRequest.key] at hkey hnonempty
      obtain ⟨removed, hholds, hrun⟩ := h.remove_run hkey
      rw [Cache.serve, Cache.serve, StateT.run_map, StateT.run_map, hrun,
        MemoryCache.remove_run hnonempty]
      exact ⟨removed, h.erase hholds, rfl⟩

/-- So do all requests of a list, one after the other. -/
theorem serveAll (h : Mirrors directory memory) {requests : List CacheRequest}
    (htakes : Takes process ticket requests) :
    let onDisk := ((cache Disk.access process).serveAll requests).run ⟨directory, ticket⟩
    let inMemory := (MemoryCache.cache.serveAll requests).run memory
    onDisk.1 = inMemory.1 ∧ Mirrors onDisk.2.directory inMemory.2 := by
  induction requests generalizing directory ticket memory with
  | nil => exact ⟨rfl, h⟩
  | cons request rest ih =>
      obtain ⟨hkey, hentry, hrest⟩ := htakes
      obtain ⟨next, hnext, hrun⟩ := h.serve hkey hentry
      obtain ⟨hanswers, hmirrors⟩ := ih hnext hrest
      rw [Cache.serveAll_cons_run, Cache.serveAll_cons_run, hrun]
      exact ⟨congrArg (_ :: ·) hanswers, hmirrors⟩

end Mirrors

/-- A directory that is missing or empty has the entries of the empty map. -/
theorem mirrors_empty {directory : Directory}
    (h : directory = .missing ∨ directory = .present []) : Mirrors directory .empty where
  holds := h.symm.imp id fun hmissing => ⟨hmissing, rfl⟩
  keeps := fun hentry => nomatch hentry

/-- What comes first among requests that are taken is taken. -/
theorem Takes.of_isPrefix {process ticket : Nat} {done requests : List CacheRequest}
    (h : Takes process ticket requests) (hstart : done <+: requests) :
    Takes process ticket done := by
  induction done generalizing ticket requests with
  | nil => exact trivial
  | cons request rest ih =>
      obtain ⟨later, rfl⟩ := hstart
      exact ⟨h.1, h.2.1, ih h.2.2 ⟨later, rfl⟩⟩

/-- A directory that starts out empty or missing answers every request as a map in
    memory does, and after every request its files are named by the keys of the map
    and hold the texts of the entries. In particular no temporary file is left. The
    keys must be file names with room for a temporary name, and the data of entries
    must come back from its text: integers of 64 bits, not too deep. -/
theorem directory_answers_as_memory (process ticket : Nat) {directory : Directory}
    (hdirectory : directory = .missing ∨ directory = .present [])
    {requests : List CacheRequest} (hrequests : Takes process ticket requests) :
    let onDisk := fun done => ((cache Disk.access process).serveAll done).run ⟨directory, ticket⟩
    let inMemory := fun done => (MemoryCache.cache.serveAll done).run .empty
    (onDisk requests).1 = (inMemory requests).1
      ∧ ∀ done, done <+: requests →
          (onDisk done).2.directory.names = (inMemory done).2.keys
            ∧ (∀ name ∈ (onDisk done).2.directory.names, isValidKey name = true)
            ∧ ∀ key entry, (inMemory done).2.get? key = some entry →
                (onDisk done).2.directory.read key = .ok entry.toJson.compact.toUTF8 := by
  intro onDisk inMemory
  have hempty := mirrors_empty hdirectory
  refine ⟨(hempty.serveAll hrequests).1, fun done hdone => ?_⟩
  -- Requests up to any point are requests that are taken, too.
  have hmirrors : Mirrors (onDisk done).2.directory (inMemory done).2 :=
    (hempty.serveAll (hrequests.of_isPrefix hdone)).2
  have hnames : (onDisk done).2.directory.names = (inMemory done).2.keys := by
    rw [hmirrors.holds.names, files, SortedMap.keys_map]
  refine ⟨hnames, fun name hname => ?_, fun key entry hentry => ?_⟩
  · rw [hnames, ← SortedMap.contains_iff_mem_keys, SortedMap.contains, Option.isSome_iff_exists]
      at hname
    obtain ⟨entry, hentry⟩ := hname
    exact (hmirrors.keeps hentry).valid
  · rw [hmirrors.holds.read (hmirrors.keeps hentry).isName, get?_files, hentry]
    rfl

/-- An entry with text that is escaped, the extreme integers and metadata is looked
    for, written, found and removed. -/
theorem directory_answers_as_memory_at_limits :
    let entry : CacheEntry :=
      { data := .obj [("\"\n", .arr [.int minInt64, .int 18446744073709551615])]
        metadata := SortedMap.empty.insert "version" "1" }
    let requests : List CacheRequest :=
      [.get "a", .set "a" entry, .get "a", .remove "a", .get "a"]
    let onDisk := fun done => ((cache Disk.access 7).serveAll done).run ⟨.missing, 0⟩
    Takes 7 0 requests
      ∧ (onDisk requests).1 = [.found (.ok none), .done (.ok ()), .found (.ok (some entry)),
        .done (.ok ()), .found (.ok none)]
      ∧ (onDisk (requests.take 2)).2.directory.names = ["a"] := by
  intro entry requests onDisk
  have hstorable : entry.IsStorable :=
    ⟨⟨by decide, ⟨trivial, trivial, trivial⟩, trivial⟩,
      ⟨⟨⟨by decide, by decide⟩, ⟨by decide, by decide⟩, trivial⟩, trivial⟩, by decide⟩
  have hfirst : TakesKey 7 0 "a" := ⟨by decide, by decide, by decide⟩
  have hlater : TakesKey 7 1 "a" := ⟨by decide, by decide, by decide⟩
  have hrequests : Takes 7 0 requests :=
    ⟨hfirst, nofun, hfirst, fun _ h => Option.some.inj h ▸ hstorable, hlater, nofun,
      hlater, nofun, hlater, nofun, trivial⟩
  obtain ⟨hanswers, hfiles⟩ := directory_answers_as_memory 7 0 (Or.inl rfl) hrequests
  exact ⟨hrequests, hanswers, (hfiles _ ⟨_, List.take_append_drop 2 requests⟩).1⟩

end FileCache

end Decisioning
