import Decisioning.Cache.File
import Decisioning.Proofs.FileCache
import Decisioning.Proofs.SeenNames

/-!
# Failed and Interrupted Writes

Why a write that fails or is cut short harms no entry.

The directory is put behind calls that need not come off. Each one is carried out,
which may still fail for what stands in the directory, or is refused without an
effect, or is never made because the process stopped before it. The cache itself is
the same one, only its operations on the directory are these.

Writing an entry then takes the directory through a few stages, and wherever it ends,
the directory is at one of them. Up to the last the new text is under the temporary
name only, which no key can be, so nothing that is read has changed. Giving it its name
is one call, and from there on the key has the whole text.

A name that is too long for a file is refused by a directory, but in a missing one it
is simply not found. Creating the directory can be told from that, and from nothing
else.

## Main definitions

* `DirectoryCall`, `Fate`: The calls that change a directory, and what becomes of one.
* `Disk.fatedAccess`: The operations on a directory with the fate of each call given.
* `Leaves`: What is true of the disk at the end of a run, also of one that was stopped.
* `FileCache.Stage`, `Reaches`: The stages of a write, and the directory at each.
* `FileCache.EndsAtStage`: Where a write can end, and with which answer.
* `FileCache.found`, `contents`: What is found under a key, and what its file comes to.

## Theorems

* `FileCache.fatedAccess_carriedOut_set`: With every call carried out, the run is the
  plain one.
* `FileCache.leaves_set`: A write ends at one of its stages.
* `FileCache.Reaches.seen_eq`, `seen_published`, `names_subset`: What is seen there.
* `FileCache.failed_or_stopped_write_keeps_entries`: What is found afterwards.
-/

namespace Decisioning

/-- The calls that change a directory. -/
inductive DirectoryCall where
  | create
  | write
  | rename
  | remove
deriving DecidableEq

/-- What becomes of a call. -/
inductive Fate where
  /-- It is made, and succeeds or fails as the directory has it. -/
  | carriedOut
  /-- It fails and has no effect. -/
  | refused (cause : FileError)
  /-- It is never made, and nothing after it. -/
  | stopped

/-- A call that meets its fate. A run that is stopped has no answer. -/
def Fate.meet (fate : Fate) (call : StateM Disk (Except FileError Unit)) :
    OptionT (StateM Disk) (Except FileError Unit) :=
  match fate with
  | .carriedOut => OptionT.lift call
  | .refused cause => pure (.error cause)
  | .stopped => OptionT.fail

/-- The operations on the directory of a disk, each call with its fate. Writing an entry
    makes no call twice. -/
def Disk.fatedAccess (fate : DirectoryCall → Fate) : DirectoryAccess (OptionT (StateM Disk)) where
  create := (fate .create).meet access.create
  read name := OptionT.lift (access.read name)
  write name bytes := (fate .write).meet (access.write name bytes)
  rename source target := (fate .rename).meet (access.rename source target)
  remove name := (fate .remove).meet (access.remove name)
  ticket := OptionT.lift access.ticket

section Runs

variable {α β : Type} {disk : Disk}

/-- What is true at the end of a run, of its answer, if it was not stopped, and of the
    disk that it leaves. -/
def Leaves (run : OptionT (StateM Disk) α) (disk : Disk) (ends : Option α → Disk → Prop) : Prop :=
  ends (run.run.run disk).1 (run.run.run disk).2

theorem leaves_pure {a : α} {ends : Option α → Disk → Prop} (h : ends (some a) disk) :
    Leaves (pure a) disk ends :=
  h

/-- What nothing can stop ends with an answer. -/
theorem leaves_lift {call : StateM Disk α} {ends : Option α → Disk → Prop}
    (h : ends (some (call.run disk).1) (call.run disk).2) : Leaves (OptionT.lift call) disk ends :=
  h

/-- What follows starts where the first part ends, unless that was stopped. -/
theorem leaves_bind {run : OptionT (StateM Disk) α} {next : α → OptionT (StateM Disk) β}
    {ends : Option β → Disk → Prop}
    (h : Leaves run disk fun answer? after =>
      match answer? with
      | none => ends none after
      | some a => Leaves (next a) after ends) :
    Leaves (run >>= next) disk ends := by
  unfold Leaves at h ⊢
  rw [OptionT.run_bind, Option.elimM, StateT.run_bind]
  generalize run.run.run disk = outcome at h ⊢
  obtain ⟨_ | a, after⟩ := outcome
  · exact h
  · exact h

/-- A call changes the directory, or fails without an effect, or is not made. -/
theorem leaves_meet {fate : Fate} (operation : Directory → Except FileError Directory)
    {ends : Option (Except FileError Unit) → Disk → Prop}
    (done : ∀ after, operation disk.directory = .ok after →
      ends (some (.ok ())) { disk with directory := after })
    (failed : ∀ cause, fate = .refused cause ∨ operation disk.directory = .error cause →
      ends (some (.error cause)) disk)
    (stopped : ends none disk) :
    Leaves (fate.meet (Disk.change operation)) disk ends := by
  cases fate with
  | carriedOut =>
      refine leaves_lift ?_
      cases h : operation disk.directory with
      | ok after =>
          rw [Disk.change_run_ok operation h]
          exact done after h
      | error cause =>
          rw [Disk.change_run_error operation h]
          exact failed cause (Or.inr h)
  | refused cause => exact failed cause (Or.inl rfl)
  | stopped => exact stopped

/-- A ticket is always drawn. -/
theorem leaves_ticket {fate : DirectoryCall → Fate} {ends : Option Nat → Disk → Prop}
    (h : ends (some disk.nextTicket) { disk with nextTicket := disk.nextTicket + 1 }) :
    Leaves (Disk.fatedAccess fate).ticket disk ends :=
  leaves_lift h

end Runs

namespace FileCache

/-- How far a write got. -/
inductive Stage where
  /-- Nothing has been done. -/
  | untouched
  /-- There is a directory. -/
  | made
  /-- The text is under the temporary name. -/
  | written
  /-- The text is under the key. -/
  | published
  /-- The text could not be given the key, and the temporary file is removed. -/
  | cleaned
deriving DecidableEq

/-- The directory at each stage of a write. -/
inductive Reaches (before : Directory) (temporary key : String) (bytes : ByteArray) :
    Stage → Directory → Prop where
  | untouched : Reaches before temporary key bytes .untouched before
  | made {created : Directory} (h : before.create = .ok created) :
      Reaches before temporary key bytes .made created
  | written {created written : Directory} (h : Reaches before temporary key bytes .made created)
      (hwrite : created.write temporary bytes = .ok written) :
      Reaches before temporary key bytes .written written
  | published {written published : Directory}
      (h : Reaches before temporary key bytes .written written)
      (hrename : written.rename temporary key = .ok published) :
      Reaches before temporary key bytes .published published
  | cleaned {written cleaned : Directory}
      (h : Reaches before temporary key bytes .written written)
      (hremove : written.remove temporary = .ok cleaned) :
      Reaches before temporary key bytes .cleaned cleaned

namespace Reaches

variable {before after : Directory} {temporary key name : String} {bytes : ByteArray}
  {stage : Stage}

/-- The temporary file has the whole text. -/
theorem seen_written (h : Reaches before temporary key bytes .written after) :
    Directory.IsName temporary
      ∧ after.seen = Function.update before.seen temporary (.ok (some (.file bytes))) := by
  cases h with
  | written hmade hwrite =>
      cases hmade with
      | made hcreate =>
          obtain ⟨hname, hseen⟩ := Directory.seen_write hwrite
          exact ⟨hname, by rw [hseen, Directory.seen_create hcreate]⟩

/-- So has the key, once it has been given to it. -/
theorem seen_published (h : Reaches before temporary key bytes .published after) :
    Directory.IsName key ∧ after.seen key = .ok (some (.file bytes)) := by
  cases h with
  | published hwritten hrename =>
      obtain ⟨hname, node, hnode, hseen⟩ := Directory.seen_rename hrename
      refine ⟨hname, ?_⟩
      rw [hwritten.seen_written.2, Function.update_self] at hnode
      rw [hseen, Function.update_self, ← hnode]

/-- Nothing else is seen to change, at any stage. -/
theorem seen_eq (h : Reaches before temporary key bytes stage after) (htemporary : name ≠ temporary)
    (hkey : stage = .published → name ≠ key) : after.seen name = before.seen name := by
  cases h with
  | untouched => rfl
  | made hcreate => rw [Directory.seen_create hcreate]
  | written hmade hwrite =>
      rw [(Reaches.written hmade hwrite).seen_written.2, Function.update_of_ne htemporary]
  | published hwritten hrename =>
      obtain ⟨_, _, _, hseen⟩ := Directory.seen_rename hrename
      rw [hseen, Function.update_of_ne (hkey rfl), Function.update_of_ne htemporary,
        hwritten.seen_written.2, Function.update_of_ne htemporary]
  | cleaned hwritten hremove =>
      rw [Directory.seen_remove hremove, Function.update_of_ne htemporary,
        hwritten.seen_written.2, Function.update_of_ne htemporary]

/-- Before the temporary file is written and after it is removed, there is no name that
    was not there. -/
theorem names_subset (h : Reaches before temporary key bytes stage after)
    (hwritten : stage ≠ .written) (hpublished : stage ≠ .published) :
    after.names ⊆ before.names := by
  intro name hname
  obtain ⟨node, hnode⟩ := Directory.mem_names_iff.mp hname
  rw [Directory.mem_names_iff]
  -- All names but the temporary one are seen as before.
  by_cases htemporary : name = temporary
  · subst htemporary
    cases h with
    | untouched => exact ⟨node, hnode⟩
    | made hcreate => exact ⟨node, Directory.seen_create hcreate ▸ hnode⟩
    | written => exact absurd rfl hwritten
    | published => exact absurd rfl hpublished
    | cleaned _ hremove =>
        rw [Directory.seen_remove hremove, Function.update_self] at hnode
        cases hnode
  · exact ⟨node, h.seen_eq htemporary (absurd · hpublished) ▸ hnode⟩

/-- With no room for the temporary name, a write ends as soon as there is a directory. -/
theorem eq_or_created (h : Reaches before temporary key bytes stage after)
    (hname : ¬Directory.IsName temporary) :
    after = before ∨ before = .missing ∧ after = .present [] := by
  cases h with
  | untouched => exact Or.inl rfl
  | made hcreate =>
      cases before with
      | missing => exact Or.inr ⟨rfl, (Except.ok.inj hcreate).symm⟩
      | blocked => cases hcreate
      | present => exact Or.inl (Except.ok.inj hcreate).symm
  | written hmade hwrite => exact absurd (Reaches.written hmade hwrite).seen_written.1 hname
  | published hwritten => exact absurd hwritten.seen_written.1 hname
  | cleaned hwritten => exact absurd hwritten.seen_written.1 hname

end Reaches

section Write

variable {fate : DirectoryCall → Fate} {process : Nat} {key : String} {entry : CacheEntry}
  {disk : Disk}

/-- How a write can end: at one of its stages, and if it reports a failure, with the
    temporary file neither there nor under the key. A file that cannot be removed stays. -/
def EndsAtStage (fate : DirectoryCall → Fate) (before : Directory) (temporary key : String)
    (bytes : ByteArray) (answer? : Option (Except StorageError Unit)) (after : Disk) : Prop :=
  ∃ stage, Reaches before temporary key bytes stage after.directory
    ∧ ((∀ cause, fate .remove ≠ .refused cause) → ∀ fault, answer? = some (.error fault) →
        stage ≠ .written ∧ stage ≠ .published)

section EndsAtStage

variable {before : Directory} {temporary : String} {bytes : ByteArray} {stage : Stage}
  {answer? : Option (Except StorageError Unit)}

/-- Where there is no new file, any answer will do. -/
theorem EndsAtStage.of_stage (h : Reaches before temporary key bytes stage disk.directory)
    (hstage : stage ≠ .written ∧ stage ≠ .published) :
    EndsAtStage fate before temporary key bytes answer? disk :=
  ⟨stage, h, fun _ _ _ => hstage⟩

/-- Where no failure is reported, any stage will do. -/
theorem EndsAtStage.of_answer (h : Reaches before temporary key bytes stage disk.directory)
    (hanswer : ∀ fault, answer? ≠ some (.error fault)) :
    EndsAtStage fate before temporary key bytes answer? disk :=
  ⟨stage, h, fun _ fault hfault => absurd hfault (hanswer fault)⟩

/-- Once the temporary file is there, it is given the key or removed. -/
theorem leaves_publish (h : Reaches before temporary key bytes .written disk.directory) :
    Leaves (publish (Disk.fatedAccess fate) key temporary) disk
      (EndsAtStage fate before temporary key bytes) := by
  obtain ⟨hname, hseen⟩ := h.seen_written
  have hstopped : EndsAtStage fate before temporary key bytes none disk :=
    .of_answer h fun _ hfault => by cases hfault
  rw [publish]
  refine leaves_bind (leaves_meet (·.rename temporary key) (fun published hrename => ?_)
    (fun cause _ => ?_) hstopped)
  · refine leaves_pure (.of_answer (.published h hrename) fun fault hfault => ?_)
    cases hfault
  · refine leaves_bind (leaves_meet (·.remove temporary) (fun cleaned hremove => ?_)
      (fun cause hcause => ?_) hstopped)
    · exact leaves_pure (.of_stage (.cleaned h hremove) (by decide))
    · refine leaves_pure ⟨.written, h, fun hremoved => ?_⟩
      -- The file is there, so its removal has no reason to fail but that it was refused.
      obtain ⟨removed, hremove⟩ := Directory.exists_remove hname (by rw [hseen, Function.update_self])
      rcases hcause with hrefused | hfailed
      · exact absurd hrefused (hremoved cause)
      · cases hremove.symm.trans hfailed

end EndsAtStage

/-- A write ends at one of its stages. -/
theorem leaves_write :
    Leaves (write (Disk.fatedAccess fate) process key entry) disk
      (EndsAtStage fate disk.directory (temporaryName key process disk.nextTicket) key
        entry.text.toUTF8) := by
  let temporary := temporaryName key process disk.nextTicket
  rw [write]
  refine leaves_bind (leaves_meet Directory.create (fun created hcreate => ?_)
    (fun cause _ => ?_) (.of_stage .untouched (by decide)))
  · refine leaves_bind (leaves_ticket (leaves_bind (leaves_meet
      (·.write temporary entry.text.toUTF8) (fun written hwrite => ?_) (fun cause _ => ?_)
      (.of_stage (.made hcreate) (by decide)))))
    · exact leaves_publish (.written (.made hcreate) hwrite)
    · exact leaves_pure (.of_stage (.made hcreate) (by decide))
  · exact leaves_pure (.of_stage .untouched (by decide))

/-- So does one under a key that may be refused. -/
theorem leaves_set :
    Leaves ((cache (Disk.fatedAccess fate) process).set key entry) disk
      (EndsAtStage fate disk.directory (temporaryName key process disk.nextTicket) key
        entry.text.toUTF8) := by
  dsimp only [cache]
  rw [checked]
  split
  · exact leaves_write
  · exact leaves_pure (.of_stage .untouched (by decide))

/-- With every call carried out, a write does what it does on the directory itself. -/
theorem fatedAccess_carriedOut_write :
    write (Disk.fatedAccess fun _ => .carriedOut) process key entry
      = OptionT.lift (write Disk.access process key entry) := by
  -- Call by call, either both writes go on or both end here.
  rw [write, write, OptionT.lift_bind]
  refine bind_congr fun created => ?_
  rcases created with cause | ⟨⟨⟩⟩
  · rfl
  · dsimp only
    rw [OptionT.lift_bind]
    refine bind_congr fun ticket => ?_
    rw [OptionT.lift_bind]
    refine bind_congr fun written => ?_
    rcases written with cause | ⟨⟨⟩⟩
    · rfl
    · dsimp only
      rw [publish, publish, OptionT.lift_bind]
      refine bind_congr fun published => ?_
      rcases published with cause | ⟨⟨⟩⟩
      · dsimp only
        rw [OptionT.lift_bind]
        rfl
      · rfl

theorem fatedAccess_carriedOut_set (hfate : ∀ call, fate call = .carriedOut) :
    (cache (Disk.fatedAccess fate) process).set key entry
      = OptionT.lift ((cache Disk.access process).set key entry) := by
  obtain rfl : fate = fun _ => .carriedOut := funext hfate
  dsimp only [cache]
  rw [checked, checked]
  split
  · exact fatedAccess_carriedOut_write
  · rfl

end Write

section Found

variable {process : Nat} {key : String} {disk after : Disk}

/-- What is found under a key. -/
def found (process : Nat) (disk : Disk) (key : String) : Except StorageError (Option CacheEntry) :=
  (((cache Disk.access process).get key).run disk).1

/-- What reading a file comes to. -/
def contents (key : String) : Except FileError ByteArray → Except StorageError (Option CacheEntry)
  | .error .notFound => .ok none
  | .error cause => .error (.file key cause)
  | .ok bytes =>
      match CacheEntry.ofBytes bytes with
      | .ok entry => .ok (some entry)
      | .error fault => .error (.corrupt key fault.message)

/-- What is found is what the file of the key comes to. -/
theorem found_eq_contents (hvalid : isValidKey key = true) :
    found process disk key = contents key (disk.directory.read key) := by
  unfold found cache checked
  dsimp only
  rw [if_pos hvalid, read, run_bind_of_run (Disk.read_run _ key)]
  rcases disk.directory.read key with cause | bytes
  · cases cause <;> rfl
  · dsimp only [contents]
    cases CacheEntry.ofBytes bytes <;> rfl

theorem found_of_not_isValidKey (hkey : ¬isValidKey key = true) :
    found process disk key = .error (.invalidKey key) := by
  unfold found cache checked
  dsimp only
  rw [if_neg hkey]
  rfl

/-- Where the same is read, the same is found. -/
theorem found_congr
    (h : isValidKey key = true → after.directory.read key = disk.directory.read key) :
    found process after key = found process disk key := by
  by_cases hvalid : isValidKey key = true
  · rw [found_eq_contents hvalid, found_eq_contents hvalid, h hvalid]
  · rw [found_of_not_isValidKey hvalid, found_of_not_isValidKey hvalid]

/-- While there is no directory, nothing is found, however long the name. -/
theorem found_in_missing (hvalid : isValidKey key = true) (hname : Directory.nameFault? key = none)
    (hdirectory : disk.directory = .missing) : found process disk key = .ok none := by
  rw [found_eq_contents hvalid, hdirectory]
  simp only [Directory.read, Directory.entriesFor, hname, contents]

/-- A directory refuses a name that is too long. -/
theorem found_of_long {entries : List (String × Node)} (hvalid : isValidKey key = true)
    (hname : Directory.nameFault? key = none) (hlong : Directory.maxNameBytes < key.utf8ByteSize)
    (hdirectory : disk.directory = .present entries) :
    found process disk key = .error (.file key .nameTooLong) := by
  have hlength : Directory.lengthFault? key = some .nameTooLong := if_pos hlong
  rw [found_eq_contents hvalid, hdirectory]
  simp only [Directory.read, Directory.entriesFor, hname, hlength, contents]

/-- So creating the directory changes what is found under such a name, unless that is
    refused for itself. -/
theorem found_in_created (hlong : Directory.maxNameBytes < key.utf8ByteSize)
    (hmissing : disk.directory = .missing) (hcreated : after.directory = .present []) :
    found process after key = found process disk key
      ∨ found process disk key = .ok none
        ∧ found process after key = .error (.file key .nameTooLong) := by
  by_cases hvalid : isValidKey key = true
  · cases hname : Directory.nameFault? key with
    | some fault =>
        refine Or.inl (found_congr fun _ => ?_)
        simp only [hmissing, hcreated, Directory.read, Directory.entriesFor, hname]
    | none =>
        exact Or.inr ⟨found_in_missing hvalid hname hmissing,
          found_of_long hvalid hname hlong hcreated⟩
  · exact Or.inl (found_congr fun h => absurd h hvalid)

end Found

namespace Reaches

variable {process ticket : Nat} {key other : String} {bytes : ByteArray} {disk after : Disk}
  {stage : Stage}

/-- At every stage a key finds what it found, unless it is the one that the text has
    been given. No key is the temporary name, so that one is never asked for. -/
theorem found_eq
    (h : Reaches disk.directory (temporaryName key process ticket) key bytes stage after.directory)
    (hshort : other.utf8ByteSize ≤ Directory.maxNameBytes)
    (hkey : stage = .published → other ≠ key) :
    found process after other = found process disk other := by
  refine found_congr fun hvalid => Directory.read_congr hshort (h.seen_eq ?_ hkey)
  rintro rfl
  rw [isValidKey_temporaryName] at hvalid
  cases hvalid

/-- The key itself finds what it found, or the whole text, or that its name is too long
    for the new directory. -/
theorem found_key
    (h : Reaches disk.directory (temporaryName key process ticket) key bytes stage
      after.directory) :
    found process after key = found process disk key
      ∨ found process after key = contents key (.ok bytes)
      ∨ Directory.maxNameBytes < key.utf8ByteSize ∧ disk.directory = .missing
        ∧ after.directory = .present [] ∧ found process disk key = .ok none
        ∧ found process after key = .error (.file key .nameTooLong) := by
  by_cases hshort : key.utf8ByteSize ≤ Directory.maxNameBytes
  · by_cases hpublished : stage = .published
    · subst hpublished
      obtain ⟨hname, hseen⟩ := h.seen_published
      by_cases hvalid : isValidKey key = true
      · exact Or.inr (Or.inl (by rw [found_eq_contents hvalid, Directory.read_of_seen hname hseen]))
      · exact Or.inl (found_congr fun hkey => absurd hkey hvalid)
    · exact Or.inl (h.found_eq hshort (absurd · hpublished))
  · -- The temporary name is longer still, so there is never a file under it.
    have hlong : ¬Directory.IsName (temporaryName key process ticket) := fun hname =>
      hshort (Nat.le_trans (utf8ByteSize_le_temporaryName key process ticket) hname.short)
    have hlength := Nat.lt_of_not_le hshort
    rcases h.eq_or_created hlong with hsame | ⟨hmissing, hcreated⟩
    · exact Or.inl (found_congr fun _ => by rw [hsame])
    · rcases found_in_created hlength hmissing hcreated with hsame | ⟨hnone, hrefused⟩
      · exact Or.inl hsame
      · exact Or.inr (Or.inr ⟨hlength, hmissing, hcreated, hnone, hrefused⟩)

end Reaches

/-- What is found after a write that may fail or be stopped. If every call is carried
    out, the run is that of the write itself. If it reports a failure, every name that is
    not a temporary one stands for what it did, no name is new, and every key finds what
    it found, provided that removing the temporary file is not refused. Wherever it ends,
    every other key finds what it found, and the key itself finds that or the complete
    new text. Only keys too long for a file can tell that the directory was created. -/
theorem failed_or_stopped_write_keeps_entries (process : Nat) (disk : Disk) (key : String)
    (entry : CacheEntry) (fate : DirectoryCall → Fate) :
    let plain := ((cache Disk.access process).set key entry).run disk
    let run := ((cache (Disk.fatedAccess fate) process).set key entry).run.run disk
    ((∀ call, fate call = .carriedOut) → run = (some plain.1, plain.2))
      ∧ ((∀ cause, fate .remove ≠ .refused cause) → ∀ fault, run.1 = some (.error fault) →
        (∀ name, ¬temporaryEnding.toList <:+ name.toList →
          run.2.directory.seen name = disk.directory.seen name)
        ∧ run.2.directory.names ⊆ disk.directory.names
        ∧ ∀ other, other.utf8ByteSize ≤ Directory.maxNameBytes →
          found process run.2 other = found process disk other)
      ∧ (∀ other, other ≠ key → other.utf8ByteSize ≤ Directory.maxNameBytes →
        found process run.2 other = found process disk other)
      ∧ (found process run.2 key = found process disk key
        ∨ found process run.2 key = contents key (.ok entry.text.toUTF8)
        ∨ Directory.maxNameBytes < key.utf8ByteSize ∧ disk.directory = .missing
          ∧ run.2.directory = .present [] ∧ found process disk key = .ok none
          ∧ found process run.2 key = .error (.file key .nameTooLong)) := by
  intro plain run
  have hends : EndsAtStage fate disk.directory (temporaryName key process disk.nextTicket) key
      entry.text.toUTF8 run.1 run.2 := leaves_set
  -- The stage at which the write ended tells what is seen of it.
  obtain ⟨stage, hstage, hfailed⟩ := hends
  refine ⟨fun hfate => ?_, fun hremove fault hfault => ?_,
    fun other hother hshort => hstage.found_eq hshort fun _ => hother, hstage.found_key⟩
  · change ((cache (Disk.fatedAccess fate) process).set key entry).run.run disk = _
    rw [fatedAccess_carriedOut_set hfate]
    rfl
  · -- A write that reports a failure has not published anything, nor left anything behind.
    obtain ⟨hwritten, hpublished⟩ := hfailed hremove fault hfault
    refine ⟨fun name hname => hstage.seen_eq ?_ (absurd · hpublished),
      hstage.names_subset hwritten hpublished,
      fun other hshort => hstage.found_eq hshort (absurd · hpublished)⟩
    rintro rfl
    exact hname (suffix_temporaryName key process disk.nextTicket)

/-- So that what a cache answers can be compared. -/
instance decidableEqExcept {ε α : Type} [DecidableEq ε] [DecidableEq α] :
    DecidableEq (Except ε α)
  | .error e, .error f => decidable_of_iff (e = f) (by rw [Except.error.injEq])
  | .ok a, .ok b => decidable_of_iff (a = b) (by rw [Except.ok.injEq])
  | .error _, .ok _ | .ok _, .error _ => isFalse (by intro h; cases h)

/-- A folder stands where the entry should go, so giving it its name fails, and the
    temporary file is removed again. -/
theorem write_over_folder_keeps_entries :
    let entry := CacheEntry.ofData (.obj [])
    let disk : Disk :=
      ⟨.present [("folder", .folder []), ("other", .file entry.text.toUTF8)], 0⟩
    let run := ((cache (Disk.fatedAccess fun _ => .carriedOut) 7).set "folder" entry).run.run disk
    run.1 = some (.error (.file "folder" .isDirectory))
      ∧ run.2.directory.seen "other" = .ok (some (.file entry.text.toUTF8))
      ∧ run.2.directory.names ⊆ ["folder", "other"]
      ∧ found 7 run.2 "folder" = .error (.file "folder" .isDirectory)
      ∧ found 7 run.2 "other" = .ok (some entry) := by
  intro entry disk run
  obtain ⟨hplain, hfailed, hother, _⟩ := failed_or_stopped_write_keeps_entries 7 disk "folder" entry
    fun _ => .carriedOut
  have hrun : run.1 = some (.error (.file "folder" .isDirectory)) :=
    (congrArg Prod.fst (hplain fun _ => rfl)).trans (by decide +kernel)
  obtain ⟨hseen, hnames, hfound⟩ := hfailed (fun _ hfate => by cases hfate) _ hrun
  have hfolder : found 7 disk "folder" = .error (.file "folder" .isDirectory) := by
    decide +kernel
  have hentry : found 7 disk "other" = .ok (some entry) := by decide +kernel
  exact ⟨hrun, hseen "other" (by decide), hnames, (hfound "folder" (by decide)).trans hfolder,
    (hother "other" (by decide) (by decide)).trans hentry⟩

/-- A process that stops after it has created the directory: the key is too long for a
    file, and asking for it no longer finds nothing but fails. -/
theorem stopped_write_is_seen_under_long_key :
    let key := String.ofList (List.replicate 256 'k')
    let entry := CacheEntry.ofData (.obj [])
    let fate : DirectoryCall → Fate := fun call =>
      if call = .write then .stopped else .carriedOut
    let run := ((cache (Disk.fatedAccess fate) 7).set key entry).run.run Disk.blank
    run.1 = none ∧ isValidKey key = true
      ∧ ¬(found 7 run.2 key = found 7 Disk.blank key
        ∨ found 7 run.2 key = contents key (.ok entry.text.toUTF8)) := by
  intro key entry fate run
  have hlist : key.toList = List.replicate 256 'k' := String.toList_ofList
  have hvalid : isValidKey key = true := by
    rw [isValidKey, hlist]
    decide +kernel
  have hname : Directory.nameFault? key = none := by
    rw [Directory.nameFault?, hlist]
    decide +kernel
  have hlong : Directory.maxNameBytes < key.utf8ByteSize := by decide +kernel
  have hrun : run = (none, ⟨.present [], 1⟩) := by
    dsimp only [run, cache]
    rw [checked, if_pos hvalid]
    rfl
  have hbefore : found 7 Disk.blank key = .ok none := found_in_missing hvalid hname rfl
  have hafter : found 7 run.2 key = .error (.file key .nameTooLong) :=
    found_of_long hvalid hname hlong (congrArg (fun outcome => outcome.2.directory) hrun)
  refine ⟨congrArg Prod.fst hrun, hvalid, ?_⟩
  rw [hbefore, hafter, contents]
  rintro (h | h)
  · cases h
  · split at h <;> cases h

end FileCache

end Decisioning
