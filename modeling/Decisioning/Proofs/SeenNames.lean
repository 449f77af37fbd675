import Decisioning.Cache.Directory
import Decisioning.Proofs.Directory
import Mathlib.Logic.Function.Basic

/-!
# Names in Any Directory

What the operations on a directory do, whatever stands in it.

A directory may have folders in it and files that nobody here has written, it may be
missing, and something else may stand in its place. What can be told of it is what is
seen under each name, and that is all that reading depends on, up to the length of
names: in a missing directory a name of any length finds nothing. Each operation that
succeeds changes what is seen under the names that it is about, and under no other.

## Main definitions

* `Directory.seen`: What stands under a name.

## Theorems

* `Directory.mem_names_iff`: The names of a directory are those that something is seen
  under.
* `Directory.seen_create`, `seen_write`, `seen_rename`, `seen_remove`: What is seen after
  an operation.
* `Directory.exists_remove`: A file that is seen can be removed.
* `Directory.read_congr`: Reading depends on what is seen.
-/

namespace Decisioning

/-- A key is found exactly if an entry has it. -/
theorem exists_lookup?_iff {α : Type} (key : String) (entries : List (String × α)) :
    (∃ a, lookup? key entries = some a) ↔ key ∈ entries.map Prod.fst := by
  induction entries with
  | nil =>
      simp only [lookup?, List.map_nil, List.not_mem_nil, iff_false]
      rintro ⟨_, h⟩
      cases h
  | cons entry rest ih =>
      obtain ⟨k, a⟩ := entry
      rw [List.map_cons, List.mem_cons, ← ih, lookup?]
      by_cases hk : key = k
      · rw [if_pos hk]
        exact ⟨fun _ => Or.inl hk, fun _ => ⟨a, rfl⟩⟩
      · rw [if_neg hk]
        exact ⟨Or.inr, fun h => h.resolve_left hk⟩

namespace Directory

/-- What stands under a name, if the directory can be looked at. -/
def seen (directory : Directory) (name : String) : Except FileError (Option Node) :=
  match directory with
  | .missing => .ok none
  | .blocked cause => .error cause
  | .present entries => .ok (lookup? name entries)

variable {directory after : Directory} {name : String}

theorem mem_names_iff : name ∈ directory.names ↔ ∃ node, directory.seen name = .ok (some node) := by
  cases directory with
  | missing | blocked =>
      simp only [names, seen, List.not_mem_nil, reduceCtorEq, Except.ok.injEq, exists_false]
  | present entries =>
      simp only [names, seen, Except.ok.injEq]
      exact (exists_lookup?_iff name entries).symm

/-- An operation gets to the entries only if there is a directory and the name can be
    one of a file. -/
theorem of_entriesFor {entries : List (String × Node)} (h : directory.entriesFor name = .ok entries) :
    directory = .present entries ∧ IsName name := by
  unfold entriesFor at h
  split at h
  · cases h
  · cases h
  · cases h
  · rename_i hname
    split at h
    · cases h
    · rename_i hlength
      exact ⟨congrArg present (Except.ok.inj h), ((nameFault?_eq_none_iff name).mp hname).1,
        (lengthFault?_eq_none_iff name).mp hlength⟩

/-- A directory that has just been made looks like one that is missing. -/
theorem seen_create (h : directory.create = .ok after) : after.seen = directory.seen := by
  cases directory with
  | missing =>
      cases h
      rfl
  | blocked => cases h
  | present entries =>
      cases h
      rfl

/-- After a file was written, it is seen. -/
theorem seen_write {bytes : ByteArray} (h : directory.write name bytes = .ok after) :
    IsName name ∧ after.seen = Function.update directory.seen name (.ok (some (.file bytes))) := by
  unfold write at h
  split at h
  · cases h
  · rename_i entries hentries
    obtain ⟨rfl, hname⟩ := of_entriesFor hentries
    refine ⟨hname, ?_⟩
    have hafter : after = .present (insertEntry name (.file bytes) entries) := by
      split at h
      · cases h
      · exact (Except.ok.inj h).symm
    funext other
    rw [hafter, Function.update_apply, seen, lookup?_insertEntry, apply_ite Except.ok]
    rfl

/-- After something got a new name, it is seen there and no longer under the old one. -/
theorem seen_rename {target : String} (h : directory.rename name target = .ok after) :
    IsName target ∧ ∃ node, directory.seen name = .ok (some node)
      ∧ after.seen = Function.update (Function.update directory.seen name (.ok none)) target
        (.ok (some node)) := by
  unfold rename at h
  split at h
  · cases h
  · cases h
  · rename_i entries _ hentries htarget
    obtain ⟨rfl, _⟩ := of_entriesFor hentries
    refine ⟨(of_entriesFor htarget).2, ?_⟩
    split at h
    · cases h
    · cases h
    · rename_i node hnode _
      have hafter := (Except.ok.inj h).symm
      refine ⟨node, congrArg Except.ok hnode, ?_⟩
      funext other
      simp only [hafter, Function.update_apply, seen, lookup?_insertEntry, lookup?_eraseEntry,
        apply_ite Except.ok]

/-- After a file was removed, nothing is seen under its name. -/
theorem seen_remove (h : directory.remove name = .ok after) :
    after.seen = Function.update directory.seen name (.ok none) := by
  unfold remove at h
  split at h
  · cases h
  · rename_i entries hentries
    obtain ⟨rfl, _⟩ := of_entriesFor hentries
    split at h
    · cases h
    · cases h
    · have hafter := (Except.ok.inj h).symm
      funext other
      simp only [hafter, Function.update_apply, seen, lookup?_eraseEntry, apply_ite Except.ok]

/-- What is seen to be a file can be removed. -/
theorem exists_remove (hname : IsName name) {bytes : ByteArray}
    (h : directory.seen name = .ok (some (.file bytes))) :
    ∃ removed, directory.remove name = .ok removed := by
  cases directory with
  | missing | blocked => cases h
  | present entries =>
      have hentries : (present entries).entriesFor name = .ok entries := by
        unfold entriesFor
        simp only [hname.nameFault?, hname.lengthFault?]
      have hlookup : lookup? name entries = some (.file bytes) := Except.ok.inj h
      refine ⟨.present (eraseEntry name entries), ?_⟩
      unfold remove
      simp only [hentries, hlookup]

/-- Reading under a name that is not too long looks at what is seen there. -/
theorem read_eq_seen (hshort : name.utf8ByteSize ≤ maxNameBytes) :
    directory.read name
      = match nameFault? name, directory.seen name with
        | some fault, _ => .error fault
        | none, .error cause => .error cause
        | none, .ok none => .error .notFound
        | none, .ok (some (.folder _)) => .error .isDirectory
        | none, .ok (some (.file bytes)) => .ok bytes := by
  have hlength : lengthFault? name = none := if_neg (Nat.not_lt.mpr hshort)
  unfold read entriesFor
  cases nameFault? name with
  | some fault => rfl
  | none =>
      cases directory with
      | missing | blocked => rfl
      | present entries =>
          simp only [hlength, seen]
          rcases lookup? name entries with _ | ⟨bytes⟩ | ⟨inner⟩ <;> rfl

/-- Where the same is seen, the same is read. -/
theorem read_congr (hshort : name.utf8ByteSize ≤ maxNameBytes)
    (h : after.seen name = directory.seen name) : after.read name = directory.read name := by
  rw [read_eq_seen hshort, read_eq_seen hshort, h]

/-- What is seen to be a file is read. -/
theorem read_of_seen (hname : IsName name) {bytes : ByteArray}
    (h : directory.seen name = .ok (some (.file bytes))) : directory.read name = .ok bytes := by
  rw [read_eq_seen hname.short, h, hname.nameFault?]

end Directory

end Decisioning
