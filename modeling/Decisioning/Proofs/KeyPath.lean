import Decisioning.Proofs.FileCache
import Decisioning.Proofs.PathComponents
import Decisioning.Proofs.ReservedKey

/-!
# Keys, Paths and Temporary Names

Why a cache in a directory keeps to files of its own.

A key is any text, and it becomes the name of a file. Either it is refused, and then
nothing is asked of the directory, or its path is that of the directory with the key as
one more component. The path cannot lead anywhere but one step below the directory,
since the key has no slash and is not one of the two names that mean a step of another
kind.

Temporary names have to be kept apart from keys and from each other. No key ends as
they do, so no temporary name is a key. A key may have dots and digits anywhere, and
read from the left a temporary name is ambiguous: it does not show where the key ends.
From the right it is not. Its pieces between dots are those of the key with three more
behind them, of which two are numbers, and a number has no dot.

## Main definitions

* `FileCache.IsRefused`: A key under which nothing is done.
* `FileCache.IsPlaced`: A key with a path of its own.

## Theorems

* `FileCache.splitOn_temporaryName`: The pieces of a temporary name between dots.
* `FileCache.temporaryName_inj`: They determine the key and both numbers.
* `FileCache.isRefused_of_invalid`, `isPlaced_of_valid`: Every key is one or the other.
* `FileCache.keys_stay_in_directory`: Keys, paths and temporary names together.
-/

namespace Decisioning

namespace FileCache

open CommandLine (pathIn)

section TemporaryNames

/-- A number is read back from its digits, so its text shows it. -/
theorem eq_of_toList_toString {m n : Nat} (h : (toString m).toList = (toString n).toList) :
    m = n := by
  have hread : ∀ k : Nat, Nat.ofDigitChars 10 (toString k).toList 0 = k := fun k =>
    (congrArg (Nat.ofDigitChars 10 · 0) Nat.toList_repr).trans Nat.ofDigitChars_ten_toDigits
  rw [← hread m, h, hread]

/-- Between its dots a temporary name has nothing, the pieces of the key, and three
    pieces more. -/
theorem splitOn_temporaryName (key : String) (process ticket : Nat) :
    (temporaryName key process ticket).toList.splitOn '.'
      = [] :: (key.toList.splitOn '.'
        ++ [(toString process).toList, (toString ticket).toList, "tmp".toList]) := by
  have hchars : (temporaryName key process ticket).toList
      = [] ++ '.' :: (key.toList ++ '.' :: ((toString process).toList
        ++ '.' :: ((toString ticket).toList ++ '.' :: "tmp".toList))) := by
    simp only [temporaryName, temporaryEnding, String.toList_append, List.append_assoc]
    rfl
  have hnumber : ∀ n : Nat, '.' ∉ (toString n).toList := fun n => notMem_toString (by decide) n
  -- Of the five pieces only the key may be split any further.
  rw [hchars]
  simp only [List.splitOn_append_cons_self, List.splitOn_eq_singleton (hnumber _),
    List.splitOn_nil]
  rfl

/-- Different keys, processes or tickets make different temporary names. -/
theorem temporaryName_inj {key other : String} {process process' ticket ticket' : Nat} :
    temporaryName key process ticket = temporaryName other process' ticket'
      ↔ key = other ∧ process = process' ∧ ticket = ticket' := by
  constructor
  · intro h
    have hpieces := congrArg (fun name => name.toList.splitOn '.') h
    rw [splitOn_temporaryName, splitOn_temporaryName] at hpieces
    -- The numbers are found from the right, wherever the key has dots.
    obtain ⟨hkey, hnumbers⟩ := List.append_inj' (List.cons.inj hpieces).2 rfl
    obtain ⟨hprocess, hrest⟩ := List.cons.inj hnumbers
    obtain ⟨hticket, _⟩ := List.cons.inj hrest
    -- With its dots back, what is left is the key.
    have hdots : ∀ text : String, List.intercalate ['.'] (text.toList.splitOn '.') = text.toList :=
      fun _ => List.intercalate_splitOn '.'
    have hchars : key.toList = other.toList := by rw [← hdots key, hkey, hdots]
    exact ⟨String.toList_inj.mp hchars, eq_of_toList_toString hprocess,
      eq_of_toList_toString hticket⟩
  · rintro ⟨rfl, rfl, rfl⟩
    rfl

/-- The names that mean a step of another kind do not end as temporary names do. -/
theorem isPlainName_temporaryName {key : String} (h : '/' ∉ key.toList) (process ticket : Nat) :
    Path.IsPlainName (temporaryName key process ticket) := by
  have hother : ∀ name : String, ¬temporaryEnding.toList <:+ name.toList →
      temporaryName key process ticket ≠ name := by
    rintro name hname rfl
    exact hname (suffix_temporaryName key process ticket)
  exact ⟨hother _ (by decide), notMem_temporaryName h (by decide) (by decide) process ticket,
    hother _ (by decide), hother _ (by decide)⟩

end TemporaryNames

/-- A key that has no path, and under which every operation is refused with nothing
    else done, whatever the directory. -/
structure IsRefused (key : String) : Prop where
  path : ∀ directory, pathFor directory key = .error (.invalidKey key)
  get : ∀ {m : Type → Type} [Monad m] (access : DirectoryAccess m) (process : Nat),
    (cache access process).get key = pure (.error (.invalidKey key))
  set : ∀ {m : Type → Type} [Monad m] (access : DirectoryAccess m) (process : Nat) entry,
    (cache access process).set key entry = pure (.error (.invalidKey key))
  remove : ∀ {m : Type → Type} [Monad m] (access : DirectoryAccess m) (process : Nat),
    (cache access process).remove key = pure (.error (.invalidKey key))

/-- A key whose path is that of the directory with the key behind it, both as components
    and as the text that is given to the system. So are the paths of its temporary
    files. -/
structure IsPlaced (key : String) : Prop where
  name : Path.IsPlainName key
  path : ∀ directory, pathFor directory key = .ok (directory ++ [key])
  components : ∀ directory,
    Path.components (pathIn directory key) = Path.components directory ++ [key]
  temporary : ∀ directory process ticket,
    Path.components (pathIn directory (temporaryName key process ticket))
      = Path.components directory ++ [temporaryName key process ticket]
  /-- Following the path leads one step below the folder that the directory is. -/
  place : ∀ (tree : FileTree) directory place, tree.locate (pathIn directory key) = .ok place
    ↔ Directory.nameFault? (pathIn directory key) = none ∧ Directory.lengthFault? key = none
      ∧ ∃ folder entries, tree.locate directory = .ok folder
        ∧ tree.find? folder = some (.folder entries) ∧ place = folder ++ [key]

section Keys

variable {key : String}

theorem isRefused_of_invalid (h : isValidKey key = false) : IsRefused key where
  path _ := if_neg (Bool.eq_false_iff.mp h)
  get access _ := checked_of_invalid h (read access key)
  set access process entry := checked_of_invalid h (write access process key entry)
  remove access _ := checked_of_invalid h (delete access key)

theorem isPlainName_of_valid (h : isValidKey key = true) : Path.IsPlainName key := by
  obtain ⟨hempty, hslash, _, hfree⟩ := (isValidKey_iff key).mp h
  exact ⟨hempty, hslash, fun hdot => hfree (Or.inl hdot), fun hdots => hfree (Or.inr (Or.inl hdots))⟩

theorem isPlaced_of_valid (h : isValidKey key = true) : IsPlaced key where
  name := isPlainName_of_valid h
  path _ := if_pos h
  components := Path.components_pathIn (isPlainName_of_valid h)
  temporary directory process ticket :=
    Path.components_pathIn
      (isPlainName_temporaryName (isPlainName_of_valid h).slash_notMem process ticket) directory
  place _ _ _ := FileTree.locate_pathIn_iff (isPlainName_of_valid h)

/-- The keys with a path are the valid ones. -/
theorem isPlaced_iff : IsPlaced key ↔ isValidKey key = true :=
  ⟨fun h => (exists_pathFor_iff [] key).mp ⟨_, h.path []⟩, isPlaced_of_valid⟩

/-- A path shows its key. -/
theorem eq_of_pathFor {directory path : List String} {other : String}
    (hkey : pathFor directory key = .ok path) (hother : pathFor directory other = .ok path) :
    key = other := by
  have happend : ∀ {k : String}, pathFor directory k = .ok path → path = directory ++ [k] := by
    intro k hk
    have hplaced := isPlaced_of_valid ((exists_pathFor_iff directory k).mp ⟨path, hk⟩)
    rw [hplaced.path] at hk
    exact (Except.ok.inj hk).symm
  have hsame := (happend hkey).symm.trans (happend hother)
  exact List.singleton_inj.mp (List.append_cancel_left hsame)

end Keys

/-- Every key is refused without anything done, or its path is that of the directory
    with the key as one more component; the latter exactly if it is not empty, has no
    separator and is not reserved. Different keys have different paths. No temporary
    name is a key, and two of them are equal only if they are made of the same key,
    process and ticket. -/
theorem keys_stay_in_directory :
    (∀ key, (IsRefused key ∨ IsPlaced key)
        ∧ (IsPlaced key
          ↔ key ≠ "" ∧ '/' ∉ key.toList ∧ '\\' ∉ key.toList ∧ ¬IsReserved key))
      ∧ (∀ directory key other path, key ≠ other → pathFor directory key = .ok path →
        pathFor directory other ≠ .ok path)
      ∧ (∀ key process ticket, IsRefused (temporaryName key process ticket))
      ∧ ∀ key other process process' ticket ticket',
        temporaryName key process ticket = temporaryName other process' ticket'
          ↔ key = other ∧ process = process' ∧ ticket = ticket' := by
  refine ⟨fun key => ⟨?_, isPlaced_iff.trans (isValidKey_iff key)⟩,
    fun directory key other path hne hkey hother => hne (eq_of_pathFor hkey hother),
    fun key process ticket => isRefused_of_invalid (isValidKey_temporaryName key process ticket),
    fun _ _ _ _ _ _ => temporaryName_inj⟩
  -- A key is refused before anything is done, or it is a plain name.
  cases hvalid : isValidKey key with
  | false => exact Or.inl (isRefused_of_invalid hvalid)
  | true => exact Or.inr (isPlaced_of_valid hvalid)

/-- A key that looks like the start of a temporary name, in a directory whose path has
    slashes and a dot to spare. -/
theorem dotted_key_stays_in_directory :
    let key := ".k.7.0"
    let tree : FileTree :=
      { entries := [("cache", .folder [])], workingDirectory := [], nextTicket := 0 }
    pathFor ["cache"] key = .ok ["cache", key]
      ∧ key ≠ "k" ∧ pathFor ["cache"] "k" ≠ .ok ["cache", key]
      ∧ Path.components (pathIn "./cache//" key) = [".", "cache", key]
      ∧ tree.locate (pathIn "./cache//" key) = .ok ["cache", key]
      ∧ temporaryName "k" 7 0 = key ++ ".tmp" ∧ IsRefused (key ++ ".tmp")
      ∧ temporaryName "k.1" 2 3 ≠ temporaryName "k" 1 23 := by
  intro key tree
  obtain ⟨hkeys, hpaths, hrefused, hnames⟩ := keys_stay_in_directory
  have hplaced : IsPlaced key := (hkeys key).2.mpr (by decide)
  have hpath : pathFor ["cache"] key = .ok ["cache", key] := hplaced.path ["cache"]
  have hne : key ≠ "k" := by decide
  have htemporary : temporaryName "k" 7 0 = key ++ ".tmp" := by decide
  refine ⟨hpath, hne, hpaths _ _ _ _ hne hpath, ?_, ?_, htemporary, htemporary ▸ hrefused "k" 7 0,
    fun heq => absurd ((hnames _ _ _ _ _ _).mp heq) (by decide)⟩
  · rw [hplaced.components]
    have hdirectory : Path.components "./cache//" = [".", "cache"] := by decide +kernel
    rw [hdirectory]
    rfl
  · have hfolder : tree.locate "./cache//" = .ok ["cache"] := by with_unfolding_all rfl
    exact (hplaced.place tree _ _).mpr
      ⟨by decide +kernel, by decide, ["cache"], [], hfolder, rfl, rfl⟩

end FileCache

end Decisioning
