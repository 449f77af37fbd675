import Decisioning.Main
import Decisioning.Proofs.Directory

/-!
# Paths and Their Components

What a name adds to the path of a directory.

A path is a text, and a name is put behind it with a slash in between. What the path
then means is not plain from the text: slashes may be doubled, a dot among the names
stays where it is, two dots go back, and a path that starts with a slash starts
elsewhere. A name that is none of this adds exactly one component, whatever stands
before it.

The same is seen by following the path in a tree. It leads one step below the folder
that the directory's path leads to, and nowhere if that is no folder. A slash at the
end of the directory's path asks for a folder as well, which is why it makes no
difference.

## Main definitions

* `Path.IsPlainName`: A name that is a component of its own and leads one step down.
* `Path.components`: The components of a path.

## Theorems

* `Path.pathIn_cases`: Where the slash in front of a name comes from.
* `FileTree.exists_piecesOf_pathIn`: What stands between the slashes of such a path.
* `Path.components_pathIn`: A plain name adds one component.
* `FileTree.walk_append`: Going through steps in two parts.
* `FileTree.locate_pathIn_iff`: The place that such a path leads to.
-/

namespace Decisioning

open CommandLine (pathIn)

namespace Path

/-- A name that is a component of its own and leads one step down. -/
structure IsPlainName (name : String) : Prop where
  ne_empty : name ≠ ""
  slash_notMem : '/' ∉ name.toList
  ne_dot : name ≠ "."
  ne_dots : name ≠ ".."

/-- The components of a path, the root being a slash. A dot is one only at the start of
    a path that does not start at the root. -/
def components (path : String) : List String :=
  let names := FileTree.namesOf path
  if path.startsWith "/" then "/" :: names.filter (· ≠ ".")
  else names.take 1 ++ (names.drop 1).filter (· ≠ ".")

section Text

variable {name : String}

theorem endsWith_slash_iff (path : String) :
    path.endsWith "/" = true ↔ ∃ start, path = start ++ "/" := by
  rw [String.endsWith_eq_endsWith_toSlice, String.Slice.endsWith_string_iff,
    String.copy_toSlice]
  constructor
  · rintro ⟨start, hstart⟩
    refine ⟨String.ofList start, String.toList_inj.mp ?_⟩
    rw [String.toList_append, String.toList_ofList, hstart]
  · rintro ⟨start, rfl⟩
    exact ⟨start.toList, String.toList_append.symm⟩

theorem startsWith_slash_iff (path : String) :
    path.startsWith "/" = true ↔ path.toList.head? = some '/' := by
  rw [String.startsWith_string_iff]
  cases path.toList with
  | nil => exact ⟨nofun, nofun⟩
  | cons c rest =>
      rw [List.head?_cons, Option.some.injEq]
      exact ⟨fun h => (List.cons_prefix_cons.mp h).1.symm,
        fun h => List.cons_prefix_cons.mpr ⟨h.symm, List.nil_prefix⟩⟩

/-- A name stands alone, or behind a slash that was there, or behind one put in. -/
theorem pathIn_cases (directory name : String) :
    (directory = "" ∧ pathIn directory name = name)
      ∨ (∃ start, directory = start ++ "/" ∧ pathIn directory name = start ++ "/" ++ name)
      ∨ (directory ≠ "" ∧ pathIn directory name = directory ++ "/" ++ name) := by
  unfold pathIn
  by_cases hempty : directory = ""
  · subst hempty
    exact Or.inl ⟨rfl, String.empty_append⟩
  · by_cases hslash : directory.endsWith "/" = true
    · obtain ⟨start, rfl⟩ := (endsWith_slash_iff directory).mp hslash
      refine Or.inr (Or.inl ⟨start, rfl, if_pos ?_⟩)
      rw [hslash, Bool.or_true]
    · refine Or.inr (Or.inr ⟨hempty, if_neg ?_⟩)
      rw [Bool.or_eq_true, String.isEmpty_iff]
      exact not_or.mpr ⟨hempty, hslash⟩

/-- Where a path starts is decided by its first character. -/
theorem startsWith_slash_append {start : String} (hstart : start ≠ "") (rest : String) :
    (start ++ rest).startsWith "/" = start.startsWith "/" := by
  obtain ⟨c, cs, hchars⟩ := List.exists_cons_of_ne_nil
    fun hnil => hstart (String.toList_eq_nil_iff.mp hnil)
  rw [Bool.eq_iff_iff, startsWith_slash_iff, startsWith_slash_iff, String.toList_append, hchars,
    List.cons_append, List.head?_cons, List.head?_cons]

/-- Behind a directory, a name has no say in whether the path starts at the root. -/
theorem startsWith_slash_pathIn (directory : String) (h : '/' ∉ name.toList) :
    (pathIn directory name).startsWith "/" = directory.startsWith "/" := by
  rcases pathIn_cases directory name with ⟨rfl, hpath⟩ | ⟨start, rfl, hpath⟩ | ⟨hne, hpath⟩
  · -- Alone it would have, but for the slash that it does not have.
    rw [hpath, Bool.eq_iff_iff, startsWith_slash_iff, startsWith_slash_iff]
    exact ⟨fun hhead => absurd (List.mem_of_mem_head? hhead) h, nofun⟩
  · have hne : start ++ "/" ≠ "" := fun hempty =>
      absurd (String.append_eq_empty_iff.mp hempty).2 (by decide)
    rw [hpath, startsWith_slash_append hne]
  · rw [hpath, String.append_assoc, startsWith_slash_append hne]

end Text

end Path

namespace FileTree

section Pieces

variable {name : String}

/-- A slash parts what is before it from what is behind it. -/
theorem piecesOf_append_slash (start rest : String) :
    piecesOf (start ++ "/" ++ rest) = piecesOf start ++ piecesOf rest := by
  have hchars : (start ++ "/" ++ rest).toList = start.toList ++ '/' :: rest.toList := by
    rw [String.toList_append, String.toList_append, List.append_assoc]
    rfl
  rw [piecesOf, hchars, List.splitOn_append_cons_self, List.map_append]
  rfl

theorem piecesOf_of_slash_notMem (h : '/' ∉ name.toList) : piecesOf name = [name] := by
  rw [piecesOf, List.splitOn_eq_singleton h, List.map_singleton, String.ofList_toList]

/-- A name without a slash is the last piece. The pieces before it have the names that
    the directory's path has, which may have an empty piece more. -/
theorem exists_piecesOf_pathIn (directory : String) (h : '/' ∉ name.toList) :
    ∃ before, piecesOf (pathIn directory name) = before ++ [name]
      ∧ before.filter (!·.isEmpty) = namesOf directory := by
  rcases Path.pathIn_cases directory name with ⟨rfl, hpath⟩ | ⟨start, rfl, hpath⟩ | ⟨_, hpath⟩
  · refine ⟨[], ?_, rfl⟩
    rw [hpath, piecesOf_of_slash_notMem h]
    rfl
  · refine ⟨piecesOf start, ?_, ?_⟩
    · rw [hpath, piecesOf_append_slash, piecesOf_of_slash_notMem h]
    · -- The slash at the end parts off an empty piece, which is no name.
      have hend : piecesOf (start ++ "/") = piecesOf start ++ [""] := by
        have := piecesOf_append_slash start ""
        rwa [String.append_empty] at this
      rw [namesOf, hend, List.filter_append]
      exact (List.append_nil _).symm
  · refine ⟨piecesOf directory, ?_, rfl⟩
    rw [hpath, piecesOf_append_slash, piecesOf_of_slash_notMem h]

variable (hname : Path.IsPlainName name)
include hname

/-- A plain name is one more name. -/
theorem namesOf_pathIn (directory : String) :
    namesOf (pathIn directory name) = namesOf directory ++ [name] := by
  obtain ⟨before, hpieces, hbefore⟩ := exists_piecesOf_pathIn directory hname.slash_notMem
  have hkept : [name].filter (!·.isEmpty) = [name] := by
    refine List.filter_cons_of_pos ?_
    rw [Bool.not_eq_true', ← Bool.not_eq_true, String.isEmpty_iff]
    exact hname.ne_empty
  rw [namesOf, hpieces, List.filter_append, hbefore, hkept]

/-- It is the last step. -/
theorem stepsOf_pathIn (directory : String) :
    stepsOf (pathIn directory name) = namesOf directory ++ [name] := by
  obtain ⟨before, hpieces, _⟩ := exists_piecesOf_pathIn directory hname.slash_notMem
  have hlast : (before ++ [name]).getLast? ≠ some "" := by
    rw [List.getLast?_concat, ne_eq, Option.some.injEq]
    exact hname.ne_empty
  rw [stepsOf, namesOf_pathIn hname, hpieces, decide_eq_false hlast, Bool.and_false]
  exact List.append_nil _

end Pieces

end FileTree

namespace Path

/-- A plain name adds itself as one component to any path. -/
theorem components_pathIn {name : String} (hname : IsPlainName name) (directory : String) :
    components (pathIn directory name) = components directory ++ [name] := by
  have hkept : [name].filter (· ≠ ".") = [name] :=
    List.filter_cons_of_pos (decide_eq_true hname.ne_dot)
  unfold components
  dsimp only
  rw [startsWith_slash_pathIn directory hname.slash_notMem, FileTree.namesOf_pathIn hname]
  by_cases hroot : directory.startsWith "/" = true
  · rw [if_pos hroot, if_pos hroot, List.filter_append, hkept]
    rfl
  · rw [if_neg hroot, if_neg hroot]
    cases FileTree.namesOf directory with
    | nil => rfl
    | cons first rest =>
        -- The first name stays, even if it is a dot; the new one is among the others.
        change first :: (rest ++ [name]).filter (· ≠ ".") = _
        rw [List.filter_append, hkept]
        rfl

end Path

namespace FileTree

section Steps

variable {tree : FileTree} {here next : Place} {name : String}

/-- Going through steps is going through the first of them and on from there. -/
theorem walk_append (tree : FileTree) (here : Place) (first later : List String) :
    tree.walk here (first ++ later)
      = (tree.walk here first).bind fun next => tree.walk next later := by
  induction first generalizing here with
  | nil => rfl
  | cons name rest ih =>
      rw [List.cons_append, walk, walk]
      rcases tree.find? here with _ | ⟨⟨bytes⟩ | ⟨entries⟩⟩
      · rfl
      · rfl
      · dsimp only
        cases step here name with
        | error fault => rfl
        | ok next => exact ih next

/-- A single step succeeds from a folder only. -/
theorem walk_singleton_iff :
    tree.walk here [name] = .ok next
      ↔ ∃ entries, tree.find? here = some (.folder entries) ∧ step here name = .ok next := by
  rw [walk]
  rcases tree.find? here with _ | ⟨⟨bytes⟩ | ⟨entries⟩⟩
  · exact ⟨nofun, nofun⟩
  · exact ⟨nofun, nofun⟩
  · dsimp only
    rcases step here name with fault | after
    · exact ⟨nofun, nofun⟩
    · exact ⟨fun h => ⟨entries, rfl, h⟩, fun ⟨_, _, h⟩ => h⟩

/-- A plain name that is not too long leads one step down. -/
theorem step_iff (hname : Path.IsPlainName name) :
    step here name = .ok next
      ↔ Directory.lengthFault? name = none ∧ next = here ++ [name] := by
  rw [step, if_neg hname.ne_dot, if_neg hname.ne_dots]
  rcases Directory.lengthFault? name with _ | fault
  · exact ⟨fun h => ⟨rfl, (Except.ok.inj h).symm⟩, fun h => congrArg Except.ok h.2.symm⟩
  · exact ⟨nofun, nofun⟩

/-- That a path has a slash at its end only matters where no folder is. -/
theorem walk_stepsOf_iff {path : String} {entries : List (String × Node)}
    (hfolder : tree.find? next = some (.folder entries)) :
    tree.walk here (stepsOf path) = .ok next ↔ tree.walk here (namesOf path) = .ok next := by
  rw [stepsOf]
  split
  · -- The slash asks for one more step, which stays where it is.
    rw [walk_append]
    cases tree.walk here (namesOf path) with
    | error fault => exact ⟨nofun, nofun⟩
    | ok after =>
        change tree.walk after ["."] = .ok next ↔ _
        rw [walk_singleton_iff]
        constructor
        · rintro ⟨_, _, hstay⟩
          exact hstay
        · intro hafter
          cases hafter
          exact ⟨entries, hfolder, rfl⟩
  · rw [List.append_nil]

end Steps

/-- What begins a path without a fault has none. -/
theorem nameFault?_of_append {start rest : String}
    (h : Directory.nameFault? (start ++ rest) = none) : Directory.nameFault? start = none := by
  rw [Directory.nameFault?_eq_none_iff, String.toList_append, List.mem_append, not_or,
    String.utf8ByteSize_append] at h
  rw [Directory.nameFault?_eq_none_iff]
  exact ⟨h.1.1, Nat.le_trans (Nat.le_add_right _ _) h.2⟩

theorem nameFault?_of_pathIn {directory name : String}
    (h : Directory.nameFault? (pathIn directory name) = none) :
    Directory.nameFault? directory = none := by
  rcases Path.pathIn_cases directory name with ⟨rfl, _⟩ | ⟨start, rfl, hpath⟩ | ⟨_, hpath⟩
  · rfl
  · exact nameFault?_of_append (hpath ▸ h)
  · rw [hpath, String.append_assoc] at h
    exact nameFault?_of_append h

/-- The path of a plain name in a directory leads to a place exactly if that is one step
    below a folder to which the directory's path leads. -/
theorem locate_pathIn_iff {tree : FileTree} {directory name : String} {place : Place}
    (hname : Path.IsPlainName name) :
    tree.locate (pathIn directory name) = .ok place
      ↔ Directory.nameFault? (pathIn directory name) = none
        ∧ Directory.lengthFault? name = none
        ∧ ∃ folder entries, tree.locate directory = .ok folder
          ∧ tree.find? folder = some (.folder entries) ∧ place = folder ++ [name] := by
  have horigin : tree.origin (pathIn directory name) = tree.origin directory := by
    rw [origin, origin, Path.startsWith_slash_pathIn directory hname.slash_notMem]
  rw [locate, locate]
  rcases hfault : Directory.nameFault? (pathIn directory name) with _ | fault
  · rw [nameFault?_of_pathIn hfault]
    dsimp only
    rw [horigin, stepsOf_pathIn hname, walk_append]
    -- The last step starts from a folder, and there the directory's path may end in a slash.
    constructor
    · intro hwalk
      rcases hfolder : tree.walk (tree.origin directory) (namesOf directory) with fault | folder
      · rw [hfolder] at hwalk
        exact nomatch hwalk
      · rw [hfolder] at hwalk
        obtain ⟨entries, hentries, hstep⟩ := walk_singleton_iff.mp hwalk
        obtain ⟨hlength, hplace⟩ := (step_iff hname).mp hstep
        exact ⟨rfl, hlength, folder, entries, (walk_stepsOf_iff hentries).mpr hfolder, hentries,
          hplace⟩
    · rintro ⟨_, hlength, folder, entries, hfolder, hentries, hplace⟩
      rw [(walk_stepsOf_iff hentries).mp hfolder]
      exact walk_singleton_iff.mpr ⟨entries, hentries, (step_iff hname).mpr ⟨hlength, hplace⟩⟩
  · exact ⟨nofun, fun h => nomatch h.1⟩

end FileTree

end Decisioning
