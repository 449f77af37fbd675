import Decisioning.Cache.File
import Decisioning.Settings
import Decisioning.Proofs.Durability

/-!
# Reserved Keys

Which accepted settings have a cache key that a directory can keep.

Two checks look at a cache key. Settings are accepted if their key is a plain file
name, by which they mean that it is not empty and has no separator in it. A cache in a
directory asks for more: the key must not be one of the two names that every directory
has, and must not end as temporary names do. Keys that pass the first check and not the
second are the reserved ones, and there are no others.

Under a reserved key every operation of the cache is refused before the directory is
looked at. Nobody looks at whether a write succeeds, so the pipeline runs as it would
without a cache, and the directory stays as it was. Under any other accepted key a write
may still fail, but then it is the directory that fails it.

## Main definitions

* `FileCache.IsReserved`: The keys that only the second check refuses.
* `Answers`: What a program answers from any state.

## Theorems

* `Settings.isValid_iff`, `FileCache.isValidKey_iff`: The two checks, condition by
  condition.
* `Settings.isValidKey_iff`: What is left of the second check after the first.
* `FileCache.keep_run_of_invalid`, `answers_keep`: Saving under a key that is not valid,
  and under one that is.
* `FileCache.call_run_of_invalid`, `run_of_invalid`: Calls and runs under a key that is
  not valid.
* `Settings.accepted_key_has_path_unless_reserved`: The keys of accepted settings.
-/

namespace Decisioning

section Answers

variable {σ α β : Type}

/-- All answers of a program, from whatever state, are such. -/
def Answers (allowed : α → Prop) (x : StateM σ α) : Prop := ∀ c, allowed (x.run c).1

theorem Answers.pure {allowed : α → Prop} {a : α} (h : allowed a) :
    Answers allowed (pure a : StateM σ α) := fun _ => h

/-- What a program answers is what its last step answers. -/
theorem Answers.bind {allowed : β → Prop} {x : StateM σ α} {f : α → StateM σ β}
    (h : ∀ a, Answers allowed (f a)) : Answers allowed (x >>= f) := fun c => h _ (x.run c).2

end Answers

namespace FileCache

/-- A name that every directory has, or one that ends as temporary names do. -/
def IsReserved (key : String) : Prop :=
  key = "." ∨ key = ".." ∨ temporaryEnding.toList <:+ key.toList

instance (key : String) : Decidable (IsReserved key) :=
  inferInstanceAs (Decidable (key = "." ∨ key = ".." ∨ temporaryEnding.toList <:+ key.toList))

theorem isValidKey_iff (key : String) :
    isValidKey key = true
      ↔ key ≠ "" ∧ '/' ∉ key.toList ∧ '\\' ∉ key.toList ∧ ¬IsReserved key := by
  simp only [isValidKey, IsReserved, Bool.and_eq_true, Bool.not_eq_true', decide_eq_true_eq,
    ← Bool.not_eq_true, String.isEmpty_iff, List.contains_iff_mem, List.isSuffixOf_iff_suffix,
    not_or]
  constructor
  · rintro ⟨⟨⟨⟨⟨hempty, hdot⟩, hdots⟩, hslash⟩, hbackslash⟩, hending⟩
    exact ⟨hempty, hslash, hbackslash, hdot, hdots, hending⟩
  · rintro ⟨hempty, hslash, hbackslash, hdot, hdots, hending⟩
    exact ⟨⟨⟨⟨⟨hempty, hdot⟩, hdots⟩, hslash⟩, hbackslash⟩, hending⟩

/-- A key has a path exactly if it is valid, whatever the directory. -/
theorem exists_pathFor_iff (directory : List String) (key : String) :
    (∃ path, pathFor directory key = .ok path) ↔ isValidKey key = true := by
  unfold pathFor
  by_cases hkey : isValidKey key = true
  · rw [if_pos hkey]
    exact ⟨fun _ => hkey, fun _ => ⟨_, rfl⟩⟩
  · rw [if_neg hkey]
    exact ⟨fun ⟨_, hpath⟩ => absurd hpath nofun, fun h => absurd h hkey⟩

section Refusal

variable {m : Type → Type} [Monad m] {key : String}

/-- A key that is not valid is refused before anything is done. -/
theorem checked_of_invalid (h : isValidKey key = false) {α : Type}
    (run : m (Except StorageError α)) : checked key run = pure (.error (.invalidKey key)) :=
  if_neg (Bool.eq_false_iff.mp h)

theorem checked_of_valid (h : isValidKey key = true) {α : Type}
    (run : m (Except StorageError α)) : checked key run = run :=
  if_pos h

end Refusal

variable {σ : Type} (access : DirectoryAccess (StateM σ)) (process : Nat)

section ValidKeys

/-- The key was not refused; the operation may have failed all the same. -/
def NotRefused {α : Type} (answer : Except StorageError α) : Prop :=
  ∀ key, answer ≠ .error (.invalidKey key)

/-- Every failure while writing is one of a file. -/
theorem answers_write (key : String) (entry : CacheEntry) :
    Answers NotRefused (write access process key entry) := by
  unfold write publish
  refine .bind fun created => ?_
  rcases created with fault | ⟨⟩
  · exact .pure fun _ => nofun
  refine .bind fun ticket => .bind fun written => ?_
  rcases written with fault | ⟨⟩
  · exact .pure fun _ => nofun
  refine .bind fun renamed => ?_
  rcases renamed with fault | ⟨⟩
  · -- Whether the temporary file could be removed is not looked at.
    exact .bind fun _ => .pure fun _ => nofun
  · exact .pure fun _ => nofun

theorem answers_delete (key : String) : Answers NotRefused (delete access key) := by
  unfold delete
  refine .bind fun removed => ?_
  rcases removed with fault | ⟨⟩
  · cases fault <;> exact .pure fun _ => nofun
  · exact .pure fun _ => nofun

/-- Saving under a valid key may fail in the directory, but the key is not refused. -/
theorem answers_keep {key : String} (h : isValidKey key = true)
    (store : SurfaceStore Proposition) :
    Answers NotRefused ((cache access process).keep key store) := by
  unfold Cache.keep
  dsimp only [cache]
  rw [checked_of_valid h, checked_of_valid h]
  by_cases hempty : store.isEmpty = true
  · rw [if_pos hempty]
    exact answers_delete access key
  · rw [if_neg hempty]
    exact answers_write access process key _

end ValidKeys

section InvalidKeys

variable {key : String} (h : isValidKey key = false)
include h

/-- Saving under a key that is not valid is refused, and the directory is left alone. -/
theorem keep_run_of_invalid (store : SurfaceStore Proposition) (c : σ) :
    ((cache access process).keep key store).run c = (.error (.invalidKey key), c) := by
  unfold Cache.keep
  dsimp only [cache]
  rw [checked_of_invalid h, checked_of_invalid h, ite_self]
  rfl

theorem get_run_of_invalid (c : σ) :
    ((cache access process).get key).run c = (.error (.invalidKey key), c) := by
  dsimp only [cache]
  rw [checked_of_invalid h]
  rfl

/-- A call under a key that is not valid does what it would without a cache, and leaves
    the directory as it was. -/
theorem call_run_of_invalid (p : Pipeline) (call : Call) (c : σ) :
    (p.call ⟨some (cache access process), key⟩ call).run c
      = (p.call (⟨none, key⟩ : Home Id) call, c) := by
  have hget := get_run_of_invalid access process h c
  -- A cache that finds nothing is no cache to the pipeline, and this one is not changed.
  have hnothing : ∀ entry, (((cache access process).get key).run c).1 ≠ .ok (some entry) := by
    rw [hget]
    exact fun _ => nofun
  have hstate : ((p.call ⟨some (cache access process), key⟩ call).run c).2 = c := by
    cases call with
    | operation op =>
        change ((p.perform ⟨some (cache access process), key⟩ op).run c).2 = c
        rw [(p.perform_run _ op c).2]
        cases p.write? op with
        | none => rfl
        | some w =>
            dsimp only
            rw [Cache.save_run_snd, keep_run_of_invalid access process h]
    | load =>
        change ((p.load ⟨some (cache access process), key⟩).run c).2 = c
        rw [(p.load_run _ c).2, Home.stored?_run, hget]
  exact Prod.ext (p.call_eq_without_cache c fun _ => hnothing) hstate

/-- So does a run of calls. -/
theorem run_of_invalid (p : Pipeline) (calls : List Call) (c : σ) :
    (p.run ⟨some (cache access process), key⟩ calls).run c
      = (p.run (⟨none, key⟩ : Home Id) calls, c) := by
  induction calls generalizing p with
  | nil => rfl
  | cons call rest ih =>
      have hcall := call_run_of_invalid access process h p call c
      unfold Pipeline.run
      simp only [StateT.run_bind, hcall]
      simp only [bind, ih]
      rfl

end InvalidKeys

end FileCache

namespace Settings

theorem isValid_iff (s : Settings) :
    s.IsValid ↔ isBlankText s.appId = false ∧ s.cacheKey ≠ "" ∧ '/' ∉ s.cacheKey.toList
      ∧ '\\' ∉ s.cacheKey.toList := by
  have hseparators : s.cacheKey.toList.any (fun c => c = '/' || c = '\\') = true
      ↔ '/' ∈ s.cacheKey.toList ∨ '\\' ∈ s.cacheKey.toList := by
    rw [List.any_eq_true]
    simp only [Bool.or_eq_true, decide_eq_true_eq, and_or_left, exists_or, exists_eq_right]
  have hkey : (s.cacheKey.isEmpty || s.cacheKey.toList.any fun c => c = '/' || c = '\\') = true
      ↔ ¬(s.cacheKey ≠ "" ∧ '/' ∉ s.cacheKey.toList ∧ '\\' ∉ s.cacheKey.toList) := by
    rw [Bool.or_eq_true, hseparators, String.isEmpty_iff]
    tauto
  -- The name is looked at first, and the key only if the name will do.
  unfold IsValid fault?
  by_cases happ : isBlankText s.appId = true
  · rw [if_pos happ, happ]
    simp only [reduceCtorEq, Bool.true_eq_false, false_and]
  · rw [if_neg happ, Bool.eq_false_iff.mpr happ]
    by_cases hrefused : (s.cacheKey.isEmpty
        || s.cacheKey.toList.any fun c => c = '/' || c = '\\') = true
    · rw [if_pos hrefused]
      simp only [reduceCtorEq, true_and, false_iff]
      exact hkey.mp hrefused
    · rw [if_neg hrefused]
      simp only [true_and, true_iff]
      exact not_not.mp fun hnot => hrefused (hkey.mpr hnot)

/-- Of the conditions on a key, accepted settings leave only that it is not reserved. -/
theorem isValidKey_iff {s : Settings} (hs : s.IsValid) :
    FileCache.isValidKey s.cacheKey = true ↔ ¬FileCache.IsReserved s.cacheKey := by
  rcases (isValid_iff s).mp hs with ⟨_, hempty, hslash, hbackslash⟩
  rw [FileCache.isValidKey_iff]
  exact ⟨fun h => h.2.2.2, fun h => ⟨hempty, hslash, hbackslash, h⟩⟩

/-- The key of accepted settings has a path in every directory unless it is reserved.
    Saving a store under it is refused, in whatever state the directory is, exactly if
    it is reserved. Then every run of a pipeline is answered as it would be without a
    cache and leaves the directory as it was. -/
theorem accepted_key_has_path_unless_reserved {s : Settings} (hs : s.IsValid) :
    (∀ directory, (∃ path, FileCache.pathFor directory s.cacheKey = .ok path)
        ↔ ¬FileCache.IsReserved s.cacheKey)
      ∧ ∀ {σ : Type} (access : DirectoryAccess (StateM σ)) (process : Nat) (c : σ),
        let cache := FileCache.cache access process
        (∀ store, ((cache.keep s.cacheKey store).run c).1 = .error (.invalidKey s.cacheKey)
            ↔ FileCache.IsReserved s.cacheKey)
          ∧ (FileCache.IsReserved s.cacheKey → ∀ (p : Pipeline) calls,
              (p.run ⟨some cache, s.cacheKey⟩ calls).run c
                = (p.run (⟨none, s.cacheKey⟩ : Home Id) calls, c)) := by
  have hinvalid : FileCache.IsReserved s.cacheKey → FileCache.isValidKey s.cacheKey = false :=
    fun hreserved => Bool.eq_false_iff.mpr fun hvalid => (isValidKey_iff hs).mp hvalid hreserved
  refine ⟨fun directory => ?_, fun access process c => ⟨fun store => ?_, fun hreserved p calls =>
    FileCache.run_of_invalid access process (hinvalid hreserved) p calls c⟩⟩
  · rw [FileCache.exists_pathFor_iff, isValidKey_iff hs]
  · constructor
    · -- A write under a valid key never answers with that error.
      intro hrefused
      by_contra hfree
      have hvalid := (isValidKey_iff hs).mpr hfree
      exact FileCache.answers_keep access process hvalid store c _ hrefused
    · intro hreserved
      rw [FileCache.keep_run_of_invalid access process (hinvalid hreserved)]

/-- The key of the standard settings is not reserved, so it has a path, and no write to
    a disk is refused for it. -/
theorem standard_key_has_path :
    standard.IsValid ∧ ¬FileCache.IsReserved standard.cacheKey
      ∧ (∃ path, FileCache.pathFor ["cache"] standard.cacheKey = .ok path)
      ∧ ∀ disk store, (((FileCache.cache Disk.access 7).keep standard.cacheKey store).run disk).1
          ≠ .error (.invalidKey standard.cacheKey) := by
  have hvalid : standard.IsValid := by decide
  have hfree : ¬FileCache.IsReserved standard.cacheKey := by decide
  obtain ⟨hpath, hrest⟩ := accepted_key_has_path_unless_reserved hvalid
  refine ⟨hvalid, hfree, (hpath ["cache"]).mpr hfree, fun disk store hrefused => ?_⟩
  exact hfree (((hrest Disk.access 7 disk).1 store).mp hrefused)

/-- Settings are accepted with a key that ends as temporary names do, and such a key has
    no path in any directory. -/
theorem accepted_key_without_path :
    let s := { standard with cacheKey := "propositions.tmp" }
    s.IsValid ∧ ∀ directory,
      FileCache.pathFor directory s.cacheKey = .error (.invalidKey "propositions.tmp") := by
  intro s
  exact ⟨by decide, fun directory => if_neg (by decide)⟩

end Settings

end Decisioning
