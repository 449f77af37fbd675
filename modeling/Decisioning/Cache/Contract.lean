import Decisioning.Cache

/-!
# The Contract of Caches

What the rest of the library relies on when it uses a cache, as a list of
checks that any backend can be put through.

Every check starts from a fresh cache and either passes or says what it found.
Basic checks are about entries being found, replaced and removed, error checks
about the empty key, and the last two about many writers: whatever their
order, a key ends up with one whole entry, and different keys do not disturb
each other.

## Main definitions

* `Contract.Check`: A named check.
* `Contract.checks`: The checks, in order.
* `Contract.run`: The verdicts of all checks on a backend.
* `Contract.Report.text`: The verdicts as text.
-/

namespace Decisioning

namespace Contract

variable {m : Type → Type} [Monad m]

/-- What a check does: pass, or fail with a message. -/
abbrev Attempt (m : Type → Type) := ExceptT String m

/-- Run a step that should succeed; its failure is reported after `what`. -/
def expectOk {α : Type} (what : String) (step : m (Except StorageError α)) : Attempt m α := do
  match ← step with
  | .ok a => return a
  | .error fault => throw (what ++ ": " ++ fault.message)

/-- Require a condition, or fail with a message. -/
def require (condition : Bool) (message : String) : Attempt m Unit :=
  if condition then return () else throw message

/-- An entry like those that the library caches: one surface with one
    proposition. -/
def sample (surface proposition : String) : CacheEntry :=
  .ofData (.obj [(surface, .arr [.obj [
    ("id", .str proposition),
    ("items", .arr []),
    ("scope", .str surface),
    ("scopeDetails", .obj [("rank", .int 0)])]])])

/-- The key that most checks use. -/
def usualKey : String := "propositions"

/-- The entry under the usual key, as one of the checks sees it. -/
def getUsual (cache : Cache m) : Attempt m (Option CacheEntry) :=
  expectOk "get" (cache.get usualKey)

/-- A missing key has no entry. -/
def missingKey (cache : Cache m) : Attempt m Unit := do
  require ((← getUsual cache) = none) "a key without entry was found"

/-- What was written is read back. -/
def roundTrip (cache : Cache m) : Attempt m Unit := do
  let entry := sample "mobileapp://app" "p1"
  expectOk "set" (cache.set usualKey entry)
  require ((← getUsual cache) = some entry) "the entry read is not the one written"

/-- A second write replaces the first. -/
def replaces (cache : Cache m) : Attempt m Unit := do
  expectOk "first set" (cache.set usualKey (sample "mobileapp://app/a" "p1"))
  let second := sample "mobileapp://app/b" "p2"
  expectOk "second set" (cache.set usualKey second)
  require ((← getUsual cache) = some second) "the second entry did not replace the first"

/-- A removed entry is gone. -/
def removes (cache : Cache m) : Attempt m Unit := do
  expectOk "set" (cache.set usualKey (sample "mobileapp://app" "p1"))
  expectOk "remove" (cache.remove usualKey)
  require ((← getUsual cache) = none) "the entry is still there after its removal"

/-- Removing nothing succeeds. -/
def removesMissing (cache : Cache m) : Attempt m Unit :=
  expectOk "remove of a missing key" (cache.remove "never-written")

/-- Removing one key leaves the others alone. -/
def independentKeys (cache : Cache m) : Attempt m Unit := do
  let b := sample "mobileapp://app/b" "pb"
  expectOk "set a" (cache.set "a" (sample "mobileapp://app/a" "pa"))
  expectOk "set b" (cache.set "b" b)
  expectOk "remove a" (cache.remove "a")
  let readA ← expectOk "get a" (cache.get "a")
  let readB ← expectOk "get b" (cache.get "b")
  require (readA = none) "key a still present after its removal"
  require (readB = some b) "key b changed"

/-- Metadata is kept. -/
def keepsMetadata (cache : Cache m) : Attempt m Unit := do
  let entry := { CacheEntry.ofData (.obj []) with
    metadata := SortedMap.empty.insert "version" "1" }
  expectOk "set" (cache.set "meta" entry)
  match ← expectOk "get" (cache.get "meta") with
  | none => throw "entry missing"
  | some read => require (read.metadata.get? "version" = some "1") "the metadata changed"

/-- Whether an operation refused its key. -/
def refused {α : Type} : Except StorageError α → Bool
  | .error (.invalidKey _) => true
  | _ => false

/-- The message of a check on the empty key. -/
def notRefused : String := "the empty key was not refused"

/-- The empty key cannot be read. -/
def getEmpty (cache : Cache m) : Attempt m Unit := do
  require (refused (← cache.get "")) notRefused

/-- The empty key cannot be written. -/
def setEmpty (cache : Cache m) : Attempt m Unit := do
  require (refused (← cache.set "" (sample "mobileapp://app" "p1"))) notRefused

/-- The empty key cannot be removed. -/
def removeEmpty (cache : Cache m) : Attempt m Unit := do
  require (refused (← cache.remove "")) notRefused

/-- A refusal names the key. -/
def namesKey (cache : Cache m) : Attempt m Unit := do
  match ← cache.get "" with
  | .error (.invalidKey "") => return ()
  | _ => throw "the refusal does not name the key"

/-- How many writers the last two checks have. -/
def writers : List Nat := List.range 10

/-- Run a step for every writer, and fail if any of them failed. -/
def forWriters (step : Nat → m (Except StorageError Unit)) : Attempt m Unit := do
  let outcomes ← (writers.mapM step : m (List (Except StorageError Unit)))
  outcomes.forM fun outcome => expectOk "storage error" (pure outcome)

/-- After many writes to one key, it holds one of the entries. -/
def oneWholeEntry (cache : Cache m) : Attempt m Unit := do
  let entry (i : Nat) := sample ("mobileapp://app/" ++ toString i) ("p" ++ toString i)
  forWriters fun i => cache.set usualKey (entry i)
  match ← getUsual cache with
  | none => throw "entry missing after all writes"
  | some read => require (writers.any fun i => read = entry i) "the entry is none of those written"

/-- After writes to many keys, each holds its entry. -/
def allVisible (cache : Cache m) : Attempt m Unit := do
  let key (i : Nat) := "key-" ++ toString i
  let entry (i : Nat) := sample "mobileapp://app" ("p" ++ toString i)
  forWriters fun i => cache.set (key i) (entry i)
  writers.forM fun i => do
    let read ← expectOk ("get " ++ key i) (cache.get (key i))
    require (read = some (entry i)) (key i ++ " missing or wrong")

/-- A check, with the category and the name it is reported under. -/
structure Check (m : Type → Type) where
  category : String
  name : String
  attempt : Cache m → Attempt m Unit

/-- The checks, in order. -/
def checks : List (Check m) :=
  [ ⟨"basic", "get_missing_key_returns_none", missingKey⟩,
    ⟨"basic", "set_then_get_round_trips", roundTrip⟩,
    ⟨"basic", "set_replaces_existing_entry", replaces⟩,
    ⟨"basic", "remove_deletes_entry", removes⟩,
    ⟨"basic", "remove_missing_key_succeeds", removesMissing⟩,
    ⟨"basic", "keys_are_independent", independentKeys⟩,
    ⟨"basic", "metadata_is_preserved", keepsMetadata⟩,
    ⟨"error", "get_empty_key_is_invalid", getEmpty⟩,
    ⟨"error", "set_empty_key_is_invalid", setEmpty⟩,
    ⟨"error", "remove_empty_key_is_invalid", removeEmpty⟩,
    ⟨"error", "invalid_key_error_has_correct_field", namesKey⟩,
    ⟨"concurrent", "concurrent_writes_same_key_leave_one_whole_entry", oneWholeEntry⟩,
    ⟨"concurrent", "concurrent_writes_different_keys_all_visible", allVisible⟩ ]

/-- The verdict of a check. -/
structure Verdict where
  category : String
  name : String
  passed : Bool
  /-- What a failed check found. -/
  message : Option String
deriving DecidableEq, Repr

/-- The verdicts of all checks, and their counts. -/
structure Report where
  verdicts : List Verdict
  passed : Nat
  failed : Nat
  total : Nat
deriving DecidableEq, Repr

namespace Report

/-- The report of a list of verdicts. -/
def ofVerdicts (verdicts : List Verdict) : Report :=
  let passed := (verdicts.filter Verdict.passed).length
  { verdicts, passed, failed := verdicts.length - passed, total := verdicts.length }

/-- The line of a failed check; a passed one has none. -/
def line (verdict : Verdict) : String :=
  if verdict.passed then ""
  else
    "  FAIL [" ++ verdict.category ++ "/" ++ verdict.name ++ "]: "
      ++ verdict.message.getD "(no message)" ++ "\n"

/-- A report as text: the counts, then the failed checks. -/
def text (report : Report) : String :=
  "Conformance: " ++ toString report.passed ++ "/" ++ toString report.total ++ " passed ("
    ++ toString report.failed ++ " failed)\n" ++ String.join (report.verdicts.map line)

end Report

/-- The verdict of one check on a fresh backend. -/
def verdict {σ : Type} (cache : Cache (StateM σ)) (fresh : σ) (check : Check (StateM σ)) :
    Verdict :=
  match ((check.attempt cache).run fresh).1 with
  | .ok () => { category := check.category, name := check.name, passed := true, message := none }
  | .error message =>
      { category := check.category, name := check.name, passed := false, message := some message }

/-- The verdicts of all checks, each on a fresh backend. -/
def run {σ : Type} (cache : Cache (StateM σ)) (fresh : σ) : Report :=
  .ofVerdicts (checks.map (verdict cache fresh))

end Contract

end Decisioning
