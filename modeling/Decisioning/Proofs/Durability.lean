import Decisioning.Proofs.MemoryCache
import Decisioning.Proofs.Outage

/-!
# Durability

What the cache has after writes that may fail.

The persisted store is written after every change, as a whole and under one key,
or the key is removed when the store is empty. Nobody asks whether the write came
through, and a write that failed is not tried again. The cache is then behind
until the next write succeeds, but as each write brings the whole store, it
catches up with that one: what the cache has under the key is always the store as
it was when it was last saved. That store can be read back from it, whatever the
cache had at the start and whatever was loaded from there, because a store that
is loaded has been through the reader and a store that is written is linked.

## Main definitions

* `Cache.FailsCleanly`: A cache whose operations succeed or fail without effect.
* `Cache.keep`: The write by which a store is saved.
* `Pipeline.savedStores`: The stores whose writes succeeded in a run.
* `Pipeline.Readable`: The persisted store can be read back from its snapshot.

## Theorems

* `Pipeline.Readable.call`: Calls keep a pipeline readable.
* `Cache.FailsCleanly.content_call`: What a call does to the cache.
* `Pipeline.cache_has_last_saved_store`: What the cache has after a run.
-/

namespace Decisioning

variable {σ : Type}

namespace Cache

/-- An operation on a key answers with success and leaves the key with the given
    content, or fails and leaves everything as it was. -/
def SucceedsOrFails (content : σ → String → Option CacheEntry)
    (run : StateM σ (Except StorageError Unit)) (key : String) (value : Option CacheEntry) : Prop :=
  ∀ c, ((run.run c).1 = .ok ()
      ∧ ∀ k, content (run.run c).2 k = if k = key then value else content c k)
    ∨ ((∃ fault, (run.run c).1 = .error fault) ∧ ∀ k, content (run.run c).2 k = content c k)

/-- A cache whose operations each do what they should or fail without effect. When
    they fail is left open: it may depend on all that the cache went through. -/
structure FailsCleanly (cache : Cache (StateM σ)) (content : σ → String → Option CacheEntry) :
    Prop where
  get : ∀ key c, (((cache.get key).run c).1 = .ok (content c key)
      ∨ ∃ fault, ((cache.get key).run c).1 = .error fault)
    ∧ ∀ k, content ((cache.get key).run c).2 k = content c k
  set : ∀ key entry, SucceedsOrFails content (cache.set key entry) key (some entry)
  remove : ∀ key, SucceedsOrFails content (cache.remove key) key none

/-- The write by which a store is saved under a key. -/
def keep {m : Type → Type} (cache : Cache m) (key : String)
    (store : SurfaceStore Proposition) : m (Except StorageError Unit) :=
  if store.isEmpty then cache.remove key else cache.set key (.ofData store.snapshot)

/-- Saving a store is this write and nothing else. -/
theorem save_run_snd (cache : Cache (StateM σ)) (key : String)
    (store : SurfaceStore Proposition) (c : σ) :
    ((Home.save ⟨some cache, key⟩ store).run c).2 = ((cache.keep key store).run c).2 := by
  unfold Home.save keep
  by_cases hempty : store.isEmpty = true
  · simp only [hempty, ↓reduceIte]
    rfl
  · simp only [hempty, Bool.false_eq_true, ↓reduceIte]
    rfl

namespace FailsCleanly

variable {cache : Cache (StateM σ)} {content : σ → String → Option CacheEntry}
  (hcache : cache.FailsCleanly content)
include hcache

theorem keep (key : String) (store : SurfaceStore Proposition) :
    SucceedsOrFails content (cache.keep key store) key (Home.entry store) := by
  unfold Cache.keep Home.entry
  by_cases hempty : store.isEmpty = true
  · simp only [hempty, ↓reduceIte]
    exact hcache.remove key
  · simp only [hempty, Bool.false_eq_true, ↓reduceIte]
    exact hcache.set key _

/-- Loading changes nothing in the cache. -/
theorem content_stored? (key : String) (c : σ) (k : String) :
    content ((Home.stored? ⟨some cache, key⟩).run c).2 k = content c k := by
  rw [Home.stored?_run]
  exact (hcache.get key c).2 k

end FailsCleanly

end Cache

/-- A cache in memory fails for the empty key only. -/
theorem MemoryCache.failsCleanly :
    MemoryCache.cache.FailsCleanly fun entries key => entries.get? key := by
  -- A refused key leaves the entries alone; any other goes through.
  constructor
  case get =>
    intro key c
    cases hkey : key.isEmpty with
    | true =>
        rw [get_run_of_isEmpty hkey]
        exact ⟨Or.inr ⟨_, rfl⟩, fun _ => rfl⟩
    | false =>
        rw [get_run hkey]
        exact ⟨Or.inl rfl, fun _ => rfl⟩
  case set =>
    intro key entry c
    cases hkey : key.isEmpty with
    | true =>
        rw [set_run_of_isEmpty hkey]
        exact Or.inr ⟨⟨_, rfl⟩, fun _ => rfl⟩
    | false =>
        rw [set_run hkey]
        exact Or.inl ⟨rfl, fun k => SortedMap.get?_insert c key k entry⟩
  case remove =>
    intro key c
    cases hkey : key.isEmpty with
    | true =>
        rw [remove_run_of_isEmpty hkey]
        exact Or.inr ⟨⟨_, rfl⟩, fun _ => rfl⟩
    | false =>
        rw [remove_run hkey]
        exact Or.inl ⟨rfl, fun k => SortedMap.get?_erase c key k⟩

namespace Cache

theorem SucceedsOrFails.unlessDown {content : σ → String → Option CacheEntry}
    {run : StateM σ (Except StorageError Unit)} {key : String} {value : Option CacheEntry}
    (h : SucceedsOrFails content run key value) (down : Nat → Bool) :
    SucceedsOrFails (fun c => content c.1) (unlessDown down run) key value := by
  intro c
  cases hdown : down c.2 with
  | true =>
      rw [unlessDown_of_down run hdown]
      exact Or.inr ⟨⟨_, rfl⟩, fun _ => rfl⟩
  | false =>
      rw [unlessDown_of_up run hdown]
      exact h c.1

/-- Outages are clean failures. -/
theorem FailsCleanly.withOutages {cache : Cache (StateM σ)}
    {content : σ → String → Option CacheEntry} (hcache : cache.FailsCleanly content)
    (down : Nat → Bool) : (cache.withOutages down).FailsCleanly fun c => content c.1 where
  get key c := by
    dsimp only [Cache.withOutages]
    cases hdown : down c.2 with
    | true =>
        rw [unlessDown_of_down _ hdown]
        exact ⟨Or.inr ⟨_, rfl⟩, fun _ => rfl⟩
    | false =>
        rw [unlessDown_of_up _ hdown]
        exact hcache.get key c.1
  set key entry := (hcache.set key entry).unlessDown down
  remove key := (hcache.remove key).unlessDown down

end Cache

namespace Pipeline

/-- The persisted store can be read back from its snapshot, and so will be what
    open requests bring. -/
structure Readable (p : Pipeline) : Prop where
  content : p.persisted.HoldsContent
  linked : ∀ s, ∀ q ∈ p.persisted.get s, q.IsLinked
  pending : p.pending.IsLinked

theorem readable_start (appId : String) : (start appId).Readable where
  content := SurfaceStore.holdsContent_empty
  linked := fun _ _ hq => absurd hq List.not_mem_nil
  pending := (coherent_start appId).pending

theorem Readable.ofSnapshot_snapshot {p : Pipeline} (h : p.Readable) :
    SurfaceStore.ofSnapshot p.persisted.snapshot = p.persisted :=
  h.content.ofSnapshot_snapshot h.linked

theorem Readable.after {p : Pipeline} (h : p.Readable) (op : Operation) : (p.after op).Readable := by
  have hpending := isLinked_pendingAfter h.pending op
  cases hwrite : p.write? op with
  | none =>
      rw [after_of_no_write p hwrite]
      exact { h with pending := hpending }
  | some w =>
      rw [after_of_write p hwrite]
      constructor
      case content => exact h.content.merge w.surfaces w.image.persisted.lists
      case pending => exact hpending
      case linked =>
        intro s
        change ∀ q ∈ ((written { p with pending := p.pendingAfter op } w).store .persisted).get s,
          q.IsLinked
        rw [get_store_written]
        -- What a write covers comes from its image, all else from before.
        by_cases hs : w.surfaces.contains s = true
        · rw [if_pos hs]
          exact (restorableAt_image (isLinked_of_write? h.pending hwrite) s).linked
        · rw [if_neg hs]
          exact h.linked s

/-- What is loaded has been read from a snapshot. -/
theorem eq_ofSnapshot_of_stored? {home : Home (StateM σ)} {c : σ}
    {loaded : SurfaceStore Proposition} (h : (home.stored?.run c).1 = some loaded) :
    ∃ data, loaded = .ofSnapshot data := by
  obtain ⟨cache, key⟩ := home
  cases cache with
  | none => cases h
  | some cache =>
      rw [Home.stored?_run] at h
      dsimp only at h
      split at h
      · exact ⟨_, (Option.some.inj h).symm⟩
      · cases h
      · cases h

/-- Calls keep a pipeline readable, whatever the cache has. -/
theorem Readable.call {p : Pipeline} (h : p.Readable) (home : Home (StateM σ)) (call : Call)
    (c : σ) : ((p.call home call).run c).1.2.Readable := by
  cases call with
  | operation op =>
      change ((p.perform home op).run c).1.2.Readable
      rw [(p.perform_run home op c).1]
      exact h.after op
  | load =>
      change ((p.load home).run c).1.2.Readable
      rw [(p.load_run home c).1]
      cases hstored : (home.stored?.run c).1 with
      | none => exact h
      | some loaded =>
          -- Whatever was stored, what is loaded was read from a snapshot.
          rcases eq_ofSnapshot_of_stored? hstored with ⟨data, rfl⟩
          exact {
            content := SurfaceStore.holdsContent_ofSnapshot data
            linked := fun _ _ hq => SurfaceStore.isLinked_of_mem_ofSnapshot hq
            pending := h.pending }

theorem readable_reached {p : Pipeline} (h : p.Readable) (home : Home (StateM σ)) (c : σ)
    (calls : List Call) : (p.reached home c calls).1.Readable :=
  reached_of_kept home Readable (fun _ call c h => h.call home call c) h c calls

/-- The store that a call saves: the persisted store after a completed request, or
    after surfaces were forgotten, if the write of it succeeded. -/
def saved? (cache : Cache (StateM σ)) (key : String) (p : Pipeline) (c : σ) :
    Call → Option (SurfaceStore Proposition)
  | .load => none
  | .operation op =>
      let store := ((p.perform ⟨some cache, key⟩ op).run c).1.2.persisted
      if (p.write? op).isSome && ((cache.keep key store).run c).1.isOk then some store else none

/-- The stores that are saved in a run, oldest first. -/
def savedStores (cache : Cache (StateM σ)) (key : String) (p : Pipeline) (c : σ) :
    List Call → List (SurfaceStore Proposition)
  | [] => []
  | call :: rest =>
      (p.saved? cache key c call).toList
        ++ savedStores cache key ((p.call ⟨some cache, key⟩ call).run c).1.2
          ((p.call ⟨some cache, key⟩ call).run c).2 rest

section Saving

variable {cache : Cache (StateM σ)} {key : String} {content : σ → String → Option CacheEntry}

/-- What is saved can be read back. -/
theorem Readable.savedStores {p : Pipeline} (h : p.Readable) (c : σ) (calls : List Call) :
    ∀ store ∈ p.savedStores cache key c calls, SurfaceStore.ofSnapshot store.snapshot = store := by
  induction calls generalizing p c with
  | nil => exact fun _ hstore => absurd hstore List.not_mem_nil
  | cons call rest ih =>
      intro store hstore
      rcases List.mem_append.mp hstore with hfirst | hrest
      · -- It is the persisted store right after the call.
        have hafter := h.call ⟨some cache, key⟩ call c
        cases call with
        | load => exact absurd hfirst List.not_mem_nil
        | operation op =>
            dsimp only [saved?] at hfirst
            split at hfirst
            · rw [List.mem_singleton.mp hfirst]
              exact hafter.ofSnapshot_snapshot
            · exact absurd hfirst List.not_mem_nil
      · exact ih (h.call _ call c) _ store hrest

variable (hcache : cache.FailsCleanly content)
include hcache

/-- A call leaves the cache as it was, but for the entry of a store that it saves. -/
theorem content_call (p : Pipeline) (c : σ) (call : Call) (k : String) :
    content ((p.call ⟨some cache, key⟩ call).run c).2 k
      = if k = key then ((p.saved? cache key c call).map Home.entry).getD (content c key)
        else content c k := by
  -- Without a store that is saved there is nothing to tell the key apart.
  have hsame : content c k = if k = key then content c key else content c k := by
    by_cases hk : k = key
    · rw [if_pos hk, hk]
    · rw [if_neg hk]
  cases call with
  | load =>
      change content ((p.load ⟨some cache, key⟩).run c).2 k = _
      rw [(p.load_run _ c).2, hcache.content_stored?]
      exact hsame
  | operation op =>
      change content ((p.perform ⟨some cache, key⟩ op).run c).2 k = _
      rcases p.perform_run ⟨some cache, key⟩ op c with ⟨hafter, hcontent⟩
      rw [hcontent]
      dsimp only [saved?]
      rw [hafter]
      cases hwrite : p.write? op with
      | none => exact hsame
      | some w =>
          dsimp only
          rw [Cache.save_run_snd]
          rcases hcache.keep key (p.after op).persisted c with ⟨hok, hset⟩ | ⟨⟨fault, herror⟩, hkept⟩
          · rw [hset, hok]
            rfl
          · rw [hkept, herror]
            exact hsame

/-- A run leaves the cache as it was, but for the entry of the store that it saved
    last. -/
theorem content_reached (p : Pipeline) (c : σ) (calls : List Call) (k : String) :
    content (p.reached ⟨some cache, key⟩ c calls).2 k
      = if k = key then
          ((p.savedStores cache key c calls).getLast?.map Home.entry).getD (content c key)
        else content c k := by
  induction calls generalizing p c with
  | nil =>
      by_cases hk : k = key
      · rw [if_pos hk, hk]
        rfl
      · rw [if_neg hk]
        rfl
  | cons call rest ih =>
      rw [reached_cons, ih, content_call hcache, content_call hcache, if_pos rfl, savedStores,
        List.getLast?_append]
      by_cases hk : k = key
      · rw [if_pos hk, if_pos hk]
        -- A store that is saved later counts, and only without one that of the call.
        cases (savedStores cache key _ _ rest).getLast? with
        | some store => rfl
        | none =>
            rw [Option.none_or]
            cases p.saved? cache key c call <;> rfl
      · rw [if_neg hk, if_neg hk, if_neg hk]

/-- The cache mirrors the persisted store as it was when it was last saved. Over a
    cache with any content whose operations succeed or fail without effect, after
    any calls, the key of the store has no entry if the store that was saved last
    was empty, and otherwise the snapshot of that store without metadata. If no
    store was saved, it has what it had at the start. Each store that was saved is
    read back from its snapshot as it was. No other key ever changes. -/
theorem cache_has_last_saved_store (appId : String) (c : σ) (calls : List Call) :
    let after := ((start appId).reached ⟨some cache, key⟩ c calls).2
    let saved := (start appId).savedStores cache key c calls
    (content after key
        = match saved.getLast? with
          | none => content c key
          | some store => if store.isEmpty then none else some (.ofData store.snapshot))
      ∧ (∀ store ∈ saved, SurfaceStore.ofSnapshot store.snapshot = store)
      ∧ ∀ other, other ≠ key → content after other = content c other := by
  intro after saved
  have hcontent : ∀ k, content after k
      = if k = key then (saved.getLast?.map Home.entry).getD (content c key) else content c k :=
    content_reached hcache (start appId) c calls
  refine ⟨?_, (readable_start appId).savedStores c calls, fun other hother => ?_⟩
  · rw [hcontent, if_pos rfl]
    cases saved.getLast? <;> rfl
  · rw [hcontent, if_neg hother]

end Saving

/-- A message and a card are saved, and the surface is forgotten while the cache is
    down. The pipeline has nothing then, and the cache still has what was saved. -/
theorem cache_keeps_what_was_forgotten_in_an_outage :
    let s : Surface := ⟨"mobileapp://app"⟩
    let cache := MemoryCache.cache.withOutages fun time => time = 1
    let content := fun (c : MemoryCache × Nat) (key : String) => c.1.get? key
    let calls := messageAndCardArrive s ++ [.operation (.clear [s])]
    let after := (start "app").reached ⟨some cache, "propositions"⟩ (.empty, 0) calls
    let saved := (start "app").savedStores cache "propositions" (.empty, 0) calls
    cache.FailsCleanly content ∧ after.1.persisted = .empty ∧ saved.length = 1
      ∧ content after.2 "propositions"
        = (match saved.getLast? with
          | none => none
          | some store => if store.isEmpty then none else some (.ofData store.snapshot))
      ∧ (∀ store ∈ saved, SurfaceStore.ofSnapshot store.snapshot = store)
      ∧ ∀ other, other ≠ "propositions" → content after.2 other = none := by
  intro s cache content calls after saved
  have hcache : cache.FailsCleanly content := MemoryCache.failsCleanly.withOutages _
  exact ⟨hcache, by decide +kernel, by decide +kernel,
    cache_has_last_saved_store hcache "app" (.empty, 0) calls⟩

end Pipeline

end Decisioning
