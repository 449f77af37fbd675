import Decisioning.Cache.Fault
import Decisioning.Proofs.CardContent

/-!
# Outages

Why a cache that cannot be relied on does not show.

A pipeline asks its cache for two things. It reads it when a store is loaded, and
it writes the persisted store after every change. Whether a write succeeds is
never looked at, so of all that a cache can do only the answers to reads reach
the pipeline. As long as these are failures, or there is nothing to be read,
each call does what it would do without a cache, and so does a run of any length:
the same answers, and the same pipeline with all that it keeps and has sent.

Nothing is said about writes. They may succeed, fail, or do something else to the
cache, as long as no read brings it back.

## Main definitions

* `Cache.withOutages`: A cache that is out of reach at certain times.
* `Pipeline.FindsNothing`: Every read of a run fails or finds nothing.

## Theorems

* `Pipeline.perform_eq_without_cache`: Operations have nothing from a cache.
* `Pipeline.load_eq_without_cache`: Loading has nothing from one that has nothing.
* `Pipeline.outages_do_not_show`: A run is the same as without a cache.
-/

namespace Decisioning

variable {σ : Type}

namespace Cache

/-- Run an operation unless the cache is down at the time, which goes on by one. -/
def unlessDown {α : Type} (down : Nat → Bool) (run : StateM σ (Except StorageError α)) :
    StateM (σ × Nat) (Except StorageError α) := fun (c, time) =>
  if down time then (.error offline, (c, time + 1))
  else ((run.run c).1, ((run.run c).2, time + 1))

section Clocked

variable {α : Type} {down : Nat → Bool} (run : StateM σ (Except StorageError α)) {c : σ × Nat}

theorem unlessDown_of_down (h : down c.2 = true) :
    (unlessDown down run).run c = (.error offline, (c.1, c.2 + 1)) :=
  if_pos h

theorem unlessDown_of_up (h : down c.2 = false) :
    (unlessDown down run).run c = ((run.run c.1).1, ((run.run c.1).2, c.2 + 1)) :=
  if_neg (Bool.eq_false_iff.mp h)

end Clocked

/-- A cache that is out of reach at certain times. An operation that falls into
    such a time fails, and the cache is left as it was. -/
def withOutages (cache : Cache (StateM σ)) (down : Nat → Bool) : Cache (StateM (σ × Nat)) where
  get key := unlessDown down (cache.get key)
  set key entry := unlessDown down (cache.set key entry)
  remove key := unlessDown down (cache.remove key)

theorem get_withOutages_of_down (cache : Cache (StateM σ)) (down : Nat → Bool) (key : String)
    (c : σ × Nat) (h : down c.2 = true) :
    (((cache.withOutages down).get key).run c).1 = .error offline := by
  rw [withOutages, unlessDown_of_down _ h]

end Cache

namespace Pipeline

/-- Every read of a run fails or finds nothing. -/
def FindsNothing (cache : Cache (StateM σ)) (key : String) (p : Pipeline) (c : σ) :
    List Call → Prop
  | [] => True
  | call :: rest =>
      (call = .load → ∀ entry, ((cache.get key).run c).1 ≠ .ok (some entry))
        ∧ FindsNothing cache key ((p.call ⟨some cache, key⟩ call).run c).1.2
          ((p.call ⟨some cache, key⟩ call).run c).2 rest

theorem findsNothing_append {cache : Cache (StateM σ)} {key : String} {p : Pipeline} {c : σ}
    {calls rest : List Call} (hcalls : p.FindsNothing cache key c calls)
    (hrest : (p.reached ⟨some cache, key⟩ c calls).1.FindsNothing cache key
      (p.reached ⟨some cache, key⟩ c calls).2 rest) :
    p.FindsNothing cache key c (calls ++ rest) := by
  induction calls generalizing p c with
  | nil => exact hrest
  | cons call calls ih => exact ⟨hcalls.1, ih hcalls.2 hrest⟩

variable (home : Home (StateM σ)) (p : Pipeline) (c : σ)

/-- Operations answer and do what they would without a cache. -/
theorem perform_eq_without_cache (key : String) (op : Operation) :
    ((p.perform home op).run c).1 = p.perform (⟨none, key⟩ : Home Id) op := by
  cases op with
  | request freshId surfaces => rfl
  | register id surfaces => rfl
  | fragment event => rfl
  | completion event =>
      dsimp only [perform, completeEvent]
      cases completedRequest? event with
      | none => rfl
      | some id =>
          -- The batch decides everything, and it is that of an open request.
          dsimp only
          unfold complete
          cases p.pending.complete id with
          | mk batch pending => cases batch <;> rfl
  | clear surfaces => rfl

/-- Without a cache there is nothing to load. -/
theorem load_without_cache (key : String) :
    p.load (⟨none, key⟩ : Home Id) = (.nothing, p) := by
  change p.dispatch .nothing = _
  exact Prod.ext rfl p.dispatch_nothing

/-- Loading from a cache whose read fails or finds nothing does what it would
    without a cache. -/
theorem load_eq_without_cache {cache : Cache (StateM σ)} {key : String}
    (hget : ∀ entry, ((cache.get key).run c).1 ≠ .ok (some entry)) :
    ((p.load ⟨some cache, key⟩).run c).1 = p.load (⟨none, key⟩ : Home Id) := by
  have hstored : ((Home.stored? ⟨some cache, key⟩).run c).1 = none := by
    rw [Home.stored?_run]
    rcases hanswer : ((cache.get key).run c).1 with fault | (_ | entry)
    · rfl
    · rfl
    · exact absurd hanswer (hget entry)
  rw [load_without_cache]
  unfold load restore Home.load
  simp only [StateT.run_bind]
  rcases hrun : (Home.stored? ⟨some cache, key⟩).run c with ⟨answer, d⟩
  rw [hrun] at hstored
  subst hstored
  exact Prod.ext rfl p.dispatch_nothing

/-- A call does what it would without a cache, if it reads nothing. -/
theorem call_eq_without_cache {cache : Cache (StateM σ)} {key : String} {call : Call}
    (hget : call = .load → ∀ entry, ((cache.get key).run c).1 ≠ .ok (some entry)) :
    ((p.call ⟨some cache, key⟩ call).run c).1 = p.call (⟨none, key⟩ : Home Id) call := by
  cases call with
  | load =>
      have hload := p.load_eq_without_cache c (hget rfl)
      change (Answer.sent ((p.load ⟨some cache, key⟩).run c).1.1,
        ((p.load ⟨some cache, key⟩).run c).1.2) = _
      rw [hload]
      rfl
  | operation op => exact p.perform_eq_without_cache _ c key op

/-- Failures of storage never reach the batches. Over any cache whose reads fail or
    find nothing during a run, and whose writes do whatever they do, the run is
    answered as it would be without a cache, report by report, and leads to the
    same pipeline: the same stores, retained rules, tracking records and open
    requests, with the same lists sent to the engines and the same propositions to
    the listeners. -/
theorem outages_do_not_show {cache : Cache (StateM σ)} {key : String} {p : Pipeline} {c : σ}
    {calls : List Call} (hnothing : p.FindsNothing cache key c calls) :
    ((p.run ⟨some cache, key⟩ calls).run c).1 = p.run (⟨none, key⟩ : Home Id) calls := by
  induction calls generalizing p c with
  | nil => rfl
  | cons call rest ih =>
      have hcall := p.call_eq_without_cache c hnothing.1
      have hrest := ih hnothing.2
      change (((p.call ⟨some cache, key⟩ call).run c).1.1
          :: ((((p.call ⟨some cache, key⟩ call).run c).1.2.run ⟨some cache, key⟩ rest).run
            ((p.call ⟨some cache, key⟩ call).run c).2).1.1,
        ((((p.call ⟨some cache, key⟩ call).run c).1.2.run ⟨some cache, key⟩ rest).run
            ((p.call ⟨some cache, key⟩ call).run c).2).1.2) = _
      rw [hrest, hcall]
      rfl

/-- Calls by which a message and a card arrive at a surface. -/
def messageAndCardArrive (s : Surface) : List Call :=
  [.operation (.register "request" (.ofList [s])),
    .operation (.fragment (Fragment.event "request" (.arr [(messageAndCard s).toJson]))),
    .operation (.completion (completionEvent "request"))]

/-- A cache in memory that keeps what arrives, but is down when that would be read,
    does not show. The first read comes before anything is written. -/
theorem outage_of_memory_does_not_show :
    let s : Surface := ⟨"mobileapp://app"⟩
    let cache := MemoryCache.cache.withOutages fun time => time = 2
    let calls := .load :: messageAndCardArrive s ++ [.load, .operation (.clear [s])]
    (start "app").FindsNothing cache "propositions" (.empty, 0) calls
      ∧ (((start "app").run ⟨some cache, "propositions"⟩ calls).run (.empty, 0)).1
        = (start "app").run (⟨none, "propositions"⟩ : Home Id) calls := by
  intro s cache calls
  let earlier := .load :: messageAndCardArrive s
  have hearlier : (start "app").FindsNothing cache "propositions" (.empty, 0) earlier :=
    ⟨fun _ => nofun, nofun, nofun, nofun, trivial⟩
  have hlater : ∀ (p : Pipeline) (c : MemoryCache × Nat), decide (c.2 = 2) = true →
      p.FindsNothing cache "propositions" c [.load, .operation (.clear [s])] := by
    intro p c htime
    refine ⟨fun _ entry => ?_, nofun, trivial⟩
    rw [Cache.get_withOutages_of_down _ _ _ _ htime]
    exact nofun
  have hnothing : (start "app").FindsNothing cache "propositions" (.empty, 0) calls :=
    findsNothing_append hearlier (hlater _ _ (by decide +kernel))
  exact ⟨hnothing, outages_do_not_show hnothing⟩

end Pipeline

end Decisioning
