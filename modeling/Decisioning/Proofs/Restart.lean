import Decisioning.Proofs.AppContent
import Decisioning.Proofs.MemoryCache

/-!
# Restarts

Why a restart loses no in-app content.

The persisted store is saved after every change, so a cache that keeps what it
is given always has the current one, `Home.entry`. It comes back from its
snapshot as it was, and the in-app rules that are compiled from it again are
those that were retained. Everything else is gone: the other stores, and the
requests that were open.

That does not show afterwards as long as nobody answers those requests. Two
pipelines that agree in their persisted propositions, their in-app rules and
the requests that are still answered make the same writes, and agree again
after them, `InStep`.

## Main definitions

* `Cache.KeepsEntry`: A cache that keeps the entry of a key and never fails.
* `LifeEvent`, `Pipeline.live`: The life of a pipeline, with restarts.
* `Pipeline.carriedOut`: A pipeline after operations, over a cache that others
  may use.
* `OnlyAnswers`: Operations that answer none but certain requests.
* `Pipeline.SameAppContent`: The same persisted propositions and in-app rules.

## Theorems

* `Cache.KeepsEntry.restart_run`: What a restart finds.
* `Pipeline.InStep.after`: Operations on two pipelines that agree.
* `Pipeline.restart_keeps_app_content`: A restart loses no in-app content.
-/

namespace Decisioning

variable {σ : Type}

/-- A cache that never fails, and that has an entry under a key exactly as it was
    set last. -/
structure Cache.KeepsEntry (cache : Cache (StateM σ)) (key : String)
    (held : σ → Option CacheEntry) : Prop where
  get : ∀ c, ((cache.get key).run c).1 = .ok (held c) ∧ held ((cache.get key).run c).2 = held c
  set : ∀ c entry, ((cache.set key entry).run c).1 = .ok ()
    ∧ held ((cache.set key entry).run c).2 = some entry
  remove : ∀ c, ((cache.remove key).run c).1 = .ok () ∧ held ((cache.remove key).run c).2 = none

/-- A cache in memory keeps the entry of any key that it accepts. -/
theorem MemoryCache.keepsEntry {key : String} (hkey : key.isEmpty = false) :
    MemoryCache.cache.KeepsEntry key (fun entries => entries.get? key) := by
  constructor
  case get =>
    intro c
    rw [get_run hkey]
    exact ⟨rfl, rfl⟩
  case set =>
    intro c entry
    rw [set_run hkey]
    exact ⟨rfl, (SortedMap.get?_insert _ _ _ _).trans (if_pos rfl)⟩
  case remove =>
    intro c
    rw [remove_run hkey]
    exact ⟨rfl, (SortedMap.get?_erase _ _ _).trans (if_pos rfl)⟩

/-- The entry under which a store is saved; an empty store has none. -/
def Home.entry (store : SurfaceStore Proposition) : Option CacheEntry :=
  if store.isEmpty then none else some (.ofData store.snapshot)

/-- What a pipeline goes through in the course of time. -/
inductive LifeEvent where
  | operation (op : Operation)
  /-- The program ends, and a new pipeline loads what was persisted. -/
  | restart

namespace Pipeline

section Running

variable {m : Type → Type} [Monad m] (home : Home m)

/-- A new pipeline of an application, with what was persisted. -/
def restart (appId : String) : m Pipeline := do
  let (_, p) ← (start appId).load home
  return p

/-- The life of a pipeline of an application. -/
def live (appId : String) (p : Pipeline) : List LifeEvent → m Pipeline
  | [] => return p
  | .operation op :: rest => do
      let (_, p) ← p.perform home op
      live appId p rest
  | .restart :: rest => do
      let p ← restart home appId
      live appId p rest

end Running

/-- The pipeline after operations, each with the cache as it finds it. Whoever
    else uses the cache may have changed it meanwhile. -/
def carriedOut (home : Home (StateM σ)) (p : Pipeline) (steps : List (Operation × σ)) : Pipeline :=
  steps.foldl (fun p step => ((p.perform home step.1).run step.2).1.2) p

end Pipeline

namespace Operation

/-- The request that an operation on a pipeline of an application opens. -/
def opens? (appId : String) : Operation → Option String
  | .request freshId surfaces =>
      if ((Pipeline.start appId).requestedSurfaces surfaces).isEmpty then none else some freshId
  | .register id _ => some id
  | .fragment _ | .completion _ | .clear _ => none

/-- The request that an operation answers. -/
def answers? : Operation → Option String
  | .fragment event => (Fragment.ofEvent? event).map Fragment.request
  | .completion event => completedRequest? event
  | .request _ _ | .register _ _ | .clear _ => none

end Operation

/-- The operations answer no requests but those of `known`, and those that they
    have opened themselves before. -/
def OnlyAnswers (appId : String) (known : String → Prop) : List Operation → Prop
  | [] => True
  | op :: rest =>
      (∀ id, op.answers? = some id → known id)
        ∧ OnlyAnswers appId (fun id => known id ∨ op.opens? appId = some id) rest

namespace Pipeline

/-- A pipeline is that of an application and can be rebuilt, and the cache has its
    persisted store. -/
structure Saved (held : σ → Option CacheEntry) (appId : String) (p : Pipeline) (c : σ) :
    Prop where
  coherent : p.Coherent
  entry : held c = Home.entry p.persisted
  appId : p.appId = appId

/-- A pipeline has the persisted propositions and the in-app rules of another, the
    rules being those of the propositions. -/
structure SameAppContent (p q : Pipeline) : Prop where
  persisted : p.persisted = q.persisted
  inApp : ∀ s, p.retained.rules.inApp.get s = q.retained.rules.inApp.get s
  compiled : ∀ s, q.retained.rules.inApp.get s
    = (q.persisted.get s).flatMap fun r => rulesIn .inApp r.compiledRules

end Pipeline

section Keeping

variable {cache : Cache (StateM σ)} {key : String} {held : σ → Option CacheEntry}
  (hcache : cache.KeepsEntry key held)
include hcache

/-- A store that is saved is what the cache has then. -/
theorem Cache.KeepsEntry.save_run (store : SurfaceStore Proposition) (c : σ) :
    held ((Home.save ⟨some cache, key⟩ store).run c).2 = Home.entry store := by
  unfold Home.save Home.entry
  by_cases hempty : store.isEmpty = true
  · simp only [hempty, ↓reduceIte]
    exact (hcache.remove c).2
  · simp only [hempty, Bool.false_eq_true, ↓reduceIte]
    exact (hcache.set c _).2

theorem Cache.KeepsEntry.stored?_run (c : σ) :
    ((Home.stored? ⟨some cache, key⟩).run c).1
        = (held c).map (fun entry => SurfaceStore.ofSnapshot entry.data)
      ∧ held ((Home.stored? ⟨some cache, key⟩).run c).2 = held c := by
  rcases hcache.get c with ⟨hget, hheld⟩
  rw [Home.stored?_run, hget]
  refine ⟨?_, hheld⟩
  cases held c <;> rfl

/-- A restart over a cache that has a coherent store loads that store. -/
theorem Cache.KeepsEntry.restart_run {p : Pipeline} (hp : p.Coherent) {c : σ}
    (hc : held c = Home.entry p.persisted) (appId : String) :
    ((Pipeline.restart ⟨some cache, key⟩ appId).run c).1
        = (Pipeline.start appId).restoredFrom p.persisted
      ∧ held ((Pipeline.restart ⟨some cache, key⟩ appId).run c).2 = held c := by
  have hload := (Pipeline.start appId).load_run ⟨some cache, key⟩ c
  rcases hcache.stored?_run c with ⟨hstored, hheld⟩
  change (((Pipeline.start appId).load ⟨some cache, key⟩).run c).1.2 = _
    ∧ held (((Pipeline.start appId).load ⟨some cache, key⟩).run c).2 = _
  rw [hload.1, hload.2]
  refine ⟨?_, hheld⟩
  rw [hstored, hc, Home.entry]
  by_cases hempty : p.persisted.isEmpty = true
  · -- Nothing was saved, and loading nothing changes nothing.
    have hnone : p.persisted = .empty :=
      congrArg SurfaceStore.mk ((SortedMap.isEmpty_iff _).mp hempty)
    rw [if_pos hempty, hnone, Pipeline.restoredFrom_empty]
    rfl
  · rw [if_neg hempty, Option.map_some]
    change (Pipeline.start appId).restoredFrom (.ofSnapshot p.persisted.snapshot) = _
    rw [hp.persisted.ofSnapshot_snapshot fun s => (hp.restorable s).linked]

theorem Cache.KeepsEntry.saved_perform {appId : String} {p : Pipeline} {c : σ}
    (h : p.Saved held appId c) (op : Operation) :
    ((p.perform ⟨some cache, key⟩ op).run c).1.2.Saved held appId
      ((p.perform ⟨some cache, key⟩ op).run c).2 := by
  rcases p.perform_run ⟨some cache, key⟩ op c with ⟨hpipeline, hsaved⟩
  rw [hpipeline, hsaved]
  constructor
  case coherent => exact h.coherent.after op
  case appId =>
    cases hwrite : p.write? op with
    | none => rw [p.after_of_no_write hwrite, h.appId]
    | some w =>
        rw [p.after_of_write hwrite]
        exact h.appId
  case entry =>
    -- Without a write nothing is saved, and with one just this store is.
    cases hwrite : p.write? op with
    | none =>
        rw [p.after_of_no_write hwrite]
        exact h.entry
    | some w => exact hcache.save_run (p.after op).persisted c

theorem Cache.KeepsEntry.saved_restart {appId : String} {p : Pipeline} {c : σ}
    (h : p.Saved held appId c) :
    ((Pipeline.restart ⟨some cache, key⟩ appId).run c).1.Saved held appId
      ((Pipeline.restart ⟨some cache, key⟩ appId).run c).2 := by
  rcases hcache.restart_run h.coherent h.entry appId with ⟨hpipeline, hheld⟩
  rw [hpipeline]
  exact ⟨h.coherent.restoredFrom appId, hheld.trans h.entry, rfl⟩

/-- In a whole life, the cache always has the persisted store. -/
theorem Cache.KeepsEntry.saved_live {appId : String} {p : Pipeline} {c : σ}
    (h : p.Saved held appId c) (life : List LifeEvent) :
    ((p.live ⟨some cache, key⟩ appId life).run c).1.Saved held appId
      ((p.live ⟨some cache, key⟩ appId life).run c).2 := by
  induction life generalizing p c with
  | nil => exact h
  | cons event rest ih =>
      cases event with
      | operation op => exact ih (hcache.saved_perform h op)
      | restart => exact ih (hcache.saved_restart h)

end Keeping

namespace Pipeline

variable {known : String → Prop} {p q : Pipeline}

/-- Two pipelines have the same persisted propositions, the same in-app rules, and
    the same open requests among those that are known. -/
structure InStep (appId : String) (known : String → Prop) (p q : Pipeline) : Prop where
  left : p.appId = appId
  right : q.appId = appId
  persisted : p.persisted = q.persisted
  inApp : p.retained.rules.inApp = q.retained.rules.inApp
  pending : ∀ id, known id → p.pending.get? id = q.pending.get? id

variable {appId : String} {known : String → Prop} {p q : Pipeline}

/-- Pipelines in step make the same writes when only known requests are
    answered. -/
theorem InStep.write?_eq (h : InStep appId known p q) {op : Operation}
    (hop : ∀ id, op.answers? = some id → known id) : p.write? op = q.write? op := by
  cases op with
  | completion event =>
      dsimp only [write?]
      cases hid : completedRequest? event with
      | none => rfl
      | some id =>
          have hpending := h.pending id (hop id hid)
          rw [Option.bind_some, Option.bind_some, PendingRequests.complete_fst,
            PendingRequests.complete_fst, hpending]
  | request freshId surfaces => rfl
  | register id surfaces => rfl
  | fragment event => rfl
  | clear surfaces => rfl

/-- Opening a request makes it known, whatever either pipeline had under its id. -/
theorem InStep.register (h : InStep appId known p q) (id : String) (surfaces : SurfaceSet)
    (key : String) (hkey : known key ∨ some id = some key) :
    (p.pending.register id surfaces).2.get? key = (q.pending.register id surfaces).2.get? key := by
  rw [PendingRequests.get?_register, PendingRequests.get?_register]
  by_cases heq : key = id
  · rw [if_pos heq, if_pos heq]
  · rw [if_neg heq, if_neg heq]
    rcases hkey with hknown | hopen
    · exact h.pending key hknown
    · exact absurd (Option.some.inj hopen).symm heq

/-- The open requests stay the same among the known ones, to which an opened one
    is added. -/
theorem InStep.pendingAfter (h : InStep appId known p q) {op : Operation}
    (hop : ∀ id, op.answers? = some id → known id) (key : String)
    (hkey : known key ∨ op.opens? appId = some key) :
    (p.pendingAfter op).get? key = (q.pendingAfter op).get? key := by
  cases op with
  | request freshId surfaces =>
      -- The default surface is that of the application, which is the same for both.
      have hp : p.requestedSurfaces surfaces = (start appId).requestedSurfaces surfaces := by
        rw [← h.left]
        rfl
      have hq : q.requestedSurfaces surfaces = (start appId).requestedSurfaces surfaces := by
        rw [← h.right]
        rfl
      dsimp only [Pipeline.pendingAfter, Operation.opens?] at hkey ⊢
      rw [hp, hq]
      by_cases hnone : ((start appId).requestedSurfaces surfaces).isEmpty = true
      · simp only [hnone, ↓reduceIte, reduceCtorEq, or_false] at hkey ⊢
        exact h.pending key hkey
      · simp only [hnone, Bool.false_eq_true, ↓reduceIte] at hkey ⊢
        exact h.register freshId _ key hkey
  | register id surfaces => exact h.register id surfaces key hkey
  | fragment event =>
      have hknown : known key := hkey.resolve_right (by simp only [Operation.opens?, reduceCtorEq,
        not_false_eq_true])
      dsimp only [Pipeline.pendingAfter]
      cases hevent : Fragment.ofEvent? event with
      | none => exact h.pending key hknown
      | some fragment =>
          have hanswered : known fragment.request := hop fragment.request (by
            rw [Operation.answers?, hevent, Option.map_some])
          dsimp only
          rw [PendingRequests.get?_append, PendingRequests.get?_append, h.pending key hknown,
            h.pending fragment.request hanswered]
  | completion event =>
      have hknown : known key := hkey.resolve_right (by simp only [Operation.opens?, reduceCtorEq,
        not_false_eq_true])
      dsimp only [Pipeline.pendingAfter]
      cases completedRequest? event with
      | none => exact h.pending key hknown
      | some id =>
          dsimp only
          rw [PendingRequests.get?_complete, PendingRequests.get?_complete, h.pending key hknown]
  | clear surfaces =>
      exact h.pending key (hkey.resolve_right (by simp only [Operation.opens?, reduceCtorEq,
        not_false_eq_true]))

/-- Pipelines in step are in step after an operation. -/
theorem InStep.after (h : InStep appId known p q) {op : Operation}
    (hop : ∀ id, op.answers? = some id → known id) :
    InStep appId (fun id => known id ∨ op.opens? appId = some id) (p.after op) (q.after op) := by
  have hpending := h.pendingAfter hop
  -- Both write the same, since they agree on the requests that can be answered.
  cases hwrite : p.write? op with
  | none =>
      rw [p.after_of_no_write hwrite, q.after_of_no_write (h.write?_eq hop ▸ hwrite)]
      exact { h with pending := hpending }
  | some w =>
      rw [p.after_of_write hwrite, q.after_of_write (h.write?_eq hop ▸ hwrite)]
      constructor
      case left => exact h.left
      case right => exact h.right
      case pending => exact hpending
      case persisted =>
        change (p.persisted.merge w.surfaces w.image.persisted.lists).2
          = (q.persisted.merge w.surfaces w.image.persisted.lists).2
        rw [h.persisted]
      case inApp =>
        change (p.retained.rules.inApp.merge w.surfaces w.image.rules.inApp.lists).2
          = (q.retained.rules.inApp.merge w.surfaces w.image.rules.inApp.lists).2
        rw [h.inApp]

/-- No cache has a part in what operations do. -/
theorem carriedOut_eq (home : Home (StateM σ)) (p : Pipeline) (steps : List (Operation × σ)) :
    p.carriedOut home steps = (steps.map Prod.fst).foldl after p := by
  induction steps generalizing p with
  | nil => rfl
  | cons step rest ih =>
      rw [carriedOut, List.foldl_cons, (p.perform_run home step.1 step.2).1]
      exact ih (p.after step.1)

theorem InStep.foldl_after (h : InStep appId known p q) {ops : List Operation}
    (hops : OnlyAnswers appId known ops) :
    ∃ known, InStep appId known (ops.foldl Pipeline.after p) (ops.foldl Pipeline.after q) := by
  induction ops generalizing p q known with
  | nil => exact ⟨known, h⟩
  | cons op rest ih => exact ih (h.after hops.1) hops.2

theorem Coherent.foldl_after (h : p.Coherent) (ops : List Operation) :
    (ops.foldl Pipeline.after p).Coherent := by
  induction ops generalizing p with
  | nil => exact h
  | cons op rest ih => exact ih (h.after op)

theorem InStep.sameAppContent (h : InStep appId known p q) (hq : q.Coherent) :
    p.SameAppContent q where
  persisted := h.persisted
  inApp := fun s => by rw [h.inApp]
  compiled := fun s => (hq.restorable s).compiled

/-- A restart loses no in-app content. Whatever a pipeline over a cache that keeps
    its entry and started empty went through, restarts included, a new pipeline
    that loads from the cache has the same persisted propositions and the same
    in-app rules, and these are the rules of the propositions. This remains so
    while both carry out the same operations, with whatever the cache has become
    then, unless requests that were open before the restart are answered
    without being opened again. -/
theorem restart_keeps_app_content {cache : Cache (StateM σ)} {key : String}
    {held : σ → Option CacheEntry} (hcache : cache.KeepsEntry key held) {empty : σ}
    (hempty : held empty = none) (appId : String) (life : List LifeEvent) :
    let home : Home (StateM σ) := ⟨some cache, key⟩
    let old := (live home appId (start appId) life).run empty
    let new := (restart home appId).run old.2
    new.1.SameAppContent old.1
      ∧ ∀ newSteps oldSteps : List (Operation × σ),
        newSteps.map Prod.fst = oldSteps.map Prod.fst →
        OnlyAnswers appId (fun id => old.1.pending.get? id = none) (oldSteps.map Prod.fst) →
        (new.1.carriedOut home newSteps).SameAppContent (old.1.carriedOut home oldSteps) := by
  intro home old new
  have hsaved : old.1.Saved held appId old.2 :=
    hcache.saved_live ⟨coherent_start appId, hempty, rfl⟩ life
  have hnew : new.1 = (start appId).restoredFrom old.1.persisted :=
    (hcache.restart_run hsaved.coherent hsaved.entry appId).1
  -- Of the open requests, the pipelines agree about those that neither has.
  have hstep : InStep appId (fun id => old.1.pending.get? id = none) new.1 old.1 := by
    rw [hnew]
    exact {
      left := rfl
      right := hsaved.appId
      persisted := rfl
      inApp := hsaved.coherent.inApp_restoredFrom appId
      pending := fun id hid => hid.symm }
  refine ⟨hstep.sameAppContent hsaved.coherent, ?_⟩
  intro newSteps oldSteps hsame hanswers
  rw [carriedOut_eq, carriedOut_eq, hsame]
  rcases hstep.foldl_after hanswers with ⟨known, hknown⟩
  exact hknown.sameAppContent (hsaved.coherent.foldl_after _)

/-- A life in which one in-app message arrives. -/
def messageLife (s : Surface) : List LifeEvent :=
  let rule : Json := .obj [("condition", .obj []), ("consequences", .arr [.obj [
    ("detail", .obj []), ("id", .str "message"), ("type", .str legacyInAppType)]])]
  let item : Json := .obj [("data", .obj [("rules", .arr [rule])]), ("id", .str "item"),
    ("schema", .str ContentSchema.ruleset.uri)]
  let proposition : Json := .obj [("id", .str "proposition"), ("items", .arr [item]),
    ("scope", .str s.uri)]
  [.operation (.register "request" (.ofList [s])),
    .operation (.fragment (Fragment.event "request" (.arr [proposition]))),
    .operation (.completion (completionEvent "request"))]

/-- A message is still there after a restart over a cache in memory, and forgotten
    by both pipelines when its surface is. -/
theorem restart_keeps_message :
    let s : Surface := ⟨"mobileapp://app"⟩
    let home : Home (StateM MemoryCache) := ⟨some MemoryCache.cache, "propositions"⟩
    let old := (live home "app" (start "app") (messageLife s)).run .empty
    let new := (restart home "app").run old.2
    let clear := [(Operation.clear [s], new.2)]
    (new.1.persisted.get s).length = 1 ∧ new.1.SameAppContent old.1
      ∧ (new.1.carriedOut home clear).SameAppContent (old.1.carriedOut home clear) := by
  intro s home old new clear
  have hcache : MemoryCache.cache.KeepsEntry "propositions" (fun c => c.get? "propositions") :=
    MemoryCache.keepsEntry rfl
  have hempty : (SortedMap.empty : MemoryCache).get? "propositions" = none := rfl
  have hkeep := restart_keeps_app_content hcache hempty "app" (messageLife s)
  refine ⟨by decide +kernel, hkeep.1, hkeep.2 clear clear rfl ⟨?_, trivial⟩⟩
  intro id hid
  exact absurd hid (by simp only [Operation.answers?, reduceCtorEq, not_false_eq_true])

end Pipeline

end Decisioning
