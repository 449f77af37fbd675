import Decisioning.Proofs.Reading
import Decisioning.Proofs.Replay
import Decisioning.Proofs.RequestLedger

/-!
# Drawn Ids

Why the ids that are drawn for the requests of a session do not show.

What a session does with requests it does under labels, and that is a history of steps
from which a ledger is kept. A replay that draws ids keeps the same ledger under these
ids, which is `Replay.Follows`, whatever they are, as long as none is drawn twice and no
label is taken for one. So the answer to a step, and the batch that is written if a
request is completed, can be read from the ledger. Two replays with supplies of their own
follow one ledger and therefore do the same, step by step. The stores need not be looked
into for that: a write depends on the surfaces and the image of its batch, and the id of
the batch is only passed on.

The ledger also tells which request a step concerns. A label stands for the newest
request that was opened under it. A request that is refused opens nothing, so the label
keeps standing for the request before it. A request that is opened takes the label away
from the one before it, which then stays open for good.

## Main definitions

* `Step.requestStep?`, `requestSteps`: What steps do with requests, under labels.
* `IsFresh`: A supply of ids for the steps of a session.
* `Pipeline.settled`: A pipeline apart from its open requests.
* `Replay.Follows`: A replay keeps a ledger under drawn ids.
* `Replay.TakesFragment`, `TakesCompletion`: What comes of a step under a label.

## Theorems

* `Replay.step_request_run`, `step_fragment_run`, `step_complete_run`, `step_clear_run`:
  The steps of a session.
* `Replay.Follows.step`, `Follows.run`: Steps keep to the ledger.
* `Replay.step_agrees`, `run_agrees`: Replays with the same ledger do the same.
* `Replay.Follows.takesFragment`, `takesCompletion`: Which request a step concerns.
* `Session.replay_does_not_depend_on_ids`: Ids do not show.
-/

namespace Decisioning

namespace Step

/-- The label of a step, if it has one. -/
def label? : Step → Option String
  | .request label _ | .fragment label _ | .complete label => some label
  | .clear _ => none

/-- What a step does with requests, under its label. A request without a surface to ask
    for is not opened. -/
def requestStep? (appId : String) : Step → Option RequestStep
  | .request label surfaces =>
      let requested := (Pipeline.start appId).requestedSurfaces (surfaces.map Surface.mk)
      if requested.isEmpty then none else some (.register label requested)
  | .fragment label payload =>
      some (.append label (Proposition.ofPayload (Fragment.event label payload)))
  | .complete label => some (.complete label)
  | .clear _ => none

end Step

/-- What steps do with requests, under their labels. -/
def requestSteps (appId : String) (steps : List Step) : List RequestStep :=
  steps.filterMap (Step.requestStep? appId)

theorem requestSteps_singleton (appId : String) (s : Step) :
    requestSteps appId [s] = (s.requestStep? appId).toList := by
  rw [requestSteps]
  cases hs : s.requestStep? appId with
  | none => rw [List.filterMap_cons_none hs]; rfl
  | some step => rw [List.filterMap_cons_some hs]; rfl

theorem requestSteps_append (appId : String) (steps later : List Step) :
    requestSteps appId (steps ++ later) = requestSteps appId steps ++ requestSteps appId later :=
  List.filterMap_append

/-- A supply has every id once, none of them is empty, and none is a label in the steps. -/
structure IsFresh (supply : Nat → String) (steps : List Step) : Prop where
  distinct : Function.Injective supply
  nonEmpty : ∀ number, (supply number).isEmpty = false
  noLabel : ∀ s ∈ steps, ∀ label, s.label? = some label → ∀ number, supply number ≠ label

theorem IsFresh.mono {supply : Nat → String} {steps part : List Step} (h : IsFresh supply steps)
    (hpart : part ⊆ steps) : IsFresh supply part :=
  ⟨h.distinct, h.nonEmpty, fun s hs => h.noLabel s (hpart hs)⟩

theorem IsFresh.of_append {supply : Nat → String} {before after : List Step} {s : Step}
    (h : IsFresh supply (before ++ s :: after)) : IsFresh supply before ∧ IsFresh supply [s] :=
  ⟨h.mono (List.subset_append_left _ _), h.mono (List.cons_subset.mpr
    ⟨List.mem_append_right _ List.mem_cons_self, List.nil_subset _⟩)⟩

/-- What a closed request hands over under an id. -/
def PendingRequest.batch (request : PendingRequest) (id : String) : Batch :=
  { request := id, surfaces := request.surfaces, propositions := request.propositions }

theorem nonEmptyString?_of_isEmpty {name id : String} {value : Json}
    (hget : value.get? name = some (.str id)) (hid : id.isEmpty = true) :
    nonEmptyString? name value = none := by
  rw [nonEmptyString?, Json.string?_eq_some_iff.mpr hget, Option.filter_some,
    if_neg (by rw [hid]; exact Bool.false_ne_true)]

namespace Pipeline

variable {p q : Pipeline}

/-- A pipeline without its open requests. -/
def settled (p : Pipeline) : Pipeline := { p with pending := .empty }

/-- What is sent out with a write. -/
def receipt (p : Pipeline) (w : Write) : Receipt := .ofPlan (p.reconcilePlan w.surfaces w.image)

/-- A write needs no open requests, nor the id of the request that it comes from. -/
theorem written_agrees {σ : Type} (home : Home (StateM σ)) (h : p.settled = q.settled)
    {w v : Write} (hsurfaces : w.surfaces = v.surfaces) (himage : w.image = v.image) (c : σ) :
    p.receipt w = q.receipt v ∧ (p.written w).settled = (q.written v).settled
      ∧ ((home.save (p.written w).persisted).run c).2
        = ((home.save (q.written v).persisted).run c).2 := by
  have hwritten : (p.written w).settled = (q.written v).settled := by
    change p.settled.written w = q.settled.written v
    rw [h, written, written, hsurfaces, himage]
  have hpersisted : (p.written w).settled.persisted = (q.written v).settled.persisted := by
    rw [hwritten]
  change (p.written w).persisted = (q.written v).persisted at hpersisted
  refine ⟨?_, hwritten, by rw [hpersisted]⟩
  change p.settled.receipt w = q.settled.receipt v
  rw [h, receipt, receipt, hsurfaces, himage]

/-- An event that carries a payload under an id adds to the open request with it. -/
theorem receiveEvent_event {id : String}
    (hid : id.isEmpty = true → p.pending.get? id = none) (label : String) (payload : Json) :
    p.receiveEvent (Fragment.event id payload)
      = ((p.pending.get? id).isSome, { p with
          pending := (p.pending.append id
            (Proposition.ofPayload (Fragment.event label payload))).2 }) := by
  cases hempty : id.isEmpty with
  | false =>
      -- Only the payload is read of an event, so the id in it makes no difference.
      have hread : Fragment.ofEvent? (Fragment.event id payload)
          = some { request := id
                   propositions := Proposition.ofPayload (Fragment.event label payload) } :=
        Fragment.ofEvent?_event hempty payload
      rw [receiveEvent, hread]
      dsimp only [receive]
      rw [PendingRequests.append_fst]
  | true =>
      have hread : Fragment.ofEvent? (Fragment.event id payload) = none := by
        rw [Fragment.ofEvent?, nonEmptyString?_of_isEmpty rfl hempty, Option.map_none]
      rw [receiveEvent, hread, hid hempty, PendingRequests.append_of_none (hid hempty)]
      rfl

variable {σ : Type} (home : Home (StateM σ))

/-- An event that ends a request under an id closes the open request with it, and writes
    its batch. -/
theorem completeEvent_run {id : String} (hid : id.isEmpty = true → p.pending.get? id = none)
    (c : σ) :
    (p.completeEvent home (completionEvent id)).run c
      = match p.pending.get? id with
        | none => ((none, p), c)
        | some request =>
            let w : Write := .complete (request.batch id)
            let q := written { p with pending := (p.pending.complete id).2 } w
            ((some {
                request := id
                propositions := request.propositions.length
                dispatched := p.receipt w }, q),
              ((home.save q.persisted).run c).2) := by
  cases hempty : id.isEmpty with
  | true =>
      have hread : completedRequest? (completionEvent id) = none :=
        nonEmptyString?_of_isEmpty rfl hempty
      rw [completeEvent, hread, hid hempty]
      rfl
  | false =>
      rw [completeEvent, completedRequest?_completionEvent hempty]
      dsimp only
      rw [complete_run, PendingRequests.complete]
      cases p.pending.get? id with
      | none => rfl
      | some request => rfl

end Pipeline

namespace Replay

variable {σ : Type} (home : Home (StateM σ)) {supply : Nat → String}

section Steps

variable (supply) (r : Replay)

theorem step_request_run (label : String) (surfaces : List String) (c : σ) :
    let requested := r.pipeline.requestedSurfaces (surfaces.map Surface.mk)
    (r.step home supply (.request label surfaces)).run c
      = if requested.isEmpty then ((.request label surfaces.length false, r), c)
        else ((.request label surfaces.length true, {
          pipeline := r.pipeline.register (supply r.issued) requested
          labels := r.labels.insert label (supply r.issued)
          issued := r.issued + 1 }), c) := by
  intro requested
  change (r.request supply label surfaces, c) = _
  rw [request, Pipeline.request]
  by_cases hempty : requested.isEmpty = true
  · rw [if_pos hempty, if_pos hempty]
  · rw [if_neg hempty, if_neg hempty]

variable {r} (label : String)
  (hid : (r.idOf label).isEmpty = true → r.pipeline.pending.get? (r.idOf label) = none)

include hid in
theorem step_fragment_run (payload : Json) (c : σ) :
    (r.step home supply (.fragment label payload)).run c
      = ((.fragment label (r.pipeline.pending.get? (r.idOf label)).isSome, { r with
          pipeline := { r.pipeline with
            pending := (r.pipeline.pending.append (r.idOf label)
              (Proposition.ofPayload (Fragment.event label payload))).2 } }), c) := by
  change (r.fragment label payload, c) = _
  rw [fragment, Pipeline.receiveEvent_event hid label]

include hid in
theorem step_complete_run (c : σ) :
    (r.step home supply (.complete label)).run c
      = match r.pipeline.pending.get? (r.idOf label) with
        | none => ((.complete label none, r), c)
        | some request =>
            let pending := (r.pipeline.pending.complete (r.idOf label)).2
            let w : Write := .complete (request.batch (r.idOf label))
            let q := Pipeline.written { r.pipeline with pending } w
            ((.complete label (some {
                request := r.idOf label
                propositions := request.propositions.length
                dispatched := r.pipeline.receipt w }), { r with pipeline := q }),
              ((home.save q.persisted).run c).2) := by
  have hstep : (r.step home supply (.complete label)).run c
      = let done := (r.pipeline.completeEvent home (completionEvent (r.idOf label))).run c
        ((.complete label done.1.1, { r with pipeline := done.1.2 }), done.2) := rfl
  rw [hstep, Pipeline.completeEvent_run home hid]
  cases r.pipeline.pending.get? (r.idOf label) with
  | none => rfl
  | some request => rfl

theorem step_clear_run (surfaces : List String) (c : σ) :
    (r.step home supply (.clear surfaces)).run c
      = let w : Write := .clear (.ofList (surfaces.map Surface.mk))
        ((.clear surfaces (r.pipeline.receipt w), { r with pipeline := r.pipeline.written w }),
          ((home.save (r.pipeline.written w).persisted).run c).2) := by
  have hstep : (r.step home supply (.clear surfaces)).run c
      = let done := (r.pipeline.clear home (surfaces.map Surface.mk)).run c
        ((.clear surfaces done.1.1, { r with pipeline := done.1.2 }), done.2) := rfl
  have hclear := r.pipeline.clear_run home (surfaces.map Surface.mk) c
  rw [hstep]
  dsimp only
  rw [hclear.1, hclear.2, Pipeline.clear_receipt]
  rfl

end Steps

/-- A replay has the requests of a ledger, each under the id that was drawn for it, and
    its labels stand for the same requests. -/
structure Follows (r : Replay) (appId : String) (supply : Nat → String) (ledger : Ledger) :
    Prop where
  appId : r.pipeline.appId = appId
  issued : r.issued = ledger.count
  labels : ∀ label, r.labels.get? label = (ledger.newest label).map supply
  pending : ledger.IsRecordedBy supply r.pipeline.pending

variable {appId : String} {ledger : Ledger} {r : Replay}

theorem Follows.idOf_eq (h : r.Follows appId supply ledger) (label : String) :
    r.idOf label = ledger.idOf supply label := by
  rw [idOf, h.labels]
  rfl

theorem Follows.get?_idOf (h : r.Follows appId supply ledger) {label : String}
    (hlabel : ∀ number, supply number ≠ label) :
    r.pipeline.pending.get? (r.idOf label) = ledger.open? label := by
  rw [h.idOf_eq]
  exact h.pending.get?_idOf hlabel

/-- The empty text is no id of an open request, as it is never drawn. -/
theorem Follows.get?_of_isEmpty (h : r.Follows appId supply ledger)
    (hnonEmpty : ∀ number, (supply number).isEmpty = false) {id : String}
    (hid : id.isEmpty = true) : r.pipeline.pending.get? id = none := by
  refine h.pending.get?_other id ?_
  rintro number rfl
  exact absurd hid (by rw [hnonEmpty]; exact Bool.false_ne_true)

theorem Follows.register (h : r.Follows appId supply ledger)
    (hdistinct : Function.Injective supply) {label : String}
    (hlabel : ∀ number, supply number ≠ label) (requested : SurfaceSet) :
    Follows {
      pipeline := r.pipeline.register (supply r.issued) requested
      labels := r.labels.insert label (supply r.issued)
      issued := r.issued + 1 } appId supply (ledger.take (.register label requested)) where
  appId := h.appId
  issued := congrArg (· + 1) h.issued
  labels := by
    intro key
    change (r.labels.insert label (supply r.issued)).get? key
      = (Function.update ledger.newest label (some ledger.count) key).map supply
    rw [SortedMap.get?_insert, h.issued]
    -- The label now stands for the newest id, and the others for those they stood for.
    by_cases hkey : key = label
    · rw [if_pos hkey, hkey, Function.update_self, Option.map_some]
    · rw [if_neg hkey, Function.update_of_ne hkey, h.labels]
  pending := by
    have hopened := h.pending.perform hdistinct (.register label requested) hlabel
    rw [Ledger.named, ← h.issued] at hopened
    exact hopened

theorem Follows.take (h : r.Follows appId supply ledger) (step : RequestStep)
    (hstep : step.isRegistration = false) (pipeline : Pipeline)
    (happId : pipeline.appId = r.pipeline.appId)
    (hpending : (ledger.take step).IsRecordedBy supply pipeline.pending) :
    Follows { r with pipeline } appId supply (ledger.take step) where
  appId := happId.trans h.appId
  issued := by
    rw [Ledger.count_take, hstep, if_neg Bool.false_ne_true]
    exact h.issued
  labels := by
    rw [Ledger.newest_take hstep]
    exact h.labels
  pending := hpending

theorem Follows.requestedSurfaces_eq (h : r.Follows appId supply ledger)
    (surfaces : List Surface) :
    r.pipeline.requestedSurfaces surfaces
      = (Pipeline.start appId).requestedSurfaces surfaces := by
  rw [Pipeline.requestedSurfaces, h.appId]
  rfl

/-- The log tells which requests were opened. -/
theorem Follows.request_report (h : r.Follows appId supply ledger) (label : String)
    (surfaces : List String) (c : σ) :
    ((r.step home supply (.request label surfaces)).run c).1.1
      = .request label surfaces.length
          ((Step.request label surfaces).requestStep? appId).isSome := by
  let requested := (Pipeline.start appId).requestedSurfaces (surfaces.map Surface.mk)
  rw [step_request_run, h.requestedSurfaces_eq, Step.requestStep?]
  by_cases hempty : requested.isEmpty = true
  · rw [if_pos hempty, if_pos hempty]
    rfl
  · rw [if_neg hempty, if_neg hempty]
    rfl

/-- What a step does with requests, it does with the ledger. -/
theorem Follows.step (h : r.Follows appId supply ledger) {s : Step} (hfresh : IsFresh supply [s])
    (c : σ) : ((r.step home supply s).run c).1.2.Follows appId supply
      (ledger.after (requestSteps appId [s])) := by
  have hlabel := hfresh.noLabel s List.mem_cons_self
  rw [requestSteps_singleton]
  cases s with
  | request label surfaces =>
      let requested := (Pipeline.start appId).requestedSurfaces (surfaces.map Surface.mk)
      have hrun := step_request_run home supply r label surfaces c
      dsimp only at hrun
      rw [h.requestedSurfaces_eq] at hrun
      by_cases hempty : requested.isEmpty = true
      · have hnone : (Step.request label surfaces).requestStep? appId = none := if_pos hempty
        rw [hrun, if_pos hempty, hnone]
        exact h
      · have hsome : (Step.request label surfaces).requestStep? appId
            = some (.register label requested) := if_neg hempty
        rw [hrun, if_neg hempty, hsome]
        exact h.register hfresh.distinct (hlabel label rfl) requested
  | fragment label payload =>
      rw [step_fragment_run home supply label (h.get?_of_isEmpty hfresh.nonEmpty)]
      have hadded := h.pending.perform hfresh.distinct
        (.append label (Proposition.ofPayload (Fragment.event label payload))) (hlabel label rfl)
      rw [Ledger.named, ← h.idOf_eq] at hadded
      exact h.take (.append label _) rfl { r.pipeline with pending := _ } rfl hadded
  | complete label =>
      have hclosed := h.pending.perform hfresh.distinct (.complete label) (hlabel label rfl)
      rw [Ledger.named, ← h.idOf_eq] at hclosed
      have hrun := step_complete_run home supply label (h.get?_of_isEmpty hfresh.nonEmpty) c
      cases hget : r.pipeline.pending.get? (r.idOf label) with
      | none =>
          rw [hget] at hrun
          rw [hrun]
          -- The replay leaves the requests alone, which is what closing an unknown one does.
          have hunknown : (r.pipeline.pending.complete (r.idOf label)).2 = r.pipeline.pending :=
            PendingRequests.complete_of_none (by
              rw [PendingRequests.complete_fst, hget, Option.map_none])
          rw [PendingRequests.perform, hunknown] at hclosed
          exact h.take (.complete label) rfl r.pipeline rfl hclosed
      | some request =>
          rw [hget] at hrun
          rw [hrun]
          exact h.take (.complete label) rfl _ rfl hclosed
  | clear surfaces =>
      rw [step_clear_run]
      exact ⟨h.appId, h.issued, h.labels, h.pending⟩

theorem Follows.run (h : r.Follows appId supply ledger) {steps : List Step}
    (hfresh : IsFresh supply steps) (c : σ) :
    ((r.run home supply steps).run c).1.2.Follows appId supply
      (ledger.after (requestSteps appId steps)) := by
  induction steps generalizing r ledger c with
  | nil => exact h
  | cons s rest ih =>
      have hfirst := h.step home (hfresh.mono (List.cons_subset_cons s (List.nil_subset rest))) c
      have hrest := ih hfirst (hfresh.mono (List.subset_cons_self s rest))
        ((r.step home supply s).run c).2
      have hsteps : requestSteps appId (s :: rest)
          = requestSteps appId [s] ++ requestSteps appId rest := requestSteps_append appId [s] rest
      rw [run_cons_run, hsteps, Ledger.after_append]
      exact hrest

/-- Two replays with the same requests, each under ids of its own, go on alike. -/
theorem step_agrees {other : Nat → String} {r' : Replay} (h : r.Follows appId supply ledger)
    (h' : r'.Follows appId other ledger) (hsettled : r.pipeline.settled = r'.pipeline.settled)
    {s : Step} (hfresh : IsFresh supply [s]) (hother : IsFresh other [s]) (c : σ) :
    let done := (r.step home supply s).run c
    let done' := (r'.step home other s).run c
    done.1.1.toJson = done'.1.1.toJson
      ∧ done.1.2.pipeline.settled = done'.1.2.pipeline.settled ∧ done.2 = done'.2 := by
  have hlabel := hfresh.noLabel s List.mem_cons_self
  have hlabel' := hother.noLabel s List.mem_cons_self
  -- Both find what the ledger has under the label.
  have hsame : ∀ label, s.label? = some label →
      r.pipeline.pending.get? (r.idOf label) = r'.pipeline.pending.get? (r'.idOf label) := by
    intro label hs
    rw [h.get?_idOf (hlabel label hs), h'.get?_idOf (hlabel' label hs)]
  cases s with
  | request label surfaces =>
      let requested := (Pipeline.start appId).requestedSurfaces (surfaces.map Surface.mk)
      rw [step_request_run, step_request_run, h.requestedSurfaces_eq, h'.requestedSurfaces_eq]
      by_cases hempty : requested.isEmpty = true
      · rw [if_pos hempty, if_pos hempty]
        exact ⟨rfl, hsettled, rfl⟩
      · rw [if_neg hempty, if_neg hempty]
        exact ⟨rfl, hsettled, rfl⟩
  | fragment label payload =>
      rw [step_fragment_run home supply label (h.get?_of_isEmpty hfresh.nonEmpty),
        step_fragment_run home other label (h'.get?_of_isEmpty hother.nonEmpty), hsame label rfl]
      exact ⟨rfl, hsettled, rfl⟩
  | complete label =>
      have hrun := step_complete_run home supply label (h.get?_of_isEmpty hfresh.nonEmpty) c
      have hrun' := step_complete_run home other label (h'.get?_of_isEmpty hother.nonEmpty) c
      rw [hsame label rfl] at hrun
      cases hget : r'.pipeline.pending.get? (r'.idOf label) with
      | none =>
          rw [hget] at hrun hrun'
          rw [hrun, hrun']
          exact ⟨rfl, hsettled, rfl⟩
      | some request =>
          rw [hget] at hrun hrun'
          rw [hrun, hrun']
          -- The batches differ in their ids, and these are used for nothing.
          rcases Pipeline.written_agrees home
            (p := { r.pipeline with pending := (r.pipeline.pending.complete (r.idOf label)).2 })
            (q := { r'.pipeline with pending := (r'.pipeline.pending.complete (r'.idOf label)).2 })
            hsettled
            (w := .complete (request.batch (r.idOf label)))
            (v := .complete (request.batch (r'.idOf label))) rfl rfl c with ⟨hreceipt, hafter⟩
          exact ⟨congrArg (fun receipt => (StepReport.complete label (some {
            request := r.idOf label
            propositions := request.propositions.length
            dispatched := receipt })).toJson) hreceipt, hafter⟩
  | clear surfaces =>
      rcases Pipeline.written_agrees home hsettled
        (w := .clear (.ofList (surfaces.map Surface.mk))) rfl rfl c with ⟨hreceipt, hafter⟩
      rw [step_clear_run, step_clear_run]
      exact ⟨congrArg (fun receipt => (StepReport.clear surfaces receipt).toJson) hreceipt, hafter⟩

/-- Two replays with the same requests, each under ids of its own, write the same log. -/
theorem run_agrees {other : Nat → String} {r' : Replay} (h : r.Follows appId supply ledger)
    (h' : r'.Follows appId other ledger) (hsettled : r.pipeline.settled = r'.pipeline.settled)
    {steps : List Step} (hfresh : IsFresh supply steps) (hother : IsFresh other steps) (c : σ) :
    let done := (r.run home supply steps).run c
    let done' := (r'.run home other steps).run c
    done.1.1.map StepReport.toJson = done'.1.1.map StepReport.toJson
      ∧ done.1.2.pipeline.settled = done'.1.2.pipeline.settled ∧ done.2 = done'.2 := by
  induction steps generalizing r r' ledger c with
  | nil => exact ⟨rfl, hsettled, rfl⟩
  | cons s rest ih =>
      have hhead : [s] ⊆ s :: rest := List.cons_subset_cons s (List.nil_subset rest)
      have htail : rest ⊆ s :: rest := List.subset_cons_self s rest
      -- After one step both sides agree again, so the rest of the steps does.
      rcases step_agrees home h h' hsettled (hfresh.mono hhead) (hother.mono hhead) c with
        ⟨hentry, hstores, hcache⟩
      rcases ih (h.step home (hfresh.mono hhead) c) (h'.step home (hother.mono hhead) c) hstores
        (hfresh.mono htail) (hother.mono htail) ((r.step home supply s).run c).2 with ⟨hlog, hrest⟩
      rw [run_cons_run, run_cons_run]
      dsimp only
      rw [List.map_cons, List.map_cons, ← hcache, hentry, hlog]
      exact ⟨rfl, hrest⟩

/-- Where the steps of a session lead, and what they leave in the cache. What was
    persisted is restored first. -/
def reached (appId : String) (supply : Nat → String) (c : σ) (steps : List Step) : Replay × σ :=
  let loaded := ((Pipeline.start appId).load home).run c
  let done := ((start loaded.1.2).run home supply steps).run loaded.2
  (done.1.2, done.2)

theorem follows_start (appId : String) (supply : Nat → String) (c : σ) :
    (start (((Pipeline.start appId).load home).run c).1.2).Follows appId supply .empty := by
  have hloaded := (Pipeline.start appId).load_run home c
  rw [hloaded.1]
  cases (home.stored?.run c).1 with
  | none => exact ⟨rfl, rfl, fun _ => rfl, Ledger.isRecordedBy_empty⟩
  | some loaded => exact ⟨rfl, rfl, fun _ => rfl, Ledger.isRecordedBy_empty⟩

theorem follows_reached (appId : String) {steps : List Step} (hfresh : IsFresh supply steps)
    (c : σ) : (reached home appId supply c steps).1.Follows appId supply
      (Ledger.empty.after (requestSteps appId steps)) :=
  (follows_start home appId supply c).run home hfresh _

/-- Of the labels and the open requests, only the request with an id may have changed. -/
structure DiffersOnlyAt (id : String) (r next : Replay) : Prop where
  labels : next.labels = r.labels
  issued : next.issued = r.issued
  others : ∀ key, key ≠ id → next.pipeline.pending.get? key = r.pipeline.pending.get? key

/-- What comes of a fragment under a label, after steps with some history. It is accepted
    if the newest request under the label is open, adds to this request and does nothing
    else. Otherwise it does nothing at all. -/
structure TakesFragment (supply : Nat → String) (history : List RequestStep) (label : String)
    (propositions : List Proposition) (r : Replay × σ) (next : (StepReport × Replay) × σ) :
    Prop where
  accepted_iff : next.1.1 = .fragment label true
    ↔ ∃ number surfaces since, OpenUnder label history number surfaces since
  accepted : ∀ {number surfaces since}, OpenUnder label history number surfaces since →
    let received : PendingRequest := {
      surfaces
      propositions := since.flatMap (RequestStep.additions label)
      fragments := since.countP fun step => step.id = label }
    r.1.pipeline.pending.get? (supply number) = some received
      ∧ next.1.2.pipeline.pending.get? (supply number) = some { received with
          propositions := received.propositions ++ propositions
          fragments := received.fragments + 1 }
      ∧ DiffersOnlyAt (supply number) r.1 next.1.2
      ∧ next.1.2.pipeline.settled = r.1.pipeline.settled ∧ next.2 = r.2
  dropped : (¬∃ number surfaces since, OpenUnder label history number surfaces since) →
    next = ((.fragment label false, r.1), r.2)

/-- What comes of a completion under a label, after steps with some history. If the newest
    request under the label is open, it is closed, and what was added to it is written for
    its surfaces. Otherwise nothing happens. -/
structure TakesCompletion (supply : Nat → String) (history : List RequestStep) (label : String)
    (r : Replay × σ) (next : (StepReport × Replay) × σ) : Prop where
  accepted_iff : (∃ report, next.1.1 = .complete label (some report))
    ↔ ∃ number surfaces since, OpenUnder label history number surfaces since
  accepted : ∀ {number surfaces since}, OpenUnder label history number surfaces since →
    let batch : Batch := {
      request := supply number
      surfaces
      propositions := since.flatMap (RequestStep.additions label) }
    next.1.1 = .complete label (some {
        request := supply number
        propositions := batch.propositions.length
        dispatched := r.1.pipeline.receipt (.complete batch) })
      ∧ next.1.2.pipeline.pending.get? (supply number) = none
      ∧ DiffersOnlyAt (supply number) r.1 next.1.2
      ∧ next.1.2.pipeline.settled = r.1.pipeline.settled.written (.complete batch)
      ∧ next.2 = ((home.save next.1.2.pipeline.persisted).run r.2).2
  dropped : (¬∃ number surfaces since, OpenUnder label history number surfaces since) →
    next = ((.complete label none, r.1), r.2)

section Concerned

variable {history : List RequestStep} {label : String}

theorem Follows.idOf_of_openUnder (h : r.Follows appId supply (.after .empty history))
    {number : Nat} {surfaces : SurfaceSet} {since : List RequestStep}
    (hopen : OpenUnder label history number surfaces since) : r.idOf label = supply number := by
  rw [h.idOf_eq, Ledger.idOf, (Ledger.open?_after_of_openUnder hopen).1, Option.map_some,
    Option.getD_some]

theorem Follows.takesFragment (h : r.Follows appId supply (.after .empty history)) {payload : Json}
    (hfresh : IsFresh supply [.fragment label payload]) (c : σ) :
    TakesFragment supply history label (Proposition.ofPayload (Fragment.event label payload))
      (r, c) ((r.step home supply (.fragment label payload)).run c) := by
  have hget := h.get?_idOf (hfresh.noLabel _ List.mem_cons_self label rfl)
  rw [step_fragment_run home supply label (h.get?_of_isEmpty hfresh.nonEmpty)]
  constructor
  case accepted_iff =>
    rw [← Ledger.isSome_open?_after, ← hget, StepReport.fragment.injEq]
    exact and_iff_right rfl
  case accepted =>
    intro number surfaces since hopen received
    have hid := h.idOf_of_openUnder hopen
    rw [hid, (Ledger.open?_after_of_openUnder hopen).2] at hget
    refine ⟨hget, ?_, ⟨rfl, rfl, fun key hkey => ?_⟩, rfl, rfl⟩
    · dsimp only
      rw [hid, PendingRequests.get?_append, if_pos rfl, hget, Option.map_some]
    · dsimp only
      rw [hid, PendingRequests.get?_append, if_neg hkey]
  case dropped =>
    intro hclosed
    rw [← Ledger.isSome_open?_after, Option.not_isSome_iff_eq_none, ← hget] at hclosed
    rw [hclosed, PendingRequests.append_of_none hclosed]
    rfl

theorem Follows.takesCompletion (h : r.Follows appId supply (.after .empty history))
    (hfresh : IsFresh supply [.complete label]) (c : σ) :
    TakesCompletion home supply history label (r, c)
      ((r.step home supply (.complete label)).run c) := by
  have hget := h.get?_idOf (hfresh.noLabel _ List.mem_cons_self label rfl)
  have hrun := step_complete_run home supply label (h.get?_of_isEmpty hfresh.nonEmpty) c
  rw [hget] at hrun
  constructor
  case accepted_iff =>
    rw [← Ledger.isSome_open?_after]
    -- There is a report exactly if there is a request to report on.
    cases hopen : (Ledger.after .empty history).open? label with
    | none =>
        rw [hopen] at hrun
        rw [hrun]
        simp only [StepReport.complete.injEq, reduceCtorEq, and_false, exists_false,
          Option.isSome_none, Bool.false_eq_true]
    | some request =>
        rw [hopen] at hrun
        rw [hrun]
        exact iff_of_true ⟨_, rfl⟩ rfl
  case accepted =>
    intro number surfaces since hopen batch
    rw [(Ledger.open?_after_of_openUnder hopen).2, h.idOf_of_openUnder hopen] at hrun
    rw [hrun]
    refine ⟨rfl, ?_, ⟨rfl, rfl, fun key hkey => ?_⟩, rfl, rfl⟩
    · -- The request is gone, and the others are not touched.
      exact (PendingRequests.get?_complete _ _).trans (if_pos rfl)
    · exact (PendingRequests.get?_complete _ _).trans (if_neg hkey)
  case dropped =>
    intro hclosed
    rw [← Ledger.isSome_open?_after, Option.not_isSome_iff_eq_none] at hclosed
    rw [hclosed] at hrun
    exact hrun

end Concerned

end Replay

/-- A report shows the log, and of the pipeline how many requests are open and what is
    there apart from them. -/
theorem SessionReport.toJson_congr {p q : Pipeline} (hsettled : p.settled = q.settled)
    (hcount : p.pending.count = q.pending.count) {log others : List StepReport}
    (hlog : log.map StepReport.toJson = others.map StepReport.toJson) :
    (ofPipeline log p).toJson = (ofPipeline others q).toJson := by
  have hp : ofPipeline log p = { ofPipeline log p.settled with pending := p.pending.count } := rfl
  have hq : ofPipeline others q
      = { ofPipeline others q.settled with pending := q.pending.count } := rfl
  rw [hp, hq, hsettled, hcount]
  simp only [toJson, ofPipeline, hlog]

/-- The ids that are drawn for requests do not show. Any two supplies without repetitions,
    none of whose ids is empty or a label of the session, lead to the same report, the
    same engine calls and notifications, the same stores, the same cache, and as many open
    requests. A fragment or a completion under a label concerns the newest request that
    was opened under it and no other, if this was not completed, and nothing otherwise. -/
theorem Session.replay_does_not_depend_on_ids {σ : Type} (session : Session) (appId : String)
    (home : Home (StateM σ)) (c : σ) {supply other : Nat → String}
    (hfresh : IsFresh supply session.steps) (hother : IsFresh other session.steps) :
    let done := (session.replay appId home supply).run c
    let done' := (session.replay appId home other).run c
    let last := (Replay.reached home appId supply c session.steps).1
    let last' := (Replay.reached home appId other c session.steps).1
    (done.1.toJson = done'.1.toJson ∧ done.2 = done'.2
      ∧ last.pipeline.settled = last'.pipeline.settled
      ∧ last.pipeline.pending.count = last'.pipeline.pending.count)
    ∧ (∀ before label surfaces after, session.steps = before ++ .request label surfaces :: after →
      let r := Replay.reached home appId supply c before
      ((r.1.step home supply (.request label surfaces)).run r.2).1.1
        = .request label surfaces.length
            ((Step.request label surfaces).requestStep? appId).isSome)
    ∧ (∀ before label payload after, session.steps = before ++ .fragment label payload :: after →
      let r := Replay.reached home appId supply c before
      Replay.TakesFragment supply (requestSteps appId before) label
        (Proposition.ofPayload (Fragment.event label payload)) r
        ((r.1.step home supply (.fragment label payload)).run r.2))
    ∧ (∀ before label after, session.steps = before ++ .complete label :: after →
      let r := Replay.reached home appId supply c before
      Replay.TakesCompletion home supply (requestSteps appId before) label r
        ((r.1.step home supply (.complete label)).run r.2)) := by
  intro done done' last last'
  refine ⟨?_, ?_, ?_, ?_⟩
  · -- Both supplies follow the same ledger, which knows no ids.
    have hlast := Replay.follows_reached home appId hfresh c
    have hlast' := Replay.follows_reached home appId hother c
    have hcount : last.pipeline.pending.count = last'.pipeline.pending.count :=
      (hlast.pending.count hfresh.distinct).trans (hlast'.pending.count hother.distinct).symm
    rcases Replay.run_agrees home (Replay.follows_start home appId supply c)
      (Replay.follows_start home appId other c) rfl hfresh hother
      (((Pipeline.start appId).load home).run c).2 with ⟨hlog, hsettled, hcache⟩
    exact ⟨SessionReport.toJson_congr hsettled hcount hlog, hcache, hsettled, hcount⟩
  · -- What a single step comes to is read off the ledger of the steps before it.
    intro before label surfaces after hsteps r
    have hparts : IsFresh supply (before ++ .request label surfaces :: after) := hsteps ▸ hfresh
    exact (Replay.follows_reached home appId hparts.of_append.1 c).request_report home label
      surfaces r.2
  · intro before label payload after hsteps r
    have hparts : IsFresh supply (before ++ .fragment label payload :: after) := hsteps ▸ hfresh
    exact (Replay.follows_reached home appId hparts.of_append.1 c).takesFragment home
      hparts.of_append.2 r.2
  · intro before label after hsteps r
    have hparts : IsFresh supply (before ++ .complete label :: after) := hsteps ▸ hfresh
    exact (Replay.follows_reached home appId hparts.of_append.1 c).takesCompletion home
      hparts.of_append.2 r.2

/-- Ids that consist of one character, each one longer than the one before. -/
def repeated (char : Char) (number : Nat) : String :=
  .ofList (List.replicate (number + 1) char)

theorem isFresh_repeated {char : Char} {steps : List Step}
    (h : ∀ label ∈ steps.filterMap Step.label?, char ∉ label.toList) :
    IsFresh (repeated char) steps where
  distinct := by
    intro number other heq
    have hlength := congrArg (fun s : String => s.toList.length) heq
    simp only [repeated, String.toList_ofList, List.length_replicate] at hlength
    omega
  nonEmpty := by
    intro number
    rw [Bool.eq_false_iff, ne_eq, String.isEmpty_iff, ← String.toList_eq_nil_iff, repeated,
      String.toList_ofList]
    exact List.cons_ne_nil _ _
  noLabel := by
    rintro s hs label hlabel number rfl
    refine h _ (List.mem_filterMap.mpr ⟨s, hs, hlabel⟩) ?_
    rw [repeated, String.toList_ofList]
    exact List.mem_cons_self

/-- A label is used for two requests and for one that is refused. What comes under the
    label after the refusal adds to the request before it. When this request gives its
    label away it can no longer be completed, so it stays open, and the completion closes
    the request after it. The second completion finds nothing. -/
theorem refused_and_hidden_requests_with_any_ids :
    let page : Json := .arr [Pipeline.rankedEntry "p" "app://one" 1]
    let asking : List Step := [.request "a" ["app://one"], .request "a" ["one"]]
    let session : Session := ⟨asking ++ [.fragment "a" page, .request "a" ["app://one"],
      .fragment "a" page, .complete "a", .complete "a", .fragment "b" page,
      .clear ["app://two"]]⟩
    let home : Home (StateM MemoryCache) := ⟨some MemoryCache.cache, "propositions"⟩
    let done := (session.replay "app" home (repeated 'x')).run .empty
    let done' := (session.replay "app" home (repeated 'y')).run .empty
    let r := Replay.reached home "app" (repeated 'x') .empty asking
    done.1.toJson = done'.1.toJson ∧ done.1.pending = 1
      ∧ ((r.1.step home (repeated 'x') (.fragment "a" page)).run r.2).1.1 = .fragment "a" true := by
  intro page asking session home done done' r
  have hx : IsFresh (repeated 'x') session.steps := isFresh_repeated (by decide)
  have hy : IsFresh (repeated 'y') session.steps := isFresh_repeated (by decide)
  have hids := session.replay_does_not_depend_on_ids "app" home .empty hx hy
  have hopen : OpenUnder "a" (requestSteps "app" asking) 0 (.ofList [⟨"app://one"⟩]) [] :=
    ⟨⟨[], rfl, rfl⟩, fun _ => List.not_mem_nil, List.not_mem_nil⟩
  exact ⟨hids.1.1, by decide +kernel,
    (hids.2.2.1 asking "a" page _ rfl).accepted_iff.mpr ⟨_, _, _, hopen⟩⟩

end Decisioning
