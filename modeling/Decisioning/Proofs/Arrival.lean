import Decisioning.Cache.Memory
import Decisioning.Proofs.Operation

/-!
# Arrival

Why it does not matter in which order an answer arrives, and in how many parts.

What a request has received is one list when it is completed, so where the parts
were cut does not show. The order of the list does: propositions of one rank keep
it. But where each surface has its ranks only once, the ranked list of the
surface is the same for every order, and an image is made of nothing but these
lists. The batch as a whole may well be sorted differently, if two surfaces have
a rank in common, and the tracking records, which are kept by item and rule and
not by surface, can tell. They are what `SameOutcome` leaves out.

No part of this asks how the pipeline came to be in its state, so it is any
pipeline, and any cache.

## Main definitions

* `Arrives`: The ways in which entries arrive for a request.
* `BatchImage.SameContent`, `Pipeline.SameOutcome`: The same but for tracking.
* `Pipeline.answered`: A request that is opened, answered and completed.

## Theorems

* `BatchImage.sameContent_ofBatch`: Ranked lists determine the image.
* `Pipeline.SameOutcome.written`: The same content leads to the same outcome.
* `Pipeline.reached_of_arrives`: What a request has received.
* `Pipeline.answered_eq`: An answered request is the write of its batch.
* `Pipeline.arrival_order_does_not_matter`: Order and parts do not show.
-/

namespace Decisioning

/-- The ways in which the entries of an answer arrive: in parts, some of them
    possibly empty, while fragments of other requests or of none come in between. -/
inductive Arrives (id : String) : List Json → List Operation → Prop where
  | done : Arrives id [] []
  | part {event : Json} {entries : List Json} {ops : List Operation} :
      nonEmptyString? "requestEventId" event = some id → Arrives id entries ops →
      Arrives id (Proposition.payloadEntries event ++ entries) (.fragment event :: ops)
  | other {event : Json} {entries : List Json} {ops : List Operation} :
      nonEmptyString? "requestEventId" event ≠ some id → Arrives id entries ops →
      Arrives id entries (.fragment event :: ops)

theorem nonEmptyString?_of_get? {name id : String} {value : Json}
    (hget : value.get? name = some (.str id)) (hid : id.isEmpty = false) :
    nonEmptyString? name value = some id := by
  rw [nonEmptyString?, Json.string?, hget]
  change Option.filter (fun s => !s.isEmpty) (some id) = some id
  rw [Option.filter_some, if_pos (by rw [hid]; rfl)]

/-- An event that carries a payload under an id is a fragment for the request with it. -/
theorem Fragment.ofEvent?_event {id : String} (hid : id.isEmpty = false) (payload : Json) :
    ofEvent? (event id payload)
      = some { request := id, propositions := Proposition.ofPayload (event id payload) } := by
  rw [ofEvent?, nonEmptyString?_of_get? rfl hid, Option.map_some]

theorem completedRequest?_completionEvent {id : String} (hid : id.isEmpty = false) :
    completedRequest? (completionEvent id) = some id :=
  nonEmptyString?_of_get? rfl hid

theorem Arrives.event {id : String} (hid : id.isEmpty = false) (piece : List Json)
    {rest : List Json} {ops : List Operation} (h : Arrives id rest ops) :
    Arrives id (piece ++ rest) (.fragment (Fragment.event id (.arr piece)) :: ops) := by
  have hread : nonEmptyString? "requestEventId" (Fragment.event id (.arr piece)) = some id :=
    nonEmptyString?_of_get? rfl hid
  exact Arrives.part hread h

namespace BatchImage

/-- Two images have the same propositions and the same rules. -/
structure SameContent (image other : BatchImage) : Prop where
  store : ∀ kind, image.store kind = other.store kind
  rules : image.rules = other.rules

/-- An image is determined by the ranked lists of the requested surfaces, up to the
    tracking records. -/
theorem sameContent_ofBatch {ps qs : List Proposition} {requested : SurfaceSet}
    (h : ∀ s ∈ requested, rankedAt s ps = rankedAt s qs) :
    (ofBatch ps requested).SameContent (ofBatch qs requested) := by
  have hps := holdsContent_ofBatch ps requested
  have hqs := holdsContent_ofBatch qs requested
  constructor
  case store =>
    intro kind
    -- Stores without empty lists are the same if each surface reads the same.
    refine SurfaceStore.ext_get (hps.store kind) (hqs.store kind) fun s => ?_
    rw [get_store_ofBatch, get_store_ofBatch]
    by_cases hs : requested.contains s = true
    · rw [if_pos hs, if_pos hs, h s hs]
    · rw [if_neg hs, if_neg hs]
  case rules =>
    refine RuleStores.ext_get fun category => ?_
    refine SurfaceStore.ext_get (hps.rules category) (hqs.rules category) fun s => ?_
    rw [get_rules_ofBatch, get_rules_ofBatch]
    by_cases hs : requested.contains s = true
    · rw [if_pos hs, if_pos hs, h s hs]
    · rw [if_neg hs, if_neg hs]

end BatchImage

/-- The plan and the rules of a merge do not depend on what is tracked. -/
theorem Retained.merge_of_same_rules {r t : Retained} (hrules : r.rules = t.rules)
    {image other : BatchImage} (himage : image.rules = other.rules) (requested : SurfaceSet) :
    (r.merge requested image).1 = (t.merge requested other).1
      ∧ (r.merge requested image).2.rules = (t.merge requested other).2.rules := by
  cases r
  cases t
  cases image
  cases other
  cases hrules
  cases himage
  exact ⟨rfl, rfl⟩

namespace Pipeline

variable {σ : Type} (home : Home (StateM σ))

/-- Two pipelines have the same propositions and the same rules, and have sent the
    same. Only what is tracked and which requests are open may differ. -/
structure SameOutcome (p q : Pipeline) : Prop where
  store : ∀ kind, p.store kind = q.store kind
  rules : p.retained.rules = q.retained.rules
  outbox : p.outbox = q.outbox

theorem SameOutcome.reconcilePlan_eq {p q : Pipeline} (h : p.SameOutcome q) {image other : BatchImage}
    (himage : image.SameContent other) (requested : SurfaceSet) :
    p.reconcilePlan requested image = q.reconcilePlan requested other := by
  have hcodeBased : image.codeBased = other.codeBased := himage.store .codeBased
  have hplan := (Retained.merge_of_same_rules h.rules himage.rules requested).1
  rw [reconcilePlan, reconcilePlan, hplan, BatchImage.codeBasedPropositions,
    BatchImage.codeBasedPropositions, hcodeBased]

/-- Writes of the same content to pipelines that have the same lead to pipelines
    that have the same. -/
theorem SameOutcome.written {p q : Pipeline} (h : p.SameOutcome q) {w v : Write}
    (hsurfaces : w.surfaces = v.surfaces) (himage : w.image.SameContent v.image) :
    (p.written w).SameOutcome (q.written v) := by
  -- What is sent is planned from the rules, so the plans are the same.
  have hplan := h.reconcilePlan_eq himage w.surfaces
  constructor
  case store =>
    intro kind
    have hkept := h.store kind
    have hbrought := himage.store kind
    have hmerged : ((p.store kind).merge w.surfaces (w.image.store kind).lists).2
        = ((q.store kind).merge v.surfaces (v.image.store kind).lists).2 := by
      rw [hkept, hbrought, hsurfaces]
    cases kind <;> exact hmerged
  case rules =>
    have hmerged := (Retained.merge_of_same_rules h.rules himage.rules w.surfaces).2
    change (p.retained.merge w.surfaces w.image).2.rules
      = (q.retained.merge v.surfaces v.image).2.rules
    rw [← hsurfaces]
    exact hmerged
  case outbox =>
    change (p.outbox.dispatch (p.reconcilePlan w.surfaces w.image)).2
      = (q.outbox.dispatch (q.reconcilePlan v.surfaces v.image)).2
    rw [hplan, h.outbox, hsurfaces]

/-- A fragment only adds to its request, and leaves the cache alone. -/
theorem reached_fragment (p : Pipeline) (event : Json) (c : σ) (rest : List Call) :
    p.reached home c (.operation (.fragment event) :: rest)
      = reached home { p with pending := p.pendingAfter (.fragment event) } c rest := by
  have hrun := p.perform_run home (.fragment event) c
  rw [reached_cons]
  change ((p.perform home (.fragment event)).run c).1.2.reached home
    ((p.perform home (.fragment event)).run c).2 rest = _
  rw [hrun.1, hrun.2]
  rfl

/-- What an open request has received when all entries have arrived. -/
theorem reached_of_arrives {id : String} {entries : List Json} {arrivals : List Operation}
    (h : Arrives id entries arrivals) (p : Pipeline) (c : σ) {request : PendingRequest}
    (hopen : p.pending.get? id = some request) :
    ∃ pending received, p.reached home c (arrivals.map .operation) = ({ p with pending }, c)
      ∧ pending.get? id = some received ∧ received.surfaces = request.surfaces
      ∧ received.propositions
        = request.propositions ++ Proposition.ofPayload (.arr entries) := by
  induction h generalizing p request with
  | done => exact ⟨p.pending, request, rfl, hopen, rfl, (List.append_nil _).symm⟩
  | @part event entries ops hid _ ih =>
      have hfragment : Fragment.ofEvent? event
          = some { request := id, propositions := Proposition.ofPayload event } := by
        rw [Fragment.ofEvent?, hid, Option.map_some]
      have hnext : (p.pendingAfter (.fragment event)).get? id
          = some { request with
              propositions := request.propositions ++ Proposition.ofPayload event
              fragments := request.fragments + 1 } := by
        dsimp only [pendingAfter]
        rw [hfragment]
        dsimp only
        rw [PendingRequests.get?_append, if_pos rfl, hopen, Option.map_some]
      rcases ih { p with pending := p.pendingAfter (.fragment event) } hnext with
        ⟨pending, received, hreached, hreceived, hsurfaces, hpropositions⟩
      refine ⟨pending, received, ?_, hreceived, hsurfaces, ?_⟩
      · rw [List.map_cons, reached_fragment, hreached]
      · -- The parts are read one by one, and their entries as one list.
        rw [hpropositions, List.append_assoc]
        exact congrArg (request.propositions ++ ·) List.filterMap_append.symm
  | @other event entries ops hid _ ih =>
      -- The fragment goes to another request, or to none.
      have hnext : (p.pendingAfter (.fragment event)).get? id = some request := by
        dsimp only [pendingAfter, Fragment.ofEvent?]
        cases hevent : nonEmptyString? "requestEventId" event with
        | none => exact hopen
        | some key =>
            have hne : id ≠ key := fun heq => hid (heq ▸ hevent)
            dsimp only [Option.map_some]
            rw [PendingRequests.get?_append, if_neg hne]
            exact hopen
      rcases ih { p with pending := p.pendingAfter (.fragment event) } hnext with
        ⟨pending, received, hreached, hreceived⟩
      exact ⟨pending, received, by rw [List.map_cons, reached_fragment, hreached], hreceived⟩

/-- A request is opened, answered and completed. -/
def answered (p : Pipeline) (c : σ) (id : String) (requested : SurfaceSet)
    (arrivals : List Operation) : (Option BatchReport × Pipeline) × σ :=
  let ready := p.reached home c ((.register id requested :: arrivals).map .operation)
  (ready.1.complete home id).run ready.2

/-- A request that was answered is reported and written as the batch of what has
    arrived. -/
theorem answered_eq (p : Pipeline) (c : σ) {id : String} (requested : SurfaceSet)
    {entries : List Json} {arrivals : List Operation} (h : Arrives id entries arrivals) :
    let batch : Batch := {
      request := id, surfaces := requested, propositions := Proposition.ofPayload (.arr entries) }
    let w : Write := .complete batch
    ∃ pending, answered home p c id requested arrivals
      = ((some {
          request := id
          propositions := batch.propositions.length
          dispatched := .ofPlan (p.reconcilePlan w.surfaces w.image) },
          written { p with pending } w),
        ((home.save (written { p with pending } w).persisted).run c).2) := by
  intro batch w
  have hopen : (p.register id requested).pending.get? id
      = some { surfaces := requested, propositions := [], fragments := 0 } :=
    (PendingRequests.get?_register id id requested).trans (if_pos rfl)
  rcases reached_of_arrives home h (p.register id requested) c hopen with
    ⟨pending, received, hreached, hreceived, hsurfaces, hpropositions⟩
  -- The request was opened empty, so it has received just these entries.
  have hbatch : (pending.complete id).1 = some batch := by
    rw [PendingRequests.complete_fst, hreceived, Option.map_some, hsurfaces, hpropositions]
    rfl
  have hcomplete : pending.complete id = (some batch, (pending.complete id).2) :=
    Prod.ext hbatch rfl
  have hanswered : answered home p c id requested arrivals
      = (complete { p.register id requested with pending } home id).run c := by
    have hstart : p.reached home c ((.register id requested :: arrivals).map .operation)
        = (p.register id requested).reached home c (arrivals.map .operation) := rfl
    rw [answered, hstart, hreached]
  refine ⟨(pending.complete id).2, ?_⟩
  rw [hanswered, complete_run]
  dsimp only
  rw [hcomplete]
  rfl

/-- The order in which an answer arrives does not matter, nor in which parts. Where
    each requested surface has its ranks only once, any two ways in which the same
    entries arrive lead to the same report, the same propositions and rules, the
    same messages to engines and listeners, and the same cache. -/
theorem arrival_order_does_not_matter (p : Pipeline) (c : σ) {id : String}
    {requested : SurfaceSet} {entries others : List Json} (hperm : entries.Perm others)
    (hranks : ∀ s ∈ requested,
      (((Proposition.ofPayload (.arr entries)).filter fun q => q.surface = s).map
        Proposition.rank).Nodup)
    {arrivals otherArrivals : List Operation} (h : Arrives id entries arrivals)
    (h' : Arrives id others otherArrivals) :
    let done := answered home p c id requested arrivals
    let done' := answered home p c id requested otherArrivals
    done.1.1 = done'.1.1 ∧ done.1.1.isSome = true ∧ done.1.2.SameOutcome done'.1.2
      ∧ done.2 = done'.2 := by
  intro done done'
  have hread : (Proposition.ofPayload (.arr entries)).Perm (Proposition.ofPayload (.arr others)) :=
    hperm.filterMap Proposition.decodeTolerant?
  let w : Write := .complete {
    request := id, surfaces := requested, propositions := Proposition.ofPayload (.arr entries) }
  let v : Write := .complete {
    request := id, surfaces := requested, propositions := Proposition.ofPayload (.arr others) }
  have himage : w.image.SameContent v.image :=
    BatchImage.sameContent_ofBatch fun s hs => rankedAt_eq_of_perm hread (hranks s hs)
  have hplan : p.reconcilePlan requested w.image = p.reconcilePlan requested v.image :=
    SameOutcome.reconcilePlan_eq ⟨fun _ => rfl, rfl, rfl⟩ himage requested
  rcases answered_eq home p c requested h with ⟨pending, hdone⟩
  rcases answered_eq home p c requested h' with ⟨pending', hdone'⟩
  -- The open requests may differ, as other requests had fragments in between.
  have hbefore : SameOutcome { p with pending } { p with pending := pending' } :=
    ⟨fun kind => by cases kind <;> rfl, rfl, rfl⟩
  have hafter : (written { p with pending } w).SameOutcome
      (written { p with pending := pending' } v) := hbefore.written rfl himage
  have hpersisted : (written { p with pending } w).persisted
      = (written { p with pending := pending' } v).persisted := hafter.store .persisted
  rw [show done = _ from hdone, show done' = _ from hdone']
  refine ⟨?_, rfl, hafter, ?_⟩
  -- The report counts what was read, and has the receipt of the plan.
  · dsimp only
    rw [hread.length_eq]
    exact congrArg (fun plan => some (BatchReport.mk id _ (.ofPlan plan))) hplan
  · dsimp only
    rw [hpersisted]

/-- An entry with a rank and some content that is used as it is. -/
def rankedEntry (id scope : String) (rank : Int) : Json :=
  (Proposition.build id scope [("rank", .num (.int rank))]
    [.unowned id .defaultContent .null]).toJson

/-- Three entries for two surfaces, once in one part and once backwards in three,
    with an empty part and a fragment for another request in between. Two of them
    have the same rank, but not at the same surface. -/
theorem parts_arrive_backwards :
    let a := rankedEntry "a" "app://one" 1
    let b := rankedEntry "b" "app://two" 1
    let c := rankedEntry "c" "app://one" 2
    let event := fun id entries => Operation.fragment (Fragment.event id (.arr entries))
    let once := [event "request" [a, b, c]]
    let backwards := [event "request" [c], event "other" [a], event "request" [],
      event "request" [b, a]]
    let requested := SurfaceSet.ofList [⟨"app://one"⟩]
    let home : Home (StateM MemoryCache) := ⟨some MemoryCache.cache, "propositions"⟩
    let done := answered home (start "app") .empty "request" requested once
    let done' := answered home (start "app") .empty "request" requested backwards
    done.1.1.map BatchReport.propositions = some 3 ∧ done.1.2.SameOutcome done'.1.2 := by
  intro a b c event once backwards requested home
  have hname : "request".isEmpty = false := by decide +kernel
  have honce : Arrives "request" [a, b, c] once := Arrives.done.event hname [a, b, c]
  have hlast : Arrives "request" [b, a] [event "request" [], event "request" [b, a]] :=
    (Arrives.done.event hname [b, a]).event hname []
  have hother : Arrives "request" [b, a] (backwards.drop 1) := hlast.other (by decide +kernel)
  have hbackwards : Arrives "request" [c, b, a] backwards := hother.event hname [c]
  have hperm : [a, b, c].Perm [c, b, a] := (List.reverse_perm [a, b, c]).symm
  have hranks : ∀ s ∈ requested,
      (((Proposition.ofPayload (.arr [a, b, c])).filter fun q => q.surface = s).map
        Proposition.rank).Nodup := by
    intro s hs
    rw [(SurfaceSet.contains_ofList_singleton _ _).mp hs]
    decide +kernel
  exact ⟨by decide +kernel,
    (arrival_order_does_not_matter home (start "app") .empty hperm hranks honce hbackwards).2.2.1⟩

end Pipeline

end Decisioning
