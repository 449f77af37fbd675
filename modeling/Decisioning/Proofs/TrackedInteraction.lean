import Decisioning.Proofs.Arrival
import Decisioning.Proofs.Durability
import Decisioning.Proofs.Tracking

/-!
# Tracked Interactions

An interaction that is reported by an id alone, long after the batch arrived.

Content that is shown by an engine is known there by the id of an item or of a rule,
and the proposition is no longer at hand. What is reported is then made from the
record under the id. It has to be the document that would have been made from the item
and its proposition when they arrived, however much has happened since.

The record is put down when the batch is completed, and it stays until a record of
another proposition takes its place or its surface is replaced. So the id must not be
used by others, and no completed request, no forgetting and no loading may have replaced
the surface since, unless it brought the proposition again. Loading is easily overlooked
here. It is meant for the start, and replaces the rules and records of the surfaces that
were persisted by those of the persisted propositions: a message comes back by it, but a
card that shared its surface with a message is forgotten. Other than that nothing
matters, neither what the cache has nor when it fails.

## Main definitions

* `Json.withItemId`: A document in which another item is reported.
* `Pipeline.replacement?`, `replacements`: What the calls of a run put in place of
  surfaces.
* `Proposition.IsAloneUnder`: No other proposition is tracked under an id.
* `Proposition.IsKeptBy`: Whatever replaces its surface brings the proposition again.

## Theorems

* `Interaction.withItemId_document`: The item enters a document as its id.
* `Pipeline.trackingRecord?_call`, `trackingRecord?_replacements`: The record under an
  id after a call and after a run.
* `Write.foldl_track_of_isKeptBy`: A record that nothing drops stays.
* `Pipeline.trackingRecord?_load_eq_none`: A record that loading drops.
* `Pipeline.reported_by_id_as_by_item`: The two documents are the same.
* `Pipeline.loading_forgets_card`: A run in which loading makes the difference.
-/

namespace Decisioning

namespace Json

/-- Change the values of a field of an object. -/
def mapField (name : String) (f : Json → Json) : Json → Json
  | .obj fields =>
      .obj (fields.map fun field => if field.1 = name then (field.1, f field.2) else field)
  | other => other

/-- Change the elements of an array. -/
def mapElements (f : Json → Json) : Json → Json
  | .arr elements => .arr (elements.map f)
  | other => other

/-- A document of an interaction in which another item id is reported. All else is left
    as it is. -/
def withItemId (id : String) : Json → Json :=
  mapField "_experience" <| mapField "decisioning" <| mapField "propositions" <|
    mapElements <| mapField "items" <| mapElements <| mapField "id" fun _ => .str id

end Json

/-- What is reported of an item is its id. -/
theorem Interaction.withItemId_document (i : Interaction) (id : String) :
    i.document.withItemId id = document { i with item := id } := by
  obtain ⟨event, label, record, item, tokens⟩ := i
  -- Tokens stand beside the id if there are any, and what else there is depends on the event.
  cases tokens <;> cases event <;> rfl

/-- Of the propositions that writes place, no other one is tracked under an id. -/
def Proposition.IsAloneUnder (p : Proposition) (id : String) (writes : List Write) : Prop :=
  ∀ w ∈ writes, ∀ q ∈ w.placed, id ∈ q.trackingIds → q = p

instance (p : Proposition) (id : String) (writes : List Write) :
    Decidable (p.IsAloneUnder id writes) :=
  inferInstanceAs (Decidable (∀ w ∈ writes, ∀ q ∈ w.placed, id ∈ q.trackingIds → q = p))

/-- Writes that cover the surface of a proposition place it again. -/
def Proposition.IsKeptBy (p : Proposition) (writes : List Write) : Prop :=
  ∀ w ∈ writes, p.surface ∈ w.surfaces → p ∈ w.placed

instance (p : Proposition) (writes : List Write) : Decidable (p.IsKeptBy writes) :=
  inferInstanceAs (Decidable (∀ w ∈ writes, p.surface ∈ w.surfaces → p ∈ w.placed))

namespace Write

variable {p : Proposition} {id : String} (hid : id ∈ p.trackingIds)
include hid

/-- A write that places a proposition leaves its record under an id that it does not
    share. -/
theorem track_of_mem_placed {w : Write} (hp : p ∈ w.placed) (halone : p.IsAloneUnder id [w])
    (before : Option TrackingRecord) : track id before w = some (.ofProposition p) := by
  rcases Option.isSome_iff_exists.mp (isSome_lastTracked? hp hid) with ⟨q, hlast⟩
  rcases mem_of_lastTracked? hlast with ⟨hq, hqid⟩
  rw [track_of_lastTracked? hlast, halone w List.mem_cons_self q hq hqid]

/-- A write that does not drop a proposition leaves the record that is there. -/
theorem track_of_isKeptBy {w : Write} (halone : p.IsAloneUnder id [w]) (hkept : p.IsKeptBy [w]) :
    track id (some (.ofProposition p)) w = some (.ofProposition p) := by
  by_cases hplaced : p ∈ w.placed
  · exact track_of_mem_placed hid hplaced halone _
  · -- The surface is not covered, and whoever is tracked under the id would be placed.
    have hnot : w.surfaces.contains p.surface = false :=
      Bool.eq_false_iff.mpr (mt (hkept w List.mem_cons_self) hplaced)
    have hlast : lastTracked? id w.placed = none := by
      rw [lastTracked?_eq_none_iff]
      intro q hq hqid
      exact hplaced (halone w List.mem_cons_self q hq hqid ▸ hq)
    rw [track_of_none hlast, Option.filter_some]
    refine if_pos ?_
    change (!w.surfaces.contains p.surface) = true
    rw [hnot, Bool.not_false]

/-- A record stays as long as no other proposition comes with the id and no write drops
    the proposition. -/
theorem foldl_track_of_isKeptBy {writes : List Write} (halone : p.IsAloneUnder id writes)
    (hkept : p.IsKeptBy writes) :
    writes.foldl (track id) (some (.ofProposition p)) = some (.ofProposition p) := by
  induction writes with
  | nil => rfl
  | cons w rest ih =>
      rw [List.foldl_cons, track_of_isKeptBy hid]
      · exact ih (fun v hv => halone v (List.mem_cons_of_mem w hv))
          fun v hv => hkept v (List.mem_cons_of_mem w hv)
      · exact fun v hv => halone v (List.mem_cons.mpr (Or.inl (List.mem_singleton.mp hv)))
      · exact fun v hv => hkept v (List.mem_cons.mpr (Or.inl (List.mem_singleton.mp hv)))

end Write

namespace Pipeline

variable {σ : Type} (home : Home (StateM σ))

/-- What a call puts in place of the rules and records of surfaces, if anything. Loading
    does what a completed request for the stored surfaces would, with the stored
    propositions as its batch. -/
def replacement? (p : Pipeline) (c : σ) : Call → Option Write
  | .operation op => p.write? op
  | .load => (home.stored?.run c).1.map fun loaded =>
      .complete { request := "", surfaces := loaded.surfaceSet, propositions := loaded.flatten }

/-- What the calls of a run put in place of surfaces, in order. -/
def replacements (p : Pipeline) (c : σ) : List Call → List Write
  | [] => []
  | call :: rest =>
      (p.replacement? home c call).toList
        ++ replacements ((p.call home call).run c).1.2 ((p.call home call).run c).2 rest

/-- What one call does to the record under an id. -/
theorem trackingRecord?_call (p : Pipeline) (c : σ) (call : Call) (id : String) :
    ((p.call home call).run c).1.2.trackingRecord? id
      = (p.replacement? home c call).toList.foldl (Write.track id) (p.trackingRecord? id) := by
  cases call with
  | operation op =>
      change ((p.perform home op).run c).1.2.trackingRecord? id = _
      rw [(p.perform_run home op c).1, trackingRecord?_after]
      rfl
  | load =>
      change ((p.load home).run c).1.2.trackingRecord? id = _
      rw [(p.load_run home c).1, replacement?]
      cases (home.stored?.run c).1 with
      | none => rfl
      | some loaded =>
          -- Rules and records are merged as they are by a completed request.
          exact p.trackingRecord?_written (.complete {
            request := "", surfaces := loaded.surfaceSet, propositions := loaded.flatten }) id

/-- Loading forgets a record of a surface that was persisted, unless a persisted
    proposition is tracked under the id. -/
theorem trackingRecord?_load_eq_none {p : Pipeline} {c : σ} {loaded : SurfaceStore Proposition}
    (hstored : (home.stored?.run c).1 = some loaded) {id : String} {record : TrackingRecord}
    (hrecord : p.trackingRecord? id = some record) (hscope : loaded.contains ⟨record.scope⟩ = true)
    (hunused : ∀ q ∈ loaded.flatten, id ∉ q.trackingIds) :
    ((p.call home .load).run c).1.2.trackingRecord? id = none := by
  have hlast : lastTracked? id (inScope loaded.flatten loaded.surfaceSet) = none :=
    lastTracked?_eq_none_iff.mpr fun q hq => hunused q (mem_inScope.mp hq).1
  rw [trackingRecord?_call, replacement?, hstored, Option.map_some, Option.toList_some,
    List.foldl_cons, List.foldl_nil, hrecord, Write.track_of_none hlast, Option.filter_some]
  refine if_neg ?_
  rw [Write.surfaces, loaded.contains_surfaceSet, hscope]
  exact Bool.false_ne_true

/-- What a run does to the record under an id, loading included. -/
theorem trackingRecord?_replacements (p : Pipeline) (c : σ) (calls : List Call) (id : String) :
    (p.reached home c calls).1.trackingRecord? id
      = (p.replacements home c calls).foldl (Write.track id) (p.trackingRecord? id) := by
  induction calls generalizing p c with
  | nil => rfl
  | cons call rest ih =>
      rw [reached_cons, replacements, List.foldl_append, ← trackingRecord?_call]
      exact ih _ _

/-- The record that a completed request puts down is there at the end of the run, if the
    proposition does not share the id and is not dropped. -/
theorem trackingRecord?_of_isKeptBy {p : Pipeline} (c : σ) {op : Operation} {batch : Batch}
    (hwrite : p.write? op = some (.complete batch)) (later : List Call) {q : Proposition}
    {id : String} (hq : q ∈ inScope batch.propositions batch.surfaces) (hid : id ∈ q.trackingIds) :
    let done := p.reached home c [.operation op]
    let since := done.1.replacements home done.2 later
    q.IsAloneUnder id (.complete batch :: since) → q.IsKeptBy since →
      (done.1.reached home done.2 later).1.trackingRecord? id = some (.ofProposition q) := by
  intro done since halone hkept
  have hdone : done.1.trackingRecord? id = some (.ofProposition q) := by
    have hfirst : q.IsAloneUnder id [.complete batch] := fun w hw =>
      halone w (List.mem_cons.mpr (Or.inl (List.mem_singleton.mp hw)))
    have hplaced : q ∈ (Write.complete batch).placed := hq
    rw [show done.1.trackingRecord? id = _ from trackingRecord?_call home p c (.operation op) id,
      replacement?, hwrite]
    exact Write.track_of_mem_placed hid hplaced hfirst _
  rw [trackingRecord?_replacements, hdone]
  exact Write.foldl_track_of_isKeptBy hid (fun w hw => halone w (List.mem_cons_of_mem _ hw)) hkept

/-- An interaction that is reported by an id is the one that is reported by its item. Take
    any run, with any cache and with loading at any point, and a request that it
    completed. An item of one of the propositions in scope, if it compiled to rules, can
    be reported with its proposition. The document is the same when it is made at the end
    of the run from the id of the item alone, for all events, labels and tokens. From
    the id of a rule of the item it is that document with the id of the rule in place of
    the id of the item. This takes that no other proposition that was in scope of the batch
    or came later uses the id, and that whatever replaced the surface since brought the
    proposition again, be it a completed request, forgetting or loading. -/
theorem reported_by_id_as_by_item (appId : String) (c : σ) (earlier later : List Call)
    {op : Operation} {batch : Batch}
    (hwrite : ((start appId).reached home c earlier).1.write? op = some (.complete batch)) :
    let done := (start appId).reached home c (earlier ++ [.operation op])
    let reached := (start appId).reached home c (earlier ++ .operation op :: later)
    let since := done.1.replacements home done.2 later
    ∀ p ∈ inScope batch.propositions batch.surfaces, ∀ item ∈ p.items,
      Rule.compileItem item ≠ [] → p.IsKeptBy since →
      ∀ event label tokens, ∃ i, Interaction.forItem? event label item p tokens = some i
        ∧ (p.IsAloneUnder item.id (.complete batch :: since) →
          reached.1.interactionDocument? event label item.id tokens = some i.document)
        ∧ ∀ rule ∈ Rule.compileItem item, p.IsAloneUnder rule.id (.complete batch :: since) →
          reached.1.interactionDocument? event label rule.id tokens
            = some (i.document.withItemId rule.id) := by
  intro done reached since p hp item hitem hrules hkept event label tokens
  let before := (start appId).reached home c earlier
  have hdone : done = before.1.reached home before.2 [.operation op] := reached_append ..
  have hreached : reached = done.1.reached home done.2 later := by
    rw [← reached_append, List.append_assoc]
    rfl
  -- The batch was pending, and what is pending has been linked.
  have hlinked : p.IsLinked :=
    isLinked_of_write? (readable_reached (readable_start appId) home c earlier).pending hwrite
      batch rfl p (mem_inScope.mp hp).1
  have hrecord : ∀ id ∈ item.trackingIds, p.IsAloneUnder id (.complete batch :: since) →
      reached.1.trackingRecord? id = some (.ofProposition p) := by
    intro id hid halone
    have hmem : id ∈ p.trackingIds := List.mem_flatMap.mpr ⟨item, hitem, hid⟩
    have hlast := trackingRecord?_of_isKeptBy home before.2 hwrite later hp hmem
    rw [← hdone] at hlast
    rw [hreached]
    exact hlast halone hkept
  refine ⟨.forRecord event label item.id (.ofProposition p) tokens, if_pos (hlinked item hitem),
    fun halone => ?_, fun rule hrule halone => ?_⟩
  · have hid : item.id ∈ item.trackingIds := Item.mem_trackingIds.mpr ⟨hrules, Or.inl rfl⟩
    rw [interactionDocument?, hrecord item.id hid halone]
    rfl
  · have hid : rule.id ∈ item.trackingIds :=
      Item.mem_trackingIds.mpr ⟨hrules, Or.inr ⟨rule, hrule, rfl⟩⟩
    rw [interactionDocument?, hrecord rule.id hid halone, Interaction.withItemId_document]
    rfl

/-- A proposition with a card, and nothing else. -/
def cardAt (s : Surface) : Proposition :=
  .build "with card" s.uri [] [BatchImage.cardRuleset]

/-- A proposition with a message, and nothing else. -/
def messageAt (s : Surface) : Proposition :=
  .build "with message" s.uri [] [.unowned "script" .ruleset (.obj [("rules", .arr [.obj [
    ("condition", .obj []),
    ("consequences", .arr [.obj [
      ("detail", .obj []), ("id", .str "message"), ("type", .str legacyInAppType)]])]])])]

/-- A request for a surface and what is sent in answer, without the end of it. -/
def sent (id : String) (s : Surface) (ps : List Proposition) : List Call :=
  [.operation (.register id (.ofList [s])),
    .operation (.fragment (Fragment.event id (.arr (ps.map Proposition.toJson))))]

/-- The end of the response to a request writes what had arrived. -/
theorem write?_completion {p : Pipeline} {id : String} {batch : Batch} (hid : id.isEmpty = false)
    (hbatch : (p.pending.complete id).1 = some batch) :
    p.write? (.completion (completionEvent id)) = some (.complete batch) := by
  rw [write?, completedRequest?_completionEvent hid, Option.bind_some, hbatch]
  rfl

/-- A message is shown, then a card arrives at another surface, and what was persisted is
    loaded, which is the message. It is still reported as it would have been, by its item
    and by its rule. -/
theorem message_is_reported_after_loading :
    let one : Surface := ⟨"mobileapp://app/one"⟩
    let two : Surface := ⟨"mobileapp://app/two"⟩
    let home : Home (StateM MemoryCache) := ⟨some MemoryCache.cache, "propositions"⟩
    let earlier := sent "first" one [messageAt one]
    let op := Operation.completion (completionEvent "first")
    let later := sent "second" two [cardAt two]
      ++ [.operation (.completion (completionEvent "second")), .load]
    let reached := (start "app").reached home .empty (earlier ++ .operation op :: later)
    (messageAt one).trackingIds = ["script", "message"]
      ∧ ∃ item ∈ (messageAt one).items, item.id = "script" ∧ ∀ event label tokens,
        ∃ i, Interaction.forItem? event label item (messageAt one) tokens = some i
          ∧ reached.1.interactionDocument? event label "script" tokens = some i.document
          ∧ reached.1.interactionDocument? event label "message" tokens
            = some (i.document.withItemId "message") := by
  intro one two home earlier op later reached
  let batch : Batch :=
    { request := "first", surfaces := .ofList [one], propositions := [messageAt one] }
  let done := (start "app").reached home .empty (earlier ++ [.operation op])
  let since := done.1.replacements home done.2 later
  have hbatch : (((start "app").reached home .empty earlier).1.pending.complete "first").1
      = some batch := by decide +kernel
  have hkept : (messageAt one).IsKeptBy since := by decide +kernel
  have hscript : (messageAt one).IsAloneUnder "script" (.complete batch :: since) := by
    decide +kernel
  have hmessage : (messageAt one).IsAloneUnder "message" (.complete batch :: since) := by
    decide +kernel
  have hitems : ∃ item ∈ (messageAt one).items, item.id = "script"
      ∧ ∃ rule ∈ Rule.compileItem item, rule.id = "message" := by decide +kernel
  rcases hitems with ⟨item, hitem, hscriptId, rule, hrule, hmessageId⟩
  refine ⟨by decide +kernel, item, hitem, hscriptId, fun event label tokens => ?_⟩
  rcases reported_by_id_as_by_item home "app" .empty earlier later
    (write?_completion (by decide +kernel) hbatch) (messageAt one) (by decide +kernel) item hitem
    (List.ne_nil_of_mem hrule) hkept event label tokens with ⟨i, hi, hbyItem, hbyRule⟩
  have hbyRule := hbyRule rule hrule
  rw [hscriptId] at hbyItem
  rw [hmessageId] at hbyRule
  exact ⟨i, hi, hbyItem hscript, hbyRule hmessage⟩

/-- A card and a message are shown at one surface, and what was persisted is loaded, which
    is the message. The card cannot be reported by its id any more, although no other
    proposition has ever used the id and no request was completed since. -/
theorem loading_forgets_card :
    let s : Surface := ⟨"mobileapp://app"⟩
    let home : Home (StateM MemoryCache) := ⟨some MemoryCache.cache, "propositions"⟩
    let item := BatchImage.cardRuleset.attach "with card"
    let earlier := sent "request" s [cardAt s, messageAt s]
    let op := Operation.completion (completionEvent "request")
    let batch : Batch :=
      { request := "request", surfaces := .ofList [s], propositions := [cardAt s, messageAt s] }
    let reached := (start "app").reached home .empty (earlier ++ [.operation op, .load])
    (((start "app").reached home .empty earlier).1.write? op = some (.complete batch)
        ∧ cardAt s ∈ inScope batch.propositions batch.surfaces
        ∧ item ∈ (cardAt s).items ∧ Rule.compileItem item ≠ []
        ∧ (cardAt s).IsAloneUnder item.id [.complete batch])
      ∧ ¬∀ event label tokens, reached.1.interactionDocument? event label item.id tokens
        = (Interaction.forItem? event label item (cardAt s) tokens).map Interaction.document := by
  intro s home item earlier op batch reached
  let before := (start "app").reached home .empty earlier
  let store : SurfaceStore Proposition := ⟨.ofList [(s.uri, [messageAt s])]⟩
  have hwrite : before.1.write? op = some (.complete batch) :=
    write?_completion (by decide +kernel) (by decide +kernel)
  -- The two propositions are of equal rank and keep their order.
  have hplaced : inScope batch.propositions batch.surfaces = [cardAt s, messageAt s] :=
    List.mergeSort_of_pairwise (by decide +kernel)
  have hcard : cardAt s ∈ inScope batch.propositions batch.surfaces := by
    rw [hplaced]
    exact List.mem_cons_self
  have halone : (cardAt s).IsAloneUnder item.id [.complete batch] := by
    intro w hw q hq
    rw [List.mem_singleton.mp hw, show (Write.complete batch).placed = _ from hplaced] at hq
    revert q
    decide +kernel
  have hpersisted : (before.1.after op).persisted = store := by
    rw [after_of_write _ hwrite]
    change (before.1.persisted.merge batch.surfaces
      (BatchImage.ofBatch batch.propositions batch.surfaces).persisted.lists).2 = store
    rw [BatchImage.ofBatch, hplaced]
    decide +kernel
  refine ⟨⟨hwrite, hcard, by decide +kernel, by decide +kernel, halone⟩, fun hall => ?_⟩
  rcases hdone : (before.1.call home (.operation op)).run before.2 with ⟨⟨answer, p⟩, c⟩
  have hstored : (home.stored?.run c).1 = some store := by
    have hcache : c = ((home.save store).run before.2).2 := by
      have hsaved := (before.1.perform_run home op before.2).2
      rw [hwrite, hpersisted] at hsaved
      exact (congrArg Prod.snd hdone).symm.trans hsaved
    rw [hcache]
    decide +kernel
  have hrecord : p.trackingRecord? item.id = some (.ofProposition (cardAt s)) := by
    have hcall := trackingRecord?_call home before.1 before.2 (.operation op) item.id
    rw [hdone, replacement?, hwrite] at hcall
    rw [hcall]
    exact Write.track_of_mem_placed (by decide +kernel) hcard halone _
  have hnone : ((p.call home .load).run c).1.2.trackingRecord? item.id = none :=
    trackingRecord?_load_eq_none home hstored hrecord (by decide +kernel) (by decide +kernel)
  have hreached : reached.1 = ((p.call home .load).run c).1.2 := by
    rw [show reached = before.1.reached home before.2 [.operation op, .load] from
      reached_append home (start "app") .empty earlier _, reached_cons, hdone]
    rfl
  have hreport := hall .display none []
  rw [hreached, interactionDocument?, hnone, Interaction.forItem?, if_pos (by decide +kernel)]
    at hreport
  exact absurd hreport (by simp only [Option.map_none, Option.map_some, reduceCtorEq,
    not_false_eq_true])

end Pipeline

end Decisioning
