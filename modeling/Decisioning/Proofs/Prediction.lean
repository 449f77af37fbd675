import Decisioning.Proofs.AcceptedPayload
import Decisioning.Proofs.Addressees
import Decisioning.Proofs.Replay

/-!
# Prediction

Why the summary of a payload tells what a session comes to in which the payload
is delivered.

A summary is made of the image of the payload as a batch. A session takes a longer
way: its parts are wrapped in events, collected under an id that was drawn for the
request, and read part by part. But `Replay.run_response` says that the session is
one answered request, and what this has received at the end is the same batch, which
is `Pipeline.answered_eq`, so the session writes the same image. A pipeline that has
just started has nothing, and there a write leaves just its image: all of the stores
are replaced, and no rule has been dropped that an engine would have to be told of.
That is all that remains to be shown, for the stores and for what is sent.

Both commands answer with a response, which is printed as lines or in JSON. What is read
from the JSON of the two is the matter of `Response.ofSummary_json` and
`Response.ofSession_json`.

## Main definitions

* `BatchSummary.codeBasedIds`, `BatchSummary.receipt`: What the listeners are told,
  and what everybody is sent, according to a summary.
* `BatchSummary.Predicts`: A summary tells what a session comes to.

## Theorems

* `SurfaceStore.empty_merge`: What a merge leaves where nothing was.
* `Pipeline.listing_written`, `receipt_written`, `notices_written`: A write to a
  pipeline that has just started.
* `CommandLine.summary_predicts_replay`: The summary of a file and the report on a
  session with its content.
-/

namespace Decisioning

universe u

theorem SurfaceStore.flatten_idLists (store : SurfaceStore Proposition) :
    store.idLists.values.flatten = store.flatten.map Proposition.id := by
  rw [idLists, SortedMap.values_map, ← List.map_flatten]
  rfl

/-- Where nothing was, a merge leaves what it brings and drops nothing, as long as it
    brings nothing for surfaces that are not requested. -/
theorem SurfaceStore.empty_merge {α : Type u} {batch : SurfaceStore α} {requested : SurfaceSet}
    (h : batch.HoldsContent)
    (hwithin : ∀ s, requested.contains s ≠ true → batch.get s = []) :
    ∃ replaced, (empty : SurfaceStore α).merge requested batch.lists
      = ({ replaced, removed := 0 }, batch) := by
  have hremoved : ((empty : SurfaceStore α).merge requested batch.lists).1.removed = 0 := by
    rw [merge_removed, List.countP_eq_zero]
    intro s _
    rw [contains_eq_held?, held?_empty, Option.isSome_none, Bool.false_and]
    exact Bool.false_ne_true
  have hmerged : ((empty : SurfaceStore α).merge requested batch.lists).2 = batch := by
    refine ext_held? fun s => ?_
    rw [held?_merge, h.content?_lists, held?_empty]
    by_cases hs : requested.contains s = true
    · rw [if_pos hs]
    · rw [if_neg hs, h.held?_eq, if_pos (hwithin s hs)]
  refine ⟨((empty : SurfaceStore α).merge requested batch.lists).1.replaced,
    Prod.ext (?_ : _ = MergeOutcome.mk _ _) hmerged⟩
  rw [← hremoved]

/-- The receipt tells a number, or nothing if there is none to tell. -/
def nonZero? (n : Nat) : Option Nat := if n = 0 then none else some n

theorem nonZero?_length {α : Type} {addressed : Bool} {values : List α}
    (h : addressed = decide (0 < values.length)) :
    (if addressed then some values else none).map List.length = nonZero? values.length := by
  rw [h, nonZero?]
  by_cases hlength : values.length = 0
  · rw [if_neg (by simp only [hlength, Nat.lt_irrefl, decide_false, Bool.false_eq_true,
      not_false_eq_true]), if_pos hlength, Option.map_none]
  · rw [if_pos (decide_eq_true (Nat.pos_of_ne_zero hlength)), if_neg hlength, Option.map_some]

namespace BatchSummary

/-- The ids of the code-based propositions, in URI order of their surfaces. -/
def codeBasedIds (s : BatchSummary) : List String := s.listing.codeBased.values.flatten

/-- What everybody is sent by a pipeline that had nothing before. -/
def receipt (s : BatchSummary) : Receipt where
  inAppRules := nonZero? (s.inAppRules + s.historyRules)
  cardRules := nonZero? s.cardRules
  notified := nonZero? s.codeBasedIds.length

/-- A summary tells what comes of a session with one request, which has a label in
    the session and an id in the pipeline. The log counts the surfaces that are asked
    for, has a line for each part of the answer, and ends with the report on the batch. -/
structure Predicts (s : BatchSummary) (label id : String) (surfaces parts : Nat)
    (r : SessionReport) : Prop where
  steps : r.steps = .request label surfaces true :: List.replicate parts (.fragment label true)
    ++ [.complete label (some {
      request := id, propositions := s.propositions, dispatched := s.receipt })]
  listing : r.listing = s.listing
  notices : r.notices = if s.codeBasedIds = [] then [] else [s.codeBasedIds]

end BatchSummary

/-- What a merge into nothing is planned to send. -/
theorem Retained.empty_merge_plan (propositions : List Proposition) (requested : SurfaceSet) :
    let image := BatchImage.ofBatch propositions requested
    ∃ retained : Retained, retained.rules = image.rules
      ∧ (Retained.empty.merge requested image).1
        = retained.plan (decide (0 < image.ruleCount .inApp + image.ruleCount .eventHistory))
          (decide (0 < image.ruleCount .contentCard)) := by
  intro image
  have hcontent : image.rules.HoldsContent := (BatchImage.holdsContent_ofBatch _ _).rules
  have hmerge : ∀ category, ∃ replaced,
      (SurfaceStore.empty : SurfaceStore Rule).merge requested (image.rules.get category).lists
        = ({ replaced, removed := 0 }, image.rules.get category) := by
    intro category
    refine SurfaceStore.empty_merge (hcontent category) fun s hs => ?_
    rw [BatchImage.get_rules_ofBatch, if_neg hs]
  rcases hmerge .inApp with ⟨_, hinApp⟩
  rcases hmerge .contentCard with ⟨_, hcard⟩
  rcases hmerge .eventHistory with ⟨_, hhistory⟩
  -- No surface is dropped, so only the rules of the batch are counted.
  have hsum : ∀ m n : Nat, (decide (0 < m + 0) || decide (0 < n + 0)) = decide (0 < m + n) := by
    intro m n
    rw [Nat.add_zero, Nat.add_zero, ← Bool.decide_or]
    exact decide_eq_decide.mpr Nat.add_pos_iff_pos_or_pos.symm
  refine ⟨{ rules := image.rules
            tracking := (Retained.empty.trackingOutside requested).union image.tracking }, rfl, ?_⟩
  rw [← hsum, merge,
    show Retained.empty.rules.inApp.merge requested image.rules.inApp.lists = _ from hinApp,
    show Retained.empty.rules.contentCard.merge requested image.rules.contentCard.lists = _
      from hcard,
    show Retained.empty.rules.eventHistory.merge requested image.rules.eventHistory.lists = _
      from hhistory]
  rfl

namespace Pipeline

section Start

variable (appId : String) (pending : PendingRequests) (batch : Batch)

theorem listing_written :
    Listing.ofPipeline (written { start appId with pending } (.complete batch))
      = .ofImage (.ofBatch batch.propositions batch.surfaces) := by
  let image := BatchImage.ofBatch batch.propositions batch.surfaces
  have hcontent : image.HoldsContent := BatchImage.holdsContent_ofBatch _ _
  -- All stores were empty, so the merge leaves what the image has.
  have hstore : ∀ kind, (written { start appId with pending } (.complete batch)).store kind
      = image.store kind := by
    intro kind
    have hmerge := SurfaceStore.empty_merge (hcontent.store kind) fun s hs =>
      (BatchImage.get_store_ofBatch batch.propositions batch.surfaces kind s).trans (if_neg hs)
    rcases hmerge with ⟨replaced, hmerge⟩
    have hwritten : (written { start appId with pending } (.complete batch)).store kind
        = ((SurfaceStore.empty : SurfaceStore Proposition).merge batch.surfaces
          (image.store kind).lists).2 := by
      cases kind <;> rfl
    rw [hwritten, hmerge]
  have hlisting : ∀ p : Pipeline, Listing.ofPipeline p = {
      persisted := (p.store .persisted).idLists
      codeBased := (p.store .codeBased).idLists
      cards := (p.store .cards).idLists
      inbox := (p.store .inbox).idLists } := fun _ => rfl
  rw [hlisting]
  simp only [hstore]
  rfl

theorem codeBasedIds_ofBatch (propositions : List Proposition) (requested : SurfaceSet) :
    (BatchSummary.ofBatch propositions requested).codeBasedIds
      = (BatchImage.ofBatch propositions requested).codeBasedPropositions.map Proposition.id :=
  SurfaceStore.flatten_idLists _

/-- The receipt has the counts of the summary. -/
theorem receipt_written :
    Receipt.ofPlan ((start appId).reconcilePlan batch.surfaces
        (.ofBatch batch.propositions batch.surfaces))
      = (BatchSummary.ofBatch batch.propositions batch.surfaces).receipt := by
  let image := BatchImage.ofBatch batch.propositions batch.surfaces
  rcases Retained.empty_merge_plan batch.propositions batch.surfaces with ⟨retained, hrules, hplan⟩
  have hinApp : retained.inAppRules.length
      = image.ruleCount .inApp + image.ruleCount .eventHistory := by
    rw [Retained.inAppRules, hrules, List.length_append]
    rfl
  have hcards : retained.cardRules.length = image.ruleCount .contentCard := by
    rw [Retained.cardRules, hrules]
    rfl
  have hreconcile : (start appId).reconcilePlan batch.surfaces image
      = { retained.plan (decide (0 < image.ruleCount .inApp + image.ruleCount .eventHistory))
            (decide (0 < image.ruleCount .contentCard)) with
          codeBased := image.codeBasedPropositions } :=
    congrArg (fun plan : DispatchPlan =>
      { plan with codeBased := image.codeBasedPropositions }) hplan
  -- Who is not addressed would have been given a list of length zero.
  rw [hreconcile, Receipt.ofPlan, BatchSummary.receipt, Receipt.mk.injEq]
  refine ⟨?_, ?_, ?_⟩
  · rw [← hinApp]
    exact (nonZero?_length rfl).trans (congrArg nonZero? hinApp)
  · rw [← hcards]
    exact (nonZero?_length rfl).trans (congrArg nonZero? hcards)
  · rw [codeBasedIds_ofBatch, List.length_map, nonZero?]
    cases image.codeBasedPropositions <;> rfl

/-- The listeners are told once, or not at all. -/
theorem notices_written :
    (written { start appId with pending } (.complete batch)).outbox.notices.map
        (fun ps => ps.map Proposition.id)
      = (if (BatchSummary.ofBatch batch.propositions batch.surfaces).codeBasedIds = [] then []
        else [(BatchSummary.ofBatch batch.propositions batch.surfaces).codeBasedIds]) := by
  let image := BatchImage.ofBatch batch.propositions batch.surfaces
  have hnotices : (written { start appId with pending } (.complete batch)).outbox.notices
      = if image.codeBasedPropositions.isEmpty then [] else [image.codeBasedPropositions] := rfl
  rw [hnotices, codeBasedIds_ofBatch]
  cases image.codeBasedPropositions <;> rfl

end Start

end Pipeline

namespace CommandLine

variable {σ : Type} (world : World (StateM σ)) {settings : Settings}

theorem summarize_run {file : String} {surfaces : List String} {payload : Json} {c after : σ}
    (hvalid : ∀ s ∈ surfaces, (Surface.mk s).isValid = true)
    (hread : (readJson world file).run c = (.ok payload, after)) :
    ((summarize world file surfaces).run c).1
      = .ok (.ofSummary (.ofBatch (Proposition.ofPayload payload)
        (.ofList (surfaces.map Surface.mk)))) := by
  have hfind : (surfaces.map Surface.mk).find? (fun s => !s.isValid) = none := by
    rw [List.find?_eq_none, List.forall_mem_map]
    intro s hs
    rw [hvalid s hs]
    exact Bool.false_ne_true
  rw [summarize, hfind]
  dsimp only
  rw [run_bind_of_run hread]
  rfl

theorem replay_run (hcache : settings.cacheDir = none) {file : String} {value : Json}
    {session : Session} {c after : σ} (hread : (readJson world file).run c = (.ok value, after))
    (hsession : Session.ofRecord? value = some session) :
    ((replay world settings file).run c).1
      = .ok (.ofSession ((session.replay settings.appId
        (⟨none, settings.cacheKey⟩ : Home (StateM σ)) world.requestId).run after).1) := by
  rw [replay, run_bind_of_run hread]
  dsimp only
  rw [hsession]
  dsimp only
  rw [hcache]
  rfl

theorem readJson_eq {file text : String} {c after : σ} {value : Json}
    (hfile : (world.readText file).run c = (.ok text, after))
    (htext : Json.ofText? text = some value) :
    ∃ d, (readJson world file).run c = (.ok value, d) := by
  have hread := readJson_run world file c hfile htext
  exact ⟨((readJson world file).run c).2, Prod.ext hread rfl⟩

/-- The summary of a payload tells what comes of a session in which the payload is
    delivered. The payload nests at most 124 deep, and a file spells it. Another file
    spells a session that asks for some surfaces, all of them valid, and is answered
    with the payload, cut into parts anywhere. Then both files can be read, and when
    nothing is cached, the report on the session is what the summary of the payload
    for these surfaces tells. -/
theorem summary_predicts_replay (hcache : settings.cacheDir = none)
    (hid : (world.requestId 0).isEmpty = false) {surfaces : List String} (hsome : surfaces ≠ [])
    (hvalid : ∀ s ∈ surfaces, (Surface.mk s).isValid = true) {parts : List (List RawJson)}
    {payload : Json} (hpayload : RawJson.value? 124 (.array parts.flatten) = some payload)
    {payloadText sessionText label : String}
    (hpayloadText : RawJson.ofText? payloadText = some (.array parts.flatten))
    (hsessionText :
      RawJson.ofText? sessionText = some (Session.responseTree label surfaces parts))
    {payloadFile sessionFile : String} {c d c' d' : σ}
    (hpayloadFile : (world.readText payloadFile).run c = (.ok payloadText, c'))
    (hsessionFile : (world.readText sessionFile).run d = (.ok sessionText, d')) :
    let summary := BatchSummary.ofBatch (Proposition.ofPayload payload)
      (.ofList (surfaces.map Surface.mk))
    ((execute world settings (.parse payloadFile surfaces)).run c).1 = .ok (.ofSummary summary)
      ∧ ∃ report,
        ((execute world settings (.replay sessionFile)).run d).1 = .ok (.ofSession report)
          ∧ summary.Predicts label (world.requestId 0) surfaces.length parts.length report := by
  intro summary
  rcases Option.map_eq_some_iff.mp ((RawJson.value?_array 123 _).symm.trans hpayload) with
    ⟨entries, hentries, rfl⟩
  rcases RawJson.exists_of_items?_flatten hentries with ⟨pieces, rfl, hpieces⟩
  have hpayloadValue : Json.ofText? payloadText = some (.arr pieces.flatten) := by
    rw [Json.ofText?, hpayloadText, Option.bind_some]
    exact RawJson.value?_mono (by decide) hpayload
  -- The payloads in the session are three levels down, so 124 levels are left to them.
  rcases Session.read_responseTree label surfaces hpieces with ⟨value, hvalue, hsession⟩
  have hsessionValue : Json.ofText? sessionText = some value := by
    rw [Json.ofText?, hsessionText, Option.bind_some]
    exact hvalue
  rcases readJson_eq world hpayloadFile hpayloadValue with ⟨_, hreadPayload⟩
  rcases readJson_eq world hsessionFile hsessionValue with ⟨after, hreadSession⟩
  refine ⟨summarize_run world hvalid hreadPayload, _,
    replay_run world hcache hreadSession hsession, ?_⟩
  rw [Session.replay_run]
  let home : Home (StateM σ) := ⟨none, settings.cacheKey⟩
  let batch : Batch := {
    request := world.requestId 0
    surfaces := .ofList (surfaces.map Surface.mk)
    propositions := Proposition.ofPayload (.arr pieces.flatten) }
  have hreplayed := Replay.run_response home world.requestId label hsome hvalid hid pieces
    (.start settings.appId) after
  rcases Pipeline.answered_eq home (.start settings.appId) after batch.surfaces
    (arrives_arrivals hid pieces) with ⟨pending, hdone⟩
  rw [show Pipeline.answered home _ _ _ _ _ = _ from hdone] at hreplayed
  constructor
  case steps =>
    rw [hpieces.length_eq, show summary.receipt = _ from
      (Pipeline.receipt_written settings.appId batch).symm]
    exact hreplayed.1
  case listing =>
    change Listing.ofPipeline (((Replay.start (.start settings.appId)).run home world.requestId
      (Session.ofResponse label surfaces pieces).steps).run after).1.2.pipeline = _
    rw [hreplayed.2]
    exact Pipeline.listing_written settings.appId pending batch
  case notices =>
    change (((Replay.start (.start settings.appId)).run home world.requestId
      (Session.ofResponse label surfaces pieces).steps).run after).1.2.pipeline.outbox.notices.map
        _ = _
    rw [hreplayed.2]
    exact Pipeline.notices_written settings.appId pending batch

/-- A message and a card come first, together with content that is used as it is, and
    then there is more content, but for a surface that was not asked for. -/
theorem message_card_and_content_predicted :
    let surfaces := ["mobileapp://app"]
    let first := (Proposition.build "first" "mobileapp://app" [] (
      (Pipeline.messageAndCard ⟨"mobileapp://app"⟩).items
        ++ [.unowned "content" .defaultContent .null])).toJson
    let second := Pipeline.rankedEntry "second" "mobileapp://other" 1
    let session : Json := .obj [("steps", .arr [
      .obj [("step", .str "request"), ("id", .str "label"), ("surfaces", .strings surfaces)],
      .obj [("step", .str "fragment"), ("id", .str "label"), ("payload", .arr [first])],
      .obj [("step", .str "fragment"), ("id", .str "label"), ("payload", .arr [second])],
      .obj [("step", .str "complete"), ("id", .str "label")]])]
    let world : World (StateM FileTree) := { FileTree.world 0 toString with
      readText := fun file => return .ok (
        if file = "payload.json" then (Json.arr [first, second]).compact else session.compact) }
    let summary := BatchSummary.ofBatch (Proposition.ofPayload (.arr [first, second]))
      (.ofList (surfaces.map Surface.mk))
    summary.receipt = { inAppRules := some 4, cardRules := some 1, notified := some 1 }
      ∧ ((execute world .standard (.parse "payload.json" surfaces)).run default).1
        = .ok (.ofSummary summary)
      ∧ ∃ report,
        ((execute world .standard (.replay "session.json")).run default).1 = .ok (.ofSession report)
          ∧ summary.Predicts "label" "0" 1 2 report := by
  intro surfaces first second session world summary
  have hfirst : first.HasWords := by
    simp only [first, Pipeline.messageAndCard, Proposition.build, Proposition.toJson, Item.toJson,
      Item.attach, Item.unowned, List.map_cons, List.map_nil, List.cons_append, List.nil_append,
      Json.HasWords, Json.FieldsHaveWords, Json.AllHaveWords, and_self]
  have hsecond : second.HasWords := by
    simp only [second, Pipeline.rankedEntry, Proposition.build, Proposition.toJson, Item.toJson,
      Item.attach, Item.unowned, List.map_cons, List.map_nil, Json.HasWords, Json.FieldsHaveWords,
      Json.AllHaveWords, and_true, true_and]
    decide +kernel
  have hpayload : RawJson.value? 124 (.array [[first.tree], [second.tree]].flatten)
      = some (.arr [first, second]) := by decide +kernel
  have hpayloadText : RawJson.ofText? (Json.arr [first, second]).compact
      = some (.array [[first.tree], [second.tree]].flatten) :=
    Json.ofPieces?_compact ⟨hfirst, hsecond, trivial⟩
  have hsession : session.HasWords := by
    simp only [session, surfaces, Json.strings, List.map_cons, List.map_nil, Json.HasWords,
      Json.FieldsHaveWords, Json.AllHaveWords, hfirst, hsecond, and_self]
  have hsessionText : RawJson.ofText? session.compact
      = some (Session.responseTree "label" surfaces [[first.tree], [second.tree]]) :=
    Json.ofPieces?_compact hsession
  have hvalid : ∀ s ∈ surfaces, (Surface.mk s).isValid = true := by decide +kernel
  have hid : (world.requestId 0).isEmpty = false := by decide +kernel
  exact ⟨by decide +kernel, summary_predicts_replay world rfl hid (by decide) hvalid hpayload
    hpayloadText hsessionText rfl rfl⟩

end CommandLine

end Decisioning
