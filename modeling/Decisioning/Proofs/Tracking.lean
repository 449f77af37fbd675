import Mathlib.Data.List.Induction
import Decisioning.Proofs.CardContent
import Decisioning.Proofs.LastWriter

/-!
# Tracking

Whose record an id has, and why it is never a stale one.

Rules are kept by surface, but tracking records by id, in one map for all surfaces.
A proposition leaves its record under the ids of its ruleset items and of their
rules, and takes the place of whatever was there. A write first drops the records
of the surfaces that it covers, wherever they came from, and then puts in those of
its batch. So a record is either new, or of a surface that the write does not cover,
and the last write that covers its surface is the one that brought it.

The converse does not hold, as one id has one record. Where two surfaces use the
same id, only the proposition that came last is tracked under it, and when its
surface is written again the record is gone, although the rule of the other surface
is still there. What can be said is that nothing else goes wrong: a rule is tracked
for its surface exactly if the last proposition that came with its id is one of that
surface. Both facts are inductions from the end of the run, because the last write
either decides or leaves the matter to the writes before it.

## Main definitions

* `Item.trackingIds`, `Proposition.trackingIds`: The ids under which a proposition is
  tracked.
* `lastTracked?`: The last proposition that is tracked under an id.
* `Batch.AccountsFor`: A batch has a proposition that explains a record.
* `Write.placed`: The propositions that a write places, in order.
* `Write.track`: What a write does to the record under an id.

## Theorems

* `Placement.tracked_ofProposition`: The ids of a placement.
* `BatchImage.get?_tracking_ofBatch`: The records that a batch brings.
* `Pipeline.trackingRecord?_reached`: The record under an id after a run.
* `Pipeline.records_come_from_last_writer`: No record is stale.
* `Pipeline.rule_is_tracked_iff_last`: When a rule is tracked for its surface.
-/

namespace Decisioning

namespace Item

/-- The ids under which an item tracks its proposition: its own and those of its
    rules, if it has any rules. -/
def trackingIds (item : Item) : List String :=
  match Rule.compileItem item with
  | [] => []
  | rules => item.id :: rules.map Rule.id

theorem mem_trackingIds {item : Item} {id : String} :
    id ∈ item.trackingIds
      ↔ Rule.compileItem item ≠ [] ∧ (id = item.id ∨ ∃ r ∈ Rule.compileItem item, id = r.id) := by
  unfold trackingIds
  cases Rule.compileItem item with
  | nil => simp only [List.not_mem_nil, ne_eq, not_true_eq_false, false_and]
  | cons r rest =>
      simp only [List.mem_cons, List.mem_map, ne_eq, reduceCtorEq, not_false_eq_true, true_and,
        List.map_cons, exists_eq_or_imp, eq_comm (a := id)]

end Item

/-- The ids under which a proposition is tracked. -/
def Proposition.trackingIds (p : Proposition) : List String := p.items.flatMap Item.trackingIds

/-- A proposition is tracked under the ids of its rules. -/
theorem Proposition.id_mem_trackingIds {p : Proposition} {r : Rule} (h : r ∈ p.compiledRules) :
    r.id ∈ p.trackingIds := by
  rcases List.mem_flatMap.mp h with ⟨item, hitem, hr⟩
  exact List.mem_flatMap.mpr
    ⟨item, hitem, Item.mem_trackingIds.mpr ⟨List.ne_nil_of_mem hr, Or.inr ⟨r, hr, rfl⟩⟩⟩

namespace Placement

variable (activity : Option String)

theorem tracked_addRule (placement : Placement) (rule : Rule) :
    (addRule activity placement rule).tracked = placement.tracked ++ [rule.id] := by
  unfold addRule
  cases rule.category <;> rfl

theorem tracked_foldl_addRule (rules : List Rule) (placement : Placement) :
    (rules.foldl (addRule activity) placement).tracked
      = placement.tracked ++ rules.map Rule.id := by
  induction rules generalizing placement with
  | nil => exact (List.append_nil _).symm
  | cons r rest ih =>
      rw [List.foldl_cons, ih, tracked_addRule, List.append_assoc, List.map_cons,
        List.singleton_append]

theorem tracked_addItem (placement : Placement) (item : Item) :
    (addItem activity placement item).tracked = placement.tracked ++ item.trackingIds := by
  by_cases hschema : item.schema = .ruleset
  · simp only [addItem, hschema, addRuleset, Item.trackingIds]
    cases Rule.compileItem item with
    | nil => exact (List.append_nil _).symm
    | cons r rest =>
        simp only [tracked_foldl_addRule, List.append_assoc, List.singleton_append]
  · -- Other items only set flags.
    rw [Item.trackingIds, Rule.compileItem_of_not_ruleset hschema, List.append_nil, addItem]
    cases hother : item.schema with
    | ruleset => exact absurd hother hschema
    | _ => rfl

theorem tracked_ofProposition (p : Proposition) : (ofProposition p).tracked = p.trackingIds := by
  have hfold : ∀ (items : List Item) (placement : Placement),
      (items.foldl (addItem p.activityId?) placement).tracked
        = placement.tracked ++ items.flatMap Item.trackingIds := by
    intro items
    induction items with
    | nil => intro placement; exact (List.append_nil _).symm
    | cons item rest ih =>
        intro placement
        rw [List.foldl_cons, ih, tracked_addItem, List.append_assoc, List.flatMap_cons]
  exact hfold p.items empty

end Placement

/-- The last proposition that is tracked under an id. -/
def lastTracked? (id : String) (ps : List Proposition) : Option Proposition :=
  (ps.filter fun p => id ∈ p.trackingIds).getLast?

theorem lastTracked?_append (id : String) (ps qs : List Proposition) :
    lastTracked? id (ps ++ qs) = (lastTracked? id qs).or (lastTracked? id ps) := by
  rw [lastTracked?, List.filter_append, List.getLast?_append]
  rfl

theorem mem_of_lastTracked? {id : String} {ps : List Proposition} {p : Proposition}
    (h : lastTracked? id ps = some p) : p ∈ ps ∧ id ∈ p.trackingIds := by
  have hmem := List.mem_filter.mp (List.mem_of_getLast? h)
  exact ⟨hmem.1, of_decide_eq_true hmem.2⟩

theorem isSome_lastTracked? {id : String} {ps : List Proposition} {p : Proposition}
    (hp : p ∈ ps) (hid : id ∈ p.trackingIds) : (lastTracked? id ps).isSome = true := by
  rw [lastTracked?, List.getLast?_isSome]
  exact List.ne_nil_of_mem (List.mem_filter.mpr ⟨hp, decide_eq_true hid⟩)

theorem lastTracked?_eq_none_iff {id : String} {ps : List Proposition} :
    lastTracked? id ps = none ↔ ∀ p ∈ ps, id ∉ p.trackingIds := by
  rw [lastTracked?, List.getLast?_eq_none_iff, List.filter_eq_nil_iff]
  simp only [decide_eq_true_eq]

/-- The last of some writes counts if it covers the surface, and leaves the matter to
    those before it if it does not. -/
theorem lastWrite?_concat (s : Surface) (writes : List Write) (w : Write) :
    lastWrite? s (writes ++ [w])
      = if w.surfaces.contains s then some w else lastWrite? s writes := by
  rw [lastWrite?_append, lastWrite?]
  by_cases hs : w.surfaces.contains s = true
  · rw [if_pos hs, List.filter_cons_of_pos (by exact hs)]
    rfl
  · rw [if_neg hs, List.filter_cons_of_neg (by exact hs)]
    rfl

namespace BatchImage

/-- A proposition puts its record under each of its ids. -/
theorem get?_tracking_add (image : BatchImage) (p : Proposition) (id : String) :
    (image.add p).tracking.get? id
      = if id ∈ p.trackingIds then some (.ofProposition p) else image.tracking.get? id := by
  have hfold : ∀ (ids : List String) (tracking : SortedMap TrackingRecord),
      (ids.foldl (fun t key => t.insert key (.ofProposition p)) tracking).get? id
        = if id ∈ ids then some (.ofProposition p) else tracking.get? id := by
    intro ids
    induction ids with
    | nil => intro tracking; rfl
    | cons key rest ih =>
        intro tracking
        rw [List.foldl_cons, ih, SortedMap.get?_insert]
        by_cases hkey : id = key
        · simp only [hkey, List.mem_cons, true_or, ↓reduceIte, ite_self]
        · simp only [hkey, List.mem_cons, false_or, ↓reduceIte]
  rw [← Placement.tracked_ofProposition]
  exact hfold _ image.tracking

theorem get?_tracking_foldl_add (ps : List Proposition) (image : BatchImage) (id : String) :
    (ps.foldl add image).tracking.get? id
      = ((lastTracked? id ps).map .ofProposition).or (image.tracking.get? id) := by
  induction ps generalizing image with
  | nil => rfl
  | cons p rest ih =>
      rw [List.foldl_cons, ih, get?_tracking_add, ← List.singleton_append, lastTracked?_append]
      cases lastTracked? id rest with
      | some q => rfl
      | none =>
          rw [Option.map_none, Option.none_or, Option.none_or, lastTracked?]
          by_cases hid : id ∈ p.trackingIds
          · rw [if_pos hid, List.filter_cons_of_pos (by exact decide_eq_true hid)]
            rfl
          · rw [if_neg hid, List.filter_cons_of_neg (by simpa only [decide_eq_true_eq] using hid)]
            rfl

/-- A batch brings under an id the record of the last of its propositions that is
    tracked under it, in rank order over all requested surfaces. -/
theorem get?_tracking_ofBatch (propositions : List Proposition) (requested : SurfaceSet)
    (id : String) :
    (ofBatch propositions requested).tracking.get? id
      = (lastTracked? id (inScope propositions requested)).map .ofProposition := by
  rw [ofBatch, get?_tracking_foldl_add]
  exact Option.or_none

end BatchImage

theorem mem_inScope {propositions : List Proposition} {requested : SurfaceSet}
    {p : Proposition} :
    p ∈ inScope propositions requested
      ↔ p ∈ propositions ∧ requested.contains p.surface = true := by
  rw [inScope, List.mem_mergeSort, List.mem_filter]

/-- A record is explained by a proposition of the batch with all that it says, which
    has a ruleset item with rules, and by an id of this item or of one of its rules. -/
def Batch.AccountsFor (batch : Batch) (id : String) (record : TrackingRecord) : Prop :=
  ∃ q ∈ batch.propositions,
    (q.id = record.id ∧ q.scope = record.scope ∧ q.scopeDetails = record.scopeDetails)
      ∧ ∃ item ∈ q.items, item.schema = .ruleset ∧ Rule.compileItem item ≠ []
        ∧ (id = item.id ∨ ∃ r ∈ Rule.compileItem item, id = r.id)

theorem Batch.accountsFor_ofProposition {batch : Batch} {q : Proposition} {id : String}
    (hq : q ∈ batch.propositions) (hid : id ∈ q.trackingIds) :
    batch.AccountsFor id (.ofProposition q) := by
  rcases List.mem_flatMap.mp hid with ⟨item, hitem, hmem⟩
  rcases Item.mem_trackingIds.mp hmem with ⟨hrules, hwhich⟩
  have hschema : item.schema = .ruleset :=
    Decidable.byContradiction fun hne => hrules (Rule.compileItem_of_not_ruleset hne)
  exact ⟨q, hq, ⟨rfl, rfl, rfl⟩, item, hitem, hschema, hrules, hwhich⟩

namespace Write

/-- The propositions that a write places, in the order in which it does. -/
def placed : Write → List Proposition
  | .complete batch => inScope batch.propositions batch.surfaces
  | .clear _ => []

theorem get?_tracking_image (w : Write) (id : String) :
    w.image.tracking.get? id = (lastTracked? id w.placed).map .ofProposition := by
  cases w with
  | complete batch => exact BatchImage.get?_tracking_ofBatch _ _ id
  | clear surfaces => rfl

theorem covers_of_mem_placed {w : Write} {q : Proposition} (h : q ∈ w.placed) :
    w.surfaces.contains q.surface = true := by
  cases w with
  | complete batch => exact (mem_inScope.mp h).2
  | clear surfaces => exact absurd h List.not_mem_nil

/-- What a write makes of the record under an id: the one that it brings, or the
    one that was there, unless the write covers its surface. -/
def track (id : String) (record : Option TrackingRecord) (w : Write) : Option TrackingRecord :=
  (w.image.tracking.get? id).or (record.filter fun r => !w.surfaces.contains ⟨r.scope⟩)

theorem track_of_lastTracked? {w : Write} {id : String} {q : Proposition}
    (h : lastTracked? id w.placed = some q) (before : Option TrackingRecord) :
    track id before w = some (.ofProposition q) := by
  rw [track, get?_tracking_image, h]
  rfl

theorem track_of_none {w : Write} {id : String} (h : lastTracked? id w.placed = none)
    (before : Option TrackingRecord) :
    track id before w = before.filter fun r => !w.surfaces.contains ⟨r.scope⟩ := by
  rw [track, get?_tracking_image, h]
  rfl

/-- A record after a write is one that its batch accounts for, or one that was there
    before and belongs to a surface that the write does not cover. -/
theorem eq_some_of_track {w : Write} {id : String} {before : Option TrackingRecord}
    {record : TrackingRecord} (h : track id before w = some record) :
    (w.surfaces.contains ⟨record.scope⟩ = true
        ∧ ∃ batch, w = .complete batch ∧ batch.AccountsFor id record)
      ∨ (w.surfaces.contains ⟨record.scope⟩ = false ∧ before = some record) := by
  cases hlast : lastTracked? id w.placed with
  | some q =>
      rw [track_of_lastTracked? hlast] at h
      rcases mem_of_lastTracked? hlast with ⟨hplaced, hid⟩
      rw [← Option.some.inj h]
      refine Or.inl ⟨covers_of_mem_placed hplaced, ?_⟩
      cases w with
      | complete batch =>
          exact ⟨batch, rfl, Batch.accountsFor_ofProposition (mem_inScope.mp hplaced).1 hid⟩
      | clear surfaces => exact absurd hplaced List.not_mem_nil
  | none =>
      rw [track_of_none hlast, Option.filter_eq_some_iff, Bool.not_eq_true'] at h
      exact Or.inr ⟨h.2, h.1⟩

/-- A record that is left by writes is one that the last of those that cover its
    surface accounts for. -/
theorem accounted_of_foldl_track {id : String} {writes : List Write} {record : TrackingRecord}
    (h : writes.foldl (track id) none = some record) :
    ∃ batch, lastWrite? ⟨record.scope⟩ writes = some (.complete batch)
      ∧ batch.AccountsFor id record := by
  induction writes using List.reverseRecOn with
  | nil => exact absurd h (by simp only [List.foldl_nil, reduceCtorEq, not_false_eq_true])
  | append_singleton writes w ih =>
      rw [List.foldl_append, List.foldl_cons, List.foldl_nil] at h
      rw [lastWrite?_concat]
      rcases eq_some_of_track h with ⟨hcovers, batch, rfl, hbatch⟩ | ⟨houtside, hbefore⟩
      · exact ⟨batch, if_pos hcovers, hbatch⟩
      · -- The last write is of no concern, neither to the record nor to its surface.
        rw [if_neg (Bool.eq_false_iff.mp houtside)]
        exact ih hbefore

/-- Where the last write of a surface places a proposition that is tracked under an
    id there, the record under the id is for the surface exactly if the proposition
    that was tracked last under it is. -/
theorem scope_foldl_track_iff {s : Surface} {id : String} {writes : List Write} {w : Write}
    (hlast : lastWrite? s writes = some w) {p : Proposition} (hp : p ∈ w.placed)
    (hid : id ∈ p.trackingIds) :
    ∃ q, lastTracked? id (writes.flatMap placed) = some q
      ∧ ((∃ record, writes.foldl (track id) none = some record ∧ record.scope = s.uri)
        ↔ q.surface = s) := by
  induction writes using List.reverseRecOn with
  | nil => exact absurd hlast (by simp only [lastWrite?, List.filter_nil, List.getLast?_nil,
      reduceCtorEq, not_false_eq_true])
  | append_singleton writes v ih =>
      rw [List.flatMap_append, List.flatMap_singleton, lastTracked?_append, List.foldl_append,
        List.foldl_cons, List.foldl_nil]
      cases htracked : lastTracked? id v.placed with
      | some q =>
          refine ⟨q, rfl, ?_⟩
          rw [track_of_lastTracked? htracked]
          simp only [Option.some.injEq, exists_eq_left']
          exact uri_eq_iff q.surface s
      | none =>
          -- The last write has no such proposition, so it is not the one of the surface.
          rw [lastWrite?_concat] at hlast
          by_cases hs : v.surfaces.contains s = true
          · rw [if_pos hs] at hlast
            rw [Option.some.inj hlast] at htracked
            have hsome := isSome_lastTracked? hp hid
            rw [htracked] at hsome
            exact absurd hsome Bool.false_ne_true
          · rw [if_neg hs] at hlast
            rcases ih hlast with ⟨q, hq, hiff⟩
            refine ⟨q, hq, ?_⟩
            rw [← hiff, track_of_none htracked]
            refine exists_congr fun record => and_congr_left fun hscope => ?_
            rw [Option.filter_eq_some_iff, hscope, Bool.not_eq_true', and_iff_left_iff_imp]
            exact fun _ => Bool.eq_false_iff.mpr hs

end Write

namespace Pipeline

variable {σ : Type} (home : Home (StateM σ))

theorem trackingRecord?_written (p : Pipeline) (w : Write) (id : String) :
    (p.written w).trackingRecord? id = Write.track id (p.trackingRecord? id) w := by
  change ((p.retained.trackingOutside w.surfaces).union w.image.tracking).get? id = _
  rw [SortedMap.get?_union, Retained.trackingOutside, SortedMap.get?_filter]
  rfl

/-- What one operation does to the record under an id. -/
theorem trackingRecord?_after (p : Pipeline) (op : Operation) (id : String) :
    (p.after op).trackingRecord? id
      = (p.write? op).toList.foldl (Write.track id) (p.trackingRecord? id) := by
  cases hwrite : p.write? op with
  | none =>
      rw [after_of_no_write p hwrite]
      rfl
  | some w =>
      rw [after_of_write p hwrite, trackingRecord?_written]
      rfl

/-- What a run does to the record under an id, from any pipeline. -/
theorem trackingRecord?_reached (p : Pipeline) (c : σ) (ops : List Operation) (id : String) :
    (p.reached home c (ops.map .operation)).1.trackingRecord? id
      = (p.writes home c ops).foldl (Write.track id) (p.trackingRecord? id) := by
  induction ops generalizing p c with
  | nil => rfl
  | cons op rest ih =>
      rw [List.map_cons, reached_cons, writes, List.foldl_append, ← trackingRecord?_after,
        ← (p.perform_run home op c).1]
      exact ih _ _

/-- No tracking record is stale. In a run without loading, the last write that covers
    the surface of a record is a completed request, and its batch accounts for the
    record. So once a surface is forgotten no record of it is left under any id, and
    once a request for it is completed all that are left are those that the new batch
    accounts for. -/
theorem records_come_from_last_writer (appId : String) (c : σ) (ops : List Operation) :
    let reached := (start appId).reached home c (ops.map .operation)
    let writes := (start appId).writes home c ops
    (∀ id record, reached.1.trackingRecord? id = some record →
      ∃ batch, lastWrite? ⟨record.scope⟩ writes = some (.complete batch)
        ∧ batch.AccountsFor id record)
      ∧ ∀ op w, reached.1.write? op = some w →
        ∀ id record,
          ((reached.1.perform home op).run reached.2).1.2.trackingRecord? id = some record →
          ⟨record.scope⟩ ∈ w.surfaces →
          ∃ batch, w = .complete batch ∧ batch.AccountsFor id record := by
  intro reached writes
  constructor
  · -- Over a run, the record is that of the writes one after another.
    intro id record hrecord
    rw [show reached.1.trackingRecord? id = _ from
      trackingRecord?_reached home (start appId) c ops id] at hrecord
    exact Write.accounted_of_foldl_track hrecord
  · -- In one step, a record of a covered surface cannot be an older one.
    intro op w hwrite id record hrecord hcovers
    rw [(reached.1.perform_run home op reached.2).1, trackingRecord?_after, hwrite] at hrecord
    rcases Write.eq_some_of_track hrecord with ⟨_, hbatch⟩ | ⟨houtside, _⟩
    · exact hbatch
    · exact absurd hcovers (Bool.eq_false_iff.mp houtside)

/-- Operations by which a message and a card arrive at a surface, up to the end of the
    response. -/
def messageAndCardSent (id : String) (s : Surface) : List Operation :=
  [.register id (.ofList [s]),
    .fragment (Fragment.event id (.arr [(messageAndCard s).toJson]))]

/-- The same with the end of the response. -/
def messageAndCardDelivered (id : String) (s : Surface) : List Operation :=
  messageAndCardSent id s ++ [.completion (completionEvent id)]

/-- A card is tracked after one request, and by the batch of the next one when that
    is completed. -/
theorem card_comes_from_last_writer :
    let s : Surface := ⟨"mobileapp://app"⟩
    let home : Home (StateM Unit) := ⟨none, "propositions"⟩
    let ops := messageAndCardDelivered "first" s ++ messageAndCardSent "second" s
    let op := Operation.completion (completionEvent "second")
    let p := ((start "app").reached home () (ops.map .operation)).1
    let record := TrackingRecord.ofProposition (messageAndCard s)
    (p.trackingRecord? "card" = some record
        ∧ ∃ batch, lastWrite? s ((start "app").writes home () ops) = some (.complete batch)
          ∧ batch.AccountsFor "card" record)
      ∧ ∃ batch, p.write? op = some (.complete batch) ∧ batch.AccountsFor "card" record := by
  intro s home ops op p record
  have hsources := records_come_from_last_writer home "app" () ops
  have hrecord : p.trackingRecord? "card" = some record := by decide +kernel
  refine ⟨⟨hrecord, hsources.1 "card" record hrecord⟩, ?_⟩
  have hwrites : (p.write? op).any (fun w => w.surfaces.contains s) = true := by decide +kernel
  rcases (Option.any_eq_true _ _).mp hwrites with ⟨w, hwrite, hcovers⟩
  rcases hsources.2 op w hwrite "card" record (by decide +kernel) hcovers with
    ⟨batch, rfl, haccounts⟩
  exact ⟨batch, hwrite, haccounts⟩

/-- When a live rule is tracked. In a run without loading, the record under the id of
    an in-app or card rule that is retained for a surface is one of the surface exactly
    if the last proposition that the run placed under the id is, where the batches
    count in the order in which they were completed, and the propositions of a batch
    in rank order. There is such a proposition, so a rule whose id is used for no
    other surface is tracked. -/
theorem rule_is_tracked_iff_last (appId : String) (c : σ) (ops : List Operation) :
    let p := ((start appId).reached home c (ops.map .operation)).1
    let placed := ((start appId).writes home c ops).flatMap Write.placed
    ∀ s category, category ≠ .eventHistory → ∀ rule ∈ (p.retained.rules.get category).get s,
      ∃ q, lastTracked? rule.id placed = some q
        ∧ ((∃ record, p.trackingRecord? rule.id = some record ∧ record.scope = s.uri)
          ↔ q.surface = s) := by
  intro p placed s category hcategory rule hrule
  -- The rule was brought by the last writer of the surface.
  have hheld : p.heldAt s = _ := heldAt_reached home (start appId) c ops s
  have hrules := congrFun (congrArg Holdings.rules hheld) category
  rw [SurfaceStore.get_eq_held?, show (p.retained.rules.get category).held? s = _ from hrules]
    at hrule
  rw [show p.trackingRecord? rule.id = _ from
    trackingRecord?_reached home (start appId) c ops rule.id]
  cases hlast : lastWrite? s ((start appId).writes home c ops) with
  | none =>
      rw [hlast, heldAt_start] at hrule
      exact absurd hrule List.not_mem_nil
  | some w =>
      rw [hlast] at hrule
      cases w with
      | clear surfaces =>
          dsimp only [Write.image] at hrule
          rw [BatchImage.heldAt_empty] at hrule
          exact absurd hrule List.not_mem_nil
      | complete batch =>
          have hcovers : batch.surfaces.contains s = true := covers_of_lastWrite? hlast
          have hget := BatchImage.get_compiled_ofBatch hcategory batch.propositions
            batch.surfaces s
          rw [if_pos hcovers] at hget
          change rule ∈ ((BatchImage.ofBatch batch.propositions batch.surfaces).rules.get
            category).get s at hrule
          rw [hget] at hrule
          rcases List.mem_flatMap.mp hrule with ⟨q, hq, hcompiled⟩
          rw [mem_rankedAt] at hq
          exact Write.scope_foldl_track_iff hlast
            (mem_inScope.mpr ⟨hq.1, by rw [hq.2]; exact hcovers⟩)
            (Proposition.id_mem_trackingIds (List.mem_of_mem_filter hcompiled))

/-- Two surfaces with the same message. It is tracked for the one that it came to
    last, and for no other. -/
theorem message_is_tracked_for_second_surface :
    let one : Surface := ⟨"mobileapp://app/one"⟩
    let two : Surface := ⟨"mobileapp://app/two"⟩
    let home : Home (StateM Unit) := ⟨none, "propositions"⟩
    let ops := messageAndCardDelivered "first" one ++ messageAndCardDelivered "second" two
    ∃ p, p = ((start "app").reached home () (ops.map .operation)).1
      ∧ ∀ s ∈ [one, two], ∃ rule ∈ (p.retained.rules.get .inApp).get s,
        (∃ record, p.trackingRecord? rule.id = some record ∧ record.scope = s.uri) ↔ s = two := by
  intro one two home ops
  refine ⟨_, rfl, fun s hs => ?_⟩
  have hrules : ∀ t ∈ [one, two], ∃ rule ∈ ((((start "app").reached home ()
      (ops.map .operation)).1).retained.rules.get .inApp).get t, rule.id = "message" := by
    decide +kernel
  have hlast : lastTracked? "message" (((start "app").writes home () ops).flatMap Write.placed)
      = some (messageAndCard two) := by decide +kernel
  have hsurface : (messageAndCard two).surface = two := rfl
  rcases hrules s hs with ⟨rule, hrule, hid⟩
  rcases rule_is_tracked_iff_last home "app" () ops s .inApp (by decide) rule hrule with
    ⟨q, hq, hiff⟩
  rw [hid] at hq
  refine ⟨rule, hrule, ?_⟩
  rw [hiff, ← Option.some.inj (hlast.symm.trans hq), hsurface]
  exact eq_comm

/-- The same two surfaces, when the second one was forgotten. The first one still has
    its message, but the message is not tracked any more. -/
theorem live_rule_without_record :
    let one : Surface := ⟨"mobileapp://app/one"⟩
    let two : Surface := ⟨"mobileapp://app/two"⟩
    let home : Home (StateM Unit) := ⟨none, "propositions"⟩
    let ops := messageAndCardDelivered "first" one ++ messageAndCardDelivered "second" two
      ++ [.clear [two]]
    let p := ((start "app").reached home () (ops.map .operation)).1
    ¬∀ s category, category ≠ .eventHistory → ∀ rule ∈ (p.retained.rules.get category).get s,
      ∃ record, p.trackingRecord? rule.id = some record ∧ record.scope = s.uri := by
  intro one two home ops p htracked
  have hrules : ∃ rule ∈ (p.retained.rules.get .inApp).get one,
      p.trackingRecord? rule.id = none := by decide +kernel
  rcases hrules with ⟨rule, hrule, hnone⟩
  rcases htracked one .inApp (by decide) rule hrule with ⟨record, hrecord, _⟩
  rw [hnone] at hrecord
  exact absurd hrecord (by simp only [reduceCtorEq, not_false_eq_true])

end Pipeline

end Decisioning
