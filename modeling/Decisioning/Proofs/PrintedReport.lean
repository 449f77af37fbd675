import Mathlib.Data.List.Forall2
import Decisioning.CommandLine.Outcome
import Decisioning.Proofs.IndentedText

/-!
# Printed Reports

Why what a command prints in JSON says what came of it.

What is said is stated by the fields that a reader finds: `IsWrittenIn` names, for a
summary, a report and each part of them, the field that holds it and the form that it
has there. Lists of ids by surface are the fields of an object, numbers are integers,
and a count that is missing is null.

That a reader gets to these fields at all is a matter of the text, which is read back
by `Json.ofText?_pretty` if three conditions hold. The keys of all objects have to be in
order, containers must not nest too deep, and integers must fit in 64 bits. `IsReadable`
is all three, with a bound on the depth, and goes from the parts of a container to the
container. The first two hold of every report. The third one is a condition on the
counts, and is only met if these fit.

## Main definitions

* `Json.IsReadable`: A value that is read back from its texts.
* `SurfaceLists.AreWrittenIn`, `Listing.IsWrittenIn`, `Receipt.IsWrittenIn`,
  `StepReport.IsWrittenIn`: Where the parts of a report stand.
* `BatchSummary.IsWrittenIn`, `SessionReport.IsWrittenIn`: Where all of it stands.
* `BatchSummary.counts`, `SessionReport.counts`: The numbers in it.

## Theorems

* `Json.isReadable_arr`, `Json.isReadable_obj`, `Json.isReadable_record`: From parts to
  containers.
* `StepReport.isWrittenIn_toJson`: All kinds of steps are written.
* `Response.ofSummary_json`, `Response.ofSession_json`: What is read from the responses to
  payloads and sessions.
* `Response.ofEntry_json`, `Failure.report_invalidPayload_json`: What is read from the
  others that are indented.
-/

namespace Decisioning

namespace Json

/-- A value that comes back from a text of it if the reader goes to some depth. -/
structure IsReadable (depth : Nat) (value : Json) : Prop where
  canonical : value.IsCanonical
  words : value.HasWords
  nesting : value.nesting ≤ depth

variable {depth : Nat}

theorem isReadable_null : Json.null.IsReadable depth := ⟨trivial, trivial, Nat.zero_le _⟩

theorem isReadable_bool (b : Bool) : (Json.bool b).IsReadable depth :=
  ⟨trivial, trivial, Nat.zero_le _⟩

theorem isReadable_str (s : String) : (Json.str s).IsReadable depth :=
  ⟨trivial, trivial, Nat.zero_le _⟩

theorem isReadable_nat {n : Nat} (h : n ≤ Literal.maxSignificand) : (nat n).IsReadable depth where
  canonical := trivial
  words := ⟨Int.le_trans (by decide) (Int.natCast_nonneg n), Int.ofNat_le.mpr h⟩
  nesting := Nat.zero_le _

theorem isReadable_arr {items : List Json} (h : ∀ item ∈ items, item.IsReadable depth) :
    (Json.arr items).IsReadable (depth + 1) := by
  have hall : AllCanonical items ∧ AllHaveWords items ∧ itemNesting items ≤ depth := by
    induction items with
    | nil => exact ⟨trivial, trivial, Nat.zero_le _⟩
    | cons item rest ih =>
        rcases List.forall_mem_cons.mp h with ⟨hitem, hrest⟩
        rcases ih hrest with ⟨hcanonical, hwords, hnesting⟩
        exact ⟨⟨hitem.canonical, hcanonical⟩, ⟨hitem.words, hwords⟩,
          Nat.max_le.mpr ⟨hitem.nesting, hnesting⟩⟩
  exact ⟨hall.1, hall.2.1, Nat.succ_le_succ hall.2.2⟩

theorem isReadable_obj {fields : Fields} (hsorted : IsSorted fields)
    (h : ∀ field ∈ fields, field.2.IsReadable depth) :
    (Json.obj fields).IsReadable (depth + 1) := by
  have hall : FieldsCanonical fields ∧ FieldsHaveWords fields ∧ fieldNesting fields ≤ depth := by
    -- The order of the keys concerns the object, not what is in the fields.
    clear hsorted
    induction fields with
    | nil => exact ⟨trivial, trivial, Nat.zero_le _⟩
    | cons field rest ih =>
        rcases List.forall_mem_cons.mp h with ⟨hfield, hrest⟩
        rcases ih hrest with ⟨hcanonical, hwords, hnesting⟩
        exact ⟨⟨hfield.canonical, hcanonical⟩, ⟨hfield.words, hwords⟩,
          Nat.max_le.mpr ⟨hfield.nesting, hnesting⟩⟩
  exact ⟨⟨hsorted, hall.1⟩, hall.2.1, Nat.succ_le_succ hall.2.2⟩

/-- An object with fixed keys, whose order does not depend on what is in the fields, and
    which has one condition for each field. -/
theorem isReadable_record {fields : Fields} (keys : List String) (h : fields.map Prod.fst = keys)
    (hkeys : keys.Pairwise (· < ·))
    (hfields : fields.Forall fun field => field.2.IsReadable depth) :
    (Json.obj fields).IsReadable (depth + 1) :=
  isReadable_obj (List.pairwise_map.mp (h ▸ hkeys)) (List.forall_iff_forall_mem.mp hfields)

theorem isReadable_strings (texts : List String) : (strings texts).IsReadable (depth + 1) := by
  refine isReadable_arr ?_
  rw [List.forall_mem_map]
  exact fun s _ => isReadable_str s

/-- A value is read from the lines of its indented form. -/
theorem IsReadable.ofText?_prettyLines {value : Json} (h : value.IsReadable maxDepth) :
    ofText? (CommandLine.prettyLines value) = some value :=
  (ofText?_pretty h.canonical h.words h.nesting).2

end Json

/-- Lists of ids by surface are written in an object. Each URI with a list has the list
    as its field, and there are no other fields. -/
structure SurfaceLists.AreWrittenIn (lists : SurfaceLists String) (value : Json) : Prop where
  isObject : value.isObject = true
  field : ∀ uri, value.get? uri = (lists.get? uri).map fun ids => .arr (ids.map .str)

theorem areWrittenIn_idListsJson (lists : SurfaceLists String) :
    lists.AreWrittenIn (idListsJson lists) where
  isObject := rfl
  field := SortedMap.get?_map Json.strings lists

theorem isReadable_idListsJson (lists : SurfaceLists String) (depth : Nat) :
    (idListsJson lists).IsReadable (depth + 2) := by
  refine Json.isReadable_obj (lists.map Json.strings).sorted ?_
  intro field hfield
  rcases List.mem_map.mp hfield with ⟨entry, _, rfl⟩
  exact Json.isReadable_strings entry.2

namespace Listing

/-- Each store of a listing is a field. -/
structure IsWrittenIn (l : Listing) (value : Json) : Prop where
  codeBased : ∃ lists, value.get? "code_based" = some lists ∧ l.codeBased.AreWrittenIn lists
  cards : ∃ lists, value.get? "content_cards" = some lists ∧ l.cards.AreWrittenIn lists
  inbox : ∃ lists, value.get? "inbox" = some lists ∧ l.inbox.AreWrittenIn lists
  persisted : ∃ lists, value.get? "persisted" = some lists ∧ l.persisted.AreWrittenIn lists

/-- The fields of a listing may be followed by others. -/
theorem isWrittenIn_fields_append (l : Listing) (others : Fields) :
    l.IsWrittenIn (.obj (l.fields ++ others)) where
  codeBased := ⟨_, rfl, areWrittenIn_idListsJson l.codeBased⟩
  cards := ⟨_, rfl, areWrittenIn_idListsJson l.cards⟩
  inbox := ⟨_, rfl, areWrittenIn_idListsJson l.inbox⟩
  persisted := ⟨_, rfl, areWrittenIn_idListsJson l.persisted⟩

theorem forall_fields_isReadable (l : Listing) (depth : Nat) :
    l.fields.Forall fun field => field.2.IsReadable (depth + 2) :=
  ⟨isReadable_idListsJson l.codeBased depth, isReadable_idListsJson l.cards depth,
    isReadable_idListsJson l.inbox depth, isReadable_idListsJson l.persisted depth⟩

end Listing

namespace BatchSummary

/-- Besides the stores, the propositions that were read and the rules of each category
    are counted, and the ids that can be tracked are listed. -/
structure IsWrittenIn (s : BatchSummary) (value : Json) : Prop where
  listing : s.listing.IsWrittenIn value
  propositions : value.get? "propositions" = some (.num (.int s.propositions))
  rules : ∃ rules, value.get? "rules" = some rules
    ∧ rules.get? "content_card" = some (.num (.int s.cardRules))
    ∧ rules.get? "event_history" = some (.num (.int s.historyRules))
    ∧ rules.get? "in_app" = some (.num (.int s.inAppRules))
  tracked : value.get? "tracked" = some (.arr (s.tracked.map .str))

/-- The numbers that are written. -/
def counts (s : BatchSummary) : List Nat :=
  [s.propositions, s.cardRules, s.historyRules, s.inAppRules]

theorem isWrittenIn_toJson (s : BatchSummary) : s.IsWrittenIn s.toJson where
  listing := s.listing.isWrittenIn_fields_append _
  propositions := rfl
  rules := ⟨_, rfl, rfl, rfl, rfl⟩
  tracked := rfl

theorem isReadable_toJson {s : BatchSummary} (h : ∀ n ∈ s.counts, n ≤ Literal.maxSignificand)
    (depth : Nat) : s.toJson.IsReadable (depth + 3) := by
  simp only [counts, List.forall_mem_cons, List.not_mem_nil, false_implies, implies_true,
    and_true] at h
  obtain ⟨hpropositions, hcard, hhistory, hinApp⟩ := h
  have hrules : (Json.obj [("content_card", .nat s.cardRules),
      ("event_history", .nat s.historyRules), ("in_app", .nat s.inAppRules)]).IsReadable
        (depth + 2) :=
    Json.isReadable_record ["content_card", "event_history", "in_app"] rfl (by decide +kernel)
      ⟨Json.isReadable_nat hcard, Json.isReadable_nat hhistory, Json.isReadable_nat hinApp⟩
  refine Json.isReadable_record ["code_based", "content_cards", "inbox", "persisted",
    "propositions", "rules", "tracked"] rfl (by decide +kernel) ?_
  -- The fields of the listing come first, and those of the batch as a whole after them.
  exact List.forall_append.mpr ⟨s.listing.forall_fields_isReadable depth,
    Json.isReadable_nat hpropositions, hrules, Json.isReadable_strings s.tracked⟩

end BatchSummary

namespace Receipt

/-- A count is a number, and null if nobody was addressed. -/
structure IsWrittenIn (receipt : Receipt) (value : Json) : Prop where
  cardRules : value.get? "card_rules"
    = some (receipt.cardRules.elim .null fun n => .num (.int n))
  inAppRules : value.get? "in_app_rules"
    = some (receipt.inAppRules.elim .null fun n => .num (.int n))
  notified : value.get? "notified" = some (receipt.notified.elim .null fun n => .num (.int n))

/-- The numbers that are written. -/
def counts (receipt : Receipt) : List Nat :=
  receipt.cardRules.toList ++ receipt.inAppRules.toList ++ receipt.notified.toList

theorem ofOption_map_nat (count : Option Nat) :
    Json.ofOption (count.map Json.nat) = count.elim .null fun n => .num (.int n) := by
  cases count <;> rfl

theorem isWrittenIn_toJson (receipt : Receipt) : receipt.IsWrittenIn receipt.toJson where
  cardRules := congrArg some (ofOption_map_nat receipt.cardRules)
  inAppRules := congrArg some (ofOption_map_nat receipt.inAppRules)
  notified := congrArg some (ofOption_map_nat receipt.notified)

theorem isReadable_ofOption {count : Option Nat}
    (h : ∀ n ∈ count.toList, n ≤ Literal.maxSignificand) {depth : Nat} :
    (Json.ofOption (count.map Json.nat)).IsReadable depth := by
  cases count with
  | none => exact Json.isReadable_null
  | some n => exact Json.isReadable_nat (h n (List.mem_singleton_self n))

theorem isReadable_toJson {receipt : Receipt}
    (h : ∀ n ∈ receipt.counts, n ≤ Literal.maxSignificand) (depth : Nat) :
    receipt.toJson.IsReadable (depth + 1) := by
  simp only [counts, List.forall_mem_append] at h
  obtain ⟨⟨hcards, hinApp⟩, hnotified⟩ := h
  exact Json.isReadable_record ["card_rules", "in_app_rules", "notified"] rfl (by decide +kernel)
    ⟨isReadable_ofOption hcards, isReadable_ofOption hinApp, isReadable_ofOption hnotified⟩

end Receipt

namespace StepReport

/-- Every step says what kind it is, with a line that sums it up. What came of it
    depends on the kind. An unknown request has null in the place of the receipt, and
    no count of propositions. -/
def IsWrittenIn (report : StepReport) (value : Json) : Prop :=
  value.get? "summary" = some (.str report.summary)
    ∧ match report with
      | request label _ registered =>
          value.get? "step" = some (.str "request") ∧ value.get? "id" = some (.str label)
            ∧ value.get? "registered" = some (.bool registered)
      | fragment label accepted =>
          value.get? "step" = some (.str "fragment") ∧ value.get? "id" = some (.str label)
            ∧ value.get? "accepted" = some (.bool accepted)
      | complete label (some report) =>
          value.get? "step" = some (.str "complete") ∧ value.get? "id" = some (.str label)
            ∧ value.get? "propositions" = some (.num (.int report.propositions))
            ∧ ∃ dispatched, value.get? "dispatched" = some dispatched
              ∧ report.dispatched.IsWrittenIn dispatched
      | complete label none =>
          value.get? "step" = some (.str "complete") ∧ value.get? "id" = some (.str label)
            ∧ value.get? "propositions" = none ∧ value.get? "dispatched" = some .null
      | clear surfaces receipt =>
          value.get? "step" = some (.str "clear")
            ∧ value.get? "surfaces" = some (.arr (surfaces.map .str))
            ∧ ∃ dispatched, value.get? "dispatched" = some dispatched
              ∧ receipt.IsWrittenIn dispatched

/-- The numbers that are written. -/
def counts : StepReport → List Nat
  | complete _ (some report) => report.propositions :: report.dispatched.counts
  | clear _ dispatched => dispatched.counts
  | request _ _ _ | fragment _ _ | complete _ none => []

theorem isWrittenIn_toJson (report : StepReport) : report.IsWrittenIn report.toJson := by
  cases report with
  | request label given registered => exact ⟨rfl, rfl, rfl, rfl⟩
  | fragment label accepted => exact ⟨rfl, rfl, rfl, rfl⟩
  | complete label report =>
      cases report with
      | none => exact ⟨rfl, rfl, rfl, rfl, rfl⟩
      | some report => exact ⟨rfl, rfl, rfl, rfl, _, rfl, report.dispatched.isWrittenIn_toJson⟩
  | clear surfaces dispatched => exact ⟨rfl, rfl, rfl, _, rfl, dispatched.isWrittenIn_toJson⟩

theorem isReadable_toJson {report : StepReport}
    (h : ∀ n ∈ report.counts, n ≤ Literal.maxSignificand) (depth : Nat) :
    report.toJson.IsReadable (depth + 2) := by
  cases report with
  | request label given registered =>
      exact Json.isReadable_record ["id", "registered", "step", "summary"] rfl (by decide +kernel)
        ⟨Json.isReadable_str label, Json.isReadable_bool registered, Json.isReadable_str _,
          Json.isReadable_str _⟩
  | fragment label accepted =>
      exact Json.isReadable_record ["accepted", "id", "step", "summary"] rfl (by decide +kernel)
        ⟨Json.isReadable_bool accepted, Json.isReadable_str label, Json.isReadable_str _,
          Json.isReadable_str _⟩
  | complete label report =>
      cases report with
      | none =>
          exact Json.isReadable_record ["dispatched", "id", "step", "summary"] rfl
            (by decide +kernel)
            ⟨Json.isReadable_null, Json.isReadable_str label, Json.isReadable_str _,
              Json.isReadable_str _⟩
      | some report =>
          rcases List.forall_mem_cons.mp h with ⟨hpropositions, hdispatched⟩
          exact Json.isReadable_record ["dispatched", "id", "propositions", "step", "summary"] rfl
            (by decide +kernel)
            ⟨Receipt.isReadable_toJson hdispatched depth, Json.isReadable_str label,
              Json.isReadable_nat hpropositions, Json.isReadable_str _, Json.isReadable_str _⟩
  | clear surfaces dispatched =>
      exact Json.isReadable_record ["dispatched", "step", "summary", "surfaces"] rfl
        (by decide +kernel)
        ⟨Receipt.isReadable_toJson h depth, Json.isReadable_str _, Json.isReadable_str _,
          Json.isReadable_strings surfaces⟩

end StepReport

namespace SessionReport

/-- The calls of each engine, the notices, the open requests, the steps one after
    another and the stores at the end all have their fields. -/
structure IsWrittenIn (r : SessionReport) (value : Json) : Prop where
  engines : ∃ engines, value.get? "engines" = some engines
    ∧ engines.get? "in_app" = some (.arr (r.inAppCalls.map fun ids => .arr (ids.map .str)))
    ∧ engines.get? "content_cards" = some (.arr (r.cardCalls.map fun ids => .arr (ids.map .str)))
  notices : value.get? "notifications"
    = some (.arr (r.notices.map fun ids => .arr (ids.map .str)))
  pending : value.get? "pending_requests" = some (.num (.int r.pending))
  steps : ∃ steps, value.get? "steps" = some (.arr steps)
    ∧ List.Forall₂ StepReport.IsWrittenIn r.steps steps
  stores : ∃ stores, value.get? "stores" = some stores ∧ r.listing.IsWrittenIn stores

/-- The numbers that are written. -/
def counts (r : SessionReport) : List Nat := r.pending :: r.steps.flatMap StepReport.counts

theorem isWrittenIn_toJson (r : SessionReport) : r.IsWrittenIn r.toJson where
  engines := ⟨_, rfl, rfl, rfl⟩
  notices := rfl
  pending := rfl
  steps := by
    refine ⟨_, rfl, ?_⟩
    rw [List.forall₂_map_right_iff, List.forall₂_same]
    exact fun report _ => report.isWrittenIn_toJson
  stores := ⟨.obj r.listing.fields, rfl,
    List.append_nil r.listing.fields ▸ r.listing.isWrittenIn_fields_append []⟩

theorem isReadable_listsJson (lists : List (List String)) (depth : Nat) :
    (listsJson lists).IsReadable (depth + 2) := by
  refine Json.isReadable_arr ?_
  rw [List.forall_mem_map]
  exact fun ids _ => Json.isReadable_strings ids

theorem isReadable_toJson {r : SessionReport} (h : ∀ n ∈ r.counts, n ≤ Literal.maxSignificand)
    (depth : Nat) : r.toJson.IsReadable (depth + 4) := by
  rcases List.forall_mem_cons.mp h with ⟨hpending, hcounts⟩
  have hengines : (Json.obj [("content_cards", listsJson r.cardCalls),
      ("in_app", listsJson r.inAppCalls)]).IsReadable (depth + 3) :=
    Json.isReadable_record ["content_cards", "in_app"] rfl (by decide +kernel)
      ⟨isReadable_listsJson r.cardCalls depth, isReadable_listsJson r.inAppCalls depth⟩
  have hsteps : (Json.arr (r.steps.map StepReport.toJson)).IsReadable (depth + 3) := by
    refine Json.isReadable_arr ?_
    rw [List.forall_mem_map]
    intro report hreport
    -- What is counted of a step is counted of the session.
    refine StepReport.isReadable_toJson (fun n hn => ?_) depth
    exact hcounts n (List.mem_flatMap.mpr ⟨report, hreport, hn⟩)
  have hstores : (Json.obj r.listing.fields).IsReadable (depth + 3) :=
    Json.isReadable_record ["code_based", "content_cards", "inbox", "persisted"] rfl
      (by decide +kernel) (r.listing.forall_fields_isReadable depth)
  exact Json.isReadable_record ["engines", "notifications", "pending_requests", "steps", "stores"]
    rfl (by decide +kernel)
    ⟨hengines, isReadable_listsJson r.notices (depth + 1), Json.isReadable_nat hpending, hsteps,
      hstores⟩

end SessionReport

namespace CommandLine

/-- The JSON response to a payload can be read, and has the fields of the summary. -/
theorem Response.ofSummary_json {s : BatchSummary}
    (h : ∀ n ∈ s.counts, n ≤ Literal.maxSignificand) :
    ∃ value, Json.ofText? (Response.ofSummary s .json) = some value ∧ s.IsWrittenIn value :=
  ⟨s.toJson, (BatchSummary.isReadable_toJson h 124).ofText?_prettyLines, s.isWrittenIn_toJson⟩

/-- The JSON response to a session can be read, and has the fields of the report. -/
theorem Response.ofSession_json {r : SessionReport}
    (h : ∀ n ∈ r.counts, n ≤ Literal.maxSignificand) :
    ∃ value, Json.ofText? (Response.ofSession r .json) = some value ∧ r.IsWrittenIn value :=
  ⟨r.toJson, (SessionReport.isReadable_toJson h 123).ofText?_prettyLines, r.isWrittenIn_toJson⟩

/-- The JSON response about a cached entry can be read, and has the lists of the store
    that the entry is a snapshot of, and the metadata. -/
theorem Response.ofEntry_json (entry : CacheEntry) :
    ∃ value, Json.ofText? (Response.ofEntry entry .json) = some value
      ∧ value.get? "cached" = some (.bool true)
      ∧ (∃ lists, value.get? "surfaces" = some lists
        ∧ (SurfaceStore.ofSnapshot entry.data).idLists.AreWrittenIn lists)
      ∧ ∃ metadata, value.get? "metadata" = some metadata
        ∧ ∀ key, metadata.get? key = (entry.metadata.get? key).map .str := by
  let lists := (SurfaceStore.ofSnapshot entry.data).idLists
  let metadata : Json := .obj (entry.metadata.map Json.str).entries
  have hmetadata : metadata.IsReadable (125 + 1) := by
    refine Json.isReadable_obj (entry.metadata.map Json.str).sorted ?_
    intro field hfield
    rcases List.mem_map.mp hfield with ⟨part, _, rfl⟩
    exact Json.isReadable_str part.2
  have hall : (Json.obj [("cached", .bool true), ("metadata", metadata),
      ("surfaces", idListsJson lists)]).IsReadable Json.maxDepth :=
    Json.isReadable_record ["cached", "metadata", "surfaces"] rfl (by decide +kernel)
      ⟨Json.isReadable_bool true, hmetadata, isReadable_idListsJson lists 124⟩
  exact ⟨_, hall.ofText?_prettyLines, rfl, ⟨_, rfl, areWrittenIn_idListsJson lists⟩, _, rfl,
    SortedMap.get?_map Json.str entry.metadata⟩

/-- What is wrong with a payload is read from the JSON message, quiet or not. -/
theorem Failure.report_invalidPayload_json (quiet : Bool) (violations : List Violation) :
    ∃ value, Json.ofText? ((Failure.invalidPayload violations).report quiet .json) = some value
      ∧ value.get? "valid" = some (.bool false)
      ∧ value.get? "errors" = some (.arr (violations.map fun v => .str v.message)) := by
  have hall : (Json.obj [("errors", .strings (violations.map Violation.message)),
      ("valid", .bool false)]).IsReadable Json.maxDepth :=
    Json.isReadable_record ["errors", "valid"] rfl (by decide +kernel)
      ⟨Json.isReadable_strings _, Json.isReadable_bool false⟩
  refine ⟨_, hall.ofText?_prettyLines, rfl, ?_⟩
  change some (Json.arr ((violations.map Violation.message).map .str)) = _
  rw [List.map_map]
  rfl

end CommandLine

end Decisioning
