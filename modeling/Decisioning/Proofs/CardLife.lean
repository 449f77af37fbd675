import Decisioning.Interaction
import Decisioning.Rule.Compile
import Decisioning.Rule.History

/-!
# The Life of a Card in Event History

Why the rules that accompany a card see what is recorded of it.

Two parts of the library have to agree without knowing each other. One makes the rules
that wait for a card to be displayed or dismissed, the other makes the records of
displays and dismissals. A rule is a group of matchers with a key each, and a record is
a document; the key of a matcher is the way to a value of the record, its parts joined
by dots. Reading both that way, a rule observes a record exactly if the record is of the
rule's event and of the rule's id, whatever the label.

So all depends on the id. Without an activity it is the id of the card's rule, which
always has records. An activity with an empty id is taken as it is, and of an empty id
nothing is ever recorded, so that such a card is never seen to be displayed or
dismissed.

## Main definitions

* `Json.flattened?`: The value of a document under a key with dots.
* `Json.matchersFor`: What a group of matchers accepts under a key.
* `Rule.Observes`: A rule's matchers accept the event and the id of a record.
* `Rule.recordedId?`: The id that a history rule writes.
* `ObserveLife`: Two rules observe what is recorded of an id, and nothing else.

## Theorems

* `matchersFor_interactionCondition`: The matchers of the rules for an interaction.
* `HistoryWrite.flattened?_data`: The values of a record.
* `Rule.observes_iff`: Which records such a rule observes.
* `Rule.observeLife_iff`: When the rules for an id observe its life.
* `Rule.life_is_observed_unless_activity_is_empty`: The life of a card.
-/

namespace Decisioning

namespace Json

/-- The value at the end of a path of keys. -/
def along? : List String → Json → Option Json
  | [], value => some value
  | key :: rest, value => (value.get? key).bind (along? rest)

/-- The value under a flattened key: the keys on the way to it, joined by dots. -/
def flattened? (key : String) (value : Json) : Option Json :=
  value.along? ((key.toList.splitOn '.').map String.ofList)

/-- The values that a matcher accepts under a key; `none` for any other condition. -/
def acceptedValues? (key : String) (condition : Json) : Option (List Json) := do
  let definition ← condition.get? "definition"
  if condition.string? "type" = some "matcher" ∧ definition.string? "key" = some key
      ∧ definition.string? "matcher" = some "eq" then definition.array? "values"
  else none

/-- What the matchers of a group accept under a key, one list a matcher. -/
def matchersFor (key : String) (group : Json) : List (List Json) :=
  (((group.get? "definition").bind (array? "conditions")).getD []).filterMap (acceptedValues? key)

end Json

theorem acceptedValues?_matcher (key k value : String) :
    (matcher k value).acceptedValues? key = if k = key then some [.str value] else none := by
  have hdefinition : (matcher k value).get? "definition" = some (.obj [("key", .str k),
      ("matcher", .str "eq"), ("values", .strings [value])]) := rfl
  have htype : (matcher k value).string? "type" = some "matcher" := rfl
  unfold Json.acceptedValues?
  rw [hdefinition, htype]
  by_cases hkey : k = key
  · subst hkey
    rw [if_pos rfl]
    exact if_pos ⟨rfl, rfl, rfl⟩
  · rw [if_neg hkey]
    exact if_neg fun h => hkey (Option.some.inj h.2.1)

/-- The condition for an interaction has one matcher for the event and one for the id. -/
theorem matchersFor_interactionCondition (event messageId : String) :
    (interactionCondition event messageId).matchersFor historyEventType = [[.str event]]
      ∧ (interactionCondition event messageId).matchersFor historyMessageId
        = [[.str messageId]] := by
  have hgroup : ∀ key, (interactionCondition event messageId).matchersFor key
      = [matcher "~type" "com.adobe.eventType.messaging",
          matcher "~source" "com.adobe.eventSource.requestContent",
          matcher historyEventType event,
          matcher historyMessageId messageId].filterMap (Json.acceptedValues? key) := fun _ => rfl
  simp only [hgroup, List.filterMap_cons, List.filterMap_nil, acceptedValues?_matcher]
  exact ⟨rfl, rfl⟩

namespace HistoryWrite

theorem of?_empty (event : EdgeEvent) (label : Option String) : of? "" event label = none := rfl

/-- Only of an empty id is nothing recorded. -/
theorem exists_of?_iff (activity : String) (event : EdgeEvent) (label : Option String) :
    (∃ write, of? activity event label = some write) ↔ activity ≠ "" := by
  rw [of?, ne_eq, ← String.isEmpty_iff]
  by_cases hempty : activity.isEmpty = true
  · rw [if_pos hempty]
    exact ⟨fun ⟨_, h⟩ => absurd h nofun, fun h => absurd hempty h⟩
  · rw [if_neg hempty]
    exact ⟨fun _ => hempty, fun _ => ⟨_, rfl⟩⟩

/-- A record has its event and its id under the keys of event history. -/
theorem flattened?_data {activity : String} {event : EdgeEvent} {label : Option String}
    {write : HistoryWrite} (h : of? activity event label = some write) :
    write.data.flattened? historyEventType = some (.str event.name)
      ∧ write.data.flattened? historyMessageId = some (.str activity) := by
  rw [of?] at h
  split at h
  · exact nomatch h
  · cases h
    exact ⟨rfl, rfl⟩

end HistoryWrite

namespace Rule

/-- There are matchers for a key, and all of them accept the value that a record has
    under it. -/
def AcceptsAt (rule : Rule) (record : Json) (key : String) : Prop :=
  rule.condition.matchersFor key ≠ []
    ∧ ∃ value, record.flattened? key = some value
      ∧ ∀ accepted ∈ rule.condition.matchersFor key, value ∈ accepted

/-- The event and the id of a record are what the matchers of a rule accept. -/
def Observes (rule : Rule) (write : HistoryWrite) : Prop :=
  rule.AcceptsAt write.data historyEventType ∧ rule.AcceptsAt write.data historyMessageId

/-- The id that a history rule writes to event history. -/
def recordedId? (rule : Rule) : Option String :=
  (rule.consequence.data?.bind HistoryOperation.ofData?).bind HistoryOperation.messageId

theorem recordedId?_historyRule (condition : Json) (id operation event messageId : String) :
    (historyRule condition id operation event messageId).recordedId? = some messageId := rfl

/-- A single matcher with a single value accepts just that value. -/
theorem acceptsAt_iff {rule : Rule} {record : Json} {key wanted found : String}
    (hmatcher : rule.condition.matchersFor key = [[.str wanted]])
    (hvalue : record.flattened? key = some (.str found)) :
    rule.AcceptsAt record key ↔ found = wanted := by
  unfold AcceptsAt
  rw [hmatcher, hvalue]
  simp only [ne_eq, List.cons_ne_self, not_false_eq_true, Option.some.injEq, List.mem_singleton,
    forall_eq, exists_eq_left', Json.str.injEq, true_and]

/-- A rule for an interaction observes the records of its event and its id. -/
theorem observes_iff {rule : Rule} {name messageId : String}
    (hrule : rule.condition = interactionCondition name messageId) {activity : String}
    {event : EdgeEvent} {label : Option String} {write : HistoryWrite}
    (hwrite : HistoryWrite.of? activity event label = some write) :
    rule.Observes write ↔ event.name = name ∧ activity = messageId := by
  rcases matchersFor_interactionCondition name messageId with ⟨hevent, hid⟩
  rcases HistoryWrite.flattened?_data hwrite with ⟨hrecordEvent, hrecordId⟩
  rw [← hrule] at hevent hid
  unfold Observes
  rw [acceptsAt_iff hevent hrecordEvent, acceptsAt_iff hid hrecordId]

end Rule

/-- Of two rules, one observes the record of a display and the other that of a
    dismissal, both of a given id. Neither observes what the other one does, nor any
    record of another id. -/
structure ObserveLife (display disqualify : Rule) (messageId : String) (label : Option String) :
    Prop where
  displayed : ∃ write, HistoryWrite.of? messageId .display label = some write
    ∧ display.Observes write ∧ ¬disqualify.Observes write
  dismissed : ∃ write, HistoryWrite.of? messageId .dismiss label = some write
    ∧ disqualify.Observes write ∧ ¬display.Observes write
  others : ∀ other, other ≠ messageId → ∀ event write,
    HistoryWrite.of? other event label = some write →
      ¬display.Observes write ∧ ¬disqualify.Observes write

namespace Rule

section Life

variable {display disqualify : Rule} {messageId : String}
  (hdisplay : display.condition = interactionCondition "display" messageId)
  (hdisqualify : disqualify.condition = interactionCondition "dismiss" messageId)
include hdisplay hdisqualify

/-- Of another id the rules observe nothing. -/
theorem not_observes_of_ne {other : String} (hother : other ≠ messageId) {event : EdgeEvent}
    {label : Option String} {write : HistoryWrite}
    (hwrite : HistoryWrite.of? other event label = some write) :
    ¬display.Observes write ∧ ¬disqualify.Observes write := by
  rw [observes_iff hdisplay hwrite, observes_iff hdisqualify hwrite]
  exact ⟨fun h => hother h.2, fun h => hother h.2⟩

/-- The rules for an id observe its life exactly if it is recorded at all. -/
theorem observeLife_iff (label : Option String) :
    ObserveLife display disqualify messageId label ↔ messageId ≠ "" := by
  constructor
  · intro h
    rcases h.displayed with ⟨write, hwrite, _⟩
    exact (HistoryWrite.exists_of?_iff messageId .display label).mp ⟨write, hwrite⟩
  · intro hid
    rcases (HistoryWrite.exists_of?_iff messageId .display label).mpr hid with ⟨shown, hshown⟩
    rcases (HistoryWrite.exists_of?_iff messageId .dismiss label).mpr hid with ⟨gone, hgone⟩
    refine ⟨⟨shown, hshown, ?_, ?_⟩, ⟨gone, hgone, ?_, ?_⟩, fun other hother event write hwrite =>
      not_observes_of_ne hdisplay hdisqualify hother hwrite⟩
    · exact (observes_iff hdisplay hshown).mpr ⟨rfl, rfl⟩
    · exact fun h => absurd ((observes_iff hdisqualify hshown).mp h).1 (by decide)
    · exact (observes_iff hdisqualify hgone).mpr ⟨rfl, rfl⟩
    · exact fun h => absurd ((observes_iff hdisplay hgone).mp h).1 (by decide)

end Life

/-- The three history rules of a card with an id write one and the same id, and the last
    two of them observe what is recorded of it exactly if the card has no activity with
    an empty id. With such an activity they observe no record at all. -/
theorem life_is_observed_unless_activity_is_empty {card : Rule} (hid : card.id ≠ "")
    (activity : Option String) :
    ∃ messageId qualify display disqualify,
      card.historyRules activity = [qualify, display, disqualify]
        ∧ (∀ rule ∈ [qualify, display, disqualify], rule.recordedId? = some messageId)
        ∧ (∀ label, ObserveLife display disqualify messageId label ↔ activity ≠ some "")
        ∧ (activity = some "" → ∀ id event label write,
            HistoryWrite.of? id event label = some write →
              ¬display.Observes write ∧ ¬disqualify.Observes write) := by
  let messageId := activity.getD card.id
  let display := historyRule (interactionCondition "display" messageId) (card.id ++ "#display")
    "insertIfNotExists" "display" messageId
  let disqualify := historyRule (interactionCondition "dismiss" messageId)
    (card.id ++ "#disqualify") "insert" "disqualify" messageId
  have hempty : messageId ≠ "" ↔ activity ≠ some "" := by
    cases activity with
    | none => exact ⟨fun _ => nofun, fun _ => hid⟩
    | some id => exact not_congr ⟨congrArg some, Option.some.inj⟩
  refine ⟨messageId, _, display, disqualify, rfl, ?_, ?_, ?_⟩
  · intro rule hrule
    simp only [List.mem_cons, List.not_mem_nil, or_false] at hrule
    rcases hrule with rfl | rfl | rfl <;> exact recordedId?_historyRule _ _ _ _ _
  · intro label
    rw [observeLife_iff rfl rfl, hempty]
  · intro hactivity id event label write hwrite
    -- What is recorded has an id that is not empty, so it is another one.
    have hother : id ≠ messageId := by
      have hrecorded := (HistoryWrite.exists_of?_iff id event label).mp ⟨write, hwrite⟩
      have hmessage : messageId = "" := by
        subst hactivity
        rfl
      rw [hmessage]
      exact hrecorded
    exact not_observes_of_ne rfl rfl hother hwrite

/-- A rule document with one card. -/
def cardDocument : Json :=
  .obj [
    ("condition", .obj []),
    ("consequences", .arr [.obj [
      ("detail", .obj [
        ("data", .obj [("content", .str "A card."), ("contentType", .str "text/plain")]),
        ("schema", .str ContentSchema.contentCard.uri)]),
      ("id", .str "card")]])]

/-- The rule of that card. -/
def cardRule : Rule :=
  { condition := .obj []
    consequence := {
      id := "card"
      type := schemaType
      detail := .obj [
        ("data", .obj [("content", .str "A card."), ("contentType", .str "text/plain")]),
        ("schema", .str ContentSchema.contentCard.uri)] }
    category := .contentCard }

theorem compile_cardDocument : compile [cardDocument] = [cardRule] := by decide +kernel

/-- The life of a compiled card is observed under its activity and, without one, under
    the id of its rule. -/
theorem compiled_card_is_observed :
    cardRule ∈ compile [cardDocument] ∧ cardRule.category = .contentCard ∧ cardRule.id ≠ ""
      ∧ ∀ activity ∈ [some "activity", none], ∃ messageId qualify display disqualify,
        cardRule.historyRules activity = [qualify, display, disqualify]
          ∧ (∀ rule ∈ [qualify, display, disqualify], rule.recordedId? = some messageId)
          ∧ ∀ label, ObserveLife display disqualify messageId label := by
  have hid : cardRule.id ≠ "" := by decide
  refine ⟨by rw [compile_cardDocument]; exact List.mem_singleton_self _, rfl, hid, ?_⟩
  intro activity hactivity
  obtain ⟨messageId, qualify, display, disqualify, hrules, hrecorded, hlife, _⟩ :=
    life_is_observed_unless_activity_is_empty hid activity
  have hne : activity ≠ some "" := by
    rintro rfl
    exact absurd hactivity (by decide)
  exact ⟨messageId, qualify, display, disqualify, hrules, hrecorded,
    fun label => (hlife label).mpr hne⟩

/-- The history rules of a compiled card whose activity has an empty id write the empty
    id, of which neither a display nor a dismissal is ever recorded. -/
theorem empty_activity_is_never_recorded :
    cardRule ∈ compile [cardDocument] ∧ cardRule.category = .contentCard ∧ cardRule.id ≠ ""
      ∧ (∀ rule ∈ cardRule.historyRules (some ""), rule.recordedId? = some "")
      ∧ ∀ label, HistoryWrite.of? "" .display label = none
        ∧ HistoryWrite.of? "" .dismiss label = none := by
  refine ⟨by rw [compile_cardDocument]; exact List.mem_singleton_self _, rfl, by decide, ?_,
    fun label => ⟨HistoryWrite.of?_empty _ _, HistoryWrite.of?_empty _ _⟩⟩
  intro rule hrule
  simp only [historyRules, List.mem_cons, List.not_mem_nil, or_false] at hrule
  rcases hrule with rfl | rfl | rfl <;> exact recordedId?_historyRule _ _ _ _ _

end Rule

end Decisioning
