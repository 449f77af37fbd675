import Mathlib.Data.Set.Card
import Mathlib.Logic.Function.Basic
import Decisioning.Proofs.RequestHistory

/-!
# Requests by Number

The same requests under labels, under numbers and under ids.

Who issues a request calls it by a label of his own, and may use a label again for
another request. The id of a request is drawn when it is opened. In between stands its
number: requests are numbered as they are opened, and a label stands for the newest
request that it was used for. A `Ledger` is what is open, told by numbers.

Seen from the labels, a request that is opened under a label hides the one before it, so
the requests that can still be reached are what they would be if labels were ids, and
the theory of histories applies to them. A hidden request is not closed by that. It
remains open under its number, where nothing reaches it again. Seen from the ids, the
ledger is written down by replacing each number by the id that was drawn for it. This
needs only that no id is drawn twice, so which ids they are does not matter, and there
are as many open ids as there are open numbers.

## Main definitions

* `Ledger`, `Ledger.take`, `Ledger.after`: Requests by number, and what steps make of
  them.
* `Ledger.open?`: The request that a label stands for.
* `Ledger.named`: A step with an id in place of its label.
* `Ledger.IsRecordedBy`: The open requests are those of a ledger.
* `OpenUnder`: The newest request under a label, not completed since.

## Theorems

* `Ledger.open?_take`, `open?_after`: Labels as ids.
* `Ledger.isSome_open?_after`, `open?_after_of_openUnder`: What a label stands for, told
  from the history.
* `Ledger.IsRecordedBy.perform`: Every step keeps to the ledger.
* `Ledger.IsRecordedBy.count`: The number of open requests.
-/

namespace Decisioning

/-- A step opens a request. -/
def RequestStep.isRegistration : RequestStep → Bool
  | .register _ _ => true
  | .append _ _ | .complete _ => false

/-- Only a registration makes something of nothing. -/
theorem RequestStep.effect_none {step : RequestStep} (hstep : step.isRegistration = false)
    (key : String) : step.effect key none = none := by
  cases step with
  | register _ _ => exact absurd hstep nofun
  | append _ _ | complete _ => simp only [effect, Option.map_none, ite_self]

/-- The requests of a history by number. -/
structure Ledger where
  /-- How many requests were opened. -/
  count : Nat
  /-- The number of the newest request under a label. -/
  newest : String → Option Nat
  /-- The request with a number, while it is open. -/
  request : Nat → Option PendingRequest

namespace Ledger

/-- No request. -/
def empty : Ledger := { count := 0, newest := fun _ => none, request := fun _ => none }

/-- The request that a label stands for, while it is open. -/
def open? (ledger : Ledger) (label : String) : Option PendingRequest :=
  (ledger.newest label).bind ledger.request

/-- Take a step on the request that a label stands for. Opening one gives it the next
    number. -/
def take (ledger : Ledger) (step : RequestStep) : Ledger :=
  match step with
  | .register label _ =>
      { count := ledger.count + 1
        newest := Function.update ledger.newest label (some ledger.count)
        request := Function.update ledger.request ledger.count (step.effect label none) }
  | .append label _ | .complete label =>
      match ledger.newest label with
      | none => ledger
      | some number =>
          { ledger with
            request := Function.update ledger.request number
              (step.effect label (ledger.request number)) }

/-- The requests after steps. -/
def after (ledger : Ledger) (steps : List RequestStep) : Ledger := steps.foldl take ledger

/-- Labels stand for requests that were opened, and no two for the same. -/
structure IsNumbered (ledger : Ledger) : Prop where
  lt_count : ∀ {label number}, ledger.newest label = some number → number < ledger.count
  distinct : ∀ {label other number}, ledger.newest label = some number →
    ledger.newest other = some number → label = other

variable {ledger : Ledger}

theorem take_of_newest_eq_none {step : RequestStep} (hstep : step.isRegistration = false)
    (h : ledger.newest step.id = none) : ledger.take step = ledger := by
  cases step with
  | register label surfaces => exact absurd hstep nofun
  | append label _ | complete label =>
      have hnone : ledger.newest label = none := h
      simp only [take, hnone]

theorem take_of_newest_eq_some {step : RequestStep} (hstep : step.isRegistration = false)
    {number : Nat} (h : ledger.newest step.id = some number) :
    ledger.take step = { ledger with
      request := Function.update ledger.request number
        (step.effect step.id (ledger.request number)) } := by
  cases step with
  | register label surfaces => exact absurd hstep nofun
  | append label _ | complete label =>
      have hsome : ledger.newest label = some number := h
      simp only [take, hsome, RequestStep.id]

/-- Only opening a request changes what a label stands for. -/
theorem newest_take {step : RequestStep} (hstep : step.isRegistration = false) :
    (ledger.take step).newest = ledger.newest := by
  cases h : ledger.newest step.id with
  | none => rw [take_of_newest_eq_none hstep h]
  | some number => rw [take_of_newest_eq_some hstep h]

theorem count_take (step : RequestStep) :
    (ledger.take step).count = ledger.count + if step.isRegistration then 1 else 0 := by
  cases hstep : step.isRegistration with
  | true =>
      cases step with
      | register label surfaces => rfl
      | append _ _ | complete _ => exact absurd hstep nofun
  | false =>
      rw [if_neg Bool.false_ne_true, Nat.add_zero]
      cases h : ledger.newest step.id with
      | none => rw [take_of_newest_eq_none hstep h]
      | some number => rw [take_of_newest_eq_some hstep h]

theorem isNumbered_empty : empty.IsNumbered := ⟨nofun, nofun⟩

theorem IsNumbered.take (h : ledger.IsNumbered) (step : RequestStep) :
    (ledger.take step).IsNumbered := by
  cases hstep : step.isRegistration with
  | false =>
      refine ⟨fun hlabel => ?_, fun hlabel hother => ?_⟩
      · rw [newest_take hstep] at hlabel
        rw [count_take, hstep, if_neg Bool.false_ne_true]
        exact h.lt_count hlabel
      · rw [newest_take hstep] at hlabel hother
        exact h.distinct hlabel hother
  | true =>
      cases step with
      | append _ _ | complete _ => exact absurd hstep nofun
      | register label surfaces =>
          -- The new number is larger than those of all other labels.
          have hnewest : ∀ {key number},
              Function.update ledger.newest label (some ledger.count) key = some number →
              key = label ∧ number = ledger.count
                ∨ ledger.newest key = some number ∧ number < ledger.count := by
            intro key number hkey
            by_cases heq : key = label
            · rw [heq, Function.update_self] at hkey
              exact .inl ⟨heq, (Option.some.inj hkey).symm⟩
            · rw [Function.update_of_ne heq] at hkey
              exact .inr ⟨hkey, h.lt_count hkey⟩
          refine ⟨fun {key number} hkey => ?_, fun {key other number} hkey hother => ?_⟩
          · change number < ledger.count + 1
            rcases hnewest hkey with ⟨_, rfl⟩ | ⟨_, hlt⟩ <;> omega
          · rcases hnewest hkey with ⟨rfl, rfl⟩ | ⟨hold, hlt⟩
            · rcases hnewest hother with ⟨rfl, _⟩ | ⟨_, hlt⟩
              · rfl
              · exact absurd hlt (Nat.lt_irrefl _)
            · rcases hnewest hother with ⟨_, rfl⟩ | ⟨hold', _⟩
              · exact absurd hlt (Nat.lt_irrefl _)
              · exact h.distinct hold hold'

/-- A step does with the request that a label stands for what it would do with a request
    that has the label for an id. -/
theorem open?_take (h : ledger.IsNumbered) (step : RequestStep) (label : String) :
    (ledger.take step).open? label = step.effect label (ledger.open? label) := by
  cases hstep : step.isRegistration with
  | true =>
      cases step with
      | append _ _ | complete _ => exact absurd hstep nofun
      | register key surfaces =>
          by_cases hkey : key = label
          · subst hkey
            simp only [take, open?, Function.update_self, Option.bind_some, RequestStep.effect,
              ↓reduceIte]
          · have hid : (RequestStep.register key surfaces).id ≠ label := hkey
            rw [RequestStep.effect_of_ne hid]
            simp only [take, open?, Function.update_of_ne (Ne.symm hkey)]
            cases hlabel : ledger.newest label with
            | none => rfl
            | some number =>
                rw [Option.bind_some, Option.bind_some,
                  Function.update_of_ne (Nat.ne_of_lt (h.lt_count hlabel))]
  | false =>
      by_cases hkey : step.id = label
      · subst hkey
        cases hlabel : ledger.newest step.id with
        | none =>
            rw [take_of_newest_eq_none hstep hlabel, open?, hlabel, Option.bind_none,
              RequestStep.effect_none hstep]
        | some number =>
            rw [take_of_newest_eq_some hstep hlabel]
            simp only [open?, hlabel, Option.bind_some, Function.update_self]
      · rw [RequestStep.effect_of_ne hkey]
        cases hid : ledger.newest step.id with
        | none => rw [take_of_newest_eq_none hstep hid]
        | some changed =>
            rw [take_of_newest_eq_some hstep hid]
            simp only [open?]
            cases hlabel : ledger.newest label with
            | none => rfl
            | some number =>
                -- Another label stands for another request.
                have hne : number ≠ changed := by
                  rintro rfl
                  exact hkey (h.distinct hid hlabel)
                rw [Option.bind_some, Option.bind_some, Function.update_of_ne hne]

theorem IsNumbered.open?_after (h : ledger.IsNumbered) (steps : List RequestStep)
    (label : String) :
    (ledger.after steps).open? label
      = steps.foldl (fun request step => step.effect label request) (ledger.open? label) := by
  induction steps generalizing ledger with
  | nil => rfl
  | cons step rest ih =>
      rw [List.foldl_cons, ← open?_take h step label]
      exact ih (h.take step)

/-- What a label stands for is the request that would have it for an id. -/
theorem open?_after (steps : List RequestStep) (label : String) :
    (empty.after steps).open? label = (PendingRequests.empty.after steps).get? label := by
  rw [isNumbered_empty.open?_after, PendingRequests.get?_after]
  rfl

theorem after_append (steps later : List RequestStep) :
    ledger.after (steps ++ later) = (ledger.after steps).after later :=
  List.foldl_append

theorem count_after (steps : List RequestStep) :
    (ledger.after steps).count = ledger.count + steps.countP RequestStep.isRegistration := by
  induction steps generalizing ledger with
  | nil => rfl
  | cons step rest ih =>
      have hrest : (ledger.after (step :: rest)).count
          = (ledger.take step).count + rest.countP RequestStep.isRegistration := ih
      rw [hrest, count_take, List.countP_cons]
      omega

theorem newest_after {label : String} {steps : List RequestStep}
    (h : ∀ surfaces, .register label surfaces ∉ steps) :
    (ledger.after steps).newest label = ledger.newest label := by
  induction steps generalizing ledger with
  | nil => rfl
  | cons step rest ih =>
      have hrest : (ledger.after (step :: rest)).newest label = (ledger.take step).newest label :=
        ih fun surfaces hmem => h surfaces (List.mem_cons_of_mem _ hmem)
      rw [hrest]
      cases step with
      | register key surfaces =>
          have hkey : label ≠ key := by
            rintro rfl
            exact h surfaces List.mem_cons_self
          exact Function.update_of_ne hkey _ _
      | append _ _ | complete _ => rw [newest_take rfl]

end Ledger

/-- In a history of steps under labels, a request is the newest one under a label, and
    was not completed since. It is told by its number, by its surfaces and by the steps
    since. -/
structure OpenUnder (label : String) (steps : List RequestStep) (number : Nat)
    (surfaces : SurfaceSet) (since : List RequestStep) : Prop where
  registered : ∃ before, steps = before ++ .register label surfaces :: since
    ∧ before.countP RequestStep.isRegistration = number
  newest : ∀ others, .register label others ∉ since
  notCompleted : .complete label ∉ since

namespace Ledger

/-- The newest request under a label, if it was not completed, has what was added under
    the label since it was opened. -/
theorem open?_after_of_openUnder {label : String} {steps since : List RequestStep}
    {number : Nat} {surfaces : SurfaceSet} (h : OpenUnder label steps number surfaces since) :
    (empty.after steps).newest label = some number
      ∧ (empty.after steps).open? label = some {
          surfaces
          propositions := since.flatMap (RequestStep.additions label)
          fragments := since.countP fun step => step.id = label } := by
  rcases h.registered with ⟨before, rfl, rfl⟩
  constructor
  · -- The label keeps the number that it was given when the request was opened.
    have hopened : (empty.after (before ++ .register label surfaces :: since)).newest label
        = ((empty.after before).take (.register label surfaces)).newest label := by
      rw [after_append]
      exact newest_after h.newest
    have hnumber : ((empty.after before).take (.register label surfaces)).newest label
        = some (empty.after before).count := Function.update_self _ _ _
    rw [hopened, hnumber, count_after]
    exact congrArg some (Nat.zero_add _)
  · rw [open?_after]
    exact PendingRequests.get?_after_of_lastRegistered ⟨⟨before, rfl⟩, h.newest⟩ h.notCompleted

/-- A label stands for an open request exactly if the newest request under it was not
    completed. -/
theorem isSome_open?_after {label : String} {steps : List RequestStep} :
    ((empty.after steps).open? label).isSome = true
      ↔ ∃ number surfaces since, OpenUnder label steps number surfaces since := by
  constructor
  · intro h
    rw [open?_after] at h
    rcases PendingRequests.exists_lastRegistered h with ⟨surfaces, since, hlast, hcomplete⟩
    rcases hlast.registered with ⟨before, hsteps⟩
    exact ⟨_, surfaces, since, ⟨before, hsteps, rfl⟩, hlast.last, hcomplete⟩
  · rintro ⟨number, surfaces, since, h⟩
    rw [(open?_after_of_openUnder h).2]
    rfl

section Ids

variable (supply : Nat → String)

/-- The id of the request that a label stands for. A label that was not used for a
    request is an id itself. -/
def idOf (ledger : Ledger) (label : String) : String :=
  ((ledger.newest label).map supply).getD label

/-- A step under a label as a step on the id of the request. Opening a request draws the
    next id for it. -/
def named (ledger : Ledger) : RequestStep → RequestStep
  | .register _ surfaces => .register (supply ledger.count) surfaces
  | .append label propositions => .append (ledger.idOf supply label) propositions
  | .complete label => .complete (ledger.idOf supply label)

/-- The open requests are those of a ledger, each under the id that was drawn for it. -/
structure IsRecordedBy (ledger : Ledger) (pending : PendingRequests) : Prop where
  get?_supply : ∀ number, pending.get? (supply number) = ledger.request number
  get?_other : ∀ id, (∀ number, supply number ≠ id) → pending.get? id = none

variable {supply} {ledger : Ledger} {pending : PendingRequests}

theorem isRecordedBy_empty : empty.IsRecordedBy supply .empty :=
  ⟨fun _ => rfl, fun _ _ => rfl⟩

/-- A label that is no id itself stands for the same request as its id. -/
theorem IsRecordedBy.get?_idOf (h : ledger.IsRecordedBy supply pending) {label : String}
    (hlabel : ∀ number, supply number ≠ label) :
    pending.get? (ledger.idOf supply label) = ledger.open? label := by
  unfold idOf open?
  cases ledger.newest label with
  | none => exact h.get?_other label hlabel
  | some number => exact h.get?_supply number

theorem id_named {step : RequestStep} (hstep : step.isRegistration = false) :
    (ledger.named supply step).id = ledger.idOf supply step.id := by
  cases step with
  | register _ _ => exact absurd hstep nofun
  | append _ _ | complete _ => rfl

theorem named_ne_register {step : RequestStep} (hstep : step.isRegistration = false) {id : String}
    (surfaces : SurfaceSet) : ledger.named supply step ≠ .register id surfaces := by
  cases step with
  | register _ _ => exact absurd hstep nofun
  | append _ _ | complete _ => exact nofun

/-- A step does the same under each name of its request. -/
theorem effect_named {step : RequestStep} (hstep : step.isRegistration = false)
    (request : Option PendingRequest) :
    (ledger.named supply step).effect (ledger.idOf supply step.id) request
      = step.effect step.id request := by
  cases step with
  | register _ _ => exact absurd hstep nofun
  | append _ _ | complete _ => simp only [named, RequestStep.effect, RequestStep.id, ↓reduceIte]

/-- A step under a label does with the open requests what it does with the ledger, as
    long as ids are drawn once and are not used as labels. -/
theorem IsRecordedBy.perform (hdistinct : Function.Injective supply)
    (h : ledger.IsRecordedBy supply pending) (step : RequestStep)
    (hlabel : ∀ number, supply number ≠ step.id) :
    (ledger.take step).IsRecordedBy supply (pending.perform (ledger.named supply step)).2 := by
  cases hstep : step.isRegistration with
  | true =>
      cases step with
      | append _ _ | complete _ => exact absurd hstep nofun
      | register label surfaces =>
          refine ⟨fun number => ?_, fun id hid => ?_⟩
          · rw [PendingRequests.get?_perform, h.get?_supply]
            change (RequestStep.register (supply ledger.count) surfaces).effect _ _
              = Function.update ledger.request ledger.count _ number
            -- The new id was not drawn for any other number.
            by_cases hnumber : number = ledger.count
            · subst hnumber
              rw [Function.update_self]
              simp only [RequestStep.effect, ↓reduceIte]
            · rw [Function.update_of_ne hnumber]
              exact if_neg fun heq => hnumber (hdistinct heq).symm
          · rw [PendingRequests.get?_perform, h.get?_other id hid]
            exact if_neg (hid ledger.count)
  | false =>
      have hid : (ledger.named supply step).id = ledger.idOf supply step.id := id_named hstep
      cases hnewest : ledger.newest step.id with
      | none =>
          -- Nothing is open under the label, so nothing happens.
          have hnone : pending.get? (ledger.named supply step).id = none := by
            rw [hid, h.get?_idOf hlabel, open?, hnewest, Option.bind_none]
          rw [take_of_newest_eq_none hstep hnewest,
            PendingRequests.perform_of_none hnone (named_ne_register hstep)]
          exact h
      | some number =>
          have hsupply : ledger.idOf supply step.id = supply number := by
            rw [idOf, hnewest, Option.map_some, Option.getD_some]
          rw [take_of_newest_eq_some hstep hnewest]
          refine ⟨fun other => ?_, fun id hother => ?_⟩
          · rw [PendingRequests.get?_perform, h.get?_supply]
            dsimp only
            by_cases hsame : other = number
            · rw [hsame, Function.update_self, ← hsupply, effect_named hstep]
            · rw [Function.update_of_ne hsame]
              refine RequestStep.effect_of_ne ?_ _
              rw [hid, hsupply]
              exact fun heq => hsame (hdistinct heq).symm
          · rw [PendingRequests.get?_perform, h.get?_other id hother]
            refine RequestStep.effect_of_ne ?_ _
            rw [hid, hsupply]
            exact hother number

/-- There are as many open ids as there are open numbers. -/
theorem IsRecordedBy.count (hdistinct : Function.Injective supply)
    (h : ledger.IsRecordedBy supply pending) :
    pending.count = {number | (ledger.request number).isSome = true}.ncard := by
  have hkeys : (↑pending.requests.keys.toFinset : Set String)
      = supply '' {number | (ledger.request number).isSome = true} := by
    ext id
    rw [Finset.mem_coe, List.mem_toFinset, ← pending.requests.contains_iff_mem_keys]
    change (pending.get? id).isSome = true ↔ _
    constructor
    · -- An open id was drawn, or it would not be open.
      intro hopen
      by_contra hnone
      have hother := h.get?_other id fun number heq => hnone ⟨number, by
        rw [Set.mem_ofPred_eq, ← h.get?_supply, heq, hopen], heq⟩
      rw [hother] at hopen
      exact absurd hopen nofun
    · rintro ⟨number, hopen, rfl⟩
      rw [h.get?_supply]
      exact hopen
  -- No id was drawn twice, so no two numbers are counted as one.
  rw [PendingRequests.count_eq_length_keys,
    ← List.toFinset_card_of_nodup pending.requests.keys_nodup, ← Set.ncard_coe_finset, hkeys,
    Set.ncard_image_of_injective _ hdistinct]

end Ids

end Ledger

end Decisioning
