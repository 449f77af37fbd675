import Mathlib.Data.List.Induction
import Decisioning.Proofs.Request
import Decisioning.Proofs.SortedMap

/-!
# Requests and Their Histories

What is open, told from the steps that led there.

Requests are opened, added to and closed in any order, and any number of them at
once. A step makes something of the request under its own id, `RequestStep.effect`,
and nothing of any other. So the request under an id is what the steps on this id
make of it one after another, and the answers to them are the same as if there
had been no others.

Of the steps on one id only the last registration and what came after it count.
If a completion came after it the request is closed, and otherwise it has what
was added since. This is proved from the end of the history, because it is the
last step that decides whether the one before it still counts.

## Main definitions

* `RequestStep`, `RequestAnswer`: What is done with requests, and what is answered.
* `PendingRequests.after`, `PendingRequests.answers`: The open requests after
  steps, and the answers to them.
* `OpenAfter`: A request was registered and not completed since.
* `LastRegistered`: How a request was registered last, and all steps since.

## Theorems

* `PendingRequests.get?_perform`, `perform_fst`: A step on one request.
* `PendingRequests.get?_after_of_lastRegistered`: What a request has received.
* `PendingRequests.exists_lastRegistered`: Every open request was registered.
* `PendingRequests.answers_filter_id`: Other requests do not show in the answers.
* `PendingRequests.requests_follow_their_histories`: All of it together.
-/

namespace Decisioning

/-- What is done with requests. -/
inductive RequestStep where
  /-- A request is opened. -/
  | register (id : String) (surfaces : SurfaceSet)
  /-- A part of the answer to a request arrives. -/
  | append (id : String) (propositions : List Proposition)
  /-- A request is closed. -/
  | complete (id : String)

/-- The answer to a step. -/
inductive RequestAnswer where
  /-- Whether an open request with the same id was replaced. -/
  | registered (superseded : Bool)
  /-- Whether the request was open. -/
  | appended (accepted : Bool)
  /-- What the request had received, if it was open. -/
  | completed (batch : Option Batch)

namespace RequestStep

/-- The request that a step is about. -/
def id : RequestStep → String
  | .register id _ | .append id _ | .complete id => id

/-- What a step adds to a request. -/
def additions (key : String) : RequestStep → List Proposition
  | .append id propositions => if id = key then propositions else []
  | .register _ _ | .complete _ => []

/-- What a step makes of the request under an id. -/
def effect (key : String) (request : Option PendingRequest) : RequestStep → Option PendingRequest
  | .register id surfaces =>
      if id = key then some { surfaces, propositions := [], fragments := 0 } else request
  | .append id propositions =>
      if id = key then request.map fun r =>
        { r with propositions := r.propositions ++ propositions, fragments := r.fragments + 1 }
      else request
  | .complete id => if id = key then none else request

/-- The answer to a step, by the request that is open under its id. -/
def answer (request : Option PendingRequest) : RequestStep → RequestAnswer
  | .register _ _ => .registered request.isSome
  | .append _ _ => .appended request.isSome
  | .complete id => .completed (request.map fun r =>
      { request := id, surfaces := r.surfaces, propositions := r.propositions })

theorem effect_of_ne {key : String} {step : RequestStep} (h : step.id ≠ key)
    (request : Option PendingRequest) : step.effect key request = request := by
  cases step with
  | register id surfaces => exact if_neg h
  | append id propositions => exact if_neg h
  | complete id => exact if_neg h

theorem additions_of_ne {key : String} {step : RequestStep} (h : step.id ≠ key) :
    step.additions key = [] := by
  cases step with
  | append id propositions => exact if_neg h
  | register id surfaces => rfl
  | complete id => rfl

end RequestStep

/-- In a history of steps, a request was registered and not completed since. -/
def OpenAfter (id : String) (steps : List RequestStep) : Prop :=
  ∃ before surfaces since, steps = before ++ .register id surfaces :: since
    ∧ .complete id ∉ since

/-- In a history of steps, a request was registered for some surfaces, and not
    registered again in the steps since. -/
structure LastRegistered (id : String) (steps : List RequestStep) (surfaces : SurfaceSet)
    (since : List RequestStep) : Prop where
  registered : ∃ before, steps = before ++ .register id surfaces :: since
  last : ∀ others, .register id others ∉ since

/-- A step that neither registers nor completes the request is one more step since
    it was registered. -/
theorem LastRegistered.concat {id : String} {steps since : List RequestStep}
    {surfaces : SurfaceSet} (h : LastRegistered id steps surfaces since) {step : RequestStep}
    (hstep : ∀ others, step ≠ .register id others) :
    LastRegistered id (steps ++ [step]) surfaces (since ++ [step]) where
  registered := by
    rcases h.registered with ⟨before, rfl⟩
    exact ⟨before, by simp only [List.append_assoc, List.cons_append]⟩
  last := by
    intro others hmem
    rcases List.mem_append.mp hmem with hold | hnew
    · exact h.last others hold
    · exact hstep others (List.mem_singleton.mp hnew).symm

namespace PendingRequests

/-- Take a step. -/
def perform (pending : PendingRequests) : RequestStep → RequestAnswer × PendingRequests
  | .register id surfaces =>
      (.registered (pending.register id surfaces).1, (pending.register id surfaces).2)
  | .append id propositions =>
      (.appended (pending.append id propositions).1, (pending.append id propositions).2)
  | .complete id => (.completed (pending.complete id).1, (pending.complete id).2)

/-- The open requests after steps. -/
def after (pending : PendingRequests) (steps : List RequestStep) : PendingRequests :=
  steps.foldl (fun pending step => (pending.perform step).2) pending

/-- The steps with the answers to them. -/
def answers (pending : PendingRequests) :
    List RequestStep → List (RequestStep × RequestAnswer)
  | [] => []
  | step :: rest =>
      (step, (pending.perform step).1) :: answers (pending.perform step).2 rest

variable {pending : PendingRequests}

theorem append_fst (id : String) (propositions : List Proposition) :
    (pending.append id propositions).1 = (pending.get? id).isSome := by
  unfold append
  cases pending.get? id with
  | none => rfl
  | some request => rfl

theorem append_of_none {id : String} (h : pending.get? id = none)
    (propositions : List Proposition) : (pending.append id propositions).2 = pending := by
  unfold append
  rw [h]

theorem get?_perform (step : RequestStep) (key : String) :
    (pending.perform step).2.get? key = step.effect key (pending.get? key) := by
  cases step with
  | register id surfaces =>
      refine (get?_register id key surfaces).trans ?_
      simp only [RequestStep.effect, eq_comm (a := key)]
  | append id propositions =>
      refine (get?_append id key propositions).trans ?_
      by_cases hkey : id = key
      · simp only [RequestStep.effect, hkey, ↓reduceIte]
      · simp only [RequestStep.effect, hkey, Ne.symm hkey, ↓reduceIte]
  | complete id =>
      refine (get?_complete id key).trans ?_
      simp only [RequestStep.effect, eq_comm (a := key)]

/-- The answer to a step only depends on the request that it is about. -/
theorem perform_fst (step : RequestStep) :
    (pending.perform step).1 = step.answer (pending.get? step.id) := by
  cases step with
  | register id surfaces => rfl
  | append id propositions => exact congrArg RequestAnswer.appended (append_fst id propositions)
  | complete id => exact congrArg RequestAnswer.completed (complete_fst id)

theorem get?_after (steps : List RequestStep) (key : String) :
    (pending.after steps).get? key
      = steps.foldl (fun request step => step.effect key request) (pending.get? key) := by
  induction steps generalizing pending with
  | nil => rfl
  | cons step rest ih =>
      rw [List.foldl_cons, ← get?_perform]
      exact ih

theorem after_append (steps later : List RequestStep) :
    pending.after (steps ++ later) = (pending.after steps).after later :=
  List.foldl_append

/-- A request that is neither registered again nor completed collects what is added
    to it. -/
theorem foldl_effect {id : String} {since : List RequestStep}
    (hregister : ∀ others, .register id others ∉ since) (hcomplete : .complete id ∉ since)
    (request : PendingRequest) :
    since.foldl (fun request step => step.effect id request) (some request)
      = some {
          surfaces := request.surfaces
          propositions := request.propositions ++ since.flatMap (RequestStep.additions id)
          fragments := request.fragments + since.countP fun step => step.id = id } := by
  induction since generalizing request with
  | nil => simp only [List.foldl_nil, List.flatMap_nil, List.append_nil, List.countP_nil,
      Nat.add_zero]
  | cons step rest ih =>
      have hrest := ih (fun others hmem => hregister others (List.mem_cons_of_mem _ hmem))
        (fun hmem => hcomplete (List.mem_cons_of_mem _ hmem))
      rw [List.foldl_cons, List.flatMap_cons, List.countP_cons]
      by_cases hid : step.id = id
      · cases step with
        | register key surfaces =>
            exact absurd (hid ▸ List.mem_cons_self) (hregister surfaces)
        | complete key => exact absurd (hid ▸ List.mem_cons_self) hcomplete
        | append key propositions =>
            have heffect : (RequestStep.append key propositions).effect id (some request)
                = some { request with
                    propositions := request.propositions ++ propositions
                    fragments := request.fragments + 1 } := if_pos hid
            have hadds : (RequestStep.append key propositions).additions id = propositions :=
              if_pos hid
            -- What is added now stands in front of what the rest adds.
            rw [heffect, hrest, hadds, if_pos (decide_eq_true hid)]
            simp only [List.append_assoc, Option.some.injEq, PendingRequest.mk.injEq, true_and]
            omega
      · rw [RequestStep.effect_of_ne hid, RequestStep.additions_of_ne hid, hrest,
          if_neg (by simpa only [decide_eq_true_eq] using hid), List.nil_append, Nat.add_zero]

/-- What an open request has received: what was added since it was registered
    last. -/
theorem get?_after_of_lastRegistered {id : String} {steps since : List RequestStep}
    {surfaces : SurfaceSet} (h : LastRegistered id steps surfaces since)
    (hcomplete : .complete id ∉ since) :
    (pending.after steps).get? id
      = some {
          surfaces
          propositions := since.flatMap (RequestStep.additions id)
          fragments := since.countP fun step => step.id = id } := by
  rcases h.registered with ⟨before, rfl⟩
  -- Whatever the steps before have left, the registration starts over.
  have hregister : ∀ request, (RequestStep.register id surfaces).effect id request
      = some { surfaces, propositions := [], fragments := 0 } := fun request => if_pos rfl
  rw [get?_after, List.foldl_append, List.foldl_cons, hregister,
    foldl_effect h.last hcomplete]
  simp only [List.nil_append, Nat.zero_add]

/-- A request that is open was registered, and neither registered again nor
    completed since. -/
theorem exists_lastRegistered {id : String} {steps : List RequestStep}
    (h : ((empty.after steps).get? id).isSome = true) :
    ∃ surfaces since, LastRegistered id steps surfaces since ∧ .complete id ∉ since := by
  -- From the end: the last step either decides, or leaves it to the steps before.
  induction steps using List.reverseRecOn with
  | nil => exact absurd h Bool.false_ne_true
  | append_singleton steps step ih =>
      rw [after_append] at h
      change (((empty.after steps).perform step).2.get? id).isSome = true at h
      rw [get?_perform] at h
      by_cases hregister : ∃ surfaces, step = .register id surfaces
      · rcases hregister with ⟨surfaces, rfl⟩
        exact ⟨surfaces, [], ⟨⟨steps, rfl⟩, fun _ => List.not_mem_nil⟩, List.not_mem_nil⟩
      · have hstep : ∀ others, step ≠ .register id others :=
          fun others heq => hregister ⟨others, heq⟩
        have hcomplete : step ≠ .complete id := by
          rintro rfl
          simp only [RequestStep.effect, ↓reduceIte, Option.isSome_none, Bool.false_eq_true] at h
        -- No other step opens a request, so it was open before.
        have hbefore : ((empty.after steps).get? id).isSome = true := by
          by_cases hid : step.id = id
          · cases step with
            | register key surfaces => exact absurd (hid ▸ rfl) (hstep surfaces)
            | complete key => exact absurd (hid ▸ rfl) hcomplete
            | append key propositions =>
                simpa only [RequestStep.effect, show key = id from hid, ↓reduceIte,
                  Option.isSome_map] using h
          · rwa [RequestStep.effect_of_ne hid] at h
        rcases ih hbefore with ⟨surfaces, since, hlast, hnot⟩
        refine ⟨surfaces, since ++ [step], hlast.concat hstep, fun hmem => ?_⟩
        rcases List.mem_append.mp hmem with hold | hnew
        · exact hnot hold
        · exact hcomplete (List.mem_singleton.mp hnew).symm

/-- Once open, a request stays open until it is completed. -/
theorem isSome_foldl_effect {id : String} {since : List RequestStep}
    (hcomplete : .complete id ∉ since) (request : PendingRequest) :
    (since.foldl (fun request step => step.effect id request) (some request)).isSome = true := by
  induction since generalizing request with
  | nil => rfl
  | cons step rest ih =>
      rw [List.mem_cons, not_or] at hcomplete
      rw [List.foldl_cons]
      -- Only a completion of the request closes it, and there is none.
      cases step with
      | register key surfaces =>
          simp only [RequestStep.effect]
          split
          · exact ih hcomplete.2 _
          · exact ih hcomplete.2 _
      | append key propositions =>
          simp only [RequestStep.effect, Option.map_some]
          split
          · exact ih hcomplete.2 _
          · exact ih hcomplete.2 _
      | complete key =>
          have hkey : (RequestStep.complete key).id ≠ id := fun heq => hcomplete.1 (heq ▸ rfl)
          rw [RequestStep.effect_of_ne hkey]
          exact ih hcomplete.2 _

theorem isSome_get?_after (steps : List RequestStep) (id : String) :
    ((empty.after steps).get? id).isSome = true ↔ OpenAfter id steps := by
  constructor
  · intro h
    rcases exists_lastRegistered h with ⟨surfaces, since, hlast, hcomplete⟩
    rcases hlast.registered with ⟨before, hsteps⟩
    exact ⟨before, surfaces, since, hsteps, hcomplete⟩
  · rintro ⟨before, surfaces, since, rfl, hcomplete⟩
    have hregister : ∀ request, (RequestStep.register id surfaces).effect id request
        = some { surfaces, propositions := [], fragments := 0 } := fun request => if_pos rfl
    rw [get?_after, List.foldl_append, List.foldl_cons, hregister]
    exact isSome_foldl_effect hcomplete _

/-- A completed request hands over its surfaces and what it has received. -/
theorem complete_after_eq_some (steps : List RequestStep) (id : String) (batch : Batch) :
    ((empty.after steps).complete id).1 = some batch
      ↔ ∃ surfaces since, LastRegistered id steps surfaces since ∧ .complete id ∉ since
        ∧ batch = {
            request := id
            surfaces
            propositions := since.flatMap (RequestStep.additions id) } := by
  rw [complete_fst]
  constructor
  · intro h
    rcases Option.map_eq_some_iff.mp h with ⟨request, hrequest, rfl⟩
    rcases exists_lastRegistered (Option.isSome_of_eq_some hrequest) with
      ⟨surfaces, since, hlast, hcomplete⟩
    rw [get?_after_of_lastRegistered hlast hcomplete] at hrequest
    exact ⟨surfaces, since, hlast, hcomplete, by rw [← Option.some.inj hrequest]⟩
  · rintro ⟨surfaces, since, hlast, hcomplete, rfl⟩
    rw [get?_after_of_lastRegistered hlast hcomplete]
    rfl

/-- The answers to steps on a request are the same without the steps on others. -/
theorem answers_filter_id {id : String} {pending alone : PendingRequests}
    (h : pending.get? id = alone.get? id) (steps : List RequestStep) :
    (pending.answers steps).filter (fun e => e.1.id = id)
      = alone.answers (steps.filter fun step => step.id = id) := by
  induction steps generalizing pending alone with
  | nil => rfl
  | cons step rest ih =>
      have heffect : (pending.perform step).2.get? id = _ := get?_perform step id
      by_cases hid : step.id = id
      · -- Both runs take the step, and find the same request.
        have hnext : (pending.perform step).2.get? id = (alone.perform step).2.get? id := by
          rw [heffect, get?_perform, h]
        have hanswer : (pending.perform step).1 = (alone.perform step).1 := by
          rw [perform_fst, perform_fst, hid, h]
        rw [List.filter_cons_of_pos (by exact decide_eq_true hid), answers, answers,
          List.filter_cons_of_pos (by exact decide_eq_true hid), hanswer, ih hnext]
      · -- Only one run takes the step, and does not find it under the id.
        have hnext : (pending.perform step).2.get? id = alone.get? id := by
          rw [heffect, RequestStep.effect_of_ne hid, h]
        rw [List.filter_cons_of_neg (by simpa only [decide_eq_true_eq] using hid), answers,
          List.filter_cons_of_neg (by simpa only [decide_eq_true_eq] using hid), ih hnext]

/-- A step on a request that is not open changes nothing, unless it opens it. -/
theorem perform_of_none {step : RequestStep} (hnone : pending.get? step.id = none)
    (hregister : ∀ surfaces, step ≠ .register step.id surfaces) :
    (pending.perform step).2 = pending := by
  cases step with
  | register id surfaces => exact absurd rfl (hregister surfaces)
  | append id propositions => exact append_of_none hnone propositions
  | complete id =>
      refine complete_of_none ?_
      rw [complete_fst, show pending.get? id = none from hnone, Option.map_none]

theorem count_eq_length_keys : pending.count = pending.requests.keys.length := by
  rw [count, SortedMap.size, SortedMap.keys, List.length_map]

/-- Requests never leak into each other, and nothing of them is lost or doubled.
    After any steps a request is open exactly if it was registered and not
    completed since, which is what registering it again, adding to it and
    completing it answer, and as many requests are counted as open. A completed
    request hands over the surfaces for which it was registered last and all that
    was added to it since, in order. What steps on other requests there were shows
    in no answer to its own, and a step on a request that is not open changes
    nothing, unless it opens it. -/
theorem requests_follow_their_histories (steps : List RequestStep) (id : String) :
    let pending := empty.after steps
    ((pending.complete id).1.isSome = true ↔ OpenAfter id steps)
      ∧ (∀ batch, (pending.complete id).1 = some batch
        ↔ ∃ surfaces since, LastRegistered id steps surfaces since ∧ .complete id ∉ since
          ∧ batch = {
              request := id
              surfaces
              propositions := since.flatMap (RequestStep.additions id) })
      ∧ (∀ propositions, (pending.append id propositions).1 = true ↔ OpenAfter id steps)
      ∧ (∀ surfaces, (pending.register id surfaces).1 = true ↔ OpenAfter id steps)
      ∧ (∃ ids : List String, ids.Nodup ∧ (∀ key, key ∈ ids ↔ OpenAfter key steps)
        ∧ pending.count = ids.length)
      ∧ (empty.answers steps).filter (fun e => e.1.id = id)
        = empty.answers (steps.filter fun step => step.id = id)
      ∧ (¬OpenAfter id steps → ∀ step : RequestStep, step.id = id →
        (∀ surfaces, step ≠ .register id surfaces) → (pending.perform step).2 = pending) := by
  intro pending
  have hopen : ∀ key, (pending.get? key).isSome = true ↔ OpenAfter key steps :=
    isSome_get?_after steps
  refine ⟨?_, complete_after_eq_some steps id, ?_, fun surfaces => hopen id, ?_,
    answers_filter_id rfl steps, ?_⟩
  · -- Completing, adding and registering all answer whether the request was open.
    rw [complete_fst, Option.isSome_map]
    exact hopen id
  · intro propositions
    rw [append_fst]
    exact hopen id
  · -- The ids that are counted are the keys of the map.
    refine ⟨pending.requests.keys, pending.requests.keys_nodup, fun key => ?_,
      count_eq_length_keys⟩
    rw [← pending.requests.contains_iff_mem_keys]
    exact hopen key
  · -- Only registering finds a request that is not open.
    rintro hclosed step rfl hregister
    rw [← hopen, Option.not_isSome_iff_eq_none] at hclosed
    exact perform_of_none hclosed hregister

/-- Two requests with steps in between each other. The first was registered twice
    and hands over what came after the second time; the second was completed and
    does not take in what comes late. -/
theorem interleaved_requests_follow_their_histories :
    let a := Proposition.build "a" "app://a" [] []
    let b := Proposition.build "b" "app://b" [] []
    let home := SurfaceSet.ofList [⟨"app://a"⟩]
    let away := SurfaceSet.ofList [⟨"app://b"⟩]
    let steps : List RequestStep := [.register "one" home, .append "one" [a], .register "two" away,
      .register "one" away, .append "two" [a], .append "one" [b], .complete "two",
      .append "one" [a, b]]
    let pending := empty.after steps
    (pending.complete "one").1
        = some { request := "one", surfaces := away, propositions := [b, a, b] }
      ∧ ¬OpenAfter "two" steps
      ∧ (pending.perform (.append "two" [b])).2 = pending := by
  intro a b home away steps pending
  have hone := requests_follow_their_histories steps "one"
  have htwo := requests_follow_their_histories steps "two"
  have hclosed : ¬OpenAfter "two" steps := by
    rw [← htwo.1]
    decide +kernel
  refine ⟨(hone.2.1 _).mpr ⟨away, [.append "two" [a], .append "one" [b], .complete "two",
    .append "one" [a, b]], ⟨⟨steps.take 3, rfl⟩, ?_⟩, ?_, rfl⟩, hclosed, ?_⟩
  · intro others hmem
    simp only [List.mem_cons, reduceCtorEq, List.not_mem_nil, or_self] at hmem
  · simp only [List.mem_cons, reduceCtorEq, RequestStep.complete.injEq, List.not_mem_nil, or_self,
      String.reduceEq, not_false_eq_true]
  · exact htwo.2.2.2.2.2.2 hclosed (.append "two" [b]) rfl fun surfaces => by
      simp only [ne_eq, reduceCtorEq, not_false_eq_true]

end PendingRequests

end Decisioning
