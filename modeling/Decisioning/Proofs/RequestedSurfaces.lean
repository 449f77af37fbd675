import Decisioning.Settings
import Decisioning.Proofs.CardContent
import Decisioning.Proofs.SurfaceGrammar

/-!
# Requested Surfaces

Which surfaces a pipeline ever asks for, and which ones it holds.

What is held was asked for: a store only takes what the batch of a request has for
the surfaces of the request, and forgetting surfaces, valid or not, takes nothing
in. So it is enough to look at the requests. A list of surfaces is cut down to the
valid ones, and an empty list stands for the default surface of the application,
which is taken as it is.

This is where the checks do not fit together. Settings are refused when the
application has a blank name, but a name may have white space in it or around it,
and a surface may not. The surface of such an application is invalid, and an empty
list asks for it all the same. The default surface is the only exception, so that
only valid surfaces are asked for and held exactly if the name of the application
has no white space. `asks_validly_iff` says both.

## Main definitions

* `Operation.isChecked`: All operations except those that open a request for surfaces
  as they are.
* `Pipeline.asked`: What a list of surfaces asks for.
* `Pipeline.KeepsTo`: Only some surfaces are asked for and held.
* `Pipeline.AsksValidly`: Only valid surfaces are, and only a list without any is
  refused.

## Theorems

* `Pipeline.KeepsTo.written`, `KeepsTo.after`, `keepsTo_reached`: Writes, operations
  and runs keep to the surfaces that are asked for.
* `Pipeline.request_eq_none_iff`, `request_of_isValid`: When a request is refused, and
  what is asked for when all of the list is valid.
* `Pipeline.asks_validly_iff`: The surfaces of accepted settings.
-/

namespace Decisioning

/-- Whether an operation leaves it to the pipeline to choose the surfaces of a
    request, if it opens one. -/
def Operation.isChecked : Operation → Bool
  | .register _ _ => false
  | _ => true

namespace Pipeline

/-- The surfaces that a list asks for, before any is left out: an empty list asks for
    the default surface. -/
def asked (p : Pipeline) (surfaces : List Surface) : List Surface :=
  if surfaces.isEmpty then [.forApp p.appId] else surfaces

/-- Every surface that the pipeline asks for, and every one that it holds
    propositions or rules for, is among the allowed ones. -/
structure KeepsTo (p : Pipeline) (allowed : Surface → Prop) : Prop where
  pending : ∀ id request, p.pending.get? id = some request → ∀ s ∈ request.surfaces, allowed s
  store : ∀ kind s, (p.store kind).contains s = true → allowed s
  rules : ∀ category s, (p.retained.rules.get category).contains s = true → allowed s

/-- Only valid surfaces are asked for and held, and a request is refused exactly if
    it asks for no valid surface. -/
structure AsksValidly (p : Pipeline) : Prop where
  keepsTo : p.KeepsTo fun s => s.isValid = true
  refuses : ∀ freshId surfaces,
    p.request freshId surfaces = none ↔ ∀ s ∈ p.asked surfaces, s.isValid = false

theorem KeepsTo.mono {p : Pipeline} {allowed larger : Surface → Prop} (h : p.KeepsTo allowed)
    (himp : ∀ s, allowed s → larger s) : p.KeepsTo larger where
  pending := fun id request hget s hs => himp s (h.pending id request hget s hs)
  store := fun kind s hs => himp s (h.store kind s hs)
  rules := fun category s hs => himp s (h.rules category s hs)

theorem keepsTo_start (appId : String) (allowed : Surface → Prop) :
    (start appId).KeepsTo allowed where
  pending := fun _ _ hget => absurd hget nofun
  store := fun kind _ hs => by cases kind <;> exact absurd hs Bool.false_ne_true
  rules := fun category _ hs => by cases category <;> exact absurd hs Bool.false_ne_true

section Steps

variable {p : Pipeline} {allowed : Surface → Prop}

/-- A write only puts something at the surfaces of its batch. -/
theorem KeepsTo.written (h : p.KeepsTo allowed) {w : Write}
    (hbatch : ∀ batch, w = .complete batch → ∀ s ∈ batch.surfaces, allowed s) :
    (p.written w).KeepsTo allowed where
  pending := h.pending
  store := by
    intro kind s hs
    rw [SurfaceStore.contains_eq_held?, held?_store_written] at hs
    by_cases hcovers : w.surfaces.contains s = true
    · cases w with
      | complete batch => exact hbatch batch rfl s hcovers
      | clear surfaces =>
          -- What is put in place of the old content is nothing.
          rw [if_pos hcovers] at hs
          cases kind <;> exact absurd hs Bool.false_ne_true
    · rw [if_neg hcovers, ← SurfaceStore.contains_eq_held?] at hs
      exact h.store kind s hs
  rules := by
    intro category s hs
    rw [SurfaceStore.contains_eq_held?, held?_rules_written] at hs
    by_cases hcovers : w.surfaces.contains s = true
    · cases w with
      | complete batch => exact hbatch batch rfl s hcovers
      | clear surfaces =>
          rw [if_pos hcovers] at hs
          cases category <;> exact absurd hs Bool.false_ne_true
    · rw [if_neg hcovers, ← SurfaceStore.contains_eq_held?] at hs
      exact h.rules category s hs

/-- A batch that is written has the surfaces of a request that was open. -/
theorem KeepsTo.batch_of_write? (h : p.KeepsTo allowed) {op : Operation} {batch : Batch}
    (hwrite : p.write? op = some (.complete batch)) : ∀ s ∈ batch.surfaces, allowed s := by
  cases op with
  | completion event =>
      dsimp only [write?] at hwrite
      rcases Option.bind_eq_some_iff.mp hwrite with ⟨id, _, hcomplete⟩
      rw [PendingRequests.complete_fst, Option.map_map] at hcomplete
      rcases Option.map_eq_some_iff.mp hcomplete with ⟨request, hopen, hrequest⟩
      injection hrequest with hrequest
      rw [← hrequest]
      exact h.pending id request hopen
  | request freshId surfaces => exact absurd hwrite nofun
  | register id surfaces => exact absurd hwrite nofun
  | fragment event => exact absurd hwrite nofun
  | clear surfaces => exact absurd hwrite nofun

/-- The requests that are open after an operation were open before it, apart from
    what they have received, or were opened by it. -/
theorem KeepsTo.pendingAfter (h : p.KeepsTo allowed)
    (hrequested : ∀ surfaces, ∀ s ∈ p.requestedSurfaces surfaces, allowed s) {op : Operation}
    (hop : op.isChecked = true) {id : String} {request : PendingRequest}
    (hget : (p.pendingAfter op).get? id = some request) : ∀ s ∈ request.surfaces, allowed s := by
  cases op with
  | request freshId surfaces =>
      dsimp only [Pipeline.pendingAfter] at hget
      by_cases hnone : (p.requestedSurfaces surfaces).isEmpty = true
      · rw [if_pos hnone] at hget
        exact h.pending id request hget
      · rw [if_neg hnone, PendingRequests.get?_register] at hget
        by_cases hid : id = freshId
        · -- This is the only case in which surfaces are asked for.
          rw [if_pos hid] at hget
          rw [← Option.some.inj hget]
          exact hrequested surfaces
        · rw [if_neg hid] at hget
          exact h.pending id request hget
  | register id surfaces => exact absurd hop Bool.false_ne_true
  | fragment event =>
      dsimp only [Pipeline.pendingAfter] at hget
      cases hevent : Fragment.ofEvent? event with
      | none =>
          rw [hevent] at hget
          exact h.pending id request hget
      | some fragment =>
          rw [hevent] at hget
          dsimp only at hget
          rw [PendingRequests.get?_append] at hget
          by_cases hid : id = fragment.request
          · -- A fragment adds propositions to a request, and no surfaces.
            rw [if_pos hid] at hget
            rcases Option.map_eq_some_iff.mp hget with ⟨before, hbefore, hreceived⟩
            rw [← hreceived]
            exact h.pending _ before hbefore
          · rw [if_neg hid] at hget
            exact h.pending id request hget
  | completion event =>
      dsimp only [Pipeline.pendingAfter] at hget
      cases hevent : completedRequest? event with
      | none =>
          rw [hevent] at hget
          exact h.pending id request hget
      | some ended =>
          rw [hevent] at hget
          dsimp only at hget
          rw [PendingRequests.get?_complete] at hget
          by_cases hid : id = ended
          · rw [if_pos hid] at hget
            exact absurd hget nofun
          · rw [if_neg hid] at hget
            exact h.pending id request hget
  | clear surfaces => exact h.pending id request hget

theorem KeepsTo.after (h : p.KeepsTo allowed)
    (hrequested : ∀ surfaces, ∀ s ∈ p.requestedSurfaces surfaces, allowed s) {op : Operation}
    (hop : op.isChecked = true) : (p.after op).KeepsTo allowed := by
  have hpending : KeepsTo { p with pending := p.pendingAfter op } allowed := {
    pending := fun _ _ hget => h.pendingAfter hrequested hop hget
    store := fun kind s hs => h.store kind s (by cases kind <;> exact hs)
    rules := h.rules }
  cases hwrite : p.write? op with
  | none =>
      rw [after_of_no_write p hwrite]
      exact hpending
  | some w =>
      rw [after_of_write p hwrite]
      refine hpending.written fun batch hbatch => ?_
      rw [hbatch] at hwrite
      exact h.batch_of_write? hwrite

theorem appId_after (p : Pipeline) (op : Operation) : (p.after op).appId = p.appId := by
  cases hwrite : p.write? op with
  | none => rw [after_of_no_write p hwrite]
  | some w =>
      rw [after_of_write p hwrite]
      rfl

/-- A run keeps to the surfaces that its requests can be about. These are the same all
    the time, because they only depend on the application. -/
theorem keepsTo_reached {σ : Type} (home : Home (StateM σ)) (h : p.KeepsTo allowed)
    (hrequested : ∀ surfaces, ∀ s ∈ p.requestedSurfaces surfaces, allowed s) (c : σ)
    {ops : List Operation} (hops : ∀ op ∈ ops, op.isChecked = true) :
    (p.reached home c (ops.map .operation)).1.KeepsTo allowed
      ∧ (p.reached home c (ops.map .operation)).1.appId = p.appId := by
  induction ops generalizing p c with
  | nil => exact ⟨h, rfl⟩
  | cons op rest ih =>
      have hafter : ((p.call home (.operation op)).run c).1.2 = p.after op :=
        (p.perform_run home op c).1
      have hkept := h.after hrequested (hops op List.mem_cons_self)
      have hsame : (p.after op).requestedSurfaces = p.requestedSurfaces := by
        funext surfaces
        rw [requestedSurfaces, requestedSurfaces, appId_after]
      rw [List.map_cons, reached_cons, hafter, ← appId_after p op]
      exact ih hkept (by rw [hsame]; exact hrequested) _
        fun next hnext => hops next (List.mem_cons_of_mem op hnext)

end Steps

/-- A request is about valid surfaces or about the default one. -/
theorem allowed_of_mem_requestedSurfaces {p : Pipeline} {surfaces : List Surface} {s : Surface}
    (h : s ∈ p.requestedSurfaces surfaces) : s.isValid = true ∨ s = .forApp p.appId := by
  change (p.requestedSurfaces surfaces).contains s = true at h
  rw [requestedSurfaces] at h
  by_cases hempty : surfaces.isEmpty = true
  · rw [if_pos hempty, SurfaceSet.contains_ofList_singleton] at h
    exact Or.inr h
  · rw [if_neg hempty, SurfaceSet.contains_ofList] at h
    exact Or.inl (List.mem_filter.mp h).2

/-- A request is refused exactly if it lists surfaces and none of them is valid. -/
theorem request_eq_none_iff (p : Pipeline) (freshId : String) (surfaces : List Surface) :
    p.request freshId surfaces = none ↔ surfaces ≠ [] ∧ ∀ s ∈ surfaces, s.isValid = false := by
  have hrefused : p.request freshId surfaces = none
      ↔ (p.requestedSurfaces surfaces).isEmpty = true := by
    simp only [request, ite_eq_left_iff, reduceCtorEq, imp_false, not_not]
  rw [hrefused, requestedSurfaces]
  by_cases hempty : surfaces = []
  · rw [hempty, List.isEmpty_nil, if_pos rfl, SurfaceSet.isEmpty_ofList]
    simp only [List.isEmpty_cons, Bool.false_eq_true, ne_eq, not_true_eq_false, false_and]
  · rw [if_neg (mt List.isEmpty_iff.mp hempty), SurfaceSet.isEmpty_ofList, List.isEmpty_iff,
      List.filter_eq_nil_iff]
    simp only [ne_eq, hempty, not_false_eq_true, true_and, Bool.not_eq_true]

theorem request_of_isValid (p : Pipeline) (freshId : String) {surfaces : List Surface}
    (hsome : surfaces ≠ []) (hvalid : ∀ s ∈ surfaces, s.isValid = true) :
    p.request freshId surfaces = some (p.register freshId (.ofList surfaces)) := by
  have hlist : surfaces.isEmpty = false := List.isEmpty_eq_false_iff.mpr hsome
  have hrequested : p.requestedSurfaces surfaces = .ofList surfaces := by
    rw [requestedSurfaces, hlist, if_neg Bool.false_ne_true, List.filter_eq_self.mpr hvalid]
  rw [request, hrequested, SurfaceSet.isEmpty_ofList, hlist]
  rfl

/-- Settings that are accepted name an application. -/
theorem isEmpty_appId {settings : Settings} (h : settings.IsValid) :
    settings.appId.isEmpty = false := by
  cases hempty : settings.appId.isEmpty with
  | false => rfl
  | true =>
      have hblank : isBlankText settings.appId = true := by
        rw [String.isEmpty_iff.mp hempty]
        rfl
      rw [Settings.IsValid, Settings.fault?, if_pos hblank] at h
      exact absurd h (by simp only [reduceCtorEq, not_false_eq_true])

variable {σ : Type} (home : Home (StateM σ))

/-- Which surfaces are asked for and held under accepted settings. In every run without
    loading, in which the pipeline chooses the surfaces of all requests, these are
    valid surfaces and the default surface, and a request is refused exactly if it
    lists surfaces and none of them is valid. So only valid surfaces are asked for and
    held in all runs exactly if the name of the application has no white space. -/
theorem asks_validly_iff {settings : Settings} (hsettings : settings.IsValid) (c : σ) :
    (∀ ops : List Operation, (∀ op ∈ ops, op.isChecked = true) →
        let p := ((start settings.appId).reached home c (ops.map .operation)).1
        p.KeepsTo (fun s => s.isValid = true ∨ s = settings.defaultSurface)
          ∧ ∀ freshId surfaces, p.request freshId surfaces = none
            ↔ surfaces ≠ [] ∧ ∀ s ∈ surfaces, s.isValid = false)
      ∧ ((∀ ops : List Operation, (∀ op ∈ ops, op.isChecked = true) →
          ((start settings.appId).reached home c (ops.map .operation)).1.AsksValidly)
        ↔ ∀ char ∈ settings.appId.toList, isWhiteSpace char = false) := by
  have hallowed : ∀ ops : List Operation, (∀ op ∈ ops, op.isChecked = true) → _ :=
    fun ops hops => keepsTo_reached home (keepsTo_start settings.appId
      (fun s => s.isValid = true ∨ s = settings.defaultSurface))
      (fun _ _ => allowed_of_mem_requestedSurfaces) c hops
  have hdefault : settings.defaultSurface.isValid = true
      ↔ ∀ char ∈ settings.appId.toList, isWhiteSpace char = false := by
    rw [Settings.defaultSurface, Surface.isValid_forApp, isEmpty_appId hsettings]
    simp only [Bool.not_false, Bool.true_and, Bool.not_eq_true', List.any_eq_false,
      Bool.not_eq_true]
  refine ⟨fun ops hops => ⟨(hallowed ops hops).1, request_eq_none_iff _⟩, ?_⟩
  rw [← hdefault]
  constructor
  · -- An empty list asks for the default surface, which is then pending.
    intro hvalid
    have hkeeps := (hvalid [.request "request" []] (by simp only [List.mem_singleton, forall_eq,
      Operation.isChecked])).keepsTo
    exact hkeeps.pending "request"
      { surfaces := .ofList [settings.defaultSurface], propositions := [], fragments := 0 } rfl _
      ((SurfaceSet.contains_ofList_singleton _ _).mpr rfl)
  · -- With a valid default surface there is no exception any more.
    intro hvalid ops hops
    rcases hallowed ops hops with ⟨hkeeps, happ⟩
    constructor
    case keepsTo =>
      refine hkeeps.mono fun s hs => ?_
      rcases hs with hs | hs
      · exact hs
      · rw [hs]
        exact hvalid
    case refuses =>
      intro freshId surfaces
      rw [request_eq_none_iff, asked, happ]
      by_cases hempty : surfaces = []
      · rw [hempty, List.isEmpty_nil, if_pos rfl, List.forall_mem_singleton]
        change _ ↔ settings.defaultSurface.isValid = false
        rw [hvalid]
        simp only [ne_eq, not_true_eq_false, false_and, Bool.true_eq_false]
      · rw [if_neg (mt List.isEmpty_iff.mp hempty), and_iff_right hempty]

/-- The surface of a standard application is valid, so all that is left of these
    requests is, and nothing comes of forgetting a surface that is not. -/
theorem standard_app_asks_validly :
    let invalid : Surface := ⟨"app"⟩
    let ops := [.request "first" [], .request "second" [invalid, ⟨"app://page"⟩],
      .fragment (Fragment.event "first" (.arr [(messageAndCard ⟨"mobileapp://inbound"⟩).toJson])),
      .completion (completionEvent "first"), .clear [invalid]]
    let home : Home (StateM Unit) := ⟨none, "propositions"⟩
    Settings.standard.IsValid
      ∧ ((start Settings.standard.appId).reached home () (ops.map .operation)).1.AsksValidly := by
  intro invalid ops home
  have hsettings : Settings.standard.IsValid := by decide +kernel
  have hname : ∀ char ∈ Settings.standard.appId.toList, isWhiteSpace char = false := by
    have hnone : Settings.standard.appId.toList.any isWhiteSpace = false := by decide +kernel
    simpa only [List.any_eq_false, Bool.not_eq_true] using hnone
  have hops : ∀ op ∈ ops, op.isChecked = true := by
    simp only [ops, List.forall_mem_cons, Operation.isChecked, List.not_mem_nil, false_imp_iff,
      implies_true, and_self]
  exact ⟨hsettings, (asks_validly_iff home hsettings ()).2.mpr hname ops hops⟩

/-- An application with a space in its name. Its settings are accepted, but an empty
    list asks for a surface that is not valid, and what arrives is held there. -/
theorem spaced_app_asks_for_invalid_surface :
    let settings := { Settings.standard with appId := "my app" }
    let s := settings.defaultSurface
    let home : Home (StateM Unit) := ⟨none, settings.cacheKey⟩
    let asking := [.operation (.request "request" [])]
    let answered := asking ++ [
      .operation (.fragment (Fragment.event "request" (.arr [(messageAndCard s).toJson]))),
      .operation (.completion (completionEvent "request"))]
    settings.IsValid ∧ ¬((start settings.appId).reached home () asking).1.AsksValidly
      ∧ ¬((start settings.appId).reached home () answered).1.AsksValidly := by
  intro settings s home asking answered
  have hinvalid : s.isValid = false := by decide +kernel
  refine ⟨by decide +kernel, fun hasking => ?_, fun hanswered => ?_⟩
  · have hvalid : s.isValid = true := hasking.keepsTo.pending "request"
      { surfaces := .ofList [s], propositions := [], fragments := 0 } rfl s
      ((SurfaceSet.contains_ofList_singleton s s).mpr rfl)
    exact absurd hvalid (Bool.eq_false_iff.mp hinvalid)
  · have hvalid : s.isValid = true := hanswered.keepsTo.store .persisted s (by decide +kernel)
    exact absurd hvalid (Bool.eq_false_iff.mp hinvalid)

end Pipeline

end Decisioning
