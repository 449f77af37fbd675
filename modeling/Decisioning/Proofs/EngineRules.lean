import Decisioning.Proofs.Addressees
import Decisioning.Proofs.Outage
import Decisioning.Proofs.SoundRules

/-!
# Rules That Engines Receive

Why an engine can be given any rule that it is given.

Rules enter a pipeline in one way only. Every call merges the image of a batch into
the retained rules, be the batch one that was answered, one that was read from the
cache, or the empty one, and all rules of an image are sound. So the retained rules
are sound after any calls, whatever the payloads and whatever is in the cache. An
engine that is addressed is given the retained rules of its categories as they are
after the call, and hence no other rules than these.

One part of soundness is missing for consequences of the legacy type. Their data is
not looked at when they are compiled, and need not be that of an in-app message.
`legacy_rule_without_message` is such a rule.

## Main definitions

* `Outbox.ListsAreSound`: All that was ever sent to engines is sound.

## Theorems

* `Retained.areSound_merge`: A merge brings no other rules than those of the batch.
* `Pipeline.eq_retained_of_rulesFor`: What an engine is given is retained.
* `Pipeline.listsAreSound_reached`: What was ever sent is sound, after any calls.
* `Pipeline.engines_receive_sound_rules`: The rules in all calls of engines, the
  history rules of all cards, and the compiler on its own results.
-/

namespace Decisioning

theorem Retained.areSound_merge {r : Retained} (h : r.rules.AreSound) {image : BatchImage}
    (himage : image.rules.AreSound) (requested : SurfaceSet) :
    (r.merge requested image).2.rules.AreSound := by
  intro category s rule hrule
  rw [get_merge] at hrule
  rcases SurfaceStore.mem_get_merge hrule with ⟨rules, hrules, hmem⟩ | hmem
  · rw [← SurfaceStore.get_eq_of_content?_lists hrules] at hmem
    exact himage category s rule hmem
  · exact h category s rule hmem

/-- Every list that an engine was given has sound rules of its categories. -/
def Outbox.ListsAreSound (outbox : Outbox) : Prop :=
  ∀ engine, ∀ rules ∈ outbox.listsFor engine, ∀ r ∈ rules,
    r.IsSound ∧ r.category ∈ engine.categories

namespace Pipeline

variable {σ : Type} (home : Home (StateM σ))

theorem areSound_call {p : Pipeline} (h : p.retained.rules.AreSound) (call : Call) (c : σ) :
    ((p.call home call).run c).1.2.retained.rules.AreSound := by
  rcases p.retained_call home call c with ⟨requested, propositions, hmerge⟩
  rw [hmerge]
  exact Retained.areSound_merge h (BatchImage.areSound_ofBatch propositions requested) requested

/-- After a plan was carried out that keeps the engines up to date, the list for an
    engine is made of the retained rules of its categories. -/
theorem eq_retained_of_rulesFor {p : Pipeline} (hcurrent : p.EnginesCurrent) {outbox : Outbox}
    {plan : DispatchPlan} (hplan : p.outbox = (outbox.dispatch plan).2) {engine : Engine}
    {rules : List Rule} (hrules : plan.rulesFor engine = some rules) :
    rules = engine.categories.flatMap fun category => (p.retained.rules.get category).flatten := by
  cases engine with
  | inApp =>
      -- The list that was given last is the one that the plan has.
      have hlast : p.outbox.inAppRules = rules := by
        rw [hplan, Outbox.inAppRules_dispatch, show plan.inAppRules = some rules from hrules,
          Option.getD_some]
      rw [← hlast, hcurrent.inApp, Engine.categories, List.flatMap_cons, List.flatMap_singleton]
      rfl
  | cards =>
      have hlast : p.outbox.cardRules = rules := by
        rw [hplan, Outbox.cardRules_dispatch, show plan.cardRules = some rules from hrules,
          Option.getD_some]
      rw [← hlast, hcurrent.cards, Engine.categories, List.flatMap_singleton]
      rfl

/-- What a call sends is sound if what it leaves is. -/
theorem listsAreSound_call {p : Pipeline} (hcurrent : p.EnginesCurrent)
    (hsound : p.retained.rules.AreSound) (h : p.outbox.ListsAreSound) (call : Call) (c : σ) :
    ((p.call home call).run c).1.2.outbox.ListsAreSound := by
  rcases p.outbox_call home call c with ⟨plan, hplan⟩
  have hcurrent' := enginesCurrent_call home hcurrent call c
  have hsound' := areSound_call home hsound call c
  intro engine rules hrules r hr
  rw [hplan, (p.outbox.sends_dispatch plan).toEngines, List.mem_append] at hrules
  rcases hrules with hold | hnew
  · exact h engine rules hold r hr
  · -- The list that is new has the rules that are retained now.
    rw [Option.mem_toList] at hnew
    rw [eq_retained_of_rulesFor hcurrent' hplan hnew, List.mem_flatMap] at hr
    rcases hr with ⟨category, hcategory, hflat⟩
    rcases (SurfaceStore.mem_flatten _ r).mp hflat with ⟨s, hs⟩
    have hrule := hsound' category s r hs
    exact ⟨hrule.1, hrule.2 ▸ hcategory⟩

theorem listsAreSound_reached {p : Pipeline} (hcurrent : p.EnginesCurrent)
    (hsound : p.retained.rules.AreSound) (h : p.outbox.ListsAreSound) (c : σ)
    (calls : List Call) : (p.reached home c calls).1.outbox.ListsAreSound := by
  induction calls generalizing p c with
  | nil => exact h
  | cons call rest ih =>
      rw [reached_cons]
      exact ih (enginesCurrent_call home hcurrent call c) (areSound_call home hsound call c)
        (listsAreSound_call home hcurrent hsound h call c) _

theorem listsAreSound_start (appId : String) : (start appId).outbox.ListsAreSound := by
  intro engine rules hrules
  cases engine <;> exact absurd hrules List.not_mem_nil

/-- Every rule that an engine ever receives is sound, so its document compiles to
    the rule itself and to nothing else. This holds of all lists that were sent to
    either engine after any calls, whatever the payloads, and over any cache,
    whatever is in it and however it fails. The in-app engine receives in-app and
    history rules, and the card engine card rules. It holds of the history rules
    of every compiled card, whatever activity the card is known by. And it holds
    of whatever the compiler returns: the documents of these rules compile to the
    same rules in the same order. -/
theorem engines_receive_sound_rules (appId : String) (c : σ) (calls : List Call) :
    (∀ engine, ∀ rules ∈ ((start appId).reached home c calls).1.outbox.listsFor engine,
        ∀ r ∈ rules, Rule.compile [r.document] = [r] ∧ r.IsSound
          ∧ r.category ∈ engine.categories)
      ∧ (∀ documents, ∀ card ∈ Rule.compile documents, ∀ activity,
        ∀ r ∈ card.historyRules activity, Rule.compile [r.document] = [r] ∧ r.IsSound
          ∧ r.category = .eventHistory)
      ∧ ∀ documents, Rule.compile ((Rule.compile documents).map Rule.document)
        = Rule.compile documents := by
  refine ⟨?_, ?_, ?_⟩
  · -- What the engines are given comes back from its documents.
    intro engine rules hrules r hr
    have hlists := listsAreSound_reached home (enginesCurrent_start appId)
      RuleStores.areSound_empty (listsAreSound_start appId) c calls
    have hrule := hlists engine rules hrules r hr
    exact ⟨(Rule.compile_document_iff r).mpr hrule.1, hrule.1, hrule.2⟩
  · -- A compiled card has an object for a condition, and its history rules take it over.
    intro documents card hcard activity r hr
    have hrule : r.IsSound :=
      Rule.isSound_of_mem_historyRules (Rule.isSound_of_mem_compile hcard).condition hr
    exact ⟨(Rule.compile_document_iff r).mpr hrule, hrule, Rule.category_of_mem_historyRules hr⟩
  · exact fun documents =>
      Rule.compile_documents_of_isSound fun r hr => Rule.isSound_of_mem_compile hr

/-- A message of the legacy type and a card arrive. The in-app engine is given the
    message, although there is no data that a message could be made of. -/
theorem legacy_rule_without_message :
    let s : Surface := ⟨"mobileapp://app"⟩
    let home : Home (StateM Unit) := ⟨none, "propositions"⟩
    let outbox := ((start "app").reached home () (messageAndCardArrive s)).1.outbox
    ¬∀ engine, ∀ rules ∈ outbox.listsFor engine, ∀ r ∈ rules,
      ∃ data, r.consequence.data? = some data ∧ r.category.accepts data = true := by
  intro s home outbox h
  let legacy : Rule := {
    condition := .obj []
    consequence := { id := "message", type := legacyInAppType, detail := .obj [] }
    category := .inApp }
  have hsent : ∃ rules ∈ outbox.listsFor .inApp, legacy ∈ rules := by decide +kernel
  rcases hsent with ⟨rules, hrules, hlegacy⟩
  rcases h .inApp rules hrules legacy hlegacy with ⟨data, hdata, _⟩
  exact absurd hdata (by simp only [legacy, Consequence.data?, Json.get?, lookup?, reduceCtorEq,
    not_false_eq_true])

end Pipeline

end Decisioning
