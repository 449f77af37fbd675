import Decisioning.Proofs.CardHistory
import Decisioning.Proofs.Engines
import Decisioning.Proofs.LastWriter
import Decisioning.Proofs.Restart

/-!
# Card Rules and Cards

When the card rules at a surface are those of the cards that are shown there.

A batch brings both at once. A proposition with a card rule is a card, so the
card rules of the batch at a surface can be compiled from its cards there. They
are replaced together, and agree at every surface that was written since the
start.

Loading is different. It rebuilds the rules of all categories, but only from the
persisted propositions and without the cards. A proposition with in-app and card
rules brings its card rules back while the cards stay empty, and the card engine
runs them until the surface is written again. This is the only way in which rules
and cards can differ, and it does not matter what is in the cache or whether it
fails: without an answer from it there is nothing to restore.

## Main definitions

* `Pipeline.CardsAgreeAt`: The card rules at a surface are those of its cards.
* `Pipeline.restoredAt`: What a surface takes back when the store is loaded.

## Theorems

* `Write.get_contentCard_image`: A write brings rules and cards that agree.
* `Pipeline.cardsAgreeAt_reached`: Rules and cards after operations.
* `Pipeline.card_rules_agree_unless_restored`: When they differ after a start.
* `Pipeline.restart_card_rules_agree_iff`: The same for a restart, by what was
  persisted before.
* `Pipeline.restored_card_rules_have_no_cards`: A restart after which they differ.
-/

namespace Decisioning

theorem Proposition.hasCardRule_eq_false_iff (p : Proposition) :
    p.hasCardRule = false ↔ rulesIn .contentCard p.compiledRules = [] := by
  rw [hasCardRule, List.any_eq_false, rulesIn, List.filter_eq_nil_iff]

/-- A proposition that is not a card has no card rule. A card may have none either,
    as there are cards without rulesets. -/
theorem Placement.rulesIn_contentCard_of_not_card {p : Proposition}
    (h : (ofProposition p).card = false) : rulesIn .contentCard p.compiledRules = [] := by
  rw [← p.hasCardRule_eq_false_iff, p.hasCardRule_eq, List.any_eq_false]
  rw [card_ofProposition, List.any_eq_false] at h
  -- An item that brings a card rule would have made it a card.
  intro item hitem hbrings
  exact h item hitem (by rw [hbrings, Bool.or_true])

theorem compiledIn_contentCard_eq_nil_iff (ps : List Proposition) :
    compiledIn .contentCard ps = [] ↔ ∀ p ∈ ps, p.hasCardRule = false := by
  rw [compiledIn, List.flatMap_eq_nil_iff]
  exact forall₂_congr fun p _ => p.hasCardRule_eq_false_iff.symm

/-- The card rules that a write brings to a surface are those of the cards that it
    brings there. -/
theorem Write.get_contentCard_image (w : Write) (s : Surface) :
    w.image.rules.contentCard.get s = compiledIn .contentCard (w.image.cards.get s) := by
  cases w with
  | clear surfaces => rfl
  | complete batch =>
      change ((BatchImage.ofBatch batch.propositions batch.surfaces).rules.get .contentCard).get s
        = compiledIn .contentCard
          (((BatchImage.ofBatch batch.propositions batch.surfaces).store .cards).get s)
      rw [BatchImage.get_compiled_ofBatch (by decide), BatchImage.get_store_ofBatch]
      by_cases hs : batch.surfaces.contains s = true
      · -- The cards leave out propositions, but none of those has a card rule.
        rw [if_pos hs, if_pos hs]
        exact (compiledIn_filter (fun _ => Placement.rulesIn_contentCard_of_not_card) _).symm
      · rw [if_neg hs, if_neg hs]
        rfl

namespace Pipeline

variable {σ : Type} (home : Home (StateM σ))

/-- The card rules at a surface are those that its cards compile to. -/
def CardsAgreeAt (p : Pipeline) (s : Surface) : Prop :=
  p.retained.rules.contentCard.get s = compiledIn .contentCard (p.contentCards s)

instance (p : Pipeline) (s : Surface) : Decidable (p.CardsAgreeAt s) :=
  inferInstanceAs (Decidable (p.retained.rules.contentCard.get s = _))

/-- The propositions that a surface takes back when the persisted store is loaded. -/
def restoredAt (p : Pipeline) (s : Surface) : List Proposition :=
  if p.persisted.contains s then rankedAt s p.persisted.flatten else []

theorem cardsAgreeAt_of_heldAt {p : Pipeline} {w : Write} {s : Surface}
    (h : p.heldAt s = w.image.heldAt s) : p.CardsAgreeAt s := by
  have hrules : p.retained.rules.contentCard.get s = w.image.rules.contentCard.get s :=
    congrArg (fun held => (held.rules .contentCard).getD []) h
  have hcards : p.cards.get s = w.image.cards.get s :=
    congrArg (fun held => (held.propositions .cards).getD []) h
  rw [CardsAgreeAt, contentCards, hrules, hcards]
  exact w.get_contentCard_image s

/-- After operations on a pipeline that has the rules of some propositions at a
    surface but no cards, rules and cards agree if the surface was written, or if
    there were no card rules in the first place. -/
theorem cardsAgreeAt_reached {q : Pipeline} {s : Surface} {ps : List Proposition}
    (hcards : q.contentCards s = [])
    (hrules : q.retained.rules.contentCard.get s = compiledIn .contentCard ps) (c : σ)
    (ops : List Operation) :
    let p := (q.reached home c (ops.map .operation)).1
    let written := ∃ w ∈ q.writes home c ops, s ∈ w.surfaces
    (p.CardsAgreeAt s ↔ written ∨ ∀ r ∈ ps, r.hasCardRule = false)
      ∧ (written ∨ p.contentCards s = []
        ∧ p.retained.rules.contentCard.get s = compiledIn .contentCard ps) := by
  intro p written
  have hheld : p.heldAt s = _ := heldAt_reached home q c ops s
  cases hlast : lastWrite? s (q.writes home c ops) with
  | some w =>
      have hwritten : written := ⟨w, mem_of_lastWrite? hlast, covers_of_lastWrite? hlast⟩
      -- The surface has what the last write brought, and that agrees.
      rw [hlast] at hheld
      exact ⟨iff_of_true (cardsAgreeAt_of_heldAt hheld) (Or.inl hwritten), Or.inl hwritten⟩
  | none =>
      have hnot : ¬written := (lastWrite?_eq_none_iff s _).mp hlast
      rw [hlast] at hheld
      -- Nothing has reached the surface, so it is as it was.
      have hrulesNow : p.retained.rules.contentCard.get s = compiledIn .contentCard ps :=
        (congrArg (fun held => (held.rules .contentCard).getD []) hheld).trans hrules
      have hcardsNow : p.contentCards s = [] :=
        (congrArg (fun held => (held.propositions .cards).getD []) hheld).trans hcards
      refine ⟨?_, Or.inr ⟨hcardsNow, hrulesNow⟩⟩
      -- No card compiles to no rule, so there must not be any.
      rw [or_iff_right hnot, ← compiledIn_contentCard_eq_nil_iff, CardsAgreeAt, hcardsNow,
        hrulesNow]
      exact Iff.rfl

/-- Loading brings back card rules, but no cards. -/
theorem contentCard_load (appId : String) (c : σ) (s : Surface) :
    let loaded := ((start appId).reached home c [.load]).1
    loaded.contentCards s = []
      ∧ loaded.retained.rules.contentCard.get s
        = compiledIn .contentCard (loaded.restoredAt s) := by
  intro loaded
  have hload : loaded = _ := ((start appId).load_run home c).1
  rw [hload]
  cases (home.stored?.run c).1 with
  | none => exact ⟨rfl, rfl⟩
  | some store =>
      -- The rules are those of the loaded batch, and there were none before.
      refine ⟨rfl, ?_⟩
      change ((((start appId).restoredFrom store).retained.rules.get .contentCard).get s)
        = compiledIn .contentCard (if store.contains s then rankedAt s store.flatten else [])
      rw [get_compiled_restoredFrom _ (by decide)]
      by_cases hs : store.contains s = true
      · rw [if_pos hs, if_pos hs]
      · rw [if_neg hs, if_neg hs]
        rfl

/-- Card rules and cards agree after a start, except for what was restored without
    its cards. Whatever the cache has and however it fails, the card rules at a
    surface are those of its cards exactly if the surface was written since the
    store was loaded, or if no proposition that was restored there has a card
    rule. Otherwise the surface has no card, and the card engine runs the card
    rules of what was restored. -/
theorem card_rules_agree_unless_restored (appId : String) (c : σ) (ops : List Operation)
    (s : Surface) :
    let loaded := (start appId).reached home c [.load]
    let p := ((start appId).reached home c (.load :: ops.map .operation)).1
    let written := ∃ w ∈ loaded.1.writes home loaded.2 ops, s ∈ w.surfaces
    (p.CardsAgreeAt s ↔ written ∨ ∀ r ∈ loaded.1.restoredAt s, r.hasCardRule = false)
      ∧ (written ∨ p.contentCards s = []
        ∧ p.retained.rules.contentCard.get s
          = compiledIn .contentCard (loaded.1.restoredAt s))
      ∧ p.outbox.cardRules = p.retained.rules.contentCard.flatten := by
  intro loaded p written
  have hload := contentCard_load home appId c s
  have hreached := cardsAgreeAt_reached home hload.1 hload.2 loaded.2 ops
  have hcurrent : p.EnginesCurrent :=
    enginesCurrent_reached home (enginesCurrent_start appId) c _
  exact ⟨hreached.1, hreached.2, hcurrent.cards⟩

/-- Loading what a coherent pipeline had persisted gives each surface what it had. -/
theorem Coherent.restoredAt_eq {p : Pipeline} (h : p.Coherent) (s : Surface) :
    p.restoredAt s = p.persisted.get s := by
  rw [restoredAt, h.rankedAt_flatten]
  by_cases hs : p.persisted.contains s = true
  · rw [if_pos hs]
  · rw [if_neg hs, p.persisted.get_eq_nil_of_not_contains s (Bool.not_eq_true _ ▸ hs)]

/-- Card rules and cards agree after a restart at the surfaces that were written
    since, and at those where no proposition with a card rule was persisted before.
    The cards that were shown there before do not matter. -/
theorem restart_card_rules_agree_iff {cache : Cache (StateM σ)} {key : String}
    {held : σ → Option CacheEntry} (hcache : cache.KeepsEntry key held) {empty : σ}
    (hempty : held empty = none) (appId : String) (life : List LifeEvent)
    (ops : List Operation) (s : Surface) :
    let home : Home (StateM σ) := ⟨some cache, key⟩
    let old := (live home appId (start appId) life).run empty
    let new := (restart home appId).run old.2
    (new.1.reached home new.2 (ops.map .operation)).1.CardsAgreeAt s
      ↔ (∃ w ∈ new.1.writes home new.2 ops, s ∈ w.surfaces)
        ∨ ∀ r ∈ old.1.persisted.get s, r.hasCardRule = false := by
  intro home old new
  have hsaved : old.1.Saved held appId old.2 :=
    hcache.saved_live ⟨coherent_start appId, hempty, rfl⟩ life
  have hnew : new.1 = (start appId).restoredFrom old.1.persisted :=
    (hcache.restart_run hsaved.coherent hsaved.entry appId).1
  -- The store came back as it was, so the surface takes back what it had.
  have hrestored : new.1.restoredAt s = old.1.persisted.get s := by
    rw [hnew]
    exact hsaved.coherent.restoredAt_eq s
  have hload := contentCard_load home appId old.2 s
  rw [← hrestored]
  exact (cardsAgreeAt_reached home hload.1 hload.2 new.2 ops).1

/-- A proposition with an in-app message and a content card in one ruleset. -/
def messageAndCard (s : Surface) : Proposition :=
  let rule := fun (consequence : Json) =>
    Json.obj [("condition", .obj []), ("consequences", .arr [consequence])]
  let message := rule (.obj [("detail", .obj []), ("id", .str "message"),
    ("type", .str legacyInAppType)])
  let card := rule (.obj [
    ("detail", .obj [
      ("data", .obj [("content", .str "A card."), ("contentType", .str "text/plain")]),
      ("schema", .str ContentSchema.contentCard.uri)]),
    ("id", .str "card")])
  Proposition.build "proposition" s.uri []
    [.unowned "ruleset" .ruleset (.obj [("rules", .arr [message, card])])]

/-- A message and a card are shown, and agree with their rules. After a restart the
    card engine still has the rule of the card, but there is no card. -/
theorem restored_card_rules_have_no_cards :
    let s : Surface := ⟨"mobileapp://app"⟩
    let home : Home (StateM MemoryCache) := ⟨some MemoryCache.cache, "propositions"⟩
    let calls : List Call := [.operation (.register "request" (.ofList [s])),
      .operation (.fragment (Fragment.event "request" (.arr [(messageAndCard s).toJson]))),
      .operation (.completion (completionEvent "request"))]
    let old := (start "app").reached home .empty calls
    let new := ((start "app").reached home old.2 [.load]).1
    old.1.CardsAgreeAt s ∧ (old.1.contentCards s).length = 1
      ∧ ¬new.CardsAgreeAt s ∧ new.contentCards s = [] ∧ new.outbox.cardRules.length = 1 := by
  decide +kernel

end Pipeline

end Decisioning
