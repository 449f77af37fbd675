import Mathlib.Data.List.Nodup
import Decisioning.Batch.Image
import Decisioning.Proofs.SurfaceStore

/-!
# Rank Order

Sorting a batch by rank, seen from one surface.

A batch is sorted as a whole, over all surfaces at once, but each surface only
keeps its own propositions. That the order at one surface does not depend on
the others needs the sort to be stable: what is left of the sorted batch at a
surface is sorted too, and equal ranks stand in arrival order in both. A list
is determined by these two facts, which is `eq_of_sorted_of_filter_key`, so
`filter_sortByKey` lets a filter pass through the sort.

## Main definitions

* `sortByKey`: The stable sort by an integer.
* `rankedAt`: The propositions of a list for one surface, in rank order.

## Theorems

* `eq_of_sorted_of_filter_key`: Sorted lists that agree key by key are equal.
* `filter_key_sortByKey`: Sorting keeps the values of one key in order.
* `filter_sortByKey`: Filtering a sorted list is sorting a filtered one.
* `sortByKey_eq_of_perm`: With distinct keys, the order before the sort is lost.
* `inScope_filter_surface`: What counts at one surface.
-/

namespace Decisioning

universe u

section Stable

variable {α : Type u} (key : α → Int)

/-- Sorted lists that have the same values of each key, in the same order, are
    equal. -/
theorem eq_of_sorted_of_filter_key : ∀ (xs ys : List α),
    xs.Pairwise (fun a b => key a ≤ key b) → ys.Pairwise (fun a b => key a ≤ key b) →
    (∀ n, xs.filter (fun a => key a = n) = ys.filter (fun a => key a = n)) → xs = ys := by
  intro xs
  induction xs with
  | nil =>
      intro ys _ _ h
      cases ys with
      | nil => rfl
      | cons y ys =>
          have hy := h (key y)
          rw [List.filter_nil, List.filter_cons_of_pos (by exact decide_eq_true rfl)] at hy
          exact absurd hy (List.cons_ne_nil _ _).symm
  | cons x xs ih =>
      intro ys hxs hys h
      cases ys with
      | nil =>
          have hx := h (key x)
          rw [List.filter_nil, List.filter_cons_of_pos (by exact decide_eq_true rfl)] at hx
          exact absurd hx (List.cons_ne_nil _ _)
      | cons y ys =>
          rw [List.pairwise_cons] at hxs hys
          -- Each head occurs on the other side, where the other head is least.
          have hyx : key y ≤ key x := by
            have hmem : x ∈ (y :: ys).filter (fun a => key a = key x) := by
              rw [← h (key x), List.mem_filter]
              exact ⟨List.mem_cons_self, decide_eq_true rfl⟩
            rcases List.mem_cons.mp (List.mem_filter.mp hmem).1 with heq | hin
            · exact heq ▸ Int.le_refl _
            · exact hys.1 x hin
          have hxy : key x ≤ key y := by
            have hmem : y ∈ (x :: xs).filter (fun a => key a = key y) := by
              rw [h (key y), List.mem_filter]
              exact ⟨List.mem_cons_self, decide_eq_true rfl⟩
            rcases List.mem_cons.mp (List.mem_filter.mp hmem).1 with heq | hin
            · exact heq ▸ Int.le_refl _
            · exact hxs.1 y hin
          have hkey : key y = key x := Int.le_antisymm hyx hxy
          have hhead := h (key x)
          rw [List.filter_cons_of_pos (by exact decide_eq_true rfl),
            List.filter_cons_of_pos (by exact decide_eq_true hkey), List.cons.injEq] at hhead
          have hxy : x = y := hhead.1
          subst hxy
          rw [ih ys hxs.2 hys.2]
          intro n
          by_cases hn : key x = n
          · exact hn ▸ hhead.2
          · have htail := h n
            rw [List.filter_cons_of_neg (by simpa only [decide_eq_true_eq] using hn),
              List.filter_cons_of_neg (by simpa only [decide_eq_true_eq] using hn)] at htail
            exact htail

/-- The values in the order of their keys, equal keys as they came. -/
def sortByKey (xs : List α) : List α := xs.mergeSort fun a b => decide (key a ≤ key b)

theorem keyLe_trans : ∀ a b c : α, decide (key a ≤ key b) = true →
    decide (key b ≤ key c) = true → decide (key a ≤ key c) = true := by
  intro a b c hab hbc
  rw [decide_eq_true_eq] at hab hbc ⊢
  omega

theorem keyLe_total : ∀ a b : α, (decide (key a ≤ key b) || decide (key b ≤ key a)) = true := by
  intro a b
  rw [Bool.or_eq_true, decide_eq_true_eq, decide_eq_true_eq]
  omega

theorem sortByKey_sorted (xs : List α) :
    (sortByKey key xs).Pairwise fun a b => key a ≤ key b :=
  (List.pairwise_mergeSort (keyLe_trans key) (keyLe_total key) xs).imp of_decide_eq_true

theorem sortByKey_of_sorted {xs : List α} (h : xs.Pairwise fun a b => key a ≤ key b) :
    sortByKey key xs = xs :=
  List.mergeSort_of_pairwise (h.imp fun hab => decide_eq_true hab)

/-- Sorting keeps the values of one key in the order in which they came. -/
theorem filter_key_sortByKey (xs : List α) (n : Int) :
    (sortByKey key xs).filter (fun a => key a = n) = xs.filter fun a => key a = n := by
  have hequal : (xs.filter fun a => key a = n).Pairwise
      fun a b => decide (key a ≤ key b) = true := by
    refine List.pairwise_of_forall_mem_list ?_
    intro a ha b hb
    rw [List.mem_filter, decide_eq_true_eq] at ha hb
    exact decide_eq_true (by omega)
  -- They form a sublist of the sorted list, which has no more of them.
  have hsub : (xs.filter fun a => key a = n).Sublist (sortByKey key xs) :=
    List.sublist_mergeSort (keyLe_trans key) (keyLe_total key) hequal List.filter_sublist
  have hfilter := hsub.filter fun a => decide (key a = n)
  rw [List.filter_filter] at hfilter
  simp only [Bool.and_self] at hfilter
  exact (hfilter.eq_of_length (((List.mergeSort_perm xs _).filter _).length_eq).symm).symm

/-- Filtering a sorted list is sorting a filtered one. -/
theorem filter_sortByKey (keep : α → Bool) (xs : List α) :
    (sortByKey key xs).filter keep = sortByKey key (xs.filter keep) := by
  refine eq_of_sorted_of_filter_key key _ _ ((sortByKey_sorted key xs).filter keep)
    (sortByKey_sorted key _) ?_
  intro n
  rw [filter_key_sortByKey, List.filter_filter, List.filter_filter]
  simp only [Bool.and_comm (decide _)]
  rw [← List.filter_filter, ← List.filter_filter, filter_key_sortByKey]

/-- With distinct keys, sorting forgets the order in which the values came. -/
theorem sortByKey_eq_of_perm {xs ys : List α} (hperm : xs.Perm ys)
    (hdistinct : (xs.map key).Nodup) : sortByKey key xs = sortByKey key ys := by
  have hxs : (sortByKey key xs).Perm xs := List.mergeSort_perm xs _
  have hys : (sortByKey key ys).Perm ys := List.mergeSort_perm ys _
  refine List.Perm.eq_of_pairwise ?_ (sortByKey_sorted key xs) (sortByKey_sorted key ys)
    (hxs.trans (hperm.trans hys.symm))
  intro a b ha hb hab hba
  exact List.inj_on_of_nodup_map hdistinct (hxs.mem_iff.mp ha)
    (hperm.mem_iff.mpr (hys.mem_iff.mp hb)) (Int.le_antisymm hab hba)

end Stable

/-- The propositions for one surface, in rank order; equal ranks as they came. -/
def rankedAt (s : Surface) (propositions : List Proposition) : List Proposition :=
  sortByKey Proposition.rank (propositions.filter fun p => p.surface = s)

theorem mem_rankedAt {s : Surface} {propositions : List Proposition} {p : Proposition} :
    p ∈ rankedAt s propositions ↔ p ∈ propositions ∧ p.surface = s := by
  rw [rankedAt, sortByKey, List.mem_mergeSort, List.mem_filter, decide_eq_true_eq]

/-- Propositions of distinct ranks stand in rank order at their surface, in whatever
    order they came. -/
theorem rankedAt_eq_of_perm {s : Surface} {ps qs : List Proposition} (hperm : ps.Perm qs)
    (hranks : ((ps.filter fun p => p.surface = s).map Proposition.rank).Nodup) :
    rankedAt s ps = rankedAt s qs :=
  sortByKey_eq_of_perm Proposition.rank (hperm.filter _) hranks

/-- Of a batch, a requested surface sees its own propositions in rank order, and
    any other surface sees nothing. -/
theorem inScope_filter_surface (propositions : List Proposition) (requested : SurfaceSet)
    (s : Surface) :
    (inScope propositions requested).filter (fun p => p.surface = s)
      = if requested.contains s then rankedAt s propositions else [] := by
  change (sortByKey Proposition.rank _).filter _ = _
  rw [filter_sortByKey, List.filter_filter, rankedAt]
  by_cases hs : requested.contains s = true
  · -- At one surface, being requested is the same for all propositions.
    rw [if_pos hs]
    congr 1
    refine List.filter_congr fun p _ => ?_
    by_cases hp : p.surface = s
    · rw [hp, hs, Bool.and_true]
    · simp only [hp, decide_false, Bool.false_and]
  · rw [if_neg hs]
    have hnone : ∀ p ∈ propositions,
        ¬(decide (p.surface = s) && requested.contains p.surface) = true := by
      intro p _ hp
      rw [Bool.and_eq_true, decide_eq_true_eq] at hp
      exact hs (hp.1 ▸ hp.2)
    rw [List.filter_eq_nil_iff.mpr hnone, sortByKey, List.mergeSort_nil]

end Decisioning
