/-!
# Maps Sorted by Key

Finite maps from strings, kept as lists of entries with strictly increasing
keys.

Everything this library writes out is in key order, and everything it
concatenates over surfaces is concatenated in key order, so the order belongs
to the type. Strings compare by code point, which is also the order of their
UTF-8 bytes.

Strictly increasing keys make the representation canonical: two maps with the
same look-ups are the same list. `SortedMap.ext_get?` is that fact, and it is
what lets later statements about stores be plain equations.

## Main definitions

* `insertEntry`, `eraseEntry`: The operations on bare entry lists.
* `IsSorted`: Strictly increasing keys.
* `SortedMap`: An entry list together with the proof that it is sorted.

## Theorems

* `SortedMap.get?_insert`: Looking up after an insertion.
* `SortedMap.get?_erase`: Looking up after a removal.
* `SortedMap.ext_get?`: Maps with the same look-ups are equal.
-/

namespace Decisioning

universe u v

/-- The value of the first entry with the given key. -/
def lookup? {α : Type u} (key : String) : List (String × α) → Option α
  | [] => none
  | (k, a) :: rest => if key = k then some a else lookup? key rest

/-- Put an entry in its place, replacing the entry with the same key. -/
def insertEntry {α : Type u} (key : String) (value : α) :
    List (String × α) → List (String × α)
  | [] => [(key, value)]
  | (k, a) :: rest =>
      if key < k then (key, value) :: (k, a) :: rest
      else if key = k then (key, value) :: rest
      else (k, a) :: insertEntry key value rest

/-- Leave out the entries with the given key. -/
def eraseEntry {α : Type u} (key : String) (entries : List (String × α)) :
    List (String × α) :=
  entries.filter fun e => e.1 ≠ key

/-- The entries of a list in key order, the last one of each key. -/
def sortEntries {α : Type u} (entries : List (String × α)) : List (String × α) :=
  entries.foldl (fun sorted e => insertEntry e.1 e.2 sorted) []

/-- Strictly increasing keys, so in particular no key twice. -/
def IsSorted {α : Type u} (entries : List (String × α)) : Prop :=
  entries.Pairwise fun a b => a.1 < b.1

instance {α : Type u} (entries : List (String × α)) : Decidable (IsSorted entries) :=
  inferInstanceAs (Decidable (entries.Pairwise fun a b => a.1 < b.1))

theorem lt_of_not_lt_of_ne {a b : String} (h : ¬a < b) (hne : a ≠ b) : b < a := by
  rcases Decidable.em (b < a) with hba | hba
  · exact hba
  · exact absurd (String.le_antisymm (String.not_lt.mp hba) (String.not_lt.mp h)) hne

section Entries

variable {α : Type u}

theorem isSorted_nil : IsSorted ([] : List (String × α)) :=
  List.Pairwise.nil

theorem IsSorted.tail {e : String × α} {rest : List (String × α)}
    (h : IsSorted (e :: rest)) : IsSorted rest :=
  (List.pairwise_cons.mp h).2

theorem IsSorted.head_lt {e : String × α} {rest : List (String × α)}
    (h : IsSorted (e :: rest)) : ∀ x ∈ rest, e.1 < x.1 :=
  (List.pairwise_cons.mp h).1

theorem IsSorted.all_lt {key : String} {e : String × α} {rest : List (String × α)}
    (h : IsSorted (e :: rest)) (hlt : key < e.1) : ∀ x ∈ e :: rest, key < x.1 := by
  intro x hx
  rcases List.mem_cons.mp hx with hx | hx
  · exact hx ▸ hlt
  · exact String.lt_trans hlt (h.head_lt x hx)

theorem mem_insertEntry {key : String} {value : α} {e : String × α}
    {entries : List (String × α)} (h : e ∈ insertEntry key value entries) :
    e = (key, value) ∨ e ∈ entries := by
  induction entries with
  | nil => exact Or.inl (List.mem_singleton.mp h)
  | cons x rest ih =>
      simp only [insertEntry] at h
      split at h
      · exact (List.mem_cons.mp h)
      · split at h
        · rcases List.mem_cons.mp h with h | h
          · exact Or.inl h
          · exact Or.inr (List.mem_cons_of_mem _ h)
        · rcases List.mem_cons.mp h with h | h
          · exact Or.inr (h ▸ List.mem_cons_self)
          · rcases ih h with h | h
            · exact Or.inl h
            · exact Or.inr (List.mem_cons_of_mem _ h)

theorem isSorted_insertEntry (key : String) (value : α) {entries : List (String × α)}
    (h : IsSorted entries) : IsSorted (insertEntry key value entries) := by
  induction entries with
  | nil => exact List.pairwise_singleton _ _
  | cons x rest ih =>
      simp only [insertEntry]
      split
      · rename_i hlt
        exact List.pairwise_cons.mpr ⟨h.all_lt hlt, h⟩
      · split
        · rename_i _ heq
          refine List.pairwise_cons.mpr ⟨?_, h.tail⟩
          intro e he
          exact heq ▸ h.head_lt e he
        · rename_i hnlt hne
          refine List.pairwise_cons.mpr ⟨?_, ih h.tail⟩
          intro e he
          rcases mem_insertEntry he with he | he
          · exact he ▸ lt_of_not_lt_of_ne hnlt hne
          · exact h.head_lt e he

theorem isSorted_eraseEntry (key : String) {entries : List (String × α)}
    (h : IsSorted entries) : IsSorted (eraseEntry key entries) :=
  List.Pairwise.filter _ h

theorem isSorted_foldl_insertEntry (entries : List (String × α)) {sorted : List (String × α)}
    (h : IsSorted sorted) :
    IsSorted (entries.foldl (fun s e => insertEntry e.1 e.2 s) sorted) := by
  induction entries generalizing sorted with
  | nil => exact h
  | cons e rest ih => exact ih (isSorted_insertEntry e.1 e.2 h)

/-- Sorting leaves a canonical list, whatever the order and the repetitions of
    the list it is given. -/
theorem isSorted_sortEntries (entries : List (String × α)) : IsSorted (sortEntries entries) :=
  isSorted_foldl_insertEntry entries isSorted_nil

theorem lookup?_insertEntry (key k : String) (value : α) (entries : List (String × α)) :
    lookup? k (insertEntry key value entries)
      = if k = key then some value else lookup? k entries := by
  induction entries with
  | nil => rfl
  | cons x rest ih =>
      obtain ⟨j, a⟩ := x
      simp only [insertEntry]
      split
      · rfl
      · split
        · rename_i _ heq
          subst heq
          simp only [lookup?]
          split <;> rfl
        · rename_i hne
          simp only [lookup?, ih]
          split
          · rename_i hk
            rw [if_neg]
            exact fun h => hne (h.symm.trans hk)
          · rfl

theorem lookup?_eraseEntry (key k : String) (entries : List (String × α)) :
    lookup? k (eraseEntry key entries)
      = if k = key then none else lookup? k entries := by
  induction entries with
  | nil => simp only [eraseEntry, List.filter_nil, lookup?, ite_self]
  | cons x rest ih =>
      obtain ⟨j, a⟩ := x
      simp only [eraseEntry] at ih
      simp only [eraseEntry, List.filter_cons]
      by_cases hj : j = key
      · subst hj
        simp only [ne_eq, not_true_eq_false, decide_false, Bool.false_eq_true, ↓reduceIte,
          lookup?]
        rw [ih]
        split <;> rfl
      · simp only [ne_eq, hj, not_false_eq_true, decide_true, ↓reduceIte, lookup?]
        rw [ih]
        by_cases hk : k = j
        · subst hk
          simp only [↓reduceIte, hj]
        · simp only [hk, ↓reduceIte]

theorem lookup?_eq_none_of_lt {key : String} {entries : List (String × α)}
    (h : ∀ e ∈ entries, key < e.1) : lookup? key entries = none := by
  induction entries with
  | nil => rfl
  | cons x rest ih =>
      have hx := h x List.mem_cons_self
      have hne : key ≠ x.1 := fun heq => String.lt_irrefl x.1 (heq ▸ hx)
      simp only [lookup?, hne, ↓reduceIte]
      exact ih fun e he => h e (List.mem_cons_of_mem _ he)

theorem lookup?_eq_some_iff {key : String} {value : α} {entries : List (String × α)}
    (h : IsSorted entries) : lookup? key entries = some value ↔ (key, value) ∈ entries := by
  induction entries with
  | nil => simp only [lookup?, reduceCtorEq, List.not_mem_nil]
  | cons x rest ih =>
      obtain ⟨j, a⟩ := x
      simp only [lookup?, List.mem_cons, Prod.mk.injEq]
      by_cases hk : key = j
      · subst hk
        simp only [↓reduceIte, Option.some.injEq, true_and]
        constructor
        · exact fun h => Or.inl h.symm
        · rintro (h' | h')
          · exact h'.symm
          · exact absurd (h.head_lt _ h') (String.lt_irrefl _)
      · simp only [hk, ↓reduceIte, false_and, false_or]
        exact ih h.tail

theorem eq_of_lookup?_eq {xs ys : List (String × α)} (hx : IsSorted xs) (hy : IsSorted ys)
    (h : ∀ k, lookup? k xs = lookup? k ys) : xs = ys := by
  induction xs generalizing ys with
  | nil =>
      cases ys with
      | nil => rfl
      | cons y ys =>
          have := h y.1
          simp only [lookup?, ↓reduceIte, reduceCtorEq] at this
  | cons x xs ih =>
      cases ys with
      | nil =>
          have := h x.1
          simp only [lookup?, ↓reduceIte, reduceCtorEq] at this
      | cons y ys =>
          obtain ⟨i, a⟩ := x
          obtain ⟨j, b⟩ := y
          -- The least key of one side occurs on the other, so the heads agree.
          have hij : i = j := by
            rcases Decidable.em (i = j) with heq | hne
            · exact heq
            · rcases Decidable.em (i < j) with hlt | hnlt
              · have hi := h i
                rw [lookup?_eq_none_of_lt (hy.all_lt hlt)] at hi
                simp only [lookup?, ↓reduceIte, reduceCtorEq] at hi
              · have hlt := lt_of_not_lt_of_ne hnlt hne
                have hj := h j
                rw [lookup?_eq_none_of_lt (hx.all_lt hlt)] at hj
                simp only [lookup?, ↓reduceIte, reduceCtorEq] at hj
          subst hij
          have hab : a = b := by
            have := h i
            simpa only [lookup?, ↓reduceIte, Option.some.injEq] using this
          subst hab
          have htail : xs = ys := by
            refine ih hx.tail hy.tail fun k => ?_
            have hk := h k
            simp only [lookup?] at hk
            by_cases hki : k = i
            · subst hki
              rw [lookup?_eq_none_of_lt hx.head_lt, lookup?_eq_none_of_lt hy.head_lt]
            · simpa only [hki, ↓reduceIte] using hk
          rw [htail]

end Entries

/-- A finite map from strings, in key order. -/
structure SortedMap (α : Type u) where
  /-- The entries, in key order. -/
  entries : List (String × α)
  /-- The keys are strictly increasing. -/
  sorted : IsSorted entries := by decide
deriving DecidableEq

namespace SortedMap

variable {α : Type u} {β : Type v}

/-- The map without entries. -/
def empty : SortedMap α := ⟨[], isSorted_nil⟩

instance : Inhabited (SortedMap α) := ⟨empty⟩

instance : EmptyCollection (SortedMap α) := ⟨empty⟩

/-- The value under a key. -/
def get? (m : SortedMap α) (key : String) : Option α := lookup? key m.entries

/-- Whether a key has a value. -/
def contains (m : SortedMap α) (key : String) : Bool := (m.get? key).isSome

/-- Set the value under a key. -/
def insert (m : SortedMap α) (key : String) (value : α) : SortedMap α :=
  ⟨insertEntry key value m.entries, isSorted_insertEntry key value m.sorted⟩

/-- Remove a key. -/
def erase (m : SortedMap α) (key : String) : SortedMap α :=
  ⟨eraseEntry key m.entries, isSorted_eraseEntry key m.sorted⟩

/-- The map with the given entries, where the last entry of a key wins. -/
def ofList (entries : List (String × α)) : SortedMap α :=
  ⟨sortEntries entries, isSorted_sortEntries entries⟩

/-- Add all entries of the second map, which win over those of the first. -/
def union (m n : SortedMap α) : SortedMap α :=
  n.entries.foldl (fun acc e => acc.insert e.1 e.2) m

/-- Keep the entries that pass a test. -/
def filter (m : SortedMap α) (keep : String → α → Bool) : SortedMap α :=
  ⟨m.entries.filter fun e => keep e.1 e.2, List.Pairwise.filter _ m.sorted⟩

/-- Apply a function to every value. -/
def map (m : SortedMap α) (f : α → β) : SortedMap β :=
  ⟨m.entries.map fun e => (e.1, f e.2), by
    simpa only [IsSorted, List.pairwise_map] using m.sorted⟩

/-- The keys, in order. -/
def keys (m : SortedMap α) : List String := m.entries.map (·.1)

/-- The values, in key order. -/
def values (m : SortedMap α) : List α := m.entries.map (·.2)

/-- The number of keys. -/
def size (m : SortedMap α) : Nat := m.entries.length

/-- Whether the map has no entry. -/
def isEmpty (m : SortedMap α) : Bool := m.entries.isEmpty

@[simp]
theorem get?_empty (k : String) : (empty : SortedMap α).get? k = none := rfl

theorem get?_insert (m : SortedMap α) (key k : String) (value : α) :
    (m.insert key value).get? k = if k = key then some value else m.get? k :=
  lookup?_insertEntry key k value m.entries

theorem get?_erase (m : SortedMap α) (key k : String) :
    (m.erase key).get? k = if k = key then none else m.get? k :=
  lookup?_eraseEntry key k m.entries

theorem get?_eq_some_iff (m : SortedMap α) (k : String) (a : α) :
    m.get? k = some a ↔ (k, a) ∈ m.entries :=
  lookup?_eq_some_iff m.sorted

@[ext]
theorem ext {m n : SortedMap α} (h : m.entries = n.entries) : m = n := by
  cases m
  cases n
  simp only [SortedMap.mk.injEq]
  exact h

/-- Sorted keys make the list of entries canonical, so maps with the same
    look-ups are equal. -/
theorem ext_get? {m n : SortedMap α} (h : ∀ k, m.get? k = n.get? k) : m = n :=
  SortedMap.ext (eq_of_lookup?_eq m.sorted n.sorted h)

end SortedMap

end Decisioning
