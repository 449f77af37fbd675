import Decisioning.SortedMap

/-!
# Look-ups in Sorted Maps

What the operations on sorted maps do to look-ups.

A look-up determines a map, so each operation needs one equation and no other
fact about entry lists is used outside this file. The operations that put in
many entries at once, `SortedMap.ofList` and `SortedMap.union`, are folds over
an entry list in which a later entry wins over an earlier one. Their equations
therefore look a key up in the list from its end.

## Theorems

* `get?_foldl_insert`: Looking up after many insertions.
* `SortedMap.get?_ofList`, `get?_union`, `get?_filter`, `get?_filter_keys`,
  `get?_map`: Looking up after the other operations.
* `SortedMap.map_insert`, `map_erase`, `erase_insert`: Two operations in a row.
* `SortedMap.contains_iff_mem_keys`: The keys are those with a value.
* `SortedMap.keys_sorted`: The keys strictly increase.
* `SortedMap.flatten_values`: The values in key order are the look-ups of the
  keys.
* `SortedMap.ofList_entries`: Rebuilding a map from its entries.
-/

namespace Decisioning

universe u v

variable {α : Type u} {β : Type v}

theorem lookup?_append (k : String) (xs ys : List (String × α)) :
    lookup? k (xs ++ ys) = (lookup? k xs).or (lookup? k ys) := by
  induction xs with
  | nil => rfl
  | cons x rest ih =>
      obtain ⟨j, a⟩ := x
      simp only [List.cons_append, lookup?, ih]
      by_cases hk : k = j
      · rw [if_pos hk, if_pos hk, Option.some_or]
      · rw [if_neg hk, if_neg hk]

/-- Looking up after many insertions. The last entry of a key is the one that
    stays, so the entries are searched from the end. -/
theorem get?_foldl_insert (entries : List (String × α)) (m : SortedMap α) (k : String) :
    (entries.foldl (fun acc e => acc.insert e.1 e.2) m).get? k
      = (lookup? k entries.reverse).or (m.get? k) := by
  induction entries generalizing m with
  | nil => rfl
  | cons e rest ih =>
      rw [List.foldl_cons, ih, SortedMap.get?_insert, List.reverse_cons, lookup?_append,
        Option.or_assoc]
      simp only [lookup?]
      by_cases hk : k = e.1
      · rw [if_pos hk, if_pos hk, Option.some_or]
      · rw [if_neg hk, if_neg hk, Option.none_or]

theorem lookup?_map (f : α → β) (k : String) (entries : List (String × α)) :
    lookup? k (entries.map fun e => (e.1, f e.2)) = (lookup? k entries).map f := by
  induction entries with
  | nil => rfl
  | cons e rest ih =>
      simp only [List.map_cons, lookup?, ih]
      by_cases hk : k = e.1
      · rw [if_pos hk, if_pos hk, Option.map_some]
      · rw [if_neg hk, if_neg hk]

/-- With each key at most once, the direction of the search does not matter. -/
theorem lookup?_reverse {entries : List (String × α)} (h : IsSorted entries) (k : String) :
    lookup? k entries.reverse = lookup? k entries := by
  induction entries with
  | nil => rfl
  | cons e rest ih =>
      rw [List.reverse_cons, lookup?_append, ih h.tail]
      simp only [lookup?]
      by_cases hk : k = e.1
      · rw [if_pos hk, if_pos hk, lookup?_eq_none_of_lt (hk ▸ h.head_lt), Option.none_or]
      · rw [if_neg hk, if_neg hk, Option.or_none]

/-- With each key at most once, an entry is found wherever it stands. -/
theorem lookup?_of_mem {entry : String × α} {entries : List (String × α)}
    (hkeys : (entries.map Prod.fst).Nodup) (h : entry ∈ entries) :
    lookup? entry.1 entries = some entry.2 := by
  induction entries with
  | nil => exact absurd h List.not_mem_nil
  | cons first rest ih =>
      rw [List.map_cons, List.nodup_cons] at hkeys
      rw [lookup?]
      rcases List.mem_cons.mp h with rfl | hrest
      · rw [if_pos rfl]
      · have hother : entry.1 ≠ first.1 :=
          fun heq => hkeys.1 (heq ▸ List.mem_map_of_mem hrest)
        rw [if_neg hother, ih hkeys.2 hrest]

namespace SortedMap

theorem entries_ofList (entries : List (String × α)) :
    ofList entries = entries.foldl (fun acc e => acc.insert e.1 e.2) empty := by
  -- The same fold, once on bare entry lists and once on maps.
  have hfold : ∀ (es : List (String × α)) (m : SortedMap α),
      es.foldl (fun s e => insertEntry e.1 e.2 s) m.entries
        = (es.foldl (fun acc e => acc.insert e.1 e.2) m).entries := by
    intro es
    induction es with
    | nil => intro m; rfl
    | cons e rest ih => intro m; exact ih (m.insert e.1 e.2)
  exact SortedMap.ext (hfold entries empty)

theorem get?_ofList (entries : List (String × α)) (k : String) :
    (ofList entries).get? k = lookup? k entries.reverse := by
  rw [entries_ofList, get?_foldl_insert, get?_empty, Option.or_none]

theorem get?_union (m n : SortedMap α) (k : String) :
    (m.union n).get? k = (n.get? k).or (m.get? k) := by
  rw [union, get?_foldl_insert, lookup?_reverse n.sorted]
  rfl

theorem get?_map (f : α → β) (m : SortedMap α) (k : String) :
    (m.map f).get? k = (m.get? k).map f :=
  lookup?_map f k m.entries

theorem get?_filter (keep : String → α → Bool) (m : SortedMap α) (k : String) :
    (m.filter keep).get? k = (m.get? k).filter (keep k) := by
  -- Sorted entries turn both look-ups into membership.
  ext a
  rw [Option.filter_eq_some_iff, get?_eq_some_iff, get?_eq_some_iff]
  simp only [filter, List.mem_filter]

/-- Looking up where some keys are left out, whatever their values. -/
theorem get?_filter_keys (keep : String → Bool) (m : SortedMap α) (k : String) :
    (m.filter fun key _ => keep key).get? k = if keep k then m.get? k else none := by
  rw [get?_filter]
  cases m.get? k with
  | none => rw [Option.filter_none, ite_self]
  | some a => exact Option.filter_some

/-- Rebuilding a map from its entries. -/
theorem ofList_entries (m : SortedMap α) : ofList m.entries = m :=
  ext_get? fun k => by rw [get?_ofList, lookup?_reverse m.sorted]; rfl

theorem map_insert (f : α → β) (m : SortedMap α) (key : String) (value : α) :
    (m.insert key value).map f = (m.map f).insert key (f value) :=
  ext_get? fun k => by
    rw [get?_map, get?_insert, get?_insert, get?_map]
    split <;> rfl

theorem map_erase (f : α → β) (m : SortedMap α) (key : String) :
    (m.erase key).map f = (m.map f).erase key :=
  ext_get? fun k => by
    rw [get?_map, get?_erase, get?_erase, get?_map]
    split <;> rfl

/-- Removing a key without value. -/
theorem erase_of_get?_eq_none {m : SortedMap α} {key : String} (h : m.get? key = none) :
    m.erase key = m :=
  ext_get? fun k => by
    rw [get?_erase]
    split
    · rename_i hk
      rw [hk, h]
    · rfl

/-- Removing a key that was just put in. -/
theorem erase_insert (m : SortedMap α) (key : String) (value : α) :
    (m.insert key value).erase key = m.erase key :=
  ext_get? fun k => by
    rw [get?_erase, get?_erase, get?_insert]
    split <;> rfl

theorem contains_iff_mem_keys (m : SortedMap α) (k : String) :
    m.contains k = true ↔ k ∈ m.keys := by
  rw [contains, Option.isSome_iff_exists, keys, List.mem_map]
  constructor
  · rintro ⟨a, ha⟩
    exact ⟨(k, a), (m.get?_eq_some_iff k a).mp ha, rfl⟩
  · rintro ⟨⟨j, a⟩, hmem, rfl⟩
    exact ⟨a, (m.get?_eq_some_iff j a).mpr hmem⟩

theorem keys_map (f : α → β) (m : SortedMap α) : (m.map f).keys = m.keys :=
  List.map_map

theorem values_map (f : α → β) (m : SortedMap α) : (m.map f).values = m.values.map f := by
  change (m.entries.map fun e => (e.1, f e.2)).map (·.2) = (m.entries.map (·.2)).map f
  rw [List.map_map, List.map_map]
  rfl

/-- The keys strictly increase. -/
theorem keys_sorted (m : SortedMap α) : m.keys.Pairwise (· < ·) := by
  rw [keys, List.pairwise_map]
  exact m.sorted

theorem keys_nodup (m : SortedMap α) : m.keys.Nodup := by
  refine m.keys_sorted.imp ?_
  intro a b hlt heq
  exact String.lt_irrefl b (heq ▸ hlt)

/-- The values in key order, each found under its key. -/
theorem values_eq_map_get? (m : SortedMap α) (default : α) :
    m.values = m.keys.map fun k => (m.get? k).getD default := by
  rw [values, keys, List.map_map]
  refine List.map_congr_left fun e he => ?_
  have hget : m.get? e.1 = some e.2 := (m.get?_eq_some_iff e.1 e.2).mpr he
  simp only [Function.comp_apply, hget, Option.getD_some]

/-- Concatenating the values is going through the keys. -/
theorem flatten_values (m : SortedMap (List α)) :
    m.values.flatten = m.keys.flatMap fun k => (m.get? k).getD [] := by
  rw [m.values_eq_map_get? [], List.flatMap_def]

theorem isEmpty_iff (m : SortedMap α) : m.isEmpty = true ↔ m = empty := by
  constructor
  · intro h
    exact SortedMap.ext (List.isEmpty_iff.mp h)
  · rintro rfl
    rfl

end SortedMap

/-- Sorting keeps the last value of each key. -/
theorem lookup?_sortEntries (k : String) (entries : List (String × α)) :
    lookup? k (sortEntries entries) = lookup? k entries.reverse :=
  SortedMap.get?_ofList entries k

end Decisioning
