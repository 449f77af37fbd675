import Decisioning.Validation.Payload

/-!
# What Passing a Check Says

Each check, read as a fact about the values that pass it.

A check answers with a list of violations, so passing is answering the empty
list. For the checks that are made of others this is passing all the parts, and
then the list is not needed any more. Since a check of one aspect passes all
values that lack the aspect, a field is only known to be there if it is required
of an object: `exists_of_required` puts the three checks together that this takes,
in the way in which all schemas of payloads do.

## Theorems

* `Check.all_cons_eq_nil_iff`, `Check.kind_eq_nil_iff`, `Check.field_eq_nil_iff`:
  When a check passes.
* `Check.exists_arr_of_items`: An array passes item by item.
* `Check.exists_of_required`: A required field is there.
-/

namespace Decisioning

namespace Check

variable {value : Json} {check : Check} {name : String}

@[simp]
theorem all_nil : all [] value = [] := rfl

@[simp]
theorem all_cons_eq_nil_iff (checks : List Check) :
    all (check :: checks) value = [] ↔ check value = [] ∧ all checks value = [] := by
  rw [all, List.flatMap_cons, List.append_eq_nil_iff]
  rfl

theorem kind_eq_nil_iff (first : Kind) (others : List Kind) :
    kind first others value = [] ↔ ∃ kind ∈ first :: others, kind.holds value = true := by
  unfold kind
  by_cases h : (first :: others).any (fun kind => kind.holds value) = true
  · rw [if_pos h]
    exact iff_of_true rfl (List.any_eq_true.mp h)
  · rw [if_neg h]
    refine iff_of_false (List.cons_ne_nil _ _) ?_
    rintro ⟨kind, hkind, hholds⟩
    exact h (List.any_eq_true.mpr ⟨kind, hkind, hholds⟩)

theorem holds_of_kind {only : Kind} (h : kind only [] value = []) : only.holds value = true := by
  rcases (kind_eq_nil_iff only []).mp h with ⟨found, hfound, hholds⟩
  rw [List.mem_singleton.mp hfound] at hholds
  exact hholds

theorem isObject_of_kind (h : kind .object [] value = []) : value.isObject = true :=
  holds_of_kind h

theorem exists_str_of_kind (h : kind .string [] value = []) : ∃ text, value = .str text := by
  have hholds := holds_of_kind h
  cases value with
  | str text => exact ⟨text, rfl⟩
  | _ => exact absurd hholds Bool.false_ne_true

theorem exists_arr_of_kind (h : kind .array [] value = []) : ∃ values, value = .arr values := by
  have hholds := holds_of_kind h
  cases value with
  | arr values => exact ⟨values, rfl⟩
  | _ => exact absurd hholds Bool.false_ne_true

/-- An array is asked for together with what its items have to be. -/
theorem exists_arr_of_items (h : all [items check, kind .array []] value = []) :
    ∃ values, value = .arr values ∧ ∀ item ∈ values, check item = [] := by
  rw [all_cons_eq_nil_iff, all_cons_eq_nil_iff] at h
  rcases exists_arr_of_kind h.2.1 with ⟨values, rfl⟩
  exact ⟨values, rfl, List.flatMap_eq_nil_iff.mp h.1⟩

theorem field_eq_nil_iff :
    field name check value = [] ↔ ∀ found, value.get? name = some found → check found = [] := by
  unfold field
  cases value.get? name with
  | none => exact iff_of_true rfl fun found h => absurd h (by simp only [reduceCtorEq,
      not_false_eq_true])
  | some found =>
      constructor
      · rintro h _ ⟨⟩
        exact h
      · exact fun h => h found rfl

/-- A condition on a field applies where the field has the value it names. -/
theorem whenField_of_get? {text : String} (h : value.get? name = some (.str text)) :
    whenField name text check value = check value := by
  unfold whenField
  rw [h, Option.all_some, decide_eq_true rfl, if_pos rfl]

/-- A field that is required of an object is there, and passes its own check. -/
theorem exists_of_required (hobject : value.isObject = true) (hrequired : required name value = [])
    (hfield : field name check value = []) :
    ∃ found, value.get? name = some found ∧ check found = [] := by
  cases hfound : value.get? name with
  | none =>
      -- Then there would be a violation.
      rw [required, hobject, hfound, Option.isNone_none, Bool.and_self, if_pos rfl] at hrequired
      exact absurd hrequired (List.cons_ne_nil _ _)
  | some found => exact ⟨found, rfl, field_eq_nil_iff.mp hfield found hfound⟩

theorem exists_str_of_required (hobject : value.isObject = true)
    (hrequired : required name value = []) (hfield : field name (kind .string []) value = []) :
    ∃ text, value.get? name = some (.str text) := by
  rcases exists_of_required hobject hrequired hfield with ⟨found, hfound, hkind⟩
  rcases exists_str_of_kind hkind with ⟨text, rfl⟩
  exact ⟨text, hfound⟩

/-- What is required of a text besides does not matter for its being there. -/
theorem exists_text_of_required (hobject : value.isObject = true)
    (hrequired : required name value = [])
    (hfield : field name (all [check, kind .string []]) value = []) :
    ∃ text, value.get? name = some (.str text) := by
  rcases exists_of_required hobject hrequired hfield with ⟨found, hfound, hparts⟩
  rw [all_cons_eq_nil_iff, all_cons_eq_nil_iff] at hparts
  rcases exists_str_of_kind hparts.2.1 with ⟨text, rfl⟩
  exact ⟨text, hfound⟩

end Check

end Decisioning
