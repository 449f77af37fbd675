import Mathlib.Data.List.Forall2
import Mathlib.Data.List.Nodup
import Decisioning.Json.Raw
import Decisioning.Session
import Decisioning.Proofs.SortedMap

/-!
# Texts of Sessions

What is read from the text of a session that delivers a payload in parts.

The payload of a fragment stands inside of the session, in an object in the list of
steps in an object, so it may nest three levels less than a payload in a file of
its own. That is the only limit. What stands in the payload is not looked at when
the session is read, and its parts are read as they would be in one piece.

All of this is about syntax trees, so it does not matter how a text spells them.
Numbers, strings and repeated keys in the payload are whatever they are.

## Main definitions

* `RawJson.text`, `RawJson.record`: The trees of strings and of records.
* `Session.responseTree`: The tree of a session with one request, its answer in
  parts, and the end of it.
* `Session.ofResponse`: The session that it is read as.

## Theorems

* `RawJson.value?_mono`: A reader that goes deeper reads the same.
* `RawJson.exists_of_items?_flatten`: Parts of a payload are read one by one.
* `Step.parts?_sortEntries`: The parts of a step, whatever its kind.
* `Session.read_responseTree`: The session that is read.
-/

namespace Decisioning

namespace RawJson

/-- The tree of a string. -/
def text (s : String) : RawJson := .string (some s)

/-- The tree of an object with the given keys, in the order of the text. -/
def record (fields : List (String × RawJson)) : RawJson :=
  .object (fields.map fun field => (some field.1, field.2))

theorem items?_cons_eq_some_iff {depth : Nat} {tree : RawJson} {rest : List RawJson}
    {values : List Json} :
    items? depth (tree :: rest) = some values
      ↔ ∃ value others, value? depth tree = some value ∧ items? depth rest = some others
        ∧ values = value :: others := by
  rw [items?]
  cases value? depth tree with
  | none => simp only [reduceCtorEq, false_and, exists_false]
  | some value =>
      cases items? depth rest with
      | none => simp only [reduceCtorEq, false_and, and_false, exists_false]
      | some others =>
          simp only [Option.some.injEq, exists_and_left, exists_eq_left', eq_comm]

theorem items?_append_eq_some_iff {depth : Nat} {trees rest : List RawJson} {values : List Json} :
    items? depth (trees ++ rest) = some values
      ↔ ∃ piece others, items? depth trees = some piece ∧ items? depth rest = some others
        ∧ values = piece ++ others := by
  induction trees generalizing values with
  | nil =>
      simp only [List.nil_append, items?, Option.some.injEq, exists_and_left, exists_eq_left',
        exists_eq_right']
  | cons tree trees ih =>
      simp only [List.cons_append, items?_cons_eq_some_iff, ih]
      constructor
      · rintro ⟨value, _, hvalue, ⟨piece, others, hpiece, hothers, rfl⟩, rfl⟩
        exact ⟨value :: piece, others, ⟨value, piece, hvalue, hpiece, rfl⟩, hothers, rfl⟩
      · rintro ⟨_, others, ⟨value, piece, hvalue, hpiece, rfl⟩, hothers, rfl⟩
        exact ⟨value, piece ++ others, hvalue, ⟨piece, others, hpiece, hothers, rfl⟩, rfl⟩

theorem fields?_cons_eq_some_iff {depth : Nat} {key : Option String} {tree : RawJson}
    {rest : List (Option String × RawJson)} {read : List (String × Json)} :
    fields? depth ((key, tree) :: rest) = some read
      ↔ ∃ name value others, key = some name ∧ value? depth tree = some value
        ∧ fields? depth rest = some others ∧ read = (name, value) :: others := by
  cases key with
  | none => simp only [fields?, reduceCtorEq, false_and, exists_false]
  | some name =>
      cases hvalue : value? depth tree with
      | none => simp only [fields?, hvalue, reduceCtorEq, false_and, and_false, exists_false]
      | some value =>
          cases hrest : fields? depth rest with
          | none =>
              simp only [fields?, hvalue, hrest, reduceCtorEq, false_and, and_false, exists_false]
          | some others =>
              simp only [fields?, hvalue, hrest, Option.some.injEq, exists_and_left,
                exists_eq_left', eq_comm]

mutual

/-- What is read to some depth is read as the same value to a greater one. -/
theorem value?_mono : ∀ {tree : RawJson} {depth deeper : Nat} {value : Json}
    (_ : depth ≤ deeper) (_ : value? depth tree = some value), value? deeper tree = some value
  | .null, _, _, _, _, hvalue => hvalue
  | .bool _, _, _, _, _, hvalue => hvalue
  | .number _, _, _, _, _, hvalue => hvalue
  | .string _, _, _, _, _, hvalue => hvalue
  | .array items, depth, deeper, value, hle, hvalue => by
      -- An array that could be read was within the depth.
      have hdepth : depth ≠ 0 := by
        rintro rfl
        exact absurd hvalue nofun
      rw [value?, if_neg hdepth] at hvalue
      rcases Option.map_eq_some_iff.mp hvalue with ⟨values, hvalues, rfl⟩
      rw [value?, if_neg (by omega), items?_mono (by omega) hvalues, Option.map_some]
  | .object fields, depth, deeper, value, hle, hvalue => by
      have hdepth : depth ≠ 0 := by
        rintro rfl
        exact absurd hvalue nofun
      rw [value?, if_neg hdepth] at hvalue
      rcases Option.map_eq_some_iff.mp hvalue with ⟨read, hread, rfl⟩
      rw [value?, if_neg (by omega), fields?_mono (by omega) hread, Option.map_some]

/-- The same for the items of an array. -/
theorem items?_mono : ∀ {trees : List RawJson} {depth deeper : Nat} {values : List Json}
    (_ : depth ≤ deeper) (_ : items? depth trees = some values),
    items? deeper trees = some values
  | [], _, _, _, _, hvalues => hvalues
  | tree :: rest, depth, deeper, values, hle, hvalues => by
      rcases items?_cons_eq_some_iff.mp hvalues with ⟨value, others, hvalue, hothers, rfl⟩
      exact items?_cons_eq_some_iff.mpr
        ⟨value, others, value?_mono hle hvalue, items?_mono hle hothers, rfl⟩

/-- The same for the fields of an object. -/
theorem fields?_mono : ∀ {fields : List (Option String × RawJson)} {depth deeper : Nat}
    {read : List (String × Json)} (_ : depth ≤ deeper) (_ : fields? depth fields = some read),
    fields? deeper fields = some read
  | [], _, _, _, _, hread => hread
  | (key, tree) :: rest, depth, deeper, read, hle, hread => by
      rcases fields?_cons_eq_some_iff.mp hread with ⟨name, value, others, rfl, hvalue, hothers, rfl⟩
      exact fields?_cons_eq_some_iff.mpr
        ⟨name, value, others, rfl, value?_mono hle hvalue, fields?_mono hle hothers, rfl⟩

end

/-- The parts of a list of trees are read one by one. -/
theorem exists_of_items?_flatten {depth : Nat} {parts : List (List RawJson)} {entries : List Json}
    (h : items? depth parts.flatten = some entries) :
    ∃ pieces : List (List Json), pieces.flatten = entries
      ∧ List.Forall₂ (fun part piece => items? depth part = some piece) parts pieces := by
  induction parts generalizing entries with
  | nil => exact ⟨[], Option.some.inj h, .nil⟩
  | cons part rest ih =>
      rw [List.flatten_cons] at h
      rcases items?_append_eq_some_iff.mp h with ⟨piece, others, hpiece, hothers, rfl⟩
      rcases ih hothers with ⟨pieces, rfl, hpieces⟩
      exact ⟨piece :: pieces, rfl, .cons hpiece hpieces⟩

/-- Trees whose values are read by a reader, one after another, are read as a list. -/
theorem items?_bind_mapM {α : Type} {depth : Nat} {read? : Json → Option α} {trees : List RawJson}
    {read : List α}
    (h : List.Forall₂ (fun tree a => (value? depth tree).bind read? = some a) trees read) :
    ∃ values, items? depth trees = some values ∧ values.mapM read? = some read := by
  induction h with
  | nil => exact ⟨[], rfl, rfl⟩
  | @cons tree a rest others hfirst _ ih =>
      rcases Option.bind_eq_some_iff.mp hfirst with ⟨value, hvalue, hread⟩
      rcases ih with ⟨values, hvalues, hothers⟩
      refine ⟨value :: values,
        items?_cons_eq_some_iff.mpr ⟨value, values, hvalue, hvalues, rfl⟩, ?_⟩
      rw [List.mapM_cons, hread, hothers]
      rfl

theorem value?_array (depth : Nat) (trees : List RawJson) :
    value? (depth + 1) (.array trees) = (items? depth trees).map .arr := by
  rw [value?, if_neg depth.succ_ne_zero, Nat.add_sub_cancel]

/-- The fields of a record are read one by one, and then sorted. -/
theorem value?_record {depth : Nat} {fields : List (String × RawJson)}
    {read : List (String × Json)}
    (h : List.Forall₂ (fun field r => field.1 = r.1 ∧ value? depth field.2 = some r.2)
      fields read) :
    value? (depth + 1) (record fields) = some (.obj (sortEntries read)) := by
  have hfields : fields? depth (fields.map fun field => (some field.1, field.2)) = some read := by
    induction h with
    | nil => rfl
    | @cons field r rest others hfirst _ ih =>
        exact fields?_cons_eq_some_iff.mpr
          ⟨r.1, r.2, others, congrArg some hfirst.1, hfirst.2, ih, rfl⟩
  rw [record, value?, if_neg depth.succ_ne_zero, Nat.add_sub_cancel, hfields, Option.map_some]

theorem items?_map_text (depth : Nat) (texts : List String) :
    items? depth (texts.map text) = some (texts.map .str) := by
  induction texts with
  | nil => rfl
  | cons s rest ih => exact items?_cons_eq_some_iff.mpr ⟨.str s, _, rfl, ih, rfl⟩

end RawJson

namespace Step

/-- The tree of a request. -/
def requestTree (label : String) (surfaces : List String) : RawJson :=
  .record [("step", .text "request"), ("id", .text label),
    ("surfaces", .array (surfaces.map .text))]

/-- The tree of a fragment with some entries of a payload. -/
def fragmentTree (label : String) (part : List RawJson) : RawJson :=
  .record [("step", .text "fragment"), ("id", .text label), ("payload", .array part)]

/-- The tree of a completion. -/
def completeTree (label : String) : RawJson :=
  .record [("step", .text "complete"), ("id", .text label)]

theorem texts?_strings (texts : List String) : texts? (.arr (texts.map .str)) = some texts := by
  change (texts.map Json.str).mapM Json.asString? = some texts
  induction texts with
  | nil => rfl
  | cons s rest ih =>
      rw [List.map_cons, List.mapM_cons, ih]
      rfl

/-- No kind has a field twice, or one that could be taken for the kind. -/
theorem nodup_of_fieldNames? {kind : String} {names : List String}
    (h : fieldNames? kind = some names) : ("step" :: names).Nodup := by
  unfold fieldNames? at h
  split at h
  case h_5 => exact absurd h nofun
  all_goals
    rw [← Option.some.inj h]
    decide

/-- A record with the fields of its kind has their values as its parts. -/
theorem parts?_sortEntries {kind : String} {fields : List (String × Json)}
    (h : fieldNames? kind = some (fields.map Prod.fst)) :
    parts? (.obj (sortEntries (("step", .str kind) :: fields)))
      = some (kind, fields.map Prod.snd) := by
  let sorted := sortEntries (("step", .str kind) :: fields)
  have hlookup : ∀ field ∈ ("step", .str kind) :: fields,
      lookup? field.1 sorted = some field.2 := by
    intro field hfield
    rw [lookup?_sortEntries]
    refine lookup?_of_mem ?_ (List.mem_reverse.mpr hfield)
    rw [List.map_reverse, List.nodup_reverse]
    exact nodup_of_fieldNames? h
  have hvalues : ∀ chosen ⊆ fields,
      (chosen.map Prod.fst).mapM (fun name => lookup? name sorted)
        = some (chosen.map Prod.snd) := by
    intro chosen
    induction chosen with
    | nil => intro _; rfl
    | cons field rest ih =>
        intro hsub
        rcases List.cons_subset.mp hsub with ⟨hfield, hrest⟩
        rw [List.map_cons, List.mapM_cons, hlookup field (List.mem_cons_of_mem _ hfield), ih hrest]
        rfl
  have hkind : lookup? "step" sorted = some (.str kind) := hlookup _ List.mem_cons_self
  rw [parts?, hkind]
  dsimp only [Option.bind_some, Json.asString?, Option.bind_eq_bind]
  rw [h, Option.bind_some, hvalues fields (List.Subset.refl fields)]
  rfl

/-- A step is read from its record if it is read from the sorted fields. -/
theorem read_record {depth : Nat} {fields : List (String × RawJson)}
    {read : List (String × Json)} {step : Step}
    (hread : ofRecord? (.obj (sortEntries read)) = some step)
    (h : List.Forall₂ (fun field r => field.1 = r.1 ∧ RawJson.value? depth field.2 = some r.2)
      fields read) :
    (RawJson.value? (depth + 1) (.record fields)).bind ofRecord? = some step := by
  rw [RawJson.value?_record h, Option.bind_some, hread]

variable (depth : Nat) (label : String)

theorem read_requestTree (surfaces : List String) :
    (RawJson.value? (depth + 2) (requestTree label surfaces)).bind ofRecord?
      = some (.request label surfaces) := by
  have hread : ofRecord? (.obj (sortEntries [("step", .str "request"), ("id", .str label),
      ("surfaces", .arr (surfaces.map .str))])) = some (.request label surfaces) := by
    rw [ofRecord?, parts?_sortEntries rfl]
    change (texts? (.arr (surfaces.map .str))).bind _ = _
    rw [texts?_strings]
    rfl
  have hsurfaces : RawJson.value? (depth + 1) (.array (surfaces.map .text))
      = some (.arr (surfaces.map .str)) := by
    rw [RawJson.value?_array, RawJson.items?_map_text, Option.map_some]
  exact read_record hread (.cons ⟨rfl, rfl⟩ (.cons ⟨rfl, rfl⟩ (.cons ⟨rfl, hsurfaces⟩ .nil)))

/-- The entries of a payload are two levels further down than the fragment. -/
theorem read_fragmentTree {part : List RawJson} {piece : List Json}
    (h : RawJson.items? depth part = some piece) :
    (RawJson.value? (depth + 2) (fragmentTree label part)).bind ofRecord?
      = some (.fragment label (.arr piece)) := by
  have hread : ofRecord? (.obj (sortEntries [("step", .str "fragment"), ("id", .str label),
      ("payload", .arr piece)])) = some (.fragment label (.arr piece)) := by
    rw [ofRecord?, parts?_sortEntries rfl]
    rfl
  have hpayload : RawJson.value? (depth + 1) (.array part) = some (.arr piece) := by
    rw [RawJson.value?_array, h, Option.map_some]
  exact read_record hread (.cons ⟨rfl, rfl⟩ (.cons ⟨rfl, rfl⟩ (.cons ⟨rfl, hpayload⟩ .nil)))

theorem read_completeTree :
    (RawJson.value? (depth + 2) (completeTree label)).bind ofRecord? = some (.complete label) := by
  have hread : ofRecord? (.obj (sortEntries [("step", .str "complete"), ("id", .str label)]))
      = some (.complete label) := by
    rw [ofRecord?, parts?_sortEntries rfl]
    rfl
  exact read_record hread (.cons ⟨rfl, rfl⟩ (.cons ⟨rfl, rfl⟩ .nil))

end Step

namespace Session

/-- The tree of a session that asks for surfaces and takes the answer in parts. -/
def responseTree (label : String) (surfaces : List String) (parts : List (List RawJson)) :
    RawJson :=
  .record [("steps", .array (Step.requestTree label surfaces
    :: parts.map (Step.fragmentTree label) ++ [Step.completeTree label]))]

/-- The session that asks for surfaces and takes the answer in pieces. -/
def ofResponse (label : String) (surfaces : List String) (pieces : List (List Json)) : Session where
  steps := .request label surfaces
    :: pieces.map (fun piece => .fragment label (.arr piece)) ++ [.complete label]

/-- The session is read from its tree, whose payloads are in the fourth array or
    object on the way down. -/
theorem read_responseTree {depth : Nat} (label : String) (surfaces : List String)
    {parts : List (List RawJson)} {pieces : List (List Json)}
    (h : List.Forall₂ (fun part piece => RawJson.items? depth part = some piece) parts pieces) :
    ∃ value, RawJson.value? (depth + 4) (responseTree label surfaces parts) = some value
      ∧ ofRecord? value = some (ofResponse label surfaces pieces) := by
  have hfragments : List.Forall₂
      (fun tree step => (RawJson.value? (depth + 2) tree).bind Step.ofRecord? = some step)
      (parts.map (Step.fragmentTree label))
      (pieces.map fun piece => Step.fragment label (.arr piece)) :=
    List.forall₂_map_left_iff.mpr (List.forall₂_map_right_iff.mpr
      (h.imp fun part piece hpart => Step.read_fragmentTree depth label hpart))
  have hsteps := RawJson.items?_bind_mapM (.cons (Step.read_requestTree depth label surfaces)
    (List.rel_append hfragments (.cons (Step.read_completeTree depth label) .nil)))
  rcases hsteps with ⟨values, hvalues, hread⟩
  -- From the steps outwards, each container takes one level.
  have hlist : RawJson.value? (depth + 3) (.array (Step.requestTree label surfaces
      :: parts.map (Step.fragmentTree label) ++ [Step.completeTree label]))
        = some (.arr values) := by
    rw [RawJson.value?_array]
    exact congrArg (Option.map Json.arr) hvalues
  have hvalue : RawJson.value? (depth + 4) (responseTree label surfaces parts)
      = some (.obj (sortEntries [("steps", .arr values)])) :=
    RawJson.value?_record (.cons ⟨rfl, hlist⟩ .nil)
  have hrecord : Json.record? ["steps"] (.obj (sortEntries [("steps", .arr values)]))
      = some [some (.arr values)] := rfl
  refine ⟨_, hvalue, ?_⟩
  rw [ofRecord?, hrecord]
  change (values.mapM Step.ofRecord?).map Session.mk = _
  rw [hread]
  rfl

end Session

end Decisioning
