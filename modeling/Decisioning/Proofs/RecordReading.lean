import Mathlib.Data.List.Forall2
import Decisioning.Proofs.Reading

/-!
# Propositions in Both Forms

Why a proposition is the same, whether it is read from a payload or as a record.

The two readers were made for different ends and differ in what they take. Only
records can be arrays, or leave out their items; only entries of payloads can have null
for their details, or items without a schema. Neither difference leaves room for two
results. What the strict reading takes is an object with a list of items, and each of
them is an object with an id. The reading of records finds the same fields there, and
where it takes the schema and the details as well, they mean the same to both.

What the library writes down has all fields, and each in the form that both readers
take, so both give it back. Only the links of the items are not written. They can be
restored as they point to the proposition itself in everything that was read.

## Theorems

* `mapM_eq_some_iff`: Reading value by value.
* `Item.decode?_of_ofRecord?`: Items that both readers take.
* `Proposition.ofRecord?_obj_eq_some_iff`: The record reading of an object.
* `Proposition.decode_and_record_agree`: The two readers agree.
-/

namespace Decisioning

theorem mapM_eq_some_iff {α β : Type} {read? : α → Option β} {values : List α} {read : List β} :
    values.mapM read? = some read
      ↔ List.Forall₂ (fun value b => read? value = some b) values read := by
  induction values generalizing read with
  | nil =>
      rw [List.mapM_nil, List.forall₂_nil_left_iff]
      simp only [pure, Option.some.injEq, eq_comm]
  | cons value rest ih =>
      simp only [List.mapM_cons, List.forall₂_cons_left_iff, ← ih, bind, pure,
        Option.bind_eq_some_iff, Option.some.injEq]
      constructor
      · rintro ⟨b, hb, others, hothers, rfl⟩
        exact ⟨b, others, hb, hothers, rfl⟩
      · rintro ⟨b, others, hb, hothers, rfl⟩
        exact ⟨b, hb, others, hothers, rfl⟩

theorem filterMap_of_forall₂ {α β : Type} {read? : α → Option β} {values : List α} {read : List β}
    (h : List.Forall₂ (fun value b => read? value = some b) values read) :
    values.filterMap read? = read := by
  induction h with
  | nil => rfl
  | cons hvalue _ ih => rw [List.filterMap_cons_some hvalue, ih]

theorem asString?_eq_some_iff {value : Json} {text : String} :
    value.asString? = some text ↔ value = .str text := by
  cases value <;> simp only [Json.asString?, reduceCtorEq, Option.some.injEq, Json.str.injEq]

theorem required_asString?_eq_some_iff {field : Option Json} {text : String} :
    required Json.asString? field = some text ↔ field = some (.str text) := by
  simp only [required, Option.bind_eq_some_iff, asString?_eq_some_iff, exists_eq_right]

/-- The details of a record may be missing, and nothing else. -/
theorem orDefault_asObject?_eq_some_iff {field : Option Json} {details : Fields} :
    orDefault [] Json.asObject? field = some details
      ↔ field = some (.obj details) ∨ field = none ∧ details = [] := by
  rcases field with _ | (_ | _ | _ | _ | _ | fields) <;>
    simp only [orDefault, Json.asObject?, Option.some.injEq, Json.obj.injEq, reduceCtorEq,
      true_and, false_and, false_or, or_false, eq_comm]

namespace Item

theorem ofRecord?_obj_eq_some_iff {fields : Fields} {item : Item} :
    ofRecord? (.obj fields) = some item ↔ ∃ id declared,
      lookup? "id" fields = some (.str id) ∧ lookup? "schema" fields = some (.str declared)
        ∧ unowned id (.classify declared) (Json.ofOption (lookup? "data" fields)) = item := by
  simp only [ofRecord?, Json.record?, List.map_cons, List.map_nil, bind, pure,
    Option.bind_some, Option.bind_eq_some_iff, required_asString?_eq_some_iff, Option.some.injEq]
  constructor
  · rintro ⟨id, hid, declared, hdeclared, rfl⟩
    exact ⟨id, declared, hid, hdeclared, rfl⟩
  · rintro ⟨id, declared, hid, hdeclared, rfl⟩
    exact ⟨id, hid, declared, hdeclared, rfl⟩

/-- An item that the record reading takes is the same in a payload, if it has its id
    there. -/
theorem decode?_of_ofRecord? {value : Json} {item : Item} (hid : hasId value = true)
    (h : ofRecord? value = some item) : decode? value = some item := by
  rcases Option.isSome_iff_exists.mp hid with ⟨id, hid⟩
  rcases Json.exists_obj_of_get? (Json.string?_eq_some_iff.mp hid) with ⟨fields, rfl, _⟩
  rcases ofRecord?_obj_eq_some_iff.mp h with ⟨other, declared, hother, hdeclared, rfl⟩
  have hread : (Json.obj fields).string? "id" = some other := Json.string?_eq_some_iff.mpr hother
  have hschema : (Json.obj fields).string? "schema" = some declared :=
    Json.string?_eq_some_iff.mpr hdeclared
  rw [decode?, hread, hschema]
  rfl

/-- An item that is written can be read as a record. It comes back without its owner. -/
theorem ofRecord?_toJson (item : Item) :
    ofRecord? item.toJson = some (unowned item.id item.schema item.data) := by
  rw [toJson, ofRecord?_obj_eq_some_iff]
  exact ⟨item.id, item.schema.uri, rfl, rfl, by rw [ContentSchema.classify_uri]; rfl⟩

end Item

namespace Proposition

theorem ofRecord?_obj_eq_some_iff {fields : Fields} {p : Proposition} :
    ofRecord? (.obj fields) = some p ↔ ∃ id scope details items,
      lookup? "id" fields = some (.str id) ∧ lookup? "scope" fields = some (.str scope)
        ∧ (lookup? "scopeDetails" fields = some (.obj details)
          ∨ lookup? "scopeDetails" fields = none ∧ details = [])
        ∧ orDefault [] (Json.listOf? Item.ofRecord?) (lookup? "items" fields) = some items
        ∧ build id scope details items = p := by
  simp only [ofRecord?, Json.record?, List.map_cons, List.map_nil, bind, pure,
    Option.bind_some, Option.bind_eq_some_iff, required_asString?_eq_some_iff,
    orDefault_asObject?_eq_some_iff, Option.some.injEq]
  constructor
  · rintro ⟨id, hid, scope, hscope, details, hdetails, items, hitems, rfl⟩
    exact ⟨id, scope, details, items, hid, hscope, hdetails, hitems, rfl⟩
  · rintro ⟨id, scope, details, items, hid, hscope, hdetails, hitems, rfl⟩
    exact ⟨id, hid, scope, hscope, details, hdetails, items, hitems, rfl⟩

/-- The two readings of items agree if all of them are objects with an id. -/
theorem filterMap_decode?_of_listOf? {values : List Json} {items : List Item}
    (hid : ∀ value ∈ values, Item.hasId value = true)
    (h : Json.listOf? Item.ofRecord? (.arr values) = some items) :
    values.filterMap Item.decode? = items := by
  have heach := (List.forall₂_and_left _ _).mpr ⟨hid, mapM_eq_some_iff.mp h⟩
  exact filterMap_of_forall₂
    (heach.imp fun _ _ hvalue => Item.decode?_of_ofRecord? hvalue.1 hvalue.2)

/-- A record of a header that was read from the same object. -/
theorem eq_ofHeader_of_ofRecord? {value : Json} {header : Header} {q : Proposition}
    (hread : header.IsReadFrom value) (hid : ∀ item ∈ header.items, Item.hasId item = true)
    (h : ofRecord? value = some q) : q = ofHeader header := by
  -- A value with fields is an object, so the record is not read from an array.
  rcases Json.exists_obj_of_get? hread.id with ⟨fields, rfl, _⟩
  rcases ofRecord?_obj_eq_some_iff.mp h with
    ⟨id, scope, details, items, hidField, hscope, hdetails, hitems, rfl⟩
  have hsameId : id = header.id := by
    rw [← Json.str.injEq, ← Option.some.injEq, ← hidField]
    exact hread.id
  have hsameScope : scope = header.scope := by
    rw [← Json.str.injEq, ← Option.some.injEq, ← hscope]
    exact hread.scope
  have hsameDetails : details = header.scopeDetails := by
    have hheader := hread.scopeDetails
    change lookup? "scopeDetails" fields = _
      ∨ (lookup? "scopeDetails" fields = none ∨ lookup? "scopeDetails" fields = _) ∧ _ at hheader
    -- The third case of the strict reading, null, is none of the record reading.
    rcases hdetails with hobj | ⟨hnone, rfl⟩
    · simpa only [hobj, Option.some.injEq, Json.obj.injEq, reduceCtorEq, or_self, false_and,
        or_false] using hheader
    · simpa only [hnone, reduceCtorEq, or_false, true_and, false_or, eq_comm] using hheader
  have hsameItems : header.items.filterMap Item.decode? = items := by
    have hfield : lookup? "items" fields = some (.arr header.items) := hread.items
    rw [hfield] at hitems
    exact filterMap_decode?_of_listOf? hid hitems
  rw [ofHeader, hsameId, hsameScope, hsameDetails, hsameItems]

/-- What stands in front of the items of a proposition, with the items as they are
    written. -/
def header (p : Proposition) : Header :=
  { id := p.id, scope := p.scope, scopeDetails := p.scopeDetails,
    items := p.items.map Item.toJson }

theorem isReadFrom_toJson (p : Proposition) : p.header.IsReadFrom p.toJson where
  id := rfl
  scope := rfl
  scopeDetails := .inl rfl
  items := rfl

theorem hasId_of_mem_header {p : Proposition} :
    ∀ item ∈ p.header.items, Item.hasId item = true := by
  intro value hvalue
  rcases List.mem_map.mp hvalue with ⟨item, _, rfl⟩
  rfl

theorem IsLinked.ofHeader_header {p : Proposition} (h : p.IsLinked) : ofHeader p.header = p := by
  change build p.id p.scope p.scopeDetails ((p.items.map Item.toJson).filterMap Item.decode?) = p
  rw [build, h.items_eq]

/-- A linked proposition is read strictly from its written form. -/
theorem IsLinked.decode_toJson {p : Proposition} (h : p.IsLinked) : decode p.toJson = .ok p :=
  decode_eq_ok_iff.mpr ⟨p.header, isReadFrom_toJson p, hasId_of_mem_header, h.ofHeader_header.symm⟩

/-- A linked proposition is recovered from its written form as a record. -/
theorem IsLinked.ofRecord?_toJson {p : Proposition} (h : p.IsLinked) :
    ofRecord? p.toJson = some p := by
  have hitems : Json.listOf? Item.ofRecord? (.arr (p.items.map Item.toJson))
      = some (p.items.map fun item => .unowned item.id item.schema item.data) := by
    rw [Json.listOf?, mapM_eq_some_iff, List.forall₂_map_left_iff, List.forall₂_map_right_iff,
      List.forall₂_same]
    exact fun item _ => Item.ofRecord?_toJson item
  have hread : ofRecord? p.toJson = some (build p.id p.scope p.scopeDetails
      (p.items.map fun item => .unowned item.id item.schema item.data)) :=
    ofRecord?_obj_eq_some_iff.mpr ⟨_, _, _, _, rfl, rfl, .inl rfl, hitems, rfl⟩
  -- The strict reading has the same written form in front of it.
  rw [hread, eq_ofHeader_of_ofRecord? (isReadFrom_toJson p) hasId_of_mem_header hread,
    h.ofHeader_header]

/-- The reading of payloads and the reading of records agree on every value that both
    take, with the links of the items. Both take what the library writes down, and give
    it back: nothing of a proposition that came with a payload is lost. -/
theorem decode_and_record_agree :
    (∀ value p q, decode value = .ok p → ofRecord? value = some q → p = q)
      ∧ ∀ payload, ∀ p ∈ ofPayload payload,
        decode p.toJson = .ok p ∧ ofRecord? p.toJson = some p := by
  constructor
  · intro value p q hdecode hrecord
    rcases decode_eq_ok_iff.mp hdecode with ⟨header, hread, hid, rfl⟩
    exact (eq_ofHeader_of_ofRecord? hread hid hrecord).symm
  · intro payload p hp
    have hlinked := isLinked_of_mem_ofPayload hp
    exact ⟨hlinked.decode_toJson, hlinked.ofRecord?_toJson⟩

/-- An item of unknown kind and without data, which both readers take for the same and
    which is written with the empty schema and with null. -/
theorem item_of_unknown_kind_in_both_forms :
    let value := written (.obj [("rank", .bool true)])
      [.obj [("id", .str "a"), ("schema", .str "custom")]]
    let p := build "p" "app" [("rank", .bool true)] [.unowned "a" .unknown .null]
    (∃ q r, decode value = .ok q ∧ ofRecord? value = some r ∧ q = r)
      ∧ p ∈ ofPayload (.arr [value]) ∧ decode p.toJson = .ok p ∧ ofRecord? p.toJson = some p := by
  intro value p
  have hread : p ∈ ofPayload (.arr [value]) := List.mem_singleton_self _
  exact ⟨⟨p, p, rfl, rfl, decode_and_record_agree.1 value p p rfl rfl⟩, hread,
    decode_and_record_agree.2 _ _ hread⟩

end Proposition

end Decisioning
