import Decisioning.CommandLine.Run
import Decisioning.Proofs.Checks
import Decisioning.Proofs.Directory
import Decisioning.Proofs.JsonText
import Decisioning.Proofs.Reading
import Decisioning.Proofs.SoundRules
import Decisioning.Proofs.SurfaceContents

/-!
# Accepted Payloads

Why nothing is lost of a payload that was found well formed.

The checks and the readers know nothing of each other. The readers are tolerant:
whatever they cannot use they leave out, and say nothing. The checks say what is
wrong, and use nothing. For the two to agree, each reader has to find what it
needs in every value that passes the check of its level, and this is shown level
by level, from the consequences of rules up to the payload. Optional parts need no
check, and checks that no reader depends on are not used here.

Two losses remain, both of consequences of rules, whose data the checks do not
look into. A consequence with a schema that no engine runs is dropped, and so is
one without data that its category carries. `Consequence.IsUnusable` is these two,
and a consequence that is dropped is always one of them.

## Main definitions

* `Consequence.IsUnusable`: What no engine can use.
* `Rule.CompilesInFull`: A document of which only unusable consequences are dropped.
* `Consequence.IsReadFrom`, `Item.IsReadFrom`, `Proposition.IsReadFrom`: Whatever is
  written was read.
* `Item.IsUsedInFull`: The content of an item is used.

## Theorems

* `Rule.compilesInFull_of_check`, `Item.isUsedInFull_of_check`,
  `Proposition.exists_read_of_check`: What passing the checks of a level gives.
* `Proposition.forall₂_ofPayload`: A well-formed payload is read entry by entry.
* `BatchImage.mem_codeBased_ofBatch`: Content that is used puts its proposition where
  it is looked for.
* `CommandLine.validate_eq_ok_iff`: Which files are accepted.
* `CommandLine.accepted_payload_loses_nothing`: All of an accepted payload is used.
-/

namespace Decisioning

theorem ContentSchema.eq_uri_of_classify {declared : String} {schema : ContentSchema}
    (h : classify declared = schema) (hknown : schema ≠ .unknown) : declared = schema.uri := by
  unfold classify at h
  cases hfind : all.find? fun schema => schema ≠ .unknown && schema.uri = declared with
  | none =>
      rw [hfind] at h
      exact absurd h.symm hknown
  | some found =>
      rw [hfind, Option.getD_some] at h
      have hmatches := List.find?_some hfind
      rw [Bool.and_eq_true, decide_eq_true_eq] at hmatches
      rw [← h, of_decide_eq_true hmatches.2]

/-- What is read value by value stands in the order of the values, one for each of
    them if each of them can be read. -/
theorem forall₂_filterMap {α β : Type} {read : α → Option β} {r : α → β → Prop} {values : List α}
    (h : ∀ value ∈ values, ∃ b, read value = some b ∧ r value b) :
    List.Forall₂ r values (values.filterMap read) := by
  induction values with
  | nil => exact .nil
  | cons value rest ih =>
      rcases h value List.mem_cons_self with ⟨b, hb, hr⟩
      rw [List.filterMap_cons_some hb]
      exact .cons hr (ih fun later hlater => h later (List.mem_cons_of_mem _ hlater))

namespace Consequence

/-- No engine can use a consequence: none runs its schema, or it has no data of the
    kind that its category carries. All consequences of the legacy type are used. -/
def IsUnusable (c : Consequence) : Prop :=
  c.type ≠ legacyInAppType
    ∧ (RuleCategory.ofSchema? c.schema = none
      ∨ ∃ category, RuleCategory.ofSchema? c.schema = some category
        ∧ ¬∃ data, c.data? = some data ∧ category.accepts data = true)

theorem isUnusable_of_category? {c : Consequence} (h : c.category? = none) : c.IsUnusable := by
  have hnone : ∀ category, c.category? ≠ some category := by
    intro category hsome
    rw [h] at hsome
    exact absurd hsome (by simp only [reduceCtorEq, not_false_eq_true])
  have htype : c.type ≠ legacyInAppType := by
    intro hlegacy
    exact hnone .inApp ((c.category?_eq_some_iff .inApp).mpr (by rw [if_pos hlegacy]))
  refine ⟨htype, ?_⟩
  -- With a category for the schema, only the data can be missing.
  cases hschema : RuleCategory.ofSchema? c.schema with
  | none => exact .inl rfl
  | some category =>
      refine .inr ⟨category, rfl, fun hdata => hnone category ?_⟩
      rw [category?_eq_some_iff, if_neg htype]
      exact ⟨hschema, hdata⟩

/-- A consequence has what is written in a value. -/
structure IsReadFrom (value : Json) (c : Consequence) : Prop where
  id : value.get? "id" = some (.str c.id)
  type : value.get? "type" = some (.str c.type)
  detail : value.get? "detail" = some c.detail

theorem exists_read_of_check {value : Json} (h : Check.consequence value = []) :
    ∃ c, decode? value = some c ∧ c.IsReadFrom value := by
  simp only [Check.consequence, Check.all_cons_eq_nil_iff, Check.all_nil, and_true] at h
  obtain ⟨hdetail, hid, htype, hidThere, htypeThere, hdetailThere, hobject⟩ := h
  have hobject := Check.isObject_of_kind hobject
  rcases Check.exists_str_of_required hobject hidThere hid with ⟨id, hid⟩
  rcases Check.exists_str_of_required hobject htypeThere htype with ⟨type, htype⟩
  rcases Check.exists_of_required hobject hdetailThere hdetail with ⟨detail, hdetail, hparts⟩
  simp only [Check.all_cons_eq_nil_iff, Check.all_nil, and_true] at hparts
  have hdetailObject : detail.isObject = true := Check.isObject_of_kind hparts.2.2.2
  -- The reader has a type for those without, but here it is required as well.
  refine ⟨{ id, type, detail }, ?_, hid, htype, hdetail⟩
  rw [decode?, Json.string?_eq_some_iff.mpr hid, hdetail, Option.filter_some, if_pos hdetailObject,
    Json.string?_eq_some_iff.mpr htype]
  rfl

end Consequence

namespace Rule

/-- All of a document is compiled. Its consequences are read one by one, with all that
    is written in them, each of them becomes the rule of the document's condition and
    that consequence, in their order, and those that become none are of no use to any
    engine. -/
def CompilesInFull (document : Json) : Prop :=
  ∃ condition values consequences,
    document.get? "condition" = some condition
      ∧ document.array? "consequences" = some values
      ∧ List.Forall₂ (fun value c => Consequence.decode? value = some c ∧ c.IsReadFrom value)
          values consequences
      ∧ compileDocument document = consequences.filterMap (fun c =>
          c.category?.map fun category => { condition, consequence := c, category })
      ∧ ∀ c ∈ consequences, c.category? = none → c.IsUnusable

theorem compilesInFull_of_check {document : Json} (h : Check.rule document = []) :
    CompilesInFull document := by
  simp only [Check.rule, Check.all_cons_eq_nil_iff, Check.all_nil, and_true] at h
  obtain ⟨hcondition, hconsequences, hconditionThere, hconsequencesThere, hobject⟩ := h
  have hobject := Check.isObject_of_kind hobject
  rcases Check.exists_of_required hobject hconditionThere hcondition with
    ⟨condition, hcondition, hkind⟩
  rcases Check.exists_of_required hobject hconsequencesThere hconsequences with
    ⟨found, hfound, hparts⟩
  rcases Check.exists_arr_of_items hparts with ⟨values, rfl, heach⟩
  have hvalues : document.array? "consequences" = some values := Json.array?_eq_some_iff.mpr hfound
  have hread : List.Forall₂
      (fun value c => Consequence.decode? value = some c ∧ c.IsReadFrom value) values
      (values.filterMap Consequence.decode?) := by
    apply forall₂_filterMap
    intro value hvalue
    rcases Consequence.exists_read_of_check (heach value hvalue) with ⟨c, hc, hwritten⟩
    exact ⟨c, hc, hc, hwritten⟩
  have hcompiled : compileDocument document = values.filterMap (ofConsequence? condition) := by
    rw [compileDocument, hcondition, hvalues, Option.filter_some,
      if_pos (Check.isObject_of_kind hkind)]
  refine ⟨condition, values, values.filterMap Consequence.decode?, hcondition, hvalues, hread, ?_,
    fun c _ hc => Consequence.isUnusable_of_category? hc⟩
  rw [hcompiled, List.filterMap_filterMap]
  -- Reading a consequence and making the rule of it are two steps of one reader.
  apply List.filterMap_congr
  intro value _
  unfold ofConsequence?
  cases Consequence.decode? value with
  | none => rfl
  | some c => exact Option.map_eq_bind.symm

end Rule

namespace Item

/-- An item of a proposition has what is written in a value, and of the schema that
    is declared there it has the kind. -/
structure IsReadFrom (owner : String) (value : Json) (item : Item) : Prop where
  id : value.get? "id" = some (.str item.id)
  schema : ∃ declared, value.get? "schema" = some (.str declared)
    ∧ item.schema = .classify declared
  data : value.get? "data" = some item.data ∨ value.get? "data" = none ∧ item.data = .null
  owner : item.owner = some owner

/-- The content of an item is used. Content that is used as it is can be read. The
    rules of a ruleset are those of its documents, one document after another, and
    all of each document is compiled. -/
structure IsUsedInFull (item : Item) : Prop where
  html : item.schema = .htmlContent → (HtmlContent.ofItem? item).isSome = true
  json : item.schema = .jsonContent → (JsonContent.ofItem? item).isSome = true
  ruleset : item.schema = .ruleset → ∀ rules, item.data.get? "rules" = some rules →
    ∃ documents, rules = .arr documents
      ∧ Rule.compileItem item = documents.flatMap Rule.compileDocument
      ∧ ∀ document ∈ documents, Rule.CompilesInFull document

theorem exists_read_of_check {value : Json} (h : Check.item value = []) (owner : String) :
    ∃ item, decode? value = some item ∧ IsReadFrom owner value (item.attach owner) := by
  simp only [Check.item, Check.all_cons_eq_nil_iff, Check.all_nil, and_true] at h
  obtain ⟨-, -, -, -, hid, hschema, hidThere, hschemaThere, hobject⟩ := h
  have hobject := Check.isObject_of_kind hobject
  rcases Check.exists_text_of_required hobject hidThere hid with ⟨id, hid⟩
  rcases Check.exists_str_of_required hobject hschemaThere hschema with ⟨declared, hdeclared⟩
  refine ⟨unowned id (.classify declared) (Json.ofOption (value.get? "data")), ?_, hid,
    ⟨declared, hdeclared, rfl⟩, ?_, rfl⟩
  · rw [decode?, Json.string?_eq_some_iff.mpr hid, Json.string?_eq_some_iff.mpr hdeclared]
    rfl
  · change value.get? "data" = some (Json.ofOption (value.get? "data"))
      ∨ value.get? "data" = none ∧ Json.ofOption (value.get? "data") = .null
    cases value.get? "data" with
    | none => exact .inr ⟨rfl, rfl⟩
    | some data => exact .inl rfl

variable {owner : String} {value : Json} {item : Item}

/-- A schema that is known was declared by its URI. -/
theorem IsReadFrom.get?_schema (h : IsReadFrom owner value item) {schema : ContentSchema}
    (hschema : item.schema = schema) (hknown : schema ≠ .unknown) :
    value.get? "schema" = some (.str schema.uri) := by
  rcases h.schema with ⟨declared, hdeclared, hclass⟩
  rw [hdeclared, ContentSchema.eq_uri_of_classify (hclass.symm.trans hschema) hknown]

/-- Where data is required, the item has the content that it is required to have. -/
theorem IsReadFrom.exists_content (h : IsReadFrom owner value item) (hobject : value.isObject = true)
    {first : Kind} {others : List Kind}
    (hcheck : Check.all [.field "data" (.content first others), .required "data"] value = []) :
    ∃ content, item.data.get? "content" = some content
      ∧ ∃ kind ∈ first :: others, kind.holds content = true := by
  simp only [Check.all_cons_eq_nil_iff, Check.all_nil, and_true] at hcheck
  rcases Check.exists_of_required hobject hcheck.2 hcheck.1 with ⟨data, hdata, hparts⟩
  have hsame : item.data = data := by
    rcases h.data with hitem | ⟨hnone, -⟩
    · exact Option.some.inj (hitem.symm.trans hdata)
    · exact absurd (hnone.symm.trans hdata) (by simp only [reduceCtorEq, not_false_eq_true])
  simp only [Check.content, Check.all_cons_eq_nil_iff, Check.all_nil, and_true] at hparts
  obtain ⟨hcontent, -, hcontentThere, hdataObject⟩ := hparts
  rcases Check.exists_of_required (Check.isObject_of_kind hdataObject) hcontentThere hcontent with
    ⟨content, hcontent, hkind⟩
  exact ⟨content, hsame ▸ hcontent, (Check.kind_eq_nil_iff first others).mp hkind⟩

/-- Where data has to be a ruleset, the rules that there are can be compiled. -/
theorem IsReadFrom.exists_documents (h : IsReadFrom owner value item)
    (hcheck : Check.field "data" Check.ruleset value = []) {rules : Json}
    (hrules : item.data.get? "rules" = some rules) :
    ∃ documents, rules = .arr documents
      ∧ ∀ document ∈ documents, Rule.CompilesInFull document := by
  have hdata : value.get? "data" = some item.data := by
    rcases h.data with hitem | ⟨-, hnull⟩
    · exact hitem
    · -- There are no rules in the data that stands for no data.
      rw [hnull] at hrules
      exact absurd hrules (by simp only [Json.get?, reduceCtorEq, not_false_eq_true])
  have hparts := Check.field_eq_nil_iff.mp hcheck item.data hdata
  simp only [Check.ruleset, Check.all_cons_eq_nil_iff, Check.all_nil, and_true] at hparts
  have hlist := Check.field_eq_nil_iff.mp hparts.1 rules hrules
  rcases Check.exists_arr_of_items hlist with ⟨documents, rfl, heach⟩
  exact ⟨documents, rfl, fun document hdocument =>
    Rule.compilesInFull_of_check (heach document hdocument)⟩

theorem isUsedInFull_of_check (hcheck : Check.item value = []) (h : IsReadFrom owner value item) :
    item.IsUsedInFull := by
  simp only [Check.item, Check.all_cons_eq_nil_iff, Check.all_nil, and_true] at hcheck
  obtain ⟨hruleset, hhtml, hjson, -, -, -, -, -, hobject⟩ := hcheck
  have hobject := Check.isObject_of_kind hobject
  constructor
  case html =>
    intro hschema
    have hdeclared := h.get?_schema hschema (by decide)
    rw [Check.whenField_of_get? hdeclared] at hhtml
    rcases h.exists_content hobject hhtml with ⟨content, hcontent, kind, hkind, hholds⟩
    rw [List.mem_singleton.mp hkind] at hholds
    rw [isSome_htmlContent hschema, hcontent, Option.any_some]
    exact hholds
  case json =>
    -- The kinds that the check allows are those that the reader allows.
    intro hschema
    have hdeclared := h.get?_schema hschema (by decide)
    rw [Check.whenField_of_get? hdeclared] at hjson
    rcases h.exists_content hobject hjson with ⟨content, hcontent, kind, hkind, hholds⟩
    rw [isSome_jsonContent hschema, hcontent, Option.any_some, Bool.or_eq_true]
    rcases List.mem_cons.mp hkind with rfl | hkind
    · exact .inr hholds
    · rw [List.mem_singleton.mp hkind] at hholds
      exact .inl hholds
  case ruleset =>
    intro hschema rules hrules
    have hdeclared := h.get?_schema hschema (by decide)
    rw [Check.whenField_of_get? hdeclared] at hruleset
    rcases h.exists_documents hruleset hrules with ⟨documents, rfl, hcompiled⟩
    refine ⟨documents, rfl, ?_, hcompiled⟩
    rw [Rule.compileItem, RulesetDocument.ofItem?, if_pos hschema,
      Json.array?_eq_some_iff.mpr hrules]
    -- The reader of the ruleset passes the documents on as they are.
    change Rule.compile documents = _
    rw [Rule.compile]

end Item

namespace Header

/-- Details that pass their check are an object or missing. The readers would also take
    null for missing details, but the check does not. -/
theorem exists_details_of_check {value : Json}
    (h : Check.field "scopeDetails" Check.scopeDetails value = []) :
    ∃ details, value.get? "scopeDetails" = some (.obj details)
      ∨ value.get? "scopeDetails" = none ∧ details = [] := by
  cases hfound : value.get? "scopeDetails" with
  | none => exact ⟨[], .inr ⟨rfl, rfl⟩⟩
  | some found =>
      have hparts := Check.field_eq_nil_iff.mp h found hfound
      simp only [Check.scopeDetails, Check.all_cons_eq_nil_iff, Check.all_nil, and_true] at hparts
      have hobject := Check.isObject_of_kind hparts.2.2.2.2.2
      cases found with
      | obj fields => exact ⟨fields, .inl rfl⟩
      | _ => exact absurd hobject Bool.false_ne_true

theorem exists_isReadFrom_of_check {value : Json} (h : Check.proposition value = []) :
    ∃ header : Header, header.IsReadFrom value
      ∧ (value.get? "scopeDetails" = some (.obj header.scopeDetails)
        ∨ value.get? "scopeDetails" = none ∧ header.scopeDetails = [])
      ∧ ∀ item ∈ header.items, Check.item item = [] := by
  simp only [Check.proposition, Check.all_cons_eq_nil_iff, Check.all_nil, and_true] at h
  obtain ⟨hid, hitems, hscope, hdetails, hidThere, hscopeThere, hitemsThere, hobject⟩ := h
  have hobject := Check.isObject_of_kind hobject
  rcases Check.exists_text_of_required hobject hidThere hid with ⟨id, hid⟩
  rcases Check.exists_text_of_required hobject hscopeThere hscope with ⟨scope, hscope⟩
  rcases Check.exists_of_required hobject hitemsThere hitems with ⟨found, hitems, hparts⟩
  rcases Check.exists_arr_of_items hparts with ⟨values, rfl, heach⟩
  rcases exists_details_of_check hdetails with ⟨scopeDetails, hwritten⟩
  have hread : IsReadFrom value { id, scope, scopeDetails, items := values } :=
    ⟨hid, hscope, hwritten.imp_right fun hmissing => ⟨.inl hmissing.1, hmissing.2⟩, hitems⟩
  exact ⟨_, hread, hwritten, heach⟩

end Header

namespace Proposition

/-- A proposition has all that is written in a value, and all of the items. -/
structure IsReadFrom (value : Json) (p : Proposition) : Prop where
  id : value.get? "id" = some (.str p.id)
  scope : value.get? "scope" = some (.str p.scope)
  scopeDetails : value.get? "scopeDetails" = some (.obj p.scopeDetails)
    ∨ value.get? "scopeDetails" = none ∧ p.scopeDetails = []
  items : ∃ values, value.get? "items" = some (.arr values)
    ∧ List.Forall₂ (Item.IsReadFrom p.id) values p.items

/-- A proposition that passes its check is read, and in both readings alike. It has
    all that is written, and its items are used. -/
theorem exists_read_of_check {value : Json} (h : Check.proposition value = []) :
    ∃ p, decode value = .ok p ∧ decodeTolerant? value = some p ∧ p.IsReadFrom value
      ∧ ∀ item ∈ p.items, item.IsUsedInFull := by
  rcases Header.exists_isReadFrom_of_check h with ⟨header, hheader, hdetails, heach⟩
  have hids : ∀ itemValue ∈ header.items, Item.hasId itemValue = true := by
    intro itemValue hmem
    rcases Item.exists_read_of_check (heach itemValue hmem) header.id with ⟨item, hitem, _⟩
    exact Item.exists_decode?_iff.mp ⟨item, hitem⟩
  -- The strict reading has no fault to report, so it skips nothing either.
  refine ⟨ofHeader header, decode_eq_ok hheader hids,
    decodeTolerant?_eq_some_iff.mpr ⟨header, hheader, rfl⟩,
    ⟨hheader.id, hheader.scope, hdetails, header.items, hheader.items, ?_⟩, ?_⟩
  · -- An item is linked as soon as it is read.
    rw [ofHeader, build, List.map_filterMap]
    apply forall₂_filterMap
    intro itemValue hmem
    rcases Item.exists_read_of_check (heach itemValue hmem) header.id with ⟨item, hitem, hread⟩
    exact ⟨item.attach header.id, by rw [hitem, Option.map_some], hread⟩
  · intro linked hlinked
    rcases List.mem_map.mp hlinked with ⟨item, hitem, rfl⟩
    rcases List.mem_filterMap.mp hitem with ⟨itemValue, hmem, hdecode⟩
    rcases Item.exists_read_of_check (heach itemValue hmem) header.id with ⟨other, hother, hread⟩
    rw [Option.some.inj (hdecode.symm.trans hother)]
    exact Item.isUsedInFull_of_check (heach itemValue hmem) hread

/-- All entries of a well-formed payload are read, one after another. -/
theorem forall₂_ofPayload {document : Json} (h : IsWellFormedPayload document) :
    ∃ entries, document = .arr entries
      ∧ List.Forall₂ (fun entry p => decode entry = .ok p ∧ p.IsReadFrom entry) entries
          (ofPayload document)
      ∧ ∀ p ∈ ofPayload document, ∀ item ∈ p.items, item.IsUsedInFull := by
  rcases Check.exists_arr_of_items h with ⟨entries, rfl, heach⟩
  refine ⟨entries, rfl, forall₂_filterMap fun entry hentry => ?_, ?_⟩
  · rcases exists_read_of_check (heach entry hentry) with ⟨p, hdecode, htolerant, hread, _⟩
    exact ⟨p, htolerant, hdecode, hread⟩
  · intro p hp
    rcases List.mem_filterMap.mp hp with ⟨entry, hentry, hdecode⟩
    rcases exists_read_of_check (heach entry hentry) with ⟨other, _, htolerant, _, hused⟩
    rw [Option.some.inj (hdecode.symm.trans htolerant)]
    exact hused

end Proposition

/-- A proposition with html or json content that can be read is among the content
    that is used as it is, at its surface in all batches that it is in. -/
theorem BatchImage.mem_codeBased_ofBatch {propositions : List Proposition} {p : Proposition}
    (hp : p ∈ propositions) {item : Item} (hitem : item ∈ p.items) (hused : item.IsUsedInFull)
    (hschema : item.schema = .htmlContent ∨ item.schema = .jsonContent)
    {requested : SurfaceSet} (hrequested : requested.contains p.surface = true) :
    p ∈ (ofBatch propositions requested).codeBased.get p.surface := by
  have hasks : item.asksFor .codeBased = true := by
    rcases hschema with hhtml | hjson
    · have hcontent := hused.html hhtml
      rw [Item.isSome_htmlContent hhtml] at hcontent
      simp only [Item.asksFor, hhtml, hcontent, reduceCtorEq, decide_false, decide_true,
        Bool.false_or, Bool.and_self, Bool.true_or]
    · have hcontent := hused.json hjson
      rw [Item.isSome_jsonContent hjson] at hcontent
      simp only [Item.asksFor, hjson, hcontent, decide_true, Bool.and_self, Bool.or_true]
  change p ∈ ((ofBatch propositions requested).store .codeBased).get p.surface
  rw [get_store_ofBatch, if_pos hrequested, List.mem_filter, Placement.belongs_ofProposition]
  exact ⟨mem_rankedAt.mpr ⟨hp, rfl⟩, List.any_eq_true.mpr ⟨item, hitem, hasks⟩⟩

namespace CommandLine

variable {σ : Type} (world : World (StateM σ)) (file : String) (c : σ)

theorem readJson_run {text : String} {after : σ} {document : Json}
    (hread : (world.readText file).run c = (.ok text, after))
    (htext : Json.ofText? text = some document) :
    ((readJson world file).run c).1 = .ok document := by
  rw [readJson, run_bind_of_run hread]
  simp only [htext]
  rfl

/-- A file is accepted if it holds a well-formed payload. -/
theorem validate_eq_ok_iff (response : Response) :
    ((validate world file).run c).1 = .ok response
      ↔ response = .wellFormed
        ∧ ∃ document, ((readJson world file).run c).1 = .ok document
          ∧ IsWellFormedPayload document := by
  rcases hread : (readJson world file).run c with ⟨result, after⟩
  rw [validate, run_bind_of_run hread]
  cases result with
  | error failure =>
      change Except.error failure = Except.ok response ↔ _
      refine iff_of_false (by simp only [reduceCtorEq, not_false_eq_true]) ?_
      rintro ⟨_, document, h, _⟩
      exact absurd h (by simp only [reduceCtorEq, not_false_eq_true])
  | ok document =>
      unfold IsWellFormedPayload
      cases hcheck : Check.payload document with
      | nil =>
          simp only [hcheck]
          change Except.ok Response.wellFormed = Except.ok response ↔ _
          rw [Except.ok.injEq]
          constructor
          · rintro rfl
            exact ⟨rfl, document, rfl, hcheck⟩
          · exact fun h => h.1.symm
      | cons violation rest =>
          -- The file has one value, and that one does not pass.
          simp only [hcheck]
          change Except.error (Failure.invalidPayload (violation :: rest)) = Except.ok response ↔ _
          refine iff_of_false (by simp only [reduceCtorEq, not_false_eq_true]) ?_
          rintro ⟨_, other, hother, hpasses⟩
          rw [← Except.ok.inj hother, hcheck] at hpasses
          exact absurd hpasses (List.cons_ne_nil _ _)

/-- Nothing is lost of a payload in a file that was accepted. The file holds an array.
    The strict reading succeeds on each of its entries, and the tolerant reading gives
    the same propositions in the same order, each with all of its entry's items in
    order and with everything that is written in them. All html and json content can
    be read, and puts its proposition among the content that is used as it is,
    whenever its surface is requested. And of the rules in a ruleset, which are an
    array if there are any, all are compiled, one after another: each has a condition
    and consequences, of which one is only dropped if it is of no use to any engine. -/
theorem accepted_payload_loses_nothing {response : Response}
    (h : ((validate world file).run c).1 = .ok response) :
    ∃ document entries, ((readJson world file).run c).1 = .ok document ∧ document = .arr entries
      ∧ List.Forall₂ (fun entry p => Proposition.decode entry = .ok p ∧ p.IsReadFrom entry)
          entries (Proposition.ofPayload document)
      ∧ ∀ p ∈ Proposition.ofPayload document, ∀ item ∈ p.items, item.IsUsedInFull
        ∧ (item.schema = .htmlContent ∨ item.schema = .jsonContent →
            ∀ requested : SurfaceSet, requested.contains p.surface = true →
              p ∈ (BatchImage.ofBatch (Proposition.ofPayload document) requested).codeBased.get
                p.surface) := by
  rcases (validate_eq_ok_iff world file c response).mp h with ⟨_, document, hread, hpasses⟩
  rcases Proposition.forall₂_ofPayload hpasses with ⟨entries, hentries, hall, hused⟩
  refine ⟨document, entries, hread, hentries, hall, ?_⟩
  intro p hp item hitem
  exact ⟨hused p hp item hitem, fun hschema requested hrequested =>
    BatchImage.mem_codeBased_ofBatch hp hitem (hused p hp item hitem) hschema hrequested⟩

/-- A page and a ruleset are accepted. No engine runs the first consequence, but there
    is a rule for the second one. -/
theorem page_and_ruleset_accepted :
    let document : Json := .arr [.obj [
      ("id", .str "p"),
      ("items", .arr [
        .obj [
          ("data", .obj [("content", .str "<p/>")]),
          ("id", .str "page"),
          ("schema", .str ContentSchema.htmlContent.uri)],
        .obj [
          ("data", .obj [("rules", .arr [.obj [
            ("condition", .obj []),
            ("consequences", .arr [
              .obj [("detail", .obj []), ("id", .str "alert"), ("type", .str schemaType)],
              .obj [
                ("detail", .obj [
                  ("data", .obj [("content", .str "<p/>"), ("contentType", .str "text/html")]),
                  ("schema", .str ContentSchema.inApp.uri)]),
                ("id", .str "message"),
                ("type", .str schemaType)]])]])]),
          ("id", .str "rules"),
          ("schema", .str ContentSchema.ruleset.uri)]]),
      ("scope", .str "mobileapp://app")]]
    let world : World (StateM FileTree) :=
      { FileTree.world 0 toString with readText := fun _ => return .ok document.compact }
    ((validate world "payload.json").run default).1 = .ok .wellFormed
      ∧ (Proposition.ofPayload document).map (fun p => p.items.length) = [2]
      ∧ (Proposition.ofPayload document).map (fun p =>
          (p.items.flatMap Rule.compileItem).map Rule.id) = [["message"]]
      ∧ ∀ p ∈ Proposition.ofPayload document, ∀ item ∈ p.items, item.IsUsedInFull := by
  intro document world
  have hcanonical : document.IsCanonical := by
    simp only [document, Json.IsCanonical, Json.AllCanonical, Json.FieldsCanonical, and_true,
      true_and]
    decide +kernel
  have htext : Json.ofText? document.compact = some document :=
    Json.ofText?_compact hcanonical (by simp only [document, Json.HasWords, Json.AllHaveWords,
      Json.FieldsHaveWords, and_self]) (by decide +kernel)
  have hread : ((readJson world "payload.json").run default).1 = .ok document :=
    readJson_run world _ _ rfl htext
  have hpasses : IsWellFormedPayload document := by decide +kernel
  have haccepted : ((validate world "payload.json").run default).1 = .ok .wellFormed :=
    (validate_eq_ok_iff world _ _ _).mpr ⟨rfl, document, hread, hpasses⟩
  rcases accepted_payload_loses_nothing world _ _ haccepted with
    ⟨found, _, hfound, _, _, hused⟩
  have hsame : document = found := Except.ok.inj (hread.symm.trans hfound)
  refine ⟨haccepted, rfl, by decide +kernel, ?_⟩
  rw [hsame]
  exact fun p hp item hitem => (hused p hp item hitem).1

end CommandLine

end Decisioning
