import Mathlib.Data.List.Forall2
import Mathlib.Order.Nat
import Decisioning.Proofs.Snapshot
import Decisioning.Proposition.Record

/-!
# Readings of a Payload

Why the strict and the tolerant reading of a payload do not disagree.

Both begin alike: what stands in front of the items has to be well formed for either
of them, which is `Header.IsReadFrom`. Then the strict reading stops at the first item
without an id, and the tolerant one goes on without it. So where the strict reading
succeeds, the tolerant one has skipped nothing, and where it reports an item, the
tolerant one has all the others. Anything else that the strict reading reports is a
fault of the header, which leaves nothing to be read.

## Main definitions

* `Header.IsReadFrom`: What stands in front of the items of a value.
* `Item.IsDecodedFrom`: What an item takes from a value.
* `Proposition.HasReadableItemsOf`: A proposition without the unreadable items.
* `Proposition.faultyPlaces`: Where the items without an id are.

## Theorems

* `Header.decode_eq_ok_iff`, `decode_ne_itemWithoutId`: The header of a value.
* `Proposition.decodeItems_eq_ok`, `decodeItems_eq_error`: The items of a value in the
  strict reading.
* `Proposition.decode_eq_ok_iff`, `decode_eq_error`: The strict reading.
* `Proposition.decodeTolerant?_eq_some_iff`: The tolerant reading.
* `Proposition.strict_and_tolerant_agree`: How they go together.
-/

namespace Decisioning

namespace Json

theorem string?_eq_some_iff {value : Json} {name text : String} :
    value.string? name = some text ↔ value.get? name = some (.str text) := by
  rw [string?]
  cases value.get? name with
  | none => simp only [Option.bind_none, reduceCtorEq]
  | some found =>
      cases found <;> simp only [Option.bind_some, asString?, Option.some.injEq, reduceCtorEq,
        str.injEq]

theorem array?_eq_some_iff {value : Json} {name : String} {values : List Json} :
    value.array? name = some values ↔ value.get? name = some (.arr values) := by
  rw [array?]
  cases value.get? name with
  | none => simp only [Option.bind_none, reduceCtorEq]
  | some found =>
      cases found <;> simp only [Option.bind_some, asArray?, Option.some.injEq, reduceCtorEq,
        arr.injEq]

/-- Only objects have fields. -/
theorem exists_obj_of_get? {value found : Json} {name : String}
    (h : value.get? name = some found) :
    ∃ fields, value = .obj fields ∧ lookup? name fields = some found := by
  cases value with
  | obj fields => exact ⟨fields, rfl, h⟩
  | null | bool _ | num _ | str _ | arr _ => exact absurd h nofun

end Json

section Steps

variable {ε α β : Type}

theorem bind_eq_ok_iff {x : Except ε α} {f : α → Except ε β} {b : β} :
    (x >>= f) = .ok b ↔ ∃ a, x = .ok a ∧ f a = .ok b := by
  cases x with
  | error e => simp only [bind, Except.bind, reduceCtorEq, false_and, exists_false]
  | ok a => simp only [bind, Except.bind, Except.ok.injEq, exists_eq_left']

theorem bind_eq_error_iff {x : Except ε α} {f : α → Except ε β} {e : ε} :
    (x >>= f) = .error e ↔ x = .error e ∨ ∃ a, x = .ok a ∧ f a = .error e := by
  cases x with
  | error d => simp only [bind, Except.bind, Except.error.injEq, reduceCtorEq, false_and,
      exists_false, or_false]
  | ok a => simp only [bind, Except.bind, reduceCtorEq, Except.ok.injEq, exists_eq_left', false_or]

end Steps

/-- A header has what stands in front of the items of a value. Details may be missing
    or null. -/
structure Header.IsReadFrom (value : Json) (header : Header) : Prop where
  id : value.get? "id" = some (.str header.id)
  scope : value.get? "scope" = some (.str header.scope)
  scopeDetails : value.get? "scopeDetails" = some (.obj header.scopeDetails)
    ∨ (value.get? "scopeDetails" = none ∨ value.get? "scopeDetails" = some .null)
      ∧ header.scopeDetails = []
  items : value.get? "items" = some (.arr header.items)

namespace Header

variable {value : Json}

theorem requiredString_eq_ok_iff {name text : String} :
    requiredString name value = .ok text ↔ value.get? name = some (.str text) := by
  rw [← Json.string?_eq_some_iff, requiredString]
  cases value.string? name with
  | none => simp only [reduceCtorEq]
  | some found => simp only [Except.ok.injEq, Option.some.injEq]

theorem decodeDetails_eq_ok_iff {owner : String} {details : Fields} :
    decodeDetails owner value = .ok details
      ↔ value.get? "scopeDetails" = some (.obj details)
        ∨ (value.get? "scopeDetails" = none ∨ value.get? "scopeDetails" = some .null)
          ∧ details = [] := by
  unfold decodeDetails
  rcases value.get? "scopeDetails" with _ | (_ | _ | _ | _ | _ | fields)
  case some.obj =>
    simp only [Except.ok.injEq, Option.some.injEq, Json.obj.injEq, reduceCtorEq, or_self,
      false_and, or_false]
  all_goals simp only [Except.ok.injEq, Option.some.injEq, reduceCtorEq, or_false, or_true,
    or_self, true_and, false_and, false_or, eq_comm]

theorem decode_eq_ok_iff {header : Header} :
    decode value = .ok header ↔ header.IsReadFrom value := by
  unfold decode
  simp only [bind_eq_ok_iff, requiredString_eq_ok_iff, decodeDetails_eq_ok_iff]
  constructor
  · rintro ⟨id, hid, scope, hscope, details, hdetails, hlast⟩
    cases hitems : value.array? "items" with
    | none =>
        rw [hitems] at hlast
        exact absurd hlast nofun
    | some items =>
        rw [hitems] at hlast
        rw [← Except.ok.inj hlast]
        exact ⟨hid, hscope, hdetails, Json.array?_eq_some_iff.mp hitems⟩
  · intro h
    refine ⟨header.id, h.id, header.scope, h.scope, header.scopeDetails, h.scopeDetails, ?_⟩
    rw [Json.array?_eq_some_iff.mpr h.items]
    rfl

/-- A header has no fault that is reported for an item. -/
theorem decode_ne_itemWithoutId (owner : String) (index : Nat) :
    decode value ≠ .error (.itemWithoutId owner index) := by
  -- Each of the parts has faults of its own.
  have hstring : ∀ name, requiredString name value ≠ .error (.itemWithoutId owner index) := by
    intro name
    unfold requiredString
    cases value.string? name with
    | none => simp only [ne_eq, Except.error.injEq, reduceCtorEq, not_false_eq_true]
    | some text => simp only [ne_eq, reduceCtorEq, not_false_eq_true]
  have hdetails : ∀ id, decodeDetails id value ≠ .error (.itemWithoutId owner index) := by
    intro id
    unfold decodeDetails
    rcases value.get? "scopeDetails" with _ | (_ | _ | _ | _ | _ | _) <;>
      simp only [ne_eq, Except.error.injEq, reduceCtorEq, not_false_eq_true]
  unfold decode
  simp only [ne_eq, bind_eq_error_iff, hstring, hdetails, false_or, not_exists, not_and]
  intro _ _ _ _ _ _
  cases value.array? "items" with
  | none => simp only [throw, throwThe, MonadExceptOf.throw, Except.error.injEq, reduceCtorEq,
      not_false_eq_true]
  | some items => simp only [pure, Except.pure, reduceCtorEq, not_false_eq_true]

end Header

namespace Item

/-- A value has an id, so that an item can be read from it. -/
def hasId (value : Json) : Bool := (value.string? "id").isSome

/-- An item has what is written in a value. A schema that is missing or no text makes it
    an item of unknown kind, and missing data are null. -/
structure IsDecodedFrom (owner : String) (value : Json) (item : Item) : Prop where
  id : value.get? "id" = some (.str item.id)
  schema : (∃ declared, value.get? "schema" = some (.str declared)
      ∧ item.schema = .classify declared)
    ∨ (∀ declared, value.get? "schema" ≠ some (.str declared)) ∧ item.schema = .unknown
  data : value.get? "data" = some item.data ∨ value.get? "data" = none ∧ item.data = .null
  owner : item.owner = some owner

variable {value : Json}

theorem isSome_decode? : (decode? value).isSome = hasId value := Option.isSome_map

theorem decode?_eq_none_iff : decode? value = none ↔ hasId value = false := by
  rw [← isSome_decode?, Option.isSome_eq_false_iff, Option.isNone_iff_eq_none]

theorem exists_decode?_iff : (∃ item, decode? value = some item) ↔ hasId value = true := by
  rw [← isSome_decode?, Option.isSome_iff_exists]

theorem isDecodedFrom_of_decode? {item : Item} (h : decode? value = some item) (owner : String) :
    IsDecodedFrom owner value (item.attach owner) := by
  unfold decode? at h
  rcases Option.map_eq_some_iff.mp h with ⟨id, hid, rfl⟩
  refine ⟨Json.string?_eq_some_iff.mp hid, ?_, ?_, rfl⟩
  · change (∃ declared, value.get? "schema" = some (.str declared)
        ∧ ((value.string? "schema").map ContentSchema.classify).getD .unknown
          = .classify declared)
      ∨ (∀ declared, value.get? "schema" ≠ some (.str declared))
        ∧ ((value.string? "schema").map ContentSchema.classify).getD .unknown = .unknown
    simp only [ne_eq, ← Json.string?_eq_some_iff]
    cases value.string? "schema" with
    | none => exact .inr ⟨nofun, rfl⟩
    | some declared => exact .inl ⟨declared, rfl, rfl⟩
  · change value.get? "data" = some (Json.ofOption (value.get? "data"))
      ∨ value.get? "data" = none ∧ Json.ofOption (value.get? "data") = .null
    cases value.get? "data" with
    | none => exact .inr ⟨rfl, rfl⟩
    | some data => exact .inl rfl

end Item

namespace Proposition

/-- A proposition has the header of a value, and of its items all that have an id, in
    order and linked to it. -/
structure HasReadableItemsOf (header : Header) (p : Proposition) : Prop where
  id : p.id = header.id
  scope : p.scope = header.scope
  scopeDetails : p.scopeDetails = header.scopeDetails
  items : List.Forall₂ (Item.IsDecodedFrom header.id)
    (header.items.filter Item.hasId) p.items

/-- What the tolerant reading makes of a header. -/
def ofHeader (header : Header) : Proposition :=
  build header.id header.scope header.scopeDetails (header.items.filterMap Item.decode?)

theorem hasReadableItemsOf_ofHeader (header : Header) :
    (ofHeader header).HasReadableItemsOf header where
  id := rfl
  scope := rfl
  scopeDetails := rfl
  items := by
    change List.Forall₂ _ _ ((header.items.filterMap Item.decode?).map (Item.attach header.id))
    induction header.items with
    | nil => exact .nil
    | cons value rest ih =>
        cases hitem : Item.decode? value with
        | none =>
            have hid := Item.decode?_eq_none_iff.mp hitem
            rw [List.filterMap_cons_none hitem, List.filter_cons_of_neg (Bool.eq_false_iff.mp hid)]
            exact ih
        | some item =>
            have hid := Item.exists_decode?_iff.mp ⟨item, hitem⟩
            rw [List.filterMap_cons_some hitem, List.filter_cons_of_pos hid, List.map_cons]
            exact .cons (Item.isDecodedFrom_of_decode? hitem header.id) ih

variable {value : Json}

theorem decodeTolerant?_eq_some_iff {p : Proposition} :
    decodeTolerant? value = some p ↔ ∃ header, header.IsReadFrom value ∧ p = ofHeader header := by
  simp only [← Header.decode_eq_ok_iff]
  unfold decodeTolerant?
  cases Header.decode value with
  | error e => exact ⟨nofun, fun ⟨_, h, _⟩ => absurd h nofun⟩
  | ok header =>
      simp only [Option.some.injEq, Except.ok.injEq, exists_eq_left']
      exact eq_comm

theorem decodeItems_eq_ok {values : List Json}
    (h : ∀ value ∈ values, ∃ item, Item.decode? value = some item) (proposition : String)
    (index : Nat) :
    decodeItems proposition index values = .ok (values.filterMap Item.decode?) := by
  induction values generalizing index with
  | nil => rfl
  | cons value rest ih =>
      rcases h value List.mem_cons_self with ⟨item, hitem⟩
      have hrest := ih (fun later hlater => h later (List.mem_cons_of_mem _ hlater)) (index + 1)
      rw [List.filterMap_cons_some hitem, decodeItems, hitem]
      dsimp only
      rw [hrest]
      rfl

/-- The first value without an item is reported, with its place. -/
theorem decodeItems_eq_error {readable : List Json} {value : Json}
    (h : ∀ earlier ∈ readable, ∃ item, Item.decode? earlier = some item)
    (hvalue : Item.decode? value = none) (rest : List Json) (proposition : String) (index : Nat) :
    decodeItems proposition index (readable ++ value :: rest)
      = .error (.itemWithoutId proposition (index + readable.length)) := by
  induction readable generalizing index with
  | nil =>
      rw [List.nil_append, decodeItems, hvalue]
      rfl
  | cons earlier others ih =>
      rcases h earlier List.mem_cons_self with ⟨item, hitem⟩
      have hothers := ih (fun later hlater => h later (List.mem_cons_of_mem _ hlater)) (index + 1)
      rw [List.cons_append, decodeItems, hitem]
      dsimp only
      rw [hothers, List.length_cons]
      simp only [Except.map, Except.error.injEq, DecodeError.itemWithoutId.injEq, true_and]
      omega

theorem decode_of_isReadFrom {header : Header} (h : header.IsReadFrom value) :
    decode value = (decodeItems header.id 0 header.items).map
      (build header.id header.scope header.scopeDetails) := by
  rw [decode, Header.decode_eq_ok_iff.mpr h]
  rfl

theorem decode_of_error {fault : DecodeError} (h : Header.decode value = .error fault) :
    decode value = .error fault := by
  rw [decode, h]
  rfl

/-- The strict reading succeeds where the header can be read and no item is without id.
    It then has nothing to skip. -/
theorem decode_eq_ok {header : Header} (h : header.IsReadFrom value)
    (hitems : ∀ item ∈ header.items, Item.hasId item = true) :
    decode value = .ok (ofHeader header) := by
  have hreadable : ∀ item ∈ header.items, ∃ read, Item.decode? item = some read :=
    fun item hitem => Item.exists_decode?_iff.mpr (hitems item hitem)
  rw [decode_of_isReadFrom h, decodeItems_eq_ok hreadable]
  rfl

/-- The places of the items without an id. -/
def faultyPlaces (header : Header) : Set Nat :=
  {place | ∃ item, header.items[place]? = some item ∧ Item.hasId item = false}

/-- The strict reading reports the first item without an id. -/
theorem decode_eq_error {header : Header} (h : header.IsReadFrom value) {place : Nat}
    (hplace : IsLeast (faultyPlaces header) place) :
    decode value = .error (.itemWithoutId header.id place) := by
  rcases hplace with ⟨⟨item, hitem, hid⟩, hleast⟩
  have hbound : place < header.items.length := (List.getElem?_eq_some_iff.mp hitem).1
  have hparts : header.items
      = header.items.take place ++ item :: header.items.drop (place + 1) := by
    rw [← (List.getElem?_eq_some_iff.mp hitem).2, List.getElem_cons_drop, List.take_append_drop]
  -- As the place is the first faulty one, nothing in front of it stops the reading.
  have hreadable : ∀ earlier ∈ header.items.take place,
      ∃ read, Item.decode? earlier = some read := by
    intro earlier hearlier
    rcases List.mem_take_iff_getElem.mp hearlier with ⟨i, hi, rfl⟩
    rw [Item.exists_decode?_iff, ← Bool.not_eq_false]
    intro hnone
    have hle := hleast ⟨_, List.getElem?_eq_getElem (by omega), hnone⟩
    omega
  have hread := decodeItems_eq_error hreadable (Item.decode?_eq_none_iff.mpr hid)
    (header.items.drop (place + 1)) header.id 0
  rw [← hparts, List.length_take, Nat.min_eq_left (Nat.le_of_lt hbound), Nat.zero_add] at hread
  rw [decode_of_isReadFrom h, hread]
  rfl

/-- There is a first item without an id if there is one at all. -/
theorem exists_isLeast_faultyPlaces {header : Header}
    (h : ¬∀ item ∈ header.items, Item.hasId item = true) :
    ∃ place, IsLeast (faultyPlaces header) place := by
  classical
  simp only [not_forall, Bool.not_eq_true] at h
  rcases h with ⟨item, hmem, hid⟩
  rcases List.getElem?_of_mem hmem with ⟨place, hplace⟩
  have hplaces : (faultyPlaces header).Nonempty := ⟨place, item, hplace, hid⟩
  exact ⟨_, hplaces.isLeast_natFind⟩

/-- The strict reading takes nothing else. -/
theorem decode_eq_ok_iff {p : Proposition} :
    decode value = .ok p ↔ ∃ header, header.IsReadFrom value
      ∧ (∀ item ∈ header.items, Item.hasId item = true) ∧ p = ofHeader header := by
  constructor
  · intro hdecode
    cases hheader : Header.decode value with
    | error fault => exact absurd ((decode_of_error hheader).symm.trans hdecode) nofun
    | ok header =>
        have hread := Header.decode_eq_ok_iff.mp hheader
        by_cases hitems : ∀ item ∈ header.items, Item.hasId item = true
        · exact ⟨header, hread, hitems,
            Except.ok.inj (hdecode.symm.trans (decode_eq_ok hread hitems))⟩
        · -- The first item without id would have been reported.
          rcases exists_isLeast_faultyPlaces hitems with ⟨place, hplace⟩
          exact absurd ((decode_eq_error hread hplace).symm.trans hdecode) nofun
  · rintro ⟨header, hread, hitems, rfl⟩
    exact decode_eq_ok hread hitems

/-- What the strict reading makes of a value, by its header and its items. -/
theorem decode_cases (value : Json) :
    (∃ fault, Header.decode value = .error fault ∧ decode value = .error fault)
      ∨ ∃ header, header.IsReadFrom value
        ∧ (decode value = .ok (ofHeader header)
          ∨ ∃ place, IsLeast (faultyPlaces header) place
            ∧ decode value = .error (.itemWithoutId header.id place)) := by
  cases hheader : Header.decode value with
  | error fault => exact .inl ⟨fault, rfl, decode_of_error hheader⟩
  | ok header =>
      have hread := Header.decode_eq_ok_iff.mp hheader
      refine .inr ⟨header, hread, ?_⟩
      by_cases hitems : ∀ item ∈ header.items, Item.hasId item = true
      · exact .inl (decode_eq_ok hread hitems)
      · rcases exists_isLeast_faultyPlaces hitems with ⟨place, hplace⟩
        exact .inr ⟨place, hplace, decode_eq_error hread hplace⟩

theorem ofPayload_singleton (value : Json) :
    ofPayload (.arr [value]) = (decodeTolerant? value).toList := by
  change [value].filterMap decodeTolerant? = _
  cases h : decodeTolerant? value with
  | none => rw [List.filterMap_cons_none h]; rfl
  | some p => rw [List.filterMap_cons_some h]; rfl

theorem ofPayload_of_isReadFrom {header : Header} (h : header.IsReadFrom value) :
    ofPayload (.arr [value]) = [ofHeader header] := by
  rw [ofPayload_singleton, decodeTolerant?_eq_some_iff.mpr ⟨header, h, rfl⟩]
  rfl

theorem ofPayload_of_error {fault : DecodeError} (h : Header.decode value = .error fault) :
    ofPayload (.arr [value]) = [] := by
  rw [ofPayload_singleton, decodeTolerant?, h]
  rfl

/-- The two readings agree on every value. What the strict reading takes is what the
    tolerant one makes of it. Where the strict reading reports an item, it is the first
    one without an id, and the tolerant reading has the proposition all the same, with
    what stands in front of its items and with all of its items that have an id, in
    order and linked to it. Any other fault leaves nothing to read. Nothing that is
    well formed is lost: a header that can be read is read, and strictly as well if no
    item is in the way. A payload is read entry by entry; an object with an array under
    `payload` is read as this array, and whatever is no array and has none is read as
    nothing. -/
theorem strict_and_tolerant_agree (value : Json) :
    (∀ p, decode value = .ok p → ofPayload (.arr [value]) = [p])
      ∧ (∀ owner place, decode value = .error (.itemWithoutId owner place) →
        ∃ header, header.IsReadFrom value ∧ owner = header.id
          ∧ IsLeast (faultyPlaces header) place
          ∧ ∃ p, ofPayload (.arr [value]) = [p] ∧ p.HasReadableItemsOf header)
      ∧ (∀ name, decode value = .error (.missingField name) → ofPayload (.arr [value]) = [])
      ∧ (∀ owner, decode value = .error (.detailsNotObject owner) →
        ofPayload (.arr [value]) = [])
      ∧ (∀ header, header.IsReadFrom value →
        (∃ p, ofPayload (.arr [value]) = [p] ∧ p.HasReadableItemsOf header)
          ∧ ((∀ item ∈ header.items, Item.hasId item = true) → ∃ p, decode value = .ok p))
      ∧ (∀ entries others,
        ofPayload (.arr (entries ++ others)) = ofPayload (.arr entries) ++ ofPayload (.arr others))
      ∧ (∀ entries, value.get? "payload" = some (.arr entries) →
        ofPayload value = ofPayload (.arr entries))
      ∧ (value.isArray = false → value.array? "payload" = none → ofPayload value = []) := by
  have hheader : ∀ header, header.IsReadFrom value →
      ∃ p, ofPayload (.arr [value]) = [p] ∧ p.HasReadableItemsOf header := fun header h =>
    ⟨ofHeader header, ofPayload_of_isReadFrom h, hasReadableItemsOf_ofHeader header⟩
  -- A fault that is not that of an item is one of the header, for both readings.
  have hfault : ∀ fault, decode value = .error fault →
      (∀ owner place, fault ≠ .itemWithoutId owner place) → ofPayload (.arr [value]) = [] := by
    intro fault hdecode hother
    rcases decode_cases value with ⟨_, herror, _⟩ | ⟨header, _, hok | ⟨place, _, hitem⟩⟩
    · exact ofPayload_of_error herror
    · exact absurd (hdecode.symm.trans hok) nofun
    · exact absurd (Except.error.inj (hdecode.symm.trans hitem)) (hother _ _)
  refine ⟨?_, ?_, fun name h => hfault _ h nofun, fun owner h => hfault _ h nofun,
    fun header h => ⟨hheader header h, fun hitems => ⟨_, decode_eq_ok h hitems⟩⟩,
    fun entries others => List.filterMap_append, ?_, ?_⟩
  · intro p hdecode
    rcases decode_eq_ok_iff.mp hdecode with ⟨header, hread, _, rfl⟩
    exact ofPayload_of_isReadFrom hread
  · intro owner place hdecode
    rcases decode_cases value with
      ⟨fault, herror, hsame⟩ | ⟨header, hread, hok | ⟨least, hleast, hitem⟩⟩
    · rw [← Except.error.inj (hdecode.symm.trans hsame)] at herror
      exact absurd herror (Header.decode_ne_itemWithoutId owner place)
    · exact absurd (hdecode.symm.trans hok) nofun
    · have hreported := Except.error.inj (hdecode.symm.trans hitem)
      injection hreported with howner hplace
      exact ⟨header, hread, howner, hplace ▸ hleast, hheader header hread⟩
  · intro entries hpayload
    rcases Json.exists_obj_of_get? hpayload with ⟨fields, rfl, hlookup⟩
    change (((lookup? "payload" fields).bind Json.asArray?).getD []).filterMap decodeTolerant? = _
    rw [hlookup]
    rfl
  · intro harray hnone
    cases value with
    | arr entries => exact absurd harray nofun
    | obj fields =>
        change (((lookup? "payload" fields).bind Json.asArray?).getD []).filterMap decodeTolerant?
          = _
        rw [show (lookup? "payload" fields).bind Json.asArray? = none from hnone]
        rfl
    | null | bool _ | num _ | str _ => rfl

/-- A proposition for the application as it is written. -/
def written (scopeDetails : Json) (items : List Json) : Json :=
  .obj [("id", .str "p"), ("items", .arr items), ("scope", .str "app"),
    ("scopeDetails", scopeDetails)]

/-- An item with null for its id comes between two readable ones. It is reported, and
    the other two are read. -/
theorem unreadable_item_reported_and_skipped :
    let value := written .null
      [.obj [("id", .str "a")], .obj [("id", .null)], .obj [("id", .str "b")]]
    (∃ header, header.IsReadFrom value ∧ "p" = header.id ∧ IsLeast (faultyPlaces header) 1
      ∧ ∃ p, ofPayload (.arr [value]) = [p] ∧ p.HasReadableItemsOf header)
    ∧ ofPayload (.arr [written .null [.obj [("id", .str "a")]]])
        = [build "p" "app" [] [.unowned "a" .unknown .null]]
    ∧ ofPayload (.arr [.obj [("id", .str "p")]]) = []
    ∧ ofPayload (.arr [written (.str "details") []]) = []
    ∧ ofPayload (.obj [("payload", .arr [written .null []])])
        = ofPayload (.arr [written .null []])
    ∧ ofPayload (.str "payload") = [] :=
  ⟨(strict_and_tolerant_agree _).2.1 "p" 1 rfl,
    (strict_and_tolerant_agree _).1 _ rfl,
    (strict_and_tolerant_agree _).2.2.1 "scope" rfl,
    (strict_and_tolerant_agree _).2.2.2.1 "p" rfl,
    (strict_and_tolerant_agree _).2.2.2.2.2.2.1 _ rfl,
    (strict_and_tolerant_agree _).2.2.2.2.2.2.2 rfl rfl⟩

end Proposition

end Decisioning
