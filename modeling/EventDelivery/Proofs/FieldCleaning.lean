import EventDelivery.Proofs.FieldKeywords
import EventDelivery.Schema.Clean

/-!
# Cleaning by fields

Payloads are cleaned by the schema that fields are compiled to.  What that keeps
can be said without the schema: the fields alone decide it, at every depth.
-/

namespace EventDelivery

/-- The fields of the objects that a field holds: those inside of an object field,
and none for any other field. -/
def Field.held (field : Field) : FieldMap :=
  if field.traits.type = .object then field.inner else []

/-- Whether a key may hold an empty value: it is declared with a field that accepts
null. -/
def FieldMap.keepsEmpty (fields : FieldMap) (key : String) : Bool :=
  (Assoc.get? key fields).any fun field => field.traits.allowNull

mutual

/-- An object without the empty values that its fields do not keep; any other value
as it is. -/
def FieldMap.clean (fields : FieldMap) : Json → Json
  | .obj members => .obj (FieldMap.cleanMembers fields members)
  | value => value

/-- What a declared field holds: an object is cleaned by the fields held, and an
array where the field is a list.  An object in the place of a list has no field. -/
def Field.clean (field : Field) : Json → Json
  | .obj members =>
    .obj (FieldMap.cleanMembers (if field.traits.multiple then [] else field.held) members)
  | .arr items =>
    if field.traits.multiple then .arr (FieldMap.cleanItems field.held items)
    else .arr items
  | value => value

/-- The members that are kept, each with what its field leaves of it. -/
def FieldMap.cleanMembers (fields : FieldMap) :
    List (String × Json) → List (String × Json)
  | [] => []
  | (key, value) :: rest =>
    if Clean.isEmpty value && !fields.keepsEmpty key then FieldMap.cleanMembers fields rest
    else
      (key, match Assoc.get? key fields with
        | some field => Field.clean field value
        | none => value) :: FieldMap.cleanMembers fields rest

/-- Every item is cleaned, and none is removed. -/
def FieldMap.cleanItems (fields : FieldMap) : List Json → List Json
  | [] => []
  | item :: rest => FieldMap.clean fields item :: FieldMap.cleanItems fields rest

end

namespace FieldMap

/-- The members kept are those that are not empty or may be, and what is under an
undeclared key stays. -/
theorem cleanMembers_eq_map (fields : FieldMap) (members : List (String × Json)) :
    fields.cleanMembers members =
      (members.filter fun member =>
        !Clean.isEmpty member.2 || fields.keepsEmpty member.1).map fun member =>
          (member.1, match Assoc.get? member.1 fields with
            | some field => field.clean member.2
            | none => member.2) := by
  induction members with
  | nil => rfl
  | cons member rest induction =>
      obtain ⟨key, value⟩ := member
      rw [cleanMembers, List.filter_cons]
      cases Clean.isEmpty value <;> cases fields.keepsEmpty key <;> simp [induction]

theorem cleanItems_eq_map (fields : FieldMap) (items : List Json) :
    fields.cleanItems items = items.map fields.clean := by
  induction items with
  | nil => rfl
  | cons item rest induction => rw [cleanItems, induction, List.map_cons]

theorem cleanMembers_sorted (fields : FieldMap) {members : List (String × Json)}
    (sorted : Assoc.Sorted members) : Assoc.Sorted (fields.cleanMembers members) := by
  rw [cleanMembers_eq_map]
  exact (Assoc.sorted_map_iff _ _).mpr (List.Pairwise.filter _ sorted)

private theorem ordered_nil : FieldMap.Ordered [] :=
  ⟨List.Pairwise.nil, by simp⟩

private theorem ordered_of_get? {fields : FieldMap} (ordered : fields.Ordered) {key : String}
    {field : Field} (declared : Assoc.get? key fields = some field) : field.Ordered :=
  ordered.2 key field (Assoc.mem_of_get?_eq_some declared)

end FieldMap

theorem Field.held_ordered {field : Field} (ordered : field.Ordered) :
    field.held.Ordered := by
  unfold held
  split
  · exact field.ordered_iff.mp ordered
  · exact FieldMap.ordered_nil

theorem Field.mem_inner_of_mem_held {field inside : Field} {name : String}
    (declared : (name, inside) ∈ field.held) : (name, inside) ∈ field.inner := by
  unfold held at declared
  split at declared
  · exact declared
  · simp at declared

section Keeping

variable {fields : FieldMap} {name : String} {field : Field}

theorem FieldMap.get?_of_mem (ordered : fields.Ordered)
    (declared : (name, field) ∈ fields) : Assoc.get? name fields = some field :=
  (Assoc.get?_eq_some_iff ordered.1).mpr declared

/-- Under a declared key a value is kept if it is not empty or the field accepts
null. -/
theorem FieldMap.mem_cleanMembers (ordered : fields.Ordered)
    (declared : (name, field) ∈ fields) {members : List (String × Json)} {value : Json}
    (present : (name, value) ∈ members)
    (kept : Clean.isEmpty value = false ∨ field.traits.allowNull = true) :
    (name, field.clean value) ∈ fields.cleanMembers members := by
  have found := get?_of_mem ordered declared
  rw [cleanMembers_eq_map, List.mem_map]
  refine ⟨(name, value), List.mem_filter.mpr ⟨present, ?_⟩, ?_⟩
  · rcases kept with filled | nullable
    · simp [filled]
    · simp [keepsEmpty, found, nullable]
  · simp [found]

theorem Field.clean_of_isEmpty {value : Json} (empty : Clean.isEmpty value = true) :
    field.clean value = value := by
  cases value <;> first | rfl | simp [Clean.isEmpty] at empty

/-- What a field that is no list holds is cleaned by the fields held. -/
theorem Field.clean_of_single (single : field.traits.multiple = false) (value : Json) :
    field.clean value = field.held.clean value := by
  cases value <;> simp [Field.clean, FieldMap.clean, single]

theorem Field.clean_of_multiple (many : field.traits.multiple = true) (items : List Json) :
    field.clean (.arr items) = .arr (items.map field.held.clean) := by
  simp [Field.clean, many, FieldMap.cleanItems_eq_map]

end Keeping

mutual

/-- Cleaning keeps the order of keys, at every depth. -/
theorem FieldMap.clean_ordered (fields : FieldMap) :
    ∀ value : Json, value.Ordered → (fields.clean value).Ordered
  | .obj members, ordered => by
      rw [FieldMap.clean]
      exact ⟨fields.cleanMembers_sorted ordered.1,
        FieldMap.cleanMembers_ordered fields members ordered.2⟩
  | .null, _ | .bool _, _ | .num _, _ | .str _, _ => by
      rw [FieldMap.clean] <;> simp [Json.Ordered]
  | .arr _, ordered => by
      rw [FieldMap.clean]
      · exact ordered
      · simp

theorem Field.clean_ordered (field : Field) :
    ∀ value : Json, value.Ordered → (field.clean value).Ordered
  | .obj members, ordered => by
      rw [Field.clean]
      exact ⟨FieldMap.cleanMembers_sorted _ ordered.1,
        FieldMap.cleanMembers_ordered _ members ordered.2⟩
  | .arr items, ordered => by
      rw [Field.clean]
      split
      · exact FieldMap.cleanItems_ordered field.held items ordered
      · exact ordered
  | .null, _ | .bool _, _ | .num _, _ | .str _, _ => by
      rw [Field.clean] <;> simp [Json.Ordered]

theorem FieldMap.cleanMembers_ordered (fields : FieldMap) :
    ∀ members : List (String × Json), Json.OrderedMembers members →
      Json.OrderedMembers (fields.cleanMembers members)
  | [], _ => by
      rw [FieldMap.cleanMembers]
      trivial
  | (key, value) :: rest, ordered => by
      have tail := FieldMap.cleanMembers_ordered fields rest ordered.2
      rw [FieldMap.cleanMembers]
      split
      · exact tail
      · refine ⟨?_, tail⟩
        split
        · exact Field.clean_ordered _ value ordered.1
        · exact ordered.1

theorem FieldMap.cleanItems_ordered (fields : FieldMap) :
    ∀ items : List Json, Json.OrderedItems items →
      Json.OrderedItems (fields.cleanItems items)
  | [], _ => by
      rw [FieldMap.cleanItems]
      trivial
  | item :: rest, ordered => by
      rw [FieldMap.cleanItems]
      exact ⟨FieldMap.clean_ordered fields item ordered.1,
        FieldMap.cleanItems_ordered fields rest ordered.2⟩

end

namespace Clean

/-- A schema whose properties are the schemas of fields. -/
def Describes (schema : Json) (fields : FieldMap) : Prop :=
  ∀ key, property? schema key = (Assoc.get? key fields).map Field.schema

theorem describes_of_properties {members : List (String × Json)} {fields : FieldMap}
    (ordered : fields.Ordered)
    (properties : Assoc.get? "properties" members =
      some (.ofMembers (Field.schemas fields))) :
    Describes (.obj members) fields := by
  intro key
  simp only [property?, Json.get?, properties, Option.bind_some, Json.ofMembers]
  exact FieldMap.get?_schemas ordered.1 key

private theorem describes_nothing {members : List (String × Json)}
    (properties : Assoc.get? "properties" members = none) :
    Describes (.obj members) [] := by
  intro key
  simp [property?, Json.get?, properties, Assoc.get?]

theorem describes_payload {fields : FieldMap} (ordered : fields.Ordered) :
    Describes fields.schema fields := by
  have properties : Assoc.get? "properties" fields.members =
      some (.ofMembers (Field.schemas fields)) := by
    simp [FieldMap.get?_members, FieldMap.shape]
  exact describes_of_properties ordered properties

/-- The schema for one value of a field has the fields held as its properties. -/
theorem describes_value {traits : FieldTraits} {properties : Option FieldMap}
    (ordered : (Field.of traits properties).Ordered) :
    Describes (.obj (traits.valueMembers (properties.map FieldMap.shape)))
      (Field.of traits properties).held := by
  have keywords := traits.valueMembers_constrained (properties.map FieldMap.shape)
  by_cases object : traits.type = .object
  · cases properties with
    | none =>
        have absent := keywords.properties
        simp only [object, if_true, Option.map_none] at absent
        simpa [Field.held, object] using describes_nothing absent
    | some fields =>
        have present := keywords.properties
        simp only [object, if_true, Option.map_some] at present
        have inside : FieldMap.Ordered fields := (Field.ordered_iff _).mp ordered
        simpa [Field.held, object] using describes_of_properties inside present
  · have absent := keywords.properties
    simp only [object, if_false] at absent
    simpa [Field.held, object] using describes_nothing absent

/-- The schema of a field: what it says of one object in the field. -/
theorem describes_field {field : Field} (ordered : field.Ordered) :
    Describes field.schema (if field.traits.multiple then [] else field.held) := by
  obtain ⟨traits, properties⟩ := field
  rw [Field.schema_eq, FieldTraits.schema_eq_members, Field.traits_of]
  cases traits.multiple with
  | true =>
      simp only [if_true]
      apply describes_nothing
      rw [FieldTraits.get?_listMembers traits _ (by decide) (by decide)]
      simp
  | false => exact describes_value ordered

/-- The schema of a field has an item schema exactly when the field is a list. -/
theorem items_of_field {field : Field} (ordered : field.Ordered) :
    if field.traits.multiple then
      ∃ schema, field.schema.get? "items" = some schema ∧ Describes schema field.held
    else field.schema.get? "items" = none := by
  obtain ⟨traits, properties⟩ := field
  rw [Field.schema_eq, FieldTraits.schema_eq_members, Field.traits_of]
  cases traits.multiple with
  | true =>
      refine ⟨_, ?_, describes_value ordered⟩
      simp only [if_true, Json.get?]
      rw [FieldTraits.get?_listMembers traits _ (by decide) (by decide)]
      simp
  | false =>
      exact (traits.valueMembers_constrained _).others "items" (by decide)

theorem acceptsNull_typeJson (traits : FieldTraits) (name : String) (named : name ≠ "null")
    {members : List (String × Json)}
    (type : Assoc.get? "type" members = some (traits.typeJson name)) :
    acceptsNull (some (.obj members)) = traits.allowNull := by
  simp only [acceptsNull, Option.bind_some, Json.get?, type, FieldTraits.typeJson]
  cases traits.allowNull with
  | true => simp [Json.ofTexts]
  | false => simpa using named

theorem acceptsNull_field (field : Field) :
    acceptsNull (some field.schema) = field.traits.allowNull := by
  obtain ⟨traits, properties⟩ := field
  rw [Field.schema_eq, FieldTraits.schema_eq_members, Field.traits_of]
  cases many : traits.multiple with
  | true =>
      apply acceptsNull_typeJson traits "array" (by decide)
      rw [FieldTraits.get?_listMembers traits _ (by decide) (by decide)]
      simp
  | false =>
      apply acceptsNull_typeJson traits traits.type.schemaType
      · cases traits.type <;> decide
      · rw [(traits.valueMembers_constrained _).type]
        simp [FieldTraits.typeFor, FieldTraits.nullable, FieldTraits.typeJson, many]

private theorem acceptsNull_of_describes {schema : Json} {fields : FieldMap}
    (describes : Describes schema fields) (key : String) :
    acceptsNull (property? schema key) = fields.keepsEmpty key := by
  rw [describes key, FieldMap.keepsEmpty]
  cases Assoc.get? key fields with
  | none => rfl
  | some field => simpa using acceptsNull_field field

mutual

-- The induction is on the value: the fields that clean what it holds become others
-- at each step, and are described by the schema that is reached there.
theorem cleanObject_eq : ∀ (value : Json) {schema : Json} {fields : FieldMap},
    fields.Ordered → Describes schema fields →
    cleanObject schema value = fields.clean value
  | .obj members, _, _, ordered, describes => by
      rw [cleanObject, FieldMap.clean, cleanMembers_eq members ordered describes]
  | .null, _, _, _, _ | .bool _, _, _, _, _ | .num _, _, _, _, _ | .str _, _, _, _, _
  | .arr _, _, _, _, _ => by rw [cleanObject, FieldMap.clean] <;> simp

theorem cleanProperty_eq : ∀ (value : Json) {field : Field}, field.Ordered →
    cleanProperty (some field.schema) value = field.clean value
  | .obj members, field, ordered => by
      have inside :
          FieldMap.Ordered (if field.traits.multiple then [] else field.held) := by
        split
        · exact FieldMap.ordered_nil
        · exact Field.held_ordered ordered
      rw [cleanProperty, Field.clean,
        cleanMembers_eq members inside (describes_field ordered)]
  | .arr items, field, ordered => by
      have itemSchema := items_of_field ordered
      rw [cleanProperty, Field.clean, Option.bind_some]
      cases many : field.traits.multiple with
      | true =>
          simp only [many, if_true] at itemSchema
          obtain ⟨schema, found, describes⟩ := itemSchema
          simp only [found, if_true]
          rw [cleanItems_eq items (Field.held_ordered ordered) describes]
      | false =>
          simp only [many, Bool.false_eq_true, if_false] at itemSchema
          simp [itemSchema]
  | .null, _, _ | .bool _, _, _ | .num _, _, _ | .str _, _, _ => by
      rw [cleanProperty, Field.clean] <;> simp

theorem cleanMembers_eq : ∀ (members : List (String × Json)) {schema : Json}
    {fields : FieldMap}, fields.Ordered → Describes schema fields →
    cleanMembers schema members = fields.cleanMembers members
  | [], _, _, _, _ => by rw [cleanMembers, FieldMap.cleanMembers]
  | (key, value) :: rest, schema, fields, ordered, describes => by
      have kept : cleanProperty (property? schema key) value =
          match Assoc.get? key fields with
          | some field => field.clean value
          | none => value := by
        rw [describes key]
        cases declared : Assoc.get? key fields with
        | some field =>
            exact cleanProperty_eq value (FieldMap.ordered_of_get? ordered declared)
        | none => cases value <;> simp [cleanProperty]
      rw [cleanMembers, FieldMap.cleanMembers, acceptsNull_of_describes describes, kept,
        cleanMembers_eq rest ordered describes]

private theorem cleanItems_eq : ∀ (items : List Json) {schema : Json} {fields : FieldMap},
    fields.Ordered → Describes schema fields →
    cleanItems schema items = fields.cleanItems items
  | [], _, _, _, _ => by rw [cleanItems, FieldMap.cleanItems]
  | item :: rest, _, _, ordered, describes => by
      rw [cleanItems, FieldMap.cleanItems, cleanObject_eq item ordered describes,
        cleanItems_eq rest ordered describes]

end

end Clean

/-- Cleaning a payload by the schema of fields is cleaning it by the fields. -/
theorem FieldMap.removeEmptyValues_schema_eq_clean {fields : FieldMap}
    (ordered : fields.Ordered) (payload : Json) (fromRoot : Bool) :
    removeEmptyValues payload (some fields.schema) fromRoot = fields.clean payload :=
  Clean.cleanObject_eq payload ordered (Clean.describes_payload ordered)

def phoneFields : FieldMap :=
  [("extension", (Field.new "Extension" .string).acceptNull),
    ("number", Field.new "Number" .string)]

/-- The fields of a person: an address, a name that may be empty, and phones. -/
def personFields : FieldMap :=
  [("address", (Field.new "Address" .object).contain
      [("unit", (Field.new "Unit" .string).acceptNull)]),
    ("nickname", (Field.new "Nickname" .string).acceptNull),
    ("phones", ((Field.new "Phones" .object).makeMultiple).contain phoneFields)]

theorem personFields_clean_nested_values :
    personFields.Ordered ∧
      removeEmptyValues
        (.obj [("address", .obj [("city", .str ""), ("unit", .str "")]), ("age", .null),
          ("nickname", .null),
          ("phones", .arr [.obj [("extension", .null), ("number", .str "")], .str ""])])
        (some personFields.schema) false =
      .obj [("address", .obj [("unit", .str "")]), ("nickname", .null),
        ("phones", .arr [.obj [("extension", .null)], .str ""])] := by
  have phones : Assoc.Sorted phoneFields := by decide
  have ordered : personFields.Ordered := by
    refine ⟨by decide, (Field.allOrdered_iff personFields).mp ?_⟩
    exact ⟨⟨by decide, trivial, trivial⟩, trivial, ⟨phones, trivial, trivial, trivial⟩,
      trivial⟩
  refine ⟨ordered, ?_⟩
  rw [FieldMap.removeEmptyValues_schema_eq_clean ordered]
  decide

end EventDelivery
