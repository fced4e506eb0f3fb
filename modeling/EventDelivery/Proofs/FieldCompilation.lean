import EventDelivery.Proofs.FieldAcceptance
import EventDelivery.Proofs.FieldKeywords
import EventDelivery.Proofs.KeywordSemantics
import EventDelivery.Schema.Link

/-!
# The schema of fields is about what they accept

The keywords that a field is compiled to, and the theorem that the compiled schema
of fields finds nothing in a payload exactly when the fields accept it.
-/

namespace EventDelivery

namespace FieldType

/-- The type of JSON values that the values of a type have. -/
def jsonType : FieldType → JsonType
  | .string | .text | .password | .datetime => .string
  | .number => .number
  | .integer => .integer
  | .boolean => .boolean
  | .object => .object

private theorem ofName?_schemaType (type : FieldType) :
    JsonType.ofName? type.schemaType = some type.jsonType := by
  cases type <;> decide

theorem admits_iff (type : FieldType) (value : Json) :
    type.Admits value ↔ type.jsonType.holds value = true := by
  constructor
  · intro admitted
    cases admitted <;> rfl
  · intro holds
    cases type with
    | integer =>
        cases value with
        | num number =>
            cases number with
            | whole whole => exact .integer
            | double _ => simp [jsonType, JsonType.holds] at holds
        | _ => simp [jsonType, JsonType.holds] at holds
    | _ =>
        cases value <;> simp [jsonType, JsonType.holds] at holds
        constructor

end FieldType

namespace FieldTraits

theorem Constrained.generated {traits : FieldTraits} {nested : Option ObjectShape}
    {type : Json} {more : List Json} {members : List (String × Json)}
    (constrained : traits.Constrained nested type more members) : Generated members := by
  constructor
  · intro keyword other
    apply constrained.others
    intro member
    apply other
    simp only [List.mem_cons, List.not_mem_nil, or_false] at member
    simp only [generatedKeywords, List.mem_cons, List.not_mem_nil, or_false]
    tauto
  · intro schema
    rw [constrained.additional]
    split <;> simp
  · intro schemas
    rw [constrained.others "items" (by decide)]
    simp

theorem listMembers_generated (traits : FieldTraits) (item : List (String × Json)) :
    Generated (traits.listMembers (.obj item)) := by
  constructor
  · intro keyword other
    have noTitle : keyword ≠ "title" := by
      rintro rfl
      exact other (by decide)
    have noDescription : keyword ≠ "description" := by
      rintro rfl
      exact other (by decide)
    have noType : keyword ≠ "type" := by
      rintro rfl
      exact other (by decide)
    have noItems : keyword ≠ "items" := by
      rintro rfl
      exact other (by decide)
    simp [FieldTraits.get?_listMembers traits _ noTitle noDescription, noType, noItems]
  · simp [FieldTraits.get?_listMembers]
  · simp [FieldTraits.get?_listMembers]

theorem names_iff (traits : FieldTraits) (name : String) :
    traits.Names name ↔ traits.formatName = some name := by
  constructor
  · intro named
    cases named with
    | given format => simp [formatName, format]
    | moment none moment => simp [formatName, none, moment]
  · intro found
    cases given : traits.format with
    | some format =>
        have same : format = name := by simpa [formatName, given] using found
        exact .given (same ▸ given)
    | none =>
        cases kind : traits.type with
        | datetime =>
            have same : "date-time" = name := by
              simpa [formatName, given, kind] using found
            exact same ▸ .moment given kind
        | _ => simp [formatName, given, kind] at found

theorem formatHolds_iff (traits : FieldTraits) (value : Json) :
    Keyword.FormatHolds (traits.formatName.map .str) value ↔ traits.FormatFits value := by
  simp only [Keyword.FormatHolds, FormatFits, names_iff, Option.map_eq_some_iff,
    Json.str.injEq]
  constructor
  · intro holds name format text named known same
    exact holds name ⟨name, named, rfl⟩ format known text same
  · rintro fits name ⟨_, named, rfl⟩ format known text same
    exact fits _ format text named known same

theorem typeHolds_iff (traits : FieldTraits) (nullable : Bool) (value : Json) :
    Keyword.TypeHolds (some (traits.typeFor nullable)) value ↔
      (nullable = true ∧ value = .null) ∨ traits.type.Admits value := by
  have named := traits.type.ofName?_schemaType
  have null : JsonType.ofName? "null" = some .null := by decide
  have isNull : JsonType.null.holds value = true ↔ value = .null := by
    cases value <;> simp [JsonType.holds]
  rw [FieldType.admits_iff]
  cases nullable with
  | true =>
      simp [Keyword.TypeHolds, typeFor, Json.ofTexts, Rules.typesOf, Json.text?, named,
        null, isNull, or_comm]
  | false => simp [Keyword.TypeHolds, typeFor, Rules.typesOf, named]

theorem enumHolds_iff (traits : FieldTraits) (nullable : Bool) (value : Json) :
    Keyword.EnumHolds
        (traits.choices.map fun choices =>
          .arr (choices.map Choice.value ++ moreFor nullable)) value ↔
      (nullable = true ∧ value = .null) ∨ traits.ChoiceFits value := by
  have isNull : value.Equal .null ↔ value = .null := by
    constructor
    · intro equal
      cases equal
      rfl
    · rintro rfl
      exact .null
  cases given : traits.choices with
  | none => simp [Keyword.EnumHolds, ChoiceFits, given]
  | some choices =>
      cases nullable with
      | true =>
          simp [Keyword.EnumHolds, ChoiceFits, given, moreFor, or_and_right, exists_or,
            isNull, or_comm]
      | false => simp [Keyword.EnumHolds, ChoiceFits, given, moreFor]

end FieldTraits

namespace FieldMap

theorem propertiesHold_iff {fields : FieldMap} (sorted : Assoc.Sorted fields)
    (check : SchemaCheck) (location : Pointer) (value : Json) :
    Keyword.PropertiesHold check (some (.ofMembers fields.shape.properties)) location
        value ↔
      ∀ members name held field, value = .obj members → (name, held) ∈ members →
        (name, field) ∈ fields → check field.schema (location ++ [name]) held = [] := by
  simp only [Keyword.PropertiesHold, shape, Json.ofMembers, Option.some.injEq,
    Json.obj.injEq, forall_eq', get?_schemas sorted, Option.map_eq_some_iff,
    Assoc.get?_eq_some_iff sorted]
  constructor
  · intro accepted members name held field same present declared
    exact accepted members same name held present _ ⟨field, declared, rfl⟩
  · rintro accepted members same name held present _ ⟨field, declared, rfl⟩
    exact accepted members name held field same present declared

theorem requiredHolds_iff (fields : FieldMap) (value : Json) :
    Keyword.RequiredHolds
        (if fields.shape.required = [] then none
          else some (.ofTexts fields.shape.required)) value ↔
      ∀ members name field, value = .obj members → (name, field) ∈ fields →
        field.traits.required = true → ∃ held, (name, held) ∈ members := by
  have listed : ∀ name, name ∈ fields.shape.required ↔
      ∃ field, (name, field) ∈ fields ∧ field.traits.required = true :=
    fun _ => Field.mem_requiredNames
  have holds : Keyword.RequiredHolds
      (if fields.shape.required = [] then none
        else some (.ofTexts fields.shape.required)) value ↔
        ∀ members, value = .obj members → ∀ name, name ∈ fields.shape.required →
          (Assoc.get? name members).isSome = true := by
    cases fields.shape.required with
    | nil => simp [Keyword.RequiredHolds]
    | cons first rest => simp [Keyword.RequiredHolds, Json.ofTexts]
  simp only [holds, listed, Assoc.isSome_get?_iff]
  constructor
  · intro accepted members name field same declared required
    exact accepted members same name ⟨field, declared, required⟩
  · rintro accepted members same name ⟨field, declared, required⟩
    exact accepted members name field same declared required

theorem additionalHolds_iff {fields : FieldMap} (sorted : Assoc.Sorted fields)
    (keyword : Option Json) (value : Json) :
    Keyword.AdditionalHolds keyword (some (.ofMembers fields.shape.properties)) value ↔
      ∀ members name held, value = .obj members → keyword = some (.bool false) →
        (name, held) ∈ members → ∃ field, (name, field) ∈ fields := by
  have declared : ∀ name,
      (Assoc.get? name (Assoc.ofList (Field.schemas fields))).isSome = true ↔
        ∃ field, (name, field) ∈ fields := by
    intro name
    rw [get?_schemas sorted, Option.isSome_map, Assoc.isSome_get?_iff]
  simp only [Keyword.AdditionalHolds, shape, Json.ofMembers, Option.some.injEq,
    Json.obj.injEq, exists_eq_left', declared]
  constructor
  · intro accepted members name held same closed present
    exact accepted closed members same name held present
  · intro accepted closed members same name held present
    exact accepted members name held same closed present

end FieldMap

namespace Field

/-- The keywords for the keys of an object say what base values have to satisfy
inside, where the schemas inside do. -/
theorem inside_iff {traits : FieldTraits} {properties : Option FieldMap}
    (sorted : Assoc.Sorted (properties.getD [])) {type : Json} {more : List Json}
    {members : List (String × Json)}
    (constrained : traits.Constrained (properties.map FieldMap.shape) type more members)
    (check : SchemaCheck)
    (inside : ∀ name field, (name, field) ∈ properties.getD [] →
      ∀ location held, check field.schema location held = [] ↔ field.Fits held)
    (location : Pointer) {value : Json}
    (admitted : traits.type = .object ∨ ∀ members, value ≠ .obj members) :
    Keyword.RequiredHolds (Assoc.get? "required" members) value ∧
      Keyword.PropertiesHold check (Assoc.get? "properties" members) location value ∧
      Keyword.AdditionalHolds (Assoc.get? "additionalProperties" members)
        (Assoc.get? "properties" members) value ↔
    (∀ members name held field, value = .obj members → (name, held) ∈ members →
        (name, field) ∈ properties.getD [] → field.Fits held) ∧
      (∀ members name field, value = .obj members → (name, field) ∈ properties.getD [] →
        field.traits.required = true → ∃ held, (name, held) ∈ members) ∧
      (∀ members name held, value = .obj members →
        traits.additionalProperties = some false → (name, held) ∈ members →
        ∃ field, (name, field) ∈ properties.getD []) := by
  rcases admitted with object | noObject
  · have closed : some (Json.bool (traits.additionalProperties.getD true)) =
        some (.bool false) ↔ traits.additionalProperties = some false := by
      cases traits.additionalProperties <;> simp
    rw [constrained.required, constrained.properties, constrained.additional]
    simp only [object, if_true]
    cases properties with
    | none =>
        simp [Keyword.RequiredHolds, Keyword.PropertiesHold, Keyword.AdditionalHolds,
          closed]
        tauto
    | some fields =>
        simp only [Option.map_some, Option.bind_some, Option.getD_some] at sorted inside ⊢
        rw [FieldMap.requiredHolds_iff, FieldMap.propertiesHold_iff sorted,
          FieldMap.additionalHolds_iff sorted, closed]
        have present :
            (∀ members name held field, value = .obj members → (name, held) ∈ members →
              (name, field) ∈ fields →
              check field.schema (location ++ [name]) held = []) ↔
            (∀ members name held field, value = .obj members → (name, held) ∈ members →
              (name, field) ∈ fields → field.Fits held) := by
          constructor
          · intro accepted members name held field same present declared
            exact (inside name field declared _ held).mp
              (accepted members name held field same present declared)
          · intro fits members name held field same present declared
            exact (inside name field declared _ held).mpr
              (fits members name held field same present declared)
        rw [present]
        tauto
  · simp [Keyword.RequiredHolds, Keyword.PropertiesHold, Keyword.AdditionalHolds,
      noObject]

/-- The constraints on one value accept the base values, and null where it is listed
with the type and the choices. -/
theorem constrained_iff {traits : FieldTraits} {properties : Option FieldMap}
    (sorted : Assoc.Sorted (properties.getD [])) (nullable : Bool)
    {members : List (String × Json)}
    (constrained : traits.Constrained (properties.map FieldMap.shape)
      (traits.typeFor nullable) (FieldTraits.moreFor nullable) members)
    {base : String} {follow : Reference → Checker}
    (inside : ∀ name field, (name, field) ∈ properties.getD [] → ∀ location held,
      (Schema.ofJson base field.schema).violations follow location held = [] ↔
        field.Fits held)
    (location : Pointer) (value : Json) :
    (Schema.ofJson base (.obj members)).violations follow location value = [] ↔
      (nullable = true ∧ value = .null) ∨ (Field.of traits properties).Base value := by
  rw [Schema.ofJson_eq_nil_iff constrained.generated, constrained.type, constrained.enum,
    constrained.format, constrained.others "items" (by decide), FieldTraits.typeHolds_iff,
    FieldTraits.enumHolds_iff, FieldTraits.formatHolds_iff, base_iff]
  have noItems : ∀ check, Keyword.ItemsHold check none location value := by
    simp [Keyword.ItemsHold]
  by_cases isNull : nullable = true ∧ value = .null
  · obtain ⟨accepts, rfl⟩ := isNull
    simp [accepts, noItems, FieldTraits.FormatFits, Keyword.RequiredHolds,
      Keyword.PropertiesHold, Keyword.AdditionalHolds]
  · by_cases type : traits.type.Admits value
    · have admitted : traits.type = .object ∨ ∀ members, value ≠ .obj members := by
        generalize traits.type = kind at type
        cases type <;> simp
      have keys := inside_iff sorted constrained
        (fun schema => (Schema.ofJson base schema).violations follow) inside location
        admitted
      simp only [isNull, false_or, noItems, and_true, keys, type, true_and, traits_of,
        inner_of]
      tauto
    · simp [isNull, type]

/-- The schema of a list accepts the lists whose items its item schema accepts, and
null where it is listed with the type. -/
theorem list_iff (traits : FieldTraits) (item : List (String × Json)) (base : String)
    (follow : Reference → Checker) (location : Pointer) (value : Json) :
    (Schema.ofJson base (.obj (traits.listMembers (.obj item)))).violations follow
        location value = [] ↔
      (traits.allowNull = true ∧ value = .null) ∨
        ∃ items, value = .arr items ∧
          ∀ (position : Nat) (entry : Json), items[position]? = some entry →
            (Schema.ofJson base (.obj item)).violations follow
              (location ++ [toString position]) entry = [] := by
  have generated := traits.listMembers_generated item
  have array : JsonType.ofName? "array" = some .array := by decide
  have null : JsonType.ofName? "null" = some .null := by decide
  have type : Keyword.TypeHolds (some (traits.typeJson "array")) value ↔
      (traits.allowNull = true ∧ value = .null) ∨ ∃ items, value = .arr items := by
    cases accepts : traits.allowNull <;> cases value <;>
      simp [Keyword.TypeHolds, FieldTraits.typeJson, accepts, Json.ofTexts, Rules.typesOf,
        Json.text?, array, null, JsonType.holds]
  rw [Schema.ofJson_eq_nil_iff generated]
  simp [FieldTraits.get?_listMembers, type, Keyword.EnumHolds, Keyword.FormatHolds,
    Keyword.RequiredHolds, Keyword.PropertiesHold, Keyword.AdditionalHolds,
    Keyword.ItemsHold]
  cases value <;> simp

/-- The schema of a field finds nothing in a value exactly when the field accepts
the value. -/
theorem schema_eq_nil_iff (base : String) (follow : Reference → Checker) (field : Field)
    (ordered : field.Ordered) (location : Pointer) (value : Json) :
    (Schema.ofJson base field.schema).violations follow location value = [] ↔
      field.Fits value := by
  induction field using Field.induction generalizing location value with
  | of traits properties induction =>
      obtain ⟨sorted, orderedInside⟩ := (ordered_iff _).mp ordered
      have inside : ∀ name field, (name, field) ∈ properties.getD [] → ∀ location held,
          (Schema.ofJson base field.schema).violations follow location held = [] ↔
            field.Fits held :=
        fun name field declared =>
          induction name field declared (orderedInside name field declared)
      have value := constrained_iff sorted traits.nullable
        (traits.valueMembers_constrained (properties.map FieldMap.shape)) inside
      rw [schema_eq, FieldTraits.schema_eq_members, fits_iff]
      cases many : traits.multiple with
      | false => simp [value, FieldTraits.nullable, many]
      | true =>
          have entries : ∀ items : List Json,
              (∀ (position : Nat) entry, items[position]? = some entry →
                (Field.of traits properties).Base entry) ↔
              ∀ item, item ∈ items → (Field.of traits properties).Base item := by
            intro items
            simp only [List.mem_iff_getElem?, forall_exists_index]
            exact forall_comm
          simp [list_iff, value, FieldTraits.nullable, many, entries]

end Field

namespace FieldMap

theorem members_generated (fields : FieldMap) : Generated fields.members := by
  constructor
  · intro keyword other
    simp only [generatedKeywords, List.mem_cons, List.not_mem_nil, or_false,
      not_or] at other
    simp [get?_members, other]
  · simp [get?_members]
  · simp [get?_members]

/-- The schema of fields finds nothing in a payload exactly when the fields accept
the payload, whatever is said about references. -/
theorem schema_eq_nil_iff {fields : FieldMap} (ordered : fields.Ordered) (base : String)
    (follow : Reference → Checker) (location : Pointer) (payload : Json) :
    (Schema.ofJson base fields.schema).violations follow location payload = [] ↔
      fields.Accepts payload := by
  obtain ⟨sorted, orderedInside⟩ := ordered
  have inside : ∀ name field, (name, field) ∈ fields → ∀ location held,
      (Schema.ofJson base field.schema).violations follow location held = [] ↔
        field.Fits held :=
    fun name field declared =>
      Field.schema_eq_nil_iff base follow field (orderedInside name field declared)
  have object : JsonType.ofName? "object" = some .object := by decide
  have type : Keyword.TypeHolds (some (.str "object")) payload ↔
      ∃ members, payload = .obj members := by
    cases payload <;> simp [Keyword.TypeHolds, Rules.typesOf, object, JsonType.holds]
  have shown : fields.schema = .obj fields.members := rfl
  rw [shown, Schema.ofJson_eq_nil_iff fields.members_generated]
  simp only [get?_members]
  rw [accepts_iff]
  simp only [String.reduceEq, if_true, if_false, type]
  rw [requiredHolds_iff, propertiesHold_iff sorted, additionalHolds_iff sorted]
  constructor
  · rintro ⟨⟨members, rfl⟩, _, _, required, properties, declared, _⟩
    refine ⟨members, rfl, ?_, ?_, ?_⟩
    · intro name held present
      exact declared members name held rfl rfl present
    · intro name field known
      exact required members name field rfl known
    · intro name held field present known
      exact (inside name field known _ held).mp
        (properties members name held field rfl present known)
  · rintro ⟨members, rfl, declared, required, fits⟩
    refine ⟨⟨members, rfl⟩, ?_, ?_, ?_, ?_, ?_, ?_⟩
    · simp [Keyword.EnumHolds]
    · simp [Keyword.FormatHolds]
    · intro _ name field same known
      cases same
      exact required name field known
    · intro _ name held field same present known
      cases same
      exact (inside name field known _ held).mpr (fits name held field present known)
    · intro _ name held same _ present
      cases same
      exact declared name held present
    · simp [Keyword.ItemsHold]

end FieldMap

theorem CompiledSchema.schema_of_compile {source : Json} {compiled : CompiledSchema}
    (compiles : CompiledSchema.compile source = .ok compiled) :
    compiled.schema = Schema.ofJson Library.rootBase source := by
  unfold compile at compiles
  simp only at compiles
  split at compiles
  · contradiction
  · contradiction
  · generalize Links.extend _ _ _ _ = linked at compiles
    cases linked with
    | error fault => nomatch compiles
    | ok links =>
        cases compiles
        rfl

/-- The compiled schema of fields finds nothing in a payload exactly when the fields
accept the payload. -/
theorem FieldMap.compiled_violations_eq_nil_iff {fields : FieldMap}
    (ordered : fields.Ordered) {compiled : CompiledSchema}
    (compiles : CompiledSchema.compile fields.schema = .ok compiled)
    (payload : Json) :
    compiled.violations payload = [] ↔ fields.Accepts payload := by
  unfold CompiledSchema.violations
  rw [CompiledSchema.schema_of_compile compiles]
  exact schema_eq_nil_iff ordered _ _ _ _

/-- The fields of a line: a count, and one of two codes or null. -/
def lineFields : FieldMap :=
  [("code", ((Field.new "Code" .string).choose [.str "A", .str "B"]).acceptNull),
    ("count", (Field.new "Count" .integer).require)]

/-- The fields of an order: a list of lines, and a note that may be null. -/
def orderFields : FieldMap :=
  [("lines", ((Field.new "Lines" .object).require.makeMultiple).contain lineFields),
    ("note", (Field.new "Note" .text).acceptNull)]

def orderPayload : Json :=
  .obj [("lines", .arr
      [.obj [("code", .str "B"), ("count", .ofNat 2)],
        .obj [("code", .null), ("count", .ofNat 1)]]),
    ("note", .null)]

theorem orderFields_accepts_orderPayload :
    orderFields.Ordered ∧ ∃ compiled,
      CompiledSchema.compile orderFields.schema = .ok compiled ∧
        compiled.violations orderPayload = [] ∧ orderFields.Accepts orderPayload := by
  have lines : Assoc.Sorted lineFields := by decide
  have ordered : orderFields.Ordered := by
    refine ⟨by decide, (Field.allOrdered_iff orderFields).mp ?_⟩
    exact ⟨⟨lines, trivial, trivial, trivial⟩, trivial, trivial⟩
  have found : ((CompiledSchema.compile orderFields.schema).toOption.map fun compiled =>
      compiled.violations orderPayload) = some [] := by
    decide +kernel
  cases compiles : CompiledSchema.compile orderFields.schema with
  | error fault => simp [compiles, Except.toOption] at found
  | ok compiled =>
      have accepted : compiled.violations orderPayload = [] := by
        simpa [compiles, Except.toOption] using found
      exact ⟨ordered, compiled, rfl, accepted,
        (FieldMap.compiled_violations_eq_nil_iff ordered compiles orderPayload).mp
          accepted⟩

end EventDelivery
