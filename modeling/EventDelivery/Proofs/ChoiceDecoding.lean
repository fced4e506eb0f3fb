import EventDelivery.Proofs.FieldDecoding
import EventDelivery.Proofs.FieldKeywords
import EventDelivery.Proofs.KeywordSemantics

/-!
# What becomes of labels

A choice is decoded as what stands in the list, with its label when it has one.
Fields that are encoded and decoded have the schema that they had exactly when no
choice that the schema is about has a label.
-/

namespace EventDelivery

/-- The choice that decoding the encoded choice gives back. -/
def Choice.reread (choice : Choice) : Choice := .bare choice.toJson

namespace FieldTraits

/-- The traits that decoding the encoded traits gives back. -/
def reread (traits : FieldTraits) : FieldTraits :=
  { traits with
    default := traits.default.filter fun mapping => mapping ≠ .null
    choices := traits.choices.map (List.map Choice.reread) }

def encoded (traits : FieldTraits) (inner : Option (List (String × Json))) :
    List (String × Json) :=
  Assoc.ofList (traits.toMembers inner)

private theorem get?_encoded (traits : FieldTraits) (inner : Option (List (String × Json)))
    (name : String) :
    Assoc.get? name (traits.encoded inner) = Assoc.last? name (traits.toMembers inner) :=
  Assoc.get?_ofList _ _

/-- Encoded traits are read as themselves, apart from their choices and an initial
mapping that is null. -/
theorem read_encoded (traits : FieldTraits) (inner : Option (List (String × Json)))
    (properties : Option FieldMap) :
    read (.done properties) (.members (traits.encoded inner)) =
      .done (.of traits.reread properties) := by
  have type : Wire.oneOf FieldType.names (.str traits.type.name) = .ok traits.type := by
    cases traits.type <;> rfl
  rw [read_eq_done_iff]
  have found : ∀ name, Assoc.get? name (traits.encoded inner) = Assoc.last? name _ :=
    traits.get?_encoded inner
  simp only [toMembers, Assoc.last?_append, Record.last?_present] at found
  have default : Assoc.get? "default" (traits.encoded inner) = traits.default := by
    simp [found]
  have choices : Assoc.get? "choices" (traits.encoded inner) =
      traits.choices.map fun choices => .arr (choices.map Choice.toJson) := by
    simp [found]
  have format : Assoc.get? "format" (traits.encoded inner) = traits.format.map .str := by
    simp [found]
  have additional : Assoc.get? "additionalProperties" (traits.encoded inner) =
      traits.additionalProperties.map .bool := by
    simp [found]
  have placeholder : Assoc.get? "placeholder" (traits.encoded inner) =
      traits.placeholder.map .str := by
    simp [found]
  refine ⟨?_, ?_, ?_, ?_, ?_, ?_, ?_, ?_, ?_, ?_, rfl, ?_, ?_, ?_⟩
  · exact Record.required_eq_done (.str traits.label) (by simp [found]) rfl
  · exact Record.optional_eq_done (.str traits.description) (by simp [found]) rfl
  · exact Record.optional_eq_done (.str traits.type.name) (by simp [found]) type
  · exact Record.optional_eq_done (.bool traits.required) (by simp [found]) rfl
  · exact Record.optional_any_of_present default
  · simp [Record.aliased, found, Record.Reading.given, Wire.flag, reread]
  · exact Record.optional_eq_done (.bool traits.multiple) (by simp [found]) rfl
  · exact Record.optional_eq_done (.bool traits.allowNull) (by simp [found]) rfl
  · apply Record.optional_of_present (List.map Choice.reread) choices
    intro listed
    simp only [Wire.nullable, Wire.list, Except.map]
    rw [Wire.decodeItems_ok _ _ Choice.reread (fun _ => rfl)]
  · exact Record.optional_of_present_self format fun _ => rfl
  · exact Record.optional_of_present_self additional fun _ => rfl
  · exact Record.optional_eq_done (.bool traits.dynamic) (by simp [found]) rfl
  · exact Record.optional_of_present_self placeholder fun _ => rfl

end FieldTraits

namespace Field

mutual

/-- The field that decoding the encoded field gives back. -/
def reread : Field → Field
  | .of traits none => .of traits.reread none
  | .of traits (some fields) => .of traits.reread (some (rereadAll fields))

def rereadAll : List (String × Field) → List (String × Field)
  | [] => []
  | (name, field) :: rest => (name, field.reread) :: rereadAll rest

end

theorem rereadAll_eq_map (fields : FieldMap) :
    rereadAll fields = fields.map fun entry => (entry.1, entry.2.reread) := by
  induction fields with
  | nil => rfl
  | cons entry rest induction => simp [rereadAll, induction]

theorem reread_of (traits : FieldTraits) (properties : Option FieldMap) :
    (Field.of traits properties).reread =
      .of traits.reread (properties.map rereadAll) := by
  cases properties <;> rfl

theorem toMembers_eq_map (fields : FieldMap) :
    toMembers fields = fields.map fun entry => (entry.1, entry.2.toJson) := by
  induction fields with
  | nil => rfl
  | cons entry rest induction => simp [toMembers, induction]

private theorem toJson_of (traits : FieldTraits) (properties : Option FieldMap) :
    (Field.of traits properties).toJson =
      .obj (traits.encoded (properties.map toMembers)) := by
  cases properties <;> rfl

theorem mapOfMembers_toMembers {fields : FieldMap}
    (decodes : ∀ name field, (name, field) ∈ fields →
      Field.ofJson field.toJson = .ok field.reread) :
    mapOfMembers (toMembers fields) = .ok (rereadAll fields) := by
  induction fields with
  | nil => rfl
  | cons entry rest induction =>
      obtain ⟨name, field⟩ := entry
      have head := decodes name field List.mem_cons_self
      have tail := induction fun name field later =>
        decodes name field (List.mem_cons_of_mem _ later)
      simp [toMembers, mapOfMembers, rereadAll, head, tail, bind, Except.bind]

theorem rereadAll_sorted {fields : FieldMap} (sorted : Assoc.Sorted fields) :
    Assoc.Sorted (rereadAll fields) := by
  rw [rereadAll_eq_map]
  exact (Assoc.sorted_map_iff (fun entry => entry.2.reread) fields).mpr sorted

theorem ofJson_toMembers {fields : FieldMap} (sorted : Assoc.Sorted fields)
    (decodes : ∀ name field, (name, field) ∈ fields →
      Field.ofJson field.toJson = .ok field.reread) :
    FieldMap.ofJson (.ofMembers (toMembers fields)) = .ok (rereadAll fields) := by
  have encodedSorted : Assoc.Sorted (toMembers fields) := by
    rw [toMembers_eq_map]
    exact (Assoc.sorted_map_iff (fun entry => entry.2.toJson) fields).mpr sorted
  rw [Json.ofMembers, Assoc.ofList_eq_self encodedSorted, FieldMap.ofJson,
    mapOfMembers_toMembers decodes, Except.map,
    Assoc.ofList_eq_self (rereadAll_sorted sorted)]

private theorem nestedOfJson_ofMembers (members : List (String × Json)) :
    nestedOfJson (.ofMembers members) =
      (FieldMap.ofJson (.ofMembers members)).map some := by
  rw [Json.ofMembers, nestedOfJson, FieldMap.ofJson]
  cases mapOfMembers (Assoc.ofList members) <;> rfl

/-- A field that is encoded is decoded to itself, apart from its choices and initial
mappings that are null. -/
theorem ofJson_toJson (field : Field) (ordered : field.Ordered) :
    Field.ofJson field.toJson = .ok field.reread := by
  induction field using Field.induction with
  | of traits properties induction =>
      obtain ⟨sorted, orderedInside⟩ := (ordered_iff _).mp ordered
      have given : Assoc.get? "properties" (traits.encoded (properties.map toMembers)) =
          (properties.map toMembers).map .ofMembers := by
        rw [FieldTraits.get?_encoded]
        simp [FieldTraits.toMembers, Record.last?_present]
      have nested : FieldTraits.record.optional
          (.members (traits.encoded (properties.map toMembers))) "properties" none
          nestedOfJson = .done (properties.map rereadAll) := by
        cases properties with
        | none => exact Record.optional_eq_default given
        | some fields =>
            have decoded : FieldMap.ofJson (.ofMembers (toMembers fields)) =
                .ok (rereadAll fields) :=
              ofJson_toMembers sorted fun name field declared =>
                induction name field declared (orderedInside name field declared)
            apply Record.optional_eq_done _ given
            rw [nestedOfJson_ofMembers, decoded]
            rfl
      rw [toJson_of, ofJson_eq rfl, nested, FieldTraits.read_encoded, reread_of]
      rfl

end Field

namespace Choice

/-- A choice without a label. -/
def IsBare : Choice → Prop
  | .bare _ => True
  | .labeled _ _ => False

/-- The value that stands for a label and a value. -/
private def labeledJson (label : String) (value : Json) : Json :=
  .obj [("label", .str label), ("value", value)]

private theorem toJson_labeled (label : String) (value : Json) :
    (Choice.labeled label value).toJson = labeledJson label value := by
  have above : ¬ "value" < "label" := by decide
  simp [toJson, Json.ofMembers, Assoc.ofList, Assoc.insertAll, Assoc.insert, above,
    labeledJson]

private theorem labeledJson_ne (label : String) (value : Json) :
    labeledJson label value ≠ value := by
  intro same
  have sizes := congrArg sizeOf same
  simp [labeledJson] at sizes
  omega

private theorem value_reread_iff (choice : Choice) :
    choice.reread.value = choice.value ↔ choice.IsBare := by
  cases choice with
  | bare chosen => simp [reread, Choice.value, toJson, IsBare]
  | labeled label chosen =>
      simp [reread, Choice.value, toJson_labeled, labeledJson_ne, IsBare]

end Choice

/-- The choices of a field, and of the fields inside that its schema is about, have
no labels. -/
inductive Field.Unlabeled : Field → Prop where
  | of {field : Field} :
      (∀ choices, field.traits.choices = some choices →
        ∀ choice, choice ∈ choices → choice.IsBare) →
      (field.traits.type = .object → ∀ name inside, (name, inside) ∈ field.inner →
        Field.Unlabeled inside) →
      Unlabeled field

/-- The choices that the schema of fields is about have no labels. -/
def FieldMap.Unlabeled (fields : FieldMap) : Prop :=
  ∀ name field, (name, field) ∈ fields → field.Unlabeled

namespace FieldTraits

/-- Rereading leaves the listed values as they are exactly when no choice has a label. -/
theorem listed_reread_iff (traits : FieldTraits) (more : List Json) :
    (traits.reread.choices.map fun choices =>
          Json.arr (choices.map Choice.value ++ more)) =
        (traits.choices.map fun choices =>
          Json.arr (choices.map Choice.value ++ more)) ↔
      ∀ choices, traits.choices = some choices →
        ∀ choice, choice ∈ choices → choice.IsBare := by
  cases given : traits.choices with
  | none => simp [reread, given]
  | some choices =>
      simp [reread, given, Choice.value_reread_iff]

/-- The constraints depend on the choices by the listed values alone, and on the shape
inside for objects alone. -/
theorem constraints_reread (traits : FieldTraits) {nested inside : Option ObjectShape}
    {more : List Json} (type : Json)
    (listed :
      (traits.reread.choices.map fun choices =>
          Json.arr (choices.map Choice.value ++ more)) =
        traits.choices.map fun choices => Json.arr (choices.map Choice.value ++ more))
    (shapes : traits.type = .object → inside = nested) :
    traits.reread.constraints inside type more = traits.constraints nested type more := by
  have enum := congrArg (Option.map fun values => ("enum", values)) listed
  simp only [Option.map_map, Function.comp_def] at enum
  have kind : traits.reread.type = traits.type := rfl
  have format : traits.reread.formatName = traits.formatName := rfl
  have additional : traits.reread.additionalProperties = traits.additionalProperties := rfl
  rw [constraints_eq, constraints_eq, enum, kind, format, additional]
  by_cases object : traits.type = .object
  · rw [shapes object]
  · rw [if_neg object, if_neg object]

end FieldTraits

namespace Field

theorem unlabeled_iff (field : Field) :
    field.Unlabeled ↔
      (∀ choices, field.traits.choices = some choices →
        ∀ choice, choice ∈ choices → choice.IsBare) ∧
      (field.traits.type = .object → ∀ name inside, (name, inside) ∈ field.inner →
        inside.Unlabeled) := by
  constructor
  · intro unlabeled
    cases unlabeled with
    | of choices inside => exact ⟨choices, inside⟩
  · rintro ⟨choices, inside⟩
    exact .of choices inside

theorem requiredNames_rereadAll (fields : FieldMap) :
    requiredNames (rereadAll fields) = requiredNames fields := by
  have traits : ∀ field : Field,
      field.reread.traits.required = field.traits.required := by
    rintro ⟨traits, properties⟩
    rw [reread_of]
    rfl
  simp [requiredNames, rereadAll_eq_map, List.filter_map, Function.comp_def, traits]

/-- Reread fields have the shape of the fields exactly when they have their schemas. -/
theorem shape_rereadAll_iff (fields : FieldMap) :
    FieldMap.shape (rereadAll fields) = fields.shape ↔
      ∀ name field, (name, field) ∈ fields → field.reread.schema = field.schema := by
  rw [FieldMap.shape, FieldMap.shape, requiredNames_rereadAll]
  simp [schemas_eq_map, rereadAll_eq_map]

end Field

namespace FieldMap

private theorem ofMembers_properties {fields : FieldMap} (sorted : Assoc.Sorted fields) :
    Json.ofMembers fields.shape.properties = .obj fields.shape.properties := by
  rw [Json.ofMembers, shape, Assoc.ofList_eq_self (Field.schemas_sorted sorted)]

/-- The properties of reread fields are those of the fields exactly when the schemas
are the same. -/
theorem properties_rereadAll_iff {fields : FieldMap} (sorted : Assoc.Sorted fields) :
    Json.ofMembers (shape (Field.rereadAll fields)).properties =
        .ofMembers fields.shape.properties ↔
      ∀ name field, (name, field) ∈ fields → field.reread.schema = field.schema := by
  rw [ofMembers_properties sorted, ofMembers_properties (Field.rereadAll_sorted sorted)]
  simp [shape, Field.schemas_eq_map, Field.rereadAll_eq_map]

end FieldMap

namespace Field

/-- The schema for one value of a reread field is that of the field exactly when the
listed values and the schemas inside are. -/
theorem valueMembers_reread_iff (traits : FieldTraits) {properties : Option FieldMap}
    (sorted : Assoc.Sorted (properties.getD [])) :
    traits.reread.valueMembers ((properties.map rereadAll).map FieldMap.shape) =
        traits.valueMembers (properties.map FieldMap.shape) ↔
      (∀ choices, traits.choices = some choices →
        ∀ choice, choice ∈ choices → choice.IsBare) ∧
      (traits.type = .object → ∀ name inside, (name, inside) ∈ properties.getD [] →
        inside.reread.schema = inside.schema) := by
  have reread := traits.reread.valueMembers_constrained
    ((properties.map rereadAll).map FieldMap.shape)
  have plain := traits.valueMembers_constrained (properties.map FieldMap.shape)
  rw [← traits.listed_reread_iff (FieldTraits.moreFor traits.nullable)]
  constructor
  · intro same
    refine ⟨?_, ?_⟩
    · exact reread.enum.symm.trans (same ▸ plain.enum)
    · intro object
      have shapes := reread.properties.symm.trans (same ▸ plain.properties)
      cases properties with
      | none => simp
      | some fields =>
          have type : traits.reread.type = .object := object
          simp only [type, object, if_true, Option.map_some, Option.some.injEq] at shapes
          exact (FieldMap.properties_rereadAll_iff sorted).mp shapes
  · rintro ⟨listed, inside⟩
    have shapes : traits.type = .object →
        (properties.map rereadAll).map FieldMap.shape =
          properties.map FieldMap.shape := by
      intro object
      cases properties with
      | none => rfl
      | some fields =>
          simpa using (shape_rereadAll_iff fields).mpr (inside object)
    have constraints :=
      traits.constraints_reread (traits.typeFor traits.nullable) listed shapes
    exact congrArg (fun constraints => Assoc.ofList
      ((if traits.multiple then [] else traits.heading) ++ constraints)) constraints

/-- The schema of a reread field is that of the field exactly when that of one value
is. -/
theorem schema_reread_eq_iff (traits : FieldTraits) (inside nested : Option ObjectShape) :
    traits.reread.schema inside = traits.schema nested ↔
      traits.reread.valueMembers inside = traits.valueMembers nested := by
  have many : traits.reread.multiple = traits.multiple := rfl
  have around : ∀ item, traits.reread.listMembers item = traits.listMembers item :=
    fun _ => rfl
  rw [FieldTraits.schema_eq_members, FieldTraits.schema_eq_members, many]
  cases traits.multiple with
  | false => simp
  | true =>
      constructor
      · intro same
        have members : traits.listMembers (.obj (traits.reread.valueMembers inside)) =
            traits.listMembers (.obj (traits.valueMembers nested)) := by
          simpa [around] using same
        have items := congrArg (Assoc.get? "items") members
        rw [FieldTraits.get?_listMembers _ _ (by decide) (by decide),
          FieldTraits.get?_listMembers _ _ (by decide) (by decide)] at items
        simpa using items
      · intro same
        rw [same]
        rfl

/-- A field that is encoded and decoded has its schema exactly when no choice that the
schema is about has a label. -/
theorem schema_reread_iff (field : Field) (ordered : field.Ordered) :
    field.reread.schema = field.schema ↔ field.Unlabeled := by
  induction field using Field.induction with
  | of traits properties induction =>
      obtain ⟨sorted, orderedInside⟩ := (ordered_iff _).mp ordered
      rw [reread_of, schema_eq, schema_eq, schema_reread_eq_iff,
        valueMembers_reread_iff traits sorted, unlabeled_iff]
      have inside : ∀ name inside, (name, inside) ∈ properties.getD [] →
          (inside.reread.schema = inside.schema ↔ inside.Unlabeled) :=
        fun name inside declared =>
          induction name inside declared (orderedInside name inside declared)
      constructor
      · rintro ⟨listed, same⟩
        exact ⟨listed, fun object name field declared =>
          (inside name field declared).mp (same object name field declared)⟩
      · rintro ⟨listed, unlabeled⟩
        exact ⟨listed, fun object name field declared =>
          (inside name field declared).mpr (unlabeled object name field declared)⟩

end Field

namespace FieldMap

/-- Fields that are encoded are decoded to their reread fields. -/
theorem ofJson_toJson {fields : FieldMap} (ordered : fields.Ordered) :
    FieldMap.ofJson fields.toJson = .ok (Field.rereadAll fields) := by
  obtain ⟨sorted, orderedInside⟩ := ordered
  exact Field.ofJson_toMembers sorted fun name field declared =>
    Field.ofJson_toJson field (orderedInside name field declared)

/-- The schema of reread fields is that of the fields exactly when no choice that it is
about has a label. -/
theorem schema_rereadAll_iff {fields : FieldMap} (ordered : fields.Ordered) :
    schema (Field.rereadAll fields) = fields.schema ↔ fields.Unlabeled := by
  obtain ⟨sorted, orderedInside⟩ := ordered
  have inside :
      (∀ name field, (name, field) ∈ fields → field.reread.schema = field.schema) ↔
        fields.Unlabeled := by
    constructor
    · intro same name field declared
      exact (Field.schema_reread_iff field (orderedInside name field declared)).mp
        (same name field declared)
    · intro unlabeled name field declared
      exact (Field.schema_reread_iff field (orderedInside name field declared)).mpr
        (unlabeled name field declared)
  rw [← inside]
  constructor
  · intro same
    have members : members (Field.rereadAll fields) = fields.members :=
      Json.obj.inj same
    have properties := congrArg (Assoc.get? "properties") members
    rw [get?_members, get?_members] at properties
    exact (properties_rereadAll_iff sorted).mp (by simpa using properties)
  · intro same
    have shapes := (Field.shape_rereadAll_iff fields).mpr same
    rw [schema, schema, shapes]

end FieldMap

namespace Field

/-- The list of values in the schema of a field; that of a list holds it for its items. -/
def listedValues? (field : Field) : Option Json :=
  (if field.traits.multiple then field.schema.get? "items" else some field.schema).bind
    (Json.get? "enum")

theorem listedValues?_eq (field : Field) :
    field.listedValues? = field.traits.choices.map fun choices =>
      .arr (choices.map Choice.value ++ FieldTraits.moreFor field.traits.nullable) := by
  obtain ⟨traits, properties⟩ := field
  have enum := (traits.valueMembers_constrained (properties.map FieldMap.shape)).enum
  rw [listedValues?, schema_eq, FieldTraits.schema_eq_members, traits_of, ← enum]
  cases traits.multiple with
  | false => rfl
  | true =>
      have items : Assoc.get? "items" (traits.listMembers
          (.obj (traits.valueMembers (properties.map FieldMap.shape)))) =
            some (.obj (traits.valueMembers (properties.map FieldMap.shape))) := by
        rw [FieldTraits.get?_listMembers _ _ (by decide) (by decide)]
        rfl
      simp [Json.get?, items]

end Field

namespace Choice

/-- Each element that is an object of a label and a value contributes the value at its
position. -/
def Contribute (listed values : List Json) : Prop :=
  ∀ (position : Nat) label value, listed[position]? = some (labeledJson label value) →
    values[position]? = some value

theorem contribute_append_iff (listed more : List Json) :
    Contribute listed (listed ++ more) ↔
      ∀ label value, labeledJson label value ∉ listed := by
  constructor
  · intro contribute label value member
    obtain ⟨position, found⟩ := List.mem_iff_getElem?.mp member
    have inside := (List.getElem?_eq_some_iff.mp found).1
    have same := contribute position label value found
    rw [List.getElem?_append_left inside, found, Option.some.injEq] at same
    exact labeledJson_ne label value same
  · intro none position label value found
    exact absurd (List.mem_of_getElem? found) (none label value)

end Choice

/-- A decoded field lists the elements of its choices as they are given, at every depth,
so that labels are never told from values; and fields that are encoded and decoded keep
their schema exactly when no choice that it is about has a label. -/
theorem FieldMap.labels_after_decoding (definition : Json) (fields : FieldMap) :
    (∀ field, Field.ofJson definition = .ok field →
      ∀ path given listed, FieldTraits.definitionAt? definition path = some given →
        FieldTraits.listed? given = some listed →
        ∃ inside, field.at? path = some inside ∧
          let values := listed ++ FieldTraits.moreFor inside.traits.nullable
          inside.listedValues? = some (.arr values) ∧
            (Choice.Contribute listed values ↔
              ∀ label value, Choice.labeledJson label value ∉ listed) ∧
            ∀ value, Keyword.EnumHolds inside.listedValues? value ↔
              ∃ element, element ∈ values ∧ value.Equal element) ∧
    (fields.Ordered →
      ∃ decoded, FieldMap.ofJson fields.toJson = .ok decoded ∧
        (decoded.schema = fields.schema ↔ fields.Unlabeled)) := by
  constructor
  · intro field decoded path given listed found elements
    obtain ⟨inside, insideFound, insideDecoded⟩ := Field.at?_of_ofJson decoded found
    obtain ⟨choices, _⟩ := Field.parts_of_ofJson insideDecoded
    refine ⟨inside, insideFound, ?_⟩
    have values : inside.listedValues? =
        some (.arr (listed ++ FieldTraits.moreFor inside.traits.nullable)) := by
      have bare : Choice.value ∘ Choice.bare = id := rfl
      rw [Field.listedValues?_eq, choices, elements]
      simp [bare]
    refine ⟨values, Choice.contribute_append_iff listed _, ?_⟩
    intro value
    rw [values]
    simp [Keyword.EnumHolds]
  · intro ordered
    exact ⟨Field.rereadAll fields, ofJson_toJson ordered, schema_rereadAll_iff ordered⟩

/-- An account with a plan that is chosen by its label. -/
def accountDefinition : Json :=
  .obj [("label", .str "Account"),
    ("properties", .obj
      [("plan", .obj
        [("choices", .arr [Choice.labeledJson "Pro plan" (.str "pro")]),
          ("label", .str "Plan")])]),
    ("type", .str "object")]

/-- The account that the definition is decoded to: its plan is an object. -/
def accountField : Field :=
  (Field.new "Account" .object).contain
    [("plan", (Field.new "Plan" .string).choose
      [Choice.labeledJson "Pro plan" (.str "pro")])]

/-- The account as it is meant: its plan is a text with a label. -/
def accountFields : FieldMap :=
  [("account", (Field.new "Account" .object).contain
    [("plan", (Field.new "Plan" .string).withTraits fun traits =>
      { traits with choices := some [.labeled "Pro plan" (.str "pro")] })])]

theorem accountFields_labels_after_decoding :
    Field.ofJson accountDefinition = .ok accountField ∧
    (∃ plan, accountField.at? ["plan"] = some plan ∧
      plan.listedValues? = some (.arr [Choice.labeledJson "Pro plan" (.str "pro")])) ∧
    accountFields.Ordered ∧
      ∃ decoded, FieldMap.ofJson accountFields.toJson = .ok decoded ∧
        decoded.schema ≠ accountFields.schema := by
  obtain ⟨listed, reread⟩ :=
    FieldMap.labels_after_decoding accountDefinition accountFields
  have decodes : Field.ofJson accountDefinition = .ok accountField := rfl
  have ordered : accountFields.Ordered := by
    refine ⟨by decide, (Field.allOrdered_iff accountFields).mp ?_⟩
    exact ⟨⟨by decide, trivial, trivial⟩, trivial⟩
  have labeled : ¬ accountFields.Unlabeled := by
    intro unlabeled
    have account := unlabeled "account" _ List.mem_cons_self
    have plan := ((Field.unlabeled_iff _).mp account).2 rfl "plan" _ List.mem_cons_self
    exact ((Field.unlabeled_iff _).mp plan).1 _ rfl _ List.mem_cons_self
  refine ⟨decodes, ?_, ordered, ?_⟩
  · obtain ⟨plan, found, values, _⟩ := listed _ decodes ["plan"] _ _ rfl rfl
    cases found
    exact ⟨_, rfl, values⟩
  · obtain ⟨decoded, rereads, same⟩ := reread ordered
    exact ⟨decoded, rereads, fun equal => labeled (same.mp equal)⟩

end EventDelivery
