import EventDelivery.Proofs.FieldTree

/-!
# What fields are compiled to

The keywords of the schemas of fields, found by name: those that constrain one
value, those that stand around them for a list, and those of a whole payload.
-/

namespace EventDelivery

namespace ObjectShape

theorem last?_members (shape : ObjectShape) (key : String) :
    Assoc.last? key shape.members =
      if key = "properties" then some (.ofMembers shape.properties)
      else if key = "required" ∧ shape.required ≠ [] then some (.ofTexts shape.required)
      else none := by
  unfold members
  cases shape.required with
  | nil => simp [eq_comm]
  | cons name rest =>
      by_cases properties : key = "properties"
      · subst properties
        simp
      · simp [properties, eq_comm]

end ObjectShape

namespace FieldTraits

/-- The keywords of the constraints on one value. -/
structure Constrained (traits : FieldTraits) (nested : Option ObjectShape) (type : Json)
    (more : List Json) (members : List (String × Json)) : Prop where
  type : Assoc.get? "type" members = some type
  format : Assoc.get? "format" members = traits.formatName.map .str
  enum : Assoc.get? "enum" members =
    traits.choices.map fun choices => .arr (choices.map Choice.value ++ more)
  properties : Assoc.get? "properties" members =
    if traits.type = .object then nested.map fun shape => .ofMembers shape.properties
    else none
  required : Assoc.get? "required" members =
    if traits.type = .object then
      nested.bind fun shape =>
        if shape.required = [] then none else some (.ofTexts shape.required)
    else none
  additional : Assoc.get? "additionalProperties" members =
    if traits.type = .object then some (.bool (traits.additionalProperties.getD true))
    else none
  others : ∀ keyword,
    keyword ∉ ["additionalProperties", "description", "enum", "format", "properties",
      "required", "title", "type"] →
    Assoc.get? keyword members = none

theorem constraints_eq (traits : FieldTraits) (nested : Option ObjectShape) (type : Json)
    (more : List Json) :
    traits.constraints nested type more =
      [("type", type)] ++
        (traits.formatName.map fun name => ("format", Json.str name)).toList ++
        (traits.choices.map fun choices =>
          ("enum", Json.arr (choices.map Choice.value ++ more))).toList ++
        if traits.type = .object then
          (nested.map ObjectShape.members).getD [] ++
            [("additionalProperties", .bool (traits.additionalProperties.getD true))]
        else [] := by
  unfold constraints
  cases traits.formatName <;> cases traits.choices <;> cases nested <;> rfl

theorem last?_named {earlier : List (String × Json)}
    (named : ∀ entry, entry ∈ earlier → entry.1 = "title" ∨ entry.1 = "description")
    {keyword : String} (noTitle : keyword ≠ "title")
    (noDescription : keyword ≠ "description") :
    Assoc.last? keyword earlier = none := by
  apply Assoc.last?_eq_none_iff.mpr
  intro entry member same
  rcases named entry member with title | description
  · exact noTitle (same.symm.trans title)
  · exact noDescription (same.symm.trans description)

theorem constraints_constrained (traits : FieldTraits) (nested : Option ObjectShape)
    (type : Json) (more : List Json) (earlier : List (String × Json))
    (named : ∀ entry, entry ∈ earlier → entry.1 = "title" ∨ entry.1 = "description") :
    traits.Constrained nested type more
      (Assoc.ofList (earlier ++ traits.constraints nested type more)) := by
  have inShape : ∀ keyword,
      Assoc.last? keyword ((nested.map ObjectShape.members).getD []) =
      nested.bind fun shape => Assoc.last? keyword shape.members := by
    intro keyword
    cases nested <;> rfl
  have found : ∀ keyword, keyword ≠ "title" → keyword ≠ "description" →
      Assoc.get? keyword (Assoc.ofList (earlier ++ traits.constraints nested type more)) =
        ((if traits.type = .object then
            (if "additionalProperties" = keyword then
              some (.bool (traits.additionalProperties.getD true)) else none).or
            (nested.bind fun shape => Assoc.last? keyword shape.members)
          else none).or
        ((if "enum" = keyword then
            traits.choices.map fun choices => .arr (choices.map Choice.value ++ more)
          else none).or
        ((if "format" = keyword then traits.formatName.map .str else none).or
        (if "type" = keyword then some type else none)))) := by
    intro keyword noTitle noDescription
    rw [Assoc.get?_ofList, Assoc.last?_append, last?_named named noTitle noDescription,
      constraints_eq]
    by_cases object : traits.type = .object <;>
      simp [object, inShape, Assoc.last?_toList, Option.or_assoc]
  constructor
  · simp [found, ObjectShape.last?_members]
  · simp [found, ObjectShape.last?_members]
  · simp [found, ObjectShape.last?_members]
  · cases nested <;> simp [found, ObjectShape.last?_members]
  · simp [found, ObjectShape.last?_members]
  · simp [found, ObjectShape.last?_members]
  · intro keyword other
    simp only [List.mem_cons, List.not_mem_nil, or_false, not_or] at other
    simp [found, ObjectShape.last?_members, other, eq_comm]

/-- The type that schemas have for one value, with null when it is accepted. -/
def typeFor (traits : FieldTraits) (nullable : Bool) : Json :=
  if nullable then .ofTexts [traits.type.schemaType, "null"]
  else .str traits.type.schemaType

/-- The choices beyond those of the field. -/
def moreFor (nullable : Bool) : List Json :=
  if nullable then [.null] else []

/-- The members that stand before the constraints. -/
def heading (traits : FieldTraits) : List (String × Json) :=
  [("title", .str traits.label)] ++
    if traits.description.isEmpty then [] else [("description", .str traits.description)]

theorem heading_named (traits : FieldTraits) :
    ∀ entry, entry ∈ heading traits → entry.1 = "title" ∨ entry.1 = "description" := by
  intro entry member
  unfold heading at member
  split at member <;> simp at member
  · exact .inl (member ▸ rfl)
  · rcases member with title | description
    · exact .inl (title ▸ rfl)
    · exact .inr (description ▸ rfl)

def listMembers (traits : FieldTraits) (item : Json) : List (String × Json) :=
  Assoc.ofList (heading traits ++ [("type", traits.typeJson "array"), ("items", item)])

theorem get?_listMembers (traits : FieldTraits) (item : Json) {keyword : String}
    (noTitle : keyword ≠ "title") (noDescription : keyword ≠ "description") :
    Assoc.get? keyword (listMembers traits item) =
      if keyword = "type" then some (traits.typeJson "array")
      else if keyword = "items" then some item else none := by
  rw [listMembers, Assoc.get?_ofList, Assoc.last?_append,
    last?_named (heading_named traits) noTitle noDescription]
  by_cases items : keyword = "items"
  · simp [items]
  · simp [items, eq_comm]

/-- Whether the schema for one value lists null.  That of a list lists it around
the schema for one value. -/
def nullable (traits : FieldTraits) : Bool :=
  traits.allowNull && !traits.multiple

def valueMembers (traits : FieldTraits) (nested : Option ObjectShape) :
    List (String × Json) :=
  Assoc.ofList ((if traits.multiple then [] else heading traits) ++
    traits.constraints nested (traits.typeFor traits.nullable) (moreFor traits.nullable))

theorem valueMembers_constrained (traits : FieldTraits) (nested : Option ObjectShape) :
    traits.Constrained nested (traits.typeFor traits.nullable) (moreFor traits.nullable)
      (traits.valueMembers nested) := by
  apply constraints_constrained
  cases traits.multiple with
  | true => simp
  | false => exact heading_named traits

/-- A list has the schema for one value as its item schema. -/
theorem schema_eq_members (traits : FieldTraits) (nested : Option ObjectShape) :
    traits.schema nested =
      if traits.multiple then
        .obj (listMembers traits (.obj (traits.valueMembers nested)))
      else .obj (traits.valueMembers nested) := by
  cases many : traits.multiple with
  | false =>
      simp [schema, many, Json.ofMembers, valueMembers, nullable, heading, typeFor,
        typeJson, moreFor]
  | true =>
      simp [schema, many, Json.ofMembers, valueMembers, nullable, heading, listMembers,
        typeFor, moreFor]

end FieldTraits

namespace FieldMap

theorem get?_schemas {fields : FieldMap} (sorted : Assoc.Sorted fields) (name : String) :
    Assoc.get? name (Assoc.ofList (Field.schemas fields)) =
      (Assoc.get? name fields).map Field.schema := by
  rw [Assoc.ofList_eq_self (Field.schemas_sorted sorted), Field.schemas_eq_map]
  exact Assoc.get?_map name (fun _ field => field.schema) fields

def members (fields : FieldMap) : List (String × Json) :=
  Assoc.ofList ([("$schema", .str schemaDialect), ("type", .str "object"),
    ("additionalProperties", .bool false)] ++ fields.shape.members)

theorem get?_members (fields : FieldMap) (keyword : String) :
    Assoc.get? keyword fields.members =
      if keyword = "properties" then some (.ofMembers fields.shape.properties)
      else if keyword = "required" then
        if fields.shape.required = [] then none else some (.ofTexts fields.shape.required)
      else if keyword = "additionalProperties" then some (.bool false)
      else if keyword = "type" then some (.str "object")
      else if keyword = "$schema" then some (.str schemaDialect)
      else none := by
  rw [members, Assoc.get?_ofList, Assoc.last?_append, ObjectShape.last?_members]
  by_cases properties : keyword = "properties"
  · simp [properties]
  · by_cases required : keyword = "required"
    · by_cases none : fields.shape.required = [] <;> simp [required, none]
    · by_cases additional : keyword = "additionalProperties"
      · simp [additional]
      · by_cases type : keyword = "type"
        · simp [type]
        · simp [properties, required, Ne.symm additional, Ne.symm type, additional, type,
            @eq_comm _ "$schema" keyword]

end FieldMap

end EventDelivery
