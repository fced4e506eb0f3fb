import EventDelivery.Field.Basic
/-!
# The schema of fields

Payloads of an action are objects with its fields as keys. Fields that accept null say so in their
type and among their choices, not in the items of their lists.
-/

namespace EventDelivery

/-- The name that schemas have for the values of a type. -/
def FieldType.schemaType : FieldType → String
  | .string | .text | .password | .datetime => "string"
  | .number => "number"
  | .integer => "integer"
  | .boolean => "boolean"
  | .object => "object"

/-- The dialect that generated schemas name. -/
def schemaDialect : String := "http://json-schema.org/draft-04/schema#"

/-- The properties and the required keys of an object. -/
structure ObjectShape where
  /-- The schema of every key. -/
  properties : List (String × Json)
  /-- The keys that have to be there. -/
  required : List String

/-- The members for the shape of an object. Without a required key none is listed. -/
def ObjectShape.members (shape : ObjectShape) : List (String × Json) :=
  [("properties", .ofMembers shape.properties)] ++
    if shape.required.isEmpty then [] else [("required", .ofTexts shape.required)]

namespace FieldTraits

/-- The type of schemas, null included when the field accepts it. -/
def typeJson (traits : FieldTraits) (name : String) : Json :=
  if traits.allowNull then .ofTexts [name, "null"] else .str name

/-- The format that texts have to have. -/
def formatName (traits : FieldTraits) : Option String :=
  match traits.format, traits.type with
  | some format, _ => some format
  | none, .datetime => some "date-time"
  | none, _ => none

/-- The constraints on one value of the field, with the type given and `more` choices. -/
def constraints (traits : FieldTraits) (nested : Option ObjectShape) (type : Json)
    (more : List Json) : List (String × Json) :=
  [("type", type)] ++
  (match traits.formatName with
    | some format => [("format", .str format)]
    | none => []) ++
  (match traits.choices with
    | some choices => [("enum", .arr (choices.map Choice.value ++ more))]
    | none => []) ++
  (if traits.type = .object then
    (match nested with
      | some shape => shape.members
      | none => []) ++
    [("additionalProperties", .bool (traits.additionalProperties.getD true))]
  else [])

/-- The schema of a field whose inner fields have a shape. -/
def schema (traits : FieldTraits) (nested : Option ObjectShape) : Json :=
  .ofMembers <|
    [("title", .str traits.label)] ++
    (if traits.description.isEmpty then [] else [("description", .str traits.description)]) ++
    if traits.multiple then
      [("type", traits.typeJson "array"),
        ("items", .ofMembers (traits.constraints nested (.str traits.type.schemaType) []))]
    else
      traits.constraints nested (traits.typeJson traits.type.schemaType)
        (if traits.allowNull then [.null] else [])

end FieldTraits

namespace Field

/-- The names of the required fields. -/
def requiredNames (fields : FieldMap) : List String :=
  (fields.filter fun entry => entry.2.traits.required).map Prod.fst

mutual

def schema : Field → Json
  | .of traits none => traits.schema none
  | .of traits (some fields) => traits.schema (some ⟨schemas fields, requiredNames fields⟩)

/-- The schemas of fields by name. -/
def schemas : List (String × Field) → List (String × Json)
  | [] => []
  | (name, field) :: rest => (name, field.schema) :: schemas rest

end

end Field

/-- The shape of the objects that hold the fields. -/
def FieldMap.shape (fields : FieldMap) : ObjectShape :=
  ⟨Field.schemas fields, Field.requiredNames fields⟩

/-- The schema of payloads. Unknown keys are refused. -/
def FieldMap.schema (fields : FieldMap) : Json :=
  .ofMembers ([("$schema", .str schemaDialect), ("type", .str "object"),
    ("additionalProperties", .bool false)] ++ fields.shape.members)

end EventDelivery
