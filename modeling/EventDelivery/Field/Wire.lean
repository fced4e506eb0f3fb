import EventDelivery.Field.Basic
import EventDelivery.Wire.Record
/-!
# Fields as JSON

Reading fields from values and writing them. Choices are always read bare, whatever they look like.
-/

namespace EventDelivery

namespace FieldTraits

/-- The record that fields are given as. -/
def record : Record :=
  ⟨"InputField", ["label", "description", "type", "required", "default", "hidden", "multiple",
    "allowNull", "choices", "format", "properties", "additionalProperties", "dynamic",
    "placeholder"]⟩

/-- Reads a field whose inner fields have been read. -/
def read (nested : Record.Reading (Option FieldMap)) (source : Record.Source) :
    Record.Reading Field :=
  (fun label description type required default hidden multiple allowNull choices format properties
      additionalProperties dynamic placeholder =>
    Field.of ⟨label, description, type, required, default, hidden, multiple, allowNull, choices,
      format, additionalProperties, dynamic, placeholder⟩ properties)
  <$> record.required source "label" Wire.text
  <*> record.optional source "description" "" Wire.text
  <*> record.optional source "type" .string (Wire.oneOf FieldType.names)
  <*> record.optional source "required" false Wire.flag
  <*> record.optional source "default" none (Wire.nullable Wire.any)
  <*> record.aliased source "hidden" "unsafe_hidden" false Wire.flag
  <*> record.optional source "multiple" false Wire.flag
  <*> record.optional source "allowNull" false Wire.flag
  <*> record.optional source "choices" none
    (Wire.nullable (Wire.list fun value => .ok (Choice.bare value)))
  <*> record.optional source "format" none (Wire.nullable Wire.text)
  <*> nested
  <*> record.optional source "additionalProperties" none (Wire.nullable Wire.flag)
  <*> record.optional source "dynamic" false Wire.flag
  <*> record.optional source "placeholder" none (Wire.nullable Wire.text)

end FieldTraits

namespace Field

mutual

def ofJson : Json → Decoded Field
  | .obj members =>
    let source := Record.Source.members members
    FieldTraits.record.finish source (FieldTraits.read (nestedMember members) source)
  | .arr items =>
    let source := Record.Source.items items
    FieldTraits.record.finish source
      (FieldTraits.read (nestedItem (FieldTraits.record.fields.idxOf "properties") items) source)
  | value => .error (.wrongType value "struct InputField")
termination_by structural value => value

/-- Decodes what is given for the inner fields. -/
def nestedOfJson : Json → Decoded (Option FieldMap)
  | .null => .ok none
  | .obj members => (mapOfMembers members).map fun fields => some (Assoc.ofList fields)
  | value => .error (.wrongType value "a map")
termination_by structural value => value

/-- Decodes the inner fields of an object. -/
def nestedMember : List (String × Json) → Record.Reading (Option FieldMap)
  | [] => .done none
  | (key, value) :: rest =>
    if key = "properties" then .given "properties" (nestedOfJson value) else nestedMember rest
termination_by structural members => members

/-- Decodes the inner fields of an array, where they are the item at a position. -/
def nestedItem : Nat → List Json → Record.Reading (Option FieldMap)
  | _, [] => .done none
  | 0, value :: _ => .given "" (nestedOfJson value)
  | position + 1, _ :: rest => nestedItem position rest
termination_by structural _ items => items

/-- Decodes fields by name, up to the first fault. -/
def mapOfMembers : List (String × Json) → Decoded FieldMap
  | [] => .ok []
  | (name, value) :: rest => do
    let field ← ofJson value
    let others ← mapOfMembers rest
    .ok ((name, field) :: others)
termination_by structural members => members

end

end Field

def FieldMap.ofJson : Json → Decoded FieldMap
  | .obj members => (Field.mapOfMembers members).map Assoc.ofList
  | value => .error (.wrongType value "a map")

def Choice.toJson : Choice → Json
  | .bare value => value
  | .labeled label value => .ofMembers [("label", .str label), ("value", value)]

/-- The members of a field, given those of its inner fields. -/
def FieldTraits.toMembers (traits : FieldTraits) (properties : Option (List (String × Json))) :
    List (String × Json) :=
  [("label", .str traits.label),
    ("description", .str traits.description),
    ("type", .str traits.type.name),
    ("required", .bool traits.required)] ++
  Record.present "default" traits.default ++
  [("hidden", .bool traits.hidden),
    ("multiple", .bool traits.multiple),
    ("allowNull", .bool traits.allowNull)] ++
  Record.present "choices" (traits.choices.map fun choices => .arr (choices.map Choice.toJson)) ++
  Record.present "format" (traits.format.map .str) ++
  Record.present "properties" (properties.map .ofMembers) ++
  Record.present "additionalProperties" (traits.additionalProperties.map .bool) ++
  [("dynamic", .bool traits.dynamic)] ++
  Record.present "placeholder" (traits.placeholder.map .str)

mutual

def Field.toJson : Field → Json
  | .of traits none => .ofMembers (traits.toMembers none)
  | .of traits (some fields) => .ofMembers (traits.toMembers (some (Field.toMembers fields)))

def Field.toMembers : List (String × Field) → List (String × Json)
  | [] => []
  | (name, field) :: rest => (name, field.toJson) :: Field.toMembers rest

end

def FieldMap.toJson (fields : FieldMap) : Json := .ofMembers (Field.toMembers fields)

end EventDelivery
