import EventDelivery.Proofs.FieldTree
import EventDelivery.Proofs.JsonEquality
import EventDelivery.Schema.Basic

/-!
# What fields accept

The values that a field is about, stated without schemas: a field accepts null
where it says so, and otherwise a base value, or a list of them.
-/

namespace EventDelivery

/-- The values of a type. -/
inductive FieldType.Admits : FieldType → Json → Prop where
  | string {text : String} : Admits .string (.str text)
  | text {text : String} : Admits .text (.str text)
  | number {number : Number} : Admits .number (.num number)
  | integer {whole : Whole} : Admits .integer (.num (.whole whole))
  | boolean {flag : Bool} : Admits .boolean (.bool flag)
  | datetime {text : String} : Admits .datetime (.str text)
  | password {text : String} : Admits .password (.str text)
  | object {members : List (String × Json)} : Admits .object (.obj members)

namespace FieldTraits

/-- The name of the format that texts have to have: the one that is given, and
the one of moments when the field is a moment and none is given. -/
inductive Names (traits : FieldTraits) : String → Prop where
  | given {name : String} : traits.format = some name → Names traits name
  | moment : traits.format = none → traits.type = .datetime → Names traits "date-time"

/-- A text has the format that is named; a name that is not known says nothing. -/
def FormatFits (traits : FieldTraits) (value : Json) : Prop :=
  ∀ name format text, traits.Names name → Format.ofName? name = some format →
    value = .str text → format.accepts text = true

/-- The value equals one of the choices when there are any. -/
def ChoiceFits (traits : FieldTraits) (value : Json) : Prop :=
  ∀ choices, traits.choices = some choices →
    ∃ choice, choice ∈ choices ∧ value.Equal choice.value

end FieldTraits

mutual

/-- The values that a field accepts: null where it is accepted, a list of base
values for a field of many, and a base value for any other field. -/
inductive Field.Fits : Field → Json → Prop where
  | null {field : Field} : field.traits.allowNull = true → Fits field .null
  | many {field : Field} {items : List Json} :
      field.traits.multiple = true →
      (∀ item, item ∈ items → Field.Base field item) →
      Fits field (.arr items)
  | one {field : Field} {value : Json} :
      field.traits.multiple = false →
      Field.Base field value →
      Fits field value

/-- The base values of a field: those of its type, its format and its choices, and
for objects those whose keys fit the fields inside. -/
inductive Field.Base : Field → Json → Prop where
  | of {field : Field} {value : Json} :
      field.traits.type.Admits value →
      field.traits.FormatFits value →
      field.traits.ChoiceFits value →
      (∀ members name held inside, value = .obj members → (name, held) ∈ members →
        (name, inside) ∈ field.inner → Field.Fits inside held) →
      (∀ members name inside, value = .obj members → (name, inside) ∈ field.inner →
        inside.traits.required = true → ∃ held, (name, held) ∈ members) →
      (∀ members name held, value = .obj members →
        field.traits.additionalProperties = some false → (name, held) ∈ members →
        ∃ inside, (name, inside) ∈ field.inner) →
      Base field value

end

/-- The payloads that fields accept: objects of declared keys, with all that are
required, whose values fit. -/
inductive FieldMap.Accepts (fields : FieldMap) : Json → Prop where
  | of {members : List (String × Json)} :
      (∀ name value, (name, value) ∈ members → ∃ field, (name, field) ∈ fields) →
      (∀ name field, (name, field) ∈ fields → field.traits.required = true →
        ∃ value, (name, value) ∈ members) →
      (∀ name value field, (name, value) ∈ members → (name, field) ∈ fields →
        field.Fits value) →
      Accepts fields (.obj members)

namespace Field

theorem fits_iff (field : Field) (value : Json) :
    field.Fits value ↔
      (field.traits.allowNull = true ∧ value = .null) ∨
      (field.traits.multiple = true ∧
        ∃ items, value = .arr items ∧ ∀ item, item ∈ items → field.Base item) ∨
      (field.traits.multiple = false ∧ field.Base value) := by
  constructor
  · intro fits
    cases fits with
    | null accepts => exact .inl ⟨accepts, rfl⟩
    | many multiple items => exact .inr (.inl ⟨multiple, _, rfl, items⟩)
    | one single base => exact .inr (.inr ⟨single, base⟩)
  · rintro (⟨accepts, rfl⟩ | ⟨multiple, items, rfl, base⟩ | ⟨single, base⟩)
    · exact .null accepts
    · exact .many multiple base
    · exact .one single base

theorem base_iff (field : Field) (value : Json) :
    field.Base value ↔
      field.traits.type.Admits value ∧ field.traits.FormatFits value ∧
      field.traits.ChoiceFits value ∧
      (∀ members name held inside, value = .obj members → (name, held) ∈ members →
        (name, inside) ∈ field.inner → inside.Fits held) ∧
      (∀ members name inside, value = .obj members → (name, inside) ∈ field.inner →
        inside.traits.required = true → ∃ held, (name, held) ∈ members) ∧
      (∀ members name held, value = .obj members →
        field.traits.additionalProperties = some false → (name, held) ∈ members →
        ∃ inside, (name, inside) ∈ field.inner) := by
  constructor
  · intro base
    cases base with
    | of type format choice inside required closed =>
        exact ⟨type, format, choice, inside, required, closed⟩
  · rintro ⟨type, format, choice, inside, required, closed⟩
    exact .of type format choice inside required closed

end Field

theorem FieldMap.accepts_iff (fields : FieldMap) (payload : Json) :
    fields.Accepts payload ↔
      ∃ members, payload = .obj members ∧
        (∀ name value, (name, value) ∈ members → ∃ field, (name, field) ∈ fields) ∧
        (∀ name field, (name, field) ∈ fields → field.traits.required = true →
          ∃ value, (name, value) ∈ members) ∧
        ∀ name value field, (name, value) ∈ members → (name, field) ∈ fields →
          field.Fits value := by
  constructor
  · intro accepted
    cases accepted with
    | of declared required fits => exact ⟨_, rfl, declared, required, fits⟩
  · rintro ⟨members, rfl, declared, required, fits⟩
    exact .of declared required fits

end EventDelivery
