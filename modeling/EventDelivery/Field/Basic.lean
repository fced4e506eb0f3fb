import EventDelivery.Json.Basic
/-!
# Input fields

What an action asks for: every field has a type of values, and an object field may have fields of
its own.
-/

namespace EventDelivery

/-- The type of the values of a field. -/
inductive FieldType where
  | string
  /-- Text of several lines. -/
  | text
  | number
  | integer
  | boolean
  /-- A date and time as text. -/
  | datetime
  /-- Text that is not shown. -/
  | password
  | object
deriving DecidableEq, Inhabited

def FieldType.names : List (String × FieldType) :=
  [("string", .string), ("text", .text), ("number", .number), ("integer", .integer),
    ("boolean", .boolean), ("datetime", .datetime), ("password", .password), ("object", .object)]

def FieldType.name : FieldType → String
  | .string => "string"
  | .text => "text"
  | .number => "number"
  | .integer => "integer"
  | .boolean => "boolean"
  | .datetime => "datetime"
  | .password => "password"
  | .object => "object"

/-- A value that can be chosen, with or without a label. -/
inductive Choice where
  | bare (value : Json)
  | labeled (label : String) (value : Json)
deriving DecidableEq

/-- The value that is chosen. -/
def Choice.value : Choice → Json
  | .bare value | .labeled _ value => value

/-- What a field says of itself, apart from the fields inside of it. -/
structure FieldTraits where
  label : String
  description : String := ""
  type : FieldType := .string
  required : Bool := false
  /-- The mapping that the field starts with. -/
  default : Option Json := none
  /-- Not shown where actions are configured. -/
  hidden : Bool := false
  /-- The field holds a list of values of its type. -/
  multiple : Bool := false
  /-- Null and the empty text are accepted and kept. -/
  allowNull : Bool := false
  choices : Option (List Choice) := none
  format : Option String := none
  /-- Whether an object field accepts other keys than those of its fields. -/
  additionalProperties : Option Bool := none
  /-- The choices are looked up when the action is configured. -/
  dynamic : Bool := false
  placeholder : Option String := none
deriving DecidableEq, Inhabited

/-- A field: its traits, and the fields inside of it when it declares any. -/
inductive Field where
  | of (traits : FieldTraits) (properties : Option (List (String × Field)))

/-- Fields by name, in ascending order. -/
abbrev FieldMap := List (String × Field)

namespace Field

def traits : Field → FieldTraits
  | .of traits _ => traits

/-- The fields inside of a field. -/
def properties : Field → Option FieldMap
  | .of _ properties => properties

/-- A field of a label and a type, otherwise with the defaults. -/
def new (label : String) (type : FieldType) : Field :=
  .of { label, type } none

def withTraits (change : FieldTraits → FieldTraits) : Field → Field
  | .of traits properties => .of (change traits) properties

def describe (description : String) (field : Field) : Field :=
  field.withTraits fun traits => { traits with description }

def require (field : Field) : Field :=
  field.withTraits fun traits => { traits with required := true }

/-- Gives the mapping that the field starts with. -/
def startWith (mapping : Json) (field : Field) : Field :=
  field.withTraits fun traits => { traits with default := some mapping }

def hide (field : Field) : Field :=
  field.withTraits fun traits => { traits with hidden := true }

def makeMultiple (field : Field) : Field :=
  field.withTraits fun traits => { traits with multiple := true }

def acceptNull (field : Field) : Field :=
  field.withTraits fun traits => { traits with allowNull := true }

def choose (values : List Json) (field : Field) : Field :=
  field.withTraits fun traits => { traits with choices := some (values.map .bare) }

/-- Gives the field fields of its own. -/
def contain (properties : FieldMap) : Field → Field
  | .of traits _ => .of traits (some properties)

end Field

namespace FieldMap

/-- The mapping that the fields start with: their defaults by name. -/
def defaultMapping (fields : FieldMap) : Json :=
  .obj (fields.filterMap fun entry =>
    entry.2.traits.default.map fun mapping => (entry.1, mapping))

end FieldMap

end EventDelivery
