import EventDelivery.Address.International
import EventDelivery.Json.Printer
import EventDelivery.Pattern.Basic
import EventDelivery.Schema.Format.Locator
import EventDelivery.Schema.Format.Moment
/-!
# Schemas

The rules that a schema sets for values: for the value itself, for the items of arrays and the keys
of objects, and for whether other schemas accept it. Keywords beyond these set no rule.
-/

namespace EventDelivery

/-- The types of JSON values that schemas name. Numbers may ask for whole ones. -/
inductive JsonType where
  | array
  | boolean
  | integer
  | null
  | number
  | object
  | string
deriving DecidableEq

namespace JsonType

/-- The types in the order of their names. -/
def all : List JsonType := [.array, .boolean, .integer, .null, .number, .object, .string]

def name : JsonType → String
  | .array => "array"
  | .boolean => "boolean"
  | .integer => "integer"
  | .null => "null"
  | .number => "number"
  | .object => "object"
  | .string => "string"

def ofName? (name : String) : Option JsonType := all.find? fun type => type.name == name

/-- Whether a value is of a type. A double is not an integer, whatever its size. -/
def holds : JsonType → Json → Bool
  | .array, .arr _ => true
  | .boolean, .bool _ => true
  | .integer, .num (.whole _) => true
  | .null, .null => true
  | .number, .num _ => true
  | .object, .obj _ => true
  | .string, .str _ => true
  | _, _ => false

end JsonType

/-- The formats that texts are checked for. -/
inductive Format where
  | date
  | dateTime
  | email
  | hostname
  | idnEmail
  | ipv4
  | ipv6
  | regex
  | time
  | uri
deriving DecidableEq

namespace Format

def all : List Format :=
  [.date, .dateTime, .email, .hostname, .idnEmail, .ipv4, .ipv6, .regex, .time, .uri]

def name : Format → String
  | .date => "date"
  | .dateTime => "date-time"
  | .email => "email"
  | .hostname => "hostname"
  | .idnEmail => "idn-email"
  | .ipv4 => "ipv4"
  | .ipv6 => "ipv6"
  | .regex => "regex"
  | .time => "time"
  | .uri => "uri"

/-- The format of a name; other names ask for nothing. -/
def ofName? (name : String) : Option Format := all.find? fun format => format.name == name

def accepts (format : Format) (s : String) : Bool :=
  match format with
  | .date => Moment.isDate s.toList
  | .dateTime => Moment.isDateTime s.toList
  | .email => Address.isMail Address.isHostName s.toList
  | .hostname => Address.isHostName s.toList
  | .idnEmail => Address.isMail Address.isWideHostName s.toList
  | .ipv4 => (Address.four? s.toList).isSome
  | .ipv6 => (Address.eight? s.toList).isSome
  | .regex => Pattern.isWellFormed s
  | .time => Moment.isTime s.toList
  | .uri => Locator.isAbsolute s.toList

end Format

/-- A least or a greatest number. -/
structure Bound where
  limit : Number
  /-- Whether the number itself is refused. -/
  strict : Bool
deriving DecidableEq

/-- Whether a number is below a bound that numbers have to be above. -/
def Bound.isAbove (bound : Bound) (n : Number) : Bool :=
  n.less bound.limit || (bound.strict && n.same bound.limit)

/-- Whether a number is above a bound that numbers have to be below. -/
def Bound.isBelow (bound : Bound) (n : Number) : Bool :=
  bound.limit.less n || (bound.strict && n.same bound.limit)

/-- Whether a number is a multiple of a double. Multiples of whole doubles are exact. For others the
quotient decides, with what rounding leaves of it; one that is too large to be a double is taken of
the shortest decimals. -/
def Number.isMultipleOf (n : Number) (unit : Double) : Bool :=
  let x := n.toDouble
  if unit.isIntegral then x.isMultiple unit
  else if x.isZero then true
  else
    match x.div? unit with
    | some quotient => quotient.isNearlyIntegral
    | none => (Decimal.shortest x).isMultiple (Decimal.shortest unit)

/-- What is counted in a value. -/
inductive Counted where
  | characters
  | items
  | properties
deriving DecidableEq

/-- The number of what is counted in a value, where there is any. -/
def Counted.count? : Counted → Json → Option Nat
  | .characters, .str s => some s.length
  | .items, .arr list => some list.length
  | .properties, .obj members => some members.length
  | _, _ => none

/-- The least and the greatest number of what is counted. -/
structure CountLimits where
  least : Option Nat := none
  greatest : Option Nat := none

/-- The rules for a value that do not look inside of it, and the keys it has to have. -/
structure Rules where
  /-- The types, when they are limited. -/
  types : Option (List JsonType) := none
  /-- The values, when they are listed. -/
  values : Option (List Json) := none
  format : Option Format := none
  /-- What has to be found in texts. -/
  pattern : Option Pattern := none
  /-- The keys that objects have to have. -/
  required : List String := []
  least : Option Bound := none
  greatest : Option Bound := none
  /-- What numbers are multiples of. -/
  unit : Option Double := none
  counts : Counted → CountLimits := fun _ => {}
  /-- Whether the items of arrays have to be different. -/
  distinct : Bool := false

/-- The rule for what is not described on its own. -/
inductive Others (α : Type) where
  /-- Everything is accepted. -/
  | free
  /-- Nothing is accepted. -/
  | refused
  /-- A schema decides. -/
  | checked (schema : α)

/-- The rule for the items of arrays. -/
inductive Items (α : Type) where
  /-- Everything is accepted. -/
  | free
  /-- One schema for every item. -/
  | every (schema : α)
  /-- A schema for each of the first items, and the rule for those after them. -/
  | each (schemas : List α) (others : Others α)

/-- The schemas that a value is tried with. Where a list is empty there is no rule. -/
structure Trials (α : Type) where
  /-- All have to accept the value. -/
  all : List α := []
  /-- At least one has to accept the value. -/
  any : List α := []
  /-- Exactly one has to accept the value. -/
  one : List α := []
  /-- The schema that must not accept the value, with the value it comes from. -/
  none_ : Option (Json × α) := none

/-- A schema that stands for another one: what it says, and the locator that it is relative to. -/
structure Reference where
  base : String
  text : String
deriving DecidableEq

/-- A schema. -/
inductive Schema where
  /-- What another schema says. -/
  | reference (target : Reference)
  /-- No value is accepted. -/
  | nothing
  /-- The rules for the value, the schemas of keys, the schemas of keys in which a pattern is found,
  the rule for other keys, the rule for items, the schemas for the value as a whole, and those of
  them that are asked when a key is there. -/
  | of (rules : Rules) (properties : Option (List (String × Schema)))
      (patterns : Option (List (Pattern × Schema))) (others : Others Schema) (items : Items Schema)
      (trials : Trials Schema) (dependencies : List (String × Schema))

end EventDelivery
