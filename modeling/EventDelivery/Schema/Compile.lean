import EventDelivery.Schema.Check
import EventDelivery.Schema.Reference.Library
/-!
# Compiling schemas

A schema comes as a value. It is refused when a keyword holds something it cannot or when what it
refers to is not there; otherwise its rules are taken from it.
-/

namespace EventDelivery

/-- What is wrong with the value of a schema. -/
inductive SchemaFault where
  /-- The value does not fit what schemas look like. -/
  | offence (found : Offence)
  /-- It refers to something that is not there. -/
  | reference (fault : ReferenceFault)
deriving DecidableEq

def SchemaFault.message : SchemaFault → String
  | .offence found => found.message
  | .reference fault => fault.message

namespace Draft

/-- The offence of a value that has to be of a type. -/
def ofKind (type : JsonType) (value : Json) : Option Offence :=
  if type.holds value then none else some (.mistyped value [type])

/-- The offence of a value that fits none of the forms that a keyword can have. -/
def unfit (value : Json) : Offence := .unaccepted value .anyOf

/-- The offence of a list that has to have an item. -/
def ofFilled (items : List Json) : Option Offence :=
  if items.isEmpty then some (.tooFew (.arr items) .items 1) else none

/-- The offence of a value that has to be a list of different texts, at least one. -/
def ofNames : Json → Option Offence
  | .arr names =>
    ((names.findSome? (ofKind .string)).or (ofFilled names)).or
      (if Rules.repeats names then some (.repeated (.arr names)) else none)
  | value => some (.mistyped value [.array])

/-- The offence of a value that has to be a text of a format. -/
def ofFormat (format : Format) : Json → Option Offence
  | .str s => if format.accepts s then none else some (.malformed (.str s) format)
  | value => some (.mistyped value [.string])

/-- The offence of a value that has to name types. -/
def ofTypes (value : Json) : Option Offence :=
  let isType : Json → Bool := fun
    | .str name => (JsonType.ofName? name).isSome
    | _ => false
  let fits :=
    match value with
    | .arr names => !names.isEmpty && names.all isType && !Rules.repeats names
    | other => isType other
  if fits then none else some (unfit value)

/-- The offence of a number that has to be above a bound. -/
def ofBound (bound : Bound) (type : JsonType) (value : Json) : Option Offence :=
  (match value with
    | .num n => if bound.isAbove n then some (Offence.below value bound) else none
    | _ => none).or (ofKind type value)

def zero (strict : Bool) : Bound := ⟨Number.ofInt 0, strict⟩

/-- Keywords that hold counts. -/
def isCount (keyword : String) : Bool :=
  ["maxItems", "maxLength", "maxProperties", "minItems", "minLength", "minProperties"].contains
    keyword

def isKeyed (keyword : String) : Bool :=
  ["definitions", "patternProperties", "properties"].contains keyword

/-- Keywords that hold a list of schemas. -/
def isListed (keyword : String) : Bool := ["allOf", "anyOf", "oneOf"].contains keyword

/-- Keywords that hold a schema or a flag. -/
def isOptional (keyword : String) : Bool :=
  ["additionalItems", "additionalProperties"].contains keyword

def isFlag (keyword : String) : Bool :=
  ["exclusiveMaximum", "exclusiveMinimum", "uniqueItems"].contains keyword

/-- The offence of what a keyword holds when that is not made of schemas. -/
def ofPlain (keyword : String) (value : Json) : Option Offence :=
  if keyword = "$schema" ∨ keyword = "id" then ofFormat .uri value
  else if keyword = "title" ∨ keyword = "description" ∨ keyword = "format" then
    ofKind .string value
  else if keyword = "pattern" then ofFormat .regex value
  else if keyword = "required" then ofNames value
  else if keyword = "enum" ∨ isListed keyword then ofKind .array value
  else if keyword = "type" then ofTypes value
  else if keyword = "maximum" ∨ keyword = "minimum" then ofKind .number value
  else if keyword = "multipleOf" then ofBound (zero true) .number value
  else if isCount keyword then ofBound (zero false) .integer value
  else if isFlag keyword then ofKind .boolean value
  else if isKeyed keyword ∨ keyword = "dependencies" ∨ keyword = "not" then ofKind .object value
  else if keyword = "items" then some (unfit value)
  else if isOptional keyword then
    if JsonType.boolean.holds value then none else some (unfit value)
  else none

/-- The offence of a keyword that does nothing without another one. -/
def ofPartner (members : List (String × Json)) (keyword partner : String) : Option Offence :=
  if (Assoc.get? keyword members).isSome ∧ (Assoc.get? partner members).isNone then
    some (.missing partner)
  else none

/-- The first offence of keywords that do nothing without others. -/
def ofPartners (members : List (String × Json)) : Option Offence :=
  (ofPartner members "exclusiveMaximum" "maximum").or
    (ofPartner members "exclusiveMinimum" "minimum")

mutual

/-- The first offence of a value that has to be a schema, by the order of its keywords. -/
def ofSchema : Json → Option Offence
  | .obj members => (ofPartners members).or (ofKeywords members)
  | value => some (.mistyped value [.object])
termination_by structural value => value

def ofKeywords : List (String × Json) → Option Offence
  | [] => none
  | (keyword, value) :: rest => (ofKeyword keyword value).or (ofKeywords rest)
termination_by structural members => members

/-- The offence of what a keyword holds. -/
def ofKeyword (keyword : String) : Json → Option Offence
  | .obj members =>
    if isKeyed keyword then ofSchemas members
    else if keyword = "dependencies" then ofDependencies members
    else if keyword = "not" then (ofPartners members).or (ofKeywords members)
    else if keyword = "items" ∨ isOptional keyword then
      ((ofPartners members).or (ofKeywords members)).map fun _ => unfit (.obj members)
    else ofPlain keyword (.obj members)
  | .arr values =>
    if keyword = "items" then
      ((ofItems values).or (ofFilled values)).map fun _ => unfit (.arr values)
    else if isListed keyword then (ofItems values).or (ofFilled values)
    else ofPlain keyword (.arr values)
  | value => ofPlain keyword value
termination_by structural value => value

/-- The first offence of schemas by key. -/
def ofSchemas : List (String × Json) → Option Offence
  | [] => none
  | (_, value) :: rest => (ofSchema value).or (ofSchemas rest)
termination_by structural members => members

/-- The first offence of schemas or lists of names by key. -/
def ofDependencies : List (String × Json) → Option Offence
  | [] => none
  | (_, value) :: rest =>
    (((ofSchema value).bind fun _ => ofNames value).map fun _ => unfit value).or
      (ofDependencies rest)
termination_by structural members => members

/-- The first offence of a list of schemas. -/
def ofItems : List Json → Option Offence
  | [] => none
  | value :: rest => (ofSchema value).or (ofItems rest)
termination_by structural values => values

end

end Draft

namespace Rules

def typesOf : Option Json → Option (List JsonType)
  | some (.str name) => (JsonType.ofName? name).map fun type => [type]
  | some (.arr names) => some (names.filterMap fun name => name.text?.bind JsonType.ofName?)
  | _ => none

def namesOf : Option Json → List String
  | some (.arr names) => names.filterMap Json.text?
  | _ => []

/-- The bound that a keyword sets, and another one makes strict. -/
def boundOf (limit strict : Option Json) : Option Bound :=
  match limit with
  | some (.num n) => some ⟨n, strict == some (.bool true)⟩
  | _ => none

def countOf : Option Json → Option Nat
  | some (.num (.whole n)) => some n.val.toNat
  | _ => none

def doubleOf : Option Json → Option Double
  | some (.num n) => some n.toDouble
  | _ => none

/-- The limits that keywords set for what is counted. -/
def limitsOf (members : List (String × Json)) (counted : Counted) : CountLimits :=
  let name :=
    match counted with
    | .characters => "Length"
    | .items => "Items"
    | .properties => "Properties"
  { least := countOf (Assoc.get? ("min" ++ name) members)
    greatest := countOf (Assoc.get? ("max" ++ name) members) }

/-- The rules that the keywords of a schema set for the value itself. -/
def ofKeywords (members : List (String × Json)) : Rules :=
  { types := typesOf (Assoc.get? "type" members)
    values := (Assoc.get? "enum" members).bind Json.items?
    format := ((Assoc.get? "format" members).bind Json.text?).bind Format.ofName?
    pattern := ((Assoc.get? "pattern" members).bind Json.text?).bind Pattern.ofText?
    required := namesOf (Assoc.get? "required" members)
    least := boundOf (Assoc.get? "minimum" members) (Assoc.get? "exclusiveMinimum" members)
    greatest := boundOf (Assoc.get? "maximum" members) (Assoc.get? "exclusiveMaximum" members)
    unit := doubleOf (Assoc.get? "multipleOf" members)
    counts := limitsOf members
    distinct := Assoc.get? "uniqueItems" members == some (.bool true) }

end Rules

namespace Schema

def anything : Schema := .of {} none none .free .free {} []

/-- The schema that only asks for keys. -/
def requiring (names : List String) : Schema :=
  .of { required := names } none none .free .free {} []

/-- The schema of a value that is no object: a flag accepts everything or nothing, and a list of
names asks for keys. -/
def ofOther : Json → Schema
  | .bool false => nothing
  | .arr names => requiring (names.filterMap Json.text?)
  | _ => anything

/-- Schemas by pattern, from schemas by the text of the pattern. -/
def byPattern (keyed : List (String × Schema)) : List (Pattern × Schema) :=
  keyed.filterMap fun (text, schema) =>
    (Pattern.ofText? text).map fun pattern => (pattern, schema)

/-- The schemas by key that a keyword holds. -/
def keyedOf : Option (Content Schema) → Option (List (String × Schema))
  | some (.keyed schemas) => some schemas
  | _ => none

def listOf : Option (Content Schema) → List Schema
  | some (.listed schemas) => schemas
  | _ => []

/-- The rule for what is not described, from the value of a keyword and what it holds. -/
def othersOf : Option Json → Option (Content Schema) → Others Schema
  | _, some (.one schema) => .checked schema
  | some (.bool false), _ => .refused
  | _, _ => .free

/-- The rule for items, from what a keyword holds and the rule for items without a schema. -/
def itemsOf (others : Others Schema) : Option (Content Schema) → Items Schema
  | some (.one schema) => .every schema
  | some (.listed schemas) => .each schemas others
  | _ => .free

/-- The schema that must not accept, from the value of a keyword and what it holds. -/
def excludedOf : Option Json → Option (Content Schema) → Option (Json × Schema)
  | some source, some (.one schema) => some (source, schema)
  | _, _ => none

/-- The schema of keywords and of what they hold. One that stands for another schema sets no rules
of its own. -/
def ofContents (base : String) (members : List (String × Json))
    (contents : List (String × Content Schema)) : Schema :=
  match (Subschema.reference? members).bind Json.text? with
  | some text => .reference ⟨base, text⟩
  | none =>
    let value (keyword : String) := Assoc.get? keyword members
    let content (keyword : String) := Assoc.get? keyword contents
    .of (Rules.ofKeywords members)
      (keyedOf (content "properties"))
      ((keyedOf (content "patternProperties")).map byPattern)
      (othersOf (value "additionalProperties") (content "additionalProperties"))
      (itemsOf (othersOf (value "additionalItems") (content "additionalItems"))
        (content "items"))
      { all := listOf (content "allOf")
        any := listOf (content "anyOf")
        one := listOf (content "oneOf")
        none_ := excludedOf (value "not") (content "not") }
      ((keyedOf (content "dependencies")).getD [])

/-- The schema of a value without faults, relative to a locator. -/
def ofJson (base : String) (value : Json) : Schema :=
  Subschema.Maker.of { make := ofContents, other := ofOther } base value

end Schema

end EventDelivery
