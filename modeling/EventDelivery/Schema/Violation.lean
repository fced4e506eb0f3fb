import EventDelivery.Schema.Basic
/-!
# Violations

What a value does against a schema, where, and the sentence that says so.
-/

namespace EventDelivery

/-- A position in a value: the keys and positions from the root, as texts. -/
abbrev Pointer := List String

namespace Pointer

/-- Escapes the two characters that have a meaning in pointers. -/
def escape (s : String) : String :=
  String.ofList (s.toList.flatMap fun c =>
    if c = '~' then ['~', '0'] else if c = '/' then ['~', '1'] else [c])

/-- The text of a pointer: a slash before every step. -/
def toText (pointer : Pointer) : String :=
  String.join (pointer.map fun step => "/" ++ escape step)

end Pointer

/-- The keyword that lists schemas of which some have to accept a value. -/
inductive TrialKind where
  | anyOf
  | oneOf
deriving DecidableEq

def TrialKind.name : TrialKind → String
  | .anyOf => "anyOf"
  | .oneOf => "oneOf"

/-- What a value does against a schema. -/
inductive Offence where
  /-- It is of none of the types. -/
  | mistyped (value : Json) (types : List JsonType)
  /-- It is none of the listed values. -/
  | unlisted (value : Json) (values : List Json)
  /-- It is a text without the format. -/
  | malformed (value : Json) (format : Format)
  /-- It is a text in which the pattern is not found. -/
  | unmatched (text pattern : String)
  /-- The search for the pattern in it has no answer. -/
  | unsearchable (limit : Pattern.SearchLimit)
  | missing (name : String)
  /-- It has keys that are not described. -/
  | unexpected (names : List String)
  /-- It has items that are not described. -/
  | surplus (items : List Json)
  /-- It holds something where nothing is accepted. -/
  | refused (value : Json)
  /-- It is too small a number. -/
  | below (value : Json) (bound : Bound)
  /-- It is too great a number. -/
  | above (value : Json) (bound : Bound)
  /-- It is a number between the multiples. -/
  | uneven (value : Json) (unit : Double)
  /-- It has less than the least count. -/
  | tooFew (value : Json) (counted : Counted) (limit : Nat)
  /-- It has more than the greatest count. -/
  | tooMany (value : Json) (counted : Counted) (limit : Nat)
  | repeated (value : Json)
  /-- No schema of a list accepts it. -/
  | unaccepted (value : Json) (kind : TrialKind)
  /-- More than one schema accepts it. -/
  | ambiguous (value : Json)
  /-- The schema of a value accepts it and must not. -/
  | excluded (value schema : Json)
deriving DecidableEq

/-- A count with the word for what is counted. -/
def Counted.text (counted : Counted) (count : Nat) : String :=
  toString count ++
    match counted, count == 1 with
    | .characters, true => " character"
    | .characters, false => " characters"
    | .items, true => " item"
    | .items, false => " items"
    | .properties, true => " property"
    | .properties, false => " properties"

/-- The end of a sentence about one or more things that are not described. -/
def unexpectedText (count : Nat) : String :=
  if count = 1 then " was unexpected)" else " were unexpected)"

def Offence.message : Offence → String
  | .mistyped value [type] => value.compact ++ " is not of type \"" ++ type.name ++ "\""
  | .mistyped value types =>
    value.compact ++ " is not of types " ++
      String.intercalate ", " ((JsonType.all.filter types.contains).map fun type =>
        "\"" ++ type.name ++ "\"")
  | .unlisted value values => value.compact ++ " is not one of " ++ (Json.arr values).compact
  | .malformed value format => value.compact ++ " is not a \"" ++ format.name ++ "\""
  | .unmatched text pattern => Json.quote text ++ " does not match \"" ++ pattern ++ "\""
  | .unsearchable limit => limit.message
  | .missing name => Json.quote name ++ " is a required property"
  | .unexpected names =>
    "Additional properties are not allowed (" ++
      String.intercalate ", " (names.map fun name => "'" ++ name ++ "'") ++
      unexpectedText names.length
  | .surplus items =>
    "Additional items are not allowed (" ++
      String.intercalate ", " (Json.compactItems items) ++ unexpectedText items.length
  | .refused value => "False schema does not allow " ++ value.compact
  | .below value bound =>
    value.compact ++
      (if bound.strict then " is less than or equal to the minimum of "
        else " is less than the minimum of ") ++ bound.limit.toText
  | .above value bound =>
    value.compact ++
      (if bound.strict then " is greater than or equal to the maximum of "
        else " is greater than the maximum of ") ++ bound.limit.toText
  | .uneven value unit =>
    value.compact ++ " is not a multiple of " ++ Decimal.plainText unit
  | .tooFew value counted limit =>
    value.compact ++
      (match counted with
        | .characters => " is shorter than "
        | _ => " has less than ") ++ counted.text limit
  | .tooMany value counted limit =>
    value.compact ++
      (match counted with
        | .characters => " is longer than "
        | _ => " has more than ") ++ counted.text limit
  | .repeated value => value.compact ++ " has non-unique elements"
  | .unaccepted value kind =>
    value.compact ++ " is not valid under any of the schemas listed in the '" ++ kind.name ++
      "' keyword"
  | .ambiguous value =>
    value.compact ++ " is valid under more than one of the schemas listed in the 'oneOf' keyword"
  | .excluded value schema => schema.compact ++ " is not allowed for " ++ value.compact

/-- An offence and where it is. -/
structure Violation where
  location : Pointer
  offence : Offence
deriving DecidableEq

def Violation.text (violation : Violation) : String :=
  if violation.location.isEmpty then
    "The root value is invalid: " ++ violation.offence.message
  else
    "The value at " ++ violation.location.toText ++ " is invalid: " ++ violation.offence.message

end EventDelivery
