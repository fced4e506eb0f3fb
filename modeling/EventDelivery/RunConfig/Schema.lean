import EventDelivery.Json.Printer
import EventDelivery.Assoc
/-!
# The schema of run configurations

Describes the values that decode into runs. Types that are used by name have a definition of their
own. The text of a schema has the keywords that describe it in front and the definitions at the end.
-/

namespace EventDelivery

namespace ConfigSchema

def keywords (members : List (String × Json)) : Json := .ofMembers members

/-- The schema of a type that is defined by name. -/
def reference (name : String) : String × Json := ("$ref", .str ("#/$defs/" ++ name))

def typed (name : String) : String × Json := ("type", .str name)

/-- The keyword for a type or null. -/
def orNull (name : String) : String × Json := ("type", .ofTexts [name, "null"])

def described (text : String) : String × Json := ("description", .str text)

def byDefault (value : Json) : String × Json := ("default", value)

/-- The keyword for the values of all keys. -/
def eachKey (members : List (String × Json)) : String × Json :=
  ("additionalProperties", keywords members)

/-- The keywords for an object with properties, some of them required. -/
def objectOf (properties : List (String × Json)) (required : List String) :
    List (String × Json) :=
  [typed "object", ("properties", .ofMembers properties), ("required", .ofTexts required)]

def anything : Json := .bool true

/-- A flag that is off by default. -/
def flag (description : Option String) : Json :=
  keywords ([typed "boolean", byDefault (.bool false)] ++
    (description.map described).toList)

private def nullableText : Json := keywords [orNull "string"]

/-- A text that is empty by default. -/
def optionalText : Json := keywords [typed "string", byDefault (.str "")]

def text : Json := keywords [typed "string"]

/-- The schema of the action of a run. -/
def action : Json :=
  keywords <|
    [described "Metadata and fields of the action to build."] ++
    objectOf
      [("title", text),
        ("description", optionalText),
        ("fields", keywords [
          described
            ("Input fields; the payload schema is generated from these. When empty, the\n" ++
              "destination's default fields are used."),
          typed "object", eachKey [reference "InputField"], byDefault (.obj [])])]
      ["title"]

/-- The schema of the tokens of an authorization. -/
def tokens : Json :=
  keywords <|
    [described "OAuth tokens available to perform functions."] ++
    objectOf [("accessToken", text), ("refreshToken", optionalText)] ["accessToken"]

def choice : Json :=
  keywords [
    described "A selectable value for a field, either bare or with a display label.",
    ("anyOf", .arr [
      anything,
      keywords (objectOf [("label", text), ("value", anything)] ["label", "value"])])]

/-- The schema of one name of a type that has a description. -/
def describedName (name description : String) : Json :=
  keywords [described description, typed "string", ("const", .str name)]

/-- The schema of the type of a field. -/
private def fieldType : Json :=
  keywords [
    described "Value type of an input field.",
    ("oneOf", .arr [
      keywords [typed "string",
        ("enum", .ofTexts ["string", "number", "integer", "boolean", "object"])],
      describedName "text" "Multi-line string.",
      describedName "datetime" "ISO-8601 string (`format: date-time`).",
      describedName "password" "String rendered as a secret in configuration UIs."])]

def field : Json :=
  keywords <|
    [described ("Declarative definition of one action input.\n\n" ++
      "`default` holds a mapping expression (e.g. `\x7b\"@path\": \"$.userId\"\x7d`) " ++
      "that seeds the\nmapping when the action is first configured.")] ++
    objectOf
      [("label", text),
        ("description", optionalText),
        ("type", keywords [reference "FieldType", byDefault (.str "string")]),
        ("required", flag none),
        ("default", anything),
        ("hidden", flag "Hidden from configuration UIs."),
        ("multiple", flag "The field accepts a list of values of `field_type`."),
        ("allowNull",
          flag "`null` (and the empty string) are accepted and kept in the payload."),
        ("choices", keywords [orNull "array", ("items", keywords [reference "FieldChoice"])]),
        ("format", nullableText),
        ("properties", keywords [
          described "Nested fields for `object` inputs.",
          orNull "object", eachKey [reference "InputField"]]),
        ("additionalProperties", keywords [
          described "Whether an `object` input accepts keys outside `properties` (default: true).",
          orNull "boolean"]),
        ("dynamic",
          flag "Choices are fetched at configuration time through a dynamic field function."),
        ("placeholder", nullableText)]
      ["label"]

/-- A run as it may stand in a file. -/
def sample : List String :=
  ["\x7b",
    "  \"destination\": \"webhook\",",
    "  \"action\": \x7b \"title\": \"Send\", \"fields\": \x7b \"email\": \x7b \"label\": " ++
      "\"Email\", \"type\": \"string\", \"required\": true \x7d \x7d \x7d,",
    "  \"settings\": \x7b \"url\": \"https://hooks.example.com/in\" \x7d,",
    "  \"mapping\": \x7b \"email\": \x7b \"@path\": \"$.traits.email\" \x7d \x7d,",
    "  \"events\": [ \x7b \"traits\": \x7b \"email\": \"a@b.co\" \x7d \x7d ]",
    "\x7d"]

def properties : List (String × Json) :=
  [("destination", keywords [
      described "Destination name (built-in: \"webhook\").", typed "string"]),
    ("action", keywords [described "The action to run.", reference "ActionConfig"]),
    ("settings", keywords [
      described ("Destination settings handed to perform functions " ++
        "(for the webhook: url, method, headers)."),
      byDefault .null]),
    ("mapping", keywords [
      described ("Mapping resolved against every event. Defaults to the mapping built from the\n" ++
        "fields' `default` expressions."),
      byDefault .null]),
    ("events", keywords [
      described "Raw events to deliver.", typed "array", ("items", anything)]),
    ("batch", flag "Deliver all events in one batch instead of one request per event."),
    ("auth", keywords [
      ("anyOf", .arr [keywords [reference "AuthTokens"], keywords [typed "null"]]),
      byDefault .null]),
    ("features", keywords [
      typed "object", eachKey [typed "boolean"], byDefault (.obj [])])]

def run : Json :=
  keywords <|
    [("$schema", .str "https://json-schema.org/draft/2020-12/schema"),
      ("title", .str "RunConfig"),
      described <|
        "One run of the CLI: which destination action to build, and the events to send " ++
        "through it.\n\n" ++ String.intercalate "\n" (["```json"] ++ sample ++ ["```"])] ++
    objectOf properties ["destination", "action", "events"] ++
    [("$defs", .ofMembers [
      ("ActionConfig", action),
      ("AuthTokens", tokens),
      ("FieldChoice", choice),
      ("FieldType", fieldType),
      ("InputField", field)])]

/-- The keywords that are written first. -/
def leading : List String :=
  ["$id", "$schema", "title", "description", "type", "format", "properties"]

/-- The keywords that are written last. -/
def trailing : List String := ["$defs", "definitions"]

/-- The members that have one of the names, in the order of the names. -/
private def pick (names : List String) (members : List (String × Json)) : List (String × Json) :=
  names.filterMap fun name => (Assoc.get? name members).map fun value => (name, value)

/-- Keywords in the order in which they are written. -/
def inOrder (members : List (String × Json)) : List (String × Json) :=
  pick leading members ++
    members.filter (fun member => !leading.contains member.1 && !trailing.contains member.1) ++
    pick trailing members

mutual

/-- A schema with the keywords at every depth in the order in which they are written. -/
def arranged : Json → Json
  | .arr items => .arr (arrangedItems items)
  | .obj members => .obj (inOrder (arrangedKeywords members))
  | scalar => scalar

def arrangedItems : List Json → List Json
  | [] => []
  | item :: rest => arranged item :: arrangedItems rest

/-- Arranges the schemas that keywords hold. Names of properties and definitions are no keywords. -/
def arrangedKeywords : List (String × Json) → List (String × Json)
  | [] => []
  | (key, .obj members) :: rest =>
    (key, if key = "properties" ∨ key = "$defs" then .obj (arrangedNamed members)
      else .obj (inOrder (arrangedKeywords members))) :: arrangedKeywords rest
  | (key, value) :: rest => (key, arranged value) :: arrangedKeywords rest

def arrangedNamed : List (String × Json) → List (String × Json)
  | [] => []
  | (name, value) :: rest => (name, arranged value) :: arrangedNamed rest

end

def toText (schema : Json) : String := (arranged schema).pretty ""

end ConfigSchema

end EventDelivery
