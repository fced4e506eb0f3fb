import EventDelivery.Json.Basic
/-!
# The schema of schemas

The schema that every schema of the dialect has to fit, as a value. Schemas can refer to it.
-/

namespace EventDelivery

namespace DraftSchema

def keywords (members : List (String × Json)) : Json := .ofMembers members

def typed (name : String) : String × Json := ("type", .str name)

def byDefault (value : Json) : String × Json := ("default", value)

/-- The keyword for the schemas of which one has to accept. -/
def anyOf (schemas : List Json) : String × Json := ("anyOf", .arr schemas)

def reference (text : String) : Json := keywords [("$ref", .str text)]

def schema : Json := reference "#"

def defined (name : String) : Json := reference ("#/definitions/" ++ name)

def anything : Json := .obj []

def text (format : List (String × Json)) : Json := keywords (typed "string" :: format)

def number : Json := keywords [typed "number"]

/-- A flag that is off by default. -/
def flag : Json := keywords [byDefault (.bool false), typed "boolean"]

def schemaOrFlag : Json :=
  keywords [anyOf [keywords [typed "boolean"], schema], byDefault anything]

def keyedSchemas : Json :=
  keywords [("additionalProperties", schema), byDefault anything, typed "object"]

/-- A list with at least one item. -/
def filledList (items : Json) (more : List (String × Json)) : Json :=
  keywords ([("items", items), ("minItems", .ofInt 1), typed "array"] ++ more)

def distinct : String × Json := ("uniqueItems", .bool true)

def typeNames : List String :=
  ["array", "boolean", "integer", "null", "number", "object", "string"]

def properties : List (String × Json) :=
  [("$schema", text [("format", .str "uri")]),
    ("additionalItems", schemaOrFlag),
    ("additionalProperties", schemaOrFlag),
    ("allOf", defined "schemaArray"),
    ("anyOf", defined "schemaArray"),
    ("default", anything),
    ("definitions", keyedSchemas),
    ("dependencies", keywords [
      ("additionalProperties", keywords [anyOf [schema, defined "stringArray"]]),
      typed "object"]),
    ("description", text []),
    ("enum", keywords [typed "array"]),
    ("exclusiveMaximum", flag),
    ("exclusiveMinimum", flag),
    ("format", text []),
    ("id", text [("format", .str "uri")]),
    ("items", keywords [anyOf [schema, defined "schemaArray"], byDefault anything]),
    ("maxItems", defined "positiveInteger"),
    ("maxLength", defined "positiveInteger"),
    ("maxProperties", defined "positiveInteger"),
    ("maximum", number),
    ("minItems", defined "positiveIntegerDefault0"),
    ("minLength", defined "positiveIntegerDefault0"),
    ("minProperties", defined "positiveIntegerDefault0"),
    ("minimum", number),
    ("multipleOf", keywords [
      ("exclusiveMinimum", .bool true), ("minimum", .ofInt 0), typed "number"]),
    ("not", schema),
    ("oneOf", defined "schemaArray"),
    ("pattern", text [("format", .str "regex")]),
    ("patternProperties", keyedSchemas),
    ("properties", keyedSchemas),
    ("required", defined "stringArray"),
    ("title", text []),
    ("type", keywords [
      anyOf [defined "simpleTypes", filledList (defined "simpleTypes") [distinct]]]),
    ("uniqueItems", flag)]

/-- What is used more than once. -/
def definitions : List (String × Json) :=
  [("positiveInteger", keywords [("minimum", .ofInt 0), typed "integer"]),
    ("positiveIntegerDefault0", keywords [
      ("allOf", .arr [defined "positiveInteger", keywords [byDefault (.ofInt 0)]])]),
    ("schemaArray", filledList schema []),
    ("simpleTypes", keywords [("enum", .ofTexts typeNames)]),
    ("stringArray", filledList (text []) [distinct])]

/-- What a keyword asks for beside itself. -/
def dependencies : List (String × Json) :=
  [("exclusiveMaximum", .ofTexts ["maximum"]), ("exclusiveMinimum", .ofTexts ["minimum"])]

end DraftSchema

/-- The locator of the schema of schemas. -/
def draftLocator : String := "http://json-schema.org/draft-04/schema"

open DraftSchema in
def draftSchema : Json :=
  keywords [
    ("$schema", .str (draftLocator ++ "#")),
    byDefault anything,
    ("definitions", .ofMembers definitions),
    ("dependencies", .ofMembers dependencies),
    ("description", .str "Core schema meta-schema"),
    ("id", .str (draftLocator ++ "#")),
    ("properties", .ofMembers properties),
    typed "object"]

end EventDelivery
