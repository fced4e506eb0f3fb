import EventDelivery.Json.Printer
import EventDelivery.Schema.Basic
import EventDelivery.Schema.Reference.Draft
import EventDelivery.Schema.Reference.Subschema
import EventDelivery.Url.Parse
/-!
# Where schemas are found

The schemas that a reference can lead to: those inside of the schema that refers, by their locators,
their names or a path to them, and the schema of schemas. Nothing is fetched.
-/

namespace EventDelivery

/-- Why a resource is not there. -/
inductive Unavailable where
  /-- Nobody answers for it. -/
  | unreached (locator : String)
  | noFile
  | unknownScheme (scheme : String)
  /-- It was not asked for in time. -/
  | late
deriving DecidableEq

/-- The words for it. -/
def Unavailable.message : Unavailable → String
  | .unreached locator => "error sending request for url (" ++ locator ++ ")"
  | .noFile => "No such file or directory (os error 2)"
  | .unknownScheme scheme => "Unknown scheme " ++ scheme
  | .late => "Retrieving external resources is not supported once the registry is populated"

/-- Why a reference leads nowhere. -/
inductive ReferenceFault where
  | unreadable (reference : String) (why : Locator.Unreadable)
  | unavailable (locator : String) (why : Unavailable)
  | nowhere (pointer : String)
  /-- A step into an array is no position. -/
  | badPosition (pointer step : String)
  /-- The escapes of a pointer are no text. -/
  | badEscapes (pointer : String)
  | unknownName (name : String)
  | badName (name : String)
deriving DecidableEq

def ReferenceFault.message : ReferenceFault → String
  | .unreadable reference why =>
    "Invalid URI reference '" ++ reference ++ "': " ++ why.message
  | .unavailable locator why =>
    "Resource '" ++ locator ++ "' is not present in a registry and retrieving it failed: " ++
      why.message
  | .nowhere pointer => "Pointer '" ++ pointer ++ "' does not exist"
  | .badPosition pointer step =>
    "Failed to parse array index '" ++ step ++ "' in pointer '" ++ pointer ++ "'"
  | .badEscapes pointer =>
    "Invalid percent encoding in pointer '" ++ pointer ++
      "': the decoded bytes do not represent valid UTF-8"
  | .unknownName name => "Anchor '" ++ name ++ "' does not exist"
  | .badName name => "Anchor '" ++ name ++ "' is invalid"

/-- The schemas that can be referred to. -/
structure Library where
  /-- Schemas by their locators. -/
  resources : List (String × Json)
  /-- Schemas by the locators around them and their names. -/
  names : List ((String × String) × Json)

namespace Library

/-- The locator that a schema without one has. -/
def rootBase : String := "json-schema:///"

/-- The locator of the root of a value. -/
def baseOf (source : Json) : String :=
  match source.members?.bind Subschema.id? with
  | some id => Locator.resolve rootBase (Locator.withoutFragment id)
  | none => rootBase

/-- The library of a schema: what is in it, and the schema of schemas. -/
def ofSource (source : Json) : Library :=
  let entries := Subschema.entries rootBase source
  { resources :=
      (baseOf source, source) :: (entries.filter fun entry =>
          (Subschema.id? entry.members).isSome).map (fun entry => (entry.base, .obj entry.members))
        ++ [(draftLocator, draftSchema)]
    names := entries.filterMap fun entry =>
      (Subschema.name? entry.members).map fun name => ((entry.base, name), .obj entry.members) }

/-- Why a resource that the library does not hold is not there. -/
def absence (locator : String) : Unavailable :=
  let scheme := Locator.scheme locator
  if scheme = "http" ∨ scheme = "https" then
    .unreached (match Url.parse locator with
      | .ok url => url.toText
      | .error _ => locator)
  else if scheme = "file" then .noFile
  else .unknownScheme scheme

/-- The fault of what a schema names from outside: the locators of other schemas that the library
does not hold. Those of the known dialects need not be held. -/
def missing? (library : Library) (base reference : String) : Option ReferenceFault :=
  if reference.startsWith "https://json-schema.org/draft/" ∨
      reference.startsWith "http://json-schema.org/draft-" ∨
      reference.startsWith "#" ∨ base.startsWith "urn:" then none
  else
    match Locator.unreadable? reference.toList with
    | some why => some (.unreadable reference why)
    | none =>
      let locator := Locator.withoutFragment (Locator.resolve base reference)
      if (Assoc.get? locator library.resources).isSome then none
      else some (.unavailable locator (absence locator))

/-- The texts of a schema that name other schemas. -/
def namedBy (members : List (String × Json)) : List String :=
  ["$ref", "$schema"].filterMap fun keyword => (Assoc.get? keyword members).bind Json.text?

/-- The fault of a locator that cannot be read. -/
def unreadable? (reference : String) : Option ReferenceFault :=
  (Locator.unreadable? reference.toList).map (.unreadable reference)

/-- The first fault of the locators that the schemas of a value give themselves and name. -/
def fault? (library : Library) (source : Json) : Option ReferenceFault :=
  (Subschema.entries rootBase source).findSome? fun entry =>
    ((Subschema.id? entry.members).bind unreadable?).or
      ((namedBy entry.members).findSome? (library.missing? entry.base))

/-- What stands for a step of a pointer. -/
def unescape : List Char → List Char
  | '~' :: '1' :: rest => '/' :: unescape rest
  | '~' :: '0' :: rest => '~' :: unescape rest
  | c :: rest => c :: unescape rest
  | [] => []

/-- What the value that a pointer has reached is. -/
inductive Standing where
  | schema
  /-- It holds schemas. -/
  | holder
  | other

/-- What the value is that a key of another value leads to. -/
def Standing.after : Standing → String → Json → Standing
  | .schema, keyword, value =>
    if keyword = "items" then
      match value with
      | .arr _ => .holder
      | _ => .schema
    else if Subschema.isOne keyword then .schema
    else if Subschema.isKeyed keyword ∨ Subschema.isListed keyword then .holder
    else .other
  | .holder, _, _ => .schema
  | .other, _, _ => .other

/-- Follows the steps of a pointer, with the locator that what is reached is relative to. -/
def follow (pointer : String) : Standing → String → Json → List String →
    Except ReferenceFault (String × Json)
  | _, base, value, [] => .ok (base, value)
  | standing, base, value, step :: rest =>
    let enter (key : String) (next : Json) : Except ReferenceFault (String × Json) :=
      let reached := standing.after key next
      let base :=
        match reached, next with
        | .schema, .obj members => Subschema.baseIn base members
        | _, _ => base
      follow pointer reached base next rest
    match value with
    | .arr items =>
      match Text.readUInt64? step.toList with
      | some position =>
        match items[position.toNat]? with
        | some next => enter step next
        | none => .error (.nowhere pointer)
      | none => .error (.badPosition pointer step)
    | .obj members =>
      let key := String.ofList (unescape step.toList)
      match Assoc.get? key members with
      | some next => enter key next
      | none => .error (.nowhere pointer)
    | _ => .error (.nowhere pointer)
termination_by structural _ _ _ steps => steps

/-- Finds what a fragment of a resource points to or names. -/
def findIn (library : Library) (locator fragment : String) (resource : Json) :
    Except ReferenceFault (String × Json) :=
  match fragment.toList with
  | [] => .ok (locator, resource)
  | '/' :: pointer =>
    match Text.decodeUtf8? (Percent.decode pointer) with
    | some decoded =>
      follow fragment .schema locator resource
        ((Text.splitOn '/' decoded).map String.ofList)
    | none => .error (.badEscapes fragment)
  | name =>
    match library.names.find? fun entry => entry.1 == (locator, fragment) with
    | some entry => .ok (locator, entry.2)
    | none =>
      .error (if name.contains '/' then .badName fragment else .unknownName fragment)

/-- Finds what a reference leads to, with the locator that what is inside is relative to. -/
def find (library : Library) (reference : Reference) : Except ReferenceFault (String × Json) :=
  match Locator.unreadable? reference.text.toList with
  | some why => .error (.unreadable reference.text why)
  | none =>
    let (path, fragment) := Locator.divide '#' reference.text.toList
    let locator :=
      if path.isEmpty then reference.base
      else Locator.resolve reference.base (String.ofList path)
    match Assoc.get? locator library.resources with
    | some resource =>
      library.findIn locator (String.ofList (fragment.getD [])) resource
    | none => .error (.unavailable locator .late)

end Library

end EventDelivery
