import EventDelivery.Json.Basic
import EventDelivery.Schema.Reference.Target
/-!
# Schemas inside of schemas

Which keywords hold schemas, and one recursion over them: what is made of a schema is made of its
keywords and of what was made of the schemas in them.
-/

namespace EventDelivery

/-- What a keyword holds: what was made of the schemas in its value. -/
inductive Content (α : Type) where
  | plain
  | one (made : α)
  | keyed (made : List (String × α))
  | listed (made : List α)

namespace Content

def all {α : Type} : Content α → List α
  | .plain => []
  | .one value => [value]
  | .keyed values => values.map Prod.snd
  | .listed values => values

end Content

namespace Subschema

/-- Keywords that hold a schema. -/
def isOne (keyword : String) : Bool :=
  ["additionalItems", "additionalProperties", "items", "not"].contains keyword

def isKeyed (keyword : String) : Bool :=
  ["definitions", "dependencies", "patternProperties", "properties"].contains keyword

/-- Keywords that hold a list of schemas. -/
def isListed (keyword : String) : Bool := ["allOf", "anyOf", "items", "oneOf"].contains keyword

/-- What a schema stands for instead of setting rules of its own. -/
def reference? (members : List (String × Json)) : Option Json := Assoc.get? "$ref" members

/-- The locator that a schema gives itself. One that is a name alone is none, and a schema that
stands for another one has none. -/
def id? (members : List (String × Json)) : Option String :=
  match reference? members, Assoc.get? "id" members with
  | none, some (.str id) => if id.startsWith "#" then none else some id
  | _, _ => none

/-- The name that a schema gives itself. -/
def name? (members : List (String × Json)) : Option String :=
  match Assoc.get? "id" members with
  | some (.str id) => if id.startsWith "#" then some (String.ofList (id.toList.drop 1)) else none
  | _ => none

/-- The locator that what is inside of a schema is relative to. -/
def baseIn (base : String) (members : List (String × Json)) : String :=
  match id? members with
  | some id => Locator.resolve base (Locator.withoutFragment id)
  | none => base

variable {α : Type}

/-- How something is made of a schema. -/
structure Maker (α : Type) where
  /-- What is made of the keywords of a schema and of what they hold; the locator is the one that
  everything inside is relative to. -/
  make : String → List (String × Json) → List (String × Content α) → α
  /-- What is made of a value that is no object. -/
  other : Json → α

mutual

def Maker.of (maker : Maker α) (base : String) : Json → α
  | .obj members =>
    maker.make (baseIn base members) members (maker.contents (baseIn base members) members)
  | value => maker.other value
termination_by structural value => value

/-- What the keywords of a schema hold. -/
def Maker.contents (maker : Maker α) (base : String) :
    List (String × Json) → List (String × Content α)
  | [] => []
  | (keyword, value) :: rest =>
    (keyword, maker.content base keyword value) :: maker.contents base rest
termination_by structural members => members

def Maker.content (maker : Maker α) (base keyword : String) : Json → Content α
  | .obj members =>
    if isOne keyword then
      .one (maker.make (baseIn base members) members
        (maker.contents (baseIn base members) members))
    else if isKeyed keyword then .keyed (maker.ofMembers base members)
    else .plain
  | .arr items => if isListed keyword then .listed (maker.ofItems base items) else .plain
  | _ => .plain
termination_by structural value => value

/-- What is made of schemas by key. -/
def Maker.ofMembers (maker : Maker α) (base : String) :
    List (String × Json) → List (String × α)
  | [] => []
  | (key, value) :: rest => (key, maker.of base value) :: maker.ofMembers base rest
termination_by structural members => members

/-- What is made of a list of schemas. -/
def Maker.ofItems (maker : Maker α) (base : String) : List Json → List α
  | [] => []
  | value :: rest => maker.of base value :: maker.ofItems base rest
termination_by structural items => items

end

/-- A schema among others: the locator that what is inside is relative to, and its members. -/
structure Entry where
  base : String
  members : List (String × Json)

/-- All schemas of a value that is a schema, itself first. -/
def entries (base : String) (value : Json) : List Entry :=
  Maker.of
    { make := fun base members contents =>
        ⟨base, members⟩ :: contents.flatMap fun content => content.2.all.flatten
      other := fun _ => [] }
    base value

end Subschema

end EventDelivery
