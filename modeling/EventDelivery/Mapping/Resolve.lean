import EventDelivery.Mapping.Template
/-!
# Resolving mappings

A mapping is a value with directives in it. It is resolved against the data of one event: directives
are replaced by what they select or build, everything else stays. What resolves to nothing is left
out of the object or array it stands in.
-/

namespace EventDelivery

/-- The directives. -/
inductive Directive where
  /-- The value at a path. -/
  | path
  | template
  /-- The argument itself, never resolved. -/
  | literal
  /-- One of two mappings, chosen by a condition. -/
  | condition
  /-- A mapping over every item of an array. -/
  | arrayPath
deriving DecidableEq

def Directive.ofName? (name : String) : Option Directive :=
  if name = "@path" then some .path
  else if name = "@template" then some .template
  else if name = "@literal" then some .literal
  else if name = "@if" then some .condition
  else if name = "@arrayPath" then some .arrayPath
  else none

namespace Mapping

/-- Whether a key is one of those set aside for directives. -/
def isReserved (key : String) : Bool :=
  key.toList.head? == some '@'

/-- Whether something other than null was found. -/
def isPresent : Option Json → Bool
  | none | some .null => false
  | some _ => true

/-- Whether nothing, null or an empty string was found. -/
def isBlank : Option Json → Bool
  | none | some .null => true
  | some (.str s) => s.isEmpty
  | some _ => false

/-- Puts a member in front, unless it has no value. -/
def consMember (key : String) (value : Option Json) (members : List (String × Json)) :
    List (String × Json) :=
  match value with
  | some value => (key, value) :: members
  | none => members

/-- Applies `f` to every item in turn and keeps what it finds. -/
def collect (f : Json → Except MappingFault (Option Json)) :
    List Json → Except MappingFault (List Json)
  | [] => .ok []
  | item :: rest => do
    let found ← f item
    let others ← collect f rest
    .ok (found.toList ++ others)

/-- Applies `f` to the items of an array that was found; without `f` they stay as they are. Anything
else gives nothing. -/
def overItems (f : Option (Json → Except MappingFault (Option Json))) :
    Option Json → Except MappingFault (Option Json)
  | some (.arr items) =>
    match f with
    | none => .ok (some (.arr items))
    | some f => do
      let results ← collect f items
      .ok (some (.arr results))
  | _ => .ok none

mutual

/-- What a mapping resolves to over data; none when it resolves to nothing. -/
def resolve (data : Json) : Json → Except MappingFault (Option Json)
  | .obj members =>
    if members.any (fun member => isReserved member.1) then
      match members with
      | [(name, argument)] =>
        match Directive.ofName? name with
        | some directive => resolveDirective data directive argument
        | none => .error (.unknownDirective name)
      | _ => .error .crowdedDirective
    else do
      let found ← resolveMembers data members
      .ok (some (.obj found))
  | .arr items => do
    let found ← resolveItems data items
    .ok (some (.arr found))
  | scalar => .ok (some scalar)
termination_by structural mapping => mapping

/-- What a directive resolves to. -/
def resolveDirective (data : Json) : Directive → Json → Except MappingFault (Option Json)
  | .path, .str path => Path.get path data
  | .path, _ => .error (.textExpected "@path")
  | .template, .str template => .ok (some (.str (Template.render template data)))
  | .template, _ => .error (.textExpected "@template")
  | .literal, value => .ok (some value)
  | .condition, .obj options => do
    let holds ←
      match (← resolveOption data "exists" options) with
      | some found => .ok (isPresent found)
      | none =>
        match (← resolveOption data "blank" options) with
        | some found => .ok (isBlank found)
        | none => .error .untested
    let branch ← resolveOption data (if holds then "then" else "else") options
    .ok branch.join
  | .condition, _ => .error .optionsExpected
  | .arrayPath, .arr (source :: rest) => do
    let found ←
      match source.text? with
      | some path => Path.get path data
      | none => resolve data source
    match rest with
    | [] => overItems none found
    | mapping :: _ => overItems (some fun item => resolve item mapping) found
  | .arrayPath, _ => .error .sourceExpected
termination_by structural _ argument => argument

/-- What the option of a condition resolves to; none when the option is not given. -/
def resolveOption (data : Json) (name : String) :
    List (String × Json) → Except MappingFault (Option (Option Json))
  | [] => .ok none
  | (key, value) :: rest =>
    if key = name then (resolve data value).map some else resolveOption data name rest
termination_by structural options => options

/-- What the items of an array resolve to. -/
def resolveItems (data : Json) : List Json → Except MappingFault (List Json)
  | [] => .ok []
  | item :: rest => do
    let found ← resolve data item
    let others ← resolveItems data rest
    .ok (found.toList ++ others)
termination_by structural items => items

/-- What the members of an object resolve to. -/
def resolveMembers (data : Json) :
    List (String × Json) → Except MappingFault (List (String × Json))
  | [] => .ok []
  | (key, value) :: rest => do
    let found ← resolve data value
    let others ← resolveMembers data rest
    .ok (consMember key found others)
termination_by structural members => members

end

/-- The data that mappings see of an event; what is not an object is seen as an empty one. -/
def eventData : Json → Json
  | .obj members => .obj members
  | _ => .obj []

/-- Resolves a mapping against one event. A mapping that resolves to nothing gives an empty
object. -/
def transform (mapping event : Json) : Except MappingFault Json :=
  (resolve (eventData event) mapping).map fun found => found.getD (.obj [])

/-- Resolves a mapping against every event in order, up to the first fault. -/
def transformAll (mapping : Json) (events : List Json) : Except MappingFault (List Json) :=
  events.mapM (transform mapping)

end Mapping

end EventDelivery
