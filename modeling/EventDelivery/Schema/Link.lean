import EventDelivery.Schema.Compile
/-!
# Linking schemas

Schemas that stand for others are linked to them before a value is checked. Everything that a schema
refers to has to be there, and its patterns have to be usable.
-/

namespace EventDelivery

/-- What linking comes across in a schema. -/
inductive LinkStep where
  /-- A schema that stands for another one. -/
  | follow (reference : Reference)
  /-- Something that cannot be used. -/
  | fail (offence : Offence)

namespace LinkStep

/-- The keywords whose schemas are linked, in their order. Where other keys are not free, the
schemas for keys come before the one for other keys. -/
def order (absorbing : Bool) : List String :=
  let early := ["patternProperties", "properties", "additionalProperties"]
  ["additionalItems"] ++ (if absorbing then early else []) ++
    ["allOf", "anyOf", "dependencies", "items", "not", "oneOf", "pattern"] ++
    if absorbing then [] else ["patternProperties", "properties"]

/-- The steps of schemas by the text of a pattern. -/
def ofPatterns (schemas : List (String × Json)) (keyed : List (String × List LinkStep)) :
    List LinkStep :=
  keyed.flatMap fun (text, steps) =>
    if (Pattern.ofText? text).isSome then steps
    else [.fail (.malformed ((Assoc.get? text schemas).getD .null) .regex)]

def ofKeyword (keyword : String) (members : List (String × Json))
    (contents : List (String × Content (List LinkStep))) : List LinkStep :=
  let all := ((Assoc.get? keyword contents).map fun content => content.all.flatten).getD []
  match keyword, Assoc.get? keyword members, Assoc.get? keyword contents with
  | "additionalItems", _, _ =>
    match Assoc.get? "items" members with
    | some (.arr _) => all
    | _ => []
  | "pattern", some (.str text), _ =>
    if (Pattern.ofText? text).isSome then [] else [.fail (.malformed (.str text) .regex)]
  | "patternProperties", some (.obj schemas), some (.keyed keyed) => ofPatterns schemas keyed
  | _, _, _ => all

/-- The steps of a schema, from its keywords and the steps of the schemas in them. -/
def ofContents (base : String) (members : List (String × Json))
    (contents : List (String × Content (List LinkStep))) : List LinkStep :=
  match Subschema.reference? members with
  | some (.str text) => [.follow ⟨base, text⟩]
  | some value => [.fail (.mistyped value [.string])]
  | none =>
    let absorbing :=
      match Assoc.get? "additionalProperties" members with
      | some (.bool false) | some (.obj _) => true
      | _ => false
    (order absorbing).flatMap fun keyword => ofKeyword keyword members contents

/-- What is linked of a value that is neither an object nor a flag nor a list of names. -/
def ofOther (value : Json) : List LinkStep :=
  match value with
  | .bool _ | .arr _ => []
  | value => [.fail (.mistyped value [.boolean, .object])]

/-- The steps of a schema relative to a locator. -/
def all (base : String) (value : Json) : List LinkStep :=
  Subschema.Maker.of { make := ofContents, other := ofOther } base value

end LinkStep

/-- Schemas by what refers to them. -/
abbrev Links := List (Reference × Schema)

/-- The schema that a reference leads to. -/
def Links.find? (links : Links) (reference : Reference) : Option Schema :=
  (List.find? (fun link => link.1 == reference) links).map Prod.snd

/-- Takes the steps of linking; what is linked to is linked itself. `fuel` is at least the number of
steps. -/
def Links.extend (library : Library) : Nat → Links → List LinkStep → Except SchemaFault Links
  | _, links, [] => .ok links
  | 0, links, _ => .ok links
  | _ + 1, _, .fail offence :: _ => .error (.offence offence)
  | fuel + 1, links, .follow reference :: rest =>
    if (links.find? reference).isSome then extend library fuel links rest
    else
      match library.find reference with
      | .error fault => .error (.reference fault)
      | .ok (base, value) =>
        extend library fuel ((reference, Schema.ofJson base value) :: links)
          (LinkStep.all base value ++ rest)

/-- What the schema of a reference finds; `fuel` bounds how often references are followed. -/
def Links.check (links : Links) : Nat → Reference → Checker
  | 0, _ => Check.nothing
  | fuel + 1, reference =>
    match links.find? reference with
    | some schema => schema.violations (check links fuel)
    | none => Check.nothing

/-- A schema with the value it was compiled from. -/
structure CompiledSchema where
  source : Json
  schema : Schema
  links : Links := []

namespace CompiledSchema

/-- Compiles the value of a schema: what it names from outside has to be there, it has to look like
a schema, and everything in it has to be usable. -/
def compile (source : Json) : Except SchemaFault CompiledSchema :=
  let library := Library.ofSource source
  match library.fault? source, Draft.ofSchema source with
  | some fault, _ => .error (.reference fault)
  | none, some offence => .error (.offence offence)
  | none, none => do
    let size := source.size + draftSchema.size
    let links ← Links.extend library (size * size * size) []
      (LinkStep.all Library.rootBase source)
    return ⟨source, Schema.ofJson Library.rootBase source, links⟩

/-- The violations of a payload. On the way down a value each reference is followed at most once
before a step into the value. -/
def violations (compiled : CompiledSchema) (payload : Json) : List Violation :=
  let fuel := (compiled.links.length + 1) * (payload.depth + 1)
  compiled.schema.violations (compiled.links.check fuel) [] payload

end CompiledSchema

end EventDelivery
