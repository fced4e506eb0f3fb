import EventDelivery.Action.Definition
import EventDelivery.Field.Schema
import EventDelivery.Mapping.Resolve
import EventDelivery.Schema.Clean
import EventDelivery.Schema.Validate
/-!
# Actions

An action is a definition with its schemas compiled. They are compiled once, when the action is
built.
-/

namespace EventDelivery

/-- Resolves mappings against events. -/
structure Mapper where
  /-- Resolves a mapping against one event. -/
  transform : Json → Json → Except ActionError Json
  /-- Resolves a mapping against a list of events, when the mapper does so in a way of its own. -/
  transformList : Option (Json → List Json → Except ActionError (List Json)) := none

def Mapper.directives : Mapper where
  transform mapping event :=
    (Mapping.transform mapping event).mapError fun fault => .mapping fault.message

/-- Makes the schema of fields. -/
abbrev SchemaCompiler := FieldMap → Json

/-- What an action is built from. -/
structure ActionBuilder where
  destination : String
  definition : ActionDefinition
  /-- Derives the options of all requests of a call. -/
  extension : Option Extension := none
  mapper : Mapper := Mapper.directives
  compiler : SchemaCompiler := FieldMap.schema

/-- An action of a destination. -/
structure Action where
  destination : String
  definition : ActionDefinition
  /-- The schema of payloads, when the action has fields. -/
  schema : Option CompiledSchema
  /-- The schema of what users enter for a hook, when the hook asks for anything. -/
  hookSchema : HookType → Option CompiledSchema
  extension : Option Extension
  mapper : Mapper

namespace ActionBuilder

def compile (builder : ActionBuilder) (fields : FieldMap) : Except ActionError CompiledSchema :=
  (CompiledSchema.compile (builder.compiler fields)).mapError .schema

def compilePayload (builder : ActionBuilder) : Except ActionError (Option CompiledSchema) :=
  if builder.definition.fields.isEmpty then .ok none
  else (builder.compile builder.definition.fields).map some

/-- What users are asked for when a hook runs. -/
def hookFields? (builder : ActionBuilder) (type : HookType) : Option FieldMap :=
  builder.definition.hooks.bind fun hooks => (hooks type).bind HookDefinition.inputFields

/-- Compiles the schema of a hook. -/
def compileHook (builder : ActionBuilder) (type : HookType) :
    Except ActionError (Option CompiledSchema) :=
  match builder.hookFields? type with
  | none => .ok none
  | some fields => (builder.compile fields).map some

/-- How often the compiler is consulted for a whole action. -/
def compilations (builder : ActionBuilder) : Nat :=
  (if builder.definition.fields.isEmpty then 0 else 1) +
    (HookType.names.filter fun entry => (builder.hookFields? entry.2).isSome).length

/-- Builds an action; it fails when a schema does. -/
def build (builder : ActionBuilder) : Except ActionError Action := do
  let schema ← builder.compilePayload
  let onMappingSave ← builder.compileHook .onMappingSave
  return {
    destination := builder.destination
    definition := builder.definition
    schema
    hookSchema := fun
      | .onMappingSave => onMappingSave
    extension := builder.extension
    mapper := builder.mapper }

end ActionBuilder

namespace Action

/-- Whether the action takes lists of events. -/
def hasBatchSupport (action : Action) : Bool := action.definition.performBatch.isSome

def hasHookSupport (action : Action) : Bool := action.definition.hooks.isSome

/-- The key that discarded payloads are counted under. -/
def schemaKey (action : Action) : String := action.destination ++ ":" ++ action.definition.title

/-- The key that discarded inputs of a hook are counted under. -/
def hookSchemaKey (action : Action) (type : HookType) : String :=
  action.schemaKey ++ ":" ++ type.name

def client {α : Type} (action : Action) (input : Input α) : Client :=
  { defaults :=
      match action.extension with
      | some extend => extend input.forExtension
      | none => {}
    hooks := [Hook.publish]
    stats := input.context.stats }

end Action

end EventDelivery
