import EventDelivery.Action.Input
import EventDelivery.Action.Program
import EventDelivery.Action.Result
import EventDelivery.Field.Basic
/-!
# Definitions of actions

What a destination declares for an action: its fields, and the functions that it supplies.
-/

namespace EventDelivery

/-- A function over payloads of a kind, with results of a kind. -/
abbrev Function (α β : Type) := Input α → Program (Except ActionError β)

/-- A hook of an action. -/
structure HookDefinition where
  /-- What users are asked for when the hook runs. -/
  inputFields : Option FieldMap
  perform : Function Json HookResult

/-- What a destination declares for an action. -/
structure ActionDefinition where
  title : String
  description : String := ""
  platform : Platform := .cloud
  fields : FieldMap := []
  /-- Delivers one payload. -/
  perform : Option (Function Json PerformOutput) := none
  /-- Delivers a list of payloads. -/
  performBatch : Option (Function (List Json) PerformOutput) := none
  /-- Look up the choices of fields. -/
  dynamicFields : List (String × Function Json DynamicFieldResponse) := []
  /-- The hooks, when hooks are declared at all. -/
  hooks : Option (HookType → Option HookDefinition) := none

/-- The mapping that the fields of an action start with. -/
def ActionDefinition.defaultMapping (definition : ActionDefinition) : Json :=
  definition.fields.defaultMapping

end EventDelivery
