import EventDelivery.Trace
/-!
# Inputs of calls

What a caller hands over for one call, and what a function of the destination is given.
-/

namespace EventDelivery

/-- The tokens of an authorization. -/
structure AuthTokens where
  accessToken : String
  refreshToken : String := ""
deriving DecidableEq

namespace AuthTokens

/-- The record that tokens are given as. -/
def record : Record := ⟨"AuthTokens", ["accessToken", "refreshToken"]⟩

def ofJson : Json → Decoded AuthTokens :=
  record.decode fun source =>
    AuthTokens.mk
    <$> record.required source "accessToken" Wire.text
    <*> record.optional source "refreshToken" "" Wire.text

def toJson (tokens : AuthTokens) : Json :=
  .ofMembers [("accessToken", .str tokens.accessToken), ("refreshToken", .str tokens.refreshToken)]

end AuthTokens

/-- Feature flags by name. -/
abbrev Features := Keyed Bool

def Features.toJson (features : Features) : Json :=
  .obj (features.entries.map fun entry => (entry.1, .bool entry.2))

/-- What the hooks of an action saved before, by hook. -/
abbrev HookOutputs := List (HookType × Json)

namespace HookOutputs

/-- Decodes members by the name of a hook. -/
def ofMembers : List (String × Json) → Decoded HookOutputs
  | [] => .ok []
  | (name, value) :: rest => do
    let type ← Wire.lookup HookType.names name
    let others ← ofMembers rest
    .ok ((type, value) :: others)

def ofJson : Json → Decoded HookOutputs
  | .obj members => ofMembers members
  | value => .error (.wrongType value "a map")

def toJson (outputs : HookOutputs) : Json :=
  .ofMembers (outputs.map fun output => (output.1.name, output.2))

end HookOutputs

/-- What calls carry along without the library looking at it, for the functions of the
destination. -/
structure CallContext where
  audienceSettings : Option Json := none
  auth : Option AuthTokens := none
  hookOutputs : Option HookOutputs := none
  features : Option Features := none
  stats : Option StatsContext := none
  /-- Whether there is a logger. -/
  logger : Bool := false
  /-- The pairs of the transaction, when there is one. -/
  transaction : Option (Keyed String) := none
  /-- The state of the request, when there is one. -/
  state : Option (Keyed String) := none

/-- What a caller hands over for one event, or for a list of them. -/
structure Bundle (α : Type) where
  data : α
  settings : Json := .null
  mapping : Json := .null
  context : CallContext := {}

/-- What a function of the destination is given. -/
structure Input (α : Type) where
  rawData : Option Json := none
  rawMapping : Option Json := none
  settings : Json
  payload : α
  /-- What the user entered for a hook. -/
  hookInputs : Option Json := none
  /-- The page that is asked for. -/
  page : Option String := none
  context : CallContext := {}

/-- The input of a call of one bundle, for a payload. -/
def Bundle.toInput {α β : Type} (bundle : Bundle α) (rawData : Json) (payload : β) : Input β :=
  { rawData := some rawData
    rawMapping := some bundle.mapping
    settings := bundle.settings
    payload
    context := bundle.context }

/-- What the options of all requests of a call may depend on. -/
structure ExtensionInput where
  settings : Json
  audienceSettings : Option Json
  auth : Option AuthTokens

/-- Derives the options of all requests of a call. -/
abbrev Extension := ExtensionInput → RequestOptions

/-- What an extension sees of an input. -/
def Input.forExtension {α : Type} (input : Input α) : ExtensionInput :=
  ⟨input.settings, input.context.audienceSettings, input.context.auth⟩

/-- A step that a call has made. -/
structure ExecutionRecord where
  data : Option Json
  output : String
deriving DecidableEq

namespace ExecutionRecord

def mappingsResolved : ExecutionRecord := ⟨none, "Mappings resolved"⟩

def payloadValidated : ExecutionRecord := ⟨none, "Payload validated"⟩

/-- The action has been executed, with a result. -/
def actionExecuted (result : Json) : ExecutionRecord := ⟨some result, "Action Executed"⟩

/-- The record that steps are given as. -/
def record : Record := ⟨"ExecutionRecord", ["data", "output"]⟩

def ofJson : Json → Decoded ExecutionRecord :=
  record.decode fun source =>
    ExecutionRecord.mk
    <$> record.optional source "data" none (Wire.nullable Wire.any)
    <*> record.required source "output" Wire.text

def toJson (step : ExecutionRecord) : Json :=
  .ofMembers (Record.present "data" step.data ++ [("output", .str step.output)])

end ExecutionRecord

end EventDelivery
