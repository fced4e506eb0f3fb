import EventDelivery.Action.Input
import EventDelivery.Field.Wire
/-!
# Run configurations

What a run delivers: a destination with its settings, an action with its fields, a mapping, and the
events that go through them.
-/

namespace EventDelivery

/-- The action of a run. -/
structure ActionConfig where
  title : String
  description : String := ""
  /-- The fields; without any, the fields of the destination are taken. -/
  fields : FieldMap := []

namespace ActionConfig

/-- The record that actions are given as. -/
def record : Record := ⟨"ActionConfig", ["title", "description", "fields"]⟩

def ofJson : Json → Decoded ActionConfig :=
  record.decode fun source =>
    ActionConfig.mk
    <$> record.required source "title" Wire.text
    <*> record.optional source "description" "" Wire.text
    <*> record.optional source "fields" [] FieldMap.ofJson

def toJson (action : ActionConfig) : Json :=
  .ofMembers [("title", .str action.title), ("description", .str action.description),
    ("fields", action.fields.toJson)]

end ActionConfig

/-- A run. -/
structure RunConfig where
  /-- The name of the destination. -/
  destination : String
  action : ActionConfig
  /-- The settings of the destination. -/
  settings : Json := .null
  /-- The mapping for every event; without one, the fields start with theirs. -/
  mapping : Option Json := none
  events : List Json
  /-- Whether the events are delivered in one piece. -/
  batch : Bool := false
  auth : Option AuthTokens := none
  features : Features := ∅

namespace RunConfig

/-- The record that runs are given as. -/
def record : Record :=
  ⟨"RunConfig", ["destination", "action", "settings", "mapping", "events", "batch", "auth",
    "features"]⟩

def ofJson : Json → Decoded RunConfig :=
  record.decode fun source =>
    RunConfig.mk
    <$> record.required source "destination" Wire.text
    <*> record.required source "action" ActionConfig.ofJson
    <*> record.optional source "settings" .null Wire.any
    <*> record.optional source "mapping" none (Wire.nullable Wire.any)
    <*> record.required source "events" (Wire.list Wire.any)
    <*> record.optional source "batch" false Wire.flag
    <*> record.optional source "auth" none (Wire.nullable AuthTokens.ofJson)
    <*> record.optional source "features" ∅ (Wire.keyed Wire.flag)

def toJson (config : RunConfig) : Json :=
  .ofMembers [
    ("destination", .str config.destination),
    ("action", config.action.toJson),
    ("settings", config.settings),
    ("mapping", .ofOption config.mapping),
    ("events", .arr config.events),
    ("batch", .bool config.batch),
    ("auth", .ofOption (config.auth.map AuthTokens.toJson)),
    ("features", config.features.toJson)]

end RunConfig

end EventDelivery
