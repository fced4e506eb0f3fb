import EventDelivery.RunConfig.Basic
import EventDelivery.Webhook
/-!
# Deliveries

Sends the events of a run through its action: one by one, where the failure of an event is reported
and the next one follows, or all in one piece.
-/

namespace EventDelivery

namespace RunConfig

/-- The definition of the action of a run. -/
def definition (config : RunConfig) (dryRun : Bool) : ActionDefinition :=
  Webhook.sendAction config.action.title config.action.description
    (if config.action.fields.isEmpty then Webhook.defaultFields else config.action.fields) dryRun

/-- The mapping of a run: its own, or the one that the fields start with. -/
def usedMapping (config : RunConfig) (dryRun : Bool) : Json :=
  config.mapping.getD (config.definition dryRun).defaultMapping

/-- What is handed over for a call. -/
def bundle {α : Type} (config : RunConfig) (mapping : Json) (data : α) : Bundle α :=
  { data
    settings := if config.settings.isNull then .obj [] else config.settings
    mapping
    context := { auth := config.auth, features := some config.features } }

/-- The report of an event: the steps of its call, or the error that ended it. -/
def eventReport (index : Nat) : Except ActionError (List ExecutionRecord) → Json
  | .ok steps =>
    .ofMembers [("index", .ofNat index), ("records", .arr (steps.map ExecutionRecord.toJson))]
  | .error error =>
    .ofMembers [("index", .ofNat index),
      ("error", .ofMembers [("code", .str error.code), ("message", .str error.message)])]

/-- The report of events that were delivered in one piece. -/
def batchReport (size : Nat) : Json :=
  .ofMembers [("batch", .ofNat size), ("status", .str "done")]

/-- Delivers events one by one, the first of them at a position. -/
def deliverEach (config : RunConfig) (action : Action) (mapping : Json) :
    Nat → List Json → Transport → Ran (List Json)
  | _, [], transport => ⟨[], { transport }, []⟩
  | index, event :: rest, transport =>
    let ran := action.execute (config.bundle mapping event) transport
    let later := deliverEach config action mapping (index + 1) rest ran.world.transport
    (later.map (eventReport index ran.result :: ·)).after ran.events

def deliverBatch (config : RunConfig) (action : Action) (mapping : Json) (transport : Transport) :
    Ran (Except ActionError Json) :=
  (action.executeBatch (config.bundle mapping config.events) transport).map fun result =>
    result.map fun _ => batchReport config.events.length

end RunConfig

end EventDelivery
