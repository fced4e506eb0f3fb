import EventDelivery.Action.Basic
/-!
# Executing actions

Events are mapped, cleaned, validated and delivered. A single event with a violation fails the call;
of a list, the payloads with violations are dropped.
-/

namespace EventDelivery

namespace Action

variable {α β : Type}

/-- Calls a function of the destination; `shown` is its payload as a value. -/
def call (action : Action) (slot : Slot) (shown : Json) (function : Function α β) (input : Input α)
    (transport : Transport) : Ran (Except ActionError β) :=
  ((function input).run (action.client input)
    { transport, transaction := input.context.transaction }).after [.invoked slot shown]

/-- A call that ends before a function is called. -/
def stop (context : CallContext) (transport : Transport) (result : α) (events : List Event) :
    Ran α :=
  ⟨result, { transport, transaction := context.transaction }, events⟩

/-- The metrics of discarded payloads as events. -/
def discarded (stats : Option StatsContext) (key : String) (violations : List Violation) :
    List Event :=
  (discards stats key violations).map .measured

/-- The violations of a payload; without fields there are none. -/
def violations (action : Action) (payload : Json) : List Violation :=
  match action.schema with
  | some schema => schema.violations payload
  | none => []

/-- The payload that a mapped event is cleaned to. -/
def clean (action : Action) (fromRoot : Bool) (mapped : Json) : Json :=
  removeEmptyValues mapped (action.schema.map CompiledSchema.source) fromRoot

/-- The steps of a call that ended with a result. -/
def records (action : Action) (result : Json) : List ExecutionRecord :=
  [.mappingsResolved] ++ (if action.schema.isSome then [.payloadValidated] else []) ++
    [.actionExecuted result]

/-- Maps, cleans, validates and delivers one event. -/
def execute (action : Action) (bundle : Bundle Json) (transport : Transport) :
    Ran (Except ActionError (List ExecutionRecord)) :=
  let context := bundle.context
  match action.definition.perform with
  | none => stop context transport (.error (.notImplemented .singleEvents)) []
  | some perform =>
    match action.mapper.transform bundle.mapping bundle.data with
    | .error error => stop context transport (.error error) [.mapped]
    | .ok mapped =>
      let payload := action.clean true mapped
      match action.violations payload with
      | first :: others =>
        stop context transport (.error (.validation first others))
          (.mapped :: discarded context.stats action.schemaKey (first :: others))
      | [] =>
        ((action.call .perform payload perform (bundle.toInput bundle.data payload)
            transport).map fun result =>
          result.map fun output => action.records output.normalize).after [.mapped]

/-- Maps events in order, up to the first failure; the mapper is consulted for every event up to
there. -/
def mapInTurn (mapper : Mapper) (mapping : Json) :
    List Json → Except ActionError (List Json) × List Event
  | [] => (.ok [], [])
  | event :: rest =>
    match mapper.transform mapping event with
    | .error error => (.error error, [.mapped])
    | .ok mapped =>
      let (others, events) := mapInTurn mapper mapping rest
      (others.map (mapped :: ·), .mapped :: events)

/-- Maps a list of events, in the mapper's own way or one event after the other. -/
def mapAll (mapper : Mapper) (mapping : Json) (data : List Json) :
    Except ActionError (List Json) × List Event :=
  match mapper.transformList with
  | some transformList => (transformList mapping data, [.mapped])
  | none => mapInTurn mapper mapping data

/-- Cleans mapped events and keeps those without violations; the others are counted. -/
def keepValid (schema : CompiledSchema) (stats : Option StatsContext) (key : String) :
    List Json → List Json × List Event
  | [] => ([], [])
  | mapped :: rest =>
    let payload := removeEmptyValues mapped (some schema.source) false
    let found := schema.violations payload
    let (kept, events) := keepValid schema stats key rest
    (if found.isEmpty then payload :: kept else kept, discarded stats key found ++ events)

/-- The payloads of mapped events that are delivered. -/
def survivors (action : Action) (stats : Option StatsContext) (mapped : List Json) :
    List Json × List Event :=
  match action.schema with
  | some schema => keepValid schema stats action.schemaKey mapped
  | none => (mapped, [])

/-- Maps, cleans and validates events, and delivers what is left of them in one piece. -/
def executeBatch (action : Action) (bundle : Bundle (List Json)) (transport : Transport) :
    Ran (Except ActionError Unit) :=
  let context := bundle.context
  match action.definition.performBatch with
  | none => stop context transport (.error (.notImplemented .batches)) []
  | some perform =>
    match mapAll action.mapper bundle.mapping bundle.data with
    | (.error error, events) => stop context transport (.error error) events
    | (.ok mapped, events) =>
      match action.survivors context.stats mapped with
      | ([], counted) => stop context transport (.ok ()) (events ++ counted)
      | (payloads, counted) =>
        ((action.call .performBatch (.arr payloads) perform
            (bundle.toInput (.arr bundle.data) payloads) transport).map fun result =>
          result.map fun _ => ()).after (events ++ counted)

/-- Looks up the choices of a dynamic field. A field that nothing is known of is no failure. -/
def executeDynamicField (action : Action) (name : String) (input : Input Json)
    (transport : Transport) : Ran (Except ActionError DynamicFieldResponse) :=
  match Assoc.get? name action.definition.dynamicFields with
  | none => stop input.context transport (.ok (.unknownField name)) []
  | some function => action.call (.dynamicField name) input.payload function input transport

/-- Runs a hook once what the user entered has no violation. -/
def executeHook (action : Action) (type : HookType) (input : Input Json) (transport : Transport) :
    Ran (Except ActionError HookResult) :=
  let fail (error : ActionError) (events : List Event) :=
    stop input.context transport (.error error) events
  match action.definition.hooks with
  | none => fail (.notImplemented .hooks) []
  | some hooks =>
    match hooks type with
    | none => fail (.notImplemented (.hook type)) []
    | some hook =>
      let found :=
        match action.hookSchema type with
        | some schema => schema.violations (input.hookInputs.getD (.obj []))
        | none => []
      match found with
      | first :: others =>
        fail (.validation first others)
          (discarded input.context.stats (action.hookSchemaKey type) (first :: others))
      | [] => action.call (.hook type) input.payload hook.perform input transport

end Action

end EventDelivery
