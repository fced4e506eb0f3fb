import EventDelivery.Proofs.CallTrace
import Mathlib.Data.List.Forall2

/-!
# How calls end

One equation for every way in which a call can end, with one event, with a list
of events, for a dynamic field or for a hook, and what the cleaning loop over a
list keeps and counts.
Later files cite these and do not unfold the executor.  Calls follow one
another: each finds the transport as the one before left it.
-/

namespace EventDelivery

/-- A call of an action, with one event or with a list of events. -/
inductive Call where
  | single (bundle : Bundle Json)
  | batch (bundle : Bundle (List Json))

/-- A call that was made: the transport it found, and what it left behind. -/
inductive Delivery where
  | single (bundle : Bundle Json) (transport : Transport)
      (ran : Ran (Except ActionError (List ExecutionRecord)))
  | batch (bundle : Bundle (List Json)) (transport : Transport)
      (ran : Ran (Except ActionError Unit))

namespace Delivery

def call : Delivery → Call
  | .single bundle _ _ => .single bundle
  | .batch bundle _ _ => .batch bundle

def events : Delivery → List Event
  | .single _ _ ran => ran.events
  | .batch _ _ ran => ran.events

def transportAfter : Delivery → Transport
  | .single _ _ ran => ran.world.transport
  | .batch _ _ ran => ran.world.transport

end Delivery

namespace Action

def deliver (action : Action) (transport : Transport) : Call → Delivery
  | .single bundle => .single bundle transport (action.execute bundle transport)
  | .batch bundle =>
      .batch bundle transport (action.executeBatch bundle transport)

def deliverAll (action : Action) : Transport → List Call → List Delivery
  | _, [] => []
  | transport, call :: rest =>
      let delivery := action.deliver transport call
      delivery :: action.deliverAll delivery.transportAfter rest

/-- What holds of one call with every transport holds along a sequence. -/
theorem deliverAll_forall₂ {action : Action} {property : Call → Delivery → Prop}
    (each : ∀ transport call, property call (action.deliver transport call))
    (transport : Transport) (calls : List Call) :
    List.Forall₂ property calls (action.deliverAll transport calls) := by
  induction calls generalizing transport with
  | nil => exact .nil
  | cons call rest induction => exact .cons (each transport call) (induction _)

/-- What a function of the destination does with an input. -/
def functionRun {α β : Type} (action : Action) (function : Function α β)
    (input : Input α) (transport : Transport) : Ran (Except ActionError β) :=
  (function input).run (action.client input)
    { transport, transaction := input.context.transaction }

theorem functionRun_isOfFunction {α β : Type} (action : Action)
    (function : Function α β) (input : Input α) (transport : Transport) :
    ∀ event, event ∈ (action.functionRun function input transport).events →
      event.isOfFunction = true :=
  action.run_isOfFunction input (function input) _

/-- Where there is a schema, it finds nothing in the payload. -/
def Validates (action : Action) (payload : Json) : Prop :=
  ∀ schema, action.schema = some schema → schema.violations payload = []

theorem violations_eq_nil_iff (action : Action) (payload : Json) :
    action.violations payload = [] ↔ action.Validates payload := by
  cases known : action.schema with
  | none => simp [violations, Validates, known]
  | some schema => simp [violations, Validates, known]

section Single

variable {action : Action} {bundle : Bundle Json}

theorem execute_unsupported (missing : action.definition.perform = none)
    (transport : Transport) :
    action.execute bundle transport =
      stop bundle.context transport (.error (.notImplemented .singleEvents)) [] := by
  simp [execute, missing]

theorem execute_unmapped {perform : Function Json PerformOutput}
    {error : ActionError}
    (supported : action.definition.perform = some perform)
    (fault : action.mapper.transform bundle.mapping bundle.data = .error error)
    (transport : Transport) :
    action.execute bundle transport =
      stop bundle.context transport (.error error) [.mapped] := by
  simp [execute, supported, fault]

theorem execute_rejected {perform : Function Json PerformOutput}
    {mapped : Json} {first : Violation} {others : List Violation}
    (supported : action.definition.perform = some perform)
    (resolved : action.mapper.transform bundle.mapping bundle.data = .ok mapped)
    (found : action.violations (action.clean true mapped) = first :: others)
    (transport : Transport) :
    action.execute bundle transport =
      stop bundle.context transport (.error (.validation first others))
        (.mapped ::
          discarded bundle.context.stats action.schemaKey (first :: others)) := by
  simp [execute, supported, resolved, found]

theorem execute_delivered {perform : Function Json PerformOutput}
    {mapped : Json}
    (supported : action.definition.perform = some perform)
    (resolved : action.mapper.transform bundle.mapping bundle.data = .ok mapped)
    (valid : action.Validates (action.clean true mapped))
    (transport : Transport) :
    action.execute bundle transport =
      ((action.functionRun perform
          (bundle.toInput bundle.data (action.clean true mapped)) transport).map
        fun result => result.map fun output =>
          action.records output.normalize).after
            [.mapped, .invoked .perform (action.clean true mapped)] := by
  have empty := (action.violations_eq_nil_iff _).mpr valid
  simp only [execute, supported, resolved, empty]
  rfl

end Single

section Batch

variable {action : Action} {bundle : Bundle (List Json)}

/-- The mapped events of a list that are left after cleaning and validating. -/
def kept (action : Action) (mapped : List Json) : List Json :=
  (mapped.map (action.clean false)).filter fun payload =>
    (action.violations payload).isEmpty

theorem kept_validates {mapped : List Json} {payload : Json}
    (member : payload ∈ action.kept mapped) : action.Validates payload := by
  have empty := (List.mem_filter.mp member).2
  exact (action.violations_eq_nil_iff payload).mp (List.isEmpty_iff.mp empty)

theorem length_kept_le (mapped : List Json) :
    (action.kept mapped).length ≤ mapped.length := by
  have bound := List.length_filter_le
    (fun payload => (action.violations payload).isEmpty)
    (mapped.map (action.clean false))
  simpa [kept] using bound

theorem measurements_discarded (stats : Option StatsContext) (key : String)
    (first : Violation) (others : List Violation) :
    measurements (discarded stats key (first :: others)) =
      discardMetrics stats key 1 := by
  cases stats <;> rfl

theorem discarded_quiet (stats : Option StatsContext) (key : String)
    (violations : List Violation) : Quiet (discarded stats key violations) := by
  intro event member
  obtain ⟨metric, _, equality⟩ := List.mem_map.mp member
  rw [← equality]
  rfl

/-- The loop over a list keeps what has no violation, and counts the rest. -/
theorem keepValid_eq {schema : CompiledSchema}
    (known : action.schema = some schema) (stats : Option StatsContext)
    (mapped : List Json) :
    (keepValid schema stats action.schemaKey mapped).1 = action.kept mapped ∧
      Quiet (keepValid schema stats action.schemaKey mapped).2 ∧
      measurements (keepValid schema stats action.schemaKey mapped).2 =
        discardMetrics stats action.schemaKey
          (mapped.length - (action.kept mapped).length) := by
  induction mapped with
  | nil => cases stats <;> simp [keepValid, kept, Quiet, discardMetrics]
  | cons head tail induction =>
      obtain ⟨keptTail, quietTail, countedTail⟩ := induction
      have bound := action.length_kept_le tail
      have cleaned : action.clean false head =
          removeEmptyValues head (some schema.source) false := by
        simp [clean, known]
      have found : action.violations (action.clean false head) =
          schema.violations (removeEmptyValues head (some schema.source) false) := by
        simp [violations, known, cleaned]
      cases violationsHead : schema.violations
          (removeEmptyValues head (some schema.source) false) with
      | nil =>
          have keptCons : action.kept (head :: tail) =
              action.clean false head :: action.kept tail := by
            simp [kept, found, violationsHead]
          refine ⟨?_, ?_, ?_⟩
          · simp [keepValid, violationsHead, keptTail, keptCons, cleaned]
          · simpa [keepValid, violationsHead, discarded, discards] using quietTail
          · simpa [keepValid, violationsHead, discarded, discards, keptCons]
              using countedTail
      | cons first others =>
          have keptCons : action.kept (head :: tail) = action.kept tail := by
            simp [kept, found, violationsHead]
          have oneMore : (head :: tail).length - (action.kept tail).length =
              1 + (tail.length - (action.kept tail).length) := by
            simp only [List.length_cons]
            omega
          refine ⟨?_, ?_, ?_⟩
          · simp [keepValid, violationsHead, keptTail, keptCons]
          · simp only [keepValid, violationsHead]
            exact quiet_append (discarded_quiet _ _ _) quietTail
          · rw [keptCons, oneMore, discardMetrics_add]
            simp [keepValid, violationsHead, measurements_discarded, countedTail]

/-- What becomes of mapped events, with a schema and without one. -/
theorem survivors_eq (action : Action) (stats : Option StatsContext)
    (mapped : List Json) :
    (action.survivors stats mapped).1 = action.kept mapped ∧
      Quiet (action.survivors stats mapped).2 ∧
      measurements (action.survivors stats mapped).2 =
        discardMetrics stats action.schemaKey
          (mapped.length - (action.kept mapped).length) := by
  cases known : action.schema with
  | some schema =>
      simpa [survivors, known] using keepValid_eq known stats mapped
  | none =>
      have uncleaned : action.clean false = id := by
        funext payload
        simp [clean, removeEmptyValues, known]
      have same : action.kept mapped = mapped := by
        simp [kept, violations, uncleaned, known]
      refine ⟨?_, ?_, ?_⟩
      · simp [survivors, known, same]
      · simp [survivors, known, Quiet]
      · cases stats <;> simp [survivors, known, same, discardMetrics]

/-- Mapping leaves nothing in the trace but the consultations of the mapper. -/
theorem mapAll_events (mapper : Mapper) (mapping : Json) (data : List Json) :
    Quiet (mapAll mapper mapping data).2 ∧
      measurements (mapAll mapper mapping data).2 = [] := by
  have inTurn : Quiet (mapInTurn mapper mapping data).2 ∧
      measurements (mapInTurn mapper mapping data).2 = [] := by
    induction data with
    | nil => simp [mapInTurn, Quiet]
    | cons event rest induction =>
        cases outcome : mapper.transform mapping event with
        | error error =>
            simp [mapInTurn, outcome, Quiet, Event.isInternal, measurements]
        | ok mapped =>
            obtain ⟨quiet, unmeasured⟩ := induction
            refine ⟨?_, ?_⟩
            · simp only [mapInTurn, outcome]
              exact quiet_mapped quiet
            · simpa [mapInTurn, outcome, measurements] using unmeasured
  cases own : mapper.transformList with
  | none => simpa [mapAll, own] using inTurn
  | some transformList =>
      simp [mapAll, own, Quiet, Event.isInternal, measurements]

theorem executeBatch_unsupported (missing : action.definition.performBatch = none)
    (transport : Transport) :
    action.executeBatch bundle transport =
      stop bundle.context transport (.error (.notImplemented .batches)) [] := by
  simp [executeBatch, missing]

theorem executeBatch_unmapped {perform : Function (List Json) PerformOutput}
    {error : ActionError}
    (supported : action.definition.performBatch = some perform)
    (fault : (mapAll action.mapper bundle.mapping bundle.data).1 = .error error)
    (transport : Transport) :
    action.executeBatch bundle transport =
      stop bundle.context transport (.error error)
        (mapAll action.mapper bundle.mapping bundle.data).2 := by
  cases outcome : mapAll action.mapper bundle.mapping bundle.data with
  | mk result events =>
      simp only [outcome] at fault
      simp [executeBatch, supported, outcome, fault]

theorem executeBatch_skipped {perform : Function (List Json) PerformOutput}
    {mapped : List Json}
    (supported : action.definition.performBatch = some perform)
    (resolved : (mapAll action.mapper bundle.mapping bundle.data).1 = .ok mapped)
    (nothing : action.kept mapped = []) (transport : Transport) :
    action.executeBatch bundle transport =
      stop bundle.context transport (.ok ())
        ((mapAll action.mapper bundle.mapping bundle.data).2 ++
          (action.survivors bundle.context.stats mapped).2) := by
  have left := (action.survivors_eq bundle.context.stats mapped).1
  cases outcome : mapAll action.mapper bundle.mapping bundle.data with
  | mk result events =>
      cases remaining : action.survivors bundle.context.stats mapped with
      | mk payloads counted =>
          simp only [outcome] at resolved
          simp only [remaining, nothing] at left
          simp [executeBatch, supported, outcome, resolved, remaining, left]

theorem executeBatch_delivered {perform : Function (List Json) PerformOutput}
    {mapped : List Json}
    (supported : action.definition.performBatch = some perform)
    (resolved : (mapAll action.mapper bundle.mapping bundle.data).1 = .ok mapped)
    (something : action.kept mapped ≠ []) (transport : Transport) :
    action.executeBatch bundle transport =
      ((action.functionRun perform
          (bundle.toInput (.arr bundle.data) (action.kept mapped)) transport).map
        fun result => result.map fun _ => ()).after
          (((mapAll action.mapper bundle.mapping bundle.data).2 ++
            (action.survivors bundle.context.stats mapped).2) ++
              [.invoked .performBatch (.arr (action.kept mapped))]) := by
  have left := (action.survivors_eq bundle.context.stats mapped).1
  cases outcome : mapAll action.mapper bundle.mapping bundle.data with
  | mk result events =>
      cases remaining : action.survivors bundle.context.stats mapped with
      | mk payloads counted =>
          simp only [outcome] at resolved
          simp only [remaining] at left
          subst left
          simp only [executeBatch, supported, outcome, resolved, remaining]
          simp [call, functionRun, Ran.after, Ran.map]

end Batch

section DynamicField

variable {action : Action} {name : String} {input : Input Json}

theorem executeDynamicField_unknown
    (missing : Assoc.get? name action.definition.dynamicFields = none)
    (transport : Transport) :
    action.executeDynamicField name input transport =
      stop input.context transport (.ok (.unknownField name)) [] := by
  simp [executeDynamicField, missing]

theorem executeDynamicField_known {lookup : Function Json DynamicFieldResponse}
    (known : Assoc.get? name action.definition.dynamicFields = some lookup)
    (transport : Transport) :
    action.executeDynamicField name input transport =
      (action.functionRun lookup input transport).after
        [.invoked (.dynamicField name) input.payload] := by
  simp only [executeDynamicField, known]
  rfl

end DynamicField

section Hook

variable {action : Action} {type : HookType} {input : Input Json}

/-- Where there is a schema for a hook, it finds nothing in what the user entered. -/
def HookValidates (action : Action) (type : HookType) (input : Input Json) : Prop :=
  ∀ schema, action.hookSchema type = some schema →
    schema.violations (input.hookInputs.getD (.obj [])) = []

theorem executeHook_unsupported (missing : action.definition.hooks = none)
    (transport : Transport) :
    action.executeHook type input transport =
      stop input.context transport (.error (.notImplemented .hooks)) [] := by
  simp [executeHook, missing]

theorem executeHook_undefined {hooks : HookType → Option HookDefinition}
    (supported : action.definition.hooks = some hooks) (missing : hooks type = none)
    (transport : Transport) :
    action.executeHook type input transport =
      stop input.context transport (.error (.notImplemented (.hook type))) [] := by
  simp [executeHook, supported, missing]

theorem executeHook_rejected {hooks : HookType → Option HookDefinition}
    {hook : HookDefinition} {schema : CompiledSchema} {first : Violation}
    {others : List Violation} (supported : action.definition.hooks = some hooks)
    (defined : hooks type = some hook) (known : action.hookSchema type = some schema)
    (found : schema.violations (input.hookInputs.getD (.obj [])) = first :: others)
    (transport : Transport) :
    action.executeHook type input transport =
      stop input.context transport (.error (.validation first others))
        (discarded input.context.stats (action.hookSchemaKey type)
          (first :: others)) := by
  simp [executeHook, supported, defined, known, found]

theorem executeHook_delivered {hooks : HookType → Option HookDefinition}
    {hook : HookDefinition} (supported : action.definition.hooks = some hooks)
    (defined : hooks type = some hook) (valid : action.HookValidates type input)
    (transport : Transport) :
    action.executeHook type input transport =
      (action.functionRun hook.perform input transport).after
        [.invoked (.hook type) input.payload] := by
  cases known : action.hookSchema type with
  | none =>
      simp only [executeHook, supported, defined, known]
      rfl
  | some schema =>
      have empty := valid schema known
      simp only [executeHook, supported, defined, known, empty]
      rfl

end Hook

end Action

end EventDelivery
