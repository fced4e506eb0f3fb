import EventDelivery.Proofs.BatchAgreement
import EventDelivery.Proofs.ScalarReading

/-!
# The gate before hooks

A hook that is declared runs with what the user entered, as it was entered, unless the
schema of its own input fields finds a violation there.  That schema is made when the
action is built.  Later calls depend neither on the schema of payloads nor on the
compiler.
-/

namespace EventDelivery

namespace ActionBuilder

/-- The hook that is to run with an input.  A user who entered nothing has entered an
object without members. -/
structure AdmitsHook (builder : ActionBuilder) (type : HookType) (input : Input Json)
    (hook : HookDefinition) : Prop where
  declared : ∃ hooks, builder.definition.hooks = some hooks ∧ hooks type = some hook
  valid : hook.inputFields = none ∨
    ∃ fields schema, hook.inputFields = some fields ∧
      builder.compile fields = .ok schema ∧
      schema.violations (input.hookInputs.getD (.obj [])) = []

/-- The errors that the executor raises itself for a hook, each with the number of
inputs that it rejects. -/
inductive RefusesHook (builder : ActionBuilder) (type : HookType) (input : Input Json) :
    ActionError → Nat → Prop where
  | unsupported :
      builder.definition.hooks = none →
      RefusesHook builder type input (.notImplemented .hooks) 0
  | undeclared {hooks : HookType → Option HookDefinition} :
      builder.definition.hooks = some hooks → hooks type = none →
      RefusesHook builder type input (.notImplemented (.hook type)) 0
  | rejected {hooks : HookType → Option HookDefinition} {hook : HookDefinition}
      {fields : FieldMap} {schema : CompiledSchema} {first : Violation}
      {others : List Violation} :
      builder.definition.hooks = some hooks → hooks type = some hook →
      hook.inputFields = some fields → builder.compile fields = .ok schema →
      schema.violations (input.hookInputs.getD (.obj [])) = first :: others →
      RefusesHook builder type input (.validation first others) 1

/-- What is promised of a call of a hook. -/
structure HookGate (builder : ActionBuilder) (action : Action) (type : HookType)
    (input : Input Json) (transport : Transport)
    (ran : Ran (Except ActionError HookResult)) : Prop where
  /-- Either a hook is admitted or the executor raises an error. -/
  decides : (∃ hook, builder.AdmitsHook type input hook) ∨
    ∃ error rejected, builder.RefusesHook type input error rejected
  /-- One function is called if a hook is admitted, and else none. -/
  invokes : (∃ hook, builder.AdmitsHook type input hook) ↔
    invocations ran.events = [(.hook type, input.payload)]
  withholds : (¬ ∃ hook, builder.AdmitsHook type input hook) ↔
    invocations ran.events = []
  /-- The hook is given the input as it is, and the call ends as the hook does. -/
  hands : ∀ hook, builder.AdmitsHook type input hook →
    ran = (action.functionRun hook.perform input transport).after
      [.invoked (.hook type) input.payload]
  /-- An error of the executor leaves the metrics of what was rejected, and nothing
  else. -/
  refuses : ∀ error rejected, builder.RefusesHook type input error rejected →
    ran.result = .error error ∧ Quiet ran.events ∧
      ran.events = (discardMetrics input.context.stats
        (builder.destination ++ ":" ++ builder.definition.title ++ ":" ++ type.name)
        rejected).map .measured ∧
      ran.world = ⟨transport, input.context.transaction⟩

/-- Two builders say the same of a hook, whatever they say of anything else.  Their
compilers make the same schema of its input fields. -/
structure SharesHook (first second : ActionBuilder) (type : HookType) : Prop where
  destination : first.destination = second.destination
  title : first.definition.title = second.definition.title
  extension : first.extension = second.extension
  hook : first.definition.hooks.map (fun hooks => hooks type) =
    second.definition.hooks.map (fun hooks => hooks type)
  compiler : ∀ fields, first.hookFields? type = some fields →
    first.compiler fields = second.compiler fields

/-- The fields that the compiler is handed when an action is built, in order. -/
def compiledFields (builder : ActionBuilder) : List FieldMap :=
  (if builder.definition.fields.isEmpty then [] else [builder.definition.fields]) ++
    HookType.names.filterMap fun entry => builder.hookFields? entry.2

private theorem length_compiledFields (builder : ActionBuilder) :
    builder.compiledFields.length = builder.compilations := by
  unfold compiledFields compilations
  rw [List.length_append, List.length_filterMap_eq_countP, List.countP_eq_length_filter]
  split <;> rfl

private theorem mem_compiledFields_payload {builder : ActionBuilder}
    (declared : builder.definition.fields.isEmpty = false) :
    builder.definition.fields ∈ builder.compiledFields := by
  simp [compiledFields, declared]

theorem mem_compiledFields_hook {builder : ActionBuilder} {type : HookType}
    {fields : FieldMap} (asked : builder.hookFields? type = some fields) :
    fields ∈ builder.compiledFields := by
  apply List.mem_append_right
  apply List.mem_filterMap.mpr
  refine ⟨(type.name, type), ?_, asked⟩
  cases type
  exact List.mem_singleton.mpr rfl

private theorem hookFields?_eq_bind (builder : ActionBuilder) (type : HookType) :
    builder.hookFields? type =
      (builder.definition.hooks.map fun hooks => hooks type).bind fun hook? =>
        hook?.bind HookDefinition.inputFields := by
  unfold hookFields?
  cases builder.definition.hooks <;> rfl

section Compiling

variable {first second : ActionBuilder}

private theorem compile_congr {fields : FieldMap}
    (compiler : first.compiler fields = second.compiler fields) :
    first.compile fields = second.compile fields := by
  unfold compile
  rw [compiler]

theorem compilePayload_congr
    (same : first.definition.fields = second.definition.fields)
    (compiler : first.definition.fields.isEmpty = false →
      first.compiler first.definition.fields = second.compiler first.definition.fields) :
    first.compilePayload = second.compilePayload := by
  unfold compilePayload
  rw [← same]
  cases declared : first.definition.fields.isEmpty with
  | true => rw [if_pos rfl, if_pos rfl]
  | false => rw [compile_congr (compiler declared)]

theorem compileHook_congr {type : HookType}
    (same : first.hookFields? type = second.hookFields? type)
    (compiler : ∀ fields, first.hookFields? type = some fields →
      first.compiler fields = second.compiler fields) :
    first.compileHook type = second.compileHook type := by
  unfold compileHook
  rw [← same]
  cases asked : first.hookFields? type with
  | none => rfl
  | some fields =>
      dsimp only
      rw [compile_congr (compiler fields asked)]

end Compiling

/-- What a compiler makes of other fields has no part in the action that is built. -/
theorem build_eq_of_agree {builder : ActionBuilder} {compiler : SchemaCompiler}
    (agree : ∀ fields, fields ∈ builder.compiledFields →
      compiler fields = builder.compiler fields) :
    ({ builder with compiler } : ActionBuilder).build = builder.build := by
  let other : ActionBuilder := { builder with compiler }
  have sameFields : other.definition.fields = builder.definition.fields := rfl
  have sameHook : other.hookFields? .onMappingSave = builder.hookFields? .onMappingSave := rfl
  have payload : other.compilePayload = builder.compilePayload := by
    apply compilePayload_congr sameFields
    intro declared
    exact agree _ (mem_compiledFields_payload declared)
  have hook : other.compileHook .onMappingSave = builder.compileHook .onMappingSave := by
    apply compileHook_congr sameHook
    intro fields asked
    exact agree fields (mem_compiledFields_hook asked)
  change other.build = builder.build
  unfold build
  rw [payload, hook]

section Built

variable {builder : ActionBuilder} {action : Action}

theorem hookSchema_of_build (built : builder.build = .ok action) (type : HookType) :
    builder.compileHook type = .ok (action.hookSchema type) := by
  unfold build at built
  cases type
  cases payload : builder.compilePayload with
  | error error => simp [payload, bind, Except.bind] at built
  | ok schema =>
      cases hook : builder.compileHook .onMappingSave with
      | error error => simp [payload, hook, bind, Except.bind] at built
      | ok hookSchema =>
          simp only [payload, hook, bind, Except.bind, pure, Except.pure,
            Except.ok.injEq] at built
          rw [← built]

variable {type : HookType} {hooks : HookType → Option HookDefinition}
  {hook : HookDefinition}

private theorem hookFields?_eq (supported : builder.definition.hooks = some hooks)
    (declared : hooks type = some hook) :
    builder.hookFields? type = hook.inputFields := by
  rw [hookFields?_eq_bind, supported, Option.map_some, declared]
  rfl

private theorem hookSchema_eq_none (built : builder.build = .ok action)
    (supported : builder.definition.hooks = some hooks) (declared : hooks type = some hook)
    (unasked : hook.inputFields = none) : action.hookSchema type = none := by
  have compiled := hookSchema_of_build built type
  rw [compileHook, hookFields?_eq supported declared, unasked] at compiled
  exact (Except.ok.inj compiled).symm

theorem exists_hookSchema (built : builder.build = .ok action)
    (supported : builder.definition.hooks = some hooks) (declared : hooks type = some hook)
    {fields : FieldMap} (asked : hook.inputFields = some fields) :
    ∃ schema, builder.compile fields = .ok schema ∧
      action.hookSchema type = some schema := by
  have compiled := hookSchema_of_build built type
  rw [compileHook, hookFields?_eq supported declared, asked] at compiled
  cases outcome : builder.compile fields with
  | error error => simp [outcome, Except.map] at compiled
  | ok schema =>
      simp only [outcome, Except.map, Except.ok.injEq] at compiled
      exact ⟨schema, rfl, compiled.symm⟩

end Built

end ActionBuilder

namespace Action

private theorem discarded_eq (stats : Option StatsContext) (key : String) (first : Violation)
    (others : List Violation) :
    discarded stats key (first :: others) = (discardMetrics stats key 1).map .measured := by
  cases stats <;> rfl

section Sharing

variable {first second : Action} {type : HookType}

theorem functionRun_congr {α β : Type} (extension : first.extension = second.extension)
    (function : Function α β) (input : Input α) (transport : Transport) :
    first.functionRun function input transport =
      second.functionRun function input transport := by
  have client : first.client input = second.client input := by
    unfold Action.client
    rw [extension]
  rw [functionRun, functionRun, client]

theorem executeHook_congr
    (hook : first.definition.hooks.map (fun hooks => hooks type) =
      second.definition.hooks.map (fun hooks => hooks type))
    (schema : first.hookSchema type = second.hookSchema type)
    (key : first.hookSchemaKey type = second.hookSchemaKey type)
    (extension : first.extension = second.extension)
    (input : Input Json) (transport : Transport) :
    first.executeHook type input transport = second.executeHook type input transport := by
  cases supported : first.definition.hooks with
  | none =>
      have missing : second.definition.hooks = none := by
        simpa [supported] using hook.symm
      rw [executeHook_unsupported supported, executeHook_unsupported missing]
  | some hooks =>
      rw [supported, Option.map_some] at hook
      obtain ⟨others, otherSupported, same⟩ := Option.map_eq_some_iff.mp hook.symm
      cases declared : hooks type with
      | none =>
          rw [executeHook_undefined supported declared,
            executeHook_undefined otherSupported (same.trans declared)]
      | some definition =>
          have otherDeclared := same.trans declared
          by_cases valid : first.HookValidates type input
          · have otherValid : second.HookValidates type input := by
              rw [HookValidates, ← schema]
              exact valid
            rw [executeHook_delivered supported declared valid,
              executeHook_delivered otherSupported otherDeclared otherValid,
              functionRun_congr extension]
          · simp only [HookValidates, not_forall] at valid
            obtain ⟨compiled, known, found⟩ := valid
            obtain ⟨violation, rest, found⟩ := List.exists_cons_of_ne_nil found
            rw [executeHook_rejected supported declared known found,
              executeHook_rejected otherSupported otherDeclared (schema ▸ known) found, key]

end Sharing

end Action

namespace ActionBuilder

open EventDelivery.Action

variable {builder : ActionBuilder} {action : Action} {type : HookType} {input : Input Json}

theorem hookSchemaKey_of_build (built : builder.build = .ok action) (type : HookType) :
    action.hookSchemaKey type =
      builder.destination ++ ":" ++ builder.definition.title ++ ":" ++ type.name := by
  obtain ⟨_, _, _, rfl⟩ := eq_of_build built
  rfl

theorem admitsHook_or_refusesHook (built : builder.build = .ok action) (type : HookType)
    (input : Input Json) :
    (∃ hook, builder.AdmitsHook type input hook) ∨
      ∃ error rejected, builder.RefusesHook type input error rejected := by
  cases supported : builder.definition.hooks with
  | none => exact .inr ⟨_, _, .unsupported supported⟩
  | some hooks =>
      cases declared : hooks type with
      | none => exact .inr ⟨_, _, .undeclared supported declared⟩
      | some hook =>
          cases asked : hook.inputFields with
          | none => exact .inl ⟨hook, ⟨hooks, supported, declared⟩, .inl asked⟩
          | some fields =>
              obtain ⟨schema, compiled, _⟩ := exists_hookSchema built supported declared asked
              cases found : schema.violations (input.hookInputs.getD (.obj [])) with
              | nil =>
                  have admitted : builder.AdmitsHook type input hook :=
                    ⟨⟨hooks, supported, declared⟩,
                      .inr ⟨fields, schema, asked, compiled, found⟩⟩
                  exact .inl ⟨hook, admitted⟩
              | cons first others =>
                  exact .inr ⟨_, _, .rejected supported declared asked compiled found⟩

theorem AdmitsHook.hookValidates (built : builder.build = .ok action)
    {hook : HookDefinition} (admitted : builder.AdmitsHook type input hook) :
    action.HookValidates type input := by
  obtain ⟨hooks, supported, declared⟩ := admitted.declared
  intro schema known
  rcases admitted.valid with unasked | ⟨fields, compiled, asked, compiles, valid⟩
  · have missing := hookSchema_eq_none built supported declared unasked
    rw [missing] at known
    cases known
  · obtain ⟨same, again, holds⟩ := exists_hookSchema built supported declared asked
    rw [compiles, Except.ok.injEq] at again
    rw [holds, Option.some.injEq, ← again] at known
    rw [← known]
    exact valid

/-- An admitted hook is what the input is run with. -/
theorem AdmitsHook.executeHook_eq (built : builder.build = .ok action)
    {hook : HookDefinition} (admitted : builder.AdmitsHook type input hook)
    (transport : Transport) :
    action.executeHook type input transport =
      (action.functionRun hook.perform input transport).after
        [.invoked (.hook type) input.payload] := by
  obtain ⟨hooks, supported, declared⟩ := admitted.declared
  rw [← (build_parts built).1] at supported
  exact executeHook_delivered supported declared (admitted.hookValidates built) transport

/-- A refused input ends the call with nothing but the metrics of what was rejected. -/
theorem RefusesHook.executeHook_eq (built : builder.build = .ok action)
    {error : ActionError} {rejected : Nat}
    (refusal : builder.RefusesHook type input error rejected) (transport : Transport) :
    action.executeHook type input transport =
      stop input.context transport (.error error)
        ((discardMetrics input.context.stats (action.hookSchemaKey type) rejected).map
          .measured) := by
  have definition := (build_parts built).1
  have nothing : (discardMetrics input.context.stats (action.hookSchemaKey type) 0).map
      Event.measured = [] := by
    cases input.context.stats <;> rfl
  cases refusal with
  | unsupported missing =>
      rw [← definition] at missing
      rw [executeHook_unsupported missing, nothing]
  | undeclared supported missing =>
      rw [← definition] at supported
      rw [executeHook_undefined supported missing, nothing]
  | rejected supported declared asked compiles found =>
      obtain ⟨schema, again, known⟩ := exists_hookSchema built supported declared asked
      rw [compiles, Except.ok.injEq] at again
      rw [← definition] at supported
      rw [executeHook_rejected supported declared (again ▸ known) found, discarded_eq]

theorem executeHook_gated (built : builder.build = .ok action) (type : HookType)
    (input : Input Json) (transport : Transport) :
    builder.HookGate action type input transport
      (action.executeHook type input transport) := by
  have total := admitsHook_or_refusesHook built type input
  have called : ∀ hook, builder.AdmitsHook type input hook →
      invocations (action.executeHook type input transport).events =
        [(.hook type, input.payload)] := by
    intro hook admitted
    have silent := invocations_eq_nil_of_isOfFunction
      (action.functionRun_isOfFunction hook.perform input transport)
    rw [admitted.executeHook_eq built]
    simp [Ran.after, silent]
  have quiet : ∀ error rejected, builder.RefusesHook type input error rejected →
      Quiet (action.executeHook type input transport).events := by
    intro error rejected refusal event member
    rw [refusal.executeHook_eq built] at member
    obtain ⟨metric, _, rfl⟩ := List.mem_map.mp member
    rfl
  refine ⟨total, ⟨?_, ?_⟩, ⟨?_, ?_⟩, ?_, ?_⟩
  · rintro ⟨hook, admitted⟩
    exact called hook admitted
  · intro invoked
    rcases total with admitted | ⟨error, rejected, refusal⟩
    · exact admitted
    · have uncalled := (quiet error rejected refusal).invocations_eq_nil
      simp [uncalled] at invoked
  · intro unadmitted
    rcases total with admitted | ⟨error, rejected, refusal⟩
    · exact absurd admitted unadmitted
    · exact (quiet error rejected refusal).invocations_eq_nil
  · rintro uncalled ⟨hook, admitted⟩
    simp [called hook admitted] at uncalled
  · intro hook admitted
    exact admitted.executeHook_eq built transport
  · intro error rejected refusal
    have silent := quiet error rejected refusal
    rw [refusal.executeHook_eq built] at silent ⊢
    rw [hookSchemaKey_of_build built]
    exact ⟨rfl, hookSchemaKey_of_build built type ▸ silent, rfl, rfl⟩

/-- Builders that say the same of a hook build actions that run it alike. -/
theorem SharesHook.executeHook_eq {other : ActionBuilder} {otherAction : Action}
    (shared : builder.SharesHook other type) (built : builder.build = .ok action)
    (otherBuilt : other.build = .ok otherAction) (input : Input Json)
    (transport : Transport) :
    otherAction.executeHook type input transport =
      action.executeHook type input transport := by
  have fields : builder.hookFields? type = other.hookFields? type := by
    rw [hookFields?_eq_bind, hookFields?_eq_bind, shared.hook]
  have compiled : builder.compileHook type = other.compileHook type :=
    compileHook_congr fields shared.compiler
  rw [hookSchema_of_build built, hookSchema_of_build otherBuilt, Except.ok.injEq] at compiled
  have key : action.hookSchemaKey type = otherAction.hookSchemaKey type := by
    rw [hookSchemaKey_of_build built, hookSchemaKey_of_build otherBuilt, shared.destination,
      shared.title]
  have hook : action.definition.hooks.map (fun hooks => hooks type) =
      otherAction.definition.hooks.map (fun hooks => hooks type) := by
    rw [(build_parts built).1, (build_parts otherBuilt).1]
    exact shared.hook
  have extension : action.extension = otherAction.extension := by
    obtain ⟨_, _, _, rfl⟩ := eq_of_build built
    obtain ⟨_, _, _, rfl⟩ := eq_of_build otherBuilt
    exact shared.extension
  exact (executeHook_congr hook compiled key extension input transport).symm

/-- Whatever a builder says, hooks of the action that it builds pass the gate of their own
input fields.  Another builder that says the same of a hook builds an action that runs
it alike, whatever payloads are to look like.  The compiler is done once the action is
built: only what it made of the fields of payloads and hooks has a part in the action. -/
theorem hooks_gated (built : builder.build = .ok action) :
    (∀ type input transport, builder.HookGate action type input transport
      (action.executeHook type input transport)) ∧
    (∀ (other : ActionBuilder) (otherAction : Action) (type : HookType),
      other.build = .ok otherAction → builder.SharesHook other type →
        ∀ input transport, otherAction.executeHook type input transport =
          action.executeHook type input transport) ∧
    builder.compiledFields.length = builder.compilations ∧
    ∀ compiler : SchemaCompiler,
      (∀ fields, fields ∈ builder.compiledFields →
        compiler fields = builder.compiler fields) →
      ({ builder with compiler } : ActionBuilder).build = .ok action := by
  refine ⟨executeHook_gated built, ?_, builder.length_compiledFields, ?_⟩
  · intro other otherAction type otherBuilt shared input transport
    exact shared.executeHook_eq built otherBuilt input transport
  · intro compiler agree
    rw [build_eq_of_agree agree]
    exact built

/-- What the hook of an action over lists asks for. -/
def listFields : FieldMap :=
  [("list", (Field.new "List" .string).require)]

/-- An action over addresses, with a hook that saves what the user entered. -/
def listBuilder : ActionBuilder where
  destination := "contacts"
  definition := {
    title := "Subscribe"
    fields := [("email", (Field.new "E-mail" .string).require)]
    hooks := some fun _ => some {
      inputFields := some listFields
      perform := fun input =>
        .done (.ok (.success ⟨none, input.hookInputs.getD .null⟩)) } }

def listInput (entered : Option Json) : Input Json :=
  { settings := .null, payload := .null, hookInputs := entered
    context := { stats := some ⟨["env:test"]⟩ } }

/-- A list without a name is saved as it was entered, though it is no payload.  A user
who entered nothing is told so, and counted once. -/
theorem listBuilder_gated :
    ∃ action, listBuilder.build = .ok action ∧
      let entered := listInput (some (.obj [("list", .str "")]))
      let saved := action.executeHook .onMappingSave entered .offline
      let refused := action.executeHook .onMappingSave (listInput none) .offline
      invocations saved.events = [(.hook .onMappingSave, .null)] ∧
        saved.result = .ok (.success ⟨none, .obj [("list", .str "")]⟩) ∧
        (∃ first others, refused.result = .error (.validation first others)) ∧
        refused.events = [.measured (.count "schema_validation.discard" 1
          ["env:test", "schema_key:contacts:Subscribe:on-mapping-save"])] := by
  have builds : listBuilder.build.toOption.map (fun action => action.destination) =
      some "contacts" := by
    decide +kernel
  have judged : (listBuilder.compile listFields).toOption.map (fun schema =>
      ((schema.violations (.obj [("list", .str "")])).isEmpty,
        (schema.violations (.obj [])).isEmpty)) = some (true, false) := by
    decide +kernel
  obtain ⟨action, built, _⟩ := exists_ok_of_toOption builds
  obtain ⟨schema, compiles, found⟩ := exists_ok_of_toOption judged
  obtain ⟨valid, lacking⟩ := Prod.mk.inj found
  obtain ⟨first, others, found⟩ :=
    List.exists_cons_of_ne_nil (List.isEmpty_eq_false_iff.mp lacking)
  obtain ⟨gates, _⟩ := hooks_gated built
  have entered := gates .onMappingSave (listInput (some (.obj [("list", .str "")]))) .offline
  have nothing := gates .onMappingSave (listInput none) .offline
  have admitted : listBuilder.AdmitsHook .onMappingSave
      (listInput (some (.obj [("list", .str "")]))) _ :=
    ⟨⟨_, rfl, rfl⟩, .inr ⟨listFields, schema, rfl, compiles, List.isEmpty_iff.mp valid⟩⟩
  obtain ⟨failed, _, counted, _⟩ := nothing.refuses _ _ (.rejected rfl rfl rfl compiles found)
  refine ⟨action, built, entered.invokes.mp ⟨_, admitted⟩, ?_, ⟨first, others, failed⟩, counted⟩
  rw [entered.hands _ admitted]
  rfl

end ActionBuilder

end EventDelivery
