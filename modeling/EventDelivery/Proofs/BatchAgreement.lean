import EventDelivery.Proofs.DeliveryGate

/-!
# Lists agree with single events

An action with fields hands a list of events over as it would hand over the
events one by one: the same payloads in the same order, in one piece.
-/

namespace EventDelivery

/-- The mapper resolves a list to what it resolves the events to, in order.
Only a mapper with a way of its own for lists could do otherwise. -/
def Mapper.KeepsOrder (mapper : Mapper) : Prop :=
  ∀ transformList, mapper.transformList = some transformList →
    ∀ mapping data mapped,
      List.Forall₂ (fun event result => mapper.transform mapping event = .ok result)
        data mapped →
      transformList mapping data = .ok mapped

/-- The payloads that `perform` was called with, in order. -/
def performed (events : List Event) : List Json :=
  (invocations events).filterMap fun invocation =>
    if invocation.1 = .perform then some invocation.2 else none

/-- The events of a list as calls of their own. -/
def Bundle.singles (bundle : Bundle (List Json)) : List Call :=
  bundle.data.map fun event =>
    .single {
      data := event
      settings := bundle.settings
      mapping := bundle.mapping
      context := bundle.context }

namespace ActionBuilder

/-- An action that was built is made of its builder and the compiled schemas. -/
theorem eq_of_build {builder : ActionBuilder} {action : Action}
    (built : builder.build = .ok action) :
    ∃ schema hookSchema, builder.compilePayload = .ok schema ∧
      action =
        { destination := builder.destination, definition := builder.definition, schema,
          hookSchema, extension := builder.extension, mapper := builder.mapper } := by
  unfold build at built
  cases payload : builder.compilePayload with
  | error error => simp [payload, bind, Except.bind] at built
  | ok schema =>
      cases hook : builder.compileHook .onMappingSave with
      | error error => simp [payload, hook, bind, Except.bind] at built
      | ok hookSchema =>
          simp only [payload, hook, bind, Except.bind, pure, Except.pure,
            Except.ok.injEq] at built
          exact ⟨schema, _, rfl, built.symm⟩

/-- An action that was built has the definition and the mapper of its builder,
and a schema if it has fields. -/
theorem build_parts {builder : ActionBuilder} {action : Action}
    (built : builder.build = .ok action) :
    action.definition = builder.definition ∧ action.mapper = builder.mapper ∧
      (builder.definition.fields ≠ [] → action.schema.isSome = true) := by
  obtain ⟨schema, _, payload, rfl⟩ := eq_of_build built
  refine ⟨rfl, rfl, ?_⟩
  intro declared
  have filled : builder.definition.fields.isEmpty = false := by
    simpa using declared
  cases compiled : builder.compile builder.definition.fields with
  | error error =>
      simp [compilePayload, filled, compiled, Except.map] at payload
  | ok result =>
      simp only [compilePayload, filled, compiled, Except.map,
        Bool.false_eq_true, if_false, Except.ok.injEq] at payload
      simp [← payload]

end ActionBuilder

namespace Action

theorem mapAll_ok {mapper : Mapper} (inOrder : mapper.KeepsOrder)
    {mapping : Json} {data mapped : List Json}
    (resolved : List.Forall₂
      (fun event result => mapper.transform mapping event = .ok result)
      data mapped) :
    (mapAll mapper mapping data).1 = .ok mapped := by
  have inTurn : (mapInTurn mapper mapping data).1 = .ok mapped := by
    induction resolved with
    | nil => rfl
    | cons head _ induction =>
        simp [mapInTurn, head, induction, Except.map]
  cases own : mapper.transformList with
  | none => simpa [mapAll, own] using inTurn
  | some transformList =>
      simpa [mapAll, own] using
        inOrder transformList own mapping data mapped resolved

theorem exists_forall₂_of_resolves {mapper : Mapper} {mapping : Json}
    {data : List Json}
    (resolves : ∀ event, event ∈ data →
      ∃ mapped, mapper.transform mapping event = .ok mapped) :
    ∃ mapped, List.Forall₂
      (fun event result => mapper.transform mapping event = .ok result)
      data mapped := by
  induction data with
  | nil => exact ⟨[], .nil⟩
  | cons event rest induction =>
      obtain ⟨head, headResolved⟩ := resolves event List.mem_cons_self
      obtain ⟨tail, tailResolved⟩ := induction
        (fun other member => resolves other (List.mem_cons_of_mem event member))
      exact ⟨head :: tail, .cons headResolved tailResolved⟩

private theorem clean_fromRoot {action : Action} (declared : action.schema.isSome = true)
    (mapped : Json) : action.clean true mapped = action.clean false mapped := by
  obtain ⟨schema, known⟩ := Option.isSome_iff_exists.mp declared
  simp [clean, removeEmptyValues, known]

theorem performed_execute {action : Action} (bundle : Bundle Json) {mapped : Json}
    (supported : action.definition.perform.isSome = true)
    (resolved : action.mapper.transform bundle.mapping bundle.data = .ok mapped)
    (transport : Transport) :
    performed (action.execute bundle transport).events =
      [action.clean true mapped].filter fun payload =>
        (action.violations payload).isEmpty := by
  have gate := action.execute_gated bundle transport
  obtain ⟨perform, present⟩ := Option.isSome_iff_exists.mp supported
  by_cases valid : action.violations (action.clean true mapped) = []
  · have admitted : action.Admits bundle (action.clean true mapped) :=
      ⟨supported, ⟨mapped, resolved, rfl⟩,
        (action.violations_eq_nil_iff _).mp valid⟩
    have invoked := (gate.performs perform _ present admitted).1
    simp [performed, invoked, valid]
  · have unadmitted : ¬ ∃ payload, action.Admits bundle payload := by
      rintro ⟨payload, _, ⟨other, otherResolved, cleaned⟩, otherValid⟩
      have same : mapped = other :=
        Except.ok.inj (resolved.symm.trans otherResolved)
      subst same
      subst cleaned
      exact valid ((action.violations_eq_nil_iff _).mpr otherValid)
    have uninvoked := gate.withholds unadmitted
    simp [performed, uninvoked, valid]

theorem performed_singles {action : Action}
    (declared : action.schema.isSome = true)
    (supported : action.definition.perform.isSome = true)
    {settings mapping : Json} {context : CallContext} {data mapped : List Json}
    (resolved : List.Forall₂
      (fun event result => action.mapper.transform mapping event = .ok result)
      data mapped) (transport : Transport) :
    (action.deliverAll transport
        (Bundle.singles ⟨data, settings, mapping, context⟩)).flatMap
      (fun delivery => performed delivery.events) = action.kept mapped := by
  induction resolved generalizing transport with
  | nil => rfl
  | @cons event result data mapped head _ induction =>
      let bundle : Bundle Json := ⟨event, settings, mapping, context⟩
      have here := performed_execute bundle supported head transport
      have later := induction (action.execute bundle transport).world.transport
      rw [clean_fromRoot declared] at here
      have split : action.kept (result :: mapped) =
          ([action.clean false result].filter fun payload =>
            (action.violations payload).isEmpty) ++ action.kept mapped := by
        simp [kept, ← List.filter_append]
      rw [split, ← here, ← later]
      rfl

/-- Where every event of a list resolves, `performBatch` is called with what
`perform` is called with one by one, once and only if that is anything.  The
rest is counted, and the raw data are the whole list. -/
theorem executeBatch_agrees_with_singles {builder : ActionBuilder} {action : Action}
    {performBatch : Function (List Json) PerformOutput}
    (built : builder.build = .ok action)
    (declared : action.definition.fields ≠ [])
    (supportsSingles : action.definition.perform.isSome = true)
    (supportsBatches : action.definition.performBatch = some performBatch)
    (inOrder : action.mapper.KeepsOrder)
    (bundle : Bundle (List Json))
    (resolves : ∀ event, event ∈ bundle.data →
      ∃ mapped, action.mapper.transform bundle.mapping event = .ok mapped)
    (transport singlesTransport : Transport) :
    let payloads := (action.deliverAll singlesTransport bundle.singles).flatMap
      fun delivery => performed delivery.events
    let ran := action.executeBatch bundle transport
    (payloads = [] → ran.result = .ok () ∧ invocations ran.events = []) ∧
      (payloads ≠ [] →
        let input := bundle.toInput (.arr bundle.data) payloads
        let inner := action.functionRun performBatch input transport
        input.payload = payloads ∧ input.rawData = some (.arr bundle.data) ∧
          invocations ran.events = [(.performBatch, .arr payloads)] ∧
          ran.result = inner.result.map (fun _ => ()) ∧
          ∃ before, Quiet before ∧ ran.events =
            before ++ .invoked .performBatch (.arr payloads) :: inner.events) ∧
      payloads.length ≤ bundle.data.length ∧
      discardsIn ran.events = discardMetrics bundle.context.stats
        action.schemaKey (bundle.data.length - payloads.length) := by
  intro payloads ran
  obtain ⟨sameDefinition, _, compiled⟩ := ActionBuilder.build_parts built
  have hasSchema := compiled (sameDefinition ▸ declared)
  obtain ⟨mapped, each⟩ := exists_forall₂_of_resolves resolves
  have resolved := mapAll_ok inOrder each
  have same : payloads = action.kept mapped :=
    performed_singles hasSchema supportsSingles each singlesTransport
  have lengths : bundle.data.length = mapped.length := each.length_eq
  have gate := action.executeBatch_gated bundle transport
  have complete : action.Resolves bundle performBatch mapped := ⟨supportsBatches, resolved⟩
  obtain ⟨counted, skipped⟩ := gate.counts performBatch mapped complete
  refine ⟨?_, ?_, ?_, ?_⟩
  · intro empty
    obtain ⟨success, quiet, _⟩ := skipped (same ▸ empty)
    exact ⟨success, quiet.invocations_eq_nil⟩
  · intro filled input inner
    have performed := gate.performs performBatch mapped complete (same ▸ filled)
    rw [← same] at performed
    obtain ⟨_, invoked, traced, ended, _⟩ := performed
    exact ⟨rfl, rfl, invoked, ended, traced⟩
  · rw [same, lengths]
    exact length_kept_le mapped
  · rw [same, lengths]
    exact counted

/-- An action over addresses that gives its payloads back. -/
def echoBuilder : ActionBuilder where
  destination := "webhook"
  definition := {
    title := "Send"
    fields := [("email", (Field.new "E-mail" .string).require)]
    perform := some fun input => .done (.ok (.data input.payload))
    performBatch := some fun input => .done (.ok (.data (.arr input.payload))) }

def echoAction : Action :=
  match echoBuilder.build with
  | .ok action => action
  | .error _ => ⟨"", { title := "" }, none, fun _ => none, none, .directives⟩

/-- Two addresses with an empty one between them. -/
def echoBundle : Bundle (List Json) where
  data := [.obj [("email", .str "ada@example.org")], .obj [("email", .str "")],
    .obj [("email", .str "alan@example.org")]]
  mapping := .obj [("email", .obj [("@path", .str "$.email")])]
  context := { stats := some ⟨["env:test"]⟩ }

theorem echoAction_built : echoBuilder.build = .ok echoAction := by
  have succeeds : echoBuilder.build.toOption.isSome = true := by decide +kernel
  unfold echoAction
  cases outcome : echoBuilder.build with
  | error error => simp [outcome, Except.toOption] at succeeds
  | ok action => rfl

private theorem performed_echoBundle :
    (echoAction.deliverAll .offline echoBundle.singles).flatMap
        (fun delivery => performed delivery.events) =
      [.obj [("email", .str "ada@example.org")],
        .obj [("email", .str "alan@example.org")]] := by
  decide +kernel

theorem executeBatch_agrees_on_three_events :
    echoBuilder.build = .ok echoAction ∧ echoAction.mapper.KeepsOrder ∧
      let ran := echoAction.executeBatch echoBundle .offline
      invocations ran.events =
          [(.performBatch, .arr [.obj [("email", .str "ada@example.org")],
            .obj [("email", .str "alan@example.org")]])] ∧
        discardsIn ran.events =
          discardMetrics (some ⟨["env:test"]⟩) echoAction.schemaKey 1 := by
  obtain ⟨sameDefinition, sameMapper, _⟩ :=
    ActionBuilder.build_parts echoAction_built
  have inOrder : echoAction.mapper.KeepsOrder := by
    rw [sameMapper]
    intro transformList own
    simp [echoBuilder, Mapper.directives] at own
  have resolves : ∀ event, event ∈ echoBundle.data →
      ∃ mapped, echoAction.mapper.transform echoBundle.mapping event = .ok mapped := by
    rw [sameMapper]
    have each : ∀ event, event ∈ echoBundle.data →
        (echoBuilder.mapper.transform echoBundle.mapping event).toOption.isSome =
          true := by
      decide +kernel
    intro event member
    have here := each event member
    cases outcome : echoBuilder.mapper.transform echoBundle.mapping event with
    | error error => simp [outcome, Except.toOption] at here
    | ok mapped => exact ⟨mapped, rfl⟩
  have supported : echoAction.definition.performBatch =
      some fun input => .done (.ok (.data (.arr input.payload))) := by
    simp [sameDefinition, echoBuilder]
  have agreement := executeBatch_agrees_with_singles echoAction_built
    (by simp [sameDefinition, echoBuilder]) (by simp [sameDefinition, echoBuilder])
    supported inOrder echoBundle resolves .offline .offline
  rw [performed_echoBundle] at agreement
  obtain ⟨_, delivered, _, counted⟩ := agreement
  exact ⟨echoAction_built, inOrder, (delivered (by simp)).2.2.1, counted⟩

end Action

end EventDelivery
