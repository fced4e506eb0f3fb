import EventDelivery.Proofs.Execution

/-!
# The gate before delivery

A function of the destination sees a payload only after the event was mapped,
the payload cleaned and, where there is a schema, found without a violation.
What the executor refuses on its own leaves no trace but the metrics of
discarded payloads.
-/

namespace EventDelivery

namespace Action

/-- The payload that `perform` is to be given for one event. -/
structure Admits (action : Action) (bundle : Bundle Json)
    (payload : Json) : Prop where
  supported : action.definition.perform.isSome = true
  cleaned : ∃ mapped,
    action.mapper.transform bundle.mapping bundle.data = .ok mapped ∧
      payload =
        removeEmptyValues mapped (action.schema.map CompiledSchema.source) true
  valid : action.Validates payload

/-- The errors that the executor raises itself for one event, each with the
number of payloads that it rejects. -/
inductive Refuses (action : Action) (bundle : Bundle Json) :
    ActionError → Nat → Prop where
  | unsupported :
      action.definition.perform = none →
      Refuses action bundle (.notImplemented .singleEvents) 0
  | unmapped {error : ActionError} :
      action.definition.perform.isSome = true →
      action.mapper.transform bundle.mapping bundle.data = .error error →
      Refuses action bundle error 0
  | rejected {mapped : Json} {schema : CompiledSchema} {first : Violation}
      {others : List Violation} :
      action.definition.perform.isSome = true →
      action.mapper.transform bundle.mapping bundle.data = .ok mapped →
      action.schema = some schema →
      schema.violations (removeEmptyValues mapped (some schema.source) true) =
        first :: others →
      Refuses action bundle (.validation first others) 1

/-- The errors that the executor raises itself for a list of events.  A
payload with violations is none of them. -/
inductive RefusesBatch (action : Action) (bundle : Bundle (List Json)) :
    ActionError → Prop where
  | unsupported :
      action.definition.performBatch = none →
      RefusesBatch action bundle (.notImplemented .batches)
  | unmapped {error : ActionError} :
      action.definition.performBatch.isSome = true →
      (mapAll action.mapper bundle.mapping bundle.data).1 = .error error →
      RefusesBatch action bundle error

/-- There is a function for lists, and it is to be given what is left of the mapped events. -/
structure Resolves (action : Action) (bundle : Bundle (List Json))
    (perform : Function (List Json) PerformOutput) (mapped : List Json) : Prop where
  supported : action.definition.performBatch = some perform
  resolved : (mapAll action.mapper bundle.mapping bundle.data).1 = .ok mapped

/-- What is promised of a call with one event. -/
structure SingleGate (action : Action) (bundle : Bundle Json)
    (transport : Transport)
    (ran : Ran (Except ActionError (List ExecutionRecord))) : Prop where
  /-- Either a payload is admitted or the executor raises an error, -/
  decides : (∃ payload, action.Admits bundle payload) ∨
    ∃ error rejected, action.Refuses bundle error rejected
  /-- but not both. -/
  apart : ∀ error rejected, action.Refuses bundle error rejected →
    ¬ ∃ payload, action.Admits bundle payload
  /-- An admitted payload is handed to `perform`, once and as it is, and the call ends as
  `perform` does. -/
  performs : ∀ perform payload, action.definition.perform = some perform →
    action.Admits bundle payload →
      let inner := action.functionRun perform
        (bundle.toInput bundle.data payload) transport
      invocations ran.events = [(.perform, payload)] ∧
        ran.events = .mapped :: .invoked .perform payload :: inner.events ∧
        ran.result = (inner.result.map fun output => action.records output.normalize) ∧
        ran.world = inner.world
  /-- Without an admitted payload no function is called. -/
  withholds : (¬ ∃ payload, action.Admits bundle payload) →
    invocations ran.events = []
  /-- An error of the executor leaves the metrics of what was rejected. -/
  refuses : ∀ error rejected, action.Refuses bundle error rejected →
    ran.result = .error error ∧ Quiet ran.events ∧
      measurements ran.events =
        discardMetrics bundle.context.stats action.schemaKey rejected ∧
      ran.world.transport = transport
  /-- A success lists the steps, the last one with what `perform` gave. -/
  records : ∀ steps, ran.result = .ok steps →
    ∃ perform payload output, action.definition.perform = some perform ∧
      action.Admits bundle payload ∧
      (action.functionRun perform (bundle.toInput bundle.data payload)
        transport).result = .ok output ∧
      steps = [⟨none, "Mappings resolved"⟩] ++
        (if action.schema.isSome then [⟨none, "Payload validated"⟩] else []) ++
        [⟨some output.normalize, "Action Executed"⟩]
  /-- An error is one of the executor or the one that `perform` gave. -/
  fails : ∀ error, ran.result = .error error →
    (∃ rejected, action.Refuses bundle error rejected) ∨
      ∃ perform payload, action.definition.perform = some perform ∧
        action.Admits bundle payload ∧
        (action.functionRun perform (bundle.toInput bundle.data payload)
          transport).result = .error error

/-- What is promised of a call with a list of events. -/
structure BatchGate (action : Action) (bundle : Bundle (List Json))
    (transport : Transport) (ran : Ran (Except ActionError Unit)) : Prop where
  /-- Either the executor raises an error or the events are mapped for `performBatch`, -/
  decides : (∃ error, action.RefusesBatch bundle error) ∨
    ∃ perform mapped, action.Resolves bundle perform mapped
  /-- but not both. -/
  apart : ∀ error, action.RefusesBatch bundle error →
    ¬ ∃ perform mapped, action.Resolves bundle perform mapped
  /-- What is left of the events is handed to `performBatch`, once and in one piece, and the
  call ends as `performBatch` does. -/
  performs : ∀ perform mapped, action.Resolves bundle perform mapped →
    action.kept mapped ≠ [] →
      let payloads := action.kept mapped
      let inner := action.functionRun perform
        (bundle.toInput (.arr bundle.data) payloads) transport
      (∀ payload, payload ∈ payloads → action.Validates payload) ∧
        invocations ran.events = [(.performBatch, .arr payloads)] ∧
        (∃ before, Quiet before ∧ ran.events =
          before ++ .invoked .performBatch (.arr payloads) :: inner.events) ∧
        ran.result = (inner.result.map fun _ => ()) ∧
        ran.world = inner.world
  /-- Otherwise no function is called. -/
  withholds : (∀ perform mapped, action.Resolves bundle perform mapped →
    action.kept mapped = []) → invocations ran.events = []
  /-- An error of the executor leaves nothing but consultations. -/
  refuses : ∀ error, action.RefusesBatch bundle error →
    ran.result = .error error ∧ Quiet ran.events ∧
      measurements ran.events = [] ∧ ran.world.transport = transport
  /-- Every rejected payload is counted once; when all of them are rejected nothing else
  happens. -/
  counts : ∀ perform mapped, action.Resolves bundle perform mapped →
    discardsIn ran.events =
        discardMetrics bundle.context.stats action.schemaKey
          (mapped.length - (action.kept mapped).length) ∧
      (action.kept mapped = [] →
        ran.result = .ok () ∧ Quiet ran.events ∧ ran.world.transport = transport)
  /-- An error is one of the executor or the one that `performBatch` gave. -/
  fails : ∀ error, ran.result = .error error →
    action.RefusesBatch bundle error ∨
      ∃ perform mapped, action.Resolves bundle perform mapped ∧
        action.kept mapped ≠ [] ∧
        (action.functionRun perform (bundle.toInput (.arr bundle.data) (action.kept mapped))
          transport).result = .error error

/-- What is promised of every call. -/
def Gated (action : Action) : Delivery → Prop
  | .single bundle transport ran => action.SingleGate bundle transport ran
  | .batch bundle transport ran => action.BatchGate bundle transport ran

theorem error_of_map {α β : Type} {f : α → β} {result : Except ActionError α}
    {error : ActionError} (failed : result.map f = .error error) :
    result = .error error := by
  cases result with
  | error other => exact congrArg Except.error (Except.error.inj failed)
  | ok value => cases failed

section Single

variable {action : Action} {bundle : Bundle Json}

theorem Refuses.not_admits {error : ActionError} {rejected : Nat}
    (refusal : action.Refuses bundle error rejected) :
    ¬ ∃ payload, action.Admits bundle payload := by
  rintro ⟨payload, supported, ⟨mapped, resolved, cleaned⟩, valid⟩
  cases refusal with
  | unsupported missing => simp [missing] at supported
  | unmapped _ fault => simp [fault] at resolved
  | rejected _ otherResolved known found =>
      have same : _ = mapped := Except.ok.inj (otherResolved.symm.trans resolved)
      have empty := valid _ known
      rw [cleaned, known, ← same] at empty
      simp [found] at empty

/-- The gate is total: it admits a payload or refuses with an error. -/
theorem admits_or_refuses (action : Action) (bundle : Bundle Json) :
    (∃ payload, action.Admits bundle payload) ∨
      ∃ error rejected, action.Refuses bundle error rejected := by
  cases supported : action.definition.perform with
  | none => exact .inr ⟨_, _, .unsupported supported⟩
  | some perform =>
      have present : action.definition.perform.isSome = true := by
        simp [supported]
      cases resolved : action.mapper.transform bundle.mapping bundle.data with
      | error error => exact .inr ⟨_, _, .unmapped present resolved⟩
      | ok mapped =>
          cases found : action.violations (action.clean true mapped) with
          | nil =>
              have valid := (action.violations_eq_nil_iff _).mp found
              exact .inl ⟨_, present, ⟨mapped, resolved, rfl⟩, valid⟩
          | cons first others =>
              cases known : action.schema with
              | none => simp [violations, known] at found
              | some schema =>
                  simp only [violations, clean, known, Option.map_some] at found
                  exact .inr ⟨_, _, .rejected present resolved known found⟩

/-- A refused event ends the call with nothing but the metrics of what was
rejected. -/
theorem Refuses.execute_eq {error : ActionError} {rejected : Nat}
    (refusal : action.Refuses bundle error rejected) (transport : Transport) :
    ∃ events, action.execute bundle transport =
        stop bundle.context transport (.error error) events ∧
      Quiet events ∧
      measurements events =
        discardMetrics bundle.context.stats action.schemaKey rejected := by
  cases refusal with
  | unsupported missing =>
      refine ⟨[], execute_unsupported missing transport, ?_, ?_⟩
      · simp [Quiet]
      · cases bundle.context.stats <;> rfl
  | unmapped supported fault =>
      obtain ⟨perform, supported⟩ := Option.isSome_iff_exists.mp supported
      refine ⟨[.mapped], execute_unmapped supported fault transport, ?_, ?_⟩
      · simp [Quiet, Event.isInternal]
      · cases bundle.context.stats <;> rfl
  | @rejected mapped schema first others supported resolved known found =>
      obtain ⟨perform, supported⟩ := Option.isSome_iff_exists.mp supported
      have offences : action.violations (action.clean true mapped) =
          first :: others := by
        simpa [violations, clean, known] using found
      refine ⟨_, execute_rejected supported resolved offences transport, ?_, ?_⟩
      · exact quiet_mapped (discarded_quiet _ _ _)
      · exact measurements_discarded _ _ _ _

/-- An admitted payload is what the function is run with. -/
theorem Admits.execute_eq {perform : Function Json PerformOutput} {payload : Json}
    (supported : action.definition.perform = some perform)
    (admitted : action.Admits bundle payload) (transport : Transport) :
    action.execute bundle transport =
      ((action.functionRun perform (bundle.toInput bundle.data payload)
          transport).map fun result => result.map fun output =>
            action.records output.normalize).after
              [.mapped, .invoked .perform payload] := by
  obtain ⟨mapped, resolved, cleaned⟩ := admitted.cleaned
  subst cleaned
  exact execute_delivered supported resolved admitted.valid transport

theorem execute_gated (action : Action) (bundle : Bundle Json)
    (transport : Transport) :
    action.SingleGate bundle transport (action.execute bundle transport) where
  decides := action.admits_or_refuses bundle
  apart := fun _ _ refusal => refusal.not_admits
  performs := by
    intro perform payload supported admitted inner
    rw [admitted.execute_eq supported transport]
    have silent := invocations_eq_nil_of_isOfFunction
      (action.functionRun_isOfFunction perform
        (bundle.toInput bundle.data payload) transport)
    refine ⟨?_, rfl, rfl, rfl⟩
    simp [Ran.after, Ran.map, silent]
  withholds := by
    intro unadmitted
    rcases action.admits_or_refuses bundle with admitted | ⟨error, rejected, refusal⟩
    · exact absurd admitted unadmitted
    · obtain ⟨events, ending, quiet, _⟩ := refusal.execute_eq transport
      rw [ending]
      exact quiet.invocations_eq_nil
  refuses := by
    intro error rejected refusal
    obtain ⟨events, ending, quiet, counted⟩ := refusal.execute_eq transport
    rw [ending]
    exact ⟨rfl, quiet, counted, rfl⟩
  records := by
    intro steps success
    rcases action.admits_or_refuses bundle with ⟨payload, admitted⟩ | ⟨_, _, refusal⟩
    · obtain ⟨perform, supported⟩ :=
        Option.isSome_iff_exists.mp admitted.supported
      rw [admitted.execute_eq supported transport] at success
      cases outcome : (action.functionRun perform
          (bundle.toInput bundle.data payload) transport).result with
      | error error => simp [Ran.after, Ran.map, outcome, Except.map] at success
      | ok output =>
          refine ⟨perform, payload, output, supported, admitted, outcome, ?_⟩
          simp only [Ran.after, Ran.map, outcome, Except.map,
            Except.ok.injEq] at success
          exact success.symm
    · obtain ⟨events, ending, _, _⟩ := refusal.execute_eq transport
      rw [ending] at success
      simp [stop] at success
  fails := by
    intro error failure
    rcases action.admits_or_refuses bundle with
      ⟨payload, admitted⟩ | ⟨raised, rejected, refusal⟩
    · obtain ⟨perform, supported⟩ :=
        Option.isSome_iff_exists.mp admitted.supported
      rw [admitted.execute_eq supported transport] at failure
      exact .inr ⟨perform, payload, supported, admitted, error_of_map failure⟩
    · obtain ⟨events, ending, _, _⟩ := refusal.execute_eq transport
      rw [ending] at failure
      cases failure
      exact .inl ⟨rejected, refusal⟩

end Single

section Batch

variable {action : Action} {bundle : Bundle (List Json)}

/-- A refused list ends the call with nothing but consultations. -/
theorem RefusesBatch.executeBatch_eq {error : ActionError}
    (refusal : action.RefusesBatch bundle error) (transport : Transport) :
    ∃ events, action.executeBatch bundle transport =
        stop bundle.context transport (.error error) events ∧
      Quiet events ∧ measurements events = [] := by
  cases refusal with
  | unsupported missing =>
      exact ⟨[], executeBatch_unsupported missing transport, by simp [Quiet], rfl⟩
  | unmapped supported fault =>
      obtain ⟨perform, supported⟩ := Option.isSome_iff_exists.mp supported
      exact ⟨_, executeBatch_unmapped supported fault transport,
        mapAll_events _ _ _⟩

/-- A list is refused, or its events are mapped. -/
theorem refusesBatch_or_resolves (action : Action) (bundle : Bundle (List Json)) :
    (∃ error, action.RefusesBatch bundle error) ∨
      ∃ perform mapped, action.Resolves bundle perform mapped := by
  cases supported : action.definition.performBatch with
  | none => exact .inl ⟨_, .unsupported supported⟩
  | some perform =>
      cases resolved : (mapAll action.mapper bundle.mapping bundle.data).1 with
      | error error => exact .inl ⟨_, .unmapped (by simp [supported]) resolved⟩
      | ok mapped => exact .inr ⟨perform, mapped, supported, resolved⟩

theorem RefusesBatch.not_resolves {error : ActionError}
    (refusal : action.RefusesBatch bundle error) :
    ¬ ∃ perform mapped, action.Resolves bundle perform mapped := by
  rintro ⟨perform, mapped, supported, resolved⟩
  cases refusal with
  | unsupported missing => simp [missing] at supported
  | unmapped _ fault => simp [fault] at resolved

theorem discardsIn_survivors (action : Action) (stats : Option StatsContext)
    (mapper : Mapper) (mapping : Json) (data mapped : List Json) :
    discardsIn ((mapAll mapper mapping data).2 ++
        (action.survivors stats mapped).2) =
      discardMetrics stats action.schemaKey
        (mapped.length - (action.kept mapped).length) := by
  have consulted := (mapAll_events mapper mapping data).2
  have counted := (action.survivors_eq stats mapped).2.2
  simp only [discardsIn, measurements_append, consulted, counted,
    List.nil_append]
  exact List.filter_eq_self.mpr
    (fun metric member => isDiscard_of_mem_discardMetrics member)

theorem quiet_survivors (action : Action) (stats : Option StatsContext)
    (mapper : Mapper) (mapping : Json) (data mapped : List Json) :
    Quiet ((mapAll mapper mapping data).2 ++
      (action.survivors stats mapped).2) :=
  quiet_append (mapAll_events mapper mapping data).1
    (action.survivors_eq stats mapped).2.1

theorem executeBatch_gated (action : Action) (bundle : Bundle (List Json))
    (transport : Transport) :
    action.BatchGate bundle transport (action.executeBatch bundle transport) where
  decides := action.refusesBatch_or_resolves bundle
  apart := fun _ refusal => refusal.not_resolves
  performs := by
    intro perform mapped resolves something payloads inner
    have quiet := action.quiet_survivors bundle.context.stats action.mapper
      bundle.mapping bundle.data mapped
    have silent := invocations_eq_nil_of_isOfFunction
      (action.functionRun_isOfFunction perform
        (bundle.toInput (.arr bundle.data) payloads) transport)
    rw [executeBatch_delivered resolves.supported resolves.resolved something]
    refine ⟨fun payload member => kept_validates member, ?_, ⟨_, quiet, ?_⟩, rfl, rfl⟩
    · have before := quiet.invocations_eq_nil
      simp only [Ran.after, Ran.map, invocations_append, silent, payloads] at before ⊢
      simp [before]
    · simp [Ran.after, Ran.map, inner, payloads]
  withholds := by
    intro nothing
    rcases action.refusesBatch_or_resolves bundle with
      ⟨error, refusal⟩ | ⟨perform, mapped, resolves⟩
    · obtain ⟨events, ending, quiet, _⟩ := refusal.executeBatch_eq transport
      rw [ending]
      exact quiet.invocations_eq_nil
    · rw [executeBatch_skipped resolves.supported resolves.resolved
        (nothing perform mapped resolves)]
      exact (action.quiet_survivors bundle.context.stats action.mapper bundle.mapping
        bundle.data mapped).invocations_eq_nil
  refuses := by
    intro error refusal
    obtain ⟨events, ending, quiet, unmeasured⟩ := refusal.executeBatch_eq transport
    rw [ending]
    exact ⟨rfl, quiet, unmeasured, rfl⟩
  counts := by
    rintro perform mapped ⟨supported, resolved⟩
    have counted := action.discardsIn_survivors bundle.context.stats
      action.mapper bundle.mapping bundle.data mapped
    by_cases nothing : action.kept mapped = []
    · rw [executeBatch_skipped supported resolved nothing]
      exact ⟨counted, fun _ => ⟨rfl, quiet_survivors _ _ _ _ _ _, rfl⟩⟩
    · have silent := discardsIn_eq_nil_of_isOfFunction
        (action.functionRun_isOfFunction perform
          (bundle.toInput (.arr bundle.data) (action.kept mapped)) transport)
      rw [executeBatch_delivered supported resolved nothing]
      refine ⟨?_, fun empty => absurd empty nothing⟩
      simp only [Ran.after, Ran.map, List.append_assoc, discardsIn_append,
        silent] at counted ⊢
      simpa using counted
  fails := by
    intro error failure
    rcases action.refusesBatch_or_resolves bundle with
      ⟨raised, refusal⟩ | ⟨perform, mapped, resolves⟩
    · obtain ⟨events, ending, _, _⟩ := refusal.executeBatch_eq transport
      rw [ending] at failure
      cases failure
      exact .inl refusal
    · by_cases nothing : action.kept mapped = []
      · rw [executeBatch_skipped resolves.supported resolves.resolved nothing] at failure
        cases failure
      · rw [executeBatch_delivered resolves.supported resolves.resolved nothing] at failure
        exact .inr ⟨perform, mapped, resolves, nothing, error_of_map failure⟩

end Batch

theorem deliver_gated (action : Action) (transport : Transport) (call : Call) :
    action.Gated (action.deliver transport call) := by
  cases call with
  | single bundle => exact action.execute_gated bundle transport
  | batch bundle => exact action.executeBatch_gated bundle transport

/-- Along every sequence of calls, whatever the action and its functions are,
each call passes the gate. -/
theorem deliverAll_gated (action : Action) (transport : Transport)
    (calls : List Call) :
    List.Forall₂ (fun call delivery => delivery.call = call ∧ action.Gated delivery)
      calls (action.deliverAll transport calls) := by
  apply deliverAll_forall₂
  intro found call
  refine ⟨?_, action.deliver_gated found call⟩
  cases call <;> rfl

end Action

end EventDelivery
