import EventDelivery.Proofs.DeliveryGate
import EventDelivery.Proofs.RequestAnswers
import Mathlib.Data.List.Induction

/-!
# Accounts of responses

Whatever an action is asked to do, the responses that its function receives are
published, counted and raised, each once and in order, and nothing else is.  A
subscriber finds the last of them when it comes late.
-/

namespace EventDelivery

/-- A channel that broadcasts responses, as a subscriber meets it that has not read
yet: up to a number of responses wait for it, then the oldest is lost for each one
more. -/
structure BroadcastChannel (capacity : Nat) where
  State : Type
  subscribed : State
  send : State → Response → State
  /-- What the subscriber finds when it reads. -/
  drain : State → Received
  drain_subscribed : drain subscribed = ⟨0, []⟩
  drain_send_of_room : ∀ state response, (drain state).responses.length < capacity →
    drain (send state response) =
      ⟨(drain state).lost, (drain state).responses ++ [response]⟩
  drain_send_of_full : ∀ state response, capacity ≤ (drain state).responses.length →
    drain (send state response) =
      ⟨(drain state).lost + 1, (drain state).responses.tail ++ [response]⟩

/-- The channel that holds what waits for its subscriber. -/
def BroadcastChannel.queue (capacity : Nat) : BroadcastChannel capacity where
  State := Received
  subscribed := ⟨0, []⟩
  send received response :=
    if received.responses.length < capacity then
      ⟨received.lost, received.responses ++ [response]⟩
    else ⟨received.lost + 1, received.responses.tail ++ [response]⟩
  drain received := received
  drain_subscribed := rfl
  drain_send_of_room := by
    intro received response room
    simp [room]
  drain_send_of_full := by
    intro received response full
    simp [Nat.not_lt.mpr full]

namespace Received

private theorem length_of (published : List Response) :
    (Received.of published).responses.length = min published.length channelCapacity := by
  simp only [Received.of, List.length_drop]
  omega

private theorem of_append_of_room {published : List Response} (response : Response)
    (room : published.length < channelCapacity) :
    Received.of (published ++ [response]) =
      ⟨(Received.of published).lost, (Received.of published).responses ++ [response]⟩ := by
  have none : published.length - channelCapacity = 0 := by omega
  have still : published.length + 1 - channelCapacity = 0 := by omega
  simp [Received.of, none, still]

theorem of_append_of_full {published : List Response} (response : Response)
    (full : channelCapacity ≤ published.length) :
    Received.of (published ++ [response]) =
      ⟨(Received.of published).lost + 1,
        (Received.of published).responses.tail ++ [response]⟩ := by
  have more : published.length + 1 - channelCapacity =
      published.length - channelCapacity + 1 := by omega
  have within : published.length - channelCapacity + 1 ≤ published.length := by
    have positive : 0 < channelCapacity := by decide
    omega
  simp [Received.of, more, List.drop_append_of_le_length within]

end Received

theorem BroadcastChannel.drain_sent (channel : BroadcastChannel channelCapacity)
    (published : List Response) :
    channel.drain (published.foldl channel.send channel.subscribed) =
      Received.of published := by
  -- from the end, where the channel is when it is sent the next response
  induction published using List.reverseRecOn with
  | nil => exact channel.drain_subscribed
  | append_singleton earlier response induction =>
      have waiting := Received.length_of earlier
      rw [← induction] at waiting
      rw [List.foldl_append, List.foldl_cons, List.foldl_nil]
      by_cases room : earlier.length < channelCapacity
      · rw [channel.drain_send_of_room _ _ (by omega), induction,
          Received.of_append_of_room response room]
      · rw [channel.drain_send_of_full _ _ (by omega), induction,
          Received.of_append_of_full response (by omega)]

/-- What an action can be asked to do. -/
inductive Operation where
  | execute (bundle : Bundle Json)
  | executeBatch (bundle : Bundle (List Json))
  | dynamicField (name : String) (input : Input Json)
  | hook (type : HookType) (input : Input Json)

namespace Operation

def settings : Operation → Json
  | .execute bundle => bundle.settings
  | .executeBatch bundle => bundle.settings
  | .dynamicField _ input => input.settings
  | .hook _ input => input.settings

def context : Operation → CallContext
  | .execute bundle => bundle.context
  | .executeBatch bundle => bundle.context
  | .dynamicField _ input => input.context
  | .hook _ input => input.context

def world (operation : Operation) (transport : Transport) : World :=
  { transport, transaction := operation.context.transaction }

end Operation

namespace Action

variable {action : Action}

/-- Does what the action is asked to do; the result is left out. -/
def operate (action : Action) (transport : Transport) : Operation → Ran Unit
  | .execute bundle => (action.execute bundle transport).map fun _ => ()
  | .executeBatch bundle => (action.executeBatch bundle transport).map fun _ => ()
  | .dynamicField name input =>
      (action.executeDynamicField name input transport).map fun _ => ()
  | .hook type input => (action.executeHook type input transport).map fun _ => ()

/-- The options of all requests of an operation: what the extension makes of the
settings, the audience settings and the authorization. -/
def defaults (action : Action) (operation : Operation) : RequestOptions :=
  match action.extension with
  | none => {}
  | some extend =>
      extend ⟨operation.settings, operation.context.audienceSettings,
        operation.context.auth⟩

/-- The function of the destination that an operation runs, and its input. -/
inductive Engages (action : Action) :
    Operation → (α β : Type) → Function α β → Input α → Prop where
  | perform {bundle : Bundle Json} {perform : Function Json PerformOutput}
      {payload : Json} :
      action.definition.perform = some perform → action.Admits bundle payload →
      Engages action (.execute bundle) Json PerformOutput perform
        (bundle.toInput bundle.data payload)
  | performBatch {bundle : Bundle (List Json)}
      {perform : Function (List Json) PerformOutput} {mapped : List Json} :
      action.definition.performBatch = some perform →
      (mapAll action.mapper bundle.mapping bundle.data).1 = .ok mapped →
      action.kept mapped ≠ [] →
      Engages action (.executeBatch bundle) (List Json) PerformOutput perform
        (bundle.toInput (.arr bundle.data) (action.kept mapped))
  | dynamicField {name : String} {input : Input Json}
      {lookup : Function Json DynamicFieldResponse} :
      Assoc.get? name action.definition.dynamicFields = some lookup →
      Engages action (.dynamicField name input) Json DynamicFieldResponse lookup input
  | hook {type : HookType} {input : Input Json}
      {hooks : HookType → Option HookDefinition} {hook : HookDefinition} :
      action.definition.hooks = some hooks → hooks type = some hook →
      action.HookValidates type input →
      Engages action (.hook type input) Json HookResult hook.perform input

theorem accounted_of_executor {defaults : RequestOptions} {stats : Option StatsContext}
    {transport : Transport} {events : List Event} (own : OfExecutor events) :
    Accounted defaults stats transport [] events transport := by
  apply Accounted.nil
  · apply List.filterMap_eq_nil_iff.mpr
    intro event member
    have byExecutor := own event member
    cases event <;> simp_all [Event.isOfFunction]
  · apply List.filter_eq_nil_iff.mpr
    intro metric member
    obtain ⟨event, held, found⟩ := List.mem_filterMap.mp member
    have byExecutor := own event held
    cases event with
    | measured other =>
        cases found
        have discard : metric.isDiscard = true := by
          simpa [Event.isOfFunction] using byExecutor
        cases metric with
        | count name amount tags =>
            have known : name = "schema_validation.discard" := by
              simpa [Metric.isDiscard] using discard
            simp [Metric.isRequestCount, known]
        | sample name value tags => simp [Metric.isRequestCount]
    | _ => cases found

theorem survivors_ofExecutor (action : Action) (context : Option StatsContext)
    (mapping : Json) (data mapped : List Json) :
    OfExecutor
      ((mapAll action.mapper mapping data).2 ++ (action.survivors context mapped).2) := by
  apply (action.quiet_survivors context action.mapper mapping data mapped).ofExecutor
  intro metric member
  have consulted := (mapAll_events action.mapper mapping data).2
  have counted := (action.survivors_eq context mapped).2.2
  rw [measurements_append, consulted, counted] at member
  exact isDiscard_of_mem_discardMetrics member

theorem discarded_ofExecutor (context : Option StatsContext) (key : String)
    (first : Violation) (others : List Violation) :
    OfExecutor (discarded context key (first :: others)) := by
  apply (discarded_quiet context key (first :: others)).ofExecutor
  intro metric member
  rw [measurements_discarded] at member
  exact isDiscard_of_mem_discardMetrics member

/-- An operation that runs a function does nothing but what the executor does by itself
before it. -/
theorem Engages.operate_eq {operation : Operation} {α β : Type} {function : Function α β}
    {input : Input α} (engaged : action.Engages operation α β function input)
    (transport : Transport) :
    let inner := action.functionRun function input transport
    ∃ before, OfExecutor before ∧
      (action.operate transport operation).events = before ++ inner.events ∧
      (action.operate transport operation).world = inner.world := by
  cases engaged with
  | perform supported admitted =>
      rw [operate, admitted.execute_eq supported transport]
      exact ⟨_, by simp [OfExecutor, Event.isOfFunction], rfl, rfl⟩
  | performBatch supported resolved something =>
      rw [operate, executeBatch_delivered supported resolved something]
      refine ⟨_, ?_, rfl, rfl⟩
      exact (survivors_ofExecutor action _ _ _ _).append
        (by simp [OfExecutor, Event.isOfFunction])
  | dynamicField known =>
      rw [operate, executeDynamicField_known known]
      exact ⟨_, by simp [OfExecutor, Event.isOfFunction], rfl, rfl⟩
  | hook supported defined valid =>
      rw [operate, executeHook_delivered supported defined valid]
      exact ⟨_, by simp [OfExecutor, Event.isOfFunction], rfl, rfl⟩

/-- The client of a function has the options of the operation and its metrics. -/
theorem Engages.client_eq {operation : Operation} {α β : Type} {function : Function α β}
    {input : Input α} (engaged : action.Engages operation α β function input) :
    (action.client input).defaults = action.defaults operation ∧
      (action.client input).stats = operation.context.stats ∧
      input.context.transaction = operation.context.transaction := by
  cases engaged <;>
    · refine ⟨?_, rfl, rfl⟩
      unfold client defaults
      cases action.extension <;> rfl

/-- An operation that runs no function leaves the transport as it was, and nothing that
the executor does not leave by itself. -/
theorem operate_of_not_engages {operation : Operation}
    (idle : ∀ α β (function : Function α β) input,
      ¬ action.Engages operation α β function input)
    (transport : Transport) :
    OfExecutor (action.operate transport operation).events ∧
      (action.operate transport operation).world.transport = transport := by
  cases operation with
  | execute bundle =>
      rcases action.admits_or_refuses bundle with ⟨payload, admitted⟩ | ⟨_, _, refusal⟩
      · obtain ⟨perform, supported⟩ := Option.isSome_iff_exists.mp admitted.supported
        exact absurd (.perform supported admitted) (idle _ _ _ _)
      · obtain ⟨events, ending, quiet, counted⟩ := refusal.execute_eq transport
        rw [operate, ending]
        refine ⟨quiet.ofExecutor ?_, rfl⟩
        intro metric member
        rw [counted] at member
        exact isDiscard_of_mem_discardMetrics member
  | executeBatch bundle =>
      rcases action.refusesBatch_or_resolves bundle with
        ⟨error, refusal⟩ | ⟨perform, mapped, supported, resolved⟩
      · obtain ⟨events, ending, quiet, unmeasured⟩ := refusal.executeBatch_eq transport
        rw [operate, ending]
        exact ⟨quiet.ofExecutor (by simp [unmeasured]), rfl⟩
      · by_cases nothing : action.kept mapped = []
        · rw [operate, executeBatch_skipped supported resolved nothing]
          exact ⟨survivors_ofExecutor action _ _ _ _, rfl⟩
        · exact absurd (.performBatch supported resolved nothing) (idle _ _ _ _)
  | dynamicField name input =>
      cases known : Assoc.get? name action.definition.dynamicFields with
      | none =>
          rw [operate, executeDynamicField_unknown known]
          exact ⟨by simp [OfExecutor, stop, Ran.map], rfl⟩
      | some lookup => exact absurd (.dynamicField known) (idle _ _ _ _)
  | hook type input =>
      cases supported : action.definition.hooks with
      | none =>
          rw [operate, executeHook_unsupported supported]
          exact ⟨by simp [OfExecutor, stop, Ran.map], rfl⟩
      | some hooks =>
          cases defined : hooks type with
          | none =>
              rw [operate, executeHook_undefined supported defined]
              exact ⟨by simp [OfExecutor, stop, Ran.map], rfl⟩
          | some hook =>
              by_cases valid : action.HookValidates type input
              · exact absurd (.hook supported defined valid) (idle _ _ _ _)
              · simp only [HookValidates, not_forall] at valid
                obtain ⟨schema, known, found⟩ := valid
                obtain ⟨first, others, found⟩ := List.exists_cons_of_ne_nil found
                rw [operate, executeHook_rejected supported defined known found]
                exact ⟨discarded_ofExecutor _ _ _ _, rfl⟩

/-- Whatever an action is asked to do, the accounts of the requests of its function are
settled, and without a function nothing is published or counted.  Who has subscribed
and reads after that finds the last 64 responses, or all of them. -/
theorem responses_accounted (action : Action) (operation : Operation)
    (transport : Transport) :
    let ran := action.operate transport operation
    (∀ α β (function : Function α β) (input : Input α),
      action.Engages operation α β function input →
        Accounted (action.defaults operation) operation.context.stats transport
          ((function input).attempts (action.client input) (operation.world transport))
          ran.events ran.world.transport) ∧
    ((∀ α β (function : Function α β) (input : Input α),
        ¬ action.Engages operation α β function input) →
      Accounted (action.defaults operation) operation.context.stats transport []
        ran.events ran.world.transport) ∧
    ∀ (channel : BroadcastChannel 64) (earlier : List Response),
      let responses := earlier ++ publishedResponses ran.events
      let received := channel.drain (responses.foldl channel.send channel.subscribed)
      received.responses <:+ responses ∧
        received.responses.length = min responses.length 64 := by
  intro ran
  refine ⟨?_, ?_, ?_⟩
  · intro α β function input engaged
    obtain ⟨defaults, stats, transaction⟩ := engaged.client_eq
    obtain ⟨before, own, events, world⟩ := engaged.operate_eq transport
    have publishing : (action.client input).hooks = [Hook.publish] := rfl
    have inner := Program.run_accounted publishing (function input)
      (operation.world transport)
    rw [defaults, stats] at inner
    have found : action.functionRun function input transport =
        (function input).run (action.client input) (operation.world transport) := by
      simp only [functionRun, transaction, Operation.world]
    rw [show ran.events = before ++ _ from events, show ran.world = _ from world, found]
    exact (accounted_of_executor own).append inner
  · intro idle
    obtain ⟨own, unchanged⟩ := operate_of_not_engages idle transport
    rw [show ran.world.transport = transport from unchanged]
    exact accounted_of_executor own
  · intro channel earlier responses received
    have found : received = Received.of responses := channel.drain_sent responses
    rw [found]
    exact ⟨List.drop_suffix _ _, Received.length_of responses⟩

/-- Asks for three things whatever comes back; the second is at no URL. -/
def askThrice : Function Json PerformOutput := fun _ => do
  let _ ← Program.get "http://[::1]/contacts"
  let _ ← Program.get "contacts"
  let _ ← Program.get "http://[::1]/lists"
  pure (.ok (.data .null))

/-- An action that shows its partner the text of the settings. -/
def askingAction : Action where
  destination := "contacts"
  definition := { title := "Ask", perform := some askThrice }
  schema := none
  hookSchema := fun _ => none
  extension := some fun input =>
    RequestOptions.setHeader "x-api-key" (input.settings.text?.getD "") {}
  mapper := Mapper.directives

def askingCall : Operation :=
  .execute { data := .null, settings := .str "secret", mapping := .obj [],
             context := { stats := some ⟨["env:test"]⟩ } }

/-- A contact is made, and the lists cannot be had. -/
def contactMade : Transport :=
  .scripted [some ⟨201, [], []⟩, some ⟨500, [], []⟩]

theorem asking_accounted :
    (∃ input, askingAction.Engages askingCall Json PerformOutput askThrice input) ∧
      let ran := askingAction.operate contactMade askingCall
      let published := publishedResponses ran.events
      published.map Response.status = [201, 500] ∧
        published.map (fun response => response.request.map RequestRecord.url) =
          [some "http://[::1]/contacts", some "http://[::1]/lists"] ∧
        requestCounts ran.events =
          [.count "http_request" 1 ["env:test", "status:201"],
            .count "http_request" 1 ["env:test", "status:500"]] ∧
        ((BroadcastChannel.queue 64).drain
          (published.foldl (BroadcastChannel.queue 64).send
            (BroadcastChannel.queue 64).subscribed)).responses.length = 2 := by
  have engaged : askingAction.Engages askingCall Json PerformOutput askThrice _ :=
    .perform rfl ⟨rfl, ⟨.obj [], rfl, rfl⟩, by rintro schema ⟨⟩⟩
  obtain ⟨settled, _, late⟩ := responses_accounted askingAction askingCall contactMade
  have accounts := settled _ _ _ _ engaged
  have received := (late (BroadcastChannel.queue 64) []).2
  refine ⟨⟨_, engaged⟩, ?_, ?_, ?_, ?_⟩
  · rw [accounts.published]
    decide
  · rw [accounts.published]
    decide
  · rw [accounts.counted]
    decide
  · rw [List.nil_append] at received
    rw [received, accounts.published]
    decide

end Action

end EventDelivery
