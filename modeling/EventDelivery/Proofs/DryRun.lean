import EventDelivery.Proofs.AssocLookup
import EventDelivery.Proofs.BatchAgreement
import EventDelivery.Proofs.RequestAnswers
import EventDelivery.Webhook

/-!
# Dry runs foretell live runs

A dry run of the webhook asks nobody.  Whatever the live run sends, the dry run
echoes, and where the dry run fails the live run fails alike without sending
anything.
-/

namespace EventDelivery

def messages (events : List Event) : List Message :=
  events.filterMap fun
    | .sent message => some message
    | _ => none

@[simp] theorem messages_nil : messages [] = [] := rfl

@[simp] theorem messages_append (earlier later : List Event) :
    messages (earlier ++ later) = messages earlier ++ messages later :=
  List.filterMap_append

@[simp] theorem messages_mapped (events : List Event) :
    messages (.mapped :: events) = messages events := rfl

@[simp] theorem messages_did (effect : Effect) (events : List Event) :
    messages (.did effect :: events) = messages events := rfl

@[simp] theorem messages_published (response : Response) (events : List Event) :
    messages (.published response :: events) = messages events := rfl

@[simp] theorem messages_invoked (slot : Slot) (payload : Json) (events : List Event) :
    messages (.invoked slot payload :: events) = messages events := rfl

@[simp] theorem messages_sent (message : Message) (events : List Event) :
    messages (.sent message :: events) = message :: messages events := rfl

theorem messages_eq_nil_iff {events : List Event} :
    messages events = [] ↔ ∀ message, .sent message ∉ events := by
  constructor
  · intro nothing message member
    have sent : message ∈ messages events := List.mem_filterMap.mpr ⟨_, member, rfl⟩
    simp [nothing] at sent
  · intro unsent
    apply List.filterMap_eq_nil_iff.mpr
    intro event member
    cases event with
    | sent message => exact absurd member (unsent message)
    | _ => rfl

theorem Quiet.messages_eq_nil {events : List Event} (quiet : Quiet events) :
    messages events = [] := by
  apply messages_eq_nil_iff.mpr
  intro message member
  cases quiet _ member

theorem OfExecutor.messages_eq_nil {events : List Event} (own : OfExecutor events) :
    messages events = [] := by
  apply messages_eq_nil_iff.mpr
  intro message member
  cases own _ member

/-- The call asks nobody: it ends alike whoever would answer, who is left as he
was found, and no message reaches the wire. -/
def Silent {α : Type} (context : CallContext) (call : Transport → Ran α) : Prop :=
  ∃ result events, messages events = [] ∧
    ∀ transport, call transport = Action.stop context transport result events

/-- What is promised of a dry run with one event, beside the live run. -/
structure Foretells (bundle : Bundle Json)
    (dry live : Transport → Ran (Except ActionError (List ExecutionRecord))) : Prop where
  silent : Silent bundle.context dry
  /-- The live run sends one message at most.  The dry run echoes the URL of the
  settings, the value whose compact text is sent, and the method in any case. -/
  sends : ∀ dryTransport transport message,
    message ∈ messages (live transport).events →
      messages (live transport).events = [message] ∧
        ∃ settings steps echoed body method,
          WebhookSettings.ofJson bundle.settings = .ok settings ∧
          (dry dryTransport).result = .ok steps ∧
          steps.getLast? = some (.actionExecuted echoed) ∧
          echoed.get? "url" = some (.str settings.url) ∧
          echoed.get? "body" = some body ∧ message.body = body.compact ∧
          echoed.get? "method" = some (.str method) ∧
          message.method = Text.upper method
  /-- Where the dry run fails, the live run fails alike and sends nothing. -/
  fails : ∀ dryTransport transport error, (dry dryTransport).result = .error error →
    (live transport).result = .error error ∧ messages (live transport).events = []

/-- What is promised of a dry run with a list of events, beside the live run. -/
structure ForetellsBatch (context : CallContext)
    (dry live : Transport → Ran (Except ActionError Unit)) : Prop where
  silent : Silent context dry
  /-- Where the live run reaches the wire, the dry run succeeds. -/
  sends : ∀ dryTransport transport, messages (live transport).events ≠ [] →
    (dry dryTransport).result = .ok ()
  /-- Where the dry run fails, the live run fails alike and sends nothing. -/
  fails : ∀ dryTransport transport error, (dry dryTransport).result = .error error →
    (live transport).result = .error error ∧ messages (live transport).events = []

namespace Client

variable {client : Client}

theorem messages_metrics (client : Client) (status : UInt16) :
    messages (client.metrics status) = [] := by
  unfold metrics
  cases client.stats <;> rfl

theorem messages_send (publishing : client.hooks = [Hook.publish]) (url : String)
    (options : RequestOptions) (transport : Transport) :
    messages (client.send url options transport).events = [] ∨
      ∃ prepared,
        PreparedRequest.prepare (client.defaults.merge options) url = .ok prepared ∧
        messages (client.send url options transport).events = [prepared.message] := by
  unfold send
  split
  · exact .inl rfl
  · rename_i prepared done
    split
    · exact .inl rfl
    · split
      · exact .inl rfl
      · exact .inr ⟨prepared, done, rfl⟩
      · refine .inr ⟨prepared, done, ?_⟩
        simp only [receive, publishing, Hook.pipeline, Hook.publish, List.append_nil,
          messages_sent, messages_append, messages_metrics, List.nil_append]
        rfl

end Client

namespace Action

variable {action : Action}

theorem Admits.execute_done {bundle : Bundle Json} {payload : Json}
    {answer : Input Json → Except ActionError PerformOutput}
    (admitted : action.Admits bundle payload)
    (supported : action.definition.perform = some fun input => .done (answer input))
    (transport : Transport) :
    action.execute bundle transport =
      stop bundle.context transport
        ((answer (bundle.toInput bundle.data payload)).map fun output =>
          action.records output.normalize)
        [.mapped, .invoked .perform payload] :=
  admitted.execute_eq supported transport

theorem executeBatch_done {bundle : Bundle (List Json)} {mapped : List Json}
    {answer : Input (List Json) → Except ActionError PerformOutput}
    (supported : action.definition.performBatch = some fun input => .done (answer input))
    (resolved : (mapAll action.mapper bundle.mapping bundle.data).1 = .ok mapped)
    (something : action.kept mapped ≠ []) (transport : Transport) :
    action.executeBatch bundle transport =
      stop bundle.context transport
        ((answer (bundle.toInput (.arr bundle.data) (action.kept mapped))).map fun _ => ())
        (((mapAll action.mapper bundle.mapping bundle.data).2 ++
          (action.survivors bundle.context.stats mapped).2) ++
            [.invoked .performBatch (.arr (action.kept mapped))]) := by
  rw [executeBatch_delivered supported resolved something]
  simp [functionRun, Program.run, Ran.map, Ran.after, stop, Bundle.toInput]

/-- With a function that ends at once, a call with one event asks nobody. -/
theorem execute_silent {answer : Input Json → Except ActionError PerformOutput}
    (supported : action.definition.perform = some fun input => .done (answer input))
    (bundle : Bundle Json) : Silent bundle.context (action.execute bundle) := by
  rcases action.admits_or_refuses bundle with ⟨payload, admitted⟩ | ⟨_, _, refusal⟩
  · exact ⟨_, _, rfl, admitted.execute_done supported⟩
  · cases refusal with
    | unsupported missing => simp [missing] at supported
    | unmapped _ fault => exact ⟨_, [.mapped], rfl, execute_unmapped supported fault⟩
    | @rejected mapped schema first others _ resolved known found =>
        have offences : action.violations (action.clean true mapped) =
            first :: others := by
          simpa [violations, clean, known] using found
        exact ⟨_, _, (quiet_mapped (discarded_quiet _ _ _)).messages_eq_nil,
          execute_rejected supported resolved offences⟩

/-- With a function that ends at once, a call with a list of events asks nobody. -/
theorem executeBatch_silent
    {answer : Input (List Json) → Except ActionError PerformOutput}
    (supported : action.definition.performBatch = some fun input => .done (answer input))
    (bundle : Bundle (List Json)) :
    Silent bundle.context (action.executeBatch bundle) := by
  cases resolved : (mapAll action.mapper bundle.mapping bundle.data).1 with
  | error error =>
      exact ⟨_, _, (mapAll_events _ _ _).1.messages_eq_nil,
        executeBatch_unmapped supported resolved⟩
  | ok mapped =>
      have quiet := action.quiet_survivors bundle.context.stats action.mapper
        bundle.mapping bundle.data mapped
      by_cases nothing : action.kept mapped = []
      · exact ⟨_, _, quiet.messages_eq_nil,
          executeBatch_skipped supported resolved nothing⟩
      · refine ⟨_, _, ?_, executeBatch_done supported resolved nothing⟩
        rw [messages_append, quiet.messages_eq_nil]
        rfl

end Action

namespace Webhook

/-- What a dry run gives back for a body. -/
def echo (settings : WebhookSettings) (body : Json) : Json :=
  .ofMembers [("url", .str settings.url), ("method", .str settings.usedMethod),
    ("body", body)]

private theorem get?_url_echo (settings : WebhookSettings) (body : Json) :
    (echo settings body).get? "url" = some (.str settings.url) := by
  simp [echo, Json.ofMembers, Json.get?, Assoc.get?_ofList]

private theorem get?_method_echo (settings : WebhookSettings) (body : Json) :
    (echo settings body).get? "method" = some (.str settings.usedMethod) := by
  simp [echo, Json.ofMembers, Json.get?, Assoc.get?_ofList]

private theorem get?_body_echo (settings : WebhookSettings) (body : Json) :
    (echo settings body).get? "body" = some body := by
  simp [echo, Json.ofMembers, Json.get?, Assoc.get?_ofList]

/-- How a dry run ends. -/
def rehearsal (settings body : Json) : Except ActionError PerformOutput :=
  match WebhookSettings.ofJson settings with
  | .error fault => .error (.payload fault)
  | .ok settings => .ok (.data (echo settings body))

private theorem deliver_dry (settings body : Json) :
    deliver true settings body = .done (rehearsal settings body) := by
  unfold deliver rehearsal
  cases WebhookSettings.ofJson settings <;> rfl

/-- Settings that cannot be decoded end a live run as they end a dry run. -/
theorem deliver_live_of_error {settings body : Json} {error : ActionError}
    (fault : rehearsal settings body = .error error) :
    deliver false settings body = .done (.error error) := by
  unfold rehearsal at fault
  unfold deliver
  cases decoded : WebhookSettings.ofJson settings with
  | error reason =>
      simp only [decoded, Except.error.injEq] at fault
      simp [fault]
  | ok settings => simp [decoded] at fault

/-- The options of the request that carries a body. -/
def delivery (settings : WebhookSettings) (body : Json) : RequestOptions :=
  RequestOptions.setJson body (RequestOptions.setMethod settings.usedMethod {})

/-- What a live run sends is the request that is prepared for its settings. -/
theorem prepared_of_deliver_live {client : Client}
    (publishing : client.hooks = [Hook.publish]) (settings body : Json) (world : World)
    {message : Message}
    (sent : message ∈ messages ((deliver false settings body).run client world).events) :
    messages ((deliver false settings body).run client world).events = [message] ∧
      ∃ decoded prepared, WebhookSettings.ofJson settings = .ok decoded ∧
        PreparedRequest.prepare (client.defaults.merge (delivery decoded body))
          decoded.url = .ok prepared ∧
        prepared.message = message := by
  cases decoded : WebhookSettings.ofJson settings with
  | error fault => simp [deliver, decoded, Program.run] at sent
  | ok known =>
      have trace : ((deliver false settings body).run client world).events =
          (client.send known.url (delivery known body) world.transport).events := by
        unfold deliver
        rw [decoded]
        exact List.append_nil _
      rw [trace] at sent ⊢
      rcases client.messages_send publishing known.url (delivery known body)
          world.transport with nothing | ⟨prepared, done, one⟩
      · simp [nothing] at sent
      · rw [one, List.mem_singleton] at sent
        subst sent
        exact ⟨one, known, prepared, rfl, done, rfl⟩

theorem messages_deliver_live {client : Client} (publishing : client.hooks = [Hook.publish])
    (settings body : Json) (world : World) {message : Message}
    (sent : message ∈ messages ((deliver false settings body).run client world).events) :
    messages ((deliver false settings body).run client world).events = [message] ∧
      ∃ decoded, WebhookSettings.ofJson settings = .ok decoded ∧
        message.body = body.compact ∧ message.method = Text.upper decoded.usedMethod := by
  obtain ⟨one, decoded, prepared, known, done, rfl⟩ :=
    prepared_of_deliver_live publishing settings body world sent
  obtain ⟨method, text⟩ := PreparedRequest.message_of_prepare done
  exact ⟨one, decoded, known, text, method⟩

/-- The action of a dry run and that of a live run over the same fields. -/
structure Twins (dry live : Action) : Prop where
  schema : live.schema = dry.schema
  mapper : live.mapper = dry.mapper
  dryPerform : dry.definition.perform =
    some fun input => .done (rehearsal input.settings input.payload)
  livePerform : live.definition.perform =
    some fun input => deliver false input.settings input.payload
  dryBatch : dry.definition.performBatch =
    some fun input => .done (rehearsal input.settings (.arr input.payload))
  liveBatch : live.definition.performBatch =
    some fun input => deliver false input.settings (.arr input.payload)

/-- The live action is built whenever the dry one is, with the same schemas. -/
theorem build_live_eq (title description : String) (fields : FieldMap) :
    (builder (sendAction title description fields false)).build =
      (builder (sendAction title description fields true)).build.map fun action =>
        { action with definition := sendAction title description fields false } := by
  have payloads : (builder (sendAction title description fields false)).compilePayload =
      (builder (sendAction title description fields true)).compilePayload := rfl
  unfold ActionBuilder.build
  rw [payloads]
  cases (builder (sendAction title description fields true)).compilePayload <;> rfl

theorem twins_of_build {title description : String} {fields : FieldMap} {dry : Action}
    (built : (builder (sendAction title description fields true)).build = .ok dry) :
    Twins dry { dry with definition := sendAction title description fields false } := by
  obtain ⟨definition, _, _⟩ := ActionBuilder.build_parts built
  have rehearses : ∀ settings body,
      deliver true settings body = .done (rehearsal settings body) := deliver_dry
  constructor
  · rfl
  · rfl
  · simp [definition, builder, sendAction, rehearses]
  · rfl
  · simp [definition, builder, sendAction, rehearses]
  · rfl

namespace Twins

variable {dry live : Action}

private theorem clean_eq (twins : Twins dry live) : live.clean = dry.clean := by
  funext fromRoot mapped
  rw [Action.clean, Action.clean, twins.schema]

private theorem violations_eq (twins : Twins dry live) : live.violations = dry.violations := by
  funext payload
  rw [Action.violations, Action.violations, twins.schema]

private theorem kept_eq (twins : Twins dry live) (mapped : List Json) :
    live.kept mapped = dry.kept mapped := by
  rw [Action.kept, Action.kept, twins.clean_eq, twins.violations_eq]

theorem admits {bundle : Bundle Json} {payload : Json} (twins : Twins dry live)
    (admitted : dry.Admits bundle payload) : live.Admits bundle payload where
  supported := by rw [twins.livePerform, Option.isSome_some]
  cleaned := by
    rw [twins.mapper, twins.schema]
    exact admitted.cleaned
  valid := by
    intro schema known
    exact admitted.valid schema (twins.schema ▸ known)

theorem refuses {bundle : Bundle Json} {error : ActionError} {rejected : Nat}
    (twins : Twins dry live) (refusal : dry.Refuses bundle error rejected) :
    live.Refuses bundle error rejected := by
  have supported : live.definition.perform.isSome = true := by
    rw [twins.livePerform, Option.isSome_some]
  cases refusal with
  | unsupported missing => simp [twins.dryPerform] at missing
  | unmapped _ fault => exact .unmapped supported (twins.mapper ▸ fault)
  | rejected _ resolved known found =>
      exact .rejected supported (twins.mapper ▸ resolved) (twins.schema ▸ known) found

theorem foretells (twins : Twins dry live) (bundle : Bundle Json) :
    Foretells bundle (dry.execute bundle) (live.execute bundle) where
  silent := Action.execute_silent twins.dryPerform bundle
  sends := by
    intro dryTransport transport message sent
    rcases dry.admits_or_refuses bundle with ⟨payload, admitted⟩ | ⟨_, _, refusal⟩
    · have dryRun := admitted.execute_done twins.dryPerform dryTransport
      rw [(twins.admits admitted).execute_eq twins.livePerform transport] at sent ⊢
      obtain ⟨one, settings, decoded, text, method⟩ :=
        messages_deliver_live rfl bundle.settings payload _ sent
      have rehearsed : rehearsal bundle.settings payload =
          .ok (.data (echo settings payload)) := by
        simp [rehearsal, decoded]
      refine ⟨one, settings, dry.records (echo settings payload), echo settings payload,
        payload, settings.usedMethod, decoded, ?_, ?_, ?_, ?_, text, ?_, method⟩
      · rw [dryRun]
        exact congrArg (Except.map _) rehearsed
      · exact List.getLast?_concat
      · exact get?_url_echo settings payload
      · exact get?_body_echo settings payload
      · exact get?_method_echo settings payload
    · obtain ⟨events, ending, quiet, _⟩ := (twins.refuses refusal).execute_eq transport
      simp [ending, Action.stop, quiet.messages_eq_nil] at sent
  fails := by
    intro dryTransport transport error failed
    rcases dry.admits_or_refuses bundle with ⟨payload, admitted⟩ | ⟨refused, _, refusal⟩
    · rw [admitted.execute_done twins.dryPerform dryTransport] at failed
      have fault : rehearsal bundle.settings payload = .error error :=
        Action.error_of_map failed
      -- the settings are decoded before anything is sent, by both alike
      have liveRun := (twins.admits admitted).execute_eq twins.livePerform transport
      simp only [Action.functionRun, Bundle.toInput, deliver_live_of_error fault] at liveRun
      rw [liveRun]
      exact ⟨rfl, rfl⟩
    · obtain ⟨_, dryRun, _, _⟩ := refusal.execute_eq dryTransport
      obtain ⟨_, liveRun, quiet, _⟩ := (twins.refuses refusal).execute_eq transport
      rw [dryRun] at failed
      rw [liveRun]
      exact ⟨failed, quiet.messages_eq_nil⟩

theorem refusesBatch {bundle : Bundle (List Json)} {error : ActionError}
    (twins : Twins dry live) (refusal : dry.RefusesBatch bundle error) :
    live.RefusesBatch bundle error := by
  have supported : live.definition.performBatch.isSome = true := by
    rw [twins.liveBatch, Option.isSome_some]
  cases refusal with
  | unsupported missing => simp [twins.dryBatch] at missing
  | unmapped _ fault => exact .unmapped supported (twins.mapper ▸ fault)

/-- Where the dry run cannot deliver what is kept of a list, neither can the live
run. -/
theorem executeBatch_of_error {bundle : Bundle (List Json)} {mapped : List Json}
    {error : ActionError} (twins : Twins dry live)
    (resolved : (Action.mapAll dry.mapper bundle.mapping bundle.data).1 = .ok mapped)
    (something : dry.kept mapped ≠ [])
    (fault : rehearsal bundle.settings (.arr (dry.kept mapped)) = .error error)
    (transport : Transport) :
    (live.executeBatch bundle transport).result = .error error ∧
      messages (live.executeBatch bundle transport).events = [] := by
  have quiet := live.quiet_survivors bundle.context.stats live.mapper bundle.mapping
    bundle.data mapped
  have liveRun := Action.executeBatch_delivered twins.liveBatch
    (twins.mapper.symm ▸ resolved) (twins.kept_eq mapped ▸ something) transport
  simp only [twins.kept_eq, Action.functionRun, Bundle.toInput,
    deliver_live_of_error fault] at liveRun
  rw [liveRun]
  have unsent := quiet.messages_eq_nil
  exact ⟨rfl, by simpa [Ran.after, Ran.map, Program.run] using unsent⟩

theorem foretellsBatch (twins : Twins dry live) (bundle : Bundle (List Json)) :
    ForetellsBatch bundle.context (dry.executeBatch bundle) (live.executeBatch bundle) where
  silent := Action.executeBatch_silent twins.dryBatch bundle
  sends := by
    intro dryTransport transport sent
    rcases dry.refusesBatch_or_resolves bundle with
      ⟨_, refusal⟩ | ⟨_, mapped, _, resolved⟩
    · obtain ⟨_, liveRun, quiet, _⟩ :=
        (twins.refusesBatch refusal).executeBatch_eq transport
      rw [liveRun] at sent
      exact absurd quiet.messages_eq_nil sent
    · by_cases nothing : dry.kept mapped = []
      · rw [Action.executeBatch_skipped twins.dryBatch resolved nothing]
        rfl
      · rw [Action.executeBatch_done twins.dryBatch resolved nothing]
        cases outcome : rehearsal bundle.settings (.arr (dry.kept mapped)) with
        | error error =>
            have ending :=
              twins.executeBatch_of_error resolved nothing outcome transport
            exact absurd ending.2 sent
        | ok output => exact congrArg (Except.map _) outcome
  fails := by
    intro dryTransport transport error failed
    rcases dry.refusesBatch_or_resolves bundle with
      ⟨_, refusal⟩ | ⟨_, mapped, _, resolved⟩
    · obtain ⟨_, dryRun, _, _⟩ := refusal.executeBatch_eq dryTransport
      obtain ⟨_, liveRun, quiet, _⟩ :=
        (twins.refusesBatch refusal).executeBatch_eq transport
      rw [dryRun] at failed
      rw [liveRun]
      exact ⟨failed, quiet.messages_eq_nil⟩
    · by_cases nothing : dry.kept mapped = []
      · rw [Action.executeBatch_skipped twins.dryBatch resolved nothing] at failed
        cases failed
      · rw [Action.executeBatch_done twins.dryBatch resolved nothing] at failed
        exact twins.executeBatch_of_error resolved nothing (Action.error_of_map failed) transport

end Twins

/-- Whenever the action of a dry run is built, so is that of the live run over the
same fields, and every dry run foretells the live run. -/
theorem dryRun_foretells_live {title description : String} {fields : FieldMap}
    {dry : Action}
    (built : (builder (sendAction title description fields true)).build = .ok dry) :
    ∃ live, (builder (sendAction title description fields false)).build = .ok live ∧
      (∀ bundle, Foretells bundle (dry.execute bundle) (live.execute bundle)) ∧
      ∀ bundle, ForetellsBatch bundle.context (dry.executeBatch bundle)
        (live.executeBatch bundle) := by
  have twins := twins_of_build built
  refine ⟨_, ?_, twins.foretells, twins.foretellsBatch⟩
  rw [build_live_eq, built]
  rfl

def noticeFields : FieldMap := [("email", (Field.new "E-mail" .string).require)]

/-- An event with an address, delivered with a method in small letters. -/
def noticeBundle : Bundle Json where
  data := .obj [("email", .str "ada@example.org")]
  settings := .obj [("method", .str "put"), ("url", .str "https://[::1]/in")]
  mapping := .obj [("email", .obj [("@path", .str "$.email")])]

theorem dryRun_foretells_notice :
    ∃ dry live message steps,
      (builder (sendAction "Send" "" noticeFields true)).build = .ok dry ∧
        (builder (sendAction "Send" "" noticeFields false)).build = .ok live ∧
        messages (live.execute noticeBundle (.scripted [])).events = [message] ∧
        message.method = "PUT" ∧
        message.body = "\x7b\"email\":\"ada@example.org\"\x7d" ∧
        (dry.execute noticeBundle .offline).result = .ok steps := by
  have sent : (builder (sendAction "Send" "" noticeFields false)).build.toOption.map
      (fun live => (messages (live.execute noticeBundle (.scripted [])).events).map
        fun message => (message.method, message.body)) =
      some [("PUT", "\x7b\"email\":\"ada@example.org\"\x7d")] := by
    decide +kernel
  cases built : (builder (sendAction "Send" "" noticeFields true)).build with
  | error error =>
      -- the live action would not be built either
      rw [build_live_eq, built] at sent
      cases sent
  | ok dry =>
      obtain ⟨live, builtLive, foretells, _⟩ := dryRun_foretells_live built
      rw [builtLive, Except.toOption, Option.map_some, Option.some.injEq,
        List.map_eq_singleton_iff] at sent
      obtain ⟨message, one, parts⟩ := sent
      have member : message ∈
          messages (live.execute noticeBundle (.scripted [])).events := by
        simp [one]
      obtain ⟨_, _, steps, _, _, _, _, succeeds, _⟩ :=
        (foretells noticeBundle).sends .offline (.scripted []) message member
      exact ⟨dry, live, message, steps, rfl, builtLive, one, congrArg Prod.fst parts,
        congrArg Prod.snd parts, succeeds⟩

end Webhook

end EventDelivery
