import EventDelivery.CommandLine.Run
import EventDelivery.Proofs.ConfigLoading
import EventDelivery.Proofs.JsonLines
import EventDelivery.Proofs.SchemaAdmission
import EventDelivery.Proofs.ScriptConsumption
import EventDelivery.Proofs.WireRoundTrip

/-!
# Reports of events

A run that delivers events one by one makes one call an event and writes one line a call.
The calls have nothing in common but a script of replies, which each of them finds as the
ones before have left it.  A run in one piece writes a single line, or fails.
-/

namespace EventDelivery

namespace RunConfig

/-- The fields of the action; without any, those of the destination. -/
def payloadFields (config : RunConfig) : FieldMap :=
  if config.action.fields = [] then Webhook.defaultFields else config.action.fields

/-- What is handed over for a call: the settings, an empty object for null, the mapping of
the run or the one that the fields start with, the tokens and the flags. -/
def offer {α : Type} (config : RunConfig) (data : α) : Bundle α where
  data
  settings := if config.settings = .null then .obj [] else config.settings
  mapping := config.mapping.getD config.payloadFields.defaultMapping
  context := { auth := config.auth, features := some config.features }

/-- The webhook that the run delivers to, over the fields of the action. -/
def webhook (config : RunConfig) (dryRun : Bool) : ActionDefinition :=
  Webhook.sendAction config.action.title config.action.description config.payloadFields dryRun

/-- The report of the event at a position: the steps of its call, or the code and the
sentence of the error that ended it. -/
inductive IsReport (position : Nat) :
    Except ActionError (List ExecutionRecord) → Json → Prop where
  | records (steps : List ExecutionRecord) :
      IsReport position (.ok steps) (.obj [("index", .ofNat position),
        ("records", .arr (steps.map ExecutionRecord.toJson))])
  | error (error : ActionError) :
      IsReport position (.error error) (.obj [
        ("error", .obj [("code", .str error.code), ("message", .str error.message)]),
        ("index", .ofNat position)])

/-- What is promised of a run that delivers its events one by one, beside its calls. -/
structure Isolates (config : RunConfig) (action : Action) (transport : Transport)
    (calls : List (Ran (Except ActionError (List ExecutionRecord))))
    (run : ProgramRun) : Prop where
  succeeds : run.ending.exitCode = 0
  /-- The call for an event is that of the event alone: it finds the part of the script that
  is left when one entry is used up for every message that an earlier call has sent. -/
  alone : ∀ position : Nat, calls[position]? =
    (config.events[position]?).map fun event => action.execute (config.offer event)
      (transport.leftover (messages ((calls.take position).flatMap Ran.events)).length)
  traced : run.events = calls.flatMap Ran.events
  counted : run.output.length = config.events.length
  reports : ∀ (position : Nat) call, calls[position]? = some call →
    ∃ report, IsReport position call.result report ∧
      run.output[position]? = some report.compact

/-- What is promised of a run that delivers its events in one piece. -/
inductive Completes (config : RunConfig) (action : Action) (transport : Transport)
    (run : ProgramRun) : Prop where
  | done :
      (action.executeBatch (config.offer config.events) transport).result = .ok () →
      run.ending.exitCode = 0 →
      run.output = [(Json.obj [("batch", .ofNat config.events.length),
        ("status", .str "done")]).compact] →
      Completes config action transport run
  | failed (error : ActionError) :
      (action.executeBatch (config.offer config.events) transport).result = .error error →
      run.ending.exitCode ≠ 0 →
      run.output = [] →
      Completes config action transport run

section

variable (config : RunConfig)

private theorem definition_eq_webhook (dryRun : Bool) :
    config.definition dryRun = config.webhook dryRun := by
  simp only [definition, webhook, payloadFields, List.isEmpty_iff]

private theorem bundle_usedMapping {α : Type} (dryRun : Bool) (data : α) :
    config.bundle (config.usedMapping dryRun) data = config.offer data := by
  have settings : config.settings.isNull = true ↔ config.settings = .null := by
    cases config.settings <;> simp [Json.isNull]
  simp only [bundle, offer, usedMapping, definition_eq_webhook, settings]
  rfl

end

private theorem eventReport_ok (position : Nat) (steps : List ExecutionRecord) :
    eventReport position (.ok steps) = .obj [("index", .ofNat position),
      ("records", .arr (steps.map ExecutionRecord.toJson))] := by
  rw [eventReport, Json.ofMembers, Assoc.ofList_pair (by decide)]

private theorem eventReport_error (position : Nat) (error : ActionError) :
    eventReport position (.error error) = .obj [
      ("error", .obj [("code", .str error.code), ("message", .str error.message)]),
      ("index", .ofNat position)] := by
  -- the position is given first, but the error has the lesser key
  rw [eventReport, Json.ofMembers, Json.ofMembers, Assoc.ofList_swapped (by decide),
    Assoc.ofList_pair (by decide)]

private theorem batchReport_eq (size : Nat) :
    batchReport size = .obj [("batch", .ofNat size), ("status", .str "done")] := by
  rw [batchReport, Json.ofMembers, Assoc.ofList_pair (by decide)]

theorem isReport_eventReport (position : Nat)
    (outcome : Except ActionError (List ExecutionRecord)) :
    IsReport position outcome (eventReport position outcome) := by
  cases outcome with
  | ok steps => exact eventReport_ok position steps ▸ .records steps
  | error error => exact eventReport_error position error ▸ .error error

end RunConfig

namespace Action

/-- Makes calls with events in turn; each finds the transport as the one before left it. -/
def executeEach (action : Action) : List (Bundle Json) → Transport →
    List (Ran (Except ActionError (List ExecutionRecord)))
  | [], _ => []
  | bundle :: rest, transport =>
      let ran := action.execute bundle transport
      ran :: action.executeEach rest ran.world.transport

theorem length_executeEach (action : Action) (bundles : List (Bundle Json))
    (transport : Transport) :
    (action.executeEach bundles transport).length = bundles.length := by
  induction bundles generalizing transport with
  | nil => rfl
  | cons bundle rest induction => exact congrArg (· + 1) (induction _)

theorem getElem?_executeEach (action : Action) (bundles : List (Bundle Json))
    (transport : Transport) (position : Nat) :
    (action.executeEach bundles transport)[position]? =
      bundles[position]?.map fun bundle => action.execute bundle
        (transport.leftover
          (messages (((action.executeEach bundles transport).take position).flatMap
            Ran.events)).length) := by
  -- the transport is general: the calls behind the first one start from what it leaves over
  induction bundles generalizing transport position with
  | nil => rfl
  | cons bundle rest induction =>
      cases position with
      | zero => simp [executeEach]
      | succ position =>
          have usedUp := action.execute_usesUp bundle transport
          have later := induction (action.execute bundle transport).world.transport position
          rw [Ran.UsesUp] at usedUp
          rw [executeEach, List.getElem?_cons_succ, List.getElem?_cons_succ, later]
          simp only [List.take_succ_cons, List.flatMap_cons, messages_append,
            List.length_append, ← Transport.leftover_leftover, ← usedUp]

end Action

namespace RunConfig

variable {config : RunConfig} {action : Action}

theorem deliverEach_eq (config : RunConfig) (action : Action) (mapping : Json) (first : Nat)
    (events : List Json) (transport : Transport) :
    let calls := action.executeEach (events.map (config.bundle mapping)) transport
    let ran := config.deliverEach action mapping first events transport
    ran.result = (calls.zipIdx first).map (fun call => eventReport call.2 call.1.result) ∧
      ran.events = calls.flatMap Ran.events := by
  -- the first position is general as well: the later reports are counted from the next one
  induction events generalizing first transport with
  | nil => exact ⟨rfl, rfl⟩
  | cons event rest induction =>
      obtain ⟨reports, trace⟩ := induction (first + 1)
        (action.execute (config.bundle mapping event) transport).world.transport
      constructor
      · simp only [deliverEach, Ran.after, Ran.map, reports, List.map_cons,
          Action.executeEach, List.zipIdx_cons]
      · simp only [deliverEach, Ran.after, Ran.map, trace, List.map_cons,
          Action.executeEach, List.flatMap_cons]

theorem deliver_isolates (dryRun : Bool) (transport : Transport) :
    ∃ calls, config.Isolates action transport calls
      (ProgramRun.deliver config action (config.usedMapping dryRun) false transport) := by
  obtain ⟨reports, trace⟩ := config.deliverEach_eq action (config.usedMapping dryRun) 0
    config.events transport
  have offers : config.bundle (config.usedMapping dryRun) = config.offer (α := Json) :=
    funext (config.bundle_usedMapping dryRun)
  rw [offers] at reports trace
  refine ⟨action.executeEach (config.events.map config.offer) transport, rfl, ?_, trace, ?_, ?_⟩
  · intro position
    rw [Action.getElem?_executeEach, List.getElem?_map, Option.map_map]
    rfl
  · simp [ProgramRun.deliver, reports, Action.length_executeEach]
  · intro position call found
    refine ⟨_, isReport_eventReport position call.result, ?_⟩
    simp [ProgramRun.deliver, reports, found]

theorem deliver_completes (dryRun : Bool) (transport : Transport) :
    config.Completes action transport
      (ProgramRun.deliver config action (config.usedMapping dryRun) true transport) := by
  cases ended : (action.executeBatch (config.offer config.events) transport).result with
  | ok _ =>
      refine .done ended ?_ ?_ <;>
        simp [ProgramRun.deliver, deliverBatch, bundle_usedMapping, Ran.map, ended, Except.map,
          batchReport_eq, Ending.exitCode]
  | error error =>
      refine .failed error ended ?_ ?_ <;>
        simp [ProgramRun.deliver, deliverBatch, bundle_usedMapping, Ran.map, ended, Except.map,
          Ending.exitCode]

theorem payloadFields_ordered (ordered : config.Ordered) : config.payloadFields.Ordered := by
  unfold payloadFields
  split
  · refine ⟨by decide, ?_⟩
    intro name field member
    cases List.mem_singleton.mp member
    trivial
  · exact ordered

theorem exists_action (ordered : config.Ordered) (dryRun : Bool) :
    ∃ action, (Webhook.builder (config.webhook dryRun)).build = .ok action := by
  have usual : (Webhook.builder (config.webhook dryRun)).compiler = FieldMap.schema := rfl
  obtain ⟨schema, payload, _⟩ :=
    ActionBuilder.compilePayload_generated usual (payloadFields_ordered ordered)
  exact ⟨_, by rw [ActionBuilder.build, payload]; rfl⟩

theorem ordered_of_loadFile {access : FileAccess} {path : String}
    {content : Except FileFault String} (loaded : loadFile access path content = .ok config) :
    config.Ordered := by
  cases content with
  | error fault => cases loaded
  | ok text =>
      obtain ⟨given, _⟩ := accept_eq_ok_iff.mp loaded
      obtain ⟨value, _, decoded⟩ := ofText?_eq_some_iff.mp given
      exact (ordered_lossless_of_ofJson decoded).1

end RunConfig

namespace ProgramRun

variable {config : RunConfig} {action : Action}

theorem newline_not_mem_deliver (mapping : Json) (inBatch : Bool) (transport : Transport)
    {line : String} (written : line ∈ (deliver config action mapping inBatch transport).output) :
    '\n' ∉ line.toList := by
  have printed : ∃ value : Json, line = value.compact := by
    cases inBatch with
    | false =>
        obtain ⟨report, _, rfl⟩ := List.mem_map.mp written
        exact ⟨report, rfl⟩
    | true =>
        simp only [deliver, if_true] at written
        split at written
        · exact ⟨_, List.mem_singleton.mp written⟩
        · cases written
  obtain ⟨value, rfl⟩ := printed
  exact value.newline_not_mem_compact

variable {arguments : List String} {taken : Arguments}
  {read : String → Except FileFault String}

/-- A run that prints nothing of its own delivers the events of its configuration. -/
theorem ofArguments_eq_deliver (asked : Invocation.ofArguments arguments = .run taken)
    (prints : taken.printSchema = false ∧ taken.printPayloadSchema = false)
    (loaded : RunConfig.loadFile .whole taken.configPath (read taken.configPath) = .ok config)
    (built : (Webhook.builder (config.webhook taken.dryRun)).build = .ok action)
    (transport : Transport) :
    ofArguments arguments read transport =
      deliver config action (config.usedMapping taken.dryRun) (taken.batch || config.batch)
        transport := by
  rw [← config.definition_eq_webhook] at built
  simp [ofArguments, asked, prints, loaded, ofConfig, built]

/-- Whatever the configuration and whoever answers, the action is built.  Unless the events
are delivered in one piece, each of them has a line of its own that tells what became of it
alone, and the program exits with success; in one piece there is one line, or none and a
failing exit. -/
theorem every_event_reported (asked : Invocation.ofArguments arguments = .run taken)
    (prints : taken.printSchema = false ∧ taken.printPayloadSchema = false)
    (loaded : RunConfig.loadFile .whole taken.configPath (read taken.configPath) = .ok config)
    (transport : Transport) :
    ∃ action, (Webhook.builder (config.webhook taken.dryRun)).build = .ok action ∧
      (taken.batch = false ∧ config.batch = false →
        ∃ calls, config.Isolates action transport calls
          (ofArguments arguments read transport)) ∧
      (taken.batch = true ∨ config.batch = true →
        config.Completes action transport (ofArguments arguments read transport)) ∧
      ∀ line, line ∈ (ofArguments arguments read transport).output → '\n' ∉ line.toList := by
  have ordered := RunConfig.ordered_of_loadFile loaded
  obtain ⟨action, built⟩ := RunConfig.exists_action ordered taken.dryRun
  have delivers := ofArguments_eq_deliver asked prints loaded built transport
  refine ⟨action, built, ?_, ?_, ?_⟩
  · rintro ⟨given, configured⟩
    rw [delivers, given, configured]
    exact RunConfig.deliver_isolates taken.dryRun transport
  · intro inBatch
    have either : (taken.batch || config.batch) = true := by simpa using inBatch
    rw [delivers, either]
    exact RunConfig.deliver_completes taken.dryRun transport
  · intro line written
    rw [delivers] at written
    exact newline_not_mem_deliver _ _ transport written

def twiceText : String :=
  "\x7b\"destination\":\"webhook\",\"action\":\x7b\"title\":\"A\"\x7d," ++
    "\"settings\":\x7b\"url\":\"http://[::1]/\"\x7d,\"events\":[1,2]\x7d"

def readsTwice : String → Except FileFault String := fun _ => .ok twiceText

def answersOnce : Transport := .scripted [some ⟨200, [], []⟩]

theorem twice_reported :
    ∃ config action calls,
      RunConfig.loadFile .whole "config/run.json" (readsTwice "config/run.json") = .ok config ∧
        config.events.length = 2 ∧
        (Webhook.builder (config.webhook false)).build = .ok action ∧
        config.Isolates action answersOnce calls (ofArguments [] readsTwice answersOnce) ∧
        (ofArguments [] readsTwice answersOnce).output =
          ["\x7b\"index\":0,\"records\":[\x7b\"output\":\"Mappings resolved\"\x7d," ++
              "\x7b\"output\":\"Payload validated\"\x7d," ++
              "\x7b\"data\":\"\",\"output\":\"Action Executed\"\x7d]\x7d",
            "\x7b\"error\":\x7b\"code\":\"RequestError\",\"message\":" ++
              "\"error sending request for url (http://[::1]/)\"\x7d,\"index\":1\x7d"] := by
  have known : (RunConfig.loadFile .whole "config/run.json"
      (readsTwice "config/run.json")).toOption.map
        (fun config => (config.events.length, config.batch)) = some (2, false) := by
    decide +kernel
  have asked : Invocation.ofArguments [] = .run {} := rfl
  cases loaded : RunConfig.loadFile .whole "config/run.json" (readsTwice "config/run.json") with
  | error error => simp [loaded, Except.toOption] at known
  | ok config =>
      rw [loaded, Except.toOption, Option.map_some, Option.some.injEq, Prod.mk.injEq] at known
      obtain ⟨two, inTurn⟩ := known
      obtain ⟨action, built, isolates, _⟩ :=
        every_event_reported asked ⟨rfl, rfl⟩ loaded answersOnce
      obtain ⟨calls, isolated⟩ := isolates ⟨rfl, inTurn⟩
      exact ⟨config, action, calls, rfl, two, built, isolated, by decide +kernel⟩

end ProgramRun

end EventDelivery
