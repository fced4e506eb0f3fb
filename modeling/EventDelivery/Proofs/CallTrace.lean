import EventDelivery.Action.Execute

/-!
# What traces show

Observers of traces: the functions that were called with their payloads, the
metrics, and whether anything left the executor at all.  A program that runs
with the client of an action leaves neither calls of functions nor discarded
payloads in the trace.
-/

namespace EventDelivery

def Metric.isDiscard : Metric → Bool
  | .count name _ _ => name == "schema_validation.discard"
  | .sample _ _ _ => false

/-- Whether an event stays inside of the executor: the mapper is consulted or
a metric is recorded. -/
def Event.isInternal : Event → Bool
  | .mapped | .measured _ => true
  | _ => false

/-- Whether an event can come from a function of the destination. -/
def Event.isOfFunction : Event → Bool
  | .mapped | .invoked _ _ => false
  | .measured metric => !metric.isDiscard
  | _ => true

/-- The functions that were called, each with its payload, in order. -/
def invocations (events : List Event) : List (Slot × Json) :=
  events.filterMap fun
    | .invoked slot payload => some (slot, payload)
    | _ => none

def measurements (events : List Event) : List Metric :=
  events.filterMap fun
    | .measured metric => some metric
    | _ => none

def discardsIn (events : List Event) : List Metric :=
  (measurements events).filter Metric.isDiscard

/-- No function was called, nothing was sent and nothing was published. -/
def Quiet (events : List Event) : Prop :=
  ∀ event, event ∈ events → event.isInternal = true

/-- The executor leaves all of it by itself: no function of the destination does. -/
def OfExecutor (events : List Event) : Prop :=
  ∀ event, event ∈ events → event.isOfFunction = false

/-- The metrics of a number of discarded payloads. -/
def discardMetrics (stats : Option StatsContext) (key : String)
    (rejected : Nat) : List Metric :=
  match stats with
  | none => []
  | some context =>
      List.replicate rejected
        (context.tag (.count "schema_validation.discard" 1 ["schema_key:" ++ key]))

@[simp] theorem invocations_nil : invocations [] = [] := rfl

@[simp] theorem measurements_nil : measurements [] = [] := rfl

@[simp] theorem discardsIn_nil : discardsIn [] = [] := rfl

@[simp] theorem invocations_append (earlier later : List Event) :
    invocations (earlier ++ later) = invocations earlier ++ invocations later :=
  List.filterMap_append

@[simp] theorem measurements_append (earlier later : List Event) :
    measurements (earlier ++ later) =
      measurements earlier ++ measurements later :=
  List.filterMap_append

@[simp] theorem discardsIn_append (earlier later : List Event) :
    discardsIn (earlier ++ later) = discardsIn earlier ++ discardsIn later := by
  simp [discardsIn]

@[simp] theorem invocations_invoked (slot : Slot) (payload : Json)
    (events : List Event) :
    invocations (.invoked slot payload :: events) =
      (slot, payload) :: invocations events := rfl

@[simp] theorem invocations_mapped (events : List Event) :
    invocations (.mapped :: events) = invocations events := rfl

@[simp] theorem discardsIn_invoked (slot : Slot) (payload : Json)
    (events : List Event) :
    discardsIn (.invoked slot payload :: events) = discardsIn events := rfl

theorem quiet_append {earlier later : List Event}
    (earlierQuiet : Quiet earlier) (laterQuiet : Quiet later) :
    Quiet (earlier ++ later) := by
  intro event member
  rcases List.mem_append.mp member with first | second
  · exact earlierQuiet event first
  · exact laterQuiet event second

theorem quiet_mapped {events : List Event} (quiet : Quiet events) :
    Quiet (.mapped :: events) := by
  intro event member
  rcases List.mem_cons.mp member with first | later
  · rw [first]
    rfl
  · exact quiet event later

theorem Quiet.invocations_eq_nil {events : List Event} (quiet : Quiet events) :
    invocations events = [] := by
  apply List.filterMap_eq_nil_iff.mpr
  intro event member
  have internal := quiet event member
  cases event <;> simp_all [Event.isInternal]

/-- Consultations and metrics of discarded payloads come from the executor. -/
theorem Quiet.ofExecutor {events : List Event} (quiet : Quiet events)
    (discards : ∀ metric, metric ∈ measurements events → metric.isDiscard = true) :
    OfExecutor events := by
  intro event member
  have internal := quiet event member
  cases event with
  | measured metric =>
      have discard : metric.isDiscard = true :=
        discards metric (List.mem_filterMap.mpr ⟨_, member, rfl⟩)
      simp [Event.isOfFunction, discard]
  | mapped => rfl
  | _ => cases internal

theorem OfExecutor.append {earlier later : List Event} (first : OfExecutor earlier)
    (second : OfExecutor later) : OfExecutor (earlier ++ later) := by
  intro event member
  rcases List.mem_append.mp member with before | after
  · exact first event before
  · exact second event after

theorem invocations_eq_nil_of_isOfFunction {events : List Event}
    (ofFunction : ∀ event, event ∈ events → event.isOfFunction = true) :
    invocations events = [] := by
  apply List.filterMap_eq_nil_iff.mpr
  intro event member
  have fromFunction := ofFunction event member
  cases event <;> simp_all [Event.isOfFunction]

theorem discardsIn_eq_nil_of_isOfFunction {events : List Event}
    (ofFunction : ∀ event, event ∈ events → event.isOfFunction = true) :
    discardsIn events = [] := by
  apply List.filter_eq_nil_iff.mpr
  intro metric member
  obtain ⟨event, eventMember, found⟩ := List.mem_filterMap.mp member
  have fromFunction := ofFunction event eventMember
  cases event <;> simp_all [Event.isOfFunction]

theorem isDiscard_of_mem_discardMetrics {stats : Option StatsContext}
    {key : String} {rejected : Nat} {metric : Metric}
    (member : metric ∈ discardMetrics stats key rejected) :
    metric.isDiscard = true := by
  cases stats with
  | none => simp [discardMetrics] at member
  | some context =>
      have equality := List.eq_of_mem_replicate member
      simp [equality, StatsContext.tag, Metric.isDiscard]

theorem discardMetrics_add (stats : Option StatsContext) (key : String)
    (first second : Nat) :
    discardMetrics stats key (first + second) =
      discardMetrics stats key first ++ discardMetrics stats key second := by
  cases stats with
  | none => rfl
  | some context => simp [discardMetrics, List.replicate_append_replicate]

namespace Program

variable {α : Type}

/-- What holds of all effects and of everything that requests leave behind
holds of the whole trace of a program. -/
theorem run_events_forall {property : Event → Prop} {client : Client}
    (effects : ∀ effect, property (.did effect))
    (requests : ∀ url options transport event,
      event ∈ (client.send url options transport).events → property event)
    (program : Program α) (world : World) :
    ∀ event, event ∈ (program.run client world).events → property event := by
  induction program generalizing world with
  | done result =>
      intro event member
      simp [run] at member
  | request url options next induction =>
      intro event member
      rcases List.mem_append.mp member with sending | later
      · exact requests url options world.transport event sending
      · exact induction _ _ event later
  | perform effect next induction =>
      intro event member
      rcases List.mem_cons.mp member with now | later
      · exact now ▸ effects effect
      · exact induction _ event later
  | readTransaction next induction =>
      intro event member
      exact induction _ _ event member

end Program

namespace Client

theorem metrics_isOfFunction (client : Client) (status : UInt16) :
    ∀ event, event ∈ client.metrics status → event.isOfFunction = true := by
  intro event member
  cases known : client.stats with
  | none => simp [metrics, known] at member
  | some context =>
      simp only [metrics, known, List.mem_cons, List.not_mem_nil, or_false] at member
      rcases member with counted | sampled
      · simp [counted, StatsContext.tag, Event.isOfFunction, Metric.isDiscard]
      · simp [sampled, StatsContext.tag, Event.isOfFunction, Metric.isDiscard]

/-- Requests of a client that only publishes never look like calls of
functions or like discarded payloads. -/
theorem send_isOfFunction {client : Client} (publishing : client.hooks = [Hook.publish])
    (url : String) (options : RequestOptions) (transport : Transport) :
    ∀ event, event ∈ (client.send url options transport).events →
      event.isOfFunction = true := by
  intro event member
  unfold send at member
  split at member
  · simp at member
  · split at member
    · simp at member
    · split at member
      · simp at member
      · rw [List.mem_singleton.mp member]
        rfl
      · rename_i reply _ _
        rcases List.mem_cons.mp member with sent | received
        · rw [sent]
          rfl
        · simp only [receive, publishing, Hook.pipeline, Hook.publish,
            List.append_nil] at received
          rcases List.mem_append.mp received with measured | published
          · exact metrics_isOfFunction client _ event measured
          · rw [List.mem_singleton.mp published]
            rfl

end Client

namespace Action

variable {α β : Type}

/-- What a function leaves in the trace never looks like the call of another
one, nor like a discarded payload. -/
theorem run_isOfFunction (action : Action) (input : Input α)
    (program : Program β) (world : World) :
    ∀ event, event ∈ (program.run (action.client input) world).events →
      event.isOfFunction = true :=
  Program.run_events_forall (fun _ => rfl)
    (Client.send_isOfFunction rfl) program world

end Action

end EventDelivery
