import EventDelivery.Action.Subscriber
import EventDelivery.Proofs.CallTrace
import EventDelivery.Proofs.RequestPreparation

/-!
# The answers to requests

A request is answered if it can be built, nothing keeps it from being sent and the
other side has a reply for it.  An answered request leaves one count and one published
response, any other neither.  The requests of a program leave what each of them leaves.
-/

namespace EventDelivery

def Metric.isRequestCount : Metric → Bool
  | .count name _ _ => name == "http_request"
  | .sample _ _ _ => false

def requestCounts (events : List Event) : List Metric :=
  (measurements events).filter Metric.isRequestCount

/-- Whether a response is raised under the options: there is no success, and they do not
say that this is no error. -/
def RequestOptions.Raises (options : RequestOptions) (response : Response) : Prop :=
  ¬ (200 ≤ response.status.toNat ∧ response.status.toNat < 300) ∧
    options.throwHttpErrors ≠ some false

/-- A request that was answered. -/
structure Answer where
  /-- The options of all layers. -/
  options : RequestOptions
  prepared : PreparedRequest
  reply : Reply

namespace Answer

def response (answer : Answer) : Response :=
  { answer.reply.toResponse answer.prepared.askedUrl with
    request := some answer.prepared.record
    options := some answer.options }

/-- Whether the response is raised: there is no success, and the options do not say
that this is no error. -/
def Raised (answer : Answer) : Prop :=
  ¬ (200 ≤ answer.reply.status.toNat ∧ answer.reply.status.toNat < 300) ∧
    answer.options.throwHttpErrors ≠ some false

def count (answer : Answer) (context : StatsContext) : Metric :=
  .count "http_request" 1
    (context.tags ++ ["status:" ++ toString answer.reply.status.toNat])

end Answer

/-- A request that a program made, and what it was given back. -/
structure Attempt where
  url : String
  options : RequestOptions
  /-- Who was there to answer. -/
  transport : Transport
  result : Except ActionError Response

/-- The answer to a request whose options are layered over those of the call. -/
def Attempt.answer? (defaults : RequestOptions) (attempt : Attempt) : Option Answer :=
  let options := defaults.merge attempt.options
  match PreparedRequest.prepare options attempt.url with
  | .error _ => none
  | .ok prepared =>
      match prepared.fault?, attempt.transport.exchange with
      | none, (.answered reply, _) => some ⟨options, prepared, reply⟩
      | _, _ => none

/-- An answer has the options of all layers; nothing keeps its request from being sent,
and the other side has a reply. -/
theorem Attempt.answer?_eq_some {defaults : RequestOptions} {attempt : Attempt}
    {answer : Answer} (found : attempt.answer? defaults = some answer) :
    answer.options = defaults.merge attempt.options ∧
      PreparedRequest.prepare (defaults.merge attempt.options) attempt.url =
        .ok answer.prepared ∧
      answer.prepared.fault? = none ∧
      ∃ next, attempt.transport.exchange = (.answered answer.reply, next) := by
  simp only [Attempt.answer?] at found
  split at found
  · cases found
  · rename_i prepared done
    split at found
    · rename_i reply next faultless outcome
      cases found
      exact ⟨rfl, done, faultless, next, outcome⟩
    · cases found

def answers (defaults : RequestOptions) (attempts : List Attempt) : List Answer :=
  attempts.filterMap (Attempt.answer? defaults)

namespace Transport

/-- The replies that are given between two states of who answers: those among the entries
that are gone from the script. -/
inductive Yields : Transport → List Reply → Transport → Prop where
  | offline : Yields .offline [] .offline
  | scripted (taken remaining : List (Option Reply)) :
      Yields (.scripted (taken ++ remaining)) (taken.filterMap id) (.scripted remaining)

theorem Yields.nothing (transport : Transport) : transport.Yields [] transport := by
  cases transport with
  | offline => exact .offline
  | scripted script => exact .scripted [] script

theorem Yields.trans {before between after : Transport} {earlier later : List Reply}
    (first : before.Yields earlier between) (second : between.Yields later after) :
    before.Yields (earlier ++ later) after := by
  cases first with
  | offline =>
      cases second
      exact .offline
  | scripted taken =>
      cases second with
      | scripted more remaining =>
          have both := Yields.scripted (taken ++ more) remaining
          rwa [List.filterMap_append, List.append_assoc] at both

/-- What a request is answered with is the reply that it takes from the script. -/
theorem exchange_yields {transport next : Transport} {exchanged : Exchange}
    (outcome : transport.exchange = (exchanged, next)) :
    transport.Yields
      (match exchanged with
        | .answered reply => [reply]
        | .unreached | .unanswered => []) next := by
  cases transport with
  | offline =>
      cases outcome
      exact .offline
  | scripted script =>
      rcases script with _ | ⟨_ | reply, rest⟩ <;> cases outcome
      · exact .nothing _
      · exact .scripted [none] rest
      · exact .scripted [some reply] rest

end Transport

/-- The accounts of the requests of a call are settled: what was published, counted,
raised and taken from the other side is what was answered. -/
structure Accounted (defaults : RequestOptions) (stats : Option StatsContext)
    (before : Transport) (attempts : List Attempt) (events : List Event)
    (after : Transport) : Prop where
  /-- The responses that were received are published, one each and in order. -/
  published : publishedResponses events =
    (answers defaults attempts).map Answer.response
  /-- They are counted, one each and in order, for those who count. -/
  counted : requestCounts events =
    match stats with
    | none => []
    | some context => (answers defaults attempts).map fun answer => answer.count context
  /-- A response is handed to the caller, or raised with its request and options. -/
  answered : ∀ attempt answer, attempt ∈ attempts →
    attempt.answer? defaults = some answer →
      (answer.Raised → attempt.result = .error (.http answer.response)) ∧
        (¬ answer.Raised → attempt.result = .ok answer.response)
  /-- Without a response the request is at fault, or has none. -/
  unanswered : ∀ attempt, attempt ∈ attempts → attempt.answer? defaults = none →
    (∃ fault, attempt.result = .error (.invalidRequest fault)) ∨
      ∃ fault, attempt.result = .error (.request fault)
  /-- Each reply that is gone from the script has been received once. -/
  consumed : before.Yields ((answers defaults attempts).map Answer.reply) after

@[simp] theorem publishedResponses_append (earlier later : List Event) :
    publishedResponses (earlier ++ later) =
      publishedResponses earlier ++ publishedResponses later :=
  List.filterMap_append

@[simp] theorem requestCounts_append (earlier later : List Event) :
    requestCounts (earlier ++ later) = requestCounts earlier ++ requestCounts later := by
  simp [requestCounts]

@[simp] theorem answers_append (defaults : RequestOptions)
    (earlier later : List Attempt) :
    answers defaults (earlier ++ later) =
      answers defaults earlier ++ answers defaults later :=
  List.filterMap_append

namespace Accounted

variable {defaults : RequestOptions} {stats : Option StatsContext}
  {before between after : Transport} {attempts laterAttempts : List Attempt}
  {events laterEvents : List Event}

/-- Without requests the accounts are settled by events that tell of none. -/
theorem nil (unpublished : publishedResponses events = [])
    (uncounted : requestCounts events = []) :
    Accounted defaults stats before [] events before where
  published := unpublished
  counted := by
    rw [uncounted]
    cases stats <;> rfl
  answered := by
    intro attempt answer member
    simp at member
  unanswered := by
    intro attempt member
    simp at member
  consumed := .nothing before

/-- Settled accounts can be put together. -/
theorem append
    (earlier : Accounted defaults stats before attempts events between)
    (later : Accounted defaults stats between laterAttempts laterEvents after) :
    Accounted defaults stats before (attempts ++ laterAttempts)
      (events ++ laterEvents) after where
  published := by
    simp [earlier.published, later.published]
  counted := by
    rw [requestCounts_append, earlier.counted, later.counted]
    cases stats <;> simp
  answered := by
    intro attempt answer member
    rcases List.mem_append.mp member with first | second
    · exact earlier.answered attempt answer first
    · exact later.answered attempt answer second
  unanswered := by
    intro attempt member
    rcases List.mem_append.mp member with first | second
    · exact earlier.unanswered attempt first
    · exact later.unanswered attempt second
  consumed := by
    rw [answers_append, List.map_append]
    exact earlier.consumed.trans later.consumed

/-- A request without an answer leaves settled accounts if it is neither published nor
counted. -/
theorem failed {url : String} {options : RequestOptions} {transport : Transport}
    {result : Except ActionError Response}
    (unanswered : Attempt.answer? defaults ⟨url, options, transport, result⟩ = none)
    (blamed : (∃ fault, result = .error (.invalidRequest fault)) ∨
      ∃ fault, result = .error (.request fault))
    (unpublished : publishedResponses events = [])
    (uncounted : requestCounts events = []) (silent : transport.Yields [] after) :
    Accounted defaults stats transport [⟨url, options, transport, result⟩] events
      after where
  published := by
    simp [unpublished, answers, unanswered]
  counted := by
    rw [uncounted]
    cases stats <;> simp [answers, unanswered]
  answered := by
    intro other answer member found
    rw [List.mem_singleton.mp member, unanswered] at found
    cases found
  unanswered := by
    intro other member _
    rw [List.mem_singleton.mp member]
    exact blamed
  consumed := by
    simpa [answers, unanswered] using silent

end Accounted

namespace Client

variable {client : Client}

theorem requestCounts_metrics (status : UInt16) :
    requestCounts (client.metrics status) =
      match client.stats with
      | none => []
      | some context =>
          [.count "http_request" 1
            (context.tags ++ ["status:" ++ toString status.toNat])] := by
  cases known : client.stats with
  | none => simp [metrics, known, requestCounts]
  | some context =>
      simp [metrics, known, requestCounts, measurements, StatsContext.tag,
        Metric.isRequestCount]

private theorem publishedResponses_metrics (status : UInt16) :
    publishedResponses (client.metrics status) = [] := by
  cases known : client.stats <;> simp [metrics, known, publishedResponses]

/-- A response that is raised goes to the caller as an error, any other one as it is. -/
theorem conclude_eq (options : RequestOptions) (response : Response) :
    (options.Raises response → conclude options response = .error (.http response)) ∧
      (¬ options.Raises response → conclude options response = .ok response) := by
  have success : response.ok = true ↔
      200 ≤ response.status.toNat ∧ response.status.toNat < 300 := by
    simp [Response.ok, UInt16.le_iff_toNat_le, UInt16.lt_iff_toNat_lt]
  have throws : options.throwHttpErrors.getD true = true ↔
      options.throwHttpErrors ≠ some false := by
    rcases options.throwHttpErrors with _ | throws
    · simp
    · cases throws <;> simp
  unfold conclude RequestOptions.Raises
  rw [← success, ← throws]
  cases response.ok <;> cases options.throwHttpErrors.getD true <;> simp

private theorem receive_eq (publishing : client.hooks = [Hook.publish]) (answer : Answer)
    (layered : answer.prepared.options = answer.options) :
    client.receive answer.prepared (answer.reply.toResponse answer.prepared.askedUrl) =
      (conclude answer.options answer.response,
        client.metrics answer.reply.status ++ [.published answer.response]) := by
  simp only [receive, publishing, Hook.pipeline, Hook.publish, layered, List.append_nil]
  rfl

theorem answered_accounted {url : String} {options : RequestOptions}
    {transport next : Transport} {answer : Answer}
    (given : transport.Yields [answer.reply] next)
    (found : Attempt.answer? client.defaults ⟨url, options, transport,
      conclude answer.options answer.response⟩ = some answer) :
    Accounted client.defaults client.stats transport
      [⟨url, options, transport, conclude answer.options answer.response⟩]
      (.sent answer.prepared.message ::
        (client.metrics answer.reply.status ++ [.published answer.response]))
      next where
  published := by
    have apart := client.publishedResponses_metrics answer.reply.status
    rw [← List.singleton_append, publishedResponses_append, publishedResponses_append, apart]
    simp [publishedResponses, answers, found]
  counted := by
    have counts := client.requestCounts_metrics answer.reply.status
    rw [← List.singleton_append, requestCounts_append, requestCounts_append, counts]
    cases client.stats <;>
      simp [requestCounts, measurements, answers, found, Answer.count]
  answered := by
    intro other another member same
    obtain rfl := List.mem_singleton.mp member
    obtain rfl := Option.some.inj (found.symm.trans same)
    exact conclude_eq answer.options answer.response
  unanswered := by
    intro other member none
    rw [List.mem_singleton.mp member, found] at none
    cases none
  consumed := by
    simpa [answers, found] using given

theorem send_accounted (publishing : client.hooks = [Hook.publish]) (url : String)
    (options : RequestOptions) (transport : Transport) :
    let sending := client.send url options transport
    Accounted client.defaults client.stats transport
      [⟨url, options, transport, sending.result⟩] sending.events sending.transport := by
  cases prepared? : PreparedRequest.prepare (client.defaults.merge options) url with
  | error fault =>
      simp only [send, prepared?]
      refine Accounted.failed ?_ (.inl ⟨fault, rfl⟩) rfl rfl (.nothing transport)
      simp [Attempt.answer?, prepared?]
  | ok prepared =>
      cases fault? : prepared.fault? with
      | some fault =>
          simp only [send, prepared?, fault?]
          refine Accounted.failed ?_ (.inr ⟨fault, rfl⟩) rfl rfl (.nothing transport)
          simp [Attempt.answer?, prepared?, fault?]
      | none =>
          cases outcome : transport.exchange with
          | mk exchanged next =>
              have yields := Transport.exchange_yields outcome
              cases exchanged with
              | unreached =>
                  simp only [send, prepared?, fault?, outcome]
                  refine Accounted.failed ?_ (.inr ⟨_, rfl⟩) rfl rfl yields
                  simp [Attempt.answer?, prepared?, fault?, outcome]
              | unanswered =>
                  simp only [send, prepared?, fault?, outcome]
                  refine Accounted.failed ?_ (.inr ⟨_, rfl⟩) rfl rfl yields
                  simp [Attempt.answer?, prepared?, fault?, outcome]
              | answered reply =>
                  have received := client.receive_eq publishing
                    ⟨client.defaults.merge options, prepared, reply⟩
                    (PreparedRequest.options_of_prepare prepared?)
                  simp only [send, prepared?, fault?, outcome, received]
                  apply answered_accounted yields
                  simp [Attempt.answer?, prepared?, fault?, outcome]

end Client

namespace Program

variable {α : Type}

def attempts (client : Client) : Program α → World → List Attempt
  | .done _, _ => []
  | .request url options next, world =>
      let sending := client.send url options world.transport
      ⟨url, options, world.transport, sending.result⟩ ::
        (next sending.result).attempts client
          { world with transport := sending.transport }
  | .perform effect next, world => next.attempts client (effect.change world)
  | .readTransaction next, world => (next world.transaction).attempts client world

/-- Along every run the accounts of the requests are settled. -/
theorem run_accounted {client : Client} (publishing : client.hooks = [Hook.publish])
    (program : Program α) (world : World) :
    Accounted client.defaults client.stats world.transport
      (program.attempts client world) (program.run client world).events
      (program.run client world).world.transport := by
  induction program generalizing world with
  | done result => exact .nil rfl rfl
  | request url options next induction =>
      let sending := client.send url options world.transport
      have here := client.send_accounted publishing url options world.transport
      have later := induction sending.result { world with transport := sending.transport }
      exact here.append later
  | perform effect next induction =>
      -- an effect may change the transaction, never who answers
      have unchanged : (effect.change world).transport = world.transport := by
        cases effect <;> rfl
      have silent : Accounted client.defaults client.stats world.transport []
          [.did effect] world.transport := .nil rfl rfl
      have later := induction (effect.change world)
      rw [unchanged] at later
      exact silent.append later
  | readTransaction next induction => exact induction _ _

end Program

end EventDelivery
