import EventDelivery.Proofs.RequestAnswers

/-!
# The hooks behind a response

Hooks take turns: each is handed what the one before it returned, together with the
request and its options, which stay the same.  The response that is received is the one
that is counted, and the one that the last hook returns decides how the request ends.
-/

namespace EventDelivery

/-- A turn of a hook. -/
structure Hook.Turn where
  /-- What the hook was handed. -/
  given : Response
  returned : Response
  /-- What was seen of the hook. -/
  events : List Event

/-- Each hook takes one turn, in order, from the response that was received to the one
that is left. -/
structure Hook.InTurn (request : RequestRecord) (options : RequestOptions)
    (hooks : List Hook) (received : Response) (turns : List Hook.Turn)
    (last : Response) : Prop where
  once : turns.length = hooks.length
  /-- A hook takes the turn at its own position, always with the same request and
  options. -/
  run : ∀ (position : Nat) hook turn, hooks[position]? = some hook →
    turns[position]? = some turn →
    hook request options turn.given = (turn.returned, turn.events)
  first : ∀ turn, turns[0]? = some turn → turn.given = received
  next : ∀ (position : Nat) earlier later, turns[position]? = some earlier →
    turns[position + 1]? = some later → later.given = earlier.returned
  last : last = (turns.getLast?.map Hook.Turn.returned).getD received

namespace Hook

variable {request : RequestRecord} {options : RequestOptions}

theorem InTurn.nil (received : Response) :
    InTurn request options [] received [] received where
  once := rfl
  run := by simp
  first := by simp
  next := by simp
  last := rfl

theorem InTurn.cons {hooks : List Hook} {turns : List Turn} {turn : Turn}
    {last : Response} (hook : Hook)
    (ran : hook request options turn.given = (turn.returned, turn.events))
    (others : InTurn request options hooks turn.returned turns last) :
    InTurn request options (hook :: hooks) turn.given (turn :: turns) last where
  once := congrArg (· + 1) others.once
  run := by
    intro position other at_ found ranAt
    cases position with
    | zero =>
        cases found
        cases ranAt
        exact ran
    | succ before => exact others.run before other at_ found ranAt
  first := by
    intro other found
    cases found
    rfl
  next := by
    intro position earlier later found foundNext
    cases position with
    | zero =>
        cases found
        exact others.first later foundNext
    | succ before => exact others.next before earlier later found foundNext
  last := by
    rw [others.last, List.getLast?_cons]
    cases turns.getLast? <;> rfl

theorem exists_inTurn (request : RequestRecord) (options : RequestOptions)
    (hooks : List Hook) (received : Response) :
    ∃ turns, InTurn request options hooks received turns
        (pipeline request options hooks received).1 ∧
      (pipeline request options hooks received).2 = turns.flatMap Turn.events := by
  induction hooks generalizing received with
  | nil => exact ⟨[], .nil received, rfl⟩
  | cons hook rest induction =>
      obtain ⟨turns, others, seen⟩ := induction (hook request options received).1
      let turn : Turn :=
        ⟨received, (hook request options received).1, (hook request options received).2⟩
      have ran : hook request options turn.given = (turn.returned, turn.events) := rfl
      refine ⟨turn :: turns, .cons hook ran others, ?_⟩
      rw [pipeline, List.flatMap_cons, ← seen]

end Hook

def Answer.received (answer : Answer) : Response :=
  answer.reply.toResponse answer.prepared.askedUrl

/-- What becomes of a request that is answered. -/
structure Client.Settles (client : Client) (answer : Answer) (sending : Sending)
    (turns : List Hook.Turn) (last : Response) : Prop where
  /-- All hooks see the record of the request and the options of all layers. -/
  inTurn : Hook.InTurn answer.prepared.record answer.options client.hooks answer.received
    turns last
  /-- The metrics are those of the response that was received, whatever hooks make of
  it. -/
  events : sending.events =
    .sent answer.prepared.message ::
      (client.metrics answer.received.status ++ turns.flatMap Hook.Turn.events)
  counted : requestCounts (client.metrics answer.received.status) =
    match client.stats with
    | none => []
    | some context =>
        [.count "http_request" 1
          (context.tags ++ ["status:" ++ toString answer.received.status.toNat])]
  /-- What the last hook returned is raised with its own status. -/
  raised : answer.options.Raises last →
    ∃ error, sending.result = .error error ∧ error = .http last ∧
      error.code = "HTTPError" ∧ error.status = some last.status
  returned : ¬ answer.options.Raises last → sending.result = .ok last

/-- What becomes of a request that is not answered, whatever the hooks are. -/
structure Client.GoesUnanswered (client : Client) (url : String) (options : RequestOptions)
    (transport : Transport) : Prop where
  hookless : ∀ hooks, ({ client with hooks } : Client).send url options transport =
    client.send url options transport
  events : (client.send url options transport).events = [] ∨
    ∃ message, (client.send url options transport).events = [.sent message]
  failed : (∃ fault,
      (client.send url options transport).result = .error (.invalidRequest fault)) ∨
    ∃ fault, (client.send url options transport).result = .error (.request fault)

namespace Client

variable {client : Client} {url : String} {options : RequestOptions}
  {transport : Transport}

theorem send_of_answer {result : Except ActionError Response} {answer : Answer}
    (found : Attempt.answer? client.defaults ⟨url, options, transport, result⟩ =
      some answer) :
    let passed := Hook.pipeline answer.prepared.record answer.options client.hooks
      answer.received
    (client.send url options transport).result = conclude answer.options passed.1 ∧
      (client.send url options transport).events =
        .sent answer.prepared.message ::
          (client.metrics answer.received.status ++ passed.2) := by
  obtain ⟨layered, done, faultless, next, outcome⟩ := Attempt.answer?_eq_some found
  have same : answer.prepared.options = answer.options :=
    (PreparedRequest.options_of_prepare done).trans layered.symm
  simp only [send, done, faultless, outcome, receive, same]
  exact ⟨rfl, rfl⟩

theorem settles_of_answer {result : Except ActionError Response} {answer : Answer}
    (found : Attempt.answer? client.defaults ⟨url, options, transport, result⟩ =
      some answer) :
    ∃ turns last, client.Settles answer (client.send url options transport) turns last := by
  obtain ⟨concluded, traced⟩ := send_of_answer found
  obtain ⟨turns, inTurn, seen⟩ := Hook.exists_inTurn answer.prepared.record
    answer.options client.hooks answer.received
  obtain ⟨raises, returns⟩ := conclude_eq answer.options
    (Hook.pipeline answer.prepared.record answer.options client.hooks answer.received).1
  refine ⟨turns, _, inTurn, ?_, client.requestCounts_metrics _, ?_, ?_⟩
  · rw [traced, seen]
  · intro raised
    exact ⟨_, concluded.trans (raises raised), rfl, rfl, rfl⟩
  · intro returned
    exact concluded.trans (returns returned)

theorem GoesUnanswered.of_send_eq {sending : Sending}
    (ends : ∀ hooks, ({ client with hooks } : Client).send url options transport = sending)
    (events : sending.events = [] ∨ ∃ message, sending.events = [.sent message])
    (failed : (∃ fault, sending.result = .error (.invalidRequest fault)) ∨
      ∃ fault, sending.result = .error (.request fault)) :
    client.GoesUnanswered url options transport := by
  have own : client.send url options transport = sending := ends client.hooks
  constructor
  · intro hooks
    exact (ends hooks).trans own.symm
  · exact own ▸ events
  · exact own ▸ failed

theorem goesUnanswered_of_no_answer {result : Except ActionError Response}
    (silent : Attempt.answer? client.defaults ⟨url, options, transport, result⟩ = none) :
    client.GoesUnanswered url options transport := by
  cases done : PreparedRequest.prepare (client.defaults.merge options) url with
  | error fault =>
      have ends : ∀ hooks, ({ client with hooks } : Client).send url options transport =
          ⟨.error (.invalidRequest fault), transport, []⟩ := by
        intro hooks
        simp only [send, done]
      exact .of_send_eq ends (.inl rfl) (.inl ⟨fault, rfl⟩)
  | ok prepared =>
      cases blamed : prepared.fault? with
      | some fault =>
          have ends : ∀ hooks, ({ client with hooks } : Client).send url options transport =
              ⟨.error (.request fault), transport, []⟩ := by
            intro hooks
            simp only [send, done, blamed]
          exact .of_send_eq ends (.inl rfl) (.inr ⟨fault, rfl⟩)
      | none =>
          cases outcome : transport.exchange with
          | mk exchanged next =>
              let asked := prepared.askedUrl.toText
              cases exchanged with
              | unreached =>
                  have ends : ∀ hooks,
                      ({ client with hooks } : Client).send url options transport =
                        ⟨.error (.request (.unreached asked)), next, []⟩ := by
                    intro hooks
                    simp only [send, done, blamed, outcome, asked]
                  exact .of_send_eq ends (.inl rfl) (.inr ⟨_, rfl⟩)
              | unanswered =>
                  have ends : ∀ hooks,
                      ({ client with hooks } : Client).send url options transport =
                        ⟨.error (.request (.unanswered asked)), next,
                          [.sent prepared.message]⟩ := by
                    intro hooks
                    simp only [send, done, blamed, outcome, asked]
                  exact .of_send_eq ends (.inr ⟨_, rfl⟩) (.inr ⟨_, rfl⟩)
              | answered reply =>
                  simp [Attempt.answer?, done, blamed, outcome] at silent

/-- An answered request counts the response that was received, hands it from hook to
hook, and ends as the response says that is left; of one that is not answered no hook
learns. -/
theorem hooks_decide_outcome (client : Client) (url : String) (options : RequestOptions)
    (transport : Transport) :
    let sending := client.send url options transport
    let attempt : Attempt := ⟨url, options, transport, sending.result⟩
    (∀ answer, attempt.answer? client.defaults = some answer →
      answer.options = client.defaults.merge options ∧
        ∃ turns last, client.Settles answer sending turns last) ∧
    (attempt.answer? client.defaults = none →
      client.GoesUnanswered url options transport) := by
  refine ⟨?_, goesUnanswered_of_no_answer⟩
  intro answer found
  exact ⟨(Attempt.answer?_eq_some found).1, settles_of_answer found⟩

/-- A client that notes responses, has them fail, and attaches what they answer. -/
def failingClient : Client where
  hooks := [.note, .replaceStatus 503, .attach]
  stats := some ⟨["team:kit"]⟩

/-- A request of this client that is answered with success. -/
def failingSending : Sending :=
  failingClient.send "http://[::1]/in" {} (.scripted [some ⟨200, [], []⟩])

/-- A success that a hook has turned into a failure is raised, and counted as a
success. -/
theorem failingClient_raises_replaced_status :
    ∃ answer turns last,
      Attempt.answer? failingClient.defaults
          ⟨"http://[::1]/in", {}, .scripted [some ⟨200, [], []⟩], failingSending.result⟩ =
        some answer ∧
      failingClient.Settles answer failingSending turns last ∧ turns.length = 3 ∧
      answer.received.status = 200 ∧ last.status = 503 ∧
      requestCounts (failingClient.metrics answer.received.status) =
        [.count "http_request" 1 ["team:kit", "status:200"]] := by
  have answered : (Attempt.answer? failingClient.defaults
      ⟨"http://[::1]/in", {}, .scripted [some ⟨200, [], []⟩], failingSending.result⟩).map
        (fun answer => answer.received.status) = some 200 := rfl
  obtain ⟨answer, found, status⟩ := Option.map_eq_some_iff.mp answered
  obtain ⟨_, turns, last, settles⟩ :=
    (hooks_decide_outcome failingClient "http://[::1]/in" {} (.scripted [some ⟨200, [], []⟩])).1
      answer found
  have replaced : ∃ response, failingSending.result = .error (.http response) ∧
      response.status = 503 := ⟨_, rfl, rfl⟩
  obtain ⟨response, ended, replacedStatus⟩ := replaced
  have same : last = response := by
    by_cases raises : answer.options.Raises last
    · obtain ⟨_, failed, rfl, _⟩ := settles.raised raises
      exact ActionError.http.inj (Except.error.inj (failed.symm.trans ended))
    · cases (settles.returned raises).symm.trans ended
  have counted := settles.counted
  rw [status] at counted
  refine ⟨answer, turns, last, found, settles, settles.inTurn.once, status,
    same ▸ replacedStatus, ?_⟩
  rw [status]
  exact counted

end Client

end EventDelivery
