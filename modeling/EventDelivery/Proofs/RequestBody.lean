import EventDelivery.Http.Client
import EventDelivery.Proofs.RequestPreparation

/-!
# The body of a request

Options are layered before the body is chosen, and a JSON body is preferred to one
that is sent as it is.  So a JSON body of the request itself is always sent; its plain
body is, unless the options below it hold a JSON one.
-/

namespace EventDelivery

namespace RequestOptions

theorem mem_merge_headers (lower upper : RequestOptions) {header : String × String}
    (member : header ∈ (merge {} upper).headers.entries) :
    header ∈ (merge lower upper).headers.entries := by
  obtain ⟨name, value⟩ := header
  have found := (Assoc.get?_eq_some_iff (merge {} upper).headers.sorted).mpr member
  apply Assoc.mem_of_get?_eq_some
  have nothing : Assoc.last? name (lowerHeaders ({} : RequestOptions).headers) = none := rfl
  rw [get?_merge_headers, nothing, Option.or_none] at found
  rw [get?_merge_headers, found, Option.some_or]

end RequestOptions

namespace PreparedRequest

theorem fault?_asking_of_merge {lower upper : RequestOptions} {parsed : Url}
    (faultless : (asking (lower.merge upper) parsed).fault? = none) :
    (asking (RequestOptions.merge {} upper) parsed).fault? = none := by
  obtain ⟨hosted, sendable, web, plain⟩ := fault?_eq_none_iff.mp faultless
  apply fault?_eq_none_iff.mpr
  refine ⟨?_, ?_, ?_, ?_⟩
  · simpa [hasHost, asking] using hosted
  · intro header member
    rcases RequestOptions.mem_of_mem_wireHeaders member with own | rfl
    · have layered := RequestOptions.mem_merge_headers lower upper own
      exact sendable header (RequestOptions.mem_wireHeaders_of_mem layered)
    · decide
  · simpa [asking] using web
  · simpa [hasPlainHost, asking] using plain

end PreparedRequest

theorem Transport.exchange_scripted_ne_unreached (script : List (Option Reply)) :
    (Transport.scripted script).exchange.1 ≠ .unreached := by
  rcases script with _ | ⟨_ | reply, rest⟩ <;> simp [exchange]

namespace Client

/-- The message of a request reaches the wire: it is the first that is seen of it. -/
def Sends (client : Client) (url : String) (options : RequestOptions)
    (transport : Transport) (message : Message) : Prop :=
  (client.send url options transport).events.head? = some (.sent message)

variable {client : Client} {url : String} {options : RequestOptions}
  {transport : Transport} {message : Message}

theorem sends_iff :
    client.Sends url options transport message ↔
      ∃ prepared,
        PreparedRequest.prepare (client.defaults.merge options) url = .ok prepared ∧
        prepared.fault? = none ∧
        transport.exchange.1 ≠ .unreached ∧
        prepared.message = message := by
  unfold Sends
  cases done : PreparedRequest.prepare (client.defaults.merge options) url with
  | error fault => simp [send, done]
  | ok prepared =>
      simp only [Except.ok.injEq, exists_eq_left']
      cases blamed : prepared.fault? with
      | some fault => simp [send, done, blamed]
      | none =>
          cases outcome : transport.exchange with
          | mk exchanged next => cases exchanged <;> simp [send, done, blamed, outcome]

theorem body_of_sends (sends : client.Sends url options transport message) :
    message.body = (client.defaults.merge options).wireBody?.getD "" := by
  obtain ⟨prepared, done, _, _, rfl⟩ := sends_iff.mp sends
  exact (PreparedRequest.message_of_prepare done).2

/-- What is sent over defaults is sent without them as well, though it may be another
message. -/
theorem exists_sends_without_defaults
    (sends : client.Sends url options transport message) :
    ∃ plain, ({ client with defaults := {} } : Client).Sends url options transport plain := by
  obtain ⟨prepared, done, faultless, reached, _⟩ := sends_iff.mp sends
  obtain ⟨parsed, read, token, rfl⟩ := PreparedRequest.prepare_eq_ok_iff.mp done
  have method : isToken (Text.upper
      ((RequestOptions.merge {} options).method.getD "GET")) = true := by
    cases given : options.method with
    | none =>
        simp only [RequestOptions.merge, given]
        decide
    | some name => simpa [RequestOptions.merge, given] using token
  exact ⟨_, sends_iff.mpr ⟨_, PreparedRequest.prepare_eq_ok_iff.mpr
    ⟨parsed, read, method, rfl⟩, PreparedRequest.fault?_asking_of_merge faultless,
    reached, rfl⟩⟩

/-- A request with a body that reaches the wire has the body that it has without
defaults, if that is a JSON body or the defaults hold none.  Below a plain body a JSON
one of the defaults is sent. -/
theorem body_of_request_sent
    (given : options.json ≠ none ∨ options.body ≠ none)
    (sends : client.Sends url options transport message) :
    (options.json ≠ none ∨ client.defaults.json = none →
      ∃ plain, ({ client with defaults := {} } : Client).Sends url options transport plain ∧
        plain.body = message.body) ∧
    (options.json = none → ∀ json, client.defaults.json = some json →
      message.body = json.compact) := by
  have body := body_of_sends sends
  constructor
  · intro preferred
    obtain ⟨plain, sendsPlain⟩ := exists_sends_without_defaults sends
    refine ⟨plain, sendsPlain, ?_⟩
    rw [body, body_of_sends sendsPlain]
    have same : (RequestOptions.merge {} options).wireBody? =
        (client.defaults.merge options).wireBody? := by
      unfold RequestOptions.wireBody? RequestOptions.merge
      cases own : options.json with
      | some json => simp
      | none =>
          have unset : client.defaults.json = none := by simpa [own] using preferred
          obtain ⟨text, held⟩ : ∃ text, options.body = some text := by
            simpa [own, Option.ne_none_iff_exists'] using given
          simp [unset, held]
    rw [same]
  · intro own json below
    rw [body]
    simp [RequestOptions.wireBody?, RequestOptions.merge, own, below]

def signingClient : Client where
  defaults := { json := some (.arr [.str "signed"]), body := some "signed" }

theorem given_json_sent :
    ∃ message plain, signingClient.Sends "https://[::1]" { json := some (.arr [.null]) }
        (.scripted []) message ∧
      ({ signingClient with defaults := {} } : Client).Sends "https://[::1]"
        { json := some (.arr [.null]) } (.scripted []) plain ∧
      plain.body = message.body ∧ message.body = "[null]" := by
  have sends : signingClient.Sends "https://[::1]" { json := some (.arr [.null]) }
      (.scripted []) _ := rfl
  obtain ⟨plain, sendsPlain, same⟩ :=
    (body_of_request_sent (.inl (by decide)) sends).1 (.inl (by decide))
  exact ⟨_, plain, sends, sendsPlain, same, rfl⟩

/-- A plain body of a request gives way to a JSON one of the defaults. -/
theorem plain_body_gives_way :
    ∃ message plain, signingClient.Sends "https://[::1]" { body := some "hello" }
        (.scripted []) message ∧
      ({ signingClient with defaults := {} } : Client).Sends "https://[::1]"
        { body := some "hello" } (.scripted []) plain ∧
      message.body = "[\"signed\"]" ∧ plain.body = "hello" := by
  exact ⟨_, _, rfl, rfl, rfl, rfl⟩

end Client

end EventDelivery
