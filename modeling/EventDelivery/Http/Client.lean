import EventDelivery.Http.Transport
import EventDelivery.Trace
/-!
# Sending requests

A client layers the options of a request over its own, sends it, counts the response, hands the
response through its hooks, and turns what is left without success into an error.
-/

namespace EventDelivery

/-- What happens to a response before the caller sees it. -/
abbrev Hook := RequestRecord → RequestOptions → Response → Response × List Event

namespace Hook

/-- Attaches request and options to the response. -/
def attach : Hook := fun request options response =>
  ({ response with request := some request, options := some options }, [])

def note : Hook := fun request options response => (response, [.noted request options response])

def replaceStatus (status : UInt16) : Hook := fun _ _ response => ({ response with status }, [])

/-- Attaches request and options, and publishes the response. -/
def publish : Hook := fun request options response =>
  let attached := { response with request := some request, options := some options }
  (attached, [.published attached])

/-- Hands a response through hooks in turn. -/
def pipeline (request : RequestRecord) (options : RequestOptions) :
    List Hook → Response → Response × List Event
  | [], response => (response, [])
  | hook :: rest, response =>
    let (changed, events) := hook request options response
    let (final, later) := pipeline request options rest changed
    (final, events ++ later)

end Hook

/-- A client of one call. -/
structure Client where
  /-- The options below those of every request. -/
  defaults : RequestOptions := {}
  hooks : List Hook := []
  stats : Option StatsContext := none

/-- The outcome of a request: the result, who answers the next one, and what was seen. -/
structure Sending where
  result : Except ActionError Response
  transport : Transport
  events : List Event

namespace Client

/-- The metrics of a response that was received. -/
def metrics (client : Client) (status : UInt16) : List Event :=
  match client.stats with
  | none => []
  | some context =>
    [.measured (context.tag (.count "http_request" 1 ["status:" ++ toString status.toNat])),
      .measured (context.tag (.sample "http_request.duration" none []))]

/-- What the caller sees of a response. -/
def conclude (options : RequestOptions) (response : Response) : Except ActionError Response :=
  if !response.ok && options.throwHttpErrors.getD true then .error (.http response)
  else .ok response

/-- Hands a received response to counter and hooks. -/
def receive (client : Client) (prepared : PreparedRequest) (response : Response) :
    Except ActionError Response × List Event :=
  let (final, events) :=
    Hook.pipeline prepared.record prepared.options client.hooks response
  (conclude prepared.options final, client.metrics response.status ++ events)

/-- Sends a request. -/
def send (client : Client) (url : String) (options : RequestOptions) (transport : Transport) :
    Sending :=
  match PreparedRequest.prepare (client.defaults.merge options) url with
  | .error fault => ⟨.error (.invalidRequest fault), transport, []⟩
  | .ok prepared =>
    match prepared.fault? with
    | some fault => ⟨.error (.request fault), transport, []⟩
    | none =>
      let asked := prepared.askedUrl.toText
      match transport.exchange with
      | (.unreached, next) => ⟨.error (.request (.unreached asked)), next, []⟩
      | (.unanswered, next) =>
        ⟨.error (.request (.unanswered asked)), next, [.sent prepared.message]⟩
      | (.answered reply, next) =>
        let (result, events) := client.receive prepared (reply.toResponse prepared.askedUrl)
        ⟨result, next, .sent prepared.message :: events⟩

end Client

end EventDelivery
