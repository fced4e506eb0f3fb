import EventDelivery.Http.Message
import EventDelivery.Http.Status
import EventDelivery.Json.Reader
import EventDelivery.Text.Blank
/-!
# The other side of the wire

Who answers requests: nobody, or a script that says of each request in turn whether it is answered,
and how.
-/

namespace EventDelivery

/-- A reply as it comes over the wire. -/
structure Reply where
  status : UInt16
  /-- Header lines as they come; every character stands for one octet. -/
  headers : List (String × String)
  body : List UInt8
deriving DecidableEq

/-- Who answers requests. -/
inductive Transport where
  /-- Nothing reaches anybody. -/
  | offline
  /-- What is done about the next requests: each is received, and answered if there is a reply for
  it. Once the script is used up, no request is answered. -/
  | scripted (script : List (Option Reply))
deriving DecidableEq

/-- What becomes of a request. -/
inductive Exchange where
  | unreached
  /-- It is received and not answered. -/
  | unanswered
  | answered (reply : Reply)

/-- Sends a request, over a connection of either scheme of the web. -/
def Transport.exchange : Transport → Exchange × Transport
  | .offline => (.unreached, .offline)
  | .scripted [] => (.unanswered, .scripted [])
  | .scripted (none :: rest) => (.unanswered, .scripted rest)
  | .scripted (some reply :: rest) => (.answered reply, .scripted rest)

namespace Reply

/-- Whether the value of a header can be read as text. -/
def isReadable (value : String) : Bool :=
  value.toList.all fun c => c == '\t' || (0x20 ≤ c.toNat && c.toNat ≤ 0x7e)

/-- The headers that can be read; of repeated ones the last stays. -/
def readableHeaders (reply : Reply) : Keyed String :=
  Keyed.ofList ((reply.headers.filter fun header => isReadable header.2).map fun header =>
    (Text.lower header.1, header.2))

/-- The body as text. -/
def content (reply : Reply) : String := String.ofList (Text.decodeUtf8 reply.body)

/-- The value of a body, unless it is blank or not JSON. -/
def data? (content : String) : Option Json :=
  if Text.isAllBlank content then none else Json.parse? content

/-- The response that a reply to a request is. -/
def toResponse (reply : Reply) (asked : Url) : Response :=
  { status := reply.status
    statusText := Status.phrase reply.status
    url := asked.withoutFragment.toText
    headers := reply.readableHeaders
    content := reply.content
    data := data? reply.content }

end Reply

end EventDelivery
