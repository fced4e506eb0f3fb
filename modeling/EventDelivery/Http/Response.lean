import EventDelivery.Http.Options
/-!
# Responses

What a partner answered, together with the request it answers, and what remains of it for the
caller.
-/

namespace EventDelivery

/-- What was sent. -/
structure RequestRecord where
  method : String
  url : String
  headers : Keyed String
  body : Option String
deriving DecidableEq, Inhabited

/-- A response that has been read completely. -/
structure Response where
  status : UInt16
  /-- The usual phrase for the status, empty when there is none. -/
  statusText : String
  url : String
  headers : Keyed String
  content : String
  /-- The content as a value, when it is JSON. -/
  data : Option Json := none
  /-- The request, once it has been attached. -/
  request : Option RequestRecord := none
  /-- The options of the request, once they have been attached. -/
  options : Option RequestOptions := none
deriving DecidableEq, Inhabited

namespace Response

/-- Whether the status is one of success. -/
def ok (response : Response) : Bool :=
  200 ≤ response.status && response.status < 300

/-- The status in words, or in digits when there are no words. -/
def reason (response : Response) : String :=
  if response.statusText.isEmpty then toString response.status.toNat else response.statusText

end Response

namespace RequestRecord

/-- The record that sent requests are given as. -/
def record : Record := ⟨"RequestRecord", ["method", "url", "headers", "body"]⟩

def ofJson : Json → Decoded RequestRecord :=
  record.decode fun source =>
    RequestRecord.mk
    <$> record.required source "method" Wire.text
    <*> record.required source "url" Wire.text
    <*> record.required source "headers" (Wire.keyed Wire.text)
    <*> record.optional source "body" none (Wire.nullable Wire.text)

def toJson (request : RequestRecord) : Json :=
  .ofMembers <|
    [("method", .str request.method),
      ("url", .str request.url),
      ("headers", RequestOptions.textsJson request.headers)] ++
    Record.present "body" (request.body.map .str)

end RequestRecord

namespace Response

/-- The record that responses are given as. -/
def record : Record :=
  ⟨"Response", ["status", "status_text", "url", "headers", "content", "data", "request",
    "options"]⟩

def ofJson : Json → Decoded Response :=
  record.decode fun source =>
    Response.mk
    <$> record.required source "status" Wire.word16
    <*> record.required source "status_text" Wire.text
    <*> record.required source "url" Wire.text
    <*> record.required source "headers" (Wire.keyed Wire.text)
    <*> record.required source "content" Wire.text
    <*> record.optional source "data" none (Wire.nullable Wire.any)
    <*> record.optional source "request" none (Wire.nullable RequestRecord.ofJson)
    <*> record.optional source "options" none (Wire.nullable RequestOptions.ofJson)

def toJson (response : Response) : Json :=
  .ofMembers <|
    [("status", .ofNat response.status.toNat),
      ("status_text", .str response.statusText),
      ("url", .str response.url),
      ("headers", RequestOptions.textsJson response.headers),
      ("content", .str response.content)] ++
    Record.present "data" response.data ++
    Record.present "request" (response.request.map RequestRecord.toJson) ++
    Record.present "options" (response.options.map RequestOptions.toJson)

end Response

/-- What a perform function gives back. -/
inductive PerformOutput where
  /-- The response of a partner. -/
  | answer (response : Response)
  /-- A value of its own. -/
  | data (value : Json)

/-- The value that is left for the caller: the data of a response, its content when there is no data
or only null, and any other value as it is. -/
def PerformOutput.normalize : PerformOutput → Json
  | .answer response =>
    match response.data with
    | some .null | none => .str response.content
    | some value => value
  | .data value => value

end EventDelivery
