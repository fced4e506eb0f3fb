import EventDelivery.Action.Execute
import EventDelivery.Field.Wire
/-!
# The webhook

Delivers payloads as JSON to a URL of the settings: an event as an object, a list of events as an
array.
-/

namespace EventDelivery

/-- The settings of a webhook. -/
structure WebhookSettings where
  url : String
  method : Option String := none
  headers : Keyed String := ∅
deriving DecidableEq

namespace WebhookSettings

/-- The record that settings are given as. -/
def record : Record := ⟨"WebhookSettings", ["url", "method", "headers"]⟩

def ofJson : Json → Decoded WebhookSettings :=
  record.decode fun source =>
    WebhookSettings.mk
    <$> record.required source "url" Wire.text
    <*> record.optional source "method" none (Wire.nullable Wire.text)
    <*> record.optional source "headers" ∅ (Wire.keyed Wire.text)

def toJson (settings : WebhookSettings) : Json :=
  .ofMembers [("url", .str settings.url), ("method", .ofOption (settings.method.map .str)),
    ("headers", RequestOptions.textsJson settings.headers)]

def usedMethod (settings : WebhookSettings) : String := settings.method.getD "POST"

end WebhookSettings

namespace Webhook

def name : String := "webhook"

/-- The options of all requests: the bearer of the access token, and over it the headers of the
settings, when these can be decoded. -/
def extension : Extension := fun input =>
  let start : RequestOptions :=
    match input.auth with
    | some tokens => RequestOptions.setHeader "authorization" ("Bearer " ++ tokens.accessToken) {}
    | none => {}
  match WebhookSettings.ofJson input.settings with
  | .ok settings =>
    settings.headers.entries.foldl
      (fun options header => options.setHeader header.1 header.2) start
  | .error _ => start

/-- The fields of an action that declares none: the whole event. -/
def defaultFields : FieldMap :=
  [("data", (((Field.new "Data" .object).describe "Payload to deliver to the webhook.").require
    |>.startWith (.obj [("@path", .str "$")])))]

/-- Delivers a body; a dry run only says what would be delivered. -/
def deliver (dryRun : Bool) (settings : Json) (body : Json) :
    Program (Except ActionError PerformOutput) :=
  match WebhookSettings.ofJson settings with
  | .error fault => .done (.error (.payload fault))
  | .ok settings =>
    if dryRun then
      .done (.ok (.data (.ofMembers [("url", .str settings.url),
        ("method", .str settings.usedMethod), ("body", body)])))
    else do
      let response ← Program.fetch settings.url
        (RequestOptions.setJson body (RequestOptions.setMethod settings.usedMethod {}))
      return response.map .answer

def sendAction (title description : String) (fields : FieldMap) (dryRun : Bool) :
    ActionDefinition :=
  { title, description, fields
    perform := some fun input => deliver dryRun input.settings input.payload
    performBatch := some fun input => deliver dryRun input.settings (.arr input.payload) }

/-- What the action of a definition is built from. -/
def builder (definition : ActionDefinition) : ActionBuilder :=
  { destination := name, definition, extension := some extension }

end Webhook

/-- The names of the built-in destinations. -/
def builtInDestinations : List String := [Webhook.name]

/-- Whether a name, in small or capital letters, is that of a built-in destination. -/
def isBuiltIn (name : String) : Bool :=
  builtInDestinations.any fun known => Text.lower known == Text.lower name

end EventDelivery
