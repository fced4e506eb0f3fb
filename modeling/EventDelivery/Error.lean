import EventDelivery.Http.Message
import EventDelivery.Schema.Compile
/-!
# Errors of actions

Why a call of an action failed. Every error has a code, a message and sometimes a status like those
of HTTP.
-/

namespace EventDelivery

/-- The hooks that an action can have. -/
inductive HookType where
  /-- Runs when a mapping is saved. -/
  | onMappingSave
deriving DecidableEq

def HookType.names : List (String × HookType) := [("on-mapping-save", .onMappingSave)]

def HookType.name : HookType → String
  | .onMappingSave => "on-mapping-save"

/-- What an action may be asked for. -/
inductive Capability where
  | singleEvents
  | batches
  | hooks
  | hook (type : HookType)
deriving DecidableEq

/-- The sentence for what an action cannot do. -/
def Capability.missing : Capability → String
  | .singleEvents => "This action does not support single events."
  | .batches => "This action does not support batched requests."
  | .hooks => "This action does not support any hooks."
  | .hook type => "This action does not support the " ++ type.name ++ " hook."

/-- Why a call failed. -/
inductive ActionError where
  /-- The action cannot do what it is asked for. -/
  | notImplemented (capability : Capability)
  /-- A payload or the input of a hook violates its schema. -/
  | validation (first : Violation) (others : List Violation)
  /-- A partner's own failure. -/
  | integration (message code : String) (status : UInt16)
  /-- A partner answered without success. -/
  | http (response : Response)
  /-- A request does not exist. -/
  | invalidRequest (fault : RequestFault)
  /-- A request has no response. -/
  | request (fault : SendFault)
  | mapping (message : String)
  | schema (fault : SchemaFault)
  /-- A value does not have the type that it should have. -/
  | payload (fault : DecodeFault)
  | other (message : String)
deriving DecidableEq

namespace ActionError

def code : ActionError → String
  | .notImplemented _ => "NotImplemented"
  | .validation _ _ => "ValidationError"
  | .integration _ code _ => code
  | .http _ => "HTTPError"
  | .invalidRequest _ => "InvalidRequest"
  | .request _ => "RequestError"
  | .mapping _ => "InvalidMapping"
  | .schema _ => "InvalidSchema"
  | .payload _ => "InvalidPayload"
  | .other _ => "Unknown"

def message : ActionError → String
  | .notImplemented capability => capability.missing
  | .validation first _ => first.text
  | .integration message _ _ => message
  | .http response => response.reason
  | .invalidRequest fault => "invalid request: " ++ fault.message
  | .request fault => fault.message
  | .mapping message => "invalid mapping: " ++ message
  | .schema fault => "invalid schema: " ++ fault.message
  | .payload fault => "invalid payload: " ++ fault.message
  | .other message => message

/-- The causes behind the sentence, each behind the one before. -/
def causes : ActionError → List String
  | .request fault => fault.causes
  | .payload fault => [fault.message]
  | _ => []

/-- The status of an error, when it has one. -/
def status : ActionError → Option UInt16
  | .notImplemented _ => some 501
  | .validation _ _ => some 400
  | .integration _ _ status => some status
  | .http response => some response.status
  | _ => none

end ActionError

end EventDelivery
