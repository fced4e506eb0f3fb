import EventDelivery.Context
import EventDelivery.Error
/-!
# Traces

What can be seen of a call from outside, in the order in which it happens.
-/

namespace EventDelivery

/-- The functions that a destination may supply. -/
inductive Slot where
  | perform
  | performBatch
  | dynamicField (name : String)
  | hook (type : HookType)
deriving DecidableEq

def Slot.name : Slot → String
  | .perform => "perform"
  | .performBatch => "perform_batch"
  | .dynamicField name => name
  | .hook type => type.name

/-- What a function of a destination does besides sending requests. -/
inductive Effect where
  | measure (metric : Metric)
  | log (level : Level) (line : String)
  /-- Shows a value. -/
  | reveal (value : Json)
  /-- Sets a pair of the transaction. -/
  | setTransaction (key value : String)
  /-- Hands a pair back to the caller, for a number of seconds or for good. -/
  | setState (key value : String) (seconds : Option Nat)
deriving DecidableEq

/-- What can be seen of a call. -/
inductive Event where
  /-- The mapper is consulted. -/
  | mapped
  /-- A function is called with a payload. -/
  | invoked (slot : Slot) (payload : Json)
  /-- A function of the destination does something. -/
  | did (effect : Effect)
  | measured (metric : Metric)
  /-- A request reaches the wire. -/
  | sent (message : Message)
  /-- A response is noted, with its request and its options. -/
  | noted (request : RequestRecord) (options : RequestOptions) (response : Response)
  /-- A response is published to subscribers. -/
  | published (response : Response)
deriving DecidableEq

end EventDelivery
