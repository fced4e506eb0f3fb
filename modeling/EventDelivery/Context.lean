import EventDelivery.Decimal.Double
import EventDelivery.Text.Characters
/-!
# What calls carry along

Metrics with the tags of the call, and the levels of log lines.
-/

namespace EventDelivery

/-- The levels of log lines. -/
inductive Level where
  | trace
  | debug
  | info
  | warn
  | error
deriving DecidableEq

namespace Level

def name : Level → String
  | .trace => "trace"
  | .debug => "debug"
  | .info => "info"
  | .warn => "warn"
  | .error => "error"

/-- The level of a name, in small or capital letters. -/
def ofName? (name : String) : Option Level :=
  let lowered := Text.lower name
  if lowered = "trace" then some .trace
  else if lowered = "debug" then some .debug
  else if lowered = "info" then some .info
  else if lowered = "warn" ∨ lowered = "warning" then some .warn
  else if lowered = "error" then some .error
  else none

end Level

/-- A metric as it is recorded. -/
inductive Metric where
  /-- A counter goes up. -/
  | count (name : String) (amount : Int) (tags : List String)
  /-- A histogram takes a value; a duration is not known beforehand. -/
  | sample (name : String) (value : Option Double) (tags : List String)
deriving DecidableEq

/-- The tags that every metric of a call has. -/
structure StatsContext where
  tags : List String
deriving DecidableEq

/-- Adds the tags of the call in front of the metric's own. -/
def StatsContext.tag (context : StatsContext) : Metric → Metric
  | .count name amount tags => .count name amount (context.tags ++ tags)
  | .sample name value tags => .sample name value (context.tags ++ tags)

end EventDelivery
