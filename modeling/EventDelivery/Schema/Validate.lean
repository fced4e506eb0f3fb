import EventDelivery.Context
import EventDelivery.Schema.Link
/-!
# Validating payloads

A payload with violations is discarded, and every discard is counted under the key of its schema.
-/

namespace EventDelivery

/-- The metrics of a validation that found the given violations. -/
def discards (stats : Option StatsContext) (key : String) : List Violation → List Metric
  | [] => []
  | _ :: _ =>
    (stats.map fun context =>
      context.tag (.count "schema_validation.discard" 1 ["schema_key:" ++ key])).toList

end EventDelivery
