import EventDelivery.Trace
/-!
# Subscribers

A subscriber receives published responses in order. It can fall behind: only the last of them wait
for it.
-/

namespace EventDelivery

/-- The number of responses that wait for a subscriber. -/
def channelCapacity : Nat := 64

/-- What a subscriber finds. -/
structure Received where
  /-- The number of responses that are lost. -/
  lost : Nat
  responses : List Response

/-- What a subscriber finds after responses were published. -/
def Received.of (published : List Response) : Received :=
  let lost := published.length - channelCapacity
  ⟨lost, published.drop lost⟩

/-- The responses that a call published. -/
def publishedResponses (events : List Event) : List Response :=
  events.filterMap fun
    | .published response => some response
    | _ => none

end EventDelivery
