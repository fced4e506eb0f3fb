import EventDelivery.Http.Client
/-!
# Functions of destinations

A function of a destination is a program: it sends requests, reads the pairs of the transaction,
does other things that can be seen, and ends with a result.
-/

namespace EventDelivery

/-- A program with a result. -/
inductive Program (α : Type) where
  | done (result : α)
  /-- Sends a request and goes on with what comes back. -/
  | request (url : String) (options : RequestOptions)
      (next : Except ActionError Response → Program α)
  | perform (effect : Effect) (next : Program α)
  /-- Reads the pairs of the transaction, when there is one. -/
  | readTransaction (next : Option (Keyed String) → Program α)

/-- What lasts from one step of a program to the next. -/
structure World where
  transport : Transport
  transaction : Option (Keyed String) := none

/-- What a run leaves behind. -/
structure Ran (α : Type) where
  result : α
  world : World
  events : List Event

/-- What an effect changes. -/
def Effect.change (effect : Effect) (world : World) : World :=
  match effect with
  | .setTransaction key value =>
    { world with transaction := world.transaction.map fun pairs => pairs.insert key value }
  | _ => world

namespace Ran

variable {α β : Type}

def after (events : List Event) (ran : Ran α) : Ran α := { ran with events := events ++ ran.events }

def map (f : α → β) (ran : Ran α) : Ran β := ⟨f ran.result, ran.world, ran.events⟩

end Ran

namespace Program

variable {α β : Type}

/-- Runs a program with a client. -/
def run (client : Client) : Program α → World → Ran α
  | .done result, world => ⟨result, world, []⟩
  | .request url options next, world =>
    let sending := client.send url options world.transport
    (run client (next sending.result) { world with transport := sending.transport }).after
      sending.events
  | .perform effect next, world => (run client next (effect.change world)).after [.did effect]
  | .readTransaction next, world => run client (next world.transaction) world

/-- Goes on with another program. -/
def bind : Program α → (α → Program β) → Program β
  | .done result, next => next result
  | .request url options before, next =>
    .request url options fun response => bind (before response) next
  | .perform effect before, next => .perform effect (bind before next)
  | .readTransaction before, next => .readTransaction fun pairs => bind (before pairs) next

instance : Monad Program := { pure := .done, bind := bind }

def fetch (url : String) (options : RequestOptions) : Program (Except ActionError Response) :=
  .request url options .done

def get (url : String) : Program (Except ActionError Response) :=
  fetch url (RequestOptions.setMethod "GET" {})

/-- Posts a value to a URL. -/
def postJson (url : String) (value : Json) : Program (Except ActionError Response) :=
  fetch url (RequestOptions.setJson value (RequestOptions.setMethod "POST" {}))

end Program

end EventDelivery
