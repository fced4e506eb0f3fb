import EventDelivery.Proofs.DeliveryGate
import EventDelivery.Proofs.DryRun

/-!
# How much of a script a call uses up

Every message that reaches the wire uses up one entry of a script, and nothing else does:
a call that is refused or cannot be sent leaves the transport as it was.
-/

namespace EventDelivery

namespace Transport

/-- Who answers once a number of messages have been received. -/
def leftover (received : Nat) : Transport → Transport
  | .offline => .offline
  | .scripted script => .scripted (script.drop received)

@[simp] theorem leftover_zero (transport : Transport) : transport.leftover 0 = transport := by
  cases transport <;> rfl

@[simp] theorem leftover_leftover (transport : Transport) (first second : Nat) :
    (transport.leftover first).leftover second = transport.leftover (first + second) := by
  cases transport with
  | offline => rfl
  | scripted script => simp [leftover, List.drop_drop]

/-- A request that reaches nobody leaves the transport as it was, any other one uses up an
entry. -/
theorem exchange_leaves (transport : Transport) :
    transport.exchange.2 =
      match transport.exchange.1 with
      | .unreached => transport
      | .unanswered | .answered _ => transport.leftover 1 := by
  cases transport with
  | offline => rfl
  | scripted script => rcases script with _ | ⟨_ | reply, rest⟩ <;> rfl

end Transport

/-- What ran with a transport used up one entry for every message that it sent. -/
def Ran.UsesUp {α : Type} (ran : Ran α) (transport : Transport) : Prop :=
  ran.world.transport = transport.leftover (messages ran.events).length

theorem Client.send_transport {client : Client} (publishing : client.hooks = [Hook.publish])
    (url : String) (options : RequestOptions) (transport : Transport) :
    (client.send url options transport).transport =
      transport.leftover (messages (client.send url options transport).events).length := by
  unfold send
  split
  · simp
  · rename_i prepared _
    split
    · simp
    · have leaves := transport.exchange_leaves
      split
      · rename_i next reached
        simpa [reached] using leaves
      · rename_i next reached
        simpa [reached] using leaves
      · rename_i reply next reached
        simpa [reached, receive, publishing, Hook.pipeline, Hook.publish, messages_metrics]
          using leaves

@[simp] theorem Effect.change_transport (effect : Effect) (world : World) :
    (effect.change world).transport = world.transport := by
  cases effect <;> rfl

theorem Program.run_usesUp {α : Type} {client : Client}
    (publishing : client.hooks = [Hook.publish]) (program : Program α) (world : World) :
    (program.run client world).UsesUp world.transport := by
  induction program generalizing world with
  | done result => simp [run, Ran.UsesUp]
  | request url options next induction =>
      have sent := client.send_transport publishing url options world.transport
      have later := induction (client.send url options world.transport).result
        { world with transport := (client.send url options world.transport).transport }
      simp only [Ran.UsesUp] at later
      simp only [run, Ran.UsesUp, Ran.after, messages_append, List.length_append, later]
      -- what the rest leaves over is counted from what the request has left over
      rw [sent, Transport.leftover_leftover, ← sent]
  | perform effect next induction =>
      simpa [run, Ran.UsesUp, Ran.after] using induction (effect.change world)
  | readTransaction next induction => exact induction world.transaction world

namespace Action

theorem stop_usesUp {α : Type} (context : CallContext) (transport : Transport) (result : α)
    {events : List Event} (quiet : Quiet events) :
    (stop context transport result events).UsesUp transport := by
  simp [stop, Ran.UsesUp, quiet.messages_eq_nil]

theorem functionRun_usesUp {α β : Type} (action : Action) (function : Function α β)
    (input : Input α) (transport : Transport) :
    (action.functionRun function input transport).UsesUp transport :=
  Program.run_usesUp rfl (function input) _

/-- A call with one event uses up one entry for every message that it sends. -/
theorem execute_usesUp (action : Action) (bundle : Bundle Json) (transport : Transport) :
    (action.execute bundle transport).UsesUp transport := by
  rcases action.admits_or_refuses bundle with ⟨payload, admitted⟩ | ⟨error, _, refusal⟩
  · obtain ⟨perform, supported⟩ := Option.isSome_iff_exists.mp admitted.supported
    have ran := action.functionRun_usesUp perform
      (bundle.toInput bundle.data payload) transport
    rw [admitted.execute_eq supported transport]
    simpa [Ran.UsesUp, Ran.after, Ran.map] using ran
  · obtain ⟨events, ending, quiet, _⟩ := refusal.execute_eq transport
    rw [ending]
    exact stop_usesUp bundle.context transport _ quiet

end Action

end EventDelivery
