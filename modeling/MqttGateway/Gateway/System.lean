import MqttGateway.Api.StreamSteps
import MqttGateway.Core.Matching
import MqttGateway.Library.Machine
import MqttGateway.Services.RetainedQuery
import Mathlib.Logic.Function.Iterate

/-!
# The gateway

The event loop with everything that runs on it: the REST interface, any number of
retained queries and of websocket streams, and the delivery of packets to the
registered callbacks.  A step is what one of them does between two awaits; the steps
of different consumers interleave in any order.  The clock never goes back.

Main results:

- Theorem {lit}`unchanged_of_step`: a step leaves what every other consumer has as it is.
- Theorem {lit}`unsubscribes_of_step`: a topic is unsubscribed only by the last consumer that
  holds it.
- Theorems {lit}`query_of_step` and {lit}`stream_of_step`: what a step of the gateway is for one
  query and for one stream.
-/

namespace MqttGateway

open Toolkit

/-- The state of the gateway. -/
structure Gateway where
  now : ℚ
  hub : Hub
  statistics : TopicStatistics
  queries : Nat → Query
  streams : Nat → Stream

/-- The steps of the gateway. -/
inductive GatewayStep where
  | tick (now : ℚ)
  /-- A connection event has changed the client's {lit}`_connected`. -/
  | connection (connected : Bool)
  | restSubscribe (topic : PyStr) (qos : Int) (paho : Paho)
  | restUnsubscribe (topic : PyStr) (paho : Paho)
  | query (id : Nat) (step : QueryStep)
  | stream (id : Nat) (step : StreamStep)
  /-- The client gives a packet to its packet callbacks. -/
  | deliver (message : ReceivedMessage)

/-- The consumer that takes a step. -/
def GatewayStep.consumer : GatewayStep → Option Owner
  | .tick _ | .connection _ | .deliver _ => none
  | .restSubscribe _ _ _ | .restUnsubscribe _ _ => some .rest
  | .query id _ => some (.retained id)
  | .stream id _ => some (.websocket id)

/-- The answers of paho in a step are documented ones. -/
def GatewayStep.Documented : GatewayStep → Prop
  | .query _ step => step.Documented
  | .stream _ step => step.Documented
  | .tick _ | .connection _ | .restSubscribe _ _ _ | .restUnsubscribe _ _ | .deliver _ => True

namespace Gateway

/-- At the start of the application. -/
def initial : Gateway where
  now := 0
  hub := Hub.initial
  statistics := Dict.empty
  queries := fun _ => Query.initial
  streams := fun _ => Stream.initial

section Steps

variable (topicMatchesSub : PyStr → PyStr → Bool) (settings : Settings)
  (jwtDecode : ℚ → PyStr → Except PyException Claims)

/-- One packet callback.  The client logs what it raises. -/
def callback (message : ReceivedMessage) (g : Gateway) : Callback → Gateway
  | .handleMessage =>
      { g with
        statistics :=
          ((handleMessage topicMatchesSub settings g.now message).run g.statistics).2 }
  | .receive id =>
      { g with queries := Function.update g.queries id ((g.queries id).receive message) }
  | .wsCallback id =>
      { g with
        streams :=
          Function.update g.streams id
            ((g.streams id).wsCallback topicMatchesSub settings g.now message) }

/-- The packet callbacks of {lit}`_deliver_message`, none of which suspends. -/
def deliver (g : Gateway) (message : ReceivedMessage) : Gateway :=
  g.hub.packetCallbacks.foldl (callback topicMatchesSub settings message) g

/-- {lit}`MQTTService.unsubscribe`. -/
def restUnsubscribe (hub : Hub) (paho : Paho) (topic : PyStr) : Hub :=
  match authorizeTopic topicMatchesSub topic settings true with
  | .error _ => hub
  | .ok _ => (hub.release paho topic .rest).2

/-- One step. -/
def step (g : Gateway) : GatewayStep → Option Gateway
  | .tick now => if g.now ≤ now then some { g with now } else none
  | .connection connected =>
      some { g with
        hub :=
          { g.hub with
            service :=
              { g.hub.service with
                client := { g.hub.service.client with connected } } } }
  | .restSubscribe topic qos paho =>
      some { g with hub := (g.hub.acquire topicMatchesSub settings paho topic qos .rest false).2 }
  | .restUnsubscribe topic paho =>
      some { g with hub := restUnsubscribe topicMatchesSub settings g.hub paho topic }
  | .query id l =>
      ((g.queries id).step topicMatchesSub settings id g.hub l).map fun (hub, q) =>
        { g with hub, queries := Function.update g.queries id q }
  | .stream id l =>
      ((g.streams id).step topicMatchesSub settings (jwtDecode g.now) id g.now g.hub l).map
        fun (hub, s) => { g with hub, streams := Function.update g.streams id s }
  | .deliver message => some (g.deliver topicMatchesSub settings message)

/-- The gateway as a machine. -/
def machine : Machine Gateway GatewayStep where
  init := initial
  step := step topicMatchesSub settings jwtDecode

end Steps

/-- A gateway to try runs on: MQTT matching for paho's matcher, and tokens that are all accepted
and expire at second 100. -/
def sampleOf (settings : Settings) : Machine Gateway GatewayStep :=
  machine (fun filter topic => decide (MqttMatches filter topic)) settings
    fun _ _ => .ok ⟨.str settings.apiUsername, none, .ok 100⟩

/-- The gateway with the default settings. -/
def sample : Machine Gateway GatewayStep :=
  sampleOf Settings.default

/-- Paho with a connection, whose calls all succeed. -/
def connectedPaho : Paho where
  isConnected := true
  subscribe := .ok mqttErrSuccess
  unsubscribe _ := .ok ()

/-- Paho without a connection. -/
def disconnectedPaho : Paho where
  isConnected := false
  subscribe := .ok mqttErrNoConn
  unsubscribe _ := .ok ()

variable {topicMatchesSub : PyStr → PyStr → Bool} {settings : Settings}
  {jwtDecode : ℚ → PyStr → Except PyException Claims} {g g' : Gateway}

/-! ## Deliveries -/

/-- Giving a packet to a list of callbacks changes neither the clock nor the hub, and gives it to
a query and to a stream as often as their callback is in the list. -/
theorem foldl_callback (topicMatchesSub : PyStr → PyStr → Bool) (settings : Settings)
    (message : ReceivedMessage) (callbacks : List Callback) (g : Gateway) :
    let g' := callbacks.foldl (callback topicMatchesSub settings message) g
    g'.now = g.now ∧ g'.hub = g.hub ∧
      (∀ id, g'.queries id =
        (Query.receive message)^[callbacks.count (.receive id)] (g.queries id)) ∧
      ∀ id, g'.streams id =
        (Stream.wsCallback topicMatchesSub settings g.now message)^[callbacks.count
          (.wsCallback id)] (g.streams id) := by
  induction callbacks generalizing g with
  | nil => exact ⟨rfl, rfl, fun _ => rfl, fun _ => rfl⟩
  | cons first rest ih =>
      rcases ih (callback topicMatchesSub settings message g first) with
        ⟨hnow, hhub, hqueries, hstreams⟩
      rw [List.foldl_cons]
      cases first with
      | handleMessage =>
          refine ⟨hnow, hhub, ?_, ?_⟩
          · intro id
            rw [hqueries, List.count_cons_of_ne (by simp)]
            rfl
          · intro id
            rw [hstreams, List.count_cons_of_ne (by simp)]
            rfl
      | receive k =>
          refine ⟨hnow, hhub, ?_, ?_⟩
          · intro id
            rw [hqueries]
            by_cases hid : id = k
            · subst hid
              rw [List.count_cons_self, Function.iterate_succ_apply]
              simp [callback]
            · rw [List.count_cons_of_ne (by simp [Ne.symm hid])]
              simp [callback, hid]
          · intro id
            rw [hstreams, List.count_cons_of_ne (by simp)]
            rfl
      | wsCallback c =>
          refine ⟨hnow, hhub, ?_, ?_⟩
          · intro id
            rw [hqueries, List.count_cons_of_ne (by simp)]
            rfl
          · intro id
            rw [hstreams]
            by_cases hid : id = c
            · subst hid
              rw [List.count_cons_self, Function.iterate_succ_apply]
              simp [callback]
            · rw [List.count_cons_of_ne (by simp [Ne.symm hid])]
              simp [callback, hid]

/-! ## What a step is for each consumer -/

/-- A step is taken by one consumer through the hub, or the hub keeps its topics, its callbacks
and the calls on the client. -/
theorem hub_of_step {l : GatewayStep}
    (h : g.step topicMatchesSub settings jwtDecode l = some g') :
    (∃ owner, l.consumer = some owner ∧
        Hub.Step topicMatchesSub settings owner g.hub g'.hub) ∨
      (l.consumer = none ∧ (∀ owner, Hub.Unchanged owner g.hub g'.hub) ∧
        g'.hub.service.calls = g.hub.service.calls ∧
        (g.hub.service.Coherent → g'.hub.service.Coherent)) := by
  cases l with
  | tick now =>
      simp only [step, Option.ite_none_right_eq_some] at h
      cases h.2
      exact Or.inr ⟨rfl, fun _ => ⟨fun _ => rfl, fun _ _ => rfl⟩, rfl, fun hc => hc⟩
  | connection connected =>
      cases h
      refine Or.inr ⟨rfl, fun _ => ⟨fun _ => rfl, fun _ _ => rfl⟩, rfl, ?_⟩
      intro hc
      exact ⟨hc.owners_nonempty, hc.keys, hc.client, hc.covers⟩
  | restSubscribe topic qos paho =>
      cases h
      exact Or.inl ⟨.rest, rfl, .acquire g.hub paho topic qos false⟩
  | restUnsubscribe topic paho =>
      cases h
      refine Or.inl ⟨.rest, rfl, ?_⟩
      simp only [restUnsubscribe]
      split
      · exact .stay g.hub
      · exact .release g.hub paho topic
  | query id l =>
      rcases Option.map_eq_some_iff.mp h with ⟨⟨hub, q⟩, hstep, heq⟩
      cases heq
      exact Or.inl ⟨.retained id, rfl, Query.step_hub hstep⟩
  | stream id l =>
      rcases Option.map_eq_some_iff.mp h with ⟨⟨hub, s⟩, hstep, heq⟩
      cases heq
      exact Or.inl ⟨.websocket id, rfl, Stream.step_hub hstep⟩
  | deliver message =>
      cases h
      have hhub : (g.deliver topicMatchesSub settings message).hub = g.hub :=
        (foldl_callback topicMatchesSub settings message g.hub.packetCallbacks g).2.1
      rw [hhub]
      exact Or.inr ⟨rfl, fun _ => ⟨fun _ => rfl, fun _ _ => rfl⟩, rfl, fun hc => hc⟩

/-- A step leaves the topics and the callback of every other consumer alone. -/
theorem unchanged_of_step {l : GatewayStep}
    (h : g.step topicMatchesSub settings jwtDecode l = some g') {other : Owner}
    (hother : l.consumer ≠ some other) : Hub.Unchanged other g.hub g'.hub := by
  rcases hub_of_step h with ⟨owner, howner, hstep⟩ | ⟨_, hsame, _⟩
  · refine hstep.unchanged ?_
    rintro rfl
    exact hother howner
  · exact hsame other

/-- Every step keeps the maps of the registry coherent. -/
theorem coherent_of_step {l : GatewayStep}
    (h : g.step topicMatchesSub settings jwtDecode l = some g')
    (hc : g.hub.service.Coherent) : g'.hub.service.Coherent := by
  rcases hub_of_step h with ⟨_, _, hstep⟩ | ⟨_, _, _, hkeeps⟩
  · exact hstep.coherent hc
  · exact hkeeps hc

/-- A topic is unsubscribed only in a step of the one consumer that holds it. -/
theorem unsubscribes_of_step {l : GatewayStep}
    (h : g.step topicMatchesSub settings jwtDecode l = some g') :
    ∃ issued, g'.hub.service.calls = g.hub.service.calls ++ issued ∧
      ∀ topic, .unsubscribe topic ∈ issued →
        ∃ owner, l.consumer = some owner ∧ g.hub.service.SoleOwner topic owner := by
  rcases hub_of_step h with ⟨owner, howner, hstep⟩ | ⟨_, _, hcalls, _⟩
  · rcases hstep.unsubscribes with ⟨issued, hissued, hsole⟩
    exact ⟨issued, hissued, fun topic hmem => ⟨owner, howner, hsole topic hmem⟩⟩
  · refine ⟨[], by rw [hcalls, List.append_nil], ?_⟩
    intro topic hmem
    cases hmem

/-- What a step is for one query. -/
theorem query_of_step {l : GatewayStep}
    (h : g.step topicMatchesSub settings jwtDecode l = some g') (id : Nat) :
    (∃ l', l = .query id l' ∧
        (g.queries id).step topicMatchesSub settings id g.hub l' =
          some (g'.hub, g'.queries id)) ∨
      (l.consumer ≠ some (.retained id) ∧
        ((g'.queries id = g.queries id) ∨
          ∃ message, l = .deliver message ∧
            g'.queries id = (Query.receive message)^[g.hub.packetCallbacks.count (.receive id)]
              (g.queries id))) := by
  cases l with
  | tick now =>
      simp only [step, Option.ite_none_right_eq_some] at h
      cases h.2
      exact Or.inr ⟨by simp [GatewayStep.consumer], Or.inl rfl⟩
  | connection connected =>
      cases h
      exact Or.inr ⟨by simp [GatewayStep.consumer], Or.inl rfl⟩
  | restSubscribe topic qos paho =>
      cases h
      exact Or.inr ⟨by simp [GatewayStep.consumer], Or.inl rfl⟩
  | restUnsubscribe topic paho =>
      cases h
      exact Or.inr ⟨by simp [GatewayStep.consumer], Or.inl rfl⟩
  | query k l =>
      rcases Option.map_eq_some_iff.mp h with ⟨⟨hub, q⟩, hstep, heq⟩
      cases heq
      by_cases hid : id = k
      · subst hid
        refine Or.inl ⟨l, rfl, ?_⟩
        simpa using hstep
      · refine Or.inr ⟨?_, Or.inl ?_⟩
        · simpa [GatewayStep.consumer] using Ne.symm hid
        · simp [hid]
  | stream c l =>
      rcases Option.map_eq_some_iff.mp h with ⟨⟨hub, s⟩, hstep, heq⟩
      cases heq
      exact Or.inr ⟨by simp [GatewayStep.consumer], Or.inl rfl⟩
  | deliver message =>
      cases h
      refine Or.inr ⟨by simp [GatewayStep.consumer], Or.inr ⟨message, rfl, ?_⟩⟩
      exact (foldl_callback topicMatchesSub settings message g.hub.packetCallbacks g).2.2.1 id

/-- What a step is for one stream. -/
theorem stream_of_step {l : GatewayStep}
    (h : g.step topicMatchesSub settings jwtDecode l = some g') (id : Nat) :
    (∃ l', l = .stream id l' ∧
        (g.streams id).step topicMatchesSub settings (jwtDecode g.now) id g.now g.hub l' =
          some (g'.hub, g'.streams id)) ∨
      (l.consumer ≠ some (.websocket id) ∧
        ((g'.streams id = g.streams id) ∨
          ∃ message, l = .deliver message ∧
            g'.streams id =
              (Stream.wsCallback topicMatchesSub settings g.now message)^[
                g.hub.packetCallbacks.count (.wsCallback id)] (g.streams id))) := by
  cases l with
  | tick now =>
      simp only [step, Option.ite_none_right_eq_some] at h
      cases h.2
      exact Or.inr ⟨by simp [GatewayStep.consumer], Or.inl rfl⟩
  | connection connected =>
      cases h
      exact Or.inr ⟨by simp [GatewayStep.consumer], Or.inl rfl⟩
  | restSubscribe topic qos paho =>
      cases h
      exact Or.inr ⟨by simp [GatewayStep.consumer], Or.inl rfl⟩
  | restUnsubscribe topic paho =>
      cases h
      exact Or.inr ⟨by simp [GatewayStep.consumer], Or.inl rfl⟩
  | query k l =>
      rcases Option.map_eq_some_iff.mp h with ⟨⟨hub, q⟩, hstep, heq⟩
      cases heq
      exact Or.inr ⟨by simp [GatewayStep.consumer], Or.inl rfl⟩
  | stream c l =>
      rcases Option.map_eq_some_iff.mp h with ⟨⟨hub, s⟩, hstep, heq⟩
      cases heq
      by_cases hid : id = c
      · subst hid
        refine Or.inl ⟨l, rfl, ?_⟩
        simpa using hstep
      · refine Or.inr ⟨?_, Or.inl ?_⟩
        · simpa [GatewayStep.consumer] using Ne.symm hid
        · simp [hid]
  | deliver message =>
      cases h
      refine Or.inr ⟨by simp [GatewayStep.consumer], Or.inr ⟨message, rfl, ?_⟩⟩
      exact (foldl_callback topicMatchesSub settings message g.hub.packetCallbacks g).2.2.2 id

/-- What the steps of a stream and its callback keep, every step keeps of this stream. -/
theorem stream_keeps {P : Stream → Prop} {id : Nat} {l : GatewayStep}
    (h : g.step topicMatchesSub settings jwtDecode l = some g')
    (hown : ∀ l', (g.streams id).step topicMatchesSub settings (jwtDecode g.now) id g.now g.hub l' =
      some (g'.hub, g'.streams id) → P (g'.streams id))
    (hpacket : ∀ message s, P s → P (s.wsCallback topicMatchesSub settings g.now message))
    (hs : P (g.streams id)) : P (g'.streams id) := by
  rcases stream_of_step h id with ⟨l', _, hstream⟩ | ⟨_, hsame | ⟨message, _, hcallback⟩⟩
  · exact hown l' hstream
  · rw [hsame]
    exact hs
  · rw [hcallback]
    exact Function.Iterate.rec P hs (hpacket message) _

end Gateway

end MqttGateway
