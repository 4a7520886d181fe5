import MqttGateway.Core.Tokens
import MqttGateway.Services.Hub
import MqttGateway.Services.Statistics

/-!
# The REST interface

The requests of the REST interface, the methods of {lit}`MQTTService` and {lit}`MQTTClient`
behind them, and what each endpoint answers.  A request carries the proof that its body has
passed the checks of its model.

Main results:

- Theorem {lit}`publish_cases`: a packet is handed to paho only when its topic is authorized, with
  the payload encoded, and the answer says whether paho has taken it.
- Theorem {lit}`mapM_getTopicInfo_run`: where every subscribed filter is authorized, the list of
  topics has one entry for each of them.
-/

namespace MqttGateway

open Toolkit

/-- {lit}`PublishRequest`. -/
structure PublishRequest where
  topic : PyStr
  payload : PyStr
  qos : Int := 0
  retain : Bool := false
  topic_length : 1 ≤ topic.length ∧ topic.length ≤ 65535
  payload_length : payload.length ≤ 1048576
  qos_range : 0 ≤ qos ∧ qos ≤ 2
deriving DecidableEq

/-- {lit}`SubscribeRequest`. -/
structure SubscribeRequest where
  topic : PyStr
  qos : Int := 0
  topic_length : 1 ≤ topic.length ∧ topic.length ≤ 65535
  qos_range : 0 ≤ qos ∧ qos ≤ 2
deriving DecidableEq

/-- {lit}`UnsubscribeRequest`. -/
structure UnsubscribeRequest where
  topic : PyStr
  topic_length : 1 ≤ topic.length ∧ topic.length ≤ 65535
deriving DecidableEq

/-- {lit}`RetainedQueryRequest`. -/
structure RetainedQueryRequest where
  topic : PyStr
  topic_length : 1 ≤ topic.length ∧ topic.length ≤ 65535
deriving DecidableEq

/-- {lit}`PublishResponse`. -/
structure PublishResponse where
  success : Bool
  messageId : Option Int := none
  topic : PyStr
deriving DecidableEq

/-- {lit}`SubscribeResponse`. -/
structure SubscribeResponse where
  success : Bool
  topic : PyStr
  qos : Int
deriving DecidableEq

/-- {lit}`UnsubscribeResponse`. -/
structure UnsubscribeResponse where
  success : Bool
  topic : PyStr
deriving DecidableEq

/-- A packet handed to {lit}`self._client.publish`. -/
structure Publication where
  topic : PyStr
  payload : Bytes
  qos : Int
  retain : Bool
deriving DecidableEq, Repr

/-- What paho answers while {lit}`MQTTClient.publish` runs. -/
structure PahoPublish where
  isConnected : Bool
  /-- The result code and the message id of {lit}`self._client.publish`, or what it raises. -/
  publish : Except PyException (Int × Int)
  /-- {lit}`mqtt.error_string`. -/
  errorString : Int → String

/-- {lit}`MQTTClient.publish`, on the packets handed to paho so far; the code keeps no such record.
A payload is a string or bytes. -/
def MQTTClient.publish (client : MQTTClient) (paho : PahoPublish) (topic : PyStr)
    (payload : PyStr ⊕ Bytes) (qos : Int) (retain : Bool) : Py (List Publication) Int := do
  if !(paho.isConnected && client.connected) then
    throw (.runtimeError "MQTT client not connected")
  let payload ←
    match payload with
    | .inl text => Effect.ofExcept (PyStr.encode text)
    | .inr bytes => pure bytes
  modify fun publications => publications ++ [⟨topic, payload, qos, retain⟩]
  let (rc, mid) ← Effect.ofExcept paho.publish
  if rc ≠ mqttErrSuccess then
    throw (.runtimeError ("MQTT publish rejected: " ++ paho.errorString rc))
  return mid

section

variable (topicMatchesSub : PyStr → PyStr → Bool) (settings : Settings)

/-- {lit}`MQTTService.publish`. -/
def publish (client : MQTTClient) (paho : PahoPublish) (request : PublishRequest) :
    Py (List Publication) PublishResponse := do
  Effect.ofExcept (authorizeTopic topicMatchesSub request.topic settings false)
  tryCatch
    (do
      let payload ← Effect.ofExcept (PyStr.encode request.payload)
      let messageId ←
        client.publish paho request.topic (.inr payload) request.qos request.retain
      return { success := true, messageId := some messageId, topic := request.topic })
    fun e =>
      if e.isException then return { success := false, topic := request.topic } else throw e

/-- {lit}`MQTTService.subscribe`. -/
def subscribe (hub : Hub) (paho : Paho) (request : SubscribeRequest) :
    Except PyException SubscribeResponse × Hub :=
  let (result, hub) :=
    hub.acquire topicMatchesSub settings paho request.topic request.qos .rest false
  (result.map fun _ => { success := true, topic := request.topic, qos := request.qos }, hub)

/-- {lit}`MQTTService.unsubscribe`. -/
def unsubscribe (hub : Hub) (paho : Paho) (request : UnsubscribeRequest) :
    Except PyException UnsubscribeResponse × Hub :=
  match authorizeTopic topicMatchesSub request.topic settings true with
  | .error e => (.error e, hub)
  | .ok _ =>
      let (result, hub) := hub.release paho request.topic .rest
      (result.map fun _ => { success := true, topic := request.topic }, hub)

/-- {lit}`MQTTService.is_subscribed`. -/
def isSubscribed (hub : Hub) (topic : PyStr) : Bool :=
  topic ∈ hub.service.subscriptions

/-- {lit}`list_topics`. -/
def listTopics (hub : Hub) (statistics : TopicStatistics) : Except PyException (List TopicInfo) :=
  ((hub.service.subscriptions.keys.mapM (getTopicInfo topicMatchesSub settings)).run statistics).1

/-- {lit}`get_topic_info` of the REST interface. -/
def topicInfo (hub : Hub) (statistics : TopicStatistics) (topic : PyStr) :
    Except PyException TopicInfo :=
  if !isSubscribed hub topic then .error (.httpException 404 "Topic not subscribed")
  else ((getTopicInfo topicMatchesSub settings topic).run statistics).1

end

variable {topicMatchesSub : PyStr → PyStr → Bool} {settings : Settings}

/-! ## Publishing -/

/-- The packet of a request. -/
def PublishRequest.packet (request : PublishRequest) (payload : Bytes) : Publication :=
  ⟨request.topic, payload, request.qos, request.retain⟩

/-- What a publish request answers once its packet has been handed to paho. -/
def PublishRequest.response (request : PublishRequest) :
    Except PyException (Int × Int) → Except PyException PublishResponse
  | .ok (rc, mid) =>
      if rc = mqttErrSuccess then
        .ok { success := true, messageId := some mid, topic := request.topic }
      else .ok { success := false, topic := request.topic }
  | .error e =>
      if e.isException then .ok { success := false, topic := request.topic } else .error e

/-- A publish request ends in one of three ways. -/
theorem publish_cases (topicMatchesSub : PyStr → PyStr → Bool) (settings : Settings)
    (client : MQTTClient) (paho : PahoPublish) (request : PublishRequest)
    (publications : List Publication) :
    (∃ e, authorizeTopic topicMatchesSub request.topic settings false = .error e ∧
        (publish topicMatchesSub settings client paho request).run publications =
          (.error e, publications)) ∨
      (((paho.isConnected && client.connected) = false ∨
          ∃ e, PyStr.encode request.payload = .error e) ∧
        (publish topicMatchesSub settings client paho request).run publications =
          (.ok { success := false, topic := request.topic }, publications)) ∨
      ∃ payload, authorizeTopic topicMatchesSub request.topic settings false = .ok () ∧
        (paho.isConnected && client.connected) = true ∧
        PyStr.encode request.payload = .ok payload ∧
        (publish topicMatchesSub settings client paho request).run publications =
          (request.response paho.publish, publications ++ [request.packet payload]) := by
  unfold publish
  cases hauth : authorizeTopic topicMatchesSub request.topic settings false with
  | error e => exact Or.inl ⟨e, rfl, by simp⟩
  | ok _ =>
      cases hencode : PyStr.encode request.payload with
      | error e =>
          have he : e = .unicodeError := by
            unfold PyStr.encode at hencode
            split at hencode <;> cases hencode
            rfl
          exact Or.inr (Or.inl ⟨Or.inr ⟨e, rfl⟩, by simp [he, PyException.isException]⟩)
      | ok payload =>
          cases hconnected : paho.isConnected && client.connected with
          | false =>
              refine Or.inr (Or.inl ⟨Or.inl rfl, ?_⟩)
              simp [MQTTClient.publish, hconnected, PyException.isException]
          | true =>
              refine Or.inr (Or.inr ⟨payload, rfl, rfl, rfl, ?_⟩)
              rcases hpaho : paho.publish with e | ⟨rc, mid⟩
              · by_cases he : e.isException = true
                · simp [MQTTClient.publish, hconnected, hpaho, he, PublishRequest.response,
                    PublishRequest.packet]
                · simp [MQTTClient.publish, hconnected, hpaho, he, PublishRequest.response,
                    PublishRequest.packet]
              · by_cases hrc : rc = mqttErrSuccess
                · simp [MQTTClient.publish, hconnected, hpaho, hrc, PublishRequest.response,
                    PublishRequest.packet]
                · simp [MQTTClient.publish, hconnected, hpaho, hrc, PublishRequest.response,
                    PublishRequest.packet, PyException.isException]

/-! ## The list of topics -/

/-- The entry of a topic in the answers of the interface. -/
def TopicStatistics.info (statistics : TopicStatistics) (topic : PyStr) : TopicInfo :=
  (statistics.get? topic).getD { topic := topic, messageCount := 0, lastMessage := none }

theorem getTopicInfo_run {topic : PyStr}
    (hauth : authorizeTopic topicMatchesSub topic settings true = .ok ())
    (statistics : TopicStatistics) :
    (getTopicInfo topicMatchesSub settings topic).run statistics =
      (.ok (statistics.info topic), statistics) := by
  simp [getTopicInfo, hauth, TopicStatistics.info]

theorem mapM_getTopicInfo_run (statistics : TopicStatistics) {topics : List PyStr}
    (hauth : ∀ topic ∈ topics, authorizeTopic topicMatchesSub topic settings true = .ok ()) :
    (topics.mapM (getTopicInfo topicMatchesSub settings)).run statistics =
      (.ok (topics.map statistics.info), statistics) := by
  induction topics with
  | nil => rfl
  | cons topic rest ih =>
      have hrest := ih fun t ht => hauth t (List.mem_cons_of_mem _ ht)
      simp only [Effect.run_mapM_cons, getTopicInfo_run (hauth topic List.mem_cons_self), hrest,
        List.map_cons]

end MqttGateway
