import MqttGateway.Library.Dict
import MqttGateway.Python

/-!
# Subscriptions of the MQTT client

The part of {lit}`MQTTClient` that keeps subscriptions: the {lit}`_connected` event, the
{lit}`_subscriptions` map, and the methods {lit}`subscribe` and {lit}`unsubscribe`.  What paho
answers while a method runs is an argument; neither method suspends.
-/

namespace MqttGateway

open Toolkit

/-- A packet as the client hands it to its callbacks. -/
structure ReceivedMessage where
  topic : PyStr
  payload : Bytes
  qos : Int
  retain : Bool
deriving DecidableEq, Repr

/-- What paho answers during one method call. -/
structure Paho where
  /-- {lit}`self._client is not None and self._client.is_connected()`. -/
  isConnected : Bool
  /-- The result code of {lit}`self._client.subscribe`, or what it raises. -/
  subscribe : Except PyException Int
  /-- What {lit}`self._client.unsubscribe` raises for a topic, if anything. -/
  unsubscribe : PyStr → Except PyException Unit

/-- Paho documents one exception of {lit}`unsubscribe`, for an empty topic. -/
def Paho.UnsubscribeDocumented (paho : Paho) : Prop :=
  ∀ topic, topic ≠ [] → paho.unsubscribe topic = .ok ()

/-- {lit}`mqtt.MQTT_ERR_SUCCESS`. -/
def mqttErrSuccess : Int := 0

/-- {lit}`mqtt.MQTT_ERR_NO_CONN`. -/
def mqttErrNoConn : Int := 4

/-- The subscription state of {lit}`MQTTClient`. -/
structure MQTTClient where
  /-- {lit}`self._connected.is_set()`. -/
  connected : Bool
  subscriptions : Dict PyStr Int

namespace MQTTClient

/-- A client before its first connection. -/
def initial : MQTTClient where
  connected := false
  subscriptions := Dict.empty

/-- {lit}`MQTTClient.is_connected`. -/
def isConnected (client : MQTTClient) (paho : Paho) : Bool :=
  paho.isConnected && client.connected

/-- {lit}`self._subscriptions[topic] = qos`. -/
def record (client : MQTTClient) (topic : PyStr) (qos : Int) : MQTTClient :=
  { client with subscriptions := client.subscriptions.set topic qos }

/-- {lit}`self._subscriptions.pop(topic, None)`. -/
def forget (client : MQTTClient) (topic : PyStr) : MQTTClient :=
  { client with subscriptions := client.subscriptions.erase topic }

/-- {lit}`MQTTClient.subscribe`. -/
def subscribe (paho : Paho) (topic : PyStr) (qos : Int) : Py MQTTClient Unit := do
  if !(← get).isConnected paho then
    throw (.runtimeError "MQTT client not connected")
  let result ← Effect.ofExcept paho.subscribe
  if result ≠ mqttErrSuccess then
    throw (.runtimeError "MQTT subscription failed")
  modify fun client => client.record topic qos

/-- {lit}`MQTTClient.unsubscribe`. -/
def unsubscribe (paho : Paho) (topic : PyStr) : Py MQTTClient Unit := do
  modify fun client => client.forget topic
  if !(← get).isConnected paho then
    return
  Effect.ofExcept (paho.unsubscribe topic)

@[simp]
theorem record_subscriptions (client : MQTTClient) (topic : PyStr) (qos : Int) :
    (client.record topic qos).subscriptions = client.subscriptions.set topic qos :=
  rfl

@[simp]
theorem forget_connected (client : MQTTClient) (topic : PyStr) :
    (client.forget topic).connected = client.connected :=
  rfl

@[simp]
theorem forget_subscriptions (client : MQTTClient) (topic : PyStr) :
    (client.forget topic).subscriptions = client.subscriptions.erase topic :=
  rfl

/-- Subscribing either raises and changes nothing, or records the topic. -/
theorem subscribe_run (paho : Paho) (topic : PyStr) (qos : Int) (client : MQTTClient) :
    (∃ e, (subscribe paho topic qos).run client = (.error e, client)) ∨
      (subscribe paho topic qos).run client = (.ok (), client.record topic qos) := by
  unfold subscribe
  cases hconnected : client.isConnected paho with
  | false => simp [hconnected]
  | true =>
      cases hpaho : paho.subscribe with
      | error e => simp [hconnected]
      | ok result =>
          by_cases hresult : result = mqttErrSuccess
          · simp [hconnected, hresult]
          · simp [hconnected, hresult]

/-- Subscribing records the topic if the client is connected and paho reports success. -/
theorem subscribe_run_ok {paho : Paho} {client : MQTTClient}
    (hconnected : client.isConnected paho = true) (hpaho : paho.subscribe = .ok mqttErrSuccess)
    (topic : PyStr) (qos : Int) :
    (subscribe paho topic qos).run client = (.ok (), client.record topic qos) := by
  simp [subscribe, hconnected, hpaho]

/-- Subscribing succeeds exactly if the client is connected and paho reports success. -/
theorem subscribe_ok_iff (paho : Paho) (topic : PyStr) (qos : Int) (client : MQTTClient) :
    ((subscribe paho topic qos).run client).1 = .ok () ↔
      client.isConnected paho = true ∧ paho.subscribe = .ok mqttErrSuccess := by
  constructor
  · intro h
    unfold subscribe at h
    cases hconnected : client.isConnected paho with
    | false => simp [hconnected] at h
    | true =>
        cases hpaho : paho.subscribe with
        | error e => simp [hconnected, hpaho] at h
        | ok result =>
            by_cases hresult : result = mqttErrSuccess
            · rw [hresult]
              exact ⟨rfl, rfl⟩
            · simp [hconnected, hpaho, hresult] at h
  · rintro ⟨hconnected, hpaho⟩
    rw [subscribe_run_ok hconnected hpaho]

/-- Unsubscribing forgets the topic whether or not paho raises. -/
theorem unsubscribe_run (paho : Paho) (topic : PyStr) (client : MQTTClient) :
    ∃ outcome, (unsubscribe paho topic).run client = (outcome, client.forget topic) := by
  unfold unsubscribe
  cases hconnected : (client.forget topic).isConnected paho with
  | false => exact ⟨.ok (), by simp [hconnected]⟩
  | true => exact ⟨paho.unsubscribe topic, by simp [hconnected]⟩

/-- Unsubscribing raises nothing if paho does not. -/
theorem unsubscribe_run_ok {paho : Paho} {topic : PyStr} (hpaho : paho.unsubscribe topic = .ok ())
    (client : MQTTClient) :
    (unsubscribe paho topic).run client = (.ok (), client.forget topic) := by
  unfold unsubscribe
  cases hconnected : (client.forget topic).isConnected paho with
  | false => simp [hconnected]
  | true => simp [hconnected, hpaho]

end MQTTClient

end MqttGateway
