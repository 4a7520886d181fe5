import MqttGateway.Core.Grammar
import MqttGateway.Mqtt.Client
import Mathlib.Data.Rat.Defs

/-!
# Topic statistics

The message the gateway shows for a packet, and {lit}`MQTTService.handle_message`, which keeps
the last message and a count for the topics updated most recently.  Clock readings
are rational numbers of seconds.

Main results:

- Theorems {lit}`handleMessage_of_accepted` and {lit}`handleMessage_of_not_accepted`: a packet
  that is accepted becomes the last message of its topic, any other packet changes nothing.
-/

namespace MqttGateway

open Toolkit

/-- {lit}`MQTTMessage`. -/
structure MQTTMessage where
  topic : PyStr
  payload : PyStr
  qos : Int
  retain : Bool
  timestamp : ℚ
deriving DecidableEq

/-- The message both {lit}`handle_message` and {lit}`ws_callback` make of a packet. -/
def MQTTMessage.ofReceived (now : ℚ) (message : ReceivedMessage) : MQTTMessage where
  topic := message.topic
  payload := Bytes.decodeReplace message.payload
  qos := message.qos
  retain := message.retain
  timestamp := now

/-- {lit}`TopicInfo`. -/
structure TopicInfo where
  topic : PyStr
  messageCount : Nat
  lastMessage : Option MQTTMessage
deriving DecidableEq

/-- {lit}`MQTTService._topic_statistics`, oldest update first. -/
abbrev TopicStatistics := Dict PyStr TopicInfo

section

variable (topicMatchesSub : PyStr → PyStr → Bool) (settings : Settings)

/-- {lit}`MQTTService.handle_message`. -/
def handleMessage (now : ℚ) (message : ReceivedMessage) : Py TopicStatistics Unit := do
  if settings.maxMessageBytes < message.payload.length then
    return
  match authorizeTopic topicMatchesSub message.topic settings false with
  | .error (.httpException _ _) => return
  | .error e => throw e
  | .ok _ =>
      let previous := (← get).get? message.topic
      modify fun statistics => statistics.erase message.topic
      if previous = none ∧ settings.mqttQueueSize ≤ (← get).size then
        modify fun statistics => statistics.popOldest
      modify fun statistics =>
        statistics.set message.topic
          { topic := message.topic
            messageCount := (previous.map fun info => info.messageCount + 1).getD 1
            lastMessage := some (MQTTMessage.ofReceived now message) }

/-- {lit}`MQTTService.get_topic_info`. -/
def getTopicInfo (topic : PyStr) : Py TopicStatistics TopicInfo := do
  Effect.ofExcept (authorizeTopic topicMatchesSub topic settings true)
  let statistics := (← get).get? topic
  return statistics.getD { topic := topic, messageCount := 0, lastMessage := none }

/-- The packet fits the limit and its topic is authorized. -/
def PacketAccepted (message : ReceivedMessage) : Prop :=
  message.payload.length ≤ settings.maxMessageBytes ∧
    authorizeTopic topicMatchesSub message.topic settings false = .ok ()

instance (message : ReceivedMessage) :
    Decidable (PacketAccepted topicMatchesSub settings message) :=
  inferInstanceAs (Decidable (_ ∧ _))

/-! ## One packet -/

variable {topicMatchesSub settings}

theorem handleMessage_of_not_accepted {message : ReceivedMessage}
    (h : ¬PacketAccepted topicMatchesSub settings message) (now : ℚ)
    (statistics : TopicStatistics) :
    (handleMessage topicMatchesSub settings now message).run statistics =
      (.ok (), statistics) := by
  unfold handleMessage
  by_cases hlong : settings.maxMessageBytes < message.payload.length
  · simp [hlong]
  · rcases authorizeTopic_ok_or_refused topicMatchesSub settings message.topic false with
      hyes | ⟨code, detail, hno⟩
    · exact absurd ⟨Nat.le_of_not_lt hlong, hyes⟩ h
    · simp [hlong, hno]

/-- The entry an accepted packet makes. -/
def entryOf (previous : Option TopicInfo) (now : ℚ) (message : ReceivedMessage) : TopicInfo where
  topic := message.topic
  messageCount := (previous.map fun info => info.messageCount + 1).getD 1
  lastMessage := some (MQTTMessage.ofReceived now message)

theorem handleMessage_of_accepted {message : ReceivedMessage}
    (h : PacketAccepted topicMatchesSub settings message) (now : ℚ)
    (statistics : TopicStatistics) :
    (handleMessage topicMatchesSub settings now message).run statistics =
      (.ok (),
        (if statistics.get? message.topic = none ∧
            settings.mqttQueueSize ≤ (statistics.erase message.topic).size then
          (statistics.erase message.topic).popOldest
        else statistics.erase message.topic).set message.topic
          (entryOf (statistics.get? message.topic) now message)) := by
  have hfits : ¬settings.maxMessageBytes < message.payload.length := Nat.not_lt.mpr h.1
  unfold handleMessage
  by_cases hfull : statistics.get? message.topic = none ∧
      settings.mqttQueueSize ≤ (statistics.erase message.topic).size
  · simp [hfits, h.2, hfull, entryOf]
  · simp [hfits, h.2, hfull, entryOf]

end

end MqttGateway
