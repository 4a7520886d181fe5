import MqttGateway.Library.Recency
import MqttGateway.Services.Statistics

/-!
# Topic statistics over whole histories

What {lit}`handle_message` keeps after any sequence of packets: the topics of the accepted
packets that were updated most recently, with the last packet of each and a count of its
latest deliveries that were close enough together.

Main results:

- Theorem {lit}`topic_statistics_exact`: the contents of the statistics, in terms of the
  accepted packets alone.
- Theorem {lit}`getTopicInfo_exact`: what {lit}`get_topic_info` reports after such a sequence.
-/

namespace MqttGateway

open Toolkit

section

variable {topicMatchesSub : PyStr → PyStr → Bool} {settings : Settings}

/-! ## What a history leaves -/

/-- The topics of a history of packets, each with the time it was handled at. -/
def topicsOf (calls : List (ℚ × ReceivedMessage)) : List PyStr :=
  calls.map fun call => call.2.topic

/-- The statistics that a history of accepted packets leaves. -/
structure Summarizes (settings : Settings) (accepted : List (ℚ × ReceivedMessage))
    (statistics : TopicStatistics) : Prop where
  /-- The topics updated most recently, oldest first. -/
  keys : statistics.keys = recent settings.mqttQueueSize (topicsOf accepted)
  topic : ∀ topic info, statistics.get? topic = some info → info.topic = topic
  /-- The count goes back to the last time the topic was away for too long. -/
  messageCount : ∀ topic info, statistics.get? topic = some info →
    info.messageCount = streak settings.mqttQueueSize topic (topicsOf accepted)
  lastMessage : ∀ topic info, statistics.get? topic = some info →
    ∃ now message, (accepted.filter fun call => call.2.topic = topic).getLast? =
        some (now, message) ∧
      info.lastMessage = some (MQTTMessage.ofReceived now message)

theorem Summarizes.nil : Summarizes settings [] Dict.empty where
  keys := by simp [topicsOf]
  topic := by simp
  messageCount := by simp
  lastMessage := by simp

theorem topicsOf_concat (calls : List (ℚ × ReceivedMessage)) (now : ℚ)
    (message : ReceivedMessage) :
    topicsOf (calls ++ [(now, message)]) = topicsOf calls ++ [message.topic] := by
  simp [topicsOf]

/-- An accepted packet makes the history one packet longer. -/
theorem Summarizes.handleMessage {accepted : List (ℚ × ReceivedMessage)}
    {statistics : TopicStatistics} (h : Summarizes settings accepted statistics)
    {message : ReceivedMessage} (hmessage : PacketAccepted topicMatchesSub settings message)
    (now : ℚ) :
    Summarizes settings (accepted ++ [(now, message)])
      ((MqttGateway.handleMessage topicMatchesSub settings now message).run statistics).2 := by
  rw [handleMessage_of_accepted hmessage]
  have hpresent : statistics.get? message.topic = none ↔
      message.topic ∉ recent settings.mqttQueueSize (topicsOf accepted) := by
    rw [← h.keys, ← Dict.mem_def, Dict.not_mem_iff_get?]
  -- What is kept of the other topics.
  let kept := if statistics.get? message.topic = none ∧
      settings.mqttQueueSize ≤ (statistics.erase message.topic).size then
    (statistics.erase message.topic).popOldest
  else statistics.erase message.topic
  have hkept : ∀ topic info, kept.get? topic = some info →
      topic ≠ message.topic ∧ statistics.get? topic = some info := by
    intro topic info hget
    have herase : (statistics.erase message.topic).get? topic = some info := by
      by_cases hfull : statistics.get? message.topic = none ∧
          settings.mqttQueueSize ≤ (statistics.erase message.topic).size
      · simp only [kept, if_pos hfull] at hget
        exact Dict.get?_of_popOldest hget
      · simpa only [kept, if_neg hfull] using hget
    rw [Dict.get?_erase] at herase
    by_cases htopic : topic = message.topic
    · rw [if_pos htopic] at herase
      cases herase
    · rw [if_neg htopic] at herase
      exact ⟨htopic, herase⟩
  have hentry : ∀ topic info,
      (kept.set message.topic (entryOf (statistics.get? message.topic) now message)).get? topic =
          some info →
        topic = message.topic ∧ info = entryOf (statistics.get? message.topic) now message ∨
          topic ≠ message.topic ∧ statistics.get? topic = some info := by
    intro topic info hget
    rw [Dict.get?_set] at hget
    by_cases htopic : topic = message.topic
    · rw [if_pos htopic, Option.some.injEq] at hget
      exact Or.inl ⟨htopic, hget.symm⟩
    · rw [if_neg htopic] at hget
      exact Or.inr (hkept topic info hget)
  have hnew : message.topic ∉ kept := by
    intro hmem
    rcases Dict.mem_iff_get?.mp hmem with ⟨info, hget⟩
    exact (hkept _ _ hget).1 rfl
  refine ⟨?_, ?_, ?_, ?_⟩
  · rw [topicsOf_concat, ← touch_recent settings.mqttQueueSize_pos, Dict.keys_set_of_notMem hnew,
      touch, ← h.keys, List.append_cancel_right_eq]
    rw [← h.keys] at hpresent
    have hsame : statistics.get? message.topic = none →
        (statistics.erase message.topic).keys = statistics.keys := fun hnone => by
      rw [Dict.keys_erase, filter_ne_of_notMem (hpresent.mp hnone)]
    by_cases hfull : statistics.get? message.topic = none ∧
        settings.mqttQueueSize ≤ (statistics.erase message.topic).size
    · have hroom := hfull.2
      rw [← Dict.length_keys, hsame hfull.1] at hroom
      simp only [kept, if_pos hfull]
      rw [Dict.keys_popOldest, hsame hfull.1, if_pos ⟨hpresent.mp hfull.1, hroom⟩]
    · have hroom : ¬(message.topic ∉ statistics.keys ∧
          settings.mqttQueueSize ≤ statistics.keys.length) := by
        rintro ⟨hmissing, hroom⟩
        refine hfull ⟨hpresent.mpr hmissing, ?_⟩
        rwa [← Dict.length_keys, hsame (hpresent.mpr hmissing)]
      simp only [kept, if_neg hfull]
      rw [if_neg hroom, Dict.keys_erase]
  · intro topic info hget
    rcases hentry topic info hget with ⟨htopic, rfl⟩ | ⟨_, hold⟩
    · exact htopic.symm
    · exact h.topic topic info hold
  · intro topic info hget
    rw [topicsOf_concat]
    rcases hentry topic info hget with ⟨rfl, rfl⟩ | ⟨htopic, hold⟩
    · rw [streak_concat_self]
      cases hprevious : statistics.get? message.topic with
      | none => rw [if_neg (hpresent.mp hprevious)]; rfl
      | some info =>
          have hmem : message.topic ∈ recent settings.mqttQueueSize (topicsOf accepted) := by
            by_contra hmissing
            rw [hpresent.mpr hmissing] at hprevious
            cases hprevious
          rw [if_pos hmem, ← h.messageCount _ _ hprevious]
          rfl
    · rw [streak_concat_of_ne (Ne.symm htopic)]
      exact h.messageCount topic info hold
  · intro topic info hget
    rw [List.filter_append]
    rcases hentry topic info hget with ⟨rfl, rfl⟩ | ⟨htopic, hold⟩
    · exact ⟨now, message, by simp, rfl⟩
    · rcases h.lastMessage topic info hold with ⟨before, last, hlast, hinfo⟩
      exact ⟨before, last, by simpa [Ne.symm htopic] using hlast, hinfo⟩

variable (topicMatchesSub settings)

/-- The statistics after a sequence of calls of {lit}`handle_message`. -/
def handleMessages (calls : List (ℚ × ReceivedMessage)) : TopicStatistics :=
  calls.foldl
    (fun statistics call =>
      ((handleMessage topicMatchesSub settings call.1 call.2).run statistics).2)
    Dict.empty

/-- The accepted packets of a sequence of calls. -/
def acceptedOf (calls : List (ℚ × ReceivedMessage)) : List (ℚ × ReceivedMessage) :=
  calls.filter fun call => PacketAccepted topicMatchesSub settings call.2

theorem summarizes_handleMessages (calls : List (ℚ × ReceivedMessage)) :
    Summarizes settings (acceptedOf topicMatchesSub settings calls)
      (handleMessages topicMatchesSub settings calls) := by
  induction calls using List.reverseRecOn with
  | nil => exact Summarizes.nil
  | append_singleton calls call ih =>
      unfold handleMessages acceptedOf
      rw [List.foldl_append, List.filter_append, List.foldl_cons, List.foldl_nil]
      by_cases hcall : PacketAccepted topicMatchesSub settings call.2
      · rw [List.filter_cons_of_pos (by simpa using hcall), List.filter_nil]
        exact ih.handleMessage hcall call.1
      · rw [List.filter_cons_of_neg (by simpa using hcall), List.filter_nil, List.append_nil,
          handleMessage_of_not_accepted hcall]
        exact ih

/-- After any sequence of packets the statistics hold the topics of the accepted ones that were
updated most recently, oldest first, each with its last accepted packet and the number of
its latest deliveries between which fewer other topics were updated than there is room for.  A
packet that is not accepted changes nothing. -/
theorem topic_statistics_exact (calls : List (ℚ × ReceivedMessage)) :
    let accepted := acceptedOf topicMatchesSub settings calls
    let statistics := handleMessages topicMatchesSub settings calls
    statistics.keys = recent settings.mqttQueueSize (topicsOf accepted) ∧
      (∀ topic info, statistics.get? topic = some info →
        info.topic = topic ∧
          (∃ now message,
            (accepted.filter fun call => call.2.topic = topic).getLast? = some (now, message) ∧
              info.lastMessage = some (MQTTMessage.ofReceived now message)) ∧
          info.messageCount = streak settings.mqttQueueSize topic (topicsOf accepted)) ∧
      ∀ now message statistics, ¬PacketAccepted topicMatchesSub settings message →
        (handleMessage topicMatchesSub settings now message).run statistics =
          (.ok (), statistics) := by
  intro accepted statistics
  have hsummary := summarizes_handleMessages topicMatchesSub settings calls
  refine ⟨hsummary.keys, ?_, ?_⟩
  · intro topic info hget
    exact ⟨hsummary.topic topic info hget, hsummary.lastMessage topic info hget,
      hsummary.messageCount topic info hget⟩
  · intro now message statistics hmessage
    exact handleMessage_of_not_accepted hmessage now statistics

/-- After any sequence of packets {lit}`get_topic_info` reports the count of a topic that is still
kept, and zero for any other. -/
theorem getTopicInfo_exact (calls : List (ℚ × ReceivedMessage)) {topic : PyStr}
    (hauth : authorizeTopic topicMatchesSub topic settings true = .ok ()) :
    let topics := topicsOf (acceptedOf topicMatchesSub settings calls)
    let statistics := handleMessages topicMatchesSub settings calls
    ∃ info, (getTopicInfo topicMatchesSub settings topic).run statistics =
        (.ok info, statistics) ∧
      info.topic = topic ∧
      info.messageCount =
        if topic ∈ recent settings.mqttQueueSize topics
        then streak settings.mqttQueueSize topic topics else 0 := by
  intro topics statistics
  have hsummary := summarizes_handleMessages topicMatchesSub settings calls
  have hmem : topic ∈ recent settings.mqttQueueSize topics ↔
      ∃ v, statistics.get? topic = some v := by
    rw [← hsummary.keys, ← Dict.mem_def, Dict.mem_iff_get?]
  refine ⟨(statistics.get? topic).getD { topic := topic, messageCount := 0, lastMessage := none },
    ?_, ?_, ?_⟩
  · simp [getTopicInfo, hauth]
  · cases hget : statistics.get? topic with
    | none => rfl
    | some info => exact hsummary.topic topic info hget
  · cases hget : statistics.get? topic with
    | none =>
        rw [hget] at hmem
        rw [if_neg fun h => by simpa using hmem.mp h]
        rfl
    | some info =>
        rw [if_pos (hmem.mpr ⟨info, hget⟩)]
        exact hsummary.messageCount topic info hget

end

end MqttGateway
