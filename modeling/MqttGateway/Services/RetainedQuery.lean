import MqttGateway.Services.Hub

/-!
# Retained queries

{lit}`MQTTService.query_retained` as a sequence of steps: the callback is registered, the topic
is acquired with {lit}`refresh=True`, the query waits for its future, and the {lit}`finally` block
removes the callback and releases the topic.  The future is given its result by the
packets that arrive meanwhile.  The deadline of {lit}`asyncio.timeout` and a cancellation
reach the query while it waits.

Main results:

- Theorem {lit}`step_hub`: a step of a query goes through the hub as its own consumer.
- Theorem {lit}`footprint_step`: what the query has registered and acquired after each step.
-/

namespace MqttGateway

open Toolkit

/-- {lit}`RetainedMessage`. -/
structure RetainedMessage where
  topic : PyStr
  payload : PyStr
  qos : Int
  retain : Bool
deriving DecidableEq, Repr

/-- {lit}`RetainedQueryResponse`. -/
structure RetainedQueryResponse where
  success : Bool
  message : Option RetainedMessage := none
  error : Option String := none
deriving DecidableEq, Repr

/-- How a query ends. -/
inductive QueryOutcome where
  | response (response : RetainedQueryResponse)
  | raised (e : PyException)
deriving DecidableEq, Repr

/-- The future a query waits for. -/
inductive QueryFuture where
  | pending
  | result (message : ReceivedMessage)
  | cancelled
deriving DecidableEq, Repr

/-- Where a query is. -/
inductive QueryActivity where
  | idle
  /-- The callback is registered. -/
  | acquiring
  /-- The topic is acquired, the future is awaited. -/
  | waiting
  /-- Before the {lit}`finally` block, with what the query is about to return or raise. -/
  | finishing (outcome : QueryOutcome)
  /-- The callback is removed. -/
  | releasing (outcome : QueryOutcome)
  | done (outcome : QueryOutcome)
deriving DecidableEq, Repr

/-- One call of {lit}`query_retained`. -/
structure Query where
  activity : QueryActivity
  topic : PyStr
  future : QueryFuture
  /-- Whether the acquisition has succeeded; the code keeps no such record. -/
  subscribed : Bool
  /-- The packets delivered to the callback, oldest first; the code keeps no such record. -/
  seen : List ReceivedMessage
deriving DecidableEq, Repr

/-- The steps of a query. -/
inductive QueryStep where
  | start (topic : PyStr)
  | acquire (paho : Paho)
  | resume
  | deadline
  | cancel
  | unregister
  | release (paho : Paho)

/-- The answers of paho in a step are documented ones. -/
def QueryStep.Documented : QueryStep → Prop
  | .release paho => paho.UnsubscribeDocumented
  | .start _ | .acquire _ | .resume | .deadline | .cancel | .unregister => True

namespace Query

/-- Before the call. -/
def initial : Query where
  activity := .idle
  topic := []
  future := .pending
  subscribed := false
  seen := []

/-- The two {lit}`except` clauses. -/
def fail : PyException → QueryOutcome
  | .timeoutError => .response { success := false, error := some "Query timeout" }
  | e =>
      if e.isException then
        .response { success := false, error := some "Retained query failed" }
      else .raised e

/-- The answer made of the future's result, with the payload decoded strictly. -/
def answer (message : ReceivedMessage) : QueryOutcome :=
  match Bytes.decode message.payload with
  | .ok payload =>
      .response
        { success := true
          message := some ⟨message.topic, payload, message.qos, message.retain⟩ }
  | .error e => fail e

/-- {lit}`future.cancel()`. -/
def cancelFuture : QueryFuture → QueryFuture
  | .pending => .cancelled
  | future => future

/-- {lit}`receive`. -/
def receive (message : ReceivedMessage) (q : Query) : Query :=
  { q with
    future :=
      if message.topic = q.topic ∧ message.retain = true ∧ q.future = .pending then
        .result message
      else q.future
    seen := q.seen ++ [message] }

section Steps

variable (topicMatchesSub : PyStr → PyStr → Bool) (settings : Settings)

/-- One step of the query with a number, on the hub and on its own state. -/
def step (id : Nat) (hub : Hub) (q : Query) : QueryStep → Option (Hub × Query)
  | .start topic =>
      match q.activity with
      | .idle =>
          match authorizeTopic topicMatchesSub topic settings false with
          | .error e => some (hub, { q with topic, activity := .done (.raised e) })
          | .ok _ =>
              some (hub.addPacketCallback (.receive id), { q with topic, activity := .acquiring })
      | _ => none
  | .acquire paho =>
      match q.activity with
      | .acquiring =>
          match hub.acquire topicMatchesSub settings paho q.topic 0 (.retained id) true with
          | (.ok _, hub) => some (hub, { q with subscribed := true, activity := .waiting })
          | (.error e, hub) => some (hub, { q with activity := .finishing (fail e) })
      | _ => none
  | .resume =>
      match q.activity, q.future with
      | .waiting, .result message => some (hub, { q with activity := .finishing (answer message) })
      | _, _ => none
  | .deadline =>
      match q.activity with
      | .waiting =>
          some (hub,
            { q with
              future := cancelFuture q.future
              activity := .finishing (fail .timeoutError) })
      | _ => none
  | .cancel =>
      match q.activity with
      | .acquiring | .waiting =>
          some (hub,
            { q with
              future := cancelFuture q.future
              activity := .finishing (fail .cancelledError) })
      | _ => none
  | .unregister =>
      match q.activity with
      | .finishing outcome =>
          some (hub.removePacketCallback (.receive id),
            { q with future := cancelFuture q.future, activity := .releasing outcome })
      | _ => none
  | .release paho =>
      match q.activity with
      | .releasing outcome =>
          match hub.release paho q.topic (.retained id) with
          | (.ok _, hub) => some (hub, { q with activity := .done outcome })
          | (.error e, hub) => some (hub, { q with activity := .done (.raised e) })
      | _ => none

end Steps

/-- Whether the callback of a query is registered. -/
def registered : QueryActivity → Bool
  | .idle | .releasing _ | .done _ => false
  | .acquiring | .waiting | .finishing _ => true

/-- The topics a query may hold. -/
def mayHold (q : Query) : List PyStr :=
  match q.activity with
  | .idle | .acquiring | .done _ => []
  | .waiting | .finishing _ | .releasing _ => [q.topic]

@[simp]
theorem receive_activity (message : ReceivedMessage) (q : Query) :
    (q.receive message).activity = q.activity :=
  rfl

@[simp]
theorem receive_topic (message : ReceivedMessage) (q : Query) :
    (q.receive message).topic = q.topic :=
  rfl

variable {topicMatchesSub : PyStr → PyStr → Bool} {settings : Settings} {id : Nat}
  {hub hub' : Hub} {q q' : Query}

/-- Everything a step of a query can do. -/
theorem step_cases {l : QueryStep}
    (h : q.step topicMatchesSub settings id hub l = some (hub', q')) :
    (∃ topic e, l = .start topic ∧ q.activity = .idle ∧
        authorizeTopic topicMatchesSub topic settings false = .error e ∧
        hub' = hub ∧ q' = { q with topic, activity := .done (.raised e) }) ∨
      (∃ topic, l = .start topic ∧ q.activity = .idle ∧
        authorizeTopic topicMatchesSub topic settings false = .ok () ∧
        hub' = hub.addPacketCallback (.receive id) ∧
        q' = { q with topic, activity := .acquiring }) ∨
      (∃ paho, l = .acquire paho ∧ q.activity = .acquiring ∧
        hub' = (hub.acquire topicMatchesSub settings paho q.topic 0 (.retained id) true).2 ∧
        (((hub.acquire topicMatchesSub settings paho q.topic 0 (.retained id) true).1 = .ok () ∧
            q' = { q with subscribed := true, activity := .waiting }) ∨
          ∃ e, (hub.acquire topicMatchesSub settings paho q.topic 0 (.retained id) true).1 =
              .error e ∧
            q' = { q with activity := .finishing (fail e) })) ∨
      (∃ message, l = .resume ∧ q.activity = .waiting ∧ q.future = .result message ∧
        hub' = hub ∧ q' = { q with activity := .finishing (answer message) }) ∨
      (l = .deadline ∧ q.activity = .waiting ∧ hub' = hub ∧
        q' = { q with
          future := cancelFuture q.future
          activity := .finishing (fail .timeoutError) }) ∨
      (l = .cancel ∧ (q.activity = .acquiring ∨ q.activity = .waiting) ∧ hub' = hub ∧
        q' = { q with
          future := cancelFuture q.future
          activity := .finishing (fail .cancelledError) }) ∨
      (∃ outcome, l = .unregister ∧ q.activity = .finishing outcome ∧
        hub' = hub.removePacketCallback (.receive id) ∧
        q' = { q with future := cancelFuture q.future, activity := .releasing outcome }) ∨
      (∃ paho outcome, l = .release paho ∧ q.activity = .releasing outcome ∧
        hub' = (hub.release paho q.topic (.retained id)).2 ∧
        (((hub.release paho q.topic (.retained id)).1 = .ok () ∧
            q' = { q with activity := .done outcome }) ∨
          ∃ e, (hub.release paho q.topic (.retained id)).1 = .error e ∧
            q' = { q with activity := .done (.raised e) })) := by
  cases l with
  | start topic =>
      simp only [step] at h
      split at h
      · next hidle =>
          split at h
          · next e hauth =>
              cases h
              exact Or.inl ⟨topic, e, rfl, hidle, hauth, rfl, rfl⟩
          · next hauth =>
              cases h
              exact Or.inr (Or.inl ⟨topic, rfl, hidle, hauth, rfl, rfl⟩)
      · cases h
  | acquire paho =>
      simp only [step] at h
      split at h
      · next hacquiring =>
          refine Or.inr (Or.inr (Or.inl ⟨paho, rfl, hacquiring, ?_⟩))
          split at h
          · next hresult =>
              cases h
              rw [hresult]
              exact ⟨rfl, Or.inl ⟨rfl, rfl⟩⟩
          · next e _ hresult =>
              cases h
              rw [hresult]
              exact ⟨rfl, Or.inr ⟨e, rfl, rfl⟩⟩
      · cases h
  | resume =>
      simp only [step] at h
      split at h
      · next message hwaiting hfuture =>
          cases h
          exact Or.inr (Or.inr (Or.inr (Or.inl ⟨message, rfl, hwaiting, hfuture, rfl, rfl⟩)))
      · cases h
  | deadline =>
      simp only [step] at h
      split at h
      · next hwaiting =>
          cases h
          exact Or.inr (Or.inr (Or.inr (Or.inr (Or.inl ⟨rfl, hwaiting, rfl, rfl⟩))))
      · cases h
  | cancel =>
      simp only [step] at h
      refine Or.inr (Or.inr (Or.inr (Or.inr (Or.inr (Or.inl ⟨rfl, ?_⟩)))))
      split at h
      · next hacquiring =>
          cases h
          exact ⟨Or.inl hacquiring, rfl, rfl⟩
      · next hwaiting =>
          cases h
          exact ⟨Or.inr hwaiting, rfl, rfl⟩
      · cases h
  | unregister =>
      simp only [step] at h
      split at h
      · next outcome hfinishing =>
          cases h
          exact Or.inr (Or.inr (Or.inr (Or.inr (Or.inr (Or.inr
            (Or.inl ⟨outcome, rfl, hfinishing, rfl, rfl⟩))))))
      · cases h
  | release paho =>
      simp only [step] at h
      split at h
      · next outcome hreleasing =>
          refine Or.inr (Or.inr (Or.inr (Or.inr (Or.inr (Or.inr
            (Or.inr ⟨paho, outcome, rfl, hreleasing, ?_⟩))))))
          split at h
          · next hresult =>
              cases h
              rw [hresult]
              exact ⟨rfl, Or.inl ⟨rfl, rfl⟩⟩
          · next e _ hresult =>
              cases h
              rw [hresult]
              exact ⟨rfl, Or.inr ⟨e, rfl, rfl⟩⟩
      · cases h

/-- A step of a query goes through the hub as its own consumer. -/
theorem step_hub {l : QueryStep}
    (h : q.step topicMatchesSub settings id hub l = some (hub', q')) :
    Hub.Step topicMatchesSub settings (.retained id) hub hub' := by
  rcases step_cases h with ⟨_, _, _, _, _, rfl, _⟩ | ⟨_, _, _, _, rfl, _⟩ |
    ⟨paho, _, _, rfl, _⟩ | ⟨_, _, _, _, rfl, _⟩ | ⟨_, _, rfl, _⟩ | ⟨_, _, rfl, _⟩ |
    ⟨_, _, _, rfl, _⟩ | ⟨paho, _, _, _, rfl, _⟩
  · exact .stay _
  · exact .add hub _ rfl
  · exact .acquire hub paho q.topic 0 true
  · exact .stay _
  · exact .stay _
  · exact .stay _
  · exact .remove hub _ rfl
  · exact .release hub paho q.topic

/-- The footprint of a query follows its activity. -/
theorem footprint_step {l : QueryStep}
    (h : q.step topicMatchesSub settings id hub l = some (hub', q'))
    (hfoot : hub.Footprint (.retained id) (registered q.activity) q.mayHold) :
    hub'.Footprint (.retained id) (registered q'.activity) q'.mayHold := by
  unfold mayHold at hfoot
  rcases step_cases h with ⟨_, _, _, hactivity, _, rfl, rfl⟩ | ⟨_, _, hactivity, _, rfl, rfl⟩ |
    ⟨paho, _, hactivity, rfl, ⟨_, rfl⟩ | ⟨e, herror, rfl⟩⟩ | ⟨_, _, hactivity, _, rfl, rfl⟩ |
    ⟨_, hactivity, rfl, rfl⟩ | ⟨_, hactivity, rfl, rfl⟩ | ⟨_, _, hactivity, rfl, rfl⟩ |
    ⟨paho, _, _, hactivity, rfl, hdone⟩
  · rw [hactivity] at hfoot
    exact hfoot
  · rw [hactivity] at hfoot
    exact hfoot.add rfl
  · rw [hactivity] at hfoot
    exact hfoot.acquire paho q.topic 0 true
  · rw [hactivity] at hfoot
    exact (hfoot.acquire_error herror).mono (List.nil_subset _)
  · rw [hactivity] at hfoot
    exact hfoot
  · rw [hactivity] at hfoot
    exact hfoot
  · rcases hactivity with hactivity | hactivity
    · rw [hactivity] at hfoot
      exact hfoot.mono (List.nil_subset _)
    · rw [hactivity] at hfoot
      exact hfoot
  · rw [hactivity] at hfoot
    exact hfoot.remove rfl
  · rw [hactivity] at hfoot
    have hreleased := hfoot.release paho
    rcases hdone with ⟨_, rfl⟩ | ⟨_, _, rfl⟩
    · exact hreleased
    · exact hreleased

end Query

end MqttGateway
