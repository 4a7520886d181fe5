import MqttGateway.Api.StreamAccess
import MqttGateway.Gateway.AclSafety
import MqttGateway.Gateway.Process
import MqttGateway.Mqtt.Drains
import MqttGateway.Services.StatisticsRuns

/-!
# From the network thread to the consumers

The packets that arrive on paho's network thread, against what the consumers of the gateway
show of them.  Between the two lie the bounded buffer of the hand-over, the drain, the
packet callbacks and, for a websocket, its own queue and sender.

Main results:

- Theorem {lit}`statistics_of_arrivals`: as long as the buffer does not overflow, the topic
  statistics summarize every packet that has arrived.
- Theorem {lit}`websocket_shows_arrivals`: the data frames of a websocket are packets that have
  arrived, each at most once and in the order of their arrival, in every run.
- Theorem {lit}`retained_answers_arrived`: a retained query answers with a packet that has
  arrived, in every run.
-/

namespace MqttGateway

open Toolkit

namespace Gateway

variable {topicMatchesSub : PyStr → PyStr → Bool} {settings : Settings}
  {jwtDecode : ℚ → PyStr → Except PyException Claims} {g g' : Gateway} {steps : List GatewayStep}

/-! ## The statistics of the service -/

/-- A step of a consumer adds and removes no callback but its own. -/
theorem count_of_hubStep {owner : Owner} {hub hub' : Hub}
    (h : Hub.Step topicMatchesSub settings owner hub hub') {callback : Callback}
    (hother : owner.callback ≠ some callback) :
    hub'.packetCallbacks.count callback = hub.packetCallbacks.count callback := by
  cases h with
  | stay => rfl
  | add own howner =>
      rw [Hub.count_addPacketCallback, if_neg, Nat.add_zero]
      rintro rfl
      exact hother howner
  | remove own howner =>
      rw [Hub.count_removePacketCallback, if_neg, Nat.sub_zero]
      rintro rfl
      exact hother howner
  | acquire => rfl
  | release => rfl

/-- A step that is no consumer's keeps the list of callbacks. -/
theorem packetCallbacks_of_environment {l : GatewayStep} (hl : l.consumer = none)
    (hstep : g.step topicMatchesSub settings jwtDecode l = some g') :
    g'.hub.packetCallbacks = g.hub.packetCallbacks := by
  cases l with
  | tick now =>
      simp only [step, Option.ite_none_right_eq_some] at hstep
      cases hstep.2
      rfl
  | connection connected =>
      cases hstep
      rfl
  | deliver message =>
      cases hstep
      have hhub := (foldl_callback topicMatchesSub settings message g.hub.packetCallbacks g).2.1
      exact congrArg Hub.packetCallbacks hhub
  | restSubscribe _ _ _ | restUnsubscribe _ _ | query _ _ | stream _ _ => cases hl

/-- The callback of the service is registered once in every state. -/
theorem count_handleMessage_of_run
    (hrun : (machine topicMatchesSub settings jwtDecode).Run steps g) :
    g.hub.packetCallbacks.count .handleMessage = 1 := by
  refine Machine.Reachable.invariant
    (P := fun g => g.hub.packetCallbacks.count .handleMessage = 1) rfl ?_ ⟨steps, hrun⟩
  intro g l g' h hstep
  rcases hub_of_step hstep with ⟨owner, _, hhub⟩ | ⟨hnone, _⟩
  · rw [count_of_hubStep hhub, h]
    cases owner <;> simp [Owner.callback]
  · rw [packetCallbacks_of_environment hnone hstep, h]

/-- Giving a packet to a list of callbacks gives it to the statistics as often as the service's
callback is in the list. -/
theorem statistics_foldl_callback (message : ReceivedMessage) (callbacks : List Callback)
    (g : Gateway) :
    (callbacks.foldl (callback topicMatchesSub settings message) g).statistics =
      (fun statistics =>
        ((handleMessage topicMatchesSub settings g.now message).run statistics).2)^[
          callbacks.count .handleMessage] g.statistics := by
  induction callbacks generalizing g with
  | nil => rfl
  | cons first rest ih =>
      rw [List.foldl_cons, ih]
      cases first with
      | handleMessage =>
          rw [List.count_cons_self, Function.iterate_succ_apply]
          rfl
      | receive id =>
          rw [List.count_cons_of_ne (by simp)]
          rfl
      | wsCallback id =>
          rw [List.count_cons_of_ne (by simp)]
          rfl

/-- The statistics are the ones of the packets delivered. -/
theorem statistics_of_run
    (hrun : (machine topicMatchesSub settings jwtDecode).Run steps g) :
    ∃ calls, calls.map Prod.snd = steps.flatMap GatewayStep.delivered ∧
      g.statistics = handleMessages topicMatchesSub settings calls := by
  refine Machine.Run.invariant (P := fun steps g => ∃ calls, calls.map Prod.snd =
    steps.flatMap GatewayStep.delivered ∧
      g.statistics = handleMessages topicMatchesSub settings calls) ⟨[], rfl, rfl⟩ ?_ hrun
  rintro steps g l g' hrun ⟨calls, hcalls, hstatistics⟩ hstep
  change g.step topicMatchesSub settings jwtDecode l = some g' at hstep
  rw [List.flatMap_append, List.flatMap_singleton]
  cases l with
  | deliver message =>
      cases hstep
      refine ⟨calls ++ [(g.now, message)], ?_, ?_⟩
      · rw [List.map_append, hcalls]
        rfl
      · rw [deliver, statistics_foldl_callback, count_handleMessage_of_run hrun, hstatistics,
          handleMessages, handleMessages, List.foldl_append]
        rfl
  | tick now =>
      simp only [step, Option.ite_none_right_eq_some] at hstep
      cases hstep.2
      exact ⟨calls, by simp [hcalls, GatewayStep.delivered], hstatistics⟩
  | connection _ | restSubscribe _ _ _ | restUnsubscribe _ _ =>
      cases hstep
      exact ⟨calls, by simp [hcalls, GatewayStep.delivered], hstatistics⟩
  | query id l =>
      rcases Option.map_eq_some_iff.mp hstep with ⟨_, _, rfl⟩
      exact ⟨calls, by simp [hcalls, GatewayStep.delivered], hstatistics⟩
  | stream id l =>
      rcases Option.map_eq_some_iff.mp hstep with ⟨_, _, rfl⟩
      exact ⟨calls, by simp [hcalls, GatewayStep.delivered], hstatistics⟩

/-! ## The frames of a websocket -/

/-- The callback of a connection is registered once, or not at all. -/
theorem count_wsCallback_of_run
    (hrun : (machine topicMatchesSub settings jwtDecode).Run steps g) (id : Nat) :
    g.hub.packetCallbacks.count (.wsCallback id) =
      if Stream.registered (g.streams id).handler then 1 else 0 := by
  refine Machine.Reachable.invariant (P := fun g => g.hub.packetCallbacks.count (.wsCallback id) =
    if Stream.registered (g.streams id).handler then 1 else 0) rfl ?_ ⟨steps, hrun⟩
  intro g l g' h hstep
  rcases stream_of_step hstep id with ⟨l', _, hstream⟩ | ⟨hother, hstream⟩
  · rcases Stream.step_cases hstream with ⟨_, _, hlocal, hhub⟩ | ⟨_, _, hlocal, hhub⟩ |
      ⟨_, hhandler, hhub, hs⟩ | ⟨_, _, _, _, hhandler, hhub, ⟨_, hs⟩ | ⟨e, _, hs⟩⟩ |
      ⟨_, _, hhandler, hhub, hs⟩ | ⟨_, _, _, _, _, hhandler, hhub, ⟨_, hs⟩ | ⟨e, _, hs⟩⟩
    · rw [hhub, h, (Stream.handlerStep_frame hlocal).moves.registered]
    · rw [hhub, h, (Stream.childStep_frame hlocal).handler]
    · rw [hhub, hs, Hub.count_addPacketCallback, h, hhandler]
      simp [Stream.registered]
    · rw [hhub, hs]
      rw [hhandler] at h
      exact h
    · have hframe := Stream.fail_frame topicMatchesSub settings
        (s := g.streams id) (by rw [hhandler]; rfl) e
      rw [hhub, hs, hframe.moves.registered]
      exact h
    · rw [hhub, hs, Hub.count_removePacketCallback, h, hhandler]
      simp [Stream.registered]
    · rw [hhub, hs]
      rw [hhandler] at h
      exact h
    · rw [hhub, hs]
      rw [hhandler] at h
      refine Eq.trans h ?_
      cases Stream.isRuntimeError e <;> rfl
  · have hcount := (unchanged_of_step hstep hother).callbacks _ rfl
    have hhandler : (g'.streams id).handler = (g.streams id).handler := by
      rcases hstream with hsame | ⟨message, _, hpacket⟩
      · rw [hsame]
      · rw [hpacket]
        exact (iterate_wsCallback topicMatchesSub settings g.now message _ (g.streams id)).1
    rw [hcount, h, hhandler]

end Gateway

/-! ## The answers of retained queries -/

namespace Query

/-- What a query is about to return or raise, or has returned or raised. -/
def outcome? : QueryActivity → Option QueryOutcome
  | .finishing outcome | .releasing outcome | .done outcome => some outcome
  | .idle | .acquiring | .waiting => none

/-- A retained packet for the topic of a query, among the ones delivered. -/
def Answers (delivered : List ReceivedMessage) (q : Query) (message : ReceivedMessage) : Prop :=
  message ∈ delivered ∧ message.topic = q.topic ∧ message.retain = true

/-- What a query has heard comes from the packets delivered. -/
structure Honest (delivered : List ReceivedMessage) (q : Query) : Prop where
  future : ∀ message, q.future = .result message → q.Answers delivered message
  outcome : ∀ response, outcome? q.activity = some (.response response) →
    response.success = true → ∃ message, q.Answers delivered message ∧
      answer message = .response response

variable {topicMatchesSub : PyStr → PyStr → Bool} {settings : Settings} {id : Nat}
  {hub hub' : Hub} {q q' : Query} {delivered : List ReceivedMessage}

/-- No exception is answered with success. -/
theorem fail_not_success {e : PyException} {response : RetainedQueryResponse}
    (h : fail e = .response response) : response.success = false := by
  unfold fail at h
  split at h
  · cases h
    rfl
  · split at h
    · cases h
      rfl
    · cases h

/-- A future that has a result keeps it when it is cancelled. -/
theorem cancelFuture_eq_result {future : QueryFuture} {message : ReceivedMessage}
    (h : cancelFuture future = .result message) : future = .result message := by
  cases future with
  | pending => cases h
  | result _ | cancelled => exact h

/-- A query whose activity brings no answer stays honest. -/
theorem Honest.of_activity (h : q.Honest delivered) {future : QueryFuture}
    (hfuture : ∀ message, future = .result message → q.future = .result message)
    {activity : QueryActivity} (subscribed : Bool)
    (hanswer : ∀ response, outcome? activity = some (.response response) →
      response.success = true → outcome? q.activity = some (.response response)) :
    Honest delivered { q with future, activity, subscribed } where
  future message hresult := h.future message (hfuture message hresult)
  outcome response houtcome hsuccess :=
    h.outcome response (hanswer response houtcome hsuccess) hsuccess

/-- Every step of a query keeps it honest. -/
theorem Honest.step (h : q.Honest delivered) (hidle : q.activity = .idle → q.future = .pending)
    {l : QueryStep} (hstep : q.step topicMatchesSub settings id hub l = some (hub', q')) :
    q'.Honest delivered := by
  have hfails : ∀ e response, outcome? (.finishing (fail e)) = some (.response response) →
      response.success = true → outcome? q.activity = some (.response response) := by
    intro e response houtcome hsuccess
    rw [fail_not_success (Option.some.inj houtcome)] at hsuccess
    cases hsuccess
  rcases step_cases hstep with ⟨_, _, _, hactivity, _, _, rfl⟩ | ⟨_, _, hactivity, _, _, rfl⟩ |
    ⟨_, _, hactivity, _, ⟨_, rfl⟩ | ⟨e, _, rfl⟩⟩ | ⟨message, _, _, hfuture, _, rfl⟩ |
    ⟨_, _, _, rfl⟩ | ⟨_, _, _, rfl⟩ | ⟨_, _, hactivity, _, rfl⟩ |
    ⟨_, _, _, hactivity, _, ⟨_, rfl⟩ | ⟨e, _, rfl⟩⟩
  · refine ⟨?_, by simp [outcome?]⟩
    simp [hidle hactivity]
  · refine ⟨?_, by simp [outcome?]⟩
    simp [hidle hactivity]
  · exact h.of_activity (fun _ h => h) true (by simp [outcome?])
  · exact h.of_activity (fun _ h => h) q.subscribed (hfails e)
  · refine ⟨h.future, ?_⟩
    intro response houtcome _
    exact ⟨message, h.future message hfuture, Option.some.inj houtcome⟩
  · exact h.of_activity (fun _ h => cancelFuture_eq_result h) q.subscribed (hfails _)
  · exact h.of_activity (fun _ h => cancelFuture_eq_result h) q.subscribed (hfails _)
  · refine h.of_activity (fun _ h => cancelFuture_eq_result h) q.subscribed ?_
    rw [hactivity]
    exact fun _ houtcome _ => houtcome
  · refine h.of_activity (fun _ h => h) q.subscribed ?_
    rw [hactivity]
    exact fun _ houtcome _ => houtcome
  · exact h.of_activity (fun _ h => h) q.subscribed (by simp [outcome?])

/-- A packet that is delivered keeps a query honest. -/
theorem Honest.receive {message : ReceivedMessage} (h : q.Honest delivered)
    (hmem : message ∈ delivered) : (q.receive message).Honest delivered := by
  refine ⟨?_, h.outcome⟩
  intro received hresult
  simp only [Query.receive] at hresult
  split at hresult
  · next hfirst =>
      rw [QueryFuture.result.injEq] at hresult
      rw [← hresult]
      exact ⟨hmem, hfirst.1, hfirst.2.1⟩
  · exact h.future received hresult

/-- What a query has heard stays true when more is delivered. -/
theorem Honest.mono (h : q.Honest delivered) {later : List ReceivedMessage}
    (hsubset : delivered ⊆ later) : q.Honest later := by
  refine ⟨?_, ?_⟩
  · intro message hresult
    rcases h.future message hresult with ⟨hmem, hanswers⟩
    exact ⟨hsubset hmem, hanswers⟩
  · intro response houtcome hsuccess
    rcases h.outcome response houtcome hsuccess with ⟨message, ⟨hmem, hanswers⟩, hanswer⟩
    exact ⟨message, ⟨hsubset hmem, hanswers⟩, hanswer⟩

/-- An answer that succeeds shows its packet, decoded. -/
theorem response_of_answer {message : ReceivedMessage} {response : RetainedQueryResponse}
    (h : answer message = .response response) (hsuccess : response.success = true) :
    ∃ text, Bytes.decode message.payload = .ok text ∧ response =
      { success := true
        message := some ⟨message.topic, text, message.qos, message.retain⟩ } := by
  unfold answer at h
  split at h
  · next text htext =>
      cases h
      exact ⟨text, htext, rfl⟩
  · rw [fail_not_success h] at hsuccess
    cases hsuccess

end Query

namespace Gateway

/-- Before a query begins it has no callback and has heard nothing. -/
theorem idle_of_run (hrun : (machine topicMatchesSub settings jwtDecode).Run steps g) (id : Nat)
    (hidle : (g.queries id).activity = .idle) :
    (g.queries id).future = .pending ∧ g.hub.packetCallbacks.count (.receive id) = 0 := by
  have hidles := Machine.Reachable.invariant (M := machine topicMatchesSub settings jwtDecode)
    (P := fun g => (g.queries id).activity = .idle →
      (g.queries id).future = .pending ∧ g.hub.packetCallbacks.count (.receive id) = 0)
    (fun _ => ⟨rfl, rfl⟩) ?_ ⟨steps, hrun⟩
  · exact hidles hidle
  · intro g l g' h hstep hidle
    rcases query_of_step hstep id with ⟨l', _, hquery⟩ | ⟨hother, hrest⟩
    · rcases Query.step_cases hquery with ⟨_, _, _, _, _, _, hq⟩ | ⟨_, _, _, _, _, hq⟩ |
        ⟨_, _, _, _, ⟨_, hq⟩ | ⟨_, _, hq⟩⟩ | ⟨_, _, _, _, _, hq⟩ | ⟨_, _, _, hq⟩ |
        ⟨_, _, _, hq⟩ | ⟨_, _, _, _, hq⟩ | ⟨_, _, _, _, _, ⟨_, hq⟩ | ⟨_, _, hq⟩⟩
      all_goals
        rw [hq] at hidle
        cases hidle
    · have hcount := (unchanged_of_step hstep hother).callbacks _ rfl
      rw [hcount]
      rcases hrest with hsame | ⟨message, _, hpacket⟩
      · rw [hsame] at hidle ⊢
        exact h hidle
      · have hactivity : (g'.queries id).activity = (g.queries id).activity := by
          rw [hpacket]
          exact (iterate_receive message _ _).1
        rw [hactivity] at hidle
        rcases h hidle with ⟨hpending, hnone⟩
        rw [hpacket, hnone]
        exact ⟨hpending, rfl⟩

/-- In every run, what a query has heard comes from the packets delivered. -/
theorem honest_of_run (hrun : (machine topicMatchesSub settings jwtDecode).Run steps g)
    (id : Nat) : (g.queries id).Honest (steps.flatMap GatewayStep.delivered) := by
  refine Machine.Run.invariant (P := fun steps g =>
    (g.queries id).Honest (steps.flatMap GatewayStep.delivered)) ?_ ?_ hrun
  · refine ⟨?_, ?_⟩
    · intro message hresult
      cases hresult
    · intro response houtcome
      cases houtcome
  · intro steps g l g' hbefore h hstep
    rw [List.flatMap_append, List.flatMap_singleton]
    have hstill := h.mono (List.subset_append_left _ l.delivered)
    rcases query_of_step hstep id with ⟨l', _, hquery⟩ | ⟨_, hsame | ⟨message, rfl, hpacket⟩⟩
    · exact hstill.step (fun hidle => (idle_of_run hbefore id hidle).1) hquery
    · rw [hsame]
      exact hstill
    · rw [hpacket]
      refine Function.Iterate.rec (Query.Honest _) hstill ?_ _
      intro q hq
      exact hq.receive (List.mem_append_right _ (List.mem_singleton_self message))

end Gateway

/-- What a client sees of a packet, apart from the time it was handled at. -/
def ReceivedMessage.content (message : ReceivedMessage) : PyStr × PyStr × Int × Bool :=
  (message.topic, Bytes.decodeReplace message.payload, message.qos, message.retain)

/-- The same of a message shown. -/
def MQTTMessage.content (message : MQTTMessage) : PyStr × PyStr × Int × Bool :=
  (message.topic, message.payload, message.qos, message.retain)

namespace Gateway

/-- What has been handed over to a connection has been dispatched to it, in order. -/
theorem sifted_of_run (hrun : (machine topicMatchesSub settings jwtDecode).Run steps g)
    (id : Nat) : (g.streams id).Sifted := by
  refine Machine.Reachable.invariant (P := fun g => (g.streams id).Sifted) Stream.sifted_initial
    ?_ ⟨steps, hrun⟩
  intro g l g' h hstep
  rcases stream_of_step hstep id with ⟨l', _, hstream⟩ | ⟨_, hsame | ⟨message, _, hpacket⟩⟩
  · exact h.step hstream
  · rw [hsame]
    exact h
  · rw [hpacket]
    exact Function.Iterate.rec Stream.Sifted h (fun _ h => h.wsCallback message) _

/-- What is dispatched to a connection has been delivered, each packet at most once and in
order. -/
theorem dispatched_of_run
    (hrun : (machine topicMatchesSub settings jwtDecode).Run steps g) (id : Nat) :
    ((g.streams id).dispatched.map MQTTMessage.content).Sublist
      ((steps.flatMap GatewayStep.delivered).map ReceivedMessage.content) := by
  refine Machine.Run.invariant (P := fun steps g =>
    ((g.streams id).dispatched.map MQTTMessage.content).Sublist
      ((steps.flatMap GatewayStep.delivered).map ReceivedMessage.content))
    List.Sublist.slnil ?_ hrun
  intro steps g l g' hrun h hstep
  rw [List.flatMap_append, List.flatMap_singleton, List.map_append]
  rcases stream_of_step hstep id with ⟨l', _, hstream⟩ | ⟨_, hsame | ⟨message, rfl, hpacket⟩⟩
  · rw [Stream.dispatched_step hstream]
    exact h.trans (List.sublist_append_left _ _)
  · rw [hsame]
    exact h.trans (List.sublist_append_left _ _)
  · rw [hpacket, count_wsCallback_of_run hrun]
    split
    · rw [Function.iterate_one]
      rcases Stream.wsCallback_cases topicMatchesSub settings g.now message (g.streams id) with
        heq | ⟨_, _, ⟨_, heq⟩ | ⟨_, heq⟩⟩
      · rw [heq]
        exact h.trans (List.sublist_append_left _ _)
      · rw [heq]
        simpa [MQTTMessage.ofReceived, MQTTMessage.content, GatewayStep.delivered,
          ReceivedMessage.content] using h.append_right [message.content]
      · rw [heq]
        simpa [MQTTMessage.ofReceived, MQTTMessage.content, GatewayStep.delivered,
          ReceivedMessage.content] using h.append_right [message.content]
    · exact h.trans (List.sublist_append_left _ _)

end Gateway

namespace Process

variable {topicMatchesSub : PyStr → PyStr → Bool} {settings : Settings}
  {jwtDecode : ℚ → PyStr → Except PyException Claims} {p p' : Process} {steps : List ProcessStep}

/-- The packet that the network thread receives in a step. -/
def received : ProcessStep → List ReceivedMessage
  | .onMessage message => [message]
  | _ => []

/-- The packets within the size limit that have arrived in a run. -/
def arrivals (settings : Settings) (steps : List ProcessStep) : List ReceivedMessage :=
  (steps.flatMap received).filter (HandOff.inLimit settings)

/-- The buffer of the hand-over has room for a packet that arrives. -/
def HasRoom (settings : Settings) (p : Process) : ProcessStep → Prop
  | .onMessage message =>
      HandOff.inLimit settings message = true →
        p.handOff.pendingMessages.length < settings.mqttQueueSize
  | .connection _ | .drain _ | .consumer _ _ _ => True

instance (p : Process) (l : ProcessStep) : Decidable (p.HasRoom settings l) :=
  match l with
  | .onMessage message =>
      inferInstanceAs (Decidable (HandOff.inLimit settings message = true →
        p.handOff.pendingMessages.length < settings.mqttQueueSize))
  | .connection _ | .drain _ | .consumer _ _ _ => isTrue trivial

/-- Every packet taken over has been delivered. -/
def Drained (p : Process) : Prop :=
  p.handOff.activity.isIdle = true ∧ p.handOff.pendingMessages = []

/-! ## The history of a run -/

/-- A registration neither receives a packet nor delivers one. -/
theorem registers_history {registration : List (HandOffStep Callback)}
    (h : registration.all HandOffStep.registers = true) :
    registration.flatMap HandOffStep.received = [] ∧
      registration.flatMap HandOffStep.delivered = [] := by
  rw [List.all_eq_true] at h
  refine ⟨List.flatMap_eq_nil_iff.mpr ?_, List.flatMap_eq_nil_iff.mpr ?_⟩
  · intro l hl
    cases l with
    | onMessage _ => cases h _ hl
    | _ => rfl
  · intro l hl
    cases l with
    | deliver _ => cases h _ hl
    | _ => rfl

/-- What a step of the process receives and delivers, in the hand-over. -/
theorem history_of_step {l : ProcessStep}
    (hstep : p.step topicMatchesSub settings jwtDecode l = some p') :
    (handOffSteps l).flatMap HandOffStep.received = received l ∧
      (handOffSteps l).flatMap HandOffStep.delivered = deliveries l := by
  cases l with
  | onMessage message => exact ⟨rfl, rfl⟩
  | connection l => exact ⟨rfl, rfl⟩
  | drain l =>
      cases l with
      | onMessage _ => cases hstep
      | _ => exact ⟨rfl, rfl⟩
  | consumer l call registration =>
      exact registers_history (consumer_cases hstep).2.2.2.2.2.1

/-- The ledger of the hand-over in a run of the process. -/
def ledger (settings : Settings) (steps : List ProcessStep) : Ledger Callback :=
  Ledger.of settings (.addPacketCallback .handleMessage :: steps.flatMap handOffSteps)

/-- The ledger of the hand-over has the arrivals and the deliveries of the process. -/
theorem ledger_history (hrun : (machine topicMatchesSub settings jwtDecode).Run steps p) :
    (ledger settings steps).arrivals = arrivals settings steps ∧
      (ledger settings steps).delivered = steps.flatMap deliveries := by
  have hsteps : (steps.flatMap handOffSteps).flatMap HandOffStep.received =
        steps.flatMap received ∧
      (steps.flatMap handOffSteps).flatMap HandOffStep.delivered = steps.flatMap deliveries := by
    refine Machine.Run.invariant (P := fun steps _ =>
      (steps.flatMap handOffSteps).flatMap HandOffStep.received = steps.flatMap received ∧
        (steps.flatMap handOffSteps).flatMap HandOffStep.delivered = steps.flatMap deliveries)
      ⟨rfl, rfl⟩ ?_ hrun
    intro steps s l s' _ h hstep
    rcases history_of_step hstep with ⟨hreceived, hdelivered⟩
    simp only [List.flatMap_append, List.flatMap_singleton]
    rw [h.1, h.2, hreceived, hdelivered]
    exact ⟨rfl, rfl⟩
  rcases @Ledger.of_history Callback _ settings
    (.addPacketCallback Callback.handleMessage :: steps.flatMap handOffSteps) with
    ⟨harrivals, hdelivered⟩
  refine ⟨?_, ?_⟩
  · rw [ledger, harrivals, List.flatMap_cons, hsteps.1]
    rfl
  · rw [ledger, hdelivered, List.flatMap_cons, hsteps.2]
    rfl

/-- As long as the buffer has room for the packets that arrive, so has the history. -/
theorem fits_of_guardedRun
    (hrun : (machine topicMatchesSub settings jwtDecode).GuardedRun (HasRoom settings) steps p) :
    (ledger settings steps).Fits settings := by
  refine Machine.GuardedRun.invariant (P := fun steps _ => (ledger settings steps).Fits settings)
    ?_ ?_ hrun
  · show (Ledger.initial.record settings
      (.addPacketCallback Callback.handleMessage)).Fits settings
    refine Ledger.fits_initial.record ?_
    intro _ h
    cases h
  · intro steps s l s' hs h hroom hstep
    have hledger : ledger settings (steps ++ [l]) =
        (handOffSteps l).foldl (Ledger.record settings) (ledger settings steps) := by
      simp [ledger, Ledger.of]
    rw [hledger]
    cases l with
    | onMessage message =>
        show ((ledger settings steps).record settings (.onMessage message)).Fits settings
        refine h.record ?_
        intro m hm hlimit
        cases hm
        have hagrees := HandOff.agrees_of_run (handOff_of_run hs)
        have hless := hroom hlimit
        rw [hagrees.pending] at hless
        change ((ledger settings steps).window.rtake settings.mqttQueueSize).length <
          settings.mqttQueueSize at hless
        rwa [rtake_of_length_le h.window] at hless
    | connection l => exact h
    | drain l =>
        show ((ledger settings steps).record settings l).Fits settings
        refine h.record ?_
        rintro m rfl
        cases hstep
    | consumer l call registration =>
        have hregisters := (consumer_cases hstep).2.2.2.2.2.1
        rw [List.all_eq_true] at hregisters
        refine List.foldlRecOn registration _ h ?_
        intro L hL l hl
        refine hL.record ?_
        rintro m rfl
        cases hregisters _ hl

/-! ## What the consumers show -/

/-- What is delivered has arrived, each packet at most once and in order. -/
theorem deliveries_sublist (hrun : (machine topicMatchesSub settings jwtDecode).Run steps p) :
    (steps.flatMap deliveries).Sublist (arrivals settings steps) := by
  rw [← (ledger_history hrun).1, ← (ledger_history hrun).2]
  exact (HandOff.agrees_of_run (handOff_of_run hrun)).delivered_sublist

/-- With no drain under way, the packets awaited are the ones in the buffer. -/
theorem awaited_of_isIdle (h : p.handOff.activity.isIdle = true) :
    p.handOff.awaited = p.handOff.pendingMessages := by
  unfold HandOff.awaited
  cases hactivity : p.handOff.activity with
  | idle => rfl
  | draining _ | packetCalls _ _ _ | messageCalls _ _ _ =>
      rw [hactivity] at h
      cases h

/-- As long as the buffer has room, every packet that has arrived has been delivered or is
awaited. -/
theorem complete_of_guardedRun
    (hrun : (machine topicMatchesSub settings jwtDecode).GuardedRun (HasRoom settings) steps p) :
    steps.flatMap deliveries ++ p.handOff.awaited = arrivals settings steps := by
  rw [← (ledger_history hrun.toRun).1, ← (ledger_history hrun.toRun).2]
  exact (HandOff.agrees_of_run (handOff_of_run hrun.toRun)).complete (fits_of_guardedRun hrun)

/-- In every run of the process in which the buffer of the hand-over has room for every packet:
once every packet taken over has been delivered, the topic statistics summarize all the packets
that have arrived within the size limit and whose topics are authorized. -/
theorem statistics_of_arrivals
    (hrun : (machine topicMatchesSub settings jwtDecode).GuardedRun (HasRoom settings) steps p)
    (hdrained : p.Drained) :
    ∃ calls, calls.map Prod.snd = arrivals settings steps ∧
      Summarizes settings (acceptedOf topicMatchesSub settings calls) p.gateway.statistics := by
  have hcomplete := complete_of_guardedRun hrun
  rw [awaited_of_isIdle hdrained.1, hdrained.2, List.append_nil] at hcomplete
  rcases gateway_of_run hrun.toRun with ⟨steps', hgateway, hsteps⟩
  rcases Gateway.statistics_of_run hgateway with ⟨calls, hcalls, hstatistics⟩
  rw [ahead_of_isIdle hdrained.1] at hstatistics
  refine ⟨calls, by rw [hcalls, hsteps, hcomplete], ?_⟩
  rw [hstatistics]
  exact summarizes_handleMessages topicMatchesSub settings calls

/-- A packet on the topic {lit}`a`. -/
def packet (byte : UInt8) : ReceivedMessage :=
  ⟨PyStr.lit ['a'], [byte], 0, false⟩

/-- The delivery of a packet to the callbacks that are registered. -/
def delivering (message : ReceivedMessage) (callbacks : List Callback) : List ProcessStep :=
  [.drain (.deliver message)] ++
    (callbacks.map fun callback => .drain (.packetCall callback message false)) ++
    [.drain (.beginMessageCalls message), .drain .endDelivery]

/-- Two packets that arrive together, and one that arrives while they are delivered. -/
def threeArrivals : List ProcessStep :=
  [.onMessage (packet 49), .onMessage (packet 50),
    .drain (.takeBatch [packet 49, packet 50])] ++
    delivering (packet 49) [.handleMessage] ++ [.onMessage (packet 51)] ++
    delivering (packet 50) [.handleMessage] ++ [.drain .endDrain] ++
    [.drain (.takeBatch [packet 51])] ++ delivering (packet 51) [.handleMessage] ++
    [.drain .endDrain]

/-- Three packets arrive and are counted. -/
theorem statistics_of_arrivals_three :
    ∃ p calls, sample.Run threeArrivals p ∧
      calls.map Prod.snd = [packet 49, packet 50, packet 51] ∧
      Summarizes Settings.default
        (acceptedOf (fun filter topic => decide (MqttMatches filter topic)) Settings.default calls)
        p.gateway.statistics := by
  have hexec : (sample.guardedExec (HasRoom Settings.default) initial threeArrivals).isSome := by
    decide +kernel
  rcases Option.isSome_iff_exists.mp hexec with ⟨p, hp⟩
  have hrun := Machine.guardedRun_of_guardedExec hp
  have hstate : (sample.guardedExec (HasRoom Settings.default) initial threeArrivals).map
      (fun p => (p.handOff.activity.isIdle, p.handOff.pendingMessages)) = some (true, []) := by
    decide +kernel
  rw [hp, Option.map_some, Option.some.injEq] at hstate
  simp only [Prod.mk.injEq] at hstate
  rcases statistics_of_arrivals hrun hstate with ⟨calls, hcalls, hsummary⟩
  have harrivals : arrivals Settings.default threeArrivals =
      [packet 49, packet 50, packet 51] := by
    decide +kernel
  rw [harrivals] at hcalls
  exact ⟨p, calls, hrun.toRun, hcalls, hsummary⟩

/-- The callbacks that a delivery has still to call change neither the hub nor what a connection
has acquired and sent. -/
theorem ahead_same (topicMatchesSub : PyStr → PyStr → Bool) (settings : Settings) (p : Process)
    (id : Nat) :
    (p.ahead topicMatchesSub settings).hub = p.gateway.hub ∧
      ((p.ahead topicMatchesSub settings).streams id).handler = (p.gateway.streams id).handler ∧
      ((p.ahead topicMatchesSub settings).streams id).acquired =
        (p.gateway.streams id).acquired ∧
      Stream.Kept (p.gateway.streams id) ((p.ahead topicMatchesSub settings).streams id) := by
  unfold ahead
  split
  · next message due _ _ =>
      rcases Gateway.foldl_callback topicMatchesSub settings message due p.gateway with
        ⟨_, hhub, _, hstreams⟩
      rcases Gateway.iterate_wsCallback topicMatchesSub settings p.gateway.now message
        (due.count (.wsCallback id)) (p.gateway.streams id) with ⟨hhandler, hacquired⟩
      rw [hhub, hstreams id]
      exact ⟨rfl, hhandler, hacquired, Stream.iterate_wsCallback_kept topicMatchesSub settings
        p.gateway.now message _ _⟩
  · exact ⟨rfl, rfl, rfl, rfl, rfl, rfl, rfl, rfl⟩
  · exact ⟨rfl, rfl, rfl, rfl, rfl, rfl, rfl, rfl⟩
  · exact ⟨rfl, rfl, rfl, rfl, rfl, rfl, rfl, rfl⟩

/-- The callbacks that a delivery has still to call change neither the topic of a query nor where
it is. -/
theorem queries_ahead (topicMatchesSub : PyStr → PyStr → Bool) (settings : Settings) (p : Process)
    (id : Nat) :
    ((p.ahead topicMatchesSub settings).queries id).activity =
        (p.gateway.queries id).activity ∧
      ((p.ahead topicMatchesSub settings).queries id).topic = (p.gateway.queries id).topic := by
  unfold ahead
  split
  · next message due _ _ =>
      rw [(Gateway.foldl_callback topicMatchesSub settings message due p.gateway).2.2.1 id]
      exact Gateway.iterate_receive message _ _
  · exact ⟨rfl, rfl⟩
  · exact ⟨rfl, rfl⟩
  · exact ⟨rfl, rfl⟩

/-- In every run of the process: the data frames handed to a websocket are packets that have
arrived within the size limit, each at most once and in the order of their arrival. -/
theorem websocket_shows_arrivals
    (hrun : (machine topicMatchesSub settings jwtDecode).Run steps p) (id : Nat) :
    ((p.gateway.streams id).dataSent.map MQTTMessage.content).Sublist
      ((arrivals settings steps).map ReceivedMessage.content) := by
  rcases gateway_of_run hrun with ⟨steps', hgateway, hsteps⟩
  have hdispatched := Gateway.dispatched_of_run hgateway id
  rw [hsteps] at hdispatched
  have hsent := (ahead_same topicMatchesSub settings p id).2.2.2.sent
  rw [Stream.dataSent, ← hsent]
  exact ((Gateway.sifted_of_run hgateway id).sent.map _).trans
    (hdispatched.trans ((deliveries_sublist hrun).map _))

/-- A websocket that shows a packet: its handler subscribes, the packet is delivered, and the
sender hands it over. -/
def oneFrame : List ProcessStep :=
  let handler (l : HandlerStep) : ProcessStep := .consumer (.stream 0 (.handler l)) [] []
  let child (l : ChildStep) : ProcessStep := .consumer (.stream 0 (.child l)) [] []
  let header := PyStr.lit ['B', 'e', 'a', 'r', 'e', 'r', ' ', 'x']
  connecting ++
    [handler (.connect (some header) (PyStr.lit ['a'])), handler .resume,
      .consumer (.stream 0 .register) [] [.addPacketCallback (.wsCallback 0)],
      .consumer (.stream 0 (.acquire Gateway.connectedPaho))
        [.callSubscribe (PyStr.lit ['a']) 0, .proceed, .proceed] [],
      handler .sendReady, handler .resume, child .senderChecks, .onMessage (packet 49),
      .drain (.takeBatch [packet 49])] ++
    delivering (packet 49) [.handleMessage, .wsCallback 0] ++
    [.drain .endDrain, child .senderGets, child .senderHandsOver]

/-- The one data frame comes from the one packet that has arrived. -/
theorem websocket_shows_arrivals_one :
    ∃ p, sample.Run oneFrame p ∧ (p.gateway.streams 0).dataSent ≠ [] ∧
      ((p.gateway.streams 0).dataSent.map MQTTMessage.content).Sublist
        [(packet 49).content] := by
  have hexec : (sample.exec initial oneFrame).isSome := by decide +kernel
  rcases Option.isSome_iff_exists.mp hexec with ⟨p, hp⟩
  have hrun : sample.Run oneFrame p := Machine.run_iff_exec.mpr hp
  have hstate : (sample.exec initial oneFrame).map (fun p =>
      (p.gateway.streams 0).dataSent.isEmpty) = some false := by
    decide +kernel
  rw [hp, Option.map_some, Option.some.injEq] at hstate
  have hshown := websocket_shows_arrivals hrun 0
  have harrivals : (arrivals Settings.default oneFrame).map ReceivedMessage.content =
      [(packet 49).content] := by
    decide +kernel
  rw [harrivals] at hshown
  refine ⟨p, hrun, ?_, hshown⟩
  intro hnil
  rw [hnil] at hstate
  cases hstate

/-- In every run of the process: a retained query that has succeeded has answered with a packet
that has arrived within the size limit, for its topic, with the retain flag and a payload in
UTF-8, and with its text and QoS. -/
theorem retained_answers_arrived
    (hrun : (machine topicMatchesSub settings jwtDecode).Run steps p) (id : Nat)
    {response : RetainedQueryResponse}
    (hdone : (p.gateway.queries id).activity = .done (.response response))
    (hsuccess : response.success = true) :
    ∃ message ∈ arrivals settings steps, message.topic = (p.gateway.queries id).topic ∧
      message.retain = true ∧ ∃ text, Bytes.decode message.payload = .ok text ∧
        response =
          { success := true
            message := some ⟨(p.gateway.queries id).topic, text, message.qos, true⟩ } := by
  rcases gateway_of_run hrun with ⟨steps', hgateway, hsteps⟩
  have hhonest := Gateway.honest_of_run hgateway id
  rcases queries_ahead topicMatchesSub settings p id with ⟨hactivity, htopic⟩
  have houtcome : Query.outcome? ((p.ahead topicMatchesSub settings).queries id).activity =
      some (.response response) := by
    rw [hactivity, hdone]
    rfl
  rcases hhonest.outcome response houtcome hsuccess with
    ⟨message, ⟨hmem, htopic', hretain⟩, hanswer⟩
  rw [hsteps] at hmem
  rw [htopic] at htopic'
  rcases Query.response_of_answer hanswer hsuccess with ⟨text, htext, hresponse⟩
  refine ⟨message, (deliveries_sublist hrun).subset hmem, htopic', hretain, text, htext, ?_⟩
  rw [hresponse, htopic', hretain]

/-- A query that is answered with a retained packet. -/
def oneAnswer : List ProcessStep :=
  let message : ReceivedMessage := ⟨PyStr.lit ['a'], [49], 1, true⟩
  let query (l : QueryStep) : ProcessStep := .consumer (.query 0 l) [] []
  connecting ++
    [.consumer (.query 0 (.start (PyStr.lit ['a']))) [] [.addPacketCallback (.receive 0)],
      .consumer (.query 0 (.acquire Gateway.connectedPaho))
        [.callSubscribe (PyStr.lit ['a']) 0, .proceed, .proceed] [],
      .onMessage message, .drain (.takeBatch [message])] ++
    delivering message [.handleMessage, .receive 0] ++
    [.drain .endDrain, query .resume,
      .consumer (.query 0 .unregister) [] [.removePacketCallback (.receive 0)],
      .consumer (.query 0 (.release Gateway.connectedPaho))
        [.callUnsubscribe (PyStr.lit ['a']), .proceed] []]

/-- The answer comes from the retained packet that has arrived. -/
theorem retained_answers_arrived_one :
    ∃ p response, sample.Run oneAnswer p ∧
      (p.gateway.queries 0).activity = .done (.response response) ∧
      ∃ message ∈ arrivals Settings.default oneAnswer, message.retain = true ∧
        ∃ text, Bytes.decode message.payload = .ok text ∧
          response.message = some ⟨PyStr.lit ['a'], text, message.qos, true⟩ := by
  have hexec : (sample.exec initial oneAnswer).isSome := by decide +kernel
  rcases Option.isSome_iff_exists.mp hexec with ⟨p, hp⟩
  have hrun : sample.Run oneAnswer p := Machine.run_iff_exec.mpr hp
  have hstate : (sample.exec initial oneAnswer).map (fun p =>
      ((p.gateway.queries 0).activity, (p.gateway.queries 0).topic)) =
        some (.done (.response
          { success := true
            message := some ⟨PyStr.lit ['a'], PyStr.lit ['1'], 1, true⟩ }), PyStr.lit ['a']) := by
    decide +kernel
  rw [hp, Option.map_some, Option.some.injEq, Prod.mk.injEq] at hstate
  rcases retained_answers_arrived hrun 0 hstate.1 rfl with
    ⟨message, hmem, _, hretain, text, htext, hresponse⟩
  rw [hstate.2] at hresponse
  exact ⟨p, _, hrun, hstate.1, message, hmem, hretain, text, htext,
    congrArg RetainedQueryResponse.message hresponse⟩

end Process

end MqttGateway
