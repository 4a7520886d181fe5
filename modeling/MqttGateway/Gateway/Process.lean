import MqttGateway.Gateway.Ownership
import MqttGateway.Mqtt.HandOff
import MqttGateway.Mqtt.Session

/-!
# The whole process

The gateway on its event loop beside paho's network thread.  The parts are the three
machines of the other modules: the gateway with its consumers, the client with its
transport and the broker's session, and the hand-over of packets.  They share the
{lit}`MQTTClient`: its connection and subscriptions are in the first two, its packet
callbacks in the first and the third.

The network thread receives a packet or changes the transport at any moment.  The event loop
does one thing at a time: it runs a connection event to its end, or drains what has been
received, or lets a consumer take a step.  The label of a consumer's step names what the step
does to the client: the steps of its call, with the changes of the transport meanwhile, and its
changes of the packet callbacks.  The step is taken only if the consumer's code does that.

Main results:

- Theorem {lit}`session_of_run`: what a run of the process is for the broker's session.
- Theorem {lit}`handOff_of_run`: what it is for the hand-over of packets.
- Theorem {lit}`gateway_of_run`: what it is for the gateway, to which a packet is delivered in
  one step.
- Theorem {lit}`consumer_of_step`: every step that the code of a consumer takes is a step of the
  process, with the calls and the registrations that the code makes.
-/

namespace MqttGateway

open Toolkit

deriving instance DecidableEq for MQTTClient

/-- The state of the process. -/
structure Process where
  gateway : Gateway
  session : Session
  handOff : HandOff Callback

/-- The steps of the network thread and of the event loop. -/
inductive ProcessStep where
  /-- The network thread receives a packet. -/
  | onMessage (message : ReceivedMessage)
  /-- The transport changes, or the event loop goes on with connection events. -/
  | connection (step : SessionStep)
  /-- The event loop goes on with a drain. -/
  | drain (step : HandOffStep Callback)
  /-- The clock moves, or a consumer takes a step. -/
  | consumer (step : GatewayStep) (call : List SessionStep)
      (registration : List (HandOffStep Callback))

/-- The call that a step of the client's session enters. -/
def SessionStep.entered : SessionStep → Option ClientCall
  | .callSubscribe topic qos => some (.subscribe topic qos)
  | .callUnsubscribe topic => some (.unsubscribe topic)
  | .transportUp | .transportDown | .connectRefused | .runEvent | .proceed => none

/-- A step that is part of a call on the client, or a change of the transport meanwhile. -/
def SessionStep.withinCall : SessionStep → Bool
  | .runEvent => false
  | _ => true

/-- A change of the packet callbacks. -/
def HandOffStep.registers {κ : Type} : HandOffStep κ → Bool
  | .addPacketCallback _ | .removePacketCallback _ => true
  | _ => false

/-- A step that a consumer takes, or the clock. -/
def GatewayStep.onLoop : GatewayStep → Bool
  | .connection _ | .deliver _ => false
  | _ => true

/-- The answers of paho that a step is labelled with. -/
def GatewayStep.answers : GatewayStep → Option Paho
  | .restSubscribe _ _ paho | .restUnsubscribe _ paho | .query _ (.acquire paho)
  | .query _ (.release paho) | .stream _ (.acquire paho) | .stream _ (.release paho) => some paho
  | _ => none

/-- The packet that a step of the gateway delivers. -/
def GatewayStep.delivered : GatewayStep → List ReceivedMessage
  | .deliver message => [message]
  | _ => []

/-- No drain is under way. -/
def DrainActivity.isIdle {κ : Type} : DrainActivity κ → Bool
  | .idle => true
  | _ => false

namespace Process

/-- At the start of the application, with the callback of the service registered. -/
def initial : Process where
  gateway := Gateway.initial
  session := Session.initial
  handOff := { HandOff.initial with packetCallbacks := [.handleMessage] }

/-- The event loop is not in the middle of anything. -/
def Free (p : Process) : Prop :=
  p.session.activity = .idle ∧ p.handOff.activity.isIdle = true

instance (p : Process) : Decidable p.Free :=
  inferInstanceAs (Decidable (_ ∧ _))

/-- The gateway and the session keep the same client, and the gateway and the hand-over the
same packet callbacks. -/
def Shared (p : Process) : Prop :=
  p.session.client = p.gateway.hub.service.client ∧
    p.handOff.packetCallbacks = p.gateway.hub.packetCallbacks

instance (p : Process) : Decidable p.Shared :=
  inferInstanceAs (Decidable (_ ∧ _))

section Steps

variable (topicMatchesSub : PyStr → PyStr → Bool) (settings : Settings)
  (jwtDecode : ℚ → PyStr → Except PyException Claims)

/-- The transport and the connection events. -/
def connection (p : Process) : SessionStep → Option Process
  | .callSubscribe _ _ | .callUnsubscribe _ => none
  | .runEvent =>
      if p.Free then
        (p.session.step .runEvent).bind fun session =>
          (p.gateway.step topicMatchesSub settings jwtDecode
            (.connection session.client.connected)).map fun gateway =>
              { p with gateway, session }
      else none
  | l => (p.session.step l).map fun session => { p with session }

/-- A drain.  Each packet callback changes the gateway when it is called. -/
def drain (p : Process) (l : HandOffStep Callback) : Option Process :=
  match l with
  | .takeBatch _ =>
      if p.Free then (p.handOff.step settings l).map fun handOff => { p with handOff } else none
  | .packetCall callback message _ =>
      (p.handOff.step settings l).map fun handOff =>
        { p with
          gateway := p.gateway.callback topicMatchesSub settings message callback
          handOff }
  | .deliver _ | .beginMessageCalls _ | .messageCall _ _ _ | .endDelivery | .endDrain =>
      (p.handOff.step settings l).map fun handOff => { p with handOff }
  | .onMessage _ | .getMessage _ | .addPacketCallback _ | .removePacketCallback _
  | .addMessageCallback _ | .removeMessageCallback _ => none

/-- A step of a consumer, with what it does to the client. -/
def consumer (p : Process) (l : GatewayStep) (call : List SessionStep)
    (registration : List (HandOffStep Callback)) : Option Process :=
  if p.Free ∧ l.onLoop = true ∧ call.all SessionStep.withinCall = true ∧
      registration.all HandOffStep.registers = true then
    (p.gateway.step topicMatchesSub settings jwtDecode l).bind fun gateway =>
      (Session.machine.exec p.session call).bind fun session =>
        ((HandOff.machine settings).exec p.handOff registration).bind fun handOff =>
          let next : Process := { gateway, session, handOff }
          if next.Free ∧ next.Shared ∧ gateway.hub.service.calls =
              p.gateway.hub.service.calls ++ call.filterMap SessionStep.entered then
            some next
          else none
  else none

/-- One step. -/
def step (p : Process) : ProcessStep → Option Process
  | .onMessage message => some { p with handOff := p.handOff.onMessage settings message }
  | .connection l => p.connection topicMatchesSub settings jwtDecode l
  | .drain l => p.drain topicMatchesSub settings l
  | .consumer l call registration =>
      p.consumer topicMatchesSub settings jwtDecode l call registration

/-- The process as a machine. -/
def machine : Machine Process ProcessStep where
  init := initial
  step := step topicMatchesSub settings jwtDecode

end Steps

variable {topicMatchesSub : PyStr → PyStr → Bool} {settings : Settings}
  {jwtDecode : ℚ → PyStr → Except PyException Claims} {p p' : Process}

/-! ## Inversion -/

/-- What the transport and the connection events do. -/
theorem connection_cases {l : SessionStep}
    (h : p.connection topicMatchesSub settings jwtDecode l = some p') :
    (∃ session, p.session.step l = some session ∧ l.entered = none ∧ l ≠ .runEvent ∧
        p' = { p with session }) ∨
      ∃ session gateway, l = .runEvent ∧ p.Free ∧ p.session.step .runEvent = some session ∧
        p.gateway.step topicMatchesSub settings jwtDecode
          (.connection session.client.connected) = some gateway ∧
        p' = { p with gateway, session } := by
  cases l with
  | callSubscribe topic qos => cases h
  | callUnsubscribe topic => cases h
  | runEvent =>
      simp only [connection, Option.ite_none_right_eq_some] at h
      rcases h with ⟨hfree, h⟩
      rcases Option.bind_eq_some_iff.mp h with ⟨session, hsession, h⟩
      rcases Option.map_eq_some_iff.mp h with ⟨gateway, hgateway, rfl⟩
      exact Or.inr ⟨session, gateway, rfl, hfree, hsession, hgateway, rfl⟩
  | transportUp | transportDown | connectRefused | proceed =>
      rcases Option.map_eq_some_iff.mp h with ⟨session, hsession, rfl⟩
      exact Or.inl ⟨session, hsession, rfl, by simp, rfl⟩

/-- What a drain does. -/
theorem drain_cases {l : HandOffStep Callback}
    (h : p.drain topicMatchesSub settings l = some p') :
    ∃ handOff, p.handOff.step settings l = some handOff ∧ l.registers = false ∧
      ((∃ callback message raised, l = .packetCall callback message raised ∧
          p' = { p with
            gateway := p.gateway.callback topicMatchesSub settings message callback
            handOff }) ∨
        ((∀ callback message raised, l ≠ .packetCall callback message raised) ∧
          p' = { p with handOff })) := by
  cases l with
  | takeBatch batch =>
      simp only [drain, Option.ite_none_right_eq_some] at h
      rcases Option.map_eq_some_iff.mp h.2 with ⟨handOff, hhandOff, rfl⟩
      exact ⟨handOff, hhandOff, rfl, Or.inr ⟨by simp, rfl⟩⟩
  | packetCall callback message raised =>
      rcases Option.map_eq_some_iff.mp h with ⟨handOff, hhandOff, rfl⟩
      exact ⟨handOff, hhandOff, rfl, Or.inl ⟨callback, message, raised, rfl, rfl⟩⟩
  | deliver _ | beginMessageCalls _ | messageCall _ _ _ | endDelivery | endDrain =>
      rcases Option.map_eq_some_iff.mp h with ⟨handOff, hhandOff, rfl⟩
      exact ⟨handOff, hhandOff, rfl, Or.inr ⟨by simp, rfl⟩⟩
  | onMessage _ | getMessage _ | addPacketCallback _ | removePacketCallback _
  | addMessageCallback _ | removeMessageCallback _ => cases h

/-- What a step of a consumer does. -/
theorem consumer_cases {l : GatewayStep} {call : List SessionStep}
    {registration : List (HandOffStep Callback)}
    (h : p.consumer topicMatchesSub settings jwtDecode l call registration = some p') :
    p.Free ∧ l.onLoop = true ∧
      p.gateway.step topicMatchesSub settings jwtDecode l = some p'.gateway ∧
      Session.machine.exec p.session call = some p'.session ∧
      (HandOff.machine settings).exec p.handOff registration = some p'.handOff ∧
      registration.all HandOffStep.registers = true ∧ p'.Free ∧ p'.Shared ∧
      p'.gateway.hub.service.calls =
        p.gateway.hub.service.calls ++ call.filterMap SessionStep.entered := by
  simp only [consumer, Option.ite_none_right_eq_some] at h
  rcases h with ⟨⟨hfree, honLoop, _, hregisters⟩, h⟩
  rcases Option.bind_eq_some_iff.mp h with ⟨gateway, hgateway, h⟩
  rcases Option.bind_eq_some_iff.mp h with ⟨session, hsession, h⟩
  rcases Option.bind_eq_some_iff.mp h with ⟨handOff, hhandOff, h⟩
  rw [Option.ite_none_right_eq_some] at h
  rcases h with ⟨⟨hfree', hshared, hcalls⟩, heq⟩
  cases heq
  exact ⟨hfree, honLoop, hgateway, hsession, hhandOff, hregisters, hfree', hshared, hcalls⟩

/-! ## The shared client -/

/-- A packet callback changes neither the registry nor the list of callbacks. -/
theorem callback_hub (g : Gateway) (message : ReceivedMessage) (callback : Callback) :
    (g.callback topicMatchesSub settings message callback).hub = g.hub := by
  cases callback <;> rfl

/-- A packet that is received waits for a drain and registers nothing. -/
theorem onMessage_activity (s : HandOff Callback) (message : ReceivedMessage) :
    (s.onMessage settings message).activity = s.activity ∧
      (s.onMessage settings message).packetCallbacks = s.packetCallbacks := by
  unfold HandOff.onMessage
  split
  · dsimp only
    split
    · exact ⟨rfl, rfl⟩
    · exact ⟨rfl, rfl⟩
  · exact ⟨rfl, rfl⟩

/-- A step that does not register a packet callback keeps the list of them. -/
theorem packetCallbacks_of_step {s s' : HandOff Callback} {l : HandOffStep Callback}
    (h : s.step settings l = some s') (hl : l.registers = false) :
    s'.packetCallbacks = s.packetCallbacks := by
  cases l with
  | onMessage message =>
      cases h
      exact (onMessage_activity s message).2
  | takeBatch batch =>
      simp only [HandOff.step] at h
      split at h
      · rw [Option.ite_none_right_eq_some] at h
        cases h.2
        rfl
      · cases h
  | deliver message =>
      simp only [HandOff.step] at h
      split at h
      · rw [Option.ite_none_right_eq_some] at h
        cases h.2
        unfold HandOff.deliver
        split
        · rfl
        · rfl
      · cases h
  | packetCall callback message raised | beginMessageCalls message
  | messageCall callback message raised =>
      simp only [HandOff.step] at h
      split at h
      · rw [Option.ite_none_right_eq_some] at h
        cases h.2
        rfl
      · cases h
  | endDelivery | endDrain =>
      simp only [HandOff.step] at h
      split at h
      · cases h
        rfl
      · cases h
  | getMessage item =>
      simp only [HandOff.step] at h
      split at h
      · rw [Option.ite_none_right_eq_some] at h
        cases h.2
        rfl
      · cases h
  | addMessageCallback callback | removeMessageCallback callback =>
      cases h
      rfl
  | addPacketCallback callback | removePacketCallback callback => cases hl

/-- What holds between two steps of the event loop. -/
structure Consistent (p : Process) : Prop where
  shared : p.Shared
  /-- A call on the client is not left in the middle. -/
  between : p.session.activity = .idle ∨ ∃ rest, p.session.activity = .resubscribing rest

/-- A step of the session that enters no call keeps the client's subscriptions, and changes
{lit}`_connected` only by a connection event. -/
theorem Consistent.session_step (h : p.Consistent) {l : SessionStep} {session : Session}
    (hstep : p.session.step l = some session) (hl : l.entered = none) :
    session.client.subscriptions = p.session.client.subscriptions ∧
      (l ≠ .runEvent → session.client = p.session.client) ∧
      (session.activity = .idle ∨ ∃ rest, session.activity = .resubscribing rest) := by
  rcases Session.step_cases hstep with ⟨_, rfl⟩ | ⟨_, rfl⟩ | ⟨_, _, rfl⟩ |
    ⟨hevent, event, rest, hidle, _, rfl⟩ | ⟨_, _, rfl, _⟩ | ⟨_, rfl, _⟩ | ⟨rfl, hproceed⟩
  · exact ⟨rfl, fun _ => rfl, h.between⟩
  · exact ⟨rfl, fun _ => rfl, h.between⟩
  · exact ⟨rfl, fun _ => rfl, h.between⟩
  · refine ⟨Session.runEvent_subscriptions _ _ _, fun hne => absurd hevent hne, ?_⟩
    unfold Session.runEvent
    split
    · exact Or.inr ⟨_, rfl⟩
    · exact Or.inl hidle
    · exact Or.inl hidle
  · cases hl
  · cases hl
  · rcases h.between with hidle | ⟨rest, hsending⟩
    · rw [hidle] at hproceed
      cases hproceed
    · rw [hsending] at hproceed
      rcases rest with _ | ⟨⟨topic, qos⟩, rest⟩
      · cases hproceed
        exact ⟨rfl, fun _ => rfl, Or.inl rfl⟩
      · cases hproceed
        exact ⟨by simp, by simp, Or.inr ⟨_, rfl⟩⟩

/-- At the start, the gateway and the session have the same client. -/
theorem consistent_initial : initial.Consistent where
  shared := ⟨rfl, rfl⟩
  between := Or.inl rfl

/-- Every step keeps the three parts of the process together. -/
theorem Consistent.step (h : p.Consistent) {l : ProcessStep}
    (hstep : p.step topicMatchesSub settings jwtDecode l = some p') : p'.Consistent := by
  cases l with
  | onMessage message =>
      cases hstep
      exact ⟨⟨h.shared.1, (onMessage_activity p.handOff message).2.trans h.shared.2⟩, h.between⟩
  | connection l =>
      rcases connection_cases hstep with ⟨session, hsession, hl, hne, rfl⟩ |
        ⟨session, gateway, rfl, _, hsession, hgateway, rfl⟩
      · rcases h.session_step hsession hl with ⟨_, hclient, hbetween⟩
        exact ⟨⟨(hclient hne).trans h.shared.1, h.shared.2⟩, hbetween⟩
      · rcases h.session_step hsession rfl with ⟨hsubs, _, hbetween⟩
        cases hgateway
        refine ⟨⟨?_, h.shared.2⟩, hbetween⟩
        show session.client =
          ⟨session.client.connected, p.gateway.hub.service.client.subscriptions⟩
        rw [← h.shared.1, ← hsubs]
  | drain l =>
      rcases drain_cases hstep with ⟨handOff, hhandOff, hl, ⟨callback, message, _, _, rfl⟩ |
        ⟨_, rfl⟩⟩
      · refine ⟨⟨?_, ?_⟩, h.between⟩
        · rw [callback_hub]
          exact h.shared.1
        · rw [callback_hub]
          exact (packetCallbacks_of_step hhandOff hl).trans h.shared.2
      · exact ⟨⟨h.shared.1, (packetCallbacks_of_step hhandOff hl).trans h.shared.2⟩, h.between⟩
  | consumer l call registration =>
      rcases consumer_cases hstep with ⟨_, _, _, _, _, _, hfree, hshared, _⟩
      exact ⟨hshared, Or.inl hfree.1⟩

/-- The three parts of the process agree in every reachable state. -/
theorem consistent_of_reachable
    (hp : (machine topicMatchesSub settings jwtDecode).Reachable p) : p.Consistent :=
  hp.invariant consistent_initial fun _ _ _ h hstep => h.step hstep

/-! ## What a run is for each part -/

/-- The steps of the session in a step of the process. -/
def sessionSteps : ProcessStep → List SessionStep
  | .connection l => [l]
  | .consumer _ call _ => call
  | .onMessage _ | .drain _ => []

/-- The steps of the hand-over in a step of the process. -/
def handOffSteps : ProcessStep → List (HandOffStep Callback)
  | .onMessage message => [.onMessage message]
  | .drain l => [l]
  | .consumer _ _ registration => registration
  | .connection _ => []

/-- The packet that a step of the process delivers. -/
def deliveries : ProcessStep → List ReceivedMessage
  | .drain (.deliver message) => [message]
  | _ => []

/-- Every step of the process is a few steps of the broker's session. -/
theorem session_of_step {l : ProcessStep}
    (hstep : p.step topicMatchesSub settings jwtDecode l = some p') :
    Session.machine.exec p.session (sessionSteps l) = some p'.session := by
  cases l with
  | onMessage message =>
      cases hstep
      rfl
  | connection l =>
      rcases connection_cases hstep with ⟨session, hsession, _, _, rfl⟩ |
        ⟨session, gateway, rfl, _, hsession, _, rfl⟩
      · simp [sessionSteps, Session.machine, hsession]
      · simp [sessionSteps, Session.machine, hsession]
  | drain l =>
      rcases drain_cases hstep with ⟨handOff, _, _, ⟨_, _, _, _, rfl⟩ | ⟨_, rfl⟩⟩
      · rfl
      · rfl
  | consumer l call registration => exact (consumer_cases hstep).2.2.2.1

/-- In the broker's session a run of the process is a run. -/
theorem session_of_run {steps : List ProcessStep}
    (hrun : (machine topicMatchesSub settings jwtDecode).Run steps p) :
    Session.machine.Run (steps.flatMap sessionSteps) p.session := by
  rcases hrun.simulates Process.session (fun l => [l]) sessionSteps [] rfl
    (fun _ l _ _ hstep => ⟨sessionSteps l, session_of_step hstep, List.flatMap_singleton' _⟩) with
    ⟨steps', hsession, hsteps⟩
  rw [List.flatMap_singleton'] at hsteps
  rw [hsteps] at hsession
  exact hsession

/-- Every step of the process is a few steps of the hand-over. -/
theorem handOff_of_step {l : ProcessStep}
    (hstep : p.step topicMatchesSub settings jwtDecode l = some p') :
    (HandOff.machine settings).exec p.handOff (handOffSteps l) = some p'.handOff := by
  cases l with
  | onMessage message =>
      cases hstep
      rfl
  | connection l =>
      rcases connection_cases hstep with ⟨_, _, _, _, rfl⟩ | ⟨_, _, _, _, _, _, rfl⟩
      · rfl
      · rfl
  | drain l =>
      rcases drain_cases hstep with ⟨handOff, hhandOff, _, ⟨_, _, _, _, rfl⟩ | ⟨_, rfl⟩⟩
      · simp [handOffSteps, HandOff.machine, hhandOff]
      · simp [handOffSteps, HandOff.machine, hhandOff]
  | consumer l call registration => exact (consumer_cases hstep).2.2.2.2.1

/-- In the hand-over of packets a run of the process is a run that starts with the registration
of the service's callback. -/
theorem handOff_of_run {steps : List ProcessStep}
    (hrun : (machine topicMatchesSub settings jwtDecode).Run steps p) :
    (HandOff.machine settings).Run
      (.addPacketCallback .handleMessage :: steps.flatMap handOffSteps) p.handOff := by
  rcases hrun.simulates Process.handOff (fun l => [l]) handOffSteps
    [.addPacketCallback .handleMessage] rfl
    (fun _ l _ _ hstep => ⟨handOffSteps l, handOff_of_step hstep, List.flatMap_singleton' _⟩) with
    ⟨steps', hhandOff, hsteps⟩
  rw [List.flatMap_singleton', List.flatMap_singleton', List.singleton_append] at hsteps
  rw [hsteps] at hhandOff
  exact hhandOff

/-- The gateway, with the callbacks that the delivery under way has still to call. -/
def ahead (topicMatchesSub : PyStr → PyStr → Bool) (settings : Settings) (p : Process) : Gateway :=
  match p.handOff.activity with
  | .packetCalls message due _ =>
      due.foldl (Gateway.callback topicMatchesSub settings message) p.gateway
  | .idle | .draining _ | .messageCalls _ _ _ => p.gateway

/-- With no drain under way, nothing is ahead of the gateway. -/
theorem ahead_of_isIdle (h : p.handOff.activity.isIdle = true) :
    p.ahead topicMatchesSub settings = p.gateway := by
  unfold ahead
  split
  · next hactivity =>
      rw [hactivity] at h
      cases h
  · rfl
  · rfl
  · rfl

/-- A step of a drain delivers its packet to the gateway at once, or is no step of it. -/
theorem ahead_of_drain (h : p.Consistent)
    (hqueue : p.handOff.messageQueue.length ≤ settings.mqttQueueSize) {l : HandOffStep Callback}
    (hstep : p.drain topicMatchesSub settings l = some p') :
    (∃ message, l = .deliver message ∧
        p'.ahead topicMatchesSub settings =
          (p.ahead topicMatchesSub settings).deliver topicMatchesSub settings message) ∨
      (deliveries (.drain l) = [] ∧
        p'.ahead topicMatchesSub settings = p.ahead topicMatchesSub settings) := by
  rcases drain_cases hstep with ⟨handOff, hhandOff, _, hnext⟩
  cases l with
  | onMessage _ | getMessage _ | addPacketCallback _ | removePacketCallback _
  | addMessageCallback _ | removeMessageCallback _ => cases hstep
  | deliver message =>
      rcases hnext with ⟨_, _, _, hl, _⟩ | ⟨_, rfl⟩
      · cases hl
      · simp only [HandOff.step] at hhandOff
        split at hhandOff
        · next m rest hactivity =>
            rw [Option.ite_none_right_eq_some] at hhandOff
            rcases hhandOff with ⟨rfl, hdeliver⟩
            rw [HandOff.deliver, HandOff.enqueue_run settings hqueue] at hdeliver
            cases hdeliver
            refine Or.inl ⟨message, rfl, ?_⟩
            -- The callbacks registered now are the ones that are called.
            simp only [ahead, hactivity, Gateway.deliver, h.shared.2]
        · cases hhandOff
  | packetCall callback message raised =>
      rcases hnext with ⟨_, _, _, hl, rfl⟩ | ⟨hne, _⟩
      · cases hl
        simp only [HandOff.step] at hhandOff
        split at hhandOff
        · next hactivity =>
            rw [Option.ite_none_right_eq_some] at hhandOff
            rcases hhandOff with ⟨⟨rfl, rfl⟩, heq⟩
            cases heq
            refine Or.inr ⟨rfl, ?_⟩
            simp only [ahead, hactivity, List.foldl_cons]
        · cases hhandOff
      · exact absurd rfl (hne callback message raised)
  | takeBatch batch =>
      rcases hnext with ⟨_, _, _, hl, _⟩ | ⟨_, rfl⟩
      · cases hl
      · simp only [HandOff.step] at hhandOff
        split at hhandOff
        · next hactivity =>
            rw [Option.ite_none_right_eq_some] at hhandOff
            cases hhandOff.2
            refine Or.inr ⟨rfl, ?_⟩
            simp only [ahead, hactivity, HandOff.takeBatch]
        · cases hhandOff
  | beginMessageCalls message | messageCall callback message raised =>
      rcases hnext with ⟨_, _, _, hl, _⟩ | ⟨_, rfl⟩
      · cases hl
      · simp only [HandOff.step] at hhandOff
        split at hhandOff
        · next hactivity =>
            rw [Option.ite_none_right_eq_some] at hhandOff
            cases hhandOff.2
            refine Or.inr ⟨rfl, ?_⟩
            simp [ahead, hactivity]
        · cases hhandOff
  | endDelivery | endDrain =>
      rcases hnext with ⟨_, _, _, hl, _⟩ | ⟨_, rfl⟩
      · cases hl
      · simp only [HandOff.step] at hhandOff
        split at hhandOff
        · next hactivity =>
            cases hhandOff
            refine Or.inr ⟨rfl, ?_⟩
            simp [ahead, hactivity]
        · cases hhandOff

/-- A step of the process is at most one step of the gateway. -/
theorem gateway_of_step (h : p.Consistent)
    (hqueue : p.handOff.messageQueue.length ≤ settings.mqttQueueSize) {l : ProcessStep}
    (hstep : p.step topicMatchesSub settings jwtDecode l = some p') :
    ∃ ls, (Gateway.machine topicMatchesSub settings jwtDecode).exec
        (p.ahead topicMatchesSub settings) ls = some (p'.ahead topicMatchesSub settings) ∧
      ls.flatMap GatewayStep.delivered = deliveries l := by
  cases l with
  | onMessage message =>
      cases hstep
      refine ⟨[], ?_, rfl⟩
      simp only [Machine.exec_nil, ahead, (onMessage_activity p.handOff message).1]
  | connection l =>
      rcases connection_cases hstep with ⟨session, _, _, _, rfl⟩ |
        ⟨session, gateway, rfl, hfree, _, hgateway, rfl⟩
      · exact ⟨[], rfl, rfl⟩
      · refine ⟨[.connection session.client.connected], ?_, rfl⟩
        rw [ahead_of_isIdle hfree.2, ahead_of_isIdle (by exact hfree.2)]
        simp [Gateway.machine, hgateway]
  | drain l =>
      rcases ahead_of_drain h hqueue hstep with ⟨message, rfl, hahead⟩ | ⟨hnone, hahead⟩
      · refine ⟨[.deliver message], ?_, rfl⟩
        rw [hahead]
        rfl
      · refine ⟨[], ?_, hnone.symm⟩
        rw [hahead]
        rfl
  | consumer l call registration =>
      rcases consumer_cases hstep with ⟨hfree, honLoop, hgateway, _, _, _, hfree', _, _⟩
      refine ⟨[l], ?_, ?_⟩
      · rw [ahead_of_isIdle hfree.2, ahead_of_isIdle hfree'.2]
        simp [Gateway.machine, hgateway]
      · cases l with
        | deliver message => cases honLoop
        | _ => rfl

/-- The same for a process that has got there in a run. -/
theorem gateway_of_reachable (hp : (machine topicMatchesSub settings jwtDecode).Reachable p)
    {l : ProcessStep} (hstep : p.step topicMatchesSub settings jwtDecode l = some p') :
    ∃ ls, (Gateway.machine topicMatchesSub settings jwtDecode).exec
        (p.ahead topicMatchesSub settings) ls = some (p'.ahead topicMatchesSub settings) ∧
      ls.flatMap GatewayStep.delivered = deliveries l := by
  refine gateway_of_step (consistent_of_reachable hp) ?_ hstep
  rcases hp with ⟨steps, hrun⟩
  have hagrees := HandOff.agrees_of_run (handOff_of_run hrun)
  rw [hagrees.queue, length_rtake]
  omega

/-- For the gateway a run of the process is a run in which the same packets are delivered. -/
theorem gateway_of_run {steps : List ProcessStep}
    (hrun : (machine topicMatchesSub settings jwtDecode).Run steps p) :
    ∃ steps', (Gateway.machine topicMatchesSub settings jwtDecode).Run steps'
        (p.ahead topicMatchesSub settings) ∧
      steps'.flatMap GatewayStep.delivered = steps.flatMap deliveries :=
  hrun.simulates (ahead topicMatchesSub settings) GatewayStep.delivered deliveries [] rfl
    fun _ _ _ hp hstep => gateway_of_reachable hp hstep

/-- What follows in a run of the process follows for the gateway, with the same packets. -/
theorem gateway_of_exec {steps : List ProcessStep}
    (hp : (machine topicMatchesSub settings jwtDecode).Reachable p)
    (hexec : (machine topicMatchesSub settings jwtDecode).exec p steps = some p') :
    ∃ steps', (Gateway.machine topicMatchesSub settings jwtDecode).exec
        (p.ahead topicMatchesSub settings) steps' = some (p'.ahead topicMatchesSub settings) ∧
      steps'.flatMap GatewayStep.delivered = steps.flatMap deliveries :=
  Machine.exec_simulates (ahead topicMatchesSub settings) GatewayStep.delivered deliveries
    (fun _ _ _ hp hstep => gateway_of_reachable hp hstep) hp hexec

/-! ## Every step of a consumer is one of the process -/

/-- A step of a consumer makes at most one call on the client, whose outcome is the client
method's. -/
def OneCall (paho : Paho) (service service' : MQTTService Owner) : Prop :=
  (service'.calls = service.calls ∧ service'.client = service.client) ∨
    (∃ topic qos, service'.calls = service.calls ++ [.subscribe topic qos] ∧
      service'.client = ((MQTTClient.subscribe paho topic qos).run service.client).2) ∨
    ∃ topic, service'.calls = service.calls ++ [.unsubscribe topic] ∧
      service'.client = ((MQTTClient.unsubscribe paho topic).run service.client).2

/-- An acquisition makes one call on the client at most. -/
theorem oneCall_acquire (paho : Paho) (topic : PyStr) (qos : Int) (owner : Owner)
    (refresh : Bool) (service : MQTTService Owner) :
    OneCall paho service ((MQTTService.acquireSubscription topicMatchesSub settings paho topic qos
      owner refresh).run service).2 := by
  rcases service.exists_max_ownersWith topic qos owner with ⟨q, hq⟩
  unfold MQTTService.acquireSubscription
  cases hauth : authorizeTopic topicMatchesSub topic settings true with
  | error e =>
      refine Or.inl ?_
      simp
  | ok _ =>
      by_cases hneeded : refresh ∨ topic ∉ service.subscriptions ∨
          service.subscriptions.get? topic ≠ some q
      · refine Or.inr (Or.inl ⟨topic, q, ?_⟩)
        rcases MQTTClient.subscribe_run paho topic q service.client with ⟨e, hclient⟩ | hclient
        · simp [MQTTService.pyMax, hq, hneeded, MQTTService.callClient, hclient]
        · simp [MQTTService.pyMax, hq, hneeded, MQTTService.callClient, hclient]
      · refine Or.inl ?_
        simp [MQTTService.pyMax, hq, hneeded]

/-- A release makes one call on the client at most. -/
theorem oneCall_release (paho : Paho) (topic : PyStr) (owner : Owner)
    (service : MQTTService Owner) :
    OneCall paho service ((MQTTService.releaseSubscription paho topic owner).run service).2 := by
  rcases MQTTService.releaseSubscription_run paho topic owner service with
    ⟨_, hrun⟩ | ⟨owners, _, _, _, _, _, _, _, hrun⟩ | ⟨_, outcome, hrun⟩
  · rw [hrun]
    exact Or.inl ⟨rfl, rfl⟩
  · rw [hrun]
    exact Or.inl ⟨rfl, rfl⟩
  · rw [hrun]
    refine Or.inr (Or.inr ⟨topic, rfl, ?_⟩)
    rcases MQTTClient.unsubscribe_run paho topic service.client with ⟨_, hclient⟩
    rw [hclient]
    rfl

/-- What a step of a consumer does to the client: at most one call, and at most one change of the
packet callbacks. -/
structure Touches (paho : Paho) (hub hub' : Hub) : Prop where
  call : OneCall paho hub.service hub'.service
  callbacks : hub'.packetCallbacks = hub.packetCallbacks ∨
    (∃ callback, hub'.packetCallbacks = hub.packetCallbacks ++ [callback]) ∨
    ∃ callback, hub'.packetCallbacks = hub.packetCallbacks.erase callback

/-- Who leaves the hub alone calls nothing. -/
theorem Touches.stay (paho : Paho) (hub : Hub) : Touches paho hub hub :=
  ⟨Or.inl ⟨rfl, rfl⟩, Or.inl rfl⟩

/-- Who registers a callback calls nothing. -/
theorem Touches.add (paho : Paho) (hub : Hub) (callback : Callback) :
    Touches paho hub (hub.addPacketCallback callback) :=
  ⟨Or.inl ⟨rfl, rfl⟩, Or.inr (Or.inl ⟨callback, rfl⟩)⟩

/-- Who takes a callback back calls nothing. -/
theorem Touches.remove (paho : Paho) (hub : Hub) (callback : Callback) :
    Touches paho hub (hub.removePacketCallback callback) := by
  unfold Hub.removePacketCallback
  split
  · exact ⟨Or.inl ⟨rfl, rfl⟩, Or.inr (Or.inr ⟨callback, rfl⟩)⟩
  · exact Touches.stay paho hub

/-- An acquisition on the hub makes one call at most. -/
theorem Touches.acquire (paho : Paho) (hub : Hub) (topic : PyStr) (qos : Int) (owner : Owner)
    (refresh : Bool) :
    Touches paho hub (hub.acquire topicMatchesSub settings paho topic qos owner refresh).2 :=
  ⟨oneCall_acquire paho topic qos owner refresh hub.service, Or.inl rfl⟩

/-- A release on the hub makes one call at most. -/
theorem Touches.release (paho : Paho) (hub : Hub) (topic : PyStr) (owner : Owner) :
    Touches paho hub (hub.release paho topic owner).2 :=
  ⟨oneCall_release paho topic owner hub.service, Or.inl rfl⟩

/-- Every step of a consumer touches the client as one of its methods does. -/
theorem touches_of_step {g g' : Gateway} {l : GatewayStep} (honLoop : l.onLoop = true)
    (hstep : g.step topicMatchesSub settings jwtDecode l = some g') {paho : Paho}
    (hanswers : ∀ answers, l.answers = some answers → answers = paho) :
    Touches paho g.hub g'.hub := by
  cases l with
  | connection _ | deliver _ => cases honLoop
  | tick now =>
      simp only [Gateway.step, Option.ite_none_right_eq_some] at hstep
      cases hstep.2
      exact Touches.stay paho g.hub
  | restSubscribe topic qos answers =>
      cases hstep
      rw [hanswers answers rfl]
      exact Touches.acquire paho g.hub topic qos .rest false
  | restUnsubscribe topic answers =>
      cases hstep
      rw [hanswers answers rfl]
      simp only [Gateway.restUnsubscribe]
      split
      · exact Touches.stay paho g.hub
      · exact Touches.release paho g.hub topic .rest
  | query id l =>
      rcases Option.map_eq_some_iff.mp hstep with ⟨⟨hub, q⟩, hquery, heq⟩
      cases heq
      rcases Query.step_cases hquery with ⟨_, _, _, _, _, rfl, _⟩ | ⟨_, _, _, _, rfl, _⟩ |
        ⟨answers, rfl, _, rfl, _⟩ | ⟨_, _, _, _, rfl, _⟩ | ⟨_, _, rfl, _⟩ | ⟨_, _, rfl, _⟩ |
        ⟨_, _, _, rfl, _⟩ | ⟨answers, _, rfl, _, rfl, _⟩
      · exact Touches.stay paho g.hub
      · exact Touches.add paho g.hub _
      · rw [hanswers answers rfl]
        exact Touches.acquire paho g.hub _ _ _ _
      · exact Touches.stay paho g.hub
      · exact Touches.stay paho g.hub
      · exact Touches.stay paho g.hub
      · exact Touches.remove paho g.hub _
      · rw [hanswers answers rfl]
        exact Touches.release paho g.hub _ _
  | stream id l =>
      rcases Option.map_eq_some_iff.mp hstep with ⟨⟨hub, s⟩, hstream, heq⟩
      cases heq
      rcases Stream.step_cases hstream with ⟨_, _, _, rfl⟩ | ⟨_, _, _, rfl⟩ | ⟨_, _, rfl, _⟩ |
        ⟨answers, topic, _, rfl, _, rfl, _⟩ | ⟨_, _, _, rfl, _⟩ |
        ⟨answers, topic, _, _, rfl, _, rfl, _⟩
      · exact Touches.stay paho g.hub
      · exact Touches.stay paho g.hub
      · exact Touches.add paho g.hub _
      · rw [hanswers answers rfl]
        exact Touches.acquire paho g.hub _ _ _ _
      · exact Touches.remove paho g.hub _
      · rw [hanswers answers rfl]
        exact Touches.release paho g.hub _ _

/-- Every step of a consumer that gets paho's answers from the transport as it is, is one of
the process when the event loop is free. -/
theorem consumer_of_step (h : p.Consistent) (hfree : p.Free) {l : GatewayStep}
    (honLoop : l.onLoop = true)
    (hanswers : ∀ answers, l.answers = some answers → answers = p.session.paho) {g : Gateway}
    (hstep : p.gateway.step topicMatchesSub settings jwtDecode l = some g) :
    ∃ call registration p', p.step topicMatchesSub settings jwtDecode
        (.consumer l call registration) = some p' ∧ p'.gateway = g := by
  have htouches := touches_of_step honLoop hstep hanswers
  have hcall : ∃ call session, call.all SessionStep.withinCall = true ∧
      Session.machine.exec p.session call = some session ∧ session.activity = .idle ∧
      session.client = g.hub.service.client ∧
      g.hub.service.calls =
        p.gateway.hub.service.calls ++ call.filterMap SessionStep.entered := by
    rcases htouches.call with ⟨hcalls, hclient⟩ | ⟨topic, qos, hcalls, hclient⟩ |
      ⟨topic, hcalls, hclient⟩
    · exact ⟨[], p.session, rfl, rfl, hfree.1, by rw [hclient, h.shared.1], by simp [hcalls]⟩
    · rcases Session.exec_callSubscribe hfree.1 topic qos with
        ⟨steps, session, hsteps, hexec, hidle, hsession, _⟩
      refine ⟨_, session, ?_, hexec, hidle, by rw [hsession, hclient, h.shared.1], ?_⟩
      · rw [List.all_cons, Bool.and_eq_true, List.all_eq_true]
        exact ⟨rfl, fun l hl => by rw [hsteps l hl]; rfl⟩
      · have hnone : steps.filterMap SessionStep.entered = [] := by
          rw [List.filterMap_eq_nil_iff]
          exact fun l hl => by rw [hsteps l hl]; rfl
        rw [hcalls, List.filterMap_cons, hnone]
        rfl
    · rcases Session.exec_callUnsubscribe hfree.1 topic with
        ⟨steps, session, hsteps, hexec, hidle, hsession, _⟩
      refine ⟨_, session, ?_, hexec, hidle, by rw [hsession, hclient, h.shared.1], ?_⟩
      · rw [List.all_cons, Bool.and_eq_true, List.all_eq_true]
        exact ⟨rfl, fun l hl => by rw [hsteps l hl]; rfl⟩
      · have hnone : steps.filterMap SessionStep.entered = [] := by
          rw [List.filterMap_eq_nil_iff]
          exact fun l hl => by rw [hsteps l hl]; rfl
        rw [hcalls, List.filterMap_cons, hnone]
        rfl
  have hregistration : ∃ registration handOff,
      registration.all HandOffStep.registers = true ∧
      (HandOff.machine settings).exec p.handOff registration = some handOff ∧
      handOff.activity = p.handOff.activity ∧
      handOff.packetCallbacks = g.hub.packetCallbacks := by
    rcases htouches.callbacks with hsame | ⟨callback, hadded⟩ | ⟨callback, hremoved⟩
    · exact ⟨[], p.handOff, rfl, rfl, rfl, by rw [hsame, h.shared.2]⟩
    · exact ⟨[.addPacketCallback callback], _, rfl, rfl, rfl, by rw [hadded, ← h.shared.2]⟩
    · exact ⟨[.removePacketCallback callback], _, rfl, rfl, rfl, by rw [hremoved, ← h.shared.2]⟩
  rcases hcall with ⟨call, session, hwithin, hexec, hidle, hclient, hcalls⟩
  rcases hregistration with ⟨registration, handOff, hregisters, hexec', hactivity, hcallbacks⟩
  have hfree' : Free ⟨g, session, handOff⟩ := ⟨hidle, by rw [hactivity]; exact hfree.2⟩
  have hshared : Shared ⟨g, session, handOff⟩ := ⟨hclient, hcallbacks⟩
  refine ⟨call, registration, ⟨g, session, handOff⟩, ?_, rfl⟩
  simp only [step, consumer]
  rw [if_pos ⟨hfree, honLoop, hwithin, hregisters⟩, hstep, hexec, hexec']
  simp only [Option.bind_some]
  rw [if_pos ⟨hfree', hshared, hcalls⟩]

/-- A process to try runs on: MQTT matching for paho's matcher, the default settings, and tokens
that are all accepted and expire at second 100. -/
def sample : Machine Process ProcessStep :=
  machine (fun filter topic => decide (MqttMatches filter topic)) Settings.default
    fun _ _ => .ok ⟨.str Settings.default.apiUsername, none, .ok 100⟩

/-- The first connection. -/
def connecting : List ProcessStep :=
  [.connection .transportUp, .connection .runEvent, .connection .proceed]

end Process

end MqttGateway
