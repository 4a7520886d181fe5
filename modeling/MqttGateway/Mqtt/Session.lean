import MqttGateway.Mqtt.Client
import MqttGateway.Library.Machine

/-!
# Broker sessions across reconnects

The client beside the transport and the broker.  Paho's network thread changes
the transport at any moment and schedules one event on the event loop for each
change; the event loop runs these events in order, between calls of
{lit}`MQTTClient.subscribe` and {lit}`MQTTClient.unsubscribe`.  The event loop does one thing at a
time, and the transport may change between any two of its accesses to paho.

Main results:

- Theorem {lit}`subscriptions_resubscribed`: when the transport is up and no event is
  pending, every subscription of the client is in the broker's session.
- Theorem {lit}`no_ghost_of_guardedRun`: the broker's session has no other topic, as long
  as no topic of the session is unsubscribed before the event loop has noticed that
  the transport is up.
- Theorem {lit}`ghost_of_unnoticed`: every run in which that happens can settle with a topic
  in the broker's session that the client has released.
-/

namespace MqttGateway

open Toolkit

/-- A connection event that is scheduled on the event loop. -/
inductive ConnectionEvent where
  /-- {lit}`_connection_changed(connected)`, scheduled by {lit}`_on_connect`. -/
  | connectionChanged (connected : Bool)
  /-- {lit}`_connected.clear`, scheduled by {lit}`_on_disconnect`. -/
  | clear
deriving DecidableEq, Repr

/-- What the event loop is in the middle of. -/
inductive LoopActivity where
  | idle
  /-- The loop of {lit}`_connection_changed`, with the items it has not sent yet. -/
  | resubscribing (rest : List (PyStr × Int))
  /-- {lit}`MQTTClient.subscribe` after its {lit}`is_connected` check. -/
  | subscribing (topic : PyStr) (qos : Int)
  /-- {lit}`MQTTClient.subscribe` after paho has reported success. -/
  | recording (topic : PyStr) (qos : Int)
  /-- {lit}`MQTTClient.unsubscribe` after its {lit}`is_connected` check. -/
  | unsubscribing (topic : PyStr)
deriving DecidableEq, Repr

/-- The client, the transport, the broker's current session and the event queue. -/
structure Session where
  /-- {lit}`self._client.is_connected()`. -/
  up : Bool
  broker : Dict PyStr Int
  /-- The scheduled connection events, oldest first. -/
  pending : List ConnectionEvent
  client : MQTTClient
  activity : LoopActivity

/-- The steps of the transport and of the event loop. -/
inductive SessionStep where
  | transportUp
  | transportDown
  | connectRefused
  | runEvent
  | callSubscribe (topic : PyStr) (qos : Int)
  | callUnsubscribe (topic : PyStr)
  /-- Carry on with what the event loop is in the middle of. -/
  | proceed
deriving DecidableEq, Repr

namespace Session

/-- Before the first connection. -/
def initial : Session where
  up := false
  broker := Dict.empty
  pending := []
  client := MQTTClient.initial
  activity := .idle

/-- What paho answers while the transport stays as it is. -/
def paho (s : Session) : Paho where
  isConnected := s.up
  subscribe := .ok (if s.up then mqttErrSuccess else mqttErrNoConn)
  unsubscribe _ := .ok ()

/-- The broker's session after a packet that takes effect only while the transport is up. -/
def send (s : Session) (packet : Dict PyStr Int → Dict PyStr Int) : Session :=
  if s.up then { s with broker := packet s.broker } else s

/-- Start the oldest scheduled event: {lit}`_connection_changed` or {lit}`_connected.clear`. -/
def runEvent (s : Session) (rest : List ConnectionEvent) : ConnectionEvent → Session
  | .connectionChanged true =>
      { s with
        pending := rest
        client := { s.client with connected := true }
        activity := .resubscribing s.client.subscriptions.items }
  | .connectionChanged false | .clear =>
      { s with pending := rest, client := { s.client with connected := false } }

/-- Enter {lit}`MQTTClient.subscribe`; without a connection it raises at once. -/
def callSubscribe (s : Session) (topic : PyStr) (qos : Int) : Session :=
  if s.client.isConnected s.paho then { s with activity := .subscribing topic qos } else s

/-- Enter {lit}`MQTTClient.unsubscribe`; without a connection it only forgets the topic. -/
def callUnsubscribe (s : Session) (topic : PyStr) : Session :=
  { s with
    client := s.client.forget topic
    activity :=
      if (s.client.forget topic).isConnected s.paho then .unsubscribing topic else .idle }

/-- The next step of what the event loop is in the middle of. -/
def proceed (s : Session) : LoopActivity → Option Session
  | .idle => none
  | .resubscribing [] => some { s with activity := .idle }
  | .resubscribing ((topic, qos) :: rest) =>
      -- The result code is ignored here.
      some { s.send (fun broker => broker.set topic qos) with activity := .resubscribing rest }
  | .subscribing topic qos =>
      if s.up then
        some { s.send (fun broker => broker.set topic qos) with activity := .recording topic qos }
      else
        some { s with activity := .idle }
  | .recording topic qos =>
      some { s with client := s.client.record topic qos, activity := .idle }
  | .unsubscribing topic =>
      some { s.send (fun broker => broker.erase topic) with activity := .idle }

/-- One step. -/
def step (s : Session) : SessionStep → Option Session
  | .transportUp =>
      if s.up then none
      else
        some { s with
          up := true
          broker := Dict.empty
          pending := s.pending ++ [.connectionChanged true] }
  | .transportDown =>
      if s.up then some { s with up := false, pending := s.pending ++ [.clear] } else none
  | .connectRefused =>
      if s.up then none
      else some { s with pending := s.pending ++ [.connectionChanged false] }
  | .runEvent =>
      match s.activity, s.pending with
      | .idle, event :: rest => some (s.runEvent rest event)
      | _, _ => none
  | .callSubscribe topic qos =>
      if s.activity = .idle then some (s.callSubscribe topic qos) else none
  | .callUnsubscribe topic =>
      if s.activity = .idle then some (s.callUnsubscribe topic) else none
  | .proceed => s.proceed s.activity

/-- The client with its transport and broker. -/
def machine : Machine Session SessionStep where
  init := initial
  step := step

/-- The transport is up, every connection event has been run and no call is under way. -/
structure Settled (s : Session) : Prop where
  up : s.up = true
  pending : s.pending = []
  idle : s.activity = .idle

/-- A topic of the broker's session that the client does not keep. -/
def Ghost (s : Session) (topic : PyStr) : Prop :=
  topic ∈ s.broker ∧ topic ∉ s.client.subscriptions

/-- A topic of the broker's session is unsubscribed while the transport is up and
{lit}`_connected` is clear. -/
def UnsubscribesUnnoticed (s : Session) : SessionStep → Prop
  | .callUnsubscribe topic => s.up = true ∧ s.client.connected = false ∧ topic ∈ s.broker
  | _ => False

instance (s : Session) (step : SessionStep) : Decidable (s.UnsubscribesUnnoticed step) :=
  match step with
  | .callUnsubscribe topic =>
      inferInstanceAs
        (Decidable (s.up = true ∧ s.client.connected = false ∧ topic ∈ s.broker))
  | .transportUp | .transportDown | .connectRefused | .runEvent | .callSubscribe _ _
  | .proceed => isFalse id

@[simp]
theorem send_client (s : Session) (packet : Dict PyStr Int → Dict PyStr Int) :
    (s.send packet).client = s.client := by
  unfold send
  split <;> rfl

@[simp]
theorem send_pending (s : Session) (packet : Dict PyStr Int → Dict PyStr Int) :
    (s.send packet).pending = s.pending := by
  unfold send
  split <;> rfl

@[simp]
theorem send_up (s : Session) (packet : Dict PyStr Int → Dict PyStr Int) :
    (s.send packet).up = s.up := by
  unfold send
  split <;> rfl

theorem send_broker {s : Session} (hup : s.up = true)
    (packet : Dict PyStr Int → Dict PyStr Int) : (s.send packet).broker = packet s.broker := by
  rw [send, if_pos hup]

@[simp]
theorem runEvent_up (s : Session) (rest : List ConnectionEvent) (event : ConnectionEvent) :
    (s.runEvent rest event).up = s.up := by
  unfold runEvent
  split <;> rfl

@[simp]
theorem runEvent_broker (s : Session) (rest : List ConnectionEvent) (event : ConnectionEvent) :
    (s.runEvent rest event).broker = s.broker := by
  unfold runEvent
  split <;> rfl

@[simp]
theorem runEvent_pending (s : Session) (rest : List ConnectionEvent) (event : ConnectionEvent) :
    (s.runEvent rest event).pending = rest := by
  unfold runEvent
  split <;> rfl

@[simp]
theorem runEvent_subscriptions (s : Session) (rest : List ConnectionEvent)
    (event : ConnectionEvent) :
    (s.runEvent rest event).client.subscriptions = s.client.subscriptions := by
  unfold runEvent
  split <;> rfl

/-- Everything a step can do. -/
theorem step_cases {s s' : Session} {l : SessionStep} (h : s.step l = some s') :
    (l = .transportUp ∧
        s' = { s with
          up := true
          broker := Dict.empty
          pending := s.pending ++ [.connectionChanged true] }) ∨
      (l = .transportDown ∧ s' = { s with up := false, pending := s.pending ++ [.clear] }) ∨
      (l = .connectRefused ∧ s.up = false ∧
        s' = { s with pending := s.pending ++ [.connectionChanged false] }) ∨
      (l = .runEvent ∧ ∃ event rest, s.activity = .idle ∧ s.pending = event :: rest ∧
        s' = s.runEvent rest event) ∨
      (∃ topic qos, l = .callSubscribe topic qos ∧ s.activity = .idle ∧
        s' = s.callSubscribe topic qos) ∨
      (∃ topic, l = .callUnsubscribe topic ∧ s.activity = .idle ∧
        s' = s.callUnsubscribe topic) ∨
      (l = .proceed ∧ s.proceed s.activity = some s') := by
  cases l with
  | transportUp =>
      simp only [step, Option.ite_none_left_eq_some] at h
      grind
  | transportDown =>
      simp only [step, Option.ite_none_right_eq_some] at h
      grind
  | connectRefused =>
      simp only [step, Option.ite_none_left_eq_some] at h
      grind
  | runEvent =>
      simp only [step] at h
      split at h
      · next event rest hidle hpending =>
          cases h
          exact Or.inr (Or.inr (Or.inr (Or.inl ⟨rfl, event, rest, hidle, hpending, rfl⟩)))
      · cases h
  | callSubscribe topic qos =>
      simp only [step, Option.ite_none_right_eq_some] at h
      grind
  | callUnsubscribe topic =>
      simp only [step, Option.ite_none_right_eq_some] at h
      grind
  | proceed =>
      simp only [step] at h
      grind

/-! ## The staged calls are the client's methods -/

/-- While the transport stays as it is, entering {lit}`MQTTClient.subscribe` and carrying on is one
call of it, and the broker's session gains the topic exactly when the call succeeds. -/
theorem exec_callSubscribe {s : Session} (hidle : s.activity = .idle) (topic : PyStr)
    (qos : Int) :
    ∃ steps s', (∀ l ∈ steps, l = .proceed) ∧
      machine.exec s (.callSubscribe topic qos :: steps) = some s' ∧ s'.activity = .idle ∧
      s'.client = ((MQTTClient.subscribe s.paho topic qos).run s.client).2 ∧
      s'.broker =
        if s.client.isConnected s.paho then s.broker.set topic qos else s.broker := by
  cases hconnected : s.client.isConnected s.paho with
  | false =>
      refine ⟨[], s, ?_, ?_, hidle, ?_, ?_⟩
      · simp
      · simp [machine, step, hidle, callSubscribe, hconnected]
      · simp [MQTTClient.subscribe, hconnected]
      · simp
  | true =>
      have hup : s.up = true := by
        have h := hconnected
        unfold MQTTClient.isConnected at h
        rw [Bool.and_eq_true] at h
        exact h.1
      have hpaho : s.paho.subscribe = .ok mqttErrSuccess := by
        simp [paho, hup]
      refine ⟨[.proceed, .proceed],
        { s with
          broker := s.broker.set topic qos
          client := s.client.record topic qos
          activity := .idle }, ?_, ?_, rfl, ?_, ?_⟩
      · simp
      · simp [machine, step, hidle, callSubscribe, hconnected, proceed, hup, send]
      · rw [MQTTClient.subscribe_run_ok hconnected hpaho]
      · simp

/-- While the transport stays as it is, entering {lit}`MQTTClient.unsubscribe` and carrying on is
one call of it, and the broker's session loses the topic exactly when the client
is connected. -/
theorem exec_callUnsubscribe {s : Session} (hidle : s.activity = .idle) (topic : PyStr) :
    ∃ steps s', (∀ l ∈ steps, l = .proceed) ∧
      machine.exec s (.callUnsubscribe topic :: steps) = some s' ∧ s'.activity = .idle ∧
      s'.client = ((MQTTClient.unsubscribe s.paho topic).run s.client).2 ∧
      s'.broker =
        if s.client.isConnected s.paho then s.broker.erase topic else s.broker := by
  have hclient : ((MQTTClient.unsubscribe s.paho topic).run s.client).2 =
      s.client.forget topic := by
    rcases MQTTClient.unsubscribe_run s.paho topic s.client with ⟨outcome, h⟩
    rw [h]
  have hforget : (s.client.forget topic).isConnected s.paho = s.client.isConnected s.paho := rfl
  cases hconnected : s.client.isConnected s.paho with
  | false =>
      refine ⟨[], { s with client := s.client.forget topic, activity := .idle }, ?_, ?_, rfl,
        hclient.symm, ?_⟩
      · simp
      · simp [machine, step, hidle, callUnsubscribe, hforget, hconnected]
      · simp
  | true =>
      have hup : s.up = true := by
        have h := hconnected
        unfold MQTTClient.isConnected at h
        rw [Bool.and_eq_true] at h
        exact h.1
      refine ⟨[.proceed],
        { s with
          broker := s.broker.erase topic
          client := s.client.forget topic
          activity := .idle }, ?_, ?_, rfl, hclient.symm, ?_⟩
      · simp
      · simp [machine, step, hidle, callUnsubscribe, hforget, hconnected, proceed, hup, send]
      · simp

/-! ## No subscription is lost -/

/-- The items a resubscription has not sent yet. -/
def unsent : LoopActivity → List (PyStr × Int)
  | .resubscribing rest => rest
  | _ => []

/-- A subscription of the client is in the broker's session, or will be there once the
event loop is done with what it is in the middle of. -/
def Covered (s : Session) (topic : PyStr) (qos : Int) : Prop :=
  s.broker.get? topic = some qos ∨ (topic, qos) ∈ unsent s.activity ∨
    ∃ q, s.activity = .recording topic q

/-- While the transport is up, the newest pending event is the one of its connection; when
none is pending, every subscription is covered. -/
structure NothingLost (s : Session) : Prop where
  newest : s.up = true → s.pending = [] ∨ ∃ older, s.pending = older ++ [.connectionChanged true]
  unsent : ∀ topic qos, (topic, qos) ∈ unsent s.activity →
    s.client.subscriptions.get? topic = some qos
  covered : s.up = true → s.pending = [] → ∀ topic qos,
    s.client.subscriptions.get? topic = some qos → s.Covered topic qos
  recording : s.up = true → s.pending = [] → ∀ topic qos,
    s.activity = .recording topic qos → s.broker.get? topic = some qos
  unsubscribing : ∀ topic, s.activity = .unsubscribing topic → topic ∉ s.client.subscriptions

/-- Between two calls only the broker's session has to be compared with the subscriptions. -/
theorem nothingLost_of_idle {s : Session} (hidle : s.activity = .idle)
    (hnewest : s.up = true →
      s.pending = [] ∨ ∃ older, s.pending = older ++ [.connectionChanged true])
    (hbroker : s.up = true → s.pending = [] → ∀ topic qos,
      s.client.subscriptions.get? topic = some qos → s.broker.get? topic = some qos) :
    s.NothingLost where
  newest := hnewest
  unsent topic qos hitem := by
    rw [hidle] at hitem
    cases hitem
  covered hup hpending topic qos hsub := Or.inl (hbroker hup hpending topic qos hsub)
  recording _ _ topic qos hcall := by
    rw [hidle] at hcall
    cases hcall
  unsubscribing topic hcall := by
    rw [hidle] at hcall
    cases hcall

/-- A subscription that the event loop is not about to send or record is in the broker's
session. -/
theorem NothingLost.get?_broker {s : Session} (h : s.NothingLost) (hup : s.up = true)
    (hpending : s.pending = []) {topic : PyStr} {qos : Int}
    (hsent : (topic, qos) ∉ Session.unsent s.activity)
    (hrecorded : ∀ q, s.activity ≠ .recording topic q)
    (hsub : s.client.subscriptions.get? topic = some qos) :
    s.broker.get? topic = some qos := by
  rcases h.covered hup hpending topic qos hsub with hin | hitem | ⟨q, hcall⟩
  · exact hin
  · exact absurd hitem hsent
  · exact absurd hcall (hrecorded q)

/-- Before the first connection nothing can be lost. -/
theorem nothingLost_initial : NothingLost initial :=
  nothingLost_of_idle rfl (fun h => by cases h) (fun h => by cases h)

/-- A change of the transport leaves an event pending or the transport down. -/
theorem NothingLost.transport {s s' : Session} (h : s.NothingLost)
    (hclient : s'.client = s.client) (hactivity : s'.activity = s.activity)
    (hnewest : s'.up = true → ∃ older, s'.pending = older ++ [.connectionChanged true]) :
    s'.NothingLost where
  newest hup := Or.inr (hnewest hup)
  unsent topic qos hitem := by
    rw [hactivity] at hitem
    rw [hclient]
    exact h.unsent topic qos hitem
  covered hup hpending := by
    rcases hnewest hup with ⟨older, holder⟩
    rw [holder] at hpending
    simp at hpending
  recording hup hpending := by
    rcases hnewest hup with ⟨older, holder⟩
    rw [holder] at hpending
    simp at hpending
  unsubscribing topic hcall := by
    rw [hactivity] at hcall
    rw [hclient]
    exact h.unsubscribing topic hcall

/-- Running an event covers every subscription, if it is the last one of a connection. -/
theorem NothingLost.runEvent {s : Session} (h : s.NothingLost) (hidle : s.activity = .idle)
    {event : ConnectionEvent} {rest : List ConnectionEvent} (hpending : s.pending = event :: rest) :
    (s.runEvent rest event).NothingLost := by
  have hactivity : (s.runEvent rest event).activity = .idle ∨
      event = .connectionChanged true ∧
        (s.runEvent rest event).activity = .resubscribing s.client.subscriptions.items := by
    rcases event with ⟨_ | _⟩ | _
    · exact Or.inl hidle
    · exact Or.inr ⟨rfl, rfl⟩
    · exact Or.inl hidle
  have hlast : s.up = true → rest = [] → event = .connectionChanged true := by
    intro hup hrest
    rw [hrest] at hpending
    rcases h.newest hup with hnil | ⟨older, holder⟩
    · rw [hnil] at hpending
      cases hpending
    · rw [holder] at hpending
      have hlength := congrArg List.length hpending
      rw [List.length_append, List.length_singleton, List.length_singleton] at hlength
      have hnil : older = [] := List.length_eq_zero_iff.mp (by omega)
      rw [hnil, List.nil_append, List.cons.injEq] at hpending
      exact hpending.1.symm
  constructor
  case newest =>
    intro hup
    rw [runEvent_up] at hup
    rw [runEvent_pending]
    rcases h.newest hup with hnil | ⟨older, holder⟩
    · rw [hnil] at hpending
      cases hpending
    · rw [holder] at hpending
      cases older with
      | nil =>
          rw [List.nil_append, List.cons.injEq] at hpending
          exact Or.inl hpending.2.symm
      | cons head older =>
          rw [List.cons_append, List.cons.injEq] at hpending
          exact Or.inr ⟨older, hpending.2.symm⟩
  case unsent =>
    intro topic qos hitem
    rw [runEvent_subscriptions]
    rcases hactivity with hnone | ⟨_, hresub⟩
    · rw [hnone] at hitem
      cases hitem
    · rw [hresub] at hitem
      exact Dict.mem_items_iff.mp hitem
  case covered =>
    intro hup hrest topic qos hsub
    rw [runEvent_up] at hup
    rw [runEvent_pending] at hrest
    rw [runEvent_subscriptions] at hsub
    have hevent := hlast hup hrest
    subst hevent
    exact Or.inr (Or.inl (Dict.mem_items_iff.mpr hsub))
  case recording =>
    intro _ _ topic qos hcall
    rcases hactivity with hnone | ⟨_, hresub⟩
    · rw [hnone] at hcall
      cases hcall
    · rw [hresub] at hcall
      cases hcall
  case unsubscribing =>
    intro topic hcall
    rcases hactivity with hnone | ⟨_, hresub⟩
    · rw [hnone] at hcall
      cases hcall
    · rw [hresub] at hcall
      cases hcall

/-- Entering a call covers every subscription that is left. -/
theorem NothingLost.call {s s' : Session} (h : s.NothingLost) (hidle : s.activity = .idle)
    (hup : s'.up = s.up) (hpending : s'.pending = s.pending) (hbroker : s'.broker = s.broker)
    (hsubs : ∀ topic qos, s'.client.subscriptions.get? topic = some qos →
      s.client.subscriptions.get? topic = some qos)
    (hunsent : Session.unsent s'.activity = []) (hrecording : ∀ t q, s'.activity ≠ .recording t q)
    (hunsubscribing : ∀ t, s'.activity = .unsubscribing t → t ∉ s'.client.subscriptions) :
    s'.NothingLost where
  newest h' := by
    rw [hup] at h'
    rw [hpending]
    exact h.newest h'
  unsent topic qos hitem := by
    rw [hunsent] at hitem
    cases hitem
  covered h' hnone topic qos hsub := by
    rw [hup] at h'
    rw [hpending] at hnone
    refine Or.inl ?_
    rw [hbroker]
    exact h.get?_broker h' hnone (by simp [Session.unsent, hidle]) (by simp [hidle])
      (hsubs topic qos hsub)
  recording _ _ topic qos hcall := absurd hcall (hrecording topic qos)
  unsubscribing := hunsubscribing

/-- Sending the next item of a resubscription keeps every other one covered. -/
theorem NothingLost.resend {s : Session} (h : s.NothingLost) {t : PyStr} {q : Int}
    {rest : List (PyStr × Int)} (hactivity : s.activity = .resubscribing ((t, q) :: rest)) :
    NothingLost
      { s.send (fun broker => broker.set t q) with activity := .resubscribing rest } := by
  have hunsent : ∀ topic qos, (topic, qos) ∈ (t, q) :: rest →
      s.client.subscriptions.get? topic = some qos := by
    intro topic qos hitem
    apply h.unsent
    rw [hactivity]
    exact hitem
  constructor
  case newest => simpa using h.newest
  case unsent =>
    intro topic qos hitem
    rw [send_client]
    exact hunsent topic qos (List.mem_cons_of_mem _ hitem)
  case covered =>
    intro hup hpending topic qos hsub
    rw [send_up] at hup
    rw [send_pending] at hpending
    rw [send_client] at hsub
    rw [Covered, send_broker hup, Dict.get?_set]
    by_cases ht : topic = t
    · subst ht
      have hq := hunsent topic q List.mem_cons_self
      rw [hsub, Option.some.injEq] at hq
      rw [if_pos rfl, hq]
      exact Or.inl rfl
    · rw [if_neg ht]
      have hcovered := h.covered hup hpending topic qos hsub
      rw [Covered, hactivity] at hcovered
      rcases hcovered with hin | hitem | ⟨q', hcall⟩
      · exact Or.inl hin
      · rcases List.mem_cons.mp hitem with heq | hrest
        · exact absurd (congrArg Prod.fst heq) ht
        · exact Or.inr (Or.inl hrest)
      · cases hcall
  case recording =>
    intro _ _ topic qos hcall
    cases hcall
  case unsubscribing =>
    intro topic hcall
    cases hcall

/-- Once its packet is sent, the topic of a subscription is the only one not yet recorded. -/
theorem NothingLost.sent {s : Session} (h : s.NothingLost) (hup : s.up = true) {t : PyStr}
    {q : Int} (hactivity : s.activity = .subscribing t q) :
    NothingLost { s.send (fun broker => broker.set t q) with activity := .recording t q } := by
  constructor
  case newest => simpa using h.newest
  case unsent =>
    intro topic qos hitem
    cases hitem
  case covered =>
    intro _ hpending topic qos hsub
    rw [send_pending] at hpending
    rw [send_client] at hsub
    rw [Covered, send_broker hup, Dict.get?_set]
    by_cases ht : topic = t
    · subst ht
      exact Or.inr (Or.inr ⟨q, rfl⟩)
    · rw [if_neg ht]
      exact Or.inl (h.get?_broker hup hpending (by simp [Session.unsent, hactivity])
        (by simp [hactivity]) hsub)
  case recording =>
    intro _ _ topic qos hcall
    cases hcall
    rw [send_broker hup, Dict.get?_set, if_pos rfl]
  case unsubscribing =>
    intro topic hcall
    cases hcall

/-- Carrying on sends or records what the activity still owes. -/
theorem NothingLost.proceed {s s' : Session} (h : s.NothingLost)
    (hstep : s.proceed s.activity = some s') : s'.NothingLost := by
  cases hactivity : s.activity with
  | idle =>
      rw [hactivity] at hstep
      cases hstep
  | resubscribing rest =>
      cases rest with
      | nil =>
          rw [hactivity] at hstep
          cases hstep
          refine nothingLost_of_idle rfl h.newest ?_
          intro hup hpending topic qos hsub
          exact h.get?_broker hup hpending (by simp [Session.unsent, hactivity])
            (by simp [hactivity]) hsub
      | cons item rest =>
          rw [hactivity] at hstep
          cases hstep
          exact h.resend hactivity
  | subscribing t q =>
      rw [hactivity, Session.proceed] at hstep
      split at hstep
      · next hup =>
          cases hstep
          exact h.sent hup hactivity
      · next hdown =>
          cases hstep
          refine nothingLost_of_idle rfl h.newest ?_
          intro hup
          exact absurd hup hdown
  | recording t q =>
      rw [hactivity] at hstep
      cases hstep
      refine nothingLost_of_idle rfl h.newest ?_
      intro hup hpending topic qos hsub
      rw [MQTTClient.record_subscriptions, Dict.get?_set] at hsub
      by_cases ht : topic = t
      · subst ht
        rw [if_pos rfl, Option.some.injEq] at hsub
        subst hsub
        exact h.recording hup hpending topic q hactivity
      · rw [if_neg ht] at hsub
        refine h.get?_broker hup hpending (by simp [Session.unsent, hactivity]) ?_ hsub
        intro q' hcall
        rw [hactivity, LoopActivity.recording.injEq] at hcall
        exact ht hcall.1.symm
  | unsubscribing t =>
      rw [hactivity] at hstep
      cases hstep
      refine nothingLost_of_idle rfl (by simpa using h.newest) ?_
      intro hup hpending topic qos hsub
      rw [send_up] at hup
      rw [send_pending] at hpending
      rw [send_client] at hsub
      have ht : topic ≠ t := by
        rintro rfl
        exact h.unsubscribing topic hactivity (Dict.mem_iff_get?.mpr ⟨qos, hsub⟩)
      rw [send_broker hup, Dict.get?_erase, if_neg ht]
      exact h.get?_broker hup hpending (by simp [Session.unsent, hactivity])
        (by simp [hactivity]) hsub

/-- Every step keeps the subscriptions covered. -/
theorem NothingLost.step {s s' : Session} (h : s.NothingLost) {l : SessionStep}
    (hstep : s.step l = some s') : s'.NothingLost := by
  rcases step_cases hstep with ⟨_, rfl⟩ | ⟨_, rfl⟩ | ⟨_, hdown, rfl⟩ |
    ⟨_, event, rest, hidle, hpending, rfl⟩ | ⟨topic, qos, _, hidle, rfl⟩ |
    ⟨topic, _, hidle, rfl⟩ | ⟨_, hproceed⟩
  · exact h.transport rfl rfl fun _ => ⟨s.pending, rfl⟩
  · refine h.transport rfl rfl ?_
    intro hup
    cases hup
  · refine h.transport rfl rfl ?_
    intro hup
    rw [hdown] at hup
    cases hup
  · exact h.runEvent hidle hpending
  · unfold Session.callSubscribe
    split
    · refine h.call hidle rfl rfl rfl (fun _ _ hsub => hsub) rfl ?_ ?_
      · intro _ _ hcall
        cases hcall
      · intro _ hcall
        cases hcall
    · exact h
  · refine h.call hidle rfl rfl rfl ?_ ?_ ?_ ?_
    · intro t q hsub
      simp only [Session.callUnsubscribe, MQTTClient.forget_subscriptions,
        Dict.get?_erase] at hsub
      split at hsub
      · cases hsub
      · exact hsub
    · unfold Session.callUnsubscribe
      split <;> rfl
    · unfold Session.callUnsubscribe
      intro _ _ hcall
      split at hcall <;> cases hcall
    · unfold Session.callUnsubscribe
      intro t hcall
      split at hcall
      · cases hcall
        simp
      · cases hcall
  · exact h.proceed hproceed

/-- Nothing is lost in any reachable state. -/
theorem nothingLost_of_reachable {s : Session} (hs : machine.Reachable s) : s.NothingLost :=
  hs.invariant nothingLost_initial fun _ _ _ h hstep => h.step hstep

/-- When the transport is up and every connection event has been run, every subscription of
the client is in the broker's current session with the same QoS. -/
theorem subscriptions_resubscribed {s : Session} (hs : machine.Reachable s)
    (hsettled : s.Settled) (topic : PyStr) (qos : Int)
    (hsub : s.client.subscriptions.get? topic = some qos) :
    s.broker.get? topic = some qos := by
  have hlost := nothingLost_of_reachable hs
  exact hlost.get?_broker hsettled.up hsettled.pending (by simp [Session.unsent, hsettled.idle])
    (by simp [hsettled.idle]) hsub

/-- A subscription made in one session and resubscribed in the next one, after a stale event. -/
def resubscribedRun : List SessionStep :=
  [.transportUp, .runEvent, .proceed, .callSubscribe (PyStr.lit ['b']) 1, .proceed, .proceed,
    .transportDown, .transportUp, .transportDown, .runEvent, .runEvent, .proceed, .transportUp,
    .proceed, .runEvent, .runEvent, .proceed, .proceed]

/-- A topic is subscribed again in the second session. -/
theorem subscriptions_resubscribed_twice :
    ∃ s, machine.Run resubscribedRun s ∧ s.Settled ∧
      s.broker.get? (PyStr.lit ['b']) = some 1 := by
  have hexec : (machine.exec initial resubscribedRun).isSome := by decide +kernel
  rcases Option.isSome_iff_exists.mp hexec with ⟨s, hs⟩
  have hrun : machine.Run resubscribedRun s := Machine.run_iff_exec.mpr hs
  have hstate : (machine.exec initial resubscribedRun).map (fun s => (s.up, s.pending, s.activity,
      s.client.subscriptions.get? (PyStr.lit ['b']))) = some (true, [], .idle, some 1) := by
    decide +kernel
  rw [hs, Option.map_some, Option.some.injEq] at hstate
  simp only [Prod.mk.injEq] at hstate
  have hsettled : s.Settled := ⟨hstate.1, hstate.2.1, hstate.2.2.1⟩
  exact ⟨s, hrun, hsettled,
    subscriptions_resubscribed ⟨_, hrun⟩ hsettled _ _ hstate.2.2.2⟩

/-! ## No released subscription survives -/

/-- While the transport is up, every topic of the broker's session is kept by the client,
about to be recorded or about to be unsubscribed. -/
def AllKept (s : Session) : Prop :=
  s.up = true → ∀ topic, topic ∈ s.broker →
    topic ∈ s.client.subscriptions ∨ (∃ qos, s.activity = .recording topic qos) ∨
      s.activity = .unsubscribing topic

/-- A topic of the broker's session that is neither about to be recorded nor about to be
unsubscribed is kept by the client. -/
theorem AllKept.mem_subscriptions {s : Session} (h : s.AllKept) (hup : s.up = true)
    {topic : PyStr} (hin : topic ∈ s.broker) (hrecorded : ∀ q, s.activity ≠ .recording topic q)
    (hkeeps : s.activity ≠ .unsubscribing topic) : topic ∈ s.client.subscriptions := by
  rcases h hup topic hin with hsub | ⟨q, hcall⟩ | hcall
  · exact hsub
  · exact absurd hcall (hrecorded q)
  · exact absurd hcall hkeeps

/-- Between two calls every topic of the broker's session is kept by the client. -/
theorem AllKept.mem_of_idle {s : Session} (h : s.AllKept) (hidle : s.activity = .idle)
    (hup : s.up = true) {topic : PyStr} (hin : topic ∈ s.broker) :
    topic ∈ s.client.subscriptions :=
  h.mem_subscriptions hup hin (by simp [hidle]) (by simp [hidle])

/-- Carrying on keeps or removes every topic of the broker's session. -/
theorem AllKept.proceed {s s' : Session} (h : s.AllKept) (hlost : s.NothingLost)
    (hstep : s.proceed s.activity = some s') : s'.AllKept := by
  cases hactivity : s.activity with
  | idle =>
      rw [hactivity] at hstep
      cases hstep
  | resubscribing rest =>
      cases rest with
      | nil =>
          rw [hactivity] at hstep
          cases hstep
          intro hup topic hin
          exact Or.inl (h.mem_subscriptions hup hin (by simp [hactivity]) (by simp [hactivity]))
      | cons item rest =>
          rcases item with ⟨t, q⟩
          have ht : t ∈ s.client.subscriptions := by
            refine Dict.mem_iff_get?.mpr ⟨q, hlost.unsent t q ?_⟩
            rw [hactivity]
            exact List.mem_cons_self
          rw [hactivity] at hstep
          cases hstep
          intro hup topic hin
          rw [send_up] at hup
          rw [send_broker hup, Dict.mem_set] at hin
          rw [send_client]
          rcases hin with rfl | hin
          · exact Or.inl ht
          · exact Or.inl (h.mem_subscriptions hup hin (by simp [hactivity]) (by simp [hactivity]))
  | subscribing t q =>
      rw [hactivity, Session.proceed] at hstep
      split at hstep
      · next hup =>
          cases hstep
          intro _ topic hin
          rw [send_broker hup, Dict.mem_set] at hin
          rw [send_client]
          rcases hin with rfl | hin
          · exact Or.inr (Or.inl ⟨q, rfl⟩)
          · exact Or.inl (h.mem_subscriptions hup hin (by simp [hactivity]) (by simp [hactivity]))
      · next hdown =>
          cases hstep
          intro hup
          exact absurd hup hdown
  | recording t q =>
      rw [hactivity] at hstep
      cases hstep
      intro hup topic hin
      rw [MQTTClient.record_subscriptions, Dict.mem_set]
      by_cases ht : topic = t
      · exact Or.inl (Or.inl ht)
      · refine Or.inl (Or.inr (h.mem_subscriptions hup hin ?_ (by simp [hactivity])))
        intro q' hcall
        rw [hactivity, LoopActivity.recording.injEq] at hcall
        exact ht hcall.1.symm
  | unsubscribing t =>
      rw [hactivity] at hstep
      cases hstep
      intro hup topic hin
      rw [send_up] at hup
      rw [send_broker hup, Dict.mem_erase] at hin
      rw [send_client]
      refine Or.inl (h.mem_subscriptions hup hin.2 (by simp [hactivity]) ?_)
      intro hcall
      rw [hactivity, LoopActivity.unsubscribing.injEq] at hcall
      exact hin.1 hcall.symm

/-- Forgetting a topic of the broker's session also unsubscribes it there, unless the client
has not noticed that the transport is up. -/
theorem AllKept.callUnsubscribe {s : Session} (h : s.AllKept) (hidle : s.activity = .idle)
    {t : PyStr} (hnoticed : ¬s.UnsubscribesUnnoticed (.callUnsubscribe t)) :
    (s.callUnsubscribe t).AllKept := by
  intro hup topic hin
  change s.up = true at hup
  change topic ∈ s.broker at hin
  have hsub : topic ∈ s.client.subscriptions := h.mem_of_idle hidle hup hin
  by_cases ht : topic = t
  · subst ht
    have hconnected : s.client.connected = true := by
      by_contra hclear
      rw [Bool.not_eq_true] at hclear
      exact hnoticed ⟨hup, hclear, hin⟩
    have hcheck : (s.client.forget topic).isConnected s.paho = true := by
      simp [MQTTClient.isConnected, paho, hup, hconnected]
    refine Or.inr (Or.inr ?_)
    rw [Session.callUnsubscribe, if_pos hcheck]
  · refine Or.inl ?_
    rw [Session.callUnsubscribe, MQTTClient.forget_subscriptions, Dict.mem_erase]
    exact ⟨ht, hsub⟩

/-- Every step that meets the condition keeps the topics of the broker's session. -/
theorem AllKept.step {s s' : Session} (h : s.AllKept) (hlost : s.NothingLost) {l : SessionStep}
    (hnoticed : ¬s.UnsubscribesUnnoticed l) (hstep : s.step l = some s') : s'.AllKept := by
  rcases step_cases hstep with ⟨_, rfl⟩ | ⟨_, rfl⟩ | ⟨_, hdown, rfl⟩ |
    ⟨_, event, rest, hidle, hpending, rfl⟩ | ⟨topic, qos, _, hidle, rfl⟩ |
    ⟨topic, rfl, hidle, rfl⟩ | ⟨_, hproceed⟩
  · intro _ topic hin
    cases hin
  · intro hup
    cases hup
  · exact h
  · intro hup topic hin
    rw [runEvent_up] at hup
    rw [runEvent_broker] at hin
    rw [runEvent_subscriptions]
    exact Or.inl (h.mem_of_idle hidle hup hin)
  · unfold Session.callSubscribe
    split
    · intro hup t hin
      exact Or.inl (h.mem_of_idle hidle hup hin)
    · exact h
  · exact h.callUnsubscribe hidle hnoticed
  · exact h.proceed hlost hproceed

/-- As long as no topic of the broker's session is unsubscribed while the transport is up and
{lit}`_connected` is clear, a settled session has only topics that the client keeps. -/
theorem no_ghost_of_guardedRun {steps : List SessionStep} {s : Session}
    (hrun : machine.GuardedRun (fun s l => ¬s.UnsubscribesUnnoticed l) steps s)
    (hsettled : s.Settled) (topic : PyStr) : ¬s.Ghost topic := by
  rintro ⟨hin, hnot⟩
  have hkept : s.AllKept := by
    refine Machine.GuardedRun.invariant (P := fun _ s => s.AllKept) ?_ ?_ hrun
    · intro hup
      cases hup
    · intro _ s l s' hs h hnoticed hstep
      exact h.step (nothingLost_of_reachable ⟨_, hs⟩) hnoticed hstep
  exact hnot (hkept.mem_of_idle hsettled.idle hsettled.up hin)

/-- A released topic and one that is kept, over two sessions. -/
def guardedRun : List SessionStep :=
  [.transportUp, .runEvent, .proceed, .callSubscribe (PyStr.lit ['a']) 0, .proceed, .proceed,
    .callSubscribe (PyStr.lit ['b']) 1, .proceed, .proceed, .callUnsubscribe (PyStr.lit ['b']),
    .proceed, .transportDown, .callUnsubscribe (PyStr.lit ['b']), .transportUp, .runEvent,
    .runEvent, .proceed, .proceed]

/-- A topic held through two sessions is served in the second one and is no ghost. -/
theorem no_ghost_of_guardedRun_two_sessions :
    ∃ s, machine.GuardedRun (fun s l => ¬s.UnsubscribesUnnoticed l) guardedRun s ∧
      s.Settled ∧ PyStr.lit ['a'] ∈ s.broker ∧ ¬s.Ghost (PyStr.lit ['a']) := by
  have hexec : (machine.guardedExec (fun s l => ¬s.UnsubscribesUnnoticed l) initial
      guardedRun).isSome := by
    decide +kernel
  rcases Option.isSome_iff_exists.mp hexec with ⟨s, hs⟩
  have hrun := Machine.guardedRun_of_guardedExec hs
  have hstate : (machine.guardedExec (fun s l => ¬s.UnsubscribesUnnoticed l) initial
      guardedRun).map (fun s => (s.up, s.pending, s.activity, s.broker.get? (PyStr.lit ['a']))) =
        some (true, [], .idle, some 0) := by
    decide +kernel
  rw [hs, Option.map_some, Option.some.injEq] at hstate
  simp only [Prod.mk.injEq] at hstate
  rcases hstate with ⟨hup, hpending, hidle, hin⟩
  have hsettled : s.Settled := ⟨hup, hpending, hidle⟩
  exact ⟨s, hrun, hsettled, Dict.mem_iff_get?.mpr ⟨0, hin⟩,
    no_ghost_of_guardedRun hrun hsettled _⟩

/-- Once the rest of a resubscription is sent, a ghost is still there. -/
theorem Ghost.resubscribing {topic : PyStr} {rest : List (PyStr × Int)} {s : Session}
    (hghost : s.Ghost topic) (hup : s.up = true) (hactivity : s.activity = .resubscribing rest) :
    ∃ steps s', (∀ l ∈ steps, l = .proceed) ∧ machine.exec s steps = some s' ∧
      s'.Ghost topic ∧ s'.up = true ∧ s'.activity = .idle ∧ s'.pending = s.pending := by
  induction rest generalizing s with
  | nil =>
      refine ⟨[.proceed], { s with activity := .idle }, ?_, ?_, hghost, hup, rfl, rfl⟩
      · simp
      · simp [machine, step, hactivity, Session.proceed]
  | cons item rest ih =>
      rcases item with ⟨t, q⟩
      let next : Session :=
        { s.send (fun broker => broker.set t q) with activity := .resubscribing rest }
      have hnext : next.Ghost topic := by
        refine ⟨?_, ?_⟩
        · change topic ∈ (s.send _).broker
          rw [send_broker hup, Dict.mem_set]
          exact Or.inr hghost.1
        · change topic ∉ (s.send _).client.subscriptions
          rw [send_client]
          exact hghost.2
      have hnextUp : next.up = true := by
        change (s.send _).up = true
        rw [send_up, hup]
      rcases ih hnext hnextUp rfl with ⟨steps, s', hsteps, hexec, hghost', hup', hidle, hpending⟩
      refine ⟨.proceed :: steps, s', ?_, ?_, hghost', hup', hidle, ?_⟩
      · simpa using hsteps
      · have hstep : machine.step s .proceed = some next := by
          simp [machine, step, hactivity, Session.proceed, next]
        rw [Machine.exec_cons, hstep, Option.bind_some, hexec]
      · rw [hpending]
        exact send_pending s _

/-- Once the pending events are run, a ghost is still there. -/
theorem Ghost.settles {topic : PyStr} {pending : List ConnectionEvent} {s : Session}
    (hghost : s.Ghost topic) (hup : s.up = true) (hidle : s.activity = .idle)
    (hpending : s.pending = pending) :
    ∃ steps s', (∀ l ∈ steps, l = .runEvent ∨ l = .proceed) ∧
      machine.exec s steps = some s' ∧ s'.Settled ∧ s'.Ghost topic := by
  induction pending generalizing s with
  | nil =>
      refine ⟨[], s, ?_, rfl, ⟨hup, hpending, hidle⟩, hghost⟩
      simp
  | cons event rest ih =>
      have hstep : machine.step s .runEvent = some (s.runEvent rest event) := by
        simp [machine, step, hidle, hpending]
      have hnext : (s.runEvent rest event).Ghost topic := by
        unfold Ghost
        rw [runEvent_broker, runEvent_subscriptions]
        exact hghost
      have hnextUp : (s.runEvent rest event).up = true := by
        rw [runEvent_up, hup]
      have hactivity : (s.runEvent rest event).activity = .idle ∨
          ∃ items, (s.runEvent rest event).activity = .resubscribing items := by
        rcases event with ⟨_ | _⟩ | _
        · exact Or.inl hidle
        · exact Or.inr ⟨_, rfl⟩
        · exact Or.inl hidle
      rcases hactivity with hnone | ⟨items, hresub⟩
      · rcases ih hnext hnextUp hnone (runEvent_pending s rest event) with
          ⟨steps, s', hsteps, hexec, hsettled, hghost'⟩
        refine ⟨.runEvent :: steps, s', ?_, ?_, hsettled, hghost'⟩
        · simpa using hsteps
        · rw [Machine.exec_cons, hstep, Option.bind_some, hexec]
      · rcases hnext.resubscribing hnextUp hresub with
          ⟨sends, t, hsends, hsent, htghost, htup, htidle, htpending⟩
        rw [runEvent_pending] at htpending
        rcases ih htghost htup htidle htpending with
          ⟨steps, s', hsteps, hexec, hsettled, hghost'⟩
        refine ⟨.runEvent :: (sends ++ steps), s', ?_, ?_, hsettled, hghost'⟩
        · intro l hl
          rw [List.mem_cons, List.mem_append] at hl
          rcases hl with rfl | hl | hl
          · exact Or.inl rfl
          · exact Or.inr (hsends l hl)
          · exact hsteps l hl
        · rw [Machine.exec_cons, hstep, Option.bind_some, Machine.exec_append, hsent,
            Option.bind_some, hexec]

/-- The condition is needed: whenever a run unsubscribes a topic of the broker's session
before the client has noticed that the transport is up, running the pending events
settles with that topic in the session. -/
theorem ghost_of_unnoticed {steps : List SessionStep} {s s' : Session} {l : SessionStep}
    (hrun : machine.Run steps s) (hunnoticed : s.UnsubscribesUnnoticed l)
    (hstep : machine.step s l = some s') :
    ∃ rest s'' topic, (∀ l ∈ rest, l = .runEvent ∨ l = .proceed) ∧
      machine.Run (steps ++ [l] ++ rest) s'' ∧ s''.Settled ∧ s''.Ghost topic := by
  have hrun' := hrun.snoc hstep
  cases l with
  | callUnsubscribe topic =>
      rcases hunnoticed with ⟨hup, hclear, hin⟩
      have hcall : s.activity = .idle ∧ s.callUnsubscribe topic = s' := by
        simpa only [machine, step, Option.ite_none_right_eq_some, Option.some.injEq] using hstep
      rcases hcall with ⟨_, rfl⟩
      have hghost : (s.callUnsubscribe topic).Ghost topic := by
        refine ⟨hin, ?_⟩
        simp [Session.callUnsubscribe]
      have hquiet : (s.callUnsubscribe topic).activity = .idle := by
        simp [Session.callUnsubscribe, MQTTClient.isConnected, hclear]
      rcases hghost.settles hup hquiet rfl with ⟨rest, s'', hrest, hexec, hsettled, hghost'⟩
      exact ⟨rest, s'', topic, hrest, hrun'.append hexec, hsettled, hghost'⟩
  | transportUp | transportDown | connectRefused | runEvent | callSubscribe | proceed =>
      exact hunnoticed.elim

/-- A subscription made through a stale {lit}`_connected` flag and released after the queued
clear. -/
def ghostRun : List SessionStep :=
  [.transportUp, .runEvent, .proceed, .transportDown, .transportUp,
    .callSubscribe (PyStr.lit ['b']) 0, .proceed, .proceed, .runEvent,
    .callUnsubscribe (PyStr.lit ['b']), .runEvent, .proceed]

/-- A released topic can stay in the broker's session after all events have been run. -/
theorem released_topic_survives :
    ¬∀ s, machine.Reachable s → s.Settled → ∀ topic, topic ∈ s.broker →
      topic ∈ s.client.subscriptions := by
  intro hall
  have hexec : (machine.exec initial ghostRun).isSome := by decide +kernel
  rcases Option.isSome_iff_exists.mp hexec with ⟨s, hs⟩
  have hrun : machine.Run ghostRun s := Machine.run_iff_exec.mpr hs
  have hstate : (machine.exec initial ghostRun).map (fun s => (s.up, s.pending, s.activity,
      s.broker.get? (PyStr.lit ['b']), s.client.subscriptions.get? (PyStr.lit ['b']))) =
        some (true, [], .idle, some 0, none) := by
    decide +kernel
  rw [hs, Option.map_some, Option.some.injEq] at hstate
  simp only [Prod.mk.injEq] at hstate
  rcases hstate with ⟨hup, hpending, hidle, hin, hnot⟩
  have hsub := hall s ⟨_, hrun⟩ ⟨hup, hpending, hidle⟩ (PyStr.lit ['b'])
    (Dict.mem_iff_get?.mpr ⟨0, hin⟩)
  exact Dict.not_mem_iff_get?.mpr hnot hsub

end Session

end MqttGateway
