import MqttGateway.Mqtt.Shutdown
import MqttGateway.Services.Hub
import MqttGateway.Services.Statistics

/-!
# The life of the application

{lit}`lifespan` of the application, with {lit}`MQTTClient.connect` and
{lit}`MQTTClient.disconnect` in it, beside the events of the connection, the packets and the
consumers that come and go.  The task of the lifespan is suspended in {lit}`connect` until the
broker has confirmed the connection, at its {lit}`yield` while the application serves, and in
{lit}`disconnect`, whose steps are those of a {lit}`Shutdown`.

If the wake-up, the timeout and a cancellation come together, what
{lit}`asyncio.wait_for` makes of it is left open: it depends on the version of Python.  A network
thread that nobody has waited for can report a connection after the end of the application.

Main results:

- Theorem {lit}`tidy_of_run`: what holds in every state of a run, wherever the task is.
- Theorem {lit}`Ordered.step`: steps that leave the direct wait in peace keep the shutdown in order.
- Theorem {lit}`moves_of_tidy`: unless it waits for the broker, an application can go on.
-/

namespace MqttGateway

open Toolkit

/-- How the {lit}`try` block of the lifespan is left. -/
inductive Leaving where
  | finished
  | timeout
  | cancelled
  | raised
deriving DecidableEq

/-- What is raised in the end, if {lit}`disconnect` in the {lit}`finally` block ends like this. -/
def Leaving.after (leaving : Leaving) : TaskEnd → Leaving
  | .finished => leaving
  | .cancelled => .cancelled
  | .failed => .raised

/-- {lit}`asyncio.wait_for(self._connected.wait(), timeout=10.0)`, suspended. -/
structure ConnectWait where
  deadline : ℚ
  /-- {lit}`_connected` has been set since. -/
  woken : Bool
  expired : Bool
  cancelled : Bool
deriving DecidableEq

/-- The wait can come to this end. -/
def ConnectWait.allows (wait : ConnectWait) : Option Leaving → Bool
  | none => wait.woken
  | some .timeout => wait.expired
  | some .cancelled => wait.cancelled
  | some .finished | some .raised => false

/-- The calls of {lit}`connect` before its wait. -/
inductive ClientStart where
  /-- {lit}`mqtt.Client` raises. -/
  | noClient
  /-- A later call raises, before the network thread runs. -/
  | raises
  | loopStarted
deriving DecidableEq

/-- Where the task of the lifespan is. -/
inductive LifespanActivity where
  | start
  | connecting (wait : ConnectWait)
  | serving
  /-- In {lit}`disconnect`, which the {lit}`finally` block awaits. -/
  | stopping (leaving : Leaving)
  | ended (leaving : Leaving)
deriving DecidableEq

/-- The state of one application. -/
structure Lifespan where
  now : ℚ
  activity : LifespanActivity
  /-- {lit}`loop_start` has been called. -/
  looping : Bool
  /-- {lit}`_client`, {lit}`_connected` and what becomes of {lit}`disconnect`. -/
  shutdown : Shutdown
  /-- A cancellation has ended the wait for {lit}`loop_stop` before its return, so that the network
  thread may go on; the code keeps no such record. -/
  unjoined : Bool
  packetCallbacks : List Callback
  statistics : TopicStatistics
  /-- {lit}`app.state` has the client and the service. -/
  published : Bool

/-- What can happen to an application. -/
inductive LifespanStep where
  | tick (now : ℚ)
  /-- The lifespan is entered. -/
  | enter (start : ClientStart)
  /-- {lit}`_connection_changed`, or {lit}`_connected.clear` after a disconnection. -/
  | connection (up : Bool)
  /-- The timeout of the wait fires. -/
  | expire
  /-- A cancellation reaches the wait. -/
  | cancel
  /-- The wait ends. -/
  | resume (leaving : Option Leaving)
  /-- The server resumes the lifespan at its {lit}`yield`. -/
  | leave (leaving : Leaving)
  /-- A step of {lit}`disconnect`. -/
  | disconnect (step : ShutdownStep)
  | deliver (message : ReceivedMessage)
  | register (owner : Owner)
  | unregister (owner : Owner)

/-- The packet that a step delivers. -/
def LifespanStep.delivered : LifespanStep → List ReceivedMessage
  | .deliver message => [message]
  | _ => []

/-- The connection event of a step. -/
def LifespanStep.changed : LifespanStep → List Bool
  | .connection up => [up]
  | _ => []

/-- A step of the lifespan's own: no connection event, cancellation, packet or consumer. -/
def LifespanStep.own : LifespanStep → Bool
  | .enter _ | .expire | .resume _ | .leave _ => true
  | .disconnect step => step.own
  | _ => false

/-- {lit}`HealthResponse`. -/
structure HealthResponse where
  status : String
  version : String
  mqttConnected : Bool
deriving DecidableEq

namespace Shutdown

/-- What {lit}`disconnect` is doing shows that it has not ended. -/
theorem not_ended {s : Shutdown} (h : ∀ outcome, s.activity ≠ .ended outcome) : ¬s.Ended := by
  rintro ⟨outcome, hended⟩
  exact h outcome hended

/-- Nothing creates a loop task, and the end of {lit}`disconnect` clears {lit}`_connected`. -/
structure Quiet (s : Shutdown) : Prop where
  tracked : s.Tracked
  client : s.client = true
  loopTask : s.loopTask = .absent
  activity : ∀ wake, s.activity ≠ .loopTask wake
  cleared : s.Ended → s.connected = false

/-- A step that leaves {lit}`_connected` as it is and does not end. -/
theorem Quiet.of_same {s s' : Shutdown} (h : s.Quiet) (htracked : s'.Tracked)
    (hclient : s'.client = s.client) (hloop : s'.loopTask = s.loopTask)
    (hactivity : s'.activity = s.activity ∨
      (∃ wake, s'.activity = .shield wake) ∨ ∃ wake, s'.activity = .joining wake)
    (hconnected : s'.connected = s.connected) : s'.Quiet := by
  refine ⟨htracked, hclient.trans h.client, hloop.trans h.loopTask, ?_, ?_⟩
  · intro wake hwake
    rcases hactivity with hsame | ⟨_, hother⟩ | ⟨_, hother⟩
    · exact h.activity wake (hsame ▸ hwake)
    · rw [hother] at hwake
      cases hwake
    · rw [hother] at hwake
      cases hwake
  · rintro ⟨outcome, hended⟩
    rcases hactivity with hsame | ⟨_, hother⟩ | ⟨_, hother⟩
    · rw [hconnected]
      exact h.cleared ⟨outcome, hsame ▸ hended⟩
    · rw [hother] at hended
      cases hended
    · rw [hother] at hended
      cases hended

/-- Every step of {lit}`disconnect` keeps it so. -/
theorem Quiet.step {s s' : Shutdown} {l : ShutdownStep} (h : s.Quiet)
    (hstep : s.step l = some s') : s'.Quiet := by
  have htracked := h.tracked.step hstep
  cases l with
  | resume raises =>
      rcases resume_cases hstep with ⟨_, hloop, _⟩ | ⟨hfailed, _, _⟩ | ⟨_, rfl⟩ |
        ⟨_, _, rfl⟩ | ⟨_, outcome, rfl⟩
      · rw [h.loopTask] at hloop
        cases hloop
      · rcases hfailed with hloop | hwake
        · rw [h.loopTask] at hloop
          cases hloop
        · exact absurd hwake (h.activity _)
      · rw [stop, if_pos h.client] at htracked ⊢
        exact h.of_same htracked rfl rfl (Or.inr (Or.inl ⟨none, rfl⟩)) rfl
      · exact h.of_same htracked rfl rfl (Or.inr (Or.inr ⟨none, rfl⟩)) rfl
      · exact ⟨htracked, h.client, h.loopTask, by simp [finish], fun _ => rfl⟩
  | cancel =>
      rcases cancel_cases hstep with ⟨hwake, _⟩ | ⟨⟨wake, hwake⟩, _⟩ | ⟨_, rfl⟩ |
        ⟨_, rfl⟩ | ⟨_, rfl⟩
      · exact absurd hwake (h.activity _)
      · exact absurd hwake (h.activity _)
      · exact h.of_same htracked rfl rfl (Or.inr (Or.inl ⟨_, rfl⟩)) rfl
      · exact h.of_same htracked rfl rfl (Or.inl rfl) rfl
      · exact h.of_same htracked rfl rfl (Or.inr (Or.inr ⟨_, rfl⟩)) rfl
  | stoppingRuns =>
      rcases stoppingRuns_cases hstep with ⟨_, rfl⟩ | ⟨_, _, ⟨_, rfl⟩ | ⟨_, rfl⟩⟩
      · exact h.of_same htracked rfl rfl (Or.inl rfl) rfl
      · exact h.of_same htracked rfl rfl (Or.inr (Or.inr ⟨_, rfl⟩)) rfl
      · exact h.of_same htracked rfl rfl (Or.inl rfl) rfl
  | loopTaskEnds outcome =>
      rcases loopTaskEnds_cases hstep with ⟨hloop, _⟩
      rw [h.loopTask] at hloop
      cases hloop
  | workerStarts | workerDrops | workerReturns | resultArrives =>
      rcases Option.ite_none_right_eq_some.mp hstep with ⟨_, hs'⟩
      cases hs'
      exact h.of_same htracked rfl rfl (Or.inl rfl) rfl
  | shieldSettles =>
      simp only [Shutdown.step] at hstep
      split at hstep
      · cases hstep
        exact h.of_same htracked rfl rfl (Or.inr (Or.inl ⟨_, rfl⟩)) rfl
      · cases hstep
  | connection up =>
      simp only [Shutdown.step] at hstep
      split at hstep
      · cases hstep
      · next hactive =>
          cases hstep
          exact ⟨htracked, h.client, h.loopTask, h.activity,
            fun hended => absurd hended (not_ended hactive)⟩

/-- Between its connection events, only the end of {lit}`disconnect` changes {lit}`_connected`. -/
theorem connected_of_step {s s' : Shutdown} {l : ShutdownStep} (hstep : s.step l = some s')
    (hl : ∀ up, l ≠ .connection up) : s'.connected = s.connected ∨ s'.Ended := by
  cases l with
  | resume raises =>
      rcases resume_cases hstep with ⟨_, _, rfl⟩ | ⟨_, _, rfl⟩ | ⟨_, rfl⟩ | ⟨_, _, rfl⟩ |
        ⟨_, outcome, rfl⟩
      · exact Or.inl rfl
      · exact Or.inl rfl
      · left
        unfold stop
        split <;> rfl
      · exact Or.inl rfl
      · exact Or.inr ⟨_, rfl⟩
  | cancel =>
      rcases cancel_cases hstep with ⟨_, rfl⟩ | ⟨_, rfl⟩ | ⟨_, rfl⟩ | ⟨_, rfl⟩ | ⟨_, rfl⟩ <;>
        exact Or.inl rfl
  | stoppingRuns =>
      rcases stoppingRuns_cases hstep with ⟨_, rfl⟩ | ⟨_, _, ⟨_, rfl⟩ | ⟨_, rfl⟩⟩ <;>
        exact Or.inl rfl
  | loopTaskEnds outcome =>
      rcases loopTaskEnds_cases hstep with ⟨_, ⟨_, rfl⟩ | ⟨_, rfl⟩⟩ <;> exact Or.inl rfl
  | workerStarts | workerDrops | workerReturns | resultArrives =>
      rcases Option.ite_none_right_eq_some.mp hstep with ⟨_, hs'⟩
      cases hs'
      exact Or.inl rfl
  | shieldSettles =>
      simp only [Shutdown.step] at hstep
      split at hstep
      · cases hstep
        exact Or.inl rfl
      · cases hstep
  | connection up => exact absurd rfl (hl up)

end Shutdown

namespace Lifespan

/-- Before the lifespan is entered. -/
def initial : Lifespan where
  now := 0
  activity := .start
  looping := false
  shutdown := Shutdown.initial false false false
  unjoined := false
  packetCallbacks := []
  statistics := Dict.empty
  published := false

/-- The lifespan after {lit}`disconnect` has taken a step to the given state. -/
def settle (s : Lifespan) (leaving : Leaving) (shutdown : Shutdown) : Lifespan :=
  { s with
    shutdown := shutdown
    activity :=
      match shutdown.activity with
      | .ended outcome => .ended (leaving.after outcome)
      | _ => .stopping leaving }

/-- The {lit}`finally` block, up to the first await in {lit}`disconnect`. -/
def leave (s : Lifespan) (leaving : Leaving) : Option Lifespan :=
  let s := { s with packetCallbacks := s.packetCallbacks.erase Callback.handleMessage }
  (s.shutdown.resume false).map (s.settle leaving)

/-- From the return of {lit}`connect` to the {lit}`yield`. -/
def serve (s : Lifespan) : Lifespan :=
  { s with published := true, activity := .serving }

/-- The {lit}`try` block, up to the wait in {lit}`connect`. -/
def enter (s : Lifespan) (start : ClientStart) : Option Lifespan :=
  let s := { s with packetCallbacks := s.packetCallbacks ++ [Callback.handleMessage] }
  match start with
  | .noClient => s.leave .raised
  | .raises => { s with shutdown := { s.shutdown with client := true } }.leave .raised
  | .loopStarted =>
      let s := { s with shutdown := { s.shutdown with client := true }, looping := true }
      if s.shutdown.connected then some s.serve
      else some { s with activity := .connecting ⟨s.now + 10, false, false, false⟩ }

/-- A wait that is woken by {lit}`_connected.set()`. -/
def wake (up : Bool) : LifespanActivity → LifespanActivity
  | .connecting wait => .connecting { wait with woken := wait.woken || up }
  | activity => activity

section

variable (topicMatchesSub : PyStr → PyStr → Bool) (settings : Settings)

/-- The callback of the service, for one packet. -/
def count (s : Lifespan) (message : ReceivedMessage) : TopicStatistics :=
  ((handleMessage topicMatchesSub settings s.now message).run s.statistics).2

/-- The steps of an application. -/
def step (s : Lifespan) : LifespanStep → Option Lifespan
  | .tick now => if s.now ≤ now then some { s with now := now } else none
  | .enter start => if s.activity = .start then s.enter start else none
  | .connection up =>
      if s.looping then
        match s.activity with
        | .ended _ =>
            -- Paho's `disconnect` may report that the connection is down; another event can only
            -- come from a network thread that nobody has waited for.
            if up = true → s.unjoined = true then
              some { s with shutdown := { s.shutdown with connected := up } }
            else none
        | _ =>
            (s.shutdown.step (.connection up)).map fun shutdown =>
              { s with shutdown := shutdown, activity := wake up s.activity }
      else none
  | .expire =>
      match s.activity with
      | .connecting wait =>
          if wait.deadline ≤ s.now ∧ wait.expired = false then
            some { s with activity := .connecting { wait with expired := true } }
          else none
      | _ => none
  | .cancel =>
      match s.activity with
      | .connecting wait => some { s with activity := .connecting { wait with cancelled := true } }
      | _ => none
  | .resume leaving =>
      match s.activity with
      | .connecting wait =>
          if wait.allows leaving then
            match leaving with
            | none => some s.serve
            | some leaving => s.leave leaving
          else none
      | _ => none
  | .leave leaving =>
      if s.activity = .serving ∧ leaving ≠ .timeout then s.leave leaving else none
  | .disconnect l =>
      match s.activity, l with
      | .stopping _, .connection _ => none
      | .stopping leaving, l =>
          let s := { s with unjoined := s.unjoined || decide (s.shutdown.CancelsJoin l) }
          (s.shutdown.step l).map (s.settle leaving)
      | _, _ => none
  | .deliver message =>
      if s.looping then
        some { s with
          statistics :=
            if Callback.handleMessage ∈ s.packetCallbacks then
              s.count topicMatchesSub settings message
            else s.statistics }
      else none
  | .register owner =>
      match owner.callback with
      | some callback =>
          if s.published then some { s with packetCallbacks := s.packetCallbacks ++ [callback] }
          else none
      | none => none
  | .unregister owner =>
      match owner.callback with
      | some callback =>
          if s.published then some { s with packetCallbacks := s.packetCallbacks.erase callback }
          else none
      | none => none

/-- Every order of the steps of one application. -/
def machine : Machine Lifespan LifespanStep where
  init := initial
  step := step topicMatchesSub settings

end

/-- {lit}`MQTTClient.is_connected`. -/
def isConnected (s : Lifespan) (pahoConnected : Bool) : Bool :=
  s.shutdown.client && pahoConnected && s.shutdown.connected

/-- {lit}`health_check`.  Without {lit}`app.state.mqtt_client`, the dependency raises. -/
def healthCheck (s : Lifespan) (version : String) (pahoConnected : Bool) :
    Except PyException HealthResponse :=
  if s.published then
    .ok { status := "ok", version := version, mqttConnected := s.isConnected pahoConnected }
  else .error .other

/-- {lit}`readiness_check`. -/
def readinessCheck (s : Lifespan) (version : String) (pahoConnected : Bool) :
    Except PyException HealthResponse :=
  if s.published && !s.isConnected pahoConnected then
    .error (.httpException 503 "MQTT broker is disconnected")
  else s.healthCheck version pahoConnected

/-! ## One step -/

/-- The application has been entered and has not begun to stop. -/
def running (s : Lifespan) : Bool :=
  match s.activity with
  | .connecting _ | .serving => true
  | .start | .stopping _ | .ended _ => false

/-- The application has begun to stop. -/
def stopped (s : Lifespan) : Bool :=
  match s.activity with
  | .stopping _ | .ended _ => true
  | .start | .connecting _ | .serving => false

/-- The lifespan has ended. -/
def Ended (s : Lifespan) : Prop :=
  ∃ leaving, s.activity = .ended leaving

/-- What {lit}`disconnect` does before its first await. -/
theorem leave_eq {s : Lifespan} {client connected : Bool}
    (hshutdown : s.shutdown = Shutdown.initial client false connected) (leaving : Leaving) :
    s.leave leaving =
      some { s with
        packetCallbacks := s.packetCallbacks.erase Callback.handleMessage
        activity := if client then .stopping leaving else .ended leaving
        shutdown :=
          if client then { s.shutdown with stopping := .scheduled, activity := .shield none }
          else { s.shutdown with activity := .ended .finished } } := by
  cases client <;>
    simp [leave, settle, hshutdown, Shutdown.initial, Shutdown.resume, Shutdown.stop, Leaving.after]

/-- The shutdown has not begun. -/
def Fresh (s : Lifespan) (client : Bool) : Prop :=
  s.shutdown = Shutdown.initial client false s.shutdown.connected

/-- What leaving the {lit}`try` block leaves as it is, and where it goes. -/
structure Left (s : Lifespan) (client : Bool) (leaving : Leaving) (s' : Lifespan) : Prop where
  connected : s'.shutdown.connected = s.shutdown.connected
  published : s'.published = s.published
  statistics : s'.statistics = s.statistics
  now : s'.now = s.now
  activity : s'.activity = if client then .stopping leaving else .ended leaving

/-- What leaving the {lit}`try` block does, with or without a client. -/
theorem leave_frame {s s' : Lifespan} {c : Bool} {leaving : Leaving} (hfresh : s.Fresh c)
    (h : s.leave leaving = some s') : s.Left c leaving s' := by
  rw [leave_eq hfresh] at h
  cases h
  cases c with
  | true => exact ⟨rfl, rfl, rfl, rfl, rfl⟩
  | false => exact ⟨rfl, rfl, rfl, rfl, rfl⟩

/-- What the calls before the first await of the lifespan leave as it is, and what they do not. -/
structure Entered (s t : Lifespan) : Prop where
  connected : t.shutdown.connected = s.shutdown.connected
  published : t.published = s.published
  statistics : t.statistics = s.statistics
  unjoined : t.unjoined = s.unjoined
  now : t.now = s.now
  packetCallbacks : t.packetCallbacks = s.packetCallbacks ++ [Callback.handleMessage]

/-- What entering the lifespan can do. -/
theorem enter_cases {s s' : Lifespan} {start : ClientStart} (hfresh : s.Fresh false)
    (h : s.enter start = some s') :
    ∃ (t : Lifespan) (c : Bool), t.Fresh c ∧ s.Entered t ∧
      (t.leave .raised = some s' ∨ c = true ∧ s.shutdown.connected = true ∧ s' = t.serve ∨
        c = true ∧ s.shutdown.connected = false ∧
          s' = { t with activity := .connecting ⟨s.now + 10, false, false, false⟩ }) := by
  have hstarted : { s.shutdown with client := true } =
      Shutdown.initial true false s.shutdown.connected :=
    hfresh ▸ rfl
  let entered : Lifespan :=
    { s with packetCallbacks := s.packetCallbacks ++ [Callback.handleMessage] }
  let started : Lifespan := { entered with shutdown := { s.shutdown with client := true } }
  cases start with
  | noClient => exact ⟨entered, false, hfresh, ⟨rfl, rfl, rfl, rfl, rfl, rfl⟩, Or.inl h⟩
  | raises => exact ⟨started, true, hstarted, ⟨rfl, rfl, rfl, rfl, rfl, rfl⟩, Or.inl h⟩
  | loopStarted =>
      refine ⟨{ started with looping := true }, true, hstarted, ⟨rfl, rfl, rfl, rfl, rfl, rfl⟩,
        Or.inr ?_⟩
      simp only [enter] at h
      split at h
      · next hconnected =>
          cases h
          exact Or.inl ⟨rfl, hconnected, rfl⟩
      · next hconnected =>
          cases h
          exact Or.inr ⟨rfl, by simpa using hconnected, rfl⟩

/-- What holds in every state of a run. -/
structure Tidy (s : Lifespan) : Prop where
  start : s.activity = .start → s.Fresh false ∧ s.shutdown.connected = false ∧ s.looping = false ∧
    s.published = false ∧ s.packetCallbacks = []
  running : s.running = true → s.Fresh true
  stopping : ∀ leaving, s.activity = .stopping leaving → s.shutdown.Quiet ∧ ¬s.shutdown.Ended
  ended : ∀ leaving, s.activity = .ended leaving →
    s.shutdown.Ended ∧ (s.unjoined = false → s.shutdown.connected = false) ∧
      (s.shutdown.client = false → s.shutdown.calls = [])
  callbacks : s.packetCallbacks.count .handleMessage = if s.running then 1 else 0
  published : s.published = true → s.shutdown.client = true
  serving : s.activity = .serving ∨ s.activity = .stopping .finished ∨
    s.activity = .ended .finished → s.published = true

/-- A shutdown with a client begins so. -/
theorem quiet_initial (connected : Bool) : (Shutdown.initial true false connected).Quiet where
  tracked := Shutdown.tracked_initial true false connected
  client := rfl
  loopTask := rfl
  activity := by simp [Shutdown.initial]
  cleared := by simp [Shutdown.Ended, Shutdown.initial]

/-- Only a lifespan that was to end without an exception does. -/
theorem after_eq_finished {leaving : Leaving} {outcome : TaskEnd}
    (h : leaving.after outcome = .finished) : leaving = .finished := by
  cases outcome with
  | finished => exact h
  | cancelled | failed => cases h

/-- What the lifespan is after a step of {lit}`disconnect`. -/
theorem settle_cases (s : Lifespan) (leaving : Leaving) (shutdown : Shutdown) :
    (∃ outcome, shutdown.activity = .ended outcome ∧ s.settle leaving shutdown =
        { s with shutdown := shutdown, activity := .ended (leaving.after outcome) }) ∨
      (¬shutdown.Ended ∧ s.settle leaving shutdown =
        { s with shutdown := shutdown, activity := .stopping leaving }) := by
  unfold settle
  split
  · next outcome hended => exact Or.inl ⟨outcome, hended, rfl⟩
  · next hnot => exact Or.inr ⟨Shutdown.not_ended hnot, rfl⟩

/-- A step of {lit}`disconnect` keeps the lifespan tidy. -/
theorem Tidy.settle {s : Lifespan} {leaving : Leaving} {shutdown : Shutdown}
    (hquiet : shutdown.Quiet) (hcallbacks : s.packetCallbacks.count .handleMessage = 0)
    (hfinished : leaving = .finished → s.published = true) : (s.settle leaving shutdown).Tidy := by
  rcases settle_cases s leaving shutdown with ⟨outcome, hended, heq⟩ | ⟨hnot, heq⟩
  · rw [heq]
    refine ⟨nofun, nofun, nofun, ?_, hcallbacks, fun _ => hquiet.client, ?_⟩
    · intro _ _
      refine ⟨⟨outcome, hended⟩, fun _ => hquiet.cleared ⟨outcome, hended⟩, ?_⟩
      intro hclient
      rw [hquiet.client] at hclient
      cases hclient
    · rintro (h | h | h)
      · cases h
      · cases h
      · simp only [LifespanActivity.ended.injEq] at h
        exact hfinished (after_eq_finished h)
  · rw [heq]
    refine ⟨nofun, nofun, fun _ _ => ⟨hquiet, hnot⟩, nofun, hcallbacks,
      fun _ => hquiet.client, ?_⟩
    rintro (h | h | h)
    · cases h
    · simp only [LifespanActivity.stopping.injEq] at h
      exact hfinished h
    · cases h

/-- Leaving the {lit}`try` block keeps the lifespan tidy. -/
theorem Tidy.leave {s s' : Lifespan} {c : Bool} {leaving : Leaving} (hfresh : s.Fresh c)
    (hconnected : c = false → s.shutdown.connected = false ∧ s.published = false)
    (hcallbacks : s.packetCallbacks.count .handleMessage = 1)
    (hfinished : leaving = .finished → s.published = true)
    (hstep : s.leave leaving = some s') : s'.Tidy := by
  have herased : (s.packetCallbacks.erase Callback.handleMessage).count .handleMessage = 0 := by
    rw [List.count_erase_self, hcallbacks]
  cases c with
  | true =>
      rcases Option.map_eq_some_iff.mp hstep with ⟨shutdown, hresume, rfl⟩
      have hquiet : s.shutdown.Quiet := hfresh ▸ quiet_initial s.shutdown.connected
      exact Tidy.settle (hquiet.step (l := .resume false) hresume) herased hfinished
  | false =>
      rcases hconnected rfl with ⟨hclear, hunpublished⟩
      rw [leave_eq hfresh] at hstep
      cases hstep
      refine ⟨nofun, nofun, nofun, ?_, herased, ?_, ?_⟩
      · intro _ _
        rw [hfresh]
        exact ⟨⟨_, rfl⟩, fun _ => hclear, fun _ => rfl⟩
      · intro hpublished
        exact absurd hpublished (by simp [hunpublished])
      · rintro (h | h | h)
        · cases h
        · cases h
        · simp only [Bool.false_eq_true, if_false, LifespanActivity.ended.injEq] at h
          exact hfinished h

/-- An application that has not been entered is tidy. -/
theorem tidy_initial : initial.Tidy where
  start := fun _ => ⟨rfl, rfl, rfl, rfl, rfl⟩
  running := nofun
  stopping := nofun
  ended := nofun
  callbacks := rfl
  published := nofun
  serving := by simp [initial]

section

variable {topicMatchesSub : PyStr → PyStr → Bool} {settings : Settings}

/-- An application that is connecting or serving. -/
theorem Tidy.of_running {s : Lifespan} (hrunning : s.running = true) (hfresh : s.Fresh true)
    (hcallbacks : s.packetCallbacks.count .handleMessage = 1)
    (hserving : s.activity = .serving → s.published = true) : s.Tidy := by
  have hclient : s.shutdown.client = true := by rw [hfresh]; rfl
  cases hactivity : s.activity with
  | start | stopping _ | ended _ =>
      rw [Lifespan.running, hactivity] at hrunning
      cases hrunning
  | connecting _ | serving =>
      refine ⟨?_, fun _ => hfresh, ?_, ?_, ?_, fun _ => hclient, ?_⟩
      · simp [hactivity]
      · simp [hactivity]
      · simp [hactivity]
      · rw [hcallbacks, if_pos hrunning]
      · simpa only [hactivity, reduceCtorEq, or_false] using hserving

/-- A step that leaves the lifespan where it is. -/
theorem Tidy.of_same {s s' : Lifespan} (h : s.Tidy) (hactivity : s'.activity = s.activity)
    (hlooping : s'.looping = s.looping) (hshutdown : s'.shutdown = s.shutdown)
    (hunjoined : s'.unjoined = s.unjoined) (hpublished : s'.published = s.published)
    (hcallbacks : s'.packetCallbacks = s.packetCallbacks ∨ s.published = true ∧
      s'.packetCallbacks.count .handleMessage = s.packetCallbacks.count .handleMessage) :
    s'.Tidy := by
  have hrunning : s'.running = s.running := by
    rw [Lifespan.running, Lifespan.running, hactivity]
  have hcount : s'.packetCallbacks.count .handleMessage =
      s.packetCallbacks.count .handleMessage := by
    rcases hcallbacks with hsame | ⟨_, hcount⟩
    · rw [hsame]
    · exact hcount
  refine ⟨?_, ?_, ?_, ?_, ?_, ?_, ?_⟩
  · intro hstart
    rw [hactivity] at hstart
    have hbefore := h.start hstart
    rcases hcallbacks with hsame | ⟨hyes, _⟩
    · rw [Fresh, hshutdown, hlooping, hpublished, hsame]
      exact hbefore
    · rw [hbefore.2.2.2.1] at hyes
      cases hyes
  · rw [hrunning, Fresh, hshutdown]
    exact h.running
  · rw [hactivity, hshutdown]
    exact h.stopping
  · rw [hactivity, hshutdown, hunjoined]
    exact h.ended
  · rw [hcount, hrunning]
    exact h.callbacks
  · rw [hpublished, hshutdown]
    exact h.published
  · rw [hactivity, hpublished]
    exact h.serving

/-- A wake-up does not bring an application to its {lit}`yield`. -/
@[simp]
theorem wake_eq_serving_iff (up : Bool) (activity : LifespanActivity) :
    wake up activity = .serving ↔ activity = .serving := by
  cases activity <;> simp [wake]

/-- What a connection event does to the lifespan, before its end and after it. -/
theorem connection_cases {s s' : Lifespan} {up : Bool}
    (hstep : s.step topicMatchesSub settings (.connection up) = some s') :
    s.looping = true ∧
      s' = { s with
        shutdown := { s.shutdown with connected := up }, activity := wake up s.activity } ∧
      (¬s.Ended ∧ ¬s.shutdown.Ended ∧
          s.shutdown.step (.connection up) = some { s.shutdown with connected := up } ∨
        s.Ended ∧ (up = true → s.unjoined = true)) := by
  rcases Option.ite_none_right_eq_some.mp hstep with ⟨hlooping, hs'⟩
  refine ⟨hlooping, ?_⟩
  split at hs'
  · next leaving hactivity =>
      rcases Option.ite_none_right_eq_some.mp hs' with ⟨hlate, heq⟩
      cases heq
      exact ⟨by rw [hactivity]; rfl, Or.inr ⟨⟨leaving, hactivity⟩, hlate⟩⟩
  · next hnot =>
      rcases Option.map_eq_some_iff.mp hs' with ⟨shutdown, hshutdown, rfl⟩
      have heq := hshutdown
      simp only [Shutdown.step] at heq
      split at heq
      · cases heq
      · next hactive =>
          cases heq
          refine ⟨rfl, Or.inl ⟨?_, Shutdown.not_ended hactive, hshutdown⟩⟩
          rintro ⟨leaving, hended⟩
          exact hnot leaving hended

/-- What a step of a suspended wait does. -/
theorem wait_cases {s s' : Lifespan} {l : LifespanStep} (hl : l = .expire ∨ l = .cancel)
    (hstep : s.step topicMatchesSub settings l = some s') :
    ∃ wait wait', s.activity = .connecting wait ∧ wait'.woken = wait.woken ∧
      s' = { s with activity := .connecting wait' } := by
  rcases hl with rfl | rfl
  · simp only [step] at hstep
    split at hstep
    · next wait hactivity =>
        rcases Option.ite_none_right_eq_some.mp hstep with ⟨_, hs'⟩
        cases hs'
        exact ⟨wait, { wait with expired := true }, hactivity, rfl, rfl⟩
    · cases hstep
  · simp only [step] at hstep
    split at hstep
    · next wait hactivity =>
        cases hstep
        exact ⟨wait, { wait with cancelled := true }, hactivity, rfl, rfl⟩
    · cases hstep

/-- What the end of the wait does. -/
theorem resume_cases {s s' : Lifespan} {leaving : Option Leaving}
    (hstep : s.step topicMatchesSub settings (.resume leaving) = some s') :
    ∃ wait, s.activity = .connecting wait ∧
      ((wait.woken = true ∧ leaving = none ∧ s' = s.serve) ∨
        ∃ why, why ≠ .finished ∧ leaving = some why ∧ s.leave why = some s') := by
  simp only [step] at hstep
  split at hstep
  · next wait hactivity =>
      rcases Option.ite_none_right_eq_some.mp hstep with ⟨hallows, hs'⟩
      refine ⟨wait, hactivity, ?_⟩
      cases leaving with
      | none =>
          cases hs'
          exact Or.inl ⟨hallows, rfl, rfl⟩
      | some why =>
          refine Or.inr ⟨why, ?_, rfl, hs'⟩
          rintro rfl
          cases hallows
  · cases hstep

/-- What a step of {lit}`disconnect` does. -/
theorem disconnect_cases {s s' : Lifespan} {l : ShutdownStep}
    (hstep : s.step topicMatchesSub settings (.disconnect l) = some s') :
    ∃ leaving shutdown unjoined, s.activity = .stopping leaving ∧ (∀ up, l ≠ .connection up) ∧
      s.shutdown.step l = some shutdown ∧
      (unjoined = true ↔ s.unjoined = true ∨ s.shutdown.CancelsJoin l) ∧
      s' = { s with unjoined }.settle leaving shutdown := by
  simp only [step] at hstep
  split at hstep
  · cases hstep
  · next _ leaving hactivity hother =>
      rcases Option.map_eq_some_iff.mp hstep with ⟨shutdown, hshutdown, rfl⟩
      exact ⟨leaving, shutdown, _, hactivity, fun up heq => hother up heq, hshutdown, by simp, rfl⟩
  · cases hstep

/-- What a consumer does to the lifespan. -/
theorem consumer_cases {s s' : Lifespan} {l : LifespanStep} {owner : Owner}
    (hl : l = .register owner ∨ l = .unregister owner)
    (hstep : s.step topicMatchesSub settings l = some s') :
    ∃ callbacks, s.published = true ∧ s' = { s with packetCallbacks := callbacks } ∧
      callbacks.count .handleMessage = s.packetCallbacks.count .handleMessage := by
  have hother : ∀ callback, owner.callback = some callback → callback ≠ .handleMessage := by
    rintro callback hcallback rfl
    cases owner <;> cases hcallback
  rcases hl with rfl | rfl
  · simp only [step] at hstep
    split at hstep
    · next callback hcallback =>
        rcases Option.ite_none_right_eq_some.mp hstep with ⟨hpublished, hs'⟩
        cases hs'
        refine ⟨_, hpublished, rfl, ?_⟩
        rw [List.count_append, List.count_singleton]
        simp [hother callback hcallback]
    · cases hstep
  · simp only [step] at hstep
    split at hstep
    · next callback hcallback =>
        rcases Option.ite_none_right_eq_some.mp hstep with ⟨hpublished, hs'⟩
        cases hs'
        exact ⟨_, hpublished, rfl, List.count_erase_of_ne (hother callback hcallback).symm⟩
    · cases hstep

/-- Every step keeps the lifespan tidy. -/
theorem Tidy.step {s s' : Lifespan} {l : LifespanStep} (h : s.Tidy)
    (hstep : s.step topicMatchesSub settings l = some s') : s'.Tidy := by
  cases l with
  | tick now =>
      rcases Option.ite_none_right_eq_some.mp hstep with ⟨_, hs'⟩
      cases hs'
      exact h.of_same rfl rfl rfl rfl rfl (Or.inl rfl)
  | enter start =>
      rcases Option.ite_none_right_eq_some.mp hstep with ⟨hstart, hs'⟩
      rcases h.start hstart with ⟨hfresh, hconnected, _, hunpublished, hnone⟩
      rcases enter_cases hfresh hs' with ⟨t, c, hentered, hsame, hends⟩
      have hcount : t.packetCallbacks.count .handleMessage = 1 := by
        simp [hsame.packetCallbacks, hnone]
      rcases hends with hleave | ⟨_, hyes, _⟩ | ⟨rfl, _, rfl⟩
      · exact Tidy.leave hentered
          (fun _ => ⟨hsame.connected.trans hconnected, hsame.published.trans hunpublished⟩)
          hcount (by simp) hleave
      · rw [hconnected] at hyes
        cases hyes
      · exact Tidy.of_running rfl hentered hcount (by simp)
  | connection up =>
      rcases connection_cases hstep with ⟨hlooping, rfl, hevent⟩
      cases hactivity : s.activity with
      | start =>
          rw [(h.start hactivity).2.2.1] at hlooping
          cases hlooping
      | connecting wait | serving =>
          have hrunning : s.running = true := by rw [Lifespan.running, hactivity]
          have hcount := h.callbacks
          rw [if_pos hrunning] at hcount
          refine Tidy.of_running rfl ?_ hcount ?_
          · change { s.shutdown with connected := up } = _
            rw [h.running hrunning]
            rfl
          · intro hserving
            exact h.serving (Or.inl (hactivity.trans ((wake_eq_serving_iff up _).mp hserving)))
      | stopping leaving =>
          rcases hevent with ⟨_, hnot, hshutdown⟩ | ⟨⟨_, hended⟩, _⟩
          swap
          · rw [hactivity] at hended
            cases hended
          have hquiet := (h.stopping leaving hactivity).1.step hshutdown
          have hcount := h.callbacks
          rw [Lifespan.running, hactivity] at hcount
          have htidy := Tidy.settle hquiet hcount fun hfinished =>
            h.serving (Or.inr (Or.inl (hfinished ▸ hactivity)))
          rcases settle_cases s leaving { s.shutdown with connected := up } with
            ⟨outcome, hended, _⟩ | ⟨_, heq⟩
          · exact absurd ⟨outcome, hended⟩ hnot
          · rw [heq] at htidy
            exact htidy
      | ended leaving =>
          rcases h.ended leaving hactivity with ⟨⟨outcome, hended⟩, _, hnone⟩
          have hlate : up = true → s.unjoined = true := by
            rcases hevent with ⟨hnot, _⟩ | ⟨_, hlate⟩
            · exact absurd ⟨leaving, hactivity⟩ hnot
            · exact hlate
          refine ⟨nofun, nofun, nofun, ?_, ?_, h.published, ?_⟩
          · intro _ _
            refine ⟨⟨outcome, hended⟩, ?_, hnone⟩
            intro hjoined
            by_contra hup
            rw [Bool.not_eq_false] at hup
            rw [hlate hup] at hjoined
            cases hjoined
          · have hcount := h.callbacks
            rw [Lifespan.running, hactivity] at hcount
            exact hcount
          · rintro (heq | heq | heq)
            · cases heq
            · cases heq
            · exact h.serving (Or.inr (Or.inr (hactivity.trans heq)))
  | expire =>
      rcases wait_cases (Or.inl rfl) hstep with ⟨wait, _, hactivity, _, rfl⟩
      have hrunning : s.running = true := by rw [Lifespan.running, hactivity]
      have hcount : s.packetCallbacks.count .handleMessage = 1 := by
        rw [h.callbacks, if_pos hrunning]
      exact Tidy.of_running rfl (h.running hrunning) hcount (by simp)
  | cancel =>
      rcases wait_cases (Or.inr rfl) hstep with ⟨wait, _, hactivity, _, rfl⟩
      have hrunning : s.running = true := by rw [Lifespan.running, hactivity]
      have hcount : s.packetCallbacks.count .handleMessage = 1 := by
        rw [h.callbacks, if_pos hrunning]
      exact Tidy.of_running rfl (h.running hrunning) hcount (by simp)
  | resume leaving =>
      rcases resume_cases hstep with ⟨wait, hactivity, hends⟩
      have hrunning : s.running = true := by rw [Lifespan.running, hactivity]
      have hcount : s.packetCallbacks.count .handleMessage = 1 := by
        rw [h.callbacks, if_pos hrunning]
      rcases hends with ⟨_, _, rfl⟩ | ⟨why, hwhy, _, hleave⟩
      · exact Tidy.of_running rfl (h.running hrunning) hcount fun _ => rfl
      · exact Tidy.leave (h.running hrunning) (by simp) hcount (fun heq => absurd heq hwhy) hleave
  | leave leaving =>
      rcases Option.ite_none_right_eq_some.mp hstep with ⟨⟨hserving, _⟩, hleave⟩
      have hrunning : s.running = true := by rw [Lifespan.running, hserving]
      exact Tidy.leave (h.running hrunning) (by simp) (by rw [h.callbacks, if_pos hrunning])
        (fun _ => h.serving (Or.inl hserving)) hleave
  | disconnect l =>
      rcases disconnect_cases hstep with ⟨leaving, shutdown, _, hactivity, _, hshutdown, _, rfl⟩
      refine Tidy.settle ((h.stopping leaving hactivity).1.step hshutdown) ?_ ?_
      · rw [h.callbacks, Lifespan.running, hactivity]
        rfl
      · rintro rfl
        exact h.serving (Or.inr (Or.inl hactivity))
  | deliver message =>
      rcases Option.ite_none_right_eq_some.mp hstep with ⟨_, hs'⟩
      cases hs'
      exact h.of_same rfl rfl rfl rfl rfl (Or.inl rfl)
  | register owner =>
      rcases consumer_cases (Or.inl rfl) hstep with ⟨_, hpublished, rfl, hcount⟩
      exact h.of_same rfl rfl rfl rfl rfl (Or.inr ⟨hpublished, hcount⟩)
  | unregister owner =>
      rcases consumer_cases (Or.inr rfl) hstep with ⟨_, hpublished, rfl, hcount⟩
      exact h.of_same rfl rfl rfl rfl rfl (Or.inr ⟨hpublished, hcount⟩)

/-- An application is tidy after every run. -/
theorem tidy_of_run {steps : List LifespanStep} {s : Lifespan}
    (hrun : (machine topicMatchesSub settings).Run steps s) : s.Tidy :=
  Machine.Run.invariant (P := fun _ s => s.Tidy) tidy_initial
    (fun _ _ _ _ _ h hstep => h.step hstep) hrun

/-- An application is tidy in every reachable state. -/
theorem tidy_of_reachable {s : Lifespan} (h : (machine topicMatchesSub settings).Reachable s) :
    s.Tidy := by
  rcases h with ⟨steps, hrun⟩
  exact tidy_of_run hrun

/-! ## The order of the shutdown -/

/-- Nothing cancels {lit}`disconnect` in its direct wait for {lit}`loop_stop`. -/
def StopsInPeace (s : Lifespan) : LifespanStep → Prop
  | .disconnect l => s.shutdown.JoinsInPeace l
  | _ => True

instance (s : Lifespan) (l : LifespanStep) : Decidable (s.StopsInPeace l) :=
  match l with
  | .disconnect l => inferInstanceAs (Decidable (s.shutdown.JoinsInPeace l))
  | .tick _ | .enter _ | .connection _ | .expire | .cancel | .resume _ | .leave _ | .deliver _
  | .register _ | .unregister _ => inferInstanceAs (Decidable True)

/-- A client shuts down in order, and its network thread does not outlive that. -/
structure Ordered (s : Lifespan) : Prop where
  joined : s.unjoined = false
  order : s.shutdown.client = true → s.shutdown.InOrder

/-- Nothing is out of order before the shutdown has begun. -/
theorem ordered_fresh {s : Lifespan} {c : Bool} (hjoined : s.unjoined = false) (h : s.Fresh c) :
    s.Ordered := by
  refine ⟨hjoined, ?_⟩
  intro hclient
  rw [h] at hclient ⊢
  cases c with
  | true => exact Shutdown.inOrder_initial false _
  | false => cases hclient

/-- Leaving the {lit}`try` block begins the shutdown in order. -/
theorem Ordered.leave {s s' : Lifespan} {c : Bool} {leaving : Leaving}
    (hjoined : s.unjoined = false) (hfresh : s.Fresh c) (hstep : s.leave leaving = some s') : s'.Ordered := by
  rcases Option.map_eq_some_iff.mp hstep with ⟨shutdown, hresume, rfl⟩
  refine ⟨hjoined, ?_⟩
  intro hclient
  cases c with
  | true =>
      have horder := (ordered_fresh hjoined hfresh).order (by rw [hfresh]; rfl)
      exact horder.step (l := .resume false) ⟨by simp [Shutdown.CancelsJoin], by simp⟩ hresume
  | false =>
      rw [hfresh] at hresume
      cases hresume
      cases hclient

/-- A step that cancels no direct wait keeps the shutdown in order. -/
theorem Ordered.step {s s' : Lifespan} {l : LifespanStep} (h : s.Ordered) (htidy : s.Tidy)
    (hpeace : s.StopsInPeace l) (hstep : s.step topicMatchesSub settings l = some s') :
    s'.Ordered := by
  cases l with
  | tick now =>
      rcases Option.ite_none_right_eq_some.mp hstep with ⟨_, hs'⟩
      cases hs'
      exact ⟨h.joined, h.order⟩
  | enter start =>
      rcases Option.ite_none_right_eq_some.mp hstep with ⟨hstart, hs'⟩
      rcases enter_cases (htidy.start hstart).1 hs' with
        ⟨t, c, hentered, hsame, hleave | ⟨rfl, _, rfl⟩ | ⟨rfl, _, rfl⟩⟩
      · exact Ordered.leave (hsame.unjoined.trans h.joined) hentered hleave
      · exact ordered_fresh (c := true) (hsame.unjoined.trans h.joined) hentered
      · exact ordered_fresh (c := true) (hsame.unjoined.trans h.joined) hentered
  | connection up =>
      rcases connection_cases hstep with ⟨_, rfl, ⟨_, _, hshutdown⟩ | ⟨⟨_, hactivity⟩, hlate⟩⟩
      · refine ⟨h.joined, ?_⟩
        intro hclient
        exact (h.order hclient).step ⟨by simp [Shutdown.CancelsJoin], by simp⟩ hshutdown
      · -- Only a network thread that nobody has waited for could connect again.
        have hdown : up = false := by
          rw [h.joined] at hlate
          simpa using hlate
        have hsame : { s.shutdown with connected := up } = s.shutdown := by
          rw [hdown, ← (htidy.ended _ hactivity).2.1 h.joined]
        exact ⟨h.joined, by rw [hsame]; exact h.order⟩
  | expire =>
      rcases wait_cases (Or.inl rfl) hstep with ⟨_, _, _, _, rfl⟩
      exact ⟨h.joined, h.order⟩
  | cancel =>
      rcases wait_cases (Or.inr rfl) hstep with ⟨_, _, _, _, rfl⟩
      exact ⟨h.joined, h.order⟩
  | resume leaving =>
      rcases resume_cases hstep with ⟨wait, hactivity, ⟨_, _, rfl⟩ | ⟨why, _, _, hleave⟩⟩
      · exact ⟨h.joined, h.order⟩
      · exact Ordered.leave h.joined (htidy.running (by rw [Lifespan.running, hactivity])) hleave
  | leave leaving =>
      rcases Option.ite_none_right_eq_some.mp hstep with ⟨⟨hserving, _⟩, hleave⟩
      exact Ordered.leave h.joined (htidy.running (by rw [Lifespan.running, hserving])) hleave
  | disconnect l =>
      rcases disconnect_cases hstep with
        ⟨leaving, shutdown, unjoined, hactivity, _, hshutdown, hcancelled, rfl⟩
      refine ⟨?_, ?_⟩
      · rw [← Bool.not_eq_true]
        change ¬unjoined = true
        rw [hcancelled, h.joined]
        exact not_or_intro Bool.false_ne_true hpeace.1
      · intro _
        exact (h.order (htidy.stopping leaving hactivity).1.client).step hpeace hshutdown
  | deliver message =>
      rcases Option.ite_none_right_eq_some.mp hstep with ⟨_, hs'⟩
      cases hs'
      exact ⟨h.joined, h.order⟩
  | register owner =>
      rcases consumer_cases (Or.inl rfl) hstep with ⟨_, _, rfl, _⟩
      exact ⟨h.joined, h.order⟩
  | unregister owner =>
      rcases consumer_cases (Or.inr rfl) hstep with ⟨_, _, rfl, _⟩
      exact ⟨h.joined, h.order⟩

/-! ## How long it takes -/

/-- The steps of its own that an application can still take. -/
def rank (s : Lifespan) : Nat :=
  match s.activity with
  | .start => 19
  | .connecting wait => if wait.expired then 17 else 18
  | .serving => 16
  | .stopping _ => s.shutdown.rank
  | .ended _ => 0

/-- A shutdown begins with at most fifteen steps to take. -/
theorem rank_initial_le (c connected : Bool) : (Shutdown.initial c false connected).rank ≤ 15 := by
  simp [Shutdown.initial, Shutdown.rank, Shutdown.activityRank, Shutdown.stoppingRank,
    Shutdown.joinRank, Shutdown.loopTaskRank]

/-- An application in its shutdown takes no more steps than the shutdown. -/
theorem rank_settle_le (s : Lifespan) (leaving : Leaving) (shutdown : Shutdown) :
    (s.settle leaving shutdown).rank ≤ shutdown.rank := by
  rcases settle_cases s leaving shutdown with ⟨_, _, heq⟩ | ⟨_, heq⟩
  · rw [heq]
    exact Nat.zero_le _
  · rw [heq]
    exact Nat.le_refl _

/-- Leaving the {lit}`try` block is a step of the application's own. -/
theorem rank_leave_lt {s s' : Lifespan} {c : Bool} {leaving : Leaving} (hfresh : s.Fresh c)
    (hstep : s.leave leaving = some s') : s'.rank < 16 := by
  rcases Option.map_eq_some_iff.mp hstep with ⟨shutdown, hresume, rfl⟩
  have htracked : s.shutdown.Tracked := by
    rw [hfresh]
    exact Shutdown.tracked_initial _ _ _
  have hless := Shutdown.rank_resume htracked hresume
  have hinitial : s.shutdown.rank ≤ 15 := by
    rw [hfresh]
    exact rank_initial_le c _
  have hsettle := rank_settle_le
    { s with packetCallbacks := s.packetCallbacks.erase Callback.handleMessage } leaving shutdown
  omega

/-- A step of its own leaves an application fewer of them to take, any other step no more. -/
theorem rank_step {s s' : Lifespan} {l : LifespanStep} (h : s.Tidy)
    (hstep : s.step topicMatchesSub settings l = some s') :
    s'.rank ≤ s.rank ∧ (l.own = true → s'.rank < s.rank) := by
  have hless : s'.rank < s.rank → s'.rank ≤ s.rank ∧ (l.own = true → s'.rank < s.rank) :=
    fun hless => ⟨Nat.le_of_lt hless, fun _ => hless⟩
  cases l with
  | tick now | deliver message =>
      rcases Option.ite_none_right_eq_some.mp hstep with ⟨_, hs'⟩
      cases hs'
      exact ⟨Nat.le_refl _, by simp [LifespanStep.own]⟩
  | enter start =>
      rcases Option.ite_none_right_eq_some.mp hstep with ⟨hstart, hs'⟩
      have hrank : s.rank = 19 := by rw [rank, hstart]
      apply hless
      rw [hrank]
      rcases enter_cases (h.start hstart).1 hs' with
        ⟨t, c, hentered, _, hleave | ⟨_, _, rfl⟩ | ⟨_, _, rfl⟩⟩
      · have hleft := rank_leave_lt hentered hleave
        omega
      · simp [rank, serve]
      · simp [rank]
  | connection up =>
      rcases connection_cases hstep with ⟨_, rfl, _⟩
      refine ⟨?_, by simp [LifespanStep.own]⟩
      cases hactivity : s.activity <;> simp [rank, wake, hactivity, Shutdown.rank]
  | expire =>
      apply hless
      simp only [step] at hstep
      split at hstep
      · next wait hactivity =>
          rcases Option.ite_none_right_eq_some.mp hstep with ⟨⟨_, hexpired⟩, hs'⟩
          cases hs'
          simp [rank, hactivity, hexpired]
      · cases hstep
  | cancel =>
      simp only [step] at hstep
      split at hstep
      · next wait hactivity =>
          cases hstep
          exact ⟨by simp [rank, hactivity], by simp [LifespanStep.own]⟩
      · cases hstep
  | resume leaving =>
      rcases resume_cases hstep with ⟨wait, hactivity, hends⟩
      have hrank : 17 ≤ s.rank := by
        simp only [rank, hactivity]
        split <;> omega
      apply hless
      rcases hends with ⟨_, _, rfl⟩ | ⟨why, _, _, hleave⟩
      · simp only [rank, serve] at hrank ⊢
        omega
      · have hleft := rank_leave_lt (h.running (by rw [Lifespan.running, hactivity])) hleave
        omega
  | leave leaving =>
      rcases Option.ite_none_right_eq_some.mp hstep with ⟨⟨hserving, _⟩, hleave⟩
      have hleft := rank_leave_lt (h.running (by rw [Lifespan.running, hserving])) hleave
      apply hless
      rw [rank.eq_def s, hserving]
      exact hleft
  | disconnect l =>
      rcases disconnect_cases hstep with
        ⟨leaving, shutdown, unjoined, hactivity, _, hshutdown, _, rfl⟩
      have hsettle := rank_settle_le { s with unjoined } leaving shutdown
      have hrank : s.rank = s.shutdown.rank := by rw [rank, hactivity]
      have hsteps := Shutdown.rank_step (h.stopping leaving hactivity).1.tracked hshutdown
      rw [hrank]
      exact ⟨hsettle.trans hsteps.1, fun hown => hsettle.trans_lt (hsteps.2 hown)⟩
  | register owner =>
      rcases consumer_cases (Or.inl rfl) hstep with ⟨_, _, rfl, _⟩
      exact ⟨Nat.le_refl _, by simp [LifespanStep.own]⟩
  | unregister owner =>
      rcases consumer_cases (Or.inr rfl) hstep with ⟨_, _, rfl, _⟩
      exact ⟨Nat.le_refl _, by simp [LifespanStep.own]⟩

/-- An application waits for the broker, for at most ten seconds. -/
def Waits (s : Lifespan) : Prop :=
  ∃ wait, s.activity = .connecting wait ∧ s.now < wait.deadline

/-- Until its end, an application that does not wait for the broker can take a step. -/
theorem moves_of_tidy {s : Lifespan} (h : s.Tidy) (hordered : s.Ordered) (hwaits : ¬s.Waits)
    (hnot : ¬s.Ended) :
    ∃ l s', l.own = true ∧ s.StopsInPeace l ∧ s.step topicMatchesSub settings l = some s' := by
  have hmoves : ∀ l : LifespanStep, l.own = true → s.StopsInPeace l →
      (s.step topicMatchesSub settings l).isSome = true →
      ∃ l s', l.own = true ∧ s.StopsInPeace l ∧ s.step topicMatchesSub settings l = some s' := by
    intro l hown hpeace hsome
    rcases Option.isSome_iff_exists.mp hsome with ⟨s', hstep⟩
    exact ⟨l, s', hown, hpeace, hstep⟩
  cases hactivity : s.activity with
  | start =>
      apply hmoves (.enter .loopStarted) rfl trivial
      simp [step, hactivity, enter, (h.start hactivity).2.1]
  | connecting wait =>
      have hdeadline : wait.deadline ≤ s.now := by
        by_contra hless
        exact hwaits ⟨wait, hactivity, Rat.not_le.mp hless⟩
      by_cases hexpired : wait.expired = true
      · apply hmoves (.resume (some .timeout)) rfl trivial
        have hfresh := h.running (by rw [Lifespan.running, hactivity])
        simp [step, hactivity, ConnectWait.allows, hexpired, leave_eq hfresh]
      · apply hmoves .expire rfl trivial
        simp [step, hactivity, hdeadline, hexpired]
  | serving =>
      apply hmoves (.leave .finished) rfl trivial
      have hfresh := h.running (by rw [Lifespan.running, hactivity])
      simp [step, hactivity, leave_eq hfresh]
  | stopping leaving =>
      rcases h.stopping leaving hactivity with ⟨hquiet, hrunning⟩
      rcases (hordered.order hquiet.client).moves hrunning with
        ⟨l, shutdown, hown, hpeace, hshutdown⟩
      apply hmoves (.disconnect l) hown hpeace
      cases l with
      | connection up => cases hown
      | _ => simp only [step, hactivity, hshutdown, Option.map_some, Option.isSome_some]
  | ended leaving => exact absurd ⟨leaving, hactivity⟩ hnot

end

end Lifespan

end MqttGateway
