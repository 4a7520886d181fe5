import MqttGateway.Services.RegistryRuns

/-!
# What the consumers share

The REST interface, the retained queries and the websocket streams meet in two
places: the subscription registry of the service and the list of packet callbacks
of the client.  A step of one consumer goes through the few operations below, under
the consumer's own name and with its own callback.

Main results:

- Theorem {lit}`Step.unchanged`: a step of one consumer leaves what any other consumer has
  as it is.
- Theorem {lit}`Step.unsubscribes`: a step of a consumer unsubscribes a topic only if no other
  consumer holds it.
- The {lit}`Footprint` lemmas: what each operation does to what a consumer has.
-/

namespace MqttGateway

open Toolkit

/-- The packet callbacks the gateway registers: the statistics of the service, and one
closure for each retained query and each websocket connection. -/
inductive Callback where
  | handleMessage
  | receive (id : Nat)
  | wsCallback (id : Nat)
deriving DecidableEq, Repr

/-- The callback a consumer registers for itself. -/
def Owner.callback : Owner → Option Callback
  | .rest => none
  | .retained id => some (.receive id)
  | .websocket id => some (.wsCallback id)

/-- No two owners have the same callback. -/
theorem Owner.callback_injective {o o' : Owner} {callback : Callback}
    (h : o.callback = some callback) (h' : o'.callback = some callback) : o = o' := by
  cases o <;> cases o' <;> cases h <;> cases h' <;> rfl

/-- The registry of the service and the packet callbacks of the client. -/
structure Hub where
  service : MQTTService Owner
  packetCallbacks : List Callback

namespace Hub

/-- At the start of the application, with the callback of the service registered. -/
def initial : Hub where
  service := MQTTService.initial
  packetCallbacks := [.handleMessage]

/-- {lit}`MQTTClient.add_packet_callback`. -/
def addPacketCallback (hub : Hub) (callback : Callback) : Hub :=
  { hub with packetCallbacks := hub.packetCallbacks ++ [callback] }

/-- {lit}`MQTTClient.remove_packet_callback`. -/
def removePacketCallback (hub : Hub) (callback : Callback) : Hub :=
  if callback ∈ hub.packetCallbacks then
    { hub with packetCallbacks := hub.packetCallbacks.erase callback }
  else hub

section Operations

variable (topicMatchesSub : PyStr → PyStr → Bool) (settings : Settings)

/-- {lit}`acquire_subscription` on the shared registry. -/
def acquire (hub : Hub) (paho : Paho) (topic : PyStr) (qos : Int) (owner : Owner)
    (refresh : Bool) : Except PyException Unit × Hub :=
  let result := (MQTTService.acquireSubscription topicMatchesSub settings paho topic qos owner
    refresh).run hub.service
  (result.1, { hub with service := result.2 })

/-- {lit}`release_subscription` on the shared registry. -/
def release (hub : Hub) (paho : Paho) (topic : PyStr) (owner : Owner) :
    Except PyException Unit × Hub :=
  let result := (MQTTService.releaseSubscription paho topic owner).run hub.service
  (result.1, { hub with service := result.2 })

/-- What a step of a consumer can do to the hub. -/
inductive Step (owner : Owner) : Hub → Hub → Prop
  | stay (hub : Hub) : Step owner hub hub
  | add (hub : Hub) (callback : Callback) (h : owner.callback = some callback) :
      Step owner hub (hub.addPacketCallback callback)
  | remove (hub : Hub) (callback : Callback) (h : owner.callback = some callback) :
      Step owner hub (hub.removePacketCallback callback)
  | acquire (hub : Hub) (paho : Paho) (topic : PyStr) (qos : Int) (refresh : Bool) :
      Step owner hub (hub.acquire topicMatchesSub settings paho topic qos owner refresh).2
  | release (hub : Hub) (paho : Paho) (topic : PyStr) :
      Step owner hub (hub.release paho topic owner).2

end Operations

/-! ## Other consumers -/

/-- Nothing a consumer has differs between two hubs. -/
structure Unchanged (owner : Owner) (hub hub' : Hub) : Prop where
  held : ∀ topic, hub'.service.held topic owner = hub.service.held topic owner
  callbacks : ∀ callback, owner.callback = some callback →
    hub'.packetCallbacks.count callback = hub.packetCallbacks.count callback

/-- A registration counts once. -/
theorem count_addPacketCallback (hub : Hub) (callback callback' : Callback) :
    (hub.addPacketCallback callback).packetCallbacks.count callback' =
      hub.packetCallbacks.count callback' + if callback' = callback then 1 else 0 := by
  unfold addPacketCallback
  rw [List.count_append, List.count_singleton]
  by_cases h : callback' = callback
  · simp [h]
  · simp [h, Ne.symm h]

/-- A callback that is taken back counts once less. -/
theorem count_removePacketCallback (hub : Hub) (callback callback' : Callback) :
    (hub.removePacketCallback callback).packetCallbacks.count callback' =
      hub.packetCallbacks.count callback' - if callback' = callback then 1 else 0 := by
  unfold removePacketCallback
  split
  · by_cases h : callback' = callback
    · simp [h, List.count_erase_self]
    · simp [h, List.count_erase_of_ne h]
  · next hnot =>
      by_cases h : callback' = callback
      · rw [h, List.count_eq_zero.mpr hnot, Nat.zero_sub]
      · simp [h]

variable {topicMatchesSub : PyStr → PyStr → Bool} {settings : Settings}

/-- A step of a consumer leaves every other consumer's topics and callback alone. -/
theorem Step.unchanged {owner other : Owner} {hub hub' : Hub}
    (h : Step topicMatchesSub settings owner hub hub') (hother : other ≠ owner) :
    Unchanged other hub hub' := by
  cases h with
  | stay => exact ⟨fun _ => rfl, fun _ _ => rfl⟩
  | add callback howner =>
      refine ⟨fun _ => rfl, ?_⟩
      intro callback' hcallback
      have hne : callback' ≠ callback := by
        rintro rfl
        exact hother (Owner.callback_injective hcallback howner)
      rw [count_addPacketCallback, if_neg hne, Nat.add_zero]
  | remove callback howner =>
      refine ⟨?_, ?_⟩
      · intro topic
        unfold removePacketCallback
        split <;> rfl
      · intro callback' hcallback
        have hne : callback' ≠ callback := by
          rintro rfl
          exact hother (Owner.callback_injective hcallback howner)
        rw [count_removePacketCallback, if_neg hne, Nat.sub_zero]
  | acquire paho topic qos refresh =>
      refine ⟨?_, fun _ _ => rfl⟩
      intro t
      rcases MQTTService.held_acquireSubscription topicMatchesSub settings paho topic qos owner
        refresh hub.service with ⟨_, _, hheld⟩ | ⟨_, hheld⟩
      · exact hheld t other
      · rw [Hub.acquire, hheld, if_neg fun h => hother h.2]
  | release paho topic =>
      refine ⟨?_, fun _ _ => rfl⟩
      intro t
      rw [Hub.release, MQTTService.held_releaseSubscription, if_neg fun h => hother h.2]

/-- A step of a consumer keeps the maps of the registry coherent. -/
theorem Step.coherent {owner : Owner} {hub hub' : Hub}
    (h : Step topicMatchesSub settings owner hub hub') (hc : hub.service.Coherent) :
    hub'.service.Coherent := by
  cases h with
  | stay => exact hc
  | add => exact hc
  | remove =>
      unfold removePacketCallback
      split <;> exact hc
  | acquire paho topic qos refresh =>
      exact hc.acquire topicMatchesSub settings paho topic qos owner refresh
  | release paho topic => exact hc.release paho topic owner

/-- A step of a consumer unsubscribes a topic only as the last one to hold it. -/
theorem Step.unsubscribes {owner : Owner} {hub hub' : Hub}
    (h : Step topicMatchesSub settings owner hub hub') :
    ∃ issued, hub'.service.calls = hub.service.calls ++ issued ∧
      ∀ topic, .unsubscribe topic ∈ issued → hub.service.SoleOwner topic owner := by
  have hcalls : ∀ op, (∀ t o paho, op = .release t o paho → o = owner) →
      ∃ issued, ((MQTTService.runOp topicMatchesSub settings op).run hub.service).2.calls =
          hub.service.calls ++ issued ∧
        ∀ topic, .unsubscribe topic ∈ issued → hub.service.SoleOwner topic owner := by
    intro op hop
    rcases MQTTService.calls_runOp topicMatchesSub settings op hub.service with
      ⟨topic, o, paho, rfl, hsole, outcome, hrun⟩ | ⟨_, issued, hissued, hnone⟩
    · have howner := hop topic o paho rfl
      subst howner
      refine ⟨[.unsubscribe topic], congrArg (fun r => r.2.calls) hrun, ?_⟩
      intro t ht
      rw [List.mem_singleton, ClientCall.unsubscribe.injEq] at ht
      rwa [ht]
    · exact ⟨issued, hissued, fun t ht => absurd ht (hnone t)⟩
  have hstay : ∃ issued, hub.service.calls = hub.service.calls ++ issued ∧
      ∀ topic, .unsubscribe topic ∈ issued → hub.service.SoleOwner topic owner := by
    refine ⟨[], (List.append_nil _).symm, ?_⟩
    intro topic h
    cases h
  cases h with
  | stay => exact hstay
  | add => exact hstay
  | remove =>
      unfold removePacketCallback
      split <;> exact hstay
  | acquire paho topic qos refresh =>
      refine hcalls (.acquire topic qos owner refresh paho) ?_
      intro _ _ _ h
      cases h
  | release paho topic =>
      refine hcalls (.release topic owner paho) ?_
      intro _ _ _ h
      cases h
      rfl

/-! ## What a consumer has -/

/-- A consumer's callback is registered once or not at all, and it holds no topic but some. -/
structure Footprint (hub : Hub) (owner : Owner) (registered : Bool) (topics : List PyStr) :
    Prop where
  callbacks : ∀ callback, owner.callback = some callback →
    hub.packetCallbacks.count callback = if registered then 1 else 0
  held : ∀ topic, hub.service.held topic owner ≠ none → topic ∈ topics

/-- What leaves an owner alone leaves its footprint. -/
theorem Footprint.of_unchanged {hub hub' : Hub} {owner : Owner} {registered : Bool}
    {topics : List PyStr} (h : Footprint hub owner registered topics)
    (hsame : Unchanged owner hub hub') : Footprint hub' owner registered topics := by
  refine ⟨?_, ?_⟩
  · intro callback hcallback
    rw [hsame.callbacks callback hcallback, h.callbacks callback hcallback]
  · intro topic hheld
    rw [hsame.held] at hheld
    exact h.held topic hheld

/-- An owner that may hold more topics has the same footprint. -/
theorem Footprint.mono {hub : Hub} {owner : Owner} {registered : Bool}
    {topics topics' : List PyStr} (h : Footprint hub owner registered topics)
    (hsub : topics ⊆ topics') : Footprint hub owner registered topics' :=
  ⟨h.callbacks, fun topic hheld => hsub (h.held topic hheld)⟩

/-- An owner registers its callback. -/
theorem Footprint.add {hub : Hub} {owner : Owner} {topics : List PyStr} {callback : Callback}
    (h : Footprint hub owner false topics) (howner : owner.callback = some callback) :
    Footprint (hub.addPacketCallback callback) owner true topics := by
  refine ⟨?_, h.held⟩
  intro callback' hcallback
  rw [howner, Option.some.injEq] at hcallback
  subst hcallback
  rw [count_addPacketCallback, h.callbacks callback howner]
  simp

/-- An owner takes its callback back. -/
theorem Footprint.remove {hub : Hub} {owner : Owner} {registered : Bool} {topics : List PyStr}
    {callback : Callback} (h : Footprint hub owner registered topics)
    (howner : owner.callback = some callback) :
    Footprint (hub.removePacketCallback callback) owner false topics := by
  refine ⟨?_, ?_⟩
  · intro callback' hcallback
    rw [howner, Option.some.injEq] at hcallback
    subst hcallback
    rw [count_removePacketCallback, h.callbacks callback howner]
    cases registered <;> simp
  · intro topic hheld
    apply h.held
    unfold removePacketCallback at hheld
    split at hheld <;> exact hheld

/-- An acquisition that raises gives its owner nothing. -/
theorem Footprint.acquire_error {hub : Hub} {owner : Owner} {registered : Bool}
    {topics : List PyStr} (h : Footprint hub owner registered topics) {paho : Paho}
    {topic : PyStr} {qos : Int} {refresh : Bool} {e : PyException}
    (herror : (hub.acquire topicMatchesSub settings paho topic qos owner refresh).1 = .error e) :
    Footprint (hub.acquire topicMatchesSub settings paho topic qos owner refresh).2 owner
      registered topics := by
  rcases MQTTService.held_acquireSubscription topicMatchesSub settings paho topic qos owner
    refresh hub.service with ⟨_, _, hheld⟩ | ⟨hok, _⟩
  · refine ⟨h.callbacks, ?_⟩
    intro t ht
    apply h.held
    rw [← hheld t owner]
    exact ht
  · rw [Hub.acquire, hok] at herror
    cases herror

/-- An acquisition gives its owner at most the topic. -/
theorem Footprint.acquire {hub : Hub} {owner : Owner} {registered : Bool} {topics : List PyStr}
    (h : Footprint hub owner registered topics) (paho : Paho) (topic : PyStr) (qos : Int)
    (refresh : Bool) :
    Footprint (hub.acquire topicMatchesSub settings paho topic qos owner refresh).2 owner
      registered (topics ++ [topic]) := by
  refine ⟨h.callbacks, ?_⟩
  intro t ht
  rw [List.mem_append, List.mem_singleton]
  rcases MQTTService.held_acquireSubscription topicMatchesSub settings paho topic qos owner
    refresh hub.service with ⟨_, _, hheld⟩ | ⟨_, hheld⟩
  · refine Or.inl (h.held t ?_)
    rw [← hheld t owner]
    exact ht
  · rw [Hub.acquire, hheld] at ht
    by_cases heq : t = topic
    · exact Or.inr heq
    · rw [if_neg fun h => heq h.1] at ht
      exact Or.inl (h.held t ht)

/-- A release takes the topic from its owner, whatever it raises. -/
theorem Footprint.release {hub : Hub} {owner : Owner} {registered : Bool} {topic : PyStr}
    {topics : List PyStr} (h : Footprint hub owner registered (topic :: topics)) (paho : Paho) :
    Footprint (hub.release paho topic owner).2 owner registered topics := by
  refine ⟨h.callbacks, ?_⟩
  intro t ht
  rw [Hub.release, MQTTService.held_releaseSubscription] at ht
  by_cases heq : t = topic
  · rw [if_pos ⟨heq, rfl⟩] at ht
    exact absurd rfl ht
  · rw [if_neg fun h => heq h.1] at ht
    rcases List.mem_cons.mp (h.held t ht) with hmem | hmem
    · exact absurd hmem heq
    · exact hmem

/-- A consumer without a footprint has no callback and holds no topic; a topic that no other
consumer holds is then subscribed nowhere. -/
theorem Footprint.gone {hub : Hub} {owner : Owner} (h : Footprint hub owner false [])
    (hc : hub.service.Coherent) :
    (∀ callback, owner.callback = some callback → callback ∉ hub.packetCallbacks) ∧
      (∀ topic, hub.service.held topic owner = none) ∧
      ∀ topic, (topic ∈ hub.service.subscriptions ↔
          ∃ o q, o ≠ owner ∧ hub.service.held topic o = some q) ∧
        (topic ∈ hub.service.client.subscriptions ↔
          ∃ o q, o ≠ owner ∧ hub.service.held topic o = some q) := by
  have hnone : ∀ topic, hub.service.held topic owner = none := by
    intro topic
    by_contra hheld
    exact List.not_mem_nil (h.held topic hheld)
  have hsubs : ∀ topic, topic ∈ hub.service.subscriptions ↔
      ∃ o q, o ≠ owner ∧ hub.service.held topic o = some q := by
    intro topic
    rw [hc.mem_subscriptions_iff]
    constructor
    · rintro ⟨o, q, hheld⟩
      refine ⟨o, q, ?_, hheld⟩
      rintro rfl
      rw [hnone] at hheld
      cases hheld
    · rintro ⟨o, q, _, hheld⟩
      exact ⟨o, q, hheld⟩
  refine ⟨?_, hnone, ?_⟩
  · intro callback hcallback hmem
    have hcount := h.callbacks callback hcallback
    have hpos := List.count_pos_iff.mpr hmem
    rw [if_neg Bool.false_ne_true] at hcount
    omega
  · intro topic
    exact ⟨hsubs topic, hc.mem_client_iff.trans (hsubs topic)⟩

end Hub

end MqttGateway
