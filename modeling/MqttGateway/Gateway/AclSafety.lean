import MqttGateway.Api.StreamOrder
import MqttGateway.Gateway.Ownership

/-!
# Subscriptions and the ACL

The subscribe path compares filters with filters and the publish path compares topics
with filters.  A filter that the subscribe path authorizes matches no valid topic that
the publish path rejects; so neither a held subscription nor a websocket stream, whose
callback looks at the requested filters only, brings such a topic to a client.

Main results:

- Theorem {lit}`held_authorized_of_run`: only authorized filters are held.
- Theorem {lit}`cleared_of_run`: the frames of a stream carry topics the publish path authorizes.
- Theorem {lit}`acl_safety`: both paths agree, and what follows for a run of the gateway.
-/

namespace MqttGateway

open Toolkit

variable {topicMatchesSub : PyStr → PyStr → Bool} {settings : Settings}

/-! ## Streams -/

namespace Stream

variable {jwtDecode : PyStr → Except PyException Claims} {id : Nat} {now : ℚ} {hub hub' : Hub}
  {s s' : Stream}

/-- The publish path authorizes every valid topic dispatched to a stream. -/
def Cleared (topicMatchesSub : PyStr → PyStr → Bool) (settings : Settings) (s : Stream) : Prop :=
  ∀ message ∈ s.dispatched, validateTopic message.topic false = .ok () →
    authorizeTopic topicMatchesSub message.topic settings false = .ok ()

/-- No step of a connection itself dispatches a packet. -/
theorem dispatched_step {l : StreamStep}
    (hstep : s.step topicMatchesSub settings jwtDecode id now hub l = some (hub', s')) :
    s'.dispatched = s.dispatched := by
  rcases step_cases hstep with ⟨_, _, hlocal, _⟩ | ⟨_, _, hlocal, _⟩ | ⟨_, _, _, rfl⟩ |
    ⟨_, _, _, _, hhandler, _, ⟨_, rfl⟩ | ⟨e, _, rfl⟩⟩ | ⟨_, _, _, _, rfl⟩ |
    ⟨_, _, _, _, _, _, _, ⟨_, rfl⟩ | ⟨_, _, rfl⟩⟩
  · exact (handlerStep_frame hlocal).dispatched
  · exact (childStep_frame hlocal).dispatched
  · rfl
  · rfl
  · exact (fail_frame topicMatchesSub settings (by rw [hhandler]; rfl) e).dispatched
  · rfl
  · rfl
  · rfl

/-- A packet that a requested filter matches has a topic the publish path authorizes. -/
theorem Cleared.wsCallback (h : s.Cleared topicMatchesSub settings)
    (hmatcher : MatcherDocumented topicMatchesSub)
    (hauthorized : s.Authorized topicMatchesSub settings) (message : ReceivedMessage) :
    (wsCallback topicMatchesSub settings now message s).Cleared topicMatchesSub settings := by
  rcases wsCallback_cases topicMatchesSub settings now message s with heq | ⟨hany, _, hnext⟩
  · rw [heq]
    exact h
  · have hdispatched : (s.wsCallback topicMatchesSub settings now message).dispatched =
        s.dispatched ++ [MQTTMessage.ofReceived now message] := by
      rcases hnext with ⟨_, heq⟩ | ⟨_, heq⟩
      · rw [heq]
      · rw [heq]
    intro m hm htopic
    rw [hdispatched, List.mem_append, List.mem_singleton] at hm
    rcases hm with hm | rfl
    · exact h m hm htopic
    · rcases List.any_eq_true.mp hany with ⟨filter, hfilter, hmatch⟩
      have hrequested := hauthorized.requested filter hfilter
      have hvalid := isFilter_of_validateTopic (validateTopic_of_authorizeTopic hrequested)
      exact authorizeTopic_of_mqttMatches hmatcher hrequested htopic
        ((hmatcher filter message.topic hvalid htopic).mp hmatch)

end Stream

namespace Gateway

variable {jwtDecode : ℚ → PyStr → Except PyException Claims} {g g' : Gateway}
  {steps : List GatewayStep}

/-- What the connections of the gateway carry. -/
structure StreamsCleared (topicMatchesSub : PyStr → PyStr → Bool) (settings : Settings)
    (s : Stream) : Prop where
  authorized : s.Authorized topicMatchesSub settings
  cleared : s.Cleared topicMatchesSub settings
  sifted : s.Sifted

/-- Every step dispatches only packets on topics that the ACL allows. -/
theorem streamsCleared_step (hmatcher : MatcherDocumented topicMatchesSub) {l : GatewayStep}
    (hstep : g.step topicMatchesSub settings jwtDecode l = some g') {id : Nat}
    (h : StreamsCleared topicMatchesSub settings (g.streams id)) :
    StreamsCleared topicMatchesSub settings (g'.streams id) := by
  rcases stream_of_step hstep id with ⟨l', _, hstream⟩ | ⟨_, hsame | ⟨message, _, hpacket⟩⟩
  · refine ⟨h.authorized.step hstream, ?_, h.sifted.step hstream⟩
    rw [Stream.Cleared, Stream.dispatched_step hstream]
    exact h.cleared
  · rw [hsame]
    exact h
  · rw [hpacket]
    refine Function.Iterate.rec (StreamsCleared topicMatchesSub settings) h ?_ _
    intro s hs
    exact ⟨hs.authorized.wsCallback message, hs.cleared.wsCallback hmatcher hs.authorized message,
      hs.sifted.wsCallback message⟩

/-- After every run a connection has seen only topics that the ACL allows. -/
theorem cleared_of_run (hmatcher : MatcherDocumented topicMatchesSub)
    (hrun : (machine topicMatchesSub settings jwtDecode).Run steps g) (id : Nat) :
    StreamsCleared topicMatchesSub settings (g.streams id) := by
  have hinit : StreamsCleared topicMatchesSub settings Stream.initial := by
    refine ⟨Stream.authorized_initial, ?_, Stream.sifted_initial⟩
    intro message hmem
    cases hmem
  exact Machine.Reachable.invariant
    (P := fun g => StreamsCleared topicMatchesSub settings (g.streams id)) hinit
    (fun _ _ _ h hstep => streamsCleared_step hmatcher hstep h) ⟨steps, hrun⟩

/-! ## Held filters -/

/-- Every filter anyone holds has passed the ACL as a subscription. -/
def HeldAuthorized (topicMatchesSub : PyStr → PyStr → Bool) (settings : Settings) (hub : Hub) :
    Prop :=
  ∀ filter owner, hub.service.held filter owner ≠ none →
    authorizeTopic topicMatchesSub filter settings true = .ok ()

/-- Every step on the hub gives owners only filters that the ACL allows. -/
theorem HeldAuthorized.step {hub hub' : Hub} (h : HeldAuthorized topicMatchesSub settings hub)
    {owner : Owner} (hstep : Hub.Step topicMatchesSub settings owner hub hub') :
    HeldAuthorized topicMatchesSub settings hub' := by
  intro filter o hheld
  cases hstep with
  | stay => exact h filter o hheld
  | add callback howner => exact h filter o hheld
  | remove callback howner =>
      unfold Hub.removePacketCallback at hheld
      split at hheld
      · exact h filter o hheld
      · exact h filter o hheld
  | acquire paho topic qos refresh =>
      rcases MQTTService.held_acquireSubscription topicMatchesSub settings paho topic qos owner
        refresh hub.service with ⟨_, _, hsame⟩ | ⟨hok, hnew⟩
      · rw [Hub.acquire, hsame] at hheld
        exact h filter o hheld
      · rw [Hub.acquire, hnew] at hheld
        split at hheld
        · next heq =>
            rw [heq.1]
            exact MQTTService.authorizeTopic_of_acquireSubscription hok
        · exact h filter o hheld
  | release paho topic =>
      rw [Hub.release, MQTTService.held_releaseSubscription] at hheld
      split at hheld
      · exact absurd rfl hheld
      · exact h filter o hheld

/-- After every run the owners hold only filters that the ACL allows. -/
theorem held_authorized_of_run
    (hrun : (machine topicMatchesSub settings jwtDecode).Run steps g) :
    HeldAuthorized topicMatchesSub settings g.hub := by
  have hinit : HeldAuthorized topicMatchesSub settings initial.hub :=
    fun filter owner hheld => absurd (MQTTService.held_initial filter owner) hheld
  refine Machine.Reachable.invariant
    (P := fun g => HeldAuthorized topicMatchesSub settings g.hub) hinit ?_ ⟨steps, hrun⟩
  intro g l g' h hstep
  rcases hub_of_step hstep with ⟨_, _, hhub⟩ | ⟨_, hsame, _⟩
  · exact h.step hhub
  · intro filter owner hheld
    rw [(hsame owner).held] at hheld
    exact h filter owner hheld

/-! ## Both paths -/

/-- With a matcher as documented: a valid topic that an authorized filter matches lies within an
allowed rule and in no blocked one, and the publish path authorizes it.  So it does in
every run, for the valid topics that any held filter matches and for the ones a stream
has sent. -/
theorem acl_safety (hmatcher : MatcherDocumented topicMatchesSub) (settings : Settings) :
    (∀ filter topic, authorizeTopic topicMatchesSub filter settings true = .ok () →
        validateTopic topic false = .ok () → MqttMatches filter topic →
          authorizeTopic topicMatchesSub topic settings false = .ok () ∧
          (∃ rule ∈ settings.allowedTopicPatterns, MqttMatches rule topic) ∧
          ∀ rule ∈ settings.blockedTopicPatterns, ¬MqttMatches rule topic) ∧
      ∀ jwtDecode steps g, (machine topicMatchesSub settings jwtDecode).Run steps g →
        (∀ filter owner qos topic, g.hub.service.held filter owner = some qos →
            validateTopic topic false = .ok () → MqttMatches filter topic →
              authorizeTopic topicMatchesSub topic settings false = .ok ()) ∧
          ∀ id, ∀ message ∈ (g.streams id).dataSent, validateTopic message.topic false = .ok () →
            authorizeTopic topicMatchesSub message.topic settings false = .ok () := by
  refine ⟨?_, ?_⟩
  · intro filter topic hfilter htopic hmatch
    exact ⟨authorizeTopic_of_mqttMatches hmatcher hfilter htopic hmatch,
      rules_of_mqttMatches hfilter hmatch⟩
  · intro jwtDecode steps g hrun
    refine ⟨?_, ?_⟩
    · intro filter owner qos topic hheld htopic hmatch
      have hfilter := held_authorized_of_run hrun filter owner (by rw [hheld]; simp)
      exact authorizeTopic_of_mqttMatches hmatcher hfilter htopic hmatch
    · intro id message hsent htopic
      have hstream := cleared_of_run hmatcher hrun id
      exact hstream.cleared message (hstream.sifted.sent.subset hsent) htopic

/-- The REST interface subscribes to everything below one level. -/
def subscribedDevices : List GatewayStep :=
  [.connection true, .restSubscribe (PyStr.lit ['d', '/', '#']) 1 connectedPaho]

/-- A filter is held, and a topic that it matches may be published on. -/
theorem acl_safety_devices :
    let matching : PyStr → PyStr → Bool := fun filter topic => decide (MqttMatches filter topic)
    authorizeTopic matching (PyStr.lit ['d', '/', 'a']) Settings.default false = .ok () ∧
      ∃ g, sample.Run subscribedDevices g ∧
        g.hub.service.held (PyStr.lit ['d', '/', '#']) .rest = some 1 ∧
        authorizeTopic matching (PyStr.lit ['d']) Settings.default false = .ok () := by
  intro matching
  have hmatcher : MatcherDocumented matching := fun _ _ _ _ => decide_eq_true_iff
  rcases acl_safety hmatcher Settings.default with ⟨hpaths, hruns⟩
  have hdirect := hpaths (PyStr.lit ['d', '/', '#']) (PyStr.lit ['d', '/', 'a'])
    (by decide +kernel) (by decide +kernel) (by decide +kernel)
  have hexec : (sample.exec initial subscribedDevices).isSome := by decide +kernel
  rcases Option.isSome_iff_exists.mp hexec with ⟨g, hg⟩
  have hrun : sample.Run subscribedDevices g := Machine.run_iff_exec.mpr hg
  have hstate : (sample.exec initial subscribedDevices).map (fun g =>
      g.hub.service.held (PyStr.lit ['d', '/', '#']) .rest) = some (some 1) := by
    decide +kernel
  rw [hg, Option.map_some, Option.some.injEq] at hstate
  have hheld := (hruns _ _ g hrun).1 _ _ _ (PyStr.lit ['d']) hstate (by decide +kernel)
    (by decide +kernel)
  exact ⟨hdirect.1, g, hrun, hstate, hheld⟩

end Gateway

end MqttGateway
