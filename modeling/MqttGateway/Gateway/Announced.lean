import MqttGateway.Api.StreamFrames
import MqttGateway.Core.TopicLists
import MqttGateway.Gateway.AccessWindow
import MqttGateway.Gateway.EndToEnd
import MqttGateway.Gateway.StreamOutcome
import MqttGateway.Gateway.Subscribed

/-!
# What a websocket client is told

The frames of a connection in a run of the gateway, and what the ready frame promises in a
run of the process: as long as the callback of the connection is registered, the client is
a consumer of every filter that it has been told.

Main results:

- Theorem {lit}`websocket_frames_in_order`: in every run the ready frame comes first, a close
  frame says what is the case, and nothing follows it.
- Theorem {lit}`announced_are_served`: a client that has been told that it is ready holds every
  filter named, and the broker's session has it when the connection is settled.
-/

namespace MqttGateway

open Toolkit

namespace Gateway

variable {topicMatchesSub : PyStr → PyStr → Bool} {settings : Settings}
  {jwtDecode : ℚ → PyStr → Except PyException Claims} {id : Nat} {g g' : Gateway}

/-! ## The frames of every connection -/

/-- Every step keeps what a connection has been told right. -/
theorem spoken_step {l : GatewayStep}
    (hstep : g.step topicMatchesSub settings jwtDecode l = some g')
    (h : (g.streams id).Spoken g.now) : (g'.streams id).Spoken g'.now := by
  have hspoken : (g'.streams id).Spoken g.now :=
    stream_keeps (P := Stream.Spoken g.now) hstep (fun _ hstream => h.step hstream)
      (fun message _ h => h.wsCallback message) h
  exact hspoken.later (now_le_of_step hstep)

/-- After every run a connection has been told what is the case. -/
theorem spoken_of_run {steps : List GatewayStep}
    (hrun : (machine topicMatchesSub settings jwtDecode).Run steps g) (id : Nat) :
    (g.streams id).Spoken g.now :=
  Machine.Reachable.invariant (P := fun g => (g.streams id).Spoken g.now)
    (Stream.spoken_initial 0) (fun _ _ _ h hstep => spoken_step hstep h) ⟨steps, hrun⟩

/-- Nothing is sent in a step after a call of {lit}`close`. -/
theorem hushed_step {l : GatewayStep}
    (hstep : g.step topicMatchesSub settings jwtDecode l = some g')
    (h : (g.streams id).Spoken g.now) (hcloses : (g.streams id).closes ≠ []) :
    (g'.streams id).sent = (g.streams id).sent ∧ (g'.streams id).closes ≠ [] := by
  rcases stream_of_step hstep id with ⟨_, _, hstream⟩ | ⟨_, hsame | ⟨message, _, hpacket⟩⟩
  · exact h.hushed_step hcloses hstream
  · rw [hsame]
    exact ⟨rfl, hcloses⟩
  · rw [hpacket]
    refine Function.Iterate.rec
      (fun s : Stream => s.sent = (g.streams id).sent ∧ s.closes ≠ []) ⟨rfl, hcloses⟩ ?_ _
    intro s hs
    rcases Stream.wsCallback_cases topicMatchesSub settings g.now message s with
      heq | ⟨_, _, ⟨_, heq⟩ | ⟨_, heq⟩⟩
    · rw [heq]
      exact hs
    · rw [heq]
      exact hs
    · rw [heq]
      exact hs

/-- Nothing is sent in any continuation of a run after a call of {lit}`close`. -/
theorem hushed_of_exec {before after : List GatewayStep}
    (hrun : (machine topicMatchesSub settings jwtDecode).Run before g)
    (hexec : (machine topicMatchesSub settings jwtDecode).exec g after = some g')
    (hcloses : (g.streams id).closes ≠ []) :
    (g'.streams id).sent = (g.streams id).sent := by
  induction after generalizing before g with
  | nil =>
      cases hexec
      rfl
  | cons l after ih =>
      rcases Option.bind_eq_some_iff.mp hexec with ⟨t, hstep, hrest⟩
      rcases hushed_step hstep (spoken_of_run hrun id) hcloses with ⟨hsent, hstill⟩
      exact (ih (hrun.snoc hstep) hrest hstill).trans hsent

/-- In every run, for every connection: nothing has been sent, or the ready frame has come first
and only then, naming the requested filters when all of them have been acquired;
{lit}`close` has been called at most twice, the second time because the stream is unavailable;
a refused client has been sent nothing and has acquired nothing, and a client is told
that its token has expired only when it has; and whatever follows in the run, nothing is
sent after a call of {lit}`close`. -/
theorem websocket_frames_in_order {before after : List GatewayStep}
    (hrun : (machine topicMatchesSub settings jwtDecode).Run before g)
    (hexec : (machine topicMatchesSub settings jwtDecode).exec g after = some g') (id : Nat) :
    ((g.streams id).sent = [] ∨ (g.streams id).Greeted) ∧
      ((g.streams id).closes.tail = [] ∨ (g.streams id).closes.tail = [.streamUnavailable]) ∧
      (∀ close ∈ (g.streams id).closes, (g.streams id).Told g.now close) ∧
      ((g.streams id).closes ≠ [] → (g'.streams id).sent = (g.streams id).sent) := by
  have hspoken := spoken_of_run hrun id
  exact ⟨hspoken.greeted, hspoken.tail_closes, hspoken.told, hushed_of_exec hrun hexec⟩

/-- A client that is too slow is told so, and its handler goes on to its end. -/
theorem websocket_frames_in_order_slow :
    ∃ g g', (sampleOf narrowSettings).Run (slowConsumer.take 16) g ∧
      (sampleOf narrowSettings).Run slowConsumer g' ∧
      (g.streams 0).closes = [.cannotKeepUp] ∧ (g'.streams 0).sent = (g.streams 0).sent ∧
      (g.streams 0).Greeted := by
  have hexec : ((sampleOf narrowSettings).exec initial (slowConsumer.take 16)).isSome := by
    decide +kernel
  rcases Option.isSome_iff_exists.mp hexec with ⟨g, hg⟩
  have hexec' : (((sampleOf narrowSettings).exec initial (slowConsumer.take 16)).bind fun g =>
      (sampleOf narrowSettings).exec g (slowConsumer.drop 16)).isSome := by
    decide +kernel
  rw [hg, Option.bind_some] at hexec'
  rcases Option.isSome_iff_exists.mp hexec' with ⟨g', hg'⟩
  have hstate : ((sampleOf narrowSettings).exec initial (slowConsumer.take 16)).map (fun g =>
      ((g.streams 0).closes, (g.streams 0).sent.isEmpty)) = some ([.cannotKeepUp], false) := by
    decide +kernel
  rw [hg, Option.map_some, Option.some.injEq, Prod.mk.injEq] at hstate
  have hrun := Machine.run_iff_exec.mpr hg
  rcases websocket_frames_in_order hrun hg' 0 with ⟨hfirst, _, _, hhushed⟩
  have hall := hrun.append hg'
  rw [List.take_append_drop] at hall
  refine ⟨g, g', hrun, hall, hstate.1, hhushed (by simp [hstate.1]), ?_⟩
  rcases hfirst with hsilent | hgreeted
  · rw [hsilent] at hstate
    cases hstate.2
  · exact hgreeted

/-! ## Asking again -/

/-- The filters requested are the entries of the text, without repetitions. -/
theorem requestedTopics_text (topics : PyStr) :
    Stream.requestedTopics topics = Separated.distinctEntries comma PyStr.isSpace topics :=
  rfl

/-- The checks of filters that have passed them one by one. -/
theorem checkTopics_of_authorized {requested : List PyStr}
    (hcount : 1 ≤ requested.length ∧ requested.length ≤ settings.websocketMaxTopics)
    (hauthorized : ∀ topic ∈ requested,
      authorizeTopic topicMatchesSub topic settings true = .ok ()) :
    Stream.checkTopics topicMatchesSub settings requested = .ok () := by
  have hnumber : ¬(requested = [] ∨ settings.websocketMaxTopics < requested.length) := by
    rintro (hnone | hmany)
    · rw [hnone] at hcount
      exact absurd hcount.1 (by simp)
    · omega
  rw [Stream.checkTopics, if_neg hnumber]
  exact forM_eq_ok_of_forall hauthorized

/-- In every run, the filters that a ready frame names are different from each other, can stand in
a text of topics and have passed the ACL; and whoever comes with a valid token and asks for
them, written in one text, is admitted and asks for the same filters in the same order. -/
theorem announced_topics_ask_again {steps : List GatewayStep}
    (hrun : (machine topicMatchesSub settings jwtDecode).Run steps g) {at' : ℚ}
    {topics : List PyStr} (hready : (at', .ready topics) ∈ (g.streams id).sent) :
    topics.Nodup ∧
      (∀ topic ∈ topics, Listable topic ∧
        authorizeTopic topicMatchesSub topic settings true = .ok ()) ∧
      ∀ now token claims (s : Stream),
        tokenClaims settings (jwtDecode now) token = .ok (some claims) →
        s.topics = joinTopics topics →
        s.gate topicMatchesSub settings (jwtDecode now) token =
          { s with
            claims := some claims
            requested := topics
            handler := if s.accepted then .registering else .accepting } := by
  have hsent : (g.streams id).sent ≠ [] := List.ne_nil_of_mem hready
  rcases admitted_of_run hrun (Or.inr (Or.inr hsent)) with
    ⟨hquery, _, _, _, _, _, _, _, _, hadmits⟩
  have hnamed := ((spoken_of_run hrun id).ready_named hready).1
  rw [← hnamed] at hquery hadmits
  rw [requestedTopics_text] at hquery
  have hnodup : topics.Nodup := hquery ▸ Separated.nodup_distinctEntries _
  have hlistable : ∀ topic ∈ topics, Listable topic := by
    intro topic hmem
    rw [hquery] at hmem
    exact Separated.entry_of_mem_distinctEntries hmem
  refine ⟨hnodup, fun topic hmem => ⟨hlistable topic hmem, hadmits.authorized topic hmem⟩, ?_⟩
  intro now token claims s hclaims htopics
  have hagain : Stream.requestedTopics s.topics = topics := by
    rw [htopics, requestedTopics_text, hquery]
    exact Separated.distinctEntries_join_distinctEntries _
  have hcheck := checkTopics_of_authorized hadmits.count hadmits.authorized
  simp only [Stream.gate, hclaims, hagain, hcheck]

/-- The filter of a ready frame is admitted again. -/
theorem announced_topics_ask_again_ready :
    ∃ g, sample.Run streamingConnection g ∧ Listable (PyStr.lit ['a']) ∧
      ({ Stream.initial with topics := joinTopics [PyStr.lit ['a']] }.gate
        (fun filter topic => decide (MqttMatches filter topic)) Settings.default
        (fun _ => .ok ⟨.str Settings.default.apiUsername, none, .ok 100⟩)
        (.str (PyStr.lit ['x']))).requested = [PyStr.lit ['a']] := by
  have hexec : (sample.exec initial streamingConnection).isSome := by decide +kernel
  rcases Option.isSome_iff_exists.mp hexec with ⟨g, hg⟩
  have hrun : sample.Run streamingConnection g := Machine.run_iff_exec.mpr hg
  have hstate : (sample.exec initial streamingConnection).map (fun g => (g.streams 0).sent) =
      some [(0, .ready [PyStr.lit ['a']])] := by
    decide +kernel
  rw [hg, Option.map_some, Option.some.injEq] at hstate
  have hready : (0, .ready [PyStr.lit ['a']]) ∈ (g.streams 0).sent := by
    rw [hstate]
    exact List.mem_singleton_self _
  have hagain := announced_topics_ask_again hrun hready
  have hclaims : tokenClaims Settings.default
      (fun _ => .ok ⟨.str Settings.default.apiUsername, none, .ok 100⟩) (.str (PyStr.lit ['x'])) =
        .ok (some ⟨.str Settings.default.apiUsername, none, .ok 100⟩) := by
    rfl
  refine ⟨g, hrun, (hagain.2.1 _ (List.mem_singleton_self _)).1, ?_⟩
  exact congrArg Stream.requested (hagain.2.2 0 _ _ _ hclaims rfl)

/-! ## What a connection holds while its callback is registered -/

/-- While the callback of a connection is registered, the connection holds every filter that it
has acquired. -/
def Holds (hub : Hub) (id : Nat) (s : Stream) : Prop :=
  Stream.registered s.handler = true →
    ∀ topic ∈ s.acquired, hub.service.held topic (.websocket id) = some 0

/-- What others do on the hub takes no filter away. -/
theorem Holds.of_unchanged {s s' : Stream} {hub hub' : Hub} (h : Holds hub id s)
    (hsame : Hub.Unchanged (.websocket id) hub hub') (hhandler : s'.handler = s.handler)
    (hacquired : s'.acquired = s.acquired) : Holds hub' id s' := by
  unfold Holds
  rw [hhandler, hacquired]
  intro hregistered topic hmem
  rw [hsame.held]
  exact h hregistered topic hmem

/-- A connection that acquires a filter holds it with the others. -/
theorem Holds.acquire {s s' : Stream} {hub : Hub} (h : Holds hub id s) {paho : Paho}
    {topic : PyStr} {todo : List PyStr} (hhandler : s.handler = .acquiring (topic :: todo))
    (hresult :
      ((hub.acquire topicMatchesSub settings paho topic 0 (.websocket id) false).1 = .ok () ∧
        s' = { s with acquired := s.acquired ++ [topic], handler := .acquiring todo }) ∨
      ∃ e, (hub.acquire topicMatchesSub settings paho topic 0 (.websocket id) false).1 =
        .error e ∧ s' = s.fail e) :
    Holds (hub.acquire topicMatchesSub settings paho topic 0 (.websocket id) false).2 id s' := by
  unfold Holds at h
  rw [hhandler] at h
  rcases MQTTService.held_acquireSubscription topicMatchesSub settings paho topic 0
    (.websocket id) false hub.service with ⟨_, herror, hsame⟩ | ⟨hok, hnow⟩
  · rcases hresult with ⟨hok, _⟩ | ⟨e, _, rfl⟩
    · rw [Hub.acquire, herror] at hok
      cases hok
    · have hframe := Stream.fail_frame topicMatchesSub settings (by rw [hhandler]; rfl) e
      intro _ t hmem
      rw [hframe.acquired] at hmem
      rw [Hub.acquire, hsame]
      exact h rfl t hmem
  · rcases hresult with ⟨_, rfl⟩ | ⟨e, herror, _⟩
    · intro _ t hmem
      rw [Hub.acquire, hnow]
      split
      · rfl
      · next hother =>
          rcases List.mem_append.mp hmem with hbefore | hlast
          · exact h rfl t hbefore
          · exact absurd ⟨List.mem_singleton.mp hlast, rfl⟩ hother
    · rw [Hub.acquire, hok] at herror
      cases herror

/-- A step of a connection keeps what it holds. -/
theorem Holds.step {s s' : Stream} {hub hub' : Hub} {now : ℚ}
    {decode : PyStr → Except PyException Claims} (h : Holds hub id s) (hspoken : s.Spoken now)
    {l : StreamStep}
    (hstep : s.step topicMatchesSub settings decode id now hub l = some (hub', s')) :
    Holds hub' id s' := by
  rcases Stream.step_cases hstep with ⟨_, _, hlocal, rfl⟩ | ⟨_, _, hlocal, rfl⟩ |
    ⟨_, hhandler, rfl, rfl⟩ | ⟨paho, topic, _, _, hhandler, rfl, hresult⟩ |
    ⟨_, _, _, _, rfl⟩ | ⟨_, _, _, _, _, _, _, ⟨_, rfl⟩ | ⟨e, _, rfl⟩⟩
  · have hframe := Stream.handlerStep_frame hlocal
    unfold Holds
    rw [hframe.moves.registered, hframe.acquired]
    exact h
  · have hframe := Stream.childStep_frame hlocal
    unfold Holds
    rw [hframe.handler, hframe.acquired]
    exact h
  · have hnothing := hspoken.unacquired (by rw [hhandler]; rfl) (by rw [hhandler]; rfl)
    intro _ topic hmem
    change topic ∈ s.acquired at hmem
    rw [hnothing] at hmem
    cases hmem
  · exact h.acquire hhandler hresult
  · intro hregistered
    cases hregistered
  · intro hregistered
    cases hregistered
  · intro hregistered
    dsimp only at hregistered
    split at hregistered <;> cases hregistered

/-- After every run a connection with a registered callback holds what it has acquired. -/
theorem holds_of_run {steps : List GatewayStep}
    (hrun : (machine topicMatchesSub settings jwtDecode).Run steps g) (id : Nat) :
    Holds g.hub id (g.streams id) := by
  refine Machine.Run.invariant (P := fun _ g => Holds g.hub id (g.streams id)) ?_ ?_ hrun
  · intro hregistered
    cases hregistered
  · intro _ g l g' hbefore h hstep
    rcases stream_of_step hstep id with
      ⟨_, _, hstream⟩ | ⟨hother, hsame | ⟨message, _, hpacket⟩⟩
    · exact h.step (spoken_of_run hbefore id) hstream
    · exact h.of_unchanged (unchanged_of_step hstep hother) (by rw [hsame]) (by rw [hsame])
    · rcases iterate_wsCallback topicMatchesSub settings g.now message
        (g.hub.packetCallbacks.count (.wsCallback id)) (g.streams id) with ⟨hhandler, hacquired⟩
      rw [← hpacket] at hhandler hacquired
      exact h.of_unchanged (unchanged_of_step hstep hother) hhandler hacquired

end Gateway

namespace Process

variable {topicMatchesSub : PyStr → PyStr → Bool} {settings : Settings}
  {jwtDecode : ℚ → PyStr → Except PyException Claims} {p : Process}

/-! ## What the ready frame promises -/

/-- In every run of the process, from the ready frame of a connection until its handler takes the
callback back: the frame names what the client has asked for, its callback is called once
for each packet, and the connection holds every filter named, which the broker's session
has whenever the connection to the broker is settled. -/
theorem announced_are_served {steps : List ProcessStep}
    (hrun : (machine topicMatchesSub settings jwtDecode).Run steps p) (id : Nat) {at' : ℚ}
    {topics : List PyStr} (hready : (at', .ready topics) ∈ (p.gateway.streams id).sent)
    (hregistered : Stream.registered (p.gateway.streams id).handler = true) :
    topics = (p.gateway.streams id).requested ∧
      p.handOff.packetCallbacks.count (.wsCallback id) = 1 ∧
      ∀ topic ∈ topics, p.gateway.hub.service.held topic (.websocket id) = some 0 ∧
        (p.session.Settled → ∃ q, p.session.broker.get? topic = some q ∧ 0 ≤ q) := by
  rcases gateway_of_run hrun with ⟨steps', hgateway, _⟩
  have hspoken := Gateway.spoken_of_run hgateway id
  have hholds := Gateway.holds_of_run hgateway id
  have hcount := Gateway.count_wsCallback_of_run hgateway id
  rcases ahead_same topicMatchesSub settings p id with ⟨hhub, hhandler, hacquired, hkept⟩
  rw [hhub] at hholds hcount
  have hnamed : topics = (p.gateway.streams id).requested ∧
      (p.gateway.streams id).acquired = (p.gateway.streams id).requested := by
    rw [← hkept.sent] at hready
    rw [← hkept.requested, ← hacquired]
    exact hspoken.ready_named hready
  rw [← hhandler] at hregistered
  rw [if_pos hregistered, ← (consistent_of_reachable ⟨steps, hrun⟩).shared.2] at hcount
  refine ⟨hnamed.1, hcount, ?_⟩
  intro topic hmem
  have hheld : p.gateway.hub.service.held topic (.websocket id) = some 0 := by
    apply hholds hregistered
    rw [hacquired, hnamed.2, ← hnamed.1]
    exact hmem
  refine ⟨hheld, ?_⟩
  intro hsettled
  rcases (coherent_of_reachable ⟨steps, hrun⟩).covers topic _ _ hheld with ⟨q, hq, hcovers⟩
  exact ⟨q, get?_broker_of_settled ⟨steps, hrun⟩ hsettled hq, hcovers⟩

/-- A websocket that is told that it is ready, and a connection lost and made again. -/
def announced : List ProcessStep :=
  let handler (l : HandlerStep) : ProcessStep := .consumer (.stream 0 (.handler l)) [] []
  let header := PyStr.lit ['B', 'e', 'a', 'r', 'e', 'r', ' ', 'x']
  connecting ++
    [handler (.connect (some header) (PyStr.lit ['a'])), handler .resume,
      .consumer (.stream 0 .register) [] [.addPacketCallback (.wsCallback 0)],
      .consumer (.stream 0 (.acquire Gateway.connectedPaho))
        [.callSubscribe (PyStr.lit ['a']) 0, .proceed, .proceed] [],
      handler .sendReady, .connection .transportDown, .connection .transportUp,
      .connection .runEvent, .connection .runEvent, .connection .proceed, .connection .proceed]

/-- The filter announced is served after a reconnect. -/
theorem announced_are_served_reconnected :
    ∃ p, sample.Run announced p ∧ ∃ q, p.session.broker.get? (PyStr.lit ['a']) = some q ∧
      0 ≤ q := by
  have hexec : (sample.exec initial announced).isSome := by decide +kernel
  rcases Option.isSome_iff_exists.mp hexec with ⟨p, hp⟩
  have hrun : sample.Run announced p := Machine.run_iff_exec.mpr hp
  have hstate : (sample.exec initial announced).map (fun p => (p.session.up, p.session.pending,
      p.session.activity, Stream.registered (p.gateway.streams 0).handler)) =
        some (true, [], .idle, true) := by
    decide +kernel
  have hframes : (sample.exec initial announced).map (fun p => (p.gateway.streams 0).sent) =
      some [(0, .ready [PyStr.lit ['a']])] := by
    decide +kernel
  rw [hp, Option.map_some, Option.some.injEq] at hstate hframes
  simp only [Prod.mk.injEq] at hstate
  rcases hstate with ⟨hup, hpending, hidle, hregistered⟩
  have hready : (0, .ready [PyStr.lit ['a']]) ∈ (p.gateway.streams 0).sent := by
    rw [hframes]
    exact List.mem_singleton_self _
  have hserved := (announced_are_served hrun 0 hready hregistered).2.2 _
    (List.mem_singleton_self _)
  exact ⟨p, hrun, hserved.2 ⟨hup, hpending, hidle⟩⟩

end Process

end MqttGateway
