import MqttGateway.Gateway.System

/-!
# What consumers leave behind

Every retained query and every websocket stream has, at each point of a run, a
footprint in the hub that follows from where it is: its callback and the topics it
may hold.  At the end of either the footprint is empty.

Main results:

- Theorem {lit}`retained_query_leaves_no_trace`: a query that has ended has no callback and
  holds no topic, it has changed no other owner's entry, and a topic is unsubscribed
  only for its last owner.
- Theorem {lit}`websocket_leaves_no_trace`: the same for a websocket connection, however its
  handler has ended.
-/

namespace MqttGateway

open Toolkit

namespace Gateway

variable {topicMatchesSub : PyStr → PyStr → Bool} {settings : Settings}
  {jwtDecode : ℚ → PyStr → Except PyException Claims} {g g' : Gateway}

/-! ## Queries -/

/-- Every query has the footprint of its activity, and the registry is coherent. -/
structure TidyQueries (g : Gateway) : Prop where
  coherent : g.hub.service.Coherent
  footprint : ∀ id, g.hub.Footprint (.retained id) (Query.registered (g.queries id).activity)
    (g.queries id).mayHold

/-- At the start no query has left anything. -/
theorem tidyQueries_initial : TidyQueries initial where
  coherent := MQTTService.coherent_initial
  footprint id := by
    refine ⟨?_, ?_⟩
    · intro callback hcallback
      cases hcallback
      rfl
    · intro topic hheld
      exact absurd rfl hheld

/-- Packets change neither what a query is doing nor its topic. -/
theorem iterate_receive (message : ReceivedMessage) (n : Nat) (q : Query) :
    ((Query.receive message)^[n] q).activity = q.activity ∧
      ((Query.receive message)^[n] q).topic = q.topic := by
  refine Function.Iterate.rec
    (fun q' : Query => q'.activity = q.activity ∧ q'.topic = q.topic) ⟨rfl, rfl⟩ ?_ n
  intro q' h
  rwa [Query.receive_activity, Query.receive_topic]

/-- Every step keeps the footprints of the queries. -/
theorem TidyQueries.step (h : TidyQueries g) {l : GatewayStep}
    (hstep : g.step topicMatchesSub settings jwtDecode l = some g') : TidyQueries g' := by
  refine ⟨coherent_of_step hstep h.coherent, ?_⟩
  intro id
  rcases query_of_step hstep id with ⟨l', _, hquery⟩ | ⟨hother, hsame | ⟨message, _, hreceive⟩⟩
  · exact Query.footprint_step hquery (h.footprint id)
  · rw [hsame]
    exact (h.footprint id).of_unchanged (unchanged_of_step hstep hother)
  · have hactivity := (iterate_receive message
      (g.hub.packetCallbacks.count (.receive id)) (g.queries id)).1
    have htopic := (iterate_receive message
      (g.hub.packetCallbacks.count (.receive id)) (g.queries id)).2
    have hfoot := (h.footprint id).of_unchanged (unchanged_of_step hstep hother)
    rw [hreceive, Query.mayHold, hactivity, htopic]
    exact hfoot

/-- After every run each query has left what it is supposed to have. -/
theorem tidyQueries_of_run {steps : List GatewayStep}
    (hrun : (machine topicMatchesSub settings jwtDecode).Run steps g) : TidyQueries g :=
  Machine.Reachable.invariant tidyQueries_initial (fun _ _ _ h hstep => h.step hstep) ⟨_, hrun⟩

/-- In every run: a query that has ended is in no list and no map, and its topic is subscribed
exactly if another owner holds it; no step of a query changes another owner's entry;
and no step unsubscribes a topic that another owner holds. -/
theorem retained_query_leaves_no_trace {steps : List GatewayStep}
    (hrun : (machine topicMatchesSub settings jwtDecode).Run steps g) :
    (∀ id outcome, (g.queries id).activity = .done outcome →
        .receive id ∉ g.hub.packetCallbacks ∧
        (∀ topic, g.hub.service.held topic (.retained id) = none) ∧
        ((g.queries id).topic ∈ g.hub.service.subscriptions ↔
          ∃ o q, o ≠ .retained id ∧ g.hub.service.held (g.queries id).topic o = some q) ∧
        ((g.queries id).topic ∈ g.hub.service.client.subscriptions ↔
          ∃ o q, o ≠ .retained id ∧ g.hub.service.held (g.queries id).topic o = some q)) ∧
      (∀ id l g', g.step topicMatchesSub settings jwtDecode (.query id l) = some g' →
        ∀ topic owner, owner ≠ .retained id →
          g'.hub.service.held topic owner = g.hub.service.held topic owner) ∧
      ∀ l g', g.step topicMatchesSub settings jwtDecode l = some g' →
        ∃ issued, g'.hub.service.calls = g.hub.service.calls ++ issued ∧
          ∀ topic, .unsubscribe topic ∈ issued → ∃ owner, l.consumer = some owner ∧
            ∀ other, other ≠ owner → g.hub.service.held topic other = none := by
  have htidy := tidyQueries_of_run hrun
  refine ⟨?_, ?_, ?_⟩
  · intro id outcome hdone
    have hfoot := htidy.footprint id
    rw [Query.mayHold, hdone] at hfoot
    rcases hfoot.gone htidy.coherent with ⟨hcallback, hheld, hsubs⟩
    exact ⟨hcallback _ rfl, hheld, hsubs (g.queries id).topic⟩
  · intro id l g' hstep topic owner howner
    refine (unchanged_of_step hstep ?_).held topic
    intro hconsumer
    rw [GatewayStep.consumer, Option.some.injEq] at hconsumer
    exact howner hconsumer.symm
  · intro l g' hstep
    rcases unsubscribes_of_step hstep with ⟨issued, hissued, hsole⟩
    refine ⟨issued, hissued, ?_⟩
    intro topic hmem
    rcases hsole topic hmem with ⟨owner, howner, _, hothers⟩
    exact ⟨owner, howner, hothers⟩

/-- Two queries on a topic that the REST interface holds too: the first one is answered, the
second one is still waiting. -/
def overlappingQueries : List GatewayStep :=
  let topic := PyStr.lit ['a']
  [.connection true, .restSubscribe topic 1 connectedPaho, .query 0 (.start topic),
    .query 0 (.acquire connectedPaho), .query 1 (.start topic), .query 1 (.acquire connectedPaho),
    .deliver ⟨topic, [111], 0, true⟩, .query 0 .resume, .query 0 .unregister,
    .query 0 (.release connectedPaho)]

/-- A query that has ended leaves the topic to the owner that holds it still. -/
theorem retained_query_leaves_no_trace_overlapping :
    ∃ g, sample.Run overlappingQueries g ∧ .receive 0 ∉ g.hub.packetCallbacks ∧
      PyStr.lit ['a'] ∈ g.hub.service.subscriptions := by
  have hexec : (sample.exec initial overlappingQueries).isSome := by decide +kernel
  rcases Option.isSome_iff_exists.mp hexec with ⟨g, hg⟩
  have hrun : sample.Run overlappingQueries g := Machine.run_iff_exec.mpr hg
  have hstate : (sample.exec initial overlappingQueries).map (fun g =>
      ((g.queries 0).activity, (g.queries 0).topic,
        g.hub.service.held (PyStr.lit ['a']) .rest)) =
      some (.done (.response
        { success := true
          message := some ⟨PyStr.lit ['a'], PyStr.lit ['o'], 0, true⟩ }),
        PyStr.lit ['a'], some 1) := by
    decide +kernel
  rw [hg, Option.map_some, Option.some.injEq] at hstate
  simp only [Prod.mk.injEq] at hstate
  rcases hstate with ⟨hdone, htopic, hrest⟩
  rcases (retained_query_leaves_no_trace hrun).1 0 _ hdone with ⟨hcallback, _, hsubs, _⟩
  rw [htopic] at hsubs
  exact ⟨g, hrun, hcallback, hsubs.mpr ⟨.rest, 1, by decide, hrest⟩⟩

/-! ## Streams -/

/-- Every stream has the footprint of its handler, its topics are authorized, and the registry
is coherent. -/
structure TidyStreams (topicMatchesSub : PyStr → PyStr → Bool) (settings : Settings)
    (g : Gateway) : Prop where
  coherent : g.hub.service.Coherent
  authorized : ∀ id, (g.streams id).Authorized topicMatchesSub settings
  footprint : ∀ id, g.hub.Footprint (.websocket id) (Stream.registered (g.streams id).handler)
    (g.streams id).mayHold

/-- At the start no connection has left anything. -/
theorem tidyStreams_initial : TidyStreams topicMatchesSub settings initial where
  coherent := MQTTService.coherent_initial
  authorized _ := Stream.authorized_initial
  footprint id := by
    refine ⟨?_, ?_⟩
    · intro callback hcallback
      cases hcallback
      rfl
    · intro topic hheld
      exact absurd rfl hheld

/-- A packet changes neither what the handler is doing nor what it has acquired. -/
theorem wsCallback_handler (now : ℚ) (message : ReceivedMessage) (s : Stream) :
    (s.wsCallback topicMatchesSub settings now message).handler = s.handler ∧
      (s.wsCallback topicMatchesSub settings now message).acquired = s.acquired := by
  rcases Stream.wsCallback_cases topicMatchesSub settings now message s with
    heq | ⟨_, _, ⟨_, heq⟩ | ⟨_, heq⟩⟩
  · rw [heq]
    exact ⟨rfl, rfl⟩
  · rw [heq]
    exact ⟨rfl, rfl⟩
  · rw [heq]
    exact ⟨rfl, rfl⟩

/-- Nor do several packets. -/
theorem iterate_wsCallback (topicMatchesSub : PyStr → PyStr → Bool) (settings : Settings) (now : ℚ)
    (message : ReceivedMessage) (n : Nat) (s : Stream) :
    ((Stream.wsCallback topicMatchesSub settings now message)^[n] s).handler = s.handler ∧
      ((Stream.wsCallback topicMatchesSub settings now message)^[n] s).acquired = s.acquired := by
  refine Function.Iterate.rec
    (fun s' : Stream => s'.handler = s.handler ∧ s'.acquired = s.acquired) ⟨rfl, rfl⟩ ?_ n
  intro s' h
  rcases wsCallback_handler now message s' with ⟨hhandler, hacquired⟩
  exact ⟨hhandler.trans h.1, hacquired.trans h.2⟩

/-- Every step keeps the topics of the streams authorized. -/
theorem authorized_step {l : GatewayStep}
    (hstep : g.step topicMatchesSub settings jwtDecode l = some g') {id : Nat}
    (h : (g.streams id).Authorized topicMatchesSub settings) :
    (g'.streams id).Authorized topicMatchesSub settings := by
  rcases stream_of_step hstep id with ⟨l', _, hstream⟩ | ⟨_, hsame | ⟨message, _, hpacket⟩⟩
  · exact h.step hstream
  · rw [hsame]
    exact h
  · rw [hpacket]
    exact Function.Iterate.rec (Stream.Authorized topicMatchesSub settings) h
      (fun _ h => h.wsCallback message) _

/-- Every step with documented answers of paho keeps the footprints of the streams. -/
theorem TidyStreams.step (h : TidyStreams topicMatchesSub settings g) {l : GatewayStep}
    (hdocumented : l.Documented)
    (hstep : g.step topicMatchesSub settings jwtDecode l = some g') :
    TidyStreams topicMatchesSub settings g' := by
  refine ⟨coherent_of_step hstep h.coherent, fun id => authorized_step hstep (h.authorized id), ?_⟩
  intro id
  rcases stream_of_step hstep id with ⟨l', rfl, hstream⟩ | ⟨hother, hsame | ⟨message, _, hpacket⟩⟩
  · exact Stream.footprint_step hstream hdocumented (h.authorized id) (h.footprint id)
  · rw [hsame]
    exact (h.footprint id).of_unchanged (unchanged_of_step hstep hother)
  · have hfoot := (h.footprint id).of_unchanged (unchanged_of_step hstep hother)
    rcases iterate_wsCallback topicMatchesSub settings g.now message
      (g.hub.packetCallbacks.count (.wsCallback id)) (g.streams id) with ⟨hhandler, hacquired⟩
    rw [hpacket, Stream.mayHold, hhandler, hacquired]
    exact hfoot

/-- In every run in which paho's {lit}`unsubscribe` raises only what it documents: a handler that
has finished has left no callback and no entry, and a topic that no other owner holds
is subscribed nowhere; and no step of a connection changes another owner's entry. -/
theorem websocket_leaves_no_trace {steps : List GatewayStep}
    (hrun : (machine topicMatchesSub settings jwtDecode).GuardedRun
      (fun _ l => l.Documented) steps g) :
    (∀ id exception, (g.streams id).handler = .finished exception →
        .wsCallback id ∉ g.hub.packetCallbacks ∧
        (∀ topic, g.hub.service.held topic (.websocket id) = none) ∧
        ∀ topic, (∀ o, o ≠ .websocket id → g.hub.service.held topic o = none) →
          topic ∉ g.hub.service.subscriptions ∧ topic ∉ g.hub.service.client.subscriptions) ∧
      ∀ id l g', g.step topicMatchesSub settings jwtDecode (.stream id l) = some g' →
        ∀ topic owner, owner ≠ .websocket id →
          g'.hub.service.held topic owner = g.hub.service.held topic owner := by
  have htidy : TidyStreams topicMatchesSub settings g :=
    Machine.GuardedRun.invariant (P := fun _ g => TidyStreams topicMatchesSub settings g)
      tidyStreams_initial (fun _ _ _ _ _ h hdocumented hstep => h.step hdocumented hstep) hrun
  refine ⟨?_, ?_⟩
  · intro id exception hfinished
    have hfoot := htidy.footprint id
    rw [Stream.mayHold, hfinished] at hfoot
    rcases hfoot.gone htidy.coherent with ⟨hcallback, hheld, hsubs⟩
    refine ⟨hcallback _ rfl, hheld, ?_⟩
    intro topic hnone
    have hnobody : ¬∃ o q, o ≠ .websocket id ∧ g.hub.service.held topic o = some q := by
      rintro ⟨o, q, hother, hholds⟩
      rw [hnone o hother] at hholds
      cases hholds
    exact ⟨fun h => hnobody ((hsubs topic).1.mp h), fun h => hnobody ((hsubs topic).2.mp h)⟩
  · intro id l g' hstep topic owner howner
    refine (unchanged_of_step hstep ?_).held topic
    intro hconsumer
    rw [GatewayStep.consumer, Option.some.injEq] at hconsumer
    exact howner hconsumer.symm

/-- A connection whose second acquisition fails, on a topic that the REST interface holds too. -/
def failingAcquisition : List GatewayStep :=
  let topics := PyStr.lit ['a', ',', 'b']
  let header := PyStr.lit ['B', 'e', 'a', 'r', 'e', 'r', ' ', 'x']
  [.connection true, .restSubscribe (PyStr.lit ['a']) 1 connectedPaho,
    .stream 0 (.handler (.connect (some header) topics)), .stream 0 (.handler .resume),
    .stream 0 .register, .stream 0 (.acquire connectedPaho), .stream 0 (.acquire disconnectedPaho),
    .stream 0 (.handler .resume), .stream 0 .unregister, .stream 0 (.release connectedPaho),
    .stream 0 (.handler .resume)]

/-- A connection whose second acquisition fails releases the first one. -/
theorem websocket_leaves_no_trace_failing :
    ∃ g, sample.Run failingAcquisition g ∧ .wsCallback 0 ∉ g.hub.packetCallbacks ∧
      ∀ topic, g.hub.service.held topic (.websocket 0) = none := by
  have hexec : (sample.exec initial failingAcquisition).isSome := by decide +kernel
  rcases Option.isSome_iff_exists.mp hexec with ⟨g, hg⟩
  have hrun : sample.Run failingAcquisition g := Machine.run_iff_exec.mpr hg
  have hdocumented : ∀ l ∈ failingAcquisition, l.Documented := by
    simp [failingAcquisition, GatewayStep.Documented, StreamStep.Documented, connectedPaho,
      Paho.UnsubscribeDocumented]
  have hstate : (sample.exec initial failingAcquisition).map (fun g => (g.streams 0).handler) =
      some (.finished none) := by
    decide +kernel
  rw [hg, Option.map_some, Option.some.injEq] at hstate
  rcases (websocket_leaves_no_trace (hrun.guarded hdocumented)).1 0 _ hstate with
    ⟨hcallback, hheld, _⟩
  exact ⟨g, hrun, hcallback, hheld⟩

end Gateway

end MqttGateway
