import MqttGateway.Gateway.EndToEnd

/-!
# What a websocket does not miss

The packets that arrive while the callback of a websocket is registered, against what the
connection makes of them.  A handler registers its callback once and takes it back once, and
asks for the same filters meanwhile, so that every packet delivered in between that matches
one of them is dispatched.  The packets delivered are the ones that arrive, as long as the
buffer of the hand-over has room for them.

Main results:

- Theorem {lit}`dispatched_of_exec`: between two moments at which its callback is registered, a
  connection is given what is delivered and wanted.
- Theorem {lit}`websocket_misses_nothing`: a websocket has been given every packet that it wants
  and that had not been delivered when its callback was registered, in order, and all of
  them are handed over or on their way until one has been dropped.
-/

namespace MqttGateway

open Toolkit

namespace Stream

variable {topicMatchesSub : PyStr → PyStr → Bool} {settings : Settings}
  {jwtDecode : PyStr → Except PyException Claims} {id : Nat} {now : ℚ} {hub hub' : Hub}
  {s s' : Stream}

/-! ## One registration -/

/-- The callback is not registered and will not be. -/
def Retired (s : Stream) : Prop :=
  early s.handler = false ∧ registered s.handler = false

/-- A step of the handler outside the hub does not register its callback. -/
theorem Retired.frame (h : s.Retired) (hframe : HandlerFrame topicMatchesSub settings s s') :
    s'.Retired := by
  refine ⟨?_, hframe.moves.registered.trans h.2⟩
  by_contra hearly
  rw [Bool.not_eq_false] at hearly
  rw [Retired, hframe.moves.early hearly] at h
  cases h.1

/-- A handler that has taken its callback back does not register it again. -/
theorem Retired.step (h : s.Retired) {l : StreamStep}
    (hstep : s.step topicMatchesSub settings jwtDecode id now hub l = some (hub', s')) :
    s'.Retired := by
  rcases step_cases hstep with ⟨_, _, hlocal, _⟩ | ⟨_, _, hlocal, _⟩ | ⟨_, hhandler, _⟩ |
    ⟨_, _, _, _, hhandler, _⟩ | ⟨_, _, _, _, rfl⟩ |
    ⟨_, _, _, _, _, _, _, ⟨_, rfl⟩ | ⟨e, _, rfl⟩⟩
  · exact h.frame (handlerStep_frame hlocal)
  · rw [Retired, (childStep_frame hlocal).handler]
    exact h
  · rw [Retired, hhandler] at h
    cases h.1
  · rw [Retired, hhandler] at h
    cases h.1
  · exact ⟨rfl, rfl⟩
  · exact ⟨rfl, rfl⟩
  · cases isRuntimeError e <;> exact ⟨rfl, rfl⟩

/-- A step takes the callback back for good. -/
theorem retired_of_step {l : StreamStep}
    (hstep : s.step topicMatchesSub settings jwtDecode id now hub l = some (hub', s'))
    (hregistered : registered s.handler = true) (hleft : registered s'.handler = false) :
    s'.Retired := by
  rcases step_cases hstep with ⟨_, _, hlocal, _⟩ | ⟨_, _, hlocal, _⟩ | ⟨_, _, _, rfl⟩ |
    ⟨_, _, _, _, hhandler, _, ⟨_, rfl⟩ | ⟨e, _, rfl⟩⟩ | ⟨_, _, _, _, rfl⟩ |
    ⟨_, _, _, _, _, hhandler, _⟩
  · rw [(handlerStep_frame hlocal).moves.registered, hregistered] at hleft
    cases hleft
  · rw [(childStep_frame hlocal).handler, hregistered] at hleft
    cases hleft
  · cases hleft
  · cases hleft
  · have hframe := fail_frame topicMatchesSub settings hregistered e
    rw [hframe.moves.registered, hregistered] at hleft
    cases hleft
  · exact ⟨rfl, rfl⟩
  · rw [hhandler] at hregistered
    cases hregistered

/-- Whoever has a registered callback has been let in. -/
theorem decided_of_registered {activity : HandlerActivity} (h : registered activity = true) :
    undecided activity = false := by
  cases activity <;> first | rfl | cases h

/-- While the callback is registered, the connection asks for the same filters. -/
theorem requested_step {l : StreamStep}
    (hstep : s.step topicMatchesSub settings jwtDecode id now hub l = some (hub', s'))
    (hregistered : registered s.handler = true) : s'.requested = s.requested := by
  rcases step_onHub hstep with ⟨_, _, hlocal, _⟩ | ⟨_, _, hlocal, _⟩ | honHub
  · rcases handlerStep_admits hlocal with hnobody | ⟨hundecided, _⟩
    · exact hnobody.requested
    · rw [decided_of_registered hregistered] at hundecided
      cases hundecided
  · exact (childStep_frame hlocal).requested
  · exact honHub.kept.requested

/-- A connection that asks for the same filters wants the same packets. -/
theorem wanted_of_requested (h : s'.requested = s.requested) (message : ReceivedMessage) :
    s'.Wanted topicMatchesSub settings message ↔ s.Wanted topicMatchesSub settings message := by
  rw [Wanted, Wanted, h]

/-- Nothing has been dispatched as long as the callback has not been registered. -/
def Unserved (s : Stream) : Prop :=
  early s.handler = true → registered s.handler = false → s.dispatched = []

/-- Every step of a connection dispatches nothing before the registration. -/
theorem Unserved.step (h : s.Unserved) {l : StreamStep}
    (hstep : s.step topicMatchesSub settings jwtDecode id now hub l = some (hub', s')) :
    s'.Unserved := by
  unfold Unserved at h
  intro hearly hnot
  rw [dispatched_step hstep]
  rcases step_cases hstep with ⟨_, _, hlocal, _⟩ | ⟨_, _, hlocal, _⟩ | ⟨_, _, _, rfl⟩ |
    ⟨_, _, _, _, hhandler, _, ⟨_, rfl⟩ | ⟨e, _, rfl⟩⟩ | ⟨_, _, _, _, rfl⟩ |
    ⟨_, _, _, _, _, _, _, ⟨_, rfl⟩ | ⟨e, _, rfl⟩⟩
  · have hmoves := (handlerStep_frame hlocal).moves
    exact h (hmoves.early hearly) (hmoves.registered.symm.trans hnot)
  · rw [(childStep_frame hlocal).handler] at hearly hnot
    exact h hearly hnot
  · cases hnot
  · cases hnot
  · have hmoves := (fail_frame topicMatchesSub settings (by rw [hhandler]; rfl) e).moves
    exact h (hmoves.early hearly) (hmoves.registered.symm.trans hnot)
  · cases hearly
  · cases hearly
  · dsimp only at hearly
    split at hearly <;> cases hearly

/-! ## What is wanted -/

/-- What a connection makes of a list of packets: the ones it wants, as a client sees them. -/
def wantedOf (topicMatchesSub : PyStr → PyStr → Bool) (settings : Settings) (s : Stream)
    (packets : List ReceivedMessage) : List (PyStr × PyStr × Int × Bool) :=
  (packets.filter fun message => s.Wanted topicMatchesSub settings message).map
    ReceivedMessage.content

@[simp]
theorem wantedOf_nil : s.wantedOf topicMatchesSub settings [] = [] :=
  rfl

theorem wantedOf_append (packets later : List ReceivedMessage) :
    s.wantedOf topicMatchesSub settings (packets ++ later) =
      s.wantedOf topicMatchesSub settings packets ++
        s.wantedOf topicMatchesSub settings later := by
  rw [wantedOf, List.filter_append, List.map_append]
  rfl

/-- A connection that asks for the same filters wants the same packets. -/
theorem wantedOf_of_requested (h : s'.requested = s.requested) :
    s'.wantedOf topicMatchesSub settings = s.wantedOf topicMatchesSub settings := by
  funext packets
  refine congrArg _ (List.filter_congr ?_)
  intro message _
  exact decide_eq_decide.mpr (wanted_of_requested h message)

/-- {lit}`ws_callback` dispatches a packet that is wanted, and no other one. -/
theorem dispatched_wsCallback (now : ℚ) (message : ReceivedMessage) :
    (wsCallback topicMatchesSub settings now message s).dispatched.map MQTTMessage.content =
      s.dispatched.map MQTTMessage.content ++
        s.wantedOf topicMatchesSub settings [message] := by
  by_cases hwanted : s.Wanted topicMatchesSub settings message
  · have hdispatched : (wsCallback topicMatchesSub settings now message s).dispatched =
        s.dispatched ++ [MQTTMessage.ofReceived now message] := by
      have hlong := Nat.not_lt.mpr hwanted.2
      unfold wsCallback
      simp only [hwanted.1, Bool.not_true, Bool.false_eq_true, if_false, hlong]
      by_cases hroom : s.messageQueue.length < settings.websocketQueueSize
      · rw [Queue.putNowait_run_of_lt hroom]
      · rw [Queue.putNowait_run_of_full settings.websocketQueueSize_pos
          (Nat.le_of_not_lt hroom)]
    rw [hdispatched, List.map_append, wantedOf, List.filter_singleton, decide_eq_true hwanted]
    rfl
  · rcases wsCallback_cases topicMatchesSub settings now message s with heq | ⟨hany, hlength, _⟩
    · rw [heq, wantedOf, List.filter_singleton, decide_eq_false hwanted]
      simp
    · exact absurd ⟨hany, hlength⟩ hwanted

end Stream

namespace Gateway

variable {topicMatchesSub : PyStr → PyStr → Bool} {settings : Settings}
  {jwtDecode : ℚ → PyStr → Except PyException Claims} {id : Nat} {g g' : Gateway}

/-! ## Between two moments of a run -/

/-- A callback that has been taken back is not registered again. -/
theorem retired_of_exec {steps : List GatewayStep} (h : (g.streams id).Retired)
    (hexec : (machine topicMatchesSub settings jwtDecode).exec g steps = some g') :
    (g'.streams id).Retired := by
  refine Machine.exec_invariant (P := fun g => (g.streams id).Retired) ?_ h hexec
  intro g l g' hretired hstep
  refine stream_keeps (P := Stream.Retired) hstep (fun _ hstream => hretired.step hstream) ?_
    hretired
  intro message s hs
  rw [Stream.Retired, (wsCallback_handler g.now message s).1]
  exact hs

/-- While its callback is registered, a connection is given what is delivered and wanted. -/
theorem dispatched_of_step {steps : List GatewayStep}
    (hrun : (machine topicMatchesSub settings jwtDecode).Run steps g) {l : GatewayStep}
    (hstep : g.step topicMatchesSub settings jwtDecode l = some g')
    (hregistered : Stream.registered (g.streams id).handler = true) :
    (g'.streams id).requested = (g.streams id).requested ∧
      (g'.streams id).dispatched.map MQTTMessage.content =
        (g.streams id).dispatched.map MQTTMessage.content ++
          (g.streams id).wantedOf topicMatchesSub settings l.delivered := by
  have hquiet : l.delivered = [] → (g'.streams id).requested = (g.streams id).requested ∧
      (g'.streams id).dispatched.map MQTTMessage.content =
        (g.streams id).dispatched.map MQTTMessage.content ++
          (g.streams id).wantedOf topicMatchesSub settings l.delivered := by
    intro hnone
    rw [hnone, Stream.wantedOf_nil, List.append_nil]
    rcases stream_of_step hstep id with ⟨_, _, hstream⟩ | ⟨_, hsame | ⟨message, rfl, _⟩⟩
    · rw [Stream.dispatched_step hstream]
      exact ⟨Stream.requested_step hstream hregistered, rfl⟩
    · rw [hsame]
      exact ⟨rfl, rfl⟩
    · cases hnone
  cases l with
  | deliver message =>
      cases hstep
      have hstream : ((g.deliver topicMatchesSub settings message).streams id) =
          (g.streams id).wsCallback topicMatchesSub settings g.now message := by
        rw [deliver, (foldl_callback topicMatchesSub settings message _ g).2.2.2 id,
          count_wsCallback_of_run hrun, if_pos hregistered, Function.iterate_one]
      rw [hstream]
      exact ⟨(Stream.iterate_wsCallback_kept topicMatchesSub settings g.now message 1 _).requested,
        Stream.dispatched_wsCallback g.now message⟩
  | tick _ | connection _ | restSubscribe _ _ _ | restUnsubscribe _ _ | query _ _ | stream _ _ =>
      exact hquiet rfl

/-- Between two moments of a run at which its callback is registered, a connection asks for the
same filters and is given what is delivered and wanted, each packet once and in order. -/
theorem dispatched_of_exec {before steps : List GatewayStep}
    (hrun : (machine topicMatchesSub settings jwtDecode).Run before g)
    (hexec : (machine topicMatchesSub settings jwtDecode).exec g steps = some g')
    (hregistered : Stream.registered (g.streams id).handler = true)
    (hstill : Stream.registered (g'.streams id).handler = true) :
    (g'.streams id).requested = (g.streams id).requested ∧
      (g'.streams id).dispatched.map MQTTMessage.content =
        (g.streams id).dispatched.map MQTTMessage.content ++
          (g.streams id).wantedOf topicMatchesSub settings
            (steps.flatMap GatewayStep.delivered) := by
  induction steps generalizing before g with
  | nil =>
      cases hexec
      exact ⟨rfl, (List.append_nil _).symm⟩
  | cons l steps ih =>
      rcases Option.bind_eq_some_iff.mp hexec with ⟨t, hstep, hrest⟩
      change g.step topicMatchesSub settings jwtDecode l = some t at hstep
      have hmeanwhile : Stream.registered (t.streams id).handler = true := by
        by_contra hleft
        rw [Bool.not_eq_true] at hleft
        have hretired : (t.streams id).Retired := by
          rcases stream_of_step hstep id with
            ⟨_, _, hstream⟩ | ⟨_, hsame | ⟨message, _, hpacket⟩⟩
          · exact Stream.retired_of_step hstream hregistered hleft
          · rw [hsame, hregistered] at hleft
            cases hleft
          · rw [hpacket, (iterate_wsCallback topicMatchesSub settings g.now message _ _).1,
              hregistered] at hleft
            cases hleft
        rw [(retired_of_exec hretired hrest).2] at hstill
        cases hstill
      rcases dispatched_of_step hrun hstep hregistered with ⟨hrequested, hdispatched⟩
      rcases ih (hrun.snoc hstep) hrest hmeanwhile with ⟨hrequested', hdispatched'⟩
      refine ⟨hrequested'.trans hrequested, ?_⟩
      rw [hdispatched', hdispatched, Stream.wantedOf_of_requested hrequested, List.append_assoc,
        ← Stream.wantedOf_append, List.flatMap_cons]

/-- Nothing is dispatched to a connection before its callback is registered. -/
theorem undispatched_of_run {steps : List GatewayStep}
    (hrun : (machine topicMatchesSub settings jwtDecode).Run steps g) (id : Nat) :
    (g.streams id).Unserved := by
  refine Machine.Run.invariant (P := fun _ g => (g.streams id).Unserved) (fun _ _ => rfl) ?_ hrun
  intro steps g l g' hbefore h hstep
  rcases stream_of_step hstep id with ⟨_, _, hstream⟩ | ⟨_, hsame | ⟨message, _, hpacket⟩⟩
  · exact h.step hstream
  · rw [hsame]
    exact h
  · rw [hpacket, count_wsCallback_of_run hbefore]
    split
    · next hregistered =>
        intro _ hnot
        rw [(iterate_wsCallback topicMatchesSub settings g.now message _ _).1, hregistered] at hnot
        cases hnot
    · exact h

/-- After every run a connection has lost nothing until a packet has been dropped. -/
theorem whole_of_run {steps : List GatewayStep}
    (hrun : (machine topicMatchesSub settings jwtDecode).Run steps g) (id : Nat) :
    (g.streams id).Whole :=
  Machine.Reachable.invariant (P := fun g => (g.streams id).Whole) Stream.whole_initial
    (fun _ _ _ h hstep => stream_keeps (P := Stream.Whole) hstep
      (fun _ hstream => h.step hstream) (fun message _ h => h.wsCallback message) h)
    ⟨steps, hrun⟩

/-- The step in which a connection registers its callback. -/
theorem register_step (hstep : g.step topicMatchesSub settings jwtDecode (.stream id .register) =
      some g') :
    (g.streams id).handler = .registering ∧
      g'.streams id = { g.streams id with handler := .acquiring (g.streams id).requested } := by
  rcases stream_of_step hstep id with ⟨l, hl, hstream⟩ | ⟨hother, _⟩
  · cases hl
    rcases Stream.step_cases hstream with ⟨_, hl, _⟩ | ⟨_, hl, _⟩ | ⟨_, hhandler, _, hs⟩ |
      ⟨_, _, _, hl, _⟩ | ⟨_, hl, _⟩ | ⟨_, _, _, _, hl, _⟩
    · cases hl
    · cases hl
    · exact ⟨hhandler, hs⟩
    · cases hl
    · cases hl
    · cases hl
  · exact absurd rfl hother

end Gateway

namespace Process

variable {topicMatchesSub : PyStr → PyStr → Bool} {settings : Settings}
  {jwtDecode : ℚ → PyStr → Except PyException Claims} {id : Nat} {p p' : Process}

/-! ## What has arrived in the meantime -/

/-- What is delivered between two moments of a run is what was awaited and what has arrived. -/
theorem deliveries_of_exec {before during : List ProcessStep}
    (hrun : (machine topicMatchesSub settings jwtDecode).GuardedRun (HasRoom settings) before p)
    (hexec : (machine topicMatchesSub settings jwtDecode).guardedExec (HasRoom settings) p during =
      some p') :
    during.flatMap deliveries ++ p'.handOff.awaited =
      p.handOff.awaited ++ arrivals settings during := by
  have hbefore := complete_of_guardedRun hrun
  have hall := complete_of_guardedRun (hrun.append hexec)
  have harrivals : arrivals settings (before ++ during) =
      arrivals settings before ++ arrivals settings during := by
    rw [arrivals, List.flatMap_append, List.filter_append]
    rfl
  rw [harrivals, ← hbefore, List.flatMap_append, List.append_assoc, List.append_assoc] at hall
  exact List.append_cancel_left hall

/-- In every run of the process in which the buffer of the hand-over has room for every packet,
as long as the callback of a connection is registered: once every packet taken over has been
delivered, the connection has been given exactly the packets that match a filter it asks for,
of those that were pending when the callback was registered and those that have arrived
since, in that order; and until one of them has been dropped, they are the ones handed over,
held by the sender and queued. -/
theorem websocket_misses_nothing {before during : List ProcessStep}
    (hrun : (machine topicMatchesSub settings jwtDecode).GuardedRun (HasRoom settings) before p)
    {call : List SessionStep} {registration : List (HandOffStep Callback)}
    (hexec : (machine topicMatchesSub settings jwtDecode).guardedExec (HasRoom settings) p
      (.consumer (.stream id .register) call registration :: during) = some p')
    (hregistered : Stream.registered (p'.gateway.streams id).handler = true)
    (hdrained : p'.Drained) :
    (p'.gateway.streams id).dispatched.map MQTTMessage.content =
        (p'.gateway.streams id).wantedOf topicMatchesSub settings
          (p.handOff.pendingMessages ++ arrivals settings during) ∧
      ((p'.gateway.streams id).overflow = false → (p'.gateway.streams id).Running →
        (p'.gateway.streams id).pipeline = (p'.gateway.streams id).dispatched) := by
  have hdelivered := deliveries_of_exec hrun hexec
  rcases Option.bind_eq_some_iff.mp (Machine.exec_of_guardedExec hexec) with
    ⟨q, hregister, hrest⟩
  rcases consumer_cases hregister with ⟨hfree, _, hgateway, _, _, _, hfree', _, _⟩
  rcases Gateway.register_step hgateway with ⟨hhandler, hstream⟩
  -- Nothing has been dispatched when the callback is registered.
  have hnothing : (q.gateway.streams id).dispatched = [] := by
    rcases gateway_of_run hrun.toRun with ⟨_, hbefore, _⟩
    have hunserved := Gateway.undispatched_of_run hbefore id
    rw [ahead_of_isIdle hfree.2] at hunserved
    rw [hstream]
    exact hunserved (by rw [hhandler]; rfl) (by rw [hhandler]; rfl)
  have hrunNow := hrun.toRun.snoc hregister
  rcases gateway_of_run hrunNow with ⟨_, hnow, _⟩
  rcases gateway_of_exec ⟨_, hrunNow⟩ hrest with ⟨steps', hmeanwhile, hsteps⟩
  rw [ahead_of_isIdle hfree'.2] at hnow hmeanwhile
  rw [ahead_of_isIdle hdrained.1] at hmeanwhile
  rcases Gateway.dispatched_of_exec hnow hmeanwhile (by rw [hstream]; rfl) hregistered with
    ⟨hrequested, hdispatched⟩
  refine ⟨?_, ?_⟩
  · rw [awaited_of_isIdle hdrained.1, hdrained.2, List.append_nil,
      awaited_of_isIdle hfree.2] at hdelivered
    change during.flatMap deliveries = p.handOff.pendingMessages ++ arrivals settings during
      at hdelivered
    rw [hdispatched, hnothing, hsteps, hdelivered, Stream.wantedOf_of_requested hrequested]
    rfl
  · intro hoverflow hrunning
    exact (Gateway.whole_of_run (hnow.append hmeanwhile) id).pipeline hrunning hoverflow

/-- A client is admitted, and a packet arrives before its handler goes on. -/
def admitted : List ProcessStep :=
  let handler (l : HandlerStep) : ProcessStep := .consumer (.stream 0 (.handler l)) [] []
  let header := PyStr.lit ['B', 'e', 'a', 'r', 'e', 'r', ' ', 'x']
  connecting ++
    [handler (.connect (some header) (PyStr.lit ['a'])), handler .resume, .onMessage (packet 48)]

/-- The handler subscribes, two more packets arrive, one of them on another topic, and the sender
takes the first packet. -/
def served : List ProcessStep :=
  let handler (l : HandlerStep) : ProcessStep := .consumer (.stream 0 (.handler l)) [] []
  let child (l : ChildStep) : ProcessStep := .consumer (.stream 0 (.child l)) [] []
  let other : ReceivedMessage := ⟨PyStr.lit ['b'], [49], 0, false⟩
  let callbacks : List Callback := [.handleMessage, .wsCallback 0]
  [.consumer (.stream 0 (.acquire Gateway.connectedPaho))
      [.callSubscribe (PyStr.lit ['a']) 0, .proceed, .proceed] [],
    handler .sendReady, handler .resume, child .senderChecks, .onMessage other,
    .onMessage (packet 50), .drain (.takeBatch [packet 48, other, packet 50])] ++
    delivering (packet 48) callbacks ++ delivering other callbacks ++
    delivering (packet 50) callbacks ++
    [.drain .endDrain, child .senderGets, child .senderHandsOver]

/-- The handler registers its callback. -/
def registersCallback : ProcessStep :=
  .consumer (.stream 0 .register) [] [.addPacketCallback (.wsCallback 0)]

/-- Two of three packets are wanted, and the first of them has been handed over. -/
theorem websocket_misses_nothing_served :
    ∃ p, sample.Run (admitted ++ registersCallback :: served) p ∧
      (p.gateway.streams 0).pipeline.map MQTTMessage.content =
        [(packet 48).content, (packet 50).content] ∧
      (p.gateway.streams 0).dataSent.map MQTTMessage.content = [(packet 48).content] := by
  have hexec : (sample.guardedExec (HasRoom Settings.default) initial admitted).isSome := by
    decide +kernel
  rcases Option.isSome_iff_exists.mp hexec with ⟨p, hp⟩
  have hexec' : ((sample.guardedExec (HasRoom Settings.default) initial admitted).bind fun p =>
      sample.guardedExec (HasRoom Settings.default) p (registersCallback :: served)).isSome := by
    decide +kernel
  rw [hp, Option.bind_some] at hexec'
  rcases Option.isSome_iff_exists.mp hexec' with ⟨p', hp'⟩
  have hrun := Machine.guardedRun_of_guardedExec hp
  have hrun' := (hrun.append hp').toRun
  have hpending : (sample.guardedExec (HasRoom Settings.default) initial admitted).map
      (fun p => p.handOff.pendingMessages) = some [packet 48] := by
    decide +kernel
  rw [hp, Option.map_some, Option.some.injEq] at hpending
  have hstate : (sample.exec sample.init (admitted ++ registersCallback :: served)).map (fun p =>
      (Stream.registered (p.gateway.streams 0).handler, p.handOff.activity.isIdle,
        p.handOff.pendingMessages, (p.gateway.streams 0).overflow,
        decide (p.gateway.streams 0).Running)) = some (true, true, [], false, true) := by
    decide +kernel
  have hrequested : (sample.exec sample.init (admitted ++ registersCallback :: served)).map
      (fun p => (p.gateway.streams 0).requested) = some [PyStr.lit ['a']] := by
    decide +kernel
  have hsent : (sample.exec sample.init (admitted ++ registersCallback :: served)).map
      (fun p => (p.gateway.streams 0).dataSent.map MQTTMessage.content) =
        some [(packet 48).content] := by
    decide +kernel
  rw [Machine.run_iff_exec.mp hrun', Option.map_some, Option.some.injEq]
    at hstate hrequested hsent
  simp only [Prod.mk.injEq, decide_eq_true_eq] at hstate
  rcases hstate with ⟨hregistered, hidle, hnone, hoverflow, hrunning⟩
  rcases websocket_misses_nothing hrun hp' hregistered ⟨hidle, hnone⟩ with
    ⟨hdispatched, hpipeline⟩
  refine ⟨p', hrun', ?_, hsent⟩
  rw [hpipeline hoverflow hrunning, hdispatched, hpending, Stream.wantedOf]
  simp only [Stream.Wanted, hrequested]
  decide +kernel

end Process

end MqttGateway
