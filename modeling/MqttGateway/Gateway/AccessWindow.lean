import MqttGateway.Api.StreamAccess
import MqttGateway.Gateway.Ownership
import MqttGateway.Gateway.StreamOutcome

/-!
# When a websocket client has access

Whoever has anything in the gateway has been admitted in an earlier step of the run, and
the data frames of a connection end at the {lit}`exp` of its token in every run in which
{lit}`exp` does not come while a message is at hand.

Main results:

- Theorem {lit}`admitted_of_run`: in every run, whoever has anything in the gateway has been
  admitted.
- Theorem {lit}`access_window`: the data frames of a connection are handed over before
  {lit}`exp`, as long as {lit}`exp` does not come while the sender has a message at hand.
- Theorem {lit}`late_frame_of_expiry`: when it does come then, the message can be sent late.
-/

namespace MqttGateway

open Toolkit

namespace Gateway

variable {topicMatchesSub : PyStr → PyStr → Bool} {settings : Settings}
  {jwtDecode : ℚ → PyStr → Except PyException Claims} {id : Nat} {g g' : Gateway}
  {steps : List GatewayStep}

/-! ## Admitted connections -/

/-- A step of the run has admitted the client of a connection. -/
def AdmittedIn (topicMatchesSub : PyStr → PyStr → Bool) (settings : Settings)
    (jwtDecode : ℚ → PyStr → Except PyException Claims) (steps : List GatewayStep) (id : Nat)
    (s : Stream) : Prop :=
  s.requested = Stream.requestedTopics s.topics ∧
    ∃ before l after g claims, steps = before ++ .stream id (.handler l) :: after ∧
      (machine topicMatchesSub settings jwtDecode).Run before g ∧ s.claims = some claims ∧
      Stream.Admits topicMatchesSub settings (jwtDecode g.now) l claims s.requested

/-- A connection that has been admitted stays so. -/
theorem AdmittedIn.snoc {s s' : Stream}
    (h : AdmittedIn topicMatchesSub settings jwtDecode steps id s)
    (hclaims : s'.claims = s.claims) (hrequested : s'.requested = s.requested)
    (htopics : s'.topics = s.topics) (l : GatewayStep) :
    AdmittedIn topicMatchesSub settings jwtDecode (steps ++ [l]) id s' := by
  rcases h with ⟨hquery, before, admission, after, g, claims, rfl, hrun, hdecided, hadmits⟩
  refine ⟨by rw [hrequested, htopics, hquery], before, admission, after ++ [l], g, claims, ?_, hrun,
    hclaims.trans hdecided, ?_⟩
  · rw [List.append_assoc, List.cons_append]
  · rw [hrequested]
    exact hadmits

/-- What a connection without claims has. -/
structure Unclaimed (hub : Hub) (id : Nat) (s : Stream) : Prop where
  outside : Stream.outside s.handler = true
  sender : s.sender = .notStarted
  sent : s.sent = []
  footprint : hub.Footprint (.websocket id) false []

/-- A connection has claims only once it has been admitted, and nothing without them. -/
structure Gated (topicMatchesSub : PyStr → PyStr → Bool) (settings : Settings)
    (jwtDecode : ℚ → PyStr → Except PyException Claims) (steps : List GatewayStep) (hub : Hub)
    (id : Nat) (s : Stream) : Prop where
  unclaimed : s.claims = none → Unclaimed hub id s
  undecided : Stream.undecided s.handler = true → s.claims = none
  admitted : s.claims ≠ none → AdmittedIn topicMatchesSub settings jwtDecode steps id s

/-- At the start nobody has been admitted, and nobody has anything. -/
theorem gated_initial : Gated topicMatchesSub settings jwtDecode [] initial.hub id
    (initial.streams id) where
  unclaimed _ := by
    refine ⟨rfl, rfl, rfl, ?_, ?_⟩
    · intro callback hcallback
      cases hcallback
      rfl
    · intro topic hheld
      exact absurd rfl hheld
  undecided _ := rfl
  admitted h := absurd rfl h

/-- What a step of another participant is for a connection. -/
theorem kept_of_step {l : GatewayStep}
    (hstep : g.step topicMatchesSub settings jwtDecode l = some g')
    (hother : l.consumer ≠ some (.websocket id)) :
    (g'.streams id).handler = (g.streams id).handler ∧
      Stream.Kept (g.streams id) (g'.streams id) := by
  rcases stream_of_step hstep id with ⟨_, rfl, _⟩ | ⟨_, hsame | ⟨message, _, hpacket⟩⟩
  · exact absurd rfl hother
  · rw [hsame]
    exact ⟨rfl, rfl, rfl, rfl, rfl, rfl⟩
  · rw [hpacket]
    exact ⟨(iterate_wsCallback topicMatchesSub settings g.now message _ _).1,
      Stream.iterate_wsCallback_kept topicMatchesSub settings g.now message _ _⟩

/-- A step of another participant admits nobody and gives nothing. -/
theorem Gated.other
    (h : Gated topicMatchesSub settings jwtDecode steps g.hub id (g.streams id)) {l : GatewayStep}
    (hstep : g.step topicMatchesSub settings jwtDecode l = some g')
    (hother : l.consumer ≠ some (.websocket id)) :
    Gated topicMatchesSub settings jwtDecode (steps ++ [l]) g'.hub id (g'.streams id) := by
  rcases kept_of_step hstep hother with ⟨hhandler, hkept⟩
  refine ⟨?_, ?_, ?_⟩
  · intro hnone
    rw [hkept.claims] at hnone
    have hold := h.unclaimed hnone
    exact ⟨by rw [hhandler, hold.outside], hkept.sender.trans hold.sender,
      hkept.sent.trans hold.sent, hold.footprint.of_unchanged (unchanged_of_step hstep hother)⟩
  · rw [hhandler, hkept.claims]
    exact h.undecided
  · intro hsome
    rw [hkept.claims] at hsome
    exact (h.admitted hsome).snoc hkept.claims hkept.requested hkept.topics l

/-- A step of the connection on its own state admits the client or gives nothing. -/
theorem Gated.handlerStep {s s' : Stream} {hub : Hub}
    (h : Gated topicMatchesSub settings jwtDecode steps hub id s)
    (hrun : (machine topicMatchesSub settings jwtDecode).Run steps g) {l : HandlerStep}
    (hstep : s.handlerStep topicMatchesSub settings (jwtDecode g.now) g.now l = some s') :
    Gated topicMatchesSub settings jwtDecode (steps ++ [.stream id (.handler l)]) hub id s' := by
  rcases Stream.handlerStep_admits hstep with
    hnobody | ⟨_, hdecided, _, _, hquery, claims, hclaims, hadmits⟩
  · refine ⟨?_, ?_, ?_⟩
    · intro hnone
      rw [hnobody.claims] at hnone
      have hold := h.unclaimed hnone
      rcases hnobody.stays hold.outside with ⟨houtside, hsent, hsender⟩
      exact ⟨houtside, hsender.trans hold.sender, hsent.trans hold.sent, hold.footprint⟩
    · intro hundecided
      rw [hnobody.claims]
      exact h.undecided (hnobody.decided hundecided)
    · intro hsome
      rw [hnobody.claims] at hsome
      rcases hnobody.topics with htopics | hidle
      · exact (h.admitted hsome).snoc hnobody.claims hnobody.requested htopics _
      · -- Before the request there are no claims.
        exact absurd (h.undecided (by rw [hidle]; rfl)) hsome
  · refine ⟨?_, ?_, ?_⟩
    · intro hnone
      rw [hclaims] at hnone
      cases hnone
    · intro hundecided
      rw [hdecided] at hundecided
      cases hundecided
    · intro _
      exact ⟨hquery, steps, l, [], g, claims, rfl, hrun, hclaims, hadmits⟩

/-- A child task runs only once the client has been admitted. -/
theorem Gated.childStep {s s' : Stream} {hub : Hub}
    (h : Gated topicMatchesSub settings jwtDecode steps hub id s) {now : ℚ} {l : ChildStep}
    (hstep : s.childStep now l = some s') (step : GatewayStep) :
    Gated topicMatchesSub settings jwtDecode (steps ++ [step]) hub id s' := by
  have hframe := Stream.childStep_frame hstep
  have hmoves := Stream.childStep_moves hstep
  refine ⟨?_, ?_, ?_⟩
  · intro hnone
    rw [hmoves.claims] at hnone
    have hold := h.unclaimed hnone
    rcases hmoves.sender with ⟨hsender, _, hsent⟩ | ⟨hstarted, _⟩
    · exact ⟨by rw [hframe.handler, hold.outside], hsender.trans hold.sender,
        hsent.trans hold.sent, hold.footprint⟩
    · exact absurd hold.sender hstarted
  · rw [hframe.handler, hmoves.claims]
    exact h.undecided
  · intro hsome
    rw [hmoves.claims] at hsome
    exact (h.admitted hsome).snoc hmoves.claims hframe.requested hmoves.topics step

/-- Whoever is inside has claims. -/
theorem Gated.inside {s : Stream} {hub : Hub}
    (h : Gated topicMatchesSub settings jwtDecode steps hub id s)
    (hinside : Stream.outside s.handler = false) : s.claims ≠ none := by
  intro hnone
  have houtside := (h.unclaimed hnone).outside
  rw [hinside] at houtside
  cases houtside

/-- A step on the hub is one of an admitted connection. -/
theorem Gated.onHub {s s' : Stream} {hub hub' : Hub}
    (h : Gated topicMatchesSub settings jwtDecode steps hub id s) (hmoves : Stream.OnHub s s')
    (step : GatewayStep) :
    Gated topicMatchesSub settings jwtDecode (steps ++ [step]) hub' id s' := by
  have hkept := hmoves.kept
  have hsome := h.inside hmoves.inside
  refine ⟨?_, ?_, ?_⟩
  · intro hnone
    rw [hkept.claims] at hnone
    exact absurd hnone hsome
  · intro hundecided
    rw [hmoves.decided] at hundecided
    cases hundecided
  · intro _
    exact (h.admitted hsome).snoc hkept.claims hkept.requested hkept.topics step

/-- After every run each connection is behind the gate or has been admitted. -/
theorem gated_of_run (hrun : (machine topicMatchesSub settings jwtDecode).Run steps g) (id : Nat) :
    Gated topicMatchesSub settings jwtDecode steps g.hub id (g.streams id) := by
  refine Machine.Run.invariant
    (P := fun steps g => Gated topicMatchesSub settings jwtDecode steps g.hub id (g.streams id))
    gated_initial ?_ hrun
  intro steps g l g' hrun h hstep
  rcases stream_of_step hstep id with ⟨l', rfl, hstream⟩ | ⟨hother, _⟩
  · rcases Stream.step_onHub hstream with
      ⟨l'', rfl, hhandler, hhub⟩ | ⟨l'', rfl, hchild, hhub⟩ | hmoves
    · rw [hhub]
      exact h.handlerStep hrun hhandler
    · rw [hhub]
      exact h.childStep hchild _
    · exact h.onHub hmoves _
  · exact h.other hstep hother

/-- Whoever has a callback, a topic or a frame has been admitted. -/
theorem admitted_of_run (hrun : (machine topicMatchesSub settings jwtDecode).Run steps g)
    (hhas : .wsCallback id ∈ g.hub.packetCallbacks ∨
      (∃ topic, g.hub.service.held topic (.websocket id) ≠ none) ∨ (g.streams id).sent ≠ []) :
    AdmittedIn topicMatchesSub settings jwtDecode steps id (g.streams id) := by
  have hgated := gated_of_run hrun id
  refine hgated.admitted ?_
  intro hnone
  have hold := hgated.unclaimed hnone
  rcases hhas with hregistered | ⟨topic, hheld⟩ | hsent
  · exact absurd hregistered (List.count_eq_zero.mp (hold.footprint.callbacks _ rfl))
  · exact absurd (hold.footprint.held topic hheld) List.not_mem_nil
  · exact hsent hold.sent

/-- Whoever takes a step on the hub has been admitted. -/
theorem admitted_of_step (hrun : (machine topicMatchesSub settings jwtDecode).Run steps g)
    {l : StreamStep} (honHub : l = .register ∨ ∃ paho, l = .acquire paho)
    (hstep : g.step topicMatchesSub settings jwtDecode (.stream id l) = some g') :
    AdmittedIn topicMatchesSub settings jwtDecode steps id (g.streams id) := by
  rcases Option.map_eq_some_iff.mp hstep with ⟨⟨hub, s⟩, hstream, _⟩
  have hgated := gated_of_run hrun id
  rcases Stream.step_onHub hstream with ⟨_, rfl, _⟩ | ⟨_, rfl, _⟩ | hmoves
  · rcases honHub with heq | ⟨_, heq⟩ <;> cases heq
  · rcases honHub with heq | ⟨_, heq⟩ <;> cases heq
  · exact hgated.admitted (hgated.inside hmoves.inside)

/-! ## The access window -/

/-- In a step, the token of a connection expires while its sender has a message at hand, or a
packet is queued for a sender that waits for one although the token has expired. -/
def ExpiresAtHand (topicMatchesSub : PyStr → PyStr → Bool) (settings : Settings) (id : Nat)
    (g : Gateway) : GatewayStep → Prop
  | .tick now => (g.streams id).AtHand ∧ (g.streams id).Expired now
  | .deliver message =>
      (g.streams id).sender = .getting ∧ (g.streams id).Expired g.now ∧
        .wsCallback id ∈ g.hub.packetCallbacks ∧
        (g.streams id).Wanted topicMatchesSub settings message
  | .connection _ | .restSubscribe _ _ _ | .restUnsubscribe _ _ | .query _ _ | .stream _ _ => False

instance (id : Nat) (g : Gateway) (l : GatewayStep) :
    Decidable (ExpiresAtHand topicMatchesSub settings id g l) :=
  match l with
  | .tick _ => inferInstanceAs (Decidable (_ ∧ _))
  | .deliver _ => inferInstanceAs (Decidable (_ ∧ _ ∧ _ ∧ _))
  | .connection _ | .restSubscribe _ _ _ | .restUnsubscribe _ _ | .query _ _ | .stream _ _ =>
      inferInstanceAs (Decidable False)

/-- Only the clock moves the clock. -/
theorem now_of_step {l : GatewayStep}
    (hstep : g.step topicMatchesSub settings jwtDecode l = some g') :
    g'.now = g.now ∨ l = .tick g'.now ∧ g'.streams = g.streams := by
  cases l with
  | tick now =>
      simp only [step, Option.ite_none_right_eq_some] at hstep
      cases hstep.2
      exact Or.inr ⟨rfl, rfl⟩
  | connection connected =>
      cases hstep
      exact Or.inl rfl
  | restSubscribe topic qos paho =>
      cases hstep
      exact Or.inl rfl
  | restUnsubscribe topic paho =>
      cases hstep
      exact Or.inl rfl
  | query k l =>
      rcases Option.map_eq_some_iff.mp hstep with ⟨⟨hub, q⟩, _, heq⟩
      cases heq
      exact Or.inl rfl
  | stream c l =>
      rcases Option.map_eq_some_iff.mp hstep with ⟨⟨hub, s⟩, _, heq⟩
      cases heq
      exact Or.inl rfl
  | deliver message =>
      cases hstep
      exact Or.inl (foldl_callback topicMatchesSub settings message g.hub.packetCallbacks g).1

/-- The clock does not go back. -/
theorem now_le_of_step {l : GatewayStep}
    (hstep : g.step topicMatchesSub settings jwtDecode l = some g') : g.now ≤ g'.now := by
  rcases now_of_step hstep with hsame | ⟨htick, _⟩
  · rw [hsame]
  · rw [htick] at hstep
    simp only [step, Option.ite_none_right_eq_some] at hstep
    exact hstep.1

/-- A step in which no token expires while a message is at hand keeps a connection in time. -/
theorem inTime_step
    (hgated : Gated topicMatchesSub settings jwtDecode steps g.hub id (g.streams id))
    (h : Stream.InTime g.now (g.streams id)) {l : GatewayStep}
    (hguard : ¬ExpiresAtHand topicMatchesSub settings id g l)
    (hstep : g.step topicMatchesSub settings jwtDecode l = some g') :
    Stream.InTime g'.now (g'.streams id) := by
  rcases now_of_step hstep with hnow | ⟨htick, hstreams⟩
  · rw [hnow]
    rcases stream_of_step hstep id with ⟨l', rfl, hstream⟩ | ⟨_, hsame | ⟨message, rfl, hpacket⟩⟩
    · rcases Stream.step_onHub hstream with ⟨_, _, hhandler, _⟩ | ⟨_, _, hchild, _⟩ | hmoves
      · refine h.handlerStep ?_ hhandler
        intro hundecided
        have hold := hgated.unclaimed (hgated.undecided hundecided)
        exact ⟨hold.sender, hold.sent⟩
      · exact h.childStep hchild
      · refine h.of_same hmoves.kept.claims hmoves.kept.sender hmoves.messageQueue ?_
        rw [hmoves.kept.sent]
        exact fun _ _ hmem => hmem
    · rw [hsame]
      exact h
    · have hkept := Stream.iterate_wsCallback_kept topicMatchesSub settings g.now message
        (g.hub.packetCallbacks.count (.wsCallback id)) (g.streams id)
      rw [hpacket]
      refine h.of_kept hkept ?_
      rintro ⟨hhand, hexpired⟩
      rw [Stream.expired_of_claims hkept.claims] at hexpired
      rcases Stream.atHand_of_iterate hhand with hbefore | ⟨hgetting, hcount, hwanted⟩
      · exact h.not_expired hbefore hexpired
      · exact hguard ⟨hgetting, hexpired, List.count_pos_iff.mp (Nat.pos_of_ne_zero hcount),
          hwanted⟩
  · rw [htick] at hguard
    rw [hstreams]
    exact h.of_kept ⟨rfl, rfl, rfl, rfl, rfl⟩ hguard

/-- In every run in which the token of a connection does not expire while its sender has a message
at hand: whoever has a callback, a topic or a frame, or is about to register or to
acquire, has been admitted before; and every data frame is handed over before
{lit}`exp`. -/
theorem access_window
    (hrun : (machine topicMatchesSub settings jwtDecode).GuardedRun
      (fun g l => ¬ExpiresAtHand topicMatchesSub settings id g l) steps g) :
    (.wsCallback id ∈ g.hub.packetCallbacks ∨
        (∃ topic, g.hub.service.held topic (.websocket id) ≠ none) ∨ (g.streams id).sent ≠ [] →
      AdmittedIn topicMatchesSub settings jwtDecode steps id (g.streams id)) ∧
    (∀ l g', (l = .register ∨ ∃ paho, l = .acquire paho) →
      g.step topicMatchesSub settings jwtDecode (.stream id l) = some g' →
        AdmittedIn topicMatchesSub settings jwtDecode steps id (g.streams id)) ∧
    ∀ t message, (t, .data message) ∈ (g.streams id).sent →
      ∃ claims exp, (g.streams id).claims = some claims ∧ claims.exp = .ok exp ∧ t < exp := by
  have htime : Stream.InTime g.now (g.streams id) :=
    Machine.GuardedRun.invariant (P := fun _ g => Stream.InTime g.now (g.streams id))
      Stream.inTime_initial
      (fun _ _ _ _ hrun h hguard hstep => inTime_step (gated_of_run hrun id) h hguard hstep) hrun
  refine ⟨admitted_of_run hrun.toRun, fun l g' => admitted_of_step hrun.toRun, ?_⟩
  intro t message hmem
  rcases htime.sent t message hmem with ⟨exp, hexp, hless⟩
  rcases Stream.exp_eq_ok_iff.mp hexp with ⟨claims, hclaims, hvalue⟩
  exact ⟨claims, exp, hclaims, hvalue, hless⟩

/-- A packet is sent in time, the next one comes when the token has expired and is not sent. -/
def closingConnection : List GatewayStep :=
  streamingConnection ++
    [.tick 99, packet 49, .stream 0 (.child .senderGets), .stream 0 (.child .senderHandsOver),
      .stream 0 (.child .senderSent), .tick 100, packet 50, .stream 0 (.child .senderChecks)]

/-- The only frame was handed over in time. -/
theorem access_window_closing :
    ∃ g, sample.Run closingConnection g ∧ (g.streams 0).closeMessage = some .tokenExpired ∧
      ∀ t message, (t, .data message) ∈ (g.streams 0).sent →
        ∃ claims exp, (g.streams 0).claims = some claims ∧ claims.exp = .ok exp ∧ t < exp := by
  let matching : PyStr → PyStr → Bool := fun filter topic => decide (MqttMatches filter topic)
  have hexec : (sample.guardedExec
      (fun g l => ¬ExpiresAtHand matching Settings.default 0 g l) initial
        closingConnection).isSome := by
    decide +kernel
  rcases Option.isSome_iff_exists.mp hexec with ⟨g, hg⟩
  have hstate : (sample.guardedExec
      (fun g l => ¬ExpiresAtHand matching Settings.default 0 g l) initial closingConnection).map
        (fun g => (g.streams 0).closeMessage) = some (some .tokenExpired) := by
    decide +kernel
  rw [hg, Option.map_some, Option.some.injEq] at hstate
  have hrun := Machine.guardedRun_of_guardedExec hg
  exact ⟨g, hrun.toRun, hstate, (access_window hrun).2.2⟩

/-- The token expires between the wake-up of the sender and the frame. -/
def expiringConnection : List GatewayStep :=
  streamingConnection ++
    [packet 49, .tick 100, .stream 0 (.child .senderGets), .stream 0 (.child .senderHandsOver)]

/-- The frame is handed over at {lit}`exp`. -/
theorem expiring_sends_late :
    ∃ g, sample.Run expiringConnection g ∧
      ¬∀ t message, (t, .data message) ∈ (g.streams 0).sent →
        ∃ claims exp, (g.streams 0).claims = some claims ∧ claims.exp = .ok exp ∧ t < exp := by
  let message : MQTTMessage := ⟨PyStr.lit ['a'], PyStr.lit ['1'], 0, false, 0⟩
  have hexec : (sample.exec initial expiringConnection).isSome := by decide +kernel
  rcases Option.isSome_iff_exists.mp hexec with ⟨g, hg⟩
  have hstate : (sample.exec initial expiringConnection).map (fun g =>
      (decide ((100, .data message) ∈ (g.streams 0).sent),
        decide ((g.streams 0).Expired 100))) = some (true, true) := by
    decide +kernel
  rw [hg, Option.map_some, Option.some.injEq, Prod.mk.injEq, decide_eq_true_iff,
    decide_eq_true_iff] at hstate
  refine ⟨g, Machine.run_iff_exec.mpr hg, ?_⟩
  intro hwindow
  rcases hwindow 100 message hstate.1 with ⟨claims, exp, hclaims, hexp, hless⟩
  have hexpired := hstate.2
  rw [Stream.expired_iff] at hexpired
  rcases hexpired with ⟨exp', hexp', hle⟩
  rw [Stream.exp_eq_ok_iff.mpr ⟨claims, hclaims, hexp⟩, Except.ok.injEq] at hexp'
  linarith

/-! ## After the window -/

/-- A sender that holds a message can hand it over. -/
theorem handsOver_of_holding (topicMatchesSub : PyStr → PyStr → Bool) (settings : Settings)
    (jwtDecode : ℚ → PyStr → Except PyException Claims) {message : MQTTMessage}
    (hholding : (g.streams id).sender = .holding (.data message)) :
    ∃ g', g.step topicMatchesSub settings jwtDecode (.stream id (.child .senderHandsOver)) =
        some g' ∧
      (g'.streams id).claims = (g.streams id).claims ∧
      (g.now, .data message) ∈ (g'.streams id).sent := by
  let s := g.streams id
  let sent : Stream :=
    { s with sent := s.sent ++ [(g.now, .data message)], sender := .sending }
  have hchild : s.childStep g.now .senderHandsOver = some sent := by
    simp [Stream.childStep, s, sent, hholding]
  refine ⟨{ g with streams := Function.update g.streams id sent }, ?_, ?_, ?_⟩
  · simp [step, Stream.step, s, hchild]
  · simp [sent, s]
  · simp [sent]

/-- Whenever a token expires while a message is at hand, a frame can be handed over late. -/
theorem late_frame_of_expiry (hrun : (machine topicMatchesSub settings jwtDecode).Run steps g)
    {l : GatewayStep} (hexpires : ExpiresAtHand topicMatchesSub settings id g l)
    (hstep : g.step topicMatchesSub settings jwtDecode l = some g') :
    ∃ rest g'' t message claims exp,
      (machine topicMatchesSub settings jwtDecode).Run (steps ++ l :: rest) g'' ∧
      (t, .data message) ∈ (g''.streams id).sent ∧ (g''.streams id).claims = some claims ∧
      claims.exp = .ok exp ∧ exp ≤ t := by
  have hlate : (g'.streams id).AtHand ∧ (g'.streams id).Expired g'.now := by
    cases l with
    | tick now =>
        simp only [step, Option.ite_none_right_eq_some] at hstep
        cases hstep.2
        exact hexpires
    | deliver message =>
        rcases hexpires with ⟨hgetting, hexpired, hregistered, hwanted⟩
        cases hstep
        rcases foldl_callback topicMatchesSub settings message g.hub.packetCallbacks g with
          ⟨hnow, _, _, hstreams⟩
        have hkept := Stream.iterate_wsCallback_kept topicMatchesSub settings g.now message
          (g.hub.packetCallbacks.count (.wsCallback id)) (g.streams id)
        have hcount := (List.count_pos_iff.mpr hregistered).ne'
        rw [deliver, hnow, hstreams, Stream.expired_of_claims hkept.claims]
        refine ⟨⟨?_, fun _ => Stream.messageQueue_of_wanted hwanted hcount⟩, hexpired⟩
        rw [hkept.sender, hgetting]
        rfl
    | _ => exact hexpires.elim
  rcases Stream.expired_iff.mp hlate.2 with ⟨exp, hexp, hle⟩
  rcases Stream.exp_eq_ok_iff.mp hexp with ⟨claims, hclaims, hvalue⟩
  have hexec : ∀ rest g'', (machine topicMatchesSub settings jwtDecode).exec g' rest = some g'' →
      (machine topicMatchesSub settings jwtDecode).Run (steps ++ l :: rest) g'' := by
    intro rest g'' hrest
    exact hrun.append (Option.bind_eq_some_iff.mpr ⟨g', hstep, hrest⟩)
  rcases Stream.holds_of_atHand hlate.1 g'.now with
    ⟨message, hholding⟩ | ⟨s, message, hgets, hholding, hsame⟩
  · rcases handsOver_of_holding topicMatchesSub settings jwtDecode hholding with
      ⟨g'', hstep', hclaims', hsent⟩
    refine ⟨[.stream id (.child .senderHandsOver)], g'', g'.now, message, claims, exp,
      hexec _ _ ?_, hsent, hclaims'.trans hclaims, hvalue, hle⟩
    simp [machine, hstep']
  · let taken : Gateway := { g' with streams := Function.update g'.streams id s }
    have htakes : g'.step topicMatchesSub settings jwtDecode (.stream id (.child .senderGets)) =
        some taken := by
      simp [step, Stream.step, hgets, taken]
    have hs : taken.streams id = s := by simp [taken]
    rw [← hs] at hholding
    rcases handsOver_of_holding topicMatchesSub settings jwtDecode hholding with
      ⟨g'', hstep', hclaims', hsent⟩
    rw [hs, hsame] at hclaims'
    refine ⟨[.stream id (.child .senderGets), .stream id (.child .senderHandsOver)], g'', g'.now,
      message, claims, exp, hexec _ _ ?_, hsent, hclaims'.trans hclaims, hvalue, hle⟩
    simp [machine, htakes, hstep']

end Gateway

end MqttGateway
