import MqttGateway.Gateway.Cleanup
import MqttGateway.Gateway.EndToEnd
import MqttGateway.Gateway.StreamOutcome

/-!
# When a client is shown a gap

A packet that is queued behind a dropped one can be sent: as long as the task group goes on and
the token is valid, the sender can hand over everything that is in its pipeline, the late
packet last.

Main results:

- Theorem {lit}`exists_handed_over`: a sender that nothing stops hands over its whole pipeline.
- Theorem {lit}`gap_of_overtaking`: a packet that overtakes a dropped one can be the last of data
  frames that are fewer than the packets dispatched.
-/

namespace MqttGateway

open Toolkit

namespace Stream

variable {now : ℚ} {s s' : Stream}

/-! ## The sender -/

/-- The steps in which the sender takes messages and hands them over. -/
def hands : ChildStep → Bool
  | .senderChecks | .senderGets | .senderHandsOver | .senderSent => true
  | .senderTimesOut | .senderRaises _ | .receiverDisconnected | .receiverRaises _
  | .watcherWakes | .cancelled _ => false

/-- Nothing stops the sender: it has started, its task group goes on and the token is valid. -/
structure Sends (now : ℚ) (s : Stream) : Prop where
  active : s.Active
  streaming : s.handler = .streaming
  childFailed : s.childFailed = false
  valid : ∃ exp, s.exp = .ok exp ∧ now < exp

/-- How many steps the sender takes until it waits for a message that has not come yet. -/
def handsRank (s : Stream) : Nat :=
  4 * s.messageQueue.length +
    match s.sender with
    | .holding _ => 3
    | .sending => 2
    | .checking => 1
    | .notStarted | .getting | .done _ => 0

/-- A sender that nothing stops takes a step until everything has been handed over. -/
theorem exists_hands (h : Sends now s) (hleft : s.dataSent ≠ s.pipeline) :
    ∃ l s', hands l = true ∧ s.childStep now l = some s' := by
  rcases h.valid with ⟨exp, hexp, hnow⟩
  cases hsender : s.sender with
  | notStarted => exact absurd hsender h.active.started
  | done result => exact absurd hsender (h.active.running result)
  | checking =>
      refine ⟨.senderChecks, { s with sender := .getting }, rfl, ?_⟩
      simp [Stream.childStep, hsender, hexp, hnow]
  | getting =>
      cases hqueue : s.messageQueue with
      | nil => exact absurd (by simp [pipeline, hsender, hqueue, inHand]) hleft
      | cons message queue =>
          refine ⟨.senderGets,
            { s with messageQueue := queue, sender := .holding (.data message) }, rfl, ?_⟩
          simp [Stream.childStep, hsender, hqueue]
  | holding frame =>
      refine ⟨.senderHandsOver,
        { s with sent := s.sent ++ [(now, frame)], sender := .sending }, rfl, ?_⟩
      simp [Stream.childStep, hsender]
  | sending =>
      refine ⟨.senderSent, { s with sender := .checking }, rfl, ?_⟩
      simp [Stream.childStep, hsender]

/-- What these steps do. -/
theorem hands_cases (h : Sends now s) {l : ChildStep} (hl : hands l = true)
    (hstep : s.childStep now l = some s') :
    (s.sender = .checking ∧ s' = { s with sender := .getting }) ∨
      (∃ message queue, s.sender = .getting ∧ s.messageQueue = message :: queue ∧
        s' = { s with messageQueue := queue, sender := .holding (.data message) }) ∨
      (∃ frame, s.sender = .holding frame ∧
        s' = { s with sent := s.sent ++ [(now, frame)], sender := .sending }) ∨
      (s.sender = .sending ∧ s' = { s with sender := .checking }) := by
  rcases h.valid with ⟨exp, hexp, hnow⟩
  cases l with
  | senderChecks =>
      simp only [Stream.childStep, hexp] at hstep
      split at hstep
      · next hsender heq =>
          cases heq
          rw [if_neg (by linarith)] at hstep
          cases hstep
          exact Or.inl ⟨hsender, rfl⟩
      · next heq => cases heq
      · cases hstep
  | senderGets =>
      simp only [Stream.childStep] at hstep
      split at hstep
      · next message queue hsender hget =>
          cases hstep
          have hqueue := Queue.eq_cons_of_getNowait_run hget
          exact Or.inr (Or.inl ⟨message, queue, hsender, hqueue, rfl⟩)
      · cases hstep
  | senderHandsOver =>
      simp only [Stream.childStep] at hstep
      split at hstep
      · next frame hsender =>
          cases hstep
          exact Or.inr (Or.inr (Or.inl ⟨frame, hsender, rfl⟩))
      · cases hstep
  | senderSent =>
      simp only [Stream.childStep] at hstep
      split at hstep
      · next hsender =>
          cases hstep
          exact Or.inr (Or.inr (Or.inr ⟨hsender, rfl⟩))
      · cases hstep
  | senderTimesOut | senderRaises _ | receiverDisconnected | receiverRaises _ | watcherWakes
  | cancelled _ => cases hl

/-- Nothing stops the sender after such a step, the pipeline keeps its messages, and fewer steps
are left. -/
theorem Sends.childStep (h : Sends now s) {l : ChildStep} (hl : hands l = true)
    (hstep : s.childStep now l = some s') :
    Sends now s' ∧ s'.pipeline = s.pipeline ∧ s'.handsRank < s.handsRank := by
  have hsends : Sends now s' ∧ s'.handsRank < s.handsRank := by
    rcases hands_cases h hl hstep with ⟨hsender, rfl⟩ | ⟨message, queue, hsender, hqueue, rfl⟩ |
      ⟨frame, hsender, rfl⟩ | ⟨hsender, rfl⟩
    · refine ⟨⟨active_of_sender rfl nofun nofun, h.streaming, h.childFailed, h.valid⟩, ?_⟩
      simp [handsRank, hsender]
    · refine ⟨⟨active_of_sender rfl nofun nofun, h.streaming, h.childFailed, h.valid⟩, ?_⟩
      simp only [handsRank, hsender, hqueue, List.length_cons]
      omega
    · refine ⟨⟨active_of_sender rfl nofun nofun, h.streaming, h.childFailed, h.valid⟩, ?_⟩
      simp [handsRank, hsender]
    · refine ⟨⟨active_of_sender rfl nofun nofun, h.streaming, h.childFailed, h.valid⟩, ?_⟩
      simp [handsRank, hsender]
  refine ⟨hsends.1, ?_, hsends.2⟩
  rcases pipeline_childStep hstep with ⟨_, result, hdone⟩ | ⟨_, hsame⟩
  · exact absurd hdone (hsends.1.active.running result)
  · exact hsame

end Stream

namespace Gateway

variable {topicMatchesSub : PyStr → PyStr → Bool} {settings : Settings}
  {jwtDecode : ℚ → PyStr → Except PyException Claims} {id : Nat} {g g' : Gateway}

/-! ## The connection -/

/-- The steps in which the sender of a connection takes messages and hands them over. -/
def Hands (id : Nat) (l : GatewayStep) : Prop :=
  ∃ l', Stream.hands l' = true ∧ l = .stream id (.child l')

/-- A sender that nothing stops can hand over its whole pipeline. -/
theorem exists_handed_over (topicMatchesSub : PyStr → PyStr → Bool) (settings : Settings)
    (jwtDecode : ℚ → PyStr → Except PyException Claims)
    (h : Stream.Sends g.now (g.streams id)) :
    ∃ rest g', (∀ l ∈ rest, Hands id l) ∧
      (machine topicMatchesSub settings jwtDecode).exec g rest = some g' ∧
      Stream.Sends g'.now (g'.streams id) ∧
      (g'.streams id).dispatched = (g.streams id).dispatched ∧
      (g'.streams id).dataSent = (g.streams id).pipeline := by
  let Sending (t : Gateway) : Prop := Stream.Sends t.now (t.streams id) ∧
    (t.streams id).dispatched = (g.streams id).dispatched ∧
    (t.streams id).pipeline = (g.streams id).pipeline
  have hprogress : ∀ t, Sending t → ¬(t.streams id).dataSent = (t.streams id).pipeline →
      ∃ l t', Hands id l ∧ (machine topicMatchesSub settings jwtDecode).step t l = some t' := by
    rintro t ⟨hsends, _, _⟩ hleft
    rcases Stream.exists_hands hsends hleft with ⟨l, s, hl, hstep⟩
    refine ⟨_, { t with streams := Function.update t.streams id s }, ⟨l, hl, rfl⟩, ?_⟩
    simp [machine, step, Stream.step, hstep]
  have hkeep : ∀ t l t', Sending t → Hands id l →
      (machine topicMatchesSub settings jwtDecode).step t l = some t' →
      Sending t' ∧ (t'.streams id).handsRank < (t.streams id).handsRank := by
    rintro t _ t' ⟨hsends, hdispatched, hpipeline⟩ ⟨l, hl, rfl⟩ hstep
    rcases Option.map_eq_some_iff.mp hstep with ⟨⟨hub, s⟩, hstream, rfl⟩
    rcases Option.map_eq_some_iff.mp hstream with ⟨s', hchild, heq⟩
    cases heq
    rcases hsends.childStep hl hchild with ⟨hsends', hsame, hless⟩
    simp only [Sending, Function.update_self]
    exact ⟨⟨hsends', (Stream.childStep_frame hchild).dispatched.trans hdispatched,
      hsame.trans hpipeline⟩, hless⟩
  rcases Machine.exists_exec_of_rank (fun t : Gateway => (t.streams id).handsRank) (Hands id)
    (G := fun t => (t.streams id).dataSent = (t.streams id).pipeline) hprogress hkeep
    ⟨h, rfl, rfl⟩ with ⟨rest, g', hrest, hexec, ⟨hsends, hdispatched, hpipeline⟩, hall⟩
  exact ⟨rest, g', hrest, hexec, hsends, hdispatched, hall.trans hpipeline⟩

theorem lossy_of_run {steps : List GatewayStep}
    (hrun : (machine topicMatchesSub settings jwtDecode).Run steps g) (id : Nat) :
    (g.streams id).Lossy :=
  Machine.Reachable.invariant (P := fun g => (g.streams id).Lossy) Stream.lossy_initial
    (fun _ _ _ h hstep => stream_keeps hstep (fun _ hstream => h.step hstream)
      (fun message _ h => h.wsCallback message) h) ⟨steps, hrun⟩

/-- A packet that overtakes a dropped one is queued, once. -/
theorem deliver_of_overtakes {steps : List GatewayStep} {message : ReceivedMessage}
    (hrun : (machine topicMatchesSub settings jwtDecode).Run steps g)
    (hovertakes : Overtakes topicMatchesSub settings id g (.deliver message))
    (hstreaming : (g.streams id).handler = .streaming) :
    (g.deliver topicMatchesSub settings message).now = g.now ∧
      (g.deliver topicMatchesSub settings message).streams id =
        { g.streams id with
          dispatched := (g.streams id).dispatched ++ [MQTTMessage.ofReceived g.now message]
          messageQueue :=
            (g.streams id).messageQueue ++ [MQTTMessage.ofReceived g.now message] } := by
  rcases hovertakes with ⟨_, _, hroom, _, hmatch, hfits⟩
  rcases foldl_callback topicMatchesSub settings message g.hub.packetCallbacks g with
    ⟨hnow, _, _, hstreams⟩
  refine ⟨hnow, (hstreams id).trans ?_⟩
  rw [count_wsCallback_of_run hrun, hstreaming]
  simp [Stream.registered, Stream.wsCallback, hmatch, Nat.not_lt.mpr hfits,
    Queue.putNowait_run_of_lt hroom]

/-- Whenever a packet overtakes a dropped one in the task group of a connection whose token is
valid, the sender can hand it over last, behind fewer packets than were dispatched before it.
If it is not like one of those, the client has been shown a gap. -/
theorem gap_of_overtaking {steps : List GatewayStep} {message : ReceivedMessage} {exp : ℚ}
    (hrun : (machine topicMatchesSub settings jwtDecode).Run steps g)
    (hovertakes : Overtakes topicMatchesSub settings id g (.deliver message))
    (hstreaming : (g.streams id).handler = .streaming)
    (hfailed : (g.streams id).childFailed = false)
    (hexp : (g.streams id).exp = .ok exp) (hnow : g.now < exp) :
    ∃ rest g' shown, (∀ l ∈ rest, Hands id l) ∧
      (machine topicMatchesSub settings jwtDecode).Run (steps ++ .deliver message :: rest) g' ∧
      Stream.Sends g'.now (g'.streams id) ∧
      (g'.streams id).dispatched =
        (g.streams id).dispatched ++ [MQTTMessage.ofReceived g.now message] ∧
      (g'.streams id).dataSent = shown ++ [MQTTMessage.ofReceived g.now message] ∧
      shown.length < (g.streams id).dispatched.length ∧
      (MQTTMessage.ofReceived g.now message ∉ (g.streams id).dispatched →
        ¬(g'.streams id).dataSent <+: (g'.streams id).dispatched) := by
  let late := MQTTMessage.ofReceived g.now message
  let s := g.streams id
  let delivered := g.deliver topicMatchesSub settings message
  rcases deliver_of_overtakes hrun hovertakes hstreaming with ⟨hsame, hqueued⟩
  rcases hovertakes with ⟨_, hoverflow, _, hrunning, _⟩
  have hsends : Stream.Sends delivered.now (delivered.streams id) := by
    rw [hsame, hqueued]
    have hstarted := (started_of_reachable ⟨_, hrun⟩ id (by rw [hstreaming]; rfl)).1
    exact ⟨⟨hstarted, hrunning⟩, hstreaming, hfailed, exp, hexp, hnow⟩
  rcases exists_handed_over topicMatchesSub settings jwtDecode hsends with
    ⟨rest, g', hrest, hexec, hsends', hdispatched, hsent⟩
  rw [hqueued] at hdispatched hsent
  have hshort : s.pipeline.length < s.dispatched.length :=
    ((lossy_of_run hrun id).pipeline hrunning).2 hoverflow
  have hshown : (g'.streams id).dataSent = s.pipeline ++ [late] :=
    hsent.trans (Stream.pipeline_queued s late _)
  refine ⟨rest, g', s.pipeline, hrest, ?_, hsends', hdispatched, hshown, hshort, ?_⟩
  · exact hrun.append (Option.bind_eq_some_iff.mpr ⟨delivered, rfl, hexec⟩)
  · intro hnew hprefix
    rw [hshown, hdispatched] at hprefix
    have hlength : (s.pipeline ++ [late]).length ≤ s.dispatched.length := by
      rw [List.length_append]
      exact hshort
    have hearlier : s.pipeline ++ [late] <+: s.dispatched :=
      List.prefix_of_prefix_length_le hprefix (List.prefix_append _ _) hlength
    exact hnew (hearlier.subset (List.mem_append_right _ (List.mem_singleton_self _)))

end Gateway

end MqttGateway
