import MqttGateway.Api.StreamSteps

/-!
# The order of a stream

The data frames of a connection are the packets dispatched to {lit}`ws_callback` as long as no
packet has been dropped: what has been handed over, what the sender holds and what is
queued are one pipeline.  A packet that is queued after another one has been dropped
would follow it without a gap being visible.

Main results:

- Theorem {lit}`pipeline_childStep`: a step of a child task moves messages along the pipeline, or
  the sender has ended.
- Theorems {lit}`InOrder.step` and {lit}`InOrder.wsCallback`: the frames handed over stay the first
  messages dispatched, unless a packet overtakes a dropped one.
- Theorems {lit}`Sifted.step` and {lit}`Sifted.wsCallback`: in any case they are messages
  dispatched, in the order in which they were.
- Theorems {lit}`Whole.step` and {lit}`Whole.wsCallback`: none of them is missing until one has
  been dropped.
- Theorems {lit}`Lossy.step` and {lit}`Lossy.wsCallback`: then one is missing for good.
-/

namespace MqttGateway

open Toolkit

namespace Stream

variable {topicMatchesSub : PyStr → PyStr → Bool} {settings : Settings}
  {jwtDecode : PyStr → Except PyException Claims} {id : Nat} {now : ℚ} {hub hub' : Hub}
  {s s' : Stream}

/-! ## The pipeline -/

/-- A frame that is handed over is the last one, if it is a data frame. -/
theorem dataSent_append (s : Stream) (entry : ℚ × Frame) :
    dataSent { s with sent := s.sent ++ [entry] } = s.dataSent ++ inHand (.holding entry.2) := by
  rcases entry with ⟨at', frame⟩
  cases frame <;> simp [dataSent, inHand]

/-- A sender that fails has ended and hands nothing over. -/
theorem senderFails_ended (s : Stream) (e : PyException) :
    (s.senderFails e).dataSent = s.dataSent ∧
      ∃ result, (s.senderFails e).sender = .done result := by
  unfold senderFails
  split
  · exact ⟨rfl, _, rfl⟩
  · exact ⟨rfl, _, rfl⟩

/-- A message that is queued enters the pipeline at its end. -/
theorem pipeline_queued (s : Stream) (message : MQTTMessage) (dispatched : List MQTTMessage) :
    pipeline { s with dispatched, messageQueue := s.messageQueue ++ [message] } =
      s.pipeline ++ [message] :=
  (List.append_assoc _ _ _).symm

/-- What a step of a child task does to the pipeline: the sender has ended and hands over nothing
more, or every message keeps its place. -/
theorem pipeline_childStep {l : ChildStep} (h : s.childStep now l = some s') :
    (s'.dataSent = s.dataSent ∧ ∃ result, s'.sender = .done result) ∨
      (s.Running ∧ s'.pipeline = s.pipeline) := by
  have hkept : ∀ {t : Stream}, t.sender = s.sender → t.sent = s.sent →
      t.messageQueue = s.messageQueue →
      (t.dataSent = s.dataSent ∧ ∃ result, t.sender = .done result) ∨
        (s.Running ∧ t.pipeline = s.pipeline) := by
    intro t hsender hsent hqueue
    have hdata : t.dataSent = s.dataSent := by rw [dataSent, dataSent, hsent]
    by_cases hrunning : s.Running
    · refine Or.inr ⟨hrunning, ?_⟩
      rw [pipeline, pipeline, hdata, hsender, hqueue]
    · unfold Running at hrunning
      push Not at hrunning
      rw [hsender]
      exact Or.inl ⟨hdata, hrunning⟩
  rcases childStep_cases h with ⟨_, ⟨close, rfl⟩ | ⟨e, rfl⟩⟩ |
    ⟨activity, hactive, hnext, hnow, _, rfl⟩ |
    ⟨msg, queue, hgetting, hqueue, rfl⟩ | ⟨frame, hholding, rfl⟩ | ⟨_, rfl⟩ | ⟨_, rfl⟩ |
    ⟨_, _, rfl⟩ | ⟨_, _, hcancelled⟩
  · exact Or.inl ⟨rfl, _, rfl⟩
  · exact Or.inl (senderFails_ended s e)
  · refine Or.inr ⟨hactive.running, ?_⟩
    simp only [pipeline, dataSent, hnext, hnow]
  · refine Or.inr ⟨running_of_sender hgetting (by simp), ?_⟩
    simp [pipeline, dataSent, inHand, hgetting, hqueue]
  · refine Or.inr ⟨running_of_sender hholding (by simp), ?_⟩
    have hdata := dataSent_append s (now, frame)
    unfold dataSent at hdata
    simp only [pipeline, dataSent, hholding]
    rw [hdata]
    simp [inHand]
  · exact hkept rfl rfl rfl
  · exact hkept rfl rfl rfl
  · exact hkept rfl rfl rfl
  · rcases childCancelled_cases hcancelled with ⟨_, rfl⟩ | ⟨_, rfl⟩ | ⟨_, rfl⟩
    · exact Or.inl ⟨rfl, _, rfl⟩
    · exact hkept rfl rfl rfl
    · exact hkept rfl rfl rfl

/-! ## What holds along the pipeline -/

/-- Before the task group is entered, its tasks have not started. -/
def Fresh (s : Stream) : Prop :=
  early s.handler = true →
    s.sender = .notStarted ∧ s.receiver = .notStarted ∧ s.watcher = .notStarted ∧
      s.finished = false

/-- One relation holds between what has been handed over and what has been dispatched, and one
between the pipeline and what has been dispatched while the sender runs. -/
structure Carries (S : List MQTTMessage → List MQTTMessage → Prop)
    (R : Bool → List MQTTMessage → List MQTTMessage → Prop) (s : Stream) : Prop where
  fresh : s.Fresh
  sent : S s.dataSent s.dispatched
  pipeline : s.Running → R s.overflow s.pipeline s.dispatched

/-- What has been handed over comes first among the messages dispatched.  While the sender runs,
so does the pipeline, which is all of them until one has been dropped. -/
def InOrder (s : Stream) : Prop :=
  s.Carries (fun sent dispatched => sent <+: dispatched) fun overflow pipeline dispatched =>
    pipeline <+: dispatched ∧ (overflow = false → pipeline = dispatched)

/-- Nothing is handed over or on its way that has not been dispatched, and in that order. -/
def Sifted (s : Stream) : Prop :=
  s.Carries (fun sent dispatched => sent.Sublist dispatched) fun _ pipeline dispatched =>
    pipeline.Sublist dispatched

/-- Until a message has been dropped, what the sender has not lost is all that has been
dispatched. -/
def Whole (s : Stream) : Prop :=
  s.Carries (fun _ _ => True) fun overflow pipeline dispatched =>
    overflow = false → pipeline = dispatched

/-- Once a message has been dropped, what the sender has not lost is less than what has been
dispatched. -/
def Lossy (s : Stream) : Prop :=
  s.Carries (fun _ _ => True) fun overflow pipeline dispatched =>
    pipeline.length ≤ dispatched.length ∧
      (overflow = true → pipeline.length < dispatched.length)

/-- A packet would be queued behind a dropped one, with the sender still running. -/
def Overtakes (topicMatchesSub : PyStr → PyStr → Bool) (settings : Settings)
    (message : ReceivedMessage) (s : Stream) : Prop :=
  s.overflow = true ∧ s.messageQueue.length < settings.websocketQueueSize ∧ s.Running ∧
    (s.requested.any fun pattern => topicMatchesSub pattern message.topic) = true ∧
    message.payload.length ≤ settings.maxMessageBytes

instance (message : ReceivedMessage) (s : Stream) :
    Decidable (Overtakes topicMatchesSub settings message s) :=
  inferInstanceAs (Decidable (_ ∧ _ ∧ _ ∧ _ ∧ _))

/-- No task has started before the request. -/
theorem fresh_initial : Fresh initial :=
  fun _ => ⟨rfl, rfl, rfl, rfl⟩

/-- An unused connection is in order. -/
theorem inOrder_initial : InOrder initial where
  fresh := fresh_initial
  sent := List.nil_prefix
  pipeline _ := ⟨List.nil_prefix, fun _ => rfl⟩

/-- An unused connection has nothing on its way. -/
theorem sifted_initial : Sifted initial where
  fresh := fresh_initial
  sent := List.Sublist.slnil
  pipeline _ := List.Sublist.slnil

/-- An unused connection has lost nothing. -/
theorem whole_initial : Whole initial where
  fresh := fresh_initial
  sent := trivial
  pipeline _ _ := rfl

/-- An unused connection has dropped nothing. -/
theorem lossy_initial : Lossy initial where
  fresh := fresh_initial
  sent := trivial
  pipeline _ := ⟨Nat.le_refl 0, nofun⟩

/-- No child task takes a step before it has started. -/
theorem Fresh.childStep_eq_none (h : s.Fresh) (hearly : early s.handler = true) (l : ChildStep) :
    s.childStep now l = none := by
  rcases h hearly with ⟨hsender, hreceiver, hwatcher, _⟩
  cases l with
  | cancelled child =>
      cases child <;> simp [childStep, childCancelled, hsender, hreceiver, hwatcher]
  | _ => simp [childStep, hsender, hreceiver, hwatcher]

/-- A step of the handler outside the hub starts the child tasks with the task group. -/
theorem Fresh.frame (h : s.Fresh) (hframe : HandlerFrame topicMatchesSub settings s s') :
    s'.Fresh := by
  intro hearly
  rcases h (hframe.moves.early hearly) with ⟨hsender, hreceiver, hwatcher, hfinished⟩
  rcases hframe.children with ⟨hsender', hreceiver', hwatcher'⟩ | ⟨_, hstreaming, _⟩
  · rw [hsender', hreceiver', hwatcher', hframe.finished]
    exact ⟨hsender, hreceiver, hwatcher, hfinished⟩
  · rw [hstreaming] at hearly
    cases hearly

/-- Every step of a stream starts the child tasks with the task group. -/
theorem Fresh.step (h : s.Fresh) {l : StreamStep}
    (hstep : s.step topicMatchesSub settings jwtDecode id now hub l = some (hub', s')) :
    s'.Fresh := by
  rcases step_cases hstep with ⟨_, _, hlocal, _⟩ | ⟨l', _, hlocal, _⟩ | ⟨_, hhandler, _, rfl⟩ |
    ⟨_, _, _, _, hhandler, _, ⟨_, rfl⟩ | ⟨e, _, rfl⟩⟩ | ⟨_, _, _, _, rfl⟩ |
    ⟨_, _, _, _, _, _, _, ⟨_, rfl⟩ | ⟨e, _, rfl⟩⟩
  · exact h.frame (handlerStep_frame hlocal)
  · intro hearly
    rw [(childStep_frame hlocal).handler] at hearly
    rw [h.childStep_eq_none hearly] at hlocal
    cases hlocal
  · exact fun _ => h (by rw [hhandler]; rfl)
  · exact fun _ => h (by rw [hhandler]; rfl)
  · exact h.frame (fail_frame topicMatchesSub settings (by rw [hhandler]; rfl) e)
  · exact fun hearly => absurd hearly Bool.false_ne_true
  · exact fun hearly => absurd hearly Bool.false_ne_true
  · intro hearly
    dsimp only at hearly
    split at hearly <;> cases hearly

section Carries

variable {S : List MQTTMessage → List MQTTMessage → Prop}
  {R : Bool → List MQTTMessage → List MQTTMessage → Prop}

/-- A step of the handler outside the hub leaves the pipeline as it is. -/
theorem Carries.frame (h : s.Carries S R) (hframe : HandlerFrame topicMatchesSub settings s s') :
    s'.Carries S R := by
  refine ⟨h.fresh.frame hframe, ?_, ?_⟩
  · rw [hframe.dataSent, hframe.dispatched]
    exact h.sent
  · intro hrunning
    have hsame : s.Running ∧ s'.pipeline = s.pipeline := by
      rw [Stream.pipeline, Stream.pipeline, hframe.dataSent, hframe.messageQueue]
      rcases hframe.children with ⟨hsender, _⟩ | ⟨hawaiting, _, hsender, _⟩
      · rw [hsender]
        refine ⟨?_, rfl⟩
        rwa [Running, hsender] at hrunning
      · have hnot := (h.fresh (by rw [hawaiting]; rfl)).1
        rw [hsender, hnot]
        refine ⟨?_, rfl⟩
        intro result hdone
        rw [hnot] at hdone
        cases hdone
    rw [hsame.2, hframe.dispatched, hframe.overflow]
    exact h.pipeline hsame.1

/-- A step of a child task hands over the head of the pipeline, or loses it for good. -/
theorem Carries.child
    (hhead : ∀ {sent pipeline dispatched overflow}, sent <+: pipeline →
      R overflow pipeline dispatched → S sent dispatched)
    (h : s.Carries S R) {l : ChildStep} (hstep : s.childStep now l = some s')
    (hfresh : s'.Fresh) : s'.Carries S R := by
  have hframe := childStep_frame hstep
  rcases pipeline_childStep hstep with ⟨hdata, result, hdone⟩ | ⟨hrunning, hpipeline⟩
  · refine ⟨hfresh, ?_, fun hrunning => absurd hdone (hrunning result)⟩
    rw [hdata, hframe.dispatched]
    exact h.sent
  · have hsame : R s'.overflow s'.pipeline s'.dispatched := by
      rw [hpipeline, hframe.dispatched, hframe.overflow]
      exact h.pipeline hrunning
    refine ⟨hfresh, hhead ?_ hsame, fun _ => hsame⟩
    rw [Stream.pipeline, List.append_assoc]
    exact List.prefix_append _ _

/-- Every step of a stream keeps what holds along its pipeline. -/
theorem Carries.step
    (hhead : ∀ {sent pipeline dispatched overflow}, sent <+: pipeline →
      R overflow pipeline dispatched → S sent dispatched)
    (h : s.Carries S R) {l : StreamStep}
    (hstep : s.step topicMatchesSub settings jwtDecode id now hub l = some (hub', s')) :
    s'.Carries S R := by
  have hfresh := h.fresh.step hstep
  rcases step_cases hstep with ⟨_, _, hlocal, _⟩ | ⟨_, _, hlocal, _⟩ | ⟨_, _, _, rfl⟩ |
    ⟨_, _, _, _, hhandler, _, ⟨_, rfl⟩ | ⟨e, _, rfl⟩⟩ | ⟨_, _, _, _, rfl⟩ |
    ⟨_, _, _, _, _, _, _, ⟨_, rfl⟩ | ⟨_, _, rfl⟩⟩
  · exact h.frame (handlerStep_frame hlocal)
  · exact h.child hhead hlocal hfresh
  · exact { h with fresh := hfresh }
  · exact { h with fresh := hfresh }
  · exact h.frame (fail_frame topicMatchesSub settings (by rw [hhandler]; rfl) e)
  · exact { h with fresh := hfresh }
  · exact { h with fresh := hfresh }
  · exact { h with fresh := hfresh }

end Carries

/-! ## No gap -/

/-- Every step of a connection keeps its frames in order. -/
theorem InOrder.step (h : s.InOrder) {l : StreamStep}
    (hstep : s.step topicMatchesSub settings jwtDecode id now hub l = some (hub', s')) :
    s'.InOrder :=
  Carries.step (fun hsent hpipeline => hsent.trans hpipeline.1) h hstep

/-- A packet that overtakes nothing keeps the frames in order. -/
theorem InOrder.wsCallback (h : s.InOrder) {message : ReceivedMessage}
    (hnot : ¬Overtakes topicMatchesSub settings message s) :
    (wsCallback topicMatchesSub settings now message s).InOrder := by
  rcases wsCallback_cases topicMatchesSub settings now message s with
    heq | ⟨hmatch, hfits, ⟨hroom, heq⟩ | ⟨_, heq⟩⟩
  · rw [heq]
    exact h
  · rw [heq]
    refine ⟨h.fresh, h.sent.trans (List.prefix_append _ _), ?_⟩
    intro hrunning
    -- The queue has room, so nothing has been dropped if the sender runs.
    have hall : s.pipeline = s.dispatched := by
      apply (h.pipeline hrunning).2
      by_contra hoverflow
      rw [Bool.not_eq_false] at hoverflow
      exact hnot ⟨hoverflow, hroom, hrunning, hmatch, hfits⟩
    rw [pipeline_queued, hall]
    exact ⟨List.prefix_refl _, fun _ => rfl⟩
  · rw [heq]
    refine ⟨h.fresh, h.sent.trans (List.prefix_append _ _), ?_⟩
    intro hrunning
    refine ⟨(h.pipeline hrunning).1.trans (List.prefix_append _ _), ?_⟩
    intro hoverflow
    cases hoverflow

/-- No step of a connection sends what has not been dispatched. -/
theorem Sifted.step (h : s.Sifted) {l : StreamStep}
    (hstep : s.step topicMatchesSub settings jwtDecode id now hub l = some (hub', s')) :
    s'.Sifted :=
  Carries.step (fun hsent hpipeline => hsent.sublist.trans hpipeline) h hstep

/-- A packet is dispatched before it is queued. -/
theorem Sifted.wsCallback (h : s.Sifted) (message : ReceivedMessage) :
    (wsCallback topicMatchesSub settings now message s).Sifted := by
  rcases wsCallback_cases topicMatchesSub settings now message s with
    heq | ⟨_, _, ⟨_, heq⟩ | ⟨_, heq⟩⟩
  · rw [heq]
    exact h
  · rw [heq]
    refine ⟨h.fresh, h.sent.trans (List.sublist_append_left _ _), ?_⟩
    intro hrunning
    rw [pipeline_queued]
    exact (h.pipeline hrunning).append_right [MQTTMessage.ofReceived now message]
  · rw [heq]
    refine ⟨h.fresh, h.sent.trans (List.sublist_append_left _ _), ?_⟩
    intro hrunning
    exact (h.pipeline hrunning).trans (List.sublist_append_left _ _)

/-! ## Nothing lost before the first message dropped -/

/-- No step of a connection loses a message, unless the sender ends. -/
theorem Whole.step (h : s.Whole) {l : StreamStep}
    (hstep : s.step topicMatchesSub settings jwtDecode id now hub l = some (hub', s')) :
    s'.Whole :=
  Carries.step (fun _ _ => trivial) h hstep

/-- A packet is queued or it is dropped. -/
theorem Whole.wsCallback (h : s.Whole) (message : ReceivedMessage) :
    (wsCallback topicMatchesSub settings now message s).Whole := by
  rcases wsCallback_cases topicMatchesSub settings now message s with
    heq | ⟨_, _, ⟨_, heq⟩ | ⟨_, heq⟩⟩
  · rw [heq]
    exact h
  · rw [heq]
    refine ⟨h.fresh, trivial, ?_⟩
    intro hrunning hoverflow
    rw [pipeline_queued, h.pipeline hrunning hoverflow]
  · rw [heq]
    refine ⟨h.fresh, trivial, ?_⟩
    intro _ hoverflow
    cases hoverflow

/-! ## A message dropped is missing -/

/-- No step of a connection makes up for a message that has been dropped. -/
theorem Lossy.step (h : s.Lossy) {l : StreamStep}
    (hstep : s.step topicMatchesSub settings jwtDecode id now hub l = some (hub', s')) :
    s'.Lossy :=
  Carries.step (fun _ _ => trivial) h hstep

/-- A packet is dropped, or it is queued behind what is left. -/
theorem Lossy.wsCallback (h : s.Lossy) (message : ReceivedMessage) :
    (wsCallback topicMatchesSub settings now message s).Lossy := by
  rcases wsCallback_cases topicMatchesSub settings now message s with
    heq | ⟨_, _, ⟨_, heq⟩ | ⟨_, heq⟩⟩
  · rw [heq]
    exact h
  · rw [heq]
    refine ⟨h.fresh, trivial, ?_⟩
    intro hrunning
    rcases h.pipeline hrunning with ⟨hle, hless⟩
    rw [pipeline_queued, List.length_append, List.length_append]
    exact ⟨Nat.add_le_add_right hle _, fun hoverflow => Nat.add_lt_add_right (hless hoverflow) _⟩
  · rw [heq]
    refine ⟨h.fresh, trivial, ?_⟩
    intro hrunning
    have hless : s.pipeline.length <
        (s.dispatched ++ [MQTTMessage.ofReceived now message]).length := by
      rw [List.length_append]
      exact Nat.lt_succ_of_le (h.pipeline hrunning).1
    exact ⟨Nat.le_of_lt hless, fun _ => hless⟩

end Stream

end MqttGateway
