import MqttGateway.Api.Stream
import Mathlib.Tactic.Linarith

/-!
# What a step of a stream can do

For each part of {lit}`websocket_endpoint`, everything its steps can change and what they
leave as it is.  The invariants of a connection are derived from these facts.

Main results:

- Theorem {lit}`step_hub`: a step of a stream goes through the hub as its own consumer.
- Theorems {lit}`step_cases`, {lit}`handlerStep_cases` and {lit}`childStep_cases`: everything a
  step, a step of the handler and a step of a child task can do.
- Theorems {lit}`handlerStep_frame` and {lit}`childStep_frame`: what the handler and the child tasks
  leave as it is.
- Theorem {lit}`Authorized.step`: the topics of a stream have passed the ACL.
- Theorem {lit}`footprint_step`: what the stream has registered and acquired after each step.
-/

namespace MqttGateway

open Toolkit

namespace Stream

/-- Whether the callback of a stream is registered. -/
def registered : HandlerActivity → Bool
  | .acquiring _ | .awaitingReady | .streaming | .joining _ | .closing | .closingUnavailable
  | .unregistering _ => true
  | .idle | .acceptingForAuth | .awaitingAuth | .rejecting _ | .accepting | .registering
  | .releasing _ _ | .finished _ => false

/-- Whether the task group has not been entered yet. -/
def early : HandlerActivity → Bool
  | .idle | .acceptingForAuth | .awaitingAuth | .rejecting _ | .accepting | .registering
  | .acquiring _ | .awaitingReady => true
  | .streaming | .joining _ | .closing | .closingUnavailable | .unregistering _
  | .releasing _ _ | .finished _ => false

/-- The topics a handler still has to acquire. -/
def toAcquire : HandlerActivity → List PyStr
  | .acquiring todo => todo
  | .idle | .acceptingForAuth | .awaitingAuth | .rejecting _ | .accepting | .registering
  | .awaitingReady | .streaming | .joining _ | .closing | .closingUnavailable
  | .unregistering _ | .releasing _ _ | .finished _ => []

/-- The topics a handler still has to release. -/
def toRelease : HandlerActivity → List PyStr
  | .releasing todo _ => todo
  | .idle | .acceptingForAuth | .awaitingAuth | .rejecting _ | .accepting | .registering
  | .acquiring _ | .awaitingReady | .streaming | .joining _ | .closing | .closingUnavailable
  | .unregistering _ | .finished _ => []

/-- The topics a stream may hold. -/
def mayHold (s : Stream) : List PyStr :=
  if registered s.handler then s.acquired else toRelease s.handler

/-- The messages of the data frames handed to the connection. -/
def dataSent (s : Stream) : List MQTTMessage :=
  s.sent.filterMap fun entry =>
    match entry.2 with
    | .data message => some message
    | .ready _ | .ping => none

/-- The message the sender has taken and not handed over yet. -/
def inHand : SenderActivity → List MQTTMessage
  | .holding (.data message) => [message]
  | .holding (.ready _) | .holding .ping | .notStarted | .checking | .getting | .sending
  | .done _ => []

/-- The messages on their way to the client, in order. -/
def pipeline (s : Stream) : List MQTTMessage :=
  s.dataSent ++ inHand s.sender ++ s.messageQueue

/-- The sender has not ended. -/
def Running (s : Stream) : Prop :=
  ∀ result, s.sender ≠ .done result

instance (s : Stream) : Decidable s.Running :=
  match h : s.sender with
  | .done result => isFalse fun hrunning => hrunning result h
  | .notStarted | .checking | .getting | .holding _ | .sending =>
      isTrue fun result hdone => by
        rw [h] at hdone
        cases hdone

variable {topicMatchesSub : PyStr → PyStr → Bool} {settings : Settings}
  {jwtDecode : PyStr → Except PyException Claims} {id : Nat} {now : ℚ} {hub hub' : Hub}
  {s s' : Stream}

/-! ## What a step can do -/

/-- Everything a step of a stream can do to the hub. -/
theorem step_cases {l : StreamStep}
    (h : s.step topicMatchesSub settings jwtDecode id now hub l = some (hub', s')) :
    (∃ l', l = .handler l' ∧
        s.handlerStep topicMatchesSub settings jwtDecode now l' = some s' ∧ hub' = hub) ∨
      (∃ l', l = .child l' ∧ s.childStep now l' = some s' ∧ hub' = hub) ∨
      (l = .register ∧ s.handler = .registering ∧
        hub' = hub.addPacketCallback (.wsCallback id) ∧
        s' = { s with handler := .acquiring s.requested }) ∨
      (∃ paho topic todo, l = .acquire paho ∧ s.handler = .acquiring (topic :: todo) ∧
        hub' = (hub.acquire topicMatchesSub settings paho topic 0 (.websocket id) false).2 ∧
        (((hub.acquire topicMatchesSub settings paho topic 0 (.websocket id) false).1 = .ok () ∧
            s' = { s with acquired := s.acquired ++ [topic], handler := .acquiring todo }) ∨
          ∃ e, (hub.acquire topicMatchesSub settings paho topic 0 (.websocket id) false).1 =
              .error e ∧ s' = s.fail e)) ∨
      (∃ exception, l = .unregister ∧ s.handler = .unregistering exception ∧
        hub' = hub.removePacketCallback (.wsCallback id) ∧
        s' = { s with handler := .releasing s.acquired exception }) ∨
      (∃ paho topic todo exception, l = .release paho ∧
        s.handler = .releasing (topic :: todo) exception ∧
        hub' = (hub.release paho topic (.websocket id)).2 ∧
        (((hub.release paho topic (.websocket id)).1 = .ok () ∧
            s' = { s with handler := .releasing todo exception }) ∨
          ∃ e, (hub.release paho topic (.websocket id)).1 = .error e ∧
            s' = { s with
              handler :=
                if isRuntimeError e then .releasing todo exception else .finished (some e) })) := by
  cases l with
  | handler l' =>
      rcases Option.map_eq_some_iff.mp h with ⟨t, hstep, heq⟩
      cases heq
      exact Or.inl ⟨l', rfl, hstep, rfl⟩
  | child l' =>
      rcases Option.map_eq_some_iff.mp h with ⟨t, hstep, heq⟩
      cases heq
      exact Or.inr (Or.inl ⟨l', rfl, hstep, rfl⟩)
  | register =>
      simp only [step] at h
      split at h
      · next hregistering =>
          cases h
          exact Or.inr (Or.inr (Or.inl ⟨rfl, hregistering, rfl, rfl⟩))
      · cases h
  | acquire paho =>
      simp only [step] at h
      split at h
      · next topic todo hacquiring =>
          refine Or.inr (Or.inr (Or.inr (Or.inl ⟨paho, topic, todo, rfl, hacquiring, ?_⟩)))
          split at h
          · next hresult =>
              cases h
              rw [hresult]
              exact ⟨rfl, Or.inl ⟨rfl, rfl⟩⟩
          · next e _ hresult =>
              cases h
              rw [hresult]
              exact ⟨rfl, Or.inr ⟨e, rfl, rfl⟩⟩
      · cases h
  | unregister =>
      simp only [step] at h
      split at h
      · next exception hunregistering =>
          cases h
          exact Or.inr (Or.inr (Or.inr (Or.inr (Or.inl
            ⟨exception, rfl, hunregistering, rfl, rfl⟩))))
      · cases h
  | release paho =>
      simp only [step] at h
      split at h
      · next topic todo exception hreleasing =>
          refine Or.inr (Or.inr (Or.inr (Or.inr (Or.inr
            ⟨paho, topic, todo, exception, rfl, hreleasing, ?_⟩))))
          split at h
          · next hresult =>
              cases h
              rw [hresult]
              exact ⟨rfl, Or.inl ⟨rfl, rfl⟩⟩
          · next e _ hresult =>
              cases h
              rw [hresult]
              exact ⟨rfl, Or.inr ⟨e, rfl, rfl⟩⟩
      · cases h

/-- A step of a stream goes through the hub as its own consumer. -/
theorem step_hub {l : StreamStep}
    (h : s.step topicMatchesSub settings jwtDecode id now hub l = some (hub', s')) :
    Hub.Step topicMatchesSub settings (.websocket id) hub hub' := by
  rcases step_cases h with ⟨_, _, _, rfl⟩ | ⟨_, _, _, rfl⟩ | ⟨_, _, rfl, _⟩ |
    ⟨paho, topic, _, _, _, rfl, _⟩ | ⟨_, _, _, rfl, _⟩ | ⟨paho, topic, _, _, _, _, rfl, _⟩
  · exact .stay _
  · exact .stay _
  · exact .add hub _ rfl
  · exact .acquire hub paho topic 0 false
  · exact .remove hub _ rfl
  · exact .release hub paho topic

/-- Everything the code between the token and the next await can do. -/
theorem gate_cases (topicMatchesSub : PyStr → PyStr → Bool) (settings : Settings)
    (jwtDecode : PyStr → Except PyException Claims) (token : Json) (s : Stream) :
    (∃ close, gate topicMatchesSub settings jwtDecode token s = s.reject close false) ∨
      (∃ e, gate topicMatchesSub settings jwtDecode token s =
        { s with handler := .finished (some e) }) ∨
      ∃ claims, tokenClaims settings jwtDecode token = .ok (some claims) ∧
        checkTopics topicMatchesSub settings (requestedTopics s.topics) = .ok () ∧
        gate topicMatchesSub settings jwtDecode token s =
          { s with
            claims := some claims
            requested := requestedTopics s.topics
            handler := if s.accepted then .registering else .accepting } := by
  unfold gate
  split
  · next e _ => exact Or.inr (Or.inl ⟨e, rfl⟩)
  · exact Or.inl ⟨_, rfl⟩
  · next claims hclaims =>
      simp only
      split
      · exact Or.inl ⟨_, rfl⟩
      · next e _ _ => exact Or.inr (Or.inl ⟨e, rfl⟩)
      · next hcheck => exact Or.inr (Or.inr ⟨claims, hclaims, hcheck, rfl⟩)

/-- The token a client presents in a step. -/
def Presents (token : Json) : HandlerStep → Prop
  | .connect (some header) _ => token = .str (headerToken header)
  | .authFrame frame => token = frameToken frame
  | .connect none _ | .resume | .raises _ | .sendReady | .wake | .join => False

/-- The moves of the handler in which it does nothing else, or calls {lit}`close` besides. -/
inductive Goes : HandlerActivity → HandlerActivity → Prop
  | acceptForAuthRaises (e : PyException) : Goes .acceptingForAuth (.finished (some e))
  | authFails : Goes .awaitingAuth (.rejecting true)
  | authRaises (e : PyException) : Goes .awaitingAuth (.finished (some e))
  | rejected (suppress : Bool) (e : Option PyException) : Goes (.rejecting suppress) (.finished e)
  | accepted : Goes .accepting .registering
  | acceptRaises (e : PyException) : Goes .accepting (.finished (some e))
  | streamCancelled (e : PyException) : Goes .streaming (.joining (some e))
  | joinCancelled (e : Option PyException) (e' : PyException) :
      Goes (.joining e) (.joining (some e'))
  | closed : Goes .closing (.unregistering none)
  | closedUnavailable (e : Option PyException) : Goes .closingUnavailable (.unregistering e)
  | released (e : Option PyException) : Goes (.releasing [] e) (.finished e)

/-- A step in which the handler makes such a move. -/
def OnlyGoes (s s' : Stream) : Prop :=
  ∃ target closes, Goes s.handler target ∧ s.closes ⊆ closes ∧
    s' = { s with handler := target, closes }

/-- A move of the handler is nothing but one. -/
theorem onlyGoes_of_handler {source target : HandlerActivity} (hsource : s.handler = source)
    (h : Goes source target) : s.OnlyGoes { s with handler := target } := by
  rw [← hsource] at h
  exact ⟨target, s.closes, h, List.Subset.refl _, rfl⟩

/-- Everything the completion of an awaited operation can do. -/
theorem handlerResumes_cases (h : s.handlerResumes = some s') :
    (s.handler = .acceptingForAuth ∧ s' = { s with accepted := true, handler := .awaitingAuth }) ∨
      (s.handler = .awaitingReady ∧
        s' = { s with
          handler := .streaming
          sender := .checking
          receiver := .waiting
          watcher := .waiting }) ∨
      s.OnlyGoes s' := by
  unfold handlerResumes at h
  split at h
  · next hhandler =>
      cases h
      exact Or.inl ⟨hhandler, rfl⟩
  · next hhandler =>
      cases h
      exact Or.inr (Or.inr (onlyGoes_of_handler hhandler (.rejected _ none)))
  · next hhandler =>
      cases h
      exact Or.inr (Or.inr (onlyGoes_of_handler hhandler .accepted))
  · next hhandler =>
      cases h
      exact Or.inr (Or.inl ⟨hhandler, rfl⟩)
  · next hhandler =>
      cases h
      exact Or.inr (Or.inr (onlyGoes_of_handler hhandler .closed))
  · next hhandler =>
      cases h
      exact Or.inr (Or.inr (onlyGoes_of_handler hhandler (.closedUnavailable none)))
  · next hhandler =>
      cases h
      exact Or.inr (Or.inr (onlyGoes_of_handler hhandler (.released _)))
  · cases h

/-- Everything an exception out of an await can do. -/
theorem handlerRaises_cases {e : PyException} (h : s.handlerRaises e = some s') :
    s.OnlyGoes s' ∨ registered s.handler = true ∧ s' = s.fail e := by
  unfold handlerRaises at h
  split at h
  · next hhandler =>
      cases h
      exact Or.inl (onlyGoes_of_handler hhandler (.acceptForAuthRaises e))
  · next hhandler =>
      cases h
      exact Or.inl (onlyGoes_of_handler hhandler (.acceptRaises e))
  · next hhandler =>
      cases h
      split
      · refine Or.inl ⟨.rejecting true, _, ?_, List.subset_append_left _ _, rfl⟩
        rw [hhandler]
        exact .authFails
      · exact Or.inl (onlyGoes_of_handler hhandler (.authRaises e))
  · next hhandler =>
      cases h
      exact Or.inl (onlyGoes_of_handler hhandler (.rejected _ _))
  · next hhandler =>
      rw [Option.ite_none_right_eq_some] at h
      cases h.2
      exact Or.inr ⟨by rw [hhandler]; rfl, rfl⟩
  · next hhandler =>
      cases h
      exact Or.inr ⟨by rw [hhandler]; rfl, rfl⟩
  · next hhandler =>
      cases h
      exact Or.inr ⟨by rw [hhandler]; rfl, rfl⟩
  · next hhandler =>
      cases h
      exact Or.inr ⟨by rw [hhandler]; rfl, rfl⟩
  · next hhandler =>
      rw [Option.ite_none_right_eq_some] at h
      cases h.2
      exact Or.inl (onlyGoes_of_handler hhandler (.streamCancelled e))
  · next hhandler =>
      rw [Option.ite_none_right_eq_some] at h
      cases h.2
      exact Or.inl (onlyGoes_of_handler hhandler (.joinCancelled _ e))
  · next hhandler =>
      cases h
      exact Or.inl (onlyGoes_of_handler hhandler (.closedUnavailable _))
  all_goals cases h

/-- Everything a step of the handler outside the hub can do. -/
theorem handlerStep_cases {l : HandlerStep}
    (h : s.handlerStep topicMatchesSub settings jwtDecode now l = some s') :
    (∃ token t, Presents token l ∧
        (s.handler = .idle ∧ (∃ topics, t = { s with topics }) ∨
          s.handler = .awaitingAuth ∧ t = s) ∧
        s' = gate topicMatchesSub settings jwtDecode token t) ∨
      (∃ topics, s.handler = .idle ∧ s' = { s with topics, handler := .acceptingForAuth }) ∨
      (s.handler = .acceptingForAuth ∧ s' = { s with accepted := true, handler := .awaitingAuth }) ∨
      (s.handler = .acquiring [] ∧
        s' = { s with
          sent := s.sent ++ [(now, .ready s.requested)]
          handler := .awaitingReady }) ∨
      (s.handler = .awaitingReady ∧
        s' = { s with
          handler := .streaming
          sender := .checking
          receiver := .waiting
          watcher := .waiting }) ∨
      (s.handler = .streaming ∧ s.finished = true ∧ s' = { s with handler := .joining none }) ∨
      (s.handler = .joining none ∧ s' = s.leaveGroup none) ∨
      (∃ e, registered s.handler = true ∧ s' = s.fail e) ∨
      s.OnlyGoes s' := by
  cases l with
  | connect header topics =>
      simp only [handlerStep] at h
      split at h
      · next header hidle =>
          cases h
          exact Or.inl ⟨_, _, rfl, Or.inl ⟨hidle, topics, rfl⟩, rfl⟩
      · next hidle =>
          cases h
          exact Or.inr (Or.inl ⟨topics, hidle, rfl⟩)
      · cases h
  | authFrame frame =>
      simp only [handlerStep] at h
      split at h
      · next hawaiting =>
          cases h
          exact Or.inl ⟨_, s, rfl, Or.inr ⟨hawaiting, rfl⟩, rfl⟩
      · cases h
  | resume =>
      rcases handlerResumes_cases h with haccepted | hready | hgoes
      · exact Or.inr (Or.inr (Or.inl haccepted))
      · exact Or.inr (Or.inr (Or.inr (Or.inr (Or.inl hready))))
      · exact Or.inr (Or.inr (Or.inr (Or.inr (Or.inr (Or.inr (Or.inr (Or.inr hgoes)))))))
  | raises e =>
      rcases handlerRaises_cases h with hgoes | hfails
      · exact Or.inr (Or.inr (Or.inr (Or.inr (Or.inr (Or.inr (Or.inr (Or.inr hgoes)))))))
      · exact Or.inr (Or.inr (Or.inr (Or.inr (Or.inr (Or.inr (Or.inr (Or.inl ⟨e, hfails⟩)))))))
  | sendReady =>
      simp only [handlerStep] at h
      split at h
      · next hhandler =>
          cases h
          exact Or.inr (Or.inr (Or.inr (Or.inl ⟨hhandler, rfl⟩)))
      · cases h
  | wake =>
      simp only [handlerStep] at h
      split at h
      · next hhandler =>
          rw [Option.ite_none_right_eq_some] at h
          cases h.2
          exact Or.inr (Or.inr (Or.inr (Or.inr (Or.inr (Or.inl ⟨hhandler, h.1, rfl⟩)))))
      · cases h
  | join =>
      simp only [handlerStep] at h
      split at h
      · next exception _ _ _ hhandler _ _ _ =>
          cases h
          cases exception with
          | none =>
              exact Or.inr (Or.inr (Or.inr (Or.inr (Or.inr (Or.inr (Or.inl ⟨hhandler, rfl⟩))))))
          | some e =>
              have hleave : s.leaveGroup (some e) =
                  s.fail (if s.childFailed then .exceptionGroup else e) := by
                unfold leaveGroup
                cases s.childFailed <;> rfl
              rw [hleave]
              exact Or.inr (Or.inr (Or.inr (Or.inr (Or.inr (Or.inr (Or.inr (Or.inl
                ⟨_, by rw [hhandler]; rfl, rfl⟩)))))))
      · cases h

/-- A handler moves without registering, acquiring or releasing anything. -/
structure Moves (h h' : HandlerActivity) : Prop where
  registered : registered h' = registered h
  toAcquire : toAcquire h' ⊆ toAcquire h
  toRelease : toRelease h' = toRelease h
  early : early h' = true → early h = true

/-- What a step of the handler outside the hub leaves as it is. -/
structure HandlerFrame (topicMatchesSub : PyStr → PyStr → Bool) (settings : Settings)
    (s s' : Stream) : Prop where
  moves : Moves s.handler s'.handler
  acquired : s'.acquired = s.acquired
  messageQueue : s'.messageQueue = s.messageQueue
  overflow : s'.overflow = s.overflow
  dispatched : s'.dispatched = s.dispatched
  dataSent : s'.dataSent = s.dataSent
  finished : s'.finished = s.finished
  closeMessage : s'.closeMessage = s.closeMessage
  childFailed : s'.childFailed = s.childFailed
  requested : s'.requested = s.requested ∨
    checkTopics topicMatchesSub settings s'.requested = .ok ()
  children : (s'.sender = s.sender ∧ s'.receiver = s.receiver ∧ s'.watcher = s.watcher) ∨
    (s.handler = .awaitingReady ∧ s'.handler = .streaming ∧ s'.sender = .checking ∧
      s'.receiver = .waiting ∧ s'.watcher = .waiting)

/-- A step that only moves the handler and closes the connection. -/
theorem HandlerFrame.of_moves {h' : HandlerActivity} (hmoves : Moves s.handler h')
    (closes : List CloseFrame) :
    HandlerFrame topicMatchesSub settings s { s with handler := h', closes } :=
  ⟨hmoves, rfl, rfl, rfl, rfl, rfl, rfl, rfl, rfl, Or.inl rfl, Or.inl ⟨rfl, rfl, rfl⟩⟩

/-- A step that moves the handler from one activity to one that has nothing left to acquire. -/
theorem HandlerFrame.of_handler {source : HandlerActivity} (hsource : s.handler = source)
    (target : HandlerActivity) (hregistered : registered target = registered source)
    (hacquire : toAcquire target = []) (hrelease : toRelease target = toRelease source)
    (hearly : (!early target || early source) = true) (closes : List CloseFrame) :
    HandlerFrame topicMatchesSub settings s { s with handler := target, closes } := by
  subst hsource
  apply HandlerFrame.of_moves
  refine ⟨hregistered, ?_, hrelease, ?_⟩
  · rw [hacquire]
    exact List.nil_subset _
  · intro h
    rwa [h, Bool.not_true, Bool.false_or] at hearly

/-- An exception has the frame. -/
theorem fail_frame (topicMatchesSub : PyStr → PyStr → Bool) (settings : Settings) {s : Stream}
    (hregistered : registered s.handler = true) (e : PyException) :
    HandlerFrame topicMatchesSub settings s (s.fail e) := by
  have hleft : [] = toRelease s.handler := by
    cases hhandler : s.handler <;> first | rfl | simp [hhandler, registered] at hregistered
  unfold fail
  split
  · exact .of_handler rfl .closingUnavailable hregistered.symm rfl hleft rfl _
  · exact .of_handler rfl (.unregistering (some e)) hregistered.symm rfl hleft rfl _

/-- The gate has the frame. -/
theorem gate_frame (topicMatchesSub : PyStr → PyStr → Bool) (settings : Settings)
    (jwtDecode : PyStr → Except PyException Claims) {s : Stream}
    (hregistered : registered s.handler = false) (hrelease : toRelease s.handler = [])
    (hearly : early s.handler = true) (token : Json) :
    HandlerFrame topicMatchesSub settings s
      (gate topicMatchesSub settings jwtDecode token s) := by
  have hframe : ∀ target, registered target = false → toAcquire target = [] →
      toRelease target = [] → ∀ closes, HandlerFrame topicMatchesSub settings s
        { s with handler := target, closes } := by
    intro target hreg hacquire hrel closes
    refine .of_handler rfl target (hreg.trans hregistered.symm) hacquire
      (hrel.trans hrelease.symm) ?_ _
    rw [hearly, Bool.or_true]
  rcases gate_cases topicMatchesSub settings jwtDecode token s with
    ⟨close, hgate⟩ | ⟨e, hgate⟩ | ⟨claims, _, hcheck, hgate⟩
  · rw [hgate]
    exact hframe _ rfl rfl rfl _
  · rw [hgate]
    exact hframe _ rfl rfl rfl _
  · rw [hgate]
    cases s.accepted with
    | true =>
        have hnext := hframe .registering rfl rfl rfl s.closes
        exact { hnext with requested := Or.inr hcheck }
    | false =>
        have hnext := hframe .accepting rfl rfl rfl s.closes
        exact { hnext with requested := Or.inr hcheck }

/-- A move of the handler has the frame. -/
theorem Goes.moves {source target : HandlerActivity} (h : Goes source target) :
    Moves source target := by
  cases h <;> exact ⟨rfl, List.nil_subset _, rfl, by simp [Stream.early]⟩

/-- A step of the handler outside the hub has the frame. -/
theorem handlerStep_frame {l : HandlerStep}
    (h : s.handlerStep topicMatchesSub settings jwtDecode now l = some s') :
    HandlerFrame topicMatchesSub settings s s' := by
  rcases handlerStep_cases h with ⟨token, t, _, ⟨hidle, topics, rfl⟩ | ⟨hawaiting, rfl⟩, rfl⟩ |
    ⟨topics, hidle, rfl⟩ | ⟨hhandler, rfl⟩ | ⟨hhandler, rfl⟩ | ⟨hhandler, rfl⟩ |
    ⟨hhandler, _, rfl⟩ | ⟨hhandler, rfl⟩ | ⟨e, hregistered, rfl⟩ | ⟨target, closes, hgoes, _, rfl⟩
  · let t : Stream := { s with topics }
    have ht : t.handler = .idle := hidle
    have hframe := gate_frame topicMatchesSub settings jwtDecode (by rw [ht]; rfl)
      (by rw [ht]; rfl) (by rw [ht]; rfl) token
    exact { hframe with }
  · exact gate_frame topicMatchesSub settings jwtDecode (by rw [hawaiting]; rfl)
      (by rw [hawaiting]; rfl) (by rw [hawaiting]; rfl) token
  · have hframe : HandlerFrame topicMatchesSub settings s
        { s with handler := .acceptingForAuth } :=
      .of_handler hidle .acceptingForAuth rfl rfl rfl rfl _
    exact { hframe with }
  · have hframe : HandlerFrame topicMatchesSub settings s { s with handler := .awaitingAuth } :=
      .of_handler hhandler .awaitingAuth rfl rfl rfl rfl _
    exact { hframe with }
  · have hframe : HandlerFrame topicMatchesSub settings s { s with handler := .awaitingReady } :=
      .of_handler hhandler .awaitingReady rfl rfl rfl rfl _
    exact { hframe with
      dataSent := by simp [dataSent] }
  · have hframe : HandlerFrame topicMatchesSub settings s { s with handler := .streaming } :=
      .of_handler hhandler .streaming rfl rfl rfl rfl _
    exact { hframe with
      children := Or.inr ⟨hhandler, rfl, rfl, rfl, rfl⟩ }
  · exact .of_handler hhandler (.joining none) rfl rfl rfl rfl _
  · unfold leaveGroup
    split
    · exact fail_frame topicMatchesSub settings (by rw [hhandler]; rfl) _
    · exact .of_handler hhandler .closing rfl rfl rfl rfl _
    · exact .of_handler hhandler (.unregistering none) rfl rfl rfl rfl _
  · exact fail_frame topicMatchesSub settings hregistered e
  · exact .of_moves hgoes.moves closes

/-- The sender has started and not ended. -/
structure Active (s : Stream) : Prop where
  started : s.sender ≠ .notStarted
  running : s.Running

/-- What the sender is doing shows that it runs. -/
theorem running_of_sender {activity : SenderActivity} (hsender : s.sender = activity)
    (hactivity : ∀ result, activity ≠ .done result) : s.Running := by
  intro result
  rw [hsender]
  exact hactivity result

/-- What the sender is doing shows that it has started and runs. -/
theorem active_of_sender {activity : SenderActivity} (hsender : s.sender = activity)
    (hstarted : activity ≠ .notStarted) (hactivity : ∀ result, activity ≠ .done result) :
    s.Active where
  started := by
    rw [hsender]
    exact hstarted
  running := running_of_sender hsender hactivity

/-- Everything a step of a child task can do. -/
theorem childStep_cases {l : ChildStep} (h : s.childStep now l = some s') :
    (s.Active ∧ ((∃ close, s' = s.senderReturns close) ∨ ∃ e, s' = s.senderFails e)) ∨
      (∃ activity, s.Active ∧ inHand activity = [] ∧ inHand s.sender = [] ∧
        (activity = .getting → ∃ exp, s.exp = .ok exp ∧ now < exp) ∧
        s' = { s with sender := activity }) ∨
      (∃ msg queue, s.sender = .getting ∧ s.messageQueue = msg :: queue ∧
        s' = { s with messageQueue := queue, sender := .holding (.data msg) }) ∨
      (∃ frame, s.sender = .holding frame ∧
        s' = { s with sent := s.sent ++ [(now, frame)], sender := .sending }) ∨
      (s.receiver = .waiting ∧ s' = { s with receiver := .done true, finished := true }) ∨
      (s.receiver = .waiting ∧
        s' = { s with receiver := .done false, finished := true, childFailed := true }) ∨
      (s.watcher = .waiting ∧ s.overflow = true ∧
        s' = { s with
          watcher := .done true
          closeMessage := some .cannotKeepUp
          finished := true }) ∨
      ∃ child, s.cancelling = true ∧ s.childCancelled child = some s' := by
  cases l with
  | senderChecks =>
      simp only [childStep] at h
      split at h
      · next exp hchecking hexp =>
          have hactive := active_of_sender hchecking (by simp) (by simp)
          cases h
          split
          · exact Or.inl ⟨hactive, Or.inl ⟨_, rfl⟩⟩
          · next hleft =>
              have hless : now < exp := by linarith
              exact Or.inr (Or.inl ⟨.getting, hactive, rfl, by rw [hchecking]; rfl,
                fun _ => ⟨exp, hexp, hless⟩, rfl⟩)
      · next hchecking _ =>
          cases h
          exact Or.inl ⟨active_of_sender hchecking (by simp) (by simp), Or.inr ⟨_, rfl⟩⟩
      · cases h
  | senderGets =>
      simp only [childStep] at h
      split at h
      · next msg queue hgetting hget =>
          cases h
          have hqueue := Queue.eq_cons_of_getNowait_run hget
          exact Or.inr (Or.inr (Or.inl ⟨msg, queue, hgetting, hqueue, rfl⟩))
      · cases h
  | senderTimesOut =>
      simp only [childStep] at h
      split at h
      · next exp hgetting _ =>
          cases h
          refine Or.inr (Or.inl ⟨_, active_of_sender hgetting (by simp) (by simp), ?_,
            by rw [hgetting]; rfl, ?_, rfl⟩)
          · split
            · rfl
            · rfl
          · split
            · simp
            · simp
      · next hgetting _ =>
          cases h
          exact Or.inl ⟨active_of_sender hgetting (by simp) (by simp), Or.inr ⟨_, rfl⟩⟩
      · cases h
  | senderHandsOver =>
      simp only [childStep] at h
      split at h
      · next frame hholding =>
          cases h
          exact Or.inr (Or.inr (Or.inr (Or.inl ⟨frame, hholding, rfl⟩)))
      · cases h
  | senderSent =>
      simp only [childStep] at h
      split at h
      · next hsending =>
          cases h
          exact Or.inr (Or.inl ⟨.checking, active_of_sender hsending (by simp) (by simp), rfl,
            by rw [hsending]; rfl, by simp, rfl⟩)
      · cases h
  | senderRaises e =>
      have hraises : (if e.isException then
          some (if e = .timeoutError then s.senderReturns .cannotKeepUp else s.senderFails e)
            else none) = some s' →
          (∃ close, s' = s.senderReturns close) ∨ ∃ e, s' = s.senderFails e := by
        intro h
        rw [Option.ite_none_right_eq_some] at h
        cases h.2
        split
        · exact Or.inl ⟨_, rfl⟩
        · exact Or.inr ⟨_, rfl⟩
      simp only [childStep] at h
      split at h
      · next hholding =>
          exact Or.inl ⟨active_of_sender hholding (by simp) (by simp), hraises h⟩
      · next hsending =>
          exact Or.inl ⟨active_of_sender hsending (by simp) (by simp), hraises h⟩
      · cases h
  | receiverDisconnected =>
      simp only [childStep] at h
      split at h
      · next hwaiting =>
          cases h
          exact Or.inr (Or.inr (Or.inr (Or.inr (Or.inl ⟨hwaiting, rfl⟩))))
      · cases h
  | receiverRaises e =>
      simp only [childStep] at h
      split at h
      · next hwaiting =>
          rw [Option.ite_none_right_eq_some] at h
          cases h.2
          exact Or.inr (Or.inr (Or.inr (Or.inr (Or.inr (Or.inl ⟨hwaiting, rfl⟩)))))
      · cases h
  | watcherWakes =>
      simp only [childStep] at h
      split at h
      · next hwaiting =>
          rw [Option.ite_none_right_eq_some] at h
          cases h.2
          exact Or.inr (Or.inr (Or.inr (Or.inr (Or.inr (Or.inr
            (Or.inl ⟨hwaiting, h.1, rfl⟩))))))
      · cases h
  | cancelled child =>
      simp only [childStep, Option.ite_none_right_eq_some] at h
      exact Or.inr (Or.inr (Or.inr (Or.inr (Or.inr (Or.inr (Or.inr ⟨child, h⟩))))))

/-- Everything the cancellation of a child task can do. -/
theorem childCancelled_cases {child : Child} (h : s.childCancelled child = some s') :
    (s.Active ∧ s' = { s with sender := .done none, finished := true }) ∨
      (s.receiver = .waiting ∧ s' = { s with receiver := .done false, finished := true }) ∨
      (s.watcher = .waiting ∧ s' = { s with watcher := .done false }) := by
  cases child with
  | sender =>
      simp only [childCancelled] at h
      split at h
      · cases h
      · cases h
      · next hstarted hdone =>
          cases h
          exact Or.inl ⟨⟨hstarted, hdone⟩, rfl⟩
  | receiver =>
      simp only [childCancelled] at h
      split at h
      · next hwaiting =>
          cases h
          exact Or.inr (Or.inl ⟨hwaiting, rfl⟩)
      · cases h
  | watcher =>
      simp only [childCancelled] at h
      split at h
      · next hwaiting =>
          cases h
          exact Or.inr (Or.inr ⟨hwaiting, rfl⟩)
      · cases h

/-- What a step of a child task leaves as it is. -/
structure ChildFrame (s s' : Stream) : Prop where
  handler : s'.handler = s.handler
  acquired : s'.acquired = s.acquired
  requested : s'.requested = s.requested
  overflow : s'.overflow = s.overflow
  dispatched : s'.dispatched = s.dispatched
  closes : s'.closes = s.closes

/-- A sender that fails has the frame. -/
theorem senderFails_frame (s : Stream) (e : PyException) : ChildFrame s (s.senderFails e) := by
  unfold senderFails
  split
  · exact ⟨rfl, rfl, rfl, rfl, rfl, rfl⟩
  · exact ⟨rfl, rfl, rfl, rfl, rfl, rfl⟩

/-- A step of a child task has the frame. -/
theorem childStep_frame {l : ChildStep} (h : s.childStep now l = some s') : ChildFrame s s' := by
  rcases childStep_cases h with ⟨_, ⟨_, rfl⟩ | ⟨e, rfl⟩⟩ | ⟨_, _, _, _, _, rfl⟩ |
    ⟨_, _, _, _, rfl⟩ | ⟨_, _, rfl⟩ | ⟨_, rfl⟩ | ⟨_, rfl⟩ | ⟨_, _, rfl⟩ | ⟨_, _, hcancelled⟩
  · exact ⟨rfl, rfl, rfl, rfl, rfl, rfl⟩
  · exact senderFails_frame s e
  · exact ⟨rfl, rfl, rfl, rfl, rfl, rfl⟩
  · exact ⟨rfl, rfl, rfl, rfl, rfl, rfl⟩
  · exact ⟨rfl, rfl, rfl, rfl, rfl, rfl⟩
  · exact ⟨rfl, rfl, rfl, rfl, rfl, rfl⟩
  · exact ⟨rfl, rfl, rfl, rfl, rfl, rfl⟩
  · exact ⟨rfl, rfl, rfl, rfl, rfl, rfl⟩
  · rcases childCancelled_cases hcancelled with ⟨_, rfl⟩ | ⟨_, rfl⟩ | ⟨_, rfl⟩
    · exact ⟨rfl, rfl, rfl, rfl, rfl, rfl⟩
    · exact ⟨rfl, rfl, rfl, rfl, rfl, rfl⟩
    · exact ⟨rfl, rfl, rfl, rfl, rfl, rfl⟩

/-- What a packet can do to a stream. -/
theorem wsCallback_cases (topicMatchesSub : PyStr → PyStr → Bool) (settings : Settings)
    (now : ℚ) (message : ReceivedMessage) (s : Stream) :
    wsCallback topicMatchesSub settings now message s = s ∨
      ((s.requested.any fun pattern => topicMatchesSub pattern message.topic) = true ∧
        message.payload.length ≤ settings.maxMessageBytes ∧
        ((s.messageQueue.length < settings.websocketQueueSize ∧
            wsCallback topicMatchesSub settings now message s =
              { s with
                dispatched := s.dispatched ++ [MQTTMessage.ofReceived now message]
                messageQueue := s.messageQueue ++ [MQTTMessage.ofReceived now message] }) ∨
          (settings.websocketQueueSize ≤ s.messageQueue.length ∧
            wsCallback topicMatchesSub settings now message s =
              { s with
                dispatched := s.dispatched ++ [MQTTMessage.ofReceived now message]
                overflow := true }))) := by
  unfold wsCallback
  cases hany : s.requested.any fun pattern => topicMatchesSub pattern message.topic with
  | false => exact Or.inl rfl
  | true =>
      by_cases hlong : settings.maxMessageBytes < message.payload.length
      · refine Or.inl ?_
        simp [hlong]
      · refine Or.inr ⟨rfl, Nat.le_of_not_lt hlong, ?_⟩
        by_cases hroom : s.messageQueue.length < settings.websocketQueueSize
        · refine Or.inl ⟨hroom, ?_⟩
          simp [hlong, Queue.putNowait_run_of_lt hroom]
        · refine Or.inr ⟨Nat.le_of_not_lt hroom, ?_⟩
          simp [hlong, Queue.putNowait_run_of_full settings.websocketQueueSize_pos
            (Nat.le_of_not_lt hroom)]

/-! ## The topics of a stream -/

/-- Every topic a stream names has passed the ACL as a subscription. -/
structure Authorized (topicMatchesSub : PyStr → PyStr → Bool) (settings : Settings)
    (s : Stream) : Prop where
  requested : ∀ topic ∈ s.requested, authorizeTopic topicMatchesSub topic settings true = .ok ()
  acquired : ∀ topic ∈ s.acquired, authorizeTopic topicMatchesSub topic settings true = .ok ()
  toAcquire : ∀ topic ∈ toAcquire s.handler,
    authorizeTopic topicMatchesSub topic settings true = .ok ()
  toRelease : ∀ topic ∈ toRelease s.handler,
    authorizeTopic topicMatchesSub topic settings true = .ok ()

/-- An unused connection has no filters. -/
theorem authorized_initial : Authorized topicMatchesSub settings initial := by
  constructor <;> intro topic h <;> cases h

/-- The checks of the requested filters authorize each of them. -/
theorem authorizeTopic_of_checkTopics {requested : List PyStr}
    (h : checkTopics topicMatchesSub settings requested = .ok ()) {topic : PyStr}
    (hmem : topic ∈ requested) : authorizeTopic topicMatchesSub topic settings true = .ok () := by
  unfold checkTopics at h
  split at h
  · cases h
  · exact forM_eq_ok h hmem

/-- A step that only moves the handler keeps the topics authorized. -/
theorem Authorized.frame (h : Authorized topicMatchesSub settings s)
    (hframe : HandlerFrame topicMatchesSub settings s s') :
    Authorized topicMatchesSub settings s' := by
  refine ⟨?_, ?_, ?_, ?_⟩
  · intro topic hmem
    rcases hframe.requested with hsame | hcheck
    · rw [hsame] at hmem
      exact h.requested topic hmem
    · exact authorizeTopic_of_checkTopics hcheck hmem
  · rw [hframe.acquired]
    exact h.acquired
  · intro topic hmem
    exact h.toAcquire topic (hframe.moves.toAcquire hmem)
  · rw [hframe.moves.toRelease]
    exact h.toRelease

/-- A packet adds no filter. -/
theorem Authorized.wsCallback (h : Authorized topicMatchesSub settings s)
    (message : ReceivedMessage) :
    Authorized topicMatchesSub settings (wsCallback topicMatchesSub settings now message s) := by
  rcases wsCallback_cases topicMatchesSub settings now message s with
    heq | ⟨_, _, ⟨_, heq⟩ | ⟨_, heq⟩⟩
  · rw [heq]
    exact h
  · rw [heq]
    exact { h with }
  · rw [heq]
    exact { h with }

/-- Every step of a stream keeps its topics authorized. -/
theorem Authorized.step (h : Authorized topicMatchesSub settings s) {l : StreamStep}
    (hstep : s.step topicMatchesSub settings jwtDecode id now hub l = some (hub', s')) :
    Authorized topicMatchesSub settings s' := by
  rcases step_cases hstep with ⟨_, _, hlocal, _⟩ | ⟨_, _, hlocal, _⟩ | ⟨_, _, _, rfl⟩ |
    ⟨_, topic, rest, _, hhandler, _, ⟨_, rfl⟩ | ⟨e, _, rfl⟩⟩ | ⟨_, _, _, _, rfl⟩ |
    ⟨_, topic, rest, _, _, hhandler, _, ⟨_, rfl⟩ | ⟨e, _, rfl⟩⟩
  · exact h.frame (handlerStep_frame hlocal)
  · have hframe := childStep_frame hlocal
    refine ⟨?_, ?_, ?_, ?_⟩
    · rw [hframe.requested]
      exact h.requested
    · rw [hframe.acquired]
      exact h.acquired
    · rw [hframe.handler]
      exact h.toAcquire
    · rw [hframe.handler]
      exact h.toRelease
  · exact ⟨h.requested, h.acquired, h.requested, fun _ hmem => absurd hmem List.not_mem_nil⟩
  · have htodo := h.toAcquire
    rw [hhandler] at htodo
    refine ⟨h.requested, ?_, ?_, fun _ hmem => absurd hmem List.not_mem_nil⟩
    · intro t hmem
      rcases List.mem_append.mp hmem with hmem | hmem
      · exact h.acquired t hmem
      · rw [List.mem_singleton] at hmem
        rw [hmem]
        exact htodo topic List.mem_cons_self
    · intro t hmem
      exact htodo t (List.mem_cons_of_mem _ hmem)
  · exact h.frame (fail_frame topicMatchesSub settings (by rw [hhandler]; rfl) e)
  · exact ⟨h.requested, h.acquired, fun _ hmem => absurd hmem List.not_mem_nil, h.acquired⟩
  · have htodo := h.toRelease
    rw [hhandler] at htodo
    refine ⟨h.requested, h.acquired, fun _ hmem => absurd hmem List.not_mem_nil, ?_⟩
    intro t hmem
    exact htodo t (List.mem_cons_of_mem _ hmem)
  · have htodo := h.toRelease
    rw [hhandler] at htodo
    refine ⟨h.requested, h.acquired, ?_, ?_⟩
    · intro t hmem
      dsimp only at hmem
      split at hmem <;> cases hmem
    · intro t hmem
      dsimp only at hmem
      split at hmem
      · exact htodo t (List.mem_cons_of_mem _ hmem)
      · cases hmem

/-! ## The footprint of a stream -/

/-- The footprint of a stream follows its handler. -/
theorem footprint_step {l : StreamStep}
    (h : s.step topicMatchesSub settings jwtDecode id now hub l = some (hub', s'))
    (hdocumented : l.Documented) (hauthorized : Authorized topicMatchesSub settings s)
    (hfoot : hub.Footprint (.websocket id) (registered s.handler) s.mayHold) :
    hub'.Footprint (.websocket id) (registered s'.handler) s'.mayHold := by
  unfold mayHold at hfoot
  rcases step_cases h with ⟨_, _, hlocal, rfl⟩ | ⟨_, _, hlocal, rfl⟩ | ⟨_, hhandler, rfl, rfl⟩ |
    ⟨paho, topic, rest, _, hhandler, rfl, ⟨_, rfl⟩ | ⟨e, herror, rfl⟩⟩ |
    ⟨_, _, hhandler, rfl, rfl⟩ | ⟨paho, topic, rest, _, rfl, hhandler, rfl, hresult⟩
  · have hframe := handlerStep_frame hlocal
    rw [mayHold, hframe.moves.registered, hframe.moves.toRelease, hframe.acquired]
    exact hfoot
  · have hframe := childStep_frame hlocal
    rw [mayHold, hframe.handler, hframe.acquired]
    exact hfoot
  · rw [hhandler] at hfoot
    exact (hfoot.add rfl).mono (List.nil_subset _)
  · rw [hhandler] at hfoot
    exact hfoot.acquire paho topic 0 false
  · have hframe := fail_frame topicMatchesSub settings (by rw [hhandler]; rfl) e
    rw [mayHold, hframe.moves.registered, hframe.moves.toRelease, hframe.acquired]
    exact hfoot.acquire_error herror
  · rw [hhandler] at hfoot
    exact hfoot.remove rfl
  · rw [hhandler] at hfoot
    have hreleased := Hub.Footprint.release hfoot paho
    have htopic : topic ≠ [] := by
      apply ne_nil_of_authorizeTopic (hauthorized.toRelease topic ?_)
      rw [hhandler]
      exact List.mem_cons_self
    have hok : (hub.release paho topic (.websocket id)).1 = .ok () :=
      MQTTService.releaseSubscription_ok (hdocumented topic htopic) _ _
    rcases hresult with ⟨_, rfl⟩ | ⟨e, herror, _⟩
    · exact hreleased
    · rw [hok] at herror
      cases herror

end Stream

end MqttGateway
