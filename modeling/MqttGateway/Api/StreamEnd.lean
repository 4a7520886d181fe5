import MqttGateway.Api.StreamOrder

/-!
# The end of a stream

A connection that has dropped a packet ends with a close frame, or its client has gone, or
its handler raises.  Once its task group has ended quietly, one of the tasks has ended
first and has left the reason.

Main results:

- Theorem {lit}`handlerStep_ends`: how the handler enters and leaves the task group.
- Theorem {lit}`Ending.step`: a connection that has dropped a packet does not end in silence.
-/

namespace MqttGateway

open Toolkit

namespace Stream

variable {topicMatchesSub : PyStr → PyStr → Bool} {settings : Settings}
  {jwtDecode : PyStr → Except PyException Claims} {id : Nat} {now : ℚ} {hub hub' : Hub}
  {s s' : Stream}

/-- The handler has left the task group and no exception is on its way. -/
def quiet : HandlerActivity → Bool
  | .closing | .closingUnavailable => true
  | .unregistering e | .releasing _ e | .finished e => e.isNone
  | .idle | .acceptingForAuth | .awaitingAuth | .rejecting _ | .accepting | .registering
  | .acquiring _ | .awaitingReady | .streaming | .joining _ => false

/-- The filters of the client have not been accepted. -/
def unasked : HandlerActivity → Bool
  | .idle | .acceptingForAuth | .awaitingAuth | .rejecting _ => true
  | .accepting | .registering | .acquiring _ | .awaitingReady | .streaming | .joining _
  | .closing | .closingUnavailable | .unregistering _ | .releasing _ _ | .finished _ => false

/-! ## The handler -/

/-- How a step of the handler outside the hub brings the connection to its end. -/
structure HandlerEnds (s s' : Stream) : Prop where
  closes : s.closes ⊆ s'.closes
  unasked : unasked s'.handler = true → unasked s.handler = true ∧ s'.requested = s.requested
  streaming : s'.handler = .streaming → s.handler = .awaitingReady ∧ s'.watcher = .waiting
  joining : s'.handler = .joining none → s.handler = .streaming ∧ s.finished = true
  quiet : quiet s'.handler = true → s'.requested = s.requested ∧
    (quiet s.handler = true ∨ Stream.unasked s.handler = true ∨
      .streamUnavailable ∈ s'.closes ∨ (s.handler = .joining none ∧ s' = s.leaveGroup none))

/-- An exception ends a connection aloud, or goes on its way. -/
theorem fail_ends (s : Stream) (e : PyException) : HandlerEnds s (s.fail e) := by
  unfold fail
  split
  · refine ⟨List.subset_append_left _ _, ?_, ?_, ?_, ?_⟩ <;> simp [unasked]
  · refine ⟨List.Subset.refl _, ?_, ?_, ?_, ?_⟩ <;> simp [unasked, quiet]

/-- The gate ends a connection that has not been asked, or lets it go on. -/
theorem gate_ends (topicMatchesSub : PyStr → PyStr → Bool) (settings : Settings)
    (jwtDecode : PyStr → Except PyException Claims) {s : Stream}
    (hunasked : unasked s.handler = true) (token : Json) :
    HandlerEnds s (gate topicMatchesSub settings jwtDecode token s) := by
  rcases gate_cases topicMatchesSub settings jwtDecode token s with
    ⟨close, hgate⟩ | ⟨e, hgate⟩ | ⟨claims, _, hcheck, hgate⟩
  · rw [hgate]
    refine ⟨List.subset_append_left _ _, ?_, ?_, ?_, ?_⟩ <;> simp [reject, hunasked, quiet]
  · rw [hgate]
    refine ⟨List.Subset.refl _, ?_, ?_, ?_, ?_⟩ <;> simp [unasked, quiet]
  · rw [hgate]
    refine ⟨List.Subset.refl _, ?_, ?_, ?_, ?_⟩ <;> cases s.accepted <;> simp [unasked, quiet]

/-- The end of the task group closes the connection, or its reason has been left before. -/
theorem leaveGroup_ends (hjoining : s.handler = .joining none) :
    HandlerEnds s (s.leaveGroup none) := by
  have hloud : s.closes ⊆ (s.leaveGroup none).closes ∧
      unasked (s.leaveGroup none).handler = false ∧
      (s.leaveGroup none).handler ≠ .streaming ∧ (s.leaveGroup none).handler ≠ .joining none ∧
      (s.leaveGroup none).requested = s.requested := by
    unfold leaveGroup
    split
    · next e _ _ =>
        unfold fail
        split <;> simp [unasked]
    · simp [unasked]
    · simp [unasked]
  refine ⟨hloud.1, ?_, fun h => absurd h hloud.2.2.1, fun h => absurd h hloud.2.2.2.1, ?_⟩
  · intro h
    rw [hloud.2.1] at h
    cases h
  · exact fun _ => ⟨hloud.2.2.2.2, Or.inr (Or.inr (Or.inr ⟨hjoining, rfl⟩))⟩

/-- How a move of the handler brings the connection to its end. -/
theorem OnlyGoes.ends (h : s.OnlyGoes s') : HandlerEnds s s' := by
  rcases h with ⟨target, closes, hgoes, hcloses, rfl⟩
  generalize hsource : s.handler = source at hgoes
  refine ⟨hcloses, ?_, ?_, ?_, ?_⟩
  · cases hgoes <;> simp [Stream.unasked, hsource]
  · cases hgoes <;> simp
  · cases hgoes <;> simp
  · cases hgoes <;> simp +contextual [Stream.quiet, Stream.unasked, hsource]

/-- How every step of the handler outside the hub brings the connection to its end. -/
theorem handlerStep_ends {l : HandlerStep}
    (h : s.handlerStep topicMatchesSub settings jwtDecode now l = some s') :
    HandlerEnds s s' := by
  rcases handlerStep_cases h with ⟨token, t, _, ⟨hidle, topics, rfl⟩ | ⟨hawaiting, rfl⟩, rfl⟩ |
    ⟨topics, hidle, rfl⟩ | ⟨hhandler, rfl⟩ | ⟨hhandler, rfl⟩ | ⟨hhandler, rfl⟩ |
    ⟨hhandler, hfinished, rfl⟩ | ⟨hhandler, rfl⟩ | ⟨e, _, rfl⟩ | hgoes
  · let t : Stream := { s with topics }
    have ht : unasked t.handler = true := by
      change unasked s.handler = true
      rw [hidle]
      rfl
    have hends := gate_ends topicMatchesSub settings jwtDecode ht token
    refine ⟨hends.closes, hends.unasked, hends.streaming, hends.joining, ?_⟩
    exact fun h => ⟨(hends.quiet h).1, Or.inr (Or.inl ht)⟩
  · exact gate_ends topicMatchesSub settings jwtDecode (by rw [hawaiting]; rfl) token
  · constructor <;> simp [unasked, quiet, hidle]
  · constructor <;> simp [unasked, quiet, hhandler]
  · constructor <;> simp [unasked, quiet]
  · constructor <;> simp [unasked, quiet, hhandler]
  · constructor <;> simp [unasked, quiet, hhandler, hfinished]
  · exact leaveGroup_ends hhandler
  · exact fail_ends s e
  · exact hgoes.ends

/-! ## The child tasks -/

/-- What has made the handler leave its task group: a task has failed, has left a close message,
or has seen the client go. -/
def Caused (s : Stream) : Prop :=
  s.childFailed = true ∨ s.closeMessage ≠ none ∨ s.receiver = .done true

/-- How a step of a child task brings the connection to its end. -/
structure ChildEnds (s s' : Stream) : Prop where
  sender : ∀ result, s.sender = .done result → s'.sender = .done result
  receiver : ∀ disconnected, s.receiver = .done disconnected → s'.receiver = .done disconnected
  closeMessage : s'.closeMessage = s.closeMessage ∨ s'.closeMessage = some .cannotKeepUp ∨
    ∃ close, s'.closeMessage = some close ∧ s'.sender = .done (some close)
  childFailed : s.childFailed = true → s'.childFailed = true
  failed : s'.childFailed = true → s.childFailed = true ∨ s'.finished = true
  keeps : s.finished = true → s'.finished = true
  finished : s'.finished = true →
    s.finished = true ∨ s'.Caused ∨ ∃ exception, s.handler = .joining exception
  watcher : s.watcher = .waiting → s'.watcher = .waiting ∨ s'.finished = true ∨
    s.childFailed = true ∨ ∃ exception, s.handler = .joining exception

/-- A sender that returns leaves its close message. -/
theorem senderReturns_ends (hrunning : s.Running) (close : CloseFrame) :
    ChildEnds s (s.senderReturns close) where
  sender result h := absurd h (hrunning result)
  receiver _ h := h
  closeMessage := Or.inr (Or.inr ⟨close, rfl, rfl⟩)
  childFailed h := h
  failed := Or.inl
  keeps _ := rfl
  finished _ := Or.inr (Or.inl (Or.inr (Or.inl (Option.some_ne_none close))))
  watcher := Or.inl

/-- A sender that fails leaves a close message or the failure of the group. -/
theorem senderFails_ends (hrunning : s.Running) (e : PyException) :
    ChildEnds s (s.senderFails e) := by
  unfold senderFails
  split
  · exact senderReturns_ends hrunning _
  · exact ⟨fun result h => absurd h (hrunning result), fun _ h => h, Or.inl rfl, fun _ => rfl,
      fun _ => Or.inr rfl, fun _ => rfl, fun _ => Or.inr (Or.inl (Or.inl rfl)), Or.inl⟩

/-- A child task is cancelled only if the task group is being left. -/
theorem childCancelled_ends {child : Child} (hcancelling : s.cancelling = true)
    (h : s.childCancelled child = some s') : ChildEnds s s' := by
  have hcause : s.childFailed = true ∨ ∃ exception, s.handler = .joining exception := by
    simp only [cancelling, Bool.or_eq_true] at hcancelling
    rcases hcancelling with hfailed | hjoining
    · exact Or.inl hfailed
    · split at hjoining
      · next exception hhandler => exact Or.inr ⟨exception, hhandler⟩
      · cases hjoining
  have hfinished : ∀ t : Stream, t.childFailed = s.childFailed →
      t.Caused ∨ ∃ exception, s.handler = .joining exception := by
    intro t ht
    rcases hcause with hfailed | hjoining
    · exact Or.inl (Or.inl (ht.trans hfailed))
    · exact Or.inr hjoining
  rcases childCancelled_cases h with ⟨hactive, rfl⟩ | ⟨hwaiting, rfl⟩ | ⟨_, rfl⟩
  · exact ⟨fun result hdone => absurd hdone (hactive.running result), fun _ h => h, Or.inl rfl,
      fun h => h, Or.inl, fun _ => rfl, fun _ => Or.inr (hfinished _ rfl), Or.inl⟩
  · exact ⟨fun _ h => h, fun _ hdone => absurd (hwaiting.symm.trans hdone) (by simp), Or.inl rfl,
      fun h => h, Or.inl, fun _ => rfl, fun _ => Or.inr (hfinished _ rfl), Or.inl⟩
  · exact ⟨fun _ h => h, fun _ h => h, Or.inl rfl, fun h => h, Or.inl, fun h => h, Or.inl,
      fun _ => Or.inr (Or.inr hcause)⟩

/-- How every step of a child task brings the connection to its end. -/
theorem childStep_ends {l : ChildStep} (h : s.childStep now l = some s') : ChildEnds s s' := by
  have hkept : s.Running → ∀ t : Stream, t.receiver = s.receiver →
      t.closeMessage = s.closeMessage → t.childFailed = s.childFailed →
      t.finished = s.finished → t.watcher = s.watcher → ChildEnds s t := by
    intro hrunning t hreceiver hclose hfailed hfinished hwatcher
    refine ⟨fun result h => absurd h (hrunning result), ?_, Or.inl hclose, ?_, ?_, ?_, ?_, ?_⟩
    · rw [hreceiver]
      exact fun _ h => h
    · rw [hfailed]
      exact fun h => h
    · rw [hfailed]
      exact Or.inl
    · rw [hfinished]
      exact fun h => h
    · rw [hfinished]
      exact Or.inl
    · rw [hwatcher]
      exact Or.inl
  rcases childStep_cases h with ⟨hactive, ⟨close, rfl⟩ | ⟨e, rfl⟩⟩ | ⟨_, hactive, _, _, _, rfl⟩ |
    ⟨_, _, hgetting, _, rfl⟩ | ⟨_, hholding, rfl⟩ | ⟨hwaiting, rfl⟩ | ⟨hwaiting, rfl⟩ |
    ⟨_, _, rfl⟩ | ⟨_, hcancelling, hcancelled⟩
  · exact senderReturns_ends hactive.running close
  · exact senderFails_ends hactive.running e
  · exact hkept hactive.running _ rfl rfl rfl rfl rfl
  · exact hkept (running_of_sender hgetting (by simp)) _ rfl rfl rfl rfl rfl
  · exact hkept (running_of_sender hholding (by simp)) _ rfl rfl rfl rfl rfl
  · refine ⟨fun _ h => h, ?_, Or.inl rfl, fun h => h, Or.inl, fun _ => rfl, ?_, Or.inl⟩
    · exact fun _ hdone => absurd (hwaiting.symm.trans hdone) (by simp)
    · exact fun _ => Or.inr (Or.inl (Or.inr (Or.inr rfl)))
  · refine ⟨fun _ h => h, ?_, Or.inl rfl, fun _ => rfl, fun _ => Or.inr rfl, fun _ => rfl, ?_,
      Or.inl⟩
    · exact fun _ hdone => absurd (hwaiting.symm.trans hdone) (by simp)
    · exact fun _ => Or.inr (Or.inl (Or.inl rfl))
  · refine ⟨fun _ h => h, fun _ h => h, Or.inr (Or.inl rfl), fun h => h, Or.inl, fun _ => rfl, ?_,
      fun _ => Or.inr (Or.inl rfl)⟩
    exact fun _ => Or.inr (Or.inl (Or.inr (Or.inl (Option.some_ne_none _))))
  · exact childCancelled_ends hcancelling hcancelled

/-- A close frame or the client's own end tells that the stream is over: the client has been told
that it cannot keep up, or the sender had a reason of its own to close, or the connection
was unavailable, or the client had gone. -/
def Noticed (s : Stream) : Prop :=
  .cannotKeepUp ∈ s.closes ∨ (∃ close ∈ s.closes, s.sender = .done (some close)) ∨
    .streamUnavailable ∈ s.closes ∨ s.receiver = .done true

/-- How a connection comes to its end. -/
structure Ending (s : Stream) : Prop where
  fresh : s.Fresh
  unasked : unasked s.handler = true → s.requested = []
  overflow : s.requested = [] → s.overflow = false
  closeMessage : ∀ close, s.closeMessage = some close →
    close = .cannotKeepUp ∨ s.sender = .done (some close)
  failed : s.childFailed = true → s.finished = true
  watching : s.handler = .streaming → s.watcher = .waiting ∨ s.finished = true
  streaming : s.handler = .streaming → s.finished = true → s.Caused
  joining : s.handler = .joining none → s.Caused
  noticed : quiet s.handler = true → s.requested = [] ∨ s.Noticed

/-- What a client has noticed does not become unnoticed. -/
theorem Noticed.mono (h : s.Noticed) (hcloses : s.closes ⊆ s'.closes)
    (hsender : ∀ result, s.sender = .done result → s'.sender = .done result)
    (hreceiver : ∀ disconnected, s.receiver = .done disconnected →
      s'.receiver = .done disconnected) : s'.Noticed := by
  rcases h with hslow | ⟨close, hmem, hdone⟩ | hunavailable | hgone
  · exact Or.inl (hcloses hslow)
  · exact Or.inr (Or.inl ⟨close, hcloses hmem, hsender _ hdone⟩)
  · exact Or.inr (Or.inr (Or.inl (hcloses hunavailable)))
  · exact Or.inr (Or.inr (Or.inr (hreceiver _ hgone)))

/-- A handler that leaves the task group for a cause and quietly tells the client. -/
theorem Ending.noticed_leaveGroup (h : s.Ending) (hcaused : s.Caused)
    (hquiet : quiet (s.leaveGroup none).handler = true) : (s.leaveGroup none).Noticed := by
  unfold leaveGroup at hquiet ⊢
  cases hfailed : s.childFailed with
  | true =>
      rw [hfailed] at hquiet
      simp [fail, unavailable, quiet] at hquiet
  | false =>
      cases hclose : s.closeMessage with
      | some close =>
          rcases h.closeMessage close hclose with rfl | hdone
          · exact Or.inl (List.mem_append_right _ (List.mem_singleton_self _))
          · exact Or.inr (Or.inl
              ⟨close, List.mem_append_right _ (List.mem_singleton_self _), hdone⟩)
      | none =>
          rcases hcaused with hcaused | hcaused | hgone
          · rw [hfailed] at hcaused
            cases hcaused
          · exact absurd hclose hcaused
          · exact Or.inr (Or.inr (Or.inr hgone))

/-- A step of the handler keeps the way the connection comes to its end. -/
theorem Ending.handlerStep (h : s.Ending) (hframe : HandlerFrame topicMatchesSub settings s s')
    (hends : HandlerEnds s s') : s'.Ending := by
  have hdone : (∀ result, s.sender = .done result → s'.sender = .done result) ∧
      ∀ disconnected, s.receiver = .done disconnected → s'.receiver = .done disconnected := by
    rcases hframe.children with ⟨hsender, hreceiver, _⟩ | ⟨hawaiting, _⟩
    · rw [hsender, hreceiver]
      exact ⟨fun _ h => h, fun _ h => h⟩
    · rcases h.fresh (by rw [hawaiting]; rfl) with ⟨hsender, hreceiver, _⟩
      rw [hsender, hreceiver]
      refine ⟨?_, ?_⟩
      · intro _ hdone
        cases hdone
      · intro _ hdone
        cases hdone
  refine ⟨h.fresh.frame hframe, ?_, ?_, ?_, ?_, ?_, ?_, ?_, ?_⟩
  · intro hunasked
    rcases hends.unasked hunasked with ⟨hbefore, hrequested⟩
    rw [hrequested]
    exact h.unasked hbefore
  · intro hnone
    rw [hframe.overflow]
    rcases hframe.requested with hsame | hcheck
    · rw [hsame] at hnone
      exact h.overflow hnone
    · rw [hnone] at hcheck
      cases hcheck
  · intro close hclose
    rw [hframe.closeMessage] at hclose
    exact (h.closeMessage close hclose).imp_right (hdone.1 _)
  · rw [hframe.childFailed, hframe.finished]
    exact h.failed
  · exact fun hstreaming => Or.inl (hends.streaming hstreaming).2
  · intro hstreaming hfinished
    have hnot := (h.fresh (by rw [(hends.streaming hstreaming).1]; rfl)).2.2.2
    rw [hframe.finished, hnot] at hfinished
    cases hfinished
  · intro hjoining
    rcases hends.joining hjoining with ⟨hstreaming, hfinished⟩
    rcases h.streaming hstreaming hfinished with hfailed | hclose | hgone
    · exact Or.inl (hframe.childFailed.trans hfailed)
    · exact Or.inr (Or.inl (by rwa [hframe.closeMessage]))
    · exact Or.inr (Or.inr (hdone.2 _ hgone))
  · intro hquiet
    rcases hends.quiet hquiet with ⟨hsame, hbefore | hunasked | hunavailable | ⟨hjoining, rfl⟩⟩
    · rw [hsame]
      exact (h.noticed hbefore).imp_right fun h => h.mono hends.closes hdone.1 hdone.2
    · exact Or.inl (hsame.trans (h.unasked hunasked))
    · exact Or.inr (Or.inr (Or.inr (Or.inl hunavailable)))
    · exact Or.inr (h.noticed_leaveGroup (h.joining hjoining) hquiet)

/-- A step of a child task keeps the way the connection comes to its end. -/
theorem Ending.childStep (h : s.Ending) (hfresh : s'.Fresh) (hframe : ChildFrame s s')
    (hends : ChildEnds s s') : s'.Ending := by
  have hcaused : s.Caused → s'.Caused := by
    rintro (hfailed | hclose | hgone)
    · exact Or.inl (hends.childFailed hfailed)
    · rcases hends.closeMessage with hsame | hslow | ⟨close, hsome, _⟩
      · exact Or.inr (Or.inl (by rwa [hsame]))
      · exact Or.inr (Or.inl (by rw [hslow]; exact Option.some_ne_none _))
      · exact Or.inr (Or.inl (by rw [hsome]; exact Option.some_ne_none _))
    · exact Or.inr (Or.inr (hends.receiver _ hgone))
  refine ⟨hfresh, ?_, ?_, ?_, ?_, ?_, ?_, ?_, ?_⟩
  · rw [hframe.handler, hframe.requested]
    exact h.unasked
  · rw [hframe.requested, hframe.overflow]
    exact h.overflow
  · intro close hclose
    rcases hends.closeMessage with hsame | hslow | ⟨close', hsome, hdone⟩
    · rw [hsame] at hclose
      exact (h.closeMessage close hclose).imp_right (hends.sender _)
    · rw [hslow, Option.some.injEq] at hclose
      exact Or.inl hclose.symm
    · rw [hsome, Option.some.injEq] at hclose
      rw [← hclose]
      exact Or.inr hdone
  · intro hfailed
    exact (hends.failed hfailed).elim (fun h' => hends.keeps (h.failed h')) fun h' => h'
  · intro hstreaming
    rw [hframe.handler] at hstreaming
    rcases h.watching hstreaming with hwaiting | hfinished
    · rcases hends.watcher hwaiting with hwaits | hfinished | hfailed | ⟨exception, hjoining⟩
      · exact Or.inl hwaits
      · exact Or.inr hfinished
      · exact Or.inr (hends.keeps (h.failed hfailed))
      · rw [hstreaming] at hjoining
        cases hjoining
    · exact Or.inr (hends.keeps hfinished)
  · intro hstreaming hfinished
    rw [hframe.handler] at hstreaming
    rcases hends.finished hfinished with hbefore | hcause | ⟨exception, hjoining⟩
    · exact hcaused (h.streaming hstreaming hbefore)
    · exact hcause
    · rw [hstreaming] at hjoining
      cases hjoining
  · intro hjoining
    rw [hframe.handler] at hjoining
    exact hcaused (h.joining hjoining)
  · intro hquiet
    rw [hframe.handler] at hquiet
    rw [hframe.requested]
    have hcloses : s.closes ⊆ s'.closes := by
      rw [hframe.closes]
      exact List.Subset.refl _
    exact (h.noticed hquiet).imp_right fun h => h.mono hcloses hends.sender hends.receiver

/-- A move of the handler through the hub. -/
theorem Ending.move (h : s.Ending) {handler : HandlerActivity} {acquired : List PyStr}
    (hfresh : Fresh { s with handler, acquired }) (hunasked : Stream.unasked handler = false)
    (hstreaming : handler ≠ .streaming) (hjoining : handler ≠ .joining none)
    (hquiet : quiet handler = true → quiet s.handler = true) :
    Ending { s with handler, acquired } where
  fresh := hfresh
  unasked h := absurd (hunasked.symm.trans h) Bool.false_ne_true
  overflow := h.overflow
  closeMessage := h.closeMessage
  failed := h.failed
  watching h := absurd h hstreaming
  streaming h := absurd h hstreaming
  joining h := absurd h hjoining
  noticed hnow := (h.noticed (hquiet hnow)).imp_right fun h =>
    h.mono (List.Subset.refl _) (fun _ h => h) (fun _ h => h)

/-- Every step of a stream keeps the way it comes to its end. -/
theorem Ending.step (h : s.Ending) {l : StreamStep}
    (hstep : s.step topicMatchesSub settings jwtDecode id now hub l = some (hub', s')) :
    s'.Ending := by
  have hfresh := h.fresh.step hstep
  rcases step_cases hstep with ⟨_, _, hlocal, _⟩ | ⟨_, _, hlocal, _⟩ | ⟨_, _, _, rfl⟩ |
    ⟨_, _, _, _, hhandler, _, ⟨_, rfl⟩ | ⟨e, _, rfl⟩⟩ | ⟨_, _, hhandler, _, rfl⟩ |
    ⟨_, _, _, _, _, hhandler, _, ⟨_, rfl⟩ | ⟨e, _, rfl⟩⟩
  · exact h.handlerStep (handlerStep_frame hlocal) (handlerStep_ends hlocal)
  · exact h.childStep hfresh (childStep_frame hlocal) (childStep_ends hlocal)
  · exact h.move hfresh rfl (by simp) (by simp) (by simp [quiet])
  · exact h.move hfresh rfl (by simp) (by simp) (by simp [quiet])
  · have hframe := fail_frame topicMatchesSub settings (by rw [hhandler]; rfl) e
    exact h.handlerStep hframe (fail_ends s e)
  · refine h.move hfresh rfl (by simp) (by simp) ?_
    rw [hhandler]
    exact fun h => h
  · refine h.move hfresh rfl (by simp) (by simp) ?_
    rw [hhandler]
    exact fun h => h
  · cases hruntime : isRuntimeError e with
    | true =>
        rw [hruntime] at hfresh
        refine h.move hfresh rfl (by simp) (by simp) ?_
        rw [hhandler]
        exact fun h => h
    | false =>
        rw [hruntime] at hfresh
        exact h.move hfresh rfl (by simp) (by simp) (by simp [quiet])

/-- A packet keeps the way a stream comes to its end. -/
theorem Ending.wsCallback (h : s.Ending) (message : ReceivedMessage) :
    (wsCallback topicMatchesSub settings now message s).Ending := by
  have hasked : (s.requested.any fun pattern => topicMatchesSub pattern message.topic) = true →
      s.requested ≠ [] := by
    intro hmatch hnone
    rw [hnone] at hmatch
    cases hmatch
  rcases wsCallback_cases topicMatchesSub settings now message s with
    heq | ⟨hmatch, _, ⟨_, heq⟩ | ⟨_, heq⟩⟩
  · rw [heq]
    exact h
  · rw [heq]
    exact { h with }
  · rw [heq]
    exact { h with overflow := fun hnone => absurd hnone (hasked hmatch) }

end Stream

end MqttGateway
