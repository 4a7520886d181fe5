import MqttGateway.Api.StreamFrames

/-!
# The cleanup of a stream

Once one of its tasks has ended, a connection unwinds: the task group is cancelled and joined,
the connection is closed, the callback is removed and every acquired filter is released.  A
rank over the handler and the child tasks bounds the steps of this, whatever is raised on
the way, and some step is always enabled until the handler has finished.

Main results:

- Theorem {lit}`Unwinding.step`: no step of a connection raises its rank, and the ones of the
  cleanup lower it.
- Theorem {lit}`exists_unwinding_step`: the cleanup does not get stuck before the handler has
  finished.
- Theorem {lit}`Sized.unwindRank_le`: the rank is bounded by the number of filters a client may ask
  for.
-/

namespace MqttGateway

open Toolkit

/-- The steps of the cleanup. -/
def StreamStep.unwinds : StreamStep → Bool
  | .handler .wake | .handler .join | .handler .resume | .child (.cancelled _) | .unregister
  | .release _ => true
  | _ => false

namespace Stream

/-! ## The rank of the cleanup -/

/-- The handler has left the wait for the end of a task. -/
def leaving : HandlerActivity → Bool
  | .joining _ | .closing | .closingUnavailable | .unregistering _ | .releasing _ _
  | .finished _ => true
  | .idle | .acceptingForAuth | .awaitingAuth | .rejecting _ | .accepting | .registering
  | .acquiring _ | .awaitingReady | .streaming => false

/-- A task of the group has ended, or the handler has left the wait for that. -/
def Unwinding (s : Stream) : Prop :=
  leaving s.handler = true ∨ s.handler = .streaming ∧ s.finished = true

instance (s : Stream) : Decidable s.Unwinding :=
  inferInstanceAs (Decidable (_ ∨ _))

def senderOpen : SenderActivity → Nat
  | .done _ => 0
  | .notStarted | .checking | .getting | .holding _ | .sending => 1

def receiverOpen : ReceiverActivity → Nat
  | .done _ => 0
  | .notStarted | .waiting => 1

def watcherOpen : WatcherActivity → Nat
  | .done _ => 0
  | .notStarted | .waiting => 1

/-- The child tasks that have not ended. -/
def openChildren (s : Stream) : Nat :=
  senderOpen s.sender + receiverOpen s.receiver + watcherOpen s.watcher

/-- How many steps a handler still takes in the cleanup, beside its child tasks. -/
def handlerRank (acquired : List PyStr) : HandlerActivity → Nat
  | .streaming => 6 + acquired.length
  | .joining _ => 5 + acquired.length
  | .closing => 4 + acquired.length
  | .closingUnavailable => 3 + acquired.length
  | .unregistering _ => 2 + acquired.length
  | .releasing todo _ => 1 + todo.length
  | .idle | .acceptingForAuth | .awaitingAuth | .rejecting _ | .accepting | .registering
  | .acquiring _ | .awaitingReady | .finished _ => 0

/-- A bound on the steps that the cleanup still takes. -/
def unwindRank (s : Stream) : Nat :=
  s.openChildren + handlerRank s.acquired s.handler

variable {topicMatchesSub : PyStr → PyStr → Bool} {settings : Settings}
  {jwtDecode : PyStr → Except PyException Claims} {id : Nat} {now : ℚ} {hub hub' : Hub}
  {s s' : Stream}

/-- The rank of a cleanup, by what the handler is doing. -/
theorem unwindRank_of_handler {activity : HandlerActivity} (hhandler : s.handler = activity) :
    s.unwindRank = s.openChildren + handlerRank s.acquired activity := by
  rw [unwindRank, hhandler]

/-- There is one sender. -/
theorem senderOpen_le (activity : SenderActivity) : senderOpen activity ≤ 1 := by
  cases activity <;> simp [senderOpen]

/-- A sender that runs is open. -/
theorem senderOpen_of_running (h : s.Running) : senderOpen s.sender = 1 := by
  cases hsender : s.sender with
  | done result => exact absurd hsender (h result)
  | notStarted | checking | getting | holding frame | sending => rfl

/-- There are three child tasks. -/
theorem openChildren_le (s : Stream) : s.openChildren ≤ 3 := by
  have hsender := senderOpen_le s.sender
  have hreceiver : receiverOpen s.receiver ≤ 1 := by
    cases s.receiver <;> simp [receiverOpen]
  have hwatcher : watcherOpen s.watcher ≤ 1 := by
    cases s.watcher <;> simp [watcherOpen]
  unfold openChildren
  omega

/-! ## The child tasks -/

/-- A child task that is cancelled has ended. -/
theorem openChildren_childCancelled {child : Child} (h : s.childCancelled child = some s') :
    s'.openChildren < s.openChildren := by
  rcases childCancelled_cases h with ⟨hactive, rfl⟩ | ⟨hwaiting, rfl⟩ | ⟨hwaiting, rfl⟩
  · have hopen := senderOpen_of_running hactive.running
    unfold openChildren
    rw [hopen]
    simp only [senderOpen]
    omega
  · simp only [openChildren, hwaiting, receiverOpen]
    omega
  · simp only [openChildren, hwaiting, watcherOpen]
    omega

/-- No child task starts again. -/
theorem openChildren_childStep {l : ChildStep} (h : s.childStep now l = some s') :
    s'.openChildren ≤ s.openChildren := by
  have hsender : s.Running → ∀ t : Stream, t.receiver = s.receiver → t.watcher = s.watcher →
      t.openChildren ≤ s.openChildren := by
    intro hrunning t hreceiver hwatcher
    have hopen := senderOpen_of_running hrunning
    have hle := senderOpen_le t.sender
    simp only [openChildren, hreceiver, hwatcher, hopen]
    omega
  rcases childStep_cases h with ⟨hactive, ⟨close, rfl⟩ | ⟨e, rfl⟩⟩ | ⟨_, hactive, _, _, _, rfl⟩ |
    ⟨_, _, hgetting, _, rfl⟩ | ⟨_, hholding, rfl⟩ | ⟨hwaiting, rfl⟩ | ⟨hwaiting, rfl⟩ |
    ⟨hwaiting, _, rfl⟩ | ⟨child, _, hcancelled⟩
  · exact hsender hactive.running _ rfl rfl
  · unfold senderFails
    split
    · exact hsender hactive.running _ rfl rfl
    · exact hsender hactive.running _ rfl rfl
  · exact hsender hactive.running _ rfl rfl
  · exact hsender (running_of_sender hgetting (by simp)) _ rfl rfl
  · exact hsender (running_of_sender hholding (by simp)) _ rfl rfl
  · simp [openChildren, hwaiting, receiverOpen]
  · simp [openChildren, hwaiting, receiverOpen]
  · simp [openChildren, hwaiting, watcherOpen]
  · exact Nat.le_of_lt (openChildren_childCancelled hcancelled)

/-- A step of a child task in the cleanup. -/
theorem Unwinding.childStep (h : s.Unwinding) {l : ChildStep}
    (hstep : s.childStep now l = some s') :
    s'.Unwinding ∧ s'.unwindRank ≤ s.unwindRank ∧
      ((StreamStep.child l).unwinds = true → s'.unwindRank < s.unwindRank) := by
  have hframe := childStep_frame hstep
  unfold unwindRank
  rw [hframe.handler, hframe.acquired]
  refine ⟨?_, ?_, ?_⟩
  · unfold Unwinding
    rw [hframe.handler]
    rcases h with hleaving | ⟨hstreaming, hfinished⟩
    · exact Or.inl hleaving
    · exact Or.inr ⟨hstreaming, (childStep_ends hstep).keeps hfinished⟩
  · have hopen := openChildren_childStep hstep
    omega
  · intro hunwinds
    cases l with
    | cancelled child =>
        simp only [Stream.childStep, Option.ite_none_right_eq_some] at hstep
        have hless := openChildren_childCancelled hstep.2
        omega
    | senderChecks | senderGets | senderTimesOut | senderHandsOver | senderSent | senderRaises e
    | receiverDisconnected | receiverRaises e | watcherWakes => cases hunwinds

/-! ## The handler -/

/-- The handler of a connection moves on, the child tasks as they are. -/
theorem unwinding_of_handler {activity : HandlerActivity} {n : Nat}
    (hleaving : leaving activity = true) (hrank : handlerRank s.acquired activity ≤ n)
    (closes : List CloseFrame) :
    Unwinding { s with handler := activity, closes } ∧
      unwindRank { s with handler := activity, closes } ≤ s.openChildren + n := by
  refine ⟨Or.inl hleaving, ?_⟩
  change s.openChildren + handlerRank s.acquired activity ≤ s.openChildren + n
  omega

/-- An exception brings a handler into its cleanup, or further in it. -/
theorem fail_unwinding (s : Stream) (e : PyException) :
    (s.fail e).Unwinding ∧ (s.fail e).unwindRank ≤ s.openChildren + (3 + s.acquired.length) := by
  unfold Stream.fail
  split
  · exact unwinding_of_handler rfl le_rfl _
  · exact unwinding_of_handler rfl (by simp [handlerRank]) _

/-- The end of the task group brings a handler further in its cleanup. -/
theorem leaveGroup_unwinding (s : Stream) (exception : Option PyException) :
    (s.leaveGroup exception).Unwinding ∧
      (s.leaveGroup exception).unwindRank ≤ s.openChildren + (4 + s.acquired.length) := by
  unfold Stream.leaveGroup
  split
  · rcases fail_unwinding s _ with ⟨hunwinding, hle⟩
    exact ⟨hunwinding, by omega⟩
  · exact unwinding_of_handler rfl le_rfl _
  · exact unwinding_of_handler rfl (by simp [handlerRank]) _

/-- No handler before the cleanup is in it. -/
theorem Unwinding.not_early (h : s.Unwinding) : early s.handler = false := by
  rcases h with hleaving | ⟨hstreaming, _⟩
  · cases hhandler : s.handler <;> first | rfl | simp [hhandler, leaving] at hleaving
  · rw [hstreaming]
    rfl

/-- What is awaited in the cleanup completes. -/
theorem Unwinding.handlerResumes (h : s.Unwinding) (hstep : s.handlerResumes = some s') :
    s'.Unwinding ∧ s'.unwindRank < s.unwindRank := by
  have hlate := h.not_early
  cases hhandler : s.handler with
  | idle | acceptingForAuth | awaitingAuth | rejecting suppress | accepting | registering
  | acquiring todo | awaitingReady =>
      rw [hhandler] at hlate
      cases hlate
  | closing | closingUnavailable =>
      simp only [Stream.handlerResumes, hhandler] at hstep
      cases hstep
      simp only [unwindRank, hhandler, handlerRank, openChildren]
      exact ⟨Or.inl rfl, by omega⟩
  | releasing todo e =>
      cases todo with
      | nil =>
          simp only [Stream.handlerResumes, hhandler] at hstep
          cases hstep
          simp only [unwindRank, hhandler, handlerRank, openChildren]
          exact ⟨Or.inl rfl, by simp⟩
      | cons topic todo =>
          simp only [Stream.handlerResumes, hhandler] at hstep
          cases hstep
  | streaming | joining e | unregistering e | finished e =>
      simp only [Stream.handlerResumes, hhandler] at hstep
      cases hstep

/-- An exception in the cleanup. -/
theorem Unwinding.handlerRaises (h : s.Unwinding) {e : PyException}
    (hstep : s.handlerRaises e = some s') :
    s'.Unwinding ∧ s'.unwindRank ≤ s.unwindRank := by
  have hlate := h.not_early
  cases hhandler : s.handler with
  | idle | acceptingForAuth | awaitingAuth | rejecting suppress | accepting | registering
  | acquiring todo | awaitingReady =>
      rw [hhandler] at hlate
      cases hlate
  | streaming | joining exception =>
      simp only [Stream.handlerRaises, hhandler, Option.ite_none_right_eq_some] at hstep
      cases hstep.2
      rw [unwindRank_of_handler hhandler]
      exact unwinding_of_handler rfl (by simp [handlerRank]) _
  | closing =>
      simp only [Stream.handlerRaises, hhandler] at hstep
      cases hstep
      rcases fail_unwinding s e with ⟨hunwinding, hle⟩
      rw [unwindRank_of_handler hhandler, handlerRank]
      exact ⟨hunwinding, by omega⟩
  | closingUnavailable =>
      simp only [Stream.handlerRaises, hhandler] at hstep
      cases hstep
      rw [unwindRank_of_handler hhandler]
      exact unwinding_of_handler rfl (by simp [handlerRank]) _
  | unregistering exception | releasing todo exception | finished exception =>
      simp only [Stream.handlerRaises, hhandler] at hstep
      cases hstep

/-- A step of the handler in the cleanup, outside the hub. -/
theorem Unwinding.handlerStep (h : s.Unwinding) {l : HandlerStep}
    (hstep : s.handlerStep topicMatchesSub settings jwtDecode now l = some s') :
    s'.Unwinding ∧ s'.unwindRank ≤ s.unwindRank ∧
      ((StreamStep.handler l).unwinds = true → s'.unwindRank < s.unwindRank) := by
  have hlate := h.not_early
  cases l with
  | connect header topics =>
      simp only [Stream.handlerStep] at hstep
      split at hstep
      · next hidle =>
          rw [hidle] at hlate
          cases hlate
      · next hidle =>
          rw [hidle] at hlate
          cases hlate
      · cases hstep
  | authFrame frame =>
      simp only [Stream.handlerStep] at hstep
      split at hstep
      · next hawaiting =>
          rw [hawaiting] at hlate
          cases hlate
      · cases hstep
  | resume =>
      rcases h.handlerResumes hstep with ⟨hunwinding, hless⟩
      exact ⟨hunwinding, Nat.le_of_lt hless, fun _ => hless⟩
  | raises e =>
      rcases h.handlerRaises hstep with ⟨hunwinding, hle⟩
      exact ⟨hunwinding, hle, by simp [StreamStep.unwinds]⟩
  | sendReady =>
      simp only [Stream.handlerStep] at hstep
      split at hstep
      · next hacquiring =>
          rw [hacquiring] at hlate
          cases hlate
      · cases hstep
  | wake =>
      simp only [Stream.handlerStep] at hstep
      split at hstep
      · next hhandler =>
          rw [Option.ite_none_right_eq_some] at hstep
          cases hstep.2
          simp only [unwindRank, hhandler, handlerRank, openChildren]
          exact ⟨Or.inl rfl, by omega, fun _ => by omega⟩
      · cases hstep
  | join =>
      simp only [Stream.handlerStep] at hstep
      split at hstep
      · next exception _ _ _ hhandler _ _ _ =>
          cases hstep
          rcases leaveGroup_unwinding s exception with ⟨hunwinding, hle⟩
          have hrank : s.unwindRank = s.openChildren + (5 + s.acquired.length) := by
            rw [unwindRank_of_handler hhandler, handlerRank]
          exact ⟨hunwinding, by omega, fun _ => by omega⟩
      · cases hstep

/-! ## Every step -/

/-- No step of a connection raises the rank of its cleanup, and the steps of the cleanup lower
it. -/
theorem Unwinding.step (h : s.Unwinding) {l : StreamStep}
    (hstep : s.step topicMatchesSub settings jwtDecode id now hub l = some (hub', s')) :
    s'.Unwinding ∧ s'.unwindRank ≤ s.unwindRank ∧
      (l.unwinds = true → s'.unwindRank < s.unwindRank) := by
  have hlate := h.not_early
  rcases step_cases hstep with ⟨l', rfl, hlocal, _⟩ | ⟨l', rfl, hlocal, _⟩ |
    ⟨_, hhandler, _⟩ | ⟨_, _, _, _, hhandler, _⟩ | ⟨e, rfl, hhandler, _, rfl⟩ |
    ⟨_, topic, todo, e, rfl, hhandler, _, hresult⟩
  · exact h.handlerStep hlocal
  · exact h.childStep hlocal
  · rw [hhandler] at hlate
    cases hlate
  · rw [hhandler] at hlate
    cases hlate
  · simp only [unwindRank, hhandler, handlerRank, openChildren]
    exact ⟨Or.inl rfl, by omega, fun _ => by omega⟩
  · have hrank : s.unwindRank = s.openChildren + (2 + todo.length) := by
      rw [unwindRank_of_handler hhandler, handlerRank, List.length_cons]
      omega
    have hnext : s'.Unwinding ∧ s'.unwindRank ≤ s.openChildren + (1 + todo.length) := by
      rcases hresult with ⟨_, rfl⟩ | ⟨e', _, rfl⟩
      · exact unwinding_of_handler rfl le_rfl _
      · cases isRuntimeError e' with
        | true => exact unwinding_of_handler rfl le_rfl _
        | false => exact unwinding_of_handler rfl (by simp [handlerRank]) _
    exact ⟨hnext.1, by omega, fun _ => by omega⟩

/-- A packet leaves the cleanup as it is. -/
theorem Unwinding.wsCallback (h : s.Unwinding) (message : ReceivedMessage) :
    (wsCallback topicMatchesSub settings now message s).Unwinding ∧
      (wsCallback topicMatchesSub settings now message s).unwindRank = s.unwindRank := by
  rcases wsCallback_cases topicMatchesSub settings now message s with
    heq | ⟨_, _, ⟨_, heq⟩ | ⟨_, heq⟩⟩
  · rw [heq]
    exact ⟨h, rfl⟩
  · rw [heq]
    exact ⟨h, rfl⟩
  · rw [heq]
    exact ⟨h, rfl⟩

/-! ## Progress -/

/-- The tasks of the group have started when the handler is in it. -/
def Started (s : Stream) : Prop :=
  grouped s.handler = true →
    s.sender ≠ .notStarted ∧ s.receiver ≠ .notStarted ∧ s.watcher ≠ .notStarted

/-- Outside its task group a handler has nothing to start. -/
theorem started_of_outside (houtside : grouped s.handler = false) : s.Started := by
  intro hgrouped
  rw [houtside] at hgrouped
  cases hgrouped

/-- A sender that fails has started. -/
theorem senderFails_started (s : Stream) (e : PyException) :
    (s.senderFails e).sender ≠ .notStarted := by
  unfold senderFails
  split
  · simp [senderReturns]
  · simp

/-- A sender that has started stays so. -/
theorem sender_childStep {l : ChildStep} (h : s.childStep now l = some s')
    (hstarted : s.sender ≠ .notStarted) : s'.sender ≠ .notStarted := by
  cases l with
  | senderChecks =>
      simp only [Stream.childStep] at h
      split at h
      · cases h
        split
        · simp [senderReturns]
        · simp
      · cases h
        exact senderFails_started s _
      · cases h
  | senderGets =>
      simp only [Stream.childStep] at h
      split at h
      · cases h
        simp
      · cases h
  | senderTimesOut =>
      simp only [Stream.childStep] at h
      split at h
      · cases h
        dsimp only
        split
        · simp
        · simp
      · cases h
        exact senderFails_started s _
      · cases h
  | senderHandsOver | senderSent =>
      simp only [Stream.childStep] at h
      split at h
      · cases h
        simp
      · cases h
  | senderRaises e =>
      have hraises : (if e.isException then
          some (if e = .timeoutError then s.senderReturns .cannotKeepUp else s.senderFails e)
            else none) = some s' → s'.sender ≠ .notStarted := by
        intro h
        rw [Option.ite_none_right_eq_some] at h
        cases h.2
        split
        · simp [senderReturns]
        · exact senderFails_started s e
      simp only [Stream.childStep] at h
      split at h
      · exact hraises h
      · exact hraises h
      · cases h
  | receiverDisconnected =>
      simp only [Stream.childStep] at h
      split at h
      · cases h
        exact hstarted
      · cases h
  | receiverRaises e =>
      simp only [Stream.childStep] at h
      split at h
      · rw [Option.ite_none_right_eq_some] at h
        cases h.2
        exact hstarted
      · cases h
  | watcherWakes =>
      simp only [Stream.childStep] at h
      split at h
      · rw [Option.ite_none_right_eq_some] at h
        cases h.2
        exact hstarted
      · cases h
  | cancelled child =>
      simp only [Stream.childStep, Option.ite_none_right_eq_some] at h
      rcases childCancelled_cases h.2 with ⟨_, rfl⟩ | ⟨_, rfl⟩ | ⟨_, rfl⟩
      · simp
      · exact hstarted
      · exact hstarted

/-- The receiver and the watcher only end. -/
theorem waiters_childStep {l : ChildStep} (h : s.childStep now l = some s') :
    (s'.receiver = s.receiver ∨ ∃ disconnected, s'.receiver = .done disconnected) ∧
      (s'.watcher = s.watcher ∨ ∃ fired, s'.watcher = .done fired) := by
  rcases childStep_cases h with ⟨_, ⟨close, rfl⟩ | ⟨e, rfl⟩⟩ | ⟨_, _, _, _, _, rfl⟩ |
    ⟨_, _, _, _, rfl⟩ | ⟨_, _, rfl⟩ | ⟨_, rfl⟩ | ⟨_, rfl⟩ | ⟨_, _, rfl⟩ | ⟨_, _, hcancelled⟩
  · exact ⟨Or.inl rfl, Or.inl rfl⟩
  · unfold senderFails
    split
    · exact ⟨Or.inl rfl, Or.inl rfl⟩
    · exact ⟨Or.inl rfl, Or.inl rfl⟩
  · exact ⟨Or.inl rfl, Or.inl rfl⟩
  · exact ⟨Or.inl rfl, Or.inl rfl⟩
  · exact ⟨Or.inl rfl, Or.inl rfl⟩
  · exact ⟨Or.inr ⟨_, rfl⟩, Or.inl rfl⟩
  · exact ⟨Or.inr ⟨_, rfl⟩, Or.inl rfl⟩
  · exact ⟨Or.inl rfl, Or.inr ⟨_, rfl⟩⟩
  · rcases childCancelled_cases hcancelled with ⟨_, rfl⟩ | ⟨_, rfl⟩ | ⟨_, rfl⟩
    · exact ⟨Or.inl rfl, Or.inl rfl⟩
    · exact ⟨Or.inr ⟨_, rfl⟩, Or.inl rfl⟩
    · exact ⟨Or.inl rfl, Or.inr ⟨_, rfl⟩⟩

/-- A task that has started stays so whatever a child task does. -/
theorem Started.childStep (h : s.Started) {l : ChildStep} (hstep : s.childStep now l = some s') :
    s'.Started := by
  intro hgrouped
  rw [(childStep_frame hstep).handler] at hgrouped
  rcases h hgrouped with ⟨hsender, hreceiver, hwatcher⟩
  rcases waiters_childStep hstep with ⟨hreceiver', hwatcher'⟩
  refine ⟨sender_childStep hstep hsender, ?_, ?_⟩
  · rcases hreceiver' with hsame | ⟨_, hdone⟩
    · rwa [hsame]
    · simp [hdone]
  · rcases hwatcher' with hsame | ⟨_, hdone⟩
    · rwa [hsame]
    · simp [hdone]

/-- An exception leaves the task group. -/
theorem fail_outside (s : Stream) (e : PyException) : grouped (s.fail e).handler = false := by
  unfold Stream.fail
  split
  · rfl
  · rfl

/-- A step of the handler enters the task group with the tasks started. -/
theorem Started.handlerStep (h : s.Started) {l : HandlerStep}
    (hstep : s.handlerStep topicMatchesSub settings jwtDecode now l = some s') : s'.Started := by
  rcases handlerStep_cases hstep with ⟨token, t, _, _, rfl⟩ | ⟨_, _, rfl⟩ | ⟨_, rfl⟩ | ⟨_, rfl⟩ |
    ⟨_, rfl⟩ | ⟨hstreaming, _, rfl⟩ | ⟨_, rfl⟩ | ⟨e, _, rfl⟩ | ⟨target, closes, hgoes, _, rfl⟩
  · apply started_of_outside
    rcases gate_cases topicMatchesSub settings jwtDecode token t with
      ⟨close, hgate⟩ | ⟨e, hgate⟩ | ⟨_, _, _, hgate⟩
    · rw [hgate]
      rfl
    · rw [hgate]
      rfl
    · rw [hgate]
      cases t.accepted <;> rfl
  · exact started_of_outside rfl
  · exact started_of_outside rfl
  · exact started_of_outside rfl
  · intro _
    simp
  · exact fun _ => h (by rw [hstreaming]; rfl)
  · apply started_of_outside
    unfold leaveGroup
    split
    · exact fail_outside s _
    · rfl
    · rfl
  · exact started_of_outside (fail_outside s e)
  · intro hgrouped
    apply h
    generalize s.handler = source at hgoes
    cases hgoes <;> first | rfl | cases hgrouped

/-- Every step of a connection keeps that the tasks of its group have started. -/
theorem Started.step (h : s.Started) {l : StreamStep}
    (hstep : s.step topicMatchesSub settings jwtDecode id now hub l = some (hub', s')) :
    s'.Started := by
  rcases step_cases hstep with ⟨_, _, hlocal, _⟩ | ⟨_, _, hlocal, _⟩ | ⟨_, _, _, rfl⟩ |
    ⟨_, _, _, _, _, _, ⟨_, rfl⟩ | ⟨e, _, rfl⟩⟩ | ⟨_, _, _, _, rfl⟩ |
    ⟨_, _, _, _, _, _, _, ⟨_, rfl⟩ | ⟨e, _, rfl⟩⟩
  · exact h.handlerStep hlocal
  · exact h.childStep hlocal
  · exact started_of_outside rfl
  · exact started_of_outside rfl
  · exact started_of_outside (fail_outside s e)
  · exact started_of_outside rfl
  · exact started_of_outside rfl
  · apply started_of_outside
    cases isRuntimeError e <;> rfl

/-- A packet starts no task and stops none. -/
theorem Started.wsCallback (h : s.Started) (message : ReceivedMessage) :
    (wsCallback topicMatchesSub settings now message s).Started := by
  rcases wsCallback_cases topicMatchesSub settings now message s with
    heq | ⟨_, _, ⟨_, heq⟩ | ⟨_, heq⟩⟩
  · rw [heq]
    exact h
  · rw [heq]
    exact h
  · rw [heq]
    exact h

/-- While the group is joined, its tasks have ended or one of them can be cancelled. -/
theorem exists_cancelled (h : s.Started) {exception : Option PyException}
    (hjoining : s.handler = .joining exception) (now : ℚ) :
    (∃ result disconnected fired, s.sender = .done result ∧ s.receiver = .done disconnected ∧
        s.watcher = .done fired) ∨
      ∃ child s', s.childStep now (.cancelled child) = some s' := by
  have hcancelling : s.cancelling = true := by
    rw [cancelling, hjoining, Bool.or_true]
  rcases h (by rw [hjoining]; rfl) with ⟨hsender, hreceiver, hwatcher⟩
  cases hs : s.sender with
  | notStarted => exact absurd hs hsender
  | checking | getting | holding frame | sending =>
      refine Or.inr ⟨.sender, { s with sender := .done none, finished := true }, ?_⟩
      simp [Stream.childStep, hcancelling, childCancelled, hs]
  | done result =>
      cases hr : s.receiver with
      | notStarted => exact absurd hr hreceiver
      | waiting =>
          refine Or.inr ⟨.receiver, { s with receiver := .done false, finished := true }, ?_⟩
          simp [Stream.childStep, hcancelling, childCancelled, hr]
      | done disconnected =>
          cases hw : s.watcher with
          | notStarted => exact absurd hw hwatcher
          | waiting =>
              refine Or.inr ⟨.watcher, { s with watcher := .done false }, ?_⟩
              simp [Stream.childStep, hcancelling, childCancelled, hw]
          | done fired => exact Or.inl ⟨result, disconnected, fired, rfl, rfl, rfl⟩

/-- A connection in its cleanup has finished, or takes a step of it, whatever paho answers. -/
theorem exists_unwinding_step (hstarted : s.Started) (h : s.Unwinding)
    (topicMatchesSub : PyStr → PyStr → Bool) (settings : Settings)
    (jwtDecode : PyStr → Except PyException Claims) (id : Nat) (now : ℚ) (hub : Hub)
    {paho : Paho} (hpaho : paho.UnsubscribeDocumented) :
    (∃ exception, s.handler = .finished exception) ∨
      ∃ l after, l.unwinds = true ∧ l.Documented ∧
        s.step topicMatchesSub settings jwtDecode id now hub l = some after := by
  have hlate := h.not_early
  cases hhandler : s.handler with
  | idle | acceptingForAuth | awaitingAuth | rejecting suppress | accepting | registering
  | acquiring todo | awaitingReady =>
      rw [hhandler] at hlate
      cases hlate
  | streaming =>
      rcases h with hleaving | ⟨_, hfinished⟩
      · rw [hhandler] at hleaving
        cases hleaving
      · refine Or.inr ⟨.handler .wake, (hub, { s with handler := .joining none }), rfl, trivial, ?_⟩
        simp [Stream.step, Stream.handlerStep, hhandler, hfinished]
  | joining exception =>
      rcases exists_cancelled hstarted hhandler now with
        ⟨result, disconnected, fired, hsender, hreceiver, hwatcher⟩ | ⟨child, s', hcancelled⟩
      · refine Or.inr ⟨.handler .join, (hub, s.leaveGroup exception), rfl, trivial, ?_⟩
        simp [Stream.step, Stream.handlerStep, hhandler, hsender, hreceiver, hwatcher]
      · refine Or.inr ⟨.child (.cancelled child), (hub, s'), rfl, trivial, ?_⟩
        simp [Stream.step, hcancelled]
  | closing | closingUnavailable =>
      refine Or.inr ⟨.handler .resume, (hub, { s with handler := .unregistering none }), rfl,
        trivial, ?_⟩
      simp [Stream.step, Stream.handlerStep, Stream.handlerResumes, hhandler]
  | unregistering exception =>
      refine Or.inr ⟨.unregister, (hub.removePacketCallback (.wsCallback id),
        { s with handler := .releasing s.acquired exception }), rfl, trivial, ?_⟩
      simp [Stream.step, hhandler]
  | releasing todo exception =>
      cases todo with
      | nil =>
          refine Or.inr ⟨.handler .resume, (hub, { s with handler := .finished exception }), rfl,
            trivial, ?_⟩
          simp [Stream.step, Stream.handlerStep, Stream.handlerResumes, hhandler]
      | cons topic todo =>
          refine Or.inr ⟨.release paho, ?_⟩
          simp only [Stream.step, hhandler]
          split
          · exact ⟨_, rfl, hpaho, rfl⟩
          · exact ⟨_, rfl, hpaho, rfl⟩
  | finished exception => exact Or.inl ⟨exception, rfl⟩

/-! ## A bound -/

/-- The lists of filters of a connection are no longer than a client may ask for. -/
structure Sized (settings : Settings) (s : Stream) : Prop where
  requested : s.requested.length ≤ settings.websocketMaxTopics
  acquired : s.acquired.length ≤ settings.websocketMaxTopics
  released : (toRelease s.handler).length ≤ settings.websocketMaxTopics

/-- An unused queue is not too long. -/
theorem sized_initial (settings : Settings) : initial.Sized settings :=
  ⟨Nat.zero_le _, Nat.zero_le _, Nat.zero_le _⟩

/-- A step of the handler outside the hub queues nothing. -/
theorem Sized.frame (h : s.Sized settings) (hframe : HandlerFrame topicMatchesSub settings s s') :
    s'.Sized settings := by
  refine ⟨?_, ?_, ?_⟩
  · rcases hframe.requested with hsame | hcheck
    · rw [hsame]
      exact h.requested
    · exact (length_of_checkTopics hcheck).2
  · rw [hframe.acquired]
    exact h.acquired
  · rw [hframe.moves.toRelease]
    exact h.released

/-- Every step of a connection keeps its lists within the limit. -/
theorem Sized.step (h : s.Sized settings) (hspoken : s.Spoken now) {l : StreamStep}
    (hstep : s.step topicMatchesSub settings jwtDecode id now hub l = some (hub', s')) :
    s'.Sized settings := by
  rcases step_cases hstep with ⟨_, _, hlocal, _⟩ | ⟨_, _, hlocal, _⟩ | ⟨_, _, _, rfl⟩ |
    ⟨_, topic, todo, _, hhandler, _, ⟨_, rfl⟩ | ⟨e, _, rfl⟩⟩ | ⟨_, _, _, _, rfl⟩ |
    ⟨_, topic, todo, _, _, hhandler, _, ⟨_, rfl⟩ | ⟨e, _, rfl⟩⟩
  · exact h.frame (handlerStep_frame hlocal)
  · have hframe := childStep_frame hlocal
    rcases h with ⟨hrequested, hacquired, hreleased⟩
    refine ⟨?_, ?_, ?_⟩
    · rwa [hframe.requested]
    · rwa [hframe.acquired]
    · rwa [hframe.handler]
  · exact ⟨h.requested, h.acquired, Nat.zero_le _⟩
  · have hall := congrArg List.length (hspoken.acquiring _ hhandler)
    have hlimit := h.requested
    rw [List.length_append, List.length_cons] at hall
    refine ⟨hlimit, ?_, Nat.zero_le _⟩
    rw [List.length_append, List.length_singleton]
    omega
  · exact h.frame (fail_frame topicMatchesSub settings (by rw [hhandler]; rfl) e)
  · exact ⟨h.requested, h.acquired, h.acquired⟩
  · have hlimit := h.released
    rw [hhandler, toRelease, List.length_cons] at hlimit
    refine ⟨h.requested, h.acquired, ?_⟩
    change todo.length ≤ settings.websocketMaxTopics
    omega
  · have hlimit := h.released
    rw [hhandler, toRelease, List.length_cons] at hlimit
    refine ⟨h.requested, h.acquired, ?_⟩
    cases isRuntimeError e with
    | true =>
        change todo.length ≤ settings.websocketMaxTopics
        omega
    | false => exact Nat.zero_le _

/-- A packet is queued only if there is room. -/
theorem Sized.wsCallback (h : s.Sized settings) (message : ReceivedMessage) :
    (wsCallback topicMatchesSub settings now message s).Sized settings := by
  rcases wsCallback_cases topicMatchesSub settings now message s with
    heq | ⟨_, _, ⟨_, heq⟩ | ⟨_, heq⟩⟩
  · rw [heq]
    exact h
  · rw [heq]
    exact { h with }
  · rw [heq]
    exact { h with }

/-- The cleanup takes a bounded number of steps. -/
theorem Sized.unwindRank_le (h : s.Sized settings) :
    s.unwindRank ≤ 9 + settings.websocketMaxTopics := by
  have hchildren := openChildren_le s
  have hacquired := h.acquired
  have hreleased := h.released
  unfold unwindRank
  cases hhandler : s.handler with
  | streaming | joining exception | closing | closingUnavailable | unregistering exception =>
      simp only [handlerRank]
      omega
  | releasing todo exception =>
      rw [hhandler, toRelease] at hreleased
      simp only [handlerRank]
      omega
  | idle | acceptingForAuth | awaitingAuth | rejecting suppress | accepting | registering
  | acquiring todo | awaitingReady | finished exception =>
      simp only [handlerRank]
      omega

end Stream

end MqttGateway
