import MqttGateway.Api.StreamAccess
import MqttGateway.Api.StreamEnd

/-!
# The frames of a stream

What a websocket client is told, in which order and with what right.  The ready frame comes
first, once every requested filter has been acquired; a client that is refused is sent
nothing and has acquired nothing; the code calls {lit}`close` a second time only to say
that the stream is unavailable; and nothing is sent after a call of {lit}`close`.

Main results:

- Theorems {lit}`Spoken.step` and {lit}`Spoken.wsCallback`: every step of a connection and every
  packet keeps this.
- Theorem {lit}`Spoken.hushed_step`: once {lit}`close` has been called, nothing more is sent.
-/

namespace MqttGateway

open Toolkit

/-- The close frames of a client that is refused. -/
def CloseFrame.refusals : List CloseFrame :=
  [.authenticationRequired, .invalidToken, .topicNotAllowed]

namespace Stream

/-! ## What a client has been told -/

/-- The ready frame has not been sent. -/
def unready : HandlerActivity → Bool
  | .idle | .acceptingForAuth | .awaitingAuth | .rejecting _ | .accepting | .registering
  | .acquiring _ => true
  | .awaitingReady | .streaming | .joining _ | .closing | .closingUnavailable
  | .unregistering _ | .releasing _ _ | .finished _ => false

/-- The handler is in its task group. -/
def grouped : HandlerActivity → Bool
  | .streaming | .joining _ => true
  | .idle | .acceptingForAuth | .awaitingAuth | .rejecting _ | .accepting | .registering
  | .acquiring _ | .awaitingReady | .closing | .closingUnavailable | .unregistering _
  | .releasing _ _ | .finished _ => false

/-- The ready frame is being sent, or has been sent and the handler is in its task group. -/
def introduced : HandlerActivity → Bool
  | .awaitingReady | .streaming | .joining _ => true
  | .idle | .acceptingForAuth | .awaitingAuth | .rejecting _ | .accepting | .registering
  | .acquiring _ | .closing | .closingUnavailable | .unregistering _ | .releasing _ _
  | .finished _ => false

/-- How far the calls of {lit}`close` have come. -/
inductive Parting where
  | none
  /-- The first call has not returned. -/
  | first
  | ended
deriving DecidableEq, Repr

def parting : HandlerActivity → Parting
  | .idle | .acceptingForAuth | .awaitingAuth | .accepting | .registering | .acquiring _
  | .awaitingReady | .streaming | .joining _ => .none
  | .rejecting _ | .closing => .first
  | .closingUnavailable | .unregistering _ | .releasing _ _ | .finished _ => .ended

/-- The calls of {lit}`close` made by then. -/
def Parting.Closed : Parting → List CloseFrame → Prop
  | .none, closes => closes = []
  | .first, closes => ∃ close, closes = [close]
  | .ended, closes => closes.tail = [] ∨ closes.tail = [.streamUnavailable]

/-- The sender has not started, or has ended. -/
def Resting (s : Stream) : Prop :=
  s.sender = .notStarted ∨ ∃ result, s.sender = .done result

/-- The reasons that a task of the group gives for the end. -/
def Parts (now : ℚ) (s : Stream) (close : CloseFrame) : Prop :=
  close = .cannotKeepUp ∨ close = .streamUnavailable ∨ (close = .tokenExpired ∧ s.Expired now)

/-- What a close frame says of the connection. -/
def Told (now : ℚ) (s : Stream) (close : CloseFrame) : Prop :=
  s.Parts now close ∨ (close ∈ CloseFrame.refusals ∧ s.sent = [] ∧ s.acquired = [])

/-- The ready frame has come first and only once, with everything it names acquired. -/
def Greeted (s : Stream) : Prop :=
  s.acquired = s.requested ∧ ∃ at' rest, s.sent = (at', .ready s.requested) :: rest ∧
    ∀ entry ∈ rest, ∀ topics, entry.2 ≠ .ready topics

/-- What a client has been told. -/
structure Spoken (now : ℚ) (s : Stream) : Prop where
  fresh : s.Fresh
  opening : unready s.handler = true → s.sent = [] ∧ s.closeMessage = none
  unacquired : unready s.handler = true → registered s.handler = false → s.acquired = []
  acquiring : ∀ todo, s.handler = .acquiring todo → s.acquired ++ todo = s.requested
  greeted : s.sent = [] ∨ s.Greeted
  ready : introduced s.handler = true → s.sent ≠ []
  hand : ∀ topics, s.sender ≠ .holding (.ready topics)
  resting : grouped s.handler = false → s.Resting
  closed : (parting s.handler).Closed s.closes
  told : ∀ close ∈ s.closes, s.Told now close
  closeMessage : ∀ close, s.closeMessage = some close → s.Parts now close

/-- An unused connection has been told nothing. -/
theorem spoken_initial (now : ℚ) : initial.Spoken now where
  fresh := fresh_initial
  opening _ := ⟨rfl, rfl⟩
  unacquired _ _ := rfl
  acquiring todo h := by cases h
  greeted := Or.inl rfl
  ready h := by cases h
  hand topics h := by cases h
  resting _ := Or.inl rfl
  closed := rfl
  told close h := absurd h List.not_mem_nil
  closeMessage close h := by cases h

variable {topicMatchesSub : PyStr → PyStr → Bool} {settings : Settings}
  {jwtDecode : PyStr → Except PyException Claims} {id : Nat} {now now' : ℚ} {hub hub' : Hub}
  {s s' : Stream}

/-- A token that has expired stays expired. -/
theorem Expired.later (h : s.Expired now) (hnow : now ≤ now') : s.Expired now' := by
  rw [expired_iff] at h ⊢
  rcases h with ⟨exp, hexp, hle⟩
  exact ⟨exp, hexp, hle.trans hnow⟩

/-- A parting that was justified stays so. -/
theorem Parts.later {close : CloseFrame} (h : s.Parts now close) (hclaims : s'.claims = s.claims)
    (hnow : now ≤ now') : s'.Parts now' close := by
  rcases h with hslow | hunavailable | ⟨hexpired, hexp⟩
  · exact Or.inl hslow
  · exact Or.inr (Or.inl hunavailable)
  · exact Or.inr (Or.inr ⟨hexpired, ((expired_of_claims hclaims).mpr hexp).later hnow⟩)

/-- A close frame that said what was the case still does. -/
theorem Told.later {close : CloseFrame} (h : s.Told now close) (hclaims : s'.claims = s.claims)
    (hsent : s'.sent = s.sent) (hacquired : s'.acquired = s.acquired) (hnow : now ≤ now') :
    s'.Told now' close := by
  rcases h with hparts | ⟨hrefused, hsilent, hnothing⟩
  · exact Or.inl (hparts.later hclaims hnow)
  · exact Or.inr ⟨hrefused, hsent.trans hsilent, hacquired.trans hnothing⟩

/-- A client stays told when the clock goes on. -/
theorem Spoken.later (h : s.Spoken now) (hnow : now ≤ now') : s.Spoken now' :=
  { h with
    told := fun close hmem => (h.told close hmem).later rfl rfl rfl hnow
    closeMessage := fun close hclose => (h.closeMessage close hclose).later rfl hnow }

/-- A second call of {lit}`close` says that the stream is unavailable, and there is no third. -/
theorem Spoken.tail_closes (h : s.Spoken now) :
    s.closes.tail = [] ∨ s.closes.tail = [.streamUnavailable] := by
  have hclosed := h.closed
  cases hparting : parting s.handler with
  | none =>
      rw [hparting] at hclosed
      exact Or.inl (by rw [hclosed]; rfl)
  | first =>
      rw [hparting] at hclosed
      rcases hclosed with ⟨close, hclose⟩
      exact Or.inl (by rw [hclose]; rfl)
  | ended =>
      rw [hparting] at hclosed
      exact hclosed

/-- The ready frame names what has been asked for and acquired. -/
theorem Spoken.ready_named (h : s.Spoken now) {at' : ℚ} {topics : List PyStr}
    (hready : (at', .ready topics) ∈ s.sent) :
    topics = s.requested ∧ s.acquired = s.requested := by
  rcases h.greeted with hsilent | ⟨hall, _, rest, hsent, hrest⟩
  · rw [hsilent] at hready
    cases hready
  · rw [hsent] at hready
    rcases List.mem_cons.mp hready with hfirst | hlater
    · cases hfirst
      exact ⟨rfl, hall⟩
    · exact absurd rfl (hrest _ hlater topics)

/-- No call of {lit}`close` has been made before the end. -/
theorem Spoken.closes_eq_nil (h : s.Spoken now) {activity : HandlerActivity}
    (hhandler : s.handler = activity) (hparting : parting activity = .none) : s.closes = [] := by
  have hclosed := h.closed
  rw [hhandler, hparting] at hclosed
  exact hclosed

/-! ## The handler -/

/-- A move of the handler, with the calls of {lit}`close` that it makes. -/
theorem Spoken.move (h : s.Spoken now) {source : HandlerActivity} (hsource : s.handler = source)
    (target : HandlerActivity) (closes : List CloseFrame)
    (hearly : (!early target || early source) = true)
    (hunready : (!unready target || (unready source && (registered target == registered source)))
      = true)
    (hacquiring : ∀ todo, target ≠ .acquiring todo)
    (hintroduced : (!introduced target || introduced source) = true)
    (hresting : grouped target = false → s.Resting)
    (hclosed : (parting target).Closed closes) (htold : ∀ close ∈ closes, s.Told now close) :
    Spoken now { s with handler := target, closes } := by
  subst hsource
  have hstill : unready target = true →
      unready s.handler = true ∧ registered target = registered s.handler := by
    intro htarget
    rw [htarget] at hunready
    simpa using hunready
  refine ⟨?_, ?_, ?_, ?_, h.greeted, ?_, h.hand, hresting, hclosed, htold, h.closeMessage⟩
  · intro htarget
    change early target = true at htarget
    rw [htarget] at hearly
    exact h.fresh (by simpa using hearly)
  · exact fun htarget => h.opening (hstill htarget).1
  · intro htarget hnot
    rcases hstill htarget with ⟨hbefore, hsame⟩
    exact h.unacquired hbefore (hsame.symm.trans hnot)
  · exact fun todo htodo => absurd htodo (hacquiring todo)
  · intro htarget
    change introduced target = true at htarget
    rw [htarget] at hintroduced
    exact h.ready (by simpa using hintroduced)

/-- The calls of {lit}`close` stay as they are. -/
theorem Spoken.goes (h : s.Spoken now) {source : HandlerActivity} (hsource : s.handler = source)
    (target : HandlerActivity) (hearly : (!early target || early source) = true)
    (hunready : (!unready target || (unready source && (registered target == registered source)))
      = true)
    (hacquiring : ∀ todo, target ≠ .acquiring todo)
    (hintroduced : (!introduced target || introduced source) = true)
    (hresting : (grouped target || !grouped source) = true)
    (hparting : parting target = parting source ∨ parting target = .ended) :
    Spoken now { s with handler := target } := by
  refine h.move hsource target s.closes hearly hunready hacquiring hintroduced ?_ ?_ h.told
  · intro htarget
    rw [htarget] at hresting
    apply h.resting
    rw [hsource]
    simpa using hresting
  · have hclosed := h.closed
    rw [hsource] at hclosed
    rcases hparting with hsame | hover
    · rw [hsame]
      exact hclosed
    · rw [hover]
      exact h.tail_closes

/-- A client that is refused. -/
theorem Spoken.reject (h : s.Spoken now) {source : HandlerActivity} (hsource : s.handler = source)
    (hundecided : undecided source = true) {close : CloseFrame}
    (hrefused : close ∈ CloseFrame.refusals) (suppress : Bool) :
    (s.reject close suppress).Spoken now := by
  have hbefore : early source = true ∧ unready source = true ∧ registered source = false ∧
      grouped source = false ∧ parting source = .none := by
    cases source <;> first | exact ⟨rfl, rfl, rfl, rfl, rfl⟩ | cases hundecided
  rcases hbefore with ⟨hearly, hunready, hregistered, hgrouped, hparting⟩
  have hnil := h.closes_eq_nil hsource hparting
  rw [← hsource] at hunready hregistered hgrouped
  refine h.move hsource (.rejecting suppress) _ (by rw [hearly]; rfl) ?_ (by simp) rfl ?_ ?_
    ?_
  · rw [← hsource, hunready, hregistered]
    rfl
  · exact fun _ => h.resting hgrouped
  · exact ⟨close, by rw [hnil]; rfl⟩
  · intro told htold
    rw [hnil, List.nil_append, List.mem_singleton] at htold
    rw [htold]
    exact Or.inr ⟨hrefused, (h.opening hunready).1, h.unacquired hunready hregistered⟩

/-- The outer {lit}`except` clause, after at most one call of {lit}`close`. -/
theorem Spoken.fail (h : s.Spoken now) (hresting : s.Resting)
    (hcloses : s.closes = [] ∨ ∃ close, s.closes = [close]) (e : PyException) :
    (s.fail e).Spoken now := by
  unfold Stream.fail
  split
  · refine h.move rfl .closingUnavailable _ rfl rfl (by simp) rfl (fun _ => hresting) ?_ ?_
    · rcases hcloses with hnil | ⟨close, hclose⟩
      · exact Or.inl (by rw [hnil]; rfl)
      · exact Or.inr (by rw [hclose]; rfl)
    · intro close hmem
      rcases List.mem_append.mp hmem with hbefore | hlast
      · exact h.told close hbefore
      · exact Or.inl (Or.inr (Or.inl (List.mem_singleton.mp hlast)))
  · refine h.move rfl (.unregistering (some e)) _ rfl rfl (by simp) rfl (fun _ => hresting) ?_
      h.told
    rcases hcloses with hnil | ⟨close, hclose⟩
    · exact Or.inl (by rw [hnil]; rfl)
    · exact Or.inl (by rw [hclose]; rfl)

/-- The outer {lit}`except` clause, from an await outside the task group. -/
theorem Spoken.fails (h : s.Spoken now) {source : HandlerActivity} (hsource : s.handler = source)
    (hgrouped : grouped source = false) (hparting : parting source ≠ .ended) (e : PyException) :
    (s.fail e).Spoken now := by
  refine h.fail (h.resting (by rw [hsource, hgrouped])) ?_ e
  have hclosed := h.closed
  rw [hsource] at hclosed
  cases hbefore : parting source with
  | none =>
      rw [hbefore] at hclosed
      exact Or.inl hclosed
  | first =>
      rw [hbefore] at hclosed
      exact Or.inr hclosed
  | ended => exact absurd hbefore hparting

/-- The end of the task group, when all of its tasks have ended. -/
theorem Spoken.leaveGroup (h : s.Spoken now) {exception : Option PyException}
    (hjoining : s.handler = .joining exception) {result : Option CloseFrame}
    (hdone : s.sender = .done result) : (s.leaveGroup exception).Spoken now := by
  have hresting : s.Resting := Or.inr ⟨result, hdone⟩
  have hnil := h.closes_eq_nil hjoining rfl
  unfold Stream.leaveGroup
  split
  · exact h.fail hresting (Or.inl hnil) _
  · next close _ hclose =>
      refine h.move hjoining .closing _ rfl rfl (by simp) rfl (fun _ => hresting) ?_ ?_
      · exact ⟨close, by rw [hnil]; rfl⟩
      · intro told htold
        rw [hnil, List.nil_append, List.mem_singleton] at htold
        rw [htold]
        exact Or.inl (h.closeMessage close hclose)
  · exact h.move hjoining (.unregistering none) _ rfl rfl (by simp) rfl (fun _ => hresting)
      (by rw [hnil]; exact Or.inl rfl) h.told

/-- Everything the code between the token and the next await can call {lit}`close` with. -/
theorem gate_refuses (topicMatchesSub : PyStr → PyStr → Bool) (settings : Settings)
    (jwtDecode : PyStr → Except PyException Claims) (token : Json) (s : Stream) :
    (∃ close ∈ CloseFrame.refusals,
        gate topicMatchesSub settings jwtDecode token s = s.reject close false) ∨
      (∃ e, gate topicMatchesSub settings jwtDecode token s =
        { s with handler := .finished (some e) }) ∨
      ∃ claims requested, gate topicMatchesSub settings jwtDecode token s =
        { s with
          claims := some claims
          requested
          handler := if s.accepted then .registering else .accepting } := by
  unfold gate
  split
  · next e _ => exact Or.inr (Or.inl ⟨e, rfl⟩)
  · exact Or.inl ⟨_, by simp [CloseFrame.refusals], rfl⟩
  · next claims _ =>
      simp only
      split
      · exact Or.inl ⟨_, by simp [CloseFrame.refusals], rfl⟩
      · next e _ _ => exact Or.inr (Or.inl ⟨e, rfl⟩)
      · exact Or.inr (Or.inr ⟨claims, _, rfl⟩)

/-- The gate lets a client in or tells it why not. -/
theorem Spoken.gate (h : s.Spoken now) {source : HandlerActivity} (hsource : s.handler = source)
    (hundecided : undecided source = true) (token : Json) :
    (gate topicMatchesSub settings jwtDecode token s).Spoken now := by
  have hbefore : early source = true ∧ unready source = true ∧ registered source = false ∧
      grouped source = false ∧ parting source = .none := by
    cases source <;> first | exact ⟨rfl, rfl, rfl, rfl, rfl⟩ | cases hundecided
  rcases gate_refuses topicMatchesSub settings jwtDecode token s with
    ⟨close, hrefused, hgate⟩ | ⟨e, hgate⟩ | ⟨claims, requested, hgate⟩
  · rw [hgate]
    exact h.reject hsource hundecided hrefused false
  · rw [hgate]
    exact h.goes hsource _ rfl rfl (by simp) rfl (by simp [hbefore.2.2.2.1]) (Or.inr rfl)
  · rcases hbefore with ⟨hearly, hunready, hregistered, hgrouped, hparting⟩
    rw [hgate]
    have hnil := h.closes_eq_nil hsource hparting
    rw [← hsource] at hearly hunready hregistered hgrouped
    rcases h.opening hunready with ⟨hsent, hclose⟩
    have hnext : ∀ accepted : Bool, parting (if accepted then .registering else .accepting) =
        .none := by
      decide
    refine ⟨fun _ => h.fresh hearly, fun _ => ⟨hsent, hclose⟩,
      fun _ _ => h.unacquired hunready hregistered, ?_, Or.inl hsent, ?_, h.hand,
      fun _ => h.resting hgrouped, ?_, ?_, ?_⟩
    · intro todo htodo
      cases haccepted : s.accepted <;> simp [haccepted] at htodo
    · intro hintroduced
      cases haccepted : s.accepted <;> simp [haccepted, introduced] at hintroduced
    · simp only [hnext]
      exact hnil
    · intro close hmem
      rw [hnil] at hmem
      cases hmem
    · intro close hsome
      rw [hclose] at hsome
      cases hsome

/-- The completion of an awaited operation says nothing that is not the case. -/
theorem Spoken.handlerResumes (h : s.Spoken now) (hstep : s.handlerResumes = some s') :
    s'.Spoken now := by
  unfold Stream.handlerResumes at hstep
  split at hstep
  · next hhandler =>
      cases hstep
      have hmoved := h.goes hhandler .awaitingAuth rfl rfl (by simp) rfl rfl (Or.inl rfl)
      exact { hmoved with }
  · next hhandler =>
      cases hstep
      exact h.goes hhandler _ rfl rfl (by simp) rfl rfl (Or.inr rfl)
  · next hhandler =>
      cases hstep
      exact h.goes hhandler _ rfl rfl (by simp) rfl rfl (Or.inl rfl)
  · next hhandler =>
      cases hstep
      have hmoved := h.goes hhandler .streaming rfl rfl (by simp) rfl rfl (Or.inl rfl)
      exact { hmoved with
        fresh := fun hearly => by cases hearly
        hand := by simp
        resting := fun hgrouped => by cases hgrouped }
  · next hhandler =>
      cases hstep
      exact h.goes hhandler _ rfl rfl (by simp) rfl rfl (Or.inr rfl)
  · next hhandler =>
      cases hstep
      exact h.goes hhandler _ rfl rfl (by simp) rfl rfl (Or.inr rfl)
  · next hhandler =>
      cases hstep
      exact h.goes hhandler _ rfl rfl (by simp) rfl rfl (Or.inr rfl)
  · cases hstep

/-- Nor does an exception. -/
theorem Spoken.handlerRaises (h : s.Spoken now) {e : PyException}
    (hstep : s.handlerRaises e = some s') : s'.Spoken now := by
  unfold Stream.handlerRaises at hstep
  split at hstep
  · next hhandler =>
      cases hstep
      exact h.goes hhandler _ rfl rfl (by simp) rfl rfl (Or.inr rfl)
  · next hhandler =>
      cases hstep
      exact h.goes hhandler _ rfl rfl (by simp) rfl rfl (Or.inr rfl)
  · next hhandler =>
      cases hstep
      split
      · exact h.reject hhandler rfl (by simp [CloseFrame.refusals]) true
      · exact h.goes hhandler _ rfl rfl (by simp) rfl rfl (Or.inr rfl)
  · next hhandler =>
      cases hstep
      exact h.goes hhandler _ rfl rfl (by simp) rfl rfl (Or.inr rfl)
  · next hhandler =>
      rw [Option.ite_none_right_eq_some] at hstep
      cases hstep.2
      exact h.fails hhandler rfl (by simp [parting]) e
  · next hhandler =>
      cases hstep
      exact h.fails hhandler rfl (by simp [parting]) e
  · next hhandler =>
      cases hstep
      exact h.fails hhandler rfl (by simp [parting]) e
  · next hhandler =>
      cases hstep
      exact h.fails hhandler rfl (by simp [parting]) e
  · next hhandler =>
      rw [Option.ite_none_right_eq_some] at hstep
      cases hstep.2
      exact h.goes hhandler _ rfl rfl (by simp) rfl rfl (Or.inl rfl)
  · next hhandler =>
      rw [Option.ite_none_right_eq_some] at hstep
      cases hstep.2
      exact h.goes hhandler _ rfl rfl (by simp) rfl rfl (Or.inl rfl)
  · next hhandler =>
      cases hstep
      exact h.goes hhandler _ rfl rfl (by simp) rfl rfl (Or.inr rfl)
  all_goals cases hstep

/-- Every step of the handler outside the hub keeps what a client has been told. -/
theorem Spoken.handlerStep (h : s.Spoken now) {l : HandlerStep}
    (hstep : s.handlerStep topicMatchesSub settings jwtDecode now l = some s') :
    s'.Spoken now := by
  cases l with
  | connect header topics =>
      have hquery : Spoken now { s with topics } := { h with }
      simp only [Stream.handlerStep] at hstep
      split at hstep
      · next hidle =>
          cases hstep
          exact hquery.gate hidle rfl _
      · next hidle =>
          cases hstep
          exact hquery.goes hidle .acceptingForAuth rfl rfl (by simp) rfl rfl (Or.inl rfl)
      · cases hstep
  | authFrame frame =>
      simp only [Stream.handlerStep] at hstep
      split at hstep
      · next hawaiting =>
          cases hstep
          exact h.gate hawaiting rfl _
      · cases hstep
  | resume => exact h.handlerResumes hstep
  | raises e => exact h.handlerRaises hstep
  | sendReady =>
      simp only [Stream.handlerStep] at hstep
      split at hstep
      · next hhandler =>
          cases hstep
          have hunready : unready s.handler = true := by rw [hhandler]; rfl
          have hsilent := (h.opening hunready).1
          have hall := h.acquiring [] hhandler
          rw [List.append_nil] at hall
          have hnil := h.closes_eq_nil hhandler rfl
          have hresting : s.Resting := h.resting (by rw [hhandler]; rfl)
          refine ⟨fun _ => h.fresh (by rw [hhandler]; rfl), ?_, ?_, ?_, ?_, ?_, h.hand,
            fun _ => hresting, hnil, ?_, h.closeMessage⟩
          · intro hbefore
            cases hbefore
          · intro hbefore
            cases hbefore
          · intro todo htodo
            cases htodo
          · exact Or.inr ⟨hall, now, [], by rw [hsilent]; rfl, by simp⟩
          · simp
          · intro close hmem
            change close ∈ s.closes at hmem
            rw [hnil] at hmem
            cases hmem
      · cases hstep
  | wake =>
      simp only [Stream.handlerStep] at hstep
      split at hstep
      · next hhandler =>
          rw [Option.ite_none_right_eq_some] at hstep
          cases hstep.2
          exact h.goes hhandler _ rfl rfl (by simp) rfl rfl (Or.inl rfl)
      · cases hstep
  | join =>
      simp only [Stream.handlerStep] at hstep
      split at hstep
      · next hjoining hdone _ _ =>
          cases hstep
          exact h.leaveGroup hjoining hdone
      · cases hstep

/-- An exception sends no frame. -/
theorem fail_sent (s : Stream) (e : PyException) : (s.fail e).sent = s.sent := by
  unfold Stream.fail
  split
  · rfl
  · rfl

/-- The handler itself sends the ready frame only. -/
theorem handlerStep_sends {l : HandlerStep}
    (h : s.handlerStep topicMatchesSub settings jwtDecode now l = some s') :
    s'.sent = s.sent ∨ s.handler = .acquiring [] := by
  rcases handlerStep_cases h with ⟨token, t, _, ht, rfl⟩ | ⟨_, _, rfl⟩ | ⟨_, rfl⟩ | ⟨hhandler, _⟩ |
    ⟨_, rfl⟩ | ⟨_, _, rfl⟩ | ⟨_, rfl⟩ | ⟨e, _, rfl⟩ | ⟨_, _, _, _, rfl⟩
  · have hsent : t.sent = s.sent := by
      rcases ht with ⟨_, _, rfl⟩ | ⟨_, rfl⟩
      · rfl
      · rfl
    rcases gate_cases topicMatchesSub settings jwtDecode token t with
      ⟨_, hgate⟩ | ⟨_, hgate⟩ | ⟨_, _, _, hgate⟩
    · rw [hgate]
      exact Or.inl hsent
    · rw [hgate]
      exact Or.inl hsent
    · rw [hgate]
      exact Or.inl hsent
  · exact Or.inl rfl
  · exact Or.inl rfl
  · exact Or.inr hhandler
  · exact Or.inl rfl
  · exact Or.inl rfl
  · unfold Stream.leaveGroup
    split
    · exact Or.inl (fail_sent s _)
    · exact Or.inl rfl
    · exact Or.inl rfl
  · exact Or.inl (fail_sent s e)
  · exact Or.inl rfl

/-- Once {lit}`close` has been called, the sender rests. -/
theorem Spoken.resting_of_closes (h : s.Spoken now) (hcloses : s.closes ≠ []) : s.Resting := by
  cases hgrouped : grouped s.handler with
  | false => exact h.resting hgrouped
  | true =>
      refine absurd (h.closes_eq_nil rfl ?_) hcloses
      cases hhandler : s.handler <;> first | rfl | simp [grouped, hhandler] at hgrouped

/-! ## The child tasks -/

/-- What a step of a child task leaves to be told. -/
structure ChildTells (now : ℚ) (s s' : Stream) : Prop where
  closeMessage : s'.closeMessage = s.closeMessage ∨
    ∃ close, s'.closeMessage = some close ∧ s.Parts now close
  hand : ∀ topics, s'.sender = .holding (.ready topics) → s.sender = .holding (.ready topics)

/-- A sender that returns leaves the close message it is justified in. -/
theorem senderReturns_tells {close : CloseFrame} (hparts : s.Parts now close) :
    ChildTells now s (s.senderReturns close) where
  closeMessage := Or.inr ⟨close, rfl, hparts⟩
  hand topics h := by cases h

/-- A sender that fails leaves a message that is always justified, or none. -/
theorem senderFails_tells (s : Stream) (now : ℚ) (e : PyException) :
    ChildTells now s (s.senderFails e) := by
  unfold senderFails
  split
  · exact senderReturns_tells (Or.inr (Or.inl rfl))
  · exact ⟨Or.inl rfl, by simp⟩

/-- A step of the sender that leaves no close message. -/
theorem tells_of_sender {target : SenderActivity}
    (htarget : ∀ topics, target ≠ .holding (.ready topics)) (queue : List MQTTMessage)
    (sent : List (ℚ × Frame)) :
    ChildTells now s { s with sender := target, messageQueue := queue, sent } :=
  ⟨Or.inl rfl, fun topics h => absurd h (htarget topics)⟩

/-- Every step of a child task leaves a justified close message, or the one there was. -/
theorem childStep_tells {l : ChildStep} (h : s.childStep now l = some s') :
    ChildTells now s s' := by
  cases l with
  | senderChecks =>
      simp only [childStep] at h
      split at h
      · next exp _ hexp =>
          cases h
          split
          · next hover =>
              have hexpired : s.Expired now := expired_iff.mpr ⟨exp, hexp, by linarith⟩
              exact senderReturns_tells (Or.inr (Or.inr ⟨rfl, hexpired⟩))
          · exact tells_of_sender (by simp) _ _
      · cases h
        exact senderFails_tells s now _
      · cases h
  | senderGets =>
      simp only [childStep] at h
      split at h
      · cases h
        exact tells_of_sender (by simp) _ _
      · cases h
  | senderTimesOut =>
      simp only [childStep] at h
      split at h
      · next exp _ _ =>
          cases h
          apply tells_of_sender
          intro topics
          split <;> simp
      · cases h
        exact senderFails_tells s now _
      · cases h
  | senderHandsOver =>
      simp only [childStep] at h
      split at h
      · cases h
        exact tells_of_sender (by simp) _ _
      · cases h
  | senderSent =>
      simp only [childStep] at h
      split at h
      · cases h
        exact tells_of_sender (by simp) _ _
      · cases h
  | senderRaises e =>
      have hraises : (if e.isException then
          some (if e = .timeoutError then s.senderReturns .cannotKeepUp else s.senderFails e)
            else none) = some s' → ChildTells now s s' := by
        intro h
        rw [Option.ite_none_right_eq_some] at h
        cases h.2
        split
        · exact senderReturns_tells (Or.inl rfl)
        · exact senderFails_tells s now e
      simp only [childStep] at h
      split at h
      · exact hraises h
      · exact hraises h
      · cases h
  | receiverDisconnected =>
      simp only [childStep] at h
      split at h
      · cases h
        exact ⟨Or.inl rfl, fun _ h => h⟩
      · cases h
  | receiverRaises e =>
      simp only [childStep] at h
      split at h
      · rw [Option.ite_none_right_eq_some] at h
        cases h.2
        exact ⟨Or.inl rfl, fun _ h => h⟩
      · cases h
  | watcherWakes =>
      simp only [childStep] at h
      split at h
      · rw [Option.ite_none_right_eq_some] at h
        cases h.2
        exact ⟨Or.inr ⟨_, rfl, Or.inl rfl⟩, fun _ h => h⟩
      · cases h
  | cancelled child =>
      simp only [childStep, Option.ite_none_right_eq_some] at h
      rcases childCancelled_cases h.2 with ⟨_, rfl⟩ | ⟨_, rfl⟩ | ⟨_, rfl⟩
      · exact ⟨Or.inl rfl, by simp⟩
      · exact ⟨Or.inl rfl, fun _ h => h⟩
      · exact ⟨Or.inl rfl, fun _ h => h⟩

/-- What a step of a child task sends: nothing, or the frame that the sender holds. -/
theorem childStep_sends {l : ChildStep} (h : s.childStep now l = some s') :
    s'.sent = s.sent ∨
      ∃ frame, s.sender = .holding frame ∧ s'.sent = s.sent ++ [(now, frame)] := by
  rcases (childStep_moves h).sender with ⟨_, _, hsent⟩ | ⟨_, ⟨_, hsent, _⟩ | ⟨_, hsent, _⟩ |
    ⟨frame, hholding, _, hsent⟩ | ⟨_, hsent⟩⟩
  · exact Or.inl hsent
  · exact Or.inl hsent
  · exact Or.inl hsent
  · exact Or.inr ⟨frame, hholding, hsent⟩
  · exact Or.inl hsent

/-- A sender that has not started or has ended stays as it is. -/
theorem Resting.childStep (h : s.Resting) {l : ChildStep}
    (hstep : s.childStep now l = some s') : s'.Resting ∧ s'.sent = s.sent := by
  have hsent : s'.sent = s.sent := by
    rcases childStep_sends hstep with hsame | ⟨frame, hholding, _⟩
    · exact hsame
    · rcases h with hstarted | ⟨result, hdone⟩
      · rw [hholding] at hstarted
        cases hstarted
      · rw [hholding] at hdone
        cases hdone
  refine ⟨?_, hsent⟩
  rcases h with hstarted | ⟨result, hdone⟩
  · rcases (childStep_moves hstep).sender with ⟨hsame, _⟩ | ⟨hnot, _⟩
    · exact Or.inl (hsame.trans hstarted)
    · exact absurd hstarted hnot
  · exact Or.inr ⟨result, (childStep_ends hstep).sender result hdone⟩

/-- The ready frame stays the first frame and the only one of its kind. -/
theorem Greeted.snoc (h : s.Greeted) {frame : Frame} (hframe : ∀ topics, frame ≠ .ready topics)
    (hacquired : s'.acquired = s.acquired) (hrequested : s'.requested = s.requested)
    (hsent : s'.sent = s.sent ++ [(now, frame)]) : s'.Greeted := by
  rcases h with ⟨hall, at', rest, hready, hrest⟩
  refine ⟨by rw [hacquired, hrequested, hall], at', rest ++ [(now, frame)], ?_, ?_⟩
  · rw [hsent, hready, hrequested, List.cons_append]
  · intro entry hmem
    rcases List.mem_append.mp hmem with hbefore | hlast
    · exact hrest entry hbefore
    · rw [List.mem_singleton.mp hlast]
      exact hframe

/-- A client that has been greeted stays so while the frames and the filters stay. -/
theorem Greeted.of_same (h : s.Greeted) (hacquired : s'.acquired = s.acquired)
    (hrequested : s'.requested = s.requested) (hsent : s'.sent = s.sent) : s'.Greeted := by
  rcases h with ⟨hall, at', rest, hready, hrest⟩
  exact ⟨by rw [hacquired, hrequested, hall], at', rest, by rw [hsent, hready, hrequested], hrest⟩

/-- Every step of a child task keeps what a client has been told. -/
theorem Spoken.childStep (h : s.Spoken now) {l : ChildStep}
    (hstep : s.childStep now l = some s') : s'.Spoken now := by
  have hframe := childStep_frame hstep
  have hmoves := childStep_moves hstep
  have htells := childStep_tells hstep
  -- The child tasks run in the task group only, where the ready frame has been sent.
  have hlate : unready s.handler = false := by
    cases hunready : unready s.handler with
    | false => rfl
    | true =>
        have hearly : early s.handler = true := by
          cases hhandler : s.handler <;> first | rfl | simp [unready, hhandler] at hunready
        rw [h.fresh.childStep_eq_none hearly] at hstep
        cases hstep
  have hsending : (∃ frame, s.sender = .holding frame) → introduced s.handler = true := by
    rintro ⟨frame, hholding⟩
    cases hgrouped : grouped s.handler with
    | true => cases hhandler : s.handler <;> first | rfl | simp [grouped, hhandler] at hgrouped
    | false =>
        rcases h.resting hgrouped with hstarted | ⟨result, hdone⟩
        · rw [hholding] at hstarted
          cases hstarted
        · rw [hholding] at hdone
          cases hdone
  refine ⟨?_, ?_, ?_, ?_, ?_, ?_, ?_, ?_, ?_, ?_, ?_⟩
  · intro hearly
    rw [hframe.handler] at hearly
    rw [h.fresh.childStep_eq_none hearly] at hstep
    cases hstep
  · rw [hframe.handler, hlate]
    simp
  · rw [hframe.handler, hlate]
    simp
  · rw [hframe.handler, hframe.acquired, hframe.requested]
    exact h.acquiring
  · rcases childStep_sends hstep with hsent | ⟨frame, hholding, hsent⟩
    · rw [hsent]
      exact h.greeted.imp_right fun h => h.of_same hframe.acquired hframe.requested hsent
    · rcases h.greeted with hsilent | hgreeted
      · exact absurd hsilent (h.ready (hsending ⟨frame, hholding⟩))
      · refine Or.inr (hgreeted.snoc ?_ hframe.acquired hframe.requested hsent)
        rintro topics rfl
        exact h.hand topics hholding
  · rw [hframe.handler]
    intro hintroduced
    rcases childStep_sends hstep with hsent | ⟨frame, _, hsent⟩
    · rw [hsent]
      exact h.ready hintroduced
    · simp [hsent]
  · exact fun topics hready => h.hand topics (htells.hand topics hready)
  · rw [hframe.handler]
    exact fun hgrouped => ((h.resting hgrouped).childStep hstep).1
  · rw [hframe.handler, hframe.closes]
    exact h.closed
  · rw [hframe.closes]
    intro close hmem
    have hsent := ((h.resting_of_closes (List.ne_nil_of_mem hmem)).childStep hstep).2
    exact (h.told close hmem).later hmoves.claims hsent hframe.acquired le_rfl
  · intro close hclose
    rcases htells.closeMessage with hsame | ⟨close', hsome, hparts⟩
    · rw [hsame] at hclose
      exact (h.closeMessage close hclose).later hmoves.claims le_rfl
    · rw [hsome, Option.some.injEq] at hclose
      rw [← hclose]
      exact hparts.later hmoves.claims le_rfl

/-! ## Every step -/

/-- Every step of a connection keeps what its client has been told. -/
theorem Spoken.step (h : s.Spoken now) {l : StreamStep}
    (hstep : s.step topicMatchesSub settings jwtDecode id now hub l = some (hub', s')) :
    s'.Spoken now := by
  rcases step_cases hstep with ⟨_, _, hlocal, _⟩ | ⟨_, _, hlocal, _⟩ | ⟨_, hhandler, _, rfl⟩ |
    ⟨_, topic, todo, _, hhandler, _, ⟨_, rfl⟩ | ⟨e, _, rfl⟩⟩ | ⟨_, _, hhandler, _, rfl⟩ |
    ⟨_, _, todo, _, _, hhandler, _, ⟨_, rfl⟩ | ⟨e, _, rfl⟩⟩
  · exact h.handlerStep hlocal
  · exact h.childStep hlocal
  · have hunready : unready s.handler = true := by rw [hhandler]; rfl
    have hnothing := h.unacquired hunready (by rw [hhandler]; rfl)
    have hresting : s.Resting := h.resting (by rw [hhandler]; rfl)
    refine ⟨fun _ => h.fresh (by rw [hhandler]; rfl), fun _ => h.opening hunready, ?_, ?_,
      h.greeted, ?_, h.hand, fun _ => hresting, ?_, h.told, h.closeMessage⟩
    · intro _ hnot
      cases hnot
    · intro todo htodo
      rw [HandlerActivity.acquiring.injEq] at htodo
      rw [hnothing, ← htodo, List.nil_append]
    · intro hintroduced
      cases hintroduced
    · exact h.closes_eq_nil hhandler rfl
  · have hunready : unready s.handler = true := by rw [hhandler]; rfl
    have hsilent := (h.opening hunready).1
    have hresting : s.Resting := h.resting (by rw [hhandler]; rfl)
    have hnil := h.closes_eq_nil hhandler rfl
    refine ⟨fun _ => h.fresh (by rw [hhandler]; rfl), fun _ => h.opening hunready, ?_, ?_,
      Or.inl hsilent, ?_, h.hand, fun _ => hresting, hnil, ?_, h.closeMessage⟩
    · intro _ hnot
      cases hnot
    · intro rest hrest
      rw [HandlerActivity.acquiring.injEq] at hrest
      rw [← hrest, List.append_assoc]
      exact h.acquiring (topic :: todo) hhandler
    · intro hintroduced
      cases hintroduced
    · intro close hmem
      change close ∈ s.closes at hmem
      rw [hnil] at hmem
      cases hmem
  · exact h.fails hhandler rfl (by simp [parting]) e
  · exact h.goes hhandler _ rfl rfl (by simp) rfl rfl (Or.inr rfl)
  · exact h.goes hhandler _ rfl rfl (by simp) rfl rfl (Or.inr rfl)
  · cases isRuntimeError e with
    | true => exact h.goes hhandler (.releasing todo _) rfl rfl (by simp) rfl rfl (Or.inr rfl)
    | false => exact h.goes hhandler (.finished (some e)) rfl rfl (by simp) rfl rfl (Or.inr rfl)

/-- A packet tells a client nothing by itself. -/
theorem Spoken.wsCallback (h : s.Spoken now) (message : ReceivedMessage) :
    (wsCallback topicMatchesSub settings now' message s).Spoken now := by
  rcases wsCallback_cases topicMatchesSub settings now' message s with
    heq | ⟨_, _, ⟨_, heq⟩ | ⟨_, heq⟩⟩
  · rw [heq]
    exact h
  · rw [heq]
    exact { h with }
  · rw [heq]
    exact { h with }

/-- Once {lit}`close` has been called, nothing more is sent. -/
theorem Spoken.hushed_step (h : s.Spoken now) (hcloses : s.closes ≠ []) {l : StreamStep}
    (hstep : s.step topicMatchesSub settings jwtDecode id now hub l = some (hub', s')) :
    s'.sent = s.sent ∧ s'.closes ≠ [] := by
  have hkept : s.closes ⊆ s'.closes → s'.closes ≠ [] := by
    intro hsubset hnil
    rw [hnil, List.subset_nil] at hsubset
    exact hcloses hsubset
  rcases step_cases hstep with ⟨l', _, hlocal, _⟩ | ⟨_, _, hlocal, _⟩ | ⟨_, _, _, rfl⟩ |
    ⟨_, _, _, _, _, _, ⟨_, rfl⟩ | ⟨e, _, rfl⟩⟩ | ⟨_, _, _, _, rfl⟩ |
    ⟨_, _, _, _, _, _, _, ⟨_, rfl⟩ | ⟨e, _, rfl⟩⟩
  · refine ⟨?_, hkept (handlerStep_ends hlocal).closes⟩
    rcases handlerStep_sends hlocal with hsame | hhandler
    · exact hsame
    · exact absurd (h.closes_eq_nil hhandler rfl) hcloses
  · have hsame := (childStep_frame hlocal).closes
    exact ⟨((h.resting_of_closes hcloses).childStep hlocal).2, by rwa [hsame]⟩
  · exact ⟨rfl, hcloses⟩
  · exact ⟨rfl, hcloses⟩
  · exact ⟨fail_sent s e, hkept (fail_ends s e).closes⟩
  · exact ⟨rfl, hcloses⟩
  · exact ⟨rfl, hcloses⟩
  · exact ⟨rfl, hcloses⟩

end Stream

end MqttGateway
