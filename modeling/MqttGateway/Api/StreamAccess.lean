import MqttGateway.Api.StreamSteps
import Mathlib.Logic.Function.Iterate

/-!
# The gate and the clock of a connection

The claims of a token open the gate of a connection: before {lit}`verify_token` has returned
them and every requested filter has been authorized, a connection has nothing and sends
nothing.  Their {lit}`exp` closes it: the sender looks at the clock before it takes a
message and not again before it hands the message over, so that its data frames end in
time as long as {lit}`exp` does not come while it has a message at hand.

Main results:

- Theorem {lit}`handlerStep_admits`: a step of the handler admits the client or nobody.
- Theorem {lit}`step_onHub`: only an admitted connection takes a step on the hub.
- Theorems {lit}`InTime.handlerStep` and {lit}`InTime.childStep`: the steps of a connection keep it
  in time.
- Theorem {lit}`InTime.of_kept`: so does whatever else happens, when no expired message is at
  hand after it.
-/

namespace MqttGateway

open Toolkit

namespace Stream

/-! ## The gate -/

/-- The client has not been admitted yet. -/
def undecided : HandlerActivity → Bool
  | .idle | .acceptingForAuth | .awaitingAuth => true
  | .rejecting _ | .accepting | .registering | .acquiring _ | .awaitingReady | .streaming
  | .joining _ | .closing | .closingUnavailable | .unregistering _ | .releasing _ _
  | .finished _ => false

/-- The handler is before its gate, or has ended. -/
def outside : HandlerActivity → Bool
  | .idle | .acceptingForAuth | .awaitingAuth | .rejecting _ | .finished _ => true
  | .accepting | .registering | .acquiring _ | .awaitingReady | .streaming | .joining _
  | .closing | .closingUnavailable | .unregistering _ | .releasing _ _ => false

variable {topicMatchesSub : PyStr → PyStr → Bool} {settings : Settings}
  {jwtDecode : PyStr → Except PyException Claims} {id : Nat} {now : ℚ} {hub hub' : Hub}
  {s s' : Stream}

/-- A step of the handler in which nobody is admitted. -/
structure Unadmitted (s s' : Stream) : Prop where
  claims : s'.claims = s.claims
  requested : s'.requested = s.requested
  topics : s'.topics = s.topics ∨ s.handler = .idle
  stays : outside s.handler = true →
    outside s'.handler = true ∧ s'.sent = s.sent ∧ s'.sender = s.sender
  decided : undecided s'.handler = true → undecided s.handler = true
  /-- Only the ready frame is sent. -/
  sent : ∃ ready, s'.sent = s.sent ++ ready ∧ ∀ entry ∈ ready, ∃ topics, entry.2 = .ready topics

/-- A step that only moves the handler and closes the connection. -/
theorem Unadmitted.of_handler {source : HandlerActivity} (hsource : s.handler = source)
    (target : HandlerActivity) (houtside : (!outside source || outside target) = true)
    (hundecided : (!undecided target || undecided source) = true) (closes : List CloseFrame) :
    Unadmitted s { s with handler := target, closes } := by
  subst hsource
  refine ⟨rfl, rfl, Or.inl rfl, ?_, ?_, ⟨[], by simp, by simp⟩⟩
  · intro h
    rw [h] at houtside
    exact ⟨houtside, rfl, rfl⟩
  · intro h
    change undecided target = true at h
    rw [h] at hundecided
    exact hundecided

/-- Whoever has a registered callback is inside. -/
theorem outside_of_registered {activity : HandlerActivity} (h : registered activity = true) :
    outside activity = false := by
  cases activity <;> first | rfl | cases h

/-- An exception admits nobody. -/
theorem fail_unadmitted {source : HandlerActivity} (hsource : s.handler = source)
    (hinside : outside source = false) (e : PyException) : Unadmitted s (s.fail e) := by
  have houtside : ∀ target, (!outside source || outside target) = true := by
    intro target
    rw [hinside]
    rfl
  unfold fail
  split
  · exact .of_handler hsource .closingUnavailable (houtside _) rfl _
  · exact .of_handler hsource (.unregistering (some e)) (houtside _) rfl _

/-- A mere move of the handler admits nobody. -/
theorem OnlyGoes.unadmitted (h : s.OnlyGoes s') : Unadmitted s s' := by
  rcases h with ⟨target, closes, hgoes, _, rfl⟩
  generalize hsource : s.handler = source at hgoes
  refine .of_handler hsource target ?_ ?_ closes
  · cases hgoes <;> rfl
  · cases hgoes <;> rfl

/-- What the gate has checked when it admits a client. -/
structure Admits (topicMatchesSub : PyStr → PyStr → Bool) (settings : Settings)
    (jwtDecode : PyStr → Except PyException Claims) (l : HandlerStep) (claims : Claims)
    (requested : List PyStr) : Prop where
  token : ∃ text, Presents (.str text) l ∧ text.length ≤ 8192 ∧
    verifyToken settings jwtDecode text = .ok (some claims)
  count : 1 ≤ requested.length ∧ requested.length ≤ settings.websocketMaxTopics
  authorized : ∀ topic ∈ requested, authorizeTopic topicMatchesSub topic settings true = .ok ()

/-- Claims come from {lit}`verify_token`, for a string that is not too long. -/
theorem verifyToken_of_tokenClaims {token : Json} {claims : Claims}
    (h : tokenClaims settings jwtDecode token = .ok (some claims)) :
    ∃ text, token = .str text ∧ text.length ≤ 8192 ∧
      verifyToken settings jwtDecode text = .ok (some claims) := by
  unfold tokenClaims at h
  split at h
  · next text =>
      split at h
      · next hlength => exact ⟨text, rfl, hlength, h⟩
      · cases h
  · cases h

/-- The checks of the requested filters bound their number. -/
theorem length_of_checkTopics {requested : List PyStr}
    (h : checkTopics topicMatchesSub settings requested = .ok ()) :
    1 ≤ requested.length ∧ requested.length ≤ settings.websocketMaxTopics := by
  unfold checkTopics at h
  split at h
  · cases h
  · next hcount =>
      rw [not_or, Nat.not_lt] at hcount
      exact ⟨List.length_pos_of_ne_nil hcount.1, hcount.2⟩

/-- The code behind the token admits the client or nobody. -/
theorem gate_admits {token : Json} {l : HandlerStep} (hpresents : Presents token l)
    (s : Stream) :
    Unadmitted s (gate topicMatchesSub settings jwtDecode token s) ∨
      ∃ claims, gate topicMatchesSub settings jwtDecode token s =
          { s with
            claims := some claims
            requested := requestedTopics s.topics
            handler := if s.accepted then .registering else .accepting } ∧
        Admits topicMatchesSub settings jwtDecode l claims (requestedTopics s.topics) := by
  rcases gate_cases topicMatchesSub settings jwtDecode token s with
    ⟨close, heq⟩ | ⟨e, heq⟩ | ⟨claims, hclaims, hcheck, heq⟩
  · rw [heq]
    exact Or.inl (.of_handler rfl (.rejecting false) (by simp [outside]) rfl _)
  · rw [heq]
    exact Or.inl (.of_handler rfl (.finished (some e)) (by simp [outside]) rfl _)
  · rcases verifyToken_of_tokenClaims hclaims with ⟨text, rfl, hlength, hverify⟩
    exact Or.inr ⟨claims, heq, ⟨text, hpresents, hlength, hverify⟩,
      length_of_checkTopics hcheck, fun topic => authorizeTopic_of_checkTopics hcheck⟩

/-- A step of the handler admits the client or nobody. -/
theorem handlerStep_admits {l : HandlerStep}
    (h : s.handlerStep topicMatchesSub settings jwtDecode now l = some s') :
    Unadmitted s s' ∨
      undecided s.handler = true ∧ undecided s'.handler = false ∧ s'.sender = s.sender ∧
        s'.sent = s.sent ∧ s'.requested = requestedTopics s'.topics ∧
        ∃ claims, s'.claims = some claims ∧
          Admits topicMatchesSub settings jwtDecode l claims s'.requested := by
  have hnext : ∀ accepted : Bool,
      undecided (if accepted then .registering else .accepting) = false := by
    decide
  rcases handlerStep_cases h with
    ⟨token, t, hpresents, ⟨hidle, topics, rfl⟩ | ⟨hawaiting, rfl⟩, rfl⟩ | ⟨topics, hidle, rfl⟩ |
    ⟨hhandler, rfl⟩ | ⟨hhandler, rfl⟩ | ⟨hhandler, rfl⟩ | ⟨hhandler, _, rfl⟩ | ⟨hhandler, rfl⟩ |
    ⟨e, hregistered, rfl⟩ | hgoes
  · let t : Stream := { s with topics }
    have ht : undecided t.handler = true := by
      change undecided s.handler = true
      rw [hidle]
      rfl
    rcases gate_admits hpresents t with hnobody | ⟨claims, heq, hadmits⟩
    · exact Or.inl { hnobody with topics := Or.inr hidle }
    · rw [heq]
      exact Or.inr ⟨ht, hnext _, rfl, rfl, rfl, claims, rfl, hadmits⟩
  · have hundecided : undecided t.handler = true := by
      rw [hawaiting]
      rfl
    rcases gate_admits hpresents t with hnobody | ⟨claims, heq, hadmits⟩
    · exact Or.inl hnobody
    · rw [heq]
      exact Or.inr ⟨hundecided, hnext _, rfl, rfl, rfl, claims, rfl, hadmits⟩
  · have hmove : Unadmitted s { s with handler := .acceptingForAuth } :=
      .of_handler hidle .acceptingForAuth rfl rfl _
    exact Or.inl { hmove with topics := Or.inr hidle }
  · have hmove : Unadmitted s { s with handler := .awaitingAuth } :=
      .of_handler hhandler .awaitingAuth rfl rfl _
    exact Or.inl { hmove with }
  · exact Or.inl ⟨rfl, rfl, Or.inl rfl, by simp [hhandler, outside], by simp [undecided],
      ⟨_, rfl, by simp⟩⟩
  · exact Or.inl ⟨rfl, rfl, Or.inl rfl, by simp [hhandler, outside], by simp [undecided],
      ⟨[], by simp, by simp⟩⟩
  · exact Or.inl (.of_handler hhandler (.joining none) rfl rfl _)
  · unfold leaveGroup
    split
    · exact Or.inl (fail_unadmitted hhandler rfl _)
    · exact Or.inl (.of_handler hhandler .closing rfl rfl _)
    · exact Or.inl (.of_handler hhandler (.unregistering none) rfl rfl _)
  · exact Or.inl (fail_unadmitted rfl (outside_of_registered hregistered) e)
  · exact Or.inl hgoes.unadmitted

/-! ## The sender and the clock -/

/-- The sender waits for a message or holds one. -/
def takes : SenderActivity → Bool
  | .getting | .holding (.data _) => true
  | .notStarted | .checking | .holding (.ready _) | .holding .ping | .sending | .done _ => false

/-- The sender has a message at hand: one it holds, or one that it can take from the queue. -/
def AtHand (s : Stream) : Prop :=
  takes s.sender = true ∧ (s.sender = .getting → s.messageQueue ≠ [])

instance (s : Stream) : Decidable s.AtHand :=
  inferInstanceAs (Decidable (_ ∧ (_ → _ ≠ _)))

/-- The token has expired. -/
def Expired (s : Stream) (now : ℚ) : Prop :=
  match s.exp with
  | .ok exp => exp ≤ now
  | .error _ => False

instance (s : Stream) (now : ℚ) : Decidable (s.Expired now) :=
  match h : s.exp with
  | .ok exp =>
      if hle : exp ≤ now then isTrue (by simpa [Expired, h] using hle)
      else isFalse (by simpa [Expired, h] using hle)
  | .error _ => isFalse (by simp [Expired, h])

/-- What a step of a child task leaves as it is, and what it does to the sender. -/
structure SenderMoves (now : ℚ) (s s' : Stream) : Prop where
  claims : s'.claims = s.claims
  topics : s'.topics = s.topics
  sender : (s'.sender = s.sender ∧ s'.messageQueue = s.messageQueue ∧ s'.sent = s.sent) ∨
    s.sender ≠ .notStarted ∧
      ((s'.sender = .getting ∧ s'.sent = s.sent ∧ ∃ exp, s.exp = .ok exp ∧ now < exp) ∨
        (s.AtHand ∧ s'.sent = s.sent ∧ ∃ message, s'.sender = .holding (.data message)) ∨
        (∃ frame, s.sender = .holding frame ∧ s'.sender = .sending ∧
          s'.sent = s.sent ++ [(now, frame)]) ∨
        takes s'.sender = false ∧ s'.sent = s.sent)

/-- A step in which the sender stops to take messages. -/
theorem SenderMoves.of_quiet (hstarted : s.sender ≠ .notStarted) (target : SenderActivity)
    (hquiet : takes target = false) (now : ℚ) (finished : Bool) :
    SenderMoves now s { s with sender := target, finished } :=
  ⟨rfl, rfl, Or.inr ⟨hstarted, Or.inr (Or.inr (Or.inr ⟨hquiet, rfl⟩))⟩⟩

/-- A sender that ends with a close message takes nothing and sends nothing. -/
theorem senderReturns_moves (hstarted : s.sender ≠ .notStarted) (now : ℚ) (close : CloseFrame) :
    SenderMoves now s (s.senderReturns close) := by
  have hmove : SenderMoves now s { s with sender := .done (some close), finished := true } :=
    .of_quiet hstarted _ rfl now true
  exact { hmove with }

/-- Nor does one that ends with an exception. -/
theorem senderFails_moves (hstarted : s.sender ≠ .notStarted) (now : ℚ) (e : PyException) :
    SenderMoves now s (s.senderFails e) := by
  unfold senderFails
  split
  · exact senderReturns_moves hstarted now _
  · have hmove : SenderMoves now s { s with sender := .done none, finished := true } :=
      .of_quiet hstarted _ rfl now true
    exact { hmove with }

/-- A sender with empty hands that does not wait for a message takes none. -/
theorem takes_of_inHand {activity : SenderActivity} (hhand : inHand activity = [])
    (hgetting : activity ≠ .getting) : takes activity = false := by
  cases activity with
  | getting => exact absurd rfl hgetting
  | holding frame =>
      cases frame with
      | data message => cases hhand
      | ready topics => rfl
      | ping => rfl
  | notStarted | checking | sending | done result => rfl

/-- Every step of a child task moves the sender in one of these ways, or not at all. -/
theorem childStep_moves {l : ChildStep} (h : s.childStep now l = some s') :
    SenderMoves now s s' := by
  rcases childStep_cases h with ⟨hactive, ⟨close, rfl⟩ | ⟨e, rfl⟩⟩ |
    ⟨activity, hactive, hhand, _, hgetting, rfl⟩ | ⟨message, queue, hgetting, hqueue, rfl⟩ |
    ⟨frame, hholding, rfl⟩ | ⟨_, rfl⟩ | ⟨_, rfl⟩ | ⟨_, _, rfl⟩ | ⟨_, _, hcancelled⟩
  · exact senderReturns_moves hactive.started now close
  · exact senderFails_moves hactive.started now e
  · by_cases hnext : activity = .getting
    · exact ⟨rfl, rfl, Or.inr ⟨hactive.started, Or.inl ⟨hnext, rfl, hgetting hnext⟩⟩⟩
    · have hquiet := takes_of_inHand hhand hnext
      exact ⟨rfl, rfl, Or.inr ⟨hactive.started, Or.inr (Or.inr (Or.inr ⟨hquiet, rfl⟩))⟩⟩
  · have hathand : s.AtHand := by simp [AtHand, takes, hgetting, hqueue]
    exact ⟨rfl, rfl, Or.inr ⟨by simp [hgetting], Or.inr (Or.inl ⟨hathand, rfl, message, rfl⟩)⟩⟩
  · exact ⟨rfl, rfl, Or.inr ⟨by simp [hholding],
      Or.inr (Or.inr (Or.inl ⟨frame, hholding, rfl, rfl⟩))⟩⟩
  · exact ⟨rfl, rfl, Or.inl ⟨rfl, rfl, rfl⟩⟩
  · exact ⟨rfl, rfl, Or.inl ⟨rfl, rfl, rfl⟩⟩
  · exact ⟨rfl, rfl, Or.inl ⟨rfl, rfl, rfl⟩⟩
  · rcases childCancelled_cases hcancelled with ⟨hactive, rfl⟩ | ⟨_, rfl⟩ | ⟨_, rfl⟩
    · exact .of_quiet hactive.started (.done none) rfl now true
    · exact ⟨rfl, rfl, Or.inl ⟨rfl, rfl, rfl⟩⟩
    · exact ⟨rfl, rfl, Or.inl ⟨rfl, rfl, rfl⟩⟩

/-- The same claims expire at the same time. -/
theorem exp_of_claims (h : s'.claims = s.claims) : s'.exp = s.exp := by
  unfold exp
  rw [h]

/-- The expiry of a connection is the one of its claims. -/
theorem exp_eq_ok_iff {exp : ℚ} :
    s.exp = .ok exp ↔ ∃ claims, s.claims = some claims ∧ claims.exp = .ok exp := by
  unfold Stream.exp
  cases s.claims with
  | none => simp
  | some claims => simp

/-- A token has expired if its expiry can be read and has come. -/
theorem expired_iff : s.Expired now ↔ ∃ exp, s.exp = .ok exp ∧ exp ≤ now := by
  unfold Expired
  cases s.exp with
  | error e => simp
  | ok exp => simp

/-- The same claims have expired or not. -/
theorem expired_of_claims (h : s'.claims = s.claims) : s'.Expired now ↔ s.Expired now := by
  unfold Expired
  rw [exp_of_claims h]

/-- What holds of a connection in time: a message is at hand only before the token expires, and
was sent only before it. -/
structure InTime (now : ℚ) (s : Stream) : Prop where
  valid : takes s.sender = true → ∃ exp, s.exp = .ok exp
  atHand : s.AtHand → ∀ exp, s.exp = .ok exp → now < exp
  sent : ∀ t message, (t, .data message) ∈ s.sent → ∃ exp, s.exp = .ok exp ∧ t < exp

/-- As long as a message is at hand in time, the token has not expired. -/
theorem InTime.not_expired (h : InTime now s) (hhand : s.AtHand) : ¬s.Expired now := by
  rcases h.valid hhand.1 with ⟨exp, hvalid⟩
  simpa [Expired, hvalid] using h.atHand hhand exp hvalid

/-- A sender that takes no message is in time if the frames so far were. -/
theorem inTime_of_quiet (hquiet : takes s.sender = false)
    (hsent : ∀ t message, (t, .data message) ∈ s.sent → ∃ exp, s.exp = .ok exp ∧ t < exp) :
    InTime now s := by
  refine ⟨?_, ?_, hsent⟩
  · intro htakes
    rw [hquiet] at htakes
    cases htakes
  · intro hhand
    have htakes := hhand.1
    rw [hquiet] at htakes
    cases htakes

/-- A connection begins in time. -/
theorem inTime_initial : InTime now initial :=
  inTime_of_quiet rfl (by simp [initial])

/-- A step that leaves the sender and its queue alone and sends no data. -/
theorem InTime.of_same (h : InTime now s) (hclaims : s'.claims = s.claims)
    (hsender : s'.sender = s.sender) (hqueue : s'.messageQueue = s.messageQueue)
    (hsent : ∀ t message, (t, .data message) ∈ s'.sent → (t, .data message) ∈ s.sent) :
    InTime now s' := by
  have hexp := exp_of_claims hclaims
  refine ⟨?_, ?_, ?_⟩
  · rw [hsender, hexp]
    exact h.valid
  · unfold AtHand
    rw [hsender, hqueue, hexp]
    exact h.atHand
  · intro t message hmem
    rw [hexp]
    exact h.sent t message (hsent t message hmem)

/-- A step of the handler keeps a connection in time. -/
theorem InTime.handlerStep (h : InTime now s)
    (hfresh : undecided s.handler = true → s.sender = .notStarted ∧ s.sent = [])
    {l : HandlerStep}
    (hstep : s.handlerStep topicMatchesSub settings jwtDecode now l = some s') :
    InTime now s' := by
  have hframe := handlerStep_frame hstep
  rcases handlerStep_admits hstep with hnobody | ⟨hundecided, _, hsender, hsent, _⟩
  · rcases hnobody.sent with ⟨ready, hsent, hready⟩
    have hold : ∀ t message, (t, .data message) ∈ s'.sent → (t, .data message) ∈ s.sent := by
      intro t message hmem
      rw [hsent, List.mem_append] at hmem
      rcases hmem with hmem | hmem
      · exact hmem
      · rcases hready _ hmem with ⟨topics, heq⟩
        cases heq
    rcases hframe.children with ⟨hsender, _⟩ | ⟨_, _, hsender, _⟩
    · exact h.of_same hnobody.claims hsender hframe.messageQueue hold
    · refine inTime_of_quiet (by rw [hsender]; rfl) ?_
      rw [exp_of_claims hnobody.claims]
      exact fun t message hmem => h.sent t message (hold t message hmem)
  · rcases hfresh hundecided with ⟨hnotStarted, hnone⟩
    refine inTime_of_quiet (by rw [hsender, hnotStarted]; rfl) ?_
    rw [hsent, hnone]
    nofun

/-- A step of a child task keeps a connection in time. -/
theorem InTime.childStep (h : InTime now s) {l : ChildStep}
    (hstep : s.childStep now l = some s') : InTime now s' := by
  have hmoves := childStep_moves hstep
  have hexp := exp_of_claims hmoves.claims
  have hold : s'.sent = s.sent →
      ∀ t message, (t, .data message) ∈ s'.sent → ∃ exp, s'.exp = .ok exp ∧ t < exp := by
    intro hsent
    rw [hsent, hexp]
    exact h.sent
  rcases hmoves.sender with ⟨hsender, hqueue, hsent⟩ | ⟨_, ⟨hsender, hsent, exp, hvalid, hless⟩ |
    ⟨hhand, hsent, message, hsender⟩ | ⟨frame, hholding, hsender, hsent⟩ | ⟨hquiet, hsent⟩⟩
  · exact h.of_same hmoves.claims hsender hqueue (by rw [hsent]; exact fun _ _ hmem => hmem)
  · refine ⟨fun _ => ⟨exp, hexp.trans hvalid⟩, ?_, hold hsent⟩
    intro _ exp' hvalid'
    rw [hexp, hvalid, Except.ok.injEq] at hvalid'
    exact hvalid' ▸ hless
  · refine ⟨fun _ => ?_, fun _ => ?_, hold hsent⟩
    · rw [hexp]
      exact h.valid hhand.1
    · rw [hexp]
      exact h.atHand hhand
  · refine inTime_of_quiet (by rw [hsender]; rfl) ?_
    intro t message hmem
    rw [hexp]
    rw [hsent, List.mem_append, List.mem_singleton] at hmem
    rcases hmem with hmem | hmem
    · exact h.sent t message hmem
    · cases hmem
      have hhand : s.AtHand := by simp [AtHand, hholding, takes]
      rcases h.valid hhand.1 with ⟨exp, hvalid⟩
      exact ⟨exp, hvalid, h.atHand hhand exp hvalid⟩
  · exact inTime_of_quiet hquiet (hold hsent)

/-- What neither a packet nor a step on the hub changes. -/
structure Kept (s s' : Stream) : Prop where
  claims : s'.claims = s.claims
  requested : s'.requested = s.requested
  topics : s'.topics = s.topics
  sender : s'.sender = s.sender
  sent : s'.sent = s.sent

/-- Packets leave the claims, the requests and the frames as they are. -/
theorem iterate_wsCallback_kept (topicMatchesSub : PyStr → PyStr → Bool)
    (settings : Settings) (now : ℚ) (message : ReceivedMessage) (n : Nat) (s : Stream) :
    Kept s ((wsCallback topicMatchesSub settings now message)^[n] s) := by
  refine Function.Iterate.rec (Kept s) ⟨rfl, rfl, rfl, rfl, rfl⟩ ?_ n
  intro t h
  rcases wsCallback_cases topicMatchesSub settings now message t with
    heq | ⟨_, _, ⟨_, heq⟩ | ⟨_, heq⟩⟩
  · rw [heq]
    exact h
  · rw [heq]
    exact { h with }
  · rw [heq]
    exact { h with }

/-- What a step on the hub does to the connection. -/
structure OnHub (s s' : Stream) : Prop where
  kept : Kept s s'
  messageQueue : s'.messageQueue = s.messageQueue
  inside : outside s.handler = false
  decided : undecided s'.handler = false

/-- An exception in a step on the hub changes nothing else of the connection. -/
theorem fail_onHub {source : HandlerActivity} (hsource : s.handler = source)
    (hinside : outside source = false) (e : PyException) : OnHub s (s.fail e) := by
  rw [← hsource] at hinside
  unfold fail
  split
  · exact ⟨⟨rfl, rfl, rfl, rfl, rfl⟩, rfl, hinside, rfl⟩
  · exact ⟨⟨rfl, rfl, rfl, rfl, rfl⟩, rfl, hinside, rfl⟩

/-- Only a connection past its gate takes a step on the hub. -/
theorem step_onHub {l : StreamStep}
    (h : s.step topicMatchesSub settings jwtDecode id now hub l = some (hub', s')) :
    (∃ l', l = .handler l' ∧
        s.handlerStep topicMatchesSub settings jwtDecode now l' = some s' ∧ hub' = hub) ∨
      (∃ l', l = .child l' ∧ s.childStep now l' = some s' ∧ hub' = hub) ∨ OnHub s s' := by
  have hmoves : ∀ target, outside s.handler = false → undecided target = false → ∀ acquired,
      OnHub s { s with handler := target, acquired } :=
    fun target hinside hdecided acquired => ⟨⟨rfl, rfl, rfl, rfl, rfl⟩, rfl, hinside, hdecided⟩
  rcases step_cases h with hlocal | hlocal | ⟨_, hhandler, _, rfl⟩ |
    ⟨_, _, todo, _, hhandler, _, ⟨_, rfl⟩ | ⟨e, _, rfl⟩⟩ | ⟨exception, _, hhandler, _, rfl⟩ |
    ⟨_, _, todo, exception, _, hhandler, _, ⟨_, rfl⟩ | ⟨e, _, rfl⟩⟩
  · exact Or.inl hlocal
  · exact Or.inr (Or.inl hlocal)
  · exact Or.inr (Or.inr (hmoves _ (by rw [hhandler]; rfl) rfl _))
  · exact Or.inr (Or.inr (hmoves _ (by rw [hhandler]; rfl) rfl _))
  · exact Or.inr (Or.inr (fail_onHub hhandler rfl e))
  · exact Or.inr (Or.inr (hmoves _ (by rw [hhandler]; rfl) rfl _))
  · exact Or.inr (Or.inr (hmoves _ (by rw [hhandler]; rfl) rfl _))
  · refine Or.inr (Or.inr (hmoves _ (by rw [hhandler]; rfl) ?_ _))
    split <;> rfl

/-- A packet that {lit}`ws_callback` does not drop for its topic or its size. -/
def Wanted (topicMatchesSub : PyStr → PyStr → Bool) (settings : Settings) (s : Stream)
    (message : ReceivedMessage) : Prop :=
  (s.requested.any fun pattern => topicMatchesSub pattern message.topic) = true ∧
    message.payload.length ≤ settings.maxMessageBytes

instance (topicMatchesSub : PyStr → PyStr → Bool) (settings : Settings) (s : Stream)
    (message : ReceivedMessage) : Decidable (s.Wanted topicMatchesSub settings message) :=
  inferInstanceAs (Decidable (_ ∧ _))

/-- Nothing is at hand after a packet that was not before it, unless the sender waits for it. -/
theorem atHand_of_iterate {message : ReceivedMessage} {n : Nat}
    (h : ((wsCallback topicMatchesSub settings now message)^[n] s).AtHand) :
    s.AtHand ∨ s.sender = .getting ∧ n ≠ 0 ∧ s.Wanted topicMatchesSub settings message := by
  rcases h with ⟨htakes, hqueue⟩
  have hkept := iterate_wsCallback_kept topicMatchesSub settings now message n s
  rw [hkept.sender] at htakes hqueue
  by_cases hgetting : s.sender = .getting
  · by_cases hwaiting : s.messageQueue = []
    · refine Or.inr ⟨hgetting, ?_, ?_⟩
      · rintro rfl
        exact hqueue hgetting hwaiting
      · rcases wsCallback_cases topicMatchesSub settings now message s with
          heq | ⟨hany, hlength, _⟩
        · rw [Function.iterate_fixed heq] at hqueue
          exact absurd hwaiting (hqueue hgetting)
        · exact ⟨hany, hlength⟩
    · exact Or.inl ⟨htakes, fun _ => hwaiting⟩
  · exact Or.inl ⟨htakes, fun h => absurd h hgetting⟩

/-- A wanted packet is queued, or the queue is full. -/
theorem messageQueue_wsCallback {message : ReceivedMessage}
    (h : s.Wanted topicMatchesSub settings message) :
    (wsCallback topicMatchesSub settings now message s).messageQueue ≠ [] := by
  rcases h with ⟨hany, hlength⟩
  have hlong : ¬settings.maxMessageBytes < message.payload.length := Nat.not_lt.mpr hlength
  unfold wsCallback
  simp only [hany, Bool.not_true, Bool.false_eq_true, if_false, hlong]
  by_cases hroom : s.messageQueue.length < settings.websocketQueueSize
  · rw [Queue.putNowait_run_of_lt hroom]
    simp
  · have hfull := Nat.le_of_not_lt hroom
    rw [Queue.putNowait_run_of_full settings.websocketQueueSize_pos hfull]
    exact List.ne_nil_of_length_pos (Nat.lt_of_lt_of_le settings.websocketQueueSize_pos hfull)

/-- After a packet that the connection wants there is something in its queue. -/
theorem messageQueue_of_wanted {message : ReceivedMessage}
    (h : s.Wanted topicMatchesSub settings message) {n : Nat} (hn : n ≠ 0) :
    ((wsCallback topicMatchesSub settings now message)^[n] s).messageQueue ≠ [] := by
  have hkeeps : ∀ t : Stream, t.messageQueue ≠ [] →
      (wsCallback topicMatchesSub settings now message t).messageQueue ≠ [] := by
    intro t ht
    rcases wsCallback_cases topicMatchesSub settings now message t with
      heq | ⟨_, _, ⟨_, heq⟩ | ⟨_, heq⟩⟩
    · rwa [heq]
    · rw [heq]
      exact List.append_ne_nil_of_left_ne_nil ht _
    · rwa [heq]
  rcases Nat.exists_eq_succ_of_ne_zero hn with ⟨m, rfl⟩
  rw [Function.iterate_succ_apply]
  exact Function.Iterate.rec (fun t : Stream => t.messageQueue ≠ []) (messageQueue_wsCallback h)
    hkeeps m

/-- The clock goes on, or a packet arrives, and no expired message is at hand. -/
theorem InTime.of_kept (h : InTime now s) (hkept : Kept s s') {now' : ℚ}
    (hguard : ¬(s'.AtHand ∧ s'.Expired now')) : InTime now' s' := by
  have hexp := exp_of_claims hkept.claims
  refine ⟨?_, ?_, ?_⟩
  · rw [hkept.sender, hexp]
    exact h.valid
  · intro hhand exp hvalid
    by_contra hlate
    refine hguard ⟨hhand, ?_⟩
    simpa [Expired, hvalid] using hlate
  · rw [hkept.sent, hexp]
    exact h.sent

/-- A message that is at hand is held, or can be taken. -/
theorem holds_of_atHand (h : s.AtHand) (now : ℚ) :
    (∃ message, s.sender = .holding (.data message)) ∨
      ∃ t message, s.childStep now .senderGets = some t ∧ t.sender = .holding (.data message) ∧
        t.claims = s.claims := by
  rcases h with ⟨htakes, hqueue⟩
  unfold takes at htakes
  split at htakes
  · next hgetting =>
      rcases List.exists_cons_of_ne_nil (hqueue hgetting) with ⟨message, queue, hmessages⟩
      refine Or.inr ⟨{ s with messageQueue := queue, sender := .holding (.data message) },
        message, ?_, rfl, rfl⟩
      simp [childStep, hgetting, hmessages]
  · next message hholding => exact Or.inl ⟨message, hholding⟩
  all_goals cases htakes

end Stream

end MqttGateway
