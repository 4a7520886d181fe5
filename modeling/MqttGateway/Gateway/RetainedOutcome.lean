import MqttGateway.Gateway.Ownership

/-!
# The outcome of a retained query

What a query that has acquired its topic and is not cancelled returns, as a function of
the run: the timeout if the deadline has reached it, and otherwise what
{lit}`query_retained` makes of the first retained packet for its topic among the packets
delivered while its callback was registered.  That is the text the statistics and the
streams show exactly if the payload is UTF-8.

Main results:

- Theorem {lit}`outcomes_of_run`: the future of a query follows the packets delivered while its
  callback is registered.
- Theorem {lit}`retained_outcome_iff`: a query ends with the timeout or with the first retained
  packet, as shown everywhere else, exactly if the deadline has reached it or that
  packet is UTF-8.
-/

namespace MqttGateway

open Toolkit

/-- The retained message with the fields of a message as the statistics and the streams show
it. -/
def RetainedMessage.ofShown (message : MQTTMessage) : RetainedMessage where
  topic := message.topic
  payload := message.payload
  qos := message.qos
  retain := message.retain

/-- The first packet for a topic with the retain flag. -/
def firstRetained (topic : PyStr) (messages : List ReceivedMessage) : Option ReceivedMessage :=
  messages.find? fun message => decide (message.topic = topic ∧ message.retain = true)

/-- Later packets do not change which one is first. -/
theorem firstRetained_append {topic : PyStr} {messages : List ReceivedMessage}
    {first : ReceivedMessage} (h : firstRetained topic messages = some first)
    (later : List ReceivedMessage) : firstRetained topic (messages ++ later) = some first := by
  unfold firstRetained at h ⊢
  rw [List.find?_append, h, Option.some_or]

/-- While there is none, a packet becomes the first one if it is retained and for the topic. -/
theorem firstRetained_concat {topic : PyStr} {messages : List ReceivedMessage}
    (h : firstRetained topic messages = none) (message : ReceivedMessage) :
    firstRetained topic (messages ++ [message]) =
      if message.topic = topic ∧ message.retain = true then some message else none := by
  unfold firstRetained at h ⊢
  rw [List.find?_append, h, Option.none_or, List.find?_singleton]
  simp only [decide_eq_true_eq]

namespace Query

/-- The two ways in which a query is said to end: with the timeout, or with the first retained
packet as it is shown everywhere else. -/
def Expected (topic : PyStr) (messages : List ReceivedMessage) (outcome : QueryOutcome) : Prop :=
  outcome = .response { success := false, error := some "Query timeout" } ∨
    ∃ first, firstRetained topic messages = some first ∧
      ∀ now, outcome =
        .response
          { success := true
            message := some (RetainedMessage.ofShown (MQTTMessage.ofReceived now first)) }

/-- A payload that is UTF-8 is answered as it is shown everywhere else. -/
theorem answer_of_decode {message : ReceivedMessage} {text : PyStr}
    (h : Bytes.decode message.payload = .ok text) (now : ℚ) :
    answer message =
      .response
        { success := true
          message := some (RetainedMessage.ofShown (MQTTMessage.ofReceived now message)) } := by
  have htext := Bytes.decodeReplace_of_decode h
  simp only [answer, h, RetainedMessage.ofShown, MQTTMessage.ofReceived, htext]

/-- Any other payload makes the query fail. -/
theorem answer_of_not_decode {message : ReceivedMessage}
    (h : ¬∃ text, Bytes.decode message.payload = .ok text) :
    answer message = .response { success := false, error := some "Retained query failed" } := by
  unfold answer
  split
  · next text hdecode => exact absurd ⟨text, hdecode⟩ h
  · next e hdecode =>
      unfold Bytes.decode at hdecode
      split at hdecode <;> cases hdecode
      rfl

/-- The future has the first retained packet for the topic as its result. -/
def Tracks (q : Query) : Prop :=
  (q.future = .pending ∧ firstRetained q.topic q.seen = none) ∨
    ∃ first, q.future = .result first ∧ firstRetained q.topic q.seen = some first

/-- A packet resolves the future once. -/
theorem Tracks.receive {q : Query} (h : q.Tracks) (message : ReceivedMessage) :
    (q.receive message).Tracks := by
  rcases h with ⟨hpending, hnone⟩ | ⟨first, hresult, hfirst⟩
  · have hnext := firstRetained_concat hnone message
    by_cases hmatch : message.topic = q.topic ∧ message.retain = true
    · rw [if_pos hmatch] at hnext
      refine Or.inr ⟨message, ?_, hnext⟩
      simp [Query.receive, hmatch, hpending]
    · rw [if_neg hmatch] at hnext
      refine Or.inl ⟨?_, hnext⟩
      simp only [Query.receive]
      rw [if_neg fun h => hmatch ⟨h.1, h.2.1⟩, hpending]
  · refine Or.inr ⟨first, ?_, firstRetained_append hfirst [message]⟩
    simp [Query.receive, hresult]

end Query

namespace Gateway

/-- What a step is for the callback of a query: whether it is registered, and the packets it has
been given. -/
def hear (id : Nat) : Bool × List ReceivedMessage → GatewayStep → Bool × List ReceivedMessage
  | (registered, heard), .deliver message =>
      (registered, if registered then heard ++ [message] else heard)
  | (registered, heard), .query k (.start _) => (if k = id then true else registered, heard)
  | (registered, heard), .query k .unregister => (if k = id then false else registered, heard)
  | state, _ => state

/-- The packets delivered between the registration of the callback of a query and its removal,
oldest first. -/
def heard (id : Nat) (steps : List GatewayStep) : List ReceivedMessage :=
  (steps.foldl (hear id) (false, [])).2

/-- How an uncancelled query ends. -/
def Ends (id : Nat) (steps : List GatewayStep) (q : Query) (outcome : QueryOutcome) : Prop :=
  (.query id .deadline ∈ steps ∧ outcome = Query.fail .timeoutError) ∨
    (.query id .deadline ∉ steps ∧
      ∃ first, firstRetained q.topic q.seen = some first ∧ outcome = Query.answer first)

/-- Where a query is, by the steps that have been taken. -/
def Progress (id : Nat) (steps : List GatewayStep) (q : Query) : Prop :=
  match q.activity with
  | .idle => q = Query.initial ∧ ∀ l, .query id l ∉ steps
  | .acquiring =>
      q.topic ≠ [] ∧ q.subscribed = false ∧ q.Tracks ∧ .query id .cancel ∉ steps ∧
        .query id .deadline ∉ steps
  | .waiting =>
      q.topic ≠ [] ∧ q.Tracks ∧ .query id .cancel ∉ steps ∧ .query id .deadline ∉ steps
  | .finishing outcome | .releasing outcome =>
      q.topic ≠ [] ∧
        (q.subscribed = true → .query id .cancel ∉ steps → Ends id steps q outcome)
  | .done outcome =>
      q.subscribed = true → .query id .cancel ∉ steps → Ends id steps q outcome

/-- The packets a query has seen are the ones delivered while its callback was registered,
unless it has ended without its topic. -/
def Follows (id : Nat) (steps : List GatewayStep) (q : Query) : Prop :=
  steps.foldl (hear id) (false, []) = (Query.registered q.activity, q.seen) ∨
    (q.subscribed = false ∧ ∃ outcome, q.activity = .done outcome)

/-- A step that is not the last one has been taken before. -/
theorem mem_concat_of_ne {steps : List GatewayStep} {l step : GatewayStep} (h : step ≠ l) :
    step ∈ steps ++ [l] ↔ step ∈ steps := by
  rw [List.mem_append, List.mem_singleton]
  exact or_iff_left h

/-! ## Steps of the query -/

variable {topicMatchesSub : PyStr → PyStr → Bool} {settings : Settings}
  {jwtDecode : ℚ → PyStr → Except PyException Claims} {g g' : Gateway} {id : Nat}
  {steps : List GatewayStep} {q q' : Query} {hub hub' : Hub}

/-- An end stays the one it was when the run goes on. -/
theorem Ends.concat {outcome : QueryOutcome} (h : Ends id steps q outcome) {l : GatewayStep}
    (hl : l ≠ .query id .deadline) : Ends id (steps ++ [l]) q outcome := by
  unfold Ends
  rw [mem_concat_of_ne hl.symm]
  exact h

/-- A step of the query takes it to where the steps say. -/
theorem Progress.own (h : Progress id steps q) {l : QueryStep} (hdocumented : l.Documented)
    (hstep : q.step topicMatchesSub settings id hub l = some (hub', q')) :
    Progress id (steps ++ [.query id l]) q' := by
  unfold Progress at h
  rcases Query.step_cases hstep with ⟨_, _, rfl, hactivity, _, _, rfl⟩ |
    ⟨_, rfl, hactivity, hauth, _, rfl⟩ | ⟨paho, rfl, hactivity, _, ⟨_, rfl⟩ | ⟨e, _, rfl⟩⟩ |
    ⟨message, rfl, hactivity, hfuture, _, rfl⟩ | ⟨rfl, hactivity, _, rfl⟩ |
    ⟨rfl, hactivity, _, rfl⟩ | ⟨outcome, rfl, hactivity, _, rfl⟩ |
    ⟨paho, outcome, rfl, hactivity, _, hresult⟩
  · rw [hactivity] at h
    intro hsubscribed
    rw [h.1] at hsubscribed
    cases hsubscribed
  · rw [hactivity] at h
    rcases h with ⟨rfl, hnone⟩
    refine ⟨ne_nil_of_authorizeTopic hauth, rfl, Or.inl ⟨rfl, rfl⟩, ?_, ?_⟩
    · rw [mem_concat_of_ne (by simp)]
      exact hnone _
    · rw [mem_concat_of_ne (by simp)]
      exact hnone _
  · rw [hactivity] at h
    rcases h with ⟨htopic, _, htracks, hcancel, hdeadline⟩
    refine ⟨htopic, htracks, ?_, ?_⟩
    · rwa [mem_concat_of_ne (by simp)]
    · rwa [mem_concat_of_ne (by simp)]
  · rw [hactivity] at h
    rcases h with ⟨htopic, hnot, _⟩
    refine ⟨htopic, ?_⟩
    intro hsubscribed
    rw [hnot] at hsubscribed
    cases hsubscribed
  · rw [hactivity] at h
    rcases h with ⟨htopic, htracks, _, hdeadline⟩
    refine ⟨htopic, ?_⟩
    intro _ _
    rcases htracks with ⟨hpending, _⟩ | ⟨first, hresult, hfirst⟩
    · rw [hpending] at hfuture
      cases hfuture
    · rw [hresult, QueryFuture.result.injEq] at hfuture
      subst hfuture
      refine Or.inr ⟨?_, first, hfirst, rfl⟩
      rwa [mem_concat_of_ne (by simp)]
  · rw [hactivity] at h
    refine ⟨h.1, ?_⟩
    intro _ _
    exact Or.inl ⟨List.mem_append_right _ (List.mem_singleton_self _), rfl⟩
  · have hcancelled : GatewayStep.query id .cancel ∈ steps ++ [.query id .cancel] :=
      List.mem_append_right _ (List.mem_singleton_self _)
    rcases hactivity with hactivity | hactivity
    · rw [hactivity] at h
      exact ⟨h.1, fun _ hcancel => absurd hcancelled hcancel⟩
    · rw [hactivity] at h
      exact ⟨h.1, fun _ hcancel => absurd hcancelled hcancel⟩
  · rw [hactivity] at h
    rcases h with ⟨htopic, hends⟩
    refine ⟨htopic, ?_⟩
    intro hsubscribed hcancel
    rw [mem_concat_of_ne (by simp)] at hcancel
    exact (hends hsubscribed hcancel).concat (by simp)
  · rw [hactivity] at h
    rcases h with ⟨htopic, hends⟩
    -- Paho raises nothing for a topic that is not empty, so the outcome stays what it is.
    have hok : (hub.release paho q.topic (.retained id)).1 = .ok () :=
      MQTTService.releaseSubscription_ok (hdocumented q.topic htopic) _ _
    rcases hresult with ⟨_, rfl⟩ | ⟨e, herror, _⟩
    · intro hsubscribed hcancel
      rw [mem_concat_of_ne (by simp)] at hcancel
      exact (hends hsubscribed hcancel).concat (by simp)
    · rw [hok] at herror
      cases herror

/-- A step of the query is what its callback hears of it. -/
theorem Follows.own (h : Follows id steps q) {l : QueryStep}
    (hstep : q.step topicMatchesSub settings id hub l = some (hub', q'))
    (hprogress : Progress id steps q) : Follows id (steps ++ [.query id l]) q' := by
  unfold Follows
  rw [List.foldl_append, List.foldl_cons, List.foldl_nil]
  rcases h with h | ⟨_, outcome, hdone⟩
  · rw [h]
    unfold Progress at hprogress
    rcases Query.step_cases hstep with ⟨_, _, rfl, hactivity, _, _, rfl⟩ |
      ⟨_, rfl, hactivity, _, _, rfl⟩ | ⟨_, rfl, hactivity, _, ⟨_, rfl⟩ | ⟨_, _, rfl⟩⟩ |
      ⟨_, rfl, hactivity, _, _, rfl⟩ | ⟨rfl, hactivity, _, rfl⟩ | ⟨rfl, hactivity, _, rfl⟩ |
      ⟨_, rfl, hactivity, _, rfl⟩ | ⟨_, _, rfl, hactivity, _, ⟨_, rfl⟩ | ⟨_, _, rfl⟩⟩
    · rw [hactivity] at hprogress
      rw [hprogress.1]
      exact Or.inr ⟨rfl, _, rfl⟩
    · simp [hear, Query.registered]
    · simp [hear, Query.registered, hactivity]
    · simp [hear, Query.registered, hactivity]
    · simp [hear, Query.registered, hactivity]
    · simp [hear, Query.registered, hactivity]
    · rcases hactivity with hactivity | hactivity
      · simp [hear, Query.registered, hactivity]
      · simp [hear, Query.registered, hactivity]
    · simp [hear, Query.registered]
    · simp [hear, Query.registered, hactivity]
    · simp [hear, Query.registered, hactivity]
  · rcases Query.step_cases hstep with ⟨_, _, _, hactivity, _⟩ | ⟨_, _, hactivity, _⟩ |
      ⟨_, _, hactivity, _⟩ | ⟨_, _, hactivity, _⟩ | ⟨_, hactivity, _⟩ |
      ⟨_, hactivity | hactivity, _⟩ | ⟨_, _, hactivity, _⟩ | ⟨_, _, _, hactivity, _⟩
    all_goals
      rw [hdone] at hactivity
      cases hactivity

/-! ## Steps of others -/

/-- A packet leaves a query whose callback is registered where it is. -/
theorem Progress.receive (h : Progress id steps q)
    (hregistered : Query.registered q.activity = true) (message : ReceivedMessage) :
    Progress id steps (q.receive message) := by
  unfold Progress at h ⊢
  rw [Query.receive_activity]
  cases hactivity : q.activity with
  | acquiring =>
      rw [hactivity] at h
      exact ⟨h.1, h.2.1, h.2.2.1.receive message, h.2.2.2⟩
  | waiting =>
      rw [hactivity] at h
      exact ⟨h.1, h.2.1.receive message, h.2.2⟩
  | finishing outcome =>
      rw [hactivity] at h
      refine ⟨h.1, ?_⟩
      intro hsubscribed hcancel
      rcases h.2 hsubscribed hcancel with hdeadline | ⟨hdeadline, first, hfirst, houtcome⟩
      · exact Or.inl hdeadline
      · exact Or.inr ⟨hdeadline, first, firstRetained_append hfirst [message], houtcome⟩
  | idle =>
      rw [hactivity] at hregistered
      cases hregistered
  | releasing outcome =>
      rw [hactivity] at hregistered
      cases hregistered
  | done outcome =>
      rw [hactivity] at hregistered
      cases hregistered

/-- A step of anyone else leaves a query where it is. -/
theorem Progress.other (h : Progress id steps q) {l : GatewayStep}
    (hother : l.consumer ≠ some (.retained id)) : Progress id (steps ++ [l]) q := by
  have hne : ∀ l', .query id l' ≠ l := by
    rintro l' rfl
    exact hother rfl
  have hmem : ∀ l', .query id l' ∈ steps ++ [l] ↔ .query id l' ∈ steps :=
    fun l' => mem_concat_of_ne (hne l')
  unfold Progress Ends at h ⊢
  simp only [hmem]
  exact h

/-- A step that is neither the query's own nor a delivery is nothing its callback hears. -/
theorem Follows.other (h : Follows id steps q) {l : GatewayStep}
    (hother : l.consumer ≠ some (.retained id)) (hdeliver : ∀ message, l ≠ .deliver message) :
    Follows id (steps ++ [l]) q := by
  have hhear : ∀ state, hear id state l = state := by
    rintro ⟨registered, heard⟩
    cases l with
    | deliver message => exact absurd rfl (hdeliver message)
    | query k l =>
        have hk : k ≠ id := by
          rintro rfl
          exact hother rfl
        cases l <;> simp [hear, hk]
    | _ => rfl
  unfold Follows
  rw [List.foldl_append, List.foldl_cons, List.foldl_nil, hhear]
  exact h

/-- A packet is heard once while the callback is registered, and otherwise not at all. -/
theorem Follows.deliver (h : Follows id steps q) (message : ReceivedMessage)
    (hq : q' = (Query.receive message)^[if Query.registered q.activity then 1 else 0] q) :
    Follows id (steps ++ [.deliver message]) q' := by
  unfold Follows at h ⊢
  rw [List.foldl_append, List.foldl_cons, List.foldl_nil]
  cases hregistered : Query.registered q.activity with
  | true =>
      rw [hregistered] at h hq
      subst hq
      rcases h with h | ⟨_, outcome, hdone⟩
      · rw [h]
        refine Or.inl ?_
        simp [hear, Query.receive, hregistered]
      · rw [hdone] at hregistered
        cases hregistered
  | false =>
      rw [hregistered] at h hq
      subst hq
      rcases h with h | h
      · rw [h]
        refine Or.inl ?_
        simp [hear, hregistered]
      · exact Or.inr h

/-- Both invariants of every query, after a run. -/
structure Outcomes (steps : List GatewayStep) (g : Gateway) : Prop where
  tidy : TidyQueries g
  progress : ∀ id, Progress id steps (g.queries id)
  follows : ∀ id, Follows id steps (g.queries id)

/-- At the start no query has an outcome. -/
theorem outcomes_initial : Outcomes [] initial where
  tidy := tidyQueries_initial
  progress _ := ⟨rfl, fun _ => List.not_mem_nil⟩
  follows _ := Or.inl rfl

/-- Every step with documented answers of paho keeps the invariants. -/
theorem Outcomes.step (h : Outcomes steps g) {l : GatewayStep} (hdocumented : l.Documented)
    (hstep : g.step topicMatchesSub settings jwtDecode l = some g') :
    Outcomes (steps ++ [l]) g' := by
  refine ⟨h.tidy.step hstep, ?_, ?_⟩
  · intro id
    rcases query_of_step hstep id with ⟨l', rfl, hquery⟩ | ⟨hother, hsame | ⟨message, _, hreceive⟩⟩
    · exact (h.progress id).own hdocumented hquery
    · rw [hsame]
      exact (h.progress id).other hother
    · rw [hreceive, (h.tidy.footprint id).callbacks _ rfl]
      split
      · next hregistered =>
          exact ((h.progress id).receive hregistered message).other hother
      · exact (h.progress id).other hother
  · intro id
    rcases query_of_step hstep id with ⟨l', rfl, hquery⟩ | ⟨hother, hrest⟩
    · exact (h.follows id).own hquery (h.progress id)
    · by_cases hdeliver : ∃ message, l = .deliver message
      · rcases hdeliver with ⟨message, rfl⟩
        cases hstep
        have hqueries := (foldl_callback topicMatchesSub settings message
          g.hub.packetCallbacks g).2.2.1 id
        have hcount := (h.tidy.footprint id).callbacks _ rfl
        rw [hcount] at hqueries
        exact (h.follows id).deliver message hqueries
      · rcases hrest with hsame | ⟨message, hl, _⟩
        · rw [hsame]
          exact (h.follows id).other hother fun message hl => hdeliver ⟨message, hl⟩
        · exact absurd ⟨message, hl⟩ hdeliver

/-- After every run each query has the outcome that its steps say. -/
theorem outcomes_of_run
    (hrun : (machine topicMatchesSub settings jwtDecode).GuardedRun
      (fun _ l => l.Documented) steps g) : Outcomes steps g :=
  Machine.GuardedRun.invariant outcomes_initial
    (fun _ _ _ _ _ h hdocumented hstep => h.step hdocumented hstep) hrun

/-! ## The outcome -/

/-- In every run in which paho's {lit}`unsubscribe` raises only what it documents: a query that
has acquired its topic, is not cancelled and has ended returns the timeout or the first
retained packet delivered to it, as it is shown everywhere else, if and only if the
deadline has reached it or the payload of that packet is UTF-8. -/
theorem retained_outcome_iff
    (hrun : (machine topicMatchesSub settings jwtDecode).GuardedRun
      (fun _ l => l.Documented) steps g)
    {outcome : QueryOutcome} (hdone : (g.queries id).activity = .done outcome)
    (hsubscribed : (g.queries id).subscribed = true)
    (hcancel : .query id .cancel ∉ steps) :
    Query.Expected (g.queries id).topic (heard id steps) outcome ↔
      .query id .deadline ∈ steps ∨
        ∃ first text, firstRetained (g.queries id).topic (heard id steps) = some first ∧
          Bytes.decode first.payload = .ok text := by
  have h := outcomes_of_run hrun
  have hheard : heard id steps = (g.queries id).seen := by
    rcases h.follows id with hfollows | ⟨hnot, _⟩
    · rw [heard, hfollows]
    · rw [hsubscribed] at hnot
      cases hnot
  have hends : Ends id steps (g.queries id) outcome := by
    have hprogress := h.progress id
    rw [Progress, hdone] at hprogress
    exact hprogress hsubscribed hcancel
  rw [hheard]
  rcases hends with ⟨hdeadline, rfl⟩ | ⟨hdeadline, first, hfirst, rfl⟩
  · exact iff_of_true (Or.inl rfl) (Or.inl hdeadline)
  · constructor
    · intro hexpected
      by_contra hnot
      have hbinary : ¬∃ text, Bytes.decode first.payload = .ok text :=
        fun ⟨text, htext⟩ => hnot (Or.inr ⟨first, text, hfirst, htext⟩)
      rw [Query.answer_of_not_decode hbinary] at hexpected
      rcases hexpected with htimeout | ⟨_, _, hsuccess⟩
      · exact absurd htimeout (by decide)
      · have hsuccess := hsuccess 0
        simp at hsuccess
    · rintro (h | ⟨first', text, hfirst', htext⟩)
      · exact absurd h hdeadline
      · rw [hfirst, Option.some.injEq] at hfirst'
        subst hfirst'
        exact Or.inr ⟨first, hfirst, Query.answer_of_decode htext⟩

/-- A query for a topic whose live value comes before the retained one. -/
def answeredQuery : List GatewayStep :=
  let topic := PyStr.lit ['a']
  [.connection true, .query 0 (.start topic), .query 0 (.acquire connectedPaho),
    .deliver ⟨topic, [110], 0, false⟩, .deliver ⟨topic, [111], 0, true⟩, .query 0 .resume,
    .query 0 .unregister, .query 0 (.release connectedPaho)]

/-- The query is answered with what it has heard. -/
theorem retained_outcome_iff_answered :
    ∃ g outcome, sample.Run answeredQuery g ∧ (g.queries 0).activity = .done outcome ∧
      Query.Expected (g.queries 0).topic (heard 0 answeredQuery) outcome := by
  have hexec : (sample.exec initial answeredQuery).isSome := by decide +kernel
  rcases Option.isSome_iff_exists.mp hexec with ⟨g, hg⟩
  have hrun : sample.Run answeredQuery g := Machine.run_iff_exec.mpr hg
  have hdocumented : ∀ l ∈ answeredQuery, l.Documented := by
    simp [answeredQuery, GatewayStep.Documented, QueryStep.Documented, connectedPaho,
      Paho.UnsubscribeDocumented]
  have hstate : (sample.exec initial answeredQuery).map (fun g =>
      ((g.queries 0).activity, (g.queries 0).subscribed, (g.queries 0).topic)) =
      some (.done (.response
        { success := true
          message := some ⟨PyStr.lit ['a'], PyStr.lit ['o'], 0, true⟩ }),
        true, PyStr.lit ['a']) := by
    decide +kernel
  rw [hg, Option.map_some, Option.some.injEq] at hstate
  simp only [Prod.mk.injEq] at hstate
  rcases hstate with ⟨hdone, hsubscribed, htopic⟩
  have hcancel : .query 0 .cancel ∉ answeredQuery := by simp [answeredQuery]
  refine ⟨g, _, hrun, hdone, ?_⟩
  refine (retained_outcome_iff (hrun.guarded hdocumented) hdone hsubscribed hcancel).mpr ?_
  rw [htopic]
  exact Or.inr ⟨⟨PyStr.lit ['a'], [111], 0, true⟩, PyStr.lit ['o'], by decide, by decide⟩

/-- A query whose topic has a retained payload that is not UTF-8. -/
def binaryQuery : List GatewayStep :=
  let topic := PyStr.lit ['a']
  [.connection true, .query 0 (.start topic), .query 0 (.acquire connectedPaho),
    .deliver ⟨topic, [0xFF], 0, true⟩, .query 0 .resume, .query 0 .unregister,
    .query 0 (.release connectedPaho)]

/-- The query fails although it has heard a retained packet for its topic. -/
theorem binary_payload_fails :
    ∃ g outcome, sample.Run binaryQuery g ∧ (g.queries 0).activity = .done outcome ∧
      (g.queries 0).subscribed = true ∧ .query 0 .cancel ∉ binaryQuery ∧
      ¬Query.Expected (g.queries 0).topic (heard 0 binaryQuery) outcome := by
  have hexec : (sample.exec initial binaryQuery).isSome := by decide +kernel
  rcases Option.isSome_iff_exists.mp hexec with ⟨g, hg⟩
  have hstate : (sample.exec initial binaryQuery).map (fun g =>
      ((g.queries 0).activity, (g.queries 0).subscribed)) =
      some (.done (.response
        { success := false
          error := some "Retained query failed" }), true) := by
    decide +kernel
  rw [hg, Option.map_some, Option.some.injEq] at hstate
  simp only [Prod.mk.injEq] at hstate
  refine ⟨g, _, Machine.run_iff_exec.mpr hg, hstate.1, hstate.2, by simp [binaryQuery], ?_⟩
  rintro (htimeout | ⟨_, _, hsuccess⟩)
  · exact absurd htimeout (by decide)
  · have hsuccess := hsuccess 0
    simp at hsuccess

end Gateway

end MqttGateway
