import MqttGateway.Gateway.EndToEnd
import MqttGateway.Gateway.LoginTrace

/-!
# What the endpoints answer

The answers of the interface in the states that a run can reach.

Main results:

- Theorem {lit}`token_window`: the token of a login is accepted exactly until it expires, in a
  header of a request, in a header of a websocket and in its first frame.
- Theorem {lit}`topics_listed_exactly`: the list of topics has one entry for each topic that
  anybody holds, with what has been delivered for it.
- Theorem {lit}`published_text_returns`: a text that has been published is the text that any
  consumer of the gateway makes of its packet.
-/

namespace MqttGateway

open Toolkit

/-- The value of an {lit}`Authorization` header with a token. -/
def bearer (token : PyStr) : PyStr :=
  PyStr.lit ['B', 'e', 'a', 'r', 'e', 'r'] ++ PyStr.char ' ' :: token

/-- The first frame of a client that presents a token. -/
def authFrame (token : PyStr) : Json :=
  .obj [(PyStr.lit ['t', 'y', 'p', 'e'], .str (PyStr.lit ['a', 'u', 't', 'h'])),
    (PyStr.lit ['t', 'o', 'k', 'e', 'n'], .str token)]

theorem headerToken_bearer (token : PyStr) : headerToken (bearer token) = token := by
  have hscheme : ∀ c ∈ PyStr.lit ['B', 'e', 'a', 'r', 'e', 'r'],
      decide (c ≠ PyStr.char ' ') = true :=
    List.all_eq_true.mp (by decide +kernel)
  have hpartition : PyStr.partition (bearer token) (PyStr.char ' ') =
      (PyStr.lit ['B', 'e', 'a', 'r', 'e', 'r'], token) := by
    simp only [PyStr.partition, bearer, List.takeWhile_append_of_pos hscheme,
      List.dropWhile_append_of_pos hscheme]
    simp
  rw [headerToken, hpartition]
  exact if_neg (by decide)

theorem frameToken_authFrame (token : PyStr) : frameToken (authFrame token) = .str token := by
  have htype : Json.get? [(PyStr.lit ['t', 'y', 'p', 'e'], .str (PyStr.lit ['a', 'u', 't', 'h'])),
      (PyStr.lit ['t', 'o', 'k', 'e', 'n'], .str token)] (PyStr.lit ['t', 'y', 'p', 'e']) =
        some (.str (PyStr.lit ['a', 'u', 't', 'h'])) := by
    rfl
  have htoken : Json.get? [(PyStr.lit ['t', 'y', 'p', 'e'],
      .str (PyStr.lit ['a', 'u', 't', 'h'])), (PyStr.lit ['t', 'o', 'k', 'e', 'n'], .str token)]
        (PyStr.lit ['t', 'o', 'k', 'e', 'n']) = some (.str token) := by
    rfl
  simp [frameToken, authFrame, htype, htoken, Json.text?]

namespace Stream

variable {topicMatchesSub : PyStr → PyStr → Bool} {settings : ApiSettings}
  {pbkdf2Hmac : Bytes → Bytes → Nat → FixedBytes 32} {jwt : Jwt} {time : ℚ} {form : LoginForm}
  {answer : Token}

/-- The requested filters pass, or a refusal says why not. -/
theorem checkTopics_cases (topicMatchesSub : PyStr → PyStr → Bool) (settings : Settings)
    (requested : List PyStr) :
    checkTopics topicMatchesSub settings requested = .ok () ∨
      ∃ code detail,
        checkTopics topicMatchesSub settings requested = .error (.httpException code detail) := by
  cases hcheck : checkTopics topicMatchesSub settings requested with
  | ok _ => exact Or.inl rfl
  | error e =>
      unfold checkTopics at hcheck
      split at hcheck
      · cases hcheck
        exact Or.inr ⟨400, _, rfl⟩
      · rcases exists_of_forM_eq_error hcheck with ⟨topic, _, hraises⟩
        rcases authorizeTopic_ok_or_refused topicMatchesSub settings topic true with
          hok | ⟨code, detail, hrefused⟩
        · rw [hok] at hraises
          cases hraises
        · rw [hrefused, Except.error.injEq] at hraises
          exact Or.inr ⟨code, detail, by rw [← hraises]⟩

/-- What the gate makes of the token of a login. -/
theorem gate_of_login (topicMatchesSub : PyStr → PyStr → Bool)
    (hjwt : jwt.Documented settings.jwtSecretKey)
    (hlogin : login pbkdf2Hmac jwt settings time form = .ok answer)
    (hlength : answer.accessToken.length ≤ 8192) (now : ℚ) (s : Stream) :
    gate topicMatchesSub settings.toSettings (jwt.decode settings.jwtSecretKey now)
        (.str answer.accessToken) s =
      if now < (⌊time⌋ + answer.expiresIn : ℤ) then
        if checkTopics topicMatchesSub settings.toSettings (requestedTopics s.topics) = .ok () then
          { s with
            claims := some (loginClaims settings time)
            requested := requestedTopics s.topics
            handler := if s.accepted then .registering else .accepting }
        else s.reject .topicNotAllowed false
      else s.reject .invalidToken false := by
  have hclaims : tokenClaims settings.toSettings (jwt.decode settings.jwtSecretKey now)
      (.str answer.accessToken) = .ok (if now < (⌊time⌋ + answer.expiresIn : ℤ) then
        some (loginClaims settings time) else none) := by
    rw [tokenClaims, if_pos hlength]
    exact verify_of_login hjwt hlogin now
  by_cases hnow : now < (⌊time⌋ + answer.expiresIn : ℤ)
  · rw [if_pos hnow] at hclaims ⊢
    rcases checkTopics_cases topicMatchesSub settings.toSettings (requestedTopics s.topics) with
      hcheck | ⟨code, detail, hcheck⟩
    · simp only [gate, hclaims, hcheck, if_true]
    · simp only [gate, hclaims, hcheck, reduceCtorEq, if_false]
  · rw [if_neg hnow] at hclaims ⊢
    simp only [gate, hclaims]

end Stream

section

variable {pbkdf2Hmac : Bytes → Bytes → Nat → FixedBytes 32} {jwt : Jwt} {settings : ApiSettings}
  {time : ℚ} {form : LoginForm} {answer : Token}

/-- The token of a login is accepted for as many seconds as the answer says, counted from the whole
second of the login, and not a moment longer: for a request, in the header of a websocket
and in its first frame. -/
theorem token_window (topicMatchesSub : PyStr → PyStr → Bool)
    (hjwt : jwt.Documented settings.jwtSecretKey)
    (hlogin : login pbkdf2Hmac jwt settings time form = .ok answer) (now : ℚ) :
    (getCurrentUser jwt settings now (some answer.accessToken) =
      if now < (⌊time⌋ + answer.expiresIn : ℤ) then .ok ⟨settings.apiUsername, []⟩
      else .error (.httpException 401 "Invalid token")) ∧
    (answer.accessToken.length ≤ 8192 →
      ∀ (s : Stream) (topics : PyStr), s.claims = none →
        (s.handler = .idle → ∃ s',
          s.handlerStep topicMatchesSub settings.toSettings (jwt.decode settings.jwtSecretKey now)
              now (.connect (some (bearer answer.accessToken)) topics) = some s' ∧
            (s'.claims ≠ none ↔ now < (⌊time⌋ + answer.expiresIn : ℤ) ∧
              Stream.checkTopics topicMatchesSub settings.toSettings
                (Stream.requestedTopics topics) = .ok ())) ∧
        (s.handler = .awaitingAuth → ∃ s',
          s.handlerStep topicMatchesSub settings.toSettings (jwt.decode settings.jwtSecretKey now)
              now (.authFrame (authFrame answer.accessToken)) = some s' ∧
            (s'.claims ≠ none ↔ now < (⌊time⌋ + answer.expiresIn : ℤ) ∧
              Stream.checkTopics topicMatchesSub settings.toSettings
                (Stream.requestedTopics s.topics) = .ok ()))) := by
  refine ⟨getCurrentUser_of_login hjwt hlogin now, ?_⟩
  intro hlength s topics hnone
  have hgate : ∀ t : Stream, t.claims = none →
      ((Stream.gate topicMatchesSub settings.toSettings (jwt.decode settings.jwtSecretKey now)
        (.str answer.accessToken) t).claims ≠ none ↔
        now < (⌊time⌋ + answer.expiresIn : ℤ) ∧
          Stream.checkTopics topicMatchesSub settings.toSettings
            (Stream.requestedTopics t.topics) = .ok ()) := by
    intro t ht
    rw [Stream.gate_of_login topicMatchesSub hjwt hlogin hlength]
    by_cases hnow : now < (⌊time⌋ + answer.expiresIn : ℤ)
    · by_cases hcheck : Stream.checkTopics topicMatchesSub settings.toSettings
          (Stream.requestedTopics t.topics) = .ok ()
      · rw [if_pos hnow, if_pos hcheck]
        exact ⟨fun _ => ⟨hnow, hcheck⟩, fun _ => Option.some_ne_none _⟩
      · rw [if_pos hnow, if_neg hcheck]
        exact ⟨fun hne => absurd ht hne, fun h => absurd h.2 hcheck⟩
    · rw [if_neg hnow]
      exact ⟨fun hne => absurd ht hne, fun h => absurd h.1 hnow⟩
  refine ⟨?_, ?_⟩
  · intro hidle
    refine ⟨_, ?_, hgate { s with topics } hnone⟩
    simp only [Stream.handlerStep, hidle, headerToken_bearer]
  · intro hawaiting
    refine ⟨_, ?_, hgate s hnone⟩
    simp only [Stream.handlerStep, hawaiting, frameToken_authFrame]

/-- The token of the sample login is accepted at second 59 and refused at second 60. -/
theorem token_window_minute :
    ∃ answer, login (fun _ _ _ => passphraseDigest) sampleJwt ApiSettings.sample 0
        LoginForm.sample = .ok answer ∧
      getCurrentUser sampleJwt ApiSettings.sample 59 (some answer.accessToken) =
        .ok ⟨PyStr.lit ['a', 'p', 'i'], []⟩ ∧
      getCurrentUser sampleJwt ApiSettings.sample 60 (some answer.accessToken) =
        .error (.httpException 401 "Invalid token") := by
  let matching : PyStr → PyStr → Bool := fun filter topic => decide (MqttMatches filter topic)
  have hlogin : login (fun _ _ _ => passphraseDigest) sampleJwt ApiSettings.sample 0
      LoginForm.sample = .ok ⟨createAccessToken sampleJwt ApiSettings.sample 0
        (loginPayload LoginForm.sample.username) none, 60⟩ :=
    login_eq_ok_iff.mpr ⟨⟨rfl, [97, 112, 105], by decide +kernel⟩, by decide +kernel, rfl⟩
  have hbefore := (token_window matching (sampleJwt_documented _) hlogin 59).1
  have hafter := (token_window matching (sampleJwt_documented _) hlogin 60).1
  rw [if_pos (by norm_num)] at hbefore
  rw [if_neg (by norm_num)] at hafter
  exact ⟨_, hlogin, hbefore, hafter⟩

end

namespace App

variable {topicMatchesSub : PyStr → PyStr → Bool} {settings : ApiSettings}
  {pbkdf2Hmac : Bytes → Bytes → Nat → FixedBytes 32} {jwt : Jwt} {app : App}
  {steps : List AppStep}

/-! ## The list of topics -/

theorem topic_info {accepted : List (ℚ × ReceivedMessage)} {statistics : TopicStatistics}
    (h : Summarizes settings.toSettings accepted statistics) (topic : PyStr) :
    (statistics.info topic).topic = topic ∧
      (statistics.info topic).messageCount =
        (if topic ∈ recent settings.mqttQueueSize (topicsOf accepted)
          then streak settings.mqttQueueSize topic (topicsOf accepted) else 0) := by
  have hmem : topic ∈ recent settings.mqttQueueSize (topicsOf accepted) ↔
      ∃ v, statistics.get? topic = some v := by
    rw [← h.keys, ← Dict.mem_def, Dict.mem_iff_get?]
  unfold TopicStatistics.info
  cases hget : statistics.get? topic with
  | none =>
      rw [hget] at hmem
      rw [if_neg fun hrecent => by simpa using hmem.mp hrecent]
      exact ⟨rfl, rfl⟩
  | some info =>
      rw [if_pos (hmem.mpr ⟨info, hget⟩)]
      exact ⟨h.topic topic info hget, h.messageCount topic info hget⟩

theorem find?_info {statistics : TopicStatistics}
    (h : ∀ topic, (statistics.info topic).topic = topic) (keys : List PyStr) (topic : PyStr) :
    ((keys.map statistics.info).find? fun info => info.topic = topic) =
      if topic ∈ keys then some (statistics.info topic) else none := by
  induction keys with
  | nil => rfl
  | cons key rest ih =>
      rw [List.map_cons, List.find?_cons, h]
      by_cases hkey : key = topic
      · simp [hkey]
      · simp [hkey, Ne.symm hkey, ih]

/-- In every state of a run, the list of topics has one entry for each topic that anybody holds,
with the count of the packets delivered for it; and the entry of a single topic is the one
in the list, if the topic is in it. -/
theorem topics_listed_exactly
    (hrun : (machine topicMatchesSub settings pbkdf2Hmac jwt).Run steps app) :
    ∃ calls infos, calls.map Prod.snd = steps.flatMap AppStep.delivered ∧
      listTopics topicMatchesSub settings.toSettings app.gateway.hub app.gateway.statistics =
        .ok infos ∧
      (infos.map TopicInfo.topic).Nodup ∧
      (∀ topic, topic ∈ infos.map TopicInfo.topic ↔
        ∃ owner qos, app.gateway.hub.service.held topic owner = some qos) ∧
      (∀ info ∈ infos,
        let topics := topicsOf (acceptedOf topicMatchesSub settings.toSettings calls)
        info.messageCount = if info.topic ∈ recent settings.mqttQueueSize topics
          then streak settings.mqttQueueSize info.topic topics else 0) ∧
      ∀ topic, topicInfo topicMatchesSub settings.toSettings app.gateway.hub
          app.gateway.statistics topic =
        match infos.find? fun info => info.topic = topic with
        | some info => .ok info
        | none => .error (.httpException 404 "Topic not subscribed") := by
  rcases gateway_of_run hrun with ⟨_, hgateway, hdelivered⟩
  rcases Gateway.statistics_of_run hgateway with ⟨calls, hcalls, hstatistics⟩
  have hcoherent := (Gateway.tidyQueries_of_run hgateway).coherent
  have hsummary := summarizes_handleMessages topicMatchesSub settings.toSettings calls
  rw [← hstatistics] at hsummary
  let keys := app.gateway.hub.service.subscriptions.keys
  have hheld : ∀ topic, topic ∈ keys ↔
      ∃ owner qos, app.gateway.hub.service.held topic owner = some qos :=
    fun topic => hcoherent.mem_subscriptions_iff
  have hauth : ∀ topic ∈ keys,
      authorizeTopic topicMatchesSub topic settings.toSettings true = .ok () := by
    intro topic hmem
    rcases (hheld topic).mp hmem with ⟨owner, qos, howner⟩
    exact Gateway.held_authorized_of_run hgateway topic owner (by rw [howner]; simp)
  have htopics : (keys.map app.gateway.statistics.info).map TopicInfo.topic = keys := by
    rw [List.map_map]
    exact (List.map_congr_left fun topic _ => (topic_info hsummary topic).1).trans
      (List.map_id keys)
  refine ⟨calls, keys.map app.gateway.statistics.info, hcalls.trans hdelivered, ?_, ?_, ?_, ?_, ?_⟩
  · rw [listTopics, mapM_getTopicInfo_run app.gateway.statistics hauth]
  · rw [htopics]
    exact app.gateway.hub.service.subscriptions.nodup
  · rw [htopics]
    exact hheld
  · intro info hmem
    rcases List.mem_map.mp hmem with ⟨topic, _, rfl⟩
    rw [(topic_info hsummary topic).1]
    exact (topic_info hsummary topic).2
  · intro topic
    rw [find?_info fun topic => (topic_info hsummary topic).1]
    by_cases hmem : topic ∈ keys
    · have hsubscribed : isSubscribed app.gateway.hub topic = true := decide_eq_true hmem
      rw [if_pos hmem, topicInfo, hsubscribed, getTopicInfo_run (hauth topic hmem)]
      rfl
    · have hsubscribed : isSubscribed app.gateway.hub topic = false := decide_eq_false hmem
      rw [if_neg hmem, topicInfo, hsubscribed]
      rfl

/-- A subscription to the topic of {lit}`messageOn`. -/
def subscribeToA : SubscribeRequest where
  topic := messageOn.topic
  qos := messageOn.qos
  topic_length := messageOn.topic_length
  qos_range := messageOn.qos_range

/-- A text is published and comes back from the broker. -/
def publishedAndReceived : List AppStep :=
  [.gateway (.connection true), .login LoginForm.sample,
    .arrive 0 (some tokenAtZero) (.subscribe subscribeToA),
    .serve 0 Gateway.connectedPaho ⟨true, .ok (mqttErrSuccess, 1), fun _ => ""⟩,
    .arrive 1 (some tokenAtZero) (.publish messageOn),
    .serve 1 Gateway.connectedPaho ⟨true, .ok (mqttErrSuccess, 1), fun _ => ""⟩,
    .gateway (.deliver ⟨PyStr.lit ['a'], [111, 110], 0, false⟩)]

/-- The topic is listed with the one packet that has been delivered for it. -/
theorem topics_listed_exactly_received :
    ∃ app infos, sample.Run publishedAndReceived app ∧
      listTopics (fun filter topic => decide (MqttMatches filter topic)) Settings.default
        app.gateway.hub app.gateway.statistics = .ok infos ∧
      ∃ info ∈ infos, info.topic = PyStr.lit ['a'] ∧ info.messageCount = 1 := by
  let matching : PyStr → PyStr → Bool := fun filter topic => decide (MqttMatches filter topic)
  let message : ReceivedMessage := ⟨PyStr.lit ['a'], [111, 110], 0, false⟩
  have hexec : (sample.exec initial publishedAndReceived).isSome := by decide +kernel
  rcases Option.isSome_iff_exists.mp hexec with ⟨app, happ⟩
  have hstate : (sample.exec initial publishedAndReceived).map (fun app =>
      app.gateway.hub.service.held (PyStr.lit ['a']) .rest) = some (some 0) := by
    decide +kernel
  rw [happ, Option.map_some, Option.some.injEq] at hstate
  have hrun : sample.Run publishedAndReceived app := Machine.run_iff_exec.mpr happ
  rcases topics_listed_exactly hrun with ⟨calls, infos, hcalls, hlist, _, hheld, hcount, _⟩
  rcases List.mem_map.mp ((hheld _).mpr ⟨.rest, 0, hstate⟩) with ⟨info, hinfo, htopic⟩
  refine ⟨app, infos, hrun, hlist, info, hinfo, htopic, ?_⟩
  -- The run delivers one packet, and the packet is accepted.
  have hone : calls.map Prod.snd = [message] := hcalls
  rcases List.map_eq_singleton_iff.mp hone with ⟨call, rfl, hcall⟩
  have haccepted : PacketAccepted matching Settings.default message := by decide +kernel
  have htopics : topicsOf (acceptedOf matching Settings.default [call]) = [PyStr.lit ['a']] := by
    simp [acceptedOf, topicsOf, hcall, haccepted, message]
  rw [hcount info hinfo, htopic]
  change (if _ ∈ recent _ (topicsOf (acceptedOf matching Settings.default [call])) then
    streak _ _ (topicsOf (acceptedOf matching Settings.default [call])) else 0) = 1
  rw [htopics]
  decide +kernel

/-! ## Published texts -/

/-- A request that is answered with success has handed its packet to paho. -/
theorem published_of_endpoint {app' : App} {id : Nat} {paho : Paho} {publishing : PahoPublish}
    {body : RestBody}
    (h : endpoint topicMatchesSub settings jwt app id paho publishing body = some app')
    {request : PublishRequest} {response : PublishResponse}
    (hanswered : app'.requests id = .answered (.publish request) (.ok (.published response)))
    (hsuccess : response.success = true) :
    authorizeTopic topicMatchesSub request.topic settings.toSettings false = .ok () ∧
      ∃ payload, PyStr.encode request.payload = .ok payload ∧
        request.packet payload ∈ app'.publications := by
  rcases (served_of_endpoint h).requests with ⟨activity, hactivity, _, hrequests⟩
  rw [hrequests, Function.update_self] at hanswered
  rw [hanswered] at hactivity
  cases hactivity
  simp only [endpoint, Option.some.injEq] at h
  rcases publish_cases topicMatchesSub settings.toSettings app.gateway.hub.service.client
    publishing request app.publications with
    ⟨e, _, hrun⟩ | ⟨_, hrun⟩ | ⟨payload, hauth, _, hencode, hrun⟩
  · rw [hrun] at h
    subst h
    have hsame := congrFun hrequests id
    rw [Function.update_self, hanswered] at hsame
    simp [answer, Except.map] at hsame
  · rw [hrun] at h
    subst h
    have hsame := congrFun hrequests id
    rw [Function.update_self, hanswered] at hsame
    simp only [answer, Except.map, Function.update_self, RequestActivity.answered.injEq,
      Except.ok.injEq, RestResponse.published.injEq, true_and] at hsame
    rw [← hsame] at hsuccess
    cases hsuccess
  · rw [hrun] at h
    subst h
    exact ⟨hauth, payload, hencode, List.mem_append_right _ (List.mem_singleton_self _)⟩

/-- A publish request that has been answered with success has handed its packet to paho. -/
def SuccessfulArePublished (topicMatchesSub : PyStr → PyStr → Bool) (settings : ApiSettings)
    (app : App) : Prop :=
  ∀ id request response,
    app.requests id = .answered (.publish request) (.ok (.published response)) →
    response.success = true →
      authorizeTopic topicMatchesSub request.topic settings.toSettings false = .ok () ∧
        ∃ payload, PyStr.encode request.payload = .ok payload ∧
          request.packet payload ∈ app.publications

theorem publications_subset_of_step {app' : App} {l : AppStep}
    (hstep : app.step topicMatchesSub settings pbkdf2Hmac jwt l = some app') :
    app.publications ⊆ app'.publications := by
  rcases step_cases hstep with ⟨_, _, _, _, _, rfl⟩ | ⟨_, _, ⟨_, _, rfl⟩ | rfl⟩ |
    ⟨_, _, _, _, _, ⟨_, _, rfl⟩ | ⟨_, rfl⟩⟩ | ⟨_, _, _, _, _, _, _, hserved⟩
  · exact List.Subset.refl _
  · exact List.Subset.refl _
  · exact List.Subset.refl _
  · exact List.Subset.refl _
  · exact List.Subset.refl _
  · rcases hserved.publications with hsame | ⟨_, _, _, _, _, happend⟩
    · rw [hsame]
      exact List.Subset.refl _
    · rw [happend]
      exact List.subset_append_left _ _

/-- A request that has an answer had it before, or its endpoint has just run. -/
theorem answered_of_step {app' : App} {l : AppStep}
    (hstep : app.step topicMatchesSub settings pbkdf2Hmac jwt l = some app') {id : Nat}
    {body : RestBody} {response : Except PyException RestResponse}
    (hanswered : app'.requests id = .answered body response) :
    app.requests id = .answered body response ∨
      ∃ paho publishing,
        endpoint topicMatchesSub settings jwt app id paho publishing body = some app' := by
  rcases step_cases hstep with ⟨_, _, _, _, _, rfl⟩ | ⟨_, _, ⟨_, _, rfl⟩ | rfl⟩ |
    ⟨id', _, _, _, _, ⟨_, _, rfl⟩ | ⟨_, rfl⟩⟩ |
    ⟨id', paho, publishing, _, body', rfl, hadmitted, hserved⟩
  · exact Or.inl hanswered
  · exact Or.inl hanswered
  · exact Or.inl hanswered
  · by_cases hid : id = id'
    · subst hid
      simp at hanswered
    · exact Or.inl (by simpa [hid] using hanswered)
  · by_cases hid : id = id'
    · subst hid
      simp at hanswered
    · exact Or.inl (by simpa [hid] using hanswered)
  · rcases hserved.requests with ⟨activity, hactivity, _, hrequests⟩
    rw [hrequests] at hanswered
    by_cases hid : id = id'
    · subst hid
      rw [Function.update_self] at hanswered
      rw [hanswered] at hactivity
      cases hactivity
      simp only [step, hadmitted] at hstep
      exact Or.inr ⟨paho, publishing, hstep⟩
    · exact Or.inl (by simpa [hid] using hanswered)

theorem successfulArePublished_of_run
    (hrun : (machine topicMatchesSub settings pbkdf2Hmac jwt).Run steps app) :
    SuccessfulArePublished topicMatchesSub settings app := by
  refine Machine.Reachable.invariant (P := SuccessfulArePublished topicMatchesSub settings)
    (fun id request response hanswered => by cases hanswered) ?_ ⟨steps, hrun⟩
  intro app l app' h hstep id request response hanswered hsuccess
  rcases answered_of_step hstep hanswered with hbefore | ⟨paho, publishing, hendpoint⟩
  · rcases h id request response hbefore hsuccess with ⟨hauth, payload, hencode, hmem⟩
    exact ⟨hauth, payload, hencode, publications_subset_of_step hstep hmem⟩
  · exact published_of_endpoint hendpoint hanswered hsuccess

/-- In every run, a publish request that has been answered with success has handed a packet to
paho.  Of all packets for its topic, a retained query gives its text back for those with that
payload and for no others; the topic statistics and the websockets show its text for them
too, and the statistics count them if they fit the limit. -/
theorem published_text_returns
    (hrun : (machine topicMatchesSub settings pbkdf2Hmac jwt).Run steps app) {id : Nat}
    {request : PublishRequest} {response : PublishResponse}
    (hanswered : app.requests id = .answered (.publish request) (.ok (.published response)))
    (hsuccess : response.success = true) :
    ∃ payload, request.packet payload ∈ app.publications ∧
      ∀ message : ReceivedMessage, message.topic = request.topic →
        (Query.answer message = .response
            { success := true
              message := some ⟨request.topic, request.payload, message.qos, message.retain⟩ } ↔
          message.payload = payload) ∧
        (message.payload = payload →
          (∀ now, (MQTTMessage.ofReceived now message).payload = request.payload) ∧
          (PacketAccepted topicMatchesSub settings.toSettings message ↔
            payload.length ≤ settings.maxMessageBytes)) := by
  rcases successfulArePublished_of_run hrun id request response hanswered hsuccess with
    ⟨hauth, payload, hencode, hmem⟩
  refine ⟨payload, hmem, ?_⟩
  intro message htopic
  have hdecode := Bytes.decode_of_encode hencode
  refine ⟨⟨?_, ?_⟩, ?_⟩
  · intro hquery
    unfold Query.answer at hquery
    split at hquery
    · next text htext =>
        simp only [QueryOutcome.response.injEq, RetainedQueryResponse.mk.injEq, Option.some.injEq,
          RetainedMessage.mk.injEq, true_and, and_true] at hquery
        rw [hquery.2] at htext
        exact Except.ok.inj ((PyStr.encode_of_decode htext).symm.trans hencode)
    · next e _ =>
        unfold Query.fail at hquery
        split at hquery
        · simp at hquery
        · split at hquery <;> simp at hquery
  · rintro rfl
    simp [Query.answer, hdecode, htopic]
  · rintro rfl
    refine ⟨fun now => Bytes.decodeReplace_of_decode hdecode, ?_⟩
    exact ⟨fun h => h.1, fun h => ⟨h, by rw [htopic, hauth]⟩⟩

theorem published_text_returns_received :
    ∃ app, sample.Run publishedAndReceived app ∧ ∃ payload,
      messageOn.packet payload ∈ app.publications ∧
      ∀ now, (MQTTMessage.ofReceived now ⟨PyStr.lit ['a'], payload, 0, false⟩).payload =
        PyStr.lit ['o', 'n'] := by
  have hexec : (sample.exec initial publishedAndReceived).isSome := by decide +kernel
  rcases Option.isSome_iff_exists.mp hexec with ⟨app, happ⟩
  have hstate : (sample.exec initial publishedAndReceived).map (fun app => app.requests 1) =
      some (.answered (.publish messageOn)
        (.ok (.published ⟨true, some 1, PyStr.lit ['a']⟩))) := by
    decide +kernel
  rw [happ, Option.map_some, Option.some.injEq] at hstate
  have hrun : sample.Run publishedAndReceived app := Machine.run_iff_exec.mpr happ
  rcases published_text_returns hrun hstate rfl with ⟨payload, hmem, hreturns⟩
  exact ⟨app, hrun, payload, hmem,
    ((hreturns ⟨PyStr.lit ['a'], payload, 0, false⟩ rfl).2 rfl).1⟩

end App

end MqttGateway
