import MqttGateway.Gateway.Application

/-!
# Everything goes back to a login

Whoever wants anything of the gateway presents a token, and the gateway accepts a token only if
it has been signed with its key.  As long as nobody else signs tokens with that key, the tokens
it accepts are those of its own logins, each for a limited time.

Main results:

- Theorem {lit}`served_only_after_login`: nothing is published, subscribed, answered or streamed
  but for a request or a websocket that presented the token of an earlier login in time.
- Theorem {lit}`frames_end_with_login`: the data frames of a websocket end with the token of its
  login.
-/

namespace MqttGateway

open Toolkit

/-- The token that a step presents. -/
def AppStep.token : AppStep → Option PyStr
  | .arrive _ credentials _ => credentials
  | .gateway (.stream _ (.handler (.connect (some header) _))) => some (headerToken header)
  | .gateway (.stream _ (.handler (.authFrame frame))) => (frameToken frame).text?
  | _ => none

/-- Whether {lit}`verify_token` returns the claims of a token. -/
def accepts (jwt : Jwt) (settings : ApiSettings) (now : ℚ) (token : PyStr) : Bool :=
  match verify jwt settings now token with
  | .ok (some _) => true
  | _ => false

namespace Gateway

variable {topicMatchesSub : PyStr → PyStr → Bool} {settings : Settings}
  {jwtDecode : ℚ → PyStr → Except PyException Claims} {g g' : Gateway}

/-- A connection keeps its claims, or gets those of a token it presents. -/
theorem claims_of_step {l : GatewayStep}
    (hstep : g.step topicMatchesSub settings jwtDecode l = some g') (id : Nat) :
    (g'.streams id).claims = (g.streams id).claims ∨
      ∃ l' text claims, l = .stream id (.handler l') ∧ Stream.Presents (.str text) l' ∧
        verifyToken settings (jwtDecode g.now) text = .ok (some claims) ∧
        (g'.streams id).claims = some claims := by
  rcases stream_of_step hstep id with ⟨l', rfl, hstream⟩ | ⟨hother, _⟩
  · rcases Stream.step_onHub hstream with ⟨l'', rfl, hhandler, _⟩ | ⟨_, _, hchild, _⟩ | hmoves
    · rcases Stream.handlerStep_admits hhandler with
        hnobody | ⟨_, _, _, _, _, claims, hclaims, hadmits⟩
      · exact Or.inl hnobody.claims
      · rcases hadmits.token with ⟨text, hpresents, _, hverify⟩
        exact Or.inr ⟨l'', text, claims, rfl, hpresents, hverify, hclaims⟩
    · exact Or.inl (Stream.childStep_moves hchild).claims
    · exact Or.inl hmoves.kept.claims
  · exact Or.inl (kept_of_step hstep hother).2.claims

/-- What the REST interface holds, it held before or has just subscribed. -/
theorem held_rest_of_step {l : GatewayStep}
    (hstep : g.step topicMatchesSub settings jwtDecode l = some g') {topic : PyStr} {qos : Int}
    (hheld : g'.hub.service.held topic .rest = some qos) :
    g.hub.service.held topic .rest = some qos ∨ ∃ paho, l = .restSubscribe topic qos paho := by
  by_cases hconsumer : l.consumer = some .rest
  · cases l with
    | restSubscribe topic' qos' paho =>
        cases hstep
        rcases MQTTService.held_acquireSubscription topicMatchesSub settings paho topic' qos' .rest
          false g.hub.service with ⟨_, _, hsame⟩ | ⟨_, hnew⟩
        · rw [Hub.acquire, hsame] at hheld
          exact Or.inl hheld
        · rw [Hub.acquire, hnew] at hheld
          split at hheld
          · next heq =>
              cases hheld
              exact Or.inr ⟨paho, by rw [heq.1]⟩
          · exact Or.inl hheld
    | restUnsubscribe topic' paho =>
        cases hstep
        refine Or.inl ?_
        simp only [restUnsubscribe] at hheld
        split at hheld
        · exact hheld
        · rw [Hub.release, MQTTService.held_releaseSubscription] at hheld
          split at hheld
          · cases hheld
          · exact hheld
    | tick _ | connection _ | query _ _ | stream _ _ | deliver _ => cases hconsumer
  · rw [(unchanged_of_step hstep hconsumer).held] at hheld
    exact Or.inl hheld

/-- A query that has started keeps its topic, or has just started with it. -/
theorem query_topic_of_step {l : GatewayStep}
    (hstep : g.step topicMatchesSub settings jwtDecode l = some g') {id : Nat}
    (hstarted : (g'.queries id).activity ≠ .idle) :
    (∃ topic, l = .query id (.start topic) ∧ (g'.queries id).topic = topic) ∨
      (g.queries id).activity ≠ .idle ∧ (g'.queries id).topic = (g.queries id).topic := by
  rcases query_of_step hstep id with ⟨l', rfl, hquery⟩ | ⟨_, hsame | ⟨message, _, hreceive⟩⟩
  · rcases Query.step_cases hquery with ⟨topic, _, rfl, _, _, _, hq⟩ |
      ⟨topic, rfl, _, _, _, hq⟩ | ⟨_, _, hactivity, _, ⟨_, hq⟩ | ⟨_, _, hq⟩⟩ |
      ⟨_, _, hactivity, _, _, hq⟩ | ⟨_, hactivity, _, hq⟩ | ⟨_, hactivity | hactivity, _, hq⟩ |
      ⟨_, _, hactivity, _, hq⟩ | ⟨_, _, _, hactivity, _, ⟨_, hq⟩ | ⟨_, _, hq⟩⟩
    · exact Or.inl ⟨topic, rfl, by rw [hq]⟩
    · exact Or.inl ⟨topic, rfl, by rw [hq]⟩
    all_goals exact Or.inr ⟨by rw [hactivity]; simp, by rw [hq]⟩
  · rw [hsame] at hstarted ⊢
    exact Or.inr ⟨hstarted, rfl⟩
  · rcases iterate_receive message (g.hub.packetCallbacks.count (.receive id)) (g.queries id) with
      ⟨hactivity, htopic⟩
    rw [hreceive] at hstarted ⊢
    exact Or.inr ⟨hactivity ▸ hstarted, htopic⟩

end Gateway

namespace App

variable {topicMatchesSub : PyStr → PyStr → Bool} {settings : ApiSettings}
  {pbkdf2Hmac : Bytes → Bytes → Nat → FixedBytes 32} {jwt : Jwt} {app app' : App}
  {steps : List AppStep}

/-- A token that is presented and accepted has been given to a user. -/
def Unforged (settings : ApiSettings) (jwt : Jwt) (app : App) (l : AppStep) : Prop :=
  ∀ token ∈ l.token, accepts jwt settings app.gateway.now token = true → token ∈ app.tokens

instance (app : App) (l : AppStep) : Decidable (Unforged settings jwt app l) :=
  inferInstanceAs (Decidable (∀ token ∈ l.token, _ → _))

/-! ## Logins -/

/-- The second at which the token of a login expires. -/
def expiry (settings : ApiSettings) (time : ℚ) : ℤ :=
  ⌊time⌋ + settings.expiresIn

/-- At a time of the run, the user has logged in with a password and has been given a token. -/
def LoginAt (topicMatchesSub : PyStr → PyStr → Bool) (settings : ApiSettings)
    (pbkdf2Hmac : Bytes → Bytes → Nat → FixedBytes 32) (jwt : Jwt) (steps : List AppStep)
    (time : ℚ) (token : PyStr) : Prop :=
  ∃ before form after earlier answer, steps = before ++ .login form :: after ∧
    (machine topicMatchesSub settings pbkdf2Hmac jwt).Run before earlier ∧
    earlier.gateway.now = time ∧ form.username = settings.apiUsername ∧
    verifyPassword pbkdf2Hmac form.password settings.apiPasswordHash = .ok true ∧
    login pbkdf2Hmac jwt settings time form = .ok answer ∧ answer.accessToken = token

/-- A step of the run presents the token of a login before it, at the given time, and the token
has not expired. -/
def Covered (topicMatchesSub : PyStr → PyStr → Bool) (settings : ApiSettings)
    (pbkdf2Hmac : Bytes → Bytes → Nat → FixedBytes 32) (jwt : Jwt) (steps : List AppStep)
    (l : AppStep) (time : ℚ) : Prop :=
  ∃ before after earlier token, steps = before ++ l :: after ∧
    (machine topicMatchesSub settings pbkdf2Hmac jwt).Run before earlier ∧
    l.token = some token ∧ LoginAt topicMatchesSub settings pbkdf2Hmac jwt before time token ∧
    time ≤ earlier.gateway.now ∧ earlier.gateway.now < expiry settings time

/-- A login stays one when the run goes on. -/
theorem LoginAt.snoc {time : ℚ} {token : PyStr}
    (h : LoginAt topicMatchesSub settings pbkdf2Hmac jwt steps time token) (l : AppStep) :
    LoginAt topicMatchesSub settings pbkdf2Hmac jwt (steps ++ [l]) time token := by
  rcases h with ⟨before, form, after, earlier, answer, rfl, hlogin⟩
  exact ⟨before, form, after ++ [l], earlier, answer, by simp, hlogin⟩

/-- A step goes back to the same login when the run goes on. -/
theorem Covered.snoc {l : AppStep} {time : ℚ}
    (h : Covered topicMatchesSub settings pbkdf2Hmac jwt steps l time) (l' : AppStep) :
    Covered topicMatchesSub settings pbkdf2Hmac jwt (steps ++ [l']) l time := by
  rcases h with ⟨before, after, earlier, token, rfl, hcovered⟩
  exact ⟨before, after ++ [l'], earlier, token, by simp, hcovered⟩

/-- A token of the record has been given to a user who logged in. -/
def Given (topicMatchesSub : PyStr → PyStr → Bool) (settings : ApiSettings)
    (pbkdf2Hmac : Bytes → Bytes → Nat → FixedBytes 32) (jwt : Jwt) (steps : List AppStep)
    (now : ℚ) (token : PyStr) : Prop :=
  ∃ time, LoginAt topicMatchesSub settings pbkdf2Hmac jwt steps time token ∧ time ≤ now

/-- The tokens of the record, after any run. -/
theorem given_of_run (hrun : (machine topicMatchesSub settings pbkdf2Hmac jwt).Run steps app) :
    ∀ token ∈ app.tokens,
      Given topicMatchesSub settings pbkdf2Hmac jwt steps app.gateway.now token := by
  refine Machine.Run.invariant (P := fun steps app => ∀ token ∈ app.tokens,
    Given topicMatchesSub settings pbkdf2Hmac jwt steps app.gateway.now token)
    (fun token hmem => absurd hmem List.not_mem_nil) ?_ hrun
  intro steps app l app' hrun h hstep
  have hnow := now_le_of_step hstep
  have hold : ∀ token ∈ app.tokens, Given topicMatchesSub settings pbkdf2Hmac jwt (steps ++ [l])
      app'.gateway.now token := by
    intro token hmem
    rcases h token hmem with ⟨time, hlogin, hle⟩
    exact ⟨time, hlogin.snoc l, hle.trans hnow⟩
  rcases step_cases hstep with ⟨_, _, _, _, _, rfl⟩ | ⟨form, rfl, ⟨answer, hanswer, rfl⟩ | rfl⟩ |
    ⟨_, _, _, _, _, ⟨_, _, rfl⟩ | ⟨_, rfl⟩⟩ | ⟨_, _, _, _, _, _, _, hserved⟩
  · exact hold
  · intro token hmem
    rcases List.mem_append.mp hmem with hmem | hnew
    · exact hold token hmem
    · rw [List.mem_singleton] at hnew
      subst hnew
      rcases login_eq_ok_iff.mp hanswer with ⟨⟨husername, _⟩, hpassword, _⟩
      exact ⟨app.gateway.now, ⟨steps, form, [], app, answer, rfl, hrun, rfl, husername, hpassword,
        hanswer, rfl⟩, le_rfl⟩
  · exact hold
  · exact hold
  · exact hold
  · rw [hserved.tokens]
    exact hold

/-- A step that presents a token that is accepted presents the token of a login, and the claims
are that login's. -/
theorem covered_of_accepted (hjwt : jwt.Documented settings.jwtSecretKey)
    (hrun : (machine topicMatchesSub settings pbkdf2Hmac jwt).Run steps app) {l : AppStep}
    (hunforged : Unforged settings jwt app l) {token : PyStr} (htoken : l.token = some token)
    {claims : Claims} (hverify : verify jwt settings app.gateway.now token = .ok (some claims)) :
    ∃ time, Covered topicMatchesSub settings pbkdf2Hmac jwt (steps ++ [l]) l time ∧
      claims = loginClaims settings time := by
  have haccepts : accepts jwt settings app.gateway.now token = true := by
    rw [accepts, hverify]
  rcases given_of_run hrun token (hunforged token htoken haccepts) with ⟨time, hlogin, hle⟩
  have hgiven := hlogin
  rcases hgiven with ⟨_, form, _, _, answer, _, _, _, _, _, hanswer, rfl⟩
  have hexpires : answer.expiresIn = settings.expiresIn := by
    rw [(login_eq_ok_iff.mp hanswer).2.2]
  have hclaims := verify_of_login hjwt hanswer app.gateway.now
  rw [hverify, Except.ok.injEq, hexpires] at hclaims
  by_cases hless : app.gateway.now < (⌊time⌋ + settings.expiresIn : ℤ)
  · rw [if_pos hless, Option.some.injEq] at hclaims
    exact ⟨time, ⟨steps, [], app, _, rfl, hrun, htoken, hlogin, hle, hless⟩, hclaims⟩
  · rw [if_neg hless] at hclaims
    cases hclaims

theorem token_of_presents {id : Nat} {l : HandlerStep} {text : PyStr}
    (h : Stream.Presents (.str text) l) :
    (AppStep.gateway (.stream id (.handler l))).token = some text := by
  cases l with
  | connect header topics =>
      cases header with
      | none => cases h
      | some header =>
          cases h
          rfl
  | authFrame frame =>
      change (frameToken frame).text? = some text
      rw [← h]
      rfl
  | _ => cases h

/-! ## Requests -/

/-- What a request has been admitted for, it was admitted for after a login. -/
def RequestsCovered (topicMatchesSub : PyStr → PyStr → Bool) (settings : ApiSettings)
    (pbkdf2Hmac : Bytes → Bytes → Nat → FixedBytes 32) (jwt : Jwt) (steps : List AppStep)
    (app : App) : Prop :=
  ∀ id body, (app.requests id).body? = some body → ∃ credentials time,
    Covered topicMatchesSub settings pbkdf2Hmac jwt steps (.arrive id credentials body) time

theorem requestsCovered_of_run (hjwt : jwt.Documented settings.jwtSecretKey)
    (hrun : (machine topicMatchesSub settings pbkdf2Hmac jwt).GuardedRun (Unforged settings jwt)
      steps app) : RequestsCovered topicMatchesSub settings pbkdf2Hmac jwt steps app := by
  refine Machine.GuardedRun.invariant
    (P := RequestsCovered topicMatchesSub settings pbkdf2Hmac jwt)
    (fun id body hbody => by cases hbody) ?_ hrun
  intro steps app l app' hrun h hunforged hstep id body hbody
  have hold : (app.requests id).body? = some body → ∃ credentials time,
      Covered topicMatchesSub settings pbkdf2Hmac jwt (steps ++ [l])
        (.arrive id credentials body) time := by
    intro hbefore
    rcases h id body hbefore with ⟨credentials, time, hcovered⟩
    exact ⟨credentials, time, hcovered.snoc l⟩
  rcases step_cases hstep with ⟨_, _, _, _, _, rfl⟩ | ⟨_, _, ⟨_, _, rfl⟩ | rfl⟩ |
    ⟨id', credentials, body', rfl, hidle, ⟨user, huser, rfl⟩ | ⟨e, rfl⟩⟩ |
    ⟨id', _, _, _, body', _, hadmitted, hserved⟩
  · exact hold hbody
  · exact hold hbody
  · exact hold hbody
  · by_cases hid : id = id'
    · subst hid
      have hsame : body' = body := by simpa [RequestActivity.body?] using hbody
      subst hsame
      rcases verify_of_getCurrentUser huser with ⟨token, claims, rfl, hverify, _⟩
      rcases covered_of_accepted hjwt hrun hunforged rfl hverify with ⟨time, hcovered, _⟩
      exact ⟨some token, time, hcovered⟩
    · exact hold (by simpa [hid] using hbody)
  · by_cases hid : id = id'
    · subst hid
      simp [RequestActivity.body?] at hbody
    · exact hold (by simpa [hid] using hbody)
  · rcases hserved.requests with ⟨activity, hactivity, _, hrequests⟩
    rw [hrequests] at hbody
    by_cases hid : id = id'
    · subst hid
      rw [Function.update_self, hactivity, Option.some.injEq] at hbody
      subst hbody
      exact hold (by rw [hadmitted]; rfl)
    · exact hold (by simpa [hid] using hbody)

/-! ## Websockets -/

/-- The claims of a websocket are those of a login before it was admitted. -/
def StreamCovered (topicMatchesSub : PyStr → PyStr → Bool) (settings : ApiSettings)
    (pbkdf2Hmac : Bytes → Bytes → Nat → FixedBytes 32) (jwt : Jwt) (id : Nat)
    (steps : List AppStep) (app : App) : Prop :=
  ∀ claims, (app.gateway.streams id).claims = some claims → ∃ l time,
    Covered topicMatchesSub settings pbkdf2Hmac jwt steps (.gateway (.stream id (.handler l)))
      time ∧
    claims = loginClaims settings time

theorem streamCovered_of_run (hjwt : jwt.Documented settings.jwtSecretKey)
    (hrun : (machine topicMatchesSub settings pbkdf2Hmac jwt).GuardedRun (Unforged settings jwt)
      steps app) (id : Nat) :
    StreamCovered topicMatchesSub settings pbkdf2Hmac jwt id steps app := by
  refine Machine.GuardedRun.invariant
    (P := StreamCovered topicMatchesSub settings pbkdf2Hmac jwt id)
    (fun claims hclaims => by cases hclaims) ?_ hrun
  intro steps app l app' hrun h hunforged hstep claims hclaims
  have hold : (app.gateway.streams id).claims = some claims → ∃ l' time,
      Covered topicMatchesSub settings pbkdf2Hmac jwt (steps ++ [l])
        (.gateway (.stream id (.handler l'))) time ∧ claims = loginClaims settings time := by
    intro hbefore
    rcases h claims hbefore with ⟨l', time, hcovered, hexp⟩
    exact ⟨l', time, hcovered.snoc l, hexp⟩
  have hkeeps : ∀ l', l'.consumer ≠ some (.websocket id) →
      gatewayStep topicMatchesSub settings jwt app.gateway l' = some app'.gateway →
      (app'.gateway.streams id).claims = (app.gateway.streams id).claims :=
    fun l' hother hmoves => (Gateway.kept_of_step hmoves hother).2.claims
  rcases step_cases hstep with ⟨l', gateway, rfl, _, hmoves, rfl⟩ | ⟨_, _, ⟨_, _, rfl⟩ | rfl⟩ |
    ⟨_, _, _, _, _, ⟨_, _, rfl⟩ | ⟨_, rfl⟩⟩ | ⟨_, _, _, _, _, _, _, hserved⟩
  · rcases Gateway.claims_of_step hmoves id with
      hsame | ⟨l'', text, claims', rfl, hpresents, hverify, hnew⟩
    · exact hold (hsame.symm.trans hclaims)
    · cases hclaims.symm.trans hnew
      rcases covered_of_accepted hjwt hrun hunforged (token_of_presents hpresents) hverify with
        ⟨time, hcovered, hexp⟩
      exact ⟨l'', time, hcovered, hexp⟩
  · exact hold hclaims
  · exact hold hclaims
  · exact hold hclaims
  · exact hold hclaims
  · rcases hserved.gateway with hsame | ⟨l', htaken, hmoves⟩
    · rw [hsame] at hclaims
      exact hold hclaims
    · refine hold ((hkeeps l' ?_ hmoves).symm.trans hclaims)
      cases htaken <;> simp [GatewayStep.consumer]

/-! ## What the requests account for -/

/-- Whatever the interface has done is the work of a request that has been admitted. -/
structure Accounted (topicMatchesSub : PyStr → PyStr → Bool) (settings : ApiSettings)
    (app : App) : Prop where
  rest : ∀ topic qos, app.gateway.hub.service.held topic .rest = some qos →
    ∃ id request, (app.requests id).body? = some (.subscribe request) ∧
      request.topic = topic ∧ request.qos = qos
  queries : ∀ id, (app.gateway.queries id).activity ≠ .idle →
    ∃ request, app.requests id = .querying request ∧
      (app.gateway.queries id).topic = request.topic
  publications : ∀ publication ∈ app.publications, ∃ id request payload,
    (app.requests id).body? = some (.publish request) ∧
      authorizeTopic topicMatchesSub request.topic settings.toSettings false = .ok () ∧
      PyStr.encode request.payload = .ok payload ∧ publication = request.packet payload

/-- Any step keeps the account, if it adds to it only in the name of a request. -/
theorem Accounted.step_of {l : AppStep}
    (hstep : app.step topicMatchesSub settings pbkdf2Hmac jwt l = some app')
    (h : Accounted topicMatchesSub settings app)
    (hgateway : app'.gateway = app.gateway ∨ ∃ l', gatewayStep topicMatchesSub settings jwt
      app.gateway l' = some app'.gateway ∧ (l'.ofRequest = true → ∃ id paho body,
        TakenBy id paho body l' ∧ (app'.requests id).body? = some body ∧
        ∀ request, body = .queryRetained request → app'.requests id = .querying request))
    (hpublications : app'.publications = app.publications ∨ ∃ id request payload,
      (app'.requests id).body? = some (.publish request) ∧
        authorizeTopic topicMatchesSub request.topic settings.toSettings false = .ok () ∧
        PyStr.encode request.payload = .ok payload ∧
        app'.publications = app.publications ++ [request.packet payload]) :
    Accounted topicMatchesSub settings app' := by
  refine ⟨?_, ?_, ?_⟩
  · intro topic qos hheld
    have hold : app.gateway.hub.service.held topic .rest = some qos → ∃ id request,
        (app'.requests id).body? = some (.subscribe request) ∧
          request.topic = topic ∧ request.qos = qos := by
      intro hbefore
      rcases h.rest topic qos hbefore with ⟨id, request, hbody, hrequest⟩
      exact ⟨id, request, body?_of_step hstep hbody, hrequest⟩
    rcases hgateway with hsame | ⟨l', hmoves, htaken⟩
    · rw [hsame] at hheld
      exact hold hheld
    · rcases Gateway.held_rest_of_step hmoves hheld with hbefore | ⟨paho, rfl⟩
      · exact hold hbefore
      · rcases htaken rfl with ⟨id, _, body, htaken, hbody, _⟩
        cases htaken with
        | subscribe request => exact ⟨id, request, hbody, rfl, rfl⟩
  · intro id hstarted
    have hold : (app.gateway.queries id).activity ≠ .idle → ∃ request,
        app'.requests id = .querying request ∧
          (app.gateway.queries id).topic = request.topic := by
      intro hbefore
      rcases h.queries id hbefore with ⟨request, hquerying, htopic⟩
      exact ⟨request, querying_of_step hstep hquerying, htopic⟩
    rcases hgateway with hsame | ⟨l', hmoves, htaken⟩
    · rw [hsame] at hstarted ⊢
      exact hold hstarted
    · rcases Gateway.query_topic_of_step hmoves hstarted with ⟨topic, rfl, htopic⟩ |
        ⟨hbefore, hkept⟩
      · rcases htaken rfl with ⟨_, _, body, htaken, _, hquerying⟩
        cases htaken with
        | queryRetained request => exact ⟨request, hquerying request rfl, htopic⟩
      · rw [hkept]
        exact hold hbefore
  · intro publication hmem
    have hold : publication ∈ app.publications → ∃ id request payload,
        (app'.requests id).body? = some (.publish request) ∧
          authorizeTopic topicMatchesSub request.topic settings.toSettings false = .ok () ∧
          PyStr.encode request.payload = .ok payload ∧
          publication = request.packet payload := by
      intro hbefore
      rcases h.publications publication hbefore with ⟨id, request, payload, hbody, hrequest⟩
      exact ⟨id, request, payload, body?_of_step hstep hbody, hrequest⟩
    rcases hpublications with hsame | ⟨id, request, payload, hbody, hauth, hencode, happend⟩
    · rw [hsame] at hmem
      exact hold hmem
    · rw [happend, List.mem_append, List.mem_singleton] at hmem
      rcases hmem with hbefore | hnew
      · exact hold hbefore
      · exact ⟨id, request, payload, hbody, hauth, hencode, hnew⟩

theorem accounted_of_run (hrun : (machine topicMatchesSub settings pbkdf2Hmac jwt).Run steps app) :
    Accounted topicMatchesSub settings app := by
  have hinit : Accounted topicMatchesSub settings initial := by
    refine ⟨?_, ?_, ?_⟩
    · intro topic qos hheld
      cases (MQTTService.held_initial topic Owner.rest).symm.trans hheld
    · intro id hstarted
      exact absurd rfl hstarted
    · intro publication hmem
      exact absurd hmem List.not_mem_nil
  refine Machine.Reachable.invariant (P := Accounted topicMatchesSub settings) hinit ?_
    ⟨steps, hrun⟩
  intro app l app' h hstep
  rcases step_cases hstep with ⟨l', gateway, _, hrequest, hmoves, heq⟩ |
    ⟨_, _, ⟨_, _, heq⟩ | heq⟩ | ⟨_, _, _, _, _, ⟨_, _, heq⟩ | ⟨_, heq⟩⟩ |
    ⟨id, paho, _, _, body, _, _, hserved⟩
  · refine h.step_of hstep (Or.inr ⟨l', by rw [heq]; exact hmoves, ?_⟩) (Or.inl (by rw [heq]))
    intro htrue
    rw [hrequest] at htrue
    cases htrue
  · exact h.step_of hstep (Or.inl (by rw [heq])) (Or.inl (by rw [heq]))
  · exact h.step_of hstep (Or.inl (by rw [heq])) (Or.inl (by rw [heq]))
  · exact h.step_of hstep (Or.inl (by rw [heq])) (Or.inl (by rw [heq]))
  · exact h.step_of hstep (Or.inl (by rw [heq])) (Or.inl (by rw [heq]))
  · rcases hserved.requests with ⟨activity, hactivity, hquerying, hrequests⟩
    have hbody : (app'.requests id).body? = some body := by
      rw [hrequests, Function.update_self, hactivity]
    refine h.step_of hstep ?_ ?_
    · rcases hserved.gateway with hsame | ⟨l', htaken, hmoves⟩
      · exact Or.inl hsame
      · refine Or.inr ⟨l', hmoves, fun _ => ⟨id, paho, body, htaken, hbody, ?_⟩⟩
        intro request hrequest
        rw [hrequests, Function.update_self, hquerying request hrequest]
    · rcases hserved.publications with hsame | ⟨request, payload, rfl, hpublished⟩
      · exact Or.inl hsame
      · exact Or.inr ⟨id, request, payload, hbody, hpublished⟩

/-- What a query has, it has on behalf of a request for its topic. -/
theorem query_of_has (hrun : (machine topicMatchesSub settings pbkdf2Hmac jwt).Run steps app)
    {id : Nat} (hhas : .receive id ∈ app.gateway.hub.packetCallbacks ∨
      ∃ topic, app.gateway.hub.service.held topic (.retained id) ≠ none) :
    ∃ request, (app.requests id).body? = some (.queryRetained request) ∧
      ∀ topic, app.gateway.hub.service.held topic (.retained id) ≠ none →
        topic = request.topic := by
  rcases gateway_of_run hrun with ⟨_, hgateway, _⟩
  have hfoot := (Gateway.tidyQueries_of_run hgateway).footprint id
  have hstarted : (app.gateway.queries id).activity ≠ .idle := by
    intro hidle
    rw [Query.mayHold, hidle] at hfoot
    rcases hhas with hregistered | ⟨topic, hheld⟩
    · exact absurd hregistered (List.count_eq_zero.mp (hfoot.callbacks _ rfl))
    · exact absurd (hfoot.held topic hheld) List.not_mem_nil
  rcases (accounted_of_run hrun).queries id hstarted with ⟨request, hquerying, htopic⟩
  refine ⟨request, by rw [hquerying]; rfl, ?_⟩
  intro topic hheld
  have hmem := hfoot.held topic hheld
  rw [Query.mayHold] at hmem
  split at hmem
  · exact absurd hmem List.not_mem_nil
  · exact absurd hmem List.not_mem_nil
  · exact absurd hmem List.not_mem_nil
  all_goals rw [← htopic]; exact List.mem_singleton.mp hmem

/-! ## The two results -/

/-- In every run without forged tokens, whatever has been published, is subscribed, registered or
has been streamed goes back to a request or a websocket that presented, before it expired, the
token of an earlier login with the user's name and password. -/
theorem served_only_after_login (hjwt : jwt.Documented settings.jwtSecretKey)
    (hrun : (machine topicMatchesSub settings pbkdf2Hmac jwt).GuardedRun (Unforged settings jwt)
      steps app) :
    (∀ id body, (app.requests id).body? = some body → ∃ credentials time,
      Covered topicMatchesSub settings pbkdf2Hmac jwt steps (.arrive id credentials body) time) ∧
    (∀ publication ∈ app.publications, ∃ id request payload credentials time,
      Covered topicMatchesSub settings pbkdf2Hmac jwt steps
        (.arrive id credentials (.publish request)) time ∧
      authorizeTopic topicMatchesSub request.topic settings.toSettings false = .ok () ∧
      PyStr.encode request.payload = .ok payload ∧ publication = request.packet payload) ∧
    (∀ topic qos, app.gateway.hub.service.held topic .rest = some qos →
      ∃ id request credentials time,
        Covered topicMatchesSub settings pbkdf2Hmac jwt steps
          (.arrive id credentials (.subscribe request)) time ∧
        request.topic = topic ∧ request.qos = qos) ∧
    (∀ id, (.receive id ∈ app.gateway.hub.packetCallbacks ∨
        ∃ topic, app.gateway.hub.service.held topic (.retained id) ≠ none) →
      ∃ request credentials time,
        Covered topicMatchesSub settings pbkdf2Hmac jwt steps
          (.arrive id credentials (.queryRetained request)) time ∧
        ∀ topic, app.gateway.hub.service.held topic (.retained id) ≠ none →
          topic = request.topic) ∧
    ∀ id, (.wsCallback id ∈ app.gateway.hub.packetCallbacks ∨
        (∃ topic, app.gateway.hub.service.held topic (.websocket id) ≠ none) ∨
        (app.gateway.streams id).sent ≠ []) →
      ∃ l time, Covered topicMatchesSub settings pbkdf2Hmac jwt steps
          (.gateway (.stream id (.handler l))) time ∧
        (app.gateway.streams id).claims = some (loginClaims settings time) := by
  have hrequests := requestsCovered_of_run hjwt hrun
  have haccounted := accounted_of_run hrun.toRun
  refine ⟨hrequests, ?_, ?_, ?_, ?_⟩
  · intro publication hmem
    rcases haccounted.publications publication hmem with
      ⟨id, request, payload, hbody, hpublished⟩
    rcases hrequests id _ hbody with ⟨credentials, time, hcovered⟩
    exact ⟨id, request, payload, credentials, time, hcovered, hpublished⟩
  · intro topic qos hheld
    rcases haccounted.rest topic qos hheld with ⟨id, request, hbody, hrequest⟩
    rcases hrequests id _ hbody with ⟨credentials, time, hcovered⟩
    exact ⟨id, request, credentials, time, hcovered, hrequest⟩
  · intro id hhas
    rcases query_of_has hrun.toRun hhas with ⟨request, hbody, htopic⟩
    rcases hrequests id _ hbody with ⟨credentials, time, hcovered⟩
    exact ⟨request, credentials, time, hcovered, htopic⟩
  · intro id hhas
    rcases gateway_of_run hrun.toRun with ⟨_, hgateway, _⟩
    rcases Gateway.admitted_of_run hgateway hhas with
      ⟨_, _, _, _, _, claims, _, _, hclaims, _⟩
    rcases streamCovered_of_run hjwt hrun id claims hclaims with ⟨l, time, hcovered, rfl⟩
    exact ⟨l, time, hcovered, hclaims⟩

/-- The token of the sample login at second zero. -/
def tokenAtZero : PyStr :=
  List.replicate 32 (PyStr.char 'k') ++ List.replicate 60 (PyStr.char '1') ++
    PyStr.lit ['+', 'a', 'p', 'i']

/-- A message for the topic {lit}`a`. -/
def messageOn : PublishRequest where
  topic := PyStr.lit ['a']
  payload := PyStr.lit ['o', 'n']
  topic_length := by decide
  payload_length := by decide
  qos_range := by decide

/-- A request that is admitted in time and served when its token has expired. -/
def servedLate : List AppStep :=
  [.gateway (.connection true), .login LoginForm.sample, .gateway (.tick 30),
    .arrive 0 (some tokenAtZero) (.publish messageOn), .gateway (.tick 70),
    .serve 0 Gateway.connectedPaho ⟨true, .ok (mqttErrSuccess, 1), fun _ => ""⟩,
    .arrive 1 (some tokenAtZero) (.publish messageOn)]

theorem served_only_after_login_late :
    ∃ app, sample.Run servedLate app ∧
      app.publications = [⟨PyStr.lit ['a'], [111, 110], 0, false⟩] ∧
      (app.requests 1).body?.isNone ∧
      ∀ publication ∈ app.publications, ∃ id request payload credentials time,
        Covered (fun filter topic => decide (MqttMatches filter topic)) ApiSettings.sample
          (fun _ _ _ => passphraseDigest) sampleJwt servedLate
          (.arrive id credentials (.publish request)) time ∧
        publication = request.packet payload := by
  have hexec : (sample.guardedExec (Unforged ApiSettings.sample sampleJwt) initial
      servedLate).isSome := by
    decide +kernel
  rcases Option.isSome_iff_exists.mp hexec with ⟨app, happ⟩
  have hstate : (sample.guardedExec (Unforged ApiSettings.sample sampleJwt) initial
      servedLate).map (fun app => (app.publications, (app.requests 1).body?.isNone)) =
        some ([⟨PyStr.lit ['a'], [111, 110], 0, false⟩], true) := by
    decide +kernel
  rw [happ, Option.map_some, Option.some.injEq, Prod.mk.injEq] at hstate
  have hrun := Machine.guardedRun_of_guardedExec happ
  refine ⟨app, hrun.toRun, hstate.1, hstate.2, ?_⟩
  intro publication hmem
  rcases (served_only_after_login (sampleJwt_documented _) hrun).2.1 publication hmem with
    ⟨id, request, payload, credentials, time, hcovered, _, _, hpacket⟩
  exact ⟨id, request, payload, credentials, time, hcovered, hpacket⟩

/-- The token of a websocket does not expire in a step while its sender has a message at hand. -/
def Punctual (topicMatchesSub : PyStr → PyStr → Bool) (settings : ApiSettings) (id : Nat)
    (app : App) : AppStep → Prop
  | .gateway l => ¬Gateway.ExpiresAtHand topicMatchesSub settings.toSettings id app.gateway l
  | .login _ | .arrive _ _ _ | .serve _ _ _ => True

instance (id : Nat) (app : App) (l : AppStep) :
    Decidable (Punctual topicMatchesSub settings id app l) :=
  match l with
  | .gateway _ => inferInstanceAs (Decidable (¬_))
  | .login _ | .arrive _ _ _ | .serve _ _ _ => inferInstanceAs (Decidable True)

theorem inTime_of_run {id : Nat}
    (hrun : (machine topicMatchesSub settings pbkdf2Hmac jwt).GuardedRun
      (Punctual topicMatchesSub settings id) steps app) :
    Stream.InTime app.gateway.now (app.gateway.streams id) := by
  refine Machine.GuardedRun.invariant
    (P := fun _ app => Stream.InTime app.gateway.now (app.gateway.streams id))
    Stream.inTime_initial ?_ hrun
  intro steps app l app' hrun h hpunctual hstep
  rcases gateway_of_run hrun with ⟨_, hgateway, _⟩
  have hgated := Gateway.gated_of_run hgateway id
  rcases step_cases hstep with ⟨l', gateway, rfl, _, hmoves, rfl⟩ | ⟨_, _, ⟨_, _, rfl⟩ | rfl⟩ |
    ⟨_, _, _, _, _, ⟨_, _, rfl⟩ | ⟨_, rfl⟩⟩ | ⟨_, _, _, _, _, _, _, hserved⟩
  · exact Gateway.inTime_step hgated h hpunctual hmoves
  · exact h
  · exact h
  · exact h
  · exact h
  · rcases hserved.gateway with hsame | ⟨l', htaken, hmoves⟩
    · rw [hsame]
      exact h
    · refine Gateway.inTime_step hgated h ?_ hmoves
      cases htaken <;> exact not_false

/-- In every run without forged tokens in which the token of a websocket does not expire while its
sender has a message at hand: each data frame goes back to the login whose token the websocket
has presented, and whose claims it has, and is handed over before that token expires. -/
theorem frames_end_with_login (hjwt : jwt.Documented settings.jwtSecretKey) {id : Nat}
    (hrun : (machine topicMatchesSub settings pbkdf2Hmac jwt).GuardedRun
      (fun app l => Unforged settings jwt app l ∧ Punctual topicMatchesSub settings id app l)
      steps app) :
    ∀ t message, (t, .data message) ∈ (app.gateway.streams id).sent → ∃ l time,
      Covered topicMatchesSub settings pbkdf2Hmac jwt steps
        (.gateway (.stream id (.handler l))) time ∧
      (app.gateway.streams id).claims = some (loginClaims settings time) ∧
      t < expiry settings time := by
  intro t message hmem
  have hpunctual := inTime_of_run (hrun.mono fun _ _ h => h.2)
  rcases hpunctual.sent t message hmem with ⟨exp, hexp, hless⟩
  rcases Stream.exp_eq_ok_iff.mp hexp with ⟨claims, hclaims, hvalue⟩
  rcases streamCovered_of_run hjwt (hrun.mono fun _ _ h => h.1) id claims hclaims with
    ⟨l, time, hcovered, rfl⟩
  cases hvalue
  exact ⟨l, time, hcovered, hclaims, hless⟩

/-- A websocket that presents the token and is sent a packet. -/
def streamedInTime : List AppStep :=
  let header := PyStr.lit ['B', 'e', 'a', 'r', 'e', 'r', ' '] ++ tokenAtZero
  let stream (l : StreamStep) : AppStep := .gateway (.stream 0 l)
  [.gateway (.connection true), .login LoginForm.sample, .gateway (.tick 30),
    stream (.handler (.connect (some header) (PyStr.lit ['a']))), stream (.handler .resume),
    stream .register, stream (.acquire Gateway.connectedPaho), stream (.handler .sendReady),
    stream (.handler .resume), stream (.child .senderChecks), .gateway (Gateway.packet 49),
    stream (.child .senderGets), stream (.child .senderHandsOver)]

theorem frames_end_with_login_in_time :
    ∃ app, sample.Run streamedInTime app ∧ ((app.gateway.streams 0).dataSent).length = 1 ∧
      ∀ t message, (t, .data message) ∈ (app.gateway.streams 0).sent → ∃ l time,
        Covered (fun filter topic => decide (MqttMatches filter topic)) ApiSettings.sample
          (fun _ _ _ => passphraseDigest) sampleJwt streamedInTime
          (.gateway (.stream 0 (.handler l))) time ∧
        (app.gateway.streams 0).claims = some (loginClaims ApiSettings.sample time) ∧
        t < expiry ApiSettings.sample time := by
  let matching : PyStr → PyStr → Bool := fun filter topic => decide (MqttMatches filter topic)
  have hexec : (sample.guardedExec
      (fun app l => Unforged ApiSettings.sample sampleJwt app l ∧
        Punctual matching ApiSettings.sample 0 app l) initial streamedInTime).isSome := by
    decide +kernel
  rcases Option.isSome_iff_exists.mp hexec with ⟨app, happ⟩
  have hstate : (sample.guardedExec
      (fun app l => Unforged ApiSettings.sample sampleJwt app l ∧
        Punctual matching ApiSettings.sample 0 app l) initial streamedInTime).map
        (fun app => ((app.gateway.streams 0).dataSent).length) = some 1 := by
    decide +kernel
  rw [happ, Option.map_some, Option.some.injEq] at hstate
  have hrun := Machine.guardedRun_of_guardedExec happ
  exact ⟨app, hrun.toRun, hstate, frames_end_with_login (sampleJwt_documented _) hrun⟩

end App

end MqttGateway
