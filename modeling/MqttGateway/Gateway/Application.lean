import MqttGateway.Api.Rest
import MqttGateway.Gateway.AclSafety
import MqttGateway.Gateway.AccessWindow
import MqttGateway.Gateway.Process

/-!
# The application and its users

The gateway behind its login.  A request of the REST interface arrives with its credentials and
is refused or admitted; its endpoint runs later, since the service it works on is a dependency
that is resolved in a thread.  Everything else in the gateway goes on meanwhile, the clock
included.  Rate limits are left out: a request they refuse is one that never arrives.

Main results:

- Theorem {lit}`step_cases`: everything a step can do.
- Theorem {lit}`gateway_of_run`: what a run of the application is for the gateway.
-/

namespace MqttGateway

open Toolkit

/-- What a request asks for, once its body has been checked. -/
inductive RestBody where
  | publish (request : PublishRequest)
  | subscribe (request : SubscribeRequest)
  | unsubscribe (request : UnsubscribeRequest)
  | queryRetained (request : RetainedQueryRequest)
  | listTopics
  | topicInfo (topic : PyStr)
deriving DecidableEq

/-- What an endpoint returns, the one for retained queries apart. -/
inductive RestResponse where
  | published (response : PublishResponse)
  | subscribed (response : SubscribeResponse)
  | unsubscribed (response : UnsubscribeResponse)
  | topics (infos : List TopicInfo)
  | topic (info : TopicInfo)
deriving DecidableEq

/-- Where a request is. -/
inductive RequestActivity where
  | idle
  /-- {lit}`get_current_user` has raised. -/
  | refused (e : PyException)
  /-- The user is known, the service is awaited. -/
  | admitted (user : User) (body : RestBody)
  | answered (body : RestBody) (response : Except PyException RestResponse)
  /-- The endpoint awaits the retained query of the same number. -/
  | querying (request : RetainedQueryRequest)
deriving DecidableEq

/-- What a request that has been admitted asks for. -/
def RequestActivity.body? : RequestActivity → Option RestBody
  | .idle | .refused _ => none
  | .admitted _ body | .answered body _ => some body
  | .querying request => some (.queryRetained request)

/-- The gateway with the requests of its REST interface. -/
structure App where
  gateway : Gateway
  requests : Nat → RequestActivity
  /-- The packets handed to paho; the code keeps no such record. -/
  publications : List Publication
  /-- The tokens given to users; the code keeps no such record. -/
  tokens : List PyStr

/-- The steps of the application. -/
inductive AppStep where
  /-- A step of the gateway that no request takes. -/
  | gateway (step : GatewayStep)
  | login (form : LoginForm)
  | arrive (id : Nat) (credentials : Option PyStr) (body : RestBody)
  /-- The endpoint of an admitted request runs. -/
  | serve (id : Nat) (paho : Paho) (publishing : PahoPublish)

/-- The packets that a step delivers. -/
def AppStep.delivered : AppStep → List ReceivedMessage
  | .gateway l => l.delivered
  | .login _ | .arrive _ _ _ | .serve _ _ _ => []

/-- The first step of a request in the gateway. -/
def GatewayStep.ofRequest : GatewayStep → Bool
  | .restSubscribe _ _ _ | .restUnsubscribe _ _ | .query _ (.start _) => true
  | _ => false

namespace App

/-- At the start of the application. -/
def initial : App where
  gateway := Gateway.initial
  requests := fun _ => .idle
  publications := []
  tokens := []

section Steps

variable (topicMatchesSub : PyStr → PyStr → Bool) (settings : ApiSettings)
  (pbkdf2Hmac : Bytes → Bytes → Nat → FixedBytes 32) (jwt : Jwt)

/-- One step of the gateway. -/
def gatewayStep (g : Gateway) (l : GatewayStep) : Option Gateway :=
  g.step topicMatchesSub settings.toSettings (jwt.decode settings.jwtSecretKey) l

/-- The answer of an endpoint. -/
def answer (app : App) (id : Nat) (body : RestBody)
    (response : Except PyException RestResponse) : App :=
  { app with requests := Function.update app.requests id (.answered body response) }

/-- The endpoint of a request. -/
def endpoint (app : App) (id : Nat) (paho : Paho) (publishing : PahoPublish) :
    RestBody → Option App
  | .publish request =>
      let (response, publications) :=
        (MqttGateway.publish topicMatchesSub settings.toSettings app.gateway.hub.service.client
          publishing request).run app.publications
      some ({ app with publications }.answer id (.publish request) (response.map .published))
  | .subscribe request =>
      let (response, hub) :=
        MqttGateway.subscribe topicMatchesSub settings.toSettings app.gateway.hub paho request
      some ({ app with gateway := { app.gateway with hub } }.answer id (.subscribe request)
        (response.map .subscribed))
  | .unsubscribe request =>
      let (response, hub) :=
        MqttGateway.unsubscribe topicMatchesSub settings.toSettings app.gateway.hub paho request
      some ({ app with gateway := { app.gateway with hub } }.answer id (.unsubscribe request)
        (response.map .unsubscribed))
  | .queryRetained request =>
      (gatewayStep topicMatchesSub settings jwt app.gateway (.query id (.start request.topic))).map
        fun gateway =>
          { app with
            gateway
            requests := Function.update app.requests id (.querying request) }
  | .listTopics =>
      some (app.answer id .listTopics
        ((MqttGateway.listTopics topicMatchesSub settings.toSettings app.gateway.hub
          app.gateway.statistics).map .topics))
  | .topicInfo topic =>
      some (app.answer id (.topicInfo topic)
        ((MqttGateway.topicInfo topicMatchesSub settings.toSettings app.gateway.hub
          app.gateway.statistics topic).map .topic))

/-- One step. -/
def step (app : App) : AppStep → Option App
  | .gateway l =>
      if l.ofRequest then none
      else
        (gatewayStep topicMatchesSub settings jwt app.gateway l).map fun gateway =>
          { app with gateway }
  | .login form =>
      match MqttGateway.login pbkdf2Hmac jwt settings app.gateway.now form with
      | .ok answer => some { app with tokens := app.tokens ++ [answer.accessToken] }
      | .error _ => some app
  | .arrive id credentials body =>
      match app.requests id with
      | .idle =>
          let activity :=
            match getCurrentUser jwt settings app.gateway.now credentials with
            | .ok user => .admitted user body
            | .error e => .refused e
          some { app with requests := Function.update app.requests id activity }
      | _ => none
  | .serve id paho publishing =>
      match app.requests id with
      | .admitted _ body => endpoint topicMatchesSub settings jwt app id paho publishing body
      | _ => none

/-- The application as a machine. -/
def machine : Machine App AppStep where
  init := initial
  step := step topicMatchesSub settings pbkdf2Hmac jwt

end Steps

/-- An application to try runs on. -/
def sample : Machine App AppStep :=
  machine (fun filter topic => decide (MqttMatches filter topic)) ApiSettings.sample
    (fun _ _ _ => passphraseDigest) sampleJwt

variable {topicMatchesSub : PyStr → PyStr → Bool} {settings : ApiSettings}
  {pbkdf2Hmac : Bytes → Bytes → Nat → FixedBytes 32} {jwt : Jwt} {app app' : App}

/-! ## What a step does -/

/-- The step of the gateway that the endpoint of a request takes. -/
inductive TakenBy (id : Nat) (paho : Paho) : RestBody → GatewayStep → Prop
  | subscribe (request : SubscribeRequest) :
      TakenBy id paho (.subscribe request) (.restSubscribe request.topic request.qos paho)
  | unsubscribe (request : UnsubscribeRequest) :
      TakenBy id paho (.unsubscribe request) (.restUnsubscribe request.topic paho)
  | queryRetained (request : RetainedQueryRequest) :
      TakenBy id paho (.queryRetained request) (.query id (.start request.topic))

/-- Everything the endpoint of a request does. -/
structure Served (topicMatchesSub : PyStr → PyStr → Bool) (settings : ApiSettings) (jwt : Jwt)
    (app : App) (id : Nat) (paho : Paho) (body : RestBody) (app' : App) : Prop where
  tokens : app'.tokens = app.tokens
  requests : ∃ activity, activity.body? = some body ∧
    (∀ request, body = .queryRetained request → activity = .querying request) ∧
    app'.requests = Function.update app.requests id activity
  gateway : app'.gateway = app.gateway ∨
    ∃ l, TakenBy id paho body l ∧
      gatewayStep topicMatchesSub settings jwt app.gateway l = some app'.gateway
  publications : app'.publications = app.publications ∨
    ∃ request payload, body = .publish request ∧
      authorizeTopic topicMatchesSub request.topic settings.toSettings false = .ok () ∧
      PyStr.encode request.payload = .ok payload ∧
      app'.publications = app.publications ++ [request.packet payload]

theorem served_of_endpoint {id : Nat} {paho : Paho} {publishing : PahoPublish} {body : RestBody}
    (h : endpoint topicMatchesSub settings jwt app id paho publishing body = some app') :
    Served topicMatchesSub settings jwt app id paho body app' := by
  cases body with
  | publish request =>
      simp only [endpoint, Option.some.injEq] at h
      rcases publish_cases topicMatchesSub settings.toSettings app.gateway.hub.service.client
        publishing request app.publications with
        ⟨_, _, hrun⟩ | ⟨_, hrun⟩ | ⟨payload, hauth, _, hencode, hrun⟩
      · rw [hrun] at h
        subst h
        exact ⟨rfl, ⟨_, rfl, by simp, rfl⟩, Or.inl rfl, Or.inl rfl⟩
      · rw [hrun] at h
        subst h
        exact ⟨rfl, ⟨_, rfl, by simp, rfl⟩, Or.inl rfl, Or.inl rfl⟩
      · rw [hrun] at h
        subst h
        exact ⟨rfl, ⟨_, rfl, by simp, rfl⟩, Or.inl rfl,
          Or.inr ⟨request, payload, rfl, hauth, hencode, rfl⟩⟩
  | subscribe request =>
      simp only [endpoint, Option.some.injEq] at h
      subst h
      exact ⟨rfl, ⟨_, rfl, by simp, rfl⟩, Or.inr ⟨_, .subscribe request, rfl⟩, Or.inl rfl⟩
  | unsubscribe request =>
      simp only [endpoint, Option.some.injEq] at h
      subst h
      refine ⟨rfl, ⟨_, rfl, by simp, rfl⟩, Or.inr ⟨_, .unsubscribe request, ?_⟩, Or.inl rfl⟩
      simp only [gatewayStep, Gateway.step, Gateway.restUnsubscribe, MqttGateway.unsubscribe,
        answer]
      cases authorizeTopic topicMatchesSub request.topic settings.toSettings true <;> rfl
  | queryRetained request =>
      rcases Option.map_eq_some_iff.mp h with ⟨gateway, hstep, rfl⟩
      exact ⟨rfl, ⟨_, rfl, by simp, rfl⟩, Or.inr ⟨_, .queryRetained request, hstep⟩, Or.inl rfl⟩
  | listTopics =>
      simp only [endpoint, Option.some.injEq] at h
      subst h
      exact ⟨rfl, ⟨_, rfl, by simp, rfl⟩, Or.inl rfl, Or.inl rfl⟩
  | topicInfo topic =>
      simp only [endpoint, Option.some.injEq] at h
      subst h
      exact ⟨rfl, ⟨_, rfl, by simp, rfl⟩, Or.inl rfl, Or.inl rfl⟩

/-- Everything a step can do. -/
theorem step_cases {l : AppStep}
    (h : app.step topicMatchesSub settings pbkdf2Hmac jwt l = some app') :
    (∃ l' gateway, l = .gateway l' ∧ l'.ofRequest = false ∧
        gatewayStep topicMatchesSub settings jwt app.gateway l' = some gateway ∧
        app' = { app with gateway }) ∨
      (∃ form, l = .login form ∧
        ((∃ answer, login pbkdf2Hmac jwt settings app.gateway.now form = .ok answer ∧
            app' = { app with tokens := app.tokens ++ [answer.accessToken] }) ∨
          app' = app)) ∨
      (∃ id credentials body, l = .arrive id credentials body ∧ app.requests id = .idle ∧
        ((∃ user, getCurrentUser jwt settings app.gateway.now credentials = .ok user ∧
            app' = { app with
              requests := Function.update app.requests id (.admitted user body) }) ∨
          ∃ e, app' = { app with requests := Function.update app.requests id (.refused e) })) ∨
      ∃ id paho publishing user body, l = .serve id paho publishing ∧
        app.requests id = .admitted user body ∧
        Served topicMatchesSub settings jwt app id paho body app' := by
  cases l with
  | gateway l' =>
      simp only [step] at h
      split at h
      · cases h
      · next hrequest =>
          rcases Option.map_eq_some_iff.mp h with ⟨gateway, hstep, rfl⟩
          exact Or.inl ⟨l', gateway, rfl, eq_false_of_ne_true hrequest, hstep, rfl⟩
  | login form =>
      refine Or.inr (Or.inl ⟨form, rfl, ?_⟩)
      simp only [step] at h
      split at h
      · next answer hanswer =>
          cases h
          exact Or.inl ⟨answer, hanswer, rfl⟩
      · cases h
        exact Or.inr rfl
  | arrive id credentials body =>
      simp only [step] at h
      split at h
      · next hidle =>
          refine Or.inr (Or.inr (Or.inl ⟨id, credentials, body, rfl, hidle, ?_⟩))
          cases h
          cases hcurrent : getCurrentUser jwt settings app.gateway.now credentials with
          | ok user => exact Or.inl ⟨user, rfl, rfl⟩
          | error e => exact Or.inr ⟨e, rfl⟩
      · cases h
  | serve id paho publishing =>
      simp only [step] at h
      split at h
      · next user body hadmitted =>
          exact Or.inr (Or.inr (Or.inr ⟨id, paho, publishing, user, body, rfl, hadmitted,
            served_of_endpoint h⟩))
      · cases h

/-- A step of the application is at most one step of the gateway. -/
theorem gateway_of_step {l : AppStep}
    (h : app.step topicMatchesSub settings pbkdf2Hmac jwt l = some app') :
    (app'.gateway = app.gateway ∧ l.delivered = []) ∨
      ∃ l', gatewayStep topicMatchesSub settings jwt app.gateway l' = some app'.gateway ∧
        l'.delivered = l.delivered := by
  rcases step_cases h with ⟨l', gateway, rfl, _, hstep, rfl⟩ | ⟨_, rfl, ⟨_, _, rfl⟩ | rfl⟩ |
    ⟨_, _, _, rfl, _, ⟨_, _, rfl⟩ | ⟨_, rfl⟩⟩ | ⟨_, _, _, _, _, rfl, _, hserved⟩
  · exact Or.inr ⟨l', hstep, rfl⟩
  · exact Or.inl ⟨rfl, rfl⟩
  · exact Or.inl ⟨rfl, rfl⟩
  · exact Or.inl ⟨rfl, rfl⟩
  · exact Or.inl ⟨rfl, rfl⟩
  · rcases hserved.gateway with hsame | ⟨l', htaken, hstep⟩
    · exact Or.inl ⟨hsame, rfl⟩
    · exact Or.inr ⟨l', hstep, by cases htaken <;> rfl⟩

/-- What a run of the application is for the gateway, with the same deliveries. -/
theorem gateway_of_run {steps : List AppStep}
    (hrun : (machine topicMatchesSub settings pbkdf2Hmac jwt).Run steps app) :
    ∃ gatewaySteps, (Gateway.machine topicMatchesSub settings.toSettings
        (jwt.decode settings.jwtSecretKey)).Run gatewaySteps app.gateway ∧
      gatewaySteps.flatMap GatewayStep.delivered = steps.flatMap AppStep.delivered := by
  have hsimulates := Machine.Run.simulates
    (N := Gateway.machine topicMatchesSub settings.toSettings (jwt.decode settings.jwtSecretKey))
    App.gateway GatewayStep.delivered AppStep.delivered [] rfl ?_ hrun
  · exact hsimulates
  · intro app l app' _ hstep
    rcases gateway_of_step hstep with ⟨hsame, hdelivered⟩ | ⟨l', hmoves, hdelivered⟩
    · exact ⟨[], by rw [hsame]; rfl, hdelivered.symm⟩
    · refine ⟨[l'], ?_, by simp [hdelivered]⟩
      exact Option.bind_eq_some_iff.mpr ⟨_, hmoves, rfl⟩

theorem now_le_of_step {l : AppStep}
    (h : app.step topicMatchesSub settings pbkdf2Hmac jwt l = some app') :
    app.gateway.now ≤ app'.gateway.now := by
  rcases gateway_of_step h with ⟨hsame, _⟩ | ⟨_, hstep, _⟩
  · rw [hsame]
  · exact Gateway.now_le_of_step hstep

/-- What a step does to one request. -/
theorem request_of_step {l : AppStep}
    (h : app.step topicMatchesSub settings pbkdf2Hmac jwt l = some app') (id : Nat) :
    app'.requests id = app.requests id ∨ app.requests id = .idle ∨
      ∃ user body, app.requests id = .admitted user body ∧
        (app'.requests id).body? = some body := by
  rcases step_cases h with ⟨_, _, _, _, _, rfl⟩ | ⟨_, _, ⟨_, _, rfl⟩ | rfl⟩ |
    ⟨id', _, _, _, hidle, hnew⟩ | ⟨id', _, _, user, body, _, hadmitted, hserved⟩
  · exact Or.inl rfl
  · exact Or.inl rfl
  · exact Or.inl rfl
  · by_cases hid : id = id'
    · subst hid
      exact Or.inr (Or.inl hidle)
    · rcases hnew with ⟨_, _, rfl⟩ | ⟨_, rfl⟩
      · exact Or.inl (Function.update_of_ne hid _ _)
      · exact Or.inl (Function.update_of_ne hid _ _)
  · rcases hserved.requests with ⟨activity, hactivity, _, hrequests⟩
    rw [hrequests]
    by_cases hid : id = id'
    · subst hid
      exact Or.inr (Or.inr ⟨user, body, hadmitted, by rw [Function.update_self, hactivity]⟩)
    · exact Or.inl (Function.update_of_ne hid _ _)

/-- A request keeps what it asks for. -/
theorem body?_of_step {l : AppStep}
    (h : app.step topicMatchesSub settings pbkdf2Hmac jwt l = some app') {id : Nat}
    {body : RestBody} (hbody : (app.requests id).body? = some body) :
    (app'.requests id).body? = some body := by
  rcases request_of_step h id with hsame | hidle | ⟨_, body', hadmitted, hbody'⟩
  · rw [hsame]
    exact hbody
  · rw [hidle] at hbody
    cases hbody
  · rw [hadmitted] at hbody
    cases hbody
    exact hbody'

/-- A request that awaits a query goes on doing so. -/
theorem querying_of_step {l : AppStep}
    (h : app.step topicMatchesSub settings pbkdf2Hmac jwt l = some app') {id : Nat}
    {request : RetainedQueryRequest} (hquerying : app.requests id = .querying request) :
    app'.requests id = .querying request := by
  rcases request_of_step h id with hsame | hidle | ⟨_, _, hadmitted, _⟩
  · rw [hsame]
    exact hquerying
  · rw [hidle] at hquerying
    cases hquerying
  · rw [hadmitted] at hquerying
    cases hquerying

end App

end MqttGateway
