import MqttGateway.Gateway.Process

/-!
# Consumers and the broker's session

What a consumer holds in the registry of the service is what the broker's session delivers,
once the connection events of the process have been run: across the layers between a
consumer and the broker, and across every loss of the connection.

Main results:

- Theorem {lit}`holders_are_served`: when the connection is settled, every topic that a
  consumer holds is in the broker's session, with a QoS that covers the consumer's.
- Theorem {lit}`broker_serves_only_holders`: the session has no other topic, in every run that
  releases no topic before the event loop has noticed the connection.
- Theorem {lit}`reconnect_serves_holders`: with the transport up, a bounded number of
  steps of the event loop settles the connection, and then every holder is served.
-/

namespace MqttGateway

open Toolkit

namespace Process

variable {topicMatchesSub : PyStr → PyStr → Bool} {settings : Settings}
  {jwtDecode : ℚ → PyStr → Except PyException Claims} {p p' : Process}

/-! ## Served holders -/

theorem coherent_of_reachable
    (hp : (machine topicMatchesSub settings jwtDecode).Reachable p) :
    p.gateway.hub.service.Coherent := by
  refine hp.invariant (P := fun p => p.gateway.hub.service.Coherent)
    MQTTService.coherent_initial ?_
  intro p l p' h hstep
  cases l with
  | onMessage message =>
      cases hstep
      exact h
  | connection l =>
      rcases connection_cases hstep with ⟨_, _, _, _, rfl⟩ | ⟨_, _, _, _, _, hgateway, rfl⟩
      · exact h
      · exact Gateway.coherent_of_step hgateway h
  | drain l =>
      rcases drain_cases hstep with ⟨_, _, _, ⟨callback, message, _, _, rfl⟩ | ⟨_, rfl⟩⟩
      · rw [callback_hub]
        exact h
      · exact h
  | consumer l call registration =>
      exact Gateway.coherent_of_step (consumer_cases hstep).2.2.1 h

/-- When the connection is settled, the broker's session has what the registry keeps. -/
theorem get?_broker_of_settled (hp : (machine topicMatchesSub settings jwtDecode).Reachable p)
    (hsettled : p.session.Settled) {topic : PyStr} {q : Int}
    (hq : p.gateway.hub.service.subscriptions.get? topic = some q) :
    p.session.broker.get? topic = some q := by
  rcases hp with ⟨steps, hrun⟩
  have hlost := Session.nothingLost_of_reachable ⟨_, session_of_run hrun⟩
  have hclient := (consistent_of_reachable ⟨steps, hrun⟩).shared.1
  refine hlost.get?_broker hsettled.up hsettled.pending (by simp [Session.unsent, hsettled.idle])
    (by simp [hsettled.idle]) ?_
  rw [hclient, (coherent_of_reachable ⟨steps, hrun⟩).client]
  exact hq

/-- In every run of the process: when the transport is up, every connection event has been run
and no call is under way, every topic that a consumer holds is in the broker's session, with
the QoS that the registry keeps, which covers the one the consumer asked for. -/
theorem holders_are_served (hp : (machine topicMatchesSub settings jwtDecode).Reachable p)
    (hsettled : p.session.Settled) (topic : PyStr) (owner : Owner) (qos : Int)
    (hheld : p.gateway.hub.service.held topic owner = some qos) :
    ∃ q, p.gateway.hub.service.subscriptions.get? topic = some q ∧
      p.session.broker.get? topic = some q ∧ qos ≤ q := by
  rcases (coherent_of_reachable hp).covers topic owner qos hheld with ⟨q, hq, hcovers⟩
  exact ⟨q, hq, get?_broker_of_settled hp hsettled hq, hcovers⟩

/-- A subscription of the REST interface, and a connection lost and made again. -/
def reconnecting : List ProcessStep :=
  connecting ++
    [.consumer (.restSubscribe (PyStr.lit ['a']) 1 Gateway.connectedPaho)
      [.callSubscribe (PyStr.lit ['a']) 1, .proceed, .proceed] [],
      .connection .transportDown, .connection .transportUp]

/-- The same, with all connection events run. -/
def reconnected : List ProcessStep :=
  reconnecting ++
    [.connection .runEvent, .connection .runEvent, .connection .proceed, .connection .proceed]

theorem holders_are_served_reconnected :
    ∃ p, sample.Run reconnected p ∧ ∃ q, p.session.broker.get? (PyStr.lit ['a']) = some q ∧
      1 ≤ q := by
  have hexec : (sample.exec initial reconnected).isSome := by decide +kernel
  rcases Option.isSome_iff_exists.mp hexec with ⟨p, hp⟩
  have hrun : sample.Run reconnected p := Machine.run_iff_exec.mpr hp
  have hstate : (sample.exec initial reconnected).map (fun p => (p.session.up, p.session.pending,
      p.session.activity, p.gateway.hub.service.held (PyStr.lit ['a']) .rest)) =
        some (true, [], .idle, some 1) := by
    decide +kernel
  rw [hp, Option.map_some, Option.some.injEq] at hstate
  simp only [Prod.mk.injEq] at hstate
  rcases holders_are_served ⟨_, hrun⟩ ⟨hstate.1, hstate.2.1, hstate.2.2.1⟩ _ _ _
    hstate.2.2.2 with ⟨q, _, hbroker, hq⟩
  exact ⟨p, hrun, q, hbroker, hq⟩

/-! ## Nothing else is served -/

/-- No topic of the broker's session is released in a step while the transport is up and the
event loop has not noticed. -/
def ReleasesNoticed (p : Process) (l : ProcessStep) : Prop :=
  (Session.machine.guardedExec (fun s l => ¬s.UnsubscribesUnnoticed l) p.session
    (sessionSteps l)).isSome = true

instance (p : Process) (l : ProcessStep) : Decidable (p.ReleasesNoticed l) :=
  inferInstanceAs (Decidable (_ = true))

theorem allKept_of_guardedRun {steps : List SessionStep} {s : Session}
    (hrun : Session.machine.GuardedRun (fun s l => ¬s.UnsubscribesUnnoticed l) steps s) :
    s.AllKept := by
  have hinit : Session.initial.AllKept := by
    intro hup
    cases hup
  refine Machine.GuardedRun.invariant (P := fun _ s => s.AllKept) hinit ?_ hrun
  intro _ s l s' hs h hnoticed hstep
  exact h.step (Session.nothingLost_of_reachable ⟨_, hs⟩) hnoticed hstep

/-- In the broker's session a run in which no release goes unnoticed is such a run. -/
theorem session_of_guardedRun {steps : List ProcessStep}
    (hrun : (machine topicMatchesSub settings jwtDecode).GuardedRun ReleasesNoticed steps p) :
    ∃ steps', Session.machine.GuardedRun (fun s l => ¬s.UnsubscribesUnnoticed l) steps'
      p.session := by
  refine hrun.simulates Process.session [] rfl ?_
  intro p l p' _ hguard hstep
  refine ⟨sessionSteps l, ?_⟩
  rcases Option.isSome_iff_exists.mp hguard with ⟨session, hsession⟩
  have hexec := Machine.exec_of_guardedExec hsession
  rw [session_of_step hstep, Option.some.injEq] at hexec
  rw [hsession, hexec]

/-- In every run of the process in which no release goes unnoticed: when the connection is
settled, the topics of the broker's session are exactly the ones that some consumer holds. -/
theorem broker_serves_only_holders {steps : List ProcessStep}
    (hrun : (machine topicMatchesSub settings jwtDecode).GuardedRun ReleasesNoticed steps p)
    (hsettled : p.session.Settled) (topic : PyStr) :
    topic ∈ p.session.broker ↔
      ∃ owner qos, p.gateway.hub.service.held topic owner = some qos := by
  have hp : (machine topicMatchesSub settings jwtDecode).Reachable p := ⟨steps, hrun.toRun⟩
  constructor
  · intro hin
    rcases session_of_guardedRun hrun with ⟨steps', hsession⟩
    have hsub := (allKept_of_guardedRun hsession).mem_of_idle hsettled.idle hsettled.up hin
    have hcoherent := coherent_of_reachable hp
    rw [(consistent_of_reachable hp).shared.1, hcoherent.mem_client_iff,
      hcoherent.mem_subscriptions_iff] at hsub
    exact hsub
  · rintro ⟨owner, qos, hheld⟩
    rcases (coherent_of_reachable hp).covers topic owner qos hheld with ⟨q, hq, _⟩
    exact Dict.mem_iff_get?.mpr ⟨q, get?_broker_of_settled hp hsettled hq⟩

/-- After the reconnect another topic is subscribed and released. -/
def releasedLater : List ProcessStep :=
  reconnected ++
    [.consumer (.restSubscribe (PyStr.lit ['b']) 1 Gateway.connectedPaho)
      [.callSubscribe (PyStr.lit ['b']) 1, .proceed, .proceed] [],
      .consumer (.restUnsubscribe (PyStr.lit ['b']) Gateway.connectedPaho)
        [.callUnsubscribe (PyStr.lit ['b']), .proceed] []]

/-- The broker still serves the topic that is held, and the one released no longer. -/
theorem broker_serves_only_holders_reconnected :
    ∃ p, sample.GuardedRun ReleasesNoticed releasedLater p ∧
      PyStr.lit ['a'] ∈ p.session.broker ∧ PyStr.lit ['b'] ∉ p.session.broker := by
  have hexec : (sample.guardedExec ReleasesNoticed initial releasedLater).isSome := by
    decide +kernel
  rcases Option.isSome_iff_exists.mp hexec with ⟨p, hp⟩
  have hrun := Machine.guardedRun_of_guardedExec hp
  have hstate : (sample.guardedExec ReleasesNoticed initial releasedLater).map (fun p =>
      (p.session.up, p.session.pending, p.session.activity,
        p.gateway.hub.service.held (PyStr.lit ['a']) .rest,
        (p.gateway.hub.service.owners.get? (PyStr.lit ['b'])).isNone)) =
          some (true, [], .idle, some 1, true) := by
    decide +kernel
  rw [hp, Option.map_some, Option.some.injEq] at hstate
  simp only [Prod.mk.injEq, Option.isNone_iff_eq_none] at hstate
  rcases hstate with ⟨hup, hpending, hidle, hheld, hnone⟩
  have hserves := broker_serves_only_holders hrun ⟨hup, hpending, hidle⟩
  refine ⟨p, hrun, (hserves _).mpr ⟨.rest, 1, hheld⟩, ?_⟩
  rw [hserves]
  rintro ⟨owner, qos, hother⟩
  rw [MQTTService.held, hnone] at hother
  cases hother

/-! ## After a reconnect -/

/-- A step of the event loop that runs a connection event. -/
def runsEvents : ProcessStep → Bool
  | .connection .runEvent | .connection .proceed => true
  | _ => false

/-- How many steps the connection events of a session still need at most. -/
def eventRank (s : Session) : Nat :=
  s.pending.length * (s.client.subscriptions.items.length + 2) +
    match s.activity with
    | .resubscribing rest => rest.length + 1
    | _ => 0

/-- A connection event is done at once, or resubscribes. -/
theorem runEvent_activity {s : Session} (event : ConnectionEvent) (rest : List ConnectionEvent)
    (hidle : s.activity = .idle) :
    (s.runEvent rest event).activity = .idle ∨
      (s.runEvent rest event).activity = .resubscribing s.client.subscriptions.items := by
  rcases event with ⟨_ | _⟩ | _
  · exact Or.inl hidle
  · exact Or.inr rfl
  · exact Or.inl hidle

/-- The transport is up, no drain is under way, and what the consumers hold is given. -/
structure Reconnecting (held : PyStr → Owner → Option Int) (p : Process) : Prop where
  consistent : p.Consistent
  up : p.session.up = true
  idle : p.handOff.activity.isIdle = true
  held : ∀ topic owner, p.gateway.hub.service.held topic owner = held topic owner

theorem Reconnecting.step {held : PyStr → Owner → Option Int} (h : p.Reconnecting held)
    {l : ProcessStep} (hl : runsEvents l = true)
    (hstep : p.step topicMatchesSub settings jwtDecode l = some p') :
    p'.Reconnecting held ∧ eventRank p'.session < eventRank p.session := by
  have hconsistent := h.consistent.step hstep
  cases l with
  | onMessage _ | drain _ | consumer _ _ _ => cases hl
  | connection l =>
      rcases connection_cases hstep with ⟨session, hsession, _, hne, rfl⟩ |
        ⟨session, gateway, rfl, hfree, hsession, hgateway, rfl⟩
      · cases l with
        | transportUp | transportDown | connectRefused | callSubscribe _ _ | callUnsubscribe _ =>
            cases hl
        | runEvent => exact absurd rfl hne
        | proceed =>
            rcases h.consistent.between with hidle | ⟨rest, hsending⟩
            · simp only [Session.step, hidle, Session.proceed] at hsession
              cases hsession
            · simp only [Session.step, hsending] at hsession
              rcases rest with _ | ⟨⟨topic, qos⟩, rest⟩
              · cases hsession
                refine ⟨⟨hconsistent, h.up, h.idle, h.held⟩, ?_⟩
                simp [eventRank, hsending]
              · cases hsession
                refine ⟨⟨hconsistent, ?_, h.idle, h.held⟩, ?_⟩
                · simpa using h.up
                · simp [eventRank, hsending]
      · cases hgateway
        simp only [Session.step, hfree.1] at hsession
        split at hsession
        · next event rest _ hpending =>
            cases hsession
            refine ⟨⟨hconsistent, ?_, h.idle, h.held⟩, ?_⟩
            · simpa using h.up
            · rcases runEvent_activity event rest hfree.1 with hactivity | hactivity
              · simp only [eventRank, Session.runEvent_pending, Session.runEvent_subscriptions,
                  hpending, hactivity, List.length_cons, Nat.succ_mul]
                omega
              · simp only [eventRank, Session.runEvent_pending, Session.runEvent_subscriptions,
                  hpending, hactivity, List.length_cons, Nat.succ_mul]
                omega
        · cases hsession

/-- In every reachable state in which the transport is up and no drain is under way, as long as
the transport stays up: the event loop comes to the end of the connection events after at most
as many steps as their rank, and then everything that a consumer holds is served. -/
theorem reconnect_serves_holders
    (hp : (machine topicMatchesSub settings jwtDecode).Reachable p)
    (hup : p.session.up = true) (hidle : p.handOff.activity.isIdle = true) :
    (∀ steps p', (∀ l ∈ steps, runsEvents l = true) →
        (machine topicMatchesSub settings jwtDecode).exec p steps = some p' →
        steps.length ≤ eventRank p.session) ∧
      ∃ steps p', (∀ l ∈ steps, runsEvents l = true) ∧
        (machine topicMatchesSub settings jwtDecode).exec p steps = some p' ∧
        p'.session.Settled ∧
        ∀ topic owner qos, p.gateway.hub.service.held topic owner = some qos →
          ∃ q, p'.session.broker.get? topic = some q ∧ qos ≤ q := by
  have hreconnecting : p.Reconnecting p.gateway.hub.service.held :=
    ⟨consistent_of_reachable hp, hup, hidle, fun _ _ => rfl⟩
  have hkeep : ∀ s l s', s.Reconnecting p.gateway.hub.service.held → runsEvents l = true →
      (machine topicMatchesSub settings jwtDecode).step s l = some s' →
      s'.Reconnecting p.gateway.hub.service.held ∧ eventRank s'.session < eventRank s.session :=
    fun s l s' h hl hstep => h.step hl hstep
  have hprogress : ∀ s : Process, s.Reconnecting p.gateway.hub.service.held →
      ¬s.session.Settled → ∃ l s', runsEvents l = true ∧
        (machine topicMatchesSub settings jwtDecode).step s l = some s' := by
    intro s h hunsettled
    rcases h.consistent.between with hquiet | ⟨rest, hsending⟩
    · cases hpending : s.session.pending with
      | nil => exact absurd ⟨h.up, hpending, hquiet⟩ hunsettled
      | cons event rest =>
          have hfree : s.Free := ⟨hquiet, h.idle⟩
          refine ⟨.connection .runEvent, ?_⟩
          simp [machine, step, connection, hfree, Session.step, hquiet, hpending, Gateway.step,
            runsEvents]
    · refine ⟨.connection .proceed, ?_⟩
      rcases rest with _ | ⟨⟨topic, qos⟩, rest⟩
      · simp [machine, step, connection, Session.step, hsending, Session.proceed, runsEvents]
      · simp [machine, step, connection, Session.step, hsending, Session.proceed, runsEvents]
  refine ⟨?_, ?_⟩
  · intro steps p' hsteps hexec
    have hle := Machine.length_add_rank_le (fun s : Process => eventRank s.session)
      (fun l => runsEvents l = true) hkeep hreconnecting hsteps hexec
    omega
  · rcases Machine.exists_exec_of_rank (fun s : Process => eventRank s.session)
      (fun l => runsEvents l = true) (G := fun s => s.session.Settled) hprogress hkeep
      hreconnecting with
      ⟨steps, p', hsteps, hexec, hp', hsettled⟩
    refine ⟨steps, p', hsteps, hexec, hsettled, ?_⟩
    intro topic owner qos hheld
    rcases hp with ⟨before, hrun⟩
    have hreach : (machine topicMatchesSub settings jwtDecode).Reachable p' :=
      ⟨_, hrun.append hexec⟩
    rw [← hp'.held] at hheld
    rcases (coherent_of_reachable hreach).covers topic owner qos hheld with ⟨q, hq, hcovers⟩
    exact ⟨q, get?_broker_of_settled hreach hsettled hq, hcovers⟩

theorem reconnect_serves_holders_lost :
    ∃ p, sample.Run reconnecting p ∧ ∃ steps p', sample.exec p steps = some p' ∧
      ∃ q, p'.session.broker.get? (PyStr.lit ['a']) = some q ∧ 1 ≤ q := by
  have hexec : (sample.exec initial reconnecting).isSome := by decide +kernel
  rcases Option.isSome_iff_exists.mp hexec with ⟨p, hp⟩
  have hrun : sample.Run reconnecting p := Machine.run_iff_exec.mpr hp
  have hstate : (sample.exec initial reconnecting).map (fun p => (p.session.up,
      p.handOff.activity.isIdle, p.gateway.hub.service.held (PyStr.lit ['a']) .rest)) =
        some (true, true, some 1) := by
    decide +kernel
  rw [hp, Option.map_some, Option.some.injEq] at hstate
  simp only [Prod.mk.injEq] at hstate
  rcases (reconnect_serves_holders ⟨_, hrun⟩ hstate.1 hstate.2.1).2 with
    ⟨steps, p', _, hsettles, _, hserved⟩
  exact ⟨p, hrun, steps, p', hsettles, hserved _ _ _ hstate.2.2⟩

end Process

end MqttGateway
