import MqttGateway.Services.Registry
import Mathlib.Data.List.Induction

/-!
# Whole runs of the subscription registry

Sequences of acquisitions and releases, with connection changes between them and
every client call free to succeed or raise.  The owner maps are compared with
what the history of the calls says, and the effective QoS with the requests of
the owners there are.

Main results:

- Theorem {lit}`registry_refines_history`: after every sequence of calls the owner maps are
  the last effective events of the history, the three maps agree, and the client's
  {lit}`unsubscribe` is called exactly for the last owner of a topic.
- Theorem {lit}`effectiveQos_exact_iff`: the effective QoS is the largest request of the
  current owners throughout a sequence of calls exactly when no release takes away
  the single largest request while other owners remain.
-/

namespace MqttGateway

open Toolkit

/-- A call on the service, with what paho answers during it, or a change of the
client's {lit}`_connected` event between calls. -/
inductive ServiceOp (ω : Type) where
  | acquire (topic : PyStr) (qos : Int) (owner : ω) (refresh : Bool) (paho : Paho)
  | release (topic : PyStr) (owner : ω) (paho : Paho)
  | connection (connected : Bool)

/-- Every call the operation may make on the client succeeds. -/
def ServiceOp.ClientSucceeds {ω : Type} : ServiceOp ω → Prop
  | .acquire _ _ _ _ paho => paho.isConnected = true ∧ paho.subscribe = .ok mqttErrSuccess
  | .release topic _ paho => paho.isConnected = true ∧ paho.unsubscribe topic = .ok ()
  | .connection connected => connected = true

/-- A call together with how it ended. -/
abbrev HistoryEntry (ω : Type) := ServiceOp ω × Except PyException Unit

namespace MQTTService

variable {ω : Type} [DecidableEq ω]

section Runs

variable (topicMatchesSub : PyStr → PyStr → Bool) (settings : Settings)

/-- Run one call. -/
def runOp : ServiceOp ω → Py (MQTTService ω) Unit
  | .acquire topic qos owner refresh paho =>
      acquireSubscription topicMatchesSub settings paho topic qos owner refresh
  | .release topic owner paho => releaseSubscription paho topic owner
  | .connection connected =>
      modify fun service => { service with client := { service.client with connected } }

/-- The state and the history after one more call. -/
def perform (run : MQTTService ω × List (HistoryEntry ω)) (op : ServiceOp ω) :
    MQTTService ω × List (HistoryEntry ω) :=
  let result := (runOp topicMatchesSub settings op).run run.1
  (result.2, run.2 ++ [(op, result.1)])

/-- The state and the history after a sequence of calls, oldest first. -/
def afterOps (ops : List (ServiceOp ω)) : MQTTService ω × List (HistoryEntry ω) :=
  ops.foldl (perform topicMatchesSub settings) (initial, [])

theorem afterOps_append (ops : List (ServiceOp ω)) (op : ServiceOp ω) :
    afterOps topicMatchesSub settings (ops ++ [op]) =
      perform topicMatchesSub settings (afterOps topicMatchesSub settings ops) op := by
  unfold afterOps
  rw [List.foldl_append]
  rfl

end Runs

/-! ## The owners that the history names -/

/-- What one entry of the history says about an owner of a topic: a successful acquisition
names a QoS, a release names none, a failed acquisition says nothing. -/
def ownerEvent (topic : PyStr) (owner : ω) : HistoryEntry ω → Option (Option Int)
  | (.acquire t qos o _ _, .ok _) => if t = topic ∧ o = owner then some (some qos) else none
  | (.release t o _, _) => if t = topic ∧ o = owner then some none else none
  | _ => none

/-- The QoS named by the last effective event of an owner on a topic. -/
def lastHeld (history : List (HistoryEntry ω)) (topic : PyStr) (owner : ω) : Option Int :=
  (history.reverse.findSome? (ownerEvent topic owner)).join

/-- According to the history, an owner is the only one a topic has. -/
def LastOwner (history : List (HistoryEntry ω)) (topic : PyStr) (owner : ω) : Prop :=
  (∃ q, lastHeld history topic owner = some q) ∧
    ∀ o, o ≠ owner → lastHeld history topic o = none

theorem lastHeld_append (history : List (HistoryEntry ω)) (entry : HistoryEntry ω)
    (topic : PyStr) (owner : ω) :
    lastHeld (history ++ [entry]) topic owner =
      match ownerEvent topic owner entry with
      | some event => event
      | none => lastHeld history topic owner := by
  unfold lastHeld
  rw [List.reverse_append, List.reverse_singleton, List.singleton_append,
    List.findSome?_cons]
  cases ownerEvent topic owner entry <;> rfl

section Refinement

variable (topicMatchesSub : PyStr → PyStr → Bool) (settings : Settings)

/-- One call changes the holders as its entry in the history says. -/
theorem held_runOp (op : ServiceOp ω) (service : MQTTService ω) (topic : PyStr) (owner : ω) :
    ((runOp topicMatchesSub settings op).run service).2.held topic owner =
      match ownerEvent topic owner
        (op, ((runOp topicMatchesSub settings op).run service).1) with
      | some event => event
      | none => service.held topic owner := by
  cases op with
  | acquire t qos o refresh paho =>
      rcases held_acquireSubscription topicMatchesSub settings paho t qos o refresh service with
        ⟨e, hresult, hheld⟩ | ⟨hresult, hheld⟩
      · rw [runOp, hresult, hheld]
        rfl
      · rw [runOp, hresult, hheld]
        by_cases h : t = topic ∧ o = owner
        · simp [ownerEvent, h]
        · have h' : ¬(topic = t ∧ owner = o) := fun h' => h ⟨h'.1.symm, h'.2.symm⟩
          simp [ownerEvent, h, h']
  | release t o paho =>
      rw [runOp, held_releaseSubscription]
      by_cases h : t = topic ∧ o = owner
      · simp [ownerEvent, h]
      · have h' : ¬(topic = t ∧ owner = o) := fun h' => h ⟨h'.1.symm, h'.2.symm⟩
        simp [ownerEvent, h, h']
  | connection connected => rfl

/-- Every call keeps the three maps coherent. -/
theorem coherent_runOp (op : ServiceOp ω) {service : MQTTService ω} (hc : service.Coherent) :
    ((runOp topicMatchesSub settings op).run service).2.Coherent := by
  cases op with
  | acquire t qos o refresh paho => exact hc.acquire topicMatchesSub settings paho t qos o refresh
  | release t o paho => exact hc.release paho t o
  | connection connected => exact ⟨hc.owners_nonempty, hc.keys, hc.client, hc.covers⟩

/-- The maps are coherent after every sequence of calls. -/
theorem coherent_afterOps (ops : List (ServiceOp ω)) :
    (afterOps topicMatchesSub settings ops).1.Coherent := by
  induction ops using List.reverseRecOn with
  | nil => exact coherent_initial
  | append_singleton ops op ih =>
      rw [afterOps_append]
      exact coherent_runOp topicMatchesSub settings op ih

/-- The owner maps are what the history says, after every sequence of calls. -/
theorem held_afterOps (ops : List (ServiceOp ω)) (topic : PyStr) (owner : ω) :
    (afterOps topicMatchesSub settings ops).1.held topic owner =
      lastHeld (afterOps topicMatchesSub settings ops).2 topic owner := by
  induction ops using List.reverseRecOn with
  | nil => rfl
  | append_singleton ops op ih =>
      rw [afterOps_append, perform, lastHeld_append, held_runOp, ih]

/-- The calls one operation makes on the client: at most one, and an unsubscription exactly
for the only owner of a topic. -/
theorem calls_runOp (op : ServiceOp ω) (service : MQTTService ω) :
    (∃ topic owner paho, op = .release topic owner paho ∧ service.SoleOwner topic owner ∧
        ∃ outcome, (runOp topicMatchesSub settings op).run service =
          (outcome, service.forgotten topic)) ∨
      ((∀ topic owner paho, op = .release topic owner paho → ¬service.SoleOwner topic owner) ∧
        ∃ issued, ((runOp topicMatchesSub settings op).run service).2.calls =
            service.calls ++ issued ∧
          ∀ topic, ClientCall.unsubscribe topic ∉ issued) := by
  cases op with
  | acquire t qos o refresh paho =>
      refine Or.inr ⟨?_, ?_⟩
      · intro _ _ _ h
        cases h
      · rcases acquireSubscription_run topicMatchesSub settings paho t qos o refresh service with
          ⟨q, _, ⟨e, calls, hrun, hcalls⟩ | hrun | ⟨_, hrun⟩⟩
        · refine ⟨calls, ?_, ?_⟩
          · rw [runOp, hrun]
          · intro topic
            rcases hcalls with rfl | rfl <;> simp
        · refine ⟨[.subscribe t q], ?_, ?_⟩
          · rw [runOp, hrun]
            rfl
          · simp
        · refine ⟨[], ?_, ?_⟩
          · rw [runOp, hrun, List.append_nil]
            rfl
          · simp
  | release t o paho =>
      rcases releaseSubscription_run paho t o service with
        ⟨hnone, hrun⟩ | ⟨owners, o', q, r, howners, _, hne, hother, hrun⟩ | ⟨hsole, outcome, hrun⟩
      · refine Or.inr ⟨?_, [], ?_, ?_⟩
        · rintro _ _ _ ⟨⟩ ⟨⟨q, hq⟩, _⟩
          rw [hnone] at hq
          cases hq
        · rw [runOp, hrun, List.append_nil]
        · simp
      · refine Or.inr ⟨?_, [], ?_, ?_⟩
        · rintro _ _ _ ⟨⟩ ⟨_, hsole⟩
          rw [hsole o' hne] at hother
          cases hother
        · rw [runOp, hrun, List.append_nil]
          rfl
        · simp
      · exact Or.inl ⟨t, o, paho, rfl, hsole, outcome, hrun⟩
  | connection connected =>
      refine Or.inr ⟨?_, [], ?_, ?_⟩
      · intro _ _ _ h
        cases h
      · rw [List.append_nil]
        rfl
      · simp

/-- After every sequence of calls: each owner map is exactly the last effective events of
the history and none is empty, the three maps have the same keys, the two QoS maps
agree and cover every request, and the next call issues an unsubscription for a topic
exactly when it releases the topic's last owner, which forgets the topic however
the client's {lit}`unsubscribe` ends.  The next acquisition succeeds exactly if its filter is
authorized and, unless the topic already has the effective QoS, the client's
{lit}`subscribe` succeeds. -/
theorem registry_refines_history (ops : List (ServiceOp ω)) :
    let service := (afterOps topicMatchesSub settings ops).1
    let history := (afterOps topicMatchesSub settings ops).2
    (∀ t o, service.held t o = lastHeld history t o) ∧
      (∀ t owners, service.owners.get? t = some owners → owners.items ≠ []) ∧
      (∀ t, (t ∈ service.owners ↔ t ∈ service.subscriptions) ∧
        (t ∈ service.subscriptions ↔ t ∈ service.client.subscriptions)) ∧
      (∀ t, service.client.subscriptions.get? t = service.subscriptions.get? t) ∧
      (∀ t o r, lastHeld history t o = some r →
        ∃ q, service.subscriptions.get? t = some q ∧ r ≤ q) ∧
      (∀ op, ∃ issued,
        let next := (afterOps topicMatchesSub settings (ops ++ [op])).1
        next.calls = service.calls ++ issued ∧
          ∀ t, (.unsubscribe t ∈ issued ↔
              ∃ o paho, op = .release t o paho ∧ LastOwner history t o) ∧
            (.unsubscribe t ∈ issued → issued = [.unsubscribe t] ∧ t ∉ next.owners ∧
              t ∉ next.subscriptions ∧ t ∉ next.client.subscriptions)) ∧
      ∀ t qos o refresh paho,
        ((runOp topicMatchesSub settings (.acquire t qos o refresh paho)).run service).1 = .ok () ↔
          authorizeTopic topicMatchesSub t settings true = .ok () ∧
            (refresh = false ∧
                service.subscriptions.get? t = (service.ownersWith t qos o).values.max? ∨
              service.client.isConnected paho = true ∧ paho.subscribe = .ok mqttErrSuccess) := by
  intro service history
  have hc : service.Coherent := coherent_afterOps topicMatchesSub settings ops
  have hheld : ∀ t o, service.held t o = lastHeld history t o :=
    held_afterOps topicMatchesSub settings ops
  have hsoleIff : ∀ t o, service.SoleOwner t o ↔ LastOwner history t o := by
    intro t o
    simp only [SoleOwner, LastOwner, hheld]
  refine ⟨hheld, hc.owners_nonempty, ?_, hc.client, ?_, ?_, ?_⟩
  · intro t
    exact ⟨hc.keys t, hc.mem_client_iff.symm⟩
  · intro t o r h
    rw [← hheld] at h
    exact hc.covers t o r h
  · intro op
    rw [afterOps_append]
    rcases calls_runOp topicMatchesSub settings op service with
      ⟨topic, owner, paho, rfl, hsole, outcome, hrun⟩ | ⟨hnot, issued, hcalls, hnone⟩
    · have hnext : (perform topicMatchesSub settings (service, history)
          (.release topic owner paho)).1 = service.forgotten topic := by
        simp only [perform, hrun]
      refine ⟨[.unsubscribe topic], congrArg MQTTService.calls hnext, ?_⟩
      intro t
      constructor
      · constructor
        · intro hmem
          rw [List.mem_singleton, ClientCall.unsubscribe.injEq] at hmem
          subst hmem
          exact ⟨owner, paho, rfl, (hsoleIff _ _).mp hsole⟩
        · rintro ⟨o, paho', hop, _⟩
          cases hop
          exact List.mem_singleton_self _
      · intro hmem
        rw [List.mem_singleton, ClientCall.unsubscribe.injEq] at hmem
        subst hmem
        change _ ∧ t ∉ (perform topicMatchesSub settings (service, history) _).1.owners ∧ _ ∧ _
        rw [hnext]
        simp [forgotten]
    · refine ⟨issued, hcalls, ?_⟩
      intro t
      constructor
      · constructor
        · intro hmem
          exact absurd hmem (hnone t)
        · rintro ⟨o, paho, hop, hlast⟩
          exact absurd ((hsoleIff t o).mpr hlast) (hnot t o paho hop)
      · intro hmem
        exact absurd hmem (hnone t)
  · intro t qos o refresh paho
    exact acquireSubscription_ok_iff topicMatchesSub settings paho t qos o refresh service

end Refinement

/-- A REST owner subscribes a topic with QoS 1, and a websocket acquires it with QoS 0 while the
broker is away. -/
def websocketJoinsRest : List (ServiceOp Owner) :=
  let topic := PyStr.lit ['d', '/', 'a']
  [.connection true, .acquire topic 1 .rest false ⟨true, .ok mqttErrSuccess, fun _ => .ok ()⟩,
    .connection false,
    .acquire topic 0 (.websocket 0) false ⟨false, .ok mqttErrNoConn, fun _ => .ok ()⟩]

/-- Both acquisitions succeed, and each owner is registered with its own QoS. -/
theorem registry_refines_history_shared :
    let run := afterOps (fun _ _ => false) Settings.default websocketJoinsRest
    let topic := PyStr.lit ['d', '/', 'a']
    run.2.map Prod.snd = [.ok (), .ok (), .ok (), .ok ()] ∧ run.1.calls = [.subscribe topic 1] ∧
      run.1.held topic .rest = some 1 ∧ run.1.held topic (.websocket 0) = some 0 ∧
      ∃ q, run.1.subscriptions.get? topic = some q ∧ 1 ≤ q := by
  intro run topic
  rcases registry_refines_history (fun _ _ => false) Settings.default websocketJoinsRest with
    ⟨hheld, _, _, _, hcovers, _⟩
  have hlast : lastHeld run.2 topic .rest = some 1 ∧
      lastHeld run.2 topic (.websocket 0) = some 0 := by
    decide +kernel
  have hresults : run.2.map Prod.snd = [.ok (), .ok (), .ok (), .ok ()] ∧
      run.1.calls = [.subscribe topic 1] := by
    decide +kernel
  exact ⟨hresults.1, hresults.2, (hheld topic _).trans hlast.1, (hheld topic _).trans hlast.2,
    hcovers topic _ 1 hlast.1⟩

/-! ## The effective QoS -/

/-- Every subscribed topic has the largest QoS of its current owners, in both QoS maps. -/
def EffectiveQosExact (service : MQTTService ω) : Prop :=
  ∀ t q, service.subscriptions.get? t = some q →
    service.client.subscriptions.get? t = some q ∧
      ∃ owners, service.owners.get? t = some owners ∧ owners.values.max? = some q

/-- The call releases an owner whose request is larger than that of every other owner of
the topic, while there is another owner. -/
def DropsLargest (service : MQTTService ω) (op : ServiceOp ω) : Prop :=
  ∃ topic owner paho q, op = .release topic owner paho ∧
    service.held topic owner = some q ∧
    (∃ o r, o ≠ owner ∧ service.held topic o = some r) ∧
    ∀ o r, o ≠ owner → service.held topic o = some r → r < q

theorem max?_values_iff {owners : Dict ω Int} {q : Int} :
    owners.values.max? = some q ↔
      (∃ o, owners.get? o = some q) ∧ ∀ o r, owners.get? o = some r → r ≤ q := by
  rw [List.max?_eq_some_iff, Dict.mem_values_iff]
  constructor
  · rintro ⟨hex, hle⟩
    exact ⟨hex, fun o r h => hle r (Dict.mem_values_iff.mpr ⟨o, h⟩)⟩
  · rintro ⟨hex, hle⟩
    refine ⟨hex, ?_⟩
    intro r hr
    rcases Dict.mem_values_iff.mp hr with ⟨o, h⟩
    exact hle o r h

/-- Exactness read through the holders of a topic. -/
theorem effectiveQosExact_iff_held {service : MQTTService ω} (hc : service.Coherent) :
    service.EffectiveQosExact ↔
      ∀ t q, service.subscriptions.get? t = some q → ∃ o, service.held t o = some q := by
  constructor
  · intro h t q hq
    rcases (h t q hq).2 with ⟨owners, howners, hmax⟩
    rcases (max?_values_iff.mp hmax).1 with ⟨o, ho⟩
    exact ⟨o, by rw [held, howners, Option.bind_some, ho]⟩
  · intro h t q hq
    refine ⟨by rw [hc.client, hq], ?_⟩
    have hmem : t ∈ service.owners := (hc.keys t).mpr (Dict.mem_iff_get?.mpr ⟨q, hq⟩)
    rcases Dict.mem_iff_get?.mp hmem with ⟨owners, howners⟩
    have hheld : ∀ o, service.held t o = owners.get? o := by
      intro o
      rw [held, howners, Option.bind_some]
    refine ⟨owners, howners, max?_values_iff.mpr ⟨?_, ?_⟩⟩
    · rcases h t q hq with ⟨o, ho⟩
      exact ⟨o, by rw [← hheld, ho]⟩
    · intro o r hr
      rw [← hheld] at hr
      rcases hc.covers t o r hr with ⟨q', hq', hle⟩
      rw [hq, Option.some.injEq] at hq'
      rwa [hq']

section Exactness

variable (topicMatchesSub : PyStr → PyStr → Bool) (settings : Settings)

/-- Registering an owner with the largest QoS keeps the effective QoS exact. -/
theorem exact_acquired (service : MQTTService ω) {base : MQTTService ω} {topic : PyStr}
    {qos q : Int} {owner : ω} (howners : service.owners = base.owners)
    (hsubs : service.subscriptions = base.subscriptions)
    (hq : (base.ownersWith topic qos owner).values.max? = some q)
    (hexact : ∀ t q, base.subscriptions.get? t = some q → ∃ o, base.held t o = some q) :
    ∀ t r, (service.acquired topic qos owner q).subscriptions.get? t = some r →
      ∃ o, (service.acquired topic qos owner q).held t o = some r := by
  have hheld : ∀ t o, service.held t o = base.held t o := by
    intro t o
    rw [held, held, howners]
  intro t r hr
  simp only [acquired, Dict.get?_set, hsubs] at hr
  by_cases ht : t = topic
  · subst ht
    rw [if_pos rfl, Option.some.injEq] at hr
    subst hr
    rcases (max?_values_iff.mp hq).1 with ⟨o, ho⟩
    refine ⟨o, ?_⟩
    rw [held_acquired, hheld]
    rw [get?_ownersWith] at ho
    simpa using ho
  · rw [if_neg ht] at hr
    rcases hexact t r hr with ⟨o, ho⟩
    refine ⟨o, ?_⟩
    rw [held_acquired, hheld, if_neg (fun h => ht h.1), ho]

/-- A call that does not drop the largest request keeps the effective QoS exact. -/
theorem exact_runOp {op : ServiceOp ω} {service : MQTTService ω} (hc : service.Coherent)
    (hexact : service.EffectiveQosExact) (hop : ¬service.DropsLargest op) :
    ((runOp topicMatchesSub settings op).run service).2.EffectiveQosExact := by
  rw [effectiveQosExact_iff_held hc] at hexact
  rw [effectiveQosExact_iff_held (coherent_runOp topicMatchesSub settings op hc)]
  cases op with
  | acquire t qos o refresh paho =>
      rcases acquireSubscription_run topicMatchesSub settings paho t qos o refresh service with
        ⟨q, hq, ⟨e, calls, hrun, _⟩ | hrun | ⟨_, hrun⟩⟩
      · rw [runOp, hrun]
        exact hexact
      · rw [runOp, hrun]
        exact exact_acquired (service.subscribed t q) rfl rfl hq hexact
      · rw [runOp, hrun]
        exact exact_acquired service rfl rfl hq hexact
  | release topic owner paho =>
      rcases releaseSubscription_run paho topic owner service with
        ⟨_, hrun⟩ | ⟨owners, o, q, r, howners, howner, hne, hother, hrun⟩ | ⟨_, outcome, hrun⟩
      · rw [runOp, hrun]
        exact hexact
      · rw [runOp, hrun]
        intro t q' hq'
        rcases hexact t q' hq' with ⟨o', ho'⟩
        by_cases hleft : t = topic ∧ o' = owner
        · -- The owner that leaves held the effective QoS, so another one has to hold it too.
          rcases hleft with ⟨rfl, rfl⟩
          rw [howner, Option.some.injEq] at ho'
          subst ho'
          by_contra hnone
          apply hop
          refine ⟨t, o', paho, q, rfl, howner, ⟨o, r, hne, hother⟩, ?_⟩
          intro o₂ r₂ hne₂ ho₂
          rcases hc.covers t o₂ r₂ ho₂ with ⟨q₂, hq₂, hle⟩
          change service.subscriptions.get? t = some q at hq'
          rw [hq', Option.some.injEq] at hq₂
          subst hq₂
          refine lt_of_le_of_ne hle ?_
          rintro rfl
          apply hnone
          refine ⟨o₂, ?_⟩
          rw [held_withdrawn howners, if_neg (fun h => hne₂ h.2), ho₂]
        · refine ⟨o', ?_⟩
          rw [held_withdrawn howners, if_neg hleft, ho']
      · rw [runOp, hrun]
        intro t q' hq'
        simp only [forgotten, Dict.get?_erase] at hq'
        split at hq'
        · cases hq'
        · next ht =>
            rcases hexact t q' hq' with ⟨o', ho'⟩
            refine ⟨o', ?_⟩
            rw [held_forgotten, if_neg ht, ho']
  | connection connected => exact hexact

/-- A call that drops the largest request leaves the effective QoS too large. -/
theorem not_exact_runOp {op : ServiceOp ω} {service : MQTTService ω} (hc : service.Coherent)
    (hop : service.DropsLargest op) :
    ¬((runOp topicMatchesSub settings op).run service).2.EffectiveQosExact := by
  intro hexact
  rw [effectiveQosExact_iff_held (coherent_runOp topicMatchesSub settings op hc)] at hexact
  rcases hop with ⟨topic, owner, paho, q, rfl, howner, ⟨o, r, hne, hother⟩, hless⟩
  rcases releaseSubscription_run paho topic owner service with
    ⟨hnone, _⟩ | ⟨owners, _, _, _, howners, _, _, _, hrun⟩ | ⟨hsole, _⟩
  · rw [howner] at hnone
    cases hnone
  · rw [runOp, hrun] at hexact
    rcases hc.covers topic owner q howner with ⟨q', hq', hle⟩
    rcases hexact topic q' hq' with ⟨o', ho'⟩
    rw [held_withdrawn howners] at ho'
    split at ho'
    · cases ho'
    · next hkeep =>
        have hlt := hless o' q' (fun h => hkeep ⟨rfl, h⟩) ho'
        omega
  · rw [hsole.2 o hne] at hother
    cases hother

/-- The effective QoS is exact throughout a sequence of calls exactly when no call of the
sequence drops the largest request while other owners remain. -/
theorem effectiveQos_exact_iff (ops : List (ServiceOp ω)) :
    (∀ pre, pre <+: ops → (afterOps topicMatchesSub settings pre).1.EffectiveQosExact) ↔
      ∀ pre op, pre ++ [op] <+: ops →
        ¬(afterOps topicMatchesSub settings pre).1.DropsLargest op := by
  constructor
  · intro hexact pre op hpre hdrops
    have hnext := hexact (pre ++ [op]) hpre
    rw [afterOps_append] at hnext
    exact not_exact_runOp topicMatchesSub settings
      (coherent_afterOps topicMatchesSub settings pre) hdrops hnext
  · intro hkeeps pre
    induction pre using List.reverseRecOn with
    | nil =>
        intro _ t q h
        cases h
    | append_singleton pre op ih =>
        intro hpre
        have hprefix : pre <+: ops := (List.prefix_append pre [op]).trans hpre
        rw [afterOps_append]
        exact exact_runOp topicMatchesSub settings
          (coherent_afterOps topicMatchesSub settings pre) (ih hprefix) (hkeeps pre op hpre)

end Exactness

/-- A REST owner with QoS 2 leaves a topic that a websocket still holds with QoS 0. -/
def restLeavesWebsocket : List (ServiceOp Owner) :=
  let paho : Paho := ⟨true, .ok mqttErrSuccess, fun _ => .ok ()⟩
  let topic := PyStr.lit ['d', '/', 'a']
  [.connection true, .acquire topic 2 .rest false paho, .acquire topic 0 (.websocket 0) false paho,
    .release topic .rest paho]

/-- After the REST owner has left, the topic keeps QoS 2 although its only owner asks for 0. -/
theorem effectiveQos_not_exact :
    ¬∀ (topicMatchesSub : PyStr → PyStr → Bool) (settings : Settings)
      (ops : List (ServiceOp Owner)), (∀ op ∈ ops, op.ClientSucceeds) →
        (afterOps topicMatchesSub settings ops).1.EffectiveQosExact := by
  intro hexact
  have hsucceeds : ∀ op ∈ restLeavesWebsocket, op.ClientSucceeds := by
    simp [restLeavesWebsocket, ServiceOp.ClientSucceeds]
  have h := hexact (fun _ _ => false) Settings.default restLeavesWebsocket hsucceeds
    (PyStr.lit ['d', '/', 'a']) 2 (by decide +kernel)
  rcases h.2 with ⟨owners, howners, hmax⟩
  have hvalues : ((afterOps (fun _ _ => false) Settings.default restLeavesWebsocket).1.owners.get?
      (PyStr.lit ['d', '/', 'a'])).map Dict.values = some [0] := by
    decide +kernel
  rw [howners, Option.map_some, Option.some.injEq] at hvalues
  rw [hvalues] at hmax
  cases hmax

end MQTTService

end MqttGateway
