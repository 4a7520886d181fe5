import MqttGateway.Core.Topics
import MqttGateway.Mqtt.Client
import Mathlib.Order.Lattice
import Mathlib.Algebra.Order.Ring.Int

/-!
# The subscription registry of the service

{lit}`MQTTService.acquire_subscription` and {lit}`MQTTService.release_subscription` over the
three maps they keep coherent: the owners of each topic, the effective QoS of each
topic, and the client's own map.  Both methods hold {lit}`_subscription_lock`, and
neither suspends while it holds it because the client's methods never suspend, so
a call is one atomic step and the lock is never found taken.

Main results:

- Theorem {lit}`acquireSubscription_run`: everything a call of {lit}`acquire_subscription` can do.
- Theorem {lit}`releaseSubscription_run`: everything a call of {lit}`release_subscription` can do.
- Theorems {lit}`held_acquireSubscription` and {lit}`held_releaseSubscription`: what both calls do
  to the holders of every topic.
- Theorems {lit}`Coherent.acquire` and {lit}`Coherent.release`: both calls keep the three maps
  coherent.
-/

namespace MqttGateway

open Toolkit

/-- The owners the gateway names: the REST interface, one owner for each retained query and
one for each websocket connection, told apart by the number in place of a uuid. -/
inductive Owner where
  | rest
  | retained (id : Nat)
  | websocket (id : Nat)
deriving DecidableEq, Repr

/-- A call on the client, kept in a record that the code itself does not have. -/
inductive ClientCall where
  | subscribe (topic : PyStr) (qos : Int)
  | unsubscribe (topic : PyStr)
deriving DecidableEq, Repr

/-- The subscription state of {lit}`MQTTService`, over an arbitrary type of owners. -/
structure MQTTService (ω : Type) where
  client : MQTTClient
  subscriptions : Dict PyStr Int
  owners : Dict PyStr (Dict ω Int)
  /-- The calls made on the client so far, oldest first. -/
  calls : List ClientCall

namespace MQTTService

variable {ω : Type}

/-- A service with no subscription and a client before its first connection. -/
def initial : MQTTService ω where
  client := MQTTClient.initial
  subscriptions := Dict.empty
  owners := Dict.empty
  calls := []

/-- {lit}`max(values)`. -/
def pyMax {σ : Type} (values : List Int) : Py σ Int :=
  match values.max? with
  | some m => pure m
  | none => throw (.valueError "max() arg is an empty sequence")

/-- Call the client, and write the call down. -/
def callClient (call : ClientCall) (method : Py MQTTClient Unit) : Py (MQTTService ω) Unit := do
  modify fun service => { service with calls := service.calls ++ [call] }
  Effect.zoom (fun service => service.client) (fun service client => { service with client })
    method

variable [DecidableEq ω]

/-- The owners a topic has once an owner has acquired it. -/
def ownersWith (service : MQTTService ω) (topic : PyStr) (qos : Int) (owner : ω) : Dict ω Int :=
  ((service.owners.get? topic).getD Dict.empty).set owner qos

/-- {lit}`MQTTService.acquire_subscription`. -/
def acquireSubscription (topicMatchesSub : PyStr → PyStr → Bool) (settings : Settings)
    (paho : Paho) (topic : PyStr) (qos : Int) (owner : ω) (refresh : Bool) :
    Py (MQTTService ω) Unit := do
  Effect.ofExcept (authorizeTopic topicMatchesSub topic settings true)
  let service ← get
  let owners := service.ownersWith topic qos owner
  let effectiveQos ← pyMax owners.values
  if refresh ∨ topic ∉ service.subscriptions ∨
      service.subscriptions.get? topic ≠ some effectiveQos then
    callClient (.subscribe topic effectiveQos) (MQTTClient.subscribe paho topic effectiveQos)
  modify fun service =>
    { service with
      owners := service.owners.set topic owners
      subscriptions := service.subscriptions.set topic effectiveQos }

/-- {lit}`MQTTService.release_subscription`. -/
def releaseSubscription (paho : Paho) (topic : PyStr) (owner : ω) :
    Py (MQTTService ω) Unit := do
  match (← get).owners.get? topic with
  | none => return
  | some owners =>
      if owners.size = 0 ∨ owner ∉ owners then
        return
      if 1 < owners.size then
        -- The inner dictionary is changed in place.
        modify fun service =>
          { service with owners := service.owners.set topic (owners.erase owner) }
        return
      try
        callClient (.unsubscribe topic) (MQTTClient.unsubscribe paho topic)
      finally
        modify fun service =>
          { service with
            owners := service.owners.erase topic
            subscriptions := service.subscriptions.erase topic }

/-- The QoS an owner holds a topic with. -/
def held (service : MQTTService ω) (topic : PyStr) (owner : ω) : Option Int :=
  (service.owners.get? topic).bind fun owners => owners.get? owner

@[simp]
theorem held_initial (topic : PyStr) (owner : ω) :
    (initial : MQTTService ω).held topic owner = none :=
  rfl

/-! ## Effect of acquiring -/

/-- The owners of a topic with one more, or with a new QoS. -/
theorem get?_ownersWith (service : MQTTService ω) (topic : PyStr) (qos : Int) (owner o : ω) :
    (service.ownersWith topic qos owner).get? o =
      if o = owner then some qos else service.held topic o := by
  unfold ownersWith held
  rw [Dict.get?_set]
  cases service.owners.get? topic <;> rfl

/-- The owners after an acquisition have a largest QoS. -/
theorem exists_max_ownersWith (service : MQTTService ω) (topic : PyStr) (qos : Int)
    (owner : ω) : ∃ q, (service.ownersWith topic qos owner).values.max? = some q := by
  have hmem : qos ∈ (service.ownersWith topic qos owner).values := by
    rw [Dict.mem_values_iff]
    exact ⟨owner, by rw [get?_ownersWith, if_pos rfl]⟩
  exact Option.isSome_iff_exists.mp (List.isSome_max?_of_mem hmem)

/-- The state after a successful acquisition with effective QoS {lit}`q`. -/
def acquired (service : MQTTService ω) (topic : PyStr) (qos : Int) (owner : ω) (q : Int) :
    MQTTService ω :=
  { service with
    owners := service.owners.set topic (service.ownersWith topic qos owner)
    subscriptions := service.subscriptions.set topic q }

/-- The state after a call on the client that recorded the topic. -/
def subscribed (service : MQTTService ω) (topic : PyStr) (q : Int) : MQTTService ω :=
  { service with
    client := service.client.record topic q
    calls := service.calls ++ [.subscribe topic q] }

/-- Everything a call of {lit}`acquire_subscription` can do: it raises and changes no map, or it
registers the owner, after a call on the client that records the topic unless the
effective QoS is already the one the topic has. -/
theorem acquireSubscription_run (topicMatchesSub : PyStr → PyStr → Bool) (settings : Settings)
    (paho : Paho) (topic : PyStr) (qos : Int) (owner : ω) (refresh : Bool)
    (service : MQTTService ω) :
    ∃ q, (service.ownersWith topic qos owner).values.max? = some q ∧
      ((∃ e calls, (acquireSubscription topicMatchesSub settings paho topic qos owner refresh).run
            service = (.error e, { service with calls := service.calls ++ calls }) ∧
          (calls = [] ∨ calls = [.subscribe topic q])) ∨
        (acquireSubscription topicMatchesSub settings paho topic qos owner refresh).run service =
          (.ok (), (service.subscribed topic q).acquired topic qos owner q) ∨
        (service.subscriptions.get? topic = some q ∧
          (acquireSubscription topicMatchesSub settings paho topic qos owner refresh).run service =
            (.ok (), service.acquired topic qos owner q))) := by
  rcases service.exists_max_ownersWith topic qos owner with ⟨q, hq⟩
  refine ⟨q, hq, ?_⟩
  unfold acquireSubscription
  cases hauth : authorizeTopic topicMatchesSub topic settings true with
  | error e =>
      refine Or.inl ⟨e, [], ?_, Or.inl rfl⟩
      simp
  | ok _ =>
      by_cases hneeded : refresh ∨ topic ∉ service.subscriptions ∨
          service.subscriptions.get? topic ≠ some q
      · rcases MQTTClient.subscribe_run paho topic q service.client with ⟨e, hclient⟩ | hclient
        · refine Or.inl ⟨e, [.subscribe topic q], ?_, Or.inr rfl⟩
          simp [pyMax, hq, hneeded, callClient, hclient]
        · refine Or.inr (Or.inl ?_)
          simp only [Effect.run_bind, Effect.run_ofExcept, Effect.run_get, Effect.run_modify,
            Effect.run_zoom, Effect.run_pure, pyMax, hq, hneeded, if_true, callClient, hclient]
          rfl
      · refine Or.inr (Or.inr ⟨?_, ?_⟩)
        · rw [not_or, not_or, not_not] at hneeded
          exact not_not.mp hneeded.2.2
        · simp [pyMax, hq, hneeded, acquired]

/-- An acquisition succeeds exactly if the filter is authorized and, unless the topic already has
its effective QoS, the client is connected and paho reports success. -/
theorem acquireSubscription_ok_iff (topicMatchesSub : PyStr → PyStr → Bool) (settings : Settings)
    (paho : Paho) (topic : PyStr) (qos : Int) (owner : ω) (refresh : Bool)
    (service : MQTTService ω) :
    ((acquireSubscription topicMatchesSub settings paho topic qos owner refresh).run service).1 =
        .ok () ↔
      authorizeTopic topicMatchesSub topic settings true = .ok () ∧
        (refresh = false ∧ service.subscriptions.get? topic =
            (service.ownersWith topic qos owner).values.max? ∨
          service.client.isConnected paho = true ∧ paho.subscribe = .ok mqttErrSuccess) := by
  rcases service.exists_max_ownersWith topic qos owner with ⟨q, hq⟩
  rw [← MQTTClient.subscribe_ok_iff paho topic q, hq]
  unfold acquireSubscription
  cases authorizeTopic topicMatchesSub topic settings true with
  | error e => simp
  | ok _ =>
      by_cases hkept : refresh = false ∧ service.subscriptions.get? topic = some q
      · have hmem : topic ∈ service.subscriptions := Dict.mem_iff_get?.mpr ⟨q, hkept.2⟩
        simp [pyMax, hq, hkept, hmem]
      · have hneeded : refresh ∨ topic ∉ service.subscriptions ∨
            service.subscriptions.get? topic ≠ some q := by
          cases refresh with
          | true => exact Or.inl rfl
          | false => exact Or.inr (Or.inr fun hsame => hkept ⟨rfl, hsame⟩)
        rcases hclient : (MQTTClient.subscribe paho topic q).run service.client with
          ⟨result, client⟩
        cases result <;> simp [pyMax, hq, hneeded, hkept, callClient, hclient]

/-! ## Effect of releasing -/

/-- The state after the last owner of a topic is released. -/
def forgotten (service : MQTTService ω) (topic : PyStr) : MQTTService ω :=
  { service with
    client := service.client.forget topic
    owners := service.owners.erase topic
    subscriptions := service.subscriptions.erase topic
    calls := service.calls ++ [.unsubscribe topic] }

/-- The state after one of several owners of a topic is released. -/
def withdrawn (service : MQTTService ω) (topic : PyStr) (owners : Dict ω Int) (owner : ω) :
    MQTTService ω :=
  { service with owners := service.owners.set topic (owners.erase owner) }

/-- An owner is the only one a topic has. -/
def SoleOwner (service : MQTTService ω) (topic : PyStr) (owner : ω) : Prop :=
  (∃ q, service.held topic owner = some q) ∧
    ∀ o, o ≠ owner → service.held topic o = none

/-- Everything a call of {lit}`release_subscription` can do: nothing for an owner that does not
hold the topic, one entry less where others hold it too, and otherwise the topic
is forgotten in all three maps, whatever the client's {lit}`unsubscribe` raises. -/
theorem releaseSubscription_run (paho : Paho) (topic : PyStr) (owner : ω)
    (service : MQTTService ω) :
    (service.held topic owner = none ∧
        (releaseSubscription paho topic owner).run service = (.ok (), service)) ∨
      (∃ owners o q r, service.owners.get? topic = some owners ∧
        service.held topic owner = some q ∧ o ≠ owner ∧ service.held topic o = some r ∧
        (releaseSubscription paho topic owner).run service =
          (.ok (), service.withdrawn topic owners owner)) ∨
      (service.SoleOwner topic owner ∧
        ∃ outcome, (releaseSubscription paho topic owner).run service =
          (outcome, service.forgotten topic)) := by
  unfold releaseSubscription
  cases howners : service.owners.get? topic with
  | none =>
      refine Or.inl ⟨?_, ?_⟩
      · simp [held, howners]
      · simp [howners]
  | some owners =>
      have hheld : ∀ o, service.held topic o = owners.get? o := by
        intro o
        simp [held, howners]
      cases howner : owners.get? owner with
      | none =>
          have hnot : owner ∉ owners := Dict.not_mem_iff_get?.mpr howner
          refine Or.inl ⟨?_, ?_⟩
          · rw [hheld, howner]
          · simp [howners, hnot]
      | some q =>
          have hmem : owner ∈ owners := Dict.mem_iff_get?.mpr ⟨q, howner⟩
          have hsize : owners.size ≠ 0 := by
            intro hzero
            have hnil : owners.items = [] := List.length_eq_zero_iff.mp hzero
            rw [Dict.items_eq_nil_iff.mp hnil owner] at howner
            cases howner
          by_cases hmany : 1 < owners.size
          · have hother : ¬∀ o, o ≠ owner → owners.get? o = none := by
              rw [← Dict.size_le_one_iff_of_get? howner]
              omega
            rw [not_forall] at hother
            rcases hother with ⟨o, ho⟩
            rw [Classical.not_imp] at ho
            rcases ho with ⟨hne, ho⟩
            rcases Option.ne_none_iff_exists'.mp ho with ⟨r, hr⟩
            refine Or.inr (Or.inl ⟨owners, o, q, r, rfl, ?_, hne, ?_, ?_⟩)
            · rw [hheld, howner]
            · rw [hheld, hr]
            · simp [howners, hmem, hsize, hmany, withdrawn]
          · have hsole : ∀ o, o ≠ owner → owners.get? o = none :=
              (Dict.size_le_one_iff_of_get? howner).mp (Nat.le_of_not_lt hmany)
            rcases MQTTClient.unsubscribe_run paho topic service.client with ⟨outcome, hclient⟩
            refine Or.inr (Or.inr ⟨⟨⟨q, ?_⟩, ?_⟩, outcome, ?_⟩)
            · rw [hheld, howner]
            · intro o hne
              rw [hheld, hsole o hne]
            · cases outcome <;>
                simp [howners, hmem, hsize, hmany, callClient, hclient, forgotten]

/-! ## Holders after each call -/

/-- An acquisition gives the topic to its owner. -/
@[simp]
theorem held_acquired (service : MQTTService ω) (topic t : PyStr) (qos q : Int) (owner o : ω) :
    (service.acquired topic qos owner q).held t o =
      if t = topic ∧ o = owner then some qos else service.held t o := by
  unfold acquired
  by_cases ht : t = topic
  · subst ht
    simp [held, get?_ownersWith]
  · simp [held, ht]

@[simp]
theorem held_subscribed (service : MQTTService ω) (topic t : PyStr) (q : Int) (o : ω) :
    (service.subscribed topic q).held t o = service.held t o :=
  rfl

/-- Nobody holds a topic that is forgotten. -/
@[simp]
theorem held_forgotten (service : MQTTService ω) (topic t : PyStr) (o : ω) :
    (service.forgotten topic).held t o = if t = topic then none else service.held t o := by
  by_cases ht : t = topic <;> simp [held, forgotten, ht]

/-- One of several owners leaves the topic to the others. -/
theorem held_withdrawn {service : MQTTService ω} {topic : PyStr} {owners : Dict ω Int}
    (howners : service.owners.get? topic = some owners) (t : PyStr) (owner o : ω) :
    (service.withdrawn topic owners owner).held t o =
      if t = topic ∧ o = owner then none else service.held t o := by
  by_cases ht : t = topic
  · subst ht
    simp [held, withdrawn, howners]
  · simp [held, withdrawn, ht]

/-- An acquisition that raises changes no holder, one that succeeds gives its owner the topic. -/
theorem held_acquireSubscription (topicMatchesSub : PyStr → PyStr → Bool) (settings : Settings)
    (paho : Paho) (topic : PyStr) (qos : Int) (owner : ω) (refresh : Bool)
    (service : MQTTService ω) :
    let result := (acquireSubscription topicMatchesSub settings paho topic qos owner refresh).run
      service
    (∃ e, result.1 = .error e ∧ ∀ t o, result.2.held t o = service.held t o) ∨
      (result.1 = .ok () ∧ ∀ t o, result.2.held t o =
        if t = topic ∧ o = owner then some qos else service.held t o) := by
  intro result
  rcases acquireSubscription_run topicMatchesSub settings paho topic qos owner refresh service with
    ⟨q, _, ⟨e, calls, hrun, _⟩ | hrun | ⟨_, hrun⟩⟩
  · exact Or.inl ⟨e, congrArg Prod.fst hrun, fun t o => by rw [congrArg Prod.snd hrun]; rfl⟩
  · refine Or.inr ⟨congrArg Prod.fst hrun, ?_⟩
    intro t o
    rw [congrArg Prod.snd hrun, held_acquired, held_subscribed]
  · refine Or.inr ⟨congrArg Prod.fst hrun, ?_⟩
    intro t o
    rw [congrArg Prod.snd hrun, held_acquired]

/-- An acquisition that succeeds is of an authorized filter. -/
theorem authorizeTopic_of_acquireSubscription {topicMatchesSub : PyStr → PyStr → Bool}
    {settings : Settings} {paho : Paho} {topic : PyStr} {qos : Int} {owner : ω} {refresh : Bool}
    {service : MQTTService ω}
    (h : ((acquireSubscription topicMatchesSub settings paho topic qos owner refresh).run
      service).1 = .ok ()) :
    authorizeTopic topicMatchesSub topic settings true = .ok () := by
  unfold acquireSubscription at h
  cases hauth : authorizeTopic topicMatchesSub topic settings true with
  | error e => simp [hauth] at h
  | ok _ => rfl

/-- A release takes the topic from its owner and changes no other holder. -/
theorem held_releaseSubscription (paho : Paho) (topic t : PyStr) (owner o : ω)
    (service : MQTTService ω) :
    ((releaseSubscription paho topic owner).run service).2.held t o =
      if t = topic ∧ o = owner then none else service.held t o := by
  rcases releaseSubscription_run paho topic owner service with
    ⟨hnone, hrun⟩ | ⟨owners, _, _, _, howners, _, _, _, hrun⟩ | ⟨hsole, outcome, hrun⟩
  · rw [hrun]
    split
    · next h => rw [h.1, h.2, hnone]
    · rfl
  · rw [hrun, held_withdrawn howners]
  · rw [hrun, held_forgotten]
    by_cases ht : t = topic
    · subst ht
      by_cases ho : o = owner
      · simp [ho]
      · simp [ho, hsole.2 o ho]
    · simp [ht]

/-- A release raises nothing if paho's {lit}`unsubscribe` does not. -/
theorem releaseSubscription_ok {paho : Paho} {topic : PyStr}
    (hpaho : paho.unsubscribe topic = .ok ()) (owner : ω) (service : MQTTService ω) :
    ((releaseSubscription paho topic owner).run service).1 = .ok () := by
  unfold releaseSubscription
  cases howners : service.owners.get? topic with
  | none => simp [howners]
  | some owners =>
      have hclient := MQTTClient.unsubscribe_run_ok hpaho service.client
      by_cases hnone : owners.size = 0 ∨ owner ∉ owners
      · simp [howners, hnone]
      · by_cases hmany : 1 < owners.size
        · simp [howners, hnone, hmany]
        · simp [howners, hnone, hmany, callClient, hclient]

/-! ## Coherence of the three maps -/

/-- The three maps agree: no topic has an empty map of owners, all three have the same
keys, the two QoS maps are equal, and they cover every owner's request. -/
structure Coherent (service : MQTTService ω) : Prop where
  owners_nonempty : ∀ t owners, service.owners.get? t = some owners → owners.items ≠ []
  keys : ∀ t, t ∈ service.owners ↔ t ∈ service.subscriptions
  client : ∀ t, service.client.subscriptions.get? t = service.subscriptions.get? t
  covers : ∀ t o r, service.held t o = some r →
    ∃ q, service.subscriptions.get? t = some q ∧ r ≤ q

/-- The three maps of a service without subscriptions agree. -/
theorem coherent_initial : Coherent (initial : MQTTService ω) where
  owners_nonempty t owners h := by cases h
  keys t := Iff.rfl
  client t := rfl
  covers t o r h := by cases h

/-- A topic of a coherent service has an owner. -/
theorem Coherent.exists_held {service : MQTTService ω} (hc : service.Coherent) {t : PyStr}
    (ht : t ∈ service.subscriptions) : ∃ o q, service.held t o = some q := by
  rw [← hc.keys, Dict.mem_iff_get?] at ht
  rcases ht with ⟨owners, howners⟩
  rcases List.exists_mem_of_ne_nil _ (hc.owners_nonempty t owners howners) with ⟨⟨o, q⟩, hitem⟩
  refine ⟨o, q, ?_⟩
  rw [held, howners]
  exact Dict.mem_items_iff.mp hitem

/-- A topic is subscribed exactly when it has an owner. -/
theorem Coherent.mem_subscriptions_iff {service : MQTTService ω} (hc : service.Coherent)
    {t : PyStr} : t ∈ service.subscriptions ↔ ∃ o q, service.held t o = some q := by
  constructor
  · exact hc.exists_held
  · rintro ⟨o, q, h⟩
    rcases hc.covers t o q h with ⟨r, hr, _⟩
    exact Dict.mem_iff_get?.mpr ⟨r, hr⟩

/-- The client keeps the topics that the service keeps. -/
theorem Coherent.mem_client_iff {service : MQTTService ω} (hc : service.Coherent) {t : PyStr} :
    t ∈ service.client.subscriptions ↔ t ∈ service.subscriptions := by
  rw [Dict.mem_iff_get?, Dict.mem_iff_get?, hc.client]

/-- The record of the calls is none of the three maps. -/
theorem Coherent.record_calls {service : MQTTService ω} (hc : service.Coherent)
    (calls : List ClientCall) : Coherent { service with calls } where
  owners_nonempty := hc.owners_nonempty
  keys := hc.keys
  client := hc.client
  covers := hc.covers

/-- Registering an owner keeps coherence once the client's map has the new QoS. -/
theorem Coherent.acquired {base : MQTTService ω} {topic : PyStr} {qos q : Int}
    {owner : ω} (hc : base.Coherent) (service : MQTTService ω)
    (howners : service.owners = base.owners)
    (hsubs : service.subscriptions = base.subscriptions)
    (hq : (base.ownersWith topic qos owner).values.max? = some q)
    (hclient : ∀ t, service.client.subscriptions.get? t =
      if t = topic then some q else base.subscriptions.get? t) :
    Coherent (service.acquired topic qos owner q) where
  owners_nonempty t owners h := by
    simp only [MQTTService.acquired, Dict.get?_set] at h
    split at h
    · cases h
      intro hnil
      have hnone := Dict.items_eq_nil_iff.mp hnil owner
      rw [get?_ownersWith, if_pos rfl] at hnone
      cases hnone
    · rw [howners] at h
      exact hc.owners_nonempty t owners h
  keys t := by
    simp [MQTTService.acquired, howners, hsubs, hc.keys]
  client t := by
    simp [MQTTService.acquired, hclient, hsubs]
  covers t o r h := by
    have hheld : ∀ t o, service.held t o = base.held t o := by
      intro t o
      rw [held, held, howners]
    rw [held_acquired, hheld] at h
    simp only [MQTTService.acquired, Dict.get?_set, hsubs]
    by_cases ht : t = topic
    · subst ht
      refine ⟨q, if_pos rfl, ?_⟩
      have hmem : r ∈ (base.ownersWith t qos owner).values := by
        rw [Dict.mem_values_iff]
        refine ⟨o, ?_⟩
        rw [get?_ownersWith]
        simpa using h
      exact (List.max?_eq_some_iff.mp hq).2 r hmem
    · rw [if_neg (fun hand => ht hand.1)] at h
      rw [if_neg ht]
      exact hc.covers t o r h

/-- Acquiring keeps the maps coherent, whatever the client does. -/
theorem Coherent.acquire {service : MQTTService ω} (hc : service.Coherent)
    (topicMatchesSub : PyStr → PyStr → Bool) (settings : Settings) (paho : Paho) (topic : PyStr)
    (qos : Int) (owner : ω) (refresh : Bool) :
    Coherent ((acquireSubscription topicMatchesSub settings paho topic qos owner refresh).run
      service).2 := by
  rcases acquireSubscription_run topicMatchesSub settings paho topic qos owner refresh service with
    ⟨q, hq, ⟨e, calls, hrun, _⟩ | hrun | ⟨hsame, hrun⟩⟩
  · rw [hrun]
    exact hc.record_calls _
  · rw [hrun]
    apply hc.acquired (service.subscribed topic q) rfl rfl hq
    intro t
    simp [subscribed, hc.client]
  · rw [hrun]
    apply hc.acquired service rfl rfl hq
    intro t
    rw [hc.client]
    split
    · next ht =>
        rw [ht, hsame]
    · rfl

/-- Releasing keeps the maps coherent, whatever the client does. -/
theorem Coherent.release {service : MQTTService ω} (hc : service.Coherent) (paho : Paho)
    (topic : PyStr) (owner : ω) :
    Coherent ((releaseSubscription paho topic owner).run service).2 := by
  rcases releaseSubscription_run paho topic owner service with
    ⟨_, hrun⟩ | ⟨owners, o, q, r, howners, _, hne, hother, hrun⟩ | ⟨_, outcome, hrun⟩
  · rw [hrun]
    exact hc
  · rw [hrun]
    refine ⟨?_, ?_, hc.client, ?_⟩
    · intro t owners' h
      simp only [withdrawn, Dict.get?_set] at h
      split at h
      · cases h
        intro hnil
        have hnone := Dict.items_eq_nil_iff.mp hnil o
        rw [held, howners] at hother
        rw [Dict.get?_erase, if_neg hne] at hnone
        rw [Option.bind_some, hnone] at hother
        cases hother
      · exact hc.owners_nonempty t owners' h
    · intro t
      have hmem : topic ∈ service.owners := Dict.mem_iff_get?.mpr ⟨owners, howners⟩
      simp only [withdrawn, Dict.mem_set, ← hc.keys]
      constructor
      · rintro (rfl | h)
        · exact hmem
        · exact h
      · exact Or.inr
    · intro t o' r' h
      rw [held_withdrawn howners] at h
      split at h
      · cases h
      · exact hc.covers t o' r' h
  · rw [hrun]
    refine ⟨?_, ?_, ?_, ?_⟩
    · intro t owners h
      simp only [forgotten, Dict.get?_erase] at h
      split at h
      · cases h
      · exact hc.owners_nonempty t owners h
    · intro t
      simp [forgotten, hc.keys]
    · intro t
      simp [forgotten, hc.client]
    · intro t o r h
      rw [held_forgotten] at h
      split at h
      · cases h
      · next ht =>
          rcases hc.covers t o r h with ⟨q, hq, hle⟩
          refine ⟨q, ?_, hle⟩
          simp [forgotten, ht, hq]

end MQTTService

end MqttGateway
