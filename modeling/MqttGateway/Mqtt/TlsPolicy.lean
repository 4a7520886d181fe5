import MqttGateway.Library.Machine
import MqttGateway.Mqtt.CertificateKeys

/-!
# Keys of a TLS peer

{lit}`tls_policy` and the context of the MQTT client.  After the handshake of OpenSSL has
verified a chain, {lit}`_check_verified_keys` looks at the key of each certificate in it.  A
{lit}`_VerifiedSocket` and a {lit}`_VerifiedObject` do so in {lit}`do_handshake`.  OpenSSL itself
completes the handshake in the first write as well, so what the check is worth depends on
when a client writes.

Main results:

- Theorem {lit}`data_only_to_verified_peers`: a client of a socket that writes after a handshake
  that did not ask for a retry, and a client of an object that writes after a handshake that
  returned, send data only to peers all of whose certificates have keys that are accepted.
- Theorem {lit}`object_stays_open`: an object does not stop a client that goes on after an error.
- Theorem {lit}`mqttContext_ok`: the context of the MQTT client verifies certificates and host
  names, checks keys, and is at least as strict as the one it is made from.
-/

namespace MqttGateway

open Toolkit

/-- An entry of a verified chain. -/
inductive ChainItem where
  | der (bytes : Bytes)
  /-- An object, with what its {lit}`public_bytes` returns or raises, if it is callable.  A
  result that is no {lit}`str` is {lit}`none`. -/
  | certificate (publicBytes : Option (Except TlsError (Option PyStr)))

/-- What {lit}`get_verified_chain` returns or raises.  A result that is no list is {lit}`none`. -/
abbrev ChainCall := Except TlsError (Option (List ChainItem))

/-- The peer of a handshake that OpenSSL has completed, as the connection shows it. -/
structure TlsPeer where
  /-- The method of the connection, if it is callable. -/
  getVerifiedChain : Option ChainCall
  /-- The method of its {lit}`_sslobj`. -/
  sslobjGetVerifiedChain : Option ChainCall

/-- The method that {lit}`_check_verified_keys` takes. -/
def TlsPeer.getChain (peer : TlsPeer) : Option ChainCall :=
  peer.getVerifiedChain <|> peer.sslobjGetVerifiedChain

/-- What the checks find at run time: the libraries, and {lit}`ssl.PEM_cert_to_DER_cert`. -/
structure TlsRuntime where
  keys : KeyRuntime
  pemCertToDerCert : PyStr → Except TlsError Bytes

section Check

variable (runtime : TlsRuntime)

/-- The certificate of an entry. -/
def certificateOf : ChainItem → Except TlsError Bytes
  | .der bytes => .ok bytes
  | .certificate publicBytes =>
      match publicBytes.getD (.ok none) with
      | .ok (some pem) => runtime.pemCertToDerCert pem
      | .ok none => .error (.sslError "TLS runtime returned an unsupported certificate format")
      | .error e => .error e

/-- The loop of {lit}`_check_verified_keys`. -/
def checkKeys : List ChainItem → Effect TlsError (Scope Ref) Unit
  | [] => return
  | item :: rest => do
      let der ← Effect.ofExcept (certificateOf runtime item)
      if !(← certificateKeyOk runtime.keys der) then
        throw (.sslError "TLS certificate key is below the supported security minimum")
      checkKeys rest

/-- {lit}`_check_verified_keys`. -/
def checkVerifiedKeys (peer : TlsPeer) : Effect TlsError (Scope Ref) Unit :=
  match peer.getChain with
  | none => throw (.sslError "TLS runtime does not expose its verified certificate chain")
  | some getChain => do
      match ← Effect.ofExcept getChain with
      | none | some [] => throw (.sslError "TLS peer has no verified certificate chain")
      | some (item :: rest) => checkKeys runtime (item :: rest)

/-- The key of the certificate is accepted. -/
def AcceptedKey (item : ChainItem) : Prop :=
  ∃ der s, certificateOf runtime item = .ok der ∧
    ((certificateKeyOk runtime.keys der).run s).1 = .ok true

/-- The verified chain of a peer has certificates, and all their keys are accepted. -/
def AcceptedPeer (peer : TlsPeer) : Prop :=
  ∃ chain, peer.getChain = some (.ok (some chain)) ∧ chain ≠ [] ∧
    ∀ item ∈ chain, AcceptedKey runtime item

variable {runtime}

/-- The loop ends normally only after every key has been accepted. -/
theorem acceptedKey_of_checkKeys {chain : List ChainItem} {s : Scope Ref}
    (h : ((checkKeys runtime chain).run s).1 = .ok ()) :
    ∀ item ∈ chain, AcceptedKey runtime item := by
  induction chain generalizing s with
  | nil => simp
  | cons item rest ih =>
      rw [checkKeys, Effect.run_bind, Effect.run_ofExcept] at h
      cases hder : certificateOf runtime item with
      | error e =>
          rw [hder] at h
          cases h
      | ok der =>
          simp only [hder, Effect.run_bind] at h
          rcases hkey : (certificateKeyOk runtime.keys der).run s with ⟨e | ok, s'⟩
          · rw [hkey] at h
            cases h
          · rw [hkey] at h
            cases ok with
            | false => cases h
            | true =>
                intro other hother
                rcases List.mem_cons.mp hother with rfl | hrest
                · exact ⟨der, s, hder, by rw [hkey]⟩
                · exact ih h other hrest

/-- The check ends normally only for a peer whose keys are accepted. -/
theorem acceptedPeer_of_check {peer : TlsPeer} {s : Scope Ref}
    (h : ((checkVerifiedKeys runtime peer).run s).1 = .ok ()) : AcceptedPeer runtime peer := by
  unfold checkVerifiedKeys at h
  split at h
  · cases h
  · next getChain hchain =>
      rw [Effect.run_bind, Effect.run_ofExcept] at h
      rcases getChain with e | _ | _ | ⟨item, rest⟩
      · cases h
      · cases h
      · cases h
      · exact ⟨_, hchain, by simp, acceptedKey_of_checkKeys h⟩

end Check

/-! ## Connections -/

/-- A connection, and what its client has seen of it. -/
structure TlsConnection where
  isOpen : Bool
  /-- The peer, once OpenSSL has completed the handshake. -/
  peer : Option TlsPeer
  /-- The references of the native checks. -/
  references : Scope Ref
  /-- A call of {lit}`do_handshake` has ended, and did not ask for a retry. -/
  attempted : Bool
  /-- A call of {lit}`do_handshake` has returned. -/
  returned : Bool
  /-- The application data that has been encrypted, each with the peer it is for. -/
  sent : List (TlsPeer × Bytes)

/-- What OpenSSL makes of the handshake, if it is not complete yet. -/
abbrev Handshake := Except TlsError TlsPeer

namespace TlsConnection

/-- Before the handshake. -/
def initial : TlsConnection where
  isOpen := true
  peer := none
  references := ⟨[], []⟩
  attempted := false
  returned := false
  sent := []

/-- {lit}`super().do_handshake`.  A complete handshake is not done again. -/
def superDoHandshake (handshake : Handshake) : Effect TlsError TlsConnection TlsPeer := do
  let s ← get
  if !s.isOpen then throw .other
  else
    match s.peer with
    | some peer => return peer
    | none => do
        let peer ← Effect.ofExcept handshake
        modify fun s => { s with peer := some peer }
        return peer

/-- {lit}`close`. -/
def close (s : TlsConnection) : TlsConnection :=
  { s with isOpen := false }

section Steps

variable (runtime : TlsRuntime)

/-- {lit}`_VerifiedObject.do_handshake`. -/
def objectDoHandshake (handshake : Handshake) : Effect TlsError TlsConnection Unit := do
  let peer ← superDoHandshake handshake
  Effect.zoom references (fun s references => { s with references := references })
    (checkVerifiedKeys runtime peer)

/-- The {lit}`except` clauses of {lit}`_VerifiedSocket.do_handshake`. -/
def handshakeFails (e : TlsError) : Effect TlsError TlsConnection Unit :=
  if e = .wantRead ∨ e = .wantWrite then throw e
  else do
    modify close
    throw e

/-- {lit}`_VerifiedSocket.do_handshake`. -/
def socketDoHandshake (handshake : Handshake) : Effect TlsError TlsConnection Unit :=
  tryCatch (objectDoHandshake runtime handshake) handshakeFails

/-- What a client can do with a connection. -/
inductive Call where
  | doHandshake (handshake : Handshake)
  /-- A write, with what OpenSSL makes of the handshake if it has to complete it first. -/
  | write (data : Bytes) (handshake : Handshake)
  | close

/-- A handshake that did not end with a request for a retry. -/
def settled : Except TlsError Unit → Bool
  | .error e => e ≠ .wantRead && e ≠ .wantWrite
  | .ok _ => true

/-- The steps of a client, with the given {lit}`do_handshake`. -/
def step (doHandshake : Handshake → Effect TlsError TlsConnection Unit) (s : TlsConnection) :
    Call → Option TlsConnection
  | .doHandshake handshake =>
      let result := (doHandshake handshake).run s
      some { result.2 with
        attempted := result.2.attempted || settled result.1
        returned := result.2.returned || result.1.isOk }
  | .write data handshake =>
      match ((superDoHandshake handshake).run s) with
      | (.ok peer, s) => some { s with sent := s.sent ++ [(peer, data)] }
      | (.error _, s) => some s
  | .close => some s.close

/-- A client of a {lit}`_VerifiedSocket`. -/
def socket : Machine TlsConnection Call where
  init := initial
  step := step (socketDoHandshake runtime)

/-- A client of a {lit}`_VerifiedObject`. -/
def object : Machine TlsConnection Call where
  init := initial
  step := step (objectDoHandshake runtime)

end Steps

/-- The client writes only after a handshake that did not ask for a retry. -/
def WritesAfterAttempt (s : TlsConnection) : Call → Prop
  | .write _ _ => s.attempted = true
  | _ => True

instance (s : TlsConnection) (l : Call) : Decidable (s.WritesAfterAttempt l) :=
  match l with
  | .write _ _ => inferInstanceAs (Decidable (s.attempted = true))
  | .doHandshake _ | .close => inferInstanceAs (Decidable True)

/-- The client writes only after a handshake that has returned. -/
def WritesAfterReturn (s : TlsConnection) : Call → Prop
  | .write _ _ => s.returned = true
  | _ => True

variable {runtime : TlsRuntime}

/-- What {lit}`super().do_handshake` can do. -/
theorem superDoHandshake_cases (handshake : Handshake) (s : TlsConnection) :
    (∃ e, (superDoHandshake handshake).run s = (.error e, s)) ∨
      s.isOpen = true ∧ ∃ peer, (∀ before, s.peer = some before → before = peer) ∧
        (superDoHandshake handshake).run s = (.ok peer, { s with peer := some peer }) := by
  by_cases hopen : s.isOpen = true
  · cases hpeer : s.peer with
    | some peer =>
        refine Or.inr ⟨hopen, peer, by simp, ?_⟩
        have hsame : { s with peer := some peer } = s := by rw [← hpeer]
        rw [hsame]
        simp [superDoHandshake, hopen, hpeer]
    | none =>
        cases handshake with
        | error e => exact Or.inl ⟨e, by simp [superDoHandshake, hopen, hpeer]⟩
        | ok peer =>
            refine Or.inr ⟨hopen, peer, by simp, ?_⟩
            simp [superDoHandshake, hopen, hpeer]
  · exact Or.inl ⟨.other, by simp [superDoHandshake, hopen]⟩

/-- What the handshake of an object can do. -/
theorem objectDoHandshake_cases {r : TlsRuntime} (handshake : Handshake) (s : TlsConnection) :
    (∃ e, (objectDoHandshake r handshake).run s = (.error e, s)) ∨
      s.isOpen = true ∧ ∃ peer, (∀ before, s.peer = some before → before = peer) ∧
        ∃ outcome references, (outcome = .ok () → AcceptedPeer r peer) ∧
          (objectDoHandshake r handshake).run s =
            (outcome, { s with peer := some peer, references := references }) := by
  rcases superDoHandshake_cases handshake s with ⟨e, hsuper⟩ | ⟨hopen, peer, hsame, hsuper⟩
  · exact Or.inl ⟨e, by simp [objectDoHandshake, hsuper]⟩
  · refine Or.inr ⟨hopen, peer, hsame, ((checkVerifiedKeys r peer).run s.references).1,
      ((checkVerifiedKeys r peer).run s.references).2, acceptedPeer_of_check, ?_⟩
    simp [objectDoHandshake, hsuper]

/-- What the handshake of a socket can do: unless it returns or asks for a retry, the socket is
closed. -/
theorem socketDoHandshake_cases (handshake : Handshake) (s : TlsConnection) :
    ∃ outcome peer references isOpen,
      (socketDoHandshake runtime handshake).run s =
        (outcome, { s with peer := peer, references := references, isOpen := isOpen }) ∧
      (∀ before, s.peer = some before → peer = some before) ∧
      (isOpen = true → s.isOpen = true ∧ (settled outcome = true →
        ∃ after, peer = some after ∧ AcceptedPeer runtime after)) := by
  unfold socketDoHandshake
  rw [Effect.run_tryCatch]
  have hfails : ∀ (e : TlsError) (t : TlsConnection),
      (∃ isOpen, (handshakeFails e).run t = (.error e, { t with isOpen := isOpen }) ∧
        (isOpen = true → t.isOpen = true ∧ settled (.error e) = false)) := by
    intro e t
    by_cases hretry : e = .wantRead ∨ e = .wantWrite
    · refine ⟨t.isOpen, by simp [handshakeFails, hretry], ?_⟩
      intro hopen
      rcases hretry with rfl | rfl <;> exact ⟨hopen, rfl⟩
    · exact ⟨false, by simp [handshakeFails, hretry, close], by simp⟩
  rcases objectDoHandshake_cases (r := runtime) handshake s with
    ⟨e, hobject⟩ | ⟨hopen, peer, hsame, outcome, references, haccepted, hobject⟩
  · rcases hfails e s with ⟨isOpen, hrun, hclosed⟩
    rw [hobject]
    refine ⟨.error e, s.peer, s.references, isOpen, hrun, fun _ hbefore => hbefore, ?_⟩
    intro hyes
    exact ⟨(hclosed hyes).1, fun hsettled => by simp [(hclosed hyes).2] at hsettled⟩
  · rw [hobject]
    cases outcome with
    | error e =>
        rcases hfails e { s with peer := some peer, references := references } with
          ⟨isOpen, hrun, hclosed⟩
        refine ⟨.error e, some peer, references, isOpen, hrun, ?_, ?_⟩
        · intro before hbefore
          rw [hsame before hbefore]
        · intro hyes
          exact ⟨(hclosed hyes).1, fun hsettled => by simp [(hclosed hyes).2] at hsettled⟩
    | ok _ =>
        refine ⟨.ok (), some peer, references, s.isOpen, rfl, ?_, ?_⟩
        · intro before hbefore
          rw [hsame before hbefore]
        · exact fun hyes => ⟨hyes, fun _ => ⟨peer, rfl, haccepted rfl⟩⟩

/-- What a client of a socket relies on. -/
structure SocketSafe (runtime : TlsRuntime) (s : TlsConnection) : Prop where
  attempted : s.attempted = true → s.isOpen = true →
    ∃ peer, s.peer = some peer ∧ AcceptedPeer runtime peer
  sent : ∀ data ∈ s.sent, AcceptedPeer runtime data.1

/-- What a client of an object relies on. -/
structure ObjectSafe (runtime : TlsRuntime) (s : TlsConnection) : Prop where
  returned : s.returned = true → ∃ peer, s.peer = some peer ∧ AcceptedPeer runtime peer
  sent : ∀ data ∈ s.sent, AcceptedPeer runtime data.1

/-- Writing sends data to the peer of a complete handshake, if the connection is open. -/
theorem write_cases {d : Handshake → Effect TlsError TlsConnection Unit}
    {s s' : TlsConnection} {data : Bytes} {handshake : Handshake}
    (hstep : step d s (.write data handshake) = some s') :
    s' = s ∨ s.isOpen = true ∧ ∃ peer, (∀ before, s.peer = some before → before = peer) ∧
      s' = { s with peer := some peer, sent := s.sent ++ [(peer, data)] } := by
  rcases superDoHandshake_cases handshake s with ⟨e, hsuper⟩ | ⟨hopen, peer, hsame, hsuper⟩
  · simp only [step, hsuper, Option.some.injEq] at hstep
    exact Or.inl hstep.symm
  · simp only [step, hsuper, Option.some.injEq] at hstep
    exact Or.inr ⟨hopen, peer, hsame, hstep.symm⟩

theorem SocketSafe.step {s s' : TlsConnection} {l : Call} (h : s.SocketSafe runtime)
    (hguard : s.WritesAfterAttempt l)
    (hstep : (socket runtime).step s l = some s') : s'.SocketSafe runtime := by
  cases l with
  | doHandshake handshake =>
      rcases @socketDoHandshake_cases runtime handshake s with
        ⟨outcome, peer, references, isOpen, hrun, hkept, haccepted⟩
      change some _ = _ at hstep
      rw [hrun] at hstep
      cases hstep
      refine ⟨?_, h.sent⟩
      intro hattempted hopen
      rcases haccepted hopen with ⟨hbefore, hsettles⟩
      rcases Bool.or_eq_true_iff.mp hattempted with hearlier | hsettled
      · rcases h.attempted hearlier hbefore with ⟨before, hpeer, haccept⟩
        exact ⟨before, hkept before hpeer, haccept⟩
      · exact hsettles hsettled
  | write data handshake =>
      rcases write_cases (d := socketDoHandshake runtime) hstep with rfl | ⟨hopen, peer, hsame, rfl⟩
      · exact h
      · rcases h.attempted hguard hopen with ⟨before, hpeer, haccept⟩
        rw [hsame before hpeer] at haccept
        refine ⟨fun _ _ => ⟨peer, rfl, haccept⟩, ?_⟩
        intro sent hsent
        rcases List.mem_append.mp hsent with hearlier | hnew
        · exact h.sent sent hearlier
        · rw [List.mem_singleton.mp hnew]
          exact haccept
  | close =>
      cases hstep
      exact ⟨by simp [close], h.sent⟩

theorem ObjectSafe.step {s s' : TlsConnection} {l : Call} (h : s.ObjectSafe runtime)
    (hguard : s.WritesAfterReturn l)
    (hstep : (object runtime).step s l = some s') : s'.ObjectSafe runtime := by
  cases l with
  | doHandshake handshake =>
      change some _ = _ at hstep
      rcases objectDoHandshake_cases (r := runtime) handshake s with
        ⟨e, hrun⟩ | ⟨_, peer, hsame, outcome, references, haccepted, hrun⟩
      · rw [hrun] at hstep
        cases hstep
        refine ⟨?_, h.sent⟩
        intro hreturned
        exact h.returned (by simpa [Except.isOk, Except.toBool] using hreturned)
      · rw [hrun] at hstep
        cases hstep
        refine ⟨?_, h.sent⟩
        intro hreturned
        rcases Bool.or_eq_true_iff.mp hreturned with hearlier | hok
        · rcases h.returned hearlier with ⟨before, hpeer, haccept⟩
          exact ⟨peer, rfl, hsame before hpeer ▸ haccept⟩
        · cases outcome with
          | error e => cases hok
          | ok _ => exact ⟨peer, rfl, haccepted rfl⟩
  | write data handshake =>
      rcases write_cases (d := objectDoHandshake runtime) hstep with rfl | ⟨_, peer, hsame, rfl⟩
      · exact h
      · rcases h.returned hguard with ⟨before, hpeer, haccept⟩
        rw [hsame before hpeer] at haccept
        refine ⟨fun _ => ⟨peer, rfl, haccept⟩, ?_⟩
        intro sent hsent
        rcases List.mem_append.mp hsent with hearlier | hnew
        · exact h.sent sent hearlier
        · rw [List.mem_singleton.mp hnew]
          exact haccept
  | close =>
      cases hstep
      exact ⟨h.returned, h.sent⟩

/-- An object does not stop a client that goes on after an error: what is enough for a socket lets
data go to a peer whose keys have just been refused. -/
theorem object_stays_open {peer : TlsPeer} {e : TlsError} (data : Bytes)
    (hfails : ((checkVerifiedKeys runtime peer).run ⟨[], []⟩).1 = .error e)
    (hsettled : settled (.error e) = true) :
    ∃ s, (object runtime).GuardedRun WritesAfterAttempt
        [.doHandshake (.ok peer), .write data (.ok peer)] s ∧ (peer, data) ∈ s.sent := by
  let s₁ : TlsConnection :=
    { initial with
      peer := some peer
      references := ((checkVerifiedKeys runtime peer).run ⟨[], []⟩).2
      attempted := true }
  have hfirst : (object runtime).step initial (.doHandshake (.ok peer)) = some s₁ := by
    simp [object, step, objectDoHandshake, superDoHandshake, initial, hfails, hsettled, s₁,
      Except.isOk, Except.toBool]
  have hsecond : (object runtime).step s₁ (.write data (.ok peer)) =
      some { s₁ with sent := [(peer, data)] } := by
    simp [object, step, superDoHandshake, initial, s₁]
  refine ⟨{ s₁ with sent := [(peer, data)] }, ?_, List.mem_singleton_self _⟩
  exact (Machine.GuardedRun.nil.snoc trivial hfirst).snoc rfl hsecond

end TlsConnection

/-! ## Contexts -/

/-- A cipher of a context. -/
structure Cipher where
  name : PyStr
  tls13 : Bool

/-- The settings of an {lit}`SSLContext` that the policy reads and writes. -/
structure TlsContext where
  /-- {lit}`verify_mode == CERT_REQUIRED`. -/
  certRequired : Bool
  checkHostname : Bool
  minimumVersion : Int
  securityLevel : Nat
  ciphers : List Cipher
  /-- {lit}`sslsocket_class` and {lit}`sslobject_class` are the classes of the policy. -/
  verifiedClasses : Bool

/-- {lit}`ssl.TLSVersion.TLSv1_2`. -/
def tlsv12 : Int := 771

/-- What OpenSSL does with a context: {lit}`set_ciphers` with some names and
{lit}`@SECLEVEL=2`, and the files of {lit}`mqtt_context`. -/
structure OpenSsl where
  setCiphers : List PyStr → TlsContext → Except TlsError TlsContext
  loadCertChain : PyStr → Option PyStr → Except TlsError Unit
  loadVerifyLocations : PyStr → Except TlsError Unit
  loadDefaultCerts : Except TlsError Unit

/-- Setting ciphers with a security level changes these two. -/
def OpenSsl.SetsLevel (openSsl : OpenSsl) : Prop :=
  ∀ names context context', openSsl.setCiphers names context = .ok context' →
    context' = { context with securityLevel := 2, ciphers := context'.ciphers }

/-- {lit}`enforce_peer_key_policy`. -/
def enforcePeerKeyPolicy (openSsl : OpenSsl) (context : TlsContext) :
    Except TlsError TlsContext := do
  if !context.certRequired || !context.checkHostname then
    throw (.valueError "TLS context must verify certificates and hostnames")
  let context := { context with minimumVersion := max context.minimumVersion tlsv12 }
  let context ←
    if context.securityLevel < 2 then
      openSsl.setCiphers ((context.ciphers.filter fun cipher => !cipher.tls13).map Cipher.name)
        context
    else pure context
  return { context with verifiedClasses := true }

/-- The files that {lit}`mqtt_context` loads. -/
def loadFiles (openSsl : OpenSsl) (caCerts certfile keyfile : Option PyStr) :
    Except TlsError Unit := do
  match certfile with
  | some certfile => openSsl.loadCertChain certfile keyfile
  | none => pure ()
  match caCerts with
  | some caCerts => openSsl.loadVerifyLocations caCerts
  | none => openSsl.loadDefaultCerts

/-- {lit}`mqtt_context`, from a fresh {lit}`SSLContext(PROTOCOL_TLS_CLIENT)`. -/
def mqttContext (openSsl : OpenSsl) (fresh : TlsContext) (caCerts certfile keyfile : Option PyStr) :
    Except TlsError TlsContext := do
  loadFiles openSsl caCerts certfile keyfile
  enforcePeerKeyPolicy openSsl fresh

/-- A context that checks keys and is at least as strict as another one. -/
structure TlsContext.Stricter (context context' : TlsContext) : Prop where
  certRequired : context'.certRequired = true
  checkHostname : context'.checkHostname = true
  minimumVersion : max context.minimumVersion tlsv12 ≤ context'.minimumVersion
  securityLevel : max context.securityLevel 2 ≤ context'.securityLevel
  verifiedClasses : context'.verifiedClasses = true

/-- The policy makes a context stricter, or refuses it. -/
theorem enforcePeerKeyPolicy_ok {openSsl : OpenSsl} (hsets : openSsl.SetsLevel)
    {context context' : TlsContext}
    (h : enforcePeerKeyPolicy openSsl context = .ok context') : context.Stricter context' := by
  rcases context with ⟨certRequired, checkHostname, version, level, ciphers, classes⟩
  by_cases hverifies : certRequired = true ∧ checkHostname = true
  · rcases hverifies with ⟨rfl, rfl⟩
    by_cases hlevel : level < 2
    · simp only [enforcePeerKeyPolicy, hlevel, Bool.not_true, Bool.or_self, Bool.false_eq_true,
        if_false, if_true, pure_bind] at h
      rcases hset : openSsl.setCiphers
          ((ciphers.filter fun cipher => !cipher.tls13).map Cipher.name)
          ⟨true, true, max version tlsv12, level, ciphers, classes⟩ with e | after
      · rw [hset] at h
        cases h
      · rw [hset] at h
        cases h
        rw [hsets _ _ _ hset]
        exact ⟨rfl, rfl, Int.le_refl _, by simp; omega, rfl⟩
    · simp only [enforcePeerKeyPolicy, hlevel, Bool.not_true, Bool.or_self, Bool.false_eq_true,
        if_false, pure_bind] at h
      cases h
      exact ⟨rfl, rfl, Int.le_refl _, by simp; omega, rfl⟩
  · have hrefused : (!certRequired || !checkHostname) = true := by
      cases certRequired <;> simp_all
    simp only [enforcePeerKeyPolicy, hrefused, if_true] at h
    cases h

/-- The context of the MQTT client is stricter than the fresh one, if its files can be read. -/
theorem mqttContext_ok {openSsl : OpenSsl} (hsets : openSsl.SetsLevel)
    {fresh context : TlsContext} {caCerts certfile keyfile : Option PyStr}
    (h : mqttContext openSsl fresh caCerts certfile keyfile = .ok context) :
    fresh.Stricter context := by
  unfold mqttContext at h
  cases hfiles : loadFiles openSsl caCerts certfile keyfile with
  | error e =>
      rw [hfiles] at h
      cases h
  | ok _ =>
      rw [hfiles] at h
      exact enforcePeerKeyPolicy_ok hsets h

end MqttGateway
