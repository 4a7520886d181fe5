import MqttGateway.Library.Scope
import MqttGateway.Python
import Mathlib.Data.Nat.Size

/-!
# Keys of certificates

Whether the public key of a certificate is large enough: {lit}`_certificate_key_ok`, which reads
the key with {lit}`cryptography`, and {lit}`certificate_key_meets_minimum` for Macs with an Intel
processor, which reads it with the Security framework and owns references to the
framework's objects in an {lit}`ExitStack`.

What the framework and {lit}`cryptography` answer is a parameter.

Main results:

- Theorem {lit}`certificate_key_paths_agree`: the native check leaks no reference and uses none
  that is released, whatever the framework answers; and it accepts of the keys that the
  other check accepts those it knows, RSA and elliptic curve keys, and no others.
-/

namespace MqttGateway

open Toolkit

/-- The exceptions of the TLS modules.  {lit}`other` stands for those that no {lit}`except`
clause names. -/
inductive TlsError where
  | sslError (message : String)
  | wantRead
  | wantWrite
  | osError (message : String)
  | valueError (message : String)
  | unsupportedAlgorithm
  | other
deriving DecidableEq

/-- The classes of public keys that {lit}`cryptography` has, with the sizes that are asked for. -/
inductive PublicKey where
  | rsa (n : Nat)
  | ellipticCurve (keySize : Nat)
  | dsa (p q : Nat)
  | ed25519
  | ed448
  | unnamed
deriving DecidableEq

/-- What {lit}`_certificate_key_ok` asks of a key. -/
def PublicKey.meetsMinimum : PublicKey → Bool
  | .rsa n => 2048 ≤ n.size
  | .ellipticCurve keySize => 224 ≤ keySize
  | .dsa p q => 2048 ≤ p.size && 224 ≤ q.size
  | .ed25519 | .ed448 => true
  | .unnamed => false

/-- A reference to an object of the framework. -/
abbrev Ref := Nat

/-- What the framework answers.  A null pointer is {lit}`none`. -/
structure Native where
  cfDataCreate : Bytes → Option Ref
  secCertificateCreateWithData : Ref → Option Ref
  secCertificateCopyKey : Ref → Option Ref
  secKeyCopyAttributes : Ref → Option Ref
  cfGetTypeID : Ref → Nat
  cfDictionaryGetTypeID : Nat
  cfStringGetTypeID : Nat
  cfNumberGetTypeID : Nat
  /-- The value is borrowed from the dictionary. -/
  cfDictionaryGetValue : Ref → Ref → Option Ref
  cfEqual : Ref → Ref → Bool
  /-- The exact value as a signed 64-bit integer, if there is one. -/
  cfNumberGetValue : Ref → Option Int
  keyType : Ref
  keyBits : Ref
  rsa : Ref
  ec : Ref

namespace Native

/-- {lit}`_Native.own`, on the result of the call that creates the reference. -/
def own (value : Option Ref) : Effect TlsError (Scope Ref) Ref :=
  Scope.own (.osError "Security framework could not read certificate key metadata") value

/-- {lit}`_Native.meets_minimum`. -/
def meetsMinimum (native : Native) (attributes : Ref) : Effect TlsError (Scope Ref) Bool := do
  Scope.record (.use attributes)
  if native.cfGetTypeID attributes ≠ native.cfDictionaryGetTypeID then
    throw (.osError "Security framework returned invalid key attributes")
  else do
    Scope.record (.use attributes)
    match native.cfDictionaryGetValue attributes native.keyType,
        native.cfDictionaryGetValue attributes native.keyBits with
    | some keyType, some keyBits =>
        if native.cfGetTypeID keyType ≠ native.cfStringGetTypeID ∨
            native.cfGetTypeID keyBits ≠ native.cfNumberGetTypeID then
          throw (.osError "Security framework returned invalid key attribute types")
        else
          match native.cfNumberGetValue keyBits with
          | some bits =>
              if bits ≤ 0 then throw (.osError "Security framework returned an invalid key size")
              else do
                Scope.record (.use attributes)
                if native.cfEqual keyType native.rsa then return decide (2048 ≤ bits)
                else if native.cfEqual keyType native.ec then return decide (224 ≤ bits)
                else return false
          | none => throw (.osError "Security framework returned an invalid key size")
    | _, _ => throw (.osError "Security framework returned incomplete key attributes")

/-- The {lit}`with` statement of {lit}`certificate_key_meets_minimum`. -/
def readKey (native : Native) (der : Bytes) : Effect TlsError (Scope Ref) Bool := do
  let data ← own (native.cfDataCreate der)
  Scope.record (.use data)
  let certificate ← Scope.own (.valueError "Certificate is not valid DER")
    (native.secCertificateCreateWithData data)
  Scope.record (.use certificate)
  let key ← own (native.secCertificateCopyKey certificate)
  Scope.record (.use key)
  let attributes ← own (native.secKeyCopyAttributes key)
  native.meetsMinimum attributes

end Native

/-- {lit}`certificate_key_meets_minimum`, with the result of {lit}`_native()`. -/
def certificateKeyMeetsMinimum (native : Except TlsError Native) (der : Bytes) :
    Effect TlsError (Scope Ref) Bool :=
  if der = [] then throw (.valueError "Certificate must be nonempty DER bytes")
  else do
    let native ← Effect.ofExcept native
    Scope.within (native.readKey der)

/-- What the check finds at run time. -/
structure KeyRuntime where
  /-- {lit}`sys.platform == "darwin" and platform.machine() == "x86_64"`. -/
  intelMac : Bool
  native : Except TlsError Native
  /-- {lit}`x509.load_der_x509_certificate(der).public_key()`, if it can be imported. -/
  publicKey : Option (Bytes → Except TlsError PublicKey)

/-- {lit}`_certificate_key_ok`. -/
def certificateKeyOk (runtime : KeyRuntime) (der : Bytes) : Effect TlsError (Scope Ref) Bool :=
  if runtime.intelMac then
    tryCatch (certificateKeyMeetsMinimum runtime.native der) fun
      | .osError _ | .valueError _ =>
          throw (.sslError "TLS certificate key could not be verified by macOS")
      | e => throw e
  else
    match runtime.publicKey with
    | none => throw (.sslError "Verified TLS requires the cryptography package")
    | some publicKey =>
        match publicKey der with
        | .ok key => return key.meetsMinimum
        | .error (.valueError _) | .error .unsupportedAlgorithm =>
            throw (.sslError "TLS certificate uses an unsupported public key")
        | .error e => throw e

/-! ## References -/

namespace Native

open Scope (Triple)

/-- Reading the attributes uses them and acquires nothing. -/
theorem triple_meetsMinimum (native : Native) (attributes : Ref) :
    Triple (fun owned => True ∧ attributes ∈ owned) (native.meetsMinimum attributes)
      (fun _ _ => True) := by
  unfold meetsMinimum
  apply Triple.bind (Triple.use attributes)
  intro _
  apply Triple.ite
  · intro _
    exact Triple.throw _
  · intro _
    apply Triple.bind (Triple.use attributes)
    intro _
    split
    · apply Triple.ite
      · intro _
        exact Triple.throw _
      · intro _
        split
        · apply Triple.ite
          · intro _
            exact Triple.throw _
          · intro _
            apply Triple.bind (Triple.use attributes)
            intro _
            split
            · exact Triple.pure fun _ _ => trivial
            · split
              · exact Triple.pure fun _ _ => trivial
              · exact Triple.pure fun _ _ => trivial
        · exact Triple.throw _
    · exact Triple.throw _

/-- Every reference is handed over to the scope and used while the scope owns it. -/
theorem triple_readKey (native : Native) (der : Bytes) :
    Triple (fun owned => owned = []) (native.readKey der) (fun _ _ => True) := by
  have hnewest : ∀ (r : Ref) (P : List Ref → Prop) (owned : List Ref),
      (∃ before, P before ∧ owned = r :: before) → True ∧ r ∈ owned := by
    rintro r P _ ⟨before, _, rfl⟩
    exact ⟨trivial, List.mem_cons_self⟩
  unfold readKey
  apply Triple.bind (Triple.own _ _)
  intro data
  apply Triple.bind ((Triple.use data).consequence fun owned h => hnewest data _ owned h.2)
  intro _
  apply Triple.bind (Triple.own _ _)
  intro certificate
  apply Triple.bind
    ((Triple.use certificate).consequence fun owned h => hnewest certificate _ owned h.2)
  intro _
  apply Triple.bind (Triple.own _ _)
  intro key
  apply Triple.bind ((Triple.use key).consequence fun owned h => hnewest key _ owned h.2)
  intro _
  apply Triple.bind (Triple.own _ _)
  intro attributes
  exact (native.triple_meetsMinimum attributes).consequence
    fun owned h => hnewest attributes _ owned h.2

end Native

/-! ## Both checks -/

/-- A key of a kind that the native check knows. -/
def PublicKey.native : PublicKey → Bool
  | .rsa _ | .ellipticCurve _ => true
  | .dsa _ _ | .ed25519 | .ed448 | .unnamed => false

/-- The framework reads the given key from a certificate: kind and size are those of the key. -/
structure Native.Reading (native : Native) (der : Bytes) (key : PublicKey) where
  data : Ref
  certificate : Ref
  keyRef : Ref
  attributes : Ref
  keyType : Ref
  keyBits : Ref
  bits : Int
  cfDataCreate : native.cfDataCreate der = some data
  createWithData : native.secCertificateCreateWithData data = some certificate
  copyKey : native.secCertificateCopyKey certificate = some keyRef
  copyAttributes : native.secKeyCopyAttributes keyRef = some attributes
  dictionary : native.cfGetTypeID attributes = native.cfDictionaryGetTypeID
  type : native.cfDictionaryGetValue attributes native.keyType = some keyType
  size : native.cfDictionaryGetValue attributes native.keyBits = some keyBits
  string : native.cfGetTypeID keyType = native.cfStringGetTypeID
  number : native.cfGetTypeID keyBits = native.cfNumberGetTypeID
  value : native.cfNumberGetValue keyBits = some bits
  positive : 0 < bits
  rsa : native.cfEqual keyType native.rsa = true ↔ ∃ n, key = .rsa n
  ec : native.cfEqual keyType native.ec = true ↔ ∃ keySize, key = .ellipticCurve keySize
  rsaSize : ∀ n, key = .rsa n → bits = n.size
  ecSize : ∀ keySize, key = .ellipticCurve keySize → bits = keySize

/-- What the native check makes of the key it reads. -/
theorem Native.Reading.meetsMinimum {native : Native} {der : Bytes} {key : PublicKey}
    (h : native.Reading der key) (s : Scope Ref) :
    ((native.meetsMinimum h.attributes).run s).1 = .ok (key.native && key.meetsMinimum) := by
  have hpositive : ¬h.bits ≤ 0 := Int.not_le.mpr h.positive
  have hvalue : ((native.meetsMinimum h.attributes).run s).1 =
      .ok (if native.cfEqual h.keyType native.rsa then decide (2048 ≤ h.bits)
        else if native.cfEqual h.keyType native.ec then decide (224 ≤ h.bits) else false) := by
    unfold Native.meetsMinimum
    by_cases hrsa : native.cfEqual h.keyType native.rsa = true
    · simp [Scope.record, h.dictionary, h.type, h.size, h.string, h.number, h.value, hpositive,
        hrsa]
    · by_cases hec : native.cfEqual h.keyType native.ec = true
      · simp [Scope.record, h.dictionary, h.type, h.size, h.string, h.number, h.value, hpositive,
          hrsa, hec]
      · simp [Scope.record, h.dictionary, h.type, h.size, h.string, h.number, h.value, hpositive,
          hrsa, hec]
  rw [hvalue]
  rcases h with ⟨_, _, _, _, keyType, _, bits, _, _, _, _, _, _, _, _, _, _, _, hrsa, hec,
    hrsaSize, hecSize⟩
  cases key with
  | rsa n =>
      have hbits := hrsaSize n rfl
      have hequal : native.cfEqual keyType native.rsa = true := hrsa.mpr ⟨n, rfl⟩
      have hiff : (2048 : Int) ≤ bits ↔ 2048 ≤ n.size := by omega
      simp [hequal, hiff, PublicKey.native, PublicKey.meetsMinimum]
  | ellipticCurve keySize =>
      have hbits := hecSize keySize rfl
      have hother : ¬native.cfEqual keyType native.rsa = true := by simp [hrsa]
      have hequal : native.cfEqual keyType native.ec = true := hec.mpr ⟨keySize, rfl⟩
      have hiff : (224 : Int) ≤ bits ↔ 224 ≤ keySize := by omega
      simp [hother, hequal, hiff, PublicKey.native, PublicKey.meetsMinimum]
  | dsa _ _ | ed25519 | ed448 | unnamed =>
      have hother : ¬native.cfEqual keyType native.rsa = true := by simp [hrsa]
      have hother' : ¬native.cfEqual keyType native.ec = true := by simp [hec]
      simp [hother, hother', PublicKey.native]

/-- The framework's references in a scope, whatever it answers. -/
theorem certificateKeyMeetsMinimum_live (native : Except TlsError Native) (der : Bytes)
    {s : Scope Ref} {live : List Ref} (hlive : liveAfter [] s.history = some live) :
    liveAfter [] ((certificateKeyMeetsMinimum native der).run s).2.history = some live := by
  unfold certificateKeyMeetsMinimum
  by_cases hder : der = []
  · simpa [hder] using hlive
  · rw [if_neg hder, Effect.run_bind]
    cases native with
    | error e => exact hlive
    | ok native => exact ((native.triple_readKey der).within hlive).1

theorem certificateKeyOk_live (runtime : KeyRuntime) (der : Bytes) {s : Scope Ref}
    {live : List Ref} (hlive : liveAfter [] s.history = some live) :
    liveAfter [] ((certificateKeyOk runtime der).run s).2.history = some live := by
  unfold certificateKeyOk
  by_cases hintel : runtime.intelMac = true
  · have hbody := certificateKeyMeetsMinimum_live runtime.native der hlive
    rw [if_pos hintel, Effect.run_tryCatch]
    generalize (certificateKeyMeetsMinimum runtime.native der).run s = result at hbody
    rcases result with ⟨e | ok, s'⟩
    · cases e <;> exact hbody
    · exact hbody
  · rw [if_neg hintel]
    split
    · exact hlive
    · split <;> exact hlive

/-- Whatever the framework answers, and however the check ends, the references it has acquired
are released, each once, and none is used after that.  If both libraries read the same key
from a certificate, a Mac with an Intel processor accepts it exactly if it is an RSA or
elliptic curve key that is accepted elsewhere. -/
theorem certificate_key_paths_agree (native : Except TlsError Native)
    (publicKey : Option (Bytes → Except TlsError PublicKey)) (der : Bytes) (s : Scope Ref)
    (live : List Ref) (hlive : liveAfter [] s.history = some live) :
    (∀ intelMac, liveAfter []
      ((certificateKeyOk ⟨intelMac, native, publicKey⟩ der).run s).2.history = some live) ∧
    ∀ framework key load, native = .ok framework → publicKey = some load → der ≠ [] →
      load der = .ok key → framework.Reading der key →
        ((certificateKeyOk ⟨false, native, publicKey⟩ der).run s).1 = .ok key.meetsMinimum ∧
        ((certificateKeyOk ⟨true, native, publicKey⟩ der).run s).1 =
          .ok (key.native && key.meetsMinimum) := by
  refine ⟨fun intelMac => certificateKeyOk_live _ der hlive, ?_⟩
  rintro framework key load rfl rfl hder hload hreading
  refine ⟨by simp [certificateKeyOk, hload], ?_⟩
  have hread : ∀ t : Scope Ref,
      ((framework.readKey der).run t).1 = .ok (key.native && key.meetsMinimum) := by
    intro t
    simp only [Native.readKey, Native.own, Scope.own, Scope.record, hreading.cfDataCreate,
      hreading.createWithData, hreading.copyKey, hreading.copyAttributes, Effect.run_bind,
      Effect.run_modify, Effect.run_pure]
    exact hreading.meetsMinimum _
  have hbody : ((certificateKeyMeetsMinimum (.ok framework) der).run s).1 =
      .ok (key.native && key.meetsMinimum) := by
    rw [certificateKeyMeetsMinimum, if_neg hder]
    change ((Scope.within (framework.readKey der)).run s).1 = _
    rw [((framework.triple_readKey der).within hlive).2.2]
    exact hread _
  rw [certificateKeyOk, if_pos rfl, Effect.run_tryCatch]
  generalize (certificateKeyMeetsMinimum (.ok framework) der).run s = result at hbody
  rcases result with ⟨outcome, s'⟩
  cases hbody
  rfl

/-- A framework that reads an elliptic curve key of 256 bits from every certificate. -/
def Native.sample : Native where
  cfDataCreate _ := some 1
  secCertificateCreateWithData _ := some 2
  secCertificateCopyKey _ := some 3
  secKeyCopyAttributes _ := some 4
  cfGetTypeID r := if r = 4 then 0 else if r = 8 then 1 else 2
  cfDictionaryGetTypeID := 0
  cfStringGetTypeID := 1
  cfNumberGetTypeID := 2
  cfDictionaryGetValue _ r := if r = 5 then some 8 else some 9
  cfEqual r r' := r == r'
  cfNumberGetValue _ := some 256
  keyType := 5
  keyBits := 6
  rsa := 7
  ec := 8

/-- What it reads. -/
def Native.sampleReading (der : Bytes) : Native.sample.Reading der (.ellipticCurve 256) where
  data := 1
  certificate := 2
  keyRef := 3
  attributes := 4
  keyType := 8
  keyBits := 9
  bits := 256
  cfDataCreate := rfl
  createWithData := rfl
  copyKey := rfl
  copyAttributes := rfl
  dictionary := rfl
  type := rfl
  size := rfl
  string := rfl
  number := rfl
  value := rfl
  positive := by decide
  rsa := by simp [Native.sample]
  ec := by simp [Native.sample]
  rsaSize := by simp
  ecSize := by simp

theorem certificate_key_paths_agree_p256 :
    ((certificateKeyOk ⟨true, .ok Native.sample, some fun _ => .ok (.ellipticCurve 256)⟩ [48]).run
        ⟨[], []⟩).1 = .ok true ∧
      liveAfter [] ((certificateKeyOk ⟨true, .ok Native.sample,
        some fun _ => .ok (.ellipticCurve 256)⟩ [48]).run ⟨[], []⟩).2.history = some [] := by
  rcases certificate_key_paths_agree (.ok Native.sample) (some fun _ => .ok (.ellipticCurve 256))
    [48] ⟨[], []⟩ [] rfl with ⟨hlive, hagree⟩
  refine ⟨?_, hlive true⟩
  rw [(hagree _ _ _ rfl rfl (by simp) rfl (Native.sampleReading [48])).2]
  rfl

end MqttGateway
