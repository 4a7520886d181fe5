import MqttGateway.Core.Config
import MqttGateway.Library.Hex
import MqttGateway.Library.Template

/-!
# Stored passwords

The functions of {lit}`core/passwords.py`.  {lit}`hashlib.pbkdf2_hmac` over SHA-256 is a
parameter: a function from a password, a salt and a number of iterations to thirty-two
bytes.  The salt that {lit}`secrets.token_bytes` draws is an argument.

Main results:

- Theorem {lit}`fullmatch_passwordPattern_iff`: the pattern matches one spelling of each pair of
  a salt and a digest.
- Theorem {lit}`password_verifier_exact`: a verifier opens the login for a password exactly when
  it is one that the password can be encoded to.
-/

namespace MqttGateway

open Toolkit

/-- Byte strings of one length. -/
abbrev FixedBytes (n : Nat) := {bytes : Bytes // bytes.length = n}

/-- The white space that {lit}`bytes.fromhex` leaves out. -/
def isAsciiSpace (c : Utf8.CodePoint) : Bool :=
  (0x09 ≤ c.val && c.val ≤ 0x0D) || c.val = 0x20

/-- {lit}`bytes.fromhex(text)`; its message also names the position. -/
def Bytes.fromHex (text : PyStr) : Except PyException Bytes :=
  match Hex.decode isAsciiSpace text with
  | some bytes => .ok bytes
  | none => .error (.valueError "non-hexadecimal number found in fromhex() arg")

/-- {lit}`str(n)`. -/
def PyStr.ofNat (n : Nat) : PyStr :=
  PyStr.lit (Nat.toDigits 10 n)

/-- {lit}`ITERATIONS`. -/
def iterations : Nat := 600000

/-- {lit}`_PATTERN`. -/
def passwordPattern : Template Utf8.CodePoint :=
  [.literal (PyStr.lit ['p', 'b', 'k', 'd', 'f', '2', '_', 's', 'h', 'a', '2', '5', '6', '$',
      '6', '0', '0', '0', '0', '0', '$']),
    .group Hex.isLowerDigit 32, .literal [dollar], .group Hex.isLowerDigit 64]

/-- {lit}`validate_password_hash`. -/
def validatePasswordHash (value : PyStr) : Except PyException PyStr :=
  match passwordPattern.fullmatch value with
  | none =>
      .error (.valueError
        "Configure a PBKDF2 API_PASSWORD_HASH using the password-hash command")
  | some _ => .ok value

section

variable (pbkdf2Hmac : Bytes → Bytes → Nat → FixedBytes 32)

/-- {lit}`hash_password`, with the salt that is drawn. -/
def hashPassword (salt : FixedBytes 16) (password : PyStr) : Except PyException PyStr := do
  if ¬(16 ≤ password.length ∧ password.length ≤ 1024) then
    throw (.valueError "Password length must be between 16 and 1024 characters")
  let digest := pbkdf2Hmac (← PyStr.encode password) salt iterations
  return PyStr.lit ['p', 'b', 'k', 'd', 'f', '2', '_', 's', 'h', 'a', '2', '5', '6', '$'] ++
    PyStr.ofNat iterations ++ [dollar] ++ Hex.encode salt ++ [dollar] ++ Hex.encode digest

/-- {lit}`verify_password`. -/
def verifyPassword (password encoded : PyStr) : Except PyException Bool :=
  match passwordPattern.fullmatch encoded with
  | none => .ok false
  | some groups =>
      if ¬(1 ≤ password.length ∧ password.length ≤ 1024) then .ok false
      else
        match groups with
        | [saltHex, expectedHex] => do
            let actual :=
              pbkdf2Hmac (← PyStr.encode password) (← Bytes.fromHex saltHex) iterations
            return actual.val = (← Bytes.fromHex expectedHex)
        | _ => .error (.valueError "wrong number of values to unpack")

end

/-! ## The pattern -/

/-- The verifier of a salt and a digest. -/
def verifierText (salt digest : Bytes) : PyStr :=
  PyStr.lit ['p', 'b', 'k', 'd', 'f', '2', '_', 's', 'h', 'a', '2', '5', '6', '$',
      '6', '0', '0', '0', '0', '0', '$'] ++
    (Hex.encode salt ++ ([dollar] ++ Hex.encode digest))

theorem fromHex_encode (bytes : Bytes) : Bytes.fromHex (Hex.encode bytes) = .ok bytes := by
  have hblank : ∀ c, Hex.isLowerDigit c = true → isAsciiSpace c = false := by
    intro c hc
    simp only [Hex.isLowerDigit, Bool.or_eq_true, Bool.and_eq_true, decide_eq_true_eq] at hc
    simp only [isAsciiSpace, Bool.or_eq_false_iff, Bool.and_eq_false_iff, decide_eq_false_iff_not]
    omega
  rw [Bytes.fromHex, Hex.decode_encode hblank]

/-- The pattern matches one spelling of each pair of a salt and a digest. -/
theorem fullmatch_passwordPattern_iff {encoded : PyStr} {groups : List PyStr} :
    passwordPattern.fullmatch encoded = some groups ↔
      ∃ salt : FixedBytes 16, ∃ digest : FixedBytes 32,
        groups = [Hex.encode salt, Hex.encode digest] ∧ encoded = verifierText salt digest := by
  rw [Template.fullmatch_eq_some_iff]
  constructor
  · intro h
    rcases h with _ | ⟨_, _ | _ | ⟨hsalt, hsaltDigits, _ | ⟨_, _ | _ | ⟨hdigest, hdigits, hend⟩⟩⟩⟩
    cases hend
    rcases Hex.exists_encode_eq (n := 16) hsalt hsaltDigits with ⟨salt, hlength, rfl⟩
    rcases Hex.exists_encode_eq (n := 32) hdigest hdigits with ⟨digest, hlength', rfl⟩
    exact ⟨⟨salt, hlength⟩, ⟨digest, hlength'⟩, rfl, by rw [List.append_nil]; rfl⟩
  · rintro ⟨salt, digest, rfl, rfl⟩
    have hsalt : (Hex.encode salt.val).length = 32 := by
      rw [Hex.length_encode, salt.property]
    have hdigest : (Hex.encode digest.val).length = 64 := by
      rw [Hex.length_encode, digest.property]
    have hend := Template.Fills.group hdigest (fun _ => Hex.isLowerDigit_of_mem_encode)
      Template.Fills.nil
    rw [List.append_nil] at hend
    exact Template.Fills.literal _ (Template.Fills.group hsalt
      (fun _ => Hex.isLowerDigit_of_mem_encode) (Template.Fills.literal [dollar] hend))

theorem fullmatch_verifierText (salt : FixedBytes 16) (digest : FixedBytes 32) :
    passwordPattern.fullmatch (verifierText salt digest) =
      some [Hex.encode salt, Hex.encode digest] :=
  fullmatch_passwordPattern_iff.mpr ⟨salt, digest, rfl, rfl⟩

/-- A salt and a digest have one verifier, which no other pair has. -/
theorem verifierText_injective {s s' : FixedBytes 16} {d d' : FixedBytes 32}
    (h : verifierText s d = verifierText s' d') : s = s' ∧ d = d' := by
  have hgroups := fullmatch_verifierText s d
  rw [h, fullmatch_verifierText] at hgroups
  simp only [Option.some.injEq, List.cons.injEq, and_true] at hgroups
  exact ⟨Subtype.ext (Hex.encode_injective hgroups.1.symm),
    Subtype.ext (Hex.encode_injective hgroups.2.symm)⟩

theorem validatePasswordHash_cases (value : PyStr) :
    (∃ salt : FixedBytes 16, ∃ digest : FixedBytes 32,
        value = verifierText salt digest ∧ validatePasswordHash value = .ok value) ∨
      passwordPattern.fullmatch value = none ∧ ∃ e, validatePasswordHash value = .error e := by
  rw [validatePasswordHash]
  cases hmatch : passwordPattern.fullmatch value with
  | none => exact Or.inr ⟨rfl, _, rfl⟩
  | some groups =>
      rcases fullmatch_passwordPattern_iff.mp hmatch with ⟨salt, digest, _, hvalue⟩
      exact Or.inl ⟨salt, digest, hvalue, rfl⟩

/-! ## Hashing and verifying -/

section

variable {pbkdf2Hmac : Bytes → Bytes → Nat → FixedBytes 32} {password : PyStr} {bytes : Bytes}

theorem hashPassword_eq (hencode : PyStr.encode password = .ok bytes)
    (hlength : 16 ≤ password.length ∧ password.length ≤ 1024) (salt : FixedBytes 16) :
    hashPassword pbkdf2Hmac salt password =
      .ok (verifierText salt (pbkdf2Hmac bytes salt iterations)) := by
  have hprefix :
      PyStr.lit ['p', 'b', 'k', 'd', 'f', '2', '_', 's', 'h', 'a', '2', '5', '6', '$'] ++
          PyStr.ofNat iterations ++ [dollar] =
        PyStr.lit ['p', 'b', 'k', 'd', 'f', '2', '_', 's', 'h', 'a', '2', '5', '6', '$',
          '6', '0', '0', '0', '0', '0', '$'] := by
    decide +kernel
  rw [hashPassword, if_neg (not_not_intro hlength), hencode]
  simp only [verifierText, ← hprefix, List.append_assoc]
  rfl

/-- A verifier is checked against the digest of the password under its own salt. -/
theorem verifyPassword_verifierText (hencode : PyStr.encode password = .ok bytes)
    (hlength : 1 ≤ password.length ∧ password.length ≤ 1024) (salt : FixedBytes 16)
    (digest : FixedBytes 32) :
    verifyPassword pbkdf2Hmac password (verifierText salt digest) =
      .ok (pbkdf2Hmac bytes salt iterations = digest) := by
  rw [verifyPassword, fullmatch_verifierText]
  simp only [if_neg (not_not_intro hlength), hencode, fromHex_encode]
  have hsame : decide ((pbkdf2Hmac bytes salt iterations).val = digest.val) =
      decide (pbkdf2Hmac bytes salt iterations = digest) :=
    decide_eq_decide.mpr Subtype.ext_iff.symm
  rw [← hsame]
  rfl

/-- A verifier opens the login for a password exactly when the password can be encoded to it:
the verifiers that {lit}`hash_password` returns validate and verify, and what does not validate
verifies nothing. -/
theorem password_verifier_exact (pbkdf2Hmac : Bytes → Bytes → Nat → FixedBytes 32) :
    (∀ password bytes encoded, PyStr.encode password = .ok bytes →
        (verifyPassword pbkdf2Hmac password encoded = .ok true ↔
          (1 ≤ password.length ∧ password.length ≤ 1024) ∧
            ∃ salt : FixedBytes 16,
              encoded = verifierText salt (pbkdf2Hmac bytes salt iterations))) ∧
      (∀ password bytes, PyStr.encode password = .ok bytes →
        16 ≤ password.length ∧ password.length ≤ 1024 →
          ∀ salt, ∃ encoded, hashPassword pbkdf2Hmac salt password = .ok encoded ∧
            validatePasswordHash encoded = .ok encoded ∧
            verifyPassword pbkdf2Hmac password encoded = .ok true) ∧
      ∀ encoded e, validatePasswordHash encoded = .error e →
        ∀ password, verifyPassword pbkdf2Hmac password encoded = .ok false := by
  refine ⟨?_, ?_, ?_⟩
  · intro password bytes encoded hencode
    constructor
    · intro hverify
      rcases validatePasswordHash_cases encoded with ⟨salt, digest, rfl, _⟩ | ⟨hmatch, _⟩
      · by_cases hlength : 1 ≤ password.length ∧ password.length ≤ 1024
        · rw [verifyPassword_verifierText hencode hlength, Except.ok.injEq,
            decide_eq_true_iff] at hverify
          exact ⟨hlength, salt, by rw [hverify]⟩
        · rw [verifyPassword, fullmatch_verifierText] at hverify
          simp only [if_pos hlength] at hverify
          cases hverify
      · rw [verifyPassword, hmatch] at hverify
        cases hverify
    · rintro ⟨hlength, salt, rfl⟩
      rw [verifyPassword_verifierText hencode hlength, decide_eq_true rfl]
  · intro password bytes hencode hlength salt
    have hshort : 1 ≤ password.length ∧ password.length ≤ 1024 := ⟨by omega, hlength.2⟩
    refine ⟨_, hashPassword_eq hencode hlength salt, ?_, ?_⟩
    · rw [validatePasswordHash, fullmatch_verifierText]
    · rw [verifyPassword_verifierText hencode hshort, decide_eq_true rfl]
  · intro encoded e herror password
    rcases validatePasswordHash_cases encoded with ⟨salt, digest, _, hvalid⟩ | ⟨hmatch, _⟩
    · rw [hvalid] at herror
      cases herror
    · rw [verifyPassword, hmatch]

/-- A password and its verifier under the salt of the bytes from zero to fifteen, with the
digest that PBKDF2 gives there. -/
theorem password_verifier_exact_passphrase :
    let password := PyStr.lit
      ['a', ' ', 'l', 'o', 'n', 'g', ' ', 'p', 'a', 's', 's', 'p', 'h', 'r', 'a', 's', 'e']
    let digest : FixedBytes 32 := ⟨[
      26, 139, 168, 140, 43, 239, 147, 254, 40, 177, 172, 128, 181, 130, 179, 146, 18, 100, 162,
      45, 182, 233, 12, 38, 4, 67, 196, 53, 120, 140, 248, 253], rfl⟩
    verifyPassword (fun _ _ _ => digest) password (PyStr.lit [
      'p', 'b', 'k', 'd', 'f', '2', '_', 's', 'h', 'a', '2', '5', '6', '$', '6', '0', '0', '0',
      '0', '0', '$', '0', '0', '0', '1', '0', '2', '0', '3', '0', '4', '0', '5', '0', '6', '0',
      '7', '0', '8', '0', '9', '0', 'a', '0', 'b', '0', 'c', '0', 'd', '0', 'e', '0', 'f', '$',
      '1', 'a', '8', 'b', 'a', '8', '8', 'c', '2', 'b', 'e', 'f', '9', '3', 'f', 'e', '2', '8',
      'b', '1', 'a', 'c', '8', '0', 'b', '5', '8', '2', 'b', '3', '9', '2', '1', '2', '6', '4',
      'a', '2', '2', 'd', 'b', '6', 'e', '9', '0', 'c', '2', '6', '0', '4', '4', '3', 'c', '4',
      '3', '5', '7', '8', '8', 'c', 'f', '8', 'f', 'd']) = .ok true := by
  intro password digest
  have hencode : PyStr.encode password = .ok (password.map fun c => UInt8.ofNat c.val) := by
    decide +kernel
  refine ((password_verifier_exact fun _ _ _ => digest).1 password _ _ hencode).mpr
    ⟨by decide, ⟨(List.range 16).map UInt8.ofNat, rfl⟩, ?_⟩
  decide +kernel

end

end MqttGateway
