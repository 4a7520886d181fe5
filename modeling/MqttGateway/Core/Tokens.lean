import MqttGateway.Core.Auth
import MqttGateway.Core.Passwords
import MqttGateway.Library.Dict
import Mathlib.Data.Rat.Floor

/-!
# Logging in

{lit}`create_access_token`, {lit}`get_current_user` and {lit}`login`.  The JWT library is a
parameter: it signs a payload with a key, and gives the payload of a token back to whoever has
the key, until the token expires.

Main results:

- Theorem {lit}`login_eq_ok_iff`: a login succeeds for one user name and its passwords, and
  answers with a token of that user.
- Theorem {lit}`verify_of_login`: the token is accepted from then on for as many seconds as
  the answer says, counted from the whole second of the login.
-/

namespace MqttGateway

open Toolkit

/-- The settings of the login, beside those of the gateway's core. -/
structure ApiSettings extends Settings where
  apiPasswordHash : PyStr
  jwtSecretKey : PyStr
  jwtAccessTokenExpireMinutes : Nat := 30
  apiPasswordHash_valid : validatePasswordHash apiPasswordHash = .ok apiPasswordHash
  jwtSecretKey_length : 32 ≤ jwtSecretKey.length
  expireMinutes_range : 1 ≤ jwtAccessTokenExpireMinutes ∧ jwtAccessTokenExpireMinutes ≤ 1440

/-- {lit}`jwt_access_token_expire_minutes * 60`. -/
def ApiSettings.expiresIn (settings : ApiSettings) : Nat :=
  settings.jwtAccessTokenExpireMinutes * 60

/-- A value of a payload: plain JSON, or a time in seconds since the epoch. -/
inductive PayloadValue where
  | json (value : Json)
  | datetime (time : ℚ)

/-- {lit}`jwt.encode` and {lit}`jwt.decode`, for the one algorithm of the settings. -/
structure Jwt where
  encode : PyStr → Dict PyStr PayloadValue → PyStr
  /-- With the time of the call, and the claims {lit}`exp` and {lit}`sub` required. -/
  decode : PyStr → ℚ → PyStr → Except PyException Claims

/-- The payload of a user who logs in. -/
def loginPayload (username : PyStr) : Dict PyStr PayloadValue :=
  Dict.empty.set (PyStr.lit ['s', 'u', 'b']) (.json (.str username))

/-- {lit}`{**data, "exp": expire}`. -/
def withExpiry (data : Dict PyStr PayloadValue) (expire : ℚ) : Dict PyStr PayloadValue :=
  data.set (PyStr.lit ['e', 'x', 'p']) (.datetime expire)

/-- With a key it can sign with, the library keeps times as whole seconds, rounded down, and gives
a payload it has signed back as long as its {lit}`exp` is to come.  A user name that has no
UTF-8 form is left out: its surrogates may come back as another character. -/
def Jwt.Documented (jwt : Jwt) (key : PyStr) : Prop :=
  ∀ username bytes expire now, PyStr.encode username = .ok bytes →
    jwt.decode key now (jwt.encode key (withExpiry (loginPayload username) expire)) =
      if now < ⌊expire⌋ then .ok ⟨.str username, none, .ok ⌊expire⌋⟩ else .error .invalidTokenError

/-- {lit}`Token`; its {lit}`token_type` is always the same. -/
structure Token where
  accessToken : PyStr
  expiresIn : Nat
deriving DecidableEq

/-- {lit}`User`. -/
structure User where
  username : PyStr
  scopes : List PyStr
deriving DecidableEq

/-- The form of {lit}`login`. -/
structure LoginForm where
  username : PyStr
  password : PyStr
  username_length : 1 ≤ username.length ∧ username.length ≤ 256
  password_length : 1 ≤ password.length ∧ password.length ≤ 1024

section

variable (pbkdf2Hmac : Bytes → Bytes → Nat → FixedBytes 32) (jwt : Jwt) (settings : ApiSettings)
  (now : ℚ)

/-- {lit}`create_access_token`. -/
def createAccessToken (data : Dict PyStr PayloadValue) (expiresDelta : Option ℚ) : PyStr :=
  let expire :=
    match expiresDelta with
    | some delta => now + delta
    | none => now + settings.expiresIn
  jwt.encode settings.jwtSecretKey (withExpiry data expire)

/-- {lit}`login`. -/
def login (form : LoginForm) : Except PyException Token := do
  let usernameOk := decide ((← PyStr.encode form.username) = (← PyStr.encode settings.apiUsername))
  let passwordOk ← verifyPassword pbkdf2Hmac form.password settings.apiPasswordHash
  if !(usernameOk && passwordOk) then
    throw (.httpException 401 "Invalid credentials")
  let accessToken := createAccessToken jwt settings now (loginPayload form.username) none
  return { accessToken, expiresIn := settings.expiresIn }

/-- {lit}`verify_token` with the library and the key of the settings. -/
def verify (token : PyStr) : Except PyException (Option Claims) :=
  verifyToken settings.toSettings (jwt.decode settings.jwtSecretKey now) token

/-- The user of verified claims. -/
def Claims.user (claims : Claims) : User where
  username := claims.sub.text?.getD []
  scopes :=
    match claims.scopes.getD (.arr []) with
    | .arr items => items.filterMap Json.text?
    | _ => []

/-- {lit}`get_current_user`. -/
def getCurrentUser (credentials : Option PyStr) : Except PyException User := do
  match credentials with
  | none => throw (.httpException 401 "Not authenticated")
  | some token =>
      match ← verify jwt settings now token with
      | none => throw (.httpException 401 "Invalid token")
      | some payload => return payload.user

/-- {lit}`get_current_user_optional`. -/
def getCurrentUserOptional (credentials : Option PyStr) : Except PyException (Option User) := do
  match credentials with
  | none => return none
  | some token => return (← verify jwt settings now token).map Claims.user

end

variable {pbkdf2Hmac : Bytes → Bytes → Nat → FixedBytes 32} {jwt : Jwt} {settings : ApiSettings}
  {now : ℚ}

/-! ## The login -/

/-- A login succeeds for the configured user name, with a password its verifier is for. -/
theorem login_eq_ok_iff {form : LoginForm} {answer : Token} :
    login pbkdf2Hmac jwt settings now form = .ok answer ↔
      (form.username = settings.apiUsername ∧ ∃ bytes, PyStr.encode form.username = .ok bytes) ∧
        verifyPassword pbkdf2Hmac form.password settings.apiPasswordHash = .ok true ∧
        answer = ⟨createAccessToken jwt settings now (loginPayload form.username) none,
          settings.expiresIn⟩ := by
  unfold login
  cases hname : PyStr.encode form.username with
  | error e => simp [bind, Except.bind]
  | ok bytes =>
      cases hapi : PyStr.encode settings.apiUsername with
      | error e =>
          have hne : form.username ≠ settings.apiUsername := by
            intro heq
            rw [heq, hapi] at hname
            cases hname
          simp [bind, Except.bind, hne]
      | ok bytes' =>
          have hsame : bytes = bytes' ↔ form.username = settings.apiUsername := by
            constructor
            · rintro rfl
              exact PyStr.encode_injective hname hapi
            · intro heq
              rw [heq, hapi] at hname
              exact (Except.ok.inj hname).symm
          cases hpassword : verifyPassword pbkdf2Hmac form.password settings.apiPasswordHash with
          | error e => simp [bind, Except.bind]
          | ok passwordOk =>
              by_cases heq : bytes = bytes'
              · cases passwordOk <;>
                  simp [bind, Except.bind, pure, Except.pure, throw, throwThe,
                    MonadExceptOf.throw, hsame.mp heq, heq, eq_comm]
              · have hne := mt hsame.mpr heq
                simp [bind, Except.bind, throw, throwThe, MonadExceptOf.throw, heq, hne]

/-- Whole seconds later. -/
theorem floor_add_expiresIn (settings : ApiSettings) (now : ℚ) :
    ⌊now + settings.expiresIn⌋ = ⌊now⌋ + settings.expiresIn :=
  Int.floor_add_natCast now settings.expiresIn

/-- The claims of a token that a login at a time has answered with. -/
def loginClaims (settings : ApiSettings) (time : ℚ) : Claims where
  sub := .str settings.apiUsername
  scopes := none
  exp := .ok (⌊time⌋ + settings.expiresIn : ℤ)

/-- The token of a login is accepted for as many seconds as the answer says, counted from the
whole second of the login. -/
theorem verify_of_login (hjwt : jwt.Documented settings.jwtSecretKey) {time : ℚ}
    {form : LoginForm} {answer : Token}
    (hlogin : login pbkdf2Hmac jwt settings time form = .ok answer) (now : ℚ) :
    verify jwt settings now answer.accessToken =
      .ok (if now < (⌊time⌋ + answer.expiresIn : ℤ) then some (loginClaims settings time)
        else none) := by
  rcases login_eq_ok_iff.mp hlogin with ⟨⟨husername, bytes, hbytes⟩, _, rfl⟩
  have hdecode := hjwt form.username bytes (time + settings.expiresIn) now hbytes
  rw [floor_add_expiresIn, husername] at hdecode
  rw [verify, verifyToken, createAccessToken, husername, hdecode]
  by_cases hnow : now < (⌊time⌋ + settings.expiresIn : ℤ)
  · simp only [if_pos hnow]
    exact if_neg (not_not_intro rfl)
  · simp only [if_neg hnow]

/-- The user of the token is the one who has logged in, without scopes. -/
theorem getCurrentUser_of_login (hjwt : jwt.Documented settings.jwtSecretKey) {time : ℚ}
    {form : LoginForm} {answer : Token}
    (hlogin : login pbkdf2Hmac jwt settings time form = .ok answer) (now : ℚ) :
    getCurrentUser jwt settings now (some answer.accessToken) =
      if now < (⌊time⌋ + answer.expiresIn : ℤ) then .ok ⟨settings.apiUsername, []⟩
      else .error (.httpException 401 "Invalid token") := by
  simp only [getCurrentUser, verify_of_login hjwt hlogin]
  by_cases hnow : now < (⌊time⌋ + answer.expiresIn : ℤ)
  · rw [if_pos hnow, if_pos hnow]
    rfl
  · rw [if_neg hnow, if_neg hnow]
    rfl

/-- A user of the interface has presented a token that is accepted. -/
theorem verify_of_getCurrentUser {credentials : Option PyStr} {user : User}
    (h : getCurrentUser jwt settings now credentials = .ok user) :
    ∃ token claims, credentials = some token ∧ verify jwt settings now token = .ok (some claims) ∧
      user = claims.user := by
  cases credentials with
  | none => cases h
  | some token =>
      unfold getCurrentUser at h
      cases hverify : verify jwt settings now token with
      | error e => simp [hverify, bind, Except.bind] at h
      | ok payload =>
          cases payload with
          | none => simp [hverify, bind, Except.bind, throw, throwThe, MonadExceptOf.throw] at h
          | some claims =>
              simp only [hverify, bind, Except.bind, pure, Except.pure, Except.ok.injEq] at h
              exact ⟨token, claims, rfl, hverify, h.symm⟩

/-- The optional form has a user exactly where the other one has it. -/
theorem getCurrentUserOptional_eq_some_iff {credentials : Option PyStr} {user : User} :
    getCurrentUserOptional jwt settings now credentials = .ok (some user) ↔
      getCurrentUser jwt settings now credentials = .ok user := by
  cases credentials with
  | none => simp [getCurrentUserOptional, getCurrentUser, pure, Except.pure, throw, throwThe,
      MonadExceptOf.throw]
  | some token =>
      unfold getCurrentUserOptional getCurrentUser
      cases hverify : verify jwt settings now token with
      | error e => simp [hverify, bind, Except.bind]
      | ok payload =>
          cases payload with
          | none => simp [hverify, bind, Except.bind, pure, Except.pure, throw, throwThe,
              MonadExceptOf.throw]
          | some claims => simp [hverify, bind, Except.bind, pure, Except.pure]

/-! ## To try runs on -/

/-- The sign of a number. -/
def signOf (n : ℤ) : Utf8.CodePoint :=
  if n < 0 then PyStr.char '-' else PyStr.char '+'

theorem signOf_eq_minus_iff (n : ℤ) : signOf n = PyStr.char '-' ↔ n < 0 := by
  unfold signOf
  split
  · next h => simp [h]
  · next h =>
      rw [iff_false_right h]
      decide

theorem signOf_ne_one (n : ℤ) : signOf n ≠ PyStr.char '1' := by
  unfold signOf
  split <;> decide

/-- A library to try runs on: a token is the key, the {lit}`exp` in unary and the {lit}`sub`. -/
def sampleJwt : Jwt where
  encode key payload :=
    match payload.get? (PyStr.lit ['s', 'u', 'b']), payload.get? (PyStr.lit ['e', 'x', 'p']) with
    | some (.json (.str username)), some (.datetime expire) =>
        key ++ (List.replicate ⌊expire⌋.natAbs (PyStr.char '1') ++
          signOf ⌊expire⌋ :: username)
    | _, _ => []
  decode key now token :=
    let body := token.drop key.length
    let seconds := (body.takeWhile fun c => c = PyStr.char '1').length
    match body.dropWhile fun c => c = PyStr.char '1' with
    | [] => .error .invalidTokenError
    | sign :: username =>
        let exp : ℤ := if sign = PyStr.char '-' then -seconds else seconds
        if key.isPrefixOf token ∧ now < exp then .ok ⟨.str username, none, .ok exp⟩
        else .error .invalidTokenError

/-- The sample library gives a payload back, with any key. -/
theorem sampleJwt_documented (key : PyStr) : sampleJwt.Documented key := by
  intro username _ expire now _
  have hsub : (withExpiry (loginPayload username) expire).get? (PyStr.lit ['s', 'u', 'b']) =
      some (.json (.str username)) := by
    simp [withExpiry, loginPayload, Dict.get?_set]
    decide
  have hexp : (withExpiry (loginPayload username) expire).get? (PyStr.lit ['e', 'x', 'p']) =
      some (.datetime expire) := by
    simp [withExpiry, Dict.get?_set]
  have hsign : decide (signOf ⌊expire⌋ = PyStr.char '1') = false :=
    decide_eq_false (signOf_ne_one _)
  have hones : ∀ c ∈ List.replicate ⌊expire⌋.natAbs (PyStr.char '1'),
      decide (c = PyStr.char '1') = true :=
    fun c hc => decide_eq_true (List.eq_of_mem_replicate hc)
  have hvalue : (if signOf ⌊expire⌋ = PyStr.char '-' then -(⌊expire⌋.natAbs : ℤ)
      else ⌊expire⌋.natAbs) = ⌊expire⌋ := by
    simp only [signOf_eq_minus_iff]
    split <;> omega
  simp only [sampleJwt, hsub, hexp, List.drop_left, List.takeWhile_append_of_pos hones,
    List.dropWhile_append_of_pos hones, List.takeWhile_cons, List.dropWhile_cons, hsign,
    Bool.false_eq_true, if_false, List.append_nil, List.length_replicate, hvalue]
  simp

/-- A password. -/
def passphrase : PyStr :=
  PyStr.lit ['a', ' ', 'l', 'o', 'n', 'g', ' ', 'p', 'a', 's', 's', 'p', 'h', 'r', 'a', 's', 'e']

/-- What PBKDF2 makes of the password and the salt of the bytes from zero to fifteen. -/
def passphraseDigest : FixedBytes 32 :=
  ⟨[26, 139, 168, 140, 43, 239, 147, 254, 40, 177, 172, 128, 181, 130, 179, 146, 18, 100, 162,
    45, 182, 233, 12, 38, 4, 67, 196, 53, 120, 140, 248, 253], rfl⟩

/-- The default settings, with the verifier of the password and tokens that last a minute. -/
def ApiSettings.sample : ApiSettings where
  toSettings := Settings.default
  apiPasswordHash := verifierText ((List.range 16).map UInt8.ofNat) passphraseDigest
  jwtSecretKey := List.replicate 32 (PyStr.char 'k')
  jwtAccessTokenExpireMinutes := 1
  apiPasswordHash_valid := by decide +kernel
  jwtSecretKey_length := by decide
  expireMinutes_range := by decide

/-- The user with the password. -/
def LoginForm.sample : LoginForm where
  username := PyStr.lit ['a', 'p', 'i']
  password := passphrase
  username_length := by decide
  password_length := by decide

end MqttGateway
