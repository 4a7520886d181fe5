import MqttGateway.Core.Config
import Mathlib.Data.Rat.Defs

/-!
# Bearer tokens

{lit}`verify_token` and the two ways a websocket client presents a token.  The decoder of
the JWT library is a parameter: it checks signature and expiry, requires the
claims {lit}`exp` and {lit}`sub` to be there, and raises otherwise.
-/

namespace MqttGateway

open Toolkit

/-- The JSON values the gateway looks into. -/
inductive Json where
  | str (text : PyStr)
  | arr (items : List Json)
  | obj (fields : List (PyStr × Json))
  | other

namespace Json

/-- The text of a string. -/
def text? : Json → Option PyStr
  | .str text => some text
  | _ => none

/-- {lit}`value.get(key)` on an object; of equal keys the last one counts. -/
def get? (fields : List (PyStr × Json)) (key : PyStr) : Option Json :=
  fields.reverse.lookup key

end Json

/-- The claims of a token that the gateway reads. -/
structure Claims where
  sub : Json
  scopes : Option Json
  /-- {lit}`float(claims["exp"])`, or what the conversion raises. -/
  exp : Except PyException ℚ

/-- {lit}`verify_token`. -/
def verifyToken (settings : Settings) (jwtDecode : PyStr → Except PyException Claims)
    (token : PyStr) : Except PyException (Option Claims) :=
  match jwtDecode token with
  | .ok payload =>
      if payload.sub.text? ≠ some settings.apiUsername then .ok none
      else
        match payload.scopes.getD (.arr []) with
        | .arr items =>
            .ok (if items.all fun scope => scope.text?.isSome then some payload else none)
        | _ => .ok none
  | .error .invalidTokenError | .error (.valueError _) | .error .unicodeError
  | .error .typeError | .error .overflowError => .ok none
  | .error e => .error e

/-- The token of an {lit}`Authorization` header. -/
def headerToken (header : PyStr) : PyStr :=
  let (scheme, token) := PyStr.partition header (PyStr.char ' ')
  if PyStr.lower scheme ≠ PyStr.lit ['b', 'e', 'a', 'r', 'e', 'r'] then [] else token

/-- The token of an authentication frame, of whatever type it is. -/
def frameToken (frame : Json) : Json :=
  match frame with
  | .obj fields =>
      if (Json.get? fields (PyStr.lit ['t', 'y', 'p', 'e'])).bind Json.text? =
          some (PyStr.lit ['a', 'u', 't', 'h']) then
        (Json.get? fields (PyStr.lit ['t', 'o', 'k', 'e', 'n'])).getD (.str [])
      else .str []
  | _ => .str []

/-- The claims of a token of a websocket client, if it has any. -/
def tokenClaims (settings : Settings) (jwtDecode : PyStr → Except PyException Claims)
    (token : Json) : Except PyException (Option Claims) :=
  match token with
  | .str text => if text.length ≤ 8192 then verifyToken settings jwtDecode text else .ok none
  | _ => .ok none

end MqttGateway
