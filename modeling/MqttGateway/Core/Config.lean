import MqttGateway.Python

/-!
# Settings

The fields of {lit}`Settings` that the modelled code reads, with their defaults, and
the validators of the two ACL lists.  A value carries the proof that both lists
passed the second one and that the bounded queues hold at least one element.  The
upper bounds of the numeric fields play no part below; leaving them out makes every
result hold for larger values too.
-/

namespace MqttGateway

open Toolkit

/-- The level separator of topics and filters. -/
def slash : Utf8.CodePoint := PyStr.char '/'

/-- The single-level wildcard character. -/
def plus : Utf8.CodePoint := PyStr.char '+'

/-- The multi-level wildcard character. -/
def hash : Utf8.CodePoint := PyStr.char '#'

/-- The first character of topics reserved for the broker. -/
def dollar : Utf8.CodePoint := PyStr.char '$'

/-- {lit}`topic.split("/")`. -/
def levels (topic : PyStr) : List PyStr :=
  topic.splitOn slash

/-- The prefix of shared subscriptions. -/
def sharePrefix : PyStr :=
  PyStr.lit ['$', 's', 'h', 'a', 'r', 'e', '/']

/-- {lit}`Settings.parse_patterns`: a text is split, a list is taken as it is. -/
def parsePatterns : PyStr ⊕ List PyStr → List PyStr
  | .inl v => ((v.splitOn (PyStr.char ',')).map PyStr.strip).filter fun p => p ≠ []
  | .inr v => v

/-- The checks {lit}`validate_acl_patterns` makes on one level of a pattern. -/
def aclLevelInvalid (count : Nat) (level : PyStr) (index : Nat) : Bool :=
  (plus ∈ level && level ≠ [plus]) || (hash ∈ level && (level ≠ [hash] || index ≠ count - 1))

/-- {lit}`Settings.validate_acl_patterns` on one pattern. -/
def validateAclPattern (pattern : PyStr) : Except PyException Unit := do
  let levels := levels pattern
  if pattern = [] ∨ (0 : Utf8.CodePoint) ∈ pattern then
    throw (.valueError "Invalid MQTT ACL filter")
  -- An unencodable pattern leaves through the encoder's own exception.
  let bytes ← PyStr.encode pattern
  if 65535 < bytes.length then
    throw (.valueError "Invalid MQTT ACL filter")
  if levels.zipIdx.any fun (level, index) => aclLevelInvalid levels.length level index then
    throw (.valueError "Invalid MQTT ACL wildcard")

/-- {lit}`Settings.validate_acl_patterns`. -/
def validateAclPatterns (patterns : List PyStr) : Except PyException (List PyStr) := do
  forM patterns validateAclPattern
  return patterns

/-- The two validators of an ACL list, one after the other. -/
def loadPatterns (v : PyStr ⊕ List PyStr) : Except PyException (List PyStr) :=
  validateAclPatterns (parsePatterns v)

/-- The settings the gateway's core reads. -/
structure Settings where
  apiUsername : PyStr
  allowedTopicPatterns : List PyStr := [[hash]]
  blockedTopicPatterns : List PyStr :=
    [PyStr.lit ['$', 'S', 'Y', 'S', '/', '#'], sharePrefix ++ [hash]]
  mqttQueueSize : Nat := 256
  websocketQueueSize : Nat := 64
  websocketMaxTopics : Nat := 32
  maxMessageBytes : Nat := 1048576
  allowed_valid : validateAclPatterns allowedTopicPatterns = .ok allowedTopicPatterns
  blocked_valid : validateAclPatterns blockedTopicPatterns = .ok blockedTopicPatterns
  mqttQueueSize_pos : 1 ≤ mqttQueueSize
  websocketQueueSize_pos : 1 ≤ websocketQueueSize

/-- The defaults, for a user named {lit}`api`; each of them passes its own check. -/
def Settings.default : Settings where
  apiUsername := PyStr.lit ['a', 'p', 'i']
  allowed_valid := by decide
  blocked_valid := by decide
  mqttQueueSize_pos := by decide
  websocketQueueSize_pos := by decide

/-- Accepting a list of patterns accepts each of them. -/
theorem validateAclPattern_of_mem {patterns result : List PyStr}
    (h : validateAclPatterns patterns = .ok result) {pattern : PyStr}
    (hmem : pattern ∈ patterns) : validateAclPattern pattern = .ok () := by
  have hall : forM patterns validateAclPattern = .ok () := by
    unfold validateAclPatterns at h
    cases hforM : forM patterns validateAclPattern with
    | error e =>
        rw [hforM] at h
        cases h
    | ok _ => rfl
  exact forM_eq_ok hall hmem

end MqttGateway
