import MqttGateway.Core.Config

/-!
# Topic validation and access control

The functions of {lit}`core/topics.py`, over Python strings and with the exceptions
they raise: {lit}`validate_topic`, the two comparisons of filters, and
{lit}`authorize_topic` on its publish and its subscribe path.  The matcher
{lit}`topic_matches_sub` of the MQTT client package is a parameter.
-/

namespace MqttGateway

open Toolkit

/-- The level that matches exactly one level. -/
def singleLevel : PyStr := [plus]

/-- The level that matches the parent and everything below it. -/
def multiLevel : PyStr := [hash]

/-- The condition {lit}`validate_topic` puts on one level of a subscription filter. -/
def filterLevelValid (count : Nat) (level : PyStr) (index : Nat) : Bool :=
  (plus ∉ level || level = singleLevel) &&
    (hash ∉ level || (level = multiLevel && index = count - 1))

/-- The length and encoding condition of {lit}`validate_topic`. -/
def encodable (topic : PyStr) : Bool :=
  match PyStr.encode topic with
  | .ok bytes => topic ≠ [] && bytes.length ≤ 65535 && (0 : Utf8.CodePoint) ∉ topic
  | .error _ => false

/-- Which topics MQTT can carry. -/
theorem encodable_eq_true_iff {topic : PyStr} :
    encodable topic = true ↔
      (∃ bytes, PyStr.encode topic = .ok bytes ∧ bytes.length ≤ 65535) ∧
        topic ≠ [] ∧ (0 : Utf8.CodePoint) ∉ topic := by
  unfold encodable
  cases PyStr.encode topic with
  | error e => simp
  | ok bytes =>
      simp only [Bool.and_eq_true, decide_eq_true_eq, Except.ok.injEq, exists_eq_left']
      tauto

/-- {lit}`validate_acl_patterns` accepts the encodable patterns whose levels are in order. -/
theorem validateAclPattern_eq_ok_iff {pattern : PyStr} :
    validateAclPattern pattern = .ok () ↔
      encodable pattern = true ∧
        ∀ item ∈ (levels pattern).zipIdx,
          aclLevelInvalid (levels pattern).length item.1 item.2 = false := by
  rw [encodable_eq_true_iff]
  unfold validateAclPattern
  by_cases hbad : pattern = [] ∨ (0 : Utf8.CodePoint) ∈ pattern
  · rw [if_pos hbad]
    constructor
    · intro h
      cases h
    · rintro ⟨⟨_, hne, hnul⟩, _⟩
      exact (hbad.elim hne hnul).elim
  · rw [if_neg hbad]
    rw [not_or] at hbad
    cases hencode : PyStr.encode pattern with
    | error e =>
        constructor
        · intro h
          cases h
        · rintro ⟨⟨⟨bytes, hbytes, _⟩, _⟩, _⟩
          cases hbytes
    | ok bytes =>
        by_cases hlong : 65535 < bytes.length
        · have hnot : ¬bytes.length ≤ 65535 := by omega
          simp [bind, Except.bind, hlong, throw, throwThe, MonadExceptOf.throw, hnot]
        · have hle : bytes.length ≤ 65535 := by omega
          simp [bind, Except.bind, hlong, pure, Except.pure, throw, throwThe,
            MonadExceptOf.throw, hle, hbad]

/-- {lit}`validate_topic`. -/
def validateTopic (topic : PyStr) (subscription : Bool) : Except PyException Unit :=
  let levels := levels topic
  let valid :=
    if subscription then
      encodable topic &&
        (levels.zipIdx.all fun (level, index) => filterLevelValid levels.length level index) &&
        !PyStr.startsWith topic sharePrefix
    else
      encodable topic && plus ∉ topic && hash ∉ topic
  if valid then .ok ()
  else .error (.httpException 400 "Invalid MQTT topic or filter")

/-- A topic is valid, or the answer is status 400. -/
theorem validateTopic_cases (topic : PyStr) (subscription : Bool) :
    validateTopic topic subscription = .ok () ∨
      validateTopic topic subscription =
        .error (.httpException 400 "Invalid MQTT topic or filter") := by
  unfold validateTopic
  exact ite_eq_or_eq _ _ _

/-- Which filters are valid. -/
theorem validateTopic_filter_eq_ok_iff {filter : PyStr} :
    validateTopic filter true = .ok () ↔
      encodable filter = true ∧
        (∀ item ∈ (levels filter).zipIdx,
          filterLevelValid (levels filter).length item.1 item.2 = true) ∧
        PyStr.startsWith filter sharePrefix = false := by
  unfold validateTopic
  simp

/-- Which topics to publish on are valid. -/
theorem validateTopic_topic_eq_ok_iff {topic : PyStr} :
    validateTopic topic false = .ok () ↔
      encodable topic = true ∧ plus ∉ topic ∧ hash ∉ topic := by
  unfold validateTopic
  simp [and_assoc]

/-- {lit}`c in "+#"`. -/
def isWildcard (c : Utf8.CodePoint) : Bool :=
  c = plus || c = hash

/-- {lit}`_system_mismatch`.  The indexing raises on an empty string. -/
def systemMismatch (left right : PyStr) : Except PyException Bool := do
  let leftSystem ←
    if PyStr.startsWith left [dollar] then isWildcard <$> PyStr.first right else pure false
  if leftSystem then
    return true
  if PyStr.startsWith right [dollar] then isWildcard <$> PyStr.first left else pure false

/-- The loop of {lit}`filter_contains` over the numbered levels of the allow rule;
{lean}`none` when it runs to its end. -/
def filterContainsLoop (r : List PyStr) : List (PyStr × Nat) → Option Bool
  | [] => none
  | (level, index) :: rest =>
      if level = multiLevel then some true
      else if r.length ≤ index ∨ r[index]? = some multiLevel then some false
      else if level ≠ singleLevel ∧ r[index]? ≠ some level then some false
      else filterContainsLoop r rest

/-- {lit}`filter_contains`. -/
def filterContains (allowed requested : PyStr) : Except PyException Bool := do
  if ← systemMismatch allowed requested then
    return false
  let a := levels allowed
  let r := levels requested
  return (filterContainsLoop r a.zipIdx).getD (a.length = r.length)

/-- The loop of {lit}`filters_overlap` over the zipped levels; {lean}`none` when it runs
to its end. -/
def filtersOverlapLoop : List (PyStr × PyStr) → Option Bool
  | [] => none
  | (x, y) :: rest =>
      if x = multiLevel ∨ y = multiLevel then some true
      else if x ≠ singleLevel ∧ y ≠ singleLevel ∧ x ≠ y then some false
      else filtersOverlapLoop rest

/-- {lit}`filters_overlap`. -/
def filtersOverlap (left right : PyStr) : Except PyException Bool := do
  if ← systemMismatch left right then
    return false
  let a := levels left
  let b := levels right
  let remaining := if b.length < a.length then a.drop b.length else b.drop a.length
  return (filtersOverlapLoop (a.zip b)).getD (remaining = [] || remaining = [multiLevel])

/-- {lit}`authorize_topic`. -/
def authorizeTopic (topicMatchesSub : PyStr → PyStr → Bool) (topic : PyStr)
    (settings : Settings) (subscription : Bool) : Except PyException Unit := do
  validateTopic topic subscription
  let (allowed, blocked) ←
    if subscription then do
      let allowed ← settings.allowedTopicPatterns.anyM fun rule => filterContains rule topic
      let blocked ← settings.blockedTopicPatterns.anyM fun rule => filtersOverlap rule topic
      pure (allowed, blocked)
    else
      pure (settings.allowedTopicPatterns.any fun rule => topicMatchesSub rule topic,
        settings.blockedTopicPatterns.any fun rule => topicMatchesSub rule topic)
  if !allowed || blocked then
    throw (.httpException 403 "Topic not allowed")

section

variable {topicMatchesSub : PyStr → PyStr → Bool} {settings : Settings}

/-- What is authorized is valid. -/
theorem validateTopic_of_authorizeTopic {topic : PyStr} {subscription : Bool}
    (h : authorizeTopic topicMatchesSub topic settings subscription = .ok ()) :
    validateTopic topic subscription = .ok () := by
  unfold authorizeTopic at h
  cases hvalid : validateTopic topic subscription with
  | error e =>
      rw [hvalid] at h
      cases h
  | ok _ => rfl

/-- MQTT carries no empty topic. -/
theorem ne_nil_of_encodable {topic : PyStr} (h : encodable topic = true) : topic ≠ [] :=
  (encodable_eq_true_iff.mp h).2.1

/-- No empty topic is valid. -/
theorem ne_nil_of_validateTopic {topic : PyStr} {subscription : Bool}
    (h : validateTopic topic subscription = .ok ()) : topic ≠ [] := by
  cases subscription with
  | false => exact ne_nil_of_encodable (validateTopic_topic_eq_ok_iff.mp h).1
  | true => exact ne_nil_of_encodable (validateTopic_filter_eq_ok_iff.mp h).1

/-- No empty topic is authorized. -/
theorem ne_nil_of_authorizeTopic {topic : PyStr} {subscription : Bool}
    (h : authorizeTopic topicMatchesSub topic settings subscription = .ok ()) : topic ≠ [] :=
  ne_nil_of_validateTopic (validateTopic_of_authorizeTopic h)

/-- The publish path authorizes the valid topics that match an allowed rule and no blocked
one. -/
theorem authorizeTopic_topic_eq_ok_iff {topic : PyStr} :
    authorizeTopic topicMatchesSub topic settings false = .ok () ↔
      validateTopic topic false = .ok () ∧
        (∃ rule ∈ settings.allowedTopicPatterns, topicMatchesSub rule topic = true) ∧
        ∀ rule ∈ settings.blockedTopicPatterns, topicMatchesSub rule topic = false := by
  unfold authorizeTopic
  cases hvalid : validateTopic topic false with
  | error e =>
      constructor
      · intro h
        cases h
      · rintro ⟨h, _⟩
        cases h
  | ok _ =>
      have hallowed : (settings.allowedTopicPatterns.any fun rule => topicMatchesSub rule topic) =
          true ↔ ∃ rule ∈ settings.allowedTopicPatterns, topicMatchesSub rule topic = true :=
        List.any_eq_true
      have hblocked : (settings.blockedTopicPatterns.any fun rule => topicMatchesSub rule topic) =
          false ↔ ∀ rule ∈ settings.blockedTopicPatterns, topicMatchesSub rule topic = false := by
        simp
      rw [← hallowed, ← hblocked]
      cases settings.allowedTopicPatterns.any fun rule => topicMatchesSub rule topic <;>
        cases settings.blockedTopicPatterns.any fun rule => topicMatchesSub rule topic <;>
        simp [bind, Except.bind, pure, Except.pure, throw, throwThe, MonadExceptOf.throw]

/-- The subscribe path authorizes only valid filters that lie within an allowed rule and
overlap no blocked one. -/
theorem rules_of_authorizeTopic_filter {filter : PyStr}
    (h : authorizeTopic topicMatchesSub filter settings true = .ok ()) :
    (∃ rule ∈ settings.allowedTopicPatterns, filterContains rule filter = .ok true) ∧
      ∀ rule ∈ settings.blockedTopicPatterns, filtersOverlap rule filter = .ok false := by
  have hvalid := validateTopic_of_authorizeTopic h
  unfold authorizeTopic at h
  rw [hvalid] at h
  cases hallowed : settings.allowedTopicPatterns.anyM fun rule => filterContains rule filter with
  | error e =>
      rw [hallowed] at h
      cases h
  | ok allowed =>
      rw [hallowed] at h
      cases hblocked : settings.blockedTopicPatterns.anyM fun rule =>
          filtersOverlap rule filter with
      | error e =>
          rw [hblocked] at h
          cases h
      | ok blocked =>
          rw [hblocked] at h
          cases allowed with
          | false => cases h
          | true =>
              cases blocked with
              | true => cases h
              | false => exact ⟨anyM_eq_ok_true hallowed, anyM_eq_ok_false hblocked⟩

end

end MqttGateway
