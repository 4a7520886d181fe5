import MqttGateway.Core.Matching

/-!
# The grammar of filters

Both validators split a filter into levels and check them one by one, with opposite
polarity.  Character by character they accept the same strings: the filters of MQTT,
without the shared subscriptions that {lit}`validate_topic` also refuses.

Main results:

- Theorem {lit}`validateAclPattern_iff_grammar`: {lit}`validate_acl_patterns` accepts the grammar.
- Theorem {lit}`authorizeTopic_cases`: {lit}`authorize_topic` accepts a valid topic or raises its
  403.
- Theorem {lit}`filter_grammars_agree`: both validators and what follows for
  {lit}`authorize_topic`.
-/

namespace MqttGateway

open Toolkit
open Toolkit.LevelPattern

/-- The grammar of filters, character by character: 1 to 65535 bytes of UTF-8 without NUL; a
plus sign fills a level, and a number sign fills the last level. -/
structure FilterGrammar (filter : PyStr) : Prop where
  size : ∃ bytes, PyStr.encode filter = .ok bytes ∧ 1 ≤ bytes.length ∧ bytes.length ≤ 65535
  noNul : (0 : Utf8.CodePoint) ∉ filter
  plusAlone : ∀ before after, filter = before ++ plus :: after →
    (before = [] ∨ before.getLast? = some slash) ∧ (after = [] ∨ after.head? = some slash)
  hashLast : ∀ before after, filter = before ++ hash :: after →
    after = [] ∧ (before = [] ∨ before.getLast? = some slash)

/-! ## Size -/

theorem encodeOne_ne_nil {c : Utf8.CodePoint} {bytes : Bytes} (h : Utf8.encodeOne c = some bytes) :
    bytes ≠ [] := by
  unfold Utf8.encodeOne at h
  grind

/-- A text is empty exactly when its encoding is. -/
theorem encode_eq_nil_iff {text : PyStr} {bytes : Bytes} (h : PyStr.encode text = .ok bytes) :
    bytes = [] ↔ text = [] := by
  unfold PyStr.encode at h
  cases text with
  | nil =>
      cases h
      simp
  | cons c text =>
      cases hfirst : Utf8.encodeOne c with
      | none => simp [Utf8.encode, hfirst] at h
      | some first =>
          cases hrest : Utf8.encode text with
          | none => simp [Utf8.encode, hfirst, hrest] at h
          | some rest =>
              have hbytes : first ++ rest = bytes := by
                simpa [Utf8.encode, hfirst, hrest] using h
              simp [← hbytes, encodeOne_ne_nil hfirst]

/-- The size condition of both validators. -/
theorem encodable_iff_size {filter : PyStr} :
    encodable filter = true ↔
      (∃ bytes, PyStr.encode filter = .ok bytes ∧ 1 ≤ bytes.length ∧ bytes.length ≤ 65535) ∧
        (0 : Utf8.CodePoint) ∉ filter := by
  rw [encodable_eq_true_iff]
  constructor
  · rintro ⟨⟨bytes, hbytes, hlong⟩, hne, hnul⟩
    have hpos : bytes ≠ [] := fun h => hne ((encode_eq_nil_iff hbytes).mp h)
    exact ⟨⟨bytes, hbytes, List.length_pos_iff.mpr hpos, hlong⟩, hnul⟩
  · rintro ⟨⟨bytes, hbytes, hpos, hlong⟩, hnul⟩
    refine ⟨⟨bytes, hbytes, hlong⟩, ?_, hnul⟩
    intro hnil
    rw [(encode_eq_nil_iff hbytes).mpr hnil] at hpos
    cases hpos

/-! ## Levels -/

/-- A level stands in its list between the earlier levels, as many as its index, and the later
ones. -/
theorem exists_levels_of_mem_zipIdx {ls : List PyStr} {level : PyStr} {index : Nat}
    (h : (level, index) ∈ ls.zipIdx) :
    ∃ older newer, ls = older ++ level :: newer ∧ older.length = index := by
  have hsome : ls[index]? = some level := List.mem_zipIdx_iff_getElem?.mp h
  rcases List.getElem?_eq_some_iff.mp hsome with ⟨hlt, hget⟩
  refine ⟨ls.take index, ls.drop (index + 1), ?_, ?_⟩
  · rw [← hget, List.getElem_cons_drop, List.take_append_drop]
  · rw [List.length_take]
    omega

/-- The levels are in order exactly when the wildcard characters are. -/
theorem levelsInOrder_iff_grammar {filter : PyStr} :
    LevelsInOrder filter ↔
      (∀ before after, filter = before ++ plus :: after →
        (before = [] ∨ before.getLast? = some slash) ∧
          (after = [] ∨ after.head? = some slash)) ∧
      ∀ before after, filter = before ++ hash :: after →
        after = [] ∧ (before = [] ∨ before.getLast? = some slash) := by
  constructor
  · intro h
    constructor
    · rintro before after rfl
      rcases exists_levels_of_split before after (c := plus) (by decide) with
        ⟨older, left, right, newer, hbefore, hafter, _, hitem⟩
      have halone := (h _ hitem).1 (by simp)
      have hempty : left = [] ∧ right = [] := by
        rw [singleLevel, List.append_eq_singleton_iff] at halone
        simpa using halone
      exact ⟨(last_level_eq_nil_iff hbefore).mp hempty.1,
        (first_level_eq_nil_iff hafter).mp hempty.2⟩
    · rintro before after rfl
      rcases exists_levels_of_split before after (c := hash) (by decide) with
        ⟨older, left, right, newer, hbefore, hafter, hlevels, hitem⟩
      rcases (h _ hitem).2 (by simp) with ⟨halone, hlast⟩
      have hempty : left = [] ∧ right = [] := by
        rw [multiLevel, List.append_eq_singleton_iff] at halone
        simpa using halone
      have hnewer : newer = [] := by
        rw [hlevels, List.length_append, List.length_cons] at hlast
        apply List.eq_nil_of_length_eq_zero
        simp only at hlast
        omega
      refine ⟨?_, (last_level_eq_nil_iff hbefore).mp hempty.1⟩
      rw [hempty.2, hnewer] at hafter
      exact levels_eq_singleton_nil_iff.mp hafter
  · rintro ⟨hplus, hhash⟩ ⟨level, index⟩ hitem
    rcases exists_levels_of_mem_zipIdx hitem with ⟨older, newer, hlevels, hindex⟩
    constructor
    · intro hmem
      rcases List.append_of_mem hmem with ⟨left, right, rfl⟩
      rcases exists_split_of_levels hlevels with ⟨before, after, hsplit, hbefore, hafter⟩
      rcases hplus before after hsplit with ⟨hstart, hend⟩
      rw [(last_level_eq_nil_iff hbefore).mpr hstart, (first_level_eq_nil_iff hafter).mpr hend]
      rfl
    · intro hmem
      rcases List.append_of_mem hmem with ⟨left, right, rfl⟩
      rcases exists_split_of_levels hlevels with ⟨before, after, hsplit, hbefore, hafter⟩
      rcases hhash before after hsplit with ⟨rfl, hstart⟩
      have hright : right = [] ∧ newer = [] := by simpa [levels, eq_comm] using hafter
      rw [(last_level_eq_nil_iff hbefore).mpr hstart, hright.1]
      refine ⟨rfl, ?_⟩
      rw [hlevels, hright.2, ← hindex]
      simp

/-! ## The two validators -/

theorem filterGrammar_iff {filter : PyStr} :
    FilterGrammar filter ↔ encodable filter = true ∧ LevelsInOrder filter := by
  rw [encodable_iff_size, levelsInOrder_iff_grammar]
  constructor
  · intro h
    exact ⟨⟨h.size, h.noNul⟩, h.plusAlone, h.hashLast⟩
  · rintro ⟨⟨hsize, hnul⟩, hplus, hhash⟩
    exact ⟨hsize, hnul, hplus, hhash⟩

/-- {lit}`validate_acl_patterns` accepts a pattern exactly when it is a filter. -/
theorem validateAclPattern_iff_grammar {pattern : PyStr} :
    validateAclPattern pattern = .ok () ↔ FilterGrammar pattern := by
  rw [filterGrammar_iff, levelsInOrder_iff_acl]
  exact validateAclPattern_eq_ok_iff

/-- {lit}`validate_topic` accepts a subscription exactly when it is a filter and not shared. -/
theorem validateTopic_iff_grammar {filter : PyStr} :
    validateTopic filter true = .ok () ↔
      FilterGrammar filter ∧ PyStr.startsWith filter sharePrefix = false := by
  rw [filterGrammar_iff, levelsInOrder_iff_filter, and_assoc]
  exact validateTopic_filter_eq_ok_iff

/-- {lit}`validate_acl_patterns` accepts a list exactly when every pattern is a filter. -/
theorem validateAclPatterns_iff_grammar {patterns : List PyStr} :
    validateAclPatterns patterns = .ok patterns ↔ ∀ pattern ∈ patterns, FilterGrammar pattern := by
  constructor
  · intro h pattern hpattern
    exact validateAclPattern_iff_grammar.mp (validateAclPattern_of_mem h hpattern)
  · intro h
    have hforM : forM patterns validateAclPattern = .ok () :=
      forM_eq_ok_of_forall fun pattern hpattern =>
        validateAclPattern_iff_grammar.mpr (h pattern hpattern)
    rw [validateAclPatterns, hforM]
    rfl

/-! ## What is left to fail -/

/-- A valid topic is authorized or refused with the 403. -/
theorem authorizeTopic_cases (topicMatchesSub : PyStr → PyStr → Bool) (settings : Settings)
    {topic : PyStr} {subscription : Bool} (hvalid : validateTopic topic subscription = .ok ()) :
    authorizeTopic topicMatchesSub topic settings subscription = .ok () ∨
      authorizeTopic topicMatchesSub topic settings subscription =
        .error (.httpException 403 "Topic not allowed") := by
  cases subscription with
  | true =>
      rcases authorizeTopic_filter_cases topicMatchesSub settings hvalid with ⟨b, _, hresult⟩
      rw [hresult]
      cases b with
      | true => exact Or.inl rfl
      | false => exact Or.inr rfl
  | false =>
      unfold authorizeTopic
      simp only [hvalid]
      cases settings.allowedTopicPatterns.any fun rule => topicMatchesSub rule topic <;>
        cases settings.blockedTopicPatterns.any fun rule => topicMatchesSub rule topic <;>
        simp [bind, Except.bind, pure, Except.pure, throw, throwThe, MonadExceptOf.throw]

/-- A topic is authorized or refused with an {lit}`HTTPException`. -/
theorem authorizeTopic_ok_or_refused (topicMatchesSub : PyStr → PyStr → Bool)
    (settings : Settings) (topic : PyStr) (subscription : Bool) :
    authorizeTopic topicMatchesSub topic settings subscription = .ok () ∨
      ∃ code detail, authorizeTopic topicMatchesSub topic settings subscription =
        .error (.httpException code detail) := by
  rcases validateTopic_cases topic subscription with hvalid | hinvalid
  · rcases authorizeTopic_cases topicMatchesSub settings hvalid with hyes | hno
    · exact Or.inl hyes
    · exact Or.inr ⟨_, _, hno⟩
  · refine Or.inr ⟨400, "Invalid MQTT topic or filter", ?_⟩
    rw [authorizeTopic, hinvalid]
    rfl

/-- The indexing of {lit}`_system_mismatch` is in range for nonempty strings. -/
theorem systemMismatch_ok {left right : PyStr} (hl : left ≠ []) (hr : right ≠ []) :
    ∃ b, systemMismatch left right = .ok b := by
  cases left with
  | nil => exact absurd rfl hl
  | cons c left =>
      cases right with
      | nil => exact absurd rfl hr
      | cons d right => exact ⟨_, systemMismatch_cons c d left right⟩

/-- Both validators accept the filters of the grammar, {lit}`validate_topic` all but the shared
subscriptions.  So {lit}`authorize_topic` fails on a valid topic with its 403 only, and
{lit}`_system_mismatch` never indexes an empty string. -/
theorem filter_grammars_agree :
    (∀ patterns, validateAclPatterns patterns = .ok patterns ↔
        ∀ pattern ∈ patterns, FilterGrammar pattern) ∧
      (∀ filter, validateTopic filter true = .ok () ↔
        FilterGrammar filter ∧ PyStr.startsWith filter sharePrefix = false) ∧
      ∀ topicMatchesSub settings topic subscription,
        validateTopic topic subscription = .ok () →
          (authorizeTopic topicMatchesSub topic settings subscription = .ok () ∨
            authorizeTopic topicMatchesSub topic settings subscription =
              .error (.httpException 403 "Topic not allowed")) ∧
          ∀ rule ∈ settings.allowedTopicPatterns ++ settings.blockedTopicPatterns,
            ∃ b, systemMismatch rule topic = .ok b := by
  refine ⟨fun _ => validateAclPatterns_iff_grammar, fun _ => validateTopic_iff_grammar, ?_⟩
  intro topicMatchesSub settings topic subscription hvalid
  refine ⟨authorizeTopic_cases topicMatchesSub settings hvalid, ?_⟩
  intro rule hrule
  have hne : rule ≠ [] := by
    rcases List.mem_append.mp hrule with hallowed | hblocked
    · exact (isFilter_of_allowed hallowed).nonempty
    · exact (isFilter_of_blocked hblocked).nonempty
  exact systemMismatch_ok hne (ne_nil_of_validateTopic hvalid)

/-- A topic below a level that the default settings block. -/
theorem filter_grammars_agree_system :
    let matching : PyStr → PyStr → Bool := fun filter topic => decide (MqttMatches filter topic)
    let topic := PyStr.lit ['$', 'S', 'Y', 'S', '/', 'a']
    authorizeTopic matching topic Settings.default true =
        .error (.httpException 403 "Topic not allowed") ∧
      ∃ b, systemMismatch [hash] topic = .ok b := by
  intro matching topic
  rcases filter_grammars_agree.2.2 matching Settings.default topic true (by decide +kernel) with
    ⟨haccepts | hrefuses, hmismatch⟩
  · have hnot : authorizeTopic matching topic Settings.default true ≠ .ok () := by
      decide +kernel
    exact absurd haccepts hnot
  · exact ⟨hrefuses, hmismatch [hash] (by decide)⟩

end MqttGateway
