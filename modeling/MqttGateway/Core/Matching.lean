import MqttGateway.Core.Levels
import MqttGateway.Core.Topics
import MqttGateway.Library.LevelPattern

/-!
# MQTT matching and the meaning of the filter comparisons

The MQTT matching relation, and what {lit}`filter_contains` and {lit}`filters_overlap` decide
about it.  Filters become patterns over levels; the two loops of the source are
the containment and overlap tests of those patterns, and {lit}`_system_mismatch` is
their clash over levels that start with a dollar sign.

Main results:

- Theorems {lit}`isFilter_of_validateAclPattern` and {lit}`isFilter_of_validateTopic`:
  both validators accept only well-formed filters.
- Theorem {lit}`mqttMatches_of_filterContains`: an allow rule that contains a filter
  matches every topic the filter matches.
- Theorem {lit}`not_mqttMatches_of_filtersOverlap`: a block rule that does not overlap a
  filter matches no topic the filter matches.
-/

namespace MqttGateway

open Toolkit
open Toolkit.LevelPattern

/-! ## The matching relation -/

/-- A level of a filter as a segment. -/
def segment (level : PyStr) : Segment PyStr :=
  if level = multiLevel then .rest else if level = singleLevel then .one else .exactly level

/-- The level {lit}`#` stands for the rest of a topic. -/
@[simp]
theorem segment_multiLevel : segment multiLevel = .rest :=
  rfl

/-- The level {lit}`+` stands for any one level. -/
@[simp]
theorem segment_singleLevel : segment singleLevel = .one :=
  rfl

/-- Any other level stands for itself. -/
theorem segment_of_ne {level : PyStr} (hm : level ≠ multiLevel) (hs : level ≠ singleLevel) :
    segment level = .exactly level := by
  unfold segment
  rw [if_neg hm, if_neg hs]

/-- The pattern a filter denotes. -/
def segments (filter : PyStr) : Pattern PyStr :=
  (levels filter).map segment

/-- The filter starts with a wildcard character. -/
def startsWithWildcard (filter : PyStr) : Bool :=
  match filter with
  | [] => false
  | c :: _ => isWildcard c

/-- MQTT topic matching: the plus sign stands for one level, a trailing number sign for
the parent level and any number of further levels, and a filter that starts with
a wildcard never matches a topic that starts with a dollar sign. -/
def MqttMatches (filter topic : PyStr) : Prop :=
  Matches (segments filter) (levels topic) ∧
    ¬(startsWithWildcard filter = true ∧ PyStr.startsWith topic [dollar] = true)

instance (filter topic : PyStr) : Decidable (MqttMatches filter topic) :=
  inferInstanceAs (Decidable (_ ∧ _))

/-- A level reserved for the broker. -/
def IsSystemLevel (level : PyStr) : Prop :=
  level.head? = some dollar

/-! ## Well-formed filters -/

/-- The grammar of filters, level by level. -/
structure IsFilter (filter : PyStr) : Prop where
  nonempty : filter ≠ []
  plus_alone : ∀ level ∈ levels filter, plus ∈ level → level = singleLevel
  hash_alone : ∀ level ∈ levels filter, hash ∈ level → level = multiLevel
  wellFormed : WellFormed (segments filter)

/-- A list of levels with {lit}`#` in none but the last is well formed as a pattern. -/
theorem wellFormed_map_segment {ls : List PyStr} {k n : Nat} (hn : n = k + ls.length)
    (h : ∀ item ∈ ls.zipIdx k, hash ∈ item.1 → item.2 = n - 1) :
    WellFormed (ls.map segment) := by
  induction ls generalizing k with
  | nil => trivial
  | cons level rest ih =>
      have hrest : WellFormed (rest.map segment) := by
        apply ih (k := k + 1)
        · rw [hn, List.length_cons]
          omega
        · intro item hitem
          exact h item (by simp [List.zipIdx_cons, hitem])
      by_cases hmulti : level = multiLevel
      · have hlast : k = n - 1 := by
          apply h (level, k)
          · simp [List.zipIdx_cons]
          · simp [hmulti, multiLevel]
        have hnil : rest = [] := by
          rw [List.length_cons] at hn
          apply List.eq_nil_of_length_eq_zero
          omega
        rw [hnil, hmulti]
        rfl
      · by_cases hsingle : level = singleLevel
        · rw [hsingle]
          exact hrest
        · rw [List.map_cons, segment_of_ne hmulti hsingle]
          exact hrest

/-- Every level has an index. -/
theorem mem_zipIdx_of_mem {ls : List PyStr} {level : PyStr} (h : level ∈ ls) :
    ∃ index, (level, index) ∈ ls.zipIdx := by
  rcases List.mem_iff_getElem.mp h with ⟨i, hi, hget⟩
  refine ⟨i, ?_⟩
  rw [List.mem_zipIdx_iff_getElem?]
  simp [hi, hget]

/-- What both validators ask of the levels of a filter. -/
def LevelsInOrder (filter : PyStr) : Prop :=
  ∀ item ∈ (levels filter).zipIdx,
    (plus ∈ item.1 → item.1 = singleLevel) ∧
      (hash ∈ item.1 → item.1 = multiLevel ∧ item.2 = (levels filter).length - 1)

/-- The ACL check of a filter, level by level. -/
theorem levelsInOrder_iff_acl {filter : PyStr} :
    LevelsInOrder filter ↔ ∀ item ∈ (levels filter).zipIdx,
      aclLevelInvalid (levels filter).length item.1 item.2 = false := by
  simp [LevelsInOrder, aclLevelInvalid, singleLevel, multiLevel]

/-- The check of a requested filter, level by level. -/
theorem levelsInOrder_iff_filter {filter : PyStr} :
    LevelsInOrder filter ↔ ∀ item ∈ (levels filter).zipIdx,
      filterLevelValid (levels filter).length item.1 item.2 = true := by
  simp [LevelsInOrder, filterLevelValid, imp_iff_not_or]

/-- The level conditions of both validators give the grammar. -/
theorem isFilter_of_levels {filter : PyStr} (hne : filter ≠ []) (h : LevelsInOrder filter) :
    IsFilter filter where
  nonempty := hne
  plus_alone := by
    intro level hlevel hplus
    rcases mem_zipIdx_of_mem hlevel with ⟨index, hitem⟩
    exact (h _ hitem).1 hplus
  hash_alone := by
    intro level hlevel hhash
    rcases mem_zipIdx_of_mem hlevel with ⟨index, hitem⟩
    exact ((h _ hitem).2 hhash).1
  wellFormed := by
    apply wellFormed_map_segment (k := 0) (n := (levels filter).length)
    · rw [Nat.zero_add]
    · intro item hitem hhash
      exact ((h item hitem).2 hhash).2

/-- Every pattern that {lit}`validate_acl_patterns` accepts is a filter. -/
theorem isFilter_of_validateAclPattern {pattern : PyStr}
    (h : validateAclPattern pattern = .ok ()) : IsFilter pattern := by
  rcases validateAclPattern_eq_ok_iff.mp h with ⟨hencodable, hlevels⟩
  apply isFilter_of_levels (ne_nil_of_encodable hencodable)
  exact levelsInOrder_iff_acl.mpr hlevels

/-- Every string that {lit}`validate_topic` accepts as a subscription is a filter. -/
theorem isFilter_of_validateTopic {filter : PyStr}
    (h : validateTopic filter true = .ok ()) : IsFilter filter := by
  rcases validateTopic_filter_eq_ok_iff.mp h with ⟨hencodable, hlevels, _⟩
  apply isFilter_of_levels (ne_nil_of_encodable hencodable)
  exact levelsInOrder_iff_filter.mpr hlevels

/-! ## First characters and first levels -/

/-- A filter starts with {lit}`$` exactly if that is its first character. -/
theorem startsWith_dollar_iff (filter : PyStr) :
    PyStr.startsWith filter [dollar] = true ↔ filter.head? = some dollar := by
  cases filter with
  | nil => simp [PyStr.startsWith]
  | cons c tail =>
      simp only [PyStr.startsWith, List.isPrefixOf_cons_cons, List.isPrefixOf_nil_left,
        Bool.and_true, beq_iff_eq, List.head?_cons, Option.some.injEq]
      exact eq_comm

/-- A filter starts with a wildcard exactly if its first character is one. -/
theorem startsWithWildcard_iff (filter : PyStr) :
    startsWithWildcard filter = true ↔
      filter.head? = some plus ∨ filter.head? = some hash := by
  cases filter with
  | nil => simp [startsWithWildcard]
  | cons c tail => simp [startsWithWildcard, isWildcard]

/-- A filter starts with a dollar sign exactly when its first segment fixes a system level. -/
theorem startsHidden_segments_iff (filter : PyStr) :
    StartsHidden IsSystemLevel (segments filter) ↔ filter.head? = some dollar := by
  rcases exists_levels_eq_cons filter with ⟨level, rest, hlevels, hhead⟩
  rw [hhead dollar (by decide), segments, hlevels, List.map_cons]
  by_cases hm : level = multiLevel
  · subst hm
    simp only [segment_multiLevel, StartsHidden, false_iff]
    decide
  · by_cases hs : level = singleLevel
    · subst hs
      simp only [segment_singleLevel, StartsHidden, false_iff]
      decide
    · rw [segment_of_ne hm hs]
      exact Iff.rfl

/-- A filter starts with a wildcard character exactly when its first segment is wild. -/
theorem startsWild_segments_iff {filter : PyStr} (hf : IsFilter filter) :
    StartsWild (segments filter) ↔ startsWithWildcard filter = true := by
  rcases exists_levels_eq_cons filter with ⟨level, rest, hlevels, hhead⟩
  rw [startsWithWildcard_iff, hhead plus (by decide), hhead hash (by decide)]
  have hmem : level ∈ levels filter := by
    rw [hlevels]
    exact List.mem_cons_self
  rw [segments, hlevels, List.map_cons]
  by_cases hm : level = multiLevel
  · rw [hm, segment_multiLevel]
    exact iff_of_true trivial (Or.inr rfl)
  · by_cases hs : level = singleLevel
    · rw [hs, segment_singleLevel]
      exact iff_of_true trivial (Or.inl rfl)
    · rw [segment_of_ne hm hs]
      simp only [StartsWild, false_iff, not_or]
      constructor
      · intro hplus
        exact hs (hf.plus_alone level hmem (List.mem_of_mem_head? hplus))
      · intro hhash
        exact hm (hf.hash_alone level hmem (List.mem_of_mem_head? hhash))

/-- The matching relation is what the pattern sees with system levels hidden. -/
theorem mqttMatches_iff_sees {filter : PyStr} (hf : IsFilter filter) (topic : PyStr) :
    MqttMatches filter topic ↔ Sees IsSystemLevel (segments filter) (levels topic) := by
  rcases exists_levels_eq_cons topic with ⟨level, rest, hlevels, hhead⟩
  have hhidden : HiddenName IsSystemLevel (levels topic) ↔
      PyStr.startsWith topic [dollar] = true := by
    rw [startsWith_dollar_iff, hhead dollar (by decide), hlevels]
    exact Iff.rfl
  unfold MqttMatches Sees
  rw [hhidden, startsWild_segments_iff hf]

/-! ## The three comparisons of the source -/

/-- The check for system topics reads the first characters of two filters. -/
theorem systemMismatch_cons (c d : Utf8.CodePoint) (left right : PyStr) :
    systemMismatch (c :: left) (d :: right) =
      .ok ((PyStr.startsWith (c :: left) [dollar] && isWildcard d) ||
        (PyStr.startsWith (d :: right) [dollar] && isWildcard c)) := by
  have hleft : isWildcard <$> PyStr.first (c :: left) = .ok (isWildcard c) := rfl
  have hright : isWildcard <$> PyStr.first (d :: right) = .ok (isWildcard d) := rfl
  unfold systemMismatch
  rw [hleft, hright]
  cases PyStr.startsWith (c :: left) [dollar] <;>
    cases PyStr.startsWith (d :: right) [dollar] <;>
      cases isWildcard d <;> cases isWildcard c <;> rfl

/-- {lit}`_system_mismatch` never fails on filters, and decides their clash. -/
theorem systemMismatch_spec {left right : PyStr} (hl : IsFilter left) (hr : IsFilter right) :
    ∃ b, systemMismatch left right = .ok b ∧
      (b = true ↔ Clash IsSystemLevel (segments left) (segments right)) := by
  unfold Clash
  rw [startsHidden_segments_iff left, startsHidden_segments_iff right,
    startsWild_segments_iff hl, startsWild_segments_iff hr, ← startsWith_dollar_iff,
    ← startsWith_dollar_iff]
  cases left with
  | nil => exact absurd rfl hl.nonempty
  | cons c left =>
      cases right with
      | nil => exact absurd rfl hr.nonempty
      | cons d right =>
          refine ⟨_, systemMismatch_cons c d left right, ?_⟩
          simp [startsWithWildcard]

/-- The loop of {lit}`filter_contains`, from any position, is the containment test of the
remaining levels. -/
theorem filterContainsLoop_eq_contains (a r : List PyStr) (k : Nat) (hk : k ≤ r.length) :
    (filterContainsLoop r (a.zipIdx k)).getD (decide (k + a.length = r.length)) =
      contains (a.map segment) ((r.drop k).map segment) := by
  induction a generalizing k with
  | nil =>
      have hiff : k = r.length ↔ r.drop k = [] := by
        rw [List.drop_eq_nil_iff]
        omega
      cases hdrop : r.drop k with
      | nil => simp [filterContainsLoop, contains, hiff.mpr hdrop]
      | cons y rest =>
          have hne : k ≠ r.length := fun h => by simp [hiff.mp h] at hdrop
          simp [filterContainsLoop, contains, hne]
  | cons x a ih =>
      rw [List.zipIdx_cons, List.map_cons, filterContainsLoop]
      by_cases hx : x = multiLevel
      · rw [if_pos hx, hx, segment_multiLevel]
        rfl
      · rw [if_neg hx]
        cases hdrop : r.drop k with
        | nil =>
            have hlen : r.length ≤ k := List.drop_eq_nil_iff.mp hdrop
            rw [if_pos (Or.inl hlen)]
            by_cases hs : x = singleLevel
            · rw [hs, segment_singleLevel]
              rfl
            · rw [segment_of_ne hx hs]
              rfl
        | cons y rest =>
            have hlt : k < r.length := by
              by_contra hge
              rw [List.drop_eq_nil_iff.mpr (Nat.le_of_not_lt hge)] at hdrop
              cases hdrop
            have hget : r[k]? = some y := by
              rw [← List.head?_drop, hdrop]
              rfl
            have hrest : r.drop (k + 1) = rest := by
              rw [← List.tail_drop, hdrop]
              rfl
            have hnext := ih (k + 1) hlt
            rw [hrest, Nat.add_right_comm, Nat.add_assoc k a.length 1] at hnext
            rw [hget, List.length_cons]
            by_cases hy : y = multiLevel
            · rw [if_pos (Or.inr (congrArg some hy)), hy]
              by_cases hs : x = singleLevel
              · rw [hs]
                rfl
              · rw [segment_of_ne hx hs]
                rfl
            · rw [if_neg (by simp [Nat.not_le.mpr hlt, hy])]
              by_cases hs : x = singleLevel
              · rw [if_neg (by simp [hs]), hnext, hs]
                by_cases hys : y = singleLevel
                · rw [List.map_cons, hys]
                  rfl
                · rw [List.map_cons, segment_of_ne hy hys]
                  rfl
              · rw [segment_of_ne hx hs, List.map_cons]
                by_cases hxy : y = x
                · rw [if_neg (by simp [hxy]), hnext, hxy, segment_of_ne hx hs]
                  simp [contains]
                · rw [if_pos ⟨hs, by simpa using hxy⟩]
                  by_cases hys : y = singleLevel
                  · rw [hys]
                    rfl
                  · rw [segment_of_ne hy hys]
                    simp [contains, Ne.symm hxy]

/-- What is left of the longer list after the loop of {lit}`filters_overlap`. -/
def remainingLevels (a b : List PyStr) : List PyStr :=
  if b.length < a.length then a.drop b.length else b.drop a.length

/-- Next to a filter without levels, all levels of the other one remain. -/
theorem remainingLevels_nil_left (b : List PyStr) : remainingLevels [] b = b :=
  rfl

/-- The same with the two filters exchanged. -/
theorem remainingLevels_nil_right (a : List PyStr) : remainingLevels a [] = a := by
  cases a <;> rfl

/-- Two levels that stand next to each other do not remain. -/
theorem remainingLevels_cons (x y : PyStr) (a b : List PyStr) :
    remainingLevels (x :: a) (y :: b) = remainingLevels a b := by
  simp [remainingLevels]

/-- Only {lit}`#` stands for the rest of a topic. -/
theorem segment_eq_rest_iff {level : PyStr} : segment level = .rest ↔ level = multiLevel := by
  constructor
  · intro h
    unfold segment at h
    split at h
    · assumption
    · split at h <;> cases h
  · rintro rfl
    rfl

/-- The segments of two levels are compatible unless the loop of {lit}`filters_overlap`
refuses the pair. -/
theorem compatible_segment_iff {x y : PyStr} (hx : x ≠ multiLevel) (hy : y ≠ multiLevel) :
    compatible (segment x) (segment y) = true ↔
      ¬(x ≠ singleLevel ∧ y ≠ singleLevel ∧ x ≠ y) := by
  by_cases hxs : x = singleLevel
  · simp [hxs, compatible]
  · by_cases hys : y = singleLevel
    · simp [hys, segment_of_ne hx hxs, compatible]
    · simp [segment_of_ne hx hxs, segment_of_ne hy hys, compatible, hxs, hys]

/-- The loop of {lit}`filters_overlap` with its remainder test is the overlap test. -/
theorem filtersOverlapLoop_eq_overlaps (a b : List PyStr) :
    (filtersOverlapLoop (a.zip b)).getD
        (decide (remainingLevels a b = []) || decide (remainingLevels a b = [multiLevel])) =
      overlaps (a.map segment) (b.map segment) := by
  induction a generalizing b with
  | nil =>
      rw [remainingLevels_nil_left]
      cases b with
      | nil => rfl
      | cons y b => simp [filtersOverlapLoop, overlaps, segment_eq_rest_iff]
  | cons x a ih =>
      cases b with
      | nil =>
          rw [remainingLevels_nil_right]
          simp [filtersOverlapLoop, overlaps, segment_eq_rest_iff]
      | cons y b =>
          rw [remainingLevels_cons, List.zip_cons_cons, filtersOverlapLoop, List.map_cons,
            List.map_cons]
          by_cases hx : x = multiLevel
          · rw [if_pos (Or.inl hx), hx]
            rfl
          · by_cases hy : y = multiLevel
            · rw [if_pos (Or.inr hy), hy, segment_multiLevel]
              cases hseg : segment x <;> rfl
            · rw [if_neg (by simp [hx, hy])]
              have hoverlaps : overlaps (segment x :: a.map segment) (segment y :: b.map segment) =
                  (compatible (segment x) (segment y) &&
                    overlaps (a.map segment) (b.map segment)) := by
                have hsx : segment x ≠ .rest := fun h => hx (segment_eq_rest_iff.mp h)
                have hsy : segment y ≠ .rest := fun h => hy (segment_eq_rest_iff.mp h)
                rw [overlaps]
                · exact hsx
                · exact hsy
              rw [hoverlaps]
              by_cases hxy : x ≠ singleLevel ∧ y ≠ singleLevel ∧ x ≠ y
              · have hcompat : compatible (segment x) (segment y) = false := by
                  rw [Bool.eq_false_iff, Ne, compatible_segment_iff hx hy, not_not]
                  exact hxy
                rw [if_pos hxy, hcompat]
                rfl
              · rw [if_neg hxy, (compatible_segment_iff hx hy).mpr hxy, ih b, Bool.true_and]

/-- {lit}`filter_contains` never fails on filters, and decides containment without a clash. -/
theorem filterContains_spec {allowed requested : PyStr} (ha : IsFilter allowed)
    (hr : IsFilter requested) :
    ∃ b, filterContains allowed requested = .ok b ∧
      (b = true ↔ ¬Clash IsSystemLevel (segments allowed) (segments requested) ∧
        contains (segments allowed) (segments requested) = true) := by
  rcases systemMismatch_spec ha hr with ⟨mismatch, hmismatch, hclash⟩
  unfold filterContains
  rw [hmismatch]
  cases mismatch with
  | true =>
      refine ⟨false, rfl, ?_⟩
      simp [hclash.mp rfl]
  | false =>
      have hno : ¬Clash IsSystemLevel (segments allowed) (segments requested) :=
        fun h => Bool.noConfusion (hclash.mpr h)
      have hloop := filterContainsLoop_eq_contains (levels allowed) (levels requested) 0
        (Nat.zero_le _)
      rw [Nat.zero_add, List.drop_zero] at hloop
      refine ⟨_, rfl, ?_⟩
      rw [hloop]
      exact ⟨fun h => ⟨hno, h⟩, fun h => h.2⟩

/-- {lit}`filters_overlap` never fails on filters, and decides overlap without a clash. -/
theorem filtersOverlap_spec {left right : PyStr} (hl : IsFilter left) (hr : IsFilter right) :
    ∃ b, filtersOverlap left right = .ok b ∧
      (b = true ↔ ¬Clash IsSystemLevel (segments left) (segments right) ∧
        overlaps (segments left) (segments right) = true) := by
  rcases systemMismatch_spec hl hr with ⟨mismatch, hmismatch, hclash⟩
  unfold filtersOverlap
  rw [hmismatch]
  cases mismatch with
  | true =>
      refine ⟨false, rfl, ?_⟩
      simp [hclash.mp rfl]
  | false =>
      have hno : ¬Clash IsSystemLevel (segments left) (segments right) :=
        fun h => Bool.noConfusion (hclash.mpr h)
      have hloop := filtersOverlapLoop_eq_overlaps (levels left) (levels right)
      refine ⟨_, rfl, ?_⟩
      rw [segments, segments, ← hloop]
      exact ⟨fun h => ⟨hno, h⟩, fun h => h.2⟩

/-- One filter contains another exactly if its pattern does and they do not clash at system
topics. -/
theorem filterContains_eq_true_iff {allowed requested : PyStr} (ha : IsFilter allowed)
    (hr : IsFilter requested) :
    filterContains allowed requested = .ok true ↔
      contains (segments allowed) (segments requested) = true ∧
        ¬Clash IsSystemLevel (segments allowed) (segments requested) := by
  rcases filterContains_spec ha hr with ⟨b, hb, hiff⟩
  rw [hb, Except.ok.injEq, hiff, and_comm]

/-- Two filters overlap exactly if their patterns do and do not clash at system topics. -/
theorem filtersOverlap_eq_true_iff {left right : PyStr} (hl : IsFilter left)
    (hr : IsFilter right) :
    filtersOverlap left right = .ok true ↔
      overlaps (segments left) (segments right) = true ∧
        ¬Clash IsSystemLevel (segments left) (segments right) := by
  rcases filtersOverlap_spec hl hr with ⟨b, hb, hiff⟩
  rw [hb, Except.ok.injEq, hiff, and_comm]

/-! ## Soundness over topics -/

/-- An allow rule that contains a filter matches every topic the filter matches. -/
theorem mqttMatches_of_filterContains {allowed requested topic : PyStr}
    (ha : IsFilter allowed) (hr : IsFilter requested)
    (hcontains : filterContains allowed requested = .ok true)
    (hmatch : MqttMatches requested topic) : MqttMatches allowed topic := by
  rcases (filterContains_eq_true_iff ha hr).mp hcontains with ⟨hpatterns, hclash⟩
  rw [mqttMatches_iff_sees hr] at hmatch
  rw [mqttMatches_iff_sees ha]
  exact sees_of_contains ha.wellFormed hpatterns hclash hmatch

/-- A block rule that does not overlap a filter matches no topic the filter matches. -/
theorem not_mqttMatches_of_filtersOverlap {blocked requested topic : PyStr}
    (hb : IsFilter blocked) (hr : IsFilter requested)
    (hoverlap : filtersOverlap blocked requested = .ok false)
    (hmatch : MqttMatches requested topic) : ¬MqttMatches blocked topic := by
  intro hblocked
  rcases filtersOverlap_spec hb hr with ⟨b, hspec, hiff⟩
  rw [hspec, Except.ok.injEq] at hoverlap
  rw [mqttMatches_iff_sees hr] at hmatch
  rw [mqttMatches_iff_sees hb] at hblocked
  have htrue : b = true :=
    hiff.mpr ⟨not_clash_of_sees hblocked hmatch, overlaps_of_matches hblocked.1 hmatch.1⟩
  rw [htrue] at hoverlap
  cases hoverlap

/-! ## The rules of validated settings -/

/-- The settings allow well-formed filters only. -/
theorem isFilter_of_allowed {settings : Settings} {rule : PyStr}
    (h : rule ∈ settings.allowedTopicPatterns) : IsFilter rule :=
  isFilter_of_validateAclPattern (validateAclPattern_of_mem settings.allowed_valid h)

/-- The settings block well-formed filters only. -/
theorem isFilter_of_blocked {settings : Settings} {rule : PyStr}
    (h : rule ∈ settings.blockedTopicPatterns) : IsFilter rule :=
  isFilter_of_validateAclPattern (validateAclPattern_of_mem settings.blocked_valid h)

/-- On the subscribe path a valid filter is authorized or refused with the 403, and it is
authorized exactly when it lies within an allowed rule and overlaps no blocked one. -/
theorem authorizeTopic_filter_cases (topicMatchesSub : PyStr → PyStr → Bool)
    (settings : Settings) {filter : PyStr} (hvalid : validateTopic filter true = .ok ()) :
    ∃ permitted : Bool,
      (permitted = true ↔
        (∃ rule ∈ settings.allowedTopicPatterns, filterContains rule filter = .ok true) ∧
          ∀ rule ∈ settings.blockedTopicPatterns, filtersOverlap rule filter ≠ .ok true) ∧
      authorizeTopic topicMatchesSub filter settings true =
        if permitted then .ok () else .error (.httpException 403 "Topic not allowed") := by
  have hfilter := isFilter_of_validateTopic hvalid
  have hcontains : ∀ rule ∈ settings.allowedTopicPatterns,
      ∃ b, filterContains rule filter = .ok b := by
    intro rule hrule
    rcases filterContains_spec (isFilter_of_allowed hrule) hfilter with ⟨b, hb, _⟩
    exact ⟨b, hb⟩
  have hoverlap : ∀ rule ∈ settings.blockedTopicPatterns,
      ∃ b, filtersOverlap rule filter = .ok b := by
    intro rule hrule
    rcases filtersOverlap_spec (isFilter_of_blocked hrule) hfilter with ⟨b, hb, _⟩
    exact ⟨b, hb⟩
  rcases exists_anyM_eq_ok hcontains with ⟨allowed, hallowed, hallowedIff⟩
  rcases exists_anyM_eq_ok hoverlap with ⟨blocked, hblocked, hblockedIff⟩
  refine ⟨allowed && !blocked, ?_, ?_⟩
  · rw [Bool.and_eq_true, hallowedIff, Bool.not_eq_true', ← Bool.not_eq_true, hblockedIff]
    simp
  · unfold authorizeTopic
    simp only [hvalid, hallowed, hblocked]
    cases allowed <;> cases blocked <;> rfl

/-- What is documented of paho's {lit}`topic_matches_sub`: for a filter and a topic that are well
formed it is MQTT topic matching.  By its type it always answers; that its recursion over the
levels meets the interpreter's limit for topics of about a thousand levels is left out. -/
def MatcherDocumented (topicMatchesSub : PyStr → PyStr → Bool) : Prop :=
  ∀ filter topic, IsFilter filter → validateTopic topic false = .ok () →
    (topicMatchesSub filter topic = true ↔ MqttMatches filter topic)

/-- A topic that an authorized filter matches lies within an allowed rule and in no blocked
one. -/
theorem rules_of_mqttMatches {topicMatchesSub : PyStr → PyStr → Bool} {settings : Settings}
    {filter topic : PyStr}
    (hfilter : authorizeTopic topicMatchesSub filter settings true = .ok ())
    (hmatch : MqttMatches filter topic) :
    (∃ rule ∈ settings.allowedTopicPatterns, MqttMatches rule topic) ∧
      ∀ rule ∈ settings.blockedTopicPatterns, ¬MqttMatches rule topic := by
  have hvalid := isFilter_of_validateTopic (validateTopic_of_authorizeTopic hfilter)
  rcases rules_of_authorizeTopic_filter hfilter with ⟨⟨rule, hrule, hcontains⟩, hblocked⟩
  refine ⟨⟨rule, hrule, ?_⟩, ?_⟩
  · exact mqttMatches_of_filterContains (isFilter_of_allowed hrule) hvalid hcontains hmatch
  · intro rule hrule
    exact not_mqttMatches_of_filtersOverlap (isFilter_of_blocked hrule) hvalid
      (hblocked rule hrule) hmatch

/-- The publish path authorizes the valid topics that an authorized filter matches. -/
theorem authorizeTopic_of_mqttMatches {topicMatchesSub : PyStr → PyStr → Bool}
    {settings : Settings} (hmatcher : MatcherDocumented topicMatchesSub) {filter topic : PyStr}
    (hfilter : authorizeTopic topicMatchesSub filter settings true = .ok ())
    (htopic : validateTopic topic false = .ok ()) (hmatch : MqttMatches filter topic) :
    authorizeTopic topicMatchesSub topic settings false = .ok () := by
  rcases rules_of_mqttMatches hfilter hmatch with ⟨⟨rule, hrule, hallowed⟩, hblocked⟩
  refine authorizeTopic_topic_eq_ok_iff.mpr ⟨htopic, ⟨rule, hrule, ?_⟩, ?_⟩
  · exact (hmatcher rule topic (isFilter_of_allowed hrule) htopic).mpr hallowed
  · intro rule hrule
    rw [← Bool.not_eq_true]
    exact fun h =>
      hblocked rule hrule ((hmatcher rule topic (isFilter_of_blocked hrule) htopic).mp h)

end MqttGateway
