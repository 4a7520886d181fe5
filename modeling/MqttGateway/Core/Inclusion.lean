import MqttGateway.Core.Matching
import MqttGateway.Library.PatternOrder

/-!
# The filter comparisons over topic names

{lit}`filter_contains` and {lit}`filters_overlap` look at the text of two filters.  What they say
about the topic names the filters match: overlap is exactly a shared name, and
containment is exactly inclusion of the names, except that {lit}`+/#` matches what {lit}`#`
does and is not taken to contain it.

Main results:

- Theorem {lit}`filterContains_exact_iff`: the pairs of filters on which {lit}`filter_contains`
  decides inclusion.
- Theorem {lit}`filtersOverlap_exact`: {lit}`filters_overlap` decides whether two filters share a
  topic name.
-/

namespace MqttGateway

open Toolkit
open Toolkit.LevelPattern

/-- A topic name: levels without wildcard characters.  The empty text is the name of one
empty level. -/
def TopicName (topic : PyStr) : Prop :=
  plus ∉ topic ∧ hash ∉ topic

instance (topic : PyStr) : Decidable (TopicName topic) :=
  inferInstanceAs (Decidable (_ ∧ _))

/-! ## Topic names from levels -/

/-- A level without the characters that mean something in a filter. -/
structure PlainLevel (level : PyStr) : Prop where
  slash : slash ∉ level
  plus : plus ∉ level
  hash : hash ∉ level

theorem segment_eq_exactly_iff {level a : PyStr} :
    segment level = .exactly a ↔ level = a ∧ level ≠ multiLevel ∧ level ≠ singleLevel := by
  unfold segment
  split
  · next h => simp [h]
  · next h =>
      split
      · next h' => simp [h']
      · next h' => simp [h, h']

theorem segment_injective {x y : PyStr} (h : segment x = segment y) : x = y := by
  by_cases hm : y = multiLevel
  · rw [hm] at h ⊢
    exact segment_eq_rest_iff.mp h
  · by_cases hs : y = singleLevel
    · rw [hs] at h ⊢
      unfold segment at h
      split at h
      · cases h
      · split at h
        · assumption
        · cases h
    · rw [segment_of_ne hm hs, segment_eq_exactly_iff] at h
      exact h.1

theorem segments_injective {f g : PyStr} (h : segments f = segments g) : f = g :=
  levels_injective (List.map_injective_iff.mpr (fun _ _ => segment_injective) h)

theorem segments_ne_nil (filter : PyStr) : segments filter ≠ [] := by
  simpa [segments] using levels_ne_nil filter

/-- A level that a filter fixes is plain. -/
theorem plainLevel_of_exactly {filter a : PyStr} (hf : IsFilter filter)
    (h : .exactly a ∈ segments filter) : PlainLevel a := by
  rcases List.mem_map.mp h with ⟨level, hlevel, hsegment⟩
  rcases segment_eq_exactly_iff.mp hsegment with ⟨rfl, hm, hs⟩
  exact ⟨slash_not_mem_of_mem_levels hlevel, fun h => hs (hf.plus_alone level hlevel h),
    fun h => hm (hf.hash_alone level hlevel h)⟩

/-- Plain levels are the levels of a topic name. -/
theorem exists_topicName {name : List PyStr} (hne : name ≠ [])
    (h : ∀ level ∈ name, PlainLevel level) : ∃ topic, TopicName topic ∧ levels topic = name := by
  rcases exists_levels_eq hne fun level hlevel => (h level hlevel).slash with ⟨topic, hlevels⟩
  refine ⟨topic, ⟨?_, ?_⟩, hlevels⟩
  · rw [mem_iff_mem_level (by decide), hlevels]
    rintro ⟨level, hlevel, hplus⟩
    exact (h level hlevel).plus hplus
  · rw [mem_iff_mem_level (by decide), hlevels]
    rintro ⟨level, hlevel, hhash⟩
    exact (h level hlevel).hash hhash

/-- A level that a filter does not have and that says nothing to a filter. -/
structure FreshLevel (filter level : PyStr) : Prop where
  plain : PlainLevel level
  nonempty : level ≠ []
  visible : ¬IsSystemLevel level
  fresh : .exactly level ∉ segments filter

/-- Every filter leaves a level that is longer than all its own. -/
theorem exists_freshLevel (filter : PyStr) : ∃ level, FreshLevel filter level := by
  let letter := PyStr.char 'x'
  let size := (levels filter).flatten.length
  have hletter : ∀ c, c ∈ List.replicate (size + 1) letter → c = letter :=
    fun c hc => List.eq_of_mem_replicate hc
  refine ⟨List.replicate (size + 1) letter, ⟨?_, ?_, ?_⟩, ?_, ?_, ?_⟩
  · exact fun h => absurd (hletter _ h) (by decide)
  · exact fun h => absurd (hletter _ h) (by decide)
  · exact fun h => absurd (hletter _ h) (by decide)
  · simp
  · intro h
    have hhead : letter = dollar := by
      simpa [IsSystemLevel, List.replicate_succ] using h
    exact absurd hhead (by decide)
  · intro h
    rcases List.mem_map.mp h with ⟨level, hlevel, hsegment⟩
    have hlength := (List.sublist_flatten_of_mem hlevel).length_le
    rw [(segment_eq_exactly_iff.mp hsegment).1, List.length_replicate] at hlength
    exact absurd hlength (Nat.not_succ_le_self size)

/-! ## Inclusion -/

/-- Plain levels matched by what a filter sees are the levels of a topic name it matches. -/
theorem exists_topicName_of_sees {filter : PyStr} (hf : IsFilter filter) {name : List PyStr}
    (hname : Sees IsSystemLevel (segments filter) name) (hne : name ≠ [])
    (hplain : ∀ level ∈ name, PlainLevel level) :
    ∃ topic, TopicName topic ∧ levels topic = name ∧ MqttMatches filter topic := by
  rcases exists_topicName hne hplain with ⟨topic, htopic, hlevels⟩
  refine ⟨topic, htopic, hlevels, ?_⟩
  rw [mqttMatches_iff_sees hf, hlevels]
  exact hname

theorem plainLevel_of_levelsFrom {filter level x : PyStr} {name : List PyStr}
    (hf : IsFilter filter) (hx : PlainLevel x) (hname : LevelsFrom x (segments filter) name)
    (hlevel : level ∈ name) : PlainLevel level := by
  rcases hname level hlevel with rfl | hexactly
  · exact hx
  · exact plainLevel_of_exactly hf hexactly

/-- A filter that matches no topic name that an allow rule misses lies within the rule, unless
the two are {lit}`#` and {lit}`+/#`. -/
theorem filterContains_of_includes {allowed requested : PyStr} (ha : IsFilter allowed)
    (hr : IsFilter requested)
    (hexception : ¬(allowed = PyStr.lit ['+', '/', '#'] ∧ requested = PyStr.lit ['#']))
    (h : ∀ topic, TopicName topic → MqttMatches requested topic → MqttMatches allowed topic) :
    filterContains allowed requested = .ok true := by
  rcases exists_freshLevel allowed with ⟨x, hx⟩
  rw [filterContains_eq_true_iff ha hr]
  refine contains_of_sees (D := fun name => name ≠ []) hx.fresh hx.visible ha.wellFormed
    hr.wellFormed (segments_ne_nil _) (fun a name _ => List.cons_ne_nil a name) ?_ ?_
  · rintro ⟨hallowed, hrequested⟩
    exact hexception ⟨segments_injective hallowed, segments_injective hrequested⟩
  · intro name hne hlevels hsees
    rcases exists_topicName_of_sees hr hsees hne fun _ hlevel =>
      plainLevel_of_levelsFrom hr hx.plain hlevels hlevel with ⟨topic, htopic, rfl, hmatch⟩
    rw [← mqttMatches_iff_sees ha]
    exact h topic htopic hmatch

/-- The same for the topic names that are not empty, with two more pairs. -/
theorem filterContains_of_includes_ne {allowed requested : PyStr} (ha : IsFilter allowed)
    (hr : IsFilter requested)
    (hexception : ¬(allowed = PyStr.lit ['+', '/', '#'] ∧ requested = PyStr.lit ['#']))
    (hexception' : ¬((allowed = PyStr.lit ['+', '/', '+', '/', '#'] ∨
      allowed = PyStr.lit ['/', '+', '/', '#']) ∧ requested = PyStr.lit ['/', '#']))
    (h : ∀ topic, TopicName topic → topic ≠ [] → MqttMatches requested topic →
      MqttMatches allowed topic) :
    filterContains allowed requested = .ok true := by
  rcases exists_freshLevel allowed with ⟨x, hx⟩
  rw [filterContains_eq_true_iff ha hr]
  refine contains_of_sees_ne (e := []) hx.fresh hx.nonempty hx.visible ha.wellFormed
    hr.wellFormed (segments_ne_nil _) ?_ ?_ ?_ ?_
  · intro hempty
    exact hr.nonempty (segments_injective (g := []) hempty)
  · rintro ⟨hallowed, hrequested⟩
    exact hexception ⟨segments_injective hallowed, segments_injective hrequested⟩
  · rintro ⟨hallowed, hrequested⟩
    refine hexception' ⟨?_, segments_injective hrequested⟩
    rcases hallowed with htwo | hone
    · exact Or.inl (segments_injective htwo)
    · exact Or.inr (segments_injective hone)
  · intro name hne hempty hlevels hsees
    rcases exists_topicName_of_sees hr hsees hne fun _ hlevel =>
      plainLevel_of_levelsFrom hr hx.plain hlevels hlevel with ⟨topic, htopic, rfl, hmatch⟩
    rw [← mqttMatches_iff_sees ha]
    exact h topic htopic (fun hnil => hempty (levels_eq_singleton_nil_iff.mpr hnil)) hmatch

/-- {lit}`#` matches no topic name that {lit}`+/#` misses. -/
theorem mqttMatches_wildFirst {topic : PyStr} (h : MqttMatches (PyStr.lit ['#']) topic) :
    MqttMatches (PyStr.lit ['+', '/', '#']) topic := by
  refine ⟨?_, h.2⟩
  rcases exists_levels_eq_cons topic with ⟨level, rest, hlevels, _⟩
  rw [hlevels]
  exact Matches.one level (Matches.rest rest)

/-- {lit}`/#` matches no topic name but the empty one that {lit}`/+/#` and {lit}`+/+/#` miss. -/
theorem mqttMatches_wildSecond {topic : PyStr} (h : MqttMatches (PyStr.lit ['/', '#']) topic)
    (hne : topic ≠ []) :
    MqttMatches (PyStr.lit ['/', '+', '/', '#']) topic ∧
      MqttMatches (PyStr.lit ['+', '/', '+', '/', '#']) topic := by
  rcases exists_levels_eq_cons topic with ⟨level, rest, hlevels, hhead⟩
  have hmatch : Matches [.exactly [], .rest] (level :: rest) := by
    rw [← hlevels]
    exact h.1
  cases hmatch with
  | exactly _ _ =>
      have hsystem : PyStr.startsWith topic [dollar] = false := by
        rw [← Bool.not_eq_true, startsWith_dollar_iff, hhead dollar (by decide)]
        simp
      cases rest with
      | nil => exact absurd (levels_eq_singleton_nil_iff.mp hlevels) hne
      | cons second rest =>
          have hrest : Matches [.one, .rest] (second :: rest) :=
            Matches.one second (Matches.rest rest)
          refine ⟨⟨?_, by simp [hsystem]⟩, ⟨?_, by simp [hsystem]⟩⟩
          · rw [hlevels]
            exact Matches.exactly [] hrest
          · rw [hlevels]
            exact Matches.one [] hrest

/-- {lit}`filter_contains` decides inclusion of the topic names, except that it does not find
{lit}`#` within {lit}`+/#`.  Where the empty text is no topic name, it does not find {lit}`/#`
within {lit}`/+/#` and {lit}`+/+/#` either. -/
theorem filterContains_exact_iff {allowed requested : PyStr}
    (hallowed : validateAclPattern allowed = .ok ())
    (hrequested : validateTopic requested true = .ok ()) :
    ((filterContains allowed requested = .ok true ↔
          ∀ topic, TopicName topic → MqttMatches requested topic → MqttMatches allowed topic) ↔
        ¬(allowed = PyStr.lit ['+', '/', '#'] ∧ requested = PyStr.lit ['#'])) ∧
      ((filterContains allowed requested = .ok true ↔
          ∀ topic, TopicName topic → topic ≠ [] → MqttMatches requested topic →
            MqttMatches allowed topic) ↔
        ¬((allowed = PyStr.lit ['+', '/', '#'] ∧ requested = PyStr.lit ['#']) ∨
          ((allowed = PyStr.lit ['+', '/', '+', '/', '#'] ∨
              allowed = PyStr.lit ['/', '+', '/', '#']) ∧
            requested = PyStr.lit ['/', '#']))) := by
  have ha := isFilter_of_validateAclPattern hallowed
  have hr := isFilter_of_validateTopic hrequested
  have hsound : filterContains allowed requested = .ok true →
      ∀ topic, MqttMatches requested topic → MqttMatches allowed topic :=
    fun h _ hmatch => mqttMatches_of_filterContains ha hr h hmatch
  refine ⟨⟨?_, ?_⟩, ⟨?_, ?_⟩⟩
  · rintro hexact ⟨rfl, rfl⟩
    have hfound := hexact.mpr fun _ _ hmatch => mqttMatches_wildFirst hmatch
    exact absurd hfound (by decide +kernel)
  · intro hexception
    exact ⟨fun h topic _ hmatch => hsound h topic hmatch,
      filterContains_of_includes ha hr hexception⟩
  · rintro hexact (⟨rfl, rfl⟩ | ⟨rfl | rfl, rfl⟩)
    · have hfound := hexact.mpr fun _ _ _ hmatch => mqttMatches_wildFirst hmatch
      exact absurd hfound (by decide +kernel)
    · have hfound := hexact.mpr fun _ _ hne hmatch => (mqttMatches_wildSecond hmatch hne).2
      exact absurd hfound (by decide +kernel)
    · have hfound := hexact.mpr fun _ _ hne hmatch => (mqttMatches_wildSecond hmatch hne).1
      exact absurd hfound (by decide +kernel)
  · intro hexception
    rw [not_or] at hexception
    exact ⟨fun h topic _ _ hmatch => hsound h topic hmatch,
      filterContains_of_includes_ne ha hr hexception.1 hexception.2⟩

/-- A rule for one level of every device contains a filter for one device. -/
theorem filterContains_exact_iff_device :
    filterContains (PyStr.lit ['d', '/', '+']) (PyStr.lit ['d', '/', 'a']) = .ok true ∧
      ∀ topic, TopicName topic → MqttMatches (PyStr.lit ['d', '/', 'a']) topic →
        MqttMatches (PyStr.lit ['d', '/', '+']) topic := by
  have hcontains :
      filterContains (PyStr.lit ['d', '/', '+']) (PyStr.lit ['d', '/', 'a']) = .ok true := by
    decide +kernel
  have hexact := (@filterContains_exact_iff (PyStr.lit ['d', '/', '+'])
    (PyStr.lit ['d', '/', 'a']) (by decide +kernel) (by decide +kernel)).1.mpr (by decide)
  exact ⟨hcontains, hexact.mp hcontains⟩

/-- {lit}`+/#` matches every topic name that {lit}`#` matches and is not found to contain it. -/
theorem wildFirst_not_found :
    ¬∀ allowed requested, validateAclPattern allowed = .ok () →
      validateTopic requested true = .ok () →
        (filterContains allowed requested = .ok true ↔
          ∀ topic, TopicName topic → MqttMatches requested topic →
            MqttMatches allowed topic) := by
  intro hall
  have hexact := hall (PyStr.lit ['+', '/', '#']) (PyStr.lit ['#']) (by decide +kernel)
    (by decide +kernel)
  have hfound := hexact.mpr fun _ _ hmatch => mqttMatches_wildFirst hmatch
  exact absurd hfound (by decide +kernel)

/-! ## Intersection -/

/-- Filters overlap exactly when they share a topic name. -/
theorem filtersOverlap_iff_shared {left right : PyStr} (hl : IsFilter left)
    (hr : IsFilter right) :
    filtersOverlap left right = .ok true ↔
      ∃ topic, TopicName topic ∧ MqttMatches left topic ∧ MqttMatches right topic := by
  rw [filtersOverlap_eq_true_iff hl hr]
  constructor
  · rintro ⟨hoverlaps, hclash⟩
    rcases exists_freshLevel left with ⟨x, hx⟩
    rcases sees_meet hx.visible hl.wellFormed hr.wellFormed hoverlaps hclash with
      ⟨hleft, hright⟩
    have hplain : ∀ level ∈ meet x (segments left) (segments right), PlainLevel level := by
      intro level hlevel
      rcases levelsFrom_meet x _ _ level hlevel with rfl | hmem
      · exact hx.plain
      · rcases List.mem_append.mp hmem with hmem | hmem
        · exact plainLevel_of_exactly hl hmem
        · exact plainLevel_of_exactly hr hmem
    rcases exists_topicName_of_sees hl hleft
      (meet_ne_nil x (segments_ne_nil left) (segments_ne_nil right)) hplain with
      ⟨topic, htopic, hlevels, hmatch⟩
    refine ⟨topic, htopic, hmatch, ?_⟩
    rw [mqttMatches_iff_sees hr, hlevels]
    exact hright
  · rintro ⟨topic, _, hleft, hright⟩
    rw [mqttMatches_iff_sees hl] at hleft
    rw [mqttMatches_iff_sees hr] at hright
    exact ⟨overlaps_of_matches hleft.1 hright.1, not_clash_of_sees hleft hright⟩

/-- {lit}`filters_overlap` decides whether two filters share a topic name.  So a valid filter
that lies within an allowed rule is refused exactly when it shares a name with a blocked
one. -/
theorem filtersOverlap_exact :
    (∀ left right, validateAclPattern left = .ok () → validateAclPattern right = .ok () →
        (filtersOverlap left right = .ok true ↔
          ∃ topic, TopicName topic ∧ MqttMatches left topic ∧ MqttMatches right topic)) ∧
      ∀ topicMatchesSub settings filter, validateTopic filter true = .ok () →
        (∃ rule ∈ settings.allowedTopicPatterns, filterContains rule filter = .ok true) →
          (authorizeTopic topicMatchesSub filter settings true =
              .error (.httpException 403 "Topic not allowed") ↔
            ∃ rule ∈ settings.blockedTopicPatterns, ∃ topic,
              TopicName topic ∧ MqttMatches rule topic ∧ MqttMatches filter topic) := by
  constructor
  · intro left right hl hr
    exact filtersOverlap_iff_shared (isFilter_of_validateAclPattern hl)
      (isFilter_of_validateAclPattern hr)
  · intro topicMatchesSub settings filter hvalid hallowed
    have hf := isFilter_of_validateTopic hvalid
    rcases authorizeTopic_filter_cases topicMatchesSub settings hvalid with
      ⟨permitted, hpermitted, hresult⟩
    have hshared : (∃ rule ∈ settings.blockedTopicPatterns, ∃ topic,
        TopicName topic ∧ MqttMatches rule topic ∧ MqttMatches filter topic) ↔
          permitted = false := by
      rw [← Bool.not_eq_true, hpermitted]
      constructor
      · rintro ⟨rule, hrule, hshares⟩ ⟨_, hblocked⟩
        exact hblocked rule hrule
          ((filtersOverlap_iff_shared (isFilter_of_blocked hrule) hf).mpr hshares)
      · intro hnot
        by_contra hnone
        refine hnot ⟨hallowed, fun rule hrule hoverlap => hnone ⟨rule, hrule, ?_⟩⟩
        exact (filtersOverlap_iff_shared (isFilter_of_blocked hrule) hf).mp hoverlap
    rw [hshared, hresult]
    cases permitted <;> simp

/-- A filter for a device shares a name with another filter, and with nothing that the default
settings block. -/
theorem filtersOverlap_exact_defaults :
    (∃ topic, TopicName topic ∧ MqttMatches (PyStr.lit ['d', '/', '#']) topic ∧
        MqttMatches (PyStr.lit ['+', '/', 'a']) topic) ∧
      ¬∃ rule ∈ Settings.default.blockedTopicPatterns, ∃ topic,
        TopicName topic ∧ MqttMatches rule topic ∧
          MqttMatches (PyStr.lit ['d', '/', '#']) topic := by
  have hshared := (filtersOverlap_exact.1 (PyStr.lit ['d', '/', '#'])
    (PyStr.lit ['+', '/', 'a']) (by decide +kernel) (by decide +kernel)).mp (by decide +kernel)
  have hrefused := filtersOverlap_exact.2 (fun filter topic => decide (MqttMatches filter topic))
    Settings.default (PyStr.lit ['d', '/', '#']) (by decide +kernel)
    ⟨[hash], by decide, by decide +kernel⟩
  refine ⟨hshared, ?_⟩
  rw [← hrefused]
  decide +kernel

end MqttGateway
