import MqttGateway.Core.Grammar
import MqttGateway.Core.Inclusion

/-!
# The algebra of the ACL

Containment is a partial order on filters and overlap a symmetric relation that grows
along it, so authorization is closed downwards.  On a topic without wildcards both
comparisons are MQTT matching, and the two paths of {lit}`authorize_topic` agree.

Main results:

- Theorem {lit}`acl_algebra`: the laws, and that a filter within an authorized one is authorized.
- Theorem {lit}`acl_paths_agree`: a topic is authorized as a topic exactly when it is as a
  subscription.
-/

namespace MqttGateway

open Toolkit
open Toolkit.LevelPattern

/-! ## The laws -/

/-- A filter that one of the two validators accepts. -/
def Accepted (filter : PyStr) : Prop :=
  validateTopic filter true = .ok () ∨ validateAclPattern filter = .ok ()

theorem isFilter_of_accepted {filter : PyStr} (h : Accepted filter) : IsFilter filter := by
  rcases h with htopic | hpattern
  · exact isFilter_of_validateTopic htopic
  · exact isFilter_of_validateAclPattern hpattern

theorem filterContains_refl {a : PyStr} (ha : IsFilter a) : filterContains a a = .ok true := by
  rw [filterContains_eq_true_iff ha ha]
  exact ⟨contains_refl _, not_clash_self _⟩

theorem filterContains_trans {a b c : PyStr} (ha : IsFilter a) (hb : IsFilter b)
    (hc : IsFilter c) (hab : filterContains a b = .ok true)
    (hbc : filterContains b c = .ok true) : filterContains a c = .ok true := by
  rw [filterContains_eq_true_iff ha hb] at hab
  rw [filterContains_eq_true_iff hb hc] at hbc
  rw [filterContains_eq_true_iff ha hc]
  have hoverlaps := overlaps_of_contains_self hb.wellFormed hbc.1
  exact ⟨contains_trans hab.1 hbc.1, not_clash_of_contains hab.1 hab.2 hoverlaps hbc.2⟩

theorem filterContains_antisymm {a b : PyStr} (ha : IsFilter a) (hb : IsFilter b)
    (hab : filterContains a b = .ok true) (hba : filterContains b a = .ok true) : a = b := by
  rw [filterContains_eq_true_iff ha hb] at hab
  rw [filterContains_eq_true_iff hb ha] at hba
  exact segments_injective (contains_antisymm ha.wellFormed hb.wellFormed hab.1 hba.1)

theorem filtersOverlap_refl {a : PyStr} (ha : IsFilter a) : filtersOverlap a a = .ok true := by
  rw [filtersOverlap_eq_true_iff ha ha]
  exact ⟨overlaps_refl _, not_clash_self _⟩

theorem filtersOverlap_comm {a b : PyStr} (ha : IsFilter a) (hb : IsFilter b) :
    filtersOverlap a b = filtersOverlap b a := by
  rcases filtersOverlap_spec ha hb with ⟨x, hx, hxIff⟩
  rcases filtersOverlap_spec hb ha with ⟨y, hy, hyIff⟩
  rw [clash_comm, overlaps_comm, ← hyIff, Bool.coe_iff_coe] at hxIff
  rw [hx, hy, hxIff]

/-- What overlaps a filter overlaps everything that contains it. -/
theorem filtersOverlap_of_filterContains {a b c : PyStr} (ha : IsFilter a) (hb : IsFilter b)
    (hc : IsFilter c) (hab : filterContains a b = .ok true)
    (hbc : filtersOverlap b c = .ok true) : filtersOverlap a c = .ok true := by
  rw [filterContains_eq_true_iff ha hb] at hab
  rw [filtersOverlap_eq_true_iff hb hc] at hbc
  rw [filtersOverlap_eq_true_iff ha hc]
  exact ⟨overlaps_of_contains ha.wellFormed hab.1 hbc.1,
    not_clash_of_contains hab.1 hab.2 hbc.1 hbc.2⟩

/-- A valid filter within an authorized one is authorized. -/
theorem authorizeTopic_of_filterContains {topicMatchesSub : PyStr → PyStr → Bool}
    {settings : Settings} {f g : PyStr}
    (hf : authorizeTopic topicMatchesSub f settings true = .ok ())
    (hg : validateTopic g true = .ok ()) (hfg : filterContains f g = .ok true) :
    authorizeTopic topicMatchesSub g settings true = .ok () := by
  have hfFilter := isFilter_of_validateTopic (validateTopic_of_authorizeTopic hf)
  have hgFilter := isFilter_of_validateTopic hg
  rcases rules_of_authorizeTopic_filter hf with ⟨⟨rule, hrule, hcontains⟩, hblocked⟩
  rcases authorizeTopic_filter_cases topicMatchesSub settings hg with
    ⟨permitted, hpermitted, hresult⟩
  have hyes : permitted = true := by
    rw [hpermitted]
    refine ⟨⟨rule, hrule, ?_⟩, ?_⟩
    · exact filterContains_trans (isFilter_of_allowed hrule) hfFilter hgFilter hcontains hfg
    · intro rule hrule hoverlap
      have hr := isFilter_of_blocked hrule
      rw [filtersOverlap_comm hr hgFilter] at hoverlap
      have hwider := filtersOverlap_of_filterContains hfFilter hgFilter hr hfg hoverlap
      rw [filtersOverlap_comm hfFilter hr, hblocked rule hrule] at hwider
      cases hwider
  rw [hresult, hyes]
  rfl

/-- On accepted filters containment is a partial order, overlap is reflexive and symmetric, and
what overlaps a filter overlaps everything that contains it.  So a valid filter within an
authorized one is authorized. -/
theorem acl_algebra :
    (∀ a, Accepted a → filterContains a a = .ok true) ∧
      (∀ a b c, Accepted a → Accepted b → Accepted c → filterContains a b = .ok true →
        filterContains b c = .ok true → filterContains a c = .ok true) ∧
      (∀ a b, Accepted a → Accepted b → filterContains a b = .ok true →
        filterContains b a = .ok true → a = b) ∧
      (∀ a, Accepted a → filtersOverlap a a = .ok true) ∧
      (∀ a b, Accepted a → Accepted b → filtersOverlap a b = filtersOverlap b a) ∧
      (∀ a b c, Accepted a → Accepted b → Accepted c → filterContains a b = .ok true →
        filtersOverlap b c = .ok true → filtersOverlap a c = .ok true) ∧
      ∀ topicMatchesSub settings f g,
        authorizeTopic topicMatchesSub f settings true = .ok () →
          validateTopic g true = .ok () → filterContains f g = .ok true →
            authorizeTopic topicMatchesSub g settings true = .ok () := by
  refine ⟨?_, ?_, ?_, ?_, ?_, ?_, ?_⟩
  · exact fun a ha => filterContains_refl (isFilter_of_accepted ha)
  · exact fun a b c ha hb hc => filterContains_trans (isFilter_of_accepted ha)
      (isFilter_of_accepted hb) (isFilter_of_accepted hc)
  · exact fun a b ha hb => filterContains_antisymm (isFilter_of_accepted ha)
      (isFilter_of_accepted hb)
  · exact fun a ha => filtersOverlap_refl (isFilter_of_accepted ha)
  · exact fun a b ha hb => filtersOverlap_comm (isFilter_of_accepted ha)
      (isFilter_of_accepted hb)
  · exact fun a b c ha hb hc => filtersOverlap_of_filterContains (isFilter_of_accepted ha)
      (isFilter_of_accepted hb) (isFilter_of_accepted hc)
  · exact fun _ _ _ _ hf hg hfg => authorizeTopic_of_filterContains hf hg hfg

/-- The laws at three filters for devices, each within the one before, and a narrowed
subscription. -/
theorem acl_algebra_devices :
    filterContains (PyStr.lit ['#']) (PyStr.lit ['d', '/', 'a']) = .ok true ∧
      filtersOverlap (PyStr.lit ['#']) (PyStr.lit ['d', '/', 'a']) = .ok true ∧
      authorizeTopic (fun filter topic => decide (MqttMatches filter topic))
        (PyStr.lit ['d', '/', 'a']) Settings.default true = .ok () := by
  rcases acl_algebra with ⟨_, htrans, _, hrefl, _, hmixed, hdown⟩
  have hroot : Accepted (PyStr.lit ['#']) := Or.inr (by decide +kernel)
  have hdevices : Accepted (PyStr.lit ['d', '/', '#']) := Or.inl (by decide +kernel)
  have hdevice : Accepted (PyStr.lit ['d', '/', 'a']) := Or.inl (by decide +kernel)
  have hfirst : filterContains (PyStr.lit ['#']) (PyStr.lit ['d', '/', '#']) = .ok true := by
    decide +kernel
  have hsecond : filterContains (PyStr.lit ['d', '/', '#']) (PyStr.lit ['d', '/', 'a']) =
      .ok true := by
    decide +kernel
  have hcontains := htrans _ _ _ hroot hdevices hdevice hfirst hsecond
  refine ⟨hcontains, hmixed _ _ _ hroot hdevice hdevice hcontains (hrefl _ hdevice), ?_⟩
  exact hdown _ _ (PyStr.lit ['d', '/', '#']) _ (by decide +kernel) (by decide +kernel) hsecond

/-! ## The two paths -/

/-- A topic without wildcard characters is the pattern of its own levels. -/
theorem segments_of_topicName {topic : PyStr} (h : TopicName topic) :
    segments topic = ofName (levels topic) := by
  refine List.map_congr_left fun level hlevel => segment_of_ne ?_ ?_
  · rintro rfl
    exact h.2 ((mem_iff_mem_level (by decide)).mpr ⟨_, hlevel, List.mem_singleton_self hash⟩)
  · rintro rfl
    exact h.1 ((mem_iff_mem_level (by decide)).mpr ⟨_, hlevel, List.mem_singleton_self plus⟩)

/-- A valid topic that is not a shared subscription is a valid filter. -/
theorem validateTopic_filter_of_topic {topic : PyStr} (hvalid : validateTopic topic false = .ok ())
    (hshare : PyStr.startsWith topic sharePrefix = false) : validateTopic topic true = .ok () := by
  rcases validateTopic_topic_eq_ok_iff.mp hvalid with ⟨hencodable, hplus, hhash⟩
  refine validateTopic_filter_eq_ok_iff.mpr ⟨hencodable, ?_, hshare⟩
  rintro ⟨level, index⟩ hitem
  have hlevel := List.fst_mem_of_mem_zipIdx hitem
  have hnoPlus : plus ∉ level :=
    fun h => hplus ((mem_iff_mem_level (by decide)).mpr ⟨level, hlevel, h⟩)
  have hnoHash : hash ∉ level :=
    fun h => hhash ((mem_iff_mem_level (by decide)).mpr ⟨level, hlevel, h⟩)
  simp [filterLevelValid, hnoPlus, hnoHash]

section

variable {rule topic : PyStr}

/-- On a topic without wildcards containment is matching. -/
theorem filterContains_topic (hr : IsFilter rule) (hf : IsFilter topic) (ht : TopicName topic) :
    filterContains rule topic = .ok (decide (MqttMatches rule topic)) := by
  rcases filterContains_spec hr hf with ⟨b, hb, hiff⟩
  rw [segments_of_topicName ht, and_comm, contains_ofName_iff_sees hr.wellFormed,
    ← mqttMatches_iff_sees hr] at hiff
  rw [hb, Except.ok.injEq, Bool.eq_iff_iff, hiff, decide_eq_true_iff]

/-- On a topic without wildcards overlap is matching. -/
theorem filtersOverlap_topic (hr : IsFilter rule) (hf : IsFilter topic) (ht : TopicName topic) :
    filtersOverlap rule topic = .ok (decide (MqttMatches rule topic)) := by
  rcases filtersOverlap_spec hr hf with ⟨b, hb, hiff⟩
  rw [segments_of_topicName ht, and_comm, overlaps_ofName_iff_sees hr.wellFormed,
    ← mqttMatches_iff_sees hr] at hiff
  rw [hb, Except.ok.injEq, Bool.eq_iff_iff, hiff, decide_eq_true_iff]

end

/-- A valid topic that is not a shared subscription is authorized as a topic exactly when it is
as a subscription: each rule contains it, overlaps it and matches it at once. -/
theorem acl_paths_agree {topicMatchesSub : PyStr → PyStr → Bool}
    (hmatcher : MatcherDocumented topicMatchesSub) (settings : Settings) {topic : PyStr}
    (hvalid : validateTopic topic false = .ok ())
    (hshare : PyStr.startsWith topic sharePrefix = false) :
    (∀ rule, validateAclPattern rule = .ok () →
        filterContains rule topic = .ok (topicMatchesSub rule topic) ∧
          filtersOverlap rule topic = .ok (topicMatchesSub rule topic)) ∧
      (authorizeTopic topicMatchesSub topic settings false = .ok () ∧
          authorizeTopic topicMatchesSub topic settings true = .ok () ∨
        authorizeTopic topicMatchesSub topic settings false =
            .error (.httpException 403 "Topic not allowed") ∧
          authorizeTopic topicMatchesSub topic settings true =
            .error (.httpException 403 "Topic not allowed")) := by
  have hname : TopicName topic := (validateTopic_topic_eq_ok_iff.mp hvalid).2
  have hfilter := validateTopic_filter_of_topic hvalid hshare
  have hf := isFilter_of_validateTopic hfilter
  have hmatches : ∀ rule, IsFilter rule →
      decide (MqttMatches rule topic) = topicMatchesSub rule topic := by
    intro rule hr
    rw [Bool.eq_iff_iff, decide_eq_true_iff, hmatcher rule topic hr hvalid]
  have hrules : ∀ rule, IsFilter rule →
      filterContains rule topic = .ok (topicMatchesSub rule topic) ∧
        filtersOverlap rule topic = .ok (topicMatchesSub rule topic) := by
    intro rule hr
    rw [← hmatches rule hr]
    exact ⟨filterContains_topic hr hf hname, filtersOverlap_topic hr hf hname⟩
  refine ⟨fun rule hrule => hrules rule (isFilter_of_validateAclPattern hrule), ?_⟩
  have hiff : authorizeTopic topicMatchesSub topic settings false = .ok () ↔
      authorizeTopic topicMatchesSub topic settings true = .ok () := by
    rcases authorizeTopic_filter_cases topicMatchesSub settings hfilter with
      ⟨permitted, hpermitted, hresult⟩
    have hallowed : (∃ rule ∈ settings.allowedTopicPatterns,
        filterContains rule topic = .ok true) ↔
          ∃ rule ∈ settings.allowedTopicPatterns, topicMatchesSub rule topic = true :=
      exists_congr fun rule => and_congr_right fun hrule => by
        rw [(hrules rule (isFilter_of_allowed hrule)).1, Except.ok.injEq]
    have hblocked : (∀ rule ∈ settings.blockedTopicPatterns,
        filtersOverlap rule topic ≠ .ok true) ↔
          ∀ rule ∈ settings.blockedTopicPatterns, topicMatchesSub rule topic = false :=
      forall₂_congr fun rule hrule => by
        rw [(hrules rule (isFilter_of_blocked hrule)).2, ne_eq, Except.ok.injEq,
          Bool.not_eq_true]
    rw [hallowed, hblocked] at hpermitted
    rw [authorizeTopic_topic_eq_ok_iff, and_iff_right hvalid, ← hpermitted, hresult]
    cases permitted <;> simp
  rcases authorizeTopic_cases topicMatchesSub settings hvalid with hyes | hno
  · exact Or.inl ⟨hyes, hiff.mp hyes⟩
  · rcases authorizeTopic_cases topicMatchesSub settings hfilter with hyes | hrefused
    · rw [hiff.mpr hyes] at hno
      cases hno
    · exact Or.inr ⟨hno, hrefused⟩

/-- The default settings authorize a device's topic on both paths, with MQTT matching for
paho's matcher. -/
theorem acl_paths_agree_device :
    filterContains (PyStr.lit ['+', '/', 'a']) (PyStr.lit ['d', '/', 'a']) = .ok true ∧
      authorizeTopic (fun filter topic => decide (MqttMatches filter topic))
        (PyStr.lit ['d', '/', 'a']) Settings.default true = .ok () := by
  rcases @acl_paths_agree (fun filter topic => decide (MqttMatches filter topic))
    (fun _ _ _ _ => decide_eq_true_iff) Settings.default (PyStr.lit ['d', '/', 'a'])
    (by decide +kernel) (by decide +kernel) with ⟨hrules, hboth | hnone⟩
  · refine ⟨?_, hboth.2⟩
    rw [(hrules (PyStr.lit ['+', '/', 'a']) (by decide +kernel)).1]
    decide +kernel
  · exact absurd hnone.1 (by decide +kernel)

end MqttGateway
