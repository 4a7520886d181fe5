import MqttGateway.Core.Config
import MqttGateway.Library.Separated

/-!
# Lists of topics in one text

The ACL lists of the settings and the topics of a websocket request are texts with commas.
They are read as separated lists, so that a list of filters without commas and without
blanks at their ends is read back from its text, and nothing else is ever read.

Main results:

- Theorem {lit}`configured_patterns_round_trip`: which ACL lists a text can configure.
-/

namespace MqttGateway

open Toolkit

/-- The separator of the lists. -/
def comma : Utf8.CodePoint := PyStr.char ','

/-- The text of a list of topics. -/
def joinTopics (topics : List PyStr) : PyStr :=
  Separated.join comma topics

/-- A topic that can stand in a text of topics. -/
def Listable (topic : PyStr) : Prop :=
  Separated.Entry comma PyStr.isSpace topic

/-- The patterns of a text are its entries. -/
theorem parsePatterns_text (v : PyStr) :
    parsePatterns (.inl v) = Separated.entries comma PyStr.isSpace v :=
  rfl

theorem parsePatterns_joinTopics {patterns : List PyStr}
    (h : ∀ pattern ∈ patterns, Listable pattern) :
    parsePatterns (.inl (joinTopics patterns)) = patterns :=
  Separated.entries_join h

theorem listable_of_mem_parsePatterns {v pattern : PyStr}
    (h : pattern ∈ parsePatterns (.inl v)) : Listable pattern :=
  Separated.entry_of_mem_entries h

/-- What is validated is returned. -/
theorem eq_of_validateAclPatterns {patterns result : List PyStr}
    (h : validateAclPatterns patterns = .ok result) : result = patterns := by
  unfold validateAclPatterns at h
  cases hforM : forM patterns validateAclPattern with
  | error e =>
      rw [hforM] at h
      cases h
  | ok _ =>
      rw [hforM] at h
      cases h
      rfl

/-- A list of patterns is configured by its text exactly when it is valid as a list and each of
its patterns can stand in a text; and what any text configures, its own text configures
again. -/
theorem configured_patterns_round_trip (patterns : List PyStr) :
    (loadPatterns (.inl (joinTopics patterns)) = .ok patterns ↔
        loadPatterns (.inr patterns) = .ok patterns ∧
          ∀ pattern ∈ patterns, Listable pattern) ∧
      ∀ v, loadPatterns (.inl v) = .ok patterns →
        loadPatterns (.inl (joinTopics patterns)) = .ok patterns := by
  have hback : ∀ v, loadPatterns (.inl v) = .ok patterns →
      loadPatterns (.inr patterns) = .ok patterns ∧ ∀ pattern ∈ patterns, Listable pattern := by
    intro v h
    have hparsed : patterns = parsePatterns (.inl v) := eq_of_validateAclPatterns h
    refine ⟨?_, ?_⟩
    · rw [loadPatterns, ← hparsed] at h
      exact h
    · intro pattern hmem
      rw [hparsed] at hmem
      exact listable_of_mem_parsePatterns hmem
  refine ⟨⟨hback _, ?_⟩, ?_⟩
  · rintro ⟨hvalid, hlistable⟩
    rw [loadPatterns, parsePatterns_joinTopics hlistable]
    exact hvalid
  · intro v h
    have hparsed : patterns = parsePatterns (.inl v) := eq_of_validateAclPatterns h
    have hagain : parsePatterns (.inl (joinTopics patterns)) = parsePatterns (.inl v) := by
      rw [hparsed, parsePatterns_text, parsePatterns_text]
      exact Separated.entries_join_entries v
    rw [loadPatterns, hagain]
    exact h

end MqttGateway
