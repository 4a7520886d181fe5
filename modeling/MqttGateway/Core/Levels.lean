import MqttGateway.Core.Config
import MqttGateway.Library.Separated

/-!
# The levels of a topic

What {lit}`topic.split("/")` says about the characters of a topic: where its levels begin
and end, and which topic has given levels.

Main results:

- Theorem {lit}`levels_append`: the levels of two topics written one after the other.
- Theorem {lit}`exists_levels_eq`: levels without a slash are the levels of a topic, which
  theorem {lit}`levels_injective` makes the only one.
- Theorem {lit}`exists_split_of_levels`: a character that stands in a level stands in the
  topic, with the levels before and after it.
- Theorems {lit}`first_level_eq_nil_iff` and {lit}`last_level_eq_nil_iff`: what an empty first
  or last level says about the topic.
-/

namespace MqttGateway

open Toolkit

/-- The levels of a topic, character by character. -/
theorem levels_cons (c : Utf8.CodePoint) (tail : PyStr) :
    levels (c :: tail) =
      if c = slash then [] :: levels tail else (levels tail).modifyHead (List.cons c) := by
  have hsplit := List.splitOn_cons_eq_if_modifyHead (a := slash) c tail
  simpa only [levels, beq_iff_eq] using hsplit

/-- A slash begins a new level. -/
theorem levels_cons_slash (tail : PyStr) : levels (slash :: tail) = [] :: levels tail := by
  rw [levels_cons, if_pos rfl]

/-- Any other character belongs to the first level. -/
theorem levels_cons_of_ne {c : Utf8.CodePoint} (hc : c ≠ slash) {tail level : PyStr}
    {rest : List PyStr} (h : levels tail = level :: rest) :
    levels (c :: tail) = (c :: level) :: rest := by
  rw [levels_cons, if_neg hc, h, List.modifyHead_cons]

/-- Every topic has a level. -/
theorem levels_ne_nil (topic : PyStr) : levels topic ≠ [] :=
  List.splitOn_ne_nil slash topic

/-- The first level starts with the topic's first character, unless that is a slash. -/
theorem exists_levels_eq_cons (topic : PyStr) :
    ∃ level rest, levels topic = level :: rest ∧
      ∀ c, c ≠ slash → (topic.head? = some c ↔ level.head? = some c) := by
  cases topic with
  | nil => exact ⟨[], [], rfl, fun _ _ => Iff.rfl⟩
  | cons c tail =>
      by_cases hc : c = slash
      · refine ⟨[], levels tail, ?_, ?_⟩
        · rw [hc, levels_cons_slash]
        · intro d hd
          have hcd : c ≠ d := fun h => hd (h ▸ hc)
          simp [hcd]
      · cases hlevels : levels tail with
        | nil => exact absurd hlevels (levels_ne_nil tail)
        | cons level rest =>
            refine ⟨c :: level, rest, levels_cons_of_ne hc hlevels, ?_⟩
            intro d _
            simp

/-- No level has a slash in it. -/
theorem slash_not_mem_of_mem_levels {topic level : PyStr} (h : level ∈ levels topic) :
    slash ∉ level :=
  Separated.not_mem_of_mem_splitOn h

/-- The levels determine the topic. -/
theorem levels_injective {f g : PyStr} (h : levels f = levels g) : f = g := by
  have hf : [slash].intercalate (levels f) = f := List.intercalate_splitOn slash
  have hg : [slash].intercalate (levels g) = g := List.intercalate_splitOn slash
  rw [← hf, h, hg]

/-- Levels without a slash are the levels of a topic. -/
theorem exists_levels_eq {ls : List PyStr} (hne : ls ≠ []) (h : ∀ level ∈ ls, slash ∉ level) :
    ∃ topic, levels topic = ls :=
  ⟨[slash].intercalate ls, List.splitOn_intercalate slash h hne⟩

/-- The last level of one topic and the first level of the next one become one level. -/
theorem levels_append {x y left right : PyStr} {older newer : List PyStr}
    (hx : levels x = older ++ [left]) (hy : levels y = right :: newer) :
    levels (x ++ y) = older ++ (left ++ right) :: newer := by
  induction x generalizing older left with
  | nil =>
      have hempty : older = [] ∧ left = [] := by
        have h : [[]] = older ++ [left] := hx
        cases older with
        | nil => simpa [eq_comm] using h
        | cons first older => simp at h
      rw [hempty.1, hempty.2]
      exact hy
  | cons c x ih =>
      by_cases hc : c = slash
      · rw [hc, levels_cons_slash] at hx
        rw [List.cons_append, hc, levels_cons_slash]
        cases older with
        | nil =>
            rw [List.nil_append, List.cons.injEq] at hx
            exact absurd hx.2 (levels_ne_nil x)
        | cons first older =>
            rw [List.cons_append, List.cons.injEq] at hx
            rw [ih hx.2, ← hx.1, List.cons_append]
      · cases hlevels : levels x with
        | nil => exact absurd hlevels (levels_ne_nil x)
        | cons level rest =>
            rw [levels_cons_of_ne hc hlevels] at hx
            rw [List.cons_append]
            cases older with
            | nil =>
                rw [List.nil_append, List.cons.injEq] at hx
                rw [hx.2] at hlevels
                have hjoined : levels (x ++ y) = [] ++ (level ++ right) :: newer := ih hlevels
                rw [levels_cons_of_ne hc hjoined, ← hx.1]
                rfl
            | cons first older =>
                rw [List.cons_append, List.cons.injEq] at hx
                rw [hx.2, ← List.cons_append] at hlevels
                rw [levels_cons_of_ne hc (ih hlevels), ← hx.1]
                rfl

/-- A character of a level stands in the topic between the levels before and after it. -/
theorem exists_split_of_levels {topic u v : PyStr} {c : Utf8.CodePoint}
    {older newer : List PyStr} (h : levels topic = older ++ (u ++ c :: v) :: newer) :
    ∃ before after, topic = before ++ c :: after ∧ levels before = older ++ [u] ∧
      levels after = v :: newer := by
  have hclean : ∀ level ∈ older ++ (u ++ c :: v) :: newer, slash ∉ level := by
    intro level hlevel
    rw [← h] at hlevel
    exact slash_not_mem_of_mem_levels hlevel
  have hmiddle : slash ∉ u ++ c :: v := hclean _ (by simp)
  simp only [List.mem_append, List.mem_cons, not_or] at hmiddle
  have hbefore : ∃ before, levels before = older ++ [u] := by
    apply exists_levels_eq
    · simp
    · intro level hlevel
      rcases List.mem_append.mp hlevel with holder | hu
      · exact hclean level (List.mem_append_left _ holder)
      · rw [List.mem_singleton.mp hu]
        exact hmiddle.1
  have hafter : ∃ after, levels after = v :: newer := by
    apply exists_levels_eq
    · simp
    · intro level hlevel
      rcases List.mem_cons.mp hlevel with rfl | hnewer
      · exact hmiddle.2.2
      · exact hclean level (List.mem_append_right _ (List.mem_cons_of_mem _ hnewer))
  rcases hbefore with ⟨before, hbefore⟩
  rcases hafter with ⟨after, hafter⟩
  refine ⟨before, after, levels_injective ?_, hbefore, hafter⟩
  rw [h, levels_append hbefore (levels_cons_of_ne (Ne.symm hmiddle.2.1) hafter)]

/-- The level that a character of a topic stands in. -/
theorem exists_levels_of_split (before after : PyStr) {c : Utf8.CodePoint} (hc : c ≠ slash) :
    ∃ older left right newer, levels before = older ++ [left] ∧ levels after = right :: newer ∧
      levels (before ++ c :: after) = older ++ (left ++ c :: right) :: newer ∧
      (left ++ c :: right, older.length) ∈ (levels (before ++ c :: after)).zipIdx := by
  have hbefore := (List.dropLast_append_getLast (levels_ne_nil before)).symm
  cases hafter : levels after with
  | nil => exact absurd hafter (levels_ne_nil after)
  | cons right newer =>
      have hlevels := levels_append hbefore (levels_cons_of_ne hc hafter)
      refine ⟨_, _, right, newer, hbefore, rfl, hlevels, ?_⟩
      rw [hlevels, List.mem_zipIdx_iff_getElem?]
      simp

/-- The characters of a topic are those of its levels, apart from the slashes. -/
theorem mem_iff_mem_level {topic : PyStr} {c : Utf8.CodePoint} (hc : c ≠ slash) :
    c ∈ topic ↔ ∃ level ∈ levels topic, c ∈ level := by
  constructor
  · intro h
    rcases List.append_of_mem h with ⟨before, after, rfl⟩
    rcases exists_levels_of_split before after hc with
      ⟨older, left, right, newer, _, _, hlevels, _⟩
    refine ⟨left ++ c :: right, ?_, by simp⟩
    rw [hlevels]
    simp
  · rintro ⟨level, hlevel, hmem⟩
    rcases List.append_of_mem hlevel with ⟨older, newer, hlevels⟩
    rcases List.append_of_mem hmem with ⟨left, right, rfl⟩
    rcases exists_split_of_levels hlevels with ⟨before, after, rfl, _⟩
    simp

/-- The first level is empty exactly if the topic is, or starts with a slash. -/
theorem first_level_eq_nil_iff {topic right : PyStr} {newer : List PyStr}
    (h : levels topic = right :: newer) :
    right = [] ↔ topic = [] ∨ topic.head? = some slash := by
  cases topic with
  | nil =>
      have hempty : right = [] ∧ newer = [] := by simpa [levels, eq_comm] using h
      simp [hempty.1]
  | cons c tail =>
      by_cases hc : c = slash
      · rw [hc, levels_cons_slash, List.cons.injEq] at h
        simp [hc, h.1.symm]
      · cases hlevels : levels tail with
        | nil => exact absurd hlevels (levels_ne_nil tail)
        | cons level rest =>
            rw [levels_cons_of_ne hc hlevels, List.cons.injEq] at h
            simp [hc, h.1.symm]

/-- The last level is empty exactly if the topic is, or ends with a slash. -/
theorem last_level_eq_nil_iff {topic left : PyStr} {older : List PyStr}
    (h : levels topic = older ++ [left]) :
    left = [] ↔ topic = [] ∨ topic.getLast? = some slash := by
  rcases List.eq_nil_or_concat' topic with rfl | ⟨init, c, rfl⟩
  · have hlast := congrArg List.getLast? h
    simp [levels] at hlast
    simp [hlast]
  · by_cases hc : c = slash
    · have hsplit : levels (init ++ [slash]) = levels init ++ [[]] :=
        List.splitOn_append_cons_self init []
      rw [hc, hsplit] at h
      have hlast := List.append_inj_right' h rfl
      simp [hc, (List.cons.inj hlast).1.symm]
    · have hsingle : levels [c] = [[c]] := levels_cons_of_ne hc rfl
      have hinit : levels init = (levels init).dropLast ++
          [(levels init).getLast (levels_ne_nil init)] :=
        (List.dropLast_append_getLast (levels_ne_nil init)).symm
      rw [levels_append hinit hsingle] at h
      have hlast := List.append_inj_right' h rfl
      simp [hc, (List.cons.inj hlast).1.symm]

/-- Only the empty topic has one empty level and no other. -/
theorem levels_eq_singleton_nil_iff {topic : PyStr} : levels topic = [[]] ↔ topic = [] := by
  constructor
  · intro h
    exact levels_injective (g := []) h
  · rintro rfl
    rfl

end MqttGateway
