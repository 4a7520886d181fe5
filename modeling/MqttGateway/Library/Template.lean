import Mathlib.Data.List.Basic

/-!
# Templates of fixed width

A template is a sequence of fixed texts and of capturing groups of a fixed number of
characters from a class: the regular expressions in which no choice is left to the
matcher.

Main results:

- Theorem {lit}`fullmatch_eq_some_iff`: a full match with its groups is a filling of the
  template.
-/

namespace Toolkit

universe u

/-- A piece of a template. -/
inductive Piece (α : Type u) where
  /-- Exactly this text. -/
  | literal (text : List α)
  /-- A capturing group: so many characters that are accepted. -/
  | group (accepts : α → Bool) (count : Nat)

/-- A sequence of pieces. -/
abbrev Template (α : Type u) := List (Piece α)

namespace Template

variable {α : Type u}

/-- The groups of a text that the template matches from end to end. -/
def fullmatch [DecidableEq α] : Template α → List α → Option (List (List α))
  | [], text => if text = [] then some [] else none
  | .literal fixed :: rest, text =>
      if fixed.isPrefixOf text then fullmatch rest (text.drop fixed.length) else none
  | .group accepts count :: rest, text =>
      if (text.take count).length = count ∧ (text.take count).all accepts = true then
        (fullmatch rest (text.drop count)).map (text.take count :: ·)
      else none

/-- The texts of a template, with what fills its groups. -/
inductive Fills : Template α → List (List α) → List α → Prop
  | nil : Fills [] [] []
  | literal (fixed : List α) {rest : Template α} {groups : List (List α)} {text : List α}
      (h : Fills rest groups text) : Fills (.literal fixed :: rest) groups (fixed ++ text)
  | group {accepts : α → Bool} {count : Nat} {filling : List α} {rest : Template α}
      {groups : List (List α)} {text : List α} (hlength : filling.length = count)
      (haccepts : ∀ c ∈ filling, accepts c = true) (h : Fills rest groups text) :
      Fills (.group accepts count :: rest) (filling :: groups) (filling ++ text)

theorem fullmatch_of_fills [DecidableEq α] {template : Template α} {groups : List (List α)}
    {text : List α} (h : Fills template groups text) :
    fullmatch template text = some groups := by
  induction h with
  | nil => rfl
  | literal fixed _ ih =>
      rw [fullmatch, if_pos (List.isPrefixOf_iff_prefix.mpr (List.prefix_append _ _)),
        List.drop_left, ih]
  | group hlength haccepts _ ih =>
      rw [fullmatch, ← hlength, List.take_left, List.drop_left, ih,
        if_pos ⟨rfl, List.all_eq_true.mpr haccepts⟩]
      rfl

theorem fills_of_fullmatch [DecidableEq α] {template : Template α} {groups : List (List α)}
    {text : List α} (h : fullmatch template text = some groups) : Fills template groups text := by
  induction template generalizing groups text with
  | nil =>
      rw [fullmatch] at h
      split at h
      · next hnil =>
          cases h
          rw [hnil]
          exact Fills.nil
      · cases h
  | cons piece rest ih =>
      cases piece with
      | literal fixed =>
          rw [fullmatch] at h
          split at h
          · next hprefix =>
              rcases List.isPrefixOf_iff_prefix.mp hprefix with ⟨tail, rfl⟩
              rw [List.drop_left] at h
              exact Fills.literal fixed (ih h)
          · cases h
      | group accepts count =>
          rw [fullmatch] at h
          split at h
          · next htaken =>
              rcases Option.map_eq_some_iff.mp h with ⟨others, hrest, rfl⟩
              have hfills := Fills.group htaken.1 (List.all_eq_true.mp htaken.2) (ih hrest)
              rwa [List.take_append_drop] at hfills
          · cases h

/-- A full match with its groups is a filling of the template. -/
theorem fullmatch_eq_some_iff [DecidableEq α] {template : Template α} {groups : List (List α)}
    {text : List α} : fullmatch template text = some groups ↔ Fills template groups text :=
  ⟨fills_of_fullmatch, fullmatch_of_fills⟩

end Template
end Toolkit
