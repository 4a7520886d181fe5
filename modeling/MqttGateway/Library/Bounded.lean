import Mathlib.Data.List.DropRight
import Mathlib.Tactic.Common

/-!
# Buffers that keep the newest elements

A buffer with a limit that drops its oldest element to make room holds the last
elements of everything that was ever put in, and stays that way when elements
are taken from its old end.

Main results:

- Theorem {lit}`pushBounded_rtake`: pushing commutes with keeping the last elements.
- Theorem {lit}`rtake_cons`: what is left after a take are the newest elements after the
  one that was taken.
-/

namespace Toolkit

universe u

variable {α : Type u}

/-- Append to a buffer and drop the oldest element if the limit is exceeded. -/
def pushBounded (limit : Nat) (buffer : List α) (x : α) : List α :=
  let extended := buffer ++ [x]
  if limit < extended.length then extended.tail else extended

theorem pushBounded_ne_nil {limit : Nat} (hlimit : 1 ≤ limit) (buffer : List α) (x : α) :
    pushBounded limit buffer x ≠ [] := by
  intro hnil
  have hlength := congrArg List.length hnil
  unfold pushBounded at hlength
  simp only [List.length_append, List.length_singleton, List.length_nil] at hlength
  split at hlength
  · rw [List.length_tail, List.length_append, List.length_singleton] at hlength
    omega
  · rw [List.length_append, List.length_singleton] at hlength
    omega

theorem length_rtake (limit : Nat) (xs : List α) :
    (xs.rtake limit).length = min limit xs.length := by
  rw [List.rtake, List.length_drop]
  omega

theorem rtake_of_length_le {limit : Nat} {xs : List α} (h : xs.length ≤ limit) :
    xs.rtake limit = xs := by
  rw [List.rtake, Nat.sub_eq_zero_of_le h, List.drop_zero]

theorem rtake_suffix (limit : Nat) (xs : List α) : xs.rtake limit <:+ xs :=
  List.drop_suffix _ _

/-- A buffer of the last elements has the last elements after a push. -/
theorem pushBounded_rtake (limit : Nat) (xs : List α) (x : α) :
    pushBounded limit (xs.rtake limit) x = (xs ++ [x]).rtake limit := by
  unfold pushBounded
  simp only [List.length_append, List.length_singleton, length_rtake]
  by_cases hfull : limit ≤ xs.length
  · have hskip : xs.length + 1 - limit = xs.length - limit + 1 := by omega
    rw [if_pos (by omega), List.rtake, List.rtake, List.length_append, List.length_singleton,
      hskip, ← List.tail_drop, List.drop_append_of_le_length (by omega)]
  · rw [if_neg (by omega), rtake_of_length_le (by omega), rtake_of_length_le]
    rw [List.length_append, List.length_singleton]
    omega

/-- The oldest element of a buffer of the last elements, taken out. -/
theorem rtake_cons {limit : Nat} {xs rest : List α} {x : α}
    (h : xs.rtake limit = x :: rest) :
    (∃ older, xs = older ++ x :: rest) ∧ rest.rtake limit = rest := by
  constructor
  · rcases rtake_suffix limit xs with ⟨older, holder⟩
    exact ⟨older, by rw [← holder, h]⟩
  · apply rtake_of_length_le
    have hlength := length_rtake limit xs
    rw [h, List.length_cons] at hlength
    omega

/-- Keeping the last elements of every list of a family keeps a sublist of them all. -/
theorem flatten_rtake_sublist (limit : Nat) (xss : List (List α)) :
    (xss.map fun xs => xs.rtake limit).flatten.Sublist xss.flatten := by
  induction xss with
  | nil => exact List.Sublist.slnil
  | cons xs xss ih => exact (rtake_suffix limit xs).sublist.append ih

end Toolkit
