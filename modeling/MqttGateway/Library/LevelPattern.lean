import Mathlib.Data.List.Basic
import Mathlib.Tactic.Common

/-!
# Patterns over hierarchical names

A name is a list of levels.  A pattern is a list of segments: a fixed level, a
segment for exactly one arbitrary level, and a segment for any number of further
levels, none included, which closes the pattern.  Some levels may be hidden: a
name that starts with one is not matched by a pattern that starts with a
wildcard segment.

Main results:

- Theorem {lit}`matches_of_contains`: syntactic containment of patterns is sound for
  inclusion of the names they match.
- Theorem {lit}`overlaps_of_matches`: patterns that share a name overlap.
- Theorems {lit}`sees_of_contains` and {lit}`not_clash_of_sees`: the same two facts
  with the hidden levels taken into account.
-/

universe u

namespace Toolkit
namespace LevelPattern

/-- One segment of a pattern. -/
inductive Segment (α : Type u) where
  /-- Exactly this level. -/
  | exactly (a : α)
  /-- Exactly one level, whatever it is. -/
  | one
  /-- Any number of further levels, none included. -/
  | rest
deriving DecidableEq, Repr

/-- A pattern is a list of segments. -/
abbrev Pattern (α : Type u) := List (Segment α)

variable {α : Type u}

/-- A pattern matches a name level by level. -/
inductive Matches : Pattern α → List α → Prop
  | nil : Matches [] []
  | exactly {p : Pattern α} {name : List α} (a : α) :
      Matches p name → Matches (.exactly a :: p) (a :: name)
  | one {p : Pattern α} {name : List α} (a : α) :
      Matches p name → Matches (.one :: p) (a :: name)
  | rest (name : List α) : Matches [.rest] name

/-- The segment for any number of levels stands last, if anywhere. -/
def WellFormed : Pattern α → Prop
  | [] => True
  | .rest :: p => p = []
  | _ :: p => WellFormed p

/-- The pattern starts with a segment that fixes no level. -/
def StartsWild : Pattern α → Prop
  | [] => False
  | .exactly _ :: _ => False
  | _ :: _ => True

theorem matches_nil_iff {p : Pattern α} : Matches p [] ↔ p = [] ∨ p = [.rest] := by
  constructor
  · intro h
    cases h with
    | nil => exact Or.inl rfl
    | rest => exact Or.inr rfl
  · rintro (rfl | rfl)
    · exact Matches.nil
    · exact Matches.rest []

section Decision

variable [DecidableEq α]

/-- Decide whether a pattern matches a name. -/
def matchesName : Pattern α → List α → Bool
  | [], name => name.isEmpty
  | .rest :: p, _ => p.isEmpty
  | .one :: _, [] => false
  | .one :: p, _ :: name => matchesName p name
  | .exactly _ :: _, [] => false
  | .exactly a :: p, b :: name => a = b && matchesName p name

/-- The executable matcher decides the matching relation. -/
theorem matchesName_eq_true_iff (p : Pattern α) (name : List α) :
    matchesName p name = true ↔ Matches p name := by
  constructor
  · intro h
    fun_induction matchesName p name with
    | case1 name =>
        have hnil : name = [] := by simpa using h
        rw [hnil]
        exact Matches.nil
    | case2 p name =>
        have hnil : p = [] := by simpa using h
        rw [hnil]
        exact Matches.rest name
    | case3 p => cases h
    | case4 p a name ih => exact Matches.one a (ih h)
    | case5 a p => cases h
    | case6 a p b name ih =>
        rw [Bool.and_eq_true, decide_eq_true_iff] at h
        rcases h with ⟨rfl, hrest⟩
        exact Matches.exactly a (ih hrest)
  · intro h
    induction h with
    | nil => rfl
    | exactly a _ ih => simpa [matchesName] using ih
    | one a _ ih => simpa [matchesName] using ih
    | rest name => rfl

instance (p : Pattern α) (name : List α) : Decidable (Matches p name) :=
  decidable_of_iff _ (matchesName_eq_true_iff p name)

/-- Every name the second pattern matches fits the first, decided segment by segment. -/
def contains : Pattern α → Pattern α → Bool
  | .rest :: _, _ => true
  | [], q => q.isEmpty
  | _ :: _, [] => false
  | _ :: _, .rest :: _ => false
  | .one :: p, _ :: q => contains p q
  | .exactly _ :: _, .one :: _ => false
  | .exactly a :: p, .exactly b :: q => a = b && contains p q

/-- Two segments can stand for a common level. -/
def compatible : Segment α → Segment α → Bool
  | .exactly a, .exactly b => a = b
  | _, _ => true

/-- The two patterns can match a common name, decided segment by segment. -/
def overlaps : Pattern α → Pattern α → Bool
  | [], q => q.isEmpty || decide (q = [.rest])
  | p, [] => decide (p = [.rest])
  | .rest :: _, _ :: _ => true
  | _ :: _, .rest :: _ => true
  | x :: p, y :: q => compatible x y && overlaps p q

/-! ## Soundness of containment -/

/-- A pattern contained in another matches no name the other misses. -/
theorem matches_of_contains {p q : Pattern α} {name : List α} (hwf : WellFormed p)
    (hpq : contains p q = true) (hq : Matches q name) : Matches p name := by
  fun_induction contains p q generalizing name with
  | case1 p q =>
      have hnil : p = [] := hwf
      rw [hnil]
      exact Matches.rest name
  | case2 q =>
      have hnil : q = [] := by simpa using hpq
      rw [hnil] at hq
      exact hq
  | case3 x p hx => cases hpq
  | case4 x p q hx => cases hpq
  | case5 p y q hy ih =>
      cases hq with
      | exactly b hrest => exact Matches.one b (ih hwf hpq hrest)
      | one b hrest => exact Matches.one b (ih hwf hpq hrest)
      | rest => exact absurd rfl hy
  | case6 a p q => cases hpq
  | case7 a p b q ih =>
      rw [Bool.and_eq_true, decide_eq_true_iff] at hpq
      rcases hpq with ⟨rfl, hrest⟩
      cases hq with
      | exactly _ hname => exact Matches.exactly a (ih hwf hrest hname)

/-! ## Completeness of overlap -/

/-- Two patterns that match a common name overlap. -/
theorem overlaps_of_matches {p q : Pattern α} {name : List α} (hp : Matches p name)
    (hq : Matches q name) : overlaps p q = true := by
  fun_induction overlaps p q generalizing name with
  | case1 q =>
      cases hp
      rcases matches_nil_iff.mp hq with rfl | rfl <;> rfl
  | case2 p hp' =>
      cases hq
      rcases matches_nil_iff.mp hp with rfl | rfl
      · exact absurd rfl hp'
      · rfl
  | case3 => rfl
  | case4 => rfl
  | case5 x p y q hx hy ih =>
      cases hp with
      | exactly a hname =>
          cases hq with
          | exactly _ hname' => simpa [compatible] using ih hname hname'
          | one _ hname' => simpa [compatible] using ih hname hname'
          | rest => exact absurd rfl hy
      | one a hname =>
          cases hq with
          | exactly _ hname' => simpa [compatible] using ih hname hname'
          | one _ hname' => simpa [compatible] using ih hname hname'
          | rest => exact absurd rfl hy
      | rest => exact absurd rfl hx

end Decision

/-! ## Hidden levels -/

section Hidden

variable (hidden : α → Prop)

/-- The first level of a name is hidden from leading wildcards. -/
def HiddenName : List α → Prop
  | [] => False
  | a :: _ => hidden a

/-- A pattern starts with a fixed hidden level. -/
def StartsHidden : Pattern α → Prop
  | .exactly a :: _ => hidden a
  | _ => False

/-- Matching that keeps hidden names from patterns with a leading wildcard. -/
def Sees (p : Pattern α) (name : List α) : Prop :=
  Matches p name ∧ ¬(StartsWild p ∧ HiddenName hidden name)

/-- One of two patterns starts with a hidden level, the other with a wildcard. -/
def Clash (p q : Pattern α) : Prop :=
  (StartsHidden hidden p ∧ StartsWild q) ∨ (StartsHidden hidden q ∧ StartsWild p)

variable {hidden}

/-- A pattern that sees a hidden name starts with that hidden level. -/
theorem startsHidden_of_sees {p : Pattern α} {name : List α} (hp : Sees hidden p name)
    (hname : HiddenName hidden name) : StartsHidden hidden p := by
  rcases hp with ⟨hmatch, hwild⟩
  cases hmatch with
  | nil => exact hname.elim
  | exactly a _ => exact hname
  | one a _ => exact absurd ⟨trivial, hname⟩ hwild
  | rest _ => exact absurd ⟨trivial, hname⟩ hwild

/-- A name matched by a pattern that starts with a hidden level is hidden. -/
theorem hiddenName_of_startsHidden {p : Pattern α} {name : List α}
    (hp : Matches p name) (hstart : StartsHidden hidden p) : HiddenName hidden name := by
  cases hp with
  | exactly a _ => exact hstart
  | nil => exact hstart.elim
  | one a _ => exact hstart.elim
  | rest _ => exact hstart.elim

/-- Containment without a clash is sound for what the patterns see. -/
theorem sees_of_contains [DecidableEq α] {p q : Pattern α} {name : List α}
    (hwf : WellFormed p) (hpq : contains p q = true) (hclash : ¬Clash hidden p q)
    (hq : Sees hidden q name) : Sees hidden p name := by
  refine ⟨matches_of_contains hwf hpq hq.1, ?_⟩
  rintro ⟨hwild, hname⟩
  exact hclash (Or.inr ⟨startsHidden_of_sees hq hname, hwild⟩)

/-- Patterns that see a common name do not clash. -/
theorem not_clash_of_sees {p q : Pattern α} {name : List α} (hp : Sees hidden p name)
    (hq : Sees hidden q name) : ¬Clash hidden p q := by
  rintro (⟨hstart, hwild⟩ | ⟨hstart, hwild⟩)
  · exact hq.2 ⟨hwild, hiddenName_of_startsHidden hp.1 hstart⟩
  · exact hp.2 ⟨hwild, hiddenName_of_startsHidden hq.1 hstart⟩

end Hidden

end LevelPattern
end Toolkit
