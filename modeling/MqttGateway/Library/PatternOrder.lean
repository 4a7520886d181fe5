import MqttGateway.Library.LevelPattern

/-!
# The order of patterns

Containment of patterns is a partial order and overlap a symmetric relation that
grows along it.  Both are tests on the text of the patterns; with a level that no
pattern fixes at hand, they are also exact for the names the patterns match: a
name shared by two overlapping patterns is built level by level, and a pattern
that is not contained in another one matches a name that the other one misses.
The one exception comes from names having at least one level.

Main results:

- Theorems {lit}`contains_refl`, {lit}`contains_trans` and {lit}`contains_antisymm`: containment
  is a partial order on well-formed patterns.
- Theorem {lit}`overlaps_of_contains`: what overlaps a pattern overlaps everything that
  contains it.
- Theorem {lit}`sees_meet`: overlapping patterns that do not clash see a common name.
- Theorems {lit}`contains_ofName_iff_sees` and {lit}`overlaps_ofName_iff_sees`: for the pattern of
  one name both tests ask whether the name is seen.
- Theorems {lit}`contains_of_sees` and {lit}`contains_of_sees_ne`: a pattern that sees every
  name another one sees contains it, except that {lit}`[one, rest]` sees what {lit}`[rest]`
  does.
-/

universe u

namespace Toolkit
namespace LevelPattern

variable {α : Type u}

/-- What is left of a well-formed pattern is well formed. -/
theorem wellFormed_tail {x : Segment α} {p : Pattern α} (h : WellFormed (x :: p)) :
    WellFormed p := by
  cases x with
  | exactly a => exact h
  | one => exact h
  | rest =>
      have hnil : p = [] := h
      rw [hnil]
      trivial

section Algebra

variable [DecidableEq α]

/-! ## Containment -/

/-- Every pattern contains itself. -/
theorem contains_refl (p : Pattern α) : contains p p = true := by
  induction p with
  | nil => rfl
  | cons x p ih => cases x <;> simp [contains, ih]

/-- Containment is transitive. -/
theorem contains_trans {p q r : Pattern α} (hpq : contains p q = true)
    (hqr : contains q r = true) : contains p r = true := by
  fun_induction contains p q generalizing r with
  | case1 p q => rfl
  | case2 q =>
      have hq : q = [] := by simpa using hpq
      rwa [hq] at hqr
  | case3 x p hx => cases hpq
  | case4 x p q hx => cases hpq
  | case5 p y q hy ih =>
      cases r with
      | nil => cases y <;> simp [contains] at hqr hy
      | cons z r =>
          cases y <;> cases z <;> simp_all [contains]
  | case6 a p q => cases hpq
  | case7 a p b q ih =>
      rw [Bool.and_eq_true, decide_eq_true_iff] at hpq
      rcases hpq with ⟨rfl, hpq⟩
      cases r with
      | nil => cases hqr
      | cons z r => cases z <;> simp_all [contains]

/-- Well-formed patterns that contain each other are equal. -/
theorem contains_antisymm {p q : Pattern α} (hp : WellFormed p) (hq : WellFormed q)
    (hpq : contains p q = true) (hqp : contains q p = true) : p = q := by
  fun_induction contains p q with
  | case1 p q =>
      have hnil : p = [] := hp
      subst hnil
      cases q with
      | nil => cases hqp
      | cons y q =>
          cases y with
          | exactly b => cases hqp
          | one => cases hqp
          | rest =>
              have hnil : q = [] := hq
              rw [hnil]
  | case2 q =>
      have hnil : q = [] := by simpa using hpq
      exact hnil.symm
  | case3 x p hx => cases hpq
  | case4 x p q hx => cases hpq
  | case5 p y q hy ih =>
      cases y with
      | exactly b => cases hqp
      | one => rw [ih hp hq hpq hqp]
      | rest => exact absurd rfl hy
  | case6 a p q => cases hpq
  | case7 a p b q ih =>
      rw [Bool.and_eq_true, decide_eq_true_iff] at hpq
      rcases hpq with ⟨rfl, hpq⟩
      have hrest : contains q p = true := by simpa [contains] using hqp
      rw [ih hp hq hpq hrest]

/-! ## Overlap -/

/-- Every pattern overlaps itself. -/
theorem overlaps_refl (p : Pattern α) : overlaps p p = true := by
  induction p with
  | nil => rfl
  | cons x p ih => cases x <;> simp [overlaps, compatible, ih]

/-- Overlap is symmetric. -/
theorem overlaps_comm (p q : Pattern α) : overlaps p q = overlaps q p := by
  induction p generalizing q with
  | nil => cases q <;> simp [overlaps]
  | cons x p ih =>
      cases q with
      | nil => simp [overlaps]
      | cons y q => cases x <;> cases y <;> simp [overlaps, compatible, ih, eq_comm]

/-- What overlaps a pattern overlaps everything that contains it. -/
theorem overlaps_of_contains {p q r : Pattern α} (hp : WellFormed p)
    (hpq : contains p q = true) (hqr : overlaps q r = true) : overlaps p r = true := by
  fun_induction contains p q generalizing r with
  | case1 p q =>
      have hnil : p = [] := hp
      subst hnil
      cases r <;> simp [overlaps]
  | case2 q =>
      have hnil : q = [] := by simpa using hpq
      rwa [hnil] at hqr
  | case3 x p hx => cases hpq
  | case4 x p q hx => cases hpq
  | case5 p y q hy ih =>
      cases r with
      | nil =>
          cases y with
          | exactly b => simp [overlaps] at hqr
          | one => simp [overlaps] at hqr
          | rest => exact absurd rfl hy
      | cons z r =>
          cases z with
          | rest => simp [overlaps]
          | one =>
              have hrest : overlaps q r = true := by
                cases y <;> simp_all [overlaps, compatible]
              simpa [overlaps, compatible] using ih hp hpq hrest
          | exactly c =>
              have hrest : overlaps q r = true := by
                cases y <;> simp_all [overlaps, compatible]
              simpa [overlaps, compatible] using ih hp hpq hrest
  | case6 a p q => cases hpq
  | case7 a p b q ih =>
      rw [Bool.and_eq_true, decide_eq_true_iff] at hpq
      rcases hpq with ⟨rfl, hpq⟩
      cases r with
      | nil => simp [overlaps] at hqr
      | cons z r =>
          cases z with
          | rest => simp [overlaps]
          | one =>
              have hrest : overlaps q r = true := by
                simpa [overlaps, compatible] using hqr
              simpa [overlaps, compatible] using ih hp hpq hrest
          | exactly c =>
              have hrest : a = c ∧ overlaps q r = true := by
                simpa [overlaps, compatible] using hqr
              simpa [overlaps, compatible, hrest.1] using ih hp hpq hrest.2

/-- A contained pattern overlaps the one that contains it. -/
theorem overlaps_of_contains_self {p q : Pattern α} (hp : WellFormed p)
    (hpq : contains p q = true) : overlaps p q = true :=
  overlaps_of_contains hp hpq (overlaps_refl q)

end Algebra

/-! ## Names of a pattern -/

/-- The level a segment fixes, or a given one. -/
def Segment.level (x : α) : Segment α → α
  | .exactly a => a
  | .one | .rest => x

/-- A name of a pattern, with a given level wherever none is fixed. -/
def fill (x : α) (p : Pattern α) : List α :=
  p.map (Segment.level x)

/-- A common name of two overlapping patterns, with a given level wherever neither fixes one. -/
def meet (x : α) : Pattern α → Pattern α → List α
  | [], _ => []
  | _ :: _, [] => []
  | .rest :: _, q => fill x q
  | p, .rest :: _ => fill x p
  | .exactly a :: p, _ :: q => a :: meet x p q
  | .one :: p, y :: q => y.level x :: meet x p q

/-- Every level of a name is a given one or fixed by a pattern. -/
def LevelsFrom (x : α) (p : Pattern α) (name : List α) : Prop :=
  ∀ a ∈ name, a = x ∨ .exactly a ∈ p

/-- Every level of a filled pattern is the given one or fixed by the pattern. -/
theorem levelsFrom_fill (x : α) (p : Pattern α) : LevelsFrom x p (fill x p) := by
  intro a ha
  rcases List.mem_map.mp ha with ⟨y, hy, rfl⟩
  cases y with
  | exactly b => exact Or.inr hy
  | one => exact Or.inl rfl
  | rest => exact Or.inl rfl

/-- The levels that a pattern fixes are fixed by every pattern that has its segments. -/
theorem LevelsFrom.mono {x : α} {p q : Pattern α} {name : List α} (h : LevelsFrom x p name)
    (hsub : p ⊆ q) : LevelsFrom x q name := by
  intro a ha
  rcases h a ha with hx | hmem
  · exact Or.inl hx
  · exact Or.inr (hsub hmem)

theorem levelsFrom_cons {x a : α} {y : Segment α} {p : Pattern α} {name : List α}
    (ha : a = x ∨ y = .exactly a) (h : LevelsFrom x p name) :
    LevelsFrom x (y :: p) (a :: name) := by
  refine List.forall_mem_cons.mpr ⟨?_, h.mono (List.subset_cons_self y p)⟩
  rcases ha with hx | rfl
  · exact Or.inl hx
  · exact Or.inr List.mem_cons_self

/-- A well-formed pattern matches the name it is filled to. -/
theorem matches_fill (x : α) {p : Pattern α} (hp : WellFormed p) : Matches p (fill x p) := by
  induction p with
  | nil => exact Matches.nil
  | cons y p ih =>
      have hrest := ih (wellFormed_tail hp)
      cases y with
      | exactly a => exact Matches.exactly a hrest
      | one => exact Matches.one x hrest
      | rest =>
          have hnil : p = [] := hp
          rw [hnil]
          exact Matches.rest _

/-- Every level of a common name is the given one or fixed by one of the patterns. -/
theorem levelsFrom_meet (x : α) (p q : Pattern α) : LevelsFrom x (p ++ q) (meet x p q) := by
  have hgrow : ∀ (y z : Segment α) (p q : Pattern α), p ++ q ⊆ y :: p ++ z :: q := by
    intro y z p q
    have htail : p ++ q ⊆ p ++ z :: q :=
      (List.Sublist.append_left (List.sublist_cons_self z q) p).subset
    exact List.subset_cons_of_subset y htail
  fun_induction meet x p q with
  | case1 q =>
      intro a ha
      cases ha
  | case2 y p =>
      intro a ha
      cases ha
  | case3 p q => exact (levelsFrom_fill x q).mono (List.subset_append_right _ q)
  | case4 p q hp => exact (levelsFrom_fill x p).mono (List.subset_append_left p _)
  | case5 a p y q hy ih =>
      refine List.forall_mem_cons.mpr ⟨Or.inr List.mem_cons_self, ?_⟩
      exact ih.mono (hgrow (.exactly a) y p q)
  | case6 p y q hy ih =>
      refine List.forall_mem_cons.mpr ⟨?_, ih.mono (hgrow .one y p q)⟩
      cases y with
      | exactly c => exact Or.inr (by simp [Segment.level])
      | one => exact Or.inl rfl
      | rest => exact Or.inl rfl

/-- The common name of two patterns that have a level has one. -/
theorem meet_ne_nil (x : α) {p q : Pattern α} (hp : p ≠ []) (hq : q ≠ []) : meet x p q ≠ [] := by
  fun_cases meet x p q <;> simp_all [fill]

/-! ## Completeness of the two tests -/

/-- Overlapping patterns match the name built from both. -/
theorem matches_meet [DecidableEq α] (x : α) {p q : Pattern α} (hp : WellFormed p)
    (hq : WellFormed q) (h : overlaps p q = true) :
    Matches p (meet x p q) ∧ Matches q (meet x p q) := by
  induction p generalizing q with
  | nil =>
      have hname : meet x [] q = [] := by cases q <;> rfl
      rw [hname]
      refine ⟨Matches.nil, matches_nil_iff.mpr ?_⟩
      simpa [overlaps] using h
  | cons y p ih =>
      cases q with
      | nil =>
          refine ⟨matches_nil_iff.mpr (Or.inr ?_), Matches.nil⟩
          simpa [overlaps] using h
      | cons z q =>
          have hp' := wellFormed_tail hp
          have hq' := wellFormed_tail hq
          cases y with
          | rest =>
              have hnil : p = [] := hp
              subst hnil
              exact ⟨Matches.rest _, matches_fill x hq⟩
          | exactly a =>
              cases z with
              | rest =>
                  have hnil : q = [] := hq
                  subst hnil
                  exact ⟨matches_fill x hp, Matches.rest _⟩
              | exactly b =>
                  have hboth : a = b ∧ overlaps p q = true := by
                    simpa [overlaps, compatible] using h
                  rcases hboth with ⟨rfl, hrest⟩
                  rcases ih hp' hq' hrest with ⟨hmp, hmq⟩
                  exact ⟨Matches.exactly a hmp, Matches.exactly a hmq⟩
              | one =>
                  have hrest : overlaps p q = true := by
                    simpa [overlaps, compatible] using h
                  rcases ih hp' hq' hrest with ⟨hmp, hmq⟩
                  exact ⟨Matches.exactly a hmp, Matches.one a hmq⟩
          | one =>
              cases z with
              | rest =>
                  have hnil : q = [] := hq
                  subst hnil
                  exact ⟨matches_fill x hp, Matches.rest _⟩
              | exactly b =>
                  have hrest : overlaps p q = true := by
                    simpa [overlaps, compatible] using h
                  rcases ih hp' hq' hrest with ⟨hmp, hmq⟩
                  exact ⟨Matches.one b hmp, Matches.exactly b hmq⟩
              | one =>
                  have hrest : overlaps p q = true := by
                    simpa [overlaps, compatible] using h
                  rcases ih hp' hq' hrest with ⟨hmp, hmq⟩
                  exact ⟨Matches.one x hmp, Matches.one x hmq⟩

/-- The level of a segment is the given one or fixed by the segment. -/
theorem level_eq (x : α) (y : Segment α) : y.level x = x ∨ y = .exactly (y.level x) := by
  cases y with
  | exactly a => exact Or.inr rfl
  | one => exact Or.inl rfl
  | rest => exact Or.inl rfl

/-- A segment in front of a pattern matches its level in front of a name. -/
theorem matches_level_cons (x : α) {y : Segment α} {q : Pattern α} {name : List α}
    (hy : y ≠ .rest) (h : Matches q name) : Matches (y :: q) (y.level x :: name) := by
  cases y with
  | exactly a => exact Matches.exactly a h
  | one => exact Matches.one x h
  | rest => exact absurd rfl hy

/-- A pattern that matches every name of another one contains it. -/
theorem contains_of_matches [DecidableEq α] {x : α} {p q : Pattern α} (hx : .exactly x ∉ p)
    (hp : WellFormed p) (hq : WellFormed q)
    (h : ∀ name, LevelsFrom x q name → Matches q name → Matches p name) :
    contains p q = true := by
  have hfill := h (fill x q) (levelsFrom_fill x q) (matches_fill x hq)
  fun_induction contains p q with
  | case1 p q => rfl
  | case2 q =>
      cases q with
      | nil => rfl
      | cons y q => cases hfill
  | case3 y p hy =>
      have hnil := h [] (by intro a ha; cases ha) Matches.nil
      cases hnil
      exact absurd rfl hy
  | case4 y p q hy =>
      have hrest : q = [] := hq
      subst hrest
      have hnil := h [] (by intro a ha; cases ha) (Matches.rest [])
      cases hnil
      exact absurd rfl hy
  | case5 p y q hy ih =>
      have hq' := wellFormed_tail hq
      have htail : ∀ name, LevelsFrom x q name → Matches q name → Matches p name := by
        intro name hlevels hname
        have hmatch := h _ (levelsFrom_cons (level_eq x y) hlevels) (matches_level_cons x hy hname)
        cases hmatch with
        | one _ hrest => exact hrest
      exact ih (fun hmem => hx (List.mem_cons_of_mem _ hmem)) hp hq' htail
        (htail _ (levelsFrom_fill x q) (matches_fill x hq'))
  | case6 a p q =>
      cases hfill with
      | exactly _ _ => exact absurd List.mem_cons_self hx
  | case7 a p b q ih =>
      have hq' := wellFormed_tail hq
      have htail : ∀ name, LevelsFrom x q name → Matches q name → a = b ∧ Matches p name := by
        intro name hlevels hname
        have hmatch := h _ (levelsFrom_cons (Or.inr rfl) hlevels) (Matches.exactly b hname)
        cases hmatch with
        | exactly _ hrest => exact ⟨rfl, hrest⟩
      have hfirst := htail _ (levelsFrom_fill x q) (matches_fill x hq')
      rw [Bool.and_eq_true, decide_eq_true_iff]
      exact ⟨hfirst.1, ih (fun hmem => hx (List.mem_cons_of_mem _ hmem)) hp hq'
        (fun name hlevels hname => (htail name hlevels hname).2) hfirst.2⟩

/-- Containment of a pattern that begins with one level is decided by the names that begin with
the given level or the fixed one. -/
theorem contains_cons_of_matches [DecidableEq α] {x : α} {y : Segment α} {p q : Pattern α}
    (hx : .exactly x ∉ p) (hp : WellFormed p) (hq : WellFormed q) (hy : y ≠ .rest)
    (h : ∀ name, LevelsFrom x q name → Matches q name → Matches p (y.level x :: name)) :
    contains p (y :: q) = true := by
  have hfill := h (fill x q) (levelsFrom_fill x q) (matches_fill x hq)
  cases p with
  | nil => cases hfill
  | cons z p =>
      have hx' : .exactly x ∉ p := fun hmem => hx (List.mem_cons_of_mem _ hmem)
      have htail : z ≠ .rest → ∀ name, LevelsFrom x q name → Matches q name → Matches p name := by
        intro hz name hlevels hname
        cases h name hlevels hname with
        | exactly _ hrest => exact hrest
        | one _ hrest => exact hrest
        | rest => exact absurd rfl hz
      cases z with
      | rest => rfl
      | one =>
          rw [contains]
          · exact contains_of_matches hx' hp hq (htail (by simp))
          · exact hy
      | exactly a =>
          have hrest := contains_of_matches hx' hp hq (htail (by simp))
          cases y with
          | exactly b =>
              cases hfill with
              | exactly _ _ => simpa [contains, Segment.level] using hrest
          | one =>
              cases hfill with
              | exactly _ _ => exact absurd List.mem_cons_self hx
          | rest => exact absurd rfl hy

/-! ## Hidden levels -/

section Hidden

variable {hidden : α → Prop}

/-- No pattern clashes with itself. -/
theorem not_clash_self (p : Pattern α) : ¬Clash hidden p p := by
  rcases p with _ | ⟨_ | _ | _, p⟩ <;> simp [Clash, StartsHidden, StartsWild]

/-- Clashing is symmetric. -/
theorem clash_comm {p q : Pattern α} : Clash hidden p q ↔ Clash hidden q p :=
  Or.comm

/-- What contains a pattern without a clash clashes with nothing that the pattern overlaps
without a clash. -/
theorem not_clash_of_contains [DecidableEq α] {p q r : Pattern α} (hpq : contains p q = true)
    (hclash : ¬Clash hidden p q) (hqr : overlaps q r = true) (hclash' : ¬Clash hidden q r) :
    ¬Clash hidden p r := by
  rintro (⟨hstart, hwild⟩ | ⟨hstart, hwild⟩)
  · have hq : StartsHidden hidden q := by
      rcases p with _ | ⟨_ | _ | _, p⟩
      · exact hstart.elim
      · rcases q with _ | ⟨_ | _ | _, q⟩
        · cases hpq
        · rw [contains, Bool.and_eq_true, decide_eq_true_iff] at hpq
          rw [← hpq.1]
          exact hstart
        · cases hpq
        · cases hpq
      · exact hstart.elim
      · exact hstart.elim
    exact hclash' (Or.inl ⟨hq, hwild⟩)
  · rcases r with _ | ⟨c | _ | _, r⟩
    · exact hstart.elim
    · rcases q with _ | ⟨b | _ | _, q⟩
      · simp [overlaps] at hqr
      · have hfirst : b = c ∧ overlaps q r = true := by
          simpa [overlaps, compatible] using hqr
        rw [← hfirst.1] at hstart
        exact hclash (Or.inr ⟨hstart, hwild⟩)
      · exact hclash' (Or.inr ⟨hstart, trivial⟩)
      · exact hclash' (Or.inr ⟨hstart, trivial⟩)
    · exact hstart.elim
    · exact hstart.elim

/-- A hidden level at the head of a common name comes from a pattern that fixes it. -/
theorem startsHidden_of_hiddenName_meet {x : α} (hx : ¬hidden x) {p q : Pattern α}
    (h : HiddenName hidden (meet x p q)) :
    (StartsWild p → StartsHidden hidden q) ∧ (StartsWild q → StartsHidden hidden p) := by
  rcases p with _ | ⟨_ | _ | _, p⟩ <;> rcases q with _ | ⟨_ | _ | _, q⟩ <;>
    simp_all [meet, fill, Segment.level, HiddenName, StartsHidden, StartsWild]

/-- The name built from two overlapping patterns is seen by both unless they clash. -/
theorem sees_meet [DecidableEq α] {x : α} (hx : ¬hidden x) {p q : Pattern α}
    (hp : WellFormed p) (hq : WellFormed q) (h : overlaps p q = true)
    (hclash : ¬Clash hidden p q) :
    Sees hidden p (meet x p q) ∧ Sees hidden q (meet x p q) := by
  rcases matches_meet x hp hq h with ⟨hmp, hmq⟩
  refine ⟨⟨hmp, ?_⟩, ⟨hmq, ?_⟩⟩
  · rintro ⟨hwild, hname⟩
    have hstart := (startsHidden_of_hiddenName_meet hx hname).1 hwild
    exact hclash (Or.inr ⟨hstart, hwild⟩)
  · rintro ⟨hwild, hname⟩
    have hstart := (startsHidden_of_hiddenName_meet hx hname).2 hwild
    exact hclash (Or.inl ⟨hstart, hwild⟩)

/-! ## Patterns without wildcards -/

/-- The pattern of one name. -/
def ofName (name : List α) : Pattern α :=
  name.map .exactly

/-- A name, read as a pattern, matches itself. -/
theorem matches_ofName (name : List α) : Matches (ofName name) name := by
  induction name with
  | nil => exact Matches.nil
  | cons a name ih => exact Matches.exactly a ih

/-- A pattern clashes with a name exactly if it starts with a wildcard and the name is hidden. -/
theorem clash_ofName_iff {p : Pattern α} {name : List α} :
    Clash hidden p (ofName name) ↔ StartsWild p ∧ HiddenName hidden name := by
  cases name with
  | nil => simp [Clash, ofName, StartsHidden, StartsWild, HiddenName]
  | cons a name => simp [Clash, ofName, StartsHidden, StartsWild, HiddenName, and_comm]

/-- A pattern contains the names that it matches. -/
theorem contains_ofName_of_matches [DecidableEq α] {p : Pattern α} {name : List α}
    (h : Matches p name) : contains p (ofName name) = true := by
  induction h with
  | nil => rfl
  | exactly a _ ih => simpa [ofName, contains] using ih
  | one a _ ih => simpa [ofName, contains] using ih
  | rest name => rfl

/-- A well-formed pattern matches the names that it overlaps. -/
theorem matches_of_overlaps_ofName [DecidableEq α] {p : Pattern α} {name : List α}
    (hp : WellFormed p) (h : overlaps p (ofName name) = true) : Matches p name := by
  induction p generalizing name with
  | nil =>
      cases name with
      | nil => exact Matches.nil
      | cons a name => simp [ofName, overlaps] at h
  | cons x p ih =>
      cases name with
      | nil =>
          refine matches_nil_iff.mpr (Or.inr ?_)
          simpa [ofName, overlaps] using h
      | cons a name =>
          cases x with
          | exactly b =>
              have hboth : b = a ∧ overlaps p (ofName name) = true := by
                simpa [ofName, overlaps, compatible] using h
              rw [hboth.1]
              exact Matches.exactly a (ih hp hboth.2)
          | one =>
              have hrest : overlaps p (ofName name) = true := by
                simpa [ofName, overlaps, compatible] using h
              exact Matches.one a (ih hp hrest)
          | rest =>
              have hnil : p = [] := hp
              rw [hnil]
              exact Matches.rest _

/-- Containing the pattern of a name is seeing the name. -/
theorem contains_ofName_iff_sees [DecidableEq α] {p : Pattern α} {name : List α}
    (hp : WellFormed p) :
    contains p (ofName name) = true ∧ ¬Clash hidden p (ofName name) ↔ Sees hidden p name := by
  rw [clash_ofName_iff, Sees]
  constructor
  · rintro ⟨hcontains, hvisible⟩
    exact ⟨matches_of_contains hp hcontains (matches_ofName name), hvisible⟩
  · rintro ⟨hmatch, hvisible⟩
    exact ⟨contains_ofName_of_matches hmatch, hvisible⟩

/-- Overlapping the pattern of a name is seeing the name. -/
theorem overlaps_ofName_iff_sees [DecidableEq α] {p : Pattern α} {name : List α}
    (hp : WellFormed p) :
    overlaps p (ofName name) = true ∧ ¬Clash hidden p (ofName name) ↔ Sees hidden p name := by
  rw [clash_ofName_iff, Sees]
  constructor
  · rintro ⟨hoverlaps, hvisible⟩
    exact ⟨matches_of_overlaps_ofName hp hoverlaps, hvisible⟩
  · rintro ⟨hmatch, hvisible⟩
    exact ⟨overlaps_of_matches hmatch (matches_ofName name), hvisible⟩

/-! ## Completeness over what is seen -/

/-- A pattern that sees what another one sees contains it, except that {lit}`[one, rest]` and
{lit}`[rest]` match the same names.  Only names in a domain are compared; it has every name
that begins with the given level or with the one that the second pattern fixes first. -/
theorem contains_of_sees [DecidableEq α] {x : α} {p q : Pattern α} {D : List α → Prop}
    (hx : .exactly x ∉ p) (hvisible : ¬hidden x) (hp : WellFormed p) (hq : WellFormed q)
    (hne : q ≠ [])
    (hD : ∀ a name, a = x ∨ q.head? = some (.exactly a) → D (a :: name))
    (hexception : ¬(p = [.one, .rest] ∧ q = [.rest]))
    (h : ∀ name, D name → LevelsFrom x q name → Sees hidden q name → Sees hidden p name) :
    contains p q = true ∧ ¬Clash hidden p q := by
  rcases q with _ | ⟨y, q⟩
  · exact absurd rfl hne
  · by_cases hy : y = .rest
    · subst hy
      have hnil : q = [] := hq
      subst hnil
      have hnames : ∀ n, Sees hidden p (x :: List.replicate n x) := by
        intro n
        refine h _ (hD _ _ (Or.inl rfl)) ?_ ⟨Matches.rest _, fun hhidden => hvisible hhidden.2⟩
        intro a ha
        exact Or.inl (List.eq_of_mem_replicate (n := n + 1) ha)
      have hone := (hnames 0).1
      have htwo := (hnames 1).1
      cases hone with
      | exactly _ _ => exact absurd List.mem_cons_self hx
      | one _ hrest =>
          cases htwo with
          | one _ hrest' =>
              rcases matches_nil_iff.mp hrest with rfl | rfl
              · cases hrest'
              · exact absurd ⟨rfl, rfl⟩ hexception
      | rest _ => exact ⟨rfl, by simp [Clash, StartsHidden]⟩
    · have hq' := wellFormed_tail hq
      have hsees : ∀ name, LevelsFrom x q name → Matches q name →
          Sees hidden p (y.level x :: name) := by
        intro name hlevels hname
        refine h _ ?_ (levelsFrom_cons (level_eq x y) hlevels)
          ⟨matches_level_cons x hy hname, ?_⟩
        · refine hD _ _ ?_
          rcases level_eq x y with hlevel | hlevel
          · exact Or.inl hlevel
          · exact Or.inr (congrArg some hlevel)
        · rintro ⟨hwild, hhidden⟩
          cases y with
          | exactly b => exact hwild
          | one => exact hvisible hhidden
          | rest => exact hy rfl
      refine ⟨contains_cons_of_matches hx hp hq' hy fun name hl hm => (hsees name hl hm).1, ?_⟩
      have hfill := hsees _ (levelsFrom_fill x q) (matches_fill x hq')
      rintro (⟨hstart, hwild⟩ | ⟨hstart, hwild⟩)
      · cases y with
        | exactly b => exact hwild
        | one =>
            cases hfill.1 with
            | exactly _ _ => exact hx List.mem_cons_self
            | one _ _ => exact hstart
            | rest _ => exact hstart
        | rest => exact hy rfl
      · cases y with
        | exactly b => exact hfill.2 ⟨hwild, hstart⟩
        | one => exact hstart
        | rest => exact hstart

/-- The same without the name that is one given level, which has two more exceptions. -/
theorem contains_of_sees_ne [DecidableEq α] {x e : α} {p q : Pattern α} (hx : .exactly x ∉ p)
    (hxe : x ≠ e) (hvisible : ¬hidden x) (hp : WellFormed p) (hq : WellFormed q) (hne : q ≠ [])
    (hqe : q ≠ [.exactly e]) (hexception : ¬(p = [.one, .rest] ∧ q = [.rest]))
    (hexception' : ¬((p = [.one, .one, .rest] ∨ p = [.exactly e, .one, .rest]) ∧
      q = [.exactly e, .rest]))
    (h : ∀ name, name ≠ [] → name ≠ [e] → LevelsFrom x q name → Sees hidden q name →
      Sees hidden p name) :
    contains p q = true ∧ ¬Clash hidden p q := by
  by_cases hhead : q.head? = some (.exactly e)
  · rcases q with _ | ⟨y, q⟩
    · exact absurd rfl hne
    · rw [List.head?_cons, Option.some.injEq] at hhead
      subst hhead
      have hq' : WellFormed q := hq
      have hq'ne : q ≠ [] := fun hnil => hqe (by rw [hnil])
      have hsees : ∀ name, name ≠ [] → LevelsFrom x q name → Matches q name →
          Sees hidden p (e :: name) := by
        intro name hname hlevels hmatch
        refine h _ (by simp) (by simp [hname]) (levelsFrom_cons (Or.inr rfl) hlevels) ?_
        exact ⟨Matches.exactly e hmatch, fun hwild => hwild.1⟩
      have hfill := hsees _ (by simpa [fill] using hq'ne) (levelsFrom_fill x q)
        (matches_fill x hq')
      refine ⟨?_, ?_⟩
      · rcases p with _ | ⟨z, p⟩
        · cases hfill.1
        · by_cases hz : z = .rest
          · rw [hz]
            rfl
          · have hp' := wellFormed_tail hp
            have hfirst : z = .one ∨ z = .exactly e := by
              cases hfill.1 with
              | exactly _ _ => exact Or.inr rfl
              | one _ _ => exact Or.inl rfl
              | rest _ => exact absurd rfl hz
            have hrest : contains p q = true ∧ ¬Clash (fun _ => False) p q := by
              refine contains_of_sees (D := fun name => name ≠ [])
                (fun hmem => hx (List.mem_cons_of_mem _ hmem)) id hp' hq' hq'ne ?_ ?_ ?_
              · intro a name _
                exact List.cons_ne_nil a name
              · rintro ⟨rfl, rfl⟩
                rcases hfirst with rfl | rfl
                · exact hexception' ⟨Or.inl rfl, rfl⟩
                · exact hexception' ⟨Or.inr rfl, rfl⟩
              · intro name hname hlevels hmatch
                refine ⟨?_, fun hhidden => ?_⟩
                · cases (hsees name hname hlevels hmatch.1).1 with
                  | exactly _ hrest => exact hrest
                  | one _ hrest => exact hrest
                  | rest _ => exact absurd rfl hz
                · cases name with
                  | nil => exact hhidden.2
                  | cons a name => exact hhidden.2
            rcases hfirst with rfl | rfl
            · simpa [contains] using hrest.1
            · simpa [contains] using hrest.1
      · rintro (⟨_, hwild⟩ | ⟨hstart, hwild⟩)
        · exact hwild
        · exact hfill.2 ⟨hwild, hstart⟩
  · refine contains_of_sees (D := fun name => name ≠ [] ∧ name ≠ [e]) hx hvisible hp hq hne ?_
      hexception fun name hname => h name hname.1 hname.2
    intro a name ha
    refine ⟨List.cons_ne_nil a name, fun heq => ?_⟩
    rw [List.cons.injEq] at heq
    rcases ha with hax | hhead'
    · exact hxe (hax.symm.trans heq.1)
    · rw [heq.1] at hhead'
      exact hhead hhead'

end Hidden

end LevelPattern
end Toolkit
