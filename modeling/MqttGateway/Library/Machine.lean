import Mathlib.Data.List.Basic
import Mathlib.Tactic.Common

/-!
# Labelled machines and their runs

A machine is an initial state and an executable partial step function.  The
label of a step resolves everything the step leaves open: which participant
moves, what its environment answers, which branch a race takes.  A run is a
list of labels, oldest first, that the step function accepts one after the
other.

Main results:

- Theorem {lit}`run_iff_exec`: the inductive runs are the executable ones.
- Theorem {lit}`Run.invariant`: what holds initially and is kept by a step
  after any run holds after every run, with the run itself in reach.
- Theorem {lit}`Run.refines`: a simulation against a total reference machine
  lifts from single steps to whole runs.
- Theorems {lit}`countP_add_rank_le` and {lit}`Run.countP_add_rank_le`: a rank bounds how often
  some labels occur, after a state and in a run.
- Theorem {lit}`GuardedRun.invariant`: the same rule for the runs all of whose
  steps meet a condition.
- Theorems {lit}`exists_exec_of_rank` and {lit}`length_add_rank_le`: steps that lower a rank and
  that can be taken until a goal is reached lead to it, after at most as many steps as
  the rank allows.
- Theorems {lit}`exec_simulates`, {lit}`Run.simulates` and {lit}`GuardedRun.simulates`: a machine
  that does a few steps for each step of another one has a run for each of its runs, with
  the same observations.
-/

namespace Toolkit

universe u v w

/-- An initial state and a partial step function over labels. -/
structure Machine (σ : Type u) (ℓ : Type v) where
  init : σ
  step : σ → ℓ → Option σ

namespace Machine

variable {σ : Type u} {ℓ : Type v} {α : Type w} {M : Machine σ ℓ}

/-! ## Runs -/

/-- Execute a list of labels from a given state. -/
def exec (M : Machine σ ℓ) : σ → List ℓ → Option σ
  | s, [] => some s
  | s, l :: tr => (M.step s l).bind fun s' => M.exec s' tr

/-- The runs of a machine, grown at their newest end. -/
inductive Run (M : Machine σ ℓ) : List ℓ → σ → Prop
  | nil : Run M [] M.init
  | snoc {tr : List ℓ} {s s' : σ} {l : ℓ} :
      Run M tr s → M.step s l = some s' → Run M (tr ++ [l]) s'

/-- A state that some run ends in. -/
def Reachable (M : Machine σ ℓ) (s : σ) : Prop :=
  ∃ tr, M.Run tr s

@[simp]
theorem exec_nil (s : σ) : M.exec s [] = some s :=
  rfl

@[simp]
theorem exec_cons (s : σ) (l : ℓ) (tr : List ℓ) :
    M.exec s (l :: tr) = (M.step s l).bind fun s' => M.exec s' tr :=
  rfl

/-- Executing two lists of labels one after the other. -/
theorem exec_append (s : σ) (tr tr' : List ℓ) :
    M.exec s (tr ++ tr') = (M.exec s tr).bind fun s' => M.exec s' tr' := by
  induction tr generalizing s with
  | nil => rfl
  | cons l tr ih =>
      simp only [List.cons_append, exec_cons]
      cases M.step s l with
      | none => rfl
      | some s' => exact ih s'

/-- A run extended by labels that execute is a run. -/
theorem Run.append {tr tr' : List ℓ} {s s' : σ} (hrun : M.Run tr s)
    (hexec : M.exec s tr' = some s') : M.Run (tr ++ tr') s' := by
  induction tr' generalizing tr s with
  | nil =>
      cases hexec
      simpa using hrun
  | cons l tr' ih =>
      rcases Option.bind_eq_some_iff.mp hexec with ⟨t, hstep, hrest⟩
      have h := ih (hrun.snoc hstep) hrest
      simpa using h

/-- The inductive runs are exactly the executable ones. -/
theorem run_iff_exec {tr : List ℓ} {s : σ} :
    M.Run tr s ↔ M.exec M.init tr = some s := by
  constructor
  · intro hrun
    induction hrun with
    | nil => rfl
    | snoc _ hstep ih =>
        rw [exec_append, ih]
        simp [hstep]
  · intro hexec
    exact Run.nil.append hexec

/-- A run that begins with another one goes on from where that one ends. -/
theorem Run.exec_of_append {tr rest : List ℓ} {s s' : σ} (hrun : M.Run (tr ++ rest) s')
    (hbefore : M.Run tr s) : M.exec s rest = some s' := by
  have hexec := run_iff_exec.mp hrun
  rwa [exec_append, run_iff_exec.mp hbefore, Option.bind_some] at hexec

/-! ## Invariants and refinement -/

/-- What every step keeps, every continuation keeps. -/
theorem exec_invariant {P : σ → Prop}
    (hstep : ∀ s l s', P s → M.step s l = some s' → P s') {tr : List ℓ} {s s' : σ} (hs : P s)
    (hexec : M.exec s tr = some s') : P s' := by
  induction tr generalizing s with
  | nil =>
      cases hexec
      exact hs
  | cons l tr ih =>
      rcases Option.bind_eq_some_iff.mp hexec with ⟨t, hnext, hrest⟩
      exact ih (hstep s l t hs hnext) hrest

/-- The invariant rule, with the run so far available to the step. -/
theorem Run.invariant {P : List ℓ → σ → Prop} (hinit : P [] M.init)
    (hstep : ∀ tr s l s', M.Run tr s → P tr s → M.step s l = some s' → P (tr ++ [l]) s')
    {tr : List ℓ} {s : σ} (hrun : M.Run tr s) : P tr s := by
  induction hrun with
  | nil => exact hinit
  | snoc hrun hs ih => exact hstep _ _ _ _ hrun ih hs

/-- The invariant rule for a property of states alone. -/
theorem Reachable.invariant {P : σ → Prop} (hinit : P M.init)
    (hstep : ∀ s l s', P s → M.step s l = some s' → P s') {s : σ}
    (hs : M.Reachable s) : P s := by
  rcases hs with ⟨tr, hrun⟩
  exact Run.invariant (P := fun _ s => P s) hinit
    (fun _ s l s' _ hp h => hstep s l s' hp h) hrun

/-- A step from a reachable state reaches a state. -/
theorem Reachable.step {s s' : σ} {l : ℓ} (hs : M.Reachable s)
    (hstep : M.step s l = some s') : M.Reachable s' := by
  rcases hs with ⟨tr, hrun⟩
  exact ⟨_, hrun.snoc hstep⟩

/-- Lift a step-wise simulation against a total reference machine to runs. -/
theorem Run.refines {R : σ → α → Prop} {spec : α → ℓ → α} {a₀ : α} (hinit : R M.init a₀)
    (hstep : ∀ s a l s', R s a → M.step s l = some s' → R s' (spec a l))
    {tr : List ℓ} {s : σ} (hrun : M.Run tr s) : R s (tr.foldl spec a₀) := by
  induction hrun with
  | nil => exact hinit
  | snoc _ hs ih =>
      rw [List.foldl_append]
      exact hstep _ _ _ _ ih hs

/-! ## Ranks -/

/-- In what follows a state, labels that lower a rank which no label raises occur at most as often
as the rank allows. -/
theorem countP_add_rank_le (rank : σ → Nat) (p : ℓ → Bool) {I : σ → Prop}
    (hkeep : ∀ s l s', I s → M.step s l = some s' →
      I s' ∧ rank s' ≤ rank s ∧ (p l = true → rank s' < rank s))
    {tr : List ℓ} {s s' : σ} (hs : I s) (hexec : M.exec s tr = some s') :
    I s' ∧ tr.countP p + rank s' ≤ rank s := by
  induction tr generalizing s with
  | nil =>
      cases hexec
      exact ⟨hs, by simp⟩
  | cons l tr ih =>
      rcases Option.bind_eq_some_iff.mp hexec with ⟨t, hstep, hrest⟩
      rcases hkeep s l t hs hstep with ⟨ht, hle, hless⟩
      rcases ih ht hrest with ⟨hs', hcount⟩
      refine ⟨hs', ?_⟩
      rw [List.countP_cons]
      by_cases hp : p l = true
      · have hlower := hless hp
        rw [if_pos hp]
        omega
      · rw [if_neg hp]
        omega

/-- Labels that lower a rank which no label raises occur at most as often as the rank allows. -/
theorem Run.countP_add_rank_le (rank : σ → Nat) (p : ℓ → Bool)
    (hlower : ∀ s l s', M.Reachable s → M.step s l = some s' → p l = true → rank s' < rank s)
    (hkeep : ∀ s l s', M.Reachable s → M.step s l = some s' → rank s' ≤ rank s)
    {tr : List ℓ} {s : σ} (hrun : M.Run tr s) : tr.countP p + rank s ≤ rank M.init := by
  have hstep : ∀ s l s', M.Reachable s → M.step s l = some s' →
      M.Reachable s' ∧ rank s' ≤ rank s ∧ (p l = true → rank s' < rank s) :=
    fun s l s' hs h => ⟨hs.step h, hkeep s l s' hs h, hlower s l s' hs h⟩
  exact (Machine.countP_add_rank_le rank p hstep ⟨[], Run.nil⟩ (run_iff_exec.mp hrun)).2

/-- Steps that lower a rank, one of which can be taken until a goal is reached, lead to it. -/
theorem exists_exec_of_rank (rank : σ → Nat) (p : ℓ → Prop) {I G : σ → Prop}
    (hprogress : ∀ s, I s → ¬G s → ∃ l s', p l ∧ M.step s l = some s')
    (hkeep : ∀ s l s', I s → p l → M.step s l = some s' → I s' ∧ rank s' < rank s)
    {s : σ} (hs : I s) : ∃ tr s', (∀ l ∈ tr, p l) ∧ M.exec s tr = some s' ∧ I s' ∧ G s' := by
  induction hn : rank s using Nat.strongRecOn generalizing s with
  | ind n ih =>
      by_cases hgoal : G s
      · exact ⟨[], s, by simp, rfl, hs, hgoal⟩
      · rcases hprogress s hs hgoal with ⟨l, t, hl, hstep⟩
        rcases hkeep s l t hs hl hstep with ⟨ht, hless⟩
        rcases ih (rank t) (hn ▸ hless) ht rfl with ⟨tr, s', htr, hexec, hs', hgoal'⟩
        refine ⟨l :: tr, s', ?_, ?_, hs', hgoal'⟩
        · simpa [hl] using htr
        · rw [exec_cons, hstep]
          exact hexec

/-- No list of steps that lower a rank is longer than the rank. -/
theorem length_add_rank_le (rank : σ → Nat) (p : ℓ → Prop) {I : σ → Prop}
    (hkeep : ∀ s l s', I s → p l → M.step s l = some s' → I s' ∧ rank s' < rank s)
    {tr : List ℓ} {s s' : σ} (hs : I s) (htr : ∀ l ∈ tr, p l)
    (hexec : M.exec s tr = some s') : tr.length + rank s' ≤ rank s := by
  induction tr generalizing s with
  | nil =>
      cases hexec
      simp
  | cons l tr ih =>
      rcases Option.bind_eq_some_iff.mp hexec with ⟨t, hstep, hrest⟩
      have hl := htr l List.mem_cons_self
      rcases hkeep s l t hs hl hstep with ⟨ht, hless⟩
      have hle := ih ht (fun x hx => htr x (List.mem_cons_of_mem _ hx)) hrest
      rw [List.length_cons]
      omega

/-! ## Guarded runs -/

/-- The runs each of whose steps meets a condition on the state it starts in. -/
inductive GuardedRun (M : Machine σ ℓ) (G : σ → ℓ → Prop) : List ℓ → σ → Prop
  | nil : GuardedRun M G [] M.init
  | snoc {tr : List ℓ} {s s' : σ} {l : ℓ} :
      GuardedRun M G tr s → G s l → M.step s l = some s' → GuardedRun M G (tr ++ [l]) s'

/-- A guarded run is a run. -/
theorem GuardedRun.toRun {G : σ → ℓ → Prop} {tr : List ℓ} {s : σ}
    (hrun : M.GuardedRun G tr s) : M.Run tr s := by
  induction hrun with
  | nil => exact Run.nil
  | snoc _ _ hs ih => exact ih.snoc hs

/-- A run whose labels all meet a condition is a guarded run. -/
theorem Run.guarded {G : ℓ → Prop} {tr : List ℓ} {s : σ} (hrun : M.Run tr s)
    (hlabels : ∀ l ∈ tr, G l) : M.GuardedRun (fun _ l => G l) tr s := by
  induction hrun with
  | nil => exact GuardedRun.nil
  | snoc _ hs ih =>
      have hall := List.forall_mem_append.mp hlabels
      exact (ih hall.1).snoc (hall.2 _ (List.mem_singleton_self _)) hs

/-- A guarded run meets every weaker condition. -/
theorem GuardedRun.mono {G H : σ → ℓ → Prop} {tr : List ℓ} {s : σ} (hrun : M.GuardedRun G tr s)
    (hweaker : ∀ s l, G s l → H s l) : M.GuardedRun H tr s := by
  induction hrun with
  | nil => exact GuardedRun.nil
  | snoc _ hg hs ih => exact ih.snoc (hweaker _ _ hg) hs

/-- The invariant rule for guarded runs. -/
theorem GuardedRun.invariant {G : σ → ℓ → Prop} {P : List ℓ → σ → Prop}
    (hinit : P [] M.init)
    (hstep : ∀ tr s l s', M.Run tr s → P tr s → G s l → M.step s l = some s' →
      P (tr ++ [l]) s')
    {tr : List ℓ} {s : σ} (hrun : M.GuardedRun G tr s) : P tr s := by
  induction hrun with
  | nil => exact hinit
  | snoc hrun hg hs ih => exact hstep _ _ _ _ hrun.toRun ih hg hs

/-- Execute a list of labels as long as every step meets a decidable condition. -/
def guardedExec (M : Machine σ ℓ) (G : σ → ℓ → Prop) [∀ s l, Decidable (G s l)] :
    σ → List ℓ → Option σ
  | s, [] => some s
  | s, l :: tr => if G s l then (M.step s l).bind fun s' => M.guardedExec G s' tr else none

theorem GuardedRun.append {G : σ → ℓ → Prop} [∀ s l, Decidable (G s l)] {tr tr' : List ℓ}
    {s s' : σ} (hrun : M.GuardedRun G tr s) (hexec : M.guardedExec G s tr' = some s') :
    M.GuardedRun G (tr ++ tr') s' := by
  induction tr' generalizing tr s with
  | nil =>
      cases hexec
      simpa using hrun
  | cons l tr' ih =>
      rw [guardedExec, Option.ite_none_right_eq_some] at hexec
      rcases Option.bind_eq_some_iff.mp hexec.2 with ⟨t, hstep, hrest⟩
      have h := ih (hrun.snoc hexec.1 hstep) hrest
      simpa using h

/-- What executes under a condition is a guarded run. -/
theorem guardedRun_of_guardedExec {G : σ → ℓ → Prop} [∀ s l, Decidable (G s l)]
    {tr : List ℓ} {s : σ} (hexec : M.guardedExec G M.init tr = some s) :
    M.GuardedRun G tr s :=
  GuardedRun.nil.append hexec

/-- What executes under a condition executes. -/
theorem exec_of_guardedExec {G : σ → ℓ → Prop} [∀ s l, Decidable (G s l)] {tr : List ℓ}
    {s s' : σ} (hexec : M.guardedExec G s tr = some s') : M.exec s tr = some s' := by
  induction tr generalizing s with
  | nil => exact hexec
  | cons l tr ih =>
      rw [guardedExec, Option.ite_none_right_eq_some] at hexec
      rcases Option.bind_eq_some_iff.mp hexec.2 with ⟨t, hstep, hrest⟩
      rw [exec_cons, hstep]
      exact ih hrest

/-! ## Simulation by another machine -/

section Simulation

variable {τ : Type u} {m : Type v} {β : Type w} {N : Machine τ m}

/-- If a machine follows every step of another one with a few steps of its own, it follows what
executes from a state that can be reached, and what is observed of the two is the same. -/
theorem exec_simulates (view : σ → τ) (observe : m → List β) (observed : ℓ → List β)
    (hstep : ∀ s l s', M.Reachable s → M.step s l = some s' →
      ∃ ls, N.exec (view s) ls = some (view s') ∧ ls.flatMap observe = observed l)
    {tr : List ℓ} {s s' : σ} (hs : M.Reachable s) (hexec : M.exec s tr = some s') :
    ∃ tr', N.exec (view s) tr' = some (view s') ∧
      tr'.flatMap observe = tr.flatMap observed := by
  induction tr generalizing s with
  | nil =>
      cases hexec
      exact ⟨[], rfl, rfl⟩
  | cons l tr ih =>
      rcases Option.bind_eq_some_iff.mp hexec with ⟨t, hnext, hrest⟩
      rcases hstep s l t hs hnext with ⟨ls, hls, hobserved⟩
      rcases ih (hs.step hnext) hrest with ⟨tr', hexec', htr'⟩
      refine ⟨ls ++ tr', ?_, ?_⟩
      · rw [exec_append, hls]
        exact hexec'
      · rw [List.flatMap_append, List.flatMap_cons, hobserved, htr']

/-- The same for whole runs, after the steps that lead to the first state. -/
theorem Run.simulates (view : σ → τ) (observe : m → List β) (observed : ℓ → List β)
    (first : List m) (hinit : N.exec N.init first = some (view M.init))
    (hstep : ∀ s l s', M.Reachable s → M.step s l = some s' →
      ∃ ls, N.exec (view s) ls = some (view s') ∧ ls.flatMap observe = observed l)
    {tr : List ℓ} {s : σ} (hrun : M.Run tr s) :
    ∃ tr', N.Run tr' (view s) ∧
      tr'.flatMap observe = first.flatMap observe ++ tr.flatMap observed := by
  rcases exec_simulates view observe observed hstep ⟨[], Run.nil⟩ (run_iff_exec.mp hrun) with
    ⟨tr', hexec, htr'⟩
  refine ⟨first ++ tr', (run_iff_exec.mpr hinit).append hexec, ?_⟩
  rw [List.flatMap_append, htr']

/-- The same for the runs of both machines whose steps meet a condition. -/
theorem GuardedRun.simulates {G : σ → ℓ → Prop} {H : τ → m → Prop} [∀ t l, Decidable (H t l)]
    (view : σ → τ) (first : List m) (hinit : N.guardedExec H N.init first = some (view M.init))
    (hstep : ∀ s l s', M.Reachable s → G s l → M.step s l = some s' →
      ∃ ls, N.guardedExec H (view s) ls = some (view s'))
    {tr : List ℓ} {s : σ} (hrun : M.GuardedRun G tr s) : ∃ tr', N.GuardedRun H tr' (view s) := by
  induction hrun with
  | nil => exact ⟨first, guardedRun_of_guardedExec hinit⟩
  | @snoc tr s s' l hrun hg hs ih =>
      rcases ih with ⟨tr', hrun'⟩
      rcases hstep s l s' ⟨tr, hrun.toRun⟩ hg hs with ⟨ls, hexec⟩
      exact ⟨tr' ++ ls, hrun'.append hexec⟩

end Simulation

end Machine

end Toolkit
