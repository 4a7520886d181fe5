import MqttGateway.Library.Effect

/-!
# Scopes that own references

Counted references, what happens to them, and scopes that release what they own when they
are left, on any exit, the newest reference first.

Main results:

- Definition {lit}`liveAfter`: the references that are live after some events, unless a dead one
  has been used or released.
- The {lit}`Triple` rules: pre- and postconditions on what a scope owns, for programs that hand
  over to their scope every reference they acquire.
- Theorem {lit}`Triple.within`: a scope leaves the live references as it found them.
-/

namespace Toolkit

/-- What happens to a reference. -/
inductive RefEvent (ρ : Type) where
  | acquire (r : ρ)
  | use (r : ρ)
  | release (r : ρ)
deriving DecidableEq

section Live

variable {ρ : Type} [DecidableEq ρ]

/-- The live references after some events, with their counts.  There are none to speak of after
a dead reference has been used or released. -/
def liveAfter : List ρ → List (RefEvent ρ) → Option (List ρ)
  | live, [] => some live
  | live, .acquire r :: rest => liveAfter (r :: live) rest
  | live, .use r :: rest => if r ∈ live then liveAfter live rest else none
  | live, .release r :: rest => if r ∈ live then liveAfter (live.erase r) rest else none

/-- What lives after two lists of events, one after the other. -/
theorem liveAfter_append (live : List ρ) (events events' : List (RefEvent ρ)) :
    liveAfter live (events ++ events') =
      (liveAfter live events).bind fun live' => liveAfter live' events' := by
  induction events generalizing live with
  | nil => rfl
  | cons event rest ih =>
      cases event with
      | acquire r => exact ih (r :: live)
      | use r =>
          by_cases hmem : r ∈ live
          · simp [liveAfter, hmem, ih]
          · simp [liveAfter, hmem]
      | release r =>
          by_cases hmem : r ∈ live
          · simp [liveAfter, hmem, ih]
          · simp [liveAfter, hmem]

/-- Releasing the newest references one by one leaves the older ones. -/
theorem liveAfter_release (owned live : List ρ) :
    liveAfter (owned ++ live) (owned.map RefEvent.release) = some live := by
  induction owned with
  | nil => rfl
  | cons r rest ih => simpa [liveAfter] using ih

end Live

/-- What a scope owns, newest first, and what has happened so far. -/
structure Scope (ρ : Type) where
  owned : List ρ
  history : List (RefEvent ρ)

namespace Scope

variable {ε ρ α β : Type}

/-- Something happens to a reference. -/
def record (event : RefEvent ρ) : Effect ε (Scope ρ) PUnit :=
  modify fun s => { s with history := s.history ++ [event] }

/-- A reference is acquired, if it is there, and handed over to the scope. -/
def own (missing : ε) (r : Option ρ) : Effect ε (Scope ρ) ρ := do
  match r with
  | some r =>
      record (.acquire r)
      modify fun s => { s with owned := r :: s.owned }
      return r
  | none => throw missing

/-- Run a body in a scope of its own, which is left on either exit. -/
def within (body : Effect ε (Scope ρ) α) : Effect ε (Scope ρ) α := do
  let outer := (← get).owned
  modify fun s => { s with owned := [] }
  try
    body
  finally
    modify fun s =>
      { owned := outer, history := s.history ++ s.owned.map RefEvent.release }

/-- The live references are what the scope owns, above the given ones. -/
def Tight [DecidableEq ρ] (outer : List ρ) (s : Scope ρ) : Prop :=
  liveAfter [] s.history = some (s.owned ++ outer)

/-- From a scope that owns what the precondition says, a program keeps the scope tight, and
ends normally only with what the postcondition says. -/
def Triple [DecidableEq ρ] (P : List ρ → Prop) (x : Effect ε (Scope ρ) α)
    (Q : α → List ρ → Prop) : Prop :=
  ∀ outer s, s.Tight outer → P s.owned →
    (x.run s).2.Tight outer ∧ ∀ a, (x.run s).1 = .ok a → Q a (x.run s).2.owned

namespace Triple

variable [DecidableEq ρ] {P : List ρ → Prop} {Q : α → List ρ → Prop}

/-- A value owns what was owned. -/
theorem pure {a : α} (h : ∀ owned, P owned → Q a owned) :
    Triple P (pure a : Effect ε (Scope ρ) α) Q := by
  intro outer s htight hp
  refine ⟨htight, ?_⟩
  intro b hb
  cases hb
  exact h _ hp

/-- Where an exception is raised, the postcondition says nothing. -/
theorem throw (e : ε) : Triple P (throw e : Effect ε (Scope ρ) α) Q :=
  fun _ _ htight _ => ⟨htight, fun _ h => by cases h⟩

/-- Two computations, one after the other. -/
theorem bind {x : Effect ε (Scope ρ) α} {f : α → Effect ε (Scope ρ) β}
    {R : β → List ρ → Prop} (hx : Triple P x Q) (hf : ∀ a, Triple (Q a) (f a) R) :
    Triple P (x >>= f) R := by
  intro outer s htight hp
  rcases hx outer s htight hp with ⟨htight', hq⟩
  rw [Effect.run_bind]
  generalize x.run s = result at htight' hq
  rcases result with ⟨e | a, s'⟩
  · exact ⟨htight', fun _ h => by cases h⟩
  · exact hf a outer s' htight' (hq a rfl)

/-- A triple with a stronger precondition. -/
theorem consequence {P' : List ρ → Prop} {x : Effect ε (Scope ρ) α} (h : Triple P' x Q)
    (hp : ∀ owned, P owned → P' owned) : Triple P x Q :=
  fun outer s htight hpre => h outer s htight (hp _ hpre)

/-- A triple for each branch. -/
theorem ite {c : Prop} [Decidable c] {x y : Effect ε (Scope ρ) α} (hx : c → Triple P x Q)
    (hy : ¬c → Triple P y Q) : Triple P (if c then x else y) Q := by
  by_cases hc : c
  · rw [if_pos hc]
    exact hx hc
  · rw [if_neg hc]
    exact hy hc

/-- A live reference can be used. -/
theorem use (r : ρ) :
    Triple (fun owned => P owned ∧ r ∈ owned) (record (ε := ε) (.use r))
      (fun _ owned => P owned ∧ r ∈ owned) := by
  intro outer s htight hp
  refine ⟨?_, fun _ _ => hp⟩
  change liveAfter [] (s.history ++ [.use r]) = some (s.owned ++ outer)
  rw [liveAfter_append, htight]
  simp [liveAfter, hp.2]

/-- A reference that the scope has come to own is its newest one. -/
theorem own (missing : ε) (r : Option ρ) :
    Triple P (own missing r)
      (fun x owned => r = some x ∧ ∃ before, P before ∧ owned = x :: before) := by
  cases r with
  | none => exact throw missing
  | some x =>
      intro outer s htight hp
      refine ⟨?_, ?_⟩
      · change liveAfter [] (s.history ++ [.acquire x]) = some (x :: s.owned ++ outer)
        rw [liveAfter_append, htight]
        rfl
      · intro y hy
        cases hy
        exact ⟨rfl, s.owned, hp, rfl⟩

/-- A scope leaves the live references as it found them. -/
theorem within {x : Effect ε (Scope ρ) α} (h : Triple (fun owned => owned = []) x Q)
    {s : Scope ρ} {live : List ρ} (hlive : liveAfter [] s.history = some live) :
    liveAfter [] ((Scope.within x).run s).2.history = some live ∧
      ((Scope.within x).run s).2.owned = s.owned ∧
      ((Scope.within x).run s).1 = (x.run ⟨[], s.history⟩).1 := by
  rcases h live ⟨[], s.history⟩ hlive rfl with ⟨htight, _⟩
  have hrun : (Scope.within x).run s =
      ((x.run ⟨[], s.history⟩).1, ⟨s.owned, (x.run ⟨[], s.history⟩).2.history ++
        (x.run ⟨[], s.history⟩).2.owned.map RefEvent.release⟩) := by
    simp [Scope.within]
  rw [hrun]
  refine ⟨?_, rfl, rfl⟩
  change liveAfter [] (_ ++ _) = _
  rw [liveAfter_append, htight]
  exact liveAfter_release _ live

end Triple

end Scope

end Toolkit
