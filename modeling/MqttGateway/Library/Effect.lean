import Mathlib.Tactic.Common

/-!
# Effects with state and exceptions

An effect runs from a state and ends, with a value or an exception, in a state.
Unlike a computation in a transformer stack whose exceptions discard the state,
what an effect did before it raised stays done, and a {lit}`finally` block runs on
both exits.

Main results:

- The {lit}`run_` lemmas evaluate each way of building an effect; together they are
  the simp set that turns a program text into a pair of outcome and state.
- Theorem {lit}`run_tryFinally`: the finaliser runs on either exit, and an exception
  of its own replaces the body's outcome.
- Definition {lit}`zoom` and theorem {lit}`run_zoom`: an effect on one component of a
  larger state.
-/

namespace Toolkit

universe u v

/-- An effect over exceptions {lit}`ε` and states {lit}`σ`. -/
def Effect (ε σ α : Type u) : Type u :=
  σ → Except ε α × σ

namespace Effect

variable {ε σ τ α β : Type u}

/-- Run an effect from a state. -/
def run (x : Effect ε σ α) (s : σ) : Except ε α × σ :=
  x s

/-- Continue after a normal end, pass an exception on. -/
def bind (x : Effect ε σ α) (f : α → Effect ε σ β) : Effect ε σ β :=
  fun s =>
    match x.run s with
    | (.ok a, s') => (f a).run s'
    | (.error e, s') => (.error e, s')

instance : Monad (Effect ε σ) where
  pure a := fun s => (.ok a, s)
  bind := bind

instance : MonadStateOf σ (Effect ε σ) where
  get := fun s => (.ok s, s)
  set s := fun _ => (.ok ⟨⟩, s)
  modifyGet f := fun s => (.ok (f s).1, (f s).2)

instance : MonadExceptOf ε (Effect ε σ) where
  throw e := fun s => (.error e, s)
  tryCatch x handler := fun s =>
    match x.run s with
    | (.ok a, s') => (.ok a, s')
    | (.error e, s') => (handler e).run s'

/-- Run a body and then a finaliser, whichever way the body ends. -/
def finallyDo (x : Effect ε σ α) (f : Option α → Effect ε σ β) : Effect ε σ (α × β) :=
  fun s =>
    match x.run s with
    | (.ok a, s') =>
        match (f (some a)).run s' with
        | (.ok b, s'') => (.ok (a, b), s'')
        | (.error e, s'') => (.error e, s'')
    | (.error e, s') =>
        match (f none).run s' with
        | (.ok _, s'') => (.error e, s'')
        | (.error e', s'') => (.error e', s'')

instance : MonadFinally (Effect ε σ) where
  tryFinally' := finallyDo

/-- Lift a pure fallible value. -/
def ofExcept (r : Except ε α) : Effect ε σ α :=
  fun s => (r, s)

/-- Run an effect on a component of a larger state. -/
def zoom (view : τ → σ) (put : τ → σ → τ) (x : Effect ε σ α) : Effect ε τ α :=
  fun t => ((x.run (view t)).1, put t (x.run (view t)).2)

/-! ## Evaluation -/

/-- A value changes no state. -/
@[simp]
theorem run_pure (a : α) (s : σ) : (pure a : Effect ε σ α).run s = (.ok a, s) :=
  rfl

/-- A sequence runs its second part if the first one does not raise. -/
@[simp]
theorem run_bind (x : Effect ε σ α) (f : α → Effect ε σ β) (s : σ) :
    (x >>= f).run s =
      match x.run s with
      | (.ok a, s') => (f a).run s'
      | (.error e, s') => (.error e, s') :=
  rfl

/-- Reading gives the state. -/
@[simp]
theorem run_get (s : σ) : (get : Effect ε σ σ).run s = (.ok s, s) :=
  rfl

/-- A change gives nothing back. -/
@[simp]
theorem run_modify (f : σ → σ) (s : σ) :
    (modify f : Effect ε σ PUnit).run s = (.ok ⟨⟩, f s) :=
  rfl

/-- Raising keeps the state. -/
@[simp]
theorem run_throw (e : ε) (s : σ) : (throw e : Effect ε σ α).run s = (.error e, s) :=
  rfl

/-- A handler runs in the state in which the exception was raised. -/
@[simp]
theorem run_tryCatch (x : Effect ε σ α) (handler : ε → Effect ε σ α) (s : σ) :
    (tryCatch x handler).run s =
      match x.run s with
      | (.ok a, s') => (.ok a, s')
      | (.error e, s') => (handler e).run s' :=
  rfl

/-- An outcome that is known changes no state. -/
@[simp]
theorem run_ofExcept (r : Except ε α) (s : σ) : (ofExcept r : Effect ε σ α).run s = (r, s) :=
  rfl

/-- A computation on a part of the state leaves the rest to the writer. -/
@[simp]
theorem run_zoom (view : τ → σ) (put : τ → σ → τ) (x : Effect ε σ α) (t : τ) :
    (zoom view put x).run t = ((x.run (view t)).1, put t (x.run (view t)).2) :=
  rfl

/-- What comes at the end runs in any case, and its exception wins. -/
theorem run_finallyDo (x : Effect ε σ α) (f : Option α → Effect ε σ β) (s : σ) :
    (finallyDo x f).run s =
      match x.run s with
      | (.ok a, s') =>
          match (f (some a)).run s' with
          | (.ok b, s'') => (.ok (a, b), s'')
          | (.error e, s'') => (.error e, s'')
      | (.error e, s') =>
          match (f none).run s' with
          | (.ok _, s'') => (.error e, s'')
          | (.error e', s'') => (.error e', s'') :=
  rfl

/-- A finaliser that ends normally leaves the body's outcome and runs in the state
the body ended in. -/
@[simp]
theorem run_tryFinally (x : Effect ε σ α) (f : Effect ε σ β) (s : σ) :
    (tryFinally x f).run s =
      match f.run (x.run s).2 with
      | (.ok _, s') => ((x.run s).1, s')
      | (.error e, s') => (.error e, s') := by
  show ((finallyDo x fun _ => f) >>= fun r => pure r.1).run s = _
  cases hx : x.run s with
  | mk outcome s' =>
      cases hf : f.run s' with
      | mk final s'' =>
          cases outcome <;> cases final <;> simp [run_finallyDo, hx, hf]

/-- Two effects that run alike are the same. -/
theorem ext {x y : Effect ε σ α} (h : ∀ s, x.run s = y.run s) : x = y :=
  funext h

/-- Effects obey the laws of a monad.  This is no instance: the simp set takes a program apart
one bind at a time. -/
theorem lawful : LawfulMonad (Effect ε σ) := by
  refine LawfulMonad.mk' (Effect ε σ) ?_ ?_ ?_
  · intro α x
    refine ext fun s => ?_
    change (x >>= fun a => pure a).run s = _
    rw [run_bind]
    rcases x.run s with ⟨e | a, s'⟩ <;> rfl
  · intro α β a f
    rfl
  · intro α β γ x f g
    refine ext fun s => ?_
    rw [run_bind, run_bind, run_bind]
    rcases x.run s with ⟨e | a, s'⟩ <;> rfl

/-- A computation on each element runs on the first one first. -/
theorem run_mapM_cons (f : α → Effect ε σ β) (a : α) (rest : List α) (s : σ) :
    ((a :: rest).mapM f).run s =
      match (f a).run s with
      | (.ok b, s') =>
          match (rest.mapM f).run s' with
          | (.ok bs, s'') => (.ok (b :: bs), s'')
          | (.error e, s'') => (.error e, s'')
      | (.error e, s') => (.error e, s') := by
  have hlawful : LawfulMonad (Effect ε σ) := lawful
  rw [List.mapM_cons, run_bind]
  rcases (f a).run s with ⟨e | b, s'⟩
  · rfl
  · dsimp only
    rw [run_bind]
    rcases (rest.mapM f).run s' with ⟨e | bs, s''⟩ <;> rfl

end Effect

end Toolkit
