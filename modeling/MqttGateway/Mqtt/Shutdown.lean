import MqttGateway.Library.Machine

/-!
# Shutting the client down

{lit}`MQTTClient.disconnect` as a machine over one event loop and one worker thread.  The task
of {lit}`disconnect` awaits the task {lit}`stopping`, first behind a shield and, after a
cancellation, directly; {lit}`stopping` awaits {lit}`loop_stop`, which a worker thread runs.
A cancellation goes to what the cancelled task awaits; a task whose wake-up is already
scheduled is woken with {lit}`CancelledError` instead.

Main results:

- Theorem {lit}`shutdown_in_order`: as long as no cancellation reaches {lit}`disconnect` in its
  direct wait for {lit}`loop_stop`, it calls paho's {lit}`disconnect` once, after
  {lit}`loop_stop` has returned.
- Theorem {lit}`disconnect_overtakes`: after any such cancellation paho's {lit}`disconnect` can be
  called first.
-/

namespace MqttGateway

open Toolkit

/-- How a task ends, and what awaiting it gives. -/
inductive TaskEnd where
  | finished
  | cancelled
  | failed
deriving DecidableEq

/-- Where {lit}`disconnect` is.  An await has a result once the wake-up is scheduled. -/
inductive DisconnectActivity where
  | start
  /-- {lit}`await self._loop_task`. -/
  | loopTask (wake : Option TaskEnd)
  /-- {lit}`await asyncio.shield(stopping)`. -/
  | shield (wake : Option TaskEnd)
  /-- {lit}`await stopping`, after the first cancellation. -/
  | joining (wake : Option TaskEnd)
  | ended (outcome : TaskEnd)
deriving DecidableEq

/-- The task that runs {lit}`asyncio.to_thread(client.loop_stop)`. -/
inductive StoppingTask where
  | absent
  | scheduled
  /-- It waits for the worker thread. -/
  | awaiting
  /-- The worker's result has arrived. -/
  | resuming
  /-- Its next step raises {lit}`CancelledError`. -/
  | cancelling
  | ended (outcome : TaskEnd)
deriving DecidableEq

/-- The call of {lit}`loop_stop` on a worker thread. -/
inductive JoinCall where
  | absent
  | queued
  | running
  | returned
  /-- Cancelled before a worker took it. -/
  | dropped
deriving DecidableEq

/-- The task {lit}`_loop_task`, which nothing in the client creates. -/
inductive LoopTask where
  | absent
  | running
  | ended (outcome : TaskEnd)
deriving DecidableEq

/-- What happens to the paho client. -/
inductive PahoCall where
  | loopStopReturned
  | disconnect
deriving DecidableEq

/-- The parts of the client that {lit}`disconnect` works on. -/
structure Shutdown where
  /-- {lit}`_client` is there. -/
  client : Bool
  loopTask : LoopTask
  activity : DisconnectActivity
  stopping : StoppingTask
  join : JoinCall
  /-- {lit}`_connected`. -/
  connected : Bool
  /-- Oldest first. -/
  calls : List PahoCall
deriving DecidableEq

/-- What can happen during {lit}`disconnect`. -/
inductive ShutdownStep where
  /-- The task takes a step; if it calls paho's {lit}`disconnect`, that may raise. -/
  | resume (raises : Bool)
  /-- A cancellation reaches the suspended task. -/
  | cancel
  | loopTaskEnds (outcome : TaskEnd)
  | stoppingRuns
  | workerStarts
  | workerDrops
  | workerReturns
  /-- The worker's result is handed to the event loop. -/
  | resultArrives
  /-- The end of {lit}`stopping` reaches the shield. -/
  | shieldSettles
  /-- An event of the connection sets or clears {lit}`_connected`. -/
  | connection (up : Bool)
deriving DecidableEq

/-- A step of one of the parties: no cancellation and no connection event. -/
def ShutdownStep.own : ShutdownStep → Bool
  | .cancel | .connection _ => false
  | _ => true

namespace Shutdown

/-- Before {lit}`disconnect` is entered. -/
def initial (client hasLoopTask connected : Bool) : Shutdown where
  client := client
  loopTask := if hasLoopTask then .running else .absent
  activity := .start
  stopping := .absent
  join := .absent
  connected := connected
  calls := []

/-- The outer {lit}`finally` block. -/
def finish (raises : Bool) (outcome : TaskEnd) (s : Shutdown) : Shutdown :=
  { s with
    calls := s.calls ++ [.disconnect]
    connected := false
    activity := .ended (if raises then .failed else outcome) }

/-- From {lit}`client = self._client` to the first await. -/
def stop (s : Shutdown) : Shutdown :=
  if s.client then { s with stopping := .scheduled, activity := .shield none }
  else { s with activity := .ended .finished }

/-- A step of {lit}`disconnect`. -/
def resume (raises : Bool) (s : Shutdown) : Option Shutdown :=
  match s.activity with
  | .start =>
      match s.loopTask with
      | .running => some { s with activity := .loopTask none }
      | .ended .failed => some { s with activity := .ended .failed }
      | .absent | .ended .finished | .ended .cancelled => some s.stop
  | .loopTask (some .failed) => some { s with activity := .ended .failed }
  -- A cancellation is suppressed here.
  | .loopTask (some .finished) | .loopTask (some .cancelled) => some s.stop
  | .shield (some .cancelled) =>
      match s.stopping with
      | .ended .failed => some (s.finish raises .failed)
      | .ended .finished | .ended .cancelled => some (s.finish raises .cancelled)
      | _ => some { s with activity := .joining none }
  | .shield (some .finished) => some (s.finish raises .finished)
  | .shield (some .failed) => some (s.finish raises .failed)
  | .joining (some .failed) => some (s.finish raises .failed)
  | .joining (some .finished) | .joining (some .cancelled) => some (s.finish raises .cancelled)
  | _ => none

/-- {lit}`task.cancel()` while {lit}`disconnect` is suspended. -/
def cancel (s : Shutdown) : Option Shutdown :=
  match s.activity with
  | .start | .ended _ => none
  -- The loop task has been cancelled already.
  | .loopTask none => some s
  | .loopTask (some _) => some { s with activity := .loopTask (some .cancelled) }
  | .shield _ => some { s with activity := .shield (some .cancelled) }
  | .joining none => some { s with stopping := .cancelling }
  | .joining (some _) => some { s with activity := .joining (some .cancelled) }

/-- The end of the loop task. -/
def loopTaskEnds (outcome : TaskEnd) (s : Shutdown) : Option Shutdown :=
  match s.loopTask, s.activity with
  | .running, .loopTask none =>
      some { s with loopTask := .ended outcome, activity := .loopTask (some outcome) }
  | .running, _ => some { s with loopTask := .ended outcome }
  | _, _ => none

/-- The end of {lit}`stopping`. -/
def stoppingEnds (outcome : TaskEnd) (s : Shutdown) : Shutdown :=
  match s.activity with
  | .joining none =>
      { s with stopping := .ended outcome, activity := .joining (some outcome) }
  | _ => { s with stopping := .ended outcome }

/-- A step of {lit}`stopping`. -/
def stoppingRuns (s : Shutdown) : Option Shutdown :=
  match s.stopping with
  | .scheduled => some { s with stopping := .awaiting, join := .queued }
  | .resuming => some (s.stoppingEnds .finished)
  | .cancelling => some (s.stoppingEnds .cancelled)
  | _ => none

/-- The steps of a shutdown. -/
def step (s : Shutdown) : ShutdownStep → Option Shutdown
  | .resume raises => s.resume raises
  | .cancel => s.cancel
  | .loopTaskEnds outcome => s.loopTaskEnds outcome
  | .stoppingRuns => s.stoppingRuns
  | .workerStarts => if s.join = .queued then some { s with join := .running } else none
  | .workerDrops =>
      if s.join = .queued ∧ (s.stopping = .cancelling ∨ s.stopping = .ended .cancelled) then
        some { s with join := .dropped }
      else none
  | .workerReturns =>
      if s.join = .running then
        some { s with join := .returned, calls := s.calls ++ [.loopStopReturned] }
      else none
  | .resultArrives =>
      if s.join = .returned ∧ s.stopping = .awaiting then some { s with stopping := .resuming }
      else none
  | .shieldSettles =>
      match s.activity, s.stopping with
      | .shield none, .ended outcome => some { s with activity := .shield (some outcome) }
      | _, _ => none
  | .connection up =>
      match s.activity with
      | .ended _ => none
      | _ => some { s with connected := up }

/-- Every order of the steps of one call of {lit}`disconnect`. -/
def machine (client hasLoopTask connected : Bool) : Machine Shutdown ShutdownStep where
  init := initial client hasLoopTask connected
  step := step

/-- What {lit}`disconnect` awaits before its {lit}`finally` block has ended. -/
def Awaited (s : Shutdown) : Prop :=
  (∃ wake, s.activity = .shield (some wake) ∧
      (wake = .cancelled → ∃ outcome, s.stopping = .ended outcome)) ∨
    ∃ wake, s.activity = .joining (some wake)

/-- What a step of {lit}`disconnect` can do. -/
theorem resume_cases {s s' : Shutdown} {raises : Bool} (h : s.resume raises = some s') :
    (s.activity = .start ∧ s.loopTask = .running ∧ s' = { s with activity := .loopTask none }) ∨
      ((s.loopTask = .ended .failed ∨ s.activity = .loopTask (some .failed)) ∧
        (s.activity = .start ∨ ∃ wake, s.activity = .loopTask (some wake)) ∧
        s' = { s with activity := .ended .failed }) ∨
      ((s.activity = .start ∨ ∃ wake, s.activity = .loopTask (some wake)) ∧ s' = s.stop) ∨
      (s.activity = .shield (some .cancelled) ∧ (∀ outcome, s.stopping ≠ .ended outcome) ∧
        s' = { s with activity := .joining none }) ∨
      (s.Awaited ∧ ∃ outcome, s' = s.finish raises outcome) := by
  unfold resume at h
  split at h
  · next hactivity =>
      split at h
      · next hloop =>
          cases h
          exact Or.inl ⟨hactivity, hloop, rfl⟩
      · next hloop =>
          cases h
          exact Or.inr (Or.inl ⟨Or.inl hloop, Or.inl hactivity, rfl⟩)
      all_goals
        cases h
        exact Or.inr (Or.inr (Or.inl ⟨Or.inl hactivity, rfl⟩))
  · next hactivity =>
      cases h
      exact Or.inr (Or.inl ⟨Or.inr hactivity, Or.inr ⟨_, hactivity⟩, rfl⟩)
  · next hactivity =>
      cases h
      exact Or.inr (Or.inr (Or.inl ⟨Or.inr ⟨_, hactivity⟩, rfl⟩))
  · next hactivity =>
      cases h
      exact Or.inr (Or.inr (Or.inl ⟨Or.inr ⟨_, hactivity⟩, rfl⟩))
  · next hactivity =>
      have hawaited : ∀ outcome, s.stopping = .ended outcome → s.Awaited :=
        fun outcome hended => Or.inl ⟨_, hactivity, fun _ => ⟨outcome, hended⟩⟩
      split at h
      · next hended =>
          cases h
          exact Or.inr (Or.inr (Or.inr (Or.inr ⟨hawaited _ hended, _, rfl⟩)))
      · next hended =>
          cases h
          exact Or.inr (Or.inr (Or.inr (Or.inr ⟨hawaited _ hended, _, rfl⟩)))
      · next hended =>
          cases h
          exact Or.inr (Or.inr (Or.inr (Or.inr ⟨hawaited _ hended, _, rfl⟩)))
      · next hfailed hfinished hcancelled =>
          cases h
          refine Or.inr (Or.inr (Or.inr (Or.inl ⟨hactivity, ?_, rfl⟩)))
          rintro (_ | _ | _) hended
          · exact hfinished hended
          · exact hcancelled hended
          · exact hfailed hended
  · next hactivity =>
      cases h
      exact Or.inr (Or.inr (Or.inr (Or.inr ⟨Or.inl ⟨_, hactivity, nofun⟩, _, rfl⟩)))
  · next hactivity =>
      cases h
      exact Or.inr (Or.inr (Or.inr (Or.inr ⟨Or.inl ⟨_, hactivity, nofun⟩, _, rfl⟩)))
  · next hactivity =>
      cases h
      exact Or.inr (Or.inr (Or.inr (Or.inr ⟨Or.inr ⟨_, hactivity⟩, _, rfl⟩)))
  · next hactivity =>
      cases h
      exact Or.inr (Or.inr (Or.inr (Or.inr ⟨Or.inr ⟨_, hactivity⟩, _, rfl⟩)))
  · next hactivity =>
      cases h
      exact Or.inr (Or.inr (Or.inr (Or.inr ⟨Or.inr ⟨_, hactivity⟩, _, rfl⟩)))
  · cases h

/-- What a cancellation can do. -/
theorem cancel_cases {s s' : Shutdown} (h : s.cancel = some s') :
    (s.activity = .loopTask none ∧ s' = s) ∨
      ((∃ wake, s.activity = .loopTask (some wake)) ∧
        s' = { s with activity := .loopTask (some .cancelled) }) ∨
      ((∃ wake, s.activity = .shield wake) ∧
        s' = { s with activity := .shield (some .cancelled) }) ∨
      (s.activity = .joining none ∧ s' = { s with stopping := .cancelling }) ∨
      ((∃ wake, s.activity = .joining (some wake)) ∧
        s' = { s with activity := .joining (some .cancelled) }) := by
  unfold cancel at h
  split at h
  · cases h
  · cases h
  · next hactivity =>
      cases h
      exact Or.inl ⟨hactivity, rfl⟩
  · next hactivity =>
      cases h
      exact Or.inr (Or.inl ⟨⟨_, hactivity⟩, rfl⟩)
  · next hactivity =>
      cases h
      exact Or.inr (Or.inr (Or.inl ⟨⟨_, hactivity⟩, rfl⟩))
  · next hactivity =>
      cases h
      exact Or.inr (Or.inr (Or.inr (Or.inl ⟨hactivity, rfl⟩)))
  · next hactivity =>
      cases h
      exact Or.inr (Or.inr (Or.inr (Or.inr ⟨⟨_, hactivity⟩, rfl⟩)))

/-- What a step of {lit}`stopping` can do. -/
theorem stoppingRuns_cases {s s' : Shutdown} (h : s.stoppingRuns = some s') :
    (s.stopping = .scheduled ∧ s' = { s with stopping := .awaiting, join := .queued }) ∨
      ∃ outcome, (s.stopping = .resuming ∧ outcome = .finished ∨
          s.stopping = .cancelling ∧ outcome = .cancelled) ∧
        (s.activity = .joining none ∧
            s' = { s with stopping := .ended outcome, activity := .joining (some outcome) } ∨
          s.activity ≠ .joining none ∧ s' = { s with stopping := .ended outcome }) := by
  have hends : ∀ outcome, s.activity = .joining none ∧ s.stoppingEnds outcome =
        { s with stopping := .ended outcome, activity := .joining (some outcome) } ∨
      s.activity ≠ .joining none ∧
        s.stoppingEnds outcome = { s with stopping := .ended outcome } := by
    intro outcome
    unfold stoppingEnds
    split
    · next hactivity => exact Or.inl ⟨hactivity, rfl⟩
    · next hactivity => exact Or.inr ⟨hactivity, rfl⟩
  unfold stoppingRuns at h
  split at h
  · next hstopping =>
      cases h
      exact Or.inl ⟨hstopping, rfl⟩
  · next hstopping =>
      cases h
      exact Or.inr ⟨.finished, Or.inl ⟨hstopping, rfl⟩, hends _⟩
  · next hstopping =>
      cases h
      exact Or.inr ⟨.cancelled, Or.inr ⟨hstopping, rfl⟩, hends _⟩
  · cases h

/-- What the end of the loop task can do. -/
theorem loopTaskEnds_cases {s s' : Shutdown} {outcome : TaskEnd}
    (h : s.loopTaskEnds outcome = some s') :
    s.loopTask = .running ∧
      (s.activity = .loopTask none ∧
          s' = { s with loopTask := .ended outcome, activity := .loopTask (some outcome) } ∨
        s.activity ≠ .loopTask none ∧ s' = { s with loopTask := .ended outcome }) := by
  unfold loopTaskEnds at h
  split at h
  · next hloop hactivity =>
      cases h
      exact ⟨hloop, Or.inl ⟨hactivity, rfl⟩⟩
  · next hloop hactivity =>
      cases h
      exact ⟨hloop, Or.inr ⟨hactivity, rfl⟩⟩
  · cases h

/-! ## What every run keeps -/

/-- {lit}`stopping` has been created and has not ended. -/
def Pending : StoppingTask → Prop
  | .scheduled | .awaiting | .resuming | .cancelling => True
  | _ => False

/-- {lit}`stopping` has been created and not been cancelled. -/
def Undisturbed : StoppingTask → Prop
  | .scheduled | .awaiting | .resuming | .ended .finished => True
  | _ => False

/-- How far the worker is, by the state of {lit}`stopping`. -/
def Paired : StoppingTask → JoinCall → Prop
  | .absent, join | .scheduled, join => join = .absent
  | .awaiting, join => join = .queued ∨ join = .running ∨ join = .returned
  | .resuming, join | .ended .finished, join => join = .returned
  | .cancelling, _ | .ended .cancelled, _ => True
  | .ended .failed, _ => False

/-- How far {lit}`stopping` is, by the await that {lit}`disconnect` is in. -/
def Follows : DisconnectActivity → StoppingTask → Prop
  | .start, stopping | .loopTask _, stopping => stopping = .absent
  | .shield none, stopping | .shield (some .cancelled), stopping => Undisturbed stopping
  | .shield (some .finished), stopping => stopping = .ended .finished
  | .shield (some .failed), _ => False
  | .joining none, stopping => Pending stopping
  | .joining (some _), stopping => ∃ outcome, stopping = .ended outcome
  | .ended _, _ => True

/-- What holds after every run. -/
structure Tracked (s : Shutdown) : Prop where
  paired : Paired s.stopping s.join
  follows : Follows s.activity s.stopping
  returned : .loopStopReturned ∈ s.calls ↔ s.join = .returned

/-- At the start, what the parties know of each other is right. -/
theorem tracked_initial (client hasLoopTask connected : Bool) :
    (initial client hasLoopTask connected).Tracked where
  paired := rfl
  follows := rfl
  returned := by simp [initial]

/-- The end of {lit}`disconnect` keeps what the parties know of each other right. -/
theorem Tracked.finish {s : Shutdown} (h : s.Tracked) (raises : Bool) (outcome : TaskEnd) :
    (s.finish raises outcome).Tracked where
  paired := h.paired
  follows := trivial
  returned := by simpa [Shutdown.finish] using h.returned

/-- So does the creation of the task {lit}`stopping`. -/
theorem Tracked.stop {s : Shutdown} (h : s.Tracked) (habsent : s.stopping = .absent) :
    s.stop.Tracked := by
  have hpaired := h.paired
  rw [habsent] at hpaired
  unfold Shutdown.stop
  split
  · exact ⟨hpaired, trivial, h.returned⟩
  · exact ⟨h.paired, trivial, h.returned⟩

/-- So does every step of {lit}`disconnect` itself. -/
theorem Tracked.resume {s s' : Shutdown} {raises : Bool} (h : s.Tracked)
    (hstep : s.resume raises = some s') : s'.Tracked := by
  have hfollows := h.follows
  rcases resume_cases hstep with ⟨hactivity, _, rfl⟩ | ⟨_, _, rfl⟩ | ⟨hactivity, rfl⟩ |
    ⟨hactivity, hrunning, rfl⟩ | ⟨_, outcome, rfl⟩
  · rw [hactivity] at hfollows
    exact ⟨h.paired, hfollows, h.returned⟩
  · exact ⟨h.paired, trivial, h.returned⟩
  · rcases hactivity with hactivity | ⟨wake, hactivity⟩
    · rw [hactivity] at hfollows
      exact h.stop hfollows
    · rw [hactivity] at hfollows
      exact h.stop hfollows
  · refine ⟨h.paired, ?_, h.returned⟩
    rw [hactivity] at hfollows
    change Pending s.stopping
    cases hstopping : s.stopping with
    | ended outcome => exact absurd hstopping (hrunning outcome)
    | absent =>
        rw [hstopping] at hfollows
        exact hfollows.elim
    | scheduled | awaiting | resuming | cancelling => trivial
  · exact h.finish raises outcome

/-- So does a cancellation, wherever it goes. -/
theorem Tracked.cancel {s s' : Shutdown} (h : s.Tracked) (hstep : s.cancel = some s') :
    s'.Tracked := by
  have hfollows := h.follows
  rcases cancel_cases hstep with ⟨_, rfl⟩ | ⟨⟨wake, hactivity⟩, rfl⟩ | ⟨⟨wake, hactivity⟩, rfl⟩ |
    ⟨hactivity, rfl⟩ | ⟨⟨wake, hactivity⟩, rfl⟩
  · exact h
  · rw [hactivity] at hfollows
    exact ⟨h.paired, hfollows, h.returned⟩
  · refine ⟨h.paired, ?_, h.returned⟩
    rw [hactivity] at hfollows
    rcases wake with _ | _ | _ | _
    · exact hfollows
    · change Undisturbed s.stopping
      rw [show s.stopping = .ended .finished from hfollows]
      trivial
    · exact hfollows
    · exact hfollows.elim
  · refine ⟨trivial, ?_, h.returned⟩
    change Follows s.activity .cancelling
    rw [hactivity]
    trivial
  · rw [hactivity] at hfollows
    exact ⟨h.paired, hfollows, h.returned⟩

/-- {lit}`stopping` goes on without ending. -/
theorem Follows.of_pending {activity : DisconnectActivity} {x y : StoppingTask}
    (h : Follows activity x) (hx : Pending x) (hy : Pending y) (hkept : Undisturbed y) :
    Follows activity y := by
  cases activity with
  | start | loopTask _ =>
      rw [show x = .absent from h] at hx
      exact hx.elim
  | shield wake =>
      rcases wake with _ | _ | _ | _
      · exact hkept
      · rw [show x = .ended .finished from h] at hx
        exact hx.elim
      · exact hkept
      · exact h.elim
  | joining wake =>
      rcases wake with _ | wake
      · exact hy
      · rcases h with ⟨outcome, rfl⟩
        exact hx.elim
  | ended _ => trivial

/-- {lit}`stopping` ends while nothing awaits it directly. -/
theorem Follows.of_ended {activity : DisconnectActivity} {x : StoppingTask} {outcome : TaskEnd}
    (h : Follows activity x) (hnot : activity ≠ .joining none)
    (hx : x = .resuming ∧ outcome = .finished ∨ x = .cancelling ∧ outcome = .cancelled) :
    Follows activity (.ended outcome) := by
  cases activity with
  | start | loopTask _ => rcases hx with ⟨rfl, _⟩ | ⟨rfl, _⟩ <;> cases h
  | shield wake =>
      rcases hx with ⟨rfl, rfl⟩ | ⟨rfl, _⟩
      · rcases wake with _ | _ | _ | _
        · trivial
        · cases h
        · trivial
        · exact h
      · rcases wake with _ | _ | _ | _ <;> cases h
  | joining wake =>
      rcases wake with _ | wake
      · exact absurd rfl hnot
      · exact ⟨outcome, rfl⟩
  | ended _ => trivial

/-- So does every step of the task {lit}`stopping`. -/
theorem Tracked.stoppingRuns {s s' : Shutdown} (h : s.Tracked)
    (hstep : s.stoppingRuns = some s') : s'.Tracked := by
  have hpaired := h.paired
  have hfollows := h.follows
  rcases stoppingRuns_cases hstep with ⟨hstopping, rfl⟩ | ⟨outcome, hstopping, hends⟩
  · rw [hstopping] at hpaired hfollows
    have hnot : .loopStopReturned ∉ s.calls := by
      rw [h.returned, show s.join = .absent from hpaired]
      exact nofun
    exact ⟨Or.inl rfl, hfollows.of_pending trivial trivial trivial,
      ⟨fun hmem => absurd hmem hnot, nofun⟩⟩
  · have hpaired' : Paired (.ended outcome) s.join := by
      rcases hstopping with ⟨hstopping, rfl⟩ | ⟨hstopping, rfl⟩
      · rw [hstopping] at hpaired
        exact hpaired
      · trivial
    rcases hends with ⟨_, rfl⟩ | ⟨hnot, rfl⟩
    · exact ⟨hpaired', ⟨outcome, rfl⟩, h.returned⟩
    · exact ⟨hpaired', hfollows.of_ended hnot hstopping, h.returned⟩

/-- Every step keeps the worker, {lit}`stopping` and {lit}`disconnect` in agreement. -/
theorem Tracked.step {s s' : Shutdown} {l : ShutdownStep} (h : s.Tracked)
    (hstep : s.step l = some s') : s'.Tracked := by
  have hpaired := h.paired
  have hfollows := h.follows
  cases l with
  | resume raises => exact h.resume hstep
  | cancel => exact h.cancel hstep
  | loopTaskEnds outcome =>
      rcases loopTaskEnds_cases hstep with ⟨_, ⟨hactivity, rfl⟩ | ⟨_, rfl⟩⟩
      · rw [hactivity] at hfollows
        exact ⟨hpaired, hfollows, h.returned⟩
      · exact ⟨hpaired, hfollows, h.returned⟩
  | stoppingRuns => exact h.stoppingRuns hstep
  | workerStarts =>
      rcases Option.ite_none_right_eq_some.mp hstep with ⟨hqueued, hs'⟩
      cases hs'
      have hreturned := h.returned
      rw [hqueued] at hpaired hreturned
      refine ⟨?_, hfollows, ?_⟩
      · change Paired s.stopping .running
        cases hstopping : s.stopping with
        | awaiting => exact Or.inr (Or.inl rfl)
        | cancelling => trivial
        | ended outcome =>
            rw [hstopping] at hpaired
            cases outcome with
            | finished => cases hpaired
            | cancelled => trivial
            | failed => exact hpaired
        | absent | scheduled | resuming =>
            rw [hstopping] at hpaired
            cases hpaired
      · exact ⟨fun hmem => absurd (hreturned.mp hmem) nofun, nofun⟩
  | workerDrops =>
      rcases Option.ite_none_right_eq_some.mp hstep with ⟨⟨hqueued, hcancelled⟩, hs'⟩
      cases hs'
      have hreturned := h.returned
      rw [hqueued] at hreturned
      refine ⟨?_, hfollows, ⟨fun hmem => absurd (hreturned.mp hmem) nofun, nofun⟩⟩
      change Paired s.stopping .dropped
      rcases hcancelled with hcancelled | hcancelled
      · rw [hcancelled]
        trivial
      · rw [hcancelled]
        trivial
  | workerReturns =>
      rcases Option.ite_none_right_eq_some.mp hstep with ⟨hrunning, hs'⟩
      cases hs'
      rw [hrunning] at hpaired
      refine ⟨?_, hfollows, by simp⟩
      change Paired s.stopping .returned
      cases hstopping : s.stopping with
      | awaiting => exact Or.inr (Or.inr rfl)
      | cancelling | resuming => trivial
      | ended outcome =>
          rw [hstopping] at hpaired
          cases outcome with
          | finished | cancelled => trivial
          | failed => exact hpaired
      | absent | scheduled =>
          rw [hstopping] at hpaired
          cases hpaired
  | resultArrives =>
      rcases Option.ite_none_right_eq_some.mp hstep with ⟨⟨hreturned, hstopping⟩, hs'⟩
      cases hs'
      rw [hstopping] at hfollows
      exact ⟨hreturned, hfollows.of_pending trivial trivial trivial, h.returned⟩
  | shieldSettles =>
      simp only [Shutdown.step] at hstep
      split at hstep
      · next hactivity hended =>
          cases hstep
          refine ⟨hpaired, ?_, h.returned⟩
          rw [hactivity, hended] at hfollows
          rename_i outcome
          cases outcome with
          | finished => exact hended
          | cancelled | failed => exact hfollows.elim
      · cases hstep
  | connection up =>
      simp only [Shutdown.step] at hstep
      split at hstep
      · cases hstep
      · cases hstep
        exact ⟨hpaired, hfollows, h.returned⟩

theorem tracked_of_run {client hasLoopTask connected : Bool} {steps : List ShutdownStep}
    {s : Shutdown} (hrun : (machine client hasLoopTask connected).Run steps s) : s.Tracked :=
  Machine.Run.invariant (P := fun _ s => s.Tracked)
    (tracked_initial client hasLoopTask connected) (fun _ _ _ _ _ h hstep => h.step hstep) hrun

/-! ## While nothing cancels the direct wait -/

/-- {lit}`disconnect` is in {lit}`await stopping`. -/
def joins (s : Shutdown) : Bool :=
  match s.activity with
  | .joining _ => true
  | _ => false

/-- A cancellation reaches {lit}`disconnect` in {lit}`await stopping` before {lit}`loop_stop` has
returned. -/
def CancelsJoin (s : Shutdown) (l : ShutdownStep) : Prop :=
  l = .cancel ∧ s.joins = true ∧ s.join ≠ .returned

/-- Nothing cancels the direct wait, and a loop task, if there were one, raises nothing but
{lit}`CancelledError`. -/
def JoinsInPeace (s : Shutdown) (l : ShutdownStep) : Prop :=
  ¬s.CancelsJoin l ∧ l ≠ .loopTaskEnds .failed

instance (s : Shutdown) (l : ShutdownStep) : Decidable (s.CancelsJoin l) :=
  inferInstanceAs (Decidable (_ ∧ _ ∧ _))

instance (s : Shutdown) (l : ShutdownStep) : Decidable (s.JoinsInPeace l) :=
  inferInstanceAs (Decidable (¬_ ∧ _))

/-- {lit}`disconnect` has ended. -/
def Ended (s : Shutdown) : Prop :=
  ∃ outcome, s.activity = .ended outcome

/-- What holds after every run in which nothing cancels the direct wait. -/
structure InOrder (s : Shutdown) : Prop where
  tracked : s.Tracked
  client : s.client = true
  loopTask : s.loopTask ≠ .ended .failed ∧ s.activity ≠ .loopTask (some .failed) ∧
    (s.activity = .loopTask none → s.loopTask = .running)
  /-- {lit}`stopping` is not cancelled before {lit}`loop_stop` has returned. -/
  joined : s.stopping = .cancelling ∨ s.stopping = .ended .cancelled → s.join = .returned
  running : ¬s.Ended → s.calls = if s.join = .returned then [.loopStopReturned] else []
  ended : s.Ended → s.calls = [.loopStopReturned, .disconnect] ∧ s.join = .returned ∧
    s.connected = false

/-- Nothing is out of order at the start. -/
theorem inOrder_initial (hasLoopTask connected : Bool) :
    (initial true hasLoopTask connected).InOrder where
  tracked := tracked_initial true hasLoopTask connected
  client := rfl
  loopTask := by cases hasLoopTask <;> simp [initial]
  joined := by simp [initial]
  running := fun _ => rfl
  ended := by simp [Ended, initial]

/-- A step that calls nothing. -/
theorem InOrder.of_same {s s' : Shutdown} (h : s.InOrder) (htracked : s'.Tracked)
    (hclient : s'.client = s.client) (hcalls : s'.calls = s.calls)
    (hreturned : s'.join = .returned ↔ s.join = .returned)
    (hloopTask : s'.loopTask ≠ .ended .failed ∧ s'.activity ≠ .loopTask (some .failed) ∧
      (s'.activity = .loopTask none → s'.loopTask = .running))
    (hjoined : s'.stopping = .cancelling ∨ s'.stopping = .ended .cancelled → s'.join = .returned)
    (hended : s'.Ended ↔ s.Ended) (hconnected : s.Ended → s'.connected = s.connected) :
    s'.InOrder where
  tracked := htracked
  client := hclient.trans h.client
  loopTask := hloopTask
  joined := hjoined
  running := by
    intro hnot
    rw [hcalls, h.running (mt hended.mpr hnot)]
    simp only [hreturned]
  ended := by
    intro hend
    rcases h.ended (hended.mp hend) with ⟨hlog, hjoin, hclear⟩
    exact ⟨hcalls.trans hlog, hreturned.mpr hjoin, (hconnected (hended.mp hend)).trans hclear⟩

/-- A step in which {lit}`disconnect` only goes on to another await. -/
theorem InOrder.of_activity {s : Shutdown} (h : s.InOrder) {target : DisconnectActivity}
    (htracked : Tracked { s with activity := target }) (hnot : ¬s.Ended)
    (htarget : ∀ outcome, target ≠ .ended outcome)
    (hloopTask : target ≠ .loopTask (some .failed) ∧
      (target = .loopTask none → s.loopTask = .running)) :
    InOrder { s with activity := target } := by
  have hends : ¬Ended { s with activity := target } := by
    rintro ⟨outcome, hended⟩
    exact htarget outcome hended
  exact h.of_same htracked rfl rfl Iff.rfl ⟨h.loopTask.1, hloopTask.1, hloopTask.2⟩ h.joined
    (iff_of_false hends hnot) fun _ => rfl

/-- Where the {lit}`finally` block is entered, {lit}`loop_stop` has returned. -/
theorem InOrder.returned_of_awaited {s : Shutdown} (h : s.InOrder) (hawaited : s.Awaited) :
    s.join = .returned := by
  have hpaired := h.tracked.paired
  have hfollows := h.tracked.follows
  have hfinished : ∀ outcome, s.stopping = .ended outcome → s.join = .returned := by
    rintro (_ | _ | _) hstopping
    · rw [hstopping] at hpaired
      exact hpaired
    · exact h.joined (Or.inr hstopping)
    · rw [hstopping] at hpaired
      exact hpaired.elim
  rcases hawaited with ⟨wake, hactivity, hcancelled⟩ | ⟨wake, hactivity⟩
  · rw [hactivity] at hfollows
    cases wake with
    | finished => exact hfinished _ hfollows
    | cancelled =>
        rcases hcancelled rfl with ⟨outcome, hstopping⟩
        exact hfinished outcome hstopping
    | failed => exact hfollows.elim
  · rw [hactivity] at hfollows
    rcases hfollows with ⟨outcome, hstopping⟩
    exact hfinished outcome hstopping

/-- Whoever awaits something has not ended. -/
theorem not_ended_of_awaited {s : Shutdown} (h : s.Awaited) : ¬s.Ended := by
  rintro ⟨outcome, hended⟩
  rcases h with ⟨wake, hactivity, _⟩ | ⟨wake, hactivity⟩
  · rw [hended] at hactivity
    cases hactivity
  · rw [hended] at hactivity
    cases hactivity

/-- A step of {lit}`disconnect` itself keeps the order. -/
theorem InOrder.resume {s s' : Shutdown} {raises : Bool} (h : s.InOrder)
    (hstep : s.resume raises = some s') : s'.InOrder := by
  have htracked := h.tracked.resume hstep
  rcases resume_cases hstep with ⟨hactivity, hloop, rfl⟩ | ⟨hfailed, _, rfl⟩ | ⟨hactivity, rfl⟩ |
    ⟨hactivity, _, rfl⟩ | ⟨hawaited, outcome, rfl⟩
  · exact h.of_activity htracked (by simp [Ended, hactivity]) nofun ⟨nofun, fun _ => hloop⟩
  · exact (hfailed.elim h.loopTask.1 h.loopTask.2.1).elim
  · have hstop : s.stop = { s with stopping := .scheduled, activity := .shield none } :=
      if_pos h.client
    rw [hstop] at htracked ⊢
    refine h.of_same htracked rfl rfl Iff.rfl ⟨h.loopTask.1, nofun, nofun⟩ (by simp) ?_
      fun _ => rfl
    rcases hactivity with hactivity | ⟨wake, hactivity⟩
    · simp [Ended, hactivity]
    · simp [Ended, hactivity]
  · exact h.of_activity htracked (by simp [Ended, hactivity]) nofun ⟨nofun, nofun⟩
  · have hjoin := h.returned_of_awaited hawaited
    have hcalls := h.running (not_ended_of_awaited hawaited)
    rw [if_pos hjoin] at hcalls
    refine ⟨htracked, h.client, ⟨h.loopTask.1, nofun, nofun⟩, h.joined, ?_, ?_⟩
    · intro hnot
      exact absurd ⟨_, rfl⟩ hnot
    · intro _
      exact ⟨by rw [finish, hcalls]; rfl, hjoin, rfl⟩

/-- A cancellation that leaves the direct wait in peace keeps the order. -/
theorem InOrder.cancel {s s' : Shutdown} (h : s.InOrder)
    (hpeace : ¬s.CancelsJoin .cancel) (hstep : s.cancel = some s') : s'.InOrder := by
  have htracked := h.tracked.cancel hstep
  rcases cancel_cases hstep with ⟨_, rfl⟩ | ⟨⟨wake, hactivity⟩, rfl⟩ | ⟨⟨wake, hactivity⟩, rfl⟩ |
    ⟨hactivity, rfl⟩ | ⟨⟨wake, hactivity⟩, rfl⟩
  · exact h
  · exact h.of_activity htracked (by simp [Ended, hactivity]) nofun ⟨nofun, nofun⟩
  · exact h.of_activity htracked (by simp [Ended, hactivity]) nofun ⟨nofun, nofun⟩
  · have hjoins : s.joins = true := by simp [joins, hactivity]
    have hjoin : s.join = .returned := by
      by_contra hnot
      exact hpeace ⟨rfl, hjoins, hnot⟩
    exact h.of_same htracked rfl rfl Iff.rfl h.loopTask (fun _ => hjoin) Iff.rfl fun _ => rfl
  · exact h.of_activity htracked (by simp [Ended, hactivity]) nofun ⟨nofun, nofun⟩

/-- A step of the task {lit}`stopping` keeps the order. -/
theorem InOrder.stoppingRuns {s s' : Shutdown} (h : s.InOrder)
    (hstep : s.stoppingRuns = some s') : s'.InOrder := by
  have htracked := h.tracked.stoppingRuns hstep
  have hpaired := h.tracked.paired
  rcases stoppingRuns_cases hstep with ⟨hstopping, rfl⟩ | ⟨outcome, hstopping, hends⟩
  · rw [hstopping] at hpaired
    have hjoin : s.join = .absent := hpaired
    exact h.of_same htracked rfl rfl (by simp [hjoin]) h.loopTask (by simp) Iff.rfl fun _ => rfl
  · have hjoined : s.join = .returned := by
      rcases hstopping with ⟨hstopping, _⟩ | ⟨hstopping, _⟩
      · rw [hstopping] at hpaired
        exact hpaired
      · exact h.joined (Or.inl hstopping)
    rcases hends with ⟨hactivity, rfl⟩ | ⟨_, rfl⟩
    · exact h.of_same htracked rfl rfl Iff.rfl ⟨h.loopTask.1, nofun, nofun⟩ (fun _ => hjoined)
        (by simp [Ended, hactivity]) fun _ => rfl
    · exact h.of_same htracked rfl rfl Iff.rfl h.loopTask (fun _ => hjoined) Iff.rfl fun _ => rfl

/-- A step that leaves the direct wait in peace keeps the order. -/
theorem InOrder.step {s s' : Shutdown} {l : ShutdownStep} (h : s.InOrder)
    (hpeace : s.JoinsInPeace l) (hstep : s.step l = some s') : s'.InOrder := by
  have htracked := h.tracked.step hstep
  cases l with
  | resume raises => exact h.resume hstep
  | cancel => exact h.cancel hpeace.1 hstep
  | stoppingRuns => exact h.stoppingRuns hstep
  | loopTaskEnds outcome =>
      have hfailed : outcome ≠ .failed := fun hfailed => hpeace.2 (by rw [hfailed])
      rcases loopTaskEnds_cases hstep with ⟨_, ⟨hactivity, rfl⟩ | ⟨hactivity, rfl⟩⟩
      · exact h.of_same htracked rfl rfl Iff.rfl
          ⟨by simpa using hfailed, by simpa using hfailed, nofun⟩ h.joined
          (by simp [Ended, hactivity]) fun _ => rfl
      · exact h.of_same htracked rfl rfl Iff.rfl
          ⟨by simpa using hfailed, h.loopTask.2.1, fun hnone => absurd hnone hactivity⟩ h.joined
          Iff.rfl fun _ => rfl
  | workerStarts =>
      rcases Option.ite_none_right_eq_some.mp hstep with ⟨hqueued, hs'⟩
      cases hs'
      have hundisturbed : ¬(s.stopping = .cancelling ∨ s.stopping = .ended .cancelled) := by
        intro hcancelled
        rw [h.joined hcancelled] at hqueued
        cases hqueued
      exact h.of_same htracked rfl rfl (by simp [hqueued]) h.loopTask
        (fun hcancelled => absurd hcancelled hundisturbed) Iff.rfl fun _ => rfl
  | workerDrops =>
      rcases Option.ite_none_right_eq_some.mp hstep with ⟨⟨hqueued, hcancelled⟩, _⟩
      rw [h.joined hcancelled] at hqueued
      cases hqueued
  | workerReturns =>
      rcases Option.ite_none_right_eq_some.mp hstep with ⟨hrunning, hs'⟩
      cases hs'
      have hnot : ¬s.Ended := by
        intro hended
        rw [(h.ended hended).2.1] at hrunning
        cases hrunning
      have hcalls := h.running hnot
      rw [if_neg (by simp [hrunning])] at hcalls
      refine ⟨htracked, h.client, h.loopTask, fun _ => rfl, ?_, ?_⟩
      · intro _
        simp [hcalls]
      · intro hended
        exact absurd hended hnot
  | resultArrives =>
      rcases Option.ite_none_right_eq_some.mp hstep with ⟨⟨hreturned, _⟩, hs'⟩
      cases hs'
      exact h.of_same htracked rfl rfl Iff.rfl h.loopTask (fun _ => hreturned) Iff.rfl fun _ => rfl
  | shieldSettles =>
      simp only [Shutdown.step] at hstep
      split at hstep
      · next hactivity _ =>
          cases hstep
          exact h.of_activity htracked (by simp [Ended, hactivity]) nofun ⟨nofun, nofun⟩
      · cases hstep
  | connection up =>
      simp only [Shutdown.step] at hstep
      split at hstep
      · cases hstep
      · next hactive =>
          cases hstep
          exact h.of_same htracked rfl rfl Iff.rfl h.loopTask h.joined Iff.rfl
            fun ⟨outcome, hended⟩ => absurd hended (hactive outcome)

/-! ## How long a shutdown takes -/

/-- The steps {lit}`disconnect` can still take. -/
def activityRank : DisconnectActivity → Nat
  | .start => 7
  | .loopTask none => 6
  | .loopTask (some _) => 5
  | .shield none => 4
  | .shield (some _) => 3
  | .joining none => 2
  | .joining (some _) => 1
  | .ended _ => 0

/-- The steps {lit}`stopping` can still take. -/
def stoppingRank : StoppingTask → Nat
  | .absent => 4
  | .scheduled => 3
  | .awaiting => 2
  | .resuming | .cancelling => 1
  | .ended _ => 0

/-- The steps the worker can still take. -/
def joinRank : JoinCall → Nat
  | .absent => 3
  | .queued => 2
  | .running => 1
  | .returned | .dropped => 0

/-- The steps the loop task can still take. -/
def loopTaskRank : LoopTask → Nat
  | .running => 1
  | .absent | .ended _ => 0

/-- The steps that can still be taken, apart from cancellations and connection events. -/
def rank (s : Shutdown) : Nat :=
  activityRank s.activity + stoppingRank s.stopping + joinRank s.join + loopTaskRank s.loopTask

/-- The creation of {lit}`stopping` lowers the rank. -/
theorem rank_stop {s : Shutdown} (habsent : s.stopping = .absent)
    (hactivity : 5 ≤ activityRank s.activity) : s.stop.rank < s.rank := by
  have hbefore : stoppingRank s.stopping = 4 := by rw [habsent]; rfl
  unfold stop
  split
  · change 4 + 3 + joinRank s.join + loopTaskRank s.loopTask < s.rank
    unfold rank
    omega
  · change 0 + stoppingRank s.stopping + joinRank s.join + loopTaskRank s.loopTask < s.rank
    unfold rank
    omega

/-- A step of {lit}`disconnect` itself lowers the rank. -/
theorem rank_resume {s s' : Shutdown} {raises : Bool} (h : s.Tracked)
    (hstep : s.resume raises = some s') : s'.rank < s.rank := by
  have hfollows := h.follows
  rcases resume_cases hstep with ⟨hactivity, _, rfl⟩ | ⟨_, hactivity, rfl⟩ | ⟨hactivity, rfl⟩ |
    ⟨hactivity, _, rfl⟩ | ⟨hawaited, outcome, rfl⟩
  · simp [rank, activityRank, hactivity]
  · rcases hactivity with hactivity | ⟨wake, hactivity⟩
    · simp [rank, activityRank, hactivity]
    · simp [rank, activityRank, hactivity]
  · rcases hactivity with hactivity | ⟨wake, hactivity⟩
    · rw [hactivity] at hfollows
      exact rank_stop hfollows (by simp [hactivity, activityRank])
    · rw [hactivity] at hfollows
      exact rank_stop hfollows (by simp [hactivity, activityRank])
  · simp [rank, activityRank, hactivity]
  · rcases hawaited with ⟨wake, hactivity, _⟩ | ⟨wake, hactivity⟩
    · simp [rank, finish, activityRank, hactivity]
    · simp [rank, finish, activityRank, hactivity]

/-- A cancellation does not raise the rank. -/
theorem rank_cancel {s s' : Shutdown} (h : s.Tracked) (hstep : s.cancel = some s') :
    s'.rank ≤ s.rank := by
  have hfollows := h.follows
  rcases cancel_cases hstep with ⟨_, rfl⟩ | ⟨⟨wake, hactivity⟩, rfl⟩ | ⟨⟨wake, hactivity⟩, rfl⟩ |
    ⟨hactivity, rfl⟩ | ⟨⟨wake, hactivity⟩, rfl⟩
  · exact Nat.le_refl _
  · simp [rank, activityRank, hactivity]
  · cases wake with
    | none => simp [rank, activityRank, hactivity]
    | some wake => simp [rank, activityRank, hactivity]
  · rw [hactivity] at hfollows
    have hpending : 1 ≤ stoppingRank s.stopping := by
      cases hstopping : s.stopping with
      | absent | ended outcome =>
          rw [hstopping] at hfollows
          exact hfollows.elim
      | scheduled | awaiting | resuming | cancelling => simp [stoppingRank]
    change activityRank s.activity + 1 + joinRank s.join + loopTaskRank s.loopTask ≤ s.rank
    unfold rank
    omega
  · simp [rank, activityRank, hactivity]

/-- A step of {lit}`stopping` lowers the rank. -/
theorem rank_stoppingRuns {s s' : Shutdown} (h : s.Tracked)
    (hstep : s.stoppingRuns = some s') : s'.rank < s.rank := by
  have hpaired := h.paired
  rcases stoppingRuns_cases hstep with ⟨hstopping, rfl⟩ | ⟨outcome, hstopping, hends⟩
  · rw [hstopping] at hpaired
    have hjoin : s.join = .absent := hpaired
    simp only [rank, stoppingRank, joinRank, hstopping, hjoin]
    omega
  · have hone : stoppingRank s.stopping = 1 := by
      rcases hstopping with ⟨hstopping, _⟩ | ⟨hstopping, _⟩
      · rw [hstopping]
        rfl
      · rw [hstopping]
        rfl
    rcases hends with ⟨hactivity, rfl⟩ | ⟨_, rfl⟩
    · have htwo : activityRank s.activity = 2 := by rw [hactivity]; rfl
      change 1 + 0 + joinRank s.join + loopTaskRank s.loopTask < s.rank
      unfold rank
      omega
    · change activityRank s.activity + 0 + joinRank s.join + loopTaskRank s.loopTask < s.rank
      unfold rank
      omega

/-- Every step but a cancellation or a connection event leaves fewer steps to take, and these
two leave no more. -/
theorem rank_step {s s' : Shutdown} {l : ShutdownStep} (h : s.Tracked)
    (hstep : s.step l = some s') : s'.rank ≤ s.rank ∧ (l.own = true → s'.rank < s.rank) := by
  have hless : s'.rank < s.rank → s'.rank ≤ s.rank ∧ (l.own = true → s'.rank < s.rank) :=
    fun hless => ⟨Nat.le_of_lt hless, fun _ => hless⟩
  cases l with
  | resume raises => exact hless (rank_resume h hstep)
  | cancel => exact ⟨rank_cancel h hstep, nofun⟩
  | stoppingRuns => exact hless (rank_stoppingRuns h hstep)
  | loopTaskEnds outcome =>
      refine hless ?_
      rcases loopTaskEnds_cases hstep with ⟨hloop, ⟨hactivity, rfl⟩ | ⟨_, rfl⟩⟩
      · simp only [rank, activityRank, loopTaskRank, hactivity, hloop]
        omega
      · simp [rank, loopTaskRank, hloop]
  | workerStarts =>
      rcases Option.ite_none_right_eq_some.mp hstep with ⟨hqueued, hs'⟩
      cases hs'
      refine hless ?_
      simp [rank, joinRank, hqueued]
  | workerDrops =>
      rcases Option.ite_none_right_eq_some.mp hstep with ⟨⟨hqueued, _⟩, hs'⟩
      cases hs'
      refine hless ?_
      simp [rank, joinRank, hqueued]
  | workerReturns =>
      rcases Option.ite_none_right_eq_some.mp hstep with ⟨hrunning, hs'⟩
      cases hs'
      refine hless ?_
      simp [rank, joinRank, hrunning]
  | resultArrives =>
      rcases Option.ite_none_right_eq_some.mp hstep with ⟨⟨_, hawaiting⟩, hs'⟩
      cases hs'
      refine hless ?_
      simp [rank, stoppingRank, hawaiting]
  | shieldSettles =>
      refine hless ?_
      simp only [Shutdown.step] at hstep
      split at hstep
      · next hactivity _ =>
          cases hstep
          simp [rank, activityRank, hactivity]
      · cases hstep
  | connection up =>
      simp only [Shutdown.step] at hstep
      split at hstep
      · cases hstep
      · cases hstep
        exact ⟨Nat.le_refl _, nofun⟩

/-- A step of one of the parties that leaves the direct wait in peace. -/
def Moves (s : Shutdown) : Prop :=
  ∃ l s', l.own = true ∧ s.JoinsInPeace l ∧ s.step l = some s'

/-- A step that a party can take and that is no cancellation is a move. -/
theorem moves_of_step {s s' : Shutdown} {l : ShutdownStep} (hstep : s.step l = some s')
    (hown : l.own = true) (hloop : l ≠ .loopTaskEnds .failed) : s.Moves := by
  refine ⟨l, s', hown, ⟨?_, hloop⟩, hstep⟩
  rintro ⟨rfl, _⟩
  cases hown

/-- As long as {lit}`stopping` has not ended, it or the worker can take a step. -/
theorem Tracked.moves_of_pending {s : Shutdown} (h : s.Tracked) (hpending : Pending s.stopping) :
    s.Moves := by
  have hpaired := h.paired
  cases hstopping : s.stopping with
  | absent | ended outcome =>
      rw [hstopping] at hpending
      exact hpending.elim
  | scheduled =>
      have hstep : s.step .stoppingRuns =
          some { s with stopping := .awaiting, join := .queued } := by
        simp [Shutdown.step, Shutdown.stoppingRuns, hstopping]
      exact moves_of_step hstep rfl nofun
  | resuming =>
      have hstep : s.step .stoppingRuns = some (s.stoppingEnds .finished) := by
        simp [Shutdown.step, Shutdown.stoppingRuns, hstopping]
      exact moves_of_step hstep rfl nofun
  | cancelling =>
      have hstep : s.step .stoppingRuns = some (s.stoppingEnds .cancelled) := by
        simp [Shutdown.step, Shutdown.stoppingRuns, hstopping]
      exact moves_of_step hstep rfl nofun
  | awaiting =>
      rw [hstopping] at hpaired
      rcases hpaired with hqueued | hrunning | hreturned
      · exact moves_of_step (l := .workerStarts) (if_pos hqueued) rfl nofun
      · exact moves_of_step (l := .workerReturns) (if_pos hrunning) rfl nofun
      · exact moves_of_step (l := .resultArrives) (if_pos ⟨hreturned, hstopping⟩) rfl nofun

/-- If {lit}`disconnect` can go on, there is a move. -/
theorem moves_of_resume {s : Shutdown} (h : (s.resume false).isSome = true) : s.Moves := by
  rcases Option.isSome_iff_exists.mp h with ⟨s', hresume⟩
  exact moves_of_step (l := .resume false) hresume rfl nofun

/-- A shutdown that has not ended can go on without a cancellation. -/
theorem InOrder.moves {s : Shutdown} (h : s.InOrder) (hnot : ¬s.Ended) : s.Moves := by
  have hfollows := h.tracked.follows
  cases hactivity : s.activity with
  | start =>
      cases hloop : s.loopTask with
      | running => exact moves_of_resume (by simp [Shutdown.resume, hactivity, hloop])
      | absent => exact moves_of_resume (by simp [Shutdown.resume, hactivity, hloop])
      | ended outcome =>
          cases outcome with
          | failed => exact absurd hloop h.loopTask.1
          | finished => exact moves_of_resume (by simp [Shutdown.resume, hactivity, hloop])
          | cancelled => exact moves_of_resume (by simp [Shutdown.resume, hactivity, hloop])
  | loopTask wake =>
      rcases wake with _ | _ | _ | _
      · have hstep : s.step (.loopTaskEnds .cancelled) =
            some { s with
              loopTask := .ended .cancelled
              activity := .loopTask (some .cancelled) } := by
          simp [Shutdown.step, Shutdown.loopTaskEnds, hactivity, h.loopTask.2.2 hactivity]
        exact moves_of_step hstep rfl nofun
      · exact moves_of_resume (by simp [Shutdown.resume, hactivity])
      · exact moves_of_resume (by simp [Shutdown.resume, hactivity])
      · exact absurd hactivity h.loopTask.2.1
  | shield wake =>
      rw [hactivity] at hfollows
      rcases wake with _ | _ | _ | _
      · by_cases hpending : Pending s.stopping
        · exact h.tracked.moves_of_pending hpending
        · have hended : s.stopping = .ended .finished := by
            cases hstopping : s.stopping with
            | ended outcome =>
                rw [hstopping] at hfollows
                cases outcome with
                | finished => rfl
                | cancelled | failed => exact hfollows.elim
            | absent =>
                rw [hstopping] at hfollows
                exact hfollows.elim
            | scheduled | awaiting | resuming | cancelling =>
                rw [hstopping] at hpending
                exact absurd trivial hpending
          have hstep : s.step .shieldSettles =
              some { s with activity := .shield (some .finished) } := by
            simp [Shutdown.step, hactivity, hended]
          exact moves_of_step hstep rfl nofun
      · exact moves_of_resume (by simp [Shutdown.resume, hactivity])
      · refine moves_of_resume ?_
        simp only [Shutdown.resume, hactivity]
        split <;> rfl
      · exact hfollows.elim
  | joining wake =>
      rw [hactivity] at hfollows
      rcases wake with _ | _ | _ | _
      · exact h.tracked.moves_of_pending hfollows
      · exact moves_of_resume (by simp [Shutdown.resume, hactivity])
      · exact moves_of_resume (by simp [Shutdown.resume, hactivity])
      · exact moves_of_resume (by simp [Shutdown.resume, hactivity])
  | ended outcome => exact absurd ⟨outcome, hactivity⟩ hnot

/-! ## The order of the calls -/

/-- As long as no cancellation reaches {lit}`disconnect` in its direct wait before
{lit}`loop_stop` has returned, paho's {lit}`disconnect` is called once, after the return, and
{lit}`_connected` is clear at the end, which comes after at most fifteen steps that are no
cancellations and no connection events. -/
theorem shutdown_in_order {hasLoopTask connected : Bool} {steps : List ShutdownStep}
    {s : Shutdown}
    (hrun : (machine true hasLoopTask connected).GuardedRun JoinsInPeace steps s) :
    s.calls <+: [.loopStopReturned, .disconnect] ∧
      (s.Ended → s.calls = [.loopStopReturned, .disconnect] ∧ s.connected = false) ∧
      (¬s.Ended → s.Moves) ∧
      steps.countP ShutdownStep.own ≤ 15 := by
  have h : s.InOrder :=
    Machine.GuardedRun.invariant (P := fun _ s => s.InOrder)
      (inOrder_initial hasLoopTask connected)
      (fun _ _ _ _ _ h hpeace hstep => h.step hpeace hstep) hrun
  refine ⟨?_, fun hended => ⟨(h.ended hended).1, (h.ended hended).2.2⟩, h.moves, ?_⟩
  · by_cases hended : s.Ended
    · exact ⟨[], by simp [(h.ended hended).1]⟩
    · rw [h.running hended]
      split
      · exact ⟨[.disconnect], rfl⟩
      · exact List.nil_prefix
  · have hbound := Machine.Run.countP_add_rank_le rank ShutdownStep.own
      (fun _ _ _ ⟨_, hs⟩ hstep => (rank_step (tracked_of_run hs) hstep).2)
      (fun _ _ _ ⟨_, hs⟩ hstep => (rank_step (tracked_of_run hs) hstep).1) hrun.toRun
    have hinitial : (machine true hasLoopTask connected).init.rank ≤ 15 := by
      cases hasLoopTask <;> simp [machine, initial, rank, activityRank, stoppingRank, joinRank,
        loopTaskRank]
    omega

/-- A shutdown that is cancelled behind the shield and again after the return. -/
def twiceCancelled : List ShutdownStep :=
  [.resume false, .stoppingRuns, .workerStarts, .cancel, .connection true, .resume false,
    .workerReturns, .cancel, .stoppingRuns, .resume false]

/-- Two cancellations that both come in time are raised after an orderly end. -/
theorem shutdown_in_order_twice_cancelled :
    ∃ s, (machine true false true).GuardedRun JoinsInPeace twiceCancelled s ∧
      s.activity = .ended .cancelled ∧ s.calls = [.loopStopReturned, .disconnect] ∧
      s.connected = false := by
  have hexec : ((machine true false true).guardedExec JoinsInPeace (initial true false true)
      twiceCancelled).map Shutdown.activity = some (.ended .cancelled) := by
    decide +kernel
  rcases Option.map_eq_some_iff.mp hexec with ⟨s, hs, hactivity⟩
  have hrun := Machine.guardedRun_of_guardedExec hs
  exact ⟨s, hrun, hactivity, (shutdown_in_order hrun).2.1 ⟨_, hactivity⟩⟩

/-- The condition is needed: whenever a cancellation reaches {lit}`disconnect` in its direct wait
before {lit}`loop_stop` has returned, it can go on to call paho's {lit}`disconnect` first. -/
theorem disconnect_overtakes {client hasLoopTask connected : Bool} {steps : List ShutdownStep}
    {s s' : Shutdown} {l : ShutdownStep}
    (hrun : (machine client hasLoopTask connected).Run steps s) (hcancels : s.CancelsJoin l)
    (hstep : s.step l = some s') :
    ∃ rest s'', (machine client hasLoopTask connected).Run (steps ++ [l] ++ rest) s'' ∧
      .disconnect ∈ s''.calls ∧ .loopStopReturned ∉ s''.calls := by
  have htracked := tracked_of_run hrun
  have hrun' := hrun.snoc hstep
  rcases hcancels with ⟨rfl, hjoins, hjoin⟩
  have hnot : .loopStopReturned ∉ s.calls := fun hmem => hjoin (htracked.returned.mp hmem)
  have hend : .loopStopReturned ∉ s.calls ++ [.disconnect] := by simp [hnot]
  rcases cancel_cases hstep with ⟨hactivity, _⟩ | ⟨⟨wake, hactivity⟩, _⟩ |
    ⟨⟨wake, hactivity⟩, _⟩ | ⟨hactivity, rfl⟩ | ⟨⟨wake, hactivity⟩, rfl⟩
  · simp [joins, hactivity] at hjoins
  · simp [joins, hactivity] at hjoins
  · simp [joins, hactivity] at hjoins
  · -- The cancellation goes to the task, which ends without waiting for the worker.
    have hexec : (machine client hasLoopTask connected).exec { s with stopping := .cancelling }
        [.stoppingRuns, .resume false] = some { s with
          stopping := .ended .cancelled
          activity := .ended .cancelled
          connected := false
          calls := s.calls ++ [.disconnect] } := by
      simp [machine, Shutdown.step, Shutdown.stoppingRuns, stoppingEnds, Shutdown.resume, finish,
        hactivity]
    exact ⟨_, _, hrun'.append hexec, List.mem_append_right _ (by simp), hend⟩
  · have hexec : (machine client hasLoopTask connected).exec
        { s with activity := .joining (some .cancelled) } [.resume false] = some { s with
          activity := .ended .cancelled
          connected := false
          calls := s.calls ++ [.disconnect] } := by
      simp [machine, Shutdown.step, Shutdown.resume, finish]
    exact ⟨_, _, hrun'.append hexec, List.mem_append_right _ (by simp), hend⟩

/-- Two cancellations, the second one in the direct wait. -/
def overtakingRun : List ShutdownStep :=
  [.resume false, .stoppingRuns, .workerStarts, .cancel, .resume false, .cancel, .stoppingRuns,
    .resume false]

/-- A second cancellation makes paho's {lit}`disconnect` run while {lit}`loop_stop` is running. -/
theorem second_cancellation_overtakes :
    ¬∀ steps s, (machine true false true).Run steps s →
      s.calls <+: [.loopStopReturned, .disconnect] := by
  intro hall
  have hexec : ((machine true false true).exec (initial true false true) overtakingRun).map
      (fun s => (s.calls, s.join)) = some ([.disconnect], .running) := by
    decide +kernel
  rcases Option.map_eq_some_iff.mp hexec with ⟨s, hs, hstate⟩
  simp only [Prod.mk.injEq] at hstate
  have hprefix := hall overtakingRun s (Machine.run_iff_exec.mpr hs)
  rw [hstate.1] at hprefix
  exact absurd hprefix (by decide)

end Shutdown

end MqttGateway
