import MqttGateway.Gateway.Lifespan
import MqttGateway.Services.StatisticsRuns

/-!
# The history of an application

What a run of the application says about the state it ends in: which packets are in the
statistics, and which connection event {lit}`/ready` reports.

Main results:

- Theorem {lit}`lifespan_brackets`: the application serves only after the broker has confirmed
  the connection; exactly the packets before its stop are counted; and however it ends, its
  callback is gone and the client is shut down in order.
- Theorem {lit}`readiness_exact`: {lit}`/ready` reports the last connection event, and after the
  end only one that comes after it.
-/

namespace MqttGateway

open Toolkit

namespace Lifespan

section

variable {topicMatchesSub : PyStr → PyStr → Bool} {settings : Settings}

/-! ## The end is for good -/

/-- An application that has begun to stop goes on stopping, and its end is the end. -/
theorem stopped_of_step {s s' : Lifespan} {l : LifespanStep} (h : s.stopped = true)
    (hstep : s.step topicMatchesSub settings l = some s') :
    s'.stopped = true ∧ (s.Ended → s'.Ended) := by
  have hsame : s'.activity = s.activity → s'.stopped = true ∧ (s.Ended → s'.Ended) := by
    intro hactivity
    simp only [stopped, Ended, hactivity, imp_self, and_true]
    exact h
  have hnot : ∀ activity, s.activity = activity →
      (Lifespan.stopped { s with activity }) = true := by
    rintro _ rfl
    exact h
  cases l with
  | tick now | deliver message =>
      rcases Option.ite_none_right_eq_some.mp hstep with ⟨_, hs'⟩
      cases hs'
      exact hsame rfl
  | enter start =>
      rcases Option.ite_none_right_eq_some.mp hstep with ⟨hstart, _⟩
      exact absurd (hnot _ hstart) Bool.false_ne_true
  | connection up =>
      rcases connection_cases hstep with ⟨_, rfl, _⟩
      apply hsame
      cases hactivity : s.activity with
      | connecting wait => exact absurd (hnot _ hactivity) Bool.false_ne_true
      | start | serving | stopping _ | ended _ => simp [wake]
  | expire =>
      rcases wait_cases (Or.inl rfl) hstep with ⟨_, _, hactivity, _⟩
      exact absurd (hnot _ hactivity) Bool.false_ne_true
  | cancel =>
      rcases wait_cases (Or.inr rfl) hstep with ⟨_, _, hactivity, _⟩
      exact absurd (hnot _ hactivity) Bool.false_ne_true
  | resume leaving =>
      rcases resume_cases hstep with ⟨_, hactivity, _⟩
      exact absurd (hnot _ hactivity) Bool.false_ne_true
  | leave leaving =>
      rcases Option.ite_none_right_eq_some.mp hstep with ⟨⟨hserving, _⟩, _⟩
      exact absurd (hnot _ hserving) Bool.false_ne_true
  | disconnect l =>
      rcases disconnect_cases hstep with ⟨leaving, shutdown, _, hactivity, _, _, _, rfl⟩
      refine ⟨?_, ?_⟩
      · rcases settle_cases _ leaving shutdown with ⟨_, _, heq⟩ | ⟨_, heq⟩
        · rw [heq]
          rfl
        · rw [heq]
          rfl
      · rintro ⟨_, hended⟩
        rw [hactivity] at hended
        cases hended
  | register owner =>
      rcases consumer_cases (Or.inl rfl) hstep with ⟨_, _, rfl, _⟩
      exact hsame rfl
  | unregister owner =>
      rcases consumer_cases (Or.inr rfl) hstep with ⟨_, _, rfl, _⟩
      exact hsame rfl

/-- An application that has ended has begun to stop. -/
theorem stopped_of_ended {s : Lifespan} (h : s.Ended) : s.stopped = true := by
  rcases h with ⟨_, hactivity⟩
  rw [stopped, hactivity]

/-- An application that has begun to stop is stopping or has ended when the run has gone on. -/
theorem stopped_of_append {before rest : List LifespanStep} {earlier s : Lifespan}
    (hrun : (machine topicMatchesSub settings).Run (before ++ rest) s)
    (hbefore : (machine topicMatchesSub settings).Run before earlier)
    (h : earlier.stopped = true) : s.stopped = true :=
  Machine.exec_invariant (P := fun s => s.stopped = true)
    (fun _ _ _ hstopped hstep => (stopped_of_step hstopped hstep).1) h
    (hrun.exec_of_append hbefore)

/-- An application that has ended has ended when the run has gone on. -/
theorem ended_of_append {before rest : List LifespanStep} {earlier s : Lifespan}
    (hrun : (machine topicMatchesSub settings).Run (before ++ rest) s)
    (hbefore : (machine topicMatchesSub settings).Run before earlier) (h : earlier.Ended) :
    s.Ended :=
  Machine.exec_invariant (P := Ended)
    (fun _ _ _ hended hstep => (stopped_of_step (stopped_of_ended hended) hstep).2 hended) h
    (hrun.exec_of_append hbefore)

/-! ## The history -/

/-- What a step adds to the packets that have been delivered, each with its time. -/
def observe (seen : ℚ × List (ℚ × ReceivedMessage)) : LifespanStep →
    ℚ × List (ℚ × ReceivedMessage)
  | .tick now => (now, seen.2)
  | .deliver message => (seen.1, seen.2 ++ [(seen.1, message)])
  | _ => seen

/-- The time after the steps, and the packets that they deliver. -/
def observed (steps : List LifespanStep) : ℚ × List (ℚ × ReceivedMessage) :=
  steps.foldl observe (0, [])

/-- The packets that the steps deliver, each with its time. -/
def arrivals (steps : List LifespanStep) : List (ℚ × ReceivedMessage) :=
  (observed steps).2

/-- What one more step adds. -/
theorem observed_snoc (steps : List LifespanStep) (l : LifespanStep) :
    observed (steps ++ [l]) = observe (observed steps) l := by
  rw [observed, List.foldl_append]
  rfl

/-- A step that delivers nothing. -/
theorem arrivals_snoc {l : LifespanStep} (h : l.delivered = []) (steps : List LifespanStep) :
    arrivals (steps ++ [l]) = arrivals steps := by
  rw [arrivals, observed_snoc]
  cases l with
  | deliver message => cases h
  | _ => rfl

/-- The clock of an application is the one of its steps. -/
theorem now_of_step {s s' : Lifespan} {l : LifespanStep} (htidy : s.Tidy)
    (hstep : s.step topicMatchesSub settings l = some s')
    (calls : List (ℚ × ReceivedMessage)) : s'.now = (observe (s.now, calls) l).1 := by
  cases l with
  | tick now | deliver message =>
      rcases Option.ite_none_right_eq_some.mp hstep with ⟨_, hs'⟩
      cases hs'
      rfl
  | enter start =>
      rcases Option.ite_none_right_eq_some.mp hstep with ⟨hstart, hs'⟩
      rcases enter_cases (htidy.start hstart).1 hs' with
        ⟨t, c, hentered, hsame, hleave | ⟨_, _, rfl⟩ | ⟨_, _, rfl⟩⟩
      · exact (leave_frame hentered hleave).now.trans hsame.now
      · exact hsame.now
      · exact hsame.now
  | connection up =>
      rcases connection_cases hstep with ⟨_, rfl, _⟩
      rfl
  | expire =>
      rcases wait_cases (Or.inl rfl) hstep with ⟨_, _, _, _, rfl⟩
      rfl
  | cancel =>
      rcases wait_cases (Or.inr rfl) hstep with ⟨_, _, _, _, rfl⟩
      rfl
  | resume leaving =>
      rcases resume_cases hstep with ⟨wait, hactivity, ⟨_, _, rfl⟩ | ⟨why, _, _, hleave⟩⟩
      · rfl
      · exact (leave_frame (htidy.running (by rw [Lifespan.running, hactivity])) hleave).now
  | leave leaving =>
      rcases Option.ite_none_right_eq_some.mp hstep with ⟨⟨hserving, _⟩, hleave⟩
      exact (leave_frame (htidy.running (by rw [Lifespan.running, hserving])) hleave).now
  | disconnect l =>
      rcases disconnect_cases hstep with ⟨_, _, _, _, _, _, _, rfl⟩
      rfl
  | register owner =>
      rcases consumer_cases (Or.inl rfl) hstep with ⟨_, _, rfl, _⟩
      rfl
  | unregister owner =>
      rcases consumer_cases (Or.inr rfl) hstep with ⟨_, _, rfl, _⟩
      rfl

/-- The clock after a run is the one of its steps. -/
theorem now_of_run {steps : List LifespanStep} {s : Lifespan}
    (hrun : (machine topicMatchesSub settings).Run steps s) : s.now = (observed steps).1 := by
  refine Machine.Run.invariant (P := fun steps s => s.now = (observed steps).1) rfl ?_ hrun
  intro steps s l s' hrun h hstep
  rw [observed_snoc, now_of_step (tidy_of_run hrun) hstep (observed steps).2, h]

/-- The last connection event of the steps was a connection, and it came after the end of the
application if that has ended. -/
def ConnectedSince (topicMatchesSub : PyStr → PyStr → Bool) (settings : Settings)
    (steps : List LifespanStep) (s : Lifespan) : Prop :=
  ∃ before after earlier, steps = before ++ .connection true :: after ∧
    (machine topicMatchesSub settings).Run before earlier ∧
    after.flatMap LifespanStep.changed = [] ∧ (s.Ended → earlier.Ended)

/-- The application has begun to stop with the first step after the given ones. -/
def StopsAfter (topicMatchesSub : PyStr → PyStr → Bool) (settings : Settings)
    (before steps : List LifespanStep) : Prop :=
  ∃ l rest earlier later, steps = before ++ l :: rest ∧
    (machine topicMatchesSub settings).Run before earlier ∧ earlier.stopped = false ∧
    earlier.step topicMatchesSub settings l = some later ∧ later.stopped = true

/-- A stop stays where it is in a longer run. -/
theorem StopsAfter.snoc {before steps : List LifespanStep}
    (h : StopsAfter topicMatchesSub settings before steps) (l : LifespanStep) :
    StopsAfter topicMatchesSub settings before (steps ++ [l]) := by
  rcases h with ⟨first, rest, earlier, later, rfl, hstops⟩
  exact ⟨first, rest ++ [l], earlier, later, by simp, hstops⟩

/-- A stop can be found by executing the steps. -/
theorem stopsAfter_of_exec {before rest : List LifespanStep} {l : LifespanStep}
    (hgoes : ((machine topicMatchesSub settings).exec initial before).map stopped = some false)
    (hstops : ((machine topicMatchesSub settings).exec initial (before ++ [l])).map stopped =
      some true) : StopsAfter topicMatchesSub settings before (before ++ l :: rest) := by
  rcases Option.map_eq_some_iff.mp hgoes with ⟨earlier, hearlier, hnot⟩
  rw [Machine.exec_append, hearlier, Option.bind_some] at hstops
  rcases Option.map_eq_some_iff.mp hstops with ⟨later, hlater, hstopped⟩
  have hstep : earlier.step topicMatchesSub settings l = some later := by
    simpa [machine] using hlater
  exact ⟨l, rest, earlier, later, rfl, Machine.run_iff_exec.mpr hearlier, hnot, hstep, hstopped⟩

/-- An application whose stop is in the run has begun to stop. -/
theorem StopsAfter.stopped {before steps : List LifespanStep} {s : Lifespan}
    (h : StopsAfter topicMatchesSub settings before steps)
    (hrun : (machine topicMatchesSub settings).Run steps s) : s.stopped = true := by
  rcases h with ⟨l, rest, earlier, later, rfl, hearlier, _, hstep, hstopped⟩
  rw [List.append_cons] at hrun
  exact stopped_of_append hrun (hearlier.snoc hstep) hstopped

/-- An application begins to stop only once. -/
theorem StopsAfter.unique {before before' steps : List LifespanStep}
    (h : StopsAfter topicMatchesSub settings before steps)
    (h' : StopsAfter topicMatchesSub settings before' steps) : before = before' := by
  rcases h with ⟨l, rest, earlier, later, rfl, hearlier, hgoes, hstep, hstopped⟩
  rcases h' with ⟨l', rest', earlier', later', heq, hearlier', hgoes', hstep', hstopped'⟩
  rcases List.append_eq_append_iff.mp heq with ⟨between, hlonger, hrest⟩ | ⟨between, hlonger, hrest⟩
  · cases between with
    | nil => simpa using hlonger.symm
    | cons first between =>
        cases hrest
        rw [hlonger, List.append_cons] at hearlier'
        rw [stopped_of_append hearlier' (hearlier.snoc hstep) hstopped] at hgoes'
        cases hgoes'
  · cases between with
    | nil => simpa using hlonger
    | cons first between =>
        cases hrest
        rw [hlonger, List.append_cons] at hearlier
        rw [stopped_of_append hearlier (hearlier'.snoc hstep') hstopped'] at hgoes
        cases hgoes

/-- A list with one more element splits at that element or earlier. -/
theorem snoc_eq_append_cons {xs before after : List LifespanStep} {l first : LifespanStep}
    (h : xs ++ [l] = before ++ first :: after) :
    after = [] ∧ l = first ∨
      ∃ after', after = after' ++ [l] ∧ xs = before ++ first :: after' := by
  rcases List.eq_nil_or_concat' after with rfl | ⟨after', last, rfl⟩
  · exact Or.inl ⟨rfl, List.singleton_inj.mp (List.append_inj' h rfl).2⟩
  · rw [← List.cons_append, ← List.append_assoc] at h
    rcases List.append_inj' h rfl with ⟨hxs, hlast⟩
    exact Or.inr ⟨after', by rw [List.singleton_inj.mp hlast], hxs⟩

/-- A step that is no connection event adds nothing after the last one. -/
theorem connectedSince_snoc_iff {steps : List LifespanStep} {s : Lifespan} {l : LifespanStep}
    (hchanged : l.changed = []) :
    ConnectedSince topicMatchesSub settings (steps ++ [l]) s ↔
      ConnectedSince topicMatchesSub settings steps s := by
  constructor
  · rintro ⟨before, after, earlier, heq, hrun, hnone, hlate⟩
    rcases snoc_eq_append_cons heq with ⟨_, rfl⟩ | ⟨after', rfl, hsteps⟩
    · cases hchanged
    · rw [List.flatMap_append, List.append_eq_nil_iff] at hnone
      exact ⟨before, after', earlier, hsteps, hrun, hnone.1, hlate⟩
  · rintro ⟨before, after, earlier, rfl, hrun, hnone, hlate⟩
    exact ⟨before, after ++ [l], earlier, by simp, hrun, by simp [hnone, hchanged], hlate⟩

/-- After a connection event, the last one is that one. -/
theorem connectedSince_snoc_connection {steps : List LifespanStep} {s s' : Lifespan} {up : Bool}
    (hrun : (machine topicMatchesSub settings).Run steps s) (hended : s'.Ended → s.Ended) :
    ConnectedSince topicMatchesSub settings (steps ++ [.connection up]) s' ↔ up = true := by
  constructor
  · rintro ⟨before, after, _, heq, _, hnone, _⟩
    rcases snoc_eq_append_cons heq with ⟨_, hlast⟩ | ⟨after', rfl, _⟩
    · exact LifespanStep.connection.inj hlast
    · simp [LifespanStep.changed] at hnone
  · rintro rfl
    exact ⟨steps, [], s, rfl, hrun, rfl, hended⟩

/-- What the steps so far say about a state. -/
structure Recorded (topicMatchesSub : PyStr → PyStr → Bool) (settings : Settings)
    (steps : List LifespanStep) (s : Lifespan) : Prop where
  connected : ¬s.Ended →
    s.shutdown.connected = (steps.flatMap LifespanStep.changed).getLast?.getD false
  since : s.shutdown.connected = true ↔ ConnectedSince topicMatchesSub settings steps s
  confirmed : (s.published = true ∨ ∃ wait, s.activity = .connecting wait ∧ wait.woken = true) →
    true ∈ steps.flatMap LifespanStep.changed
  counted : s.stopped = false →
    s.statistics = handleMessages topicMatchesSub settings (arrivals steps)
  frozen : s.stopped = true → ∃ before, StopsAfter topicMatchesSub settings before steps ∧
    s.statistics = handleMessages topicMatchesSub settings (arrivals before)

/-- A step that is no connection event and keeps {lit}`_connected`, or ends and clears it. -/
theorem Recorded.connected_of_quiet {steps : List LifespanStep} {s s' : Lifespan} {l : LifespanStep}
    (h : s.Recorded topicMatchesSub settings steps)
    (hrun : (machine topicMatchesSub settings).Run steps s)
    (hstep : s.step topicMatchesSub settings l = some s') (hchanged : l.changed = [])
    (hconnected : (s'.Ended → s.Ended) ∧ s'.shutdown.connected = s.shutdown.connected ∨
      ¬s.Ended ∧ s'.Ended ∧ s'.shutdown.connected = false) :
    (¬s'.Ended → s'.shutdown.connected =
        ((steps ++ [l]).flatMap LifespanStep.changed).getLast?.getD false) ∧
      (s'.shutdown.connected = true ↔
        ConnectedSince topicMatchesSub settings (steps ++ [l]) s') := by
  rw [connectedSince_snoc_iff hchanged]
  rcases hconnected with ⟨hended, hsame⟩ | ⟨hnot, hends, hclear⟩
  · have hiff : s'.Ended ↔ s.Ended := by
      refine ⟨hended, ?_⟩
      intro hyes
      exact (stopped_of_step (stopped_of_ended hyes) hstep).2 hyes
    rw [hsame, hiff]
    refine ⟨?_, ?_⟩
    · intro hnot
      simpa [hchanged] using h.connected hnot
    · simpa only [ConnectedSince, hiff] using h.since
  · refine ⟨fun hstill => absurd hends hstill, ?_⟩
    rw [hclear]
    refine ⟨nofun, ?_⟩
    -- A connection after the end would have come before this end.
    rintro ⟨before, after, earlier, rfl, hbefore, _, hlate⟩
    exact absurd (ended_of_append hrun hbefore (hlate hends)) hnot

/-- A step that delivers no packet. -/
theorem Recorded.statistics_of_quiet {steps : List LifespanStep} {s s' : Lifespan}
    {l : LifespanStep} (h : s.Recorded topicMatchesSub settings steps)
    (hrun : (machine topicMatchesSub settings).Run steps s)
    (hstep : s.step topicMatchesSub settings l = some s') (hdelivered : l.delivered = [])
    (hstatistics : s'.statistics = s.statistics) :
    (s'.stopped = false →
        s'.statistics = handleMessages topicMatchesSub settings (arrivals (steps ++ [l]))) ∧
      (s'.stopped = true → ∃ before,
        StopsAfter topicMatchesSub settings before (steps ++ [l]) ∧
          s'.statistics = handleMessages topicMatchesSub settings (arrivals before)) := by
  rw [arrivals_snoc hdelivered, hstatistics]
  refine ⟨?_, ?_⟩
  · intro hgoes
    apply h.counted
    by_contra hstopped
    rw [Bool.not_eq_false] at hstopped
    rw [(stopped_of_step hstopped hstep).1] at hgoes
    cases hgoes
  · intro hstops
    cases hstopped : s.stopped with
    | true =>
        rcases h.frozen hstopped with ⟨before, hbefore, hcount⟩
        exact ⟨before, hbefore.snoc l, hcount⟩
    | false =>
        exact ⟨steps, ⟨l, [], s, s', rfl, hrun, hstopped, hstep, hstops⟩, h.counted hstopped⟩

/-- A step that is neither a connection event nor a packet. -/
theorem Recorded.of_quiet {steps : List LifespanStep} {s s' : Lifespan} {l : LifespanStep}
    (h : s.Recorded topicMatchesSub settings steps)
    (hrun : (machine topicMatchesSub settings).Run steps s)
    (hstep : s.step topicMatchesSub settings l = some s') (hchanged : l.changed = [])
    (hdelivered : l.delivered = [])
    (hconnected : (s'.Ended → s.Ended) ∧ s'.shutdown.connected = s.shutdown.connected ∨
      ¬s.Ended ∧ s'.Ended ∧ s'.shutdown.connected = false)
    (hconfirmed : (s'.published = true ∨
        ∃ wait, s'.activity = .connecting wait ∧ wait.woken = true) →
      s.published = true ∨ ∃ wait, s.activity = .connecting wait ∧ wait.woken = true)
    (hstatistics : s'.statistics = s.statistics) :
    s'.Recorded topicMatchesSub settings (steps ++ [l]) := by
  rcases h.connected_of_quiet hrun hstep hchanged hconnected with ⟨hlast, hsince⟩
  rcases h.statistics_of_quiet hrun hstep hdelivered hstatistics with ⟨hcounted, hfrozen⟩
  refine ⟨hlast, hsince, ?_, hcounted, hfrozen⟩
  intro hyes
  simpa [hchanged] using h.confirmed (hconfirmed hyes)

/-- Leaving the {lit}`try` block is neither a connection event nor a packet. -/
theorem Recorded.leave {steps : List LifespanStep} {s t s' : Lifespan} {l : LifespanStep} {c : Bool}
    {leaving : Leaving} (h : s.Recorded topicMatchesSub settings steps)
    (hrun : (machine topicMatchesSub settings).Run steps s)
    (hstep : s.step topicMatchesSub settings l = some s')
    (hchanged : l.changed = []) (hdelivered : l.delivered = []) (hnot : ¬s.Ended)
    (hfresh : t.Fresh c) (hconnected : t.shutdown.connected = s.shutdown.connected)
    (hclear : c = false → s.shutdown.connected = false)
    (hpublished : t.published = s.published) (hstatistics : t.statistics = s.statistics)
    (hleave : t.leave leaving = some s') : s'.Recorded topicMatchesSub settings (steps ++ [l]) := by
  have hleft := leave_frame hfresh hleave
  have hsame := hleft.connected.trans hconnected
  refine h.of_quiet hrun hstep hchanged hdelivered ?_ ?_ (hleft.statistics.trans hstatistics)
  · cases c with
    | true =>
        refine Or.inl ⟨?_, hsame⟩
        rintro ⟨_, hended⟩
        rw [hleft.activity] at hended
        cases hended
    | false => exact Or.inr ⟨hnot, ⟨leaving, hleft.activity⟩, hsame.trans (hclear rfl)⟩
  · rintro (hyes | ⟨wait, hwait, _⟩)
    · exact Or.inl ((hleft.published.trans hpublished) ▸ hyes)
    · rw [hleft.activity] at hwait
      cases c <;> cases hwait

/-- One more packet is handled last. -/
theorem handleMessages_concat (calls : List (ℚ × ReceivedMessage)) (call : ℚ × ReceivedMessage) :
    handleMessages topicMatchesSub settings (calls ++ [call]) =
      ((handleMessage topicMatchesSub settings call.1 call.2).run
        (handleMessages topicMatchesSub settings calls)).2 := by
  simp [handleMessages]

/-- What a packet adds to the history. -/
theorem Recorded.deliver {steps : List LifespanStep} {s s' : Lifespan} {message : ReceivedMessage}
    (h : s.Recorded topicMatchesSub settings steps)
    (hrun : (machine topicMatchesSub settings).Run steps s)
    (hstep : s.step topicMatchesSub settings (.deliver message) = some s') :
    s'.Recorded topicMatchesSub settings (steps ++ [.deliver message]) := by
  have htidy := tidy_of_run hrun
  have hcopy := hstep
  rcases Option.ite_none_right_eq_some.mp hstep with ⟨hlooping, hs'⟩
  cases hs'
  have hmem : Callback.handleMessage ∈ s.packetCallbacks ↔ s.running = true := by
    rw [← List.count_pos_iff, htidy.callbacks]
    split <;> simp [*]
  rcases h.connected_of_quiet hrun hcopy rfl (Or.inl ⟨id, rfl⟩) with ⟨hlast, hsince⟩
  refine ⟨hlast, hsince, ?_, ?_, ?_⟩
  · intro hyes
    simpa [LifespanStep.changed] using h.confirmed hyes
  · intro hgoes
    have hrunning : s.running = true := by
      cases hactivity : s.activity with
      | start =>
          rw [(htidy.start hactivity).2.2.1] at hlooping
          cases hlooping
      | connecting _ | serving => rw [running, hactivity]
      | stopping _ | ended _ =>
          rw [stopped, hactivity] at hgoes
          cases hgoes
    rw [arrivals, observed_snoc]
    change _ = handleMessages topicMatchesSub settings (arrivals steps ++ [(_, message)])
    rw [handleMessages_concat, ← now_of_run hrun, ← h.counted hgoes]
    exact if_pos (hmem.mpr hrunning)
  · intro hstopped
    have hout : Callback.handleMessage ∉ s.packetCallbacks := by
      rw [hmem]
      intro hrunning
      cases hactivity : s.activity <;> simp_all [running, stopped]
    rcases h.frozen hstopped with ⟨before, hbefore, hcount⟩
    exact ⟨before, hbefore.snoc _, (if_neg hout).trans hcount⟩

/-- What a connection event adds to the history. -/
theorem Recorded.connection {steps : List LifespanStep} {s s' : Lifespan} {up : Bool}
    (h : s.Recorded topicMatchesSub settings steps)
    (hrun : (machine topicMatchesSub settings).Run steps s)
    (hstep : s.step topicMatchesSub settings (.connection up) = some s') :
    s'.Recorded topicMatchesSub settings (steps ++ [.connection up]) := by
  have hcopy := hstep
  rcases connection_cases hstep with ⟨_, rfl, _⟩
  have hchanged : (steps ++ [LifespanStep.connection up]).flatMap LifespanStep.changed =
      steps.flatMap LifespanStep.changed ++ [up] := by
    simp [LifespanStep.changed]
  have hended : Lifespan.Ended { s with
      shutdown := { s.shutdown with connected := up }, activity := wake up s.activity } →
      s.Ended := by
    rintro ⟨leaving, hactivity⟩
    cases hbefore : s.activity <;> simp_all [wake, Ended]
  rcases h.statistics_of_quiet hrun hcopy rfl rfl with ⟨hcounted, hfrozen⟩
  refine ⟨?_, (connectedSince_snoc_connection hrun hended).symm, ?_, hcounted, hfrozen⟩
  · intro _
    rw [hchanged, List.getLast?_append]
    rfl
  · intro hyes
    rw [hchanged, List.mem_append]
    rcases hyes with hpublished | ⟨wait, hwait, hwoken⟩
    · exact Or.inl (h.confirmed (Or.inl hpublished))
    · cases hactivity : s.activity with
      | connecting before =>
          simp only [wake, hactivity, LifespanActivity.connecting.injEq] at hwait
          rw [← hwait, Bool.or_eq_true] at hwoken
          rcases hwoken with hbefore | rfl
          · exact Or.inl (h.confirmed (Or.inr ⟨before, hactivity, hbefore⟩))
          · exact Or.inr (List.mem_singleton_self _)
      | start | serving | stopping _ | ended _ =>
          rw [hactivity] at hwait
          cases hwait

/-- The timeout and a cancellation add nothing to the history. -/
theorem Recorded.waits {steps : List LifespanStep} {s s' : Lifespan} {l : LifespanStep}
    (h : s.Recorded topicMatchesSub settings steps)
    (hrun : (machine topicMatchesSub settings).Run steps s) (hl : l = .expire ∨ l = .cancel)
    (hstep : s.step topicMatchesSub settings l = some s') :
    s'.Recorded topicMatchesSub settings (steps ++ [l]) := by
  have hquiet : l.changed = [] ∧ l.delivered = [] := by
    rcases hl with rfl | rfl <;> exact ⟨rfl, rfl⟩
  have hcopy := hstep
  rcases wait_cases hl hstep with ⟨wait, wait', hactivity, hwoken, rfl⟩
  refine h.of_quiet hrun hcopy hquiet.1 hquiet.2 (Or.inl ⟨by simp [Ended], rfl⟩) ?_ rfl
  rintro (hyes | ⟨after, hafter, hyes⟩)
  · exact Or.inl hyes
  · cases hafter
    exact Or.inr ⟨wait, hactivity, hwoken ▸ hyes⟩

/-- A step of {lit}`disconnect` adds nothing to the history. -/
theorem Recorded.disconnect {steps : List LifespanStep} {s s' : Lifespan} {l : ShutdownStep}
    (h : s.Recorded topicMatchesSub settings steps)
    (hrun : (machine topicMatchesSub settings).Run steps s)
    (hstep : s.step topicMatchesSub settings (.disconnect l) = some s') :
    s'.Recorded topicMatchesSub settings (steps ++ [.disconnect l]) := by
  have hcopy := hstep
  rcases disconnect_cases hstep with
    ⟨leaving, shutdown, unjoined, hactivity, hother, hshutdown, _, rfl⟩
  have hquiet := ((tidy_of_run hrun).stopping leaving hactivity).1.step hshutdown
  rcases settle_cases { s with unjoined } leaving shutdown with
    ⟨outcome, hends, heq⟩ | ⟨hgoes, heq⟩
  · rw [heq] at hcopy ⊢
    refine h.of_quiet hrun hcopy rfl rfl (Or.inr ⟨by simp [Ended, hactivity], ⟨_, rfl⟩, ?_⟩)
      (by simpa using Or.inl) rfl
    exact hquiet.cleared ⟨outcome, hends⟩
  · rw [heq] at hcopy ⊢
    refine h.of_quiet hrun hcopy rfl rfl (Or.inl ⟨by simp [Ended], ?_⟩) (by simpa using Or.inl) rfl
    rcases Shutdown.connected_of_step hshutdown hother with hsame | hended
    · exact hsame
    · exact absurd hended hgoes

/-- Entering starts the worker or leaves at once, and adds nothing to the history. -/
theorem Recorded.enter {steps : List LifespanStep} {s s' : Lifespan} {start : ClientStart}
    (h : s.Recorded topicMatchesSub settings steps)
    (hrun : (machine topicMatchesSub settings).Run steps s)
    (hstep : s.step topicMatchesSub settings (.enter start) = some s') :
    s'.Recorded topicMatchesSub settings (steps ++ [.enter start]) := by
  have hcopy := hstep
  rcases Option.ite_none_right_eq_some.mp hstep with ⟨hstart, hs'⟩
  rcases (tidy_of_run hrun).start hstart with ⟨hfresh, hconnected, _, _, _⟩
  rcases enter_cases hfresh hs' with
    ⟨t, c, hentered, hsame, hleave | ⟨_, hyes, _⟩ | ⟨_, _, rfl⟩⟩
  · exact h.leave hrun hcopy rfl rfl (by simp [Ended, hstart]) hentered hsame.connected
      (fun _ => hconnected) hsame.published hsame.statistics hleave
  · rw [hconnected] at hyes
    cases hyes
  · refine h.of_quiet hrun hcopy rfl rfl (Or.inl ⟨by simp [Ended], hsame.connected⟩) ?_
      hsame.statistics
    rintro (hyes | ⟨wait, hwait, hwoken⟩)
    · exact Or.inl (hsame.published ▸ hyes)
    · cases hwait
      cases hwoken

/-- The end of the wait for the connection adds nothing to the history. -/
theorem Recorded.resume {steps : List LifespanStep} {s s' : Lifespan}
    {leaving : Option Leaving} (h : s.Recorded topicMatchesSub settings steps)
    (hrun : (machine topicMatchesSub settings).Run steps s)
    (hstep : s.step topicMatchesSub settings (.resume leaving) = some s') :
    s'.Recorded topicMatchesSub settings (steps ++ [.resume leaving]) := by
  have hcopy := hstep
  have hfresh := (tidy_of_run hrun).running
  rcases resume_cases hstep with ⟨wait, hactivity, hends⟩
  rcases hends with ⟨hwoken, _, rfl⟩ | ⟨why, _, _, hleave⟩
  · exact h.of_quiet hrun hcopy rfl rfl (Or.inl ⟨by simp [Ended, serve], rfl⟩)
      (fun _ => Or.inr ⟨wait, hactivity, hwoken⟩) rfl
  · exact h.leave hrun hcopy rfl rfl (by simp [Ended, hactivity])
      (hfresh (by rw [Lifespan.running, hactivity])) rfl (by simp) rfl rfl hleave

/-- Every step adds to the history what it says. -/
theorem Recorded.step {steps : List LifespanStep} {s s' : Lifespan} {l : LifespanStep}
    (h : s.Recorded topicMatchesSub settings steps)
    (hrun : (machine topicMatchesSub settings).Run steps s)
    (hstep : s.step topicMatchesSub settings l = some s') :
    s'.Recorded topicMatchesSub settings (steps ++ [l]) := by
  have htidy := tidy_of_run hrun
  have hcopy := hstep
  cases l with
  | tick now =>
      rcases Option.ite_none_right_eq_some.mp hstep with ⟨_, hs'⟩
      cases hs'
      exact h.of_quiet hrun hcopy rfl rfl (Or.inl ⟨id, rfl⟩) id rfl
  | enter start => exact h.enter hrun hstep
  | connection up => exact h.connection hrun hstep
  | expire => exact h.waits hrun (Or.inl rfl) hstep
  | cancel => exact h.waits hrun (Or.inr rfl) hstep
  | resume leaving => exact h.resume hrun hstep
  | leave leaving =>
      rcases Option.ite_none_right_eq_some.mp hstep with ⟨⟨hserving, _⟩, hleave⟩
      exact h.leave hrun hcopy rfl rfl (by simp [Ended, hserving])
        (htidy.running (by rw [Lifespan.running, hserving])) rfl (by simp) rfl rfl hleave
  | disconnect l => exact h.disconnect hrun hstep
  | deliver message => exact h.deliver hrun hstep
  | register owner =>
      rcases consumer_cases (Or.inl rfl) hstep with ⟨_, _, rfl, _⟩
      exact h.of_quiet hrun hcopy rfl rfl (Or.inl ⟨id, rfl⟩) id rfl
  | unregister owner =>
      rcases consumer_cases (Or.inr rfl) hstep with ⟨_, _, rfl, _⟩
      exact h.of_quiet hrun hcopy rfl rfl (Or.inl ⟨id, rfl⟩) id rfl

/-- The history tells the truth after every run. -/
theorem recorded_of_run {steps : List LifespanStep} {s : Lifespan}
    (hrun : (machine topicMatchesSub settings).Run steps s) :
    s.Recorded topicMatchesSub settings steps := by
  refine Machine.Run.invariant (P := fun steps s => s.Recorded topicMatchesSub settings steps)
    ?_ ?_ hrun
  · refine ⟨fun _ => rfl, ⟨nofun, ?_⟩, ?_, fun _ => rfl, nofun⟩
    · rintro ⟨before, after, _, heq, _⟩
      simp at heq
    · rintro (hyes | ⟨wait, hwait, _⟩)
      · cases hyes
      · cases hwait
  · intro steps s l s' hrun h hstep
    exact h.step hrun hstep

/-- If the application has not ended, the last connection event alone says it. -/
theorem connectedSince_iff_of_not_ended {steps : List LifespanStep} {s : Lifespan}
    (h : s.Recorded topicMatchesSub settings steps) (hnot : ¬s.Ended) :
    ConnectedSince topicMatchesSub settings steps s ↔
      (steps.flatMap LifespanStep.changed).getLast? = some true := by
  rw [← h.since, h.connected hnot]
  cases (steps.flatMap LifespanStep.changed).getLast? <;> simp

/-! ## The two results -/

/-- A shutdown in peace is in order. -/
theorem ordered_of_guardedRun {steps : List LifespanStep} {s : Lifespan}
    (hrun : (machine topicMatchesSub settings).GuardedRun StopsInPeace steps s) : s.Ordered := by
  refine Machine.GuardedRun.invariant (P := fun _ s => s.Ordered) ?_ ?_ hrun
  · exact ordered_fresh (c := false) rfl rfl
  · intro _ _ _ _ hrun h hpeace hstep
    exact h.step (tidy_of_run hrun) hpeace hstep

/-- In every run in which nothing cancels {lit}`disconnect` in its direct wait: the application
serves only after the broker has confirmed the connection; until it begins to stop, the statistics
are those of all packets of the run, and from then on those of the packets before that; its
callback is registered exactly as long; when it has ended, {lit}`_connected` is cleared and paho's
client, if there is one, has been disconnected once, after {lit}`loop_stop` has returned; and
unless it waits for the broker it can always go on, for at most nineteen steps of its own. -/
theorem lifespan_brackets {steps : List LifespanStep} {s : Lifespan}
    (hrun : (machine topicMatchesSub settings).GuardedRun StopsInPeace steps s) :
    (s.activity = .serving ∨ s.published = true →
      true ∈ steps.flatMap LifespanStep.changed) ∧
    (s.stopped = false →
      Summarizes settings (acceptedOf topicMatchesSub settings (arrivals steps)) s.statistics) ∧
    (s.stopped = true → ∃ before, StopsAfter topicMatchesSub settings before steps) ∧
    (∀ before, StopsAfter topicMatchesSub settings before steps →
      Summarizes settings (acceptedOf topicMatchesSub settings (arrivals before)) s.statistics) ∧
    s.packetCallbacks.count .handleMessage = (if s.running then 1 else 0) ∧
    (∀ leaving, s.activity = .ended leaving →
      s.shutdown.connected = false ∧
      s.shutdown.calls = (if s.shutdown.client then [.loopStopReturned, .disconnect] else []) ∧
      (leaving = .finished → s.published = true)) ∧
    (s.Ended ∨ s.Waits ∨ ∃ l s', l.own = true ∧ s.StopsInPeace l ∧
      s.step topicMatchesSub settings l = some s') ∧
    steps.countP LifespanStep.own ≤ 19 := by
  have htidy := tidy_of_run hrun.toRun
  have hrecorded := recorded_of_run hrun.toRun
  have hordered := ordered_of_guardedRun hrun
  refine ⟨?_, ?_, ?_, ?_, htidy.callbacks, ?_, ?_, ?_⟩
  · rintro (hserving | hpublished)
    · exact hrecorded.confirmed (Or.inl (htidy.serving (Or.inl hserving)))
    · exact hrecorded.confirmed (Or.inl hpublished)
  · intro hgoes
    rw [hrecorded.counted hgoes]
    exact summarizes_handleMessages topicMatchesSub settings _
  · intro hstopped
    rcases hrecorded.frozen hstopped with ⟨before, hbefore, _⟩
    exact ⟨before, hbefore⟩
  · intro before hbefore
    rcases hrecorded.frozen (hbefore.stopped hrun.toRun) with ⟨before', hbefore', hcount⟩
    rw [hcount, hbefore.unique hbefore']
    exact summarizes_handleMessages topicMatchesSub settings _
  · intro leaving hactivity
    rcases htidy.ended leaving hactivity with ⟨hended, hconnected, hnone⟩
    refine ⟨hconnected hordered.joined, ?_, ?_⟩
    · by_cases hclient : s.shutdown.client = true
      · rw [if_pos hclient]
        exact ((hordered.order hclient).ended hended).1
      · rw [if_neg hclient]
        exact hnone (Bool.eq_false_iff.mpr hclient)
    · rintro rfl
      exact htidy.serving (Or.inr (Or.inr hactivity))
  · by_cases hended : s.Ended
    · exact Or.inl hended
    · by_cases hwaits : s.Waits
      · exact Or.inr (Or.inl hwaits)
      · exact Or.inr (Or.inr (moves_of_tidy htidy hordered hwaits hended))
  · have hbound := Machine.Run.countP_add_rank_le rank LifespanStep.own
      (fun _ _ _ hs hstep => (rank_step (tidy_of_reachable hs) hstep).2)
      (fun _ _ _ hs hstep => (rank_step (tidy_of_reachable hs) hstep).1) hrun.toRun
    have hinitial : (machine topicMatchesSub settings).init.rank = 19 := rfl
    omega

end

/-- An application with MQTT matching and the default settings. -/
def sample : Machine Lifespan LifespanStep :=
  machine (fun filter topic => decide (MqttMatches filter topic)) Settings.default

/-- An application that serves one packet and is stopped before another one. -/
def oneLife : List LifespanStep :=
  [.enter .loopStarted, .connection true, .resume none,
    .deliver ⟨PyStr.lit ['a'], [111, 110], 0, false⟩, .leave .finished,
    .deliver ⟨PyStr.lit ['a'], [111, 102, 102], 0, false⟩, .disconnect .stoppingRuns,
    .disconnect .workerStarts, .disconnect .workerReturns, .disconnect .resultArrives,
    .disconnect .stoppingRuns, .disconnect .shieldSettles, .disconnect (.resume false)]

/-- The packet before the stop is counted, and the one after it is not. -/
theorem lifespan_brackets_one_life :
    ∃ s, sample.GuardedRun StopsInPeace oneLife s ∧ s.activity = .ended .finished ∧
      s.published = true ∧ s.shutdown.calls = [.loopStopReturned, .disconnect] ∧
      Summarizes Settings.default [(0, ⟨PyStr.lit ['a'], [111, 110], 0, false⟩)] s.statistics := by
  have hexec : (sample.guardedExec StopsInPeace initial oneLife).map (fun s =>
      (s.activity, s.shutdown.client)) = some (.ended .finished, true) := by
    decide +kernel
  rcases Option.map_eq_some_iff.mp hexec with ⟨s, hs, hstate⟩
  simp only [Prod.mk.injEq] at hstate
  have hrun : sample.GuardedRun StopsInPeace oneLife s := Machine.guardedRun_of_guardedExec hs
  have hstops : StopsAfter (fun filter topic => decide (MqttMatches filter topic))
      Settings.default (oneLife.take 4) (oneLife.take 4 ++ .leave .finished :: oneLife.drop 5) :=
    stopsAfter_of_exec (by decide +kernel) (by decide +kernel)
  rcases lifespan_brackets hrun with ⟨_, _, _, hcounted, _, hended, _⟩
  rcases hended .finished hstate.1 with ⟨_, hcalls, hpublished⟩
  rw [if_pos hstate.2] at hcalls
  exact ⟨s, hrun, hstate.1, hpublished rfl, hcalls, hcounted _ hstops⟩

section

variable {topicMatchesSub : PyStr → PyStr → Bool} {settings : Settings}

/-- In every run, {lit}`/health` and {lit}`/ready` report whether paho is connected and the last
connection event was a connection, which came after the end of the application if that has ended.
If nothing cancels {lit}`disconnect` in its direct wait, none comes after the end. -/
theorem readiness_exact {steps : List LifespanStep} {s : Lifespan}
    (hrun : (machine topicMatchesSub settings).Run steps s) (hpublished : s.published = true)
    (version : String) (pahoConnected : Bool) :
    ∃ connected : Bool,
      (connected = true ↔
        pahoConnected = true ∧ ConnectedSince topicMatchesSub settings steps s) ∧
      ((machine topicMatchesSub settings).GuardedRun StopsInPeace steps s →
        (connected = true ↔ pahoConnected = true ∧ ¬s.Ended ∧
          (steps.flatMap LifespanStep.changed).getLast? = some true)) ∧
      s.healthCheck version pahoConnected =
        .ok { status := "ok", version := version, mqttConnected := connected } ∧
      s.readinessCheck version pahoConnected =
        if connected then .ok { status := "ok", version := version, mqttConnected := true }
        else .error (.httpException 503 "MQTT broker is disconnected") := by
  have htidy := tidy_of_run hrun
  have hrecorded := recorded_of_run hrun
  have hsince : s.isConnected pahoConnected = true ↔
      pahoConnected = true ∧ ConnectedSince topicMatchesSub settings steps s := by
    rw [← hrecorded.since]
    simp [isConnected, htidy.published hpublished]
  refine ⟨s.isConnected pahoConnected, hsince, ?_, by simp [healthCheck, hpublished], ?_⟩
  · intro hpeace
    rw [hsince]
    by_cases hended : s.Ended
    · rcases hended with ⟨leaving, hactivity⟩
      have hcleared := (htidy.ended leaving hactivity).2.1 (ordered_of_guardedRun hpeace).joined
      rw [← hrecorded.since, hcleared]
      simp [Ended, hactivity]
    · simp only [connectedSince_iff_of_not_ended hrecorded hended, hended, not_false_eq_true,
        true_and]
  · by_cases hconnected : s.isConnected pahoConnected = true
    · simp [readinessCheck, healthCheck, hpublished, hconnected]
    · simp [readinessCheck, hpublished, Bool.eq_false_iff.mpr hconnected]

end

/-- A broker that goes away while the application serves. -/
def brokerLost : List LifespanStep :=
  [.enter .loopStarted, .connection true, .resume none, .connection false]

/-- The application is not ready, whatever paho says. -/
theorem readiness_exact_lost :
    ∃ s, sample.Run brokerLost s ∧ ∀ version pahoConnected,
      s.readinessCheck version pahoConnected =
        .error (.httpException 503 "MQTT broker is disconnected") := by
  have hexec : (sample.guardedExec StopsInPeace initial brokerLost).map Lifespan.published =
      some true := by
    decide +kernel
  rcases Option.map_eq_some_iff.mp hexec with ⟨s, hs, hpublished⟩
  have hrun : sample.GuardedRun StopsInPeace brokerLost s := Machine.guardedRun_of_guardedExec hs
  refine ⟨s, hrun.toRun, ?_⟩
  intro version pahoConnected
  rcases readiness_exact hrun.toRun hpublished version pahoConnected with
    ⟨connected, _, hiff, _, hready⟩
  rw [hready, if_neg]
  intro hyes
  have hlast := ((hiff hrun).mp hyes).2.2
  cases hlast

/-- A second cancellation, which leaves the network thread running, and a connection after it. -/
def connectedLate : List LifespanStep :=
  [.enter .loopStarted, .connection true, .resume none, .leave .cancelled,
    .disconnect .stoppingRuns, .disconnect .workerStarts, .disconnect .cancel,
    .disconnect (.resume false), .disconnect .cancel, .disconnect .stoppingRuns,
    .disconnect (.resume false), .connection true]

/-- The application has ended, and reports itself ready. -/
example : (sample.exec initial connectedLate).map (fun s =>
    (s.activity, (s.readinessCheck "" true).isOk)) = some (.ended .cancelled, true) := by
  decide +kernel

end Lifespan

end MqttGateway
