import MqttGateway.Api.StreamCleanup
import MqttGateway.Gateway.Announced

/-!
# Every websocket connection is cleaned up

The cleanup of a connection inside a run of the gateway, with the steps of the other consumers,
the packets and the clock in between.

Main results:

- Theorem {lit}`websocket_cleanup_completes`: whatever else happens, the cleanup of a connection
  takes a bounded number of steps, one of which is enabled until the handler has finished;
  taken one after the other, they leave neither the callback nor an entry behind.
-/

namespace MqttGateway

open Toolkit

/-- The steps of the cleanup of a connection. -/
def GatewayStep.unwinds (id : Nat) : GatewayStep → Bool
  | .stream c l => decide (c = id) && l.unwinds
  | .tick _ | .connection _ | .restSubscribe _ _ _ | .restUnsubscribe _ _ | .query _ _
  | .deliver _ => false

namespace Gateway

variable {topicMatchesSub : PyStr → PyStr → Bool} {settings : Settings}
  {jwtDecode : ℚ → PyStr → Except PyException Claims} {id : Nat} {g g' : Gateway}

/-! ## Every connection of a run -/

theorem started_step {l : GatewayStep}
    (hstep : g.step topicMatchesSub settings jwtDecode l = some g')
    (h : (g.streams id).Started) : (g'.streams id).Started :=
  stream_keeps hstep (fun _ hstream => h.step hstream) (fun message _ h => h.wsCallback message) h

theorem started_of_reachable (hg : (machine topicMatchesSub settings jwtDecode).Reachable g)
    (id : Nat) : (g.streams id).Started :=
  hg.invariant (P := fun g => (g.streams id).Started) (Stream.started_of_outside rfl)
    fun _ _ _ h hstep => started_step hstep h

theorem sized_of_run {steps : List GatewayStep}
    (hrun : (machine topicMatchesSub settings jwtDecode).Run steps g) (id : Nat) :
    (g.streams id).Sized settings := by
  refine hrun.invariant (P := fun _ g => (g.streams id).Sized settings)
    (Stream.sized_initial settings) ?_
  intro before g l g' hbefore h hstep
  apply stream_keeps (P := Stream.Sized settings) hstep
  · intro l' hstream
    exact h.step (spoken_of_run hbefore id) hstream
  · intro message s hs
    exact hs.wsCallback message
  · exact h

/-! ## The cleanup of one connection -/

/-- No step of the gateway raises the rank of a cleanup, and the ones of the connection in its
cleanup lower it. -/
theorem unwinding_step {l : GatewayStep}
    (hstep : g.step topicMatchesSub settings jwtDecode l = some g')
    (h : (g.streams id).Unwinding) :
    (g'.streams id).Unwinding ∧ (g'.streams id).unwindRank ≤ (g.streams id).unwindRank ∧
      (l.unwinds id = true → (g'.streams id).unwindRank < (g.streams id).unwindRank) := by
  rcases stream_of_step hstep id with ⟨l', rfl, hstream⟩ | ⟨hother, hsame⟩
  · rcases h.step hstream with ⟨hunwinding, hle, hless⟩
    exact ⟨hunwinding, hle, fun hunwinds => hless (by simpa [GatewayStep.unwinds] using hunwinds)⟩
  · have hkept : (g'.streams id).Unwinding ∧
        (g'.streams id).unwindRank = (g.streams id).unwindRank := by
      rcases hsame with hsame | ⟨message, _, hpacket⟩
      · rw [hsame]
        exact ⟨h, rfl⟩
      · rw [hpacket]
        refine Function.Iterate.rec
          (fun s : Stream => s.Unwinding ∧ s.unwindRank = (g.streams id).unwindRank)
          ⟨h, rfl⟩ ?_ _
        intro s hs
        rcases hs.1.wsCallback message with ⟨hunwinding, hrank⟩
        exact ⟨hunwinding, hrank.trans hs.2⟩
    refine ⟨hkept.1, Nat.le_of_eq hkept.2, ?_⟩
    intro hunwinds
    cases l with
    | stream c l =>
        have howner : c = id := by
          simp only [GatewayStep.unwinds, Bool.and_eq_true, decide_eq_true_eq] at hunwinds
          exact hunwinds.1
        rw [howner] at hother
        exact absurd rfl hother
    | tick _ | connection _ | restSubscribe _ _ _ | restUnsubscribe _ _ | query _ _ | deliver _ =>
        cases hunwinds

/-- A connection in its cleanup has finished, or takes a step of it. -/
theorem exists_unwinding_step (hg : (machine topicMatchesSub settings jwtDecode).Reachable g)
    (h : (g.streams id).Unwinding) :
    (∃ exception, (g.streams id).handler = .finished exception) ∨
      ∃ l g', l.unwinds id = true ∧ l.Documented ∧
        g.step topicMatchesSub settings jwtDecode l = some g' := by
  have hpaho : connectedPaho.UnsubscribeDocumented := by
    simp [connectedPaho, Paho.UnsubscribeDocumented]
  rcases Stream.exists_unwinding_step (started_of_reachable hg id) h topicMatchesSub settings
    (jwtDecode g.now) id g.now g.hub hpaho with hfinished | ⟨l, after, hunwinds, hdocumented, hstep⟩
  · exact Or.inl hfinished
  · refine Or.inr ⟨.stream id l,
      { g with hub := after.1, streams := Function.update g.streams id after.2 },
      by simp [GatewayStep.unwinds, hunwinds], hdocumented, ?_⟩
    rw [step, hstep]
    rfl

/-- A handler that has finished has left neither its callback nor an entry. -/
theorem TidyStreams.gone (h : TidyStreams topicMatchesSub settings g)
    (hfinished : ∃ exception, (g.streams id).handler = .finished exception) :
    .wsCallback id ∉ g.hub.packetCallbacks ∧
      ∀ topic, g.hub.service.held topic (.websocket id) = none := by
  rcases hfinished with ⟨exception, hhandler⟩
  have hfoot := h.footprint id
  rw [Stream.mayHold, hhandler] at hfoot
  rcases hfoot.gone h.coherent with ⟨hcallback, hheld, _⟩
  exact ⟨hcallback _ rfl, hheld⟩

/-- In every run, from the moment that a task of a connection's group has ended or its handler has
left the wait for that: however the run goes on, the cleanup takes at most
{lit}`websocket_max_topics + 9` steps, and one of them is enabled as long as the handler has
not finished.  If paho's {lit}`unsubscribe` has raised only what it documents, then with
documented answers these steps alone bring the handler to its end, and the connection has
neither its callback nor an entry any more. -/
theorem websocket_cleanup_completes {before : List GatewayStep}
    (hrun : (machine topicMatchesSub settings jwtDecode).Run before g)
    (hunwinding : (g.streams id).Unwinding) :
    (∀ after g', (machine topicMatchesSub settings jwtDecode).exec g after = some g' →
        after.countP (GatewayStep.unwinds id) ≤ settings.websocketMaxTopics + 9 ∧
        ((∃ exception, (g'.streams id).handler = .finished exception) ∨
          ∃ l g'', l.unwinds id = true ∧
            g'.step topicMatchesSub settings jwtDecode l = some g'')) ∧
      ((∀ l ∈ before, l.Documented) →
        ∃ after g', (∀ l ∈ after, l.unwinds id = true ∧ l.Documented) ∧
          (machine topicMatchesSub settings jwtDecode).exec g after = some g' ∧
          (∃ exception, (g'.streams id).handler = .finished exception) ∧
          .wsCallback id ∉ g'.hub.packetCallbacks ∧
          ∀ topic, g'.hub.service.held topic (.websocket id) = none) := by
  let rank (g : Gateway) : Nat := (g.streams id).unwindRank
  refine ⟨?_, ?_⟩
  · intro after g' hexec
    rcases Machine.countP_add_rank_le rank (GatewayStep.unwinds id)
      (I := fun g => (g.streams id).Unwinding) (fun _ _ _ h hstep => unwinding_step hstep h)
      hunwinding hexec with ⟨hunwinding', hcount⟩
    have hbound : rank g ≤ 9 + settings.websocketMaxTopics :=
      (sized_of_run hrun id).unwindRank_le
    refine ⟨by omega, ?_⟩
    rcases exists_unwinding_step ⟨_, hrun.append hexec⟩ hunwinding' with
      hfinished | ⟨l, g'', hunwinds, _, hstep⟩
    · exact Or.inl hfinished
    · exact Or.inr ⟨l, g'', hunwinds, hstep⟩
  · intro hdocumented
    have hguarded : (machine topicMatchesSub settings jwtDecode).GuardedRun
        (fun _ l => l.Documented) before g := hrun.guarded hdocumented
    have htidy : TidyStreams topicMatchesSub settings g :=
      Machine.GuardedRun.invariant (P := fun _ g => TidyStreams topicMatchesSub settings g)
        tidyStreams_initial (fun _ _ _ _ _ h hdocumented hstep => h.step hdocumented hstep)
        hguarded
    let Cleaning (g : Gateway) : Prop :=
      (machine topicMatchesSub settings jwtDecode).Reachable g ∧
        TidyStreams topicMatchesSub settings g ∧ (g.streams id).Unwinding
    have hprogress : ∀ g, Cleaning g →
        ¬(∃ exception, (g.streams id).handler = .finished exception) →
        ∃ l g', (l.unwinds id = true ∧ l.Documented) ∧
          (machine topicMatchesSub settings jwtDecode).step g l = some g' := by
      rintro g ⟨hg, _, hcleaning⟩ hunfinished
      rcases exists_unwinding_step hg hcleaning with hfinished | ⟨l, g', hunwinds, hpaho, hstep⟩
      · exact absurd hfinished hunfinished
      · exact ⟨l, g', ⟨hunwinds, hpaho⟩, hstep⟩
    have hkeep : ∀ g l g', Cleaning g → l.unwinds id = true ∧ l.Documented →
        (machine topicMatchesSub settings jwtDecode).step g l = some g' →
        Cleaning g' ∧ rank g' < rank g := by
      rintro g l g' ⟨hg, htidy, hcleaning⟩ ⟨hunwinds, hpaho⟩ hstep
      rcases unwinding_step hstep hcleaning with ⟨hcleaning', _, hless⟩
      exact ⟨⟨hg.step hstep, htidy.step hpaho hstep, hcleaning'⟩, hless hunwinds⟩
    have hcleaning : Cleaning g := ⟨⟨_, hrun⟩, htidy, hunwinding⟩
    rcases Machine.exists_exec_of_rank rank
      (fun l : GatewayStep => l.unwinds id = true ∧ l.Documented)
      (G := fun g => ∃ exception, (g.streams id).handler = .finished exception) hprogress hkeep
      hcleaning with ⟨after, g', hafter, hexec, ⟨_, htidy', _⟩, hfinished⟩
    exact ⟨after, g', hafter, hexec, hfinished, htidy'.gone hfinished⟩

/-- A client that is too slow, when the watcher has seen it. -/
theorem websocket_cleanup_completes_slow :
    ∃ g g', (sampleOf narrowSettings).Run (slowConsumer.take 12) g ∧
      (sampleOf narrowSettings).Reachable g' ∧ (g.streams 0).handler = .streaming ∧
      (∃ exception, (g'.streams 0).handler = .finished exception) ∧
      .wsCallback 0 ∉ g'.hub.packetCallbacks ∧
      ∀ topic, g'.hub.service.held topic (.websocket 0) = none := by
  have hexec : ((sampleOf narrowSettings).exec initial (slowConsumer.take 12)).isSome := by
    decide +kernel
  rcases Option.isSome_iff_exists.mp hexec with ⟨g, hg⟩
  have hrun : (sampleOf narrowSettings).Run (slowConsumer.take 12) g :=
    Machine.run_iff_exec.mpr hg
  have hstate : ((sampleOf narrowSettings).exec initial (slowConsumer.take 12)).map (fun g =>
      ((g.streams 0).handler, (g.streams 0).finished)) = some (.streaming, true) := by
    decide +kernel
  rw [hg, Option.map_some, Option.some.injEq, Prod.mk.injEq] at hstate
  have hdocumented : ∀ l ∈ slowConsumer.take 12, l.Documented := by
    simp [slowConsumer, streamingConnection, packet, GatewayStep.Documented, StreamStep.Documented]
  rcases (websocket_cleanup_completes hrun (Or.inr hstate)).2 hdocumented with
    ⟨after, g', _, hafter, hfinished⟩
  exact ⟨g, g', hrun, ⟨_, hrun.append hafter⟩, hstate.1, hfinished⟩

end Gateway

end MqttGateway
