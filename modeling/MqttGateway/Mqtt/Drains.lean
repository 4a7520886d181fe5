import MqttGateway.Mqtt.HandOff

/-!
# The drains of the hand-over

What arrives against what is delivered.  As long as no drain finds more packets than there is
room for, nothing is lost between the two; and the steps of the drains alone bring the
hand-over to rest, with every packet delivered that it has taken over.

Main results:

- Theorem {lit}`Agrees.complete`: with room for the packets, what has arrived has been delivered or
  is awaited.
- Theorem {lit}`drain_step`: a step of a drain delivers the first packet that is awaited, or
  none, and brings the hand-over closer to rest.
- Theorem {lit}`exists_drain_step`: a drain takes a step until the hand-over is at rest.
-/

namespace MqttGateway

open Toolkit

/-- The packets taken over that have not been delivered. -/
def HandOff.awaited {κ : Type} (s : HandOff κ) : List ReceivedMessage :=
  HandOff.undelivered s.activity ++ s.pendingMessages

/-! ## Arrivals and deliveries -/

namespace HandOffStep

/-- The packet that arrives in a step of the hand-over. -/
def received {κ : Type} : HandOffStep κ → List ReceivedMessage
  | .onMessage message => [message]
  | _ => []

/-- The packet that is delivered in a step of the hand-over. -/
def delivered {κ : Type} : HandOffStep κ → List ReceivedMessage
  | .deliver message => [message]
  | _ => []

end HandOffStep

namespace Ledger

variable {κ : Type} [DecidableEq κ] {settings : Settings}

theorem record_history (L : Ledger κ) (l : HandOffStep κ) :
    (L.record settings l).arrivals =
        L.arrivals ++ l.received.filter (HandOff.inLimit settings) ∧
      (L.record settings l).delivered = L.delivered ++ l.delivered := by
  cases l with
  | onMessage message =>
      by_cases hlimit : HandOff.inLimit settings message = true
      · simp [record, arrivals, HandOffStep.received, HandOffStep.delivered, hlimit]
      · simp [record, arrivals, HandOffStep.received, HandOffStep.delivered, hlimit]
  | takeBatch batch => simp [record, arrivals, HandOffStep.received, HandOffStep.delivered]
  | deliver message => simp [record, arrivals, HandOffStep.received, HandOffStep.delivered]
  | packetCall _ _ _ | beginMessageCalls _ | messageCall _ _ _ | endDelivery | endDrain
  | getMessage _ | addPacketCallback _ | removePacketCallback _ | addMessageCallback _
  | removeMessageCallback _ =>
      simp [record, arrivals, HandOffStep.received, HandOffStep.delivered]

/-- The arrivals and the deliveries of a history, read off its steps. -/
theorem of_history (steps : List (HandOffStep κ)) :
    (of settings steps).arrivals =
        (steps.flatMap HandOffStep.received).filter (HandOff.inLimit settings) ∧
      (of settings steps).delivered = steps.flatMap HandOffStep.delivered := by
  induction steps using List.reverseRecOn with
  | nil => exact ⟨rfl, rfl⟩
  | append_singleton steps l ih =>
      have hof : of settings (steps ++ [l]) = (of settings steps).record settings l := by
        simp [of]
      rw [hof, (record_history _ l).1, (record_history _ l).2, ih.1, ih.2]
      simp

/-- No drain has found more packets than there is room for. -/
structure Fits (settings : Settings) (L : Ledger κ) : Prop where
  windows : ∀ window ∈ L.windows, window.length ≤ settings.mqttQueueSize
  window : L.window.length ≤ settings.mqttQueueSize

omit [DecidableEq κ] in
theorem fits_initial : Fits settings (initial : Ledger κ) where
  windows window hwindow := by cases hwindow
  window := Nat.zero_le _

/-- A step keeps the history within the room there is, if a packet that arrives finds some. -/
theorem Fits.record {L : Ledger κ} (h : L.Fits settings) {l : HandOffStep κ}
    (hroom : ∀ message, l = .onMessage message → HandOff.inLimit settings message = true →
      L.window.length < settings.mqttQueueSize) : (L.record settings l).Fits settings := by
  cases l with
  | onMessage message =>
      by_cases hlimit : HandOff.inLimit settings message = true
      · have hless := hroom message rfl hlimit
        refine ⟨?_, ?_⟩
        · simpa [Ledger.record, hlimit] using h.windows
        · simp only [Ledger.record, hlimit, if_true, List.length_append, List.length_singleton]
          omega
      · simpa [Ledger.record, hlimit] using h
  | takeBatch batch =>
      refine ⟨?_, Nat.zero_le _⟩
      intro window hwindow
      rcases List.mem_append.mp hwindow with hold | hnew
      · exact h.windows window hold
      · rw [List.mem_singleton.mp hnew]
        exact h.window
  | deliver _ | packetCall _ _ _ | beginMessageCalls _ | messageCall _ _ _ | endDelivery
  | endDrain | getMessage _ | addPacketCallback _ | removePacketCallback _
  | addMessageCallback _ | removeMessageCallback _ => exact ⟨h.windows, h.window⟩

end Ledger

/-- As long as no drain has found more packets than there is room for, every packet has been
delivered, is about to be, or is pending. -/
theorem HandOff.Agrees.complete {κ : Type} {settings : Settings} {s : HandOff κ} {L : Ledger κ}
    (h : HandOff.Agrees settings s L) (hfits : L.Fits settings) :
    L.delivered ++ s.awaited = L.arrivals := by
  have hwindows : L.windows.map (fun window => window.rtake settings.mqttQueueSize) =
      L.windows := by
    conv_rhs => rw [← List.map_id L.windows]
    exact List.map_congr_left fun window hwindow => rtake_of_length_le (hfits.windows _ hwindow)
  rw [HandOff.awaited, ← List.append_assoc, h.delivered, h.batches, hwindows, h.pending,
    rtake_of_length_le hfits.window]
  rfl

/-! ## The end of a drain -/

/-- A step of a drain. -/
def HandOffStep.drains {κ : Type} : HandOffStep κ → Bool
  | .takeBatch _ | .deliver _ | .packetCall _ _ _ | .beginMessageCalls _ | .messageCall _ _ _
  | .endDelivery | .endDrain => true
  | .onMessage _ | .getMessage _ | .addPacketCallback _ | .removePacketCallback _
  | .addMessageCallback _ | .removeMessageCallback _ => false

namespace HandOff

variable {κ : Type} [DecidableEq κ] {settings : Settings} {s s' : HandOff κ}

/-- The steps of one delivery: its start, the calls of all callbacks, the turn to the message
callbacks and its end. -/
def deliverySteps (s : HandOff κ) : Nat :=
  s.packetCallbacks.length + s.messageCallbacks.length + 3

/-- The steps that the drain under way still takes. -/
def activitySteps (s : HandOff κ) : Nat :=
  match s.activity with
  | .idle => 0
  | .draining rest => rest.length * s.deliverySteps + 1
  | .packetCalls _ due rest =>
      due.length + s.messageCallbacks.length + 2 + (rest.length * s.deliverySteps + 1)
  | .messageCalls _ due rest => due.length + 1 + (rest.length * s.deliverySteps + 1)

/-- The steps that the drain under way and the one that is scheduled still take. -/
def drainRank (s : HandOff κ) : Nat :=
  s.activitySteps + 2 * s.scheduled + s.pendingMessages.length * s.deliverySteps

/-- A step of a drain delivers the first packet that is awaited or none, and there is one step
less to come. -/
theorem drain_step {L : Ledger κ} (h : Agrees settings s L) {l : HandOffStep κ}
    (hl : l.drains = true) (hstep : s.step settings l = some s') :
    l.delivered ++ s'.awaited = s.awaited ∧ s'.drainRank < s.drainRank := by
  cases l with
  | onMessage _ | getMessage _ | addPacketCallback _ | removePacketCallback _
  | addMessageCallback _ | removeMessageCallback _ => cases hl
  | takeBatch batch =>
      simp only [HandOff.step] at hstep
      split at hstep
      · next hactivity =>
          rw [Option.ite_none_right_eq_some] at hstep
          rcases hstep with ⟨⟨hscheduled, _⟩, hs'⟩
          cases hs'
          refine ⟨?_, ?_⟩
          · simp [HandOff.takeBatch, awaited, undelivered, HandOffStep.delivered, hactivity]
          · simp only [drainRank, activitySteps, HandOff.takeBatch, deliverySteps, hactivity,
              List.length_nil, Nat.zero_mul]
            omega
      · cases hstep
  | deliver message =>
      simp only [HandOff.step] at hstep
      split at hstep
      · next m rest hactivity =>
          rw [Option.ite_none_right_eq_some] at hstep
          rcases hstep with ⟨rfl, hs'⟩
          have hqueue : s.messageQueue.length ≤ settings.mqttQueueSize := by
            rw [h.queue, length_rtake]
            omega
          rw [HandOff.deliver, enqueue_run settings hqueue] at hs'
          cases hs'
          refine ⟨?_, ?_⟩
          · simp [awaited, undelivered, HandOffStep.delivered, hactivity]
          · simp only [drainRank, activitySteps, deliverySteps, hactivity, List.length_cons,
              Nat.succ_mul]
            omega
      · cases hstep
  | packetCall _ _ _ | beginMessageCalls _ | messageCall _ _ _ =>
      simp only [HandOff.step] at hstep
      split at hstep
      · next hactivity =>
          rw [Option.ite_none_right_eq_some] at hstep
          cases hstep.2
          refine ⟨?_, ?_⟩
          · simp [awaited, undelivered, HandOffStep.delivered, hactivity]
          · simp only [drainRank, activitySteps, deliverySteps, hactivity, List.length_cons,
              List.length_nil]
            omega
      · cases hstep
  | endDelivery | endDrain =>
      simp only [HandOff.step] at hstep
      split at hstep
      · next hactivity =>
          cases hstep
          refine ⟨?_, ?_⟩
          · simp [awaited, undelivered, HandOffStep.delivered, hactivity]
          · simp only [drainRank, activitySteps, deliverySteps, hactivity, List.length_nil]
            omega
      · cases hstep

/-- A drain takes a step until nothing is awaited and none is under way. -/
theorem exists_drain_step {L : Ledger κ} (h : Agrees settings s L)
    (hrest : s.activity ≠ .idle ∨ s.pendingMessages ≠ []) :
    ∃ l, l.drains = true ∧ (s.step settings l).isSome = true := by
  cases hactivity : s.activity with
  | idle =>
      have hpending := hrest.resolve_left (fun hbusy => hbusy hactivity)
      have hscheduled : 0 < s.scheduled := by
        rw [h.scheduled, if_pos (h.flag.mpr hpending)]
        exact Nat.one_pos
      exact ⟨.takeBatch s.pendingMessages, rfl, by simp [HandOff.step, hactivity, hscheduled]⟩
  | draining rest =>
      cases rest with
      | nil => exact ⟨.endDrain, rfl, by simp [HandOff.step, hactivity]⟩
      | cons message rest => exact ⟨.deliver message, rfl, by simp [HandOff.step, hactivity]⟩
  | packetCalls message due rest =>
      cases due with
      | nil => exact ⟨.beginMessageCalls message, rfl, by simp [HandOff.step, hactivity]⟩
      | cons callback due =>
          exact ⟨.packetCall callback message false, rfl, by simp [HandOff.step, hactivity]⟩
  | messageCalls message due rest =>
      cases due with
      | nil => exact ⟨.endDelivery, rfl, by simp [HandOff.step, hactivity]⟩
      | cons callback due =>
          exact ⟨.messageCall callback message false, rfl, by simp [HandOff.step, hactivity]⟩

end HandOff

end MqttGateway
