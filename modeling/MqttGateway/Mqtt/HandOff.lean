import MqttGateway.Core.Config
import MqttGateway.Library.Bounded
import MqttGateway.Library.Machine
import MqttGateway.Mqtt.Client

/-!
# Handing packets over to the event loop

{lit}`_on_message` collects packets on paho's network thread, {lit}`_drain_messages` takes what
was collected on the event loop, and {lit}`_deliver_message` gives each packet to the
queue behind {lit}`get_message` and to the registered callbacks.  {lit}`_on_message` may run between
any two steps of the event loop, also from a callback; {lit}`_dispatch_lock` makes its
own critical section and that of the drain atomic.  {lit}`connect` sets the event loop
before it creates paho's client, so every packet arrives with an event loop set.

A label names what its step observes, and the step is taken only if the code does
that.  A {lit}`Ledger` is the history of a run without any bound, against which the two
bounded buffers are compared.

Main results:

- Theorem {lit}`handOff_matches_ledger`: in every run at most one drain is scheduled, each
  drain delivers the newest arrivals since the one before it, each delivery calls
  the callbacks registered when it starts, and the message queue holds the newest
  deliveries that have not been taken.
-/

namespace MqttGateway

open Toolkit

/-- What the event loop is in the middle of, with the packets the drain has not delivered. -/
inductive DrainActivity (κ : Type) where
  | idle
  /-- {lit}`_drain_messages`, before the next delivery. -/
  | draining (rest : List ReceivedMessage)
  /-- {lit}`_deliver_message`, with the packet callbacks it has not called yet. -/
  | packetCalls (message : ReceivedMessage) (due : List κ) (rest : List ReceivedMessage)
  /-- {lit}`_deliver_message`, with the message callbacks it has not called yet. -/
  | messageCalls (message : ReceivedMessage) (due : List κ) (rest : List ReceivedMessage)

/-- The delivery state of {lit}`MQTTClient`, with callbacks of type {lit}`κ`. -/
structure HandOff (κ : Type) where
  pendingMessages : List ReceivedMessage
  dispatchPending : Bool
  /-- The drains that are scheduled on the event loop and have not taken their batch. -/
  scheduled : Nat
  messageQueue : List (PyStr × Bytes)
  packetCallbacks : List κ
  messageCallbacks : List κ
  activity : DrainActivity κ
  /-- The exceptions that have left a drain. -/
  escaped : List PyException

/-- The steps of the network thread and of the event loop, with what they observe. -/
inductive HandOffStep (κ : Type) where
  | onMessage (message : ReceivedMessage)
  /-- A scheduled drain takes its batch. -/
  | takeBatch (batch : List ReceivedMessage)
  | deliver (message : ReceivedMessage)
  /-- One packet callback, and whether it raised an {lit}`Exception`. -/
  | packetCall (callback : κ) (message : ReceivedMessage) (raised : Bool)
  /-- The delivery turns to the message callbacks. -/
  | beginMessageCalls (message : ReceivedMessage)
  /-- One message callback, and whether it raised an {lit}`Exception`. -/
  | messageCall (callback : κ) (message : ReceivedMessage) (raised : Bool)
  | endDelivery
  | endDrain
  | getMessage (item : PyStr × Bytes)
  | addPacketCallback (callback : κ)
  | removePacketCallback (callback : κ)
  | addMessageCallback (callback : κ)
  | removeMessageCallback (callback : κ)

namespace HandOff

variable {κ : Type} [DecidableEq κ]

/-- The client before its first packet. -/
def initial : HandOff κ where
  pendingMessages := []
  dispatchPending := false
  scheduled := 0
  messageQueue := []
  packetCallbacks := []
  messageCallbacks := []
  activity := .idle
  escaped := []

section Steps

variable (settings : Settings)

/-- A payload within {lit}`max_message_bytes`. -/
def inLimit (message : ReceivedMessage) : Bool :=
  message.payload.length ≤ settings.maxMessageBytes

/-- {lit}`_on_message`. -/
def onMessage (s : HandOff κ) (message : ReceivedMessage) : HandOff κ :=
  if inLimit settings message then
    let s :=
      { s with
        pendingMessages := pushBounded settings.mqttQueueSize s.pendingMessages message }
    if s.dispatchPending then s
    else { s with dispatchPending := true, scheduled := s.scheduled + 1 }
  else s

/-- The critical section of {lit}`_drain_messages`. -/
def takeBatch (s : HandOff κ) : HandOff κ :=
  { s with
    pendingMessages := []
    dispatchPending := false
    scheduled := s.scheduled - 1
    activity := .draining s.pendingMessages }

/-- How {lit}`_deliver_message` puts a message in the queue: the oldest one makes room. -/
def enqueue (item : PyStr × Bytes) : Py (List (PyStr × Bytes)) Unit := do
  try
    Queue.putNowait settings.mqttQueueSize item
  catch
    | .queueFull =>
        let _ ← Queue.getNowait
        Queue.putNowait settings.mqttQueueSize item
    | e => throw e

/-- The start of {lit}`_deliver_message`: the queue, then a copy of the packet callbacks.  An
exception of the queue would end the whole drain. -/
def deliver (s : HandOff κ) (message : ReceivedMessage) (rest : List ReceivedMessage) :
    HandOff κ :=
  match (enqueue settings (message.topic, message.payload)).run s.messageQueue with
  | (.ok _, queue) =>
      { s with
        messageQueue := queue
        activity := .packetCalls message s.packetCallbacks rest }
  | (.error e, queue) =>
      { s with messageQueue := queue, activity := .idle, escaped := s.escaped ++ [e] }

/-- One step. -/
def step (s : HandOff κ) : HandOffStep κ → Option (HandOff κ)
  | .onMessage message => some (s.onMessage settings message)
  | .takeBatch batch =>
      match s.activity with
      | .idle => if 0 < s.scheduled ∧ batch = s.pendingMessages then some s.takeBatch else none
      | _ => none
  | .deliver message =>
      match s.activity with
      | .draining (m :: rest) => if message = m then some (s.deliver settings m rest) else none
      | _ => none
  | .packetCall callback message _ =>
      -- A callback that raises is logged, and the next one is called.
      match s.activity with
      | .packetCalls m (c :: due) rest =>
          if callback = c ∧ message = m then some { s with activity := .packetCalls m due rest }
          else none
      | _ => none
  | .beginMessageCalls message =>
      match s.activity with
      | .packetCalls m [] rest =>
          if message = m then some { s with activity := .messageCalls m s.messageCallbacks rest }
          else none
      | _ => none
  | .messageCall callback message _ =>
      match s.activity with
      | .messageCalls m (c :: due) rest =>
          if callback = c ∧ message = m then some { s with activity := .messageCalls m due rest }
          else none
      | _ => none
  | .endDelivery =>
      match s.activity with
      | .messageCalls _ [] rest => some { s with activity := .draining rest }
      | _ => none
  | .endDrain =>
      match s.activity with
      | .draining [] => some { s with activity := .idle }
      | _ => none
  | .getMessage item =>
      -- A drain does not suspend, so a consumer only runs between drains.
      match s.activity, (Queue.getNowait (α := PyStr × Bytes)).run s.messageQueue with
      | .idle, (.ok first, queue) =>
          if item = first then some { s with messageQueue := queue } else none
      | _, _ => none
  | .addPacketCallback callback =>
      some { s with packetCallbacks := s.packetCallbacks ++ [callback] }
  | .removePacketCallback callback =>
      some { s with packetCallbacks := s.packetCallbacks.erase callback }
  | .addMessageCallback callback =>
      some { s with messageCallbacks := s.messageCallbacks ++ [callback] }
  | .removeMessageCallback callback =>
      some { s with messageCallbacks := s.messageCallbacks.erase callback }

/-- The hand-off as a machine. -/
def machine : Machine (HandOff κ) (HandOffStep κ) where
  init := initial
  step := step settings

end Steps

end HandOff

/-! ## The unbounded history -/

/-- The history of a run. -/
structure Ledger (κ : Type) where
  /-- The packets that arrived before each drain took its batch, one list for each drain. -/
  windows : List (List ReceivedMessage)
  /-- The packets that have arrived since the last drain took its batch. -/
  window : List ReceivedMessage
  batches : List (List ReceivedMessage)
  delivered : List ReceivedMessage
  packetCallbacks : List κ
  messageCallbacks : List κ
  /-- One call for each callback registered when a delivery starts. -/
  packetOwed : List (κ × ReceivedMessage)
  packetMade : List (κ × ReceivedMessage)
  /-- One call for each callback registered when a delivery turns to the message callbacks. -/
  messageOwed : List (κ × ReceivedMessage)
  messageMade : List (κ × ReceivedMessage)
  taken : List (PyStr × Bytes)
  /-- What has been delivered after the message that was taken last. -/
  untaken : List (PyStr × Bytes)

namespace Ledger

variable {κ : Type} [DecidableEq κ]

/-- The history of the empty run. -/
def initial : Ledger κ where
  windows := []
  window := []
  batches := []
  delivered := []
  packetCallbacks := []
  messageCallbacks := []
  packetOwed := []
  packetMade := []
  messageOwed := []
  messageMade := []
  taken := []
  untaken := []

/-- Write one more step down. -/
def record (settings : Settings) (L : Ledger κ) : HandOffStep κ → Ledger κ
  | .onMessage message =>
      if HandOff.inLimit settings message then { L with window := L.window ++ [message] } else L
  | .takeBatch batch =>
      { L with
        windows := L.windows ++ [L.window]
        window := []
        batches := L.batches ++ [batch] }
  | .deliver message =>
      { L with
        delivered := L.delivered ++ [message]
        packetOwed := L.packetOwed ++ L.packetCallbacks.map fun callback => (callback, message)
        untaken := L.untaken ++ [(message.topic, message.payload)] }
  | .packetCall callback message _ =>
      { L with packetMade := L.packetMade ++ [(callback, message)] }
  | .beginMessageCalls message =>
      { L with
        messageOwed := L.messageOwed ++ L.messageCallbacks.map fun callback => (callback, message) }
  | .messageCall callback message _ =>
      { L with messageMade := L.messageMade ++ [(callback, message)] }
  | .endDelivery | .endDrain => L
  | .getMessage item =>
      -- A message is taken from the newest ones; those before it have been dropped.
      { L with
        taken := L.taken ++ [item]
        untaken := (L.untaken.rtake settings.mqttQueueSize).tail }
  | .addPacketCallback callback =>
      { L with packetCallbacks := L.packetCallbacks ++ [callback] }
  | .removePacketCallback callback =>
      { L with packetCallbacks := L.packetCallbacks.erase callback }
  | .addMessageCallback callback =>
      { L with messageCallbacks := L.messageCallbacks ++ [callback] }
  | .removeMessageCallback callback =>
      { L with messageCallbacks := L.messageCallbacks.erase callback }

/-- The history of a list of steps, oldest first. -/
def of (settings : Settings) (steps : List (HandOffStep κ)) : Ledger κ :=
  steps.foldl (record settings) initial

/-- All packets within the limit that have arrived. -/
def arrivals (L : Ledger κ) : List ReceivedMessage :=
  L.windows.flatten ++ L.window

end Ledger

/-! ## The buffers against the history -/

namespace HandOff

variable {κ : Type} [DecidableEq κ]

/-- The packets a drain has taken and not delivered yet. -/
def undelivered : DrainActivity κ → List ReceivedMessage
  | .idle => []
  | .draining rest | .packetCalls _ _ rest | .messageCalls _ _ rest => rest

/-- The calls of packet callbacks a delivery still has to make. -/
def packetDue : DrainActivity κ → List (κ × ReceivedMessage)
  | .packetCalls message due _ => due.map fun callback => (callback, message)
  | .idle | .draining _ | .messageCalls _ _ _ => []

/-- The calls of message callbacks a delivery still has to make. -/
def messageDue : DrainActivity κ → List (κ × ReceivedMessage)
  | .messageCalls message due _ => due.map fun callback => (callback, message)
  | .idle | .draining _ | .packetCalls _ _ _ => []

/-- What a message queue entry keeps of a packet. -/
def item (message : ReceivedMessage) : PyStr × Bytes :=
  (message.topic, message.payload)

/-- The state agrees with the history of the run that led to it. -/
structure Agrees (settings : Settings) (s : HandOff κ) (L : Ledger κ) : Prop where
  pending : s.pendingMessages = L.window.rtake settings.mqttQueueSize
  flag : s.dispatchPending = true ↔ s.pendingMessages ≠ []
  scheduled : s.scheduled = if s.dispatchPending then 1 else 0
  batches : L.batches = L.windows.map fun window => window.rtake settings.mqttQueueSize
  delivered : L.delivered ++ undelivered s.activity = L.batches.flatten
  packetCallbacks : s.packetCallbacks = L.packetCallbacks
  messageCallbacks : s.messageCallbacks = L.messageCallbacks
  packetMade : L.packetMade ++ packetDue s.activity = L.packetOwed
  messageMade : L.messageMade ++ messageDue s.activity = L.messageOwed
  queue : s.messageQueue = L.untaken.rtake settings.mqttQueueSize
  untaken : ∃ older, L.delivered.map item = older ++ L.untaken ∧ L.taken.Sublist older ∧
    L.taken.getLast? = older.getLast?
  escaped : s.escaped = []

omit [DecidableEq κ] in
theorem agrees_initial (settings : Settings) :
    Agrees settings (initial : HandOff κ) Ledger.initial where
  pending := by simp [initial, Ledger.initial, List.rtake]
  flag := by simp [initial]
  scheduled := rfl
  batches := rfl
  delivered := rfl
  packetCallbacks := rfl
  messageCallbacks := rfl
  packetMade := rfl
  messageMade := rfl
  queue := by simp [initial, Ledger.initial, List.rtake]
  untaken := ⟨[], rfl, List.Sublist.slnil, rfl⟩
  escaped := rfl

/-- Neither {lit}`QueueFull` nor {lit}`QueueEmpty` leaves the code that puts a message in the
queue. -/
theorem enqueue_run (settings : Settings) {queue : List (PyStr × Bytes)}
    (hlength : queue.length ≤ settings.mqttQueueSize) (x : PyStr × Bytes) :
    (enqueue settings x).run queue =
      (.ok (), pushBounded settings.mqttQueueSize queue x) := by
  have hpos := settings.mqttQueueSize_pos
  simp only [enqueue, pushBounded, List.length_append, List.length_singleton]
  by_cases hfull : settings.mqttQueueSize ≤ queue.length
  · rcases queue with _ | ⟨first, queue⟩
    · rw [List.length_nil] at hfull
      omega
    · rw [List.length_cons] at hlength
      rw [if_pos (by omega)]
      simp [Queue.putNowait_run_of_full hpos hfull,
        Queue.putNowait_run_of_lt (Nat.lt_of_succ_le hlength)]
  · rw [if_neg (by omega)]
    simp [Queue.putNowait_run_of_lt (Nat.lt_of_not_le hfull)]

section Preservation

variable {settings : Settings} {s s' : HandOff κ} {L : Ledger κ}

/-- An arrival is kept among the newest ones, with a drain on its way. -/
theorem Agrees.onMessage (h : Agrees settings s L) (message : ReceivedMessage) :
    Agrees settings (s.onMessage settings message)
      (L.record settings (.onMessage message)) := by
  simp only [HandOff.onMessage, Ledger.record]
  by_cases hlimit : inLimit settings message = true
  · have hpending : pushBounded settings.mqttQueueSize s.pendingMessages message =
        (L.window ++ [message]).rtake settings.mqttQueueSize := by
      rw [h.pending, pushBounded_rtake]
    have hne := pushBounded_ne_nil settings.mqttQueueSize_pos s.pendingMessages message
    rw [if_pos hlimit, if_pos hlimit]
    by_cases hflag : s.dispatchPending = true
    · rw [if_pos hflag]
      exact { h with
        pending := hpending
        flag := by simp [hflag, hne] }
    · have hnone : s.scheduled = 0 := by
        rw [h.scheduled, if_neg hflag]
      rw [if_neg hflag]
      exact { h with
        pending := hpending
        flag := by simp [hne]
        scheduled := by simp [hnone] }
  · rw [if_neg hlimit, if_neg hlimit]
    exact h

/-- A drain takes the newest arrivals since the drain before it. -/
theorem Agrees.takeBatch (h : Agrees settings s L) (hidle : s.activity = .idle) :
    Agrees settings s.takeBatch (L.record settings (.takeBatch s.pendingMessages)) := by
  have hdelivered := h.delivered
  have hpacket := h.packetMade
  have hmessage := h.messageMade
  rw [hidle] at hdelivered hpacket hmessage
  refine { h with
    pending := by simp [HandOff.takeBatch, Ledger.record, List.rtake]
    flag := by simp [HandOff.takeBatch]
    scheduled := ?_
    batches := ?_
    delivered := ?_
    packetMade := hpacket
    messageMade := hmessage }
  · simp only [HandOff.takeBatch, h.scheduled]
    split <;> rfl
  · simp [Ledger.record, h.batches, h.pending]
  · rw [undelivered, List.append_nil] at hdelivered
    simp [HandOff.takeBatch, Ledger.record, undelivered, hdelivered]

/-- A delivery puts its message in the queue and owes one call to each callback. -/
theorem Agrees.deliver (h : Agrees settings s L) {message : ReceivedMessage}
    {rest : List ReceivedMessage} (hactivity : s.activity = .draining (message :: rest)) :
    Agrees settings (s.deliver settings message rest)
      (L.record settings (.deliver message)) := by
  have hlength : s.messageQueue.length ≤ settings.mqttQueueSize := by
    rw [h.queue, length_rtake]
    omega
  have hdelivered := h.delivered
  have hpacket := h.packetMade
  have hmessage := h.messageMade
  rw [hactivity] at hdelivered hpacket hmessage
  unfold HandOff.deliver
  rw [enqueue_run settings hlength]
  refine { h with
    delivered := ?_
    packetMade := ?_
    messageMade := hmessage
    queue := ?_
    untaken := ?_ }
  · simpa [Ledger.record, undelivered] using hdelivered
  · rw [packetDue, List.append_nil] at hpacket
    simp [Ledger.record, packetDue, hpacket, h.packetCallbacks]
  · rw [h.queue, pushBounded_rtake]
    rfl
  · rcases h.untaken with ⟨older, hitems, htaken, hlast⟩
    refine ⟨older, ?_, htaken, hlast⟩
    simp [Ledger.record, hitems, item]

/-- A consumer takes the oldest of the newest messages. -/
theorem Agrees.getMessage (h : Agrees settings s L) {first : PyStr × Bytes}
    {queue : List (PyStr × Bytes)} (hqueue : s.messageQueue = first :: queue) :
    Agrees settings { s with messageQueue := queue }
      (L.record settings (.getMessage first)) := by
  have hnewest := h.queue
  rw [hqueue] at hnewest
  rcases rtake_cons hnewest.symm with ⟨⟨dropped, hdropped⟩, hrest⟩
  refine { h with
    queue := ?_
    untaken := ?_ }
  · simp only [Ledger.record]
    rw [← hnewest, List.tail_cons, hrest]
  · rcases h.untaken with ⟨older, hitems, htaken, _⟩
    refine ⟨older ++ dropped ++ [first], ?_, ?_, ?_⟩
    · simp only [Ledger.record]
      rw [← hnewest, List.tail_cons, hitems, hdropped]
      simp
    · exact (htaken.trans (List.sublist_append_left older dropped)).append
        (List.Sublist.refl [first])
    · simp [Ledger.record]

/-- Every step keeps the state in agreement with the history. -/
theorem Agrees.step (h : Agrees settings s L) {l : HandOffStep κ}
    (hstep : s.step settings l = some s') : Agrees settings s' (L.record settings l) := by
  have hdelivered := h.delivered
  have hpacket := h.packetMade
  have hmessage := h.messageMade
  cases l with
  | onMessage message =>
      cases hstep
      exact h.onMessage message
  | takeBatch batch =>
      simp only [HandOff.step] at hstep
      split at hstep
      · next hidle =>
          rw [Option.ite_none_right_eq_some] at hstep
          rcases hstep with ⟨⟨_, rfl⟩, hs'⟩
          cases hs'
          exact h.takeBatch hidle
      · cases hstep
  | deliver message =>
      simp only [HandOff.step] at hstep
      split at hstep
      · next m rest hactivity =>
          rw [Option.ite_none_right_eq_some] at hstep
          rcases hstep with ⟨rfl, hs'⟩
          cases hs'
          exact h.deliver hactivity
      · cases hstep
  | packetCall callback message raised =>
      simp only [HandOff.step] at hstep
      split at hstep
      · next m c due rest hactivity =>
          rw [Option.ite_none_right_eq_some] at hstep
          rcases hstep with ⟨⟨rfl, rfl⟩, hs'⟩
          cases hs'
          rw [hactivity] at hdelivered hpacket hmessage
          refine { h with
            delivered := hdelivered
            packetMade := ?_
            messageMade := hmessage }
          simpa [Ledger.record, packetDue] using hpacket
      · cases hstep
  | beginMessageCalls message =>
      simp only [HandOff.step] at hstep
      split at hstep
      · next m rest hactivity =>
          rw [Option.ite_none_right_eq_some] at hstep
          rcases hstep with ⟨rfl, hs'⟩
          cases hs'
          rw [hactivity] at hdelivered hpacket hmessage
          refine { h with
            delivered := hdelivered
            packetMade := hpacket
            messageMade := ?_ }
          rw [messageDue, List.append_nil] at hmessage
          simp [Ledger.record, messageDue, hmessage, h.messageCallbacks]
      · cases hstep
  | messageCall callback message raised =>
      simp only [HandOff.step] at hstep
      split at hstep
      · next m c due rest hactivity =>
          rw [Option.ite_none_right_eq_some] at hstep
          rcases hstep with ⟨⟨rfl, rfl⟩, hs'⟩
          cases hs'
          rw [hactivity] at hdelivered hpacket hmessage
          refine { h with
            delivered := hdelivered
            packetMade := hpacket
            messageMade := ?_ }
          simpa [Ledger.record, messageDue] using hmessage
      · cases hstep
  | endDelivery =>
      simp only [HandOff.step] at hstep
      split at hstep
      · next m rest hactivity =>
          cases hstep
          rw [hactivity] at hdelivered hpacket hmessage
          exact { h with
            delivered := hdelivered
            packetMade := hpacket
            messageMade := hmessage }
      · cases hstep
  | endDrain =>
      simp only [HandOff.step] at hstep
      split at hstep
      · next hactivity =>
          cases hstep
          rw [hactivity] at hdelivered hpacket hmessage
          exact { h with
            delivered := hdelivered
            packetMade := hpacket
            messageMade := hmessage }
      · cases hstep
  | getMessage taken =>
      simp only [HandOff.step] at hstep
      split at hstep
      · next first queue hidle hget =>
          rw [Option.ite_none_right_eq_some] at hstep
          rcases hstep with ⟨rfl, hs'⟩
          cases hs'
          cases hqueue : s.messageQueue with
          | nil =>
              rw [hqueue] at hget
              cases hget
          | cons first rest =>
              rw [hqueue] at hget
              cases hget
              exact h.getMessage hqueue
      · cases hstep
  | addPacketCallback callback =>
      cases hstep
      exact { h with packetCallbacks := by simp [Ledger.record, h.packetCallbacks] }
  | removePacketCallback callback =>
      cases hstep
      exact { h with packetCallbacks := by simp [Ledger.record, h.packetCallbacks] }
  | addMessageCallback callback =>
      cases hstep
      exact { h with messageCallbacks := by simp [Ledger.record, h.messageCallbacks] }
  | removeMessageCallback callback =>
      cases hstep
      exact { h with messageCallbacks := by simp [Ledger.record, h.messageCallbacks] }

end Preservation

/-- The state agrees with the history after every run. -/
theorem agrees_of_run {settings : Settings} {steps : List (HandOffStep κ)} {s : HandOff κ}
    (hrun : (machine settings).Run steps s) : Agrees settings s (Ledger.of settings steps) :=
  hrun.refines (agrees_initial settings) fun _ _ _ _ h hstep => h.step hstep

omit [DecidableEq κ] in
/-- What is delivered is a sublist of what arrived. -/
theorem Agrees.delivered_sublist {settings : Settings} {s : HandOff κ} {L : Ledger κ}
    (h : Agrees settings s L) : L.delivered.Sublist L.arrivals := by
  calc
    L.delivered.Sublist (L.delivered ++ undelivered s.activity) := List.sublist_append_left _ _
    _ = (L.windows.map fun window => window.rtake settings.mqttQueueSize).flatten := by
      rw [h.delivered, h.batches]
    List.Sublist _ L.windows.flatten := flatten_rtake_sublist _ _
    List.Sublist _ L.arrivals := List.sublist_append_left _ _

/-- After every run: at most one drain is scheduled, and one is whenever packets are pending;
each batch holds the last arrivals since the batch before it, and the batches are
delivered once and in order; each delivery calls the callbacks registered when it
starts, once each and in order, whether or not they raise; the message queue holds
the last messages delivered after the one taken last; and no exception has left a drain. -/
theorem handOff_matches_ledger {settings : Settings} {steps : List (HandOffStep κ)}
    {s : HandOff κ} (hrun : (machine settings).Run steps s) :
    let L := Ledger.of settings steps
    let K := settings.mqttQueueSize
    (s.scheduled ≤ 1 ∧ (s.pendingMessages ≠ [] → s.scheduled = 1)) ∧
      (s.pendingMessages = L.window.rtake K ∧
        (L.batches = L.windows.map fun window => window.rtake K) ∧
        L.delivered ++ undelivered s.activity = L.batches.flatten ∧
        L.delivered.Sublist L.arrivals) ∧
      (L.packetCallbacks = s.packetCallbacks ∧ L.messageCallbacks = s.messageCallbacks ∧
        L.packetMade ++ packetDue s.activity = L.packetOwed ∧
        L.messageMade ++ messageDue s.activity = L.messageOwed) ∧
      (s.messageQueue = L.untaken.rtake K ∧
        ∃ older, L.delivered.map item = older ++ L.untaken ∧ L.taken.Sublist older ∧
          L.taken.getLast? = older.getLast?) ∧
      s.escaped = [] := by
  intro L K
  have h : Agrees settings s L := agrees_of_run hrun
  refine ⟨⟨?_, ?_⟩, ⟨h.pending, h.batches, h.delivered, h.delivered_sublist⟩,
    ⟨h.packetCallbacks.symm, h.messageCallbacks.symm, h.packetMade, h.messageMade⟩,
    ⟨h.queue, h.untaken⟩, h.escaped⟩
  · rw [h.scheduled]
    split <;> omega
  · intro hpending
    rw [h.scheduled, if_pos (h.flag.mpr hpending)]

/-- Settings with room for two messages. -/
def roomForTwo : Settings :=
  { Settings.default with
    mqttQueueSize := 2
    mqttQueueSize_pos := by decide }

/-- A packet with a one-byte payload. -/
def packet (byte : UInt8) : ReceivedMessage where
  topic := PyStr.lit ['t']
  payload := [byte]
  qos := 0
  retain := false

/-- Three arrivals for two places, a fourth one from within a callback that then raises, and a
consumer that takes the oldest message left. -/
def reentrantRun : List (HandOffStep Nat) :=
  [.addPacketCallback 7, .onMessage (packet 1), .onMessage (packet 2), .onMessage (packet 3),
    .takeBatch [packet 2, packet 3], .deliver (packet 2), .onMessage (packet 4),
    .packetCall 7 (packet 2) true, .beginMessageCalls (packet 2), .endDelivery,
    .deliver (packet 3), .packetCall 7 (packet 3) false, .beginMessageCalls (packet 3),
    .endDelivery, .endDrain, .takeBatch [packet 4], .deliver (packet 4),
    .packetCall 7 (packet 4) false, .beginMessageCalls (packet 4), .endDelivery, .endDrain,
    .getMessage (item (packet 3))]

theorem handOff_matches_ledger_reentrant :
    ∃ s : HandOff Nat, (machine roomForTwo).Run reentrantRun s ∧
      (s.scheduled ≤ 1 ∧ (s.pendingMessages ≠ [] → s.scheduled = 1)) ∧
      s.messageQueue = [item (packet 4)] := by
  have hexec : ((machine roomForTwo).exec initial reentrantRun).isSome := by decide +kernel
  rcases Option.isSome_iff_exists.mp hexec with ⟨s, hs⟩
  have hrun : (machine roomForTwo).Run reentrantRun s := Machine.run_iff_exec.mpr hs
  have hall := handOff_matches_ledger hrun
  refine ⟨s, hrun, hall.1, ?_⟩
  have huntaken : (Ledger.of roomForTwo reentrantRun).untaken.rtake roomForTwo.mqttQueueSize =
      [item (packet 4)] := by
    decide +kernel
  rw [← huntaken]
  exact hall.2.2.2.1.1

end HandOff

end MqttGateway
