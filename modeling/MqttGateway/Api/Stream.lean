import MqttGateway.Core.Auth
import MqttGateway.Services.Hub
import MqttGateway.Services.Statistics

/-!
# Websocket streams

{lit}`websocket_endpoint` as a sequence of steps.  The handler authenticates the client, checks
the requested filters, registers {lit}`ws_callback`, acquires the filters one after the other,
sends the ready frame and then waits for one of the three tasks it has started: the
sender, the receiver and the overflow watcher.  Every step stands for what happens
between two awaits; what an awaited operation does (it completes, raises or is
cancelled), and when a timer fires, is left open.  Steps that read the clock are given
the reading.

Main definitions:

- {lit}`Stream.step`: one step of a connection, on the hub it shares with the other consumers
  and on its own state.
- {lit}`Stream.wsCallback`: what a packet does to the connection.
-/

namespace MqttGateway

open Toolkit

/-- What is handed to {lit}`websocket.send_json`. -/
inductive Frame where
  | ready (topics : List PyStr)
  | data (message : MQTTMessage)
  | ping
deriving DecidableEq

/-- What is handed to {lit}`websocket.close`. -/
structure CloseFrame where
  code : Nat
  reason : String
deriving DecidableEq, Repr

namespace CloseFrame

def authenticationRequired : CloseFrame := ⟨1008, "Authentication required"⟩

def invalidToken : CloseFrame := ⟨1008, "Invalid or missing token"⟩

def topicNotAllowed : CloseFrame := ⟨1008, "Topic not allowed"⟩

def tokenExpired : CloseFrame := ⟨1008, "Token expired"⟩

def cannotKeepUp : CloseFrame := ⟨1013, "Client cannot keep up"⟩

def streamUnavailable : CloseFrame := ⟨1011, "Stream unavailable"⟩

end CloseFrame

/-- What the task that runs {lit}`websocket_endpoint` is doing. -/
inductive HandlerActivity where
  | idle
  /-- {lit}`accept` before the authentication frame. -/
  | acceptingForAuth
  | awaitingAuth
  /-- {lit}`close` before any subscription, with {lit}`RuntimeError` suppressed or not. -/
  | rejecting (suppress : Bool)
  | accepting
  | registering
  /-- The loop of {lit}`acquire_subscription` with the topics to come, then the ready frame. -/
  | acquiring (todo : List PyStr)
  | awaitingReady
  /-- {lit}`finished.wait()` inside the task group. -/
  | streaming
  /-- The exit of the task group, with the exception that will leave it. -/
  | joining (exception : Option PyException)
  | closing
  /-- The {lit}`close` of the {lit}`except` clause. -/
  | closingUnavailable
  /-- The start of the {lit}`finally` block, with the exception that will leave it. -/
  | unregistering (exception : Option PyException)
  | releasing (todo : List PyStr) (exception : Option PyException)
  | finished (exception : Option PyException)
deriving DecidableEq, Repr

/-- What {lit}`run_sender` is doing. -/
inductive SenderActivity where
  | notStarted
  /-- At the head of the loop. -/
  | checking
  /-- {lit}`message_queue.get()`. -/
  | getting
  /-- A frame has been made and is not handed over yet. -/
  | holding (frame : Frame)
  /-- {lit}`websocket.send_json`. -/
  | sending
  /-- The task has ended, with the close message it has left. -/
  | done (result : Option CloseFrame)
deriving DecidableEq

/-- What {lit}`run_receiver` is doing. -/
inductive ReceiverActivity where
  | notStarted
  | waiting
  /-- The task has ended, having seen the client disconnect or not. -/
  | done (disconnected : Bool)
deriving DecidableEq, Repr

/-- What {lit}`run_overflow` is doing. -/
inductive WatcherActivity where
  | notStarted
  | waiting
  /-- The task has ended, having seen the overflow or not. -/
  | done (fired : Bool)
deriving DecidableEq, Repr

/-- One websocket connection. -/
structure Stream where
  handler : HandlerActivity
  sender : SenderActivity
  receiver : ReceiverActivity
  watcher : WatcherActivity
  accepted : Bool
  /-- The {lit}`topics` query parameter. -/
  topics : PyStr
  claims : Option Claims
  requested : List PyStr
  acquired : List PyStr
  messageQueue : List MQTTMessage
  overflow : Bool
  finished : Bool
  closeMessage : Option CloseFrame
  /-- A child task has raised an exception that leaves the task group. -/
  childFailed : Bool
  /-- The messages {lit}`ws_callback` has made, queued or not; the code keeps no such record. -/
  dispatched : List MQTTMessage
  /-- The frames handed to the connection and when; the code keeps no such record. -/
  sent : List (ℚ × Frame)
  /-- The calls of {lit}`websocket.close`; the code keeps no such record. -/
  closes : List CloseFrame

/-- The steps of the handler that do not touch the hub. -/
inductive HandlerStep where
  /-- The request arrives, with its {lit}`Authorization` header and its topics. -/
  | connect (header : Option PyStr) (topics : PyStr)
  /-- The first frame of the client arrives. -/
  | authFrame (frame : Json)
  /-- What the handler awaits completes. -/
  | resume
  /-- What the handler awaits raises, or the handler is cancelled there. -/
  | raises (e : PyException)
  | sendReady
  /-- {lit}`finished` is set. -/
  | wake
  /-- All child tasks have ended. -/
  | join

/-- The child tasks. -/
inductive Child where
  | sender
  | receiver
  | watcher
deriving DecidableEq, Repr

/-- The steps of the child tasks. -/
inductive ChildStep where
  | senderChecks
  | senderGets
  | senderTimesOut
  | senderHandsOver
  | senderSent
  | senderRaises (e : PyException)
  | receiverDisconnected
  | receiverRaises (e : PyException)
  | watcherWakes
  | cancelled (child : Child)

/-- The steps of a stream. -/
inductive StreamStep where
  | handler (step : HandlerStep)
  | child (step : ChildStep)
  | register
  | acquire (paho : Paho)
  | unregister
  | release (paho : Paho)

/-- The answers of paho in a step are documented ones. -/
def StreamStep.Documented : StreamStep → Prop
  | .release paho => paho.UnsubscribeDocumented
  | .handler _ | .child _ | .register | .acquire _ | .unregister => True

namespace Stream

/-- Before the request. -/
def initial : Stream where
  handler := .idle
  sender := .notStarted
  receiver := .notStarted
  watcher := .notStarted
  accepted := false
  topics := []
  claims := none
  requested := []
  acquired := []
  messageQueue := []
  overflow := false
  finished := false
  closeMessage := none
  childFailed := false
  dispatched := []
  sent := []
  closes := []

/-- The exceptions the outer {lit}`except` clause and the one of {lit}`run_sender` name. -/
def unavailable : PyException → Bool
  | .webSocketDisconnect | .runtimeError _ | .timeoutError => true
  | _ => false

/-- The exceptions that end the authentication. -/
def authenticationFails : PyException → Bool
  | .timeoutError | .valueError _ | .unicodeError | .typeError | .keyError
  | .webSocketDisconnect => true
  | _ => false

/-- {lit}`RuntimeError`. -/
def isRuntimeError : PyException → Bool
  | .runtimeError _ => true
  | _ => false

/-- The requested filters, without repetitions. -/
def requestedTopics (topics : PyStr) : List PyStr :=
  (((topics.splitOn (PyStr.char ',')).map PyStr.strip).filter fun topic => topic ≠ []).eraseDups

section Steps

variable (topicMatchesSub : PyStr → PyStr → Bool) (settings : Settings)

/-- The checks of the requested filters. -/
def checkTopics (requested : List PyStr) : Except PyException Unit := do
  if requested = [] ∨ settings.websocketMaxTopics < requested.length then
    throw (.httpException 400 "Invalid number of topics")
  forM requested fun topic => authorizeTopic topicMatchesSub topic settings true

/-- {lit}`ws_callback`. -/
def wsCallback (now : ℚ) (message : ReceivedMessage) (s : Stream) : Stream :=
  if !(s.requested.any fun pattern => topicMatchesSub pattern message.topic) then s
  else if settings.maxMessageBytes < message.payload.length then s
  else
    let msg := MQTTMessage.ofReceived now message
    let s := { s with dispatched := s.dispatched ++ [msg] }
    match (Queue.putNowait settings.websocketQueueSize msg).run s.messageQueue with
    | (.ok _, queue) => { s with messageQueue := queue }
    | (.error .queueFull, _) => { s with overflow := true }
    | (.error _, _) => s

/-! ## The handler -/

/-- Close before any subscription. -/
def reject (s : Stream) (close : CloseFrame) (suppress : Bool) : Stream :=
  { s with closes := s.closes ++ [close], handler := .rejecting suppress }

/-- The outer {lit}`except` clause. -/
def fail (s : Stream) (e : PyException) : Stream :=
  if unavailable e then
    { s with closes := s.closes ++ [.streamUnavailable], handler := .closingUnavailable }
  else { s with handler := .unregistering (some e) }

/-- Everything between the token and the next await. -/
def gate (jwtDecode : PyStr → Except PyException Claims) (token : Json) (s : Stream) : Stream :=
  match tokenClaims settings jwtDecode token with
  | .error e => { s with handler := .finished (some e) }
  | .ok none => s.reject .invalidToken false
  | .ok (some claims) =>
      let requested := requestedTopics s.topics
      match checkTopics topicMatchesSub settings requested with
      | .error (.httpException _ _) => s.reject .topicNotAllowed false
      | .error e => { s with handler := .finished (some e) }
      | .ok _ =>
          { s with
            claims := some claims
            requested
            handler := if s.accepted then .registering else .accepting }

/-- What an exception does to the handler, by where it is. -/
def handlerRaises (s : Stream) (e : PyException) : Option Stream :=
  match s.handler with
  | .acceptingForAuth | .accepting => some { s with handler := .finished (some e) }
  | .awaitingAuth =>
      some (if authenticationFails e then s.reject .authenticationRequired true
        else { s with handler := .finished (some e) })
  | .rejecting suppress =>
      some { s with handler := .finished (if suppress && isRuntimeError e then none else some e) }
  | .acquiring (_ :: _) => if e = .cancelledError then some (s.fail e) else none
  | .acquiring [] | .awaitingReady | .closing => some (s.fail e)
  | .streaming | .joining _ =>
      if e = .cancelledError then some { s with handler := .joining (some e) } else none
  | .closingUnavailable =>
      some { s with handler := .unregistering (if isRuntimeError e then none else some e) }
  | .idle | .registering | .unregistering _ | .releasing _ _ | .finished _ => none

/-- What the completion of an awaited operation does to the handler, by where it is. -/
def handlerResumes (s : Stream) : Option Stream :=
  match s.handler with
  | .acceptingForAuth => some { s with accepted := true, handler := .awaitingAuth }
  | .rejecting _ => some { s with handler := .finished none }
  | .accepting => some { s with handler := .registering }
  | .awaitingReady =>
      some { s with
        handler := .streaming
        sender := .checking
        receiver := .waiting
        watcher := .waiting }
  | .closing | .closingUnavailable => some { s with handler := .unregistering none }
  | .releasing [] e => some { s with handler := .finished e }
  | _ => none

/-- The end of the task group, and the close message if nothing has been raised. -/
def leaveGroup (s : Stream) (exception : Option PyException) : Stream :=
  match if s.childFailed then some .exceptionGroup else exception, s.closeMessage with
  | some e, _ => s.fail e
  | none, some close => { s with closes := s.closes ++ [close], handler := .closing }
  | none, none => { s with handler := .unregistering none }

/-- One step of the handler outside the hub. -/
def handlerStep (jwtDecode : PyStr → Except PyException Claims) (now : ℚ) (s : Stream) :
    HandlerStep → Option Stream
  | .connect header topics =>
      match s.handler, header with
      | .idle, some header =>
          some (gate topicMatchesSub settings jwtDecode (.str (headerToken header))
            { s with topics })
      | .idle, none => some { s with topics, handler := .acceptingForAuth }
      | _, _ => none
  | .authFrame frame =>
      match s.handler with
      | .awaitingAuth => some (gate topicMatchesSub settings jwtDecode (frameToken frame) s)
      | _ => none
  | .resume => s.handlerResumes
  | .raises e => s.handlerRaises e
  | .sendReady =>
      match s.handler with
      | .acquiring [] =>
          some { s with sent := s.sent ++ [(now, .ready s.requested)], handler := .awaitingReady }
      | _ => none
  | .wake =>
      match s.handler with
      | .streaming => if s.finished then some { s with handler := .joining none } else none
      | _ => none
  | .join =>
      match s.handler, s.sender, s.receiver, s.watcher with
      | .joining e, .done _, .done _, .done _ => some (s.leaveGroup e)
      | _, _, _, _ => none

/-! ## The child tasks -/

/-- The sender ends with a close message. -/
def senderReturns (s : Stream) (close : CloseFrame) : Stream :=
  { s with sender := .done (some close), closeMessage := some close, finished := true }

/-- An exception leaves {lit}`send_messages`. -/
def senderFails (s : Stream) (e : PyException) : Stream :=
  if unavailable e then s.senderReturns .streamUnavailable
  else { s with sender := .done none, finished := true, childFailed := true }

/-- The scope of the task group is being cancelled. -/
def cancelling (s : Stream) : Bool :=
  s.childFailed || match s.handler with
    | .joining _ => true
    | _ => false

/-- A child task is cancelled. -/
def childCancelled (s : Stream) : Child → Option Stream
  | .sender =>
      match s.sender with
      | .notStarted | .done _ => none
      | _ => some { s with sender := .done none, finished := true }
  | .receiver =>
      match s.receiver with
      | .waiting => some { s with receiver := .done false, finished := true }
      | _ => none
  | .watcher =>
      match s.watcher with
      | .waiting => some { s with watcher := .done false }
      | _ => none

/-- {lit}`float(claims["exp"])`. -/
def exp (s : Stream) : Except PyException ℚ :=
  match s.claims with
  | some claims => claims.exp
  | none => .error .typeError

/-- One step of a child task. -/
def childStep (now : ℚ) (s : Stream) : ChildStep → Option Stream
  | .senderChecks =>
      match s.sender, s.exp with
      | .checking, .ok exp =>
          some (if exp - now ≤ 0 then s.senderReturns .tokenExpired
            else { s with sender := .getting })
      | .checking, .error e => some (s.senderFails e)
      | _, _ => none
  | .senderGets =>
      match s.sender, (Queue.getNowait (α := MQTTMessage)).run s.messageQueue with
      | .getting, (.ok msg, queue) =>
          some { s with messageQueue := queue, sender := .holding (.data msg) }
      | _, _ => none
  | .senderTimesOut =>
      match s.sender, s.exp with
      | .getting, .ok exp =>
          some { s with sender := if exp ≤ now then .checking else .holding .ping }
      | .getting, .error e => some (s.senderFails e)
      | _, _ => none
  | .senderHandsOver =>
      match s.sender with
      | .holding frame => some { s with sent := s.sent ++ [(now, frame)], sender := .sending }
      | _ => none
  | .senderSent =>
      match s.sender with
      | .sending => some { s with sender := .checking }
      | _ => none
  | .senderRaises e =>
      match s.sender with
      | .holding _ | .sending =>
          if e.isException then
            some (if e = .timeoutError then s.senderReturns .cannotKeepUp else s.senderFails e)
          else none
      | _ => none
  | .receiverDisconnected =>
      match s.receiver with
      | .waiting => some { s with receiver := .done true, finished := true }
      | _ => none
  | .receiverRaises e =>
      match s.receiver with
      | .waiting =>
          if e.isException then
            some { s with receiver := .done false, finished := true, childFailed := true }
          else none
      | _ => none
  | .watcherWakes =>
      match s.watcher with
      | .waiting =>
          if s.overflow then
            some { s with
              watcher := .done true
              closeMessage := some .cannotKeepUp
              finished := true }
          else none
      | _ => none
  | .cancelled child => if s.cancelling then s.childCancelled child else none

/-! ## One step -/

/-- One step of the stream with a number, on the hub and on its own state. -/
def step (jwtDecode : PyStr → Except PyException Claims) (id : Nat) (now : ℚ) (hub : Hub)
    (s : Stream) : StreamStep → Option (Hub × Stream)
  | .handler l =>
      (s.handlerStep topicMatchesSub settings jwtDecode now l).map fun s => (hub, s)
  | .child l => (s.childStep now l).map fun s => (hub, s)
  | .register =>
      match s.handler with
      | .registering =>
          some (hub.addPacketCallback (.wsCallback id),
            { s with handler := .acquiring s.requested })
      | _ => none
  | .acquire paho =>
      match s.handler with
      | .acquiring (topic :: todo) =>
          match hub.acquire topicMatchesSub settings paho topic 0 (.websocket id) false with
          | (.ok _, hub) =>
              some (hub, { s with acquired := s.acquired ++ [topic], handler := .acquiring todo })
          | (.error e, hub) => some (hub, s.fail e)
      | _ => none
  | .unregister =>
      match s.handler with
      | .unregistering e =>
          some (hub.removePacketCallback (.wsCallback id),
            { s with handler := .releasing s.acquired e })
      | _ => none
  | .release paho =>
      match s.handler with
      | .releasing (topic :: todo) exception =>
          match hub.release paho topic (.websocket id) with
          | (.ok _, hub) => some (hub, { s with handler := .releasing todo exception })
          | (.error e, hub) =>
              -- Only a {lit}`RuntimeError` is suppressed, anything else leaves the loop.
              some (hub,
                { s with
                  handler :=
                    if isRuntimeError e then .releasing todo exception
                    else .finished (some e) })
      | _ => none

end Steps

end Stream

end MqttGateway
