import Clawdentity.Connector.ClientTimers
import Clawdentity.Lib.Interleave

/-!
# The connection of the connector client

From `connect` until `disconnect` the client wants one WebSocket to the proxy. It makes one, and
whenever the socket is lost it schedules a new connection. The code runs in pieces: what the user
of the client calls, what a socket reports, and what a timer does are one piece each, and
`connectSocket` and `handleUnexpectedResponse` go on in a second piece after what they await.

Timers go off when they are due, and not later. The hooks do not call the client, and the frames
of the queue are left to the module for the queue.

## Main definitions

* `Session` — the state of the client, with the sockets that it made.
* `Call`, `Input` — its suspended code, and what starts a piece of it.
* `start`, `resume`, `client` — the code, cut where it awaits something.
-/

namespace Clawdentity.Connector.ClientSession

open Js Lib Lib.Interleave

/-! ## The state -/

def WS_READY_STATE_CONNECTING : ℕ := 0
def WS_READY_STATE_OPEN : ℕ := 1

/-- A socket that `webSocketFactory` made. -/
structure Socket where
  readyState : ℕ
  createdAt : ℤ

/-- A call of `close` on a socket. -/
structure CloseCall where
  socket : ℕ
  code : ℕ
  reason : JsString

/-- A heartbeat as it was sent. -/
structure Heartbeat where
  socket : ℕ
  id : JsString
  sentAt : ℤ

/-- A call of `schedule`: a retry at once, or one after a delay. -/
inductive Scheduled
  | immediate
  | backoff (delayMs : ℤ)
  deriving DecidableEq

structure ConnectorClientMetricsTracker where
  connectAttempts : ℕ
  reconnectCount : ℕ
  connectedSinceMs : Option ℤ
  accumulatedConnectedMs : ℤ
  lastConnectedAtMs : Option ℤ

/-- The client, the clock, and what the environment has of it: the sockets by their numbers. -/
structure Session where
  now : ℤ
  started : Bool
  socket : Option ℕ
  sockets : List Socket
  /-- The socket that the timer is for, and when it goes off. -/
  connectTimeout : Option (ℕ × ℤ)
  heartbeatManager : ConnectorHeartbeatManager
  reconnectScheduler : ConnectorReconnectScheduler
  authUpgradeImmediateRetryUsed : Bool
  metricsTracker : ConnectorClientMetricsTracker
  /-- How often `connect` has started the client. -/
  starts : ℕ
  closeCalls : List CloseCall
  /-- The sockets whose `close` event came. -/
  reportedClosed : List ℕ
  /-- The sockets that were current when another one was made. -/
  replaced : List ℕ
  heartbeats : List Heartbeat
  /-- The ids of the heartbeats whose acknowledgement came. -/
  acknowledged : List JsString
  /-- What was scheduled since a socket opened. -/
  scheduled : List Scheduled

/-- A suspended piece of code. -/
inductive Call
  /-- `connectSocket` awaits `ensureOutboundQueueLoaded`. -/
  | loadingQueue
  /-- `connectSocket` awaits the headers of the connection. -/
  | resolvingHeaders
  /-- `handleUnexpectedResponse` awaits the hook. -/
  | rejecting (socket : ℕ) (status : ℕ) (immediateRetry : Bool)
  | finished
  deriving DecidableEq

/-- What the environment decides in a piece of code. -/
structure Choice where
  /-- What `random()` answers. -/
  random : ℚ
  /-- `connectionHeadersProvider` does not fail. -/
  isResolved : Bool
  /-- `webSocketFactory` does not throw. -/
  isCreated : Bool

/-- What starts a piece of code. A frame is what `parseFrame` reads from a message. -/
inductive Event
  | connect
  | disconnect
  /-- Time passes. -/
  | advance (now : ℤ)
  /-- A socket begins to close, or is closed. -/
  | readyStateChanges (socket readyState : ℕ)
  | opens (socket : ℕ)
  | heartbeatAckFrame (socket : ℕ) (ackId : JsString)
  | closes (socket : ℕ)
  | errs (socket : ℕ)
  /-- The status is what `readUnexpectedResponseStatus` reads. -/
  | unexpectedResponse (socket : ℕ) (statusCode : Option ℕ)
  | connectTimeoutFires
  /-- The frame has this id, which no frame had before, and `send` may throw. -/
  | heartbeatIntervalFires (id : JsString) (isSent : Bool)
  | heartbeatAckTimeoutFires
  | reconnectFires

structure Input where
  event : Event
  choice : Choice

/-! ## The code -/

def ConnectorClientMetricsTracker.onSocketDetached (t : ConnectorClientMetricsTracker) (now : ℤ) :
    ConnectorClientMetricsTracker :=
  match t.connectedSinceMs with
  | none => t
  | some connectedSinceMs =>
    { t with
      accumulatedConnectedMs := t.accumulatedConnectedMs + max 0 (now - connectedSinceMs)
      connectedSinceMs := none }

/-- `uptimeMs` of `getSnapshot`. -/
def ConnectorClientMetricsTracker.uptimeMs (t : ConnectorClientMetricsTracker) (now : ℤ) : ℤ :=
  max 0 (t.accumulatedConnectedMs +
    match t.connectedSinceMs with
    | none => 0
    | some connectedSinceMs => now - connectedSinceMs)

namespace Session

/-- A client as it is constructed. -/
def new (now : ℤ) : Session where
  now
  started := false
  socket := none
  sockets := []
  connectTimeout := none
  heartbeatManager := .new
  reconnectScheduler := ⟨0, none⟩
  authUpgradeImmediateRetryUsed := false
  metricsTracker := ⟨0, 0, none, 0, none⟩
  starts := 0
  closeCalls := []
  reportedClosed := []
  replaced := []
  heartbeats := []
  acknowledged := []
  scheduled := []

/-- `readyState` of a socket. -/
def readyState? (s : Session) (socket : ℕ) : Option ℕ := s.sockets[socket]?.map Socket.readyState

def setReadyState (s : Session) (socket readyState : ℕ) : Session :=
  { s with sockets := s.sockets.modify socket fun so => { so with readyState } }

/-- What `schedule` of a set of options counts as. -/
def scheduledAs (delayMs : ℤ) (options : ScheduleOptions) : Scheduled :=
  if options.incrementAttempt.getD true then .backoff delayMs else .immediate

def scheduleReconnect (cfg : Config) (s : Session) (options : ScheduleOptions) (random : ℚ) :
    Session :=
  if s.started then
    { s with
      reconnectScheduler := s.reconnectScheduler.schedule cfg s.now options random
      metricsTracker := { s.metricsTracker with reconnectCount := s.metricsTracker.reconnectCount + 1 }
      scheduled := s.scheduled ++
        [scheduledAs (s.reconnectScheduler.delayMs cfg options random) options] }
  else s

def clearSocketState (s : Session) : Session :=
  { s with connectTimeout := none, heartbeatManager := s.heartbeatManager.stop }

/-- `none` says that the socket is not the current one. -/
def detachSocket (s : Session) (socket : ℕ) : Option Session :=
  if s.socket = some socket then
    some { s with
      socket := none
      metricsTracker := s.metricsTracker.onSocketDetached s.now }.clearSocketState
  else none

/-- `closeConnectorSocketQuietly`. -/
def closeSocketQuietly (s : Session) (socket code : ℕ) (reason : JsString) : Session :=
  { s with closeCalls := s.closeCalls ++ [⟨socket, code, reason⟩] }

def disconnect (s : Session) : Session :=
  let s := { s with
    started := false
    reconnectScheduler := s.reconnectScheduler.clear }.clearSocketState
  match s.socket with
  | none => s
  | some socket => { s with socket := none }.closeSocketQuietly socket 1000 (js "client disconnect")

def startConnectTimeout (cfg : Config) (s : Session) (socket : ℕ) : Session :=
  if cfg.connectTimeoutMs ≤ 0 then { s with connectTimeout := none }
  else { s with connectTimeout := some (socket, s.now + cfg.connectTimeoutMs) }

/-- `connectSocket`, from where it has its headers. -/
def createSocket (cfg : Config) (s : Session) (choice : Choice) : Session :=
  if s.started then
    if choice.isCreated then
      let created : Socket := ⟨WS_READY_STATE_CONNECTING, s.now⟩
      { s with
        socket := some s.sockets.length
        sockets := s.sockets ++ [created]
        replaced := s.replaced ++ s.socket.toList }.startConnectTimeout cfg s.sockets.length
    else s.scheduleReconnect cfg ⟨none, none⟩ choice.random
  else s

/-- The headers are resolved, or the provider failed. -/
def finishHeaders (cfg : Config) (s : Session) (choice : Choice) : Session :=
  if choice.isResolved then s.createSocket cfg choice
  else s.scheduleReconnect cfg ⟨none, none⟩ choice.random

/-- `connectSocket`, from where the queue is loaded. -/
def resolveHeaders (cfg : Config) (s : Session) (choice : Choice) : Session × Call :=
  if cfg.hasConnectionHeadersProvider then (s, .resolvingHeaders)
  else (s.createSocket cfg choice, .finished)

def connectSocket (cfg : Config) (s : Session) (choice : Choice) : Session × Call :=
  let s := { s with
    reconnectScheduler := s.reconnectScheduler.clear
    metricsTracker :=
      { s.metricsTracker with connectAttempts := s.metricsTracker.connectAttempts + 1 } }
  if cfg.hasOutboundQueuePersistence then (s, .loadingQueue) else s.resolveHeaders cfg choice

/-- The socket is given up: it is closed, and there is a reconnect. -/
def closeAndReconnect (cfg : Config) (s : Session) (socket code : ℕ) (reason : JsString)
    (options : ScheduleOptions) (choice : Choice) : Session :=
  (s.closeSocketQuietly socket code reason).scheduleReconnect cfg options choice.random

def onConnectTimeout (cfg : Config) (s : Session) (socket : ℕ) (choice : Choice) : Session :=
  match s.detachSocket socket with
  | none => s
  | some s => s.closeAndReconnect cfg socket 1000 (js "connect timeout") ⟨none, none⟩ choice

def onOpen (cfg : Config) (s : Session) (socket : ℕ) : Session :=
  if s.socket = some socket then
    { s with
      connectTimeout := none
      reconnectScheduler := s.reconnectScheduler.resetAttempts
      metricsTracker := { s.metricsTracker with
        connectedSinceMs := some s.now
        lastConnectedAtMs := some s.now }
      heartbeatManager := s.heartbeatManager.start cfg
      authUpgradeImmediateRetryUsed := false
      scheduled := [] }
  else s

def onHeartbeatAck (cfg : Config) (s : Session) (socket : ℕ) (ackId : JsString) : Session :=
  if s.socket = some socket then
    { s with
      heartbeatManager := s.heartbeatManager.handleHeartbeatAck cfg s.now ackId
      acknowledged := s.acknowledged ++ [ackId] }
  else s

def onClose (cfg : Config) (s : Session) (socket : ℕ) (choice : Choice) : Session :=
  match s.detachSocket socket with
  | none => s
  | some s => s.scheduleReconnect cfg ⟨none, none⟩ choice.random

def onError (cfg : Config) (s : Session) (socket : ℕ) (choice : Choice) : Session :=
  let readyState := s.readyState? socket
  if readyState = some WS_READY_STATE_OPEN ∨ readyState = some WS_READY_STATE_CONNECTING then s
  else
    match s.detachSocket socket with
    | none => s
    | some s => s.closeAndReconnect cfg socket 1011 (js "websocket error") ⟨none, none⟩ choice

/-- The text of the close call after an unexpected response. -/
def rejectionReason : Option ℕ → JsString
  | none => js "WebSocket upgrade rejected"
  | some statusCode => js s!"WebSocket upgrade rejected with status {statusCode}"

/-- `handleUnexpectedResponse`, from where the hook has run. -/
def finishRejection (cfg : Config) (s : Session) (socket : ℕ) (statusCode : Option ℕ)
    (immediateRetry : Bool) (choice : Choice) : Session :=
  s.closeAndReconnect cfg socket 1000 (rejectionReason statusCode)
    (if immediateRetry then ⟨some 0, some false⟩ else ⟨none, none⟩) choice

def handleUnexpectedResponse (cfg : Config) (s : Session) (socket : ℕ) (statusCode : Option ℕ)
    (choice : Choice) : Session × Call :=
  match s.detachSocket socket with
  | none => (s, .finished)
  | some s =>
    if statusCode = some 401 then
      ({ s with authUpgradeImmediateRetryUsed := true },
        .rejecting socket 401 (!s.authUpgradeImmediateRetryUsed))
    else (s.finishRejection cfg socket statusCode false choice, .finished)

/-- `sendFrame` of a heartbeat, and what the manager does with its id. -/
def onHeartbeatInterval (cfg : Config) (s : Session) (id : JsString) (isSent : Bool) : Session :=
  match s.socket with
  | none => s
  | some socket =>
    if s.readyState? socket = some WS_READY_STATE_OPEN ∧ isSent then
      { s with
        heartbeatManager := s.heartbeatManager.trackHeartbeatAck cfg s.now id
        heartbeats := s.heartbeats ++ [⟨socket, id, s.now⟩] }
    else s

def handleHeartbeatAckTimeout (cfg : Config) (s : Session) (choice : Choice) : Session :=
  match s.heartbeatManager.handleHeartbeatAckTimeout cfg s.now with
  | (heartbeatManager, none) => { s with heartbeatManager }
  | (heartbeatManager, some _) =>
    let s := { s with heartbeatManager }
    match s.socket with
    | none => s
    | some socket =>
      match s.detachSocket socket with
      | none => s
      | some s =>
        s.closeAndReconnect cfg socket 1000 (js "heartbeat ack timeout") ⟨none, none⟩ choice

/-- The times of the timers that are set. -/
def dueTimes (s : Session) : List ℤ :=
  (s.connectTimeout.map Prod.snd).toList ++ s.heartbeatManager.heartbeatAckTimeout.toList ++
    s.reconnectScheduler.timeout.toList

end Session

open Session

/-- The pieces of code that something starts. -/
def start (cfg : Config) (s : Session) (input : Input) : Option (Session × Call) :=
  let choice := input.choice
  match input.event with
  | .connect =>
    if s.started then some (s, .finished)
    else some ({ s with started := true, starts := s.starts + 1 }.connectSocket cfg choice)
  | .disconnect => some (s.disconnect, .finished)
  | .advance now =>
    if s.now ≤ now ∧ ∀ due ∈ s.dueTimes, now ≤ max s.now due then
      some ({ s with now }, .finished)
    else none
  | .readyStateChanges socket readyState =>
    if WS_READY_STATE_OPEN < readyState then some (s.setReadyState socket readyState, .finished)
    else none
  | .opens socket =>
    if s.readyState? socket = some WS_READY_STATE_CONNECTING then
      some ((s.setReadyState socket WS_READY_STATE_OPEN).onOpen cfg socket, .finished)
    else none
  | .heartbeatAckFrame socket ackId =>
    if socket < s.sockets.length then some (s.onHeartbeatAck cfg socket ackId, .finished) else none
  | .closes socket =>
    if socket < s.sockets.length then
      some (({ s with reportedClosed := s.reportedClosed ++ [socket] } : Session).onClose cfg socket
        choice, .finished)
    else none
  | .errs socket =>
    if socket < s.sockets.length then some (s.onError cfg socket choice, .finished) else none
  | .unexpectedResponse socket statusCode =>
    if socket < s.sockets.length then some (s.handleUnexpectedResponse cfg socket statusCode choice)
    else none
  | .connectTimeoutFires =>
    match s.connectTimeout with
    | some (socket, due) =>
      if due ≤ s.now then some (s.onConnectTimeout cfg socket choice, .finished) else none
    | none => none
  | .heartbeatIntervalFires id isSent =>
    if s.heartbeatManager.heartbeatInterval ∧ ∀ h ∈ s.heartbeats, h.id ≠ id then
      some (s.onHeartbeatInterval cfg id isSent, .finished)
    else none
  | .heartbeatAckTimeoutFires =>
    match s.heartbeatManager.heartbeatAckTimeout with
    | some due => if due ≤ s.now then some (s.handleHeartbeatAckTimeout cfg choice, .finished) else none
    | none => none
  | .reconnectFires =>
    match s.reconnectScheduler.timeout with
    | some due => if due ≤ s.now then some (s.connectSocket cfg choice) else none
    | none => none

/-- The pieces of code that go on. -/
def resume (cfg : Config) (s : Session) (call : Call) (choice : Choice) : Option (Session × Call) :=
  match call with
  | .loadingQueue => some (s.resolveHeaders cfg choice)
  | .resolvingHeaders => some (s.finishHeaders cfg choice, .finished)
  | .rejecting socket status immediateRetry =>
    some (s.finishRejection cfg socket (some status) immediateRetry choice, .finished)
  | .finished => none

/-- The code of the client. -/
def client (cfg : Config) : Program Session Call Input Choice where
  start := start cfg
  resume := resume cfg

/-- A client that was constructed, before anything was called. -/
def fresh (now : ℤ) : Pool Session Call := ⟨.new now, []⟩

end Clawdentity.Connector.ClientSession
