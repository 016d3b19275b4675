import Clawdentity.Lib.Interleave
import Clawdentity.Proxy.Relay.Queue

/-!
# The calls of a relay session

`AgentRelaySession` and its queue manager as the code of interleaved calls. Every
entry point loads the stored queue into a snapshot of its own, and the only place
where it lets other calls run is the await of `sendDeliverFrame`: the call is then
waiting for the connector, is settled by an acknowledgement, a timeout or a closed
socket, and goes on from its snapshot later. A frame that is not sent at all
settles the call at once.

Beside the storage and the number of pending frames, the state keeps a history
that no code reads: which deliveries were queued and for which input, which
attempts on them were accepted or failed, and which frames were sent.

## Main definitions

* `Session` — the state that the calls share.
* `sendDeliverFrame`, `processLoop`, `deliverToConnector`, `recordDeliveryReceipt`.
* `program` — the calls, for the runs of `Lib.Interleave`.
-/

namespace Clawdentity.Relay

open Js Lib Connector Lib.Interleave

/-! ## State -/

/-- The functions of the platform that a session calls. -/
structure Runtime where
  platform : Platform
  /-- `toIso`. -/
  toIso : ℚ → JsString
  /-- The number of bytes of the text that `JSON.stringify` writes. -/
  frameBytes : Value → ℕ

/-- What the environment decides for a piece of code that runs without a switch. -/
structure Env where
  /-- `nowUtcMs()`. -/
  nowMs : ℚ
  /-- The number of active sockets. -/
  sockets : ℕ
  /-- The ULID of a new delivery or receipt. -/
  ulid : JsString
  /-- The ULID of a new frame. -/
  frameId : JsString
  /-- `socket.send` does not throw. -/
  sendOk : Bool
  /-- The values of `Math.random()`. -/
  random : ℕ → ℚ

/-- The delivery that a frame was sent for. -/
inductive Source
  | direct (input : RelayDeliveryInput)
  | queue (core : DeliveryCore)
  deriving DecidableEq

structure SentFrame where
  source : Source
  frame : Value
  deriving DecidableEq

/-- What has happened so far. -/
structure History where
  queued : List (RelayDeliveryInput × DeliveryCore)
  accepted : List DeliveryCore
  failed : List DeliveryCore
  sent : List SentFrame
  pushed : List Value
  deriving DecidableEq

structure Session where
  /-- The value under `RELAY_QUEUE_STORAGE_KEY`. -/
  stored : Option Value
  alarmAt : Option ℚ
  /-- `pendingDeliveries.size`. -/
  pending : ℕ
  /-- The latest time that was read. -/
  clock : ℚ
  history : History
  deriving DecidableEq

namespace History

def empty : History := ⟨[], [], [], [], []⟩

/-- A delivery was queued, after this number of failed attempts. -/
def logQueued (h : History) (input : RelayDeliveryInput) (core : DeliveryCore)
    (priorAttempts : ℕ) : History :=
  { h with
    queued := h.queued ++ [(input, core)]
    failed := h.failed ++ List.replicate priorAttempts core }

/-- An attempt on a queued delivery was accepted. -/
def logAccepted (h : History) (core : DeliveryCore) : History :=
  { h with accepted := h.accepted ++ [core] }

/-- An attempt on a queued delivery failed. -/
def logFailed (h : History) (core : DeliveryCore) : History :=
  { h with failed := h.failed ++ [core] }

end History

/-- A session that has never stored anything. -/
def Session.empty : Session := ⟨none, none, 0, 0, .empty⟩

/-! ## Requests and answers -/

structure RelayReceiptRecordInput where
  requestId : JsString
  senderAgentDid : JsString
  recipientAgentDid : JsString
  status : ReceiptStatus
  reason : Option JsString
  deriving DecidableEq

structure RelayReceiptLookupInput where
  requestId : JsString
  senderAgentDid : JsString
  deriving DecidableEq

inductive Request
  | deliverToConnector (input : RelayDeliveryInput)
  | recordDeliveryReceipt (input : RelayReceiptRecordInput)
  | getDeliveryReceipt (input : RelayReceiptLookupInput)
  | alarm
  | drainQueueOnReconnect
  | scheduleFromStorage
  deriving DecidableEq

structure RelayDeliveryResult where
  deliveryId : JsString
  state : RelayDeliveryState
  delivered : Bool
  queued : Bool
  connectedSockets : ℕ
  queueDepth : ℕ
  deriving DecidableEq

inductive Response
  | delivery (result : RelayDeliveryResult)
  /-- `Relay delivery exhausted retry budget`. -/
  | exhausted
  /-- `RelayQueueFullError`. -/
  | queueFull
  | receipt (found : Option RelayDeliveryReceipt)
  | done
  /-- The receipt frame of a recorded receipt could not be serialised. -/
  | threw
  deriving DecidableEq

inductive Outcome
  /-- `resolveDeliverAck`. -/
  | acked (accepted : Bool)
  /-- A timeout, a closed socket or a frame that was not sent. -/
  | error
  deriving DecidableEq, Repr

def History.logAttempt (h : History) (core : DeliveryCore) (outcome : Outcome) : History :=
  if outcome = .acked true then h.logAccepted core else h.logFailed core

inductive Await
  | waiting
  | settled (outcome : Outcome)
  deriving DecidableEq, Repr

/-- `deliverToConnector` at its await. -/
structure Delivering where
  input : RelayDeliveryInput
  deliveryId : JsString
  nowMs : ℚ
  connectedSockets : ℕ
  snapshot : RelayQueueState
  deriving DecidableEq

/-- `processQueueDeliveries` at its await: the state with the deliveries before the
index, the delivery at it, and those after it. -/
structure Processing where
  nowMs : ℚ
  /-- The deliveries that were loaded. -/
  loaded : List DeliveryCore
  before : RelayQueueState
  current : QueuedRelayDelivery
  rest : List QueuedRelayDelivery
  mutated : Bool
  deriving DecidableEq

inductive Call
  | delivering (call : Delivering) (await : Await)
  | processing (call : Processing) (await : Await)
  | returned (response : Response)
  deriving DecidableEq

/-! ## Storage -/

namespace RelayQueueState

/-- `findNextQueueWakeMs`. -/
def findNextQueueWakeMs (q : RelayQueueState) (nowMs : ℚ) : Option ℚ :=
  (q.deliveries.map fun d => max (nowMs + 1) d.nextAttemptAtMs).min?

/-- The deliveries after more of them. -/
def append (q : RelayQueueState) (more : List QueuedRelayDelivery) : RelayQueueState :=
  { q with deliveries := q.deliveries ++ more }

end RelayQueueState

/-- `RELAY_HEARTBEAT_INTERVAL_MS`. -/
def RELAY_HEARTBEAT_INTERVAL_MS : ℚ := 30000

namespace Session

def saveQueueState (s : Session) (queue : RelayQueueState) : Session :=
  { s with stored := some queue.encode }

/-- `loadQueueState`: the pruned queue, stored again where something was pruned. -/
def loadQueueState (s : Session) (nowMs : ℚ) : Session × RelayQueueState :=
  let queue := RelayQueueState.decode s.stored
  let pruned := queue.prune nowMs
  (if queue.prunes nowMs then s.saveQueueState pruned else s, pruned)

/-- `scheduleNextRelayAlarm`. -/
def scheduleNextAlarm (s : Session) (queue : RelayQueueState) (nowMs : ℚ) (sockets : ℕ) :
    Session :=
  let candidates := (queue.findNextQueueWakeMs nowMs).toList ++
    (if 0 < sockets then [nowMs + RELAY_HEARTBEAT_INTERVAL_MS] else [])
  { s with alarmAt := candidates.min? }

/-- The clock never goes back. -/
def tick (s : Session) (nowMs : ℚ) : Option Session :=
  if s.clock ≤ nowMs then some { s with clock := nowMs } else none

end Session

section Code
variable (rt : Runtime) (policy : RelayDeliveryPolicy)

/-! ## Sending -/

/-- `toDeliverFrame`. -/
def toDeliverFrame (input : RelayDeliveryInput) (env : Env) : DeliverFrame where
  id := env.frameId
  ts := rt.toIso env.nowMs
  fromAgentDid := input.senderAgentDid
  toAgentDid := input.recipientAgentDid
  payload := input.payload
  deliverySource := input.deliverySource
  contentType := none
  groupId := input.groupId
  conversationId := input.conversationId
  replyTo := input.replyTo

/-- `sendDeliverFrame`, up to its await. -/
def sendDeliverFrame (s : Session) (source : Source) (input : RelayDeliveryInput) (env : Env) :
    Session × Await :=
  if policy.maxInFlightDeliveries ≤ s.pending then (s, .settled .error)
  else
    match serializeFrame rt.platform (.deliver (toDeliverFrame rt input env)) with
    | none => (s, .settled .error)
    | some frame =>
        if policy.maxFrameBytes < rt.frameBytes frame ∨ env.sendOk = false then
          (s, .settled .error)
        else
          ({ s with
              pending := s.pending + 1
              history := { s.history with sent := s.history.sent ++ [⟨source, frame⟩] } },
            .waiting)

/-! ## The queue -/

/-- The fields of a queued delivery that `processQueueDeliveries` sends. -/
def DeliveryCore.toInput (d : DeliveryCore) : RelayDeliveryInput where
  requestId := d.requestId
  senderAgentDid := d.senderAgentDid
  recipientAgentDid := d.recipientAgentDid
  deliverySource := d.deliverySource
  groupId := d.groupId
  conversationId := d.conversationId
  replyTo := d.replyTo
  payload := d.payload

/-- A receipt that says that the delivery was queued or delivered. -/
def deliveryReceipt (input : RelayDeliveryInput) (deliveryId : JsString)
    (state : RelayDeliveryState) (expiresAtMs nowMs : ℚ) : RelayDeliveryReceipt where
  requestId := input.requestId
  deliveryId := deliveryId
  state := state
  expiresAtMs := expiresAtMs
  senderAgentDid := input.senderAgentDid
  recipientAgentDid := input.recipientAgentDid
  reason := none
  statusUpdatedAt := rt.toIso nowMs

/-- A due delivery gets a new time; the others keep theirs. -/
def postpone (nowMs : ℚ) (random : ℕ → ℚ) (deliveries : List QueuedRelayDelivery) :
    List QueuedRelayDelivery :=
  deliveries.mapIdx fun i d =>
    if d.nextAttemptAtMs ≤ nowMs then
      { d with
        nextAttemptAtMs := nowMs + computeRetryDelayMs policy d.attemptCount (random i) }
    else d

/-- The order of `processQueueDeliveries`. -/
def attemptOrder (left right : QueuedRelayDelivery) : Bool :=
  if left.nextAttemptAtMs ≠ right.nextAttemptAtMs then
    left.nextAttemptAtMs ≤ right.nextAttemptAtMs
  else left.createdAtMs ≤ right.createdAtMs

/-- How the loop of `processQueueDeliveries` stops: at its end, or at an attempt. -/
inductive LoopExit
  | finished (queue : RelayQueueState) (mutated : Bool)
  | attempt (before : RelayQueueState) (current : QueuedRelayDelivery)
      (rest : List QueuedRelayDelivery) (mutated : Bool)

/-- The loop of `processQueueDeliveries` up to the next attempt; `pending` frames
are in flight. -/
def processLoop (pending : ℕ) (nowMs : ℚ) (before : RelayQueueState) (mutated : Bool) :
    List QueuedRelayDelivery → LoopExit
  | [] => .finished before mutated
  | d :: rest =>
      if policy.maxInFlightDeliveries ≤ pending then .finished (before.append (d :: rest)) mutated
      else if d.expiresAtMs ≤ nowMs then
        processLoop pending nowMs (before.deleteQueuedReceipt d.requestId d.deliveryId) true rest
      else if policy.retryMaxAttempts ≤ d.attemptCount then
        processLoop pending nowMs (before.deleteQueuedReceipt d.requestId d.deliveryId) true rest
      else if nowMs < d.nextAttemptAtMs then
        processLoop pending nowMs (before.append [d]) mutated rest
      else .attempt before d rest mutated

/-- The loop after an attempt. -/
def afterAttempt (pending : ℕ) (call : Processing) (outcome : Outcome) (random : ℕ → ℚ) :
    LoopExit :=
  let d := call.current
  if outcome = .acked true then
    processLoop policy pending call.nowMs
      (call.before.upsertReceipt (deliveryReceipt rt d.toInput d.deliveryId .delivered
        (call.nowMs + policy.queueTtlMs) call.nowMs))
      true call.rest
  else if policy.retryMaxAttempts ≤ d.attemptCount + 1 then
    processLoop policy pending call.nowMs
      (call.before.deleteQueuedReceipt d.requestId d.deliveryId) true call.rest
  else
    let retried :=
      { d with
        attemptCount := d.attemptCount + 1
        nextAttemptAtMs :=
          call.nowMs + computeRetryDelayMs policy (d.attemptCount + 1) (random 0) }
    match outcome with
    | .error =>
        .finished
          (call.before.append
            (retried :: postpone policy call.nowMs (fun i => random (i + 1)) call.rest))
          true
    | .acked _ =>
        processLoop policy pending call.nowMs (call.before.append [retried]) true call.rest

/-- `alarm` and `drainQueueOnReconnect` after the loop. -/
def finishProcessing (s : Session) (queue : RelayQueueState) (nowMs : ℚ) (mutated : Bool)
    (env : Env) : Session × Call :=
  let s := if mutated then s.saveQueueState queue else s
  (s.scheduleNextAlarm queue nowMs env.sockets, .returned .done)

/-- Make the attempt at which the loop stopped, or finish. -/
def continueProcessing (s : Session) (nowMs : ℚ) (loaded : List DeliveryCore) (env : Env) :
    LoopExit → Session × Call
  | .finished queue mutated => finishProcessing s queue nowMs mutated env
  | .attempt before current rest mutated =>
      let r := sendDeliverFrame rt policy s (.queue current.toDeliveryCore)
        current.toDeliveryCore.toInput env
      (r.1, .processing { nowMs, loaded, before, current, rest, mutated } r.2)

/-- `processQueueDeliveries`, and what its two callers do after it. -/
def processQueueDeliveries (s : Session) (queue : RelayQueueState) (mutated : Bool) (env : Env) :
    Session × Call :=
  if queue.deliveries = [] then finishProcessing s queue env.nowMs mutated env
  else if env.sockets = 0 then
    finishProcessing s
      { queue with deliveries := postpone policy env.nowMs env.random queue.deliveries }
      env.nowMs
      (mutated || queue.deliveries.any fun d => decide (d.nextAttemptAtMs ≤ env.nowMs)) env
  else
    continueProcessing rt policy s env.nowMs queue.cores env
      (processLoop policy s.pending env.nowMs { queue with deliveries := [] } mutated
        (queue.deliveries.mergeSort attemptOrder))

/-! ## The entry points -/

def alarm (s : Session) (env : Env) : Session × Call :=
  let r := s.loadQueueState env.nowMs
  processQueueDeliveries rt policy r.1 r.2 false env

/-- `drainQueueOnReconnect`: every delivery becomes due. -/
def drainQueueOnReconnect (s : Session) (env : Env) : Session × Call :=
  let r := s.loadQueueState env.nowMs
  let due := r.2.deliveries.map fun d =>
    if env.nowMs < d.nextAttemptAtMs then { d with nextAttemptAtMs := env.nowMs } else d
  processQueueDeliveries rt policy r.1 { r.2 with deliveries := due }
    (r.2.deliveries.any fun d => decide (env.nowMs < d.nextAttemptAtMs)) env

def toRelayDeliveryResult (deliveryId : JsString) (state : RelayDeliveryState)
    (connectedSockets queueDepth : ℕ) : RelayDeliveryResult where
  deliveryId := deliveryId
  state := state
  delivered := state = .delivered
  queued := state = .queued
  connectedSockets := connectedSockets
  queueDepth := queueDepth

/-- `queuedDelivery` of `deliverToConnector`. It has no group id. -/
def queuedDelivery (input : RelayDeliveryInput) (deliveryId : JsString) (nowMs : ℚ)
    (priorAttempts : ℕ) (random : ℚ) : QueuedRelayDelivery where
  deliveryId := deliveryId
  requestId := input.requestId
  senderAgentDid := input.senderAgentDid
  recipientAgentDid := input.recipientAgentDid
  deliverySource := input.deliverySource
  groupId := none
  conversationId := input.conversationId
  replyTo := input.replyTo
  payload := input.payload
  createdAtMs := nowMs
  attemptCount := priorAttempts
  expiresAtMs := nowMs + policy.queueTtlMs
  nextAttemptAtMs := nowMs + computeRetryDelayMs policy priorAttempts random

/-- `deliverToConnector` where the delivery was not delivered directly. -/
def queueDelivery (s : Session) (call : Delivering) (priorAttempts : ℕ) (env : Env) :
    Session × Call :=
  if policy.retryMaxAttempts ≤ priorAttempts then (s, .returned .exhausted)
  else if policy.queueMaxMessagesPerAgent ≤ call.snapshot.deliveries.length then
    (s, .returned .queueFull)
  else
    let d := queuedDelivery policy call.input call.deliveryId call.nowMs priorAttempts
      (env.random 0)
    let queue := (call.snapshot.append [d]).upsertReceipt
      (deliveryReceipt rt call.input d.deliveryId .queued d.expiresAtMs call.nowMs)
    let s := (s.saveQueueState queue).scheduleNextAlarm queue call.nowMs env.sockets
    ({ s with history := s.history.logQueued call.input d.toDeliveryCore priorAttempts },
      .returned (.delivery (toRelayDeliveryResult call.deliveryId .queued call.connectedSockets
        queue.deliveries.length)))

/-- `deliverToConnector` after the await of its direct attempt. -/
def afterDirectAttempt (s : Session) (call : Delivering) (outcome : Outcome) (env : Env) :
    Session × Call :=
  if outcome = .acked true then
    let queue := call.snapshot.upsertReceipt
      (deliveryReceipt rt call.input call.deliveryId .delivered
        (call.nowMs + policy.queueTtlMs) call.nowMs)
    let s := (s.saveQueueState queue).scheduleNextAlarm queue call.nowMs env.sockets
    (s, .returned (.delivery (toRelayDeliveryResult call.deliveryId .delivered
      call.connectedSockets queue.deliveries.length)))
  else queueDelivery rt policy s call 1 env

/-- The receipt that answers a repeated request. -/
def existingReceipt (queue : RelayQueueState) (input : RelayDeliveryInput) (nowMs : ℚ) :
    Option RelayDeliveryReceipt :=
  (queue.receipts.lookup input.requestId).filter fun r =>
    nowMs < r.expiresAtMs ∧ r.senderAgentDid = input.senderAgentDid ∧
      r.recipientAgentDid = input.recipientAgentDid

def deliverToConnector (s : Session) (input : RelayDeliveryInput) (env : Env) : Session × Call :=
  let r := s.loadQueueState env.nowMs
  match existingReceipt r.2 input env.nowMs with
  | some receipt =>
      (r.1, .returned (.delivery (toRelayDeliveryResult receipt.deliveryId receipt.state
        env.sockets r.2.deliveries.length)))
  | none =>
      let call : Delivering :=
        { input, deliveryId := env.ulid, nowMs := env.nowMs, connectedSockets := env.sockets,
          snapshot := r.2 }
      if 0 < env.sockets ∧ r.1.pending < policy.maxInFlightDeliveries then
        let sent := sendDeliverFrame rt policy r.1 (.direct input) input env
        (sent.1, .delivering call sent.2)
      else queueDelivery rt policy r.1 call 0 env

/-- `toReceiptFramePayload`. -/
def toReceiptFramePayload (input : RelayReceiptRecordInput) (env : Env) : Option Value :=
  serializeFrame rt.platform (.receipt
    { id := env.frameId, ts := rt.toIso env.nowMs, originalFrameId := input.requestId,
      toAgentDid := input.recipientAgentDid, status := input.status, reason := input.reason })

def receiptState : ReceiptStatus → RelayDeliveryState
  | .deliveredToWebhook => .deliveredToWebhook
  | .deadLettered => .deadLettered

/-- The receipt that `recordDeliveryReceipt` writes over the existing one. -/
def recordedReceipt (existing : Option RelayDeliveryReceipt) (input : RelayReceiptRecordInput)
    (env : Env) : RelayDeliveryReceipt where
  requestId := input.requestId
  deliveryId := (existing.map (·.deliveryId)).getD env.ulid
  state := receiptState input.status
  expiresAtMs := env.nowMs + policy.queueTtlMs
  senderAgentDid := input.senderAgentDid
  recipientAgentDid := input.recipientAgentDid
  reason := input.reason
  statusUpdatedAt := rt.toIso env.nowMs

/-- `pushReceiptFrameToActiveSockets`. -/
def pushReceiptFrameToActiveSockets (s : Session) (input : RelayReceiptRecordInput) (env : Env) :
    Session × Call :=
  match toReceiptFramePayload rt input env with
  | none => (s, .returned .threw)
  | some frame =>
      ({ s with history :=
          { s.history with pushed := s.history.pushed ++ List.replicate env.sockets frame } },
        .returned .done)

def recordDeliveryReceipt (s : Session) (input : RelayReceiptRecordInput) (env : Env) :
    Session × Call :=
  let r := s.loadQueueState env.nowMs
  let existing := r.2.receipts.lookup input.requestId
  if existing.any fun e =>
      e.senderAgentDid ≠ input.senderAgentDid ∨ e.recipientAgentDid ≠ input.recipientAgentDid then
    (r.1, .returned .done)
  else
    let queue := r.2.upsertReceipt (recordedReceipt rt policy existing input env)
    let s := (r.1.saveQueueState queue).scheduleNextAlarm queue env.nowMs env.sockets
    if existing.map (·.state) ≠ some (receiptState input.status) ∨
        existing.bind (·.reason) ≠ input.reason then
      pushReceiptFrameToActiveSockets rt s input env
    else (s, .returned .done)

def getDeliveryReceipt (s : Session) (input : RelayReceiptLookupInput) (env : Env) :
    Session × Call :=
  let r := s.loadQueueState env.nowMs
  (r.1, .returned (.receipt ((r.2.receipts.lookup input.requestId).filter fun e =>
    e.senderAgentDid = input.senderAgentDid)))

def scheduleFromStorage (s : Session) (env : Env) : Session × Call :=
  let r := s.loadQueueState env.nowMs
  (r.1.scheduleNextAlarm r.2 env.nowMs env.sockets, .returned .done)

/-! ## The program -/

/-- The code of a call up to its first await. -/
def handle (s : Session) (request : Request) (env : Env) : Session × Call :=
  match request with
  | .deliverToConnector input => deliverToConnector rt policy s input env
  | .recordDeliveryReceipt input => recordDeliveryReceipt rt policy s input env
  | .getDeliveryReceipt input => getDeliveryReceipt s input env
  | .alarm => alarm rt policy s env
  | .drainQueueOnReconnect => drainQueueOnReconnect rt policy s env
  | .scheduleFromStorage => scheduleFromStorage s env

/-- What happens to a call that is not finished: its frame is answered, or it goes
on after the answer. -/
inductive Choice
  | settle (outcome : Outcome)
  | proceed (env : Env)

/-- The answer to a frame takes it out of the pending ones. -/
def settle (s : Session) (outcome : Outcome) : Call → Option (Session × Call)
  | .delivering call .waiting =>
      some ({ s with pending := s.pending - 1 }, .delivering call (.settled outcome))
  | .processing call .waiting =>
      some ({ s with pending := s.pending - 1 }, .processing call (.settled outcome))
  | _ => none

/-- The code of a call after an await. -/
def proceed (s : Session) (env : Env) : Call → Option (Session × Call)
  | .delivering call (.settled outcome) =>
      some (afterDirectAttempt rt policy s call outcome env)
  | .processing call (.settled outcome) =>
      let s := { s with history := s.history.logAttempt call.current.toDeliveryCore outcome }
      some (continueProcessing rt policy s call.nowMs call.loaded env
        (afterAttempt rt policy s.pending call outcome env.random))
  | _ => none

def program : Program Session Call (Request × Env) Choice where
  start s arg := (s.tick arg.2.nowMs).map fun s => handle rt policy s arg.1 arg.2
  resume s c
    | .settle outcome => settle s outcome c
    | .proceed env => (s.tick env.nowMs).bind fun s => proceed rt policy s env c

end Code

/-- No call has been made yet. -/
def idle : Pool Session Call := ⟨.empty, []⟩

/-! ### An example session -/

/-- The functions of the platform, as they answer on the examples. -/
def exampleRuntime : Runtime where
  platform := { isUrl := fun _ => false, isDate := fun _ => true }
  toIso nowMs :=
    if nowMs = 1700000000000 then js "2023-11-14T22:13:20.000Z" else js "2023-11-14T22:13:23.000Z"
  frameBytes frame := if (frame.get? (js "groupId")).isSome then 337 else 294

/-- The values that the proxy takes where nothing is configured. -/
def defaultPolicy : RelayDeliveryPolicy where
  maxFrameBytes := 1024 * 1024
  maxInFlightDeliveries := 5
  queueMaxMessagesPerAgent := 500
  queueTtlMs := 3600 * 1000
  retryInitialMs := 1000
  retryJitterRatio := 1 / 5
  retryMaxAttempts := 25
  retryMaxMs := 30000

def exampleInput (requestId : String) (groupId : Option JsString) : RelayDeliveryInput where
  requestId := js requestId
  senderAgentDid := js "did:cdi:registry.example.com:agent:01HF7YAT00W6W7CM7N3W5FDXA0"
  recipientAgentDid := js "did:cdi:registry.example.com:agent:01HF7YAT00W6W7CM7N3W5FDXB0"
  payload := some (.str (js "hi"))
  deliverySource := some (js "agent.enqueue")
  groupId := groupId
  conversationId := none
  replyTo := none

def exampleEnv (nowMs : ℚ) (ulid frameId : String) : Env where
  nowMs := nowMs
  sockets := 1
  ulid := js ulid
  frameId := js frameId
  sendOk := true
  random := fun _ => 1 / 2

/-- An environment without a socket. -/
def exampleOffline (nowMs : ℚ) (ulid : String) : Env :=
  { exampleEnv nowMs ulid "01HF7YAT00W6W7CM7N3W5FDXF0" with sockets := 0 }

end Clawdentity.Relay
