import Clawdentity.Connector.Replay

/-!
# The inbound side of the TypeScript connector

What the runtime of the connector does with messages: a `deliver` frame is stored in the inbox
and acknowledged; passes over the inbox post the messages to the local webhook, with attempts of
their own in each lane; the routes for dead letters move messages back or purge them. The process
may be stopped, and it may end at any moment and be started again on the same inbox.

The history has what the process has done, the last entry first. No code reads it.

## Main definitions

* `buildDeliveryWebhookHookPayload`, `hookRequest` — the request to the webhook.
* `Delivery` — where `deliverToDeliveryWebhookHookWithRetry` is.
* `deadLetterRoute` — the routes for dead letters.
* `Runtime`, `step` — the process and its inbox.
-/

namespace Clawdentity.Connector.InboundRuntime

open Js Lib InboundInbox InboundReplay
open ReceiptOutbox (DeliveryReceiptInput)

/-! ## The request to the webhook -/

structure DeliveryWebhookSenderProfile where
  agentName : Option JsString
  displayName : Option JsString
  deriving DecidableEq

structure DeliveryWebhookHookPayloadInput where
  contentType : Option JsString
  conversationId : Option JsString
  deliverySource : Option JsString
  deliveryTimestamp : Option JsString
  groupName : Option JsString
  groupId : Option JsString
  /-- `undefined` is `none`. -/
  payload : Option Value
  replyTo : Option JsString
  requestId : JsString
  senderDid : JsString
  senderProfile : Option DeliveryWebhookSenderProfile
  toAgentDid : JsString

/-- A text in the payload, if it is an object that has one. -/
def payloadText (payload : Option Value) (key : String) : Option JsString :=
  parseOptionalNonEmptyString ((payload.bind fun v => v.get? (js key)).bind Json.str?)

def resolveSenderAgentName (input : DeliveryWebhookHookPayloadInput) : Option JsString :=
  (parseOptionalNonEmptyString (input.senderProfile.bind (·.agentName))).or
    (payloadText input.payload "senderAgentName")

def resolveSenderDisplayName (input : DeliveryWebhookHookPayloadInput) : Option JsString :=
  (parseOptionalNonEmptyString (input.senderProfile.bind (·.displayName))).or
    (payloadText input.payload "senderDisplayName")

def resolveGroupName (groupName groupId : Option JsString) (payload : Option Value) :
    Option JsString :=
  ((parseOptionalNonEmptyString groupName).or (payloadText payload "groupName")).or
    (parseOptionalNonEmptyString groupId)

def buildDeliveryWebhookHookPayload (input : DeliveryWebhookHookPayloadInput) : Value :=
  let groupId := parseOptionalNonEmptyString input.groupId
  let relayMetadata :=
    [("timestamp", parseOptionalNonEmptyString input.deliveryTimestamp),
      ("deliverySource", parseOptionalNonEmptyString input.deliverySource),
      ("contentType", parseOptionalNonEmptyString input.contentType),
      ("replyTo", parseOptionalNonEmptyString input.replyTo),
      ("groupName", resolveGroupName input.groupName groupId input.payload)]
  object
    [("type", some (.str (js "clawdentity.delivery.v1"))),
      ("requestId", some (.str input.requestId)),
      ("fromAgentDid", some (.str input.senderDid)),
      ("toAgentDid", some (.str input.toAgentDid)),
      ("payload", some (input.payload.getD .null)),
      ("conversationId", (parseOptionalNonEmptyString input.conversationId).map .str),
      ("groupId", groupId.map .str),
      ("senderAgentName", (resolveSenderAgentName input).map .str),
      ("senderDisplayName", (resolveSenderDisplayName input).map .str),
      ("relayMetadata",
        if relayMetadata.all fun field => field.2.isNone then none
        else some (object (relayMetadata.map fun field => (field.1, field.2.map .str))))]

structure HookRequest where
  headers : List (JsString × JsString)
  body : Value
  deriving DecidableEq

/-- A header, if it has a value. -/
def optionalHeader (name : String) (value : Option JsString) : List (JsString × JsString) :=
  value.toList.map fun text => (js name, text)

def applyDeliveryWebhookSenderProfileHeaders
    (senderProfile : Option DeliveryWebhookSenderProfile) : List (JsString × JsString) :=
  optionalHeader "x-clawdentity-agent-name"
      (parseOptionalNonEmptyString (senderProfile.bind (·.agentName))) ++
    optionalHeader "x-clawdentity-display-name"
      (parseOptionalNonEmptyString (senderProfile.bind (·.displayName)))

/-- What `deliverToDeliveryWebhookHook` sends for a pending message. -/
def hookRequest (pending : InboxItem) (senderProfile : Option DeliveryWebhookSenderProfile)
    (deliveryWebhookToken : Option JsString) : HookRequest where
  headers :=
    [(js "content-type", js "application/vnd.clawdentity.delivery+json"),
      (js "x-clawdentity-agent-did", pending.fromAgentDid),
      (js "x-clawdentity-to-agent-did", pending.toAgentDid),
      (js "x-clawdentity-verified", js "true"),
      (js "x-request-id", pending.requestId)] ++
      optionalHeader "x-deliveryWebhook-token" deliveryWebhookToken ++
      optionalHeader "x-clawdentity-group-id" (parseOptionalNonEmptyString pending.groupId) ++
      applyDeliveryWebhookSenderProfileHeaders senderProfile
  body := buildDeliveryWebhookHookPayload
    { contentType := none
      conversationId := pending.conversationId
      deliverySource := none
      deliveryTimestamp := none
      groupName := none
      groupId := pending.groupId
      payload := some pending.payload
      replyTo := pending.replyTo
      requestId := pending.requestId
      senderDid := pending.fromAgentDid
      senderProfile := senderProfile
      toAgentDid := pending.toAgentDid }

/-! ## The answer of the webhook -/

inductive DeliveryErrorCode
  | hookAuthRejected
  | runtimeStopping
  deriving DecidableEq

/-- `LocalDeliveryWebhookDeliveryError`. -/
structure DeliveryError where
  code : Option DeliveryErrorCode
  message : JsString
  retryable : Bool
  deriving DecidableEq

/-- How `fetch` ends. -/
inductive FetchResult
  | response (status : ℕ)
  /-- It throws an error with the name `AbortError`. -/
  | aborted
  /-- It throws another error. -/
  | failed (reason : JsString)
  deriving DecidableEq

def isRetryableStatus (status : ℕ) : Bool :=
  status = 401 || status = 403 || decide (500 ≤ status) || status = 404 || status = 429

/-- How `deliverToDeliveryWebhookHook` ends: with an error, or the webhook has taken the
message. -/
def deliveryError (isAborted : Bool) : FetchResult → Option DeliveryError
  | .response status =>
      if 200 ≤ status ∧ status ≤ 299 then none
      else some
        { message := js "Local delivery webhook rejected payload with status " ++ js (toString status)
          retryable := isRetryableStatus status
          code := if status = 401 ∨ status = 403 then some .hookAuthRejected else none }
  | .aborted =>
      if isAborted then
        some ⟨some .runtimeStopping, js "Connector runtime is stopping", false⟩
      else some ⟨none, js "Local delivery webhook request timed out", true⟩
  | .failed reason => some ⟨none, reason, true⟩

/-- `sanitizeErrorReason` for an error that has the message. -/
def sanitizeErrorReason (message : JsString) : JsString :=
  let reason := (trim message).take 240
  if reason.isEmpty then js "Unknown error" else reason

/-! ## The routes for dead letters -/

inductive AdminRoute
  | list
  | replay
  | purge
  deriving DecidableEq

structure AdminRequest where
  route : AdminRoute
  method : JsString
  remoteAddress : Option JsString
  /-- What `readRequestJson` answers. -/
  body : Value
  deriving DecidableEq

def AdminRoute.method : AdminRoute → JsString
  | .list => js "GET"
  | .replay | .purge => js "POST"

def isLoopbackRemoteAddress (toLowerCase : JsString → JsString) (remoteAddress : Option JsString) :
    Bool :=
  match remoteAddress.map fun address => toLowerCase (trim address) with
  | none => false
  | some normalized =>
      !normalized.isEmpty &&
        (normalized = js "::1" || normalized = js "127.0.0.1" ||
          (js "127.").isPrefixOf normalized || (js "::ffff:127.").isPrefixOf normalized)

def parseRequestIds : Option Value → Option (List JsString)
  | none => none
  | some (.arr items) =>
      some ((items.map fun item => (item.str?.map trim).getD []).filter
        fun item => !item.isEmpty).eraseDups
  | some _ => some []

/-- The ids of a body that is an object. -/
def AdminRequest.requestIds (request : AdminRequest) : Option (List JsString) :=
  parseRequestIds (request.body.get? (js "requestIds"))

/-- What a route asks of the inbox. -/
def AdminRequest.operation (request : AdminRequest) : InboundInbox.Operation :=
  match request.route with
  | .list => .listDeadLetter none
  | .replay => .replayDeadLetter request.requestIds
  | .purge => .purgeDeadLetter request.requestIds

/-! ## The process -/

/-- The settings of the runtime, and the functions of the platform. -/
structure Config where
  options : InboxOptions
  policy : InboundReplayPolicy
  runtimeReplayMaxAttempts : ℕ
  explicitDeliveryWebhookHookToken : Option JsString
  toIso : ℤ → JsString
  toLowerCase : JsString → JsString

/-- Where `deliverToDeliveryWebhookHookWithRetry` is. -/
inductive Delivery
  /-- `fetch` is awaited. It has sent the request unless the runtime was stopping. -/
  | requesting (attempt : ℕ) (isSent : Bool)
  /-- `syncDeliveryWebhookHookToken` is awaited. -/
  | syncing (attempt : ℕ) (previousToken : Option JsString) (error : DeliveryError)
  /-- `waitWithAbort` is awaited. -/
  | waiting (attempt : ℕ) (delayMs : ℤ)
  deriving DecidableEq

/-- Where a lane is, with the messages that are left. -/
inductive LaneState
  | next (items : List InboxItem)
  | delivering (pending : InboxItem) (rest : List InboxItem) (delivery : Delivery)
  /-- `markDelivered` is awaited. -/
  | marking (pending : InboxItem) (rest : List InboxItem)
  /-- `markReplayFailure` is awaited. -/
  | failing (pending : InboxItem) (input : MarkReplayFailureInput) (rest : List InboxItem)
  | returned
  /-- The lane has thrown. -/
  | rejected

structure Lane where
  /-- The number of its pass. -/
  pass : ℕ
  senderProfilesByDid : OrderedMap JsString DeliveryWebhookSenderProfile
  state : LaneState

/-- `replayInFlight`, and how far the pass is. -/
inductive Phase
  | idle
  /-- `listDuePending` is awaited. -/
  | listing (nowAt : JsString)
  /-- `syncDeliveryWebhookHookToken` is awaited. -/
  | listed (dueItems : List InboxItem)
  /-- `loadSenderProfilesByDid` is awaited. -/
  | synced (dueItems : List InboxItem)
  | running

/-- A `deliver` frame that the inbox has answered for. -/
inductive FrameCall
  | answering (frame : DeliverFrame) (accepted : Bool) (reason : Option JsString)
  | answered
  deriving DecidableEq

/-- What the process has done. -/
inductive Entry
  /-- A new message is in the inbox, under the number. -/
  | stored (frame : DeliverFrame) (serial : ℕ)
  | acknowledged (frame : DeliverFrame) (accepted : Bool) (reason : Option JsString)
  /-- A request to the webhook, of a pass. -/
  | posted (pass : ℕ) (pending : InboxItem) (attempt : ℕ) (request : HookRequest)
  /-- The webhook has answered that it has taken the message. -/
  | taken (pending : InboxItem)
  | receipt (receipt : DeliveryReceiptInput)
  /-- The answer to a request on a dead-letter route, if there is one. -/
  | admin (request : AdminRequest) (status : Option ℕ)
  | stopped
  | started
  deriving DecidableEq

structure Runtime where
  inbox : Inbox
  phase : Phase
  /-- The passes that have ended. -/
  passes : ℕ
  lanes : List Lane
  calls : List FrameCall
  currentDeliveryWebhookHookToken : Option JsString
  /-- What the probe of the gateway has found. -/
  reachable : Bool
  /-- `runtimeStopping`, and the signal of the shutdown. -/
  runtimeStopping : Bool
  history : List Entry

/-- What the environment decides for a lane that goes on. -/
inductive LaneChoice
  | next
  | fetched (result : FetchResult) (nowMs : ℤ)
  | synced (diskToken : Option JsString) (nowMs : ℤ)
  /-- The wait is over. -/
  | elapsed
  /-- The signal of the shutdown ends the wait. -/
  | aborted
  /-- The transaction of `markDelivered`, with the error and the clock for the case that it
  throws. -/
  | marked (env : Env) (reason : JsString) (nowMs : ℤ)
  | recorded (env : Env)

inductive Event
  /-- A frame arrives, and the inbox answers, or throws an error with the reason. -/
  | deliver (frame : DeliverFrame) (env : Env) (reason : JsString)
  /-- The acknowledgement of a frame, where the socket takes it. -/
  | acknowledge (i : ℕ) (isSent : Bool)
  | startPass (nowAt : JsString)
  | listDue
  | syncToken (diskToken : Option JsString)
  | runLanes (senderProfilesByDid : OrderedMap JsString DeliveryWebhookSenderProfile)
  /-- The code before the lanes throws. -/
  | failPass
  | lane (i : ℕ) (choice : LaneChoice)
  | finishPass
  | probe (reachable : Bool)
  | admin (request : AdminRequest) (env : Env)
  | stop
  /-- The process ends, whatever it was doing, and is started again. -/
  | restart

def Runtime.record (s : Runtime) (entries : List Entry) : Runtime :=
  { s with history := entries ++ s.history }

section Code
variable (c : Config)

/-- `syncDeliveryWebhookHookToken`, after the file has been read. -/
def syncDeliveryWebhookHookToken (s : Runtime) (diskToken : Option JsString) : Runtime :=
  if c.explicitDeliveryWebhookHookToken.isSome then s
  else { s with currentDeliveryWebhookHookToken := diskToken }

/-- An attempt begins: with the signal of the shutdown set, `fetch` sends nothing. -/
def beginAttempt (s : Runtime) (lane : Lane) (pending : InboxItem) (rest : List InboxItem)
    (attempt : ℕ) : Runtime × LaneState :=
  if s.runtimeStopping then (s, .delivering pending rest (.requesting attempt false))
  else
    (s.record [.posted lane.pass pending attempt
        (hookRequest pending (lane.senderProfilesByDid.get? pending.fromAgentDid)
          s.currentDeliveryWebhookHookToken)],
      .delivering pending rest (.requesting attempt true))

/-- The catch clause of a lane, for an error other than `RUNTIME_STOPPING`. -/
def failDelivery (pending : InboxItem) (rest : List InboxItem) (retryable : Bool)
    (reason : JsString) (nowMs : ℤ) : LaneState :=
  .failing pending (replayFailure c.policy c.toIso pending retryable reason nowMs) rest

/-- The end of the catch clause of the loop: another attempt, or the error is thrown. -/
def retryOrFail (s : Runtime) (pending : InboxItem) (rest : List InboxItem) (attempt : ℕ)
    (error : DeliveryError) (nowMs : ℤ) : LaneState :=
  let attemptsRemaining := decide (attempt < c.runtimeReplayMaxAttempts)
  if !error.retryable || !attemptsRemaining || s.runtimeStopping then
    failDelivery c pending rest error.retryable (sanitizeErrorReason error.message) nowMs
  else .delivering pending rest
    (.waiting attempt (computeRuntimeReplayRetryDelayMs c.policy attempt))

/-- A lane goes on to its next await. -/
def resumeLane (s : Runtime) (lane : Lane) : LaneChoice → Option (Runtime × LaneState)
  | .next =>
      match lane.state with
      | .next [] => some (s, .returned)
      | .next (pending :: rest) => some (beginAttempt s lane pending rest 1)
      | _ => none
  | .fetched result nowMs =>
      match lane.state with
      | .delivering pending rest (.requesting attempt isSent) =>
          if !isSent && result ≠ .aborted then none
          else
            match deliveryError s.runtimeStopping result with
            | none => some (s.record [.taken pending], .marking pending rest)
            | some error =>
                if error.code = some .runtimeStopping then some (s, .returned)
                else if error.code = some .hookAuthRejected then
                  some (s, .delivering pending rest
                    (.syncing attempt s.currentDeliveryWebhookHookToken error))
                else some (s, retryOrFail c s pending rest attempt error nowMs)
      | _ => none
  | .synced diskToken nowMs =>
      match lane.state with
      | .delivering pending rest (.syncing attempt previousToken error) =>
          let s := syncDeliveryWebhookHookToken c s diskToken
          let tokenChanged := decide (s.currentDeliveryWebhookHookToken ≠ previousToken)
          let attemptsRemaining := decide (attempt < c.runtimeReplayMaxAttempts)
          if tokenChanged && !s.runtimeStopping && attemptsRemaining then
            some (beginAttempt s lane pending rest (attempt + 1))
          else some (s, retryOrFail c s pending rest attempt error nowMs)
      | _ => none
  | .elapsed =>
      match lane.state with
      | .delivering pending rest (.waiting attempt _) =>
          some (beginAttempt s lane pending rest (attempt + 1))
      | _ => none
  | .aborted =>
      match lane.state with
      | .delivering _ _ (.waiting _ _) => if s.runtimeStopping then some (s, .returned) else none
      | _ => none
  | .marked env reason nowMs =>
      match lane.state with
      | .marking pending rest =>
          let r := run c.options (.markDelivered pending.requestId) env s.inbox
          match r.1 with
          | some _ =>
              some ({ s with inbox := r.2 }.record
                [.receipt (deliveryReceipt pending .deliveredToWebhook none)], .next rest)
          | none => some ({ s with inbox := r.2 }, failDelivery c pending rest true reason nowMs)
      | _ => none
  | .recorded env =>
      match lane.state with
      | .failing pending input rest =>
          let r := run c.options (.markReplayFailure input) env s.inbox
          match r.1 with
          | some (.failed true) =>
              some ({ s with inbox := r.2 }.record
                [.receipt (deliveryReceipt pending .deadLettered (some input.errorMessage))],
                .next rest)
          | some _ => some ({ s with inbox := r.2 }, .next rest)
          | none => some ({ s with inbox := r.2 }, .rejected)
      | _ => none

/-- The handler of a request on one of the routes for dead letters; `none` where it throws. -/
def deadLetterRoute (inbox : Inbox) (request : AdminRequest) (env : Env) : Option ℕ × Inbox :=
  if request.method ≠ request.route.method then (some 405, inbox)
  else if !isLoopbackRemoteAddress c.toLowerCase request.remoteAddress then (some 403, inbox)
  else
    let r := run c.options request.operation env inbox
    (r.1.map fun _ => 200, r.2)

/-- The handler of a `deliver` frame, up to the acknowledgement. -/
def handleInboundDeliverFrame (s : Runtime) (frame : DeliverFrame) (env : Env)
    (reason : JsString) : Runtime :=
  let r := run c.options (.enqueue frame) env s.inbox
  let serial := s.inbox.accepted.length
  let s := { s with inbox := r.2 }
  match r.1 with
  | some (.enqueued result) =>
      if result.accepted then
        let new := if result.duplicate then [] else [Entry.stored frame serial]
        { s with calls := s.calls ++ [FrameCall.answering frame true none] }.record new
      else { s with calls := s.calls ++ [FrameCall.answering frame false (result.reason.map js)] }
  | _ => { s with calls := s.calls ++ [FrameCall.answering frame false (some reason)] }

/-- The pass is over. -/
def endPass (s : Runtime) : Runtime := { s with phase := .idle, passes := s.passes + 1 }

def LaneState.isReturned : LaneState → Bool
  | .returned => true
  | _ => false

def LaneState.isRejected : LaneState → Bool
  | .rejected => true
  | _ => false

def step (s : Runtime) : Event → Option Runtime
  | .deliver frame env reason => some (handleInboundDeliverFrame c s frame env reason)
  | .acknowledge i isSent =>
      match s.calls[i]? with
      | some (.answering frame accepted reason) =>
          some ({ s with calls := s.calls.set i .answered }.record
            (if isSent then [.acknowledged frame accepted reason] else []))
      | _ => none
  | .startPass nowAt =>
      match s.phase with
      | .idle => if s.runtimeStopping then none else some { s with phase := .listing nowAt }
      | _ => none
  | .listDue =>
      match s.phase with
      | .listing nowAt =>
          let dueItems := listDuePending s.inbox.tables c.policy.batchSize nowAt
          if dueItems.isEmpty then some (endPass s) else some { s with phase := .listed dueItems }
      | _ => none
  | .syncToken diskToken =>
      match s.phase with
      | .listed dueItems =>
          let s := syncDeliveryWebhookHookToken c s diskToken
          if s.reachable then some { s with phase := .synced dueItems } else some (endPass s)
      | _ => none
  | .runLanes senderProfilesByDid =>
      match s.phase with
      | .synced dueItems =>
          some { s with
            phase := .running
            lanes := s.lanes ++ (groupDueItemsByLane dueItems).map fun lane =>
              ⟨s.passes, senderProfilesByDid, .next lane⟩ }
      | _ => none
  | .failPass =>
      match s.phase with
      | .listing _ | .synced _ => some (endPass s)
      | _ => none
  | .lane i choice =>
      s.lanes[i]?.bind fun lane =>
        (resumeLane c s lane choice).map fun r =>
          { r.1 with lanes := s.lanes.set i { lane with state := r.2 } }
  | .finishPass =>
      match s.phase with
      | .running =>
          let lanes := s.lanes.filter fun lane => lane.pass = s.passes
          if (lanes.all fun lane => lane.state.isReturned) ||
              lanes.any fun lane => lane.state.isRejected then
            some (endPass s)
          else none
      | _ => none
  | .probe reachable => some { s with reachable }
  | .admin request env =>
      let r := deadLetterRoute c s.inbox request env
      some ({ s with inbox := r.2 }.record [.admin request r.1])
  | .stop => some ({ s with runtimeStopping := true }.record [.stopped])
  | .restart =>
      some
        { inbox := s.inbox
          phase := .idle
          passes := s.passes + 1
          lanes := []
          calls := []
          currentDeliveryWebhookHookToken := c.explicitDeliveryWebhookHookToken
          reachable := true
          runtimeStopping := false
          history := .started :: s.history }

/-- A process that has been started on an empty inbox. -/
def Runtime.initial : Runtime where
  inbox := .empty
  phase := .idle
  passes := 0
  lanes := []
  calls := []
  currentDeliveryWebhookHookToken := c.explicitDeliveryWebhookHookToken
  reachable := true
  runtimeStopping := false
  history := [.started]

end Code

end Clawdentity.Connector.InboundRuntime
