import Clawdentity.Connector.Frames
import Clawdentity.Lib.Transaction
import Mathlib.Algebra.GroupWithZero.Nat
import Mathlib.Data.List.Sort

/-!
# The inbox of the TypeScript connector

The inbox keeps the messages that the connector has received and not delivered yet, in two
tables: those that are pending, and the dead letters. Its operations are taken one at a time,
and each changes the tables in one transaction, of which any statement may throw. A payload is
stored as its JSON text; here it is the value, with the length of the text beside it.

Each item carries the number of the message among those that were accepted, which no code
reads.

## Main definitions

* `Tables` — the tables, and the statements of `createWriteTransaction`.
* `enqueue`, `markDelivered`, `markReplayFailure`, `replayDeadLetter`, `purgeDeadLetter` — the
  bodies of the transactions.
* `Inbox`, `step` — the tables and what became of the messages that were accepted.
-/

namespace Clawdentity.Connector.InboundInbox

open Js Lib.Transaction

/-! ## Items -/

/-- The columns of a message, which no statement changes. -/
structure Message where
  id : JsString
  requestId : JsString
  fromAgentDid : JsString
  toAgentDid : JsString
  payload : Value
  payloadBytes : ℕ
  receivedAt : JsString
  /-- The number of the message. -/
  serial : ℕ
  deriving DecidableEq

/-- `ConnectorInboundInboxItem`, and a row of `inbox_pending`. -/
structure InboxItem extends Message where
  groupId : Option JsString
  conversationId : Option JsString
  replyTo : Option JsString
  nextAttemptAt : JsString
  attemptCount : ℕ
  lastAttemptAt : Option JsString
  lastError : Option JsString
  deriving DecidableEq

/-- `ConnectorInboundDeadLetterItem`, and a row of `inbox_dead_letter`. -/
structure DeadLetterItem extends InboxItem where
  deadLetteredAt : JsString
  deadLetterReason : JsString
  deriving DecidableEq

def parseOptionalNonEmptyString (value : Option JsString) : Option JsString :=
  (value.map trim).filter fun text => !text.isEmpty

/-- The item that a row is read as. -/
def toPendingItem (row : InboxItem) : InboxItem where
  toMessage := row.toMessage
  groupId := parseOptionalNonEmptyString row.groupId
  conversationId := parseOptionalNonEmptyString row.conversationId
  replyTo := parseOptionalNonEmptyString row.replyTo
  nextAttemptAt := row.nextAttemptAt
  attemptCount := row.attemptCount
  lastAttemptAt := parseOptionalNonEmptyString row.lastAttemptAt
  lastError := parseOptionalNonEmptyString row.lastError

def toDeadLetterItem (row : DeadLetterItem) : DeadLetterItem where
  toInboxItem := toPendingItem row.toInboxItem
  deadLetteredAt := row.deadLetteredAt
  deadLetterReason := row.deadLetterReason

inductive EventType
  | inboundPersisted
  | inboundDuplicate
  | replaySucceeded
  | replayFailed
  | deadLetterMoved
  | deadLetterReplayed
  | deadLetterPurged
  deriving DecidableEq

/-- An event, without its details. -/
structure InboxEvent where
  type : EventType
  requestId : JsString
  deriving DecidableEq

/-! ## The statements of a transaction -/

structure Tables where
  pending : List InboxItem
  deadLetter : List DeadLetterItem
  events : List InboxEvent
  deriving DecidableEq

structure InboxOptions where
  maxPendingMessages : ℕ
  maxPendingBytes : ℕ
  /-- `Math.max(1, options.eventsMaxRows)`. -/
  eventsMaxRows : ℕ
  /-- `Buffer.byteLength(JSON.stringify(payload), "utf8")`. -/
  byteLength : Value → ℕ

/-- The sum of the payloads. -/
def payloadBytes (items : List InboxItem) : ℕ := (items.map fun item => item.payloadBytes).sum

def Tables.hasRequest (s : Tables) (requestId : JsString) : Bool :=
  s.pending.any (fun row => row.requestId = requestId) ||
    s.deadLetter.any fun row => row.requestId = requestId

def hasRequest (requestId : JsString) : Body Tables Bool := query fun s => s.hasRequest requestId

/-- The number of pending messages, and the sum of their payloads. -/
def getPendingTotals : Body Tables (ℕ × ℕ) := query fun s => (s.pending.length, payloadBytes s.pending)

def getPending (requestId : JsString) : Body Tables (Option InboxItem) :=
  query fun s => (s.pending.find? fun row => row.requestId = requestId).map toPendingItem

def getDeadLetter (requestId : JsString) : Body Tables (Option DeadLetterItem) :=
  query fun s => (s.deadLetter.find? fun row => row.requestId = requestId).map toDeadLetterItem

/-- The order of the dead letters in a listing. -/
def isListedBefore (a b : DeadLetterItem) : Prop :=
  a.deadLetteredAt < b.deadLetteredAt ∨
    (a.deadLetteredAt = b.deadLetteredAt ∧ a.receivedAt ≤ b.receivedAt)

instance : DecidableRel isListedBefore := fun _ _ => inferInstanceAs (Decidable (_ ∨ (_ ∧ _)))

def Tables.deadLetterRequestIds (s : Tables) : List JsString :=
  (s.deadLetter.insertionSort isListedBefore).map fun row => row.requestId

def getDeadLetterRequestIds : Body Tables (List JsString) := query Tables.deadLetterRequestIds

/-- An insertion violates the primary key where the request is there already. -/
def insertPending (item : InboxItem) : Body Tables Unit := statement fun s =>
  if s.pending.any fun row => row.requestId = item.requestId then none
  else some ((), { s with pending := s.pending ++ [item] })

def insertDeadLetter (item : DeadLetterItem) : Body Tables Unit := statement fun s =>
  if s.deadLetter.any fun row => row.requestId = item.requestId then none
  else some ((), { s with deadLetter := s.deadLetter ++ [item] })

def updatePending (item : InboxItem) : Body Tables Unit := update fun s =>
  ((), { s with pending := s.pending.map fun row =>
    if row.requestId = item.requestId then item else row })

/-- The answer says whether a row was deleted. -/
def deletePending (requestId : JsString) : Body Tables Bool := update fun s =>
  (s.pending.any fun row => row.requestId = requestId,
    { s with pending := s.pending.filter fun row => row.requestId ≠ requestId })

def deleteDeadLetter (requestId : JsString) : Body Tables Bool := update fun s =>
  (s.deadLetter.any fun row => row.requestId = requestId,
    { s with deadLetter := s.deadLetter.filter fun row => row.requestId ≠ requestId })

/-! ## The operations -/

structure EnqueueResult where
  accepted : Bool
  duplicate : Bool
  pendingCount : ℕ
  reason : Option String
  deriving DecidableEq

structure MarkReplayFailureInput where
  errorMessage : JsString
  maxNonRetryableAttempts : ℤ
  nextAttemptAt : JsString
  requestId : JsString
  retryable : Bool

/-- What the environment decides for an operation. -/
structure Env where
  /-- The readings of `nowIso`, in their order. -/
  nowIso : ℕ → JsString
  fault : Fault

section Code
variable (options : InboxOptions)

/-- `appendEvent` and `pruneEvents`, which keeps the newest events. -/
def appendEvent (type : EventType) (requestId : JsString) : Body Tables Unit := do
  update fun s => ((), { s with events := s.events ++ [⟨type, requestId⟩] })
  let full ← query fun s => decide (options.eventsMaxRows ≤ s.events.length)
  if full then
    update fun s => ((), { s with events := s.events.drop (s.events.length - options.eventsMaxRows) })

def buildPendingItem (frame : DeliverFrame) (serial : ℕ) (receivedAt : JsString) : InboxItem where
  id := frame.id
  requestId := frame.id
  fromAgentDid := frame.fromAgentDid
  toAgentDid := frame.toAgentDid
  payload := frame.payload.getD .null
  payloadBytes := options.byteLength (frame.payload.getD .null)
  receivedAt := receivedAt
  serial := serial
  groupId := parseOptionalNonEmptyString frame.groupId
  conversationId := parseOptionalNonEmptyString frame.conversationId
  replyTo := parseOptionalNonEmptyString frame.replyTo
  nextAttemptAt := receivedAt
  attemptCount := 0
  lastAttemptAt := none
  lastError := none

def enqueue (frame : DeliverFrame) (serial : ℕ) (env : Env) : Body Tables EnqueueResult := do
  if ← hasRequest frame.id then
    let totals ← getPendingTotals
    appendEvent options .inboundDuplicate frame.id
    return ⟨true, true, totals.1, none⟩
  let pendingItem := buildPendingItem options frame serial (env.nowIso 0)
  let totals ← getPendingTotals
  if options.maxPendingMessages ≤ totals.1 then
    return ⟨false, false, totals.1, some "connector inbound inbox is full (message cap reached)"⟩
  if options.maxPendingBytes < totals.2 + pendingItem.payloadBytes then
    return ⟨false, false, totals.1, some "connector inbound inbox is full (byte cap reached)"⟩
  insertPending pendingItem
  appendEvent options .inboundPersisted pendingItem.requestId
  return ⟨true, false, totals.1 + 1, none⟩

def markDelivered (requestId : JsString) : Body Tables Unit := do
  if ← deletePending requestId then
    appendEvent options .replaySucceeded requestId

/-- The answer says whether the message was moved to the dead letters. -/
def markReplayFailure (input : MarkReplayFailureInput) (env : Env) : Body Tables Bool := do
  match ← getPending input.requestId with
  | none => return false
  | some entry =>
      let updatedEntry :=
        { entry with
          attemptCount := entry.attemptCount + 1
          lastError := some input.errorMessage
          lastAttemptAt := some (env.nowIso 0) }
      let shouldMoveToDeadLetter :=
        !input.retryable && decide (max 1 input.maxNonRetryableAttempts ≤ updatedEntry.attemptCount)
      if shouldMoveToDeadLetter then
        let _ ← deletePending input.requestId
        insertDeadLetter ⟨updatedEntry, env.nowIso 1, input.errorMessage⟩
        appendEvent options .deadLetterMoved input.requestId
        return true
      else
        updatePending { updatedEntry with nextAttemptAt := input.nextAttemptAt }
        appendEvent options .replayFailed input.requestId
        return false

/-- Each id once, trimmed, and without the empty ones. -/
def sanitizeRequestIds (requestIds : List JsString) : List JsString :=
  ((requestIds.map trim).filter fun item => !item.isEmpty).eraseDups

/-- The ids that a replay or a purge is about. -/
def selectedIds (requestIds : Option (List JsString)) : Body Tables (List JsString) :=
  match requestIds with
  | some ids => pure (sanitizeRequestIds ids)
  | none => getDeadLetterRequestIds

/-- The loop of `replayDeadLetter`; the answer counts the messages. -/
def replayLoop (env : Env) : List JsString → ℕ → Body Tables ℕ
  | [], replayedCount => pure replayedCount
  | requestId :: rest, replayedCount => do
      match ← getDeadLetter requestId with
      | none => replayLoop env rest replayedCount
      | some dead =>
          let _ ← deleteDeadLetter requestId
          insertPending { dead.toInboxItem with
            nextAttemptAt := env.nowIso replayedCount, lastError := some dead.deadLetterReason }
          appendEvent options .deadLetterReplayed requestId
          replayLoop env rest (replayedCount + 1)

def replayDeadLetter (requestIds : Option (List JsString)) (env : Env) : Body Tables ℕ := do
  let ids ← selectedIds requestIds
  replayLoop options env ids 0

/-- The loop of `purgeDeadLetter`. -/
def purgeLoop : List JsString → ℕ → Body Tables ℕ
  | [], purgedCount => pure purgedCount
  | requestId :: rest, purgedCount => do
      match ← getDeadLetter requestId with
      | none => purgeLoop rest purgedCount
      | some _ =>
          let _ ← deleteDeadLetter requestId
          appendEvent options .deadLetterPurged requestId
          purgeLoop rest (purgedCount + 1)

def purgeDeadLetter (requestIds : Option (List JsString)) : Body Tables ℕ := do
  let ids ← selectedIds requestIds
  purgeLoop options ids 0

end Code

/-! ## The inbox -/

/-- The tables, the frames of the messages that were accepted, and the numbers of those that
are not in the tables any more. -/
structure Inbox where
  tables : Tables
  accepted : List DeliverFrame
  delivered : List ℕ
  purged : List ℕ
  deriving DecidableEq

def Inbox.empty : Inbox := ⟨⟨[], [], []⟩, [], [], []⟩

inductive Operation
  | enqueue (frame : DeliverFrame)
  | listDuePending (limit : ℤ) (nowAt : JsString)
  | markDelivered (requestId : JsString)
  | markReplayFailure (input : MarkReplayFailureInput)
  | listDeadLetter (limit : Option ℤ)
  | replayDeadLetter (requestIds : Option (List JsString))
  | purgeDeadLetter (requestIds : Option (List JsString))

inductive Reply
  | enqueued (result : EnqueueResult)
  | pending (items : List InboxItem)
  | deadLetter (items : List DeadLetterItem)
  | delivered
  | failed (movedToDeadLetter : Bool)
  | replayed (count : ℕ)
  | purged (count : ℕ)
  deriving DecidableEq

/-- The order of the pending messages in a listing. -/
def isDueBefore (a b : InboxItem) : Prop :=
  a.nextAttemptAt < b.nextAttemptAt ∨
    (a.nextAttemptAt = b.nextAttemptAt ∧ a.receivedAt ≤ b.receivedAt)

instance : DecidableRel isDueBefore := fun _ _ => inferInstanceAs (Decidable (_ ∨ (_ ∧ _)))

def listDuePending (s : Tables) (limit : ℤ) (nowAt : JsString) : List InboxItem :=
  (((s.pending.filter fun row => decide (row.nextAttemptAt ≤ nowAt)).insertionSort
    isDueBefore).take (max 1 limit).toNat).map toPendingItem

def listDeadLetter (s : Tables) (limit : Option ℤ) : List DeadLetterItem :=
  let rows := s.deadLetter.insertionSort isListedBefore
  (match limit with
    | none => rows
    | some limit => rows.take (max 1 limit).toNat).map toDeadLetterItem

/-- The numbers of the rows that are gone. -/
def gone (before after : List Message) : List ℕ :=
  (before.filter fun m => m ∉ after).map fun m => m.serial

def Tables.pendingMessages (s : Tables) : List Message := s.pending.map fun row => row.toMessage

def Tables.deadMessages (s : Tables) : List Message := s.deadLetter.map fun row => row.toMessage

section Code
variable (options : InboxOptions)

/-- An operation: its answer, which is `none` where it throws, and the inbox after it. -/
def run (op : Operation) (env : Env) (inbox : Inbox) : Option Reply × Inbox :=
  let s := inbox.tables
  match op with
  | .enqueue frame =>
      let r := runInTransaction (enqueue options frame inbox.accepted.length env) env.fault s
      let isNew := r.1.any fun result => result.accepted && !result.duplicate
      (r.1.map .enqueued,
        { inbox with
          tables := r.2
          accepted := if isNew then inbox.accepted ++ [frame] else inbox.accepted })
  | .listDuePending limit nowAt =>
      (if env.fault = some 0 then none else some (.pending (listDuePending s limit nowAt)), inbox)
  | .markDelivered requestId =>
      let r := runInTransaction (markDelivered options requestId) env.fault s
      (r.1.map fun _ => .delivered,
        { inbox with
          tables := r.2
          delivered := inbox.delivered ++ gone s.pendingMessages r.2.pendingMessages })
  | .markReplayFailure input =>
      let r := runInTransaction (markReplayFailure options input env) env.fault s
      (r.1.map .failed, { inbox with tables := r.2 })
  | .listDeadLetter limit =>
      (if env.fault = some 0 then none else some (.deadLetter (listDeadLetter s limit)), inbox)
  | .replayDeadLetter requestIds =>
      let r := runInTransaction (replayDeadLetter options requestIds env) env.fault s
      (r.1.map .replayed, { inbox with tables := r.2 })
  | .purgeDeadLetter requestIds =>
      let r := runInTransaction (purgeDeadLetter options requestIds) env.fault s
      (r.1.map .purged,
        { inbox with
          tables := r.2
          purged := inbox.purged ++ gone s.deadMessages r.2.deadMessages })

/-- A call of an operation. -/
def step (inbox : Inbox) (call : Operation × Env) : Option Inbox :=
  some (run options call.1 call.2 inbox).2

end Code

end Clawdentity.Connector.InboundInbox
