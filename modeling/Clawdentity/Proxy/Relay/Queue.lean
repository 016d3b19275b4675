import Clawdentity.Connector.Frames
import Clawdentity.Lib.Table
import Mathlib.Data.List.Sort
import Mathlib.Data.Rat.Floor

/-!
# The queue of a relay session

The state that an `AgentRelaySession` keeps in durable storage: the queued
deliveries and the receipts by request id. What was stored is read back through
the checks of `isQueuedDelivery` and `normalizeReceipts`; times are numbers, and
structured storage keeps undefined fields away.

## Main definitions

* `RelayQueueState` — deliveries and receipts.
* `encode`, `decode` — the stored value, and what `loadQueueState` makes of it.
* `pruneExpiredQueueState`, `upsertReceipt`, `deleteQueuedReceipt` — its updates.
* `computeRetryDelayMs` — the delay before the next attempt.
-/

namespace Clawdentity.Relay

open Js Lib Connector

/-! ## Data -/

structure RelayDeliveryInput where
  requestId : JsString
  senderAgentDid : JsString
  recipientAgentDid : JsString
  payload : Option (Value)
  deliverySource : Option JsString
  groupId : Option JsString
  conversationId : Option JsString
  replyTo : Option JsString
  deriving DecidableEq

/-- The fields of a queued delivery that never change. -/
structure DeliveryCore where
  deliveryId : JsString
  requestId : JsString
  senderAgentDid : JsString
  recipientAgentDid : JsString
  deliverySource : Option JsString
  groupId : Option JsString
  conversationId : Option JsString
  replyTo : Option JsString
  payload : Option (Value)
  createdAtMs : ℚ
  expiresAtMs : ℚ
  deriving DecidableEq

structure QueuedRelayDelivery extends DeliveryCore where
  attemptCount : ℕ
  nextAttemptAtMs : ℚ
  deriving DecidableEq

inductive RelayDeliveryState
  | delivered
  | queued
  | deliveredToWebhook
  | deadLettered
  deriving DecidableEq, Repr

structure RelayDeliveryReceipt where
  requestId : JsString
  deliveryId : JsString
  state : RelayDeliveryState
  expiresAtMs : ℚ
  senderAgentDid : JsString
  recipientAgentDid : JsString
  reason : Option JsString
  statusUpdatedAt : JsString
  deriving DecidableEq

/-- Receipts, each filed under its own request id. -/
structure Receipts where
  table : Table JsString RelayDeliveryReceipt
  keyed : ∀ e ∈ table.entries, e.2.requestId = e.1
  deriving DecidableEq

namespace Receipts

def empty : Receipts := ⟨∅, fun _ he => absurd he List.not_mem_nil⟩

def lookup (r : Receipts) (requestId : JsString) : Option RelayDeliveryReceipt :=
  r.table.lookup requestId

/-- `upsertReceipt`. -/
def upsert (r : Receipts) (receipt : RelayDeliveryReceipt) : Receipts where
  table := r.table.insert receipt.requestId receipt
  keyed e he := by
    rcases List.mem_cons.mp he with rfl | he
    · rfl
    · exact r.keyed e ((List.kerase_sublist _ _).subset he)

def erase (r : Receipts) (requestId : JsString) : Receipts where
  table := r.table.erase requestId
  keyed e he := r.keyed e ((List.kerase_sublist _ _).subset he)

def keep (r : Receipts) (p : RelayDeliveryReceipt → Bool) : Receipts where
  table := r.table.keep fun _ receipt => p receipt
  keyed e he := r.keyed e (List.mem_of_mem_filter he)

end Receipts

structure RelayQueueState where
  deliveries : List QueuedRelayDelivery
  receipts : Receipts
  deriving DecidableEq

structure RelayDeliveryPolicy where
  maxFrameBytes : ℕ
  maxInFlightDeliveries : ℕ
  queueMaxMessagesPerAgent : ℕ
  queueTtlMs : ℕ
  retryInitialMs : ℕ
  retryJitterRatio : ℚ
  retryMaxAttempts : ℕ
  retryMaxMs : ℕ
  deriving DecidableEq

namespace RelayQueueState

def empty : RelayQueueState := ⟨[], .empty⟩

/-- The deliveries without their attempt counters. -/
def cores (q : RelayQueueState) : List DeliveryCore :=
  q.deliveries.map QueuedRelayDelivery.toDeliveryCore

def upsertReceipt (q : RelayQueueState) (receipt : RelayDeliveryReceipt) : RelayQueueState :=
  { q with receipts := q.receipts.upsert receipt }

def deleteQueuedReceipt (q : RelayQueueState) (requestId deliveryId : JsString) :
    RelayQueueState :=
  match q.receipts.lookup requestId with
  | none => q
  | some receipt =>
      if receipt.deliveryId ≠ deliveryId ∨ receipt.state ≠ .queued then q
      else { q with receipts := q.receipts.erase requestId }

/-- The receipts without those of the expired deliveries. -/
def dropExpiredReceipts (q : RelayQueueState) (nowMs : ℚ) : List QueuedRelayDelivery →
    RelayQueueState
  | [] => q
  | d :: rest =>
      dropExpiredReceipts
        (if d.expiresAtMs ≤ nowMs then q.deleteQueuedReceipt d.requestId d.deliveryId else q)
        nowMs rest

/-- `pruneExpiredQueueState`: the pruned state. -/
def prune (q : RelayQueueState) (nowMs : ℚ) : RelayQueueState where
  deliveries := q.deliveries.filter fun d => decide (nowMs < d.expiresAtMs)
  receipts := (q.dropExpiredReceipts nowMs q.deliveries).receipts.keep
    fun receipt => decide (nowMs < receipt.expiresAtMs)

/-- `pruneExpiredQueueState` answers that something was pruned. -/
def prunes (q : RelayQueueState) (nowMs : ℚ) : Bool :=
  (q.deliveries.any fun d => decide (d.expiresAtMs ≤ nowMs)) ||
    (q.dropExpiredReceipts nowMs q.deliveries).receipts.table.entries.any
      fun e => decide (e.2.expiresAtMs ≤ nowMs)

end RelayQueueState

/-! ## The stored value -/

namespace QueuedRelayDelivery

/-- The stored object of a delivery. -/
def toJson (d : QueuedRelayDelivery) : Value :=
  object
    [("deliveryId", some (.str d.deliveryId)), ("requestId", some (.str d.requestId)),
      ("senderAgentDid", some (.str d.senderAgentDid)),
      ("recipientAgentDid", some (.str d.recipientAgentDid)),
      ("deliverySource", d.deliverySource.map .str), ("groupId", d.groupId.map .str),
      ("conversationId", d.conversationId.map .str), ("replyTo", d.replyTo.map .str),
      ("payload", d.payload), ("createdAtMs", some (.num d.createdAtMs)),
      ("attemptCount", some (.num d.attemptCount)), ("expiresAtMs", some (.num d.expiresAtMs)),
      ("nextAttemptAtMs", some (.num d.nextAttemptAtMs))]

/-- `Number.isInteger(n) && n >= 0`. -/
def natOfNum (n : ℚ) : Option ℕ := if n.den = 1 ∧ 0 ≤ n.num then some n.num.toNat else none

/-- `isQueuedDelivery`: the delivery that passes the checks. -/
def ofJson (v : Value) : Option QueuedRelayDelivery := do
  let deliveryId ← getStr v "deliveryId"
  let requestId ← getStr v "requestId"
  let senderAgentDid ← getStr v "senderAgentDid"
  let recipientAgentDid ← getStr v "recipientAgentDid"
  let deliverySource ← getOptStr v "deliverySource"
  let groupId ← getOptStr v "groupId"
  let conversationId ← getOptStr v "conversationId"
  let replyTo ← getOptStr v "replyTo"
  let createdAtMs ← getNum v "createdAtMs"
  let attemptCount ← (getNum v "attemptCount").bind natOfNum
  let expiresAtMs ← getNum v "expiresAtMs"
  let nextAttemptAtMs ← getNum v "nextAttemptAtMs"
  some { deliveryId, requestId, senderAgentDid, recipientAgentDid, deliverySource, groupId,
         conversationId, replyTo, payload := v.get? (js "payload"), createdAtMs, expiresAtMs,
         attemptCount, nextAttemptAtMs }

theorem natOfNum_natCast (n : ℕ) : natOfNum (n : ℚ) = some n := by
  simp [natOfNum]

/-- What is stored of a delivery passes the checks and is read back as it was. -/
theorem ofJson_toJson (d : QueuedRelayDelivery) : ofJson d.toJson = some d := by
  have hdeliveryId : getStr d.toJson "deliveryId" = some d.deliveryId := getStr_object (by simp)
  have hrequestId : getStr d.toJson "requestId" = some d.requestId := getStr_object (by simp)
  have hsender : getStr d.toJson "senderAgentDid" = some d.senderAgentDid :=
    getStr_object (by simp)
  have hrecipient : getStr d.toJson "recipientAgentDid" = some d.recipientAgentDid :=
    getStr_object (by simp)
  have hsource : getOptStr d.toJson "deliverySource" = some d.deliverySource :=
    getOptStr_object (by simp)
  have hgroup : getOptStr d.toJson "groupId" = some d.groupId := getOptStr_object (by simp)
  have hconversation : getOptStr d.toJson "conversationId" = some d.conversationId :=
    getOptStr_object (by simp)
  have hreply : getOptStr d.toJson "replyTo" = some d.replyTo := getOptStr_object (by simp)
  have hpayload : d.toJson.get? (js "payload") = d.payload := by simp [toJson]
  have hcreated : getNum d.toJson "createdAtMs" = some d.createdAtMs := getNum_object (by simp)
  have hattempts : getNum d.toJson "attemptCount" = some (d.attemptCount : ℚ) :=
    getNum_object (by simp)
  have hexpires : getNum d.toJson "expiresAtMs" = some d.expiresAtMs := getNum_object (by simp)
  have hnext : getNum d.toJson "nextAttemptAtMs" = some d.nextAttemptAtMs :=
    getNum_object (by simp)
  simp only [ofJson, hdeliveryId, hrequestId, hsender, hrecipient, hsource, hgroup, hconversation,
    hreply, hpayload, hcreated, hattempts, hexpires, hnext, natOfNum_natCast, Option.bind_eq_bind,
    Option.bind_some]

end QueuedRelayDelivery

namespace RelayDeliveryReceipt

def stateText : RelayDeliveryState → JsString
  | .delivered => js "delivered"
  | .queued => js "queued"
  | .deliveredToWebhook => js "delivered_to_webhook"
  | .deadLettered => js "dead_lettered"

def parseState (text : JsString) : Option RelayDeliveryState :=
  if text = js "queued" then some .queued
  else if text = js "delivered" then some .delivered
  else if text = js "delivered_to_webhook" then some .deliveredToWebhook
  else if text = js "dead_lettered" then some .deadLettered
  else none

/-- The stored object of a receipt. -/
def toJson (r : RelayDeliveryReceipt) : Value :=
  object
    [("requestId", some (.str r.requestId)), ("deliveryId", some (.str r.deliveryId)),
      ("state", some (.str (stateText r.state))), ("expiresAtMs", some (.num r.expiresAtMs)),
      ("senderAgentDid", some (.str r.senderAgentDid)),
      ("recipientAgentDid", some (.str r.recipientAgentDid)), ("reason", r.reason.map .str),
      ("statusUpdatedAt", some (.str r.statusUpdatedAt))]

/-- One entry in `normalizeReceipts`. A reason that is not a string is left out. -/
def ofJson (v : Value) : Option RelayDeliveryReceipt := do
  let requestId ← getStr v "requestId"
  let deliveryId ← getStr v "deliveryId"
  let senderAgentDid ← getStr v "senderAgentDid"
  let recipientAgentDid ← getStr v "recipientAgentDid"
  let expiresAtMs ← getNum v "expiresAtMs"
  let statusUpdatedAt ← getStr v "statusUpdatedAt"
  let state ← (getStr v "state").bind parseState
  some { requestId, deliveryId, state, expiresAtMs, senderAgentDid, recipientAgentDid,
         reason := (v.get? (js "reason")).bind Json.str?, statusUpdatedAt }

theorem parseState_stateText (state : RelayDeliveryState) :
    parseState (stateText state) = some state := by
  cases state <;> simp [parseState, stateText]

theorem ofJson_toJson (r : RelayDeliveryReceipt) : ofJson r.toJson = some r := by
  have hrequestId : getStr r.toJson "requestId" = some r.requestId := getStr_object (by simp)
  have hdeliveryId : getStr r.toJson "deliveryId" = some r.deliveryId := getStr_object (by simp)
  have hsender : getStr r.toJson "senderAgentDid" = some r.senderAgentDid :=
    getStr_object (by simp)
  have hrecipient : getStr r.toJson "recipientAgentDid" = some r.recipientAgentDid :=
    getStr_object (by simp)
  have hexpires : getNum r.toJson "expiresAtMs" = some r.expiresAtMs := getNum_object (by simp)
  have hupdated : getStr r.toJson "statusUpdatedAt" = some r.statusUpdatedAt :=
    getStr_object (by simp)
  have hstate : getStr r.toJson "state" = some (stateText r.state) := getStr_object (by simp)
  have hreason : (r.toJson.get? (js "reason")).bind Json.str? = r.reason := by
    cases hr : r.reason <;> simp [toJson, hr, Json.str?]
  simp only [ofJson, hrequestId, hdeliveryId, hsender, hrecipient, hexpires, hupdated, hstate,
    hreason, parseState_stateText, Option.bind_eq_bind, Option.bind_some]

end RelayDeliveryReceipt

/-- One entry of the stored receipts, which must stand under its own request id. -/
def receiptEntry (f : JsString × Value) : Option (Sigma fun _ : JsString => RelayDeliveryReceipt) :=
  ((RelayDeliveryReceipt.ofJson f.2).filter fun r => r.requestId = f.1).map fun r => ⟨f.1, r⟩

theorem receiptEntry_keyed {f : JsString × Value}
    {e : Sigma fun _ : JsString => RelayDeliveryReceipt} (h : receiptEntry f = some e) :
    e.2.requestId = e.1 := by
  obtain ⟨r, hr, rfl⟩ := Option.map_eq_some_iff.mp h
  simpa using (Option.filter_eq_some_iff.mp hr).2

def receiptFields (v : Option Value) : List (JsString × Value) :=
  match v with
  | some (.obj fields) => fields
  | _ => []

/-- `normalizeReceipts`: the entries that pass the checks. -/
def normalizeReceipts (v : Option Value) : Receipts where
  table := ((receiptFields v).filterMap receiptEntry).toAList
  keyed e he := by
    obtain ⟨f, _, hf⟩ := List.mem_filterMap.mp (Table.mem_of_mem_toAList he)
    exact receiptEntry_keyed hf

namespace RelayQueueState

/-- What `saveQueueState` stores. -/
def encode (q : RelayQueueState) : Value :=
  object
    [("deliveries", some (.arr (q.deliveries.map QueuedRelayDelivery.toJson))),
      ("receipts", some (.obj (q.receipts.table.entries.map fun e => (e.1, e.2.toJson))))]

/-- What `loadQueueState` makes of the stored value, before pruning. -/
def decode (stored : Option Value) : RelayQueueState where
  deliveries :=
    match stored.bind fun v => v.get? (js "deliveries") with
    | some (.arr items) => items.filterMap QueuedRelayDelivery.ofJson
    | _ => []
  receipts := normalizeReceipts (stored.bind fun v => v.get? (js "receipts"))

/-- **What is saved is loaded.** -/
theorem decode_encode (q : RelayQueueState) : decode (some q.encode) = q := by
  have hdeliveries : q.encode.get? (js "deliveries") =
      some (.arr (q.deliveries.map QueuedRelayDelivery.toJson)) := by simp [encode]
  have hreceipts : q.encode.get? (js "receipts") =
      some (.obj (q.receipts.table.entries.map fun e => (e.1, e.2.toJson))) := by simp [encode]
  have hentries : (q.receipts.table.entries.map fun e => (e.1, e.2.toJson)).filterMap receiptEntry =
      q.receipts.table.entries := by
    rw [List.filterMap_map]
    refine (List.filterMap_congr ?_).trans List.filterMap_some
    intro e he
    simp [receiptEntry, RelayDeliveryReceipt.ofJson_toJson, q.receipts.keyed e he]
  have hitems : (q.deliveries.map QueuedRelayDelivery.toJson).filterMap QueuedRelayDelivery.ofJson =
      q.deliveries := by
    rw [List.filterMap_map]
    refine (List.filterMap_congr ?_).trans List.filterMap_some
    intro d _
    exact QueuedRelayDelivery.ofJson_toJson d
  obtain ⟨deliveries, ⟨table, keyed⟩⟩ := q
  simp only [decode, normalizeReceipts, Option.bind_some, hdeliveries, hreceipts, receiptFields,
    hitems, hentries, Table.toAList_entries]

/-- Nothing is stored by a session that has never saved. -/
theorem decode_none : decode none = empty := rfl

end RelayQueueState

/-! ## Delays -/

/-- `computeRetryDelayMs`; `random` is the value of `Math.random()`. -/
def computeRetryDelayMs (policy : RelayDeliveryPolicy) (priorAttempts : ℕ) (random : ℚ) : ℚ :=
  let baseDelay : ℚ := min policy.retryMaxMs (policy.retryInitialMs * 2 ^ (priorAttempts - 1))
  if policy.retryJitterRatio ≤ 0 then baseDelay
  else
    let jitterSpan := baseDelay * policy.retryJitterRatio
    let lowerBound : ℤ := max 1 ⌊baseDelay - jitterSpan⌋
    let upperBound : ℤ := ⌈baseDelay + jitterSpan⌉
    let sample : ℚ := lowerBound + random * (upperBound - lowerBound)
    min policy.retryMaxMs (⌊sample⌋ : ℤ)

end Clawdentity.Relay
