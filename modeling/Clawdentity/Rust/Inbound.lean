import Clawdentity.Lib.Run
import Clawdentity.Rust.Frames

/-!
# Deliveries and receipts of the connector

What the connector does with a deliver frame: it forwards it to the webhook, keeps a
failed delivery in the store and tries it again, and puts a receipt into an outbox from
which it is posted to the proxy. The store and the outbox are changed in steps between
two awaits, and the environment decides which of the operations fail.

Each record carries the frame it was made for, which no code reads.

## Main definitions

* `State` — the pending deliveries, the outbox, and the receipts posted so far.
* `step` — a delivery, a retry, or a flush of the outbox.
* `run_tracks` — every posted receipt names the id of the frame it was made for.
-/

namespace Clawdentity.Rust.Inbound

open Js Lib Lib.Run
open Connector (ReceiptStatus)

/-! ## Records -/

/-- A record with the deliver frame it was made for. -/
structure Tracked (α : Type) where
  origin : DeliverFrame
  value : α
  deriving DecidableEq

/-- A row of `inbound_pending`, without its columns for diagnosis. -/
structure InboundPendingItem where
  requestId : RString
  frameId : RString
  fromAgentDid : RString
  toAgentDid : RString
  groupId : Option RString
  payloadJson : RString
  receivedAtMs : ℤ
  nextAttemptAtMs : ℤ
  attemptCount : ℤ
  deliverySource : Option RString
  conversationId : Option RString
  replyTo : Option RString
  deriving DecidableEq

structure DeliveryReceiptPayload where
  requestId : RString
  senderAgentDid : RString
  recipientAgentDid : RString
  status : ReceiptStatus
  reason : Option RString
  deriving DecidableEq

structure QueuedDeliveryReceipt extends DeliveryReceiptPayload where
  key : RString
  attemptCount : ℤ
  nextAttemptAtMs : ℤ
  createdAtMs : ℤ
  deriving DecidableEq

structure State where
  pending : List (Tracked InboundPendingItem)
  /-- The rows that the retry loop has listed and not tried yet. -/
  listed : List (Tracked InboundPendingItem)
  outbox : List (Tracked QueuedDeliveryReceipt)
  /-- The receipts whose request was sent. -/
  posted : List (Tracked DeliveryReceiptPayload)
  deriving DecidableEq

def State.empty : State := ⟨[], [], [], []⟩

/-! ## The outbox -/

def statusText : ReceiptStatus → RString
  | .deliveredToWebhook => rs "delivered_to_webhook"
  | .deadLettered => rs "dead_lettered"

def makeReceiptKey (input : DeliveryReceiptPayload) : RString :=
  input.requestId ++ rs ":" ++ statusText input.status

/-- The body that `post_receipt` sends, as the proxy reads it. -/
def DeliveryReceiptPayload.toJson (payload : DeliveryReceiptPayload) : Value :=
  object [("requestId", some (.str (toJs payload.requestId))),
    ("senderAgentDid", some (.str (toJs payload.senderAgentDid))),
    ("recipientAgentDid", some (.str (toJs payload.recipientAgentDid))),
    ("status", some (.str (toJs (statusText payload.status)))),
    ("reason", some (payload.reason.elim .null fun reason => .str (toJs reason)))]

/-- How a request to the proxy ends. -/
inductive PostOutcome
  /-- Its headers could not be made. -/
  | notSent
  | failed
  | ok
  deriving DecidableEq

/-- What the environment decides for a command of the outbox worker. -/
structure OutboxEnv where
  nowMs : ℤ
  enqueueOk : Bool
  saveOk : Bool
  /-- The outcomes of the requests, in their order. -/
  posts : ℕ → PostOutcome

def RECEIPT_RETRY_INITIAL_MS : ℤ := 1000
def RECEIPT_RETRY_MAX_MS : ℤ := 60000

/-- `compute_retry_delay_ms`. The power overflows from the exponent 63 on and then wraps
to a number below one. -/
def computeRetryDelayMs (attemptCount : ℤ) : ℤ :=
  let exponent := (attemptCount - 1).toNat
  if exponent < 63 then min (RECEIPT_RETRY_INITIAL_MS * 2 ^ exponent) RECEIPT_RETRY_MAX_MS else 1

/-- `enqueue_receipt`: an entry with the same key is replaced, at its place and with its
time of creation. -/
def enqueueReceipt (nowMs : ℤ) (receipt : Tracked DeliveryReceiptPayload) :
    List (Tracked QueuedDeliveryReceipt) → List (Tracked QueuedDeliveryReceipt)
  | [] => [⟨receipt.origin, { receipt.value with
      key := makeReceiptKey receipt.value, attemptCount := 0, nextAttemptAtMs := nowMs,
      createdAtMs := nowMs }⟩]
  | entry :: rest =>
      if entry.value.key = makeReceiptKey receipt.value then
        ⟨receipt.origin, { receipt.value with
          key := entry.value.key, attemptCount := 0, nextAttemptAtMs := nowMs,
          createdAtMs := entry.value.createdAtMs }⟩ :: rest
      else entry :: enqueueReceipt nowMs receipt rest

/-- The entry after a request that failed. -/
def postponed (nowMs : ℤ) (entry : Tracked QueuedDeliveryReceipt) :
    Tracked QueuedDeliveryReceipt :=
  let attemptCount := entry.value.attemptCount + 1
  { entry with value := { entry.value with
      attemptCount, nextAttemptAtMs := nowMs + computeRetryDelayMs attemptCount } }

/-- The loop of `flush_due_receipts`: the entries that stay, and the receipts sent. -/
def flushEntries (nowMs : ℤ) (posts : ℕ → PostOutcome) :
    List (Tracked QueuedDeliveryReceipt) →
      List (Tracked QueuedDeliveryReceipt) × List (Tracked DeliveryReceiptPayload)
  | [] => ([], [])
  | entry :: rest =>
      if nowMs < entry.value.nextAttemptAtMs then
        let r := flushEntries nowMs posts rest
        (entry :: r.1, r.2)
      else
        let r := flushEntries nowMs (fun i => posts (i + 1)) rest
        let receipt := ⟨entry.origin, entry.value.toDeliveryReceiptPayload⟩
        match posts 0 with
        | .ok => (r.1, receipt :: r.2)
        | .failed => (postponed nowMs entry :: r.1, receipt :: r.2)
        | .notSent => (postponed nowMs entry :: r.1, r.2)

/-- `flush_due_receipts`; where the file is not saved, its entries stay as they were. -/
def flushDueReceipts (st : State) (env : OutboxEnv) : State :=
  let r := flushEntries env.nowMs env.posts
    (st.outbox.mergeSort fun a b => a.value.createdAtMs ≤ b.value.createdAtMs)
  { st with
    outbox := if env.saveOk then r.1 else st.outbox
    posted := st.posted ++ r.2 }

/-- `enqueue_and_try_flush`. -/
def enqueueAndTryFlush (st : State) (receipt : Tracked DeliveryReceiptPayload)
    (env : OutboxEnv) : State :=
  if env.enqueueOk then
    flushDueReceipts { st with outbox := enqueueReceipt env.nowMs receipt st.outbox } env
  else st

/-! ## The store -/

section Store
variable (ulidFromString : RString → Bool)

def parseOptionalNonEmpty (value : Option RString) : Option RString :=
  (value.map trim).filter fun text => !text.isEmpty

/-- The checks of `upsert_pending`. -/
def isStorable (item : InboundPendingItem) : Bool :=
  !(trim item.requestId).isEmpty && !(trim item.frameId).isEmpty &&
    !(trim item.fromAgentDid).isEmpty && !(trim item.toAgentDid).isEmpty &&
    !(trim item.payloadJson).isEmpty && decide (0 ≤ item.attemptCount) &&
    (parseOptionalNonEmpty item.groupId).all (isGroupId ulidFromString)

/-- The row that `upsert_pending` writes. -/
def storedItem (item : InboundPendingItem) : InboundPendingItem :=
  { item with
    requestId := trim item.requestId
    frameId := trim item.frameId
    fromAgentDid := trim item.fromAgentDid
    toAgentDid := trim item.toAgentDid
    groupId := parseOptionalNonEmpty item.groupId
    payloadJson := trim item.payloadJson
    deliverySource := parseOptionalNonEmpty item.deliverySource
    conversationId := parseOptionalNonEmpty item.conversationId
    replyTo := parseOptionalNonEmpty item.replyTo }

/-- The rows with this request id go. -/
def deletePending (requestId : RString) (rows : List (Tracked InboundPendingItem)) :
    List (Tracked InboundPendingItem) :=
  rows.filter fun row => row.value.requestId ≠ trim requestId

def upsertPending (item : Tracked InboundPendingItem) (rows : List (Tracked InboundPendingItem)) :
    List (Tracked InboundPendingItem) :=
  if isStorable ulidFromString item.value then
    deletePending item.value.requestId rows ++ [⟨item.origin, storedItem item.value⟩]
  else rows

def markPendingAttempt (requestId : RString) (nextAttemptAtMs : ℤ)
    (rows : List (Tracked InboundPendingItem)) : List (Tracked InboundPendingItem) :=
  rows.map fun row =>
    if row.value.requestId = trim requestId then
      { row with value := { row.value with
          attemptCount := row.value.attemptCount + 1, nextAttemptAtMs } }
    else row

end Store

def INBOUND_RETRY_BATCH_SIZE : ℕ := 50
def INBOUND_MAX_ATTEMPTS : ℤ := 3
def CONNECTOR_RETRY_DELAY_MS : ℤ := 5000

def listPendingDue (nowMs : ℤ) (rows : List (Tracked InboundPendingItem)) :
    List (Tracked InboundPendingItem) :=
  ((rows.filter fun row => decide (row.value.nextAttemptAtMs ≤ nowMs)).mergeSort
    fun a b => if a.value.nextAttemptAtMs ≠ b.value.nextAttemptAtMs
      then a.value.nextAttemptAtMs ≤ b.value.nextAttemptAtMs
      else a.value.receivedAtMs ≤ b.value.receivedAtMs).take INBOUND_RETRY_BATCH_SIZE

/-! ## Frames and retries -/

/-- The functions of the crates that are called. -/
structure Crates where
  ulidFromString : RString → Bool
  /-- `Value::to_string`. -/
  toString : RValue → RString
  /-- `serde_json::from_str::<Value>`. -/
  fromStr : RString → Option RValue

/-- What the environment decides for a delivery. -/
structure DeliverEnv where
  nowMs : ℤ
  /-- The result of the pair-accepted step and the webhook. -/
  deliveryResult : Except RString Unit
  /-- `append_received_inbound_event` succeeds. -/
  eventOk : Bool
  /-- The statement on `inbound_pending` succeeds. -/
  writeOk : Bool
  outbox : OutboxEnv

/-- What the environment decides for a retry. -/
structure RetryEnv where
  nowMs : ℤ
  /-- The text of the error of `from_str`, where there is one. -/
  parseError : RString
  /-- The result of the pair-accepted step, where there is one. -/
  systemResult : Except RString Unit
  webhookResult : Except RString Unit
  /-- The statement on `inbound_pending` succeeds. -/
  writeOk : Bool
  outbox : OutboxEnv

section Code
variable (crates : Crates)

/-- The row for a delivery that failed. -/
def pendingItem (deliver : DeliverFrame) (receivedAtMs : ℤ) : InboundPendingItem where
  requestId := deliver.id
  frameId := deliver.id
  fromAgentDid := deliver.fromAgentDid
  toAgentDid := deliver.toAgentDid
  groupId := deliver.groupId
  payloadJson := crates.toString deliver.payload
  receivedAtMs := receivedAtMs
  nextAttemptAtMs := receivedAtMs + CONNECTOR_RETRY_DELAY_MS
  attemptCount := 1
  deliverySource := deliver.deliverySource
  conversationId := deliver.conversationId
  replyTo := deliver.replyTo

/-- `persist_inbound_delivery_result`. -/
def persistInboundDeliveryResult (st : State) (deliver : DeliverFrame) (env : DeliverEnv) :
    State :=
  if env.eventOk && env.writeOk then
    match env.deliveryResult with
    | .ok () => { st with pending := deletePending deliver.id st.pending }
    | .error _ =>
        let item := pendingItem crates deliver env.nowMs
        { st with pending := upsertPending crates.ulidFromString ⟨deliver, item⟩ st.pending }
  else st

/-- `handle_deliver_frame`, after the webhook has answered. -/
def handleDeliverFrame (st : State) (deliver : DeliverFrame) (env : DeliverEnv) : State :=
  let st := persistInboundDeliveryResult crates st deliver env
  match env.deliveryResult with
  | .ok () =>
      enqueueAndTryFlush st
        ⟨deliver, { requestId := deliver.id, senderAgentDid := deliver.fromAgentDid,
                    recipientAgentDid := deliver.toAgentDid, status := .deliveredToWebhook,
                    reason := none }⟩
        env.outbox
  | .error _ => st

/-- A receipt for a pending delivery. -/
def pendingReceipt (item : Tracked InboundPendingItem) (status : ReceiptStatus)
    (reason : Option RString) : Tracked DeliveryReceiptPayload :=
  ⟨item.origin, { requestId := item.value.requestId, senderAgentDid := item.value.fromAgentDid,
                  recipientAgentDid := item.value.toAgentDid, status, reason }⟩

/-- `dead_letter_pending_retry` and `dead_letter_invalid_pending_payload`: the row goes, and
a receipt says so. -/
def deadLetter (st : State) (item : Tracked InboundPendingItem) (reason : RString)
    (env : RetryEnv) : State :=
  if env.writeOk && !(trim reason).isEmpty then
    enqueueAndTryFlush { st with pending := deletePending item.value.requestId st.pending }
      (pendingReceipt item .deadLettered (some reason)) env.outbox
  else st

def shouldDeadLetterAfterFailure (attemptCount : ℤ) : Bool :=
  decide (INBOUND_MAX_ATTEMPTS ≤ min (attemptCount + 1) (2 ^ 63 - 1))

def handlePendingRetryFailure (st : State) (item : Tracked InboundPendingItem) (error : RString)
    (env : RetryEnv) : State :=
  if shouldDeadLetterAfterFailure item.value.attemptCount then
    deadLetter st item (rs "max retry attempts exceeded: " ++ error) env
  else if env.writeOk then
    let nextAttemptAtMs := env.nowMs + CONNECTOR_RETRY_DELAY_MS
    { st with pending := markPendingAttempt item.value.requestId nextAttemptAtMs st.pending }
  else st

/-- `retry_pending_inbound_delivery`, after the webhook has answered. -/
def retryPendingInboundDelivery (st : State) (item : Tracked InboundPendingItem)
    (env : RetryEnv) : State :=
  match crates.fromStr item.value.payloadJson, env.systemResult, env.webhookResult with
  | none, _, _ =>
      deadLetter st item (rs "invalid pending payload_json: " ++ env.parseError) env
  | some _, .error error, _ => handlePendingRetryFailure st item error env
  | some _, .ok (), .error error => handlePendingRetryFailure st item error env
  | some _, .ok (), .ok () =>
      let st := if env.writeOk
        then { st with pending := deletePending item.value.requestId st.pending } else st
      enqueueAndTryFlush st (pendingReceipt item .deliveredToWebhook none) env.outbox

inductive Event
  | deliver (frame : DeliverFrame) (env : DeliverEnv)
  | listDue (nowMs : ℤ)
  | retry (env : RetryEnv)
  | flushDue (env : OutboxEnv)

/-- One piece of code between two awaits. The retry loop lists the due rows again only
when it has tried those it listed before. -/
def step (st : State) : Event → Option State
  | .deliver frame env => some (handleDeliverFrame crates st frame env)
  | .listDue nowMs =>
      if st.listed = [] then some { st with listed := listPendingDue nowMs st.pending } else none
  | .retry env =>
      match st.listed with
      | [] => none
      | item :: rest => some (retryPendingInboundDelivery crates { st with listed := rest } item env)
  | .flushDue env => some (flushDueReceipts st env)

end Code

/-! ## Receipts name their frames -/

/-- The texts are those of the frame, up to the trimming of the store. -/
def Names (origin : DeliverFrame) (requestId sender recipient : RString) : Prop :=
  (requestId = origin.id ∨ requestId = trim origin.id) ∧
    (sender = origin.fromAgentDid ∨ sender = trim origin.fromAgentDid) ∧
    (recipient = origin.toAgentDid ∨ recipient = trim origin.toAgentDid)

def PendingOk (row : Tracked InboundPendingItem) : Prop :=
  Names row.origin row.value.requestId row.value.fromAgentDid row.value.toAgentDid

def ReceiptOk (receipt : Tracked DeliveryReceiptPayload) : Prop :=
  Names receipt.origin receipt.value.requestId receipt.value.senderAgentDid
    receipt.value.recipientAgentDid

def EntryOk (entry : Tracked QueuedDeliveryReceipt) : Prop :=
  Names entry.origin entry.value.requestId entry.value.senderAgentDid
    entry.value.recipientAgentDid

/-- Every record names the frame it was made for. -/
structure Tracks (st : State) : Prop where
  pending : ∀ row ∈ st.pending, PendingOk row
  listed : ∀ row ∈ st.listed, PendingOk row
  outbox : ∀ entry ∈ st.outbox, EntryOk entry
  posted : ∀ receipt ∈ st.posted, ReceiptOk receipt

section
variable {crates : Crates} {st : State}

theorem enqueueReceipt_ok {nowMs : ℤ} {receipt : Tracked DeliveryReceiptPayload}
    (hr : ReceiptOk receipt) {entries : List (Tracked QueuedDeliveryReceipt)}
    (h : ∀ entry ∈ entries, EntryOk entry) :
    ∀ entry ∈ enqueueReceipt nowMs receipt entries, EntryOk entry := by
  induction entries with
  | nil =>
      intro entry hentry
      rw [List.mem_singleton.mp hentry]
      exact hr
  | cons first rest ih =>
      have hrest : ∀ entry ∈ rest, EntryOk entry :=
        fun entry hentry => h entry (List.mem_cons_of_mem first hentry)
      intro entry hentry
      unfold enqueueReceipt at hentry
      split at hentry
      · rcases List.mem_cons.mp hentry with rfl | hentry
        · exact hr
        · exact hrest entry hentry
      · rcases List.mem_cons.mp hentry with rfl | hentry
        · exact h _ List.mem_cons_self
        · exact ih hrest entry hentry

theorem flushEntries_ok (nowMs : ℤ) (entries : List (Tracked QueuedDeliveryReceipt)) :
    ∀ posts : ℕ → PostOutcome, (∀ entry ∈ entries, EntryOk entry) →
      (∀ entry ∈ (flushEntries nowMs posts entries).1, EntryOk entry) ∧
        ∀ receipt ∈ (flushEntries nowMs posts entries).2, ReceiptOk receipt := by
  induction entries with
  | nil =>
      intro posts _
      exact ⟨fun _ h => (List.not_mem_nil h).elim, fun _ h => (List.not_mem_nil h).elim⟩
  | cons entry rest ih =>
      intro posts h
      have hentry := h entry List.mem_cons_self
      have hrest : ∀ e ∈ rest, EntryOk e := fun e he => h e (List.mem_cons_of_mem entry he)
      obtain ⟨hwait, hwait'⟩ := ih posts hrest
      obtain ⟨hkept, hsent⟩ := ih (fun i => posts (i + 1)) hrest
      unfold flushEntries
      split
      · refine ⟨?_, hwait'⟩
        intro e he
        rcases List.mem_cons.mp he with rfl | he
        · exact hentry
        · exact hwait e he
      · cases hpost : posts 0 with
        | ok =>
            refine ⟨hkept, ?_⟩
            intro receipt hreceipt
            rcases List.mem_cons.mp hreceipt with rfl | hreceipt
            · exact hentry
            · exact hsent receipt hreceipt
        | failed =>
            refine ⟨?_, ?_⟩
            · intro e he
              rcases List.mem_cons.mp he with rfl | he
              · exact hentry
              · exact hkept e he
            · intro receipt hreceipt
              rcases List.mem_cons.mp hreceipt with rfl | hreceipt
              · exact hentry
              · exact hsent receipt hreceipt
        | notSent =>
            refine ⟨?_, hsent⟩
            intro e he
            rcases List.mem_cons.mp he with rfl | he
            · exact hentry
            · exact hkept e he

theorem Tracks.flush (h : Tracks st) (env : OutboxEnv) : Tracks (flushDueReceipts st env) := by
  obtain ⟨hkept, hsent⟩ := flushEntries_ok env.nowMs
    (st.outbox.mergeSort fun a b => a.value.createdAtMs ≤ b.value.createdAtMs)
    env.posts (fun entry hentry => h.outbox entry (List.mem_mergeSort.mp hentry))
  refine ⟨h.pending, h.listed, ?_, ?_⟩
  · intro entry hentry
    unfold flushDueReceipts at hentry
    simp only at hentry
    split at hentry
    · exact hkept entry hentry
    · exact h.outbox entry hentry
  · intro receipt hreceipt
    rcases List.mem_append.mp hreceipt with hreceipt | hreceipt
    · exact h.posted receipt hreceipt
    · exact hsent receipt hreceipt

theorem Tracks.enqueue (h : Tracks st) {receipt : Tracked DeliveryReceiptPayload}
    (hr : ReceiptOk receipt) (env : OutboxEnv) : Tracks (enqueueAndTryFlush st receipt env) := by
  unfold enqueueAndTryFlush
  split
  · have hqueued : Tracks { st with outbox := enqueueReceipt env.nowMs receipt st.outbox } :=
      ⟨h.pending, h.listed, enqueueReceipt_ok hr h.outbox, h.posted⟩
    exact hqueued.flush env
  · exact h

theorem Tracks.delete (h : Tracks st) (requestId : RString) :
    Tracks { st with pending := deletePending requestId st.pending } :=
  ⟨fun row hrow => h.pending row (List.mem_filter.mp hrow).1, h.listed, h.outbox, h.posted⟩

theorem Tracks.persist (h : Tracks st) (deliver : DeliverFrame) (env : DeliverEnv) :
    Tracks (persistInboundDeliveryResult crates st deliver env) := by
  unfold persistInboundDeliveryResult
  split
  · cases env.deliveryResult with
    | ok => exact h.delete deliver.id
    | error error =>
        refine ⟨?_, h.listed, h.outbox, h.posted⟩
        intro row hrow
        simp only [upsertPending] at hrow
        split at hrow
        · rcases List.mem_append.mp hrow with hrow | hrow
          · exact h.pending row (List.mem_filter.mp hrow).1
          · rw [List.mem_singleton.mp hrow]
            exact ⟨.inr rfl, .inr rfl, .inr rfl⟩
        · exact h.pending row hrow
  · exact h

theorem Tracks.deliver (h : Tracks st) (frame : DeliverFrame) (env : DeliverEnv) :
    Tracks (handleDeliverFrame crates st frame env) := by
  have hpersist : Tracks (persistInboundDeliveryResult crates st frame env) := h.persist frame env
  unfold handleDeliverFrame
  cases env.deliveryResult with
  | ok => exact hpersist.enqueue ⟨.inl rfl, .inl rfl, .inl rfl⟩ env.outbox
  | error error => exact hpersist

theorem PendingOk.receipt {item : Tracked InboundPendingItem} (h : PendingOk item)
    (status : ReceiptStatus) (reason : Option RString) :
    ReceiptOk (pendingReceipt item status reason) := h

theorem Tracks.deadLetter (h : Tracks st) {item : Tracked InboundPendingItem}
    (hitem : PendingOk item) (reason : RString) (env : RetryEnv) :
    Tracks (deadLetter st item reason env) := by
  unfold Inbound.deadLetter
  split
  · exact (h.delete item.value.requestId).enqueue (hitem.receipt _ _) env.outbox
  · exact h

theorem Tracks.retryFailure (h : Tracks st) {item : Tracked InboundPendingItem}
    (hitem : PendingOk item) (error : RString) (env : RetryEnv) :
    Tracks (handlePendingRetryFailure st item error env) := by
  unfold handlePendingRetryFailure
  split
  · exact h.deadLetter hitem _ env
  · split
    · refine ⟨?_, h.listed, h.outbox, h.posted⟩
      intro row hrow
      obtain ⟨old, hold, rfl⟩ := List.mem_map.mp hrow
      split
      · exact h.pending old hold
      · exact h.pending old hold
    · exact h

theorem Tracks.retry (h : Tracks st) {item : Tracked InboundPendingItem}
    (hitem : PendingOk item) (env : RetryEnv) :
    Tracks (retryPendingInboundDelivery crates st item env) := by
  unfold retryPendingInboundDelivery
  split
  · exact h.deadLetter hitem _ env
  · exact h.retryFailure hitem _ env
  · exact h.retryFailure hitem _ env
  · refine Tracks.enqueue ?_ (hitem.receipt _ _) env.outbox
    split
    · exact h.delete item.value.requestId
    · exact h

/-- **One step.** -/
theorem tracks_step {st' : State} {e : Event} (h : Tracks st)
    (hstep : step crates st e = some st') : Tracks st' := by
  cases e with
  | deliver frame env =>
      cases hstep
      exact h.deliver frame env
  | listDue nowMs =>
      simp only [step, Option.ite_none_right_eq_some, Option.some.injEq] at hstep
      obtain ⟨_, rfl⟩ := hstep
      refine ⟨h.pending, ?_, h.outbox, h.posted⟩
      intro row hrow
      exact h.pending row
        (List.mem_filter.mp (List.mem_mergeSort.mp (List.mem_of_mem_take hrow))).1
  | retry env =>
      cases hlisted : st.listed with
      | nil => simp [step, hlisted] at hstep
      | cons item rest =>
          simp only [step, hlisted, Option.some.injEq] at hstep
          subst hstep
          have hitem := h.listed item (by rw [hlisted]; exact List.mem_cons_self)
          have hrest : Tracks { st with listed := rest } := by
            refine ⟨h.pending, ?_, h.outbox, h.posted⟩
            intro row hrow
            exact h.listed row (by rw [hlisted]; exact List.mem_cons_of_mem item hrow)
          exact hrest.retry hitem env
  | flushDue env =>
      cases hstep
      exact h.flush env

/-- **Every run.** A receipt that was posted names the frame it was made for. -/
theorem run_tracks {events : List Event}
    (hrun : exec (step crates) .empty events = some st) : Tracks st := by
  refine exec_invariant_of_step Tracks (fun _ _ _ hi hstep => tracks_step hi hstep) ?_ hrun
  refine ⟨?_, ?_, ?_, ?_⟩
  · intro row hrow
    cases hrow
  · intro row hrow
    cases hrow
  · intro entry hentry
    cases hentry
  · intro receipt hreceipt
    cases hreceipt

end

end Clawdentity.Rust.Inbound
