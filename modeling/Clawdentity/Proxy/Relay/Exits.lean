import Clawdentity.Proxy.Relay.Receipts

/-!
# How a piece of code leaves

A piece of code between two awaits leaves the storage and the alarm as they were, or it
stores its queue and sets the alarm for it, or it stops at an attempt. The alarm is set
from the queue of the call and for the time at which the call was made, also where the
queue was not stored because nothing was changed in it.

## Main definitions

* `Rewrites` — what a request puts into the queue.
* `Processed` — how `processQueueDeliveries` leaves.
* `Exit` — how any piece of code leaves.
* `handle_exit`, `proceed_exit` — a call up to its first await, and after an await.
-/

namespace Clawdentity.Relay

open Js Lib Connector Lib.Interleave

/-- The delivery is the one that the receipt was written for. -/
structure RelayDeliveryReceipt.IsOf (receipt : RelayDeliveryReceipt) (core : DeliveryCore) :
    Prop where
  requestId : core.requestId = receipt.requestId
  deliveryId : core.deliveryId = receipt.deliveryId
  senderAgentDid : core.senderAgentDid = receipt.senderAgentDid
  recipientAgentDid : core.recipientAgentDid = receipt.recipientAgentDid
  expiresAtMs : core.expiresAtMs = receipt.expiresAtMs

instance (receipt : RelayDeliveryReceipt) (core : DeliveryCore) : Decidable (receipt.IsOf core) :=
  decidable_of_iff (core.requestId = receipt.requestId ∧ core.deliveryId = receipt.deliveryId ∧
      core.senderAgentDid = receipt.senderAgentDid ∧
      core.recipientAgentDid = receipt.recipientAgentDid ∧ core.expiresAtMs = receipt.expiresAtMs)
    ⟨fun ⟨h₁, h₂, h₃, h₄, h₅⟩ => ⟨h₁, h₂, h₃, h₄, h₅⟩,
      fun h => ⟨h.requestId, h.deliveryId, h.senderAgentDid, h.recipientAgentDid, h.expiresAtMs⟩⟩

/-- What a request puts into the queue of its call, which has drawn the delivery id. -/
inductive Rewrites (policy : RelayDeliveryPolicy) (deliveryId : JsString) (q : RelayQueueState) :
    RelayQueueState → Prop
  /-- A receipt that is not queued. -/
  | receipt {receipt : RelayDeliveryReceipt} (hstate : receipt.state ≠ .queued) :
      Rewrites policy deliveryId q (q.upsertReceipt receipt)
  /-- A delivery and its receipt, where there is room and an attempt is left. -/
  | push {d : QueuedRelayDelivery} {receipt : RelayDeliveryReceipt}
      (hid : d.deliveryId = deliveryId) (hreceipt : receipt.IsOf d.toDeliveryCore)
      (hroom : q.deliveries.length < policy.queueMaxMessagesPerAgent)
      (hleft : d.attemptCount < policy.retryMaxAttempts) :
      Rewrites policy deliveryId q ((q.append [d]).upsertReceipt receipt)

/-- **How `processQueueDeliveries` leaves**, and its callers with it, from the queue `q`. -/
inductive Processed (policy : RelayDeliveryPolicy) (env : Env) (nowMs : ℚ) (s : Session)
    (q : RelayQueueState) : Session × Call → Prop
  /-- It stores the edited queue and sets the alarm for it. -/
  | saved {s' : Session} {response : Response} {q' : RelayQueueState}
      (hq : Edits policy nowMs q q') (hstored : s'.stored = some q'.encode)
      (halarm : s'.alarmAt = (s.scheduleNextAlarm q' nowMs env.sockets).alarmAt)
      (hclock : s'.clock = s.clock) :
      Processed policy env nowMs s q (s', .returned response)
  /-- It sets the alarm for the queue that is stored, perhaps in another order. -/
  | unsaved {s' : Session} {response : Response} {q' : RelayQueueState} (hloaded : s.queue = q)
      (hq : q'.deliveries.Perm q.deliveries) (hstored : s'.stored = s.stored)
      (halarm : s'.alarmAt = (s.scheduleNextAlarm q' nowMs env.sockets).alarmAt)
      (hclock : s'.clock = s.clock) :
      Processed policy env nowMs s q (s', .returned response)
  /-- It waits at an attempt. -/
  | waiting {s' : Session} {call : Processing} {await : Await}
      (hq : Edits policy nowMs q call.queue) (hnow : call.nowMs = nowMs)
      (hstored : s'.stored = s.stored) (halarm : s'.alarmAt = s.alarmAt)
      (hclock : s'.clock = s.clock) :
      Processed policy env nowMs s q (s', .processing call await)

/-- **How a piece of code leaves** that works on the queue `q` and has drawn the delivery id. -/
inductive Exit (policy : RelayDeliveryPolicy) (env : Env) (nowMs : ℚ) (deliveryId : JsString)
    (s : Session) (q : RelayQueueState) : Session × Call → Prop
  /-- It answers or fails, and neither stores nor schedules. -/
  | answered {s' : Session} {response : Response} (hstored : s'.stored = s.stored)
      (halarm : s'.alarmAt = s.alarmAt) (hclock : s'.clock = s.clock) :
      Exit policy env nowMs deliveryId s q (s', .returned response)
  /-- It stores what the request has put into the queue and sets the alarm for it. -/
  | written {s' : Session} {response : Response} {q' : RelayQueueState}
      (hq : Rewrites policy deliveryId q q') (hstored : s'.stored = some q'.encode)
      (halarm : s'.alarmAt = (s.scheduleNextAlarm q' nowMs env.sockets).alarmAt)
      (hclock : s'.clock = s.clock) :
      Exit policy env nowMs deliveryId s q (s', .returned response)
  /-- It waits with the queue for the answer to a direct delivery. -/
  | delivering {s' : Session} {call : Delivering} {await : Await}
      (hid : call.deliveryId = deliveryId) (hsnapshot : call.snapshot = q)
      (hnow : call.nowMs = nowMs) (hstored : s'.stored = s.stored)
      (halarm : s'.alarmAt = s.alarmAt) (hclock : s'.clock = s.clock) :
      Exit policy env nowMs deliveryId s q (s', .delivering call await)
  | processed {r : Session × Call} (h : Processed policy env nowMs s q r) :
      Exit policy env nowMs deliveryId s q r

section
variable {rt : Runtime} {policy : RelayDeliveryPolicy} {env : Env} {nowMs : ℚ} {s : Session}
  {q q' : RelayQueueState} {deliveryId : JsString}

/-! ## The loop -/

def LoopExit.mutated : LoopExit → Bool
  | .finished _ mutated => mutated
  | .attempt _ _ _ mutated => mutated

/-- A change is not forgotten. -/
theorem processLoop_mutated (policy : RelayDeliveryPolicy) (pending : ℕ) (nowMs : ℚ)
    (rest : List QueuedRelayDelivery) : ∀ before : RelayQueueState,
      (processLoop policy pending nowMs before true rest).mutated = true := by
  induction rest with
  | nil => exact fun _ => rfl
  | cons d rest ih =>
      intro before
      unfold processLoop
      split
      · rfl
      · split
        · exact ih _
        · split
          · exact ih _
          · split
            · exact ih _
            · rfl

/-- Where the loop reports no change, it has made none. -/
theorem processLoop_queue_eq (policy : RelayDeliveryPolicy) (pending : ℕ) (nowMs : ℚ)
    (rest : List QueuedRelayDelivery) : ∀ (before : RelayQueueState) (mutated : Bool),
      (processLoop policy pending nowMs before mutated rest).mutated = false →
      (processLoop policy pending nowMs before mutated rest).queue = before.append rest := by
  induction rest with
  | nil =>
      intro before mutated _
      simp [processLoop, LoopExit.queue, RelayQueueState.append]
  | cons d rest ih =>
      intro before mutated h
      unfold processLoop at h ⊢
      by_cases hfull : policy.maxInFlightDeliveries ≤ pending
      · rw [if_pos hfull]
        rfl
      rw [if_neg hfull] at h ⊢
      by_cases hexpired : d.expiresAtMs ≤ nowMs
      · rw [if_pos hexpired, processLoop_mutated] at h
        cases h
      rw [if_neg hexpired] at h ⊢
      by_cases hspent : policy.retryMaxAttempts ≤ d.attemptCount
      · rw [if_pos hspent, processLoop_mutated] at h
        cases h
      rw [if_neg hspent] at h ⊢
      by_cases hlater : nowMs < d.nextAttemptAtMs
      · rw [if_pos hlater] at h ⊢
        rw [ih _ _ h, RelayQueueState.append_append, List.singleton_append]
      · rw [if_neg hlater]
        rfl

/-- An attempt is a change. -/
theorem afterAttempt_mutated (rt : Runtime) (policy : RelayDeliveryPolicy) (pending : ℕ)
    (call : Processing) (outcome : Outcome) (random : ℕ → ℚ) :
    (afterAttempt rt policy pending call outcome random).mutated = true := by
  unfold afterAttempt
  by_cases hacked : outcome = .acked true
  · rw [if_pos hacked]
    exact processLoop_mutated _ _ _ _ _
  rw [if_neg hacked]
  by_cases hspent : policy.retryMaxAttempts ≤ call.current.attemptCount + 1
  · rw [if_pos hspent]
    exact processLoop_mutated _ _ _ _ _
  rw [if_neg hspent]
  cases outcome with
  | error => rfl
  | acked accepted => exact processLoop_mutated _ _ _ _ _

/-- Where nothing is due, nothing is postponed. -/
theorem postpone_eq_self {random : ℕ → ℚ} {deliveries : List QueuedRelayDelivery}
    (h : ∀ d ∈ deliveries, ¬ d.nextAttemptAtMs ≤ nowMs) :
    postpone policy nowMs random deliveries = deliveries := by
  apply List.ext_getElem?
  intro i
  rw [postpone, List.getElem?_mapIdx]
  cases hi : deliveries[i]? with
  | none => rfl
  | some d => rw [Option.map_some, if_neg (h d (List.mem_of_getElem? hi))]

/-! ## The pieces of code -/

theorem tick_unchanged {t : Session} (h : s.tick nowMs = some t) :
    t.stored = s.stored ∧ t.alarmAt = s.alarmAt ∧ t.clock = nowMs ∧ s.clock ≤ nowMs := by
  unfold Session.tick at h
  by_cases hle : s.clock ≤ nowMs
  · rw [if_pos hle] at h
    cases h
    exact ⟨rfl, rfl, rfl, hle⟩
  · rw [if_neg hle] at h
    cases h

theorem sendDeliverFrame_unchanged (rt : Runtime) (policy : RelayDeliveryPolicy) (s : Session)
    (source : Source) (input : RelayDeliveryInput) (env : Env) :
    (sendDeliverFrame rt policy s source input env).1.stored = s.stored ∧
      (sendDeliverFrame rt policy s source input env).1.alarmAt = s.alarmAt ∧
      (sendDeliverFrame rt policy s source input env).1.clock = s.clock := by
  unfold sendDeliverFrame
  split
  · exact ⟨rfl, rfl, rfl⟩
  · split
    · exact ⟨rfl, rfl, rfl⟩
    · split <;> exact ⟨rfl, rfl, rfl⟩

theorem finishProcessing_processed {mutated : Bool} (hq : Edits policy nowMs q q')
    (hsame : mutated = false → s.queue = q ∧ q'.deliveries.Perm q.deliveries) :
    Processed policy env nowMs s q (finishProcessing s q' nowMs mutated env) := by
  cases mutated with
  | true => exact .saved hq rfl rfl rfl
  | false => exact .unsaved (hsame rfl).1 (hsame rfl).2 rfl rfl rfl

theorem continueProcessing_processed {exit : LoopExit} {loaded : List DeliveryCore}
    (hq : Edits policy nowMs q exit.queue)
    (hsame : exit.mutated = false → s.queue = q ∧ exit.queue.deliveries.Perm q.deliveries) :
    Processed policy env nowMs s q (continueProcessing rt policy s nowMs loaded env exit) := by
  cases exit with
  | finished queue mutated => exact finishProcessing_processed hq hsame
  | attempt before current rest mutated =>
      obtain ⟨hstored, halarm, hclock⟩ := sendDeliverFrame_unchanged rt policy s
        (.queue current.toDeliveryCore) current.toDeliveryCore.toInput env
      exact .waiting hq rfl hstored halarm hclock

theorem processQueueDeliveries_processed {mutated : Bool} (hloaded : s.queue = q)
    (hq : Edits policy env.nowMs q q')
    (hsame : mutated = false → q'.deliveries = q.deliveries) :
    Processed policy env env.nowMs s q (processQueueDeliveries rt policy s q' mutated env) := by
  unfold processQueueDeliveries
  by_cases hempty : q'.deliveries = []
  · rw [if_pos hempty]
    refine finishProcessing_processed hq fun hmutated => ⟨hloaded, ?_⟩
    rw [hsame hmutated]
  rw [if_neg hempty]
  by_cases hsockets : env.sockets = 0
  · rw [if_pos hsockets]
    refine finishProcessing_processed (hq.trans (edits_postpone policy env.nowMs env.random q'))
      fun hmutated => ⟨hloaded, ?_⟩
    rw [Bool.or_eq_false_iff, List.any_eq_false] at hmutated
    rw [postpone_eq_self fun d hd => by simpa using hmutated.2 d hd, hsame hmutated.1]
  rw [if_neg hsockets]
  have hloop := (edits_mergeSort policy env.nowMs q').trans
    (edits_processLoop policy s.pending env.nowMs (q'.deliveries.mergeSort attemptOrder)
      { q' with deliveries := [] } mutated)
  refine continueProcessing_processed (hq.trans hloop) fun hmutated => ⟨hloaded, ?_⟩
  have hinput : mutated = false := by
    by_contra htrue
    rw [Bool.not_eq_false] at htrue
    rw [htrue, processLoop_mutated] at hmutated
    cases hmutated
  rw [processLoop_queue_eq policy _ _ _ _ _ hmutated, ← hsame hinput]
  exact List.mergeSort_perm _ _

theorem queueDelivery_exit (call : Delivering) (priorAttempts : ℕ) :
    Exit policy env call.nowMs call.deliveryId s call.snapshot
      (queueDelivery rt policy s call priorAttempts env) := by
  unfold queueDelivery
  by_cases hspent : policy.retryMaxAttempts ≤ priorAttempts
  · rw [if_pos hspent]
    exact .answered rfl rfl rfl
  rw [if_neg hspent]
  by_cases hfull : policy.queueMaxMessagesPerAgent ≤ call.snapshot.deliveries.length
  · rw [if_pos hfull]
    exact .answered rfl rfl rfl
  rw [if_neg hfull]
  exact .written (.push rfl ⟨rfl, rfl, rfl, rfl, rfl⟩ (not_le.mp hfull) (not_le.mp hspent))
    rfl rfl rfl

theorem afterDirectAttempt_exit {call : Delivering} {outcome : Outcome} :
    Exit policy env call.nowMs call.deliveryId s call.snapshot
      (afterDirectAttempt rt policy s call outcome env) := by
  unfold afterDirectAttempt
  by_cases hacked : outcome = .acked true
  · rw [if_pos hacked]
    exact .written (.receipt (by simp [deliveryReceipt])) rfl rfl rfl
  · rw [if_neg hacked]
    exact queueDelivery_exit call 1

theorem deliverToConnector_exit {input : RelayDeliveryInput} :
    Exit policy env env.nowMs env.ulid (s.loadQueueState env.nowMs).1
      (s.loadQueueState env.nowMs).2 (deliverToConnector rt policy s input env) := by
  unfold deliverToConnector
  cases hexisting : existingReceipt (s.loadQueueState env.nowMs).2 input env.nowMs with
  | some receipt =>
      simp only [hexisting]
      exact .answered rfl rfl rfl
  | none =>
      simp only [hexisting]
      split
      · obtain ⟨hstored, halarm, hclock⟩ := sendDeliverFrame_unchanged rt policy
          (s.loadQueueState env.nowMs).1 (.direct input) input env
        exact .delivering rfl rfl rfl hstored halarm hclock
      · exact queueDelivery_exit
          ⟨input, env.ulid, env.nowMs, env.sockets, (s.loadQueueState env.nowMs).2⟩ 0

theorem recordDeliveryReceipt_exit {input : RelayReceiptRecordInput} :
    Exit policy env env.nowMs env.ulid (s.loadQueueState env.nowMs).1
      (s.loadQueueState env.nowMs).2 (recordDeliveryReceipt rt policy s input env) := by
  have hstate : ∀ existing, (recordedReceipt rt policy existing input env).state ≠ .queued := by
    intro existing
    cases hstatus : input.status <;> simp [recordedReceipt, receiptState, hstatus]
  unfold recordDeliveryReceipt pushReceiptFrameToActiveSockets
  simp only
  split
  · exact .answered rfl rfl rfl
  · split
    · split
      · exact .written (.receipt (hstate _)) rfl rfl rfl
      · exact .written (.receipt (hstate _)) rfl rfl rfl
    · exact .written (.receipt (hstate _)) rfl rfl rfl

theorem loaded_queue (s : Session) (nowMs : ℚ) :
    (s.loadQueueState nowMs).1.queue = (s.loadQueueState nowMs).2 :=
  Session.queue_load s nowMs

theorem alarm_processed (rt : Runtime) (policy : RelayDeliveryPolicy) (s : Session) (env : Env) :
    Processed policy env env.nowMs (s.loadQueueState env.nowMs).1
      (s.loadQueueState env.nowMs).2 (alarm rt policy s env) :=
  processQueueDeliveries_processed (loaded_queue s env.nowMs) (.refl _) fun _ => rfl

theorem drainQueueOnReconnect_processed (rt : Runtime) (policy : RelayDeliveryPolicy)
    (s : Session) (env : Env) : Processed policy env env.nowMs (s.loadQueueState env.nowMs).1
      (s.loadQueueState env.nowMs).2 (drainQueueOnReconnect rt policy s env) := by
  refine processQueueDeliveries_processed (loaded_queue s env.nowMs)
    (edits_due policy env.nowMs _) fun hmutated => ?_
  rw [List.any_eq_false] at hmutated
  refine (List.map_congr_left fun d hd => ?_).trans (List.map_id _)
  rw [if_neg (by simpa using hmutated d hd)]
  rfl

/-- The alarm is set for the queue that was loaded. -/
theorem scheduleFromStorage_processed (policy : RelayDeliveryPolicy) (s : Session) (env : Env) :
    Processed policy env env.nowMs (s.loadQueueState env.nowMs).1
      (s.loadQueueState env.nowMs).2 (scheduleFromStorage s env) :=
  .unsaved (loaded_queue s env.nowMs) (.refl _) rfl rfl rfl

/-- **A call up to its first await**, after it has loaded the queue. -/
theorem handle_exit (rt : Runtime) (policy : RelayDeliveryPolicy) (s : Session)
    (request : Request) (env : Env) :
    Exit policy env env.nowMs env.ulid (s.loadQueueState env.nowMs).1
      (s.loadQueueState env.nowMs).2 (handle rt policy s request env) := by
  cases request with
  | deliverToConnector input => exact deliverToConnector_exit
  | recordDeliveryReceipt input => exact recordDeliveryReceipt_exit
  | getDeliveryReceipt input => exact .answered rfl rfl rfl
  | alarm => exact .processed (alarm_processed rt policy s env)
  | drainQueueOnReconnect => exact .processed (drainQueueOnReconnect_processed rt policy s env)
  | scheduleFromStorage => exact .processed (scheduleFromStorage_processed policy s env)

/-! ## After an await -/

/-- The queue of the loop with the answer to its attempt: the delivery is replaced by its
receipt, or it is out of attempts and dropped, or the attempt is counted. -/
def Processing.answeredQueue (rt : Runtime) (policy : RelayDeliveryPolicy) (call : Processing)
    (outcome : Outcome) : RelayQueueState :=
  if outcome = .acked true then
    (call.before.append call.rest).upsertReceipt (call.acceptedReceipt rt policy)
  else if policy.retryMaxAttempts ≤ call.current.attemptCount + 1 then
    (call.before.deleteQueuedReceipt call.current.requestId call.current.deliveryId).append
      call.rest
  else call.before.append (call.current.tried :: call.rest)

theorem edits_answeredQueue {call : Processing} {outcome : Outcome} {pending : ℕ}
    {random : ℕ → ℚ} :
    Edits policy call.nowMs (call.answeredQueue rt policy outcome)
      (afterAttempt rt policy pending call outcome random).queue := by
  unfold Processing.answeredQueue
  by_cases hacked : outcome = .acked true
  · subst hacked
    rw [if_pos rfl]
    exact edits_afterAttempt_acked rt policy pending call random
  rw [if_neg hacked]
  by_cases hspent : policy.retryMaxAttempts ≤ call.current.attemptCount + 1
  · rw [if_pos hspent, afterAttempt, if_neg hacked, if_pos hspent]
    exact edits_processLoop policy _ _ _ _ _
  · rw [if_neg hspent]
    exact edits_afterAttempt rt policy pending call random hacked

/-- **A call after an await.** -/
theorem proceed_exit {c : Call} {r : Session × Call} (h : proceed rt policy s env c = some r) :
    (∃ call outcome, c = .delivering call (.settled outcome) ∧
      Exit policy env call.nowMs call.deliveryId s call.snapshot r) ∨
    (∃ call outcome, c = .processing call (.settled outcome) ∧
      Processed policy env call.nowMs
        { s with history := s.history.logAttempt call.current.toDeliveryCore outcome }
        (call.answeredQueue rt policy outcome) r) := by
  match c, h with
  | .delivering call (.settled outcome), h =>
      cases h
      exact .inl ⟨call, outcome, rfl, afterDirectAttempt_exit⟩
  | .processing call (.settled outcome), h =>
      cases h
      refine .inr ⟨call, outcome, rfl, continueProcessing_processed edits_answeredQueue ?_⟩
      intro hmutated
      rw [afterAttempt_mutated] at hmutated
      cases hmutated

end

end Clawdentity.Relay
