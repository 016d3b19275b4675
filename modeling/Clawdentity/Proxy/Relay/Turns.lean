import Clawdentity.Proxy.Relay.Effects

/-!
# What a move of a session does to the receipts

A finer account of the pieces of code between two awaits than `Effect`: which receipt is
written over which, and for which request. A repeated delivery is answered from the
receipt of its request, and every other answer to a delivery comes with a new receipt.

## Main definitions

* `Triple` — the request, the sender and the recipient of a delivery.
* `Turn` — what a piece of code can do.
* `handle_turn`, `proceed_turn` — a call up to its first await, and after an await.
-/

namespace Clawdentity.Relay

open Js Lib Connector Lib.Interleave

/-! ## Triples -/

/-- What identifies a delivery. -/
structure Triple where
  requestId : JsString
  senderAgentDid : JsString
  recipientAgentDid : JsString
  deriving DecidableEq

def RelayDeliveryInput.triple (input : RelayDeliveryInput) : Triple :=
  ⟨input.requestId, input.senderAgentDid, input.recipientAgentDid⟩

def DeliveryCore.triple (core : DeliveryCore) : Triple :=
  ⟨core.requestId, core.senderAgentDid, core.recipientAgentDid⟩

def RelayDeliveryReceipt.triple (receipt : RelayDeliveryReceipt) : Triple :=
  ⟨receipt.requestId, receipt.senderAgentDid, receipt.recipientAgentDid⟩

def RelayReceiptRecordInput.triple (input : RelayReceiptRecordInput) : Triple :=
  ⟨input.requestId, input.senderAgentDid, input.recipientAgentDid⟩

theorem existingReceipt_eq_some {q : RelayQueueState} {input : RelayDeliveryInput} {nowMs : ℚ}
    {receipt : RelayDeliveryReceipt} :
    existingReceipt q input nowMs = some receipt ↔
      q.receipts.lookup input.requestId = some receipt ∧ nowMs < receipt.expiresAtMs ∧
        receipt.triple = input.triple := by
  simp only [existingReceipt, Option.filter_eq_some_iff, decide_eq_true_eq,
    RelayDeliveryReceipt.triple, RelayDeliveryInput.triple, Triple.mk.injEq]
  constructor
  · intro ⟨hfound, hlive, hsender, hrecipient⟩
    exact ⟨hfound, hlive, Receipts.requestId_of_lookup hfound, hsender, hrecipient⟩
  · intro ⟨hfound, hlive, _, hsender, hrecipient⟩
    exact ⟨hfound, hlive, hsender, hrecipient⟩

/-! ## Turns -/

section
variable (rt : Runtime) (policy : RelayDeliveryPolicy)

/-- The queue with a delivery and its receipt. -/
def RelayQueueState.withQueued (q : RelayQueueState) (input : RelayDeliveryInput)
    (d : QueuedRelayDelivery) (nowMs : ℚ) : RelayQueueState :=
  (q.append [d]).upsertReceipt (deliveryReceipt rt input d.deliveryId .queued d.expiresAtMs nowMs)

/-- The queue with the receipt of a delivery that the connector has accepted. -/
def RelayQueueState.withDelivered (q : RelayQueueState) (input : RelayDeliveryInput)
    (deliveryId : JsString) (nowMs : ℚ) : RelayQueueState :=
  q.upsertReceipt
    (deliveryReceipt rt input deliveryId .delivered (nowMs + policy.queueTtlMs) nowMs)

/-- The queue with a recorded receipt. -/
def RelayQueueState.withRecorded (q : RelayQueueState) (input : RelayReceiptRecordInput)
    (env : Env) : RelayQueueState :=
  q.upsertReceipt (recordedReceipt rt policy (q.receipts.lookup input.requestId) input env)

/-- **What a piece of code does** with the queue `q`, for the request of its call and at the
time of that call. -/
inductive Turn (env : Env) (request : Option Request) (nowMs : ℚ) (s : Session)
    (q : RelayQueueState) : Session × Call → Prop
  /-- It answers; a delivery is answered from its receipt. -/
  | answer {s' : Session} {response : Response} (hstored : s'.stored = s.stored)
      (hclock : s'.clock = s.clock) (hhistory : s'.history = s.history)
      (hdelivery : ∀ result, response = .delivery result → ∃ input receipt,
        request = some (.deliverToConnector input) ∧
          existingReceipt q input nowMs = some receipt ∧ result.deliveryId = receipt.deliveryId) :
      Turn env request nowMs s q (s', .returned response)
  /-- It saves the queue that it has edited. -/
  | edited {s' : Session} {q' : RelayQueueState}
      (hrequest : ∀ input, request ≠ some (.deliverToConnector input))
      (hedits : Edits policy nowMs q q') (hstored : s'.stored = some q'.encode) (hclock : s'.clock = s.clock)
      (hhistory : s'.history = s.history) :
      Turn env request nowMs s q (s', .returned .done)
  /-- It saves the receipt of a direct delivery. -/
  | delivered {s' : Session} {input : RelayDeliveryInput} {result : RelayDeliveryResult}
      (hrequest : request = some (.deliverToConnector input))
      (hnew : existingReceipt q input nowMs = none)
      (hstored : s'.stored =
        some (q.withDelivered rt policy input result.deliveryId nowMs).encode)
      (hclock : s'.clock = s.clock) (hhistory : s'.history = s.history) :
      Turn env request nowMs s q (s', .returned (.delivery result))
  /-- It saves a new delivery. -/
  | queued {s' : Session} {input : RelayDeliveryInput} {result : RelayDeliveryResult}
      {d : QueuedRelayDelivery} (hrequest : request = some (.deliverToConnector input))
      (hnew : existingReceipt q input nowMs = none) (htriple : d.triple = input.triple)
      (hid : d.deliveryId = result.deliveryId) (hexpires : d.expiresAtMs = nowMs + policy.queueTtlMs)
      (hstored : s'.stored = some (q.withQueued rt input d nowMs).encode)
      (hclock : s'.clock = s.clock)
      (hhistory : s'.history = s.history.logQueued input d.toDeliveryCore d.attemptCount) :
      Turn env request nowMs s q (s', .returned (.delivery result))
  /-- It saves a recorded receipt over one of the same delivery. -/
  | recorded {s' : Session} {input : RelayReceiptRecordInput} {response : Response}
      {pushed : List Value} (hrequest : request = some (.recordDeliveryReceipt input))
      (hmine : ∀ receipt, q.receipts.lookup input.requestId = some receipt →
        receipt.triple = input.triple)
      (hnow : env.nowMs = nowMs) (hstored : s'.stored = some (q.withRecorded rt policy input env).encode)
      (hclock : s'.clock = s.clock) (hhistory : s'.history = { s.history with pushed })
      (hresponse : ∀ result, response ≠ .delivery result) :
      Turn env request nowMs s q (s', .returned response)
  /-- A direct delivery waits. -/
  | delivering {s' : Session} {call : Delivering} {await : Await}
      (hrequest : request = some (.deliverToConnector call.input))
      (hnew : existingReceipt q call.input nowMs = none) (hsnapshot : call.snapshot = q)
      (hnow : call.nowMs = nowMs) (hawait : await = .waiting ∨ await = .settled .error)
      (hstored : s'.stored = s.stored) (hclock : s'.clock = s.clock)
      (hhistory : Sends rt env request s.history q s'.history) :
      Turn env request nowMs s q (s', .delivering call await)
  /-- The loop of the queue waits. -/
  | processing {s' : Session} {call : Processing} {await : Await}
      (hrequest : ∀ input, request ≠ some (.deliverToConnector input))
      (hedits : Edits policy nowMs q call.queue) (hnow : call.nowMs = nowMs)
      (hstored : s'.stored = s.stored) (hclock : s'.clock = s.clock)
      (hhistory : Sends rt env request s.history call.queue s'.history) :
      Turn env request nowMs s q (s', .processing call await)

end

section
variable {rt : Runtime} {policy : RelayDeliveryPolicy} {env : Env} {request : Option Request}
  {nowMs : ℚ} {s : Session} {q : RelayQueueState}

theorem finishProcessing_turn {q' : RelayQueueState} {mutated : Bool}
    (hrequest : ∀ input, request ≠ some (.deliverToConnector input))
    (hq : Edits policy nowMs q q') :
    Turn rt policy env request nowMs s q (finishProcessing s q' nowMs mutated env) := by
  cases mutated with
  | true => exact .edited hrequest hq rfl rfl rfl
  | false => exact .answer rfl rfl rfl (fun result hresult => by cases hresult)

theorem continueProcessing_turn {exit : LoopExit} {loaded : List DeliveryCore}
    (hrequest : ∀ input, request ≠ some (.deliverToConnector input))
    (hq : Edits policy nowMs q exit.queue) :
    Turn rt policy env request nowMs s q
      (continueProcessing rt policy s nowMs loaded env exit) := by
  cases exit with
  | finished queue mutated => exact finishProcessing_turn hrequest hq
  | attempt before current rest mutated =>
      have hcurrent : ∀ core, Source.queue current.toDeliveryCore = .queue core →
          core ∈ (before.append (current :: rest)).cores := by
        intro core hcore
        cases hcore
        simp [RelayQueueState.cores, RelayQueueState.append]
      obtain ⟨hstored, hclock, hsends⟩ := sendDeliverFrame_sends
        (.queue current.toDeliveryCore) hcurrent (fun input hinput => by cases hinput)
      exact .processing hrequest hq rfl hstored hclock hsends

theorem processQueueDeliveries_turn {q' : RelayQueueState} {mutated : Bool}
    (hrequest : ∀ input, request ≠ some (.deliverToConnector input))
    (hq : Edits policy env.nowMs q q') :
    Turn rt policy env request env.nowMs s q
      (processQueueDeliveries rt policy s q' mutated env) := by
  unfold processQueueDeliveries
  by_cases hempty : q'.deliveries = []
  · rw [if_pos hempty]
    exact finishProcessing_turn hrequest hq
  rw [if_neg hempty]
  by_cases hsockets : env.sockets = 0
  · rw [if_pos hsockets]
    exact finishProcessing_turn hrequest (hq.trans (edits_postpone policy env.nowMs env.random q'))
  rw [if_neg hsockets]
  have hloop := (edits_mergeSort policy env.nowMs q').trans
    (edits_processLoop policy s.pending env.nowMs (q'.deliveries.mergeSort attemptOrder)
      { q' with deliveries := [] } mutated)
  exact continueProcessing_turn hrequest (hq.trans hloop)

/-- A frame that was just sent has no acknowledgement yet. -/
theorem sendDeliverFrame_await {source : Source} {input : RelayDeliveryInput} :
    (sendDeliverFrame rt policy s source input env).2 = .waiting ∨
      (sendDeliverFrame rt policy s source input env).2 = .settled .error := by
  unfold sendDeliverFrame
  split
  · exact .inr rfl
  · split
    · exact .inr rfl
    · split
      · exact .inr rfl
      · exact .inl rfl

theorem queueDelivery_turn {call : Delivering} {priorAttempts : ℕ}
    (hrequest : request = some (.deliverToConnector call.input)) (hq : call.snapshot = q)
    (hnow : call.nowMs = nowMs) (hnew : existingReceipt q call.input nowMs = none) :
    Turn rt policy env request nowMs s q (queueDelivery rt policy s call priorAttempts env) := by
  subst hq hnow
  unfold queueDelivery
  by_cases hspent : policy.retryMaxAttempts ≤ priorAttempts
  · rw [if_pos hspent]
    exact .answer rfl rfl rfl (fun result hresult => by cases hresult)
  rw [if_neg hspent]
  by_cases hfull : policy.queueMaxMessagesPerAgent ≤ call.snapshot.deliveries.length
  · rw [if_pos hfull]
    exact .answer rfl rfl rfl (fun result hresult => by cases hresult)
  · rw [if_neg hfull]
    exact .queued hrequest hnew rfl rfl rfl rfl rfl rfl

/-- A delivery that is queued, or cannot be, is answered at once. -/
theorem queueDelivery_returned (rt : Runtime) (policy : RelayDeliveryPolicy) (s : Session)
    (call : Delivering) (priorAttempts : ℕ) (env : Env) :
    ∃ response, (queueDelivery rt policy s call priorAttempts env).2 = .returned response := by
  unfold queueDelivery
  split
  · exact ⟨_, rfl⟩
  · split
    · exact ⟨_, rfl⟩
    · exact ⟨_, rfl⟩

theorem afterDirectAttempt_turn {call : Delivering} {outcome : Outcome}
    (hnew : existingReceipt call.snapshot call.input call.nowMs = none) :
    Turn rt policy env (some (.deliverToConnector call.input)) call.nowMs s call.snapshot
      (afterDirectAttempt rt policy s call outcome env) := by
  unfold afterDirectAttempt
  by_cases hacked : outcome = .acked true
  · rw [if_pos hacked]
    exact .delivered rfl hnew rfl rfl rfl
  · rw [if_neg hacked]
    exact queueDelivery_turn rfl rfl rfl hnew

theorem deliverToConnector_turn {input : RelayDeliveryInput} :
    Turn rt policy env (some (.deliverToConnector input)) env.nowMs
      (s.loadQueueState env.nowMs).1 (s.loadQueueState env.nowMs).2
      (deliverToConnector rt policy s input env) := by
  unfold deliverToConnector
  cases hexisting : existingReceipt (s.loadQueueState env.nowMs).2 input env.nowMs with
  | some receipt =>
      simp only [hexisting]
      refine .answer rfl rfl rfl ?_
      intro result hresult
      cases hresult
      exact ⟨input, receipt, rfl, hexisting, rfl⟩
  | none =>
      simp only [hexisting]
      by_cases hsend : 0 < env.sockets ∧
          (s.loadQueueState env.nowMs).1.pending < policy.maxInFlightDeliveries
      · rw [if_pos hsend]
        have hdirect : ∀ core, Source.direct input = .queue core →
            core ∈ (s.loadQueueState env.nowMs).2.cores := by
          intro core hcore
          cases hcore
        obtain ⟨hstored, hclock, hsends⟩ := sendDeliverFrame_sends (.direct input) hdirect
          (fun _ hinput => by cases hinput; rfl)
        exact .delivering rfl hexisting rfl rfl sendDeliverFrame_await hstored hclock hsends
      · rw [if_neg hsend]
        exact queueDelivery_turn rfl rfl rfl hexisting

theorem recordDeliveryReceipt_turn {input : RelayReceiptRecordInput} :
    Turn rt policy env (some (.recordDeliveryReceipt input)) env.nowMs
      (s.loadQueueState env.nowMs).1 (s.loadQueueState env.nowMs).2
      (recordDeliveryReceipt rt policy s input env) := by
  unfold recordDeliveryReceipt pushReceiptFrameToActiveSockets
  simp only
  split
  · exact .answer rfl rfl rfl (fun result hresult => by cases hresult)
  · rename_i hother
    have hmine : ∀ receipt, (s.loadQueueState env.nowMs).2.receipts.lookup input.requestId =
        some receipt → receipt.triple = input.triple := by
      intro receipt hfound
      rw [hfound] at hother
      simp only [Option.any_some, decide_eq_true_eq, not_or, not_not] at hother
      simp [RelayDeliveryReceipt.triple, RelayReceiptRecordInput.triple, hother,
        Receipts.requestId_of_lookup hfound]
    split
    · split
      · exact .recorded rfl hmine rfl rfl rfl rfl (fun result hresult => by cases hresult)
      · exact .recorded rfl hmine rfl rfl rfl rfl (fun result hresult => by cases hresult)
    · exact .recorded rfl hmine rfl rfl rfl rfl (fun result hresult => by cases hresult)

/-- **A call up to its first await**, after it has loaded the queue. -/
theorem handle_turn (rt : Runtime) (policy : RelayDeliveryPolicy) (s : Session)
    (request : Request) (env : Env) :
    Turn rt policy env (some request) env.nowMs (s.loadQueueState env.nowMs).1
      (s.loadQueueState env.nowMs).2 (handle rt policy s request env) := by
  cases request with
  | deliverToConnector input => exact deliverToConnector_turn
  | recordDeliveryReceipt input => exact recordDeliveryReceipt_turn
  | getDeliveryReceipt input => exact .answer rfl rfl rfl (fun result hresult => by cases hresult)
  | alarm => exact processQueueDeliveries_turn (fun _ hinput => by cases hinput) (.refl _)
  | drainQueueOnReconnect =>
      exact processQueueDeliveries_turn (fun _ hinput => by cases hinput) (edits_due _ _ _)
  | scheduleFromStorage => exact .answer rfl rfl rfl (fun result hresult => by cases hresult)

/-- The queue of the loop with the attempt on its current delivery taken into account: it
is counted, or the delivery is replaced by its receipt. -/
def Processing.settledQueue (rt : Runtime) (policy : RelayDeliveryPolicy) (call : Processing)
    (outcome : Outcome) : RelayQueueState :=
  if outcome = .acked true then
    (call.before.append call.rest).upsertReceipt (call.acceptedReceipt rt policy)
  else call.before.append (call.current.tried :: call.rest)

theorem afterAttempt_edits {call : Processing} {outcome : Outcome} {pending : ℕ}
    {random : ℕ → ℚ} :
    Edits policy call.nowMs (call.settledQueue rt policy outcome)
      (afterAttempt rt policy pending call outcome random).queue := by
  unfold Processing.settledQueue
  by_cases hacked : outcome = .acked true
  · subst hacked
    rw [if_pos rfl]
    exact edits_afterAttempt_acked rt policy pending call random
  · rw [if_neg hacked]
    exact edits_afterAttempt rt policy pending call random hacked

/-- **A call after an await.** -/
theorem proceed_turn {c : Call} {r : Session × Call}
    (hnew : ∀ call await, c = .delivering call await →
      existingReceipt call.snapshot call.input call.nowMs = none)
    (h : proceed rt policy s env c = some r) :
    (∃ call outcome, c = .delivering call (.settled outcome) ∧
      Turn rt policy env (some (.deliverToConnector call.input)) call.nowMs s call.snapshot r) ∨
    (∃ call outcome, c = .processing call (.settled outcome) ∧
      Turn rt policy env none call.nowMs
        { s with history := s.history.logAttempt call.current.toDeliveryCore outcome }
        (call.settledQueue rt policy outcome) r) := by
  match c, h with
  | .delivering call (.settled outcome), h =>
      cases h
      exact .inl ⟨call, outcome, rfl, afterDirectAttempt_turn (hnew call _ rfl)⟩
  | .processing call (.settled outcome), h =>
      cases h
      exact .inr ⟨call, outcome, rfl,
        continueProcessing_turn (fun _ hinput => by cases hinput) afterAttempt_edits⟩

end

end Clawdentity.Relay
