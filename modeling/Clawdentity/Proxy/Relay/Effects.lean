import Clawdentity.Proxy.Relay.QueueUpdates

/-!
# What a move of a session does

Each piece of code between two awaits works on one queue: the one it has loaded,
or the snapshot of the call that goes on. `Effect` lists what it can do with it:
answer, save the queue, push a delivery onto it, or wait with it. The invariants of
a session are proved from these cases.

## Main definitions

* `Effect` — what a piece of code can do.
* `handle_effect` — a call up to its first await.
* `proceed_effect` — a call after an await.
-/

namespace Clawdentity.Relay

open Js Lib Connector Lib.Interleave

/-- The queue in storage. -/
def Session.queue (s : Session) : RelayQueueState := .decode s.stored

theorem Session.queue_of_stored {s : Session} {q : RelayQueueState}
    (h : s.stored = some q.encode) : s.queue = q := by
  rw [Session.queue, h]
  exact RelayQueueState.decode_encode q

/-- The input whose frame is sent for a source. -/
def Source.input : Source → RelayDeliveryInput
  | .direct input => input
  | .queue core => core.toInput

namespace Call

/-- The delivery id of a call that answered `"queued"`. -/
def queuedId : Call → Option JsString
  | .returned (.delivery result) => if result.state = .queued then some result.deliveryId else none
  | _ => none

/-- The snapshot of a call that waits. -/
def queue : Call → Option RelayQueueState
  | .delivering call _ => some call.snapshot
  | .processing call _ => some call.queue
  | .returned _ => none

/-- The deliveries that a call had loaded. -/
def loaded : Call → List DeliveryCore
  | .delivering call _ => call.snapshot.cores
  | .processing call _ => call.loaded
  | .returned _ => []

/-- The request of a call that may still push the delivery it was made for. -/
def request : Call → Option Request
  | .delivering call _ => some (.deliverToConnector call.input)
  | .processing _ _ => none
  | .returned _ => none

/-- The time at which a call that waits was made. -/
def nowMs : Call → Option ℚ
  | .delivering call _ => some call.nowMs
  | .processing call _ => some call.nowMs
  | .returned _ => none

end Call

theorem queuedId_delivery {deliveryId id : JsString} {state : RelayDeliveryState} {n m : ℕ} :
    (Call.returned (.delivery (toRelayDeliveryResult deliveryId state n m))).queuedId = some id ↔
      state = .queued ∧ deliveryId = id := by
  cases state <;> simp [Call.queuedId, toRelayDeliveryResult]

/-- The history after a send: nothing was sent, or the frame of the source. -/
inductive Sends (rt : Runtime) (env : Env) (request : Option Request) (h : History)
    (q : RelayQueueState) : History → Prop
  | none : Sends rt env request h q h
  | frame {source : Source} {frame : Value}
      (hframe : serializeFrame rt.platform (.deliver (toDeliverFrame rt source.input env)) =
        some frame)
      (hqueue : ∀ core, source = .queue core → core ∈ q.cores)
      (hdirect : ∀ input, source = .direct input → request = some (.deliverToConnector input)) :
      Sends rt env request h q { h with sent := h.sent ++ [⟨source, frame⟩] }

/-- The receipt frames after a call: no new ones, or those of the request. -/
inductive Pushes (rt : Runtime) (env : Env) (request : Option Request) (pushed : List Value) :
    List Value → Prop
  | none : Pushes rt env request pushed pushed
  | frames {record : RelayReceiptRecordInput} {frame : Value} (n : ℕ)
      (hrequest : request = some (.recordDeliveryReceipt record))
      (hframe : toReceiptFramePayload rt record env = some frame) :
      Pushes rt env request pushed (pushed ++ List.replicate n frame)

/-- **What a piece of code does** with the queue `q`, for the request of its call and at
the time of that call, where the deliveries `loaded` were loaded. -/
inductive Effect (rt : Runtime) (policy : RelayDeliveryPolicy) (env : Env)
    (request : Option Request) (nowMs : ℚ) (s : Session) (q : RelayQueueState)
    (loaded : List DeliveryCore) : Session × Call → Prop
  /-- It answers; an answer `"queued"` comes from a receipt. -/
  | answer {s' : Session} {response : Response} (hstored : s'.stored = s.stored)
      (hclock : s'.clock = s.clock) (hhistory : s'.history = s.history)
      (hqueued : ∀ id, (Call.returned response).queuedId = some id →
        ∃ key r, q.receipts.lookup key = some r ∧ r.state = .queued ∧ r.deliveryId = id) :
      Effect rt policy env request nowMs s q loaded (s', .returned response)
  /-- It saves the queue and answers. -/
  | save {s' : Session} {response : Response} {q' : RelayQueueState} {pushed : List Value}
      (hq : Evolves policy nowMs q q') (hstored : s'.stored = some q'.encode)
      (hclock : s'.clock = s.clock) (hhistory : s'.history = { s.history with pushed })
      (hpushed : Pushes rt env request s.history.pushed pushed)
      (hqueued : (Call.returned response).queuedId = none) :
      Effect rt policy env request nowMs s q loaded (s', .returned response)
  /-- It pushes a delivery with its receipt, saves the queue and answers `"queued"`. -/
  | push {s' : Session} {response : Response} {input : RelayDeliveryInput}
      {d : QueuedRelayDelivery} {receipt : RelayDeliveryReceipt}
      (hrequest : request = some (.deliverToConnector input))
      (hinput : d.toInput = { input with groupId := none })
      (hreceipt : receipt.deliveryId = d.deliveryId)
      (hstored : s'.stored = some ((q.append [d]).upsertReceipt receipt).encode)
      (hclock : s'.clock = s.clock)
      (hhistory : s'.history = s.history.logQueued input d.toDeliveryCore d.attemptCount)
      (hqueued : (Call.returned response).queuedId = some d.deliveryId) :
      Effect rt policy env request nowMs s q loaded (s', .returned response)
  /-- It sends a frame and waits with the queue. -/
  | wait {s' : Session} {c : Call} {q' : RelayQueueState} (hq : Evolves policy nowMs q q')
      (hstored : s'.stored = s.stored) (hclock : s'.clock = s.clock)
      (hhistory : Sends rt env request s.history q' s'.history) (hqueue : c.queue = some q')
      (hrequest : c.request = none ∨ c.request = request)
      (hloaded : ∀ core ∈ c.loaded, core ∈ loaded) (hnow : c.nowMs = some nowMs) :
      Effect rt policy env request nowMs s q loaded (s', c)

section
variable {rt : Runtime} {policy : RelayDeliveryPolicy} {nowMs : ℚ} {s : Session} {env : Env}
  {request : Option Request} {q : RelayQueueState} {loaded : List DeliveryCore}

/-! ## The pieces of code -/

/-- What a send does to the state. -/
theorem sendDeliverFrame_sends (source : Source)
    (hqueue : ∀ core, source = .queue core → core ∈ q.cores)
    (hdirect : ∀ input, source = .direct input → request = some (.deliverToConnector input)) :
    (sendDeliverFrame rt policy s source source.input env).1.stored = s.stored ∧
      (sendDeliverFrame rt policy s source source.input env).1.clock = s.clock ∧
      Sends rt env request s.history q
        (sendDeliverFrame rt policy s source source.input env).1.history := by
  unfold sendDeliverFrame
  by_cases hfull : policy.maxInFlightDeliveries ≤ s.pending
  · rw [if_pos hfull]
    exact ⟨rfl, rfl, .none⟩
  rw [if_neg hfull]
  cases hframe : serializeFrame rt.platform (.deliver (toDeliverFrame rt source.input env)) with
  | none => exact ⟨rfl, rfl, .none⟩
  | some frame =>
      by_cases hsend : policy.maxFrameBytes < rt.frameBytes frame ∨ env.sendOk = false
      · simp only [if_pos hsend]
        exact ⟨trivial, trivial, .none⟩
      · simp only [if_neg hsend]
        exact ⟨trivial, trivial, .frame hframe hqueue hdirect⟩

theorem finishProcessing_effect {q' : RelayQueueState} {mutated : Bool}
    (hq : Evolves policy nowMs q q') :
    Effect rt policy env request nowMs s q loaded (finishProcessing s q' nowMs mutated env) := by
  cases mutated with
  | true => exact .save hq rfl rfl rfl .none rfl
  | false => exact .answer rfl rfl rfl (fun id hid => by cases hid)

theorem continueProcessing_effect {exit : LoopExit} {mine : List DeliveryCore}
    (hq : Evolves policy nowMs q exit.queue) (hmine : ∀ core ∈ mine, core ∈ loaded) :
    Effect rt policy env request nowMs s q loaded (continueProcessing rt policy s nowMs mine env exit) := by
  cases exit with
  | finished queue mutated => exact finishProcessing_effect hq
  | attempt before current rest mutated =>
      have hcurrent : ∀ core, Source.queue current.toDeliveryCore = .queue core →
          core ∈ (before.append (current :: rest)).cores := by
        intro core hcore
        cases hcore
        simp [RelayQueueState.cores, RelayQueueState.append]
      obtain ⟨hstored, hclock, hsends⟩ := sendDeliverFrame_sends
        (.queue current.toDeliveryCore) hcurrent (fun input hinput => by cases hinput)
      exact .wait hq hstored hclock hsends rfl (.inl rfl) hmine rfl

theorem processQueueDeliveries_effect {q' : RelayQueueState} {mutated : Bool}
    (hq : Evolves policy env.nowMs q q') :
    Effect rt policy env request env.nowMs s q q.cores
      (processQueueDeliveries rt policy s q' mutated env) := by
  unfold processQueueDeliveries
  by_cases hempty : q'.deliveries = []
  · rw [if_pos hempty]
    exact finishProcessing_effect hq
  rw [if_neg hempty]
  by_cases hsockets : env.sockets = 0
  · rw [if_pos hsockets]
    exact finishProcessing_effect (hq.trans (edits_postpone policy env.nowMs env.random q').evolves)
  rw [if_neg hsockets]
  have hloop := (edits_mergeSort policy env.nowMs q').trans
    (edits_processLoop policy s.pending env.nowMs (q'.deliveries.mergeSort attemptOrder)
      { q' with deliveries := [] } mutated)
  refine continueProcessing_effect (hq.trans hloop.evolves) ?_
  intro core hcore
  obtain ⟨n, hn⟩ := RelayQueueState.mem_cores.mp hcore
  exact RelayQueueState.mem_cores.mpr ⟨n, hq.back _ hn⟩

theorem queueDelivery_effect {call : Delivering} {priorAttempts : ℕ}
    (hrequest : request = some (.deliverToConnector call.input)) (hq : call.snapshot = q) :
    Effect rt policy env request nowMs s q loaded
      (queueDelivery rt policy s call priorAttempts env) := by
  subst hq
  unfold queueDelivery
  by_cases hspent : policy.retryMaxAttempts ≤ priorAttempts
  · rw [if_pos hspent]
    exact .answer rfl rfl rfl (fun id hid => by cases hid)
  rw [if_neg hspent]
  by_cases hfull : policy.queueMaxMessagesPerAgent ≤ call.snapshot.deliveries.length
  · rw [if_pos hfull]
    exact .answer rfl rfl rfl (fun id hid => by cases hid)
  · rw [if_neg hfull]
    exact .push hrequest rfl rfl rfl rfl rfl (queuedId_delivery.mpr ⟨rfl, rfl⟩)

theorem afterDirectAttempt_effect {call : Delivering} {outcome : Outcome} :
    Effect rt policy env (some (.deliverToConnector call.input)) nowMs s call.snapshot loaded
      (afterDirectAttempt rt policy s call outcome env) := by
  unfold afterDirectAttempt
  by_cases hacked : outcome = .acked true
  · rw [if_pos hacked]
    exact .save (evolves_upsertReceipt (by simp [deliveryReceipt])) rfl rfl rfl .none rfl
  · rw [if_neg hacked]
    exact queueDelivery_effect rfl rfl

theorem deliverToConnector_effect {input : RelayDeliveryInput} :
    Effect rt policy env (some (.deliverToConnector input)) env.nowMs (s.loadQueueState env.nowMs).1 (s.loadQueueState env.nowMs).2
      (s.loadQueueState env.nowMs).2.cores (deliverToConnector rt policy s input env) := by
  unfold deliverToConnector
  cases hexisting : existingReceipt (s.loadQueueState env.nowMs).2 input env.nowMs with
  | some receipt =>
      simp only [hexisting]
      refine .answer rfl rfl rfl ?_
      intro id hid
      obtain ⟨hstate, rfl⟩ := queuedId_delivery.mp hid
      exact ⟨_, receipt, (Option.filter_eq_some_iff.mp hexisting).1, hstate, rfl⟩
  | none =>
      simp only [hexisting]
      by_cases hsend : 0 < env.sockets ∧
          (s.loadQueueState env.nowMs).1.pending < policy.maxInFlightDeliveries
      · rw [if_pos hsend]
        have hdirect : ∀ core, Source.direct input = .queue core →
            core ∈ (s.loadQueueState env.nowMs).2.cores := by
          intro core hcore
          cases hcore
        obtain ⟨hstored, hclock, hsends⟩ := sendDeliverFrame_sends (.direct input) hdirect
          (fun _ hinput => by cases hinput; rfl)
        exact .wait (.refl _) hstored hclock hsends rfl (.inr rfl) (fun _ hcore => hcore) rfl
      · rw [if_neg hsend]
        exact queueDelivery_effect rfl rfl

theorem recordDeliveryReceipt_effect {input : RelayReceiptRecordInput} :
    Effect rt policy env (some (.recordDeliveryReceipt input)) env.nowMs (s.loadQueueState env.nowMs).1 (s.loadQueueState env.nowMs).2
      (s.loadQueueState env.nowMs).2.cores (recordDeliveryReceipt rt policy s input env) := by
  have hstate : ∀ existing, (recordedReceipt rt policy existing input env).state ≠ .queued := by
    intro existing
    cases hstatus : input.status <;> simp [recordedReceipt, receiptState, hstatus]
  unfold recordDeliveryReceipt pushReceiptFrameToActiveSockets
  simp only
  split
  · exact .answer rfl rfl rfl (fun id hid => by cases hid)
  · split
    · split
      · exact .save (evolves_upsertReceipt (hstate _)) rfl rfl rfl .none rfl
      · rename_i frame hframe
        exact .save (evolves_upsertReceipt (hstate _)) rfl rfl rfl
          (.frames env.sockets rfl hframe) rfl
    · exact .save (evolves_upsertReceipt (hstate _)) rfl rfl rfl .none rfl

/-- **A call up to its first await**, after it has loaded the queue. -/
theorem handle_effect (rt : Runtime) (policy : RelayDeliveryPolicy) (s : Session)
    (request : Request) (env : Env) :
    Effect rt policy env (some request) env.nowMs (s.loadQueueState env.nowMs).1
      (s.loadQueueState env.nowMs).2 (s.loadQueueState env.nowMs).2.cores (handle rt policy s request env) := by
  cases request with
  | deliverToConnector input => exact deliverToConnector_effect
  | recordDeliveryReceipt input => exact recordDeliveryReceipt_effect
  | getDeliveryReceipt input => exact .answer rfl rfl rfl (fun id hid => by cases hid)
  | alarm => exact processQueueDeliveries_effect (.refl _)
  | drainQueueOnReconnect => exact processQueueDeliveries_effect (edits_due _ _ _).evolves
  | scheduleFromStorage => exact .answer rfl rfl rfl (fun id hid => by cases hid)

/-- What loading does. -/
theorem loadQueueState_spec (policy : RelayDeliveryPolicy) (s : Session) (nowMs : ℚ) :
    (s.loadQueueState nowMs).1.history = s.history ∧
      (s.loadQueueState nowMs).1.clock = s.clock ∧
      Evolves policy nowMs s.queue (s.loadQueueState nowMs).2 ∧
      ((s.loadQueueState nowMs).1.queue = s.queue ∨
        (s.loadQueueState nowMs).1.queue = (s.loadQueueState nowMs).2) := by
  have hprune := (edits_prune policy nowMs s.queue).evolves
  unfold Session.loadQueueState
  cases hp : (RelayQueueState.decode s.stored).prunes nowMs with
  | true =>
      simp only [hp, if_true]
      exact ⟨rfl, rfl, hprune, .inr (Session.queue_of_stored rfl)⟩
  | false =>
      simp only [hp, if_false, Bool.false_eq_true]
      exact ⟨trivial, trivial, hprune, .inl trivial⟩

/-! ## After an await -/

/-- The queue of a call with the attempt on its current delivery taken into account. -/
def Processing.attempted (call : Processing) (outcome : Outcome) : RelayQueueState :=
  if outcome = .acked true then call.before.append call.rest
  else call.before.append (call.current.tried :: call.rest)

theorem afterAttempt_evolves {call : Processing} {outcome : Outcome} {pending : ℕ}
    {random : ℕ → ℚ} :
    Evolves policy call.nowMs (call.attempted outcome)
      (afterAttempt rt policy pending call outcome random).queue := by
  unfold Processing.attempted
  by_cases hacked : outcome = .acked true
  · subst hacked
    rw [if_pos rfl]
    have hreceipt : (call.acceptedReceipt rt policy).state ≠ .queued := by
      simp [Processing.acceptedReceipt, deliveryReceipt]
    exact (evolves_upsertReceipt hreceipt).trans
      (edits_afterAttempt_acked rt policy pending call random).evolves
  · rw [if_neg hacked]
    exact (edits_afterAttempt rt policy pending call random hacked).evolves

/-- **A call after an await.** A direct delivery goes on with its snapshot, and the
loop with the queue in which the attempt is taken into account. -/
theorem proceed_effect {c : Call} {r : Session × Call} (h : proceed rt policy s env c = some r) :
    (∃ call outcome, c = .delivering call (.settled outcome) ∧
      Effect rt policy env (some (.deliverToConnector call.input)) call.nowMs s call.snapshot
        call.snapshot.cores r) ∨
    (∃ call outcome, c = .processing call (.settled outcome) ∧
      Effect rt policy env none call.nowMs
        { s with history := s.history.logAttempt call.current.toDeliveryCore outcome }
        (call.attempted outcome) call.loaded r) := by
  match c, h with
  | .delivering call (.settled outcome), h =>
      cases h
      exact .inl ⟨call, outcome, rfl, afterDirectAttempt_effect⟩
  | .processing call (.settled outcome), h =>
      cases h
      exact .inr ⟨call, outcome, rfl,
        continueProcessing_effect afterAttempt_evolves fun _ hcore => hcore⟩

/-- The calls that wait for an answer to a frame. -/
theorem settle_cases {c : Call} {outcome : Outcome} {r : Session × Call}
    (h : settle s outcome c = some r) :
    (∃ call, c = .delivering call .waiting ∧
      r = ({ s with pending := s.pending - 1 }, .delivering call (.settled outcome))) ∨
    (∃ call, c = .processing call .waiting ∧
      r = ({ s with pending := s.pending - 1 }, .processing call (.settled outcome))) := by
  cases c with
  | delivering call await =>
      cases await with
      | waiting => exact .inl ⟨call, rfl, (Option.some.inj h).symm⟩
      | settled _ => cases h
  | processing call await =>
      cases await with
      | waiting => exact .inr ⟨call, rfl, (Option.some.inj h).symm⟩
      | settled _ => cases h
  | _ => cases h

/-- The answer to a frame only marks the call as settled. -/
theorem settle_spec {c : Call} {outcome : Outcome} {r : Session × Call}
    (h : settle s outcome c = some r) :
    r.1.stored = s.stored ∧ r.1.clock = s.clock ∧ r.1.history = s.history ∧
      r.2.queue = c.queue ∧ r.2.loaded = c.loaded ∧ r.2.nowMs = c.nowMs ∧ r.2.queuedId = none ∧
      r.2.request = c.request := by
  obtain ⟨call, rfl, rfl⟩ | ⟨call, rfl, rfl⟩ := settle_cases h
  · exact ⟨rfl, rfl, rfl, rfl, rfl, rfl, rfl, rfl⟩
  · exact ⟨rfl, rfl, rfl, rfl, rfl, rfl, rfl, rfl⟩

theorem tick_spec {t : Session} (h : s.tick nowMs = some t) :
    s.clock ≤ t.clock ∧ t.clock = nowMs ∧ t.history = s.history ∧ t.queue = s.queue := by
  unfold Session.tick at h
  by_cases hle : s.clock ≤ nowMs
  · rw [if_pos hle] at h
    cases h
    exact ⟨hle, rfl, rfl, rfl⟩
  · rw [if_neg hle] at h
    cases h

end

end Clawdentity.Relay
