import Clawdentity.Proxy.Relay.Idempotence
import Clawdentity.Proxy.Relay.QueueLoop
import Clawdentity.Proxy.Relay.Representation
import Mathlib.Algebra.Order.BigOperators.Group.List

/-!
# How often a delivery is attempted

The attempts on a delivery are counted in two places: the direct attempt of
`deliverToConnector` is the count with which the delivery is queued, and the loop of the
queue counts its own. In runs without overlap every count is stored before the queue is
loaded again, so the attempts that were made and those that the stored count still allows
never add up to more than the policy allows.

## Main definitions

* `attemptsOn` — the attempts that have been made on a delivery.
* `spare` — the attempts that the counts in a queue still allow.
* `Tracked` — the invariant of the queue that the session works on.
* `relay_queue_attempts` — the bound in every run, and the loop for any answers.
-/

namespace Clawdentity.Relay

open Js Lib Connector Lib.Interleave Lib.Run

/-! ## Attempts -/

/-- The attempts on a queued delivery that were answered. -/
def History.attempts (h : History) (core : DeliveryCore) : ℕ :=
  h.failed.count core + h.accepted.count core

/-- The call waits at an attempt on the delivery. -/
def Call.attempting (core : DeliveryCore) : Call → Bool
  | .processing call _ => decide (call.current.toDeliveryCore = core)
  | _ => false

/-- The attempts on a queued delivery: those that were answered, its direct one among them, and
those that are waiting. -/
def attemptsOn (p : Pool Session Call) (core : DeliveryCore) : ℕ :=
  p.shared.history.attempts core + p.calls.countP (Call.attempting core)

/-- The attempts on a delivery that the counts still allow. -/
def spare (policy : RelayDeliveryPolicy) (core : DeliveryCore) (l : List (DeliveryCore × ℕ)) : ℕ :=
  (l.map fun x => if x.1 = core then policy.retryMaxAttempts - x.2 else 0).sum

/-- The ids of the deliveries that were queued. -/
def History.queuedIds (h : History) : List JsString := h.queuedCores.map (·.deliveryId)

/-- The invariant of the queue that the session works on: no delivery is attempted more often
than its counts allow, and the ids of the deliveries are different ones that were drawn. -/
structure Tracked (policy : RelayDeliveryPolicy) (drawn : List JsString) (h : History)
    (q : RelayQueueState) : Prop where
  bound : ∀ core, h.attempts core + spare policy core q.counted ≤
    policy.retryMaxAttempts * h.queuedCores.count core
  left : ∀ x ∈ q.counted, x.2 < policy.retryMaxAttempts
  distinct : h.queuedIds.Nodup
  drawn : ∀ id ∈ h.queuedIds, id ∈ drawn

/-- The queue of a call is tracked; one that has returned leaves the stored queue. -/
def CallTracked (policy : RelayDeliveryPolicy) (drawn : List JsString) (s : Session) : Call → Prop
  | .delivering call _ => Tracked policy drawn s.history s.queue ∧ call.snapshot = s.queue ∧
      call.deliveryId ∈ drawn ∧ call.deliveryId ∉ s.history.queuedIds
  | .processing call _ => Tracked policy drawn s.history call.queue
  | .returned _ => Tracked policy drawn s.history s.queue

/-- At most one call has not returned, and its queue, or else the stored one, is tracked. -/
structure PoolTracked (policy : RelayDeliveryPolicy) (drawn : List JsString)
    (p : Pool Session Call) : Prop where
  stored : (∀ c ∈ p.calls, c.isReturned = true) → Tracked policy drawn p.shared.history
    p.shared.queue
  calls : ∀ c ∈ p.calls, c.isReturned = false → CallTracked policy drawn p.shared c
  alone : p.calls.countP (fun c => !c.isReturned) ≤ 1

section
variable {rt : Runtime} {policy : RelayDeliveryPolicy} {drawn drawn' : List JsString}
  {h h' : History} {q q' : RelayQueueState} {nowMs : ℚ} {env : Env} {s : Session}
  {core : DeliveryCore}

/-! ## The counts of a queue -/

@[simp] theorem spare_append (l l' : List (DeliveryCore × ℕ)) :
    spare policy core (l ++ l') = spare policy core l + spare policy core l' := by
  simp [spare]

@[simp] theorem spare_cons (x : DeliveryCore × ℕ) (l : List (DeliveryCore × ℕ)) :
    spare policy core (x :: l) =
      (if x.1 = core then policy.retryMaxAttempts - x.2 else 0) + spare policy core l := by
  simp [spare]

@[simp] theorem spare_nil : spare policy core [] = 0 := rfl

theorem spare_le {l l' : List (DeliveryCore × ℕ)} (hl : l.Subperm l') :
    spare policy core l ≤ spare policy core l' := by
  obtain ⟨k, hperm, hsub⟩ := hl
  unfold spare
  rw [← (hperm.map _).sum_eq]
  exact (hsub.map _).sum_le_sum fun _ _ => Nat.zero_le _

/-- **The code adds nothing to a queue that it edits**, not even a second copy. -/
theorem Edits.subperm (he : Edits policy nowMs q q') : q'.counted.Subperm q.counted := by
  induction he with
  | retime hcounted hreceipts => exact hcounted.subperm
  | drop hx hcounted hreceipts =>
      exact (List.sublist_cons_self _ _).subperm.trans hcounted.symm.subperm
  | expire hlive => exact .refl _
  | trans _ _ ih ih' => exact ih'.trans ih

theorem Tracked.shrink (hq : Tracked policy drawn h q) (hsub : q'.counted.Subperm q.counted) :
    Tracked policy drawn h q' where
  bound core := (Nat.add_le_add_left (spare_le hsub) _).trans (hq.bound core)
  left x hx := hq.left x (hsub.subset hx)
  distinct := hq.distinct
  drawn := hq.drawn

theorem Tracked.mono (hq : Tracked policy drawn h q) (hmono : ∀ id ∈ drawn, id ∈ drawn') :
    Tracked policy drawn' h q :=
  ⟨hq.bound, hq.left, hq.distinct, fun id hid => hmono id (hq.drawn id hid)⟩

/-! ## The logs -/

/-- The same deliveries were queued, and the same attempts answered. -/
structure SameLogs (h h' : History) : Prop where
  queued : h'.queued = h.queued
  accepted : h'.accepted = h.accepted
  failed : h'.failed = h.failed

theorem SameLogs.refl (h : History) : SameLogs h h := ⟨rfl, rfl, rfl⟩

theorem SameLogs.queuedCores (hsame : SameLogs h h') : h'.queuedCores = h.queuedCores := by
  rw [History.queuedCores, History.queuedCores, hsame.queued]

theorem SameLogs.queuedIds (hsame : SameLogs h h') : h'.queuedIds = h.queuedIds := by
  rw [History.queuedIds, History.queuedIds, hsame.queuedCores]

theorem Tracked.logs (hq : Tracked policy drawn h q) (hsame : SameLogs h h') :
    Tracked policy drawn h' q := by
  have hattempts : h'.attempts = h.attempts := by
    funext core
    rw [History.attempts, History.attempts, hsame.accepted, hsame.failed]
  have hcores := hsame.queuedCores
  have hids := hsame.queuedIds
  refine ⟨?_, hq.left, hids ▸ hq.distinct, hids ▸ hq.drawn⟩
  rw [hattempts, hcores]
  exact hq.bound

theorem sendDeliverFrame_logs (rt : Runtime) (policy : RelayDeliveryPolicy) (s : Session)
    (source : Source) (input : RelayDeliveryInput) (env : Env) :
    SameLogs s.history (sendDeliverFrame rt policy s source input env).1.history := by
  unfold sendDeliverFrame
  split
  · exact .refl _
  · split
    · exact .refl _
    · split
      · exact .refl _
      · exact ⟨rfl, rfl, rfl⟩

theorem continueProcessing_logs (rt : Runtime) (policy : RelayDeliveryPolicy) (s : Session)
    (loaded : List DeliveryCore) (env : Env) (exit : LoopExit) :
    SameLogs s.history (continueProcessing rt policy s nowMs loaded env exit).1.history := by
  cases exit with
  | finished queue mutated => cases mutated <;> exact ⟨rfl, rfl, rfl⟩
  | attempt before current rest mutated => exact sendDeliverFrame_logs _ _ _ _ _ _

theorem processQueueDeliveries_logs (rt : Runtime) (policy : RelayDeliveryPolicy) (s : Session)
    (queue : RelayQueueState) (mutated : Bool) (env : Env) :
    SameLogs s.history (processQueueDeliveries rt policy s queue mutated env).1.history := by
  have hfinish : ∀ (queue : RelayQueueState) (mutated : Bool),
      SameLogs s.history (finishProcessing s queue env.nowMs mutated env).1.history := by
    intro queue mutated
    cases mutated <;> exact ⟨rfl, rfl, rfl⟩
  unfold processQueueDeliveries
  split
  · exact hfinish _ _
  · split
    · exact hfinish _ _
    · exact continueProcessing_logs _ _ _ _ _ _

/-! ## The pieces of code -/

/-- The stored queue is loaded, and stored again where it was pruned. -/
theorem Tracked.load (hs : Tracked policy drawn s.history s.queue) (nowMs : ℚ) :
    Tracked policy drawn (s.loadQueueState nowMs).1.history (s.loadQueueState nowMs).1.queue ∧
      (s.loadQueueState nowMs).2 = (s.loadQueueState nowMs).1.queue := by
  have hqueue := loaded_queue s nowMs
  refine ⟨?_, hqueue.symm⟩
  rw [(loadQueueState_spec policy s nowMs).1, hqueue]
  exact hs.shrink (edits_prune policy nowMs s.queue).subperm

/-- `processQueueDeliveries` keeps its queue tracked. -/
theorem Processed.tracked {r : Session × Call} (he : Processed policy env nowMs s q r)
    (hq : Tracked policy drawn s.history q) (hlogs : SameLogs s.history r.1.history) :
    CallTracked policy drawn r.1 r.2 := by
  cases he with
  | saved hedits hstored halarm hclock =>
      rw [CallTracked, Session.queue_of_stored hstored]
      exact (hq.shrink hedits.subperm).logs hlogs
  | @unsaved s' response q' hloaded hperm hstored halarm hclock =>
      have hqueue : s'.queue = q := by rw [Session.queue, hstored, ← hloaded, Session.queue]
      rw [CallTracked, hqueue]
      exact hq.logs hlogs
  | waiting hedits hnow hstored halarm hclock => exact (hq.shrink hedits.subperm).logs hlogs

theorem attempts_logQueued (h : History) (input : RelayDeliveryInput) (core c : DeliveryCore)
    (n : ℕ) :
    (h.logQueued input core n).attempts c = h.attempts c + if core = c then n else 0 := by
  simp only [History.attempts, History.logQueued, List.count_append, List.count_replicate,
    beq_iff_eq]
  omega

theorem attempts_logAttempt (h : History) (core c : DeliveryCore) (outcome : Outcome) :
    (h.logAttempt core outcome).attempts c = h.attempts c + if core = c then 1 else 0 := by
  unfold History.logAttempt
  split <;> simp only [History.attempts, History.logAccepted, History.logFailed,
    List.count_append, List.count_singleton, beq_iff_eq] <;> omega

theorem queuedIds_logQueued (h : History) (input : RelayDeliveryInput) (core : DeliveryCore)
    (n : ℕ) : (h.logQueued input core n).queuedIds = h.queuedIds ++ [core.deliveryId] := by
  simp [History.queuedIds, History.queuedCores, History.logQueued]

/-- A delivery is queued with its direct attempt counted. -/
theorem Tracked.push {input : RelayDeliveryInput} {d : QueuedRelayDelivery}
    {receipt : RelayDeliveryReceipt} (hq : Tracked policy drawn h q)
    (hleft : d.attemptCount < policy.retryMaxAttempts) (hdrawn : d.deliveryId ∈ drawn)
    (hnew : d.deliveryId ∉ h.queuedIds) :
    Tracked policy drawn (h.logQueued input d.toDeliveryCore d.attemptCount)
      ((q.append [d]).upsertReceipt receipt) where
  bound core := by
    have hbound := hq.bound core
    have hcores : (h.logQueued input d.toDeliveryCore d.attemptCount).queuedCores =
        h.queuedCores ++ [d.toDeliveryCore] := by
      simp [History.queuedCores, History.logQueued]
    simp only [attempts_logQueued, hcores, RelayQueueState.upsertReceipt_counted,
      RelayQueueState.append_counted, List.map_cons, List.map_nil, spare_append, spare_cons,
      spare_nil, List.count_append, List.count_singleton, beq_iff_eq, Nat.mul_add]
    by_cases hcore : d.toDeliveryCore = core
    · simp only [if_pos hcore]
      omega
    · simp only [if_neg hcore]
      omega
  left x hx := by
    simp only [RelayQueueState.upsertReceipt_counted, RelayQueueState.append_counted,
      List.map_cons, List.map_nil, List.mem_append, List.mem_singleton] at hx
    rcases hx with hx | rfl
    · exact hq.left x hx
    · exact hleft
  distinct := by
    rw [queuedIds_logQueued]
    exact List.concat_eq_append ▸ hq.distinct.concat hnew
  drawn id hid := by
    rw [queuedIds_logQueued] at hid
    rcases List.mem_append.mp hid with hid | hid
    · exact hq.drawn id hid
    · rw [List.mem_singleton.mp hid]
      exact hdrawn

/-- **An attempt is counted**, or its delivery leaves the queue. -/
theorem Tracked.answered {call : Processing} (hq : Tracked policy drawn h call.queue)
    (outcome : Outcome) :
    Tracked policy drawn (h.logAttempt call.current.toDeliveryCore outcome)
      (call.answeredQueue rt policy outcome) := by
  have hcounted : call.queue.counted = call.before.counted ++ call.current.counted ::
      call.rest.map (·.counted) := RelayQueueState.append_counted _
  have hleft : call.current.attemptCount < policy.retryMaxAttempts := by
    refine hq.left call.current.counted ?_
    rw [hcounted]
    exact List.mem_append_right _ List.mem_cons_self
  have hlogs : (h.logAttempt call.current.toDeliveryCore outcome).queuedCores = h.queuedCores :=
    queuedCores_logAttempt
  have hids : (h.logAttempt call.current.toDeliveryCore outcome).queuedIds = h.queuedIds := by
    rw [History.queuedIds, hlogs, History.queuedIds]
  -- The delivery goes, or it stays with one attempt more.
  have hgone : ∀ q' : RelayQueueState,
      q'.counted = call.before.counted ++ call.rest.map (·.counted) →
      Tracked policy drawn (h.logAttempt call.current.toDeliveryCore outcome) q' := by
    intro q' hq'
    refine ⟨fun core => ?_, fun x hx => hq.left x ?_, hids ▸ hq.distinct, hids ▸ hq.drawn⟩
    · have hbound := hq.bound core
      simp only [hcounted, spare_append, spare_cons, QueuedRelayDelivery.counted] at hbound
      simp only [attempts_logAttempt, hlogs, hq', spare_append, QueuedRelayDelivery.counted]
      by_cases hcore : call.current.toDeliveryCore = core
      · simp only [if_pos hcore] at hbound ⊢
        omega
      · simp only [if_neg hcore] at hbound ⊢
        omega
    · rw [hq'] at hx
      rw [hcounted]
      exact (List.mem_append.mp hx).elim (List.mem_append_left _)
        fun hx => List.mem_append_right _ (List.mem_cons_of_mem _ hx)
  unfold Processing.answeredQueue
  by_cases hacked : outcome = .acked true
  · rw [if_pos hacked]
    exact hgone _ (RelayQueueState.append_counted _)
  rw [if_neg hacked]
  by_cases hspent : policy.retryMaxAttempts ≤ call.current.attemptCount + 1
  · rw [if_pos hspent]
    refine hgone _ ?_
    rw [RelayQueueState.append_counted, RelayQueueState.deleteQueuedReceipt_counted]
    rfl
  rw [if_neg hspent]
  have htried : (call.before.append (call.current.tried :: call.rest)).counted =
      call.before.counted ++ (call.current.toDeliveryCore, call.current.attemptCount + 1) ::
        call.rest.map (·.counted) := RelayQueueState.append_counted _
  refine ⟨fun core => ?_, fun x hx => ?_, hids ▸ hq.distinct, hids ▸ hq.drawn⟩
  · have hbound := hq.bound core
    simp only [hcounted, spare_append, spare_cons, QueuedRelayDelivery.counted] at hbound
    simp only [attempts_logAttempt, hlogs, htried, spare_append, spare_cons,
      QueuedRelayDelivery.counted]
    by_cases hcore : call.current.toDeliveryCore = core
    · simp only [if_pos hcore] at hbound ⊢
      omega
    · simp only [if_neg hcore] at hbound ⊢
      omega
  · rw [htried] at hx
    rcases List.mem_append.mp hx with hx | hx
    · exact hq.left x (hcounted ▸ List.mem_append_left _ hx)
    · rcases List.mem_cons.mp hx with rfl | hx
      · exact not_le.mp hspent
      · exact hq.left x (hcounted ▸ List.mem_append_right _ (List.mem_cons_of_mem _ hx))

/-- A delivery is queued after its direct attempt, if it had one. -/
theorem queueDelivery_tracked {call : Delivering} {priorAttempts : ℕ}
    (hs : Tracked policy drawn s.history s.queue) (hsnapshot : call.snapshot = s.queue)
    (hdrawn : call.deliveryId ∈ drawn) (hnew : call.deliveryId ∉ s.history.queuedIds) :
    CallTracked policy drawn (queueDelivery rt policy s call priorAttempts env).1
      (queueDelivery rt policy s call priorAttempts env).2 := by
  unfold queueDelivery
  by_cases hspent : policy.retryMaxAttempts ≤ priorAttempts
  · rw [if_pos hspent]
    exact hs
  rw [if_neg hspent]
  by_cases hfull : policy.queueMaxMessagesPerAgent ≤ call.snapshot.deliveries.length
  · rw [if_pos hfull]
    exact hs
  rw [if_neg hfull]
  rw [CallTracked, Session.queue_of_stored rfl, hsnapshot]
  exact hs.push (not_le.mp hspent) hdrawn hnew

theorem afterDirectAttempt_tracked {call : Delivering} {outcome : Outcome}
    (hs : Tracked policy drawn s.history s.queue) (hsnapshot : call.snapshot = s.queue)
    (hdrawn : call.deliveryId ∈ drawn) (hnew : call.deliveryId ∉ s.history.queuedIds) :
    CallTracked policy drawn (afterDirectAttempt rt policy s call outcome env).1
      (afterDirectAttempt rt policy s call outcome env).2 := by
  unfold afterDirectAttempt
  by_cases hacked : outcome = .acked true
  · rw [if_pos hacked, CallTracked, Session.queue_of_stored rfl, hsnapshot]
    exact hs.shrink (.refl _)
  · rw [if_neg hacked]
    exact queueDelivery_tracked hs hsnapshot hdrawn hnew

theorem deliverToConnector_tracked {input : RelayDeliveryInput}
    (hs : Tracked policy drawn s.history s.queue) (hdrawn : env.ulid ∈ drawn)
    (hnew : env.ulid ∉ s.history.queuedIds) :
    CallTracked policy drawn (deliverToConnector rt policy s input env).1
      (deliverToConnector rt policy s input env).2 := by
  obtain ⟨hloaded, hqueue⟩ := hs.load env.nowMs
  have hhistory := (loadQueueState_spec policy s env.nowMs).1
  unfold deliverToConnector
  cases hexisting : existingReceipt (s.loadQueueState env.nowMs).2 input env.nowMs with
  | some receipt =>
      simp only [hexisting]
      exact hloaded
  | none =>
      simp only [hexisting]
      split
      · obtain ⟨hstored, _, _⟩ := sendDeliverFrame_unchanged rt policy
          (s.loadQueueState env.nowMs).1 (.direct input) input env
        have hlogs := sendDeliverFrame_logs rt policy (s.loadQueueState env.nowMs).1
          (.direct input) input env
        refine ⟨?_, ?_, hdrawn, ?_⟩
        · rw [Session.queue, hstored]
          exact hloaded.logs hlogs
        · rw [Session.queue, hstored]
          exact hqueue
        · rw [hlogs.queuedIds, hhistory]
          exact hnew
      · exact queueDelivery_tracked hloaded hqueue hdrawn (hhistory ▸ hnew)

theorem recordDeliveryReceipt_tracked {input : RelayReceiptRecordInput}
    (hs : Tracked policy drawn s.history s.queue) :
    CallTracked policy drawn (recordDeliveryReceipt rt policy s input env).1
      (recordDeliveryReceipt rt policy s input env).2 := by
  obtain ⟨hloaded, hqueue⟩ := hs.load env.nowMs
  have hsaved : Tracked policy drawn (s.loadQueueState env.nowMs).1.history
      ((s.loadQueueState env.nowMs).2.upsertReceipt (recordedReceipt rt policy
        ((s.loadQueueState env.nowMs).2.receipts.lookup input.requestId) input env)) := by
    rw [hqueue]
    exact hloaded.shrink (.refl _)
  unfold recordDeliveryReceipt pushReceiptFrameToActiveSockets
  simp only
  split
  · exact hloaded
  · split
    · split
      · rw [CallTracked, Session.queue_of_stored rfl]
        exact hsaved
      · rw [CallTracked, Session.queue_of_stored rfl]
        exact hsaved.logs ⟨rfl, rfl, rfl⟩
    · rw [CallTracked, Session.queue_of_stored rfl]
      exact hsaved

/-- **A call up to its first await.** -/
theorem handle_tracked (rt : Runtime) {request : Request}
    (hs : Tracked policy drawn s.history s.queue)
    (hdrawn : ∀ id ∈ drawnUlid (.start (request, env)), id ∈ drawn ∧ id ∉ s.history.queuedIds) :
    CallTracked policy drawn (handle rt policy s request env).1
      (handle rt policy s request env).2 := by
  obtain ⟨hloaded, hqueue⟩ := hs.load env.nowMs
  cases request with
  | deliverToConnector input =>
      obtain ⟨hid, hnew⟩ := hdrawn env.ulid rfl
      exact deliverToConnector_tracked hs hid hnew
  | recordDeliveryReceipt input => exact recordDeliveryReceipt_tracked hs
  | getDeliveryReceipt input => exact hloaded
  | alarm =>
      exact (alarm_processed rt policy s env).tracked (hqueue ▸ hloaded)
        (processQueueDeliveries_logs rt policy _ _ _ env)
  | drainQueueOnReconnect =>
      exact (drainQueueOnReconnect_processed rt policy s env).tracked (hqueue ▸ hloaded)
        (processQueueDeliveries_logs rt policy _ _ _ env)
  | scheduleFromStorage => exact hloaded

/-- **A call after an await.** -/
theorem proceed_tracked {c : Call} {r : Session × Call} (hc : CallTracked policy drawn s c)
    (h : proceed rt policy s env c = some r) : CallTracked policy drawn r.1 r.2 := by
  match c, h with
  | .delivering call (.settled outcome), h =>
      cases h
      obtain ⟨hs, hsnapshot, hdrawn, hnew⟩ := hc
      exact afterDirectAttempt_tracked hs hsnapshot hdrawn hnew
  | .processing call (.settled outcome), h =>
      rcases proceed_exit h with ⟨call', outcome', hcall, -⟩ | ⟨call', outcome', hcall, he⟩
      · cases hcall
      · cases hcall
        refine he.tracked (hc.answered outcome) ?_
        cases h
        exact continueProcessing_logs rt policy _ _ env _

/-- A frame is answered. -/
theorem settle_tracked {c : Call} {outcome : Outcome} {r : Session × Call}
    (hc : CallTracked policy drawn s c) (h : settle s outcome c = some r) :
    CallTracked policy drawn r.1 r.2 := by
  match c, h with
  | .delivering call .waiting, h =>
      cases h
      exact hc
  | .processing call .waiting, h =>
      cases h
      exact hc

theorem CallTracked.tick {t : Session} {c : Call} (hc : CallTracked policy drawn s c)
    (h : s.tick nowMs = some t) : CallTracked policy drawn t c := by
  obtain ⟨_, _, hhistory, hqueue⟩ := tick_spec h
  cases c with
  | delivering call await => rwa [CallTracked, hhistory, hqueue]
  | processing call await => rwa [CallTracked, hhistory]
  | returned response => rwa [CallTracked, hhistory, hqueue]

theorem resume_tracked {c : Call} {choice : Choice} {r : Session × Call}
    (hc : CallTracked policy drawn s c) (h : (program rt policy).resume s c choice = some r) :
    CallTracked policy drawn r.1 r.2 := by
  cases choice with
  | settle outcome => exact settle_tracked hc h
  | proceed env =>
      obtain ⟨t, htick, hproceed⟩ := Option.bind_eq_some_iff.mp h
      exact proceed_tracked (hc.tick htick) hproceed

theorem CallTracked.mono {c : Call} (hc : CallTracked policy drawn s c)
    (hmono : ∀ id ∈ drawn, id ∈ drawn') : CallTracked policy drawn' s c := by
  cases c with
  | delivering call await => exact ⟨hc.1.mono hmono, hc.2.1, hmono _ hc.2.2.1, hc.2.2.2⟩
  | processing call await => exact Tracked.mono hc hmono
  | returned response => exact Tracked.mono hc hmono

/-- Of the calls of a list with at most one that waits, any two that wait are the same. -/
theorem eq_of_waiting {calls : List Call} {c d : Call}
    (hcount : calls.countP (fun c => !c.isReturned) ≤ 1) (hc : c ∈ calls) (hd : d ∈ calls)
    (hcwaits : c.isReturned = false) (hdwaits : d.isReturned = false) : d = c := by
  have hlength : (calls.filter fun c => !c.isReturned).length ≤ 1 :=
    List.countP_eq_length_filter ▸ hcount
  have hc' : c ∈ calls.filter fun c => !c.isReturned := List.mem_filter.mpr ⟨hc, by simp [hcwaits]⟩
  have hd' : d ∈ calls.filter fun c => !c.isReturned := List.mem_filter.mpr ⟨hd, by simp [hdwaits]⟩
  obtain ⟨e, he⟩ := List.length_eq_one_iff.mp
    (le_antisymm hlength (List.length_pos_iff.mpr (List.ne_nil_of_mem hc')))
  rw [he, List.mem_singleton] at hc' hd'
  rw [hc', hd']

/-- **The pool after the one call that runs.** -/
theorem PoolTracked.of_calls {p : Pool Session Call} {c : Call}
    (hc : CallTracked policy drawn p.shared c) (hmem : c ∈ p.calls)
    (halone : p.calls.countP (fun c => !c.isReturned) ≤ 1)
    (hothers : ∀ d ∈ p.calls, d.isReturned = false → d = c) :
    PoolTracked policy drawn p where
  stored hall := by
    cases c with
    | delivering call await => exact absurd (hall _ hmem) (by simp [Call.isReturned])
    | processing call await => exact absurd (hall _ hmem) (by simp [Call.isReturned])
    | returned response => exact hc
  calls d hd hwaits := hothers d hd hwaits ▸ hc
  alone := halone

/-- **One move.** -/
theorem poolTracked_step {p p' : Pool Session Call} {e : Move (Request × Env) Choice}
    (hp : PoolTracked policy drawn p) (halone : Alone p e) (hnew : ∀ id ∈ drawnUlid e, id ∉ drawn)
    (hstep : (program rt policy).step p e = some p') :
    PoolTracked policy (drawn ++ (drawnUlid e).toList) p' := by
  have hmore : ∀ id ∈ drawn, id ∈ drawn ++ (drawnUlid e).toList :=
    fun id hid => List.mem_append_left _ hid
  rcases Program.step_cases hstep with
    ⟨⟨request, env⟩, s', c', rfl, hstart, rfl⟩ | ⟨i, choice, c, s', c', rfl, hi, hresume, rfl⟩
  · obtain ⟨t, htick, hhandle⟩ := Option.map_eq_some_iff.mp hstart
    obtain ⟨_, _, hhistory, hqueue⟩ := tick_spec htick
    have ht : Tracked policy drawn t.history t.queue := by
      rw [hhistory, hqueue]
      exact hp.stored halone
    have hc' : CallTracked policy (drawn ++ (drawnUlid (.start (request, env))).toList) s' c' := by
      have := handle_tracked rt (ht.mono hmore) fun id hid =>
        ⟨List.mem_append_right _ (Option.mem_toList.mpr hid),
          fun hmem => hnew id hid (ht.drawn id hmem)⟩
      rwa [hhandle] at this
    refine .of_calls hc' (List.mem_append_right _ List.mem_cons_self) ?_ ?_
    · have hnone : p.calls.countP (fun c => !c.isReturned) = 0 := by
        rw [List.countP_eq_zero]
        intro c hc
        simp [halone c hc]
      rw [List.countP_append, hnone, Nat.zero_add]
      exact List.countP_le_length
    · intro d hd hwaits
      rcases List.mem_append.mp hd with hd | hd
      · rw [halone d hd] at hwaits
        cases hwaits
      · exact List.mem_singleton.mp hd
  · have hwaited := not_returned_of_resume hresume
    have hc' := (resume_tracked (hp.calls c (List.mem_of_getElem? hi) hwaited) hresume).mono hmore
    have hcount := countP_set_add (fun c => !c.isReturned) c' hi
    have hle := hp.alone
    simp only [hwaited, Bool.not_false, if_true] at hcount
    have hmem : c' ∈ p.calls.set i c' := mem_set_self hi
    refine .of_calls hc' hmem ?_ ?_
    · change (p.calls.set i c').countP (fun c => !c.isReturned) ≤ 1
      split at hcount <;> omega
    · intro d hd hwaits
      cases hreturned : c'.isReturned with
      | true =>
          have hzero : (p.calls.set i c').countP (fun c => !c.isReturned) = 0 := by
            simp only [hreturned, Bool.not_true, Bool.false_eq_true, if_false] at hcount
            omega
          exact absurd hwaits (by simpa using List.countP_eq_zero.mp hzero d hd)
      | false =>
          simp only [hreturned, Bool.not_false, if_true] at hcount
          exact eq_of_waiting (by omega) hmem hd hreturned hwaits

theorem poolTracked_idle : PoolTracked policy [] idle where
  stored _ := by
    refine ⟨fun core => ?_, fun x hx => absurd hx List.not_mem_nil, List.nodup_nil,
      fun id hid => absurd hid List.not_mem_nil⟩
    exact Nat.zero_le _
  calls c hc := absurd hc List.not_mem_nil
  alone := Nat.zero_le 1

/-- **Every run** without overlap in which every ULID is drawn once. -/
theorem run_poolTracked {moves : List (Move (Request × Env) Choice)} {p : Pool Session Call}
    (hdrawn : (moves.filterMap drawnUlid).Nodup)
    (halone : AllSteps (program rt policy).step Alone idle moves)
    (hrun : exec (program rt policy).step idle moves = some p) :
    PoolTracked policy (moves.filterMap drawnUlid) p := by
  refine (exec_invariant_events (fun past p => exec (program rt policy).step idle past = some p ∧
    ((past.filterMap drawnUlid).Nodup → AllSteps (program rt policy).step Alone idle past →
      PoolTracked policy (past.filterMap drawnUlid) p)) ?_
    ⟨rfl, fun _ _ => poolTracked_idle⟩ hrun).2 hdrawn halone
  rintro past p e p' ⟨hpast, hp⟩ hstep
  refine ⟨by rw [exec_append, hpast]; simp [exec, hstep], fun hnodup hall => ?_⟩
  have hmore : (past ++ [e]).filterMap drawnUlid =
      past.filterMap drawnUlid ++ (drawnUlid e).toList := by
    rw [List.filterMap_append]
    cases hdraw : drawnUlid e <;> simp [hdraw]
  rw [hmore] at hnodup ⊢
  obtain ⟨hpastNodup, _, hdisjoint⟩ := List.nodup_append.mp hnodup
  obtain ⟨hpastAlone, hlast⟩ := allSteps_append.mp hall
  refine poolTracked_step (hp hpastNodup hpastAlone) (hlast p hpast).1 ?_ hstep
  intro id hid hmem
  exact hdisjoint id hmem id (Option.mem_toList.mpr hid) rfl

/-- Some queue of the pool is tracked. -/
theorem PoolTracked.exists_tracked {p : Pool Session Call} (hp : PoolTracked policy drawn p) :
    ∃ q, Tracked policy drawn p.shared.history q := by
  by_cases hall : ∀ c ∈ p.calls, c.isReturned = true
  · exact ⟨_, hp.stored hall⟩
  · push Not at hall
    obtain ⟨c, hc, hwaits⟩ := hall
    have htracked := hp.calls c hc (by simpa using hwaits)
    cases c with
    | delivering call await => exact ⟨_, htracked.1⟩
    | processing call await => exact ⟨_, htracked⟩
    | returned response => exact ⟨_, htracked⟩

/-- The attempts on a delivery of a tracked pool. -/
theorem PoolTracked.attemptsOn_le {p : Pool Session Call} (hp : PoolTracked policy drawn p)
    (core : DeliveryCore) : attemptsOn p core ≤
      policy.retryMaxAttempts * p.shared.history.queuedCores.count core := by
  have hattempting : ∀ c ∈ p.calls, Call.attempting core c = true → c.isReturned = false := by
    intro c _ hc
    cases c with
    | returned response => cases hc
    | delivering call await => rfl
    | processing call await => rfl
  have hcount : p.calls.countP (Call.attempting core) ≤ p.calls.countP (fun c => !c.isReturned) :=
    List.countP_mono_left fun c hc hattempt => by simp [hattempting c hc hattempt]
  have halone := hp.alone
  by_cases hsome : ∃ c ∈ p.calls, Call.attempting core c = true
  · obtain ⟨c, hc, hattempt⟩ := hsome
    have htracked := hp.calls c hc (hattempting c hc hattempt)
    cases c with
    | returned response => cases hattempt
    | delivering call await => cases hattempt
    | processing call await =>
        have hcore : call.current.toDeliveryCore = core := of_decide_eq_true hattempt
        have hbound := htracked.bound core
        have hleft := htracked.left call.current.counted (by
          rw [Processing.queue, RelayQueueState.append_counted]
          exact List.mem_append_right _ List.mem_cons_self)
        rw [Processing.queue, RelayQueueState.append_counted, List.map_cons, spare_append,
          spare_cons, if_pos hcore] at hbound
        simp only [QueuedRelayDelivery.counted] at hleft
        unfold attemptsOn
        omega
  · have hnone : p.calls.countP (Call.attempting core) = 0 :=
      List.countP_eq_zero.mpr fun c hc hattempt => hsome ⟨c, hc, hattempt⟩
    obtain ⟨q, hq⟩ := hp.exists_tracked
    rw [attemptsOn, hnone, Nat.add_zero]
    exact (Nat.le_add_right _ _).trans (hq.bound core)

/-- A delivery is queued once. -/
theorem Tracked.count_le (hq : Tracked policy drawn h q) (core : DeliveryCore) :
    h.queuedCores.count core ≤ 1 :=
  List.nodup_iff_count_le_one.mp (List.Nodup.of_map _ hq.distinct) core

/-- **The attempts on a delivery, and the loop of the queue.** In every run without overlap in
which every ULID is drawn once, a queued delivery is attempted at most as often as the policy
says, its direct attempt included. And whatever the queue, the number of frames in flight and
the answers of the connector, the loop ends after at most one answer for each entry: it goes
through the queue in its order, attempts each entry that it comes to once if it is due, not
expired and not out of attempts, and not otherwise, takes out those that were accepted, are
expired or out of attempts, and keeps the others; the entries that it does not come to, where
it gives up, all stay. -/
theorem relay_queue_attempts (rt : Runtime) (policy : RelayDeliveryPolicy) :
    (∀ (moves : List (Move (Request × Env) Choice)) (p : Pool Session Call),
      (moves.filterMap drawnUlid).Nodup → AllSteps (program rt policy).step Alone idle moves →
      exec (program rt policy).step idle moves = some p →
      ∀ core ∈ p.shared.history.queuedCores, attemptsOn p core ≤ policy.retryMaxAttempts) ∧
    ∀ (nowMs : ℚ) (pending : ℕ) (mutated : Bool) (queue : RelayQueueState)
      (answers : List Answer), queue.deliveries.length ≤ answers.length →
      ∃ queue' mutated' log visited unvisited,
        runLoop rt policy nowMs (startLoop policy nowMs pending mutated queue) answers =
          (.finished queue' mutated', log) ∧
        Passed policy nowMs (queue.deliveries.mergeSort attemptOrder) queue' log visited
          unvisited ∧
        (unvisited = [] ∨ GivesUp policy pending log) ∧ log.map (·.2) <+: answers := by
  refine ⟨fun moves p hdrawn halone hrun core _ => ?_, runLoop_finished rt policy⟩
  have hp := run_poolTracked hdrawn halone hrun
  obtain ⟨q, hq⟩ := hp.exists_tracked
  calc attemptsOn p core ≤ policy.retryMaxAttempts * p.shared.history.queuedCores.count core :=
        hp.attemptsOn_le core
    _ ≤ policy.retryMaxAttempts * 1 := Nat.mul_le_mul_left _ (hq.count_le core)
    _ = policy.retryMaxAttempts := Nat.mul_one _

end

/-! ### A queue that is full of frames in flight -/

/-- A delivery that was queued an hour before. -/
def exampleExpired : QueuedRelayDelivery :=
  queuedDelivery defaultPolicy (exampleInput "01HF7YAT00W6W7CM7N3W5FDXR0" none)
    (js "01HF7YAT00W6W7CM7N3W5FDXD0") 1700000000000 0 (1 / 2)

/-- **The loop can leave an expired delivery in the queue**, where it gives up at once. -/
theorem not_relay_queue_attempts :
    ¬ ∀ (rt : Runtime) (policy : RelayDeliveryPolicy) (nowMs : ℚ) (pending : ℕ) (mutated : Bool)
      (queue : RelayQueueState) (answers : List Answer) (queue' : RelayQueueState)
      (mutated' : Bool) (log : LoopLog),
      runLoop rt policy nowMs (startLoop policy nowMs pending mutated queue) answers =
        (.finished queue' mutated', log) →
      ∀ d ∈ queue'.deliveries, nowMs < d.expiresAtMs := by
  intro h
  have hloop : startLoop defaultPolicy 1700003600000 5 false ⟨[exampleExpired], .empty⟩ =
      .finished ⟨[exampleExpired], .empty⟩ false := by
    simp [startLoop, processLoop, defaultPolicy, RelayQueueState.append]
  have hkept := h exampleRuntime defaultPolicy 1700003600000 5 false ⟨[exampleExpired], .empty⟩ []
    ⟨[exampleExpired], .empty⟩ false [] (by rw [runLoop, hloop]; rfl) exampleExpired
    List.mem_cons_self
  exact absurd hkept (by decide +kernel)

/-- The second message of the example is queued with its direct attempt counted. -/
theorem exampleSequence_queued :
    ((exec (program exampleRuntime defaultPolicy).step idle exampleSequence).map fun p =>
      p.shared.history.queuedCores.map fun core => attemptsOn p core) = some [1] := by
  decide +kernel

theorem exampleSequence_attempts :
    ∃ p, exec (program exampleRuntime defaultPolicy).step idle exampleSequence = some p ∧
      ∀ core ∈ p.shared.history.queuedCores, attemptsOn p core ≤ 25 := by
  obtain ⟨p, hrun, _⟩ := Option.map_eq_some_iff.mp exampleSequence_queued
  exact ⟨p, hrun, (relay_queue_attempts exampleRuntime defaultPolicy).1 exampleSequence p
    (by decide) (by decide +kernel) hrun⟩

end Clawdentity.Relay
