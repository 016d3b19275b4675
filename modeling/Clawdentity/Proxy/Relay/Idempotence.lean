import Clawdentity.Proxy.Relay.NoLostDelivery
import Clawdentity.Proxy.Relay.Turns

/-!
# Repeated deliveries

A delivery that is requested again is answered from the receipt of the first request. The
receipts are filed by request id alone, while the check compares the sender and the
recipient too: a delivery of another sender under the same request id is not taken for a
repetition, and its receipt is written over the one that is there. `Undisturbed` is the
condition that this does not happen. Under it, and where the calls of a session do not
overlap, a receipt stays until it expires or the attempts on its delivery are used up.

## Main definitions

* `Coherent` — every queued delivery has its receipt, and is the only one of its request.
* `Remembers` — the receipt that answers a repeated delivery is there.
* `Alone`, `Undisturbed` — the conditions on a move.
* `repeated_delivery_answered` — a repeated delivery gets the first answer.
-/

namespace Clawdentity.Relay

open Js Lib Connector Lib.Interleave Lib.Run

/-! ## Queues -/

/-- A queued delivery and the receipt that stands under its request. -/
structure Backs (receipt : RelayDeliveryReceipt) (core : DeliveryCore) : Prop where
  triple : receipt.triple = core.triple
  deliveryId : receipt.deliveryId = core.deliveryId
  outlives : core.expiresAtMs ≤ receipt.expiresAtMs
  queued : receipt.state = .queued → receipt.expiresAtMs ≤ core.expiresAtMs

/-- A queue that a call without overlap leaves behind at a time. -/
structure Coherent (policy : RelayDeliveryPolicy) (h : History) (nowMs : ℚ)
    (q : RelayQueueState) : Prop where
  unique : (q.counted.map fun x => x.1.requestId).Nodup
  backed : ∀ x ∈ q.counted, ∃ receipt, q.receipts.lookup x.1.requestId = some receipt ∧
    Backs receipt x.1
  attempts : ∀ x ∈ q.counted, x.2 ≤ h.failed.count x.1
  bounded : ∀ id receipt, q.receipts.lookup id = some receipt →
    receipt.expiresAtMs ≤ nowMs + policy.queueTtlMs

/-- A delivery that was answered, with its receipt at that time. -/
structure Watched where
  triple : Triple
  deliveryId : JsString
  expiresAtMs : ℚ

def Remembers (k : Watched) (q : RelayQueueState) : Prop :=
  ∃ receipt, q.receipts.lookup k.triple.requestId = some receipt ∧ receipt.triple = k.triple ∧
    receipt.deliveryId = k.deliveryId ∧ k.expiresAtMs ≤ receipt.expiresAtMs

/-- The attempts on a delivery are used up. -/
def Exhausted (policy : RelayDeliveryPolicy) (h : History) (requestId deliveryId : JsString) :
    Prop :=
  ∃ core, core.requestId = requestId ∧ core.deliveryId = deliveryId ∧
    policy.retryMaxAttempts ≤ h.failed.count core

/-- The receipt may be gone. -/
def Over (policy : RelayDeliveryPolicy) (h : History) (nowMs : ℚ) (k : Watched) : Prop :=
  k.expiresAtMs ≤ nowMs ∨ Exhausted policy h k.triple.requestId k.deliveryId

/-- A coherent queue that remembers the deliveries to watch. -/
structure Held (policy : RelayDeliveryPolicy) (watch : Option Watched) (h : History) (nowMs : ℚ)
    (q : RelayQueueState) : Prop where
  coherent : Coherent policy h nowMs q
  kept : ∀ k, watch = some k → Remembers k q ∨ Over policy h nowMs k

section
variable {rt : Runtime} {policy : RelayDeliveryPolicy} {watch : Option Watched} {h h' : History}
  {nowMs nowMs' : ℚ} {q q' : RelayQueueState} {k : Watched}

/-! ## Edits -/

theorem Over.later (hk : Over policy h nowMs k) (hl : Later h nowMs h' nowMs') :
    Over policy h' nowMs' k := by
  rcases hk with hk | ⟨core, hid, hdelivery, hspent⟩
  · exact .inl (hk.trans hl.clock)
  · exact .inr ⟨core, hid, hdelivery, hspent.trans (hl.failed core)⟩

theorem Coherent.later (hq : Coherent policy h nowMs q) (hl : Later h nowMs h' nowMs') :
    Coherent policy h' nowMs' q where
  unique := hq.unique
  backed := hq.backed
  attempts x hx := (hq.attempts x hx).trans (hl.failed x.1)
  bounded id receipt hfound :=
    (hq.bounded id receipt hfound).trans (add_le_add hl.clock (le_refl _))

theorem Held.later (hq : Held policy watch h nowMs q) (hl : Later h nowMs h' nowMs') :
    Held policy watch h' nowMs' q where
  coherent := hq.coherent.later hl
  kept k hk := (hq.kept k hk).imp_right fun hover => hover.later hl

/-- Another delivery stands under another request. -/
theorem Coherent.requestId_ne {x : DeliveryCore × ℕ} (hq : Coherent policy h nowMs q)
    (hcounted : q.counted.Perm (x :: q'.counted)) :
    ∀ y ∈ q'.counted, y.1.requestId ≠ x.1.requestId := by
  have hnodup := ((hcounted.map fun x => x.1.requestId).nodup_iff).mp hq.unique
  rw [List.map_cons, List.nodup_cons] at hnodup
  intro y hy heq
  exact hnodup.1 (heq ▸ List.mem_map_of_mem hy)

/-- A queue without one of its deliveries, where the receipts of the others are there. -/
theorem Coherent.drop {x : DeliveryCore × ℕ} (hq : Coherent policy h nowMs q)
    (hcounted : q.counted.Perm (x :: q'.counted))
    (hsame : ∀ id, id ≠ x.1.requestId → q'.receipts.lookup id = q.receipts.lookup id)
    (hbounded : ∀ id receipt, q'.receipts.lookup id = some receipt →
      receipt.expiresAtMs ≤ nowMs + policy.queueTtlMs) :
    Coherent policy h nowMs q' := by
  have hmem : ∀ y ∈ q'.counted, y ∈ q.counted :=
    fun y hy => hcounted.mem_iff.mpr (List.mem_cons_of_mem x hy)
  refine ⟨?_, ?_, fun y hy => hq.attempts y (hmem y hy), hbounded⟩
  · have hnodup := ((hcounted.map fun x => x.1.requestId).nodup_iff).mp hq.unique
    rw [List.map_cons, List.nodup_cons] at hnodup
    exact hnodup.2
  · intro y hy
    rw [hsame _ (hq.requestId_ne hcounted y hy)]
    exact hq.backed y (hmem y hy)

theorem RelayQueueState.lookup_deleteQueuedReceipt_ne {id requestId deliveryId : JsString}
    (hne : id ≠ requestId) :
    (q.deleteQueuedReceipt requestId deliveryId).receipts.lookup id = q.receipts.lookup id := by
  unfold RelayQueueState.deleteQueuedReceipt
  split
  · rfl
  · split
    · rfl
    · exact Receipts.lookup_erase_of_ne hne

/-- **What the code does to a queue keeps it coherent**, and what it forgets is over. -/
theorem Held.edits (hq : Held policy watch h nowMs q) (he : Edits policy nowMs q q') :
    Held policy watch h nowMs q' := by
  induction he with
  | @retime q q' hcounted hreceipts =>
      refine ⟨⟨?_, ?_, ?_, ?_⟩, ?_⟩
      · exact ((hcounted.map _).nodup_iff).mpr hq.coherent.unique
      · rw [hreceipts]
        exact fun x hx => hq.coherent.backed x (hcounted.mem_iff.mp hx)
      · exact fun x hx => hq.coherent.attempts x (hcounted.mem_iff.mp hx)
      · rw [hreceipts]
        exact hq.coherent.bounded
      · unfold Remembers
        rw [hreceipts]
        exact hq.kept
  | @drop q q' x hx hcounted hreceipts =>
      have hmem : x ∈ q.counted := hcounted.mem_iff.mpr List.mem_cons_self
      obtain ⟨backing, hbacking, hbacks⟩ := hq.coherent.backed x hmem
      refine ⟨hq.coherent.drop hcounted ?_ ?_, ?_⟩
      · intro id hne
        rw [hreceipts]
        exact RelayQueueState.lookup_deleteQueuedReceipt_ne hne
      · intro id receipt hfound
        rw [hreceipts] at hfound
        exact hq.coherent.bounded id receipt (RelayQueueState.lookup_deleteQueuedReceipt hfound)
      · intro k hk
        rcases hq.kept k hk with ⟨receipt, hfound, htriple, hid, hexpires⟩ | hover
        · by_cases hgone : receipt.state = .queued ∧ k.triple.requestId = x.1.requestId
          · -- The receipt of the dropped delivery: that one is expired or out of attempts.
            obtain ⟨hstate, hsame⟩ := hgone
            rw [hsame] at hfound
            cases hbacking.symm.trans hfound
            rcases hx with hexpired | hspent
            · exact .inr (.inl (hexpires.trans ((hbacks.queued hstate).trans hexpired)))
            · exact .inr (.inr ⟨x.1, hsame.symm, hbacks.deliveryId.symm.trans hid,
                hspent.trans (hq.coherent.attempts x hmem)⟩)
          · refine .inl ⟨receipt, ?_, htriple, hid, hexpires⟩
            rw [hreceipts]
            refine RelayQueueState.lookup_deleteQueuedReceipt_of hfound ?_
            rw [not_and_or] at hgone
            exact hgone.imp_right .inl
        · exact .inr hover
  | @expire q hlive =>
      have hkeep : ∀ id receipt, q.receipts.lookup id = some receipt → nowMs < receipt.expiresAtMs →
          (q.receipts.keep fun receipt => decide (nowMs < receipt.expiresAtMs)).lookup id =
            some receipt := fun id receipt hfound hlt =>
        Table.lookup_keep_of_pos hfound (decide_eq_true hlt)
      refine ⟨⟨hq.coherent.unique, ?_, hq.coherent.attempts, ?_⟩, ?_⟩
      · intro x hx
        obtain ⟨receipt, hfound, hbacks⟩ := hq.coherent.backed x hx
        exact ⟨receipt, hkeep _ _ hfound (lt_of_lt_of_le (hlive x hx) hbacks.outlives), hbacks⟩
      · intro id receipt hfound
        exact hq.coherent.bounded id receipt (Receipts.lookup_keep hfound)
      · intro k hk
        rcases hq.kept k hk with ⟨receipt, hfound, htriple, hid, hexpires⟩ | hover
        · by_cases hlt : nowMs < receipt.expiresAtMs
          · exact .inl ⟨receipt, hkeep _ _ hfound hlt, htriple, hid, hexpires⟩
          · exact .inr (.inl (hexpires.trans (not_lt.mp hlt)))
        · exact .inr hover
  | trans _ _ ih ih' => exact ih' (ih hq)

/-! ## New receipts -/

/-- A receipt is written, whose expiry is the latest possible. -/
theorem Held.upsert {receipt : RelayDeliveryReceipt} (hq : Held policy watch h nowMs q)
    (hexpires : receipt.expiresAtMs = nowMs + policy.queueTtlMs)
    (hmine : ∀ old, q.receipts.lookup receipt.requestId = some old →
      receipt.triple = old.triple ∧ receipt.deliveryId = old.deliveryId ∧
        receipt.state ≠ .queued) :
    Held policy watch h nowMs (q.upsertReceipt receipt) := by
  refine ⟨⟨hq.coherent.unique, ?_, hq.coherent.attempts, ?_⟩, ?_⟩
  · intro x hx
    obtain ⟨old, hold, hbacks⟩ := hq.coherent.backed x hx
    by_cases hid : x.1.requestId = receipt.requestId
    · rw [hid] at hold
      obtain ⟨htriple, hdelivery, hstate⟩ := hmine old hold
      rw [hid]
      refine ⟨receipt, Receipts.lookup_upsert_self, ?_⟩
      refine ⟨htriple.trans hbacks.triple, hdelivery.trans hbacks.deliveryId, ?_,
        fun hqueued => absurd hqueued hstate⟩
      rw [hexpires]
      exact hbacks.outlives.trans (hq.coherent.bounded _ _ hold)
    · exact ⟨old, (Receipts.lookup_upsert_of_ne hid).trans hold, hbacks⟩
  · intro id found hfound
    rcases Receipts.lookup_upsert hfound with rfl | hfound
    · exact hexpires.le
    · exact hq.coherent.bounded id found hfound
  · intro k hk
    rcases hq.kept k hk with ⟨old, hold, htriple, hid, hlate⟩ | hover
    · by_cases hrequest : k.triple.requestId = receipt.requestId
      · rw [hrequest] at hold
        obtain ⟨htriple', hdelivery, _⟩ := hmine old hold
        refine .inl ⟨receipt, ?_, htriple'.trans htriple, hdelivery.trans hid, ?_⟩
        · rw [hrequest]
          exact Receipts.lookup_upsert_self
        · rw [hexpires]
          exact hlate.trans (hq.coherent.bounded _ _ hold)
      · exact .inl ⟨old, (Receipts.lookup_upsert_of_ne hrequest).trans hold, htriple, hid, hlate⟩
    · exact .inr hover

/-- The request of a receipt that is missing has no queued delivery. -/
theorem Coherent.not_queued {requestId : JsString} (hq : Coherent policy h nowMs q)
    (hnone : q.receipts.lookup requestId = none) : ∀ x ∈ q.counted, x.1.requestId ≠ requestId := by
  intro x hx heq
  obtain ⟨receipt, hfound, _⟩ := hq.backed x hx
  rw [heq, hnone] at hfound
  cases hfound

theorem Held.delivered {input : RelayDeliveryInput} {deliveryId : JsString}
    (hq : Held policy watch h nowMs q) (hnone : q.receipts.lookup input.requestId = none) :
    Held policy watch h nowMs (q.withDelivered rt policy input deliveryId nowMs) := by
  refine hq.upsert rfl ?_
  intro old hold
  cases hnone.symm.trans hold

theorem Held.recorded {input : RelayReceiptRecordInput} {env : Env}
    (hq : Held policy watch h env.nowMs q)
    (hmine : ∀ receipt, q.receipts.lookup input.requestId = some receipt →
      receipt.triple = input.triple) :
    Held policy watch h env.nowMs (q.withRecorded rt policy input env) := by
  refine hq.upsert rfl ?_
  intro old hold
  have hold' : q.receipts.lookup input.requestId = some old := hold
  refine ⟨(hmine old hold').symm, ?_, ?_⟩
  · rw [hold']
    rfl
  · cases hstatus : input.status <;> simp [recordedReceipt, receiptState, hstatus]

theorem Held.queued {input : RelayDeliveryInput} {d : QueuedRelayDelivery}
    (hq : Held policy watch h nowMs q) (hnone : q.receipts.lookup input.requestId = none)
    (htriple : d.triple = input.triple) (hexpires : d.expiresAtMs = nowMs + policy.queueTtlMs) :
    Held policy watch (h.logQueued input d.toDeliveryCore d.attemptCount) nowMs
      (q.withQueued rt input d nowMs) := by
  have hl := later_logQueued h nowMs input d.toDeliveryCore d.attemptCount
  have hrequest : d.requestId = input.requestId := congrArg Triple.requestId htriple
  have hcounted : ∀ x ∈ (q.withQueued rt input d nowMs).counted,
      x ∈ q.counted ∨ x = (d.toDeliveryCore, d.attemptCount) := by
    intro x hx
    simpa [RelayQueueState.withQueued] using hx
  have hother := hq.coherent.not_queued hnone
  refine ⟨⟨?_, ?_, ?_, ?_⟩, ?_⟩
  · simp only [RelayQueueState.withQueued, RelayQueueState.upsertReceipt_counted,
      RelayQueueState.append_counted, List.map_append, List.map_cons, List.map_nil]
    rw [List.nodup_append]
    refine ⟨hq.coherent.unique, List.nodup_singleton _, ?_⟩
    intro id hid id' hid' heq
    obtain ⟨x, hx, rfl⟩ := List.mem_map.mp hid
    exact hother x hx (heq.trans ((List.mem_singleton.mp hid').trans hrequest))
  · intro x hx
    rcases hcounted x hx with hx | rfl
    · obtain ⟨receipt, hfound, hbacks⟩ := hq.coherent.backed x hx
      exact ⟨receipt, (Receipts.lookup_upsert_of_ne (hother x hx)).trans hfound, hbacks⟩
    · refine ⟨deliveryReceipt rt input d.deliveryId .queued d.expiresAtMs nowMs, ?_,
        htriple.symm, rfl, le_refl _, fun _ => le_refl _⟩
      rw [hrequest]
      exact Receipts.lookup_upsert_self
  · intro x hx
    rcases hcounted x hx with hx | rfl
    · exact (hq.coherent.attempts x hx).trans (hl.failed x.1)
    · simp only [History.logQueued, List.count_append, List.count_replicate_self]
      exact Nat.le_add_left _ _
  · intro id found hfound
    rcases Receipts.lookup_upsert hfound with rfl | hfound
    · exact hexpires.le
    · exact hq.coherent.bounded id found hfound
  · intro k hk
    rcases hq.kept k hk with ⟨old, hold, hrest⟩ | hover
    · refine .inl ⟨old, ?_, hrest⟩
      have hne : k.triple.requestId ≠ input.requestId := by
        intro heq
        rw [heq, hnone] at hold
        cases hold
      exact (Receipts.lookup_upsert_of_ne hne).trans hold
    · exact .inr (hover.later hl)

/-- An attempt on a queued delivery has come to its end. -/
theorem Held.settled {call : Processing} (hq : Held policy watch h call.nowMs call.queue)
    (outcome : Outcome) :
    Held policy watch (h.logAttempt call.current.toDeliveryCore outcome) call.nowMs
      (call.settledQueue rt policy outcome) := by
  have hl := later_logAttempt h call.nowMs call.current.toDeliveryCore outcome
  have hperm : call.queue.counted.Perm ((call.current.toDeliveryCore, call.current.attemptCount) ::
      (call.before.append call.rest).counted) := by
    simp only [Processing.queue, RelayQueueState.append_counted, List.map_cons]
    exact List.perm_middle
  have hmem : (call.current.toDeliveryCore, call.current.attemptCount) ∈ call.queue.counted :=
    hperm.mem_iff.mpr List.mem_cons_self
  unfold Processing.settledQueue
  by_cases hacked : outcome = .acked true
  · rw [if_pos hacked]
    obtain ⟨backing, hbacking, hbacks⟩ := hq.coherent.backed _ hmem
    -- The receipt is written first, and then the delivery goes.
    have hwritten : Held policy watch h call.nowMs
        (call.queue.upsertReceipt (call.acceptedReceipt rt policy)) := by
      refine hq.upsert rfl ?_
      intro old hold
      cases hbacking.symm.trans hold
      exact ⟨hbacks.triple.symm, hbacks.deliveryId.symm,
        by simp [Processing.acceptedReceipt, deliveryReceipt]⟩
    refine (Held.later ⟨?_, ?_⟩ hl)
    · exact hwritten.coherent.drop hperm (fun _ _ => rfl) hwritten.coherent.bounded
    · exact hwritten.kept
  · rw [if_neg hacked]
    have hids : (call.before.append (call.current.tried :: call.rest)).counted.map
        (fun x => x.1.requestId) = call.queue.counted.map fun x => x.1.requestId := by
      simp [Processing.queue, QueuedRelayDelivery.tried]
    have hcores : ∀ x ∈ (call.before.append (call.current.tried :: call.rest)).counted,
        ∃ n, (x.1, n) ∈ call.queue.counted := by
      intro x hx
      simp only [RelayQueueState.append_counted, List.map_cons, List.mem_append,
        List.mem_cons] at hx
      simp only [Processing.queue, RelayQueueState.append_counted, List.map_cons, List.mem_append,
        List.mem_cons]
      rcases hx with hx | rfl | hx
      · exact ⟨x.2, .inl hx⟩
      · exact ⟨_, .inr (.inl rfl)⟩
      · exact ⟨x.2, .inr (.inr hx)⟩
    refine ⟨⟨?_, ?_, ?_, ?_⟩, ?_⟩
    · rw [hids]
      exact hq.coherent.unique
    · intro x hx
      obtain ⟨n, hn⟩ := hcores x hx
      exact hq.coherent.backed (x.1, n) hn
    · have hconsistent : ∀ x ∈ call.queue.counted, x.2 ≤ h.failed.count x.1 :=
        hq.coherent.attempts
      intro x hx
      simp only [RelayQueueState.append_counted, List.map_cons, List.mem_append,
        List.mem_cons] at hx
      simp only [Processing.queue, RelayQueueState.append_counted, List.map_cons, List.mem_append,
        List.mem_cons] at hconsistent
      rcases hx with hx | rfl | hx
      · exact (hconsistent x (.inl hx)).trans (hl.failed x.1)
      · have hcurrent := hconsistent _ (.inr (.inl rfl))
        simp only at hcurrent
        simp only [QueuedRelayDelivery.tried, History.logAttempt, if_neg hacked,
          History.logFailed, List.count_append, List.count_singleton_self]
        omega
      · exact (hconsistent x (.inr (.inr hx))).trans (hl.failed x.1)
    · exact hq.coherent.bounded
    · intro k hk
      exact (hq.kept k hk).imp_right fun hover => hover.later hl

end

/-! ## Calls without overlap -/

def Call.isReturned : Call → Bool
  | .returned _ => true
  | _ => false

/-- A call is made when the others have returned. -/
def Alone (p : Pool Session Call) : Move (Request × Env) Choice → Prop
  | .start _ => ∀ c ∈ p.calls, c.isReturned = true
  | .resume _ _ => True

/-- A delivery is not requested while the receipt of another sender or recipient stands
under its request id. -/
def Undisturbed (p : Pool Session Call) : Move (Request × Env) Choice → Prop
  | .start (.deliverToConnector input, env) =>
      ∀ receipt ∈ p.shared.queue.receipts.lookup input.requestId,
        env.nowMs < receipt.expiresAtMs → receipt.triple = input.triple
  | _ => True

instance (p : Pool Session Call) : ∀ e, Decidable (Alone p e)
  | .start _ => inferInstanceAs (Decidable (∀ c ∈ p.calls, _))
  | .resume _ _ => isTrue trivial

instance (p : Pool Session Call) : ∀ e, Decidable (Undisturbed p e)
  | .start (.deliverToConnector input, env) =>
      inferInstanceAs (Decidable (∀ receipt ∈ p.shared.queue.receipts.lookup input.requestId,
        env.nowMs < receipt.expiresAtMs → receipt.triple = input.triple))
  | .start (.recordDeliveryReceipt _, _) => isTrue trivial
  | .start (.getDeliveryReceipt _, _) => isTrue trivial
  | .start (.alarm, _) => isTrue trivial
  | .start (.drainQueueOnReconnect, _) => isTrue trivial
  | .start (.scheduleFromStorage, _) => isTrue trivial
  | .resume _ _ => isTrue trivial

/-- What holds of a call: its snapshot is as good as what is stored, and a direct delivery
waits only where its request has no receipt. -/
structure CallHeld (policy : RelayDeliveryPolicy) (watch : Option Watched) (h : History)
    (clock : ℚ) (c : Call) : Prop where
  held : ∀ q t, c.queue = some q → c.nowMs = some t → Held policy watch h t q ∧ t ≤ clock
  fresh : ∀ call await, c = .delivering call await →
    call.snapshot.receipts.lookup call.input.requestId = none

structure PoolHeld (policy : RelayDeliveryPolicy) (watch : Option Watched)
    (p : Pool Session Call) : Prop where
  stored : Held policy watch p.shared.history p.shared.clock p.shared.queue
  calls : ∀ c ∈ p.calls, CallHeld policy watch p.shared.history p.shared.clock c
  alone : p.calls.countP (fun c => !c.isReturned) ≤ 1

/-- What a move guarantees. -/
structure TurnHeld (policy : RelayDeliveryPolicy) (watch : Option Watched) (s : Session)
    (r : Session × Call) : Prop where
  later : Later s.history s.clock r.1.history r.1.clock
  stored : Held policy watch r.1.history r.1.clock r.1.queue
  call : CallHeld policy watch r.1.history r.1.clock r.2

section
variable {rt : Runtime} {policy : RelayDeliveryPolicy} {watch : Option Watched} {s : Session}
  {env : Env} {request : Option Request} {nowMs : ℚ} {q : RelayQueueState} {r : Session × Call}

theorem callHeld_returned {h : History} {clock : ℚ} {response : Response} :
    CallHeld policy watch h clock (.returned response) := by
  refine ⟨?_, ?_⟩
  · intro q t hq _
    cases hq
  · intro call await hcall
    cases hcall

theorem CallHeld.later {h h' : History} {clock clock' : ℚ} {c : Call}
    (hc : CallHeld policy watch h clock c) (hl : Later h clock h' clock') :
    CallHeld policy watch h' clock' c := by
  refine ⟨?_, hc.fresh⟩
  intro q t hq ht
  obtain ⟨hheld, hle⟩ := hc.held q t hq ht
  exact ⟨hheld.later ⟨le_refl t, hl.queued, hl.accepted, hl.failed⟩, hle.trans hl.clock⟩

theorem TurnHeld.after {t : Session} (hl : Later s.history s.clock t.history t.clock)
    (hr : TurnHeld policy watch t r) : TurnHeld policy watch s r :=
  ⟨hl.trans hr.later, hr.stored, hr.call⟩

/-- A queue that is saved is as good at the time of the storage. -/
theorem Held.at_clock {clock : ℚ} {h h' : History} (hq : Held policy watch h nowMs q)
    (ht : nowMs ≤ clock) (hfailed : h'.failed = h.failed) (hqueued : h'.queued = h.queued)
    (haccepted : h'.accepted = h.accepted) : Held policy watch h' clock q :=
  hq.later ⟨ht, fun core hcore => by rwa [History.queuedCores, hqueued],
    fun core hcore => by rwa [haccepted], fun core => by rw [hfailed]⟩

/-- **One piece of code.** -/
theorem turn_held (he : Turn rt policy env request nowMs s q r)
    (hs : Held policy watch s.history s.clock s.queue)
    (hq : Held policy watch s.history nowMs q) (ht : nowMs ≤ s.clock)
    (hfresh : ∀ input, request = some (.deliverToConnector input) →
      existingReceipt q input nowMs = none → q.receipts.lookup input.requestId = none) :
    TurnHeld policy watch s r := by
  cases he with
  | @answer s' response hstored hclock hhistory hdelivery =>
      have hqueue : s'.queue = s.queue := by rw [Session.queue, Session.queue, hstored]
      refine ⟨by rw [hclock, hhistory]; exact Later.refl _ _, ?_, callHeld_returned⟩
      rw [hqueue, hclock, hhistory]
      exact hs
  | @edited s' q' hrequest hedits hstored hclock hhistory =>
      refine ⟨by rw [hclock, hhistory]; exact Later.refl _ _, ?_, callHeld_returned⟩
      rw [Session.queue_of_stored hstored, hclock, hhistory]
      exact (hq.edits hedits).at_clock ht rfl rfl rfl
  | @delivered s' input result hrequest hnew hstored hclock hhistory =>
      refine ⟨by rw [hclock, hhistory]; exact Later.refl _ _, ?_, callHeld_returned⟩
      rw [Session.queue_of_stored hstored, hclock, hhistory]
      exact (hq.delivered (hfresh input hrequest hnew)).at_clock ht rfl rfl rfl
  | @queued s' input result d hrequest hnew htriple hid hexpires hstored hclock hhistory =>
      have hl := later_logQueued s.history s.clock input d.toDeliveryCore d.attemptCount
      refine ⟨by rw [hclock, hhistory]; exact hl, ?_, callHeld_returned⟩
      rw [Session.queue_of_stored hstored, hclock, hhistory]
      exact (hq.queued (hfresh input hrequest hnew) htriple hexpires).at_clock ht rfl rfl rfl
  | @recorded s' input response pushed hrequest hmine hnow hstored hclock hhistory hresponse =>
      subst hnow
      refine ⟨later_of_eq hclock (by rw [hhistory]) (by rw [hhistory]) (by rw [hhistory]), ?_,
        callHeld_returned⟩
      rw [Session.queue_of_stored hstored, hclock, hhistory]
      exact (hq.recorded hmine).at_clock ht rfl rfl rfl
  | @delivering s' call await hrequest hnew hsnapshot hnow hawait hstored hclock hhistory =>
      have hsame := hhistory.same
      have hl : Later s.history s.clock s'.history s'.clock :=
        later_of_eq hclock hsame.1 hsame.2.1 hsame.2.2
      have hqueue : s'.queue = s.queue := by rw [Session.queue, Session.queue, hstored]
      refine ⟨hl, ?_, ?_, ?_⟩
      · rw [hqueue]
        exact hs.later hl
      · intro q₁ t hq₁ ht₁
        cases hq₁
        cases ht₁
        rw [hsnapshot, hnow, hclock]
        exact ⟨hq.at_clock (le_refl _) hsame.2.2 hsame.1 hsame.2.1, ht⟩
      · intro call' await' hcall
        cases hcall
        rw [hsnapshot]
        exact hfresh call.input hrequest hnew
  | @processing s' call await hrequest hedits hnow hstored hclock hhistory =>
      have hsame := hhistory.same
      have hl : Later s.history s.clock s'.history s'.clock :=
        later_of_eq hclock hsame.1 hsame.2.1 hsame.2.2
      have hqueue : s'.queue = s.queue := by rw [Session.queue, Session.queue, hstored]
      refine ⟨hl, ?_, ?_, ?_⟩
      · rw [hqueue]
        exact hs.later hl
      · intro q₁ t hq₁ ht₁
        cases hq₁
        cases ht₁
        rw [hnow, hclock]
        exact ⟨(hq.edits hedits).at_clock (le_refl _) hsame.2.2 hsame.1 hsame.2.1, ht⟩
      · intro call' await' hcall
        cases hcall

/-- **An answered delivery is remembered.** -/
theorem turn_answer (he : Turn rt policy env request nowMs s q r) {input : RelayDeliveryInput}
    {result : RelayDeliveryResult} (hrequest : request = some (.deliverToConnector input))
    (hr : r.2 = .returned (.delivery result))
    (hstays : ∀ receipt, existingReceipt q input nowMs = some receipt →
      s.queue.receipts.lookup input.requestId = some receipt) :
    ∃ receipt, r.1.queue.receipts.lookup input.requestId = some receipt ∧
      receipt.triple = input.triple ∧ receipt.deliveryId = result.deliveryId := by
  subst hrequest
  cases he with
  | @answer s' response hstored hclock hhistory hdelivery =>
      have hqueue : s'.queue = s.queue := by rw [Session.queue, Session.queue, hstored]
      cases hr
      obtain ⟨input', receipt, hsame, hexisting, hid⟩ := hdelivery result rfl
      cases hsame
      refine ⟨receipt, ?_, (existingReceipt_eq_some.mp hexisting).2.2, hid.symm⟩
      rw [hqueue]
      exact hstays receipt hexisting
  | edited hother hedits hstored hclock hhistory => cases hr
  | @delivered s' input' result' hsame hnew hstored hclock hhistory =>
      cases hsame
      cases hr
      rw [Session.queue_of_stored hstored]
      exact ⟨_, Receipts.lookup_upsert_self, rfl, rfl⟩
  | @queued s' input' result' d hsame hnew htriple hid hexpires hstored hclock hhistory =>
      cases hsame
      cases hr
      rw [Session.queue_of_stored hstored]
      exact ⟨_, Receipts.lookup_upsert_self, rfl, hid⟩
  | recorded hsame hmine hnow hstored hclock hhistory hresponse => cases hsame
  | delivering hsame hnew hsnapshot hnow hawait hstored hclock hhistory => cases hr
  | processing hother hedits hnow hstored hclock hhistory => cases hr

/-! ## Moves -/

/-- What loading leaves in storage. -/
theorem load_held (hs : Held policy watch s.history s.clock s.queue) (ht : env.nowMs = s.clock) :
    Held policy watch (s.loadQueueState env.nowMs).1.history (s.loadQueueState env.nowMs).1.clock
      (s.loadQueueState env.nowMs).1.queue ∧
    Held policy watch (s.loadQueueState env.nowMs).1.history env.nowMs
      (s.loadQueueState env.nowMs).2 := by
  obtain ⟨hhistory, hclock, _, hstored⟩ := loadQueueState_spec policy s env.nowMs
  have hq : Held policy watch s.history env.nowMs (s.loadQueueState env.nowMs).2 := by
    rw [ht]
    exact hs.edits (edits_prune policy s.clock s.queue)
  rw [hhistory, hclock]
  refine ⟨?_, hq⟩
  rcases hstored with hstored | hstored
  · rw [hstored]
    exact hs
  · rw [hstored, ← ht]
    exact hq

theorem lookup_of_load {id : JsString} {receipt : RelayDeliveryReceipt}
    (h : (s.loadQueueState nowMs).2.receipts.lookup id = some receipt) :
    s.queue.receipts.lookup id = some receipt ∧
      (s.loadQueueState nowMs).1.queue.receipts.lookup id = some receipt := by
  have hold : s.queue.receipts.lookup id = some receipt :=
    RelayQueueState.lookup_dropExpiredReceipts s.queue.deliveries (Receipts.lookup_keep h)
  refine ⟨hold, ?_⟩
  unfold Session.loadQueueState at h ⊢
  cases hp : (RelayQueueState.decode s.stored).prunes nowMs with
  | true =>
      simp only [hp, if_true]
      rw [Session.queue_of_stored rfl]
      exact h
  | false =>
      simp only [hp, if_false, Bool.false_eq_true]
      exact hold

/-- A call is made. -/
theorem handle_held {request : Request} (hs : Held policy watch s.history s.clock s.queue)
    (ht : env.nowMs = s.clock)
    (hundisturbed : ∀ input, request = .deliverToConnector input →
      ∀ receipt ∈ s.queue.receipts.lookup input.requestId,
        env.nowMs < receipt.expiresAtMs → receipt.triple = input.triple) :
    TurnHeld policy watch s (handle rt policy s request env) := by
  obtain ⟨hs', hq⟩ := load_held hs ht
  obtain ⟨hhistory, hclock, _, _⟩ := loadQueueState_spec policy s env.nowMs
  have hl : Later s.history s.clock (s.loadQueueState env.nowMs).1.history
      (s.loadQueueState env.nowMs).1.clock := by
    rw [hhistory, hclock]
    exact Later.refl _ _
  refine .after hl (turn_held (handle_turn rt policy s request env) hs' hq ?_ ?_)
  · rw [hclock]
    exact ht.le
  · intro input hinput hnew
    cases hfound : (s.loadQueueState env.nowMs).2.receipts.lookup input.requestId with
    | none => rfl
    | some receipt =>
        -- A receipt that was loaded is not expired, so it answers the request.
        have hlive : env.nowMs < receipt.expiresAtMs :=
          of_decide_eq_true (Table.lookup_keep_eq_some.mp hfound).2
        have htriple := hundisturbed input (Option.some.inj hinput) receipt
          (lookup_of_load hfound).1 hlive
        rw [existingReceipt_eq_some.mpr ⟨hfound, hlive, htriple⟩] at hnew
        cases hnew

/-- A call goes on. -/
theorem proceed_held {c : Call} (hs : Held policy watch s.history s.clock s.queue)
    (hc : CallHeld policy watch s.history s.clock c) (hr : proceed rt policy s env c = some r) :
    TurnHeld policy watch s r := by
  have hnew : ∀ call await, c = .delivering call await →
      existingReceipt call.snapshot call.input call.nowMs = none := by
    intro call await hcall
    rw [existingReceipt, hc.fresh call await hcall]
    rfl
  rcases proceed_turn hnew hr with ⟨call, outcome, rfl, he⟩ | ⟨call, outcome, rfl, he⟩
  · obtain ⟨hq, ht⟩ := hc.held _ _ rfl rfl
    refine turn_held he hs hq ht ?_
    intro input hinput _
    cases hinput
    exact hc.fresh call _ rfl
  · obtain ⟨hq, ht⟩ := hc.held _ _ rfl rfl
    have hl := later_logAttempt s.history s.clock call.current.toDeliveryCore outcome
    refine .after hl (turn_held he (hs.later hl) (hq.settled outcome) ht ?_)
    intro input hinput _
    cases hinput

/-- A frame is answered. -/
theorem settle_held {c : Call} {outcome : Outcome}
    (hs : Held policy watch s.history s.clock s.queue)
    (hc : CallHeld policy watch s.history s.clock c) (hr : settle s outcome c = some r) :
    TurnHeld policy watch s r := by
  obtain ⟨hstored, hclock, hhistory, hqueue, _, hnow, _, _⟩ := settle_spec hr
  have hqueue' : r.1.queue = s.queue := by rw [Session.queue, Session.queue, hstored]
  refine ⟨by rw [hclock, hhistory]; exact Later.refl _ _, ?_, ?_⟩
  · rw [hqueue', hclock, hhistory]
    exact hs
  · rw [hclock, hhistory]
    refine ⟨fun q t hq ht => hc.held q t (hqueue ▸ hq) (hnow ▸ ht), ?_⟩
    intro call await hcall
    obtain ⟨call', rfl, rfl⟩ | ⟨call', rfl, rfl⟩ := settle_cases hr
    · cases hcall
      exact hc.fresh _ _ rfl
    · cases hcall

/-- Time passes. -/
theorem held_tick {t : Session} (hs : Held policy watch s.history s.clock s.queue)
    (h : s.tick nowMs = some t) :
    Held policy watch t.history t.clock t.queue ∧
      Later s.history s.clock t.history t.clock ∧ t.clock = nowMs ∧ t.queue = s.queue := by
  obtain ⟨hle, hclock, hhistory, hqueue⟩ := tick_spec h
  have hl : Later s.history s.clock t.history t.clock := by
    rw [hhistory]
    exact ⟨hle, fun _ hc => hc, fun _ hc => hc, fun _ => le_refl _⟩
  refine ⟨?_, hl, hclock, hqueue⟩
  rw [hqueue]
  exact hs.later hl

/-- A call that goes on was not finished. -/
theorem not_returned_of_resume {c : Call} {choice : Choice}
    (h : (program rt policy).resume s c choice = some r) : c.isReturned = false := by
  cases c with
  | delivering call await => rfl
  | processing call await => rfl
  | returned response =>
      cases choice with
      | settle outcome => cases h
      | proceed env =>
          obtain ⟨t, _, hproceed⟩ := Option.bind_eq_some_iff.mp h
          cases hproceed

/-- **One move.** -/
theorem poolHeld_step {p p' : Pool Session Call} {e : Move (Request × Env) Choice}
    (hp : PoolHeld policy watch p) (halone : Alone p e) (hundisturbed : Undisturbed p e)
    (hstep : (program rt policy).step p e = some p') : PoolHeld policy watch p' := by
  rcases Program.step_cases hstep with
    ⟨⟨request, env⟩, s', c', rfl, hstart, rfl⟩ | ⟨i, choice, c, s', c', rfl, hi, hresume, rfl⟩
  · obtain ⟨t, htick, hhandle⟩ := Option.map_eq_some_iff.mp hstart
    obtain ⟨hs, hl, hclock, hqueue⟩ := held_tick hp.stored htick
    have hr : TurnHeld policy watch p.shared (s', c') := by
      rw [← hhandle]
      refine .after hl (handle_held hs hclock.symm ?_)
      intro input hinput
      subst hinput
      rw [hqueue]
      exact hundisturbed
    refine ⟨hr.stored, ?_, ?_⟩
    · intro d hd
      rcases List.mem_append.mp hd with hd | hd
      · exact (hp.calls d hd).later hr.later
      · rw [List.mem_singleton.mp hd]
        exact hr.call
    · have hnone : p.calls.countP (fun c => !c.isReturned) = 0 := by
        rw [List.countP_eq_zero]
        intro c hc
        simp [halone c hc]
      rw [List.countP_append, hnone, Nat.zero_add]
      exact List.countP_le_length
  · have hc := hp.calls c (List.mem_of_getElem? hi)
    have hr : TurnHeld policy watch p.shared (s', c') := by
      cases choice with
      | settle outcome => exact settle_held hp.stored hc hresume
      | proceed env =>
          obtain ⟨t, htick, hproceed⟩ := Option.bind_eq_some_iff.mp hresume
          obtain ⟨hs, hl, _, _⟩ := held_tick hp.stored htick
          exact .after hl (proceed_held hs (hc.later hl) hproceed)
    refine ⟨hr.stored, ?_, ?_⟩
    · intro d hd
      rcases List.mem_or_eq_of_mem_set hd with hd | rfl
      · exact (hp.calls d hd).later hr.later
      · exact hr.call
    · have hcount := countP_set_add (fun c => !c.isReturned) c' hi
      have hle := hp.alone
      simp only [not_returned_of_resume hresume, Bool.not_false, if_true] at hcount
      change (p.calls.set i c').countP (fun c => !c.isReturned) ≤ 1
      split at hcount <;> omega

theorem poolHeld_idle : PoolHeld policy none idle := by
  refine ⟨⟨⟨List.nodup_nil, ?_, ?_, ?_⟩, ?_⟩, ?_, ?_⟩
  · intro x hx
    cases hx
  · intro x hx
    cases hx
  · intro id receipt hfound
    cases hfound
  · intro k hk
    cases hk
  · intro c hc
    cases hc
  · exact Nat.zero_le 1

/-! ## Runs -/

/-- The move finishes the delivery of the input with an answer. -/
inductive Answers (p : Pool Session Call) :
    Move (Request × Env) Choice → Pool Session Call → RelayDeliveryInput → RelayDeliveryResult → Prop
  | start {env : Env} {p' : Pool Session Call} {input : RelayDeliveryInput}
      {result : RelayDeliveryResult}
      (hcalls : p'.calls = p.calls ++ [.returned (.delivery result)]) :
      Answers p (.start (.deliverToConnector input, env)) p' input result
  | resume {i : ℕ} {env : Env} {p' : Pool Session Call} {call : Delivering} {await : Await}
      {result : RelayDeliveryResult} (hcall : p.calls[i]? = some (.delivering call await))
      (hcalls : p'.calls = p.calls.set i (.returned (.delivery result))) :
      Answers p (.resume i (.proceed env)) p' call.input result

/-- The call was answered with the delivery id, sent nothing and queued nothing. -/
def Deduplicated (p p' : Pool Session Call) (deliveryId : JsString) : Prop :=
  (∃ result, p'.calls = p.calls ++ [.returned (.delivery result)] ∧
    result.deliveryId = deliveryId) ∧
  p'.shared.history = p.shared.history ∧
  ∀ core ∈ p'.shared.queue.cores, core ∈ p.shared.queue.cores

/-- After an answer no call is waiting. -/
theorem Answers.all_returned {p p' : Pool Session Call} {e : Move (Request × Env) Choice}
    {input : RelayDeliveryInput} {result : RelayDeliveryResult} (h : Answers p e p' input result)
    (halone : Alone p e) (hcount : p.calls.countP (fun c => !c.isReturned) ≤ 1) :
    ∀ c ∈ p'.calls, c.isReturned = true := by
  cases h with
  | start hcalls =>
      rw [hcalls]
      intro c hc
      rcases List.mem_append.mp hc with hc | hc
      · exact halone c hc
      · rw [List.mem_singleton.mp hc]
        rfl
  | @resume i env p' call await result hcall hcalls =>
      have hset := countP_set_add (fun c => !c.isReturned) (.returned (.delivery result)) hcall
      have hwaiting : (Call.delivering call await).isReturned = false := rfl
      have hdone : (Call.returned (.delivery result)).isReturned = true := rfl
      simp only [hwaiting, hdone, Bool.not_false, Bool.not_true, if_true, if_false,
        Bool.false_eq_true] at hset
      have hzero : p'.calls.countP (fun c => !c.isReturned) = 0 := by
        rw [hcalls]
        omega
      intro c hc
      simpa using List.countP_eq_zero.mp hzero c hc

/-- **An answer leaves the receipt** from which a repeated delivery is answered. -/
theorem answers_remembered {p p' : Pool Session Call} {e : Move (Request × Env) Choice}
    {input : RelayDeliveryInput} {result : RelayDeliveryResult} (hp : PoolHeld policy none p)
    (hstep : (program rt policy).step p e = some p') (h : Answers p e p' input result) :
    ∃ receipt, p'.shared.queue.receipts.lookup input.requestId = some receipt ∧
      receipt.triple = input.triple ∧ receipt.deliveryId = result.deliveryId := by
  cases h with
  | @start env p' input result hcalls =>
      rcases Program.step_cases hstep with
        ⟨arg, s', c', harg, hstart, rfl⟩ | ⟨i, choice, c, s', c', harg, hi, hresume, rfl⟩
      · cases harg
        obtain ⟨t, htick, hhandle⟩ := Option.map_eq_some_iff.mp hstart
        have hc' : c' = .returned (.delivery result) :=
          List.singleton_inj.mp (List.append_cancel_left hcalls)
        have hturn := handle_turn rt policy t (.deliverToConnector input) env
        have hresult : handle rt policy t (.deliverToConnector input) env = (s', c') := hhandle
        rw [hresult] at hturn
        refine turn_answer hturn rfl hc' ?_
        intro receipt hexisting
        exact (lookup_of_load (existingReceipt_eq_some.mp hexisting).1).2
      · cases harg
  | @resume i env p' call await result hcall hcalls =>
      rcases Program.step_cases hstep with
        ⟨arg, s', c', harg, hstart, rfl⟩ | ⟨j, choice, c, s', c', harg, hj, hresume, rfl⟩
      · cases harg
      · cases harg
        cases hcall.symm.trans hj
        obtain ⟨hlt, _⟩ := List.getElem?_eq_some_iff.mp hcall
        have hc' : c' = .returned (.delivery result) := by
          have hat := congrArg (fun l => l[i]?) hcalls
          simpa [List.getElem?_set_self hlt] using hat
        obtain ⟨t, _, hproceed⟩ := Option.bind_eq_some_iff.mp hresume
        have hnone := (hp.calls _ (List.mem_of_getElem? hcall)).fresh call await rfl
        have hnew : existingReceipt call.snapshot call.input call.nowMs = none := by
          rw [existingReceipt, hnone]
          rfl
        have hturns := proceed_turn
          (fun call' await' heq => by cases heq; exact hnew) hproceed
        rcases hturns with ⟨call', outcome, heq, hturn⟩ | ⟨call', outcome, heq, _⟩
        · cases heq
          refine turn_answer hturn rfl hc' ?_
          intro receipt hexisting
          rw [hnew] at hexisting
          cases hexisting
        · cases heq

/-- **A repeated delivery is answered from its receipt.** -/
theorem repeated_deduplicated {p p' : Pool Session Call} {k : Watched}
    {input : RelayDeliveryInput} (hp : PoolHeld policy (some k) p)
    (htriple : input.triple = k.triple) (hlive : env.nowMs < k.expiresAtMs)
    (hleft : ¬ Exhausted policy p.shared.history k.triple.requestId k.deliveryId)
    (hstep : (program rt policy).step p (.start (.deliverToConnector input, env)) = some p') :
    Deduplicated p p' k.deliveryId := by
  rcases Program.step_cases hstep with
    ⟨arg, s', c', harg, hstart, rfl⟩ | ⟨i, choice, c, s', c', harg, hi, hresume, rfl⟩
  · cases harg
    obtain ⟨t, htick, hhandle⟩ := Option.map_eq_some_iff.mp hstart
    obtain ⟨hs, _, hclock, hqueue⟩ := held_tick hp.stored htick
    have hticked := tick_spec htick
    obtain ⟨hhistory, _, hload, hstored⟩ := loadQueueState_spec policy t env.nowMs
    have hq : Held policy (some k) (t.loadQueueState env.nowMs).1.history env.nowMs
        (t.loadQueueState env.nowMs).2 := (load_held hs hclock.symm).2
    rw [hhistory, hticked.2.2.1] at hq
    rcases hq.kept k rfl with ⟨receipt, hfound, hreceipt, hid, hexpires⟩ | hover
    · have hexisting : existingReceipt (t.loadQueueState env.nowMs).2 input env.nowMs =
          some receipt := by
        refine existingReceipt_eq_some.mpr ⟨?_, lt_of_lt_of_le hlive hexpires,
          hreceipt.trans htriple.symm⟩
        rw [← hfound, ← htriple]
        rfl
      have hanswer : handle rt policy t (.deliverToConnector input) env = (s', c') := hhandle
      simp only [handle, deliverToConnector, hexisting, Prod.mk.injEq] at hanswer
      obtain ⟨rfl, rfl⟩ := hanswer
      refine ⟨⟨_, rfl, hid⟩, hhistory.trans hticked.2.2.1, ?_⟩
      intro core hcore
      rcases hstored with hstored | hstored
      · have hsame : (t.loadQueueState env.nowMs).1.queue.cores = p.shared.queue.cores := by
          rw [hstored, hqueue]
        exact hsame ▸ hcore
      · have hpruned : core ∈ (t.loadQueueState env.nowMs).2.cores := hstored ▸ hcore
        obtain ⟨n, hn⟩ := RelayQueueState.mem_cores.mp hpruned
        exact RelayQueueState.mem_cores.mpr ⟨n, hqueue ▸ hload.back _ hn⟩
    · rcases hover with hexpired | hspent
      · exact absurd hlive (not_lt.mpr hexpired)
      · exact absurd hspent hleft
  · cases harg

end

/-! ### A request id that two senders use -/

section Example

/-- The delivery, and one of another sender under the same request id. -/
def exampleFirst : RelayDeliveryInput := exampleInput "01HF7YAT00W6W7CM7N3W5FDXR0" none

def exampleOther : RelayDeliveryInput :=
  { exampleFirst with
    senderAgentDid := js "did:cdi:registry.example.com:agent:01HF7YAT00W6W7CM7N3W5FDXC0" }

/-- The first delivery, up to the acknowledgement of the connector. -/
def exampleBefore : List (Move (Request × Env) Choice) :=
  [.start (.deliverToConnector exampleFirst,
      exampleEnv 1700000000000 "01HF7YAT00W6W7CM7N3W5FDXD0" "01HF7YAT00W6W7CM7N3W5FDXF0"),
    .resume 0 (.settle (.acked true))]

def exampleAnswer : Move (Request × Env) Choice :=
  .resume 0 (.proceed
    (exampleEnv 1700000000000 "01HF7YAT00W6W7CM7N3W5FDXD1" "01HF7YAT00W6W7CM7N3W5FDXF1"))

/-- The other sender uses the request id. -/
def exampleReuse : List (Move (Request × Env) Choice) :=
  [.start (.deliverToConnector exampleOther,
      exampleEnv 1700000003000 "01HF7YAT00W6W7CM7N3W5FDXD2" "01HF7YAT00W6W7CM7N3W5FDXF2"),
    .resume 1 (.settle (.acked true)),
    .resume 1 (.proceed
      (exampleEnv 1700000003000 "01HF7YAT00W6W7CM7N3W5FDXD3" "01HF7YAT00W6W7CM7N3W5FDXF3"))]

def exampleAgainEnv : Env :=
  exampleEnv 1700000003000 "01HF7YAT00W6W7CM7N3W5FDXD4" "01HF7YAT00W6W7CM7N3W5FDXF4"

def exampleResult : RelayDeliveryResult :=
  toRelayDeliveryResult (js "01HF7YAT00W6W7CM7N3W5FDXD0") .delivered 1 0

/-- The delivery of the only call and its answer. -/
def answerOf (p p' : Pool Session Call) : Option (RelayDeliveryInput × RelayDeliveryResult) :=
  match p.calls, p'.calls with
  | [.delivering call _], [.returned (.delivery result)] => some (call.input, result)
  | _, _ => none

theorem answers_of_answerOf {p p' : Pool Session Call} {input : RelayDeliveryInput}
    {result : RelayDeliveryResult} {env : Env} (h : answerOf p p' = some (input, result)) :
    Answers p (.resume 0 (.proceed env)) p' input result := by
  unfold answerOf at h
  split at h
  · rename_i call await result' hcalls hcalls'
    cases h
    have hcall : p.calls[0]? = some (.delivering call await) := by
      rw [hcalls]
      rfl
    refine .resume hcall ?_
    rw [hcalls, hcalls']
    rfl
  · cases h

/-- The run of the example with the moves between the two deliveries. -/
def exampleRepeat (between : List (Move (Request × Env) Choice)) :
    Option (Pool Session Call × Pool Session Call × Pool Session Call × Pool Session Call) := do
  let p₀ ← exec (program exampleRuntime defaultPolicy).step idle exampleBefore
  let p₁ ← (program exampleRuntime defaultPolicy).step p₀ exampleAnswer
  let p₂ ← exec (program exampleRuntime defaultPolicy).step p₁ between
  let p₃ ← (program exampleRuntime defaultPolicy).step p₂
    (.start (.deliverToConnector exampleFirst, exampleAgainEnv))
  return (p₀, p₁, p₂, p₃)

theorem exampleRepeat_eq_some {between : List (Move (Request × Env) Choice)}
    {p₀ p₁ p₂ p₃ : Pool Session Call} (h : exampleRepeat between = some (p₀, p₁, p₂, p₃)) :
    exec (program exampleRuntime defaultPolicy).step idle exampleBefore = some p₀ ∧
    (program exampleRuntime defaultPolicy).step p₀ exampleAnswer = some p₁ ∧
    exec (program exampleRuntime defaultPolicy).step p₁ between = some p₂ ∧
    (program exampleRuntime defaultPolicy).step p₂
      (.start (.deliverToConnector exampleFirst, exampleAgainEnv)) = some p₃ := by
  simp only [exampleRepeat, Option.bind_eq_bind, Option.bind_eq_some_iff, Option.pure_def,
    Option.some.injEq, Prod.mk.injEq] at h
  obtain ⟨_, h₀, _, h₁, _, h₂, _, h₃, rfl, rfl, rfl, rfl⟩ := h
  exact ⟨h₀, h₁, h₂, h₃⟩

/-- What the example shows: the answer, the expiry of its receipt, the failed attempts, and
the frames sent before and after the repeated delivery. -/
def exampleFacts (between : List (Move (Request × Env) Choice)) :
    Option (Option (RelayDeliveryInput × RelayDeliveryResult) × Option ℚ × List DeliveryCore ×
      ℕ × ℕ) :=
  (exampleRepeat between).map fun (p₀, p₁, p₂, p₃) =>
    (answerOf p₀ p₁,
      (p₁.shared.queue.receipts.lookup exampleFirst.requestId).map (·.expiresAtMs),
      p₂.shared.history.failed, p₂.shared.history.sent.length, p₃.shared.history.sent.length)

theorem exampleReuse_facts : exampleFacts exampleReuse =
    some (some (exampleFirst, exampleResult), some 1700003600000, [], 2, 3) := by
  decide +kernel

theorem exampleOnce_facts : exampleFacts [] =
    some (some (exampleFirst, exampleResult), some 1700003600000, [], 1, 1) := by
  decide +kernel

theorem exampleReuse_alone :
    AllSteps (program exampleRuntime defaultPolicy).step Alone idle
      (exampleBefore ++ exampleAnswer :: exampleReuse) := by
  decide +kernel

theorem exampleOnce_undisturbed :
    AllSteps (program exampleRuntime defaultPolicy).step (fun p e => Alone p e ∧ Undisturbed p e)
      idle (exampleBefore ++ exampleAnswer :: []) := by
  decide

theorem not_exhausted_nil {h : History} (hfailed : h.failed = []) {requestId deliveryId : JsString} :
    ¬ Exhausted defaultPolicy h requestId deliveryId := by
  intro ⟨core, _, _, hspent⟩
  rw [hfailed, List.count_nil] at hspent
  exact absurd hspent (by decide)

end Example

end Clawdentity.Relay
