import Clawdentity.Proxy.Relay.Turns

/-!
# Recording and draining receipts

What `recordDeliveryReceipt` does to the stored queue and to the sockets, and
`drainReceiptFramesOnReconnect`, which pushes a frame for every receipt of the
recipients when the connector connects. A frame is built for one receipt after
another, and the loop is left where one of them does not pass the schema.

## Main definitions

* `heldByOther` — the receipt under the request id is not one of the recorded delivery.
* `drainReceiptFramesOnReconnect` — the loop over the receipts, in any order.
* `recordDeliveryReceipt_of_own`, `drainReceipts_spec` — what the two do.
-/

namespace Clawdentity.Relay

open Js Lib Connector Protocol Lib.Interleave Lib.Run

/-! ## Loading -/

theorem Receipts.keep_eq_self {r : Receipts} {p : RelayDeliveryReceipt → Bool}
    (h : ∀ e ∈ r.table.entries, p e.2 = true) : r.keep p = r := by
  obtain ⟨table, keyed⟩ := r
  simp only [Receipts.keep, Receipts.mk.injEq]
  exact Table.keep_eq_self fun id receipt hreceipt =>
    h ⟨id, receipt⟩ (AList.mem_lookup_iff.mp hreceipt)

namespace RelayQueueState
variable {q : RelayQueueState} {nowMs : ℚ}

theorem dropExpiredReceipts_of_live (l : List QueuedRelayDelivery)
    (h : ∀ d ∈ l, nowMs < d.expiresAtMs) : q.dropExpiredReceipts nowMs l = q := by
  induction l with
  | nil => rfl
  | cons d l ih =>
      have hd : ¬ d.expiresAtMs ≤ nowMs := not_le.mpr (h d List.mem_cons_self)
      rw [dropExpiredReceipts, if_neg hd]
      exact ih fun e he => h e (List.mem_cons_of_mem d he)

/-- Where nothing is pruned, the queue stays as it is. -/
theorem prune_eq_self (h : q.prunes nowMs = false) : q.prune nowMs = q := by
  simp only [prunes, Bool.or_eq_false_iff, List.any_eq_false, decide_eq_true_eq, not_le] at h
  obtain ⟨hdeliveries, hreceipts⟩ := h
  rw [dropExpiredReceipts_of_live q.deliveries hdeliveries] at hreceipts
  have hfilter : q.deliveries.filter (fun d => decide (nowMs < d.expiresAtMs)) = q.deliveries := by
    rw [List.filter_eq_self]
    intro d hd
    exact decide_eq_true (hdeliveries d hd)
  have hkeep : q.receipts.keep (fun receipt => decide (nowMs < receipt.expiresAtMs)) =
      q.receipts := by
    apply Receipts.keep_eq_self
    intro e he
    exact decide_eq_true (hreceipts e he)
  rw [prune, dropExpiredReceipts_of_live q.deliveries hdeliveries, hfilter, hkeep]

/-- Pruning keeps the receipts that are not expired, if they are not of queued deliveries. -/
theorem lookup_prune_iff {id : JsString} {found : RelayDeliveryReceipt}
    (h : q.receipts.lookup id = some found → found.state ≠ .queued) :
    (q.prune nowMs).receipts.lookup id = some found ↔
      q.receipts.lookup id = some found ∧ nowMs < found.expiresAtMs := by
  constructor
  · intro hfound
    obtain ⟨hkept, hlive⟩ := Table.lookup_keep_eq_some.mp hfound
    exact ⟨lookup_dropExpiredReceipts q.deliveries hkept, of_decide_eq_true hlive⟩
  · intro ⟨hfound, hlive⟩
    exact lookup_prune_of hfound hlive (.inl (h hfound))

theorem prune_prune : (q.prune nowMs).prune nowMs = q.prune nowMs := by
  have hlive : ∀ d ∈ (q.prune nowMs).deliveries, nowMs < d.expiresAtMs := fun _ hd =>
    of_decide_eq_true (List.mem_filter.mp hd).2
  refine prune_eq_self ?_
  simp only [prunes, Bool.or_eq_false_iff, List.any_eq_false, decide_eq_true_eq, not_le]
  refine ⟨hlive, ?_⟩
  rw [dropExpiredReceipts_of_live _ hlive]
  exact fun _ he => of_decide_eq_true (List.mem_filter.mp he).2

end RelayQueueState

/-- What is stored after loading is what was loaded. -/
theorem Session.queue_load (s : Session) (nowMs : ℚ) :
    (s.loadQueueState nowMs).1.queue = s.queue.prune nowMs := by
  unfold Session.loadQueueState
  cases hp : (RelayQueueState.decode s.stored).prunes nowMs with
  | true =>
      simp only [hp, if_true]
      exact Session.queue_of_stored rfl
  | false =>
      simp only [hp, if_false, Bool.false_eq_true]
      exact (RelayQueueState.prune_eq_self hp).symm

/-! ## Recording -/

/-- The receipt under the request id names another sender or another recipient. -/
def RelayQueueState.heldByOther (q : RelayQueueState) (input : RelayReceiptRecordInput) : Bool :=
  (q.receipts.lookup input.requestId).any fun e =>
    e.senderAgentDid ≠ input.senderAgentDid ∨ e.recipientAgentDid ≠ input.recipientAgentDid

/-- The receipt under the request id has the status and the reason of the input. -/
def RelayQueueState.reports (q : RelayQueueState) (input : RelayReceiptRecordInput) : Bool :=
  (q.receipts.lookup input.requestId).any fun e =>
    e.state = receiptState input.status ∧ e.reason = input.reason

section
variable {rt : Runtime} {policy : RelayDeliveryPolicy} {s : Session}
  {input : RelayReceiptRecordInput} {env : Env}

theorem recordDeliveryReceipt_of_other
    (h : (s.queue.prune env.nowMs).heldByOther input = true) :
    recordDeliveryReceipt rt policy s input env =
      ((s.loadQueueState env.nowMs).1, .returned .done) := by
  unfold recordDeliveryReceipt
  exact if_pos h

/-- The session after the receipt is saved. -/
def savedReceipt (rt : Runtime) (policy : RelayDeliveryPolicy) (s : Session)
    (input : RelayReceiptRecordInput) (env : Env) : Session :=
  let queue := (s.queue.prune env.nowMs).withRecorded rt policy input env
  ((s.loadQueueState env.nowMs).1.saveQueueState queue).scheduleNextAlarm queue env.nowMs
    env.sockets

theorem savedReceipt_queue : (savedReceipt rt policy s input env).queue =
    (s.queue.prune env.nowMs).withRecorded rt policy input env :=
  Session.queue_of_stored rfl

/-- The condition under which the source pushes a frame. -/
theorem changed_iff {q : RelayQueueState} :
    ((q.receipts.lookup input.requestId).map (·.state) ≠ some (receiptState input.status) ∨
      (q.receipts.lookup input.requestId).bind (·.reason) ≠ input.reason) ↔
      q.reports input = false := by
  unfold RelayQueueState.reports
  cases hlookup : q.receipts.lookup input.requestId with
  | none => simp
  | some e => simp [Classical.or_iff_not_imp_left]

/-- **What recording does** to a receipt of the same delivery, or where there is none. -/
theorem recordDeliveryReceipt_of_own
    (h : (s.queue.prune env.nowMs).heldByOther input = false) :
    recordDeliveryReceipt rt policy s input env =
      if (s.queue.prune env.nowMs).reports input = false then
        pushReceiptFrameToActiveSockets rt (savedReceipt rt policy s input env) input env
      else (savedReceipt rt policy s input env, .returned .done) := by
  have hother : ¬ (s.queue.prune env.nowMs).heldByOther input = true := by
    rw [h]
    exact Bool.false_ne_true
  unfold recordDeliveryReceipt
  refine (if_neg hother).trans ?_
  by_cases hreports : (s.queue.prune env.nowMs).reports input = false
  · rw [if_pos hreports]
    exact if_pos (changed_iff.mpr hreports)
  · rw [if_neg hreports]
    exact if_neg (fun hchanged => hreports (changed_iff.mp hchanged))

/-- Pushing a frame does not touch the storage. -/
theorem pushReceiptFrame_queue :
    (pushReceiptFrameToActiveSockets rt s input env).1.queue = s.queue ∧
      (pushReceiptFrameToActiveSockets rt s input env).1.clock = s.clock := by
  unfold pushReceiptFrameToActiveSockets
  split <;> exact ⟨rfl, rfl⟩

/-- The queue that recording leaves in storage. -/
theorem recordDeliveryReceipt_queue :
    (recordDeliveryReceipt rt policy s input env).1.queue =
      if (s.queue.prune env.nowMs).heldByOther input = true then s.queue.prune env.nowMs
      else (s.queue.prune env.nowMs).withRecorded rt policy input env := by
  cases hother : (s.queue.prune env.nowMs).heldByOther input with
  | true =>
      rw [recordDeliveryReceipt_of_other hother, if_pos rfl]
      exact Session.queue_load s env.nowMs
  | false =>
      rw [recordDeliveryReceipt_of_own hother, if_neg Bool.false_ne_true]
      split
      · rw [pushReceiptFrame_queue.1, savedReceipt_queue]
      · exact savedReceipt_queue

theorem recordDeliveryReceipt_clock :
    (recordDeliveryReceipt rt policy s input env).1.clock = s.clock := by
  have hload := (loadQueueState_spec policy s env.nowMs).2.1
  cases hother : (s.queue.prune env.nowMs).heldByOther input with
  | true =>
      rw [recordDeliveryReceipt_of_other hother]
      exact hload
  | false =>
      rw [recordDeliveryReceipt_of_own hother]
      split
      · rw [pushReceiptFrame_queue.2]
        exact hload
      · exact hload

end

/-! ## Draining -/

/-- The status that a receipt is pushed with: it is not expired, and it is one of the
recipient. -/
def RelayDeliveryReceipt.pushedStatus (receipt : RelayDeliveryReceipt) (nowMs : ℚ) :
    Option ReceiptStatus :=
  if receipt.expiresAtMs ≤ nowMs then none
  else
    match receipt.state with
    | .deliveredToWebhook => some .deliveredToWebhook
    | .deadLettered => some .deadLettered
    | .delivered => none
    | .queued => none

/-- What is pushed for a receipt. -/
def RelayDeliveryReceipt.toRecordInput (receipt : RelayDeliveryReceipt) (status : ReceiptStatus) :
    RelayReceiptRecordInput where
  requestId := receipt.requestId
  senderAgentDid := receipt.senderAgentDid
  recipientAgentDid := receipt.recipientAgentDid
  status := status
  reason := receipt.reason

/-- The receipts of a queue, as `Object.values` lists them in some order. -/
def RelayQueueState.receiptValues (q : RelayQueueState) : List RelayDeliveryReceipt :=
  q.receipts.table.entries.map (·.2)

/-- The loop of `drainReceiptFramesOnReconnect`; `frameIds` are the ULIDs of its frames. -/
def drainReceipts (rt : Runtime) (env : Env) : (ℕ → JsString) → List RelayDeliveryReceipt →
    Session → Session × Call
  | _, [], s => (s, .returned .done)
  | frameIds, receipt :: rest, s =>
      match receipt.pushedStatus env.nowMs with
      | none => drainReceipts rt env frameIds rest s
      | some status =>
          let r := pushReceiptFrameToActiveSockets rt s (receipt.toRecordInput status)
            { env with frameId := frameIds 0 }
          if r.2 = .returned .threw then r
          else drainReceipts rt env (fun n => frameIds (n + 1)) rest r.1

/-- `drainReceiptFramesOnReconnect`; `values` is what `Object.values` answers. -/
def drainReceiptFramesOnReconnect (rt : Runtime) (s : Session) (env : Env)
    (frameIds : ℕ → JsString) (values : List RelayDeliveryReceipt) : Session × Call :=
  if env.sockets = 0 then (s, .returned .done)
  else drainReceipts rt env frameIds values (s.loadQueueState env.nowMs).1

/-! ## Frames of receipts -/

/-- The frame that tells a sender what became of a delivery. -/
def receiptFrame (rt : Runtime) (nowMs : ℚ) (frameId : JsString)
    (input : RelayReceiptRecordInput) : Value :=
  (Frame.receipt { id := frameId, ts := rt.toIso nowMs, originalFrameId := input.requestId,
                   toAgentDid := input.recipientAgentDid, status := input.status,
                   reason := input.reason.map trim }).toJson

/-- A record that the schema of receipt frames takes. -/
def Framable (input : RelayReceiptRecordInput) : Prop :=
  isUlid input.requestId = true ∧ isAgentDid input.recipientAgentDid = true

instance (input : RelayReceiptRecordInput) : Decidable (Framable input) :=
  inferInstanceAs (Decidable (_ ∧ _))

section
variable {rt : Runtime} {env : Env} {input : RelayReceiptRecordInput}

/-- **Which records can be framed**, with an id and a time that are made for the frame. -/
theorem toReceiptFramePayload_eq
    (hbase : FrameBase.isValid rt.platform ⟨env.frameId, rt.toIso env.nowMs⟩ = true)
    (hreason : input.reason.all isNonEmptyString = true) :
    toReceiptFramePayload rt input env =
      if Framable input then some (receiptFrame rt env.nowMs env.frameId input) else none := by
  change Option.map Frame.toJson (Option.map Frame.receipt (ReceiptFrame.validate rt.platform _)) = _
  by_cases hframe : Framable input
  · rw [if_pos hframe, ReceiptFrame.validate_eq_some.mpr ⟨⟨hreason, ?_⟩, rfl⟩]
    · rfl
    · simp [hbase, hframe.1, hframe.2]
  · rw [if_neg hframe, Option.map_map, Option.map_eq_none_iff, Option.eq_none_iff_forall_ne_some]
    intro g hg
    obtain ⟨⟨_, hvalid⟩, _⟩ := ReceiptFrame.validate_eq_some.mp hg
    simp only [Bool.and_eq_true] at hvalid
    exact hframe ⟨hvalid.1.2, hvalid.2⟩

/-- What pushing a record does. -/
theorem pushReceiptFrame_eq {s : Session}
    (hbase : FrameBase.isValid rt.platform ⟨env.frameId, rt.toIso env.nowMs⟩ = true)
    (hreason : input.reason.all isNonEmptyString = true) :
    pushReceiptFrameToActiveSockets rt s input env =
      if Framable input then
        ({ s with history :=
            { s.history with
              pushed := s.history.pushed ++
                List.replicate env.sockets (receiptFrame rt env.nowMs env.frameId input) } },
          .returned .done)
      else (s, .returned .threw) := by
  unfold pushReceiptFrameToActiveSockets
  rw [toReceiptFramePayload_eq hbase hreason]
  by_cases hframe : Framable input
  · rw [if_pos hframe, if_pos hframe]
  · rw [if_neg hframe, if_neg hframe]

/-- The records that the loop has to push, in its order. -/
def dueRecords (nowMs : ℚ) (values : List RelayDeliveryReceipt) : List RelayReceiptRecordInput :=
  values.filterMap fun receipt => (receipt.pushedStatus nowMs).map receipt.toRecordInput

/-- A frame for a record, under some id. -/
def FrameFor (rt : Runtime) (nowMs : ℚ) (input : RelayReceiptRecordInput) (frame : Value) : Prop :=
  ∃ frameId, frame = receiptFrame rt nowMs frameId input

/-- **The loop pushes the records up to the first that cannot be framed.** -/
theorem drainReceipts_spec (values : List RelayDeliveryReceipt)
    (hreasons : ∀ receipt ∈ values, receipt.reason.all isNonEmptyString = true) :
    ∀ (frameIds : ℕ → JsString) (s : Session),
      (∀ n, FrameBase.isValid rt.platform ⟨frameIds n, rt.toIso env.nowMs⟩ = true) →
      ∃ frames, (drainReceipts rt env frameIds values s).1.history.pushed =
          s.history.pushed ++ frames.flatMap (List.replicate env.sockets) ∧
        List.Forall₂ (FrameFor rt env.nowMs)
          ((dueRecords env.nowMs values).takeWhile fun input => decide (Framable input)) frames := by
  induction values with
  | nil =>
      intro frameIds s _
      exact ⟨[], (List.append_nil _).symm, .nil⟩
  | cons receipt rest ih =>
      intro frameIds s hids
      have hrest := ih fun r hr => hreasons r (List.mem_cons_of_mem _ hr)
      unfold drainReceipts
      cases hstatus : receipt.pushedStatus env.nowMs with
      | none =>
          have hdue : dueRecords env.nowMs (receipt :: rest) = dueRecords env.nowMs rest := by
            simp [dueRecords, hstatus]
          rw [hdue]
          exact hrest frameIds s hids
      | some status =>
          have hdue : dueRecords env.nowMs (receipt :: rest) =
              receipt.toRecordInput status :: dueRecords env.nowMs rest := by
            simp [dueRecords, hstatus]
          have hpush : pushReceiptFrameToActiveSockets rt s (receipt.toRecordInput status)
              { env with frameId := frameIds 0 } = _ :=
            pushReceiptFrame_eq (hids 0) (hreasons receipt List.mem_cons_self)
          simp only [hpush, hdue]
          by_cases hframe : Framable (receipt.toRecordInput status)
          · obtain ⟨frames, hpushed, hframes⟩ := hrest (fun n => frameIds (n + 1))
              { s with history :=
                { s.history with
                  pushed := s.history.pushed ++ List.replicate env.sockets
                    (receiptFrame rt env.nowMs (frameIds 0) (receipt.toRecordInput status)) } }
              (fun n => hids (n + 1))
            refine ⟨receiptFrame rt env.nowMs (frameIds 0) (receipt.toRecordInput status) :: frames,
              ?_, ?_⟩
            · simp only [if_pos hframe, reduceCtorEq, if_false, Call.returned.injEq]
              rw [hpushed, List.flatMap_cons, List.append_assoc]
            · rw [List.takeWhile_cons_of_pos (p := fun input => decide (Framable input))
                (decide_eq_true hframe)]
              exact .cons ⟨frameIds 0, rfl⟩ hframes
          · refine ⟨[], ?_, ?_⟩
            · simp [if_neg hframe]
            · rw [List.takeWhile_cons_of_neg (p := fun input => decide (Framable input))
                (by simpa using hframe)]
              exact .nil

end

/-! ## The receipts of a run -/

/-- Every receipt of the queue has the property. -/
def ReceiptsAll (P : RelayDeliveryReceipt → Prop) (q : RelayQueueState) : Prop :=
  ∀ id receipt, q.receipts.lookup id = some receipt → P receipt

/-- A property that every receipt has which the code writes for the requests. -/
structure Written (rt : Runtime) (policy : RelayDeliveryPolicy)
    (asked : RelayReceiptRecordInput → Prop) (P : RelayDeliveryReceipt → Prop) : Prop where
  delivery : ∀ input deliveryId state expiresAtMs nowMs,
    P (deliveryReceipt rt input deliveryId state expiresAtMs nowMs)
  recorded : ∀ existing input env, asked input →
    P (recordedReceipt rt policy existing input env)

/-- The snapshot of a call that waits has the property, and a delivery that waits had no
receipt. -/
structure CallReceipts (P : RelayDeliveryReceipt → Prop) (c : Call) : Prop where
  queue : ∀ q, c.queue = some q → ReceiptsAll P q
  fresh : ∀ call await, c = .delivering call await →
    existingReceipt call.snapshot call.input call.nowMs = none

structure PoolReceipts (P : RelayDeliveryReceipt → Prop) (p : Pool Session Call) : Prop where
  stored : ReceiptsAll P p.shared.queue
  calls : ∀ c ∈ p.calls, CallReceipts P c

section
variable {rt : Runtime} {policy : RelayDeliveryPolicy}
  {asked : RelayReceiptRecordInput → Prop} {P : RelayDeliveryReceipt → Prop} {q q' : RelayQueueState} {s : Session} {env : Env}
  {request : Option Request} {nowMs : ℚ} {r : Session × Call}

theorem ReceiptsAll.edits (hq : ReceiptsAll P q) (h : Edits policy nowMs q q') :
    ReceiptsAll P q' :=
  fun id receipt hfound => hq id receipt (h.lookup hfound)

theorem ReceiptsAll.upsert {receipt : RelayDeliveryReceipt} (hq : ReceiptsAll P q)
    (h : P receipt) : ReceiptsAll P (q.upsertReceipt receipt) := by
  intro id found hfound
  rcases Receipts.lookup_upsert hfound with rfl | hold
  · exact h
  · exact hq id found hold

theorem callReceipts_returned {response : Response} : CallReceipts P (.returned response) := by
  constructor
  · intro q hq
    cases hq
  · intro call await hcall
    cases hcall

/-- A piece of code writes only receipts with the property. -/
theorem turn_receipts (he : Turn rt policy env request nowMs s q r)
    (hw : Written rt policy asked P)
    (hasked : ∀ input, request = some (.recordDeliveryReceipt input) → asked input)
    (hs : ReceiptsAll P s.queue) (hq : ReceiptsAll P q) :
    ReceiptsAll P r.1.queue ∧ CallReceipts P r.2 := by
  cases he with
  | @answer s' response hstored hclock hhistory hdelivery =>
      rw [Session.queue, hstored]
      exact ⟨hs, callReceipts_returned⟩
  | @edited s' q' hrequest hedits hstored hclock hhistory =>
      rw [Session.queue_of_stored hstored]
      exact ⟨hq.edits hedits, callReceipts_returned⟩
  | @delivered s' input result hrequest hnew hstored hclock hhistory =>
      rw [Session.queue_of_stored hstored]
      exact ⟨hq.upsert (hw.delivery _ _ _ _ _), callReceipts_returned⟩
  | @queued s' input result d hrequest hnew htriple hid hexpires hstored hclock hhistory =>
      rw [Session.queue_of_stored hstored]
      have happend : ReceiptsAll P (q.append [d]) := hq
      exact ⟨happend.upsert (hw.delivery _ _ _ _ _), callReceipts_returned⟩
  | @recorded s' input response pushed hrequest hmine hnow hstored hclock hhistory hresponse =>
      rw [Session.queue_of_stored hstored]
      exact ⟨hq.upsert (hw.recorded _ _ _ (hasked _ hrequest)), callReceipts_returned⟩
  | @delivering s' call await hrequest hnew hsnapshot hnow hawait hstored hclock hhistory =>
      rw [Session.queue, hstored]
      refine ⟨hs, ?_, ?_⟩
      · intro q₁ hq₁
        cases hq₁
        rw [hsnapshot]
        exact hq
      · intro call' await' hcall
        cases hcall
        rw [hsnapshot, hnow]
        exact hnew
  | @processing s' call await hrequest hedits hnow hstored hclock hhistory =>
      rw [Session.queue, hstored]
      refine ⟨hs, ?_, fun call' await' hcall => by cases hcall⟩
      intro q₁ hq₁
      cases hq₁
      exact hq.edits hedits

theorem ReceiptsAll.settled {call : Processing} (hw : Written rt policy asked P)
    (hq : ReceiptsAll P call.queue) (outcome : Outcome) :
    ReceiptsAll P (call.settledQueue rt policy outcome) := by
  unfold Processing.settledQueue
  by_cases hacked : outcome = .acked true
  · rw [if_pos hacked]
    have hrest : ReceiptsAll P (call.before.append call.rest) := hq
    exact hrest.upsert (hw.delivery _ _ _ _ _)
  · rw [if_neg hacked]
    exact hq

theorem receipts_step {p p' : Pool Session Call} {e : Move (Request × Env) Choice}
    (hw : Written rt policy asked P) (hp : PoolReceipts P p)
    (hasked : ∀ input env, e = .start (.recordDeliveryReceipt input, env) → asked input)
    (hstep : (program rt policy).step p e = some p') : PoolReceipts P p' := by
  rcases Program.step_cases hstep with
    ⟨⟨a, env⟩, s', c', rfl, hstart, rfl⟩ | ⟨i, choice, c, s', c', rfl, hi, hresume, rfl⟩
  · obtain ⟨t, htick, hhandle⟩ := Option.map_eq_some_iff.mp hstart
    have ht : ReceiptsAll P t.queue := by
      rw [(tick_spec htick).2.2.2]
      exact hp.stored
    have hpruned : ReceiptsAll P (t.queue.prune env.nowMs) :=
      ht.edits (edits_prune policy env.nowMs t.queue)
    have hloaded : ReceiptsAll P (t.loadQueueState env.nowMs).1.queue := by
      rw [Session.queue_load]
      exact hpruned
    obtain ⟨hs', hc'⟩ := turn_receipts (handle_turn rt policy t a env) hw
      (fun input hinput => hasked input env (by rw [Option.some.inj hinput])) hloaded hpruned
    rw [hhandle] at hs' hc'
    refine ⟨hs', ?_⟩
    intro d hd
    rcases List.mem_append.mp hd with hd | hd
    · exact hp.calls d hd
    · rw [List.mem_singleton.mp hd]
      exact hc'
  · have hc := hp.calls c (List.mem_of_getElem? hi)
    have hr : ReceiptsAll P s'.queue ∧ CallReceipts P c' := by
      cases choice with
      | settle outcome =>
          obtain ⟨hstored, _, _, hqueue, _⟩ := settle_spec hresume
          refine ⟨?_, fun q hq => hc.queue q (hqueue ▸ hq), ?_⟩
          · have hsame : s'.queue = p.shared.queue := by
              rw [Session.queue, Session.queue, hstored]
            rw [hsame]
            exact hp.stored
          · intro call await hcall
            obtain ⟨call', rfl, heq⟩ | ⟨call', rfl, heq⟩ := settle_cases hresume
            · cases heq
              cases hcall
              exact hc.fresh _ _ rfl
            · cases heq
              cases hcall
      | proceed env =>
          obtain ⟨t, htick, hproceed⟩ := Option.bind_eq_some_iff.mp hresume
          have ht : ReceiptsAll P t.queue := by
            rw [(tick_spec htick).2.2.2]
            exact hp.stored
          rcases proceed_turn hc.fresh hproceed with
            ⟨call, outcome, rfl, he⟩ | ⟨call, outcome, rfl, he⟩
          · exact turn_receipts he hw (fun input hinput => by cases hinput) ht
              (hc.queue _ rfl)
          · exact turn_receipts he hw (fun a ha => by cases ha) ht
              ((hc.queue _ rfl).settled hw outcome)
    refine ⟨hr.1, ?_⟩
    intro d hd
    rcases List.mem_or_eq_of_mem_set hd with hd | rfl
    · exact hp.calls d hd
    · exact hr.2

/-- **Every run** of the requests keeps only receipts with the property. -/
theorem run_receipts {moves : List (Move (Request × Env) Choice)} {p : Pool Session Call}
    (hw : Written rt policy asked P)
    (hasked : ∀ input env, .start (.recordDeliveryReceipt input, env) ∈ moves → asked input)
    (hrun : exec (program rt policy).step idle moves = some p) :
    ReceiptsAll P p.shared.queue := by
  have hidle : PoolReceipts P idle := by
    constructor
    · intro id receipt hfound
      cases hfound
    · intro c hc
      cases hc
  have hmoves : AllSteps (program rt policy).step (fun _ e => ∀ input env,
      e = .start (.recordDeliveryReceipt input, env) → asked input) idle moves := by
    apply allSteps_of_forall
    intro e he _ input env heq
    subst heq
    exact hasked input env he
  exact (exec_invariant (PoolReceipts P) (fun _ _ _ hi hmove hstep => receipts_step hw hi hmove hstep)
    hidle hmoves hrun).stored

end

end Clawdentity.Relay
