import Clawdentity.Proxy.Relay.Exits

/-!
# What holds of every stored queue

The deliveries and the receipts of a queue are changed together by six pieces of code, and
a request id may be used by several senders. In whatever order the calls of a session run,
a receipt that says `"queued"` is the receipt of exactly one delivery in the queue, the
deliveries have their own ids, and neither the length of the queue nor the attempts on a
delivery pass their bounds.

## Main definitions

* `WellFormed` — the representation invariant of a queue.
* `Live` — nothing in a queue is expired.
* `drawnUlid` — the ULID that a move draws for a delivery or a receipt.
* `relay_queue_well_formed` — every run keeps the invariant.
-/

namespace Clawdentity.Relay

open Js Lib Connector Lib.Interleave Lib.Run

/-- The representation invariant of a queue. -/
structure WellFormed (policy : RelayDeliveryPolicy) (q : RelayQueueState) : Prop where
  keyed : ∀ id receipt, q.receipts.lookup id = some receipt → receipt.requestId = id
  /-- A queued receipt has exactly one delivery. -/
  entry : ∀ id receipt, q.receipts.lookup id = some receipt → receipt.state = .queued →
    q.deliveries.countP (fun d => decide (receipt.IsOf d.toDeliveryCore)) = 1
  distinct : (q.deliveries.map fun d => d.deliveryId).Nodup
  bounded : q.deliveries.length ≤ policy.queueMaxMessagesPerAgent
  attempts : ∀ d ∈ q.deliveries, d.attemptCount < policy.retryMaxAttempts

/-- Nothing in the queue is expired. -/
structure Live (nowMs : ℚ) (q : RelayQueueState) : Prop where
  deliveries : ∀ d ∈ q.deliveries, nowMs < d.expiresAtMs
  receipts : ∀ id receipt, q.receipts.lookup id = some receipt → nowMs < receipt.expiresAtMs

/-- The stored value is one that `saveQueueState` has written. -/
def Session.Encoded (s : Session) : Prop := s.stored = none ∨ s.stored = some s.queue.encode

/-- The ULID that a move draws for a delivery or for a receipt. -/
def drawnUlid : Move (Request × Env) Choice → Option JsString
  | .start (.deliverToConnector _, env) => some env.ulid
  | .start (.recordDeliveryReceipt _, env) => some env.ulid
  | _ => none

/-! ## Queues -/

/-- The invariant by the numbers of attempts, where the ids of the deliveries were drawn. -/
structure Linked (policy : RelayDeliveryPolicy) (drawn : List JsString) (q : RelayQueueState) :
    Prop where
  entry : ∀ id receipt, q.receipts.lookup id = some receipt → receipt.state = .queued →
    ∃ x ∈ q.counted, receipt.IsOf x.1
  distinct : (q.counted.map fun x => x.1.deliveryId).Nodup
  bounded : q.counted.length ≤ policy.queueMaxMessagesPerAgent
  attempts : ∀ x ∈ q.counted, x.2 < policy.retryMaxAttempts
  drawn : ∀ x ∈ q.counted, x.1.deliveryId ∈ drawn

/-- What is not queued under the id of a deleted receipt is not one of its delivery. -/
theorem RelayQueueState.lookup_deleteQueuedReceipt_self {q : RelayQueueState}
    {requestId deliveryId : JsString} {found : RelayDeliveryReceipt}
    (h : (q.deleteQueuedReceipt requestId deliveryId).receipts.lookup requestId = some found)
    (hstate : found.state = .queued) : found.deliveryId ≠ deliveryId := by
  intro hid
  have hfound := lookup_deleteQueuedReceipt h
  have hmine : ¬ (found.deliveryId ≠ deliveryId ∨ found.state ≠ .queued) := by
    rw [not_or, not_not, not_not]
    exact ⟨hid, hstate⟩
  unfold deleteQueuedReceipt at h
  simp only [hfound, if_neg hmine] at h
  exact absurd h (by simp [Receipts.lookup, Receipts.erase, AList.lookup_erase])

section
variable {rt : Runtime} {policy : RelayDeliveryPolicy} {drawn drawn' : List JsString}
  {q q' : RelayQueueState} {nowMs : ℚ} {env : Env} {s : Session} {r : Session × Call}
  {deliveryId : JsString}

theorem Linked.mono (hq : Linked policy drawn q) (h : ∀ id ∈ drawn, id ∈ drawn') :
    Linked policy drawn' q :=
  ⟨hq.entry, hq.distinct, hq.bounded, hq.attempts, fun x hx => h _ (hq.drawn x hx)⟩

/-- The same deliveries, and no new queued receipt. -/
theorem Linked.congr (hq : Linked policy drawn q) (hcounted : q'.counted.Perm q.counted)
    (hreceipts : ∀ id receipt, q'.receipts.lookup id = some receipt → receipt.state = .queued →
      q.receipts.lookup id = some receipt) : Linked policy drawn q' where
  entry id receipt hfound hstate := by
    obtain ⟨x, hx, hof⟩ := hq.entry id receipt (hreceipts id receipt hfound hstate) hstate
    exact ⟨x, hcounted.mem_iff.mpr hx, hof⟩
  distinct := ((hcounted.map _).nodup_iff).mpr hq.distinct
  bounded := hcounted.length_eq ▸ hq.bounded
  attempts x hx := hq.attempts x (hcounted.mem_iff.mp hx)
  drawn x hx := hq.drawn x (hcounted.mem_iff.mp hx)

/-- A delivery goes, and with it every queued receipt that is its own. -/
theorem Linked.remove {x : DeliveryCore × ℕ} (hq : Linked policy drawn q)
    (hcounted : q.counted.Perm (x :: q'.counted))
    (hreceipts : ∀ id receipt, q'.receipts.lookup id = some receipt → receipt.state = .queued →
      q.receipts.lookup id = some receipt ∧ ¬ receipt.IsOf x.1) : Linked policy drawn q' := by
  have hmem : ∀ y ∈ q'.counted, y ∈ q.counted :=
    fun y hy => hcounted.mem_iff.mpr (List.mem_cons_of_mem x hy)
  refine ⟨?_, ?_, ?_, fun y hy => hq.attempts y (hmem y hy), fun y hy => hq.drawn y (hmem y hy)⟩
  · intro id receipt hfound hstate
    obtain ⟨hbefore, hother⟩ := hreceipts id receipt hfound hstate
    obtain ⟨y, hy, hof⟩ := hq.entry id receipt hbefore hstate
    rcases List.mem_cons.mp (hcounted.mem_iff.mp hy) with rfl | hy
    · exact absurd hof hother
    · exact ⟨y, hy, hof⟩
  · have hnodup := ((hcounted.map fun x => x.1.deliveryId).nodup_iff).mp hq.distinct
    rw [List.map_cons, List.nodup_cons] at hnodup
    exact hnodup.2
  · have hlength := hcounted.length_eq
    rw [List.length_cons] at hlength
    have hbounded := hq.bounded
    omega

/-- The same deliveries with other numbers of attempts. -/
theorem Linked.recount (hq : Linked policy drawn q)
    (hcores : q'.counted.map Prod.fst = q.counted.map Prod.fst)
    (hreceipts : q'.receipts = q.receipts)
    (hattempts : ∀ x ∈ q'.counted, x.2 < policy.retryMaxAttempts) : Linked policy drawn q' := by
  refine ⟨?_, ?_, ?_, hattempts, ?_⟩
  · intro id found hfound hstate
    obtain ⟨x, hx, hof⟩ := hq.entry id found (hreceipts ▸ hfound) hstate
    have hcore : x.1 ∈ q'.counted.map Prod.fst := hcores ▸ List.mem_map_of_mem hx
    obtain ⟨y, hy, heq⟩ := List.mem_map.mp hcore
    exact ⟨y, hy, heq ▸ hof⟩
  · have hids := congrArg (List.map DeliveryCore.deliveryId) hcores
    rw [List.map_map, List.map_map] at hids
    exact hids ▸ hq.distinct
  · have hlength := congrArg List.length hcores
    rw [List.length_map, List.length_map] at hlength
    exact hlength ▸ hq.bounded
  · intro x hx
    have hcore : x.1 ∈ q.counted.map Prod.fst := hcores ▸ List.mem_map_of_mem hx
    obtain ⟨y, hy, heq⟩ := List.mem_map.mp hcore
    exact heq ▸ hq.drawn y hy

/-- A delivery goes with its queued receipt. -/
theorem Linked.drop {x : DeliveryCore × ℕ} (hq : Linked policy drawn q)
    (hcounted : q.counted.Perm (x :: q'.counted))
    (hreceipts : q'.receipts = (q.deleteQueuedReceipt x.1.requestId x.1.deliveryId).receipts) :
    Linked policy drawn q' := by
  refine hq.remove hcounted fun id receipt hfound hstate => ?_
  rw [hreceipts] at hfound
  refine ⟨RelayQueueState.lookup_deleteQueuedReceipt hfound, fun hof => ?_⟩
  have hid : x.1.requestId = id := hof.requestId.trans (Receipts.requestId_of_lookup
    (RelayQueueState.lookup_deleteQueuedReceipt hfound))
  subst hid
  exact RelayQueueState.lookup_deleteQueuedReceipt_self hfound hstate hof.deliveryId.symm

/-- **What the code does to a queue between two awaits keeps it linked.** -/
theorem Linked.edits (hq : Linked policy drawn q) (he : Edits policy nowMs q q') :
    Linked policy drawn q' := by
  induction he with
  | retime hcounted hreceipts =>
      exact hq.congr hcounted fun _ _ hfound _ => by rwa [← hreceipts]
  | drop hx hcounted hreceipts => exact hq.drop hcounted hreceipts
  | expire hlive => exact hq.congr (.refl _) fun _ _ hfound _ => Receipts.lookup_keep hfound
  | trans _ _ ih ih' => exact ih' (ih hq)

theorem Linked.upsert {receipt : RelayDeliveryReceipt} (hq : Linked policy drawn q)
    (hstate : receipt.state ≠ .queued) : Linked policy drawn (q.upsertReceipt receipt) := by
  refine hq.congr (.refl _) fun id found hfound hqueued => ?_
  rcases Receipts.lookup_upsert hfound with rfl | hfound
  · exact absurd hqueued hstate
  · exact hfound

/-- **A request keeps the queue linked**, with a delivery id that no delivery in it has. -/
theorem Linked.rewrites (hq : Linked policy drawn q) (hid : deliveryId ∈ drawn)
    (hfresh : ∀ x ∈ q.counted, x.1.deliveryId ≠ deliveryId)
    (h : Rewrites policy deliveryId q q') : Linked policy drawn q' := by
  cases h with
  | receipt hstate => exact hq.upsert hstate
  | @push d receipt hdelivery hreceipt hroom hleft =>
      have hcounted : ((q.append [d]).upsertReceipt receipt).counted =
          q.counted ++ [(d.toDeliveryCore, d.attemptCount)] := by simp
      have hmem : ∀ x ∈ ((q.append [d]).upsertReceipt receipt).counted,
          x ∈ q.counted ∨ x = (d.toDeliveryCore, d.attemptCount) := by
        intro x hx
        rw [hcounted] at hx
        exact (List.mem_append.mp hx).imp_right List.mem_singleton.mp
      refine ⟨?_, ?_, ?_, ?_, ?_⟩
      · intro id found hfound hstate
        rw [hcounted]
        rcases Receipts.lookup_upsert hfound with rfl | hfound
        · exact ⟨_, List.mem_append_right _ (List.mem_singleton.mpr rfl), hreceipt⟩
        · obtain ⟨x, hx, hof⟩ := hq.entry id found hfound hstate
          exact ⟨x, List.mem_append_left _ hx, hof⟩
      · rw [hcounted, List.map_append, List.nodup_append]
        refine ⟨hq.distinct, List.nodup_singleton _, ?_⟩
        intro a ha b hb
        obtain ⟨x, hx, rfl⟩ := List.mem_map.mp ha
        rw [List.mem_singleton.mp hb]
        exact fun heq => hfresh x hx (heq.trans hdelivery)
      · rw [hcounted, List.length_append, List.length_singleton, RelayQueueState.counted,
          List.length_map]
        exact hroom
      · intro x hx
        rcases hmem x hx with hx | rfl
        · exact hq.attempts x hx
        · exact hleft
      · intro x hx
        rcases hmem x hx with hx | rfl
        · exact hq.drawn x hx
        · exact hdelivery ▸ hid

/-- **The answer to an attempt keeps the queue linked.** -/
theorem Linked.answered {call : Processing} (hq : Linked policy drawn call.queue)
    (outcome : Outcome) : Linked policy drawn (call.answeredQueue rt policy outcome) := by
  have hperm : call.queue.counted.Perm ((call.current.toDeliveryCore, call.current.attemptCount) ::
      (call.before.append call.rest).counted) := by
    simp only [Processing.queue, RelayQueueState.append_counted, List.map_cons]
    exact List.perm_middle
  unfold Processing.answeredQueue
  by_cases hacked : outcome = .acked true
  · rw [if_pos hacked]
    refine hq.remove hperm fun id found hfound hstate => ?_
    have hne : (call.acceptedReceipt rt policy).state ≠ .queued := by
      simp [Processing.acceptedReceipt, deliveryReceipt]
    have hid : id ≠ call.current.requestId := by
      intro hid
      subst hid
      have hself : ((call.before.append call.rest).upsertReceipt
          (call.acceptedReceipt rt policy)).receipts.lookup call.current.requestId =
            some (call.acceptedReceipt rt policy) := Receipts.lookup_upsert_self
      rw [hself] at hfound
      cases hfound
      exact hne hstate
    have hbefore : call.queue.receipts.lookup id = some found := by
      rcases Receipts.lookup_upsert hfound with rfl | hfound
      · exact absurd hstate hne
      · exact hfound
    exact ⟨hbefore, fun hof => hid ((Receipts.requestId_of_lookup hbefore).symm.trans
      hof.requestId.symm)⟩
  rw [if_neg hacked]
  by_cases hspent : policy.retryMaxAttempts ≤ call.current.attemptCount + 1
  · rw [if_pos hspent]
    refine Linked.drop hq (x := (call.current.toDeliveryCore, call.current.attemptCount)) ?_ ?_
    · simpa only [RelayQueueState.append_counted,
        RelayQueueState.deleteQueuedReceipt_counted] using hperm
    · have hsame : call.before.receipts = call.queue.receipts := rfl
      exact RelayQueueState.deleteQueuedReceipt_congr hsame _ _
  · rw [if_neg hspent]
    refine hq.recount ?_ rfl ?_
    · simp [Processing.queue, QueuedRelayDelivery.tried]
    · intro x hx
      simp only [RelayQueueState.append_counted, List.map_cons, List.mem_append,
        List.mem_cons, QueuedRelayDelivery.tried] at hx
      rcases hx with hx | rfl | hx
      · exact hq.attempts x (hperm.mem_iff.mpr (by simp [hx]))
      · exact not_le.mp hspent
      · exact hq.attempts x (hperm.mem_iff.mpr (by simp [hx]))

/-- A linked queue meets the representation invariant. -/
theorem Linked.wellFormed (hq : Linked policy drawn q) : WellFormed policy q where
  keyed _ _ hfound := Receipts.requestId_of_lookup hfound
  entry id receipt hfound hstate := by
    have hdistinct : (q.deliveries.map fun d => d.deliveryId).Nodup := by
      have hnodup := hq.distinct
      rwa [RelayQueueState.counted, List.map_map] at hnodup
    have hle : q.deliveries.countP (fun d => decide (receipt.IsOf d.toDeliveryCore)) ≤ 1 :=
      calc q.deliveries.countP (fun d => decide (receipt.IsOf d.toDeliveryCore))
          ≤ q.deliveries.countP (fun d => d.deliveryId == receipt.deliveryId) :=
            List.countP_mono_left fun _ _ hof =>
              beq_iff_eq.mpr (of_decide_eq_true hof).deliveryId
        _ = (q.deliveries.map fun d => d.deliveryId).count receipt.deliveryId := by
            rw [List.count_eq_countP, List.countP_map]
            rfl
        _ ≤ 1 := List.nodup_iff_count_le_one.mp hdistinct _
    have hpos : 0 < q.deliveries.countP (fun d => decide (receipt.IsOf d.toDeliveryCore)) := by
      obtain ⟨x, hx, hof⟩ := hq.entry id receipt hfound hstate
      obtain ⟨d, hd, rfl⟩ := List.mem_map.mp hx
      exact List.countP_pos_iff.mpr ⟨d, hd, decide_eq_true hof⟩
    exact Nat.le_antisymm hle hpos
  distinct := by
    have hnodup := hq.distinct
    rwa [RelayQueueState.counted, List.map_map] at hnodup
  bounded := by
    have hlength := hq.bounded
    rwa [RelayQueueState.counted, List.length_map] at hlength
  attempts d hd := hq.attempts _ (List.mem_map_of_mem hd)

/-- Nothing that is loaded is expired. -/
theorem live_prune (q : RelayQueueState) (nowMs : ℚ) : Live nowMs (q.prune nowMs) where
  deliveries _ hd := of_decide_eq_true (List.mem_filter.mp hd).2
  receipts _ _ hfound := of_decide_eq_true (Table.lookup_keep_eq_some.mp hfound).2

/-! ## Sessions -/

/-- What is stored was written from a linked queue. -/
structure SessionLinked (policy : RelayDeliveryPolicy) (drawn : List JsString) (s : Session) :
    Prop where
  encoded : s.Encoded
  queue : Linked policy drawn s.queue

/-- A call waits with a linked queue, and no delivery in it has the id that the call has
drawn. -/
structure CallLinked (policy : RelayDeliveryPolicy) (drawn : List JsString) (c : Call) : Prop where
  queue : ∀ q, c.queue = some q → Linked policy drawn q
  fresh : ∀ call await, c = .delivering call await → call.deliveryId ∈ drawn ∧
    ∀ x ∈ call.snapshot.counted, x.1.deliveryId ≠ call.deliveryId

structure PoolLinked (policy : RelayDeliveryPolicy) (drawn : List JsString)
    (p : Pool Session Call) : Prop where
  shared : SessionLinked policy drawn p.shared
  calls : ∀ c ∈ p.calls, CallLinked policy drawn c

theorem SessionLinked.of_stored {s' : Session} (hs : SessionLinked policy drawn s)
    (h : s'.stored = s.stored) : SessionLinked policy drawn s' := by
  have hqueue : s'.queue = s.queue := by rw [Session.queue, Session.queue, h]
  refine ⟨?_, hqueue ▸ hs.queue⟩
  rw [Session.Encoded, h, hqueue]
  exact hs.encoded

theorem SessionLinked.of_saved (hq : Linked policy drawn q) (h : s.stored = some q.encode) :
    SessionLinked policy drawn s := by
  have hqueue := Session.queue_of_stored h
  refine ⟨.inr ?_, hqueue ▸ hq⟩
  rw [h, hqueue]

theorem SessionLinked.load (hs : SessionLinked policy drawn s) (nowMs : ℚ) :
    SessionLinked policy drawn (s.loadQueueState nowMs).1 ∧
      Linked policy drawn (s.loadQueueState nowMs).2 := by
  have hpruned : Linked policy drawn (s.queue.prune nowMs) :=
    hs.queue.edits (edits_prune policy nowMs s.queue)
  refine ⟨?_, hpruned⟩
  unfold Session.loadQueueState
  cases hprunes : (RelayQueueState.decode s.stored).prunes nowMs with
  | true =>
      simp only [hprunes, if_true]
      exact .of_saved hpruned rfl
  | false =>
      simp only [hprunes, if_false, Bool.false_eq_true]
      exact hs

theorem callLinked_returned {response : Response} : CallLinked policy drawn (.returned response) :=
  ⟨fun _ hq => (by cases hq), fun _ _ hcall => (by cases hcall)⟩

theorem CallLinked.mono {c : Call} (hc : CallLinked policy drawn c)
    (h : ∀ id ∈ drawn, id ∈ drawn') : CallLinked policy drawn' c :=
  ⟨fun q hq => (hc.queue q hq).mono h,
    fun call await hcall => ⟨h _ (hc.fresh call await hcall).1, (hc.fresh call await hcall).2⟩⟩

theorem PoolLinked.mono {p : Pool Session Call} (hp : PoolLinked policy drawn p)
    (h : ∀ id ∈ drawn, id ∈ drawn') : PoolLinked policy drawn' p :=
  ⟨⟨hp.shared.encoded, hp.shared.queue.mono h⟩, fun c hc => (hp.calls c hc).mono h⟩

/-! ## Moves -/

theorem processed_linked (he : Processed policy env nowMs s q r)
    (hs : SessionLinked policy drawn s) (hq : Linked policy drawn q) :
    SessionLinked policy drawn r.1 ∧ CallLinked policy drawn r.2 := by
  cases he with
  | saved hedits hstored halarm hclock =>
      exact ⟨.of_saved (hq.edits hedits) hstored, callLinked_returned⟩
  | unsaved hloaded hperm hstored halarm hclock =>
      exact ⟨hs.of_stored hstored, callLinked_returned⟩
  | waiting hedits hnow hstored halarm hclock =>
      refine ⟨hs.of_stored hstored, ?_, fun _ _ hcall => by cases hcall⟩
      intro q₁ hq₁
      cases hq₁
      exact hq.edits hedits

theorem exit_linked (he : Exit policy env nowMs deliveryId s q r)
    (hs : SessionLinked policy drawn s) (hq : Linked policy drawn q) (hid : deliveryId ∈ drawn)
    (hfresh : ∀ x ∈ q.counted, x.1.deliveryId ≠ deliveryId) :
    SessionLinked policy drawn r.1 ∧ CallLinked policy drawn r.2 := by
  cases he with
  | answered hstored halarm hclock => exact ⟨hs.of_stored hstored, callLinked_returned⟩
  | written hrewrites hstored halarm hclock =>
      exact ⟨.of_saved (hq.rewrites hid hfresh hrewrites) hstored, callLinked_returned⟩
  | delivering hdrawn hsnapshot hnow hstored halarm hclock =>
      refine ⟨hs.of_stored hstored, ?_, ?_⟩
      · intro q₁ hq₁
        cases hq₁
        exact hsnapshot ▸ hq
      · intro call await hcall
        cases hcall
        rw [hdrawn, hsnapshot]
        exact ⟨hid, hfresh⟩
  | processed h => exact processed_linked h hs hq

/-- **A call up to its first await keeps the session linked**, if it draws a new ULID. -/
theorem handle_linked (rt : Runtime) {request : Request} (hs : SessionLinked policy drawn s)
    (hdrawn : ∀ id ∈ drawnUlid (.start (request, env)),
      id ∈ drawn ∧ ∀ x ∈ (s.loadQueueState env.nowMs).2.counted, x.1.deliveryId ≠ id) :
    SessionLinked policy drawn (handle rt policy s request env).1 ∧
      CallLinked policy drawn (handle rt policy s request env).2 := by
  obtain ⟨hs', hq⟩ := hs.load env.nowMs
  cases request with
  | deliverToConnector input =>
      obtain ⟨hid, hfresh⟩ := hdrawn env.ulid rfl
      exact exit_linked deliverToConnector_exit hs' hq hid hfresh
  | recordDeliveryReceipt input =>
      obtain ⟨hid, hfresh⟩ := hdrawn env.ulid rfl
      exact exit_linked recordDeliveryReceipt_exit hs' hq hid hfresh
  | getDeliveryReceipt input => exact ⟨hs', callLinked_returned⟩
  | alarm => exact processed_linked (alarm_processed rt policy s env) hs' hq
  | drainQueueOnReconnect =>
      exact processed_linked (drainQueueOnReconnect_processed rt policy s env) hs' hq
  | scheduleFromStorage =>
      exact processed_linked (scheduleFromStorage_processed policy s env) hs' hq

/-- **A call after an await keeps the session linked.** -/
theorem proceed_linked {c : Call} (hs : SessionLinked policy drawn s)
    (hc : CallLinked policy drawn c) (h : proceed rt policy s env c = some r) :
    SessionLinked policy drawn r.1 ∧ CallLinked policy drawn r.2 := by
  rcases proceed_exit h with ⟨call, outcome, rfl, he⟩ | ⟨call, outcome, rfl, he⟩
  · obtain ⟨hid, hfresh⟩ := hc.fresh call _ rfl
    exact exit_linked he hs (hc.queue _ rfl) hid hfresh
  · exact processed_linked he (hs.of_stored rfl) ((hc.queue _ rfl).answered outcome)

theorem settle_linked {c : Call} {outcome : Outcome} (hs : SessionLinked policy drawn s)
    (hc : CallLinked policy drawn c) (h : settle s outcome c = some r) :
    SessionLinked policy drawn r.1 ∧ CallLinked policy drawn r.2 := by
  obtain ⟨hstored, _, _, hqueue, _⟩ := settle_spec h
  refine ⟨hs.of_stored hstored, fun q hq => hc.queue q (hqueue ▸ hq), ?_⟩
  match c, h with
  | .delivering call .waiting, h =>
      cases h
      intro call' await hcall
      cases hcall
      exact hc.fresh call _ rfl
  | .processing call .waiting, h =>
      cases h
      exact fun _ _ hcall => by cases hcall

theorem resume_linked {c : Call} {choice : Choice} (hs : SessionLinked policy drawn s)
    (hc : CallLinked policy drawn c) (h : (program rt policy).resume s c choice = some r) :
    SessionLinked policy drawn r.1 ∧ CallLinked policy drawn r.2 := by
  cases choice with
  | settle outcome => exact settle_linked hs hc h
  | proceed env =>
      obtain ⟨t, htick, hproceed⟩ := Option.bind_eq_some_iff.mp h
      exact proceed_linked (hs.of_stored (tick_unchanged htick).1) hc hproceed

/-- **One move keeps the pool linked**, if it draws a new ULID. -/
theorem poolLinked_step {p p' : Pool Session Call} {e : Move (Request × Env) Choice}
    (hp : PoolLinked policy drawn p) (hnew : ∀ id ∈ drawnUlid e, id ∉ drawn)
    (hstep : (program rt policy).step p e = some p') :
    PoolLinked policy (drawn ++ (drawnUlid e).toList) p' := by
  have hmono : PoolLinked policy (drawn ++ (drawnUlid e).toList) p :=
    hp.mono fun id hid => List.mem_append_left _ hid
  rcases Program.step_cases hstep with
    ⟨⟨request, env⟩, s', c', rfl, hstart, rfl⟩ | ⟨i, choice, c, s', c', rfl, hi, hresume, rfl⟩
  · obtain ⟨t, htick, hhandle⟩ := Option.map_eq_some_iff.mp hstart
    have ht := (tick_unchanged htick).1
    have hloaded := ((hp.shared.of_stored ht).load env.nowMs).2
    obtain ⟨hs', hc'⟩ := handle_linked rt (hmono.shared.of_stored ht) fun id hid =>
      ⟨List.mem_append_right _ (Option.mem_toList.mpr hid),
        fun x hx heq => hnew id hid (heq ▸ hloaded.drawn x hx)⟩
    rw [hhandle] at hs' hc'
    refine ⟨hs', ?_⟩
    intro d hd
    rcases List.mem_append.mp hd with hd | hd
    · exact hmono.calls d hd
    · rw [List.mem_singleton.mp hd]
      exact hc'
  · have hc := hmono.calls c (List.mem_of_getElem? hi)
    obtain ⟨hs', hc'⟩ := resume_linked hmono.shared hc hresume
    refine ⟨hs', ?_⟩
    intro d hd
    rcases List.mem_or_eq_of_mem_set hd with hd | rfl
    · exact hmono.calls d hd
    · exact hc'

theorem poolLinked_idle : PoolLinked policy [] idle := by
  refine ⟨⟨.inl rfl, ?_, List.nodup_nil, Nat.zero_le _, ?_, ?_⟩, ?_⟩
  · intro id receipt hfound
    cases hfound
  · intro x hx
    cases hx
  · intro x hx
    cases hx
  · intro c hc
    cases hc

/-- **Every run keeps the pool linked** in which every ULID is drawn once. -/
theorem run_poolLinked {moves : List (Move (Request × Env) Choice)} {p : Pool Session Call}
    (hdrawn : (moves.filterMap drawnUlid).Nodup)
    (hrun : exec (program rt policy).step idle moves = some p) :
    PoolLinked policy (moves.filterMap drawnUlid) p := by
  refine exec_invariant_events (fun past p => (past.filterMap drawnUlid).Nodup →
    PoolLinked policy (past.filterMap drawnUlid) p) ?_ (fun _ => poolLinked_idle) hrun hdrawn
  intro past p e p' hp hstep hnodup
  have hmore : (past ++ [e]).filterMap drawnUlid =
      past.filterMap drawnUlid ++ (drawnUlid e).toList := by
    rw [List.filterMap_append]
    cases hdraw : drawnUlid e <;> simp [hdraw]
  rw [hmore] at hnodup ⊢
  obtain ⟨hpast, _, hdisjoint⟩ := List.nodup_append.mp hnodup
  refine poolLinked_step (hp hpast) ?_ hstep
  intro id hid hmem
  exact hdisjoint id hmem id (Option.mem_toList.mpr hid) rfl

/-- **The representation invariant of the queue.** In every run of the calls of a session
that started empty, whether they overlap or not, in which every ULID is drawn once: what is
stored was written by the session, it meets the invariant, and what is loaded from it at any
time meets the invariant, is stored again, and has no expired delivery or receipt. -/
theorem relay_queue_well_formed (rt : Runtime) (policy : RelayDeliveryPolicy)
    (moves : List (Move (Request × Env) Choice)) (p : Pool Session Call)
    (hdrawn : (moves.filterMap drawnUlid).Nodup)
    (hrun : exec (program rt policy).step idle moves = some p) :
    p.shared.Encoded ∧ WellFormed policy p.shared.queue ∧
      ∀ nowMs, (p.shared.loadQueueState nowMs).1.queue = (p.shared.loadQueueState nowMs).2 ∧
        WellFormed policy (p.shared.loadQueueState nowMs).2 ∧
        Live nowMs (p.shared.loadQueueState nowMs).2 := by
  have hp := (run_poolLinked hdrawn hrun).shared
  refine ⟨hp.encoded, hp.queue.wellFormed, fun nowMs => ?_⟩
  exact ⟨loaded_queue p.shared nowMs, (hp.load nowMs).2.wellFormed, live_prune _ nowMs⟩

end

/-! ### A request id of two senders -/

/-- Two senders use one request id, and the alarm of the queue goes off. -/
def exampleShared : List (Move (Request × Env) Choice) :=
  [.start (.deliverToConnector (exampleInput "01HF7YAT00W6W7CM7N3W5FDXR0" none),
      exampleOffline 1700000000000 "01HF7YAT00W6W7CM7N3W5FDXD0"),
    .start (.deliverToConnector
        { exampleInput "01HF7YAT00W6W7CM7N3W5FDXR0" none with
          senderAgentDid := js "did:cdi:registry.example.com:agent:01HF7YAT00W6W7CM7N3W5FDXC0" },
      exampleOffline 1700000000000 "01HF7YAT00W6W7CM7N3W5FDXD1"),
    .start (.alarm, exampleOffline 1700000003000 "01HF7YAT00W6W7CM7N3W5FDXD2")]

/-- Both deliveries are queued, and the receipt is that of the second. -/
theorem exampleShared_queue :
    ((exec (program exampleRuntime defaultPolicy).step idle exampleShared).map fun p =>
      (p.shared.queue.deliveries.map fun d => d.deliveryId,
        p.shared.queue.receiptValues.map fun receipt => receipt.deliveryId)) =
      some ([js "01HF7YAT00W6W7CM7N3W5FDXD0", js "01HF7YAT00W6W7CM7N3W5FDXD1"],
        [js "01HF7YAT00W6W7CM7N3W5FDXD1"]) := by
  decide +kernel

theorem exampleShared_well_formed :
    ∃ p, exec (program exampleRuntime defaultPolicy).step idle exampleShared = some p ∧
      p.shared.Encoded ∧ WellFormed defaultPolicy p.shared.queue := by
  obtain ⟨p, hrun, _⟩ := Option.map_eq_some_iff.mp exampleShared_queue
  obtain ⟨hencoded, hqueue, _⟩ := relay_queue_well_formed exampleRuntime defaultPolicy
    exampleShared p (by decide) hrun
  exact ⟨p, hrun, hencoded, hqueue⟩

end Clawdentity.Relay
