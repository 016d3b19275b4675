import Clawdentity.Proxy.Relay.Idempotence

/-!
# Overlapping repetitions

Several calls for the same delivery on one session. A call writes the receipt that answers
the others only after the connector has acknowledged its frame; calls that start before
that find nothing, and each of them sends its own frame and writes its own receipt.
`Apart` is the condition that a call for the delivery starts when the others have returned,
and before the receipt expires. Under it all answers name one delivery.

## Main definitions

* `CallsFor` — the moves of calls for one delivery.
* `NoDuplicates` — one delivery id, one accepted frame, one queued delivery.
* `Apart` — the condition on a move.
* `no_duplicate_deliveries` — the property in every run under the condition.
-/

namespace Clawdentity.Relay

open Js Lib Connector Lib.Interleave Lib.Run

/-! ## The property -/

/-- The moves of calls that deliver one triple. -/
def CallsFor (triple : Triple) : Move (Request × Env) Choice → Prop
  | .start (.deliverToConnector input, _) => input.triple = triple
  | .start _ => False
  | .resume _ _ => True

/-- The connector accepts a frame. -/
def isAcceptance : Move (Request × Env) Choice → Bool
  | .resume _ (.settle (.acked true)) => true
  | _ => false

/-- The queued deliveries of a triple. -/
def RelayQueueState.entries (q : RelayQueueState) (triple : Triple) : List QueuedRelayDelivery :=
  q.deliveries.filter fun d => decide (d.triple = triple)

/-- All answers name one delivery, at most one frame was accepted, and at most one delivery
is queued. -/
structure NoDuplicates (triple : Triple) (moves : List (Move (Request × Env) Choice))
    (p : Pool Session Call) : Prop where
  answers : ∀ result result', .returned (.delivery result) ∈ p.calls →
    .returned (.delivery result') ∈ p.calls → result.deliveryId = result'.deliveryId
  accepted : moves.countP isAcceptance ≤ 1
  queued : (p.shared.queue.entries triple).length ≤ 1

/-- A call is made when the others have returned, and before the receipt of its request
expires. -/
def Apart (p : Pool Session Call) : Move (Request × Env) Choice → Prop
  | .start (.deliverToConnector input, env) => (∀ c ∈ p.calls, c.isReturned = true) ∧
      ∀ receipt ∈ p.shared.queue.receipts.lookup input.requestId, env.nowMs < receipt.expiresAtMs
  | _ => True

instance (p : Pool Session Call) : ∀ e, Decidable (Apart p e)
  | .start (.deliverToConnector input, env) =>
      inferInstanceAs (Decidable ((∀ c ∈ p.calls, c.isReturned = true) ∧
        ∀ receipt ∈ p.shared.queue.receipts.lookup input.requestId,
          env.nowMs < receipt.expiresAtMs))
  | .start (.recordDeliveryReceipt _, _) => isTrue trivial
  | .start (.getDeliveryReceipt _, _) => isTrue trivial
  | .start (.alarm, _) => isTrue trivial
  | .start (.drainQueueOnReconnect, _) => isTrue trivial
  | .start (.scheduleFromStorage, _) => isTrue trivial
  | .resume _ _ => isTrue trivial

/-! ## The phases of the delivery -/

/-- The request is new to the queue. -/
structure Unknown (requestId : JsString) (q : RelayQueueState) : Prop where
  receipt : q.receipts.lookup requestId = none
  deliveries : ∀ x ∈ q.counted, x.1.requestId ≠ requestId

/-- The delivery was answered, and its receipt lasts as long as the queued delivery. -/
structure Known (triple : Triple) (deliveryId : JsString) (q : RelayQueueState) : Prop where
  receipt : ∃ receipt, q.receipts.lookup triple.requestId = some receipt ∧
    receipt.triple = triple ∧ receipt.deliveryId = deliveryId ∧
    (receipt.state = .queued → ∀ d ∈ q.deliveries, d.requestId = triple.requestId →
      receipt.expiresAtMs ≤ d.expiresAtMs)
  single : (q.entries triple).length ≤ 1

/-- A call that has failed. -/
def Call.isFailed : Call → Bool
  | .returned (.delivery _) => false
  | .returned _ => true
  | _ => false

/-- Where the calls for a delivery are, after a number of accepted frames. -/
inductive Phase (triple : Triple) (accepted : ℕ) (p : Pool Session Call) : Prop
  /-- All calls have failed. -/
  | fresh (hcalls : ∀ c ∈ p.calls, c.isFailed = true) (hstored : Unknown triple.requestId p.shared.queue)
      (haccepted : accepted = 0) : Phase triple accepted p
  /-- One call waits for the connector, or for its turn. -/
  | waiting {i : ℕ} {call : Delivering} {await : Await}
      (hcall : p.calls[i]? = some (.delivering call await))
      (hothers : ∀ j c, p.calls[j]? = some c → j ≠ i → c.isFailed = true)
      (hinput : call.input.triple = triple) (hstored : Unknown triple.requestId p.shared.queue)
      (hsnapshot : Unknown triple.requestId call.snapshot)
      (haccepted : accepted = if await = .settled (.acked true) then 1 else 0) :
      Phase triple accepted p
  /-- The delivery was answered. -/
  | done {deliveryId : JsString} (hcalls : ∀ c ∈ p.calls, c.isReturned = true)
      (hanswers : ∀ result, .returned (.delivery result) ∈ p.calls → result.deliveryId = deliveryId)
      (hstored : Known triple deliveryId p.shared.queue) (haccepted : accepted ≤ 1) :
      Phase triple accepted p

section
variable {rt : Runtime} {policy : RelayDeliveryPolicy} {triple : Triple} {n : ℕ}
  {p p' : Pool Session Call} {s : Session} {nowMs : ℚ} {q q' : RelayQueueState} {env : Env}

theorem Phase.noDuplicates {moves : List (Move (Request × Env) Choice)}
    (h : Phase triple (moves.countP isAcceptance) p) : NoDuplicates triple moves p := by
  have hempty : ∀ {q : RelayQueueState}, Unknown triple.requestId q →
      (q.entries triple).length ≤ 1 := by
    intro q hq
    have hnil : q.entries triple = [] := by
      rw [RelayQueueState.entries, List.filter_eq_nil_iff]
      intro d hd htriple
      exact hq.deliveries (d.toDeliveryCore, d.attemptCount) (List.mem_map_of_mem hd)
        (congrArg Triple.requestId (of_decide_eq_true htriple))
    rw [hnil]
    exact Nat.zero_le 1
  cases h with
  | fresh hcalls hstored haccepted =>
      refine ⟨?_, by omega, hempty hstored⟩
      intro result result' hresult
      cases hcalls _ hresult
  | @waiting i call await hcall hothers hinput hstored hsnapshot haccepted =>
      refine ⟨?_, by rw [haccepted]; split <;> omega, hempty hstored⟩
      intro result result' hresult
      obtain ⟨j, hj⟩ := List.mem_iff_getElem?.mp hresult
      by_cases hij : j = i
      · subst hij
        rw [hcall] at hj
        cases hj
      · cases hothers j _ hj hij
  | done hcalls hanswers hstored haccepted =>
      refine ⟨?_, haccepted, hstored.single⟩
      intro result result' hresult hresult'
      rw [hanswers result hresult, hanswers result' hresult']

/-! ## Queues -/

theorem Unknown.edits {requestId : JsString} (hq : Unknown requestId q)
    (he : Edits policy nowMs q q') : Unknown requestId q' := by
  refine ⟨?_, fun x hx => hq.deliveries x (he.evolves.back x hx)⟩
  cases hfound : q'.receipts.lookup requestId with
  | none => rfl
  | some receipt => cases hq.receipt.symm.trans (he.lookup hfound)

theorem Unknown.existingReceipt {input : RelayDeliveryInput} (hq : Unknown input.requestId q) :
    existingReceipt q input nowMs = none := by
  rw [Relay.existingReceipt, hq.receipt]
  rfl

/-- Loading a queue to which the request is new. -/
theorem Unknown.load {requestId : JsString} (policy : RelayDeliveryPolicy)
    (hs : Unknown requestId s.queue) (nowMs : ℚ) :
    Unknown requestId (s.loadQueueState nowMs).1.queue ∧
      Unknown requestId (s.loadQueueState nowMs).2 := by
  have hq : Unknown requestId (s.loadQueueState nowMs).2 := hs.edits (edits_prune policy nowMs s.queue)
  obtain ⟨_, _, _, hstored⟩ := loadQueueState_spec policy s nowMs
  refine ⟨?_, hq⟩
  rcases hstored with hstored | hstored
  · rw [hstored]
    exact hs
  · rw [hstored]
    exact hq

theorem Unknown.entries {input : RelayDeliveryInput} (hq : Unknown input.requestId q) :
    q.entries input.triple = [] := by
  rw [RelayQueueState.entries, List.filter_eq_nil_iff]
  intro d hd htriple
  exact hq.deliveries (d.toDeliveryCore, d.attemptCount) (List.mem_map_of_mem hd)
    (congrArg Triple.requestId (of_decide_eq_true htriple))

theorem Unknown.delivered {input : RelayDeliveryInput} {deliveryId : JsString}
    (hq : Unknown input.requestId q) :
    Known input.triple deliveryId (q.withDelivered rt policy input deliveryId nowMs) := by
  refine ⟨⟨_, Receipts.lookup_upsert_self, rfl, rfl, fun hstate => by cases hstate⟩, ?_⟩
  have hsame : (q.withDelivered rt policy input deliveryId nowMs).entries input.triple =
      q.entries input.triple := rfl
  rw [hsame, hq.entries]
  exact Nat.zero_le 1

theorem Unknown.queued {input : RelayDeliveryInput} {d : QueuedRelayDelivery}
    (hq : Unknown input.requestId q) :
    Known input.triple d.deliveryId (q.withQueued rt input d nowMs) := by
  refine ⟨⟨_, Receipts.lookup_upsert_self, rfl, rfl, ?_⟩, ?_⟩
  · intro _ d' hd' hid
    have hcases : d' ∈ q.deliveries ∨ d' = d := by
      simpa [RelayQueueState.withQueued, RelayQueueState.upsertReceipt,
        RelayQueueState.append] using hd'
    rcases hcases with hold | rfl
    · exact absurd hid (hq.deliveries (d'.toDeliveryCore, d'.attemptCount) (List.mem_map_of_mem hold))
    · exact le_refl _
  · have hsplit : (q.withQueued rt input d nowMs).entries input.triple =
        q.entries input.triple ++ [d].filter fun d => decide (d.triple = input.triple) := by
      simp [RelayQueueState.withQueued, RelayQueueState.upsertReceipt, RelayQueueState.append,
        RelayQueueState.entries]
    rw [hsplit, hq.entries, List.nil_append]
    exact List.length_filter_le _ _

/-- Loading a queue in which the delivery was answered, before its receipt expires. -/
theorem Known.load {deliveryId : JsString} (policy : RelayDeliveryPolicy)
    (hs : Known triple deliveryId s.queue)
    (hlive : ∀ receipt ∈ s.queue.receipts.lookup triple.requestId, nowMs < receipt.expiresAtMs) :
    Known triple deliveryId (s.loadQueueState nowMs).1.queue ∧
      ∃ receipt, (s.loadQueueState nowMs).2.receipts.lookup triple.requestId = some receipt ∧
        receipt.triple = triple ∧ receipt.deliveryId = deliveryId ∧ nowMs < receipt.expiresAtMs := by
  obtain ⟨receipt, hfound, htriple, hid, hqueued⟩ := hs.receipt
  have hlt := hlive receipt hfound
  have hpruned : (s.loadQueueState nowMs).2.receipts.lookup triple.requestId = some receipt := by
    refine RelayQueueState.lookup_prune_of hfound hlt ?_
    by_cases hstate : receipt.state = .queued
    · refine .inr ?_
      intro d hd hexpired
      by_cases hrequest : d.requestId = triple.requestId
      · exact absurd hlt (not_lt.mpr ((hqueued hstate d hd hrequest).trans hexpired))
      · exact .inl (Ne.symm hrequest)
    · exact .inl hstate
  refine ⟨?_, receipt, hpruned, htriple, hid, hlt⟩
  obtain ⟨_, _, _, hstored⟩ := loadQueueState_spec policy s nowMs
  rcases hstored with hstored | hstored
  · rw [hstored]
    exact hs
  · rw [hstored]
    have hsublist : (s.loadQueueState nowMs).2.deliveries.Sublist s.queue.deliveries :=
      List.filter_sublist
    refine ⟨⟨receipt, hpruned, htriple, hid, ?_⟩, ?_⟩
    · intro hstate d hd
      exact hqueued hstate d (hsublist.subset hd)
    · exact (hsublist.filter _).length_le.trans hs.single

/-! ## Moves -/

/-- A call that ends without a delivery has failed. -/
theorem isFailed_of_not_delivery {response : Response}
    (h : ∀ result, response ≠ .delivery result) : (Call.returned response).isFailed = true := by
  cases response with
  | delivery result => exact absurd rfl (h result)
  | _ => rfl

theorem isReturned_of_isFailed {c : Call} (h : c.isFailed = true) : c.isReturned = true := by
  cases c with
  | returned response => rfl
  | delivering call await => cases h
  | processing call await => cases h

theorem no_delivery_of_isFailed {calls : List Call} (h : ∀ c ∈ calls, c.isFailed = true)
    {result : RelayDeliveryResult} : .returned (.delivery result) ∉ calls := by
  intro hmem
  cases h _ hmem

/-- **The first call**, or one after calls that have failed. -/
theorem Phase.start_fresh {input : RelayDeliveryInput} {s' : Session} {c : Call}
    (hcalls : ∀ c ∈ p.calls, c.isFailed = true) (hstored : Unknown input.requestId s.queue)
    (hhandle : handle rt policy s (.deliverToConnector input) env = (s', c)) :
    Phase input.triple 0 ⟨s', p.calls ++ [c]⟩ := by
  have hturn := handle_turn rt policy s (.deliverToConnector input) env
  obtain ⟨hs, hq⟩ := hstored.load policy env.nowMs
  rw [hhandle] at hturn
  generalize (s.loadQueueState env.nowMs).1 = s₁ at hturn hs
  generalize (s.loadQueueState env.nowMs).2 = q at hturn hq
  have hreturned : ∀ {response : Response}, ∀ c ∈ p.calls ++ [.returned response],
      c.isReturned = true := by
    intro response c hc
    rcases List.mem_append.mp hc with hc | hc
    · exact isReturned_of_isFailed (hcalls c hc)
    · rw [List.mem_singleton.mp hc]
      rfl
  have honly : ∀ {result result' : RelayDeliveryResult},
      .returned (.delivery result) ∈ p.calls ++ [.returned (.delivery result')] →
      result.deliveryId = result'.deliveryId := by
    intro result result' hmem
    rcases List.mem_append.mp hmem with hmem | hmem
    · exact absurd hmem (no_delivery_of_isFailed hcalls)
    · cases List.mem_singleton.mp hmem
      rfl
  cases hturn with
  | @answer s' response hst hclock hhistory hdelivery =>
      have hqueue : s'.queue = s₁.queue := by rw [Session.queue, Session.queue, hst]
      refine .fresh ?_ (by rw [hqueue]; exact hs) rfl
      intro c hc
      rcases List.mem_append.mp hc with hc | hc
      · exact hcalls c hc
      · rw [List.mem_singleton.mp hc]
        refine isFailed_of_not_delivery ?_
        intro result hresult
        obtain ⟨input', receipt, hsame, hexisting, _⟩ := hdelivery result hresult
        cases hsame
        rw [hq.existingReceipt] at hexisting
        cases hexisting
  | edited hrequest => exact absurd rfl (hrequest input)
  | @delivered s' input' result hrequest hnew hst hclock hhistory =>
      cases hrequest
      refine .done hreturned (fun result' hmem => honly hmem) ?_ (Nat.zero_le 1)
      rw [Session.queue_of_stored hst]
      exact hq.delivered
  | @queued s' input' result d hrequest hnew htriple hid hexpires hst hclock hhistory =>
      cases hrequest
      refine .done hreturned (fun result' hmem => honly hmem) ?_ (Nat.zero_le 1)
      rw [Session.queue_of_stored hst, ← hid]
      exact hq.queued
  | recorded hrequest => cases hrequest
  | @delivering s' call await hrequest hnew hsnapshot hnow hawait hst hclock hhistory =>
      cases hrequest
      have hqueue : s'.queue = s₁.queue := by rw [Session.queue, Session.queue, hst]
      have hlast : (p.calls ++ [.delivering call await])[p.calls.length]? =
          some (.delivering call await) := List.getElem?_concat_length
      refine .waiting hlast ?_ rfl (by rw [hqueue]; exact hs) (by rw [hsnapshot]; exact hq) ?_
      · intro j c hj hne
        rcases List.mem_append.mp (List.mem_of_getElem? hj) with hc | hc
        · exact hcalls c hc
        · have hlt := (List.getElem?_eq_some_iff.mp hj).1
          have hj' : j < p.calls.length := by
            rw [List.length_append, List.length_singleton] at hlt
            omega
          rw [List.getElem?_append_left hj'] at hj
          exact hcalls c (List.mem_of_getElem? hj)
      · rcases hawait with rfl | rfl
        · rfl
        · rfl
  | processing hrequest => exact absurd rfl (hrequest input)

/-- **A call after the delivery was answered** gets the same answer. -/
theorem Phase.start_done {input : RelayDeliveryInput} {deliveryId : JsString} {s' : Session}
    {c : Call} (hcalls : ∀ c ∈ p.calls, c.isReturned = true)
    (hanswers : ∀ result, .returned (.delivery result) ∈ p.calls → result.deliveryId = deliveryId)
    (hstored : Known input.triple deliveryId s.queue) (haccepted : n ≤ 1)
    (hlive : ∀ receipt ∈ s.queue.receipts.lookup input.requestId, env.nowMs < receipt.expiresAtMs)
    (hhandle : handle rt policy s (.deliverToConnector input) env = (s', c)) :
    Phase input.triple n ⟨s', p.calls ++ [c]⟩ := by
  obtain ⟨hs, receipt, hfound, htriple, hid, hlt⟩ := hstored.load policy hlive
  have hexisting : existingReceipt (s.loadQueueState env.nowMs).2 input env.nowMs = some receipt :=
    existingReceipt_eq_some.mpr ⟨hfound, hlt, htriple⟩
  simp only [handle, deliverToConnector, hexisting, Prod.mk.injEq] at hhandle
  obtain ⟨rfl, rfl⟩ := hhandle
  refine .done ?_ ?_ hs haccepted
  · intro c hc
    rcases List.mem_append.mp hc with hc | hc
    · exact hcalls c hc
    · rw [List.mem_singleton.mp hc]
      rfl
  · intro result hmem
    rcases List.mem_append.mp hmem with hmem | hmem
    · exact hanswers result hmem
    · cases List.mem_singleton.mp hmem
      exact hid

/-- **The waiting call goes on.** -/
theorem Phase.proceed {i : ℕ} {call : Delivering} {outcome : Outcome} {s' : Session} {c : Call}
    (hcall : p.calls[i]? = some (.delivering call (.settled outcome)))
    (hothers : ∀ j c, p.calls[j]? = some c → j ≠ i → c.isFailed = true)
    (hstored : Unknown call.input.requestId s.queue)
    (hsnapshot : Unknown call.input.requestId call.snapshot)
    (hproceed : afterDirectAttempt rt policy s call outcome env = (s', c)) :
    Phase call.input.triple (if outcome = .acked true then 1 else 0) ⟨s', p.calls.set i c⟩ := by
  have hmem : ∀ {c' d : Call}, d ∈ p.calls.set i c' → d = c' ∨ d.isFailed = true := by
    intro c' d hd
    obtain ⟨j, hj⟩ := List.mem_iff_getElem?.mp hd
    by_cases hij : i = j
    · subst hij
      rw [List.getElem?_set_self (List.getElem?_eq_some_iff.mp hcall).1] at hj
      exact .inl (Option.some.inj hj).symm
    · rw [List.getElem?_set_ne hij] at hj
      exact .inr (hothers j d hj (Ne.symm hij))
  have hreturned : ∀ {response : Response}, ∀ d ∈ p.calls.set i (.returned response),
      d.isReturned = true := by
    intro response d hd
    rcases hmem hd with rfl | hfailed
    · rfl
    · exact isReturned_of_isFailed hfailed
  have honly : ∀ {result result' : RelayDeliveryResult},
      .returned (.delivery result) ∈ p.calls.set i (.returned (.delivery result')) →
      result.deliveryId = result'.deliveryId := by
    intro result result' hd
    rcases hmem hd with heq | hfailed
    · cases heq
      rfl
    · cases hfailed
  unfold afterDirectAttempt at hproceed
  by_cases hacked : outcome = .acked true
  · rw [if_pos hacked] at hproceed
    cases hproceed
    refine .done hreturned (fun result hd => honly hd) ?_ ?_
    · rw [Session.queue_of_stored rfl]
      exact hsnapshot.delivered
    · rw [if_pos hacked]
  · rw [if_neg hacked] at hproceed
    rw [if_neg hacked]
    have hturn : Turn rt policy env (some (.deliverToConnector call.input)) call.nowMs s
        call.snapshot (s', c) := by
      rw [← hproceed]
      exact queueDelivery_turn rfl rfl rfl hsnapshot.existingReceipt
    cases hturn with
    | @answer s' response hst hclock hhistory hdelivery =>
        have hqueue : s'.queue = s.queue := by rw [Session.queue, Session.queue, hst]
        refine .fresh ?_ (by rw [hqueue]; exact hstored) rfl
        intro d hd
        rcases hmem hd with rfl | hfailed
        · refine isFailed_of_not_delivery ?_
          intro result hresult
          obtain ⟨input', receipt, hsame, hexisting, _⟩ := hdelivery result hresult
          cases hsame
          rw [hsnapshot.existingReceipt] at hexisting
          cases hexisting
        · exact hfailed
    | edited hrequest => exact absurd rfl (hrequest call.input)
    | @delivered s' input' result hrequest hnew hst hclock hhistory =>
        cases hrequest
        refine .done hreturned (fun result' hd => honly hd) ?_ (Nat.zero_le 1)
        rw [Session.queue_of_stored hst]
        exact hsnapshot.delivered
    | @queued s' input' result d hrequest hnew htriple hid hexpires hst hclock hhistory =>
        cases hrequest
        refine .done hreturned (fun result' hd => honly hd) ?_ (Nat.zero_le 1)
        rw [Session.queue_of_stored hst, ← hid]
        exact hsnapshot.queued
    | recorded hrequest => cases hrequest
    | delivering hrequest hnew hsnapshot hnow hawait hst hclock hhistory =>
        obtain ⟨response, hresponse⟩ := queueDelivery_returned rt policy s call 1 env
        rw [hproceed] at hresponse
        cases hresponse
    | processing hrequest => exact absurd rfl (hrequest call.input)

/-- **One move.** -/
theorem phase_step {e : Move (Request × Env) Choice} (hp : Phase triple n p)
    (hcalls : CallsFor triple e) (hapart : Apart p e)
    (hstep : (program rt policy).step p e = some p') :
    Phase triple (n + if isAcceptance e then 1 else 0) p' := by
  rcases Program.step_cases hstep with
    ⟨⟨request, env⟩, s', c', rfl, hstart, rfl⟩ | ⟨i, choice, c, s', c', rfl, hi, hresume, rfl⟩
  · obtain ⟨t, htick, hhandle⟩ := Option.map_eq_some_iff.mp hstart
    obtain ⟨_, _, _, hqueue⟩ := tick_spec htick
    cases request with
    | deliverToConnector input =>
        cases hcalls
        have hcount : n + (if isAcceptance (.start (.deliverToConnector input, env)) then 1 else 0) =
            n := rfl
        rw [hcount]
        cases hp with
        | fresh hfailed hstored haccepted =>
            subst haccepted
            exact Phase.start_fresh hfailed (by rw [hqueue]; exact hstored) hhandle
        | @waiting i call await hcall hothers hinput hstored hsnapshot haccepted =>
            cases hapart.1 _ (List.mem_of_getElem? hcall)
        | done hreturned hanswers hstored haccepted =>
            refine Phase.start_done hreturned hanswers ?_ haccepted ?_ hhandle
            · rw [hqueue]
              exact hstored
            · rw [hqueue]
              exact hapart.2
    | recordDeliveryReceipt input => cases hcalls
    | getDeliveryReceipt input => cases hcalls
    | alarm => cases hcalls
    | drainQueueOnReconnect => cases hcalls
    | scheduleFromStorage => cases hcalls
  · have hactive := not_returned_of_resume hresume
    have hc := List.mem_of_getElem? hi
    cases hp with
    | fresh hfailed hstored haccepted =>
        rw [isReturned_of_isFailed (hfailed c hc)] at hactive
        cases hactive
    | @waiting j call await hcall hothers hinput hstored hsnapshot haccepted =>
        have hij : i = j := by
          by_contra hne
          rw [isReturned_of_isFailed (hothers i c hi hne)] at hactive
          cases hactive
        subst hij
        cases hcall.symm.trans hi
        subst hinput
        cases choice with
        | settle outcome =>
            cases await with
            | settled outcome' => cases hresume
            | waiting =>
                cases hresume
                have hlt := (List.getElem?_eq_some_iff.mp hcall).1
                refine .waiting (List.getElem?_set_self hlt) ?_ rfl hstored hsnapshot ?_
                · intro j c hj hne
                  rw [List.getElem?_set_ne (Ne.symm hne)] at hj
                  exact hothers j c hj hne
                · rw [haccepted]
                  cases outcome with
                  | acked accepted => cases accepted <;> rfl
                  | error => rfl
        | proceed env =>
            obtain ⟨t, htick, hproceed⟩ := Option.bind_eq_some_iff.mp hresume
            obtain ⟨_, _, _, hqueue⟩ := tick_spec htick
            cases await with
            | waiting => cases hproceed
            | settled outcome =>
                have hcount : n + (if isAcceptance (.resume i (.proceed env)) then 1 else 0) =
                    if outcome = .acked true then 1 else 0 := by
                  rw [haccepted]
                  cases outcome with
                  | acked accepted => cases accepted <;> rfl
                  | error => rfl
                rw [hcount]
                exact Phase.proceed hcall hothers (by rw [hqueue]; exact hstored) hsnapshot
                  (Option.some.inj hproceed)
    | done hreturned hanswers hstored haccepted =>
        rw [hreturned c hc] at hactive
        cases hactive

/-- **Every run.** -/
theorem phase_run (moves : List (Move (Request × Env) Choice)) :
    ∀ {n : ℕ} {p p' : Pool Session Call}, Phase triple n p → (∀ e ∈ moves, CallsFor triple e) →
      AllSteps (program rt policy).step Apart p moves →
      exec (program rt policy).step p moves = some p' →
      Phase triple (n + moves.countP isAcceptance) p' := by
  induction moves with
  | nil =>
      intro n p p' hp _ _ hrun
      cases hrun
      exact hp
  | cons e moves ih =>
      intro n p p' hp hcalls hok hrun
      obtain ⟨m, hstep, hrest⟩ := exec_cons_eq_some.mp hrun
      have hm := phase_step hp (hcalls e List.mem_cons_self) hok.1 hstep
      have hp' := ih hm (fun e' he' => hcalls e' (List.mem_cons_of_mem e he')) (hok.2 m hstep) hrest
      rw [List.countP_cons, Nat.add_comm (moves.countP isAcceptance), ← Nat.add_assoc]
      exact hp'

end

/-! ### Two calls at once -/

section Example

def exampleTriple : Triple := exampleFirst.triple

/-- The second call starts while the first waits for the connector. -/
def exampleTwice : List (Move (Request × Env) Choice) :=
  [.start (.deliverToConnector exampleFirst,
      exampleEnv 1700000000000 "01HF7YAT00W6W7CM7N3W5FDXD0" "01HF7YAT00W6W7CM7N3W5FDXF0"),
    .start (.deliverToConnector exampleFirst,
      exampleEnv 1700000000000 "01HF7YAT00W6W7CM7N3W5FDXD1" "01HF7YAT00W6W7CM7N3W5FDXF1"),
    .resume 0 (.settle (.acked true)), .resume 1 (.settle (.acked true)),
    .resume 0 (.proceed
      (exampleEnv 1700000000000 "01HF7YAT00W6W7CM7N3W5FDXD2" "01HF7YAT00W6W7CM7N3W5FDXF2")),
    .resume 1 (.proceed
      (exampleEnv 1700000000000 "01HF7YAT00W6W7CM7N3W5FDXD3" "01HF7YAT00W6W7CM7N3W5FDXF3"))]

/-- The second call starts after the first. -/
def exampleApart : List (Move (Request × Env) Choice) :=
  [.start (.deliverToConnector exampleFirst,
      exampleEnv 1700000000000 "01HF7YAT00W6W7CM7N3W5FDXD0" "01HF7YAT00W6W7CM7N3W5FDXF0"),
    .resume 0 (.settle (.acked true)),
    .resume 0 (.proceed
      (exampleEnv 1700000000000 "01HF7YAT00W6W7CM7N3W5FDXD2" "01HF7YAT00W6W7CM7N3W5FDXF2")),
    .start (.deliverToConnector exampleFirst,
      exampleEnv 1700000003000 "01HF7YAT00W6W7CM7N3W5FDXD1" "01HF7YAT00W6W7CM7N3W5FDXF1")]

theorem unknown_empty (requestId : JsString) : Unknown requestId Session.empty.queue := by
  refine ⟨rfl, ?_⟩
  intro x hx
  cases hx

theorem exampleTwice_calls : ∀ e ∈ exampleTwice, CallsFor exampleTriple e := by
  intro e he
  simp only [exampleTwice, List.mem_cons, List.not_mem_nil, or_false] at he
  rcases he with rfl | rfl | rfl | rfl | rfl | rfl <;> trivial

theorem exampleApart_calls : ∀ e ∈ exampleApart, CallsFor exampleTriple e := by
  intro e he
  simp only [exampleApart, List.mem_cons, List.not_mem_nil, or_false] at he
  rcases he with rfl | rfl | rfl | rfl <;> trivial

/-- Both frames are accepted. -/
theorem exampleTwice_runs :
    (exec (program exampleRuntime defaultPolicy).step idle exampleTwice).isSome = true ∧
      exampleTwice.countP isAcceptance = 2 := by
  decide

theorem exampleApart_runs :
    (exec (program exampleRuntime defaultPolicy).step idle exampleApart).isSome = true ∧
      AllSteps (program exampleRuntime defaultPolicy).step Apart idle exampleApart := by
  decide +kernel

end Example

end Clawdentity.Relay
