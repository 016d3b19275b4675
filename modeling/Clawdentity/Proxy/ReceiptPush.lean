import Clawdentity.Proxy.ReceiptRoute
import Clawdentity.Proxy.Relay.Receipts

/-!
# Which receipts reach the sockets of the sender

The receipt route accepts a receipt for any request id that is not blank and stores it
before the frame for the sender is built. The schema of that frame wants a ULID and the
DID of an agent. A record that it does not take fails after it was stored, and from then
on the drain of a new connection stops at it.

## Main definitions

* `Reached` — the sessions after deliveries and accepted posts.
* `DrainsAll`, `RecordsWell` — what the drain and the recording of a receipt promise.
* `receipts_pushed_iff` — exactly when they keep it.
-/

namespace Clawdentity.ReceiptRoute

open Js Lib Connector Relay Protocol Lib.Interleave Lib.Run

/-! ## Sessions -/

/-- A record that the receipt route has passed on. -/
def Accepted (input : RelayReceiptRecordInput) : Prop :=
  ∃ options auth body nowIso dispatch,
    createRelayDeliveryReceiptPostHandler options auth body nowIso = .ok dispatch ∧
      dispatch.recorded = some input

/-- A session after any run of its calls in which every recorded receipt was accepted. -/
def Reached (rt : Runtime) (policy : RelayDeliveryPolicy) (s : Session) : Prop :=
  ∃ moves p, (∀ input env, .start (.recordDeliveryReceipt input, env) ∈ moves → Accepted input) ∧
    exec (program rt policy).step idle moves = some p ∧ p.shared = s

section
variable (rt : Runtime) (policy : RelayDeliveryPolicy)

/-- The drain pushes one frame, to every socket, for every receipt that is stored, not
expired and one of a recipient. -/
def DrainsAll (s : Session) (env : Env) (frameIds : ℕ → JsString)
    (values : List RelayDeliveryReceipt) : Prop :=
  ∃ records frames, records.Perm (dueRecords env.nowMs s.queue.receiptValues) ∧
    List.Forall₂ (FrameFor rt env.nowMs) records frames ∧
    (drainReceiptFramesOnReconnect rt s env frameIds values).1.history.pushed =
      s.history.pushed ++ frames.flatMap (List.replicate env.sockets)

/-- The status and the reason that are stored for a request. -/
def reported (q : RelayQueueState) (requestId : JsString) :
    Option (RelayDeliveryState × Option JsString) :=
  (q.receipts.lookup requestId).map fun receipt => (receipt.state, receipt.reason)

/-- Recording fails and leaves the queue as it was loaded, or it succeeds and, where the
status or the reason has changed, pushes the frame. -/
def RecordsWell (s : Session) (input : RelayReceiptRecordInput) (env : Env) : Prop :=
  let r := recordDeliveryReceipt rt policy s input env
  (r.2 = .returned .threw ∧ r.1.queue = s.queue.prune env.nowMs) ∨
    (r.2 = .returned .done ∧
      (reported (s.queue.prune env.nowMs) input.requestId ≠ reported r.1.queue input.requestId →
        ∃ frame, FrameFor rt env.nowMs input frame ∧
          r.1.history.pushed = s.history.pushed ++ List.replicate env.sockets frame))

end

section
variable {rt : Runtime} {policy : RelayDeliveryPolicy} {s : Session} {env : Env}
  {input : RelayReceiptRecordInput}

theorem Accepted.recordOk (h : Accepted input) : RecordOk input := by
  obtain ⟨options, auth, body, nowIso, dispatch, hpost, hrecorded⟩ := h
  obtain ⟨_, _, record, _, _, hparse, _, _, hrecord⟩ := recorded_of_post hpost
  cases hrecord.symm.trans hrecorded
  exact recordOk_of_parse hparse

theorem RecordOk.reason_nonEmpty (h : RecordOk input) :
    input.reason.all isNonEmptyString = true := by
  cases hreason : input.reason with
  | none => rfl
  | some text =>
      obtain ⟨htrim, hne⟩ := h.reason text hreason
      rw [Option.all_some, isNonEmptyString_iff, htrim]
      exact hne

/-- The reasons of the stored receipts are not blank. -/
theorem Reached.reasons (hs : Reached rt policy s) :
    ReceiptsAll (fun receipt => receipt.reason.all isNonEmptyString = true) s.queue := by
  obtain ⟨moves, p, haccepted, hrun, rfl⟩ := hs
  have hwritten : Written rt policy Accepted
      (fun receipt => receipt.reason.all isNonEmptyString = true) :=
    ⟨fun _ _ _ _ _ => rfl, fun _ _ _ hinput => hinput.recordOk.reason_nonEmpty⟩
  exact run_receipts hwritten haccepted hrun

/-! ## The drain -/

theorem pushedStatus_of_queued {receipt : RelayDeliveryReceipt} {nowMs : ℚ}
    (h : receipt.state = .queued) : receipt.pushedStatus nowMs = none := by
  unfold RelayDeliveryReceipt.pushedStatus
  rw [h, ite_self]

theorem pushedStatus_of_expired {receipt : RelayDeliveryReceipt} {nowMs : ℚ}
    (h : receipt.expiresAtMs ≤ nowMs) : receipt.pushedStatus nowMs = none :=
  if_pos h

/-- A queued receipt that is deleted is not one that the drain pushes. -/
theorem dueRecords_deleteQueuedReceipt (q : RelayQueueState) (nowMs : ℚ)
    (requestId deliveryId : JsString) :
    dueRecords nowMs (q.deleteQueuedReceipt requestId deliveryId).receiptValues =
      dueRecords nowMs q.receiptValues := by
  unfold RelayQueueState.deleteQueuedReceipt
  cases hlookup : q.receipts.lookup requestId with
  | none => rfl
  | some receipt =>
      by_cases hkeep : receipt.deliveryId ≠ deliveryId ∨ receipt.state ≠ .queued
      · simp only [if_pos hkeep]
      · simp only [if_neg hkeep]
        have hqueued : receipt.state = .queued := by
          by_contra hstate
          exact hkeep (.inr hstate)
        have hmem : ⟨requestId, receipt⟩ ∈ q.receipts.table.entries := AList.mem_lookup_iff.mp hlookup
        obtain ⟨found, before, after, _, hsplit, herase⟩ :=
          List.exists_of_kerase (List.mem_keys_of_mem hmem)
        have hfound : found = receipt := by
          have hin : ⟨requestId, found⟩ ∈ q.receipts.table.entries := by
            rw [hsplit]
            exact List.mem_append_right before List.mem_cons_self
          exact q.receipts.table.nodupKeys.eq_of_mk_mem hin hmem
        subst hfound
        change dueRecords nowMs ((List.kerase requestId q.receipts.table.entries).map (·.2)) =
          dueRecords nowMs (q.receipts.table.entries.map (·.2))
        rw [herase, hsplit]
        simp [dueRecords, pushedStatus_of_queued hqueued]

theorem dueRecords_dropExpiredReceipts (nowMs : ℚ) (l : List QueuedRelayDelivery) :
    ∀ q : RelayQueueState, dueRecords nowMs (q.dropExpiredReceipts nowMs l).receiptValues =
      dueRecords nowMs q.receiptValues := by
  induction l with
  | nil => intro q; rfl
  | cons d l ih =>
      intro q
      rw [RelayQueueState.dropExpiredReceipts, ih]
      split
      · exact dueRecords_deleteQueuedReceipt q nowMs d.requestId d.deliveryId
      · rfl

/-- Loading drops no receipt that the drain pushes. -/
theorem dueRecords_prune (q : RelayQueueState) (nowMs : ℚ) :
    dueRecords nowMs (q.prune nowMs).receiptValues = dueRecords nowMs q.receiptValues := by
  rw [← dueRecords_dropExpiredReceipts nowMs q.deliveries q]
  change dueRecords nowMs
    (((q.dropExpiredReceipts nowMs q.deliveries).receipts.table.entries.filter _).map (·.2)) =
      dueRecords nowMs ((q.dropExpiredReceipts nowMs q.deliveries).receipts.table.entries.map (·.2))
  generalize (q.dropExpiredReceipts nowMs q.deliveries).receipts.table.entries = entries
  induction entries with
  | nil => rfl
  | cons e entries ih =>
      by_cases hlive : nowMs < e.2.expiresAtMs
      · rw [List.filter_cons_of_pos (by simpa using hlive)]
        simp only [dueRecords, List.map_cons, List.filterMap_cons] at ih ⊢
        rw [ih]
      · rw [List.filter_cons_of_neg (by simpa using hlive), ih]
        simp [dueRecords, pushedStatus_of_expired (not_lt.mp hlive)]

theorem length_flatMap_replicate {α : Type} (n : ℕ) (l : List α) :
    (l.flatMap (List.replicate n)).length = l.length * n := by
  simp [List.length_flatMap]

/-- **When the drain reaches every receipt.** -/
theorem drainsAll_iff (hs : Reached rt policy s) (hsockets : 0 < env.sockets)
    {frameIds : ℕ → JsString}
    (hids : ∀ n, FrameBase.isValid rt.platform ⟨frameIds n, rt.toIso env.nowMs⟩ = true)
    {values : List RelayDeliveryReceipt}
    (hvalues : values.Perm (s.queue.prune env.nowMs).receiptValues) :
    DrainsAll rt s env frameIds values ↔
      ∀ input ∈ dueRecords env.nowMs s.queue.receiptValues, Framable input := by
  have hpruned := hs.reasons.edits (edits_prune policy env.nowMs s.queue)
  have hreasons : ∀ receipt ∈ values, receipt.reason.all isNonEmptyString = true := by
    intro receipt hreceipt
    obtain ⟨e, he, rfl⟩ := List.mem_map.mp (hvalues.subset hreceipt)
    exact hpruned e.1 e.2 (AList.mem_lookup_iff.mpr he)
  obtain ⟨frames, hpushed, hframes⟩ := drainReceipts_spec values hreasons frameIds
    (s.loadQueueState env.nowMs).1 hids
  rw [(loadQueueState_spec policy s env.nowMs).1] at hpushed
  have hdrain : (drainReceiptFramesOnReconnect rt s env frameIds values).1.history.pushed =
      s.history.pushed ++ frames.flatMap (List.replicate env.sockets) := by
    rw [drainReceiptFramesOnReconnect, if_neg hsockets.ne']
    exact hpushed
  have hdue : (dueRecords env.nowMs values).Perm (dueRecords env.nowMs s.queue.receiptValues) := by
    rw [← dueRecords_prune]
    exact hvalues.filterMap _
  constructor
  · intro ⟨records, frames', hrecords, hframes', hpushed'⟩
    -- As many frames are pushed as there are records, so none of them stopped the loop.
    have hlength : frames.length = frames'.length := by
      have hsame := List.append_cancel_left (hdrain.symm.trans hpushed')
      have hcount := congrArg List.length hsame
      rw [length_flatMap_replicate, length_flatMap_replicate] at hcount
      exact Nat.eq_of_mul_eq_mul_right hsockets hcount
    have hall : (dueRecords env.nowMs values).takeWhile (fun input => decide (Framable input)) =
        dueRecords env.nowMs values := by
      apply (List.takeWhile_prefix _).eq_of_length
      rw [hframes.length_eq, hlength, ← hframes'.length_eq, hrecords.length_eq, hdue.length_eq]
    intro input hinput
    have hmem : input ∈ (dueRecords env.nowMs values).takeWhile
        (fun input => decide (Framable input)) := by
      rw [hall]
      exact hdue.mem_iff.mpr hinput
    simpa using List.mem_takeWhile_imp hmem
  · intro hall
    have htake : (dueRecords env.nowMs values).takeWhile (fun input => decide (Framable input)) =
        dueRecords env.nowMs values := by
      rw [List.takeWhile_eq_self_iff]
      intro input hinput
      exact decide_eq_true (hall input (hdue.subset hinput))
    rw [htake] at hframes
    exact ⟨_, frames, hdue, hframes, hdrain⟩

/-! ## Recording -/

theorem reported_withRecorded (rt : Runtime) (policy : RelayDeliveryPolicy) (q : RelayQueueState)
    (input : RelayReceiptRecordInput) (env : Env) :
    reported (q.withRecorded rt policy input env) input.requestId =
      some (receiptState input.status, input.reason) := by
  have hlookup : (q.withRecorded rt policy input env).receipts.lookup input.requestId =
      some (recordedReceipt rt policy (q.receipts.lookup input.requestId) input env) :=
    Receipts.lookup_upsert_self
  rw [reported, hlookup]
  rfl

theorem reported_iff {q : RelayQueueState} :
    reported q input.requestId = some (receiptState input.status, input.reason) ↔
      q.reports input = true := by
  unfold reported RelayQueueState.reports
  cases hlookup : q.receipts.lookup input.requestId with
  | none => simp
  | some receipt => simp

/-- **When recording a receipt keeps its promise.** -/
theorem recordsWell_iff (haccepted : Accepted input)
    (hbase : FrameBase.isValid rt.platform ⟨env.frameId, rt.toIso env.nowMs⟩ = true) :
    RecordsWell rt policy s input env ↔
      (s.queue.prune env.nowMs).heldByOther input = true ∨
        (s.queue.prune env.nowMs).reports input = true ∨ Framable input := by
  have hload := (loadQueueState_spec policy s env.nowMs).1
  have hsaved : (savedReceipt rt policy s input env).history = s.history := hload
  have hqueue : (savedReceipt rt policy s input env).queue = _ := savedReceipt_queue
  unfold RecordsWell
  cases hother : (s.queue.prune env.nowMs).heldByOther input with
  | true =>
      simp only [recordDeliveryReceipt_of_other hother, Session.queue_load, ne_eq, not_true_eq_false,
        false_implies, and_true, true_or]
      simp
  | false =>
      rw [recordDeliveryReceipt_of_own hother]
      cases hreports : (s.queue.prune env.nowMs).reports input with
      | true =>
          have hsame : reported (s.queue.prune env.nowMs) input.requestId =
              reported (savedReceipt rt policy s input env).queue input.requestId := by
            rw [hqueue, reported_withRecorded]
            exact reported_iff.mpr hreports
          simp [hsame]
      | false =>
          rw [if_pos rfl, pushReceiptFrame_eq hbase haccepted.recordOk.reason_nonEmpty]
          by_cases hframe : Framable input
          · rw [if_pos hframe]
            simp only [hframe, or_true, iff_true]
            refine .inr ⟨trivial, ?_⟩
            intro _
            refine ⟨_, ⟨env.frameId, rfl⟩, ?_⟩
            rw [hsaved]
          · rw [if_neg hframe]
            have hchanged : (savedReceipt rt policy s input env).queue ≠
                s.queue.prune env.nowMs := by
              intro heq
              rw [hqueue] at heq
              have hreported := reported_withRecorded rt policy (s.queue.prune env.nowMs) input env
              rw [heq, reported_iff, hreports] at hreported
              cases hreported
            simp [hframe, hchanged]

end

/-! ### A receipt for a request id that is not a ULID -/

section Example

/-- A post of the recipient with this id to the session of the sender. -/
def examplePosted (requestId recipient : String) : RelayReceiptRecordInput where
  requestId := js requestId
  senderAgentDid := js "did:cdi:registry.example.com:agent:01HF7YAT00W6W7CM7N3W5FDXA0"
  recipientAgentDid := js recipient
  status := .deliveredToWebhook
  reason := none

def exampleB : String := "did:cdi:registry.example.com:agent:01HF7YAT00W6W7CM7N3W5FDXB0"

def exampleBad : RelayReceiptRecordInput := examplePosted "req-1" exampleB

def exampleGood : RelayReceiptRecordInput := examplePosted "01HF7YAT00W6W7CM7N3W5FDXR0" exampleB

def exampleTrusting : ReceiptRouteOptions where
  isPairAllowed _ _ := some true
  environment := none
  hasReceiptQueue := true
  hasSessionNamespace := true

def examplePostEnv : Env :=
  exampleEnv 1700000000000 "01HF7YAT00W6W7CM7N3W5FDXD0" "01HF7YAT00W6W7CM7N3W5FDXF0"

def examplePosts : List (Move (Request × Env) Choice) :=
  [.start (.recordDeliveryReceipt exampleBad, examplePostEnv),
    .start (.recordDeliveryReceipt exampleGood, examplePostEnv)]

theorem exampleBad_accepted : Accepted exampleBad :=
  ⟨exampleTrusting, some (js exampleB), some exampleBad.toJson, js "2023-11-14T22:13:20.000Z",
    .queue (receiptEvent exampleBad (js "2023-11-14T22:13:20.000Z")), by decide,
    by decide⟩

theorem exampleGood_accepted : Accepted exampleGood :=
  ⟨exampleTrusting, some (js exampleB), some exampleGood.toJson, js "2023-11-14T22:13:20.000Z",
    .queue (receiptEvent exampleGood (js "2023-11-14T22:13:20.000Z")), by decide,
    by decide⟩

/-- The receipts that are stored after the two posts. -/
def exampleStored : List RelayDeliveryReceipt :=
  [recordedReceipt exampleRuntime defaultPolicy none exampleGood examplePostEnv,
    recordedReceipt exampleRuntime defaultPolicy none exampleBad examplePostEnv]

theorem examplePosts_stored :
    (exec (program exampleRuntime defaultPolicy).step idle examplePosts).map (fun p =>
      (p.shared.queue.receiptValues, (p.shared.queue.prune 1700000000000).receiptValues)) =
      some (exampleStored, exampleStored) := by
  decide +kernel

/-- The session after the two posts, and what is stored in it. -/
theorem example_reached : ∃ s, Reached exampleRuntime defaultPolicy s ∧
    s.queue.receiptValues = exampleStored ∧
    (s.queue.prune examplePostEnv.nowMs).receiptValues = exampleStored := by
  obtain ⟨p, hrun, hstored⟩ := Option.map_eq_some_iff.mp examplePosts_stored
  obtain ⟨hvalues, hpruned⟩ := Prod.mk.inj hstored
  refine ⟨p.shared, ⟨examplePosts, p, ?_, hrun, rfl⟩, hvalues, hpruned⟩
  intro input env hmove
  rcases List.mem_cons.mp hmove with hmove | hmove
  · cases hmove
    exact exampleBad_accepted
  · rcases List.mem_singleton.mp hmove with hmove
    cases hmove
    exact exampleGood_accepted

theorem example_valid :
    FrameBase.isValid exampleRuntime.platform
      ⟨examplePostEnv.frameId, exampleRuntime.toIso examplePostEnv.nowMs⟩ = true := by
  decide

end Example

end Clawdentity.ReceiptRoute
