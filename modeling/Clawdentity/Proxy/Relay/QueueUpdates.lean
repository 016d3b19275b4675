import Clawdentity.Proxy.Relay.Session

/-!
# What the code does to a queue

Between two awaits the code changes its snapshot of the queue in few ways: it
gives deliveries new times, it drops those that are expired or out of attempts,
each with its queued receipt, and it drops expired receipts. `Edits` says so once,
for pruning, postponing, sorting and the loop of `processQueueDeliveries`; what the
code does beyond it is to add a delivery or a receipt and to count an attempt.

## Main definitions

* `RelayQueueState.counted` — the deliveries with their numbers of attempts.
* `Edits` — what the code does to a queue.
* `edits_processLoop`, `edits_afterAttempt` — the loop of the source.
* `Evolves` — one queue comes from another without anything new in it.
-/

namespace Clawdentity.Relay

open Js Lib Connector

/-! ## Receipts -/

namespace Receipts
variable {r : Receipts} {id : JsString} {found receipt : RelayDeliveryReceipt}

theorem lookup_upsert (h : (r.upsert receipt).lookup id = some found) :
    found = receipt ∨ r.lookup id = some found := by
  unfold lookup upsert at h
  by_cases hid : id = receipt.requestId
  · subst hid
    rw [AList.lookup_insert] at h
    exact .inl (Option.some.inj h).symm
  · rw [AList.lookup_insert_ne hid] at h
    exact .inr h

@[simp] theorem lookup_upsert_self : (r.upsert receipt).lookup receipt.requestId = some receipt :=
  AList.lookup_insert _

theorem lookup_upsert_of_ne (h : id ≠ receipt.requestId) :
    (r.upsert receipt).lookup id = r.lookup id :=
  AList.lookup_insert_ne h

theorem lookup_erase_of_ne {key : JsString} (h : id ≠ key) : (r.erase key).lookup id = r.lookup id :=
  AList.lookup_erase_ne h

theorem lookup_erase_self : (r.erase id).lookup id = none := AList.lookup_erase id r.table

theorem lookup_erase {key : JsString} (h : (r.erase key).lookup id = some found) :
    r.lookup id = some found := by
  by_cases hid : id = key
  · subst hid
    rw [lookup_erase_self] at h
    cases h
  · rw [lookup_erase_of_ne hid] at h
    exact h

theorem lookup_keep {p : RelayDeliveryReceipt → Bool} (h : (r.keep p).lookup id = some found) :
    r.lookup id = some found :=
  (Table.lookup_keep_eq_some.mp h).1

/-- A receipt stands under its own request id. -/
theorem requestId_of_lookup (h : r.lookup id = some found) : found.requestId = id :=
  r.keyed ⟨id, found⟩ (AList.mem_lookup_iff.mp h)

end Receipts

namespace RelayQueueState
variable {q : RelayQueueState} {id : JsString} {found : RelayDeliveryReceipt}

/-- Each delivery with the number of attempts on it. -/
def counted (q : RelayQueueState) : List (DeliveryCore × ℕ) :=
  q.deliveries.map fun d => (d.toDeliveryCore, d.attemptCount)

theorem mem_cores {core : DeliveryCore} : core ∈ q.cores ↔ ∃ n, (core, n) ∈ q.counted := by
  simp only [cores, counted, List.mem_map, Prod.mk.injEq]
  constructor
  · rintro ⟨d, hd, rfl⟩
    exact ⟨d.attemptCount, d, hd, rfl, rfl⟩
  · rintro ⟨n, d, hd, rfl, rfl⟩
    exact ⟨d, hd, rfl⟩

@[simp] theorem append_counted (more : List QueuedRelayDelivery) :
    (q.append more).counted =
      q.counted ++ more.map fun d => (d.toDeliveryCore, d.attemptCount) := by
  simp [append, counted]

@[simp] theorem append_receipts (more : List QueuedRelayDelivery) :
    (q.append more).receipts = q.receipts := rfl

@[simp] theorem append_append (a b : List QueuedRelayDelivery) :
    (q.append a).append b = q.append (a ++ b) := by
  simp [append]

@[simp] theorem upsertReceipt_counted (receipt : RelayDeliveryReceipt) :
    (q.upsertReceipt receipt).counted = q.counted := rfl

@[simp] theorem upsertReceipt_append (receipt : RelayDeliveryReceipt)
    (more : List QueuedRelayDelivery) :
    (q.upsertReceipt receipt).append more = (q.append more).upsertReceipt receipt := rfl

@[simp] theorem deleteQueuedReceipt_deliveries (requestId deliveryId : JsString) :
    (q.deleteQueuedReceipt requestId deliveryId).deliveries = q.deliveries := by
  unfold deleteQueuedReceipt
  split
  · rfl
  · split <;> rfl

@[simp] theorem deleteQueuedReceipt_counted (requestId deliveryId : JsString) :
    (q.deleteQueuedReceipt requestId deliveryId).counted = q.counted := by
  simp only [counted, deleteQueuedReceipt_deliveries]

theorem lookup_deleteQueuedReceipt {requestId deliveryId : JsString}
    (h : (q.deleteQueuedReceipt requestId deliveryId).receipts.lookup id = some found) :
    q.receipts.lookup id = some found := by
  unfold deleteQueuedReceipt at h
  split at h
  · exact h
  · split at h
    · exact h
    · exact Receipts.lookup_erase h

/-- Only a queued receipt of the delivery is deleted. -/
theorem lookup_deleteQueuedReceipt_of {requestId deliveryId : JsString}
    (h : q.receipts.lookup id = some found)
    (hkept : found.state ≠ .queued ∨ id ≠ requestId ∨ found.deliveryId ≠ deliveryId) :
    (q.deleteQueuedReceipt requestId deliveryId).receipts.lookup id = some found := by
  unfold deleteQueuedReceipt
  cases hlookup : q.receipts.lookup requestId with
  | none => exact h
  | some receipt =>
      by_cases hkeep : receipt.deliveryId ≠ deliveryId ∨ receipt.state ≠ .queued
      · simp only [if_pos hkeep]
        exact h
      · simp only [if_neg hkeep]
        have hne : id ≠ requestId := by
          intro heq
          subst heq
          cases hlookup.symm.trans h
          rcases hkept with hstate | hid | hdelivery
          · exact hkeep (.inr hstate)
          · exact hid rfl
          · exact hkeep (.inl hdelivery)
        rw [Receipts.lookup_erase_of_ne hne]
        exact h

/-- A receipt outlives the expired deliveries that are not its own. -/
theorem lookup_dropExpiredReceipts_of {nowMs : ℚ} (l : List QueuedRelayDelivery)
    (hkept : found.state ≠ .queued ∨ ∀ d ∈ l, d.expiresAtMs ≤ nowMs →
      id ≠ d.requestId ∨ found.deliveryId ≠ d.deliveryId) :
    ∀ {q : RelayQueueState}, q.receipts.lookup id = some found →
      (q.dropExpiredReceipts nowMs l).receipts.lookup id = some found := by
  induction l with
  | nil => intro q h; exact h
  | cons d l ih =>
      intro q h
      have hrest : found.state ≠ .queued ∨ ∀ d ∈ l, d.expiresAtMs ≤ nowMs →
          id ≠ d.requestId ∨ found.deliveryId ≠ d.deliveryId :=
        hkept.imp_right fun hall e he => hall e (List.mem_cons_of_mem d he)
      refine ih hrest ?_
      by_cases hexpired : d.expiresAtMs ≤ nowMs
      · rw [if_pos hexpired]
        refine lookup_deleteQueuedReceipt_of h ?_
        exact hkept.imp_right fun hall => hall d List.mem_cons_self hexpired
      · rw [if_neg hexpired]
        exact h

/-- A receipt that is not expired is pruned only with its delivery. -/
theorem lookup_prune_of {nowMs : ℚ} (h : q.receipts.lookup id = some found)
    (hlive : nowMs < found.expiresAtMs)
    (hkept : found.state ≠ .queued ∨ ∀ d ∈ q.deliveries, d.expiresAtMs ≤ nowMs →
      id ≠ d.requestId ∨ found.deliveryId ≠ d.deliveryId) :
    (q.prune nowMs).receipts.lookup id = some found :=
  Table.lookup_keep_of_pos (lookup_dropExpiredReceipts_of q.deliveries hkept h)
    (decide_eq_true hlive)

theorem lookup_dropExpiredReceipts {nowMs : ℚ} (l : List QueuedRelayDelivery) :
    ∀ {q : RelayQueueState}, (q.dropExpiredReceipts nowMs l).receipts.lookup id = some found →
      q.receipts.lookup id = some found := by
  induction l with
  | nil => intro q h; exact h
  | cons d l ih =>
      intro q h
      have h' := ih h
      split at h'
      · exact lookup_deleteQueuedReceipt h'
      · exact h'

/-- A queued receipt does not outlive its delivery. -/
theorem kept_of_lookup_deleteQueuedReceipt {requestId deliveryId : JsString}
    (h : (q.deleteQueuedReceipt requestId deliveryId).receipts.lookup id = some found) :
    found.state ≠ .queued ∨ id ≠ requestId ∨ found.deliveryId ≠ deliveryId := by
  by_contra hkept
  push Not at hkept
  obtain ⟨hstate, rfl, hdelivery⟩ := hkept
  have hfound := lookup_deleteQueuedReceipt h
  unfold deleteQueuedReceipt at h
  simp only [hfound] at h
  rw [if_neg (by simp [hstate, hdelivery])] at h
  cases Receipts.lookup_erase_self.symm.trans h

/-- What later pruning leaves, earlier pruning leaves too. -/
theorem lookup_dropExpiredReceipts_mono {nowMs laterMs : ℚ} (hle : nowMs ≤ laterMs)
    (l : List QueuedRelayDelivery) : ∀ {q q' : RelayQueueState},
      (q'.receipts.lookup id = some found → q.receipts.lookup id = some found) →
      (q'.dropExpiredReceipts laterMs l).receipts.lookup id = some found →
      (q.dropExpiredReceipts nowMs l).receipts.lookup id = some found := by
  induction l with
  | nil => exact fun h => h
  | cons d l ih =>
      intro q q' h
      refine ih fun hfound => ?_
      by_cases hexpired : d.expiresAtMs ≤ nowMs
      · rw [if_pos (hexpired.trans hle)] at hfound
        rw [if_pos hexpired]
        exact lookup_deleteQueuedReceipt_of (h (lookup_deleteQueuedReceipt hfound))
          (kept_of_lookup_deleteQueuedReceipt hfound)
      · rw [if_neg hexpired]
        split at hfound
        · exact h (lookup_deleteQueuedReceipt hfound)
        · exact h hfound

theorem lookup_prune_mono {nowMs laterMs : ℚ} (hle : nowMs ≤ laterMs)
    (h : (q.prune laterMs).receipts.lookup id = some found) :
    (q.prune nowMs).receipts.lookup id = some found := by
  obtain ⟨hkept, hlive⟩ := Table.lookup_keep_eq_some.mp h
  have hbefore := lookup_dropExpiredReceipts_mono hle q.deliveries (fun hfound => hfound) hkept
  exact Table.lookup_keep_of_pos hbefore (decide_eq_true (hle.trans_lt (of_decide_eq_true hlive)))

end RelayQueueState

/-! ## Edits -/

/-- What the code does to a queue at a time. -/
inductive Edits (policy : RelayDeliveryPolicy) (nowMs : ℚ) :
    RelayQueueState → RelayQueueState → Prop
  /-- The deliveries get new times or another order. -/
  | retime {q q' : RelayQueueState} (hcounted : q'.counted.Perm q.counted)
      (hreceipts : q'.receipts = q.receipts) : Edits policy nowMs q q'
  /-- A delivery that is expired or out of attempts goes, with its queued receipt. -/
  | drop {q q' : RelayQueueState} {x : DeliveryCore × ℕ}
      (hx : x.1.expiresAtMs ≤ nowMs ∨ policy.retryMaxAttempts ≤ x.2)
      (hcounted : q.counted.Perm (x :: q'.counted))
      (hreceipts : q'.receipts =
        (q.deleteQueuedReceipt x.1.requestId x.1.deliveryId).receipts) : Edits policy nowMs q q'
  /-- The expired receipts go after the expired deliveries. -/
  | expire {q : RelayQueueState} (hlive : ∀ x ∈ q.counted, nowMs < x.1.expiresAtMs) :
      Edits policy nowMs q
        ⟨q.deliveries, q.receipts.keep fun receipt => decide (nowMs < receipt.expiresAtMs)⟩
  | trans {q q' q'' : RelayQueueState} (h : Edits policy nowMs q q')
      (h' : Edits policy nowMs q' q'') : Edits policy nowMs q q''

section
variable {policy : RelayDeliveryPolicy} {nowMs : ℚ} {q q' : RelayQueueState}

theorem Edits.refl (q : RelayQueueState) : Edits policy nowMs q q := .retime (.refl _) rfl

/-- Every receipt was there before. -/
theorem Edits.lookup (h : Edits policy nowMs q q') {id : JsString}
    {receipt : RelayDeliveryReceipt} (hfound : q'.receipts.lookup id = some receipt) :
    q.receipts.lookup id = some receipt := by
  induction h with
  | retime hcounted hreceipts => rwa [← hreceipts]
  | drop hx hcounted hreceipts =>
      rw [hreceipts] at hfound
      exact RelayQueueState.lookup_deleteQueuedReceipt hfound
  | expire hlive => exact Receipts.lookup_keep hfound
  | trans _ _ ih ih' => exact ih (ih' hfound)

/-- Deleting a receipt does not look at the deliveries. -/
theorem RelayQueueState.deleteQueuedReceipt_congr {q q' : RelayQueueState}
    (h : q.receipts = q'.receipts) (requestId deliveryId : JsString) : (q.deleteQueuedReceipt requestId deliveryId).receipts =
      (q'.deleteQueuedReceipt requestId deliveryId).receipts := by
  unfold RelayQueueState.deleteQueuedReceipt
  rw [h]
  split
  · exact h
  · split
    · exact h
    · rfl

/-- A delivery of a list that is expired or out of attempts is dropped. -/
theorem edits_drop {before : RelayQueueState} {d : QueuedRelayDelivery}
    {rest : List QueuedRelayDelivery}
    (h : d.expiresAtMs ≤ nowMs ∨ policy.retryMaxAttempts ≤ d.attemptCount) :
    Edits policy nowMs (before.append (d :: rest))
      ((before.deleteQueuedReceipt d.requestId d.deliveryId).append rest) := by
  refine .drop (x := (d.toDeliveryCore, d.attemptCount)) h ?_ ?_
  · simp only [RelayQueueState.append_counted, RelayQueueState.deleteQueuedReceipt_counted,
      List.map_cons]
    exact List.perm_middle
  · have hsame : before.receipts = (before.append (d :: rest)).receipts := rfl
    exact RelayQueueState.deleteQueuedReceipt_congr hsame _ _

/-- The receipts of the expired deliveries of a list go with these. -/
theorem edits_dropExpiredReceipts (policy : RelayDeliveryPolicy) (nowMs : ℚ)
    (l : List QueuedRelayDelivery) : ∀ (kept : List QueuedRelayDelivery) (q : RelayQueueState),
      Edits policy nowMs ⟨kept ++ l, q.receipts⟩
        ⟨kept ++ l.filter fun d => decide (nowMs < d.expiresAtMs),
          (q.dropExpiredReceipts nowMs l).receipts⟩ := by
  induction l with
  | nil =>
      intro kept q
      exact .refl _
  | cons d l ih =>
      intro kept q
      unfold RelayQueueState.dropExpiredReceipts
      by_cases hexpired : d.expiresAtMs ≤ nowMs
      · rw [if_pos hexpired, List.filter_cons_of_neg (by simpa using hexpired)]
        have hdrop : Edits policy nowMs ⟨kept ++ d :: l, q.receipts⟩
            ⟨kept ++ l, (q.deleteQueuedReceipt d.requestId d.deliveryId).receipts⟩ := by
          refine .drop (x := (d.toDeliveryCore, d.attemptCount)) (.inl hexpired) ?_ ?_
          · simp only [RelayQueueState.counted, List.map_append, List.map_cons]
            exact List.perm_middle
          · have hsame : q.receipts = (⟨kept ++ d :: l, q.receipts⟩ : RelayQueueState).receipts := rfl
            exact RelayQueueState.deleteQueuedReceipt_congr hsame _ _
        exact hdrop.trans (ih kept _)
      · rw [if_neg hexpired, List.filter_cons_of_pos (by simpa using hexpired)]
        have hkept := ih (kept ++ [d]) q
        simpa only [List.append_assoc, List.singleton_append] using hkept

theorem edits_prune (policy : RelayDeliveryPolicy) (nowMs : ℚ) (q : RelayQueueState) :
    Edits policy nowMs q (q.prune nowMs) := by
  refine (edits_dropExpiredReceipts policy nowMs q.deliveries [] q).trans (.expire ?_)
  intro x hx
  obtain ⟨d, hd, rfl⟩ := List.mem_map.mp hx
  simpa using (List.mem_filter.mp hd).2

theorem postpone_map (policy : RelayDeliveryPolicy) (nowMs : ℚ) (random : ℕ → ℚ)
    (l : List QueuedRelayDelivery) :
    (postpone policy nowMs random l).map (fun d => (d.toDeliveryCore, d.attemptCount)) =
      l.map fun d => (d.toDeliveryCore, d.attemptCount) := by
  apply List.ext_getElem?
  intro i
  simp only [postpone, List.getElem?_map, List.getElem?_mapIdx, Option.map_map]
  congr 1
  funext d
  simp only [Function.comp_apply]
  split <;> rfl

theorem edits_postpone (policy : RelayDeliveryPolicy) (nowMs : ℚ) (random : ℕ → ℚ)
    (q : RelayQueueState) :
    Edits policy nowMs q { q with deliveries := postpone policy nowMs random q.deliveries } :=
  .retime (by rw [RelayQueueState.counted, RelayQueueState.counted, postpone_map]) rfl

theorem edits_mergeSort (policy : RelayDeliveryPolicy) (nowMs : ℚ) (q : RelayQueueState) :
    Edits policy nowMs q { q with deliveries := q.deliveries.mergeSort attemptOrder } :=
  .retime ((List.mergeSort_perm _ _).map _) rfl

/-- All deliveries become due. -/
theorem edits_due (policy : RelayDeliveryPolicy) (nowMs : ℚ) (q : RelayQueueState) :
    Edits policy nowMs q { q with deliveries := q.deliveries.map fun d =>
      if nowMs < d.nextAttemptAtMs then { d with nextAttemptAtMs := nowMs } else d } := by
  have hd : (fun d : QueuedRelayDelivery => (d.toDeliveryCore, d.attemptCount)) ∘
      (fun d => if nowMs < d.nextAttemptAtMs then { d with nextAttemptAtMs := nowMs } else d) =
      fun d => (d.toDeliveryCore, d.attemptCount) := by
    funext d
    simp only [Function.comp_apply]
    split <;> rfl
  refine .retime ?_ rfl
  simp only [RelayQueueState.counted, List.map_map, hd]
  exact .refl _

end

/-! ## The loop -/

/-- The queue of a call at which the loop stopped. -/
def LoopExit.queue : LoopExit → RelayQueueState
  | .finished queue _ => queue
  | .attempt before current rest _ => before.append (current :: rest)

/-- The queue of a call that waits in the loop. -/
def Processing.queue (call : Processing) : RelayQueueState :=
  call.before.append (call.current :: call.rest)

/-- The delivery after one more attempt. -/
def QueuedRelayDelivery.tried (d : QueuedRelayDelivery) : QueuedRelayDelivery :=
  { d with attemptCount := d.attemptCount + 1 }

section
variable (rt : Runtime) (policy : RelayDeliveryPolicy)

/-- **The loop up to the next attempt.** -/
theorem edits_processLoop (pending : ℕ) (nowMs : ℚ) (rest : List QueuedRelayDelivery) :
    ∀ (before : RelayQueueState) (mutated : Bool),
      Edits policy nowMs (before.append rest)
        (processLoop policy pending nowMs before mutated rest).queue := by
  induction rest with
  | nil =>
      intro before mutated
      simpa [processLoop, LoopExit.queue, RelayQueueState.append] using Edits.refl before
  | cons d rest ih =>
      intro before mutated
      unfold processLoop
      by_cases hfull : policy.maxInFlightDeliveries ≤ pending
      · rw [if_pos hfull]
        exact Edits.refl _
      rw [if_neg hfull]
      by_cases hexpired : d.expiresAtMs ≤ nowMs
      · rw [if_pos hexpired]
        exact (edits_drop (.inl hexpired)).trans (ih _ _)
      rw [if_neg hexpired]
      by_cases hspent : policy.retryMaxAttempts ≤ d.attemptCount
      · rw [if_pos hspent]
        exact (edits_drop (.inr hspent)).trans (ih _ _)
      rw [if_neg hspent]
      by_cases hlater : nowMs < d.nextAttemptAtMs
      · rw [if_pos hlater]
        have := ih (before.append [d]) mutated
        rwa [RelayQueueState.append_append, List.singleton_append] at this
      · rw [if_neg hlater]
        exact Edits.refl _

/-- **The loop after an attempt that failed**: the attempt is counted first. -/
theorem edits_afterAttempt (pending : ℕ) (call : Processing) {outcome : Outcome}
    (random : ℕ → ℚ) (h : outcome ≠ .acked true) :
    Edits policy call.nowMs (call.before.append (call.current.tried :: call.rest))
      (afterAttempt rt policy pending call outcome random).queue := by
  unfold afterAttempt
  rw [if_neg h]
  by_cases hspent : policy.retryMaxAttempts ≤ call.current.attemptCount + 1
  · rw [if_pos hspent]
    exact (edits_drop (.inr hspent)).trans (edits_processLoop policy _ _ _ _ _)
  rw [if_neg hspent]
  have hretried : ∀ (t : ℚ) (rest : List QueuedRelayDelivery),
      rest.map (fun d => (d.toDeliveryCore, d.attemptCount)) =
        call.rest.map (fun d => (d.toDeliveryCore, d.attemptCount)) →
      Edits policy call.nowMs (call.before.append (call.current.tried :: call.rest))
        (call.before.append ({ call.current with
          attemptCount := call.current.attemptCount + 1, nextAttemptAtMs := t } :: rest)) := by
    intro t rest hrest
    refine .retime ?_ rfl
    simp only [RelayQueueState.append_counted, List.map_cons, hrest, QueuedRelayDelivery.tried]
    exact .refl _
  cases outcome with
  | error => exact hretried _ _ (postpone_map _ _ _ _)
  | acked accepted =>
      have hloop := edits_processLoop policy pending call.nowMs call.rest
        (call.before.append [{ call.current with
          attemptCount := call.current.attemptCount + 1
          nextAttemptAtMs := call.nowMs +
            computeRetryDelayMs policy (call.current.attemptCount + 1) (random 0) }]) true
      rw [RelayQueueState.append_append, List.singleton_append] at hloop
      exact (hretried _ call.rest rfl).trans hloop

/-- The receipt of a queued delivery that the connector has accepted. -/
def Processing.acceptedReceipt (call : Processing) : RelayDeliveryReceipt :=
  deliveryReceipt rt call.current.toInput call.current.deliveryId .delivered
    (call.nowMs + policy.queueTtlMs) call.nowMs

/-- **The loop after an attempt that was accepted**: the delivery is taken out, and its
receipt is written. -/
theorem edits_afterAttempt_acked (pending : ℕ) (call : Processing) (random : ℕ → ℚ) :
    Edits policy call.nowMs
      ((call.before.append call.rest).upsertReceipt (call.acceptedReceipt rt policy))
      (afterAttempt rt policy pending call (.acked true) random).queue := by
  unfold afterAttempt
  rw [if_pos rfl]
  have hloop := edits_processLoop policy pending call.nowMs call.rest
    (call.before.upsertReceipt (call.acceptedReceipt rt policy)) true
  rwa [RelayQueueState.upsertReceipt_append] at hloop

end

/-! ## Evolution -/

/-- The second queue comes from the first without a new delivery: each of its
deliveries, with its number of attempts, and each of its queued receipts was there,
and a delivery that is gone was expired or out of attempts. -/
structure Evolves (policy : RelayDeliveryPolicy) (nowMs : ℚ) (q q' : RelayQueueState) : Prop where
  back : ∀ x ∈ q'.counted, x ∈ q.counted
  forth : ∀ x ∈ q.counted,
    x ∈ q'.counted ∨ x.1.expiresAtMs ≤ nowMs ∨ policy.retryMaxAttempts ≤ x.2
  receipts : ∀ id r, q'.receipts.lookup id = some r → r.state = .queued →
    q.receipts.lookup id = some r

section
variable {policy : RelayDeliveryPolicy} {nowMs : ℚ} {q q' q'' : RelayQueueState}

theorem Evolves.refl (q : RelayQueueState) : Evolves policy nowMs q q :=
  ⟨fun _ hx => hx, fun _ hx => .inl hx, fun _ _ h _ => h⟩

theorem Evolves.trans (h₁ : Evolves policy nowMs q q') (h₂ : Evolves policy nowMs q' q'') :
    Evolves policy nowMs q q'' where
  back x hx := h₁.back x (h₂.back x hx)
  forth x hx := by
    rcases h₁.forth x hx with hx | hx
    · exact h₂.forth x hx
    · exact .inr hx
  receipts id r h hr := h₁.receipts id r (h₂.receipts id r h hr) hr

/-- **The code adds nothing to a queue that it edits.** -/
theorem Edits.evolves (h : Edits policy nowMs q q') : Evolves policy nowMs q q' := by
  refine ⟨?_, ?_, fun _ _ hfound _ => h.lookup hfound⟩
  · induction h with
    | retime hcounted hreceipts => exact fun x hx => hcounted.mem_iff.mp hx
    | drop hx hcounted hreceipts =>
        exact fun y hy => hcounted.mem_iff.mpr (List.mem_cons_of_mem _ hy)
    | expire hlive => exact fun x hx => hx
    | trans _ _ ih ih' => exact fun x hx => ih x (ih' x hx)
  · induction h with
    | retime hcounted hreceipts => exact fun x hx => .inl (hcounted.mem_iff.mpr hx)
    | drop hdropped hcounted hreceipts =>
        intro y hy
        rcases List.mem_cons.mp (hcounted.mem_iff.mp hy) with rfl | hy
        · exact .inr hdropped
        · exact .inl hy
    | expire hlive => exact fun x hx => .inl hx
    | trans _ _ ih ih' =>
        intro x hx
        rcases ih x hx with hx | hx
        · exact ih' x hx
        · exact .inr hx

/-- A receipt that is not queued is written. -/
theorem evolves_upsertReceipt {receipt : RelayDeliveryReceipt} (h : receipt.state ≠ .queued) :
    Evolves policy nowMs q (q.upsertReceipt receipt) where
  back _ hx := hx
  forth _ hx := .inl hx
  receipts id r hfound hstate := by
    rcases Receipts.lookup_upsert hfound with rfl | hfound
    · exact absurd hstate h
    · exact hfound

end

end Clawdentity.Relay
