import Clawdentity.Lib.Attempts
import Clawdentity.Lib.Interleave
import Clawdentity.Rust.RelayRejections

/-!
# Forwarding receipts to the webhook

The task for inbound frames and the retry task share one queue of notifications. A flush takes
those that are due out of it, posts them one by one, and puts the ones that have failed back at its
end; while a post is awaited, other calls work on the queue. The notifications that a flush holds
are in no queue, so the queue may fill up before they come back.

## Main definitions

* `Notification` — an entry of the queue, with the number of its creation.
* `program` — the two functions, cut at every await of the webhook.
* `Sound`, `StepConserves` — what holds of every state, and of every step.

## Main results

* `forwardNext_cases` — what a flush does between two awaits.
* `notifications_conserved` — both hold in every interleaving.
-/

namespace Clawdentity.Rust.ReceiptForwards

open Lib Lib.Run Lib.Interleave Lib.Attempts
open Lib.SignedInt (saturate minValue)
open RelayRejections (PendingReceiptNotification RECEIPT_FORWARD_MAX_AGE_MS
  RECEIPT_FORWARD_MAX_PENDING shouldDropNotification)
open ReceiptRetries (RECEIPT_FORWARD_MAX_ATTEMPTS computeReceiptRetryDelayMs)

/-! ## The queue -/

/-- A notification, with a number that tells it from every other and that no code reads. -/
structure Notification extends PendingReceiptNotification where
  number : ℕ
  deriving DecidableEq

def prunePendingQueue (pending : List Notification) (nowMs : ℤ) : List Notification :=
  pending.filter fun item => !shouldDropNotification item.toPendingReceiptNotification nowMs

def enqueuePendingReceiptNotification (pending : List Notification) (notification : Notification)
    (nowMs : ℤ) : List Notification :=
  let pruned := prunePendingQueue pending nowMs
  if RECEIPT_FORWARD_MAX_PENDING ≤ pruned.length then pruned else pruned ++ [notification]

/-- The notifications that are due, and those that stay in the queue. -/
def takeDueNotifications (pending : List Notification) (nowMs : ℤ) :
    List Notification × List Notification :=
  (pending.filter fun item => item.nextAttemptAtMs ≤ nowMs,
    pending.filter fun item => nowMs < item.nextAttemptAtMs)

def requeueNotifications (pending retry : List Notification) : List Notification :=
  if retry.isEmpty then pending
  else pending ++ retry.take (RECEIPT_FORWARD_MAX_PENDING - pending.length)

def Notification.new (receipt : ReceiptFrame) (nowMs : ℤ) (number : ℕ) : Notification :=
  { PendingReceiptNotification.new receipt nowMs with number }

/-- A notification after a forward that has failed. -/
def Notification.retried (notification : Notification) (nowMs : ℤ) : Notification :=
  { notification with
    attemptCount := notification.attemptCount + 1
    nextAttemptAtMs := nowMs + computeReceiptRetryDelayMs (notification.attemptCount + 1) }

/-- Without the numbers this is the queue of the model of rejections. -/
theorem map_prunePendingQueue (pending : List Notification) (nowMs : ℤ) :
    (prunePendingQueue pending nowMs).map Notification.toPendingReceiptNotification =
      RelayRejections.prunePendingQueue
        (pending.map Notification.toPendingReceiptNotification) nowMs := by
  rw [RelayRejections.prunePendingQueue, List.filter_map]
  rfl

theorem map_enqueuePendingReceiptNotification (pending : List Notification)
    (notification : Notification) (nowMs : ℤ) :
    (enqueuePendingReceiptNotification pending notification nowMs).map
        Notification.toPendingReceiptNotification =
      RelayRejections.enqueuePendingReceiptNotification
        (pending.map Notification.toPendingReceiptNotification)
        notification.toPendingReceiptNotification nowMs := by
  have hlength : (RelayRejections.prunePendingQueue
      (pending.map Notification.toPendingReceiptNotification) nowMs).length =
        (prunePendingQueue pending nowMs).length := by
    rw [← map_prunePendingQueue, List.length_map]
  rw [RelayRejections.enqueuePendingReceiptNotification, RelayRejections.hasRoom, hlength,
    ← map_prunePendingQueue]
  simp only [enqueuePendingReceiptNotification, decide_eq_true_eq]
  by_cases hfull : RECEIPT_FORWARD_MAX_PENDING ≤ (prunePendingQueue pending nowMs).length
  · rw [if_pos hfull, if_neg (by omega)]
  · rw [if_neg hfull, if_pos (by omega), List.map_append]
    rfl

/-! ## The calls -/

structure Shared where
  /-- The last reading of the clock, which does not go back. -/
  clockMs : ℤ
  pending : List Notification
  /-- How many notifications there have been. -/
  created : ℕ
  /-- The posts to the webhook as they begin and end, which no code reads. -/
  forwards : List (Attempt ℕ)

/-- A call that waits for the webhook, or that has returned. -/
inductive Call
  | forwarding (nowMs : ℤ) (current : Notification) (due retry : List Notification)
  | returned

inductive Request
  /-- `PendingReceiptNotification::new` and `enqueue_pending_receipt_notification`. -/
  | enqueue (receipt : ReceiptFrame) (createdAtMs nowMs : ℤ)
  /-- `flush_pending_receipt_notifications`. -/
  | flush (nowMs : ℤ)

/-- How a post ends, and the clock then. -/
structure Answer where
  ok : Bool
  nowMs : ℤ

/-- The loop of a flush over the notifications that are left, up to its next await. -/
def forwardNext (sh : Shared) (nowMs : ℤ) (retry : List Notification) :
    List Notification → Shared × Call
  | [] => ({ sh with pending := requeueNotifications sh.pending retry }, .returned)
  | notification :: due =>
      if shouldDropNotification notification.toPendingReceiptNotification nowMs then
        forwardNext sh nowMs retry due
      else
        ({ sh with forwards := sh.forwards ++ [⟨notification.number, .begun⟩] },
          .forwarding nowMs notification due retry)

def start (sh : Shared) : Request → Option (Shared × Call)
  | .enqueue receipt createdAtMs nowMs =>
      if sh.clockMs ≤ nowMs ∧ createdAtMs ≤ nowMs then
        let notification := .new receipt createdAtMs sh.created
        some ({ sh with
          clockMs := nowMs
          pending := enqueuePendingReceiptNotification sh.pending notification nowMs
          created := sh.created + 1 }, .returned)
      else none
  | .flush nowMs =>
      if sh.clockMs ≤ nowMs then
        let (due, future) := takeDueNotifications sh.pending nowMs
        some (forwardNext { sh with clockMs := nowMs, pending := future } nowMs [] due)
      else none

/-- The post of a call ends, and the call goes on. -/
def resume (sh : Shared) (call : Call) (answer : Answer) : Option (Shared × Call) :=
  match call with
  | .forwarding nowMs current due retry =>
      if sh.clockMs ≤ answer.nowMs then
        let outcome := if answer.ok then .succeeded else .failed
        let sh := { sh with
          clockMs := answer.nowMs
          forwards := sh.forwards ++ [⟨current.number, outcome⟩] }
        let retry := if answer.ok then retry else retry ++ [current.retried answer.nowMs]
        some (forwardNext sh nowMs retry due)
      else none
  | .returned => none

def program : Program Shared Call Request Answer := ⟨start, resume⟩

abbrev Runtime := Pool Shared Call

/-- The runtime as the connector starts. -/
def Runtime.empty (clockMs : ℤ) : Runtime := ⟨⟨clockMs, [], 0, []⟩, []⟩

/-! ## The loop between two awaits -/

section
variable {sh : Shared} {nowMs : ℤ} {pending due retry : List Notification}

/-- **What the loop does.** It gives up notifications until one can be posted, or puts back those
that have failed. -/
theorem forwardNext_cases (sh : Shared) (nowMs : ℤ) (retry due : List Notification) :
    (∀ x ∈ due, shouldDropNotification x.toPendingReceiptNotification nowMs = true) ∧
        forwardNext sh nowMs retry due =
          ({ sh with pending := requeueNotifications sh.pending retry }, .returned) ∨
      ∃ skipped current rest, due = skipped ++ current :: rest ∧
        (∀ x ∈ skipped, shouldDropNotification x.toPendingReceiptNotification nowMs = true) ∧
        shouldDropNotification current.toPendingReceiptNotification nowMs = false ∧
        forwardNext sh nowMs retry due =
          ({ sh with forwards := sh.forwards ++ [⟨current.number, .begun⟩] },
            .forwarding nowMs current rest retry) := by
  induction due with
  | nil =>
    left
    exact ⟨by simp, rfl⟩
  | cons x due ih =>
    rw [forwardNext]
    by_cases hdrop : shouldDropNotification x.toPendingReceiptNotification nowMs = true
    · rw [if_pos hdrop]
      obtain ⟨hall, heq⟩ | ⟨skipped, current, rest, rfl, hskipped, hkept, heq⟩ := ih
      · left
        exact ⟨List.forall_mem_cons.mpr ⟨hdrop, hall⟩, heq⟩
      · right
        exact ⟨x :: skipped, current, rest, rfl, List.forall_mem_cons.mpr ⟨hdrop, hskipped⟩,
          hkept, heq⟩
    · rw [if_neg hdrop]
      right
      exact ⟨[], x, due, rfl, by simp, by simpa using hdrop, rfl⟩

theorem requeueNotifications_sublist (pending retry : List Notification) :
    List.Sublist (requeueNotifications pending retry) (pending ++ retry) := by
  rw [requeueNotifications]
  split
  · exact List.sublist_append_left _ _
  · exact (List.take_sublist _ _).append_left _

theorem requeueNotifications_length_le (h : pending.length ≤ RECEIPT_FORWARD_MAX_PENDING) :
    (requeueNotifications pending retry).length ≤ RECEIPT_FORWARD_MAX_PENDING := by
  rw [requeueNotifications]
  split
  · exact h
  · rw [List.length_append, List.length_take]
    omega

/-- A notification that is put back is in the queue, or the queue is full. -/
theorem mem_requeueNotifications_or_full {x : Notification} (hx : x ∈ retry) :
    x ∈ requeueNotifications pending retry ∨
      RECEIPT_FORWARD_MAX_PENDING ≤ (requeueNotifications pending retry).length := by
  have hne : retry ≠ [] := List.ne_nil_of_mem hx
  rw [requeueNotifications, if_neg (by simpa using hne)]
  by_cases hfits : retry.length ≤ RECEIPT_FORWARD_MAX_PENDING - pending.length
  · left
    rw [List.take_of_length_le hfits]
    exact List.mem_append_right _ hx
  · right
    rw [List.length_append, List.length_take]
    omega

theorem mem_requeueNotifications_of_mem {x : Notification} (hx : x ∈ pending) :
    x ∈ requeueNotifications pending retry := by
  rw [requeueNotifications]
  split
  · exact hx
  · exact List.mem_append_left _ hx

end

/-! ## The segments of the two functions -/

/-- The state in which a flush enters its loop. -/
def Shared.taken (sh : Shared) (nowMs : ℤ) : Shared :=
  { sh with clockMs := nowMs, pending := (takeDueNotifications sh.pending nowMs).2 }

/-- The state in which a call goes on after its post of `current`. -/
def Shared.posted (sh : Shared) (current : Notification) (answer : Answer) : Shared :=
  { sh with
    clockMs := answer.nowMs
    forwards := sh.forwards ++ [⟨current.number, if answer.ok then .succeeded else .failed⟩] }

/-- The notifications that a call puts back later, after its post of `current`. -/
def retriedWith (retry : List Notification) (current : Notification) (answer : Answer) :
    List Notification :=
  if answer.ok then retry else retry ++ [current.retried answer.nowMs]

theorem start_enqueue {sh sh' : Shared} {receipt : ReceiptFrame} {createdAtMs nowMs : ℤ}
    {call : Call} (h : start sh (.enqueue receipt createdAtMs nowMs) = some (sh', call)) :
    sh.clockMs ≤ nowMs ∧ call = .returned ∧
      sh' = { sh with
        clockMs := nowMs
        pending := enqueuePendingReceiptNotification sh.pending
          (.new receipt createdAtMs sh.created) nowMs
        created := sh.created + 1 } := by
  simp only [start, Option.ite_none_right_eq_some] at h
  obtain ⟨⟨hnow, -⟩, h⟩ := h
  cases h
  exact ⟨hnow, rfl, rfl⟩

theorem start_flush {sh sh' : Shared} {nowMs : ℤ} {call : Call}
    (h : start sh (.flush nowMs) = some (sh', call)) :
    sh.clockMs ≤ nowMs ∧
      forwardNext (sh.taken nowMs) nowMs [] (takeDueNotifications sh.pending nowMs).1 =
        (sh', call) := by
  simp only [start, Option.ite_none_right_eq_some] at h
  exact ⟨h.1, Option.some.inj h.2⟩

theorem resume_cases {sh sh' : Shared} {call call' : Call} {answer : Answer}
    (h : resume sh call answer = some (sh', call')) :
    ∃ nowMs current due retry, call = .forwarding nowMs current due retry ∧
      sh.clockMs ≤ answer.nowMs ∧
      forwardNext (sh.posted current answer) nowMs (retriedWith retry current answer) due =
        (sh', call') := by
  cases call with
  | returned => cases h
  | forwarding nowMs current due retry =>
    simp only [resume, Option.ite_none_right_eq_some] at h
    exact ⟨nowMs, current, due, retry, rfl, h.1, Option.some.inj h.2⟩

/-! ## What the numbers add up to -/

/-- A notification, with the number of its posts. -/
def tally (notification : Notification) : ℕ × ℤ :=
  (notification.number, notification.attemptCount)

@[simp] theorem tally_retried (notification : Notification) (nowMs : ℤ) :
    tally (notification.retried nowMs) =
      (notification.number, notification.attemptCount + 1) := rfl

/-- The notifications that a call holds. -/
def Call.items : Call → List Notification
  | .forwarding _ current due retry => current :: (due ++ retry)
  | .returned => []

/-- The notifications that a call holds; the one that it posts has been posted once more. -/
def Call.tallies : Call → List (ℕ × ℤ)
  | .forwarding _ current due retry =>
      (current.number, current.attemptCount + 1) :: (due ++ retry).map tally
  | .returned => []

/-- The queue, its log, and what the calls hold. -/
structure Inv (sh : Shared) (held : List (ℕ × ℤ)) : Prop where
  bounded : sh.pending.length ≤ RECEIPT_FORWARD_MAX_PENDING
  ledger : Ledger RECEIPT_FORWARD_MAX_ATTEMPTS sh.forwards (sh.pending.map tally ++ held)
  numbered : ∀ t ∈ sh.pending.map tally ++ held, t.1 < sh.created
  logged : ∀ a ∈ sh.forwards, a.key < sh.created

section
variable {sh : Shared} {held held' : List (ℕ × ℤ)} {nowMs : ℤ}
  {pending due retry : List Notification}

/-- The queue shrinks or hands over, within what was there. -/
theorem Inv.handOver (h : Inv sh held)
    (hbounded : pending.length ≤ RECEIPT_FORWARD_MAX_PENDING)
    (hsub : (pending.map tally ++ held').Subperm (sh.pending.map tally ++ held)) (clockMs : ℤ) :
    Inv { sh with clockMs, pending } held' where
  bounded := hbounded
  ledger := h.ledger.subperm hsub
  numbered t ht := h.numbered t (hsub.subset ht)
  logged := h.logged

theorem Inv.subperm (h : Inv sh held) (hsub : held'.Subperm held) : Inv sh held' :=
  h.handOver h.bounded ((List.subperm_append_left _).mpr hsub) sh.clockMs

/-- An entry is added to the log about the notification that a call posts. -/
theorem Inv.log {number : ℕ} {count : ℤ} {outcome : Outcome} (h : Inv sh ((number, count) :: held))
    (hledger : Ledger RECEIPT_FORWARD_MAX_ATTEMPTS sh.forwards
        ((number, count) :: (sh.pending.map tally ++ held)) →
      Ledger RECEIPT_FORWARD_MAX_ATTEMPTS (sh.forwards ++ [⟨number, outcome⟩])
        (sh.pending.map tally ++ held'))
    (hsub : ∀ t ∈ held', t.1 = number ∨ t ∈ held) (clockMs : ℤ) :
    Inv { sh with clockMs, forwards := sh.forwards ++ [⟨number, outcome⟩] } held' where
  bounded := h.bounded
  ledger := hledger (h.ledger.subperm List.perm_middle.symm.subperm)
  numbered t ht := by
    obtain ht | ht := List.mem_append.mp ht
    · exact h.numbered t (List.mem_append_left _ ht)
    · obtain heq | ht := hsub t ht
      · rw [heq]
        exact h.numbered (number, count) (List.mem_append_right _ List.mem_cons_self)
      · exact h.numbered t (List.mem_append_right _ (List.mem_cons_of_mem _ ht))
  logged a ha := by
    obtain ha | ha := List.mem_append.mp ha
    · exact h.logged a ha
    · obtain rfl := List.mem_singleton.mp ha
      exact h.numbered (number, count) (List.mem_append_right _ List.mem_cons_self)

theorem attemptCount_lt {x : PendingReceiptNotification}
    (h : shouldDropNotification x nowMs = false) :
    x.attemptCount < RECEIPT_FORWARD_MAX_ATTEMPTS := by
  simp only [shouldDropNotification, Bool.or_eq_false_iff, decide_eq_false_iff_not] at h
  omega

/-- **The loop keeps the invariant**: it hands over what it has taken, and begins one post. -/
theorem forwardNext_inv (nowMs : ℤ) (h : Inv sh ((due ++ retry).map tally ++ held)) :
    Inv (forwardNext sh nowMs retry due).1
      ((forwardNext sh nowMs retry due).2.tallies ++ held) := by
  obtain ⟨-, heq⟩ | ⟨skipped, current, rest, rfl, -, hkept, heq⟩ :=
    forwardNext_cases sh nowMs retry due
  · rw [heq]
    refine h.handOver (requeueNotifications_length_le h.bounded) ?_ sh.clockMs
    apply List.Sublist.subperm
    have hsub := (requeueNotifications_sublist sh.pending retry).map tally
    rw [List.map_append] at hsub
    rw [Call.tallies, List.nil_append, List.map_append, ← List.append_assoc]
    refine List.Sublist.append_right (hsub.trans ?_) held
    exact (List.sublist_append_right _ _).append_left _
  · rw [heq]
    have hheld : Inv sh (tally current :: ((rest ++ retry).map tally ++ held)) := by
      apply h.subperm
      apply List.Sublist.subperm
      simp only [List.map_append, List.map_cons, List.append_assoc, List.cons_append]
      exact List.sublist_append_right _ _
    refine hheld.log ?_ ?_ sh.clockMs
    · intro hledger
      exact (hledger.begin (attemptCount_lt hkept)).subperm List.perm_middle.subperm
    · intro t ht
      obtain rfl | ht := List.mem_cons.mp ht
      · exact .inl rfl
      · exact .inr ht

/-! ## One step -/

theorem prunePendingQueue_sublist (pending : List Notification) (nowMs : ℤ) :
    List.Sublist (prunePendingQueue pending nowMs) pending := List.filter_sublist

/-- The due notifications and the others are the queue. -/
theorem takeDueNotifications_perm (pending : List Notification) (nowMs : ℤ) :
    ((takeDueNotifications pending nowMs).2 ++ (takeDueNotifications pending nowMs).1).Perm
      pending := by
  have hfuture : (fun item : Notification => decide (nowMs < item.nextAttemptAtMs)) =
      fun item => !decide (item.nextAttemptAtMs ≤ nowMs) := by
    funext item
    rw [← decide_not, decide_eq_decide]
    exact not_le.symm
  rw [takeDueNotifications, hfuture]
  exact List.perm_append_comm.trans (List.filter_append_perm _ _)

theorem enqueue_inv {receipt : ReceiptFrame} {createdAtMs : ℤ} {call : Call} {sh' : Shared}
    (h : Inv sh held) (hstart : start sh (.enqueue receipt createdAtMs nowMs) = some (sh', call)) :
    Inv sh' (call.tallies ++ held) := by
  obtain ⟨-, rfl, rfl⟩ := start_enqueue hstart
  have hpruned : Inv { sh with
      clockMs := nowMs, pending := prunePendingQueue sh.pending nowMs } held := by
    refine h.handOver ?_ ?_ nowMs
    · exact (prunePendingQueue_sublist sh.pending nowMs).length_le.trans h.bounded
    · exact (((prunePendingQueue_sublist sh.pending nowMs).map tally).append_right _).subperm
  rw [Call.tallies, List.nil_append, enqueuePendingReceiptNotification]
  by_cases hfull : RECEIPT_FORWARD_MAX_PENDING ≤ (prunePendingQueue sh.pending nowMs).length
  · rw [if_pos hfull]
    exact ⟨hpruned.bounded, hpruned.ledger, fun t ht => (hpruned.numbered t ht).trans
      (Nat.lt_succ_self _), fun a ha => (hpruned.logged a ha).trans (Nat.lt_succ_self _)⟩
  · rw [if_neg hfull]
    have hperm : ((sh.created, 0) :: ((prunePendingQueue sh.pending nowMs).map tally ++ held)).Perm
        ((prunePendingQueue sh.pending nowMs ++
          [Notification.new receipt createdAtMs sh.created]).map tally ++ held) := by
      rw [List.map_append, List.append_assoc]
      exact List.perm_middle.symm
    constructor
    · rw [List.length_append, List.length_singleton]
      omega
    · refine Ledger.subperm (hpruned.ledger.add ?_ ?_) hperm.symm.subperm
      · intro a ha
        exact (h.logged a ha).ne
      · intro t ht
        exact (hpruned.numbered t ht).ne
    · intro t ht
      obtain rfl | ht := List.mem_cons.mp (hperm.mem_iff.mpr ht)
      · exact Nat.lt_succ_self _
      · exact (hpruned.numbered t ht).trans (Nat.lt_succ_self _)
    · intro a ha
      exact (h.logged a ha).trans (Nat.lt_succ_self _)

theorem flush_inv {call : Call} {sh' : Shared} (h : Inv sh held)
    (hstart : start sh (.flush nowMs) = some (sh', call)) : Inv sh' (call.tallies ++ held) := by
  obtain ⟨-, hnext⟩ := start_flush hstart
  have htaken : Inv (sh.taken nowMs) (((takeDueNotifications sh.pending nowMs).1 ++ []).map tally ++ held) := by
    have hperm := (takeDueNotifications_perm sh.pending nowMs).map tally
    rw [List.map_append] at hperm
    refine h.handOver ?_ ?_ nowMs
    · exact List.filter_sublist.length_le.trans h.bounded
    · rw [List.append_nil, ← List.append_assoc]
      exact (hperm.append_right held).subperm
  have hinv := forwardNext_inv nowMs htaken
  rwa [hnext] at hinv

theorem resume_inv {call call' : Call} {answer : Answer} {sh' : Shared}
    (h : Inv sh (call.tallies ++ held)) (hresume : resume sh call answer = some (sh', call')) :
    Inv sh' (call'.tallies ++ held) := by
  obtain ⟨nowMs, current, due, retry, rfl, -, hnext⟩ := resume_cases hresume
  have hposted : Inv (sh.posted current answer)
      ((due ++ retriedWith retry current answer).map tally ++ held) := by
    rw [Shared.posted, retriedWith]
    by_cases hok : answer.ok = true
    · rw [if_pos hok, if_pos hok]
      refine Inv.log h ?_ ?_ answer.nowMs
      · intro hledger
        exact hledger.succeed
      · intro t ht
        exact .inr ht
    · rw [if_neg hok, if_neg hok]
      have hperm : ((due ++ (retry ++ [current.retried answer.nowMs])).map tally ++ held).Perm
          ((current.number, current.attemptCount + 1) :: ((due ++ retry).map tally ++ held)) := by
        rw [← List.append_assoc, List.map_append, List.append_assoc]
        exact List.perm_middle
      refine (Inv.log h ?_ ?_ answer.nowMs).subperm hperm.subperm
      · intro hledger
        exact hledger.fail.subperm List.perm_middle.subperm
      · intro t ht
        obtain rfl | ht := List.mem_cons.mp ht
        · exact .inl rfl
        · exact .inr ht
  have hinv := forwardNext_inv nowMs hposted
  rwa [hnext] at hinv

end

/-! ## Where notifications end -/

/-- The attempts or the age of a notification are exhausted. -/
def Exhausted (notification : Notification) (nowMs : ℤ) : Prop :=
  RECEIPT_FORWARD_MAX_ATTEMPTS ≤ notification.attemptCount ∨
    RECEIPT_FORWARD_MAX_AGE_MS < nowMs - notification.createdAtMs

/-- All notifications, in the queue and in the calls. -/
def items (p : Runtime) : List Notification := p.shared.pending ++ p.calls.flatMap Call.items

/-- What holds of every state: the bound of the queue, every notification in one place, the bound
on its posts, and no post after one that succeeded. -/
structure Sound (p : Runtime) : Prop where
  bounded : p.shared.pending.length ≤ RECEIPT_FORWARD_MAX_PENDING
  once : ((items p).map Notification.number).Nodup
  attempts : ∀ number, (begunCount p.shared.forwards number : ℤ) ≤ RECEIPT_FORWARD_MAX_ATTEMPTS
  final : FinalSuccess p.shared.forwards

/-- What a step does to the notifications. One disappears after a post that succeeded, when it is
exhausted, or when its call puts it back and fills the queue; and a new one that is not put in has
met a full queue. -/
structure StepConserves (p q : Runtime) : Prop where
  kept : ∀ x ∈ items p, (∃ y ∈ items q, y.number = x.number) ∨
    Succeeded q.shared.forwards x.number ∨ Exhausted x q.shared.clockMs ∨
    (∃ c ∈ p.calls, x ∈ c.items) ∧ RECEIPT_FORWARD_MAX_PENDING ≤ q.shared.pending.length
  added : q.shared.created = p.shared.created ∨
    q.shared.created = p.shared.created + 1 ∧
      ((∃ y ∈ items q, y.number = p.shared.created) ∨
        RECEIPT_FORWARD_MAX_PENDING ≤ q.shared.pending.length)

section
variable {sh : Shared} {nowMs clockMs : ℤ} {due retry : List Notification} {x : Notification}

theorem exhausted_of_drop
    (h : shouldDropNotification x.toPendingReceiptNotification nowMs = true)
    (hnow : nowMs ≤ clockMs) : Exhausted x clockMs := by
  have hmin := Lib.SignedInt.minValue_nonpos 64
  simp only [shouldDropNotification, Bool.or_eq_true, decide_eq_true_eq] at h
  apply h.imp_right
  intro hage
  simp only [saturate, RECEIPT_FORWARD_MAX_AGE_MS] at hage ⊢
  omega

variable {sh' : Shared} {call : Call}

/-- What becomes of a notification in the loop of a flush. -/
theorem forwardNext_keeps (hnext : forwardNext sh nowMs retry due = (sh', call))
    (x : Notification) :
    (x ∈ sh.pending → x ∈ sh'.pending) ∧
      (x ∈ due → x ∈ call.items ∨
        shouldDropNotification x.toPendingReceiptNotification nowMs = true) ∧
      (x ∈ retry → x ∈ sh'.pending ∨ x ∈ call.items ∨
        RECEIPT_FORWARD_MAX_PENDING ≤ sh'.pending.length) := by
  obtain ⟨hall, heq⟩ | ⟨skipped, current, rest, rfl, hskipped, -, heq⟩ :=
    forwardNext_cases sh nowMs retry due
  · cases hnext.symm.trans heq
    refine ⟨mem_requeueNotifications_of_mem, fun hx => .inr (hall x hx), fun hx => ?_⟩
    exact (mem_requeueNotifications_or_full hx).imp_right Or.inr
  · cases hnext.symm.trans heq
    refine ⟨id, fun hx => ?_, fun hx => ?_⟩
    · obtain hx | hx := List.mem_append.mp hx
      · exact .inr (hskipped x hx)
      · left
        rw [Call.items, ← List.cons_append]
        exact List.mem_append_left _ hx
    · right
      left
      exact List.mem_cons_of_mem _ (List.mem_append_right _ hx)

/-- The loop reads no clock, creates nothing and forgets no success. -/
theorem forwardNext_frame (hnext : forwardNext sh nowMs retry due = (sh', call)) :
    sh'.clockMs = sh.clockMs ∧ sh'.created = sh.created ∧
      ∀ number, Succeeded sh.forwards number → Succeeded sh'.forwards number := by
  obtain ⟨-, heq⟩ | ⟨_, _, _, -, -, -, heq⟩ := forwardNext_cases sh nowMs retry due
  · cases hnext.symm.trans heq
    exact ⟨rfl, rfl, fun _ h => h⟩
  · cases hnext.symm.trans heq
    exact ⟨rfl, rfl, fun _ h => List.mem_append_left _ h⟩

end

/-! ## Any interleaving -/

/-- The flush of a call began before the clock. -/
def Call.Timely (clockMs : ℤ) : Call → Prop
  | .forwarding nowMs _ _ _ => nowMs ≤ clockMs
  | .returned => True

theorem Call.Timely.mono {clockMs clockMs' : ℤ} {call : Call} (h : call.Timely clockMs)
    (hle : clockMs ≤ clockMs') : call.Timely clockMs' := by
  cases call with
  | forwarding nowMs current due retry => exact le_trans (α := ℤ) h hle
  | returned => trivial

theorem forwardNext_timely {sh sh' : Shared} {nowMs : ℤ} {retry due : List Notification}
    {call : Call} (h : nowMs ≤ sh.clockMs)
    (hnext : forwardNext sh nowMs retry due = (sh', call)) : call.Timely sh'.clockMs := by
  obtain ⟨-, heq⟩ | ⟨_, _, _, -, -, -, heq⟩ := forwardNext_cases sh nowMs retry due
  · cases hnext.symm.trans heq
    trivial
  · cases hnext.symm.trans heq
    exact h

structure RuntimeInv (p : Runtime) : Prop where
  inv : Inv p.shared (p.calls.flatMap Call.tallies)
  timely : ∀ c ∈ p.calls, c.Timely p.shared.clockMs

theorem runtimeInv_empty (clockMs : ℤ) : RuntimeInv (.empty clockMs) where
  inv := {
    bounded := Nat.zero_le _
    ledger := Ledger.nil (by decide)
    numbered := fun t ht => by cases ht
    logged := fun a ha => by cases ha }
  timely c hc := by cases hc

theorem Call.map_tallies (call : Call) :
    call.tallies.map Prod.fst = call.items.map Notification.number := by
  cases call with
  | forwarding nowMs current due retry =>
    rw [Call.tallies, Call.items, List.map_cons, List.map_cons, List.map_map]
    rfl
  | returned => rfl

theorem RuntimeInv.sound {p : Runtime} (h : RuntimeInv p) : Sound p where
  bounded := h.inv.bounded
  once := by
    have hdistinct := h.inv.ledger.distinct
    have hcalls : (p.calls.flatMap Call.tallies).map Prod.fst =
        (p.calls.flatMap Call.items).map Notification.number := by
      simp only [List.map_flatMap, Call.map_tallies]
    rw [Custody.Distinct, List.map_append, List.map_map, hcalls] at hdistinct
    rw [items, List.map_append]
    exact hdistinct
  attempts := h.inv.ledger.limited
  final := h.inv.ledger.final

/-- What the segments of the two functions do to the clock. -/
theorem start_timely {sh sh' : Shared} {request : Request} {call : Call}
    (h : start sh request = some (sh', call)) :
    sh.clockMs ≤ sh'.clockMs ∧ call.Timely sh'.clockMs := by
  cases request with
  | enqueue receipt createdAtMs nowMs =>
    obtain ⟨hnow, rfl, rfl⟩ := start_enqueue h
    exact ⟨hnow, trivial⟩
  | flush nowMs =>
    obtain ⟨hnow, hnext⟩ := start_flush h
    refine ⟨?_, forwardNext_timely (le_refl nowMs) hnext⟩
    rw [(forwardNext_frame hnext).1]
    exact hnow

theorem resume_timely {sh sh' : Shared} {call call' : Call} {answer : Answer}
    (hcall : call.Timely sh.clockMs) (h : resume sh call answer = some (sh', call')) :
    sh.clockMs ≤ sh'.clockMs ∧ call'.Timely sh'.clockMs := by
  obtain ⟨nowMs, current, due, retry, rfl, hnow, hnext⟩ := resume_cases h
  refine ⟨?_, forwardNext_timely (le_trans (α := ℤ) hcall hnow) hnext⟩
  rw [(forwardNext_frame hnext).1]
  exact hnow

/-- **The step lemma.** -/
theorem runtimeInv_step {p q : Runtime} {e : Move Request Answer} (h : RuntimeInv p)
    (hstep : program.step p e = some q) : RuntimeInv q := by
  obtain ⟨request, sh, call, rfl, hstart, rfl⟩ |
      ⟨i, answer, call, sh, call', rfl, hcall, hresume, rfl⟩ := Program.step_cases hstep
  · have htimely := start_timely hstart
    constructor
    · have hperm : ((p.calls ++ [call]).flatMap Call.tallies).Perm
          (call.tallies ++ p.calls.flatMap Call.tallies) := by
        simpa using List.perm_append_comm
      apply Inv.subperm _ hperm.subperm
      cases request with
      | enqueue receipt createdAtMs nowMs => exact enqueue_inv h.inv hstart
      | flush nowMs => exact flush_inv h.inv hstart
    · intro c hc
      obtain hc | hc := List.mem_append.mp hc
      · exact (h.timely c hc).mono htimely.1
      · obtain rfl := List.mem_singleton.mp hc
        exact htimely.2
  · have htimely := resume_timely (h.timely call (List.mem_of_getElem? hcall)) hresume
    obtain ⟨others, hbefore, hafter⟩ := Custody.exists_flatMap_others Call.tallies hcall
    constructor
    · exact (resume_inv (h.inv.subperm hbefore.symm.subperm) hresume).subperm
        (hafter call').subperm
    · intro c hc
      obtain hc | rfl := List.mem_or_eq_of_mem_set hc
      · exact (h.timely c hc).mono htimely.1
      · exact htimely.2

/-- The notifications in the queue, when a call starts. -/
theorem start_keeps {sh sh' : Shared} {request : Request} {call : Call} {x : Notification}
    (h : start sh request = some (sh', call)) (hx : x ∈ sh.pending) :
    x ∈ sh'.pending ∨ x ∈ call.items ∨ Exhausted x sh'.clockMs := by
  cases request with
  | enqueue receipt createdAtMs nowMs =>
    obtain ⟨-, rfl, rfl⟩ := start_enqueue h
    by_cases hdrop : shouldDropNotification x.toPendingReceiptNotification nowMs = true
    · right
      right
      exact exhausted_of_drop hdrop le_rfl
    · left
      have hpruned : x ∈ prunePendingQueue sh.pending nowMs :=
        List.mem_filter.mpr ⟨hx, by simpa using hdrop⟩
      simp only [enqueuePendingReceiptNotification]
      split
      · exact hpruned
      · exact List.mem_append_left _ hpruned
  | flush nowMs =>
    obtain ⟨-, hnext⟩ := start_flush h
    obtain ⟨hpending, hdue, -⟩ := forwardNext_keeps hnext x
    have hsplit := (takeDueNotifications_perm sh.pending nowMs).mem_iff.mpr hx
    obtain hx | hx := List.mem_append.mp hsplit
    · exact .inl (hpending hx)
    · right
      apply (hdue hx).imp_right
      intro hdrop
      exact exhausted_of_drop hdrop (forwardNext_frame hnext).1.ge

/-- The notification of a call that enqueues is put in, or the queue is full. -/
theorem start_adds {sh sh' : Shared} {request : Request} {call : Call}
    (h : start sh request = some (sh', call)) :
    sh'.created = sh.created ∨ sh'.created = sh.created + 1 ∧
      ((∃ y ∈ sh'.pending, y.number = sh.created) ∨
        RECEIPT_FORWARD_MAX_PENDING ≤ sh'.pending.length) := by
  cases request with
  | enqueue receipt createdAtMs nowMs =>
    obtain ⟨-, rfl, rfl⟩ := start_enqueue h
    refine .inr ⟨rfl, ?_⟩
    simp only [enqueuePendingReceiptNotification]
    by_cases hfull : RECEIPT_FORWARD_MAX_PENDING ≤ (prunePendingQueue sh.pending nowMs).length
    · right
      rwa [if_pos hfull]
    · left
      rw [if_neg hfull]
      exact ⟨_, List.mem_append_right _ List.mem_cons_self, rfl⟩
  | flush nowMs =>
    obtain ⟨-, hnext⟩ := start_flush h
    exact .inl (forwardNext_frame hnext).2.1

/-- What becomes of the notifications that a call puts back after its post. -/
theorem forwardNext_retried {sh sh' : Shared} {nowMs : ℤ} {due retried : List Notification}
    {call : Call} {y : Notification} (hnext : forwardNext sh nowMs retried due = (sh', call))
    (hy : y ∈ retried) :
    (∃ z ∈ sh'.pending ++ call.items, z.number = y.number) ∨
      RECEIPT_FORWARD_MAX_PENDING ≤ sh'.pending.length := by
  obtain hy | hy | hfull := (forwardNext_keeps hnext y).2.2 hy
  · exact .inl ⟨y, List.mem_append_left _ hy, rfl⟩
  · exact .inl ⟨y, List.mem_append_right _ hy, rfl⟩
  · exact .inr hfull

/-- What becomes of the notifications in the queue and in the call that goes on. -/
theorem resume_keeps {sh sh' : Shared} {call call' : Call} {answer : Answer} {x : Notification}
    (hcall : call.Timely sh.clockMs) (h : resume sh call answer = some (sh', call')) :
    (x ∈ sh.pending → x ∈ sh'.pending) ∧
      (x ∈ call.items → (∃ y ∈ sh'.pending ++ call'.items, y.number = x.number) ∨
        Succeeded sh'.forwards x.number ∨ Exhausted x sh'.clockMs ∨
        RECEIPT_FORWARD_MAX_PENDING ≤ sh'.pending.length) := by
  obtain ⟨nowMs, current, due, retry, rfl, hnow, hnext⟩ := resume_cases h
  obtain ⟨hpending, hdue, -⟩ := forwardNext_keeps hnext x
  obtain ⟨hclock, -, hlog⟩ := forwardNext_frame hnext
  refine ⟨hpending, fun hx => ?_⟩
  obtain rfl | hx := List.mem_cons.mp hx
  · by_cases hok : answer.ok = true
    · right
      left
      apply hlog
      rw [Succeeded, Shared.posted, hok]
      exact List.mem_append_right _ List.mem_cons_self
    · have hmem : x.retried answer.nowMs ∈ retriedWith retry x answer := by
        rw [retriedWith, if_neg hok]
        exact List.mem_append_right _ List.mem_cons_self
      exact (forwardNext_retried hnext hmem).imp_right fun hfull => .inr (.inr hfull)
  · obtain hx | hx := List.mem_append.mp hx
    · obtain hx | hdrop := hdue hx
      · exact .inl ⟨x, List.mem_append_right _ hx, rfl⟩
      · have hle : nowMs ≤ sh'.clockMs := by
          rw [hclock]
          exact le_trans (α := ℤ) hcall hnow
        exact .inr (.inr (.inl (exhausted_of_drop hdrop hle)))
    · have hmem : x ∈ retriedWith retry current answer := by
        rw [retriedWith]
        split
        · exact hx
        · exact List.mem_append_left _ hx
      exact (forwardNext_retried hnext hmem).imp_right fun hfull => .inr (.inr hfull)

theorem stepConserves {p q : Runtime} {e : Move Request Answer} (h : RuntimeInv p)
    (hstep : program.step p e = some q) : StepConserves p q := by
  obtain ⟨request, sh, call, rfl, hstart, rfl⟩ |
      ⟨i, answer, call, sh, call', rfl, hcall, hresume, rfl⟩ := Program.step_cases hstep
  · constructor
    · intro x hx
      obtain hx | hx := List.mem_append.mp hx
      · obtain hx | hx | hexhausted := start_keeps hstart hx
        · exact .inl ⟨x, List.mem_append_left _ hx, rfl⟩
        · refine .inl ⟨x, List.mem_append_right _ ?_, rfl⟩
          exact List.mem_flatMap.mpr ⟨call, List.mem_append_right _ List.mem_cons_self, hx⟩
        · exact .inr (.inr (.inl hexhausted))
      · obtain ⟨c, hc, hx⟩ := List.mem_flatMap.mp hx
        refine .inl ⟨x, List.mem_append_right _ ?_, rfl⟩
        exact List.mem_flatMap.mpr ⟨c, List.mem_append_left _ hc, hx⟩
    · apply (start_adds hstart).imp_right
      intro hadded
      refine ⟨hadded.1, hadded.2.imp_left ?_⟩
      intro ⟨y, hy, hnumber⟩
      exact ⟨y, List.mem_append_left _ hy, hnumber⟩
  · have hmem := List.mem_of_getElem? hcall
    have hself : call' ∈ p.calls.set i call' := mem_set_self hcall
    constructor
    · intro x hx
      obtain ⟨hpending, hitems⟩ := resume_keeps (x := x) (h.timely call hmem) hresume
      obtain hx | hx := List.mem_append.mp hx
      · exact .inl ⟨x, List.mem_append_left _ (hpending hx), rfl⟩
      · obtain ⟨c, hc, hx⟩ := List.mem_flatMap.mp hx
        have hplace : c = call ∨ c ∈ p.calls.set i call' := mem_set_or_eq hcall hc
        obtain rfl | hother := hplace
        · obtain ⟨y, hy, hnumber⟩ | hgone | hexhausted | hfull := hitems hx
          · refine .inl ⟨y, ?_, hnumber⟩
            obtain hy | hy := List.mem_append.mp hy
            · exact List.mem_append_left _ hy
            · exact List.mem_append_right _ (List.mem_flatMap.mpr ⟨call', hself, hy⟩)
          · exact .inr (.inl hgone)
          · exact .inr (.inr (.inl hexhausted))
          · exact .inr (.inr (.inr ⟨⟨c, hc, hx⟩, hfull⟩))
        · exact .inl ⟨x, List.mem_append_right _ (List.mem_flatMap.mpr ⟨c, hother, hx⟩), rfl⟩
    · obtain ⟨_, _, _, _, -, -, hnext⟩ := resume_cases hresume
      exact .inl (forwardNext_frame hnext).2.1

/-- Every step leads to a sound state, and conserves the notifications. -/
def Conserved (p : Runtime) (e : Move Request Answer) : Prop :=
  Sound p ∧ ∀ q, program.step p e = some q → Sound q ∧ StepConserves p q

/-- **Conservation.** However the calls of the two functions overlap, and however the posts end:
the queue is bounded, a notification is in one place, it is posted at most
`RECEIPT_FORWARD_MAX_ATTEMPTS` times and not again after a success, and it disappears without one
only when its attempts or its age are exhausted or the queue is full. -/
theorem notifications_conserved (clockMs : ℤ) (moves : List (Move Request Answer)) :
    AllSteps program.step Conserved (Runtime.empty clockMs) moves := by
  refine allSteps_of_invariant RuntimeInv (fun p e q h _ hstep => runtimeInv_step h hstep) ?_
    (runtimeInv_empty clockMs) (allSteps_of_forall (fun _ _ _ => trivial) _)
  intro p e h _
  refine ⟨h.sound, fun q hstep => ?_⟩
  exact ⟨(runtimeInv_step h hstep).sound, stepConserves h hstep⟩

end Clawdentity.Rust.ReceiptForwards
