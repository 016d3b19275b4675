import Clawdentity.Connector.Frames
import Clawdentity.Connector.ReplayPolicy
import Clawdentity.Lib.Exclusive
import Clawdentity.Lib.OrderedMap
import Mathlib.Data.List.Sort

/-!
# The outbox of delivery receipts

A JSON file holds the receipts that are still to be sent. An operation reads the whole file,
changes the list and writes the whole file again; a lock, made of the promise of the operation that
runs, lets one operation do so at a time. A write goes to a temporary file, which a rename then
puts in place, so that the file changes in one step.

`load` answers no items for a file that cannot be read, whatever the error is.

## Main definitions

* `isOutboxItem`, `parseOutbox`, `save` — the items in the file.
* `outbox` — the operations, cut where they await a promise.
* `OutboxState.owed` — the receipts that are promised to be sent.
* `addReceipt_spec` — what `enqueue` does to the items.
-/

namespace Clawdentity.Connector.ReceiptOutbox

open Js Lib Lib.Interleave InboundReplay

structure DeliveryReceiptInput where
  reason : Option JsString
  recipientAgentDid : JsString
  requestId : JsString
  senderAgentDid : JsString
  status : ReceiptStatus
  deriving DecidableEq

structure DeliveryReceiptOutboxItem extends DeliveryReceiptInput where
  createdAtMs : ℚ
  key : JsString
  nextAttemptAtMs : ℚ
  attemptCount : ℕ
  deriving DecidableEq

def makeReceiptOutboxKey (input : DeliveryReceiptInput) : JsString :=
  input.requestId ++ js ":" ++ input.status.text

/-! ## The file -/

/-- What is at the path of the outbox. -/
inductive OutboxFile
  | absent
  | blank
  | invalidJson
  | json (value : Value)

/-- A field that must be an integer from zero on. -/
def getCount (v : Value) (key : String) : Option ℕ :=
  ((v.get? (js key)).bind Json.int?).bind fun n => if 0 ≤ n then some n.toNat else none

/-- The item, if the candidate is one. -/
def isOutboxItem (candidate : Value) : Option DeliveryReceiptOutboxItem := do
  let key ← getStr candidate "key"
  let requestId ← getStr candidate "requestId"
  let senderAgentDid ← getStr candidate "senderAgentDid"
  let recipientAgentDid ← getStr candidate "recipientAgentDid"
  let status ← (getStr candidate "status").bind parseStatus
  let createdAtMs ← getNum candidate "createdAtMs"
  let nextAttemptAtMs ← getNum candidate "nextAttemptAtMs"
  let attemptCount ← getCount candidate "attemptCount"
  let reason ← getOptStr candidate "reason"
  some { reason, recipientAgentDid, requestId, senderAgentDid, status, createdAtMs, key,
         nextAttemptAtMs, attemptCount }

def DeliveryReceiptOutboxItem.toValue (item : DeliveryReceiptOutboxItem) : Value :=
  object [("key", some (.str item.key)), ("createdAtMs", some (.num item.createdAtMs)),
    ("nextAttemptAtMs", some (.num item.nextAttemptAtMs)), ("requestId", some (.str item.requestId)),
    ("senderAgentDid", some (.str item.senderAgentDid)),
    ("recipientAgentDid", some (.str item.recipientAgentDid)),
    ("status", some (.str item.status.text)), ("reason", item.reason.map .str),
    ("attemptCount", some (.num item.attemptCount))]

/-- The items of a file that is read. -/
def parseOutbox : OutboxFile → List DeliveryReceiptOutboxItem
  | .json (.arr parsed) => parsed.filterMap isOutboxItem
  | .json _ | .absent | .blank | .invalidJson => []

/-- The items, or none where `readFile` fails. -/
def load (file : OutboxFile) (isRead : Bool) : List DeliveryReceiptOutboxItem :=
  if isRead then parseOutbox file else []

/-- The file after the rename. -/
def save (items : List DeliveryReceiptOutboxItem) : OutboxFile :=
  .json (.arr (items.map DeliveryReceiptOutboxItem.toValue))

theorem isOutboxItem_toValue (item : DeliveryReceiptOutboxItem) :
    isOutboxItem item.toValue = some item := by
  have hstatus : (getStr item.toValue "status").bind parseStatus = some item.status := by
    rw [DeliveryReceiptOutboxItem.toValue, getStr_object (s := item.status.text) (by simp)]
    exact parseStatus_text item.status
  have hcount : getCount item.toValue "attemptCount" = some item.attemptCount := by
    simp [getCount, DeliveryReceiptOutboxItem.toValue, Json.int?, Json.num?]
  rw [isOutboxItem, hstatus, hcount]
  simp [DeliveryReceiptOutboxItem.toValue, getStr, getNum, Json.str?, Json.num?,
    getOptStr_object (s := item.reason)]

/-- **Round trip.** The items that are saved are read. -/
@[simp] theorem parseOutbox_save (items : List DeliveryReceiptOutboxItem) :
    parseOutbox (save items) = items := by
  simp [parseOutbox, save, List.filterMap_map, isOutboxItem_toValue]

/-! ## Items -/

/-- A new item for a receipt. -/
def newItem (receipt : DeliveryReceiptInput) (nowMs : ℤ) : DeliveryReceiptOutboxItem where
  toDeliveryReceiptInput := receipt
  createdAtMs := nowMs
  key := makeReceiptOutboxKey receipt
  nextAttemptAtMs := nowMs
  attemptCount := 0

/-- The items after `enqueue`: a new item takes the place of the first one with its key. -/
def addReceipt (items : List DeliveryReceiptOutboxItem) (receipt : DeliveryReceiptInput)
    (nowMs : ℤ) : List DeliveryReceiptOutboxItem :=
  match items.findIdx? fun item => item.key = makeReceiptOutboxKey receipt with
  | some existingIndex => items.modify existingIndex fun existing =>
      { newItem receipt nowMs with createdAtMs := existing.createdAtMs }
  | none => items ++ [newItem receipt nowMs]

def sortByCreatedAt (items : List DeliveryReceiptOutboxItem) : List DeliveryReceiptOutboxItem :=
  items.insertionSort fun a b => a.createdAtMs ≤ b.createdAtMs

/-- The items of a flush, one for each key. -/
def pendingItems (items : List DeliveryReceiptOutboxItem) : List DeliveryReceiptOutboxItem :=
  sortByCreatedAt (items.foldl (fun deduped item => deduped.set item.key item)
    (.empty : OrderedMap JsString DeliveryReceiptOutboxItem)).values

/-- The item after a send that has failed. -/
def retryItem (policy : InboundReplayPolicy) (nowMs : ℤ) (item : DeliveryReceiptOutboxItem) :
    DeliveryReceiptOutboxItem :=
  let attemptCount := item.attemptCount + 1
  { item with
    attemptCount
    nextAttemptAtMs := (nowMs + computeRuntimeReplayRetryDelayMs policy attemptCount : ℤ) }

/-- An item that has failed is not due in the same flush. -/
theorem retryItem_not_due (policy : InboundReplayPolicy) (nowMs : ℤ)
    (item : DeliveryReceiptOutboxItem) : (nowMs : ℚ) < (retryItem policy nowMs item).nextAttemptAtMs := by
  have hdelay : 1 ≤ computeRuntimeReplayRetryDelayMs policy (item.attemptCount + 1) :=
    one_le_backoffDelayMs _ _ _ _
  simp only [retryItem, Int.cast_lt]
  omega

/-! ## The operations -/

/-- The receipts that a receipt replaces: those with its `requestId` and `status`. -/
def SameReceipt (a b : DeliveryReceiptInput) : Prop :=
  a.requestId = b.requestId ∧ a.status = b.status

instance (a b : DeliveryReceiptInput) : Decidable (SameReceipt a b) :=
  inferInstanceAs (Decidable (_ ∧ _))

/-- The receipts other than those that a receipt replaces. -/
def others (owed : List DeliveryReceiptInput) (receipt : DeliveryReceiptInput) :
    List DeliveryReceiptInput :=
  owed.filter fun r => ¬SameReceipt r receipt

inductive Operation
  | enqueue (receipt : DeliveryReceiptInput)
  | flushDue

/-- The awaits of `save`. -/
inductive SaveStage
  | mkdir
  | writeFile
  | rename

/-- An operation, by what it awaits. From `loading` on it keeps the file as it was when it took the
lock, which no code reads. -/
inductive OperationState
  /-- In the loop of `withLock`. -/
  | waiting (operation : Operation)
  | loading (operation : Operation) (nowMs : ℤ) (before : OutboxFile)
  /-- In the loop of `flushDue`, with the items that are left. -/
  | sending (nowMs : ℤ) (pending : List DeliveryReceiptOutboxItem)
      (retained : OrderedMap JsString DeliveryReceiptOutboxItem) (before : OutboxFile)
  /-- In `save`, with the receipt of an `enqueue` and whether the items were read. -/
  | saving (stage : SaveStage) (items : List DeliveryReceiptOutboxItem)
      (enqueued : Option DeliveryReceiptInput) (isRead : Bool) (before : OutboxFile)
  /-- The code under the lock has ended, and its `finally` has not run. -/
  | settled (isFulfilled : Bool) (before : OutboxFile)
  | finished (isFulfilled : Bool)

structure OutboxState where
  file : OutboxFile
  /-- Whether `inFlight` is defined. -/
  inFlight : Bool
  /-- The receipts whose enqueue has succeeded, the last one of each `requestId` and `status`, and
  which no send has taken. No code reads them. -/
  owed : List DeliveryReceiptInput

/-- What the environment decides for an operation that goes on. -/
inductive Choice
  /-- The promise that `withLock` awaits has settled, or it is not awaited yet. -/
  | wake (nowMs : ℤ)
  | loaded (isRead : Bool)
  /-- The next item of a flush is not due, or there is none. -/
  | next
  /-- `sendReceipt` has settled. -/
  | sent (isSent : Bool)
  /-- An await of `save` has settled. -/
  | saved (isSaved : Bool)
  /-- The `finally` of the operation runs. -/
  | unlock

section Code
variable (policy : InboundReplayPolicy)

/-- The loop of `flushDue`. -/
def sendNext (s : OutboxState) (nowMs : ℤ) (pending : List DeliveryReceiptOutboxItem)
    (retained : OrderedMap JsString DeliveryReceiptOutboxItem) (before : OutboxFile) :
    Choice → Option (OutboxState × OperationState) :=
  match pending with
  | [] => fun
    | .next => some (s, .saving .mkdir (sortByCreatedAt retained.values) none true before)
    | _ => none
  | item :: rest => fun
    | .next =>
        if nowMs < item.nextAttemptAtMs then
          some (s, .sending nowMs rest (retained.set item.key item) before)
        else none
    | .sent true =>
        if nowMs < item.nextAttemptAtMs then none
        else some ({ s with owed := others s.owed item.toDeliveryReceiptInput },
          .sending nowMs rest retained before)
    | .sent false =>
        if nowMs < item.nextAttemptAtMs then none
        else some (s,
          .sending nowMs rest (retained.set item.key (retryItem policy nowMs item)) before)
    | _ => none

/-- The awaits of `save`. -/
def saveNext (s : OutboxState) (stage : SaveStage) (items : List DeliveryReceiptOutboxItem)
    (enqueued : Option DeliveryReceiptInput) (isRead : Bool) (before : OutboxFile) :
    OutboxState × OperationState :=
  match stage with
  | .mkdir => (s, .saving .writeFile items enqueued isRead before)
  | .writeFile => (s, .saving .rename items enqueued isRead before)
  | .rename => ({ s with
      file := save items
      owed := match enqueued with
        | some receipt => others s.owed receipt ++ [receipt]
        | none => s.owed }, .settled true before)

/-- An operation goes on to its next await. -/
def resumeOperation (s : OutboxState) :
    OperationState → Choice → Option (OutboxState × OperationState)
  | .waiting operation, .wake nowMs =>
      if s.inFlight then some (s, .waiting operation)
      else some ({ s with inFlight := true }, .loading operation nowMs s.file)
  | .loading (.enqueue receipt) nowMs before, .loaded isRead =>
      some (s, .saving .mkdir (addReceipt (load s.file isRead) receipt nowMs) (some receipt) isRead
        before)
  | .loading .flushDue nowMs before, .loaded isRead =>
      let items := load s.file isRead
      if items.isEmpty then some (s, .settled true before)
      else some (s, .sending nowMs (pendingItems items) .empty before)
  | .sending nowMs pending retained before, choice =>
      sendNext policy s nowMs pending retained before choice
  | .saving _ _ _ _ before, .saved false => some (s, .settled false before)
  | .saving stage items enqueued isRead before, .saved true =>
      some (saveNext s stage items enqueued isRead before)
  | .settled isFulfilled _, .unlock =>
      some ({ s with inFlight := false }, .finished isFulfilled)
  | _, _ => none

/-- Any number of operations on one outbox. -/
def outbox : Program OutboxState OperationState Operation Choice where
  start s operation := some (s, .waiting operation)
  resume s c choice := resumeOperation policy s c choice

end Code

/-! ## Keys -/

theorem text_ne (requestId requestId' : JsString) :
    requestId ++ js ":" ++ ReceiptStatus.text .deliveredToWebhook ≠
      requestId' ++ js ":" ++ ReceiptStatus.text .deadLettered := by
  intro h
  have hlast := congrArg List.getLast? h
  have hdelivered : (ReceiptStatus.text .deliveredToWebhook).getLast? = some 107 := by decide
  have hdead : (ReceiptStatus.text .deadLettered).getLast? = some 100 := by decide
  simp only [List.getLast?_append, hdelivered, hdead, Option.some_or] at hlast
  revert hlast
  decide

/-- Receipts have one key exactly where one replaces the other. -/
theorem makeReceiptOutboxKey_eq_iff {a b : DeliveryReceiptInput} :
    makeReceiptOutboxKey a = makeReceiptOutboxKey b ↔ SameReceipt a b := by
  constructor
  · intro h
    have hstatus : a.status = b.status := by
      cases ha : a.status <;> cases hb : b.status
      · rfl
      · rw [makeReceiptOutboxKey, makeReceiptOutboxKey, ha, hb] at h
        exact absurd h (text_ne _ _)
      · rw [makeReceiptOutboxKey, makeReceiptOutboxKey, ha, hb] at h
        exact absurd h.symm (text_ne _ _)
      · rfl
    rw [makeReceiptOutboxKey, makeReceiptOutboxKey, hstatus] at h
    exact ⟨List.append_cancel_right (List.append_cancel_right h), hstatus⟩
  · intro h
    rw [makeReceiptOutboxKey, makeReceiptOutboxKey, h.1, h.2]

/-! ## Lists of items -/

/-- Every item has the key of its receipt, and no key is there twice. -/
structure WellKept (items : List DeliveryReceiptOutboxItem) : Prop where
  keyed : ∀ item ∈ items, item.key = makeReceiptOutboxKey item.toDeliveryReceiptInput
  distinct : (items.map DeliveryReceiptOutboxItem.key).Nodup

/-- The items hold every receipt of the list. -/
def Holds (items : List DeliveryReceiptOutboxItem) (receipts : List DeliveryReceiptInput) : Prop :=
  ∀ r ∈ receipts, ∃ item ∈ items, item.toDeliveryReceiptInput = r

theorem wellKept_nil : WellKept [] := ⟨nofun, List.nodup_nil⟩

theorem holds_self (items : List DeliveryReceiptOutboxItem) :
    Holds items (items.map DeliveryReceiptOutboxItem.toDeliveryReceiptInput) := by
  intro r hr
  obtain ⟨item, hitem, rfl⟩ := List.mem_map.mp hr
  exact ⟨item, hitem, rfl⟩

variable {items items' : List DeliveryReceiptOutboxItem} {receipts : List DeliveryReceiptInput}

theorem WellKept.perm (h : WellKept items) (hperm : items'.Perm items) : WellKept items' :=
  ⟨fun item hitem => h.keyed item (hperm.mem_iff.mp hitem),
    (hperm.map _).nodup_iff.mpr h.distinct⟩

theorem Holds.perm (h : Holds items receipts) (hperm : items'.Perm items) :
    Holds items' receipts := by
  intro r hr
  obtain ⟨item, hitem, hreceipt⟩ := h r hr
  exact ⟨item, hperm.mem_iff.mpr hitem, hreceipt⟩

theorem mem_others {receipt r : DeliveryReceiptInput} :
    r ∈ others receipts receipt ↔ r ∈ receipts ∧ ¬SameReceipt r receipt := by
  simp [others]

/-- The items with one of them replaced by one of the same key. -/
theorem WellKept.replace {pre post : List DeliveryReceiptOutboxItem}
    {item new : DeliveryReceiptOutboxItem} (h : WellKept (pre ++ item :: post))
    (hkey : new.key = item.key) (hnew : new.key = makeReceiptOutboxKey new.toDeliveryReceiptInput) :
    WellKept (pre ++ new :: post) := by
  constructor
  · intro other hother
    rcases List.mem_append.mp hother with hpre | hpost
    · exact h.keyed other (List.mem_append_left _ hpre)
    · rcases List.mem_cons.mp hpost with rfl | hpost
      · exact hnew
      · exact h.keyed other (List.mem_append_right _ (List.mem_cons_of_mem _ hpost))
  · have hdistinct := h.distinct
    rw [List.map_append, List.map_cons] at hdistinct ⊢
    rwa [hkey]

/-- The items without one of them. -/
theorem WellKept.remove {pre post : List DeliveryReceiptOutboxItem}
    {item : DeliveryReceiptOutboxItem} (h : WellKept (pre ++ item :: post)) :
    WellKept (pre ++ post) := by
  have hsub : (pre ++ post).Sublist (pre ++ item :: post) :=
    (List.Sublist.refl pre).append (List.sublist_cons_self item post)
  exact ⟨fun other hother => h.keyed other (hsub.subset hother), h.distinct.sublist (hsub.map _)⟩

/-- The receipts of the other keys stay where one item goes. -/
theorem Holds.remove {pre post : List DeliveryReceiptOutboxItem} {item : DeliveryReceiptOutboxItem}
    (h : Holds (pre ++ item :: post) receipts) :
    Holds (pre ++ post) (others receipts item.toDeliveryReceiptInput) := by
  intro r hr
  obtain ⟨hr, hother⟩ := mem_others.mp hr
  obtain ⟨kept, hkept, rfl⟩ := h r hr
  refine ⟨kept, ?_, rfl⟩
  rcases List.mem_append.mp hkept with hpre | hpost
  · exact List.mem_append_left _ hpre
  · rcases List.mem_cons.mp hpost with rfl | hpost
    · exact absurd ⟨rfl, rfl⟩ hother
    · exact List.mem_append_right _ hpost

theorem Holds.subset (h : Holds items receipts) (hsub : items ⊆ items') : Holds items' receipts := by
  intro r hr
  obtain ⟨item, hitem, hreceipt⟩ := h r hr
  exact ⟨item, hsub hitem, hreceipt⟩

theorem Holds.add {item : DeliveryReceiptOutboxItem} (h : Holds items receipts)
    (hitem : item ∈ items) : Holds items (receipts ++ [item.toDeliveryReceiptInput]) := by
  intro r hr
  rcases List.mem_append.mp hr with hr | hr
  · exact h r hr
  · rw [List.mem_singleton.mp hr]
    exact ⟨item, hitem, rfl⟩

/-- The items with one more, of a key that is not there. -/
theorem WellKept.append {new : DeliveryReceiptOutboxItem} (h : WellKept items)
    (hkey : new.key = makeReceiptOutboxKey new.toDeliveryReceiptInput)
    (hnew : ∀ item ∈ items, item.key ≠ new.key) : WellKept (items ++ [new]) := by
  constructor
  · intro item hitem
    rcases List.mem_append.mp hitem with hitem | hitem
    · exact h.keyed item hitem
    · rwa [List.mem_singleton.mp hitem]
  · rw [List.map_append, List.map_singleton]
    refine List.nodup_append.mpr ⟨h.distinct, List.nodup_singleton _, ?_⟩
    intro a ha b hb
    obtain ⟨item, hitem, rfl⟩ := List.mem_map.mp ha
    rw [List.mem_singleton.mp hb]
    exact hnew item hitem

/-- What `enqueue` does to the items: an item with the key of the receipt is replaced where it
stands, or the new one is put at the end. -/
theorem addReceipt_cases (items : List DeliveryReceiptOutboxItem) (receipt : DeliveryReceiptInput)
    (nowMs : ℤ) :
    (∃ pre existing post, items = pre ++ existing :: post ∧
      existing.key = makeReceiptOutboxKey receipt ∧
      addReceipt items receipt nowMs =
        pre ++ { newItem receipt nowMs with createdAtMs := existing.createdAtMs } :: post) ∨
    (∀ item ∈ items, item.key ≠ makeReceiptOutboxKey receipt) ∧
      addReceipt items receipt nowMs = items ++ [newItem receipt nowMs] := by
  unfold addReceipt
  cases hindex : items.findIdx? fun item => item.key = makeReceiptOutboxKey receipt with
  | some existingIndex =>
    left
    obtain ⟨hlt, hkey, _⟩ := List.findIdx?_eq_some_iff_getElem.mp hindex
    refine ⟨items.take existingIndex, items[existingIndex], items.drop (existingIndex + 1), ?_,
      by simpa using hkey, List.modify_eq_take_cons_drop hlt⟩
    rw [← List.drop_eq_getElem_cons hlt, List.take_append_drop]
  | none =>
    right
    exact ⟨by simpa using hindex, rfl⟩

/-- **Enqueue.** Every item stays but those that the receipt replaces, the receipt is there, and the
items are as well kept as they were. -/
theorem addReceipt_spec (h : WellKept items) (receipt : DeliveryReceiptInput) (nowMs : ℤ) :
    WellKept (addReceipt items receipt nowMs) ∧
      (∀ receipts, Holds items receipts →
        Holds (addReceipt items receipt nowMs) (others receipts receipt ++ [receipt])) := by
  obtain ⟨pre, existing, post, rfl, hkey, heq⟩ | ⟨hnew, heq⟩ :=
    addReceipt_cases items receipt nowMs
  · have hsame : SameReceipt existing.toDeliveryReceiptInput receipt := by
      rw [← makeReceiptOutboxKey_eq_iff, ← hkey]
      exact (h.keyed existing (by simp)).symm
    have hothers : ∀ receipts, others receipts existing.toDeliveryReceiptInput =
        others receipts receipt := by
      intro receipts
      apply List.filter_congr
      intro r _
      rw [decide_eq_decide, SameReceipt, SameReceipt, hsame.1, hsame.2]
    rw [heq]
    refine ⟨h.replace hkey.symm rfl, ?_⟩
    intro receipts hholds
    have hrest := hholds.remove
    rw [hothers] at hrest
    exact (hrest.subset (by simp)).add (List.mem_append_right _ List.mem_cons_self)
  · rw [heq]
    refine ⟨h.append rfl hnew, ?_⟩
    intro receipts hholds
    have hrest : Holds items (others receipts receipt) := by
      intro r hr
      exact hholds r (mem_others.mp hr).1
    exact (hrest.subset (List.subset_append_left _ _)).add
      (List.mem_append_right _ (List.mem_singleton_self _))

theorem sortByCreatedAt_perm (items : List DeliveryReceiptOutboxItem) :
    (sortByCreatedAt items).Perm items :=
  List.perm_insertionSort _ items

/-- The fold of `flushDue` keeps items of different keys as they come. -/
theorem values_foldl_set (items : List DeliveryReceiptOutboxItem)
    (deduped : OrderedMap JsString DeliveryReceiptOutboxItem)
    (hnodup : (deduped.keys ++ items.map DeliveryReceiptOutboxItem.key).Nodup) :
    (items.foldl (fun deduped item => deduped.set item.key item) deduped).values =
      deduped.values ++ items := by
  induction items generalizing deduped with
  | nil => simp
  | cons item items ih =>
    have hnew : item.key ∉ deduped.keys := by
      intro hmem
      exact (List.nodup_append.mp hnodup).2.2 _ hmem _ (by simp) rfl
    have hentries := OrderedMap.entries_set_of_not_mem (v := item) hnew
    rw [List.foldl_cons, ih]
    · simp [OrderedMap.values, hentries]
    · simpa [OrderedMap.keys, hentries] using hnodup

/-- A flush has the items of a well kept file, in another order. -/
theorem pendingItems_perm (h : WellKept items) : (pendingItems items).Perm items := by
  have hnodup : ((.empty : OrderedMap JsString DeliveryReceiptOutboxItem).keys ++
      items.map DeliveryReceiptOutboxItem.key).Nodup := by
    simpa [OrderedMap.keys, OrderedMap.empty] using h.distinct
  rw [pendingItems, values_foldl_set items .empty hnodup]
  exact sortByCreatedAt_perm items

end Clawdentity.Connector.ReceiptOutbox
