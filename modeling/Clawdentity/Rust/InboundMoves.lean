import Clawdentity.Rust.DeadLetters

/-!
# Moves between the pending deliveries and the dead letters

A message that was tried too often is moved from `inbound_pending` to `inbound_dead_letter`,
and a replay moves it back. A move reads a row, inserts its copy, deletes the row, and records
an event; the four statements are no transaction, and any of them may fail. The retry step of
the connector sends a `dead_lettered` receipt after the move.

## Main definitions

* `Operation`, `Operation.run` — a move, a replay, and the retry of a pending delivery.
* `Conserves` — the operation completes or changes nothing, no request id is in two tables or
  in none, and the receipt goes with the move.
* `conserves_iff` — exactly when it does.
-/

namespace Clawdentity.Rust.InboundMoves

open Js Lib
open Connector (ReceiptStatus)
open Inbound (Crates Tracked InboundPendingItem InboundDeadLetterItem DeliveryReceiptPayload Store
  toDeadLetter toPending deletePending deleteDeadLetter markPendingAttempt pendingReceipt
  shouldDeadLetterAfterFailure CONNECTOR_RETRY_DELAY_MS)

/-! ## The operations -/

/-- What the environment decides for a move: its time, and which statements succeed. -/
structure MoveEnv where
  nowMs : ℤ
  selectOk : Bool
  insertOk : Bool
  deleteOk : Bool
  eventOk : Bool
  deriving DecidableEq

inductive StoreError
  /-- `CoreError::InvalidInput`, by its message. -/
  | invalidInput (message : String)
  | sqlite
  deriving DecidableEq

/-- `move_pending_to_dead_letter`: the tables, and whether a row was moved. -/
def movePendingToDeadLetter (store : Store) (requestId reason : RString) (env : MoveEnv) :
    Store × Except StoreError Bool :=
  if (trim requestId).isEmpty then (store, .ok false)
  else if (trim reason).isEmpty then (store, .error (.invalidInput "dead_letter_reason is required"))
  else if !env.selectOk then (store, .error .sqlite)
  else
    match store.pending.find? fun row => row.value.requestId = trim requestId with
    | none => (store, .ok false)
    | some _ =>
        if !env.insertOk then (store, .error .sqlite)
        else
          (Inbound.movePendingToDeadLetter store requestId reason env.nowMs env.deleteOk,
            if env.deleteOk && env.eventOk then .ok true else .error .sqlite)

/-- `replay_dead_letter`. -/
def replayDeadLetter (store : Store) (requestId : RString) (nextAttemptAtMs : ℤ) (env : MoveEnv) :
    Store × Except StoreError Bool :=
  if (trim requestId).isEmpty then (store, .ok false)
  else if !env.selectOk then (store, .error .sqlite)
  else
    match store.deadLetter.find? fun row => row.value.requestId = trim requestId with
    | none => (store, .ok false)
    | some _ =>
        if !env.insertOk then (store, .error .sqlite)
        else
          (Inbound.replayDeadLetter store requestId nextAttemptAtMs env.deleteOk,
            if env.deleteOk && env.eventOk then .ok true else .error .sqlite)

/-- What the environment decides for a retry. -/
structure RetryEnv where
  nowMs : ℤ
  /-- The text of the error of `from_str`, where there is one. -/
  parseError : RString
  /-- The result of the pair-accepted step, where there is one, and of the webhook. -/
  deliveryResult : Except RString Unit
  /-- The statement on `inbound_pending` succeeds, where there is one. -/
  writeOk : Bool
  move : MoveEnv
  /-- The outbox takes the receipt. -/
  receiptOk : Bool
  deriving DecidableEq

/-- What a retry does. -/
inductive Retry
  | delivered
  | postponed
  | deadLettered (reason : RString)
  deriving DecidableEq

section Code
variable (crates : Crates)

/-- How `retry_pending_inbound_delivery` ends for a row, before it writes to the store. -/
def retryOf (item : InboundPendingItem) (env : RetryEnv) : Retry :=
  match crates.fromStr item.payloadJson with
  | none => .deadLettered (rs "invalid pending payload_json: " ++ env.parseError)
  | some _ =>
      match env.deliveryResult with
      | .ok () => .delivered
      | .error error =>
          if shouldDeadLetterAfterFailure item.attemptCount then
            .deadLettered (rs "max retry attempts exceeded: " ++ error)
          else .postponed

/-- A store, whether the operation has completed, and the receipts that the outbox took. -/
structure Outcome where
  store : Store
  completed : Bool
  receipts : List (Tracked DeliveryReceiptPayload)

/-- The receipt of a retry, where the outbox takes it. -/
def sendReceipt (item : Tracked InboundPendingItem) (status : ReceiptStatus)
    (reason : Option RString) (env : RetryEnv) : List (Tracked DeliveryReceiptPayload) :=
  if env.receiptOk then [pendingReceipt item status reason] else []

/-- `retry_pending_inbound_delivery`. The receipt of a delivery is sent even if its row could
not be deleted, and that of a dead letter wherever the move has not failed. -/
def retryPendingInboundDelivery (store : Store) (item : Tracked InboundPendingItem)
    (env : RetryEnv) : Outcome :=
  match retryOf crates item.value env with
  | .delivered =>
      let pending := deletePending item.value.requestId store.pending
      { store := if env.writeOk then { store with pending } else store
        completed := env.writeOk
        receipts := sendReceipt item .deliveredToWebhook none env }
  | .postponed =>
      let nextAttemptAtMs := env.nowMs + CONNECTOR_RETRY_DELAY_MS
      let pending := markPendingAttempt item.value.requestId nextAttemptAtMs store.pending
      { store := if env.writeOk then { store with pending } else store
        completed := env.writeOk
        receipts := [] }
  | .deadLettered reason =>
      let r := movePendingToDeadLetter store item.value.requestId reason env.move
      { store := r.1
        completed := r.2.isOk
        receipts := if r.2.isOk then sendReceipt item .deadLettered (some reason) env else [] }

inductive Operation
  | movePendingToDeadLetter (requestId reason : RString) (env : MoveEnv)
  | replayDeadLetter (requestId : RString) (nextAttemptAtMs : ℤ) (env : MoveEnv)
  | retry (item : Tracked InboundPendingItem) (env : RetryEnv)

def Operation.run (store : Store) : Operation → Outcome
  | .movePendingToDeadLetter requestId reason env =>
      let r := InboundMoves.movePendingToDeadLetter store requestId reason env
      ⟨r.1, r.2.isOk, []⟩
  | .replayDeadLetter requestId nextAttemptAtMs env =>
      let r := InboundMoves.replayDeadLetter store requestId nextAttemptAtMs env
      ⟨r.1, r.2.isOk, []⟩
  | .retry item env => retryPendingInboundDelivery crates store item env

end Code

/-! ## Conservation -/

def HasPending (store : Store) (requestId : RString) : Prop :=
  ∃ row ∈ store.pending, row.value.requestId = requestId

def HasDeadLetter (store : Store) (requestId : RString) : Prop :=
  ∃ row ∈ store.deadLetter, row.value.requestId = requestId

instance (store : Store) (requestId : RString) : Decidable (HasPending store requestId) :=
  inferInstanceAs (Decidable (∃ row ∈ store.pending, _))

instance (store : Store) (requestId : RString) : Decidable (HasDeadLetter store requestId) :=
  inferInstanceAs (Decidable (∃ row ∈ store.deadLetter, _))

/-- No request id is in both tables. -/
def Disjoint (store : Store) : Prop :=
  ∀ row ∈ store.pending, ¬HasDeadLetter store row.value.requestId

instance (store : Store) : Decidable (Disjoint store) :=
  inferInstanceAs (Decidable (∀ row ∈ store.pending, _))

/-- The message went from the one table to the other. -/
def Moved (before after : Store) (requestId : RString) : Prop :=
  HasPending before requestId ∧ ¬HasPending after requestId ∧ HasDeadLetter after requestId

instance (before after : Store) (requestId : RString) :
    Decidable (Moved before after requestId) := inferInstanceAs (Decidable (_ ∧ ¬_ ∧ _))

/-- A move gets as far as its copy. -/
def Copies (store : Store) (requestId reason : RString) (env : MoveEnv) : Prop :=
  (trim requestId).isEmpty = false ∧ (trim reason).isEmpty = false ∧ env.selectOk = true ∧
    HasPending store (trim requestId) ∧ env.insertOk = true

/-- A replay gets as far as its copy. -/
def CopiesBack (store : Store) (requestId : RString) (env : MoveEnv) : Prop :=
  (trim requestId).isEmpty = false ∧ env.selectOk = true ∧
    HasDeadLetter store (trim requestId) ∧ env.insertOk = true

/-- A move finds no row under the id, and says so. -/
def FindsNothing (store : Store) (requestId reason : RString) (env : MoveEnv) : Prop :=
  (trim requestId).isEmpty = true ∨
    ((trim reason).isEmpty = false ∧ env.selectOk = true ∧ ¬HasPending store (trim requestId))

section
variable (crates : Crates)

/-- The message that the operation has delivered to the webhook. -/
def Operation.delivers (requestId : RString) : Operation → Prop
  | .retry item env =>
      retryOf crates item.value env = .delivered ∧ requestId = trim item.value.requestId
  | _ => False

/-- **What the operation should do.** -/
structure Conserves (store : Store) (op : Operation) : Prop where
  /-- It completes, or leaves both tables as they were. -/
  atomic : (op.run crates store).completed = true ∨ (op.run crates store).store = store
  /-- No request id is ever in both tables. -/
  disjoint : Disjoint store ∧ Disjoint (op.run crates store).store
  /-- No request id is lost from both. -/
  kept : ∀ requestId, HasPending store requestId ∨ HasDeadLetter store requestId →
    HasPending (op.run crates store).store requestId ∨
      HasDeadLetter (op.run crates store).store requestId ∨ op.delivers crates requestId
  /-- The retry step sends a `dead_lettered` receipt exactly for a message that was moved. -/
  receipt : ∀ item env, op = .retry item env →
    ((∃ receipt ∈ (op.run crates store).receipts, receipt.value.status = .deadLettered) ↔
      Moved store (op.run crates store).store (trim item.value.requestId))

/-- **The condition**: an operation that gets as far as its copy goes to its end. The retry step
sends the receipt then, and only then. -/
def Operation.Completes (store : Store) : Operation → Prop
  | .movePendingToDeadLetter requestId reason env =>
      Copies store requestId reason env → env.deleteOk = true ∧ env.eventOk = true
  | .replayDeadLetter requestId _ env =>
      CopiesBack store requestId env → env.deleteOk = true ∧ env.eventOk = true
  | .retry item env => ∀ reason, retryOf crates item.value env = .deadLettered reason →
      (Copies store item.value.requestId reason env.move →
        env.move.deleteOk = true ∧ env.move.eventOk = true ∧ env.receiptOk = true) ∧
      (FindsNothing store item.value.requestId reason env.move → env.receiptOk = false)

end

/-! ### A copy and a deletion -/

section
variable {ι : Type*} {src dst src' dst' : ι → Prop} {x : ι} {deleted : Bool}

/-- The id was copied from the one side to the other, and deleted from the first or not. -/
structure Copied (src dst src' dst' : ι → Prop) (x : ι) (deleted : Bool) : Prop where
  here : src x
  src_iff : ∀ y, src' y ↔ src y ∧ (deleted = true → y ≠ x)
  dst_iff : ∀ y, dst' y ↔ dst y ∨ y = x

/-- The two sides stay disjoint exactly if the id was deleted. -/
theorem Copied.disjoint_iff (h : Copied src dst src' dst' x deleted)
    (hdisjoint : ∀ y, src y → ¬dst y) : (∀ y, src' y → ¬dst' y) ↔ deleted = true := by
  constructor
  · intro hafter
    by_contra hdeleted
    have hsrc : src' x := (h.src_iff x).mpr ⟨h.here, fun hd => absurd hd hdeleted⟩
    exact hafter x hsrc ((h.dst_iff x).mpr (.inr rfl))
  · intro hdeleted y hsrc hdst
    obtain ⟨hy, hne⟩ := (h.src_iff y).mp hsrc
    rcases (h.dst_iff y).mp hdst with hdst | heq
    · exact hdisjoint y hy hdst
    · exact hne hdeleted heq

/-- No id is lost. -/
theorem Copied.kept (h : Copied src dst src' dst' x deleted) {y : ι} (hy : src y ∨ dst y) :
    src' y ∨ dst' y := by
  by_cases heq : y = x
  · exact .inr ((h.dst_iff y).mpr (.inr heq))
  · rcases hy with hy | hy
    · exact .inl ((h.src_iff y).mpr ⟨hy, fun _ => heq⟩)
    · exact .inr ((h.dst_iff y).mpr (.inl hy))

end

/-! ### The tables after a move -/

section
variable {crates : Crates} {store : Store} {requestId reason : RString} {env : MoveEnv}

theorem disjoint_iff :
    Disjoint store ↔ ∀ requestId, HasPending store requestId → ¬HasDeadLetter store requestId := by
  constructor
  · rintro h requestId ⟨row, hrow, rfl⟩
    exact h row hrow
  · intro h row hrow
    exact h _ ⟨row, hrow, rfl⟩

theorem disjoint_iff' :
    Disjoint store ↔ ∀ requestId, HasDeadLetter store requestId → ¬HasPending store requestId := by
  rw [disjoint_iff]
  constructor
  · intro h requestId hdead hpending
    exact h requestId hpending hdead
  · intro h requestId hpending hdead
    exact h requestId hdead hpending

variable (store) in
/-- The ids that a deletion leaves. -/
theorem hasPending_delete (requestId y : RString) :
    HasPending { store with pending := deletePending requestId store.pending } y ↔
      HasPending store y ∧ y ≠ trim requestId := by
  simp only [HasPending, deletePending, List.mem_filter, decide_eq_true_eq]
  constructor
  · rintro ⟨row, ⟨hrow, hne⟩, rfl⟩
    exact ⟨⟨row, hrow, rfl⟩, hne⟩
  · rintro ⟨⟨row, hrow, rfl⟩, hne⟩
    exact ⟨row, ⟨hrow, hne⟩, rfl⟩

variable (store) in
theorem hasDeadLetter_delete (requestId y : RString) :
    HasDeadLetter { store with deadLetter := deleteDeadLetter requestId store.deadLetter } y ↔
      HasDeadLetter store y ∧ y ≠ trim requestId := by
  simp only [HasDeadLetter, deleteDeadLetter, List.mem_filter, decide_eq_true_eq]
  constructor
  · rintro ⟨row, ⟨hrow, hne⟩, rfl⟩
    exact ⟨⟨row, hrow, rfl⟩, hne⟩
  · rintro ⟨⟨row, hrow, rfl⟩, hne⟩
    exact ⟨row, ⟨hrow, hne⟩, rfl⟩

/-- An attempt changes no id. -/
theorem hasPending_mark (requestId : RString) (nextAttemptAtMs : ℤ) (y : RString) :
    HasPending { store with
      pending := markPendingAttempt requestId nextAttemptAtMs store.pending } y ↔
        HasPending store y := by
  simp only [HasPending, markPendingAttempt, List.mem_map]
  constructor
  · rintro ⟨_, ⟨row, hrow, rfl⟩, rfl⟩
    refine ⟨row, hrow, ?_⟩
    split <;> rfl
  · rintro ⟨row, hrow, rfl⟩
    refine ⟨_, ⟨row, hrow, rfl⟩, ?_⟩
    split <;> rfl

theorem hasPending_of_find {row : Tracked InboundPendingItem}
    (h : store.pending.find? (fun row => row.value.requestId = requestId) = some row) :
    row ∈ store.pending ∧ row.value.requestId = requestId :=
  ⟨List.mem_of_find?_eq_some h, by simpa using List.find?_some h⟩

theorem hasDeadLetter_of_find {row : Tracked InboundDeadLetterItem}
    (h : store.deadLetter.find? (fun row => row.value.requestId = requestId) = some row) :
    row ∈ store.deadLetter ∧ row.value.requestId = requestId :=
  ⟨List.mem_of_find?_eq_some h, by simpa using List.find?_some h⟩

variable (store) in
/-- A row that is written under an id, over those that have it. -/
theorem hasDeadLetter_write (row : Tracked InboundDeadLetterItem) (pending) (y : RString)
    (hrow : trim row.value.requestId = row.value.requestId) :
    HasDeadLetter ⟨pending, deleteDeadLetter row.value.requestId store.deadLetter ++ [row]⟩ y ↔
      HasDeadLetter store y ∨ y = row.value.requestId := by
  have hdelete := hasDeadLetter_delete store row.value.requestId y
  rw [hrow] at hdelete
  simp only [HasDeadLetter, List.mem_append, List.mem_singleton, or_and_right, exists_or,
    exists_eq_left] at hdelete ⊢
  rw [hdelete]
  by_cases heq : y = row.value.requestId
  · simp [heq]
  · simp [heq, Ne.symm heq]

variable (store) in
theorem hasPending_write (row : Tracked InboundPendingItem) (deadLetter) (y : RString)
    (hrow : trim row.value.requestId = row.value.requestId) :
    HasPending ⟨deletePending row.value.requestId store.pending ++ [row], deadLetter⟩ y ↔
      HasPending store y ∨ y = row.value.requestId := by
  have hdelete := hasPending_delete store row.value.requestId y
  rw [hrow] at hdelete
  simp only [HasPending, List.mem_append, List.mem_singleton, or_and_right, exists_or,
    exists_eq_left] at hdelete ⊢
  rw [hdelete]
  by_cases heq : y = row.value.requestId
  · simp [heq]
  · simp [heq, Ne.symm heq]

/-- The tables after a move that has inserted its copy. -/
theorem copied_move {row : Tracked InboundPendingItem} {nowMs : ℤ} {deleted : Bool}
    (hid : (trim requestId).isEmpty = false) (hreason : (trim reason).isEmpty = false)
    (hfind : store.pending.find? (fun row => row.value.requestId = trim requestId) = some row) :
    Copied (HasPending store) (HasDeadLetter store)
      (HasPending (Inbound.movePendingToDeadLetter store requestId reason nowMs deleted))
      (HasDeadLetter (Inbound.movePendingToDeadLetter store requestId reason nowMs deleted))
      (trim requestId) deleted := by
  obtain ⟨hrow, hrequest⟩ := hasPending_of_find hfind
  have hafter : Inbound.movePendingToDeadLetter store requestId reason nowMs deleted =
      { pending := if deleted then deletePending requestId store.pending else store.pending
        deadLetter := deleteDeadLetter row.value.requestId store.deadLetter ++
          [⟨row.origin, toDeadLetter row.value nowMs (trim reason)⟩] } := by
    simp only [Inbound.movePendingToDeadLetter, hid, hreason, Bool.or_self, Bool.false_eq_true,
      if_false, hfind]
  rw [hafter]
  refine ⟨⟨row, hrow, hrequest⟩, ?_, ?_⟩
  · intro y
    cases deleted with
    | false => simp [HasPending]
    | true =>
        have hdelete := hasPending_delete store requestId y
        simpa [HasPending] using hdelete
  · intro y
    have hwrite := hasDeadLetter_write store
      ⟨row.origin, toDeadLetter row.value nowMs (trim reason)⟩
      (if deleted then deletePending requestId store.pending else store.pending) y
      (by simp [toDeadLetter, hrequest, trim_trim])
    simpa [toDeadLetter, hrequest] using hwrite

/-- The tables after a replay that has inserted its copy. -/
theorem copied_replay {row : Tracked InboundDeadLetterItem} {nextAttemptAtMs : ℤ} {deleted : Bool}
    (hid : (trim requestId).isEmpty = false)
    (hfind : store.deadLetter.find? (fun row => row.value.requestId = trim requestId) =
      some row) :
    Copied (HasDeadLetter store) (HasPending store)
      (HasDeadLetter (Inbound.replayDeadLetter store requestId nextAttemptAtMs deleted))
      (HasPending (Inbound.replayDeadLetter store requestId nextAttemptAtMs deleted))
      (trim requestId) deleted := by
  obtain ⟨hrow, hrequest⟩ := hasDeadLetter_of_find hfind
  have hafter : Inbound.replayDeadLetter store requestId nextAttemptAtMs deleted =
      { pending := deletePending row.value.requestId store.pending ++
          [⟨row.origin, toPending row.value nextAttemptAtMs⟩]
        deadLetter := if deleted then deleteDeadLetter requestId store.deadLetter
          else store.deadLetter } := by
    simp only [Inbound.replayDeadLetter, hid, Bool.false_eq_true, if_false, hfind]
  rw [hafter]
  refine ⟨⟨row, hrow, hrequest⟩, ?_, ?_⟩
  · intro y
    cases deleted with
    | false => simp [HasDeadLetter]
    | true =>
        have hdelete := hasDeadLetter_delete store requestId y
        simpa [HasDeadLetter] using hdelete
  · intro y
    have hwrite := hasPending_write store ⟨row.origin, toPending row.value nextAttemptAtMs⟩
      (if deleted then deleteDeadLetter requestId store.deadLetter else store.deadLetter) y
      (by simp [toPending, hrequest, trim_trim])
    simpa [toPending, hrequest] using hwrite

variable (store requestId reason env) in
/-- **What a move does**: nothing, or it copies the id and may fail after that. -/
theorem movePendingToDeadLetter_cases :
    (¬Copies store requestId reason env ∧
      (movePendingToDeadLetter store requestId reason env).1 = store ∧
      ((movePendingToDeadLetter store requestId reason env).2.isOk = true ↔
        FindsNothing store requestId reason env)) ∨
    (Copies store requestId reason env ∧
      (movePendingToDeadLetter store requestId reason env).2.isOk =
        (env.deleteOk && env.eventOk) ∧
      Copied (HasPending store) (HasDeadLetter store)
        (HasPending (movePendingToDeadLetter store requestId reason env).1)
        (HasDeadLetter (movePendingToDeadLetter store requestId reason env).1)
        (trim requestId) env.deleteOk) := by
  unfold movePendingToDeadLetter
  split
  · rename_i hid
    exact .inl ⟨fun h => by simp [h.1] at hid, rfl, fun _ => .inl hid, fun _ => rfl⟩
  rename_i hid
  split
  · rename_i hreason
    refine .inl ⟨fun h => by simp [h.2.1] at hreason, rfl, nofun, ?_⟩
    rintro (h | h)
    · exact absurd h hid
    · exact absurd hreason (by simp [h.1])
  rename_i hreason
  split
  · rename_i hselect
    refine .inl ⟨fun h => by simp [h.2.2.1] at hselect, rfl, nofun, ?_⟩
    rintro (h | h)
    · exact absurd h hid
    · simp [h.2.1] at hselect
  rename_i hselect
  split
  · rename_i hnone
    have hpending : ¬HasPending store (trim requestId) := by
      rintro ⟨row, hrow, hrequest⟩
      exact absurd hrequest (by simpa using List.find?_eq_none.mp hnone row hrow)
    refine .inl ⟨fun h => hpending h.2.2.2.1, rfl, fun _ => .inr ⟨?_, ?_, hpending⟩, fun _ => rfl⟩
    · simpa using hreason
    · simpa using hselect
  rename_i row hfind
  have hpending : HasPending store (trim requestId) := by
    obtain ⟨hrow, hrequest⟩ := hasPending_of_find hfind
    exact ⟨row, hrow, hrequest⟩
  split
  · rename_i hinsert
    refine .inl ⟨fun h => by simp [h.2.2.2.2] at hinsert, rfl, nofun, ?_⟩
    rintro (h | h)
    · exact absurd h hid
    · exact absurd hpending h.2.2
  · rename_i hinsert
    have hid' : (trim requestId).isEmpty = false := by simpa using hid
    have hreason' : (trim reason).isEmpty = false := by simpa using hreason
    refine .inr ⟨⟨hid', hreason', by simpa using hselect, hpending, by simpa using hinsert⟩, ?_,
      copied_move hid' hreason' hfind⟩
    cases env.deleteOk && env.eventOk <;> rfl

variable (store requestId env) in
/-- **What a replay does.** -/
theorem replayDeadLetter_cases (nextAttemptAtMs : ℤ) :
    (¬CopiesBack store requestId env ∧
      (replayDeadLetter store requestId nextAttemptAtMs env).1 = store) ∨
    (CopiesBack store requestId env ∧
      (replayDeadLetter store requestId nextAttemptAtMs env).2.isOk =
        (env.deleteOk && env.eventOk) ∧
      Copied (HasDeadLetter store) (HasPending store)
        (HasDeadLetter (replayDeadLetter store requestId nextAttemptAtMs env).1)
        (HasPending (replayDeadLetter store requestId nextAttemptAtMs env).1)
        (trim requestId) env.deleteOk) := by
  unfold replayDeadLetter
  split
  · rename_i hid
    exact .inl ⟨fun h => by simp [h.1] at hid, rfl⟩
  split
  · rename_i hselect
    exact .inl ⟨fun h => by simp [h.2.1] at hselect, rfl⟩
  split
  · rename_i hnone
    refine .inl ⟨?_, rfl⟩
    rintro ⟨_, _, ⟨row, hrow, hrequest⟩, _⟩
    exact absurd hrequest (by simpa using List.find?_eq_none.mp hnone row hrow)
  split
  · rename_i hinsert
    exact .inl ⟨fun h => by simp [h.2.2.2] at hinsert, rfl⟩
  · rename_i hid hselect _ row hfind hinsert
    have hid' : (trim requestId).isEmpty = false := by simpa using hid
    refine .inr ⟨⟨hid', by simpa using hselect, ?_, by simpa using hinsert⟩, ?_,
      copied_replay hid' hfind⟩
    · obtain ⟨hrow, hrequest⟩ := hasDeadLetter_of_find hfind
      exact ⟨row, hrow, hrequest⟩
    · cases env.deleteOk && env.eventOk <;> rfl

/-! ### When the tables are conserved -/

/-- The operation completes or changes nothing, and conserves the request ids. -/
def Sound (store after : Store) (completed : Bool) : Prop :=
  (completed = true ∨ after = store) ∧ (Disjoint store ∧ Disjoint after) ∧
    ∀ requestId, HasPending store requestId ∨ HasDeadLetter store requestId →
      HasPending after requestId ∨ HasDeadLetter after requestId

theorem sound_self (completed : Bool) : Sound store store completed ↔ Disjoint store :=
  ⟨fun h => h.2.1.1, fun h => ⟨.inr rfl, ⟨h, h⟩, fun _ => id⟩⟩

/-- The source of a copy that went to its end has changed. -/
theorem Copied.ne {src dst src' dst' : RString → Prop} {x : RString} {deleted : Bool}
    (h : Copied src dst src' dst' x deleted) (hdeleted : deleted = true) : ¬src' x :=
  fun hx => ((h.src_iff x).mp hx).2 hdeleted rfl

variable (store requestId reason env) in
theorem move_sound_iff :
    Sound store (movePendingToDeadLetter store requestId reason env).1
        (movePendingToDeadLetter store requestId reason env).2.isOk ↔
      Disjoint store ∧
        (Copies store requestId reason env → env.deleteOk = true ∧ env.eventOk = true) := by
  rcases movePendingToDeadLetter_cases store requestId reason env with ⟨hnot, hsame, _⟩ | ⟨hcopies, hok, hcopied⟩
  · rw [hsame, sound_self]
    exact ⟨fun h => ⟨h, fun hcopies => absurd hcopies hnot⟩, fun h => h.1⟩
  · rw [Sound, hok, Bool.and_eq_true]
    constructor
    · rintro ⟨hatomic, ⟨hdisjoint, hafter⟩, _⟩
      have hdeleted := (hcopied.disjoint_iff (disjoint_iff.mp hdisjoint)).mp
        (disjoint_iff.mp hafter)
      refine ⟨hdisjoint, fun _ => ?_⟩
      rcases hatomic with hcompleted | hsame
      · exact hcompleted
      · exact absurd (by rw [hsame]; exact hcopied.here) (hcopied.ne hdeleted)
    · rintro ⟨hdisjoint, hends⟩
      obtain ⟨hdeleted, hevent⟩ := hends hcopies
      refine ⟨.inl ⟨hdeleted, hevent⟩, ⟨hdisjoint, ?_⟩, fun _ => hcopied.kept⟩
      exact disjoint_iff.mpr ((hcopied.disjoint_iff (disjoint_iff.mp hdisjoint)).mpr hdeleted)

theorem replay_sound_iff {nextAttemptAtMs : ℤ} :
    Sound store (replayDeadLetter store requestId nextAttemptAtMs env).1
        (replayDeadLetter store requestId nextAttemptAtMs env).2.isOk ↔
      Disjoint store ∧
        (CopiesBack store requestId env → env.deleteOk = true ∧ env.eventOk = true) := by
  rcases replayDeadLetter_cases store requestId env nextAttemptAtMs with ⟨hnot, hsame⟩ | ⟨hcopies, hok, hcopied⟩
  · rw [hsame, sound_self]
    exact ⟨fun h => ⟨h, fun hcopies => absurd hcopies hnot⟩, fun h => h.1⟩
  · rw [Sound, hok, Bool.and_eq_true]
    constructor
    · rintro ⟨hatomic, ⟨hdisjoint, hafter⟩, _⟩
      have hdeleted := (hcopied.disjoint_iff (disjoint_iff'.mp hdisjoint)).mp
        (disjoint_iff'.mp hafter)
      refine ⟨hdisjoint, fun _ => ?_⟩
      rcases hatomic with hcompleted | hsame
      · exact hcompleted
      · exact absurd (by rw [hsame]; exact hcopied.here) (hcopied.ne hdeleted)
    · rintro ⟨hdisjoint, hends⟩
      obtain ⟨hdeleted, hevent⟩ := hends hcopies
      refine ⟨.inl ⟨hdeleted, hevent⟩, ⟨hdisjoint, ?_⟩, ?_⟩
      · exact disjoint_iff'.mpr
          ((hcopied.disjoint_iff (disjoint_iff'.mp hdisjoint)).mpr hdeleted)
      · intro y hy
        exact (hcopied.kept hy.symm).symm

/-! ### The retry step -/

variable {item : Tracked InboundPendingItem} {retry : RetryEnv}

/-- The reason of a dead letter is not blank. -/
theorem reason_trim (h : retryOf crates item.value retry = .deadLettered reason) :
    (trim reason).isEmpty = false := by
  unfold retryOf at h
  split at h
  · cases h
    have hmem : 'n' ∈ rs "invalid pending payload_json: " := by decide
    exact trim_isEmpty_of_mem (List.mem_append_left _ hmem) (by decide)
  split at h
  · cases h
  split at h
  · cases h
    have hmem : 'm' ∈ rs "max retry attempts exceeded: " := by decide
    exact trim_isEmpty_of_mem (List.mem_append_left _ hmem) (by decide)
  · cases h

/-- A message that is in one table only was not moved. -/
theorem not_moved {after : Store} {y : RString} (hdisjoint : Disjoint store)
    (hdead : HasDeadLetter after y → HasDeadLetter store y) : ¬Moved store after y :=
  fun h => disjoint_iff.mp hdisjoint y h.1 (hdead h.2.2)

/-- A deletion, or an attempt, that succeeded or changed nothing. -/
theorem conserves_of_pending {op : Operation} (ok : Bool)
    (pending : List (Tracked InboundPendingItem)) (hdisjoint : Disjoint store)
    (hstore : (op.run crates store).store = if ok then { store with pending } else store)
    (hcompleted : (op.run crates store).completed = ok)
    (hsub : ∀ y, HasPending { store with pending } y → HasPending store y)
    (hkept : ∀ y, HasPending store y → HasPending { store with pending } y ∨ op.delivers crates y)
    (hreceipts : ∀ receipt ∈ (op.run crates store).receipts,
      receipt.value.status ≠ .deadLettered) : Conserves crates store op := by
  have hdead : ∀ y, HasDeadLetter (op.run crates store).store y ↔ HasDeadLetter store y := by
    intro y
    rw [hstore]
    cases ok <;> rfl
  have hpending : ∀ y, HasPending (op.run crates store).store y → HasPending store y := by
    intro y
    rw [hstore]
    cases ok with
    | false => exact id
    | true => exact hsub y
  refine ⟨?_, ⟨hdisjoint, ?_⟩, ?_, ?_⟩
  · rw [hcompleted, hstore]
    cases ok with
    | false => exact .inr rfl
    | true => exact .inl rfl
  · rw [disjoint_iff]
    intro y hy
    rw [hdead]
    exact disjoint_iff.mp hdisjoint y (hpending y hy)
  · rintro y (hy | hy)
    · rw [hstore]
      cases ok with
      | false => exact .inl hy
      | true =>
          rcases hkept y hy with hafter | hdelivers
          · exact .inl hafter
          · exact .inr (.inr hdelivers)
    · exact .inr (.inl ((hdead y).mpr hy))
  · intro item env _
    constructor
    · rintro ⟨receipt, hmem, hstatus⟩
      exact absurd hstatus (hreceipts receipt hmem)
    · intro hmoved
      exact absurd hmoved (not_moved hdisjoint (hdead _).mp)

/-- The outbox has a receipt of a dead letter. -/
theorem exists_deadLettered {receipts : List (Tracked DeliveryReceiptPayload)} {ok : Bool}
    (h : receipts = if ok then sendReceipt item .deadLettered (some reason) retry else []) :
    (∃ receipt ∈ receipts, receipt.value.status = .deadLettered) ↔
      ok = true ∧ retry.receiptOk = true := by
  rw [h, sendReceipt]
  cases ok with
  | false => simp
  | true =>
      cases hreceipt : retry.receiptOk with
      | false => simp
      | true => simp [pendingReceipt]

/-- The retry of a message that has become a dead letter. -/
theorem conserves_deadLettered
    (hretry : retryOf crates item.value retry = .deadLettered reason) :
    Conserves crates store (.retry item retry) ↔
      Disjoint store ∧ Operation.Completes crates store (.retry item retry) := by
  have hrun : (Operation.retry item retry).run crates store =
      { store := (movePendingToDeadLetter store item.value.requestId reason retry.move).1
        completed := (movePendingToDeadLetter store item.value.requestId reason retry.move).2.isOk
        receipts :=
          if (movePendingToDeadLetter store item.value.requestId reason retry.move).2.isOk then
            sendReceipt item .deadLettered (some reason) retry
          else [] } := by
    simp only [Operation.run, retryPendingInboundDelivery, hretry]
  have hnone : ∀ y, ¬Operation.delivers crates y (.retry item retry) := by
    intro y h
    rw [Operation.delivers, hretry] at h
    cases h.1
  have hsound := move_sound_iff store item.value.requestId reason retry.move
  have hconserves : Conserves crates store (.retry item retry) ↔
      Sound store (movePendingToDeadLetter store item.value.requestId reason retry.move).1
          (movePendingToDeadLetter store item.value.requestId reason retry.move).2.isOk ∧
        ((movePendingToDeadLetter store item.value.requestId reason retry.move).2.isOk = true ∧
            retry.receiptOk = true ↔
          Moved store (movePendingToDeadLetter store item.value.requestId reason retry.move).1
            (trim item.value.requestId)) := by
    constructor
    · intro h
      have hatomic := h.atomic
      have hdisjoint := h.disjoint
      have hkept := h.kept
      have hreceipt := h.receipt item retry rfl
      simp only [hrun, hnone, or_false] at hatomic hdisjoint hkept hreceipt
      exact ⟨⟨hatomic, hdisjoint, hkept⟩, (exists_deadLettered rfl).symm.trans hreceipt⟩
    · rintro ⟨⟨hatomic, hdisjoint, hkept⟩, hreceipt⟩
      refine ⟨?_, ?_, ?_, ?_⟩
      · rw [hrun]
        exact hatomic
      · rw [hrun]
        exact hdisjoint
      · simp only [hrun, hnone, or_false]
        exact hkept
      · intro item' retry' heq
        cases heq
        rw [hrun]
        exact (exists_deadLettered rfl).trans hreceipt
  rw [hconserves, hsound, and_assoc]
  refine and_congr_right fun hdisjoint => ?_
  have hcompletes : Operation.Completes crates store (.retry item retry) ↔
      (Copies store item.value.requestId reason retry.move → retry.move.deleteOk = true ∧
        retry.move.eventOk = true ∧ retry.receiptOk = true) ∧
      (FindsNothing store item.value.requestId reason retry.move → retry.receiptOk = false) := by
    simp only [Operation.Completes, hretry, Retry.deadLettered.injEq, forall_eq']
  rw [hcompletes]
  have hreason := reason_trim hretry
  rcases movePendingToDeadLetter_cases store item.value.requestId reason retry.move with ⟨hnot, hsame, hok⟩ | ⟨hcopies, hok, hcopied⟩
  · -- nothing was moved, so no receipt may be sent
    have hmoved : ¬Moved store
        (movePendingToDeadLetter store item.value.requestId reason retry.move).1
        (trim item.value.requestId) := not_moved hdisjoint (by rw [hsame]; exact id)
    simp only [hnot, hmoved, hok, false_implies, true_and, iff_false, not_and, Bool.not_eq_true]
  · have hfinds : ¬FindsNothing store item.value.requestId reason retry.move := by
      rintro (h | h)
      · rw [hcopies.1] at h
        cases h
      · exact h.2.2 hcopies.2.2.2.1
    simp only [hcopies, hfinds, forall_true_left, false_implies, and_true, hok, Bool.and_eq_true]
    have hmoved : retry.move.deleteOk = true → Moved store
        (movePendingToDeadLetter store item.value.requestId reason retry.move).1
        (trim item.value.requestId) :=
      fun hdeleted => ⟨hcopied.here, hcopied.ne hdeleted, (hcopied.dst_iff _).mpr (.inr rfl)⟩
    constructor
    · rintro ⟨⟨hdeleted, hevent⟩, hreceipt⟩
      exact ⟨hdeleted, hevent, (hreceipt.mpr (hmoved hdeleted)).2⟩
    · rintro ⟨hdeleted, hevent, hreceipt⟩
      exact ⟨⟨hdeleted, hevent⟩, fun _ => hmoved hdeleted,
        fun _ => ⟨⟨hdeleted, hevent⟩, hreceipt⟩⟩

/-- An operation that delivers nothing and sends no receipt. -/
theorem conserves_iff_sound {op : Operation} (hnone : ∀ y, ¬op.delivers crates y)
    (hretry : ∀ item env, op ≠ .retry item env) :
    Conserves crates store op ↔
      Sound store (op.run crates store).store (op.run crates store).completed := by
  constructor
  · intro h
    have hkept := h.kept
    simp only [hnone, or_false] at hkept
    exact ⟨h.atomic, h.disjoint, hkept⟩
  · rintro ⟨hatomic, hdisjoint, hkept⟩
    refine ⟨hatomic, hdisjoint, ?_, fun item env heq => absurd heq (hretry item env)⟩
    simp only [hnone, or_false]
    exact hkept

/-- **When an operation conserves the messages.** -/
theorem conserves_iff (op : Operation) :
    Conserves crates store op ↔ Disjoint store ∧ op.Completes crates store := by
  cases op with
  | movePendingToDeadLetter requestId reason env =>
      rw [conserves_iff_sound (fun _ => id) (by simp)]
      exact move_sound_iff ..
  | replayDeadLetter requestId nextAttemptAtMs env =>
      rw [conserves_iff_sound (fun _ => id) (by simp)]
      exact replay_sound_iff
  | retry item env =>
      cases hretry : retryOf crates item.value env with
      | delivered =>
          have hcompletes : Operation.Completes crates store (.retry item env) := by
            intro reason hreason
            rw [hretry] at hreason
            cases hreason
          refine ⟨fun h => ⟨h.disjoint.1, hcompletes⟩, ?_⟩
          rintro ⟨hdisjoint, _⟩
          refine conserves_of_pending env.writeOk
            (deletePending item.value.requestId store.pending) hdisjoint ?_ ?_ ?_ ?_ ?_
          · simp only [Operation.run, retryPendingInboundDelivery, hretry]
          · simp only [Operation.run, retryPendingInboundDelivery, hretry]
          · intro y hy
            exact ((hasPending_delete _ _ y).mp hy).1
          · intro y hy
            by_cases heq : y = trim item.value.requestId
            · exact .inr ⟨hretry, heq⟩
            · exact .inl ((hasPending_delete _ _ y).mpr ⟨hy, heq⟩)
          · intro receipt hmem
            simp only [Operation.run, retryPendingInboundDelivery, hretry, sendReceipt] at hmem
            split at hmem
            · rw [List.mem_singleton.mp hmem]
              simp [pendingReceipt]
            · cases hmem
      | postponed =>
          have hcompletes : Operation.Completes crates store (.retry item env) := by
            intro reason hreason
            rw [hretry] at hreason
            cases hreason
          refine ⟨fun h => ⟨h.disjoint.1, hcompletes⟩, ?_⟩
          rintro ⟨hdisjoint, _⟩
          refine conserves_of_pending env.writeOk
            (markPendingAttempt item.value.requestId
              (env.nowMs + CONNECTOR_RETRY_DELAY_MS) store.pending) hdisjoint ?_ ?_ ?_ ?_ ?_
          · simp only [Operation.run, retryPendingInboundDelivery, hretry]
          · simp only [Operation.run, retryPendingInboundDelivery, hretry]
          · intro y hy
            exact (hasPending_mark _ _ y).mp hy
          · intro y hy
            exact .inl ((hasPending_mark _ _ y).mpr hy)
          · simp only [Operation.run, retryPendingInboundDelivery, hretry]
            nofun
      | deadLettered reason => exact conserves_deadLettered hretry

end

/-! ## A move that stops after its copy -/

section Example

def exampleCrates : Crates where
  ulidFromString := exampleUlidFromString
  toString _ := rs "null"
  fromStr _ := some .null

def exampleFrame : DeliverFrame where
  v := 1
  id := rs "01HF7YAT00W6W7CM7N3W5FDXR0"
  ts := rs "2023-11-14T22:13:20.000Z"
  fromAgentDid := rs "did:cdi:registry.example.com:agent:01HF7YAT00W6W7CM7N3W5FDXT4"
  toAgentDid := rs "did:cdi:registry.example.com:agent:01HF7YAT00W6W7CM7N3W5FDXT5"
  payload := .null
  deliverySource := none
  contentType := none
  groupId := none
  conversationId := none
  replyTo := none

/-- A delivery that failed for the second time. -/
def exampleItem : Tracked InboundPendingItem where
  origin := exampleFrame
  value :=
    { requestId := rs "01HF7YAT00W6W7CM7N3W5FDXR0", frameId := rs "01HF7YAT00W6W7CM7N3W5FDXR0"
      fromAgentDid := exampleFrame.fromAgentDid, toAgentDid := exampleFrame.toAgentDid
      groupId := none, payloadJson := rs "null", receivedAtMs := 1700000000000
      nextAttemptAtMs := 1700000005000, attemptCount := 2, deliverySource := none
      conversationId := none, replyTo := none }

/-- The webhook is down, and the row cannot be deleted after its copy was inserted. -/
def exampleRetry : RetryEnv where
  nowMs := 1700000005000
  parseError := []
  deliveryResult := .error (rs "delivery webhook request failed")
  writeOk := true
  move := ⟨1700000005000, true, true, false, true⟩
  receiptOk := true

/-- **A message in both tables.** -/
theorem not_conserves :
    ¬∀ (crates : Crates) (store : Store) (op : Operation), Disjoint store →
      Conserves crates store op := by
  intro h
  have hdisjoint : Disjoint ⟨[exampleItem], []⟩ := by decide
  have hafter := (h exampleCrates ⟨[exampleItem], []⟩ (.retry exampleItem exampleRetry)
    hdisjoint).disjoint.2
  exact absurd hafter (by decide)

end Example

end Clawdentity.Rust.InboundMoves
