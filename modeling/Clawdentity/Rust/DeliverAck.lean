import Clawdentity.Rust.DeadLetters

/-!
# Who is responsible for a delivery

The connector answers each deliver frame with an acknowledgement, whose `accepted` says that
the relay may forget the message. Before it, the frame is forwarded to the webhook, and the
store records an event, the pending delivery where the webhook failed, and a second event.
Each of these statements may fail on its own, and none undoes those before it.

## Main definitions

* `handleDeliverFrame` — the store after a frame, and the acknowledgement.
* `Transfers` — the acknowledgement says who has the message.
* `transfers_iff` — exactly when it does.
-/

namespace Clawdentity.Rust.DeliverAck

open Js Lib
open Inbound (Crates Tracked InboundPendingItem Store pendingItem isStorable storedItem
  deletePending upsertPending)

/-- What the environment decides while a frame is handled. -/
structure DeliverEnv where
  nowMs : ℤ
  /-- The result of the pair-accepted step and of the webhook. -/
  deliveryResult : Except RString Unit
  /-- `append_received_inbound_event` succeeds. -/
  receivedEventOk : Bool
  /-- The statement of `delete_pending` succeeds. -/
  deleteOk : Bool
  deliveredEventOk : Bool
  /-- The statement of `upsert_pending` succeeds. -/
  upsertOk : Bool
  pendingEventOk : Bool
  /-- The text of the error of the store, where there is one. -/
  storeError : RString
  /-- `new_frame_id`. -/
  ackId : RString
  /-- `now_iso`. -/
  ackTs : RString

/-- The webhook has the message. -/
def DeliverEnv.isDelivered (env : DeliverEnv) : Bool := env.deliveryResult.isOk

/-- The result of a statement, or of a step that ends in one. -/
def DeliverEnv.statement (env : DeliverEnv) (ok : Bool) : Except RString Unit :=
  if ok then .ok () else .error env.storeError

section Code
variable (crates : Crates)

/-- The row that a failed delivery is kept in. -/
def pendingRow (deliver : DeliverFrame) (env : DeliverEnv) : Tracked InboundPendingItem :=
  ⟨deliver, pendingItem crates deliver env.nowMs⟩

/-- `persist_successful_inbound_delivery`. A pending row that cannot be deleted is only
logged. -/
def persistSuccessfulInboundDelivery (store : Store) (deliver : DeliverFrame) (env : DeliverEnv) :
    Store × Except RString Unit :=
  (if env.deleteOk then { store with pending := deletePending deliver.id store.pending } else store,
    env.statement env.deliveredEventOk)

/-- The checks and the statement of `upsert_pending` succeed. -/
def isUpserted (deliver : DeliverFrame) (env : DeliverEnv) : Bool :=
  isStorable crates.ulidFromString (pendingItem crates deliver env.nowMs) && env.upsertOk

/-- `persist_pending_inbound_delivery`. -/
def persistPendingInboundDelivery (store : Store) (deliver : DeliverFrame) (env : DeliverEnv) :
    Store × Except RString Unit :=
  if isUpserted crates deliver env then
    ({ store with pending :=
        upsertPending crates.ulidFromString (pendingRow crates deliver env) store.pending },
      env.statement env.pendingEventOk)
  else (store, .error env.storeError)

/-- `persist_inbound_delivery_result`. -/
def persistInboundDeliveryResult (store : Store) (deliver : DeliverFrame) (env : DeliverEnv) :
    Store × Except RString Unit :=
  if env.receivedEventOk then
    if env.isDelivered then persistSuccessfulInboundDelivery store deliver env
    else persistPendingInboundDelivery crates store deliver env
  else (store, .error env.storeError)

def buildDeliverAckReason : Except RString Unit → Except RString Unit → Option RString
  | .error deliveryError, .error persistenceError =>
      some (deliveryError ++ rs "; failed to persist inbound delivery result: " ++ persistenceError)
  | _, _ => none

/-- `handle_deliver_frame`, after the webhook has answered: the store, and the acknowledgement
of `send_deliver_ack`. -/
def handleDeliverFrame (store : Store) (deliver : DeliverFrame) (env : DeliverEnv) :
    Store × AckFrame :=
  let r := persistInboundDeliveryResult crates store deliver env
  let ackReason := buildDeliverAckReason env.deliveryResult r.2
  (r.1, { v := CONNECTOR_FRAME_VERSION, id := env.ackId, ts := env.ackTs, ackId := deliver.id
          accepted := ackReason.isNone, reason := ackReason })

end Code

/-! ## What the acknowledgement says -/

/-- A pending row for the message is stored. -/
def HasPending (store : Store) (requestId : RString) : Prop :=
  ∃ row ∈ store.pending, row.value.requestId = trim requestId

instance (store : Store) (requestId : RString) : Decidable (HasPending store requestId) :=
  inferInstanceAs (Decidable (∃ row ∈ store.pending, _))

section
variable (crates : Crates)

/-- The acknowledgement accepts the message exactly when the webhook has it or a pending row
does, and a message that is not accepted leaves no pending row. -/
def Transfers (store : Store) (deliver : DeliverFrame) (env : DeliverEnv) : Prop :=
  let r := handleDeliverFrame crates store deliver env
  (r.2.accepted = true ↔ env.isDelivered = true ∨ HasPending r.1 deliver.id) ∧
    (r.2.accepted = false → ¬HasPending r.1 deliver.id)

instance (store : Store) (deliver : DeliverFrame) (env : DeliverEnv) :
    Decidable (Transfers crates store deliver env) :=
  inferInstanceAs (Decidable ((_ ↔ _ ∨ HasPending _ _) ∧ (_ → ¬HasPending _ _)))

/-- Every statement that keeps a failed delivery succeeds. -/
def persists (deliver : DeliverFrame) (env : DeliverEnv) : Bool :=
  env.receivedEventOk && isUpserted crates deliver env && env.pendingEventOk

/-- **The condition**: the webhook took the message, or every statement succeeded, or the row
was not written and none was there. -/
def StoreAgrees (store : Store) (deliver : DeliverFrame) (env : DeliverEnv) : Prop :=
  env.isDelivered = true ∨ persists crates deliver env = true ∨
    ((env.receivedEventOk && isUpserted crates deliver env) = false ∧
      ¬HasPending store deliver.id)

instance (store : Store) (deliver : DeliverFrame) (env : DeliverEnv) :
    Decidable (StoreAgrees crates store deliver env) := inferInstanceAs (Decidable (_ ∨ _ ∨ _))

end

section
variable {crates : Crates} {store : Store} {deliver : DeliverFrame} {env : DeliverEnv}

/-- The row of a failed delivery is stored under the id of its frame. -/
theorem hasPending_upsert (h : isUpserted crates deliver env = true) :
    HasPending
      { store with pending :=
          upsertPending crates.ulidFromString (pendingRow crates deliver env) store.pending }
      deliver.id := by
  have hstorable := (Bool.and_eq_true_iff.mp h).1
  refine ⟨⟨deliver, storedItem (pendingItem crates deliver env.nowMs)⟩, ?_, rfl⟩
  simp only [upsertPending, pendingRow, hstorable, if_true]
  exact List.mem_append_right _ (List.mem_singleton_self _)

variable (crates store deliver) in
/-- A message that the webhook took is accepted. -/
theorem accepted_of_delivered (h : env.isDelivered = true) :
    (handleDeliverFrame crates store deliver env).2.accepted = true := by
  unfold DeliverEnv.isDelivered at h
  cases hresult : env.deliveryResult with
  | ok =>
      simp only [handleDeliverFrame, hresult]
      rfl
  | error error =>
      rw [hresult] at h
      cases h

variable (crates store deliver) in
/-- A failed delivery is accepted where its result could be persisted. -/
theorem accepted_eq (h : env.isDelivered = false) :
    (handleDeliverFrame crates store deliver env).2.accepted = persists crates deliver env := by
  have hresult : ∃ error, env.deliveryResult = .error error := by
    unfold DeliverEnv.isDelivered at h
    cases hresult : env.deliveryResult with
    | ok =>
        rw [hresult] at h
        cases h
    | error error => exact ⟨error, rfl⟩
  obtain ⟨error, hresult⟩ := hresult
  simp only [handleDeliverFrame, persistInboundDeliveryResult, persistPendingInboundDelivery,
    persists, h, hresult, Bool.false_eq_true, if_false]
  cases env.receivedEventOk with
  | false => rfl
  | true =>
      cases isUpserted crates deliver env with
      | false => rfl
      | true =>
          cases hevent : env.pendingEventOk with
          | false => simp [DeliverEnv.statement, buildDeliverAckReason]
          | true => simp [DeliverEnv.statement, buildDeliverAckReason]

variable (crates store deliver) in
/-- After a failed delivery there is a row exactly where it was written, or was there. -/
theorem hasPending_iff (h : env.isDelivered = false) :
    HasPending (handleDeliverFrame crates store deliver env).1 deliver.id ↔
      (env.receivedEventOk && isUpserted crates deliver env) = true ∨
        HasPending store deliver.id := by
  simp only [handleDeliverFrame, persistInboundDeliveryResult, persistPendingInboundDelivery, h,
    Bool.false_eq_true, if_false]
  cases env.receivedEventOk with
  | false => simp
  | true =>
      cases hupserted : isUpserted crates deliver env with
      | false => simp
      | true => simp [hasPending_upsert hupserted]

/-- **When an acknowledgement transfers the responsibility for a message.** -/
theorem transfers_iff :
    Transfers crates store deliver env ↔ StoreAgrees crates store deliver env := by
  cases hdelivered : env.isDelivered with
  | true =>
      have haccepted := accepted_of_delivered crates store deliver hdelivered
      simp [Transfers, StoreAgrees, haccepted, hdelivered]
  | false =>
      have haccepted := accepted_eq crates store deliver hdelivered
      have hpending := hasPending_iff crates store deliver hdelivered
      simp only [Transfers, StoreAgrees, haccepted, hpending, hdelivered, persists,
        Bool.false_eq_true, false_or]
      -- the row was written or not, and its event was recorded or not
      cases env.receivedEventOk && isUpserted crates deliver env with
      | false => simp
      | true => cases env.pendingEventOk <;> simp

end

/-! ## A row that stays behind -/

section Example

def exampleCrates : Crates where
  ulidFromString := exampleUlidFromString
  toString _ := rs "null"
  fromStr _ := some .null

def exampleFrame : DeliverFrame where
  v := 1
  id := rs "01HF7YAT00W6W7CM7N3W5FDXR0"
  ts := rs "2023-11-14T22:13:20.000Z"
  fromAgentDid := rs "did:cdi:registry.example.com:agent:01HF7YAT00W6W7CM7N3W5FDXT4"
  toAgentDid := rs "did:cdi:registry.example.com:agent:01HF7YAT00W6W7CM7N3W5FDXT5"
  payload := .null
  deliverySource := none
  contentType := none
  groupId := none
  conversationId := none
  replyTo := none

/-- The webhook is down, and the second event cannot be recorded. -/
def exampleEnv : DeliverEnv where
  nowMs := 1700000000000
  deliveryResult := .error (rs "delivery webhook request failed")
  receivedEventOk := true
  deleteOk := true
  deliveredEventOk := true
  upsertOk := true
  pendingEventOk := false
  storeError := rs "database is locked"
  ackId := rs "01HF7YAT00W6W7CM7N3W5FDXR1"
  ackTs := rs "2023-11-14T22:13:20.000Z"

/-- **A message is refused and kept**: the relay delivers it again, and so does the retry. -/
theorem not_transfers :
    ¬∀ (crates : Crates) (store : Store) (deliver : DeliverFrame) (env : DeliverEnv),
      Transfers crates store deliver env := by
  intro h
  exact absurd (h exampleCrates .empty exampleFrame exampleEnv) (by decide)

end Example

end Clawdentity.Rust.DeliverAck
