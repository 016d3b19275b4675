import Clawdentity.Rust.Inbound

/-!
# The two tables of failed deliveries

A delivery that failed stands in `inbound_pending`; after too many attempts it is moved to
`inbound_dead_letter`, from where it can be replayed or purged. The retry loop rebuilds the
deliver frame from its row. A move is an insertion and a deletion, and the second statement
may fail.

## Main definitions

* `Store`, `Statement`, `Store.step` — the statements on the two tables.
* `buildDeliverFromPending` — the frame that is tried again.
* `run_rows` — a row keeps the agents and the source of the frame it was made for.
-/

namespace Clawdentity.Rust.Inbound

open Js Lib Lib.Run

/-- A row of `inbound_dead_letter`, without its columns for diagnosis. -/
structure InboundDeadLetterItem where
  requestId : RString
  frameId : RString
  fromAgentDid : RString
  toAgentDid : RString
  groupId : Option RString
  payloadJson : RString
  receivedAtMs : ℤ
  attemptCount : ℤ
  deliverySource : Option RString
  conversationId : Option RString
  replyTo : Option RString
  deadLetteredAtMs : ℤ
  deadLetterReason : RString
  deriving DecidableEq

structure Store where
  pending : List (Tracked InboundPendingItem)
  deadLetter : List (Tracked InboundDeadLetterItem)
  deriving DecidableEq

def Store.empty : Store := ⟨[], []⟩

/-! ## Statements -/

/-- The row that a dead letter is written with. -/
def toDeadLetter (pending : InboundPendingItem) (nowMs : ℤ) (reason : RString) :
    InboundDeadLetterItem where
  requestId := pending.requestId
  frameId := pending.frameId
  fromAgentDid := pending.fromAgentDid
  toAgentDid := pending.toAgentDid
  groupId := pending.groupId
  payloadJson := pending.payloadJson
  receivedAtMs := pending.receivedAtMs
  attemptCount := pending.attemptCount
  deliverySource := pending.deliverySource
  conversationId := pending.conversationId
  replyTo := pending.replyTo
  deadLetteredAtMs := nowMs
  deadLetterReason := reason

/-- The row that a replay writes. -/
def toPending (deadLetter : InboundDeadLetterItem) (nextAttemptAtMs : ℤ) : InboundPendingItem where
  requestId := deadLetter.requestId
  frameId := deadLetter.frameId
  fromAgentDid := deadLetter.fromAgentDid
  toAgentDid := deadLetter.toAgentDid
  groupId := deadLetter.groupId
  payloadJson := deadLetter.payloadJson
  receivedAtMs := deadLetter.receivedAtMs
  nextAttemptAtMs := nextAttemptAtMs
  attemptCount := deadLetter.attemptCount
  deliverySource := deadLetter.deliverySource
  conversationId := deadLetter.conversationId
  replyTo := deadLetter.replyTo

def deleteDeadLetter (requestId : RString) (rows : List (Tracked InboundDeadLetterItem)) :
    List (Tracked InboundDeadLetterItem) :=
  rows.filter fun row => row.value.requestId ≠ trim requestId

/-- `move_pending_to_dead_letter`; the flag says whether the deletion succeeds. -/
def movePendingToDeadLetter (store : Store) (requestId reason : RString) (nowMs : ℤ)
    (deleted : Bool) : Store :=
  if (trim requestId).isEmpty || (trim reason).isEmpty then store
  else
    match store.pending.find? fun row => row.value.requestId = trim requestId with
    | none => store
    | some row =>
        { pending := if deleted then deletePending requestId store.pending else store.pending
          deadLetter := deleteDeadLetter row.value.requestId store.deadLetter ++
            [⟨row.origin, toDeadLetter row.value nowMs (trim reason)⟩] }

/-- `replay_dead_letter`; the flag says whether the deletion succeeds. -/
def replayDeadLetter (store : Store) (requestId : RString) (nextAttemptAtMs : ℤ)
    (deleted : Bool) : Store :=
  if (trim requestId).isEmpty then store
  else
    match store.deadLetter.find? fun row => row.value.requestId = trim requestId with
    | none => store
    | some row =>
        { pending := deletePending row.value.requestId store.pending ++
            [⟨row.origin, toPending row.value nextAttemptAtMs⟩]
          deadLetter := if deleted then deleteDeadLetter requestId store.deadLetter
            else store.deadLetter }

/-- `purge_dead_letter`: one request, or all. -/
def purgeDeadLetter (store : Store) (requestId : Option RString) : Store :=
  match requestId with
  | none => { store with deadLetter := [] }
  | some id =>
      if (trim id).isEmpty then store
      else { store with deadLetter := deleteDeadLetter id store.deadLetter }

inductive Statement
  /-- A delivery that failed; its payload may have been replaced by then. -/
  | upsertPending (deliver : DeliverFrame) (payload : RValue) (receivedAtMs : ℤ)
  | deletePending (requestId : RString)
  | markPendingAttempt (requestId : RString) (nextAttemptAtMs : ℤ)
  | movePendingToDeadLetter (requestId reason : RString) (nowMs : ℤ) (deleted : Bool)
  | replayDeadLetter (requestId : RString) (nextAttemptAtMs : ℤ) (deleted : Bool)
  | purgeDeadLetter (requestId : Option RString)

section
variable (crates : Crates)

def Store.step (store : Store) : Statement → Option Store
  | .upsertPending deliver payload receivedAtMs =>
      let item := pendingItem crates { deliver with payload } receivedAtMs
      some { store with
        pending := Inbound.upsertPending crates.ulidFromString ⟨deliver, item⟩ store.pending }
  | .deletePending requestId =>
      some { store with pending := Inbound.deletePending requestId store.pending }
  | .markPendingAttempt requestId nextAttemptAtMs =>
      some { store with
        pending := Inbound.markPendingAttempt requestId nextAttemptAtMs store.pending }
  | .movePendingToDeadLetter requestId reason nowMs deleted =>
      some (Inbound.movePendingToDeadLetter store requestId reason nowMs deleted)
  | .replayDeadLetter requestId nextAttemptAtMs deleted =>
      some (Inbound.replayDeadLetter store requestId nextAttemptAtMs deleted)
  | .purgeDeadLetter requestId => some (Inbound.purgeDeadLetter store requestId)

/-- `build_deliver_from_pending`, with the time of the attempt. -/
def buildDeliverFromPending (item : InboundPendingItem) (ts : RString) : Option DeliverFrame :=
  (crates.fromStr item.payloadJson).map fun payload =>
    { v := CONNECTOR_FRAME_VERSION, id := item.requestId, ts, fromAgentDid := item.fromAgentDid,
      toAgentDid := item.toAgentDid, groupId := item.groupId, payload,
      deliverySource := item.deliverySource, contentType := some (rs "application/json"),
      conversationId := item.conversationId, replyTo := item.replyTo }

end

/-! ## Rows keep their source -/

/-- The agents and the source are those of the frame, trimmed. -/
def Keeps (origin : DeliverFrame) (fromAgentDid toAgentDid : RString)
    (deliverySource : Option RString) : Prop :=
  fromAgentDid = trim origin.fromAgentDid ∧ toAgentDid = trim origin.toAgentDid ∧
    deliverySource = parseOptionalNonEmpty origin.deliverySource

def PendingKept (row : Tracked InboundPendingItem) : Prop :=
  Keeps row.origin row.value.fromAgentDid row.value.toAgentDid row.value.deliverySource

def DeadLetterKept (row : Tracked InboundDeadLetterItem) : Prop :=
  Keeps row.origin row.value.fromAgentDid row.value.toAgentDid row.value.deliverySource

structure Store.Kept (store : Store) : Prop where
  pending : ∀ row ∈ store.pending, PendingKept row
  deadLetter : ∀ row ∈ store.deadLetter, DeadLetterKept row

section
variable {crates : Crates} {store store' : Store}

theorem mem_deletePending {requestId : RString} {rows : List (Tracked InboundPendingItem)}
    {row : Tracked InboundPendingItem} (h : row ∈ deletePending requestId rows) : row ∈ rows :=
  (List.mem_filter.mp h).1

theorem mem_deleteDeadLetter {requestId : RString} {rows : List (Tracked InboundDeadLetterItem)}
    {row : Tracked InboundDeadLetterItem} (h : row ∈ deleteDeadLetter requestId rows) :
    row ∈ rows :=
  (List.mem_filter.mp h).1

theorem Store.Kept.upsert (h : store.Kept) (deliver : DeliverFrame) (payload : RValue)
    (receivedAtMs : ℤ) :
    ∀ row ∈ upsertPending crates.ulidFromString
      ⟨deliver, pendingItem crates { deliver with payload } receivedAtMs⟩ store.pending,
      PendingKept row := by
  intro row hrow
  unfold upsertPending at hrow
  split at hrow
  · rcases List.mem_append.mp hrow with hrow | hrow
    · exact h.pending row (mem_deletePending hrow)
    · rw [List.mem_singleton.mp hrow]
      exact ⟨rfl, rfl, rfl⟩
  · exact h.pending row hrow

theorem Store.Kept.move (h : store.Kept) (requestId reason : RString) (nowMs : ℤ)
    (deleted : Bool) : (movePendingToDeadLetter store requestId reason nowMs deleted).Kept := by
  unfold movePendingToDeadLetter
  split
  · exact h
  split
  · exact h
  · rename_i row hfind
    refine ⟨?_, ?_⟩
    · intro other hother
      cases deleted with
      | true => exact h.pending other (mem_deletePending hother)
      | false => exact h.pending other hother
    · intro other hother
      rcases List.mem_append.mp hother with hother | hother
      · exact h.deadLetter other (mem_deleteDeadLetter hother)
      · rw [List.mem_singleton.mp hother]
        exact h.pending row (List.mem_of_find?_eq_some hfind)

theorem Store.Kept.replay (h : store.Kept) (requestId : RString) (nextAttemptAtMs : ℤ)
    (deleted : Bool) : (replayDeadLetter store requestId nextAttemptAtMs deleted).Kept := by
  unfold replayDeadLetter
  split
  · exact h
  split
  · exact h
  · rename_i row hfind
    refine ⟨?_, ?_⟩
    · intro other hother
      rcases List.mem_append.mp hother with hother | hother
      · exact h.pending other (mem_deletePending hother)
      · rw [List.mem_singleton.mp hother]
        exact h.deadLetter row (List.mem_of_find?_eq_some hfind)
    · intro other hother
      cases deleted with
      | true => exact h.deadLetter other (mem_deleteDeadLetter hother)
      | false => exact h.deadLetter other hother

/-- **One statement.** -/
theorem kept_step {statement : Statement} (h : store.Kept)
    (hstep : store.step crates statement = some store') : store'.Kept := by
  cases statement with
  | upsertPending deliver payload receivedAtMs =>
      cases hstep
      exact ⟨h.upsert deliver payload receivedAtMs, h.deadLetter⟩
  | deletePending requestId =>
      cases hstep
      exact ⟨fun row hrow => h.pending row (mem_deletePending hrow), h.deadLetter⟩
  | markPendingAttempt requestId nextAttemptAtMs =>
      cases hstep
      refine ⟨?_, h.deadLetter⟩
      intro row hrow
      obtain ⟨old, hold, rfl⟩ := List.mem_map.mp hrow
      split
      · exact h.pending old hold
      · exact h.pending old hold
  | movePendingToDeadLetter requestId reason nowMs deleted =>
      cases hstep
      exact h.move requestId reason nowMs deleted
  | replayDeadLetter requestId nextAttemptAtMs deleted =>
      cases hstep
      exact h.replay requestId nextAttemptAtMs deleted
  | purgeDeadLetter requestId =>
      cases hstep
      unfold Inbound.purgeDeadLetter
      split
      · exact ⟨h.pending, fun row hrow => by cases hrow⟩
      split
      · exact h
      · exact ⟨h.pending, fun row hrow => h.deadLetter row (mem_deleteDeadLetter hrow)⟩

/-- **Every run.** The rows keep the agents and the source of their frames. -/
theorem run_rows {statements : List Statement}
    (hrun : exec (Store.step crates) .empty statements = some store) : store.Kept := by
  refine exec_invariant_of_step Store.Kept (fun _ _ _ hi hstep => kept_step hi hstep) ?_ hrun
  refine ⟨?_, ?_⟩
  · intro row hrow
    cases hrow
  · intro row hrow
    cases hrow

/-! ## Frames that are tried again -/

/-- The connector has the frame in hand for a deliver frame that it received: the frame
itself, or one that was rebuilt after some statements from a row for it. -/
inductive InHand (crates : Crates) (deliver : DeliverFrame) : DeliverFrame → Prop
  | received : InHand crates deliver deliver
  | rebuilt {statements : List Statement} {store : Store} {row : Tracked InboundPendingItem}
      {ts : RString} {frame : DeliverFrame}
      (hrun : exec (Store.step crates) .empty statements = some store)
      (hrow : row ∈ store.pending) (horigin : row.origin = deliver)
      (hframe : buildDeliverFromPending crates row.value ts = some frame) :
      InHand crates deliver frame

/-- **What a frame in hand has of the received one**: its agents and its source, as they are
or trimmed. -/
theorem InHand.spec {deliver frame : DeliverFrame} (h : InHand crates deliver frame) :
    trim frame.fromAgentDid = trim deliver.fromAgentDid ∧
      trim frame.toAgentDid = trim deliver.toAgentDid ∧
      (frame.deliverySource = deliver.deliverySource ∨
        frame.deliverySource = parseOptionalNonEmpty deliver.deliverySource) := by
  cases h with
  | received => exact ⟨rfl, rfl, .inl rfl⟩
  | @rebuilt statements store row ts frame hrun hrow horigin hframe =>
      obtain ⟨payload, _, rfl⟩ := Option.map_eq_some_iff.mp hframe
      obtain ⟨hfrom, hto, hsource⟩ := (run_rows hrun).pending row hrow
      rw [horigin] at hfrom hto hsource
      refine ⟨?_, ?_, .inr hsource⟩
      · rw [hfrom]
        exact Text.trim_trim _
      · rw [hto]
        exact Text.trim_trim _

end

end Clawdentity.Rust.Inbound
