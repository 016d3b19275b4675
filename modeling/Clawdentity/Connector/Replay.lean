import Clawdentity.Connector.InboxInvariant
import Clawdentity.Connector.ReceiptOutbox
import Clawdentity.Lib.OrderedMap
import Clawdentity.Lib.Precedence

/-!
# Replay of pending messages

A pass lists the pending messages that are due and puts them into lanes, one for each conversation
and one for the messages without. The lanes run at the same time; in a lane a message is posted to
the webhook after the one before it has been dealt with, whatever became of that one.

A pass ends when its lanes have returned, and also when one of them throws: the others then go on
while the next pass may begin.

## Main definitions

* `groupDueItemsByLane` — the lanes of a pass.
* `Replay`, `step` — the inbox, the lanes and the passes.
* `groupDueItemsByLane_spec` — a lane has the messages of its key, in the order of the listing.
-/

namespace Clawdentity.Connector.InboundReplay

open Js Lib InboundInbox ReceiptOutbox
open Lib.Transaction (runInTransaction)

/-! ## Lanes -/

def laneKey (pending : InboxItem) : JsString :=
  match pending.conversationId with
  | some conversationId => js "conversation:" ++ conversationId
  | none => js "best-effort"

/-- A message goes to the end of its lane. -/
def addToLane (laneByKey : OrderedMap JsString (List InboxItem)) (pending : InboxItem) :
    OrderedMap JsString (List InboxItem) :=
  match laneByKey.get? (laneKey pending) with
  | some lane => laneByKey.set (laneKey pending) (lane ++ [pending])
  | none => laneByKey.set (laneKey pending) [pending]

def groupDueItemsByLane (dueItems : List InboxItem) : List (List InboxItem) :=
  (dueItems.foldl addToLane .empty).entries.map Prod.snd

/-! ## The controller -/

/-- How `deliverToDeliveryWebhookHookWithRetry` ends. -/
inductive Outcome
  | delivered
  /-- It throws, with the code `RUNTIME_STOPPING`. -/
  | stopping
  /-- It throws another error. -/
  | failed (retryable : Bool) (reason : JsString)
  deriving DecidableEq

/-- Where a lane is, with the messages that are left. -/
inductive LaneState
  | next (items : List InboxItem)
  /-- The message is posted to the webhook. -/
  | posting (item : InboxItem) (rest : List InboxItem)
  /-- `markDelivered` is awaited. -/
  | marking (item : InboxItem) (rest : List InboxItem)
  /-- `markReplayFailure` is awaited. -/
  | failing (item : InboxItem) (input : MarkReplayFailureInput) (rest : List InboxItem)
  | returned
  /-- The lane has thrown. -/
  | rejected

structure Lane where
  /-- The number of its pass. -/
  pass : ℕ
  state : LaneState

/-- `replayInFlight`, and what the pass has done. -/
inductive Phase
  | idle
  | listed (dueItems : List InboxItem)
  | running

structure Replay where
  tables : Tables
  /-- The number of the next message that is accepted. -/
  accepted : ℕ
  phase : Phase
  /-- The passes that have ended. -/
  passes : ℕ
  lanes : List Lane
  /-- The numbers of the messages that the webhook has taken, which no code reads. -/
  delivered : List ℕ
  /-- The receipts that were posted. -/
  receipts : List DeliveryReceiptInput

/-- What the environment decides for a lane that goes on. -/
inductive LaneChoice
  | next
  | posted (outcome : Outcome) (nowMs : ℤ)
  /-- The transaction of `markDelivered`, with the error and the clock for the case that it
  throws. -/
  | marked (env : Env) (reason : JsString) (nowMs : ℤ)
  | recorded (env : Env)

inductive Event
  /-- A message arrives. -/
  | enqueue (frame : DeliverFrame) (env : Env)
  | startPass (nowAt : JsString)
  /-- Nothing is due, the gateway is unreachable, or the code before the lanes throws. -/
  | skipPass
  | runLanes
  | lane (i : ℕ) (choice : LaneChoice)
  | finishPass

def deliveryReceipt (item : InboxItem) (status : ReceiptStatus) (reason : Option JsString) :
    DeliveryReceiptInput where
  reason := reason
  recipientAgentDid := item.toAgentDid
  requestId := item.requestId
  senderAgentDid := item.fromAgentDid
  status := status

section Code
variable (options : InboxOptions) (policy : InboundReplayPolicy) (toIso : ℤ → JsString)

/-- The input of `markReplayFailure`. -/
def replayFailure (item : InboxItem) (retryable : Bool) (reason : JsString) (nowMs : ℤ) :
    MarkReplayFailureInput where
  errorMessage := reason
  maxNonRetryableAttempts := policy.deadLetterNonRetryableMaxAttempts
  nextAttemptAt := toIso (nowMs +
    computeReplayDelayMs policy (item.attemptCount + 1) * (if retryable then 1 else 10))
  requestId := item.requestId
  retryable := retryable

/-- A lane goes on to its next await. -/
def resumeLane (s : Replay) : LaneState → LaneChoice → Option (Replay × LaneState)
  | .next [], .next => some (s, .returned)
  | .next (item :: rest), .next => some (s, .posting item rest)
  | .posting item rest, .posted outcome nowMs =>
      match outcome with
      | .delivered => some ({ s with delivered := s.delivered ++ [item.serial] }, .marking item rest)
      | .stopping => some (s, .returned)
      | .failed retryable reason =>
          some (s, .failing item (replayFailure policy toIso item retryable reason nowMs) rest)
  | .marking item rest, .marked env reason nowMs =>
      let r := runInTransaction (markDelivered options item.requestId) env.fault s.tables
      match r.1 with
      | some () => some ({ s with
          tables := r.2
          receipts := s.receipts ++ [deliveryReceipt item .deliveredToWebhook none] }, .next rest)
      | none =>
          some (s, .failing item (replayFailure policy toIso item true reason nowMs) rest)
  | .failing item input rest, .recorded env =>
      let r := runInTransaction (markReplayFailure options input env) env.fault s.tables
      match r.1 with
      | some movedToDeadLetter => some ({ s with
          tables := r.2
          receipts := if movedToDeadLetter then
            s.receipts ++ [deliveryReceipt item .deadLettered (some input.errorMessage)]
            else s.receipts }, .next rest)
      | none => some (s, .rejected)
  | _, _ => none

def step (s : Replay) : Event → Option Replay
  | .enqueue frame env =>
      let r := runInTransaction (enqueue options frame s.accepted env) env.fault s.tables
      let isNew := r.1.any fun result => result.accepted && !result.duplicate
      some { s with tables := r.2, accepted := if isNew then s.accepted + 1 else s.accepted }
  | .startPass nowAt =>
      match s.phase with
      | .idle => some { s with phase := .listed (listDuePending s.tables policy.batchSize nowAt) }
      | _ => none
  | .skipPass =>
      match s.phase with
      | .listed _ => some { s with phase := .idle, passes := s.passes + 1 }
      | _ => none
  | .runLanes =>
      match s.phase with
      | .listed dueItems =>
          if dueItems.isEmpty then none
          else some { s with
            phase := .running
            lanes := s.lanes ++
              (groupDueItemsByLane dueItems).map fun lane => ⟨s.passes, .next lane⟩ }
      | _ => none
  | .lane i choice =>
      s.lanes[i]?.bind fun lane =>
        (resumeLane options policy toIso s lane.state choice).map fun r =>
          { r.1 with lanes := s.lanes.set i { lane with state := r.2 } }
  | .finishPass =>
      match s.phase with
      | .running =>
          let isOver := (s.lanes.filter fun lane => lane.pass = s.passes).all fun lane =>
            match lane.state with
            | .returned => true
            | _ => false
          let isRejected := (s.lanes.filter fun lane => lane.pass = s.passes).any fun lane =>
            match lane.state with
            | .rejected => true
            | _ => false
          if isOver || isRejected then some { s with phase := .idle, passes := s.passes + 1 }
          else none
      | _ => none

end Code

/-! ## What a lane has -/

/-- The lane of a conversation is not the one of the messages without. -/
theorem conversation_ne_bestEffort (conversationId : JsString) :
    js "conversation:" ++ conversationId ≠ js "best-effort" := by
  intro h
  have hhead := congrArg List.head? h
  have hconversation : (js "conversation:").head? = some 99 := by decide
  have hbestEffort : (js "best-effort").head? = some 98 := by decide
  rw [List.head?_append, hconversation, hbestEffort, Option.some_or] at hhead
  revert hhead
  decide

theorem laneKey_eq_iff {a b : InboxItem} :
    laneKey a = laneKey b ↔ a.conversationId = b.conversationId := by
  cases ha : a.conversationId with
  | none =>
    cases hb : b.conversationId with
    | none => simp [laneKey, ha, hb]
    | some d => simpa [laneKey, ha, hb] using (conversation_ne_bestEffort d).symm
  | some c =>
    cases hb : b.conversationId with
    | none => simpa [laneKey, ha, hb] using conversation_ne_bestEffort c
    | some d => simp [laneKey, ha, hb]

theorem addToLane_get? (laneByKey : OrderedMap JsString (List InboxItem)) (pending : InboxItem)
    (key : JsString) :
    ((addToLane laneByKey pending).get? key).getD [] =
      (laneByKey.get? key).getD [] ++ if laneKey pending = key then [pending] else [] := by
  have hset : addToLane laneByKey pending = laneByKey.set (laneKey pending)
      ((laneByKey.get? (laneKey pending)).getD [] ++ [pending]) := by
    rw [addToLane]
    split
    · rename_i lane hlane
      rw [hlane]
      rfl
    · rename_i hlane
      rw [hlane]
      rfl
  rw [hset]
  by_cases hkey : laneKey pending = key
  · subst hkey
    simp
  · rw [OrderedMap.get?_set_of_ne (Ne.symm hkey), if_neg hkey, List.append_nil]

theorem foldl_addToLane_get? (dueItems : List InboxItem)
    (laneByKey : OrderedMap JsString (List InboxItem)) (key : JsString) :
    ((dueItems.foldl addToLane laneByKey).get? key).getD [] =
      (laneByKey.get? key).getD [] ++ dueItems.filter fun pending => laneKey pending = key := by
  induction dueItems generalizing laneByKey with
  | nil => simp
  | cons pending dueItems ih =>
    rw [List.foldl_cons, ih, addToLane_get?, List.append_assoc]
    congr 1
    by_cases hkey : laneKey pending = key
    · simp [hkey]
    · simp [hkey]

/-- **Lanes.** A lane has the messages of one key, in the order of the listing. -/
theorem groupDueItemsByLane_spec {dueItems lane : List InboxItem}
    (h : lane ∈ groupDueItemsByLane dueItems) :
    ∃ key, lane = dueItems.filter fun pending => laneKey pending = key := by
  obtain ⟨⟨key, lane⟩, hentry, rfl⟩ := List.mem_map.mp h
  refine ⟨key, ?_⟩
  have hfold := foldl_addToLane_get? dueItems .empty key
  rw [OrderedMap.get?_eq_some.mpr hentry] at hfold
  exact hfold

end Clawdentity.Connector.InboundReplay
