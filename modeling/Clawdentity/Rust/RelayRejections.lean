import Clawdentity.Rust.OutboundRelay
import Clawdentity.Rust.ReceiptRetries
import Clawdentity.Lib.Custody
import Clawdentity.Lib.Table

/-!
# The receipt of a message that the relay has rejected

Where the proxy refuses the frame of a message, its acknowledgement names the frame and not the
recipient. The recipient is looked up in a map, which the observer of a flush fills before the
frame is handed over. Only the periodic flush has the observer; the handlers of outbound requests
flush the same queue without it, and there is no flush at a reconnect.

## Main definitions

* `Runtime`, `step` — the connector with the map, the frames from the proxy and the
  notifications that wait for the webhook.
* `NotifiedOnce` — one receipt has been queued for a message.
* `StepNotifies` — the step does not make a rejection go unnoticed.
* `rejection_notified` — when a rejection has its receipt.
-/

namespace Clawdentity.Rust.RelayRejections

open Js Lib Lib.Run Lib.Custody
open Connector (ReceiptStatus)
open Inbound (Crates)
open Lib.SignedInt (saturate)
open Outbound (Tracked OutboundQueueItem OutboundRetryPolicy Queue deleteRow enqueueOutbound
  takeDueOutbound requeueOutboundRetry)
open OutboundRelay (Message message Connector Client Flush)
open ReceiptRetries (RECEIPT_FORWARD_MAX_ATTEMPTS computeReceiptRetryDelayMs)

/-! ## The tasks that flush -/

def OUTBOUND_FLUSH_BATCH_SIZE : ℕ := 50

/-- The code that calls a flush. -/
inductive FlushTask
  /-- `outbound_handler`, for the number of frames that the request has inserted. -/
  | outboundHandler (maxItems : ℕ)
  /-- `run_outbound_flush_loop`. -/
  | outboundFlushLoop
  deriving DecidableEq

def FlushTask.maxItems : FlushTask → ℕ
  | .outboundHandler maxItems => maxItems
  | .outboundFlushLoop => OUTBOUND_FLUSH_BATCH_SIZE

/-- The flush has the observer that fills the map. -/
def FlushTask.observes : FlushTask → Bool
  | .outboundHandler _ => false
  | .outboundFlushLoop => true

inductive OutboundSendObservation
  | queued
  | sent
  | sendFailed
  deriving DecidableEq

abbrev OutboundInflightMap := Table RString RString

/-- The observer of `run_outbound_flush_loop`. -/
def observeSend (outboundInflight : OutboundInflightMap) (sent : Message) :
    OutboundSendObservation → OutboundInflightMap
  | .queued => outboundInflight.insert sent.frameId sent.toAgentDid
  | .sendFailed => outboundInflight.erase sent.frameId
  | .sent => outboundInflight

/-- The message that a flush is sending. -/
def sendingMessage : Flush → Option Message
  | .sending row _ _ _ => some (message row)
  | _ => none

/-- What a piece of a flush reports to its observer: the frame is about to be sent, or `send_frame`
has returned. -/
def observation (client : Client) (before after : Flush) :
    Option (Message × OutboundSendObservation) :=
  match sendingMessage before, sendingMessage after with
  | some sent, _ => some (sent, if client = .stopped then .sendFailed else .sent)
  | none, some sent => some (sent, .queued)
  | none, none => none

/-! ## The notifications for the webhook -/

def RECEIPT_FORWARD_MAX_AGE_MS : ℤ := 24 * 60 * 60 * 1000
def RECEIPT_FORWARD_MAX_PENDING : ℕ := 10000

structure PendingReceiptNotification where
  attemptCount : ℤ
  createdAtMs : ℤ
  nextAttemptAtMs : ℤ
  receipt : ReceiptFrame
  deriving DecidableEq

/-- The readings of the clock and the fresh id for a frame that is handled. -/
structure FrameEnv where
  /-- `new_frame_id`. -/
  frameId : RString
  /-- `now_iso`. -/
  ts : RString
  createdAtMs : ℤ
  nowMs : ℤ

def PendingReceiptNotification.new (receipt : ReceiptFrame) (nowMs : ℤ) :
    PendingReceiptNotification :=
  { attemptCount := 0, createdAtMs := nowMs, nextAttemptAtMs := nowMs, receipt }

/-- The notification is given up. -/
def shouldDropNotification (notification : PendingReceiptNotification) (nowMs : ℤ) : Bool :=
  decide (RECEIPT_FORWARD_MAX_ATTEMPTS ≤ notification.attemptCount) ||
    decide (RECEIPT_FORWARD_MAX_AGE_MS < saturate 64 (nowMs - notification.createdAtMs))

/-- `prune_pending_queue`. -/
def prunePendingQueue (pending : List PendingReceiptNotification) (nowMs : ℤ) :
    List PendingReceiptNotification :=
  pending.filter fun item => !shouldDropNotification item nowMs

/-- The queue, pruned, can take a notification. -/
def hasRoom (pending : List PendingReceiptNotification) (nowMs : ℤ) : Bool :=
  decide ((prunePendingQueue pending nowMs).length < RECEIPT_FORWARD_MAX_PENDING)

def enqueuePendingReceiptNotification (pending : List PendingReceiptNotification)
    (notification : PendingReceiptNotification) (nowMs : ℤ) : List PendingReceiptNotification :=
  if hasRoom pending nowMs then prunePendingQueue pending nowMs ++ [notification]
  else prunePendingQueue pending nowMs

/-- `take_due_notifications`, and of those that are due the ones that are not given up. -/
def takeDueNotifications (pending : List PendingReceiptNotification) (nowMs : ℤ) :
    List PendingReceiptNotification × List PendingReceiptNotification :=
  let due := pending.filter fun item => item.nextAttemptAtMs ≤ nowMs
  (due.filter fun item => !shouldDropNotification item nowMs,
    pending.filter fun item => nowMs < item.nextAttemptAtMs)

/-- `requeue_notifications`, of the posts that have failed, with the time at which each did. -/
def requeueNotifications (pending due : List PendingReceiptNotification)
    (failedAtMs : PendingReceiptNotification → Option ℤ) : List PendingReceiptNotification :=
  let retry := due.filterMap fun item => (failedAtMs item).map fun nowMs =>
    { item with
      attemptCount := item.attemptCount + 1
      nextAttemptAtMs := nowMs + computeReceiptRetryDelayMs (item.attemptCount + 1) }
  pending ++ retry.take (RECEIPT_FORWARD_MAX_PENDING - pending.length)

def rejectedReason (reason : RString) : RString :=
  rs "relay rejected outbound enqueue frame: " ++ reason

def buildEnqueueRejectedReceipt (ackId toAgentDid reason : RString) (env : FrameEnv) :
    ReceiptFrame where
  v := CONNECTOR_FRAME_VERSION
  id := env.frameId
  ts := env.ts
  originalFrameId := ackId
  toAgentDid := toAgentDid
  status := .deadLettered
  reason := some (rejectedReason reason)

/-! ## The runtime -/

/-- A frame that a flush has handed to the client. -/
structure Handed where
  message : Message
  task : FlushTask
  deriving DecidableEq

/-- An acknowledgement that has been handled. -/
structure Handled where
  ack : AckFrame
  /-- The queue of notifications could take another. -/
  room : Bool
  deriving DecidableEq

structure Runtime where
  connector : Connector
  /-- The task of each flush. -/
  tasks : List FlushTask
  outboundInflight : OutboundInflightMap
  /-- The frames of the proxy that the client has received. -/
  inbound : List ConnectorFrame
  pendingReceiptNotifications : List PendingReceiptNotification
  /-- The notifications that each flush of this queue is posting. -/
  forwarding : List (List PendingReceiptNotification)
  /-- The frames that were handed over, which no code reads. -/
  handed : List Handed
  /-- The acknowledgements that were handled, which no code reads. -/
  handled : List Handled
  /-- The receipts that were queued for a rejection, which no code reads. -/
  produced : List ReceiptFrame

def Runtime.empty : Runtime := ⟨.empty, [], ∅, [], [], [], [], [], []⟩

/-- The ids of the frames that these frames acknowledge. -/
def ackIds (frames : List ConnectorFrame) : List RString :=
  frames.filterMap fun frame =>
    match frame with
    | .enqueueAck ack => some ack.ackId
    | _ => none

/-- The frame of the message has been written to the socket. -/
def isWritten (written : List ConnectorFrame) (frameId : RString) : Bool :=
  written.any fun frame =>
    match frame with
    | .enqueue frame => decide (frame.id = frameId)
    | _ => false

/-- `handle_enqueue_ack`. Without an entry in the map the receipt is dropped. -/
def handleEnqueueAck (st : Runtime) (ack : AckFrame) (env : FrameEnv) : Runtime :=
  let room := hasRoom st.pendingReceiptNotifications env.nowMs
  let taken := { st with
    outboundInflight := st.outboundInflight.erase ack.ackId
    handled := st.handled ++ [⟨ack, room⟩] }
  if ack.accepted then taken
  else
    match st.outboundInflight.lookup ack.ackId with
    | none => taken
    | some toAgentDid =>
        let receipt := buildEnqueueRejectedReceipt ack.ackId toAgentDid
          (ack.reason.getD (rs "unknown")) env
        { taken with
          pendingReceiptNotifications := enqueuePendingReceiptNotification
            st.pendingReceiptNotifications (.new receipt env.createdAtMs) env.nowMs
          produced := if room then st.produced ++ [receipt] else st.produced }

/-- `handle_connector_frame`, of the frames that lead to a notification. -/
def handleConnectorFrame (st : Runtime) (frame : ConnectorFrame) (env : FrameEnv) : Runtime :=
  match frame with
  | .receipt receipt => { st with
      pendingReceiptNotifications := enqueuePendingReceiptNotification
        st.pendingReceiptNotifications (.new receipt env.createdAtMs) env.nowMs }
  | .enqueueAck ack => handleEnqueueAck st ack env
  | _ => st

inductive Event
  /-- The queue and the client go on. -/
  | relay (e : OutboundRelay.Event)
  | startFlush (task : FlushTask)
  | resumeFlush (i : ℕ) (env : OutboundRelay.Env)
  /-- The client receives the answer of the proxy to a frame that was written. -/
  | answer (ack : AckFrame)
  /-- The client receives a receipt. -/
  | receiveReceipt (receipt : ReceiptFrame)
  | handleFrame (env : FrameEnv)
  | takeDue (nowMs : ℤ)
  | requeue (i : ℕ) (failedAtMs : PendingReceiptNotification → Option ℤ)

section Code
variable (crates : Crates) (policy : OutboundRetryPolicy)

/-- The runtime after a piece of a flush, with what its observer does. -/
def afterFlush (st : Runtime) (task : FlushTask) (before after : Flush) (connector : Connector) :
    Runtime :=
  match observation st.connector.client before after with
  | none => { st with connector }
  | some (sent, observed) => { st with
      connector
      outboundInflight :=
        if task.observes then observeSend st.outboundInflight sent observed
        else st.outboundInflight
      handed := if observed = .sent then st.handed ++ [⟨sent, task⟩] else st.handed }

def step (st : Runtime) : Event → Option Runtime
  | .relay e =>
      match e with
      | .startFlush _ => none
      | .resumeFlush _ _ => none
      | e => (OutboundRelay.step crates policy st.connector e).map fun connector =>
          { st with connector }
  | .startFlush task => some { st with
      connector := { st.connector with
        flushes := st.connector.flushes ++ [.next task.maxItems] }
      tasks := st.tasks ++ [task] }
  | .resumeFlush i env =>
      st.tasks[i]?.bind fun task =>
        st.connector.flushes[i]?.bind fun flush =>
          (OutboundRelay.resumeFlush crates policy st.connector flush env).map fun r =>
            afterFlush st task flush r.2 { r.1 with flushes := r.1.flushes.set i r.2 }
  | .answer ack =>
      if isWritten st.connector.written ack.ackId ∧
          ack.ackId ∉ st.handled.map (fun x => x.ack.ackId) ++ ackIds st.inbound then
        some { st with inbound := st.inbound ++ [.enqueueAck ack] }
      else none
  | .receiveReceipt receipt => some { st with inbound := st.inbound ++ [.receipt receipt] }
  | .handleFrame env =>
      match st.inbound with
      | [] => none
      | frame :: inbound => some (handleConnectorFrame { st with inbound } frame env)
  | .takeDue nowMs =>
      let (due, future) := takeDueNotifications st.pendingReceiptNotifications nowMs
      some { st with pendingReceiptNotifications := future, forwarding := st.forwarding ++ [due] }
  | .requeue i failedAtMs =>
      st.forwarding[i]?.map fun due => { st with
        pendingReceiptNotifications :=
          requeueNotifications st.pendingReceiptNotifications due failedAtMs
        forwarding := st.forwarding.set i [] }

end Code

/-! ## Rejections and receipts -/

/-- The receipts of a message. -/
def receiptsFor (produced : List ReceiptFrame) (frameId : RString) : List ReceiptFrame :=
  produced.filter fun receipt => receipt.originalFrameId = frameId

/-- One receipt has been queued for the message, which says that it is dead and to whom it was
sent. -/
def NotifiedOnce (st : Runtime) (frameId : RString) : Prop :=
  ∃ receipt, receiptsFor st.produced frameId = [receipt] ∧ receipt.status = .deadLettered ∧
    ∃ m ∈ st.connector.accepted, m.frameId = frameId ∧ m.toAgentDid = receipt.toAgentDid

/-- The frame was handed over by the periodic flush. -/
def Observed (st : Runtime) (frameId : RString) : Prop :=
  ∃ h ∈ st.handed, h.message.frameId = frameId ∧ h.task.observes = true

/-- `Ulid::new`: the id of a message is none of an earlier one. -/
def FreshIds (st : Runtime) : Event → Prop
  | .relay (.enqueue input _) =>
      ∀ m ∈ st.connector.accepted, m.frameId ≠ trim input.value.frameId
  | _ => True

instance (st : Runtime) : (e : Event) → Decidable (FreshIds st e)
  | .relay (.enqueue _ _) =>
      inferInstanceAs (Decidable (∀ m ∈ st.connector.accepted, m.frameId ≠ _))
  | .relay (.startFlush _) => inferInstanceAs (Decidable True)
  | .relay (.resumeFlush _ _) => inferInstanceAs (Decidable True)
  | .relay (.sendFrame _) => inferInstanceAs (Decidable True)
  | .relay .connect => inferInstanceAs (Decidable True)
  | .relay .receive => inferInstanceAs (Decidable True)
  | .relay (.write _) => inferInstanceAs (Decidable True)
  | .relay .disconnect => inferInstanceAs (Decidable True)
  | .relay .shutdown => inferInstanceAs (Decidable True)
  | .startFlush _ => inferInstanceAs (Decidable True)
  | .resumeFlush _ _ => inferInstanceAs (Decidable True)
  | .answer _ => inferInstanceAs (Decidable True)
  | .receiveReceipt _ => inferInstanceAs (Decidable True)
  | .handleFrame _ => inferInstanceAs (Decidable True)
  | .takeDue _ => inferInstanceAs (Decidable True)
  | .requeue _ _ => inferInstanceAs (Decidable True)

/-- The frame is a rejection. -/
def isRejection : ConnectorFrame → Bool
  | .enqueueAck ack => !ack.accepted
  | _ => false

/-- **The condition on a step.** A flush that hands a frame over has the observer, and the queue
of notifications has room for the receipt of a rejection. -/
def StepNotifies (st : Runtime) : Event → Prop
  | .resumeFlush i _ =>
      st.connector.client ≠ .stopped →
        ∀ flush ∈ st.connector.flushes[i]?, (sendingMessage flush).isSome = true →
          ∀ task ∈ st.tasks[i]?, task.observes = true
  | .handleFrame env =>
      ∀ frame ∈ st.inbound.head?, isRejection frame = true →
        hasRoom st.pendingReceiptNotifications env.nowMs = true
  | _ => True

instance (st : Runtime) : (e : Event) → Decidable (StepNotifies st e)
  | .resumeFlush i _ => inferInstanceAs
      (Decidable (_ → ∀ flush ∈ st.connector.flushes[i]?, _ → ∀ task ∈ st.tasks[i]?, _))
  | .handleFrame _ => inferInstanceAs (Decidable (∀ frame ∈ st.inbound.head?, _ → _))
  | .relay _ => inferInstanceAs (Decidable True)
  | .startFlush _ => inferInstanceAs (Decidable True)
  | .answer _ => inferInstanceAs (Decidable True)
  | .receiveReceipt _ => inferInstanceAs (Decidable True)
  | .takeDue _ => inferInstanceAs (Decidable True)
  | .requeue _ _ => inferInstanceAs (Decidable True)

/-! ## What a piece of a flush does -/

/-- **A piece of a flush**, whatever the statements do. -/
inductive Piece (st : Connector) : Flush → Connector → Flush → Prop
  /-- No frame is sent; a row may have been taken for that. -/
  | ended {maxItems : ℕ} {outboundQueue : Queue}
      {outboundDeadLetter : List OutboundRelay.OutboundDeadLetterItem} {after : Flush}
      (hqueue : outboundQueue.Sublist st.outboundQueue) (hafter : sendingMessage after = none) :
      Piece st (.next maxItems) { st with outboundQueue, outboundDeadLetter } after
  | taken {row : Tracked OutboundQueueItem} {nowMs : ℤ} {frame : EnqueueFrame} {maxItems rest : ℕ}
      (hrow : row ∈ st.outboundQueue) (hframe : frame.id = row.value.frameId) :
      Piece st (.next maxItems)
        { st with outboundQueue := deleteRow row.value.frameId st.outboundQueue }
        (.sending row nowMs frame rest)
  /-- The client has stopped; the row may have gone back. -/
  | failed {row : Tracked OutboundQueueItem} {nowMs : ℤ} {frame : EnqueueFrame} {maxItems : ℕ}
      {back : Queue} {outboundDeadLetter : List OutboundRelay.OutboundDeadLetterItem}
      {after : Flush} (hstopped : st.client = .stopped)
      (hback : (back.map message).Sublist [message row]) (hafter : sendingMessage after = none) :
      Piece st (.sending row nowMs frame maxItems)
        { st with outboundQueue := st.outboundQueue ++ back, outboundDeadLetter } after
  | sent {row : Tracked OutboundQueueItem} {nowMs : ℤ} {frame : EnqueueFrame} {maxItems : ℕ}
      (hrunning : st.client ≠ .stopped) :
      Piece st (.sending row nowMs frame maxItems)
        { st with channel := st.channel ++ [.enqueue frame] } (.next maxItems)

section
variable {crates : Crates} {policy : OutboundRetryPolicy} {st : Connector}
  {row : Tracked OutboundQueueItem} {env : OutboundRelay.Env}

theorem flushRow_piece {maxItems rest : ℕ} (hrow : row ∈ st.outboundQueue) :
    let r := OutboundRelay.flushRow crates policy
      { st with outboundQueue := deleteRow row.value.frameId st.outboundQueue } row rest env
    Piece st (.next maxItems) r.1 r.2 := by
  have hqueue : (deleteRow row.value.frameId st.outboundQueue).Sublist st.outboundQueue :=
    List.filter_sublist
  unfold OutboundRelay.flushRow
  split
  · split
    · exact .ended hqueue rfl
    · exact .ended hqueue rfl
  · split
    · split
      · exact .ended hqueue rfl
      · exact .ended hqueue rfl
    · exact .taken hrow rfl

theorem resumeNext_piece (maxItems : ℕ) :
    let r := OutboundRelay.resumeNext crates policy st maxItems env
    Piece st (.next maxItems) r.1 r.2 := by
  have hidle : Piece st (.next maxItems) st .done :=
    .ended (List.Sublist.refl _) rfl
  cases maxItems with
  | zero => exact hidle
  | succ rest =>
      cases hconnected : st.client.isConnected with
      | false =>
          simp only [OutboundRelay.resumeNext, hconnected]
          exact hidle
      | true =>
          rcases OutboundRelay.takeDueOutbound_cases rest env hconnected with
            ⟨_, htake⟩ | ⟨row, _, hrow, htake⟩
          · simp only [OutboundRelay.resumeNext, hconnected]
            split
            · exact hidle
            · exact hidle
            · rename_i found _ hfound
              exact absurd hfound (htake _)
          · simp only [OutboundRelay.resumeNext, hconnected, htake]
            exact flushRow_piece hrow

theorem resumeSending_piece {nowMs : ℤ} {frame : EnqueueFrame} {maxItems : ℕ}
    {r : Connector × Flush}
    (h : OutboundRelay.resumeSending policy st row nowMs frame maxItems env = some r) :
    Piece st (.sending row nowMs frame maxItems) r.1 r.2 := by
  unfold OutboundRelay.resumeSending at h
  split at h
  · rename_i hstopped
    have hdropped : ∀ outboundDeadLetter after, sendingMessage after = none →
        Piece st (.sending row nowMs frame maxItems) { st with outboundDeadLetter } after := by
      intro outboundDeadLetter after hafter
      have hpiece : Piece st (.sending row nowMs frame maxItems)
          { st with outboundQueue := st.outboundQueue ++ [], outboundDeadLetter } after :=
        .failed hstopped (List.nil_sublist _) hafter
      rwa [List.append_nil] at hpiece
    split at h
    · split at h
      · cases h
        exact hdropped _ _ rfl
      · cases h
        exact hdropped st.outboundDeadLetter _ rfl
    · split at h
      · rename_i queue hqueue
        cases h
        obtain ⟨rfl, _⟩ := Outbound.insertRow_spec hqueue
        exact .failed hstopped
          (List.Sublist.refl _) rfl
      · cases h
        exact hdropped st.outboundDeadLetter _ rfl
  · rename_i hrunning
    split at h
    · cases h
      exact .sent hrunning
    · cases h

theorem resumeFlush_piece {flush : Flush} {r : Connector × Flush}
    (h : OutboundRelay.resumeFlush crates policy st flush env = some r) :
    Piece st flush r.1 r.2 := by
  cases flush with
  | next maxItems =>
      cases h
      exact resumeNext_piece maxItems
  | sending row nowMs frame maxItems => exact resumeSending_piece h
  | done => cases h

end

/-! ### What the observer is told -/

section
variable {st : Runtime} {task : FlushTask} {before after : Flush} {connector : Connector}
  {m : Message}

theorem afterFlush_ended (hbefore : sendingMessage before = none)
    (hafter : sendingMessage after = none) :
    afterFlush st task before after connector = { st with connector } := by
  simp [afterFlush, observation, hbefore, hafter]

theorem afterFlush_taken (hbefore : sendingMessage before = none)
    (hafter : sendingMessage after = some m) :
    afterFlush st task before after connector = { st with
      connector
      outboundInflight :=
        if task.observes then st.outboundInflight.insert m.frameId m.toAgentDid
        else st.outboundInflight } := by
  simp [afterFlush, observation, observeSend, hbefore, hafter]

theorem afterFlush_failed (hbefore : sendingMessage before = some m)
    (hstopped : st.connector.client = .stopped) :
    afterFlush st task before after connector = { st with
      connector
      outboundInflight :=
        if task.observes then st.outboundInflight.erase m.frameId else st.outboundInflight } := by
  simp [afterFlush, observation, observeSend, hbefore, hstopped]

theorem afterFlush_sent (hbefore : sendingMessage before = some m)
    (hrunning : st.connector.client ≠ .stopped) :
    afterFlush st task before after connector = { st with
      connector
      handed := st.handed ++ [⟨m, task⟩] } := by
  simp [afterFlush, observation, observeSend, hbefore, hrunning]

end

/-! ## Who holds a message -/

/-- What a flush holds, and whether its observer has been told. -/
def flushHolds (piece : Flush × FlushTask) : Option (Message × Bool) :=
  (sendingMessage piece.1).map fun m => (m, piece.2.observes)

def queueHolders (queue : Queue) : List (Message × Bool) :=
  queue.map fun row => (message row, false)

def clientHolders (handed : List Handed) : List (Message × Bool) :=
  handed.map fun h => (h.message, h.task.observes)

/-- The messages in the queue, those that flushes are sending, and those whose frames were handed
over; and whether an observer has been told. -/
def holders (st : Runtime) : List (Message × Bool) :=
  queueHolders st.connector.outboundQueue ++
    ((st.connector.flushes.zip st.tasks).filterMap flushHolds ++ clientHolders st.handed)

def holderId (x : Message × Bool) : RString := x.1.frameId

/-- The frame is in the channel, in the hands of the client, or written. -/
def InRelay (st : Connector) (frame : EnqueueFrame) : Prop :=
  .enqueue frame ∈ st.channel ∨ .enqueue frame ∈ st.client.writing ∨ .enqueue frame ∈ st.written

def handledIds (st : Runtime) : List RString := st.handled.map fun x => x.ack.ackId

/-- The receipts of a handled acknowledgement. -/
def ReceiptsOk (st : Runtime) (x : Handled) : Prop :=
  (x.ack.accepted = false ∧ Observed st x.ack.ackId ∧ x.room = true →
    NotifiedOnce st x.ack.ackId) ∧
  (¬(x.ack.accepted = false ∧ Observed st x.ack.ackId ∧ x.room = true) →
    receiptsFor st.produced x.ack.ackId = [])

/-- **The invariant.** A message is in one place, an observed message is in the map until its
acknowledgement has been handled, and an acknowledgement is one of a frame that was handed over. -/
structure Inv (st : Runtime) : Prop where
  tasks : st.connector.flushes.length = st.tasks.length
  distinct : Distinct holderId (holders st)
  accepted : ∀ x ∈ holders st, x.1 ∈ st.connector.accepted
  lookup : ∀ x ∈ holders st, x.1.frameId ∉ handledIds st →
    st.outboundInflight.lookup x.1.frameId = if x.2 then some x.1.toAgentDid else none
  known : ∀ id did, st.outboundInflight.lookup id = some did →
    ∃ m ∈ st.connector.accepted, m.frameId = id
  frames : ∀ row nowMs frame maxItems, .sending row nowMs frame maxItems ∈ st.connector.flushes →
    frame.id = row.value.frameId
  relay : ∀ frame, InRelay st.connector frame → ∃ h ∈ st.handed, h.message.frameId = frame.id
  acks : (handledIds st ++ ackIds st.inbound).Nodup
  answered : ∀ id ∈ handledIds st ++ ackIds st.inbound, ∃ h ∈ st.handed, h.message.frameId = id
  receipts : ∀ x ∈ st.handled, ReceiptsOk st x
  unhandled : ∀ id, id ∉ handledIds st → receiptsFor st.produced id = []

theorem inv_empty : Inv .empty where
  tasks := rfl
  distinct := List.nodup_nil
  accepted := by
    intro x hx
    cases hx
  lookup := by
    intro x hx
    cases hx
  known := by
    intro id did h
    cases h
  frames := by
    intro row nowMs frame maxItems h
    cases h
  relay := by
    intro frame h
    simp [InRelay, Runtime.empty, Connector.empty, Client.writing] at h
  acks := List.nodup_nil
  answered := by
    intro id h
    cases h
  receipts := by
    intro x hx
    cases hx
  unhandled _ _ := rfl

section
variable {st st' : Runtime} {m : Message} {b : Bool}

theorem mem_holders {x : Message × Bool} :
    x ∈ holders st ↔ (∃ row ∈ st.connector.outboundQueue, (message row, false) = x) ∨
      (∃ piece ∈ st.connector.flushes.zip st.tasks, flushHolds piece = some x) ∨
        ∃ h ∈ st.handed, (h.message, h.task.observes) = x := by
  simp only [holders, queueHolders, clientHolders, List.mem_append, List.mem_map,
    List.mem_filterMap]

theorem handed_mem_holders {h : Handed} (hmem : h ∈ st.handed) :
    (h.message, h.task.observes) ∈ holders st :=
  mem_holders.mpr (.inr (.inr ⟨h, hmem, rfl⟩))

/-- Where a frame that was handed over is observed, no other with its id is not. -/
theorem observed_iff (hinv : Inv st) {h : Handed} (hmem : h ∈ st.handed) :
    Observed st h.message.frameId ↔ h.task.observes = true := by
  constructor
  · intro ⟨h', hmem', hid, hobserves⟩
    have heq := hinv.distinct.eq (handed_mem_holders hmem') (handed_mem_holders hmem) hid
    rw [← (Prod.mk.inj heq).2]
    exact hobserves
  · intro hobserves
    exact ⟨h, hmem, rfl, hobserves⟩

theorem ReceiptsOk.mono {x : Handled} (h : ReceiptsOk st x) (hproduced : st'.produced = st.produced)
    (haccepted : st.connector.accepted ⊆ st'.connector.accepted)
    (hobserved : Observed st' x.ack.ackId ↔ Observed st x.ack.ackId) : ReceiptsOk st' x := by
  obtain ⟨hnotified, hsilent⟩ := h
  rw [ReceiptsOk, hobserved, hproduced]
  refine ⟨?_, hsilent⟩
  intro hcond
  obtain ⟨receipt, heq, hstatus, m, hm, hfields⟩ := hnotified hcond
  refine ⟨receipt, ?_, hstatus, m, haccepted hm, hfields⟩
  rw [hproduced]
  exact heq

/-- The invariant after a step that handles no frame of the proxy. -/
theorem Inv.goOn (h : Inv st) {connector : Connector} {tasks : List FlushTask}
    {outboundInflight : OutboundInflightMap} {handed : List Handed}
    (htasks : connector.flushes.length = tasks.length)
    (haccepted : st.connector.accepted ⊆ connector.accepted)
    (hdistinct : Distinct holderId (holders { st with connector, tasks, outboundInflight, handed }))
    (hholders : ∀ x ∈ holders { st with connector, tasks, outboundInflight, handed },
      x.1 ∈ connector.accepted ∧ (x.1.frameId ∉ handledIds st →
        outboundInflight.lookup x.1.frameId = if x.2 then some x.1.toAgentDid else none))
    (hknown : ∀ id did, outboundInflight.lookup id = some did →
      ∃ m ∈ connector.accepted, m.frameId = id)
    (hframes : ∀ row nowMs frame maxItems, .sending row nowMs frame maxItems ∈ connector.flushes →
      frame.id = row.value.frameId)
    (hrelay : ∀ frame, InRelay connector frame → ∃ h ∈ handed, h.message.frameId = frame.id)
    (hhanded : st.handed ⊆ handed)
    (hobserved : ∀ h ∈ handed, h ∉ st.handed → h.message.frameId ∉ handledIds st) :
    Inv { st with connector, tasks, outboundInflight, handed } where
  tasks := htasks
  distinct := hdistinct
  accepted x hx := (hholders x hx).1
  lookup x hx := (hholders x hx).2
  known := hknown
  frames := hframes
  relay := hrelay
  acks := h.acks
  answered id hid := by
    obtain ⟨handing, hmem, heq⟩ := h.answered id hid
    exact ⟨handing, hhanded hmem, heq⟩
  receipts x hx := by
    refine (h.receipts x hx).mono rfl haccepted ⟨?_, ?_⟩
    · intro ⟨handing, hmem, heq, hobserves⟩
      by_cases hold : handing ∈ st.handed
      · exact ⟨handing, hold, heq, hobserves⟩
      · refine absurd ?_ (hobserved handing hmem hold)
        rw [heq]
        exact List.mem_map.mpr ⟨x, hx, rfl⟩
    · intro ⟨handing, hmem, heq, hobserves⟩
      exact ⟨handing, hhanded hmem, heq, hobserves⟩
  unhandled := h.unhandled

/-- The invariant where nothing but the holders, which become fewer, and the relay change. -/
theorem Inv.release (h : Inv st) {connector : Connector} {tasks : List FlushTask}
    (htasks : connector.flushes.length = tasks.length)
    (haccepted : connector.accepted = st.connector.accepted)
    (hholders : (holders { st with connector, tasks }).Subperm (holders st))
    (hframes : ∀ row nowMs frame maxItems, .sending row nowMs frame maxItems ∈ connector.flushes →
      frame.id = row.value.frameId)
    (hrelay : ∀ frame, InRelay connector frame → InRelay st.connector frame) :
    Inv { st with connector, tasks } := by
  refine h.goOn htasks (by rw [haccepted]; exact List.Subset.refl _) (h.distinct.subperm hholders) ?_ ?_
    hframes (fun frame hframe => h.relay frame (hrelay frame hframe)) (List.Subset.refl _)
    (fun _ hmem hnew => absurd hmem hnew)
  · intro x hx
    rw [haccepted]
    exact ⟨h.accepted x (hholders.subset hx), h.lookup x (hholders.subset hx)⟩
  · rw [haccepted]
    exact h.known

/-- **The invariant when a message is handed on.** -/
theorem Inv.handOn (h : Inv st) (b' : Bool) {connector : Connector} {outboundInflight : OutboundInflightMap}
    {handed : List Handed} {rest : List (Message × Bool)}
    (htasks : connector.flushes.length = st.connector.flushes.length)
    (haccepted : connector.accepted = st.connector.accepted)
    (hbefore : (holders st).Perm ((m, b) :: rest))
    (hafter : (holders { st with connector, outboundInflight, handed }).Subperm ((m, b') :: rest))
    (hother : ∀ id, id ≠ m.frameId →
      outboundInflight.lookup id = st.outboundInflight.lookup id)
    (hown : m.frameId ∉ handledIds st →
      outboundInflight.lookup m.frameId = if b' then some m.toAgentDid else none)
    (hframes : ∀ row nowMs frame maxItems, .sending row nowMs frame maxItems ∈ connector.flushes →
      frame.id = row.value.frameId)
    (hrelay : ∀ frame, InRelay connector frame → ∃ h ∈ handed, h.message.frameId = frame.id)
    (hhanded : st.handed ⊆ handed)
    (hobserved : ∀ h ∈ handed, h ∉ st.handed → h.message.frameId ∉ handledIds st) :
    Inv { st with connector, outboundInflight, handed } := by
  obtain ⟨hdistinct, hheld⟩ := h.distinct.replace hbefore hafter rfl
  have hm : m ∈ st.connector.accepted :=
    h.accepted (m, b) (hbefore.mem_iff.mpr List.mem_cons_self)
  refine h.goOn (htasks.trans h.tasks) (by rw [haccepted]; exact List.Subset.refl _) hdistinct ?_ ?_ hframes
    hrelay hhanded hobserved
  · intro x hx
    rw [haccepted]
    rcases hheld x hx with rfl | ⟨hold, hne⟩
    · exact ⟨hm, hown⟩
    · refine ⟨h.accepted x hold, ?_⟩
      intro hunhandled
      rw [hother x.1.frameId hne]
      exact h.lookup x hold hunhandled
  · intro id did hlookup
    rw [haccepted]
    by_cases hid : id = m.frameId
    · exact ⟨m, hm, hid.symm⟩
    · rw [hother id hid] at hlookup
      exact h.known id did hlookup

/-! ### Pieces of a flush -/

/-- What one flush holds, and what everybody else does. -/
theorem exists_perm_holders {i : ℕ} {flush : Flush} {task : FlushTask}
    (hflush : st.connector.flushes[i]? = some flush) (htask : st.tasks[i]? = some task) :
    ∃ others, (holders st).Perm ((flushHolds (flush, task)).toList ++
        (queueHolders st.connector.outboundQueue ++ (others ++ clientHolders st.handed))) ∧
      ∀ (connector : Connector) (outboundInflight : OutboundInflightMap) (handed : List Handed)
        (after : Flush), connector.flushes = st.connector.flushes.set i after →
        (holders { st with connector, outboundInflight, handed }).Perm
          ((flushHolds (after, task)).toList ++
            (queueHolders connector.outboundQueue ++ (others ++ clientHolders handed))) := by
  obtain ⟨others, hbefore, hafter⟩ := exists_others hflush htask
  -- the holding of the flush comes before those of the queue
  have hfirst : ∀ (queue client : List (Message × Bool)) (piece : Flush × FlushTask)
      (pieces : List (Flush × FlushTask)), pieces.Perm (piece :: others) →
      (queue ++ (pieces.filterMap flushHolds ++ client)).Perm
        ((flushHolds piece).toList ++ (queue ++ (others.filterMap flushHolds ++ client))) := by
    intro queue client piece pieces hperm
    have hmap : (pieces.filterMap flushHolds).Perm
        ((flushHolds piece).toList ++ others.filterMap flushHolds) := by
      have hfilter := hperm.filterMap flushHolds
      rw [List.filterMap_cons] at hfilter
      cases hholds : flushHolds piece with
      | none =>
          rw [hholds] at hfilter
          exact hfilter
      | some x =>
          rw [hholds] at hfilter
          exact hfilter
    have happend := (hmap.append_right client).append_left queue
    rw [List.append_assoc] at happend
    exact happend.trans (List.perm_append_comm_assoc _ _ _)
  refine ⟨others.filterMap flushHolds, hfirst _ _ _ _ hbefore, ?_⟩
  intro connector outboundInflight handed after hflushes
  refine hfirst _ _ _ _ ?_
  rw [hflushes]
  exact hafter after

theorem queueHolders_deleteRow {queue : Queue} {row : Tracked OutboundQueueItem}
    (hrow : row ∈ queue) : ∃ others, (queueHolders queue).Perm ((message row, false) :: others) ∧
      (queueHolders (deleteRow row.value.frameId queue)).Subperm others := by
  have hperm := List.perm_cons_erase hrow
  refine ⟨queueHolders (queue.erase row), hperm.map _, ?_⟩
  have hdelete : (deleteRow row.value.frameId queue).Perm
      (deleteRow row.value.frameId (row :: queue.erase row)) := hperm.filter _
  rw [deleteRow, deleteRow, List.filter_cons_of_neg (by simp)] at hdelete
  refine (hdelete.map _).subperm.trans ?_
  exact (List.filter_sublist.map _).subperm

/-- The frames in hand after a flush has gone on. -/
theorem Inv.frames_set (h : Inv st) {i : ℕ} {after : Flush}
    (hnew : ∀ row nowMs frame maxItems, after = .sending row nowMs frame maxItems →
      frame.id = row.value.frameId) :
    ∀ row nowMs frame maxItems,
      .sending row nowMs frame maxItems ∈ st.connector.flushes.set i after →
        frame.id = row.value.frameId := by
  intro row nowMs frame maxItems hmem
  rcases List.mem_or_eq_of_mem_set hmem with hold | heq
  · exact h.frames row nowMs frame maxItems hold
  · exact hnew row nowMs frame maxItems heq.symm

section Flush
variable {i : ℕ} {task : FlushTask} (h : Inv st) (htask : st.tasks[i]? = some task)

include h htask

theorem Inv.ended {maxItems : ℕ} {outboundQueue : Queue}
    {outboundDeadLetter : List OutboundRelay.OutboundDeadLetterItem} {after : Flush}
    (hflush : st.connector.flushes[i]? = some (.next maxItems))
    (hqueue : outboundQueue.Sublist st.connector.outboundQueue)
    (hafter : sendingMessage after = none) :
    Inv (afterFlush st task (.next maxItems) after { st.connector with
      outboundQueue, outboundDeadLetter, flushes := st.connector.flushes.set i after }) := by
  rw [afterFlush_ended rfl hafter]
  obtain ⟨others, hbefore, hheld⟩ := exists_perm_holders hflush htask
  have hheld := hheld { st.connector with
      outboundQueue, outboundDeadLetter, flushes := st.connector.flushes.set i after }
    st.outboundInflight st.handed after rfl
  have hnone : flushHolds (after, task) = none := by simp [flushHolds, hafter]
  rw [hnone] at hheld
  refine h.release ?_ rfl ?_ (h.frames_set ?_) (fun _ => id)
  · rw [List.length_set]
    exact h.tasks
  · refine hheld.subperm.trans (List.Subperm.trans ?_ hbefore.symm.subperm)
    exact ((hqueue.map _).append_right _).subperm
  · intro row nowMs frame rest heq
    rw [heq] at hafter
    cases hafter

theorem Inv.taken {row : Tracked OutboundQueueItem} {nowMs : ℤ} {frame : EnqueueFrame}
    {maxItems rest : ℕ} (hflush : st.connector.flushes[i]? = some (.next maxItems))
    (hrow : row ∈ st.connector.outboundQueue) (hframe : frame.id = row.value.frameId) :
    Inv (afterFlush st task (.next maxItems) (.sending row nowMs frame rest) { st.connector with
      outboundQueue := deleteRow row.value.frameId st.connector.outboundQueue
      flushes := st.connector.flushes.set i (.sending row nowMs frame rest) }) := by
  obtain ⟨others, hbefore, hheld⟩ := exists_perm_holders hflush htask
  obtain ⟨rows, hqueue, hrows⟩ := queueHolders_deleteRow hrow
  rw [afterFlush_taken rfl (show sendingMessage (.sending row nowMs frame rest) = _ from rfl)]
  have hbefore : (holders st).Perm
      ((message row, false) :: (rows ++ (others ++ clientHolders st.handed))) :=
    hbefore.trans (hqueue.append_right _)
  refine h.handOn task.observes List.length_set rfl hbefore ?_ ?_ ?_ (h.frames_set ?_) h.relay
    (List.Subset.refl _) (fun _ hmem hnew => absurd hmem hnew)
  · refine (hheld _ _ _ (.sending row nowMs frame rest) rfl).subperm.trans ?_
    exact List.subperm_cons _ |>.mpr (hrows.append (List.Subperm.refl _))
  · intro id hid
    split
    · exact AList.lookup_insert_ne hid
    · rfl
  · intro hunhandled
    cases hobserves : task.observes with
    | true => exact AList.lookup_insert _
    | false =>
        have hmem : (message row, false) ∈ holders st :=
          mem_holders.mpr (.inl ⟨row, hrow, rfl⟩)
        exact h.lookup _ hmem hunhandled
  · intro row' nowMs' frame' rest' heq
    cases heq
    exact hframe

theorem Inv.failed {row : Tracked OutboundQueueItem} {nowMs : ℤ} {frame : EnqueueFrame}
    {maxItems : ℕ} {back : Queue}
    {outboundDeadLetter : List OutboundRelay.OutboundDeadLetterItem} {after : Flush}
    (hflush : st.connector.flushes[i]? = some (.sending row nowMs frame maxItems))
    (hstopped : st.connector.client = .stopped)
    (hback : (back.map message).Sublist [message row]) (hafter : sendingMessage after = none) :
    Inv (afterFlush st task (.sending row nowMs frame maxItems) after { st.connector with
      outboundQueue := st.connector.outboundQueue ++ back, outboundDeadLetter,
      flushes := st.connector.flushes.set i after }) := by
  obtain ⟨others, hbefore, hheld⟩ := exists_perm_holders hflush htask
  have hheld := fun connector outboundInflight hflushes =>
    hheld connector outboundInflight st.handed after hflushes
  have hnone : flushHolds (after, task) = none := by simp [flushHolds, hafter]
  rw [hnone] at hheld
  rw [afterFlush_failed (show sendingMessage (.sending row nowMs frame maxItems) = _ from rfl)
    hstopped]
  have hsending : (holders st).Perm ((message row, task.observes) ::
      (queueHolders st.connector.outboundQueue ++ (others ++ clientHolders st.handed))) := hbefore
  refine h.handOn false List.length_set rfl hsending ?_ ?_ ?_ (h.frames_set ?_) h.relay
    (List.Subset.refl _) (fun _ hmem hnew => absurd hmem hnew)
  · refine (hheld _ _ rfl).subperm.trans ?_
    have hheldBack : (queueHolders back).Sublist [(message row, false)] := by
      have hmap := hback.map fun m => (m, false)
      rwa [List.map_map] at hmap
    have hall := ((hheldBack.append_left (queueHolders st.connector.outboundQueue)).append_right
      (others ++ clientHolders st.handed)).subperm
    refine List.Subperm.trans ?_ (hall.trans (List.Perm.subperm ?_))
    · exact (List.Perm.of_eq (by simp [queueHolders])).subperm
    · rw [List.append_assoc, List.singleton_append]
      exact List.perm_middle
  · intro id hid
    split
    · exact AList.lookup_erase_ne hid
    · rfl
  · intro hunhandled
    cases hobserves : task.observes with
    | true => exact AList.lookup_erase _ _
    | false =>
        have hmem : (message row, task.observes) ∈ holders st :=
          hbefore.mem_iff.mpr List.mem_cons_self
        have hlookup := h.lookup _ hmem hunhandled
        rw [hobserves] at hlookup
        exact hlookup
  · intro row' nowMs' frame' rest' heq
    rw [heq] at hafter
    cases hafter

theorem Inv.sent {row : Tracked OutboundQueueItem} {nowMs : ℤ} {frame : EnqueueFrame}
    {maxItems : ℕ} (hflush : st.connector.flushes[i]? = some (.sending row nowMs frame maxItems))
    (hrunning : st.connector.client ≠ .stopped) :
    Inv (afterFlush st task (.sending row nowMs frame maxItems) (.next maxItems) { st.connector with
      channel := st.connector.channel ++ [.enqueue frame]
      flushes := st.connector.flushes.set i (.next maxItems) }) := by
  obtain ⟨others, hbefore, hheld⟩ := exists_perm_holders hflush htask
  have hframe := h.frames row nowMs frame maxItems (List.mem_of_getElem? hflush)
  have hmem : (message row, task.observes) ∈ holders st := hbefore.mem_iff.mpr List.mem_cons_self
  rw [afterFlush_sent (show sendingMessage (.sending row nowMs frame maxItems) = _ from rfl)
    hrunning]
  have hsending : (holders st).Perm ((message row, task.observes) ::
      (queueHolders st.connector.outboundQueue ++ (others ++ clientHolders st.handed))) := hbefore
  refine h.handOn task.observes List.length_set rfl hsending ?_ (fun _ _ => rfl)
    (h.lookup _ hmem) (h.frames_set (fun _ _ _ _ heq => by cases heq)) ?_
    (List.subset_append_left _ _) ?_
  · refine ((hheld _ _ _ (.next maxItems) rfl).trans ?_).subperm
    simp only [flushHolds, sendingMessage, Option.map_none, Option.toList_none, List.nil_append,
      clientHolders, List.map_append, List.map_cons, List.map_nil, ← List.append_assoc]
    exact List.perm_append_singleton _ _
  · intro other hother
    have hnew : InRelay st.connector other ∨ other = frame := by
      rcases hother with hchannel | hwriting | hwritten
      · rcases List.mem_append.mp hchannel with hold | hnew
        · exact .inl (.inl hold)
        · cases List.mem_singleton.mp hnew
          exact .inr rfl
      · exact .inl (.inr (.inl hwriting))
      · exact .inl (.inr (.inr hwritten))
    rcases hnew with hold | rfl
    · obtain ⟨handing, hhanding, heq⟩ := h.relay other hold
      exact ⟨handing, List.mem_append_left _ hhanding, heq⟩
    · exact ⟨⟨message row, task⟩, List.mem_append_right _ (List.mem_singleton_self _), hframe.symm⟩
  · -- an id that was handled is that of a frame that was handed over before
    intro handing hmem' hnew hhandled
    rcases List.mem_append.mp hmem' with hold | heq
    · exact hnew hold
    · rw [List.mem_singleton.mp heq] at hhandled
      obtain ⟨earlier, hearlier, hid⟩ := h.answered _ (List.mem_append_left _ hhandled)
      have hnodup := h.distinct.subperm hsending.symm.subperm
      refine (List.nodup_cons.mp hnodup).1 (List.mem_map.mpr
        ⟨(earlier.message, earlier.task.observes), ?_, hid⟩)
      refine List.mem_append_right _ (List.mem_append_right _ ?_)
      exact List.mem_map.mpr ⟨earlier, hearlier, rfl⟩

end Flush

/-! ### The queue and the client -/

/-- A step of the connector that leaves its flushes as they are, and hands nothing over. -/
structure Elsewhere (before after : Connector) : Prop where
  flushes : after.flushes = before.flushes
  queue : after.outboundQueue = before.outboundQueue
  accepted : after.accepted = before.accepted
  relay : ∀ frame, InRelay after frame → InRelay before frame

section
variable {crates : Crates} {policy : OutboundRetryPolicy} {before after : Connector}

theorem elsewhere_sendFrame {frame : ConnectorFrame}
    (h : OutboundRelay.step crates policy before (.sendFrame frame) = some after) :
    Elsewhere before after := by
  cases frame
  all_goals simp only [OutboundRelay.step, Option.ite_none_left_eq_some, Option.some.injEq,
    reduceCtorEq] at h
  all_goals
    obtain ⟨_, rfl⟩ := h
    refine ⟨rfl, rfl, rfl, ?_⟩
    intro other hother
    rcases hother with hchannel | hclient
    · rcases List.mem_append.mp hchannel with hold | hnew
      · exact .inl hold
      · cases List.mem_singleton.mp hnew
    · exact .inr hclient

theorem elsewhere_client {client : Client} {channel : List ConnectorFrame}
    (hclient : ∀ frame ∈ client.writing, frame ∈ before.channel ∨ frame ∈ before.client.writing)
    (hchannel : channel ⊆ before.channel) : Elsewhere before { before with client, channel } := by
  refine ⟨rfl, rfl, rfl, ?_⟩
  intro frame hframe
  rcases hframe with hinChannel | hwriting | hwritten
  · exact .inl (hchannel hinChannel)
  · rcases hclient _ hwriting with hold | hold
    · exact .inl hold
    · exact .inr (.inl hold)
  · exact .inr (.inr hwritten)

/-- A client that writes nothing. -/
theorem elsewhere_idle {client : Client} {channel : List ConnectorFrame}
    (hidle : client.writing = none) (hchannel : channel ⊆ before.channel) :
    Elsewhere before { before with client, channel } := by
  refine elsewhere_client ?_ hchannel
  intro frame hframe
  rw [hidle] at hframe
  cases hframe

theorem elsewhere_receive (h : OutboundRelay.receive crates before = some after) :
    Elsewhere before after := by
  unfold OutboundRelay.receive at h
  split at h
  · rename_i frame channel hclient hchannel
    have htail : channel ⊆ before.channel := by
      rw [hchannel]
      exact List.subset_cons_self frame channel
    split at h
    · cases h
      exact elsewhere_client (fun _ => .inr) htail
    · cases h
      refine elsewhere_client ?_ htail
      intro other hother
      rw [← Option.some.inj hother, hchannel]
      exact .inl List.mem_cons_self
  · cases h

theorem elsewhere_write {ok : Bool} (h : OutboundRelay.write before ok = some after) :
    Elsewhere before after := by
  unfold OutboundRelay.write at h
  split at h
  · rename_i frame hclient
    split at h
    · cases h
      refine ⟨rfl, rfl, rfl, ?_⟩
      intro other hother
      rcases hother with hchannel | hwriting | hwritten
      · exact .inl hchannel
      · cases hwriting
      · rcases List.mem_append.mp hwritten with hold | hnew
        · exact .inr (.inr hold)
        · refine .inr (.inl ?_)
          rw [hclient, List.mem_singleton.mp hnew]
          rfl
    · cases h
      exact elsewhere_idle rfl (List.Subset.refl _)
  · cases h

end

variable {crates : Crates} {policy : OutboundRetryPolicy}

theorem Inv.elsewhere (h : Inv st) {connector : Connector}
    (hstep : Elsewhere st.connector connector) : Inv { st with connector } := by
  refine h.release ?_ hstep.accepted ?_ ?_ hstep.relay
  · rw [hstep.flushes]
    exact h.tasks
  · simp only [holders, hstep.queue, hstep.flushes]
    exact List.Subperm.refl _
  · rw [hstep.flushes]
    exact h.frames

/-- A message whose id is new comes into the queue. -/
theorem Inv.enqueue (h : Inv st) {row : Tracked OutboundQueueItem}
    (hfresh : ∀ m ∈ st.connector.accepted, m.frameId ≠ row.value.frameId) :
    Inv { st with connector := { st.connector with
      outboundQueue := st.connector.outboundQueue ++ [row]
      accepted := st.connector.accepted ++ [message row] } } := by
  have hholders : (holders { st with connector := { st.connector with
      outboundQueue := st.connector.outboundQueue ++ [row]
      accepted := st.connector.accepted ++ [message row] } }).Perm
        ((message row, false) :: holders st) := by
    simp only [holders, queueHolders, List.map_append, List.map_cons, List.map_nil,
      List.append_assoc, List.singleton_append]
    exact List.perm_middle
  refine h.goOn h.tasks (List.subset_append_left _ _) ?_ ?_ ?_ h.frames h.relay
    (List.Subset.refl _) (fun _ hmem hnew => absurd hmem hnew)
  · refine Distinct.subperm (h.distinct.concat ?_) hholders.subperm
    intro x hx
    exact hfresh x.1 (h.accepted x hx)
  · intro x hx
    rcases List.mem_cons.mp (hholders.mem_iff.mp hx) with rfl | hold
    · refine ⟨List.mem_append_right _ (List.mem_singleton_self _), ?_⟩
      intro _
      -- an id in the map is that of a message that was accepted before
      cases hlookup : st.outboundInflight.lookup row.value.frameId with
      | none => exact hlookup
      | some did =>
          obtain ⟨m, hm, hid⟩ := h.known _ did hlookup
          exact absurd hid (hfresh m hm)
    · exact ⟨List.mem_append_left _ (h.accepted x hold), h.lookup x hold⟩
  · intro id did hlookup
    obtain ⟨m, hm, hid⟩ := h.known id did hlookup
    exact ⟨m, List.mem_append_left _ hm, hid⟩

theorem Inv.startFlush (h : Inv st) (task : FlushTask) :
    Inv { st with
      connector := { st.connector with
        flushes := st.connector.flushes ++ [.next task.maxItems] }
      tasks := st.tasks ++ [task] } := by
  have hnothing : ((st.connector.flushes ++ [Flush.next task.maxItems]).zip
      (st.tasks ++ [task])).filterMap flushHolds =
        (st.connector.flushes.zip st.tasks).filterMap flushHolds := by
    rw [List.zip_append h.tasks, List.filterMap_append]
    exact List.append_nil _
  refine h.release ?_ rfl ?_ ?_ (fun _ => id)
  · simp [h.tasks]
  · simp only [holders, hnothing]
    exact List.Subperm.refl _
  · intro row nowMs frame maxItems hmem
    rcases List.mem_append.mp hmem with hold | hnew
    · exact h.frames row nowMs frame maxItems hold
    · cases List.mem_singleton.mp hnew

/-! ### The frames of the proxy -/

/-- The invariant says nothing of the notifications that wait. -/
theorem Inv.notifications (h : Inv st) (pendingReceiptNotifications : List PendingReceiptNotification)
    (forwarding : List (List PendingReceiptNotification)) :
    Inv { st with pendingReceiptNotifications, forwarding } :=
  ⟨h.tasks, h.distinct, h.accepted, h.lookup, h.known, h.frames, h.relay, h.acks, h.answered,
    h.receipts, h.unhandled⟩

/-- Nor of the frames that acknowledge nothing. -/
theorem Inv.inbound (h : Inv st) {inbound : List ConnectorFrame}
    (hacks : ackIds inbound = ackIds st.inbound) : Inv { st with inbound } := by
  refine ⟨h.tasks, h.distinct, h.accepted, h.lookup, h.known, h.frames, h.relay, ?_, ?_,
    h.receipts, h.unhandled⟩
  · show (handledIds st ++ ackIds inbound).Nodup
    rw [hacks]
    exact h.acks
  · show ∀ id ∈ handledIds st ++ ackIds inbound, _
    rw [hacks]
    exact h.answered

theorem ackIds_append (frames frames' : List ConnectorFrame) :
    ackIds (frames ++ frames') = ackIds frames ++ ackIds frames' := List.filterMap_append

theorem mem_of_isWritten {written : List ConnectorFrame} {frameId : RString}
    (h : isWritten written frameId = true) :
    ∃ frame, .enqueue frame ∈ written ∧ frame.id = frameId := by
  obtain ⟨frame, hmem, hid⟩ := List.any_eq_true.mp h
  cases frame with
  | enqueue frame => exact ⟨frame, hmem, by simpa using hid⟩
  | heartbeat _ => cases hid
  | heartbeatAck _ _ => cases hid
  | deliver _ => cases hid
  | deliverAck _ => cases hid
  | enqueueAck _ => cases hid
  | receipt _ => cases hid

theorem Inv.answer (h : Inv st) {ack : AckFrame}
    (hwritten : isWritten st.connector.written ack.ackId = true)
    (hnew : ack.ackId ∉ handledIds st ++ ackIds st.inbound) :
    Inv { st with inbound := st.inbound ++ [.enqueueAck ack] } := by
  have hids : handledIds st ++ ackIds (st.inbound ++ [.enqueueAck ack]) =
      (handledIds st ++ ackIds st.inbound) ++ [ack.ackId] := by
    rw [ackIds_append, ← List.append_assoc]
    rfl
  refine ⟨h.tasks, h.distinct, h.accepted, h.lookup, h.known, h.frames, h.relay, ?_, ?_,
    h.receipts, h.unhandled⟩
  · show (handledIds st ++ ackIds (st.inbound ++ [.enqueueAck ack])).Nodup
    rw [hids, List.nodup_append]
    refine ⟨h.acks, List.nodup_singleton _, ?_⟩
    intro id hid id' hid' heq
    rw [List.mem_singleton.mp hid'] at heq
    exact hnew (heq ▸ hid)
  · show ∀ id ∈ handledIds st ++ ackIds (st.inbound ++ [.enqueueAck ack]), _
    rw [hids]
    intro id hid
    rcases List.mem_append.mp hid with hold | heq
    · exact h.answered id hold
    · obtain ⟨frame, hmem, hframe⟩ := mem_of_isWritten hwritten
      rw [List.mem_singleton.mp heq, ← hframe]
      exact h.relay frame (.inr (.inr hmem))

/-! ### Acknowledgements -/

theorem receiptsFor_append_of_ne {produced : List ReceiptFrame} {receipt : ReceiptFrame}
    {frameId : RString} (h : receipt.originalFrameId ≠ frameId) :
    receiptsFor (produced ++ [receipt]) frameId = receiptsFor produced frameId := by
  simp [receiptsFor, h]

theorem receiptsFor_append_self (produced : List ReceiptFrame) (receipt : ReceiptFrame) :
    receiptsFor (produced ++ [receipt]) receipt.originalFrameId =
      receiptsFor produced receipt.originalFrameId ++ [receipt] := by
  simp [receiptsFor]

/-- **What is known when an acknowledgement is taken**: it is the first of its frame, and the map
has the recipient of the message if its flush was observed. -/
theorem Inv.taken_ack (h : Inv st) {ack : AckFrame} {inbound : List ConnectorFrame}
    (hinbound : st.inbound = .enqueueAck ack :: inbound) :
    ack.ackId ∉ handledIds st ∧
      ∃ handing ∈ st.handed, handing.message.frameId = ack.ackId ∧
        st.outboundInflight.lookup ack.ackId =
          if handing.task.observes then some handing.message.toAgentDid else none := by
  have hacks := h.acks
  have hanswered := h.answered
  rw [hinbound] at hacks hanswered
  have hnew : ack.ackId ∉ handledIds st := by
    intro hmem
    exact (List.nodup_append.mp hacks).2.2 _ hmem _ List.mem_cons_self rfl
  obtain ⟨handing, hmem, hid⟩ :=
    hanswered ack.ackId (List.mem_append_right _ List.mem_cons_self)
  refine ⟨hnew, handing, hmem, hid, ?_⟩
  have hlookup := h.lookup _ (handed_mem_holders hmem)
  rw [hid] at hlookup
  exact hlookup hnew

/-- The invariant after an acknowledgement, where the receipts are right. -/
theorem Inv.acknowledge (h : Inv st) {ack : AckFrame} {inbound : List ConnectorFrame} {room : Bool}
    {pendingReceiptNotifications : List PendingReceiptNotification}
    {produced : List ReceiptFrame} (hinbound : st.inbound = .enqueueAck ack :: inbound)
    (hothers : ∀ id, id ≠ ack.ackId → receiptsFor produced id = receiptsFor st.produced id)
    (hown : ReceiptsOk { st with produced } ⟨ack, room⟩) :
    Inv { st with
      inbound
      outboundInflight := st.outboundInflight.erase ack.ackId
      handled := st.handled ++ [⟨ack, room⟩]
      pendingReceiptNotifications
      produced } := by
  obtain ⟨hnew, _⟩ := h.taken_ack hinbound
  have hids : (st.handled ++ [Handled.mk ack room]).map (fun x => x.ack.ackId) ++
      ackIds inbound = handledIds st ++ ackIds st.inbound := by
    rw [hinbound, List.map_append, List.append_assoc]
    rfl
  have hlater : ∀ id, id ∉ (st.handled ++ [Handled.mk ack room]).map (fun x => x.ack.ackId) →
      id ∉ handledIds st ∧ id ≠ ack.ackId := by
    intro id hid
    rw [List.map_append, List.mem_append, not_or] at hid
    refine ⟨hid.1, ?_⟩
    intro heq
    exact hid.2 (List.mem_singleton.mpr heq)
  refine ⟨h.tasks, h.distinct, h.accepted, ?_, ?_, h.frames, h.relay, ?_, ?_, ?_, ?_⟩
  · intro x hx hid
    obtain ⟨hunhandled, hne⟩ := hlater _ hid
    exact (AList.lookup_erase_ne hne).trans (h.lookup x hx hunhandled)
  · intro id did hlookup
    by_cases hid : id = ack.ackId
    · rw [hid, AList.lookup_erase] at hlookup
      cases hlookup
    · rw [AList.lookup_erase_ne hid] at hlookup
      exact h.known id did hlookup
  · rw [handledIds, hids]
    exact h.acks
  · rw [handledIds, hids]
    exact h.answered
  · intro x hx
    rcases List.mem_append.mp hx with hold | heq
    · have hne : x.ack.ackId ≠ ack.ackId := by
        intro heq
        exact hnew (List.mem_map.mpr ⟨x, hold, heq⟩)
      obtain ⟨hnotified, hsilent⟩ := h.receipts x hold
      refine ⟨fun hcond => ?_, fun hcond => (hothers _ hne).trans (hsilent hcond)⟩
      obtain ⟨receipt, hreceipts, hrest⟩ := hnotified hcond
      exact ⟨receipt, (hothers _ hne).trans hreceipts, hrest⟩
    · rw [List.mem_singleton.mp heq]
      exact hown
  · intro id hid
    obtain ⟨hunhandled, hne⟩ := hlater id hid
    exact (hothers id hne).trans (h.unhandled id hunhandled)

theorem Inv.handleEnqueueAck (h : Inv st) {ack : AckFrame} {inbound : List ConnectorFrame}
    (hinbound : st.inbound = .enqueueAck ack :: inbound) (env : FrameEnv) :
    Inv (handleEnqueueAck { st with inbound } ack env) := by
  obtain ⟨hnew, handing, hmem, hid, hlookup⟩ := h.taken_ack hinbound
  have hobserved := observed_iff h hmem
  rw [hid] at hobserved
  have hnone := h.unhandled _ hnew
  -- nothing is queued for this acknowledgement
  have hsilent : ∀ room, ¬(ack.accepted = false ∧ Observed st ack.ackId ∧ room = true) →
      ReceiptsOk { st with produced := st.produced } ⟨ack, room⟩ :=
    fun room hcond => ⟨fun hc => absurd hc hcond, fun _ => hnone⟩
  unfold RelayRejections.handleEnqueueAck
  dsimp only
  split
  · rename_i haccepted
    exact h.acknowledge hinbound (fun _ _ => rfl) (hsilent _ (by simp [haccepted]))
  · rename_i hrejected
    rw [hlookup]
    cases hobserves : handing.task.observes with
    | false =>
        exact h.acknowledge hinbound (fun _ _ => rfl)
          (hsilent _ (by simp [hobserved, hobserves]))
    | true =>
        cases hroom : hasRoom st.pendingReceiptNotifications env.nowMs with
        | false => exact h.acknowledge hinbound (fun _ _ => rfl) (hsilent _ (by simp))
        | true =>
            refine h.acknowledge hinbound (fun id hne => receiptsFor_append_of_ne (Ne.symm hne))
              ⟨fun _ => ?_, fun hcond => ?_⟩
            · refine ⟨buildEnqueueRejectedReceipt ack.ackId handing.message.toAgentDid
                (ack.reason.getD (rs "unknown")) env, ?_, rfl, handing.message,
                h.accepted _ (handed_mem_holders hmem), hid, rfl⟩
              refine (receiptsFor_append_self _ _).trans ?_
              exact congrArg (· ++ [_]) hnone
            · exact (hcond ⟨by simpa using hrejected, hobserved.mpr hobserves, rfl⟩).elim

theorem Inv.handleConnectorFrame (h : Inv st) {frame : ConnectorFrame}
    {inbound : List ConnectorFrame} (hinbound : st.inbound = frame :: inbound) (env : FrameEnv) :
    Inv (handleConnectorFrame { st with inbound } frame env) := by
  cases frame with
  | enqueueAck ack => exact h.handleEnqueueAck hinbound env
  | receipt receipt =>
      exact (h.inbound (by rw [hinbound]; rfl)).notifications _ st.forwarding
  | heartbeat _ => exact h.inbound (by rw [hinbound]; rfl)
  | heartbeatAck _ _ => exact h.inbound (by rw [hinbound]; rfl)
  | deliver _ => exact h.inbound (by rw [hinbound]; rfl)
  | deliverAck _ => exact h.inbound (by rw [hinbound]; rfl)
  | enqueue _ => exact h.inbound (by rw [hinbound]; rfl)

/-! ### Runs -/

theorem Inv.relayStep (h : Inv st) {e : OutboundRelay.Event} (hfresh : FreshIds st (.relay e))
    (hstep : step crates policy st (.relay e) = some st') : Inv st' := by
  cases e with
  | startFlush _ => cases hstep
  | resumeFlush _ _ => cases hstep
  | enqueue input env =>
      obtain ⟨connector, hconnector, rfl⟩ := Option.map_eq_some_iff.mp hstep
      simp only [OutboundRelay.step] at hconnector
      split at hconnector
      · cases hconnector
        exact h
      · rename_i queue hqueue
        obtain ⟨row, rfl, hrow, _⟩ := Outbound.enqueueOutbound_spec hqueue
        rw [List.drop_left] at hconnector
        cases hconnector
        refine h.enqueue ?_
        rw [hrow]
        exact hfresh
  | sendFrame frame =>
      obtain ⟨connector, hconnector, rfl⟩ := Option.map_eq_some_iff.mp hstep
      exact h.elsewhere (elsewhere_sendFrame hconnector)
  | connect =>
      obtain ⟨connector, hconnector, rfl⟩ := Option.map_eq_some_iff.mp hstep
      obtain ⟨_, heq⟩ := Option.ite_none_right_eq_some.mp hconnector
      cases heq
      exact h.elsewhere (elsewhere_idle rfl (List.Subset.refl _))
  | receive =>
      obtain ⟨connector, hconnector, rfl⟩ := Option.map_eq_some_iff.mp hstep
      exact h.elsewhere (elsewhere_receive hconnector)
  | write ok =>
      obtain ⟨connector, hconnector, rfl⟩ := Option.map_eq_some_iff.mp hstep
      exact h.elsewhere (elsewhere_write hconnector)
  | disconnect =>
      obtain ⟨connector, hconnector, rfl⟩ := Option.map_eq_some_iff.mp hstep
      obtain ⟨_, heq⟩ := Option.ite_none_right_eq_some.mp hconnector
      cases heq
      exact h.elsewhere (elsewhere_idle rfl (List.Subset.refl _))
  | shutdown =>
      obtain ⟨connector, hconnector, rfl⟩ := Option.map_eq_some_iff.mp hstep
      obtain ⟨_, heq⟩ := Option.ite_none_right_eq_some.mp hconnector
      cases heq
      exact h.elsewhere (elsewhere_idle rfl (List.nil_subset _))

theorem Inv.flushStep (h : Inv st) {i : ℕ} {env : OutboundRelay.Env}
    (hstep : step crates policy st (.resumeFlush i env) = some st') : Inv st' := by
  obtain ⟨task, htask, hstep⟩ := Option.bind_eq_some_iff.mp hstep
  obtain ⟨flush, hflush, hstep⟩ := Option.bind_eq_some_iff.mp hstep
  obtain ⟨⟨connector, after⟩, hr, rfl⟩ := Option.map_eq_some_iff.mp hstep
  cases resumeFlush_piece hr with
  | ended hqueue hafter => exact h.ended htask hflush hqueue hafter
  | taken hrow hframe => exact h.taken htask hflush hrow hframe
  | failed hstopped hback hafter => exact h.failed htask hflush hstopped hback hafter
  | sent hrunning => exact h.sent htask hflush hrunning

/-- **One step.** -/
theorem inv_step {e : Event} (h : Inv st) (hfresh : FreshIds st e)
    (hstep : step crates policy st e = some st') : Inv st' := by
  cases e with
  | relay e => exact h.relayStep hfresh hstep
  | startFlush task =>
      cases hstep
      exact h.startFlush task
  | resumeFlush i env => exact h.flushStep hstep
  | answer ack =>
      obtain ⟨⟨hwritten, hnew⟩, heq⟩ := Option.ite_none_right_eq_some.mp hstep
      cases heq
      exact h.answer hwritten hnew
  | receiveReceipt receipt =>
      cases hstep
      refine h.inbound ?_
      rw [ackIds_append]
      exact List.append_nil _
  | handleFrame env =>
      simp only [step] at hstep
      split at hstep
      · cases hstep
      · rename_i frame inbound hinbound
        cases hstep
        exact h.handleConnectorFrame hinbound env
  | takeDue nowMs =>
      cases hstep
      exact h.notifications _ _
  | requeue i failedAtMs =>
      obtain ⟨due, _, rfl⟩ := Option.map_eq_some_iff.mp hstep
      exact h.notifications _ _

theorem inv_run {events : List Event} (hfresh : AllSteps (step crates policy) FreshIds .empty events)
    (hrun : exec (step crates policy) .empty events = some st) : Inv st :=
  exec_invariant Inv (fun _ _ _ h hfresh hstep => inv_step h hfresh hstep) inv_empty hfresh hrun

/-- Every frame was handed over by an observed flush, and every rejection found room. -/
def AllNoticed (st : Runtime) : Prop :=
  (∀ h ∈ st.handed, h.task.observes = true) ∧
    ∀ x ∈ st.handled, x.ack.accepted = false → x.room = true

theorem observation_sent {client : Client} {before after : Flush}
    (h : observation client before after = some (m, .sent)) :
    sendingMessage before = some m ∧ client ≠ .stopped := by
  unfold observation at h
  cases hsending : sendingMessage before with
  | some sent =>
      simp only [hsending, Option.some.injEq, Prod.mk.injEq] at h
      obtain ⟨rfl, hsent⟩ := h
      refine ⟨rfl, ?_⟩
      intro hstopped
      rw [if_pos hstopped] at hsent
      cases hsent
  | none =>
      rw [hsending] at h
      cases hafter : sendingMessage after with
      | none =>
          rw [hafter] at h
          cases h
      | some sent =>
          rw [hafter] at h
          cases h

theorem allNoticed_empty : AllNoticed .empty where
  left := by
    intro h hmem
    cases hmem
  right := by
    intro x hx
    cases hx

theorem allNoticed_flush (h : AllNoticed st) {i : ℕ} {env : OutboundRelay.Env}
    (hcond : StepNotifies st (.resumeFlush i env))
    (hstep : step crates policy st (.resumeFlush i env) = some st') : AllNoticed st' := by
  obtain ⟨task, htask, hstep⟩ := Option.bind_eq_some_iff.mp hstep
  obtain ⟨flush, hflush, hstep⟩ := Option.bind_eq_some_iff.mp hstep
  obtain ⟨r, _, rfl⟩ := Option.map_eq_some_iff.mp hstep
  unfold afterFlush
  split
  · exact h
  · rename_i sent observed hobservation
    refine ⟨?_, h.2⟩
    intro handing hmem
    by_cases hsent : observed = .sent
    · rw [if_pos hsent] at hmem
      rcases List.mem_append.mp hmem with hold | hnew
      · exact h.1 handing hold
      · rw [hsent] at hobservation
        obtain ⟨hsending, hrunning⟩ := observation_sent hobservation
        rw [List.mem_singleton.mp hnew]
        exact hcond hrunning flush hflush (by rw [hsending]; rfl) task htask
    · rw [if_neg hsent] at hmem
      exact h.1 handing hmem

theorem allNoticed_ack (h : AllNoticed st) {ack : AckFrame} {env : FrameEnv}
    (hroom : ack.accepted = false → hasRoom st.pendingReceiptNotifications env.nowMs = true) :
    AllNoticed (handleEnqueueAck st ack env) := by
  have hhandled : ∀ x ∈ st.handled ++ [⟨ack, hasRoom st.pendingReceiptNotifications env.nowMs⟩],
      x.ack.accepted = false → x.room = true := by
    intro x hx hrejected
    rcases List.mem_append.mp hx with hold | hnew
    · exact h.2 x hold hrejected
    · rw [List.mem_singleton.mp hnew] at hrejected ⊢
      exact hroom hrejected
  unfold handleEnqueueAck
  dsimp only
  split
  · exact ⟨h.1, hhandled⟩
  · split
    · exact ⟨h.1, hhandled⟩
    · exact ⟨h.1, hhandled⟩

theorem allNoticed_step {e : Event} (h : AllNoticed st) (hcond : StepNotifies st e)
    (hstep : step crates policy st e = some st') : AllNoticed st' := by
  cases e with
  | relay e =>
      simp only [step] at hstep
      split at hstep
      · cases hstep
      · cases hstep
      · obtain ⟨connector, _, rfl⟩ := Option.map_eq_some_iff.mp hstep
        exact h
  | startFlush task =>
      cases hstep
      exact h
  | resumeFlush i env => exact allNoticed_flush h hcond hstep
  | answer ack =>
      obtain ⟨_, heq⟩ := Option.ite_none_right_eq_some.mp hstep
      cases heq
      exact h
  | receiveReceipt receipt =>
      cases hstep
      exact h
  | handleFrame env =>
      simp only [step] at hstep
      split at hstep
      · cases hstep
      · rename_i frame inbound hinbound
        cases hstep
        have hfirst := hcond frame (by rw [hinbound]; rfl)
        cases frame with
        | enqueueAck ack =>
            have hnoticed : AllNoticed { st with inbound } := h
            refine allNoticed_ack hnoticed fun hrejected => hfirst ?_
            simp [isRejection, hrejected]
        | heartbeat _ => exact h
        | heartbeatAck _ _ => exact h
        | deliver _ => exact h
        | deliverAck _ => exact h
        | enqueue _ => exact h
        | receipt _ => exact h
  | takeDue nowMs =>
      cases hstep
      exact h
  | requeue i failedAtMs =>
      obtain ⟨due, _, rfl⟩ := Option.map_eq_some_iff.mp hstep
      exact h

/-- **A rejection has its receipt** exactly where the periodic flush handed the frame over, and the
queue of notifications had room when the rejection was handled. So where every step meets the
condition, every rejection has one. -/
theorem rejection_notified {events : List Event}
    (hfresh : AllSteps (step crates policy) FreshIds .empty events)
    (hrun : exec (step crates policy) .empty events = some st) :
    (AllSteps (step crates policy) StepNotifies .empty events →
      ∀ x ∈ st.handled, x.ack.accepted = false → NotifiedOnce st x.ack.ackId) ∧
    ∀ x ∈ st.handled, x.ack.accepted = false →
      (NotifiedOnce st x.ack.ackId ↔ Observed st x.ack.ackId ∧ x.room = true) := by
  have hinv := inv_run hfresh hrun
  have hiff : ∀ x ∈ st.handled, x.ack.accepted = false →
      (NotifiedOnce st x.ack.ackId ↔ Observed st x.ack.ackId ∧ x.room = true) := by
    intro x hx hrejected
    obtain ⟨hnotified, hsilent⟩ := hinv.receipts x hx
    refine ⟨?_, fun hcond => hnotified ⟨hrejected, hcond⟩⟩
    intro ⟨receipt, hreceipts, _⟩
    by_contra hcond
    have hnone := hsilent fun hall => hcond hall.2
    rw [hreceipts] at hnone
    cases hnone
  refine ⟨?_, hiff⟩
  intro hcond x hx hrejected
  have hnoticed : AllNoticed st :=
    exec_invariant AllNoticed (fun _ _ _ h hcond hstep => allNoticed_step h hcond hstep)
      allNoticed_empty hcond hrun
  have hmem : x.ack.ackId ∈ handledIds st ++ ackIds st.inbound :=
    List.mem_append_left _ (List.mem_map.mpr ⟨x, hx, rfl⟩)
  obtain ⟨handing, hhanding, hid⟩ := hinv.answered _ hmem
  exact (hiff x hx hrejected).mpr
    ⟨⟨handing, hhanding, hid, hnoticed.1 handing hhanding⟩, hnoticed.2 x hx hrejected⟩

end

/-! ## A request that its handler flushes, and one that the loop flushes -/

section Example

def exampleFrameEnv : FrameEnv where
  frameId := rs "01HF7YAT00W6W7CM7N3W5FDXR9"
  ts := rs "2023-11-14T22:13:21.000Z"
  createdAtMs := 1700000001000
  nowMs := 1700000001000

/-- The proxy refuses the frame of the message. -/
def exampleRejection : AckFrame where
  v := CONNECTOR_FRAME_VERSION
  id := rs "01HF7YAT00W6W7CM7N3W5FDXR8"
  ts := rs "2023-11-14T22:13:21.000Z"
  ackId := rs "01HF7YAT00W6W7CM7N3W5FDXR0"
  accepted := false
  reason := some (rs "recipient not paired")

/-- A message is flushed by the task, written, rejected, and the rejection is handled. -/
def exampleRun (task : FlushTask) : List Event :=
  [.relay (.enqueue OutboundRelay.exampleInput OutboundRelay.exampleEnv), .relay .connect,
    .startFlush task, .resumeFlush 0 OutboundRelay.exampleEnv,
    .resumeFlush 0 OutboundRelay.exampleEnv, .relay .receive, .relay (.write true),
    .answer exampleRejection, .handleFrame exampleFrameEnv]

/-- The rejections that were handled, and the messages that have a receipt. -/
def exampleOutcome (task : FlushTask) : Option (List Handled × List RString) :=
  (exec (step OutboundRelay.exampleCrates OutboundRelay.examplePolicy) .empty
    (exampleRun task)).map fun st => (st.handled, st.produced.map (·.originalFrameId))

theorem exampleOutcome_handler :
    exampleOutcome (.outboundHandler 1) = some ([⟨exampleRejection, true⟩], []) := by decide

/-- **A rejection goes unnoticed** where the handler of the request has flushed the message. -/
theorem not_rejection_notified :
    ¬∀ (crates : Crates) (policy : OutboundRetryPolicy) (events : List Event) (st : Runtime),
      AllSteps (step crates policy) FreshIds .empty events →
        exec (step crates policy) .empty events = some st →
          ∀ x ∈ st.handled, x.ack.accepted = false → NotifiedOnce st x.ack.ackId := by
  intro h
  obtain ⟨st, hrun, houtcome⟩ := Option.map_eq_some_iff.mp exampleOutcome_handler
  obtain ⟨hhandled, hproduced⟩ := Prod.mk.inj houtcome
  have hfresh : AllSteps (step OutboundRelay.exampleCrates OutboundRelay.examplePolicy) FreshIds
      .empty (exampleRun (.outboundHandler 1)) := by decide
  obtain ⟨receipt, hreceipts, _⟩ := h _ _ _ st hfresh hrun ⟨exampleRejection, true⟩
    (by rw [hhandled]; exact List.mem_singleton_self _) rfl
  rw [List.map_eq_nil_iff.mp hproduced] at hreceipts
  cases hreceipts

theorem exampleOutcome_loop :
    exampleOutcome .outboundFlushLoop =
      some ([⟨exampleRejection, true⟩], [exampleRejection.ackId]) := by decide

/-- Where the periodic flush has handed the message over, its rejection has a receipt. -/
theorem exampleRun_notified :
    ∃ st, exec (step OutboundRelay.exampleCrates OutboundRelay.examplePolicy) .empty
        (exampleRun .outboundFlushLoop) = some st ∧
      st.handled = [⟨exampleRejection, true⟩] ∧ NotifiedOnce st exampleRejection.ackId := by
  obtain ⟨st, hrun, houtcome⟩ := Option.map_eq_some_iff.mp exampleOutcome_loop
  obtain ⟨hhandled, _⟩ := Prod.mk.inj houtcome
  have hfresh : AllSteps (step OutboundRelay.exampleCrates OutboundRelay.examplePolicy) FreshIds
      .empty (exampleRun .outboundFlushLoop) := by decide
  have hcond : AllSteps (step OutboundRelay.exampleCrates OutboundRelay.examplePolicy) StepNotifies
      .empty (exampleRun .outboundFlushLoop) := by decide
  exact ⟨st, hrun, hhandled, (rejection_notified hfresh hrun).1 hcond ⟨exampleRejection, true⟩
    (by rw [hhandled]; exact List.mem_singleton_self _) rfl⟩

end Example

end Clawdentity.Rust.RelayRejections
