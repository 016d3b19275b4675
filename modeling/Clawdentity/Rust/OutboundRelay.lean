import Clawdentity.Rust.Outbound
import Mathlib.Data.List.Nodup

/-!
# What becomes of a message that the connector has accepted

A flush takes a row out of the outbound queue before it hands the frame over. The frame then
stands in a channel of the process, from which the websocket client takes it and writes it to
the socket of its session. Here the table of dead letters, the channel, the client and the
socket are modelled beside the queue; flushes and the client act in any order, every statement
and every write may fail, and the session may end at any point.

## Main definitions

* `Connector`, `step` — the two tables, the channel, the client, and the flushes in progress.
* `StepKeeps` — the step does not run into an exit that drops a message.
* `Held` — the places where a message can be.
* `outbound_kept` — where every step keeps its message, every accepted message is in a table,
  or written.
-/

namespace Clawdentity.Rust.OutboundRelay

open Js Lib Lib.Run
open Inbound (Crates)
open Outbound (Tracked OutboundQueueItem EnqueueOutboundInput EnqueueError Queue
  OutboundRetryPolicy enqueueOutbound insertRow deleteRow firstDue takeDueOutbound
  requeueOutboundRetry enqueueFrame)

/-! ## The tables -/

/-- The columns of a row that no statement changes. -/
structure Message where
  frameId : RString
  frameVersion : ℤ
  frameType : RString
  toAgentDid : RString
  groupId : Option RString
  payloadJson : RString
  conversationId : Option RString
  replyTo : Option RString
  createdAtMs : ℤ
  deriving DecidableEq

/-- A row of `outbound_dead_letter`. -/
structure OutboundDeadLetterItem extends Message where
  deadLetteredAtMs : ℤ
  deadLetterReason : RString
  deriving DecidableEq

/-- The message of a row of the queue. -/
def message (row : Tracked OutboundQueueItem) : Message where
  frameId := row.value.frameId
  frameVersion := row.value.frameVersion
  frameType := row.value.frameType
  toAgentDid := row.value.toAgentDid
  groupId := row.value.groupId
  payloadJson := row.value.payloadJson
  conversationId := row.value.conversationId
  replyTo := row.value.replyTo
  createdAtMs := row.value.createdAtMs

/-- What the environment decides in a piece of code, which has one statement of each kind at
most. -/
structure Env where
  nowMs : ℤ
  /-- `now_iso`. -/
  ts : RString
  readOk : Bool
  deleteOk : Bool
  insertOk : Bool
  /-- The text of the error of `from_str`, where there is one. -/
  parseError : RString

/-- The environment of a statement that writes. -/
def Env.statement (env : Env) (writeOk : Bool) : Outbound.Env where
  nowMs := env.nowMs
  ts := env.ts
  frameId := []
  connected := true
  readOk := env.readOk
  writeOk := writeOk
  members := none
  sendOk := true

/-- `move_outbound_to_dead_letter`; a dead letter with the same frame id is replaced. -/
def moveOutboundToDeadLetter (deadLetters : List OutboundDeadLetterItem)
    (row : Tracked OutboundQueueItem) (reason : RString) (env : Env) :
    Except EnqueueError (List OutboundDeadLetterItem) := do
  check (!(trim reason).isEmpty) (.required "dead_letter_reason")
  check env.insertOk .sqlite
  return deadLetters.filter (fun other => other.frameId ≠ row.value.frameId) ++
    [{ message row with deadLetteredAtMs := env.nowMs, deadLetterReason := trim reason }]

/-! ## The client and the flushes -/

/-- The task of the websocket client, which runs one session after the other. -/
inductive Client
  | reconnecting
  /-- It may have taken a frame from the channel, which it is writing. -/
  | connected (writing : Option ConnectorFrame)
  /-- The loop has ended, and the channel is closed. -/
  | stopped
  deriving DecidableEq

def Client.isConnected : Client → Bool
  | .connected _ => true
  | _ => false

/-- The frame that is being written. -/
def Client.writing : Client → Option ConnectorFrame
  | .connected writing => writing
  | _ => none

/-- `flush_outbound_queue_to_relay`, between two pieces of its code. -/
inductive Flush
  | next (maxItems : ℕ)
  | sending (row : Tracked OutboundQueueItem) (nowMs : ℤ) (frame : EnqueueFrame) (maxItems : ℕ)
  | done
  deriving DecidableEq

structure Connector where
  outboundQueue : Queue
  outboundDeadLetter : List OutboundDeadLetterItem
  channel : List ConnectorFrame
  client : Client
  /-- The frames that were written to a socket, in their order. -/
  written : List ConnectorFrame
  flushes : List Flush
  /-- The messages of the rows that were inserted, which no code reads. -/
  accepted : List Message
  deriving DecidableEq

def Connector.empty : Connector := ⟨[], [], [], .reconnecting, [], [], []⟩

/-- The capacity of the channel. -/
def CHANNEL_CAPACITY : ℕ := 256

def expiredReason : RString := rs "outbound message expired before relay delivery"

def malformedReason (error : RString) : RString := rs "malformed outbound payload: " ++ error

def attemptsReason : RString := rs "outbound relay delivery failed after max retry attempts"

inductive Event
  | enqueue (input : Tracked EnqueueOutboundInput) (env : Env)
  | startFlush (maxItems : ℕ)
  | resumeFlush (i : ℕ) (env : Env)
  /-- Another task hands over a frame: an acknowledgement, or a receipt. -/
  | sendFrame (frame : ConnectorFrame)
  | connect
  /-- The client takes a frame from the channel. -/
  | receive
  | write (ok : Bool)
  /-- The session ends between two frames. -/
  | disconnect
  | shutdown

section Code
variable (crates : Crates) (policy : OutboundRetryPolicy)

/-- A row has become too old. -/
def isExpired (row : Tracked OutboundQueueItem) (env : Env) : Bool :=
  decide (policy.maxAgeMs < min (env.nowMs - row.value.createdAtMs) (2 ^ 63 - 1))

/-- What becomes of a row that was taken. The flush ends where an old row cannot be written to
the dead letters, and goes on where a malformed one cannot. -/
def flushRow (st : Connector) (row : Tracked OutboundQueueItem) (maxItems : ℕ) (env : Env) :
    Connector × Flush :=
  if isExpired policy row env then
    match moveOutboundToDeadLetter st.outboundDeadLetter row expiredReason env with
    | .ok outboundDeadLetter => ({ st with outboundDeadLetter }, .next maxItems)
    | .error _ => (st, .done)
  else
    match crates.fromStr row.value.payloadJson with
    | none =>
        match moveOutboundToDeadLetter st.outboundDeadLetter row
          (malformedReason env.parseError) env with
        | .ok outboundDeadLetter => ({ st with outboundDeadLetter }, .next maxItems)
        | .error _ => (st, .next maxItems)
    | some payload =>
        (st, .sending row env.nowMs
          (enqueueFrame row.value payload (env.statement env.insertOk)) maxItems)

/-- An iteration of `flush_outbound_queue_to_relay`, up to the sending of the frame. -/
def resumeNext (st : Connector) (maxItems : ℕ) (env : Env) : Connector × Flush :=
  match maxItems, st.client.isConnected with
  | 0, _ => (st, .done)
  | _ + 1, false => (st, .done)
  | maxItems + 1, true =>
      match takeDueOutbound st.outboundQueue (env.statement env.deleteOk) with
      | .error _ => (st, .done)
      | .ok none => (st, .done)
      | .ok (some (row, outboundQueue)) =>
          flushRow crates policy { st with outboundQueue } row maxItems env

/-- `send_frame`, and the rest of the iteration. It fails where the channel is closed, and
waits where the channel is full. -/
def resumeSending (st : Connector) (row : Tracked OutboundQueueItem) (nowMs : ℤ)
    (frame : EnqueueFrame) (maxItems : ℕ) (env : Env) : Option (Connector × Flush) :=
  if st.client = .stopped then
    if policy.maxAttempts ≤ row.value.attemptCount + 1 then
      match moveOutboundToDeadLetter st.outboundDeadLetter row attemptsReason env with
      | .ok outboundDeadLetter => some ({ st with outboundDeadLetter }, .next maxItems)
      | .error _ => some (st, .done)
    else
      match requeueOutboundRetry st.outboundQueue row
        (nowMs + policy.retryDelayMs (row.value.attemptCount + 1))
        (env.statement env.insertOk) with
      | .ok outboundQueue => some ({ st with outboundQueue }, .done)
      | .error _ => some (st, .done)
  else if st.channel.length < CHANNEL_CAPACITY then
    some ({ st with channel := st.channel ++ [.enqueue frame] }, .next maxItems)
  else none

def resumeFlush (st : Connector) (flush : Flush) (env : Env) : Option (Connector × Flush) :=
  match flush with
  | .next maxItems => some (resumeNext crates policy st maxItems env)
  | .sending row nowMs frame maxItems => resumeSending policy st row nowMs frame maxItems env
  | .done => none

/-- The arm of `run_socket_session` that takes a frame. One that `serialize_frame` refuses is
skipped. -/
def receive (st : Connector) : Option Connector :=
  match st.client, st.channel with
  | .connected none, frame :: channel =>
      match validateFrame crates.ulidFromString frame with
      | .error _ => some { st with channel }
      | .ok () => some { st with channel, client := .connected (some frame) }
  | _, _ => none

/-- The write ends; where it failed, so does the session. -/
def write (st : Connector) (ok : Bool) : Option Connector :=
  match st.client with
  | .connected (some frame) =>
      if ok then some { st with written := st.written ++ [frame], client := .connected none }
      else some { st with client := .reconnecting }
  | _ => none

def step (st : Connector) : Event → Option Connector
  | .enqueue input env =>
      match enqueueOutbound crates.ulidFromString st.outboundQueue input
        (env.statement env.insertOk) with
      | .error _ => some st
      | .ok outboundQueue =>
          some { st with
            outboundQueue
            accepted := st.accepted ++ (outboundQueue.drop st.outboundQueue.length).map message }
  | .startFlush maxItems => some { st with flushes := st.flushes ++ [.next maxItems] }
  | .resumeFlush i env =>
      st.flushes[i]?.bind fun flush =>
        (resumeFlush crates policy st flush env).map fun r =>
          { r.1 with flushes := r.1.flushes.set i r.2 }
  | .sendFrame frame =>
      match frame with
      | .enqueue _ => none
      | frame =>
          if st.client = .stopped ∨ CHANNEL_CAPACITY ≤ st.channel.length then none
          else some { st with channel := st.channel ++ [frame] }
  | .connect =>
      if st.client = .reconnecting then some { st with client := .connected none } else none
  | .receive => receive crates st
  | .write ok => write st ok
  | .disconnect =>
      if st.client = .connected none then some { st with client := .reconnecting } else none
  | .shutdown =>
      if st.client = .reconnecting ∨ st.client = .connected none then
        some { st with client := .stopped, channel := [] }
      else none

end Code

/-! ## Steps that keep their message -/

/-- The frame has the fields of the message. -/
structure IsFrameOf (crates : Crates) (frame : EnqueueFrame) (m : Message) : Prop where
  id_eq : frame.id = m.frameId
  did_eq : frame.toAgentDid = m.toAgentDid
  group_eq : frame.groupId = m.groupId
  payload_eq : crates.fromStr m.payloadJson = some frame.payload
  conversation_eq : frame.conversationId = m.conversationId
  reply_eq : frame.replyTo = m.replyTo

/-- The message is in the queue or a dead letter, or its frame has been written. -/
def Accounted (crates : Crates) (st : Connector) (m : Message) : Prop :=
  (∃ row ∈ st.outboundQueue, message row = m) ∨
    (∃ item ∈ st.outboundDeadLetter, item.toMessage = m) ∨
      ∃ frame, .enqueue frame ∈ st.written ∧ IsFrameOf crates frame m

/-- No flush is in progress. -/
def Quiet (st : Connector) : Prop := ∀ flush ∈ st.flushes, flush = .done

/-- The frame of a message, and not one of the connector's own. -/
def isMessage : ConnectorFrame → Bool
  | .enqueue _ => true
  | _ => false

/-- No frame of a message is between the flushes and the socket. -/
def Drained (st : Connector) : Prop :=
  (∀ frame ∈ st.channel, isMessage frame = false) ∧
    ∀ frame ∈ st.client.writing, isMessage frame = false

instance (st : Connector) : Decidable (Drained st) := inferInstanceAs (Decidable (_ ∧ _))

/-- If this flush is the last in progress, it leaves no frame behind. -/
def LastLeavesDrained (st : Connector) (i : ℕ) : Prop :=
  (∀ flush ∈ st.flushes.set i .done, flush = .done) → Drained st

instance (st : Connector) (i : ℕ) : Decidable (LastLeavesDrained st i) :=
  inferInstanceAs (Decidable (_ → _))

/-- The row can become a dead letter, and replaces none of another message. -/
def CanDeadLetter (st : Connector) (row : Tracked OutboundQueueItem) (env : Env) : Prop :=
  env.insertOk = true ∧ ∀ item ∈ st.outboundDeadLetter, item.frameId = row.value.frameId →
    item.toMessage = message row

instance (st : Connector) (row : Tracked OutboundQueueItem) (env : Env) :
    Decidable (CanDeadLetter st row env) := inferInstanceAs (Decidable (_ ∧ _))

section
variable (crates : Crates) (policy : OutboundRetryPolicy)

/-- The row that the flush takes in this piece of code. -/
def takenRow (st : Connector) (maxItems : ℕ) (env : Env) : Option (Tracked OutboundQueueItem) :=
  if 0 < maxItems && st.client.isConnected && env.readOk && env.deleteOk then
    firstDue env.nowMs st.outboundQueue
  else none

/-- The condition on a piece of code of a flush: a row that was taken and is not sent becomes a
dead letter or goes back, and the last flush to end leaves no frame behind. -/
def FlushKeeps (st : Connector) (i : ℕ) (env : Env) : Flush → Prop
  | .next maxItems =>
      (takenRow st maxItems env = none → LastLeavesDrained st i) ∧
        ∀ row ∈ takenRow st maxItems env,
          isExpired policy row env = true ∨ crates.fromStr row.value.payloadJson = none →
            CanDeadLetter st row env
  | .sending row _ _ _ =>
      st.client = .stopped →
        if policy.maxAttempts ≤ row.value.attemptCount + 1 then CanDeadLetter st row env
        else env.insertOk = true ∧
          ∀ other ∈ st.outboundQueue, other.value.frameId ≠ row.value.frameId
  | .done => True

instance (st : Connector) (i : ℕ) (env : Env) : (flush : Flush) →
    Decidable (FlushKeeps crates policy st i env flush)
  | .next _ => inferInstanceAs (Decidable ((_ → _) ∧ ∀ row ∈ takenRow st _ env, _ ∨ _ → _))
  | .sending _ _ _ _ => inferInstanceAs (Decidable (_ → ite _ _ _))
  | .done => inferInstanceAs (Decidable True)

/-- **The condition on a step.** A flush keeps the row that it has taken, the client takes no
frame that it cannot serialize, it fails to write no frame of a message, and it stops with none
in its channel. -/
def StepKeeps (st : Connector) : Event → Prop
  | .resumeFlush i env => ∀ flush ∈ st.flushes[i]?, FlushKeeps crates policy st i env flush
  | .receive => ∀ frame ∈ st.channel.head?, isMessage frame = true →
      (validateFrame crates.ulidFromString frame).isOk = true
  | .write ok => ok = false → ∀ frame ∈ st.client.writing, isMessage frame = false
  | .shutdown => ∀ frame ∈ st.channel, isMessage frame = false
  | _ => True

instance (st : Connector) : (e : Event) → Decidable (StepKeeps crates policy st e)
  | .resumeFlush i _ => inferInstanceAs (Decidable (∀ flush ∈ st.flushes[i]?, _))
  | .receive => inferInstanceAs (Decidable (∀ frame ∈ st.channel.head?, _))
  | .write _ => inferInstanceAs (Decidable (_ → ∀ frame ∈ st.client.writing, _))
  | .shutdown => inferInstanceAs (Decidable (∀ frame ∈ st.channel, _))
  | .enqueue _ _ => inferInstanceAs (Decidable True)
  | .startFlush _ => inferInstanceAs (Decidable True)
  | .sendFrame _ => inferInstanceAs (Decidable True)
  | .connect => inferInstanceAs (Decidable True)
  | .disconnect => inferInstanceAs (Decidable True)

end

/-! ### What the statements do -/

section
variable {crates : Crates} {policy : OutboundRetryPolicy} {st st' : Connector} {env : Env}
  {row : Tracked OutboundQueueItem} {m : Message}

/-- A dead letter that is written has the message of the row. -/
theorem moveOutboundToDeadLetter_spec (deadLetters : List OutboundDeadLetterItem)
    (row : Tracked OutboundQueueItem) {reason : RString}
    (hreason : (trim reason).isEmpty = false) (hinsert : env.insertOk = true) :
    ∃ item : OutboundDeadLetterItem, item.toMessage = message row ∧
      moveOutboundToDeadLetter deadLetters row reason env =
        .ok (deadLetters.filter (fun other => other.frameId ≠ row.value.frameId) ++ [item]) := by
  refine ⟨{ message row with
    deadLetteredAtMs := env.nowMs, deadLetterReason := trim reason }, rfl, ?_⟩
  simp [moveOutboundToDeadLetter, check, hreason, hinsert, bind, Except.bind, pure, Except.pure]

theorem expiredReason_trim : (trim expiredReason).isEmpty = false := by
  have hmem : 'o' ∈ expiredReason := by decide
  exact trim_isEmpty_of_mem hmem (by decide)

theorem attemptsReason_trim : (trim attemptsReason).isEmpty = false := by
  have hmem : 'o' ∈ attemptsReason := by decide
  exact trim_isEmpty_of_mem hmem (by decide)

theorem malformedReason_trim (error : RString) :
    (trim (malformedReason error)).isEmpty = false := by
  have hmem : 'm' ∈ rs "malformed outbound payload: " := by decide
  exact trim_isEmpty_of_mem (List.mem_append_left error hmem) (by decide)

/-- What a flush finds in the queue. -/
theorem takeDueOutbound_cases (maxItems : ℕ) (env : Env) (hconnected : st.client.isConnected = true) :
    (takenRow st (maxItems + 1) env = none ∧
      ∀ found, takeDueOutbound st.outboundQueue (env.statement env.deleteOk) ≠ .ok (some found)) ∨
    ∃ row, takenRow st (maxItems + 1) env = some row ∧ row ∈ st.outboundQueue ∧
      takeDueOutbound st.outboundQueue (env.statement env.deleteOk) =
        .ok (some (row, deleteRow row.value.frameId st.outboundQueue)) := by
  by_cases hread : env.readOk = true
  · cases hdue : firstDue env.nowMs st.outboundQueue with
    | none => exact .inl (by simp [takenRow, takeDueOutbound, Env.statement, hread, hdue])
    | some row =>
        by_cases hdelete : env.deleteOk = true
        · refine .inr ⟨row, ?_, Outbound.firstDue_mem hdue, ?_⟩
          · simp [takenRow, hconnected, hread, hdelete, hdue]
          · simp [takeDueOutbound, Env.statement, hread, hdelete, hdue]
        · exact .inl (by simp [takenRow, takeDueOutbound, Env.statement, hread, hdelete, hdue])
  · exact .inl (by simp [takenRow, takeDueOutbound, Env.statement, hread])

/-- A row that was taken becomes a dead letter. -/
structure DeadLettered (st st' : Connector) (row : Tracked OutboundQueueItem) : Prop where
  replaces : ∀ item ∈ st.outboundDeadLetter, item.frameId = row.value.frameId →
    item.toMessage = message row
  written : ∃ item : OutboundDeadLetterItem, item.toMessage = message row ∧
    st' = { st with outboundDeadLetter :=
      st.outboundDeadLetter.filter (fun other => other.frameId ≠ row.value.frameId) ++ [item] }

theorem deadLettered {reason : RString} (hreason : (trim reason).isEmpty = false)
    (hcan : CanDeadLetter st row env) :
    ∃ outboundDeadLetter,
      moveOutboundToDeadLetter st.outboundDeadLetter row reason env = .ok outboundDeadLetter ∧
        DeadLettered st { st with outboundDeadLetter } row := by
  obtain ⟨item, hmessage, hmove⟩ :=
    moveOutboundToDeadLetter_spec st.outboundDeadLetter row hreason hcan.1
  exact ⟨_, hmove, hcan.2, item, hmessage, rfl⟩

/-- **What a flush does with a row that it has taken**, where it keeps it. -/
theorem flushRow_cases {maxItems : ℕ}
    (hkeeps : isExpired policy row env = true ∨ crates.fromStr row.value.payloadJson = none →
      CanDeadLetter st row env) :
    (∃ st', DeadLettered st st' row ∧
      flushRow crates policy st row maxItems env = (st', .next maxItems)) ∨
    ∃ frame, IsFrameOf crates frame (message row) ∧
      flushRow crates policy st row maxItems env = (st, .sending row env.nowMs frame maxItems) := by
  unfold flushRow
  by_cases hexpired : isExpired policy row env = true
  · obtain ⟨_, hmove, hdead⟩ := deadLettered expiredReason_trim (hkeeps (.inl hexpired))
    rw [if_pos hexpired, hmove]
    exact .inl ⟨_, hdead, rfl⟩
  · rw [if_neg hexpired]
    cases hpayload : crates.fromStr row.value.payloadJson with
    | none =>
        obtain ⟨_, hmove, hdead⟩ := deadLettered (malformedReason_trim env.parseError)
          (hkeeps (.inr hpayload))
        simp only [hmove]
        exact .inl ⟨_, hdead, rfl⟩
    | some payload =>
        exact .inr ⟨enqueueFrame row.value payload (env.statement env.insertOk),
          ⟨rfl, rfl, rfl, hpayload, rfl, rfl⟩, rfl⟩

/-- **What an iteration does up to the sending of its frame**, where it keeps its message. -/
theorem resumeNext_cases {i maxItems : ℕ}
    (hkeeps : FlushKeeps crates policy st i env (.next maxItems)) :
    (LastLeavesDrained st i ∧ resumeNext crates policy st maxItems env = (st, .done)) ∨
    ∃ row ∈ st.outboundQueue, ∃ rest,
      let taken := { st with
        outboundQueue := deleteRow row.value.frameId st.outboundQueue }
      (∃ st', DeadLettered taken st' row ∧
        resumeNext crates policy st maxItems env = (st', .next rest)) ∨
      ∃ frame, IsFrameOf crates frame (message row) ∧
        resumeNext crates policy st maxItems env =
          (taken, .sending row env.nowMs frame rest) := by
  obtain ⟨hlast, hrow⟩ := hkeeps
  cases maxItems with
  | zero => exact .inl ⟨hlast (by simp [takenRow]), rfl⟩
  | succ rest =>
      cases hconnected : st.client.isConnected with
      | false =>
          refine .inl ⟨hlast (by simp [takenRow, hconnected]), ?_⟩
          simp only [resumeNext, hconnected]
      | true =>
          rcases takeDueOutbound_cases rest env hconnected with
            ⟨hnone, htake⟩ | ⟨row, htaken, hmem, htake⟩
          · refine .inl ⟨hlast hnone, ?_⟩
            simp only [resumeNext, hconnected]
            split
            · rfl
            · rfl
            · rename_i found _ hfound
              exact absurd hfound (htake _)
          · refine .inr ⟨row, hmem, rest, ?_⟩
            simp only [resumeNext, hconnected, htake]
            exact flushRow_cases (hrow row htaken)

/-- **What an iteration does after it**, where it keeps its message. -/
theorem resumeSending_cases {i rest : ℕ} {nowMs : ℤ} {frame : EnqueueFrame} {r : Connector × Flush}
    (hkeeps : FlushKeeps crates policy st i env (.sending row nowMs frame rest))
    (h : resumeSending policy st row nowMs frame rest env = some r) :
    (∃ st', DeadLettered st st' row ∧ r = (st', .next rest)) ∨
    (∃ back, message back = message row ∧
      (∀ other ∈ st.outboundQueue, other.value.frameId ≠ back.value.frameId) ∧
      st.client = .stopped ∧
      r = ({ st with outboundQueue := st.outboundQueue ++ [back] }, .done)) ∨
    (st.client ≠ .stopped ∧
      r = ({ st with channel := st.channel ++ [.enqueue frame] }, .next rest)) := by
  unfold resumeSending at h
  split at h
  · rename_i hstopped
    have hcan := hkeeps hstopped
    split at h
    · rename_i hattempts
      rw [if_pos hattempts] at hcan
      obtain ⟨_, hmove, hdead⟩ := deadLettered attemptsReason_trim hcan
      rw [hmove] at h
      cases h
      exact .inl ⟨_, hdead, rfl⟩
    · rename_i hattempts
      rw [if_neg hattempts] at hcan
      split at h
      · rename_i queue hqueue
        cases h
        obtain ⟨rfl, hfree⟩ := Outbound.insertRow_spec hqueue
        exact .inr (.inl ⟨{ row with value := { row.value with
          attemptCount := row.value.attemptCount + 1
          nextAttemptAtMs := nowMs + policy.retryDelayMs (row.value.attemptCount + 1) } },
          rfl, hfree, hstopped, rfl⟩)
      · rename_i error herror
        have hok : ∃ queue, requeueOutboundRetry st.outboundQueue row
            (nowMs + policy.retryDelayMs (row.value.attemptCount + 1))
            (env.statement env.insertOk) = .ok queue := by
          refine ⟨_, bind_eq_ok.mpr ⟨⟨⟩, ?_, rfl⟩⟩
          rw [check_eq_ok, Bool.and_eq_true]
          refine ⟨hcan.1, List.all_eq_true.mpr ?_⟩
          intro other hother
          exact decide_eq_true (hcan.2 other hother)
        obtain ⟨queue, hqueue⟩ := hok
        rw [herror] at hqueue
        cases hqueue
  · rename_i hrunning
    split at h
    · cases h
      exact .inr (.inr ⟨hrunning, rfl⟩)
    · cases h

/-! ### Where a message is -/

/-- The places where a message can be. -/
inductive Held (crates : Crates) (st : Connector) (m : Message) : Prop
  | queued {row : Tracked OutboundQueueItem} (hmem : row ∈ st.outboundQueue)
      (hm : message row = m)
  | deadLettered {item : OutboundDeadLetterItem} (hmem : item ∈ st.outboundDeadLetter)
      (hm : item.toMessage = m)
  | inHand {row : Tracked OutboundQueueItem} {nowMs : ℤ} {frame : EnqueueFrame} {maxItems : ℕ}
      (hmem : .sending row nowMs frame maxItems ∈ st.flushes) (hm : message row = m)
  | inChannel {frame : EnqueueFrame} (hmem : .enqueue frame ∈ st.channel)
      (hm : IsFrameOf crates frame m)
  | writing {frame : EnqueueFrame} (hclient : st.client = .connected (some (.enqueue frame)))
      (hm : IsFrameOf crates frame m)
  | written {frame : EnqueueFrame} (hmem : .enqueue frame ∈ st.written)
      (hm : IsFrameOf crates frame m)

/-- **The invariant**: every accepted message is somewhere, and with no flush in progress it is
not on its way to the socket. -/
structure Inv (crates : Crates) (st : Connector) : Prop where
  ids : (st.outboundQueue.map fun row => row.value.frameId).Nodup
  closed : st.client = .stopped → st.channel = []
  frames : ∀ row nowMs frame maxItems, .sending row nowMs frame maxItems ∈ st.flushes →
    IsFrameOf crates frame (message row)
  drained : Quiet st → Drained st
  held : ∀ m ∈ st.accepted, Held crates st m

theorem inv_empty : Inv crates .empty where
  ids := List.nodup_nil
  closed _ := rfl
  frames := by
    intro row nowMs frame maxItems hmem
    cases hmem
  drained _ := ⟨by simp [Connector.empty], by simp [Connector.empty, Client.writing]⟩
  held := by
    intro m hm
    cases hm

/-- In a quiet state a message is in a table, or written. -/
theorem Inv.accounted (h : Inv crates st) (hquiet : Quiet st) (hm : m ∈ st.accepted) :
    Accounted crates st m := by
  obtain ⟨hchannel, hwriting⟩ := h.drained hquiet
  cases h.held m hm with
  | queued hmem hm => exact .inl ⟨_, hmem, hm⟩
  | deadLettered hmem hm => exact .inr (.inl ⟨_, hmem, hm⟩)
  | inHand hmem _ => cases hquiet _ hmem
  | inChannel hmem _ => cases hchannel _ hmem
  | writing hclient _ =>
      rw [hclient] at hwriting
      cases hwriting _ rfl
  | written hmem hm => exact .inr (.inr ⟨_, hmem, hm⟩)

/-! ### Rows that stay -/

/-- Two rows of the queue with one frame id are the same. -/
theorem row_eq_of_frameId {queue : Queue} {a b : Tracked OutboundQueueItem}
    (hids : (queue.map fun row => row.value.frameId).Nodup) (ha : a ∈ queue) (hb : b ∈ queue)
    (h : a.value.frameId = b.value.frameId) : a = b :=
  List.inj_on_of_nodup_map hids ha hb h

theorem ids_deleteRow {queue : Queue} (frameId : RString)
    (hids : (queue.map fun row => row.value.frameId).Nodup) :
    ((deleteRow frameId queue).map fun row => row.value.frameId).Nodup :=
  hids.sublist (List.filter_sublist.map _)

theorem ids_append {queue : Queue} (hids : (queue.map fun row => row.value.frameId).Nodup)
    (hfree : ∀ other ∈ queue, other.value.frameId ≠ row.value.frameId) :
    ((queue ++ [row]).map fun r => r.value.frameId).Nodup := by
  rw [List.map_append, List.nodup_append]
  refine ⟨hids, List.nodup_singleton _, ?_⟩
  intro a ha b hb
  obtain ⟨other, hother, rfl⟩ := List.mem_map.mp ha
  rw [List.map_singleton, List.mem_singleton] at hb
  rw [hb]
  exact hfree other hother

/-- A message leaves the queue only with the row that is taken. -/
theorem Held.take (h : Held crates st m)
    (hids : (st.outboundQueue.map fun row => row.value.frameId).Nodup)
    (hrow : row ∈ st.outboundQueue) :
    message row = m ∨
      Held crates { st with outboundQueue := deleteRow row.value.frameId st.outboundQueue } m := by
  cases h with
  | @queued other hmem hm =>
      by_cases heq : other.value.frameId = row.value.frameId
      · have hsame := row_eq_of_frameId hids hmem hrow heq
        exact .inl (hsame ▸ hm)
      · exact .inr (.queued (List.mem_filter.mpr ⟨hmem, decide_eq_true heq⟩) hm)
  | deadLettered hmem hm => exact .inr (.deadLettered hmem hm)
  | inHand hmem hm => exact .inr (.inHand hmem hm)
  | inChannel hmem hm => exact .inr (.inChannel hmem hm)
  | writing hclient hm => exact .inr (.writing hclient hm)
  | written hmem hm => exact .inr (.written hmem hm)

variable (crates) in
/-- A row that becomes a dead letter keeps its message, and drops no other. -/
theorem DeadLettered.held (hdead : DeadLettered st st' row) :
    Held crates st' (message row) ∧ ∀ m, Held crates st m → Held crates st' m := by
  obtain ⟨item, hitem, rfl⟩ := hdead.written
  refine ⟨.deadLettered (List.mem_append_right _ (List.mem_singleton_self item)) hitem, ?_⟩
  intro m h
  cases h with
  | queued hmem hm => exact .queued hmem hm
  | @deadLettered other hmem hm =>
      by_cases heq : other.frameId = row.value.frameId
      · have hsame := hdead.replaces other hmem heq
        refine .deadLettered (List.mem_append_right _ (List.mem_singleton_self item)) ?_
        rw [hitem, ← hsame, hm]
      · exact .deadLettered
          (List.mem_append_left _ (List.mem_filter.mpr ⟨hmem, decide_eq_true heq⟩)) hm
  | inHand hmem hm => exact .inHand hmem hm
  | inChannel hmem hm => exact .inChannel hmem hm
  | writing hclient hm => exact .writing hclient hm
  | written hmem hm => exact .written hmem hm

/-! ### Pieces of a flush -/

/-- A message stays where it is when a flush goes on, if the flush does not have it in hand. -/
theorem Held.set {i : ℕ} {flush : Flush} (h : Held crates st m) (hi : st.flushes[i]? = some flush)
    (flush' : Flush) :
    (∃ row nowMs frame rest, flush = .sending row nowMs frame rest ∧ message row = m) ∨
      Held crates { st with flushes := st.flushes.set i flush' } m := by
  cases h with
  | queued hmem hm => exact .inr (.queued hmem hm)
  | deadLettered hmem hm => exact .inr (.deadLettered hmem hm)
  | inHand hmem hm =>
      rcases Interleave.mem_set_or_eq hi hmem with heq | hset
      · exact .inl ⟨_, _, _, _, heq.symm, hm⟩
      · exact .inr (.inHand hset hm)
  | inChannel hmem hm => exact .inr (.inChannel hmem hm)
  | writing hclient hm => exact .inr (.writing hclient hm)
  | written hmem hm => exact .inr (.written hmem hm)

/-- A flush that goes on is in progress. -/
theorem not_quiet_set {i : ℕ} {flush : Flush} (flush' : Flush) (hi : st.flushes[i]? = some flush)
    (hflush : flush' ≠ .done) : ¬Quiet { st with flushes := st.flushes.set i flush' } :=
  fun hquiet => hflush (hquiet flush' (Interleave.mem_set_self hi))

/-- The frames in hand after a flush has gone on. -/
theorem frames_set {i : ℕ} {flush : Flush}
    (hframes : ∀ row nowMs frame rest, .sending row nowMs frame rest ∈ st.flushes →
      IsFrameOf crates frame (message row))
    (hnew : ∀ row nowMs frame rest, flush = .sending row nowMs frame rest →
      IsFrameOf crates frame (message row)) :
    ∀ row nowMs frame rest, .sending row nowMs frame rest ∈ st.flushes.set i flush →
      IsFrameOf crates frame (message row) := by
  intro row nowMs frame rest hmem
  rcases List.mem_or_eq_of_mem_set hmem with hmem | heq
  · exact hframes row nowMs frame rest hmem
  · exact hnew row nowMs frame rest heq.symm

/-- Where everything else stays in place, so does the message. -/
theorem Held.mono (h : Held crates st m) (hqueue : st.outboundQueue ⊆ st'.outboundQueue)
    (hdead : st.outboundDeadLetter ⊆ st'.outboundDeadLetter) (hflushes : st.flushes ⊆ st'.flushes)
    (hchannel : st.channel ⊆ st'.channel) (hclient : st'.client = st.client)
    (hwritten : st.written ⊆ st'.written) : Held crates st' m := by
  cases h with
  | queued hmem hm => exact .queued (hqueue hmem) hm
  | deadLettered hmem hm => exact .deadLettered (hdead hmem) hm
  | inHand hmem hm => exact .inHand (hflushes hmem) hm
  | inChannel hmem hm => exact .inChannel (hchannel hmem) hm
  | writing hwriting hm => exact .writing (hclient.trans hwriting) hm
  | written hmem hm => exact .written (hwritten hmem) hm

theorem DeadLettered.setFlushes (hdead : DeadLettered st st' row) (flushes : List Flush) :
    DeadLettered { st with flushes } { st' with flushes } row := by
  obtain ⟨item, hitem, rfl⟩ := hdead.written
  exact ⟨hdead.replaces, item, hitem, rfl⟩

/-- The invariant, after a row that was in hand has become a dead letter. -/
theorem DeadLettered.inv (hdead : DeadLettered st st' row) {i rest : ℕ} {flush : Flush}
    (hi : st.flushes[i]? = some flush)
    (hids : (st.outboundQueue.map fun r => r.value.frameId).Nodup)
    (hclosed : st.client = .stopped → st.channel = [])
    (hframes : ∀ row nowMs frame rest, .sending row nowMs frame rest ∈ st.flushes →
      IsFrameOf crates frame (message row))
    (hheld : ∀ m ∈ st.accepted, message row = m ∨
      Held crates { st with flushes := st.flushes.set i (.next rest) } m) :
    Inv crates { st' with flushes := st'.flushes.set i (.next rest) } := by
  have hafter := (hdead.setFlushes (st.flushes.set i (.next rest))).held crates
  obtain ⟨item, _, rfl⟩ := hdead.written
  refine ⟨hids, hclosed, frames_set hframes (by simp), ?_, ?_⟩
  · intro hquiet
    exact absurd hquiet (not_quiet_set (.next rest) hi (by simp))
  · intro m hm
    rcases hheld m hm with rfl | hset
    · exact hafter.1
    · exact hafter.2 m hset

theorem Inv.resumeNext (h : Inv crates st) {i maxItems : ℕ}
    (hi : st.flushes[i]? = some (.next maxItems))
    (hkeeps : FlushKeeps crates policy st i env (.next maxItems)) :
    Inv crates { (resumeNext crates policy st maxItems env).1 with
      flushes := (resumeNext crates policy st maxItems env).1.flushes.set i
        (resumeNext crates policy st maxItems env).2 } := by
  rcases resumeNext_cases hkeeps with ⟨hlast, hend⟩ | ⟨row, hrow, rest, hcases⟩
  · rw [hend]
    refine ⟨h.ids, h.closed, frames_set h.frames (by simp), hlast, ?_⟩
    intro m hm
    rcases (h.held m hm).set hi .done with ⟨_, _, _, _, hflush, _⟩ | hset
    · cases hflush
    · exact hset
  · have htaken : ∀ flush, ∀ m ∈ st.accepted, message row = m ∨
        Held crates { st with
          outboundQueue := deleteRow row.value.frameId st.outboundQueue
          flushes := st.flushes.set i flush } m := by
      intro flush m hm
      rcases (h.held m hm).take h.ids hrow with heq | hheld
      · exact .inl heq
      · rcases hheld.set hi flush with ⟨_, _, _, _, hflush, _⟩ | hset
        · cases hflush
        · exact .inr hset
    rcases hcases with ⟨st', hdead, hend⟩ | ⟨frame, hframe, hend⟩
    · rw [hend]
      exact hdead.inv hi (ids_deleteRow _ h.ids) h.closed h.frames (htaken _)
    · rw [hend]
      refine ⟨ids_deleteRow _ h.ids, h.closed, frames_set h.frames ?_, ?_, ?_⟩
      · intro row' nowMs frame' rest' heq
        cases heq
        exact hframe
      · intro hquiet
        exact absurd hquiet (not_quiet_set (.sending row env.nowMs frame rest) hi
          (by simp))
      · intro m hm
        rcases htaken _ m hm with rfl | hheld
        · exact .inHand (Interleave.mem_set_self hi) rfl
        · exact hheld

theorem Inv.resumeSending (h : Inv crates st) {i rest : ℕ} {nowMs : ℤ} {frame : EnqueueFrame}
    {r : Connector × Flush} (hi : st.flushes[i]? = some (.sending row nowMs frame rest))
    (hkeeps : FlushKeeps crates policy st i env (.sending row nowMs frame rest))
    (hr : resumeSending policy st row nowMs frame rest env = some r) :
    Inv crates { r.1 with flushes := r.1.flushes.set i r.2 } := by
  have hframe := h.frames row nowMs frame rest (List.mem_of_getElem? hi)
  have hheld : ∀ flush, ∀ m ∈ st.accepted, message row = m ∨
      Held crates { st with flushes := st.flushes.set i flush } m := by
    intro flush m hm
    rcases (h.held m hm).set hi flush with ⟨_, _, _, _, hflush, heq⟩ | hset
    · cases hflush
      exact .inl heq
    · exact .inr hset
  rcases resumeSending_cases hkeeps hr with
    ⟨st', hdead, rfl⟩ | ⟨back, hback, hfree, hstopped, rfl⟩ | ⟨hrunning, rfl⟩
  · exact hdead.inv hi h.ids h.closed h.frames (hheld _)
  · -- the row goes back; the client has stopped, and its channel is empty
    refine ⟨ids_append h.ids hfree, h.closed, frames_set h.frames (by simp), ?_, ?_⟩
    · intro _
      refine ⟨?_, ?_⟩
      · simp [h.closed hstopped]
      · simp [hstopped, Client.writing]
    · intro m hm
      rcases hheld .done m hm with rfl | hset
      · exact .queued (List.mem_append_right _ (List.mem_singleton_self back)) hback
      · exact hset.mono (List.subset_append_left _ _) (fun _ => id) (fun _ => id) (fun _ => id)
          rfl (fun _ => id)
  · refine ⟨h.ids, fun hstopped => absurd hstopped hrunning, frames_set h.frames (by simp), ?_, ?_⟩
    · intro hquiet
      exact absurd hquiet (not_quiet_set (.next rest) hi (by simp))
    · intro m hm
      rcases hheld (.next rest) m hm with rfl | hset
      · exact .inChannel (List.mem_append_right _ (List.mem_singleton_self _)) hframe
      · exact hset.mono (fun _ => id) (fun _ => id) (fun _ => id) (List.subset_append_left _ _)
          rfl (fun _ => id)

/-! ### The other steps -/

theorem Inv.enqueue (h : Inv crates st)
    (hfree : ∀ other ∈ st.outboundQueue, other.value.frameId ≠ row.value.frameId) :
    Inv crates { st with
      outboundQueue := st.outboundQueue ++ [row]
      accepted := st.accepted ++ [message row] } := by
  refine ⟨ids_append h.ids hfree, h.closed, h.frames, h.drained, ?_⟩
  intro m hm
  rcases List.mem_append.mp hm with hm | hm
  · exact (h.held m hm).mono (List.subset_append_left _ _) (fun _ => id) (fun _ => id)
      (fun _ => id) rfl (fun _ => id)
  · exact .queued (List.mem_append_right _ (List.mem_singleton_self row))
      (List.mem_singleton.mp hm).symm

theorem Inv.startFlush (h : Inv crates st) (maxItems : ℕ) :
    Inv crates { st with flushes := st.flushes ++ [.next maxItems] } := by
  refine ⟨h.ids, h.closed, ?_, ?_, ?_⟩
  · intro row nowMs frame rest hmem
    rcases List.mem_append.mp hmem with hmem | hmem
    · exact h.frames row nowMs frame rest hmem
    · cases List.mem_singleton.mp hmem
  · intro hquiet
    cases hquiet (.next maxItems) (List.mem_append_right _ (List.mem_singleton_self _))
  · intro m hm
    exact (h.held m hm).mono (fun _ => id) (fun _ => id) (List.subset_append_left _ _)
      (fun _ => id) rfl (fun _ => id)

theorem Inv.sendFrame (h : Inv crates st) {frame : ConnectorFrame}
    (hframe : isMessage frame = false) (hrunning : st.client ≠ .stopped) :
    Inv crates { st with channel := st.channel ++ [frame] } := by
  refine ⟨h.ids, fun hstopped => absurd hstopped hrunning, h.frames, ?_, ?_⟩
  · intro hquiet
    obtain ⟨hchannel, hwriting⟩ := h.drained hquiet
    refine ⟨?_, hwriting⟩
    intro other hother
    rcases List.mem_append.mp hother with hother | hother
    · exact hchannel other hother
    · rw [List.mem_singleton.mp hother]
      exact hframe
  · intro m hm
    exact (h.held m hm).mono (fun _ => id) (fun _ => id) (fun _ => id)
      (List.subset_append_left _ _) rfl (fun _ => id)

/-- The client goes on with no frame in its hands. -/
theorem Inv.setClient (h : Inv crates st) (client : Client) (channel : List ConnectorFrame)
    (hfree : ∀ frame ∈ st.client.writing, isMessage frame = false)
    (hclient : client.writing = none) (hclosed : client = .stopped → channel = [])
    (hmessages : ∀ frame, isMessage frame = true → (frame ∈ channel ↔ frame ∈ st.channel)) :
    Inv crates { st with client, channel } := by
  refine ⟨h.ids, hclosed, h.frames, ?_, ?_⟩
  · intro hquiet
    obtain ⟨hchannel, _⟩ := h.drained hquiet
    refine ⟨?_, by simp [hclient]⟩
    intro frame hmem
    cases hmessage : isMessage frame with
    | false => rfl
    | true =>
        rw [← hmessage]
        exact hchannel frame ((hmessages frame hmessage).mp hmem)
  · intro m hm
    cases h.held m hm with
    | queued hmem hm => exact .queued hmem hm
    | deadLettered hmem hm => exact .deadLettered hmem hm
    | inHand hmem hm => exact .inHand hmem hm
    | inChannel hmem hm => exact .inChannel ((hmessages _ rfl).mpr hmem) hm
    | writing hwriting _ =>
        rw [hwriting] at hfree
        cases hfree _ rfl
    | written hmem hm => exact .written hmem hm

theorem Inv.receive (h : Inv crates st) (hkeeps : StepKeeps crates policy st .receive)
    (hr : receive crates st = some st') : Inv crates st' := by
  unfold OutboundRelay.receive at hr
  split at hr
  · rename_i frame channel hclient hchannel
    split at hr
    · rename_i error herror
      cases hr
      -- a frame that is refused is none of a message
      have hframe : isMessage frame = false := by
        cases hmessage : isMessage frame with
        | false => rfl
        | true =>
            have hok := hkeeps frame (by rw [hchannel]; rfl) hmessage
            rw [herror] at hok
            cases hok
      refine h.setClient st.client channel ?_ ?_ ?_ ?_
      · simp [hclient, Client.writing]
      · rw [hclient]
        rfl
      · rw [hclient]
        nofun
      · intro other hother
        rw [hchannel, List.mem_cons]
        refine ⟨.inr, ?_⟩
        rintro (rfl | hmem)
        · rw [hframe] at hother
          cases hother
        · exact hmem
    · cases hr
      refine ⟨h.ids, nofun, h.frames, ?_, ?_⟩
      · intro hquiet
        obtain ⟨hall, _⟩ := h.drained hquiet
        rw [hchannel] at hall
        refine ⟨fun other hother => hall other (List.mem_cons_of_mem frame hother), ?_⟩
        intro other hother
        rw [← Option.some.inj hother]
        exact hall frame List.mem_cons_self
      · intro m hm
        cases h.held m hm with
        | queued hmem hm => exact .queued hmem hm
        | deadLettered hmem hm => exact .deadLettered hmem hm
        | inHand hmem hm => exact .inHand hmem hm
        | inChannel hmem hof =>
            rw [hchannel] at hmem
            rcases List.mem_cons.mp hmem with rfl | hmem
            · exact .writing rfl hof
            · exact .inChannel hmem hof
        | writing hwriting _ =>
            rw [hclient] at hwriting
            cases hwriting
        | written hmem hm => exact .written hmem hm
  · cases hr

theorem Inv.write (h : Inv crates st) {ok : Bool} (hkeeps : StepKeeps crates policy st (.write ok))
    (hr : write st ok = some st') : Inv crates st' := by
  unfold OutboundRelay.write at hr
  split at hr
  · rename_i frame hclient
    split at hr
    · cases hr
      refine ⟨h.ids, nofun, h.frames, ?_, ?_⟩
      · intro hquiet
        exact ⟨(h.drained hquiet).1, nofun⟩
      · intro m hm
        cases h.held m hm with
        | queued hmem hm => exact .queued hmem hm
        | deadLettered hmem hm => exact .deadLettered hmem hm
        | inHand hmem hm => exact .inHand hmem hm
        | inChannel hmem hm => exact .inChannel hmem hm
        | writing hwriting hof =>
            rw [hclient] at hwriting
            cases hwriting
            exact .written (List.mem_append_right _ (List.mem_singleton_self _)) hof
        | written hmem hm => exact .written (List.mem_append_left _ hmem) hm
    · rename_i hfailed
      cases hr
      exact h.setClient .reconnecting st.channel
        (hkeeps (by simpa using hfailed)) rfl nofun (fun _ _ => Iff.rfl)
  · cases hr

/-! ### Runs -/

/-- **One step.** -/
theorem inv_step {e : Event} (h : Inv crates st) (hkeeps : StepKeeps crates policy st e)
    (hstep : step crates policy st e = some st') : Inv crates st' := by
  cases e with
  | enqueue input env =>
      simp only [step] at hstep
      split at hstep
      · cases hstep
        exact h
      · rename_i queue hqueue
        obtain ⟨row, rfl, _, _, hfree⟩ := Outbound.enqueueOutbound_spec hqueue
        rw [List.drop_left] at hstep
        cases hstep
        exact h.enqueue hfree
  | startFlush maxItems =>
      cases hstep
      exact h.startFlush maxItems
  | resumeFlush i env =>
      obtain ⟨flush, hi, hstep⟩ := Option.bind_eq_some_iff.mp hstep
      obtain ⟨r, hr, rfl⟩ := Option.map_eq_some_iff.mp hstep
      have hflush := hkeeps flush hi
      cases flush with
      | next maxItems =>
          cases hr
          exact h.resumeNext hi hflush
      | sending row nowMs frame rest => exact h.resumeSending hi hflush hr
      | done => cases hr
  | sendFrame frame =>
      cases frame
      all_goals simp only [step, Option.ite_none_left_eq_some, Option.some.injEq,
        reduceCtorEq] at hstep
      all_goals
        obtain ⟨hopen, rfl⟩ := hstep
        exact h.sendFrame rfl fun hstopped => hopen (.inl hstopped)
  | connect =>
      obtain ⟨hclient, heq⟩ := Option.ite_none_right_eq_some.mp hstep
      cases heq
      exact h.setClient (.connected none) st.channel
        (by simp [hclient, Client.writing]) rfl nofun (fun _ _ => Iff.rfl)
  | receive => exact h.receive hkeeps hstep
  | write ok => exact h.write hkeeps hstep
  | disconnect =>
      obtain ⟨hclient, heq⟩ := Option.ite_none_right_eq_some.mp hstep
      cases heq
      exact h.setClient .reconnecting st.channel
        (by simp [hclient, Client.writing]) rfl nofun (fun _ _ => Iff.rfl)
  | shutdown =>
      obtain ⟨hclient, heq⟩ := Option.ite_none_right_eq_some.mp hstep
      cases heq
      refine h.setClient .stopped [] ?_ rfl (fun _ => rfl) ?_
      · rcases hclient with hclient | hclient
        · simp [hclient, Client.writing]
        · simp [hclient, Client.writing]
      · intro frame hframe
        refine ⟨nofun, ?_⟩
        intro hmem
        rw [hkeeps frame hmem] at hframe
        cases hframe

/-- **Every run whose steps keep their messages.** With no flush in progress, every accepted
message is in the queue, a dead letter, or written to a socket. -/
theorem outbound_kept {events : List Event}
    (hkeeps : AllSteps (step crates policy) (StepKeeps crates policy) .empty events)
    (hrun : exec (step crates policy) .empty events = some st) (hquiet : Quiet st) :
    ∀ m ∈ st.accepted, Accounted crates st m := by
  intro m hm
  have hinv := exec_invariant (Inv crates) (fun _ _ _ hi hk hs => inv_step hi hk hs) inv_empty
    hkeeps hrun
  exact hinv.accounted hquiet hm

end

/-! ## A socket that fails, and one that does not -/

section Example

def exampleCrates : Crates where
  ulidFromString := exampleUlidFromString
  toString _ := rs "null"
  fromStr _ := some .null

def examplePolicy : OutboundRetryPolicy where
  retryDelayMs _ := 1000
  maxAttempts := 30
  maxAgeMs := 86400000

def exampleInput : Tracked EnqueueOutboundInput where
  request := ⟨none, none, .null, none, none⟩
  recipient := rs "did:cdi:registry.example.com:agent:01HF7YAT00W6W7CM7N3W5FDXT4"
  value :=
    { frameId := rs "01HF7YAT00W6W7CM7N3W5FDXR0", frameVersion := 1, frameType := rs "enqueue"
      toAgentDid := rs "did:cdi:registry.example.com:agent:01HF7YAT00W6W7CM7N3W5FDXT4"
      groupId := none, payloadJson := rs "null", conversationId := none, replyTo := none }

/-- Every statement succeeds. -/
def exampleEnv : Env where
  nowMs := 1700000000000
  ts := rs "2023-11-14T22:13:20.000Z"
  readOk := true
  deleteOk := true
  insertOk := true
  parseError := []

/-- A flush hands a message over, the client takes its frame, and the write ends. -/
def exampleRun (written : Bool) : List Event :=
  [.enqueue exampleInput exampleEnv, .connect, .startFlush 1, .resumeFlush 0 exampleEnv,
    .resumeFlush 0 exampleEnv, .receive, .write written, .resumeFlush 0 exampleEnv]

/-- The messages that were accepted, and the contents of the tables and the socket. -/
def exampleOutcome (written : Bool) : Option (ℕ × ℕ × ℕ × ℕ × List Flush) :=
  (exec (step exampleCrates examplePolicy) .empty (exampleRun written)).map fun st =>
    (st.accepted.length, st.outboundQueue.length, st.outboundDeadLetter.length,
      st.written.length, st.flushes)

theorem exampleOutcome_failed : exampleOutcome false = some (1, 0, 0, 0, [.done]) := by decide

/-- **A message is dropped** where the socket fails while its frame is being written. -/
theorem not_outbound_kept :
    ¬∀ (crates : Crates) (policy : OutboundRetryPolicy) (events : List Event) (st : Connector),
      exec (step crates policy) .empty events = some st → Quiet st →
        ∀ m ∈ st.accepted, Accounted crates st m := by
  intro h
  obtain ⟨st, hrun, houtcome⟩ := Option.map_eq_some_iff.mp exampleOutcome_failed
  simp only [Prod.mk.injEq] at houtcome
  obtain ⟨haccepted, hqueue, hdead, hwritten, hflushes⟩ := houtcome
  obtain ⟨m, hm⟩ := List.length_eq_one_iff.mp haccepted
  have hquiet : Quiet st := by
    intro flush hflush
    rw [hflushes] at hflush
    exact List.mem_singleton.mp hflush
  have hnowhere := h exampleCrates examplePolicy (exampleRun false) st hrun hquiet m
    (by rw [hm]; exact List.mem_singleton_self m)
  rw [Accounted, List.length_eq_zero_iff.mp hqueue, List.length_eq_zero_iff.mp hdead,
    List.length_eq_zero_iff.mp hwritten] at hnowhere
  simp at hnowhere

theorem exampleOutcome_written : exampleOutcome true = some (1, 0, 0, 1, [.done]) := by decide

/-- Where the socket takes the frame, the message is accounted for. -/
theorem exampleRun_kept :
    ∃ st, exec (step exampleCrates examplePolicy) .empty (exampleRun true) = some st ∧
      st.accepted.length = 1 ∧ ∀ m ∈ st.accepted, Accounted exampleCrates st m := by
  obtain ⟨st, hrun, houtcome⟩ := Option.map_eq_some_iff.mp exampleOutcome_written
  simp only [Prod.mk.injEq] at houtcome
  obtain ⟨haccepted, _, _, _, hflushes⟩ := houtcome
  have hkeeps : AllSteps (step exampleCrates examplePolicy)
      (StepKeeps exampleCrates examplePolicy) .empty (exampleRun true) := by decide
  have hquiet : Quiet st := by
    intro flush hflush
    rw [hflushes] at hflush
    exact List.mem_singleton.mp hflush
  exact ⟨st, hrun, haccepted, outbound_kept hkeeps hrun hquiet⟩

end Example

end Clawdentity.Rust.OutboundRelay
