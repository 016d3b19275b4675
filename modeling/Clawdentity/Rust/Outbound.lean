import Clawdentity.Lib.Interleave
import Clawdentity.Rust.Inbound

/-!
# Messages that leave the connector

The HTTP server of the connector checks a message and puts one row for each recipient into
the outbound queue; a flush takes the rows that are due and hands their frames to the
websocket client. A handler and a flush wait where they ask for the members of a group and
where they hand over a frame, and the other threads may act between any two statements on
the store.

Each row and each frame carries the request and the recipient it was made for, which no code
reads. The table of dead letters, which is only listed, is left out.

## Main definitions

* `resolveOutboundRouting`, `collectRecipients` — the checks of a request.
* `enqueueOutbound`, `takeDueOutbound`, `requeueOutboundRetry` — the queue.
* `outbound` — any interleaving of handlers and flushes.
* `outbound_tracks` — a frame has the fields of the request it was made for.
-/

namespace Clawdentity.Rust.Outbound

open Js Lib Lib.Interleave Lib.Run
open Inbound (Crates parseOptionalNonEmpty)

/-! ## Requests -/

structure OutboundRequest where
  toAgentDid : Option RString
  groupId : Option RString
  payload : RValue
  conversationId : Option RString
  replyTo : Option RString
  deriving DecidableEq

/-- The derived `Deserialize`. -/
def requestOfValue (v : RValue) : Option OutboundRequest := do
  let toAgentDid ← getOptString v "toAgentDid"
  let groupId ← getOptString v "groupId"
  let payload ← v.get? (rs "payload")
  let conversationId ← getOptString v "conversationId"
  let replyTo ← getOptString v "replyTo"
  return { toAgentDid, groupId, payload, conversationId, replyTo }

inductive OutboundRouting
  | direct (toAgentDid : RString)
  | group (groupId : RString)
  deriving DecidableEq

structure AppErrorResponse where
  status : ℕ
  code : String
  message : String
  deriving DecidableEq

def invalidOutboundRoute : AppErrorResponse :=
  ⟨400, "INVALID_OUTBOUND_ROUTE", "Provide exactly one of toAgentDid or groupId"⟩

def invalidToAgentDid : AppErrorResponse :=
  ⟨400, "INVALID_TO_AGENT_DID", "toAgentDid must be a valid agent DID"⟩

def invalidGroupId : AppErrorResponse :=
  ⟨400, "INVALID_GROUP_ID", "groupId must be a valid group ID"⟩

def outboundQueueFull : AppErrorResponse :=
  ⟨507, "CONNECTOR_OUTBOUND_QUEUE_FULL", "Connector outbound queue is full"⟩

def groupMembershipUnavailable : AppErrorResponse :=
  ⟨503, "GROUP_MEMBERSHIP_UNAVAILABLE", "Group membership verification is unavailable"⟩

def groupMembershipLookupFailed : AppErrorResponse :=
  ⟨503, "GROUP_MEMBERSHIP_LOOKUP_FAILED", "Group membership verification is unavailable"⟩

def groupMembershipInvalidResponse : AppErrorResponse :=
  ⟨502, "GROUP_MEMBERSHIP_INVALID_RESPONSE", "Group membership response is invalid"⟩

section
variable (ulidFromString : RString → Bool)

def resolveOutboundRouting (request : OutboundRequest) :
    Except AppErrorResponse OutboundRouting :=
  match parseOptionalNonEmpty request.toAgentDid, parseOptionalNonEmpty request.groupId with
  | some _, some _ => .error invalidOutboundRoute
  | none, none => .error invalidOutboundRoute
  | some toAgentDid, none =>
      if isAgentDid ulidFromString toAgentDid then .ok (.direct toAgentDid)
      else .error invalidToAgentDid
  | none, some groupId =>
      if isGroupId ulidFromString groupId then .ok (.group groupId) else .error invalidGroupId

/-- The loop over the members of a group: each agent once, without the sender. It answers
`none` at a member that is no agent DID. -/
def collectRecipients (localAgentDid : RString) :
    List RString → List RString → Option (List RString)
  | [], recipients => some recipients
  | member :: rest, recipients =>
      let trimmed := trim member
      if trimmed.isEmpty then collectRecipients localAgentDid rest recipients
      else if !isAgentDid ulidFromString trimmed then none
      else if trimmed = localAgentDid || trimmed ∈ recipients then
        collectRecipients localAgentDid rest recipients
      else collectRecipients localAgentDid rest (recipients ++ [trimmed])

end

/-! ## The queue -/

/-- A record with the request and the recipient it was made for. -/
structure Tracked (α : Type) where
  request : OutboundRequest
  recipient : RString
  value : α
  deriving DecidableEq

/-- A row of `outbound_queue`, without its columns for diagnosis. -/
structure OutboundQueueItem where
  frameId : RString
  frameVersion : ℤ
  frameType : RString
  toAgentDid : RString
  groupId : Option RString
  payloadJson : RString
  conversationId : Option RString
  replyTo : Option RString
  createdAtMs : ℤ
  attemptCount : ℤ
  nextAttemptAtMs : ℤ
  deriving DecidableEq

structure EnqueueOutboundInput where
  frameId : RString
  frameVersion : ℤ
  frameType : RString
  toAgentDid : RString
  groupId : Option RString
  payloadJson : RString
  conversationId : Option RString
  replyTo : Option RString

inductive EnqueueError
  | required (field : String)
  | groupIdInvalid
  | sqlite
  deriving DecidableEq

abbrev Queue := List (Tracked OutboundQueueItem)

/-- What the environment decides in a piece of code. -/
structure Env where
  nowMs : ℤ
  /-- `now_iso`. -/
  ts : RString
  /-- `Ulid::new`. -/
  frameId : RString
  /-- `is_connected`. -/
  connected : Bool
  /-- The query succeeds. -/
  readOk : Bool
  /-- The statement that writes succeeds. -/
  writeOk : Bool
  /-- The members of the group, where they could be resolved. -/
  members : Option (List RString)
  /-- The client takes the frame. -/
  sendOk : Bool

/-- The insertion of a row, which fails where the frame id is there already. -/
def insertRow (queue : Queue) (row : Tracked OutboundQueueItem) (env : Env) :
    Except EnqueueError Queue := do
  check (env.writeOk && queue.all fun other => other.value.frameId ≠ row.value.frameId) .sqlite
  return queue ++ [row]

def enqueueOutbound (ulidFromString : RString → Bool) (queue : Queue)
    (input : Tracked EnqueueOutboundInput) (env : Env) : Except EnqueueError Queue := do
  let frameId := trim input.value.frameId
  let frameType := trim input.value.frameType
  let toAgentDid := trim input.value.toAgentDid
  let payloadJson := trim input.value.payloadJson
  check (!frameId.isEmpty) (.required "frame_id")
  check (!frameType.isEmpty) (.required "frame_type")
  check (!toAgentDid.isEmpty) (.required "to_agent_did")
  check (!payloadJson.isEmpty) (.required "payload_json")
  let conversationId := parseOptionalNonEmpty input.value.conversationId
  let groupId := parseOptionalNonEmpty input.value.groupId
  check (groupId.all (isGroupId ulidFromString)) .groupIdInvalid
  let replyTo := parseOptionalNonEmpty input.value.replyTo
  insertRow queue ⟨input.request, input.recipient,
    { frameId, frameVersion := input.value.frameVersion, frameType, toAgentDid, groupId,
      payloadJson, conversationId, replyTo, createdAtMs := env.nowMs, attemptCount := 0,
      nextAttemptAtMs := env.nowMs }⟩ env

def deleteRow (frameId : RString) (queue : Queue) : Queue :=
  queue.filter fun row => row.value.frameId ≠ frameId

def deleteOutbound (queue : Queue) (frameId : RString) (env : Env) : Queue :=
  if (trim frameId).isEmpty || !env.writeOk then queue else deleteRow (trim frameId) queue

/-- The order of `take_due_outbound`. -/
def isEarlier (a b : OutboundQueueItem) : Bool :=
  if a.nextAttemptAtMs ≠ b.nextAttemptAtMs then a.nextAttemptAtMs < b.nextAttemptAtMs
  else if a.createdAtMs ≠ b.createdAtMs then a.createdAtMs < b.createdAtMs
  else decide (a.frameId < b.frameId)

def firstDue (nowMs : ℤ) : Queue → Option (Tracked OutboundQueueItem)
  | [] => none
  | row :: rest =>
      if row.value.nextAttemptAtMs ≤ nowMs then
        match firstDue nowMs rest with
        | none => some row
        | some other => if isEarlier other.value row.value then some other else some row
      else firstDue nowMs rest

/-- The row that is due first, and the queue without it. A query that fails finds no row; a
deletion that fails is an error. -/
def takeDueOutbound (queue : Queue) (env : Env) :
    Except EnqueueError (Option (Tracked OutboundQueueItem × Queue)) :=
  match if env.readOk then firstDue env.nowMs queue else none with
  | none => .ok none
  | some row =>
      if env.writeOk then .ok (some (row, deleteRow row.value.frameId queue)) else .error .sqlite

def requeueOutboundRetry (queue : Queue) (row : Tracked OutboundQueueItem)
    (nextAttemptAtMs : ℤ) (env : Env) : Except EnqueueError Queue :=
  insertRow queue { row with value := { row.value with
    attemptCount := row.value.attemptCount + 1, nextAttemptAtMs } } env

/-! ## The code of a call -/

structure OutboundRetryPolicy where
  /-- `compute_retry_delay_ms`. -/
  retryDelayMs : ℤ → ℤ
  maxAttempts : ℤ
  maxAgeMs : ℤ

structure RuntimeServerState where
  localAgentDid : Option RString
  hasGroupMembersResolver : Bool
  hasRelaySender : Bool
  maxPending : ℤ

/-- The answer to a request. -/
inductive Reply
  /-- The body is not what the server expects. -/
  | rejected
  | error (response : AppErrorResponse)
  | persistFailed (error : EnqueueError)
  /-- The status 202. -/
  | accepted (groupId : Option RString) (frameIds : List RString)
  deriving DecidableEq

/-- A handler, or a flush of the runtime, which has no reply. -/
inductive Call
  /-- It waits for the members of the group. -/
  | resolving (request : OutboundRequest) (groupId localAgentDid : RString)
  | inserting (request : OutboundRequest) (groupId : Option RString)
      (recipients frameIds : List RString)
  /-- An insertion failed, and those before it are undone. -/
  | undoing (frameIds : List RString) (reply : Reply)
  | flushing (maxItems : ℕ) (reply : Option Reply)
  /-- It hands the frame of the row over. -/
  | sending (row : Tracked OutboundQueueItem) (nowMs : ℤ) (frame : EnqueueFrame) (maxItems : ℕ)
      (reply : Option Reply)
  | done (reply : Option Reply)
  deriving DecidableEq

structure Shared where
  queue : Queue
  /-- The frames that the client has taken, in their order. -/
  sent : List (Tracked EnqueueFrame)
  deriving DecidableEq

inductive Input
  | request (body : RValue)
  | flush (maxItems : ℕ)

section Code
variable (crates : Crates) (policy : OutboundRetryPolicy) (server : RuntimeServerState)

def ensureOutboundCapacity (queue : Queue) (requiredSlots : ℤ) (env : Env) :
    Except AppErrorResponse Unit :=
  let currentPending : ℤ := if env.readOk then queue.length else 0
  check (requiredSlots ≤ server.maxPending - currentPending) outboundQueueFull

/-- `outbound_handler`, up to the first row or the request for the members. -/
def startHandler (queue : Queue) (request : OutboundRequest) (env : Env) :
    Except AppErrorResponse Call := do
  let routing ← resolveOutboundRouting crates.ulidFromString request
  match routing with
  | .direct toAgentDid =>
      ensureOutboundCapacity server queue 1 env
      return .inserting request none [toAgentDid] []
  | .group groupId =>
      let localAgentDid ← (parseOptionalNonEmpty server.localAgentDid).elim
        (.error groupMembershipUnavailable) .ok
      check (isAgentDid crates.ulidFromString localAgentDid) groupMembershipUnavailable
      check server.hasGroupMembersResolver groupMembershipUnavailable
      return .resolving request groupId localAgentDid

/-- The handler of a group, after its members have been asked for. -/
def resumeResolving (queue : Queue) (request : OutboundRequest) (groupId localAgentDid : RString)
    (env : Env) : Except AppErrorResponse Call := do
  let rawMembers ← env.members.elim (.error groupMembershipLookupFailed) .ok
  let recipients ← (collectRecipients crates.ulidFromString localAgentDid rawMembers []).elim
    (.error groupMembershipInvalidResponse) .ok
  if recipients.isEmpty then return .done (some (.accepted (some groupId) []))
  else
    check (recipients.length < 2 ^ 63) outboundQueueFull
    ensureOutboundCapacity server queue recipients.length env
    return .inserting request (some groupId) recipients []

/-- `enqueue_outbound_frame`, with a fresh frame id. -/
def enqueueOutboundFrame (queue : Queue) (request : OutboundRequest) (groupId : Option RString)
    (recipient : RString) (env : Env) : Except EnqueueError Queue :=
  enqueueOutbound crates.ulidFromString queue ⟨request, recipient,
    { frameId := env.frameId, frameVersion := 1, frameType := rs "enqueue",
      toAgentDid := recipient, groupId, payloadJson := crates.toString request.payload,
      conversationId := request.conversationId, replyTo := request.replyTo }⟩ env

/-- The loop over the recipients. -/
def resumeInserting (st : Shared) (request : OutboundRequest) (groupId : Option RString)
    (recipients frameIds : List RString) (env : Env) : Shared × Call :=
  match recipients with
  | [] =>
      let reply := some (Reply.accepted groupId frameIds)
      (st, if server.hasRelaySender then .flushing frameIds.length reply else .done reply)
  | recipient :: rest =>
      match enqueueOutboundFrame crates st.queue request groupId recipient env with
      | .ok queue => ({ st with queue }, .inserting request groupId rest (frameIds ++ [env.frameId]))
      | .error error => (st, .undoing frameIds (.persistFailed error))

def resumeUndoing (st : Shared) (frameIds : List RString) (reply : Reply) (env : Env) :
    Shared × Call :=
  match frameIds with
  | [] => (st, .done (some reply))
  | frameId :: rest => ({ st with queue := deleteOutbound st.queue frameId env }, .undoing rest reply)

/-- The frame for a row. -/
def enqueueFrame (item : OutboundQueueItem) (payload : RValue) (env : Env) : EnqueueFrame where
  v := CONNECTOR_FRAME_VERSION
  id := item.frameId
  ts := env.ts
  toAgentDid := item.toAgentDid
  groupId := item.groupId
  payload := payload
  conversationId := item.conversationId
  replyTo := item.replyTo

/-- What becomes of a row that was taken. A row that is too old, or whose payload does not
parse, becomes a dead letter; the flush ends where an old row cannot be written there. -/
def flushRow (row : Tracked OutboundQueueItem) (maxItems : ℕ) (reply : Option Reply) (env : Env) :
    Call :=
  let ageMs := min (env.nowMs - row.value.createdAtMs) (2 ^ 63 - 1)
  if policy.maxAgeMs < ageMs then
    if env.writeOk then .flushing maxItems reply else .done reply
  else
    match crates.fromStr row.value.payloadJson with
    | none => .flushing maxItems reply
    | some payload => .sending row env.nowMs (enqueueFrame row.value payload env) maxItems reply

/-- An iteration of `flush_outbound_queue_to_relay`, up to the sending of the frame. -/
def resumeFlushing (st : Shared) (maxItems : ℕ) (reply : Option Reply) (env : Env) :
    Shared × Call :=
  match maxItems, env.connected with
  | 0, _ => (st, .done reply)
  | _ + 1, false => (st, .done reply)
  | maxItems + 1, true =>
      match takeDueOutbound st.queue env with
      | .error _ => (st, .done reply)
      | .ok none => (st, .done reply)
      | .ok (some (row, queue)) => ({ st with queue }, flushRow crates policy row maxItems reply env)

/-- The iteration after the frame was handed over, or could not be. -/
def resumeSending (st : Shared) (row : Tracked OutboundQueueItem) (nowMs : ℤ)
    (frame : EnqueueFrame) (maxItems : ℕ) (reply : Option Reply) (env : Env) : Shared × Call :=
  if env.sendOk then
    ({ st with sent := st.sent ++ [⟨row.request, row.recipient, frame⟩] }, .flushing maxItems reply)
  else if policy.maxAttempts ≤ row.value.attemptCount + 1 then
    (st, if env.writeOk then .flushing maxItems reply else .done reply)
  else
    match requeueOutboundRetry st.queue row
      (nowMs + policy.retryDelayMs (row.value.attemptCount + 1)) env with
    | .ok queue => ({ st with queue }, .done reply)
    | .error _ => (st, .done reply)

/-- The call after a piece of code that may answer an error. -/
def Call.ofExcept : Except AppErrorResponse Call → Call
  | .ok call => call
  | .error response => .done (some (.error response))

def startCall (st : Shared) (input : Input) (env : Env) : Shared × Call :=
  match input with
  | .flush maxItems => (st, .flushing maxItems none)
  | .request body =>
      match requestOfValue body with
      | none => (st, .done (some .rejected))
      | some request => (st, .ofExcept (startHandler crates server st.queue request env))

def resumeCall (st : Shared) (call : Call) (env : Env) : Option (Shared × Call) :=
  match call with
  | .resolving request groupId localAgentDid =>
      some (st, .ofExcept (resumeResolving crates server st.queue request groupId localAgentDid env))
  | .inserting request groupId recipients frameIds =>
      some (resumeInserting crates server st request groupId recipients frameIds env)
  | .undoing frameIds reply => some (resumeUndoing st frameIds reply env)
  | .flushing maxItems reply => some (resumeFlushing crates policy st maxItems reply env)
  | .sending row nowMs frame maxItems reply =>
      some (resumeSending policy st row nowMs frame maxItems reply env)
  | .done _ => none

/-- The handlers and flushes of a connector over its queue. -/
def outbound : Program Shared Call (Input × Env) Env where
  start st arg := some (startCall crates server st arg.1 arg.2)
  resume st call env := resumeCall crates policy server st call env

end Code

/-- No message has been accepted yet. -/
def idle : Pool Shared Call := ⟨⟨[], []⟩, []⟩

/-! ## Insertions -/

/-- A row is added at the end, where no row has its frame id. -/
theorem insertRow_spec {queue queue' : Queue} {row : Tracked OutboundQueueItem} {env : Env}
    (h : insertRow queue row env = .ok queue') :
    queue' = queue ++ [row] ∧ ∀ other ∈ queue, other.value.frameId ≠ row.value.frameId := by
  obtain ⟨_, hcheck, heq⟩ := bind_eq_ok.mp h
  rw [check_eq_ok, Bool.and_eq_true] at hcheck
  cases heq
  refine ⟨rfl, ?_⟩
  intro other hother
  simpa using List.all_eq_true.mp hcheck.2 other hother

/-- The row has the trimmed frame id, which is not empty. -/
theorem enqueueOutbound_spec {ulidFromString : RString → Bool} {queue queue' : Queue}
    {input : Tracked EnqueueOutboundInput} {env : Env}
    (h : enqueueOutbound ulidFromString queue input env = .ok queue') :
    ∃ row, queue' = queue ++ [row] ∧ row.value.frameId = trim input.value.frameId ∧
      trim input.value.frameId ≠ [] ∧
      ∀ other ∈ queue, other.value.frameId ≠ row.value.frameId := by
  simp only [enqueueOutbound, bind_eq_ok, check_eq_ok] at h
  obtain ⟨_, hne, _, _, _, _, _, _, _, _, hinsert⟩ := h
  obtain ⟨heq, hfree⟩ := insertRow_spec hinsert
  exact ⟨_, heq, rfl, by simpa using hne, hfree⟩

/-! ## Frames have the fields of their requests -/

/-- The id and the time that the environment gives are those of the ULID crate and of the
clock. -/
def Env.IsFresh (platform : Connector.Platform) (env : Env) : Prop :=
  (⟨toJs env.frameId, toJs env.ts⟩ : Connector.FrameBase).isValid platform = true

/-- The recipient and the group have been checked, and the group is that of the request. -/
structure Routed (ulidFromString : RString → Bool) (request : OutboundRequest)
    (groupId : Option RString) (recipient : RString) : Prop where
  trimmed : trim recipient = recipient
  agent : isAgentDid ulidFromString recipient = true
  group_eq : groupId = parseOptionalNonEmpty request.groupId
  group : groupId.all (isGroupId ulidFromString) = true

/-- A row, or a frame, has the fields of its request. -/
structure Carries (ulidFromString : RString → Bool) (request : OutboundRequest)
    (recipient frameId toAgentDid : RString) (groupId conversationId replyTo : Option RString) :
    Prop where
  id_ulid : Protocol.isUlid (toJs frameId) = true
  did_eq : toAgentDid = recipient
  routed : Routed ulidFromString request groupId recipient
  conversation_eq : conversationId = parseOptionalNonEmpty request.conversationId
  reply_eq : replyTo = parseOptionalNonEmpty request.replyTo

def RowOk (ulidFromString : RString → Bool) (row : Tracked OutboundQueueItem) : Prop :=
  Carries ulidFromString row.request row.recipient row.value.frameId row.value.toAgentDid
    row.value.groupId row.value.conversationId row.value.replyTo

structure FrameOk (ulidFromString : RString → Bool) (platform : Connector.Platform)
    (frame : Tracked EnqueueFrame) : Prop where
  version : frame.value.v = CONNECTOR_FRAME_VERSION
  base : (⟨toJs frame.value.id, toJs frame.value.ts⟩ : Connector.FrameBase).isValid platform = true
  carries : Carries ulidFromString frame.request frame.recipient frame.value.id
    frame.value.toAgentDid frame.value.groupId frame.value.conversationId frame.value.replyTo

structure SharedOk (ulidFromString : RString → Bool) (platform : Connector.Platform)
    (st : Shared) : Prop where
  queue : ∀ row ∈ st.queue, RowOk ulidFromString row
  sent : ∀ frame ∈ st.sent, FrameOk ulidFromString platform frame

/-- What a call keeps between two pieces of its code. -/
def CallOk (ulidFromString : RString → Bool) (platform : Connector.Platform) : Call → Prop
  | .resolving request groupId _ =>
      some groupId = parseOptionalNonEmpty request.groupId ∧ isGroupId ulidFromString groupId = true
  | .inserting request groupId recipients _ =>
      ∀ recipient ∈ recipients, Routed ulidFromString request groupId recipient
  | .sending row _ frame _ _ => RowOk ulidFromString row ∧
      FrameOk ulidFromString platform ⟨row.request, row.recipient, frame⟩
  | .undoing _ _ => True
  | .flushing _ _ => True
  | .done _ => True

section
variable {ulidFromString : RString → Bool}

theorem parseOptionalNonEmpty_eq_some {value : Option RString} {text : RString}
    (h : parseOptionalNonEmpty value = some text) : trim text = text ∧ text ≠ [] := by
  obtain ⟨hmap, hne⟩ := Option.filter_eq_some_iff.mp h
  obtain ⟨raw, _, rfl⟩ := Option.map_eq_some_iff.mp hmap
  exact ⟨trim_trim raw, by simpa using hne⟩

/-- A text that was parsed is parsed to itself. -/
theorem parseOptionalNonEmpty_parsed (value : Option RString) :
    parseOptionalNonEmpty (parseOptionalNonEmpty value) = parseOptionalNonEmpty value := by
  cases hparsed : parseOptionalNonEmpty value with
  | none => rfl
  | some text =>
      obtain ⟨htrim, hne⟩ := parseOptionalNonEmpty_eq_some hparsed
      simp [parseOptionalNonEmpty, htrim, hne]

theorem trim_ulid {id : RString} (h : Protocol.isUlid (toJs id) = true) : trim id = id := by
  have hgraphic := Protocol.isUlid_graphic h
  have hsame : id = (toJs id).map Utf16.ofUnit := by
    refine eq_map_of_basic ?_
    intro u hu
    have hrange := hgraphic u hu
    omega
  rw [hsame]
  exact trim_graphic hgraphic

/-- **What the routing of a request has checked.** -/
theorem resolveOutboundRouting_eq_ok {request : OutboundRequest} {routing : OutboundRouting}
    (h : resolveOutboundRouting ulidFromString request = .ok routing) :
    (∃ toAgentDid, routing = .direct toAgentDid ∧
        parseOptionalNonEmpty request.toAgentDid = some toAgentDid ∧
        Routed ulidFromString request none toAgentDid) ∨
      ∃ groupId, routing = .group groupId ∧
        some groupId = parseOptionalNonEmpty request.groupId ∧
        isGroupId ulidFromString groupId = true := by
  unfold resolveOutboundRouting at h
  split at h
  · cases h
  · cases h
  · rename_i toAgentDid hagent hgroup
    split at h
    · cases h
      have htrim := (parseOptionalNonEmpty_eq_some hagent).1
      exact .inl ⟨toAgentDid, rfl, hagent, htrim, by assumption, hgroup.symm, rfl⟩
    · cases h
  · rename_i groupId _ hgroup
    split at h
    · cases h
      exact .inr ⟨groupId, rfl, hgroup.symm, by assumption⟩
    · cases h

theorem collectRecipients_spec {localAgentDid : RString} {members recipients collected : List RString}
    (h : collectRecipients ulidFromString localAgentDid members recipients = some collected)
    (hrecipients : ∀ did ∈ recipients, trim did = did ∧ isAgentDid ulidFromString did = true) :
    ∀ did ∈ collected, trim did = did ∧ isAgentDid ulidFromString did = true := by
  induction members generalizing recipients with
  | nil =>
      cases h
      exact hrecipients
  | cons member rest ih =>
      simp only [collectRecipients] at h
      split at h
      · exact ih h hrecipients
      split at h
      · cases h
      rename_i hagent
      split at h
      · exact ih h hrecipients
      · refine ih h ?_
        intro did hdid
        rcases List.mem_append.mp hdid with hdid | hdid
        · exact hrecipients did hdid
        · rw [List.mem_singleton.mp hdid]
          exact ⟨trim_trim member, by simpa using hagent⟩

/-! ### The queue -/

theorem insertRow_ok {queue queue' : Queue} {row : Tracked OutboundQueueItem} {env : Env}
    (h : insertRow queue row env = .ok queue') (hqueue : ∀ r ∈ queue, RowOk ulidFromString r)
    (hrow : RowOk ulidFromString row) : ∀ r ∈ queue', RowOk ulidFromString r := by
  obtain ⟨rfl, -⟩ := insertRow_spec h
  intro r hr
  rcases List.mem_append.mp hr with hr | hr
  · exact hqueue r hr
  · rw [List.mem_singleton.mp hr]
    exact hrow

theorem deleteRow_ok {queue : Queue} {frameId : RString}
    (hqueue : ∀ r ∈ queue, RowOk ulidFromString r) :
    ∀ r ∈ deleteRow frameId queue, RowOk ulidFromString r :=
  fun r hr => hqueue r (List.mem_of_mem_filter hr)

theorem firstDue_mem {nowMs : ℤ} {queue : Queue} {row : Tracked OutboundQueueItem}
    (h : firstDue nowMs queue = some row) : row ∈ queue := by
  induction queue generalizing row with
  | nil => cases h
  | cons first rest ih =>
      unfold firstDue at h
      split at h
      · split at h
        · cases h
          exact List.mem_cons_self
        · rename_i other hother
          split at h
          · cases h
            exact List.mem_cons_of_mem first (ih hother)
          · cases h
            exact List.mem_cons_self
      · exact List.mem_cons_of_mem first (ih h)

theorem takeDueOutbound_spec {queue queue' : Queue} {row : Tracked OutboundQueueItem} {env : Env}
    (h : takeDueOutbound queue env = .ok (some (row, queue'))) :
    row ∈ queue ∧ queue' = deleteRow row.value.frameId queue := by
  unfold takeDueOutbound at h
  split at h
  · cases h
  · rename_i found hfound
    split at h
    · cases h
      split at hfound
      · exact ⟨firstDue_mem hfound, rfl⟩
      · cases hfound
    · cases h

end

section
variable {crates : Crates} {policy : OutboundRetryPolicy} {server : RuntimeServerState}
  {platform : Connector.Platform} {st st' : Shared} {env : Env} {call call' : Call}

/-- **The row for a recipient** has the fields of the request. -/
theorem enqueueOutboundFrame_ok {queue queue' : Queue} {request : OutboundRequest}
    {groupId : Option RString} {recipient : RString}
    (h : enqueueOutboundFrame crates queue request groupId recipient env = .ok queue')
    (hqueue : ∀ r ∈ queue, RowOk crates.ulidFromString r) (hfresh : env.IsFresh platform)
    (hrouted : Routed crates.ulidFromString request groupId recipient) :
    ∀ r ∈ queue', RowOk crates.ulidFromString r := by
  simp only [enqueueOutboundFrame, enqueueOutbound, bind_eq_ok, check_eq_ok] at h
  obtain ⟨_, _, _, _, _, _, _, _, _, _, hinsert⟩ := h
  have hid : Protocol.isUlid (toJs env.frameId) = true := by
    simp only [Env.IsFresh, Connector.FrameBase.isValid, Bool.and_eq_true] at hfresh
    exact hfresh.1.1
  have hgroup : parseOptionalNonEmpty groupId = groupId := by
    rw [hrouted.group_eq, parseOptionalNonEmpty_parsed]
  refine insertRow_ok hinsert hqueue ?_
  refine ⟨?_, hrouted.trimmed, ?_, rfl, rfl⟩
  · rw [trim_ulid hid]
    exact hid
  · rw [hgroup]
    exact hrouted

theorem Call.ofExcept_ok {result : Except AppErrorResponse Call}
    (h : ∀ call, result = .ok call → CallOk crates.ulidFromString platform call) :
    CallOk crates.ulidFromString platform (.ofExcept result) := by
  cases result with
  | ok call => exact h call rfl
  | error response => trivial

theorem startHandler_ok {queue : Queue} {request : OutboundRequest}
    (h : startHandler crates server queue request env = .ok call) :
    CallOk crates.ulidFromString platform call := by
  obtain ⟨routing, hrouting, h⟩ := bind_eq_ok.mp h
  rcases resolveOutboundRouting_eq_ok hrouting with
    ⟨toAgentDid, rfl, _, hrouted⟩ | ⟨groupId, rfl, hgroup, hvalid⟩
  · obtain ⟨_, _, heq⟩ := bind_eq_ok.mp h
    cases heq
    intro recipient hrecipient
    rw [List.mem_singleton.mp hrecipient]
    exact hrouted
  · simp only [bind_eq_ok] at h
    obtain ⟨_, _, _, _, _, _, heq⟩ := h
    cases heq
    exact ⟨hgroup, hvalid⟩

theorem resumeResolving_ok {queue : Queue} {request : OutboundRequest}
    {groupId localAgentDid : RString}
    (h : resumeResolving crates server queue request groupId localAgentDid env = .ok call)
    (hgroup : some groupId = parseOptionalNonEmpty request.groupId)
    (hvalid : isGroupId crates.ulidFromString groupId = true) :
    CallOk crates.ulidFromString platform call := by
  obtain ⟨rawMembers, _, h⟩ := bind_eq_ok.mp h
  obtain ⟨recipients, hrecipients, h⟩ := bind_eq_ok.mp h
  split at h
  · cases h
    trivial
  · simp only [bind_eq_ok] at h
    obtain ⟨_, _, _, _, heq⟩ := h
    cases heq
    have hcollected := collectRecipients_spec (elim_eq_ok.mp hrecipients) (by simp)
    intro recipient hrecipient
    obtain ⟨htrim, hagent⟩ := hcollected recipient hrecipient
    exact ⟨htrim, hagent, hgroup, hvalid⟩

/-- What a piece of code leaves behind. -/
def After (ulidFromString : RString → Bool) (platform : Connector.Platform)
    (r : Shared × Call) : Prop :=
  SharedOk ulidFromString platform r.1 ∧ CallOk ulidFromString platform r.2

theorem resumeInserting_after {request : OutboundRequest} {groupId : Option RString}
    {recipients frameIds : List RString} (hst : SharedOk crates.ulidFromString platform st)
    (hfresh : env.IsFresh platform)
    (hrouted : ∀ recipient ∈ recipients, Routed crates.ulidFromString request groupId recipient) :
    After crates.ulidFromString platform
      (resumeInserting crates server st request groupId recipients frameIds env) := by
  unfold resumeInserting
  split
  · refine ⟨hst, ?_⟩
    simp only
    split <;> trivial
  · rename_i recipient rest
    split
    · rename_i queue hqueue
      refine ⟨⟨?_, hst.sent⟩, fun did hdid => hrouted did (List.mem_cons_of_mem recipient hdid)⟩
      exact enqueueOutboundFrame_ok hqueue hst.queue hfresh (hrouted recipient List.mem_cons_self)
    · exact ⟨hst, trivial⟩

theorem resumeUndoing_after {frameIds : List RString} {reply : Reply}
    (hst : SharedOk crates.ulidFromString platform st) :
    After crates.ulidFromString platform (resumeUndoing st frameIds reply env) := by
  unfold resumeUndoing
  split
  · exact ⟨hst, trivial⟩
  · refine ⟨⟨?_, hst.sent⟩, trivial⟩
    simp only [deleteOutbound]
    split
    · exact hst.queue
    · exact deleteRow_ok hst.queue

theorem flushRow_ok {row : Tracked OutboundQueueItem} {maxItems : ℕ} {reply : Option Reply}
    (hrow : RowOk crates.ulidFromString row) (hfresh : env.IsFresh platform) :
    CallOk crates.ulidFromString platform (flushRow crates policy row maxItems reply env) := by
  unfold flushRow
  simp only
  split
  · split <;> trivial
  · split
    · trivial
    · refine ⟨hrow, rfl, ?_, hrow⟩
      simp only [Env.IsFresh, Connector.FrameBase.isValid, Bool.and_eq_true] at hfresh
      simp only [enqueueFrame, Connector.FrameBase.isValid, Bool.and_eq_true]
      exact ⟨⟨hrow.id_ulid, hfresh.1.2⟩, hfresh.2⟩

theorem resumeFlushing_after {maxItems : ℕ} {reply : Option Reply}
    (hst : SharedOk crates.ulidFromString platform st) (hfresh : env.IsFresh platform) :
    After crates.ulidFromString platform (resumeFlushing crates policy st maxItems reply env) := by
  unfold resumeFlushing
  split
  · exact ⟨hst, trivial⟩
  · exact ⟨hst, trivial⟩
  · split
    · exact ⟨hst, trivial⟩
    · exact ⟨hst, trivial⟩
    · rename_i row queue htake
      obtain ⟨hmem, rfl⟩ := takeDueOutbound_spec htake
      exact ⟨⟨deleteRow_ok hst.queue, hst.sent⟩, flushRow_ok (hst.queue row hmem) hfresh⟩

theorem resumeSending_after {row : Tracked OutboundQueueItem} {nowMs : ℤ} {frame : EnqueueFrame}
    {maxItems : ℕ} {reply : Option Reply} (hst : SharedOk crates.ulidFromString platform st)
    (hrow : RowOk crates.ulidFromString row)
    (hframe : FrameOk crates.ulidFromString platform ⟨row.request, row.recipient, frame⟩) :
    After crates.ulidFromString platform
      (resumeSending policy st row nowMs frame maxItems reply env) := by
  unfold resumeSending
  split
  · refine ⟨⟨hst.queue, ?_⟩, trivial⟩
    intro sent hsent
    rcases List.mem_append.mp hsent with hsent | hsent
    · exact hst.sent sent hsent
    · rw [List.mem_singleton.mp hsent]
      exact hframe
  split
  · refine ⟨hst, ?_⟩
    simp only
    split <;> trivial
  · split
    · rename_i queue hqueue
      exact ⟨⟨insertRow_ok hqueue hst.queue hrow, hst.sent⟩, trivial⟩
    · exact ⟨hst, trivial⟩

/-- **Every piece of code** keeps what is known of the rows, the frames and its call. -/
theorem resumeCall_after (hst : SharedOk crates.ulidFromString platform st)
    (hcall : CallOk crates.ulidFromString platform call) (hfresh : env.IsFresh platform)
    (h : resumeCall crates policy server st call env = some (st', call')) :
    After crates.ulidFromString platform (st', call') := by
  cases call with
  | resolving request groupId localAgentDid =>
      cases h
      exact ⟨hst, Call.ofExcept_ok fun _ hok => resumeResolving_ok hok hcall.1 hcall.2⟩
  | inserting request groupId recipients frameIds =>
      rw [← Option.some.inj h]
      exact resumeInserting_after hst hfresh hcall
  | undoing frameIds reply =>
      rw [← Option.some.inj h]
      exact resumeUndoing_after hst
  | flushing maxItems reply =>
      rw [← Option.some.inj h]
      exact resumeFlushing_after hst hfresh
  | sending row nowMs frame maxItems reply =>
      rw [← Option.some.inj h]
      exact resumeSending_after hst hcall.1 hcall.2
  | done reply => cases h

/-- A call starts without a statement that writes. -/
theorem startCall_shared (st : Shared) (input : Input) (env : Env) :
    (startCall crates server st input env).1 = st := by
  unfold startCall
  split
  · rfl
  · split <;> rfl

theorem startCall_after {input : Input} (hst : SharedOk crates.ulidFromString platform st) :
    After crates.ulidFromString platform (startCall crates server st input env) := by
  unfold startCall
  split
  · exact ⟨hst, trivial⟩
  · split
    · exact ⟨hst, trivial⟩
    · exact ⟨hst, Call.ofExcept_ok fun _ hok => startHandler_ok hok⟩

/-! ## Runs -/

def PoolOk (ulidFromString : RString → Bool) (platform : Connector.Platform)
    (p : Pool Shared Call) : Prop :=
  SharedOk ulidFromString platform p.shared ∧ ∀ call ∈ p.calls, CallOk ulidFromString platform call

/-- The ids and times of the moves are fresh. -/
def FreshMove (platform : Connector.Platform) : Move (Input × Env) Env → Prop
  | .start arg => arg.2.IsFresh platform
  | .resume _ env => env.IsFresh platform

theorem poolOk_step {p p' : Pool Shared Call} {e : Move (Input × Env) Env}
    (hp : PoolOk crates.ulidFromString platform p) (hfresh : FreshMove platform e)
    (hstep : (outbound crates policy server).step p e = some p') :
    PoolOk crates.ulidFromString platform p' := by
  rcases Program.step_cases hstep with
    ⟨⟨input, env⟩, s, c, rfl, hstart, rfl⟩ | ⟨i, env, c, s, c', rfl, hi, hresume, rfl⟩
  · have hafter : After crates.ulidFromString platform (s, c) := by
      rw [← Option.some.inj hstart]
      exact startCall_after hp.1
    refine ⟨hafter.1, ?_⟩
    intro call hcall
    rcases List.mem_append.mp hcall with hcall | hcall
    · exact hp.2 call hcall
    · rw [List.mem_singleton.mp hcall]
      exact hafter.2
  · have hafter := resumeCall_after hp.1 (hp.2 c (List.mem_of_getElem? hi)) hfresh hresume
    refine ⟨hafter.1, ?_⟩
    intro call hcall
    rcases List.mem_or_eq_of_mem_set hcall with hcall | rfl
    · exact hp.2 call hcall
    · exact hafter.2

/-- **In every run**, a frame that the client has taken has the fields of the request it was
made for. -/
theorem outbound_tracks {moves : List (Move (Input × Env) Env)} {p : Pool Shared Call}
    (hfresh : ∀ e ∈ moves, FreshMove platform e)
    (hrun : exec (outbound crates policy server).step idle moves = some p) :
    ∀ frame ∈ p.shared.sent, FrameOk crates.ulidFromString platform frame := by
  have hidle : PoolOk crates.ulidFromString platform idle := by
    refine ⟨⟨?_, ?_⟩, ?_⟩
    · intro row hrow
      cases hrow
    · intro frame hframe
      cases hframe
    · intro call hcall
      cases hcall
  have hall : AllSteps (outbound crates policy server).step (fun _ e => FreshMove platform e) idle
      moves := allSteps_of_forall (fun e he _ => hfresh e he) idle
  have hp := exec_invariant (PoolOk crates.ulidFromString platform)
    (fun _ _ _ hi hf hs => poolOk_step hi hf hs) hidle hall hrun
  exact hp.1.sent

end

end Clawdentity.Rust.Outbound
