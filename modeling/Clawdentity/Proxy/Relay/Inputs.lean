import Clawdentity.Proxy.Relay.Session

/-!
# The inputs of a relay session

A session is called through JSON: the caller writes its input, and the session parses
it again. A message of a socket is an enqueue frame, whose input is built from the frame,
or it is answered by the session itself. A parser that throws answers `none`.

## Main definitions

* `parseDeliveryInput`, `parseReceiptRecordInput`, `parseReceiptLookupInput`.
* `toRelayDeliveryInputFromEnqueueFrame`, `handleEnqueueFrame`.
* `handleRelayWebSocketMessage` — what a session does with a message of a socket.
-/

namespace Clawdentity.Relay

open Js Lib Connector Protocol

/-! ## Parsers -/

/-- `typeof value === "string" && value.trim().length > 0 ? value.trim() : undefined`. -/
def optTrimmed (v : Value) (key : String) : Option JsString :=
  ((getStr v key).filter isNonEmptyString).map trim

/-- A field that must be a string which is not blank, trimmed. -/
def nonBlank (v : Value) (key : String) : Option JsString :=
  (getStr v key).bind fun s => if isNonEmptyString s then some (trim s) else none

def RelayDeliveryInput.toJson (input : RelayDeliveryInput) : Value :=
  object [("requestId", some (.str input.requestId)),
    ("senderAgentDid", some (.str input.senderAgentDid)),
    ("recipientAgentDid", some (.str input.recipientAgentDid)), ("payload", input.payload),
    ("deliverySource", input.deliverySource.map .str), ("groupId", input.groupId.map .str),
    ("conversationId", input.conversationId.map .str), ("replyTo", input.replyTo.map .str)]

def parseDeliveryInput (platform : Platform) (v : Value) : Option RelayDeliveryInput := do
  let requestId ← getStr v "requestId"
  let senderAgentDid ← getStr v "senderAgentDid"
  let recipientAgentDid ← getStr v "recipientAgentDid"
  let replyTo ← getOptStr v "replyTo"
  let groupId ← getOptStr v "groupId"
  if replyTo.all (fun s => isNonEmptyString s && platform.isUrl s) &&
      groupId.all (fun s => isNonEmptyString s && isGroupId (trim s)) then
    some { requestId, senderAgentDid, recipientAgentDid, payload := v.get? (js "payload"),
           deliverySource := optTrimmed v "deliverySource", groupId := optTrimmed v "groupId",
           conversationId := optTrimmed v "conversationId", replyTo := optTrimmed v "replyTo" }
  else none

def RelayReceiptRecordInput.toJson (input : RelayReceiptRecordInput) : Value :=
  object [("requestId", some (.str input.requestId)),
    ("senderAgentDid", some (.str input.senderAgentDid)),
    ("recipientAgentDid", some (.str input.recipientAgentDid)),
    ("status", some (.str input.status.text)), ("reason", input.reason.map .str)]

def parseReceiptRecordInput (v : Value) : Option RelayReceiptRecordInput := do
  let requestId ← nonBlank v "requestId"
  let senderAgentDid ← nonBlank v "senderAgentDid"
  let recipientAgentDid ← nonBlank v "recipientAgentDid"
  let status ← (getStr v "status").bind parseStatus
  some { requestId, senderAgentDid, recipientAgentDid, status, reason := optTrimmed v "reason" }

def RelayReceiptLookupInput.toJson (input : RelayReceiptLookupInput) : Value :=
  object [("requestId", some (.str input.requestId)),
    ("senderAgentDid", some (.str input.senderAgentDid))]

def parseReceiptLookupInput (v : Value) : Option RelayReceiptLookupInput := do
  let requestId ← nonBlank v "requestId"
  let senderAgentDid ← nonBlank v "senderAgentDid"
  some { requestId, senderAgentDid }

/-! ## Enqueue frames -/

def RELAY_DELIVERY_SOURCE_AGENT_ENQUEUE : JsString := js "agent.enqueue"

def toRelayDeliveryInputFromEnqueueFrame (frame : EnqueueFrame) (senderAgentDid : JsString) :
    RelayDeliveryInput where
  requestId := frame.id
  senderAgentDid := senderAgentDid
  recipientAgentDid := frame.toAgentDid
  payload := frame.payload
  deliverySource := some RELAY_DELIVERY_SOURCE_AGENT_ENQUEUE
  groupId := frame.groupId
  conversationId := frame.conversationId
  replyTo := frame.replyTo

/-- `{ accepted, reason }`. -/
structure EnqueueResult where
  accepted : Bool
  reason : Option JsString
  deriving DecidableEq

/-- What `handleEnqueueFrame` reads beside the frame. An error is its message. -/
structure EnqueueContext where
  /-- `readSocketAgentDid`. -/
  senderAgentDid : Option JsString
  hasNamespace : Bool
  /-- `assertTrustedPair`, if there is a trust store. -/
  assertTrustedPair : Option (JsString → JsString → Except JsString Unit)
  /-- The authorizer of the registry, by group, sender and recipient. -/
  groupTrustAuthorizer : Option (JsString → JsString → JsString → Except JsString Unit)
  /-- `deliverToRelaySession` on the session of the recipient. -/
  deliverToRelaySession : RelayDeliveryInput → Except JsString Unit

/-- The result of a check or a call that may throw. -/
def EnqueueResult.ofExcept (next : EnqueueResult) : Except JsString Unit → EnqueueResult
  | .ok () => next
  | .error message => ⟨false, some message⟩

def handleEnqueueFrame (context : EnqueueContext) (frame : EnqueueFrame) : EnqueueResult :=
  match context.senderAgentDid, context.hasNamespace, context.assertTrustedPair with
  | none, _, _ => ⟨false, some (js "Relay sender identity is unavailable for this websocket")⟩
  | some _, false, _ => ⟨false, some (js "Relay session namespace is unavailable")⟩
  | some _, true, none => ⟨false, some (js "Relay trust state is unavailable")⟩
  | some sender, true, some assertTrustedPair =>
      let deliver := EnqueueResult.ofExcept ⟨true, none⟩
        (context.deliverToRelaySession (toRelayDeliveryInputFromEnqueueFrame frame sender))
      match frame.groupId.filter isNonEmptyString, context.groupTrustAuthorizer with
      | some _, none => ⟨false, some (js "Group membership verification is unavailable")⟩
      | some groupId, some authorize => .ofExcept deliver (authorize groupId sender frame.toAgentDid)
      | none, _ => .ofExcept deliver (assertTrustedPair sender frame.toAgentDid)

/-! ## Frames that a session answers -/

section Answers
variable (rt : Runtime)

def toHeartbeatFrame (env : Env) : Option Value :=
  serializeFrame rt.platform (.heartbeat ⟨env.frameId, rt.toIso env.nowMs⟩)

def toHeartbeatAckFrame (ackId : JsString) (env : Env) : Option Value :=
  serializeFrame rt.platform (.heartbeatAck ⟨env.frameId, rt.toIso env.nowMs⟩ ackId)

def toEnqueueAckFrame (ackId : JsString) (result : EnqueueResult) (env : Env) : Option Value :=
  serializeFrame rt.platform (.enqueueAck
    { id := env.frameId, ts := rt.toIso env.nowMs, ackId, accepted := result.accepted,
      reason := result.reason })

/-- A message of a socket: its bytes, and its JSON where it is JSON. -/
structure SocketMessage where
  bytes : ℕ
  json : Option Value

/-- What a session does with a message. -/
inductive MessageEffect
  | closeSocket (code : ℕ) (reason : String)
  /-- It does nothing: the message is no frame, or one that a proxy does not handle. -/
  | ignore
  /-- `ws.send`; `none` where the frame cannot be serialised. -/
  | send (frame : Option Value)
  | resolveDeliverAck (ackId : JsString) (accepted : Bool)
  | handleHeartbeatAck (ackId : JsString)
  deriving DecidableEq

def handleRelayWebSocketMessage (policy : RelayDeliveryPolicy)
    (onEnqueueFrame : EnqueueFrame → EnqueueResult) (message : SocketMessage) (env : Env) :
    MessageEffect :=
  if policy.maxFrameBytes < message.bytes then .closeSocket 1009 "frame_too_large"
  else
    match message.json.bind (parseFrame rt.platform) with
    | some (.heartbeat base) => .send (toHeartbeatAckFrame rt base.id env)
    | some (.deliverAck frame) => .resolveDeliverAck frame.ackId frame.accepted
    | some (.enqueue frame) => .send (toEnqueueAckFrame rt frame.id (onEnqueueFrame frame) env)
    | some (.heartbeatAck _ ackId) => .handleHeartbeatAck ackId
    | _ => .ignore

end Answers

/-! ## What the parser accepts -/

section
variable {platform : Platform} {input parsed : RelayDeliveryInput}

theorem optTrimmed_object {fields : List (String × Option Value)} {key : String}
    {s : Option JsString} (h : Json.lookupField key fields = s.map .str) :
    optTrimmed (object fields) key = (s.filter isNonEmptyString).map trim := by
  cases s with
  | none => simp [optTrimmed, getStr, h]
  | some s => simp [optTrimmed, getStr, h, Json.str?]

theorem filter_of_all {q : JsString → Bool} {s : Option JsString}
    (h : s.all (fun t => isNonEmptyString t && q t) = true) : s.filter isNonEmptyString = s := by
  cases s with
  | none => rfl
  | some s =>
      simp only [Option.all_some, Bool.and_eq_true] at h
      simp [h.1]

/-- **What a session receives** for an input: the same, with its optional texts trimmed;
the reply address and the group id have been checked. -/
theorem parseDeliveryInput_toJson (h : parseDeliveryInput platform input.toJson = some parsed) :
    parsed = { input with
      deliverySource := (input.deliverySource.filter isNonEmptyString).map trim
      groupId := input.groupId.map trim
      conversationId := (input.conversationId.filter isNonEmptyString).map trim
      replyTo := input.replyTo.map trim } ∧
    input.replyTo.all (fun s => isNonEmptyString s && platform.isUrl s) = true ∧
    input.groupId.all (fun s => isNonEmptyString s && isGroupId (trim s)) = true := by
  have hreply : getOptStr input.toJson "replyTo" = some input.replyTo :=
    getOptStr_object (by simp)
  have hgroup : getOptStr input.toJson "groupId" = some input.groupId :=
    getOptStr_object (by simp)
  have hsource' : optTrimmed input.toJson "deliverySource" =
      (input.deliverySource.filter isNonEmptyString).map trim := optTrimmed_object (by simp)
  have hgroup' : optTrimmed input.toJson "groupId" =
      (input.groupId.filter isNonEmptyString).map trim := optTrimmed_object (by simp)
  have hconversation' : optTrimmed input.toJson "conversationId" =
      (input.conversationId.filter isNonEmptyString).map trim := optTrimmed_object (by simp)
  have hreply' : optTrimmed input.toJson "replyTo" =
      (input.replyTo.filter isNonEmptyString).map trim := optTrimmed_object (by simp)
  simp only [parseDeliveryInput, hreply, hgroup, hsource', hgroup', hconversation', hreply'] at h
  simp [RelayDeliveryInput.toJson, getStr, Json.str?] at h
  obtain ⟨⟨hurl, hid⟩, rfl⟩ := h
  rw [filter_of_all hurl, filter_of_all hid]
  exact ⟨rfl, hurl, hid⟩

end

end Clawdentity.Relay
