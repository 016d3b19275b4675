import Clawdentity.Connector.Frames
import Clawdentity.Lib.Fallible
import Clawdentity.Rust.Identifiers
import Clawdentity.Rust.Serde

/-!
# Connector frames in Rust

`ConnectorFrame` with the derived `Deserialize` and the checks of `parse_frame`. An
unknown field is ignored, an optional field may be missing or null, and every other
field is required. A frame that does not parse makes the client drop its connection.

## Main definitions

* `ConnectorFrame` — the seven kinds of frames.
* `validateFrame`, `parseFrame`, `serializeFrame`.
-/

namespace Clawdentity.Rust

open Js Lib
open Connector (ReceiptStatus)

/-! ## Frames -/

def CONNECTOR_FRAME_VERSION : ℤ := 1

structure FrameBase where
  v : ℤ
  id : RString
  ts : RString
  deriving DecidableEq

structure DeliverFrame extends FrameBase where
  fromAgentDid : RString
  toAgentDid : RString
  payload : RValue
  deliverySource : Option RString
  contentType : Option RString
  groupId : Option RString
  conversationId : Option RString
  replyTo : Option RString
  deriving DecidableEq

structure EnqueueFrame extends FrameBase where
  toAgentDid : RString
  groupId : Option RString
  payload : RValue
  conversationId : Option RString
  replyTo : Option RString
  deriving DecidableEq

/-- The common shape of `DeliverAckFrame` and `EnqueueAckFrame`. -/
structure AckFrame extends FrameBase where
  ackId : RString
  accepted : Bool
  reason : Option RString
  deriving DecidableEq

structure ReceiptFrame extends FrameBase where
  originalFrameId : RString
  toAgentDid : RString
  status : ReceiptStatus
  reason : Option RString
  deriving DecidableEq

inductive ConnectorFrame
  | heartbeat (frame : FrameBase)
  | heartbeatAck (frame : FrameBase) (ackId : RString)
  | deliver (frame : DeliverFrame)
  | deliverAck (frame : AckFrame)
  | enqueue (frame : EnqueueFrame)
  | enqueueAck (frame : AckFrame)
  | receipt (frame : ReceiptFrame)
  deriving DecidableEq

/-! ## Deserialize -/

def statusOfText (text : RString) : Option ReceiptStatus :=
  if text = rs "delivered_to_webhook" then some .deliveredToWebhook
  else if text = rs "dead_lettered" then some .deadLettered
  else none

def baseOfValue (v : RValue) : Option FrameBase := do
  let version ← getI64 v "v"
  let id ← getString v "id"
  let ts ← getString v "ts"
  return { v := version, id, ts }

def deliverOfValue (v : RValue) : Option DeliverFrame := do
  let base ← baseOfValue v
  let fromAgentDid ← getString v "fromAgentDid"
  let toAgentDid ← getString v "toAgentDid"
  let payload ← v.get? (rs "payload")
  let deliverySource ← getOptString v "deliverySource"
  let contentType ← getOptString v "contentType"
  let groupId ← getOptString v "groupId"
  let conversationId ← getOptString v "conversationId"
  let replyTo ← getOptString v "replyTo"
  return { toFrameBase := base, fromAgentDid, toAgentDid, payload, deliverySource, contentType,
           groupId, conversationId, replyTo }

def enqueueOfValue (v : RValue) : Option EnqueueFrame := do
  let base ← baseOfValue v
  let toAgentDid ← getString v "toAgentDid"
  let groupId ← getOptString v "groupId"
  let payload ← v.get? (rs "payload")
  let conversationId ← getOptString v "conversationId"
  let replyTo ← getOptString v "replyTo"
  return { toFrameBase := base, toAgentDid, groupId, payload, conversationId, replyTo }

def ackOfValue (v : RValue) : Option AckFrame := do
  let base ← baseOfValue v
  let ackId ← getString v "ackId"
  let accepted ← getBool v "accepted"
  let reason ← getOptString v "reason"
  return { toFrameBase := base, ackId, accepted, reason }

def receiptOfValue (v : RValue) : Option ReceiptFrame := do
  let base ← baseOfValue v
  let originalFrameId ← getString v "originalFrameId"
  let toAgentDid ← getString v "toAgentDid"
  let status ← (getString v "status").bind statusOfText
  let reason ← getOptString v "reason"
  return { toFrameBase := base, originalFrameId, toAgentDid, status, reason }

/-- The derived `Deserialize`, which looks at the tag `type` first. -/
def frameOfValue (v : RValue) : Option ConnectorFrame := do
  let type ← getString v "type"
  if type = rs "heartbeat" then (baseOfValue v).map .heartbeat
  else if type = rs "heartbeat_ack" then do
    let base ← baseOfValue v
    let ackId ← getString v "ackId"
    return .heartbeatAck base ackId
  else if type = rs "deliver" then (deliverOfValue v).map .deliver
  else if type = rs "deliver_ack" then (ackOfValue v).map .deliverAck
  else if type = rs "enqueue" then (enqueueOfValue v).map .enqueue
  else if type = rs "enqueue_ack" then (ackOfValue v).map .enqueueAck
  else if type = rs "receipt" then (receiptOfValue v).map .receipt
  else none

theorem deliverOfValue_eq_some {v : RValue} {d : DeliverFrame} (h : deliverOfValue v = some d) :
    getString v "id" = some d.id ∧ getString v "fromAgentDid" = some d.fromAgentDid ∧
      getString v "toAgentDid" = some d.toAgentDid ∧
      getOptString v "deliverySource" = some d.deliverySource := by
  simp only [deliverOfValue, baseOfValue, Option.bind_eq_bind, Option.bind_eq_some_iff,
    Option.pure_def, Option.some.injEq] at h
  obtain ⟨_, ⟨_, _, _, hid, _, _, rfl⟩, _, hsender, _, hrecipient, _, _, _, hsource, _, _, _, _, _, _,
    _, _, rfl⟩ := h
  exact ⟨hid, hsender, hrecipient, hsource⟩

theorem frameOfValue_deliver {v : RValue} {d : DeliverFrame}
    (h : frameOfValue v = some (.deliver d)) : deliverOfValue v = some d := by
  simp only [frameOfValue, Option.bind_eq_bind, Option.bind_eq_some_iff] at h
  obtain ⟨type, _, h⟩ := h
  split at h
  · simp at h
  split at h
  · simp only [Option.bind_eq_some_iff, Option.pure_def, Option.some.injEq, reduceCtorEq, and_false,
      exists_false] at h
  split at h
  · obtain ⟨d', hd', heq⟩ := Option.map_eq_some_iff.mp h
    cases heq
    exact hd'
  repeat' split at h
  all_goals simp at h

/-! ## Checks -/

/-- `CoreError::InvalidInput`, by its message. -/
inductive FrameError
  | json
  | version (v : ℤ)
  | frameId (id : RString)
  | timestampRequired
  | notAgentDid (field : String)
  | ackId (field : String) (value : RString)
  | blank (field : String)
  | notGroupId
  deriving DecidableEq

section
variable (ulidFromString : RString → Bool)

def validateFrameBase (base : FrameBase) : Except FrameError Unit := do
  check (base.v = CONNECTOR_FRAME_VERSION) (.version base.v)
  check (ulidFromString base.id) (.frameId base.id)
  check (!(trim base.ts).isEmpty) .timestampRequired

def validateAgentDid (value : RString) (field : String) : Except FrameError Unit :=
  check (isAgentDid ulidFromString value) (.notAgentDid field)

def validateAckId (value : RString) (field : String) : Except FrameError Unit :=
  check (ulidFromString value) (.ackId field value)

def validateNotBlank (value : Option RString) (field : String) : Except FrameError Unit :=
  check (value.all fun text => !(trim text).isEmpty) (.blank field)

def validateGroupId (value : Option RString) : Except FrameError Unit :=
  check (value.all (isGroupId ulidFromString)) .notGroupId

def validateDeliverFrame (frame : DeliverFrame) : Except FrameError Unit := do
  validateFrameBase ulidFromString frame.toFrameBase
  validateAgentDid ulidFromString frame.fromAgentDid "fromAgentDid"
  validateAgentDid ulidFromString frame.toAgentDid "toAgentDid"
  validateNotBlank frame.deliverySource "deliverySource"
  validateGroupId ulidFromString frame.groupId

def validateEnqueueFrame (frame : EnqueueFrame) : Except FrameError Unit := do
  validateFrameBase ulidFromString frame.toFrameBase
  validateAgentDid ulidFromString frame.toAgentDid "toAgentDid"
  validateGroupId ulidFromString frame.groupId

def validateReceiptFrame (frame : ReceiptFrame) : Except FrameError Unit := do
  validateFrameBase ulidFromString frame.toFrameBase
  validateAckId ulidFromString frame.originalFrameId "receipt originalFrameId"
  validateAgentDid ulidFromString frame.toAgentDid "toAgentDid"
  validateNotBlank frame.reason "receipt reason"

def validateAckFrame (frame : AckFrame) (field : String) : Except FrameError Unit := do
  validateFrameBase ulidFromString frame.toFrameBase
  validateAckId ulidFromString frame.ackId field

def validateFrame : ConnectorFrame → Except FrameError Unit
  | .heartbeat frame => validateFrameBase ulidFromString frame
  | .heartbeatAck frame ackId => do
      validateFrameBase ulidFromString frame
      validateAckId ulidFromString ackId "heartbeat ackId"
  | .deliver frame => validateDeliverFrame ulidFromString frame
  | .deliverAck frame => validateAckFrame ulidFromString frame "deliver ackId"
  | .enqueue frame => validateEnqueueFrame ulidFromString frame
  | .enqueueAck frame => validateAckFrame ulidFromString frame "enqueue ackId"
  | .receipt frame => validateReceiptFrame ulidFromString frame

/-- `parse_frame`, from the JSON value of the text. -/
def parseFrame (v : RValue) : Except FrameError ConnectorFrame :=
  match frameOfValue v with
  | none => .error .json
  | some frame => do
      validateFrame ulidFromString frame
      return frame

end

/-! ## Serialize -/

def statusTag : ReceiptStatus → RString
  | .deliveredToWebhook => rs "delivered_to_webhook"
  | .deadLettered => rs "dead_lettered"

def textField (value : RString) : Option Value := some (.str (toJs value))

def FrameBase.fields (base : FrameBase) (type : String) : List (String × Option Value) :=
  [("type", textField (rs type)), ("v", some (.num base.v)), ("id", textField base.id),
    ("ts", textField base.ts)]

def AckFrame.fields (frame : AckFrame) (type : String) : List (String × Option Value) :=
  frame.toFrameBase.fields type ++
    [("ackId", textField frame.ackId), ("accepted", some (.bool frame.accepted)),
      ("reason", frame.reason.bind textField)]

/-- The fields of the derived `Serialize`; an optional field that is `None` is skipped. -/
def ConnectorFrame.fields (number : ℚ → ℚ) : ConnectorFrame → List (String × Option Value)
  | .heartbeat frame => frame.fields "heartbeat"
  | .heartbeatAck frame ackId => frame.fields "heartbeat_ack" ++ [("ackId", textField ackId)]
  | .deliver frame => frame.toFrameBase.fields "deliver" ++
      [("fromAgentDid", textField frame.fromAgentDid), ("toAgentDid", textField frame.toAgentDid),
        ("payload", some (toJsValue number frame.payload)),
        ("deliverySource", frame.deliverySource.bind textField),
        ("contentType", frame.contentType.bind textField),
        ("groupId", frame.groupId.bind textField),
        ("conversationId", frame.conversationId.bind textField),
        ("replyTo", frame.replyTo.bind textField)]
  | .deliverAck frame => frame.fields "deliver_ack"
  | .enqueue frame => frame.toFrameBase.fields "enqueue" ++
      [("toAgentDid", textField frame.toAgentDid), ("groupId", frame.groupId.bind textField),
        ("payload", some (toJsValue number frame.payload)),
        ("conversationId", frame.conversationId.bind textField),
        ("replyTo", frame.replyTo.bind textField)]
  | .enqueueAck frame => frame.fields "enqueue_ack"
  | .receipt frame => frame.toFrameBase.fields "receipt" ++
      [("originalFrameId", textField frame.originalFrameId),
        ("toAgentDid", textField frame.toAgentDid),
        ("status", textField (statusTag frame.status)), ("reason", frame.reason.bind textField)]

/-- `serialize_frame`, as JavaScript reads the text. -/
def serializeFrame (ulidFromString : RString → Bool) (number : ℚ → ℚ) (frame : ConnectorFrame) :
    Except FrameError Value := do
  validateFrame ulidFromString frame
  return object (frame.fields number)

end Clawdentity.Rust
