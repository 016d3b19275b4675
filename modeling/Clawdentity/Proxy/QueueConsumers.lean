import Clawdentity.Proxy.PairAcceptedEvent
import Clawdentity.Proxy.Relay.Inputs

/-!
# Deliveries from the event queue

The proxy takes events of accepted pairings and of new group members off its queue and
delivers them through the relay session of the agent that they are for. The source of such
a delivery names the queue, and no other code of the proxy uses these names.

## Main definitions

* `handlePairAcceptedQueueEvent`, `handleGroupMemberJoinedQueueEvent` — the inputs for the
  session.
-/

namespace Clawdentity

open Js Lib Protocol
open Relay (RelayDeliveryInput)

/-! ## Accepted pairings -/

namespace PairAccepted

def PAIR_ACCEPTED_TRUSTED_DELIVERY_SOURCE : JsString := js "proxy.events.queue.pair_accepted"

def buildPairAcceptedRequestId (event : PairAcceptedEvent) : JsString :=
  (js ":").intercalate [js "pair.accepted", event.initiatorAgentDid, event.responderAgentDid,
    event.eventTimestampUtc]

/-- The input of the session of the initiator. -/
def handlePairAcceptedQueueEvent (event : PairAcceptedEvent) : RelayDeliveryInput where
  requestId := buildPairAcceptedRequestId event
  senderAgentDid := event.responderAgentDid
  recipientAgentDid := event.initiatorAgentDid
  payload := some (toSystemPayload event)
  deliverySource := some PAIR_ACCEPTED_TRUSTED_DELIVERY_SOURCE
  groupId := none
  conversationId := none
  replyTo := none

end PairAccepted

/-! ## New members of a group -/

namespace GroupMemberJoined

open PairAccepted (Platform)

inductive GroupMemberJoinedRole
  | member
  | admin
  deriving DecidableEq

def GroupMemberJoinedRole.text : GroupMemberJoinedRole → JsString
  | .member => js "member"
  | .admin => js "admin"

structure GroupMemberJoinedEventData where
  recipientAgentDid : JsString
  joinedAgentDid : JsString
  joinedAgentName : JsString
  groupId : JsString
  groupName : JsString
  role : GroupMemberJoinedRole
  joinedAt : JsString
  message : Option JsString
  deriving DecidableEq

def GROUP_MEMBER_JOINED_EVENT_TYPE : JsString := js "group.member.joined"

def GROUP_MEMBER_JOINED_TRUSTED_DELIVERY_SOURCE : JsString :=
  js "proxy.events.queue.group_member_joined"

/-- The error that is thrown. -/
inductive EventError
  | message (text : String)
  | invalidDid (value : JsString)
  | invalidGroupId (value : JsString)
  deriving DecidableEq

def parseNonBlankString (value : Option Value) (field : String) : Except EventError JsString :=
  (value.bind Json.str? |>.filter isNonEmptyString).elim
    (.error (.message s!"Group member joined event field '{field}' must be a non-empty string"))
    fun text => .ok (trim text)

def parseAgentDidString (value : Option Value) (field : String) : Except EventError JsString := do
  let normalized ← parseNonBlankString value field
  check (isAgentDid normalized) (.invalidDid normalized)
  return normalized

def parseGroupIdString (value : Option Value) (field : String) : Except EventError JsString := do
  let normalized ← parseNonBlankString value field
  (parseGroupId normalized).elim (.error (.invalidGroupId normalized)) .ok

def parseRole (value : Option Value) : Except EventError GroupMemberJoinedRole :=
  if value = some (.str (js "member")) then .ok .member
  else if value = some (.str (js "admin")) then .ok .admin
  else .error
    (.message "Group member joined event field 'role' must be either 'member' or 'admin'")

def parseOptionalMessage (value : Option Value) : Except EventError (Option JsString) :=
  match value with
  | none => .ok none
  | some (.str text) => .ok (if isNonEmptyString text then some (trim text) else none)
  | some _ => .error (.message "Group member joined event field 'message' must be a string")

section
variable (platform : Platform)

def parseJoinedAt (value : Option Value) : Except EventError JsString := do
  let normalized ← parseNonBlankString value "joinedAt"
  let invalid := EventError.message
    "Group member joined event field 'joinedAt' must be a valid ISO timestamp"
  check (Connector.isIsoTimestamp normalized) invalid
  (platform.toIsoString normalized).elim (.error invalid) .ok

def parseGroupMemberJoinedEventData (payload : Value) :
    Except EventError GroupMemberJoinedEventData :=
  match payload with
  | .obj fields => do
      let data : Value := .obj fields
      let message ← parseOptionalMessage (data.get? (js "message"))
      let recipientAgentDid ← parseAgentDidString (data.get? (js "recipientAgentDid"))
        "recipientAgentDid"
      let joinedAgentDid ← parseAgentDidString (data.get? (js "joinedAgentDid")) "joinedAgentDid"
      let joinedAgentName ← parseNonBlankString (data.get? (js "joinedAgentName"))
        "joinedAgentName"
      let groupId ← parseGroupIdString (data.get? (js "groupId")) "groupId"
      let groupName ← parseNonBlankString (data.get? (js "groupName")) "groupName"
      let role ← parseRole (data.get? (js "role"))
      let joinedAt ← parseJoinedAt platform (data.get? (js "joinedAt"))
      return { recipientAgentDid, joinedAgentDid, joinedAgentName, groupId, groupName, role,
               joinedAt, message }
  | _ => .error (.message "Group member joined event payload must be an object")

/-- `typeof value === "object"`, for a value that is not null. -/
def isObjectLike : Value → Bool
  | .obj _ => true
  | .arr _ => true
  | _ => false

/-- `parseGroupMemberJoinedQueueEvent`: the data of the envelope. -/
def parseGroupMemberJoinedQueueEvent (payload : Value) :
    Except EventError GroupMemberJoinedEventData :=
  match payload with
  | .obj fields => do
      let event : Value := .obj fields
      check (event.get? (js "type") = some (.str GROUP_MEMBER_JOINED_EVENT_TYPE))
        (.message "Unsupported group member joined event type")
      let data ← ((event.get? (js "data")).filter isObjectLike).elim
        (.error (.message "Group member joined queue payload must include an object data field")) .ok
      parseGroupMemberJoinedEventData platform data
  | _ => .error (.message "Group member joined queue payload must be an object")

end

def buildGroupMemberJoinedRequestId (data : GroupMemberJoinedEventData) : JsString :=
  (js ":").intercalate [js "group.member.joined", data.groupId, data.joinedAgentDid,
    data.recipientAgentDid, data.joinedAt]

/-- `toNotificationPayload`; the two names are not blank and trimmed already. -/
def toNotificationPayload (data : GroupMemberJoinedEventData) : Value :=
  object [("type", some (.str (js "clawdentity:group-member-joined"))),
    ("event", some (.str GROUP_MEMBER_JOINED_EVENT_TYPE)),
    ("message", some (.str (data.message.getD
      (trim data.joinedAgentName ++ js " joined " ++ trim data.groupName ++ js ".")))),
    ("groupId", some (.str data.groupId)), ("groupName", some (.str data.groupName)),
    ("joinedAgentDid", some (.str data.joinedAgentDid)),
    ("joinedAgentName", some (.str data.joinedAgentName)), ("role", some (.str data.role.text)),
    ("joinedAt", some (.str data.joinedAt))]

/-- The input of the session of the recipient. -/
def handleGroupMemberJoinedQueueEvent (data : GroupMemberJoinedEventData) :
    RelayDeliveryInput where
  requestId := buildGroupMemberJoinedRequestId data
  senderAgentDid := data.joinedAgentDid
  recipientAgentDid := data.recipientAgentDid
  payload := some (toNotificationPayload data)
  deliverySource := some GROUP_MEMBER_JOINED_TRUSTED_DELIVERY_SOURCE
  groupId := none
  conversationId := none
  replyTo := none

end GroupMemberJoined

end Clawdentity
