import Clawdentity.Connector.Frames
import Clawdentity.Lib.Fallible
import Clawdentity.Proxy.TrustState

/-!
# The event of an accepted pairing

When a pairing is confirmed, the proxy puts a `pair.accepted` event on its queue. The
event goes through `parsePairAcceptedEvent` when it is created and again when it is
taken off the queue, and is then wrapped as a system payload for the initiator.

## Main definitions

* `parsePairAcceptedEvent` — the checks of the protocol package.
* `publishPairAcceptedEvent` — the event of a confirmed ticket, if there is one.
* `toSystemPayload` — what is delivered to the initiator's connector.
-/

namespace Clawdentity.PairAccepted

open Js Lib Protocol TrustState
open PairingTicket (Url)

/-- The functions of the platform that the checks call. -/
structure Platform where
  /-- `new URL(text)`; `none` where it throws. -/
  parseUrl : JsString → Option Url
  /-- `new Date(Date.parse(text)).toISOString()`; `none` where the date is not valid. -/
  toIsoString : JsString → Option JsString

structure PairAcceptedResponderProfile where
  agentName : JsString
  humanName : JsString
  proxyOrigin : JsString
  deriving DecidableEq

structure PairAcceptedEvent where
  initiatorAgentDid : JsString
  responderAgentDid : JsString
  responderProfile : PairAcceptedResponderProfile
  issuerProxyOrigin : JsString
  eventTimestampUtc : JsString
  message : Option JsString
  deriving DecidableEq

def PAIR_ACCEPTED_EVENT_TYPE : JsString := js "pair.accepted"

def PAIR_ACCEPTED_NOTIFICATION_MESSAGE : JsString :=
  js "Clawdentity pairing complete. You can now message this peer."

/-! ## Parsing -/

/-- The error that is thrown for a field. -/
inductive EventError
  | field (message : String)
  | invalidDid (value : JsString)
  deriving DecidableEq

def parseNonBlankString (value : Option Value) (field : String) : Except EventError JsString :=
  match value.bind Json.str? with
  | some text =>
      if isNonEmptyString text then .ok (trim text)
      else .error (.field s!"Pair accepted event field '{field}' must be a non-empty string")
  | none => .error (.field s!"Pair accepted event field '{field}' must be a non-empty string")

def parseAgentDidString (value : Option Value) (field : String) : Except EventError JsString := do
  let normalized ← parseNonBlankString value field
  check (isAgentDid normalized) (.invalidDid normalized)
  return normalized

section
variable (platform : Platform)

def parseHttpOrigin (value : Option Value) (field : String) : Except EventError JsString := do
  let normalized ← parseNonBlankString value field
  let invalid := EventError.field
    s!"Pair accepted event field '{field}' must be a valid http(s) URL origin"
  match platform.parseUrl normalized with
  | none => .error invalid
  | some parsed =>
      check (parsed.protocol = js "https:" || parsed.protocol = js "http:") invalid
      return parsed.origin

def parseTimestampUtc (value : Option Value) : Except EventError JsString := do
  let normalized ← parseNonBlankString value "eventTimestampUtc"
  let invalid := EventError.field
    "Pair accepted event field 'eventTimestampUtc' must be a valid ISO timestamp"
  check (Connector.isIsoTimestamp normalized) invalid
  match platform.toIsoString normalized with
  | none => .error invalid
  | some text => return text

def parseOptionalMessage (value : Option Value) : Except EventError (Option JsString) :=
  match value with
  | none => .ok none
  | some (.str text) => .ok (if isNonEmptyString text then some (trim text) else none)
  | some _ => .error (.field "Pair accepted event field 'message' must be a string")

def parseResponderProfile (value : Option Value) :
    Except EventError PairAcceptedResponderProfile :=
  match value with
  | some (.obj fields) => do
      let profile : Value := .obj fields
      let agentName ← parseNonBlankString (profile.get? (js "agentName"))
        "responderProfile.agentName"
      let humanName ← parseNonBlankString (profile.get? (js "humanName"))
        "responderProfile.humanName"
      let proxyOrigin ← parseHttpOrigin platform (profile.get? (js "proxyOrigin"))
        "responderProfile.proxyOrigin"
      return { agentName, humanName, proxyOrigin }
  | _ => .error (.field "Pair accepted event field 'responderProfile' must be an object")

def parsePairAcceptedEvent (payload : Value) : Except EventError PairAcceptedEvent :=
  match payload with
  | .obj fields => do
      let event : Value := .obj fields
      check (event.get? (js "type") = some (.str PAIR_ACCEPTED_EVENT_TYPE))
        (.field "Unsupported pair accepted event type")
      let message ← parseOptionalMessage (event.get? (js "message"))
      let initiatorAgentDid ← parseAgentDidString (event.get? (js "initiatorAgentDid"))
        "initiatorAgentDid"
      let responderAgentDid ← parseAgentDidString (event.get? (js "responderAgentDid"))
        "responderAgentDid"
      let responderProfile ← parseResponderProfile platform (event.get? (js "responderProfile"))
      let issuerProxyOrigin ← parseHttpOrigin platform (event.get? (js "issuerProxyOrigin"))
        "issuerProxyOrigin"
      let eventTimestampUtc ← parseTimestampUtc platform (event.get? (js "eventTimestampUtc"))
      return { initiatorAgentDid, responderAgentDid, responderProfile, issuerProxyOrigin,
               eventTimestampUtc, message }
  | _ => .error (.field "Pair accepted event payload must be an object")

/-! ## Publishing -/

/-- The fields of a responder profile, under the names of the protocol package. -/
def PairAcceptedResponderProfile.fields (profile : PairAcceptedResponderProfile) :
    List (String × Option Value) :=
  [("agentName", some (.str profile.agentName)), ("humanName", some (.str profile.humanName)),
    ("proxyOrigin", some (.str profile.proxyOrigin))]

/-- The fields of an event. -/
def PairAcceptedEvent.fields (event : PairAcceptedEvent) : List (String × Option Value) :=
  [("type", some (.str PAIR_ACCEPTED_EVENT_TYPE)),
    ("initiatorAgentDid", some (.str event.initiatorAgentDid)),
    ("responderAgentDid", some (.str event.responderAgentDid)),
    ("responderProfile", some (object event.responderProfile.fields)),
    ("issuerProxyOrigin", some (.str event.issuerProxyOrigin)),
    ("eventTimestampUtc", some (.str event.eventTimestampUtc)),
    ("message", event.message.map .str)]

/-- The event as it is written to the queue. -/
def PairAcceptedEvent.toJson (event : PairAcceptedEvent) : Value := object event.fields

def createPairAcceptedEvent (input : PairAcceptedEvent) : Except EventError PairAcceptedEvent :=
  parsePairAcceptedEvent platform input.toJson

/-- `publishPairAcceptedEvent`: the event that is put on the queue; none where the
responder has no proxy origin. -/
def publishPairAcceptedEvent (ticket : StoredConfirmedPairingTicket)
    (eventTimestampUtc : JsString) : Except EventError (Option PairAcceptedEvent) :=
  match ticket.responderProfile.proxyOrigin.map trim with
  | none => .ok none
  | some responderProxyOrigin =>
      if responderProxyOrigin = [] then .ok none
      else
        (createPairAcceptedEvent platform
          { initiatorAgentDid := ticket.initiatorAgentDid
            responderAgentDid := ticket.responderAgentDid
            responderProfile :=
              { agentName := ticket.responderProfile.agentName
                humanName := ticket.responderProfile.humanName
                proxyOrigin := responderProxyOrigin }
            issuerProxyOrigin := ticket.issuerProxyUrl
            eventTimestampUtc := eventTimestampUtc
            message := some PAIR_ACCEPTED_NOTIFICATION_MESSAGE }).map some

/-- The queue consumer reads the text of the event. -/
def parsePairAcceptedQueueEvent (payload : Value) : Except EventError PairAcceptedEvent :=
  parsePairAcceptedEvent platform payload

end

/-- The payload of the delivery to the initiator. -/
def toSystemPayload (event : PairAcceptedEvent) : Value :=
  object [("system", some (object event.fields))]

end Clawdentity.PairAccepted
