import Clawdentity.Proxy.HookRoute
import Clawdentity.Proxy.Relay.QueueUpdates

/-!
# The receipt route

The handlers of delivery receipts. A recipient posts a receipt, which goes to the session
of the sender, directly or through the receipt queue; a sender asks for the receipt of a
request. The session parses its input again in both cases.

## Main definitions

* `createRelayDeliveryReceiptPostHandler` — where a posted receipt goes.
* `ReceiptDispatch.recorded` — the input that reaches the session of the sender.
* `createRelayDeliveryReceiptGetHandler` — the lookup, and its answer.
-/

namespace Clawdentity.ReceiptRoute

open Js Lib Connector Relay

/-! ## Posting -/

inductive ReceiptRouteError
  | authContextMissing
  | invalidJson
  | invalidInput
  | forbidden
  | pairStateUnavailable
  | notTrusted
  | queueUnavailable
  | relayUnavailable
  | invalidQuery (field : String)
  deriving DecidableEq

def ReceiptRouteError.code : ReceiptRouteError → String
  | .authContextMissing => "PROXY_RELAY_RECEIPT_AUTH_CONTEXT_MISSING"
  | .invalidJson => "SyntaxError"
  | .invalidInput => "PROXY_RELAY_RECEIPT_INVALID_INPUT"
  | .forbidden => "PROXY_RELAY_RECEIPT_FORBIDDEN"
  | .pairStateUnavailable => "PROXY_PAIR_STATE_UNAVAILABLE"
  | .notTrusted => "PROXY_AUTH_FORBIDDEN"
  | .queueUnavailable => "PROXY_RELAY_RECEIPT_QUEUE_UNAVAILABLE"
  | .relayUnavailable => "PROXY_RELAY_UNAVAILABLE"
  | .invalidQuery _ => "PROXY_RELAY_RECEIPT_INVALID_QUERY"

/-- What the handlers read beside the request. -/
structure ReceiptRouteOptions where
  /-- `isPairAllowed` of the trust store; `none` where it throws. -/
  isPairAllowed : JsString → JsString → Option Bool
  environment : Option JsString
  hasReceiptQueue : Bool
  hasSessionNamespace : Bool

/-- The checks of `parseRecordInput` are those of the session. -/
def parseRecordInput (payload : Value) : Option RelayReceiptRecordInput :=
  parseReceiptRecordInput payload

def normalizeEnvironment (value : Option JsString) : Option JsString :=
  (value.map fun text => (trim text).map HookRoute.lowerUnit).filter fun text => !text.isEmpty

def assertTrustedPair (options : ReceiptRouteOptions) (initiator responder : JsString) :
    Except ReceiptRouteError Unit :=
  match options.isPairAllowed initiator responder with
  | none => .error .pairStateUnavailable
  | some false => .error .notTrusted
  | some true => .ok ()

def DELIVERY_RECEIPT_EVENT_TYPE : JsString := js "delivery_receipt"

/-- The event that is put on the receipt queue. -/
def receiptEvent (input : RelayReceiptRecordInput) (processedAt : JsString) : Value :=
  object [("type", some (.str DELIVERY_RECEIPT_EVENT_TYPE)),
    ("requestId", some (.str input.requestId)),
    ("senderAgentDid", some (.str input.senderAgentDid)),
    ("recipientAgentDid", some (.str input.recipientAgentDid)),
    ("status", some (.str input.status.text)), ("reason", input.reason.map .str),
    ("processedAt", some (.str processedAt))]

/-- Where a receipt goes: to the session of its sender, or onto the queue. -/
inductive ReceiptDispatch
  | session (input : RelayReceiptRecordInput)
  | queue (event : Value)
  deriving DecidableEq

def createRelayDeliveryReceiptPostHandler (options : ReceiptRouteOptions)
    (auth : Option JsString) (body : Option Value) (nowIso : JsString) :
    Except ReceiptRouteError ReceiptDispatch := do
  let agentDid ← auth.elim (.error .authContextMissing) .ok
  let payload ← body.elim (.error .invalidJson) .ok
  let parsed ← (parseRecordInput payload).elim (.error .invalidInput) .ok
  check (parsed.recipientAgentDid = agentDid) .forbidden
  assertTrustedPair options parsed.senderAgentDid parsed.recipientAgentDid
  if options.hasReceiptQueue then return .queue (receiptEvent parsed nowIso)
  else
    check (normalizeEnvironment options.environment = some (js "local")) .queueUnavailable
    check options.hasSessionNamespace .relayUnavailable
    return .session parsed

/-- `parseReceiptQueueEvent`; the time of processing is not used. -/
def parseReceiptQueueEvent (payload : Value) : Option RelayReceiptRecordInput :=
  if getStr payload "type" = some DELIVERY_RECEIPT_EVENT_TYPE then parseReceiptRecordInput payload
  else none

/-- The input that `recordDeliveryReceipt` is called with: the session parses what the
route or `handleReceiptQueueEvent` sends. -/
def ReceiptDispatch.recorded : ReceiptDispatch → Option RelayReceiptRecordInput
  | .session input => parseReceiptRecordInput input.toJson
  | .queue event =>
      (parseReceiptQueueEvent event).bind fun input => parseReceiptRecordInput input.toJson

/-! ## Looking up -/

def parseRequiredQuery (value : Option JsString) (field : String) :
    Except ReceiptRouteError JsString :=
  match (value.filter isNonEmptyString).map trim with
  | none => .error (.invalidQuery field)
  | some text => .ok text

/-- `createRelayDeliveryReceiptGetHandler`, up to its call of the session. -/
def createRelayDeliveryReceiptGetHandler (options : ReceiptRouteOptions)
    (auth : Option JsString) (requestId recipientAgentDid : Option JsString) :
    Except ReceiptRouteError RelayReceiptLookupInput := do
  let senderAgentDid ← auth.elim (.error .authContextMissing) .ok
  let requestId ← parseRequiredQuery requestId "requestId"
  let recipientAgentDid ← parseRequiredQuery recipientAgentDid "recipientAgentDid"
  assertTrustedPair options senderAgentDid recipientAgentDid
  check options.hasSessionNamespace .relayUnavailable
  return { requestId, senderAgentDid }

/-- What the session of the sender answers to a lookup. -/
def answerLookup (s : Session) (env : Env) (lookup : RelayReceiptLookupInput) :
    Option RelayDeliveryReceipt :=
  (parseReceiptLookupInput lookup.toJson).bind fun input =>
    match (getDeliveryReceipt s input env).2 with
    | .returned (.receipt found) => found
    | _ => none

/-- A query for a receipt; `none` is the answer 404. -/
def getReceipt (options : ReceiptRouteOptions) (auth requestId recipientAgentDid : Option JsString)
    (s : Session) (env : Env) : Except ReceiptRouteError (Option RelayDeliveryReceipt) := do
  let lookup ← createRelayDeliveryReceiptGetHandler options auth requestId recipientAgentDid
  return answerLookup s env lookup

/-! ## What reaches the session -/

section
variable {options : ReceiptRouteOptions} {auth : Option JsString} {body : Option Value}
  {nowIso : JsString} {dispatch : ReceiptDispatch} {record : RelayReceiptRecordInput}

/-- The texts of a parsed receipt are trimmed and not empty. -/
structure RecordOk (record : RelayReceiptRecordInput) : Prop where
  requestId : trim record.requestId = record.requestId ∧ record.requestId ≠ []
  senderAgentDid : trim record.senderAgentDid = record.senderAgentDid ∧ record.senderAgentDid ≠ []
  recipientAgentDid : trim record.recipientAgentDid = record.recipientAgentDid ∧
    record.recipientAgentDid ≠ []
  reason : ∀ text, record.reason = some text → trim text = text ∧ text ≠ []

theorem isNonEmptyString_iff {s : JsString} : isNonEmptyString s = true ↔ trim s ≠ [] := by
  simp [isNonEmptyString]

theorem nonBlank_eq_some {v : Value} {key : String} {text : JsString} :
    nonBlank v key = some text ↔ ∃ s, getStr v key = some s ∧ trim s ≠ [] ∧ text = trim s := by
  simp only [nonBlank, Option.bind_eq_some_iff, Option.ite_none_right_eq_some, Option.some.injEq,
    isNonEmptyString_iff]
  constructor
  · intro ⟨s, hs, hne, htext⟩
    exact ⟨s, hs, hne, htext.symm⟩
  · intro ⟨s, hs, hne, htext⟩
    exact ⟨s, hs, hne, htext.symm⟩

theorem nonBlank_ok {v : Value} {key : String} {text : JsString}
    (h : nonBlank v key = some text) : trim text = text ∧ text ≠ [] := by
  obtain ⟨s, _, hne, rfl⟩ := nonBlank_eq_some.mp h
  exact ⟨trim_trim s, hne⟩

/-- **What a parser of receipts answers.** -/
theorem parseReceiptRecordInput_eq_some {v : Value} :
    parseReceiptRecordInput v = some record ↔
      nonBlank v "requestId" = some record.requestId ∧
      nonBlank v "senderAgentDid" = some record.senderAgentDid ∧
      nonBlank v "recipientAgentDid" = some record.recipientAgentDid ∧
      (getStr v "status").bind parseStatus = some record.status ∧
      record.reason = optTrimmed v "reason" := by
  simp only [parseReceiptRecordInput, Option.bind_eq_bind, Option.bind_eq_some_iff,
    Option.some.injEq]
  constructor
  · rintro ⟨requestId, hid, sender, hsender, recipient, hrecipient, status, hstatus, rfl⟩
    exact ⟨hid, hsender, hrecipient, hstatus, rfl⟩
  · intro ⟨hid, hsender, hrecipient, hstatus, hreason⟩
    exact ⟨_, hid, _, hsender, _, hrecipient, _, hstatus, by rw [← hreason]⟩

theorem recordOk_of_parse {v : Value} (h : parseReceiptRecordInput v = some record) :
    RecordOk record := by
  obtain ⟨hid, hsender, hrecipient, _, hreason⟩ := parseReceiptRecordInput_eq_some.mp h
  refine ⟨nonBlank_ok hid, nonBlank_ok hsender, nonBlank_ok hrecipient, ?_⟩
  intro text htext
  rw [hreason] at htext
  obtain ⟨s, hs, rfl⟩ := Option.map_eq_some_iff.mp htext
  have hne := (Option.filter_eq_some_iff.mp hs).2
  exact ⟨trim_trim s, isNonEmptyString_iff.mp hne⟩

/-- A field of an object that is a trimmed text which is not empty. -/
theorem nonBlank_object {fields : List (String × Option Value)} {key : String} {s : JsString}
    (h : Json.lookupField key fields = some (.str s)) (hs : trim s = s ∧ s ≠ []) :
    nonBlank (object fields) key = some s :=
  nonBlank_eq_some.mpr ⟨s, getStr_object h, by rw [hs.1]; exact hs.2, hs.1.symm⟩

theorem optTrimmed_ok {s : Option JsString} (h : ∀ text, s = some text → trim text = text ∧ text ≠ []) :
    (s.filter isNonEmptyString).map trim = s := by
  cases s with
  | none => rfl
  | some text =>
      obtain ⟨htrim, hne⟩ := h text rfl
      have hnonEmpty : isNonEmptyString text = true := by
        rw [isNonEmptyString_iff, htrim]
        exact hne
      simp [hnonEmpty, htrim]

/-- A receipt that has been parsed is read back from an object with its fields. -/
theorem parse_fields (hr : RecordOk record) {fields : List (String × Option Value)}
    (hid : Json.lookupField "requestId" fields = some (.str record.requestId))
    (hsender : Json.lookupField "senderAgentDid" fields = some (.str record.senderAgentDid))
    (hrecipient : Json.lookupField "recipientAgentDid" fields =
      some (.str record.recipientAgentDid))
    (hstatus : Json.lookupField "status" fields = some (.str record.status.text))
    (hreason : Json.lookupField "reason" fields = record.reason.map .str) :
    parseReceiptRecordInput (object fields) = some record := by
  refine parseReceiptRecordInput_eq_some.mpr ⟨nonBlank_object hid hr.requestId,
    nonBlank_object hsender hr.senderAgentDid, nonBlank_object hrecipient hr.recipientAgentDid,
    ?_, ?_⟩
  · rw [getStr_object hstatus]
    exact parseStatus_text record.status
  · rw [optTrimmed_object hreason, optTrimmed_ok hr.reason]

theorem parse_toJson (hr : RecordOk record) : parseReceiptRecordInput record.toJson = some record :=
  parse_fields hr (by simp) (by simp) (by simp) (by simp) (by simp)

theorem parse_receiptEvent (hr : RecordOk record) :
    parseReceiptQueueEvent (receiptEvent record nowIso) = some record := by
  have htype : getStr (receiptEvent record nowIso) "type" = some DELIVERY_RECEIPT_EVENT_TYPE :=
    getStr_object (by simp)
  rw [parseReceiptQueueEvent, if_pos htype]
  exact parse_fields hr (by simp) (by simp) (by simp) (by simp) (by simp)

/-- The lookup that the session reads from its request. -/
theorem parseReceiptLookupInput_toJson {lookup input : RelayReceiptLookupInput}
    (h : parseReceiptLookupInput lookup.toJson = some input) :
    input = ⟨trim lookup.requestId, trim lookup.senderAgentDid⟩ := by
  simp only [parseReceiptLookupInput, Option.bind_eq_bind, Option.bind_eq_some_iff,
    Option.some.injEq] at h
  obtain ⟨id, hid, sender, hsender, rfl⟩ := h
  obtain ⟨text, htext, _, rfl⟩ := nonBlank_eq_some.mp hid
  obtain ⟨text', htext', _, rfl⟩ := nonBlank_eq_some.mp hsender
  have hrequest : getStr lookup.toJson "requestId" = some lookup.requestId :=
    getStr_object (by simp)
  have hagent : getStr lookup.toJson "senderAgentDid" = some lookup.senderAgentDid :=
    getStr_object (by simp)
  cases hrequest.symm.trans htext
  cases hagent.symm.trans htext'
  rfl

/-- A lookup finds only a receipt that was loaded under the request id, and of the sender. -/
theorem answerLookup_spec {s : Session} {env : Env} {lookup : RelayReceiptLookupInput}
    {found : RelayDeliveryReceipt} (h : answerLookup s env lookup = some found) :
    (s.loadQueueState env.nowMs).2.receipts.lookup (trim lookup.requestId) = some found ∧
      found.senderAgentDid = trim lookup.senderAgentDid := by
  obtain ⟨input, hinput, hfound⟩ := Option.bind_eq_some_iff.mp h
  cases parseReceiptLookupInput_toJson hinput
  simp only [getDeliveryReceipt, Option.filter_eq_some_iff, decide_eq_true_eq] at hfound
  exact hfound

/-- A lookup reads nothing but the receipt under the request id. -/
theorem answerLookup_congr {s s' : Session} {env : Env} {lookup : RelayReceiptLookupInput}
    (h : (s.loadQueueState env.nowMs).2.receipts.lookup (trim lookup.requestId) =
      (s'.loadQueueState env.nowMs).2.receipts.lookup (trim lookup.requestId)) :
    answerLookup s env lookup = answerLookup s' env lookup := by
  unfold answerLookup
  cases hinput : parseReceiptLookupInput lookup.toJson with
  | none => rfl
  | some input =>
      cases parseReceiptLookupInput_toJson hinput
      simp only [Option.bind_some, getDeliveryReceipt, h]

/-- What the session is asked for a query. -/
theorem lookup_of_query {requestId recipientAgentDid : Option JsString}
    {lookup : RelayReceiptLookupInput}
    (h : createRelayDeliveryReceiptGetHandler options auth requestId recipientAgentDid =
      .ok lookup) :
    ∃ sender id, auth = some sender ∧ requestId = some id ∧ lookup = ⟨trim id, sender⟩ := by
  simp only [createRelayDeliveryReceiptGetHandler, bind_eq_ok] at h
  obtain ⟨sender, hauth, id, hid, recipient, _, _, _, _, _, hlookup⟩ := h
  cases hlookup
  have hauth' : auth = some sender := by
    cases auth with
    | none => cases hauth
    | some did => cases hauth; rfl
  unfold parseRequiredQuery at hid
  cases hquery : (requestId.filter isNonEmptyString).map trim with
  | none => rw [hquery] at hid; cases hid
  | some text =>
      rw [hquery] at hid
      cases hid
      obtain ⟨raw, hraw, rfl⟩ := Option.map_eq_some_iff.mp hquery
      exact ⟨sender, raw, hauth', (Option.filter_eq_some_iff.mp hraw).1, rfl⟩

/-- What a query finds. -/
theorem getReceipt_eq_ok {sender id : JsString} {recipientAgentDid : Option JsString} {s : Session}
    {env : Env} {answer : Option RelayDeliveryReceipt} :
    getReceipt options (some sender) (some id) recipientAgentDid s env = .ok answer ↔
      createRelayDeliveryReceiptGetHandler options (some sender) (some id) recipientAgentDid =
        .ok ⟨trim id, sender⟩ ∧ answer = answerLookup s env ⟨trim id, sender⟩ := by
  unfold getReceipt
  rw [bind_eq_ok]
  constructor
  · intro ⟨lookup, hlookup, hanswer⟩
    obtain ⟨_, _, hsender, hid, rfl⟩ := lookup_of_query hlookup
    cases hsender
    cases hid
    cases hanswer
    exact ⟨hlookup, rfl⟩
  · intro ⟨hlookup, hanswer⟩
    exact ⟨_, hlookup, by rw [hanswer]; rfl⟩

/-- **What the route records** for a post that it accepts: the receipt that was posted. -/
theorem recorded_of_post
    (h : createRelayDeliveryReceiptPostHandler options auth body nowIso = .ok dispatch) :
    ∃ agentDid v record, auth = some agentDid ∧ body = some v ∧
      parseReceiptRecordInput v = some record ∧ record.recipientAgentDid = agentDid ∧
      options.isPairAllowed record.senderAgentDid record.recipientAgentDid = some true ∧
      dispatch.recorded = some record := by
  simp only [createRelayDeliveryReceiptPostHandler, bind_eq_ok] at h
  obtain ⟨agentDid, hauth, v, hbody, record, hrecord, _, hrecipient, _, htrusted, h⟩ := h
  have hauth' : auth = some agentDid := by
    cases auth with
    | none => cases hauth
    | some did => cases hauth; rfl
  have hbody' : body = some v := by
    cases body with
    | none => cases hbody
    | some w => cases hbody; rfl
  have hparse : parseReceiptRecordInput v = some record := by
    rw [parseRecordInput] at hrecord
    cases hv : parseReceiptRecordInput v with
    | none => rw [hv] at hrecord; cases hrecord
    | some r => rw [hv] at hrecord; cases hrecord; rfl
  have hpair : options.isPairAllowed record.senderAgentDid record.recipientAgentDid = some true := by
    unfold assertTrustedPair at htrusted
    split at htrusted
    · cases htrusted
    · cases htrusted
    · assumption
  have hr := recordOk_of_parse hparse
  refine ⟨agentDid, v, record, hauth', hbody', hparse, by simpa using hrecipient, hpair, ?_⟩
  cases hqueue : options.hasReceiptQueue with
  | true =>
      rw [hqueue, if_pos rfl] at h
      cases h
      simp only [ReceiptDispatch.recorded, parse_receiptEvent hr, Option.bind_some, parse_toJson hr]
  | false =>
      rw [hqueue, if_neg (by decide)] at h
      simp only [bind_eq_ok] at h
      obtain ⟨_, _, _, _, h⟩ := h
      cases h
      exact parse_toJson hr

end

end Clawdentity.ReceiptRoute
