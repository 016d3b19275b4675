import Clawdentity.Proxy.ReceiptRoute
import Clawdentity.Proxy.TrustIndex

/-!
# Who may send, and who may acknowledge

A proxy asks its trust state and the registry in four places: the middleware asks if the
caller is known, the hook route and the enqueue handler ask if the sender may send to the
recipient, by the pair or by a group, and the receipt route asks for the pair.

## Main definitions

* `Deployment` — the stores and bindings that the handlers read.
* `MessageAccepted` — the proxy has accepted a message, by one of its two entries.
* `Acknowledged` — the recipient may post a receipt, and the sender may ask for it.
-/

namespace Clawdentity.Authorization

open Js Lib Connector Protocol TrustState
open Relay (EnqueueContext RelayDeliveryInput RelayReceiptLookupInput RelayReceiptRecordInput
  handleEnqueueFrame parseReceiptRecordInput)
open HookRoute (HookError HookOptions HookRequest createAgentHookHandler)
open ReceiptRoute (ReceiptDispatch ReceiptRouteError ReceiptRouteOptions
  createRelayDeliveryReceiptGetHandler createRelayDeliveryReceiptPostHandler)

/-! ## The registry's groups -/

/-- How `checkGroupMembership` of the identity client fails. -/
inductive MembershipError
  | unauthorized
  | invalidInput
  | unavailable
  deriving DecidableEq

def toMembershipDependencyError : MembershipError → HookError
  | .unauthorized => .internalAuthUnauthorized
  | .invalidInput => .groupInvalid
  | .unavailable => .groupMembershipUnavailable

/-- Whether an agent is a member of a group. -/
abbrev CheckGroupMembership := JsString → JsString → Except MembershipError Bool

/-- `createRegistryGroupTrustAuthorizer`; where both checks fail, the sender's is told. -/
def createRegistryGroupTrustAuthorizer (checkGroupMembership : CheckGroupMembership)
    (groupId senderAgentDid recipientAgentDid : JsString) : Except HookError Unit := do
  let normalizedGroupId ← (parseGroupId groupId).elim (.error .groupInvalid) .ok
  check (isAgentDid senderAgentDid && isAgentDid recipientAgentDid) .groupInvalid
  let senderIsMember ← (checkGroupMembership normalizedGroupId senderAgentDid).mapError
    toMembershipDependencyError
  let recipientIsMember ← (checkGroupMembership normalizedGroupId recipientAgentDid).mapError
    toMembershipDependencyError
  check (senderIsMember && recipientIsMember) .forbidden

/-! ## The trust store -/

/-- The body with which the trust store asks for a pair. -/
def pairRequest (initiatorAgentDid responderAgentDid : JsString) : TrustRequest where
  body := some (object [("initiatorAgentDid", some (.str initiatorAgentDid)),
    ("responderAgentDid", some (.str responderAgentDid))])
  nowUtcMs := 0

/-- The body with which the trust store asks for an agent. -/
def agentRequest (agentDid : JsString) : TrustRequest where
  body := some (object [("agentDid", some (.str agentDid))])
  nowUtcMs := 0

/-- `isPairAllowed` of the trust store; `none` where it throws. -/
def isPairAllowed (s : TrustStorage) (initiator responder : JsString) : Option Bool :=
  match handleIsPairAllowed s (pairRequest initiator responder) with
  | .allowed allowed => some allowed
  | _ => none

/-- `isAgentKnown` of the trust store; `none` where it throws. -/
def isAgentKnown (s : TrustStorage) (agentDid : JsString) : Option Bool :=
  match handleIsAgentKnown s (agentRequest agentDid) with
  | .known known => some known
  | _ => none

/-! ## A proxy -/

structure Deployment where
  trust : TrustStorage
  /-- The identity client, if the proxy has the credentials of a service. -/
  checkGroupMembership : Option CheckGroupMembership
  injectIdentityIntoMessage : Bool
  environment : Option JsString
  hasReceiptQueue : Bool
  hasSessionNamespace : Bool

namespace Deployment
variable (d : Deployment)

def groupTrustAuthorizer : Option (JsString → JsString → JsString → Except HookError Unit) :=
  d.checkGroupMembership.map createRegistryGroupTrustAuthorizer

def hookOptions : HookOptions where
  injectIdentityIntoMessage := d.injectIdentityIntoMessage
  groupTrustAuthorizer := d.groupTrustAuthorizer
  isPairAllowed := isPairAllowed d.trust
  hasSessionNamespace := d.hasSessionNamespace

def receiptOptions : ReceiptRouteOptions where
  isPairAllowed := isPairAllowed d.trust
  environment := d.environment
  hasReceiptQueue := d.hasReceiptQueue
  hasSessionNamespace := d.hasSessionNamespace

/-- The session of an agent, of which `deliver` reaches the one of the recipient. -/
def enqueueContext (senderAgentDid : JsString) (deliver : RelayDeliveryInput → Except JsString Unit) :
    EnqueueContext where
  senderAgentDid := some senderAgentDid
  hasNamespace := d.hasSessionNamespace
  assertTrustedPair := some fun initiator responder =>
    (HookRoute.assertTrustedPair d.hookOptions initiator responder).mapError fun e => js e.message
  groupTrustAuthorizer := d.groupTrustAuthorizer.map fun authorize groupId sender recipient =>
    (authorize groupId sender recipient).mapError fun e => js e.message
  deliverToRelaySession := deliver

end Deployment

/-! ## The middleware -/

def PAIR_START_PATH : String := "/pair/start"
def PAIR_CONFIRM_PATH : String := "/pair/confirm"
def PAIR_STATUS_PATH : String := "/pair/status"
def RELAY_CONNECT_PATH : String := "/v1/relay/connect"
def RELAY_DELIVERY_RECEIPTS_PATH : String := "/v1/relay/delivery-receipts"
def HOOKS_MESSAGE_PATH : String := "/hooks/message"

def shouldSkipKnownAgentCheck (path : String) : Bool :=
  path = PAIR_START_PATH || path = PAIR_CONFIRM_PATH || path = PAIR_STATUS_PATH ||
    path = RELAY_CONNECT_PATH

inductive CallerError
  | trustStateUnavailable
  | notTrusted
  deriving DecidableEq

def CallerError.code : CallerError → String
  | .trustStateUnavailable => "PROXY_AUTH_DEPENDENCY_UNAVAILABLE"
  | .notTrusted => "PROXY_AUTH_FORBIDDEN"

def assertKnownTrustedAgent (s : TrustStorage) (agentDid : JsString) : Except CallerError Unit :=
  match isAgentKnown s agentDid with
  | none => .error .trustStateUnavailable
  | some false => .error .notTrusted
  | some true => .ok ()

/-- A handler behind the middleware, for a caller that it has authenticated. -/
def authenticated {ε α : Type} (d : Deployment) (path : String) (agentDid : JsString)
    (handler : Except ε α) : Except (CallerError ⊕ ε) α := do
  (if shouldSkipKnownAgentCheck path then .ok () else assertKnownTrustedAgent d.trust agentDid).mapError
    .inl
  handler.mapError .inr

/-! ## Messages and receipts -/

/-- The proxy accepts a message of the first agent to the second. -/
inductive MessageAccepted (platform : Platform) (d : Deployment) (a b : JsString) : Prop
  /-- As an enqueue frame on the socket of the sender. -/
  | enqueue {message : Value} {frame : EnqueueFrame} {deliver : RelayDeliveryInput → Except JsString Unit}
      (hframe : parseFrame platform message = some (.enqueue frame)) (hto : frame.toAgentDid = b)
      (haccepted : (handleEnqueueFrame (d.enqueueContext a deliver) frame).accepted = true)
  /-- As a request to `/hooks/message`. -/
  | hook {request : HookRequest} {auth : HookRoute.ProxyAuthContext} {input : RelayDeliveryInput}
      (hauth : request.auth = some auth) (hsender : auth.agentDid = a)
      (haccepted : authenticated d HOOKS_MESSAGE_PATH a
        (createAgentHookHandler d.hookOptions request) = .ok input)
      (hto : input.recipientAgentDid = b)

/-- The receipt post of an authenticated agent. -/
def postReceipt (d : Deployment) (agentDid : JsString) (body : Value) (nowIso : JsString) :
    Except (CallerError ⊕ ReceiptRouteError) ReceiptDispatch :=
  authenticated d RELAY_DELIVERY_RECEIPTS_PATH agentDid
    (createRelayDeliveryReceiptPostHandler d.receiptOptions (some agentDid) (some body) nowIso)

/-- The receipt query of an authenticated agent. -/
def queryReceipt (d : Deployment) (agentDid requestId recipientAgentDid : JsString) :
    Except (CallerError ⊕ ReceiptRouteError) RelayReceiptLookupInput :=
  authenticated d RELAY_DELIVERY_RECEIPTS_PATH agentDid
    (createRelayDeliveryReceiptGetHandler d.receiptOptions (some agentDid) (some requestId)
      (some recipientAgentDid))

/-- Every receipt of the second agent that names the first is accepted, and no query of the
first for a message to the second is refused. -/
structure Acknowledged (d : Deployment) (a b : JsString) : Prop where
  posted : ∀ (body : Value) (record : RelayReceiptRecordInput) (nowIso : JsString),
    parseReceiptRecordInput body = some record → record.senderAgentDid = a →
    record.recipientAgentDid = b → ∃ dispatch, postReceipt d b body nowIso = .ok dispatch
  queried : ∀ requestId : JsString, isNonEmptyString requestId = true →
    ∃ lookup, queryReceipt d a requestId b = .ok lookup

/-! ## What the handlers ask -/

section
variable {d : Deployment} {a b : JsString}

theorem isNonEmptyString_of_isAgentDid (h : isAgentDid a = true) : isNonEmptyString a = true := by
  have hne : a ≠ [] := ne_nil_of_isAgentDid h
  simpa [isNonEmptyString, (isAgentDid_graphic h).trim_eq] using hne

theorem isPairAllowed_eq (s : TrustStorage) (ha : isAgentDid a = true) (hb : isAgentDid b = true) :
    isPairAllowed s a b = some (s.allows a b) := by
  have htexts : (pairRequest a b).pair = some (a, b) := by
    simp [ConfirmRequest.pair, ConfirmRequest.text, ConfirmRequest.field, pairRequest, Json.str?,
      Option.filter_some, isNonEmptyString_of_isAgentDid ha, isNonEmptyString_of_isAgentDid hb]
  simp [isPairAllowed, handleIsPairAllowed, htexts]

theorem isAgentKnown_eq (s : TrustStorage) (ha : isAgentDid a = true) :
    isAgentKnown s a = some (s.knows a) := by
  have htext : (agentRequest a).text "agentDid" = some a := by
    simp [ConfirmRequest.text, ConfirmRequest.field, agentRequest, Json.str?, Option.filter_some,
      isNonEmptyString_of_isAgentDid ha]
  simp [isAgentKnown, handleIsAgentKnown, htext]

/-- What the middleware lets through on a path where it checks the caller. -/
theorem authenticated_eq_ok {ε α : Type} {path : String} {handler : Except ε α} {r : α}
    (hpath : shouldSkipKnownAgentCheck path = false) (ha : isAgentDid a = true) :
    authenticated d path a handler = .ok r ↔ d.trust.knows a = true ∧ handler = .ok r := by
  simp only [authenticated, hpath, Bool.false_eq_true, if_false, bind_eq_ok, mapError_eq_ok,
    assertKnownTrustedAgent, isAgentKnown_eq d.trust ha]
  cases d.trust.knows a with
  | false => simp
  | true => simp

theorem allows_iff (s : TrustStorage) (hne : a ≠ b) :
    s.allows a b = true ↔ toPairKey a b ∈ s.pairs := by
  simp [TrustStorage.allows, hne]

theorem assertTrustedPair_eq_ok (d : Deployment) (ha : isAgentDid a = true)
    (hb : isAgentDid b = true) (hne : a ≠ b) :
    ReceiptRoute.assertTrustedPair d.receiptOptions a b = .ok () ↔ toPairKey a b ∈ d.trust.pairs := by
  rw [← allows_iff d.trust hne]
  have hallowed : d.receiptOptions.isPairAllowed a b = some (d.trust.allows a b) :=
    isPairAllowed_eq d.trust ha hb
  rw [ReceiptRoute.assertTrustedPair, hallowed]
  cases d.trust.allows a b with
  | false => simp
  | true => simp

/-- The route has somewhere to put a receipt. -/
def Deployment.storesReceipts (d : Deployment) : Prop :=
  d.hasReceiptQueue = true ∨ ReceiptRoute.normalizeEnvironment d.environment = some (js "local")

/-- **When a receipt is accepted.** -/
theorem postReceipt_ok_iff (hsession : d.hasSessionNamespace = true) (ha : isAgentDid a = true)
    (hb : isAgentDid b = true) (hne : a ≠ b) {body : Value} {record : RelayReceiptRecordInput}
    {nowIso : JsString} (hbody : parseReceiptRecordInput body = some record)
    (hsender : record.senderAgentDid = a) (hrecipient : record.recipientAgentDid = b) :
    (∃ dispatch, postReceipt d b body nowIso = .ok dispatch) ↔
      d.trust.knows b = true ∧ toPairKey a b ∈ d.trust.pairs ∧ d.storesReceipts := by
  rw [← assertTrustedPair_eq_ok d ha hb hne]
  have hpath : shouldSkipKnownAgentCheck RELAY_DELIVERY_RECEIPTS_PATH = false := by decide
  simp only [postReceipt, authenticated_eq_ok hpath hb]
  simp only [createRelayDeliveryReceiptPostHandler, bind_eq_ok, elim_eq_ok, check_eq_ok,
    ReceiptRoute.parseRecordInput]
  constructor
  · rintro ⟨dispatch, hknown, did, hdid, v, hv, parsed, hparsed, _, _, _, htrusted, hdispatch⟩
    cases hv
    cases hbody.symm.trans hparsed
    rw [hsender, hrecipient] at htrusted
    refine ⟨hknown, htrusted, ?_⟩
    cases hqueue : d.receiptOptions.hasReceiptQueue with
    | true => exact .inl hqueue
    | false =>
        rw [hqueue, if_neg (by decide)] at hdispatch
        simp only [bind_eq_ok, check_eq_ok, decide_eq_true_eq] at hdispatch
        obtain ⟨_, hlocal, _⟩ := hdispatch
        exact .inr hlocal
  · rintro ⟨hknown, htrusted, hstores⟩
    rw [← hsender, ← hrecipient] at htrusted
    cases hqueue : d.receiptOptions.hasReceiptQueue with
    | true =>
        exact ⟨_, hknown, b, rfl, body, rfl, record, hbody, ⟨⟩, by simp [hrecipient], (), htrusted,
          if_pos rfl⟩
    | false =>
        have hlocal : ReceiptRoute.normalizeEnvironment d.receiptOptions.environment =
            some (js "local") := by
          rcases hstores with hhas | hlocal
          · cases hhas.symm.trans hqueue
          · exact hlocal
        have hspace : d.receiptOptions.hasSessionNamespace = true := hsession
        refine ⟨.session record, hknown, b, rfl, body, rfl, record, hbody, ⟨⟩, by simp [hrecipient],
          (), htrusted, ?_⟩
        rw [if_neg (by decide)]
        simp [hlocal, hspace, check, bind, Except.bind, pure, Except.pure]

/-- **When a query for a receipt is not refused.** -/
theorem queryReceipt_ok_iff (hsession : d.hasSessionNamespace = true) (ha : isAgentDid a = true)
    (hb : isAgentDid b = true) (hne : a ≠ b) {requestId : JsString}
    (hid : isNonEmptyString requestId = true) :
    (∃ lookup, queryReceipt d a requestId b = .ok lookup) ↔
      d.trust.knows a = true ∧ toPairKey a b ∈ d.trust.pairs := by
  rw [← assertTrustedPair_eq_ok d ha hb hne]
  have hpath : shouldSkipKnownAgentCheck RELAY_DELIVERY_RECEIPTS_PATH = false := by decide
  have hspace : d.receiptOptions.hasSessionNamespace = true := hsession
  have hquery : ReceiptRoute.parseRequiredQuery (some b) "recipientAgentDid" = .ok b := by
    simp [ReceiptRoute.parseRequiredQuery, Option.filter_some, isNonEmptyString_of_isAgentDid hb,
      (isAgentDid_graphic hb).trim_eq]
  have hrequest : ReceiptRoute.parseRequiredQuery (some requestId) "requestId" =
      .ok (trim requestId) := by
    simp [ReceiptRoute.parseRequiredQuery, Option.filter_some, hid]
  simp only [queryReceipt, authenticated_eq_ok hpath ha]
  simp only [createRelayDeliveryReceiptGetHandler, bind_eq_ok, elim_eq_ok, check_eq_ok, hquery,
    hrequest]
  constructor
  · rintro ⟨lookup, hknown, did, hdid, _, _, recipient, hrecipient, _, htrusted, _⟩
    cases hdid
    cases hrecipient
    exact ⟨hknown, htrusted⟩
  · intro ⟨hknown, htrusted⟩
    exact ⟨_, hknown, a, rfl, _, rfl, b, rfl, (), htrusted, ⟨⟩, hspace, rfl⟩

/-! ## Accepted messages -/

/-- An accepted message is to a valid agent, and the proxy has its sessions. -/
theorem MessageAccepted.spec {platform : Platform} (h : MessageAccepted platform d a b) :
    isAgentDid b = true ∧ d.hasSessionNamespace = true := by
  cases h with
  | enqueue hframe hto haccepted =>
      rename_i message frame deliver
      subst hto
      refine ⟨(enqueue_of_parseFrame hframe).2, ?_⟩
      cases hspace : d.hasSessionNamespace with
      | true => rfl
      | false =>
          have hcontext : (d.enqueueContext a deliver).hasNamespace = false := hspace
          have hsender : (d.enqueueContext a deliver).senderAgentDid = some a := rfl
          simp [handleEnqueueFrame, hcontext, hsender] at haccepted
  | hook hauth hsender haccepted hto =>
      rename_i request auth input
      subst hto
      simp only [authenticated, bind_eq_ok, mapError_eq_ok] at haccepted
      obtain ⟨_, _, hok⟩ := haccepted
      simp only [createAgentHookHandler, bind_eq_ok, check_eq_ok] at hok
      obtain ⟨_, _, body, _, auth, _, recipient, hrecipient, groupId, _, _, _, _, hspace, hinput⟩ :=
        hok
      cases hinput
      refine ⟨?_, hspace⟩
      unfold HookRoute.parseRecipientAgentDid at hrecipient
      split at hrecipient
      · cases hrecipient
      · split at hrecipient
        · cases hrecipient
          assumption
        · cases hrecipient

/-- There is a receipt that names the two agents. -/
theorem exists_receipt (ha : isAgentDid a = true) (hb : isAgentDid b = true) :
    ∃ (body : Value) (record : RelayReceiptRecordInput), parseReceiptRecordInput body = some record ∧
      record.senderAgentDid = a ∧ record.recipientAgentDid = b := by
  have htext : ∀ {did : JsString}, isAgentDid did = true → trim did = did ∧ did ≠ [] :=
    fun h => ⟨(isAgentDid_graphic h).trim_eq, ne_nil_of_isAgentDid h⟩
  let record : RelayReceiptRecordInput :=
    { requestId := a, senderAgentDid := a, recipientAgentDid := b, status := .deliveredToWebhook,
      reason := none }
  have hrecord : ReceiptRoute.RecordOk record :=
    ⟨htext ha, htext ha, htext hb, fun _ h => by cases h⟩
  exact ⟨record.toJson, record, ReceiptRoute.parse_toJson hrecord, rfl, rfl⟩

theorem acknowledged_iff_trusted (hsession : d.hasSessionNamespace = true) (ha : isAgentDid a = true)
    (hb : isAgentDid b = true) (hne : a ≠ b) :
    Acknowledged d a b ↔
      (toPairKey a b ∈ d.trust.pairs ∧ d.trust.knows a = true ∧ d.trust.knows b = true) ∧
        d.storesReceipts := by
  constructor
  · intro h
    obtain ⟨body, record, hbody, hsender, hrecipient⟩ := exists_receipt ha hb
    obtain ⟨hknownB, hpair, hstores⟩ := (postReceipt_ok_iff hsession ha hb hne hbody hsender
      hrecipient).mp (h.posted body record [] hbody hsender hrecipient)
    have hid := isNonEmptyString_of_isAgentDid ha
    obtain ⟨hknownA, _⟩ := (queryReceipt_ok_iff hsession ha hb hne hid).mp (h.queried a hid)
    exact ⟨⟨hpair, hknownA, hknownB⟩, hstores⟩
  · intro ⟨⟨hpair, hknownA, hknownB⟩, hstores⟩
    constructor
    · intro body record nowIso hbody hsender hrecipient
      exact (postReceipt_ok_iff hsession ha hb hne hbody hsender hrecipient).mpr
        ⟨hknownB, hpair, hstores⟩
    · intro requestId hid
      exact (queryReceipt_ok_iff hsession ha hb hne hid).mpr ⟨hknownA, hpair⟩

/-- **Who can acknowledge what the proxy authorises.** For every trust state and every group
membership: where the proxy accepts a message of an agent to another one, its receipts are
accepted and queries for them are not refused exactly if the two agents are a trusted pair,
both are known, and the proxy has somewhere to put receipts. After any operations on the
trust state with valid agent DIDs, a trusted pair is known. -/
theorem acknowledged_iff {platform : Platform} (ha : isAgentDid a = true) (hne : a ≠ b)
    (h : MessageAccepted platform d a b) :
    (Acknowledged d a b ↔
      (toPairKey a b ∈ d.trust.pairs ∧ d.trust.knows a = true ∧ d.trust.knows b = true) ∧
        d.storesReceipts) ∧
    ∀ (tickets : PairingTicket.Platform) (ops : List Operation), (∀ op ∈ ops, op.Valid) →
      d.trust = after tickets ops →
      (Acknowledged d a b ↔ toPairKey a b ∈ d.trust.pairs ∧ d.storesReceipts) := by
  obtain ⟨hb, hsession⟩ := h.spec
  have hiff := acknowledged_iff_trusted hsession ha hb hne
  refine ⟨hiff, ?_⟩
  intro tickets ops hops htrust
  have hindexed : Indexed d.trust := htrust ▸ indexed_after hops
  rw [hiff]
  constructor
  · intro ⟨⟨hpair, _, _⟩, hstores⟩
    exact ⟨hpair, hstores⟩
  · intro ⟨hpair, hstores⟩
    have hknownA := (hindexed.knows_iff ha).mpr ⟨b, hb, hpair⟩
    have hknownB := (hindexed.knows_iff hb).mpr ⟨a, ha, by rwa [toPairKey_comm]⟩
    exact ⟨⟨hpair, hknownA, hknownB⟩, hstores⟩

end

/-! ### A message within a group -/

def exampleSender : JsString := js "did:cdi:registry.example.com:agent:01HF7YAT00W6W7CM7N3W5FDXA0"
def exampleRecipient : JsString := js "did:cdi:registry.example.com:agent:01HF7YAT00W6W7CM7N3W5FDXB0"

/-- A proxy on which nobody is paired, for two members of every group. -/
def groupDeployment : Deployment where
  trust := .empty
  checkGroupMembership := some fun _ _ => .ok true
  injectIdentityIntoMessage := false
  environment := some (js "production")
  hasReceiptQueue := true
  hasSessionNamespace := true

def examplePlatform : Platform := ⟨fun _ => true, fun _ => true⟩

def groupFrame : EnqueueFrame where
  id := js "01HF7YAT00W6W7CM7N3W5FDXM0"
  ts := js "2023-11-14T22:13:20.000Z"
  toAgentDid := exampleRecipient
  payload := some (.obj [(js "message", .str (js "hello"))])
  conversationId := none
  groupId := some (js "grp_01HF7YAT00W6W7CM7N3W5FDXG0")
  replyTo := none

theorem groupFrame_parsed :
    parseFrame examplePlatform (Frame.enqueue groupFrame).toJson = some (.enqueue groupFrame) := by
  decide

theorem groupMessage_accepted :
    MessageAccepted examplePlatform groupDeployment exampleSender exampleRecipient := by
  have haccepted : (handleEnqueueFrame
      (groupDeployment.enqueueContext exampleSender fun _ => .ok ()) groupFrame).accepted = true := by
    decide
  exact .enqueue groupFrame_parsed rfl haccepted

/-- **A message within a group cannot be acknowledged** by agents that are not paired. -/
theorem not_acknowledged :
    ¬ ∀ (platform : Platform) (d : Deployment) (a b : JsString), isAgentDid a = true → a ≠ b →
      d.storesReceipts → MessageAccepted platform d a b → Acknowledged d a b := by
  intro h
  have hack := h examplePlatform groupDeployment exampleSender exampleRecipient (by decide)
    (by decide) (.inl rfl) groupMessage_accepted
  obtain ⟨lookup, hquery⟩ := hack.queried (js "01HF7YAT00W6W7CM7N3W5FDXM0") (by decide)
  have hrefused : queryReceipt groupDeployment exampleSender (js "01HF7YAT00W6W7CM7N3W5FDXM0")
      exampleRecipient = .error (.inl .notTrusted) := by
    decide
  cases hrefused.symm.trans hquery

/-- The same proxy, after the two agents have been paired. -/
def pairedDeployment : Deployment :=
  { groupDeployment with
    trust := after TrustState.examplePlatform
      [.upsertPair (pairRequest exampleSender exampleRecipient)] }

theorem paired_acknowledged : Acknowledged pairedDeployment exampleSender exampleRecipient := by
  have haccepted : (handleEnqueueFrame
      (pairedDeployment.enqueueContext exampleSender fun _ => .ok ()) groupFrame).accepted = true := by
    decide
  have hmessage : MessageAccepted examplePlatform pairedDeployment exampleSender exampleRecipient :=
    .enqueue groupFrame_parsed rfl haccepted
  have hvalid : ∀ op ∈ [Operation.upsertPair (pairRequest exampleSender exampleRecipient)],
      op.Valid := by
    decide
  have hpair : toPairKey exampleSender exampleRecipient ∈ pairedDeployment.trust.pairs := by
    have hpaired : PairedBy TrustState.examplePlatform
        [.upsertPair (pairRequest exampleSender exampleRecipient)] exampleSender exampleRecipient :=
      .upsert (List.nil_append _).symm (by decide)
    exact (pairs_iff_pairedBy hvalid (by decide) (by decide)).mpr (.inl hpaired)
  exact ((acknowledged_iff (by decide) (by decide) hmessage).2
    TrustState.examplePlatform _ hvalid rfl).mpr ⟨hpair, .inl rfl⟩

end Clawdentity.Authorization
