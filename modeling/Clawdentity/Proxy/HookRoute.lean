import Clawdentity.Lib.Fallible
import Clawdentity.Proxy.Relay.Inputs

/-!
# The hook route

`createAgentHookHandler` up to its call of the relay session: which deliveries it
accepts, and the input it builds for the session. The identity block that it may put
before a message is sanitised text from the authentication.

## Main definitions

* `injectIdentityBlockIntoPayload`.
* `createAgentHookHandler` — the input for the relay session, or an error.
-/

namespace Clawdentity.HookRoute

open Js Lib Connector Protocol
open Relay (RelayDeliveryInput)

/-! ## The identity block -/

/-- `ProxyAuthContext`, as far as the route reads it. -/
structure ProxyAuthContext where
  agentDid : JsString
  ownerDid : JsString
  issuer : JsString
  aitJti : JsString

def MAX_AGENT_DID_LENGTH : ℕ := 160
def MAX_OWNER_DID_LENGTH : ℕ := 160
def MAX_ISSUER_LENGTH : ℕ := 200
def MAX_AIT_JTI_LENGTH : ℕ := 64

def stripControlChars (value : JsString) : JsString :=
  value.filter fun u => !(u.toNat ≤ 31 || u.toNat == 127)

/-- `replaceAll(/\s+/g, " ")`; the flag says that white space stands before. -/
def collapseWhiteSpace (inside : Bool) : JsString → JsString
  | [] => []
  | u :: rest =>
      if isWhiteSpace u then
        if inside then collapseWhiteSpace true rest else 0x20 :: collapseWhiteSpace true rest
      else u :: collapseWhiteSpace false rest

def sanitizeIdentityField (value : JsString) (maxLength : ℕ) : JsString :=
  let sanitized := trim (collapseWhiteSpace false (stripControlChars value))
  if sanitized.isEmpty then js "unknown" else sanitized.take maxLength

def buildIdentityBlock (auth : ProxyAuthContext) : JsString :=
  [0x0A].intercalate
    [js "[Clawdentity Identity]",
      js "agentDid: " ++ sanitizeIdentityField auth.agentDid MAX_AGENT_DID_LENGTH,
      js "ownerDid: " ++ sanitizeIdentityField auth.ownerDid MAX_OWNER_DID_LENGTH,
      js "issuer: " ++ sanitizeIdentityField auth.issuer MAX_ISSUER_LENGTH,
      js "aitJti: " ++ sanitizeIdentityField auth.aitJti MAX_AIT_JTI_LENGTH]

/-- `{ ...payload, message }`, where the payload has a message already. -/
def setMessage (fields : List (JsString × Value)) (message : JsString) : Value :=
  .obj (fields.map fun f => if f.1 = js "message" then (f.1, .str message) else f)

def injectIdentityBlockIntoPayload (payload : Value) (auth : Option ProxyAuthContext) : Value :=
  match auth, payload, getStr payload "message" with
  | some auth, .obj fields, some message =>
      setMessage fields (buildIdentityBlock auth ++ [0x0A, 0x0A] ++ message)
  | _, _, _ => payload

/-! ## The handler -/

/-- A request to the route; a header that is not set is `none`. -/
structure HookRequest where
  requestId : JsString
  contentType : Option JsString
  /-- The JSON of the body, where it is JSON. -/
  body : Option Value
  auth : Option ProxyAuthContext
  recipientAgentDid : Option JsString
  groupId : Option JsString
  conversationId : Option JsString
  deliveryReceiptUrl : Option JsString

inductive HookError
  | unsupportedMediaType
  | invalidJson
  | authContextMissing
  | recipientRequired
  | recipientInvalid
  | groupInvalid
  | groupMembershipUnavailable
  | internalAuthUnauthorized
  | pairStateUnavailable
  | forbidden
  | relayUnavailable
  deriving DecidableEq

def HookError.code : HookError → String
  | .unsupportedMediaType => "PROXY_HOOK_UNSUPPORTED_MEDIA_TYPE"
  | .invalidJson => "PROXY_HOOK_INVALID_JSON"
  | .authContextMissing => "PROXY_HOOK_AUTH_CONTEXT_MISSING"
  | .recipientRequired => "PROXY_HOOK_RECIPIENT_REQUIRED"
  | .recipientInvalid => "PROXY_HOOK_RECIPIENT_INVALID"
  | .groupInvalid => "PROXY_HOOK_GROUP_INVALID"
  | .groupMembershipUnavailable => "PROXY_GROUP_MEMBERSHIP_UNAVAILABLE"
  | .internalAuthUnauthorized => "PROXY_INTERNAL_AUTH_UNAUTHORIZED"
  | .pairStateUnavailable => "PROXY_PAIR_STATE_UNAVAILABLE"
  | .forbidden => "PROXY_AUTH_FORBIDDEN"
  | .relayUnavailable => "PROXY_RELAY_UNAVAILABLE"

def HookError.message : HookError → String
  | .unsupportedMediaType => "Content-Type must be application/json"
  | .invalidJson => "Request body must be valid JSON"
  | .authContextMissing => "Verified auth context is required"
  | .recipientRequired => "X-Claw-Recipient-Agent-Did header is required"
  | .recipientInvalid => "X-Claw-Recipient-Agent-Did must be a valid agent DID"
  | .groupInvalid => "X-Claw-Group-Id must be a valid group ID"
  | .groupMembershipUnavailable => "Group membership verification is unavailable"
  | .internalAuthUnauthorized => "Proxy internal service authorization failed"
  | .pairStateUnavailable => "Pairing state is unavailable"
  | .forbidden => "Verified caller is not trusted for recipient"
  | .relayUnavailable => "Relay session namespace is unavailable"

/-- What the handler is created with, and the stores that it asks. -/
structure HookOptions where
  injectIdentityIntoMessage : Bool
  /-- By group, sender and recipient. -/
  groupTrustAuthorizer : Option (JsString → JsString → JsString → Except HookError Unit)
  /-- `isPairAllowed` of the trust store; `none` where it throws. -/
  isPairAllowed : JsString → JsString → Option Bool
  hasSessionNamespace : Bool

/-- `toLowerCase` on the units of ASCII. -/
def lowerUnit (u : UInt16) : UInt16 :=
  if 0x41 ≤ u.toNat && u.toNat ≤ 0x5A then u + 0x20 else u

def isJsonContentType (header : Option JsString) : Bool :=
  match header with
  | none => false
  | some value => (trim ((value.splitOn 0x3B).headD [])).map lowerUnit = js "application/json"

def parseOptionalHeaderValue (header : Option JsString) : Option JsString :=
  (header.filter isNonEmptyString).map trim

def parseRecipientAgentDid (header : Option JsString) : Except HookError JsString :=
  match parseOptionalHeaderValue header with
  | none => .error .recipientRequired
  | some recipientDid => if isAgentDid recipientDid then .ok recipientDid else .error .recipientInvalid

def parseOptionalGroupId (header : Option JsString) : Except HookError (Option JsString) :=
  match parseOptionalHeaderValue header with
  | none => .ok none
  | some groupId =>
      match parseGroupId groupId with
      | none => .error .groupInvalid
      | some parsed => .ok (some parsed)

def assertTrustedPair (options : HookOptions) (initiator responder : JsString) :
    Except HookError Unit :=
  match options.isPairAllowed initiator responder with
  | none => .error .pairStateUnavailable
  | some false => .error .forbidden
  | some true => .ok ()

def assertTrusted (options : HookOptions) (groupId : Option JsString) (sender recipient : JsString) :
    Except HookError Unit :=
  match groupId, options.groupTrustAuthorizer with
  | none, _ => assertTrustedPair options sender recipient
  | some _, none => .error .groupMembershipUnavailable
  | some groupId, some authorize => authorize groupId sender recipient

/-- `createAgentHookHandler`, up to `deliverToRelaySession`. -/
def createAgentHookHandler (options : HookOptions) (request : HookRequest) :
    Except HookError RelayDeliveryInput := do
  check (isJsonContentType request.contentType) .unsupportedMediaType
  let body ← request.body.elim (.error .invalidJson) .ok
  let payload := if options.injectIdentityIntoMessage
    then injectIdentityBlockIntoPayload body request.auth else body
  let auth ← request.auth.elim (.error .authContextMissing) .ok
  let recipientAgentDid ← parseRecipientAgentDid request.recipientAgentDid
  let groupId ← parseOptionalGroupId request.groupId
  assertTrusted options groupId auth.agentDid recipientAgentDid
  check options.hasSessionNamespace .relayUnavailable
  return { requestId := request.requestId, senderAgentDid := auth.agentDid, recipientAgentDid,
           payload := some payload, deliverySource := none, groupId,
           conversationId := parseOptionalHeaderValue request.conversationId,
           replyTo := parseOptionalHeaderValue request.deliveryReceiptUrl }

/-- **The inputs that the route passes on** have a payload and no source. -/
theorem createAgentHookHandler_spec {options : HookOptions} {request : HookRequest}
    {input : RelayDeliveryInput} (h : createAgentHookHandler options request = .ok input) :
    input.deliverySource = none ∧ input.payload.isSome = true := by
  simp only [createAgentHookHandler, bind_eq_ok] at h
  obtain ⟨_, _, body, _, auth, _, recipient, _, groupId, _, _, _, _, _, hinput⟩ := h
  cases hinput
  exact ⟨rfl, rfl⟩

end Clawdentity.HookRoute
