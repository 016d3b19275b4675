import Clawdentity.Lib.Interleave
import Clawdentity.Proxy.Authorization
import Clawdentity.Proxy.NonceReplay
import Clawdentity.Registry.CrlRoute
import Clawdentity.Sdk.AitJwt
import Clawdentity.Wire.IssuerAgreement

/-!
# The authentication of requests to the proxy

The middleware checks a request in stages: the token against the signing keys of the registry, the
signature of the request, its nonce, the two revocation lists, whether the agent is known, and on
three paths the access token with the registry. Between the stages it awaits answers, so that the
requests interleave. They share the cache of the signing keys, which the fetch of the revocation
list also fills.

What the middleware does to the services around it is kept in a log, request by request.

## Main definitions

* `HttpRequest`, `Deployment` — a request, and what the middleware is created with.
* `getActiveRegistryKeys`, `verifyAitClaims`, `verifyProof` — the first stages.
* `Effect`, `Shared`, `Call` — the log, the shared state, and a request between its stages.
* `middleware` — the code, cut where it awaits an answer.
-/

namespace Clawdentity.AuthMiddleware

open Js Lib Lib.Interleave Protocol Common AitJwt NonceReplay
open CrlRoute (RegistrySigningKey)
open Wire.IssuerAgreement (resolveExpectedIssuer)

/-! ## Errors -/

structure AppError where
  code : String
  status : ℕ
  message : String
  deriving DecidableEq

def unauthorizedError (code message : String) : AppError := ⟨code, 401, message⟩

def dependencyUnavailableError (message : String) : AppError :=
  ⟨"PROXY_AUTH_DEPENDENCY_UNAVAILABLE", 503, message⟩

def mapProofVerificationError : HttpSignatureError → AppError
  | .invalidTimestamp =>
    unauthorizedError "PROXY_AUTH_INVALID_TIMESTAMP"
      "X-Claw-Timestamp must be a unix seconds integer"
  | .timestampSkew =>
    unauthorizedError "PROXY_AUTH_TIMESTAMP_SKEW"
      "X-Claw-Timestamp is outside the allowed skew window"
  | .replayDetected => unauthorizedError "PROXY_AUTH_REPLAY" "Replay detected"
  | .nonceCheckFailed => unauthorizedError "PROXY_AUTH_INVALID_NONCE" "Nonce validation failed"
  | .invalidInput field =>
    if field = "X-Claw-Timestamp" then
      unauthorizedError "PROXY_AUTH_INVALID_TIMESTAMP" "X-Claw-Timestamp header is required"
    else if field = "X-Claw-Nonce" then
      unauthorizedError "PROXY_AUTH_INVALID_NONCE" "Nonce validation failed"
    else unauthorizedError "PROXY_AUTH_INVALID_PROOF" "PoP verification failed"
  | .missingPublic | .bodyHashMismatch | .invalidProof =>
    unauthorizedError "PROXY_AUTH_INVALID_PROOF" "PoP verification failed"

/-! ## Headers -/

/-- The group of `/^Claw\s+(\S+)$/`. -/
def matchClaw (s : JsString) : Option JsString :=
  if (js "Claw").isPrefixOf s then
    let rest := s.drop 4
    let token := rest.dropWhile isWhiteSpace
    if token.length < rest.length ∧ !token.isEmpty ∧ token.all (fun u => !isWhiteSpace u) then
      some token
    else none
  else none

def parseClawAuthorizationHeader (authorization : Option JsString) : Except AppError JsString :=
  match authorization.filter isNonEmptyString with
  | none =>
    .error (unauthorizedError "PROXY_AUTH_MISSING_TOKEN" "Authorization header is required")
  | some authorization =>
    match (matchClaw (trim authorization)).filter isNonEmptyString with
    | none =>
      .error (unauthorizedError "PROXY_AUTH_INVALID_SCHEME"
        "Authorization must be in the format 'Claw <ait>'")
    | some token => .ok (trim token)

def parseAgentAccessHeader (value : Option JsString) : Except AppError JsString :=
  match value.filter isNonEmptyString with
  | none =>
    .error (unauthorizedError "PROXY_AGENT_ACCESS_REQUIRED"
      "X-Claw-Agent-Access header is required")
  | some value => .ok (trim value)

/-! ## Requests -/

structure HttpRequest where
  path : String
  method : JsString
  /-- `toPathWithQuery` of the URL. -/
  pathWithQuery : JsString
  body : List UInt8
  authorization : Option JsString
  agentAccess : Option JsString
  timestamp : Option JsString
  nonce : Option JsString
  bodySha256 : Option JsString
  proof : Option JsString
  /-- What the origin of the request is resolved from. -/
  origin : Request

/-- What the middleware is created with, and the functions of others that it calls. -/
structure Deployment (α : Type) where
  toLowerCase : JsString → JsString
  api : UrlApi α
  jose : Jose
  crypto : Crypto
  /-- A token with its header and claims; `none` where it cannot be decoded. -/
  readToken : JsString → Option AitToken
  registryUrl : JsString
  maxTimestampSkewSeconds : ℕ
  registryKeysCacheTtlMs : ℕ

def DEFAULT_REGISTRY_KEYS_CACHE_TTL_MS : ℕ := 60 * 60 * 1000
def DEFAULT_MAX_TIMESTAMP_SKEW_SECONDS : ℕ := 300

structure AuthContext where
  agentDid : JsString
  ownerDid : JsString
  aitJti : JsString
  issuer : JsString
  cnfPublicKey : JsString
  deriving DecidableEq

def authContext (claims : AitClaims) : AuthContext where
  agentDid := claims.sub
  ownerDid := claims.ownerDid
  aitJti := claims.jti
  issuer := claims.iss
  cnfPublicKey := claims.cnf.jwk.x

/-- The paths on which the access token is validated. -/
def requiresAgentAccess (path : String) : Bool :=
  path = Authorization.HOOKS_MESSAGE_PATH || path = Authorization.RELAY_CONNECT_PATH ||
    path = Authorization.RELAY_DELIVERY_RECEIPTS_PATH

/-! ## State -/

structure RegistryKeysCache where
  fetchedAtMs : ℕ
  keys : List RegistryAitVerificationKey
  deriving DecidableEq

/-- What the middleware asks of the services around it for a request, with the answer: `none` where
the call throws. -/
inductive Effect
  /-- The signing keys are fetched, for the second time if it is forced. -/
  | fetchKeys (forceRefresh : Bool)
  | tryAcceptNonce (agentDid nonce : JsString) (ttlMs nowMs : ℕ) (accepted : Option Bool)
  | isAgentRevoked (agentDid : JsString) (answer : Option Bool)
  | isRevoked (jti : JsString) (answer : Except (Option AppError) Bool)
  | isAgentKnown (agentDid : JsString) (answer : Option Bool)
  | validateAgentAccess (agentDid aitJti accessToken : JsString) (status : Option ℕ)
  /-- The request goes on to its handler. -/
  | next (auth : Option AuthContext)
  deriving DecidableEq

structure Shared where
  /-- The clock. -/
  now : ℕ
  registryKeysCache : Option RegistryKeysCache
  /-- Everything that was ever put into the cache. -/
  fetched : List RegistryKeysCache
  /-- The requests by their numbers, with the times at which they came. -/
  arrivals : List (HttpRequest × ℕ)
  /-- What was done for the requests, in order. -/
  log : List (ℕ × Effect)

/-- What a request awaits. -/
inductive Phase
  | registryKeys (token : JsString) (forceRefresh : Bool)
  | nonce (claims : AitClaims) (nonce : JsString) (nowMs : ℕ)
  | trustState (claims : AitClaims)
  | crl (claims : AitClaims)
  | knownAgent (claims : AitClaims)
  | agentAuth (claims : AitClaims) (accessToken : JsString)
  | answered (result : Except AppError Unit)

/-- A request with its number. Only requests have one. -/
structure Call where
  number : Option ℕ
  phase : Phase

/-- What a stage is answered. -/
inductive Answer
  /-- The keys of the registry, or the message of the error. -/
  | registryKeys (response : Except String (List RegistrySigningKey))
  | nonce (accepted : Option Bool)
  | trustState (isRevoked : Option Bool)
  | crl (isRevoked : Except (Option AppError) Bool)
  | knownAgent (isKnown : Option Bool)
  | agentAuth (status : Option ℕ)

inductive Input
  | request (request : HttpRequest)
  /-- The fetch of the revocation list gets signing keys. -/
  | crlFetchesKeys (response : Except String (List RegistrySigningKey))
  /-- Time passes. -/
  | tick (now : ℕ)

/-! ## The stages -/

section
variable {α : Type} (d : Deployment α)

def toVerificationKeys (keys : List RegistrySigningKey) : List RegistryAitVerificationKey :=
  (keys.filter RegistrySigningKey.active).map fun key => ⟨key.kid, ⟨key.x⟩⟩

/-- `getActiveRegistryKeys` up to the fetch: the cache, while it is fresh. -/
def cachedKeys (s : Shared) : Option (List RegistryAitVerificationKey) :=
  (s.registryKeysCache.filter fun cache =>
    decide (s.now ≤ cache.fetchedAtMs + d.registryKeysCacheTtlMs)).map RegistryKeysCache.keys

/-- `getActiveRegistryKeys` from the answer to the fetch. -/
def storeKeys (s : Shared) (response : Except String (List RegistrySigningKey)) :
    Except AppError (Shared × List RegistryAitVerificationKey) :=
  match response with
  | .error message => .error (dependencyUnavailableError message)
  | .ok keys =>
    let verificationKeys := toVerificationKeys keys
    if verificationKeys.isEmpty then
      .error (dependencyUnavailableError "Registry signing keys are unavailable")
    else
      let cache : RegistryKeysCache := ⟨s.now, verificationKeys⟩
      .ok ({ s with registryKeysCache := some cache, fetched := s.fetched ++ [cache] },
        verificationKeys)

def Shared.record (s : Shared) (number : ℕ) (effect : Effect) : Shared :=
  { s with log := s.log ++ [(number, effect)] }

/-- The middleware answers the request with an error. -/
def reject (number : ℕ) (e : AppError) : Call := ⟨some number, .answered (.error e)⟩

def invalidAit (message : String) : AppError := unauthorizedError "PROXY_AUTH_INVALID_AIT" message

/-- The token, the key and the signature headers of a request. -/
def signedRequest (request : HttpRequest) (claims : AitClaims) (publicKey : List UInt8) :
    SignedRequest where
  agentDid := claims.sub
  publicKey
  method := request.method
  pathWithQuery := request.pathWithQuery
  body := request.body
  timestamp := request.timestamp
  nonce := request.nonce
  bodySha256 := request.bodySha256
  proof := request.proof

/-- `verifyWithKeys`. -/
def verifyToken (request : HttpRequest) (token : JsString)
    (keys : List RegistryAitVerificationKey) (nowMs : ℕ) : Except AitJwtError AitClaims :=
  match d.readToken token with
  | none => .error .invalidToken
  | some ait =>
    verifyAIT d.toLowerCase d.jose ait keys
      (resolveExpectedIssuer d.toLowerCase d.api d.registryUrl request.origin)
      ((nowMs / 1000 : ℕ) : ℤ)

/-- `verifyHttpRequestWithReplayProtection` up to the nonce check: the nonce of a request that is
signed with the key of its token. -/
def verifyProof (request : HttpRequest) (claims : AitClaims) (nowMs : ℕ) :
    Except AppError JsString :=
  match decodeBase64url claims.cnf.jwk.x with
  | none => .error (invalidAit "AIT public key is invalid")
  | some publicKey =>
    let signed := signedRequest request claims publicKey
    (do
      verifyHttpRequest d.crypto d.maxTimestampSkewSeconds nowMs signed
      let headers ← normalizeSignatureHeaders signed
      let _ ← ensureString (some claims.sub) "agentDid"
      pure headers.nonce : Except HttpSignatureError JsString).mapError mapProofVerificationError

/-- The token is verified with these keys, and then the proof. -/
def verifyAitClaims (s : Shared) (number : ℕ) (request : HttpRequest) (token : JsString)
    (keys : List RegistryAitVerificationKey) (forceRefresh : Bool) : Shared × Call :=
  match verifyToken d request token keys s.now with
  | .ok claims =>
    match verifyProof d request claims s.now with
    | .error e => (s, reject number e)
    | .ok nonce => (s, ⟨some number, .nonce claims nonce s.now⟩)
  | .error (.unknownKid _) =>
    if forceRefresh then (s, reject number (invalidAit "AIT verification failed"))
    else (s.record number (.fetchKeys true), ⟨some number, .registryKeys token true⟩)
  | .error _ => (s, reject number (invalidAit "AIT verification failed"))

/-- A request comes. -/
def startRequest (s : Shared) (request : HttpRequest) : Shared × Call :=
  let number := s.arrivals.length
  let s := { s with arrivals := s.arrivals ++ [(request, s.now)] }
  if request.path = "/health" then
    (s.record number (.next none), ⟨some number, .answered (.ok ())⟩)
  else
    match parseClawAuthorizationHeader request.authorization with
    | .error e => (s, reject number e)
    | .ok token =>
      match cachedKeys d s with
      | some keys => verifyAitClaims d s number request token keys false
      | none => (s.record number (.fetchKeys false), ⟨some number, .registryKeys token false⟩)

/-- The checks are done. -/
def passOn (s : Shared) (number : ℕ) (claims : AitClaims) : Shared × Call :=
  (s.record number (.next (some (authContext claims))), ⟨some number, .answered (.ok ())⟩)

/-- The access token is sent to the registry, on the paths that require it. -/
def checkAgentAccess (s : Shared) (number : ℕ) (request : HttpRequest) (claims : AitClaims) :
    Shared × Call :=
  if requiresAgentAccess request.path then
    match parseAgentAccessHeader request.agentAccess with
    | .error e => (s, reject number e)
    | .ok accessToken => (s, ⟨some number, .agentAuth claims accessToken⟩)
  else passOn s number claims

def trustStateUnavailable : AppError :=
  dependencyUnavailableError "Proxy trust state is unavailable"

def revoked (message : String) : AppError := unauthorizedError "PROXY_AUTH_REVOKED" message

/-- The keys have come. -/
def afterKeys (s : Shared) (number : ℕ) (request : HttpRequest) (token : JsString)
    (forceRefresh : Bool) (response : Except String (List RegistrySigningKey)) : Shared × Call :=
  match storeKeys s response with
  | .error e => (s, reject number e)
  | .ok (s, keys) => verifyAitClaims d s number request token keys forceRefresh

def afterNonce (d : Deployment α) (s : Shared) (number : ℕ) (claims : AitClaims) (nonce : JsString)
    (nowMs : ℕ) (accepted : Option Bool) : Shared × Call :=
  let s := s.record number
    (.tryAcceptNonce claims.sub nonce (d.maxTimestampSkewSeconds * 1000) nowMs accepted)
  match accepted with
  | none => (s, reject number (mapProofVerificationError .nonceCheckFailed))
  | some false => (s, reject number (mapProofVerificationError .replayDetected))
  | some true => (s, ⟨some number, .trustState claims⟩)

def afterTrustState (s : Shared) (number : ℕ) (claims : AitClaims) (isRevoked : Option Bool) :
    Shared × Call :=
  let s := s.record number (.isAgentRevoked claims.sub isRevoked)
  match isRevoked with
  | none => (s, reject number trustStateUnavailable)
  | some true => (s, reject number (revoked "Agent has been revoked"))
  | some false => (s, ⟨some number, .crl claims⟩)

def afterCrl (s : Shared) (number : ℕ) (request : HttpRequest) (claims : AitClaims)
    (isRevoked : Except (Option AppError) Bool) : Shared × Call :=
  let s := s.record number (.isRevoked claims.jti isRevoked)
  match isRevoked with
  | .error (some e) =>
    if e.code = "PROXY_AUTH_DEPENDENCY_UNAVAILABLE" then (s, reject number e)
    else (s, reject number (dependencyUnavailableError "Registry CRL is unavailable"))
  | .error none => (s, reject number (dependencyUnavailableError "Registry CRL is unavailable"))
  | .ok true => (s, reject number (revoked "AIT has been revoked"))
  | .ok false =>
    if Authorization.shouldSkipKnownAgentCheck request.path then
      checkAgentAccess s number request claims
    else (s, ⟨some number, .knownAgent claims⟩)

def afterKnownAgent (s : Shared) (number : ℕ) (request : HttpRequest) (claims : AitClaims)
    (isKnown : Option Bool) : Shared × Call :=
  let s := s.record number (.isAgentKnown claims.sub isKnown)
  match isKnown with
  | none => (s, reject number trustStateUnavailable)
  | some false => (s, reject number ⟨"PROXY_AUTH_FORBIDDEN", 403, "Verified caller is not trusted"⟩)
  | some true => checkAgentAccess s number request claims

def agentAuthUnavailable : AppError :=
  dependencyUnavailableError "Registry agent auth validation is unavailable"

def afterAgentAuth (s : Shared) (number : ℕ) (claims : AitClaims) (accessToken : JsString)
    (status : Option ℕ) : Shared × Call :=
  let s := s.record number (.validateAgentAccess claims.sub claims.jti accessToken status)
  match status with
  | none => (s, reject number agentAuthUnavailable)
  | some status =>
    if status = 401 then
      (s, reject number (unauthorizedError "PROXY_AGENT_ACCESS_INVALID"
        "Agent access token is invalid or expired"))
    else if status = 204 then passOn s number claims
    else (s, reject number agentAuthUnavailable)

/-! ## The code -/

def start (s : Shared) : Input → Option (Shared × Call)
  | .request request => some (startRequest d s request)
  | .crlFetchesKeys response =>
    match storeKeys s response with
    | .error e => some (s, ⟨none, .answered (.error e)⟩)
    | .ok (s, _) => some (s, ⟨none, .answered (.ok ())⟩)
  | .tick now =>
    if s.now ≤ now then some ({ s with now }, ⟨none, .answered (.ok ())⟩) else none

def resume (s : Shared) (call : Call) (answer : Answer) : Option (Shared × Call) := do
  let number ← call.number
  let (request, _) ← s.arrivals[number]?
  match call.phase, answer with
  | .registryKeys token forceRefresh, .registryKeys response =>
    some (afterKeys d s number request token forceRefresh response)
  | .nonce claims nonce nowMs, .nonce accepted =>
    some (afterNonce d s number claims nonce nowMs accepted)
  | .trustState claims, .trustState isRevoked => some (afterTrustState s number claims isRevoked)
  | .crl claims, .crl isRevoked => some (afterCrl s number request claims isRevoked)
  | .knownAgent claims, .knownAgent isKnown =>
    some (afterKnownAgent s number request claims isKnown)
  | .agentAuth claims accessToken, .agentAuth status =>
    some (afterAgentAuth s number claims accessToken status)
  | _, _ => none

/-- The code of the middleware. -/
def middleware : Program Shared Call Input Answer where
  start := start d
  resume := resume d

end

/-- The middleware as it is created. -/
def fresh (now : ℕ) : Pool Shared Call := ⟨⟨now, none, [], [], []⟩, []⟩

end Clawdentity.AuthMiddleware
