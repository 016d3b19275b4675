import Clawdentity.Lib.Interleave
import Clawdentity.Lib.Keyring
import Clawdentity.Lib.Rows
import Clawdentity.Registry.ApiKeyToken
import Clawdentity.Registry.StarterPass
import Clawdentity.Wire.IssuerAgreement

/-!
# The credentials of the registry

The routes that make, use and take away credentials: the bootstrap of the first admin, the API keys
of a human, the internal services of the admins, and the two middlewares that authenticate. They run
under any interleaving, cut at each of their statements; any of them may fail, in which case it
changes nothing.

The hash is a parameter, and the generated values come with the move. Next to the tables stand two
logs, of what has happened to the API keys and to the internal services.

## Main definitions

* `Database`, `Shared` — the tables, and the logs.
* `startCall`, `startServiceAuth` — the middlewares, as the first statements of a request.
* `Call` — a request before its next statement.
* `program` — the code of the routes.
-/

namespace Clawdentity.Credentials

open Js Lib Lib.Interleave Protocol
open AgentAuth (AppError)
open ApiKeyToken (ApiKeyQueryRow HumanRole PAT_TOKEN_MARKER constantTimeEqual
  deriveApiKeyLookupPrefix resolvePatLookupRow assertBootstrapSecretAuthorized)
open StarterPass (nameError parseOptionalTrimmedString)
open Wire.IssuerAgreement (Environment)

/-! ## Configuration and tables -/

structure Config where
  environment : Environment
  bootstrapSecret : Option JsString
  bootstrapInternalServiceId : JsString
  bootstrapInternalServiceSecret : JsString

structure HumanRow where
  id : JsString
  did : JsString
  displayName : JsString
  role : HumanRole
  active : Bool
  onboardingSource : Option JsString
  agentLimit : Option ℕ
  createdAt : ℕ
  updatedAt : ℕ

structure ApiKeyRow where
  id : JsString
  humanId : JsString
  keyHash : JsString
  keyPrefix : JsString
  name : JsString
  active : Bool
  createdAt : ℕ
  lastUsedAt : Option ℕ

structure InternalServiceRow where
  id : JsString
  name : JsString
  secretHash : JsString
  secretPrefix : JsString
  /-- The list whose JSON text is in `scopes_json`. -/
  scopes : List JsString
  active : Bool
  createdBy : JsString
  rotatedAt : Option ℕ
  lastUsedAt : Option ℕ
  createdAt : ℕ
  updatedAt : ℕ

structure Database where
  humans : List HumanRow
  apiKeys : List ApiKeyRow
  internalServices : List InternalServiceRow

def Database.human? (db : Database) (id : JsString) : Option HumanRow :=
  db.humans.find? fun human => human.id = id

def Database.apiKey? (db : Database) (id : JsString) : Option ApiKeyRow :=
  db.apiKeys.find? fun key => key.id = id

def Database.service? (db : Database) (id : JsString) : Option InternalServiceRow :=
  db.internalServices.find? fun service => service.id = id

/-- `api_keys` joined with `humans`. -/
def Database.apiKeyRows (db : Database) : List ApiKeyQueryRow :=
  db.apiKeys.filterMap fun key => (db.human? key.humanId).map fun human =>
    { apiKeyId := key.id, keyPrefix := key.keyPrefix, keyHash := key.keyHash
      apiKeyActive := key.active, apiKeyName := key.name, humanId := human.id
      humanDid := human.did, humanDisplayName := human.displayName, humanRole := human.role
      humanActive := human.active, humanOnboardingSource := human.onboardingSource
      humanAgentLimit := human.agentLimit }

structure AuthenticatedHuman where
  id : JsString
  did : JsString
  displayName : JsString
  role : HumanRole
  onboardingSource : Option JsString
  agentLimit : Option ℕ
  apiKeyId : JsString
  apiKeyName : JsString

def toAuthenticatedHuman (row : ApiKeyQueryRow) : AuthenticatedHuman where
  id := row.humanId
  did := row.humanDid
  displayName := row.humanDisplayName
  role := row.humanRole
  onboardingSource := row.humanOnboardingSource
  agentLimit := row.humanAgentLimit
  apiKeyId := row.apiKeyId
  apiKeyName := row.apiKeyName

structure AuthenticatedService where
  id : JsString
  name : JsString
  scopes : List JsString
  deriving DecidableEq

/-! ## The logs -/

/-- What has happened to an internal service. Its secret is known by its hash. -/
inductive ServiceEvent
  | made (id secretHash : JsString) (scopes : List JsString) (creator : Option AuthenticatedHuman)
  | rotated (id secretHash : JsString) (scopes : List JsString) (agent : AuthenticatedHuman)
  | removed (id : JsString)
  /-- A request is accepted from the service. -/
  | accepted (service : AuthenticatedService) (secretHash : JsString) (required : List JsString)

structure Shared where
  db : Database
  keyEvents : List (Keyring.Event JsString JsString)
  serviceEvents : List ServiceEvent

def Shared.logKey (s : Shared) (e : Keyring.Event JsString JsString) : Shared :=
  { s with keyEvents := s.keyEvents ++ [e] }

def Shared.logService (s : Shared) (e : ServiceEvent) : Shared :=
  { s with serviceEvents := s.serviceEvents ++ [e] }

/-! ## Texts -/

/-- `authorization.trim().split(/\s+/, 2)`: the text up to the first blanks, and the next one. -/
def schemeAndToken (authorization : JsString) : JsString × JsString :=
  let text := trim authorization
  (text.takeWhile fun u => !isWhiteSpace u,
    ((text.dropWhile fun u => !isWhiteSpace u).dropWhile isWhiteSpace).takeWhile
      fun u => !isWhiteSpace u)

def apiKeyMissing : AppError := ⟨401, "API_KEY_MISSING", "Authorization header is required"⟩
def apiKeyFormat (message : String) : AppError := ⟨401, "API_KEY_INVALID", message⟩

def parseBearerPat (authorization : Option JsString) : Except AppError JsString :=
  match authorization.filter fun text => !text.isEmpty with
  | none => .error apiKeyMissing
  | some authorization =>
    let (scheme, token) := schemeAndToken authorization
    if scheme ≠ js "Bearer" || token.isEmpty then
      .error (apiKeyFormat "Authorization must be in the format 'Bearer <pat>'")
    else if !PAT_TOKEN_MARKER.isPrefixOf token || token.length ≤ PAT_TOKEN_MARKER.length then
      .error (apiKeyFormat "Authorization must contain a PAT token")
    else .ok token

def INTERNAL_SERVICE_SECRET_MARKER : JsString := js "clw_srv_"
def INTERNAL_SERVICE_SECRET_LOOKUP_ENTROPY_LENGTH : ℕ := 8

def serviceUnauthorized (message : String) : AppError :=
  ⟨401, "INTERNAL_SERVICE_UNAUTHORIZED", message⟩

def parseRequiredHeader (value : Option JsString) (label : String) : Except AppError JsString :=
  let normalized := (value.getD []) |> trim
  if normalized.isEmpty then .error (serviceUnauthorized (label ++ " header is required"))
  else .ok normalized

def parseServiceSecret (secret : JsString) : Except AppError JsString :=
  if !INTERNAL_SERVICE_SECRET_MARKER.isPrefixOf secret ||
      secret.length ≤ INTERNAL_SERVICE_SECRET_MARKER.length then
    .error (serviceUnauthorized "Service secret is invalid")
  else .ok secret

/-- The prefix of a secret that was parsed; it has a character behind the marker. -/
def deriveInternalServiceSecretPrefix (secret : JsString) : JsString :=
  INTERNAL_SERVICE_SECRET_MARKER ++ (secret.drop INTERNAL_SERVICE_SECRET_MARKER.length).take
    INTERNAL_SERVICE_SECRET_LOOKUP_ENTROPY_LENGTH

/-- `[...new Set(scopes.map(trim).filter(Boolean))]`. -/
def normalizeInternalServiceScopes (scopes : List JsString) : List JsString :=
  ((scopes.map trim).filter fun scope => !scope.isEmpty).eraseDups

def serviceInvalid : AppError :=
  ⟨400, "INTERNAL_SERVICE_INVALID", "Internal service payload is invalid"⟩

def parseInternalServiceScopesPayload (value : Option Value) : Except AppError (List JsString) :=
  match value with
  | some (.arr values) =>
    let scopes := normalizeInternalServiceScopes (values.filterMap Json.str?)
    if scopes.isEmpty then .error serviceInvalid else .ok scopes
  | _ => .error serviceInvalid

/-- `/[a-z0-9]/i`. -/
def isNameStart (u : UInt16) : Bool :=
  let n := u.toNat
  isDigit u || (0x61 ≤ n && n ≤ 0x7A) || (0x41 ≤ n && n ≤ 0x5A)

/-- `/^[a-z0-9][a-z0-9-_]{1,63}$/i`. -/
def isServiceName (name : JsString) : Bool :=
  name.head?.any isNameStart && 2 ≤ name.length && name.length ≤ 64 &&
    name.tail.all fun u => isNameStart u || u == 0x2D || u == 0x5F

structure ServicePayload where
  name : JsString
  scopes : List JsString

def parseInternalServiceCreatePayload (payload : Value) : Except AppError ServicePayload :=
  match payload with
  | .obj fields =>
    let body : Value := .obj fields
    let name := ((body.get? (js "name")).bind Json.str?).elim [] trim
    if isServiceName name then
      (parseInternalServiceScopesPayload (body.get? (js "scopes"))).map fun scopes =>
        ⟨name, scopes⟩
    else .error serviceInvalid
  | _ => .error serviceInvalid

/-- The scopes of the payload, where it has them. -/
def parseInternalServiceRotatePayload (payload : Value) :
    Except AppError (Option (List JsString)) :=
  match payload with
  | .null => .ok none
  | .obj fields =>
    let body : Value := .obj fields
    match body.get? (js "scopes") with
    | none => .ok none
    | some scopes => (parseInternalServiceScopesPayload (some scopes)).map some
  | _ => .error serviceInvalid

/-- The names of a payload, or the errors by field. -/
def parseNames (payload : Value) (defaults : List (String × JsString)) :
    Except (List (String × String)) (List JsString) :=
  match payload with
  | .obj fields =>
    let body : Value := .obj fields
    let fieldErrors := defaults.filterMap fun f =>
      (nameError (body.get? (js f.1)) f.1 f.2).map fun error => (f.1, error)
    if fieldErrors.isEmpty then
      .ok (defaults.map fun f => (parseOptionalTrimmedString (body.get? (js f.1))).getD f.2)
    else .error fieldErrors
  | _ => .error [("body", "body must be a JSON object")]

def parseAdminBootstrapPayload (payload : Value) : Except (List (String × String)) (List JsString) :=
  parseNames payload [("displayName", js "Admin"), ("apiKeyName", js "bootstrap-admin")]

def parseApiKeyCreatePayload (payload : Value) : Except (List (String × String)) (List JsString) :=
  parseNames payload [("name", js "api-key")]

/-! ## Requests -/

/-- The values that a request generates. -/
structure Fresh where
  /-- The encoded random bytes of a token or a secret. -/
  random : JsString
  ulid : JsString
  didAuthority : JsString

/-- What the environment decides for a move: the clock, whether the statement fails, whether the
database refuses to begin a transaction, and the generated values. -/
structure Env where
  nowMs : ℕ
  fails : Bool
  unsupported : Bool
  fresh : Fresh

/-- The routes behind the authentication of a human; a body is `none` where it is no JSON text. -/
inductive Route
  | me
  | createApiKey (body : Option Value)
  | revokeApiKey (id : JsString)
  | createService (body : Option Value)
  | rotateService (id : JsString) (body : Option Value)

inductive Input
  | bootstrap (secretHeader : Option JsString) (body : Option Value)
  | human (authorization : Option JsString) (route : Route)
  | service (idHeader secretHeader : Option JsString) (requiredScopes : List JsString)

/-- The values of a bootstrap at its mutation. -/
structure Bootstrap where
  displayName : JsString
  apiKeyName : JsString
  humanDid : JsString
  apiKeyId : JsString
  apiKeyToken : JsString
  apiKeyHash : JsString
  apiKeyPrefix : JsString
  createdAt : ℕ
  internalServiceId : JsString
  internalServiceSecretHash : JsString
  internalServiceSecretPrefix : JsString

def BOOTSTRAP_ADMIN_HUMAN_ID : JsString := js "00000000000000000000000000"
def BOOTSTRAP_INTERNAL_SERVICE_NAME : JsString := js "proxy-pairing"
def BOOTSTRAP_INTERNAL_SERVICE_SCOPES : List JsString := [js "identity.read", js "groups.read"]

def Bootstrap.human (b : Bootstrap) : HumanRow where
  id := BOOTSTRAP_ADMIN_HUMAN_ID
  did := b.humanDid
  displayName := b.displayName
  role := .admin
  active := true
  onboardingSource := some (js "admin_bootstrap")
  agentLimit := none
  createdAt := b.createdAt
  updatedAt := b.createdAt

def Bootstrap.apiKey (b : Bootstrap) : ApiKeyRow where
  id := b.apiKeyId
  humanId := BOOTSTRAP_ADMIN_HUMAN_ID
  keyHash := b.apiKeyHash
  keyPrefix := b.apiKeyPrefix
  name := b.apiKeyName
  active := true
  createdAt := b.createdAt
  lastUsedAt := none

def Bootstrap.service (b : Bootstrap) : InternalServiceRow where
  id := b.internalServiceId
  name := BOOTSTRAP_INTERNAL_SERVICE_NAME
  secretHash := b.internalServiceSecretHash
  secretPrefix := b.internalServiceSecretPrefix
  scopes := BOOTSTRAP_INTERNAL_SERVICE_SCOPES
  active := true
  createdBy := BOOTSTRAP_ADMIN_HUMAN_ID
  rotatedAt := none
  lastUsedAt := none
  createdAt := b.createdAt
  updatedAt := b.createdAt

/-- The statements of `applyBootstrapMutation`. -/
inductive BootstrapPhase
  | insertHuman
  | insertApiKey
  | insertInternalService

/-- The statements of `rollbackBootstrapMutation`. -/
inductive RollbackPhase
  | deleteInternalService
  | deleteApiKey
  | deleteHuman

structure Rotation where
  id : JsString
  name : JsString
  secretHash : JsString
  secretPrefix : JsString
  scopes : List JsString
  rotatedAt : ℕ

inductive Response
  | error (error : AppError) (fieldErrors : List (String × String))
  /-- A statement failed. -/
  | databaseFailed
  | me (human : AuthenticatedHuman)
  | keyCreated (row : ApiKeyRow) (token : JsString)
  /-- 204. -/
  | keyRevoked (id : JsString)
  | serviceCreated (row : InternalServiceRow) (secret : JsString)
  | serviceRotated (rotation : Rotation) (secret : JsString)
  /-- The request of the service goes on to its handler. -/
  | serviceAccepted (service : AuthenticatedService)
  | bootstrapped (bootstrap : Bootstrap)

/-- A request before its next statement. -/
inductive Call
  | findingApiKey (token : JsString) (route : Route)
  | touchingApiKey (human : AuthenticatedHuman) (route : Route)
  | insertingApiKey (human : AuthenticatedHuman) (row : ApiKeyRow) (token : JsString)
  | findingOwnKey (human : AuthenticatedHuman) (id : JsString)
  | revokingKey (human : AuthenticatedHuman) (id : JsString)
  | findingName (human : AuthenticatedHuman) (payload : ServicePayload)
  | insertingService (human : AuthenticatedHuman) (row : InternalServiceRow) (secret : JsString)
  | loadingService (human : AuthenticatedHuman) (id : JsString) (scopes : Option (List JsString))
  | rotatingService (human : AuthenticatedHuman) (rotation : Rotation) (secret : JsString)
  | checkingService (id secret : JsString) (requiredScopes : List JsString)
  | touchingService (service : AuthenticatedService)
  | findingAdmin (displayName apiKeyName : JsString)
  | beginning (bootstrap : Bootstrap)
  | bootstrapping (bootstrap : Bootstrap) (phase : BootstrapPhase)
  | rollingBack (bootstrap : Bootstrap) (phase : RollbackPhase)
  | answered (response : Response)

def failWith (error : AppError) : Call := .answered (.error error [])

/-- The error of a payload, which names its fields outside production. -/
def invalidPayload (environment : Environment) (code message : String)
    (fieldErrors : List (String × String)) : Call :=
  if environment = .production then
    .answered (.error ⟨400, code, "Request could not be processed"⟩ [])
  else .answered (.error ⟨400, code, message⟩ fieldErrors)

/-! ## Statements -/

/-- `insert(api_keys)`: an id is inserted once, for a human that is there. -/
def insertApiKey (s : Shared) (row : ApiKeyRow) (parent : Option JsString) : Option Shared :=
  if (s.db.apiKey? row.id).isNone ∧ (s.db.human? row.humanId).isSome then
    some ({ s with db := { s.db with apiKeys := s.db.apiKeys ++ [row] } }.logKey
      (.mint row.id row.humanId parent))
  else none

def deleteApiKey (s : Shared) (id : JsString) : Shared :=
  { s with db := { s.db with apiKeys := s.db.apiKeys.filter fun key => key.id ≠ id } }.logKey
    (.remove id)

/-- `insert(internal_services)`: id and name are inserted once. -/
def insertInternalService (s : Shared) (row : InternalServiceRow)
    (creator : Option AuthenticatedHuman) : Option Shared :=
  if (s.db.service? row.id).isNone ∧ (s.db.internalServices.all fun other => other.name ≠ row.name) ∧
      (s.db.human? row.createdBy).isSome then
    some ({ s with db := { s.db with internalServices := s.db.internalServices ++ [row] } }.logService
      (.made row.id row.secretHash row.scopes creator))
  else none

def deleteInternalService (s : Shared) (id : JsString) : Shared :=
  { s with db := { s.db with
      internalServices := s.db.internalServices.filter fun service => service.id ≠ id } }.logService
    (.removed id)

inductive HumanInsert
  | inserted (s : Shared)
  /-- No row is inserted. -/
  | conflict
  | violation

/-- `insert(humans).onConflictDoNothing({ target: humans.id })`. -/
def insertHuman (s : Shared) (row : HumanRow) : HumanInsert :=
  if (s.db.human? row.id).isSome then .conflict
  else if s.db.humans.any fun other => other.did = row.did then .violation
  else .inserted { s with db := { s.db with humans := s.db.humans ++ [row] } }

/-- A human to whom a row refers stays. -/
def deleteHuman (s : Shared) (id : JsString) : Shared :=
  if s.db.apiKeys.any (fun key => key.humanId = id) ||
      s.db.internalServices.any (fun service => service.createdBy = id) then s
  else { s with db := { s.db with humans := s.db.humans.filter fun human => human.id ≠ id } }

def touchApiKey (s : Shared) (id : JsString) (nowMs : ℕ) : Shared :=
  { s with db := { s.db with apiKeys := s.db.apiKeys.map fun key =>
      if key.id = id then { key with lastUsedAt := some nowMs } else key } }

/-- `update(api_keys).set({ status: "revoked" })`, for a key of the human. -/
def revokeApiKey (s : Shared) (human : AuthenticatedHuman) (id : JsString) : Shared :=
  let revoked : Shared := { s with db := { s.db with apiKeys := s.db.apiKeys.map fun key =>
    if key.id = id ∧ key.humanId = human.id then { key with active := false } else key } }
  if (s.db.apiKey? id).any fun key => key.humanId = human.id then
    revoked.logKey (.revoke id human.apiKeyId)
  else revoked

def touchService (s : Shared) (id : JsString) (nowMs : ℕ) : Shared :=
  { s with db := { s.db with internalServices := s.db.internalServices.map fun service =>
      if service.id = id then { service with lastUsedAt := some nowMs } else service } }

def rotateService (s : Shared) (human : AuthenticatedHuman) (r : Rotation) : Shared :=
  let rotated : Shared := { s with db := { s.db with
    internalServices := s.db.internalServices.map fun service =>
      if service.id = r.id then
        { service with
          secretHash := r.secretHash, secretPrefix := r.secretPrefix, scopes := r.scopes
          rotatedAt := some r.rotatedAt, updatedAt := r.rotatedAt }
      else service } }
  if (s.db.service? r.id).isSome then
    rotated.logService (.rotated r.id r.secretHash r.scopes human)
  else rotated

/-! ## API keys -/

section
variable (sha256Hex : JsString → JsString) (config : Config)

def generatedApiKey (env : Env) (human : AuthenticatedHuman) (name : JsString) : Call :=
  let token := PAT_TOKEN_MARKER ++ env.fresh.random
  .insertingApiKey human
    { id := env.fresh.ulid, humanId := human.id, keyHash := sha256Hex token
      keyPrefix := deriveApiKeyLookupPrefix token, name, active := true, createdAt := env.nowMs
      lastUsedAt := none }
    token

def createApiKey (env : Env) (human : AuthenticatedHuman) (body : Option Value) : Call :=
  match body with
  | none =>
    invalidPayload config.environment "API_KEY_CREATE_INVALID" "Request body must be valid JSON" []
  | some payload =>
    match parseApiKeyCreatePayload payload with
    | .error fieldErrors =>
      invalidPayload config.environment "API_KEY_CREATE_INVALID"
        "API key create payload is invalid" fieldErrors
    | .ok names => generatedApiKey sha256Hex env human (names.headD [])

def parseApiKeyRevokePath (environment : Environment) (id : JsString) : Except Call JsString :=
  let invalid (reason : String) : Call :=
    invalidPayload environment "API_KEY_REVOKE_INVALID_PATH" "API key revoke path is invalid"
      [("id", reason)]
  if (trim id).isEmpty then .error (invalid "id is required")
  else if !isUlid (trim id) then .error (invalid "id must be a valid ULID")
  else .ok (trim id)

def apiKeyNotFoundError : AppError := ⟨404, "API_KEY_NOT_FOUND", "API key not found"⟩

/-! ## Internal services -/

def requireAdmin (human : AuthenticatedHuman) (code : String) (next : Call) : Call :=
  match human.role with
  | .admin => next
  | .user => failWith ⟨403, code, "Admin role is required"⟩

def createService (human : AuthenticatedHuman) (body : Option Value) : Call :=
  requireAdmin human "INTERNAL_SERVICE_CREATE_FORBIDDEN" <|
    match body with
    | none => failWith serviceInvalid
    | some payload =>
      match parseInternalServiceCreatePayload payload with
      | .error e => failWith e
      | .ok parsed => .findingName human parsed

def generatedService (env : Env) (human : AuthenticatedHuman) (payload : ServicePayload) : Call :=
  let secret := INTERNAL_SERVICE_SECRET_MARKER ++ env.fresh.random
  .insertingService human
    { id := env.fresh.ulid, name := payload.name, secretHash := sha256Hex secret
      secretPrefix := deriveInternalServiceSecretPrefix secret, scopes := payload.scopes
      active := true, createdBy := human.id, rotatedAt := none, lastUsedAt := none
      createdAt := env.nowMs, updatedAt := env.nowMs }
    secret

def servicePathInvalid (environment : Environment) : Call :=
  invalidPayload environment "INTERNAL_SERVICE_INVALID_PATH" "Internal service path is invalid"
    [("id", "id must be a valid ULID")]

def startRotation (environment : Environment) (human : AuthenticatedHuman) (id : JsString)
    (body : Option Value) : Call :=
  requireAdmin human "INTERNAL_SERVICE_ROTATE_FORBIDDEN" <|
    if !isUlid (trim id) then servicePathInvalid environment
    else
      match body with
      | none => failWith serviceInvalid
      | some payload =>
        match parseInternalServiceRotatePayload payload with
        | .error e => failWith e
        | .ok scopes => .loadingService human (trim id) scopes

def serviceNotFound : AppError :=
  ⟨404, "INTERNAL_SERVICE_NOT_FOUND", "Internal service was not found"⟩
def serviceInvalidState : AppError :=
  ⟨409, "INTERNAL_SERVICE_INVALID_STATE", "Internal service cannot be rotated"⟩
def serviceAlreadyExists : AppError :=
  ⟨409, "INTERNAL_SERVICE_ALREADY_EXISTS", "Internal service already exists"⟩

/-- The code after the service was loaded. -/
def planRotation (env : Env) (human : AuthenticatedHuman) (service : InternalServiceRow)
    (payloadScopes : Option (List JsString)) : Call :=
  if !service.active then failWith serviceInvalidState
  else
    let scopes := payloadScopes.getD (service.scopes.filter isNonEmptyString)
    if scopes.isEmpty then failWith serviceInvalid
    else
      let secret := INTERNAL_SERVICE_SECRET_MARKER ++ env.fresh.random
      .rotatingService human
        { id := service.id, name := service.name, secretHash := sha256Hex secret
          secretPrefix := deriveInternalServiceSecretPrefix secret, scopes, rotatedAt := env.nowMs }
        secret

def startServiceAuth (idHeader secretHeader : Option JsString) (requiredScopes : List JsString) :
    Call :=
  let parsed : Except AppError Call := do
    let id ← parseRequiredHeader idHeader "x-claw-service-id"
    let secret ← parseRequiredHeader secretHeader "x-claw-service-secret"
    let secret ← parseServiceSecret secret
    pure (.checkingService id secret requiredScopes)
  match parsed with
  | .error e => failWith e
  | .ok call => call

/-- The row that the secret opens, and its scopes. -/
def checkService (db : Database) (id secret : JsString) (requiredScopes : List JsString) :
    Except AppError AuthenticatedService :=
  let found := (db.service? id).filter fun row =>
    decide (row.secretPrefix = deriveInternalServiceSecretPrefix secret) && row.active
  match found.filter fun row => constantTimeEqual (sha256Hex secret) row.secretHash with
  | none => .error (serviceUnauthorized "Service credentials are invalid")
  | some row =>
    let scopes := normalizeInternalServiceScopes row.scopes
    if requiredScopes.all fun scope => scope ∈ scopes then .ok ⟨row.id, row.name, scopes⟩
    else .error ⟨403, "INTERNAL_SERVICE_FORBIDDEN", "Internal service is missing required scope"⟩

/-! ## Bootstrap -/

def adminBootstrapAlreadyCompletedError : AppError :=
  ⟨409, "ADMIN_BOOTSTRAP_ALREADY_COMPLETED", "Admin bootstrap has already completed"⟩

def startBootstrap (secretHeader : Option JsString) (body : Option Value) : Call :=
  match config.bootstrapSecret.filter fun secret => !secret.isEmpty with
  | none => failWith ⟨503, "ADMIN_BOOTSTRAP_DISABLED", "Admin bootstrap is disabled"⟩
  | some expected =>
    match secretHeader.filter isNonEmptyString with
    | none => failWith ⟨401, "ADMIN_BOOTSTRAP_UNAUTHORIZED", "Bootstrap secret is required"⟩
    | some provided =>
      match assertBootstrapSecretAuthorized (trim provided) expected, body with
      | .error e, _ => failWith e
      | .ok (), none =>
        failWith ⟨400, "ADMIN_BOOTSTRAP_INVALID", "Request body must be valid JSON"⟩
      | .ok (), some payload =>
        match parseAdminBootstrapPayload payload with
        | .error fieldErrors =>
          invalidPayload config.environment "ADMIN_BOOTSTRAP_INVALID" "Bootstrap payload is invalid"
            fieldErrors
        | .ok names => .findingAdmin (names.headD []) (names.tail.headD [])

def configInvalid (fieldErrors : List (String × String)) : Call :=
  .answered (.error ⟨500, "CONFIG_VALIDATION_FAILED", "Registry configuration is invalid"⟩
    fieldErrors)

def buildBootstrap (env : Env) (displayName apiKeyName : JsString) : Bootstrap where
  displayName := displayName
  apiKeyName := apiKeyName
  humanDid := js "did:cdi:" ++ env.fresh.didAuthority ++ js ":human:" ++ BOOTSTRAP_ADMIN_HUMAN_ID
  apiKeyId := env.fresh.ulid
  apiKeyToken := PAT_TOKEN_MARKER ++ env.fresh.random
  apiKeyHash := sha256Hex (PAT_TOKEN_MARKER ++ env.fresh.random)
  apiKeyPrefix := deriveApiKeyLookupPrefix (PAT_TOKEN_MARKER ++ env.fresh.random)
  createdAt := env.nowMs
  internalServiceId := trim config.bootstrapInternalServiceId
  internalServiceSecretHash := sha256Hex (trim config.bootstrapInternalServiceSecret)
  internalServiceSecretPrefix :=
    deriveInternalServiceSecretPrefix (trim config.bootstrapInternalServiceSecret)

/-- The code after no admin was found. -/
def planBootstrap (env : Env) (displayName apiKeyName : JsString) : Call :=
  let together := "BOOTSTRAP_INTERNAL_SERVICE_ID and BOOTSTRAP_INTERNAL_SERVICE_SECRET must be " ++
    "set together."
  if (trim config.bootstrapInternalServiceId).isEmpty ||
      (trim config.bootstrapInternalServiceSecret).isEmpty then
    configInvalid [("BOOTSTRAP_INTERNAL_SERVICE_ID", together),
      ("BOOTSTRAP_INTERNAL_SERVICE_SECRET", together)]
  else
    match parseServiceSecret (trim config.bootstrapInternalServiceSecret) with
    | .error _ =>
      configInvalid [("BOOTSTRAP_INTERNAL_SERVICE_SECRET",
        "BOOTSTRAP_INTERNAL_SERVICE_SECRET must start with clw_srv_.")]
    | .ok _ => .beginning (buildBootstrap sha256Hex config env displayName apiKeyName)

/-- One statement of `applyBootstrapMutation` on a database without transactions. -/
def runBootstrap (s : Shared) (b : Bootstrap) (fails : Bool) : BootstrapPhase → Shared × Call
  | .insertHuman =>
    if fails then (s, .answered .databaseFailed)
    else
      match insertHuman s b.human with
      | .inserted s => (s, .bootstrapping b .insertApiKey)
      | .conflict => (s, failWith adminBootstrapAlreadyCompletedError)
      | .violation => (s, .answered .databaseFailed)
  | .insertApiKey =>
    match (insertApiKey s b.apiKey none).filter fun _ => !fails with
    | none => (s, .rollingBack b .deleteInternalService)
    | some s => (s, .bootstrapping b .insertInternalService)
  | .insertInternalService =>
    match (insertInternalService s b.service none).filter fun _ => !fails with
    | none => (s, .rollingBack b .deleteInternalService)
    | some s => (s, .answered (.bootstrapped b))

/-- The statements in a transaction, of which all or none take effect. -/
def runBootstrapTransaction (s : Shared) (b : Bootstrap) : Shared × Call :=
  match insertHuman s b.human with
  | .conflict => (s, failWith adminBootstrapAlreadyCompletedError)
  | .violation => (s, .answered .databaseFailed)
  | .inserted inserted =>
    match (insertApiKey inserted b.apiKey none).bind fun s =>
        insertInternalService s b.service none with
    | none => (s, .answered .databaseFailed)
    | some s => (s, .answered (.bootstrapped b))

/-- One statement of `rollbackBootstrapMutation`, whose failure is only logged. -/
def runRollback (s : Shared) (b : Bootstrap) (fails : Bool) : RollbackPhase → Shared × Call
  | .deleteInternalService =>
    (if fails then s else deleteInternalService s b.internalServiceId, .rollingBack b .deleteApiKey)
  | .deleteApiKey =>
    (if fails then s else deleteApiKey s b.apiKeyId, .rollingBack b .deleteHuman)
  | .deleteHuman =>
    (if fails then s else deleteHuman s BOOTSTRAP_ADMIN_HUMAN_ID, .answered .databaseFailed)

/-! ## The code -/

/-- The handler of a route, up to its first statement. -/
def dispatch (env : Env) (human : AuthenticatedHuman) : Route → Call
  | .me => .answered (.me human)
  | .createApiKey body => createApiKey sha256Hex config env human body
  | .revokeApiKey id =>
    match parseApiKeyRevokePath config.environment id with
    | .error call => call
    | .ok id => .findingOwnKey human id
  | .createService body => createService human body
  | .rotateService id body => startRotation config.environment human id body

def startCall : Input → Call
  | .bootstrap secretHeader body => startBootstrap config secretHeader body
  | .human authorization route =>
    match parseBearerPat authorization with
    | .error e => failWith e
    | .ok token => .findingApiKey token route
  | .service idHeader secretHeader requiredScopes =>
    startServiceAuth idHeader secretHeader requiredScopes

/-- The next statement of a request that does not fail. -/
def runStatement (s : Shared) (env : Env) : Call → Shared × Call
  | .findingApiKey token route =>
    match resolvePatLookupRow sha256Hex s.db.apiKeyRows token with
    | .error e => (s, failWith e)
    | .ok row =>
      (s.logKey (.use row.apiKeyId row.humanId), .touchingApiKey (toAuthenticatedHuman row) route)
  | .touchingApiKey human route =>
    (touchApiKey s human.apiKeyId env.nowMs, dispatch sha256Hex config env human route)
  | .insertingApiKey human row token =>
    match insertApiKey s row (some human.apiKeyId) with
    | none => (s, .answered .databaseFailed)
    | some s => (s, .answered (.keyCreated row token))
  | .findingOwnKey human id =>
    match (s.db.apiKey? id).filter fun key => key.humanId = human.id with
    | none => (s, failWith apiKeyNotFoundError)
    | some key =>
      if key.active then (s, .revokingKey human id)
      -- For the log, a key that is revoked already is revoked once more.
      else (s.logKey (.revoke id human.apiKeyId), .answered (.keyRevoked id))
  | .revokingKey human id => (revokeApiKey s human id, .answered (.keyRevoked id))
  | .findingName human payload =>
    if s.db.internalServices.any fun service => service.name = payload.name then
      (s, failWith serviceAlreadyExists)
    else (s, generatedService sha256Hex env human payload)
  | .insertingService human row secret =>
    match insertInternalService s row (some human) with
    | none => (s, .answered .databaseFailed)
    | some s => (s, .answered (.serviceCreated row secret))
  | .loadingService human id scopes =>
    match s.db.service? id with
    | none => (s, failWith serviceNotFound)
    | some service => (s, planRotation sha256Hex env human service scopes)
  | .rotatingService human rotation secret =>
    (rotateService s human rotation, .answered (.serviceRotated rotation secret))
  | .checkingService id secret requiredScopes =>
    match checkService sha256Hex s.db id secret requiredScopes with
    | .error e => (s, failWith e)
    | .ok service =>
      (s.logService (.accepted service (sha256Hex secret) requiredScopes), .touchingService service)
  | .touchingService service =>
    (touchService s service.id env.nowMs, .answered (.serviceAccepted service))
  | .findingAdmin displayName apiKeyName =>
    if s.db.humans.any fun human => human.role matches .admin then
      (s, failWith adminBootstrapAlreadyCompletedError)
    else (s, planBootstrap sha256Hex config env displayName apiKeyName)
  | .beginning b =>
    if env.unsupported then (s, .bootstrapping b .insertHuman)
    else runBootstrapTransaction s b
  | .bootstrapping b phase => runBootstrap s b false phase
  | .rollingBack b phase => runRollback s b false phase
  | .answered response => (s, .answered response)

/-- A statement that fails. -/
def runFailure (s : Shared) : Call → Shared × Call
  | .bootstrapping b phase => runBootstrap s b true phase
  | .rollingBack b phase => runRollback s b true phase
  | _ => (s, .answered .databaseFailed)

def Call.isAnswered : Call → Bool
  | .answered _ => true
  | _ => false

/-- The code of the routes. -/
def program : Program Shared Call Input Env where
  start s input := some (s, startCall config input)
  resume s call env :=
    if call.isAnswered then none
    else if env.fails then some (runFailure s call)
    else some (runStatement sha256Hex config s env call)

end

abbrev State := Pool Shared Call

/-- A registry with these tables. -/
def initial (db : Database) : State := ⟨⟨db, [], []⟩, []⟩

/-! ## What the statements do -/

/-- What authenticates with a key: its owner, its hash, and whether it is active. -/
structure KeyFacts where
  humanId : JsString
  keyHash : JsString
  active : Bool
  deriving DecidableEq

def ApiKeyRow.facts (key : ApiKeyRow) : KeyFacts := ⟨key.humanId, key.keyHash, key.active⟩

def Database.keyFacts (db : Database) (id : JsString) : Option KeyFacts :=
  (db.apiKey? id).map ApiKeyRow.facts

/-- What authenticates a service. -/
structure ServiceFacts where
  secretHash : JsString
  scopes : List JsString
  deriving DecidableEq

def InternalServiceRow.facts (service : InternalServiceRow) : ServiceFacts :=
  ⟨service.secretHash, service.scopes⟩

def Database.serviceFacts (db : Database) (id : JsString) : Option ServiceFacts :=
  (db.service? id).map InternalServiceRow.facts

section
variable {s s' : Shared} {id : JsString}

/-! ### API keys -/

section
variable {row : ApiKeyRow} {parent : Option JsString} (h : insertApiKey s row parent = some s')
include h

theorem insertApiKey_eq_some : s.db.apiKey? row.id = none ∧ (s.db.human? row.humanId).isSome ∧
    s' = ({ s with db := { s.db with apiKeys := s.db.apiKeys ++ [row] } } : Shared).logKey
      (.mint row.id row.humanId parent) := by
  simp only [insertApiKey, Option.ite_none_right_eq_some, Option.isNone_iff_eq_none,
    Option.some.injEq] at h
  exact ⟨h.1.1, h.1.2, h.2.symm⟩

theorem keyFacts_insertApiKey :
    s'.db.keyFacts = Function.update s.db.keyFacts row.id (some row.facts) := by
  obtain ⟨hnone, _, rfl⟩ := insertApiKey_eq_some h
  funext id
  have hfind := Rows.find_insert (k := id) hnone
  simp only [Database.keyFacts, Database.apiKey?, Shared.logKey, hfind, Function.update_apply]
  by_cases hid : row.id = id
  · simp [hid]
  · simp [hid, Ne.symm hid]

end

theorem keyFacts_deleteApiKey (s : Shared) (id : JsString) :
    (deleteApiKey s id).db.keyFacts = Function.update s.db.keyFacts id none := by
  funext other
  have hfind := Rows.find_delete ApiKeyRow.id s.db.apiKeys id other
  simp only [Database.keyFacts, Database.apiKey?, deleteApiKey, Shared.logKey, hfind,
    Function.update_apply]
  by_cases hother : other = id <;> simp [hother]

theorem keyFacts_touchApiKey (s : Shared) (id : JsString) (nowMs : ℕ) :
    (touchApiKey s id nowMs).db.keyFacts = s.db.keyFacts := by
  funext other
  have hkey : ∀ key : ApiKeyRow,
      (if key.id = id then { key with lastUsedAt := some nowMs } else key).id = key.id := by
    intro key
    split <;> rfl
  have hfind := Rows.find_update ApiKeyRow.id hkey s.db.apiKeys other
  simp only [Database.keyFacts, Database.apiKey?, touchApiKey, hfind, Option.map_map]
  congr 1
  funext key
  simp only [Function.comp_def, ApiKeyRow.facts]
  split <;> rfl

/-- A key of another human stays as it is, and so do all other keys. -/
theorem keyFacts_revokeApiKey (s : Shared) (human : AuthenticatedHuman) (id other : JsString) :
    (revokeApiKey s human id).db.keyFacts other = (s.db.keyFacts other).map fun facts =>
      if other = id ∧ facts.humanId = human.id then { facts with active := false } else facts := by
  have hkey : ∀ key : ApiKeyRow, (if key.id = id ∧ key.humanId = human.id then
      { key with active := false } else key).id = key.id := by
    intro key
    split <;> rfl
  have hfind := Rows.find_update ApiKeyRow.id hkey s.db.apiKeys other
  have hdb : (revokeApiKey s human id).db.apiKeys = s.db.apiKeys.map fun key =>
      if key.id = id ∧ key.humanId = human.id then { key with active := false } else key := by
    unfold revokeApiKey
    simp only
    split <;> rfl
  simp only [Database.keyFacts, Database.apiKey?, hdb, hfind, Option.map_map]
  cases hrow : s.db.apiKeys.find? fun key => key.id = other with
  | none => rfl
  | some key =>
      have hid := (Rows.key_of_find hrow).2
      by_cases hcond : other = id ∧ key.humanId = human.id <;>
        simp [ApiKeyRow.facts, hid, hcond]

/-! ### Internal services -/

section
variable {row : InternalServiceRow} {creator : Option AuthenticatedHuman}
  (h : insertInternalService s row creator = some s')
include h

theorem insertInternalService_eq_some : s.db.service? row.id = none ∧
    s' = ({ s with db := { s.db with
      internalServices := s.db.internalServices ++ [row] } } : Shared).logService
        (.made row.id row.secretHash row.scopes creator) := by
  simp only [insertInternalService, Option.ite_none_right_eq_some, Option.isNone_iff_eq_none,
    Option.some.injEq] at h
  exact ⟨h.1.1, h.2.symm⟩

theorem serviceFacts_insertInternalService :
    s'.db.serviceFacts = Function.update s.db.serviceFacts row.id (some row.facts) := by
  obtain ⟨hnone, rfl⟩ := insertInternalService_eq_some h
  funext id
  have hfind := Rows.find_insert (k := id) hnone
  simp only [Database.serviceFacts, Database.service?, Shared.logService, hfind,
    Function.update_apply]
  by_cases hid : row.id = id
  · simp [hid]
  · simp [hid, Ne.symm hid]

end

theorem serviceFacts_deleteInternalService (s : Shared) (id : JsString) :
    (deleteInternalService s id).db.serviceFacts = Function.update s.db.serviceFacts id none := by
  funext other
  have hfind := Rows.find_delete InternalServiceRow.id s.db.internalServices id other
  simp only [Database.serviceFacts, Database.service?, deleteInternalService, Shared.logService,
    hfind, Function.update_apply]
  by_cases hother : other = id <;> simp [hother]

theorem serviceFacts_touchService (s : Shared) (id : JsString) (nowMs : ℕ) :
    (touchService s id nowMs).db.serviceFacts = s.db.serviceFacts := by
  funext other
  have hkey : ∀ service : InternalServiceRow,
      (if service.id = id then { service with lastUsedAt := some nowMs } else service).id =
        service.id := by
    intro service
    split <;> rfl
  have hfind := Rows.find_update InternalServiceRow.id hkey s.db.internalServices other
  simp only [Database.serviceFacts, Database.service?, touchService, hfind, Option.map_map]
  congr 1
  funext service
  simp only [Function.comp_def, InternalServiceRow.facts]
  split <;> rfl

theorem serviceFacts_rotateService (s : Shared) (human : AuthenticatedHuman) (r : Rotation)
    (other : JsString) :
    (rotateService s human r).db.serviceFacts other = (s.db.serviceFacts other).map fun facts =>
      if other = r.id then ⟨r.secretHash, r.scopes⟩ else facts := by
  have hkey : ∀ service : InternalServiceRow, (if service.id = r.id then
      { service with
        secretHash := r.secretHash, secretPrefix := r.secretPrefix, scopes := r.scopes
        rotatedAt := some r.rotatedAt, updatedAt := r.rotatedAt } else service).id =
        service.id := by
    intro service
    split <;> rfl
  have hfind := Rows.find_update InternalServiceRow.id hkey s.db.internalServices other
  have hdb : (rotateService s human r).db.internalServices = s.db.internalServices.map fun service =>
      if service.id = r.id then
        { service with
          secretHash := r.secretHash, secretPrefix := r.secretPrefix, scopes := r.scopes
          rotatedAt := some r.rotatedAt, updatedAt := r.rotatedAt }
      else service := by
    unfold rotateService
    simp only
    split <;> rfl
  simp only [Database.serviceFacts, Database.service?, hdb, hfind, Option.map_map]
  cases hrow : s.db.internalServices.find? fun service => service.id = other with
  | none => rfl
  | some service =>
      have hid := (Rows.key_of_find hrow).2
      by_cases hcond : other = r.id <;> simp [InternalServiceRow.facts, hid, hcond]

end

/-! ## An example -/

/-- The random bytes of two API keys and of two services. -/
def exampleRandom : ℕ → JsString
  | 0 => js "AAECAwQFBgcICQoLDA0ODxAREhMUFRYXGBkaGxwdHh8"
  | 1 => js "ICEiIyQlJicoKSorLC0uLzAxMjM0NTY3ODk6Ozw9Pj8"
  | 2 => js "YGFiY2RlZmdoaWprbG1ub3BxcnN0dXZ3eHl6e3x9fn8"
  | _ => js "gIGCg4SFhoeIiYqLjI2Oj5CRkpOUlZaXmJmam5ydnp8"

/-- The hash, on the tokens of the example. -/
def exampleSha256Hex (text : JsString) : JsString :=
  if text = PAT_TOKEN_MARKER ++ exampleRandom 0 then
    js "a7afea97f1e7620f2098a80e322bedd56f18fb00dc81dce0f5241564bebf400d"
  else if text = PAT_TOKEN_MARKER ++ exampleRandom 1 then
    js "fa1bbba4adc02bc679279beaa0aaa12a021c6cd963fd871356db9926f5a3c8ea"
  else if text = INTERNAL_SERVICE_SECRET_MARKER ++ exampleRandom 2 then
    js "c2217c9866f04e634d4809fcb999367cf99eedf3771fcb550bc039dcacf54341"
  else if text = INTERNAL_SERVICE_SECRET_MARKER ++ exampleRandom 3 then
    js "0fdefc13411caceadacf7645efb3c1397aa4bdcbc6d8bfabb77be7a7010fbcfb"
  else []

def exampleConfig : Config where
  environment := .production
  bootstrapSecret := some (js "s3cret")
  bootstrapInternalServiceId := js "01HF7YAT00W6W7CM7N3W5FDXS0"
  bootstrapInternalServiceSecret := INTERNAL_SERVICE_SECRET_MARKER ++ exampleRandom 2

/-- A statement that generates the given token and an id with the given last character. -/
def exampleEnv (random : ℕ) (tag : String) : Env where
  nowMs := 1700000000000
  fails := false
  unsupported := true
  fresh :=
    { random := exampleRandom random, ulid := js ("01HF7YAT00W6W7CM7N3W5FDXK" ++ tag)
      didAuthority := js "registry.example.com" }

/-- A statement that fails. -/
def exampleFailure : Env := { exampleEnv 0 "0" with fails := true }

def exampleDatabase : Database := ⟨[], [], []⟩

def exampleBootstrap : Input := .bootstrap (some (js "s3cret")) (some (object []))

end Clawdentity.Credentials
