import Clawdentity.Protocol.AgentAuthEvents
import Clawdentity.Registry.AgentRevocation

/-!
# Tokens of an agent's auth session

The row of one agent, its auth session and the statements of the routes that change them:
refresh, validate, revocation of the session, revocation of the agent and reissue. A route
reads the agent and then the session, decides on a plan from what it has read, and runs the
statements of the plan. Each auth event is a row and a message on the event bus.

The hash of the tokens and the text of a date are parameters, and generated values come with
the request. The random id of a message is left out.

## Main definitions

* `Statement.run` — the statements.
* `Plan` — what a route has decided to do; `Plan.mutation`, `Plan.answer`, `Plan.conflict`.
* `startRequest`, `decideSession` — the code of a route before its statements.
* `serve` — a whole request, one access to the database of which can fail.
-/

namespace Clawdentity.AgentAuth

open Js Lib Protocol
open AgentRevocation (Status AgentRow Revocation AgentReissue ReissuedAgent buildAgentReissue
  requireCurrentJti)

/-! ## Tokens -/

def AGENT_ACCESS_TOKEN_MARKER : JsString := js "clw_agt_"
def AGENT_REFRESH_TOKEN_MARKER : JsString := js "clw_rft_"
def AGENT_TOKEN_LOOKUP_ENTROPY_LENGTH : ℕ := 8
def DEFAULT_AGENT_ACCESS_TOKEN_TTL_SECONDS : ℕ := 15 * 60
def DEFAULT_AGENT_REFRESH_TOKEN_TTL_SECONDS : ℕ := 30 * 24 * 60 * 60

/-- `parseAgentToken`; `none` where it throws. -/
def parseAgentToken (token : Option JsString) (marker : JsString) : Option JsString :=
  (token.map trim).filter fun trimmed =>
    !trimmed.isEmpty && marker.isPrefixOf trimmed && decide (marker.length < trimmed.length)

def parseAccessToken (token : Option JsString) : Option JsString :=
  parseAgentToken token AGENT_ACCESS_TOKEN_MARKER

def parseRefreshToken (token : Option JsString) : Option JsString :=
  parseAgentToken token AGENT_REFRESH_TOKEN_MARKER

def deriveTokenLookupPrefix (token marker : JsString) : JsString :=
  marker ++ (token.drop marker.length).take AGENT_TOKEN_LOOKUP_ENTROPY_LENGTH

def deriveAccessTokenLookupPrefix (token : JsString) : JsString :=
  deriveTokenLookupPrefix token AGENT_ACCESS_TOKEN_MARKER

def deriveRefreshTokenLookupPrefix (token : JsString) : JsString :=
  deriveTokenLookupPrefix token AGENT_REFRESH_TOKEN_MARKER

structure Platform where
  hashAgentToken : JsString → JsString
  /-- `Date.prototype.toISOString`. -/
  toIso : ℕ → JsString

/-- The two tokens that `issueAgentAuth` generates, with their times. -/
structure AgentAuthIssue where
  accessToken : JsString
  refreshToken : JsString
  issuedAt : ℕ
  accessExpiresAt : ℕ
  refreshExpiresAt : ℕ
  deriving DecidableEq

/-! ## The tables -/

/-- The row of the agent in `agent_auth_sessions`. -/
structure SessionRow where
  id : JsString
  refreshKeyHash : JsString
  refreshKeyPrefix : JsString
  refreshIssuedAt : ℕ
  refreshExpiresAt : ℕ
  refreshLastUsedAt : Option ℕ
  accessKeyHash : JsString
  accessKeyPrefix : JsString
  accessIssuedAt : ℕ
  accessExpiresAt : ℕ
  accessLastUsedAt : Option ℕ
  status : Status
  revokedAt : Option ℕ
  createdAt : ℕ
  updatedAt : ℕ
  deriving DecidableEq

inductive EventType
  | issued
  | refreshed
  | revoked
  | refreshRejected
  deriving DecidableEq

/-- The values of a call of `insertAgentAuthEvent`. -/
structure AuthEvent where
  agentId : JsString
  sessionId : JsString
  eventType : EventType
  reason : Option JsString
  metadata : Option Value
  createdAt : ℕ
  initiatedByAccountId : Option JsString
  deriving DecidableEq

structure Database where
  agent : AgentRow
  revocations : List Revocation
  session : Option SessionRow
  events : List AuthEvent
  deriving DecidableEq

/-- The `jti`s in `revocations`. -/
def Database.revokedJtis (db : Database) : List JsString := db.revocations.map Revocation.jti

/-- The session of the agent is active. -/
def Database.sessionActive (db : Database) : Bool :=
  db.session.any fun session => session.status = .active

theorem sessionActive_eq_false {db : Database} :
    db.sessionActive = false ↔ ∀ session, db.session = some session → session.status ≠ .active := by
  cases h : db.session with
  | none => simp [Database.sessionActive, h]
  | some session => simp [Database.sessionActive, h]

/-! ## The event bus -/

def REGISTRY_SERVICE_EVENT_VERSION : JsString := js "v1"

/-- `AGENT_AUTH_EVENT_NAME_BY_TYPE`. -/
def EventType.name : EventType → JsString
  | .issued => AGENT_AUTH_ISSUED_EVENT_TYPE
  | .refreshed => AGENT_AUTH_REFRESHED_EVENT_TYPE
  | .revoked => AGENT_AUTH_REVOKED_EVENT_TYPE
  | .refreshRejected => AGENT_AUTH_REFRESH_REJECTED_EVENT_TYPE

/-- The message that `insertAgentAuthEvent` publishes. -/
def AuthEvent.envelope (platform : Platform) (event : AuthEvent) : Value :=
  object [("type", some (.str event.eventType.name)),
    ("version", some (.str REGISTRY_SERVICE_EVENT_VERSION)),
    ("timestampUtc", some (.str (platform.toIso event.createdAt))),
    ("initiatedByAccountId", some (event.initiatedByAccountId.elim .null .str)),
    ("data", some (object [("agentId", some (.str event.agentId)),
      ("sessionId", some (.str event.sessionId)), ("reason", event.reason.map .str),
      ("metadata", event.metadata)]))]

/-! ## Statements -/

inductive Statement
  /-- `update agents set status = 'revoked'`, by id. -/
  | revokeAgent (updatedAt : ℕ)
  /-- `update agents`, by id, active status and the `current_jti` that was read. -/
  | reissueAgent (currentJti : JsString) (reissued : ReissuedAgent)
  /-- `insert into revocations … on conflict (jti) do nothing`. -/
  | insertRevocation (row : Revocation)
  /-- The update of a refresh, by id, active status and the hash that was presented. -/
  | rotateSession (id refreshHash : JsString) (rotated : AgentAuthIssue) (refreshedAt : ℕ)
  /-- The update of a validation, by id, active status and the hash that was presented. -/
  | touchSession (id accessTokenHash : JsString) (accessLastUsedAt : ℕ)
  /-- `update agent_auth_sessions set status = 'revoked'`, by id and active status. -/
  | revokeSession (id : JsString) (revokedAt : ℕ)
  /-- The same, by id only. -/
  | expireSession (id : JsString) (revokedAt : ℕ)
  | insertAuthEvent (event : AuthEvent)
  deriving DecidableEq

/-- The row after a refresh. -/
def SessionRow.rotate (platform : Platform) (session : SessionRow) (rotated : AgentAuthIssue)
    (refreshedAt : ℕ) : SessionRow :=
  { session with
    refreshKeyHash := platform.hashAgentToken rotated.refreshToken
    refreshKeyPrefix := deriveRefreshTokenLookupPrefix rotated.refreshToken
    refreshIssuedAt := rotated.issuedAt
    refreshExpiresAt := rotated.refreshExpiresAt
    refreshLastUsedAt := some refreshedAt
    accessKeyHash := platform.hashAgentToken rotated.accessToken
    accessKeyPrefix := deriveAccessTokenLookupPrefix rotated.accessToken
    accessIssuedAt := rotated.issuedAt
    accessExpiresAt := rotated.accessExpiresAt
    accessLastUsedAt := none
    status := .active
    revokedAt := none
    updatedAt := refreshedAt }

def SessionRow.revoke (session : SessionRow) (revokedAt : ℕ) : SessionRow :=
  { session with status := .revoked, revokedAt := some revokedAt, updatedAt := revokedAt }

/-- An update of the session where the `where` clause holds, and the number of rows changed. -/
def updateSession (db : Database) (matching : SessionRow → Bool)
    (change : SessionRow → SessionRow) : Database × ℕ :=
  match db.session.filter matching with
  | some session => ({ db with session := some (change session) }, 1)
  | none => (db, 0)

/-- The database after a statement, and the number of rows that it changed. -/
def Statement.run (platform : Platform) (db : Database) : Statement → Database × ℕ
  | .revokeAgent updatedAt =>
      ({ db with agent := { db.agent with status := .revoked, updatedAt := updatedAt } }, 1)
  | .reissueAgent currentJti reissued =>
      if db.agent.status = .active ∧ db.agent.currentJti = some currentJti then
        ({ db with agent := { db.agent with
            status := .active
            currentJti := some reissued.currentJti
            expiresAt := some reissued.expiresAt
            updatedAt := reissued.updatedAt } }, 1)
      else (db, 0)
  | .insertRevocation row =>
      if row.jti ∈ db.revokedJtis then (db, 0)
      else ({ db with revocations := row :: db.revocations }, 1)
  | .rotateSession id refreshHash rotated refreshedAt =>
      updateSession db
        (fun session => session.id = id && session.status = .active &&
          session.refreshKeyHash = refreshHash)
        fun session => session.rotate platform rotated refreshedAt
  | .touchSession id accessTokenHash accessLastUsedAt =>
      updateSession db
        (fun session => session.id = id && session.status = .active &&
          session.accessKeyHash = accessTokenHash)
        fun session => { session with
          accessLastUsedAt := some accessLastUsedAt, updatedAt := accessLastUsedAt }
  | .revokeSession id revokedAt =>
      updateSession db (fun session => session.id = id && session.status = .active)
        fun session => session.revoke revokedAt
  | .expireSession id revokedAt =>
      updateSession db (fun session => session.id = id) fun session => session.revoke revokedAt
  | .insertAuthEvent event => ({ db with events := db.events ++ [event] }, 1)

/-- One statement; `none` where the route throws because no row was changed. -/
def runGuarded (platform : Platform) (db : Database) (statement : Statement) : Option Database :=
  match statement, statement.run platform db with
  | .reissueAgent _ _, (_, 0) => none
  | .rotateSession _ _ _ _, (_, 0) => none
  | .touchSession _ _ _, (_, 0) => none
  | _, (next, _) => some next

/-- A transaction: the statements in order; `none` where it throws and is rolled back. -/
def runTransaction (platform : Platform) (db : Database) : List Statement → Option Database
  | [] => some db
  | statement :: rest =>
      (runGuarded platform db statement).bind fun next => runTransaction platform next rest

/-- An update that finds the row. -/
theorem updateSession_of_matching {db : Database} {matching : SessionRow → Bool}
    {change : SessionRow → SessionRow} {session : SessionRow} (hdb : db.session = some session)
    (h : matching session = true) :
    updateSession db matching change = ({ db with session := some (change session) }, 1) := by
  have hfilter : db.session.filter matching = some session :=
    Option.filter_eq_some_iff.mpr ⟨hdb, h⟩
  simp only [updateSession, hfilter]

/-- A statement that does not throw has run. -/
theorem run_of_runGuarded {platform : Platform} {db next : Database} {statement : Statement}
    (h : runGuarded platform db statement = some next) :
    (statement.run platform db).1 = next := by
  unfold runGuarded at h
  split at h <;> simp_all

/-! ## Answers -/

structure AppError where
  status : ℕ
  code : String
  message : String
  deriving DecidableEq

/-- The error of a state that does not allow the request, with the field it is about. -/
structure InvalidState where
  code : String
  message : String
  field : String
  reason : String
  deriving DecidableEq

inductive Response
  /-- 204. -/
  | noContent
  /-- 200, with the new tokens. -/
  | refreshed (agentAuth : AgentAuthIssue)
  /-- 200, with the agent and its new AIT. -/
  | reissued (reissue : AgentReissue)
  | error (error : AppError)
  /-- 409. -/
  | invalidState (error : InvalidState)
  deriving DecidableEq

def refreshPayloadInvalid : Response :=
  .error ⟨400, "AGENT_AUTH_REFRESH_INVALID", "Refresh payload is invalid"⟩

def refreshInvalid : Response :=
  .error ⟨401, "AGENT_AUTH_REFRESH_INVALID", "Agent auth refresh token is invalid"⟩

def refreshRevoked : Response :=
  .error ⟨401, "AGENT_AUTH_REFRESH_REVOKED", "Agent auth refresh token is revoked"⟩

def refreshExpired : Response :=
  .error ⟨401, "AGENT_AUTH_REFRESH_EXPIRED", "Agent auth refresh token is expired"⟩

def refreshConflict : Response :=
  .error ⟨409, "AGENT_AUTH_REFRESH_CONFLICT", "Agent auth refresh state changed; retry request"⟩

def validateInvalid : Response :=
  .error ⟨400, "AGENT_AUTH_VALIDATE_INVALID", "Validation payload is invalid"⟩

def validateUnauthorized : Response :=
  .error ⟨401, "AGENT_AUTH_VALIDATE_UNAUTHORIZED", "Agent access token is invalid"⟩

def validateExpired : Response :=
  .error ⟨401, "AGENT_AUTH_VALIDATE_EXPIRED", "Agent access token is expired"⟩

def revokeStateInvalid (reason : String) : Response :=
  .invalidState ⟨"AGENT_REVOKE_INVALID_STATE", "Agent cannot be revoked", "currentJti", reason⟩

def reissueStateInvalid (field reason : String) : Response :=
  .invalidState ⟨"AGENT_REISSUE_INVALID_STATE", "Agent cannot be reissued", field, reason⟩

/-! ## Plans -/

/-- A refresh at its mutation. -/
structure Rotation where
  agent : AgentRow
  session : SessionRow
  refreshToken : JsString
  rotated : AgentAuthIssue
  refreshedAt : ℕ
  ownerDid : JsString
  deriving DecidableEq

/-- What a route has decided to do, with what it has read. -/
inductive Plan
  | refresh (rotation : Rotation)
  | rejectRefresh (agent : AgentRow) (session : SessionRow) (createdAt : ℕ) (ownerDid : JsString)
  | expireRefresh (agent : AgentRow) (session : SessionRow) (revokedAt : ℕ) (ownerDid : JsString)
  | validate (session : SessionRow) (accessToken : JsString) (accessLastUsedAt : ℕ)
  | authRevoke (agent : AgentRow) (session : SessionRow) (revokedAt : ℕ) (humanDid : JsString)
  | revoke (agent : AgentRow) (currentJti : JsString) (existingSession : Option SessionRow)
      (revokedAt : ℕ) (humanDid : JsString)
  | reissue (agent : AgentRow) (currentJti : JsString) (reissued : AgentReissue) (revokedAt : ℕ)
  deriving DecidableEq

def applyRefreshMutation (platform : Platform) (r : Rotation) : List Statement :=
  [.rotateSession r.session.id (platform.hashAgentToken r.refreshToken) r.rotated r.refreshedAt,
    .insertAuthEvent
      { agentId := r.agent.id, sessionId := r.session.id, eventType := .refreshed, reason := none,
        metadata := none, createdAt := r.refreshedAt, initiatedByAccountId := some r.ownerDid }]

def applyAuthRevokeMutation (agent : AgentRow) (session : SessionRow) (revokedAt : ℕ)
    (humanDid : JsString) : List Statement :=
  [.revokeSession session.id revokedAt,
    .insertAuthEvent
      { agentId := agent.id, sessionId := session.id, eventType := .revoked,
        reason := some (js "owner_auth_revoke"), metadata := none, createdAt := revokedAt,
        initiatedByAccountId := some humanDid }]

/-- The last statements of `applyRevokeMutation`, where the session was active. -/
def revokeSessionStatements (agent : AgentRow) (existingSession : Option SessionRow)
    (revokedAt : ℕ) (humanDid : JsString) : List Statement :=
  match existingSession.filter fun session => session.status = .active with
  | some session =>
      [.revokeSession session.id revokedAt,
        .insertAuthEvent
          { agentId := agent.id, sessionId := session.id, eventType := .revoked,
            reason := some AGENT_AUTH_REVOKED_REASON_AGENT_REVOKED,
            metadata := createAgentAuthRevokedMetadata agent.did, createdAt := revokedAt,
            initiatedByAccountId := some humanDid }]
  | none => []

def applyRevokeMutation (agent : AgentRow) (currentJti : JsString)
    (existingSession : Option SessionRow) (revokedAt : ℕ) (humanDid : JsString) :
    List Statement :=
  [.revokeAgent revokedAt,
    .insertRevocation { jti := currentJti, agentId := agent.id, reason := none, revokedAt }] ++
  revokeSessionStatements agent existingSession revokedAt humanDid

def applyReissueMutation (agent : AgentRow) (currentJti : JsString) (reissue : AgentReissue)
    (revokedAt : ℕ) : List Statement :=
  [.reissueAgent currentJti reissue.agent,
    .insertRevocation
      { jti := currentJti, agentId := agent.id, reason := some (js "reissued"), revokedAt }]

/-- The statements of a plan. -/
def Plan.mutation (platform : Platform) : Plan → List Statement
  | .refresh rotation => applyRefreshMutation platform rotation
  | .rejectRefresh agent session createdAt ownerDid =>
      [.insertAuthEvent
        { agentId := agent.id, sessionId := session.id, eventType := .refreshRejected,
          reason := some (js "invalid_refresh_token"), metadata := none, createdAt,
          initiatedByAccountId := some ownerDid }]
  | .expireRefresh agent session revokedAt ownerDid =>
      [.expireSession session.id revokedAt,
        .insertAuthEvent
          { agentId := agent.id, sessionId := session.id, eventType := .revoked,
            reason := some (js "refresh_token_expired"), metadata := none, createdAt := revokedAt,
            initiatedByAccountId := some ownerDid }]
  | .validate session accessToken accessLastUsedAt =>
      [.touchSession session.id (platform.hashAgentToken accessToken) accessLastUsedAt]
  | .authRevoke agent session revokedAt humanDid =>
      applyAuthRevokeMutation agent session revokedAt humanDid
  | .revoke agent currentJti existingSession revokedAt humanDid =>
      applyRevokeMutation agent currentJti existingSession revokedAt humanDid
  | .reissue agent currentJti reissued revokedAt =>
      applyReissueMutation agent currentJti reissued revokedAt

/-- The answer after the statements. -/
def Plan.answer : Plan → Response
  | .refresh rotation => .refreshed rotation.rotated
  | .rejectRefresh _ _ _ _ => refreshInvalid
  | .expireRefresh _ _ _ _ => refreshExpired
  | .validate _ _ _ => .noContent
  | .authRevoke _ _ _ _ => .noContent
  | .revoke _ _ _ _ _ => .noContent
  | .reissue _ _ reissued _ => .reissued reissued

/-- The answer where a guarded update changes no row. -/
def Plan.conflict : Plan → Response
  | .refresh _ => refreshConflict
  | .validate _ _ _ => validateUnauthorized
  | .reissue _ _ _ _ =>
      reissueStateInvalid "currentJti" "agent state changed during reissue; retry request"
  | plan => plan.answer

/-! ## Requests -/

/-- A refresh, after its signature was verified; the claims are those of its AIT. -/
structure RefreshRequest where
  sub : JsString
  jti : JsString
  ownerDid : JsString
  refreshToken : JsString
  deriving DecidableEq

structure ValidateRequest where
  agentDid : JsString
  aitJti : JsString
  accessToken : Option JsString
  deriving DecidableEq

/-- A request to one of the routes; the last three are those of the agent's owner. -/
inductive Request
  | refresh (request : RefreshRequest)
  | validate (request : ValidateRequest)
  | authRevoke (humanDid : JsString)
  | revoke (humanDid : JsString)
  | reissue (humanDid issuer newJti : JsString)
  deriving DecidableEq

/-- The clock, and the tokens that a refresh generates. -/
structure Env where
  nowMs : ℕ
  accessToken : JsString
  refreshToken : JsString
  deriving DecidableEq

/-- A request that has read the agent and reads the session next. -/
inductive Reading
  | refresh (agent : AgentRow) (refreshToken ownerDid : JsString) (nowMillis : ℕ)
  | validate (agent : AgentRow) (accessToken : JsString)
  | authRevoke (agent : AgentRow) (humanDid : JsString)
  | revoke (agent : AgentRow) (currentJti humanDid : JsString)
  deriving DecidableEq

/-- A request between two of its database accesses; `mutating plan n` has run `n` of the
statements, and `ready` has not tried its transaction. -/
inductive Call
  | reading (reading : Reading)
  | ready (plan : Plan)
  | mutating (plan : Plan) (n : ℕ)
  | finished (plan : Plan)
  | answered (response : Response)
  deriving DecidableEq

def startRefresh (db : Database) (request : RefreshRequest) (env : Env) : Call :=
  match parseRefreshToken (some request.refreshToken) with
  | none => .answered refreshPayloadInvalid
  | some refreshToken =>
      if db.agent.did ≠ request.sub || db.agent.status ≠ .active ||
          db.agent.currentJti ≠ some request.jti then
        .answered refreshInvalid
      else .reading (.refresh db.agent refreshToken request.ownerDid env.nowMs)

def startValidate (db : Database) (request : ValidateRequest) : Call :=
  let agentDid := trim request.agentDid
  let aitJti := trim request.aitJti
  if agentDid.isEmpty || aitJti.isEmpty then .answered validateInvalid
  else
    match parseAccessToken request.accessToken with
    | none => .answered validateUnauthorized
    | some accessToken =>
        if db.agent.did ≠ agentDid || db.agent.status ≠ .active ||
            db.agent.currentJti ≠ some aitJti then
          .answered validateUnauthorized
        else .reading (.validate db.agent accessToken)

def startRevoke (db : Database) (humanDid : JsString) : Call :=
  if db.agent.status = .revoked then .answered .noContent
  else
    match requireCurrentJti db.agent.currentJti with
    | none =>
        .answered (revokeStateInvalid "agent.current_jti is required for revocation")
    | some currentJti => .reading (.revoke db.agent currentJti humanDid)

def startReissue (db : Database) (humanDid issuer newJti : JsString) (env : Env) : Call :=
  if db.agent.status = .revoked then
    .answered (reissueStateInvalid "status" "revoked agents cannot be reissued")
  else
    match requireCurrentJti db.agent.currentJti with
    | none =>
        .answered (reissueStateInvalid "currentJti" "agent.current_jti is required for reissue")
    | some currentJti =>
        .ready (.reissue db.agent currentJti
          (buildAgentReissue db.agent humanDid issuer newJti env.nowMs) env.nowMs)

/-- The code of a route, up to the read of the session. -/
def startRequest (db : Database) (request : Request) (env : Env) : Call :=
  match request with
  | .refresh request => startRefresh db request env
  | .validate request => startValidate db request
  | .authRevoke humanDid => .reading (.authRevoke db.agent humanDid)
  | .revoke humanDid => startRevoke db humanDid
  | .reissue humanDid issuer newJti => startReissue db humanDid issuer newJti env

def issueAgentAuth (nowMs : ℕ) (env : Env) : AgentAuthIssue where
  accessToken := env.accessToken
  refreshToken := env.refreshToken
  issuedAt := env.nowMs
  accessExpiresAt := nowMs + DEFAULT_AGENT_ACCESS_TOKEN_TTL_SECONDS * 1000
  refreshExpiresAt := nowMs + DEFAULT_AGENT_REFRESH_TOKEN_TTL_SECONDS * 1000

section
variable (platform : Platform)

/-- The presented token is the one of the session. -/
def refreshTokenMatches (session : SessionRow) (refreshToken : JsString) : Bool :=
  session.refreshKeyPrefix = deriveRefreshTokenLookupPrefix refreshToken &&
    session.refreshKeyHash = platform.hashAgentToken refreshToken

def accessTokenMatches (session : SessionRow) (accessToken : JsString) : Bool :=
  session.accessKeyPrefix = deriveAccessTokenLookupPrefix accessToken &&
    session.accessKeyHash = platform.hashAgentToken accessToken

def decideRefresh (agent : AgentRow) (refreshToken ownerDid : JsString) (nowMillis : ℕ)
    (existingSession : Option SessionRow) (env : Env) : Call :=
  match existingSession with
  | none => .answered refreshInvalid
  | some session =>
      if session.status ≠ .active then .answered refreshRevoked
      else if !refreshTokenMatches platform session refreshToken then
        .mutating (.rejectRefresh agent session env.nowMs ownerDid) 0
      else if session.refreshExpiresAt ≤ nowMillis then
        .mutating (.expireRefresh agent session env.nowMs ownerDid) 0
      else
        .ready (.refresh
          { agent, session, refreshToken, rotated := issueAgentAuth nowMillis env,
            refreshedAt := env.nowMs, ownerDid })

def decideValidate (accessToken : JsString) (existingSession : Option SessionRow) (env : Env) :
    Call :=
  match existingSession with
  | none => .answered validateUnauthorized
  | some session =>
      if session.status ≠ .active then .answered validateUnauthorized
      else if session.accessExpiresAt ≤ env.nowMs then .answered validateExpired
      else if !accessTokenMatches platform session accessToken then
        .answered validateUnauthorized
      else .mutating (.validate session accessToken env.nowMs) 0

def decideAuthRevoke (agent : AgentRow) (humanDid : JsString)
    (existingSession : Option SessionRow) (env : Env) : Call :=
  match existingSession.filter fun session => session.status ≠ .revoked with
  | none => .answered .noContent
  | some session => .ready (.authRevoke agent session env.nowMs humanDid)

/-- The code of a route after the read of the session. -/
def decideSession (reading : Reading) (existingSession : Option SessionRow) (env : Env) : Call :=
  match reading with
  | .refresh agent refreshToken ownerDid nowMillis =>
      decideRefresh platform agent refreshToken ownerDid nowMillis existingSession env
  | .validate _ accessToken => decideValidate platform accessToken existingSession env
  | .authRevoke agent humanDid => decideAuthRevoke agent humanDid existingSession env
  | .revoke agent currentJti humanDid =>
      .ready (.revoke agent currentJti existingSession env.nowMs humanDid)

end

/-! ## A whole request -/

/-- The access to the database that fails. -/
inductive Fault
  | readAgent
  | readSession
  /-- The `n`-th statement of the mutation, which then changes nothing. -/
  | statement (n : ℕ)
  deriving DecidableEq

def Fault.statement? : Fault → Option ℕ
  | .statement n => some n
  | _ => none

/-- The answer to an error of the database. -/
def internalServerError : Response :=
  .error ⟨500, "INTERNAL_SERVER_ERROR", "Internal Server Error"⟩

/-- How a mutation ends: done, at a guarded update that changed no row, or at a failure. -/
inductive Outcome
  | completed
  | unchanged
  | failed
  deriving DecidableEq

section
variable (platform : Platform)

/-- The statements one after another, up to the one that fails. -/
def runFallback (db : Database) : List Statement → Option ℕ → Database × Outcome
  | [], _ => (db, .completed)
  | _ :: _, some 0 => (db, .failed)
  | statement :: rest, failing =>
      match runGuarded platform db statement with
      | none => (db, .unchanged)
      | some next => runFallback next rest (failing.map (· - 1))

/-- A mutation; a transaction that throws is rolled back. -/
def runMutation (transactional : Bool) (db : Database) (statements : List Statement)
    (fault : Option Fault) : Database × Outcome :=
  let r := runFallback platform db statements (fault.bind Fault.statement?)
  if transactional && r.2 ≠ .completed then (db, r.2) else r

def Plan.answerOf (plan : Plan) : Outcome → Response
  | .completed => plan.answer
  | .unchanged => plan.conflict
  | .failed => internalServerError

def servePlan (transactional : Bool) (db : Database) (plan : Plan) (fault : Option Fault) :
    Database × Response :=
  let r := runMutation platform transactional db (plan.mutation platform) fault
  (r.1, plan.answerOf r.2)

/-- The rest of a request that has decided what to do. -/
def serveDecided (transactional : Bool) (db : Database) (fault : Option Fault) :
    Call → Database × Response
  | .ready plan => servePlan platform transactional db plan fault
  | .mutating plan _ => servePlan platform false db plan fault
  | .finished plan => (db, plan.answer)
  | .answered response => (db, response)
  | .reading _ => (db, internalServerError)

/-- A request that no other request interrupts, and its answer. -/
def serve (transactional : Bool) (db : Database) (request : Request) (env : Env)
    (fault : Option Fault) : Database × Response :=
  if fault = some .readAgent then (db, internalServerError)
  else
    match startRequest db request env with
    | .reading reading =>
        if fault = some .readSession then (db, internalServerError)
        else serveDecided platform transactional db fault
          (decideSession platform reading db.session env)
    | call => serveDecided platform transactional db fault call

end

/-! ## An agent right after its registration -/

def exampleAccessToken : JsString := js "clw_agt_AAECAwQFBgcICQoLDA0ODxAREhMUFRYXGBkaGxwdHh8"
def exampleRefreshToken : JsString := js "clw_rft_QEFCQ0RFRkdISUpLTE1OT1BRUlNUVVZXWFlaW1xdXl8"
def exampleNewAccessToken : JsString := js "clw_agt_gIGCg4SFhoeIiYqLjI2Oj5CRkpOUlZaXmJmam5ydnp8"
def exampleNewRefreshToken : JsString := js "clw_rft_oKGio6SlpqeoqaqrrK2ur7CxsrO0tba3uLm6u7y9vr8"

/-- The SHA-256 digests of the tokens above. -/
def exampleDigests : List (JsString × JsString) :=
  [(exampleAccessToken, js "2b621fa729602e417de195ff877919e4d3fffd4ae7c18098c1dd899fac186fa5"),
    (exampleRefreshToken, js "bbf6f82153868c0ba1efdda8824feecc04247ab08457f22cbdf7244cb96d648b"),
    (exampleNewAccessToken, js "513b1d92f80700647029450ae06d4b2fecdffd77bf48d675f814f01b3bf11df4"),
    (exampleNewRefreshToken, js "bd1ebe0aa4a2547c623cf45e08ae0fa40165032fb40faa45736f9a42cda90dd4")]

def examplePlatform : Platform where
  hashAgentToken token := (exampleDigests.lookup token).getD token
  toIso ms := if ms = 1700000000000 then js "2023-11-14T22:13:20.000Z"
    else js "2023-11-14T22:15:00.000Z"

def exampleSession : SessionRow where
  id := js "01HF7YAT00W6W7CM7N3W5FDXT8"
  refreshKeyHash := examplePlatform.hashAgentToken exampleRefreshToken
  refreshKeyPrefix := deriveRefreshTokenLookupPrefix exampleRefreshToken
  refreshIssuedAt := 1700000000000
  refreshExpiresAt := 1702592000000
  refreshLastUsedAt := none
  accessKeyHash := examplePlatform.hashAgentToken exampleAccessToken
  accessKeyPrefix := deriveAccessTokenLookupPrefix exampleAccessToken
  accessIssuedAt := 1700000000000
  accessExpiresAt := 1700000900000
  accessLastUsedAt := none
  status := .active
  revokedAt := none
  createdAt := 1700000000000
  updatedAt := 1700000000000

def exampleDatabase : Database where
  agent :=
    { id := js "01HF7YAT00W6W7CM7N3W5FDXT4"
      did := js "did:cdi:registry.example.com:agent:01HF7YAT00W6W7CM7N3W5FDXT4"
      name := js "kai"
      framework := none
      publicKey := js "AAECAwQFBgcICQoLDA0ODxAREhMUFRYXGBkaGxwdHh8"
      status := .active
      expiresAt := none
      currentJti := some (js "01HF7YAT00W6W7CM7N3W5FDXT5")
      updatedAt := 1700000000000 }
  revocations := []
  session := some exampleSession
  events := []

def exampleHumanDid : JsString :=
  js "did:cdi:registry.example.com:human:01HF7YAT00W6W7CM7N3W5FDXT6"

def exampleEnv : Env where
  nowMs := 1700000100000
  accessToken := exampleNewAccessToken
  refreshToken := exampleNewRefreshToken

end Clawdentity.AgentAuth
