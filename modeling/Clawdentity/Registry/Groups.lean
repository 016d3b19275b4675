import Clawdentity.Lib.Delegation
import Clawdentity.Lib.Interleave
import Clawdentity.Lib.Rows
import Clawdentity.Protocol.Identifiers
import Clawdentity.Registry.GroupJoin
import Clawdentity.Wire.IssuerAgreement

/-!
# The groups of the registry

The routes of all groups, under any interleaving, cut at each of their statements; any of them may
fail, in which case it changes nothing. A request comes with the human of its API key, or with the
claims of its agent token; the row of the agent is read by the routes themselves. The routes that
write the agents are there as single statements.

The hash of the join tokens is a parameter, and the generated values come with the move. Next to the
tables stands the history of what has happened, the newest entry first.

## Main definitions

* `Database` — the tables, with their keys.
* `resolveReadableGroupForHuman` and the like — who may do what with a group.
* `Call` — a request before its next statement.
* `program` — the code of the routes.
-/

namespace Clawdentity.Groups

open Js Lib Lib.Interleave Protocol
open AgentAuth (AppError)
open GroupJoin (GroupJoinRole GroupMemberRow GroupJoinTokenRow GroupJoinTokenIssuePayload
  MAX_GROUP_MEMBERS deriveGroupJoinTokenLookupPrefix groupJoinTokenInvalidError
  groupJoinTokenExpiredError groupJoinTokenExhaustedError groupMemberLimitReachedError
  internalServerError parseGroupJoinPayload parseGroupJoinTokenIssuePayload)
open Lib.Delegation (Right Who)
open Wire.IssuerAgreement (Environment)

/-! ## The tables -/

structure AgentRow where
  id : JsString
  did : JsString
  name : JsString
  ownerId : JsString
  active : Bool
  currentJti : Option JsString

structure GroupRow where
  id : JsString
  name : JsString
  createdBy : JsString
  createdAt : ℕ

/-- A row of `group_members`. -/
structure MemberRow extends GroupMemberRow where
  groupId : JsString

/-- A row of `group_join_tokens`. -/
structure TokenRow extends GroupJoinTokenRow where
  groupId : JsString
  issuedBy : JsString
  createdAt : ℕ

/-- The primary key. -/
def MemberRow.key (row : MemberRow) : JsString × JsString := (row.groupId, row.agentId)

structure Database where
  agents : List AgentRow
  groups : List GroupRow
  members : List MemberRow
  tokens : List TokenRow

def Database.empty : Database := ⟨[], [], [], []⟩

def Database.agent? (db : Database) (id : JsString) : Option AgentRow :=
  db.agents.find? fun agent => agent.id = id

def Database.agentByDid? (db : Database) (did : JsString) : Option AgentRow :=
  db.agents.find? fun agent => agent.did = did

def Database.group? (db : Database) (id : JsString) : Option GroupRow :=
  db.groups.find? fun group => group.id = id

def Database.member? (db : Database) (groupId agentId : JsString) : Option MemberRow :=
  db.members.find? fun row => row.key = (groupId, agentId)

/-- The tables, and what has happened to them. -/
structure Shared where
  db : Database
  history : List (Delegation.Event JsString GroupJoinRole)

def Shared.record (s : Shared) (e : Delegation.Event JsString GroupJoinRole) : Shared :=
  { s with history := e :: s.history }

def Shared.write (s : Shared) (db : Database) (e : Delegation.Event JsString GroupJoinRole) :
    Shared :=
  ⟨db, e :: s.history⟩

def initial : Shared := ⟨.empty, []⟩

/-! ## Errors -/

def groupNotFoundError : AppError := ⟨404, "GROUP_NOT_FOUND", "Group was not found"⟩

def groupManageForbiddenError : AppError :=
  ⟨403, "GROUP_MANAGE_FORBIDDEN", "Group management access is forbidden"⟩

def groupReadForbiddenError : AppError :=
  ⟨403, "GROUP_READ_FORBIDDEN", "Group read access is forbidden"⟩

def groupMemberNotFoundError : AppError := ⟨404, "GROUP_MEMBER_NOT_FOUND", "Agent was not found"⟩

def groupCreateInvalidError : AppError :=
  ⟨400, "GROUP_CREATE_INVALID", "Group create payload is invalid"⟩

def groupJoinTokenIssueInvalidError : AppError :=
  ⟨400, "GROUP_JOIN_TOKEN_ISSUE_INVALID", "Group join token payload is invalid"⟩

def groupJoinInvalidError : AppError :=
  ⟨400, "GROUP_JOIN_INVALID", "Group join payload is invalid"⟩

def groupMemberInvalidPathError : AppError :=
  ⟨400, "GROUP_MEMBER_INVALID_PATH", "Group member path is invalid"⟩

def groupMembershipInvalidError : AppError :=
  ⟨400, "GROUP_MEMBERSHIP_INVALID", "Group membership payload is invalid"⟩

def agentUnauthorizedError : AppError :=
  ⟨401, "AGENT_AUTH_VALIDATE_UNAUTHORIZED", "Agent access token is invalid"⟩

/-- The agent of a reissue is not active, or has another token by now. -/
def agentReissueInvalidStateError : AppError :=
  ⟨409, "AGENT_REISSUE_INVALID_STATE", "Agent cannot be reissued"⟩

/-- The error outside production, and the one in production, which says nothing. -/
def verboseError (environment : Environment) (error : AppError) : AppError :=
  if environment = .production then
    { error with message := "Request could not be processed" }
  else error

/-! ## Paths and bodies -/

def parseGroupIdPath (environment : Environment) (id : JsString) : Except AppError JsString :=
  match parseGroupId (trim id) with
  | some groupId => .ok groupId
  | none =>
      .error (verboseError environment ⟨400, "GROUP_INVALID_PATH", "Group path is invalid"⟩)

def MAX_GROUP_NAME_LENGTH : ℕ := 80

def hasControlChars (value : JsString) : Bool :=
  value.any fun u => u.toNat ≤ 31 || u.toNat = 127

/-- The name, or the errors by field. -/
def parseGroupCreatePayload (payload : Value) : Except (List (String × String)) JsString :=
  match payload with
  | .obj fields =>
      let body : Value := .obj fields
      let name := ((body.get? (js "name")).bind Json.str?).elim [] trim
      if name.isEmpty then .error [("name", "name is required")]
      else if MAX_GROUP_NAME_LENGTH < name.length then
        .error [("name", "name must be at most 80 characters")]
      else if hasControlChars name then .error [("name", "name contains control characters")]
      else .ok name
  | _ => .error [("body", "body must be a JSON object")]

/-- The group and the agent that a membership check is about. -/
def parseMembershipCheck (environment : Environment) (payload : Option Value) :
    Except AppError (JsString × JsString) :=
  match payload with
  | some (.obj fields) =>
      let body : Value := .obj fields
      match (body.get? (js "groupId")).bind Json.str?,
        (body.get? (js "memberAgentDid")).bind Json.str? with
      | some id, some did =>
          match parseGroupIdPath environment id with
          | .error error => .error error
          | .ok groupId =>
              if isAgentDid (trim did) then .ok (groupId, trim did)
              else .error groupMembershipInvalidError
      | _, _ => .error groupMembershipInvalidError
  | _ => .error groupMembershipInvalidError

/-! ## Requests -/

/-- What a request is authenticated with: the human of its API key, or the claims of its token. -/
inductive Credential
  | human (humanId : JsString)
  | agent (sub jti : JsString)

inductive GroupRouteAuthActor
  | human (humanId : JsString)
  | agent (humanId agentId agentDid : JsString)

def GroupRouteAuthActor.humanId : GroupRouteAuthActor → JsString
  | .human humanId | .agent humanId _ _ => humanId

def GroupRouteAuthActor.who : GroupRouteAuthActor → Who JsString
  | .human humanId => .person humanId
  | .agent humanId agentId _ => .agent agentId humanId

/-- What is to be done with a group. A body is `none` where it is no JSON text. -/
inductive Goal
  | issueToken (body : Option Value)
  | listMembers
  | readGroup
  | removeMember (targetAgentDid : JsString)
  | deleteGroup

/-- The right that a route asks for. -/
def Goal.right : Goal → Right
  | .listMembers | .readGroup => .read
  | .issueToken _ | .removeMember _ | .deleteGroup => .manage

/-- What comes behind the authentication. -/
inductive Pending
  | create (body : Option Value)
  | group (groupId : JsString) (goal : Goal)

/-- The statements of other routes on the table of the agents. -/
inductive AgentWrite
  | register (id did name ownerId jti : JsString)
  /-- The rollback of a registration. -/
  | withdraw (id : JsString)
  | reissue (id currentJti jti : JsString)
  | revoke (id : JsString)

inductive Input
  | createGroup (credential : Credential) (body : Option Value)
  | issueToken (credential : Credential) (id : JsString) (body : Option Value)
  | join (sub jti : JsString) (body : Option Value)
  | listMembers (credential : Credential) (id : JsString)
  | removeMember (humanId id agentDid : JsString)
  | deleteGroup (humanId id : JsString)
  | checkMembership (body : Option Value)
  | readGroup (credential : Credential) (id : JsString)
  | agents (write : AgentWrite)

/-- What the environment decides for a move: the clock, whether the statement fails, whether the
database has transactions, and the generated values. -/
structure Env where
  nowMs : ℕ
  fails : Bool
  transactional : Bool
  ulid : JsString
  token : JsString

/-- A join at its mutation, with the rows that it has read. -/
structure Join where
  agent : AgentRow
  token : TokenRow
  group : GroupRow
  joinedAt : ℕ

inductive Response
  | error (error : AppError) (fieldErrors : List (String × String))
  | created (actor : GroupRouteAuthActor) (row : GroupRow)
  | issued (actor : GroupRouteAuthActor) (row : TokenRow) (token : JsString)
  /-- 200, of an agent that is a member already. -/
  | alreadyMember (agent : AgentRow) (groupId : JsString) (role : GroupJoinRole) (joinedAt : ℕ)
  /-- 201, with the agents that are notified. -/
  | joined (join : Join) (recipients : List JsString)
  | members (actor : GroupRouteAuthActor) (groupId : JsString)
      (rows : List (JsString × GroupJoinRole × ℕ))
  | removed (actor : GroupRouteAuthActor) (groupId agentId : JsString)
  | deleted (actor : GroupRouteAuthActor) (groupId : JsString)
  | membership (groupId agentDid : JsString) (isMember : Bool)
  | group (actor : GroupRouteAuthActor) (id name : JsString)
  /-- Another route goes on. -/
  | written

/-- The statements of `applyJoinMutation`. -/
inductive JoinPhase
  /-- The transaction has not been tried. -/
  | transaction
  | insert
  | resolve
  | update
  | rollBack (error : AppError)

/-- The statements of `applyGroupDeleteMutation`. -/
inductive DeletePhase
  | transaction
  | tokens
  | members
  | group

/-- A request before its next statement. -/
inductive Call
  | resolvingActor (credential : Credential) (pending : Pending)
  | creatingGroup (actor : GroupRouteAuthActor) (row : GroupRow)
  | readingGroup (actor : GroupRouteAuthActor) (groupId : JsString) (goal : Goal)
  | readingMembership (actor : GroupRouteAuthActor) (group : GroupRow) (goal : Goal)
  | insertingToken (actor : GroupRouteAuthActor) (row : TokenRow) (token : JsString)
  | listingMembers (actor : GroupRouteAuthActor) (groupId : JsString)
  | findingTarget (actor : GroupRouteAuthActor) (groupId agentDid : JsString)
  | removingMember (actor : GroupRouteAuthActor) (groupId agentId : JsString)
  | deletingGroup (actor : GroupRouteAuthActor) (groupId : JsString) (phase : DeletePhase)
  | resolvingJoiner (sub jti groupJoinToken : JsString)
  | findingToken (agent : AgentRow) (groupJoinToken tokenPrefix : JsString)
  | findingGroup (agent : AgentRow) (token : TokenRow)
  | findingMember (agent : AgentRow) (token : TokenRow) (group : GroupRow)
  | joining (join : Join) (phase : JoinPhase)
  | notifying (join : Join)
  | checkingMembership (groupId agentDid : JsString)
  | writingAgent (write : AgentWrite)
  | answered (response : Response)

def failWith (error : AppError) : Call := .answered (.error error [])

/-- The error of a payload, which names its fields outside production. -/
def invalidPayload (environment : Environment) (error : AppError)
    (fieldErrors : List (String × String)) : Call :=
  .answered (.error (verboseError environment error)
    (if environment = .production then [] else fieldErrors))

/-! ## Who may do what -/

def assertAgentIsActiveCurrent (db : Database) (agentDid aitJti : JsString) :
    Except AppError AgentRow :=
  match (db.agentByDid? agentDid).filter fun row => row.active && row.currentJti = some aitJti with
  | some row => .ok row
  | none => .error agentUnauthorizedError

def Right.admits : Right → GroupJoinRole → Bool
  | .read, _ => true
  | .manage, role => role = .admin

/-- A membership of an active agent of the human. -/
def membershipOfHuman (right : Right) (db : Database) (groupId humanId : JsString) :
    Option MemberRow :=
  db.members.find? fun row => row.groupId = groupId && Right.admits right row.role &&
    (db.agent? row.agentId).any fun agent => agent.ownerId = humanId && agent.active

/-- The membership of the agent, whose row is not read again. -/
def membershipOfAgent (right : Right) (db : Database) (groupId agentId : JsString) :
    Option MemberRow :=
  db.members.find? fun row => row.groupId = groupId && row.agentId = agentId &&
    Right.admits right row.role

/-- The second statement of the source's function; the first one reads the group. -/
def resolveReadableGroupForHuman : Database → JsString → JsString → Option MemberRow :=
  membershipOfHuman .read

def resolveManageableGroupForHuman : Database → JsString → JsString → Option MemberRow :=
  membershipOfHuman .manage

def resolveReadableGroupForAgent : Database → JsString → JsString → Option MemberRow :=
  membershipOfAgent .read

def resolveManageableGroupForAgent : Database → JsString → JsString → Option MemberRow :=
  membershipOfAgent .manage

def resolveReadableGroupForActor (db : Database) (groupId : JsString) :
    GroupRouteAuthActor → Option MemberRow
  | .human humanId => resolveReadableGroupForHuman db groupId humanId
  | .agent _ agentId _ => resolveReadableGroupForAgent db groupId agentId

def resolveManageableGroupForActor (db : Database) (groupId : JsString) :
    GroupRouteAuthActor → Option MemberRow
  | .human humanId => resolveManageableGroupForHuman db groupId humanId
  | .agent _ agentId _ => resolveManageableGroupForAgent db groupId agentId

def resolveGroupForActor : Right → Database → JsString → GroupRouteAuthActor → Option MemberRow
  | .read => resolveReadableGroupForActor
  | .manage => resolveManageableGroupForActor

def forbiddenError : Right → AppError
  | .read => groupReadForbiddenError
  | .manage => groupManageForbiddenError

/-! ## Statements -/

/-- `insert(agents)`: the id and the DID are unique. -/
def insertAgent (db : Database) (row : AgentRow) : Option Database :=
  if (db.agent? row.id).isNone ∧ (db.agentByDid? row.did).isNone then
    some { db with agents := db.agents ++ [row] }
  else none

/-- A member's agent is not deleted. -/
def deleteAgent (db : Database) (id : JsString) : Option Database :=
  if db.members.any fun row => row.agentId = id then none
  else some { db with agents := db.agents.filter fun agent => agent.id ≠ id }

def AgentRow.reissued (jti : JsString) (row : AgentRow) : AgentRow :=
  { row with currentJti := some jti }

def AgentRow.revoked (row : AgentRow) : AgentRow := { row with active := false }

def updateAgent (db : Database) (id : JsString) (f : AgentRow → AgentRow) : Database :=
  { db with agents := db.agents.map fun row => if row.id = id then f row else row }

/-- `insert(groups)`. -/
def insertGroup (db : Database) (row : GroupRow) : Option Database :=
  if (db.group? row.id).isSome then none else some { db with groups := db.groups ++ [row] }

/-- `insert(group_join_tokens)`: the id and the hash are unique, and the group is there. -/
def insertToken (db : Database) (row : TokenRow) : Option Database :=
  if (db.group? row.groupId).isNone ∨
      db.tokens.any (fun other => other.id = row.id || other.tokenHash = row.tokenHash) then none
  else some { db with tokens := db.tokens ++ [row] }

def Join.member (join : Join) : MemberRow where
  agentId := join.agent.id
  role := join.token.role
  joinedAt := join.joinedAt
  updatedAt := join.joinedAt
  groupId := join.token.groupId

/-- The conditions of `insert into group_members … where …`. -/
def Database.admits (db : Database) (join : Join) : Bool :=
  db.members.countP (fun row => row.groupId = join.token.groupId) < MAX_GROUP_MEMBERS &&
    (db.member? join.token.groupId join.agent.id).isNone

/-- The foreign keys of the row. -/
def Database.knows (db : Database) (join : Join) : Bool :=
  (db.group? join.token.groupId).isSome && (db.agent? join.agent.id).isSome

def insertMember (db : Database) (join : Join) : Database :=
  { db with members := db.members ++ [join.member] }

def deleteMember (db : Database) (groupId agentId : JsString) : Database :=
  { db with members := db.members.filter fun row => row.key ≠ (groupId, agentId) }

/-- The `where` clause of the update of `used_count`. -/
def Join.matchesToken (join : Join) (row : TokenRow) : Bool :=
  row.id = join.token.id && row.usedCount < row.maxUses && row.revokedAt.isNone

def Join.useRow (join : Join) (row : TokenRow) : TokenRow :=
  if join.matchesToken row then
    { row with usedCount := row.usedCount + 1, updatedAt := join.joinedAt }
  else row

/-- `none` where no row was updated. -/
def useToken (db : Database) (join : Join) : Option Database :=
  if db.tokens.any join.matchesToken then some { db with tokens := db.tokens.map join.useRow }
  else none

def deleteTokensOf (db : Database) (groupId : JsString) : Database :=
  { db with tokens := db.tokens.filter fun row => row.groupId ≠ groupId }

def deleteMembersOf (db : Database) (groupId : JsString) : Database :=
  { db with members := db.members.filter fun row => row.groupId ≠ groupId }

/-- A group that has members or tokens is not deleted. -/
def deleteGroup (db : Database) (groupId : JsString) : Option Database :=
  if db.members.any (fun row => row.groupId = groupId) ||
      db.tokens.any (fun row => row.groupId = groupId) then none
  else some { db with groups := db.groups.filter fun group => group.id ≠ groupId }

/-- The members of a group whose agents are active. -/
def Database.activeMembers (db : Database) (groupId : JsString) :
    List (JsString × GroupJoinRole × ℕ) :=
  db.members.filterMap fun row =>
    if row.groupId = groupId then
      ((db.agent? row.agentId).filter AgentRow.active).map fun agent =>
        (agent.did, row.role, row.joinedAt)
    else none

def Database.isMember (db : Database) (groupId agentDid : JsString) : Bool :=
  db.members.any fun row => row.groupId = groupId &&
    (db.agent? row.agentId).any fun agent => agent.did = agentDid && agent.active

/-- The agents of the creator that are told of a new member. -/
def Database.recipients (db : Database) (join : Join) : List JsString :=
  (((db.agents.filter fun agent => agent.ownerId = join.group.createdBy && agent.active).take
    100).map AgentRow.did).filter fun did => did ≠ join.agent.did

/-! ## The code between the statements -/

/-- The code behind the authentication of a `POST` of a group. -/
def startCreate (environment : Environment) (env : Env) (actor : GroupRouteAuthActor)
    (body : Option Value) : Call :=
  match body with
  | none => failWith groupCreateInvalidError
  | some payload =>
      match parseGroupCreatePayload payload with
      | .error fieldErrors => invalidPayload environment groupCreateInvalidError fieldErrors
      | .ok name =>
          .creatingGroup actor
            { id := js "grp_" ++ env.ulid, name, createdBy := actor.humanId, createdAt := env.nowMs }

def afterActor (environment : Environment) (env : Env) (actor : GroupRouteAuthActor) :
    Pending → Call
  | .create body => startCreate environment env actor body
  | .group groupId goal => .readingGroup actor groupId goal

section
variable (hashGroupJoinToken : JsString → JsString) (environment : Environment)

def issuedRow (env : Env) (actor : GroupRouteAuthActor) (groupId : JsString)
    (payload : GroupJoinTokenIssuePayload) (tokenPrefix : JsString) : TokenRow where
  toGroupJoinTokenRow :=
    GroupJoin.issuedRow hashGroupJoinToken payload ⟨env.ulid, env.token, env.nowMs⟩ tokenPrefix
  groupId := groupId
  issuedBy := actor.humanId
  createdAt := env.nowMs

def startIssue (env : Env) (actor : GroupRouteAuthActor) (groupId : JsString)
    (body : Option Value) : Call :=
  match body with
  | none => failWith groupJoinTokenIssueInvalidError
  | some payload =>
      match parseGroupJoinTokenIssuePayload payload env.nowMs with
      | .error fieldErrors => invalidPayload environment groupJoinTokenIssueInvalidError fieldErrors
      | .ok payload =>
          match deriveGroupJoinTokenLookupPrefix env.token with
          | none => failWith groupJoinTokenInvalidError
          | some tokenPrefix =>
              .insertingToken actor
                (issuedRow hashGroupJoinToken env actor groupId payload tokenPrefix) env.token

/-- The code behind the resolution of the group. -/
def afterGrant (env : Env) (actor : GroupRouteAuthActor) (group : GroupRow) : Goal → Call
  | .issueToken body => startIssue hashGroupJoinToken environment env actor group.id body
  | .listMembers => .listingMembers actor group.id
  | .readGroup => .answered (.group actor group.id group.name)
  | .removeMember targetAgentDid => .findingTarget actor group.id targetAgentDid
  | .deleteGroup => .deletingGroup actor group.id .transaction

/-- The right was found to rest on the creation of the group, or on a membership. -/
def grantRight (s : Shared) (env : Env) (actor : GroupRouteAuthActor) (group : GroupRow)
    (goal : Goal) (evidence : Option JsString) : Shared × Call :=
  (s.record (.grant goal.right group.id actor.who evidence),
    afterGrant hashGroupJoinToken environment env actor group goal)

/-- After the group was read. -/
def decideGroup (s : Shared) (env : Env) (actor : GroupRouteAuthActor) (groupId : JsString)
    (goal : Goal) : Shared × Call :=
  match s.db.group? groupId with
  | none => (s, failWith groupNotFoundError)
  | some group =>
      if group.createdBy = actor.humanId then
        grantRight hashGroupJoinToken environment s env actor group goal none
      else (s, .readingMembership actor group goal)

/-- After the membership was read. -/
def decideMembership (s : Shared) (env : Env) (actor : GroupRouteAuthActor) (group : GroupRow)
    (goal : Goal) : Shared × Call :=
  match resolveGroupForActor goal.right s.db group.id actor with
  | none => (s, failWith (forbiddenError goal.right))
  | some row => grantRight hashGroupJoinToken environment s env actor group goal (some row.agentId)

/-- After the agent of a token was read, it stands for its owner. -/
def authenticateAgent (s : Shared) (sub jti : JsString) (next : AgentRow → Call) : Shared × Call :=
  match assertAgentIsActiveCurrent s.db sub jti with
  | .error error => (s, failWith error)
  | .ok agent => (s.record (.authenticate agent.id agent.ownerId jti), next agent)

def resolveGroupRouteAuthActor (s : Shared) (env : Env) (credential : Credential)
    (pending : Pending) : Shared × Call :=
  match credential with
  | .human humanId => (s, afterActor environment env (.human humanId) pending)
  | .agent sub jti => authenticateAgent s sub jti fun agent =>
      afterActor environment env (.agent agent.ownerId agent.id agent.did) pending

/-- The code of a join behind its authentication. -/
def afterJoiner (groupJoinToken : JsString) (agent : AgentRow) : Call :=
  match deriveGroupJoinTokenLookupPrefix groupJoinToken with
  | none => failWith groupJoinTokenInvalidError
  | some tokenPrefix => .findingToken agent groupJoinToken tokenPrefix

/-- The code after the tokens with the prefix were read. -/
def decideToken (db : Database) (env : Env) (agent : AgentRow)
    (groupJoinToken tokenPrefix : JsString) : Call :=
  let candidateTokens := db.tokens.filter fun row => row.tokenPrefix = tokenPrefix
  match candidateTokens.find? fun row =>
    row.tokenHash = hashGroupJoinToken (trim groupJoinToken) with
  | none => failWith groupJoinTokenInvalidError
  | some token =>
      if token.revokedAt.isSome then failWith groupJoinTokenInvalidError
      else if token.expiresAt ≤ env.nowMs then failWith groupJoinTokenExpiredError
      else if token.maxUses ≤ token.usedCount then failWith groupJoinTokenExhaustedError
      else .findingGroup agent token

def decideJoinGroup (db : Database) (agent : AgentRow) (token : TokenRow) : Call :=
  match db.group? token.groupId with
  | none => failWith groupJoinTokenInvalidError
  | some group => .findingMember agent token group

def decideMember (db : Database) (env : Env) (agent : AgentRow) (token : TokenRow)
    (group : GroupRow) : Call :=
  match db.member? token.groupId agent.id with
  | some row => .answered (.alreadyMember agent token.groupId row.role row.joinedAt)
  | none => .joining ⟨agent, token, group, env.nowMs⟩ .transaction

/-- The code where no row was inserted, after the member was read again. -/
def resolveJoin (db : Database) (join : Join) : Call :=
  match db.member? join.token.groupId join.agent.id with
  | some row => .answered (.alreadyMember join.agent join.token.groupId row.role row.joinedAt)
  | none => failWith groupMemberLimitReachedError

def Join.admission (join : Join) : Delegation.Event JsString GroupJoinRole :=
  .enter join.token.groupId join.agent.id join.token.role join.token.id

/-- `applyJoinMutation` in a transaction; one that throws is rolled back. -/
def applyJoinMutation (s : Shared) (join : Join) : Shared × Call :=
  if s.db.admits join then
    if s.db.knows join then
      match useToken (insertMember s.db join) join with
      | none => (s, failWith groupJoinTokenExhaustedError)
      | some db => (s.write db join.admission, .notifying join)
    else (s, failWith internalServerError)
  else (s, resolveJoin s.db join)

/-- One statement of `applyJoinMutation`, where the database has no transactions. -/
def joinStatement (s : Shared) (env : Env) (join : Join) : JoinPhase → Shared × Call
  | .transaction =>
      if env.transactional then applyJoinMutation s join else (s, .joining join .insert)
  | .insert =>
      if s.db.admits join then
        if s.db.knows join then
          (s.write (insertMember s.db join) join.admission, .joining join .update)
        else (s, failWith internalServerError)
      else (s, .joining join .resolve)
  | .resolve => (s, resolveJoin s.db join)
  | .update =>
      match useToken s.db join with
      | none => (s, .joining join (.rollBack groupJoinTokenExhaustedError))
      | some db => ({ s with db }, .notifying join)
  | .rollBack error =>
      (s.write (deleteMember s.db join.token.groupId join.agent.id)
        (.undo join.token.groupId join.agent.id), failWith error)

/-- The last statement of a deletion. -/
def dissolve (s : Shared) (actor : GroupRouteAuthActor) (groupId : JsString) : Shared × Call :=
  match deleteGroup s.db groupId with
  | none => (s, failWith internalServerError)
  | some db => (s.write db (.dissolve groupId actor.who), .answered (.deleted actor groupId))

def disband (s : Shared) (actor : GroupRouteAuthActor) (groupId : JsString) : Shared :=
  s.write (deleteMembersOf s.db groupId) (.disband groupId actor.who)

/-- One statement of `applyGroupDeleteMutation`, or all of it in a transaction. -/
def deleteStatement (s : Shared) (env : Env) (actor : GroupRouteAuthActor) (groupId : JsString) :
    DeletePhase → Shared × Call
  | .transaction =>
      if env.transactional then
        dissolve (disband { s with db := deleteTokensOf s.db groupId } actor groupId) actor groupId
      else (s, .deletingGroup actor groupId .tokens)
  | .tokens => ({ s with db := deleteTokensOf s.db groupId }, .deletingGroup actor groupId .members)
  | .members => (disband s actor groupId, .deletingGroup actor groupId .group)
  | .group => dissolve s actor groupId

def writeAgent (s : Shared) : AgentWrite → Shared × Call
  | .register id did name ownerId jti =>
      match insertAgent s.db ⟨id, did, name, ownerId, true, some jti⟩ with
      | none => (s, failWith internalServerError)
      | some db => (s.write db (.enrol id ownerId did jti), .answered .written)
  | .withdraw id =>
      match deleteAgent s.db id with
      | none => (s, failWith internalServerError)
      | some db => (s.write db (.withdraw id), .answered .written)
  | .reissue id currentJti jti =>
      if (s.db.agent? id).any fun row => row.active && row.currentJti = some currentJti then
        (s.write (updateAgent s.db id (AgentRow.reissued jti)) (.renew id jti), .answered .written)
      else (s, failWith agentReissueInvalidStateError)
  | .revoke id =>
      (s.write (updateAgent s.db id AgentRow.revoked) (.retire id), .answered .written)

/-- The next statement of a request, where it does not fail. -/
def runStatement (s : Shared) (env : Env) : Call → Option (Shared × Call)
  | .resolvingActor credential pending =>
      some (resolveGroupRouteAuthActor environment s env credential pending)
  | .creatingGroup actor row =>
      some (match insertGroup s.db row with
        | none => (s, failWith internalServerError)
        | some db => (s.write db (.found row.id actor.who), .answered (.created actor row)))
  | .readingGroup actor groupId goal =>
      some (decideGroup hashGroupJoinToken environment s env actor groupId goal)
  | .readingMembership actor group goal =>
      some (decideMembership hashGroupJoinToken environment s env actor group goal)
  | .insertingToken actor row token =>
      some (match insertToken s.db row with
        | none => (s, failWith internalServerError)
        | some db =>
            (s.write db (.invite row.id row.groupId row.role actor.who),
              .answered (.issued actor row token)))
  | .listingMembers actor groupId =>
      let rows := s.db.activeMembers groupId
      some (s.record (.list groupId actor.who (rows.map fun row => (row.1, row.2.1))),
        .answered (.members actor groupId rows))
  | .findingTarget actor groupId agentDid =>
      some (s, match s.db.agentByDid? agentDid with
        | none => failWith groupMemberNotFoundError
        | some agent => .removingMember actor groupId agent.id)
  | .removingMember actor groupId agentId =>
      some (s.write (deleteMember s.db groupId agentId) (.expel groupId agentId actor.who),
        .answered (.removed actor groupId agentId))
  | .deletingGroup actor groupId phase => some (deleteStatement s env actor groupId phase)
  | .resolvingJoiner sub jti groupJoinToken =>
      some (authenticateAgent s sub jti (afterJoiner groupJoinToken))
  | .findingToken agent groupJoinToken tokenPrefix =>
      some (s, decideToken hashGroupJoinToken s.db env agent groupJoinToken tokenPrefix)
  | .findingGroup agent token => some (s, decideJoinGroup s.db agent token)
  | .findingMember agent token group => some (s, decideMember s.db env agent token group)
  | .joining join phase => some (joinStatement s env join phase)
  | .notifying join => some (s, .answered (.joined join (s.db.recipients join)))
  | .checkingMembership groupId agentDid =>
      let isMember := s.db.isMember groupId agentDid
      some (s.record (.attest groupId agentDid isMember),
        .answered (.membership groupId agentDid isMember))
  | .writingAgent write => some (writeAgent s write)
  | .answered _ => none

/-- A request whose next statement fails. -/
def failStatement : Call → Option Call
  | .answered _ => none
  -- the catch around the update rolls the insertion back
  | .joining join .update => some (.joining join (.rollBack internalServerError))
  -- a notification that fails is logged
  | .notifying join => some (.answered (.joined join []))
  | _ => some (failWith internalServerError)

def proceed (s : Shared) (c : Call) (env : Env) : Option (Shared × Call) :=
  if env.fails then (failStatement c).map fun next => (s, next)
  else runStatement hashGroupJoinToken environment s env c

/-- The code of a route on a group, before its first statement. -/
def startGroup (id : JsString) (credential : Credential) (goal : Goal) : Call :=
  match parseGroupIdPath environment id with
  | .error error => failWith error
  | .ok groupId => .resolvingActor credential (.group groupId goal)

def startRemove (humanId id agentDid : JsString) : Call :=
  if isAgentDid (trim agentDid) then
    startGroup environment id (.human humanId) (.removeMember (trim agentDid))
  else
    match parseGroupIdPath environment id with
    | .error error => failWith error
    | .ok _ => failWith groupMemberInvalidPathError

def startJoin (sub jti : JsString) (body : Option Value) : Call :=
  match body with
  | none => failWith groupJoinInvalidError
  | some payload =>
      match parseGroupJoinPayload payload with
      | .error fieldErrors => invalidPayload environment groupJoinInvalidError fieldErrors
      | .ok groupJoinToken => .resolvingJoiner sub jti groupJoinToken

def startRequest : Input → Call
  | .createGroup credential body => .resolvingActor credential (.create body)
  | .issueToken credential id body => startGroup environment id credential (.issueToken body)
  | .join sub jti body => startJoin environment sub jti body
  | .listMembers credential id => startGroup environment id credential .listMembers
  | .removeMember humanId id agentDid => startRemove environment humanId id agentDid
  | .deleteGroup humanId id => startGroup environment id (.human humanId) .deleteGroup
  | .checkMembership body =>
      match parseMembershipCheck environment body with
      | .error error => failWith error
      | .ok (groupId, agentDid) => .checkingMembership groupId agentDid
  | .readGroup credential id => startGroup environment id credential .readGroup
  | .agents write => .writingAgent write

/-- The routes of the groups. -/
def program : Program Shared Call Input Env where
  start s input := some (s, startRequest environment input)
  resume := proceed hashGroupJoinToken environment

end

abbrev State := Pool Shared Call
abbrev Event := Move Input Env

end Clawdentity.Groups
