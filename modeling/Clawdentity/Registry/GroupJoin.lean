import Clawdentity.Registry.AgentAuth
import Clawdentity.Registry.StarterPass
import Mathlib.Data.List.Nodup

/-!
# Joins of a group

The members and the join tokens of one group, under any interleaving of join requests, member
removals and token issues. A request is cut at each of its statements, any of which may fail, in
which case it changes nothing. A join runs its mutation in a transaction, or statement by
statement where the database has none.

The hash of the tokens is a parameter, and ISO date texts are their epoch milliseconds. A join
starts after its agent has been checked, and the other two requests after they have been
authorised. The row of the group itself is left out.

## Main definitions

* `parseGroupJoinPayload`, `parseGroupJoinTokenIssuePayload` — the bodies of the requests.
* `program` — the code of the requests, cut between their statements.
* `group_join_limits_hold`.
-/

namespace Clawdentity.GroupJoin

open Js Lib Lib.Interleave Lib.Run
open AgentAuth (AppError)
open StarterPass (parseOptionalTrimmedString)

/-! ## The bodies of the requests -/

def GROUP_JOIN_TOKEN_MARKER : JsString := js "clw_gjt_"
def GROUP_JOIN_TOKEN_LOOKUP_ENTROPY_LENGTH : ℕ := 8
def DEFAULT_GROUP_JOIN_TOKEN_TTL_SECONDS : ℕ := 60 * 60
def MAX_GROUP_JOIN_TOKEN_TTL_SECONDS : ℕ := 30 * 24 * 60 * 60
def MAX_GROUP_JOIN_TOKEN_MAX_USES : ℕ := 25
def MAX_GROUP_MEMBERS : ℕ := 25

inductive GroupJoinRole
  | member
  | admin
  deriving DecidableEq

structure GroupJoinTokenIssuePayload where
  expiresAt : ℕ
  maxUses : ℕ
  role : GroupJoinRole
  deriving DecidableEq

/-- An integer of the body that may be missing. -/
def optionalInteger (value : Option Value) (field : String) (low high fallback : ℕ) :
    Except String ℕ :=
  match value with
  | none => .ok fallback
  | some (.num n) =>
      if n.den ≠ 1 then .error (field ++ " must be an integer")
      else if n < low ∨ high < n then
        .error (field ++ " must be between " ++ toString low ++ " and " ++ toString high)
      else .ok n.num.toNat
  | some _ => .error (field ++ " must be an integer")

def optionalRole (value : Option Value) : Except String GroupJoinRole :=
  match value with
  | none => .ok .member
  | some role =>
      if role = .str (js "member") then .ok .member
      else if role = .str (js "admin") then .ok .admin
      else .error "role must be one of: member, admin"

/-- The payload, or the errors by field. -/
def parseGroupJoinTokenIssuePayload (payload : Value) (nowMs : ℕ) :
    Except (List (String × String)) GroupJoinTokenIssuePayload :=
  match payload with
  | .obj fields =>
      let body : Value := .obj fields
      let expiresInSeconds := optionalInteger (body.get? (js "expiresInSeconds"))
        "expiresInSeconds" 60 MAX_GROUP_JOIN_TOKEN_TTL_SECONDS DEFAULT_GROUP_JOIN_TOKEN_TTL_SECONDS
      let maxUses := optionalInteger (body.get? (js "maxUses")) "maxUses" 1
        MAX_GROUP_JOIN_TOKEN_MAX_USES 1
      let role := optionalRole (body.get? (js "role"))
      match expiresInSeconds, maxUses, role with
      | .ok seconds, .ok maxUses, .ok role =>
          .ok { expiresAt := nowMs + seconds * 1000, maxUses, role }
      | _, _, _ =>
          .error ([("expiresInSeconds", errorOf expiresInSeconds), ("maxUses", errorOf maxUses),
            ("role", errorOf role)].filterMap fun f => f.2.map fun error => (f.1, error))
  | _ => .error [("body", "body must be a JSON object")]
where
  errorOf {α : Type} : Except String α → Option String
    | .ok _ => none
    | .error error => some error

/-- The token, or the errors by field. -/
def parseGroupJoinPayload (payload : Value) : Except (List (String × String)) JsString :=
  match payload with
  | .obj fields =>
      let body : Value := .obj fields
      match (parseOptionalTrimmedString (body.get? (js "groupJoinToken"))).filter fun token =>
        GROUP_JOIN_TOKEN_MARKER.isPrefixOf token with
      | some token => .ok token
      | none => .error [("groupJoinToken", "groupJoinToken is invalid")]
  | _ => .error [("body", "body must be a JSON object")]

/-- `none` where it throws. -/
def parseGroupJoinToken (token : JsString) : Option JsString :=
  let normalized := trim token
  if !GROUP_JOIN_TOKEN_MARKER.isPrefixOf normalized ||
      normalized.length ≤ GROUP_JOIN_TOKEN_MARKER.length then
    none
  else some normalized

/-- `none` where it throws. -/
def deriveGroupJoinTokenLookupPrefix (token : JsString) : Option JsString :=
  (parseGroupJoinToken token).bind fun normalized =>
    let entropyPrefix := (normalized.drop GROUP_JOIN_TOKEN_MARKER.length).take
      GROUP_JOIN_TOKEN_LOOKUP_ENTROPY_LENGTH
    if entropyPrefix.isEmpty then none else some (GROUP_JOIN_TOKEN_MARKER ++ entropyPrefix)

/-! ## The tables -/

/-- A row of the group in `group_members`. -/
structure GroupMemberRow where
  agentId : JsString
  role : GroupJoinRole
  joinedAt : ℕ
  updatedAt : ℕ
  deriving DecidableEq

/-- A row of the group in `group_join_tokens`. -/
structure GroupJoinTokenRow where
  id : JsString
  tokenHash : JsString
  tokenPrefix : JsString
  role : GroupJoinRole
  maxUses : ℕ
  usedCount : ℕ
  expiresAt : ℕ
  revokedAt : Option ℕ
  updatedAt : ℕ
  deriving DecidableEq

structure Database where
  members : List GroupMemberRow
  tokens : List GroupJoinTokenRow
  deriving DecidableEq

def Database.member? (db : Database) (agentId : JsString) : Option GroupMemberRow :=
  db.members.find? fun row => row.agentId = agentId

/-- The primary keys, the limit of members, and join tokens that nobody has used. -/
structure Database.Unused (db : Database) : Prop where
  members_le : db.members.length ≤ MAX_GROUP_MEMBERS
  agents_nodup : (db.members.map GroupMemberRow.agentId).Nodup
  tokens_nodup : (db.tokens.map GroupJoinTokenRow.id).Nodup
  unused : ∀ token ∈ db.tokens, token.usedCount = 0

/-! ## Requests -/

/-- The values that a token issue generates. -/
structure FreshToken where
  id : JsString
  token : JsString
  createdAt : ℕ
  deriving DecidableEq

inductive Request
  | join (body : Value) (agentId : JsString)
  | removeMember (agentId : JsString)
  | issueToken (body : Value) (nowMs : ℕ) (fresh : FreshToken)
  deriving DecidableEq

/-- What the environment decides for a move: the clock, whether the statement fails, and whether
the database has transactions. -/
structure Env where
  nowMs : ℕ
  fails : Bool
  transactional : Bool
  deriving DecidableEq

inductive Response
  /-- 200, of an agent that is a member already. -/
  | alreadyMember (role : GroupJoinRole) (joinedAt : ℕ)
  /-- 204. -/
  | removed
  /-- 201, with the new token. -/
  | issued (id token : JsString) (role : GroupJoinRole) (maxUses expiresAt createdAt : ℕ)
  /-- 400. -/
  | invalid (code : String) (fieldErrors : List (String × String))
  | error (error : AppError)
  deriving DecidableEq

def groupJoinTokenInvalidError : AppError :=
  ⟨400, "GROUP_JOIN_TOKEN_INVALID", "Group join token is invalid"⟩

def groupJoinTokenExpiredError : AppError :=
  ⟨400, "GROUP_JOIN_TOKEN_EXPIRED", "Group join token has expired"⟩

def groupJoinTokenExhaustedError : AppError :=
  ⟨409, "GROUP_JOIN_TOKEN_EXHAUSTED", "Group join token has already been used"⟩

def groupMemberLimitReachedError : AppError :=
  ⟨409, "GROUP_MEMBER_LIMIT_REACHED", "Group cannot have more than 25 members"⟩

/-- The answer to an error of the database. -/
def internalServerError : AppError :=
  ⟨500, "INTERNAL_SERVER_ERROR", "Internal Server Error"⟩

/-- A join at its mutation, with the token that it has read. -/
structure Join where
  agentId : JsString
  token : GroupJoinTokenRow
  joinedAt : ℕ
  deriving DecidableEq

/-- A request before its next statement. -/
inductive Call
  | finding (agentId groupJoinToken tokenPrefix : JsString)
  | reading (agentId : JsString) (token : GroupJoinTokenRow)
  /-- The transaction has not been tried. -/
  | ready (join : Join)
  | inserting (join : Join)
  /-- No row was inserted. -/
  | resolving (join : Join)
  | updating (join : Join)
  | rollingBack (join : Join) (error : AppError)
  | notifying (join : Join)
  /-- Answered 201, with the role of the token and the time. -/
  | joined (join : Join)
  | removing (agentId : JsString)
  | issuing (payload : GroupJoinTokenIssuePayload) (fresh : FreshToken) (tokenPrefix : JsString)
  | answered (response : Response)
  deriving DecidableEq

/-- The code of a join before its first statement. -/
def startJoin (body : Value) (agentId : JsString) : Call :=
  match parseGroupJoinPayload body with
  | .error fieldErrors => .answered (.invalid "GROUP_JOIN_INVALID" fieldErrors)
  | .ok groupJoinToken =>
      match deriveGroupJoinTokenLookupPrefix groupJoinToken with
      | none => .answered (.error groupJoinTokenInvalidError)
      | some tokenPrefix => .finding agentId groupJoinToken tokenPrefix

def startIssue (body : Value) (nowMs : ℕ) (fresh : FreshToken) : Call :=
  match parseGroupJoinTokenIssuePayload body nowMs with
  | .error fieldErrors => .answered (.invalid "GROUP_JOIN_TOKEN_ISSUE_INVALID" fieldErrors)
  | .ok payload =>
      match deriveGroupJoinTokenLookupPrefix fresh.token with
      | none => .answered (.error groupJoinTokenInvalidError)
      | some tokenPrefix => .issuing payload fresh tokenPrefix

def startRequest : Request → Call
  | .join body agentId => startJoin body agentId
  | .removeMember agentId => .removing agentId
  | .issueToken body nowMs fresh => startIssue body nowMs fresh

/-- The code after the tokens with the prefix were read. -/
def decideToken (hashGroupJoinToken : JsString → JsString) (db : Database)
    (agentId groupJoinToken tokenPrefix : JsString) (nowMs : ℕ) : Call :=
  let candidateTokens := db.tokens.filter fun row => row.tokenPrefix = tokenPrefix
  match candidateTokens.find? fun row =>
    row.tokenHash = hashGroupJoinToken (trim groupJoinToken) with
  | none => .answered (.error groupJoinTokenInvalidError)
  | some token =>
      if token.revokedAt.isSome then .answered (.error groupJoinTokenInvalidError)
      else if token.expiresAt ≤ nowMs then .answered (.error groupJoinTokenExpiredError)
      else if token.maxUses ≤ token.usedCount then .answered (.error groupJoinTokenExhaustedError)
      else .reading agentId token

/-- The code after the existing member was read. -/
def decideMember (db : Database) (agentId : JsString) (token : GroupJoinTokenRow) (nowMs : ℕ) :
    Call :=
  match db.member? agentId with
  | some row => .answered (.alreadyMember row.role row.joinedAt)
  | none => .ready { agentId, token, joinedAt := nowMs }

/-- `insert into group_members … where (select count(*) …) < 25 and not exists …`; `none`
where no row was inserted. -/
def insertMember (db : Database) (join : Join) : Option Database :=
  if db.members.length < MAX_GROUP_MEMBERS ∧ (db.member? join.agentId).isNone then
    some { db with members :=
      { agentId := join.agentId, role := join.token.role, joinedAt := join.joinedAt,
        updatedAt := join.joinedAt } :: db.members }
  else none

/-- The `where` clause of the update of `used_count`. -/
def Join.matchesToken (join : Join) (row : GroupJoinTokenRow) : Bool :=
  row.id = join.token.id && row.usedCount < row.maxUses && row.revokedAt.isNone

def Join.useRow (join : Join) (row : GroupJoinTokenRow) : GroupJoinTokenRow :=
  if join.matchesToken row then
    { row with usedCount := row.usedCount + 1, updatedAt := join.joinedAt }
  else row

/-- `none` where no row was updated. -/
def useToken (db : Database) (join : Join) : Option Database :=
  if db.tokens.any join.matchesToken then some { db with tokens := db.tokens.map join.useRow }
  else none

def removeMember (db : Database) (agentId : JsString) : Database :=
  { db with members := db.members.filter fun row => row.agentId ≠ agentId }

/-- The code where no row was inserted, after the member was read again. -/
def resolveJoin (db : Database) (join : Join) : Call :=
  match db.member? join.agentId with
  | some row => .answered (.alreadyMember row.role row.joinedAt)
  | none => .answered (.error groupMemberLimitReachedError)

/-- `applyJoinMutation` in a transaction; one that throws is rolled back. -/
def applyJoinMutation (db : Database) (join : Join) : Database × Call :=
  match insertMember db join with
  | none => (db, resolveJoin db join)
  | some inserted =>
      match useToken inserted join with
      | none => (db, .answered (.error groupJoinTokenExhaustedError))
      | some used => (used, .notifying join)

def issuedRow (hashGroupJoinToken : JsString → JsString) (payload : GroupJoinTokenIssuePayload)
    (fresh : FreshToken) (tokenPrefix : JsString) : GroupJoinTokenRow where
  id := fresh.id
  tokenHash := hashGroupJoinToken (trim fresh.token)
  tokenPrefix := tokenPrefix
  role := payload.role
  maxUses := payload.maxUses
  usedCount := 0
  expiresAt := payload.expiresAt
  revokedAt := none
  updatedAt := fresh.createdAt

/-- `none` where a key is there already. -/
def insertToken (db : Database) (row : GroupJoinTokenRow) : Option Database :=
  if db.tokens.any fun other => other.id = row.id || other.tokenHash = row.tokenHash then none
  else some { db with tokens := row :: db.tokens }

def issueToken (hashGroupJoinToken : JsString → JsString) (db : Database)
    (payload : GroupJoinTokenIssuePayload) (fresh : FreshToken) (tokenPrefix : JsString) :
    Database × Call :=
  match insertToken db (issuedRow hashGroupJoinToken payload fresh tokenPrefix) with
  | none => (db, .answered (.error internalServerError))
  | some next =>
      (next, .answered (.issued fresh.id fresh.token payload.role payload.maxUses
        payload.expiresAt fresh.createdAt))

/-- The next statement of a request, where it does not fail. -/
def runStatement (hashGroupJoinToken : JsString → JsString) (db : Database) (env : Env) :
    Call → Option (Database × Call)
  | .finding agentId groupJoinToken tokenPrefix =>
      some (db, decideToken hashGroupJoinToken db agentId groupJoinToken tokenPrefix env.nowMs)
  | .reading agentId token => some (db, decideMember db agentId token env.nowMs)
  | .ready join =>
      some (if env.transactional then applyJoinMutation db join else (db, .inserting join))
  | .inserting join =>
      some (match insertMember db join with
        | none => (db, .resolving join)
        | some next => (next, .updating join))
  | .resolving join => some (db, resolveJoin db join)
  | .updating join =>
      some (match useToken db join with
        | none => (db, .rollingBack join groupJoinTokenExhaustedError)
        | some next => (next, .notifying join))
  | .rollingBack join error => some (removeMember db join.agentId, .answered (.error error))
  | .notifying join => some (db, .joined join)
  | .removing agentId => some (removeMember db agentId, .answered .removed)
  | .issuing payload fresh tokenPrefix =>
      some (issueToken hashGroupJoinToken db payload fresh tokenPrefix)
  | .joined _ => none
  | .answered _ => none

/-- A request whose next statement fails. -/
def failStatement : Call → Option Call
  | .updating join => some (.rollingBack join internalServerError)
  -- The notifications catch their errors.
  | .notifying join => some (.joined join)
  | .joined _ => none
  | .answered _ => none
  | _ => some (.answered (.error internalServerError))

def proceed (hashGroupJoinToken : JsString → JsString) (db : Database) (call : Call) (env : Env) :
    Option (Database × Call) :=
  if env.fails then (failStatement call).map fun next => (db, next)
  else runStatement hashGroupJoinToken db env call

/-- The routes of the group. -/
def program (hashGroupJoinToken : JsString → JsString) : Program Database Call Request Env where
  start db request := some (db, startRequest request)
  resume := proceed hashGroupJoinToken

abbrev State := Pool Database Call
abbrev Event := Move Request Env

/-- The join answered 201 with the token. -/
def Call.joinedWith (id : JsString) : Call → Bool
  | .joined join => join.token.id = id
  | _ => false

/-- How many joins answered 201 with the token. -/
def State.joins (p : State) (id : JsString) : ℕ := p.calls.countP (Call.joinedWith id)

def Call.isFinished : Call → Bool
  | .joined _ => true
  | .answered _ => true
  | _ => false

/-- No request is in progress. -/
def Quiescent (p : State) : Prop := ∀ c ∈ p.calls, c.isFinished = true

/-! ## One statement -/

/-- The token whose use a join has counted and not answered an error for. -/
def Call.usedToken : Call → Option JsString
  | .notifying join => some join.token.id
  | .joined join => some join.token.id
  | _ => none

/-- What one piece of code does to the members. -/
inductive MembersMove (db db' : Database) : Prop
  | remove (sub : db'.members.Sublist db.members)
  | join (row : GroupMemberRow) (below : db.members.length < MAX_GROUP_MEMBERS)
      (absent : db.member? row.agentId = none) (members : db'.members = row :: db.members)

/-- What one piece of code does to the tokens. -/
inductive TokensMove (db db' : Database) (c c' : Call) : Prop
  | keep (same : db'.tokens = db.tokens) (used : c'.usedToken = c.usedToken)
  | use (join : Join) (available : db.tokens.any join.matchesToken = true)
      (tokens : db'.tokens = db.tokens.map join.useRow)
      (before : c.usedToken = none) (after : c'.usedToken = some join.token.id)
  | issue (row : GroupJoinTokenRow) (absent : ∀ token ∈ db.tokens, token.id ≠ row.id)
      (unused : row.usedCount = 0) (tokens : db'.tokens = row :: db.tokens)
      (used : c'.usedToken = c.usedToken)

section
variable {hash : JsString → JsString} {db db' : Database} {join : Join} {env : Env} {c c' : Call}

theorem member?_eq_none {agentId : JsString} :
    db.member? agentId = none ↔ agentId ∉ db.members.map GroupMemberRow.agentId := by
  simp [Database.member?]

/-- A row is inserted below the limit, for an agent that has none. -/
theorem insertMember_move (h : insertMember db join = some db') :
    MembersMove db db' ∧ db'.tokens = db.tokens := by
  simp only [insertMember, Option.isNone_iff_eq_none, Option.ite_none_right_eq_some,
    Option.some.injEq] at h
  obtain ⟨⟨hbelow, habsent⟩, rfl⟩ := h
  exact ⟨.join _ hbelow habsent rfl, rfl⟩

theorem useToken_eq_some (h : useToken db join = some db') :
    db.tokens.any join.matchesToken = true ∧
      db' = { db with tokens := db.tokens.map join.useRow } := by
  simp only [useToken, Option.ite_none_right_eq_some, Option.some.injEq] at h
  exact ⟨h.1, h.2.symm⟩

theorem removeMember_move (db : Database) (agentId : JsString) :
    MembersMove db (removeMember db agentId) := .remove List.filter_sublist

/-- A statement that reads. -/
theorem move_of_read (used : c'.usedToken = c.usedToken) :
    MembersMove db db ∧ TokensMove db db c c' :=
  ⟨.remove (List.Sublist.refl _), .keep rfl used⟩

theorem resolveJoin_usedToken (db : Database) (join : Join) :
    (resolveJoin db join).usedToken = none := by
  unfold resolveJoin
  split <;> rfl

theorem decideToken_usedToken (hash : JsString → JsString) (db : Database)
    (agentId groupJoinToken tokenPrefix : JsString) (nowMs : ℕ) :
    (decideToken hash db agentId groupJoinToken tokenPrefix nowMs).usedToken = none := by
  simp only [decideToken]
  split
  · rfl
  · split
    · rfl
    · split
      · rfl
      · split <;> rfl

theorem applyJoinMutation_move (db : Database) (join : Join) :
    MembersMove db (applyJoinMutation db join).1 ∧
      TokensMove db (applyJoinMutation db join).1 (.ready join) (applyJoinMutation db join).2 := by
  unfold applyJoinMutation
  split
  · exact move_of_read (resolveJoin_usedToken db join)
  · rename_i inserted hinserted
    obtain ⟨hmembers, htokens⟩ := insertMember_move hinserted
    split
    · exact move_of_read rfl
    · rename_i used hused
      obtain ⟨havailable, rfl⟩ := useToken_eq_some hused
      rw [htokens] at havailable ⊢
      refine ⟨?_, .use join havailable rfl rfl rfl⟩
      cases hmembers with
      | remove sub => exact .remove sub
      | join row below absent members => exact .join row below absent members

theorem issueToken_move (hash : JsString → JsString) (db : Database)
    (payload : GroupJoinTokenIssuePayload) (fresh : FreshToken) (tokenPrefix : JsString) :
    MembersMove db (issueToken hash db payload fresh tokenPrefix).1 ∧
      TokensMove db (issueToken hash db payload fresh tokenPrefix).1
        (.issuing payload fresh tokenPrefix) (issueToken hash db payload fresh tokenPrefix).2 := by
  unfold issueToken
  split
  · exact move_of_read rfl
  · rename_i next hnext
    simp only [insertToken, Option.ite_none_left_eq_some, Option.some.injEq, List.any_eq_true,
      Bool.or_eq_true, decide_eq_true_eq, not_exists, not_and, not_or] at hnext
    obtain ⟨hnew, rfl⟩ := hnext
    exact ⟨.remove (List.Sublist.refl _),
      .issue _ (fun other h => (hnew other h).1) rfl rfl rfl⟩

theorem runStatement_move (h : runStatement hash db env c = some (db', c')) :
    MembersMove db db' ∧ TokensMove db db' c c' := by
  cases c with
  | finding agentId groupJoinToken tokenPrefix =>
      cases h
      exact move_of_read
        (decideToken_usedToken hash db agentId groupJoinToken tokenPrefix env.nowMs)
  | reading agentId token =>
      cases h
      refine move_of_read ?_
      unfold decideMember
      split <;> rfl
  | ready join =>
      simp only [runStatement] at h
      split at h
      · have hmove := applyJoinMutation_move db join
        rw [Option.some.inj h] at hmove
        exact hmove
      · cases h
        exact move_of_read rfl
  | inserting join =>
      simp only [runStatement] at h
      split at h
      · cases h
        exact move_of_read rfl
      · rename_i next hnext
        cases h
        obtain ⟨hmembers, htokens⟩ := insertMember_move hnext
        exact ⟨hmembers, .keep htokens rfl⟩
  | resolving join =>
      cases h
      exact move_of_read (resolveJoin_usedToken db join)
  | updating join =>
      simp only [runStatement] at h
      split at h
      · cases h
        exact move_of_read rfl
      · rename_i next hnext
        cases h
        obtain ⟨havailable, rfl⟩ := useToken_eq_some hnext
        exact ⟨.remove (List.Sublist.refl _), .use join havailable rfl rfl rfl⟩
  | rollingBack join error =>
      cases h
      exact ⟨removeMember_move db join.agentId, .keep rfl rfl⟩
  | notifying join =>
      cases h
      exact move_of_read rfl
  | joined join => cases h
  | removing agentId =>
      cases h
      exact ⟨removeMember_move db agentId, .keep rfl rfl⟩
  | issuing payload fresh tokenPrefix =>
      have hmove := issueToken_move hash db payload fresh tokenPrefix
      rw [Option.some.inj h] at hmove
      exact hmove
  | answered response => cases h

/-- A statement that fails counts no use, and takes none back. -/
theorem failStatement_usedToken (h : failStatement c = some c') : c'.usedToken = c.usedToken := by
  cases c <;> cases h <;> rfl


theorem proceed_move (h : proceed hash db c env = some (db', c')) :
    MembersMove db db' ∧ TokensMove db db' c c' := by
  unfold proceed at h
  split at h
  · obtain ⟨next, hnext, heq⟩ := Option.map_eq_some_iff.mp h
    cases heq
    exact move_of_read (failStatement_usedToken hnext)
  · exact runStatement_move h

end

/-! ## The invariant -/

/-- The request counts as a use of the token. -/
def Call.uses (id : JsString) (c : Call) : Bool := c.usedToken = some id

structure Inv (p : State) : Prop where
  members_le : p.shared.members.length ≤ MAX_GROUP_MEMBERS
  agents_nodup : (p.shared.members.map GroupMemberRow.agentId).Nodup
  tokens_nodup : (p.shared.tokens.map GroupJoinTokenRow.id).Nodup
  used_le : ∀ token ∈ p.shared.tokens, token.usedCount ≤ token.maxUses
  /-- Each use of a token is that of a request. -/
  used_eq : ∀ token ∈ p.shared.tokens, token.usedCount = p.calls.countP (Call.uses token.id)
  used_mem : ∀ c ∈ p.calls, ∀ id, c.usedToken = some id →
    id ∈ p.shared.tokens.map GroupJoinTokenRow.id

theorem inv_initial {db₀ : Database} (h : db₀.Unused) : Inv ⟨db₀, []⟩ where
  members_le := h.members_le
  agents_nodup := h.agents_nodup
  tokens_nodup := h.tokens_nodup
  used_le token htoken := by
    rw [h.unused token htoken]
    exact Nat.zero_le _
  used_eq token htoken := h.unused token htoken
  used_mem := by simp

section
variable {hash : JsString → JsString} {db db' : Database} {p : State} {i : ℕ} {c c' : Call}

/-- The members after a piece of code. -/
theorem MembersMove.preserves (hmove : MembersMove db db')
    (hle : db.members.length ≤ MAX_GROUP_MEMBERS)
    (hnodup : (db.members.map GroupMemberRow.agentId).Nodup) :
    db'.members.length ≤ MAX_GROUP_MEMBERS ∧
      (db'.members.map GroupMemberRow.agentId).Nodup := by
  cases hmove with
  | remove sub => exact ⟨Nat.le_trans sub.length_le hle, hnodup.sublist (sub.map _)⟩
  | join row below absent members =>
      rw [members, List.length_cons, List.map_cons]
      exact ⟨below, List.nodup_cons.mpr ⟨member?_eq_none.mp absent, hnodup⟩⟩

/-- Two rows with one id are the same. -/
theorem row_unique {tokens : List GroupJoinTokenRow}
    (h : (tokens.map GroupJoinTokenRow.id).Nodup) {row other : GroupJoinTokenRow}
    (hrow : row ∈ tokens) (hother : other ∈ tokens) (hid : row.id = other.id) : row = other :=
  List.inj_on_of_nodup_map h hrow hother hid

@[simp] theorem useRow_id (join : Join) (row : GroupJoinTokenRow) :
    (join.useRow row).id = row.id := by
  unfold Join.useRow
  split <;> rfl

theorem map_useRow_id (join : Join) (tokens : List GroupJoinTokenRow) :
    (tokens.map join.useRow).map GroupJoinTokenRow.id = tokens.map GroupJoinTokenRow.id := by
  simp [Function.comp_def]

/-- A row after the update: one use more where it is the row of the token. -/
theorem useRow_usedCount {join : Join} {row : GroupJoinTokenRow} {tokens : List GroupJoinTokenRow}
    (hnodup : (tokens.map GroupJoinTokenRow.id).Nodup)
    (havailable : tokens.any join.matchesToken = true) (hrow : row ∈ tokens) :
    (join.useRow row).usedCount =
      row.usedCount + (if row.id = join.token.id then 1 else 0) := by
  obtain ⟨matching, hmem, hmatches⟩ := List.any_eq_true.mp havailable
  by_cases hid : row.id = join.token.id
  · have hsame : row = matching := by
      refine row_unique hnodup hrow hmem (hid.trans ?_)
      simp only [Join.matchesToken, Bool.and_eq_true, decide_eq_true_eq] at hmatches
      exact hmatches.1.1.symm
    rw [hsame, Join.useRow, if_pos hmatches, if_pos (hsame ▸ hid)]
  · have hno : join.matchesToken row = false := by simp [Join.matchesToken, hid]
    rw [Join.useRow, hno, if_neg Bool.false_ne_true, if_neg hid]
    rfl

theorem useRow_used_le {join : Join} {row : GroupJoinTokenRow} (h : row.usedCount ≤ row.maxUses) :
    (join.useRow row).usedCount ≤ (join.useRow row).maxUses := by
  unfold Join.useRow
  split
  · rename_i hmatches
    simp only [Join.matchesToken, Bool.and_eq_true, decide_eq_true_eq] at hmatches
    exact hmatches.1.2
  · exact h

/-- The number of uses of a token after a resumption. -/
theorem countP_uses_set (c' : Call) (id : JsString) (hc : p.calls[i]? = some c) :
    (p.calls.set i c').countP (Call.uses id) + (if c.usedToken = some id then 1 else 0) =
      p.calls.countP (Call.uses id) + (if c'.usedToken = some id then 1 else 0) := by
  simpa [Call.uses] using countP_set_add (Call.uses id) c' hc

/-- No request has used a token that is not there. -/
theorem countP_uses_of_absent (hp : Inv p) {id : JsString}
    (h : ∀ token ∈ p.shared.tokens, token.id ≠ id) : p.calls.countP (Call.uses id) = 0 := by
  refine List.countP_eq_zero.mpr ?_
  intro d hd huses
  obtain ⟨token, htoken, hid⟩ :=
    List.mem_map.mp (hp.used_mem d hd id (of_decide_eq_true huses))
  exact h token htoken hid

/-- What holds of every used token after a resumption. -/
theorem usedToken_set {P : JsString → Prop}
    (hold : ∀ d ∈ p.calls, ∀ id, d.usedToken = some id → P id)
    (hnew : ∀ id, c'.usedToken = some id → P id) :
    ∀ d ∈ p.calls.set i c', ∀ id, d.usedToken = some id → P id := by
  intro d hd id hused
  rcases List.mem_or_eq_of_mem_set hd with hd | rfl
  · exact hold d hd id hused
  · exact hnew id hused

theorem inv_resume (hp : Inv p) (hc : p.calls[i]? = some c) (hmembers : MembersMove p.shared db')
    (htokens : TokensMove p.shared db' c c') : Inv ⟨db', p.calls.set i c'⟩ := by
  obtain ⟨hle, hagents⟩ := hmembers.preserves hp.members_le hp.agents_nodup
  have hmem := List.mem_of_getElem? hc
  cases htokens with
  | keep same used =>
      refine ⟨hle, hagents, same ▸ hp.tokens_nodup, same ▸ hp.used_le, ?_, ?_⟩
      · intro token htoken
        have hcount := countP_uses_set c' token.id hc
        have hused := hp.used_eq token (same ▸ htoken)
        rw [used] at hcount
        change _ = (p.calls.set i c').countP _
        omega
      · change ∀ d ∈ p.calls.set i c', _
        rw [same]
        exact usedToken_set hp.used_mem fun id hid => hp.used_mem c hmem id (used ▸ hid)
  | use join available tokens before after =>
      have hids : db'.tokens.map GroupJoinTokenRow.id =
          p.shared.tokens.map GroupJoinTokenRow.id := by
        rw [tokens, map_useRow_id]
      refine ⟨hle, hagents, hids ▸ hp.tokens_nodup, ?_, ?_, ?_⟩
      · intro token htoken
        obtain ⟨row, hrow, rfl⟩ := List.mem_map.mp (tokens ▸ htoken)
        exact useRow_used_le (hp.used_le row hrow)
      · intro token htoken
        obtain ⟨row, hrow, rfl⟩ := List.mem_map.mp (tokens ▸ htoken)
        have hcount := countP_uses_set c' row.id hc
        have hused := hp.used_eq row hrow
        simp only [before, after, Option.some.injEq, reduceCtorEq, if_false, eq_comm] at hcount
        change _ = (p.calls.set i c').countP _
        rw [useRow_usedCount hp.tokens_nodup available hrow, useRow_id]
        omega
      · change ∀ d ∈ p.calls.set i c', _
        rw [hids]
        refine usedToken_set hp.used_mem ?_
        intro id hid
        obtain ⟨row, hrow, hmatches⟩ := List.any_eq_true.mp available
        simp only [Join.matchesToken, Bool.and_eq_true, decide_eq_true_eq] at hmatches
        rw [after] at hid
        exact List.mem_map.mpr ⟨row, hrow, hmatches.1.1.trans (Option.some.inj hid)⟩
  | issue row absent unused tokens used =>
      refine ⟨hle, hagents, ?_, ?_, ?_, ?_⟩
      · rw [tokens, List.map_cons, List.nodup_cons]
        refine ⟨?_, hp.tokens_nodup⟩
        intro hrow
        obtain ⟨token, htoken, hid⟩ := List.mem_map.mp hrow
        exact absent token htoken hid
      · intro token htoken
        rcases List.mem_cons.mp (tokens ▸ htoken) with rfl | htoken
        · rw [unused]
          exact Nat.zero_le _
        · exact hp.used_le token htoken
      · intro token htoken
        have hcount := countP_uses_set c' token.id hc
        rw [used] at hcount
        change _ = (p.calls.set i c').countP _
        rcases List.mem_cons.mp (tokens ▸ htoken) with rfl | htoken
        · have hnone := countP_uses_of_absent hp absent
          omega
        · have hused := hp.used_eq token htoken
          omega
      · change ∀ d ∈ p.calls.set i c', _
        rw [tokens, List.map_cons]
        have hold : ∀ d ∈ p.calls, ∀ id, d.usedToken = some id →
            id ∈ row.id :: p.shared.tokens.map GroupJoinTokenRow.id :=
          fun d hd id hid => List.mem_cons_of_mem _ (hp.used_mem d hd id hid)
        exact usedToken_set hold fun id hid => hold c hmem id (used ▸ hid)

theorem startRequest_usedToken (request : Request) : (startRequest request).usedToken = none := by
  cases request with
  | join body agentId =>
      simp only [startRequest, startJoin]
      split
      · rfl
      · split <;> rfl
  | removeMember agentId => rfl
  | issueToken body nowMs fresh =>
      simp only [startRequest, startIssue]
      split
      · rfl
      · split <;> rfl

theorem inv_start (hp : Inv p) (request : Request) :
    Inv ⟨p.shared, p.calls ++ [startRequest request]⟩ := by
  have hnone := startRequest_usedToken request
  refine ⟨hp.members_le, hp.agents_nodup, hp.tokens_nodup, hp.used_le, ?_, ?_⟩
  · intro token htoken
    have hno : (startRequest request).uses token.id = false := by simp [Call.uses, hnone]
    change _ = (p.calls ++ [startRequest request]).countP _
    rw [List.countP_append, List.countP_singleton, hno]
    exact hp.used_eq token htoken
  · intro d hd id hid
    rcases List.mem_append.mp hd with hd | hd
    · exact hp.used_mem d hd id hid
    · rw [List.mem_singleton.mp hd, hnone] at hid
      cases hid

theorem inv_step {q : State} {e : Event} (hp : Inv p) (h : (program hash).step p e = some q) :
    Inv q := by
  obtain ⟨request, db, c, rfl, hstart, rfl⟩ | ⟨i, env, c, db, c', rfl, hc, hresume, rfl⟩ :=
    Program.step_cases h
  · obtain ⟨rfl, rfl⟩ := Prod.mk.inj (Option.some.inj hstart)
    exact inv_start hp request
  · obtain ⟨hmembers, htokens⟩ := proceed_move hresume
    exact inv_resume hp hc hmembers htokens

end

/-- A finished request counts as a use where it answered 201. -/
theorem uses_of_isFinished {c : Call} (h : c.isFinished = true) (id : JsString) :
    c.joinedWith id = c.uses id := by
  match c, h with
  | .joined join, _ => simp [Call.joinedWith, Call.uses, Call.usedToken]
  | .answered response, _ => simp [Call.joinedWith, Call.uses, Call.usedToken]

/-- **The limits of a group hold under interleaving.** The members never exceed the limit, an
agent is a member once, no token is used more often than it may be, and once all requests have
answered, each token has been used as often as joins have answered 201 with it. -/
theorem group_join_limits_hold {hash : JsString → JsString} {db₀ : Database} {es : List Event}
    {p : State} (h₀ : db₀.Unused) (hrun : exec (program hash).step ⟨db₀, []⟩ es = some p) :
    p.shared.members.length ≤ MAX_GROUP_MEMBERS ∧
    (p.shared.members.map GroupMemberRow.agentId).Nodup ∧
    (∀ token ∈ p.shared.tokens, token.usedCount ≤ token.maxUses) ∧
    (Quiescent p → ∀ token ∈ p.shared.tokens, p.joins token.id = token.usedCount) := by
  have hp : Inv p := exec_invariant_of_step Inv (fun _ _ _ hs h => inv_step hs h)
    (inv_initial h₀) hrun
  refine ⟨hp.members_le, hp.agents_nodup, hp.used_le, ?_⟩
  intro hquiescent token htoken
  rw [hp.used_eq token htoken]
  refine List.countP_congr ?_
  intro c hc
  rw [uses_of_isFinished (hquiescent c hc)]

def exampleToken : JsString := js "clw_gjt_AAECAwQFBgcICQoLDA0ODxAREhMUFRYXGBkaGxwdHh8"

/-- The SHA-256 digest of the token above. -/
def exampleDigest : JsString :=
  js "ea9e81413f22a743d52a3ce1bd3c00b2afd9bfb10b012d08a1ee4ff4345d9fbc"

def exampleHash (token : JsString) : JsString :=
  if token = exampleToken then exampleDigest else token

def exampleRequests : List Request :=
  [.issueToken (object [("maxUses", some (.num 1))]) 1700000000000
      ⟨js "01HF7YAT00W6W7CM7N3W5FDXV1", exampleToken, 1700000000000⟩,
    .join (object [("groupJoinToken", some (.str exampleToken))])
      (js "01HF7YAT00W6W7CM7N3W5FDXA1"),
    .join (object [("groupJoinToken", some (.str exampleToken))])
      (js "01HF7YAT00W6W7CM7N3W5FDXA2")]

/-- The next statement of a request, which succeeds. -/
def exampleResume (i : ℕ) (transactional : Bool) : Event :=
  .resume i ⟨1700000001000, false, transactional⟩

/-- A token for one use. Two agents read it unused; the first one inserts its row, then the second
one joins in a transaction, and the first one is rolled back. -/
def exampleRun : List Event :=
  exampleRequests.map .start ++
    [exampleResume 0 false, exampleResume 1 false, exampleResume 2 false, exampleResume 1 false,
      exampleResume 2 true, exampleResume 1 false, exampleResume 1 false, exampleResume 2 true,
      exampleResume 1 false, exampleResume 1 false, exampleResume 2 true]

theorem exampleRun_result :
    (exec (program exampleHash).step ⟨⟨[], []⟩, []⟩ exampleRun).map
      (fun p => (p.calls.all Call.isFinished, p.shared.tokens.map (·.usedCount),
        p.shared.members.map (·.agentId))) =
        some (true, [1], [js "01HF7YAT00W6W7CM7N3W5FDXA2"]) := by decide

theorem exampleRun_limits_hold : ∃ p : State,
    exec (program exampleHash).step ⟨⟨[], []⟩, []⟩ exampleRun = some p ∧
    p.shared.members.length ≤ MAX_GROUP_MEMBERS ∧ p.shared.tokens.map (·.usedCount) = [1] ∧
    ∀ token ∈ p.shared.tokens, p.joins token.id = token.usedCount := by
  obtain ⟨p, hrun, hresult⟩ := Option.map_eq_some_iff.mp exampleRun_result
  obtain ⟨hquiescent, hrest⟩ := Prod.mk.inj hresult
  have hunused : Database.Unused ⟨[], []⟩ := ⟨by decide, List.nodup_nil, List.nodup_nil, nofun⟩
  obtain ⟨hmembers, -, -, hjoins⟩ := group_join_limits_hold hunused hrun
  exact ⟨p, hrun, hmembers, (Prod.mk.inj hrest).1, hjoins (List.all_eq_true.mp hquiescent)⟩

end Clawdentity.GroupJoin
