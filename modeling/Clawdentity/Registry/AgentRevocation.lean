import Clawdentity.Js.Text
import Clawdentity.Lib.Interleave

/-!
# Revocation and reissue of one agent

The routes `DELETE /v1/agents/:id` and `POST /v1/agents/:id/reissue` on the row of
one agent, called by its owner. Each request reads the row, prepares a mutation
from what it read, and runs the mutation as one transaction, or statement by
statement where the database does not support transactions. The requests
interleave between any two of these steps. No statement fails.

ISO date texts are their epoch milliseconds, and a signed AIT is its claims.

## Main definitions

* `applyRevokeMutation`, `applyReissueMutation` — the statements of the two routes.
* `program` — the code of a request, cut between its database accesses.
* `Covered` — a `jti` that is current and active, revoked, or about to be revoked.
-/

namespace Clawdentity.AgentRevocation

open Js Lib Lib.Interleave

/-! ## The tables -/

inductive Status
  | active
  | revoked
  deriving DecidableEq, Repr

/-- The row of the agent in `agents`, with the columns that the routes use. -/
structure AgentRow where
  id : JsString
  did : JsString
  name : JsString
  framework : Option JsString
  publicKey : JsString
  status : Status
  expiresAt : Option ℕ
  currentJti : Option JsString
  updatedAt : ℕ
  deriving DecidableEq

/-- A row of `revocations`; the column `jti` is unique. -/
structure Revocation where
  jti : JsString
  agentId : JsString
  reason : Option JsString
  revokedAt : ℕ
  deriving DecidableEq

/-- The agent's row in `agent_auth_sessions`. -/
structure AuthSession where
  id : JsString
  status : Status
  revokedAt : Option ℕ
  updatedAt : ℕ
  deriving DecidableEq

/-- A row of `agent_auth_events`. -/
structure AuthEvent where
  agentId : JsString
  sessionId : JsString
  eventType : JsString
  reason : Option JsString
  metadataAgentDid : JsString
  createdAt : ℕ
  deriving DecidableEq

structure Database where
  agent : AgentRow
  revocations : List Revocation
  session : Option AuthSession
  events : List AuthEvent
  deriving DecidableEq

/-- The `jti`s in `revocations`. -/
def Database.revokedJtis (db : Database) : List JsString := db.revocations.map Revocation.jti

/-! ## The reissued token -/

structure AitClaims where
  iss : JsString
  sub : JsString
  ownerDid : JsString
  name : JsString
  framework : JsString
  publicKey : JsString
  iat : ℕ
  nbf : ℕ
  exp : ℕ
  jti : JsString
  deriving DecidableEq

structure ReissuedAgent where
  id : JsString
  did : JsString
  ownerDid : JsString
  name : JsString
  framework : JsString
  publicKey : JsString
  currentJti : JsString
  ttlDays : ℕ
  expiresAt : ℕ
  updatedAt : ℕ
  deriving DecidableEq

/-- The agent and the claims of its new AIT, which carry the same `jti`. -/
structure AgentReissue where
  agent : ReissuedAgent
  claims : AitClaims
  jti_eq : claims.jti = agent.currentJti
  deriving DecidableEq

def DEFAULT_AGENT_TTL_DAYS : ℕ := 30
def MIN_AGENT_TTL_DAYS : ℕ := 1
def MAX_AGENT_TTL_DAYS : ℕ := 90
def DAY_IN_SECONDS : ℕ := 24 * 60 * 60
def DEFAULT_AGENT_FRAMEWORK : JsString := js "generic"

/-- The expiry date, the `exp` claim and the lifetime in days. -/
def resolveReissueExpiry (previousExpiresAt : Option ℕ) (issuedAtMs : ℕ) : ℕ × ℕ × ℕ :=
  let issuedAtSeconds := issuedAtMs / 1000
  let defaultTtlSeconds := DEFAULT_AGENT_TTL_DAYS * DAY_IN_SECONDS
  let default := (issuedAtMs + defaultTtlSeconds * 1000, issuedAtSeconds + defaultTtlSeconds,
    DEFAULT_AGENT_TTL_DAYS)
  match previousExpiresAt with
  | none => default
  | some previousExpiryMs =>
      if previousExpiryMs ≤ issuedAtMs then default
      else
        let previousExpirySeconds := previousExpiryMs / 1000
        let remainingSeconds := max 1 (previousExpirySeconds - issuedAtSeconds)
        let days := (remainingSeconds + DAY_IN_SECONDS - 1) / DAY_IN_SECONDS
        (previousExpiryMs, previousExpirySeconds,
          min MAX_AGENT_TTL_DAYS (max MIN_AGENT_TTL_DAYS days))

/-- `buildAgentReissue` on the row that was read; `newJti` is the generated ULID. -/
def buildAgentReissue (row : AgentRow) (ownerDid issuer newJti : JsString) (issuedAtMs : ℕ) :
    AgentReissue :=
  let (expiresAt, exp, ttlDays) := resolveReissueExpiry row.expiresAt issuedAtMs
  let framework := row.framework.getD DEFAULT_AGENT_FRAMEWORK
  { agent :=
      { id := row.id, did := row.did, ownerDid, name := row.name, framework,
        publicKey := row.publicKey, currentJti := newJti, ttlDays, expiresAt,
        updatedAt := issuedAtMs }
    claims :=
      { iss := issuer, sub := row.did, ownerDid, name := row.name, framework,
        publicKey := row.publicKey, iat := issuedAtMs / 1000, nbf := issuedAtMs / 1000, exp,
        jti := newJti }
    jti_eq := rfl }

/-! ## Statements -/

/-- The statements of the two mutations. -/
inductive Statement
  /-- `update agents set status = 'revoked'`, by id. -/
  | revokeAgent (updatedAt : ℕ)
  /-- `update agents`, by id, active status and the `current_jti` that was read. -/
  | reissueAgent (currentJti : JsString) (reissued : ReissuedAgent)
  /-- `insert into revocations … on conflict (jti) do nothing`. -/
  | insertRevocation (row : Revocation)
  /-- `update agent_auth_sessions set status = 'revoked'`, by id and active status. -/
  | revokeSession (id : JsString) (revokedAt : ℕ)
  | insertAuthEvent (event : AuthEvent)
  deriving DecidableEq

/-- The database after a statement, and the number of rows that it changed. -/
def Statement.run (db : Database) : Statement → Database × ℕ
  | .revokeAgent updatedAt =>
      ({ db with agent := { db.agent with status := .revoked, updatedAt := updatedAt } }, 1)
  | .reissueAgent currentJti reissued =>
      if db.agent.status = .active ∧ db.agent.currentJti = some currentJti then
        ({ db with agent := { db.agent with
            status := .active
            currentJti := some reissued.currentJti
            expiresAt := some reissued.expiresAt
            updatedAt := reissued.updatedAt } }, 1)
      else (db, 0)
  | .insertRevocation row =>
      if row.jti ∈ db.revokedJtis then (db, 0)
      else ({ db with revocations := row :: db.revocations }, 1)
  | .revokeSession id revokedAt =>
      match db.session with
      | some session =>
          if session.id = id ∧ session.status = .active then
            ({ db with session := some { session with
                status := .revoked, revokedAt := some revokedAt, updatedAt := revokedAt } }, 1)
          else (db, 0)
      | none => (db, 0)
  | .insertAuthEvent event => ({ db with events := event :: db.events }, 1)

/-- What a request decided to do from the row and the session that it read. -/
inductive Plan
  | revoke (agent : AgentRow) (currentJti : JsString) (existingSession : Option AuthSession)
      (revokedAt : ℕ)
  | reissue (agent : AgentRow) (currentJti : JsString) (reissued : AgentReissue) (revokedAt : ℕ)
  deriving DecidableEq

def applyRevokeMutation (agent : AgentRow) (currentJti : JsString)
    (existingSession : Option AuthSession) (revokedAt : ℕ) : List Statement :=
  [.revokeAgent revokedAt,
    .insertRevocation { jti := currentJti, agentId := agent.id, reason := none, revokedAt }] ++
  match existingSession with
  | some session =>
      if session.status = .active then
        [.revokeSession session.id revokedAt,
          .insertAuthEvent
            { agentId := agent.id, sessionId := session.id, eventType := js "revoked",
              reason := some (js "agent_revoked"), metadataAgentDid := agent.did,
              createdAt := revokedAt }]
      else []
  | none => []

def applyReissueMutation (agent : AgentRow) (currentJti : JsString) (reissue : AgentReissue)
    (revokedAt : ℕ) : List Statement :=
  [.reissueAgent currentJti reissue.agent,
    .insertRevocation
      { jti := currentJti, agentId := agent.id, reason := some (js "reissued"), revokedAt }]

namespace Plan

def mutation : Plan → List Statement
  | .revoke agent currentJti existingSession revokedAt =>
      applyRevokeMutation agent currentJti existingSession revokedAt
  | .reissue agent currentJti reissued revokedAt =>
      applyReissueMutation agent currentJti reissued revokedAt

/-- The `jti` that the request read and inserts into `revocations`. -/
def currentJti : Plan → JsString
  | .revoke _ currentJti _ _ => currentJti
  | .reissue _ currentJti _ _ => currentJti

end Plan

/-! ## Requests -/

inductive Response
  /-- 204. -/
  | noContent
  /-- 200, with the agent and its new AIT. -/
  | reissued (reissue : AgentReissue)
  /-- 409. -/
  | agentRevokeInvalidState (field reason : String)
  /-- 409. -/
  | agentReissueInvalidState (field reason : String)
  deriving DecidableEq

def Plan.answer : Plan → Response
  | .revoke _ _ _ _ => .noContent
  | .reissue _ _ reissued _ => .reissued reissued

/-- A request, with the values that its first segment draws: the owner's DID, the
issuer, a new ULID and the time. -/
inductive Request
  | revoke
  | reissue (ownerDid issuer newJti : JsString) (nowMs : ℕ)
  deriving DecidableEq

/-- A request between two of its database accesses. `mutating plan n` has run `n`
statements of the plan's mutation. -/
inductive Call
  | revokeRead (agent : AgentRow) (currentJti : JsString)
  | ready (plan : Plan)
  | mutating (plan : Plan) (n : ℕ)
  | answered (response : Response)
  deriving DecidableEq

/-- How a suspended request goes on. -/
inductive Choice
  /-- Read the session and the clock. -/
  | readSession (revokedAt : ℕ)
  /-- Run the whole mutation in one transaction. -/
  | transaction
  /-- The transaction could not begin: go on statement by statement. -/
  | fallback
  /-- Run the next statement of the fallback. -/
  | statement
  /-- Send the answer. -/
  | answer
  deriving DecidableEq

/-- The database, and the `jti` of every AIT that was returned to the owner. -/
structure Shared where
  db : Database
  issued : List JsString
  deriving DecidableEq

def requireCurrentJti (currentJti : Option JsString) : Option JsString :=
  currentJti.filter fun jti => !jti.isEmpty

/-- The first segment: `findOwnedAgent` and the checks on the row. -/
def start (s : Shared) : Request → Option (Shared × Call)
  | .revoke =>
      some (s,
        if s.db.agent.status = .revoked then .answered .noContent
        else match requireCurrentJti s.db.agent.currentJti with
          | none => .answered (.agentRevokeInvalidState "currentJti"
              "agent.current_jti is required for revocation")
          | some currentJti => .revokeRead s.db.agent currentJti)
  | .reissue ownerDid issuer newJti nowMs =>
      some (s,
        if s.db.agent.status = .revoked then
          .answered (.agentReissueInvalidState "status" "revoked agents cannot be reissued")
        else match requireCurrentJti s.db.agent.currentJti with
          | none => .answered (.agentReissueInvalidState "currentJti"
              "agent.current_jti is required for reissue")
          | some currentJti => .ready (.reissue s.db.agent currentJti
              (buildAgentReissue s.db.agent ownerDid issuer newJti nowMs) nowMs))

/-- The error of a reissue whose guarded update changed no row. -/
def stateChanged : Response :=
  .agentReissueInvalidState "currentJti" "agent state changed during reissue; retry request"

/-- One statement; `none` where the route throws because no row was changed. -/
def runGuarded (db : Database) (statement : Statement) : Option Database :=
  match statement, statement.run db with
  | .reissueAgent _ _, (_, 0) => none
  | _, (next, _) => some next

/-- A transaction: the statements in order; `none` where it throws and is rolled back. -/
def runTransaction (db : Database) : List Statement → Option Database
  | [] => some db
  | statement :: rest => (runGuarded db statement).bind fun next => runTransaction next rest

/-- The AIT that an answer hands to the owner. -/
def Response.issuedJti : Response → List JsString
  | .reissued reissue => [reissue.claims.jti]
  | _ => []

/-- The later segments. -/
def resume (s : Shared) : Call → Choice → Option (Shared × Call)
  | .revokeRead agent currentJti, .readSession revokedAt =>
      some (s, .ready (.revoke agent currentJti s.db.session revokedAt))
  | .ready plan, .transaction =>
      match runTransaction s.db plan.mutation with
      | some db => some ({ s with db }, .mutating plan plan.mutation.length)
      | none => some (s, .answered stateChanged)
  | .ready plan, .fallback => some (s, .mutating plan 0)
  | .mutating plan n, .statement =>
      plan.mutation[n]?.map fun statement =>
        match runGuarded s.db statement with
        | some db => ({ s with db }, .mutating plan (n + 1))
        | none => (s, .answered stateChanged)
  | .mutating plan n, .answer =>
      if n = plan.mutation.length then
        some ({ s with issued := plan.answer.issuedJti ++ s.issued }, .answered plan.answer)
      else none
  | _, _ => none

/-- The two routes on one agent. -/
def program : Program Shared Call Request Choice := ⟨start, resume⟩

abbrev State := Pool Shared Call
abbrev Event := Move Request Choice

/-- The row is active and its `current_jti` is `j`. -/
def Database.Current (db : Database) (j : JsString) : Prop :=
  db.agent.status = .active ∧ db.agent.currentJti = some j

instance (db : Database) (j : JsString) : Decidable (db.Current j) :=
  inferInstanceAs (Decidable (_ ∧ _))

/-- No request has been made yet, and each AIT returned so far is current or revoked. -/
structure Initial (p : State) : Prop where
  no_calls : p.calls = []
  issued : ∀ j ∈ p.shared.issued, p.shared.db.Current j ∨ j ∈ p.shared.db.revokedJtis

def Call.isAnswered : Call → Bool
  | .answered _ => true
  | _ => false

/-- No request is in progress. -/
def Quiescent (p : State) : Prop := ∀ c ∈ p.calls, c.isAnswered = true

instance (p : State) : Decidable (Quiescent p) := inferInstanceAs (Decidable (∀ c ∈ p.calls, _))

/-- A `DELETE` that finds the row active finds the `current_jti` that it read. -/
def Plan.RevokesCurrent (plan : Plan) (db : Database) : Prop :=
  match plan with
  | .revoke _ currentJti _ _ =>
      db.agent.status = .active → db.agent.currentJti = some currentJti
  | .reissue _ _ _ _ => True

instance (plan : Plan) (db : Database) : Decidable (plan.RevokesCurrent db) :=
  match plan with
  | .revoke _ _ _ _ => inferInstanceAs (Decidable (_ → _))
  | .reissue _ _ _ _ => isTrue trivial

/-- The condition on one step, for the two kinds of step that update the agent. -/
def revokesCurrent (p : State) : Event → Bool
  | .resume i .transaction =>
      match p.calls[i]? with
      | some (.ready plan) => plan.RevokesCurrent p.shared.db
      | _ => true
  | .resume i .statement =>
      match p.calls[i]? with
      | some (.mutating plan 0) => plan.RevokesCurrent p.shared.db
      | _ => true
  | _ => true

/-! ## What the statements do -/

/-- A statement that touches neither the agent nor the revocations. -/
def SameTokens (db db' : Database) : Prop :=
  db'.agent = db.agent ∧ db'.revocations = db.revocations

/-- The effect of a mutation's first statement, the update of the agent. -/
def Updates (plan : Plan) (db db' : Database) : Prop :=
  db'.revocations = db.revocations ∧
  match plan with
  | .revoke _ _ _ _ =>
      db'.agent.status = .revoked
  | .reissue _ currentJti reissued _ =>
      db.Current currentJti ∧ db'.Current reissued.claims.jti

/-- The effect of the second statement, the insertion into `revocations`. -/
def Inserts (plan : Plan) (db db' : Database) : Prop :=
  db'.agent = db.agent ∧ ∀ j, j ∈ db'.revokedJtis ↔ j = plan.currentJti ∨ j ∈ db.revokedJtis

theorem runGuarded_zero {plan : Plan} {statement : Statement} {db db' : Database}
    (hs : plan.mutation[0]? = some statement) (h : runGuarded db statement = some db') :
    Updates plan db db' := by
  cases plan with
  | revoke agent jti session revokedAt =>
      simp only [Plan.mutation, applyRevokeMutation, List.cons_append, List.getElem?_cons_zero,
        Option.some.injEq] at hs
      subst hs
      simp only [runGuarded, Statement.run, Option.some.injEq] at h
      subst h
      exact ⟨rfl, rfl⟩
  | reissue agent jti reissued revokedAt =>
      simp only [Plan.mutation, applyReissueMutation, List.getElem?_cons_zero,
        Option.some.injEq] at hs
      subst hs
      by_cases hc : db.agent.status = .active ∧ db.agent.currentJti = some jti
      · simp only [runGuarded, Statement.run, if_pos hc, Option.some.injEq] at h
        subst h
        exact ⟨rfl, hc, rfl, congrArg some reissued.jti_eq.symm⟩
      · simp [runGuarded, Statement.run, if_neg hc] at h

theorem run_insertRevocation {db db' : Database} {row : Revocation}
    (h : runGuarded db (.insertRevocation row) = some db') :
    db'.agent = db.agent ∧ ∀ j, j ∈ db'.revokedJtis ↔ j = row.jti ∨ j ∈ db.revokedJtis := by
  by_cases hc : row.jti ∈ db.revokedJtis
  · simp only [runGuarded, Statement.run, if_pos hc, Option.some.injEq] at h
    subst h
    refine ⟨rfl, fun j => ⟨.inr, ?_⟩⟩
    rintro (rfl | hj)
    · exact hc
    · exact hj
  · simp only [runGuarded, Statement.run, if_neg hc, Option.some.injEq] at h
    subst h
    exact ⟨rfl, fun j => by simp [Database.revokedJtis]⟩

theorem runGuarded_one {plan : Plan} {statement : Statement} {db db' : Database}
    (hs : plan.mutation[1]? = some statement) (h : runGuarded db statement = some db') :
    Inserts plan db db' := by
  cases plan with
  | revoke agent jti session revokedAt =>
      simp only [Plan.mutation, applyRevokeMutation, List.cons_append, List.getElem?_cons_succ,
        List.getElem?_cons_zero, Option.some.injEq] at hs
      subst hs
      exact run_insertRevocation h
  | reissue agent jti reissued revokedAt =>
      simp only [Plan.mutation, applyReissueMutation, List.getElem?_cons_succ,
        List.getElem?_cons_zero, Option.some.injEq] at hs
      subst hs
      exact run_insertRevocation h

/-- The statements after the second one: those of the session. -/
theorem runGuarded_later {plan : Plan} {n : ℕ} {statement : Statement} {db db' : Database}
    (hs : plan.mutation[n + 2]? = some statement) (h : runGuarded db statement = some db') :
    SameTokens db db' := by
  have hmem : (∃ id at', statement = .revokeSession id at') ∨
      ∃ event, statement = .insertAuthEvent event := by
    cases plan with
    | revoke agent jti session revokedAt =>
        cases session with
        | none => simp [Plan.mutation, applyRevokeMutation] at hs
        | some session =>
            by_cases hactive : session.status = .active
            · have hmem := List.mem_of_getElem? (l := [Statement.revokeSession session.id revokedAt,
                .insertAuthEvent _]) (by simpa [Plan.mutation, applyRevokeMutation, hactive] using hs)
              simp only [List.mem_cons, List.not_mem_nil, or_false] at hmem
              rcases hmem with rfl | rfl
              · exact .inl ⟨_, _, rfl⟩
              · exact .inr ⟨_, rfl⟩
            · simp [Plan.mutation, applyRevokeMutation, hactive] at hs
    | reissue agent jti reissued revokedAt => simp [Plan.mutation, applyReissueMutation] at hs
  rcases hmem with ⟨id, at', rfl⟩ | ⟨event, rfl⟩
  · cases hsess : db.session with
    | none =>
        simp only [runGuarded, Statement.run, hsess, Option.some.injEq] at h
        exact ⟨h ▸ rfl, h ▸ rfl⟩
    | some session =>
        simp only [runGuarded, Statement.run, hsess] at h
        split at h <;> cases h <;> exact ⟨rfl, rfl⟩
  · simp only [runGuarded, Statement.run, Option.some.injEq] at h
    exact ⟨h ▸ rfl, h ▸ rfl⟩

theorem runTransaction_later (plan : Plan) {db db' : Database} (n : ℕ)
    (h : runTransaction db (plan.mutation.drop (n + 2)) = some db') : SameTokens db db' := by
  generalize hrest : plan.mutation.drop (n + 2) = rest at h
  induction rest generalizing n db with
  | nil =>
      cases h
      exact ⟨rfl, rfl⟩
  | cons statement rest ih =>
      obtain ⟨mid, hmid, h⟩ := Option.bind_eq_some_iff.mp h
      have hget : plan.mutation[n + 2]? = some statement := by
        rw [← List.head?_drop, hrest, List.head?_cons]
      have hdrop : plan.mutation.drop (n + 1 + 2) = rest := by
        rw [show n + 1 + 2 = (n + 2) + 1 by omega, ← List.drop_drop, hrest]
        rfl
      obtain ⟨ha, hr⟩ := runGuarded_later hget hmid
      obtain ⟨ha', hr'⟩ := ih (n + 1) hdrop h
      exact ⟨ha'.trans ha, hr'.trans hr⟩

/-- A committed transaction is the update followed by the insertion. -/
theorem runTransaction_mutation {plan : Plan} {db db' : Database}
    (h : runTransaction db plan.mutation = some db') :
    ∃ db₁ db₂, Updates plan db db₁ ∧ Inserts plan db₁ db₂ ∧ SameTokens db₂ db' := by
  obtain ⟨st₀, st₁, rest, hm⟩ : ∃ st₀ st₁ rest, plan.mutation = st₀ :: st₁ :: rest := by
    cases plan with
    | revoke agent jti session revokedAt => exact ⟨_, _, _, rfl⟩
    | reissue agent jti reissued revokedAt => exact ⟨_, _, _, rfl⟩
  rw [hm] at h
  obtain ⟨db₁, h₁, h⟩ := Option.bind_eq_some_iff.mp h
  obtain ⟨db₂, h₂, h⟩ := Option.bind_eq_some_iff.mp h
  refine ⟨db₁, db₂, runGuarded_zero (by rw [hm]; rfl) h₁, runGuarded_one (by rw [hm]; rfl) h₂,
    runTransaction_later plan 0 (by rw [hm]; exact h)⟩

/-! ## What a segment does to the tokens -/

/-- The `jti` that a request has replaced or revoked on the row and inserts next. -/
def Call.pendingJti : Call → Option JsString
  | .mutating plan 1 => some plan.currentJti
  | _ => none

/-- The `jti` that a reissue has put on the row and will answer with. -/
def Call.placedJti : Call → Option JsString
  | .mutating (.reissue _ _ reissued _) (_ + 1) => some reissued.claims.jti
  | _ => none

/-- The request is a `DELETE` that has updated the agent or has answered 204. -/
def Call.HasRevoked : Call → Prop
  | .mutating (.revoke _ _ _ _) (_ + 1) => True
  | .answered .noContent => True
  | _ => False

/-- How one segment of a request moves the tokens: none is lost unless the
request itself is about to insert it. -/
structure Segment (s s' : Shared) (c c' : Call) : Prop where
  revoked_mono : ∀ j ∈ s.db.revokedJtis, j ∈ s'.db.revokedJtis
  pending : ∀ j, c.pendingJti = some j → j ∈ s'.db.revokedJtis ∨ c'.pendingJti = some j
  current : ∀ j, s.db.Current j →
    s'.db.Current j ∨ j ∈ s'.db.revokedJtis ∨ c'.pendingJti = some j
  status : s.db.agent.status = .revoked → s'.db.agent.status = .revoked
  placed : ∀ j, c'.placedJti = some j → c.placedJti = some j ∨ s'.db.Current j ∨
    j ∈ s'.db.revokedJtis
  hasRevoked : c'.HasRevoked → c.HasRevoked ∨ s'.db.agent.status = .revoked
  issued : ∀ j ∈ s'.issued, j ∈ s.issued ∨ c.placedJti = some j

/-- A segment that leaves the shared state as it is. -/
theorem Segment.of_same {s : Shared} {c c' : Call} (hp : ∀ j, c.pendingJti ≠ some j)
    (hplaced : ∀ j, c'.placedJti ≠ some j) (hrev : ¬ c'.HasRevoked) : Segment s s c c' where
  revoked_mono _ hj := hj
  pending j h := absurd h (hp j)
  current _ h := .inl h
  status h := h
  placed j h := absurd h (hplaced j)
  hasRevoked h := absurd h hrev
  issued _ h := .inl h

theorem Updates.eq_currentJti {plan : Plan} {db db' : Database} {j : JsString}
    (h : Updates plan db db') (hok : plan.RevokesCurrent db) (hj : db.Current j) :
    j = plan.currentJti := by
  cases plan with
  | revoke agent jti session revokedAt =>
      exact Option.some.inj (hj.2.symm.trans (hok hj.1))
  | reissue agent jti reissued revokedAt =>
      exact Option.some.inj (hj.2.symm.trans h.2.1.2)

theorem Updates.status {plan : Plan} {db db' : Database} (h : Updates plan db db')
    (hs : db.agent.status = .revoked) : db'.agent.status = .revoked := by
  cases plan with
  | revoke agent jti session revokedAt => exact h.2
  | reissue agent jti reissued revokedAt =>
      have := h.2.1.1
      rw [hs] at this
      cases this

theorem Updates.placed {plan : Plan} {db db' : Database} {n : ℕ} {j : JsString}
    (h : Updates plan db db') (hj : (Call.mutating plan n).placedJti = some j) : db'.Current j := by
  cases plan with
  | revoke agent jti session revokedAt => simp [Call.placedJti] at hj
  | reissue agent jti reissued revokedAt =>
      cases n with
      | zero => simp [Call.placedJti] at hj
      | succ n =>
          cases hj
          exact h.2.2

theorem Updates.hasRevoked {plan : Plan} {db db' : Database} {n : ℕ}
    (h : Updates plan db db') (hr : (Call.mutating plan n).HasRevoked) :
    db'.agent.status = .revoked := by
  cases plan with
  | revoke agent jti session revokedAt => exact h.2
  | reissue agent jti reissued revokedAt => exact hr.elim

theorem current_congr {db db' : Database} (h : db'.agent = db.agent) (j : JsString) :
    db'.Current j ↔ db.Current j := by
  rw [Database.Current, Database.Current, h]

theorem Updates.revokedJtis {plan : Plan} {db db' : Database} (h : Updates plan db db') :
    db'.revokedJtis = db.revokedJtis := by
  rw [Database.revokedJtis, Database.revokedJtis, h.1]

theorem SameTokens.revokedJtis {db db' : Database} (h : SameTokens db db') :
    db'.revokedJtis = db.revokedJtis := by
  rw [Database.revokedJtis, Database.revokedJtis, h.2]

theorem segment_transaction {s : Shared} {db : Database} {plan : Plan}
    (hok : plan.RevokesCurrent s.db) (h : runTransaction s.db plan.mutation = some db) :
    Segment s { s with db } (.ready plan) (.mutating plan plan.mutation.length) := by
  obtain ⟨db₁, db₂, hu, hi, hsame⟩ := runTransaction_mutation h
  have hagent : db.agent = db₁.agent := hsame.1.trans hi.1
  have hrev : ∀ j, j ∈ db.revokedJtis ↔ j = plan.currentJti ∨ j ∈ s.db.revokedJtis := by
    intro j
    rw [hsame.revokedJtis, hi.2 j, hu.revokedJtis]
  exact
    { revoked_mono := fun j hj => (hrev j).mpr (.inr hj)
      pending := fun j hj => by simp [Call.pendingJti] at hj
      current := fun j hj => .inr (.inl ((hrev j).mpr (.inl (hu.eq_currentJti hok hj))))
      status := fun hs => hagent ▸ hu.status hs
      placed := fun j hj => .inr (.inl ((current_congr hagent j).mpr (hu.placed hj)))
      hasRevoked := fun hr => .inr (hagent ▸ hu.hasRevoked hr)
      issued := fun _ hj => .inl hj }

theorem segment_update {s : Shared} {db : Database} {plan : Plan} {statement : Statement}
    (hok : plan.RevokesCurrent s.db) (hs : plan.mutation[0]? = some statement)
    (h : runGuarded s.db statement = some db) :
    Segment s { s with db } (.mutating plan 0) (.mutating plan 1) := by
  have hu := runGuarded_zero hs h
  exact
    { revoked_mono := fun j hj => by simpa only [hu.revokedJtis] using hj
      pending := fun j hj => by simp [Call.pendingJti] at hj
      current := fun j hj => .inr (.inr (congrArg some (hu.eq_currentJti hok hj).symm))
      status := hu.status
      placed := fun j hj => .inr (.inl (hu.placed hj))
      hasRevoked := fun hr => .inr (hu.hasRevoked hr)
      issued := fun _ hj => .inl hj }

theorem placedJti_succ (plan : Plan) (m n : ℕ) :
    (Call.mutating plan (m + 1)).placedJti = (Call.mutating plan (n + 1)).placedJti := by
  cases plan <;> rfl

theorem hasRevoked_succ {plan : Plan} {m n : ℕ} (h : (Call.mutating plan (m + 1)).HasRevoked) :
    (Call.mutating plan (n + 1)).HasRevoked := by
  cases plan with
  | revoke => trivial
  | reissue => exact h.elim

theorem segment_insert {s : Shared} {db : Database} {plan : Plan} {statement : Statement}
    (hs : plan.mutation[1]? = some statement) (h : runGuarded s.db statement = some db) :
    Segment s { s with db } (.mutating plan 1) (.mutating plan 2) := by
  have hi := runGuarded_one hs h
  exact
    { revoked_mono := fun j hj => (hi.2 j).mpr (.inr hj)
      pending := fun j hj => .inl ((hi.2 j).mpr (.inl (Option.some.inj hj).symm))
      current := fun j hj => .inl ((current_congr hi.1 j).mpr hj)
      status := fun hst => hi.1 ▸ hst
      placed := fun j hj => .inl (placedJti_succ plan 0 1 ▸ hj)
      hasRevoked := fun hr => .inl (hasRevoked_succ hr)
      issued := fun _ hj => .inl hj }

theorem segment_later {s : Shared} {db : Database} {plan : Plan} {statement : Statement} {n : ℕ}
    (hs : plan.mutation[n + 2]? = some statement) (h : runGuarded s.db statement = some db) :
    Segment s { s with db } (.mutating plan (n + 2)) (.mutating plan (n + 3)) := by
  have hsame := runGuarded_later hs h
  exact
    { revoked_mono := fun j hj => by simpa only [hsame.revokedJtis] using hj
      pending := fun j hj => by simp [Call.pendingJti] at hj
      current := fun j hj => .inl ((current_congr hsame.1 j).mpr hj)
      status := fun hst => hsame.1 ▸ hst
      placed := fun j hj => .inl (placedJti_succ plan (n + 1) (n + 2) ▸ hj)
      hasRevoked := fun hr => .inl (hasRevoked_succ hr)
      issued := fun _ hj => .inl hj }

theorem segment_answer {s : Shared} {plan : Plan} :
    Segment s { s with issued := plan.answer.issuedJti ++ s.issued }
      (.mutating plan plan.mutation.length) (.answered plan.answer) := by
  obtain ⟨n, hn⟩ : ∃ n, plan.mutation.length = n + 2 := by
    cases plan with
    | revoke => exact ⟨_, rfl⟩
    | reissue => exact ⟨_, rfl⟩
  rw [hn]
  exact
    { revoked_mono := fun _ hj => hj
      pending := fun j hj => by simp [Call.pendingJti] at hj
      current := fun _ hj => .inl hj
      status := fun hs => hs
      placed := fun j hj => by simp [Call.placedJti] at hj
      hasRevoked := fun hr => by
        cases plan with
        | revoke => exact .inl trivial
        | reissue => exact hr.elim
      issued := fun j hj => by
        cases plan with
        | revoke => exact .inl hj
        | reissue agent jti reissued revokedAt =>
            rcases List.mem_cons.mp hj with rfl | hj
            · exact .inr rfl
            · exact .inl hj }

/-- Every segment after the first accounts for the tokens. -/
theorem resume_segment {s s' : Shared} {c c' : Call} {choice : Choice}
    (htx : ∀ plan, c = .ready plan → choice = .transaction → plan.RevokesCurrent s.db)
    (hst : ∀ plan, c = .mutating plan 0 → choice = .statement → plan.RevokesCurrent s.db)
    (h : resume s c choice = some (s', c')) : Segment s s' c c' := by
  unfold resume at h
  split at h
  · cases h
    exact .of_same (by simp [Call.pendingJti]) (by simp [Call.placedJti]) (by simp [Call.HasRevoked])
  · rename_i plan
    split at h <;> cases h
    · rename_i db hdb
      exact segment_transaction (htx plan rfl rfl) hdb
    · exact .of_same (by simp [Call.pendingJti]) (by simp [Call.placedJti])
        (by simp [Call.HasRevoked, stateChanged])
  · cases h
    exact .of_same (by simp [Call.pendingJti]) (by simp [Call.placedJti]) (by simp [Call.HasRevoked])
  · rename_i plan n
    obtain ⟨statement, hs, heq⟩ := Option.map_eq_some_iff.mp h
    split at heq <;> cases heq
    · rename_i db hdb
      match n, hs with
      | 0, hs => exact segment_update (hst plan rfl rfl) hs hdb
      | 1, hs => exact segment_insert hs hdb
      | n + 2, hs => exact segment_later hs hdb
    · rename_i hnone
      -- only the guarded update, the first statement of a reissue, can throw
      have hn : n ≠ 1 := by
        rintro rfl
        cases plan <;>
          simp [Plan.mutation, applyRevokeMutation, applyReissueMutation] at hs <;>
          subst hs <;> simp [runGuarded] at hnone
      refine .of_same (fun j => ?_) (by simp [Call.placedJti]) (by simp [Call.HasRevoked, stateChanged])
      match n, hn with
      | 0, _ => simp [Call.pendingJti]
      | n + 2, _ => simp [Call.pendingJti]
  · rename_i plan n
    split at h <;> cases h
    rename_i hn
    subst hn
    exact segment_answer
  · cases h

/-! ## Whole runs -/

/-- The `jti` is current and active, or revoked, or a request in progress is about
to insert it into `revocations`. -/
def Covered (p : State) (j : JsString) : Prop :=
  p.shared.db.Current j ∨ j ∈ p.shared.db.revokedJtis ∨ ∃ c ∈ p.calls, c.pendingJti = some j

/-- No token is lost: those answered, and those placed on the row by a reissue
that has not answered yet. -/
structure Inv (p : State) : Prop where
  issued : ∀ j ∈ p.shared.issued, Covered p j
  placed : ∀ c ∈ p.calls, ∀ j, c.placedJti = some j → Covered p j
  revoked : ∀ c ∈ p.calls, c.HasRevoked → p.shared.db.agent.status = .revoked

theorem inv_initial {p : State} (h : Initial p) : Inv p where
  issued j hj := (h.issued j hj).imp_right .inl
  placed := by simp [h.no_calls]
  revoked := by simp [h.no_calls]

theorem covered_resume {p : State} {s' : Shared} {i : ℕ} {c c' : Call} {j : JsString}
    (hc : p.calls[i]? = some c) (hseg : Segment p.shared s' c c') (h : Covered p j) :
    Covered ⟨s', p.calls.set i c'⟩ j := by
  rcases h with hcur | hrev | ⟨d, hd, hpend⟩
  · rcases hseg.current j hcur with h | h | h
    · exact .inl h
    · exact .inr (.inl h)
    · exact .inr (.inr ⟨c', mem_set_self hc, h⟩)
  · exact .inr (.inl (hseg.revoked_mono j hrev))
  · rcases mem_set_or_eq hc hd with rfl | hd
    · rcases hseg.pending j hpend with h | h
      · exact .inr (.inl h)
      · exact .inr (.inr ⟨c', mem_set_self hc, h⟩)
    · exact .inr (.inr ⟨d, hd, hpend⟩)

theorem inv_resume {p : State} {s' : Shared} {i : ℕ} {c c' : Call} (hi : Inv p)
    (hc : p.calls[i]? = some c) (hseg : Segment p.shared s' c c') :
    Inv ⟨s', p.calls.set i c'⟩ where
  issued j hj := by
    rcases hseg.issued j hj with hj | hj
    · exact covered_resume hc hseg (hi.issued j hj)
    · exact covered_resume hc hseg (hi.placed c (List.mem_of_getElem? hc) j hj)
  placed d hd j hj := by
    rcases List.mem_or_eq_of_mem_set hd with hd | rfl
    · exact covered_resume hc hseg (hi.placed d hd j hj)
    · rcases hseg.placed j hj with hj | hj | hj
      · exact covered_resume hc hseg (hi.placed c (List.mem_of_getElem? hc) j hj)
      · exact .inl hj
      · exact .inr (.inl hj)
  revoked d hd hr := by
    rcases List.mem_or_eq_of_mem_set hd with hd | rfl
    · exact hseg.status (hi.revoked d hd hr)
    · rcases hseg.hasRevoked hr with hr | hr
      · exact hseg.status (hi.revoked c (List.mem_of_getElem? hc) hr)
      · exact hr

/-- A new request leaves the database as it is and has placed nothing yet. -/
theorem start_cases {s s' : Shared} {request : Request} {c : Call}
    (h : start s request = some (s', c)) :
    s' = s ∧ c.placedJti = none ∧ (c.HasRevoked → s.db.agent.status = .revoked) := by
  cases request with
  | revoke =>
      simp only [start, Option.some.injEq, Prod.mk.injEq] at h
      obtain ⟨rfl, rfl⟩ := h
      refine ⟨rfl, ?_, ?_⟩
      · split
        · rfl
        · split <;> rfl
      · split
        · exact fun _ => by assumption
        · split <;> exact False.elim
  | reissue ownerDid issuer newJti nowMs =>
      simp only [start, Option.some.injEq, Prod.mk.injEq] at h
      obtain ⟨rfl, rfl⟩ := h
      refine ⟨rfl, ?_, ?_⟩
      · split
        · rfl
        · split <;> rfl
      · split
        · exact False.elim
        · split <;> exact False.elim

theorem inv_start {p : State} {c : Call} (hi : Inv p) (hplaced : c.placedJti = none)
    (hrev : c.HasRevoked → p.shared.db.agent.status = .revoked) :
    Inv ⟨p.shared, p.calls ++ [c]⟩ := by
  have hcov : ∀ j, Covered p j → Covered ⟨p.shared, p.calls ++ [c]⟩ j := by
    rintro j (h | h | ⟨d, hd, h⟩)
    · exact .inl h
    · exact .inr (.inl h)
    · exact .inr (.inr ⟨d, List.mem_append_left _ hd, h⟩)
  refine ⟨fun j hj => hcov j (hi.issued j hj), ?_, ?_⟩
  · intro d hd j hj
    rcases List.mem_append.mp hd with hd | hd
    · exact hcov j (hi.placed d hd j hj)
    · rw [List.mem_singleton.mp hd, hplaced] at hj
      cases hj
  · intro d hd hr
    rcases List.mem_append.mp hd with hd | hd
    · exact hi.revoked d hd hr
    · exact hrev (List.mem_singleton.mp hd ▸ hr)

/-- Every step that meets the condition keeps the tokens accounted for. -/
theorem inv_step {p q : State} {e : Event} (hi : Inv p) (hok : revokesCurrent p e = true)
    (h : program.step p e = some q) : Inv q := by
  rcases Program.step_cases h with ⟨request, s, c, rfl, hstart, rfl⟩ |
    ⟨i, choice, c, s, c', rfl, hc, hresume, rfl⟩
  · obtain ⟨rfl, hplaced, hrev⟩ := start_cases hstart
    exact inv_start hi hplaced hrev
  · refine inv_resume hi hc (resume_segment ?_ ?_ hresume)
    · rintro plan rfl rfl
      simpa [revokesCurrent, hc] using hok
    · rintro plan rfl rfl
      simpa [revokesCurrent, hc] using hok

/-- In a state without requests in progress, a covered `jti` is current or revoked. -/
theorem Covered.of_quiescent {p : State} {j : JsString} (h : Covered p j) (hq : Quiescent p) :
    p.shared.db.Current j ∨ j ∈ p.shared.db.revokedJtis := by
  rcases h with h | h | ⟨c, hc, h⟩
  · exact .inl h
  · exact .inr h
  · have := hq c hc
    cases c <;> simp [Call.pendingJti, Call.isAnswered] at h this

/-- **Revocation is complete when no `DELETE` revokes a replaced token.** In every
run in which each agent update of a `DELETE` that finds the row active finds the
`current_jti` that the request read: when no request is in progress, every `jti`
returned to the owner is the current one of an active agent or is revoked; after
a 204 it is revoked; and while requests are in progress after a 204, a `jti` that
is not revoked yet is about to be. -/
theorem tokens_current_or_revoked {p₀ p : State} {es : List Event} (h₀ : Initial p₀)
    (hok : Run.AllSteps program.step (revokesCurrent · ·) p₀ es)
    (hrun : Run.exec program.step p₀ es = some p) :
    (Quiescent p → ∀ j ∈ p.shared.issued,
      p.shared.db.Current j ∨ j ∈ p.shared.db.revokedJtis) ∧
    (Quiescent p → .answered .noContent ∈ p.calls → ∀ j ∈ p.shared.issued,
      j ∈ p.shared.db.revokedJtis) ∧
    (.answered .noContent ∈ p.calls → ∀ j ∈ p.shared.issued,
      j ∈ p.shared.db.revokedJtis ∨ ∃ c ∈ p.calls, c.pendingJti = some j) := by
  have hi : Inv p := Run.exec_invariant Inv (fun _ _ _ hi ho h => inv_step hi ho h)
    (inv_initial h₀) hok hrun
  have hnot : .answered .noContent ∈ p.calls → ∀ j, ¬ p.shared.db.Current j := by
    intro hmem j hcur
    have := hi.revoked _ hmem trivial
    rw [hcur.1] at this
    cases this
  refine ⟨fun hq j hj => (hi.issued j hj).of_quiescent hq, ?_, ?_⟩
  · intro hq hmem j hj
    exact ((hi.issued j hj).of_quiescent hq).resolve_left (hnot hmem j)
  · intro hmem j hj
    exact (hi.issued j hj).resolve_left (hnot hmem j)

/-! ### A reissue between the read and the update of a revocation -/

/-- The `jti`s that the reissues of a run generate. -/
def generatedJtis (es : List Event) : List JsString :=
  es.filterMap fun
    | .start (.reissue _ _ newJti _) => some newJti
    | _ => none

def exampleRow : AgentRow where
  id := js "01HF7YAT00W6W7CM7N3W5FDXT4"
  did := js "did:cdi:registry.example.com:agent:01HF7YAT00W6W7CM7N3W5FDXT4"
  name := js "kai"
  framework := none
  publicKey := js "AAECAwQFBgcICQoLDA0ODxAREhMUFRYXGBkaGxwdHh8"
  status := .active
  expiresAt := none
  currentJti := some (js "01HF7YAT00W6W7CM7N3W5FDXT5")
  updatedAt := 1700000000000

/-- The agent right after its registration. -/
def exampleState : State :=
  ⟨⟨⟨exampleRow, [], none, []⟩, [js "01HF7YAT00W6W7CM7N3W5FDXT5"]⟩, []⟩

theorem exampleState_initial : Initial exampleState where
  no_calls := rfl
  issued j hj := by
    simp only [exampleState, List.mem_singleton] at hj
    subst hj
    exact .inl ⟨rfl, rfl⟩

def exampleReissue : Request :=
  .reissue (js "did:cdi:registry.example.com:human:01HF7YAT00W6W7CM7N3W5FDXT6")
    (js "https://registry.example.com") (js "01HF7YAT00W6W7CM7N3W5FDXT7") 1700000100000

/-- Both requests read the row, the reissue commits, then the revocation does. -/
def exampleRace : List Event :=
  [.start .revoke, .resume 0 (.readSession 1700000100000), .start exampleReissue,
    .resume 1 .transaction, .resume 1 .answer, .resume 0 .transaction, .resume 0 .answer]

theorem exampleRace_run : ∃ p, Run.exec program.step exampleState exampleRace = some p ∧
    Quiescent p ∧ .answered .noContent ∈ p.calls ∧
    js "01HF7YAT00W6W7CM7N3W5FDXT7" ∈ p.shared.issued ∧
    ¬ p.shared.db.Current (js "01HF7YAT00W6W7CM7N3W5FDXT7") ∧
    js "01HF7YAT00W6W7CM7N3W5FDXT7" ∉ p.shared.db.revokedJtis :=
  ⟨_, rfl, by decide⟩

/-- **A `DELETE` can answer 204 and leave the reissued token valid.** -/
theorem not_tokens_current_or_revoked :
    ¬ ∀ (p₀ p : State) (es : List Event), Initial p₀ →
      (p₀.shared.issued ++ generatedJtis es).Nodup →
      Run.exec program.step p₀ es = some p → Quiescent p →
      ∀ j ∈ p.shared.issued, p.shared.db.Current j ∨ j ∈ p.shared.db.revokedJtis := by
  intro h
  obtain ⟨p, hrun, hq, -, hmem, hcur, hrev⟩ := exampleRace_run
  rcases h exampleState p exampleRace exampleState_initial (by decide) hrun hq _ hmem with
    hj | hj
  · exact hcur hj
  · exact hrev hj

/-- The same two requests, statement by statement, with the reissue first. -/
def exampleSequence : List Event :=
  [.start exampleReissue, .resume 0 .fallback, .resume 0 .statement, .resume 0 .statement,
    .resume 0 .answer, .start .revoke, .resume 1 (.readSession 1700000200000),
    .resume 1 .fallback, .resume 1 .statement, .resume 1 .statement, .resume 1 .answer]

theorem exampleSequence_tokens : ∃ p, Run.exec program.step exampleState exampleSequence = some p ∧
    ∀ j ∈ p.shared.issued, j ∈ p.shared.db.revokedJtis := by
  obtain ⟨p, hrun, hq, hmem⟩ : ∃ p, Run.exec program.step exampleState exampleSequence = some p ∧
      Quiescent p ∧ .answered .noContent ∈ p.calls := ⟨_, rfl, by decide⟩
  exact ⟨p, hrun,
    (tokens_current_or_revoked exampleState_initial (by decide) hrun).2.1 hq hmem⟩

end Clawdentity.AgentRevocation
