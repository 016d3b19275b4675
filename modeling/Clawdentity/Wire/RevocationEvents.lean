import Clawdentity.Proxy.RegistryEvents
import Clawdentity.Registry.AgentRegistration
import Clawdentity.Registry.RevocationRetries

/-!
# Announcements of revoked agents

The registry with all its agents, whose requests come one after another and do not fail, and
the proxy that reads its events. A `DELETE` announces that the agent is revoked with the event
of the auth session that it revokes. Where the session is revoked already, nothing is
announced.

## Main definitions

* `registryStep` — a registration, or a request on one of the agents.
* `Announced` — the events have one announcement, from which the proxy reads the DID.
-/

namespace Clawdentity.AgentAuth

open Js Lib Protocol
open AgentRevocation (requireCurrentJti)

/-! ## What a request publishes -/

/-- What a statement publishes. -/
def Statement.events : Statement → List AuthEvent
  | .insertAuthEvent event => [event]
  | _ => []

/-- A statement that throws where it changes no row. -/
def Statement.isGuarded : Statement → Bool
  | .reissueAgent _ _ => true
  | .rotateSession _ _ _ _ => true
  | .touchSession _ _ _ => true
  | _ => false

/-- What a request has published. -/
def published (db next : Database) : List AuthEvent := next.events.drop db.events.length

/-- The event says that the agent itself was revoked. -/
def AuthEvent.isAnnouncement (event : AuthEvent) : Bool :=
  event.eventType = .revoked && event.reason = some AGENT_AUTH_REVOKED_REASON_AGENT_REVOKED

section
variable {platform : Platform}

theorem updateSession_events (db : Database) (matching : SessionRow → Bool)
    (change : SessionRow → SessionRow) :
    (updateSession db matching change).1.events = db.events := by
  unfold updateSession
  split <;> rfl

theorem run_events (db : Database) (statement : Statement) :
    (statement.run platform db).1.events = db.events ++ statement.events := by
  cases statement with
  | revokeAgent => exact (List.append_nil _).symm
  | reissueAgent =>
      simp only [Statement.run, Statement.events, List.append_nil]
      split <;> rfl
  | insertRevocation =>
      simp only [Statement.run, Statement.events, List.append_nil]
      split <;> rfl
  | insertAuthEvent => rfl
  | _ => simp only [Statement.run, Statement.events, List.append_nil, updateSession_events]

theorem runGuarded_of_not_guarded {statement : Statement} (h : statement.isGuarded = false)
    (db : Database) : runGuarded platform db statement = some (statement.run platform db).1 := by
  cases statement <;> first | rfl | exact absurd h (by simp [Statement.isGuarded])

/-- Statements that neither fail nor throw. -/
theorem runFallback_of_not_guarded (platform : Platform) {statements : List Statement}
    (h : ∀ statement ∈ statements, statement.isGuarded = false) (db : Database) :
    (runFallback platform db statements none).1.events =
        db.events ++ statements.flatMap Statement.events ∧
      (runFallback platform db statements none).2 = .completed := by
  induction statements generalizing db with
  | nil => exact ⟨(List.append_nil _).symm, rfl⟩
  | cons statement rest ih =>
      have hfirst : runFallback platform db (statement :: rest) none =
          runFallback platform (statement.run platform db).1 rest none :=
        runFallback_cons_of_run
          (runGuarded_of_not_guarded (h statement List.mem_cons_self) db) (by simp)
      obtain ⟨hevents, hdone⟩ := ih (fun t ht => h t (List.mem_cons_of_mem _ ht))
        (statement.run platform db).1
      rw [hfirst]
      refine ⟨?_, hdone⟩
      rw [hevents, run_events, List.flatMap_cons, List.append_assoc]

/-- The event of a `DELETE` of an agent with an active session. -/
def revokedEvent (agent : AgentRevocation.AgentRow) (session : SessionRow) (revokedAt : ℕ)
    (humanDid : JsString) : AuthEvent where
  agentId := agent.id
  sessionId := session.id
  eventType := .revoked
  reason := some AGENT_AUTH_REVOKED_REASON_AGENT_REVOKED
  metadata := createAgentAuthRevokedMetadata agent.did
  createdAt := revokedAt
  initiatedByAccountId := some humanDid

theorem events_applyRevokeMutation (agent : AgentRevocation.AgentRow) (j : JsString)
    (session : Option SessionRow) (revokedAt : ℕ) (humanDid : JsString) :
    (applyRevokeMutation agent j session revokedAt humanDid).flatMap Statement.events =
      ((session.filter fun session => session.status = .active).map fun session =>
        revokedEvent agent session revokedAt humanDid).toList := by
  unfold applyRevokeMutation revokeSessionStatements
  split
  · rename_i session hsession
    rw [hsession]
    rfl
  · rename_i hsession
    rw [hsession]
    rfl

/-- **What a `DELETE` that revokes an agent publishes**: one event where the session is active,
and nothing otherwise. -/
theorem published_revoke {transactional : Bool} {db : Database} {humanDid : JsString} {env : Env}
    (hactive : db.agent.status = .active)
    (hrevoked : (serve platform transactional db (.revoke humanDid) env none).1.agent.status =
      .revoked) :
    published db (serve platform transactional db (.revoke humanDid) env none).1 =
      ((db.session.filter fun session => session.status = .active).map fun session =>
        revokedEvent db.agent session env.nowMs humanDid).toList := by
  have hne : db.agent.status ≠ .revoked := by simp [hactive]
  cases hj : requireCurrentJti db.agent.currentJti with
  | none =>
      simp [serve, startRequest, startRevoke, hne, hj, serveDecided] at hrevoked
  | some j =>
      have hguards : ∀ statement ∈
          applyRevokeMutation db.agent j db.session env.nowMs humanDid,
          statement.isGuarded = false := by
        intro statement hmem
        unfold applyRevokeMutation revokeSessionStatements at hmem
        split at hmem <;> simp at hmem
        · rcases hmem with rfl | rfl | rfl | rfl <;> rfl
        · rcases hmem with rfl | rfl <;> rfl
      obtain ⟨hevents, hdone⟩ := runFallback_of_not_guarded platform hguards db
      have hserve : (serve platform transactional db (.revoke humanDid) env none).1 =
          (runFallback platform db
            (applyRevokeMutation db.agent j db.session env.nowMs humanDid) none).1 := by
        simp [serve, startRequest, startRevoke, hne, hj, decideSession, serveDecided, servePlan,
          runMutation, Plan.mutation, hdone]
      rw [published, hserve, hevents, List.drop_left, events_applyRevokeMutation]

/-- What every statement keeps, every request keeps. -/
theorem serve_rule {R : Database → Database → Prop} (hrefl : ∀ db, R db db)
    (htrans : ∀ {a b c}, R a b → R b c → R a c)
    (h : ∀ (statement : Statement) db, R db (statement.run platform db).1) (transactional : Bool)
    (db : Database) (request : Request) (env : Env) (fault : Option Fault) :
    R db (serve platform transactional db request env fault).1 := by
  have hplan : ∀ b plan, R db (servePlan platform b db plan fault).1 := by
    intro b plan
    simp only [servePlan, runMutation]
    split
    · exact hrefl db
    · exact runFallback_rule hrefl htrans (fun statement _ => h statement) db _
  have hdecided : ∀ call, R db (serveDecided platform transactional db fault call).1 := by
    intro call
    cases call with
    | ready plan => exact hplan transactional plan
    | mutating plan n => exact hplan false plan
    | _ => exact hrefl db
  unfold serve
  split
  · exact hrefl db
  · split
    · split
      · exact hrefl db
      · exact hdecided _
    · exact hdecided _

theorem run_did (statement : Statement) (db : Database) :
    (statement.run platform db).1.agent.did = db.agent.did := by
  cases hframed : statement.isFramed with
  | true => exact congrArg _ (frame_run hframed db).agent
  | false =>
      cases statement with
      | revokeAgent => rfl
      | reissueAgent | insertRevocation =>
          simp only [Statement.run]
          split <;> rfl
      | _ => exact absurd hframed (by simp [Statement.isFramed])

/-- No request changes the DID of an agent. -/
theorem serve_did (transactional : Bool) (db : Database) (request : Request) (env : Env)
    (fault : Option Fault) :
    (serve platform transactional db request env fault).1.agent.did = db.agent.did :=
  serve_rule (R := fun a b => b.agent.did = a.agent.did) (fun _ => rfl)
    (fun hab hbc => hbc.trans hab) run_did transactional db request env fault

end

end Clawdentity.AgentAuth

namespace Clawdentity.RevocationEvents

open Js Lib Protocol AgentAuth RegistryEvents
open AgentRevocation (Status AgentRow requireCurrentJti)
open AgentRegistration (Human RegistrationBody Fresh buildAgentRegistrationFromParsed)

/-! ## The registry -/

/-- The rows of each agent, in the order of their registration. -/
abbrev Registry := List Database

/-- The row of `agent_auth_sessions` that a registration inserts. -/
def initialSession (platform : Platform) (sessionId : JsString) (issue : AgentAuthIssue) :
    SessionRow where
  id := sessionId
  refreshKeyHash := platform.hashAgentToken issue.refreshToken
  refreshKeyPrefix := deriveRefreshTokenLookupPrefix issue.refreshToken
  refreshIssuedAt := issue.issuedAt
  refreshExpiresAt := issue.refreshExpiresAt
  refreshLastUsedAt := none
  accessKeyHash := platform.hashAgentToken issue.accessToken
  accessKeyPrefix := deriveAccessTokenLookupPrefix issue.accessToken
  accessIssuedAt := issue.issuedAt
  accessExpiresAt := issue.accessExpiresAt
  accessLastUsedAt := none
  status := .active
  revokedAt := none
  createdAt := issue.issuedAt
  updatedAt := issue.issuedAt

/-- The rows that a registration inserts; `none` where its DID is refused. -/
def registered (platform : Platform) (human : Human) (body : RegistrationBody) (fresh : Fresh)
    (env : Env) : Option Database :=
  (makeAgentDid fresh.didAuthority fresh.agentId).map fun did =>
    let agent := buildAgentRegistrationFromParsed human body fresh
    { agent :=
        { id := agent.id, did, name := agent.name, framework := some agent.framework,
          publicKey := agent.publicKey, status := .active, expiresAt := some agent.expiresAt,
          currentJti := some agent.currentJti, updatedAt := agent.createdAt }
      revocations := []
      session := some (initialSession platform fresh.sessionId (issueAgentAuth env.nowMs env))
      events :=
        [{ agentId := agent.id, sessionId := fresh.sessionId, eventType := .issued, reason := none,
           metadata := some (object [("actor", some (.str (js "agent_registration")))]),
           createdAt := env.nowMs, initiatedByAccountId := some human.did }] }

inductive RegistryStep
  | register (human : Human) (body : RegistrationBody) (fresh : Fresh) (env : Env)
  /-- A request on the agent at an index, on a database with transactions or without. -/
  | request (i : ℕ) (transactional : Bool) (request : Request) (env : Env)

/-- A step; a registration needs an id of its own, and a request an agent. -/
def registryStep (platform : Platform) (registry : Registry) : RegistryStep → Option Registry
  | .register human body fresh env =>
      if registry.any fun db => db.agent.id = fresh.agentId then none
      else (registered platform human body fresh env).map fun db => registry ++ [db]
  | .request i transactional request env =>
      registry[i]?.map fun db =>
        registry.set i (serve platform transactional db request env none).1

/-- Exactly one of the events is an announcement, and the proxy reads the DID from it. -/
def Announced (platform : Platform) (events : List AuthEvent) (agentDid : JsString) : Prop :=
  ∃ event, events.filter AuthEvent.isAnnouncement = [event] ∧
    parseRegistryRevocationEvent (event.envelope platform) = .ok (some agentDid)

/-! ## The two ends -/

/-- The proxy reads the DID of the agent from its announcement. -/
theorem parse_revokedEvent (platform : Platform) {agent : AgentRow}
    (hdid : isAgentDid agent.did = true) (session : SessionRow) (revokedAt : ℕ)
    (humanDid : JsString) :
    parseRegistryRevocationEvent ((revokedEvent agent session revokedAt humanDid).envelope
      platform) = .ok (some agent.did) := by
  have hparse := parse_createAgentAuthRevokedMetadata hdid
  have htype : ((revokedEvent agent session revokedAt humanDid).envelope platform).get?
      (js "type") = some (.str AGENT_AUTH_REVOKED_EVENT_TYPE) := get?_object "type" _
  have hdata : ((revokedEvent agent session revokedAt humanDid).envelope platform).get?
      (js "data") = some (object [("agentId", some (.str agent.id)),
        ("sessionId", some (.str session.id)),
        ("reason", some (.str AGENT_AUTH_REVOKED_REASON_AGENT_REVOKED)),
        ("metadata", createAgentAuthRevokedMetadata agent.did)]) := get?_object "data" _
  simp only [parseRegistryRevocationEvent, bind_eq_ok, check_eq_ok, htype, hdata]
  refine ⟨⟨⟩, rfl, ⟨⟩, by simp, ⟨⟩, rfl, ?_⟩
  simp [Json.lookupField, hparse]

/-- Every agent of a registry has an agent DID. -/
theorem isAgentDid_of_run {platform : Platform} {steps : List RegistryStep} {registry : Registry}
    (hrun : Run.exec (registryStep platform) [] steps = some registry) :
    ∀ db ∈ registry, isAgentDid db.agent.did = true := by
  refine Run.exec_invariant_of_step (fun r : Registry => ∀ db ∈ r, isAgentDid db.agent.did = true)
    ?_ (by simp) hrun
  intro r step r' hr hstep
  cases step with
  | register human body fresh env =>
      simp only [registryStep, Option.ite_none_left_eq_some, Option.map_eq_some_iff] at hstep
      obtain ⟨-, db, hdb, rfl⟩ := hstep
      obtain ⟨did, hdid, rfl⟩ := Option.map_eq_some_iff.mp hdb
      intro db hmem
      rcases List.mem_append.mp hmem with hmem | hmem
      · exact hr db hmem
      · rw [List.mem_singleton.mp hmem]
        exact isAgentDid_of_makeAgentDid hdid
  | request i transactional request env =>
      obtain ⟨db, hdb, rfl⟩ := Option.map_eq_some_iff.mp hstep
      intro db' hmem
      rcases List.mem_or_eq_of_mem_set hmem with hmem | rfl
      · exact hr db' hmem
      · rw [serve_did]
        exact hr db (List.mem_of_getElem? hdb)

/-- **A revocation is announced exactly where the session of the agent is active.** -/
theorem revocation_announced_iff {platform : Platform} {steps : List RegistryStep}
    {registry : Registry} {i : ℕ} {db : Database} {transactional : Bool} {humanDid : JsString}
    {env : Env} (hrun : Run.exec (registryStep platform) [] steps = some registry)
    (hdb : registry[i]? = some db) (hactive : db.agent.status = .active)
    (hrevoked : (serve platform transactional db (.revoke humanDid) env none).1.agent.status =
      .revoked) :
    Announced platform
        (published db (serve platform transactional db (.revoke humanDid) env none).1)
        db.agent.did ↔
      db.sessionActive = true := by
  have hdid := isAgentDid_of_run hrun db (List.mem_of_getElem? hdb)
  rw [published_revoke hactive hrevoked]
  cases hsession : db.session.filter fun session => session.status = .active with
  | none =>
      have hinactive : db.sessionActive = false := by
        apply sessionActive_eq_false.mpr
        intro session hdb hactive
        exact Option.filter_eq_none_iff.mp hsession session hdb (decide_eq_true hactive)
      rw [hinactive]
      refine ⟨?_, nofun⟩
      rintro ⟨event, hevents, -⟩
      simp at hevents
  | some session =>
      obtain ⟨hdb, hstatus⟩ := Option.filter_eq_some_iff.mp hsession
      refine ⟨fun _ => ?_, fun _ => ?_⟩
      · rw [Database.sessionActive, hdb, Option.any_some, hstatus]
      · refine ⟨revokedEvent db.agent session env.nowMs humanDid, ?_,
          parse_revokedEvent platform hdid session env.nowMs humanDid⟩
        rw [Option.map_some, Option.toList_some, List.filter_singleton]
        rfl

def exampleOwnerDid : JsString := AgentRegistration.exampleHuman.did

/-- The registration of an agent. -/
def exampleRegistration : RegistryStep :=
  .register AgentRegistration.exampleHuman AgentRegistration.exampleBody
    (AgentRegistration.exampleRequest "01").fresh
    { nowMs := 1700000010000, accessToken := exampleAccessToken,
      refreshToken := exampleRefreshToken }

theorem exampleRegistration_run :
    (Run.exec (registryStep examplePlatform) [] [exampleRegistration]).bind
      (fun registry => registry[0]?.map fun db => (db.agent.status, db.sessionActive,
        (serve examplePlatform true db (.revoke exampleOwnerDid) exampleEnv none).1.agent.status)) =
      some (.active, true, .revoked) := by decide

/-- The agent is announced right after its registration. -/
theorem exampleRegistration_announced : ∃ registry db,
    Run.exec (registryStep examplePlatform) [] [exampleRegistration] = some registry ∧
    registry[0]? = some db ∧
    Announced examplePlatform
      (published db (serve examplePlatform true db (.revoke exampleOwnerDid) exampleEnv none).1)
      db.agent.did := by
  obtain ⟨registry, hrun, h⟩ := Option.bind_eq_some_iff.mp exampleRegistration_run
  obtain ⟨db, hdb, h⟩ := Option.map_eq_some_iff.mp h
  rw [Prod.mk.injEq, Prod.mk.injEq] at h
  obtain ⟨hactive, hsession, hrevoked⟩ := h
  exact ⟨registry, db, hrun, hdb,
    (revocation_announced_iff hrun hdb hactive hrevoked).mpr hsession⟩

/-- The owner revokes the auth session first. -/
def exampleAuthRevoke : RegistryStep := .request 0 true (.authRevoke exampleOwnerDid) exampleEnv

theorem exampleAuthRevoke_run :
    (Run.exec (registryStep examplePlatform) [] [exampleRegistration, exampleAuthRevoke]).bind
      (fun registry => registry[0]?.map fun db => (db.agent.status,
        (serve examplePlatform true db (.revoke exampleOwnerDid) exampleEnv none).1.agent.status,
        published db
          (serve examplePlatform true db (.revoke exampleOwnerDid) exampleEnv none).1)) =
      some (.active, .revoked, []) := by decide

/-- **A `DELETE` can revoke an agent without announcing it.** -/
theorem not_revocation_announced :
    ¬ ∀ (platform : Platform) (steps : List RegistryStep) (registry : Registry) (i : ℕ)
      (db : Database) (transactional : Bool) (humanDid : JsString) (env : Env),
      Run.exec (registryStep platform) [] steps = some registry → registry[i]? = some db →
      db.agent.status = .active →
      (serve platform transactional db (.revoke humanDid) env none).1.agent.status = .revoked →
      Announced platform
        (published db (serve platform transactional db (.revoke humanDid) env none).1)
        db.agent.did := by
  intro h
  obtain ⟨registry, hrun, hread⟩ := Option.bind_eq_some_iff.mp exampleAuthRevoke_run
  obtain ⟨db, hdb, hread⟩ := Option.map_eq_some_iff.mp hread
  rw [Prod.mk.injEq, Prod.mk.injEq] at hread
  obtain ⟨hactive, hrevoked, hnothing⟩ := hread
  obtain ⟨event, hevents, -⟩ := h examplePlatform _ registry 0 db true exampleOwnerDid exampleEnv
    hrun hdb hactive hrevoked
  rw [hnothing] at hevents
  cases hevents

end Clawdentity.RevocationEvents
