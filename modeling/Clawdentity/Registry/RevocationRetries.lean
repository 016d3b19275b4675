import Clawdentity.Lib.Run
import Clawdentity.Registry.AgentAuth

/-!
# Revocation after failed requests

Requests on one agent, one after another, on a database without transactions. Any access to
the database can fail: the request then stops where it is and answers an error. A `DELETE`
that has revoked the agent and stops there is not carried on by the next one, which finds the
agent revoked and answers 204.

## Main definitions

* `Database.FullyRevoked` — what a `DELETE` that answers 204 says of the agent.
* `Harmless` — the failures after which no step of a mutation is missing.
-/

namespace Clawdentity.AgentAuth

open Js Lib
open AgentRevocation (Status AgentRow requireCurrentJti)

/-- A request, with the clock, its generated tokens and the access that fails. -/
structure Served where
  request : Request
  env : Env
  fault : Option Fault
  deriving DecidableEq

/-! ## What a revocation leaves -/

/-- The agent, its `current_jti` and its session are revoked. -/
structure Database.FullyRevoked (db : Database) : Prop where
  status : db.agent.status = .revoked
  current : ∃ j, db.agent.currentJti = some j ∧ j ∈ db.revokedJtis
  session : db.sessionActive = false

/-- An agent that is revoked is fully revoked. -/
def Database.Consistent (db : Database) : Prop :=
  db.agent.status = .revoked → db.FullyRevoked

/-- The `jti` is current or revoked. -/
def Database.Covered (db : Database) (j : JsString) : Prop :=
  db.agent.currentJti = some j ∨ j ∈ db.revokedJtis

/-- The failing statement is not one of a `DELETE` or of a reissue that was still to change
`revocations`, and not the update of an active session by a `DELETE`. -/
def Harmless (db : Database) (e : Served) : Prop :=
  match e.request, e.fault with
  | .revoke _, some (.statement n) =>
      db.agent.status = .active → ∀ j, requireCurrentJti db.agent.currentJti = some j →
        (n = 1 → j ∈ db.revokedJtis) ∧ (n = 1 ∨ n = 2 → db.sessionActive = false)
  | .reissue _ _ newJti, some (.statement n) =>
      db.agent.status = .active → ∀ j, requireCurrentJti db.agent.currentJti = some j →
        n = 1 → newJti = j ∨ j ∈ db.revokedJtis
  | _, _ => True

/-! ## Statements one after another -/

/-- The agent and the revocations are kept, and the session has not become active. -/
structure Frame (db next : Database) : Prop where
  agent : next.agent = db.agent
  revocations : next.revocations = db.revocations
  session : next.sessionActive = true → db.sessionActive = true

theorem Frame.refl (db : Database) : Frame db db := ⟨rfl, rfl, id⟩

theorem Frame.trans {db mid next : Database} (h : Frame db mid) (h' : Frame mid next) :
    Frame db next :=
  ⟨h'.agent.trans h.agent, h'.revocations.trans h.revocations, fun ha => h.session (h'.session ha)⟩

/-- An update of the session where it is active. -/
theorem frame_updateSession {db : Database} {matching : SessionRow → Bool}
    {change : SessionRow → SessionRow}
    (hactive : ∀ session, matching session = true → (change session).status = .active →
      session.status = .active) :
    Frame db (updateSession db matching change).1 := by
  cases hsession : db.session.filter matching with
  | none => simpa only [updateSession, hsession] using Frame.refl db
  | some session =>
      obtain ⟨hdb, hmatching⟩ := Option.filter_eq_some_iff.mp hsession
      simp only [updateSession, hsession]
      refine ⟨rfl, rfl, ?_⟩
      intro hnext
      have hchange : (change session).status = .active := by
        simpa [Database.sessionActive] using hnext
      simp [Database.sessionActive, hdb, hactive session hmatching hchange]

/-- A statement on the session or on the events. -/
def Statement.isFramed : Statement → Bool
  | .revokeAgent _ => false
  | .reissueAgent _ _ => false
  | .insertRevocation _ => false
  | _ => true

section
variable {platform : Platform}

theorem frame_run {statement : Statement} (h : statement.isFramed = true) (db : Database) :
    Frame db (statement.run platform db).1 := by
  cases statement with
  | revokeAgent => exact absurd h Bool.false_ne_true
  | reissueAgent => exact absurd h Bool.false_ne_true
  | insertRevocation => exact absurd h Bool.false_ne_true
  | rotateSession =>
      apply frame_updateSession
      intro session hmatching _
      simp only [Bool.and_eq_true, decide_eq_true_eq] at hmatching
      exact hmatching.1.2
  | touchSession => exact frame_updateSession fun session _ h => h
  | revokeSession =>
      exact frame_updateSession fun session _ h => absurd h (by simp [SessionRow.revoke])
  | expireSession =>
      exact frame_updateSession fun session _ h => absurd h (by simp [SessionRow.revoke])
  | insertAuthEvent => exact ⟨rfl, rfl, id⟩

theorem runFallback_cons (db : Database) (statement : Statement) (rest : List Statement)
    (failing : Option ℕ) :
    runFallback platform db (statement :: rest) failing =
      if failing = some 0 then (db, .failed)
      else (runGuarded platform db statement).elim (db, .unchanged) fun next =>
        runFallback platform next rest (failing.map (· - 1)) := by
  rcases failing with _ | _ | n <;>
    cases hrun : runGuarded platform db statement <;> simp [runFallback, hrun]

/-- Where the rest of the statements fails. -/
theorem eq_succ_of_map_pred {failing : Option ℕ} {n : ℕ} (h : failing.map (· - 1) = some n)
    (hfailing : failing ≠ some 0) : failing = some (n + 1) := by
  obtain ⟨m, rfl, rfl⟩ := Option.map_eq_some_iff.mp h
  have hm : m ≠ 0 := fun hzero => hfailing (congrArg some hzero)
  exact congrArg some (by omega)

/-- The first statement, which fails. -/
theorem runFallback_cons_failing (db : Database) (statement : Statement)
    (rest : List Statement) {failing : Option ℕ} (h : failing = some 0) :
    runFallback platform db (statement :: rest) failing = (db, .failed) := by
  rw [runFallback_cons, if_pos h]

/-- The first statement, which does not fail. -/
theorem runFallback_cons_of_run {db next : Database} {statement : Statement}
    {rest : List Statement} {failing : Option ℕ}
    (h : runGuarded platform db statement = some next) (hfailing : failing ≠ some 0) :
    runFallback platform db (statement :: rest) failing =
      runFallback platform next rest (failing.map (· - 1)) := by
  rw [runFallback_cons, if_neg hfailing, h, Option.elim_some]

/-- What each statement keeps, a part of a mutation keeps. -/
theorem runFallback_rule {R : Database → Database → Prop} (hrefl : ∀ db, R db db)
    (htrans : ∀ {a b c}, R a b → R b c → R a c) {statements : List Statement}
    (h : ∀ statement ∈ statements, ∀ db, R db (statement.run platform db).1) (db : Database)
    (failing : Option ℕ) : R db (runFallback platform db statements failing).1 := by
  induction statements generalizing db failing with
  | nil => exact hrefl db
  | cons statement rest ih =>
      rw [runFallback_cons]
      split
      · exact hrefl db
      · cases hrun : runGuarded platform db statement with
        | none => exact hrefl db
        | some next =>
            have hnext : R db next := by
              rw [← run_of_runGuarded hrun]
              exact h statement List.mem_cons_self db
            exact htrans hnext (ih (fun t ht => h t (List.mem_cons_of_mem _ ht)) next _)

theorem frame_runFallback {statements : List Statement}
    (h : ∀ statement ∈ statements, statement.isFramed = true) (db : Database)
    (failing : Option ℕ) : Frame db (runFallback platform db statements failing).1 :=
  runFallback_rule Frame.refl Frame.trans (fun statement ht => frame_run (h statement ht)) db
    failing

/-! ## The mutation of a `DELETE` -/

/-- A statement of a `DELETE` that has revoked the agent and inserted its `jti`. -/
theorem Frame.fullyRevoked {db next : Database} (h : Frame db next) (hdb : db.FullyRevoked) :
    next.FullyRevoked := by
  obtain ⟨j, hj, hmem⟩ := hdb.current
  refine ⟨h.agent ▸ hdb.status, ⟨j, h.agent ▸ hj, ?_⟩, ?_⟩
  · rw [Database.revokedJtis, h.revocations]
    exact hmem
  · cases hnext : next.sessionActive with
    | false => rfl
    | true => exact absurd (h.session hnext) (by simp [hdb.session])

/-- The agent after the first statement of a `DELETE`. -/
def Database.revokedAgent (db : Database) (revokedAt : ℕ) : Database :=
  { db with agent := { db.agent with status := .revoked, updatedAt := revokedAt } }

theorem runGuarded_revokeAgent (db : Database) (revokedAt : ℕ) :
    runGuarded platform db (.revokeAgent revokedAt) = some (db.revokedAgent revokedAt) := rfl

/-- An insertion into `revocations`, which ignores a `jti` that is there. -/
theorem runGuarded_insertRevocation (platform : Platform) (db : Database)
    (row : AgentRevocation.Revocation) :
    ∃ next, runGuarded platform db (.insertRevocation row) = some next ∧
      next.agent = db.agent ∧ next.session = db.session ∧ row.jti ∈ next.revokedJtis := by
  by_cases hmem : row.jti ∈ db.revokedJtis
  · exact ⟨db, by simp [runGuarded, Statement.run, hmem], rfl, rfl, hmem⟩
  · exact ⟨{ db with revocations := row :: db.revocations },
      by simp [runGuarded, Statement.run, hmem], rfl, rfl, List.mem_cons_self⟩

/-- The statements on a session that is active leave it revoked. -/
theorem sessionActive_revokeSessionStatements {db : Database} {agent : AgentRow} {revokedAt : ℕ}
    {humanDid : JsString} {failing : Option ℕ}
    (h : failing = some 0 → db.sessionActive = false) :
    (runFallback platform db
      (revokeSessionStatements agent db.session revokedAt humanDid) failing).1.sessionActive =
        false := by
  cases hsession : db.session.filter fun session => session.status = .active with
  | none =>
      simp only [revokeSessionStatements, hsession, runFallback]
      apply sessionActive_eq_false.mpr
      intro session hdb hactive
      exact Option.filter_eq_none_iff.mp hsession session hdb (decide_eq_true hactive)
  | some session =>
      obtain ⟨hdb, hstatus⟩ := Option.filter_eq_some_iff.mp hsession
      have hfailing : failing ≠ some 0 := fun hzero =>
        sessionActive_eq_false.mp (h hzero) session hdb (of_decide_eq_true hstatus)
      have hrun : runGuarded platform db (.revokeSession session.id revokedAt) =
          some { db with session := some (session.revoke revokedAt) } := by
        have hupdate : updateSession db
            (fun row => row.id = session.id && row.status = .active)
            (fun row => row.revoke revokedAt) =
              ({ db with session := some (session.revoke revokedAt) }, 1) :=
          updateSession_of_matching hdb (by simpa using hstatus)
        simp only [runGuarded, Statement.run, hupdate]
      simp only [revokeSessionStatements, hsession]
      rw [runFallback_cons_of_run hrun hfailing, runFallback_cons]
      split <;> rfl

theorem framed_revokeSessionStatements {agent : AgentRow} {session : Option SessionRow}
    {revokedAt : ℕ} {humanDid : JsString} :
    ∀ statement ∈ revokeSessionStatements agent session revokedAt humanDid,
      statement.isFramed = true := by
  intro statement hmem
  unfold revokeSessionStatements at hmem
  split at hmem
  · simp only [List.mem_cons, List.not_mem_nil, or_false] at hmem
    rcases hmem with rfl | rfl <;> rfl
  · exact absurd hmem List.not_mem_nil

/-- No statement takes a row out of `revocations`. -/
theorem revokedJtis_run (db : Database) (statement : Statement) {j : JsString}
    (hj : j ∈ db.revokedJtis) : j ∈ (statement.run platform db).1.revokedJtis := by
  cases hframed : statement.isFramed with
  | true =>
      have h : Frame db (statement.run platform db).1 := frame_run hframed db
      rwa [Database.revokedJtis, h.revocations]
  | false =>
      cases statement with
      | revokeAgent => exact hj
      | reissueAgent =>
          simp only [Statement.run]
          split <;> exact hj
      | insertRevocation row =>
          simp only [Statement.run]
          split
          · exact hj
          · exact List.mem_cons_of_mem _ hj
      | _ => exact absurd hframed (by simp [Statement.isFramed])

theorem revokedJtis_runFallback (db : Database) (statements : List Statement)
    (failing : Option ℕ) {j : JsString} (hj : j ∈ db.revokedJtis) :
    j ∈ (runFallback platform db statements failing).1.revokedJtis := by
  have h : j ∈ db.revokedJtis → j ∈ (runFallback platform db statements failing).1.revokedJtis :=
    runFallback_rule (R := fun a b => j ∈ a.revokedJtis → j ∈ b.revokedJtis) (fun _ => id)
      (fun hab hbc ha => hbc (hab ha)) (fun statement _ db => revokedJtis_run db statement) db
      failing
  exact h hj

/-- **The mutation of a `DELETE`, where its failure is harmless**: it fails before its first
statement, or leaves the agent fully revoked. -/
theorem runFallback_revoke (platform : Platform) {db : Database} (agent : AgentRow)
    {j : JsString} (humanDid : JsString) (revokedAt : ℕ) {failing : Option ℕ}
    (hcurrent : db.agent.currentJti = some j)
    (hinsert : failing = some 1 → j ∈ db.revokedJtis)
    (hsession : failing = some 1 ∨ failing = some 2 → db.sessionActive = false) :
    runFallback platform db (applyRevokeMutation agent j db.session revokedAt humanDid) failing =
        (db, .failed) ∨
      (runFallback platform db (applyRevokeMutation agent j db.session revokedAt humanDid)
          failing).1.FullyRevoked ∧
        (runFallback platform db (applyRevokeMutation agent j db.session revokedAt humanDid)
          failing).1.agent.currentJti = some j := by
  by_cases hzero : failing = some 0
  · left
    rw [hzero]
    rfl
  · right
    simp only [applyRevokeMutation, List.cons_append, List.nil_append]
    rw [runFallback_cons_of_run (runGuarded_revokeAgent db revokedAt) hzero]
    by_cases hone : failing = some 1
    · rw [runFallback_cons_failing _ _ _ (by rw [hone]; rfl)]
      exact ⟨⟨rfl, ⟨j, hcurrent, hinsert hone⟩, hsession (.inl hone)⟩, hcurrent⟩
    · obtain ⟨next, hrun, hagent, hkept, hmem⟩ := runGuarded_insertRevocation platform
        (db.revokedAgent revokedAt) { jti := j, agentId := agent.id, reason := none, revokedAt }
      have hnext : next.session = db.session := hkept
      have hfailing : failing.map (· - 1) ≠ some 0 := fun h => hone (eq_succ_of_map_pred h hzero)
      rw [runFallback_cons_of_run hrun hfailing, ← hnext]
      have hframe : ∀ failing, (runFallback platform next
          (revokeSessionStatements agent next.session revokedAt humanDid) failing).1.agent =
            (db.revokedAgent revokedAt).agent := fun failing =>
        (frame_runFallback framed_revokeSessionStatements next failing).agent.trans hagent
      refine ⟨⟨?_, ⟨j, ?_, ?_⟩, ?_⟩, ?_⟩
      · rw [hframe]
        rfl
      · rw [hframe]
        exact hcurrent
      · exact revokedJtis_runFallback next _ _ hmem
      · apply sessionActive_revokeSessionStatements
        intro htwo
        have hdb : db.sessionActive = false :=
          hsession (.inr (eq_succ_of_map_pred (eq_succ_of_map_pred htwo hfailing) hzero))
        rw [Database.sessionActive, hnext]
        exact hdb
      · rw [hframe]
        exact hcurrent

/-! ## The mutation of a reissue -/

/-- **The mutation of a reissue, where its failure is harmless.** -/
theorem runFallback_reissue (platform : Platform) {db : Database} (agent : AgentRow)
    {j : JsString} (reissue : AgentRevocation.AgentReissue) (revokedAt : ℕ) {failing : Option ℕ}
    (hstatus : db.agent.status = .active) (hcurrent : db.agent.currentJti = some j)
    (hinsert : failing = some 1 → reissue.agent.currentJti = j ∨ j ∈ db.revokedJtis) :
    (runFallback platform db (applyReissueMutation agent j reissue revokedAt)
        failing).1.agent.status = .active ∧
      ∀ i, db.Covered i →
        (runFallback platform db (applyReissueMutation agent j reissue revokedAt)
          failing).1.Covered i := by
  by_cases hzero : failing = some 0
  · rw [hzero]
    exact ⟨hstatus, fun i hi => hi⟩
  · obtain ⟨mid, hmid, hagent, hrevocations⟩ : ∃ mid,
        runGuarded platform db (.reissueAgent j reissue.agent) = some mid ∧
          (mid.agent.status = .active ∧ mid.agent.currentJti = some reissue.agent.currentJti) ∧
          mid.revocations = db.revocations := by
      refine ⟨{ db with agent := { db.agent with
          status := .active
          currentJti := some reissue.agent.currentJti
          expiresAt := some reissue.agent.expiresAt
          updatedAt := reissue.agent.updatedAt } }, ?_, ⟨rfl, rfl⟩, rfl⟩
      simp [runGuarded, Statement.run, hstatus, hcurrent]
    simp only [applyReissueMutation]
    rw [runFallback_cons_of_run hmid hzero]
    by_cases hone : failing = some 1
    · rw [runFallback_cons_failing _ _ _ (by rw [hone]; rfl)]
      refine ⟨hagent.1, ?_⟩
      rintro i (hi | hi)
      · have hij : j = i := Option.some.inj (hcurrent.symm.trans hi)
        subst hij
        rcases hinsert hone with hnew | hmem
        · exact .inl (hnew ▸ hagent.2)
        · exact .inr (by simpa only [Database.revokedJtis, hrevocations] using hmem)
      · exact .inr (by simpa only [Database.revokedJtis, hrevocations] using hi)
    · obtain ⟨next, hrun, hnext, -, hmem⟩ := runGuarded_insertRevocation platform mid
        { jti := j, agentId := agent.id, reason := some (js "reissued"), revokedAt }
      have hfailing : failing.map (· - 1) ≠ some 0 := fun h => hone (eq_succ_of_map_pred h hzero)
      rw [runFallback_cons_of_run hrun hfailing]
      refine ⟨by rw [runFallback, hnext]; exact hagent.1, ?_⟩
      rintro i (hi | hi)
      · have hij : j = i := Option.some.inj (hcurrent.symm.trans hi)
        subst hij
        exact .inr hmem
      · have hmid' : i ∈ mid.revokedJtis := by
          simpa only [Database.revokedJtis, hrevocations] using hi
        exact .inr (run_of_runGuarded hrun ▸ revokedJtis_run mid _ hmid')

/-! ## A whole request -/

def Plan.isFramed : Plan → Bool
  | .revoke _ _ _ _ _ => false
  | .reissue _ _ _ _ => false
  | _ => true

/-- A request that does not touch the agent or the revocations. -/
def Call.isFramed : Call → Bool
  | .ready plan => plan.isFramed
  | .mutating plan _ => plan.isFramed
  | .reading (.revoke _ _ _) => false
  | _ => true

theorem framed_mutation {plan : Plan} (h : plan.isFramed = true) :
    ∀ statement ∈ plan.mutation platform, statement.isFramed = true := by
  intro statement hmem
  cases plan with
  | revoke => exact absurd h Bool.false_ne_true
  | reissue => exact absurd h Bool.false_ne_true
  | _ =>
      simp only [Plan.mutation, applyRefreshMutation, applyAuthRevokeMutation, List.mem_cons,
        List.not_mem_nil, or_false] at hmem
      rcases hmem with rfl | rfl <;> rfl

theorem frame_serveDecided {call : Call} (h : call.isFramed = true) (transactional : Bool)
    (db : Database) (fault : Option Fault) :
    Frame db (serveDecided platform transactional db fault call).1 := by
  have hplan : ∀ (b : Bool) (plan : Plan), plan.isFramed = true →
      Frame db (servePlan platform b db plan fault).1 := by
    intro b plan hplan
    simp only [servePlan, runMutation]
    split
    · exact Frame.refl db
    · exact frame_runFallback (framed_mutation hplan) db _
  cases call with
  | ready plan => exact hplan transactional plan h
  | mutating plan n => exact hplan false plan h
  | _ => exact Frame.refl db

/-- A route other than `DELETE` and reissue. -/
theorem framed_startRequest {db : Database} {request : Request} {env : Env}
    (h : (∃ r, request = .refresh r) ∨ (∃ r, request = .validate r) ∨
      ∃ humanDid, request = .authRevoke humanDid) :
    (startRequest db request env).isFramed = true := by
  obtain ⟨r, rfl⟩ | ⟨r, rfl⟩ | ⟨humanDid, rfl⟩ := h
  · simp only [startRequest, startRefresh]
    split
    · rfl
    · split <;> rfl
  · simp only [startRequest, startValidate]
    split
    · rfl
    · split
      · rfl
      · split <;> rfl
  · rfl

theorem framed_decideSession {reading : Reading} {session : Option SessionRow} {env : Env}
    (h : (Call.reading reading).isFramed = true) :
    (decideSession platform reading session env).isFramed = true := by
  cases reading with
  | refresh =>
      simp only [decideSession, decideRefresh]
      split
      · rfl
      · split
        · rfl
        · split
          · rfl
          · split <;> rfl
  | validate =>
      simp only [decideSession, decideValidate]
      split
      · rfl
      · split
        · rfl
        · split
          · rfl
          · split <;> rfl
  | authRevoke =>
      simp only [decideSession, decideAuthRevoke]
      split <;> rfl
  | revoke => exact absurd h Bool.false_ne_true

/-- Such a route, whatever fails. -/
theorem frame_serve {db : Database} {request : Request} (transactional : Bool) (env : Env)
    (fault : Option Fault)
    (h : (∃ r, request = .refresh r) ∨ (∃ r, request = .validate r) ∨
      ∃ humanDid, request = .authRevoke humanDid) :
    Frame db (serve platform transactional db request env fault).1 := by
  have hstart : (startRequest db request env).isFramed = true := framed_startRequest h
  unfold serve
  split
  · exact Frame.refl db
  · split
    · rename_i reading hreading
      split
      · exact Frame.refl db
      · exact frame_serveDecided (framed_decideSession (hreading ▸ hstart)) transactional db fault
    · exact frame_serveDecided hstart transactional db fault

/-- A `DELETE` answers before its mutation, or runs it. -/
theorem serve_revoke_cases (platform : Platform) (db : Database) (humanDid : JsString)
    (env : Env) (fault : Option Fault) :
    (∃ response, serve platform false db (.revoke humanDid) env fault = (db, response) ∧
      (response = .noContent → db.agent.status = .revoked)) ∨
    ∃ j outcome, db.agent.status = .active ∧ requireCurrentJti db.agent.currentJti = some j ∧
      runFallback platform db (applyRevokeMutation db.agent j db.session env.nowMs humanDid)
        (fault.bind Fault.statement?) = outcome ∧
      serve platform false db (.revoke humanDid) env fault = (outcome.1,
        (Plan.revoke db.agent j db.session env.nowMs humanDid).answerOf outcome.2) := by
  by_cases hagent : fault = some .readAgent
  · exact .inl ⟨internalServerError, by simp only [serve, if_pos hagent], nofun⟩
  · cases hstatus : db.agent.status with
    | revoked =>
        refine .inl ⟨.noContent, ?_, fun _ => rfl⟩
        simp only [serve, if_neg hagent, startRequest, startRevoke, if_pos hstatus, serveDecided]
    | active =>
        have hne : db.agent.status ≠ .revoked := by simp [hstatus]
        cases hj : requireCurrentJti db.agent.currentJti with
        | none =>
            refine .inl ⟨revokeStateInvalid "agent.current_jti is required for revocation", ?_,
              nofun⟩
            simp only [serve, if_neg hagent, startRequest, startRevoke, if_neg hne, hj,
              serveDecided]
        | some j =>
            by_cases hsession : fault = some .readSession
            · refine .inl ⟨internalServerError, ?_, nofun⟩
              simp only [serve, if_neg hagent, startRequest, startRevoke, if_neg hne, hj,
                if_pos hsession]
            · refine .inr ⟨j, _, rfl, rfl, rfl, ?_⟩
              simp only [serve, if_neg hagent, startRequest, startRevoke, if_neg hne, hj,
                if_neg hsession, decideSession, serveDecided, servePlan, runMutation,
                Bool.false_and, Bool.false_eq_true, if_false, Plan.mutation]

/-- A reissue answers before its mutation, or runs it. -/
theorem serve_reissue_cases (platform : Platform) (db : Database)
    (humanDid issuer newJti : JsString) (env : Env) (fault : Option Fault) :
    (serve platform false db (.reissue humanDid issuer newJti) env fault).1 = db ∨
    ∃ j, db.agent.status = .active ∧ requireCurrentJti db.agent.currentJti = some j ∧
      (serve platform false db (.reissue humanDid issuer newJti) env fault).1 =
        (runFallback platform db
          (applyReissueMutation db.agent j
            (AgentRevocation.buildAgentReissue db.agent humanDid issuer newJti env.nowMs) env.nowMs)
          (fault.bind Fault.statement?)).1 := by
  by_cases hagent : fault = some .readAgent
  · exact .inl (by simp only [serve, if_pos hagent])
  · cases hstatus : db.agent.status with
    | revoked =>
        left
        simp only [serve, if_neg hagent, startRequest, startReissue, if_pos hstatus, serveDecided]
    | active =>
        have hne : db.agent.status ≠ .revoked := by simp [hstatus]
        cases hj : requireCurrentJti db.agent.currentJti with
        | none =>
            left
            simp only [serve, if_neg hagent, startRequest, startReissue, if_neg hne, hj,
              serveDecided]
        | some j =>
            refine .inr ⟨j, rfl, rfl, ?_⟩
            simp only [serve, if_neg hagent, startRequest, startReissue, if_neg hne, hj,
              serveDecided, servePlan, runMutation, Bool.false_and, Bool.false_eq_true, if_false,
              Plan.mutation]

theorem bind_statement_eq_some {fault : Option Fault} {n : ℕ}
    (h : fault.bind Fault.statement? = some n) : fault = some (.statement n) := by
  obtain ⟨f, rfl, hf⟩ := Option.bind_eq_some_iff.mp h
  cases f with
  | statement m => exact congrArg (fun k => some (Fault.statement k)) (Option.some.inj hf)
  | readAgent => cases hf
  | readSession => cases hf

/-- The `jti` that a request requires is that of the agent. -/
theorem eq_some_of_requireCurrentJti {currentJti : Option JsString} {j : JsString}
    (h : requireCurrentJti currentJti = some j) : currentJti = some j :=
  (Option.filter_eq_some_iff.mp h).1

/-! ## Runs -/

/-- One request, and the database that it leaves. -/
def servedStep (platform : Platform) (db : Database) (e : Served) : Option Database :=
  some (serve platform false db e.request e.env e.fault).1

/-- What a request whose failure is harmless keeps. -/
structure Kept (db : Database) (request : Request) (next : Database) (response : Response) :
    Prop where
  consistent : next.Consistent
  covered : ∀ j, db.Covered j → next.Covered j
  revoked : ∀ humanDid, request = .revoke humanDid → response = .noContent → next.FullyRevoked

theorem Frame.kept {db next : Database} {request : Request} {response : Response}
    (h : Frame db next) (hdb : db.Consistent) (hrequest : ∀ humanDid, request ≠ .revoke humanDid) :
    Kept db request next response := by
  refine ⟨?_, ?_, fun humanDid he => absurd he (hrequest humanDid)⟩
  · intro hstatus
    exact h.fullyRevoked (hdb (h.agent ▸ hstatus))
  · intro j hj
    rw [Database.Covered, Database.revokedJtis, h.agent, h.revocations]
    exact hj

/-- **One request.** -/
theorem kept_serve (platform : Platform) {db : Database} {e : Served} (hdb : db.Consistent)
    (he : Harmless db e) :
    Kept db e.request (serve platform false db e.request e.env e.fault).1
      (serve platform false db e.request e.env e.fault).2 := by
  obtain ⟨request, env, fault⟩ := e
  cases request with
  | refresh r => exact (frame_serve false env fault (.inl ⟨r, rfl⟩)).kept hdb nofun
  | validate r => exact (frame_serve false env fault (.inr (.inl ⟨r, rfl⟩))).kept hdb nofun
  | authRevoke humanDid =>
      exact (frame_serve false env fault (.inr (.inr ⟨humanDid, rfl⟩))).kept hdb nofun
  | revoke humanDid =>
      obtain ⟨response, hserve, hresponse⟩ | ⟨j, outcome, hstatus, hj, hrun, hserve⟩ :=
        serve_revoke_cases platform db humanDid env fault
      · rw [hserve]
        exact ⟨hdb, fun _ h => h, fun _ _ h => hdb (hresponse h)⟩
      · have hharmless : ∀ n, fault.bind Fault.statement? = some n →
            (n = 1 → j ∈ db.revokedJtis) ∧ (n = 1 ∨ n = 2 → db.sessionActive = false) := by
          intro n hn
          rw [bind_statement_eq_some hn] at he
          exact he hstatus j hj
        have hcurrent := eq_some_of_requireCurrentJti hj
        have hmutation := runFallback_revoke platform db.agent humanDid env.nowMs hcurrent
          (fun h => (hharmless 1 h).1 rfl)
          (fun h => h.elim (fun h => (hharmless 1 h).2 (.inl rfl))
            fun h => (hharmless 2 h).2 (.inr rfl))
        rw [hrun] at hmutation
        rw [hserve]
        rcases hmutation with rfl | ⟨hrevoked, hnext⟩
        · exact ⟨hdb, fun _ h => h, nofun⟩
        · refine ⟨fun _ => hrevoked, ?_, fun _ _ _ => hrevoked⟩
          rintro i (hi | hi)
          · exact .inl (by rw [hnext, ← hcurrent, hi])
          · exact .inr (hrun ▸ revokedJtis_runFallback db _ _ hi)
  | reissue humanDid issuer newJti =>
      rcases serve_reissue_cases platform db humanDid issuer newJti env fault with
        hserve | ⟨j, hstatus, hj, hserve⟩
      · rw [hserve]
        exact ⟨hdb, fun _ h => h, nofun⟩
      · have hinsert : fault.bind Fault.statement? = some 1 → newJti = j ∨ j ∈ db.revokedJtis := by
          intro hone
          rw [bind_statement_eq_some hone] at he
          exact he hstatus j hj rfl
        obtain ⟨hactive, hcovered⟩ := runFallback_reissue platform db.agent
          (AgentRevocation.buildAgentReissue db.agent humanDid issuer newJti env.nowMs) env.nowMs
          hstatus (eq_some_of_requireCurrentJti hj) hinsert
        rw [hserve]
        refine ⟨?_, hcovered, nofun⟩
        intro hrevoked
        rw [hactive] at hrevoked
        cases hrevoked

theorem kept_run {db₀ db : Database} {es : List Served} (hdb : db₀.Consistent)
    (hok : Run.AllSteps (servedStep platform) Harmless db₀ es)
    (hrun : Run.exec (servedStep platform) db₀ es = some db) :
    db.Consistent ∧ ∀ j, db₀.Covered j → db.Covered j := by
  refine Run.exec_invariant (fun s => s.Consistent ∧ ∀ j, db₀.Covered j → s.Covered j) ?_
    ⟨hdb, fun _ h => h⟩ hok hrun
  intro s e t hs he hstep
  have hkept := kept_serve platform hs.1 he
  obtain rfl := Option.some.inj hstep
  exact ⟨hkept.consistent, fun j hj => hkept.covered j (hs.2 j hj)⟩

end

/-- **Revocation takes effect where every failure is harmless.** A `DELETE` that answers 204
leaves the agent, its `current_jti` and its session revoked, and after every request each
`jti` that was current before is current or revoked. -/
theorem revocation_takes_effect {platform : Platform} {db₀ past db : Database}
    {es fs : List Served} {e : Served} (hdb : db₀.Consistent)
    (hok : Run.AllSteps (servedStep platform) Harmless db₀ (es ++ (fs ++ [e])))
    (hpast : Run.exec (servedStep platform) db₀ es = some past)
    (hrun : Run.exec (servedStep platform) past fs = some db) :
    (∀ humanDid, e.request = .revoke humanDid →
      (serve platform false db e.request e.env e.fault).2 = .noContent →
      (serve platform false db e.request e.env e.fault).1.FullyRevoked) ∧
    ∀ j, past.agent.currentJti = some j →
      (serve platform false db e.request e.env e.fault).1.agent.currentJti ≠ some j →
      j ∈ (serve platform false db e.request e.env e.fault).1.revokedJtis := by
  obtain ⟨hes, hrest⟩ := Run.allSteps_append.mp hok
  obtain ⟨hfs, hlast⟩ := Run.allSteps_append.mp (hrest past hpast)
  obtain ⟨hconsistent, -⟩ := kept_run hdb hes hpast
  obtain ⟨hdb', hcovered⟩ := kept_run hconsistent hfs hrun
  have hkept := kept_serve platform hdb' (hlast db hrun).1
  refine ⟨hkept.revoked, ?_⟩
  intro j hj hne
  exact (hkept.covered j (hcovered j (.inl hj))).resolve_left hne

/-- A `DELETE` one of whose accesses fails. -/
def exampleServed (fault : Option Fault) : Served :=
  ⟨.revoke exampleHumanDid, exampleEnv, fault⟩

theorem exampleDatabase_consistent : exampleDatabase.Consistent := nofun

/-- A `DELETE` whose read of the session fails, and its retry. -/
theorem exampleRetry_takes_effect : ∃ db,
    Run.exec (servedStep examplePlatform) exampleDatabase [exampleServed (some .readSession)] =
      some db ∧
    (serve examplePlatform false db (.revoke exampleHumanDid) exampleEnv none).1.FullyRevoked := by
  have hrun : Run.exec (servedStep examplePlatform) exampleDatabase
      [exampleServed (some .readSession)] = some exampleDatabase := rfl
  have hok : Run.AllSteps (servedStep examplePlatform) Harmless exampleDatabase
      ([] ++ ([exampleServed (some .readSession)] ++ [exampleServed none])) :=
    ⟨trivial, fun _ _ => ⟨trivial, fun _ _ => trivial⟩⟩
  exact ⟨exampleDatabase, hrun,
    (revocation_takes_effect exampleDatabase_consistent hok rfl hrun).1 exampleHumanDid rfl
      (by decide)⟩

/-- **A `DELETE` can answer 204 where the agent's token and session are still valid**: the
insertion into `revocations` failed, and the retry finds the agent revoked. -/
theorem not_revocation_takes_effect :
    ¬ ∀ (platform : Platform) (db₀ db : Database) (es : List Served) (e : Served),
      db₀.Consistent → Run.exec (servedStep platform) db₀ es = some db →
      ∀ humanDid, e.request = .revoke humanDid →
        (serve platform false db e.request e.env e.fault).2 = .noContent →
        (serve platform false db e.request e.env e.fault).1.FullyRevoked := by
  intro h
  have hrevoked := h examplePlatform exampleDatabase _ [exampleServed (some (.statement 1))]
    (exampleServed none) exampleDatabase_consistent rfl exampleHumanDid rfl (by decide)
  have hactive := hrevoked.session
  revert hactive
  decide

end Clawdentity.AgentAuth
