import Clawdentity.Lib.Interleave
import Clawdentity.Registry.AgentAuth
import Mathlib.Data.Set.Function

/-!
# Single use of refresh tokens

Any number of requests on one agent, interleaved between any two of their accesses to the
database; no statement fails. A refresh writes a new pair of tokens where the session still
has the hash of the token that was presented. The state carries the pairs that were written,
and the tokens that refreshes have exchanged.

## Main definitions

* `program` — the code of a request, cut between its accesses to the database.
* `FreshTokens` — a refresh generates tokens that were not generated before.
* `Inv` — the session holds the last pair, and each token that was replaced was exchanged once.
-/

namespace Clawdentity.AgentAuth

open Js Lib Lib.Interleave
open AgentRevocation (Status AgentRow)

/-! ## The program -/

/-- The database, the pairs of tokens that were written to the session with the last one
first, the refresh tokens that were generated, and those that were exchanged. -/
structure Shared where
  db : Database
  issued : List AgentAuthIssue
  generated : List JsString
  exchanged : List JsString
  deriving DecidableEq

/-- How a suspended request goes on. -/
inductive Choice
  | readSession (env : Env)
  /-- Run the whole mutation in one transaction. -/
  | transaction
  /-- The transaction could not begin: go on statement by statement. -/
  | fallback
  /-- Run the next statement of the fallback. -/
  | statement
  /-- Send the answer. -/
  | answer
  deriving DecidableEq

/-- The pair that a statement writes to the session. -/
def Statement.rotated : Statement → List AgentAuthIssue
  | .rotateSession _ _ rotated _ => [rotated]
  | _ => []

/-- The refresh token that a request has generated. -/
def Call.generatedToken : Call → List JsString
  | .ready (.refresh rotation) => [rotation.rotated.refreshToken]
  | _ => []

/-- The refresh token that a successful answer exchanges. -/
def Plan.exchangedToken : Plan → List JsString
  | .refresh rotation => [rotation.refreshToken]
  | _ => []

section
variable (platform : Platform)

/-- The first segment: the read of the agent and the checks on it. -/
def start (s : Shared) (arg : Request × Env) : Option (Shared × Call) :=
  some (s, startRequest s.db arg.1 arg.2)

/-- The later segments. -/
def resume (s : Shared) : Call → Choice → Option (Shared × Call)
  | .reading reading, .readSession env =>
      let call := decideSession platform reading s.db.session env
      some ({ s with generated := call.generatedToken ++ s.generated }, call)
  | .ready plan, .transaction =>
      match runTransaction platform s.db (plan.mutation platform) with
      | some db =>
          some ({ s with db, issued := (plan.mutation platform).flatMap Statement.rotated ++ s.issued },
            .finished plan)
      | none => some (s, .answered plan.conflict)
  | .ready plan, .fallback => some (s, .mutating plan 0)
  | .mutating plan n, .statement =>
      (plan.mutation platform)[n]?.map fun statement =>
        match runGuarded platform s.db statement with
        | some db => ({ s with db, issued := statement.rotated ++ s.issued }, .mutating plan (n + 1))
        | none => (s, .answered plan.conflict)
  | .mutating plan n, .answer =>
      if n = (plan.mutation platform).length then
        some ({ s with exchanged := plan.exchangedToken ++ s.exchanged }, .answered plan.answer)
      else none
  | .finished plan, .answer =>
      some ({ s with exchanged := plan.exchangedToken ++ s.exchanged }, .answered plan.answer)
  | _, _ => none

/-- The routes on one agent. -/
def program : Program Shared Call (Request × Env) Choice := ⟨start, resume platform⟩

end

abbrev State := Pool Shared Call
abbrev Event := Move (Request × Env) Choice

/-! ## What the routes accept -/

/-- A refresh of an active session accepts the token. -/
def Database.AcceptsRefresh (platform : Platform) (db : Database) (token : JsString) : Prop :=
  ∃ session, db.session = some session ∧ session.status = .active ∧
    refreshTokenMatches platform session token = true

/-- A validation of an active session accepts the token. -/
def Database.AcceptsAccess (platform : Platform) (db : Database) (token : JsString) : Prop :=
  ∃ session, db.session = some session ∧ session.status = .active ∧
    accessTokenMatches platform session token = true

/-- The session holds the hashes and the prefixes of the pair. -/
structure SessionRow.Holds (platform : Platform) (session : SessionRow) (issue : AgentAuthIssue) :
    Prop where
  refreshHash : session.refreshKeyHash = platform.hashAgentToken issue.refreshToken
  refreshPrefix : session.refreshKeyPrefix = deriveRefreshTokenLookupPrefix issue.refreshToken
  accessHash : session.accessKeyHash = platform.hashAgentToken issue.accessToken
  accessPrefix : session.accessKeyPrefix = deriveAccessTokenLookupPrefix issue.accessToken

/-- No request has been made, and the session holds the pair of the registration. -/
structure Initial (platform : Platform) (T : Set JsString) (p : State) : Prop where
  no_calls : p.calls = []
  exchanged : p.shared.exchanged = []
  issued : ∃ issue, p.shared.issued = [issue] ∧ issue.refreshToken ∈ T ∧ issue.accessToken ∈ T ∧
    p.shared.generated = [issue.refreshToken] ∧
    ∀ session, p.shared.db.session = some session → session.Holds platform issue

/-- What a request that reads the session next has read. -/
def Call.reading? : Call → Option Reading
  | .reading r => some r
  | _ => none

/-- The tokens of a step are in `T`, and a refresh token that it generates is fresh. -/
def FreshTokens (platform : Platform) (T : Set JsString) (p : State) : Event → Prop
  | .start (.refresh request, _) =>
      ∀ token ∈ parseRefreshToken (some request.refreshToken), token ∈ T
  | .resume i (.readSession env) =>
      ∀ reading ∈ (p.calls[i]?).bind Call.reading?, ∀ token ∈
        (decideSession platform reading p.shared.db.session env).generatedToken,
        token ∈ T ∧ env.accessToken ∈ T ∧ token ∉ p.shared.generated
  | _ => True

instance (platform : Platform) (T : Set JsString) [DecidablePred (· ∈ T)] (p : State) :
    ∀ e, Decidable (FreshTokens platform T p e)
  | .start (.refresh _, _) => inferInstanceAs (Decidable (∀ _ ∈ _, _))
  | .resume _ (.readSession _) => inferInstanceAs (Decidable (∀ _ ∈ _, ∀ _ ∈ _, _ ∧ _ ∧ _))
  | .start (.validate _, _) | .start (.authRevoke _, _) | .start (.revoke _, _)
  | .start (.reissue _ _ _, _) | .resume _ .transaction | .resume _ .fallback
  | .resume _ .statement | .resume _ .answer => isTrue trivial

/-! ## What a statement does to the session -/

/-- The pair of the session is kept, and a revoked session stays revoked. -/
def KeepsTokens (session session' : Option SessionRow) : Prop :=
  session' = session ∨ ∃ a b, session = some a ∧ session' = some b ∧
    (b.refreshKeyHash = a.refreshKeyHash ∧ b.refreshKeyPrefix = a.refreshKeyPrefix) ∧
    (b.accessKeyHash = a.accessKeyHash ∧ b.accessKeyPrefix = a.accessKeyPrefix) ∧
    (b.status = .active → a.status = .active)

theorem KeepsTokens.refl (session : Option SessionRow) : KeepsTokens session session := .inl rfl

theorem KeepsTokens.trans {a b c : Option SessionRow} (h : KeepsTokens a b)
    (h' : KeepsTokens b c) : KeepsTokens a c := by
  rcases h with rfl | ⟨x, y, rfl, rfl, hrefresh, haccess, hstatus⟩
  · exact h'
  · rcases h' with rfl | ⟨y', z, hy, rfl, hrefresh', haccess', hstatus'⟩
    · exact .inr ⟨x, y, rfl, rfl, hrefresh, haccess, hstatus⟩
    · obtain rfl := Option.some.inj hy
      exact .inr ⟨x, z, rfl, rfl, ⟨hrefresh'.1.trans hrefresh.1, hrefresh'.2.trans hrefresh.2⟩,
        ⟨haccess'.1.trans haccess.1, haccess'.2.trans haccess.2⟩,
        fun h => hstatus (hstatus' h)⟩

theorem KeepsTokens.holds {platform : Platform} {session session' : Option SessionRow}
    {issue : AgentAuthIssue} (h : KeepsTokens session session')
    (hold : ∀ row, session = some row → row.Holds platform issue) :
    ∀ row, session' = some row → row.Holds platform issue := by
  intro row hrow
  rcases h with rfl | ⟨a, b, ha, hb, hrefresh, haccess, -⟩
  · exact hold row hrow
  · obtain rfl := Option.some.inj (hb.symm.trans hrow)
    have h := hold a ha
    exact ⟨hrefresh.1.trans h.refreshHash, hrefresh.2.trans h.refreshPrefix,
      haccess.1.trans h.accessHash, haccess.2.trans h.accessPrefix⟩

theorem keepsTokens_updateSession {db : Database} {matching : SessionRow → Bool}
    {change : SessionRow → SessionRow}
    (hchange : ∀ a, KeepsTokens (some a) (some (change a))) :
    KeepsTokens db.session (updateSession db matching change).1.session := by
  cases hsession : db.session.filter matching with
  | none =>
      simp only [updateSession, hsession]
      exact .refl _
  | some a =>
      obtain ⟨hdb, hmatching⟩ := Option.filter_eq_some_iff.mp hsession
      rw [updateSession_of_matching hdb hmatching, hdb]
      exact hchange a

section
variable {platform : Platform}

/-- Every statement but the update of a refresh keeps the pair. -/
theorem keepsTokens_run {statement : Statement} (h : statement.rotated = []) (db : Database) :
    KeepsTokens db.session (statement.run platform db).1.session := by
  cases statement with
  | revokeAgent => exact .refl _
  | reissueAgent | insertRevocation =>
      simp only [Statement.run]
      split <;> exact .refl _
  | rotateSession => cases h
  | touchSession =>
      exact keepsTokens_updateSession fun a => .inr ⟨a, _, rfl, rfl, ⟨rfl, rfl⟩, ⟨rfl, rfl⟩, id⟩
  | revokeSession | expireSession =>
      exact keepsTokens_updateSession fun a => .inr ⟨a, _, rfl, rfl, ⟨rfl, rfl⟩, ⟨rfl, rfl⟩, nofun⟩
  | insertAuthEvent => exact .refl _

/-- The update of a refresh throws, or finds the session active with the token's hash. -/
theorem runGuarded_rotateSession {db next : Database} {id refreshHash : JsString}
    {rotated : AgentAuthIssue} {refreshedAt : ℕ}
    (h : runGuarded platform db (.rotateSession id refreshHash rotated refreshedAt) = some next) :
    ∃ session, db.session = some session ∧ session.status = .active ∧
      session.refreshKeyHash = refreshHash ∧
      next = { db with session := some (session.rotate platform rotated refreshedAt) } := by
  simp only [runGuarded, Statement.run] at h
  cases hsession : db.session.filter fun session =>
      session.id = id && session.status = .active && session.refreshKeyHash = refreshHash with
  | none =>
      simp only [updateSession, hsession] at h
      cases h
  | some session =>
      obtain ⟨hdb, hmatching⟩ := Option.filter_eq_some_iff.mp hsession
      simp only [Bool.and_eq_true, decide_eq_true_eq] at hmatching
      simp only [updateSession, hsession, Option.some.injEq] at h
      exact ⟨session, hdb, hmatching.1.2, hmatching.2, h.symm⟩

end

/-! ## What a segment does -/

/-- The refresh token that a request may still write to the session. -/
def Call.pendingToken : Call → Option JsString
  | .ready (.refresh rotation) => some rotation.rotated.refreshToken
  | .mutating (.refresh rotation) 0 => some rotation.rotated.refreshToken
  | _ => none

/-- The refresh token that a request has replaced, and for which it has not answered yet. -/
def Call.consumedToken : Call → Option JsString
  | .mutating (.refresh rotation) (_ + 1) => some rotation.refreshToken
  | .finished (.refresh rotation) => some rotation.refreshToken
  | _ => none

/-- The tokens of a request are in `T`. -/
def Call.TokensIn (T : Set JsString) : Call → Prop
  | .reading (.refresh _ refreshToken _ _) => refreshToken ∈ T
  | .ready (.refresh rotation) | .mutating (.refresh rotation) _ | .finished (.refresh rotation) =>
      rotation.refreshToken ∈ T ∧ rotation.rotated.refreshToken ∈ T ∧
        rotation.rotated.accessToken ∈ T
  | _ => True

/-- What a segment does to the tokens. -/
inductive TokenMove (platform : Platform) (s s' : Shared) (c c' : Call) : Prop
  /-- Nothing, apart from a revocation or from giving up. -/
  | keep (db : KeepsTokens s.db.session s'.db.session) (issued : s'.issued = s.issued)
      (generated : s'.generated = s.generated) (exchanged : s'.exchanged = s.exchanged)
      (pending : ∀ t, c'.pendingToken = some t → c.pendingToken = some t)
      (consumed : c'.consumedToken = c.consumedToken)
  /-- A refresh generates its tokens. -/
  | generate (token : JsString) (db : s'.db = s.db) (issued : s'.issued = s.issued)
      (generated : s'.generated = token :: s.generated) (exchanged : s'.exchanged = s.exchanged)
      (before : c.pendingToken = none) (pending : c'.pendingToken = some token)
      (consumed : c'.consumedToken = c.consumedToken)
  /-- A refresh writes them where the session still has the token that was presented. -/
  | rotate (rotation : Rotation) (session : SessionRow) (found : s.db.session = some session)
      (active : session.status = .active)
      (presented : session.refreshKeyHash = platform.hashAgentToken rotation.refreshToken)
      (written : s'.db.session =
        some (session.rotate platform rotation.rotated rotation.refreshedAt))
      (issued : s'.issued = rotation.rotated :: s.issued) (generated : s'.generated = s.generated)
      (exchanged : s'.exchanged = s.exchanged)
      (before : c = .ready (.refresh rotation) ∨ c = .mutating (.refresh rotation) 0)
      (pending : c'.pendingToken = none)
      (consumed : c'.consumedToken = some rotation.refreshToken)
  /-- A refresh answers. -/
  | answer (token : JsString) (db : s'.db = s.db) (issued : s'.issued = s.issued)
      (generated : s'.generated = s.generated) (exchanged : s'.exchanged = token :: s.exchanged)
      (before : c.pendingToken = none) (pending : c'.pendingToken = none)
      (consumed : c.consumedToken = some token) (done : c'.consumedToken = none)

section
variable {platform : Platform}

/-- Of the plans, only a refresh writes a pair. -/
theorem rotated_mutation (platform : Platform) {plan : Plan} (h : ∀ rotation, plan ≠ .refresh rotation) :
    ∀ statement ∈ plan.mutation platform, statement.rotated = [] := by
  intro statement hmem
  cases plan with
  | refresh rotation => exact absurd rfl (h rotation)
  | rejectRefresh | validate =>
      rw [List.mem_singleton.mp hmem]
      rfl
  | expireRefresh | authRevoke | reissue =>
      simp only [Plan.mutation, applyAuthRevokeMutation, applyReissueMutation, List.mem_cons,
        List.not_mem_nil, or_false] at hmem
      rcases hmem with rfl | rfl <;> rfl
  | revoke agent currentJti existingSession revokedAt humanDid =>
      simp only [Plan.mutation, applyRevokeMutation, revokeSessionStatements] at hmem
      split at hmem <;>
        simp only [List.cons_append, List.nil_append, List.mem_cons, List.not_mem_nil,
          or_false] at hmem
      · rcases hmem with rfl | rfl | rfl | rfl <;> rfl
      · rcases hmem with rfl | rfl <;> rfl

theorem keepsTokens_runGuarded {statement : Statement} (h : statement.rotated = [])
    {db next : Database} (hrun : runGuarded platform db statement = some next) :
    KeepsTokens db.session next.session :=
  run_of_runGuarded hrun ▸ keepsTokens_run h db

theorem keepsTokens_runTransaction {statements : List Statement}
    (h : ∀ statement ∈ statements, statement.rotated = []) {db next : Database}
    (hrun : runTransaction platform db statements = some next) :
    KeepsTokens db.session next.session := by
  induction statements generalizing db with
  | nil =>
      obtain rfl := Option.some.inj hrun
      exact .refl _
  | cons statement rest ih =>
      obtain ⟨mid, hmid, hrest⟩ := Option.bind_eq_some_iff.mp hrun
      exact (keepsTokens_runGuarded (h statement List.mem_cons_self) hmid).trans
        (ih (fun t ht => h t (List.mem_cons_of_mem _ ht)) hrest)

/-- What a request decides from the session: a refresh with its new tokens, or something that
writes no pair. -/
theorem decideSession_tokens (platform : Platform) (reading : Reading)
    (session : Option SessionRow) (env : Env) :
    (∃ agent refreshToken ownerDid nowMillis row, reading = .refresh agent refreshToken ownerDid
      nowMillis ∧ decideSession platform reading session env = .ready (.refresh
        { agent, session := row, refreshToken, rotated := issueAgentAuth nowMillis env,
          refreshedAt := env.nowMs, ownerDid })) ∨
    ((decideSession platform reading session env).generatedToken = [] ∧
      (decideSession platform reading session env).pendingToken = none ∧
      (decideSession platform reading session env).consumedToken = none ∧
      ∀ T, (decideSession platform reading session env).TokensIn T) := by
  cases reading with
  | refresh agent refreshToken ownerDid nowMillis =>
      simp only [decideSession, decideRefresh]
      split
      · exact .inr ⟨rfl, rfl, rfl, fun _ => trivial⟩
      · rename_i row
        split
        · exact .inr ⟨rfl, rfl, rfl, fun _ => trivial⟩
        · split
          · exact .inr ⟨rfl, rfl, rfl, fun _ => trivial⟩
          · split
            · exact .inr ⟨rfl, rfl, rfl, fun _ => trivial⟩
            · exact .inl ⟨agent, refreshToken, ownerDid, nowMillis, row, rfl, rfl⟩
  | validate =>
      right
      simp only [decideSession, decideValidate]
      split
      · exact ⟨rfl, rfl, rfl, fun _ => trivial⟩
      · split
        · exact ⟨rfl, rfl, rfl, fun _ => trivial⟩
        · split
          · exact ⟨rfl, rfl, rfl, fun _ => trivial⟩
          · split <;> exact ⟨rfl, rfl, rfl, fun _ => trivial⟩
  | authRevoke =>
      right
      simp only [decideSession, decideAuthRevoke]
      split <;> exact ⟨rfl, rfl, rfl, fun _ => trivial⟩
  | revoke => exact .inr ⟨rfl, rfl, rfl, fun _ => trivial⟩

/-- A mutation that is not that of a refresh has no tokens. -/
theorem Plan.tokens_of_ne {plan : Plan} (h : ∀ rotation, plan ≠ .refresh rotation) (n : ℕ) :
    plan.exchangedToken = [] ∧ (Call.ready plan).pendingToken = none ∧
      (Call.mutating plan n).pendingToken = none ∧ (Call.mutating plan n).consumedToken = none ∧
      (Call.finished plan).consumedToken = none := by
  cases plan with
  | refresh rotation => exact absurd rfl (h rotation)
  | _ => exact ⟨rfl, rfl, rfl, rfl, rfl⟩

/-- The mutation of a refresh: its guarded update, and its event. -/
theorem rotate_of_runGuarded {db next : Database} {rotation : Rotation}
    (h : runGuarded platform db (.rotateSession rotation.session.id
      (platform.hashAgentToken rotation.refreshToken) rotation.rotated rotation.refreshedAt) =
        some next) :
    ∃ session, db.session = some session ∧ session.status = .active ∧
      session.refreshKeyHash = platform.hashAgentToken rotation.refreshToken ∧
      next.session = some (session.rotate platform rotation.rotated rotation.refreshedAt) := by
  obtain ⟨session, hdb, hactive, hhash, rfl⟩ := runGuarded_rotateSession h
  exact ⟨session, hdb, hactive, hhash, rfl⟩

/-- The segments of a request after its read of the agent, by how they end. -/
inductive Segment (platform : Platform) (s : Shared) : Call → Choice → Shared → Call → Prop
  | decide (reading : Reading) (env : Env) :
      Segment platform s (.reading reading) (.readSession env)
        { s with generated :=
            (decideSession platform reading s.db.session env).generatedToken ++ s.generated }
        (decideSession platform reading s.db.session env)
  | commit {plan : Plan} {db : Database}
      (hrun : runTransaction platform s.db (plan.mutation platform) = some db) :
      Segment platform s (.ready plan) .transaction
        { s with db, issued := (plan.mutation platform).flatMap Statement.rotated ++ s.issued }
        (.finished plan)
  | rollback (plan : Plan) :
      Segment platform s (.ready plan) .transaction s (.answered plan.conflict)
  | fallback (plan : Plan) : Segment platform s (.ready plan) .fallback s (.mutating plan 0)
  | statement {plan : Plan} {n : ℕ} {statement : Statement} {db : Database}
      (hstatement : (plan.mutation platform)[n]? = some statement)
      (hrun : runGuarded platform s.db statement = some db) :
      Segment platform s (.mutating plan n) .statement
        { s with db, issued := statement.rotated ++ s.issued } (.mutating plan (n + 1))
  | abandon {plan : Plan} {n : ℕ} {statement : Statement}
      (hstatement : (plan.mutation platform)[n]? = some statement)
      (hrun : runGuarded platform s.db statement = none) :
      Segment platform s (.mutating plan n) .statement s (.answered plan.conflict)
  | answerMutating (plan : Plan) :
      Segment platform s (.mutating plan (plan.mutation platform).length) .answer
        { s with exchanged := plan.exchangedToken ++ s.exchanged } (.answered plan.answer)
  | answerFinished (plan : Plan) :
      Segment platform s (.finished plan) .answer
        { s with exchanged := plan.exchangedToken ++ s.exchanged } (.answered plan.answer)

theorem segment_of_resume {s s' : Shared} {c c' : Call} {choice : Choice}
    (h : resume platform s c choice = some (s', c')) : Segment platform s c choice s' c' := by
  cases c with
  | reading reading =>
      cases choice with
      | readSession env =>
          cases h
          exact .decide reading env
      | _ => cases h
  | ready plan =>
      cases choice with
      | transaction =>
          simp only [resume] at h
          split at h
          · rename_i db hrun
            cases h
            exact .commit hrun
          · cases h
            exact .rollback plan
      | fallback =>
          cases h
          exact .fallback plan
      | _ => cases h
  | mutating plan n =>
      cases choice with
      | statement =>
          simp only [resume, Option.map_eq_some_iff] at h
          obtain ⟨statement, hstatement, h⟩ := h
          split at h
          · rename_i db hrun
            cases h
            exact .statement hstatement hrun
          · rename_i hrun
            cases h
            exact .abandon hstatement hrun
      | answer =>
          simp only [resume, Option.ite_none_right_eq_some] at h
          obtain ⟨rfl, h⟩ := h
          cases h
          exact .answerMutating plan
      | _ => cases h
  | finished plan =>
      cases choice with
      | answer =>
          cases h
          exact .answerFinished plan
      | _ => cases h
  | answered response => cases choice <;> cases h

/-- A transaction of a refresh. -/
theorem move_transaction_refresh {s : Shared} {db : Database} {rotation : Rotation}
    (h : runTransaction platform s.db ((Plan.refresh rotation).mutation platform) = some db) :
    TokenMove platform s
      { s with db, issued :=
          ((Plan.refresh rotation).mutation platform).flatMap Statement.rotated ++ s.issued }
      (.ready (.refresh rotation)) (.finished (.refresh rotation)) := by
  obtain ⟨mid, hmid, hrest⟩ := Option.bind_eq_some_iff.mp h
  obtain ⟨session, hdb, hactive, hhash, hsession⟩ := rotate_of_runGuarded hmid
  have hdone : db.session = mid.session := by
    obtain ⟨last, hlast, hnil⟩ := Option.bind_eq_some_iff.mp hrest
    obtain rfl := Option.some.inj hnil
    rw [← run_of_runGuarded hlast]
    rfl
  exact .rotate rotation session hdb hactive hhash (hdone.trans hsession) rfl rfl rfl (.inl rfl)
    rfl rfl

/-- A transaction of another plan. -/
theorem move_transaction_of_ne {s : Shared} {db : Database} {plan : Plan}
    (hne : ∀ rotation, plan ≠ .refresh rotation)
    (h : runTransaction platform s.db (plan.mutation platform) = some db) :
    TokenMove platform s
      { s with db, issued := (plan.mutation platform).flatMap Statement.rotated ++ s.issued }
      (.ready plan) (.finished plan) := by
  have hrotated := rotated_mutation platform hne
  obtain ⟨-, -, -, -, hfinished⟩ := plan.tokens_of_ne hne 0
  refine .keep (keepsTokens_runTransaction hrotated h) ?_ rfl rfl nofun (hfinished.trans rfl)
  rw [List.flatMap_eq_nil_iff.mpr hrotated]
  rfl

/-- A statement of a refresh that is not in a transaction. -/
theorem move_statement_refresh {s : Shared} {rotation : Rotation} {n : ℕ} {statement : Statement}
    {db : Database} (hstatement : ((Plan.refresh rotation).mutation platform)[n]? = some statement)
    (hrun : runGuarded platform s.db statement = some db) :
    TokenMove platform s { s with db, issued := statement.rotated ++ s.issued }
      (.mutating (.refresh rotation) n) (.mutating (.refresh rotation) (n + 1)) := by
  cases n with
  | zero =>
      obtain rfl := Option.some.inj hstatement
      obtain ⟨session, hdb, hactive, hhash, hsession⟩ := rotate_of_runGuarded hrun
      exact .rotate rotation session hdb hactive hhash hsession rfl rfl rfl (.inr rfl) rfl rfl
  | succ n =>
      cases n with
      | zero =>
          obtain rfl := Option.some.inj hstatement
          exact .keep (keepsTokens_runGuarded rfl hrun) rfl rfl rfl nofun rfl
      | succ n => cases hstatement

/-- A statement of another plan that is not in a transaction. -/
theorem move_statement_of_ne {s : Shared} {plan : Plan} {n : ℕ} {statement : Statement}
    {db : Database} (hne : ∀ rotation, plan ≠ .refresh rotation)
    (hstatement : (plan.mutation platform)[n]? = some statement)
    (hrun : runGuarded platform s.db statement = some db) :
    TokenMove platform s { s with db, issued := statement.rotated ++ s.issued }
      (.mutating plan n) (.mutating plan (n + 1)) := by
  obtain ⟨-, -, -, hconsumed, -⟩ := plan.tokens_of_ne hne n
  obtain ⟨-, -, hpending', hconsumed', -⟩ := plan.tokens_of_ne hne (n + 1)
  have hrotated : statement.rotated = [] :=
    rotated_mutation platform hne statement (List.mem_of_getElem? hstatement)
  exact .keep (keepsTokens_runGuarded hrotated hrun) (by rw [hrotated]; rfl) rfl rfl
    (by rw [hpending']; exact nofun) (hconsumed'.trans hconsumed.symm)

/-- A statement that throws outside a transaction: of a refresh it can only be the guarded update. -/
theorem move_abandon {s : Shared} {plan : Plan} {n : ℕ} {statement : Statement}
    (hstatement : (plan.mutation platform)[n]? = some statement)
    (hrun : runGuarded platform s.db statement = none) :
    TokenMove platform s s (.mutating plan n) (.answered plan.conflict) := by
  refine .keep (.refl _) rfl rfl rfl nofun ?_
  by_cases hplan : ∃ rotation, plan = .refresh rotation
  · obtain ⟨rotation, rfl⟩ := hplan
    cases n with
    | zero => rfl
    | succ n =>
        cases n with
        | zero =>
            obtain rfl := Option.some.inj hstatement
            cases hrun
        | succ n => cases hstatement
  · have hne : ∀ rotation, plan ≠ .refresh rotation := fun r hr => hplan ⟨r, hr⟩
    exact (plan.tokens_of_ne hne n).2.2.2.1.symm

/-- An answer after the mutation. -/
theorem move_answer {s : Shared} {plan : Plan} {c : Call}
    (hpending : c.pendingToken = none)
    (hconsumed : ∀ rotation, plan = .refresh rotation →
      c.consumedToken = some rotation.refreshToken)
    (hne : (∀ rotation, plan ≠ .refresh rotation) → c.consumedToken = none) :
    TokenMove platform s { s with exchanged := plan.exchangedToken ++ s.exchanged } c
      (.answered plan.answer) := by
  by_cases hplan : ∃ rotation, plan = .refresh rotation
  · obtain ⟨rotation, rfl⟩ := hplan
    exact .answer rotation.refreshToken rfl rfl rfl rfl hpending rfl (hconsumed rotation rfl) rfl
  · have hother : ∀ rotation, plan ≠ .refresh rotation := fun r hr => hplan ⟨r, hr⟩
    obtain ⟨hexchanged, -⟩ := plan.tokens_of_ne hother 0
    exact .keep (.refl _) rfl rfl (by rw [hexchanged]; rfl) nofun (hne hother ▸ rfl)

/-- **What one segment does to the tokens.** -/
theorem resume_move {s s' : Shared} {c c' : Call} {choice : Choice}
    (h : resume platform s c choice = some (s', c')) : TokenMove platform s s' c c' := by
  cases segment_of_resume h with
  | decide reading env =>
      obtain ⟨agent, refreshToken, ownerDid, nowMillis, row, rfl, hcall⟩ |
        ⟨hgenerated, hpending, hconsumed, -⟩ :=
          decideSession_tokens platform reading s.db.session env
      · rw [hcall]
        exact .generate env.refreshToken rfl rfl rfl rfl rfl rfl rfl
      · exact .keep (.refl _) rfl (by rw [hgenerated]; rfl) rfl
          (by rw [hpending]; exact nofun) hconsumed
  | @commit plan db hrun =>
      by_cases hplan : ∃ rotation, plan = .refresh rotation
      · obtain ⟨rotation, rfl⟩ := hplan
        exact move_transaction_refresh hrun
      · exact move_transaction_of_ne (fun r hr => hplan ⟨r, hr⟩) hrun
  | rollback plan => exact .keep (.refl _) rfl rfl rfl nofun rfl
  | fallback plan =>
      refine .keep (.refl _) rfl rfl rfl ?_ ?_
      · cases plan <;> exact fun _ ht => ht
      · cases plan <;> rfl
  | @statement plan n statement db hstatement hrun =>
      by_cases hplan : ∃ rotation, plan = .refresh rotation
      · obtain ⟨rotation, rfl⟩ := hplan
        exact move_statement_refresh hstatement hrun
      · exact move_statement_of_ne (fun r hr => hplan ⟨r, hr⟩) hstatement hrun
  | abandon hstatement hrun => exact move_abandon hstatement hrun
  | answerMutating plan =>
      refine move_answer ?_ ?_ ?_
      · cases plan <;> rfl
      · rintro rotation rfl
        rfl
      · exact fun hne => (plan.tokens_of_ne hne _).2.2.2.1
  | answerFinished plan =>
      refine move_answer rfl ?_ ?_
      · rintro rotation rfl
        rfl
      · exact fun hne => (plan.tokens_of_ne hne 0).2.2.2.2

/-! ## The tokens of a request -/

theorem tokensIn_start {T : Set JsString} {p : State} {request : Request} {env : Env}
    (hok : FreshTokens platform T p (.start (request, env))) (db : Database) :
    (startRequest db request env).TokensIn T := by
  cases request with
  | refresh request =>
      simp only [startRequest, startRefresh]
      split
      · trivial
      · rename_i token htoken
        split
        · trivial
        · exact hok token htoken
  | validate request =>
      simp only [startRequest, startValidate]
      split
      · trivial
      · split
        · trivial
        · split <;> trivial
  | authRevoke => trivial
  | revoke =>
      simp only [startRequest, startRevoke]
      split
      · trivial
      · split <;> trivial
  | reissue =>
      simp only [startRequest, startReissue]
      split
      · trivial
      · split <;> trivial

/-- A request that starts has no tokens. -/
theorem tokens_start (db : Database) (request : Request) (env : Env) :
    (startRequest db request env).pendingToken = none ∧
      (startRequest db request env).consumedToken = none := by
  cases request with
  | refresh request =>
      simp only [startRequest, startRefresh]
      split
      · exact ⟨rfl, rfl⟩
      · split <;> exact ⟨rfl, rfl⟩
  | validate request =>
      simp only [startRequest, startValidate]
      split
      · exact ⟨rfl, rfl⟩
      · split
        · exact ⟨rfl, rfl⟩
        · split <;> exact ⟨rfl, rfl⟩
  | authRevoke => exact ⟨rfl, rfl⟩
  | revoke =>
      simp only [startRequest, startRevoke]
      split
      · exact ⟨rfl, rfl⟩
      · split <;> exact ⟨rfl, rfl⟩
  | reissue =>
      simp only [startRequest, startReissue]
      split
      · exact ⟨rfl, rfl⟩
      · split <;> exact ⟨rfl, rfl⟩

/-- A refresh that reads the session takes new tokens of `T`. -/
theorem FreshTokens.generated {T : Set JsString} {p : State} {i : ℕ} {reading : Reading} {env : Env}
    (hok : FreshTokens platform T p (.resume i (.readSession env)))
    (hc : p.calls[i]? = some (.reading reading)) :
    ∀ token ∈ (decideSession platform reading p.shared.db.session env).generatedToken,
      token ∈ T ∧ env.accessToken ∈ T ∧ token ∉ p.shared.generated :=
  hok reading (by rw [hc]; rfl)

theorem tokensIn_resume {T : Set JsString} {p : State} {i : ℕ} {c c' : Call} {s' : Shared}
    {choice : Choice} (hok : FreshTokens platform T p (.resume i choice))
    (hc : p.calls[i]? = some c) (hT : c.TokensIn T)
    (h : resume platform p.shared c choice = some (s', c')) : c'.TokensIn T := by
  cases segment_of_resume h with
  | decide reading env =>
      obtain ⟨agent, refreshToken, ownerDid, nowMillis, row, rfl, hcall⟩ | ⟨-, -, -, hother⟩ :=
        decideSession_tokens platform reading p.shared.db.session env
      · have hfresh := hok.generated hc env.refreshToken (by rw [hcall]; exact List.mem_cons_self)
        rw [hcall]
        exact ⟨hT, hfresh.1, hfresh.2.1⟩
      · exact hother T
  | @commit plan => cases plan <;> exact hT
  | fallback plan => cases plan <;> exact hT
  | @statement plan => cases plan <;> exact hT
  | rollback | abandon | answerMutating | answerFinished => trivial

end

/-! ## The invariant -/

/-- The request may still write the refresh token. -/
def Call.pends (token : JsString) (c : Call) : Bool := c.pendingToken = some token

/-- The request has replaced the refresh token and has not answered yet. -/
def Call.consumes (token : JsString) (c : Call) : Bool := c.consumedToken = some token

/-- The refresh tokens that were written to the session. -/
def Shared.written (s : Shared) : List JsString := s.issued.map AgentAuthIssue.refreshToken

/-- The refresh tokens that were replaced. -/
def Shared.replaced (s : Shared) : List JsString := s.written.tail

structure Inv (platform : Platform) (T : Set JsString) (p : State) : Prop where
  tokensIn : ∀ c ∈ p.calls, c.TokensIn T
  /-- The session has the last pair. -/
  last : ∃ last ∈ p.shared.issued.head?, (last.refreshToken ∈ T ∧ last.accessToken ∈ T) ∧
    ∀ session, p.shared.db.session = some session → session.Holds platform last
  /-- A token is written once, or is still to be written by one request. -/
  distinct : ∀ t, p.calls.countP (Call.pends t) + p.shared.written.count t ≤ 1
  pending_generated : ∀ c ∈ p.calls, ∀ t, c.pendingToken = some t → t ∈ p.shared.generated
  written_generated : ∀ t ∈ p.shared.written, t ∈ p.shared.generated
  /-- Each token that was replaced was exchanged, or will be by the request that replaced it. -/
  exchanged : ∀ t, p.shared.exchanged.count t + p.calls.countP (Call.consumes t) =
    p.shared.replaced.count t

section
variable {platform : Platform} {T : Set JsString} {p : State}

theorem inv_initial (h : Initial platform T p) : Inv platform T p := by
  obtain ⟨issue, hissued, hrefresh, haccess, hgenerated, hsession⟩ := h.issued
  have hwritten : p.shared.written = [issue.refreshToken] := by
    rw [Shared.written, hissued]
    rfl
  refine ⟨by simp [h.no_calls], ⟨issue, by rw [hissued]; rfl, ⟨hrefresh, haccess⟩, hsession⟩,
    ?_, by simp [h.no_calls], ?_, ?_⟩
  · intro t
    rw [h.no_calls, hwritten, List.countP_nil, Nat.zero_add]
    exact List.count_le_length
  · rw [hwritten, hgenerated]
    exact fun t ht => ht
  · intro t
    rw [h.no_calls, h.exchanged, Shared.replaced, hwritten]
    rfl

/-- A token that no request and no pair has is new. -/
theorem Inv.not_generated (hp : Inv platform T p) {t : JsString} (ht : t ∉ p.shared.generated) :
    p.calls.countP (Call.pends t) = 0 ∧ p.shared.written.count t = 0 := by
  refine ⟨List.countP_eq_zero.mpr ?_, List.count_eq_zero.mpr ?_⟩
  · intro c hc hpends
    exact ht (hp.pending_generated c hc t (of_decide_eq_true hpends))
  · exact fun hmem => ht (hp.written_generated t hmem)

/-- A new request. -/
theorem inv_start (hp : Inv platform T p) {request : Request} {env : Env}
    (hok : FreshTokens platform T p (.start (request, env))) :
    Inv platform T ⟨p.shared, p.calls ++ [startRequest p.shared.db request env]⟩ := by
  obtain ⟨hpending, hconsumed⟩ := tokens_start p.shared.db request env
  have hcountP : ∀ q : Call → Bool, q (startRequest p.shared.db request env) = false →
      (p.calls ++ [startRequest p.shared.db request env]).countP q = p.calls.countP q := by
    intro q hq
    simp [hq]
  refine ⟨?_, hp.last, ?_, ?_, hp.written_generated, ?_⟩
  · intro c hc
    rcases List.mem_append.mp hc with hc | hc
    · exact hp.tokensIn c hc
    · rw [List.mem_singleton.mp hc]
      exact tokensIn_start hok p.shared.db
  · intro t
    rw [hcountP _ (by simp [Call.pends, hpending])]
    exact hp.distinct t
  · intro c hc t ht
    rcases List.mem_append.mp hc with hc | hc
    · exact hp.pending_generated c hc t ht
    · rw [List.mem_singleton.mp hc, hpending] at ht
      cases ht
  · intro t
    rw [hcountP _ (by simp [Call.consumes, hconsumed])]
    exact hp.exchanged t

/-- Where the pending tokens of a resumed request come from. -/
theorem pending_set {i : ℕ} {c' : Call} {s' : Shared} (hp : Inv platform T p)
    (hgenerated : ∀ t ∈ p.shared.generated, t ∈ s'.generated)
    (hc' : ∀ t, c'.pendingToken = some t → t ∈ s'.generated) :
    ∀ c ∈ p.calls.set i c', ∀ t, c.pendingToken = some t → t ∈ s'.generated := by
  intro c hc t ht
  rcases List.mem_or_eq_of_mem_set hc with hc | rfl
  · exact hgenerated t (hp.pending_generated c hc t ht)
  · exact hc' t ht

/-- A refresh that generates its token generates a new one. -/
theorem fresh_resume {i : ℕ} {c c' : Call} {s' : Shared} {choice : Choice}
    (hok : FreshTokens platform T p (.resume i choice)) (hc : p.calls[i]? = some c)
    (h : resume platform p.shared c choice = some (s', c')) {t : JsString}
    (hnone : c.pendingToken = none) (ht : c'.pendingToken = some t) :
    t ∉ p.shared.generated := by
  cases segment_of_resume h with
  | decide reading env =>
      obtain ⟨agent, refreshToken, ownerDid, nowMillis, row, rfl, hcall⟩ | ⟨-, hother, -⟩ :=
        decideSession_tokens platform reading p.shared.db.session env
      · have hfresh := hok.generated hc env.refreshToken (by rw [hcall]; exact List.mem_cons_self)
        rw [hcall] at ht
        obtain rfl := Option.some.inj ht
        exact hfresh.2.2
      · rw [hother] at ht
        cases ht
  | fallback plan =>
      have hsame : (Call.mutating plan 0).pendingToken = (Call.ready plan).pendingToken := by
        cases plan <;> rfl
      rw [hsame, hnone] at ht
      cases ht
  | @statement plan => cases plan <;> cases ht
  | commit | rollback | abandon | answerMutating | answerFinished => cases ht

theorem Call.count_pendingToken (c : Call) (t : JsString) :
    c.pendingToken.toList.count t = if c.pends t then 1 else 0 := by
  unfold Call.pends
  cases c.pendingToken with
  | none => simp
  | some token => simp [List.count_singleton]

theorem Call.count_consumedToken (c : Call) (t : JsString) :
    c.consumedToken.toList.count t = if c.consumes t then 1 else 0 := by
  unfold Call.consumes
  cases c.consumedToken with
  | none => simp
  | some token => simp [List.count_singleton]

theorem written_of_issued {s s' : Shared} (h : s'.issued = s.issued) : s'.written = s.written := by
  rw [Shared.written, h, Shared.written]

section
variable {i : ℕ} {c c' : Call} {s' : Shared}

/-- The token that a refresh has presented is the last one, because its hash is the one of the
session. -/
theorem Inv.presented (hinj : Set.InjOn platform.hashAgentToken T) (hp : Inv platform T p)
    {refreshToken : JsString} {session : SessionRow} (hT : refreshToken ∈ T)
    (found : p.shared.db.session = some session)
    (presented : session.refreshKeyHash = platform.hashAgentToken refreshToken) :
    p.shared.written = refreshToken :: p.shared.replaced := by
  obtain ⟨last, hlast, hmem, hsession⟩ := hp.last
  have heq : refreshToken = last.refreshToken :=
    hinj hT hmem.1 (presented.symm.trans (hsession session found).refreshHash)
  obtain ⟨rest, hissued⟩ : ∃ rest, p.shared.issued = last :: rest :=
    List.head?_eq_some_iff.mp hlast
  rw [Shared.replaced, Shared.written, hissued, heq]
  rfl

theorem last_resume (hp : Inv platform T p) (hcT : c.TokensIn T)
    (hmove : TokenMove platform p.shared s' c c') :
    ∃ last ∈ s'.issued.head?, (last.refreshToken ∈ T ∧ last.accessToken ∈ T) ∧
      ∀ session, s'.db.session = some session → session.Holds platform last := by
  cases hmove with
  | keep db issued =>
      obtain ⟨last, hlast, hmem, hsession⟩ := hp.last
      exact ⟨last, by rw [issued]; exact hlast, hmem, db.holds hsession⟩
  | generate token db issued | answer token db issued =>
      rw [issued, db]
      exact hp.last
  | rotate rotation session found active presented written issued generated exchanged before =>
      have hrotation : rotation.rotated.refreshToken ∈ T ∧ rotation.rotated.accessToken ∈ T := by
        rcases before with rfl | rfl <;> exact hcT.2
      refine ⟨rotation.rotated, by rw [issued]; rfl, hrotation, ?_⟩
      intro row hrow
      obtain rfl := Option.some.inj (written.symm.trans hrow)
      exact ⟨rfl, rfl, rfl, rfl⟩

theorem distinct_resume (hp : Inv platform T p) (hc : p.calls[i]? = some c)
    (hmove : TokenMove platform p.shared s' c c')
    (hfresh : ∀ t, c.pendingToken = none → c'.pendingToken = some t → t ∉ p.shared.generated)
    (t : JsString) : (p.calls.set i c').countP (Call.pends t) + s'.written.count t ≤ 1 := by
  have hcount := countP_set_add (Call.pends t) c' hc
  have hdistinct := hp.distinct t
  rw [← Call.count_pendingToken, ← Call.count_pendingToken] at hcount
  cases hmove with
  | keep db issued generated exchanged pending consumed =>
      have hle : c'.pendingToken.toList.count t ≤ c.pendingToken.toList.count t := by
        cases hpending : c'.pendingToken with
        | none => simp
        | some token => rw [pending token hpending]
      rw [written_of_issued issued]
      omega
  | generate token db issued generated exchanged before pending consumed =>
      rw [written_of_issued issued]
      rw [before, pending, Option.toList_none, List.count_nil, Option.toList_some] at hcount
      by_cases ht : t = token
      · -- A token that has just been generated is nowhere else.
        obtain ⟨hcalls, hwritten⟩ := hp.not_generated (hfresh token before pending)
        rw [ht, List.count_singleton_self] at hcount
        rw [ht]
        omega
      · rw [List.count_eq_zero_of_not_mem (mt List.mem_singleton.mp ht)] at hcount
        omega
  | rotate rotation session found active presented written issued generated exchanged before
      pending consumed =>
      have hbefore : c.pendingToken = some rotation.rotated.refreshToken := by
        rcases before with rfl | rfl <;> rfl
      have hwritten : s'.written = rotation.rotated.refreshToken :: p.shared.written := by
        rw [Shared.written, issued]
        rfl
      rw [hbefore, pending, Option.toList_some, Option.toList_none, List.count_nil,
        List.count_singleton] at hcount
      rw [hwritten, List.count_cons]
      omega
  | answer token db issued generated exchanged before pending consumed done =>
      rw [written_of_issued issued]
      rw [before, pending] at hcount
      omega

/-- Every token of the next state is generated. -/
theorem generated_resume (hp : Inv platform T p) (hc : p.calls[i]? = some c)
    (hmove : TokenMove platform p.shared s' c c') :
    (∀ d ∈ p.calls.set i c', ∀ t, d.pendingToken = some t → t ∈ s'.generated) ∧
      ∀ t ∈ s'.written, t ∈ s'.generated := by
  have hself := hp.pending_generated c (List.mem_of_getElem? hc)
  cases hmove with
  | keep db issued generated exchanged pending consumed =>
      rw [written_of_issued issued, generated]
      refine ⟨pending_set hp (fun _ h => h) ?_, hp.written_generated⟩
      exact fun t ht => hself t (pending t ht)
  | generate token db issued generated exchanged before pending consumed =>
      have hsub : ∀ t ∈ p.shared.generated, t ∈ s'.generated := by
        rw [generated]
        exact fun t ht => List.mem_cons_of_mem _ ht
      rw [written_of_issued issued]
      refine ⟨pending_set hp hsub ?_, fun t ht => hsub t (hp.written_generated t ht)⟩
      intro t ht
      obtain rfl := Option.some.inj (pending.symm.trans ht)
      rw [generated]
      exact List.mem_cons_self
  | rotate rotation session found active presented written issued generated exchanged before
      pending consumed =>
      have hbefore : c.pendingToken = some rotation.rotated.refreshToken := by
        rcases before with rfl | rfl <;> rfl
      have hwritten : s'.written = rotation.rotated.refreshToken :: p.shared.written := by
        rw [Shared.written, issued]
        rfl
      rw [hwritten, generated]
      refine ⟨pending_set hp (fun _ h => h) ?_, ?_⟩
      · intro t ht
        cases pending.symm.trans ht
      · intro t ht
        rcases List.mem_cons.mp ht with rfl | ht
        · exact hself _ hbefore
        · exact hp.written_generated t ht
  | answer token db issued generated exchanged before pending consumed done =>
      rw [written_of_issued issued, generated]
      refine ⟨pending_set hp (fun _ h => h) ?_, hp.written_generated⟩
      intro t ht
      cases pending.symm.trans ht

theorem exchanged_resume (hinj : Set.InjOn platform.hashAgentToken T) (hp : Inv platform T p)
    (hc : p.calls[i]? = some c) (hcT : c.TokensIn T)
    (hmove : TokenMove platform p.shared s' c c') (t : JsString) :
    s'.exchanged.count t + (p.calls.set i c').countP (Call.consumes t) = s'.replaced.count t := by
  have hcount := countP_set_add (Call.consumes t) c' hc
  have hexchanged := hp.exchanged t
  rw [← Call.count_consumedToken, ← Call.count_consumedToken] at hcount
  cases hmove with
  | keep db issued generated exchanged pending consumed
  | generate token db issued generated exchanged before pending consumed =>
      rw [Shared.replaced, written_of_issued issued, ← Shared.replaced, exchanged]
      rw [consumed] at hcount
      omega
  | rotate rotation session found active presented written issued generated exchanged before
      pending consumed =>
      have hT : rotation.refreshToken ∈ T := by
        rcases before with rfl | rfl <;> exact hcT.1
      have hbefore : c.consumedToken = none := by
        rcases before with rfl | rfl <;> rfl
      have hreplaced : s'.replaced = rotation.refreshToken :: p.shared.replaced := by
        rw [← hp.presented hinj hT found presented, Shared.replaced, Shared.written, issued]
        rfl
      rw [hbefore, consumed, Option.toList_none, List.count_nil, Option.toList_some,
        List.count_singleton] at hcount
      rw [hreplaced, exchanged, List.count_cons]
      omega
  | answer token db issued generated exchanged before pending consumed done =>
      rw [Shared.replaced, written_of_issued issued, ← Shared.replaced, exchanged, List.count_cons]
      rw [consumed, done, Option.toList_none, List.count_nil, Option.toList_some,
        List.count_singleton] at hcount
      omega

/-- **A resumed request.** -/
theorem inv_resume (hinj : Set.InjOn platform.hashAgentToken T) (hp : Inv platform T p)
    (hc : p.calls[i]? = some c) (hmove : TokenMove platform p.shared s' c c')
    (hT : c'.TokensIn T)
    (hfresh : ∀ t, c.pendingToken = none → c'.pendingToken = some t → t ∉ p.shared.generated) :
    Inv platform T ⟨s', p.calls.set i c'⟩ := by
  have hcT := hp.tokensIn c (List.mem_of_getElem? hc)
  have hgenerated := generated_resume hp hc hmove
  constructor
  · intro d hd
    rcases List.mem_or_eq_of_mem_set hd with hd | rfl
    · exact hp.tokensIn d hd
    · exact hT
  · exact last_resume hp hcT hmove
  · exact distinct_resume hp hc hmove hfresh
  · exact hgenerated.1
  · exact hgenerated.2
  · exact exchanged_resume hinj hp hc hcT hmove

end

theorem inv_step (hinj : Set.InjOn platform.hashAgentToken T) {e : Event} {q : State}
    (hp : Inv platform T p) (hok : FreshTokens platform T p e)
    (h : (program platform).step p e = some q) : Inv platform T q := by
  obtain ⟨⟨request, env⟩, s, c, rfl, hstart, rfl⟩ | ⟨i, choice, c, s, c', rfl, hc, hresume, rfl⟩ :=
    Program.step_cases h
  · obtain ⟨rfl, rfl⟩ := Prod.mk.inj (Option.some.inj hstart)
    exact inv_start hp hok
  · exact inv_resume hinj hp hc (resume_move hresume)
      (tokensIn_resume hok hc (hp.tokensIn c (List.mem_of_getElem? hc)) hresume)
      fun t => fresh_resume hok hc hresume

/-- What the session accepts is the last pair. -/
theorem Inv.accepts (hinj : Set.InjOn platform.hashAgentToken T) (hp : Inv platform T p) :
    ∃ last ∈ p.shared.issued.head?, ∀ t ∈ T,
      (p.shared.db.AcceptsRefresh platform t → t = last.refreshToken) ∧
      (p.shared.db.AcceptsAccess platform t → t = last.accessToken) := by
  obtain ⟨last, hlast, hmem, hsession⟩ := hp.last
  refine ⟨last, hlast, ?_⟩
  intro t ht
  constructor
  · rintro ⟨session, hfound, -, hmatches⟩
    simp only [refreshTokenMatches, Bool.and_eq_true, decide_eq_true_eq] at hmatches
    exact hinj ht hmem.1 (hmatches.2.symm.trans (hsession session hfound).refreshHash)
  · rintro ⟨session, hfound, -, hmatches⟩
    simp only [accessTokenMatches, Bool.and_eq_true, decide_eq_true_eq] at hmatches
    exact hinj ht hmem.2 (hmatches.2.symm.trans (hsession session hfound).accessHash)

/-- No token was exchanged twice. -/
theorem Inv.exchanged_le_one (hp : Inv platform T p) (t : JsString) :
    p.shared.exchanged.count t ≤ 1 := by
  have hexchanged := hp.exchanged t
  have hdistinct := hp.distinct t
  have htail : p.shared.replaced.count t ≤ p.shared.written.count t :=
    (List.tail_sublist _).count_le t
  omega

/-! ## A revoked session -/

theorem KeepsTokens.inactive {db db' : Database} (h : KeepsTokens db.session db'.session)
    (hdb : db.sessionActive = false) : db'.sessionActive = false := by
  rw [sessionActive_eq_false] at hdb ⊢
  intro row hrow hactive
  rcases h with hsame | ⟨a, b, ha, hb, -, -, hstatus⟩
  · exact hdb row (hsame ▸ hrow) hactive
  · obtain rfl := Option.some.inj (hb.symm.trans hrow)
    exact hdb a ha (hstatus hactive)

theorem inactive_step {e : Event} {q : State} (hp : p.shared.db.sessionActive = false)
    (h : (program platform).step p e = some q) : q.shared.db.sessionActive = false := by
  obtain ⟨arg, s, c, rfl, hstart, rfl⟩ | ⟨i, choice, c, s, c', rfl, hc, hresume, rfl⟩ :=
    Program.step_cases h
  · obtain ⟨rfl, -⟩ := Prod.mk.inj (Option.some.inj hstart)
    exact hp
  · cases resume_move hresume with
    | keep db => exact db.inactive hp
    | generate token db => exact db ▸ hp
    | rotate rotation session found active =>
        exact absurd active (sessionActive_eq_false.mp hp session found)
    | answer token db => exact db ▸ hp

/-- A plan with a guarded update of the session. -/
def Plan.isGuarded : Plan → Bool
  | .refresh _ => true
  | .validate _ _ _ => true
  | _ => false

/-- A guarded update of a session that is not active changes nothing. -/
theorem runGuarded_inactive (platform : Platform) {db : Database}
    (hdb : db.sessionActive = false) {plan : Plan} (hplan : plan.isGuarded = true) :
    ∃ statement rest, plan.mutation platform = statement :: rest ∧
      runGuarded platform db statement = none := by
  have hnone : ∀ (matching : SessionRow → Bool) change,
      (∀ session, matching session = true → session.status = .active) →
      updateSession db matching change = (db, 0) := by
    intro matching change hactive
    have hfilter : db.session.filter matching = none := by
      rw [Option.filter_eq_none_iff]
      intro session hfound hmatching
      exact sessionActive_eq_false.mp hdb session hfound (hactive session hmatching)
    simp only [updateSession, hfilter]
  cases plan with
  | refresh rotation =>
      refine ⟨_, _, rfl, ?_⟩
      simp only [runGuarded, Statement.run]
      rw [hnone]
      · rfl
      · intro session hmatching
        simp only [Bool.and_eq_true, decide_eq_true_eq] at hmatching
        exact hmatching.1.2
  | validate session accessToken accessLastUsedAt =>
      refine ⟨_, _, rfl, ?_⟩
      simp only [runGuarded, Statement.run]
      rw [hnone]
      · rfl
      · intro session hmatching
        simp only [Bool.and_eq_true, decide_eq_true_eq] at hmatching
        exact hmatching.1.2
  | _ => exact absurd hplan Bool.false_ne_true

/-- The step at which a request runs its guarded update. -/
def RunsUpdate (p : State) (i : ℕ) (choice : Choice) (plan : Plan) : Prop :=
  (p.calls[i]? = some (.ready plan) ∧ choice = .transaction) ∨
    (p.calls[i]? = some (.mutating plan 0) ∧ choice = .statement)

theorem conflict_of_inactive {q : State} {i : ℕ} {choice : Choice} {plan : Plan}
    (hp : p.shared.db.sessionActive = false) (hplan : plan.isGuarded = true)
    (hruns : RunsUpdate p i choice plan)
    (h : (program platform).step p (.resume i choice) = some q) :
    q.calls[i]? = some (.answered plan.conflict) := by
  obtain ⟨statement, rest, hmutation, hnone⟩ := runGuarded_inactive platform hp hplan
  obtain ⟨c, hc, hmap⟩ := Option.bind_eq_some_iff.mp h
  obtain ⟨⟨s', c'⟩, hresume, rfl⟩ := Option.map_eq_some_iff.mp hmap
  have hlength : i < p.calls.length := (List.getElem?_eq_some_iff.mp hc).1
  rw [List.getElem?_set_self hlength]
  rcases hruns with ⟨hcall, rfl⟩ | ⟨hcall, rfl⟩
  · obtain rfl := Option.some.inj (hc.symm.trans hcall)
    simp only [program, resume, hmutation, runTransaction, hnone, Option.bind_none,
      Option.some.injEq, Prod.mk.injEq] at hresume
    rw [← hresume.2]
  · obtain rfl := Option.some.inj (hc.symm.trans hcall)
    simp only [program, resume, hmutation, List.getElem?_cons_zero, Option.map_some, hnone,
      Option.some.injEq, Prod.mk.injEq] at hresume
    rw [← hresume.2]

end

/-- **Refresh tokens are for single use, and revocation is final.** In every interleaving each
refresh token is exchanged at most once, the session accepts no pair but the last one, and
from the moment it is not active every guarded update of a refresh or of a validation ends in
an error. -/
theorem refresh_tokens_single_use {platform : Platform} {T : Set JsString} {p₀ p : State}
    {es : List Event} (hinj : Set.InjOn platform.hashAgentToken T) (h₀ : Initial platform T p₀)
    (hok : Run.AllSteps (program platform).step (FreshTokens platform T) p₀ es)
    (hrun : Run.exec (program platform).step p₀ es = some p) :
    (∀ t, p.shared.exchanged.count t ≤ 1) ∧
    (∃ last ∈ p.shared.issued.head?, ∀ t ∈ T,
      (p.shared.db.AcceptsRefresh platform t → t = last.refreshToken) ∧
      (p.shared.db.AcceptsAccess platform t → t = last.accessToken)) ∧
    (p.shared.db.sessionActive = false → ∀ fs q,
      Run.exec (program platform).step p fs = some q →
      ∀ i choice plan q', plan.isGuarded = true → RunsUpdate q i choice plan →
        (program platform).step q (.resume i choice) = some q' →
        q'.calls[i]? = some (.answered plan.conflict)) := by
  have hp : Inv platform T p := Run.exec_invariant (Inv platform T)
    (fun s e t hs he h => inv_step hinj hs he h) (inv_initial h₀) hok hrun
  refine ⟨hp.exchanged_le_one, hp.accepts hinj, ?_⟩
  intro hinactive fs q hfs i choice plan q' hplan hruns hstep
  have hq : q.shared.db.sessionActive = false :=
    Run.exec_invariant_of_step (fun s : State => s.shared.db.sessionActive = false)
      (fun _ _ _ hs h => inactive_step hs h) hinactive hfs
  exact conflict_of_inactive hq hplan hruns hstep

/-- The tokens of the example. -/
def exampleTokens : Set JsString := {token | token ∈ exampleDigests.map Prod.fst}

instance : DecidablePred (· ∈ exampleTokens) := fun token =>
  inferInstanceAs (Decidable (token ∈ exampleDigests.map Prod.fst))

theorem exampleTokens_injOn : Set.InjOn examplePlatform.hashAgentToken exampleTokens := by
  have h : ∀ a ∈ exampleDigests.map Prod.fst, ∀ b ∈ exampleDigests.map Prod.fst,
      examplePlatform.hashAgentToken a = examplePlatform.hashAgentToken b → a = b := by
    decide
  exact fun a ha b hb => h a ha b hb

/-- The pair of the registration. -/
def exampleIssue : AgentAuthIssue where
  accessToken := exampleAccessToken
  refreshToken := exampleRefreshToken
  issuedAt := 1700000000000
  accessExpiresAt := 1700000900000
  refreshExpiresAt := 1702592000000

def exampleState : State :=
  ⟨⟨exampleDatabase, [exampleIssue], [exampleRefreshToken], []⟩, []⟩

theorem exampleState_initial : Initial examplePlatform exampleTokens exampleState where
  no_calls := rfl
  exchanged := rfl
  issued := by
    refine ⟨exampleIssue, rfl, by decide, by decide, rfl, ?_⟩
    intro session hsession
    obtain rfl := Option.some.inj hsession
    exact ⟨rfl, rfl, rfl, rfl⟩

/-- A refresh, during which the owner revokes the session. -/
def exampleRefresh : List Event :=
  [.start (.refresh
      { sub := exampleDatabase.agent.did, jti := js "01HF7YAT00W6W7CM7N3W5FDXT5",
        ownerDid := exampleHumanDid, refreshToken := exampleRefreshToken }, exampleEnv),
    .resume 0 (.readSession exampleEnv), .start (.authRevoke exampleHumanDid, exampleEnv),
    .resume 0 .transaction, .resume 0 .answer, .resume 1 (.readSession exampleEnv),
    .resume 1 .transaction, .resume 1 .answer]

theorem exampleRefresh_run :
    (Run.exec (program examplePlatform).step exampleState exampleRefresh).map
      (fun p => (p.shared.exchanged, p.shared.db.sessionActive)) =
        some ([exampleRefreshToken], false) := by decide

theorem exampleRefresh_single_use : ∃ p,
    Run.exec (program examplePlatform).step exampleState exampleRefresh = some p ∧
    p.shared.exchanged = [exampleRefreshToken] ∧ p.shared.db.sessionActive = false ∧
    ∀ t, p.shared.exchanged.count t ≤ 1 := by
  obtain ⟨p, hrun, h⟩ := Option.map_eq_some_iff.mp exampleRefresh_run
  obtain ⟨hexchanged, hinactive⟩ := Prod.mk.inj h
  have hok : Run.AllSteps (program examplePlatform).step
      (FreshTokens examplePlatform exampleTokens) exampleState exampleRefresh := by
    decide
  exact ⟨p, hrun, hexchanged, hinactive,
    (refresh_tokens_single_use exampleTokens_injOn exampleState_initial hok hrun).1⟩

end Clawdentity.AgentAuth
