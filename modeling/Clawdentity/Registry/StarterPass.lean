import Clawdentity.Js.Value
import Clawdentity.Lib.Exclusive

/-!
# Starter passes of a GitHub account

The row of one account in `starter_passes`, under any interleaving of GitHub callbacks and
redeem requests. A request is cut at each of its statements and at each of its reads of the
clock, which never goes back; any statement may fail, in which case it changes nothing.
A redeem request runs in a transaction, or statement by statement where the database has
none.

ISO date texts are their epoch milliseconds, and the generated values come with the move.

## Main definitions

* `normalizeStarterPassStatus`, `parseStarterPassRedeemPayload`.
* `program` — the code of a request.
* `refreshesUnredeemed` — the condition on a step.
* `at_most_one_redeemed`.
-/

namespace Clawdentity.StarterPass

open Js Lib Lib.Interleave Lib.Run

/-! ## The life of a pass -/

inductive StarterPassStatus
  | active
  | redeemed
  | expired
  deriving DecidableEq

def STARTER_PASS_CODE_PREFIX : JsString := js "clw_stp_"
def STARTER_PASS_TTL_SECONDS : ℕ := 30 * 60
def MAX_STARTER_PASS_CODE_LENGTH : ℕ := 128
def MAX_GITHUB_LOGIN_LENGTH : ℕ := 64
def MAX_DISPLAY_NAME_LENGTH : ℕ := 64

def computeStarterPassExpiry (nowMs : ℕ) : ℕ := nowMs + STARTER_PASS_TTL_SECONDS * 1000

def isStarterPassExpired (expiresAt nowMs : ℕ) : Bool := expiresAt ≤ nowMs

def normalizeStarterPassStatus (status : StarterPassStatus) (expiresAt nowMs : ℕ) :
    StarterPassStatus :=
  match status with
  | .active => if isStarterPassExpired expiresAt nowMs then .expired else .active
  | other => other

def hasControlChars (value : JsString) : Bool := value.any fun u => u.toNat ≤ 31 || u.toNat == 127

/-- `none` where the profile is refused. -/
def normalizeGithubLogin (input : JsString) : Option JsString :=
  let login := trim input
  if login.isEmpty || MAX_GITHUB_LOGIN_LENGTH < login.length || hasControlChars login then none
  else some login

def normalizeStarterDisplayName (input : JsString) : JsString :=
  let displayName := trim input
  if displayName.isEmpty || MAX_DISPLAY_NAME_LENGTH < displayName.length ||
      hasControlChars displayName then
    js "GitHub User"
  else displayName

/-! ## The body of a redeem request -/

structure StarterPassRedeemPayload where
  code : JsString
  displayName : JsString
  apiKeyName : JsString
  deriving DecidableEq

/-- The error of the field `code`. A code that is no string is empty for the last test. -/
def codeError (code : Option Value) : Option String :=
  let text := (code.bind Json.str?).elim [] trim
  if text.isEmpty && (code.bind Json.str?).isSome then some "code is required"
  else if MAX_STARTER_PASS_CODE_LENGTH < text.length then
    some "code must be at most 128 characters"
  else if !STARTER_PASS_CODE_PREFIX.isPrefixOf text then some "code must start with clw_stp_"
  else none

/-- `parseOptionalTrimmedString`. -/
def parseOptionalTrimmedString (value : Option Value) : Option JsString :=
  ((value.bind Json.str?).filter isNonEmptyString).map trim

/-- The error of one of the two names, where its value is missing by default. -/
def nameError (value : Option Value) (field : String) (fallback : JsString) : Option String :=
  let name := (parseOptionalTrimmedString value).getD fallback
  if MAX_DISPLAY_NAME_LENGTH < name.length then some (field ++ " must be at most 64 characters")
  else if hasControlChars name then some (field ++ " contains control characters")
  else if value.any fun v => v.str?.isNone then some (field ++ " must be a string")
  else if value.isSome && (parseOptionalTrimmedString value).isNone then
    some (field ++ " must not be empty")
  else none

/-- `parseStarterPassRedeemPayload`: the payload, or the errors by field. -/
def parseStarterPassRedeemPayload (payload : Value) :
    Except (List (String × String)) StarterPassRedeemPayload :=
  match payload with
  | .obj fields =>
      let body : Value := .obj fields
      let code := body.get? (js "code")
      let displayName := body.get? (js "displayName")
      let apiKeyName := body.get? (js "apiKeyName")
      let fieldErrors :=
        [("code", codeError code), ("displayName", nameError displayName "displayName" (js "User")),
          ("apiKeyName", nameError apiKeyName "apiKeyName" (js "starter-pass"))].filterMap
          fun f => f.2.map fun error => (f.1, error)
      if fieldErrors.isEmpty then
        .ok { code := (code.bind Json.str?).elim [] trim
              displayName := (parseOptionalTrimmedString displayName).getD (js "User")
              apiKeyName := (parseOptionalTrimmedString apiKeyName).getD (js "starter-pass") }
      else .error fieldErrors
  | _ => .error [("body", "body must be a JSON object")]

/-! ## The tables -/

/-- A row of `starter_passes`; its provider and its subject are those of the account. -/
structure StarterPassRow where
  id : JsString
  code : JsString
  providerLogin : JsString
  displayName : JsString
  redeemedBy : Option JsString
  issuedAt : ℕ
  redeemedAt : Option ℕ
  expiresAt : ℕ
  status : StarterPassStatus
  deriving DecidableEq

/-- A row of `humans`, which a redemption inserts as an active user with one agent. -/
structure HumanRow where
  id : JsString
  did : JsString
  displayName : JsString
  createdAt : ℕ
  deriving DecidableEq

/-- A row of `api_keys`, which a redemption inserts as active. -/
structure ApiKeyRow where
  id : JsString
  humanId : JsString
  keyHash : JsString
  keyPrefix : JsString
  name : JsString
  createdAt : ℕ
  deriving DecidableEq

structure Database where
  clock : ℕ
  /-- The row of the account; a unique index allows one. -/
  pass : Option StarterPassRow
  humans : List HumanRow
  apiKeys : List ApiKeyRow
  deriving DecidableEq

def findStarterPassByCode (db : Database) (code : JsString) : Option StarterPassRow :=
  db.pass.filter fun pass => pass.code = code

/-! ## Requests -/

/-- The profile that GitHub answers. -/
structure GithubProfile where
  login : JsString
  displayName : JsString
  deriving DecidableEq

/-- The values that a request generates. -/
structure Fresh where
  /-- `generateUlid`, for a pass, a human or an API key. -/
  ulid : JsString
  /-- `generateStarterPassCode`. -/
  code : JsString
  apiKeyId : JsString
  keyHash : JsString
  keyPrefix : JsString
  didAuthority : JsString
  deriving DecidableEq

/-- What the environment decides for a move: the clock, whether the statement fails, whether
the database refuses to begin a transaction, and the generated values. -/
structure Env where
  nowMs : ℕ
  fails : Bool
  unsupported : Bool
  fresh : Fresh
  deriving DecidableEq

/-- Where a callback sends the browser. -/
inductive Redirect
  | granted (code displayName providerLogin : JsString) (expiresAt : ℕ)
  /-- `This GitHub account has already redeemed its one starter pass`. -/
  | alreadyUsed
  | failed
  deriving DecidableEq

inductive RedeemError
  | invalid (fieldErrors : List (String × String))
  | codeInvalid
  | alreadyUsed
  | expired
  /-- A statement failed. -/
  | database
  deriving DecidableEq

/-- A callback, with what it read before its first statement. -/
structure Callback where
  nowMillis : ℕ
  displayName : JsString
  providerLogin : JsString
  deriving DecidableEq

/-- The values of a redeem request at its mutation. -/
structure Redemption where
  passId : JsString
  nowMillis : ℕ
  human : HumanRow
  apiKey : ApiKeyRow
  deriving DecidableEq

/-- The statements of `applyRedeemMutation`, in the order of the source. -/
inductive Phase
  | insertHuman
  | redeemPass
  | insertApiKey
  deriving DecidableEq

/-- The statements of its `catch` block; the first one is run only where the request had
redeemed the pass. -/
inductive Compensation
  | restorePass
  | deleteHuman
  deriving DecidableEq

inductive Response
  /-- 201, with the human. -/
  | created (human : HumanRow)
  | failed (error : RedeemError)
  deriving DecidableEq

/-- A request before its next statement, or before the code that follows one. -/
inductive Call
  | callbackReading (callback : Callback)
  | callbackRead (callback : Callback) (row : Option StarterPassRow)
  | refreshing (callback : Callback) (passId code : JsString) (issuedAt : ℕ)
  | inserting (row : StarterPassRow)
  | redirected (redirect : Redirect)
  | finding (payload : StarterPassRedeemPayload)
  | found (payload : StarterPassRedeemPayload) (row : StarterPassRow)
  | expiring (passId : JsString) (error : RedeemError)
  /-- The API key is hashed; the ULID of the human is made already. -/
  | hashing (payload : StarterPassRedeemPayload) (passId : JsString) (nowMillis : ℕ)
      (humanId : JsString)
  | beginning (redemption : Redemption)
  | running (redemption : Redemption) (phase : Phase)
  /-- No row was updated: the pass is read for the error. -/
  | resolving (redemption : Redemption)
  | compensating (redemption : Redemption) (error : RedeemError) (phase : Compensation)
  | answered (response : Response)
  deriving DecidableEq

inductive Request
  | callback (profile : GithubProfile)
  | redeem (body : Value)

/-! ### The callback -/

def startCallback (profile : GithubProfile) (env : Env) : Call :=
  match normalizeGithubLogin profile.login with
  | none => .redirected .failed
  | some providerLogin =>
      .callbackReading { nowMillis := env.nowMs
                         displayName := normalizeStarterDisplayName profile.displayName
                         providerLogin }

/-- The code after the pass was read. -/
def decideCallback (callback : Callback) (row : Option StarterPassRow) (env : Env) : Call :=
  match row with
  | none =>
      .inserting { id := env.fresh.ulid, code := env.fresh.code,
                   providerLogin := callback.providerLogin, displayName := callback.displayName,
                   redeemedBy := none, issuedAt := env.nowMs, redeemedAt := none,
                   expiresAt := computeStarterPassExpiry callback.nowMillis, status := .active }
  | some row =>
      match normalizeStarterPassStatus row.status row.expiresAt callback.nowMillis with
      | .active => .redirected (.granted row.code row.displayName row.providerLogin row.expiresAt)
      | .expired => .refreshing callback row.id env.fresh.code env.nowMs
      | .redeemed => .redirected .alreadyUsed

/-- The row that a refresh writes. -/
def refreshed (pass : StarterPassRow) (callback : Callback) (code : JsString) (issuedAt : ℕ) :
    StarterPassRow :=
  { pass with
    code, providerLogin := callback.providerLogin, displayName := callback.displayName, issuedAt,
    expiresAt := computeStarterPassExpiry callback.nowMillis, redeemedBy := none,
    redeemedAt := none, status := .active }

/-- `update(starter_passes).set(…).where(eq(id, …))`. -/
def updatePass (db : Database) (passId : JsString) (f : StarterPassRow → StarterPassRow) :
    Database :=
  { db with pass := db.pass.map fun pass => if pass.id = passId then f pass else pass }

def refreshPass (db : Database) (callback : Callback) (passId code : JsString) (issuedAt : ℕ) :
    Database × Call :=
  (updatePass db passId fun pass => refreshed pass callback code issuedAt,
    .redirected (.granted code callback.displayName callback.providerLogin
      (computeStarterPassExpiry callback.nowMillis)))

/-- `insert(starter_passes)`, which fails where the account has a row. -/
def insertPass (db : Database) (row : StarterPassRow) : Database × Call :=
  if db.pass.isSome then (db, .redirected .failed)
  else ({ db with pass := some row },
    .redirected (.granted row.code row.displayName row.providerLogin row.expiresAt))

/-! ### The redeem request -/

def startRedeem (body : Value) : Call :=
  match parseStarterPassRedeemPayload body with
  | .error fieldErrors => .answered (.failed (.invalid fieldErrors))
  | .ok payload => .finding payload

/-- The code after the pass was found. -/
def decideRedeem (payload : StarterPassRedeemPayload) (row : StarterPassRow) (env : Env) : Call :=
  let status := normalizeStarterPassStatus row.status row.expiresAt env.nowMs
  let used := row.redeemedBy.isSome || status = .redeemed
  if status = .expired && row.status ≠ .expired then
    .expiring row.id (if used then .alreadyUsed else .expired)
  else if used then .answered (.failed .alreadyUsed)
  else if status = .expired then .answered (.failed .expired)
  else .hashing payload row.id env.nowMs env.fresh.ulid

def buildRedemption (payload : StarterPassRedeemPayload) (passId : JsString) (nowMillis : ℕ)
    (humanId : JsString) (env : Env) : Redemption where
  passId := passId
  nowMillis := nowMillis
  human := { id := humanId, did := js "did:cdi:" ++ env.fresh.didAuthority ++ js ":human:" ++ humanId,
             displayName := payload.displayName, createdAt := env.nowMs }
  apiKey := { id := env.fresh.apiKeyId, humanId, keyHash := env.fresh.keyHash,
              keyPrefix := env.fresh.keyPrefix, name := payload.apiKeyName, createdAt := env.nowMs }

/-- The `where` clause of the redemption. -/
def isRedeemable (db : Database) (r : Redemption) : Bool :=
  db.pass.any fun pass => pass.id = r.passId && pass.status = .active && pass.redeemedBy = none

def redeemPass (db : Database) (r : Redemption) : Database :=
  updatePass db r.passId fun pass =>
    { pass with
      redeemedBy := some r.human.id, redeemedAt := some r.human.createdAt, status := .redeemed }

def insertHuman (db : Database) (r : Redemption) : Option Database :=
  if db.humans.any fun human => human.id = r.human.id || human.did = r.human.did then none
  else some { db with humans := r.human :: db.humans }

def insertApiKey (db : Database) (r : Redemption) : Option Database :=
  if db.apiKeys.any fun key => key.id = r.apiKey.id then none
  else some { db with apiKeys := r.apiKey :: db.apiKeys }

def resolveStarterPassRedeemStateError (db : Database) (r : Redemption) : RedeemError :=
  match db.pass.filter fun pass => pass.id = r.passId with
  | none => .codeInvalid
  | some pass =>
      if pass.redeemedBy.isSome || pass.status = .redeemed then .alreadyUsed
      else if pass.status = .expired then .expired
      else if isStarterPassExpired pass.expiresAt r.nowMillis then .expired
      else .codeInvalid

/-- `db.transaction`: all statements or none. -/
def runTransaction (db : Database) (r : Redemption) : Database × Call :=
  match insertHuman db r with
  | none => (db, .answered (.failed .database))
  | some inserted =>
      if isRedeemable inserted r then
        match insertApiKey (redeemPass inserted r) r with
        | none => (db, .answered (.failed .database))
        | some done => (done, .answered (.created r.human))
      else (db, .answered (.failed (resolveStarterPassRedeemStateError db r)))

/-- One statement of `applyRedeemMutation` without a transaction. The first one stands before
the `try`. -/
def runPhase (db : Database) (r : Redemption) (fails : Bool) : Phase → Database × Call
  | .insertHuman =>
      match (insertHuman db r).filter fun _ => !fails with
      | none => (db, .answered (.failed .database))
      | some db' => (db', .running r .redeemPass)
  | .redeemPass =>
      if fails then (db, .compensating r .database .deleteHuman)
      else if isRedeemable db r then (redeemPass db r, .running r .insertApiKey)
      else (db, .resolving r)
  | .insertApiKey =>
      match (insertApiKey db r).filter fun _ => !fails with
      | none => (db, .compensating r .database .restorePass)
      | some db' => (db', .answered (.created r.human))

/-- The update of the `catch` block. -/
def restorePass (db : Database) (r : Redemption) : Database :=
  updatePass db r.passId fun pass =>
    if pass.redeemedBy = some r.human.id then
      { pass with redeemedBy := none, redeemedAt := none, status := .active }
    else pass

/-- One statement of the `catch` block; an error there replaces the one that was caught. -/
def runCompensation (db : Database) (r : Redemption) (error : RedeemError) (fails : Bool) :
    Compensation → Database × Call
  | .restorePass =>
      if fails then (db, .answered (.failed .database))
      else (restorePass db r, .compensating r error .deleteHuman)
  | .deleteHuman =>
      if fails then (db, .answered (.failed .database))
      else ({ db with humans := db.humans.filter fun human => human.id ≠ r.human.id },
        .answered (.failed error))

/-! ### The program -/

/-- The clock does not go back. -/
def tick (db : Database) (env : Env) : Option Database :=
  if db.clock ≤ env.nowMs then some { db with clock := env.nowMs } else none

def handle (db : Database) (request : Request) (env : Env) : Database × Call :=
  match request with
  | .callback profile => (db, startCallback profile env)
  | .redeem body => (db, startRedeem body)

/-- The next statement of a request, or the code that follows one. -/
def proceed (db : Database) (env : Env) : Call → Option (Database × Call)
  | .callbackReading callback =>
      some (db, if env.fails then .redirected .failed else .callbackRead callback db.pass)
  | .callbackRead callback row => some (db, decideCallback callback row env)
  | .refreshing callback passId code issuedAt =>
      some (if env.fails then (db, .redirected .failed)
        else refreshPass db callback passId code issuedAt)
  | .inserting row => some (if env.fails then (db, .redirected .failed) else insertPass db row)
  | .redirected _ => none
  | .finding payload =>
      some (db,
        if env.fails then .answered (.failed .database)
        else match findStarterPassByCode db payload.code with
          | none => .answered (.failed .codeInvalid)
          | some row => .found payload row)
  | .found payload row => some (db, decideRedeem payload row env)
  | .expiring passId error =>
      some (if env.fails then (db, .answered (.failed .database))
        else (updatePass db passId fun pass => { pass with status := .expired },
          .answered (.failed error)))
  | .hashing payload passId nowMillis humanId =>
      some (db, .beginning (buildRedemption payload passId nowMillis humanId env))
  | .beginning r =>
      some (if env.unsupported then (db, .running r .insertHuman)
        else if env.fails then (db, .answered (.failed .database))
        else runTransaction db r)
  | .running r phase => some (runPhase db r env.fails phase)
  | .resolving r =>
      some (db, .compensating r
        (if env.fails then .database else resolveStarterPassRedeemStateError db r) .deleteHuman)
  | .compensating r error phase => some (runCompensation db r error env.fails phase)
  | .answered _ => none

def program : Program Database Call (Request × Env) Env where
  start db arg := (tick db arg.2).map fun db => handle db arg.1 arg.2
  resume db call env := (tick db env).bind fun db => proceed db env call

abbrev State := Pool Database Call
abbrev Event := Move (Request × Env) Env

/-- The request answered 201. -/
def Call.isCreated : Call → Bool
  | .answered (.created _) => true
  | _ => false

/-- How many redeem requests answered 201. -/
def State.created (p : State) : ℕ := p.calls.countP Call.isCreated

/-- The pass is not redeemed, or there is none. -/
def Database.unredeemed (db : Database) : Prop := ∀ pass, db.pass = some pass → pass.redeemedBy = none

instance (db : Database) : Decidable db.unredeemed :=
  decidable_of_iff (db.pass.all (fun pass => pass.redeemedBy = none) = true) (by
    cases h : db.pass <;> simp [Database.unredeemed, h])

/-- The condition on one step: where a callback refreshes the pass, nobody has redeemed it. -/
def refreshesUnredeemed (p : State) : Event → Bool
  | .resume i env =>
      match p.calls[i]? with
      | some (.refreshing ..) => env.fails || decide p.shared.unredeemed
      | _ => true
  | .start _ => true

/-! ## A redemption is held alone -/

/-- The request has redeemed the pass and not given it back. -/
def Call.holds : Call → Bool
  | .running _ .insertApiKey => true
  | .compensating _ _ .restorePass => true
  | .answered (.created _) => true
  | _ => false

section
variable {db db' : Database} {env : Env} {r : Redemption} {c c' : Call}

/-- An update that leaves `redeemed_by` alone. -/
theorem unredeemed_updatePass {passId : JsString} {f : StarterPassRow → StarterPassRow}
    (hf : ∀ pass, (f pass).redeemedBy = pass.redeemedBy)
    (h : (updatePass db passId f).unredeemed) : db.unredeemed := by
  intro pass hpass
  have hupdated := h (if pass.id = passId then f pass else pass) (by simp [updatePass, hpass])
  split at hupdated
  · rwa [hf] at hupdated
  · exact hupdated

theorem unredeemed_of_isRedeemable (h : isRedeemable db r = true) : db.unredeemed := by
  intro pass hpass
  simp only [isRedeemable, hpass, Option.any_some, Bool.and_eq_true, decide_eq_true_eq] at h
  exact h.2

theorem not_unredeemed_redeemPass (h : isRedeemable db r = true) : ¬(redeemPass db r).unredeemed := by
  intro hfree
  cases hpass : db.pass with
  | none => simp [isRedeemable, hpass] at h
  | some pass =>
      simp only [isRedeemable, hpass, Option.any_some, Bool.and_eq_true, decide_eq_true_eq] at h
      have hnone := hfree _ (by simp [redeemPass, updatePass, hpass, h.1.1]; rfl)
      cases hnone

theorem unredeemed_congr (h : db'.pass = db.pass) : db'.unredeemed ↔ db.unredeemed := by
  rw [Database.unredeemed, Database.unredeemed, h]

theorem insertHuman_pass (h : insertHuman db r = some db') : db'.pass = db.pass := by
  simp only [insertHuman, Option.ite_none_left_eq_some, Option.some.injEq] at h
  rw [← h.2]

theorem insertApiKey_pass (h : insertApiKey db r = some db') : db'.pass = db.pass := by
  simp only [insertApiKey, Option.ite_none_left_eq_some, Option.some.injEq] at h
  rw [← h.2]

theorem runTransaction_moves (db : Database) (r : Redemption) :
    HolderMove db.unredeemed (runTransaction db r).1.unredeemed false
      (runTransaction db r).2.holds := by
  unfold runTransaction
  split
  · exact .keep id (fun h => by cases h)
  · rename_i inserted hinserted
    split
    · rename_i hredeemable
      split
      · exact .keep id (fun h => by cases h)
      · rename_i done hdone
        refine .take ((unredeemed_congr (insertHuman_pass hinserted)).mp
          (unredeemed_of_isRedeemable hredeemable)) ?_
        intro hfree
        exact not_unredeemed_redeemPass hredeemable
          ((unredeemed_congr (insertApiKey_pass hdone)).mp hfree)
    · exact .keep id (fun h => by cases h)

theorem runPhase_moves (db : Database) (r : Redemption) (fails : Bool) (phase : Phase) :
    HolderMove db.unredeemed (runPhase db r fails phase).1.unredeemed
      (Call.running r phase).holds (runPhase db r fails phase).2.holds := by
  cases phase with
  | insertHuman =>
      simp only [runPhase]
      split
      · exact .keep id (fun h => by cases h)
      · rename_i db' hdb'
        have hpass := insertHuman_pass (Option.filter_eq_some_iff.mp hdb').1
        exact .keep (unredeemed_congr hpass).mp (fun h => by cases h)
  | redeemPass =>
      simp only [runPhase]
      split
      · exact .keep id (fun h => by cases h)
      split
      · rename_i hredeemable
        exact .take (unredeemed_of_isRedeemable hredeemable) (not_unredeemed_redeemPass hredeemable)
      · exact .keep id (fun h => by cases h)
  | insertApiKey =>
      simp only [runPhase]
      split
      · exact .keep id (fun _ => rfl)
      · rename_i db' hdb'
        have hpass := insertApiKey_pass (Option.filter_eq_some_iff.mp hdb').1
        exact .keep (unredeemed_congr hpass).mp (fun _ => rfl)

theorem runCompensation_moves (db : Database) (r : Redemption) (error : RedeemError)
    (fails : Bool) (phase : Compensation) :
    HolderMove db.unredeemed (runCompensation db r error fails phase).1.unredeemed
      (Call.compensating r error phase).holds (runCompensation db r error fails phase).2.holds := by
  cases phase with
  | restorePass =>
      simp only [runCompensation]
      split
      · exact .keep id (fun h => by cases h)
      · exact .release rfl rfl
  | deleteHuman =>
      simp only [runCompensation]
      split
      · exact .keep id (fun h => by cases h)
      · exact .keep (unredeemed_congr rfl).mp (fun h => by cases h)

theorem insertPass_moves (db : Database) (row : StarterPassRow) :
    HolderMove db.unredeemed (insertPass db row).1.unredeemed false (insertPass db row).2.holds := by
  unfold insertPass
  split
  · exact .keep id (fun h => by cases h)
  · rename_i hnone
    refine .keep ?_ (fun h => by cases h)
    intro _ pass hpass
    rw [hpass] at hnone
    exact absurd rfl hnone

/-- The code of a callback holds nothing. -/
theorem holds_decideCallback (callback : Callback) (row : Option StarterPassRow) (env : Env) :
    (decideCallback callback row env).holds = false := by
  unfold decideCallback
  split
  · rfl
  · split <;> rfl

theorem holds_decideRedeem (payload : StarterPassRedeemPayload) (row : StarterPassRow) (env : Env) :
    (decideRedeem payload row env).holds = false := by
  unfold decideRedeem
  dsimp only
  split
  · rfl
  split
  · rfl
  split
  · rfl
  · rfl

/-- **One piece of code**, where a refresh finds the pass unredeemed. -/
theorem proceed_moves
    (hok : ∀ callback passId code issuedAt, c = .refreshing callback passId code issuedAt →
      env.fails = true ∨ db.unredeemed)
    (h : proceed db env c = some (db', c')) :
    HolderMove db.unredeemed db'.unredeemed c.holds c'.holds := by
  cases c with
  | callbackReading callback =>
      cases h
      refine .keep id ?_
      split <;> exact id
  | callbackRead callback row =>
      cases h
      refine .keep id (fun hnew => ?_)
      rw [holds_decideCallback] at hnew
      cases hnew
  | refreshing callback passId code issuedAt =>
      have hrefresh := hok callback passId code issuedAt rfl
      simp only [proceed, Option.some.injEq] at h
      split at h
      · cases h
        exact .keep id id
      · rename_i hfails
        cases h
        exact .keep (fun _ => hrefresh.resolve_left hfails) id
  | inserting row =>
      simp only [proceed, Option.some.injEq] at h
      split at h
      · cases h
        exact .keep id id
      · have hmoves := insertPass_moves db row
        rw [h] at hmoves
        exact hmoves
  | redirected redirect => cases h
  | finding payload =>
      cases h
      refine .keep id ?_
      split
      · exact id
      · split <;> exact id
  | found payload row =>
      cases h
      refine .keep id (fun hnew => ?_)
      rw [holds_decideRedeem] at hnew
      cases hnew
  | expiring passId error =>
      simp only [proceed, Option.some.injEq] at h
      split at h
      · cases h
        exact .keep id id
      · cases h
        exact .keep (unredeemed_updatePass fun _ => rfl) id
  | hashing payload passId nowMillis humanId =>
      cases h
      exact .keep id id
  | beginning r =>
      simp only [proceed, Option.some.injEq] at h
      split at h
      · cases h
        exact .keep id id
      split at h
      · cases h
        exact .keep id id
      · have hmoves := runTransaction_moves db r
        rw [h] at hmoves
        exact hmoves
  | running r phase =>
      have hmoves := runPhase_moves db r env.fails phase
      rw [Option.some.inj h] at hmoves
      exact hmoves
  | resolving r =>
      cases h
      exact .keep id id
  | compensating r error phase =>
      have hmoves := runCompensation_moves db r error env.fails phase
      rw [Option.some.inj h] at hmoves
      exact hmoves
  | answered response => cases h

theorem holds_handle (db : Database) (request : Request) (env : Env) :
    (handle db request env).1 = db ∧ (handle db request env).2.holds = false := by
  cases request with
  | callback profile =>
      refine ⟨rfl, ?_⟩
      simp only [handle, startCallback]
      split <;> rfl
  | redeem body =>
      refine ⟨rfl, ?_⟩
      simp only [handle, startRedeem]
      split <;> rfl

theorem tick_pass (h : tick db env = some db') : db'.pass = db.pass := by
  simp only [tick, Option.ite_none_right_eq_some, Option.some.injEq] at h
  rw [← h.2]

/-- **One move.** -/
theorem exclusive_step {p q : State} {e : Event}
    (hp : Exclusive Database.unredeemed Call.holds p) (hok : refreshesUnredeemed p e = true)
    (h : program.step p e = some q) : Exclusive Database.unredeemed Call.holds q := by
  rcases Program.step_cases h with ⟨⟨request, env⟩, db, c, rfl, hstart, rfl⟩ |
    ⟨i, env, c, db, c', rfl, hc, hresume, rfl⟩
  · obtain ⟨ticked, htick, hhandle⟩ := Option.map_eq_some_iff.mp hstart
    obtain ⟨hdb, hholds⟩ := holds_handle ticked request env
    rw [hhandle] at hdb hholds
    obtain rfl : db = ticked := hdb
    exact hp.start (unredeemed_congr (tick_pass htick)).mp hholds
  · obtain ⟨ticked, htick, hproceed⟩ := Option.bind_eq_some_iff.mp hresume
    have hsame := unredeemed_congr (tick_pass htick)
    have hmoves := proceed_moves (fun callback passId code issuedAt heq => by
      subst heq
      simp only [refreshesUnredeemed, hc, Bool.or_eq_true, decide_eq_true_eq] at hok
      rwa [hsame]) hproceed
    rw [propext hsame] at hmoves
    exact hp.resume hc hmoves

end

theorem created_le_holders (p : State) : p.created ≤ p.calls.countP Call.holds := by
  refine List.countP_mono_left ?_
  intro c _ hc
  match c, hc with
  | .answered (.created _), _ => rfl

/-- **One redemption for each account**, where no refresh meets a redeemed pass. In every run
in which each refresh of a callback is executed while nobody has redeemed the pass, at most
one redeem request answers 201. -/
theorem at_most_one_redeemed (db : Database) (es : List Event) (p : State)
    (hok : AllSteps program.step (refreshesUnredeemed · ·) ⟨db, []⟩ es)
    (hrun : exec program.step ⟨db, []⟩ es = some p) : p.created ≤ 1 := by
  have hp : Exclusive Database.unredeemed Call.holds p :=
    exec_invariant (Exclusive Database.unredeemed Call.holds)
      (fun _ _ _ hi ho h => exclusive_step hi ho h) (exclusive_nil db) hok hrun
  exact (created_le_holders p).trans hp.one_holder

/-! ### A callback that reads the pass while it is being redeemed -/

/-- The values that are generated have the given last character. -/
def exampleFresh (tag : String) : Fresh where
  ulid := js ("01HF7YAT00W6W7CM7N3W5FDXP" ++ tag)
  code := STARTER_PASS_CODE_PREFIX ++ js ("AAECAwQFBgcICQoLDA0ODxAREhMUFRY" ++ tag)
  apiKeyId := js ("01HF7YAT00W6W7CM7N3W5FDXK" ++ tag)
  keyHash := js ("6b86b273ff34fce19d6b804eff5a3f57" ++ tag)
  keyPrefix := js "clw_pat_AAECAwQF"
  didAuthority := js "registry.example.com"

def exampleEnv (nowMs : ℕ) (tag : String) : Env where
  nowMs := nowMs
  fails := false
  unsupported := true
  fresh := exampleFresh tag

def exampleCallback (nowMs : ℕ) (tag : String) : Event :=
  .start (.callback ⟨js "octocat", js "Mona"⟩, exampleEnv nowMs tag)

/-- A redeem request for the code with the given last character. -/
def exampleRedeem (nowMs : ℕ) (tag : String) : Event :=
  .start (.redeem (object [("code", some (.str (exampleFresh tag).code))]), exampleEnv nowMs tag)

def exampleResume (i nowMs : ℕ) (tag : String) : Event := .resume i (exampleEnv nowMs tag)

def exampleDatabase : Database := ⟨1700000000000, none, [], []⟩

/-- A pass is issued. Half an hour later a request reads it just before it expires, and a
second callback reads it just after; the request redeems the pass, the callback refreshes
it, and the new code is redeemed again. -/
def exampleRace : List Event :=
  [exampleCallback 1700000000000 "1"] ++ List.replicate 3 (exampleResume 0 1700000000000 "1") ++
    [exampleRedeem 1700001799999 "1"] ++ List.replicate 3 (exampleResume 1 1700001799999 "2") ++
    [exampleCallback 1700001800000 "3"] ++ List.replicate 2 (exampleResume 2 1700001800000 "3") ++
    List.replicate 4 (exampleResume 1 1700001800000 "2") ++
    [exampleResume 2 1700001800000 "3", exampleRedeem 1700001801000 "3"] ++
    List.replicate 7 (exampleResume 3 1700001801000 "4")

theorem exampleRace_created :
    (exec program.step ⟨exampleDatabase, []⟩ exampleRace).map State.created = some 2 := by
  decide

/-- **An account can be redeemed twice.** -/
theorem not_at_most_one_redeemed :
    ¬ ∀ (db : Database) (es : List Event) (p : State),
      exec program.step ⟨db, []⟩ es = some p → p.created ≤ 1 := by
  intro h
  obtain ⟨p, hrun, hcreated⟩ := Option.map_eq_some_iff.mp exampleRace_created
  have := h exampleDatabase exampleRace p hrun
  omega

/-- The second callback comes after the pass was redeemed. -/
def exampleSequence : List Event :=
  [exampleCallback 1700000000000 "1"] ++ List.replicate 3 (exampleResume 0 1700000000000 "1") ++
    [exampleRedeem 1700001799999 "1"] ++ List.replicate 7 (exampleResume 1 1700001799999 "2") ++
    [exampleCallback 1700001800000 "3"] ++ List.replicate 2 (exampleResume 2 1700001800000 "3")

theorem exampleSequence_redeemed :
    (exec program.step ⟨exampleDatabase, []⟩ exampleSequence).map
      (fun p => (State.created p, p.calls[2]?)) = some (1, some (.redirected .alreadyUsed)) := by
  decide

/-- The second callback is refused, and one request has answered 201. -/
theorem exampleSequence_at_most_one :
    ∃ p : State, exec program.step ⟨exampleDatabase, []⟩ exampleSequence = some p ∧
      p.calls[2]? = some (.redirected .alreadyUsed) ∧ p.created ≤ 1 := by
  obtain ⟨p, hrun, hresult⟩ := Option.map_eq_some_iff.mp exampleSequence_redeemed
  have hok : AllSteps program.step (refreshesUnredeemed · ·) ⟨exampleDatabase, []⟩
      exampleSequence := by
    decide
  exact ⟨p, hrun, (Prod.mk.inj hresult).2,
    at_most_one_redeemed exampleDatabase exampleSequence p hok hrun⟩

end Clawdentity.StarterPass
