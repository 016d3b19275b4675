import Clawdentity.Registry.StarterPass

/-!
# Redemption of an invite

The row of one invite, under any interleaving of redeem requests on a database without
transactions. A request is cut at each of its statements; any of them may fail, in which case
it changes nothing. Where a statement of the mutation fails, the request takes back what it
has done.

The parser of dates is a parameter, and the generated values come with the move.

## Main definitions

* `parseInviteRedeemPayload` — the body of a request.
* `program` — the code of a request, cut between its statements.
* `compensationsSucceed` — the condition on a step.
* `redeemed_exactly_once`.
-/

namespace Clawdentity.InviteRedeem

open Js Lib Lib.Interleave Lib.Run
open StarterPass (HumanRow ApiKeyRow nameError parseOptionalTrimmedString)

/-! ## The body of a request -/

def DEFAULT_INVITE_REDEEM_DISPLAY_NAME : JsString := js "User"
def DEFAULT_INVITE_REDEEM_API_KEY_NAME : JsString := js "invite"
def MAX_INVITE_CODE_LENGTH : ℕ := 128

structure InviteRedeemPayload where
  code : JsString
  displayName : JsString
  apiKeyName : JsString
  deriving DecidableEq

/-- The error of the field `code`. -/
def codeError (code : Option Value) : Option String :=
  match code.bind Json.str? with
  | none => some "code is required"
  | some text =>
      if (trim text).isEmpty then some "code is required"
      else if MAX_INVITE_CODE_LENGTH < (trim text).length then
        some "code must be at most 128 characters"
      else none

/-- The payload, or the errors by field. -/
def parseInviteRedeemPayload (payload : Value) :
    Except (List (String × String)) InviteRedeemPayload :=
  match payload with
  | .obj fields =>
      let body : Value := .obj fields
      let code := body.get? (js "code")
      let displayName := body.get? (js "displayName")
      let apiKeyName := body.get? (js "apiKeyName")
      let fieldErrors :=
        [("code", codeError code),
          ("displayName", nameError displayName "displayName" DEFAULT_INVITE_REDEEM_DISPLAY_NAME),
          ("apiKeyName", nameError apiKeyName "apiKeyName" DEFAULT_INVITE_REDEEM_API_KEY_NAME)]
          |>.filterMap fun f => f.2.map fun error => (f.1, error)
      if fieldErrors.isEmpty then
        .ok
          { code := (code.bind Json.str?).elim [] trim
            displayName :=
              (parseOptionalTrimmedString displayName).getD DEFAULT_INVITE_REDEEM_DISPLAY_NAME
            apiKeyName :=
              (parseOptionalTrimmedString apiKeyName).getD DEFAULT_INVITE_REDEEM_API_KEY_NAME }
      else .error fieldErrors
  | _ => .error [("body", "body must be a JSON object")]

/-! ## The tables -/

/-- The row of the invite, with the columns that the route uses. -/
structure InviteRow where
  id : JsString
  code : JsString
  redeemedBy : Option JsString
  expiresAt : Option JsString
  deriving DecidableEq

structure Database where
  invite : InviteRow
  humans : List HumanRow
  apiKeys : List ApiKeyRow
  deriving DecidableEq

def findInviteByCode (db : Database) (code : JsString) : Option InviteRow :=
  if db.invite.code = code then some db.invite else none

def findInviteById (db : Database) (id : JsString) : Option InviteRow :=
  if db.invite.id = id then some db.invite else none

/-- `Date.parse`; `none` where it answers no finite number. -/
abbrev DateParse := JsString → Option ℤ

/-- A date that cannot be parsed has expired. -/
def isInviteExpired (dateParse : DateParse) (expiresAt : Option JsString) (nowMillis : ℕ) : Bool :=
  expiresAt.any fun text => (dateParse text).all fun expiresAtMillis : ℤ =>
    expiresAtMillis ≤ nowMillis

/-! ## Requests -/

/-- The values that a request generates. -/
structure Fresh where
  humanId : JsString
  apiKeyId : JsString
  keyHash : JsString
  keyPrefix : JsString
  didAuthority : JsString
  createdAt : ℕ
  deriving DecidableEq

/-- What the environment decides for a move: the clock, whether the statement fails, and the
generated values. -/
structure Env where
  nowMs : ℕ
  fails : Bool
  fresh : Fresh
  deriving DecidableEq

inductive RedeemError
  | invalid (fieldErrors : List (String × String))
  /-- `INVITE_REDEEM_CODE_INVALID`. -/
  | codeInvalid
  /-- `INVITE_REDEEM_ALREADY_USED`. -/
  | alreadyUsed
  /-- `INVITE_REDEEM_EXPIRED`. -/
  | expired
  /-- A statement failed. -/
  | database
  deriving DecidableEq

/-- The values of a request at its mutation. -/
structure Redemption where
  inviteId : JsString
  nowMillis : ℕ
  human : HumanRow
  apiKey : ApiKeyRow
  deriving DecidableEq

/-- The statements of `applyRedeemMutation`, in the order of the source. -/
inductive Phase
  | insertHuman
  | redeemInvite
  | insertApiKey
  deriving DecidableEq

/-- The statements of its `catch` block; the first one is run only where the request had
redeemed the invite. -/
inductive Compensation
  | unlinkInvite
  | deleteHuman
  deriving DecidableEq

inductive Response
  /-- 201, with the human and the API key. -/
  | created (human : HumanRow) (apiKey : ApiKeyRow)
  | failed (error : RedeemError)
  deriving DecidableEq

/-- A request before its next statement. -/
inductive Call
  | finding (payload : InviteRedeemPayload)
  | running (redemption : Redemption) (phase : Phase)
  /-- No row was updated: the invite is read for the error. -/
  | resolving (redemption : Redemption)
  | compensating (redemption : Redemption) (error : RedeemError) (phase : Compensation)
  | answered (response : Response)
  deriving DecidableEq

def startRedeem (body : Value) : Call :=
  match parseInviteRedeemPayload body with
  | .error fieldErrors => .answered (.failed (.invalid fieldErrors))
  | .ok payload => .finding payload

def buildRedemption (payload : InviteRedeemPayload) (inviteId : JsString) (env : Env) :
    Redemption where
  inviteId := inviteId
  nowMillis := env.nowMs
  human :=
    { id := env.fresh.humanId
      did := js "did:cdi:" ++ env.fresh.didAuthority ++ js ":human:" ++ env.fresh.humanId
      displayName := payload.displayName, createdAt := env.fresh.createdAt }
  apiKey :=
    { id := env.fresh.apiKeyId, humanId := env.fresh.humanId, keyHash := env.fresh.keyHash
      keyPrefix := env.fresh.keyPrefix, name := payload.apiKeyName
      createdAt := env.fresh.createdAt }

section
variable (dateParse : DateParse)

/-- The code after the invite was found. -/
def decideRedeem (payload : InviteRedeemPayload) (invite : InviteRow) (env : Env) : Call :=
  if invite.redeemedBy.isSome then .answered (.failed .alreadyUsed)
  else if isInviteExpired dateParse invite.expiresAt env.nowMs then .answered (.failed .expired)
  else .running (buildRedemption payload invite.id env) .insertHuman

def insertHuman (db : Database) (r : Redemption) : Option Database :=
  if db.humans.any fun human => human.id = r.human.id || human.did = r.human.did then none
  else some { db with humans := r.human :: db.humans }

def insertApiKey (db : Database) (r : Redemption) : Option Database :=
  if db.apiKeys.any fun key => key.id = r.apiKey.id then none
  else some { db with apiKeys := r.apiKey :: db.apiKeys }

def resolveInviteRedeemStateError (db : Database) (r : Redemption) : RedeemError :=
  match findInviteById db r.inviteId with
  | none => .codeInvalid
  | some invite =>
      if invite.redeemedBy.isSome then .alreadyUsed
      else if isInviteExpired dateParse invite.expiresAt r.nowMillis then .expired
      else .codeInvalid

/-- `update(invites).set({ redeemed_by })`, where the column has the given value. -/
def updateRedeemedBy (db : Database) (r : Redemption) (expected next : Option JsString) :
    Option Database :=
  if db.invite.id = r.inviteId ∧ db.invite.redeemedBy = expected then
    some { db with invite := { db.invite with redeemedBy := next } }
  else none

/-- One statement of `applyRedeemMutation`. The first one stands before the `try`. -/
def runPhase (db : Database) (r : Redemption) (fails : Bool) : Phase → Database × Call
  | .insertHuman =>
      match (insertHuman db r).filter fun _ => !fails with
      | none => (db, .answered (.failed .database))
      | some next => (next, .running r .redeemInvite)
  | .redeemInvite =>
      if fails then (db, .compensating r .database .deleteHuman)
      else
        match updateRedeemedBy db r none (some r.human.id) with
        | none => (db, .resolving r)
        | some next => (next, .running r .insertApiKey)
  | .insertApiKey =>
      match (insertApiKey db r).filter fun _ => !fails with
      | none => (db, .compensating r .database .unlinkInvite)
      | some next => (next, .answered (.created r.human r.apiKey))

/-- One statement of the `catch` block, whose failure is only logged. -/
def runCompensation (db : Database) (r : Redemption) (error : RedeemError) (fails : Bool) :
    Compensation → Database × Call
  | .unlinkInvite =>
      (if fails then db else (updateRedeemedBy db r (some r.human.id) none).getD db,
        .compensating r error .deleteHuman)
  | .deleteHuman =>
      (if fails then db
        else { db with humans := db.humans.filter fun human => human.id ≠ r.human.id },
        .answered (.failed error))

/-- The next statement of a request. -/
def proceed (db : Database) (env : Env) : Call → Option (Database × Call)
  | .finding payload =>
      some (db,
        if env.fails then .answered (.failed .database)
        else
          match findInviteByCode db payload.code with
          | none => .answered (.failed .codeInvalid)
          | some invite => decideRedeem dateParse payload invite env)
  | .running r phase => some (runPhase db r env.fails phase)
  | .resolving r =>
      some (db, .compensating r
        (if env.fails then .database else resolveInviteRedeemStateError dateParse db r)
        .deleteHuman)
  | .compensating r error phase => some (runCompensation db r error env.fails phase)
  | .answered _ => none

/-- The route on a database without transactions. -/
def program : Program Database Call Value Env where
  start db body := some (db, startRedeem body)
  resume db call env := proceed dateParse db env call

end

abbrev State := Pool Database Call
abbrev Event := Move Value Env

/-- The request answered 201. -/
def Call.isCreated : Call → Bool
  | .answered (.created _ _) => true
  | _ => false

def Call.isAnswered : Call → Bool
  | .answered _ => true
  | _ => false

/-- No request is in progress. -/
def Quiescent (p : State) : Prop := ∀ c ∈ p.calls, c.isAnswered = true

/-- How many requests answered 201. -/
def State.created (p : State) : ℕ := p.calls.countP Call.isCreated

/-- The human that a request has inserted and not deleted. -/
def Call.insertedHuman : Call → Option HumanRow
  | .running _ .insertHuman => none
  | .running r _ => some r.human
  | .resolving r => some r.human
  | .compensating r _ _ => some r.human
  | .answered (.created human _) => some human
  | _ => none

/-- The API key that a request has inserted. -/
def Call.insertedApiKey : Call → Option ApiKeyRow
  | .answered (.created _ apiKey) => some apiKey
  | _ => none

/-- The condition on one step: a statement of the `catch` block does not fail. -/
def compensationsSucceed (p : State) : Event → Bool
  | .resume i env =>
      match p.calls[i]? with
      | some (.compensating _ _ _) => !env.fails
      | _ => true
  | .start _ => true

/-! ## The invite is held by one request -/

/-- The human for whom a request has redeemed the invite and not given it back. -/
def Call.holder : Call → Option JsString
  | .running r .insertApiKey => some r.human.id
  | .compensating r _ .unlinkInvite => some r.human.id
  | .answered (.created human _) => some human.id
  | _ => none

def Call.holds (c : Call) : Bool := c.holder.isSome

/-- The mutation of a request is about the invite. -/
def Call.OnInvite (id : JsString) : Call → Prop
  | .running r _ => r.inviteId = id
  | .resolving r => r.inviteId = id
  | .compensating r _ _ => r.inviteId = id
  | _ => True

/-- What one piece of code does to the invite. -/
inductive InviteMove (db db' : Database) (c c' : Call) : Prop
  | keep (same : db'.invite = db.invite) (holder : c'.holder = c.holder)
  | take (humanId : JsString) (was_free : db.invite.redeemedBy = none)
      (id : db'.invite.id = db.invite.id) (now_taken : db'.invite.redeemedBy = some humanId)
      (before : c.holder = none) (holder : c'.holder = some humanId)
  | release (id : db'.invite.id = db.invite.id) (now_free : db'.invite.redeemedBy = none)
      (before : c.holds = true) (holder : c'.holder = none)

section
variable {dateParse : DateParse} {db db' : Database} {env : Env} {r : Redemption} {c c' : Call}

theorem insertHuman_invite (h : insertHuman db r = some db') : db'.invite = db.invite := by
  simp only [insertHuman, Option.ite_none_left_eq_some, Option.some.injEq] at h
  rw [← h.2]

theorem insertApiKey_invite (h : insertApiKey db r = some db') : db'.invite = db.invite := by
  simp only [insertApiKey, Option.ite_none_left_eq_some, Option.some.injEq] at h
  rw [← h.2]

theorem updateRedeemedBy_eq_some {expected next : Option JsString} :
    updateRedeemedBy db r expected next = some db' ↔
      (db.invite.id = r.inviteId ∧ db.invite.redeemedBy = expected) ∧
        { db with invite := { db.invite with redeemedBy := next } } = db' := by
  simp only [updateRedeemedBy, Option.ite_none_right_eq_some, Option.some.injEq]

theorem runPhase_move (db : Database) (r : Redemption) (fails : Bool) (phase : Phase) :
    InviteMove db (runPhase db r fails phase).1 (.running r phase)
      (runPhase db r fails phase).2 := by
  cases phase with
  | insertHuman =>
      simp only [runPhase]
      split
      · exact .keep rfl rfl
      · rename_i next hnext
        exact .keep (insertHuman_invite (Option.filter_eq_some_iff.mp hnext).1) rfl
  | redeemInvite =>
      simp only [runPhase]
      split
      · exact .keep rfl rfl
      · split
        · exact .keep rfl rfl
        · rename_i next hnext
          obtain ⟨⟨-, hfree⟩, rfl⟩ := updateRedeemedBy_eq_some.mp hnext
          exact .take r.human.id hfree rfl rfl rfl rfl
  | insertApiKey =>
      simp only [runPhase]
      split
      · exact .keep rfl rfl
      · rename_i next hnext
        exact .keep (insertApiKey_invite (Option.filter_eq_some_iff.mp hnext).1) rfl

/-- A statement of the `catch` block that does not fail. -/
theorem runCompensation_move {error : RedeemError} {phase : Compensation}
    (hid : r.inviteId = db.invite.id)
    (hheld : ∀ humanId, (Call.compensating r error phase).holder = some humanId →
      db.invite.redeemedBy = some humanId) :
    InviteMove db (runCompensation db r error false phase).1 (.compensating r error phase)
      (runCompensation db r error false phase).2 := by
  cases phase with
  | unlinkInvite =>
      have hupdate : updateRedeemedBy db r (some r.human.id) none =
          some { db with invite := { db.invite with redeemedBy := none } } :=
        updateRedeemedBy_eq_some.mpr ⟨⟨hid.symm, hheld r.human.id rfl⟩, rfl⟩
      simp only [runCompensation, hupdate, Option.getD_some, Bool.false_eq_true, if_false]
      exact .release rfl rfl rfl rfl
  | deleteHuman => exact .keep rfl rfl

theorem holder_decideRedeem (dateParse : DateParse) (payload : InviteRedeemPayload)
    (invite : InviteRow) (env : Env) :
    (decideRedeem dateParse payload invite env).holder = none := by
  unfold decideRedeem
  split
  · rfl
  · split <;> rfl

/-- **One piece of code.** -/
theorem proceed_move (hid : c.OnInvite db.invite.id)
    (hheld : ∀ humanId, c.holder = some humanId → db.invite.redeemedBy = some humanId)
    (hok : ∀ r error phase, c = .compensating r error phase → env.fails = false)
    (h : proceed dateParse db env c = some (db', c')) : InviteMove db db' c c' := by
  cases c with
  | finding payload =>
      cases h
      refine .keep rfl ?_
      split
      · rfl
      · split
        · rfl
        · exact holder_decideRedeem dateParse payload _ env
  | running r phase =>
      have hmove := runPhase_move db r env.fails phase
      rw [Option.some.inj h] at hmove
      exact hmove
  | resolving r =>
      cases h
      exact .keep rfl rfl
  | compensating r error phase =>
      have hmove := runCompensation_move hid hheld
      rw [← hok r error phase rfl, Option.some.inj h] at hmove
      exact hmove
  | answered response => cases h

/-- The mutation of a request stays with the invite that was found. -/
theorem proceed_onInvite (hid : c.OnInvite db.invite.id)
    (h : proceed dateParse db env c = some (db', c')) : c'.OnInvite db.invite.id := by
  cases c with
  | finding payload =>
      obtain ⟨rfl, rfl⟩ := Prod.mk.inj (Option.some.inj h)
      split
      · trivial
      · split
        · trivial
        · rename_i invite hinvite
          simp only [findInviteByCode, Option.ite_none_right_eq_some, Option.some.injEq] at hinvite
          obtain ⟨-, rfl⟩ := hinvite
          unfold decideRedeem
          split
          · trivial
          · split
            · trivial
            · rfl
  | running r phase =>
      have hnext : (runPhase db r env.fails phase).2 = c' := congrArg Prod.snd (Option.some.inj h)
      rw [← hnext]
      cases phase with
      | insertHuman =>
          simp only [runPhase]
          split
          · trivial
          · exact hid
      | redeemInvite =>
          simp only [runPhase]
          split
          · exact hid
          · split <;> exact hid
      | insertApiKey =>
          simp only [runPhase]
          split
          · exact hid
          · trivial
  | resolving r =>
      cases h
      exact hid
  | compensating r error phase =>
      have hnext : (runCompensation db r error env.fails phase).2 = c' :=
        congrArg Prod.snd (Option.some.inj h)
      rw [← hnext]
      cases phase with
      | unlinkInvite => exact hid
      | deleteHuman => trivial
  | answered response => cases h

/-! ## The rows of a request -/

/-- A row of the table after a piece of code was there before, and is still the one of its
request, or the request has just inserted it. -/
def Accounted {ρ : Type} (rows rows' : List ρ) (inserted inserted' : Option ρ) : Prop :=
  ∀ row ∈ rows', (row ∈ rows ∧ (inserted = some row → inserted' = some row)) ∨
    inserted' = some row

theorem Accounted.keep {ρ : Type} {rows : List ρ} {inserted inserted' : Option ρ}
    (h : ∀ row, inserted = some row → inserted' = some row) :
    Accounted rows rows inserted inserted' :=
  fun row hrow => .inl ⟨hrow, h row⟩

theorem insertHuman_humans (h : insertHuman db r = some db') :
    db'.humans = r.human :: db.humans ∧ db'.apiKeys = db.apiKeys := by
  simp only [insertHuman, Option.ite_none_left_eq_some, Option.some.injEq] at h
  rw [← h.2]
  exact ⟨rfl, rfl⟩

theorem insertApiKey_apiKeys (h : insertApiKey db r = some db') :
    db'.humans = db.humans ∧ db'.apiKeys = r.apiKey :: db.apiKeys := by
  simp only [insertApiKey, Option.ite_none_left_eq_some, Option.some.injEq] at h
  rw [← h.2]
  exact ⟨rfl, rfl⟩

theorem accounted_runPhase (db : Database) (r : Redemption) (fails : Bool) (phase : Phase) :
    Accounted db.humans (runPhase db r fails phase).1.humans
        (Call.running r phase).insertedHuman (runPhase db r fails phase).2.insertedHuman ∧
      Accounted db.apiKeys (runPhase db r fails phase).1.apiKeys none
        (runPhase db r fails phase).2.insertedApiKey := by
  cases phase with
  | insertHuman =>
      simp only [runPhase]
      split
      · exact ⟨.keep nofun, .keep nofun⟩
      · rename_i next hnext
        obtain ⟨hhumans, hkeys⟩ := insertHuman_humans (Option.filter_eq_some_iff.mp hnext).1
        rw [hhumans, hkeys]
        refine ⟨?_, .keep nofun⟩
        intro row hrow
        rcases List.mem_cons.mp hrow with rfl | hrow
        · exact .inr rfl
        · exact .inl ⟨hrow, nofun⟩
  | redeemInvite =>
      simp only [runPhase]
      split
      · exact ⟨.keep fun _ h => h, .keep nofun⟩
      · split
        · exact ⟨.keep fun _ h => h, .keep nofun⟩
        · rename_i next hnext
          obtain ⟨-, rfl⟩ := updateRedeemedBy_eq_some.mp hnext
          exact ⟨.keep fun _ h => h, .keep nofun⟩
  | insertApiKey =>
      simp only [runPhase]
      split
      · exact ⟨.keep fun _ h => h, .keep nofun⟩
      · rename_i next hnext
        obtain ⟨hhumans, hkeys⟩ := insertApiKey_apiKeys (Option.filter_eq_some_iff.mp hnext).1
        rw [hhumans, hkeys]
        refine ⟨.keep fun _ h => h, ?_⟩
        intro row hrow
        rcases List.mem_cons.mp hrow with rfl | hrow
        · exact .inr rfl
        · exact .inl ⟨hrow, nofun⟩

/-- The `catch` block leaves no row of its request. -/
theorem accounted_runCompensation (db : Database) (r : Redemption) (error : RedeemError)
    (phase : Compensation) :
    Accounted db.humans (runCompensation db r error false phase).1.humans
        (Call.compensating r error phase).insertedHuman
        (runCompensation db r error false phase).2.insertedHuman ∧
      (runCompensation db r error false phase).1.apiKeys = db.apiKeys := by
  cases phase with
  | unlinkInvite =>
      simp only [runCompensation, Bool.false_eq_true, if_false]
      cases hupdate : updateRedeemedBy db r (some r.human.id) none with
      | none => exact ⟨.keep fun _ h => h, rfl⟩
      | some next =>
          obtain ⟨-, rfl⟩ := updateRedeemedBy_eq_some.mp hupdate
          exact ⟨.keep fun _ h => h, rfl⟩
  | deleteHuman =>
      refine ⟨?_, rfl⟩
      intro row hrow
      have hkept := List.mem_filter.mp hrow
      refine .inl ⟨hkept.1, ?_⟩
      intro hown
      obtain rfl := Option.some.inj hown
      exact absurd rfl (of_decide_eq_true hkept.2)

theorem proceed_accounted
    (hok : ∀ r error phase, c = .compensating r error phase → env.fails = false)
    (h : proceed dateParse db env c = some (db', c')) :
    Accounted db.humans db'.humans c.insertedHuman c'.insertedHuman ∧
      Accounted db.apiKeys db'.apiKeys c.insertedApiKey c'.insertedApiKey := by
  cases c with
  | finding payload =>
      cases h
      exact ⟨.keep nofun, .keep nofun⟩
  | running r phase =>
      have haccounted := accounted_runPhase db r env.fails phase
      rw [Option.some.inj h] at haccounted
      exact haccounted
  | resolving r =>
      cases h
      exact ⟨.keep fun _ h => h, .keep nofun⟩
  | compensating r error phase =>
      have haccounted := accounted_runCompensation db r error phase
      rw [← hok r error phase rfl, Option.some.inj h] at haccounted
      rw [haccounted.2]
      exact ⟨haccounted.1, .keep nofun⟩
  | answered response => cases h

end

/-! ## The invariant -/

/-- Each row is one of the first rows, or that of a request. -/
def RowsOf {ρ : Type} (first rows : List ρ) (inserted : Call → Option ρ) (calls : List Call) :
    Prop :=
  ∀ row ∈ rows, row ∈ first ∨ ∃ c ∈ calls, inserted c = some row

structure Inv (db₀ : Database) (p : State) : Prop where
  onInvite : ∀ c ∈ p.calls, c.OnInvite p.shared.invite.id
  /-- The invite is redeemed while one request holds it. -/
  held : p.calls.countP Call.holds = if p.shared.invite.redeemedBy.isSome then 1 else 0
  linked : ∀ c ∈ p.calls, ∀ humanId, c.holder = some humanId →
    p.shared.invite.redeemedBy = some humanId
  humans : RowsOf db₀.humans p.shared.humans Call.insertedHuman p.calls
  apiKeys : RowsOf db₀.apiKeys p.shared.apiKeys Call.insertedApiKey p.calls

theorem inv_initial {db₀ : Database} (h : db₀.invite.redeemedBy = none) : Inv db₀ ⟨db₀, []⟩ where
  onInvite := by simp
  held := by simp [h]
  linked := by simp
  humans _ hrow := .inl hrow
  apiKeys _ hrow := .inl hrow

section
variable {dateParse : DateParse} {db₀ db' : Database} {p : State} {i : ℕ} {c c' : Call}

theorem RowsOf.resume {ρ : Type} {first rows rows' : List ρ} {inserted : Call → Option ρ}
    {calls : List Call} (h : RowsOf first rows inserted calls) (hc : calls[i]? = some c)
    (haccounted : Accounted rows rows' (inserted c) (inserted c')) :
    RowsOf first rows' inserted (calls.set i c') := by
  intro row hrow
  rcases haccounted row hrow with ⟨hold, hsame⟩ | hnew
  · rcases h row hold with hfirst | ⟨d, hd, hinserted⟩
    · exact .inl hfirst
    · rcases mem_set_or_eq hc hd with rfl | hd
      · exact .inr ⟨c', mem_set_self hc, hsame hinserted⟩
      · exact .inr ⟨d, hd, hinserted⟩
  · exact .inr ⟨c', mem_set_self hc, hnew⟩

theorem not_holder_of_countP {calls : List Call} (h : calls.countP Call.holds = 0) {d : Call}
    (hd : d ∈ calls) : d.holder = none := by
  have hholds := List.countP_eq_zero.mp h d hd
  cases hholder : d.holder with
  | none => rfl
  | some humanId => exact absurd (by rw [Call.holds, hholder]; rfl) hholds

theorem inv_resume (hp : Inv db₀ p) (hc : p.calls[i]? = some c)
    (hmove : InviteMove p.shared db' c c') (hid : c'.OnInvite p.shared.invite.id)
    (hhumans : Accounted p.shared.humans db'.humans c.insertedHuman c'.insertedHuman)
    (hkeys : Accounted p.shared.apiKeys db'.apiKeys c.insertedApiKey c'.insertedApiKey) :
    Inv db₀ ⟨db', p.calls.set i c'⟩ := by
  have hcount := countP_set_add Call.holds c' hc
  have hheld := hp.held
  have hinvite : db'.invite.id = p.shared.invite.id := by
    cases hmove with
    | keep same => rw [same]
    | take humanId was_free id => exact id
    | release id => exact id
  have honInvite : ∀ d ∈ p.calls.set i c', d.OnInvite db'.invite.id := by
    intro d hd
    rw [hinvite]
    rcases List.mem_or_eq_of_mem_set hd with hd | rfl
    · exact hp.onInvite d hd
    · exact hid
  refine ⟨honInvite, ?_, ?_, hp.humans.resume hc hhumans, hp.apiKeys.resume hc hkeys⟩
  · change (p.calls.set i c').countP Call.holds = _
    cases hmove with
    | keep same holder =>
        have hsame : c'.holds = c.holds := by rw [Call.holds, Call.holds, holder]
        rw [hsame] at hcount
        rw [same]
        omega
    | take humanId was_free id now_taken before holder =>
        have hbefore : c.holds = false := by rw [Call.holds, before]; rfl
        have hafter : c'.holds = true := by rw [Call.holds, holder]; rfl
        rw [was_free] at hheld
        rw [now_taken]
        simp only [hbefore, hafter, Bool.false_eq_true, if_false, if_true, Option.isSome_none,
          Option.isSome_some] at hcount hheld ⊢
        omega
    | release id now_free before holder =>
        have hafter : c'.holds = false := by rw [Call.holds, holder]; rfl
        rw [now_free]
        simp only [before, hafter, Bool.false_eq_true, if_false, if_true,
          Option.isSome_none] at hcount hheld ⊢
        split at hheld <;> omega
  · intro d hd humanId hholder
    cases hmove with
    | keep same holder =>
        change db'.invite.redeemedBy = some humanId
        rw [same]
        rcases List.mem_or_eq_of_mem_set hd with hd | rfl
        · exact hp.linked d hd humanId hholder
        · exact hp.linked c (List.mem_of_getElem? hc) humanId (holder ▸ hholder)
    | take taken was_free id now_taken before holder =>
        rcases List.mem_or_eq_of_mem_set hd with hd | rfl
        · rw [was_free] at hheld
          rw [not_holder_of_countP hheld hd] at hholder
          cases hholder
        · exact now_taken.trans (holder.symm.trans hholder)
    | release id now_free before holder =>
        have hafter : c'.holds = false := by rw [Call.holds, holder]; rfl
        have hnone : (p.calls.set i c').countP Call.holds = 0 := by
          simp only [before, hafter, Bool.false_eq_true, if_false, if_true] at hcount
          split at hheld <;> omega
        rw [not_holder_of_countP hnone hd] at hholder
        cases hholder

theorem inv_start (hp : Inv db₀ p) (body : Value) :
    Inv db₀ ⟨p.shared, p.calls ++ [startRedeem body]⟩ := by
  have hnew : (startRedeem body).holder = none ∧
      (startRedeem body).OnInvite p.shared.invite.id := by
    unfold startRedeem
    split <;> exact ⟨rfl, trivial⟩
  refine ⟨?_, ?_, ?_, ?_, ?_⟩
  · intro d hd
    rcases List.mem_append.mp hd with hd | hd
    · exact hp.onInvite d hd
    · rw [List.mem_singleton.mp hd]
      exact hnew.2
  · have hholds : (startRedeem body).holds = false := by rw [Call.holds, hnew.1]; rfl
    change (p.calls ++ [startRedeem body]).countP Call.holds = _
    rw [List.countP_append, List.countP_singleton, hholds]
    exact hp.held
  · intro d hd humanId hholder
    rcases List.mem_append.mp hd with hd | hd
    · exact hp.linked d hd humanId hholder
    · rw [List.mem_singleton.mp hd, hnew.1] at hholder
      cases hholder
  · intro row hrow
    exact (hp.humans row hrow).imp_right fun ⟨d, hd, h⟩ =>
      ⟨d, List.mem_append_left _ hd, h⟩
  · intro row hrow
    exact (hp.apiKeys row hrow).imp_right fun ⟨d, hd, h⟩ =>
      ⟨d, List.mem_append_left _ hd, h⟩

theorem inv_step {q : State} {e : Event} (hp : Inv db₀ p) (hok : compensationsSucceed p e = true)
    (h : (program dateParse).step p e = some q) : Inv db₀ q := by
  obtain ⟨body, db, c, rfl, hstart, rfl⟩ | ⟨i, env, c, db, c', rfl, hc, hresume, rfl⟩ :=
    Program.step_cases h
  · obtain ⟨rfl, rfl⟩ := Prod.mk.inj (Option.some.inj hstart)
    exact inv_start hp body
  · have hmem := List.mem_of_getElem? hc
    have hsucceeds : ∀ r error phase, c = .compensating r error phase → env.fails = false := by
      rintro r error phase rfl
      simpa [compensationsSucceed, hc] using hok
    obtain ⟨hhumans, hkeys⟩ := proceed_accounted hsucceeds hresume
    exact inv_resume hp hc
      (proceed_move (hp.onInvite c hmem) (hp.linked c hmem) hsucceeds hresume)
      (proceed_onInvite (hp.onInvite c hmem) hresume) hhumans hkeys

end

theorem created_le_holders (p : State) : p.created ≤ p.calls.countP Call.holds := by
  refine List.countP_mono_left ?_
  intro c _ hc
  match c, hc with
  | .answered (.created _ _), _ => rfl

/-- **An invite is redeemed exactly once, and errors leave nothing behind.** In every
interleaving in which the statements of the `catch` blocks succeed, at most one request answers
201; once all requests have answered, the invite is redeemed by its human, or by nobody; and
each new row is that of a request that answered 201 or is still in progress. -/
theorem redeemed_exactly_once {dateParse : DateParse} {db₀ : Database} {es : List Event}
    {p : State} (h₀ : db₀.invite.redeemedBy = none)
    (hok : AllSteps (program dateParse).step (compensationsSucceed · ·) ⟨db₀, []⟩ es)
    (hrun : exec (program dateParse).step ⟨db₀, []⟩ es = some p) :
    p.created ≤ 1 ∧
    (Quiescent p →
      (∀ human apiKey, .answered (.created human apiKey) ∈ p.calls →
        p.shared.invite.redeemedBy = some human.id) ∧
      (p.created = 0 → p.shared.invite.redeemedBy = none)) ∧
    (∀ human ∈ p.shared.humans, human ∈ db₀.humans ∨
      ∃ c ∈ p.calls, c.insertedHuman = some human) ∧
    (∀ apiKey ∈ p.shared.apiKeys, apiKey ∈ db₀.apiKeys ∨
      ∃ c ∈ p.calls, c.insertedApiKey = some apiKey) := by
  have hp : Inv db₀ p := exec_invariant (Inv db₀) (fun _ _ _ hs he h => inv_step hs he h)
    (inv_initial h₀) hok hrun
  refine ⟨?_, ?_, hp.humans, hp.apiKeys⟩
  · have hle := created_le_holders p
    have hheld := hp.held
    split at hheld <;> omega
  · intro hquiescent
    refine ⟨fun human apiKey hmem => hp.linked _ hmem human.id rfl, ?_⟩
    intro hnone
    -- A request that has answered holds the invite only where it answered 201.
    have hholders : p.calls.countP Call.holds = 0 := by
      refine List.countP_eq_zero.mpr ?_
      intro c hc hholds
      have hcreated := List.countP_eq_zero.mp hnone c hc
      match c, hquiescent c hc, hholds, hcreated with
      | .answered (.created _ _), _, _, hcreated => exact hcreated rfl
      | .answered (.failed _), _, hholds, _ => cases hholds
    have hheld := hp.held
    rw [hholders] at hheld
    cases hredeemed : p.shared.invite.redeemedBy with
    | none => rfl
    | some humanId =>
        rw [hredeemed] at hheld
        cases hheld

/-- The values of a request have the given last character. -/
def exampleEnv (tag : String) (fails : Bool) : Env where
  nowMs := 1700000000000
  fails := fails
  fresh :=
    { humanId := js ("01HF7YAT00W6W7CM7N3W5FDXH" ++ tag)
      apiKeyId := js ("01HF7YAT00W6W7CM7N3W5FDXK" ++ tag)
      keyHash := js ("6b86b273ff34fce19d6b804eff5a3f57" ++ tag)
      keyPrefix := js "clw_pat_AAECAwQF"
      didAuthority := js "registry.example.com"
      createdAt := 1700000000000 }

def exampleDatabase : Database where
  invite :=
    { id := js "01HF7YAT00W6W7CM7N3W5FDXV0", code := js "clw_inv_AAECAwQFBgcICQoLDA0ODxAREhMUFRYX"
      redeemedBy := none, expiresAt := none }
  humans := []
  apiKeys := []

def exampleBody : Value :=
  object [("code", some (.str (js "clw_inv_AAECAwQFBgcICQoLDA0ODxAREhMUFRYX")))]

/-- A request redeems the invite and fails to insert its API key; while it takes this back, a
second request inserts its human, redeems the invite and answers 201. -/
def exampleRun : List Event :=
  [.start exampleBody, .start exampleBody, .resume 0 (exampleEnv "1" false),
    .resume 1 (exampleEnv "2" false), .resume 0 (exampleEnv "1" false),
    .resume 1 (exampleEnv "2" false), .resume 0 (exampleEnv "1" false),
    .resume 0 (exampleEnv "1" true), .resume 0 (exampleEnv "1" false),
    .resume 1 (exampleEnv "2" false), .resume 1 (exampleEnv "2" false),
    .resume 0 (exampleEnv "1" false)]

/-- No date is parsed. -/
def exampleDateParse : DateParse := fun _ => none

theorem exampleRun_result :
    (exec (program exampleDateParse).step ⟨exampleDatabase, []⟩ exampleRun).map
      (fun p => (State.created p, p.shared.invite.redeemedBy, p.shared.humans.length)) =
        some (1, some (js "01HF7YAT00W6W7CM7N3W5FDXH2"), 1) := by decide

theorem exampleRun_redeemed_once : ∃ p : State,
    exec (program exampleDateParse).step ⟨exampleDatabase, []⟩ exampleRun = some p ∧
    p.shared.invite.redeemedBy = some (js "01HF7YAT00W6W7CM7N3W5FDXH2") ∧ p.created ≤ 1 := by
  obtain ⟨p, hrun, hresult⟩ := Option.map_eq_some_iff.mp exampleRun_result
  have hok : AllSteps (program exampleDateParse).step (compensationsSucceed · ·)
      ⟨exampleDatabase, []⟩ exampleRun := by
    decide
  exact ⟨p, hrun, (Prod.mk.inj (Prod.mk.inj hresult).2).1, (redeemed_exactly_once rfl hok hrun).1⟩

end Clawdentity.InviteRedeem
