import Clawdentity.Lib.Exclusive
import Clawdentity.Registry.Credentials

/-!
# The bootstrap of the first admin

The row of the first admin has a fixed id, so that its `INSERT` is a lock: the bootstrap that inserts
it is alone until it answers or has taken everything back. Until then the others find the admin.

## Main definitions

* `Call.holdsAdmin` — the request has inserted the admin and not deleted it.
* `Keeps` — what every statement but those of a rollback leaves in the tables.
* `Call.Stands` — the rows of a bootstrap that are in the tables.
* `bootstrapped_once` — at most one bootstrap is answered 201, nothing takes its rows away again, and
  an admin is not left behind.
-/

namespace Clawdentity.Credentials

open Js Lib Lib.Interleave Lib.Run

variable {sha256Hex : JsString → JsString} {config : Config} {s s' : Shared} {c c' : Call} {env : Env}
  {b : Bootstrap}

/-! ## The admin is held by one request -/

/-- No bootstrap has inserted the admin. -/
def AdminFree (s : Shared) : Prop := s.db.human? BOOTSTRAP_ADMIN_HUMAN_ID = none

def Call.holdsAdmin : Call → Bool
  | .bootstrapping _ .insertApiKey | .bootstrapping _ .insertInternalService => true
  | .rollingBack _ _ => true
  | .answered (.bootstrapped _) => true
  | _ => false

def Call.isBootstrapped : Call → Bool
  | .answered (.bootstrapped _) => true
  | _ => false

theorem holdsAdmin_of_isBootstrapped (h : c.isBootstrapped = true) : c.holdsAdmin = true := by
  cases c with
  | answered response =>
      cases response with
      | bootstrapped b => rfl
      | _ => cases h
  | _ => cases h

/-- What every statement but those of a rollback leaves in the tables. -/
structure Keeps (db db' : Database) : Prop where
  humans : ∀ id human, db.human? id = some human → db'.human? id = some human
  keys : ∀ id facts, db.keyFacts id = some facts →
    ∃ active, db'.keyFacts id = some { facts with active }
  services : ∀ id, (db.serviceFacts id).isSome → (db'.serviceFacts id).isSome

theorem Keeps.rfl {db : Database} : Keeps db db :=
  ⟨fun _ _ h => h, fun _ facts h => ⟨facts.active, h⟩, fun _ h => h⟩

theorem Keeps.trans {db db' db'' : Database} (h : Keeps db db') (h' : Keeps db' db'') :
    Keeps db db'' := by
  refine ⟨fun id human hid => h'.humans id human (h.humans id human hid), ?_,
    fun id hid => h'.services id (h.services id hid)⟩
  intro id facts hid
  obtain ⟨active, hkept⟩ := h.keys id facts hid
  obtain ⟨active', hkept'⟩ := h'.keys id _ hkept
  exact ⟨active', hkept'⟩

/-- A statement on the API keys. -/
theorem Keeps.of_keys (hhumans : s'.db.humans = s.db.humans)
    (hservices : s'.db.internalServices = s.db.internalServices)
    (hkeys : ∀ id facts, s.db.keyFacts id = some facts →
      ∃ active, s'.db.keyFacts id = some { facts with active }) : Keeps s.db s'.db := by
  refine ⟨?_, hkeys, ?_⟩
  · intro id human hid
    rw [Database.human?, hhumans]
    exact hid
  · intro id hid
    rw [Database.serviceFacts, Database.service?, hservices]
    exact hid

/-- A statement on the internal services. -/
theorem Keeps.of_services (hhumans : s'.db.humans = s.db.humans)
    (hkeys : s'.db.apiKeys = s.db.apiKeys)
    (hservices : ∀ id, (s.db.serviceFacts id).isSome → (s'.db.serviceFacts id).isSome) :
    Keeps s.db s'.db := by
  refine ⟨?_, ?_, hservices⟩
  · intro id human hid
    rw [Database.human?, hhumans]
    exact hid
  · intro id facts hid
    refine ⟨facts.active, ?_⟩
    rw [Database.keyFacts, Database.apiKey?, hkeys]
    exact hid

theorem humans_insertApiKey {row : ApiKeyRow} {parent : Option JsString}
    (h : insertApiKey s row parent = some s') : s'.db.humans = s.db.humans := by
  obtain ⟨_, _, rfl⟩ := insertApiKey_eq_some h
  rfl

theorem keeps_insertApiKey {row : ApiKeyRow} {parent : Option JsString}
    (h : insertApiKey s row parent = some s') : Keeps s.db s'.db := by
  have hfacts := keyFacts_insertApiKey h
  obtain ⟨hnone, _, rfl⟩ := insertApiKey_eq_some h
  refine .of_keys rfl rfl ?_
  intro id facts hid
  refine ⟨facts.active, ?_⟩
  rw [hfacts, Function.update_of_ne ?_]
  · exact hid
  · rintro rfl
    rw [Database.keyFacts, hnone] at hid
    cases hid

theorem keeps_touchApiKey (s : Shared) (id : JsString) (nowMs : ℕ) :
    Keeps s.db (touchApiKey s id nowMs).db := by
  refine .of_keys rfl rfl ?_
  intro other facts hother
  rw [keyFacts_touchApiKey]
  exact ⟨facts.active, hother⟩

theorem humans_revokeApiKey (s : Shared) (human : AuthenticatedHuman) (id : JsString) :
    (revokeApiKey s human id).db.humans = s.db.humans := by
  unfold revokeApiKey
  simp only
  split <;> rfl

theorem keeps_revokeApiKey (s : Shared) (human : AuthenticatedHuman) (id : JsString) :
    Keeps s.db (revokeApiKey s human id).db := by
  refine .of_keys (humans_revokeApiKey ..) ?_ ?_
  · unfold revokeApiKey
    simp only
    split <;> rfl
  · intro other facts hother
    rw [keyFacts_revokeApiKey, hother, Option.map_some]
    split
    · exact ⟨false, rfl⟩
    · exact ⟨facts.active, rfl⟩

theorem humans_insertInternalService {row : InternalServiceRow}
    {creator : Option AuthenticatedHuman} (h : insertInternalService s row creator = some s') :
    s'.db.humans = s.db.humans := by
  obtain ⟨_, rfl⟩ := insertInternalService_eq_some h
  rfl

theorem keeps_insertInternalService {row : InternalServiceRow} {creator : Option AuthenticatedHuman}
    (h : insertInternalService s row creator = some s') : Keeps s.db s'.db := by
  have hfacts := serviceFacts_insertInternalService h
  obtain ⟨_, rfl⟩ := insertInternalService_eq_some h
  refine .of_services rfl rfl ?_
  intro id hid
  rw [hfacts]
  by_cases hrow : id = row.id
  · simp [hrow]
  · rwa [Function.update_of_ne hrow]

theorem keeps_touchService (s : Shared) (id : JsString) (nowMs : ℕ) :
    Keeps s.db (touchService s id nowMs).db := by
  refine .of_services rfl rfl ?_
  intro other hother
  rwa [serviceFacts_touchService]

theorem humans_rotateService (s : Shared) (human : AuthenticatedHuman) (r : Rotation) :
    (rotateService s human r).db.humans = s.db.humans := by
  unfold rotateService
  simp only
  split <;> rfl

theorem keeps_rotateService (s : Shared) (human : AuthenticatedHuman) (r : Rotation) :
    Keeps s.db (rotateService s human r).db := by
  refine .of_services (humans_rotateService ..) ?_ ?_
  · unfold rotateService
    simp only
    split <;> rfl
  · intro other hother
    rwa [serviceFacts_rotateService, Option.isSome_map]

theorem insertHuman_inserted {row : HumanRow} (h : insertHuman s row = .inserted s') :
    s.db.human? row.id = none ∧
      s' = { s with db := { s.db with humans := s.db.humans ++ [row] } } := by
  simp only [insertHuman] at h
  split at h
  · cases h
  · rename_i hnone
    split at h
    · cases h
    · cases h
      exact ⟨Option.not_isSome_iff_eq_none.mp hnone, rfl⟩

theorem human?_insertHuman {row : HumanRow} (h : insertHuman s row = .inserted s') (id : JsString) :
    s'.db.human? id = if row.id = id then some row else s.db.human? id := by
  obtain ⟨hnone, rfl⟩ := insertHuman_inserted h
  exact Rows.find_insert hnone

theorem keeps_insertHuman {row : HumanRow} (h : insertHuman s row = .inserted s') :
    Keeps s.db s'.db := by
  have hhuman := human?_insertHuman h
  obtain ⟨hnone, rfl⟩ := insertHuman_inserted h
  refine ⟨?_, fun _ facts hid => ⟨facts.active, hid⟩, fun _ hid => hid⟩
  intro id human hid
  rw [hhuman, if_neg ?_]
  · exact hid
  · rintro rfl
    rw [hnone] at hid
    cases hid

/-! ## The rows of a bootstrap -/

def HasHuman (db : Database) (b : Bootstrap) : Prop :=
  db.human? BOOTSTRAP_ADMIN_HUMAN_ID = some b.human

/-- The key may be revoked by now. -/
def HasKey (db : Database) (b : Bootstrap) : Prop :=
  ∃ active, db.keyFacts b.apiKeyId = some ⟨BOOTSTRAP_ADMIN_HUMAN_ID, b.apiKeyHash, active⟩

def HasService (db : Database) (b : Bootstrap) : Prop :=
  (db.serviceFacts b.internalServiceId).isSome

/-- The rows of a bootstrap that are in the tables. -/
def Call.Stands (db : Database) : Call → Prop
  | .bootstrapping b .insertApiKey => HasHuman db b
  | .bootstrapping b .insertInternalService => HasHuman db b ∧ HasKey db b
  | .answered (.bootstrapped b) => HasHuman db b ∧ HasKey db b ∧ HasService db b
  | _ => True

theorem HasHuman.keep {db db' : Database} (h : HasHuman db b) (hkeeps : Keeps db db') :
    HasHuman db' b := hkeeps.humans _ _ h

theorem HasKey.keep {db db' : Database} (h : HasKey db b) (hkeeps : Keeps db db') :
    HasKey db' b := by
  obtain ⟨active, hkey⟩ := h
  obtain ⟨active', hkey'⟩ := hkeeps.keys _ _ hkey
  exact ⟨active', hkey'⟩

theorem stands_of_not_holds (db : Database) (h : c.holdsAdmin = false) : c.Stands db := by
  cases c with
  | bootstrapping b phase =>
      cases phase with
      | insertHuman => trivial
      | insertApiKey => cases h
      | insertInternalService => cases h
  | answered response =>
      cases response with
      | bootstrapped b => cases h
      | _ => trivial
  | _ => trivial

theorem Call.Stands.keep {db db' : Database} (h : c.Stands db) (hkeeps : Keeps db db') :
    c.Stands db' := by
  cases c with
  | bootstrapping b phase =>
      cases phase with
      | insertHuman => trivial
      | insertApiKey => exact HasHuman.keep h hkeeps
      | insertInternalService => exact ⟨h.1.keep hkeeps, h.2.keep hkeeps⟩
  | answered response =>
      cases response with
      | bootstrapped b => exact ⟨h.1.keep hkeeps, h.2.1.keep hkeeps, hkeeps.services _ h.2.2⟩
      | _ => trivial
  | _ => trivial

/-! ## One statement -/

/-- A statement of a request that is no bootstrap in its mutation. -/
structure Plain (s s' : Shared) (c c' : Call) : Prop where
  humans_eq : s'.db.humans = s.db.humans
  keeps : Keeps s.db s'.db
  did_not_hold : c.holdsAdmin = false
  not_holds : c'.holdsAdmin = false

theorem holdsAdmin_invalidPayload {environment : Wire.IssuerAgreement.Environment}
    {code message : String} {fieldErrors : List (String × String)} :
    (invalidPayload environment code message fieldErrors).holdsAdmin = false := by
  unfold invalidPayload
  split <;> rfl

theorem holdsAdmin_requireAdmin {human : AuthenticatedHuman} {code : String}
    (h : c.holdsAdmin = false) : (requireAdmin human code c).holdsAdmin = false := by
  unfold requireAdmin
  split
  · exact h
  · rfl

theorem holdsAdmin_dispatch (human : AuthenticatedHuman) (route : Route) :
    (dispatch sha256Hex config env human route).holdsAdmin = false := by
  cases route with
  | me => rfl
  | createApiKey body =>
      simp only [dispatch, createApiKey]
      split
      · exact holdsAdmin_invalidPayload
      · split
        · exact holdsAdmin_invalidPayload
        · rfl
  | revokeApiKey id =>
      simp only [dispatch, parseApiKeyRevokePath]
      split
      · rename_i call hcall
        split at hcall
        · cases hcall
          exact holdsAdmin_invalidPayload
        · split at hcall
          · cases hcall
            exact holdsAdmin_invalidPayload
          · cases hcall
      · rfl
  | createService body =>
      refine holdsAdmin_requireAdmin ?_
      split
      · rfl
      · split <;> rfl
  | rotateService id body =>
      refine holdsAdmin_requireAdmin ?_
      split
      · exact holdsAdmin_invalidPayload
      · split
        · rfl
        · split <;> rfl

theorem holdsAdmin_planBootstrap (displayName apiKeyName : JsString) :
    (planBootstrap sha256Hex config env displayName apiKeyName).holdsAdmin = false := by
  unfold planBootstrap
  simp only
  split
  · rfl
  · split <;> rfl

theorem holdsAdmin_planRotation (human : AuthenticatedHuman) (service : InternalServiceRow)
    (scopes : Option (List JsString)) :
    (planRotation sha256Hex env human service scopes).holdsAdmin = false := by
  unfold planRotation
  split
  · rfl
  · simp only
    split <;> rfl

theorem holdsAdmin_startCall (input : Input) : (startCall config input).holdsAdmin = false := by
  cases input with
  | bootstrap secretHeader body =>
      simp only [startCall, startBootstrap]
      split
      · rfl
      · split
        · rfl
        · split
          · rfl
          · rfl
          · split
            · exact holdsAdmin_invalidPayload
            · rfl
  | human authorization route =>
      simp only [startCall]
      split <;> rfl
  | service idHeader secretHeader requiredScopes =>
      simp only [startCall, startServiceAuth]
      split
      · rfl
      · rename_i call hcall
        simp only [bind_eq_ok] at hcall
        obtain ⟨_, _, _, _, _, _, hcall⟩ := hcall
        cases hcall
        rfl

theorem Plain.same (hbefore : c.holdsAdmin = false) (h : c'.holdsAdmin = false) :
    Plain s s c c' := ⟨rfl, .rfl, hbefore, h⟩

/-- A request that is no bootstrap in its mutation. -/
def Call.isPlain : Call → Bool
  | .beginning _ | .bootstrapping _ _ | .rollingBack _ _ | .answered _ => false
  | _ => true

theorem runStatement_plain (hplain : c.isPlain = true)
    (h : runStatement sha256Hex config s env c = (s', c')) : Plain s s' c c' := by
  cases c with
  | findingApiKey token route =>
      simp only [runStatement] at h
      split at h <;> cases h
      · exact .same rfl rfl
      · exact ⟨rfl, .rfl, rfl, rfl⟩
  | touchingApiKey human route =>
      cases h
      exact ⟨rfl, keeps_touchApiKey .., rfl, holdsAdmin_dispatch ..⟩
  | insertingApiKey human row token =>
      simp only [runStatement] at h
      split at h <;> cases h
      · exact .same rfl rfl
      · rename_i hinsert
        exact ⟨humans_insertApiKey hinsert, keeps_insertApiKey hinsert, rfl, rfl⟩
  | findingOwnKey human id =>
      simp only [runStatement] at h
      split at h
      · cases h
        exact .same rfl rfl
      · split at h <;> cases h
        · exact .same rfl rfl
        · exact ⟨rfl, .rfl, rfl, rfl⟩
  | revokingKey human id =>
      cases h
      exact ⟨humans_revokeApiKey .., keeps_revokeApiKey .., rfl, rfl⟩
  | findingName human payload =>
      simp only [runStatement] at h
      split at h <;> cases h <;> exact .same rfl rfl
  | insertingService human row secret =>
      simp only [runStatement] at h
      split at h <;> cases h
      · exact .same rfl rfl
      · rename_i hinsert
        exact ⟨humans_insertInternalService hinsert, keeps_insertInternalService hinsert, rfl, rfl⟩
  | loadingService human id scopes =>
      simp only [runStatement] at h
      split at h <;> cases h
      · exact .same rfl rfl
      · exact .same rfl (holdsAdmin_planRotation ..)
  | rotatingService human rotation secret =>
      cases h
      exact ⟨humans_rotateService .., keeps_rotateService .., rfl, rfl⟩
  | checkingService id secret requiredScopes =>
      simp only [runStatement] at h
      split at h <;> cases h
      · exact .same rfl rfl
      · exact ⟨rfl, .rfl, rfl, rfl⟩
  | touchingService service =>
      cases h
      exact ⟨rfl, keeps_touchService .., rfl, rfl⟩
  | findingAdmin displayName apiKeyName =>
      simp only [runStatement] at h
      split at h <;> cases h
      · exact .same rfl rfl
      · exact .same rfl (holdsAdmin_planBootstrap ..)
  | beginning b => cases hplain
  | bootstrapping b phase => cases hplain
  | rollingBack b phase => cases hplain
  | answered response => cases hplain

/-- What a statement of a bootstrap in its mutation does. -/
inductive Mutation (s s' : Shared) (c c' : Call) : Prop
  | idle (same : s' = s) (holds_eq : c'.holdsAdmin = c.holdsAdmin)
      (stands : c'.holdsAdmin = true → c'.Stands s.db)
  | take (was_free : AdminFree s) (keeps : Keeps s.db s'.db) (now_taken : ¬AdminFree s')
      (held : c'.holdsAdmin = true) (stands : c'.Stands s'.db)
  | fill (keeps : Keeps s.db s'.db) (was_held : c.holdsAdmin = true) (held : c'.holdsAdmin = true)
      (stands : c'.Stands s'.db)
  | undo (not_freed : AdminFree s' → AdminFree s) (was_held : c.holdsAdmin = true)
      (held : c'.holdsAdmin = true) (stands : c'.Stands s'.db)
  | release (last : ∃ b, c = .rollingBack b .deleteHuman) (was_held : c.holdsAdmin = true)
      (not_held : c'.holdsAdmin = false)

theorem hasHuman_insertHuman (h : insertHuman s b.human = .inserted s') : HasHuman s'.db b := by
  rw [HasHuman, human?_insertHuman h]
  exact if_pos rfl

theorem not_adminFree_of_hasHuman (h : HasHuman s.db b) : ¬AdminFree s := by
  intro hfree
  rw [AdminFree, h] at hfree
  cases hfree

theorem hasKey_insertApiKey (h : insertApiKey s b.apiKey none = some s') : HasKey s'.db b := by
  refine ⟨true, ?_⟩
  rw [keyFacts_insertApiKey h]
  exact Function.update_self ..

theorem hasService_insertInternalService
    (h : insertInternalService s b.service none = some s') : HasService s'.db b := by
  rw [HasService, serviceFacts_insertInternalService h]
  simp [Bootstrap.service]

theorem runBootstrap_mutation (fails : Bool) (phase : BootstrapPhase)
    (hstands : (Call.bootstrapping b phase).Stands s.db)
    (h : runBootstrap s b fails phase = (s', c')) :
    Mutation s s' (.bootstrapping b phase) c' := by
  cases phase with
  | insertHuman =>
      simp only [runBootstrap] at h
      split at h
      · cases h
        exact .idle rfl rfl fun hheld => by cases hheld
      · split at h <;> cases h
        · rename_i hinsert
          have hhuman := hasHuman_insertHuman hinsert
          exact .take (insertHuman_inserted hinsert).1 (keeps_insertHuman hinsert)
            (not_adminFree_of_hasHuman hhuman) rfl hhuman
        · exact .idle rfl rfl fun hheld => by cases hheld
        · exact .idle rfl rfl fun hheld => by cases hheld
  | insertApiKey =>
      simp only [runBootstrap] at h
      split at h <;> cases h
      · exact .idle rfl rfl fun _ => trivial
      · rename_i hinsert
        have hinsert := (Option.filter_eq_some_iff.mp hinsert).1
        have hkeeps := keeps_insertApiKey hinsert
        exact .fill hkeeps rfl rfl ⟨HasHuman.keep hstands hkeeps, hasKey_insertApiKey hinsert⟩
  | insertInternalService =>
      simp only [runBootstrap] at h
      split at h <;> cases h
      · exact .idle rfl rfl fun _ => trivial
      · rename_i hinsert
        have hinsert := (Option.filter_eq_some_iff.mp hinsert).1
        have hkeeps := keeps_insertInternalService hinsert
        exact .fill hkeeps rfl rfl ⟨hstands.1.keep hkeeps, hstands.2.keep hkeeps,
          hasService_insertInternalService hinsert⟩

theorem runBootstrapTransaction_mutation (h : runBootstrapTransaction s b = (s', c')) :
    Mutation s s' (.beginning b) c' := by
  simp only [runBootstrapTransaction] at h
  split at h
  · cases h
    exact .idle rfl rfl fun hheld => by cases hheld
  · cases h
    exact .idle rfl rfl fun hheld => by cases hheld
  · rename_i inserted hhuman
    split at h <;> cases h
    · exact .idle rfl rfl fun hheld => by cases hheld
    · rename_i happlied
      obtain ⟨withKey, hkey, hservice⟩ := Option.bind_eq_some_iff.mp happlied
      have hkeeps := keeps_insertHuman hhuman
      have hkeepsKey := keeps_insertApiKey hkey
      have hkeepsService := keeps_insertInternalService hservice
      have hlast := ((hasHuman_insertHuman hhuman).keep hkeepsKey).keep hkeepsService
      exact .take (insertHuman_inserted hhuman).1 (hkeeps.trans (hkeepsKey.trans hkeepsService))
        (not_adminFree_of_hasHuman hlast) rfl
        ⟨hlast, (hasKey_insertApiKey hkey).keep hkeepsService,
          hasService_insertInternalService hservice⟩

theorem runRollback_mutation (fails : Bool) (phase : RollbackPhase)
    (h : runRollback s b fails phase = (s', c')) : Mutation s s' (.rollingBack b phase) c' := by
  cases phase with
  | deleteInternalService =>
      cases h
      refine .undo ?_ rfl rfl trivial
      intro hfree
      cases fails <;> exact hfree
  | deleteApiKey =>
      cases h
      refine .undo ?_ rfl rfl trivial
      intro hfree
      cases fails <;> exact hfree
  | deleteHuman =>
      cases h
      exact .release ⟨b, rfl⟩ rfl rfl

/-- **One piece of code.** -/
theorem resume_cases (hstands : c.Stands s.db)
    (h : (program sha256Hex config).resume s c env = some (s', c')) :
    Plain s s' c c' ∨ Mutation s s' c c' := by
  simp only [program, Option.ite_none_left_eq_some] at h
  obtain ⟨hanswered, h⟩ := h
  by_cases hplain : c.isPlain = true
  · left
    by_cases hfails : env.fails = true
    · rw [if_pos hfails, Option.some.injEq] at h
      cases c with
      | beginning b => cases hplain
      | bootstrapping b phase => cases hplain
      | rollingBack b phase => cases hplain
      | answered response => cases hplain
      | _ =>
          cases h
          exact .same rfl rfl
    · rw [if_neg hfails, Option.some.injEq] at h
      exact runStatement_plain hplain h
  · right
    cases c with
    | beginning b =>
        by_cases hfails : env.fails = true
        · rw [if_pos hfails, Option.some.injEq] at h
          cases h
          exact .idle rfl rfl fun hheld => by cases hheld
        · rw [if_neg hfails, Option.some.injEq] at h
          simp only [runStatement] at h
          split at h
          · cases h
            exact .idle rfl rfl fun hheld => by cases hheld
          · exact runBootstrapTransaction_mutation h
    | bootstrapping b phase =>
        by_cases hfails : env.fails = true
        · rw [if_pos hfails, Option.some.injEq] at h
          exact runBootstrap_mutation true phase hstands h
        · rw [if_neg hfails, Option.some.injEq] at h
          exact runBootstrap_mutation false phase hstands h
    | rollingBack b phase =>
        by_cases hfails : env.fails = true
        · rw [if_pos hfails, Option.some.injEq] at h
          exact runRollback_mutation true phase h
        · rw [if_neg hfails, Option.some.injEq] at h
          exact runRollback_mutation false phase h
    | answered response => exact absurd rfl hanswered
    | _ => exact absurd rfl hplain

/-! ## Runs -/

section
variable {p q : State} {i : ℕ}

structure BootstrapOk (p : State) : Prop where
  alone : Exclusive AdminFree Call.holdsAdmin p
  stands : ∀ c ∈ p.calls, c.Stands p.shared.db

theorem adminFree_of_keeps (h : Keeps s.db s'.db) (hfree : AdminFree s') : AdminFree s := by
  rw [AdminFree]
  cases hhuman : s.db.human? BOOTSTRAP_ADMIN_HUMAN_ID with
  | none => rfl
  | some human =>
      rw [AdminFree, h.humans _ _ hhuman] at hfree
      cases hfree

theorem BootstrapOk.holder_move (hplain : Plain s s' c c' ∨ Mutation s s' c c') :
    HolderMove (AdminFree s) (AdminFree s') c.holdsAdmin c'.holdsAdmin := by
  rcases hplain with ⟨_, keeps, _, not_holds⟩ | hmutation
  · refine .keep (adminFree_of_keeps keeps) ?_
    intro hheld
    rw [not_holds] at hheld
    cases hheld
  · cases hmutation with
    | idle same holds_eq stands =>
        subst same
        exact .keep id fun hheld => holds_eq ▸ hheld
    | take was_free keeps now_taken held stands => exact .take was_free now_taken
    | fill keeps was_held held stands => exact .keep (adminFree_of_keeps keeps) fun _ => was_held
    | undo not_freed was_held held stands => exact .keep not_freed fun _ => was_held
    | release last was_held not_held => exact .release was_held not_held

theorem BootstrapOk.resume (hp : BootstrapOk p) (hc : p.calls[i]? = some c)
    (h : Plain p.shared s' c c' ∨ Mutation p.shared s' c c') :
    BootstrapOk ⟨s', p.calls.set i c'⟩ := by
  refine ⟨hp.alone.resume hc (BootstrapOk.holder_move h), ?_⟩
  -- What the other calls have inserted stays, unless they have inserted nothing.
  have hothers : (∀ d ∈ p.calls, d.Stands s'.db) ∨
      c.holdsAdmin = true ∧ (c'.holdsAdmin = true → c'.Stands s'.db) := by
    rcases h with ⟨_, keeps, _, _⟩ | hmutation
    · exact .inl fun d hd => (hp.stands d hd).keep keeps
    · cases hmutation with
      | idle same holds_eq stands =>
          subst same
          exact .inl hp.stands
      | take was_free keeps now_taken held stands =>
          exact .inl fun d hd => (hp.stands d hd).keep keeps
      | fill keeps was_held held stands => exact .inl fun d hd => (hp.stands d hd).keep keeps
      | undo not_freed was_held held stands => exact .inr ⟨was_held, fun _ => stands⟩
      | release last was_held not_held =>
          exact .inr ⟨was_held, fun hheld => by rw [not_held] at hheld; cases hheld⟩
  have hself : c'.Stands s'.db := by
    cases hholds : c'.holdsAdmin with
    | false => exact stands_of_not_holds _ hholds
    | true =>
        rcases h with ⟨_, _, _, not_holds⟩ | hmutation
        · rw [hholds] at not_holds
          cases not_holds
        · cases hmutation with
          | idle same holds_eq stands =>
              subst same
              exact stands hholds
          | take was_free keeps now_taken held stands => exact stands
          | fill keeps was_held held stands => exact stands
          | undo not_freed was_held held stands => exact stands
          | release last was_held not_held =>
              rw [hholds] at not_held
              cases not_held
  intro d hd
  obtain ⟨j, hj⟩ := List.mem_iff_getElem?.mp hd
  by_cases hij : i = j
  · subst hij
    rw [List.getElem?_set_self (List.getElem?_eq_some_iff.mp hc).1] at hj
    obtain rfl := Option.some.inj hj
    exact hself
  · rw [List.getElem?_set_ne hij] at hj
    rcases hothers with hall | ⟨hheld, _⟩
    · exact hall d (List.mem_of_getElem? hj)
    · exact stands_of_not_holds _ (hp.alone.alone hc hheld hj hij)

theorem bootstrapOk_step {e : Move Input Env} (hp : BootstrapOk p)
    (h : (program sha256Hex config).step p e = some q) : BootstrapOk q := by
  rcases Program.step_cases h with
    ⟨input, s, c, rfl, hstart, rfl⟩ | ⟨i, env, c, s, c', rfl, hc, hresume, rfl⟩
  · cases hstart
    have hnone : (startCall config input).holdsAdmin = false := holdsAdmin_startCall input
    refine ⟨hp.alone.start id hnone, ?_⟩
    intro d hd
    rcases List.mem_append.mp hd with hold | hnew
    · exact hp.stands d hold
    · obtain rfl := List.mem_singleton.mp hnew
      exact stands_of_not_holds _ hnone
  · exact hp.resume hc (resume_cases (hp.stands c (List.mem_of_getElem? hc)) hresume)

theorem bootstrapOk_initial (db : Database) : BootstrapOk (initial db) :=
  ⟨exclusive_nil _, fun _ h => by cases h⟩

/-! ### No admin is left behind -/

/-- The statements of a rollback do not fail, and no row of others keeps the admin. -/
def RollbackTakesEffect (p : State) : Move Input Env → Prop
  | .start _ => True
  | .resume i env => ∀ b, p.calls[i]? = some (.rollingBack b .deleteHuman) → env.fails = false ∧
      AdminFree (deleteHuman p.shared BOOTSTRAP_ADMIN_HUMAN_ID)

/-- The admin is held by a request. -/
def AdminHeld (p : State) : Prop := ¬AdminFree p.shared → ∃ c ∈ p.calls, c.holdsAdmin = true

theorem adminHeld_step {e : Move Input Env} (hp : BootstrapOk p) (hheld : AdminHeld p)
    (hok : RollbackTakesEffect p e) (h : (program sha256Hex config).step p e = some q) :
    AdminHeld q := by
  rcases Program.step_cases h with
    ⟨input, s, c, rfl, hstart, rfl⟩ | ⟨i, env, c, s, c', rfl, hc, hresume, rfl⟩
  · cases hstart
    intro htaken
    obtain ⟨d, hd, hholds⟩ := hheld htaken
    exact ⟨d, List.mem_append_left _ hd, hholds⟩
  · have hcases := resume_cases (hp.stands c (List.mem_of_getElem? hc)) hresume
    refine exists_holder_resume hheld hc ?_
    intro htaken
    rcases hcases with ⟨humans_eq, _, did_not_hold, _⟩ | hmutation
    · refine .inr ⟨?_, did_not_hold⟩
      intro hfree
      refine htaken ?_
      rw [AdminFree, Database.human?, humans_eq]
      exact hfree
    · cases hmutation with
      | idle same holds_eq stands =>
          subst same
          cases hholds : c.holdsAdmin with
          | false => exact .inr ⟨htaken, rfl⟩
          | true => exact .inl (holds_eq.trans hholds)
      | take was_free keeps now_taken held stands => exact .inl held
      | fill keeps was_held held stands => exact .inl held
      | undo not_freed was_held held stands => exact .inl held
      | release last was_held not_held =>
          obtain ⟨b, rfl⟩ := last
          obtain ⟨hfails, hfree⟩ := hok b hc
          simp only [program, Call.isAnswered, hfails, Bool.false_eq_true, if_false,
            Option.some.injEq] at hresume
          cases hresume
          exact absurd hfree htaken

/-- No request is in progress. -/
def Quiescent (p : State) : Prop := ∀ c ∈ p.calls, c.isAnswered = true

/-- **The bootstrap of a registry.** In every interleaving at most one bootstrap is answered 201, and
from then on its human, its key and its service are there, whatever other bootstraps do. If rollbacks
take effect, then an admin is not left behind by a bootstrap that fails. -/
theorem bootstrapped_once {db : Database} {es : List (Move Input Env)}
    (hfree : db.human? BOOTSTRAP_ADMIN_HUMAN_ID = none)
    (hrun : exec (program sha256Hex config).step (initial db) es = some p) :
    p.calls.countP Call.isBootstrapped ≤ 1 ∧
    (∀ b, .answered (.bootstrapped b) ∈ p.calls →
      HasHuman p.shared.db b ∧ HasKey p.shared.db b ∧ HasService p.shared.db b) ∧
    (AllSteps (program sha256Hex config).step RollbackTakesEffect (initial db) es → Quiescent p →
      ¬AdminFree p.shared → ∃ b, .answered (.bootstrapped b) ∈ p.calls) := by
  have hp : BootstrapOk p :=
    exec_invariant_of_step BootstrapOk (fun _ _ _ hp h => bootstrapOk_step hp h)
      (bootstrapOk_initial db) hrun
  refine ⟨?_, ?_, ?_⟩
  · refine Nat.le_trans (List.countP_mono_left ?_) hp.alone.one_holder
    intro c _ hc
    exact holdsAdmin_of_isBootstrapped hc
  · intro b hb
    exact hp.stands _ hb
  · intro hok hquiescent htaken
    have hinv : BootstrapOk p ∧ AdminHeld p :=
      exec_invariant (fun p => BootstrapOk p ∧ AdminHeld p)
        (fun _ _ _ hp hok h => ⟨bootstrapOk_step hp.1 h, adminHeld_step hp.1 hp.2 hok h⟩)
        ⟨bootstrapOk_initial db, fun htaken => absurd hfree htaken⟩ hok hrun
    obtain ⟨c, hc, hholds⟩ := hinv.2 htaken
    have hanswered := hquiescent c hc
    cases c with
    | answered response =>
        cases response with
        | bootstrapped b => exact ⟨b, hc⟩
        | _ => cases hholds
    | _ => cases hanswered

/-- Two bootstraps find no admin. The second one finds the row of the first one, which then fails
and takes everything back, so that a third one succeeds. -/
def bootstrapRun : List (Move Input Env) :=
  [.start exampleBootstrap, .start exampleBootstrap] ++
    [0, 1, 0, 1, 0, 1, 0].map (fun i => .resume i (exampleEnv 0 "0")) ++
    [.resume 0 exampleFailure] ++ List.replicate 3 (.resume 0 (exampleEnv 0 "0")) ++
    [.start exampleBootstrap] ++ List.replicate 5 (.resume 2 (exampleEnv 1 "1"))

theorem bootstrapRun_result :
    (exec (program exampleSha256Hex exampleConfig).step (initial exampleDatabase) bootstrapRun).map
      (fun p => (p.calls.map Call.isBootstrapped, p.shared.db.apiKeys.length)) =
        some ([false, false, true], 1) := by
  decide

theorem bootstrapRun_once : ∃ p,
    exec (program exampleSha256Hex exampleConfig).step (initial exampleDatabase) bootstrapRun = some p ∧
    p.calls.countP Call.isBootstrapped ≤ 1 ∧ p.shared.db.apiKeys.length = 1 := by
  obtain ⟨p, hrun, hresult⟩ := Option.map_eq_some_iff.mp bootstrapRun_result
  exact ⟨p, hrun, (bootstrapped_once rfl hrun).1, (Prod.mk.inj hresult).2⟩

end

end Clawdentity.Credentials
