import Clawdentity.Registry.Credentials

/-!
# What happens to the API keys

The table of the API keys is a ring of keys: the statements of the routes are its events, and what a
request does after its authentication it does for the human whose key it has used.

## Main definitions

* `Database.ring` — the table as a ring.
* `Call.KeyOk` — what a request in progress rests on.
* `keys_run` — a key that was revoked is not used again, every key that is used descends from a first
  key of its human, and a `DELETE` that is answered 204 has revoked its key.
-/

namespace Clawdentity.Credentials

open Js Lib Lib.Interleave Lib.Run
open Lib.Keyring (Ring Descends)
open ApiKeyToken (ApiKeyQueryRow resolvePatLookupRow)

variable {sha256Hex : JsString → JsString} {config : Config} {s s' : Shared} {c c' : Call} {env : Env}

/-! ## The table as a ring -/

/-- The owner of a key, and whether it is active. -/
def Database.keyEntries (db : Database) (id : JsString) : Option (JsString × Bool) :=
  (db.keyFacts id).map fun facts => (facts.humanId, facts.active)

def Database.ring (db : Database) : Ring JsString JsString := ⟨db.keyEntries, []⟩

/-- `api_keys.id` is a primary key. -/
def Database.KeyIdsNodup (db : Database) : Prop := (db.apiKeys.map ApiKeyRow.id).Nodup

theorem keyEntries_of_apiKeys (h : s'.db.apiKeys = s.db.apiKeys) :
    s'.db.keyEntries = s.db.keyEntries := by
  funext id
  rw [Database.keyEntries, Database.keyFacts, Database.apiKey?, h]
  rfl

theorem keyEntries_insertApiKey {row : ApiKeyRow} {parent : Option JsString}
    (h : insertApiKey s row parent = some s') :
    s'.db.keyEntries = Function.update s.db.keyEntries row.id (some (row.humanId, row.active)) := by
  funext id
  rw [Database.keyEntries, keyFacts_insertApiKey h, Function.update_apply, Function.update_apply]
  split <;> rfl

theorem keyEntries_deleteApiKey (s : Shared) (id : JsString) :
    (deleteApiKey s id).db.keyEntries = Function.update s.db.keyEntries id none := by
  funext other
  rw [Database.keyEntries, keyFacts_deleteApiKey, Function.update_apply, Function.update_apply]
  split <;> rfl

theorem keyEntries_touchApiKey (s : Shared) (id : JsString) (nowMs : ℕ) :
    (touchApiKey s id nowMs).db.keyEntries = s.db.keyEntries := by
  funext other
  rw [Database.keyEntries, keyFacts_touchApiKey]
  rfl

theorem keyEntries_revokeApiKey (s : Shared) (human : AuthenticatedHuman) (id : JsString) :
    (revokeApiKey s human id).db.keyEntries = fun other => (s.db.keyEntries other).map fun entry =>
      if other = id ∧ entry.1 = human.id then (entry.1, false) else entry := by
  funext other
  rw [Database.keyEntries, keyFacts_revokeApiKey, Database.keyEntries, Option.map_map,
    Option.map_map]
  congr 1
  funext facts
  simp only [Function.comp_def]
  split <;> rfl

/-! ### The row of a token -/

/-- A token opens a key that is active. -/
theorem resolvePatLookupRow_mem {rows : List ApiKeyQueryRow} {token : JsString}
    {row : ApiKeyQueryRow} (h : resolvePatLookupRow sha256Hex rows token = .ok row) :
    row ∈ rows ∧ row.apiKeyActive = true := by
  simp only [resolvePatLookupRow] at h
  split at h
  · cases h
  · rename_i matchedRow hfind
    have hmem := (List.mem_filter.mp (List.mem_of_find?_eq_some hfind)).1
    by_cases hkey : matchedRow.apiKeyActive = true
    · by_cases hhuman : matchedRow.humanActive = true
      · simp only [hkey, hhuman, Bool.not_true, Bool.false_eq_true, if_false] at h
        obtain rfl := Except.ok.inj h
        exact ⟨hmem, hkey⟩
      · simp [hkey, hhuman] at h
    · simp [hkey] at h

/-- A row of the join is the key of its human. -/
theorem keyEntries_of_mem_apiKeyRows {db : Database} (hnodup : db.KeyIdsNodup)
    {row : ApiKeyQueryRow} (hrow : row ∈ db.apiKeyRows) :
    db.keyEntries row.apiKeyId = some (row.humanId, row.apiKeyActive) := by
  obtain ⟨key, hkey, hjoined⟩ := List.mem_filterMap.mp hrow
  obtain ⟨human, hhuman, rfl⟩ := Option.map_eq_some_iff.mp hjoined
  have hid : human.id = key.humanId := (Rows.key_of_find hhuman).2
  have hfind := Rows.find_of_mem hnodup hkey
  simp only [Database.keyEntries, Database.keyFacts, Database.apiKey?, hfind, Option.map_some,
    ApiKeyRow.facts, hid]

/-! ## What a request rests on -/

/-- The request has used the key of this human. -/
def Used (s : Shared) (human : AuthenticatedHuman) : Prop :=
  .use human.apiKeyId human.id ∈ s.keyEvents

/-- The key was revoked, or a rollback has removed it. -/
def Ended (s : Shared) (id : JsString) : Prop :=
  (∃ agent, .revoke id agent ∈ s.keyEvents) ∨ .remove id ∈ s.keyEvents

/-- The key belongs to the human, or a rollback has removed it. -/
def Owns (s : Shared) (human : AuthenticatedHuman) (id : JsString) : Prop :=
  (∃ live, s.db.keyEntries id = some (human.id, live)) ∨ .remove id ∈ s.keyEvents

def Call.KeyOk (s : Shared) : Call → Prop
  | .touchingApiKey human _ | .findingOwnKey human _ | .findingName human _
  | .insertingService human _ _ | .loadingService human _ _ | .rotatingService human _ _ =>
      Used s human
  | .insertingApiKey human row _ => Used s human ∧ row.humanId = human.id ∧ row.active = true
  | .revokingKey human id => Used s human ∧ Owns s human id
  | .answered (.keyRevoked id) => Ended s id
  | _ => True

/-- What a statement does to the keys: nothing, or one event that the ring allows. -/
inductive KeyStep (s s' : Shared) : Prop
  | same (nodup : s.db.KeyIdsNodup → s'.db.KeyIdsNodup)
      (entries : s'.db.keyEntries = s.db.keyEntries) (events : s'.keyEvents = s.keyEvents)
  | event (e : Keyring.Event JsString JsString) (nodup : s.db.KeyIdsNodup → s'.db.KeyIdsNodup)
      (events : s'.keyEvents = s.keyEvents ++ [e])
      (allowed : ∀ ring : Ring JsString JsString, ring.entry = s.db.keyEntries →
        (∀ key owner, .use key owner ∈ s.keyEvents → (key, owner) ∈ ring.sessions) →
        ∃ ring', ring.step e = some ring' ∧ ring'.entry = s'.db.keyEntries)

theorem KeyStep.idle : KeyStep s s := .same (fun h => h) rfl rfl

/-- A statement on other tables. -/
theorem KeyStep.of_apiKeys (hkeys : s'.db.apiKeys = s.db.apiKeys)
    (hevents : s'.keyEvents = s.keyEvents) : KeyStep s s' := by
  refine .same ?_ (keyEntries_of_apiKeys hkeys) hevents
  intro hnodup
  rwa [Database.KeyIdsNodup, hkeys]

/-! ### The statements -/

theorem keyStep_insertApiKey {row : ApiKeyRow} {parent : Option JsString}
    (hparent : ∀ p ∈ parent, .use p row.humanId ∈ s.keyEvents) (hactive : row.active = true)
    (h : insertApiKey s row parent = some s') : KeyStep s s' := by
  have hentries := keyEntries_insertApiKey h
  obtain ⟨hnone, _, rfl⟩ := insertApiKey_eq_some h
  refine .event _ (fun hnodup => Rows.nodup_insert hnodup hnone) rfl ?_
  intro ring hring hsessions
  refine ⟨_, Keyring.step_mint.mpr ⟨⟨?_, fun p hp => hsessions _ _ (hparent p hp)⟩, rfl⟩, ?_⟩
  · rw [hring, Database.keyEntries, Database.keyFacts, hnone]
    exact rfl
  · rw [hentries, hactive, ← hring]
    exact rfl

theorem keyStep_deleteApiKey (s : Shared) (id : JsString) : KeyStep s (deleteApiKey s id) := by
  refine .event (.remove id) (fun hnodup => Rows.nodup_filter hnodup _) rfl ?_
  intro ring hring _
  refine ⟨_, rfl, ?_⟩
  rw [keyEntries_deleteApiKey, ← hring]
  exact rfl

theorem keyStep_touchApiKey (s : Shared) (id : JsString) (nowMs : ℕ) :
    KeyStep s (touchApiKey s id nowMs) := by
  refine .same ?_ (keyEntries_touchApiKey ..) rfl
  refine Rows.nodup_update ?_
  intro key
  split <;> rfl

theorem keyEvents_revokeApiKey (s : Shared) (human : AuthenticatedHuman) (id : JsString) :
    (revokeApiKey s human id).keyEvents = s.keyEvents ++
      if (s.db.apiKey? id).any (fun key => key.humanId = human.id) then
        [.revoke id human.apiKeyId] else [] := by
  unfold revokeApiKey
  simp only
  split
  · rfl
  · simp

theorem nodup_revokeApiKey {human : AuthenticatedHuman} {id : JsString} (h : s.db.KeyIdsNodup) :
    (revokeApiKey s human id).db.KeyIdsNodup := by
  have hkey : ∀ key : ApiKeyRow, (if key.id = id ∧ key.humanId = human.id then
      { key with active := false } else key).id = key.id := by
    intro key
    split <;> rfl
  have hnodup := Rows.nodup_update hkey h
  unfold revokeApiKey
  simp only
  split <;> exact hnodup

/-- The entry of a key, and whose it is. -/
theorem apiKey?_any {human : AuthenticatedHuman} {id : JsString} :
    (s.db.apiKey? id).any (fun key => key.humanId = human.id) = true ↔
      ∃ live, s.db.keyEntries id = some (human.id, live) := by
  simp only [Database.keyEntries, Database.keyFacts, Option.map_map]
  cases s.db.apiKey? id with
  | none => simp
  | some key => simp [ApiKeyRow.facts]

/-- A key that is revoked. -/
theorem allowed_revoke {human : AuthenticatedHuman} {id : JsString} {live : Bool}
    (hused : Used s human) (hentry : s.db.keyEntries id = some (human.id, live))
    {ring : Ring JsString JsString} (hring : ring.entry = s.db.keyEntries)
    (hsessions : ∀ key owner, .use key owner ∈ s.keyEvents → (key, owner) ∈ ring.sessions) :
    ring.step (.revoke id human.apiKeyId) = some (ring.set id (some (human.id, false))) :=
  Keyring.step_revoke.mpr ⟨human.id, live, (congrFun hring id).trans hentry,
    hsessions _ _ hused, rfl⟩

theorem keyStep_revokeApiKey {human : AuthenticatedHuman} {id : JsString} (hused : Used s human) :
    KeyStep s (revokeApiKey s human id) := by
  have hevents := keyEvents_revokeApiKey s human id
  by_cases howner : (s.db.apiKey? id).any (fun key => key.humanId = human.id) = true
  · rw [if_pos howner] at hevents
    obtain ⟨live, hentry⟩ := apiKey?_any.mp howner
    refine .event _ nodup_revokeApiKey hevents ?_
    intro ring hring hsessions
    refine ⟨_, allowed_revoke hused hentry hring hsessions, ?_⟩
    rw [keyEntries_revokeApiKey]
    funext other
    by_cases hother : other = id
    · subst hother
      rw [Keyring.set_entry_self, hentry]
      simp
    · rw [Keyring.set_entry_of_ne ring _ hother, hring]
      simp [hother]
  · rw [if_neg howner, List.append_nil] at hevents
    refine .same nodup_revokeApiKey ?_ hevents
    rw [keyEntries_revokeApiKey]
    funext other
    cases hentry : s.db.keyEntries other with
    | none => rfl
    | some entry =>
        rw [Option.map_some, if_neg]
        rintro ⟨rfl, hhuman⟩
        refine howner (apiKey?_any.mpr ⟨entry.2, ?_⟩)
        rw [hentry, ← hhuman]

/-- A key that is revoked already. -/
theorem keyStep_revoked {human : AuthenticatedHuman} {id : JsString} (hused : Used s human)
    (hentry : s.db.keyEntries id = some (human.id, false)) :
    KeyStep s (s.logKey (.revoke id human.apiKeyId)) := by
  refine .event _ (fun h => h) rfl ?_
  intro ring hring hsessions
  refine ⟨_, allowed_revoke hused hentry hring hsessions, ?_⟩
  funext other
  change _ = s.db.keyEntries other
  by_cases hother : other = id
  · subst hother
    rw [Keyring.set_entry_self, hentry]
  · rw [Keyring.set_entry_of_ne ring _ hother, hring]

theorem keyStep_use {token : JsString} {row : ApiKeyQueryRow}
    (hnodup : s.db.KeyIdsNodup)
    (h : resolvePatLookupRow sha256Hex s.db.apiKeyRows token = .ok row) :
    KeyStep s (s.logKey (.use row.apiKeyId row.humanId)) := by
  obtain ⟨hrow, hactive⟩ := resolvePatLookupRow_mem h
  have hentry := keyEntries_of_mem_apiKeyRows hnodup hrow
  rw [hactive] at hentry
  refine .event _ (fun h => h) rfl ?_
  intro ring hring _
  exact ⟨_, Keyring.step_use.mpr ⟨(congrFun hring _).trans hentry, rfl⟩, hring⟩

theorem keyStep_insertInternalService {row : InternalServiceRow}
    {creator : Option AuthenticatedHuman} (h : insertInternalService s row creator = some s') :
    KeyStep s s' := by
  obtain ⟨_, rfl⟩ := insertInternalService_eq_some h
  exact .of_apiKeys rfl rfl

theorem keyStep_rotateService (s : Shared) (human : AuthenticatedHuman) (r : Rotation) :
    KeyStep s (rotateService s human r) := by
  refine .of_apiKeys ?_ ?_
  · unfold rotateService
    simp only
    split <;> rfl
  · unfold rotateService
    simp only
    split <;> rfl

theorem insertHuman_apiKeys {row : HumanRow} (h : insertHuman s row = .inserted s') :
    s'.db.apiKeys = s.db.apiKeys ∧ s'.keyEvents = s.keyEvents := by
  simp only [insertHuman] at h
  split at h
  · cases h
  · split at h <;> cases h
    exact ⟨rfl, rfl⟩

theorem keyStep_deleteHuman (s : Shared) (id : JsString) : KeyStep s (deleteHuman s id) := by
  unfold deleteHuman
  split
  · exact .idle
  · exact .of_apiKeys rfl rfl

/-- One event between statements on other tables. -/
theorem KeyStep.trans {t : Shared} (h : s.db.keyEntries = t.db.keyEntries)
    (hnodup : s.db.KeyIdsNodup → t.db.KeyIdsNodup) (hevents : t.keyEvents = s.keyEvents)
    (hstep : KeyStep t s') : KeyStep s s' := by
  cases hstep with
  | same nodup entries events =>
      exact .same (fun hs => nodup (hnodup hs)) (entries.trans h.symm) (events.trans hevents)
  | event e nodup events allowed =>
      refine .event e (fun hs => nodup (hnodup hs)) (by rw [events, hevents]) ?_
      intro ring hring hsessions
      exact allowed ring (hring.trans h) fun key owner huse => hsessions key owner (hevents ▸ huse)

theorem KeyStep.append {t : Shared} (hstep : KeyStep s t) (hkeys : s'.db.apiKeys = t.db.apiKeys)
    (hevents : s'.keyEvents = t.keyEvents) : KeyStep s s' := by
  have hentries := keyEntries_of_apiKeys hkeys
  have hnodup : t.db.KeyIdsNodup → s'.db.KeyIdsNodup := by
    intro h
    rwa [Database.KeyIdsNodup, hkeys]
  cases hstep with
  | same nodup entries events =>
      exact .same (fun hs => hnodup (nodup hs)) (hentries.trans entries) (hevents.trans events)
  | event e nodup events allowed =>
      refine .event e (fun hs => hnodup (nodup hs)) (hevents.trans events) ?_
      rwa [hentries]

/-! ### The routes -/

theorem keyOk_invalidPayload {environment : Wire.IssuerAgreement.Environment}
    {code message : String} {fieldErrors : List (String × String)} :
    (invalidPayload environment code message fieldErrors).KeyOk s := by
  unfold invalidPayload
  split <;> trivial

theorem keyOk_requireAdmin {human : AuthenticatedHuman} {code : String} (h : c.KeyOk s) :
    (requireAdmin human code c).KeyOk s := by
  unfold requireAdmin
  split
  · exact h
  · trivial

/-- A handler works for the human whose key was used. -/
theorem keyOk_dispatch {human : AuthenticatedHuman} (h : Used s human) (route : Route) :
    (dispatch sha256Hex config env human route).KeyOk s := by
  cases route with
  | me => trivial
  | createApiKey body =>
      simp only [dispatch, createApiKey]
      split
      · exact keyOk_invalidPayload
      · split
        · exact keyOk_invalidPayload
        · exact ⟨h, rfl, rfl⟩
  | revokeApiKey id =>
      simp only [dispatch, parseApiKeyRevokePath]
      split
      · rename_i call hcall
        split at hcall
        · cases hcall
          exact keyOk_invalidPayload
        · split at hcall
          · cases hcall
            exact keyOk_invalidPayload
          · cases hcall
      · exact h
  | createService body =>
      refine keyOk_requireAdmin ?_
      split
      · trivial
      · split
        · trivial
        · exact h
  | rotateService id body =>
      refine keyOk_requireAdmin ?_
      split
      · exact keyOk_invalidPayload
      · split
        · trivial
        · split
          · trivial
          · exact h

theorem keyOk_planBootstrap (displayName apiKeyName : JsString) :
    (planBootstrap sha256Hex config env displayName apiKeyName).KeyOk s := by
  unfold planBootstrap
  simp only
  split
  · trivial
  · split <;> trivial

theorem keyOk_planRotation {human : AuthenticatedHuman} (h : Used s human)
    (service : InternalServiceRow) (scopes : Option (List JsString)) :
    (planRotation sha256Hex env human service scopes).KeyOk s := by
  unfold planRotation
  split
  · trivial
  · simp only
    split
    · trivial
    · exact h

theorem keyOk_startCall (input : Input) : (startCall config input).KeyOk s := by
  cases input with
  | bootstrap secretHeader body =>
      simp only [startCall, startBootstrap]
      split
      · trivial
      · split
        · trivial
        · split
          · trivial
          · trivial
          · split
            · exact keyOk_invalidPayload
            · trivial
  | human authorization route =>
      simp only [startCall]
      split <;> trivial
  | service idHeader secretHeader requiredScopes =>
      simp only [startCall, startServiceAuth]
      split
      · trivial
      · rename_i call hcall
        simp only [bind_eq_ok] at hcall
        obtain ⟨_, _, _, _, _, _, hcall⟩ := hcall
        cases hcall
        trivial

/-- The key of the human, as it is found. -/
theorem owns_of_find {human : AuthenticatedHuman} {id : JsString} {key : ApiKeyRow}
    (h : (s.db.apiKey? id).filter (fun key => key.humanId = human.id) = some key) :
    s.db.keyEntries id = some (human.id, key.active) := by
  obtain ⟨hfind, howner⟩ := Option.filter_eq_some_iff.mp h
  rw [Database.keyEntries, Database.keyFacts, hfind, Option.map_some, Option.map_some,
    ApiKeyRow.facts, of_decide_eq_true howner]

theorem ended_revokeApiKey {human : AuthenticatedHuman} {id : JsString} (h : Owns s human id) :
    Ended (revokeApiKey s human id) id := by
  rw [Ended, keyEvents_revokeApiKey]
  rcases h with hentry | hremoved
  · rw [if_pos (apiKey?_any.mpr hentry)]
    exact .inl ⟨human.apiKeyId, List.mem_append_right _ (List.mem_singleton.mpr rfl)⟩
  · exact .inr (List.mem_append_left _ hremoved)

theorem runBootstrap_keys {b : Bootstrap} (fails : Bool) (phase : BootstrapPhase)
    (h : runBootstrap s b fails phase = (s', c')) : KeyStep s s' ∧ c'.KeyOk s' := by
  cases phase with
  | insertHuman =>
      simp only [runBootstrap] at h
      split at h
      · cases h
        exact ⟨.idle, trivial⟩
      · split at h <;> cases h
        · rename_i hinsert
          obtain ⟨hkeys, hevents⟩ := insertHuman_apiKeys hinsert
          exact ⟨.of_apiKeys hkeys hevents, trivial⟩
        · exact ⟨.idle, trivial⟩
        · exact ⟨.idle, trivial⟩
  | insertApiKey =>
      simp only [runBootstrap] at h
      split at h <;> cases h
      · exact ⟨.idle, trivial⟩
      · rename_i hinsert
        exact ⟨keyStep_insertApiKey (fun _ hp => by cases hp) rfl
          (Option.filter_eq_some_iff.mp hinsert).1, trivial⟩
  | insertInternalService =>
      simp only [runBootstrap] at h
      split at h <;> cases h
      · exact ⟨.idle, trivial⟩
      · rename_i hinsert
        exact ⟨keyStep_insertInternalService (Option.filter_eq_some_iff.mp hinsert).1, trivial⟩

theorem runBootstrapTransaction_keys {b : Bootstrap}
    (h : runBootstrapTransaction s b = (s', c')) : KeyStep s s' ∧ c'.KeyOk s' := by
  simp only [runBootstrapTransaction] at h
  split at h
  · cases h
    exact ⟨.idle, trivial⟩
  · cases h
    exact ⟨.idle, trivial⟩
  · rename_i inserted hhuman
    split at h <;> cases h
    · exact ⟨.idle, trivial⟩
    · rename_i happlied
      obtain ⟨withKey, hkey, hservice⟩ := Option.bind_eq_some_iff.mp happlied
      obtain ⟨hkeys, hevents⟩ := insertHuman_apiKeys hhuman
      have hstep : KeyStep s withKey :=
        .trans (keyEntries_of_apiKeys hkeys).symm
          (fun hs => by rwa [Database.KeyIdsNodup, hkeys]) hevents
          (keyStep_insertApiKey (fun _ hp => by cases hp) rfl hkey)
      obtain ⟨_, rfl⟩ := insertInternalService_eq_some hservice
      exact ⟨hstep.append rfl rfl, trivial⟩

theorem runRollback_keys {b : Bootstrap} (fails : Bool) (phase : RollbackPhase)
    (h : runRollback s b fails phase = (s', c')) : KeyStep s s' ∧ c'.KeyOk s' := by
  cases phase with
  | deleteInternalService =>
      cases h
      refine ⟨?_, trivial⟩
      split
      · exact .idle
      · exact .of_apiKeys rfl rfl
  | deleteApiKey =>
      cases h
      refine ⟨?_, trivial⟩
      split
      · exact .idle
      · exact keyStep_deleteApiKey ..
  | deleteHuman =>
      cases h
      refine ⟨?_, trivial⟩
      split
      · exact .idle
      · exact keyStep_deleteHuman ..

/-- **One statement.** -/
theorem runStatement_keys (hnodup : s.db.KeyIdsNodup) (hc : c.KeyOk s)
    (h : runStatement sha256Hex config s env c = (s', c')) : KeyStep s s' ∧ c'.KeyOk s' := by
  cases c with
  | findingApiKey token route =>
      simp only [runStatement] at h
      split at h <;> cases h
      · exact ⟨.idle, trivial⟩
      · rename_i hrow
        exact ⟨keyStep_use hnodup hrow, List.mem_append_right _ (List.mem_singleton.mpr rfl)⟩
  | touchingApiKey human route =>
      cases h
      exact ⟨keyStep_touchApiKey ..,
        keyOk_dispatch (s := touchApiKey s human.apiKeyId env.nowMs) hc route⟩
  | insertingApiKey human row token =>
      obtain ⟨hused, hhuman, hactive⟩ := hc
      simp only [runStatement] at h
      split at h <;> cases h
      · exact ⟨.idle, trivial⟩
      · rename_i hinsert
        refine ⟨keyStep_insertApiKey ?_ hactive hinsert, trivial⟩
        intro parent hparent
        obtain rfl := Option.some.inj hparent
        rw [hhuman]
        exact hused
  | findingOwnKey human id =>
      simp only [runStatement] at h
      split at h
      · cases h
        exact ⟨.idle, trivial⟩
      · rename_i key hfind
        have hentry := owns_of_find hfind
        split at h <;> cases h
        · exact ⟨.idle, hc, .inl ⟨_, hentry⟩⟩
        · rename_i hactive
          rw [Bool.not_eq_true] at hactive
          rw [hactive] at hentry
          exact ⟨keyStep_revoked hc hentry,
            .inl ⟨human.apiKeyId, List.mem_append_right _ (List.mem_singleton.mpr rfl)⟩⟩
  | revokingKey human id =>
      cases h
      exact ⟨keyStep_revokeApiKey hc.1, ended_revokeApiKey hc.2⟩
  | findingName human payload =>
      simp only [runStatement] at h
      split at h <;> cases h
      · exact ⟨.idle, trivial⟩
      · exact ⟨.idle, hc⟩
  | insertingService human row secret =>
      simp only [runStatement] at h
      split at h <;> cases h
      · exact ⟨.idle, trivial⟩
      · rename_i hinsert
        exact ⟨keyStep_insertInternalService hinsert, trivial⟩
  | loadingService human id scopes =>
      simp only [runStatement] at h
      split at h <;> cases h
      · exact ⟨.idle, trivial⟩
      · exact ⟨.idle, keyOk_planRotation hc ..⟩
  | rotatingService human rotation secret =>
      cases h
      exact ⟨keyStep_rotateService .., trivial⟩
  | checkingService id secret requiredScopes =>
      simp only [runStatement] at h
      split at h <;> cases h
      · exact ⟨.idle, trivial⟩
      · exact ⟨.of_apiKeys rfl rfl, trivial⟩
  | touchingService service =>
      cases h
      exact ⟨.of_apiKeys rfl rfl, trivial⟩
  | findingAdmin displayName apiKeyName =>
      simp only [runStatement] at h
      split at h <;> cases h
      · exact ⟨.idle, trivial⟩
      · exact ⟨.idle, keyOk_planBootstrap ..⟩
  | beginning b =>
      simp only [runStatement] at h
      split at h
      · cases h
        exact ⟨.idle, trivial⟩
      · exact runBootstrapTransaction_keys h
  | bootstrapping b phase => exact runBootstrap_keys false phase h
  | rollingBack b phase => exact runRollback_keys false phase h
  | answered response =>
      cases h
      exact ⟨.idle, hc⟩

theorem runFailure_keys (h : runFailure s c = (s', c')) : KeyStep s s' ∧ c'.KeyOk s' := by
  cases c with
  | bootstrapping b phase => exact runBootstrap_keys true phase h
  | rollingBack b phase => exact runRollback_keys true phase h
  | _ =>
      cases h
      exact ⟨.idle, trivial⟩

/-! ## Runs -/

section
variable {p q : State} {db : Database}

/-- The ring after the events of the log is the table. -/
structure KeysOk (db : Database) (p : State) : Prop where
  nodup : p.shared.db.KeyIdsNodup
  ring : ∃ ring, exec Ring.step db.ring p.shared.keyEvents = some ring ∧
    ring.entry = p.shared.db.keyEntries
  calls : ∀ c ∈ p.calls, c.KeyOk p.shared

theorem KeyStep.events_subset (h : KeyStep s s') : s.keyEvents ⊆ s'.keyEvents := by
  cases h with
  | same nodup entries events => exact fun _ hmem => events ▸ hmem
  | event e nodup events allowed =>
      intro _ hmem
      rw [events]
      exact List.mem_append_left _ hmem

/-- The ring follows a statement. -/
theorem KeyStep.ring (h : KeyStep s s') {ring : Ring JsString JsString}
    (hrun : exec Ring.step db.ring s.keyEvents = some ring) (hring : ring.entry = s.db.keyEntries) :
    ∃ ring', exec Ring.step db.ring s'.keyEvents = some ring' ∧ ring'.entry = s'.db.keyEntries := by
  cases h with
  | same nodup entries events =>
      refine ⟨ring, ?_, hring.trans entries.symm⟩
      rw [events]
      exact hrun
  | event e nodup events allowed =>
      obtain ⟨ring', hstep, hring'⟩ := allowed ring hring fun key owner huse =>
        Keyring.mem_sessions_of_use hrun huse
      refine ⟨ring', ?_, hring'⟩
      rw [events, exec_append, hrun, Option.bind_some]
      exact exec_cons_eq_some.mpr ⟨ring', hstep, rfl⟩

/-- A key stays with its human until a rollback removes it. -/
theorem KeyStep.owns (h : KeyStep s s') {ring : Ring JsString JsString}
    (hrun : exec Ring.step db.ring s.keyEvents = some ring) (hring : ring.entry = s.db.keyEntries)
    {human : AuthenticatedHuman} {id : JsString} (howns : Owns s human id) :
    Owns s' human id := by
  have hsub := h.events_subset
  rcases howns with ⟨live, hentry⟩ | hremoved
  · cases h with
    | same nodup entries events =>
        rw [← entries] at hentry
        exact .inl ⟨live, hentry⟩
    | event e nodup events allowed =>
        obtain ⟨ring', hstep, hring'⟩ := allowed ring hring fun key owner huse =>
          Keyring.mem_sessions_of_use hrun huse
        rw [← hring] at hentry
        rcases Keyring.owner_step hentry hstep with ⟨live', hentry'⟩ | rfl
        · rw [hring'] at hentry'
          exact .inl ⟨live', hentry'⟩
        · refine .inr ?_
          rw [events]
          exact List.mem_append_right _ (List.mem_singleton.mpr rfl)
  · exact .inr (hsub hremoved)

theorem Call.KeyOk.later (h : c.KeyOk s) (hsub : s.keyEvents ⊆ s'.keyEvents)
    (howns : ∀ human id, Owns s human id → Owns s' human id) : c.KeyOk s' := by
  cases c with
  | touchingApiKey human route => exact hsub h
  | findingOwnKey human id => exact hsub h
  | findingName human payload => exact hsub h
  | insertingService human row secret => exact hsub h
  | loadingService human id scopes => exact hsub h
  | rotatingService human rotation secret => exact hsub h
  | insertingApiKey human row token => exact ⟨hsub h.1, h.2⟩
  | revokingKey human id => exact ⟨hsub h.1, howns human id h.2⟩
  | answered response =>
      cases response with
      | keyRevoked id =>
          rcases h with ⟨agent, hrevoke⟩ | hremove
          · exact .inl ⟨agent, hsub hrevoke⟩
          · exact .inr (hsub hremove)
      | _ => trivial
  | _ => trivial

theorem resume_keys (hnodup : s.db.KeyIdsNodup) (hc : c.KeyOk s)
    (h : (program sha256Hex config).resume s c env = some (s', c')) :
    KeyStep s s' ∧ c'.KeyOk s' := by
  simp only [program, Option.ite_none_left_eq_some] at h
  obtain ⟨_, h⟩ := h
  by_cases hfails : env.fails = true
  · rw [if_pos hfails, Option.some.injEq] at h
    exact runFailure_keys h
  · rw [if_neg hfails, Option.some.injEq] at h
    exact runStatement_keys hnodup hc h

theorem keysOk_step {e : Move Input Env} (hp : KeysOk db p)
    (h : (program sha256Hex config).step p e = some q) : KeysOk db q := by
  rcases Program.step_cases h with
    ⟨input, s, c, rfl, hstart, rfl⟩ | ⟨i, env, c, s, c', rfl, hc, hresume, rfl⟩
  · cases hstart
    refine ⟨hp.nodup, hp.ring, ?_⟩
    intro d hd
    rcases List.mem_append.mp hd with hold | hnew
    · exact hp.calls d hold
    · obtain rfl := List.mem_singleton.mp hnew
      exact keyOk_startCall input
  · have hmem := List.mem_of_getElem? hc
    obtain ⟨hstep, hnext⟩ := resume_keys hp.nodup (hp.calls c hmem) hresume
    obtain ⟨ring, hrun, hring⟩ := hp.ring
    refine ⟨?_, hstep.ring hrun hring, ?_⟩
    · cases hstep with
      | same nodup entries events => exact nodup hp.nodup
      | event e nodup events allowed => exact nodup hp.nodup
    · intro d hd
      rcases List.mem_or_eq_of_mem_set hd with hold | rfl
      · exact (hp.calls d hold).later hstep.events_subset fun _ _ => hstep.owns hrun hring
      · exact hnext

/-- **The API keys of a run.** A key that was revoked is not used again, unless a key of that id is
made anew; every key that is used descends from a key of the same human that was there at first, or
from a bootstrap, each made by a request that had used the one before; and a `DELETE` that is
answered 204 has ended its key. -/
theorem keys_run {es : List (Move Input Env)} (hnodup : db.KeyIdsNodup)
    (hrun : exec (program sha256Hex config).step (initial db) es = some p) :
    (∀ before after id agent owner, p.shared.keyEvents = before ++ .revoke id agent :: after →
      .use id owner ∈ after → ∃ owner' parent, .mint id owner' parent ∈ after) ∧
    (∀ id owner, .use id owner ∈ p.shared.keyEvents →
      Descends db.ring p.shared.keyEvents owner id) ∧
    (∀ id, .answered (.keyRevoked id) ∈ p.calls → Ended p.shared id) := by
  have hp : KeysOk db p := by
    refine exec_invariant_of_step (KeysOk db) (fun _ _ _ hp h => keysOk_step hp h) ?_ hrun
    exact ⟨hnodup, ⟨db.ring, rfl, rfl⟩, fun _ h => by cases h⟩
  obtain ⟨ring, hring, _⟩ := hp.ring
  refine ⟨?_, ?_, fun id hanswered => hp.calls _ hanswered⟩
  · intro before after id agent owner hevents huse
    rw [hevents] at hring
    exact Keyring.mint_of_use_after_revoke hring huse
  · intro id owner huse
    exact Keyring.descends_of_use rfl hring huse

def exampleKeyId (tag : String) : JsString := js ("01HF7YAT00W6W7CM7N3W5FDXK" ++ tag)

/-- The admin makes a second key with the first one, and revokes the first one with the second one
while a request is between its use of the first one and its answer. -/
def keysRun : List (Move Input Env) :=
  let token (i : ℕ) : Option JsString :=
    some (js "Bearer " ++ ApiKeyToken.PAT_TOKEN_MARKER ++ exampleRandom i)
  [.start exampleBootstrap] ++ List.replicate 5 (.resume 0 (exampleEnv 0 "1")) ++
    [.start (.human (token 0) (.createApiKey (some (object []))))] ++
    List.replicate 3 (.resume 1 (exampleEnv 1 "2")) ++
    [.start (.human (token 0) .me), .resume 2 (exampleEnv 0 "3"),
      .start (.human (token 1) (.revokeApiKey (exampleKeyId "1")))] ++
    List.replicate 4 (.resume 3 (exampleEnv 0 "3")) ++ [.start (.human (token 0) .me)] ++
    [.resume 2 (exampleEnv 0 "3"), .resume 4 (exampleEnv 0 "3")]

theorem keysRun_result :
    (exec (program exampleSha256Hex exampleConfig).step (initial exampleDatabase) keysRun).map
      (fun p => p.shared.keyEvents) =
        some [.mint (exampleKeyId "1") BOOTSTRAP_ADMIN_HUMAN_ID none,
          .use (exampleKeyId "1") BOOTSTRAP_ADMIN_HUMAN_ID,
          .mint (exampleKeyId "2") BOOTSTRAP_ADMIN_HUMAN_ID (some (exampleKeyId "1")),
          .use (exampleKeyId "1") BOOTSTRAP_ADMIN_HUMAN_ID,
          .use (exampleKeyId "2") BOOTSTRAP_ADMIN_HUMAN_ID,
          .revoke (exampleKeyId "1") (exampleKeyId "2")] := by
  decide

theorem keysRun_keys : ∃ p,
    exec (program exampleSha256Hex exampleConfig).step (initial exampleDatabase) keysRun = some p ∧
    Descends exampleDatabase.ring p.shared.keyEvents BOOTSTRAP_ADMIN_HUMAN_ID (exampleKeyId "2") := by
  obtain ⟨p, hrun, hevents⟩ := Option.map_eq_some_iff.mp keysRun_result
  have hnodup : exampleDatabase.KeyIdsNodup := List.nodup_nil
  refine ⟨p, hrun, (keys_run hnodup hrun).2.1 _ _ ?_⟩
  rw [hevents]
  simp

end

end Clawdentity.Credentials
