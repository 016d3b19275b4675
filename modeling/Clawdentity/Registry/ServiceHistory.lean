import Clawdentity.Registry.KeyHistory

/-!
# What happens to the internal services

The secret and the scopes of a service are a register: the last statement that wrote them decides
which request is accepted from the service. Of two rotations that are both answered with a secret,
only the secret of the later `UPDATE` opens the service.

## Main definitions

* `replay` — the registers after the events of the log.
* `ServiceEvent.Allowed` — what an event rests on.
* `services_run` — every event of the log is allowed where it stands.
-/

namespace Clawdentity.Credentials

open Js Lib Lib.Interleave Lib.Run
open ApiKeyToken (HumanRole constantTimeEqual)

variable {sha256Hex : JsString → JsString} {config : Config} {s s' : Shared} {c c' : Call} {env : Env}

/-! ## Registers -/

def ServiceEvent.apply (current : JsString → Option ServiceFacts) :
    ServiceEvent → JsString → Option ServiceFacts
  | .made id secretHash scopes _ => Function.update current id (some ⟨secretHash, scopes⟩)
  | .rotated id secretHash scopes _ => Function.update current id (some ⟨secretHash, scopes⟩)
  | .removed id => Function.update current id none
  | .accepted _ _ _ => current

/-- The registers after the events. -/
def replay (db : Database) (events : List ServiceEvent) : JsString → Option ServiceFacts :=
  events.foldl ServiceEvent.apply db.serviceFacts

/-- The human is an admin, and the request has used the key. -/
def ByAdmin (keyEvents : List (Keyring.Event JsString JsString)) (human : AuthenticatedHuman) : Prop :=
  human.role = .admin ∧ .use human.apiKeyId human.id ∈ keyEvents

/-- What an event rests on, with the registers before it. A service is accepted with its current
secret and scopes. -/
def ServiceEvent.Allowed (keyEvents : List (Keyring.Event JsString JsString))
    (current : JsString → Option ServiceFacts) : ServiceEvent → Prop
  | .made _ _ scopes creator => scopes ≠ [] ∧ ∀ human ∈ creator, ByAdmin keyEvents human
  | .rotated _ _ scopes agent => scopes ≠ [] ∧ ByAdmin keyEvents agent
  | .removed _ => True
  | .accepted service secretHash required => ∃ facts, current service.id = some facts ∧
      constantTimeEqual secretHash facts.secretHash = true ∧
      service.scopes = normalizeInternalServiceScopes facts.scopes ∧
      ∀ scope ∈ required, scope ∈ service.scopes

theorem ServiceEvent.Allowed.later {keyEvents keyEvents' : List (Keyring.Event JsString JsString)}
    {current : JsString → Option ServiceFacts} {e : ServiceEvent} (h : e.Allowed keyEvents current)
    (hsub : keyEvents ⊆ keyEvents') : e.Allowed keyEvents' current := by
  cases e with
  | made id secretHash scopes creator =>
      exact ⟨h.1, fun human hhuman => ⟨(h.2 human hhuman).1, hsub (h.2 human hhuman).2⟩⟩
  | rotated id secretHash scopes agent => exact ⟨h.1, h.2.1, hsub h.2.2⟩
  | removed id => trivial
  | accepted service secretHash required => exact h

/-! ## The statements -/

/-- What a statement does to the services: nothing, or one event that is allowed. -/
inductive ServiceStep (s s' : Shared) : Prop
  | same (facts : s'.db.serviceFacts = s.db.serviceFacts)
      (events : s'.serviceEvents = s.serviceEvents)
  | event (e : ServiceEvent) (events : s'.serviceEvents = s.serviceEvents ++ [e])
      (facts : s'.db.serviceFacts = e.apply s.db.serviceFacts)
      (allowed : e.Allowed s.keyEvents s.db.serviceFacts)

theorem ServiceStep.idle : ServiceStep s s := .same rfl rfl

/-- A statement on other tables. -/
theorem ServiceStep.of_services (hservices : s'.db.internalServices = s.db.internalServices)
    (hevents : s'.serviceEvents = s.serviceEvents) : ServiceStep s s' := by
  refine .same ?_ hevents
  funext id
  rw [Database.serviceFacts, Database.service?, hservices]
  rfl

theorem serviceStep_insert {row : InternalServiceRow} {creator : Option AuthenticatedHuman}
    (hscopes : row.scopes ≠ []) (hcreator : ∀ human ∈ creator, ByAdmin s.keyEvents human)
    (h : insertInternalService s row creator = some s') : ServiceStep s s' := by
  have hfacts := serviceFacts_insertInternalService h
  obtain ⟨_, rfl⟩ := insertInternalService_eq_some h
  exact .event _ rfl hfacts ⟨hscopes, hcreator⟩

theorem serviceStep_delete (s : Shared) (id : JsString) :
    ServiceStep s (deleteInternalService s id) :=
  .event (.removed id) rfl (serviceFacts_deleteInternalService s id) trivial

theorem serviceEvents_rotateService (s : Shared) (human : AuthenticatedHuman) (r : Rotation) :
    (rotateService s human r).serviceEvents = s.serviceEvents ++
      if (s.db.service? r.id).isSome then [.rotated r.id r.secretHash r.scopes human] else [] := by
  unfold rotateService
  simp only
  split
  · rfl
  · simp

theorem serviceStep_rotate {human : AuthenticatedHuman} {r : Rotation} (hscopes : r.scopes ≠ [])
    (hadmin : ByAdmin s.keyEvents human) : ServiceStep s (rotateService s human r) := by
  have hevents := serviceEvents_rotateService s human r
  have hfacts := serviceFacts_rotateService s human r
  by_cases hfound : (s.db.service? r.id).isSome = true
  · rw [if_pos hfound] at hevents
    refine .event _ hevents ?_ ⟨hscopes, hadmin⟩
    funext other
    rw [hfacts, ServiceEvent.apply, Function.update_apply]
    by_cases hother : other = r.id
    · subst hother
      obtain ⟨service, hservice⟩ := Option.isSome_iff_exists.mp hfound
      simp [Database.serviceFacts, hservice]
    · simp [hother]
  · rw [if_neg hfound, List.append_nil] at hevents
    refine .same ?_ hevents
    funext other
    rw [hfacts]
    by_cases hother : other = r.id
    · subst hother
      rw [Option.not_isSome_iff_eq_none] at hfound
      simp [Database.serviceFacts, hfound]
    · simp [hother]

theorem serviceStep_accept {id secret : JsString} {required : List JsString}
    {service : AuthenticatedService}
    (h : checkService sha256Hex s.db id secret required = .ok service) :
    ServiceStep s (s.logService (.accepted service (sha256Hex secret) required)) := by
  simp only [checkService] at h
  split at h
  · cases h
  · rename_i row hrow
    obtain ⟨hfound, hequal⟩ := Option.filter_eq_some_iff.mp hrow
    have hfind := (Option.filter_eq_some_iff.mp hfound).1
    split at h
    · rename_i hscopes
      cases h
      have hid : row.id = id := (Rows.key_of_find hfind).2
      refine .event _ rfl rfl ⟨row.facts, ?_, hequal, rfl, ?_⟩
      · rw [Database.serviceFacts, hid, hfind, Option.map_some]
      · intro scope hscope
        exact of_decide_eq_true (List.all_eq_true.mp hscopes scope hscope)
    · cases h

theorem serviceStep_touch (s : Shared) (id : JsString) (nowMs : ℕ) :
    ServiceStep s (touchService s id nowMs) := .same (serviceFacts_touchService ..) rfl

theorem insertHuman_services {row : HumanRow} (h : insertHuman s row = .inserted s') :
    s'.db.internalServices = s.db.internalServices ∧ s'.serviceEvents = s.serviceEvents ∧
      s'.keyEvents = s.keyEvents := by
  simp only [insertHuman] at h
  split at h
  · cases h
  · split at h <;> cases h
    exact ⟨rfl, rfl, rfl⟩

/-! ## What a request rests on -/

/-- The request of an admin, with scopes. -/
def Call.ServiceOk : Call → Prop
  | .findingName human payload => human.role = .admin ∧ payload.scopes ≠ []
  | .insertingService human row _ => human.role = .admin ∧ row.scopes ≠ []
  | .loadingService human _ scopes => human.role = .admin ∧ ∀ l ∈ scopes, l ≠ []
  | .rotatingService human rotation _ => human.role = .admin ∧ rotation.scopes ≠ []
  | _ => True

theorem parseInternalServiceScopesPayload_ne_nil {value : Option Value} {scopes : List JsString}
    (h : parseInternalServiceScopesPayload value = .ok scopes) : scopes ≠ [] := by
  unfold parseInternalServiceScopesPayload at h
  split at h
  · simp only at h
    split at h
    · cases h
    · rename_i hempty
      cases h
      simpa using hempty
  · cases h

theorem parseInternalServiceCreatePayload_ne_nil {payload : Value} {parsed : ServicePayload}
    (h : parseInternalServiceCreatePayload payload = .ok parsed) : parsed.scopes ≠ [] := by
  unfold parseInternalServiceCreatePayload at h
  split at h
  · simp only at h
    split at h
    · obtain ⟨scopes, hscopes, rfl⟩ := map_eq_ok.mp h
      exact parseInternalServiceScopesPayload_ne_nil hscopes
    · cases h
  · cases h

theorem parseInternalServiceRotatePayload_ne_nil {payload : Value}
    {parsed : Option (List JsString)} (h : parseInternalServiceRotatePayload payload = .ok parsed) :
    ∀ l ∈ parsed, l ≠ [] := by
  unfold parseInternalServiceRotatePayload at h
  split at h
  · cases h
    intro l hl
    cases hl
  · simp only at h
    split at h
    · cases h
      intro l hl
      cases hl
    · obtain ⟨scopes, hscopes, rfl⟩ := map_eq_ok.mp h
      intro l hl
      obtain rfl := Option.some.inj hl
      exact parseInternalServiceScopesPayload_ne_nil hscopes
  · cases h

theorem serviceOk_invalidPayload {environment : Wire.IssuerAgreement.Environment}
    {code message : String} {fieldErrors : List (String × String)} :
    (invalidPayload environment code message fieldErrors).ServiceOk := by
  unfold invalidPayload
  split <;> trivial

theorem serviceOk_requireAdmin {human : AuthenticatedHuman} {code : String}
    (h : human.role = .admin → c.ServiceOk) : (requireAdmin human code c).ServiceOk := by
  unfold requireAdmin
  split
  · rename_i hrole
    exact h hrole
  · trivial

/-- Only admins make and rotate services. -/
theorem serviceOk_dispatch (human : AuthenticatedHuman) (route : Route) :
    (dispatch sha256Hex config env human route).ServiceOk := by
  cases route with
  | me => trivial
  | createApiKey body =>
      simp only [dispatch, createApiKey]
      split
      · exact serviceOk_invalidPayload
      · split
        · exact serviceOk_invalidPayload
        · trivial
  | revokeApiKey id =>
      simp only [dispatch, parseApiKeyRevokePath]
      split
      · rename_i call hcall
        split at hcall
        · cases hcall
          exact serviceOk_invalidPayload
        · split at hcall
          · cases hcall
            exact serviceOk_invalidPayload
          · cases hcall
      · trivial
  | createService body =>
      refine serviceOk_requireAdmin fun hrole => ?_
      split
      · trivial
      · split
        · trivial
        · rename_i hparsed
          exact ⟨hrole, parseInternalServiceCreatePayload_ne_nil hparsed⟩
  | rotateService id body =>
      refine serviceOk_requireAdmin fun hrole => ?_
      split
      · exact serviceOk_invalidPayload
      · split
        · trivial
        · split
          · trivial
          · rename_i hparsed
            exact ⟨hrole, parseInternalServiceRotatePayload_ne_nil hparsed⟩

theorem serviceOk_planRotation {human : AuthenticatedHuman} {id : JsString}
    {scopes : Option (List JsString)} (h : (Call.loadingService human id scopes).ServiceOk)
    (service : InternalServiceRow) :
    (planRotation sha256Hex env human service scopes).ServiceOk := by
  unfold planRotation
  split
  · trivial
  · simp only
    split
    · trivial
    · rename_i hempty
      exact ⟨h.1, by simpa using hempty⟩

theorem serviceOk_planBootstrap (displayName apiKeyName : JsString) :
    (planBootstrap sha256Hex config env displayName apiKeyName).ServiceOk := by
  unfold planBootstrap
  simp only
  split
  · trivial
  · split <;> trivial

theorem serviceOk_startCall (input : Input) : (startCall config input).ServiceOk := by
  cases input with
  | bootstrap secretHeader body =>
      simp only [startCall, startBootstrap]
      split
      · trivial
      · split
        · trivial
        · split
          · trivial
          · trivial
          · split
            · exact serviceOk_invalidPayload
            · trivial
  | human authorization route =>
      simp only [startCall]
      split <;> trivial
  | service idHeader secretHeader requiredScopes =>
      simp only [startCall, startServiceAuth]
      split
      · trivial
      · rename_i call hcall
        simp only [bind_eq_ok] at hcall
        obtain ⟨_, _, _, _, _, _, hcall⟩ := hcall
        cases hcall
        trivial

/-! ### The routes -/

theorem bootstrapScopes_ne_nil (b : Bootstrap) : b.service.scopes ≠ [] := List.cons_ne_nil _ _

theorem serviceStep_insertApiKey {row : ApiKeyRow} {parent : Option JsString}
    (h : insertApiKey s row parent = some s') : ServiceStep s s' := by
  obtain ⟨_, _, rfl⟩ := insertApiKey_eq_some h
  exact .of_services rfl rfl

theorem runBootstrap_services {b : Bootstrap} (fails : Bool) (phase : BootstrapPhase)
    (h : runBootstrap s b fails phase = (s', c')) : ServiceStep s s' ∧ c'.ServiceOk := by
  cases phase with
  | insertHuman =>
      simp only [runBootstrap] at h
      split at h
      · cases h
        exact ⟨.idle, trivial⟩
      · split at h <;> cases h
        · rename_i hinsert
          obtain ⟨hservices, hevents, _⟩ := insertHuman_services hinsert
          exact ⟨.of_services hservices hevents, trivial⟩
        · exact ⟨.idle, trivial⟩
        · exact ⟨.idle, trivial⟩
  | insertApiKey =>
      simp only [runBootstrap] at h
      split at h <;> cases h
      · exact ⟨.idle, trivial⟩
      · rename_i hinsert
        exact ⟨serviceStep_insertApiKey (Option.filter_eq_some_iff.mp hinsert).1, trivial⟩
  | insertInternalService =>
      simp only [runBootstrap] at h
      split at h <;> cases h
      · exact ⟨.idle, trivial⟩
      · rename_i hinsert
        exact ⟨serviceStep_insert (bootstrapScopes_ne_nil b) (fun _ hmem => by cases hmem)
          (Option.filter_eq_some_iff.mp hinsert).1, trivial⟩

theorem runBootstrapTransaction_services {b : Bootstrap}
    (h : runBootstrapTransaction s b = (s', c')) : ServiceStep s s' ∧ c'.ServiceOk := by
  simp only [runBootstrapTransaction] at h
  split at h
  · cases h
    exact ⟨.idle, trivial⟩
  · cases h
    exact ⟨.idle, trivial⟩
  · rename_i inserted hhuman
    split at h <;> cases h
    · exact ⟨.idle, trivial⟩
    · rename_i happlied
      obtain ⟨withKey, hkey, hservice⟩ := Option.bind_eq_some_iff.mp happlied
      obtain ⟨hservices, hevents, _⟩ := insertHuman_services hhuman
      obtain ⟨_, _, rfl⟩ := insertApiKey_eq_some hkey
      have hfacts := serviceFacts_insertInternalService hservice
      obtain ⟨_, rfl⟩ := insertInternalService_eq_some hservice
      refine ⟨.event (.made b.service.id b.service.secretHash b.service.scopes none) ?_ ?_
        ⟨bootstrapScopes_ne_nil b, fun _ hmem => by cases hmem⟩, trivial⟩
      · exact congrArg (· ++ _) hevents
      · rw [hfacts]
        have hbefore : inserted.db.serviceFacts = s.db.serviceFacts := by
          funext id
          rw [Database.serviceFacts, Database.service?, hservices]
          rfl
        exact congrArg (Function.update · _ _) hbefore

theorem runRollback_services {b : Bootstrap} (fails : Bool) (phase : RollbackPhase)
    (h : runRollback s b fails phase = (s', c')) : ServiceStep s s' ∧ c'.ServiceOk := by
  cases phase with
  | deleteInternalService =>
      cases h
      refine ⟨?_, trivial⟩
      split
      · exact .idle
      · exact serviceStep_delete ..
  | deleteApiKey =>
      cases h
      refine ⟨?_, trivial⟩
      split
      · exact .idle
      · exact .of_services rfl rfl
  | deleteHuman =>
      cases h
      refine ⟨?_, trivial⟩
      split
      · exact .idle
      · unfold deleteHuman
        split
        · exact .idle
        · exact .of_services rfl rfl

/-- **One statement.** -/
theorem runStatement_services (hkeys : c.KeyOk s) (hc : c.ServiceOk)
    (h : runStatement sha256Hex config s env c = (s', c')) : ServiceStep s s' ∧ c'.ServiceOk := by
  cases c with
  | findingApiKey token route =>
      simp only [runStatement] at h
      split at h <;> cases h
      · exact ⟨.idle, trivial⟩
      · exact ⟨.of_services rfl rfl, trivial⟩
  | touchingApiKey human route =>
      cases h
      exact ⟨.of_services rfl rfl, serviceOk_dispatch ..⟩
  | insertingApiKey human row token =>
      simp only [runStatement] at h
      split at h <;> cases h
      · exact ⟨.idle, trivial⟩
      · rename_i hinsert
        exact ⟨serviceStep_insertApiKey hinsert, trivial⟩
  | findingOwnKey human id =>
      simp only [runStatement] at h
      split at h
      · cases h
        exact ⟨.idle, trivial⟩
      · split at h <;> cases h
        · exact ⟨.idle, trivial⟩
        · exact ⟨.of_services rfl rfl, trivial⟩
  | revokingKey human id =>
      cases h
      refine ⟨.of_services ?_ ?_, trivial⟩
      · unfold revokeApiKey
        simp only
        split <;> rfl
      · unfold revokeApiKey
        simp only
        split <;> rfl
  | findingName human payload =>
      simp only [runStatement] at h
      split at h <;> cases h
      · exact ⟨.idle, trivial⟩
      · exact ⟨.idle, hc⟩
  | insertingService human row secret =>
      simp only [runStatement] at h
      split at h <;> cases h
      · exact ⟨.idle, trivial⟩
      · rename_i hinsert
        refine ⟨serviceStep_insert hc.2 ?_ hinsert, trivial⟩
        intro creator hcreator
        obtain rfl := Option.some.inj hcreator
        exact ⟨hc.1, hkeys⟩
  | loadingService human id scopes =>
      simp only [runStatement] at h
      split at h <;> cases h
      · exact ⟨.idle, trivial⟩
      · exact ⟨.idle, serviceOk_planRotation hc _⟩
  | rotatingService human rotation secret =>
      cases h
      exact ⟨serviceStep_rotate hc.2 ⟨hc.1, hkeys⟩, trivial⟩
  | checkingService id secret requiredScopes =>
      simp only [runStatement] at h
      split at h <;> cases h
      · exact ⟨.idle, trivial⟩
      · rename_i haccepted
        exact ⟨serviceStep_accept haccepted, trivial⟩
  | touchingService service =>
      cases h
      exact ⟨serviceStep_touch .., trivial⟩
  | findingAdmin displayName apiKeyName =>
      simp only [runStatement] at h
      split at h <;> cases h
      · exact ⟨.idle, trivial⟩
      · exact ⟨.idle, serviceOk_planBootstrap ..⟩
  | beginning b =>
      simp only [runStatement] at h
      split at h
      · cases h
        exact ⟨.idle, trivial⟩
      · exact runBootstrapTransaction_services h
  | bootstrapping b phase => exact runBootstrap_services false phase h
  | rollingBack b phase => exact runRollback_services false phase h
  | answered response =>
      cases h
      exact ⟨.idle, trivial⟩

theorem runFailure_services (h : runFailure s c = (s', c')) : ServiceStep s s' ∧ c'.ServiceOk := by
  cases c with
  | bootstrapping b phase => exact runBootstrap_services true phase h
  | rollingBack b phase => exact runRollback_services true phase h
  | _ =>
      cases h
      exact ⟨.idle, trivial⟩

/-! ## Runs -/

section
variable {p q : State} {db : Database}

/-- The registers after the events of the log are the table, and each event was allowed. -/
structure ServicesOk (db : Database) (p : State) : Prop where
  keys : KeysOk db p
  facts : replay db p.shared.serviceEvents = p.shared.db.serviceFacts
  allowed : ∀ before e after, p.shared.serviceEvents = before ++ e :: after →
    e.Allowed p.shared.keyEvents (replay db before)
  calls : ∀ c ∈ p.calls, c.ServiceOk

/-- The logs after a statement. -/
theorem ServicesOk.step (hp : ServicesOk db p) (hsub : p.shared.keyEvents ⊆ s'.keyEvents)
    (h : ServiceStep p.shared s') :
    replay db s'.serviceEvents = s'.db.serviceFacts ∧
      ∀ before e after, s'.serviceEvents = before ++ e :: after →
        e.Allowed s'.keyEvents (replay db before) := by
  cases h with
  | same facts events =>
      rw [events, facts]
      refine ⟨hp.facts, ?_⟩
      intro before e after hsplit
      exact (hp.allowed before e after hsplit).later hsub
  | event last events facts allowed =>
      refine ⟨?_, ?_⟩
      · rw [events, replay, List.foldl_append, ← replay, hp.facts, facts]
        rfl
      · intro before e after hsplit
        rw [events] at hsplit
        rcases List.eq_nil_or_concat' after with rfl | ⟨rest, final, rfl⟩
        · obtain ⟨rfl, hlast⟩ := List.append_inj' hsplit rfl
          obtain rfl := List.singleton_inj.mp hlast
          rw [hp.facts]
          exact allowed.later hsub
        · rw [← List.cons_append, ← List.append_assoc] at hsplit
          obtain ⟨hold, _⟩ := List.append_inj' hsplit rfl
          exact (hp.allowed before e rest hold).later hsub

theorem resume_services (hkeys : c.KeyOk s) (hc : c.ServiceOk)
    (h : (program sha256Hex config).resume s c env = some (s', c')) :
    ServiceStep s s' ∧ c'.ServiceOk := by
  simp only [program, Option.ite_none_left_eq_some] at h
  obtain ⟨_, h⟩ := h
  by_cases hfails : env.fails = true
  · rw [if_pos hfails, Option.some.injEq] at h
    exact runFailure_services h
  · rw [if_neg hfails, Option.some.injEq] at h
    exact runStatement_services hkeys hc h

theorem servicesOk_step {e : Move Input Env} (hp : ServicesOk db p)
    (h : (program sha256Hex config).step p e = some q) : ServicesOk db q := by
  have hkeys := keysOk_step hp.keys h
  rcases Program.step_cases h with
    ⟨input, s, c, rfl, hstart, rfl⟩ | ⟨i, env, c, s, c', rfl, hc, hresume, rfl⟩
  · cases hstart
    refine ⟨hkeys, hp.facts, hp.allowed, ?_⟩
    intro d hd
    rcases List.mem_append.mp hd with hold | hnew
    · exact hp.calls d hold
    · obtain rfl := List.mem_singleton.mp hnew
      exact serviceOk_startCall input
  · have hmem := List.mem_of_getElem? hc
    have hsub := (resume_keys hp.keys.nodup (hp.keys.calls c hmem) hresume).1.events_subset
    obtain ⟨hstep, hnext⟩ := resume_services (hp.keys.calls c hmem) (hp.calls c hmem) hresume
    obtain ⟨hfacts, hallowed⟩ := hp.step hsub hstep
    refine ⟨hkeys, hfacts, hallowed, ?_⟩
    intro d hd
    rcases List.mem_or_eq_of_mem_set hd with hold | rfl
    · exact hp.calls d hold
    · exact hnext

/-- **The internal services of a run.** A request is accepted from a service only with the secret
and the scopes that were written last. Scopes are never empty, and except by a bootstrap they are
written for an admin who has used a key. -/
theorem services_run {es : List (Move Input Env)} (hnodup : db.KeyIdsNodup)
    (hrun : exec (program sha256Hex config).step (initial db) es = some p)
    {i : ℕ} {e : ServiceEvent} (he : p.shared.serviceEvents[i]? = some e) :
    e.Allowed p.shared.keyEvents (replay db (p.shared.serviceEvents.take i)) := by
  have hp : ServicesOk db p := by
    refine exec_invariant_of_step (ServicesOk db) (fun _ _ _ hp h => servicesOk_step hp h) ?_ hrun
    refine ⟨⟨hnodup, ⟨db.ring, rfl, rfl⟩, fun _ h => by cases h⟩, rfl, ?_, fun _ h => by cases h⟩
    intro before e after hnil
    exact absurd (congrArg List.length hnil) (by simp [initial])
  obtain ⟨hi, rfl⟩ := List.getElem?_eq_some_iff.mp he
  refine hp.allowed _ _ (p.shared.serviceEvents.drop (i + 1)) ?_
  rw [List.getElem_cons_drop, List.take_append_drop]

def ServiceEvent.isAccepted : ServiceEvent → Bool
  | .accepted _ _ _ => true
  | _ => false

/-- The admin rotates the secret of the service twice at once; the first of the two answers is that
of the later statement. The service then comes with the new secret. -/
def servicesRun : List (Move Input Env) :=
  let token : Option JsString := some (js "Bearer " ++ ApiKeyToken.PAT_TOKEN_MARKER ++ exampleRandom 0)
  let rotate : Route := .rotateService exampleConfig.bootstrapInternalServiceId (some .null)
  let secret (i : ℕ) : Option JsString := some (INTERNAL_SERVICE_SECRET_MARKER ++ exampleRandom i)
  [.start exampleBootstrap] ++ List.replicate 5 (.resume 0 (exampleEnv 0 "1")) ++
    [.start (.human token rotate), .start (.human token rotate)] ++
    [1, 2, 1, 2].map (fun i => .resume i (exampleEnv 0 "2")) ++
    [.resume 1 (exampleEnv 3 "2"), .resume 2 (exampleEnv 2 "2"), .resume 2 (exampleEnv 0 "2"),
      .resume 1 (exampleEnv 0 "2"),
      .start (.service (some exampleConfig.bootstrapInternalServiceId) (secret 3)
        [js "identity.read"]),
      .resume 3 (exampleEnv 0 "3")]

theorem servicesRun_result :
    (exec (program exampleSha256Hex exampleConfig).step (initial exampleDatabase) servicesRun).map
      (fun p => p.shared.serviceEvents.map ServiceEvent.isAccepted) =
        some [false, false, false, true] := by
  decide

theorem servicesRun_services : ∃ (p : State) (e : ServiceEvent),
    exec (program exampleSha256Hex exampleConfig).step (initial exampleDatabase) servicesRun = some p ∧
    e.isAccepted = true ∧
    e.Allowed p.shared.keyEvents (replay exampleDatabase (p.shared.serviceEvents.take 3)) := by
  obtain ⟨p, hrun, hevents⟩ := Option.map_eq_some_iff.mp servicesRun_result
  have hnodup : exampleDatabase.KeyIdsNodup := List.nodup_nil
  have hlast : (p.shared.serviceEvents.map ServiceEvent.isAccepted)[3]? = some true := by
    rw [hevents]
    rfl
  rw [List.getElem?_map] at hlast
  obtain ⟨e, he, haccepted⟩ := Option.map_eq_some_iff.mp hlast
  exact ⟨p, e, hrun, haccepted, services_run hnodup hrun he⟩

end

end Clawdentity.Credentials
