import Clawdentity.Proxy.AuthMiddleware
import Clawdentity.Wire.AitVerification

/-!
# What the proxy knows of a request that goes on

The log of the middleware, judged entry by entry. Whatever it does for a request after the first
stage rests on a token that was verified with keys of the registry, which were fetched during the
request or at most `registryKeysCacheTtlMs` before it, and on a signature with the key of that token.

## Main definitions

* `Authentic` — the token and the signature of a request, with the keys they were verified with.
* `Justified` — what an entry of the log rests on.
* `authenticated_run` — every entry of the log rests on it, and so does a request that goes on.
* `stages_run` — the stages of a request, each at most once and in their order.
-/

namespace Clawdentity.AuthMiddleware

open Js Lib Lib.Interleave Lib.Run Protocol AitJwt NonceReplay
open Wire.AitVerification (exampleJose exampleText)

variable {α : Type} {d : Deployment α} {s s' t : Shared} {number : ℕ} {request : HttpRequest}
  {claims : AitClaims}

/-! ## What the log says -/

/-- A request whose token was verified with keys of the registry, and which is signed. -/
def Authentic (d : Deployment α) (s : Shared) (number : ℕ) (claims : AitClaims)
    (nonce : JsString) : Prop :=
  ∃ request arrivedAt token, s.arrivals[number]? = some (request, arrivedAt) ∧
    parseClawAuthorizationHeader request.authorization = .ok token ∧
    ∃ cache ∈ s.fetched, ∃ nowMs, arrivedAt ≤ cache.fetchedAtMs + d.registryKeysCacheTtlMs ∧
      cache.fetchedAtMs ≤ nowMs ∧ arrivedAt ≤ nowMs ∧ nowMs ≤ s.now ∧
      verifyToken d request token cache.keys nowMs = .ok claims ∧
      verifyProof d request claims nowMs = .ok nonce

/-- The nonce of an authentic request was new. -/
def NonceAccepted (d : Deployment α) (s : Shared) (number : ℕ) (claims : AitClaims) : Prop :=
  ∃ nonce ttlMs nowMs, Authentic d s number claims nonce ∧
    (number, .tryAcceptNonce claims.sub nonce ttlMs nowMs (some true)) ∈ s.log

/-- Its agent was not revoked in the trust state. -/
def NotRevoked (d : Deployment α) (s : Shared) (number : ℕ) (claims : AitClaims) : Prop :=
  NonceAccepted d s number claims ∧ (number, .isAgentRevoked claims.sub (some false)) ∈ s.log

/-- Its token was not on the revocation list. -/
def NotOnCrl (d : Deployment α) (s : Shared) (number : ℕ) (claims : AitClaims) : Prop :=
  NotRevoked d s number claims ∧ (number, .isRevoked claims.jti (.ok false)) ∈ s.log

/-- Its agent was known, on the paths on which this is asked. -/
def Known (d : Deployment α) (s : Shared) (number : ℕ) (claims : AitClaims) : Prop :=
  NotOnCrl d s number claims ∧ ∃ request arrivedAt, s.arrivals[number]? = some (request, arrivedAt) ∧
    (Authorization.shouldSkipKnownAgentCheck request.path = true ∨
      (number, .isAgentKnown claims.sub (some true)) ∈ s.log)

/-- The header of the access token. -/
def HasAccessToken (s : Shared) (number : ℕ) (accessToken : JsString) : Prop :=
  ∃ request arrivedAt, s.arrivals[number]? = some (request, arrivedAt) ∧
    parseAgentAccessHeader request.agentAccess = .ok accessToken

/-- All checks of a request have passed. -/
def Checked (d : Deployment α) (s : Shared) (number : ℕ) (claims : AitClaims) : Prop :=
  Known d s number claims ∧ ∃ request arrivedAt, s.arrivals[number]? = some (request, arrivedAt) ∧
    (requiresAgentAccess request.path = true → ∃ accessToken,
      parseAgentAccessHeader request.agentAccess = .ok accessToken ∧
      (number, .validateAgentAccess claims.sub claims.jti accessToken (some 204)) ∈ s.log)

/-- What an entry of the log rests on. -/
def Justified (d : Deployment α) (s : Shared) (number : ℕ) : Effect → Prop
  | .fetchKeys _ => ∃ request arrivedAt token, s.arrivals[number]? = some (request, arrivedAt) ∧
      parseClawAuthorizationHeader request.authorization = .ok token
  | .tryAcceptNonce agentDid nonce _ _ _ =>
      ∃ claims, agentDid = claims.sub ∧ Authentic d s number claims nonce
  | .isAgentRevoked agentDid _ => ∃ claims, agentDid = claims.sub ∧ NonceAccepted d s number claims
  | .isRevoked jti _ => ∃ claims, jti = claims.jti ∧ NotRevoked d s number claims
  | .isAgentKnown agentDid _ => ∃ claims, agentDid = claims.sub ∧ NotOnCrl d s number claims
  | .validateAgentAccess agentDid aitJti accessToken _ =>
      ∃ claims, agentDid = claims.sub ∧ aitJti = claims.jti ∧ Known d s number claims ∧
        HasAccessToken s number accessToken
  | .next none => ∃ request arrivedAt, s.arrivals[number]? = some (request, arrivedAt) ∧
      request.path = "/health"
  | .next (some auth) => ∃ claims, auth = authContext claims ∧ Checked d s number claims

/-- What a phase of a request rests on. -/
def PhaseOk (d : Deployment α) (s : Shared) (number : ℕ) : Phase → Prop
  | .registryKeys token _ => ∃ request arrivedAt, s.arrivals[number]? = some (request, arrivedAt) ∧
      parseClawAuthorizationHeader request.authorization = .ok token
  | .nonce claims nonce _ => Authentic d s number claims nonce
  | .trustState claims => NonceAccepted d s number claims
  | .crl claims => NotRevoked d s number claims
  | .knownAgent claims => NotOnCrl d s number claims
  | .agentAuth claims accessToken => Known d s number claims ∧ HasAccessToken s number accessToken
  | .answered (.ok ()) => ∃ auth, (number, .next auth) ∈ s.log
  | .answered (.error _) => True

/-! ### Later states -/

/-- Nothing is taken back. -/
structure Extends (s s' : Shared) : Prop where
  now_le : s.now ≤ s'.now
  fetched_subset : s.fetched ⊆ s'.fetched
  arrivals_prefix : s.arrivals <+: s'.arrivals
  log_subset : s.log ⊆ s'.log

theorem Extends.rfl : Extends s s :=
  ⟨Nat.le_refl _, fun _ h => h, List.prefix_refl _, fun _ h => h⟩

theorem Extends.trans (h : Extends s t) (h' : Extends t s') : Extends s s' :=
  ⟨h.now_le.trans h'.now_le, fun _ hmem => h'.fetched_subset (h.fetched_subset hmem),
    h.arrivals_prefix.trans h'.arrivals_prefix, fun _ hmem => h'.log_subset (h.log_subset hmem)⟩

theorem extends_record (s : Shared) (number : ℕ) (effect : Effect) :
    Extends s (s.record number effect) :=
  ⟨Nat.le_refl _, fun _ h => h, List.prefix_refl _, fun _ h => List.mem_append_left _ h⟩

theorem mem_log_record (s : Shared) (number : ℕ) (effect : Effect) :
    (number, effect) ∈ (s.record number effect).log :=
  List.mem_append_right _ (List.mem_singleton.mpr rfl)

theorem Extends.arrival (h : Extends s s') {arrival : HttpRequest × ℕ}
    (harrival : s.arrivals[number]? = some arrival) : s'.arrivals[number]? = some arrival := by
  obtain ⟨rest, hrest⟩ := h.arrivals_prefix
  have hlt := (List.getElem?_eq_some_iff.mp harrival).1
  rw [← hrest, List.getElem?_append_left hlt, harrival]

section
variable (h : Extends s s')
include h

theorem Authentic.later {nonce : JsString} (ha : Authentic d s number claims nonce) :
    Authentic d s' number claims nonce := by
  obtain ⟨request, arrivedAt, token, harrival, htoken, cache, hcache, nowMs, hfresh, hfetched, hle,
    hnow, hverify, hproof⟩ := ha
  exact ⟨request, arrivedAt, token, h.arrival harrival, htoken, cache, h.fetched_subset hcache,
    nowMs, hfresh, hfetched, hle, hnow.trans h.now_le, hverify, hproof⟩

theorem NonceAccepted.later (ha : NonceAccepted d s number claims) :
    NonceAccepted d s' number claims := by
  obtain ⟨nonce, ttlMs, nowMs, hauthentic, hlog⟩ := ha
  exact ⟨nonce, ttlMs, nowMs, hauthentic.later h, h.log_subset hlog⟩

theorem NotRevoked.later (ha : NotRevoked d s number claims) : NotRevoked d s' number claims :=
  ⟨ha.1.later h, h.log_subset ha.2⟩

theorem NotOnCrl.later (ha : NotOnCrl d s number claims) : NotOnCrl d s' number claims :=
  ⟨ha.1.later h, h.log_subset ha.2⟩

theorem Known.later (ha : Known d s number claims) : Known d s' number claims := by
  obtain ⟨hcrl, request, arrivedAt, harrival, hknown⟩ := ha
  exact ⟨hcrl.later h, request, arrivedAt, h.arrival harrival, hknown.imp_right (h.log_subset ·)⟩

theorem HasAccessToken.later {accessToken : JsString} (ha : HasAccessToken s number accessToken) :
    HasAccessToken s' number accessToken := by
  obtain ⟨request, arrivedAt, harrival, htoken⟩ := ha
  exact ⟨request, arrivedAt, h.arrival harrival, htoken⟩

theorem Checked.later (ha : Checked d s number claims) : Checked d s' number claims := by
  obtain ⟨hknown, request, arrivedAt, harrival, haccess⟩ := ha
  refine ⟨hknown.later h, request, arrivedAt, h.arrival harrival, ?_⟩
  intro hpath
  obtain ⟨accessToken, htoken, hlog⟩ := haccess hpath
  exact ⟨accessToken, htoken, h.log_subset hlog⟩

theorem Justified.later {effect : Effect} (ha : Justified d s number effect) :
    Justified d s' number effect := by
  cases effect with
  | fetchKeys force =>
      obtain ⟨request, arrivedAt, token, harrival, htoken⟩ := ha
      exact ⟨request, arrivedAt, token, h.arrival harrival, htoken⟩
  | tryAcceptNonce agentDid nonce ttlMs nowMs accepted =>
      obtain ⟨claims, hsub, hauthentic⟩ := ha
      exact ⟨claims, hsub, hauthentic.later h⟩
  | isAgentRevoked agentDid answer =>
      obtain ⟨claims, hsub, hnonce⟩ := ha
      exact ⟨claims, hsub, hnonce.later h⟩
  | isRevoked jti answer =>
      obtain ⟨claims, hjti, hrevoked⟩ := ha
      exact ⟨claims, hjti, hrevoked.later h⟩
  | isAgentKnown agentDid answer =>
      obtain ⟨claims, hsub, hcrl⟩ := ha
      exact ⟨claims, hsub, hcrl.later h⟩
  | validateAgentAccess agentDid aitJti accessToken status =>
      obtain ⟨claims, hsub, hjti, hknown, htoken⟩ := ha
      exact ⟨claims, hsub, hjti, hknown.later h, htoken.later h⟩
  | next auth =>
      cases auth with
      | none =>
          obtain ⟨request, arrivedAt, harrival, hpath⟩ := ha
          exact ⟨request, arrivedAt, h.arrival harrival, hpath⟩
      | some auth =>
          obtain ⟨claims, hauth, hchecked⟩ := ha
          exact ⟨claims, hauth, hchecked.later h⟩

theorem PhaseOk.later {phase : Phase} (ha : PhaseOk d s number phase) :
    PhaseOk d s' number phase := by
  cases phase with
  | registryKeys token force =>
      obtain ⟨request, arrivedAt, harrival, htoken⟩ := ha
      exact ⟨request, arrivedAt, h.arrival harrival, htoken⟩
  | nonce claims nonce nowMs => exact Authentic.later h ha
  | trustState claims => exact NonceAccepted.later h ha
  | crl claims => exact NotRevoked.later h ha
  | knownAgent claims => exact NotOnCrl.later h ha
  | agentAuth claims accessToken => exact ⟨Known.later h ha.1, HasAccessToken.later h ha.2⟩
  | answered result =>
      cases result with
      | error e => trivial
      | ok _ =>
          obtain ⟨auth, hnext⟩ := ha
          exact ⟨auth, h.log_subset hnext⟩

end

/-! ## The stages -/

/-- The order of the stages. -/
@[simp]
def Effect.stage : Effect → ℕ
  | .fetchKeys false => 0
  | .fetchKeys true => 1
  | .tryAcceptNonce .. => 2
  | .isAgentRevoked .. => 3
  | .isRevoked .. => 4
  | .isAgentKnown .. => 5
  | .validateAgentAccess .. => 6
  | .next _ => 7

/-- A request in this phase has only earlier stages behind it, and one that is rejected has not gone
on. -/
@[simp]
def Phase.stage : Phase → ℕ
  | .registryKeys _ false => 1
  | .registryKeys _ true | .nonce .. => 2
  | .trustState _ => 3
  | .crl _ => 4
  | .knownAgent _ => 5
  | .agentAuth .. => 6
  | .answered (.error _) => 7
  | .answered (.ok _) => 8

/-- The stages of a request in the log. -/
def Shared.stages (s : Shared) (number : ℕ) : List ℕ :=
  (s.log.filter fun entry => decide (entry.1 = number)).map fun entry => entry.2.stage

/-- The keys in the cache were fetched, and not later than now. -/
structure CacheOk (s : Shared) : Prop where
  cache_mem : ∀ cache ∈ s.registryKeysCache, cache ∈ s.fetched
  fetched_le : ∀ cache ∈ s.fetched, cache.fetchedAtMs ≤ s.now
  arrived_le : ∀ arrival ∈ s.arrivals, arrival.2 ≤ s.now

/-- What a piece of code for a request does: the stages that it has behind it are at most `stage`
before, and the phase says what they are after. -/
structure Stage (d : Deployment α) (s : Shared) (number stage : ℕ) (r : Shared × Call) : Prop where
  later : Extends s r.1
  arrivals_eq : r.1.arrivals = s.arrivals
  cache_ok : CacheOk s → CacheOk r.1
  number_eq : r.2.number = some number
  justified : ∀ entry ∈ r.1.log, entry ∈ s.log ∨ entry.1 = number ∧ Justified d r.1 number entry.2
  phase_ok : PhaseOk d r.1 number r.2.phase
  stage_le : stage ≤ r.2.phase.stage
  appended : ∃ entries : List (ℕ × Effect), r.1.log = s.log ++ entries ∧
    (entries.map fun entry => entry.2.stage).Pairwise (· < ·) ∧
    ∀ entry ∈ entries, entry.1 = number ∧ stage ≤ entry.2.stage ∧
      entry.2.stage < r.2.phase.stage

section
variable {stage : ℕ} {r : Shared × Call} {phase : Phase} {arrivedAt : ℕ} {token : JsString}

/-- The request waits, or is answered. -/
theorem Stage.of_phase (hphase : PhaseOk d s number phase) (hstage : stage ≤ phase.stage) :
    Stage d s number stage (s, ⟨some number, phase⟩) where
  later := .rfl
  arrivals_eq := rfl
  cache_ok h := h
  number_eq := rfl
  justified _ h := .inl h
  phase_ok := hphase
  stage_le := hstage
  appended := ⟨[], (List.append_nil _).symm, List.Pairwise.nil, fun _ h => by cases h⟩

theorem Stage.of_reject (e : AppError) (hstage : stage ≤ 7) :
    Stage d s number stage (s, reject number e) :=
  .of_phase trivial hstage

/-- One more entry of the log, and then the rest of the piece of code. -/
theorem Stage.of_record (effect : Effect)
    (hrest : Stage d (s.record number effect) number (effect.stage + 1) r)
    (hjustified : Justified d (s.record number effect) number effect)
    (hstage : stage ≤ effect.stage) : Stage d s number stage r where
  later := (extends_record s number effect).trans hrest.later
  arrivals_eq := hrest.arrivals_eq
  cache_ok h := hrest.cache_ok ⟨h.cache_mem, h.fetched_le, h.arrived_le⟩
  number_eq := hrest.number_eq
  justified entry hentry := by
    rcases hrest.justified entry hentry with hold | hnew
    · rcases List.mem_append.mp hold with hbefore | hlast
      · exact .inl hbefore
      · obtain rfl := List.mem_singleton.mp hlast
        exact .inr ⟨rfl, hjustified.later hrest.later⟩
    · exact .inr hnew
  phase_ok := hrest.phase_ok
  stage_le := (hstage.trans (Nat.le_succ _)).trans hrest.stage_le
  appended := by
    obtain ⟨entries, hlog, hsorted, hentries⟩ := hrest.appended
    refine ⟨(number, effect) :: entries, ?_, ?_, ?_⟩
    · rw [hlog, Shared.record, List.append_assoc, List.singleton_append]
    · refine List.pairwise_cons.mpr ⟨?_, hsorted⟩
      intro later hlater
      obtain ⟨entry, hentry, rfl⟩ := List.mem_map.mp hlater
      exact Nat.lt_of_succ_le (hentries entry hentry).2.1
    · intro entry hentry
      rcases List.mem_cons.mp hentry with rfl | hrest'
      · exact ⟨rfl, hstage, hrest.stage_le⟩
      · obtain ⟨hnumber, hle, hlt⟩ := hentries entry hrest'
        exact ⟨hnumber, hstage.trans ((Nat.le_succ _).trans hle), hlt⟩

/-- A change that leaves the log as it is, and then the rest of the piece of code. -/
theorem Stage.of_extends (hlater : Extends s t) (hcache : CacheOk s → CacheOk t)
    (harrivals : t.arrivals = s.arrivals) (hlog : t.log = s.log) (hrest : Stage d t number stage r) : Stage d s number stage r where
  later := hlater.trans hrest.later
  arrivals_eq := hrest.arrivals_eq.trans harrivals
  cache_ok h := hrest.cache_ok (hcache h)
  number_eq := hrest.number_eq
  justified := by
    rw [← hlog]
    exact hrest.justified
  phase_ok := hrest.phase_ok
  stage_le := hrest.stage_le
  appended := by
    rw [← hlog]
    exact hrest.appended

/-! ### Token and signature -/

/-- **The token is verified with keys that are fresh enough**, and then the signature. -/
theorem verifyAitClaims_stage (hs : CacheOk s) (harrival : s.arrivals[number]? = some (request, arrivedAt))
    (htoken : parseClawAuthorizationHeader request.authorization = .ok token)
    {cache : RegistryKeysCache} (hcache : cache ∈ s.fetched)
    (hfresh : arrivedAt ≤ cache.fetchedAtMs + d.registryKeysCacheTtlMs) (forceRefresh : Bool)
    (hstage : stage ≤ if forceRefresh then 2 else 1) :
    Stage d s number stage (verifyAitClaims d s number request token cache.keys forceRefresh) := by
  have hle : stage ≤ 2 := by
    split at hstage <;> omega
  rw [verifyAitClaims]
  split
  · rename_i claims hverify
    split
    · exact .of_reject _ (by omega)
    · rename_i nonce hproof
      refine .of_phase ?_ hle
      exact ⟨request, arrivedAt, token, harrival, htoken, cache, hcache, s.now, hfresh,
        hs.fetched_le cache hcache, hs.arrived_le _ (List.mem_of_getElem? harrival), Nat.le_refl _,
        hverify, hproof⟩
  · split
    · exact .of_reject _ (by omega)
    · rename_i hforce
      rw [if_neg hforce] at hstage
      refine .of_record (.fetchKeys true) (.of_phase ?_ (Nat.le_refl _))
        ⟨request, arrivedAt, token, harrival, htoken⟩ hstage
      exact ⟨request, arrivedAt, harrival, htoken⟩
  · exact .of_reject _ (by omega)

/-- What `getActiveRegistryKeys` puts into the cache. -/
theorem storeKeys_eq_ok {response : Except String (List CrlRoute.RegistrySigningKey)}
    {keys : List RegistryAitVerificationKey} (h : storeKeys s response = .ok (t, keys)) :
    ∃ cache : RegistryKeysCache, cache.fetchedAtMs = s.now ∧ cache.keys = keys ∧
      t = { s with registryKeysCache := some cache, fetched := s.fetched ++ [cache] } := by
  unfold storeKeys at h
  split at h
  · cases h
  · simp only at h
    split at h
    · cases h
    · cases h
      exact ⟨_, rfl, rfl, rfl⟩

theorem extends_storeKeys {response : Except String (List CrlRoute.RegistrySigningKey)}
    {keys : List RegistryAitVerificationKey} (h : storeKeys s response = .ok (t, keys)) :
    Extends s t ∧ (CacheOk s → CacheOk t) ∧ t.arrivals = s.arrivals ∧ t.log = s.log := by
  obtain ⟨cache, hfetched, _, rfl⟩ := storeKeys_eq_ok h
  refine ⟨⟨Nat.le_refl _, fun _ h => List.mem_append_left _ h, List.prefix_refl _, fun _ h => h⟩,
    ?_, rfl, rfl⟩
  intro hs
  refine ⟨?_, ?_, hs.arrived_le⟩
  · intro other hother
    cases hother
    exact List.mem_append_right _ (List.mem_singleton.mpr rfl)
  · intro other hother
    rcases List.mem_append.mp hother with hold | hlast
    · exact hs.fetched_le other hold
    · obtain rfl := List.mem_singleton.mp hlast
      exact hfetched.le

theorem afterKeys_stage (hs : CacheOk s) (harrival : s.arrivals[number]? = some (request, arrivedAt))
    (htoken : parseClawAuthorizationHeader request.authorization = .ok token) (forceRefresh : Bool)
    (hstage : stage ≤ if forceRefresh then 2 else 1)
    (response : Except String (List CrlRoute.RegistrySigningKey)) :
    Stage d s number stage (afterKeys d s number request token forceRefresh response) := by
  have hle : stage ≤ 7 := by
    split at hstage <;> omega
  rw [afterKeys]
  split
  · exact .of_reject _ hle
  · rename_i t keys hstore
    obtain ⟨hlater, hcache, harrivals, hlog⟩ := extends_storeKeys hstore
    refine .of_extends hlater hcache harrivals hlog ?_
    obtain ⟨cache, hfetched, rfl, rfl⟩ := storeKeys_eq_ok hstore
    refine verifyAitClaims_stage (hcache hs) harrival htoken
      (List.mem_append_right _ (List.mem_singleton.mpr rfl)) ?_ forceRefresh hstage
    have harrived := hs.arrived_le _ (List.mem_of_getElem? harrival)
    rw [hfetched]
    exact harrived.trans (Nat.le_add_right _ _)

/-- A request has come. -/
def Shared.arrive (s : Shared) (request : HttpRequest) : Shared :=
  { s with arrivals := s.arrivals ++ [(request, s.now)] }

theorem extends_arrive (s : Shared) (request : HttpRequest) : Extends s (s.arrive request) :=
  ⟨Nat.le_refl _, fun _ h => h, List.prefix_append _ _, fun _ h => h⟩

theorem CacheOk.arrive (hs : CacheOk s) (request : HttpRequest) : CacheOk (s.arrive request) := by
  refine ⟨hs.cache_mem, hs.fetched_le, ?_⟩
  intro arrival harrival
  rcases List.mem_append.mp harrival with hold | hlast
  · exact hs.arrived_le arrival hold
  · obtain rfl := List.mem_singleton.mp hlast
    exact Nat.le_refl _

theorem startRequest_stage (hs : CacheOk s) (request : HttpRequest) :
    Stage d (s.arrive request) s.arrivals.length 0 (startRequest d s request) := by
  have hcache := hs.arrive request
  have harrival : (s.arrive request).arrivals[s.arrivals.length]? = some (request, s.now) :=
    List.getElem?_concat_length
  simp only [startRequest]
  split
  · rename_i hpath
    exact .of_record (.next none) (.of_phase ⟨none, mem_log_record ..⟩ (Nat.le_refl _))
      ⟨request, s.now, harrival, hpath⟩ (Nat.zero_le _)
  · split
    · exact .of_reject _ (Nat.zero_le _)
    · rename_i token htoken
      split
      · rename_i keys hkeys
        obtain ⟨cache, hcached, rfl⟩ := Option.map_eq_some_iff.mp hkeys
        obtain ⟨hstored, hfresh⟩ := Option.filter_eq_some_iff.mp hcached
        exact verifyAitClaims_stage hcache harrival htoken (hcache.cache_mem cache hstored)
          (of_decide_eq_true hfresh) false (Nat.zero_le _)
      · refine .of_record (.fetchKeys false) (.of_phase ?_ (Nat.le_refl _))
          ⟨request, s.now, token, harrival, htoken⟩ (Nat.zero_le _)
        exact ⟨request, s.now, harrival, htoken⟩

/-! ### Nonce, revocation and access -/

theorem afterNonce_stage {nonce : JsString} (h : Authentic d s number claims nonce) (nowMs : ℕ)
    (accepted : Option Bool) :
    Stage d s number 2 (afterNonce d s number claims nonce nowMs accepted) := by
  have hlater := extends_record s number
    (.tryAcceptNonce claims.sub nonce (d.maxTimestampSkewSeconds * 1000) nowMs accepted)
  refine .of_record (.tryAcceptNonce claims.sub nonce (d.maxTimestampSkewSeconds * 1000) nowMs accepted) ?_
    ⟨claims, rfl, h.later hlater⟩ (Nat.le_refl _)
  cases accepted with
  | none => exact .of_reject _ (by simp)
  | some isNew =>
      cases isNew with
      | false => exact .of_reject _ (by simp)
      | true =>
          refine .of_phase ?_ (by simp)
          exact ⟨nonce, _, nowMs, h.later hlater,
            mem_log_record ..⟩

theorem afterTrustState_stage (h : NonceAccepted d s number claims) (isRevoked : Option Bool) :
    Stage d s number 3 (afterTrustState s number claims isRevoked) := by
  have hlater := extends_record s number (.isAgentRevoked claims.sub isRevoked)
  refine .of_record (.isAgentRevoked claims.sub isRevoked) ?_
    ⟨claims, rfl, h.later hlater⟩ (Nat.le_refl _)
  cases isRevoked with
  | none => exact .of_reject _ (by simp)
  | some answer =>
      cases answer with
      | true => exact .of_reject _ (by simp)
      | false =>
          refine .of_phase ?_ (by simp)
          exact ⟨h.later hlater, mem_log_record ..⟩

/-- **The request goes on**: all its checks have passed. -/
theorem passOn_stage (h : Checked d s number claims) (hstage : stage ≤ 7) :
    Stage d s number stage (passOn s number claims) :=
  .of_record (.next (some (authContext claims)))
    (.of_phase ⟨some (authContext claims), mem_log_record ..⟩ (Nat.le_refl _))
    ⟨claims, rfl, h.later (extends_record ..)⟩ hstage

theorem checkAgentAccess_stage (h : Known d s number claims)
    (harrival : s.arrivals[number]? = some (request, arrivedAt)) (hstage : stage ≤ 6) :
    Stage d s number stage (checkAgentAccess s number request claims) := by
  rw [checkAgentAccess]
  split
  · split
    · exact .of_reject _ (by omega)
    · rename_i accessToken haccess
      exact .of_phase ⟨h, request, arrivedAt, harrival, haccess⟩ hstage
  · rename_i hpath
    exact passOn_stage ⟨h, request, arrivedAt, harrival, fun hrequires => absurd hrequires hpath⟩
      (by omega)

theorem afterCrl_stage (h : NotRevoked d s number claims)
    (harrival : s.arrivals[number]? = some (request, arrivedAt))
    (isRevoked : Except (Option AppError) Bool) :
    Stage d s number 4 (afterCrl s number request claims isRevoked) := by
  have hlater := extends_record s number (.isRevoked claims.jti isRevoked)
  refine .of_record (.isRevoked claims.jti isRevoked) ?_
    ⟨claims, rfl, h.later hlater⟩ (Nat.le_refl _)
  cases isRevoked with
  | error e =>
      cases e with
      | none => exact .of_reject _ (by simp)
      | some e =>
          simp only [afterCrl]
          split <;> exact .of_reject _ (by simp)
  | ok answer =>
      cases answer with
      | true => exact .of_reject _ (by simp)
      | false =>
          have hcrl : NotOnCrl d (s.record number (.isRevoked claims.jti (.ok false))) number
              claims :=
            ⟨h.later hlater, mem_log_record ..⟩
          simp only [afterCrl]
          split
          · rename_i hskip
            exact checkAgentAccess_stage ⟨hcrl, request, arrivedAt, harrival, .inl hskip⟩ harrival
              (by simp)
          · exact .of_phase hcrl (by simp)

theorem afterKnownAgent_stage (h : NotOnCrl d s number claims)
    (harrival : s.arrivals[number]? = some (request, arrivedAt)) (isKnown : Option Bool) :
    Stage d s number 5 (afterKnownAgent s number request claims isKnown) := by
  have hlater := extends_record s number (.isAgentKnown claims.sub isKnown)
  refine .of_record (.isAgentKnown claims.sub isKnown) ?_
    ⟨claims, rfl, h.later hlater⟩ (Nat.le_refl _)
  cases isKnown with
  | none => exact .of_reject _ (by simp)
  | some answer =>
      cases answer with
      | false => exact .of_reject _ (by simp)
      | true =>
          refine checkAgentAccess_stage ⟨h.later hlater, request, arrivedAt, harrival, .inr ?_⟩
            harrival (by simp)
          exact mem_log_record ..

theorem afterAgentAuth_stage {accessToken : JsString} (h : Known d s number claims)
    (htoken : HasAccessToken s number accessToken) (status : Option ℕ) :
    Stage d s number 6 (afterAgentAuth s number claims accessToken status) := by
  have hlater := extends_record s number
    (.validateAgentAccess claims.sub claims.jti accessToken status)
  refine .of_record (.validateAgentAccess claims.sub claims.jti accessToken status) ?_
    ⟨claims, rfl, rfl, h.later hlater, htoken.later hlater⟩ (Nat.le_refl _)
  cases status with
  | none => exact .of_reject _ (by simp)
  | some status =>
      simp only [afterAgentAuth]
      split
      · exact .of_reject _ (by simp)
      · split
        · rename_i hok
          subst hok
          obtain ⟨request, arrivedAt, harrival, haccess⟩ := htoken
          refine passOn_stage ⟨h.later hlater, request, arrivedAt, harrival, fun _ => ?_⟩
            (by simp)
          exact ⟨accessToken, haccess, mem_log_record ..⟩
        · exact .of_reject _ (by simp)

end

/-! ## Runs -/

section
variable {p q : Pool Shared Call} {c c' : Call}

/-- The pool between its moves: a request is the call with its number. -/
structure PoolOk (d : Deployment α) (p : Pool Shared Call) : Prop where
  cache_ok : CacheOk p.shared
  numbers : p.calls.filterMap Call.number = List.range p.shared.arrivals.length
  phase_ok : ∀ call ∈ p.calls, ∀ number ∈ call.number, PhaseOk d p.shared number call.phase
  justified : ∀ entry ∈ p.shared.log, Justified d p.shared entry.1 entry.2
  log_lt : ∀ entry ∈ p.shared.log, entry.1 < p.shared.arrivals.length
  sorted : ∀ number, (p.shared.stages number).Pairwise (· < ·)
  behind : ∀ call ∈ p.calls, ∀ number ∈ call.number, ∀ stage ∈ p.shared.stages number,
    stage < call.phase.stage

theorem poolOk_fresh (d : Deployment α) (now : ℕ) : PoolOk d (fresh now) where
  cache_ok := by constructor <;> simp [fresh]
  numbers := rfl
  phase_ok _ h := by cases h
  justified _ h := by cases h
  log_lt _ h := by cases h
  sorted _ := List.Pairwise.nil
  behind _ h := by cases h

/-- Two calls with one number are one call. -/
theorem PoolOk.index_unique (hp : PoolOk d p) {i j : ℕ} (hc : p.calls[i]? = some c)
    (hc' : p.calls[j]? = some c') (hnumber : c.number = some number)
    (hnumber' : c'.number = some number) : i = j := by
  have hnodup : (p.calls.filterMap Call.number).Nodup := by
    rw [hp.numbers]
    exact List.nodup_range
  have hpairwise := List.pairwise_filterMap.mp hnodup
  rw [List.pairwise_iff_getElem] at hpairwise
  obtain ⟨hi, rfl⟩ := List.getElem?_eq_some_iff.mp hc
  obtain ⟨hj, rfl⟩ := List.getElem?_eq_some_iff.mp hc'
  by_contra hij
  rcases Nat.lt_or_gt_of_ne hij with hlt | hlt
  · exact hpairwise i j hi hj hlt number hnumber number hnumber' rfl
  · exact hpairwise j i hj hi hlt number hnumber' number hnumber rfl

theorem PoolOk.number_lt (hp : PoolOk d p) (hc : c ∈ p.calls) (hnumber : c.number = some number) :
    number < p.shared.arrivals.length := by
  have hmem : number ∈ p.calls.filterMap Call.number := List.mem_filterMap.mpr ⟨c, hc, hnumber⟩
  rw [hp.numbers] at hmem
  exact List.mem_range.mp hmem

/-! ### The log of one request -/

section
variable {entries : List (ℕ × Effect)} (hlog : s'.log = s.log ++ entries)
  (hentries : ∀ entry ∈ entries, entry.1 = number)
include hlog hentries

theorem stages_self : s'.stages number = s.stages number ++ entries.map fun entry => entry.2.stage := by
  have hall : entries.filter (fun entry => decide (entry.1 = number)) = entries :=
    List.filter_eq_self.mpr fun entry hentry => decide_eq_true (hentries entry hentry)
  rw [Shared.stages, hlog, List.filter_append, hall, List.map_append, Shared.stages]

theorem stages_of_ne {other : ℕ} (hne : other ≠ number) : s'.stages other = s.stages other := by
  have hnone : entries.filter (fun entry => decide (entry.1 = other)) = [] := by
    rw [List.filter_eq_nil_iff]
    intro entry hentry
    simp [hentries entry hentry, hne.symm]
  rw [Shared.stages, hlog, List.filter_append, hnone, List.append_nil, Shared.stages]

end

/-! ### One move -/

/-- The piece of code of one request leaves the others as they are. -/
theorem PoolOk.advance (hp : PoolOk d p) {stage : ℕ} {calls : List Call}
    (hlater : Extends p.shared t) (hcache : CacheOk t) (hsame : t.log = p.shared.log)
    (h : Stage d t number stage (s', c'))
    (hbehind : ∀ before ∈ p.shared.stages number, before < stage)
    (hlt : number < s'.arrivals.length)
    (hnumbers : calls.filterMap Call.number = List.range s'.arrivals.length)
    (hcalls : ∀ call ∈ calls, call = c' ∨ call ∈ p.calls ∧ call.number ≠ some number) :
    PoolOk d ⟨s', calls⟩ := by
  have hextends := hlater.trans h.later
  obtain ⟨entries, hlog, hsorted, hentries⟩ := h.appended
  rw [hsame] at hlog
  have hold : ∀ entry ∈ t.log, entry ∈ p.shared.log := fun _ hentry => hsame ▸ hentry
  have hown : ∀ entry ∈ entries, entry.1 = number := fun entry hentry => (hentries entry hentry).1
  refine ⟨h.cache_ok hcache, hnumbers, ?_, ?_, ?_, ?_, ?_⟩
  · intro call hcall other hother
    rcases hcalls call hcall with rfl | ⟨hmem, _⟩
    · obtain rfl := Option.some.inj (h.number_eq.symm.trans hother)
      exact h.phase_ok
    · exact (hp.phase_ok call hmem other hother).later hextends
  · intro entry hentry
    rcases h.justified entry hentry with hbefore | ⟨rfl, hnew⟩
    · exact (hp.justified entry (hold entry hbefore)).later hextends
    · exact hnew
  · intro entry hentry
    rcases h.justified entry hentry with hbefore | ⟨rfl, _⟩
    · exact (hp.log_lt entry (hold entry hbefore)).trans_le hextends.arrivals_prefix.length_le
    · exact hlt
  · intro other
    by_cases hother : other = number
    · subst hother
      rw [stages_self hlog hown, List.pairwise_append]
      refine ⟨hp.sorted other, hsorted, ?_⟩
      intro before hbefore after hafter
      obtain ⟨entry, hentry, rfl⟩ := List.mem_map.mp hafter
      exact (hbehind before hbefore).trans_le (hentries entry hentry).2.1
    · rw [stages_of_ne hlog hown hother]
      exact hp.sorted other
  · intro call hcall other hother before hbefore
    rcases hcalls call hcall with rfl | ⟨hmem, hne⟩
    · obtain rfl := Option.some.inj (h.number_eq.symm.trans hother)
      rw [stages_self hlog hown] at hbefore
      rcases List.mem_append.mp hbefore with hearlier | hnew
      · exact (hbehind before hearlier).trans_le h.stage_le
      · obtain ⟨entry, hentry, rfl⟩ := List.mem_map.mp hnew
        exact (hentries entry hentry).2.2
    · have hdiffers : other ≠ number := by
        rintro rfl
        exact hne hother
      rw [stages_of_ne hlog hown hdiffers] at hbefore
      exact hp.behind call hmem other hother before hbefore

/-- A new request. -/
theorem PoolOk.arrive (hp : PoolOk d p) {request : HttpRequest}
    (h : startRequest d p.shared request = (s', c')) : PoolOk d ⟨s', p.calls ++ [c']⟩ := by
  have hstage := startRequest_stage (d := d) hp.cache_ok request
  rw [h] at hstage
  have hnumber : c'.number = some p.shared.arrivals.length := hstage.number_eq
  have hlength : s'.arrivals.length = p.shared.arrivals.length + 1 := by
    rw [hstage.arrivals_eq, Shared.arrive, List.length_append, List.length_singleton]
  refine hp.advance (extends_arrive _ request) (hp.cache_ok.arrive request) rfl hstage ?_
    (by omega) ?_ ?_
  · intro before hbefore
    obtain ⟨entry, hentry, _⟩ := List.mem_map.mp hbefore
    obtain ⟨hmem, hnumber⟩ := List.mem_filter.mp hentry
    exact absurd (of_decide_eq_true hnumber) (hp.log_lt entry hmem).ne
  · rw [List.filterMap_append, hp.numbers, hlength, List.range_succ]
    simp [hnumber]
  · intro call hcall
    rcases List.mem_append.mp hcall with hold | hnew
    · refine .inr ⟨hold, ?_⟩
      intro hsame
      exact absurd (hp.number_lt hold hsame) (Nat.lt_irrefl _)
    · exact .inl (List.mem_singleton.mp hnew)

/-- What is not done for a request. -/
theorem PoolOk.other (hp : PoolOk d p) (hlater : Extends p.shared s') (hcache : CacheOk s')
    (harrivals : s'.arrivals = p.shared.arrivals) (hlog : s'.log = p.shared.log)
    (hnumber : c'.number = none) : PoolOk d ⟨s', p.calls ++ [c']⟩ := by
  have hstages : ∀ number, s'.stages number = p.shared.stages number := by
    intro number
    rw [Shared.stages, hlog, Shared.stages]
  have hcalls : ∀ call ∈ p.calls ++ [c'], ∀ number ∈ call.number, call ∈ p.calls := by
    intro call hcall number hsome
    rcases List.mem_append.mp hcall with hold | hnew
    · exact hold
    · obtain rfl := List.mem_singleton.mp hnew
      rw [hnumber] at hsome
      cases hsome
  refine ⟨hcache, ?_, ?_, ?_, ?_, ?_, ?_⟩
  · simp [hp.numbers, hnumber, harrivals]
  · intro call hcall number hsome
    exact (hp.phase_ok call (hcalls call hcall number hsome) number hsome).later hlater
  · intro entry hentry
    exact (hp.justified entry (hlog ▸ hentry)).later hlater
  · intro entry hentry
    rw [harrivals]
    exact hp.log_lt entry (hlog ▸ hentry)
  · intro number
    rw [hstages]
    exact hp.sorted number
  · intro call hcall number hsome before hbefore
    rw [hstages] at hbefore
    exact hp.behind call (hcalls call hcall number hsome) number hsome before hbefore

theorem PoolOk.start (hp : PoolOk d p) {input : Input}
    (h : start d p.shared input = some (s', c')) : PoolOk d ⟨s', p.calls ++ [c']⟩ := by
  cases input with
  | request request => exact hp.arrive (Option.some.inj h)
  | crlFetchesKeys response =>
      simp only [AuthMiddleware.start] at h
      split at h
      · cases h
        exact hp.other .rfl hp.cache_ok rfl rfl rfl
      · rename_i t keys hstore
        cases h
        obtain ⟨hlater, hcache, harrivals, hlog⟩ := extends_storeKeys hstore
        exact hp.other hlater (hcache hp.cache_ok) harrivals hlog rfl
  | tick now =>
      simp only [AuthMiddleware.start, Option.ite_none_right_eq_some, Option.some.injEq, Prod.mk.injEq] at h
      obtain ⟨hnow, rfl, rfl⟩ := h
      refine hp.other ⟨hnow, fun _ h => h, List.prefix_refl _, fun _ h => h⟩ ?_ rfl rfl rfl
      refine ⟨hp.cache_ok.cache_mem, ?_, ?_⟩
      · intro cache hcache
        exact (hp.cache_ok.fetched_le cache hcache).trans hnow
      · intro arrival harrival
        exact (hp.cache_ok.arrived_le arrival harrival).trans hnow

/-- **A resumed request** is at one of its stages. -/
theorem resume_stage (hs : CacheOk s) (hnumber : c.number = some number)
    (hphase : PhaseOk d s number c.phase) {answer : Answer}
    (h : resume d s c answer = some (s', c')) :
    Stage d s number c.phase.stage (s', c') := by
  simp only [resume, Option.bind_eq_bind, Option.bind_eq_some_iff] at h
  obtain ⟨other, hother, ⟨request, arrivedAt⟩, harrival, h⟩ := h
  obtain rfl := Option.some.inj (hnumber.symm.trans hother)
  obtain ⟨_, phase⟩ := c
  simp only at h hphase ⊢
  split at h
  · rename_i token forceRefresh response
    obtain ⟨_, _, harrival', htoken⟩ := hphase
    cases harrival.symm.trans harrival'
    rw [← Option.some.inj h]
    refine afterKeys_stage hs harrival htoken forceRefresh ?_ response
    cases forceRefresh <;> simp
  · rw [← Option.some.inj h]
    exact afterNonce_stage hphase _ _
  · rw [← Option.some.inj h]
    exact afterTrustState_stage hphase _
  · rw [← Option.some.inj h]
    exact afterCrl_stage hphase harrival _
  · rw [← Option.some.inj h]
    exact afterKnownAgent_stage hphase harrival _
  · rw [← Option.some.inj h]
    exact afterAgentAuth_stage hphase.1 hphase.2 _
  · cases h

theorem PoolOk.resume (hp : PoolOk d p) {i : ℕ} {answer : Answer} (hc : p.calls[i]? = some c)
    (h : resume d p.shared c answer = some (s', c')) : PoolOk d ⟨s', p.calls.set i c'⟩ := by
  have hmem := List.mem_of_getElem? hc
  obtain ⟨number, hnumber⟩ : ∃ number, c.number = some number := by
    simp only [AuthMiddleware.resume, Option.bind_eq_bind, Option.bind_eq_some_iff] at h
    obtain ⟨number, hnumber, _⟩ := h
    exact ⟨number, hnumber⟩
  have hstage := resume_stage hp.cache_ok hnumber (hp.phase_ok c hmem number hnumber) h
  have hnumber' : c'.number = some number := hstage.number_eq
  have hlength : s'.arrivals.length = p.shared.arrivals.length := by
    rw [hstage.arrivals_eq]
  refine hp.advance .rfl hp.cache_ok rfl hstage (hp.behind c hmem number hnumber) ?_ ?_ ?_
  · rw [hlength]
    exact hp.number_lt hmem hnumber
  · rw [hlength, ← hp.numbers]
    exact filterMap_set Call.number hc (hnumber'.trans hnumber.symm)
  · intro call hcall
    obtain ⟨j, hj⟩ := List.mem_iff_getElem?.mp hcall
    by_cases hij : i = j
    · subst hij
      rw [List.getElem?_set_self (List.getElem?_eq_some_iff.mp hc).1] at hj
      exact .inl (Option.some.inj hj).symm
    · rw [List.getElem?_set_ne hij] at hj
      refine .inr ⟨List.mem_of_getElem? hj, ?_⟩
      intro hsame
      exact hij (hp.index_unique hc hj hnumber hsame)

theorem poolOk_step (hp : PoolOk d p) {e : Move Input Answer}
    (h : (middleware d).step p e = some q) : PoolOk d q := by
  rcases Program.step_cases h with
    ⟨input, s, c, rfl, hstart, rfl⟩ | ⟨i, choice, c, s, c', rfl, hc, hresume, rfl⟩
  · exact hp.start hstart
  · exact hp.resume hc hresume

theorem poolOk_run {es : List (Move Input Answer)} {now : ℕ}
    (hrun : exec (middleware d).step (fresh now) es = some p) : PoolOk d p :=
  exec_invariant_of_step (PoolOk d) (fun _ _ _ hp h => poolOk_step hp h) (poolOk_fresh d now) hrun

/-! ### A request that goes on -/

/-- The token of the agent that signs the example's request. -/
def exampleAgentToken : AitToken where
  header := object [("alg", exampleText "EdDSA"), ("typ", exampleText "AIT"),
    ("kid", exampleText "k")]
  claims := [
    (js "iss", .str (js "https://a.example")),
    (js "sub", .str (js "did:cdi:a.example:agent:01HF7YAT00M5H6RVQ6Q6N1W30X")),
    (js "ownerDid", .str (js "did:cdi:a.example:human:01HF7YAT00M5H6RVQ6Q6N1W30X")),
    (js "name", .str (js "a")), (js "framework", .str (js "b")),
    (js "cnf", object [("jwk", some (object [("kty", exampleText "OKP"),
      ("crv", exampleText "Ed25519"),
      ("x", exampleText "A6EHv_POEL4dcN0Y50vAmWfk1jCbpQ1fHdyGZBJVMbg")]))]),
    (js "iat", .num 1700000000), (js "nbf", .num 1700000000), (js "exp", .num 1700003600),
    (js "jti", .str (js "01HF7YAT00M5H6RVQ6Q6N1W30X"))]
  verifies key := key = List.replicate 32 0

def exampleDeployment : Deployment Wire.IssuerAgreement.ExampleUrl where
  toLowerCase := id
  api := Wire.IssuerAgreement.exampleUrlApi
  jose := exampleJose
  crypto := exampleCrypto
  readToken token := if token = js "header.claims.signature" then some exampleAgentToken else none
  registryUrl := js "https://a.example"
  maxTimestampSkewSeconds := DEFAULT_MAX_TIMESTAMP_SKEW_SECONDS
  registryKeysCacheTtlMs := DEFAULT_REGISTRY_KEYS_CACHE_TTL_MS

def exampleHttpRequest : HttpRequest where
  path := "/hooks/agent"
  method := NonceReplay.exampleRequest.method
  pathWithQuery := NonceReplay.exampleRequest.pathWithQuery
  body := []
  authorization := some (js "Claw header.claims.signature")
  agentAccess := none
  timestamp := NonceReplay.exampleRequest.timestamp
  nonce := NonceReplay.exampleRequest.nonce
  bodySha256 := NonceReplay.exampleRequest.bodySha256
  proof := NonceReplay.exampleRequest.proof
  origin := Wire.IssuerAgreement.exampleRequest

/-- The keys are fetched, and all checks pass. -/
def exampleRun : List (Move Input Answer) :=
  [.start (.request exampleHttpRequest),
    .resume 0 (.registryKeys (.ok [⟨js "k", List.replicate 43 0x41, true⟩])),
    .resume 0 (.nonce (some true)), .resume 0 (.trustState (some false)),
    .resume 0 (.crl (.ok false)), .resume 0 (.knownAgent (some true))]

def exampleAuthContext : AuthContext where
  agentDid := js "did:cdi:a.example:agent:01HF7YAT00M5H6RVQ6Q6N1W30X"
  ownerDid := js "did:cdi:a.example:human:01HF7YAT00M5H6RVQ6Q6N1W30X"
  aitJti := js "01HF7YAT00M5H6RVQ6Q6N1W30X"
  issuer := js "https://a.example"
  cnfPublicKey := js "A6EHv_POEL4dcN0Y50vAmWfk1jCbpQ1fHdyGZBJVMbg"

theorem exampleRun_result :
    (exec (middleware exampleDeployment).step (fresh 1700000001000) exampleRun).map
      (fun p => (p.shared.stages 0, decide ((0, .next (some exampleAuthContext)) ∈ p.shared.log))) =
        some ([0, 2, 3, 4, 5, 7], true) := by
  decide

/-- **What the log rests on**, entry by entry. A request that goes on was authentic, its nonce was
new, neither its agent nor its token was revoked, and its agent and its access token were good where
this is asked. -/
theorem authenticated_run {es : List (Move Input Answer)} {now : ℕ}
    (hrun : exec (middleware d).step (fresh now) es = some p) {effect : Effect}
    (hlog : (number, effect) ∈ p.shared.log) : Justified d p.shared number effect :=
  (poolOk_run hrun).justified _ hlog

theorem exampleRun_authenticated : ∃ p,
    exec (middleware exampleDeployment).step (fresh 1700000001000) exampleRun = some p ∧
    (0, .next (some exampleAuthContext)) ∈ p.shared.log ∧
    Justified exampleDeployment p.shared 0 (.next (some exampleAuthContext)) := by
  obtain ⟨p, hrun, hresult⟩ := Option.map_eq_some_iff.mp exampleRun_result
  have hlog := of_decide_eq_true (Prod.mk.inj hresult).2
  exact ⟨p, hrun, hlog, authenticated_run hrun hlog⟩

/-- **The stages of a request**, each at most once and in their order. It has gone on exactly if it
is not answered with an error. -/
theorem stages_run {es : List (Move Input Answer)} {now : ℕ}
    (hrun : exec (middleware d).step (fresh now) es = some p) {call : Call} (hcall : call ∈ p.calls)
    (hnumber : call.number = some number) :
    (p.shared.stages number).Pairwise (· < ·) ∧
    (∀ stage ∈ p.shared.stages number, stage < call.phase.stage) ∧
    ((∃ auth, (number, .next auth) ∈ p.shared.log) ↔ call.phase = .answered (.ok ())) := by
  have hp := poolOk_run hrun
  have hbehind := hp.behind call hcall number hnumber
  refine ⟨hp.sorted number, hbehind, ?_, ?_⟩
  · rintro ⟨auth, hnext⟩
    have hmem : 7 ∈ p.shared.stages number :=
      List.mem_map.mpr ⟨_, List.mem_filter.mpr ⟨hnext, decide_eq_true rfl⟩, rfl⟩
    have hlt := hbehind 7 hmem
    cases hphase : call.phase with
    | registryKeys token forceRefresh => cases forceRefresh <;> simp [hphase] at hlt
    | nonce claims nonce nowMs => simp [hphase] at hlt
    | trustState claims => simp [hphase] at hlt
    | crl claims => simp [hphase] at hlt
    | knownAgent claims => simp [hphase] at hlt
    | agentAuth claims accessToken => simp [hphase] at hlt
    | answered result =>
        cases result with
        | error e => simp [hphase] at hlt
        | ok _ => rfl
  · intro hphase
    have hok := hp.phase_ok call hcall number hnumber
    rw [hphase] at hok
    exact hok

theorem exampleRun_stages : ∃ p call,
    exec (middleware exampleDeployment).step (fresh 1700000001000) exampleRun = some p ∧
    call ∈ p.calls ∧ call.number = some 0 ∧ call.phase = .answered (.ok ()) := by
  obtain ⟨p, hrun, hresult⟩ := Option.map_eq_some_iff.mp exampleRun_result
  have hlog := of_decide_eq_true (Prod.mk.inj hresult).2
  have hp := poolOk_run hrun
  have hmem : 0 ∈ p.calls.filterMap Call.number := by
    rw [hp.numbers]
    exact List.mem_range.mpr (hp.log_lt _ hlog)
  obtain ⟨call, hcall, hnumber⟩ := List.mem_filterMap.mp hmem
  exact ⟨p, call, hrun, hcall, hnumber, (stages_run hrun hcall hnumber).2.2.mp ⟨_, hlog⟩⟩

end

end Clawdentity.AuthMiddleware
