import Clawdentity.Proxy.CleanupAlarm
import Clawdentity.Proxy.RegistryEvents

/-!
# How long an agent stays revoked

A mark overwrites the marker of its agent, whatever time the old one had left; checks and
cleanups only remove markers that have expired. So an agent is revoked until the expiry of the
last mark, and where none has come since, until the expiry of the marker that was stored.

## Main definitions

* `acceptedMark` — the agent, the clock and the expiry of a mark that is stored.
* `RevokedUntil` — every check before a time answers that the agent is revoked.
* `revoked_until_iff` — when it still does after later operations.
-/

namespace Clawdentity.TrustState

open Js Lib PairingTicket Protocol

/-! ## Marks and checks -/

/-- `body.nowMs ?? nowUtcMs()`, where it is valid. -/
def ConfirmRequest.markerClock (request : TrustRequest) : Option ℤ :=
  (request.positiveInt "nowMs").map fun nowMs => nowMs.getD request.nowUtcMs

/-- The agent, the clock and the expiry of a mark, where it is accepted. -/
def acceptedMark (request : TrustRequest) : Option (JsString × ℤ × ℤ) := do
  let agentDid ← request.revokedAgent
  let nowMs ← request.markerClock
  let ttlMs ← request.positiveInt "ttlMs"
  let expiresAtMs := nowMs + ttlMs.getD REVOKED_AGENT_MARKER_TTL_MS
  if expiresAtMs ≤ MAX_SAFE_INTEGER ∧ nowMs < expiresAtMs then some (agentDid, nowMs, expiresAtMs)
  else none

/-- The agent and the clock of a check, where it is accepted. -/
def acceptedCheck (request : TrustRequest) : Option (JsString × ℤ) := do
  let agentDid ← request.revokedAgent
  let nowMs ← request.markerClock
  some (agentDid, nowMs)

/-- The clock with which an operation reads the markers. -/
def Operation.markerClock : Operation → Option ℤ
  | .markAgentRevoked request => (acceptedMark request).map fun mark => mark.2.1
  | .isAgentRevoked request => (acceptedCheck request).map fun check => check.2
  | .alarm nowUtcMs => some nowUtcMs
  | _ => none

/-- The expiry that an operation gives to the marker of an agent. -/
def Operation.marks (agentDid : JsString) : Operation → Option ℤ
  | .markAgentRevoked request =>
      ((acceptedMark request).filter fun mark => mark.1 = agentDid).map fun mark => mark.2.2
  | _ => none

/-- The expiry of the last mark of an agent. -/
def lastMark (agentDid : JsString) (ops : List Operation) : Option ℤ :=
  (ops.filterMap (Operation.marks agentDid)).getLast?

/-- The expiry of the stored marker, or 0. -/
def markedUntil (s : TrustStorage) (agentDid : JsString) : ℤ :=
  ((loadRevokedAgents s).lookup agentDid).getD 0

section
variable (platform : Platform)

/-- The storage after operations. -/
def performAll (s : TrustStorage) (ops : List Operation) : TrustStorage :=
  ops.foldl (fun s op => (perform platform s op).1) s

/-- Every check of the agent at the time answers that it is revoked. -/
def RevokedAt (s : TrustStorage) (agentDid : JsString) (t : ℤ) : Prop :=
  ∀ request : TrustRequest, acceptedCheck request = some (agentDid, t) →
    (handleIsAgentRevoked platform s request).2 = .revoked true

/-- The agent is revoked from a time on and before another one. -/
def RevokedUntil (s : TrustStorage) (agentDid : JsString) (nowMs untilMs : ℤ) : Prop :=
  ∀ t, nowMs ≤ t → t < untilMs → RevokedAt platform s agentDid t

end

section
variable {platform : Platform} {s : TrustStorage} {request : TrustRequest} {agentDid : JsString}
  {nowMs laterMs untilMs t expiresAtMs : ℤ} {op : Operation} {ops : List Operation}

/-! ## What a check answers -/

theorem markerClock_nonneg (h : request.markerClock = some t) : 0 ≤ t := by
  obtain ⟨value, hvalue, rfl⟩ := Option.map_eq_some_iff.mp h
  cases value with
  | none => exact Int.natCast_nonneg _
  | some n => exact (positiveInt_eq_some hvalue n rfl).le

/-- The marker that is left where the expired ones are dropped. -/
theorem lookup_prune (markers : Table JsString ℤ) :
    (pruneExpiredRevokedAgents markers nowMs).lookup agentDid =
      (markers.lookup agentDid).filter fun e => nowMs < e := by
  apply Option.ext
  intro e
  rw [pruneExpiredRevokedAgents, Table.lookup_keep_eq_some, Option.filter_eq_some_iff]

theorem acceptedCheck_eq_some (h : acceptedCheck request = some (agentDid, t)) :
    isAgentDid agentDid = true ∧ 0 ≤ t := by
  simp only [acceptedCheck, Option.bind_eq_bind, Option.bind_eq_some_iff] at h
  obtain ⟨did, hdid, clock, hclock, h⟩ := h
  cases h
  exact ⟨(Option.filter_eq_some_iff.mp hdid).2, markerClock_nonneg hclock⟩

/-- What `handleIsAgentRevoked` does, by the check. -/
theorem handleIsAgentRevoked_eq (s : TrustStorage) (request : TrustRequest) :
    handleIsAgentRevoked platform s request =
      match acceptedCheck request with
      | some (agentDid, nowMs) =>
          (if (loadRevokedAgents s).entries.any fun e => e.2 ≤ nowMs then
            saveRevokedAgentsAndSchedule platform s
              (pruneExpiredRevokedAgents (loadRevokedAgents s) nowMs) else s,
            .revoked (nowMs < ((pruneExpiredRevokedAgents (loadRevokedAgents s) nowMs).lookup
              agentDid).getD 0))
      | none => (s, .error invalidRevokedCheckBody) := by
  unfold handleIsAgentRevoked acceptedCheck ConfirmRequest.markerClock
  cases request.revokedAgent with
  | none => rfl
  | some agentDid =>
      cases request.positiveInt "nowMs" with
      | none => rfl
      | some nowMs => rfl

/-- **A check answers** whether its clock is before the expiry of the marker. -/
theorem isAgentRevoked_answer (h : acceptedCheck request = some (agentDid, t)) :
    (handleIsAgentRevoked platform s request).2 = .revoked (t < markedUntil s agentDid) := by
  have hpositive := (acceptedCheck_eq_some h).2
  rw [handleIsAgentRevoked_eq, h]
  simp only [lookup_prune, markedUntil]
  refine congrArg Reply.revoked (decide_eq_decide.mpr ?_)
  cases (loadRevokedAgents s).lookup agentDid with
  | none => exact Iff.rfl
  | some e =>
      by_cases hlive : t < e
      · rw [Option.filter_some, if_pos (decide_eq_true hlive)]
      · rw [Option.filter_some, if_neg (by simpa using hlive)]
        exact iff_of_false (not_lt.mpr hpositive) hlive

/-- The agent can be asked about. -/
theorem exists_check (hdid : isAgentDid agentDid = true) (ht : 0 ≤ t) :
    ∃ request : TrustRequest, acceptedCheck request = some (agentDid, t) := by
  refine ⟨⟨some (object [("agentDid", some (.str agentDid))]), t.toNat⟩, ?_⟩
  have hfield : ConfirmRequest.field
      ⟨some (object [("agentDid", some (.str agentDid))]), t.toNat⟩ "nowMs" = none := by
    simp [ConfirmRequest.field, get?_object, Json.lookupField]
  simp only [acceptedCheck, RegistryEvents.revokedAgent_body hdid, ConfirmRequest.markerClock,
    ConfirmRequest.positiveInt, hfield, Option.map_some, Option.getD_none,
    Int.toNat_of_nonneg ht]
  rfl

theorem revokedAt_iff (hdid : isAgentDid agentDid = true) (ht : 0 ≤ t) :
    RevokedAt platform s agentDid t ↔ t < markedUntil s agentDid := by
  constructor
  · intro h
    obtain ⟨request, hcheck⟩ := exists_check hdid ht
    have hanswer := h request hcheck
    rw [isAgentRevoked_answer hcheck, Reply.revoked.injEq] at hanswer
    exact of_decide_eq_true hanswer
  · intro h request hcheck
    rw [isAgentRevoked_answer hcheck, decide_eq_true h]

/-! ## What an operation does to the marker -/

/-- What `handleMarkAgentRevoked` does, by the mark. -/
theorem handleMarkAgentRevoked_eq (s : TrustStorage) (request : TrustRequest) :
    handleMarkAgentRevoked platform s request =
      match acceptedMark request with
      | some (agentDid, nowMs, expiresAtMs) =>
          (saveRevokedAgentsAndSchedule platform s
            ((pruneExpiredRevokedAgents (loadRevokedAgents s) nowMs).insert agentDid expiresAtMs),
            .ok)
      | none => (s, .error invalidRevokeBody) := by
  unfold handleMarkAgentRevoked acceptedMark ConfirmRequest.markerClock
  cases request.revokedAgent with
  | none => rfl
  | some agentDid =>
      cases request.positiveInt "nowMs" with
      | none => rfl
      | some nowMs =>
          cases request.positiveInt "ttlMs" with
          | none => rfl
          | some ttlMs =>
              simp only [Option.map_some, Option.bind_eq_bind, Option.bind_some]
              split
              · rfl
              · rfl

theorem acceptedMark_eq_some (h : acceptedMark request = some (agentDid, t, expiresAtMs)) :
    isAgentDid agentDid = true ∧ 0 ≤ t ∧ t < expiresAtMs := by
  simp only [acceptedMark, Option.bind_eq_bind, Option.bind_eq_some_iff] at h
  obtain ⟨did, hdid, clock, hclock, ttlMs, _, h⟩ := h
  split at h
  · rename_i haccepted
    cases h
    exact ⟨(Option.filter_eq_some_iff.mp hdid).2, markerClock_nonneg hclock, haccepted.2⟩
  · cases h

theorem finishConfirm_revoked (s : TrustStorage) (v : Verifying) :
    (finishConfirm platform s v).1.revokedAgents = s.revokedAgents := by
  unfold finishConfirm
  rcases confirmFinish_cases platform ⟨s, []⟩ v with
    ⟨e, heq⟩ | ⟨_, heq⟩ | ⟨_, result, heq⟩
  · rw [heq]
  · rw [heq]
    rfl
  · rw [heq]
    rfl

/-- **One operation**: the marker is the one that it sets, or the old one if it has not expired. -/
theorem lookup_perform (s : TrustStorage) (op : Operation) (agentDid : JsString) :
    (loadRevokedAgents (perform platform s op).1).lookup agentDid =
      (op.marks agentDid).or (((loadRevokedAgents s).lookup agentDid).filter fun e =>
        op.markerClock.all fun c => c < e) := by
  have hsame : ∀ t : TrustStorage, t.revokedAgents = s.revokedAgents →
      (loadRevokedAgents t).lookup agentDid =
        (none : Option ℤ).or (((loadRevokedAgents s).lookup agentDid).filter fun _ => true) := by
    intro t ht
    rw [Option.none_or, loadRevokedAgents_congr ht]
    cases (loadRevokedAgents t).lookup agentDid <;> rfl
  cases op with
  | markAgentRevoked request =>
      simp only [perform, handleMarkAgentRevoked_eq, Operation.marks, Operation.markerClock]
      cases hmark : acceptedMark request with
      | none => exact hsame s rfl
      | some mark =>
          obtain ⟨did, nowMs, expiresAtMs⟩ := mark
          obtain ⟨hdid, hclock, hlater⟩ := acceptedMark_eq_some hmark
          have hvalid := ((validMarkers_load s).prune nowMs).insert
            (isNonEmptyString_of_agentDid hdid) (hclock.trans_lt hlater)
          simp only [loadRevokedAgents_save platform s hvalid]
          by_cases hsameDid : did = agentDid
          · subst hsameDid
            rw [AList.lookup_insert, Option.filter_some, if_pos (decide_eq_true rfl)]
            rfl
          · rw [AList.lookup_insert_ne (Ne.symm hsameDid), lookup_prune, Option.filter_some,
              if_neg (by simpa using hsameDid)]
            rfl
  | isAgentRevoked request =>
      simp only [perform, handleIsAgentRevoked_eq, Operation.marks, Operation.markerClock]
      cases hcheck : acceptedCheck request with
      | none => exact hsame s rfl
      | some check =>
          have hpruned : loadRevokedAgents (if (loadRevokedAgents s).entries.any
              fun e => e.2 ≤ check.2 then saveRevokedAgentsAndSchedule platform s
                (pruneExpiredRevokedAgents (loadRevokedAgents s) check.2) else s) =
              pruneExpiredRevokedAgents (loadRevokedAgents s) check.2 := by
            split
            · exact loadRevokedAgents_save platform s ((validMarkers_load s).prune _)
            · rename_i hlive
              exact (pruneExpiredRevokedAgents_eq_self hlive).symm
          simp only [hpruned, lookup_prune]
          rfl
  | alarm nowUtcMs =>
      rw [perform, loadRevokedAgents_cleanup, lookup_prune]
      rfl
  | create request =>
      refine hsame _ ?_
      rw [perform, handleCreatePairingTicket]
      split <;> rfl
  | confirm request =>
      refine hsame _ ?_
      rw [perform, handleConfirmPairingTicket]
      split
      · exact finishConfirm_revoked s _
      · rfl
  | status request => exact hsame _ (status_revoked platform request s)
  | upsertPair request =>
      refine hsame _ ?_
      rw [perform, handleUpsertPair]
      split <;> rfl
  | isPairAllowed request => exact hsame _ rfl
  | isAgentKnown request => exact hsame _ rfl

theorem markerClock_op_nonneg {c : ℤ} (h : c ∈ op.markerClock) : 0 ≤ c := by
  cases op with
  | markAgentRevoked request =>
      obtain ⟨mark, hmark, rfl⟩ := Option.map_eq_some_iff.mp h
      exact (acceptedMark_eq_some hmark).2.1
  | isAgentRevoked request =>
      obtain ⟨check, hcheck, rfl⟩ := Option.map_eq_some_iff.mp h
      exact (acceptedCheck_eq_some hcheck).2
  | alarm nowUtcMs =>
      cases h
      exact Int.natCast_nonneg _
  | _ => cases h

/-- What a check after the operation sees. -/
theorem lt_markedUntil_perform (hclock : ∀ c ∈ op.markerClock, c ≤ t) :
    t < markedUntil (perform platform s op).1 agentDid ↔
      t < (op.marks agentDid).getD (markedUntil s agentDid) := by
  rw [markedUntil, lookup_perform]
  cases op.marks agentDid with
  | some e => exact Iff.rfl
  | none =>
      rw [Option.none_or, Option.getD_none, markedUntil]
      cases (loadRevokedAgents s).lookup agentDid with
      | none => exact Iff.rfl
      | some e =>
          rw [Option.filter_some]
          split
          · exact Iff.rfl
          · rename_i hexpired
            obtain ⟨c, hc, hle⟩ : ∃ c ∈ op.markerClock, e ≤ c := by
              simpa [Option.all_eq_true] using hexpired
            have hpositive := markerClock_op_nonneg hc
            have hct := hclock c hc
            exact iff_of_false (by simp only [Option.getD_none]; omega)
              (by simp only [Option.getD_some]; omega)

/-! ## Whole sequences -/

theorem lastMark_append (agentDid : JsString) (ops : List Operation) (op : Operation) :
    lastMark agentDid (ops ++ [op]) = (op.marks agentDid).or (lastMark agentDid ops) := by
  rw [lastMark, List.filterMap_append]
  cases hmark : op.marks agentDid with
  | none => simp [lastMark, hmark]
  | some e => simp [hmark]

/-- **What a check after operations sees**: the last mark, or the marker before them. -/
theorem lt_markedUntil_performAll (s : TrustStorage)
    (hclock : ∀ op ∈ ops, ∀ c ∈ op.markerClock, c ≤ t) :
    t < markedUntil (performAll platform s ops) agentDid ↔
      t < (lastMark agentDid ops).getD (markedUntil s agentDid) := by
  induction ops using List.reverseRecOn with
  | nil => exact Iff.rfl
  | append_singleton ops op ih =>
      have hbefore := ih fun op' hop' => hclock op' (List.mem_append_left _ hop')
      have hlast := hclock op (List.mem_append_right _ List.mem_cons_self)
      rw [performAll, List.foldl_append, lastMark_append]
      refine (lt_markedUntil_perform hlast).trans ?_
      cases op.marks agentDid with
      | none => exact hbefore
      | some e => exact Iff.rfl

/-- A mark is one of an agent DID, at a clock that is not negative. -/
theorem mem_of_lastMark (h : lastMark agentDid ops = some expiresAtMs) :
    isAgentDid agentDid = true ∧ ∃ op ∈ ops, ∃ c ∈ op.markerClock, 0 ≤ c := by
  obtain ⟨op, hop, hmark⟩ := List.mem_filterMap.mp (List.mem_of_getLast? h)
  cases op with
  | markAgentRevoked request =>
      obtain ⟨mark, hmark, _⟩ := Option.map_eq_some_iff.mp hmark
      obtain ⟨haccepted, hsame⟩ := Option.filter_eq_some_iff.mp hmark
      obtain ⟨hdid, hclock, _⟩ := acceptedMark_eq_some haccepted
      refine ⟨of_decide_eq_true hsame ▸ hdid, _, hop, mark.2.1, ?_, hclock⟩
      rw [Operation.markerClock, haccepted]
      rfl
  | _ => cases hmark

/-- **Later operations and a revocation.** An agent that is revoked before a time is still
revoked before it after any operations whose clocks have been reached if and only if the last
mark of the agent among them, if any, does not expire earlier. -/
theorem revoked_until_iff (hnow : nowMs ≤ laterMs)
    (hclock : ∀ op ∈ ops, ∀ c ∈ op.markerClock, c ≤ laterMs)
    (h : RevokedUntil platform s agentDid nowMs untilMs) :
    RevokedUntil platform (performAll platform s ops) agentDid laterMs untilMs ↔
      ∀ expiresAtMs ∈ lastMark agentDid ops, laterMs < untilMs → untilMs ≤ expiresAtMs := by
  have hclockAt : ∀ t, laterMs ≤ t → ∀ op ∈ ops, ∀ c ∈ op.markerClock, c ≤ t :=
    fun t ht op hop c hc => (hclock op hop c hc).trans ht
  constructor
  · intro hlater expiresAtMs hmark huntil
    obtain ⟨hdid, op, hop, c, hc, hpositive⟩ := mem_of_lastMark hmark
    by_contra hshort
    rw [not_le] at hshort
    have ht : laterMs ≤ max laterMs expiresAtMs := le_max_left ..
    have hrevoked := (revokedAt_iff hdid ((hpositive.trans (hclock op hop c hc)).trans ht)).mp
      (hlater _ ht (max_lt huntil hshort))
    rw [lt_markedUntil_performAll s (hclockAt _ ht), hmark, Option.getD_some] at hrevoked
    exact absurd hrevoked (not_lt.mpr (le_max_right ..))
  · intro hmarks t ht huntil request hcheck
    obtain ⟨hdid, hpositive⟩ := acceptedCheck_eq_some hcheck
    refine (revokedAt_iff hdid hpositive).mpr ?_ request hcheck
    rw [lt_markedUntil_performAll s (hclockAt t ht)]
    cases hmark : lastMark agentDid ops with
    | none => exact (revokedAt_iff hdid hpositive).mp (h t (hnow.trans ht) huntil)
    | some e => exact huntil.trans_le (hmarks e hmark (ht.trans_lt huntil))

end

/-! ### A revocation without an end -/

section Example

def exampleRevokedAgent : JsString :=
  js "did:cdi:registry.example.com:agent:01HF7YAT00W6W7CM7N3W5FDXC0"

/-- The markers of an older version. -/
def exampleOldStorage : TrustStorage :=
  { TrustStorage.empty with revokedAgents := .agents [.str exampleRevokedAgent] }

/-- A mark with the usual lifetime. -/
def exampleMark (nowUtcMs : ℕ) : Operation :=
  .markAgentRevoked ⟨some (object [("agentDid", some (.str exampleRevokedAgent))]), nowUtcMs⟩

/-- **A mark shortens a revocation**: an agent of an older version's array was revoked without
an end, and after a mark it is revoked for thirty days. -/
theorem not_revocation_kept :
    ¬ ∀ (platform : Platform) (s : TrustStorage) (ops : List Operation) (agentDid : JsString)
      (nowMs laterMs untilMs : ℤ),
      (nowMs :: ops.filterMap Operation.markerClock ++ [laterMs]).Pairwise (· ≤ ·) →
      RevokedUntil platform s agentDid nowMs untilMs →
      RevokedUntil platform (performAll platform s ops) agentDid laterMs untilMs := by
  intro h
  have hdid : isAgentDid exampleRevokedAgent = true := by decide +kernel
  have hbefore : RevokedUntil examplePlatform exampleOldStorage exampleRevokedAgent 1700000000000
      MAX_SAFE_INTEGER := by
    intro t ht huntil
    have hmarker : markedUntil exampleOldStorage exampleRevokedAgent = MAX_SAFE_INTEGER := by
      decide +kernel
    rw [revokedAt_iff hdid (by omega), hmarker]
    exact huntil
  have hafter := h examplePlatform exampleOldStorage [exampleMark 1700000000000]
    exampleRevokedAgent 1700000000000 1700000000000 MAX_SAFE_INTEGER (by decide +kernel) hbefore
    1800000000000 (by decide) (by decide)
  have hmarker : markedUntil (performAll examplePlatform exampleOldStorage
      [exampleMark 1700000000000]) exampleRevokedAgent = 1702592000000 := by
    decide +kernel
  rw [revokedAt_iff hdid (by decide), hmarker] at hafter
  exact absurd hafter (by decide)

/-- A second mark of the same lifetime, and a cleanup in between. -/
theorem exampleMarks_kept :
    RevokedUntil examplePlatform
      (performAll examplePlatform
        (performAll examplePlatform .empty [exampleMark 1700000000000])
        [.alarm 1700000050000, exampleMark 1700000100000])
      exampleRevokedAgent 1700000100000 1702592000000 := by
  have hdid : isAgentDid exampleRevokedAgent = true := by decide +kernel
  have hmarker : markedUntil (performAll examplePlatform .empty [exampleMark 1700000000000])
      exampleRevokedAgent = 1702592000000 := by
    decide +kernel
  have hbefore : RevokedUntil examplePlatform
      (performAll examplePlatform .empty [exampleMark 1700000000000]) exampleRevokedAgent
      1700000000000 1702592000000 := by
    intro t ht huntil
    rw [revokedAt_iff hdid (by omega), hmarker]
    exact huntil
  refine (revoked_until_iff (by decide) (by decide +kernel) hbefore).mpr ?_
  have hlast : lastMark exampleRevokedAgent [.alarm 1700000050000, exampleMark 1700000100000] =
      some 1702592100000 := by
    decide +kernel
  rw [hlast]
  rintro _ ⟨⟩ _
  decide

end Example

end Clawdentity.TrustState
