import Clawdentity.Protocol.Identifiers
import Clawdentity.Proxy.TicketSingleUse

/-!
# The operations of the trust state

The handlers of `ProxyTrustState` beside the confirmation: creating a ticket, its
status, the pairs, the revocation markers and the cleanup. The storage operations of a
handler run without a switch; only a confirmation waits, for its signature check.

## Main definitions

* `createdTicket`, `handleCreatePairingTicket` — what is stored for a new ticket.
* `handleGetPairingTicketStatus`, `handleUpsertPair`, `handleIsPairAllowed`,
  `handleIsAgentKnown`, `runAlarmCleanup`.
* `perform` — one completed operation.
-/

namespace Clawdentity.TrustState

open Js Lib Lib.Interleave PairingTicket

/-! ## Requests and replies -/

/-- Every request is a JSON body and the clock. -/
abbrev TrustRequest := ConfirmRequest

/-- A field of the body. -/
def ConfirmRequest.field (request : TrustRequest) (key : String) : Option (Json JsString) :=
  request.body.bind fun body => body.get? (js key)

/-- A field that is a text and not blank. -/
def ConfirmRequest.text (request : TrustRequest) (key : String) : Option JsString :=
  ((request.field key).bind Json.str?).filter isNonEmptyString

/-- `typeof body.nowMs === "number" ? body.nowMs : nowUtcMs()`. -/
def ConfirmRequest.nowMs (request : TrustRequest) : ℚ :=
  ((request.field "nowMs").bind Json.num?).getD request.nowUtcMs

inductive TicketStatus
  | pending (ticket : StoredPairingTicket)
  | confirmed (ticket : StoredConfirmedPairingTicket)
  deriving DecidableEq

inductive Reply
  | error (e : ErrorResponse)
  | created (kid : JsString) (ticket : StoredPairingTicket)
  | confirmed (kid : JsString) (result : ConfirmResult)
  | status (status : TicketStatus)
  | allowed (allowed : Bool)
  | known (known : Bool)
  | revoked (revoked : Bool)
  | ok
  deriving DecidableEq

/-! ## Creating a ticket -/

def invalidCreateBody : ErrorResponse :=
  ⟨"PROXY_PAIR_START_INVALID_BODY", "Pairing ticket create input is invalid", 400⟩

def blankResponder : ErrorResponse :=
  ⟨"PROXY_PAIR_START_INVALID_BODY", "allowResponderAgentDid must be a non-empty string", 400⟩

def invalidResponder : ErrorResponse :=
  ⟨"PROXY_PAIR_START_INVALID_BODY", "allowResponderAgentDid must be a valid agent DID", 400⟩

def callbackUnsupported : ErrorResponse :=
  ⟨"PROXY_PAIR_START_INVALID_BODY", "callbackUrl is no longer supported", 400⟩

def invalidExpiry : ErrorResponse :=
  ⟨"PROXY_PAIR_START_INVALID_BODY", "Pairing ticket expiry is invalid", 400⟩

/-- `allowResponderAgentDid` of the body, checked. -/
def parseAllowedResponder (value : Option (Json JsString)) :
    Except ErrorResponse (Option JsString) :=
  match value with
  | none => .ok none
  | some v =>
      match v.str?.filter isNonEmptyString with
      | none => .error blankResponder
      | some did =>
          if Protocol.isAgentDid (trim did) then .ok (some (trim did)) else .error invalidResponder

section
variable (platform : Platform)

/-- `parseNormalizedPairingTicket`, with the response of a text that is no ticket. -/
def readTicket (rawTicket : JsString) : Except ErrorResponse (JsString × PairingTicketPayload) :=
  match parseNormalizedPairingTicket platform rawTicket with
  | .ok parsed => .ok parsed
  | .error e => .error ⟨e.code, e.message, 400⟩

/-- The checks of `handleCreatePairingTicket`, and the ticket that passes them. -/
def createdTicket (request : TrustRequest) :
    Except ErrorResponse (JsString × StoredPairingTicket) := do
  let initiatorProfile ← (parsePeerProfile platform (request.field "initiatorProfile")).elim
    (.error invalidCreateBody) .ok
  let initiatorAgentDid ← (request.text "initiatorAgentDid").elim (.error invalidCreateBody) .ok
  let issuerProxyUrl ← (request.text "issuerProxyUrl").elim (.error invalidCreateBody) .ok
  let rawTicket ← (request.text "ticket").elim (.error invalidCreateBody) .ok
  let publicKeyX ← (request.text "publicKeyX").elim (.error invalidCreateBody) .ok
  let expiresAtMs ← ((request.field "expiresAtMs").bind Json.int?).elim
    (.error invalidCreateBody) .ok
  check (0 < expiresAtMs) invalidCreateBody
  let allowResponderAgentDid ← parseAllowedResponder (request.field "allowResponderAgentDid")
  check (request.field "callbackUrl").isNone callbackUnsupported
  let normalizedExpiresAtMs := normalizeExpiryToWholeSecond expiresAtMs
  let (ticket, parsedTicket) ← readTicket platform rawTicket
  check (parsedTicket.iss = issuerProxyUrl) issuerMismatch
  check (parsedTicket.exp * 1000 = normalizedExpiresAtMs) invalidExpiry
  check (request.nowMs < normalizedExpiresAtMs) ticketExpired
  return (parsedTicket.kid,
    { ticket, expiresAtMs := normalizedExpiresAtMs, initiatorAgentDid, initiatorProfile,
      issuerProxyUrl := parsedTicket.iss, publicKeyX := trim publicKeyX, allowResponderAgentDid })

/-- The loaded maps with a new pending ticket. -/
def ExpirableTrustState.withTicket (state : ExpirableTrustState) (kid : JsString)
    (ticket : StoredPairingTicket) : ExpirableTrustState where
  pairingTickets := state.pairingTickets.insert kid ticket
  confirmedPairingTickets := state.confirmedPairingTickets.erase kid

def handleCreatePairingTicket (s : TrustStorage) (request : TrustRequest) : TrustStorage × Reply :=
  match createdTicket platform request with
  | .error e => (s, .error e)
  | .ok (kid, ticket) =>
      (saveExpirableStateAndSchedule s ((loadExpirableState platform s).withTicket kid ticket),
        .created kid ticket)

/-! ## The status of a ticket -/

def invalidStatusBody : ErrorResponse :=
  ⟨"PROXY_PAIR_STATUS_INVALID_BODY", "Pairing ticket status input is invalid", 400⟩

/-- `saveExpirableStateAndSchedule` with the pending tickets only. -/
def savePairingTicketsAndSchedule (s : TrustStorage) (state : ExpirableTrustState) :
    TrustStorage :=
  { s with
    pairingTickets := state.pairingTickets
    alarmAt := nextCleanup state (loadRevokedAgents s) }

/-- `saveExpirableStateAndSchedule` with the confirmed tickets only. -/
def saveConfirmedTicketsAndSchedule (s : TrustStorage) (state : ExpirableTrustState) :
    TrustStorage :=
  { s with
    confirmedPairingTickets := state.confirmedPairingTickets
    alarmAt := nextCleanup state (loadRevokedAgents s) }

def handleGetPairingTicketStatus (s : TrustStorage) (request : TrustRequest) :
    TrustStorage × Reply :=
  match request.text "ticket" with
  | none => (s, .error invalidStatusBody)
  | some rawTicket =>
    match readTicket platform rawTicket with
    | .error e => (s, .error e)
    | .ok (ticket, parsedTicket) =>
      let state := loadExpirableState platform s
      let passed : Bool := ((parsedTicket.exp * 1000 : ℤ) : ℚ) ≤ request.nowMs
      match (state.pairingTickets.lookup parsedTicket.kid).filter fun e => e.ticket = ticket,
          (state.confirmedPairingTickets.lookup parsedTicket.kid).filter
            fun e => e.ticket = ticket with
      | some pending, _ =>
          if (pending.expiresAtMs : ℚ) ≤ request.nowMs || passed then
            (savePairingTicketsAndSchedule s
              { state with pairingTickets := state.pairingTickets.erase parsedTicket.kid },
              .error ticketExpired)
          else (s, .status (.pending pending))
      | none, some confirmed =>
          if (confirmed.expiresAtMs : ℚ) ≤ request.nowMs || passed then
            (saveConfirmedTicketsAndSchedule s
              { state with
                confirmedPairingTickets := state.confirmedPairingTickets.erase parsedTicket.kid },
              .error ticketExpired)
          else (s, .status (.confirmed confirmed))
      | none, none => (s, .error (if passed then ticketExpired else ticketNotFound))

/-! ## Confirming a ticket -/

def Call.reply : Call → Reply
  | .verifying _ => .ok
  | .confirmed kid result => .confirmed kid result
  | .rejected e => .error e

/-- `handleConfirmPairingTicket` after the wait, on the storage alone. -/
def finishConfirm (s : TrustStorage) (v : Verifying) : TrustStorage × Reply :=
  let r := confirmFinish platform ⟨s, []⟩ v
  (r.1.storage, r.2.reply)

/-- `handleConfirmPairingTicket` where nothing else runs during its wait. -/
def handleConfirmPairingTicket (s : TrustStorage) (request : TrustRequest) :
    TrustStorage × Reply :=
  match confirmStart platform s request with
  | .verifying v => finishConfirm platform s v
  | c => (s, c.reply)

end

/-! ## Pairs -/

def invalidUpsertBody : ErrorResponse :=
  ⟨"PROXY_PAIR_UPSERT_INVALID_BODY", "Pair upsert input is invalid", 400⟩

def invalidPairCheckBody : ErrorResponse :=
  ⟨"PROXY_PAIR_CHECK_INVALID_BODY", "Pair check input is invalid", 400⟩

def invalidKnownBody : ErrorResponse :=
  ⟨"PROXY_AGENT_KNOWN_INVALID_BODY", "Agent known check input is invalid", 400⟩

/-- The two agents that a body names. -/
def ConfirmRequest.pair (request : TrustRequest) : Option (JsString × JsString) := do
  let initiatorAgentDid ← request.text "initiatorAgentDid"
  let responderAgentDid ← request.text "responderAgentDid"
  some (initiatorAgentDid, responderAgentDid)

def handleUpsertPair (s : TrustStorage) (request : TrustRequest) : TrustStorage × Reply :=
  match request.pair with
  | none => (s, .error invalidUpsertBody)
  | some (initiator, responder) => (savePairAndPeers s initiator responder, .ok)

/-- The pair is stored, or it is one agent. -/
def TrustStorage.allows (s : TrustStorage) (initiator responder : JsString) : Bool :=
  initiator = responder || toPairKey initiator responder ∈ s.pairs

def handleIsPairAllowed (s : TrustStorage) (request : TrustRequest) : Reply :=
  match request.pair with
  | none => .error invalidPairCheckBody
  | some (initiator, responder) => .allowed (s.allows initiator responder)

/-- The stored peers of an agent, without blank ones. -/
def TrustStorage.peers (s : TrustStorage) (agentDid : JsString) : List JsString :=
  ((loadAgentPeers s).lookup agentDid).getD []

def TrustStorage.knows (s : TrustStorage) (agentDid : JsString) : Bool := 0 < (s.peers agentDid).length

def handleIsAgentKnown (s : TrustStorage) (request : TrustRequest) : Reply :=
  match request.text "agentDid" with
  | none => .error invalidKnownBody
  | some agentDid => .known (s.knows agentDid)

/-! ## Revocation markers -/

def invalidRevokeBody : ErrorResponse :=
  ⟨"PROXY_AGENT_REVOKE_INVALID_BODY", "Agent revoke input is invalid", 400⟩

def invalidRevokedCheckBody : ErrorResponse :=
  ⟨"PROXY_AGENT_REVOKED_CHECK_INVALID_BODY", "Agent revoked check input is invalid", 400⟩

/-- `REVOKED_AGENT_MARKER_TTL_MS`: thirty days. -/
def REVOKED_AGENT_MARKER_TTL_MS : ℤ := 30 * 24 * 60 * 60 * 1000

/-- A field that is left out, or a positive integer; anything else is an error. -/
def ConfirmRequest.positiveInt (request : TrustRequest) (key : String) : Option (Option ℤ) :=
  match request.field key with
  | none => some none
  | some v => (v.int?.filter fun n => 0 < n).map some

/-- The DID of the body, trimmed and valid. -/
def ConfirmRequest.revokedAgent (request : TrustRequest) : Option JsString :=
  ((request.text "agentDid").map trim).filter Protocol.isAgentDid

/-- `pruneExpiredRevokedAgents`. -/
def pruneExpiredRevokedAgents (revokedAgents : Table JsString ℤ) (nowMs : ℤ) : Table JsString ℤ :=
  revokedAgents.keep fun _ expiresAtMs => nowMs < expiresAtMs

section
variable (platform : Platform)

def saveRevokedAgentsAndSchedule (s : TrustStorage) (revokedAgents : Table JsString ℤ) :
    TrustStorage :=
  { s with
    revokedAgents := .markers revokedAgents
    alarmAt := nextCleanup (loadExpirableState platform s) revokedAgents }

def handleMarkAgentRevoked (s : TrustStorage) (request : TrustRequest) : TrustStorage × Reply :=
  match request.revokedAgent, request.positiveInt "nowMs", request.positiveInt "ttlMs" with
  | some agentDid, some nowMs, some ttlMs =>
      let nowMs := nowMs.getD request.nowUtcMs
      let expiresAtMs := nowMs + ttlMs.getD REVOKED_AGENT_MARKER_TTL_MS
      if expiresAtMs ≤ MAX_SAFE_INTEGER ∧ nowMs < expiresAtMs then
        (saveRevokedAgentsAndSchedule platform s
          ((pruneExpiredRevokedAgents (loadRevokedAgents s) nowMs).insert agentDid expiresAtMs), .ok)
      else (s, .error invalidRevokeBody)
  | _, _, _ => (s, .error invalidRevokeBody)

def handleIsAgentRevoked (s : TrustStorage) (request : TrustRequest) : TrustStorage × Reply :=
  match request.revokedAgent, request.positiveInt "nowMs" with
  | some agentDid, some nowMs =>
      let nowMs := nowMs.getD request.nowUtcMs
      let loaded := loadRevokedAgents s
      let revokedAgents := pruneExpiredRevokedAgents loaded nowMs
      (if loaded.entries.any fun e => e.2 ≤ nowMs then
        saveRevokedAgentsAndSchedule platform s revokedAgents else s,
        .revoked (nowMs < (revokedAgents.lookup agentDid).getD 0))
  | _, _ => (s, .error invalidRevokedCheckBody)

/-! ### Loading the markers -/

/-- Markers that a load leaves as they are. -/
def ValidMarkers (markers : Table JsString ℤ) : Prop :=
  ∀ agentDid expiresAtMs, markers.lookup agentDid = some expiresAtMs →
    isNonEmptyString agentDid = true ∧ 0 < expiresAtMs

section
variable {s : TrustStorage} {markers : Table JsString ℤ} {agentDid : JsString} {expiresAtMs : ℤ}

/-- A load reads nothing but the stored markers. -/
theorem loadRevokedAgents_congr {t : TrustStorage} (h : t.revokedAgents = s.revokedAgents) :
    loadRevokedAgents s = loadRevokedAgents t := by
  rw [loadRevokedAgents, loadRevokedAgents, h]

theorem loadRevokedAgents_markers (h : s.revokedAgents = .markers markers)
    (hvalid : ValidMarkers markers) : loadRevokedAgents s = markers := by
  rw [loadRevokedAgents, h]
  refine Table.keep_eq_self fun did e he => ?_
  obtain ⟨hfilled, hpositive⟩ := hvalid did e he
  simp [hfilled, hpositive]

theorem ValidMarkers.insert (h : ValidMarkers markers) (hfilled : isNonEmptyString agentDid = true)
    (hpositive : 0 < expiresAtMs) : ValidMarkers (markers.insert agentDid expiresAtMs) := by
  intro did e he
  by_cases hsame : did = agentDid
  · subst hsame
    cases (AList.lookup_insert markers).symm.trans he
    exact ⟨hfilled, hpositive⟩
  · rw [AList.lookup_insert_ne hsame] at he
    exact h did e he

theorem ValidMarkers.prune (h : ValidMarkers markers) (nowMs : ℤ) :
    ValidMarkers (pruneExpiredRevokedAgents markers nowMs) := fun did e he =>
  h did e (Table.lookup_keep_eq_some.mp he).1

/-- What is loaded is valid, from the markers or from an older array. -/
theorem validMarkers_load (s : TrustStorage) : ValidMarkers (loadRevokedAgents s) := by
  unfold loadRevokedAgents
  split
  · intro did e he
    obtain ⟨_, hvalid⟩ := Table.lookup_keep_eq_some.mp he
    simpa using hvalid
  · rename_i values _
    have hagents : ∀ did ∈ values.filterMap fun value => value.str?.filter isNonEmptyString,
        isNonEmptyString did = true := by
      intro did hdid
      obtain ⟨value, _, hvalue⟩ := List.mem_filterMap.mp hdid
      exact (Option.filter_eq_some_iff.mp hvalue).2
    generalize values.filterMap _ = dids at hagents
    have hempty : ValidMarkers ∅ := fun did e he => by cases he
    generalize (∅ : Table JsString ℤ) = migrated at hempty
    induction dids generalizing migrated with
    | nil => exact hempty
    | cons did dids ih =>
        refine ih (fun d hd => hagents d (List.mem_cons_of_mem did hd)) _ ?_
        exact hempty.insert (hagents did List.mem_cons_self) (by decide)

/-- Where nothing has expired, pruning keeps everything. -/
theorem pruneExpiredRevokedAgents_eq_self {nowMs : ℤ}
    (h : ¬ (markers.entries.any fun e => e.2 ≤ nowMs) = true) :
    pruneExpiredRevokedAgents markers nowMs = markers := by
  refine Table.keep_eq_self fun did e he => ?_
  simp only [List.any_eq_true, decide_eq_true_eq, not_exists, not_and, not_le] at h
  exact decide_eq_true (h ⟨did, e⟩ (AList.mem_lookup_iff.mp he))

theorem loadRevokedAgents_save (platform : Platform) (s : TrustStorage)
    (h : ValidMarkers markers) :
    loadRevokedAgents (saveRevokedAgentsAndSchedule platform s markers) = markers :=
  loadRevokedAgents_markers rfl h

end

/-! ## The cleanup -/

/-- `removeExpiredEntries`. -/
def removeExpiredEntries (state : ExpirableTrustState) (nowMs : ℤ) : ExpirableTrustState where
  pairingTickets := state.pairingTickets.keep fun _ e => nowMs < e.expiresAtMs
  confirmedPairingTickets := state.confirmedPairingTickets.keep fun _ e => nowMs < e.expiresAtMs

/-- `removeExpiredEntries` answers that an entry was removed. -/
def ExpirableTrustState.hasExpired (state : ExpirableTrustState) (nowMs : ℤ) : Bool :=
  state.pairingTickets.entries.any (fun e => e.2.expiresAtMs ≤ nowMs) ||
    state.confirmedPairingTickets.entries.any fun e => e.2.expiresAtMs ≤ nowMs

def runAlarmCleanup (s : TrustStorage) (nowMs : ℤ) : TrustStorage :=
  let loaded := loadExpirableState platform s
  let revokedAgents := loadRevokedAgents s
  let state := removeExpiredEntries loaded nowMs
  let pruned := pruneExpiredRevokedAgents revokedAgents nowMs
  { s with
    pairingTickets := if loaded.hasExpired nowMs then state.pairingTickets else s.pairingTickets
    confirmedPairingTickets :=
      if loaded.hasExpired nowMs then state.confirmedPairingTickets
      else s.confirmedPairingTickets
    revokedAgents :=
      if revokedAgents.entries.any fun e => e.2 ≤ nowMs then .markers pruned else s.revokedAgents
    alarmAt := nextCleanup state pruned }

/-- The cleanup leaves the markers that have not expired. -/
theorem loadRevokedAgents_cleanup (s : TrustStorage) (nowMs : ℤ) :
    loadRevokedAgents (runAlarmCleanup platform s nowMs) =
      pruneExpiredRevokedAgents (loadRevokedAgents s) nowMs := by
  by_cases hexpired : ((loadRevokedAgents s).entries.any fun e => e.2 ≤ nowMs) = true
  · refine loadRevokedAgents_markers ?_ ((validMarkers_load s).prune nowMs)
    exact if_pos hexpired
  · rw [pruneExpiredRevokedAgents_eq_self hexpired]
    exact (loadRevokedAgents_congr (if_neg hexpired)).symm

/-! ## Operations -/

inductive Operation
  | create (request : TrustRequest)
  | confirm (request : TrustRequest)
  | status (request : TrustRequest)
  | upsertPair (request : TrustRequest)
  | isPairAllowed (request : TrustRequest)
  | markAgentRevoked (request : TrustRequest)
  | isAgentRevoked (request : TrustRequest)
  | isAgentKnown (request : TrustRequest)
  | alarm (nowUtcMs : ℕ)
  deriving DecidableEq

/-- One completed operation. -/
def perform (s : TrustStorage) : Operation → TrustStorage × Reply
  | .create request => handleCreatePairingTicket platform s request
  | .confirm request => handleConfirmPairingTicket platform s request
  | .status request => handleGetPairingTicketStatus platform s request
  | .upsertPair request => handleUpsertPair s request
  | .isPairAllowed request => (s, handleIsPairAllowed s request)
  | .markAgentRevoked request => handleMarkAgentRevoked platform s request
  | .isAgentRevoked request => handleIsAgentRevoked platform s request
  | .isAgentKnown request => (s, handleIsAgentKnown s request)
  | .alarm nowMs => (runAlarmCleanup platform s nowMs, .ok)

/-- An object that has never stored anything. -/
def TrustStorage.empty : TrustStorage := ⟨[], ∅, .markers ∅, ∅, ∅, none⟩

/-- The storage after a sequence of operations. -/
def after (ops : List Operation) : TrustStorage :=
  ops.foldl (fun s op => (perform platform s op).1) .empty

end

end Clawdentity.TrustState
