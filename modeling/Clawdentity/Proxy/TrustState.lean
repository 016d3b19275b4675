import Clawdentity.Lib.Interleave
import Clawdentity.Lib.Table
import Clawdentity.Proxy.PairingTicket
import Mathlib.Data.Rat.Floor

/-!
# The trust state of the proxy

The durable object `ProxyTrustState` stores the trusted pairs, the peers of each
agent, the pending and confirmed pairing tickets, the revocation markers and its
cleanup alarm. Confirming a ticket loads both ticket maps, waits for the signature
check, and writes both maps back; other requests run during the wait.

## Main definitions

* `TrustStorage` — the storage, with the loads and saves of the source.
* `confirmStart`, `confirmFinish` — `handleConfirmPairingTicket` before and after the wait.
* `program` — any number of confirm requests on one object.
-/

namespace Clawdentity.TrustState

open Js Lib Lib.Interleave PairingTicket

/-! ## Profiles and tickets -/

structure PeerProfile where
  agentName : JsString
  humanName : JsString
  proxyOrigin : Option JsString
  deriving DecidableEq

structure StoredPairingTicket where
  ticket : JsString
  expiresAtMs : ℤ
  initiatorAgentDid : JsString
  initiatorProfile : PeerProfile
  issuerProxyUrl : JsString
  publicKeyX : JsString
  allowResponderAgentDid : Option JsString
  deriving DecidableEq

structure StoredConfirmedPairingTicket where
  ticket : JsString
  expiresAtMs : ℤ
  initiatorAgentDid : JsString
  initiatorProfile : PeerProfile
  responderAgentDid : JsString
  responderProfile : PeerProfile
  issuerProxyUrl : JsString
  confirmedAtMs : ℤ
  deriving DecidableEq

/-- The stored revocation markers: the expiry of each agent's marker, or an array of agents as
older versions stored it. -/
inductive RevokedAgentsValue
  | markers (expiries : Table JsString ℤ)
  | agents (values : List (Json JsString))
  deriving DecidableEq

/-- The durable storage of the object. -/
structure TrustStorage where
  pairs : List JsString
  agentPeers : Table JsString (List JsString)
  revokedAgents : RevokedAgentsValue
  pairingTickets : Table JsString StoredPairingTicket
  confirmedPairingTickets : Table JsString StoredConfirmedPairingTicket
  alarmAt : Option ℤ
  deriving DecidableEq

structure ExpirableTrustState where
  pairingTickets : Table JsString StoredPairingTicket
  confirmedPairingTickets : Table JsString StoredConfirmedPairingTicket
  deriving DecidableEq

/-! ## Parsing -/

section Parsing
variable (platform : Platform)

/-- `parsePeerProfile` on the three fields of a value: a name that is not a string
is `none`, and `proxyOrigin` is `none` where it is undefined. -/
def parsePeerProfileFields (agentName humanName : Option JsString)
    (proxyOrigin : Option (Option JsString)) : Option PeerProfile := do
  let agentName ← agentName.filter isNonEmptyString
  let humanName ← humanName.filter isNonEmptyString
  match proxyOrigin with
  | none => some ⟨trim agentName, trim humanName, none⟩
  | some value =>
      let text ← value.filter isNonEmptyString
      let url ← platform.parseUrl (trim text)
      if url.isHttp then some ⟨trim agentName, trim humanName, some url.origin⟩ else none

def parsePeerProfile (value : Option (Json JsString)) : Option PeerProfile :=
  match value with
  | some v =>
      if isRecord v then
        parsePeerProfileFields platform ((v.get? (js "agentName")).bind Json.str?)
          ((v.get? (js "humanName")).bind Json.str?)
          ((v.get? (js "proxyOrigin")).map Json.str?)
      else none
  | none => none

/-- `parsePeerProfile` on a stored profile. -/
def reparsePeerProfile (profile : PeerProfile) : Option PeerProfile :=
  parsePeerProfileFields platform (some profile.agentName) (some profile.humanName)
    (profile.proxyOrigin.map some)

/-- The text that identifies a stored ticket: older entries have it only as their key. -/
def ticketCandidate (entryKey ticket : JsString) : JsString :=
  if isNonEmptyString ticket then ticket else entryKey

/-- One entry in `loadPairingTickets`: dropped where it is invalid, else filed under
the `kid` of its ticket. -/
def normalizePairingTicket (entryKey : JsString) (entry : StoredPairingTicket) :
    Option (JsString × StoredPairingTicket) := do
  let initiatorProfile ← reparsePeerProfile platform entry.initiatorProfile
  if isNonEmptyString entry.initiatorAgentDid && isNonEmptyString entry.issuerProxyUrl &&
      isNonEmptyString entry.publicKeyX && entry.allowResponderAgentDid.all isNonEmptyString then
    let candidate := ticketCandidate entryKey entry.ticket
    let parsedTicket ← (parsePairingTicket platform candidate).toOption
    some (parsedTicket.kid,
      { entry with ticket := candidate, initiatorProfile, issuerProxyUrl := parsedTicket.iss })
  else none

/-- One entry in `loadConfirmedPairingTickets`. -/
def normalizeConfirmedPairingTicket (entryKey : JsString) (entry : StoredConfirmedPairingTicket) :
    Option (JsString × StoredConfirmedPairingTicket) := do
  let initiatorProfile ← reparsePeerProfile platform entry.initiatorProfile
  let responderProfile ← reparsePeerProfile platform entry.responderProfile
  if isNonEmptyString entry.initiatorAgentDid && isNonEmptyString entry.responderAgentDid &&
      isNonEmptyString entry.issuerProxyUrl then
    let candidate := ticketCandidate entryKey entry.ticket
    let parsedTicket ← (parsePairingTicket platform candidate).toOption
    some (parsedTicket.kid,
      { entry with
        ticket := candidate, initiatorProfile, responderProfile,
        issuerProxyUrl := parsedTicket.iss })
  else none

/-! ## Loads and saves -/

def loadPairingTickets (s : TrustStorage) : Table JsString StoredPairingTicket :=
  s.pairingTickets.rekey (normalizePairingTicket platform)

def loadExpirableState (s : TrustStorage) : ExpirableTrustState where
  pairingTickets := loadPairingTickets platform s
  confirmedPairingTickets :=
    s.confirmedPairingTickets.rekey (normalizeConfirmedPairingTicket platform)

end Parsing

/-- `Array.prototype.sort` on strings: by code units. -/
def sortStrings (l : List JsString) : List JsString := l.mergeSort fun a b => decide (a ≤ b)

/-- `Set.prototype.add`. -/
def setAdd (l : List JsString) (x : JsString) : List JsString := if x ∈ l then l else l ++ [x]

def toPairKey (initiatorAgentDid responderAgentDid : JsString) : JsString :=
  (js "|").intercalate (sortStrings [initiatorAgentDid, responderAgentDid])

def addPeer (index : Table JsString (List JsString)) (leftAgentDid rightAgentDid : JsString) :
    Table JsString (List JsString) :=
  index.insert leftAgentDid
    (sortStrings (setAdd ((index.lookup leftAgentDid).getD []) rightAgentDid))

/-- `loadAgentPeers`: the peers without blank entries. -/
def loadAgentPeers (s : TrustStorage) : Table JsString (List JsString) :=
  s.agentPeers.rekey fun agentDid peers => some (agentDid, peers.filter isNonEmptyString)

def MAX_SAFE_INTEGER : ℤ := 2 ^ 53 - 1

/-- `loadRevokedAgents`: the valid markers; an agent of an older array never expires. -/
def loadRevokedAgents (s : TrustStorage) : Table JsString ℤ :=
  match s.revokedAgents with
  | .markers expiries =>
      expiries.keep fun agentDid expiresAtMs => isNonEmptyString agentDid && 0 < expiresAtMs
  | .agents values =>
      (values.filterMap fun value => value.str?.filter isNonEmptyString).foldl
        (fun migrated agentDid => migrated.insert agentDid MAX_SAFE_INTEGER) ∅

/-- `Math.floor(ms / 1000) * 1000`. -/
def normalizeExpiryToWholeSecond (expiresAtMs : ℚ) : ℤ := ⌊expiresAtMs / 1000⌋ * 1000

/-- `scheduleNextCodeCleanup`: the earliest expiry of all three maps. -/
def nextCleanup (state : ExpirableTrustState) (revokedAgents : Table JsString ℤ) : Option ℤ :=
  (state.pairingTickets.entries.map (fun e => e.2.expiresAtMs) ++
    state.confirmedPairingTickets.entries.map (fun e => e.2.expiresAtMs) ++
    revokedAgents.entries.map fun e => e.2).min?

/-- `saveExpirableStateAndSchedule` with both maps. -/
def saveExpirableStateAndSchedule (s : TrustStorage) (state : ExpirableTrustState) :
    TrustStorage :=
  { s with
    pairingTickets := state.pairingTickets
    confirmedPairingTickets := state.confirmedPairingTickets
    alarmAt := nextCleanup state (loadRevokedAgents s) }

/-! ## Confirming a ticket -/

structure ErrorResponse where
  code : String
  message : String
  status : ℕ
  deriving DecidableEq, Repr

structure ConfirmResult where
  initiatorAgentDid : JsString
  initiatorProfile : PeerProfile
  responderAgentDid : JsString
  responderProfile : PeerProfile
  issuerProxyUrl : JsString
  deriving DecidableEq

/-- The locals of a confirmation that waits for the signature check. -/
structure Verifying where
  ticket : JsString
  payload : PairingTicketPayload
  responderAgentDid : JsString
  responderProfile : PeerProfile
  nowMs : ℚ
  snapshot : ExpirableTrustState
  stored : StoredPairingTicket
  deriving DecidableEq

/-- A confirm request: waiting, or answered with success for a `kid`, or refused. -/
inductive Call
  | verifying (v : Verifying)
  | confirmed (kid : JsString) (result : ConfirmResult)
  | rejected (error : ErrorResponse)
  deriving DecidableEq

/-- A pairing that a confirmation has stored. -/
structure Paired where
  kid : JsString
  initiatorAgentDid : JsString
  responderAgentDid : JsString
  deriving DecidableEq

/-- The storage, and the pairings made through tickets so far, latest first. -/
structure Shared where
  storage : TrustStorage
  paired : List Paired
  deriving DecidableEq

/-- The request's JSON body, `none` where it does not parse, and the clock. -/
structure ConfirmRequest where
  body : Option (Json JsString)
  nowUtcMs : ℕ
  deriving DecidableEq

def invalidConfirmBody : ErrorResponse :=
  ⟨"PROXY_PAIR_CONFIRM_INVALID_BODY", "Pairing ticket confirm input is invalid", 400⟩

def alreadyConfirmed : ErrorResponse :=
  ⟨"PROXY_PAIR_TICKET_ALREADY_CONFIRMED", "Pairing ticket has already been confirmed", 409⟩

def ticketNotFound : ErrorResponse :=
  ⟨"PROXY_PAIR_TICKET_NOT_FOUND", "Pairing ticket not found", 404⟩

def invalidSignature : ErrorResponse :=
  ⟨"PROXY_PAIR_TICKET_INVALID_SIGNATURE", "Pairing ticket signature is invalid", 400⟩

def ticketExpired : ErrorResponse :=
  ⟨"PROXY_PAIR_TICKET_EXPIRED", "Pairing ticket has expired", 410⟩

def issuerMismatch : ErrorResponse :=
  ⟨"PROXY_PAIR_TICKET_INVALID_ISSUER", "Pairing ticket issuer URL is invalid", 400⟩

def responderForbidden : ErrorResponse :=
  ⟨"PROXY_PAIR_RESPONDER_FORBIDDEN",
    "Responder agent DID is not allowed for this pairing ticket", 403⟩

section Confirm
variable (platform : Platform)

/-- The checked fields of the body: ticket, responder and its profile. -/
def parseConfirmBody (body : Option (Json JsString)) :
    Option (JsString × JsString × PeerProfile) := do
  let body ← body
  let responderProfile ← parsePeerProfile platform (body.get? (js "responderProfile"))
  let ticket ← ((body.get? (js "ticket")).bind Json.str?).filter isNonEmptyString
  let responderAgentDid ←
    ((body.get? (js "responderAgentDid")).bind Json.str?).filter isNonEmptyString
  some (ticket, responderAgentDid, responderProfile)

/-- `handleConfirmPairingTicket` up to the wait for the signature check. -/
def confirmStart (storage : TrustStorage) (request : ConfirmRequest) : Call :=
  match parseConfirmBody platform request.body with
  | none => .rejected invalidConfirmBody
  | some (rawTicket, responderAgentDid, responderProfile) =>
    match parseNormalizedPairingTicket platform rawTicket with
    | .error e => .rejected ⟨e.code, e.message, 400⟩
    | .ok (ticket, payload) =>
      let nowMs : ℚ :=
        ((request.body.bind fun body => body.get? (js "nowMs")).bind Json.num?).getD request.nowUtcMs
      let snapshot := loadExpirableState platform storage
      if (snapshot.confirmedPairingTickets.lookup payload.kid).any fun c => c.ticket = ticket then
        .rejected alreadyConfirmed
      else
        match snapshot.pairingTickets.lookup payload.kid with
        | none => .rejected ticketNotFound
        | some stored =>
            .verifying
              { ticket, payload, responderAgentDid, responderProfile, nowMs, snapshot, stored }

/-- The locals' maps without the ticket. -/
def Verifying.dropped (v : Verifying) : ExpirableTrustState where
  pairingTickets := v.snapshot.pairingTickets.erase v.payload.kid
  confirmedPairingTickets := v.snapshot.confirmedPairingTickets.erase v.payload.kid

/-- The locals' maps with the ticket moved from the pending to the confirmed ones. -/
def Verifying.moved (v : Verifying) : ExpirableTrustState where
  pairingTickets := v.snapshot.pairingTickets.erase v.payload.kid
  confirmedPairingTickets := v.snapshot.confirmedPairingTickets.insert v.payload.kid
    { ticket := v.ticket
      expiresAtMs := v.stored.expiresAtMs
      initiatorAgentDid := v.stored.initiatorAgentDid
      initiatorProfile := v.stored.initiatorProfile
      responderAgentDid := v.responderAgentDid
      responderProfile := v.responderProfile
      issuerProxyUrl := v.stored.issuerProxyUrl
      confirmedAtMs := normalizeExpiryToWholeSecond v.nowMs }

/-- The pairs and peers with the new pair. -/
def savePairAndPeers (s : TrustStorage) (initiatorAgentDid responderAgentDid : JsString) :
    TrustStorage :=
  { s with
    pairs := sortStrings (setAdd s.pairs (toPairKey initiatorAgentDid responderAgentDid))
    agentPeers := addPeer (addPeer (loadAgentPeers s) initiatorAgentDid responderAgentDid)
      responderAgentDid initiatorAgentDid }

def Verifying.expired (v : Verifying) : Bool :=
  (v.stored.expiresAtMs : ℚ) ≤ v.nowMs || ((v.payload.exp * 1000 : ℤ) : ℚ) ≤ v.nowMs

def Verifying.forbidden (v : Verifying) : Bool :=
  v.stored.allowResponderAgentDid.any fun did => did ≠ v.responderAgentDid

/-- `handleConfirmPairingTicket` after the wait. -/
def confirmFinish (s : Shared) (v : Verifying) : Shared × Call :=
  if !platform.verifySignature v.payload v.stored.publicKeyX then
    (s, .rejected invalidSignature)
  else if v.expired then
    ({ s with storage := saveExpirableStateAndSchedule s.storage v.dropped },
      .rejected ticketExpired)
  else if v.stored.issuerProxyUrl ≠ v.payload.iss then (s, .rejected issuerMismatch)
  else if v.forbidden then (s, .rejected responderForbidden)
  else
    ({ storage := saveExpirableStateAndSchedule
        (savePairAndPeers s.storage v.stored.initiatorAgentDid v.responderAgentDid) v.moved
       paired := ⟨v.payload.kid, v.stored.initiatorAgentDid, v.responderAgentDid⟩ :: s.paired },
      .confirmed v.payload.kid
        { initiatorAgentDid := v.stored.initiatorAgentDid
          initiatorProfile := v.stored.initiatorProfile
          responderAgentDid := v.responderAgentDid
          responderProfile := v.responderProfile
          issuerProxyUrl := v.stored.issuerProxyUrl })

/-- Any number of confirm requests on one object. -/
def program : Program Shared Call ConfirmRequest Unit where
  start s request := some (s, confirmStart platform s.storage request)
  resume s c _ :=
    match c with
    | .verifying v => some (confirmFinish platform s v)
    | _ => none

end Confirm

abbrev State := Pool Shared Call
abbrev Event := Move ConfirmRequest Unit

/-! ## Loading what was loaded before -/

section
variable {platform : Platform}

/-- A text that parses as a ticket is not blank. -/
theorem isNonEmptyString_of_parse {ticket : JsString} {payload : PairingTicketPayload}
    (h : parsePairingTicket platform ticket = .ok payload) : isNonEmptyString ticket = true := by
  by_contra hblank
  have htrim : Js.trim ticket = [] := by simpa [isNonEmptyString] using hblank
  simp only [parsePairingTicket, normalizePairingTicketText, htrim, bind_eq_ok, check_eq_ok] at h
  obtain ⟨_, hstarts, _⟩ := h
  exact absurd hstarts (by decide)

/-- Every pending ticket is filed under the `kid` of its own text. -/
def WellKeyed (platform : Platform) (tickets : Table JsString StoredPairingTicket) : Prop :=
  ∀ kid entry, tickets.lookup kid = some entry →
    ∃ payload, parsePairingTicket platform entry.ticket = .ok payload ∧ payload.kid = kid

theorem normalizePairingTicket_eq_some {entryKey kid : JsString} {entry e : StoredPairingTicket}
    (h : normalizePairingTicket platform entryKey entry = some (kid, e)) :
    e.ticket = ticketCandidate entryKey entry.ticket ∧
      ∃ payload, parsePairingTicket platform e.ticket = .ok payload ∧ payload.kid = kid := by
  simp only [normalizePairingTicket, Option.bind_eq_bind, Option.bind_eq_some_iff] at h
  obtain ⟨profile, _, h⟩ := h
  split at h
  · obtain ⟨payload, hparse, h⟩ := Option.bind_eq_some_iff.mp h
    cases h
    refine ⟨rfl, payload, ?_, rfl⟩
    cases hp : parsePairingTicket platform (ticketCandidate entryKey entry.ticket) with
    | error e => simp [hp, Except.toOption] at hparse
    | ok q =>
        simp only [hp, Except.toOption, Option.some.injEq] at hparse
        exact congrArg _ hparse
  · cases h

theorem wellKeyed_load (s : TrustStorage) : WellKeyed platform (loadPairingTickets platform s) := by
  intro kid entry h
  obtain ⟨key, raw, _, hn⟩ := Table.lookup_rekey h
  exact (normalizePairingTicket_eq_some hn).2

theorem WellKeyed.erase {tickets : Table JsString StoredPairingTicket}
    (h : WellKeyed platform tickets) (kid : JsString) :
    WellKeyed platform (tickets.erase kid) := by
  intro k entry hk
  by_cases heq : k = kid
  · subst heq
    simp at hk
  · rw [AList.lookup_erase_ne heq] at hk
    exact h k entry hk

/-- Loading well-keyed maps that were saved finds no new `kid`. -/
theorem mem_of_mem_load {s : TrustStorage} {kid : JsString}
    (hw : WellKeyed platform s.pairingTickets)
    (h : kid ∈ (loadPairingTickets platform s).keys) : kid ∈ s.pairingTickets.keys := by
  obtain ⟨entry, hentry⟩ := Option.isSome_iff_exists.mp
    (AList.lookup_isSome.mpr (AList.mem_keys.mpr h))
  obtain ⟨key, raw, hraw, hn⟩ := Table.lookup_rekey hentry
  obtain ⟨hticket, payload, hparse, hkid⟩ := normalizePairingTicket_eq_some hn
  obtain ⟨payload', hparse', hkey⟩ := hw key raw hraw
  have hcand : entry.ticket = raw.ticket := by
    rw [hticket, ticketCandidate, if_pos (isNonEmptyString_of_parse hparse')]
  rw [hcand, hparse'] at hparse
  cases hparse
  rw [← hkid, hkey]
  exact AList.mem_keys.mp (AList.lookup_isSome.mp (by rw [hraw]; rfl))

end

end Clawdentity.TrustState
