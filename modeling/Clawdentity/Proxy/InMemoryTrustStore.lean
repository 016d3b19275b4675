import Clawdentity.Js.Value
import Clawdentity.Proxy.TicketMaps

/-!
# The two trust stores of the proxy

The proxy reads and writes its trust through a `ProxyTrustStore`. One implementation sends
every call to the durable object `ProxyTrustState`; the other keeps everything in maps of its
own and does the same checks a second time.

## Main definitions

* `StoreCall`, `Payload` — the eight operations of `ProxyTrustStore` and what they return.
* `createDurableProxyTrustStore` — the request that a call sends to the durable object.
* `InMemoryStore`, `InMemoryStore.perform` — `createInMemoryProxyTrustStore`.
-/

namespace Clawdentity.TrustStore

open Js Lib PairingTicket TrustState

/-! ## Calls and what they return -/

structure PairingTicketInput where
  initiatorAgentDid : JsString
  initiatorProfile : PeerProfile
  issuerProxyUrl : JsString
  ticket : JsString
  publicKeyX : JsString
  allowResponderAgentDid : Option JsString
  expiresAtMs : ℚ
  nowMs : Option ℚ
  deriving DecidableEq

structure PairingTicketConfirmInput where
  ticket : JsString
  responderAgentDid : JsString
  responderProfile : PeerProfile
  nowMs : Option ℚ
  deriving DecidableEq

structure PairingTicketStatusInput where
  ticket : JsString
  nowMs : Option ℚ
  deriving DecidableEq

structure PairingInput where
  initiatorAgentDid : JsString
  responderAgentDid : JsString
  deriving DecidableEq

inductive StoreCall
  | createPairingTicket (input : PairingTicketInput)
  | confirmPairingTicket (input : PairingTicketConfirmInput)
  | getPairingTicketStatus (input : PairingTicketStatusInput)
  | markAgentRevoked (agentDid : JsString)
  | isAgentRevoked (agentDid : JsString)
  | isAgentKnown (agentDid : JsString)
  | isPairAllowed (input : PairingInput)
  | upsertPair (input : PairingInput)
  deriving DecidableEq

structure PairingTicketResult where
  ticket : JsString
  expiresAtMs : ℤ
  initiatorAgentDid : JsString
  initiatorProfile : PeerProfile
  issuerProxyUrl : JsString
  deriving DecidableEq

inductive PairingTicketStatusResult
  | pending (ticket initiatorAgentDid : JsString) (initiatorProfile : PeerProfile)
      (issuerProxyUrl : JsString) (expiresAtMs : ℤ)
  | confirmed (ticket initiatorAgentDid : JsString) (initiatorProfile : PeerProfile)
      (responderAgentDid : JsString) (responderProfile : PeerProfile) (issuerProxyUrl : JsString)
      (expiresAtMs confirmedAtMs : ℤ)
  deriving DecidableEq

inductive Payload
  | created (result : PairingTicketResult)
  | confirmed (result : ConfirmResult)
  | status (result : PairingTicketStatusResult)
  | answer (value : Bool)
  | done
  deriving DecidableEq

/-- What a call returns, or the `ProxyTrustStoreError` that it throws. -/
abbrev Answer := Except ErrorResponse Payload

/-! ## What both stores return of an entry -/

def createdResult (entry : StoredPairingTicket) : PairingTicketResult where
  ticket := entry.ticket
  expiresAtMs := entry.expiresAtMs
  initiatorAgentDid := entry.initiatorAgentDid
  initiatorProfile := entry.initiatorProfile
  issuerProxyUrl := entry.issuerProxyUrl

def pendingStatus (entry : StoredPairingTicket) : PairingTicketStatusResult :=
  .pending entry.ticket entry.initiatorAgentDid entry.initiatorProfile entry.issuerProxyUrl
    entry.expiresAtMs

def confirmedStatus (entry : StoredConfirmedPairingTicket) : PairingTicketStatusResult :=
  .confirmed entry.ticket entry.initiatorAgentDid entry.initiatorProfile entry.responderAgentDid
    entry.responderProfile entry.issuerProxyUrl entry.expiresAtMs entry.confirmedAtMs

/-! ## The durable store -/

def profileJson (profile : PeerProfile) : Value :=
  Js.object [("agentName", some (.str profile.agentName)),
    ("humanName", some (.str profile.humanName)),
    ("proxyOrigin", profile.proxyOrigin.map .str)]

/-- The body that a call sends: its input, with the ticket text normalised. -/
def requestBody : StoreCall → Value
  | .createPairingTicket input =>
      Js.object [("initiatorAgentDid", some (.str input.initiatorAgentDid)),
        ("initiatorProfile", some (profileJson input.initiatorProfile)),
        ("issuerProxyUrl", some (.str input.issuerProxyUrl)),
        ("ticket", some (.str (normalizePairingTicketText input.ticket))),
        ("publicKeyX", some (.str input.publicKeyX)),
        ("allowResponderAgentDid", input.allowResponderAgentDid.map .str),
        ("expiresAtMs", some (.num input.expiresAtMs)), ("nowMs", input.nowMs.map .num)]
  | .confirmPairingTicket input =>
      Js.object [("ticket", some (.str (normalizePairingTicketText input.ticket))),
        ("responderAgentDid", some (.str input.responderAgentDid)),
        ("responderProfile", some (profileJson input.responderProfile)),
        ("nowMs", input.nowMs.map .num)]
  | .getPairingTicketStatus input =>
      Js.object [("ticket", some (.str (normalizePairingTicketText input.ticket))),
        ("nowMs", input.nowMs.map .num)]
  | .markAgentRevoked agentDid | .isAgentRevoked agentDid | .isAgentKnown agentDid =>
      Js.object [("agentDid", some (.str agentDid))]
  | .isPairAllowed input | .upsertPair input =>
      Js.object [("initiatorAgentDid", some (.str input.initiatorAgentDid)),
        ("responderAgentDid", some (.str input.responderAgentDid))]

/-- `createDurableProxyTrustStore`: each call is one request to the durable object. -/
def createDurableProxyTrustStore (call : StoreCall) (nowUtcMs : ℕ) : Operation :=
  let request : TrustRequest := ⟨some (requestBody call), nowUtcMs⟩
  match call with
  | .createPairingTicket _ => .create request
  | .confirmPairingTicket _ => .confirm request
  | .getPairingTicketStatus _ => .status request
  | .markAgentRevoked _ => .markAgentRevoked request
  | .isAgentRevoked _ => .isAgentRevoked request
  | .isAgentKnown _ => .isAgentKnown request
  | .isPairAllowed _ => .isPairAllowed request
  | .upsertPair _ => .upsertPair request

/-- `callDurableState`: what the store makes of the response. -/
def callDurableState : Reply → Answer
  | .error e => .error e
  | .created _ ticket => .ok (.created (createdResult ticket))
  | .confirmed _ result => .ok (.confirmed result)
  | .status (.pending ticket) => .ok (.status (pendingStatus ticket))
  | .status (.confirmed ticket) => .ok (.status (confirmedStatus ticket))
  | .allowed value | .known value | .revoked value => .ok (.answer value)
  | .ok => .ok .done

/-! ## The in-memory store -/

structure InMemoryStore where
  pairKeys : List JsString
  agentPeers : Table JsString (List JsString)
  revokedAgents : Table JsString ℤ
  confirmedPairingTickets : Table JsString StoredConfirmedPairingTicket
  pairingTickets : Table JsString StoredPairingTicket
  deriving DecidableEq

namespace InMemoryStore

def empty : InMemoryStore := ⟨[], ∅, ∅, ∅, ∅⟩

def cleanup (m : InMemoryStore) (nowMs : ℚ) (skipTicketKid : Option JsString) : InMemoryStore :=
  { m with
    pairingTickets := m.pairingTickets.keep fun ticketKid details =>
      skipTicketKid = some ticketKid || nowMs < details.expiresAtMs
    confirmedPairingTickets := m.confirmedPairingTickets.keep fun ticketKid details =>
      skipTicketKid = some ticketKid || nowMs < details.expiresAtMs
    revokedAgents := m.revokedAgents.keep fun _ expiresAtMs => nowMs < expiresAtMs }

def upsertPeer (peers : Table JsString (List JsString)) (leftAgentDid rightAgentDid : JsString) :
    Table JsString (List JsString) :=
  peers.insert leftAgentDid (setAdd ((peers.lookup leftAgentDid).getD []) rightAgentDid)

/-- The pair keys and the peers with a new pair. -/
def pair (m : InMemoryStore) (initiatorAgentDid responderAgentDid : JsString) : InMemoryStore :=
  { m with
    pairKeys := setAdd m.pairKeys (toPairKey initiatorAgentDid responderAgentDid)
    agentPeers := upsertPeer (upsertPeer m.agentPeers initiatorAgentDid responderAgentDid)
      responderAgentDid initiatorAgentDid }

def invalidPublicKey : ErrorResponse :=
  ⟨"PROXY_PAIR_START_INVALID_BODY", "Pairing ticket public key is invalid", 400⟩

section
variable (platform : Platform)

def parseStoredTicket (inputTicket : JsString) : Except ErrorResponse PairingTicketPayload :=
  match parsePairingTicket platform inputTicket with
  | .ok parsedTicket => .ok parsedTicket
  | .error e => .error ⟨e.code, e.message, 400⟩

/-- `allowResponderAgentDid` of the input, checked. -/
def parseAllowed (value : Option JsString) : Except ErrorResponse (Option JsString) :=
  match value with
  | none => .ok none
  | some did =>
      if (trim did).isEmpty then .error blankResponder
      else if Protocol.isAgentDid (trim did) then .ok (some (trim did)) else .error invalidResponder

/-- The checks of `createPairingTicket`, and the ticket that passes them. No check compares the
expiry with the clock. -/
def createdTicket (input : PairingTicketInput) :
    Except ErrorResponse (JsString × StoredPairingTicket) := do
  let ticket := normalizePairingTicketText input.ticket
  let parsedTicket ← parseStoredTicket platform ticket
  let normalizedExpiresAtMs := normalizeExpiryToWholeSecond input.expiresAtMs
  check (parsedTicket.iss = input.issuerProxyUrl) issuerMismatch
  check (parsedTicket.exp * 1000 = normalizedExpiresAtMs) invalidExpiry
  let publicKeyX := trim input.publicKeyX
  check (!publicKeyX.isEmpty) invalidPublicKey
  let allowResponderAgentDid ← parseAllowed input.allowResponderAgentDid
  return (parsedTicket.kid,
    ⟨ticket, normalizedExpiresAtMs, input.initiatorAgentDid, input.initiatorProfile,
      parsedTicket.iss, publicKeyX, allowResponderAgentDid⟩)

def createPairingTicket (m : InMemoryStore) (input : PairingTicketInput) (nowUtcMs : ℕ) :
    InMemoryStore × Answer :=
  let m := m.cleanup (input.nowMs.getD nowUtcMs) none
  match createdTicket platform input with
  | .error e => (m, .error e)
  | .ok (kid, ticket) =>
      ({ m with
          pairingTickets := m.pairingTickets.insert kid ticket
          confirmedPairingTickets := m.confirmedPairingTickets.erase kid },
        .ok (.created (createdResult ticket)))

/-- `resolveConfirmablePairingTicket`: the pair, the `kid` and the expiry of the ticket. -/
def resolveConfirmablePairingTicket (m : InMemoryStore) (input : PairingTicketConfirmInput)
    (nowUtcMs : ℕ) : InMemoryStore × Except ErrorResponse (ConfirmResult × JsString × ℤ) :=
  let nowMs : ℚ := input.nowMs.getD nowUtcMs
  let normalizedTicket := normalizePairingTicketText input.ticket
  match parseStoredTicket platform normalizedTicket with
  | .error e => (m, .error e)
  | .ok parsedTicket =>
      let m := m.cleanup nowMs (some parsedTicket.kid)
      if (m.confirmedPairingTickets.lookup parsedTicket.kid).any
          fun c => c.ticket = normalizedTicket then
        (m, .error alreadyConfirmed)
      else
        match m.pairingTickets.lookup parsedTicket.kid with
        | none => (m, .error ticketNotFound)
        | some stored =>
            if !platform.verifySignature parsedTicket stored.publicKeyX then
              (m, .error invalidSignature)
            else if (stored.expiresAtMs : ℚ) ≤ nowMs ||
                ((parsedTicket.exp * 1000 : ℤ) : ℚ) ≤ nowMs then
              ({ m with pairingTickets := m.pairingTickets.erase parsedTicket.kid },
                .error ticketExpired)
            else if stored.issuerProxyUrl ≠ parsedTicket.iss then (m, .error issuerMismatch)
            else if stored.allowResponderAgentDid.any fun did => did ≠ input.responderAgentDid then
              (m, .error responderForbidden)
            else
              (m, .ok
                (⟨stored.initiatorAgentDid, stored.initiatorProfile, input.responderAgentDid,
                  input.responderProfile, stored.issuerProxyUrl⟩,
                  parsedTicket.kid, stored.expiresAtMs))

def confirmPairingTicket (m : InMemoryStore) (input : PairingTicketConfirmInput) (nowUtcMs : ℕ) :
    InMemoryStore × Answer :=
  match resolveConfirmablePairingTicket platform m input nowUtcMs with
  | (m, .error e) => (m, .error e)
  | (m, .ok (confirmedPair, ticketKid, expiresAtMs)) =>
      let confirmedAtMs := normalizeExpiryToWholeSecond (input.nowMs.getD nowUtcMs)
      let m := m.pair confirmedPair.initiatorAgentDid confirmedPair.responderAgentDid
      ({ m with
          pairingTickets := m.pairingTickets.erase ticketKid
          confirmedPairingTickets := m.confirmedPairingTickets.insert ticketKid
            ⟨normalizePairingTicketText input.ticket, expiresAtMs, confirmedPair.initiatorAgentDid,
              confirmedPair.initiatorProfile, confirmedPair.responderAgentDid,
              confirmedPair.responderProfile, confirmedPair.issuerProxyUrl, confirmedAtMs⟩ },
        .ok (.confirmed confirmedPair))

/-- `resolveTicketStatus`. -/
def getPairingTicketStatus (m : InMemoryStore) (input : PairingTicketStatusInput) (nowUtcMs : ℕ) :
    InMemoryStore × Answer :=
  let nowMs : ℚ := input.nowMs.getD nowUtcMs
  let normalizedTicket := normalizePairingTicketText input.ticket
  match parseStoredTicket platform normalizedTicket with
  | .error e => (m, .error e)
  | .ok parsedTicket =>
      let m := m.cleanup nowMs (some parsedTicket.kid)
      let passed : Bool := ((parsedTicket.exp * 1000 : ℤ) : ℚ) ≤ nowMs
      match (m.pairingTickets.lookup parsedTicket.kid).filter
            fun e => e.ticket = normalizedTicket,
          (m.confirmedPairingTickets.lookup parsedTicket.kid).filter
            fun e => e.ticket = normalizedTicket with
      | some pending, _ =>
          if (pending.expiresAtMs : ℚ) ≤ nowMs || passed then
            ({ m with pairingTickets := m.pairingTickets.erase parsedTicket.kid },
              .error ticketExpired)
          else (m, .ok (.status (pendingStatus pending)))
      | none, some confirmed =>
          if (confirmed.expiresAtMs : ℚ) ≤ nowMs || passed then
            ({ m with
                confirmedPairingTickets := m.confirmedPairingTickets.erase parsedTicket.kid },
              .error ticketExpired)
          else (m, .ok (.status (confirmedStatus confirmed)))
      | none, none => (m, .error (if passed then ticketExpired else ticketNotFound))

end

def markAgentRevoked (m : InMemoryStore) (agentDid : JsString) (nowUtcMs : ℕ) :
    InMemoryStore × Answer :=
  if Protocol.isAgentDid agentDid then
    let m := m.cleanup nowUtcMs none
    ({ m with
        revokedAgents := m.revokedAgents.insert agentDid (nowUtcMs + REVOKED_AGENT_MARKER_TTL_MS) },
      .ok .done)
  else (m, .error invalidRevokeBody)

def isAgentRevoked (m : InMemoryStore) (agentDid : JsString) (nowUtcMs : ℕ) :
    InMemoryStore × Answer :=
  if Protocol.isAgentDid agentDid then
    let m := m.cleanup nowUtcMs none
    (m, .ok (.answer
      ((m.revokedAgents.lookup agentDid).any fun expiresAtMs => (nowUtcMs : ℤ) < expiresAtMs)))
  else (m, .error invalidRevokedCheckBody)

def peers (m : InMemoryStore) (agentDid : JsString) : List JsString :=
  (m.agentPeers.lookup agentDid).getD []

def isAgentKnown (m : InMemoryStore) (agentDid : JsString) : Answer :=
  .ok (.answer (0 < (m.peers agentDid).length))

def isPairAllowed (m : InMemoryStore) (input : PairingInput) : Answer :=
  .ok (.answer (input.initiatorAgentDid = input.responderAgentDid ||
    toPairKey input.initiatorAgentDid input.responderAgentDid ∈ m.pairKeys))

def upsertPair (m : InMemoryStore) (input : PairingInput) : InMemoryStore × Answer :=
  (m.pair input.initiatorAgentDid input.responderAgentDid, .ok .done)

/-- One call of `createInMemoryProxyTrustStore`. -/
def perform (platform : Platform) (m : InMemoryStore) (call : StoreCall) (nowUtcMs : ℕ) :
    InMemoryStore × Answer :=
  match call with
  | .createPairingTicket input => m.createPairingTicket platform input nowUtcMs
  | .confirmPairingTicket input => m.confirmPairingTicket platform input nowUtcMs
  | .getPairingTicketStatus input => m.getPairingTicketStatus platform input nowUtcMs
  | .markAgentRevoked agentDid => m.markAgentRevoked agentDid nowUtcMs
  | .isAgentRevoked agentDid => m.isAgentRevoked agentDid nowUtcMs
  | .isAgentKnown agentDid => (m, m.isAgentKnown agentDid)
  | .isPairAllowed input => (m, m.isPairAllowed input)
  | .upsertPair input => m.upsertPair input

/-- The two maps of tickets. -/
def maps (m : InMemoryStore) : ExpirableTrustState :=
  ⟨m.pairingTickets, m.confirmedPairingTickets⟩

end InMemoryStore

end Clawdentity.TrustStore
