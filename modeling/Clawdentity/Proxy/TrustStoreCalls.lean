import Clawdentity.Lib.Run
import Clawdentity.Proxy.TrustStoreMaps

/-!
# Calls to both trust stores

Both stores take the same calls with the same clocks. They drop expired entries at different
times: the durable object at its alarm, the in-memory store at most of its calls. Until their
expiry has come, both hold the same entries.

## Main definitions

* `StoreCall.Valid` — the inputs that the routes pass.
* `Stores.step` — a call to both stores, or an alarm of the durable object.
* `Alike`, `SameOutcome` — when two answers agree.
* `Stores.Agree` — the stores hold the same entries, up to expired ones.
* `Stores.CallAgrees` — a call keeps the agreement, and its two answers agree.
* `create_agrees`, `status_agrees` — creating a ticket and asking for its status.
-/

namespace Clawdentity.TrustStore

open Js Lib PairingTicket TrustState Protocol

/-! ## Valid calls -/

/-- The text is not blank once it is normalised, and one normalisation is enough. -/
structure TicketText (text : JsString) : Prop where
  filled : isNonEmptyString (normalizePairingTicketText text) = true
  settled : normalizePairingTicketText (normalizePairingTicketText text) =
    normalizePairingTicketText text

theorem normalize_of_no_blank {text : JsString} (h : ∀ u ∈ text, isWhiteSpace u = false) :
    normalizePairingTicketText text = (text.dropWhile isBacktick).rdropWhile isBacktick := by
  have hmem : ∀ u ∈ (text.dropWhile isBacktick).rdropWhile isBacktick, isWhiteSpace u = false := by
    intro u hu
    exact h u ((List.dropWhile_sublist _).mem ((List.rdropWhile_prefix _ _).mem hu))
  have htrim : trim text = text := Lib.Text.trim_eq_self h
  have htrim' : trim ((text.dropWhile isBacktick).rdropWhile isBacktick) =
      (text.dropWhile isBacktick).rdropWhile isBacktick := Lib.Text.trim_eq_self hmem
  rw [normalizePairingTicketText, htrim, htrim']
  refine List.filter_eq_self.mpr ?_
  intro u hu
  rw [hmem u hu]
  rfl

theorem strip_strip (text : JsString) :
    (((text.dropWhile isBacktick).rdropWhile isBacktick).dropWhile isBacktick).rdropWhile
      isBacktick = (text.dropWhile isBacktick).rdropWhile isBacktick := by
  have hhead : ((text.dropWhile isBacktick).rdropWhile isBacktick).dropWhile isBacktick =
      (text.dropWhile isBacktick).rdropWhile isBacktick := by
    refine List.dropWhile_eq_self_iff.mpr ?_
    intro hpos
    have hstarts := List.rdropWhile_prefix isBacktick (text.dropWhile isBacktick)
    rw [hstarts.getElem hpos]
    exact List.dropWhile_get_zero_not _ _ (hpos.trans_le hstarts.length_le)
  rw [hhead, List.rdropWhile_idempotent]

/-- Two normalisations settle every text. -/
theorem normalize_twice (text : JsString) :
    normalizePairingTicketText (normalizePairingTicketText (normalizePairingTicketText text)) =
      normalizePairingTicketText (normalizePairingTicketText text) := by
  have hblank : ∀ u ∈ normalizePairingTicketText text, isWhiteSpace u = false := by
    intro u hu
    simpa using (List.mem_filter.mp hu).2
  have hblank' : ∀ u ∈ normalizePairingTicketText (normalizePairingTicketText text),
      isWhiteSpace u = false := by
    intro u hu
    simpa using (List.mem_filter.mp hu).2
  rw [normalize_of_no_blank hblank', normalize_of_no_blank hblank, strip_strip]

/-- The routes pass a text that they have normalised. -/
theorem TicketText.of_route {text : JsString}
    (hfilled : isNonEmptyString
      (normalizePairingTicketText (normalizePairingTicketText text)) = true) :
    TicketText (normalizePairingTicketText text) := ⟨hfilled, normalize_twice text⟩

/-- The input of `createPairingTicket`, as the route passes it. -/
structure PairingTicketInput.Valid (platform : Platform) (input : PairingTicketInput) : Prop where
  initiator : isAgentDid input.initiatorAgentDid = true
  profile : reparsePeerProfile platform input.initiatorProfile = some input.initiatorProfile
  issuer : isNonEmptyString input.issuerProxyUrl = true
  ticket : TicketText input.ticket
  publicKey : isNonEmptyString input.publicKeyX = true
  responder : ∀ did ∈ input.allowResponderAgentDid, isAgentDid (trim did) = true
  expiry : ∃ expiresAtMs : ℤ, 0 < expiresAtMs ∧ input.expiresAtMs = expiresAtMs

structure PairingTicketConfirmInput.Valid (platform : Platform)
    (input : PairingTicketConfirmInput) : Prop where
  ticket : TicketText input.ticket
  responder : isAgentDid input.responderAgentDid = true
  profile : reparsePeerProfile platform input.responderProfile = some input.responderProfile

structure PairingInput.Valid (input : PairingInput) : Prop where
  initiator : isAgentDid input.initiatorAgentDid = true
  responder : isAgentDid input.responderAgentDid = true

def StoreCall.Valid (platform : Platform) : StoreCall → Prop
  | .createPairingTicket input => input.Valid platform
  | .confirmPairingTicket input => input.Valid platform
  | .getPairingTicketStatus input => TicketText input.ticket
  | .markAgentRevoked agentDid | .isAgentRevoked agentDid | .isAgentKnown agentDid =>
      isAgentDid agentDid = true
  | .isPairAllowed input | .upsertPair input => input.Valid

/-- The clock of a call. -/
def StoreCall.nowMs (nowUtcMs : ℕ) : StoreCall → ℚ
  | .createPairingTicket input => input.nowMs.getD nowUtcMs
  | .confirmPairingTicket input => input.nowMs.getD nowUtcMs
  | .getPairingTicketStatus input => input.nowMs.getD nowUtcMs
  | _ => nowUtcMs

/-- The latest time that a `Date` can hold. -/
def MAX_TIME_VALUE : ℕ := 8640000000000000

/-! ## Runs of both stores -/

inductive StoreEvent
  | call (c : StoreCall) (nowUtcMs : ℕ)
  | alarm (nowUtcMs : ℕ)
  deriving DecidableEq

def StoreEvent.nowMs : StoreEvent → ℚ
  | .call c nowUtcMs => c.nowMs nowUtcMs
  | .alarm nowUtcMs => nowUtcMs

def StoreEvent.Valid (platform : Platform) : StoreEvent → Prop
  | .call c nowUtcMs => c.Valid platform ∧ nowUtcMs ≤ MAX_TIME_VALUE
  | .alarm _ => True

/-- The durable object and the in-memory store. -/
structure Stores where
  durable : TrustStorage
  memory : InMemoryStore
  deriving DecidableEq

def Stores.empty : Stores := ⟨.empty, .empty⟩

section
variable (platform : Platform)

def Stores.step (s : Stores) : StoreEvent → Stores
  | .call c nowUtcMs =>
      ⟨(TrustState.perform platform s.durable (createDurableProxyTrustStore c nowUtcMs)).1,
        (s.memory.perform platform c nowUtcMs).1⟩
  | .alarm nowUtcMs => ⟨runAlarmCleanup platform s.durable nowUtcMs, s.memory⟩

def Stores.durableAnswer (s : Stores) (call : StoreCall) (nowUtcMs : ℕ) : Answer :=
  callDurableState
    (TrustState.perform platform s.durable (createDurableProxyTrustStore call nowUtcMs)).2

def Stores.memoryAnswer (s : Stores) (call : StoreCall) (nowUtcMs : ℕ) : Answer :=
  (s.memory.perform platform call nowUtcMs).2

end

/-- The same answer, or one reports a ticket as expired that the other does not find. -/
def Alike (a b : Answer) : Prop :=
  a = b ∨ (a = .error ticketExpired ∧ b = .error ticketNotFound) ∨
    (a = .error ticketNotFound ∧ b = .error ticketExpired)

/-- Both return the same payload, or both fail. -/
def SameOutcome (a b : Answer) : Prop :=
  a = b ∨ ∃ e e', a = .error e ∧ b = .error e'

theorem Alike.sameOutcome {a b : Answer} (h : Alike a b) : SameOutcome a b := by
  rcases h with heq | ⟨ha, hb⟩ | ⟨ha, hb⟩
  · exact .inl heq
  · exact .inr ⟨_, _, ha, hb⟩
  · exact .inr ⟨_, _, ha, hb⟩

/-! ## The request of a call -/

section
variable {platform : Platform} {call : StoreCall} {nowUtcMs : ℕ}

theorem parsePeerProfile_json (profile : PeerProfile) :
    parsePeerProfile platform (some (profileJson profile)) =
      reparsePeerProfile platform profile := by
  have hrecord : isRecord (profileJson profile) = true := rfl
  simp only [parsePeerProfile, hrecord, if_true, reparsePeerProfile]
  simp only [profileJson, get?_object]
  cases profile.proxyOrigin <;> simp [Json.str?]

theorem readTicket_normalized {text : JsString} (h : TicketText text) :
    readTicket platform (normalizePairingTicketText text) =
      (InMemoryStore.parseStoredTicket platform (normalizePairingTicketText text)).map
        fun payload => (normalizePairingTicketText text, payload) := by
  simp only [readTicket, parseNormalizedPairingTicket, h.settled, InMemoryStore.parseStoredTicket]
  cases parsePairingTicket platform (normalizePairingTicketText text) <;> rfl

theorem text_request {body : Value} {key : String} {value : JsString}
    (h : body.get? (js key) = some (.str value)) (hfilled : isNonEmptyString value = true) :
    ConfirmRequest.text ⟨some body, nowUtcMs⟩ key = some value := by
  simp [ConfirmRequest.text, ConfirmRequest.field, h, Json.str?, hfilled]

theorem nowMs_request {body : Value} {nowMs : Option ℚ}
    (h : body.get? (js "nowMs") = nowMs.map .num) :
    ConfirmRequest.nowMs ⟨some body, nowUtcMs⟩ = nowMs.getD nowUtcMs := by
  simp only [ConfirmRequest.nowMs, ConfirmRequest.field, Option.bind_some, h]
  cases nowMs <;> rfl

theorem parseAllowed_eq {value : Option JsString}
    (h : ∀ did ∈ value, isAgentDid (trim did) = true) :
    parseAllowedResponder (value.map .str) = .ok (value.map trim) ∧
      InMemoryStore.parseAllowed value = .ok (value.map trim) := by
  cases value with
  | none => exact ⟨rfl, rfl⟩
  | some did =>
      have hdid := h did rfl
      have hfilled : isNonEmptyString did = true := by
        have htrimmed := isNonEmptyString_of_agentDid hdid
        rwa [isNonEmptyString, trim_trim] at htrimmed
      have hne : (trim did).isEmpty = false := by simpa [isNonEmptyString] using hfilled
      have hsome : (some did).filter isNonEmptyString = some did := by simp [hfilled]
      simp [parseAllowedResponder, InMemoryStore.parseAllowed, Json.str?, hsome, hdid, hne]

/-- **What the durable object checks of a new ticket**: what the in-memory store checks, and
then its expiry. -/
theorem createdTicket_request {input : PairingTicketInput} (h : input.Valid platform) :
    TrustState.createdTicket platform
        ⟨some (requestBody (.createPairingTicket input)), nowUtcMs⟩ =
      (InMemoryStore.createdTicket platform input).bind fun created =>
        if input.nowMs.getD nowUtcMs < (created.2.expiresAtMs : ℚ) then .ok created
        else .error ticketExpired := by
  obtain ⟨expiresAtMs, hpositive, hexpires⟩ := h.expiry
  generalize hrequest : (⟨some (requestBody (.createPairingTicket input)), nowUtcMs⟩ :
    TrustRequest) = request
  have hprofile : parsePeerProfile platform (request.field "initiatorProfile") =
      some input.initiatorProfile := by
    rw [← h.profile, ← parsePeerProfile_json, ← hrequest]
    simp [ConfirmRequest.field, requestBody]
  have hinitiator : request.text "initiatorAgentDid" = some input.initiatorAgentDid := by
    rw [← hrequest]
    exact text_request (by simp [requestBody]) (isNonEmptyString_of_agentDid h.initiator)
  have hissuer : request.text "issuerProxyUrl" = some input.issuerProxyUrl := by
    rw [← hrequest]
    exact text_request (by simp [requestBody]) h.issuer
  have hticket : request.text "ticket" = some (normalizePairingTicketText input.ticket) := by
    rw [← hrequest]
    exact text_request (by simp [requestBody]) h.ticket.filled
  have hkey : request.text "publicKeyX" = some input.publicKeyX := by
    rw [← hrequest]
    exact text_request (by simp [requestBody]) h.publicKey
  have hexpiry : (request.field "expiresAtMs").bind Json.int? = some expiresAtMs := by
    rw [← hrequest]
    simp [ConfirmRequest.field, requestBody, hexpires, Json.int?, Json.num?]
  have hallowed : request.field "allowResponderAgentDid" =
      input.allowResponderAgentDid.map .str := by
    rw [← hrequest]
    simp [ConfirmRequest.field, requestBody]
  have hcallback : (request.field "callbackUrl").isNone = true := by
    rw [← hrequest]
    simp [ConfirmRequest.field, requestBody]
  have hnow : request.nowMs = input.nowMs.getD nowUtcMs := by
    rw [← hrequest]
    exact nowMs_request (by simp [requestBody])
  have hkeyFilled : (trim input.publicKeyX).isEmpty = false := by
    simpa [isNonEmptyString] using h.publicKey
  simp only [TrustState.createdTicket, hprofile, hinitiator, hissuer, hticket, hkey, hexpiry,
    hallowed, hcallback, hnow, (parseAllowed_eq h.responder).1, readTicket_normalized h.ticket,
    InMemoryStore.createdTicket, (parseAllowed_eq h.responder).2, Option.elim_some, hkeyFilled,
    hexpires, bind, Except.bind, pure, Except.pure, check, hpositive, decide_true, if_true]
  cases InMemoryStore.parseStoredTicket platform (normalizePairingTicketText input.ticket) with
  | error e => rfl
  | ok payload =>
      by_cases hiss : payload.iss = input.issuerProxyUrl
      · by_cases hexp : payload.exp * 1000 = normalizeExpiryToWholeSecond expiresAtMs
        · by_cases hlive :
            input.nowMs.getD nowUtcMs < (normalizeExpiryToWholeSecond expiresAtMs : ℚ)
          · simp [Except.map, hiss, hexp, hlive]
          · simp [Except.map, hiss, hexp, hlive]
        · simp [Except.map, hiss, hexp]
      · simp [Except.map, hiss]

end

/-! ## Stores that agree -/

/-- The two stores have the same pairs and the same peers. -/
structure IndexAgree (s : TrustStorage) (m : InMemoryStore) : Prop where
  pairs : ∀ key, key ∈ s.pairs ↔ key ∈ m.pairKeys
  peers : ∀ a b, b ∈ s.peers a ↔ b ∈ m.peers a

/-- The markers agree up to expired ones, and the durable ones are valid. -/
structure RevokedAgree (nowMs : ℚ) (durable memory : Table JsString ℤ) : Prop where
  valid : ValidMarkers durable
  agree : Table.AgreeUpTo (fun expiresAtMs : ℤ => (expiresAtMs : ℚ) ≤ nowMs) durable memory

/-- The two stores hold the same, up to what has expired. -/
structure Stores.Agree (platform : Platform) (nowMs : ℚ) (s : Stores) : Prop where
  stable : Stable platform s.durable.maps
  maps : MapsAgree platform nowMs s.durable.maps s.memory.maps
  revoked : RevokedAgree nowMs (loadRevokedAgents s.durable) s.memory.revokedAgents
  index : IndexAgree s.durable s.memory

section
variable {platform : Platform} {nowMs nowMs' : ℚ} {d d' : TrustStorage} {m m' : InMemoryStore}

theorem IndexAgree.same (h : IndexAgree d m) (hsame : SameIndex d d')
    (hpairs : m'.pairKeys = m.pairKeys) (hpeers : m'.agentPeers = m.agentPeers) :
    IndexAgree d' m' := by
  constructor
  · intro key
    rw [hsame.1, hpairs]
    exact h.pairs key
  · intro a b
    rw [hsame.peers, InMemoryStore.peers, hpeers]
    exact h.peers a b

theorem IndexAgree.pair {a b : JsString} (h : IndexAgree d m) (ha : isNonEmptyString a = true)
    (hb : isNonEmptyString b = true) : IndexAgree (savePairAndPeers d a b) (m.pair a b) := by
  constructor
  · intro key
    rw [mem_savePairs_iff, mem_pairKeys_pair, h.pairs]
  · intro x y
    rw [mem_peers_savePair ha hb, mem_peers_pair, h.peers]

variable {r r' t t' : Table JsString ℤ}

theorem RevokedAgree.mono (h : RevokedAgree nowMs r t) (hle : nowMs ≤ nowMs') :
    RevokedAgree nowMs' r t :=
  ⟨h.valid, h.agree.mono fun _ hexpired => hexpired.trans hle⟩

theorem RevokedAgree.loses (h : RevokedAgree nowMs r t)
    (hr : Table.Loses (fun expiresAtMs : ℤ => (expiresAtMs : ℚ) ≤ nowMs) r r')
    (ht : Table.Loses (fun expiresAtMs : ℤ => (expiresAtMs : ℚ) ≤ nowMs) t t') :
    RevokedAgree nowMs r' t' :=
  ⟨fun did e he => h.valid did e (hr.lookup he), ((h.agree.loses hr).symm.loses ht).symm⟩

theorem Stores.Agree.mono {s : Stores} (h : s.Agree platform nowMs) (hle : nowMs ≤ nowMs') :
    s.Agree platform nowMs' :=
  ⟨h.stable, h.maps.mono hle, h.revoked.mono hle, h.index⟩

end

/-! ## The conditions -/

section
variable (platform : Platform)

/-- A ticket that the in-memory store creates has not expired. -/
def StoreEvent.createsLive : StoreEvent → Bool
  | .call (.createPairingTicket input) nowUtcMs =>
      match InMemoryStore.createdTicket platform input with
      | .ok (_, ticket) => input.nowMs.getD nowUtcMs < (ticket.expiresAtMs : ℚ)
      | .error _ => true
  | _ => true

/-- A confirmation finds a confirmed ticket with its text in both stores or in neither; and
where only one store has the pending ticket, its signature is valid. -/
def Stores.confirmsHeld (s : Stores) : StoreEvent → Bool
  | .call (.confirmPairingTicket input) _ =>
      let text := normalizePairingTicketText input.ticket
      match InMemoryStore.parseStoredTicket platform text with
      | .error _ => true
      | .ok payload =>
          (s.durable.confirmedPairingTickets.lookup payload.kid).filter (fun e => e.ticket = text) =
            (s.memory.confirmedPairingTickets.lookup payload.kid).filter
              (fun e => e.ticket = text) &&
          (s.durable.pairingTickets.lookup payload.kid =
              s.memory.pairingTickets.lookup payload.kid ||
            ((s.durable.pairingTickets.lookup payload.kid).or
              (s.memory.pairingTickets.lookup payload.kid)).any fun stored =>
                platform.verifySignature payload stored.publicKeyX)
  | _ => true

/-- What a call preserves, and how its two answers compare. -/
structure Stores.CallAgrees (s : Stores) (c : StoreCall) (nowUtcMs : ℕ) : Prop where
  agree : (s.step platform (.call c nowUtcMs)).Agree platform (c.nowMs nowUtcMs)
  outcome : SameOutcome (s.durableAnswer platform c nowUtcMs) (s.memoryAnswer platform c nowUtcMs)
  alike : s.confirmsHeld platform (.call c nowUtcMs) = true →
    Alike (s.durableAnswer platform c nowUtcMs) (s.memoryAnswer platform c nowUtcMs)

end

section
variable {platform : Platform} {s : Stores} {c : StoreCall} {nowUtcMs : ℕ} {d : TrustStorage}
  {m : InMemoryStore} {reply : Reply} {answer : Answer}

theorem Stores.CallAgrees.of_outcome
    (hdurable : TrustState.perform platform s.durable (createDurableProxyTrustStore c nowUtcMs) =
      (d, reply))
    (hmemory : s.memory.perform platform c nowUtcMs = (m, answer))
    (hagree : Stores.Agree platform (c.nowMs nowUtcMs) ⟨d, m⟩)
    (houtcome : SameOutcome (callDurableState reply) answer)
    (halike : s.confirmsHeld platform (.call c nowUtcMs) = true →
      Alike (callDurableState reply) answer) :
    s.CallAgrees platform c nowUtcMs := by
  constructor
  · rw [Stores.step, hdurable, hmemory]
    exact hagree
  · rw [Stores.durableAnswer, Stores.memoryAnswer, hdurable, hmemory]
    exact houtcome
  · rw [Stores.durableAnswer, Stores.memoryAnswer, hdurable, hmemory]
    exact halike

theorem Stores.CallAgrees.of_alike
    (hdurable : TrustState.perform platform s.durable (createDurableProxyTrustStore c nowUtcMs) =
      (d, reply))
    (hmemory : s.memory.perform platform c nowUtcMs = (m, answer))
    (hagree : Stores.Agree platform (c.nowMs nowUtcMs) ⟨d, m⟩)
    (halike : Alike (callDurableState reply) answer) : s.CallAgrees platform c nowUtcMs :=
  .of_outcome hdurable hmemory hagree halike.sameOutcome fun _ => halike

end

/-! ## Creating a ticket -/

section
variable {platform : Platform} {s : Stores} {nowUtcMs : ℕ}

theorem parse_of_parseStoredTicket {text : JsString} {payload : PairingTicketPayload}
    (h : InMemoryStore.parseStoredTicket platform text = .ok payload) :
    parsePairingTicket platform text = .ok payload := by
  unfold InMemoryStore.parseStoredTicket at h
  split at h
  · rename_i parsed hok
    cases h
    exact hok
  · cases h

theorem inMemory_createdTicket_eq_ok {input : PairingTicketInput} {kid : JsString}
    {ticket : StoredPairingTicket}
    (h : InMemoryStore.createdTicket platform input = .ok (kid, ticket)) :
    ∃ payload, parsePairingTicket platform ticket.ticket = .ok payload ∧
      payload.exp * 1000 = ticket.expiresAtMs := by
  simp only [InMemoryStore.createdTicket, bind_eq_ok, check_eq_ok] at h
  obtain ⟨payload, hparse, _, _, _, hexp, _, _, allowed, _, hticket⟩ := h
  cases hticket
  exact ⟨payload, parse_of_parseStoredTicket hparse, of_decide_eq_true hexp⟩

theorem create_agrees (horigin : OriginStable platform) {input : PairingTicketInput}
    (hs : s.Agree platform (input.nowMs.getD nowUtcMs)) (hvalid : input.Valid platform)
    (hlive : (StoreEvent.call (.createPairingTicket input) nowUtcMs).createsLive platform = true) :
    s.CallAgrees platform (.createPairingTicket input) nowUtcMs := by
  have htrimmed : Trimmed platform (input.nowMs.getD nowUtcMs) s.memory
      (s.memory.cleanup (input.nowMs.getD nowUtcMs) none) := cleanup_trimmed s.memory none
  have hmaps := hs.maps.pruned_right htrimmed.maps
  have hrevoked := hs.revoked.loses (.refl _ _) htrimmed.revoked
  cases hinput : InMemoryStore.createdTicket platform input with
  | error e =>
      have hdurable : TrustState.perform platform s.durable
          (createDurableProxyTrustStore (.createPairingTicket input) nowUtcMs) =
          (s.durable, .error e) := by
        simp only [createDurableProxyTrustStore, TrustState.perform, handleCreatePairingTicket,
          createdTicket_request hvalid, hinput, Except.bind]
      have hmemory : s.memory.perform platform (.createPairingTicket input) nowUtcMs =
          (s.memory.cleanup (input.nowMs.getD nowUtcMs) none, .error e) := by
        simp only [InMemoryStore.perform, InMemoryStore.createPairingTicket, hinput]
      exact .of_alike hdurable hmemory
        ⟨hs.stable, hmaps, hrevoked, hs.index.same ⟨rfl, rfl⟩ rfl rfl⟩ (.inl rfl)
  | ok created =>
      obtain ⟨kid, ticket⟩ := created
      have hnow : input.nowMs.getD nowUtcMs < (ticket.expiresAtMs : ℚ) := by
        simpa [StoreEvent.createsLive, hinput] using hlive
      have hcreated : TrustState.createdTicket platform
          ⟨some (requestBody (.createPairingTicket input)), nowUtcMs⟩ = .ok (kid, ticket) := by
        rw [createdTicket_request hvalid, hinput]
        simp [Except.bind, hnow]
      have hdurable : TrustState.perform platform s.durable
          (createDurableProxyTrustStore (.createPairingTicket input) nowUtcMs) =
          (saveExpirableStateAndSchedule s.durable
            ((loadExpirableState platform s.durable).withTicket kid ticket),
            .created kid ticket) := by
        simp only [createDurableProxyTrustStore, TrustState.perform, handleCreatePairingTicket,
          hcreated]
      have hmemory : s.memory.perform platform (.createPairingTicket input) nowUtcMs =
          ({ s.memory.cleanup (input.nowMs.getD nowUtcMs) none with
              pairingTickets := (s.memory.cleanup (input.nowMs.getD nowUtcMs)
                none).pairingTickets.insert kid ticket
              confirmedPairingTickets := (s.memory.cleanup (input.nowMs.getD nowUtcMs)
                none).confirmedPairingTickets.erase kid },
            .ok (.created (createdResult ticket))) := by
        simp only [InMemoryStore.perform, InMemoryStore.createPairingTicket, hinput]
      obtain ⟨payload, hparse, hexp⟩ := inMemory_createdTicket_eq_ok hinput
      refine .of_alike hdurable hmemory ⟨?_, ?_, hrevoked, ?_⟩ (.inl rfl)
      · exact hs.stable.load.withTicket (createdTicket_stable horigin hcreated)
      · exact (hmaps.pruned (pruned_load hs.stable)).withTicket hparse hexp
      · exact hs.index.same ⟨rfl, rfl⟩ rfl rfl

end

/-! ## The status of a ticket -/

/-- The answer on the status of a ticket, from the entries that a store has under its `kid`. -/
def statusAnswer (pending : Option StoredPairingTicket)
    (confirmed : Option StoredConfirmedPairingTicket) (text : JsString)
    (payload : PairingTicketPayload) (nowMs : ℚ) : Answer :=
  let passed : Bool := ((payload.exp * 1000 : ℤ) : ℚ) ≤ nowMs
  match pending.filter (fun e => e.ticket = text), confirmed.filter (fun e => e.ticket = text) with
  | some entry, _ =>
      if (entry.expiresAtMs : ℚ) ≤ nowMs || passed then .error ticketExpired
      else .ok (.status (pendingStatus entry))
  | none, some entry =>
      if (entry.expiresAtMs : ℚ) ≤ nowMs || passed then .error ticketExpired
      else .ok (.status (confirmedStatus entry))
  | none, none => .error (if passed then ticketExpired else ticketNotFound)

section
variable {platform : Platform} {s : Stores} {nowMs : ℚ} {nowUtcMs : ℕ} {a b : ExpirableTrustState}
  {text : JsString} {payload : PairingTicketPayload}

/-- The entry is missing: the ticket is expired or not found. -/
theorem statusAnswer_none (payload : PairingTicketPayload) (text : JsString) (nowMs : ℚ) :
    statusAnswer none none text payload nowMs = .error ticketExpired ∨
      statusAnswer none none text payload nowMs = .error ticketNotFound := by
  simp only [statusAnswer, Option.filter_none]
  cases decide (((payload.exp * 1000 : ℤ) : ℚ) ≤ nowMs)
  · exact .inr rfl
  · exact .inl rfl

/-- An expired entry that one store has lost. -/
theorem statusAnswer_alike_none {pending : Option StoredPairingTicket}
    {confirmed : Option StoredConfirmedPairingTicket}
    (hparse : parsePairingTicket platform text = .ok payload)
    (hpending : ∀ e, pending = some e → Outdated platform nowMs e.ticket e.expiresAtMs)
    (hconfirmed : ∀ e, confirmed = some e → Outdated platform nowMs e.ticket e.expiresAtMs) :
    Alike (statusAnswer pending confirmed text payload nowMs)
      (statusAnswer none none text payload nowMs) := by
  have houtdated : ∀ {expiresAtMs : ℤ}, Outdated platform nowMs text expiresAtMs →
      (decide ((expiresAtMs : ℚ) ≤ nowMs) ||
        decide (((payload.exp * 1000 : ℤ) : ℚ) ≤ nowMs)) = true := by
    rintro expiresAtMs (hexpired | ⟨payload', hparse', hexpired⟩)
    · rw [decide_eq_true hexpired, Bool.true_or]
    · rw [hparse] at hparse'
      cases hparse'
      rw [decide_eq_true hexpired, Bool.or_true]
  have hexpired : statusAnswer pending confirmed text payload nowMs = .error ticketExpired →
      Alike (statusAnswer pending confirmed text payload nowMs)
        (statusAnswer none none text payload nowMs) := by
    intro h
    rw [h]
    rcases statusAnswer_none payload text nowMs with hnone | hnone
    · exact .inl hnone.symm
    · exact .inr (.inl ⟨rfl, hnone⟩)
  cases hp : pending.filter (fun e => e.ticket = text) with
  | some entry =>
      obtain ⟨hentry, htext⟩ := Option.filter_eq_some_iff.mp hp
      have hold := hpending entry hentry
      rw [of_decide_eq_true htext] at hold
      refine hexpired ?_
      simp only [statusAnswer, hp]
      rw [if_pos (houtdated hold)]
  | none =>
      cases hc : confirmed.filter (fun e => e.ticket = text) with
      | some entry =>
          obtain ⟨hentry, htext⟩ := Option.filter_eq_some_iff.mp hc
          have hold := hconfirmed entry hentry
          rw [of_decide_eq_true htext] at hold
          refine hexpired ?_
          simp only [statusAnswer, hp, hc]
          rw [if_pos (houtdated hold)]
      | none =>
          refine .inl ?_
          simp only [statusAnswer, hp, hc, Option.filter_none]

theorem Alike.symm {x y : Answer} (h : Alike x y) : Alike y x := by
  rcases h with heq | ⟨hx, hy⟩ | ⟨hx, hy⟩
  · exact .inl heq.symm
  · exact .inr (.inr ⟨hy, hx⟩)
  · exact .inr (.inl ⟨hy, hx⟩)

/-- **Maps that agree give the same status**, up to expired tickets. -/
theorem MapsAgree.status (h : MapsAgree platform nowMs a b)
    (hparse : parsePairingTicket platform text = .ok payload) :
    Alike
      (statusAnswer (a.pairingTickets.lookup payload.kid)
        (a.confirmedPairingTickets.lookup payload.kid) text payload nowMs)
      (statusAnswer (b.pairingTickets.lookup payload.kid)
        (b.confirmedPairingTickets.lookup payload.kid) text payload nowMs) := by
  rcases h.pending payload.kid with hsame | ⟨hnone, e, he, hgone⟩ | ⟨hnone, e, he, hgone⟩
  · rcases h.confirmed payload.kid with hsame' | ⟨hnone', c, hc, hgone'⟩ | ⟨hnone', c, hc, hgone'⟩
    · rw [hsame, hsame']
      exact .inl rfl
    · have hpending : a.pairingTickets.lookup payload.kid = none := by
        refine Option.eq_none_iff_forall_ne_some.mpr ?_
        intro e he
        rw [(h.exclusive _ e (.inl he)).1] at hc
        cases hc
      rw [← hsame, hpending, hnone', hc]
      refine statusAnswer_alike_none hparse (fun _ h => by cases h) ?_
      rintro c' ⟨⟩
      exact hgone'
    · have hpending : a.pairingTickets.lookup payload.kid = none := by
        refine Option.eq_none_iff_forall_ne_some.mpr ?_
        intro e he
        rw [(h.exclusive _ e (.inl he)).2] at hc
        cases hc
      rw [← hsame, hpending, hnone', hc]
      refine (statusAnswer_alike_none hparse (fun _ h => by cases h) ?_).symm
      rintro c' ⟨⟩
      exact hgone'
  · obtain ⟨ha, hb⟩ := h.exclusive _ e (.inl he)
    rw [hnone, ha, hb, he]
    refine statusAnswer_alike_none hparse ?_ (fun _ h => by cases h)
    rintro e' ⟨⟩
    exact hgone
  · obtain ⟨ha, hb⟩ := h.exclusive _ e (.inr he)
    rw [hnone, ha, hb, he]
    refine (statusAnswer_alike_none hparse ?_ (fun _ h => by cases h)).symm
    rintro e' ⟨⟩
    exact hgone

/-- What the durable object does for a status request. -/
theorem durable_status {input : PairingTicketStatusInput} (hs : Stable platform s.durable.maps)
    (htext : TicketText input.ticket)
    (hparse : parsePairingTicket platform (normalizePairingTicketText input.ticket) = .ok payload) :
    callDurableState (TrustState.perform platform s.durable
        (createDurableProxyTrustStore (.getPairingTicketStatus input) nowUtcMs)).2 =
      statusAnswer (s.durable.pairingTickets.lookup payload.kid)
        (s.durable.confirmedPairingTickets.lookup payload.kid)
        (normalizePairingTicketText input.ticket) payload (input.nowMs.getD nowUtcMs) := by
  generalize hrequest : (⟨some (requestBody (.getPairingTicketStatus input)), nowUtcMs⟩ :
    TrustRequest) = request
  have hticket : request.text "ticket" = some (normalizePairingTicketText input.ticket) := by
    rw [← hrequest]
    exact text_request (by simp [requestBody]) htext.filled
  have hnow : request.nowMs = input.nowMs.getD nowUtcMs := by
    rw [← hrequest]
    exact nowMs_request (by simp [requestBody])
  have hread : readTicket platform (normalizePairingTicketText input.ticket) =
      .ok (normalizePairingTicketText input.ticket, payload) := by
    rw [readTicket_normalized htext, InMemoryStore.parseStoredTicket, hparse]
    rfl
  simp only [createDurableProxyTrustStore, hrequest, TrustState.perform,
    handleGetPairingTicketStatus, hticket, hread, hnow, lookup_load_pending hs.pending,
    lookup_load_confirmed hs.confirmed, statusAnswer]
  generalize (s.durable.pairingTickets.lookup payload.kid).filter _ = pending
  generalize (s.durable.confirmedPairingTickets.lookup payload.kid).filter _ = confirmed
  cases pending with
  | some entry =>
      simp only
      split <;> rfl
  | none =>
      cases confirmed with
      | some entry =>
          simp only
          split <;> rfl
      | none => rfl

/-- What the in-memory store does for a status request. -/
theorem memory_status {m : InMemoryStore} {input : PairingTicketStatusInput}
    (hparse : parsePairingTicket platform (normalizePairingTicketText input.ticket) = .ok payload) :
    (m.perform platform (.getPairingTicketStatus input) nowUtcMs).2 =
        statusAnswer (m.pairingTickets.lookup payload.kid)
          (m.confirmedPairingTickets.lookup payload.kid)
          (normalizePairingTicketText input.ticket) payload (input.nowMs.getD nowUtcMs) := by
  simp only [InMemoryStore.perform, InMemoryStore.getPairingTicketStatus,
    InMemoryStore.parseStoredTicket, hparse, cleanup_skip_pending, cleanup_skip_confirmed,
    statusAnswer]
  generalize (m.pairingTickets.lookup payload.kid).filter _ = pending
  generalize (m.confirmedPairingTickets.lookup payload.kid).filter _ = confirmed
  cases pending with
  | some entry =>
      simp only
      split <;> rfl
  | none =>
      cases confirmed with
      | some entry =>
          simp only
          split <;> rfl
      | none => rfl

theorem memory_status_trimmed {m : InMemoryStore} {input : PairingTicketStatusInput} :
    Trimmed platform (input.nowMs.getD nowUtcMs) m
      (m.perform platform (.getPairingTicketStatus input) nowUtcMs).1 := by
  simp only [InMemoryStore.perform, InMemoryStore.getPairingTicketStatus]
  split
  · exact .refl ..
  · rename_i payload hparse
    have hclean : Trimmed platform (input.nowMs.getD nowUtcMs) m
        (m.cleanup (input.nowMs.getD nowUtcMs) (some payload.kid)) := cleanup_trimmed m _
    have hparse' := parse_of_parseStoredTicket hparse
    split
    · rename_i entry hentry
      obtain ⟨hlookup, htext⟩ := Option.filter_eq_some_iff.mp hentry
      split
      · rename_i hpassed
        refine hclean.erase_pending ?_
        intro e he
        cases hlookup.symm.trans he
        rw [of_decide_eq_true htext]
        exact outdated_of_passed hparse' hpassed
      · exact hclean
    · rename_i entry _ hentry
      obtain ⟨hlookup, htext⟩ := Option.filter_eq_some_iff.mp hentry
      split
      · rename_i hpassed
        refine hclean.erase_confirmed ?_
        intro e he
        cases hlookup.symm.trans he
        rw [of_decide_eq_true htext]
        exact outdated_of_passed hparse' hpassed
      · exact hclean
    · exact hclean

theorem status_agrees (horigin : OriginStable platform) {input : PairingTicketStatusInput}
    (hs : s.Agree platform (input.nowMs.getD nowUtcMs)) (htext : TicketText input.ticket) :
    s.CallAgrees platform (.getPairingTicketStatus input) nowUtcMs := by
  generalize hrequest : (⟨some (requestBody (.getPairingTicketStatus input)), nowUtcMs⟩ :
    TrustRequest) = request
  have hnow : request.nowMs = input.nowMs.getD nowUtcMs := by
    rw [← hrequest]
    exact nowMs_request (by simp [requestBody])
  have hhandle : TrustState.perform platform s.durable
      (createDurableProxyTrustStore (.getPairingTicketStatus input) nowUtcMs) =
      handleGetPairingTicketStatus platform s.durable request := by
    rw [← hrequest]
    rfl
  have hstable := perform_stable horigin hs.stable
    (createDurableProxyTrustStore (.getPairingTicketStatus input) nowUtcMs)
  have hpruned := status_pruned hs.stable request
  have hrevoked := status_revoked platform request s.durable
  have hindex : SameIndex s.durable (handleGetPairingTicketStatus platform s.durable request).1 :=
    status_index request
  have htrimmed : Trimmed platform (input.nowMs.getD nowUtcMs) s.memory
      (s.memory.perform platform (.getPairingTicketStatus input) nowUtcMs).1 :=
    memory_status_trimmed
  rw [hnow] at hpruned
  rw [hhandle] at hstable
  have halike : Alike
      (callDurableState (handleGetPairingTicketStatus platform s.durable request).2)
      (s.memory.perform platform (.getPairingTicketStatus input) nowUtcMs).2 := by
    cases hparse : parsePairingTicket platform (normalizePairingTicketText input.ticket) with
    | ok payload =>
        rw [← hhandle, durable_status hs.stable htext hparse, memory_status hparse]
        exact hs.maps.status hparse
    | error e =>
        have hticket : request.text "ticket" = some (normalizePairingTicketText input.ticket) := by
          rw [← hrequest]
          exact text_request (by simp [requestBody]) htext.filled
        have hread : readTicket platform (normalizePairingTicketText input.ticket) =
            .error ⟨e.code, e.message, 400⟩ := by
          rw [readTicket_normalized htext, InMemoryStore.parseStoredTicket, hparse]
          rfl
        simp only [handleGetPairingTicketStatus, hticket, hread, InMemoryStore.perform,
          InMemoryStore.getPairingTicketStatus, InMemoryStore.parseStoredTicket, hparse]
        exact .inl rfl
  cases hdurable : handleGetPairingTicketStatus platform s.durable request with
  | mk d reply =>
      cases hmemory : s.memory.perform platform (.getPairingTicketStatus input) nowUtcMs with
      | mk m answer =>
          rw [hdurable] at hstable hpruned hrevoked hindex halike
          rw [hmemory] at htrimmed halike
          refine .of_alike (hhandle.trans hdurable) hmemory ⟨hstable, ?_, ?_, ?_⟩ halike
          · exact (hs.maps.pruned hpruned).pruned_right htrimmed.maps
          · exact loadRevokedAgents_congr hrevoked ▸ hs.revoked.loses (.refl _ _) htrimmed.revoked
          · exact hs.index.same hindex htrimmed.pairKeys htrimmed.agentPeers

end

end Clawdentity.TrustStore
