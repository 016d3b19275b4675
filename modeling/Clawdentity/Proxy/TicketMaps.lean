import Clawdentity.Proxy.TrustIndex

/-!
# The ticket maps between loading and saving

Every load reads the stored tickets anew and drops what is not valid. What the handlers
store has been through the same checks, so that a load gives back what was saved: the
tickets are under the `kid` of their own text, their profiles are parsed, and their issuer
is the one of the text.

## Main definitions

* `OriginStable` — the origin of a URL is a URL with this origin.
* `StableTickets`, `StableConfirmed` — maps that a load leaves as they are.
* `perform_stable`, `finishConfirm_stable` — the operations keep the maps stable.
-/

namespace Clawdentity.TrustState

open Js Lib Lib.Interleave PairingTicket Protocol

/-! ## Reading twice -/

/-- `new URL(url.origin).origin` is `url.origin`, for an HTTP URL. -/
def OriginStable (platform : Platform) : Prop :=
  ∀ text url, platform.parseUrl text = some url → url.isHttp = true →
    isNonEmptyString url.origin = true ∧
      ∃ again, platform.parseUrl (trim url.origin) = some again ∧ again.isHttp = true ∧
        again.origin = url.origin

section
variable {platform : Platform} {s t : TrustStorage}

theorem isNonEmptyString_trim {text : JsString} (h : isNonEmptyString text = true) :
    isNonEmptyString (trim text) = true := by
  rwa [isNonEmptyString, trim_trim]

/-- A profile that was parsed is parsed to itself. -/
theorem reparse_parsed (horigin : OriginStable platform) {agentName humanName : Option JsString}
    {proxyOrigin : Option (Option JsString)} {profile : PeerProfile}
    (h : parsePeerProfileFields platform agentName humanName proxyOrigin = some profile) :
    reparsePeerProfile platform profile = some profile := by
  simp only [parsePeerProfileFields, Option.bind_eq_bind, Option.bind_eq_some_iff,
    Option.filter_eq_some_iff] at h
  obtain ⟨agent, ⟨_, hagent⟩, human, ⟨_, hhuman⟩, h⟩ := h
  have hagent' := isNonEmptyString_trim hagent
  have hhuman' := isNonEmptyString_trim hhuman
  cases proxyOrigin with
  | none =>
      simp only [Option.some.injEq] at h
      subst h
      simp [reparsePeerProfile, parsePeerProfileFields, Option.filter_some, hagent', hhuman']
  | some value =>
      simp only [Option.bind_eq_some_iff, Option.ite_none_right_eq_some, Option.some.injEq] at h
      obtain ⟨text, _, url, hurl, hhttp, rfl⟩ := h
      obtain ⟨hblank, again, hagain, hhttp', hsame⟩ := horigin _ url hurl hhttp
      simp [reparsePeerProfile, parsePeerProfileFields, Option.filter_some, hagent', hhuman',
        hblank, hagain, hhttp', hsame]

theorem reparse_of_parsePeerProfile (horigin : OriginStable platform)
    {value : Option (Json JsString)} {profile : PeerProfile}
    (h : parsePeerProfile platform value = some profile) :
    reparsePeerProfile platform profile = some profile := by
  unfold parsePeerProfile at h
  split at h
  · split at h
    · exact reparse_parsed horigin h
    · cases h
  · cases h

/-! ## Stable maps -/

/-- A load leaves every pending ticket as it is. -/
def StableTickets (platform : Platform) (tickets : Table JsString StoredPairingTicket) : Prop :=
  ∀ kid entry, tickets.lookup kid = some entry →
    normalizePairingTicket platform kid entry = some (kid, entry)

/-- A load leaves every confirmed ticket as it is. -/
def StableConfirmed (platform : Platform) (tickets : Table JsString StoredConfirmedPairingTicket) :
    Prop :=
  ∀ kid entry, tickets.lookup kid = some entry →
    normalizeConfirmedPairingTicket platform kid entry = some (kid, entry)

/-- Both maps are stable. -/
structure Stable (platform : Platform) (state : ExpirableTrustState) : Prop where
  pending : StableTickets platform state.pairingTickets
  confirmed : StableConfirmed platform state.confirmedPairingTickets

/-- The maps as they are stored. -/
def TrustStorage.maps (s : TrustStorage) : ExpirableTrustState :=
  ⟨s.pairingTickets, s.confirmedPairingTickets⟩

theorem pending_of_maps {state : ExpirableTrustState} (h : s.maps = state) :
    s.pairingTickets = state.pairingTickets := congrArg ExpirableTrustState.pairingTickets h

theorem confirmed_of_maps {state : ExpirableTrustState} (h : s.maps = state) :
    s.confirmedPairingTickets = state.confirmedPairingTickets :=
  congrArg ExpirableTrustState.confirmedPairingTickets h

theorem lookup_load_pending (h : StableTickets platform s.pairingTickets) (kid : JsString) :
    (loadExpirableState platform s).pairingTickets.lookup kid = s.pairingTickets.lookup kid := by
  change (loadPairingTickets platform s).lookup kid = _
  rw [loadPairingTickets, Table.lookup_rekey_of_keeps]
  · cases hentry : s.pairingTickets.lookup kid with
    | none => rfl
    | some entry => simp [h kid entry hentry]
  · intro k v r hk hr
    rw [h k v hk] at hr
    cases hr
    rfl

theorem lookup_load_confirmed (h : StableConfirmed platform s.confirmedPairingTickets)
    (kid : JsString) : (loadExpirableState platform s).confirmedPairingTickets.lookup kid =
      s.confirmedPairingTickets.lookup kid := by
  change (s.confirmedPairingTickets.rekey _).lookup kid = _
  rw [Table.lookup_rekey_of_keeps]
  · cases hentry : s.confirmedPairingTickets.lookup kid with
    | none => rfl
    | some entry => simp [h kid entry hentry]
  · intro k v r hk hr
    rw [h k v hk] at hr
    cases hr
    rfl

theorem Stable.load (h : Stable platform s.maps) : Stable platform (loadExpirableState platform s) := by
  constructor
  · intro kid entry hentry
    rw [lookup_load_pending h.pending] at hentry
    exact h.pending kid entry hentry
  · intro kid entry hentry
    rw [lookup_load_confirmed h.confirmed] at hentry
    exact h.confirmed kid entry hentry

theorem lookup_erase_some {κ α : Type} [DecidableEq κ] {m : Table κ α} {k key : κ} {v : α}
    (h : (m.erase key).lookup k = some v) : k ≠ key ∧ m.lookup k = some v := by
  by_cases hk : k = key
  · subst hk
    rw [AList.lookup_erase] at h
    cases h
  · rw [AList.lookup_erase_ne hk] at h
    exact ⟨hk, h⟩

theorem StableTickets.erase {tickets : Table JsString StoredPairingTicket}
    (h : StableTickets platform tickets) (kid : JsString) :
    StableTickets platform (tickets.erase kid) :=
  fun k entry hentry => h k entry (lookup_erase_some hentry).2

theorem StableConfirmed.erase {tickets : Table JsString StoredConfirmedPairingTicket}
    (h : StableConfirmed platform tickets) (kid : JsString) :
    StableConfirmed platform (tickets.erase kid) :=
  fun k entry hentry => h k entry (lookup_erase_some hentry).2

theorem StableTickets.insert {tickets : Table JsString StoredPairingTicket}
    (h : StableTickets platform tickets) {kid : JsString} {ticket : StoredPairingTicket}
    (hticket : normalizePairingTicket platform kid ticket = some (kid, ticket)) :
    StableTickets platform (tickets.insert kid ticket) := by
  intro k entry hentry
  by_cases hk : k = kid
  · subst hk
    cases hentry.symm.trans (AList.lookup_insert _)
    exact hticket
  · exact h k entry ((AList.lookup_insert_ne hk).symm.trans hentry)

theorem StableConfirmed.insert {tickets : Table JsString StoredConfirmedPairingTicket}
    (h : StableConfirmed platform tickets) {kid : JsString} {ticket : StoredConfirmedPairingTicket}
    (hticket : normalizeConfirmedPairingTicket platform kid ticket = some (kid, ticket)) :
    StableConfirmed platform (tickets.insert kid ticket) := by
  intro k entry hentry
  by_cases hk : k = kid
  · subst hk
    cases hentry.symm.trans (AList.lookup_insert _)
    exact hticket
  · exact h k entry ((AList.lookup_insert_ne hk).symm.trans hentry)

theorem Stable.empty (platform : Platform) : Stable platform TrustStorage.empty.maps := by
  constructor
  · intro kid entry hentry
    cases hentry
  · intro kid entry hentry
    cases hentry

/-! ## What is created and what is confirmed -/

theorem text_eq_some {request : TrustRequest} {key : String} {text : JsString}
    (h : request.text key = some text) : isNonEmptyString text = true :=
  (Option.filter_eq_some_iff.mp h).2

theorem allowed_of_parse {value : Option (Json JsString)} {allowed : Option JsString}
    (h : parseAllowedResponder value = .ok allowed) : allowed.all isNonEmptyString = true := by
  unfold parseAllowedResponder at h
  split at h
  · cases h
    rfl
  · split at h
    · cases h
    · rename_i did hdid
      split at h
      · cases h
        exact isNonEmptyString_trim (Option.filter_eq_some_iff.mp hdid).2
      · cases h

/-- A load leaves a new ticket as it is. -/
theorem createdTicket_stable (horigin : OriginStable platform) {request : TrustRequest}
    {kid : JsString} {ticket : StoredPairingTicket}
    (h : createdTicket platform request = .ok (kid, ticket)) :
    normalizePairingTicket platform kid ticket = some (kid, ticket) := by
  simp only [createdTicket, bind_eq_ok, elim_eq_ok, check_eq_ok] at h
  obtain ⟨profile, hprofile, initiator, hinitiator, issuer, hissuer, raw, _, key, hkey, expires, _,
    _, _, allowed, hallowed, _, _, ⟨text, payload⟩, hread, _, hsame, _, _, _, _, hticket⟩ := h
  cases hticket
  have hparse := readTicket_eq_ok hread
  have hiss : isNonEmptyString payload.iss = true := by
    rw [of_decide_eq_true hsame]
    exact text_eq_some hissuer
  simp [normalizePairingTicket, reparse_of_parsePeerProfile horigin hprofile,
    text_eq_some hinitiator, hiss, isNonEmptyString_trim (text_eq_some hkey),
    allowed_of_parse hallowed, ticketCandidate, isNonEmptyString_of_parse hparse, hparse,
    Except.toOption]

/-- What a waiting confirmation has of its request. -/
structure Verifying.Sound (platform : Platform) (v : Verifying) : Prop where
  snapshot : Stable platform v.snapshot
  stored : v.snapshot.pairingTickets.lookup v.payload.kid = some v.stored
  parsed : parsePairingTicket platform v.ticket = .ok v.payload
  responder : isNonEmptyString v.responderAgentDid = true
  profile : reparsePeerProfile platform v.responderProfile = some v.responderProfile

theorem confirmStart_sound (horigin : OriginStable platform) (hs : Stable platform s.maps)
    {request : TrustRequest} {v : Verifying} (h : confirmStart platform s request = .verifying v) :
    v.Sound platform := by
  obtain ⟨hsnapshot, hstored⟩ := confirmStart_verifying h
  obtain ⟨raw, hbody, htext, _⟩ := confirmStart_request h
  have hread : readTicket platform raw = .ok (v.ticket, v.payload) := by
    rw [readTicket, htext]
  have hparsed := readTicket_eq_ok hread
  simp only [parseConfirmBody, Option.bind_eq_bind, Option.bind_eq_some_iff,
    Option.filter_eq_some_iff] at hbody
  obtain ⟨body, _, profile, hprofile, ticket, _, responder, hresponder, heq⟩ := hbody
  cases heq
  refine ⟨hsnapshot ▸ hs.load, hstored, hparsed, hresponder.2, ?_⟩
  exact reparse_of_parsePeerProfile horigin hprofile

/-! ## What a confirmation does to the maps -/

/-- **The three ways in which a confirmation ends**: it leaves the maps, it drops an expired
ticket from those that it loaded, or it moves the ticket in them. -/
theorem finishConfirm_maps (platform : Platform) (s : TrustStorage) (v : Verifying) :
    ((finishConfirm platform s v).1.maps = s.maps ∧
      ∀ kid result, (finishConfirm platform s v).2 ≠ .confirmed kid result) ∨
    (v.writes platform = true ∧ v.expired = true ∧
      (finishConfirm platform s v).1.maps = v.dropped ∧
      ∀ kid result, (finishConfirm platform s v).2 ≠ .confirmed kid result) ∨
    (v.writes platform = true ∧ v.stored.issuerProxyUrl = v.payload.iss ∧
      (finishConfirm platform s v).1.maps = v.moved ∧
      ∃ result, (finishConfirm platform s v).2 = .confirmed v.payload.kid result ∧
        result.responderAgentDid = v.responderAgentDid) := by
  unfold finishConfirm confirmFinish
  by_cases hsigned : platform.verifySignature v.payload v.stored.publicKeyX = true
  · by_cases hexpired : v.expired = true
    · simp only [hsigned, hexpired, Bool.not_true, Bool.false_eq_true, if_false, if_true]
      refine .inr (.inl ⟨?_, trivial, rfl, fun _ _ h => by cases h⟩)
      simp [Verifying.writes, hsigned, hexpired]
    · by_cases hissuer : v.stored.issuerProxyUrl ≠ v.payload.iss
      · simp only [hsigned, hexpired, Bool.not_true, Bool.false_eq_true, if_false, if_pos hissuer]
        exact .inl ⟨trivial, fun _ _ h => by cases h⟩
      · by_cases hforbidden : v.forbidden = true
        · simp only [hsigned, hexpired, Bool.not_true, Bool.false_eq_true, if_false,
            if_neg hissuer, hforbidden, if_true]
          exact .inl ⟨trivial, fun _ _ h => by cases h⟩
        · simp only [hsigned, hexpired, Bool.not_true, Bool.false_eq_true, if_false,
            if_neg hissuer, hforbidden]
          refine .inr (.inr ⟨?_, not_not.mp hissuer, rfl, _, rfl, rfl⟩)
          simp [Verifying.writes, hsigned, not_not.mp hissuer, hforbidden]
  · simp only [hsigned, Bool.not_false, if_true]
    exact .inl ⟨trivial, fun _ _ h => by cases h⟩

/-- The entry of a ticket that a confirmation moves. -/
def Verifying.entry (v : Verifying) : StoredConfirmedPairingTicket where
  ticket := v.ticket
  expiresAtMs := v.stored.expiresAtMs
  initiatorAgentDid := v.stored.initiatorAgentDid
  initiatorProfile := v.stored.initiatorProfile
  responderAgentDid := v.responderAgentDid
  responderProfile := v.responderProfile
  issuerProxyUrl := v.stored.issuerProxyUrl
  confirmedAtMs := normalizeExpiryToWholeSecond v.nowMs

theorem normalizePairingTicket_self {kid : JsString} {entry : StoredPairingTicket}
    (h : normalizePairingTicket platform kid entry = some (kid, entry)) :
    reparsePeerProfile platform entry.initiatorProfile = some entry.initiatorProfile ∧
      isNonEmptyString entry.initiatorAgentDid = true ∧
      isNonEmptyString entry.issuerProxyUrl = true := by
  simp only [normalizePairingTicket, Option.bind_eq_bind, Option.bind_eq_some_iff] at h
  obtain ⟨profile, hprofile, h⟩ := h
  split at h
  · rename_i hchecks
    obtain ⟨payload, _, hentry⟩ := Option.bind_eq_some_iff.mp h
    simp only [Option.some.injEq, Prod.mk.injEq] at hentry
    have hsame : profile = entry.initiatorProfile :=
      congrArg StoredPairingTicket.initiatorProfile hentry.2
    simp only [Bool.and_eq_true] at hchecks
    exact ⟨hsame ▸ hprofile, hchecks.1.1.1, hchecks.1.1.2⟩
  · cases h

/-- A load leaves a ticket that was moved as it is. -/
theorem Verifying.Sound.entry_stable {v : Verifying} (hv : v.Sound platform)
    (hissuer : v.stored.issuerProxyUrl = v.payload.iss) :
    normalizeConfirmedPairingTicket platform v.payload.kid v.entry =
      some (v.payload.kid, v.entry) := by
  obtain ⟨hprofile, hinitiator, hurl⟩ :=
    normalizePairingTicket_self (hv.snapshot.pending _ _ hv.stored)
  rw [hissuer] at hurl
  simp [normalizeConfirmedPairingTicket, Verifying.entry, hprofile, hv.profile, hinitiator, hissuer,
    hurl, hv.responder, ticketCandidate, isNonEmptyString_of_parse hv.parsed, hv.parsed,
    Except.toOption]

theorem finishConfirm_stable {v : Verifying} (hs : Stable platform s.maps)
    (hv : v.Sound platform) : Stable platform (finishConfirm platform s v).1.maps := by
  rcases finishConfirm_maps platform s v with
    ⟨hmaps, _⟩ | ⟨_, _, hmaps, _⟩ | ⟨_, hissuer, hmaps, _⟩
  · rw [hmaps]
    exact hs
  · rw [hmaps]
    exact ⟨hv.snapshot.pending.erase _, hv.snapshot.confirmed.erase _⟩
  · rw [hmaps]
    exact ⟨hv.snapshot.pending.erase _, hv.snapshot.confirmed.insert (hv.entry_stable hissuer)⟩

/-! ## What the other operations do to the maps -/

/-- The expiry of an entry, or the one of its text, has come. -/
def Outdated (platform : Platform) (nowMs : ℚ) (ticket : JsString) (expiresAtMs : ℤ) : Prop :=
  (expiresAtMs : ℚ) ≤ nowMs ∨
    ∃ payload, parsePairingTicket platform ticket = .ok payload ∧
      ((payload.exp * 1000 : ℤ) : ℚ) ≤ nowMs

/-- The maps have lost only tickets whose expiry has come. -/
structure Pruned (platform : Platform) (nowMs : ℚ) (state state' : ExpirableTrustState) : Prop where
  pending : Table.Loses (fun e => Outdated platform nowMs e.ticket e.expiresAtMs)
    state.pairingTickets state'.pairingTickets
  confirmed : Table.Loses (fun e => Outdated platform nowMs e.ticket e.expiresAtMs)
    state.confirmedPairingTickets state'.confirmedPairingTickets

theorem Pruned.refl (platform : Platform) (nowMs : ℚ) (state : ExpirableTrustState) :
    Pruned platform nowMs state state := ⟨.refl _ _, .refl _ _⟩

theorem Pruned.stable {nowMs : ℚ} {state state' : ExpirableTrustState}
    (h : Pruned platform nowMs state state') (hs : Stable platform state) :
    Stable platform state' := by
  constructor
  · intro kid entry hentry
    exact hs.pending kid entry (h.pending.lookup hentry)
  · intro kid entry hentry
    exact hs.confirmed kid entry (h.confirmed.lookup hentry)

/-- The clock of an operation. -/
def Operation.nowMs : Operation → ℚ
  | .create request | .confirm request | .status request | .upsertPair request
  | .isPairAllowed request | .markAgentRevoked request | .isAgentRevoked request
  | .isAgentKnown request => request.nowMs
  | .alarm nowUtcMs => nowUtcMs

/-- Losses of the loaded tickets are losses of the stored ones. -/
theorem loses_load_pending {gone : StoredPairingTicket → Prop}
    {tickets : Table JsString StoredPairingTicket} (hs : Stable platform s.maps)
    (h : Table.Loses gone (loadExpirableState platform s).pairingTickets tickets) :
    Table.Loses gone s.pairingTickets tickets := by
  intro kid
  rw [← lookup_load_pending hs.pending]
  exact h kid

theorem loses_load_confirmed {gone : StoredConfirmedPairingTicket → Prop}
    {tickets : Table JsString StoredConfirmedPairingTicket} (hs : Stable platform s.maps)
    (h : Table.Loses gone (loadExpirableState platform s).confirmedPairingTickets tickets) :
    Table.Loses gone s.confirmedPairingTickets tickets := by
  intro kid
  rw [← lookup_load_confirmed hs.confirmed]
  exact h kid

theorem outdated_of_passed {ticket : JsString} {payload : PairingTicketPayload} {expiresAtMs : ℤ}
    {nowMs : ℚ} (hparse : parsePairingTicket platform ticket = .ok payload)
    (h : (decide ((expiresAtMs : ℚ) ≤ nowMs) ||
      decide (((payload.exp * 1000 : ℤ) : ℚ) ≤ nowMs)) = true) :
    Outdated platform nowMs ticket expiresAtMs := by
  rcases Bool.or_eq_true_iff.mp h with hnow | hnow
  · exact .inl (of_decide_eq_true hnow)
  · exact .inr ⟨payload, hparse, of_decide_eq_true hnow⟩

theorem status_pruned (hs : Stable platform s.maps) (request : TrustRequest) :
    Pruned platform request.nowMs s.maps (handleGetPairingTicketStatus platform s request).1.maps := by
  unfold handleGetPairingTicketStatus
  split
  · exact .refl ..
  · split
    · exact .refl ..
    · rename_i ticket payload hread
      have hparse := readTicket_eq_ok hread
      simp only
      split
      · rename_i entry hentry
        obtain ⟨hlookup, htext⟩ := Option.filter_eq_some_iff.mp hentry
        split
        · rename_i hpassed
          refine ⟨loses_load_pending hs (.erase ?_), .refl _ _⟩
          intro e he
          cases hlookup.symm.trans he
          rw [of_decide_eq_true htext]
          exact outdated_of_passed hparse hpassed
        · exact .refl ..
      · rename_i entry _ hentry
        obtain ⟨hlookup, htext⟩ := Option.filter_eq_some_iff.mp hentry
        split
        · rename_i hpassed
          refine ⟨.refl _ _, loses_load_confirmed hs (.erase ?_)⟩
          intro e he
          cases hlookup.symm.trans he
          rw [of_decide_eq_true htext]
          exact outdated_of_passed hparse hpassed
        · exact .refl ..
      · exact .refl ..

theorem alarm_pruned (hs : Stable platform s.maps) (nowMs : ℕ) :
    Pruned platform nowMs s.maps (runAlarmCleanup platform s nowMs).maps := by
  by_cases hexpired : (loadExpirableState platform s).hasExpired nowMs = true
  · have hmaps : (runAlarmCleanup platform s nowMs).maps =
        removeExpiredEntries (loadExpirableState platform s) nowMs := by
      simp [TrustStorage.maps, runAlarmCleanup, hexpired]
    rw [hmaps]
    refine ⟨loses_load_pending hs (.keep ?_), loses_load_confirmed hs (.keep ?_)⟩
    · intro _ e he
      have hle : e.expiresAtMs ≤ (nowMs : ℤ) := by simpa using he
      exact .inl (by exact_mod_cast hle)
    · intro _ e he
      have hle : e.expiresAtMs ≤ (nowMs : ℤ) := by simpa using he
      exact .inl (by exact_mod_cast hle)
  · have hmaps : (runAlarmCleanup platform s nowMs).maps = s.maps := by
      simp [TrustStorage.maps, runAlarmCleanup, hexpired]
    rw [hmaps]
    exact .refl ..

theorem markAgentRevoked_maps (request : TrustRequest) :
    (handleMarkAgentRevoked platform s request).1.maps = s.maps := by
  unfold handleMarkAgentRevoked
  split
  · simp only
    split <;> rfl
  · rfl

theorem isAgentRevoked_maps (request : TrustRequest) :
    (handleIsAgentRevoked platform s request).1.maps = s.maps := by
  unfold handleIsAgentRevoked
  split
  · simp only
    split <;> rfl
  · rfl

theorem upsertPair_maps (request : TrustRequest) : (handleUpsertPair s request).1.maps = s.maps := by
  unfold handleUpsertPair
  split <;> rfl

/-- **What an operation does to the maps**: it adds a ticket, it ends a confirmation, or it
removes tickets whose expiry has come. -/
inductive MapsStep (platform : Platform) (s : TrustStorage) (op : Operation) : Prop
  | created {request : TrustRequest} {kid : JsString} {ticket : StoredPairingTicket}
      (hop : op = .create request) (hcreated : createdTicket platform request = .ok (kid, ticket))
      (hmaps : (perform platform s op).1.maps =
        (loadExpirableState platform s).withTicket kid ticket)
  | confirmed {request : TrustRequest} {v : Verifying} (hop : op = .confirm request)
      (hstart : confirmStart platform s request = .verifying v)
      (hfinish : perform platform s op = finishConfirm platform s v)
  | pruned (hpruned : Pruned platform op.nowMs s.maps (perform platform s op).1.maps)

theorem perform_maps (hs : Stable platform s.maps) (op : Operation) : MapsStep platform s op := by
  have hsame : (perform platform s op).1.maps = s.maps → MapsStep platform s op := by
    intro h
    refine .pruned ?_
    rw [h]
    exact .refl ..
  cases op with
  | create request =>
      cases hcreated : createdTicket platform request with
      | error e =>
          refine hsame ?_
          rw [perform, handleCreatePairingTicket, hcreated]
      | ok created =>
          refine .created rfl hcreated ?_
          rw [perform, handleCreatePairingTicket, hcreated]
          rfl
  | confirm request =>
      cases hstart : confirmStart platform s request with
      | verifying v =>
          refine .confirmed rfl hstart ?_
          rw [perform, handleConfirmPairingTicket, hstart]
      | _ =>
          refine hsame ?_
          rw [perform, handleConfirmPairingTicket, hstart]
  | status request =>
      refine .pruned ?_
      rw [perform]
      exact status_pruned hs request
  | upsertPair request => exact hsame (by rw [perform]; exact upsertPair_maps request)
  | isPairAllowed request => exact hsame rfl
  | markAgentRevoked request => exact hsame (by rw [perform]; exact markAgentRevoked_maps request)
  | isAgentRevoked request => exact hsame (by rw [perform]; exact isAgentRevoked_maps request)
  | isAgentKnown request => exact hsame rfl
  | alarm nowMs =>
      refine .pruned ?_
      rw [perform]
      exact alarm_pruned hs nowMs

theorem Stable.withTicket {state : ExpirableTrustState} (h : Stable platform state)
    {kid : JsString} {ticket : StoredPairingTicket}
    (hticket : normalizePairingTicket platform kid ticket = some (kid, ticket)) :
    Stable platform (state.withTicket kid ticket) :=
  ⟨h.pending.insert hticket, h.confirmed.erase kid⟩

/-- **The operations keep the maps stable.** -/
theorem perform_stable (horigin : OriginStable platform) (hs : Stable platform s.maps)
    (op : Operation) : Stable platform (perform platform s op).1.maps := by
  cases perform_maps hs op with
  | created hop hcreated hmaps =>
      rw [hmaps]
      exact hs.load.withTicket (createdTicket_stable horigin hcreated)
  | confirmed hop hstart hfinish =>
      rw [hfinish]
      exact finishConfirm_stable hs (confirmStart_sound horigin hs hstart)
  | pruned hpruned => exact hpruned.stable hs

end

/-! ### A platform for examples -/

/-- The JSON object of a payload, with further members. -/
def payloadJson (payload : PairingTicketPayload) (more : List (JsString × Json JsString)) :
    Json JsString :=
  .obj ([(js "v", .num 2), (js "iss", .str payload.iss), (js "kid", .str payload.kid),
    (js "nonce", .str payload.nonce), (js "exp", .num payload.exp), (js "pkid", .str payload.pkid),
    (js "sig", .str payload.sig)] ++ more)

/-- The functions of the platform, as they answer on the given ticket texts. -/
def ticketPlatform (known : List (JsString × Json JsString)) : Platform where
  decodePayload text := known.lookup (PAIRING_TICKET_PREFIX ++ text)
  toText v := v.str?.getD []
  parseUrl text := if text = examplePayload.iss then some ⟨js "https:", text⟩ else none
  verifySignature payload publicKeyX :=
    payload = examplePayload && publicKeyX = examplePublicKeyX

theorem originStable_ticketPlatform (known : List (JsString × Json JsString)) :
    OriginStable (ticketPlatform known) := by
  intro text url hurl _
  simp only [ticketPlatform, Option.ite_none_right_eq_some] at hurl
  obtain ⟨rfl, hurl⟩ := hurl
  cases hurl
  have htrim : trim examplePayload.iss = examplePayload.iss := by decide
  refine ⟨by decide, ⟨js "https:", examplePayload.iss⟩, ?_, by decide, rfl⟩
  simp [ticketPlatform, htrim]

end Clawdentity.TrustState
