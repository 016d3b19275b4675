import Clawdentity.Proxy.TrustStoreCalls

/-!
# Confirming a ticket in both trust stores

A confirmation reads the entries under the `kid` of its ticket and ends in one of three ways:
it is refused, it drops an expired ticket, or it moves the ticket and pairs the two agents.

## Main definitions

* `confirmAnswer` — the answer, from the entries that a store has under the `kid`.
* `DurableConfirm`, `MemoryConfirm` — what each store does.
* `confirm_agrees` — one confirmation keeps the stores in agreement.
-/

namespace Clawdentity.TrustStore

open Js Lib PairingTicket TrustState Protocol

/-! ## Confirming a ticket -/

section
variable (platform : Platform) (input : PairingTicketConfirmInput) (payload : PairingTicketPayload)
  (nowMs : ℚ)

/-- The pair that a confirmation of a stored ticket returns. -/
def confirmedPair (stored : StoredPairingTicket) : ConfirmResult where
  initiatorAgentDid := stored.initiatorAgentDid
  initiatorProfile := stored.initiatorProfile
  responderAgentDid := input.responderAgentDid
  responderProfile := input.responderProfile
  issuerProxyUrl := stored.issuerProxyUrl

/-- The entry under which a confirmed ticket is stored. -/
def confirmedEntry (stored : StoredPairingTicket) : StoredConfirmedPairingTicket where
  ticket := normalizePairingTicketText input.ticket
  expiresAtMs := stored.expiresAtMs
  initiatorAgentDid := stored.initiatorAgentDid
  initiatorProfile := stored.initiatorProfile
  responderAgentDid := input.responderAgentDid
  responderProfile := input.responderProfile
  issuerProxyUrl := stored.issuerProxyUrl
  confirmedAtMs := normalizeExpiryToWholeSecond nowMs

/-- The checks of a confirmation on the pending ticket. -/
def pendingAnswer (stored : StoredPairingTicket) : Except ErrorResponse ConfirmResult :=
  if !platform.verifySignature payload stored.publicKeyX then .error invalidSignature
  else if (stored.expiresAtMs : ℚ) ≤ nowMs || ((payload.exp * 1000 : ℤ) : ℚ) ≤ nowMs then
    .error ticketExpired
  else if stored.issuerProxyUrl ≠ payload.iss then .error issuerMismatch
  else if stored.allowResponderAgentDid.any fun did => did ≠ input.responderAgentDid then
    .error responderForbidden
  else .ok (confirmedPair input stored)

/-- The answer on a confirmation, from the entries that a store has under its `kid`. -/
def confirmAnswer (pending : Option StoredPairingTicket)
    (confirmed : Option StoredConfirmedPairingTicket) : Except ErrorResponse ConfirmResult :=
  if confirmed.any fun c => c.ticket = normalizePairingTicketText input.ticket then
    .error alreadyConfirmed
  else
    match pending with
    | none => .error ticketNotFound
    | some stored => pendingAnswer platform input payload nowMs stored

end

section
variable {platform : Platform} {s : Stores} {nowMs : ℚ} {nowUtcMs : ℕ} {a b : ExpirableTrustState}
  {input : PairingTicketConfirmInput} {payload : PairingTicketPayload}
  {stored : StoredPairingTicket}

/-- An expired ticket is refused. -/
theorem pendingAnswer_expired (platform : Platform) (input : PairingTicketConfirmInput)
    (payload : PairingTicketPayload) (h : (stored.expiresAtMs : ℚ) ≤ nowMs) :
    platform.verifySignature payload stored.publicKeyX = false ∧
        pendingAnswer platform input payload nowMs stored = .error invalidSignature ∨
      platform.verifySignature payload stored.publicKeyX = true ∧
        pendingAnswer platform input payload nowMs stored = .error ticketExpired := by
  unfold pendingAnswer
  cases hsigned : platform.verifySignature payload stored.publicKeyX with
  | false => exact .inl ⟨rfl, rfl⟩
  | true =>
      refine .inr ⟨rfl, ?_⟩
      simp [h]

/-- The two answers on a confirmation. -/
structure ConfirmAlike (platform : Platform) (input : PairingTicketConfirmInput)
    (payload : PairingTicketPayload) (a b : ExpirableTrustState)
    (x y : Except ErrorResponse ConfirmResult) : Prop where
  outcome : x = y ∨ ∃ e e', x = .error e ∧ y = .error e'
  alike : (a.confirmedPairingTickets.lookup payload.kid).filter
        (fun e => e.ticket = normalizePairingTicketText input.ticket) =
      (b.confirmedPairingTickets.lookup payload.kid).filter
        (fun e => e.ticket = normalizePairingTicketText input.ticket) →
    (a.pairingTickets.lookup payload.kid = b.pairingTickets.lookup payload.kid ∨
      ((a.pairingTickets.lookup payload.kid).or (b.pairingTickets.lookup payload.kid)).any
        fun stored => platform.verifySignature payload stored.publicKeyX) →
    x = y ∨ (x = .error ticketExpired ∧ y = .error ticketNotFound) ∨
      (x = .error ticketNotFound ∧ y = .error ticketExpired)

theorem confirmAnswer_none (platform : Platform) (input : PairingTicketConfirmInput)
    (payload : PairingTicketPayload) (nowMs : ℚ)
    (confirmed : Option StoredConfirmedPairingTicket) :
    (confirmed.filter fun e => e.ticket = normalizePairingTicketText input.ticket) = none ∧
        confirmAnswer platform input payload nowMs none confirmed = .error ticketNotFound ∨
      (confirmed.filter fun e => e.ticket = normalizePairingTicketText input.ticket).isSome ∧
        confirmAnswer platform input payload nowMs none confirmed = .error alreadyConfirmed := by
  cases confirmed with
  | none => exact .inl ⟨rfl, rfl⟩
  | some entry =>
      by_cases htext : entry.ticket = normalizePairingTicketText input.ticket
      · exact .inr ⟨by simp [Option.filter, htext], by simp [confirmAnswer, htext]⟩
      · exact .inl ⟨by simp [Option.filter, htext], by simp [confirmAnswer, htext]⟩

/-- The second maps have lost the pending ticket, which has expired. -/
theorem lost_confirm (hnone : b.pairingTickets.lookup payload.kid = none)
    (hstored : a.pairingTickets.lookup payload.kid = some stored)
    (hexpired : (stored.expiresAtMs : ℚ) ≤ nowMs) :
    ConfirmAlike platform input payload a b
      (confirmAnswer platform input payload nowMs (some stored) none)
      (confirmAnswer platform input payload nowMs none none) := by
  have hnotFound : confirmAnswer platform input payload nowMs none none =
      .error ticketNotFound := rfl
  have hanswer : confirmAnswer platform input payload nowMs (some stored) none =
      pendingAnswer platform input payload nowMs stored := rfl
  rw [hnotFound, hanswer]
  rcases pendingAnswer_expired platform input payload hexpired with ⟨hunsigned, hrefused⟩ | ⟨_, hrefused⟩
  · refine ⟨.inr ⟨_, _, hrefused, rfl⟩, fun _ hsigned => ?_⟩
    rw [hnone, hstored] at hsigned
    rcases hsigned with hsame | hsigned
    · cases hsame
    · rw [Option.some_or, Option.any_some, hunsigned] at hsigned
      cases hsigned
  · exact ⟨.inr ⟨_, _, hrefused, rfl⟩, fun _ _ => .inr (.inl ⟨hrefused, rfl⟩)⟩

theorem ConfirmAlike.symm_of_none {x y : Except ErrorResponse ConfirmResult}
    (h : ConfirmAlike platform input payload b a x y)
    (hnone : a.pairingTickets.lookup payload.kid = none) :
    ConfirmAlike platform input payload a b y x := by
  constructor
  · rcases h.outcome with heq | ⟨e, e', hx, hy⟩
    · exact .inl heq.symm
    · exact .inr ⟨e', e, hy, hx⟩
  · intro hconfirmed hpending
    have hpending' := hpending.imp_left Eq.symm
    rw [hnone, Option.none_or] at hpending'
    rcases h.alike hconfirmed.symm (by rwa [hnone, Option.or_none]) with heq | hleft | hright
    · exact .inl heq.symm
    · exact .inr (.inr ⟨hleft.2, hleft.1⟩)
    · exact .inr (.inl ⟨hright.2, hright.1⟩)

/-- **Maps that agree give the same answer to a confirmation**, up to expired tickets. -/
theorem MapsAgree.confirm (h : MapsAgree platform nowMs a b) (input : PairingTicketConfirmInput)
    (payload : PairingTicketPayload) :
    ConfirmAlike platform input payload a b
      (confirmAnswer platform input payload nowMs (a.pairingTickets.lookup payload.kid)
        (a.confirmedPairingTickets.lookup payload.kid))
      (confirmAnswer platform input payload nowMs (b.pairingTickets.lookup payload.kid)
        (b.confirmedPairingTickets.lookup payload.kid)) := by
  rcases h.pending payload.kid with hsame | ⟨hnone, e, he, hgone⟩ | ⟨hnone, e, he, hgone⟩
  · cases hp : a.pairingTickets.lookup payload.kid with
    | some stored =>
        obtain ⟨ha, hb⟩ := h.exclusive _ stored (.inl hp)
        rw [← hsame, hp, ha, hb]
        exact ⟨.inl rfl, fun _ _ => .inl rfl⟩
    | none =>
        -- no ticket is pending, so only the confirmed entries decide
        rw [← hsame, hp]
        rcases confirmAnswer_none platform input payload nowMs
            (a.confirmedPairingTickets.lookup payload.kid) with ⟨hfa, ha⟩ | ⟨hfa, ha⟩ <;>
        rcases confirmAnswer_none platform input payload nowMs
            (b.confirmedPairingTickets.lookup payload.kid) with ⟨hfb, hb⟩ | ⟨hfb, hb⟩
        · exact ⟨.inl (ha.trans hb.symm), fun _ _ => .inl (ha.trans hb.symm)⟩
        · refine ⟨.inr ⟨_, _, ha, hb⟩, fun heq _ => ?_⟩
          rw [← heq, hfa] at hfb
          cases hfb
        · refine ⟨.inr ⟨_, _, ha, hb⟩, fun heq _ => ?_⟩
          rw [heq, hfb] at hfa
          cases hfa
        · exact ⟨.inl (ha.trans hb.symm), fun _ _ => .inl (ha.trans hb.symm)⟩
  · obtain ⟨ha, hb⟩ := h.exclusive _ e (.inl he)
    rw [ha, hb, he, hnone]
    exact lost_confirm hnone he (h.expired_of_outdated he hgone)
  · obtain ⟨ha, hb⟩ := h.exclusive _ e (.inr he)
    rw [ha, hb, he, hnone]
    exact (lost_confirm hnone he (h.symm.expired_of_outdated he hgone)).symm_of_none hnone

/-- What the durable object does for a confirmation. -/
inductive DurableConfirm (platform : Platform) (input : PairingTicketConfirmInput)
    (payload : PairingTicketPayload) (nowMs : ℚ) (d : TrustStorage) : TrustStorage × Reply → Prop
  | refused {e : ErrorResponse}
      (hanswer : confirmAnswer platform input payload nowMs (d.pairingTickets.lookup payload.kid)
        (d.confirmedPairingTickets.lookup payload.kid) = .error e)
      (hother : e ≠ ticketExpired) : DurableConfirm platform input payload nowMs d (d, .error e)
  | expired {d' : TrustStorage} {stored : StoredPairingTicket}
      (hanswer : confirmAnswer platform input payload nowMs (d.pairingTickets.lookup payload.kid)
        (d.confirmedPairingTickets.lookup payload.kid) = .error ticketExpired)
      (hstored : d.pairingTickets.lookup payload.kid = some stored)
      (hmaps : d'.maps = droppedTicket (loadExpirableState platform d) payload.kid)
      (hrevoked : d'.revokedAgents = d.revokedAgents) (hindex : SameIndex d d') :
      DurableConfirm platform input payload nowMs d (d', .error ticketExpired)
  | paired {d' : TrustStorage} {stored : StoredPairingTicket}
      (hanswer : confirmAnswer platform input payload nowMs (d.pairingTickets.lookup payload.kid)
        (d.confirmedPairingTickets.lookup payload.kid) = .ok (confirmedPair input stored))
      (hstored : d.pairingTickets.lookup payload.kid = some stored)
      (hlive : ¬ (stored.expiresAtMs : ℚ) ≤ nowMs)
      (hmaps : d'.maps = movedTicket (loadExpirableState platform d) payload.kid
        (confirmedEntry input nowMs stored))
      (hrevoked : d'.revokedAgents = d.revokedAgents)
      (hindex : SameIndex (savePairAndPeers d stored.initiatorAgentDid input.responderAgentDid)
        d') :
      DurableConfirm platform input payload nowMs d
        (d', .confirmed payload.kid (confirmedPair input stored))

/-- What the in-memory store does for a confirmation. -/
inductive MemoryConfirm (platform : Platform) (input : PairingTicketConfirmInput)
    (payload : PairingTicketPayload) (nowMs : ℚ) (m : InMemoryStore) : InMemoryStore × Answer → Prop
  | refused {m' : InMemoryStore} {e : ErrorResponse}
      (hanswer : confirmAnswer platform input payload nowMs (m.pairingTickets.lookup payload.kid)
        (m.confirmedPairingTickets.lookup payload.kid) = .error e)
      (hother : e ≠ ticketExpired) (htrimmed : Trimmed platform nowMs m m') :
      MemoryConfirm platform input payload nowMs m (m', .error e)
  | expired {m' : InMemoryStore} {stored : StoredPairingTicket}
      (hanswer : confirmAnswer platform input payload nowMs (m.pairingTickets.lookup payload.kid)
        (m.confirmedPairingTickets.lookup payload.kid) = .error ticketExpired)
      (hstored : m.pairingTickets.lookup payload.kid = some stored)
      (htrimmed : Trimmed platform nowMs m m') :
      MemoryConfirm platform input payload nowMs m
        ({ m' with pairingTickets := m'.pairingTickets.erase payload.kid }, .error ticketExpired)
  | paired {m' : InMemoryStore} {stored : StoredPairingTicket}
      (hanswer : confirmAnswer platform input payload nowMs (m.pairingTickets.lookup payload.kid)
        (m.confirmedPairingTickets.lookup payload.kid) = .ok (confirmedPair input stored))
      (hstored : m.pairingTickets.lookup payload.kid = some stored)
      (hlive : ¬ (stored.expiresAtMs : ℚ) ≤ nowMs) (htrimmed : Trimmed platform nowMs m m') :
      MemoryConfirm platform input payload nowMs m
        ({ m'.pair stored.initiatorAgentDid input.responderAgentDid with
            pairingTickets := m'.pairingTickets.erase payload.kid
            confirmedPairingTickets := m'.confirmedPairingTickets.insert payload.kid
              (confirmedEntry input nowMs stored) },
          .ok (.confirmed (confirmedPair input stored)))

theorem memory_confirm {m : InMemoryStore}
    (hparse : parsePairingTicket platform (normalizePairingTicketText input.ticket) = .ok payload) :
    MemoryConfirm platform input payload (input.nowMs.getD nowUtcMs) m
      (m.perform platform (.confirmPairingTicket input) nowUtcMs) := by
  generalize hnow : (input.nowMs.getD nowUtcMs : ℚ) = now
  have hclean : Trimmed platform now m (m.cleanup now (some payload.kid)) := cleanup_trimmed m _
  simp only [InMemoryStore.perform, InMemoryStore.confirmPairingTicket,
    InMemoryStore.resolveConfirmablePairingTicket, InMemoryStore.parseStoredTicket, hparse, hnow,
    cleanup_skip_pending, cleanup_skip_confirmed]
  by_cases hconfirmed : ((m.confirmedPairingTickets.lookup payload.kid).any
      fun c => c.ticket = normalizePairingTicketText input.ticket) = true
  · simp only [hconfirmed, if_true]
    refine .refused ?_ (by decide) hclean
    simp only [confirmAnswer, hconfirmed, if_true]
  · rw [Bool.not_eq_true] at hconfirmed
    simp only [hconfirmed, Bool.false_eq_true, if_false]
    cases hstored : m.pairingTickets.lookup payload.kid with
    | none =>
        refine .refused ?_ (by decide) hclean
        simp only [confirmAnswer, hconfirmed, hstored, Bool.false_eq_true, if_false]
    | some stored =>
        have hanswer : confirmAnswer platform input payload now
            (m.pairingTickets.lookup payload.kid)
            (m.confirmedPairingTickets.lookup payload.kid) =
            pendingAnswer platform input payload now stored := by
          simp only [confirmAnswer, hconfirmed, hstored, Bool.false_eq_true, if_false]
        unfold pendingAnswer at hanswer
        cases hsigned : platform.verifySignature payload stored.publicKeyX with
        | false =>
            simp only [hsigned, Bool.not_false, if_true] at hanswer ⊢
            exact .refused hanswer (by decide) hclean
        | true =>
            by_cases hexpired : (decide ((stored.expiresAtMs : ℚ) ≤ now) ||
                decide (((payload.exp * 1000 : ℤ) : ℚ) ≤ now)) = true
            · simp only [hsigned, hexpired, Bool.not_true, Bool.false_eq_true, if_false, if_true]
                at hanswer ⊢
              exact .expired hanswer hstored hclean
            · have hlive : ¬ (stored.expiresAtMs : ℚ) ≤ now := by
                intro hle
                exact hexpired (Bool.or_eq_true_iff.mpr (.inl (decide_eq_true hle)))
              simp only [hsigned, hexpired, Bool.not_true, Bool.false_eq_true, if_false]
                at hanswer ⊢
              by_cases hissuer : stored.issuerProxyUrl ≠ payload.iss
              · simp only [if_pos hissuer] at hanswer ⊢
                exact .refused hanswer (by decide) hclean
              · simp only [if_neg hissuer] at hanswer ⊢
                by_cases hforbidden : (stored.allowResponderAgentDid.any fun did =>
                    did ≠ input.responderAgentDid) = true
                · simp only [hforbidden, if_true] at hanswer ⊢
                  exact .refused hanswer (by decide) hclean
                · simp only [hforbidden] at hanswer ⊢
                  exact .paired hanswer hstored hlive hclean

/-- The locals of the durable object while it waits for the signature check. -/
def verifyingRequest (platform : Platform) (input : PairingTicketConfirmInput)
    (payload : PairingTicketPayload) (nowMs : ℚ) (d : TrustStorage) (stored : StoredPairingTicket) :
    Verifying where
  ticket := normalizePairingTicketText input.ticket
  payload := payload
  responderAgentDid := input.responderAgentDid
  responderProfile := input.responderProfile
  nowMs := nowMs
  snapshot := loadExpirableState platform d
  stored := stored

theorem parseConfirmBody_request (hvalid : input.Valid platform) :
    parseConfirmBody platform (some (requestBody (.confirmPairingTicket input))) =
      some (normalizePairingTicketText input.ticket, input.responderAgentDid,
        input.responderProfile) := by
  have hprofile : parsePeerProfile platform
      ((requestBody (.confirmPairingTicket input)).get? (js "responderProfile")) =
      some input.responderProfile := by
    rw [← hvalid.profile, ← parsePeerProfile_json]
    simp [requestBody]
  have hdid := isNonEmptyString_of_agentDid hvalid.responder
  simp only [parseConfirmBody, Option.bind_eq_bind, Option.bind_some, hprofile]
  simp [requestBody, Json.str?, Option.filter_some, hvalid.ticket.filled, hdid]

theorem confirmStart_input {d : TrustStorage} (hs : Stable platform d.maps)
    (hvalid : input.Valid platform)
    (hparse : parsePairingTicket platform (normalizePairingTicketText input.ticket) = .ok payload) :
    confirmStart platform d ⟨some (requestBody (.confirmPairingTicket input)), nowUtcMs⟩ =
      if (d.confirmedPairingTickets.lookup payload.kid).any
          fun c => c.ticket = normalizePairingTicketText input.ticket then
        .rejected alreadyConfirmed
      else
        match d.pairingTickets.lookup payload.kid with
        | none => .rejected ticketNotFound
        | some stored => .verifying
            (verifyingRequest platform input payload (input.nowMs.getD nowUtcMs) d stored) := by
  have hbody := parseConfirmBody_request hvalid
  have hnow : (((some (requestBody (.confirmPairingTicket input))).bind fun body =>
      body.get? (js "nowMs")).bind Json.num?).getD (nowUtcMs : ℚ) = input.nowMs.getD nowUtcMs := by
    exact nowMs_request (by simp [requestBody])
  have htext : parseNormalizedPairingTicket platform (normalizePairingTicketText input.ticket) =
      .ok (normalizePairingTicketText input.ticket, payload) := by
    simp only [parseNormalizedPairingTicket, hvalid.ticket.settled, hparse]
    rfl
  simp only [confirmStart, hbody, htext, hnow, lookup_load_confirmed hs.confirmed,
    lookup_load_pending hs.pending]
  rfl

/-- What the durable object does for a confirmation of a pending ticket. -/
theorem durable_confirm_pending {d : TrustStorage}
    (hpending : confirmAnswer platform input payload nowMs (d.pairingTickets.lookup payload.kid)
      (d.confirmedPairingTickets.lookup payload.kid) =
      pendingAnswer platform input payload nowMs stored)
    (hstored : d.pairingTickets.lookup payload.kid = some stored) :
    DurableConfirm platform input payload nowMs d
      (finishConfirm platform d (verifyingRequest platform input payload nowMs d stored)) := by
  generalize hv : verifyingRequest platform input payload nowMs d stored = v
  have hanswer : pendingAnswer platform input payload nowMs stored =
      if !platform.verifySignature v.payload v.stored.publicKeyX then .error invalidSignature
      else if v.expired then .error ticketExpired
      else if v.stored.issuerProxyUrl ≠ v.payload.iss then .error issuerMismatch
      else if v.forbidden then .error responderForbidden
      else .ok (confirmedPair input stored) := by
    rw [← hv]
    rfl
  rw [← hpending] at hanswer
  unfold finishConfirm confirmFinish
  by_cases hsigned : platform.verifySignature v.payload v.stored.publicKeyX = true
  · by_cases hexpired : v.expired = true
    · simp only [hsigned, hexpired, Bool.not_true, Bool.false_eq_true, if_false, if_true]
        at hanswer ⊢
      subst hv
      exact .expired hanswer hstored rfl rfl ⟨rfl, rfl⟩
    · have hlive : ¬ (stored.expiresAtMs : ℚ) ≤ nowMs := by
        intro hle
        refine hexpired ?_
        rw [← hv]
        exact Bool.or_eq_true_iff.mpr (.inl (decide_eq_true hle))
      simp only [hsigned, hexpired, Bool.not_true, Bool.false_eq_true, if_false] at hanswer ⊢
      by_cases hissuer : v.stored.issuerProxyUrl ≠ v.payload.iss
      · simp only [if_pos hissuer] at hanswer ⊢
        exact .refused hanswer (by decide)
      · simp only [if_neg hissuer] at hanswer ⊢
        by_cases hforbidden : v.forbidden = true
        · simp only [hforbidden, if_true] at hanswer ⊢
          exact .refused hanswer (by decide)
        · simp only [hforbidden] at hanswer ⊢
          subst hv
          exact .paired hanswer hstored hlive rfl rfl ⟨rfl, rfl⟩
  · rw [Bool.not_eq_true] at hsigned
    simp only [hsigned, Bool.not_false, if_true] at hanswer ⊢
    exact .refused hanswer (by decide)

theorem durable_confirm {d : TrustStorage} (hs : Stable platform d.maps)
    (hvalid : input.Valid platform)
    (hparse : parsePairingTicket platform (normalizePairingTicketText input.ticket) = .ok payload) :
    DurableConfirm platform input payload (input.nowMs.getD nowUtcMs) d
      (TrustState.perform platform d
        (createDurableProxyTrustStore (.confirmPairingTicket input) nowUtcMs)) := by
  simp only [createDurableProxyTrustStore, TrustState.perform, handleConfirmPairingTicket,
    confirmStart_input hs hvalid hparse]
  generalize (input.nowMs.getD nowUtcMs : ℚ) = now
  by_cases hconfirmed : ((d.confirmedPairingTickets.lookup payload.kid).any
      fun c => c.ticket = normalizePairingTicketText input.ticket) = true
  · simp only [hconfirmed, if_true]
    refine .refused ?_ (by decide)
    simp only [confirmAnswer, hconfirmed, if_true]
  · rw [Bool.not_eq_true] at hconfirmed
    simp only [hconfirmed, Bool.false_eq_true, if_false]
    cases hstored : d.pairingTickets.lookup payload.kid with
    | none =>
        refine .refused ?_ (by decide)
        simp only [confirmAnswer, hconfirmed, hstored, Bool.false_eq_true, if_false]
    | some stored =>
        have hpending : confirmAnswer platform input payload now
            (d.pairingTickets.lookup payload.kid)
            (d.confirmedPairingTickets.lookup payload.kid) =
            pendingAnswer platform input payload now stored := by
          simp only [confirmAnswer, hconfirmed, hstored, Bool.false_eq_true, if_false]
        exact durable_confirm_pending hpending hstored

theorem MapsAgree.loaded {d : TrustStorage} (hs : Stable platform d.maps)
    (h : MapsAgree platform nowMs d.maps b) :
    MapsAgree platform nowMs (loadExpirableState platform d) b :=
  h.pruned (pruned_load hs)

/-- An expired ticket is dropped from the maps that were loaded. -/
theorem dropped_pruned {d : TrustStorage} {kid : JsString} (hs : Stable platform d.maps)
    (h : MapsAgree platform nowMs d.maps b) (hstored : d.pairingTickets.lookup kid = some stored)
    (hexpired : Outdated platform nowMs stored.ticket stored.expiresAtMs) :
    Pruned platform nowMs d.maps (droppedTicket (loadExpirableState platform d) kid) := by
  have hload : Pruned platform nowMs d.maps (loadExpirableState platform d) := pruned_load hs
  constructor
  · refine hload.pending.trans (.erase ?_)
    intro e he
    rw [lookup_load_pending hs.pending, hstored] at he
    cases he
    exact hexpired
  · refine hload.confirmed.trans (.erase ?_)
    intro e he
    rw [lookup_load_confirmed hs.confirmed] at he
    have hnone : d.confirmedPairingTickets.lookup kid = none :=
      (h.exclusive kid stored (.inl hstored)).1
    rw [hnone] at he
    cases he

/-- The in-memory store has no confirmed ticket under the `kid` of a pending one. -/
theorem memory_dropped {m m' : InMemoryStore} {kid : JsString}
    (h : MapsAgree platform nowMs a m.maps) (hstored : m.pairingTickets.lookup kid = some stored)
    (htrimmed : Trimmed platform nowMs m m') :
    Pruned platform nowMs (droppedTicket m'.maps kid)
      ⟨m'.pairingTickets.erase kid, m'.confirmedPairingTickets⟩ := by
  refine ⟨.refl _ _, fun k => .inl ?_⟩
  have hnone : m'.confirmedPairingTickets.lookup kid = none := by
    refine Option.eq_none_iff_forall_ne_some.mpr ?_
    intro c hc
    have hold := htrimmed.maps.confirmed.lookup hc
    rw [(h.exclusive kid stored (.inr hstored)).2] at hold
    cases hold
  simp only [droppedTicket]
  by_cases hk : k = kid
  · subst hk
    rw [AList.lookup_erase]
    exact hnone
  · rw [AList.lookup_erase_ne hk]
    rfl

/-- A store may lose what has expired. -/
theorem Stores.Agree.trimmed {d : TrustStorage} {m : InMemoryStore}
    (hs : s.Agree platform nowMs) (hstable : Stable platform d.maps)
    (hpruned : Pruned platform nowMs s.durable.maps d.maps)
    (hrevoked : d.revokedAgents = s.durable.revokedAgents) (hindex : SameIndex s.durable d)
    (htrimmed : Trimmed platform nowMs s.memory m) : Stores.Agree platform nowMs ⟨d, m⟩ := by
  refine ⟨hstable, (hs.maps.pruned hpruned).pruned_right htrimmed.maps, ?_,
    hs.index.same hindex htrimmed.pairKeys htrimmed.agentPeers⟩
  exact loadRevokedAgents_congr hrevoked ▸ hs.revoked.loses (.refl _ _) htrimmed.revoked

/-- The same pending ticket gives the same answer. -/
theorem MapsAgree.same_answer (h : MapsAgree platform nowMs a b)
    (input : PairingTicketConfirmInput) (ha : a.pairingTickets.lookup payload.kid = some stored)
    (hb : b.pairingTickets.lookup payload.kid = some stored) :
    confirmAnswer platform input payload nowMs (a.pairingTickets.lookup payload.kid)
        (a.confirmedPairingTickets.lookup payload.kid) =
      confirmAnswer platform input payload nowMs (b.pairingTickets.lookup payload.kid)
        (b.confirmedPairingTickets.lookup payload.kid) := by
  obtain ⟨hca, hcb⟩ := h.exclusive _ stored (.inl ha)
  rw [ha, hb, hca, hcb]

/-- A live pending ticket of one store is pending in the other. -/
theorem MapsAgree.live (h : MapsAgree platform nowMs a b)
    (ha : a.pairingTickets.lookup payload.kid = some stored)
    (hlive : ¬ (stored.expiresAtMs : ℚ) ≤ nowMs) :
    b.pairingTickets.lookup payload.kid = some stored :=
  h.pending.kept ha fun hold => hlive (h.expired_of_outdated ha hold)

/-- A pending ticket whose answers differ has expired. -/
theorem MapsAgree.outdated_of_answers (h : MapsAgree platform nowMs a b)
    (input : PairingTicketConfirmInput) (ha : a.pairingTickets.lookup payload.kid = some stored)
    (hne : confirmAnswer platform input payload nowMs (a.pairingTickets.lookup payload.kid)
        (a.confirmedPairingTickets.lookup payload.kid) ≠
      confirmAnswer platform input payload nowMs (b.pairingTickets.lookup payload.kid)
        (b.confirmedPairingTickets.lookup payload.kid)) :
    Outdated platform nowMs stored.ticket stored.expiresAtMs := by
  by_contra hlive
  exact hne (h.same_answer input ha (h.pending.kept ha hlive))

/-- **One confirmation keeps the stores in agreement.** -/
theorem confirm_agree {d : TrustStorage} {m : InMemoryStore} {reply : Reply} {answer : Answer}
    (hs : s.Agree platform nowMs) (hvalid : input.Valid platform) (hstable : Stable platform d.maps)
    (hdurable : DurableConfirm platform input payload nowMs s.durable (d, reply))
    (hmemory : MemoryConfirm platform input payload nowMs s.memory (m, answer)) :
    Stores.Agree platform nowMs ⟨d, m⟩ := by
  cases hdurable with
  | refused hanswer hother =>
      cases hmemory with
      | refused hanswer' hother' htrimmed =>
          exact hs.trimmed hstable (.refl ..) rfl ⟨rfl, rfl⟩ htrimmed
      | expired hanswer' hstored' htrimmed =>
          have hold := hs.maps.symm.outdated_of_answers input hstored' (by
            intro heq
            have h := hanswer'.symm.trans (heq.trans hanswer)
            cases h
            exact hother rfl)
          refine hs.trimmed hstable (.refl ..) rfl ⟨rfl, rfl⟩ (htrimmed.erase_pending ?_)
          intro e he
          have h := hstored'.symm.trans (htrimmed.maps.pending.lookup he)
          cases h
          exact hold
      | paired hanswer' hstored' hlive htrimmed =>
          have h := hs.maps.symm.same_answer input hstored'
            (hs.maps.symm.live hstored' hlive)
          cases hanswer'.symm.trans (h.trans hanswer)
  | expired hanswer hstored hmaps hrevoked hindex =>
      cases hmemory with
      | refused hanswer' hother' htrimmed =>
          have hold := hs.maps.outdated_of_answers input hstored (by
            intro heq
            have h := hanswer.symm.trans (heq.trans hanswer')
            cases h
            exact hother' rfl)
          refine hs.trimmed hstable ?_ hrevoked hindex htrimmed
          rw [hmaps]
          exact dropped_pruned hs.stable hs.maps hstored hold
      | expired hanswer' hstored' htrimmed =>
          refine ⟨hstable, ?_, ?_, hs.index.same hindex htrimmed.pairKeys htrimmed.agentPeers⟩
          · rw [hmaps]
            have hclean := (hs.maps.loaded hs.stable).pruned_right htrimmed.maps
            exact (hclean.dropped payload.kid).pruned_right
              (memory_dropped hs.maps hstored' htrimmed)
          · exact loadRevokedAgents_congr hrevoked ▸ hs.revoked.loses (.refl _ _) htrimmed.revoked
      | paired hanswer' hstored' hlive htrimmed =>
          have h := hs.maps.symm.same_answer input hstored'
            (hs.maps.symm.live hstored' hlive)
          cases hanswer'.symm.trans (h.trans hanswer)
  | paired hanswer hstored hlive hmaps hrevoked hindex =>
      have hsame := hs.maps.live hstored hlive
      have h := hs.maps.same_answer input hstored hsame
      cases hmemory with
      | refused hanswer' hother' htrimmed => cases hanswer.symm.trans (h.trans hanswer')
      | expired hanswer' hstored' htrimmed => cases hanswer.symm.trans (h.trans hanswer')
      | paired hanswer' hstored' hlive' htrimmed =>
          cases hsame.symm.trans hstored'
          refine ⟨hstable, ?_, ?_, ?_⟩
          · rw [hmaps]
            exact ((hs.maps.loaded hs.stable).pruned_right htrimmed.maps).moved payload.kid _
          · exact loadRevokedAgents_congr hrevoked ▸ hs.revoked.loses (.refl _ _) htrimmed.revoked
          · obtain ⟨_, hinitiator, _⟩ :=
              normalizePairingTicket_self (hs.stable.pending _ _ hstored)
            have hpair := (hs.index.same ⟨rfl, rfl⟩ htrimmed.pairKeys
              htrimmed.agentPeers).pair hinitiator (isNonEmptyString_of_agentDid hvalid.responder)
            exact hpair.same hindex rfl rfl

theorem DurableConfirm.answer {d d' : TrustStorage} {reply : Reply}
    (h : DurableConfirm platform input payload nowMs d (d', reply)) :
    callDurableState reply = (confirmAnswer platform input payload nowMs
      (d.pairingTickets.lookup payload.kid)
      (d.confirmedPairingTickets.lookup payload.kid)).map Payload.confirmed := by
  cases h with
  | refused hanswer => rw [hanswer]; rfl
  | expired hanswer => rw [hanswer]; rfl
  | paired hanswer => rw [hanswer]; rfl

theorem MemoryConfirm.answer {m m' : InMemoryStore} {answer : Answer}
    (h : MemoryConfirm platform input payload nowMs m (m', answer)) :
    answer = (confirmAnswer platform input payload nowMs
      (m.pairingTickets.lookup payload.kid)
      (m.confirmedPairingTickets.lookup payload.kid)).map Payload.confirmed := by
  cases h with
  | refused hanswer => rw [hanswer]; rfl
  | expired hanswer => rw [hanswer]; rfl
  | paired hanswer => rw [hanswer]; rfl

theorem confirm_agrees (horigin : OriginStable platform)
    (hs : s.Agree platform (input.nowMs.getD nowUtcMs)) (hvalid : input.Valid platform) :
    s.CallAgrees platform (.confirmPairingTicket input) nowUtcMs := by
  have hstable := perform_stable horigin hs.stable
    (createDurableProxyTrustStore (.confirmPairingTicket input) nowUtcMs)
  cases hparse : parsePairingTicket platform (normalizePairingTicketText input.ticket) with
  | ok payload =>
      have hd : DurableConfirm platform input payload (input.nowMs.getD nowUtcMs) s.durable
          (TrustState.perform platform s.durable
            (createDurableProxyTrustStore (.confirmPairingTicket input) nowUtcMs)) :=
        durable_confirm hs.stable hvalid hparse
      have hm : MemoryConfirm platform input payload (input.nowMs.getD nowUtcMs) s.memory
          (s.memory.perform platform (.confirmPairingTicket input) nowUtcMs) :=
        memory_confirm hparse
      have hboth := hs.maps.confirm input payload
      cases hdurable : TrustState.perform platform s.durable
          (createDurableProxyTrustStore (.confirmPairingTicket input) nowUtcMs) with
      | mk d reply =>
          cases hmemory : s.memory.perform platform (.confirmPairingTicket input) nowUtcMs with
          | mk m answer =>
              rw [hdurable] at hd hstable
              rw [hmemory] at hm
              refine .of_outcome hdurable hmemory (confirm_agree hs hvalid hstable hd hm) ?_ ?_
              · rw [hd.answer, hm.answer]
                rcases hboth.outcome with heq | ⟨e, e', he, he'⟩
                · exact .inl (congrArg (Except.map Payload.confirmed) heq)
                · exact .inr ⟨e, e', congrArg (Except.map Payload.confirmed) he,
                    congrArg (Except.map Payload.confirmed) he'⟩
              · intro hheld
                simp only [Stores.confirmsHeld, InMemoryStore.parseStoredTicket, hparse,
                  Bool.and_eq_true, decide_eq_true_eq, Bool.or_eq_true] at hheld
                rw [hd.answer, hm.answer]
                rcases hboth.alike hheld.1 hheld.2 with heq | ⟨hx, hy⟩ | ⟨hx, hy⟩
                · exact .inl (congrArg (Except.map Payload.confirmed) heq)
                · exact .inr (.inl ⟨congrArg (Except.map Payload.confirmed) hx,
                    congrArg (Except.map Payload.confirmed) hy⟩)
                · exact .inr (.inr ⟨congrArg (Except.map Payload.confirmed) hx,
                    congrArg (Except.map Payload.confirmed) hy⟩)
  | error e =>
      have hdurable : TrustState.perform platform s.durable
          (createDurableProxyTrustStore (.confirmPairingTicket input) nowUtcMs) =
          (s.durable, .error ⟨e.code, e.message, 400⟩) := by
        have htext : parseNormalizedPairingTicket platform
            (normalizePairingTicketText input.ticket) = .error e := by
          simp only [parseNormalizedPairingTicket, hvalid.ticket.settled, hparse]
          rfl
        simp only [createDurableProxyTrustStore, TrustState.perform, handleConfirmPairingTicket,
          confirmStart, parseConfirmBody_request hvalid, htext]
        rfl
      have hmemory : s.memory.perform platform (.confirmPairingTicket input) nowUtcMs =
          (s.memory, .error ⟨e.code, e.message, 400⟩) := by
        simp only [InMemoryStore.perform, InMemoryStore.confirmPairingTicket,
          InMemoryStore.resolveConfirmablePairingTicket, InMemoryStore.parseStoredTicket, hparse]
      exact .of_alike hdurable hmemory hs (.inl rfl)

end

end Clawdentity.TrustStore
