import Clawdentity.Proxy.TrustOperations

/-!
# The trusted pairs and the peers of an agent

Two indexes hold who trusts whom: the set of pair keys and the peers of each agent. Only
upserting a pair and confirming a ticket write them, and these write both. Between valid
agent DIDs the key of a pair determines the pair, since no DID has the separator.

## Main definitions

* `toPairKey_inj` — the key determines the pair.
* `Adds` — an operation that pairs two agents; `perform_index` — what any operation does.
* `Indexed` — the two indexes agree.
* `PairedBy` — the operations that have paired two agents.
-/

namespace Clawdentity.TrustState

open Js Lib Lib.Interleave PairingTicket Protocol

/-! ## Keys -/

theorem mem_sortStrings {l : List JsString} {x : JsString} : x ∈ sortStrings l ↔ x ∈ l :=
  List.mem_mergeSort

theorem mem_setAdd {l : List JsString} {x y : JsString} : y ∈ setAdd l x ↔ y ∈ l ∨ y = x := by
  unfold setAdd
  split
  · rename_i hx
    constructor
    · exact .inl
    · rintro (hy | rfl)
      · exact hy
      · exact hx
  · simp

/-- The unit that separates the two agents in a key. -/
def separator : UInt16 := 0x7C

theorem toPairKey_eq (a b : JsString) :
    toPairKey a b = if a ≤ b then a ++ separator :: b else b ++ separator :: a := by
  have hjoin : ∀ x y : JsString, (js "|").intercalate [x, y] = x ++ separator :: y := by
    intro x y
    have hbar : js "|" = [separator] := by decide
    simp [List.intercalate, List.intersperse, hbar]
  unfold toPairKey sortStrings
  by_cases hle : a ≤ b
  · rw [if_pos hle, ← hjoin]
    simp [List.mergeSort, List.MergeSort.Internal.splitInTwo, hle]
  · rw [if_neg hle, ← hjoin]
    simp [List.mergeSort, List.MergeSort.Internal.splitInTwo, hle]

theorem toPairKey_comm (a b : JsString) : toPairKey a b = toPairKey b a := by
  rw [toPairKey_eq, toPairKey_eq]
  by_cases hab : a ≤ b
  · rw [if_pos hab]
    by_cases hba : b ≤ a
    · have heq : a = b := List.le_antisymm hab hba
      subst heq
      rw [if_pos hba]
    · rw [if_neg hba]
  · have hba : b ≤ a := (List.le_total a b).resolve_left hab
    rw [if_neg hab, if_pos hba]

theorem separator_not_mem {did : JsString} (h : isAgentDid did = true) : separator ∉ did := by
  intro hmem
  have hrange := isAgentDid_range h separator hmem
  exact absurd hrange.2 (by decide)

/-- What stands before the first separator and after it. -/
theorem append_separator_inj {a b c d : JsString} (ha : separator ∉ a) (hc : separator ∉ c)
    (h : a ++ separator :: b = c ++ separator :: d) : a = c ∧ b = d := by
  have htake : ∀ {x y : JsString}, separator ∉ x →
      (x ++ separator :: y).takeWhile (fun u => u ≠ separator) = x := by
    intro x y hx
    rw [List.takeWhile_append_of_pos]
    · simp
    · intro u hu
      have hne : u ≠ separator := fun heq => hx (heq ▸ hu)
      simpa using hne
  have hac : a = c := by
    rw [← htake ha, h, htake hc]
  subst hac
  simpa using List.append_cancel_left h

/-- **The key determines the pair.** -/
theorem toPairKey_inj {a b c d : JsString} (ha : isAgentDid a = true) (hb : isAgentDid b = true)
    (hc : isAgentDid c = true) (hd : isAgentDid d = true) :
    toPairKey a b = toPairKey c d ↔ (a = c ∧ b = d) ∨ (a = d ∧ b = c) := by
  constructor
  · intro h
    rw [toPairKey_eq, toPairKey_eq] at h
    by_cases hab : a ≤ b
    · by_cases hcd : c ≤ d
      · rw [if_pos hab, if_pos hcd] at h
        exact .inl (append_separator_inj (separator_not_mem ha) (separator_not_mem hc) h)
      · rw [if_pos hab, if_neg hcd] at h
        exact .inr (append_separator_inj (separator_not_mem ha) (separator_not_mem hd) h)
    · by_cases hcd : c ≤ d
      · rw [if_neg hab, if_pos hcd] at h
        obtain ⟨hbc, had⟩ :=
          append_separator_inj (separator_not_mem hb) (separator_not_mem hc) h
        exact .inr ⟨had, hbc⟩
      · rw [if_neg hab, if_neg hcd] at h
        obtain ⟨hbd, hac⟩ :=
          append_separator_inj (separator_not_mem hb) (separator_not_mem hd) h
        exact .inl ⟨hac, hbd⟩
  · rintro (⟨rfl, rfl⟩ | ⟨rfl, rfl⟩)
    · rfl
    · exact toPairKey_comm a b

/-! ## Pairing two agents -/

theorem mem_savePairs_iff {s : TrustStorage} {a b key : JsString} :
    key ∈ (savePairAndPeers s a b).pairs ↔ key ∈ s.pairs ∨ key = toPairKey a b := by
  simp only [savePairAndPeers, mem_sortStrings, mem_setAdd]

/-- What is loaded of the peers. -/
theorem lookup_loadAgentPeers {s : TrustStorage} {a : JsString} :
    (loadAgentPeers s).lookup a = (s.agentPeers.lookup a).map (List.filter isNonEmptyString) := by
  unfold loadAgentPeers
  rw [Table.lookup_rekey_of_keeps]
  · cases s.agentPeers.lookup a <;> rfl
  · intro k v r _ hr
    cases hr
    rfl

theorem mem_addPeer {index : Table JsString (List JsString)} {a b x y : JsString} :
    y ∈ ((addPeer index a b).lookup x).getD [] ↔
      y ∈ (index.lookup x).getD [] ∨ (x = a ∧ y = b) := by
  unfold addPeer
  by_cases hx : x = a
  · subst hx
    rw [AList.lookup_insert]
    simp [mem_sortStrings, mem_setAdd]
  · rw [AList.lookup_insert_ne hx]
    simp [hx]

/-- The peers after two agents are paired. -/
theorem mem_peers_savePair {s : TrustStorage} {a b x y : JsString}
    (ha : isNonEmptyString a = true) (hb : isNonEmptyString b = true) :
    y ∈ (savePairAndPeers s a b).peers x ↔
      y ∈ s.peers x ∨ (x = a ∧ y = b) ∨ (x = b ∧ y = a) := by
  have hfilter : ∀ {t : TrustStorage} {x y : JsString},
      y ∈ t.peers x ↔ y ∈ (t.agentPeers.lookup x).getD [] ∧ isNonEmptyString y = true := by
    intro t x y
    rw [TrustStorage.peers, lookup_loadAgentPeers]
    cases t.agentPeers.lookup x <;> simp
  rw [hfilter]
  change y ∈ ((addPeer (addPeer (loadAgentPeers s) a b) b a).lookup x).getD [] ∧ _ ↔ _
  rw [mem_addPeer, mem_addPeer]
  constructor
  · rintro ⟨(hold | hnew) | hnew, _⟩
    · exact .inl hold
    · exact .inr (.inl hnew)
    · exact .inr (.inr hnew)
  · rintro (hold | ⟨rfl, rfl⟩ | ⟨rfl, rfl⟩)
    · exact ⟨.inl (.inl hold), (hfilter.mp hold).2⟩
    · exact ⟨.inl (.inr ⟨rfl, rfl⟩), hb⟩
    · exact ⟨.inr ⟨rfl, rfl⟩, ha⟩
/-! ## What an operation does to the indexes -/

/-- The two agents that an operation pairs. -/
def adds (platform : Platform) (s : TrustStorage) : Operation → Option (JsString × JsString)
  | .upsertPair request => request.pair
  | .confirm request =>
      match (handleConfirmPairingTicket platform s request).2 with
      | .confirmed _ result => some (result.initiatorAgentDid, result.responderAgentDid)
      | _ => none
  | _ => none

/-- The two storages have the same indexes. -/
def SameIndex (s t : TrustStorage) : Prop := t.pairs = s.pairs ∧ t.agentPeers = s.agentPeers

section
variable {platform : Platform} {s t : TrustStorage} {a b : JsString}

theorem SameIndex.peers (h : SameIndex s t) (a : JsString) : t.peers a = s.peers a := by
  rw [TrustStorage.peers, TrustStorage.peers, lookup_loadAgentPeers, lookup_loadAgentPeers, h.2]

/-- The two ways in which a confirmation ends. -/
theorem finishConfirm_index (platform : Platform) (s : TrustStorage) (v : Verifying) :
    SameIndex s (finishConfirm platform s v).1 ∧
      (∀ kid result, (finishConfirm platform s v).2 ≠ .confirmed kid result) ∨
    platform.verifySignature v.payload v.stored.publicKeyX = true ∧ v.expired = false ∧
      v.forbidden = false ∧
      SameIndex (savePairAndPeers s v.stored.initiatorAgentDid v.responderAgentDid)
        (finishConfirm platform s v).1 ∧
      ∃ result, (finishConfirm platform s v).2 = .confirmed v.payload.kid result ∧
        result.initiatorAgentDid = v.stored.initiatorAgentDid ∧
        result.responderAgentDid = v.responderAgentDid := by
  unfold finishConfirm confirmFinish
  by_cases hsigned : platform.verifySignature v.payload v.stored.publicKeyX = true
  · by_cases hexpired : v.expired = true
    · simp only [hsigned, hexpired, Bool.not_true, Bool.false_eq_true, if_false, if_true]
      exact .inl ⟨⟨rfl, rfl⟩, fun _ _ h => by cases h⟩
    · by_cases hissuer : v.stored.issuerProxyUrl ≠ v.payload.iss
      · simp only [hsigned, hexpired, Bool.not_true, Bool.false_eq_true, if_false, if_pos hissuer]
        exact .inl ⟨⟨rfl, rfl⟩, fun _ _ h => by cases h⟩
      · by_cases hforbidden : v.forbidden = true
        · simp only [hsigned, hexpired, Bool.not_true, Bool.false_eq_true, if_false,
            if_neg hissuer, hforbidden, if_true]
          exact .inl ⟨⟨rfl, rfl⟩, fun _ _ h => by cases h⟩
        · simp only [hsigned, hexpired, Bool.not_true, Bool.false_eq_true, if_false,
            if_neg hissuer, hforbidden]
          exact .inr ⟨trivial, trivial, trivial, ⟨rfl, rfl⟩, _, rfl, rfl, rfl⟩
  · simp only [hsigned, Bool.not_false, if_true]
    exact .inl ⟨⟨rfl, rfl⟩, fun _ _ h => by cases h⟩

/-- **A confirmation that succeeds** has a pending ticket, a signature under its key, and a
responder that the ticket allows, before the ticket expires. -/
theorem confirm_eq_confirmed {request : TrustRequest} {kid : JsString} {result : ConfirmResult}
    (h : (handleConfirmPairingTicket platform s request).2 = .confirmed kid result) :
    ∃ v, confirmStart platform s request = .verifying v ∧ v.payload.kid = kid ∧
      platform.verifySignature v.payload v.stored.publicKeyX = true ∧ v.expired = false ∧
      v.forbidden = false ∧ result.initiatorAgentDid = v.stored.initiatorAgentDid ∧
      result.responderAgentDid = v.responderAgentDid := by
  unfold handleConfirmPairingTicket at h
  split at h
  · rename_i v hstart
    rcases finishConfirm_index platform s v with
      ⟨_, hnone⟩ | ⟨hsigned, hlive, hallowed, _, found, hfound, hinitiator, hresponder⟩
    · exact absurd h (hnone kid result)
    · rw [hfound] at h
      cases h
      exact ⟨v, hstart, rfl, hsigned, hlive, hallowed, hinitiator, hresponder⟩
  · rename_i c hc
    cases hcall : confirmStart platform s request with
    | verifying v => exact absurd hcall (hc v)
    | confirmed k r =>
        have hnot := confirmStart_confirms platform s request k
        rw [hcall] at hnot
        simp [Call.confirms] at hnot
    | rejected e =>
        rw [hcall] at h
        cases h

theorem create_index (request : TrustRequest) :
    SameIndex s (handleCreatePairingTicket platform s request).1 := by
  unfold handleCreatePairingTicket
  split <;> exact ⟨rfl, rfl⟩

theorem status_index (request : TrustRequest) :
    SameIndex s (handleGetPairingTicketStatus platform s request).1 := by
  unfold handleGetPairingTicketStatus
  split
  · exact ⟨rfl, rfl⟩
  · split
    · exact ⟨rfl, rfl⟩
    · simp only
      split
      · split <;> exact ⟨rfl, rfl⟩
      · split <;> exact ⟨rfl, rfl⟩
      · exact ⟨rfl, rfl⟩

theorem status_revoked (platform : Platform) (request : TrustRequest) (d : TrustStorage) :
    (handleGetPairingTicketStatus platform d request).1.revokedAgents = d.revokedAgents := by
  unfold handleGetPairingTicketStatus
  split
  · rfl
  · split
    · rfl
    · simp only
      split
      · split <;> rfl
      · split <;> rfl
      · rfl

theorem markAgentRevoked_index (request : TrustRequest) :
    SameIndex s (handleMarkAgentRevoked platform s request).1 := by
  unfold handleMarkAgentRevoked
  split
  · simp only
    split <;> exact ⟨rfl, rfl⟩
  · exact ⟨rfl, rfl⟩

theorem isAgentRevoked_index (request : TrustRequest) :
    SameIndex s (handleIsAgentRevoked platform s request).1 := by
  unfold handleIsAgentRevoked
  split
  · simp only
    split <;> exact ⟨rfl, rfl⟩
  · exact ⟨rfl, rfl⟩

/-- The storage with the pair that an operation adds. -/
def withPair (s : TrustStorage) : Option (JsString × JsString) → TrustStorage
  | none => s
  | some (a, b) => savePairAndPeers s a b

theorem upsertPair_index (request : TrustRequest) :
    SameIndex (withPair s request.pair) (handleUpsertPair s request).1 := by
  unfold handleUpsertPair
  cases request.pair with
  | none => exact ⟨rfl, rfl⟩
  | some pair => exact ⟨rfl, rfl⟩

theorem confirm_index (request : TrustRequest) :
    SameIndex (withPair s (adds platform s (.confirm request)))
      (handleConfirmPairingTicket platform s request).1 := by
  cases hreply : (handleConfirmPairingTicket platform s request).2 with
  | confirmed kid result =>
      have hadds : adds platform s (.confirm request) =
          some (result.initiatorAgentDid, result.responderAgentDid) := by
        simp only [adds, hreply]
      obtain ⟨v, hstart, _, _, _, _, hinitiator, hresponder⟩ := confirm_eq_confirmed hreply
      have hfinish : handleConfirmPairingTicket platform s request = finishConfirm platform s v := by
        rw [handleConfirmPairingTicket, hstart]
      rw [hfinish] at hreply
      rw [hadds, hfinish, withPair, hinitiator, hresponder]
      rcases finishConfirm_index platform s v with ⟨_, hnone⟩ | ⟨_, _, _, hsame, _⟩
      · exact absurd hreply (hnone kid result)
      · exact hsame
  | _ =>
      have hadds : adds platform s (.confirm request) = none := by
        simp only [adds, hreply]
      rw [hadds]
      cases hstart : confirmStart platform s request with
      | verifying v =>
          have hfinish : handleConfirmPairingTicket platform s request =
              finishConfirm platform s v := by
            rw [handleConfirmPairingTicket, hstart]
          rw [hfinish] at hreply ⊢
          rcases finishConfirm_index platform s v with ⟨hsame, _⟩ | ⟨_, _, _, _, _, hfound, _⟩
          · exact hsame
          · rw [hfound] at hreply
            cases hreply
      | _ =>
          rw [handleConfirmPairingTicket, hstart]
          exact ⟨rfl, rfl⟩

/-- **What an operation does to the indexes**: nothing, or it pairs the two agents. -/
theorem perform_index (platform : Platform) (s : TrustStorage) (op : Operation) :
    SameIndex (withPair s (adds platform s op)) (perform platform s op).1 := by
  have hnone : ∀ {t : TrustStorage}, adds platform s op = none → SameIndex s t →
      SameIndex (withPair s (adds platform s op)) t := by
    intro t hadds hsame
    rw [hadds]
    exact hsame
  cases op with
  | create request =>
      rw [perform]
      exact hnone rfl (create_index request)
  | confirm request =>
      rw [perform]
      exact confirm_index request
  | status request =>
      rw [perform]
      exact hnone rfl (status_index request)
  | upsertPair request =>
      rw [perform]
      exact upsertPair_index request
  | isPairAllowed request => exact hnone rfl ⟨rfl, rfl⟩
  | markAgentRevoked request =>
      rw [perform]
      exact hnone rfl (markAgentRevoked_index request)
  | isAgentRevoked request =>
      rw [perform]
      exact hnone rfl (isAgentRevoked_index request)
  | isAgentKnown request => exact hnone rfl ⟨rfl, rfl⟩
  | alarm nowMs => exact hnone rfl ⟨rfl, rfl⟩

/-! ## The pending tickets -/

/-- An entry has the terms of the ticket that was created. -/
structure Terms (created entry : StoredPairingTicket) : Prop where
  ticket : entry.ticket = created.ticket
  initiatorAgentDid : entry.initiatorAgentDid = created.initiatorAgentDid
  publicKeyX : entry.publicKeyX = created.publicKeyX
  expiresAtMs : entry.expiresAtMs = created.expiresAtMs
  allowResponderAgentDid : entry.allowResponderAgentDid = created.allowResponderAgentDid

theorem Terms.trans {x y z : StoredPairingTicket} (h : Terms x y) (h' : Terms y z) : Terms x z :=
  ⟨h'.ticket.trans h.ticket, h'.initiatorAgentDid.trans h.initiatorAgentDid,
    h'.publicKeyX.trans h.publicKeyX, h'.expiresAtMs.trans h.expiresAtMs,
    h'.allowResponderAgentDid.trans h.allowResponderAgentDid⟩

theorem readTicket_eq_ok {raw text : JsString} {payload : PairingTicketPayload}
    (h : readTicket platform raw = .ok (text, payload)) :
    parsePairingTicket platform text = .ok payload := by
  unfold readTicket at h
  split at h
  · rename_i parsed hparsed
    cases h
    obtain ⟨_, hpayload, hpair⟩ := bind_eq_ok.mp hparsed
    cases hpair
    exact hpayload
  · cases h

/-- What the checks of a creation let through. -/
theorem createdTicket_eq_ok {request : TrustRequest} {kid : JsString} {ticket : StoredPairingTicket}
    (h : createdTicket platform request = .ok (kid, ticket)) :
    request.text "initiatorAgentDid" = some ticket.initiatorAgentDid ∧
      request.nowMs < ticket.expiresAtMs ∧
      ∃ payload, parsePairingTicket platform ticket.ticket = .ok payload ∧ payload.kid = kid ∧
        payload.iss = ticket.issuerProxyUrl ∧ payload.exp * 1000 = ticket.expiresAtMs := by
  simp only [createdTicket, bind_eq_ok, elim_eq_ok, check_eq_ok] at h
  obtain ⟨profile, _, initiator, hinitiator, issuer, _, raw, _, key, _, expires, _, _, _, allowed, _,
    _, _, ⟨text, payload⟩, hparse, _, _, _, hexpires, _, hnow, hticket⟩ := h
  cases hticket
  exact ⟨hinitiator, of_decide_eq_true hnow, payload, readTicket_eq_ok hparse, rfl, rfl,
    of_decide_eq_true hexpires⟩

theorem normalizePairingTicket_keeps {key kid : JsString} {raw entry : StoredPairingTicket}
    (h : normalizePairingTicket platform key raw = some (kid, entry)) :
    entry.initiatorAgentDid = raw.initiatorAgentDid ∧ entry.publicKeyX = raw.publicKeyX ∧
      entry.expiresAtMs = raw.expiresAtMs ∧
      entry.allowResponderAgentDid = raw.allowResponderAgentDid := by
  simp only [normalizePairingTicket, Option.bind_eq_bind, Option.bind_eq_some_iff] at h
  obtain ⟨profile, _, h⟩ := h
  split at h
  · obtain ⟨_, _, hentry⟩ := Option.bind_eq_some_iff.mp h
    cases hentry
    exact ⟨rfl, rfl, rfl, rfl⟩
  · cases h

/-- A ticket that is loaded was stored, under the same terms. -/
theorem lookup_loadPairingTickets {kid : JsString} {entry : StoredPairingTicket}
    (hw : WellKeyed platform s.pairingTickets)
    (h : (loadPairingTickets platform s).lookup kid = some entry) :
    ∃ raw, s.pairingTickets.lookup kid = some raw ∧ Terms raw entry := by
  obtain ⟨key, raw, hraw, hnormal⟩ := Table.lookup_rekey h
  obtain ⟨payload, hparse, hkid⟩ := hw key raw hraw
  obtain ⟨hticket, payload', hparse', hkid'⟩ := normalizePairingTicket_eq_some hnormal
  have hsame : entry.ticket = raw.ticket := by
    rw [hticket, ticketCandidate, if_pos (isNonEmptyString_of_parse hparse)]
  rw [hsame, hparse] at hparse'
  cases hparse'
  obtain ⟨hinitiator, hpublicKey, hexpires, hallowed⟩ := normalizePairingTicket_keeps hnormal
  subst hkid'
  subst hkid
  exact ⟨raw, hraw, hsame, hinitiator, hpublicKey, hexpires, hallowed⟩

/-- The pending tickets of the second storage were pending in the first, or loaded from it. -/
def PendingFrom (platform : Platform) (s t : TrustStorage) : Prop :=
  ∀ kid entry, t.pairingTickets.lookup kid = some entry →
    s.pairingTickets.lookup kid = some entry ∨
      (loadPairingTickets platform s).lookup kid = some entry

theorem PendingFrom.refl (s : TrustStorage) : PendingFrom platform s s := fun _ _ h => .inl h

/-- The maps that were loaded, without one ticket. -/
theorem pendingFrom_erase {key : JsString}
    (h : t.pairingTickets = (loadPairingTickets platform s).erase key) :
    PendingFrom platform s t := by
  intro kid entry hentry
  rw [h] at hentry
  by_cases hkid : kid = key
  · subst hkid
    rw [AList.lookup_erase] at hentry
    cases hentry
  · rw [AList.lookup_erase_ne hkid] at hentry
    exact .inr hentry

theorem status_pending (request : TrustRequest) :
    PendingFrom platform s (handleGetPairingTicketStatus platform s request).1 := by
  unfold handleGetPairingTicketStatus
  split
  · exact .refl s
  · split
    · exact .refl s
    · simp only
      split
      · split
        · exact pendingFrom_erase rfl
        · exact .refl s
      · split <;> exact .refl s
      · exact .refl s

theorem confirm_pending (request : TrustRequest) :
    PendingFrom platform s (handleConfirmPairingTicket platform s request).1 := by
  unfold handleConfirmPairingTicket
  split
  · rename_i v hstart
    obtain ⟨hsnapshot, _⟩ := confirmStart_verifying hstart
    have hmaps : v.snapshot.pairingTickets = loadPairingTickets platform s := by
      rw [hsnapshot]
      rfl
    unfold finishConfirm
    rcases confirmFinish_cases platform ⟨s, []⟩ v with ⟨e, heq⟩ | ⟨_, heq⟩ | ⟨_, result, heq⟩
    · rw [heq]
      exact .refl s
    · rw [heq]
      exact pendingFrom_erase (congrArg (AList.erase v.payload.kid) hmaps)
    · rw [heq]
      exact pendingFrom_erase (congrArg (AList.erase v.payload.kid) hmaps)
  · exact .refl s

theorem markAgentRevoked_pending (request : TrustRequest) :
    PendingFrom platform s (handleMarkAgentRevoked platform s request).1 := by
  unfold handleMarkAgentRevoked
  split
  · simp only
    split <;> exact .refl s
  · exact .refl s

theorem isAgentRevoked_pending (request : TrustRequest) :
    PendingFrom platform s (handleIsAgentRevoked platform s request).1 := by
  unfold handleIsAgentRevoked
  split
  · simp only
    split <;> exact .refl s
  · exact .refl s

theorem alarm_pending (nowMs : ℤ) : PendingFrom platform s (runAlarmCleanup platform s nowMs) := by
  intro kid entry hentry
  unfold runAlarmCleanup at hentry
  simp only at hentry
  split at hentry
  · exact .inr (Table.lookup_keep_eq_some.mp hentry).1
  · exact .inl hentry

theorem upsertPair_pending (request : TrustRequest) :
    PendingFrom platform s (handleUpsertPair s request).1 := by
  unfold handleUpsertPair
  split <;> exact .refl s

/-- **What an operation does to the pending tickets**: it adds the one that it creates. -/
theorem perform_pending {op : Operation} {kid : JsString} {entry : StoredPairingTicket}
    (h : (perform platform s op).1.pairingTickets.lookup kid = some entry) :
    s.pairingTickets.lookup kid = some entry ∨
      (loadPairingTickets platform s).lookup kid = some entry ∨
      ∃ request, op = .create request ∧ createdTicket platform request = .ok (kid, entry) := by
  have hold : PendingFrom platform s (perform platform s op).1 →
      s.pairingTickets.lookup kid = some entry ∨
        (loadPairingTickets platform s).lookup kid = some entry ∨
        ∃ request, op = .create request ∧ createdTicket platform request = .ok (kid, entry) :=
    fun hfrom => (hfrom kid entry h).imp_right .inl
  cases op with
  | create request =>
      rw [perform, handleCreatePairingTicket] at h
      split at h
      · exact .inl h
      · rename_i key ticket hcreated
        by_cases hkid : kid = key
        · subst hkid
          have hentry : entry = ticket := Option.some.inj (h.symm.trans (AList.lookup_insert _))
          subst hentry
          exact .inr (.inr ⟨request, rfl, hcreated⟩)
        · exact .inr (.inl ((AList.lookup_insert_ne hkid).symm.trans h))
  | confirm request => exact hold (by rw [perform]; exact confirm_pending request)
  | status request => exact hold (by rw [perform]; exact status_pending request)
  | upsertPair request => exact hold (by rw [perform]; exact upsertPair_pending request)
  | isPairAllowed request => exact hold (.refl s)
  | markAgentRevoked request => exact hold (by rw [perform]; exact markAgentRevoked_pending request)
  | isAgentRevoked request => exact hold (by rw [perform]; exact isAgentRevoked_pending request)
  | isAgentKnown request => exact hold (.refl s)
  | alarm nowMs => exact hold (by rw [perform]; exact alarm_pending nowMs)

/-! ## Sequences of operations -/

theorem after_append (platform : Platform) (ops : List Operation) (op : Operation) :
    after platform (ops ++ [op]) = (perform platform (after platform ops) op).1 := by
  simp [after]

/-- Every pending ticket was created, under its terms. -/
def Created (platform : Platform) (ops : List Operation) (tickets : Table JsString StoredPairingTicket) :
    Prop :=
  ∀ kid entry, tickets.lookup kid = some entry → ∃ pre request post ticket,
    ops = pre ++ .create request :: post ∧ createdTicket platform request = .ok (kid, ticket) ∧
      Terms ticket entry

theorem Terms.refl (e : StoredPairingTicket) : Terms e e := ⟨rfl, rfl, rfl, rfl, rfl⟩

theorem Created.append {ops : List Operation} {tickets : Table JsString StoredPairingTicket}
    (h : Created platform ops tickets) (more : List Operation) :
    Created platform (ops ++ more) tickets := by
  intro kid entry hentry
  obtain ⟨pre, request, post, ticket, rfl, hcreated, hterms⟩ := h kid entry hentry
  exact ⟨pre, request, post ++ more, ticket, by simp, hcreated, hterms⟩

theorem Created.wellKeyed {ops : List Operation} {tickets : Table JsString StoredPairingTicket}
    (h : Created platform ops tickets) : WellKeyed platform tickets := by
  intro kid entry hentry
  obtain ⟨_, request, _, ticket, _, hcreated, hterms⟩ := h kid entry hentry
  obtain ⟨_, _, payload, hparse, hkid, _⟩ := createdTicket_eq_ok hcreated
  rw [← hterms.ticket] at hparse
  exact ⟨payload, hparse, hkid⟩

theorem Created.load {ops : List Operation} (h : Created platform ops s.pairingTickets) :
    Created platform ops (loadPairingTickets platform s) := by
  intro kid entry hentry
  obtain ⟨raw, hraw, hterms⟩ := lookup_loadPairingTickets h.wellKeyed hentry
  obtain ⟨pre, request, post, ticket, hops, hcreated, hraw'⟩ := h kid raw hraw
  exact ⟨pre, request, post, ticket, hops, hcreated, hraw'.trans hterms⟩

theorem created_after (platform : Platform) (ops : List Operation) :
    Created platform ops (after platform ops).pairingTickets := by
  induction ops using List.reverseRecOn with
  | nil =>
      intro kid entry hentry
      cases hentry
  | append_singleton ops op ih =>
      intro kid entry hentry
      rw [after_append] at hentry
      rcases perform_pending hentry with hold | hloaded | ⟨request, rfl, hcreated⟩
      · exact ih.append [op] kid entry hold
      · exact ih.load.append [op] kid entry hloaded
      · exact ⟨ops, request, [], entry, rfl, hcreated, .refl entry⟩

/-- The operations are made with valid agent DIDs. -/
def Operation.Valid : Operation → Prop
  | .create request => ∀ did ∈ request.text "initiatorAgentDid", isAgentDid did = true
  | .confirm request => ∀ did ∈ request.text "responderAgentDid", isAgentDid did = true
  | .upsertPair request => ∀ pair ∈ request.pair, isAgentDid pair.1 = true ∧ isAgentDid pair.2 = true
  | _ => True

instance (op : Operation) : Decidable op.Valid :=
  match op with
  | .create request =>
      inferInstanceAs (Decidable (∀ did ∈ request.text "initiatorAgentDid", isAgentDid did = true))
  | .confirm request =>
      inferInstanceAs (Decidable (∀ did ∈ request.text "responderAgentDid", isAgentDid did = true))
  | .upsertPair request =>
      inferInstanceAs (Decidable (∀ pair ∈ request.pair,
        isAgentDid pair.1 = true ∧ isAgentDid pair.2 = true))
  | .status _ | .isPairAllowed _ | .markAgentRevoked _ | .isAgentRevoked _ | .isAgentKnown _
  | .alarm _ => inferInstanceAs (Decidable True)

/-- The operations have paired the first agent, as initiator, with the second. -/
inductive PairedBy (platform : Platform) (ops : List Operation) (a b : JsString) : Prop
  /-- An upsert named them. -/
  | upsert {pre post : List Operation} {request : TrustRequest}
      (hops : ops = pre ++ .upsertPair request :: post) (hpair : request.pair = some (a, b))
  /-- A ticket that the first had created was confirmed by the second. -/
  | ticket {pre mid post : List Operation} {create confirm : TrustRequest} {kid raw text : JsString}
      {ticket : StoredPairingTicket} {profile : PeerProfile} {payload : PairingTicketPayload}
      {result : ConfirmResult}
      (hops : ops = pre ++ .create create :: (mid ++ .confirm confirm :: post))
      (hcreated : createdTicket platform create = .ok (kid, ticket))
      (hinitiator : ticket.initiatorAgentDid = a)
      (hreply : (perform platform (after platform (pre ++ .create create :: mid))
        (.confirm confirm)).2 = .confirmed kid result)
      (hagents : result.initiatorAgentDid = a ∧ result.responderAgentDid = b)
      (hbody : parseConfirmBody platform confirm.body = some (raw, b, profile))
      (htext : parseNormalizedPairingTicket platform raw = .ok (text, payload))
      (hkid : payload.kid = kid)
      (hsigned : platform.verifySignature payload ticket.publicKeyX = true)
      (hlive : confirm.nowMs < ticket.expiresAtMs ∧ confirm.nowMs < ((payload.exp * 1000 : ℤ) : ℚ))
      (hallowed : ticket.allowResponderAgentDid.all (· = b) = true)

/-! ## Consistency -/

/-- The request of a confirmation that waits. -/
theorem confirmStart_request {request : TrustRequest} {v : Verifying}
    (h : confirmStart platform s request = .verifying v) :
    ∃ raw, parseConfirmBody platform request.body = some (raw, v.responderAgentDid,
        v.responderProfile) ∧
      parseNormalizedPairingTicket platform raw = .ok (v.ticket, v.payload) ∧
      v.nowMs = request.nowMs := by
  unfold confirmStart at h
  split at h
  · cases h
  · rename_i raw responder profile hbody
    split at h
    · cases h
    · rename_i text payload htext
      simp only at h
      split at h
      · cases h
      · split at h
        · cases h
        · cases h
          exact ⟨raw, hbody, htext, rfl⟩

theorem responder_of_parseConfirmBody {request : TrustRequest} {raw responder : JsString}
    {profile : PeerProfile}
    (h : parseConfirmBody platform request.body = some (raw, responder, profile)) :
    request.text "responderAgentDid" = some responder := by
  simp only [parseConfirmBody, Option.bind_eq_bind, Option.bind_eq_some_iff, Option.some.injEq] at h
  obtain ⟨body, hbody, _, _, _, _, did, hdid, hall⟩ := h
  cases hall
  rw [ConfirmRequest.text, ConfirmRequest.field, hbody]
  exact hdid

/-- The ticket of a confirmation that succeeds was created before. -/
theorem adds_confirm {ops : List Operation} {request : TrustRequest}
    (hcreated : Created platform ops s.pairingTickets)
    (h : adds platform s (.confirm request) = some (a, b)) :
    ∃ v result pre create mid ticket, confirmStart platform s request = .verifying v ∧
      (handleConfirmPairingTicket platform s request).2 = .confirmed v.payload.kid result ∧
      platform.verifySignature v.payload v.stored.publicKeyX = true ∧ v.expired = false ∧
      v.forbidden = false ∧ v.stored.initiatorAgentDid = a ∧ v.responderAgentDid = b ∧
      ops = pre ++ .create create :: mid ∧
      createdTicket platform create = .ok (v.payload.kid, ticket) ∧ Terms ticket v.stored := by
  simp only [adds] at h
  split at h
  · rename_i kid result hreply
    cases h
    obtain ⟨v, hstart, hkid, hsigned, hlive, hallowed, hinitiator, hresponder⟩ :=
      confirm_eq_confirmed hreply
    obtain ⟨hsnapshot, hstored⟩ := confirmStart_verifying hstart
    rw [hsnapshot] at hstored
    obtain ⟨pre, create, mid, ticket, hops, hticket, hterms⟩ := hcreated.load _ _ hstored
    subst hkid
    exact ⟨v, result, pre, create, mid, ticket, hstart, hreply, hsigned, hlive, hallowed,
      hinitiator.symm, hresponder.symm, hops, hticket, hterms⟩
  · cases h

/-- Valid operations pair valid agents. -/
theorem adds_valid {ops : List Operation} {op : Operation}
    (hcreated : Created platform ops s.pairingTickets) (hops : ∀ o ∈ ops, o.Valid) (hop : op.Valid)
    (h : adds platform s op = some (a, b)) : isAgentDid a = true ∧ isAgentDid b = true := by
  cases op with
  | upsertPair request => exact hop (a, b) h
  | confirm request =>
      obtain ⟨v, _, pre, create, mid, ticket, hstart, _, _, _, _, rfl, rfl, rfl, hticket, hterms⟩ :=
        adds_confirm hcreated h
      obtain ⟨raw, hbody, _, _⟩ := confirmStart_request hstart
      refine ⟨?_, hop _ (responder_of_parseConfirmBody hbody)⟩
      rw [hterms.initiatorAgentDid]
      have hcreate : (Operation.create create).Valid := hops _ (by simp)
      exact hcreate _ (createdTicket_eq_ok hticket).1
  | _ => cases h

/-- The two indexes agree. -/
structure Indexed (s : TrustStorage) : Prop where
  valid : ∀ a b, b ∈ s.peers a → isAgentDid a = true ∧ isAgentDid b = true
  peers_iff : ∀ a b, isAgentDid a = true → isAgentDid b = true →
    (b ∈ s.peers a ↔ toPairKey a b ∈ s.pairs)

theorem Indexed.same (hs : Indexed s) (h : SameIndex s t) : Indexed t := by
  refine ⟨fun a b hb => hs.valid a b (by rwa [← h.peers]), fun a b ha hb => ?_⟩
  rw [h.peers, h.1]
  exact hs.peers_iff a b ha hb

theorem isNonEmptyString_of_agentDid {did : JsString} (h : isAgentDid did = true) :
    isNonEmptyString did = true := by
  rw [isNonEmptyString, (isAgentDid_graphic h).trim_eq]
  cases did with
  | nil => exact absurd h (by decide)
  | cons u rest => rfl

/-- Pairing two agents writes both indexes. -/
theorem Indexed.savePair (hs : Indexed s) (ha : isAgentDid a = true) (hb : isAgentDid b = true) :
    Indexed (savePairAndPeers s a b) := by
  have hpeers : ∀ x y, y ∈ (savePairAndPeers s a b).peers x ↔
      y ∈ s.peers x ∨ (x = a ∧ y = b) ∨ (x = b ∧ y = a) := fun x y =>
    mem_peers_savePair (isNonEmptyString_of_agentDid ha) (isNonEmptyString_of_agentDid hb)
  constructor
  · intro x y hy
    rcases (hpeers x y).mp hy with hold | ⟨rfl, rfl⟩ | ⟨rfl, rfl⟩
    · exact hs.valid x y hold
    · exact ⟨ha, hb⟩
    · exact ⟨hb, ha⟩
  · intro x y hx hy
    rw [hpeers, mem_savePairs_iff, hs.peers_iff x y hx hy, toPairKey_inj hx hy ha hb]

theorem indexed_after {ops : List Operation} (h : ∀ op ∈ ops, op.Valid) :
    Indexed (after platform ops) := by
  induction ops using List.reverseRecOn with
  | nil =>
      constructor
      · intro a b hb
        cases hb
      · intro a b _ _
        exact iff_of_false List.not_mem_nil List.not_mem_nil
  | append_singleton ops op ih =>
      have hops : ∀ o ∈ ops, o.Valid := fun o ho => h o (List.mem_append_left _ ho)
      have hs := ih hops
      have hindex := perform_index platform (after platform ops) op
      rw [after_append]
      cases hadds : adds platform (after platform ops) op with
      | none =>
          rw [hadds] at hindex
          exact hs.same hindex
      | some pair =>
          obtain ⟨a, b⟩ := pair
          rw [hadds] at hindex
          obtain ⟨ha, hb⟩ := adds_valid (created_after platform ops) hops (h op (by simp)) hadds
          exact (hs.savePair ha hb).same hindex

/-! ## Provenance -/

theorem pairs_append (platform : Platform) (ops more : List Operation) {key : JsString}
    (h : key ∈ (after platform ops).pairs) : key ∈ (after platform (ops ++ more)).pairs := by
  induction more using List.reverseRecOn with
  | nil => rwa [List.append_nil]
  | append_singleton more op ih =>
      rw [← List.append_assoc, after_append, (perform_index platform _ op).1]
      cases adds platform (after platform (ops ++ more)) op with
      | none => exact ih
      | some pair => exact mem_savePairs_iff.mpr (.inl ih)

/-- The pair that an operation adds is stored after it. -/
theorem pairs_of_adds {pre post : List Operation} {op : Operation}
    (h : adds platform (after platform pre) op = some (a, b)) :
    toPairKey a b ∈ (after platform (pre ++ op :: post)).pairs := by
  have hsplit : pre ++ op :: post = (pre ++ [op]) ++ post := by simp
  rw [hsplit]
  apply pairs_append
  rw [after_append, (perform_index platform _ op).1, h]
  exact mem_savePairs_iff.mpr (.inr rfl)

theorem PairedBy.pairs {ops : List Operation} (h : PairedBy platform ops a b) :
    toPairKey a b ∈ (after platform ops).pairs := by
  cases h with
  | upsert hops hpair =>
      subst hops
      exact pairs_of_adds hpair
  | @ticket pre mid post create confirm kid raw text ticket profile payload result hops hcreated
      hinitiator hreply hagents hbody htext hkid hsigned hlive hallowed =>
      have hsplit : ops = (pre ++ .create create :: mid) ++ .confirm confirm :: post := by
        rw [hops]
        simp
      rw [hsplit]
      apply pairs_of_adds
      rw [perform] at hreply
      simp only [adds, hreply, hagents]

theorem PairedBy.append {ops : List Operation} (h : PairedBy platform ops a b)
    (more : List Operation) : PairedBy platform (ops ++ more) a b := by
  cases h with
  | @upsert pre post request hops hpair =>
      have hmore : ops ++ more = pre ++ .upsertPair request :: (post ++ more) := by
        rw [hops]
        simp
      exact .upsert hmore hpair
  | @ticket pre mid post create confirm kid raw text ticket profile payload result hops hcreated
      hinitiator hreply hagents hbody htext hkid hsigned hlive hallowed =>
      have hmore : ops ++ more =
          pre ++ .create create :: (mid ++ .confirm confirm :: (post ++ more)) := by
        rw [hops]
        simp
      exact .ticket hmore hcreated hinitiator hreply hagents hbody htext hkid hsigned hlive hallowed

/-- An operation that pairs two agents, after the operations before it. -/
theorem pairedBy_of_adds {ops : List Operation} {op : Operation}
    (h : adds platform (after platform ops) op = some (a, b)) :
    PairedBy platform (ops ++ [op]) a b := by
  cases op with
  | upsertPair request => exact .upsert rfl h
  | confirm request =>
      have hagents := h
      obtain ⟨v, result, pre, create, mid, ticket, hstart, hreply, hsigned, hlive, hallowed,
        hinitiator, hresponder, hops, hticket, hterms⟩ := adds_confirm (created_after platform ops) h
      obtain ⟨raw, hbody, htext, hnow⟩ := confirmStart_request hstart
      simp only [adds, hreply, Option.some.injEq, Prod.mk.injEq] at hagents
      simp only [Verifying.expired, Bool.or_eq_false_iff, decide_eq_false_iff_not, not_le] at hlive
      rw [hnow, hterms.expiresAtMs] at hlive
      have hsplit : ops ++ [Operation.confirm request] =
          pre ++ .create create :: (mid ++ .confirm request :: []) := by
        rw [hops]
        simp
      subst hresponder
      refine .ticket hsplit hticket (hterms.initiatorAgentDid.symm.trans hinitiator) ?_ hagents hbody
        htext rfl (hterms.publicKeyX ▸ hsigned) hlive ?_
      · rw [perform, ← hops]
        exact hreply
      · rw [← hterms.allowResponderAgentDid]
        unfold Verifying.forbidden at hallowed
        cases hallow : v.stored.allowResponderAgentDid with
        | none => rfl
        | some did =>
            rw [hallow] at hallowed
            simpa using hallowed
  | _ => cases h

/-- **Every stored pair was added** by an upsert or a confirmation. -/
theorem exists_pairedBy {ops : List Operation} {key : JsString}
    (h : key ∈ (after platform ops).pairs) :
    ∃ a b, key = toPairKey a b ∧ PairedBy platform ops a b := by
  induction ops using List.reverseRecOn with
  | nil => cases h
  | append_singleton ops op ih =>
      rw [after_append, (perform_index platform _ op).1] at h
      cases hadds : adds platform (after platform ops) op with
      | none =>
          rw [hadds] at h
          obtain ⟨a, b, hkey, hpaired⟩ := ih h
          exact ⟨a, b, hkey, hpaired.append [op]⟩
      | some pair =>
          obtain ⟨a, b⟩ := pair
          rw [hadds] at h
          rcases mem_savePairs_iff.mp h with hold | hnew
          · obtain ⟨a', b', hkey, hpaired⟩ := ih hold
            exact ⟨a', b', hkey, hpaired.append [op]⟩
          · exact ⟨a, b, hnew, pairedBy_of_adds hadds⟩

/-- Valid operations have paired valid agents. -/
theorem PairedBy.valid {ops : List Operation} (h : PairedBy platform ops a b)
    (hops : ∀ op ∈ ops, op.Valid) : isAgentDid a = true ∧ isAgentDid b = true := by
  cases h with
  | @upsert pre post request hsplit hpair =>
      have hvalid : (Operation.upsertPair request).Valid := hops _ (by rw [hsplit]; simp)
      exact hvalid (a, b) hpair
  | @ticket pre mid post create confirm kid raw text ticket profile payload result hsplit hcreated
      hinitiator hreply hagents hbody htext hkid hsigned hlive hallowed =>
      have hcreate : (Operation.create create).Valid := hops _ (by rw [hsplit]; simp)
      have hconfirm : (Operation.confirm confirm).Valid := hops _ (by rw [hsplit]; simp)
      rw [← hinitiator]
      exact ⟨hcreate _ (createdTicket_eq_ok hcreated).1,
        hconfirm _ (responder_of_parseConfirmBody hbody)⟩

/-- Two valid agents have a stored pair exactly where they were paired. -/
theorem pairs_iff_pairedBy {ops : List Operation} (hops : ∀ op ∈ ops, op.Valid)
    (ha : isAgentDid a = true) (hb : isAgentDid b = true) :
    toPairKey a b ∈ (after platform ops).pairs ↔
      PairedBy platform ops a b ∨ PairedBy platform ops b a := by
  constructor
  · intro hkey
    obtain ⟨c, d, hsame, hpaired⟩ := exists_pairedBy hkey
    obtain ⟨hc, hd⟩ := hpaired.valid hops
    rcases (toPairKey_inj ha hb hc hd).mp hsame with ⟨rfl, rfl⟩ | ⟨rfl, rfl⟩
    · exact .inl hpaired
    · exact .inr hpaired
  · rintro (hpaired | hpaired)
    · exact hpaired.pairs
    · rw [toPairKey_comm]
      exact hpaired.pairs

/-- An agent is known exactly where some pair contains it. -/
theorem Indexed.knows_iff (hs : Indexed s) (ha : isAgentDid a = true) :
    s.knows a = true ↔ ∃ b, isAgentDid b = true ∧ toPairKey a b ∈ s.pairs := by
  rw [TrustStorage.knows, decide_eq_true_eq, List.length_pos_iff_exists_mem]
  constructor
  · intro ⟨b, hb⟩
    have hvalid := (hs.valid a b hb).2
    exact ⟨b, hvalid, (hs.peers_iff a b ha hvalid).mp hb⟩
  · intro ⟨b, hvalid, hkey⟩
    exact ⟨b, (hs.peers_iff a b ha hvalid).mpr hkey⟩

/-- **The trust index is consistent, and every pair has its provenance.** After any sequence
of operations with valid agent DIDs: the peers are symmetric and agree with the pairs; the
key of a pair is symmetric and determines it; an agent is known where some pair contains
it; and two different agents are allowed where an upsert named them or one has confirmed
a ticket of the other. -/
theorem trust_index_consistent (platform : Platform) (ops : List Operation)
    (hops : ∀ op ∈ ops, op.Valid) :
    (∀ a b, isAgentDid a = true → isAgentDid b = true →
      (b ∈ (after platform ops).peers a ↔ a ∈ (after platform ops).peers b) ∧
      (b ∈ (after platform ops).peers a ↔ toPairKey a b ∈ (after platform ops).pairs)) ∧
    (∀ a b, toPairKey a b = toPairKey b a) ∧
    (∀ a b c d, isAgentDid a = true → isAgentDid b = true → isAgentDid c = true →
      isAgentDid d = true → toPairKey a b = toPairKey c d →
      (a = c ∧ b = d) ∨ (a = d ∧ b = c)) ∧
    (∀ a request, isAgentDid a = true → request.text "agentDid" = some a →
      ((perform platform (after platform ops) (.isAgentKnown request)).2 = .known true ↔
        ∃ b, isAgentDid b = true ∧ toPairKey a b ∈ (after platform ops).pairs)) ∧
    ∀ a b request, isAgentDid a = true → isAgentDid b = true → a ≠ b →
      request.pair = some (a, b) →
      ((perform platform (after platform ops) (.isPairAllowed request)).2 = .allowed true ↔
        PairedBy platform ops a b ∨ PairedBy platform ops b a) := by
  have hindexed : Indexed (after platform ops) := indexed_after hops
  refine ⟨?_, toPairKey_comm, ?_, ?_, ?_⟩
  · intro a b ha hb
    refine ⟨?_, hindexed.peers_iff a b ha hb⟩
    rw [hindexed.peers_iff a b ha hb, hindexed.peers_iff b a hb ha, toPairKey_comm]
  · intro a b c d ha hb hc hd
    exact (toPairKey_inj ha hb hc hd).mp
  · intro a request ha hrequest
    rw [← hindexed.knows_iff ha, perform, handleIsAgentKnown, hrequest]
    simp
  · intro a b request ha hb hne hrequest
    rw [← pairs_iff_pairedBy hops ha hb, perform, handleIsPairAllowed, hrequest]
    simp [TrustStorage.allows, hne]

end

/-! ### A ticket that is created and confirmed -/

/-- The request with which `exampleTicket` is created. -/
def exampleCreate : TrustRequest where
  body := some (.obj
    [(js "ticket", .str exampleTicket),
      (js "initiatorAgentDid",
        .str (js "did:cdi:registry.example.com:agent:01HF7YAT00W6W7CM7N3W5FDXA0")),
      (js "initiatorProfile", .obj [(js "agentName", .str (js "kai")),
        (js "humanName", .str (js "Ravi"))]),
      (js "issuerProxyUrl", .str examplePayload.iss),
      (js "publicKeyX", .str examplePublicKeyX), (js "expiresAtMs", .num 1700000300000)])
  nowUtcMs := 1700000000000

def examplePairing : List Operation := [.create exampleCreate, .confirm (exampleConfirm "B0")]

/-- The two agents of the example are allowed to talk. -/
def examplePairCheck : TrustRequest where
  body := some (.obj
    [(js "initiatorAgentDid",
        .str (js "did:cdi:registry.example.com:agent:01HF7YAT00W6W7CM7N3W5FDXA0")),
      (js "responderAgentDid",
        .str (js "did:cdi:registry.example.com:agent:01HF7YAT00W6W7CM7N3W5FDXB0"))])
  nowUtcMs := 1700000020000

/-- The pair of the example comes from its ticket, and so it is allowed. -/
theorem examplePairing_consistent :
    PairedBy examplePlatform examplePairing
        (js "did:cdi:registry.example.com:agent:01HF7YAT00W6W7CM7N3W5FDXA0")
        (js "did:cdi:registry.example.com:agent:01HF7YAT00W6W7CM7N3W5FDXB0") ∧
      (perform examplePlatform (after examplePlatform examplePairing)
        (.isPairAllowed examplePairCheck)).2 = .allowed true := by
  have hadds : adds examplePlatform (after examplePlatform [.create exampleCreate])
      (.confirm (exampleConfirm "B0")) =
      some (js "did:cdi:registry.example.com:agent:01HF7YAT00W6W7CM7N3W5FDXA0",
        js "did:cdi:registry.example.com:agent:01HF7YAT00W6W7CM7N3W5FDXB0") := by
    decide +kernel
  have hpaired := pairedBy_of_adds hadds
  have hconsistent := trust_index_consistent examplePlatform examplePairing (by decide)
  exact ⟨hpaired, (hconsistent.2.2.2.2 _ _ examplePairCheck (by decide) (by decide)
    (by decide) (by decide)).mpr (.inl hpaired)⟩

end Clawdentity.TrustState
