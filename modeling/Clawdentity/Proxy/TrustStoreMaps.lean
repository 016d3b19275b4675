import Clawdentity.Proxy.InMemoryTrustStore
import Clawdentity.Proxy.TrustIndex

/-!
# The ticket maps of the two trust stores

The durable and the in-memory store keep the same two maps of tickets and drop expired entries
at different times. Here the maps are compared up to tickets whose expiry has come.

## Main definitions

* `MapsAgree` — the maps agree up to expired tickets.
* `Trimmed` — an in-memory store that has lost entries whose expiry has come.
-/

namespace Clawdentity.TrustStore

open Js Lib PairingTicket TrustState Protocol

/-! ## Maps that agree -/

/-- The maps of the two stores agree up to expired tickets; in both, no ticket is pending and
confirmed, and a pending ticket expires when its text does. -/
structure MapsAgree (platform : Platform) (nowMs : ℚ) (a b : ExpirableTrustState) : Prop where
  pending : Table.AgreeUpTo (fun e => Outdated platform nowMs e.ticket e.expiresAtMs)
    a.pairingTickets b.pairingTickets
  confirmed : Table.AgreeUpTo (fun e => Outdated platform nowMs e.ticket e.expiresAtMs)
    a.confirmedPairingTickets b.confirmedPairingTickets
  exclusive : ∀ kid e, a.pairingTickets.lookup kid = some e ∨ b.pairingTickets.lookup kid = some e →
    a.confirmedPairingTickets.lookup kid = none ∧ b.confirmedPairingTickets.lookup kid = none
  expiry : ∀ kid e, a.pairingTickets.lookup kid = some e ∨ b.pairingTickets.lookup kid = some e →
    ∃ payload, parsePairingTicket platform e.ticket = .ok payload ∧
      payload.exp * 1000 = e.expiresAtMs

section
variable {platform : Platform} {nowMs nowMs' : ℚ} {a a' b b' : ExpirableTrustState}
  {kid : JsString}

theorem MapsAgree.symm (h : MapsAgree platform nowMs a b) : MapsAgree platform nowMs b a where
  pending := h.pending.symm
  confirmed := h.confirmed.symm
  exclusive kid e he := (h.exclusive kid e he.symm).symm
  expiry kid e he := h.expiry kid e he.symm

theorem Outdated.mono {ticket : JsString} {expiresAtMs : ℤ} (hle : nowMs ≤ nowMs')
    (h : Outdated platform nowMs ticket expiresAtMs) :
    Outdated platform nowMs' ticket expiresAtMs := by
  rcases h with hexpired | ⟨payload, hparse, hexpired⟩
  · exact .inl (hexpired.trans hle)
  · exact .inr ⟨payload, hparse, hexpired.trans hle⟩

theorem MapsAgree.mono (h : MapsAgree platform nowMs a b) (hle : nowMs ≤ nowMs') :
    MapsAgree platform nowMs' a b :=
  { h with
    pending := h.pending.mono fun _ => Outdated.mono hle
    confirmed := h.confirmed.mono fun _ => Outdated.mono hle }

/-- The first maps may lose tickets whose expiry has come. -/
theorem MapsAgree.pruned (h : MapsAgree platform nowMs a b) (hp : Pruned platform nowMs a a') :
    MapsAgree platform nowMs a' b := by
  have hsub : ∀ {kid e}, a'.pairingTickets.lookup kid = some e ∨
      b.pairingTickets.lookup kid = some e → a.pairingTickets.lookup kid = some e ∨
      b.pairingTickets.lookup kid = some e := fun he => he.imp_left hp.pending.lookup
  refine ⟨h.pending.loses hp.pending, h.confirmed.loses hp.confirmed, ?_, ?_⟩
  · intro kid e he
    obtain ⟨ha, hb⟩ := h.exclusive kid e (hsub he)
    refine ⟨Option.eq_none_iff_forall_ne_some.mpr ?_, hb⟩
    intro c hc
    rw [hp.confirmed.lookup hc] at ha
    cases ha
  · intro kid e he
    exact h.expiry kid e (hsub he)

theorem MapsAgree.pruned_right (h : MapsAgree platform nowMs a b)
    (hp : Pruned platform nowMs b b') : MapsAgree platform nowMs a b' :=
  (h.symm.pruned hp).symm

/-- A new ticket in both. -/
theorem MapsAgree.withTicket (h : MapsAgree platform nowMs a b) {ticket : StoredPairingTicket}
    {payload : PairingTicketPayload}
    (hparse : parsePairingTicket platform ticket.ticket = .ok payload)
    (hexp : payload.exp * 1000 = ticket.expiresAtMs) :
    MapsAgree platform nowMs (a.withTicket kid ticket) (b.withTicket kid ticket) := by
  refine ⟨h.pending.insert kid ticket, h.confirmed.erase kid, ?_, ?_⟩
  · intro k e he
    simp only [ExpirableTrustState.withTicket] at he ⊢
    by_cases hk : k = kid
    · subst hk
      exact ⟨AList.lookup_erase .., AList.lookup_erase ..⟩
    · rw [AList.lookup_insert_ne hk, AList.lookup_insert_ne hk] at he
      rw [AList.lookup_erase_ne hk, AList.lookup_erase_ne hk]
      exact h.exclusive k e he
  · intro k e he
    simp only [ExpirableTrustState.withTicket] at he
    by_cases hk : k = kid
    · subst hk
      rw [AList.lookup_insert, AList.lookup_insert, or_self, Option.some.injEq] at he
      subst he
      exact ⟨payload, hparse, hexp⟩
    · rw [AList.lookup_insert_ne hk, AList.lookup_insert_ne hk] at he
      exact h.expiry k e he

theorem pending_of_erased {k : JsString} {e : StoredPairingTicket}
    (h : (a.pairingTickets.erase kid).lookup k = some e ∨
      (b.pairingTickets.erase kid).lookup k = some e) :
    k ≠ kid ∧ (a.pairingTickets.lookup k = some e ∨ b.pairingTickets.lookup k = some e) := by
  rcases h with h | h
  · exact (lookup_erase_some h).imp_right .inl
  · exact (lookup_erase_some h).imp_right .inr

/-- The maps with a ticket moved from the pending to the confirmed ones. -/
def movedTicket (state : ExpirableTrustState) (kid : JsString)
    (entry : StoredConfirmedPairingTicket) : ExpirableTrustState where
  pairingTickets := state.pairingTickets.erase kid
  confirmedPairingTickets := state.confirmedPairingTickets.insert kid entry

/-- The maps without a ticket. -/
def droppedTicket (state : ExpirableTrustState) (kid : JsString) : ExpirableTrustState where
  pairingTickets := state.pairingTickets.erase kid
  confirmedPairingTickets := state.confirmedPairingTickets.erase kid

/-- The same ticket dropped in both. -/
theorem MapsAgree.dropped (h : MapsAgree platform nowMs a b) (kid : JsString) :
    MapsAgree platform nowMs (droppedTicket a kid) (droppedTicket b kid) := by
  refine ⟨h.pending.erase kid, h.confirmed.erase kid, ?_, ?_⟩
  · intro k e he
    obtain ⟨hk, hpending⟩ := pending_of_erased he
    simp only [droppedTicket]
    rw [AList.lookup_erase_ne hk, AList.lookup_erase_ne hk]
    exact h.exclusive k e hpending
  · intro k e he
    exact h.expiry k e (pending_of_erased he).2

/-- The same ticket moved in both. -/
theorem MapsAgree.moved (h : MapsAgree platform nowMs a b) (kid : JsString)
    (entry : StoredConfirmedPairingTicket) :
    MapsAgree platform nowMs (movedTicket a kid entry) (movedTicket b kid entry) := by
  refine ⟨h.pending.erase kid, h.confirmed.insert kid entry, ?_, ?_⟩
  · intro k e he
    obtain ⟨hk, hpending⟩ := pending_of_erased he
    simp only [movedTicket]
    rw [AList.lookup_insert_ne hk, AList.lookup_insert_ne hk]
    exact h.exclusive k e hpending
  · intro k e he
    exact h.expiry k e (pending_of_erased he).2

/-- A pending ticket of either store is outdated exactly when its entry has expired. -/
theorem MapsAgree.expired_of_outdated (h : MapsAgree platform nowMs a b)
    {entry : StoredPairingTicket} (hentry : a.pairingTickets.lookup kid = some entry)
    (hold : Outdated platform nowMs entry.ticket entry.expiresAtMs) :
    (entry.expiresAtMs : ℚ) ≤ nowMs := by
  rcases hold with hexpired | ⟨payload, hparse, hexpired⟩
  · exact hexpired
  · obtain ⟨payload', hparse', hexp⟩ := h.expiry kid entry (.inl hentry)
    rw [hparse] at hparse'
    cases hparse'
    rwa [hexp] at hexpired

theorem pruned_load {s : TrustStorage} (hs : Stable platform s.maps) :
    Pruned platform nowMs s.maps (loadExpirableState platform s) where
  pending kid := .inl (lookup_load_pending hs.pending kid)
  confirmed kid := .inl (lookup_load_confirmed hs.confirmed kid)

end

/-! ## The in-memory store -/

section
variable {platform : Platform} {nowMs : ℚ} {m : InMemoryStore}

theorem cleanup_pruned (m : InMemoryStore) (skipTicketKid : Option JsString) :
    Pruned platform nowMs m.maps (m.cleanup nowMs skipTicketKid).maps where
  pending := by
    refine .keep ?_
    intro kid e he
    simp only [Bool.or_eq_false_iff, decide_eq_false_iff_not, not_lt] at he
    exact .inl he.2
  confirmed := by
    refine .keep ?_
    intro kid e he
    simp only [Bool.or_eq_false_iff, decide_eq_false_iff_not, not_lt] at he
    exact .inl he.2

/-- The second store is the first one without entries whose expiry has come. -/
structure Trimmed (platform : Platform) (nowMs : ℚ) (m m' : InMemoryStore) : Prop where
  maps : Pruned platform nowMs m.maps m'.maps
  revoked : Table.Loses (fun expiresAtMs : ℤ => (expiresAtMs : ℚ) ≤ nowMs) m.revokedAgents
    m'.revokedAgents
  pairKeys : m'.pairKeys = m.pairKeys
  agentPeers : m'.agentPeers = m.agentPeers

theorem Trimmed.refl (platform : Platform) (nowMs : ℚ) (m : InMemoryStore) :
    Trimmed platform nowMs m m := ⟨.refl .., .refl _ _, rfl, rfl⟩

theorem cleanup_trimmed (m : InMemoryStore) (skipTicketKid : Option JsString) :
    Trimmed platform nowMs m (m.cleanup nowMs skipTicketKid) where
  maps := cleanup_pruned m skipTicketKid
  revoked := by
    refine .keep ?_
    intro did e he
    simpa using he
  pairKeys := rfl
  agentPeers := rfl

/-- A store may lose a pending ticket whose expiry has come. -/
theorem Trimmed.erase_pending {m' : InMemoryStore} (h : Trimmed platform nowMs m m')
    {kid : JsString} (hold : ∀ e, m'.pairingTickets.lookup kid = some e →
      Outdated platform nowMs e.ticket e.expiresAtMs) :
    Trimmed platform nowMs m { m' with pairingTickets := m'.pairingTickets.erase kid } :=
  { h with maps := ⟨h.maps.pending.trans (.erase hold), h.maps.confirmed⟩ }

theorem Trimmed.erase_confirmed {m' : InMemoryStore} (h : Trimmed platform nowMs m m')
    {kid : JsString} (hold : ∀ e, m'.confirmedPairingTickets.lookup kid = some e →
      Outdated platform nowMs e.ticket e.expiresAtMs) :
    Trimmed platform nowMs m
      { m' with confirmedPairingTickets := m'.confirmedPairingTickets.erase kid } :=
  { h with maps := ⟨h.maps.pending, h.maps.confirmed.trans (.erase hold)⟩ }

/-- The skipped ticket stays as it is. -/
theorem cleanup_skip_pending (kid : JsString) :
    (m.cleanup nowMs (some kid)).pairingTickets.lookup kid = m.pairingTickets.lookup kid :=
  Table.lookup_keep_eq fun _ _ => by simp

theorem cleanup_skip_confirmed (kid : JsString) :
    (m.cleanup nowMs (some kid)).confirmedPairingTickets.lookup kid =
      m.confirmedPairingTickets.lookup kid :=
  Table.lookup_keep_eq fun _ _ => by simp

theorem mem_upsertPeer {peers : Table JsString (List JsString)} {a b x y : JsString} :
    y ∈ ((InMemoryStore.upsertPeer peers a b).lookup x).getD [] ↔
      y ∈ (peers.lookup x).getD [] ∨ (x = a ∧ y = b) := by
  unfold InMemoryStore.upsertPeer
  by_cases hx : x = a
  · subst hx
    rw [AList.lookup_insert]
    simp [mem_setAdd]
  · rw [AList.lookup_insert_ne hx]
    simp [hx]

theorem mem_peers_pair {a b x y : JsString} :
    y ∈ (m.pair a b).peers x ↔ y ∈ m.peers x ∨ (x = a ∧ y = b) ∨ (x = b ∧ y = a) := by
  change y ∈ ((InMemoryStore.upsertPeer (InMemoryStore.upsertPeer m.agentPeers a b) b a).lookup
    x).getD [] ↔ _
  rw [mem_upsertPeer, mem_upsertPeer, or_assoc]
  rfl

theorem mem_pairKeys_pair {a b key : JsString} :
    key ∈ (m.pair a b).pairKeys ↔ key ∈ m.pairKeys ∨ key = toPairKey a b := mem_setAdd

end

end Clawdentity.TrustStore
