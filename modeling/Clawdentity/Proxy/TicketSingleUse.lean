import Clawdentity.Proxy.TrustState

/-!
# A pairing ticket is used once

A confirmation writes back the ticket maps that it loaded before its wait. While
every confirmation finds at its end that no ticket of its snapshot has been used
meanwhile, a ticket is confirmed at most once. When two confirmations overlap, the
second one pairs its responder through a ticket that is used already.

## Main definitions

* `snapshotCurrent` — the condition on one step.
* `Inv` — a used ticket is no longer pending.
-/

namespace Clawdentity.TrustState

open Js Lib Lib.Interleave PairingTicket

/-! ## The condition -/

/-- The request answered success for the ticket. -/
def Call.confirms (kid : JsString) : Call → Bool
  | .confirmed k _ => k = kid
  | _ => false

/-- The request passes the checks after its wait and writes its maps back. -/
def Verifying.writes (platform : Platform) (v : Verifying) : Bool :=
  platform.verifySignature v.payload v.stored.publicKeyX &&
    (v.expired || (v.stored.issuerProxyUrl = v.payload.iss && !v.forbidden))

/-- Every ticket that was pending when the request loaded the maps is still pending. -/
def StillPending (platform : Platform) (s : TrustStorage) (v : Verifying) : Prop :=
  ∀ kid ∈ v.snapshot.pairingTickets.keys, kid ∈ (loadPairingTickets platform s).keys

instance (platform : Platform) (s : TrustStorage) (v : Verifying) :
    Decidable (StillPending platform s v) := inferInstanceAs (Decidable (∀ kid ∈ _, _))

/-- The condition on one step: a request that writes its maps back finds every
ticket still pending that was pending in its snapshot. -/
def snapshotCurrent (platform : Platform) (p : State) : Event → Bool
  | .resume i _ =>
      match p.calls[i]? with
      | some (.verifying v) => !v.writes platform || StillPending platform p.shared.storage v
      | _ => true
  | .start _ => true

/-! ## What one request does -/

/-- The two ways in which a request ends: it leaves the object as it was, or it
writes its maps back, without the ticket. -/
theorem confirmFinish_cases (platform : Platform) (s : Shared) (v : Verifying) :
    (∃ e, confirmFinish platform s v = (s, .rejected e)) ∨
    (v.writes platform = true ∧ confirmFinish platform s v =
      ({ s with storage := saveExpirableStateAndSchedule s.storage v.dropped },
        .rejected ticketExpired)) ∨
    (v.writes platform = true ∧ ∃ result, confirmFinish platform s v =
      ({ storage := saveExpirableStateAndSchedule
          (savePairAndPeers s.storage v.stored.initiatorAgentDid v.responderAgentDid) v.moved
         paired := ⟨v.payload.kid, v.stored.initiatorAgentDid, v.responderAgentDid⟩ :: s.paired },
        .confirmed v.payload.kid result)) := by
  unfold confirmFinish
  split
  · exact .inl ⟨_, rfl⟩
  · rename_i hsig
    have hsig : platform.verifySignature v.payload v.stored.publicKeyX = true := by
      simpa using hsig
    split
    · rename_i hexp
      exact .inr (.inl ⟨by simp [Verifying.writes, hsig, hexp], rfl⟩)
    · split
      · exact .inl ⟨_, rfl⟩
      · rename_i hiss
        split
        · exact .inl ⟨_, rfl⟩
        · rename_i hforbidden
          exact .inr (.inr ⟨by simp_all [Verifying.writes], _, rfl⟩)

/-- A request that starts to wait has loaded well-keyed maps with its ticket in them. -/
theorem confirmStart_verifying {platform : Platform} {storage : TrustStorage}
    {request : ConfirmRequest} {v : Verifying}
    (h : confirmStart platform storage request = .verifying v) :
    v.snapshot = loadExpirableState platform storage ∧
      v.snapshot.pairingTickets.lookup v.payload.kid = some v.stored := by
  unfold confirmStart at h
  split at h
  · cases h
  · split at h
    · cases h
    · simp only at h
      split at h
      · cases h
      · split at h
        · cases h
        · rename_i hstored
          cases h
          exact ⟨rfl, hstored⟩

/-- A new request has not confirmed anything. -/
theorem confirmStart_confirms (platform : Platform) (storage : TrustStorage)
    (request : ConfirmRequest) (kid : JsString) :
    (confirmStart platform storage request).confirms kid = false := by
  unfold confirmStart
  split
  · rfl
  · split
    · rfl
    · simp only
      split
      · rfl
      · split <;> rfl

/-! ## Whole runs -/

/-- A used ticket is no longer pending, and each success stands for one pairing. -/
structure Inv (platform : Platform) (pairs₀ : List JsString) (p : State) : Prop where
  used_gone : ∀ e ∈ p.shared.paired, e.kid ∉ (loadPairingTickets platform p.shared.storage).keys
  used_once : (p.shared.paired.map Paired.kid).Nodup
  counted : ∀ kid, p.calls.countP (Call.confirms kid) =
    p.shared.paired.countP fun e => e.kid = kid
  snapshots : ∀ v, .verifying v ∈ p.calls →
    WellKeyed platform v.snapshot.pairingTickets ∧
      v.payload.kid ∈ v.snapshot.pairingTickets.keys
  provenance : ∀ key ∈ p.shared.storage.pairs, key ∈ pairs₀ ∨
    ∃ e ∈ p.shared.paired, key = toPairKey e.initiatorAgentDid e.responderAgentDid

theorem inv_init (platform : Platform) (storage : TrustStorage) :
    Inv platform storage.pairs ⟨⟨storage, []⟩, []⟩ where
  used_gone := by simp
  used_once := List.nodup_nil
  counted := by simp
  snapshots := by simp
  provenance key h := .inl h

theorem inv_start {platform : Platform} {pairs₀ : List JsString} {p : State}
    {request : ConfirmRequest} (hi : Inv platform pairs₀ p) :
    Inv platform pairs₀
      ⟨p.shared, p.calls ++ [confirmStart platform p.shared.storage request]⟩ where
  used_gone := hi.used_gone
  used_once := hi.used_once
  counted kid := by
    rw [List.countP_append, List.countP_singleton, confirmStart_confirms]
    exact hi.counted kid
  snapshots v hv := by
    rcases List.mem_append.mp hv with hv | hv
    · exact hi.snapshots v hv
    · obtain ⟨hsnap, hlookup⟩ := confirmStart_verifying (List.mem_singleton.mp hv).symm
      refine ⟨hsnap ▸ wellKeyed_load p.shared.storage, ?_⟩
      exact AList.mem_keys.mp (AList.lookup_isSome.mp (by rw [hlookup]; rfl))
  provenance := hi.provenance

/-- The maps that a request writes back hold only tickets that are still pending,
and not its own. -/
theorem pending_after_save {platform : Platform} {s base : TrustStorage} {v : Verifying}
    {state : ExpirableTrustState} {kid : JsString}
    (hstate : state.pairingTickets = v.snapshot.pairingTickets.erase v.payload.kid)
    (hw : WellKeyed platform v.snapshot.pairingTickets) (hstill : StillPending platform s v)
    (h : kid ∈ (loadPairingTickets platform (saveExpirableStateAndSchedule base state)).keys) :
    kid ≠ v.payload.kid ∧ kid ∈ (loadPairingTickets platform s).keys := by
  have hmem : kid ∈ (v.snapshot.pairingTickets.erase v.payload.kid).keys := by
    have := mem_of_mem_load (by rw [saveExpirableStateAndSchedule, hstate]; exact hw.erase _) h
    rwa [saveExpirableStateAndSchedule, hstate] at this
  rw [← AList.mem_keys, AList.mem_erase] at hmem
  exact ⟨hmem.1, hstill kid (AList.mem_keys.mp hmem.2)⟩

theorem mem_savePairs {s : TrustStorage} {a b key : JsString}
    (h : key ∈ (savePairAndPeers s a b).pairs) : key ∈ s.pairs ∨ key = toPairKey a b := by
  simp only [savePairAndPeers, sortStrings, List.mem_mergeSort, setAdd] at h
  split at h
  · exact .inl h
  · simpa using h

/-- A call that is replaced by one that is not waiting leaves the other snapshots. -/
theorem snapshots_set {platform : Platform} {pairs₀ : List JsString} {p : State} {i : ℕ} {c : Call}
    (hi : Inv platform pairs₀ p) (hc : ∀ v, c ≠ .verifying v) :
    ∀ v, .verifying v ∈ p.calls.set i c →
      WellKeyed platform v.snapshot.pairingTickets ∧
        v.payload.kid ∈ v.snapshot.pairingTickets.keys := by
  intro v hv
  rcases List.mem_or_eq_of_mem_set hv with hv | hv
  · exact hi.snapshots v hv
  · exact absurd hv.symm (hc v)

theorem inv_finish {platform : Platform} {pairs₀ : List JsString} {p : State} {i : ℕ}
    {v : Verifying} (hi : Inv platform pairs₀ p) (hcall : p.calls[i]? = some (.verifying v))
    (hok : v.writes platform = true → StillPending platform p.shared.storage v) :
    Inv platform pairs₀ ⟨(confirmFinish platform p.shared v).1,
      p.calls.set i (confirmFinish platform p.shared v).2⟩ := by
  obtain ⟨hw, hkid⟩ := hi.snapshots v (List.mem_of_getElem? hcall)
  have hcount := fun kid c' => countP_set_add (Call.confirms kid) c' hcall
  rcases confirmFinish_cases platform p.shared v with ⟨e, heq⟩ | ⟨hwrites, heq⟩ |
    ⟨hwrites, result, heq⟩ <;> rw [heq]
  · exact
      { used_gone := hi.used_gone
        used_once := hi.used_once
        counted := fun kid => (hcount kid (.rejected e)).trans (hi.counted kid)
        snapshots := snapshots_set hi (by simp)
        provenance := hi.provenance }
  · exact
      { used_gone := fun e he hmem =>
          hi.used_gone e he (pending_after_save rfl hw (hok hwrites) hmem).2
        used_once := hi.used_once
        counted := fun kid => (hcount kid (.rejected ticketExpired)).trans (hi.counted kid)
        snapshots := snapshots_set hi (by simp)
        provenance := hi.provenance }
  · have hunused : ∀ e ∈ p.shared.paired, e.kid ≠ v.payload.kid := by
      intro e he hk
      exact hi.used_gone e he (hk ▸ hok hwrites v.payload.kid hkid)
    exact
      { used_gone := fun e he hmem => by
          obtain ⟨hne, hmem⟩ := pending_after_save rfl hw (hok hwrites) hmem
          rcases List.mem_cons.mp he with rfl | he
          · exact hne rfl
          · exact hi.used_gone e he hmem
        used_once := by
          rw [List.map_cons, List.nodup_cons]
          refine ⟨fun hmem => ?_, hi.used_once⟩
          obtain ⟨e, he, hk⟩ := List.mem_map.mp hmem
          exact hunused e he hk
        counted := fun kid => by
          have h := hcount kid (.confirmed v.payload.kid result)
          rw [hi.counted kid] at h
          simpa [List.countP_cons, Call.confirms] using h
        snapshots := snapshots_set hi (by simp)
        provenance := fun key hkey => by
          rcases mem_savePairs hkey with hkey | rfl
          · exact (hi.provenance key hkey).imp_right
              fun ⟨e, he, hk⟩ => ⟨e, List.mem_cons_of_mem _ he, hk⟩
          · exact .inr ⟨_, List.mem_cons_self, rfl⟩ }

theorem inv_step {platform : Platform} {pairs₀ : List JsString} {p q : State} {e : Event}
    (hi : Inv platform pairs₀ p) (hok : snapshotCurrent platform p e = true)
    (h : (program platform).step p e = some q) : Inv platform pairs₀ q := by
  rcases Program.step_cases h with ⟨request, s, c, rfl, hstart, rfl⟩ |
    ⟨i, choice, c, s, c', rfl, hc, hresume, rfl⟩
  · cases hstart
    exact inv_start hi
  · cases c with
    | verifying v =>
        simp only [program, Option.some.injEq] at hresume
        have := inv_finish hi hc fun hwrites => by
          simpa [snapshotCurrent, hc, hwrites] using hok
        rwa [hresume] at this
    | confirmed kid result => simp [program] at hresume
    | rejected error => simp [program] at hresume

/-- **A ticket is used once while no confirmation overwrites another.** In every run
in which each confirmation that writes its maps back finds the tickets of its
snapshot still pending, at most one confirmation of a `kid` answers success, at
most one responder is paired through it, and every stored pair was there at the
start or comes from such a pairing. -/
theorem ticket_confirmed_at_most_once {platform : Platform} {storage : TrustStorage}
    {es : List Event} {p : State}
    (hok : Run.AllSteps (program platform).step (snapshotCurrent platform · ·)
      ⟨⟨storage, []⟩, []⟩ es)
    (hrun : Run.exec (program platform).step ⟨⟨storage, []⟩, []⟩ es = some p) :
    (∀ kid, p.calls.countP (Call.confirms kid) ≤ 1) ∧
    (∀ kid, (p.shared.paired.filter fun e => e.kid = kid).length ≤ 1) ∧
    (∀ key ∈ p.shared.storage.pairs, key ∈ storage.pairs ∨
      ∃ e ∈ p.shared.paired, key = toPairKey e.initiatorAgentDid e.responderAgentDid) := by
  have hi : Inv platform storage.pairs p :=
    Run.exec_invariant _ (fun _ _ _ hi ho h => inv_step hi ho h) (inv_init platform storage)
      hok hrun
  have hle : ∀ kid, (p.shared.paired.countP fun e => e.kid = kid) ≤ 1 := by
    intro kid
    have := List.nodup_iff_count_le_one.mp hi.used_once kid
    rw [List.count_eq_countP, List.countP_map] at this
    refine (List.countP_congr fun e _ => ?_).trans_le this
    simp
  refine ⟨fun kid => (hi.counted kid).trans_le (hle kid), fun kid => ?_, hi.provenance⟩
  rw [← List.countP_eq_length_filter]
  exact hle kid

/-! ### Two responders that confirm the same ticket -/

def examplePublicKeyX : JsString := js "A6EHv_POEL4dcN0Y50vAmWfk1jCbpQ1fHdyGZBJVMbg"

def examplePayload : PairingTicketPayload where
  iss := js "https://p.example"
  kid := js "01HF7YAT00W6W7CM7N3W5FDXT4"
  nonce := js "n1"
  exp := 1700000300
  pkid := js "p1"
  sig := js "pgenovKP3MnK9rJCd_YpYKSd7wNUIEKKMEkAZPxFvv1628JwjNG7z1AhosScgDNYjVLQ0xukhEBXQ7Bn_H3XCg"

/-- The text of the ticket with `examplePayload`. -/
def exampleTicket : JsString :=
  js "clwpair1_eyJ2IjoyLCJpc3MiOiJodHRwczovL3AuZXhhbXBsZSIsImtpZCI6IjAxSEY3WUFUMDBXNlc3Q003TjN" ++
    js "XNUZEWFQ0Iiwibm9uY2UiOiJuMSIsImV4cCI6MTcwMDAwMDMwMCwicGtpZCI6InAxIiwic2lnIjoicGdlbm92S1A" ++
    js "zTW5LOXJKQ2RfWXBZS1NkN3dOVUlFS0tNRWtBWlB4RnZ2MTYyOEp3ak5HN3oxQWhvc1NjZ0ROWWpWTFEweHVraEV" ++
    js "CWFE3Qm5fSDNYQ2cifQ"

/-- The functions of the platform, as they answer on the example. -/
def examplePlatform : Platform where
  decodePayload _ := some (.obj
    [(js "v", .num 2), (js "iss", .str examplePayload.iss), (js "kid", .str examplePayload.kid),
      (js "nonce", .str examplePayload.nonce), (js "exp", .num 1700000300),
      (js "pkid", .str examplePayload.pkid), (js "sig", .str examplePayload.sig)])
  toText v := v.str?.getD []
  parseUrl text := some ⟨js "https:", text⟩
  verifySignature payload publicKeyX :=
    payload = examplePayload && publicKeyX = examplePublicKeyX

def exampleStorage : TrustStorage where
  pairs := []
  agentPeers := ∅
  revokedAgents := .markers ∅
  pairingTickets := AList.singleton examplePayload.kid
    { ticket := exampleTicket, expiresAtMs := 1700000300000,
      initiatorAgentDid := js "did:cdi:registry.example.com:agent:01HF7YAT00W6W7CM7N3W5FDXA0",
      initiatorProfile := ⟨js "kai", js "Ravi", none⟩, issuerProxyUrl := examplePayload.iss,
      publicKeyX := examplePublicKeyX, allowResponderAgentDid := none }
  confirmedPairingTickets := ∅
  alarmAt := some 1700000300000

/-- A confirmation by the responder whose DID ends in the given characters. -/
def exampleConfirm (tag : String) : ConfirmRequest where
  body := some (.obj
    [(js "ticket", .str exampleTicket),
      (js "responderAgentDid",
        .str (js ("did:cdi:registry.example.com:agent:01HF7YAT00W6W7CM7N3W5FDX" ++ tag))),
      (js "responderProfile", .obj [(js "agentName", .str (js "beta")),
        (js "humanName", .str (js "Asha"))])])
  nowUtcMs := 1700000010000

theorem exampleOverlap_confirms :
    ((Run.exec (program examplePlatform).step ⟨⟨exampleStorage, []⟩, []⟩
      [.start (exampleConfirm "B0"), .start (exampleConfirm "B1"), .resume 0 (), .resume 1 ()]).map
        fun p => p.calls.countP (Call.confirms examplePayload.kid)) = some 2 := by
  decide +kernel

/-- **Two overlapping confirmations of a ticket can both succeed.** -/
theorem not_ticket_confirmed_at_most_once :
    ¬ ∀ (platform : Platform) (storage : TrustStorage) (es : List Event) (p : State),
      Run.exec (program platform).step ⟨⟨storage, []⟩, []⟩ es = some p →
      ∀ kid, p.calls.countP (Call.confirms kid) ≤ 1 := by
  intro h
  obtain ⟨p, hrun, htwo⟩ := Option.map_eq_some_iff.mp exampleOverlap_confirms
  have := h examplePlatform exampleStorage _ p hrun examplePayload.kid
  omega

/-- The second responder asks after the first one has been answered. -/
def exampleSequence : List Event :=
  [.start (exampleConfirm "B0"), .resume 0 (), .start (exampleConfirm "B1")]

theorem exampleSequence_runs :
    (Run.exec (program examplePlatform).step ⟨⟨exampleStorage, []⟩, []⟩ exampleSequence).isSome =
      true := by
  decide +kernel

theorem exampleSequence_confirms :
    ∃ p : State, Run.exec (program examplePlatform).step ⟨⟨exampleStorage, []⟩, []⟩
        exampleSequence = some p ∧ p.calls.countP (Call.confirms examplePayload.kid) ≤ 1 := by
  obtain ⟨p, hrun⟩ := Option.isSome_iff_exists.mp exampleSequence_runs
  exact ⟨p, hrun, (ticket_confirmed_at_most_once (by decide +kernel) hrun).1 examplePayload.kid⟩

end Clawdentity.TrustState
