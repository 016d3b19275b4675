import Clawdentity.Lib.Timer
import Clawdentity.Proxy.PendingTickets

/-!
# The cleanup alarm of the trust state

Pending tickets, confirmed tickets and revocation markers are stored under three keys and
share one alarm. Whatever operation writes one of them sets the alarm anew from all three, so
it is always set to the first expiry of what is stored.

## Main definitions

* `StoredExpiry` — the expiry of a stored entry.
* `Cleaned` — the entries that have not expired, as they were.
* `cleanup_alarm` — the alarm in every state, and what the cleanup leaves there.
-/

namespace Clawdentity.TrustState

open Js Lib Lib.Interleave Lib.Timer PairingTicket

/-! ## What is stored -/

/-- A stored entry expires at this time. -/
inductive StoredExpiry (s : TrustStorage) : ℤ → Prop
  | pending {kid : JsString} {e : StoredPairingTicket}
      (h : s.pairingTickets.lookup kid = some e) : StoredExpiry s e.expiresAtMs
  | confirmed {kid : JsString} {e : StoredConfirmedPairingTicket}
      (h : s.confirmedPairingTickets.lookup kid = some e) : StoredExpiry s e.expiresAtMs
  | revoked {markers : Table JsString ℤ} {agentDid : JsString} {expiresAtMs : ℤ}
      (hmarkers : s.revokedAgents = .markers markers)
      (h : markers.lookup agentDid = some expiresAtMs) : StoredExpiry s expiresAtMs

/-- The markers are stored in the current form, and a load leaves them as they are. -/
def MarkersStored (s : TrustStorage) : Prop :=
  s.revokedAgents = .markers (loadRevokedAgents s)

/-- The entries of `s` that expire after the time, and nothing else, are stored in `s'`. -/
structure Cleaned (nowMs : ℤ) (s s' : TrustStorage) : Prop where
  pending : ∀ kid, s'.pairingTickets.lookup kid =
    (s.pairingTickets.lookup kid).filter fun e => nowMs < e.expiresAtMs
  confirmed : ∀ kid, s'.confirmedPairingTickets.lookup kid =
    (s.confirmedPairingTickets.lookup kid).filter fun e => nowMs < e.expiresAtMs
  revoked : ∃ markers markers', s.revokedAgents = .markers markers ∧
    s'.revokedAgents = .markers markers' ∧ ∀ agentDid,
      markers'.lookup agentDid = (markers.lookup agentDid).filter fun expiresAtMs =>
        nowMs < expiresAtMs
  pairs : s'.pairs = s.pairs
  agentPeers : s'.agentPeers = s.agentPeers

/-- The alarm is set if and only if an entry is stored, and then to the first expiry. -/
def Scheduled (s : TrustStorage) : Prop := Exact s.alarmAt {t | StoredExpiry s t}

section
variable {platform : Platform} {s t : TrustStorage} {state : ExpirableTrustState}
  {markers : Table JsString ℤ} {nowMs : ℤ}

/-! ## Setting the alarm -/

theorem mem_expiries {κ α : Type} [DecidableEq κ] {m : Table κ α} (f : α → ℤ) {t : ℤ} :
    (t ∈ m.entries.map fun e => f e.2) ↔ ∃ k e, m.lookup k = some e ∧ f e = t := by
  rw [List.mem_map]
  constructor
  · rintro ⟨⟨k, e⟩, he, rfl⟩
    exact ⟨k, e, AList.mem_lookup_iff.mpr he, rfl⟩
  · rintro ⟨k, e, he, rfl⟩
    exact ⟨⟨k, e⟩, AList.mem_lookup_iff.mp he, rfl⟩

theorem storedExpiry_iff {x : ℤ} : StoredExpiry s x ↔
    (∃ kid e, s.pairingTickets.lookup kid = some e ∧ e.expiresAtMs = x) ∨
    (∃ kid e, s.confirmedPairingTickets.lookup kid = some e ∧ e.expiresAtMs = x) ∨
    ∃ markers, s.revokedAgents = .markers markers ∧
      ∃ agentDid e, markers.lookup agentDid = some e ∧ e = x := by
  constructor
  · rintro (h | h | ⟨hmarkers, h⟩)
    · exact .inl ⟨_, _, h, rfl⟩
    · exact .inr (.inl ⟨_, _, h, rfl⟩)
    · exact .inr (.inr ⟨_, hmarkers, _, _, h, rfl⟩)
  · rintro (⟨_, _, h, rfl⟩ | ⟨_, _, h, rfl⟩ | ⟨_, hmarkers, _, _, h, rfl⟩)
    · exact .pending h
    · exact .confirmed h
    · exact .revoked hmarkers h

/-- **An alarm that is set from what is stored** is exact. -/
theorem scheduled_of_nextCleanup
    (hpending : ∀ kid, state.pairingTickets.lookup kid = s.pairingTickets.lookup kid)
    (hconfirmed : ∀ kid,
      state.confirmedPairingTickets.lookup kid = s.confirmedPairingTickets.lookup kid)
    (hmarkers : s.revokedAgents = .markers markers)
    (halarm : s.alarmAt = nextCleanup state markers) : Scheduled s := by
  rw [Scheduled, halarm, nextCleanup]
  refine exact_min? fun t => ?_
  have hrevoked : (t ∈ markers.entries.map fun e => e.2) ↔ _ := mem_expiries fun e => e
  rw [List.mem_append, List.mem_append, mem_expiries, mem_expiries, hrevoked,
    Set.mem_ofPred_eq, storedExpiry_iff, or_assoc]
  simp only [hpending, hconfirmed, hmarkers, RevokedAgentsValue.markers.injEq, exists_eq_left']

/-- Both ticket maps are written. -/
theorem scheduled_save (hs : MarkersStored s) (state : ExpirableTrustState) :
    Scheduled (saveExpirableStateAndSchedule s state) ∧
      MarkersStored (saveExpirableStateAndSchedule s state) :=
  ⟨scheduled_of_nextCleanup (fun _ => rfl) (fun _ => rfl) hs rfl, hs⟩

/-- The markers are written. -/
theorem scheduled_saveMarkers (hs : Stable platform s.maps) (hmarkers : ValidMarkers markers) :
    Scheduled (saveRevokedAgentsAndSchedule platform s markers) ∧
      MarkersStored (saveRevokedAgentsAndSchedule platform s markers) :=
  ⟨scheduled_of_nextCleanup (lookup_load_pending hs.pending) (lookup_load_confirmed hs.confirmed)
      rfl rfl,
    by rw [MarkersStored, loadRevokedAgents_save platform s hmarkers]; rfl⟩

/-- Nothing that expires is written. -/
theorem Scheduled.of_same (hs : Scheduled s ∧ MarkersStored s) (hmaps : t.maps = s.maps)
    (hrevoked : t.revokedAgents = s.revokedAgents) (halarm : t.alarmAt = s.alarmAt) :
    Scheduled t ∧ MarkersStored t := by
  have hexpiry : ∀ x, StoredExpiry t x ↔ StoredExpiry s x := by
    intro x
    have hpending : t.pairingTickets = s.pairingTickets := pending_of_maps hmaps
    have hconfirmed : t.confirmedPairingTickets = s.confirmedPairingTickets :=
      confirmed_of_maps hmaps
    rw [storedExpiry_iff, storedExpiry_iff, hpending, hconfirmed, hrevoked]
  constructor
  · rw [Scheduled, halarm, Set.ext hexpiry]
    exact hs.1
  · rw [MarkersStored, hrevoked, loadRevokedAgents_congr hrevoked.symm]
    exact hs.2

/-! ## The operations -/

theorem status_scheduled (hs : Scheduled s ∧ MarkersStored s) (hstable : Stable platform s.maps)
    (request : TrustRequest) :
    Scheduled (handleGetPairingTicketStatus platform s request).1 ∧
      MarkersStored (handleGetPairingTicketStatus platform s request).1 := by
  unfold handleGetPairingTicketStatus
  split
  · exact hs
  · split
    · exact hs
    · simp only
      split
      · split
        · refine ⟨scheduled_of_nextCleanup (fun _ => rfl) (fun kid => ?_) hs.2 rfl, hs.2⟩
          exact lookup_load_confirmed hstable.confirmed kid
        · exact hs
      · split
        · refine ⟨scheduled_of_nextCleanup (fun kid => ?_) (fun _ => rfl) hs.2 rfl, hs.2⟩
          exact lookup_load_pending hstable.pending kid
        · exact hs
      · exact hs

/-- The end of a confirmation, whatever maps it has loaded. -/
theorem finishConfirm_scheduled (hs : Scheduled s ∧ MarkersStored s) (v : Verifying) :
    Scheduled (finishConfirm platform s v).1 ∧ MarkersStored (finishConfirm platform s v).1 := by
  unfold finishConfirm
  rcases confirmFinish_cases platform ⟨s, []⟩ v with
    ⟨e, heq⟩ | ⟨_, heq⟩ | ⟨_, result, heq⟩
  · rw [heq]
    exact hs
  · rw [heq]
    exact scheduled_save hs.2 _
  · rw [heq]
    exact scheduled_save
      (s := savePairAndPeers s v.stored.initiatorAgentDid v.responderAgentDid) hs.2 _

theorem revokedAgent_eq_some {request : TrustRequest} {agentDid : JsString}
    (h : request.revokedAgent = some agentDid) : isNonEmptyString agentDid = true :=
  isNonEmptyString_of_agentDid (Option.filter_eq_some_iff.mp h).2

theorem positiveInt_eq_some {request : TrustRequest} {key : String} {value : Option ℤ}
    (h : request.positiveInt key = some value) : ∀ n ∈ value, 0 < n := by
  unfold ConfirmRequest.positiveInt at h
  split at h
  · cases h
    exact fun n hn => by cases hn
  · obtain ⟨n, hn, rfl⟩ := Option.map_eq_some_iff.mp h
    rintro _ ⟨⟩
    exact of_decide_eq_true (Option.filter_eq_some_iff.mp hn).2

theorem markAgentRevoked_scheduled (hs : Scheduled s ∧ MarkersStored s)
    (hstable : Stable platform s.maps) (request : TrustRequest) :
    Scheduled (handleMarkAgentRevoked platform s request).1 ∧
      MarkersStored (handleMarkAgentRevoked platform s request).1 := by
  unfold handleMarkAgentRevoked
  split
  · rename_i agentDid nowMs ttlMs hdid hnow httl
    simp only
    split
    · rename_i haccepted
      have hclock : 0 ≤ nowMs.getD request.nowUtcMs := by
        cases nowMs with
        | none => exact Int.natCast_nonneg _
        | some n => exact (positiveInt_eq_some hnow n rfl).le
      exact scheduled_saveMarkers hstable (((validMarkers_load s).prune _).insert
        (revokedAgent_eq_some hdid) (hclock.trans_lt haccepted.2))
    · exact hs
  · exact hs

theorem isAgentRevoked_scheduled (hs : Scheduled s ∧ MarkersStored s)
    (hstable : Stable platform s.maps) (request : TrustRequest) :
    Scheduled (handleIsAgentRevoked platform s request).1 ∧
      MarkersStored (handleIsAgentRevoked platform s request).1 := by
  unfold handleIsAgentRevoked
  split
  · simp only
    split
    · exact scheduled_saveMarkers hstable ((validMarkers_load s).prune _)
    · exact hs
  · exact hs

/-- The maps that the cleanup leaves. -/
theorem lookup_removeExpired {κ α : Type} [DecidableEq κ] {m : Table κ α} {f : α → ℤ} (k : κ) :
    (m.keep fun _ e => decide (nowMs < f e)).lookup k =
      (m.lookup k).filter fun e => decide (nowMs < f e) := by
  apply Option.ext
  intro e
  rw [Table.lookup_keep_eq_some, Option.filter_eq_some_iff]

theorem lookup_of_not_expired {κ α : Type} [DecidableEq κ] {m : Table κ α} {f : α → ℤ}
    (h : (m.entries.any fun e => decide (f e.2 ≤ nowMs)) = false) (k : κ) :
    (m.lookup k).filter (fun e => decide (nowMs < f e)) = m.lookup k := by
  cases he : m.lookup k with
  | none => rfl
  | some e =>
      have hkept := List.any_eq_false.mp h ⟨k, e⟩ (AList.mem_lookup_iff.mp he)
      exact Option.filter_some_pos (by simpa using hkept)

theorem cleanup_markersStored (hs : MarkersStored s) (nowMs : ℤ) :
    MarkersStored (runAlarmCleanup platform s nowMs) := by
  rw [MarkersStored, loadRevokedAgents_cleanup]
  by_cases hexpired : ((loadRevokedAgents s).entries.any fun e => e.2 ≤ nowMs) = true
  · exact if_pos hexpired
  · rw [pruneExpiredRevokedAgents_eq_self hexpired]
    exact (if_neg hexpired).trans hs

/-- **The cleanup** removes what has expired, and nothing else. -/
theorem cleaned_runAlarmCleanup (hs : MarkersStored s) (hstable : Stable platform s.maps)
    (nowMs : ℤ) : Cleaned nowMs s (runAlarmCleanup platform s nowMs) := by
  have hmarkers : MarkersStored (runAlarmCleanup platform s nowMs) :=
    cleanup_markersStored hs nowMs
  rw [MarkersStored, loadRevokedAgents_cleanup] at hmarkers
  refine ⟨fun kid => ?_, fun kid => ?_,
    ⟨_, _, hs, hmarkers, fun _ => lookup_removeExpired (f := fun e => e) _⟩, rfl, rfl⟩
  · rw [← lookup_load_pending hstable.pending]
    cases hexpired : (loadExpirableState platform s).hasExpired nowMs with
    | true =>
        simp only [runAlarmCleanup, hexpired, if_true]
        exact lookup_removeExpired kid
    | false =>
        rw [lookup_of_not_expired (Bool.or_eq_false_iff.mp hexpired).1,
          lookup_load_pending hstable.pending]
        simp only [runAlarmCleanup, hexpired, Bool.false_eq_true, if_false]
  · rw [← lookup_load_confirmed hstable.confirmed]
    cases hexpired : (loadExpirableState platform s).hasExpired nowMs with
    | true =>
        simp only [runAlarmCleanup, hexpired, if_true]
        exact lookup_removeExpired kid
    | false =>
        rw [lookup_of_not_expired (Bool.or_eq_false_iff.mp hexpired).2,
          lookup_load_confirmed hstable.confirmed]
        simp only [runAlarmCleanup, hexpired, Bool.false_eq_true, if_false]

theorem cleanup_scheduled (hs : MarkersStored s) (hstable : Stable platform s.maps)
    (nowMs : ℤ) : Scheduled (runAlarmCleanup platform s nowMs) ∧
      MarkersStored (runAlarmCleanup platform s nowMs) := by
  have hclean := cleaned_runAlarmCleanup hs hstable nowMs
  have hmarkers : MarkersStored (runAlarmCleanup platform s nowMs) :=
    cleanup_markersStored hs nowMs
  have halarm : (runAlarmCleanup platform s nowMs).alarmAt =
      nextCleanup (removeExpiredEntries (loadExpirableState platform s) nowMs)
        (loadRevokedAgents (runAlarmCleanup platform s nowMs)) := by
    rw [loadRevokedAgents_cleanup]
    rfl
  refine ⟨scheduled_of_nextCleanup (fun kid => ?_) (fun kid => ?_) hmarkers halarm, hmarkers⟩
  · rw [hclean.pending, ← lookup_load_pending hstable.pending]
    exact lookup_removeExpired kid
  · rw [hclean.confirmed, ← lookup_load_confirmed hstable.confirmed]
    exact lookup_removeExpired kid

/-- **One operation** leaves the alarm exact. -/
theorem perform_scheduled (hs : Scheduled s ∧ MarkersStored s) (hstable : Stable platform s.maps)
    (op : Operation) :
    Scheduled (perform platform s op).1 ∧ MarkersStored (perform platform s op).1 := by
  cases op with
  | create request =>
      rw [perform, handleCreatePairingTicket]
      split
      · exact hs
      · exact scheduled_save hs.2 _
  | confirm request =>
      rw [perform, handleConfirmPairingTicket]
      split
      · exact finishConfirm_scheduled hs _
      · exact hs
  | status request => exact status_scheduled hs hstable request
  | upsertPair request =>
      rw [perform, handleUpsertPair]
      split
      · exact hs
      · exact Scheduled.of_same hs rfl rfl rfl
  | isPairAllowed request => exact hs
  | markAgentRevoked request => exact markAgentRevoked_scheduled hs hstable request
  | isAgentRevoked request => exact isAgentRevoked_scheduled hs hstable request
  | isAgentKnown request => exact hs
  | alarm nowMs => exact cleanup_scheduled hs.2 hstable nowMs

end

/-! ## Whole runs -/

section
variable {platform : Platform} {p q : OperationsState}

theorem scheduled_step (hp : Sane platform p) (hs : Scheduled p.shared ∧ MarkersStored p.shared)
    {e : OperationsMove} (h : (operations platform).step p e = some q) :
    Scheduled q.shared ∧ MarkersStored q.shared := by
  rcases Program.step_cases h with ⟨op, s, c, rfl, hstart, rfl⟩ |
    ⟨i, choice, c, s, c', rfl, hc, hresume, rfl⟩
  · have hbegin : begin platform p.shared op = (s, c) := Option.some.inj hstart
    rcases begin_cases platform p.shared op with
      ⟨request, v, rfl, hv, heq⟩ | ⟨reply, heq⟩ | ⟨_, heq⟩
    · cases heq.symm.trans hbegin
      exact hs
    · cases heq.symm.trans hbegin
      exact hs
    · cases heq.symm.trans hbegin
      exact perform_scheduled hs hp.maps op
  · cases c with
    | verifying v =>
        cases hresume
        exact finishConfirm_scheduled hs v
    | answered reply => cases hresume

theorem scheduled_empty : Scheduled .empty ∧ MarkersStored .empty := by
  refine ⟨⟨?_, fun t ht => by cases ht⟩, rfl⟩
  constructor
  · intro h
    cases h
  · rintro ⟨t, ht⟩
    rcases ht with h | h | ⟨hm, h⟩
    · cases h
    · cases h
    · cases hm
      cases h

/-- An operation that nothing overlaps. -/
theorem perform_reached (platform : Platform) (p : OperationsState) (op : Operation) :
    ∃ es q, Run.exec (operations platform).step p es = some q ∧
      q.shared = (perform platform p.shared op).1 := by
  have hone : ∀ op, (∃ reply, begin platform p.shared op =
      ((perform platform p.shared op).1, .answered reply)) →
      ∃ es q, Run.exec (operations platform).step p es = some q ∧
        q.shared = (perform platform p.shared op).1 := by
    intro op ⟨reply, hbegin⟩
    refine ⟨[.start op], ⟨_, p.calls ++ [.answered reply]⟩, ?_, rfl⟩
    refine Run.exec_cons_eq_some.mpr ⟨_, ?_, rfl⟩
    rw [Program.step, operations, Option.map_some, hbegin]
  cases op with
  | confirm request =>
      cases hstart : confirmStart platform p.shared request with
      | verifying v =>
          refine ⟨[.start (.confirm request), .resume p.calls.length ()],
            ⟨(finishConfirm platform p.shared v).1, (p.calls ++ [OperationCall.verifying v]).set p.calls.length
              (.answered (finishConfirm platform p.shared v).2)⟩, ?_, ?_⟩
          · refine Run.exec_cons_eq_some.mpr ⟨⟨p.shared, p.calls ++ [.verifying v]⟩, ?_,
              Run.exec_cons_eq_some.mpr ⟨_, ?_, rfl⟩⟩
            · rw [Program.step, operations, Option.map_some, begin, hstart]
            · rw [Program.step, List.getElem?_concat_length]
              rfl
          · rw [perform, handleConfirmPairingTicket, hstart]
      | confirmed kid result =>
          refine hone _ ⟨.confirmed kid result, ?_⟩
          rw [begin, perform, handleConfirmPairingTicket, hstart]
          rfl
      | rejected e =>
          refine hone _ ⟨.error e, ?_⟩
          rw [begin, perform, handleConfirmPairingTicket, hstart]
          rfl
  | _ => exact hone _ ⟨_, rfl⟩

/-- A sequence of operations is a run in which no two of them overlap. -/
theorem after_reached (platform : Platform) (ops : List Operation) :
    ∃ es p, Run.exec (operations platform).step ⟨.empty, []⟩ es = some p ∧
      p.shared = after platform ops := by
  induction ops using List.reverseRecOn with
  | nil => exact ⟨[], _, rfl, rfl⟩
  | append_singleton ops op ih =>
      obtain ⟨es, p, hrun, hshared⟩ := ih
      obtain ⟨fs, q, hlast, hq⟩ := perform_reached platform p op
      refine ⟨es ++ fs, q, ?_, ?_⟩
      · rw [Run.exec_append, hrun]
        exact hlast
      · rw [after_append, ← hshared, hq]

/-- **The cleanup alarm.** Whatever operations and cleanups have run, one after the other or
with confirmations that wait meanwhile: the alarm is set if and only if a ticket or a marker is
stored, to the first expiry of all of them; and a cleanup removes what has expired and leaves
every other entry as it is. -/
theorem cleanup_alarm (horigin : OriginStable platform) {es : List OperationsMove}
    (h : Run.exec (operations platform).step ⟨.empty, []⟩ es = some p) :
    Scheduled p.shared ∧
      ∀ nowMs : ℤ, Cleaned nowMs p.shared (runAlarmCleanup platform p.shared nowMs) := by
  have hinv : Sane platform p ∧ Scheduled p.shared ∧ MarkersStored p.shared := by
    refine Run.exec_invariant_of_step
      (fun p => Sane platform p ∧ Scheduled p.shared ∧ MarkersStored p.shared)
      (fun p e q hp hstep => ⟨sane_step horigin hp.1 hstep, scheduled_step hp.1 hp.2 hstep⟩) ?_ h
    exact ⟨⟨.empty platform, fun v hv => by cases hv⟩, scheduled_empty⟩
  exact ⟨hinv.2.1, cleaned_runAlarmCleanup hinv.2.2 hinv.1.maps⟩

end

/-! ### A ticket and a marker -/

section Example

def exampleRevoke : TrustRequest where
  body := some (.obj
    [(js "agentDid", .str (js "did:cdi:registry.example.com:agent:01HF7YAT00W6W7CM7N3W5FDXC0")),
      (js "ttlMs", .num 100000)])
  nowUtcMs := 1700000005000

/-- A marker that expires before the ticket, which is confirmed meanwhile. -/
def exampleExpiring : List OperationsMove :=
  [.start (.create exampleCreate), .start (.confirm (exampleConfirm "B0")),
    .start (.markAgentRevoked exampleRevoke), .resume 1 ()]

theorem exampleExpiring_scheduled :
    ∃ p, Run.exec (operations twoTickets).step ⟨.empty, []⟩ exampleExpiring = some p ∧
      p.shared.alarmAt = some 1700000105000 ∧ Scheduled p.shared ∧
      Cleaned 1700000105000 p.shared (runAlarmCleanup twoTickets p.shared 1700000105000) := by
  have hfacts : (Run.exec (operations twoTickets).step ⟨.empty, []⟩ exampleExpiring).map
      (fun p => p.shared.alarmAt) = some (some 1700000105000) := by
    decide +kernel
  obtain ⟨p, hrun, halarm⟩ := Option.map_eq_some_iff.mp hfacts
  obtain ⟨hscheduled, hcleaned⟩ := cleanup_alarm (originStable_ticketPlatform _) hrun
  exact ⟨p, hrun, halarm, hscheduled, hcleaned 1700000105000⟩

end Example

end Clawdentity.TrustState
