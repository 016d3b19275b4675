import Clawdentity.Proxy.TicketMaps

/-!
# What the initiator sees of a confirmation

A confirmation finds its ticket by the `kid` of the text that the responder sends, and
stores this text. The status compares the stored text with the one of the initiator. The
two texts may differ and still have the same signed fields.

## Main definitions

* `Operation.creates` — the operation creates a ticket under the `kid`.
* `after_invariant` — what every operation preserves, a sequence of them preserves.
* `perform_settled` — an operation on a `kid` that is not pending.
-/

namespace Clawdentity.TrustState

open Js Lib Lib.Interleave PairingTicket Protocol

/-- The operation creates a ticket under the `kid`. -/
def Operation.creates (platform : Platform) (kid : JsString) : Operation → Bool
  | .create request =>
      match createdTicket platform request with
      | .ok (k, _) => k = kid
      | .error _ => false
  | _ => false

section
variable {platform : Platform} {s : TrustStorage} {kid : JsString} {ticket : StoredPairingTicket}
  {op : Operation}

/-! ## Sequences of operations -/

/-- **The invariant rule** for the operations after some first ones. -/
theorem after_invariant (Inv : TrustStorage → Prop) {ops more : List Operation}
    (hops : Inv (after platform ops))
    (hstep : ∀ s op, op ∈ more → Inv s → Inv (perform platform s op).1) :
    Inv (after platform (ops ++ more)) := by
  induction more using List.reverseRecOn with
  | nil =>
      rw [List.append_nil]
      exact hops
  | append_singleton more op ih =>
      rw [← List.append_assoc, after_append]
      refine hstep _ op (by simp) (ih ?_)
      intro s op' hmem
      exact hstep s op' (List.mem_append_left _ hmem)

theorem stable_after (horigin : OriginStable platform) (ops : List Operation) :
    Stable platform (after platform ops).maps := by
  have h : Stable platform (after platform ([] ++ ops)).maps :=
    after_invariant (fun s => Stable platform s.maps) (.empty platform)
      fun _ op _ hs => perform_stable horigin hs op
  exact h

/-! ## One operation -/

theorem creates_of_created {request : TrustRequest} {k : JsString}
    (h : createdTicket platform request = .ok (k, ticket)) :
    (Operation.create request).creates platform kid = decide (k = kid) := by
  simp only [Operation.creates, h]

/-- A confirmation that waits is of a ticket that is pending. -/
theorem stored_of_start (hs : Stable platform s.maps) {request : TrustRequest} {v : Verifying}
    (h : confirmStart platform s request = .verifying v) :
    s.pairingTickets.lookup v.payload.kid = some v.stored := by
  obtain ⟨hsnapshot, hstored⟩ := confirmStart_verifying h
  rw [hsnapshot, lookup_load_pending hs.pending] at hstored
  exact hstored

/-- An operation that creates no ticket under the `kid` leaves the pending one, or removes it. -/
theorem perform_pending_or (hs : Stable platform s.maps)
    (hcreates : op.creates platform kid = false)
    (hticket : ∀ e, s.pairingTickets.lookup kid = some e → e = ticket) :
    ∀ e, (perform platform s op).1.pairingTickets.lookup kid = some e → e = ticket := by
  intro e he
  refine hticket e ?_
  cases perform_maps hs op with
  | created hop hcreated hmaps =>
      subst hop
      rw [creates_of_created hcreated, decide_eq_false_iff_not] at hcreates
      rw [pending_of_maps hmaps, ExpirableTrustState.withTicket,
        AList.lookup_insert_ne (Ne.symm hcreates), lookup_load_pending hs.pending] at he
      exact he
  | confirmed hop hstart hfinish =>
      rename_i request v
      rw [hfinish] at he
      have hsnapshot : ∀ k, v.snapshot.pairingTickets.lookup k = s.pairingTickets.lookup k := by
        intro k
        rw [(confirmStart_verifying hstart).1, lookup_load_pending hs.pending]
      rcases finishConfirm_maps platform s v with
        ⟨hmaps, _⟩ | ⟨_, _, hmaps, _⟩ | ⟨_, _, hmaps, _⟩
      · rw [pending_of_maps hmaps] at he
        exact he
      · rw [pending_of_maps hmaps] at he
        rw [← hsnapshot]
        exact (lookup_erase_some he).2
      · rw [pending_of_maps hmaps] at he
        rw [← hsnapshot]
        exact (lookup_erase_some he).2
  | pruned hpruned => exact hpruned.pending.lookup he

/-- **An operation where no ticket is pending under the `kid`**, and that creates none: none is
pending after it, and the confirmed one stays until its expiry has come. -/
theorem perform_settled (hs : Stable platform s.maps) (hcreates : op.creates platform kid = false)
    (hnone : s.pairingTickets.lookup kid = none) :
    (perform platform s op).1.pairingTickets.lookup kid = none ∧
      ((perform platform s op).1.confirmedPairingTickets.lookup kid =
          s.confirmedPairingTickets.lookup kid ∨
        (perform platform s op).1.confirmedPairingTickets.lookup kid = none ∧
          ∃ e, s.confirmedPairingTickets.lookup kid = some e ∧
            Outdated platform op.nowMs e.ticket e.expiresAtMs) := by
  cases perform_maps hs op with
  | created hop hcreated hmaps =>
      subst hop
      rw [creates_of_created hcreated, decide_eq_false_iff_not] at hcreates
      rw [pending_of_maps hmaps, confirmed_of_maps hmaps]
      simp only [ExpirableTrustState.withTicket]
      rw [AList.lookup_insert_ne (Ne.symm hcreates), lookup_load_pending hs.pending,
        AList.lookup_erase_ne (Ne.symm hcreates), lookup_load_confirmed hs.confirmed]
      exact ⟨hnone, .inl rfl⟩
  | confirmed hop hstart hfinish =>
      rename_i request v
      have hstored := stored_of_start hs hstart
      have hkid : kid ≠ v.payload.kid := by
        intro heq
        rw [← heq, hnone] at hstored
        cases hstored
      obtain ⟨hsnapshot, _⟩ := confirmStart_verifying hstart
      have hpending : (v.snapshot.pairingTickets.erase v.payload.kid).lookup kid = none := by
        rw [AList.lookup_erase_ne hkid, hsnapshot, lookup_load_pending hs.pending, hnone]
      rw [hfinish]
      rcases finishConfirm_maps platform s v with
        ⟨hmaps, _⟩ | ⟨_, _, hmaps, _⟩ | ⟨_, _, hmaps, _⟩
      · rw [pending_of_maps hmaps, confirmed_of_maps hmaps]
        exact ⟨hnone, .inl rfl⟩
      · rw [pending_of_maps hmaps, confirmed_of_maps hmaps]
        refine ⟨hpending, .inl ?_⟩
        rw [Verifying.dropped, AList.lookup_erase_ne hkid, hsnapshot,
          lookup_load_confirmed hs.confirmed]
      · rw [pending_of_maps hmaps, confirmed_of_maps hmaps]
        refine ⟨hpending, .inl ?_⟩
        rw [Verifying.moved, AList.lookup_insert_ne hkid, hsnapshot,
          lookup_load_confirmed hs.confirmed]
  | pruned hpruned =>
      refine ⟨?_, hpruned.confirmed kid⟩
      rcases hpruned.pending kid with hsame | ⟨hgone, _⟩
      · exact hsame.trans hnone
      · exact hgone

/-! ## The status of a ticket that is not pending -/

/-- The status of a text under whose `kid` no ticket is pending. -/
theorem status_of_not_pending (hs : Stable platform s.maps) {request : TrustRequest}
    {raw text : JsString} {payload : PairingTicketPayload}
    (hraw : request.text "ticket" = some raw) (hread : readTicket platform raw = .ok (text, payload))
    (hnone : s.pairingTickets.lookup payload.kid = none)
    (hnow : request.nowMs < ((payload.exp * 1000 : ℤ) : ℚ)) (e : StoredConfirmedPairingTicket) :
    (handleGetPairingTicketStatus platform s request).2 = .status (.confirmed e) ↔
      s.confirmedPairingTickets.lookup payload.kid = some e ∧ e.ticket = text ∧
        request.nowMs < (e.expiresAtMs : ℚ) := by
  have hpassed : ¬ ((payload.exp * 1000 : ℤ) : ℚ) ≤ request.nowMs := not_le.mpr hnow
  simp only [handleGetPairingTicketStatus, hraw, hread, lookup_load_pending hs.pending,
    lookup_load_confirmed hs.confirmed, hnone, Option.filter_none, hpassed, decide_false,
    Bool.or_false]
  cases hentry : s.confirmedPairingTickets.lookup payload.kid with
  | none => simp
  | some entry =>
      by_cases htext : entry.ticket = text
      · have hfound : Option.filter (fun c : StoredConfirmedPairingTicket => c.ticket = text)
            (some entry) = some entry := by
          simp [htext]
        rw [hfound]
        by_cases hexpired : (entry.expiresAtMs : ℚ) ≤ request.nowMs
        · simp only [hexpired, decide_true, if_true]
          constructor
          · intro h
            cases h
          · rintro ⟨heq, _, hlive⟩
            cases heq
            exact absurd hexpired (not_le.mpr hlive)
        · simp only [hexpired, decide_false, Bool.false_eq_true, if_false]
          constructor
          · intro h
            cases h
            exact ⟨rfl, htext, not_le.mp hexpired⟩
          · rintro ⟨heq, _, _⟩
            cases heq
            rfl
      · have hfound : Option.filter (fun c : StoredConfirmedPairingTicket => c.ticket = text)
            (some entry) = none := by
          simp [htext]
        rw [hfound]
        constructor
        · intro h
          cases h
        · rintro ⟨heq, hsame, _⟩
          cases heq
          exact absurd hsame htext

/-- A confirmation of a `kid` under which no ticket is pending fails. -/
theorem confirm_of_not_pending (hs : Stable platform s.maps) {request : TrustRequest}
    {raw responder text : JsString} {profile : PeerProfile} {payload : PairingTicketPayload}
    (hbody : parseConfirmBody platform request.body = some (raw, responder, profile))
    (htext : parseNormalizedPairingTicket platform raw = .ok (text, payload))
    (hnone : s.pairingTickets.lookup payload.kid = none) :
    ∃ e, (handleConfirmPairingTicket platform s request).2 = .error e := by
  have hstart : ∃ e, confirmStart platform s request = .rejected e := by
    simp only [confirmStart, hbody, htext]
    split
    · exact ⟨_, rfl⟩
    · rw [lookup_load_pending hs.pending, hnone]
      exact ⟨_, rfl⟩
  obtain ⟨e, hstart⟩ := hstart
  refine ⟨e, ?_⟩
  rw [handleConfirmPairingTicket, hstart]
  rfl

/-! ## After the confirmation -/

/-- The text with which a request names a ticket, normalised. -/
def ConfirmRequest.ticketText (request : TrustRequest) : Option JsString :=
  (request.text "ticket").map normalizePairingTicketText

theorem parseNormalizedPairingTicket_eq_ok {raw text : JsString} {payload : PairingTicketPayload} :
    parseNormalizedPairingTicket platform raw = .ok (text, payload) ↔
      normalizePairingTicketText raw = text ∧ parsePairingTicket platform text = .ok payload := by
  rw [parseNormalizedPairingTicket, bind_eq_ok]
  constructor
  · intro ⟨parsed, hparsed, hpair⟩
    obtain ⟨rfl, rfl⟩ := Prod.mk.inj (Except.ok.inj hpair)
    exact ⟨rfl, hparsed⟩
  · rintro ⟨rfl, hparsed⟩
    exact ⟨payload, hparsed, rfl⟩

theorem ticketText_of_start {request : TrustRequest} {v : Verifying}
    (h : confirmStart platform s request = .verifying v) : request.ticketText = some v.ticket := by
  obtain ⟨raw, hbody, htext, _⟩ := confirmStart_request h
  obtain ⟨hnormal, _⟩ := parseNormalizedPairingTicket_eq_ok.mp htext
  simp only [parseConfirmBody, Option.bind_eq_bind, Option.bind_eq_some_iff, Option.some.injEq] at hbody
  obtain ⟨body, hbody, _, _, ticket, hticket, _, _, hall⟩ := hbody
  cases hall
  rw [ConfirmRequest.ticketText, ConfirmRequest.text, ConfirmRequest.field, hbody, Option.bind_some,
    hticket, Option.map_some, hnormal]

/-- What a confirmation leaves: nothing is pending under the `kid`, and its entry is confirmed. -/
theorem settled_of_confirm (hs : Stable platform s.maps)
    {request : TrustRequest} {result : ConfirmResult}
    (hticket : ∀ e, s.pairingTickets.lookup kid = some e → e = ticket)
    (h : (perform platform s (.confirm request)).2 = .confirmed kid result) :
    ∃ entry, (perform platform s (.confirm request)).1.pairingTickets.lookup kid = none ∧
      (perform platform s (.confirm request)).1.confirmedPairingTickets.lookup kid = some entry ∧
      request.ticketText = some entry.ticket ∧ entry.expiresAtMs = ticket.expiresAtMs ∧
      entry.responderAgentDid = result.responderAgentDid := by
  rw [perform] at h ⊢
  obtain ⟨v, hstart, rfl, _⟩ := confirm_eq_confirmed h
  have hfinish : handleConfirmPairingTicket platform s request = finishConfirm platform s v := by
    rw [handleConfirmPairingTicket, hstart]
  have hstored : v.stored = ticket := hticket _ (stored_of_start hs hstart)
  rw [hfinish] at h ⊢
  rcases finishConfirm_maps platform s v with
    ⟨_, hnot⟩ | ⟨_, _, _, hnot⟩ | ⟨_, _, hmaps, found, hreply, hresponder⟩
  · exact absurd h (hnot _ _)
  · exact absurd h (hnot _ _)
  · rw [hreply] at h
    cases h
    rw [pending_of_maps hmaps, confirmed_of_maps hmaps]
    refine ⟨v.entry, AList.lookup_erase _ _, AList.lookup_insert _, ticketText_of_start hstart, ?_,
      hresponder.symm⟩
    rw [← hstored]
    rfl

/-- The tickets under a `kid` after its confirmation. -/
structure Settled (platform : Platform) (s : TrustStorage) (kid : JsString)
    (ticket : StoredPairingTicket) (entry : StoredConfirmedPairingTicket) : Prop where
  stable : Stable platform s.maps
  pending : s.pairingTickets.lookup kid = none
  confirmed : ∀ e, s.confirmedPairingTickets.lookup kid = some e → e = entry
  visible : entry.ticket = ticket.ticket → s.confirmedPairingTickets.lookup kid = some entry

/-- Before the expiry of the ticket, the entry with its text stays. -/
theorem Settled.step (horigin : OriginStable platform) {entry : StoredConfirmedPairingTicket}
    {payload : PairingTicketPayload} (h : Settled platform s kid ticket entry)
    (hparse : parsePairingTicket platform ticket.ticket = .ok payload)
    (hexp : payload.exp * 1000 = ticket.expiresAtMs)
    (hexpires : entry.expiresAtMs = ticket.expiresAtMs)
    (hcreates : op.creates platform kid = false) (hlive : op.nowMs < (ticket.expiresAtMs : ℚ)) :
    Settled platform (perform platform s op).1 kid ticket entry := by
  obtain ⟨hpending, hconfirmed⟩ := perform_settled h.stable hcreates h.pending
  refine ⟨perform_stable horigin h.stable op, hpending, ?_, ?_⟩
  · intro e he
    rcases hconfirmed with hsame | ⟨hnone, _⟩
    · exact h.confirmed e (hsame.symm.trans he)
    · cases hnone.symm.trans he
  · intro htext
    have hentry := h.visible htext
    rcases hconfirmed with hsame | ⟨_, e, he, houtdated⟩
    · exact hsame.trans hentry
    · cases hentry.symm.trans he
      rw [htext, hexpires] at houtdated
      rcases houtdated with hpassed | ⟨other, hother, hpassed⟩
      · exact absurd hpassed (not_le.mpr hlive)
      · cases hparse.symm.trans hother
        rw [hexp] at hpassed
        exact absurd hpassed (not_le.mpr hlive)

theorem created_of_reply {request : TrustRequest}
    (h : (perform platform s (.create request)).2 = .created kid ticket) :
    createdTicket platform request = .ok (kid, ticket) ∧
      (perform platform s (.create request)).1.pairingTickets.lookup kid = some ticket := by
  rw [perform, handleCreatePairingTicket] at h ⊢
  cases hcreated : createdTicket platform request with
  | error e =>
      rw [hcreated] at h
      cases h
  | ok created =>
      rw [hcreated] at h
      cases h
      exact ⟨rfl, AList.lookup_insert _⟩

/-- From the confirmation of a created ticket on, the tickets under its `kid` are settled. -/
theorem settled_after (horigin : OriginStable platform) {pre mid post : List Operation}
    {create confirm : TrustRequest} {result : ConfirmResult}
    (hcreate : (perform platform (after platform pre) (.create create)).2 = .created kid ticket)
    (hconfirm : (perform platform (after platform (pre ++ .create create :: mid))
      (.confirm confirm)).2 = .confirmed kid result)
    (hother : ∀ op ∈ mid ++ post, op.creates platform kid = false)
    (hlive : ∀ op ∈ post, op.nowMs < (ticket.expiresAtMs : ℚ)) :
    ∃ entry, Settled platform
        (after platform (pre ++ .create create :: (mid ++ .confirm confirm :: post))) kid ticket
        entry ∧
      confirm.ticketText = some entry.ticket ∧ entry.expiresAtMs = ticket.expiresAtMs ∧
      entry.responderAgentDid = result.responderAgentDid := by
  obtain ⟨hcreated, hstored⟩ := created_of_reply hcreate
  obtain ⟨_, _, payload, hparse, _, _, hexp⟩ := createdTicket_eq_ok hcreated
  -- Up to the confirmation, no other ticket is pending under the `kid`.
  have hmid : ∀ e, (after platform (pre ++ .create create :: mid)).pairingTickets.lookup kid =
      some e → e = ticket := by
    have hlist : pre ++ .create create :: mid = (pre ++ [.create create]) ++ mid := by simp
    rw [hlist]
    refine (after_invariant (fun s => Stable platform s.maps ∧
      ∀ e, s.pairingTickets.lookup kid = some e → e = ticket) ?_ ?_).2
    · refine ⟨stable_after horigin _, ?_⟩
      intro e he
      rw [after_append] at he
      exact Option.some.inj (he.symm.trans hstored)
    · intro s op hop ⟨hs, hticket⟩
      exact ⟨perform_stable horigin hs op,
        perform_pending_or hs (hother op (List.mem_append_left _ hop)) hticket⟩
  obtain ⟨entry, hnone, hentry, htext, hexpires, hresponder⟩ :=
    settled_of_confirm (stable_after horigin _) hmid hconfirm
  refine ⟨entry, ?_, htext, hexpires, hresponder⟩
  have hlist : pre ++ .create create :: (mid ++ .confirm confirm :: post) =
      (pre ++ .create create :: mid) ++ [.confirm confirm] ++ post := by
    simp
  rw [hlist]
  refine after_invariant (fun s => Settled platform s kid ticket entry) ?_ ?_
  · rw [after_append]
    refine ⟨perform_stable horigin (stable_after horigin _) _, hnone, ?_, fun _ => hentry⟩
    intro e he
    exact Option.some.inj (he.symm.trans hentry)
  · intro s op hop h
    exact h.step horigin hparse hexp hexpires (hother op (List.mem_append_right _ hop))
      (hlive op hop)

/-- **The initiator sees the confirmation where the responder has sent the same text.** After
any operations, a ticket is created, and later its `kid` is confirmed; no other ticket is
created under the `kid`. Until the expiry of the ticket, its status tells the confirmation
with its responder exactly if the responder has confirmed the text of the ticket, and every
further confirmation fails. -/
theorem status_confirmed_iff (horigin : OriginStable platform) {pre mid post : List Operation}
    {create confirm : TrustRequest} {result : ConfirmResult}
    (hcreate : (perform platform (after platform pre) (.create create)).2 = .created kid ticket)
    (hconfirm : (perform platform (after platform (pre ++ .create create :: mid))
      (.confirm confirm)).2 = .confirmed kid result)
    (hother : ∀ op ∈ mid ++ post, op.creates platform kid = false)
    (hlive : ∀ op ∈ post, op.nowMs < (ticket.expiresAtMs : ℚ)) :
    (∀ status : TrustRequest, status.ticketText = some ticket.ticket →
      status.nowMs < (ticket.expiresAtMs : ℚ) →
      ((∃ entry, (perform platform
          (after platform (pre ++ .create create :: (mid ++ .confirm confirm :: post)))
          (.status status)).2 = .status (.confirmed entry) ∧
            entry.responderAgentDid = result.responderAgentDid) ↔
        confirm.ticketText = some ticket.ticket)) ∧
    ∀ further : TrustRequest, (∃ raw responder profile text payload,
        parseConfirmBody platform further.body = some (raw, responder, profile) ∧
        parseNormalizedPairingTicket platform raw = .ok (text, payload) ∧ payload.kid = kid) →
      ∃ e, (perform platform
        (after platform (pre ++ .create create :: (mid ++ .confirm confirm :: post)))
        (.confirm further)).2 = .error e := by
  obtain ⟨entry, hsettled, htext, hexpires, hresponder⟩ :=
    settled_after horigin hcreate hconfirm hother hlive
  obtain ⟨hcreated, _⟩ := created_of_reply hcreate
  obtain ⟨_, _, payload, hparse, hkid, _, hexp⟩ := createdTicket_eq_ok hcreated
  constructor
  · intro status hstatus hnow
    obtain ⟨raw, hraw, hnormal⟩ := Option.map_eq_some_iff.mp hstatus
    have hread : readTicket platform raw = .ok (ticket.ticket, payload) := by
      rw [readTicket, parseNormalizedPairingTicket_eq_ok.mpr ⟨hnormal, hparse⟩]
    have hpending := hsettled.pending
    rw [← hkid] at hpending
    rw [← hexp] at hnow
    have hiff := status_of_not_pending hsettled.stable hraw hread hpending hnow
    rw [hkid] at hiff
    rw [perform, htext, Option.some.injEq]
    constructor
    · rintro ⟨e, hreply, _⟩
      obtain ⟨he, hsame, _⟩ := (hiff e).mp hreply
      rw [← hsettled.confirmed e he]
      exact hsame
    · intro hsame
      refine ⟨entry, (hiff entry).mpr ⟨hsettled.visible hsame, hsame, ?_⟩, hresponder⟩
      rw [hexpires, ← hexp]
      exact hnow
  · rintro further ⟨raw, responder, profile, text, other, hbody, hread, hkid'⟩
    rw [perform]
    refine confirm_of_not_pending hsettled.stable hbody hread ?_
    rw [hkid']
    exact hsettled.pending

end

/-! ### A responder that sends another text of the ticket -/

/-- The ticket with `examplePayload` and one more member, which is not signed. -/
def reencodedTicket : JsString :=
  js "clwpair1_eyJ2IjoyLCJpc3MiOiJodHRwczovL3AuZXhhbXBsZSIsImtpZCI6IjAxSEY3WUFUMDBXNlc3Q003TjN" ++
    js "XNUZEWFQ0Iiwibm9uY2UiOiJuMSIsImV4cCI6MTcwMDAwMDMwMCwicGtpZCI6InAxIiwic2lnIjoicGdlbm92S1A" ++
    js "zTW5LOXJKQ2RfWXBZS1NkN3dOVUlFS0tNRWtBWlB4RnZ2MTYyOEp3ak5HN3oxQWhvc1NjZ0ROWWpWTFEweHVraEV" ++
    js "CWFE3Qm5fSDNYQ2ciLCJub3RlIjoieCJ9"

def oneTicket : Platform :=
  ticketPlatform [(exampleTicket, payloadJson examplePayload []),
    (reencodedTicket, payloadJson examplePayload [(js "note", .str (js "x"))])]

/-- The confirmation by the example's responder, with the given text. -/
def confirmWith (text : JsString) : TrustRequest where
  body := some (.obj
    [(js "ticket", .str text),
      (js "responderAgentDid",
        .str (js "did:cdi:registry.example.com:agent:01HF7YAT00W6W7CM7N3W5FDXB0")),
      (js "responderProfile", .obj [(js "agentName", .str (js "beta")),
        (js "humanName", .str (js "Asha"))])])
  nowUtcMs := 1700000010000

def exampleStatus : TrustRequest where
  body := some (.obj [(js "ticket", .str exampleTicket)])
  nowUtcMs := 1700000020000

/-- What is stored of `exampleTicket`. -/
def exampleStored : StoredPairingTicket where
  ticket := exampleTicket
  expiresAtMs := 1700000300000
  initiatorAgentDid := js "did:cdi:registry.example.com:agent:01HF7YAT00W6W7CM7N3W5FDXA0"
  initiatorProfile := ⟨js "kai", js "Ravi", none⟩
  issuerProxyUrl := examplePayload.iss
  publicKeyX := examplePublicKeyX
  allowResponderAgentDid := none

def exampleResult : ConfirmResult where
  initiatorAgentDid := js "did:cdi:registry.example.com:agent:01HF7YAT00W6W7CM7N3W5FDXA0"
  initiatorProfile := ⟨js "kai", js "Ravi", none⟩
  responderAgentDid := js "did:cdi:registry.example.com:agent:01HF7YAT00W6W7CM7N3W5FDXB0"
  responderProfile := ⟨js "beta", js "Asha", none⟩
  issuerProxyUrl := examplePayload.iss

theorem oneTicket_created :
    (perform oneTicket (after oneTicket []) (.create exampleCreate)).2 =
      .created examplePayload.kid exampleStored := by
  decide +kernel

/-- **The initiator can miss a confirmation that succeeded.** -/
theorem not_status_confirmed :
    ¬ ∀ (platform : Platform), OriginStable platform →
      ∀ (pre mid post : List Operation) (create confirm status : TrustRequest) (kid : JsString)
        (ticket : StoredPairingTicket) (result : ConfirmResult),
        (perform platform (after platform pre) (.create create)).2 = .created kid ticket →
        (perform platform (after platform (pre ++ .create create :: mid)) (.confirm confirm)).2 =
          .confirmed kid result →
        (∀ op ∈ post, op.nowMs < (ticket.expiresAtMs : ℚ)) →
        status.ticketText = some ticket.ticket → status.nowMs < (ticket.expiresAtMs : ℚ) →
        ∃ entry, (perform platform
          (after platform (pre ++ .create create :: (mid ++ .confirm confirm :: post)))
          (.status status)).2 = .status (.confirmed entry) ∧
            entry.responderAgentDid = result.responderAgentDid := by
  intro h
  obtain ⟨entry, hreply, _⟩ := h oneTicket (originStable_ticketPlatform _) [] [] [] exampleCreate
    (confirmWith reencodedTicket) exampleStatus _ _ exampleResult oneTicket_created
    (by decide +kernel) (by decide) (by decide +kernel) (by decide +kernel)
  have hmissing : (perform oneTicket
      (after oneTicket [.create exampleCreate, .confirm (confirmWith reencodedTicket)])
      (.status exampleStatus)).2 = .error ticketNotFound := by
    decide +kernel
  cases hmissing.symm.trans hreply

/-- The responder sends the text that was created. -/
theorem sameText_status_confirmed :
    ∃ entry, (perform oneTicket
      (after oneTicket [.create exampleCreate, .confirm (confirmWith exampleTicket)])
      (.status exampleStatus)).2 = .status (.confirmed entry) ∧
        entry.responderAgentDid = exampleResult.responderAgentDid := by
  have hconfirm : (perform oneTicket (after oneTicket ([] ++ .create exampleCreate :: []))
      (.confirm (confirmWith exampleTicket))).2 = .confirmed examplePayload.kid exampleResult := by
    decide +kernel
  have hother : ∀ op ∈ ([] ++ [] : List Operation),
      op.creates oneTicket examplePayload.kid = false := by
    decide
  have hiff := status_confirmed_iff (originStable_ticketPlatform _) oneTicket_created hconfirm
    hother (by decide)
  exact (hiff.1 exampleStatus (by decide +kernel) (by decide +kernel)).mpr (by decide +kernel)

end Clawdentity.TrustState
