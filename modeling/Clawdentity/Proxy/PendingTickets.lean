import Clawdentity.Proxy.TicketMaps

/-!
# A created ticket stays pending

All pending tickets are one stored map. An operation loads it, changes it and writes it back
as a whole; a confirmation waits for its signature check in between. A ticket that is created
during the wait is not in the map that the confirmation writes back.

## Main definitions

* `operations` — any number of operations on one object, of which a confirmation waits.
* `ends` — the step confirms the ticket, or its clock has reached the expiry.
* `keepsTicket` — the condition on one step.
-/

namespace Clawdentity.TrustState

open Js Lib Lib.Interleave PairingTicket Protocol

/-! ## Operations that overlap -/

/-- An operation: a confirmation that waits, or an answer. -/
inductive OperationCall
  | verifying (v : Verifying)
  | answered (reply : Reply)
  deriving DecidableEq

section
variable (platform : Platform)

/-- An operation up to its wait or its answer. -/
def begin (s : TrustStorage) : Operation → TrustStorage × OperationCall
  | .confirm request =>
      match confirmStart platform s request with
      | .verifying v => (s, .verifying v)
      | c => (s, .answered c.reply)
  | op => ((perform platform s op).1, .answered (perform platform s op).2)

/-- Any number of operations on one object. -/
def operations : Program TrustStorage OperationCall Operation Unit where
  start s op := some (begin platform s op)
  resume s c _ :=
    match c with
    | .verifying v => some ((finishConfirm platform s v).1, .answered (finishConfirm platform s v).2)
    | .answered _ => none

end

abbrev OperationsState := Pool TrustStorage OperationCall
abbrev OperationsMove := Move Operation Unit

/-! ## The condition -/

/-- The answer tells the success of a confirmation of the ticket. -/
def Reply.confirms (kid : JsString) : Reply → Bool
  | .confirmed k _ => k = kid
  | _ => false

section
variable (platform : Platform) (kid : JsString) (ticket : StoredPairingTicket)

/-- The step confirms the ticket, or its clock has reached the expiry of the ticket. -/
def ends (p : OperationsState) : OperationsMove → Bool
  | .start op => (ticket.expiresAtMs : ℚ) ≤ op.nowMs
  | .resume i _ =>
      match p.calls[i]? with
      | some (.verifying v) =>
          (ticket.expiresAtMs : ℚ) ≤ v.nowMs || (finishConfirm platform p.shared v).2.confirms kid
      | _ => false

/-- The condition on one step: no other ticket is created under the `kid`, and a confirmation
that writes its maps back has loaded them with the ticket, or is of a ticket with this `kid`
that has not expired. -/
def keepsTicket (p : OperationsState) : OperationsMove → Bool
  | .start (.create request) =>
      match createdTicket platform request with
      | .ok (k, other) => k ≠ kid || other = ticket
      | .error _ => true
  | .start _ => true
  | .resume i _ =>
      match p.calls[i]? with
      | some (.verifying v) =>
          !v.writes platform ||
            (if v.payload.kid = kid then !v.expired
             else v.snapshot.pairingTickets.lookup kid = some ticket)
      | _ => true

end

/-! ## One step -/

section
variable {platform : Platform} {kid : JsString} {ticket : StoredPairingTicket}
  {p q : OperationsState} {s : TrustStorage}

/-- What `begin` does: it waits and leaves the storage, or it performs the operation. -/
theorem begin_cases (platform : Platform) (s : TrustStorage) (op : Operation) :
    (∃ request v, op = .confirm request ∧ confirmStart platform s request = .verifying v ∧
      begin platform s op = (s, .verifying v)) ∨
    (∃ reply, begin platform s op = (s, .answered reply)) ∨
    ((∀ request, op ≠ .confirm request) ∧ begin platform s op =
      ((perform platform s op).1, .answered (perform platform s op).2)) := by
  cases op with
  | confirm request =>
      cases hstart : confirmStart platform s request with
      | verifying v =>
          refine .inl ⟨request, v, rfl, hstart, ?_⟩
          rw [begin, hstart]
      | confirmed kid result =>
          refine .inr (.inl ⟨.confirmed kid result, ?_⟩)
          rw [begin, hstart]
          rfl
      | rejected e =>
          refine .inr (.inl ⟨.error e, ?_⟩)
          rw [begin, hstart]
          rfl
  | _ => exact .inr (.inr ⟨fun _ h => (by cases h), rfl⟩)

/-- Loads of the maps and of every snapshot give back what was saved. -/
structure Sane (platform : Platform) (p : OperationsState) : Prop where
  maps : Stable platform p.shared.maps
  calls : ∀ v, .verifying v ∈ p.calls → v.Sound platform

theorem sane_step (horigin : OriginStable platform) (hp : Sane platform p) {e : OperationsMove}
    (h : (operations platform).step p e = some q) : Sane platform q := by
  rcases Program.step_cases h with ⟨op, s, c, rfl, hstart, rfl⟩ |
    ⟨i, choice, c, s, c', rfl, hc, hresume, rfl⟩
  · have hbegin : begin platform p.shared op = (s, c) := Option.some.inj hstart
    rcases begin_cases platform p.shared op with
      ⟨request, v, rfl, hv, heq⟩ | ⟨reply, heq⟩ | ⟨_, heq⟩
    · cases heq.symm.trans hbegin
      refine ⟨hp.maps, ?_⟩
      intro w hw
      rcases List.mem_append.mp hw with hw | hw
      · exact hp.calls w hw
      · cases List.mem_singleton.mp hw
        exact confirmStart_sound horigin hp.maps hv
    · cases heq.symm.trans hbegin
      refine ⟨hp.maps, ?_⟩
      intro w hw
      rcases List.mem_append.mp hw with hw | hw
      · exact hp.calls w hw
      · cases List.mem_singleton.mp hw
    · cases heq.symm.trans hbegin
      refine ⟨perform_stable horigin hp.maps op, ?_⟩
      intro w hw
      rcases List.mem_append.mp hw with hw | hw
      · exact hp.calls w hw
      · cases List.mem_singleton.mp hw
  · cases c with
    | verifying v =>
        cases hresume
        refine ⟨finishConfirm_stable hp.maps (hp.calls v (List.mem_of_getElem? hc)), ?_⟩
        intro w hw
        rcases List.mem_or_eq_of_mem_set hw with hw | hw
        · exact hp.calls w hw
        · cases hw
    | answered reply => cases hresume

/-- An operation other than a confirmation keeps a ticket that has not expired. -/
theorem perform_keeps (hs : Stable platform s.maps) {op : Operation}
    {payload : PairingTicketPayload}
    (hticket : s.pairingTickets.lookup kid = some ticket)
    (hparse : parsePairingTicket platform ticket.ticket = .ok payload)
    (hexp : payload.exp * 1000 = ticket.expiresAtMs)
    (hlive : op.nowMs < (ticket.expiresAtMs : ℚ)) (hconfirm : ∀ request, op ≠ .confirm request)
    (hother : ∀ request other, op = .create request →
      createdTicket platform request = .ok (kid, other) → other = ticket) :
    (perform platform s op).1.pairingTickets.lookup kid = some ticket := by
  cases perform_maps hs op with
  | created hop hcreated hmaps =>
      rename_i request k other
      rw [pending_of_maps hmaps, ExpirableTrustState.withTicket]
      by_cases hk : kid = k
      · subst hk
        rw [AList.lookup_insert, hother request other hop hcreated]
      · rw [AList.lookup_insert_ne hk, lookup_load_pending hs.pending, hticket]
  | confirmed hop _ _ => exact absurd hop (hconfirm _)
  | pruned hpruned =>
      refine hpruned.pending.kept hticket ?_
      rintro (hpassed | ⟨other, hparse', hpassed⟩)
      · exact absurd hpassed (not_le.mpr hlive)
      · cases hparse.symm.trans hparse'
        rw [hexp] at hpassed
        exact absurd hpassed (not_le.mpr hlive)

/-- A confirmation keeps a ticket that it does not confirm and that was in its snapshot. -/
theorem finishConfirm_keeps {v : Verifying} (hticket : s.pairingTickets.lookup kid = some ticket)
    (hends : (finishConfirm platform s v).2.confirms kid = false)
    (hok : v.writes platform = true → if v.payload.kid = kid then v.expired = false
      else v.snapshot.pairingTickets.lookup kid = some ticket) :
    (finishConfirm platform s v).1.pairingTickets.lookup kid = some ticket := by
  have herased : v.payload.kid ≠ kid → v.writes platform = true →
      (v.snapshot.pairingTickets.erase v.payload.kid).lookup kid = some ticket := by
    intro hkid hwrites
    have hsnapshot := hok hwrites
    rw [if_neg hkid] at hsnapshot
    rw [AList.lookup_erase_ne (Ne.symm hkid), hsnapshot]
  rcases finishConfirm_maps platform s v with
    ⟨hmaps, _⟩ | ⟨hwrites, hexpired, hmaps, _⟩ | ⟨hwrites, _, hmaps, result, hreply, _⟩
  · rw [pending_of_maps hmaps]
    exact hticket
  · rw [pending_of_maps hmaps]
    refine herased ?_ hwrites
    intro hkid
    have hnot := hok hwrites
    rw [if_pos hkid, hexpired] at hnot
    cases hnot
  · rw [pending_of_maps hmaps]
    refine herased ?_ hwrites
    intro hkid
    rw [hreply] at hends
    simp [Reply.confirms, hkid] at hends

/-- **A step that meets the condition keeps the ticket.** -/
theorem keeps_step (hp : Sane platform p) {e : OperationsMove} {payload : PairingTicketPayload}
    (hparse : parsePairingTicket platform ticket.ticket = .ok payload)
    (hexp : payload.exp * 1000 = ticket.expiresAtMs)
    (hticket : p.shared.pairingTickets.lookup kid = some ticket)
    (hends : ends platform kid ticket p e = false)
    (hok : keepsTicket platform kid ticket p e = true)
    (h : (operations platform).step p e = some q) :
    q.shared.pairingTickets.lookup kid = some ticket := by
  rcases Program.step_cases h with ⟨op, s, c, rfl, hstart, rfl⟩ |
    ⟨i, choice, c, s, c', rfl, hc, hresume, rfl⟩
  · have hbegin : begin platform p.shared op = (s, c) := Option.some.inj hstart
    have hlive : op.nowMs < (ticket.expiresAtMs : ℚ) := by simpa [ends] using hends
    rcases begin_cases platform p.shared op with
      ⟨request, v, rfl, hv, heq⟩ | ⟨reply, heq⟩ | ⟨hconfirm, heq⟩
    · cases heq.symm.trans hbegin
      exact hticket
    · cases heq.symm.trans hbegin
      exact hticket
    · cases heq.symm.trans hbegin
      refine perform_keeps hp.maps hticket hparse hexp hlive hconfirm ?_
      intro request other hop hcreated
      subst hop
      simpa [keepsTicket, hcreated] using hok
  · cases c with
    | verifying v =>
        cases hresume
        simp only [ends, hc, Bool.or_eq_false_iff] at hends
        refine finishConfirm_keeps hticket hends.2 ?_
        intro hwrites
        simp only [keepsTicket, hc, hwrites, Bool.not_true, Bool.false_or] at hok
        split
        · rename_i hkid
          simpa [hkid] using hok
        · rename_i hkid
          simpa [hkid] using hok
    | answered reply => cases hresume

/-! ## Whole runs -/

theorem sane_run (horigin : OriginStable platform) {es : List OperationsMove}
    (h : Run.exec (operations platform).step ⟨.empty, []⟩ es = some p) : Sane platform p := by
  refine Run.exec_invariant_of_step _ (fun _ _ _ hp hstep => sane_step horigin hp hstep) ?_ h
  exact ⟨.empty platform, fun v hv => by cases hv⟩

/-- A creation that answered success has stored its ticket. -/
theorem pending_of_create {es : List OperationsMove} {request : TrustRequest}
    (h : Run.exec (operations platform).step ⟨.empty, []⟩ (es ++ [.start (.create request)]) =
      some p)
    (hreply : p.calls.getLast? = some (.answered (.created kid ticket))) :
    createdTicket platform request = .ok (kid, ticket) ∧
      p.shared.pairingTickets.lookup kid = some ticket := by
  rw [Run.exec_append] at h
  obtain ⟨m, _, h⟩ := Option.bind_eq_some_iff.mp h
  obtain ⟨p', hstep, hp'⟩ := Run.exec_cons_eq_some.mp h
  cases hp'
  cases hstep
  rw [List.getLast?_concat, Option.some.injEq] at hreply
  have hbegin : begin platform m.shared (.create request) =
      ((handleCreatePairingTicket platform m.shared request).1,
        .answered (handleCreatePairingTicket platform m.shared request).2) := rfl
  rw [hbegin, handleCreatePairingTicket] at hreply
  simp only [hbegin, handleCreatePairingTicket]
  cases hcreated : createdTicket platform request with
  | error e =>
      rw [hcreated] at hreply
      cases hreply
  | ok created =>
      rw [hcreated] at hreply
      cases hreply
      exact ⟨rfl, AList.lookup_insert _⟩

end

/-! ### A ticket that is created while another one is confirmed -/

def laterPayload : PairingTicketPayload where
  iss := js "https://p.example"
  kid := js "01HF7YAT00W6W7CM7N3W5FDXT5"
  nonce := js "n2"
  exp := 1700000300
  pkid := js "p2"
  sig := js "RfOSCpka8WAoqMqCdDQzY2U5-jsF34hJOM2HgbSetvfqYLG2vPTWqvu0D_zKy6cYFaAy0FsmWsc_4iVC_iuxDA"

/-- The text of the ticket with `laterPayload`. -/
def laterTicket : JsString :=
  js "clwpair1_eyJ2IjoyLCJpc3MiOiJodHRwczovL3AuZXhhbXBsZSIsImtpZCI6IjAxSEY3WUFUMDBXNlc3Q003TjN" ++
    js "XNUZEWFQ1Iiwibm9uY2UiOiJuMiIsImV4cCI6MTcwMDAwMDMwMCwicGtpZCI6InAyIiwic2lnIjoiUmZPU0Nwa2E" ++
    js "4V0FvcU1xQ2REUXpZMlU1LWpzRjM0aEpPTTJIZ2JTZXR2ZnFZTEcydlBUV3F2dTBEX3pLeTZjWUZhQXkwRnNtV3N" ++
    js "jXzRpVkNfaXV4REEifQ"

def twoTickets : Platform :=
  ticketPlatform [(exampleTicket, payloadJson examplePayload []),
    (laterTicket, payloadJson laterPayload [])]

/-- The request with which `laterTicket` is created. -/
def laterCreate : TrustRequest where
  body := some (.obj
    [(js "ticket", .str laterTicket),
      (js "initiatorAgentDid",
        .str (js "did:cdi:registry.example.com:agent:01HF7YAT00W6W7CM7N3W5FDXA1")),
      (js "initiatorProfile", .obj [(js "agentName", .str (js "mira")),
        (js "humanName", .str (js "Noor"))]),
      (js "issuerProxyUrl", .str laterPayload.iss),
      (js "publicKeyX", .str (js "nNcGm8XBuGxqkaQAU6VwJqzJT9Cf8_AOYVbJ5wXW6H0")),
      (js "expiresAtMs", .num 1700000300000)])
  nowUtcMs := 1700000010000

/-- What is stored of `laterTicket`. -/
def laterStored : StoredPairingTicket where
  ticket := laterTicket
  expiresAtMs := 1700000300000
  initiatorAgentDid := js "did:cdi:registry.example.com:agent:01HF7YAT00W6W7CM7N3W5FDXA1"
  initiatorProfile := ⟨js "mira", js "Noor", none⟩
  issuerProxyUrl := laterPayload.iss
  publicKeyX := js "nNcGm8XBuGxqkaQAU6VwJqzJT9Cf8_AOYVbJ5wXW6H0"
  allowResponderAgentDid := none

/-- The later ticket is created while the confirmation of the first one waits. -/
def createDuringConfirm : List OperationsMove :=
  [.start (.create exampleCreate), .start (.confirm (exampleConfirm "B0")),
    .start (.create laterCreate)]

theorem createDuringConfirm_loses :
    ((Run.exec (operations twoTickets).step ⟨.empty, []⟩ createDuringConfirm).bind fun p =>
      (Run.exec (operations twoTickets).step p [.resume 1 ()]).map fun q =>
        (p.calls.getLast?, (Run.AllSteps (operations twoTickets).step
          (fun p e => ends twoTickets laterPayload.kid laterStored p e = false) p [.resume 1 ()] ∧
          q.shared.pairingTickets.lookup laterPayload.kid = none : Bool))) =
      some (some (.answered (.created laterPayload.kid laterStored)), true) := by
  decide +kernel

/-- The later ticket is created before the confirmation of the first one starts. -/
def createBeforeConfirm : List OperationsMove :=
  [.start (.create exampleCreate), .start (.create laterCreate)]

def confirmAfterwards : List OperationsMove :=
  [.start (.confirm (exampleConfirm "B0")), .resume 2 ()]

theorem createBeforeConfirm_meets :
    ((Run.exec (operations twoTickets).step ⟨.empty, []⟩ createBeforeConfirm).bind fun p =>
      (Run.exec (operations twoTickets).step p confirmAfterwards).map fun _ =>
        (p.calls.getLast?, (Run.AllSteps (operations twoTickets).step
          (fun p e => ends twoTickets laterPayload.kid laterStored p e = false) p
            confirmAfterwards ∧
          Run.AllSteps (operations twoTickets).step
            (fun p e => keepsTicket twoTickets laterPayload.kid laterStored p e = true) p
            confirmAfterwards : Bool))) =
      some (some (.answered (.created laterPayload.kid laterStored)), true) := by
  decide +kernel

end Clawdentity.TrustState
