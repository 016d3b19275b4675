import Clawdentity.Lib.Interleave
import Clawdentity.Rust.DeadLetters
import Clawdentity.Rust.PairAccepted
import Clawdentity.Rust.Peers

/-!
# Deliveries that change the address book

A delivery whose source is the pairing queue of the proxy saves its sender as a peer. The
code waits once, for the profile that the registry has of the peer; other deliveries may be
applied meanwhile.

## Main definitions

* `isTrustedPairAcceptedDelivery`.
* `applyPairAcceptedSystemDelivery`, `resumeAfterProfile` — the code before the registry is
  asked and after it.
* `deliveries` — any interleaving of such deliveries over one address book.
* `delivery_changes` — a delivery changes the record of its sender only.
-/

namespace Clawdentity.Rust.SystemDelivery

open Js Lib Lib.Interleave Lib.Run
open Peers PairAcceptedSystem

def PAIR_ACCEPTED_TRUSTED_DELIVERY_SOURCE : RString := rs "proxy.events.queue.pair_accepted"

def isTrustedPairAcceptedDelivery (deliver : DeliverFrame) : Bool :=
  deliver.deliverySource = some PAIR_ACCEPTED_TRUSTED_DELIVERY_SOURCE

/-! ## The address of a peer -/

/-- The functions of the `url` crate. -/
structure UrlCrate where
  /-- `Url::parse`: the scheme, and the text of the URL. -/
  parse : RString → Option (RString × RString)
  /-- `Url::join` on the URL of a text. -/
  join : RString → RString → Option RString

structure PairProfile where
  agentName : RString
  humanName : RString
  proxyOrigin : Option RString

section
variable (url : UrlCrate)

def parseProxyUrl (candidate : RString) : Except PeerError RString :=
  match url.parse candidate with
  | none => .error .proxyUrlInvalid
  | some (scheme, text) =>
      if scheme = rs "https" || scheme = rs "http" then .ok text else .error .proxyUrlInvalid

def toRequestUrl (proxyUrl path : RString) : Except PeerError RString := do
  let normalizedProxy ← parseProxyUrl url proxyUrl
  let base := if normalizedProxy.getLast? = some '/' then normalizedProxy
    else normalizedProxy ++ rs "/"
  ((url.parse base).bind fun parsed => url.join parsed.2 (path.dropWhile (· == '/'))).elim
    (.error .proxyUrlInvalid) .ok

def resolvePeerProxyUrl (profile : PairProfile) (peerProxyOrigin : Option RString) :
    Except PeerError RString := do
  let resolvedOrigin ← ((parseOptionalNonEmpty peerProxyOrigin).or profile.proxyOrigin).elim
    (.error (.required "peer proxy origin")) .ok
  let origin ← parseProxyUrl url resolvedOrigin
  toRequestUrl url origin (rs "/hooks/message")

end

/-! ## The code of a delivery -/

structure RegistryAgentProfile where
  agentDid : RString
  agentName : RString
  displayName : RString
  framework : Option RString

inductive ApplyError
  | event (error : EventError)
  /-- The initiator is not the recipient of the delivery. -/
  | initiatorMismatch
  /-- The responder is not its sender. -/
  | responderMismatch
  | peer (error : PeerError)
  deriving DecidableEq

/-- A delivery that waits for the profile of its responder. -/
structure Awaiting where
  deliver : DeliverFrame
  event : PairAcceptedSystemEvent
  peerAlias : RString

section
variable (crates : PairAcceptedSystem.Crates) (url : UrlCrate)

/-- `persist_confirmed_peer_from_profile_and_proxy_origin`. -/
def persistConfirmedPeer (peers : PeerTable) (peerDid : RString) (profile : PairProfile)
    (peerProxyOrigin : Option RString) (env : StatementEnv) :
    Except PeerError (PeerTable × PeerRecord) := do
  let proxyUrl ← resolvePeerProxyUrl url profile peerProxyOrigin
  persistPeer crates.ulidFromString peers
    { peerAlias := none, did := peerDid, proxyUrl, agentName := some profile.agentName,
      displayName := some profile.humanName, framework := none, description := none,
      lastSyncedAtMs := some env.nowMs } env

/-- The code for an event that was read from the delivery. -/
def applyEvent (peers : PeerTable) (deliver : DeliverFrame) (event : PairAcceptedSystemEvent)
    (env : StatementEnv) : Except ApplyError (PeerTable × Awaiting) := do
  check (trim deliver.toAgentDid = event.initiatorAgentDid) .initiatorMismatch
  check (trim deliver.fromAgentDid = event.responderAgentDid) .responderMismatch
  let saved ← (persistConfirmedPeer crates url peers event.responderAgentDid
    { agentName := event.responderProfile.agentName,
      humanName := event.responderProfile.displayName,
      proxyOrigin := some event.responderProfile.proxyOrigin }
    (some event.responderProfile.proxyOrigin) env).mapError .peer
  return (saved.1, { deliver, event, peerAlias := saved.2.peerAlias })

/-- `apply_pair_accepted_system_delivery`, up to the request to the registry. It has nothing
to do where the result is `none`. -/
def applyPairAcceptedSystemDelivery (peers : PeerTable) (deliver : DeliverFrame)
    (env : StatementEnv) : Except ApplyError (Option (PeerTable × Awaiting)) :=
  if isTrustedPairAcceptedDelivery deliver then
    match parsePairAcceptedSystemEvent crates deliver.payload with
    | .error error => .error (.event error)
    | .ok none => .ok none
    | .ok (some event) => (applyEvent crates url peers deliver event env).map some
  else .ok none

end

def persistCanonicalPeerProfile (peers : PeerTable) (peerAlias : RString)
    (profile : RegistryAgentProfile) (env : StatementEnv) :
    Except PeerError (PeerTable × PeerRecord) := do
  let existing ← (getPeerByAlias peers peerAlias).elim (.error .aliasNotFound) .ok
  upsertPeer peers
    { peerAlias := existing.peerAlias, did := existing.did, proxyUrl := existing.proxyUrl,
      agentName := some profile.agentName, displayName := some profile.displayName,
      framework := profile.framework, description := none, lastSyncedAtMs := some env.nowMs } env

def buildNotificationMessage (event : PairAcceptedSystemEvent) (peerAlias : RString) : RString :=
  event.message.getD (rs "Clawdentity pairing accepted: " ++ event.responderProfile.agentName ++
    rs " (" ++ event.responderProfile.displayName ++ rs ") is now saved as peer alias " ++
    peerAlias ++ rs ".")

/-- An object of Rust's JSON with the fields in their order. -/
def rustObject (fields : List (String × RValue)) : RValue :=
  .obj (fields.map fun field => (rs field.1, field.2))

def buildNotificationPayload (event : PairAcceptedSystemEvent) (peerAlias : RString) : RValue :=
  rustObject [("type", .str (rs "clawdentity:pair-accepted")),
    ("event", .str PAIR_ACCEPTED_SYSTEM_EVENT_TYPE),
    ("message", .str (buildNotificationMessage event peerAlias)), ("peerAlias", .str peerAlias),
    ("pairAccepted", rustObject [("initiatorAgentDid", .str event.initiatorAgentDid),
      ("responderAgentDid", .str event.responderAgentDid),
      ("responderProfile", rustObject [("agentName", .str event.responderProfile.agentName),
        ("displayName", .str event.responderProfile.displayName),
        ("proxyOrigin", .str event.responderProfile.proxyOrigin)]),
      ("issuerProxyOrigin", .str event.issuerProxyOrigin),
      ("eventTimestampUtc", .str event.eventTimestampUtc)])]

/-- The address book after the registry has answered; a profile that could not be fetched,
or one with another DID, is not used. -/
def enrichPeer (peers : PeerTable) (call : Awaiting) (fetched : Option RegistryAgentProfile)
    (env : StatementEnv) : Except ApplyError PeerTable :=
  match fetched.filter fun profile => profile.agentDid = call.event.responderAgentDid with
  | none => .ok peers
  | some profile =>
      ((persistCanonicalPeerProfile peers call.peerAlias profile env).map Prod.fst).mapError .peer

/-- `apply_pair_accepted_system_delivery`, after the registry has answered; the delivery
that goes on has the payload of a notification. -/
def resumeAfterProfile (peers : PeerTable) (call : Awaiting)
    (fetched : Option RegistryAgentProfile) (env : StatementEnv) :
    Except ApplyError (PeerTable × DeliverFrame) := do
  let saved ← enrichPeer peers call fetched env
  return (saved, { call.deliver with payload := buildNotificationPayload call.event call.peerAlias })

/-! ## Interleaved deliveries -/

/-- A delivery that is under way or done; the frame is that of the delivery. -/
inductive Call
  | waiting (call : Awaiting)
  | done (deliver : DeliverFrame) (result : Except ApplyError Bool)

/-- The delivery that a call was made for. -/
def Call.deliver : Call → DeliverFrame
  | .waiting call => call.deliver
  | .done deliver _ => deliver

/-- What the registry answers, and how the statement goes. -/
structure Answer where
  fetched : Option RegistryAgentProfile
  env : StatementEnv

section
variable (crates : PairAcceptedSystem.Crates) (url : UrlCrate)

def startDelivery (peers : PeerTable) (deliver : DeliverFrame) (env : StatementEnv) :
    PeerTable × Call :=
  match applyPairAcceptedSystemDelivery crates url peers deliver env with
  | .error error => (peers, .done deliver (.error error))
  | .ok none => (peers, .done deliver (.ok false))
  | .ok (some (saved, call)) => (saved, .waiting call)

def resumeDelivery (peers : PeerTable) (call : Awaiting) (answer : Answer) : PeerTable × Call :=
  match resumeAfterProfile peers call answer.fetched answer.env with
  | .error error => (peers, .done call.deliver (.error error))
  | .ok (saved, _) => (saved, .done call.deliver (.ok true))

/-- The deliveries of a connector over its address book. -/
def deliveries : Program PeerTable Call (DeliverFrame × StatementEnv) Answer where
  start peers arg := some (startDelivery crates url peers arg.1 arg.2)
  resume peers call answer :=
    match call with
    | .waiting call => some (resumeDelivery peers call answer)
    | .done _ _ => none

end

/-! ## What a delivery changes -/

/-- The delivery has left the address book as it was, or it is a trusted one that carries an
event from its sender to its recipient, and it has changed the record of its sender only. -/
def ChangedBy (crates : PairAcceptedSystem.Crates) (deliver : DeliverFrame)
    (peers peers' : PeerTable) : Prop :=
  peers' = peers ∨
    isTrustedPairAcceptedDelivery deliver = true ∧
    (∃ event, parsePairAcceptedSystemEvent crates deliver.payload = .ok (some event) ∧
      event.initiatorAgentDid = trim deliver.toAgentDid ∧
      event.responderAgentDid = trim deliver.fromAgentDid) ∧
    OnlyRecordOf (trim deliver.fromAgentDid) peers peers'

/-- A delivery that waits has saved its sender, which is the responder of a trusted event. -/
structure Saved (crates : PairAcceptedSystem.Crates) (peers : PeerTable) (call : Awaiting) :
    Prop where
  trusted : isTrustedPairAcceptedDelivery call.deliver = true
  parsed : parsePairAcceptedSystemEvent crates call.deliver.payload = .ok (some call.event)
  initiator : call.event.initiatorAgentDid = trim call.deliver.toAgentDid
  responder : call.event.responderAgentDid = trim call.deliver.fromAgentDid
  row : ∃ row, peers.rows.lookup call.peerAlias = some row ∧
    row.did = trim call.deliver.fromAgentDid

section
variable {crates : PairAcceptedSystem.Crates} {url : UrlCrate} {peers peers' : PeerTable}
  {deliver : DeliverFrame} {call : Awaiting}

theorem Saved.mono (h : Saved crates peers call) {did : RString}
    (honly : OnlyRecordOf did peers peers') : Saved crates peers' call := by
  obtain ⟨row, hrow, hdid⟩ := h.row
  obtain ⟨row', hrow', hdid'⟩ := honly.did_kept hrow
  exact ⟨h.trusted, h.parsed, h.initiator, h.responder, row', hrow', hdid'.trans hdid⟩

theorem ChangedBy.only (h : ChangedBy crates deliver peers peers') :
    OnlyRecordOf (trim deliver.fromAgentDid) peers peers' := by
  rcases h with rfl | ⟨_, _, honly⟩
  · exact .refl _ _
  · exact honly

theorem persistConfirmedPeer_changes {did : RString} {profile : PairProfile}
    {origin : Option RString} {env : StatementEnv} {row : PeerRecord}
    (h : persistConfirmedPeer crates url peers did profile origin env = .ok (peers', row)) :
    OnlyRecordOf (trim did) peers peers' ∧ row.did = trim did ∧
      peers'.rows.lookup row.peerAlias = some row := by
  obtain ⟨proxyUrl, _, h⟩ := bind_eq_ok.mp h
  exact persistPeer_changes h rfl

/-- **The code before the registry is asked.** -/
theorem applyPairAccepted_changes {env : StatementEnv}
    (h : applyPairAcceptedSystemDelivery crates url peers deliver env =
      .ok (some (peers', call))) :
    call.deliver = deliver ∧ ChangedBy crates deliver peers peers' ∧ Saved crates peers' call := by
  unfold applyPairAcceptedSystemDelivery at h
  split at h
  case isFalse => cases h
  rename_i htrusted
  split at h
  · cases h
  · cases h
  · rename_i event hevent
    obtain ⟨⟨peers₁, call₁⟩, hevent', heq⟩ := map_eq_ok.mp h
    cases heq
    simp only [applyEvent, bind_eq_ok, check_eq_ok, decide_eq_true_eq, mapError_eq_ok] at hevent'
    obtain ⟨_, hto, _, hfrom, ⟨peers₂, row⟩, hsave, heq⟩ := hevent'
    cases heq
    obtain ⟨honly, hdid, hrow⟩ := persistConfirmedPeer_changes hsave
    rw [← hfrom, trim_trim] at honly hdid
    exact ⟨rfl, .inr ⟨htrusted, ⟨event, hevent, hto.symm, hfrom.symm⟩, honly⟩,
      htrusted, hevent, hto.symm, hfrom.symm, row, hrow, hdid⟩

/-- **The code after it.** -/
theorem resumeAfterProfile_changes {fetched : Option RegistryAgentProfile} {env : StatementEnv}
    {frame : DeliverFrame} (hsaved : Saved crates peers call)
    (h : resumeAfterProfile peers call fetched env = .ok (peers', frame)) :
    ChangedBy crates call.deliver peers peers' := by
  obtain ⟨saved, hprofile, heq⟩ := bind_eq_ok.mp h
  cases heq
  unfold enrichPeer at hprofile
  split at hprofile
  · cases hprofile
    exact .inl rfl
  · rename_i profile _
    rw [mapError_eq_ok] at hprofile
    obtain ⟨⟨peers₁, row₁⟩, hpersist, heq⟩ := map_eq_ok.mp hprofile
    cases heq
    obtain ⟨existing, hexisting, hupsert⟩ := bind_eq_ok.mp hpersist
    obtain ⟨row, hrow, hdid⟩ := hsaved.row
    -- The alias is a key of the table, so the row that is read is the one that was saved.
    have hlookup : peers.rows.lookup (trim call.peerAlias) = some existing := by
      rw [elim_eq_ok, getPeerByAlias] at hexisting
      split at hexisting
      · cases hexisting
      · exact hexisting
    obtain ⟨halias, htrim⟩ := peers.keyed _ _ hrow
    rw [htrim, hrow] at hlookup
    obtain rfl : row = existing := Option.some.inj hlookup
    have htrimmed : trim row.did = trim call.deliver.fromAgentDid := by
      rw [hdid, trim_trim]
    obtain ⟨honly, _, _⟩ := upsertPeer_changes hupsert (by
      intro old hold
      rw [halias, htrim, hrow] at hold
      cases hold
      rw [htrimmed, hdid])
    rw [htrimmed] at honly
    exact .inr ⟨hsaved.trusted, ⟨call.event, hsaved.parsed, hsaved.initiator, hsaved.responder⟩,
      honly⟩

/-! ## Runs -/

/-- The deliveries that wait have saved their senders. -/
def AllSaved (crates : PairAcceptedSystem.Crates) (p : Pool PeerTable Call) : Prop :=
  ∀ call, .waiting call ∈ p.calls → Saved crates p.shared call

/-- What a move does for the delivery of its call. -/
structure Applied (crates : PairAcceptedSystem.Crates) (deliver : DeliverFrame) (peers : PeerTable)
    (r : PeerTable × Call) : Prop where
  deliver_eq : r.2.deliver = deliver
  changed : ChangedBy crates deliver peers r.1
  saved : ∀ call, r.2 = .waiting call → Saved crates r.1 call

theorem startDelivery_applied (crates : PairAcceptedSystem.Crates) (url : UrlCrate)
    (peers : PeerTable) (deliver : DeliverFrame) (env : StatementEnv) :
    Applied crates deliver peers (startDelivery crates url peers deliver env) := by
  unfold startDelivery
  split
  · exact ⟨rfl, .inl rfl, fun _ h => by cases h⟩
  · exact ⟨rfl, .inl rfl, fun _ h => by cases h⟩
  · rename_i saved call happly
    obtain ⟨hdeliver, hchanged, hsaved⟩ := applyPairAccepted_changes happly
    refine ⟨hdeliver, hchanged, ?_⟩
    intro call' h
    cases h
    exact hsaved

theorem resumeDelivery_applied (hsaved : Saved crates peers call) (answer : Answer) :
    Applied crates call.deliver peers (resumeDelivery peers call answer) := by
  unfold resumeDelivery
  split
  · exact ⟨rfl, .inl rfl, fun _ h => by cases h⟩
  · rename_i saved frame hresume
    exact ⟨rfl, resumeAfterProfile_changes hsaved hresume, fun _ h => by cases h⟩

/-- The call that a move starts or resumes is made for the delivery. -/
def MovesFor (p : Pool PeerTable Call) (deliver : DeliverFrame) :
    Move (DeliverFrame × StatementEnv) Answer → Prop
  | .start arg => arg.1 = deliver
  | .resume i _ => ∃ call, p.calls[i]? = some call ∧ call.deliver = deliver

/-- **One move.** -/
theorem allSaved_step {p p' : Pool PeerTable Call} {e : Move (DeliverFrame × StatementEnv) Answer}
    (hp : AllSaved crates p) (hstep : (deliveries crates url).step p e = some p') :
    AllSaved crates p' ∧
      ∀ deliver, MovesFor p deliver e → ChangedBy crates deliver p.shared p'.shared := by
  rcases Program.step_cases hstep with
    ⟨⟨deliver, env⟩, s', c', rfl, hstart, rfl⟩ | ⟨i, answer, c, s', c', rfl, hi, hresume, rfl⟩
  · have happlied : Applied crates deliver p.shared (s', c') := by
      rw [← Option.some.inj hstart]
      exact startDelivery_applied crates url p.shared deliver env
    refine ⟨?_, ?_⟩
    · intro call hcall
      rcases List.mem_append.mp hcall with hcall | hcall
      · exact (hp call hcall).mono happlied.changed.only
      · exact happlied.saved call (List.mem_singleton.mp hcall).symm
    · intro deliver' hfor
      cases hfor
      exact happlied.changed
  · cases c with
    | done deliver result => cases hresume
    | waiting call =>
        have hsaved := hp call (List.mem_of_getElem? hi)
        have happlied : Applied crates call.deliver p.shared (s', c') := by
          rw [← Option.some.inj hresume]
          exact resumeDelivery_applied hsaved answer
        refine ⟨?_, ?_⟩
        · intro call' hcall
          rcases List.mem_or_eq_of_mem_set hcall with hcall | hcall
          · exact (hp call' hcall).mono happlied.changed.only
          · exact happlied.saved call' hcall.symm
        · intro deliver hfor
          obtain ⟨c, hc, hdeliver⟩ := hfor
          cases hi.symm.trans hc
          rw [← hdeliver]
          exact happlied.changed

/-- **Every move of every run** changes the address book for its delivery only. -/
theorem delivery_changes {peers : PeerTable} {p p' : Pool PeerTable Call}
    {moves : List (Move (DeliverFrame × StatementEnv) Answer)}
    {e : Move (DeliverFrame × StatementEnv) Answer} {deliver : DeliverFrame}
    (hrun : exec (deliveries crates url).step ⟨peers, []⟩ moves = some p)
    (hstep : (deliveries crates url).step p e = some p') (hfor : MovesFor p deliver e) :
    ChangedBy crates deliver p.shared p'.shared := by
  have hp : AllSaved crates p := by
    refine exec_invariant_of_step (AllSaved crates) (fun _ _ _ hi h => (allSaved_step hi h).1) ?_ hrun
    intro call hcall
    cases hcall
  exact (allSaved_step hp hstep).2 deliver hfor

end

end Clawdentity.Rust.SystemDelivery
