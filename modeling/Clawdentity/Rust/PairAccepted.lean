import Clawdentity.Proxy.PairAcceptedEvent
import Clawdentity.Rust.Identifiers
import Clawdentity.Rust.Serde

/-!
# The pairing event in the Rust connector

`parse_pair_accepted_system_event` reads the system payload of a delivery. Its profile
struct has a required field `displayName`, while the proxy writes the name of the
responder's owner as `humanName`: no event of the proxy is decoded.

## Main definitions

* `parsePairAcceptedSystemEvent` — the Rust decoder.
* `Recovers` — the connector recovers what the proxy has published.
* `pair_accepted_never_recovered` — it never does.
-/

namespace Clawdentity.Rust.PairAcceptedSystem

open Js Lib
open PairAccepted (PairAcceptedEvent publishPairAcceptedEvent parsePairAcceptedQueueEvent
  toSystemPayload PAIR_ACCEPTED_EVENT_TYPE)
open TrustState (StoredConfirmedPairingTicket)

/-! ## The decoder -/

/-- The functions of other crates that the decoder calls. -/
structure Crates where
  /-- `Ulid::from_string(text).is_ok()`. -/
  ulidFromString : RString → Bool
  /-- `reqwest::Url::parse`: the scheme, and the serialised origin. -/
  parseUrl : RString → Option (RString × RString)
  /-- `DateTime::parse_from_rfc3339`, written in UTC with milliseconds. -/
  toRfc3339Millis : RString → Option RString

structure PairAcceptedSystemProfile where
  agentName : RString
  displayName : RString
  proxyOrigin : RString
  deriving DecidableEq

structure PairAcceptedSystemEvent where
  eventType : RString
  initiatorAgentDid : RString
  responderAgentDid : RString
  responderProfile : PairAcceptedSystemProfile
  issuerProxyOrigin : RString
  eventTimestampUtc : RString
  message : Option RString
  deriving DecidableEq

inductive EventError
  /-- `pair.accepted system payload is invalid`, with the error of `serde_json`. -/
  | invalidPayload
  | unsupportedType
  | required (field : String)
  | invalidOrigin (field : String)
  | invalidDid (value : RString)
  | invalidTimestamp
  deriving DecidableEq

def PAIR_ACCEPTED_SYSTEM_EVENT_TYPE : RString := rs "pair.accepted"

/-- The derived `Deserialize` of the profile, for the map form. -/
def profileOfValue (v : RValue) : Option PairAcceptedSystemProfile := do
  let agentName ← getString v "agentName"
  let displayName ← getString v "displayName"
  let proxyOrigin ← getString v "proxyOrigin"
  return { agentName, displayName, proxyOrigin }

/-- `serde_json::from_value::<PairAcceptedSystemEvent>`. -/
def eventOfValue (v : RValue) : Option PairAcceptedSystemEvent := do
  let eventType ← getString v "type"
  let initiatorAgentDid ← getString v "initiatorAgentDid"
  let responderAgentDid ← getString v "responderAgentDid"
  let responderProfile ← (v.get? (rs "responderProfile")).bind profileOfValue
  let issuerProxyOrigin ← getString v "issuerProxyOrigin"
  let eventTimestampUtc ← getString v "eventTimestampUtc"
  let message ← getOptString v "message"
  return { eventType, initiatorAgentDid, responderAgentDid, responderProfile, issuerProxyOrigin,
           eventTimestampUtc, message }

def normalizeNonEmpty (value : RString) (field : String) : Except EventError RString :=
  if trim value = [] then .error (.required field) else .ok (trim value)

section
variable (crates : Crates)

def normalizeAgentDid (value : RString) (field : String) : Except EventError RString := do
  let normalized ← normalizeNonEmpty value field
  check (isAgentDid crates.ulidFromString normalized) (.invalidDid normalized)
  return normalized

def normalizeProxyOrigin (value : RString) (field : String) : Except EventError RString := do
  let normalized ← normalizeNonEmpty value field
  match crates.parseUrl normalized with
  | none => .error (.invalidOrigin field)
  | some (scheme, origin) =>
      check (scheme = rs "https" || scheme = rs "http") (.invalidOrigin field)
      return origin

def normalizeEventTimestampUtc (value : RString) : Except EventError RString := do
  let normalized ← normalizeNonEmpty value "eventTimestampUtc"
  match crates.toRfc3339Millis normalized with
  | none => .error .invalidTimestamp
  | some text => return text

def normalizeOptionalMessage (value : Option RString) : Option RString :=
  (value.map trim).filter fun text => !text.isEmpty

def normalizePairAcceptedEvent (raw : PairAcceptedSystemEvent) :
    Except EventError PairAcceptedSystemEvent := do
  check (trim raw.eventType = PAIR_ACCEPTED_SYSTEM_EVENT_TYPE) .unsupportedType
  let initiatorAgentDid ← normalizeAgentDid crates raw.initiatorAgentDid "initiatorAgentDid"
  let responderAgentDid ← normalizeAgentDid crates raw.responderAgentDid "responderAgentDid"
  let agentName ← normalizeNonEmpty raw.responderProfile.agentName "responderProfile.agentName"
  let displayName ← normalizeNonEmpty raw.responderProfile.displayName
    "responderProfile.displayName"
  let proxyOrigin ← normalizeProxyOrigin crates raw.responderProfile.proxyOrigin
    "responderProfile.proxyOrigin"
  let issuerProxyOrigin ← normalizeProxyOrigin crates raw.issuerProxyOrigin "issuerProxyOrigin"
  let eventTimestampUtc ← normalizeEventTimestampUtc crates raw.eventTimestampUtc
  return { eventType := PAIR_ACCEPTED_SYSTEM_EVENT_TYPE, initiatorAgentDid, responderAgentDid,
           responderProfile := { agentName, displayName, proxyOrigin }, issuerProxyOrigin,
           eventTimestampUtc, message := normalizeOptionalMessage raw.message }

/-- `parse_pair_accepted_system_event`. -/
def parsePairAcceptedSystemEvent (payload : RValue) :
    Except EventError (Option PairAcceptedSystemEvent) :=
  match payload.get? (rs "system") with
  | some (.obj fields) =>
      let system : RValue := .obj fields
      if (getString system "type").map trim ≠ some PAIR_ACCEPTED_SYSTEM_EVENT_TYPE then .ok none
      else
        match eventOfValue system with
        | none => .error .invalidPayload
        | some parsed => (normalizePairAcceptedEvent crates parsed).map some
  | _ => .ok none

end

/-! ## What the connector recovers -/

/-- The two events have the same contents; the human name is the display name. -/
def Matches (event : PairAcceptedEvent) (recovered : PairAcceptedSystemEvent) : Prop :=
  ofJs event.initiatorAgentDid = some recovered.initiatorAgentDid ∧
  ofJs event.responderAgentDid = some recovered.responderAgentDid ∧
  ofJs event.responderProfile.agentName = some recovered.responderProfile.agentName ∧
  ofJs event.responderProfile.humanName = some recovered.responderProfile.displayName ∧
  ofJs event.responderProfile.proxyOrigin = some recovered.responderProfile.proxyOrigin ∧
  ofJs event.issuerProxyOrigin = some recovered.issuerProxyOrigin ∧
  ofJs event.eventTimestampUtc = some recovered.eventTimestampUtc ∧
  ofJsOpt event.message = some recovered.message

section
variable (platform : PairAccepted.Platform) (serde : Serde) (crates : Crates)

/-- The event goes over the queue and into the delivery, and the connector decodes it
to what it was. -/
def Recovers (event : PairAcceptedEvent) : Prop :=
  ∃ queued payload recovered,
    parsePairAcceptedQueueEvent platform event.toJson = .ok queued ∧
    serde.read (toSystemPayload queued) = some payload ∧
    parsePairAcceptedSystemEvent crates payload = .ok (some recovered) ∧
    Matches event recovered

variable {platform serde crates}

/-- An object that stands in an object that was read was read itself. -/
theorem object_read {fields inner : List (String × Option Value)} {w : RValue} {key : String}
    (h : (object fields).traverse ofJs serde.number = some w)
    (hfield : Json.lookupField key fields = some (object inner)) :
    ∃ v, (object inner).traverse ofJs serde.number = some v ∧ w.get? (rs key) = some v := by
  have hall := (Json.traverse_object_isSome ofJs_js fields).mp (Option.isSome_of_eq_some h)
  have hsome := hall _ (Json.mem_of_lookupField hfield) _ rfl
  obtain ⟨v, hv⟩ := Option.isSome_iff_exists.mp hsome
  refine ⟨v, hv, ?_⟩
  rw [get?_read h, hfield]
  exact hv

/-- The profile that the proxy writes has no display name. -/
theorem profileOfValue_read {profile : PairAccepted.PairAcceptedResponderProfile} {v : RValue}
    (h : (object profile.fields).traverse ofJs serde.number = some v) :
    profileOfValue v = none := by
  have hname : getString v "displayName" = none := by
    have hfield : Json.lookupField "displayName" profile.fields = none := by
      simp [PairAccepted.PairAcceptedResponderProfile.fields]
    rw [getString, get?_read h, hfield]
    rfl
  cases hagent : getString v "agentName" <;> simp [profileOfValue, hname, hagent]

theorem eventOfValue_read {event : PairAcceptedEvent} {v : RValue}
    (h : (object event.fields).traverse ofJs serde.number = some v) : eventOfValue v = none := by
  have hfield : Json.lookupField "responderProfile" event.fields =
      some (object event.responderProfile.fields) := by
    simp [PairAcceptedEvent.fields]
  obtain ⟨profile, hprofile, hget⟩ := object_read h hfield
  have hnone : (v.get? (rs "responderProfile")).bind profileOfValue = none := by
    rw [hget]
    exact profileOfValue_read hprofile
  cases htype : getString v "type" <;> cases hinitiator : getString v "initiatorAgentDid" <;>
    cases hresponder : getString v "responderAgentDid" <;>
    simp [eventOfValue, hnone, htype, hinitiator, hresponder]

/-- **The decoder fails on every system payload of the proxy.** -/
theorem parse_toSystemPayload {event : PairAcceptedEvent} {payload : RValue}
    (h : serde.read (toSystemPayload event) = some payload) :
    parsePairAcceptedSystemEvent crates payload = .error .invalidPayload := by
  have hread : (toSystemPayload event).traverse ofJs serde.number = some payload := by
    unfold Serde.read at h
    by_cases hdepth : (toSystemPayload event).depth ≤ serde.maxDepth
    · rwa [if_pos hdepth] at h
    · rw [if_neg hdepth] at h
      cases h
  have hfield : Json.lookupField "system" [("system", some (object event.fields))] =
      some (object event.fields) := by simp
  obtain ⟨system, hsystem, hget⟩ := object_read hread hfield
  have htype : getString system "type" = some PAIR_ACCEPTED_SYSTEM_EVENT_TYPE := by
    rw [getString_read hsystem (s := PAIR_ACCEPTED_EVENT_TYPE) (by simp [PairAcceptedEvent.fields])]
    exact ofJs_js "pair.accepted"
  have htrim : trim PAIR_ACCEPTED_SYSTEM_EVENT_TYPE = PAIR_ACCEPTED_SYSTEM_EVENT_TYPE := by
    decide
  obtain ⟨entries, hentries, rfl⟩ := Option.map_eq_some_iff.mp hsystem
  simp [parsePairAcceptedSystemEvent, hget, htype, htrim, eventOfValue_read hsystem]

/-- **No published event is recovered by the connector.** For every confirmed ticket
whose event the proxy puts on the queue, the decoder answers an error on every payload
that the queue consumer delivers. -/
theorem pair_accepted_never_recovered (platform : PairAccepted.Platform) (serde : Serde)
    (crates : Crates) (ticket : StoredConfirmedPairingTicket) (eventTimestampUtc : JsString)
    (event : PairAcceptedEvent) :
    publishPairAcceptedEvent platform ticket eventTimestampUtc = .ok (some event) →
      ¬ Recovers platform serde crates event ∧
      ∀ queued payload, parsePairAcceptedQueueEvent platform event.toJson = .ok queued →
        serde.read (toSystemPayload queued) = some payload →
        parsePairAcceptedSystemEvent crates payload = .error .invalidPayload := by
  intro _
  refine ⟨?_, ?_⟩
  · intro hrecovers
    obtain ⟨queued, payload, recovered, _, hread, hparse, _⟩ := hrecovers
    rw [parse_toSystemPayload hread] at hparse
    cases hparse
  · intro queued payload _ hread
    exact parse_toSystemPayload hread

end

/-! ### A pairing with a responder at another proxy -/

/-- The functions of the platform, as they answer on the example. -/
def examplePlatform : PairAccepted.Platform where
  parseUrl text := some ⟨js "https:", text⟩
  toIsoString text := some text

def exampleCrates : Crates where
  ulidFromString := exampleUlidFromString
  parseUrl text := some (rs "https", text)
  toRfc3339Millis text := some text

def exampleTicket : StoredConfirmedPairingTicket where
  ticket := js "clwpair1_e30"
  expiresAtMs := 1700000300000
  initiatorAgentDid := js "did:cdi:registry.example.com:agent:01HF7YAT00W6W7CM7N3W5FDXA0"
  initiatorProfile := ⟨js "kai", js "Ravi", none⟩
  responderAgentDid := js "did:cdi:registry.example.com:agent:01HF7YAT00W6W7CM7N3W5FDXB0"
  responderProfile := ⟨js "beta", js "Asha", some (js "https://beta.example")⟩
  issuerProxyUrl := js "https://p.example"
  confirmedAtMs := 1700000000000

def exampleEvent : PairAcceptedEvent where
  initiatorAgentDid := exampleTicket.initiatorAgentDid
  responderAgentDid := exampleTicket.responderAgentDid
  responderProfile := ⟨js "beta", js "Asha", js "https://beta.example"⟩
  issuerProxyOrigin := js "https://p.example"
  eventTimestampUtc := js "2023-11-14T22:13:20.000Z"
  message := some PairAccepted.PAIR_ACCEPTED_NOTIFICATION_MESSAGE

theorem exampleTicket_published :
    publishPairAcceptedEvent examplePlatform exampleTicket (js "2023-11-14T22:13:20.000Z") =
      .ok (some exampleEvent) := by
  decide

/-- The event of the example is published and refused. -/
theorem exampleEvent_not_recovered :
    publishPairAcceptedEvent examplePlatform exampleTicket (js "2023-11-14T22:13:20.000Z") =
        .ok (some exampleEvent) ∧
      ¬ Recovers examplePlatform exampleSerde exampleCrates exampleEvent :=
  ⟨exampleTicket_published,
    (pair_accepted_never_recovered examplePlatform exampleSerde exampleCrates exampleTicket
      (js "2023-11-14T22:13:20.000Z") exampleEvent exampleTicket_published).1⟩

/-- **A published event can be lost on the connector.** -/
theorem not_pair_accepted_recovered :
    ¬ ∀ (platform : PairAccepted.Platform) (serde : Serde) (crates : Crates)
      (ticket : StoredConfirmedPairingTicket) (eventTimestampUtc : JsString)
      (event : PairAcceptedEvent),
      publishPairAcceptedEvent platform ticket eventTimestampUtc = .ok (some event) →
      Recovers platform serde crates event := by
  intro h
  obtain ⟨queued, payload, recovered, _, hread, hparse, _⟩ := h examplePlatform exampleSerde
    exampleCrates exampleTicket _ exampleEvent exampleTicket_published
  rw [parse_toSystemPayload hread] at hparse
  cases hparse

end Clawdentity.Rust.PairAcceptedSystem
