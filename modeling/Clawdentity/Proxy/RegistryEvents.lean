import Clawdentity.Protocol.AgentAuthEvents
import Clawdentity.Proxy.TrustOperations

/-!
# Events of the registry

The proxy takes an event of a revoked auth session off its queue and, where the agent itself
was revoked, marks the agent as revoked in its trust state.

## Main definitions

* `parseRegistryRevocationEvent` — the DID of a revoked agent; `none` for other reasons.
* `handleRegistryRevocationEvent` — the call of the trust state.
-/

namespace Clawdentity.RegistryEvents

open Js Lib Protocol TrustState

def isObject : Value → Bool
  | .obj _ => true
  | _ => false

def parseRegistryRevocationEvent (payload : Value) : Except EventError (Option JsString) := do
  check (isObject payload) (.message "Registry event payload must be an object")
  check (payload.get? (js "type") = some (.str AGENT_AUTH_REVOKED_EVENT_TYPE))
    (.message "Unsupported registry event type")
  let data := payload.get? (js "data")
  check (data.any isObjectOrArray)
    (.message "Registry event payload must include an object data field")
  if data.bind (fun v => v.get? (js "reason")) ≠
      some (.str AGENT_AUTH_REVOKED_REASON_AGENT_REVOKED) then
    return none
  else
    some <$> parseAgentAuthRevokedMetadata (data.bind fun v => v.get? (js "metadata"))

/-- The call of the trust state, which reads its own clock. -/
def handleRegistryRevocationEvent (platform : PairingTicket.Platform) (s : TrustStorage)
    (agentDid : JsString) (nowUtcMs : ℕ) : TrustStorage × Reply :=
  handleMarkAgentRevoked platform s
    ⟨some (object [("agentDid", some (.str agentDid))]), nowUtcMs⟩

/-- The body with an agent's DID names this agent. -/
theorem revokedAgent_body {agentDid : JsString} (h : isAgentDid agentDid = true) (nowUtcMs : ℕ) :
    ConfirmRequest.revokedAgent ⟨some (object [("agentDid", some (.str agentDid))]), nowUtcMs⟩ =
      some agentDid := by
  have htrim : trim agentDid = agentDid := (isAgentDid_graphic h).trim_eq
  have hnonempty : isNonEmptyString agentDid = true := by
    rw [isNonEmptyString, htrim]
    simpa using ne_nil_of_isAgentDid h
  have hfield : ConfirmRequest.field
      ⟨some (object [("agentDid", some (.str agentDid))]), nowUtcMs⟩ "agentDid" =
        some (.str agentDid) := get?_object "agentDid" _
  simp [ConfirmRequest.revokedAgent, ConfirmRequest.text, hfield, Json.str?, Option.filter_some,
    hnonempty, htrim, h]

/-- **The agent is marked**: while the marker lives, the trust state answers that the agent is
revoked. -/
theorem revoked_after_handle {platform : PairingTicket.Platform} (s : TrustStorage)
    {agentDid : JsString} (h : isAgentDid agentDid = true) {nowUtcMs later : ℕ}
    (hclock : (nowUtcMs : ℤ) + REVOKED_AGENT_MARKER_TTL_MS ≤ TrustState.MAX_SAFE_INTEGER)
    (hlater : (later : ℤ) < nowUtcMs + REVOKED_AGENT_MARKER_TTL_MS) :
    (handleIsAgentRevoked platform
      (handleRegistryRevocationEvent platform s agentDid nowUtcMs).1
      ⟨some (object [("agentDid", some (.str agentDid))]), later⟩).2 = .revoked true := by
  have httl : (0 : ℤ) < REVOKED_AGENT_MARKER_TTL_MS := by decide
  have hnonempty : isNonEmptyString agentDid = true := by
    rw [isNonEmptyString, (isAgentDid_graphic h).trim_eq]
    simpa using ne_nil_of_isAgentDid h
  have hnumber : ∀ nowUtcMs key, key ≠ "agentDid" → ConfirmRequest.positiveInt
      ⟨some (object [("agentDid", some (.str agentDid))]), nowUtcMs⟩ key = some none := by
    intro nowUtcMs key hkey
    have hfield : ConfirmRequest.field
        ⟨some (object [("agentDid", some (.str agentDid))]), nowUtcMs⟩ key = none := by
      simp only [ConfirmRequest.field, Option.bind_some, get?_object]
      simp [Json.lookupField, hkey.symm]
    simp only [ConfirmRequest.positiveInt, hfield]
  have hmarked : (handleRegistryRevocationEvent platform s agentDid nowUtcMs).1.revokedAgents =
      .markers ((pruneExpiredRevokedAgents (loadRevokedAgents s) nowUtcMs).insert agentDid
        (nowUtcMs + REVOKED_AGENT_MARKER_TTL_MS)) := by
    simp only [handleRegistryRevocationEvent, handleMarkAgentRevoked, revokedAgent_body h,
      hnumber nowUtcMs "nowMs" (by decide), hnumber nowUtcMs "ttlMs" (by decide),
      Option.getD_none]
    rw [if_pos ⟨hclock, by omega⟩]
    rfl
  have hlookup : (pruneExpiredRevokedAgents (loadRevokedAgents
      (handleRegistryRevocationEvent platform s agentDid nowUtcMs).1) later).lookup agentDid =
        some (nowUtcMs + REVOKED_AGENT_MARKER_TTL_MS) := by
    have hpositive : (0 : ℤ) < nowUtcMs + REVOKED_AGENT_MARKER_TTL_MS := by omega
    have hvalid := ((validMarkers_load s).prune nowUtcMs).insert hnonempty hpositive
    rw [loadRevokedAgents_markers hmarked hvalid]
    exact Table.lookup_keep_of_pos (AList.lookup_insert _) (by simpa using hlater)
  simp only [handleIsAgentRevoked, revokedAgent_body h, hnumber later "nowMs" (by decide),
    Option.getD_none, hlookup, Option.getD_some]
  rw [decide_eq_true hlater]

end Clawdentity.RegistryEvents
