import Clawdentity.Js.Value
import Clawdentity.Lib.Fallible
import Clawdentity.Protocol.Identifiers

/-!
# Events about an agent's auth session

The names of the protocol package for these events, and the metadata of a revocation.

## Main definitions

* `createAgentAuthRevokedMetadata`, `parseAgentAuthRevokedMetadata` — the two ends of the
  metadata.
-/

namespace Clawdentity.Protocol

open Js Lib

def AGENT_AUTH_ISSUED_EVENT_TYPE : JsString := js "agent.auth.issued"
def AGENT_AUTH_REFRESHED_EVENT_TYPE : JsString := js "agent.auth.refreshed"
def AGENT_AUTH_REVOKED_EVENT_TYPE : JsString := js "agent.auth.revoked"
def AGENT_AUTH_REFRESH_REJECTED_EVENT_TYPE : JsString := js "agent.auth.refresh_rejected"
def AGENT_AUTH_REVOKED_REASON_AGENT_REVOKED : JsString := js "agent_revoked"

/-- `createAgentAuthRevokedMetadata`; it throws where the text is no agent DID. -/
def createAgentAuthRevokedMetadata (agentDid : JsString) : Option Value :=
  if isAgentDid (trim agentDid) then some (object [("agentDid", some (.str (trim agentDid)))])
  else none

/-- The error of an event that is thrown. -/
inductive EventError
  | message (text : String)
  | invalidDid (value : JsString)
  deriving DecidableEq

/-- `typeof value === "object" && value !== null`. -/
def isObjectOrArray : Value → Bool
  | .obj _ => true
  | .arr _ => true
  | _ => false

/-- `parseAgentAuthRevokedMetadata`, of a value that may be undefined. -/
def parseAgentAuthRevokedMetadata (metadata : Option Value) : Except EventError JsString := do
  check (metadata.any isObjectOrArray)
    (.message "Registry revocation event metadata must be an object")
  let agentDid ← ((metadata.bind fun v => getStr v "agentDid").filter isNonEmptyString).elim
    (.error (.message "Registry revocation event metadata must include a non-empty agentDid"))
    .ok
  check (isAgentDid (trim agentDid)) (.invalidDid (trim agentDid))
  return trim agentDid

/-- **What is created for an agent DID is parsed as this DID.** -/
theorem parse_createAgentAuthRevokedMetadata {agentDid : JsString}
    (h : isAgentDid agentDid = true) :
    parseAgentAuthRevokedMetadata (createAgentAuthRevokedMetadata agentDid) = .ok agentDid := by
  have htrim : trim agentDid = agentDid := (isAgentDid_graphic h).trim_eq
  have hcreate : createAgentAuthRevokedMetadata agentDid =
      some (object [("agentDid", some (.str agentDid))]) := by
    rw [createAgentAuthRevokedMetadata, htrim, if_pos h]
  have hfield : getStr (object [("agentDid", some (.str agentDid))]) "agentDid" =
      some agentDid := getStr_object rfl
  have hnonempty : isNonEmptyString agentDid = true := by
    rw [isNonEmptyString, htrim]
    simpa using ne_nil_of_isAgentDid h
  have hread : (some (object [("agentDid", some (.str agentDid))]) |>.bind fun v =>
      getStr v "agentDid").filter isNonEmptyString = some agentDid := by
    rw [Option.bind_some, hfield, Option.filter_some, if_pos hnonempty]
  simp only [hcreate, parseAgentAuthRevokedMetadata, bind_eq_ok, check_eq_ok, elim_eq_ok]
  exact ⟨⟨⟩, rfl, agentDid, hread, ⟨⟩, by rw [htrim, h], by rw [htrim]; rfl⟩

end Clawdentity.Protocol
