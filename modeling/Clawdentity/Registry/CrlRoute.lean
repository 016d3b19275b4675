import Clawdentity.Sdk.CrlJwt
import Mathlib.Data.List.Sort

/-!
# The revocation list of the registry

`GET /v1/crl`: the rows of `revocations` with the DIDs of their agents, as a signed list.

The parser of dates is a parameter. The issuer is the one that the request and the configuration
give, and the rate limit is left out.

## Main definitions

* `crlSnapshot` — the rows in the order of the query.
* `buildCrlClaims` — the claims before they are checked.
* `getCrl` — the route.
-/

namespace Clawdentity.CrlRoute

open Js Protocol CrlJwt

/-! ## The tables -/

structure RevocationRow where
  id : JsString
  jti : JsString
  agentId : JsString
  reason : Option JsString
  revokedAt : JsString
  deriving DecidableEq

structure AgentRow where
  id : JsString
  did : JsString
  deriving DecidableEq

structure Database where
  revocations : List RevocationRow
  agents : List AgentRow
  deriving DecidableEq

/-- The `jti`s in the table. -/
def Database.revokedJtis (db : Database) : List JsString := db.revocations.map RevocationRow.jti

structure CrlSnapshotRow where
  id : JsString
  jti : JsString
  reason : Option JsString
  revokedAt : JsString
  agentDid : JsString
  deriving DecidableEq

/-- The row of a revocation, joined with its agent. -/
def snapshotRow (agents : List AgentRow) (row : RevocationRow) : Option CrlSnapshotRow :=
  (agents.find? fun agent => agent.id = row.agentId).map fun agent =>
    { id := row.id, jti := row.jti, reason := row.reason, revokedAt := row.revokedAt
      agentDid := agent.did }

def textBefore (a b : JsString) : Bool := List.lex a b fun u v => decide (u < v)

/-- `order by revoked_at desc, id desc`. -/
def snapshotOrder (a b : CrlSnapshotRow) : Bool :=
  textBefore b.revokedAt a.revokedAt || (a.revokedAt = b.revokedAt && !textBefore a.id b.id)

def crlSnapshot (db : Database) : List CrlSnapshotRow :=
  (db.revocations.filterMap (snapshotRow db.agents)).insertionSort fun a b => snapshotOrder a b

/-! ## The keys -/

/-- A key in `REGISTRY_SIGNING_KEYS`. -/
structure RegistrySigningKey where
  kid : JsString
  x : JsString
  active : Bool
  deriving DecidableEq

/-- The keys that pass `registrySigningKeysSchema`. -/
structure RegistrySigningKeys where
  keys : List RegistrySigningKey
  kid_ne : ∀ key ∈ keys, key.kid ≠ []
  kid_nodup : (keys.map RegistrySigningKey.kid).Nodup

/-- The `kid` of `resolveRegistrySigner`; `none` where it throws. -/
def findMatchingActiveKey (keys : List RegistrySigningKey) (publicKey : JsString) :
    Option RegistrySigningKey :=
  (keys.filter RegistrySigningKey.active).find? fun key => key.x = publicKey

/-! ## The route -/

def CRL_TTL_SECONDS : ℕ := 300 + 60 + 30

/-- `Date.parse`; `none` where it answers no finite number. -/
abbrev DateParse := JsString → Option ℤ

/-- What a request meets: the clock, the id that is generated, the issuer and the keys. -/
structure CrlEnv where
  nowMs : ℕ
  crlJti : JsString
  issuer : JsString
  signingKeys : RegistrySigningKeys
  keypair : Ed25519Keypair

inductive CrlError
  /-- `CRL_NOT_FOUND`, 404. -/
  | notFound
  /-- `CONFIG_VALIDATION_FAILED`, 500. -/
  | signingConfig
  /-- `CRL_BUILD_FAILED`, 500. -/
  | buildFailed
  /-- The claims are not valid, 500. -/
  | internal
  deriving DecidableEq

/-- The entry of a row. -/
def revocationObject (row : CrlSnapshotRow) (revokedAt : ℤ) : Value :=
  object
    [("jti", some (.str row.jti)), ("agentDid", some (.str row.agentDid)),
      ("revokedAt", some (.num revokedAt)),
      ("reason", (row.reason.filter fun reason => !reason.isEmpty).map .str)]

section
variable (toLowerCase : JsString → JsString) (dateParse : DateParse) (jose : Jose)

/-- `none` where it throws. -/
def parseRevokedAtSeconds (revokedAtIso : JsString) : Option ℤ :=
  (dateParse revokedAtIso).map fun epochMillis => epochMillis / 1000

def buildRevocation (row : CrlSnapshotRow) : Option Value :=
  (parseRevokedAtSeconds dateParse row.revokedAt).map (revocationObject row)

/-- `none` where it throws. -/
def buildCrlClaims (rows : List CrlSnapshotRow) (env : CrlEnv) : Option Value :=
  (rows.mapM (buildRevocation dateParse)).map
    (crlObject env.issuer env.crlJti (env.nowMs / 1000) (env.nowMs / 1000 + CRL_TTL_SECONDS))

/-- The token of the list, or the error of the route. -/
def getCrl (env : CrlEnv) (db : Database) : Except CrlError JsString :=
  if (crlSnapshot db).isEmpty then .error .notFound
  else
    match findMatchingActiveKey env.signingKeys.keys env.keypair.publicKey with
    | none => .error .signingConfig
    | some signer =>
        match buildCrlClaims dateParse (crlSnapshot db) env with
        | none => .error .buildFailed
        | some claims =>
            (signCRL toLowerCase jose claims signer.kid env.keypair).elim (.error .internal) .ok

end

end Clawdentity.CrlRoute
