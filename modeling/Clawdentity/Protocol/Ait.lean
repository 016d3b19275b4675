import Clawdentity.Lib.Bytes
import Clawdentity.Protocol.Crl

/-!
# Claims of an agent identity token

The schema of the claims that the registry signs for an agent. It reads the fields of strict
objects, and then adds an issue for every rule between the fields that the claims break. A
parser that throws answers `none`, and `toLowerCase` is a parameter.

## Main definitions

* `AitToken` — what a token holds, and the keys under which its signature verifies.
* `AitClaims.ofJson`, `AitClaims.fieldsValid`, `AitClaims.superRefine` — the parts of
  `aitClaimsSchema`.
* `parseAitClaims`, and `parseAitClaims_iff`, what it accepts.
-/

namespace Clawdentity.Protocol

open Js
open Lib (Json)

def MAX_AGENT_NAME_LENGTH : ℕ := 64
def MAX_AGENT_DESCRIPTION_LENGTH : ℕ := 280
def MAX_FRAMEWORK_LENGTH : ℕ := 32
def ED25519_PUBLIC_KEY_LENGTH : ℕ := 32

/-- A token: its header, the fields of its claims object, and whether its signature verifies
under a public key. -/
structure AitToken where
  header : Value
  claims : List (JsString × Value)
  verifies : List UInt8 → Bool

/-- The claims object. -/
def AitToken.payload (token : AitToken) : Value := .obj token.claims

/-! ## The fields -/

/-- The characters of `AGENT_NAME_REGEX`. -/
def isAgentNameUnit (u : UInt16) : Bool :=
  let n := u.toNat
  (0x41 ≤ n && n ≤ 0x5A) || (0x61 ≤ n && n ≤ 0x7A) || (0x30 ≤ n && n ≤ 0x39) || n == 0x2E ||
    n == 0x5F || n == 0x20 || n == 0x2D

def validateAgentName (name : JsString) : Bool :=
  1 ≤ name.length && name.length ≤ MAX_AGENT_NAME_LENGTH && name.all isAgentNameUnit

/-- `decodeBase64url`; `none` where it throws. -/
def decodeBase64url (input : JsString) : Option (List UInt8) :=
  Lib.Base64url.decode (input.map Lib.Utf16.ofUnit)

/-- A public key of `kty` `OKP` and `crv` `Ed25519`. -/
structure AitCnfJwk where
  x : JsString
  deriving DecidableEq

/-- The object of a key, and the object `cnf` around it. -/
structure AitCnf where
  jwk : AitCnfJwk
  deriving DecidableEq

structure AitClaims where
  iss : JsString
  sub : JsString
  ownerDid : JsString
  name : JsString
  framework : JsString
  description : Option JsString
  cnf : AitCnf
  iat : ℕ
  nbf : ℕ
  exp : ℕ
  jti : JsString
  deriving DecidableEq

def AitCnfJwk.ofJson (v : Value) : Option AitCnfJwk := do
  let kty ← getStr v "kty"
  let crv ← getStr v "crv"
  let x ← getStr v "x"
  if kty = js "OKP" ∧ crv = js "Ed25519" ∧ strictKeys v ["kty", "crv", "x"] = true then some { x }
  else none

def AitCnf.ofJson (v : Value) : Option AitCnf := do
  let jwk ← (v.get? (js "jwk")).bind AitCnfJwk.ofJson
  if strictKeys v ["jwk"] then some { jwk } else none

/-- The fields that the schema knows. -/
def AIT_CLAIMS_KEYS : List String :=
  ["iss", "sub", "ownerDid", "name", "framework", "description", "cnf", "iat", "nbf", "exp", "jti"]

/-- A number of seconds. -/
def getSeconds (v : Value) (key : String) : Option ℕ := (getNum v key).bind parseNonnegativeInt

namespace AitClaims

/-- The types of the fields. -/
def ofJson (v : Value) : Option AitClaims := do
  let iss ← getStr v "iss"
  let sub ← getStr v "sub"
  let ownerDid ← getStr v "ownerDid"
  let name ← getStr v "name"
  let framework ← getStr v "framework"
  let description ← getOptStr v "description"
  let cnf ← (v.get? (js "cnf")).bind AitCnf.ofJson
  let iat ← getSeconds v "iat"
  let nbf ← getSeconds v "nbf"
  let exp ← getSeconds v "exp"
  let jti ← getStr v "jti"
  if strictKeys v AIT_CLAIMS_KEYS then
    some { iss, sub, ownerDid, name, framework, description, cnf, iat, nbf, exp, jti }
  else none

/-- The checks of single fields. -/
def fieldsValid (claims : AitClaims) : Bool :=
  !claims.iss.isEmpty && !claims.sub.isEmpty && !claims.ownerDid.isEmpty &&
    validateAgentName claims.name && !claims.framework.isEmpty &&
    claims.framework.length ≤ MAX_FRAMEWORK_LENGTH && !hasControlChars claims.framework &&
    (claims.description.all fun description =>
      description.length ≤ MAX_AGENT_DESCRIPTION_LENGTH && !hasControlChars description) &&
    !claims.cnf.jwk.x.isEmpty && !claims.jti.isEmpty

end AitClaims

/-! ## The rules between the fields -/

structure Issue where
  message : String
  path : List String
  deriving DecidableEq

/-- `ctx.addIssue` where a rule is broken. -/
def issueUnless (rule : Bool) (message : String) (path : List String) : List Issue :=
  if rule then [] else [{ message, path }]

@[simp] theorem issueUnless_eq_nil {rule : Bool} {message : String} {path : List String} :
    issueUnless rule message path = [] ↔ rule = true := by
  cases rule <;> simp [issueUnless]

/-- The issues of a DID: it is parsed, and its authority is that of the issuer where the issuer
has one. -/
def didIssues (issuerAuthority : Option JsString) (parsed : Option ParsedDid)
    (mismatch invalid : String) (path : List String) : List Issue :=
  match parsed with
  | some did => issueUnless (issuerAuthority.all fun a => did.authority = a) mismatch path
  | none => [{ message := invalid, path }]

theorem didIssues_eq_nil {issuerAuthority : Option JsString} {parsed : Option ParsedDid}
    {mismatch invalid : String} {path : List String} :
    didIssues issuerAuthority parsed mismatch invalid path = [] ↔
      ∃ did, parsed = some did ∧ ∀ authority, issuerAuthority = some authority →
        did.authority = authority := by
  cases parsed with
  | none => simp [didIssues]
  | some did => cases issuerAuthority <;> simp [didIssues]

/-- The issues of the public key. -/
def keyIssues (decoded : Option (List UInt8)) : List Issue :=
  match decoded with
  | some bytes => issueUnless (bytes.length = ED25519_PUBLIC_KEY_LENGTH)
      "cnf.jwk.x must decode to 32-byte Ed25519 public key" ["cnf", "jwk", "x"]
  | none => [{ message := "cnf.jwk.x must be valid base64url", path := ["cnf", "jwk", "x"] }]

theorem keyIssues_eq_nil {decoded : Option (List UInt8)} :
    keyIssues decoded = [] ↔
      ∃ bytes, decoded = some bytes ∧ bytes.length = ED25519_PUBLIC_KEY_LENGTH := by
  cases decoded with
  | none => simp [keyIssues]
  | some bytes => simp [keyIssues]

section
variable (toLowerCase : JsString → JsString)

/-- The issues of the claims, in the order of the source. -/
def AitClaims.superRefine (claims : AitClaims) : List Issue :=
  let issuerAuthority := parseIssuerHostname toLowerCase claims.iss
  issueUnless issuerAuthority.isSome "iss must be a valid URL with a hostname" ["iss"] ++
    didIssues issuerAuthority (parseAgentDid claims.sub)
      "sub DID authority must match iss hostname" "sub must be a valid agent DID" ["sub"] ++
    didIssues issuerAuthority (parseHumanDid claims.ownerDid)
      "ownerDid authority must match iss hostname" "ownerDid must be a valid human DID"
      ["ownerDid"] ++
    keyIssues (decodeBase64url claims.cnf.jwk.x) ++
    issueUnless (isUlid claims.jti) "jti must be a valid ULID" ["jti"] ++
    issueUnless (claims.nbf < claims.exp) "exp must be greater than nbf" ["exp"] ++
    issueUnless (claims.iat < claims.exp) "exp must be greater than iat" ["exp"]

def parseAitClaims (input : Value) : Option AitClaims :=
  (AitClaims.ofJson input).filter fun claims =>
    claims.fieldsValid && (claims.superRefine toLowerCase).isEmpty

end

/-- The rules of the claims other than those about the issuer and the DIDs. -/
structure AitClaims.FollowsSchema (claims : AitClaims) : Prop where
  fields : claims.fieldsValid = true
  cnf : ∃ bytes, decodeBase64url claims.cnf.jwk.x = some bytes ∧
    bytes.length = ED25519_PUBLIC_KEY_LENGTH
  jti : isUlid claims.jti = true
  afterNbf : claims.nbf < claims.exp
  afterIat : claims.iat < claims.exp

/-- The agent and its owner belong to the host of the issuer. -/
structure AitClaims.OfIssuer (claims : AitClaims) (authority : JsString) (agentUlid : JsString)
    (ownerUlid : JsString) : Prop where
  sub : parseDid claims.sub = some { authority, entity := .agent, ulid := agentUlid }
  owner : parseDid claims.ownerDid = some { authority, entity := .human, ulid := ownerUlid }

section
variable {toLowerCase : JsString → JsString} {input : Value} {claims : AitClaims}

theorem parseAgentDid_eq_some {value : JsString} {did : ParsedDid} :
    parseAgentDid value = some did ↔ parseDid value = some did ∧ did.entity = .agent := by
  simp [parseAgentDid, Option.filter_eq_some_iff]

theorem parseHumanDid_eq_some {value : JsString} {did : ParsedDid} :
    parseHumanDid value = some did ↔ parseDid value = some did ∧ did.entity = .human := by
  simp [parseHumanDid, Option.filter_eq_some_iff]

/-- **What `parseAitClaims` accepts.** -/
theorem parseAitClaims_iff : parseAitClaims toLowerCase input = some claims ↔
    AitClaims.ofJson input = some claims ∧ claims.FollowsSchema ∧
      ∃ authority agentUlid ownerUlid,
        parseIssuerHostname toLowerCase claims.iss = some authority ∧
          claims.OfIssuer authority agentUlid ownerUlid := by
  simp only [parseAitClaims, Option.filter_eq_some_iff, Bool.and_eq_true, List.isEmpty_iff,
    AitClaims.superRefine, List.append_eq_nil_iff, issueUnless_eq_nil, didIssues_eq_nil,
    keyIssues_eq_nil, decide_eq_true_eq, parseAgentDid_eq_some, parseHumanDid_eq_some]
  refine and_congr_right fun _ => ?_
  constructor
  · rintro ⟨hfields, ⟨⟨⟨⟨⟨hiss, did, ⟨hsub, hagent⟩, hsubAuthority⟩, owner, ⟨howner, hhuman⟩,
      hownerAuthority⟩, hcnf⟩, hjti⟩, hnbf⟩, hiat⟩
    obtain ⟨authority, hauthority⟩ := Option.isSome_iff_exists.mp hiss
    refine ⟨⟨hfields, hcnf, hjti, hnbf, hiat⟩, authority, did.ulid, owner.ulid, hauthority, ?_, ?_⟩
    · rw [hsub, ← hsubAuthority authority hauthority, ← hagent]
    · rw [howner, ← hownerAuthority authority hauthority, ← hhuman]
  · rintro ⟨hschema, authority, agentUlid, ownerUlid, hauthority, hof⟩
    have hsame : ∀ a, parseIssuerHostname toLowerCase claims.iss = some a → authority = a :=
      fun a ha => Option.some.inj (hauthority.symm.trans ha)
    exact ⟨hschema.fields, ⟨⟨⟨⟨⟨Option.isSome_of_eq_some hauthority, _, ⟨hof.sub, rfl⟩, hsame⟩, _,
      ⟨hof.owner, rfl⟩, hsame⟩, hschema.cnf⟩, hschema.jti⟩, hschema.afterNbf⟩, hschema.afterIat⟩

/-- The fields of the claims. -/
structure AitClaims.ReadFrom (claims : AitClaims) (input : Value) : Prop where
  iss : getStr input "iss" = some claims.iss
  sub : getStr input "sub" = some claims.sub
  ownerDid : getStr input "ownerDid" = some claims.ownerDid
  cnf : (input.get? (js "cnf")).bind AitCnf.ofJson = some claims.cnf
  iat : getSeconds input "iat" = some claims.iat
  nbf : getSeconds input "nbf" = some claims.nbf
  exp : getSeconds input "exp" = some claims.exp
  jti : getStr input "jti" = some claims.jti
  strict : strictKeys input AIT_CLAIMS_KEYS = true

theorem AitClaims.readFrom_of_ofJson (h : AitClaims.ofJson input = some claims) :
    claims.ReadFrom input := by
  simp only [AitClaims.ofJson, Option.bind_eq_bind, Option.bind_eq_some_iff,
    Option.ite_none_right_eq_some, Option.some.injEq] at h
  obtain ⟨iss, hiss, sub, hsub, ownerDid, howner, name, _, framework, _, description, _, cnf, hcnf,
    iat, hiat, nbf, hnbf, exp, hexp, jti, hjti, hstrict, rfl⟩ := h
  exact ⟨hiss, hsub, howner, Option.bind_eq_some_iff.mpr hcnf, hiat, hnbf, hexp, hjti, hstrict⟩

end

end Clawdentity.Protocol
