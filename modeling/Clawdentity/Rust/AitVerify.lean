import Clawdentity.Lib.Fallible
import Clawdentity.Protocol.Ait
import Clawdentity.Rust.Identifiers
import Clawdentity.Rust.Serde

/-!
# Verification of agent identity tokens in Rust

The Rust verifier reads five fields of the claims and ignores the others, and of the header it
reads the `kid` alone. The ULID crate, the URL crate and the numbers of the JSON crate are
parameters.

## Main definitions

* `VerifiedAitClaims.ofFields` — the claims as the JSON crate reads them.
* `didAuthorityFromUrl`, `verifyAitToken`.
* `verifyAitToken_eq_ok` — what the verifier accepts.
-/

namespace Clawdentity.Rust

open Js Lib
open Protocol (AitToken ED25519_PUBLIC_KEY_LENGTH)

structure RegistryVerificationKey where
  kid : RString
  x : RString
  deriving DecidableEq

structure VerifiedAitClaims where
  iss : RString
  sub : RString
  ownerDid : RString
  jti : RString
  exp : ℤ
  deriving DecidableEq

/-! ## The claims -/

/-- A field of type `String` of a struct. -/
def readString (v : Value) (key : String) : Option RString := (getStr v key).bind ofJs

/-- A field of type `i64` of a struct. -/
def readI64 (serde : Serde) (v : Value) (key : String) : Option ℤ :=
  (((getNum v key).bind serde.number).bind fun n => (Json.num n : RValue).int?).filter
    fun n => decide (-2 ^ 63 ≤ n ∧ n < 2 ^ 63)

theorem readString_eq_some {v : Value} {key : String} {r : RString} :
    readString v key = some r ↔ getStr v key = some (toJs r) := by
  simp [readString, Option.bind_eq_some_iff, ofJs_eq_some]

/-- `serde_json::from_slice` of the text of an object. The fields that the struct does not have
are skipped, but their names are read. -/
def VerifiedAitClaims.ofFields (serde : Serde) (fields : List (JsString × Value)) :
    Option VerifiedAitClaims := do
  let iss ← readString (.obj fields) "iss"
  let sub ← readString (.obj fields) "sub"
  let ownerDid ← readString (.obj fields) "ownerDid"
  let jti ← readString (.obj fields) "jti"
  let exp ← readI64 serde (.obj fields) "exp"
  if (fields.all fun field => (ofJs field.1).isSome) = true then
    some { iss, sub, ownerDid, jti, exp }
  else none

theorem VerifiedAitClaims.ofFields_eq_some {serde : Serde} {fields : List (JsString × Value)}
    {claims : VerifiedAitClaims} : ofFields serde fields = some claims ↔
      getStr (.obj fields) "iss" = some (toJs claims.iss) ∧
      getStr (.obj fields) "sub" = some (toJs claims.sub) ∧
      getStr (.obj fields) "ownerDid" = some (toJs claims.ownerDid) ∧
      getStr (.obj fields) "jti" = some (toJs claims.jti) ∧
      readI64 serde (.obj fields) "exp" = some claims.exp ∧
      ∀ field ∈ fields, (ofJs field.1).isSome = true := by
  simp only [ofFields, Option.bind_eq_bind, Option.bind_eq_some_iff, readString_eq_some,
    Option.ite_none_right_eq_some, Option.some.injEq, List.all_eq_true]
  constructor
  · rintro ⟨iss, hiss, sub, hsub, ownerDid, howner, jti, hjti, exp, hexp, hnames, rfl⟩
    exact ⟨hiss, hsub, howner, hjti, hexp, hnames⟩
  · rintro ⟨hiss, hsub, howner, hjti, hexp, hnames⟩
    exact ⟨_, hiss, _, hsub, _, howner, _, hjti, _, hexp, hnames, rfl⟩

/-! ## The verifier -/

/-- `URL_SAFE_NO_PAD.decode`. -/
def decodeBase64url (value : RString) (context : String) : Except String (List UInt8) :=
  (Base64url.decode value).elim (.error (context ++ " is invalid base64url")) .ok

section
variable (ulidFromString : RString → Bool) (parseUrl : RString → Option (Option RString))

/-- `did_authority_from_url`; `parseUrl` is `Url::parse` and then `host_str`. -/
def didAuthorityFromUrl (url : RString) (fieldName : String) : Except String RString := do
  let parsed ← (parseUrl url).elim (.error (fieldName ++ " must be a valid URL")) .ok
  let host ← parsed.elim (.error (fieldName ++ " must include a host")) .ok
  (normalizeDidAuthority host).elim (.error "DID authority must be a valid hostname") .ok

def verifyAitToken (serde : Serde) (token : AitToken) (keys : List RegistryVerificationKey)
    (expectedIssuer : Option RString) (now : ℤ) : Except String VerifiedAitClaims := do
  check (!keys.isEmpty) "verification keys unavailable (no active keys)"
  let header ← (serde.read token.header).elim (.error "invalid token header") .ok
  let kid ← (getString header "kid").elim (.error "invalid token header (missing kid)") .ok
  let key ← (keys.find? fun key => key.kid = kid).elim
    (.error "invalid token (unknown kid)") .ok
  let publicKey ← decodeBase64url key.x "verification key"
  check (publicKey.length = ED25519_PUBLIC_KEY_LENGTH) "verification key is invalid"
  check (token.verifies publicKey) "invalid token signature"
  let claims ← (VerifiedAitClaims.ofFields serde token.claims).elim
    (.error "invalid token payload") .ok
  check (now < claims.exp) "token is expired"
  check (expectedIssuer.all fun expected => claims.iss = expected)
    "token issuer does not match expected issuer"
  let sub ← (parseAgentDid ulidFromString claims.sub).elim
    (.error "token sub must be an agent DID") .ok
  let owner ← (parseHumanDid ulidFromString claims.ownerDid).elim
    (.error "token ownerDid must be a human DID") .ok
  let issuerAuthority ← didAuthorityFromUrl parseUrl claims.iss "iss"
  check (sub.authority = issuerAuthority)
    "token sub authority must match token issuer host"
  check (owner.authority = issuerAuthority)
    "token ownerDid authority must match token issuer host"
  return claims

end

/-! ## What is accepted -/

section
variable {ulidFromString : RString → Bool} {parseUrl : RString → Option (Option RString)}
  {serde : Serde} {token : AitToken} {keys : List RegistryVerificationKey}
  {expectedIssuer : Option RString} {now : ℤ} {claims : VerifiedAitClaims}

/-- The agent and its owner belong to the host of the issuer. -/
structure VerifiedAitClaims.OfIssuer (ulidFromString : RString → Bool)
    (parseUrl : RString → Option (Option RString)) (claims : VerifiedAitClaims)
    (authority agentUlid ownerUlid : RString) : Prop where
  host : ∃ host, parseUrl claims.iss = some (some host) ∧
    normalizeDidAuthority host = some authority
  sub : parseDid ulidFromString claims.sub = some { authority, entity := .agent, ulid := agentUlid }
  owner : parseDid ulidFromString claims.ownerDid =
    some { authority, entity := .human, ulid := ownerUlid }

theorem didAuthorityFromUrl_eq_ok {url authority : RString} {fieldName : String} :
    didAuthorityFromUrl parseUrl url fieldName = .ok authority ↔
      ∃ host, parseUrl url = some (some host) ∧ normalizeDidAuthority host = some authority := by
  simp only [didAuthorityFromUrl, bind_eq_ok, elim_eq_ok]
  constructor
  · rintro ⟨parsed, hparsed, host, rfl, hauthority⟩
    exact ⟨host, hparsed, hauthority⟩
  · rintro ⟨host, hparsed, hauthority⟩
    exact ⟨some host, hparsed, host, rfl, hauthority⟩

theorem parseAgentDid_eq_some {value : RString} {did : ParsedDid} :
    parseAgentDid ulidFromString value = some did ↔
      parseDid ulidFromString value = some did ∧ did.entity = .agent := by
  simp [parseAgentDid, Option.filter_eq_some_iff]

theorem parseHumanDid_eq_some {value : RString} {did : ParsedDid} :
    parseHumanDid ulidFromString value = some did ↔
      parseDid ulidFromString value = some did ∧ did.entity = .human := by
  simp [parseHumanDid, Option.filter_eq_some_iff]

theorem decodeBase64url_eq_ok {value : RString} {context : String} {bytes : List UInt8} :
    decodeBase64url value context = .ok bytes ↔ Base64url.decode value = some bytes := elim_eq_ok

/-- **What the verifier accepts.** -/
theorem verifyAitToken_eq_ok :
    verifyAitToken ulidFromString parseUrl serde token keys expectedIssuer now = .ok claims ↔
      ∃ header kid key publicKey, serde.read token.header = some header ∧
        getString header "kid" = some kid ∧ (keys.find? fun key => key.kid = kid) = some key ∧
        Base64url.decode key.x = some publicKey ∧ publicKey.length = ED25519_PUBLIC_KEY_LENGTH ∧
        token.verifies publicKey = true ∧
        VerifiedAitClaims.ofFields serde token.claims = some claims ∧ now < claims.exp ∧
        (∀ expected, expectedIssuer = some expected → claims.iss = expected) ∧
        ∃ authority agentUlid ownerUlid,
          claims.OfIssuer ulidFromString parseUrl authority agentUlid ownerUlid := by
  simp only [verifyAitToken, bind_eq_ok, check_eq_ok, elim_eq_ok, decodeBase64url_eq_ok,
    didAuthorityFromUrl_eq_ok, parseAgentDid_eq_some, parseHumanDid_eq_some, decide_eq_true_eq,
    Option.all_eq_true, pure, Except.pure, Except.ok.injEq]
  constructor
  · rintro ⟨_, _, header, hheader, kid, hkid, key, hkey, publicKey, hdecode, _, hlength, _, hsigned,
      _, hclaims, _, hexp, _, hissuer, sub, ⟨hsub, hagent⟩, owner, ⟨howner, hhuman⟩, authority,
      hhost, _, hsubAuthority, _, hownerAuthority, rfl⟩
    refine ⟨header, kid, key, publicKey, hheader, hkid, hkey, hdecode, hlength, hsigned, hclaims,
      hexp, hissuer, authority, sub.ulid, owner.ulid, hhost, ?_, ?_⟩
    · rw [hsub, ← hsubAuthority, ← hagent]
    · rw [howner, ← hownerAuthority, ← hhuman]
  · rintro ⟨header, kid, key, publicKey, hheader, hkid, hkey, hdecode, hlength, hsigned, hclaims,
      hexp, hissuer, authority, agentUlid, ownerUlid, hof⟩
    have hkeys : (!keys.isEmpty) = true := by
      cases keys with
      | nil => cases hkey
      | cons key keys => rfl
    exact ⟨⟨⟩, hkeys, header, hheader, kid, hkid, key, hkey, publicKey, hdecode, ⟨⟩, hlength, ⟨⟩,
      hsigned, claims, hclaims, ⟨⟩, hexp, ⟨⟩, hissuer, _, ⟨hof.sub, rfl⟩, _, ⟨hof.owner, rfl⟩,
      authority, hof.host, ⟨⟩, rfl, ⟨⟩, rfl, rfl⟩

end

end Clawdentity.Rust
