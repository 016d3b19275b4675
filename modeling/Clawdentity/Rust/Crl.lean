import Clawdentity.Lib.OrderedMap
import Clawdentity.Lib.Run
import Clawdentity.Rust.AitVerify

/-!
# The revocation list in Rust

The list is read from the cache for fifteen minutes after it has been fetched. Only a list that
comes from the network is verified: its signature, its issuer, its claims and its expiry. What a
cached list says is what was verified when it was fetched, but time has gone on since.

The key of the cache is trimmed, so two addresses that differ in white space at the end share one
entry.

The URL, JSON, ULID and signature crates are parameters.

## Main definitions

* `verifyJwtPayload`, `parseCrlClaims`, `loadCrlClaims` — the code.
* `Decides` — what the claims that a call returns should be.
* `CachedInTime` — cached claims have not expired, and have the issuer that the call expects.
* `crl_decides_iff` — when the claims that are returned are as they should be.
-/

namespace Clawdentity.Rust.Crl

open Js Lib Lib.Run
open Protocol (ED25519_PUBLIC_KEY_LENGTH)

/-! ## Claims -/

structure CrlVerificationKey where
  kid : RString
  x : RString
  deriving DecidableEq

structure CrlRevocation where
  jti : RString
  agentDid : RString
  reason : Option RString
  revokedAt : ℤ
  deriving DecidableEq

structure CrlClaims where
  iss : RString
  jti : RString
  iat : ℤ
  exp : ℤ
  revocations : List CrlRevocation
  deriving DecidableEq

def inI64 (n : ℤ) : Bool := decide (-2 ^ 63 ≤ n ∧ n < 2 ^ 63)

/-- A value as an `i64`. -/
def i64OfValue (v : RValue) : Option ℤ := v.int?.filter inI64

/-- A value as an `Option<String>`. -/
def optionOfValue : RValue → Option (Option RString)
  | .null => some none
  | .str s => some (some s)
  | _ => none

/-- The derived `Deserialize`, from an object or from an array. -/
def CrlRevocation.ofValue : RValue → Option CrlRevocation
  | .arr [jti, agentDid, reason, revokedAt] => do
      let jti ← jti.str?
      let agentDid ← agentDid.str?
      let reason ← optionOfValue reason
      let revokedAt ← i64OfValue revokedAt
      return { jti, agentDid, reason, revokedAt }
  | .arr _ => none
  | v => do
      let jti ← getString v "jti"
      let agentDid ← getString v "agentDid"
      let reason ← getOptString v "reason"
      let revokedAt ← (v.get? (rs "revokedAt")).bind i64OfValue
      return { jti, agentDid, reason, revokedAt }

def revocationsOfValue : RValue → Option (List CrlRevocation)
  | .arr items => items.mapM CrlRevocation.ofValue
  | _ => none

/-- The derived `Deserialize`, from an object or from an array. -/
def CrlClaims.ofValue : RValue → Option CrlClaims
  | .arr [iss, jti, iat, exp, revocations] => do
      let iss ← iss.str?
      let jti ← jti.str?
      let iat ← i64OfValue iat
      let exp ← i64OfValue exp
      let revocations ← revocationsOfValue revocations
      return { iss, jti, iat, exp, revocations }
  | .arr _ => none
  | v => do
      let iss ← getString v "iss"
      let jti ← getString v "jti"
      let iat ← (v.get? (rs "iat")).bind i64OfValue
      let exp ← (v.get? (rs "exp")).bind i64OfValue
      let revocations ← (v.get? (rs "revocations")).bind revocationsOfValue
      return { iss, jti, iat, exp, revocations }

/-- The derived `Serialize`. -/
def CrlRevocation.toValue (r : CrlRevocation) : RValue :=
  .object rs [("jti", some (.str r.jti)), ("agentDid", some (.str r.agentDid)),
    ("reason", r.reason.map .str), ("revokedAt", some (.num r.revokedAt))]

def CrlClaims.toValue (c : CrlClaims) : RValue :=
  .object rs [("iss", some (.str c.iss)), ("jti", some (.str c.jti)), ("iat", some (.num c.iat)),
    ("exp", some (.num c.exp)),
    ("revocations", some (.arr (c.revocations.map CrlRevocation.toValue)))]

/-! ## The crates and a call -/

/-- The functions of other crates that are called. -/
structure Crates where
  ulidFromString : RString → Bool
  /-- `Url::parse` and then `host_str`. -/
  parseUrl : RString → Option (Option RString)
  /-- `Url::parse` and then `join("/v1/crl")`. -/
  crlUrl : RString → Option RString
  /-- `serde_json::from_slice::<Value>`. -/
  fromSlice : List UInt8 → Option RValue
  /-- `serde_json::from_str`, as a value. -/
  fromStr : RString → Option RValue
  /-- `serde_json::to_string` of what is serialised to this value. -/
  toString : RValue → RString
  /-- The text of the error of `from_value`, where there is one. -/
  claimsError : RValue → RString
  /-- `VerifyingKey::from_bytes` succeeds on these 32 bytes. -/
  verifyingKey : List UInt8 → Bool
  /-- `VerifyingKey::verify` of a message and a signature. -/
  verify : List UInt8 → RString → List UInt8 → Bool

inductive CoreError
  | invalidInput (message : String)
  /-- `InvalidInput`, with the text of the error of the JSON crate. -/
  | invalidClaims (message : RString)
  | invalidUrl (context : String) (value : RString)
  | http (message : RString)
  | httpStatus (status : ℕ) (message : RString)
  | sqlite
  deriving DecidableEq

/-- What `send` answers. -/
structure Response where
  status : ℕ
  /-- The body as a text; `none` where it cannot be read. -/
  text : Option RString
  /-- The body, or the error of reading it. -/
  bytes : Except RString (List UInt8)

/-- A call of `load_crl_claims`, with what its environment decides. The clock is read when the
cached entry is judged, when fetched claims are checked, and when they are stored. -/
structure Call where
  registryUrl : RString
  verificationKeys : List CrlVerificationKey
  checkMs : ℤ
  parseMs : ℤ
  storeMs : ℤ
  /-- The statement that reads the cache succeeds. -/
  readOk : Bool
  /-- The response, or the error of the client. -/
  response : Except RString Response
  /-- The text of the error of `json`, where there is one. -/
  jsonError : RString
  /-- The statement that writes the cache succeeds. -/
  writeOk : Bool

structure VerifyCacheEntry where
  registryUrl : RString
  fetchedAtMs : ℤ
  payloadJson : RString
  deriving DecidableEq

/-- The table `verify_cache`, by `cache_key`. -/
abbrev VerifyCache := OrderedMap RString VerifyCacheEntry

def CRL_CACHE_TTL_MS : ℤ := 15 * 60 * 1000
def CRL_CACHE_KEY_PREFIX : RString := rs "crl::"
def SIGNATURE_LENGTH : ℕ := 64

/-- `timestamp`, of a time in milliseconds. -/
def timestamp (ms : ℤ) : ℤ := ms / 1000

/-! ## The table -/

def getVerifyCacheEntry (cache : VerifyCache) (cacheKey : RString) : Option VerifyCacheEntry :=
  if (trim cacheKey).isEmpty then none else cache.get? (trim cacheKey)

def upsertVerifyCacheEntry (cache : VerifyCache) (cacheKey registryUrl payloadJson : RString)
    (call : Call) : Except CoreError VerifyCache := do
  check (!(trim cacheKey).isEmpty) (.invalidInput "cache_key is required")
  check (!(trim registryUrl).isEmpty) (.invalidInput "registry_url is required")
  check (!(trim payloadJson).isEmpty) (.invalidInput "payload_json is required")
  check call.writeOk .sqlite
  return cache.set (trim cacheKey) {
    registryUrl := trim registryUrl
    fetchedAtMs := call.storeMs
    payloadJson := trim payloadJson }

/-! ## The code -/

section Code
variable (crates : Crates)

def parseJwtParts (token : RString) : Except CoreError (RString × RString × RString) :=
  match token.splitOn '.' with
  | [header, payload, signature] => .ok (header, payload, signature)
  | _ => .error (.invalidInput "CRL token is invalid")

/-- `decode_base64url`. -/
def decode (value : RString) (context : String) : Except CoreError (List UInt8) :=
  (decodeBase64url value context).mapError .invalidInput

def verifyJwtPayload (token : RString) (keys : List CrlVerificationKey)
    (expectedIssuer : Option RString) : Except CoreError RValue := do
  let (headerB64, payloadB64, signatureB64) ← parseJwtParts token
  let headerBytes ← decode headerB64 "CRL header"
  let payloadBytes ← decode payloadB64 "CRL payload"
  let signature ← decode signatureB64 "CRL signature"
  let header ← (crates.fromSlice headerBytes).elim
    (.error (.invalidInput "CRL header is invalid")) .ok
  let kid ← (getString header "kid").elim (.error (.invalidInput "CRL header missing kid")) .ok
  let key ← (keys.find? fun candidate => candidate.kid = kid).elim
    (.error (.invalidInput "CRL key id is unknown")) .ok
  let publicKey ← decode key.x "CRL key x"
  check (publicKey.length = ED25519_PUBLIC_KEY_LENGTH)
    (.invalidInput "CRL key x must decode to 32 bytes")
  check (crates.verifyingKey publicKey) (.invalidInput "CRL key is invalid")
  check (signature.length = SIGNATURE_LENGTH) (.invalidInput "CRL signature is invalid")
  check (crates.verify publicKey (headerB64 ++ ['.'] ++ payloadB64) signature)
    (.invalidInput "CRL signature verification failed")
  let payload ← (crates.fromSlice payloadBytes).elim
    (.error (.invalidInput "CRL payload is invalid")) .ok
  match expectedIssuer with
  | none => return payload
  | some expected =>
      let issuer ← (getString payload "iss").elim
        (.error (.invalidInput "CRL payload missing iss")) .ok
      check (issuer = expected) (.invalidInput "CRL issuer does not match expected issuer")
      return payload

def checkRevocation (issuerAuthority : RString) (revocation : CrlRevocation) :
    Except CoreError Unit := do
  let parsed ← (parseAgentDid crates.ulidFromString revocation.agentDid).elim
    (.error (.invalidInput "CRL revocation agentDid must be an agent DID")) .ok
  check (parsed.authority = issuerAuthority)
    (.invalidInput "CRL revocation agentDid authority must match issuer host")

def parseCrlClaims (payload : RValue) (parseMs : ℤ) : Except CoreError CrlClaims := do
  let claims ← (CrlClaims.ofValue payload).elim
    (.error (.invalidClaims (crates.claimsError payload))) .ok
  check (claims.iat < claims.exp) (.invalidInput "CRL claims exp must be greater than iat")
  let issuerAuthority ←
    (didAuthorityFromUrl crates.parseUrl claims.iss "iss").mapError .invalidInput
  claims.revocations.forM (checkRevocation crates issuerAuthority)
  check (timestamp parseMs < claims.exp) (.invalidInput "CRL token is expired")
  return claims

/-- The derived `Deserialize` of `CrlResponse`. -/
def crlOfValue : RValue → Option RString
  | .arr [crl] => crl.str?
  | .arr _ => none
  | v => getString v "crl"

def isSuccess (status : ℕ) : Bool := decide (200 ≤ status ∧ status < 300)

/-- The token that the registry answers with. -/
def fetchCrl (call : Call) : Except CoreError RString := do
  let _ ← (crates.crlUrl call.registryUrl).elim
    (.error (.invalidUrl "registryUrl" call.registryUrl)) .ok
  let response ← call.response.mapError .http
  check (isSuccess response.status)
    (.httpStatus response.status (response.text.getD (rs "failed to fetch CRL")))
  let bytes ← response.bytes.mapError .http
  ((crates.fromSlice bytes).bind crlOfValue).elim (.error (.http call.jsonError)) .ok

/-- The claims that the registry answers with, verified and checked. -/
def fetchClaims (call : Call) (expectedIssuer : Option RString) : Except CoreError CrlClaims := do
  let token ← fetchCrl crates call
  let payload ← verifyJwtPayload crates token call.verificationKeys expectedIssuer
  parseCrlClaims crates payload call.parseMs

def cacheKeyOf (registryUrl : RString) : RString := CRL_CACHE_KEY_PREFIX ++ registryUrl

/-- The claims of the cached entry, where it is for the address and not too old. -/
def cachedClaims (cache : VerifyCache) (call : Call) : Option CrlClaims :=
  (getVerifyCacheEntry cache (cacheKeyOf call.registryUrl)).bind fun entry =>
    if entry.registryUrl = call.registryUrl ∧ call.checkMs - entry.fetchedAtMs ≤ CRL_CACHE_TTL_MS
    then (crates.fromStr entry.payloadJson).bind CrlClaims.ofValue
    else none

/-- The cache after the call, and what the call returns. -/
def loadCrlClaims (cache : VerifyCache) (call : Call) (expectedIssuer : Option RString) :
    VerifyCache × Except CoreError CrlClaims :=
  if call.verificationKeys.isEmpty then
    (cache, .error (.invalidInput "at least one verification key is required"))
  else if call.readOk = false then (cache, .error .sqlite)
  else
    match cachedClaims crates cache call with
    | some claims => (cache, .ok claims)
    | none =>
        match fetchClaims crates call expectedIssuer with
        | .error e => (cache, .error e)
        | .ok claims =>
            match upsertVerifyCacheEntry cache (cacheKeyOf call.registryUrl) call.registryUrl
              (crates.toString claims.toValue) call with
            | .error e => (cache, .error e)
            | .ok cache => (cache, .ok claims)

end Code

/-! ## Claims that a call should return -/

section Spec
variable (crates : Crates) (expectedIssuer : RString → Option RString)

/-- The call has fetched the claims, under the signature of one of its keys. -/
def Signed (fetch : Call) (claims : CrlClaims) : Prop :=
  ∃ token header payload signature, fetchCrl crates fetch = .ok token ∧
    token.splitOn '.' = [header, payload, signature] ∧
    (∃ key ∈ fetch.verificationKeys, ∃ publicKey signatureBytes,
      Base64url.decode key.x = some publicKey ∧
      Base64url.decode signature = some signatureBytes ∧
      crates.verify publicKey (header ++ ['.'] ++ payload) signatureBytes = true) ∧
    ∃ payloadBytes value, Base64url.decode payload = some payloadBytes ∧
      crates.fromSlice payloadBytes = some value ∧ CrlClaims.ofValue value = some claims

/-- The checks of `parse_crl_claims`, but for the expiry. -/
structure Checked (claims : CrlClaims) : Prop where
  exp_gt_iat : claims.iat < claims.exp
  revocations : ∃ authority, didAuthorityFromUrl crates.parseUrl claims.iss "iss" = .ok authority ∧
    ∀ revocation ∈ claims.revocations, ∃ did,
      parseAgentDid crates.ulidFromString revocation.agentDid = some did ∧
        did.authority = authority

/-- The calls that have been made, beside the cache. -/
structure World where
  calls : List Call
  cache : VerifyCache

def World.empty : World := ⟨[], .empty⟩

/-- The time at which the call decides: when it judges the cached entry that it returns, or when
it checks the claims that it has fetched. -/
def decidedAtMs (cache : VerifyCache) (call : Call) : ℤ :=
  if (cachedClaims crates cache call).isSome then call.checkMs else call.parseMs

/-- The claims that the call returns are as they should be. -/
structure Decides (w : World) (call : Call) (claims : CrlClaims) : Prop where
  signed : ∃ fetch ∈ w.calls ++ [call], Signed crates fetch claims
  issuer : ∀ expected, expectedIssuer call.registryUrl = some expected → claims.iss = expected
  checked : Checked crates claims
  unexpired : timestamp (decidedAtMs crates w.cache call) < claims.exp

/-- The call after the others. -/
def step (w : World) (call : Call) : Option World :=
  some {
    calls := w.calls ++ [call]
    cache := (loadCrlClaims crates w.cache call (expectedIssuer call.registryUrl)).1 }

/-- Whatever the call returns is as it should be. -/
def Safe (w : World) (call : Call) : Prop :=
  ∀ claims, (loadCrlClaims crates w.cache call (expectedIssuer call.registryUrl)).2 = .ok claims →
    Decides crates expectedIssuer w call claims

/-- Where a call that has keys finds an entry in the cache that it returns, the claims have not
expired and have the issuer that the call expects. -/
def CachedInTime (w : World) (call : Call) : Prop :=
  call.verificationKeys ≠ [] → call.readOk = true →
    ∀ claims, cachedClaims crates w.cache call = some claims →
      timestamp call.checkMs < claims.exp ∧
        ∀ expected, expectedIssuer call.registryUrl = some expected → claims.iss = expected

/-- The JSON crate reads back what it has written. -/
def RoundTrips (claims : CrlClaims) : Prop :=
  crates.fromStr (trim (crates.toString claims.toValue)) = some claims.toValue

end Spec

/-! ## Claims that are written and read back -/

theorem i64OfValue_num {v : RValue} {n : ℤ} (h : i64OfValue v = some n) :
    i64OfValue (.num n) = some n := by
  obtain ⟨-, hn⟩ := Option.filter_eq_some_iff.mp h
  simp [i64OfValue, Json.int?, Json.num?, hn]

/-- The fields of a written object, under the names that they are read by. -/
theorem get?_written (key : String) (fields : List (String × Option RValue)) :
    (Json.object rs fields).get? (rs key) = Json.lookupField key fields :=
  Json.get?_object rs_injective key fields

theorem CrlRevocation.ofValue_object (fields : List (String × Option RValue)) :
    ofValue (.object rs fields) = do
      let jti ← getString (.object rs fields) "jti"
      let agentDid ← getString (.object rs fields) "agentDid"
      let reason ← getOptString (.object rs fields) "reason"
      let revokedAt ← ((Json.object rs fields).get? (rs "revokedAt")).bind i64OfValue
      return { jti, agentDid, reason, revokedAt } := rfl

theorem CrlClaims.ofValue_object (fields : List (String × Option RValue)) :
    ofValue (.object rs fields) = do
      let iss ← getString (.object rs fields) "iss"
      let jti ← getString (.object rs fields) "jti"
      let iat ← ((Json.object rs fields).get? (rs "iat")).bind i64OfValue
      let exp ← ((Json.object rs fields).get? (rs "exp")).bind i64OfValue
      let revocations ←
        ((Json.object rs fields).get? (rs "revocations")).bind revocationsOfValue
      return { iss, jti, iat, exp, revocations } := rfl

/-- A revocation that was read is read again from what is written for it. -/
theorem CrlRevocation.ofValue_toValue {v : RValue} {r : CrlRevocation} (h : ofValue v = some r) :
    ofValue r.toValue = some r := by
  have hrevokedAt : i64OfValue (.num r.revokedAt) = some r.revokedAt := by
    unfold ofValue at h
    split at h
    · simp only [Option.bind_eq_bind, Option.bind_eq_some_iff, pure, Option.some.injEq] at h
      obtain ⟨_, -, _, -, _, -, _, hvalue, rfl⟩ := h
      exact i64OfValue_num hvalue
    · cases h
    · simp only [Option.bind_eq_bind, Option.bind_eq_some_iff, pure, Option.some.injEq] at h
      obtain ⟨_, -, _, -, _, -, _, ⟨w, -, hvalue⟩, rfl⟩ := h
      exact i64OfValue_num hvalue
  have hreason : getOptString r.toValue "reason" = some r.reason := by
    rw [getOptString, toValue, get?_written]
    cases r.reason <;> simp [Json.str?]
  rw [toValue] at hreason
  rw [toValue, ofValue_object, hreason]
  simp [getString, get?_written, Json.str?, hrevokedAt]

theorem revocationsOfValue_written {v : RValue} {revocations : List CrlRevocation}
    (h : revocationsOfValue v = some revocations) :
    revocationsOfValue (.arr (revocations.map CrlRevocation.toValue)) = some revocations := by
  cases v with
  | arr items =>
      have hread : ∀ r ∈ revocations,
          (CrlRevocation.ofValue ∘ CrlRevocation.toValue) r = some (id r) := by
        intro r hr
        obtain ⟨item, -, hitem⟩ := Lib.exists_of_mem_mapM h hr
        exact CrlRevocation.ofValue_toValue hitem
      rw [revocationsOfValue, List.mapM_map, Lib.mapM_eq_some_map hread, List.map_id]
  | null | bool _ | num _ | str _ | obj _ => cases h

/-- Claims that were read are read again from what is written for them. -/
theorem CrlClaims.ofValue_toValue {v : RValue} {c : CrlClaims} (h : ofValue v = some c) :
    ofValue c.toValue = some c := by
  obtain ⟨hiat, hexp, hrevocations⟩ : i64OfValue (.num c.iat) = some c.iat ∧
      i64OfValue (.num c.exp) = some c.exp ∧
        revocationsOfValue (.arr (c.revocations.map CrlRevocation.toValue)) =
          some c.revocations := by
    unfold ofValue at h
    split at h
    · simp only [Option.bind_eq_bind, Option.bind_eq_some_iff, pure, Option.some.injEq] at h
      obtain ⟨_, -, _, -, _, hiat, _, hexp, _, hrevocations, rfl⟩ := h
      exact ⟨i64OfValue_num hiat, i64OfValue_num hexp, revocationsOfValue_written hrevocations⟩
    · cases h
    · simp only [Option.bind_eq_bind, Option.bind_eq_some_iff, pure, Option.some.injEq] at h
      obtain ⟨_, -, _, -, _, ⟨_, -, hiat⟩, _, ⟨_, -, hexp⟩, _, ⟨w, -, hrevocations⟩, rfl⟩ := h
      exact ⟨i64OfValue_num hiat, i64OfValue_num hexp, revocationsOfValue_written hrevocations⟩
  rw [toValue, ofValue_object]
  simp [getString, get?_written, Json.str?, hiat, hexp, hrevocations]

/-! ## What a fetch returns -/

section
variable {crates : Crates} {expectedIssuer : RString → Option RString} {call : Call}
  {claims : CrlClaims}

theorem decode_eq_ok {value : RString} {context : String} {bytes : List UInt8} :
    decode value context = .ok bytes ↔ Base64url.decode value = some bytes := by
  rw [decode, Lib.mapError_eq_ok, decodeBase64url_eq_ok]

theorem parseJwtParts_eq_ok {token header payload signature : RString} :
    parseJwtParts token = .ok (header, payload, signature) ↔
      token.splitOn '.' = [header, payload, signature] := by
  unfold parseJwtParts
  split
  next h => simp [h]
  next h =>
    constructor
    · intro herror
      cases herror
    · intro hparts
      exact (h _ _ _ hparts).elim

/-- The payload is that of a token which a key of the list has signed. -/
theorem verifyJwtPayload_ok {token : RString} {keys : List CrlVerificationKey}
    {issuer : Option RString} {value : RValue}
    (h : verifyJwtPayload crates token keys issuer = .ok value) :
    (∃ header payload signature, token.splitOn '.' = [header, payload, signature] ∧
      (∃ key ∈ keys, ∃ publicKey signatureBytes, Base64url.decode key.x = some publicKey ∧
        Base64url.decode signature = some signatureBytes ∧
        crates.verify publicKey (header ++ ['.'] ++ payload) signatureBytes = true) ∧
      ∃ payloadBytes, Base64url.decode payload = some payloadBytes ∧
        crates.fromSlice payloadBytes = some value) ∧
    ∀ expected, issuer = some expected → getString value "iss" = some expected := by
  simp only [verifyJwtPayload, bind_eq_ok, elim_eq_ok, decode_eq_ok, Lib.check_eq_ok] at h
  obtain ⟨⟨header, payload, signature⟩, hparts, headerBytes, -, payloadBytes, hpayload,
    signatureBytes, hsignature, _, -, kid, -, key, hkey, publicKey, hpublic, _, -, _, -, _, -, _,
    hverify, found, hfound, hissuer⟩ := h
  have hkeys : key ∈ keys := List.mem_of_find?_eq_some hkey
  cases issuer with
  | none =>
      obtain rfl := Except.ok.inj hissuer
      exact ⟨⟨header, payload, signature, parseJwtParts_eq_ok.mp hparts,
        ⟨key, hkeys, publicKey, signatureBytes, hpublic, hsignature, hverify⟩,
        payloadBytes, hpayload, hfound⟩, fun _ h => by cases h⟩
  | some expected =>
      simp only [bind_eq_ok, elim_eq_ok, Lib.check_eq_ok, pure, Except.pure, Except.ok.injEq,
        decide_eq_true_eq] at hissuer
      obtain ⟨issuer, hiss, _, rfl, rfl⟩ := hissuer
      exact ⟨⟨header, payload, signature, parseJwtParts_eq_ok.mp hparts,
        ⟨key, hkeys, publicKey, signatureBytes, hpublic, hsignature, hverify⟩,
        payloadBytes, hpayload, hfound⟩, fun _ h => by rw [hiss, Option.some.inj h]⟩

theorem checkRevocation_eq_ok {authority : RString} {revocation : CrlRevocation} :
    checkRevocation crates authority revocation = .ok ⟨⟩ ↔
      ∃ did, parseAgentDid crates.ulidFromString revocation.agentDid = some did ∧
        did.authority = authority := by
  simp only [checkRevocation, bind_eq_ok, elim_eq_ok, Lib.check_eq_ok, decide_eq_true_eq]

/-- Claims that pass have the payload as their text, and are checked and in time. -/
theorem parseCrlClaims_ok {payload : RValue} {parseMs : ℤ}
    (h : parseCrlClaims crates payload parseMs = .ok claims) :
    CrlClaims.ofValue payload = some claims ∧ Checked crates claims ∧
      timestamp parseMs < claims.exp := by
  simp only [parseCrlClaims, bind_eq_ok, elim_eq_ok, Lib.check_eq_ok, Lib.mapError_eq_ok, pure,
    Except.pure, Except.ok.injEq, decide_eq_true_eq] at h
  obtain ⟨read, hread, _, hexp, authority, hauthority, _, hrevocations, _, hnow, rfl⟩ := h
  exact ⟨hread, ⟨hexp, authority, hauthority, fun revocation hmem =>
    checkRevocation_eq_ok.mp (Lib.forM_eq_ok.mp hrevocations revocation hmem)⟩, hnow⟩

/-- The issuer of claims is the one in the object that they were read from. -/
theorem iss_of_ofValue {value : RValue} (h : CrlClaims.ofValue value = some claims) {iss : RString}
    (hiss : getString value "iss" = some iss) : claims.iss = iss := by
  unfold CrlClaims.ofValue at h
  split at h
  · simp [getString, Json.get?] at hiss
  · cases h
  · simp only [Option.bind_eq_bind, Option.bind_eq_some_iff, pure, Option.some.injEq] at h
    obtain ⟨read, hread, _, -, _, -, _, -, _, -, rfl⟩ := h
    exact Option.some.inj (hread.symm.trans hiss)

/-- A fetch, where its token has been verified. -/
theorem fetchClaims_eq {issuer : Option RString} {token : RString} {value : RValue}
    (htoken : fetchCrl crates call = .ok token)
    (hvalue : verifyJwtPayload crates token call.verificationKeys issuer = .ok value) :
    fetchClaims crates call issuer = parseCrlClaims crates value call.parseMs := by
  simp only [fetchClaims, htoken, hvalue, bind, Except.bind]

/-- What a fetch returns is signed, has the issuer, and is checked and in time. -/
theorem fetchClaims_ok {issuer : Option RString} (h : fetchClaims crates call issuer = .ok claims) :
    Signed crates call claims ∧ (∀ expected, issuer = some expected → claims.iss = expected) ∧
      Checked crates claims ∧ timestamp call.parseMs < claims.exp := by
  simp only [fetchClaims, bind_eq_ok] at h
  obtain ⟨token, htoken, value, hvalue, hparse⟩ := h
  obtain ⟨⟨header, payload, signature, hparts, hkey, payloadBytes, hpayload, hslice⟩, hissuer⟩ :=
    verifyJwtPayload_ok hvalue
  obtain ⟨hread, hchecked, hnow⟩ := parseCrlClaims_ok hparse
  exact ⟨⟨token, header, payload, signature, htoken, hparts, hkey, payloadBytes, value, hpayload,
    hslice, hread⟩, fun expected he => iss_of_ofValue hread (hissuer expected he), hchecked, hnow⟩

/-! ## The cache -/

theorem upsertVerifyCacheEntry_ok {cache cache' : VerifyCache}
    {cacheKey registryUrl payloadJson : RString}
    (h : upsertVerifyCacheEntry cache cacheKey registryUrl payloadJson call = .ok cache') :
    cache' = cache.set (trim cacheKey) {
      registryUrl := trim registryUrl
      fetchedAtMs := call.storeMs
      payloadJson := trim payloadJson } := by
  simp only [upsertVerifyCacheEntry, bind_eq_ok, pure, Except.pure, Except.ok.injEq] at h
  obtain ⟨_, -, _, -, _, -, _, -, rfl⟩ := h
  rfl

/-- Every entry holds claims that were signed and checked when they were fetched. -/
def Inv (crates : Crates) (w : World) : Prop :=
  ∀ key entry, w.cache.get? key = some entry → ∃ claims,
    (crates.fromStr entry.payloadJson).bind CrlClaims.ofValue = some claims ∧
      (∃ fetch ∈ w.calls, Signed crates fetch claims) ∧ Checked crates claims

theorem inv_empty : Inv crates .empty := by
  intro key entry h
  cases h

/-- The claims of a cached entry. -/
theorem Inv.cached {w : World} (h : Inv crates w)
    (hcached : cachedClaims crates w.cache call = some claims) :
    (∃ fetch ∈ w.calls, Signed crates fetch claims) ∧ Checked crates claims := by
  obtain ⟨entry, hentry, hread⟩ := Option.bind_eq_some_iff.mp hcached
  obtain ⟨-, hread⟩ := Option.ite_none_right_eq_some.mp hread
  have hget : w.cache.get? (trim (cacheKeyOf call.registryUrl)) = some entry := by
    unfold getVerifyCacheEntry at hentry
    split at hentry
    · cases hentry
    · exact hentry
  obtain ⟨found, hfound, hsigned, hchecked⟩ := h _ entry hget
  obtain rfl : found = claims := Option.some.inj (hfound.symm.trans hread)
  exact ⟨hsigned, hchecked⟩

/-! ## One call -/

/-- How a call returns claims: it finds them in the cache, or it fetches them. -/
theorem loadCrlClaims_ok {cache : VerifyCache} {issuer : Option RString}
    (h : (loadCrlClaims crates cache call issuer).2 = .ok claims) :
    (call.verificationKeys ≠ [] ∧ call.readOk = true ∧
      cachedClaims crates cache call = some claims) ∨
      (cachedClaims crates cache call = none ∧ fetchClaims crates call issuer = .ok claims) := by
  unfold loadCrlClaims at h
  split at h
  next => cases h
  next hkeys =>
    split at h
    next => cases h
    next hread =>
      split at h
      next found hfound =>
        obtain rfl := Except.ok.inj h
        exact .inl ⟨by simpa using hkeys, by simpa using hread, hfound⟩
      next hnone =>
        split at h
        next => cases h
        next fetched hfetched =>
          split at h
          next => cases h
          next =>
            obtain rfl := Except.ok.inj h
            exact .inr ⟨hnone, hfetched⟩

/-- What a call does to the cache: nothing, or it stores what it has fetched. -/
theorem loadCrlClaims_cache (crates : Crates) (cache : VerifyCache) (call : Call)
    (issuer : Option RString) :
    (loadCrlClaims crates cache call issuer).1 = cache ∨
      ∃ claims, fetchClaims crates call issuer = .ok claims ∧
        (loadCrlClaims crates cache call issuer).1 =
          cache.set (trim (cacheKeyOf call.registryUrl)) {
            registryUrl := trim call.registryUrl
            fetchedAtMs := call.storeMs
            payloadJson := trim (crates.toString claims.toValue) } := by
  unfold loadCrlClaims
  split
  next => exact .inl rfl
  next =>
    split
    next => exact .inl rfl
    next =>
      split
      next => exact .inl rfl
      next =>
        split
        next => exact .inl rfl
        next claims hfetched =>
          split
          next => exact .inl rfl
          next cache' hstored =>
            exact .inr ⟨claims, hfetched, upsertVerifyCacheEntry_ok hstored⟩

/-- A call that finds nothing in the cache, and stores what it has fetched. -/
theorem loadCrlClaims_fetched {cache cache' : VerifyCache} {issuer : Option RString}
    (hkeys : call.verificationKeys ≠ []) (hread : call.readOk = true)
    (hnone : cachedClaims crates cache call = none)
    (hfetched : fetchClaims crates call issuer = .ok claims)
    (hstored : upsertVerifyCacheEntry cache (cacheKeyOf call.registryUrl) call.registryUrl
      (crates.toString claims.toValue) call = .ok cache') :
    loadCrlClaims crates cache call issuer = (cache', .ok claims) := by
  simp [loadCrlClaims, hkeys, hread, hnone, hfetched, hstored]

/-- A call that finds claims in the cache. -/
theorem loadCrlClaims_cached {cache : VerifyCache} {issuer : Option RString}
    (hkeys : call.verificationKeys ≠ []) (hread : call.readOk = true)
    (hcached : cachedClaims crates cache call = some claims) :
    loadCrlClaims crates cache call issuer = (cache, .ok claims) := by
  simp [loadCrlClaims, hkeys, hread, hcached]

theorem signed_ofValue (h : Signed crates call claims) :
    CrlClaims.ofValue claims.toValue = some claims := by
  obtain ⟨_, _, _, _, -, -, -, _, value, -, -, hread⟩ := h
  exact CrlClaims.ofValue_toValue hread

/-- A call keeps the invariant, where the JSON crate reads back the claims that it stores. -/
theorem inv_step {w w' : World} (h : Inv crates w)
    (hround : ∀ claims, fetchClaims crates call (expectedIssuer call.registryUrl) = .ok claims →
      RoundTrips crates claims)
    (hstep : step crates expectedIssuer w call = some w') : Inv crates w' := by
  obtain rfl := Option.some.inj hstep
  have hold : ∀ key entry, w.cache.get? key = some entry → ∃ claims,
      (crates.fromStr entry.payloadJson).bind CrlClaims.ofValue = some claims ∧
        (∃ fetch ∈ w.calls ++ [call], Signed crates fetch claims) ∧ Checked crates claims := by
    intro key entry hget
    obtain ⟨claims, hread, ⟨fetch, hfetch, hsigned⟩, hchecked⟩ := h key entry hget
    exact ⟨claims, hread, ⟨fetch, List.mem_append_left _ hfetch, hsigned⟩, hchecked⟩
  intro key entry hget
  rcases loadCrlClaims_cache crates w.cache call (expectedIssuer call.registryUrl) with
    hsame | ⟨claims, hfetched, hstored⟩
  · rw [hsame] at hget
    exact hold key entry hget
  · rw [hstored] at hget
    by_cases hkey : key = trim (cacheKeyOf call.registryUrl)
    · subst hkey
      rw [OrderedMap.get?_set_self] at hget
      obtain rfl := Option.some.inj hget
      obtain ⟨hsigned, -, hchecked, -⟩ := fetchClaims_ok hfetched
      refine ⟨claims, ?_, ⟨call, by simp, hsigned⟩, hchecked⟩
      rw [hround claims hfetched]
      exact signed_ofValue hsigned
    · rw [OrderedMap.get?_set_of_ne hkey] at hget
      exact hold key entry hget

/-- One call returns what it should, exactly where a cached list is in time. -/
theorem safe_iff {w : World} (h : Inv crates w) :
    Safe crates expectedIssuer w call ↔ CachedInTime crates expectedIssuer w call := by
  constructor
  · intro hsafe hkeys hread claims hcached
    have hload : (loadCrlClaims crates w.cache call (expectedIssuer call.registryUrl)).2 =
        .ok claims := by
      rw [loadCrlClaims_cached hkeys hread hcached]
    have hdecides := hsafe claims hload
    have htime := hdecides.unexpired
    rw [decidedAtMs, hcached] at htime
    exact ⟨htime, hdecides.issuer⟩
  · intro htime claims hload
    rcases loadCrlClaims_ok hload with ⟨hkeys, hread, hcached⟩ | ⟨hnone, hfetched⟩
    · obtain ⟨⟨fetch, hfetch, hsigned⟩, hchecked⟩ := h.cached hcached
      obtain ⟨hexp, hissuer⟩ := htime hkeys hread claims hcached
      refine ⟨⟨fetch, List.mem_append_left _ hfetch, hsigned⟩, hissuer, hchecked, ?_⟩
      rw [decidedAtMs, hcached]
      exact hexp
    · obtain ⟨hsigned, hissuer, hchecked, hexp⟩ := fetchClaims_ok hfetched
      refine ⟨⟨call, by simp, hsigned⟩, hissuer, hchecked, ?_⟩
      rw [decidedAtMs, hnone]
      exact hexp

/-! ## Every run of calls -/

/-- **The list that decides is signed, has the issuer, is checked and in time**, in every call of a
run, exactly where no call is answered with a cached list that has expired, or that another issuer
has signed. -/
theorem crl_decides_iff (crates : Crates) (expectedIssuer : RString → Option RString)
    {calls : List Call}
    (hserde : ∀ call ∈ calls, ∀ claims,
      fetchClaims crates call (expectedIssuer call.registryUrl) = .ok claims →
        RoundTrips crates claims) :
    AllSteps (step crates expectedIssuer) (Safe crates expectedIssuer) .empty calls ↔
      AllSteps (step crates expectedIssuer) (CachedInTime crates expectedIssuer) .empty calls := by
  refine allSteps_congr_mem (Inv crates) ?_ (fun _ _ => safe_iff) inv_empty
  intro call hcall w w' hinv _ hstep
  exact inv_step hinv (hserde call hcall) hstep

end

/-! ## A list that expires while it is cached -/

section Example

def exampleIssuer : RString := rs "https://registry.example.com"

/-- The bytes of a JSON text. -/
def jsonBytes (s : String) : List UInt8 := utf8 s.toList

def exampleClaims : CrlClaims where
  iss := exampleIssuer
  jti := rs "01HF7YAT00W6W7CM7N3W5FDXT4"
  iat := 1700000000
  exp := 1700000060
  revocations := []

def exampleHeaderText : String := "\x7b\"kid\":\"reg-key-1\"\x7d"

def exampleClaimsText : String :=
  "\x7b\"iss\":\"https://registry.example.com\",\"jti\":\"01HF7YAT00W6W7CM7N3W5FDXT4\"," ++
    "\"iat\":1700000000,\"exp\":1700000060,\"revocations\":[]\x7d"

def exampleSignature : List UInt8 := List.replicate SIGNATURE_LENGTH 7

def exampleKey : List UInt8 := List.replicate ED25519_PUBLIC_KEY_LENGTH 9

def exampleMessage : RString :=
  Base64url.encode (jsonBytes exampleHeaderText) ++ ['.'] ++
    Base64url.encode (jsonBytes exampleClaimsText)

def exampleToken : RString := exampleMessage ++ ['.'] ++ Base64url.encode exampleSignature

/-- The body of the response. -/
def exampleBody : List UInt8 :=
  jsonBytes "\x7b\"crl\":\"" ++ utf8 exampleToken ++ jsonBytes "\"\x7d"

/-- The crates, on the texts of the example. -/
def exampleCrates : Crates where
  ulidFromString := exampleUlidFromString
  parseUrl url := if url = exampleIssuer then some (some (rs "registry.example.com")) else none
  crlUrl url := if url = exampleIssuer then some (exampleIssuer ++ rs "/v1/crl") else none
  fromSlice bytes :=
    if bytes = jsonBytes exampleHeaderText then
      some (.object rs [("kid", some (.str (rs "reg-key-1")))])
    else if bytes = jsonBytes exampleClaimsText then some exampleClaims.toValue
    else if bytes = exampleBody then some (.object rs [("crl", some (.str exampleToken))])
    else none
  fromStr text := if text = exampleClaimsText.toList then some exampleClaims.toValue else none
  toString value := if value = exampleClaims.toValue then exampleClaimsText.toList else []
  claimsError _ := []
  verifyingKey _ := true
  verify key message signature :=
    key = exampleKey && message = exampleMessage && signature = exampleSignature

/-- A call with the clock at a number of seconds after the list was issued. -/
def exampleCall (seconds : ℤ) : Call where
  registryUrl := exampleIssuer
  verificationKeys := [⟨rs "reg-key-1", Base64url.encode exampleKey⟩]
  checkMs := 1700000000000 + seconds * 1000
  parseMs := 1700000000000 + seconds * 1000
  storeMs := 1700000000000 + seconds * 1000
  readOk := true
  response := .ok ⟨200, none, .ok exampleBody⟩
  jsonError := []
  writeOk := true

/-- The cache after a first call. -/
def exampleCache : VerifyCache :=
  OrderedMap.empty.set (trim (cacheKeyOf exampleIssuer)) {
    registryUrl := trim exampleIssuer
    fetchedAtMs := (exampleCall 1).storeMs
    payloadJson := trim (exampleCrates.toString exampleClaims.toValue) }

/-- What the functions of the module answer on the texts of the example: the token is fetched and
verified, and its list is parsed while it is valid. -/
theorem exampleCall_answers :
    RoundTrips exampleCrates exampleClaims ∧
      fetchCrl exampleCrates (exampleCall 0) = .ok exampleToken ∧
      verifyJwtPayload exampleCrates exampleToken (exampleCall 0).verificationKeys
        (some exampleIssuer) = .ok exampleClaims.toValue ∧
      parseCrlClaims exampleCrates exampleClaims.toValue (exampleCall 1).parseMs =
        .ok exampleClaims ∧
      parseCrlClaims exampleCrates exampleClaims.toValue (exampleCall 30).parseMs =
        .ok exampleClaims ∧
      parseCrlClaims exampleCrates exampleClaims.toValue (exampleCall 120).parseMs =
        .error (.invalidInput "CRL token is expired") ∧
      cachedClaims exampleCrates exampleCache (exampleCall 30) = some exampleClaims ∧
      cachedClaims exampleCrates exampleCache (exampleCall 120) = some exampleClaims ∧
      (!(trim (exampleCrates.toString exampleClaims.toValue)).isEmpty) = true := by
  unfold RoundTrips
  decide +kernel

theorem exampleClaims_roundTrips : RoundTrips exampleCrates exampleClaims :=
  exampleCall_answers.1

/-- A call fetches the list, and looks at its expiry. -/
theorem exampleCall_fetches (seconds : ℤ) :
    fetchClaims exampleCrates (exampleCall seconds) (some exampleIssuer) =
      parseCrlClaims exampleCrates exampleClaims.toValue (exampleCall seconds).parseMs :=
  fetchClaims_eq exampleCall_answers.2.1 exampleCall_answers.2.2.1

theorem exampleCall_parses :
    parseCrlClaims exampleCrates exampleClaims.toValue (exampleCall 1).parseMs =
        .ok exampleClaims ∧
      parseCrlClaims exampleCrates exampleClaims.toValue (exampleCall 30).parseMs =
        .ok exampleClaims ∧
      parseCrlClaims exampleCrates exampleClaims.toValue (exampleCall 120).parseMs =
        .error (.invalidInput "CRL token is expired") := by
  obtain ⟨_, _, _, hfirst, hsecond, hexpired, _⟩ := exampleCall_answers
  exact ⟨hfirst, hsecond, hexpired⟩

theorem exampleCache_cached :
    cachedClaims exampleCrates exampleCache (exampleCall 30) = some exampleClaims ∧
      cachedClaims exampleCrates exampleCache (exampleCall 120) = some exampleClaims := by
  obtain ⟨_, _, _, _, _, _, hvalid, hexpired, _⟩ := exampleCall_answers
  exact ⟨hvalid, hexpired⟩

theorem exampleCall_stores :
    upsertVerifyCacheEntry .empty (cacheKeyOf exampleIssuer) exampleIssuer
      (exampleCrates.toString exampleClaims.toValue) (exampleCall 1) = .ok exampleCache := by
  have hurl : (!(trim exampleIssuer).isEmpty) = true := by decide
  have hkey : (!(trim (cacheKeyOf exampleIssuer)).isEmpty) = true := by decide
  obtain ⟨_, _, _, _, _, _, _, _, hpayload⟩ := exampleCall_answers
  rw [upsertVerifyCacheEntry, hurl, hkey, hpayload]
  rfl

/-- The state after the first call. -/
def exampleWorld : World := ⟨[exampleCall 1], exampleCache⟩

theorem exampleWorld_step :
    step exampleCrates some .empty (exampleCall 1) = some exampleWorld := by
  have hload : loadCrlClaims exampleCrates .empty (exampleCall 1) (some exampleIssuer) =
      (exampleCache, .ok exampleClaims) :=
    loadCrlClaims_fetched (by decide) rfl rfl
      ((exampleCall_fetches 1).trans exampleCall_parses.1) exampleCall_stores
  exact congrArg (fun r => some ({ calls := [exampleCall 1], cache := r.1 } : World)) hload

/-- The list is fetched, and answers from the cache before it expires. -/
theorem exampleRun_decides :
    AllSteps (step exampleCrates some) (Safe exampleCrates some) .empty
      [exampleCall 1, exampleCall 30] := by
  refine (crl_decides_iff exampleCrates some ?_).mpr ?_
  · intro call hcall claims hfetched
    have hclaims : claims = exampleClaims := by
      rcases List.mem_pair.mp hcall with rfl | rfl
      · exact Except.ok.inj (hfetched.symm.trans
          ((exampleCall_fetches 1).trans exampleCall_parses.1))
      · exact Except.ok.inj (hfetched.symm.trans
          ((exampleCall_fetches 30).trans exampleCall_parses.2.1))
    rw [hclaims]
    exact exampleClaims_roundTrips
  · refine ⟨fun _ _ claims h => ?_, fun w hw => ⟨fun _ _ claims h => ?_, fun _ _ => trivial⟩⟩
    · cases h
    · rw [exampleWorld_step] at hw
      obtain rfl := Option.some.inj hw
      obtain rfl : exampleClaims = claims :=
        Option.some.inj (exampleCache_cached.1.symm.trans h)
      exact ⟨by decide, fun _ hissuer => Option.some.inj hissuer⟩

/-- The cached list is returned when it has expired. -/
theorem not_crl_decides :
    ¬∀ (crates : Crates) (expectedIssuer : RString → Option RString) (calls : List Call),
      (∀ call ∈ calls, ∀ claims,
        fetchClaims crates call (expectedIssuer call.registryUrl) = .ok claims →
          RoundTrips crates claims) →
        AllSteps (step crates expectedIssuer) (Safe crates expectedIssuer) .empty calls := by
  intro h
  have hround : ∀ call ∈ [exampleCall 1, exampleCall 120], ∀ claims,
      fetchClaims exampleCrates call (some call.registryUrl) = .ok claims →
        RoundTrips exampleCrates claims := by
    intro call hcall claims hfetched
    rcases List.mem_pair.mp hcall with rfl | rfl
    · rw [Except.ok.inj (hfetched.symm.trans
        ((exampleCall_fetches 1).trans exampleCall_parses.1))]
      exact exampleClaims_roundTrips
    · cases hfetched.symm.trans ((exampleCall_fetches 120).trans exampleCall_parses.2.2)
  obtain ⟨-, hrest⟩ := h exampleCrates some [exampleCall 1, exampleCall 120] hround
  obtain ⟨hsafe, -⟩ := hrest exampleWorld exampleWorld_step
  have hload : loadCrlClaims exampleCrates exampleCache (exampleCall 120) (some exampleIssuer) =
      (exampleCache, .ok exampleClaims) :=
    loadCrlClaims_cached (by decide) rfl exampleCache_cached.2
  have hexpired := (hsafe exampleClaims (congrArg Prod.snd hload)).unexpired
  rw [decidedAtMs, exampleWorld, exampleCache_cached.2] at hexpired
  revert hexpired
  decide

end Example

end Clawdentity.Rust.Crl
