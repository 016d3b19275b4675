import Clawdentity.Lib.Fallible
import Clawdentity.Protocol.Ait

/-!
# Verification of agent identity tokens

The TypeScript verifier. The token library is a parameter, with what its documentation says of
the calls that the verifier makes; an imported key is its bytes.

## Main definitions

* `Jose`, `Jose.Documented` — the library.
* `ensureAitProtectedHeader`, `verifyAIT`.
* `verifyAIT_eq_ok` — what the verifier accepts.
-/

namespace Clawdentity.AitJwt

open Js Lib Protocol

/-! ## The library -/

/-- The functions of the token library; `none` where one throws. -/
structure Jose where
  /-- `importJWK` of an Ed25519 key with this `x`. -/
  importJWK : JsString → Option (List UInt8)
  /-- The extensions that `crit` lists in the header are understood and in order. -/
  understandsCrit : Value → Bool
  /-- `jwtVerify(token, publicKey, options)` for `EdDSA` and `AIT`, at a time in seconds. -/
  jwtVerify : AitToken → List UInt8 → Option JsString → ℤ → Option Value

/-- A claim that is a number where it is there, and then passes the test. -/
def timeClaim (payload : Value) (name : String) (test : ℚ → Bool) : Bool :=
  match payload.get? (js name) with
  | none => true
  | some v => v.num?.any test

/-- The validation of the claims set. A claim `iss` must be there for an expected issuer, and
an empty one is not compared. -/
def validClaimsSet (payload : Value) (issuer : Option JsString) (now : ℤ) : Bool :=
  (issuer.all fun expected => (payload.get? (js "iss")).isSome &&
    (expected.isEmpty || getStr payload "iss" = some expected)) &&
  timeClaim payload "iat" (fun _ => true) && timeClaim payload "nbf" (fun n => n ≤ now) &&
  timeClaim payload "exp" (fun n => now < n)

/-- A proper key is imported, and a token of the algorithm and the type is verified. -/
structure Jose.Documented (jose : Jose) : Prop where
  importJWK : ∀ x bytes, decodeBase64url x = some bytes →
    bytes.length = ED25519_PUBLIC_KEY_LENGTH → jose.importJWK x = some bytes
  jwtVerify : ∀ (token : AitToken) key issuer now,
    getStr token.header "alg" = some (js "EdDSA") → getStr token.header "typ" = some (js "AIT") →
    jose.jwtVerify token key issuer now =
      if token.verifies key && jose.understandsCrit token.header &&
          validClaimsSet token.payload issuer now then
        some token.payload
      else none

/-! ## The verifier -/

structure RegistryAitVerificationKey where
  kid : JsString
  jwk : AitCnfJwk
  deriving DecidableEq

inductive AitJwtError
  | invalidHeader (message : String)
  | unknownKid (kid : JsString)
  /-- The library throws. -/
  | invalidToken
  | invalidClaims
  deriving DecidableEq

/-- The `kid` of the header. -/
def ensureAitProtectedHeader (header : Value) : Except AitJwtError JsString := do
  check (getStr header "alg" = some (js "EdDSA"))
    (.invalidHeader "AIT token must use alg=EdDSA")
  check (getStr header "typ" = some (js "AIT"))
    (.invalidHeader "AIT token must use typ=AIT")
  ((getStr header "kid").filter fun kid => !kid.isEmpty).elim
    (.error (.invalidHeader "AIT token missing protected kid header")) .ok

section
variable (toLowerCase : JsString → JsString) (jose : Jose)

def verifyAIT (token : AitToken) (registryKeys : List RegistryAitVerificationKey)
    (expectedIssuer : Option JsString) (now : ℤ) : Except AitJwtError AitClaims := do
  let kid ← ensureAitProtectedHeader token.header
  let key ← (registryKeys.find? fun item => item.kid = kid).elim (.error (.unknownKid kid)) .ok
  let publicKey ← (jose.importJWK key.jwk.x).elim (.error .invalidToken) .ok
  let payload ← (jose.jwtVerify token publicKey expectedIssuer now).elim
    (.error .invalidToken) .ok
  (parseAitClaims toLowerCase payload).elim (.error .invalidClaims) .ok

end

section
variable {toLowerCase : JsString → JsString} {jose : Jose} {token : AitToken}
  {registryKeys : List RegistryAitVerificationKey} {expectedIssuer : Option JsString} {now : ℤ}
  {claims : AitClaims}

theorem ensureAitProtectedHeader_eq_ok {header : Value} {kid : JsString} :
    ensureAitProtectedHeader header = .ok kid ↔
      getStr header "alg" = some (js "EdDSA") ∧ getStr header "typ" = some (js "AIT") ∧
        getStr header "kid" = some kid ∧ kid ≠ [] := by
  simp only [ensureAitProtectedHeader, bind_eq_ok, check_eq_ok, elim_eq_ok, decide_eq_true_eq,
    Option.filter_eq_some_iff, Bool.not_eq_true', List.isEmpty_eq_false_iff]
  constructor
  · rintro ⟨_, halg, _, htyp, hkid, hne⟩
    exact ⟨halg, htyp, hkid, hne⟩
  · rintro ⟨halg, htyp, hkid, hne⟩
    exact ⟨⟨⟩, halg, ⟨⟩, htyp, hkid, hne⟩

/-- **What the verifier accepts.** -/
theorem verifyAIT_eq_ok (hjose : jose.Documented) :
    verifyAIT toLowerCase jose token registryKeys expectedIssuer now = .ok claims ↔
      ∃ kid key publicKey, ensureAitProtectedHeader token.header = .ok kid ∧
        (registryKeys.find? fun item => item.kid = kid) = some key ∧
        jose.importJWK key.jwk.x = some publicKey ∧ token.verifies publicKey = true ∧
        jose.understandsCrit token.header = true ∧
        validClaimsSet token.payload expectedIssuer now = true ∧
        parseAitClaims toLowerCase token.payload = some claims := by
  have hverify : ∀ kid publicKey payload, ensureAitProtectedHeader token.header = .ok kid →
      (jose.jwtVerify token publicKey expectedIssuer now = some payload ↔
        (token.verifies publicKey = true ∧ jose.understandsCrit token.header = true ∧
          validClaimsSet token.payload expectedIssuer now = true) ∧ token.payload = payload) := by
    intro kid publicKey payload hheader
    obtain ⟨halg, htyp, _⟩ := ensureAitProtectedHeader_eq_ok.mp hheader
    rw [hjose.jwtVerify token publicKey expectedIssuer now halg htyp, Option.ite_none_right_eq_some,
      Option.some.injEq, Bool.and_eq_true, Bool.and_eq_true, and_assoc (c := _ = true)]
  simp only [verifyAIT, bind_eq_ok, elim_eq_ok]
  constructor
  · rintro ⟨kid, hheader, key, hkey, publicKey, himport, payload, hpayload, hclaims⟩
    obtain ⟨⟨hsigned, hcrit, hset⟩, rfl⟩ := (hverify kid publicKey payload hheader).mp hpayload
    exact ⟨kid, key, publicKey, hheader, hkey, himport, hsigned, hcrit, hset, hclaims⟩
  · rintro ⟨kid, key, publicKey, hheader, hkey, himport, hsigned, hcrit, hset, hclaims⟩
    exact ⟨kid, hheader, key, hkey, publicKey, himport, token.payload,
      (hverify kid publicKey token.payload hheader).mpr ⟨⟨hsigned, hcrit, hset⟩, rfl⟩, hclaims⟩

end

end Clawdentity.AitJwt
