import Clawdentity.Lib.Fallible
import Clawdentity.Protocol.Crl

/-!
# Signed revocation lists

The tokens in which the claims of a revocation list travel. The token library is a parameter;
keys are their base64url texts.

## Main definitions

* `Jose` — the token library, and `Jose.RoundTrip`, what it does with a signed list.
* `signCRL`, `verifyCRL` — the two ends.
-/

namespace Clawdentity.CrlJwt

open Js Lib Protocol

/-- The functions of the token library; `none` where one throws. -/
structure Jose where
  /-- `new SignJWT(payload).setProtectedHeader(header).sign(secretKey)`. -/
  sign : Value → Value → JsString → JsString
  decodeProtectedHeader : JsString → Option Value
  /-- `jwtVerify(token, publicKey, options)` for `EdDSA` and `CRL`, at a time in seconds. -/
  jwtVerify : JsString → JsString → Option JsString → ℕ → Option Value

structure Ed25519Keypair where
  publicKey : JsString
  secretKey : JsString
  deriving DecidableEq

structure VerificationKey where
  kid : JsString
  x : JsString
  deriving DecidableEq

inductive CrlJwtError
  | invalidHeader (message : String)
  | unknownKid (kid : JsString)
  /-- The token or its claims. -/
  | invalidToken
  deriving DecidableEq

def crlHeader (signerKid : JsString) : Value :=
  object [("alg", some (.str (js "EdDSA"))), ("typ", some (.str (js "CRL"))),
    ("kid", some (.str signerKid))]

/-- What the library does with a list that the keypair has signed: it is read back, and verified
for its issuer until it expires. -/
structure Jose.RoundTrip (jose : Jose) (signerKid : JsString) (keypair : Ed25519Keypair)
    (claims : CrlClaims) : Prop where
  decode : jose.decodeProtectedHeader
    (jose.sign (crlHeader signerKid) claims.toJson keypair.secretKey) = some (crlHeader signerKid)
  verify : ∀ issuer nowSeconds, jose.jwtVerify
    (jose.sign (crlHeader signerKid) claims.toJson keypair.secretKey) keypair.publicKey issuer
      nowSeconds =
    if (issuer.all fun expected => expected = claims.iss) ∧ nowSeconds < claims.exp then
      some claims.toJson
    else none

section
variable (toLowerCase : JsString → JsString) (jose : Jose)

/-- `none` where it throws. -/
def signCRL (claims : Value) (signerKid : JsString) (signerKeypair : Ed25519Keypair) :
    Option JsString :=
  (parseCrlClaims toLowerCase claims).map fun claims =>
    jose.sign (crlHeader signerKid) claims.toJson signerKeypair.secretKey

def verifyCRL (token : JsString) (registryKeys : List VerificationKey)
    (expectedIssuer : Option JsString) (nowSeconds : ℕ) : Except CrlJwtError CrlClaims := do
  let header ← (jose.decodeProtectedHeader token).elim (.error .invalidToken) .ok
  check (header.get? (js "alg") = some (.str (js "EdDSA")))
    (.invalidHeader "CRL token must use alg=EdDSA")
  check (header.get? (js "typ") = some (.str (js "CRL")))
    (.invalidHeader "CRL token must use typ=CRL")
  let kid ← ((getStr header "kid").filter fun kid => !kid.isEmpty).elim
    (.error (.invalidHeader "CRL token missing protected kid header")) .ok
  let key ← (registryKeys.find? fun entry => entry.kid = kid).elim (.error (.unknownKid kid)) .ok
  let payload ← (jose.jwtVerify token key.x expectedIssuer nowSeconds).elim
    (.error .invalidToken) .ok
  (parseCrlClaims toLowerCase payload).elim (.error .invalidToken) .ok

end

section
variable {toLowerCase : JsString → JsString} {jose : Jose} {signerKid : JsString}
  {keypair : Ed25519Keypair} {claims : CrlClaims}

/-- A signed list, up to the choice of the key. -/
theorem verifyCRL_sign (hjose : jose.RoundTrip signerKid keypair claims)
    (hkid : signerKid ≠ []) (keys : List VerificationKey) (issuer : Option JsString)
    (nowSeconds : ℕ) :
    verifyCRL toLowerCase jose (jose.sign (crlHeader signerKid) claims.toJson keypair.secretKey)
        keys issuer nowSeconds =
      (keys.find? fun entry => entry.kid = signerKid).elim (.error (.unknownKid signerKid))
        fun key =>
          ((jose.jwtVerify (jose.sign (crlHeader signerKid) claims.toJson keypair.secretKey) key.x
            issuer nowSeconds).bind (parseCrlClaims toLowerCase)).elim
              (.error .invalidToken) .ok := by
  have halg : (crlHeader signerKid).get? (js "alg") = some (.str (js "EdDSA")) := by
    simp [crlHeader]
  have htyp : (crlHeader signerKid).get? (js "typ") = some (.str (js "CRL")) := by
    simp [crlHeader]
  have hget : getStr (crlHeader signerKid) "kid" = some signerKid := getStr_object (by simp)
  have hfilter : (some signerKid).filter (fun kid => !kid.isEmpty) = some signerKid := by
    simp [Option.filter_some, hkid]
  simp only [verifyCRL, hjose.decode, halg, htyp, hget, hfilter, Option.elim_some, check,
    decide_true, if_true, bind, Except.bind]
  cases hfind : keys.find? fun entry => entry.kid = signerKid with
  | none => rfl
  | some key =>
      simp only [Option.elim_some]
      cases jose.jwtVerify (jose.sign (crlHeader signerKid) claims.toJson keypair.secretKey) key.x
        issuer nowSeconds with
      | none => rfl
      | some payload => rfl

/-- **What is signed is verified as the same claims.** -/
theorem verifyCRL_signCRL (hjose : jose.RoundTrip signerKid keypair claims) (hkid : signerKid ≠ [])
    (hsafe : claims.IsSafe) (hvalid : claims.isValid toLowerCase = true)
    {keys : List VerificationKey} {key : VerificationKey}
    (hkey : (keys.find? fun entry => entry.kid = signerKid) = some key)
    (hx : key.x = keypair.publicKey) {issuer : Option JsString} {nowSeconds : ℕ}
    (hissuer : (issuer.all fun expected => expected = claims.iss) = true)
    (hnow : nowSeconds < claims.exp) :
    verifyCRL toLowerCase jose (jose.sign (crlHeader signerKid) claims.toJson keypair.secretKey)
      keys issuer nowSeconds = .ok claims := by
  rw [verifyCRL_sign hjose hkid, hkey, Option.elim_some, hx, hjose.verify, if_pos ⟨hissuer, hnow⟩,
    Option.bind_some, parseCrlClaims_toJson hsafe, if_pos hvalid]
  rfl

/-- A list of another issuer is not verified. -/
theorem verifyCRL_otherIssuer (hjose : jose.RoundTrip signerKid keypair claims)
    (hkid : signerKid ≠ []) {keys : List VerificationKey} {key : VerificationKey}
    (hkey : (keys.find? fun entry => entry.kid = signerKid) = some key)
    (hx : key.x = keypair.publicKey) {issuer : Option JsString} {nowSeconds : ℕ}
    (hissuer : (issuer.all fun expected => expected = claims.iss) = false) :
    verifyCRL toLowerCase jose (jose.sign (crlHeader signerKid) claims.toJson keypair.secretKey)
      keys issuer nowSeconds = .error .invalidToken := by
  rw [verifyCRL_sign hjose hkid, hkey, Option.elim_some, hx, hjose.verify, hissuer,
    if_neg (by simp)]
  rfl

end

end Clawdentity.CrlJwt
