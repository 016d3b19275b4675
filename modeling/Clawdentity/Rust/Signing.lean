import Clawdentity.Lib.Bytes
import Clawdentity.Lib.Fallible
import Clawdentity.Lib.Unicode
import Clawdentity.Rust.Text

/-!
# The requests that the connector signs

## Main definitions

* `canonicalizeRequest` — the text that is signed.
* `signHttpRequest` — the proof and the headers of a request.
-/

namespace Clawdentity.Rust.Signing

open Lib

def CANONICAL_REQUEST_VERSION : String := "CLAW-PROOF-V1"
def X_CLAW_TIMESTAMP : String := "X-Claw-Timestamp"
def X_CLAW_NONCE : String := "X-Claw-Nonce"
def X_CLAW_BODY_SHA256 : String := "X-Claw-Body-SHA256"
def X_CLAW_PROOF : String := "X-Claw-Proof"

/-- The functions of the crates `sha2` and `ed25519_dalek`, which the platform of the proxy has
as well. -/
structure Crypto (SecretKey : Type) where
  sha256 : List UInt8 → List UInt8
  sign : SecretKey → List UInt8 → List UInt8
  publicKey : SecretKey → List UInt8
  /-- The check of a signature, from signature, message and public key. -/
  verify : List UInt8 → List UInt8 → List UInt8 → Bool

structure SignHttpRequestInput (SecretKey : Type) where
  method : RString
  pathWithQuery : RString
  timestamp : RString
  nonce : RString
  body : List UInt8
  secretKey : SecretKey

structure SignedRequest where
  canonicalRequest : RString
  proof : RString
  bodyHash : RString
  headers : List (RString × RString)
  deriving DecidableEq

inductive SigningError
  /-- `CoreError::InvalidInput`, by its message. -/
  | invalidInput (message : String)
  deriving DecidableEq

section Code
variable {SecretKey : Type} (unicode : UppercaseMapping) (crypto : Crypto SecretKey)

/-- `canonicalize_request`. -/
def canonicalizeRequest (input : SignHttpRequestInput SecretKey) (bodyHash : RString) : RString :=
  ['\n'].intercalate [rs CANONICAL_REQUEST_VERSION, unicode.text input.method,
    input.pathWithQuery, input.timestamp, input.nonce, bodyHash]

/-- `hash_body_sha256_base64url`. -/
def hashBodySha256Base64url (body : List UInt8) : RString := Base64url.encode (crypto.sha256 body)

/-- `sign_http_request`. -/
def signHttpRequest (input : SignHttpRequestInput SecretKey) :
    Except SigningError SignedRequest := do
  check (!(trim input.method).isEmpty) (.invalidInput "method is required")
  check (!(trim input.pathWithQuery).isEmpty) (.invalidInput "pathWithQuery is required")
  check (!(trim input.timestamp).isEmpty) (.invalidInput "timestamp is required")
  check (!(trim input.nonce).isEmpty) (.invalidInput "nonce is required")
  let bodyHash := hashBodySha256Base64url crypto input.body
  let canonicalRequest := canonicalizeRequest unicode input bodyHash
  let signature := crypto.sign input.secretKey (utf8 canonicalRequest)
  let proof := Base64url.encode signature
  return {
    canonicalRequest
    proof
    bodyHash
    headers := [(rs X_CLAW_TIMESTAMP, input.timestamp), (rs X_CLAW_NONCE, input.nonce),
      (rs X_CLAW_BODY_SHA256, bodyHash), (rs X_CLAW_PROOF, proof)] }

end Code

/-- A signed request has the proof of its canonical form. -/
theorem signHttpRequest_eq_ok {SecretKey : Type} {unicode : UppercaseMapping}
    {crypto : Crypto SecretKey} {input : SignHttpRequestInput SecretKey} {signed : SignedRequest}
    (h : signHttpRequest unicode crypto input = .ok signed) :
    signed.bodyHash = hashBodySha256Base64url crypto input.body ∧
      signed.canonicalRequest = canonicalizeRequest unicode input signed.bodyHash ∧
      signed.proof =
        Base64url.encode (crypto.sign input.secretKey (utf8 signed.canonicalRequest)) := by
  simp only [signHttpRequest, bind_eq_ok, check_eq_ok] at h
  obtain ⟨_, _, _, _, _, _, _, _, heq⟩ := h
  cases heq
  exact ⟨rfl, rfl, rfl⟩

end Clawdentity.Rust.Signing
