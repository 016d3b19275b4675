import Clawdentity.Protocol.HttpSigning
import Clawdentity.Proxy.NonceReplay
import Clawdentity.Rust.Signing

/-!
# Signed requests between the connector and the proxy

The connector signs the canonical form of a request and the proxy checks the signature of the
canonical form of what it has received.

## Main definitions

* `Checked` — what the proxy has checked of the fields of a request.
* `platform` — the check of the proxy over the same hash and signatures as the connector's.
* `SameTuple` — the fields that the proxy has received are those that the connector signed.
* `canonical_requests_agree` — the form determines the fields, is the same on both sides, and a
  signed request is accepted exactly with the fields that were signed.
-/

namespace Clawdentity.Wire.SignedRequests

open Js Lib Rust
open HttpSigning (CanonicalRequestInput canonicalizeRequest lineFeed)
open Signing (SignHttpRequestInput SignedRequest signHttpRequest)
open NonceReplay (ClawSignatureHeaders normalizeSignatureHeaders parseUnixTimestamp
  skewSeconds verifyHttpRequest)

/-! ## The check of the proxy -/

/-- What `verifyHttpRequest` has checked of the fields, and that the request line of HTTP has no
line feed in it. -/
structure Checked (input : CanonicalRequestInput) : Prop where
  method : isNonEmptyString input.method = true
  pathWithQuery : isNonEmptyString input.pathWithQuery = true
  timestamp : ∃ seconds, parseUnixTimestamp input.timestamp = .ok seconds
  nonce : isNonEmptyString input.nonce = true
  bodyHash : ∃ digest, input.bodyHash = toJs (Base64url.encode digest)
  methodLine : lineFeed ∉ input.method
  pathLine : lineFeed ∉ input.pathWithQuery

variable {SecretKey : Type} (unicode : UppercaseMapping)

section Code
variable (crypto : Signing.Crypto SecretKey)

/-- The functions that `verifyHttpRequest` calls: `TextEncoder` takes the scalar values of the
canonical form. -/
def platform : NonceReplay.Crypto where
  bodyHash body := toJs (Base64url.encode (crypto.sha256 body))
  canonicalize method pathWithQuery timestamp nonce bodyHash :=
    canonicalizeRequest unicode { method, pathWithQuery, timestamp, nonce, bodyHash }
  decodeSignature signature := (ofJs signature).bind Base64url.decode
  verifyEd25519 signature message publicKey :=
    crypto.verify signature (utf8 (Utf16.toScalars message)) publicKey

/-- The fields of a request as the proxy has received it. -/
def received (req : NonceReplay.SignedRequest) (headers : ClawSignatureHeaders) :
    CanonicalRequestInput where
  method := req.method
  pathWithQuery := req.pathWithQuery
  timestamp := headers.timestamp
  nonce := headers.nonce
  bodyHash := headers.bodySha256

/-- The fields that the connector signs, as JavaScript has them. -/
def signedTuple (input : SignHttpRequestInput SecretKey) (bodyHash : RString) :
    CanonicalRequestInput where
  method := toJs input.method
  pathWithQuery := toJs input.pathWithQuery
  timestamp := toJs input.timestamp
  nonce := toJs input.nonce
  bodyHash := toJs bodyHash

/-- Every check of `verifyHttpRequest` but that of the signature passes. -/
structure Passes (maxTimestampSkewSeconds nowMs : ℕ) (req : NonceReplay.SignedRequest)
    (headers : ClawSignatureHeaders) : Prop where
  publicKey : req.publicKey.length = 32
  method : isNonEmptyString req.method = true
  path : isNonEmptyString req.pathWithQuery = true
  headers_ok : normalizeSignatureHeaders req = .ok headers
  skew_pos : 0 < maxTimestampSkewSeconds
  timestamp : ∃ seconds, parseUnixTimestamp headers.timestamp = .ok seconds ∧
    skewSeconds nowMs seconds ≤ maxTimestampSkewSeconds
  bodyHash : headers.bodySha256 = toJs (Base64url.encode (crypto.sha256 req.body))

/-- The fields that the proxy has received are those that the connector signed, up to the case
of the method. -/
def SameTuple (receivedInput : CanonicalRequestInput) (input : SignHttpRequestInput SecretKey)
    (bodyHash : RString) : Prop :=
  Utf16.toScalars (unicode.units receivedInput.method) = unicode.text input.method ∧
    Utf16.toScalars receivedInput.pathWithQuery = input.pathWithQuery ∧
    Utf16.toScalars receivedInput.timestamp = input.timestamp ∧
    Utf16.toScalars receivedInput.nonce = input.nonce ∧
    Utf16.toScalars receivedInput.bodyHash = bodyHash

end Code

/-- What is promised of a signature: it has 64 bytes, and of all messages it is one of the
message that was signed. -/
structure SignatureOf (crypto : Signing.Crypto SecretKey) (secretKey : SecretKey)
    (message : List UInt8) : Prop where
  length : (crypto.sign secretKey message).length = 64
  verify : ∀ other, crypto.verify (crypto.sign secretKey message) other
    (crypto.publicKey secretKey) = true ↔ other = message

/-! ## The form determines the fields -/

section
variable {unicode} {crypto : Signing.Crypto SecretKey}
variable {input : SignHttpRequestInput SecretKey} {signed : SignedRequest}
variable {req : NonceReplay.SignedRequest} {headers : ClawSignatureHeaders} {m nowMs : ℕ}

/-- A timestamp is a line of digits. -/
theorem lineFeed_notMem_timestamp {timestamp : JsString} {seconds : ℕ}
    (h : parseUnixTimestamp timestamp = .ok seconds) : lineFeed ∉ timestamp := by
  intro hmem
  unfold parseUnixTimestamp at h
  split at h
  · rename_i hdigits
    simp only [Bool.and_eq_true, List.all_eq_true] at hdigits
    exact absurd (hdigits.2 lineFeed hmem) (by decide)
  · cases h

theorem lineFeed_notMem_base64url (digest : List UInt8) : '\n' ∉ Base64url.encode digest :=
  fun hmem => absurd (Base64url.isDigit_of_mem_encode hmem) (by decide)

theorem lineFeed_of_mem_toJs {s : RString} (h : lineFeed ∈ toJs s) : '\n' ∈ s := by
  obtain ⟨c, hc, hunit⟩ := List.mem_flatMap.mp h
  have hnat := Utf16.toNat_of_mem_encodeChar (by decide) hunit
  have hline : c = '\n' := Char.toNat_inj.mp hnat
  exact hline ▸ hc

theorem lineFeed_mem_toJs {s : RString} (h : '\n' ∈ s) : lineFeed ∈ toJs s :=
  List.mem_flatMap.mpr ⟨'\n', h, by decide⟩

theorem Checked.lineFeed_notMem {a : CanonicalRequestInput} (h : Checked a) :
    ∀ field ∈ [a.method, a.pathWithQuery, a.timestamp, a.bodyHash], lineFeed ∉ field := by
  obtain ⟨seconds, htimestamp⟩ := h.timestamp
  obtain ⟨digest, hhash⟩ := h.bodyHash
  have hbody : lineFeed ∉ a.bodyHash := by
    rw [hhash]
    exact fun hmem => lineFeed_notMem_base64url digest (lineFeed_of_mem_toJs hmem)
  simp only [List.forall_mem_cons]
  exact ⟨h.methodLine, h.pathLine, lineFeed_notMem_timestamp htimestamp, hbody, nofun⟩

/-! ## Both languages write it -/

theorem toJs_intercalate (parts : List RString) :
    toJs (['\n'].intercalate parts) = [lineFeed].intercalate (parts.map toJs) := by
  induction parts with
  | nil => rfl
  | cons part parts ih =>
      cases parts with
      | nil => simp
      | cons next parts =>
          rw [List.intercalate_cons_cons, List.map_cons, List.map_cons, List.intercalate_cons_cons,
            ← List.map_cons, ← ih]
          simp only [toJs, Utf16.encode_append]
          rfl

/-- **The two functions write the same text.** -/
theorem canonicalizeRequest_same (bodyHash : RString) :
    canonicalizeRequest unicode (signedTuple input bodyHash) =
      toJs (Signing.canonicalizeRequest unicode input bodyHash) := by
  rw [Signing.canonicalizeRequest, toJs_intercalate, canonicalizeRequest]
  simp only [List.map_cons, List.map_nil, signedTuple, toJs_rs]
  rw [toJs, unicode.units_encode]
  rfl

/-! ## The signature -/

theorem proof_of_normalize (h : normalizeSignatureHeaders req = .ok headers) :
    req.proof = some headers.proof := by
  simp only [normalizeSignatureHeaders, bind_eq_ok] at h
  obtain ⟨timestamp, _, nonce, _, sha, _, proof, hproof, heq⟩ := h
  cases heq
  exact (NonceReplay.ensureString_eq_ok.mp hproof).1

/-- The signature is checked for the canonical form of what was received. -/
theorem verifySignature_eq_ok (hsigned : signHttpRequest unicode crypto input = .ok signed)
    (hsignature : SignatureOf crypto input.secretKey (utf8 signed.canonicalRequest))
    (hkey : req.publicKey = crypto.publicKey input.secretKey)
    (hproof : headers.proof = toJs signed.proof) :
    NonceReplay.verifySignature (platform unicode crypto) req headers = .ok () ↔
      headers.bodySha256 = toJs (Base64url.encode (crypto.sha256 req.body)) ∧
        Utf16.toScalars (canonicalizeRequest unicode (received req headers)) =
          signed.canonicalRequest := by
  obtain ⟨_, _, hencoded⟩ := Signing.signHttpRequest_eq_ok hsigned
  have hdecode : (platform unicode crypto).decodeSignature headers.proof =
      some (crypto.sign input.secretKey (utf8 signed.canonicalRequest)) := by
    simp only [platform, hproof, ofJs_toJs, Option.bind_some, hencoded, Base64url.decode_encode]
  simp only [NonceReplay.verifySignature, bind_eq_ok, check_eq_ok, hdecode, hsignature.length,
    decide_eq_true_eq, hkey]
  simp only [platform, hsignature.verify, utf8_injective.eq_iff, received]
  constructor
  · rintro ⟨_, hbody, _, _, hcanonical⟩
    exact ⟨hbody, hcanonical⟩
  · rintro ⟨hbody, hcanonical⟩
    exact ⟨⟨⟩, hbody, ⟨⟩, trivial, hcanonical⟩

theorem newline_notMem_toScalars {us : JsString} (h : lineFeed ∉ us) :
    '\n' ∉ Utf16.toScalars us := fun hmem => h (Utf16.mem_of_mem_toScalars (by decide) hmem)

/-- The canonical forms are the same exactly where the fields are. -/
theorem sameTuple_iff {r : CanonicalRequestInput} {bodyHash : RString}
    (hr : ∀ field ∈ [r.method, r.pathWithQuery, r.timestamp, r.bodyHash], lineFeed ∉ field)
    (hs : ∀ field ∈ [input.method, input.pathWithQuery, input.timestamp, bodyHash],
      '\n' ∉ field) :
    Utf16.toScalars (canonicalizeRequest unicode r) =
        Signing.canonicalizeRequest unicode input bodyHash ↔
      SameTuple unicode r input bodyHash := by
  have hversion : Utf16.toScalars (js HttpSigning.CLAW_PROOF_CANONICAL_VERSION) =
      rs Signing.CANONICAL_REQUEST_VERSION := by
    rw [← toJs_rs, toJs, Utf16.toScalars_encode]
    rfl
  have hline : Utf16.ofUnit lineFeed = '\n' := by decide
  rw [canonicalizeRequest, Utf16.toScalars_intercalate (by decide), Signing.canonicalizeRequest]
  simp only [List.map_cons, List.map_nil, hversion, hline]
  constructor
  · intro h
    simp only [List.forall_mem_cons] at hr hs
    refine HttpSigning.lines_inj (by decide) ?_ (newline_notMem_toScalars hr.2.1)
      (newline_notMem_toScalars hr.2.2.1) (newline_notMem_toScalars hr.2.2.2.1) ?_ hs.2.1 hs.2.2.1
      hs.2.2.2.1 h
    · exact newline_notMem_toScalars fun hmem => hr.1 (unicode.lineFeed_of_mem_units hmem)
    · exact fun hmem => hs.1 (unicode.lineFeed_of_mem_text hmem)
  · rintro ⟨hmethod, hpath, htimestamp, hnonce, hbody⟩
    rw [hmethod, hpath, htimestamp, hnonce, hbody]

/-- A tuple that passes the checks of the proxy is a checked one. -/
theorem Passes.checked (h : Passes crypto m nowMs req headers) (hmethod : lineFeed ∉ req.method)
    (hpath : lineFeed ∉ req.pathWithQuery) : Checked (received req headers) where
  method := h.method
  pathWithQuery := h.path
  timestamp := h.timestamp.imp fun _ hts => hts.1
  nonce := NonceReplay.nonce_of_normalize h.headers_ok
  bodyHash := ⟨_, h.bodyHash⟩
  methodLine := hmethod
  pathLine := hpath

theorem Checked.newline_notMem {bodyHash : RString} (h : Checked (signedTuple input bodyHash)) :
    ∀ field ∈ [input.method, input.pathWithQuery, input.timestamp, bodyHash], '\n' ∉ field := by
  have hfields := h.lineFeed_notMem
  simp only [List.forall_mem_cons, signedTuple] at hfields ⊢
  exact ⟨fun hmem => hfields.1 (lineFeed_mem_toJs hmem),
    fun hmem => hfields.2.1 (lineFeed_mem_toJs hmem),
    fun hmem => hfields.2.2.1 (lineFeed_mem_toJs hmem),
    fun hmem => hfields.2.2.2.1 (lineFeed_mem_toJs hmem), nofun⟩

/-- **A signed request is accepted with the fields that were signed, and with no others.** -/
theorem verifyHttpRequest_iff (hsigned : signHttpRequest unicode crypto input = .ok signed)
    (hsignature : SignatureOf crypto input.secretKey (utf8 signed.canonicalRequest))
    (hchecked : Checked (signedTuple input signed.bodyHash))
    (hkey : req.publicKey = crypto.publicKey input.secretKey)
    (hproof : req.proof = some (toJs signed.proof)) (hmethod : lineFeed ∉ req.method)
    (hpath : lineFeed ∉ req.pathWithQuery) :
    verifyHttpRequest (platform unicode crypto) m nowMs req = .ok () ↔
      ∃ headers, Passes crypto m nowMs req headers ∧
        SameTuple unicode (received req headers) input signed.bodyHash := by
  obtain ⟨_, hcanonical, _⟩ := Signing.signHttpRequest_eq_ok hsigned
  rw [NonceReplay.verifyHttpRequest_eq_ok]
  constructor
  · rintro ⟨headers, seconds, h, hskew⟩
    have hheader := Option.some.inj ((proof_of_normalize h.headers_ok).symm.trans hproof)
    obtain ⟨hbody, hsame⟩ :=
      (verifySignature_eq_ok hsigned hsignature hkey hheader).mp h.signature_ok
    have hpasses : Passes crypto m nowMs req headers :=
      ⟨h.publicKey, h.method, h.path, h.headers_ok, h.skew_pos, ⟨seconds, h.timestamp_ok, hskew⟩,
        hbody⟩
    rw [hcanonical] at hsame
    exact ⟨headers, hpasses, (sameTuple_iff (hpasses.checked hmethod hpath).lineFeed_notMem
      hchecked.newline_notMem).mp hsame⟩
  · rintro ⟨headers, hpasses, hsame⟩
    obtain ⟨seconds, htimestamp, hskew⟩ := hpasses.timestamp
    have hheader := Option.some.inj ((proof_of_normalize hpasses.headers_ok).symm.trans hproof)
    have hforms := (sameTuple_iff (hpasses.checked hmethod hpath).lineFeed_notMem
      hchecked.newline_notMem).mpr hsame
    have hverified := (verifySignature_eq_ok hsigned hsignature hkey hheader).mpr
      ⟨hpasses.bodyHash, hforms.trans hcanonical.symm⟩
    exact ⟨headers, seconds, ⟨hpasses.publicKey, hpasses.method, hpasses.path,
      hpasses.headers_ok, hpasses.skew_pos, htimestamp, hverified⟩, hskew⟩

end

/-- **The canonical form of a request.** Two checked tuples of one form are the same up to the
case of the method; both languages write the same form of every tuple; and a request that the
connector has signed is accepted by the proxy exactly where the other checks pass and the proxy
has reconstructed the tuple that was signed. -/
theorem canonical_requests_agree (crypto : Signing.Crypto SecretKey) :
    (∀ a b : CanonicalRequestInput, Checked a → Checked b →
      canonicalizeRequest unicode a = canonicalizeRequest unicode b →
        unicode.units a.method = unicode.units b.method ∧ a.pathWithQuery = b.pathWithQuery ∧
          a.timestamp = b.timestamp ∧ a.nonce = b.nonce ∧ a.bodyHash = b.bodyHash) ∧
    (∀ (input : SignHttpRequestInput SecretKey) (bodyHash : RString),
      canonicalizeRequest unicode (signedTuple input bodyHash) =
        toJs (Signing.canonicalizeRequest unicode input bodyHash)) ∧
    ∀ (input : SignHttpRequestInput SecretKey) (signed : SignedRequest)
      (req : NonceReplay.SignedRequest) (m nowMs : ℕ),
      signHttpRequest unicode crypto input = .ok signed →
      SignatureOf crypto input.secretKey (utf8 signed.canonicalRequest) →
      Checked (signedTuple input signed.bodyHash) →
      req.publicKey = crypto.publicKey input.secretKey →
      req.proof = some (toJs signed.proof) →
      lineFeed ∉ req.method → lineFeed ∉ req.pathWithQuery →
      (verifyHttpRequest (platform unicode crypto) m nowMs req = .ok () ↔
        ∃ headers, Passes crypto m nowMs req headers ∧
          SameTuple unicode (received req headers) input signed.bodyHash) := by
  refine ⟨?_, fun _ => canonicalizeRequest_same, ?_⟩
  · intro a b ha hb h
    exact HttpSigning.canonicalizeRequest_inj unicode ha.lineFeed_notMem hb.lineFeed_notMem h
  · intro input signed req m nowMs
    exact verifyHttpRequest_iff

section Example

/-- The upper case of the letters of ASCII. -/
def exampleUnicode : UppercaseMapping where
  upper c := [if 0x61 ≤ c.toNat ∧ c.toNat ≤ 0x7A then Char.ofNat (c.toNat - 0x20) else c]
  lineFeed c h := by
    have hline := List.mem_singleton.mp h
    split at hline
    · rename_i hletter
      have hvalid : (c.toNat - 0x20).isValidChar := .inl (by omega)
      have hnat := congrArg Char.toNat hline
      rw [Utf16.toNat_ofNat hvalid] at hnat
      have hten : ('\n').toNat = 10 := rfl
      omega
    · exact hline.symm

def exampleInput : SignHttpRequestInput Unit where
  method := rs "post"
  pathWithQuery := rs "/hooks/agent"
  timestamp := rs "1700000000"
  nonce := rs "n1"
  body := []
  secretKey := ()

/-- The hash of the empty body. -/
def exampleDigest : List UInt8 :=
  [227, 176, 196, 66, 152, 252, 28, 20, 154, 251, 244, 200, 153, 111, 185, 36, 39, 174, 65, 228,
    100, 155, 147, 76, 164, 149, 153, 27, 120, 82, 184, 85]

/-- The hash and the signature, as they answer on the example. -/
def exampleCrypto : Signing.Crypto Unit where
  sha256 _ := exampleDigest
  sign _ _ := NonceReplay.exampleSignature
  publicKey _ := NonceReplay.examplePublicKey
  verify signature message publicKey :=
    signature = NonceReplay.exampleSignature && publicKey = NonceReplay.examplePublicKey &&
      message = utf8 (Signing.canonicalizeRequest exampleUnicode exampleInput
        (Base64url.encode exampleDigest))

def exampleSigned : SignedRequest where
  canonicalRequest := Signing.canonicalizeRequest exampleUnicode exampleInput
    (Base64url.encode exampleDigest)
  proof := Base64url.encode NonceReplay.exampleSignature
  bodyHash := Base64url.encode exampleDigest
  headers := [(rs "X-Claw-Timestamp", rs "1700000000"), (rs "X-Claw-Nonce", rs "n1"),
    (rs "X-Claw-Body-SHA256", Base64url.encode exampleDigest),
    (rs "X-Claw-Proof", Base64url.encode NonceReplay.exampleSignature)]

theorem exampleInput_checked : Checked (signedTuple exampleInput exampleSigned.bodyHash) where
  method := by decide
  pathWithQuery := by decide
  timestamp := ⟨1700000000, by decide⟩
  nonce := by decide
  bodyHash := ⟨exampleDigest, rfl⟩
  methodLine := by decide
  pathLine := by decide

/-- The tuple with the method in upper case. -/
def exampleReceived : CanonicalRequestInput :=
  { signedTuple exampleInput exampleSigned.bodyHash with method := js "POST" }

theorem exampleReceived_checked : Checked exampleReceived where
  method := by decide
  pathWithQuery := by decide
  timestamp := ⟨1700000000, by decide⟩
  nonce := by decide
  bodyHash := ⟨exampleDigest, rfl⟩
  methodLine := by decide
  pathLine := by decide

/-- The proxy takes the request that was signed with the method in lower case. -/
theorem exampleRequest_agrees :
    exampleUnicode.units (toJs exampleInput.method) = exampleUnicode.units (js "POST") ∧
    canonicalizeRequest exampleUnicode (signedTuple exampleInput exampleSigned.bodyHash) =
      toJs exampleSigned.canonicalRequest ∧
    (verifyHttpRequest (platform exampleUnicode exampleCrypto) 300 1700000000000
        NonceReplay.exampleRequest = .ok () ↔
      ∃ headers, Passes exampleCrypto 300 1700000000000 NonceReplay.exampleRequest headers ∧
        SameTuple exampleUnicode (received NonceReplay.exampleRequest headers) exampleInput
          exampleSigned.bodyHash) := by
  obtain ⟨hinj, hsame, hverify⟩ := canonical_requests_agree exampleUnicode exampleCrypto
  have hforms : canonicalizeRequest exampleUnicode
      (signedTuple exampleInput exampleSigned.bodyHash) =
        canonicalizeRequest exampleUnicode exampleReceived := by decide
  have hsigned : signHttpRequest exampleUnicode exampleCrypto exampleInput = .ok exampleSigned := by
    rfl
  have hsignature : SignatureOf exampleCrypto exampleInput.secretKey
      (utf8 exampleSigned.canonicalRequest) := by
    refine ⟨rfl, ?_⟩
    intro other
    simp [exampleCrypto, exampleSigned]
  refine ⟨(hinj _ _ exampleInput_checked exampleReceived_checked hforms).1, hsame exampleInput _, ?_⟩
  exact hverify exampleInput exampleSigned NonceReplay.exampleRequest 300 1700000000000 hsigned
    hsignature exampleInput_checked rfl (by decide) (by decide) (by decide)

end Example

end Clawdentity.Wire.SignedRequests
