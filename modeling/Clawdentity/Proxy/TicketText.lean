import Clawdentity.Lib.Quoted
import Clawdentity.Protocol.Ait
import Clawdentity.Proxy.PairingTicket
import Mathlib.Algebra.Order.Floor.Ring
import Mathlib.Data.Rat.Floor
import Mathlib.Logic.Encodable.Basic
import Mathlib.Logic.Equiv.List

/-!
# The text of a pairing ticket

A ticket is created as a prefix and the base64url of its signed payload. It is pasted into chats,
and every route, store and parser reads it without white space and without the backticks around
it, some of them more than once. Clock, random bytes, signature and `JSON.stringify` belong to
the platform.

## Main definitions

* `createPairingTicket` — the ticket text and the payload that it encodes.
* `TicketTextOk` — reading the text again changes nothing, and a created ticket in it is read.
* `ticket_text_ok_iff`.
-/

namespace Clawdentity.PairingTicket

open Js Lib
open Lib.Text (Quoted FreeEnds)

/-! ## Creation -/

/-- What the platform gives to a proxy that issues tickets. -/
structure Issuer where
  /-- `generateUlid`; `none` where it throws. -/
  generateUlid : ℚ → Option JsString
  /-- `JSON.stringify`. -/
  stringify : Json JsString → JsString

/-- A key pair of Ed25519. -/
structure TicketSigningKey where
  pkid : JsString
  /-- `crypto.subtle.sign` with the private key; `none` where it rejects. -/
  sign : List UInt8 → Option (List UInt8)
  length_signature : ∀ message signature, sign message = some signature → signature.length = 64

structure CreateTicketInput where
  issuerProxyUrl : JsString
  expiresAtMs : ℚ
  nowMs : ℚ
  signingKey : TicketSigningKey

def TICKET_NONCE_BYTES : ℕ := 18

/-- What `crypto.getRandomValues` fills. -/
abbrev NonceBytes := { bytes : List UInt8 // bytes.length = TICKET_NONCE_BYTES }

structure PairingTicketUnsignedPayload where
  iss : JsString
  kid : JsString
  nonce : JsString
  exp : ℤ
  pkid : JsString

/-- The payload without its signature. -/
def toUnsignedPayload (payload : PairingTicketPayload) : PairingTicketUnsignedPayload where
  iss := payload.iss
  kid := payload.kid
  nonce := payload.nonce
  exp := payload.exp
  pkid := payload.pkid

/-- The fields of the payload, in their order. -/
def PairingTicketUnsignedPayload.fields (payload : PairingTicketUnsignedPayload) :
    List (JsString × Json JsString) :=
  [(js "v", .num PAIRING_TICKET_VERSION), (js "iss", .str payload.iss),
    (js "kid", .str payload.kid), (js "nonce", .str payload.nonce), (js "exp", .num payload.exp),
    (js "pkid", .str payload.pkid)]

/-- The object of the payload and its signature. -/
def PairingTicketPayload.toJson (payload : PairingTicketPayload) : Json JsString :=
  .obj ((toUnsignedPayload payload).fields ++ [(js "sig", .str payload.sig)])

def canonicalizePairingTicketPayload (issuer : Issuer) (payload : PairingTicketUnsignedPayload) :
    JsString :=
  issuer.stringify (.obj payload.fields)

def encodeBase64url (bytes : List UInt8) : JsString := (Base64url.encode bytes).map Utf16.toUnit

/-- `TextEncoder.encode`. -/
def utf8Encode (value : JsString) : List UInt8 := utf8 (Utf16.toScalars value)

/-- Why no ticket is created. -/
inductive CreateTicketError
  | ticket (error : PairingTicketParseError)
  | clock
  | signature

structure CreatedTicket where
  ticket : JsString
  payload : PairingTicketPayload

/-- The text behind the prefix. -/
def encodePayload (issuer : Issuer) (payload : PairingTicketPayload) : JsString :=
  encodeBase64url (utf8Encode (issuer.stringify payload.toJson))

def createPairingTicket (platform : Platform) (issuer : Issuer) (random : NonceBytes)
    (input : CreateTicketInput) : Except CreateTicketError CreatedTicket := do
  let iss ← (assertHttpUrl platform input.issuerProxyUrl).mapError .ticket
  let kid ← (issuer.generateUlid input.nowMs).elim (.error .clock) .ok
  let nonce := encodeBase64url random.val
  let exp := ⌊input.expiresAtMs / 1000⌋
  let pkid ← (normalizeNonEmptyString (some (.str input.signingKey.pkid)) invalidFormat).mapError
    .ticket
  let payload : PairingTicketUnsignedPayload := { iss, kid, nonce, exp, pkid }
  let message := utf8Encode (canonicalizePairingTicketPayload issuer payload)
  let signature ← (input.signingKey.sign message).elim (.error .signature) .ok
  let signedPayload : PairingTicketPayload :=
    { iss, kid, nonce, exp, pkid, sig := encodeBase64url signature }
  return ⟨PAIRING_TICKET_PREFIX ++ encodePayload issuer signedPayload, signedPayload⟩

/-- What the platform documents of its functions. -/
structure Documented (platform : Platform) (issuer : Issuer) : Prop where
  /-- `String` of a string. -/
  toText : ∀ s, platform.toText (.str s) = s
  /-- The origin of a web address is the address of that origin. -/
  origin : ∀ text url, platform.parseUrl text = some url → url.isHttp = true →
    ∃ again, platform.parseUrl url.origin = some again ∧ again.isHttp = true ∧
      again.origin = url.origin
  ulid : ∀ ms id, issuer.generateUlid ms = some id → Protocol.isUlid id = true
  /-- What is written as JSON, UTF-8 and base64url is read back. -/
  decodePayload : ∀ payload : PairingTicketPayload,
    platform.decodePayload (encodePayload issuer payload) = some payload.toJson
  /-- The empty text is not JSON. -/
  empty : platform.decodePayload [] = none

/-! ## The characters of a ticket -/

theorem disjoint_backtick (u : UInt16) (h : isBacktick u = true) : isWhiteSpace u = false := by
  rw [beq_iff_eq.mp h]
  decide

/-- Units of a ticket are neither white space nor backticks. -/
def Plain (s : JsString) : Prop := IsGraphic s ∧ ∀ u ∈ s, isBacktick u = false

theorem encodeBase64url_plain (bytes : List UInt8) : Plain (encodeBase64url bytes) := by
  have hunit : ∀ u ∈ encodeBase64url bytes,
      0x2D ≤ u.toNat ∧ u.toNat ≤ 0x7A ∧ u.toNat ≠ 0x60 := by
    intro u hu
    obtain ⟨c, hc, rfl⟩ := List.mem_map.mp hu
    have hrange := (Base64url.isDigit_of_mem_encode hc).range
    rw [Utf16.toUnit_toNat (by omega)]
    exact hrange
  refine ⟨fun u hu => ?_, fun u hu => ?_⟩
  · have := hunit u hu
    omega
  · rw [isBacktick, beq_eq_false_iff_ne]
    rintro rfl
    exact (hunit _ hu).2.2 rfl

theorem encodeBase64url_ne_nil {bytes : List UInt8} (h : bytes ≠ []) :
    encodeBase64url bytes ≠ [] := by
  simpa [encodeBase64url, Base64url.encode_eq_nil_iff] using h

theorem plain_ticket (issuer : Issuer) (payload : PairingTicketPayload) :
    Plain (PAIRING_TICKET_PREFIX ++ encodePayload issuer payload) := by
  have hstarts : ∀ u ∈ PAIRING_TICKET_PREFIX,
      (0x20 < u.toNat ∧ u.toNat < 0x7F) ∧ isBacktick u = false :=
    forall_mem_of_all (by decide)
  have hpayload := encodeBase64url_plain (utf8Encode (issuer.stringify payload.toJson))
  refine ⟨fun u hu => ?_, fun u hu => ?_⟩
  · exact (List.mem_append.mp hu).elim (fun h => (hstarts u h).1) (hpayload.1 u)
  · exact (List.mem_append.mp hu).elim (fun h => (hstarts u h).2) (hpayload.2 u)

theorem isWhiteSpace_of_graphic {s : JsString} (h : IsGraphic s) {u : UInt16} (hu : u ∈ s) :
    isWhiteSpace u = false := by
  have hrange := h u hu
  simp [isWhiteSpace]
  omega

theorem Plain.freeEnds {s : JsString} (h : Plain s) : FreeEnds isBacktick s :=
  ⟨fun u hu => h.2 u (List.mem_of_head? hu), fun u hu => h.2 u (List.mem_of_getLast? hu)⟩

theorem Plain.filter_eq {s : JsString} (h : Plain s) :
    s.filter (fun u => !isWhiteSpace u) = s := by
  rw [List.filter_eq_self]
  intro u hu
  simp [isWhiteSpace_of_graphic h.1 hu]

/-! ## Reading the payload -/

theorem normalizeNonEmptyString_eq_ok {s t : JsString} {error : PairingTicketParseError} :
    normalizeNonEmptyString (some (.str s)) error = .ok t ↔ isNonEmptyString s = true ∧
      trim s = t := by
  simp only [normalizeNonEmptyString, Option.bind_some, Json.str?]
  by_cases h : isNonEmptyString s = true
  · rw [if_pos h]
    simp [h]
  · rw [if_neg h]
    simp [h]

/-- A field that its own reader leaves as it is. -/
def FieldOk (s : JsString) : Prop :=
  normalizeNonEmptyString (some (.str s)) invalidFormat = .ok s

theorem fieldOk_of_graphic {s : JsString} (h : IsGraphic s) (hne : s ≠ []) : FieldOk s := by
  rw [FieldOk, normalizeNonEmptyString_eq_ok, isNonEmptyString, h.trim_eq]
  simp [hne]

/-- What was read once is read the same again. -/
theorem fieldOk_of_normalized {s t : JsString}
    (h : normalizeNonEmptyString (some (.str s)) invalidFormat = .ok t) : FieldOk t := by
  obtain ⟨hne, rfl⟩ := normalizeNonEmptyString_eq_ok.mp h
  rw [FieldOk, normalizeNonEmptyString_eq_ok, isNonEmptyString, trim_trim]
  exact ⟨hne, rfl⟩

variable {platform : Platform} {issuer : Issuer}

/-- What the parser wants of the fields of a payload. -/
structure PayloadOk (platform : Platform) (payload : PairingTicketPayload) : Prop where
  iss : assertHttpUrl platform payload.iss = .ok payload.iss
  kid : FieldOk payload.kid
  nonce : FieldOk payload.nonce
  pkid : FieldOk payload.pkid
  sig : FieldOk payload.sig

/-- The origin of an accepted address is accepted, and is its own origin. -/
theorem assertHttpUrl_origin (hdoc : Documented platform issuer) {value origin : JsString}
    (h : assertHttpUrl platform value = .ok origin) : assertHttpUrl platform origin = .ok origin := by
  cases hurl : platform.parseUrl value with
  | none =>
      rw [assertHttpUrl, hurl] at h
      cases h
  | some url =>
      simp only [assertHttpUrl, hurl] at h
      split at h
      · rename_i hhttp
        cases h
        obtain ⟨again, hagain, hhttp', horigin⟩ := hdoc.origin value url hurl hhttp
        simp only [assertHttpUrl, hagain, if_pos hhttp', horigin]
      · cases h

/-- **What creation yields**: the encoding of a payload that the parser accepts. -/
theorem createPairingTicket_spec (hdoc : Documented platform issuer) {random : NonceBytes}
    {input : CreateTicketInput} {created : CreatedTicket}
    (h : createPairingTicket platform issuer random input = .ok created) :
    created.ticket = PAIRING_TICKET_PREFIX ++ encodePayload issuer created.payload ∧
      PayloadOk platform created.payload := by
  simp only [createPairingTicket, bind_eq_ok, mapError_eq_ok, elim_eq_ok, pure, Except.pure] at h
  obtain ⟨iss, hiss, kid, hkid, pkid, hpkid, signature, hsignature, hcreated⟩ := h
  cases hcreated
  have hnonempty : ∀ {n : ℕ} {bytes : List UInt8}, bytes.length = n + 1 → bytes ≠ [] := by
    rintro n bytes hlength rfl
    cases hlength
  have hulid := hdoc.ulid _ _ hkid
  have hkidne : kid ≠ [] := by
    rintro rfl
    cases hulid
  refine ⟨rfl, assertHttpUrl_origin hdoc hiss, ?_, ?_, fieldOk_of_normalized hpkid, ?_⟩
  · exact fieldOk_of_graphic (Protocol.isUlid_graphic hulid) hkidne
  · exact fieldOk_of_graphic (encodeBase64url_plain _).1
      (encodeBase64url_ne_nil (hnonempty random.property))
  · exact fieldOk_of_graphic (encodeBase64url_plain _).1
      (encodeBase64url_ne_nil (hnonempty (input.signingKey.length_signature _ _ hsignature)))

/-- **A text that is normalised to a ticket** is parsed as the payload of the ticket. -/
theorem parsePairingTicket_of_normalized (hdoc : Documented platform issuer) {text : JsString}
    {payload : PairingTicketPayload}
    (h : normalizePairingTicketText text = PAIRING_TICKET_PREFIX ++ encodePayload issuer payload)
    (hpayload : PayloadOk platform payload) : parsePairingTicket platform text = .ok payload := by
  have hne : encodePayload issuer payload ≠ [] := by
    intro hnil
    have hdecode := hdoc.decodePayload payload
    rw [hnil, hdoc.empty] at hdecode
    cases hdecode
  have hissText : textOrEmpty platform (some (.str payload.iss)) = payload.iss :=
    hdoc.toText payload.iss
  have hexp : (Json.num (S := JsString) (payload.exp : ℚ)).int? = some payload.exp := by
    simp [Json.int?, Json.num?]
  simp only [parsePairingTicket, h, List.drop_left, hdoc.decodePayload payload, bind_eq_ok,
    check_eq_ok]
  refine ⟨⟨⟩, by simp, ⟨⟩, by simpa using hne, ?_⟩
  have hobject : isRecord payload.toJson = true := rfl
  have hv : payload.toJson.get? (js "v") = some (.num PAIRING_TICKET_VERSION) := rfl
  have hiss : payload.toJson.get? (js "iss") = some (.str payload.iss) := rfl
  have hkid : payload.toJson.get? (js "kid") = some (.str payload.kid) := rfl
  have hnonce : payload.toJson.get? (js "nonce") = some (.str payload.nonce) := rfl
  have hpkid : payload.toJson.get? (js "pkid") = some (.str payload.pkid) := rfl
  have hsig : payload.toJson.get? (js "sig") = some (.str payload.sig) := rfl
  have hexpField : payload.toJson.get? (js "exp") = some (.num payload.exp) := rfl
  rw [if_pos hobject]
  simp only [bind_eq_ok, check_eq_ok]
  refine ⟨payload.toJson, rfl, ⟨⟩, by simp [hv], payload.iss, ?_, payload.kid, ?_,
    payload.nonce, ?_, payload.pkid, ?_, payload.sig, ?_, ?_⟩
  · rw [hiss, hissText]
    exact hpayload.iss
  · rw [hkid]
    exact hpayload.kid
  · rw [hnonce]
    exact hpayload.nonce
  · rw [hpkid]
    exact hpayload.pkid
  · rw [hsig]
    exact hpayload.sig
  · simp only [hexpField, Option.bind_some, hexp]

/-! ## Tickets in texts -/

/-- Reading the text again changes nothing, and where it is a created ticket with white space and
backticks around it, the ticket is read and parsed as the created payload. -/
def TicketTextOk (platform : Platform) (issuer : Issuer) (s : JsString) : Prop :=
  normalizePairingTicketText (normalizePairingTicketText s) = normalizePairingTicketText s ∧
    ∀ random input created before after,
      createPairingTicket platform issuer random input = .ok created →
      (∀ u ∈ before ++ after, isWhiteSpace u = true ∨ isBacktick u = true) →
      s = before ++ created.ticket ++ after →
      normalizePairingTicketText s = created.ticket ∧
        parsePairingTicket platform s = .ok created.payload ∧
        parseNormalizedPairingTicket platform s = .ok (created.ticket, created.payload)

/-- What remains of the text around a ticket. -/
theorem backticks_of_wrapping {s : JsString}
    (h : ∀ u ∈ s, isWhiteSpace u = true ∨ isBacktick u = true) :
    ∀ u ∈ s.filter (fun u => !isWhiteSpace u), isBacktick u = true := by
  intro u hu
  obtain ⟨hmem, hvisible⟩ := List.mem_filter.mp hu
  refine (h u hmem).resolve_left ?_
  simpa using hvisible

/-- **A text that is read the same again** is read as the ticket in it. -/
theorem normalize_wrapped {before ticket after : JsString} (hticket : Plain ticket)
    (hwrapping : ∀ u ∈ before ++ after, isWhiteSpace u = true ∨ isBacktick u = true)
    (h : normalizePairingTicketText (normalizePairingTicketText (before ++ ticket ++ after)) =
      normalizePairingTicketText (before ++ ticket ++ after)) :
    normalizePairingTicketText (before ++ ticket ++ after) = ticket := by
  have hread : normalizePairingTicketText (before ++ ticket ++ after) =
      Lib.Text.trim isBacktick ((before ++ ticket ++ after).filter fun u => !isWhiteSpace u) :=
    Lib.Text.unquote_eq_trim_filter disjoint_backtick h
  rw [hread, List.filter_append, List.filter_append, hticket.filter_eq]
  refine Lib.Text.trim_append_append ?_ ?_ hticket.freeEnds
  · exact backticks_of_wrapping fun u hu => hwrapping u (List.mem_append_left after hu)
  · exact backticks_of_wrapping fun u hu => hwrapping u (List.mem_append_right before hu)

/-- A text is read the same again and its ticket is read exactly when it is white space,
backticks, a middle, backticks and white space, where the first and the last visible character of
the middle are not backticks. -/
theorem ticket_text_ok_iff (platform : Platform) (issuer : Issuer)
    (hdoc : Documented platform issuer) (s : JsString) :
    TicketTextOk platform issuer s ↔
      ∃ m, Quoted isWhiteSpace isBacktick s m ∧
        FreeEnds isBacktick (m.filter fun u => !isWhiteSpace u) := by
  constructor
  · exact fun h => (Lib.Text.unquote_idempotent_iff disjoint_backtick).mp h.1
  · intro h
    have hagain : normalizePairingTicketText (normalizePairingTicketText s) =
        normalizePairingTicketText s :=
      (Lib.Text.unquote_idempotent_iff disjoint_backtick).mpr h
    refine ⟨hagain, ?_⟩
    rintro random input created before after hcreated hwrapping rfl
    obtain ⟨hticket, hpayload⟩ := createPairingTicket_spec hdoc hcreated
    have hplain : Plain created.ticket := by
      rw [hticket]
      exact plain_ticket issuer created.payload
    have hread := normalize_wrapped hplain hwrapping hagain
    have hparse : ∀ {text : JsString}, normalizePairingTicketText text = created.ticket →
        parsePairingTicket platform text = .ok created.payload := fun htext =>
      parsePairingTicket_of_normalized hdoc (htext.trans hticket) hpayload
    refine ⟨hread, hparse hread, ?_⟩
    rw [parseNormalizedPairingTicket, hparse (hagain.trans hread)]
    exact congrArg (fun ticket => Except.ok (ticket, created.payload)) hread

/-! ## Example -/

/-- A proxy that writes one payload as the platform does, and any other one as a number. -/
def examplePayload : PairingTicketPayload where
  iss := js "https://proxy.example"
  kid := js "01HF7YAT01M5H6RVQ6Q6N1W30X"
  nonce := encodeBase64url (List.replicate TICKET_NONCE_BYTES 0)
  exp := 1700000900
  pkid := js "01HF7YAT00M5H6RVQ6Q6N1W30X"
  sig := encodeBase64url (List.replicate 64 0)

def exampleText : JsString :=
  js "\x7b\"v\":2,\"iss\":\"https://proxy.example\",\"kid\":\"01HF7YAT01M5H6RVQ6Q6N1W30X\"," ++
    js "\"nonce\":\"" ++ examplePayload.nonce ++ js "\",\"exp\":1700000900," ++
    js "\"pkid\":\"01HF7YAT00M5H6RVQ6Q6N1W30X\",\"sig\":\"" ++ examplePayload.sig ++ js "\"\x7d"

instance exampleEncodable : Encodable UInt16 :=
  Encodable.ofLeftInjection UInt16.toNat (fun n => some (UInt16.ofNat n)) fun u => by simp

/-- The number of a payload. -/
def exampleCode (p : PairingTicketPayload) : ℕ :=
  Encodable.encode (p.iss, p.kid, p.nonce, p.exp, p.pkid, p.sig)

def exampleDecode (n : ℕ) : Option PairingTicketPayload :=
  (Encodable.decode (α := JsString × JsString × JsString × ℤ × JsString × JsString) n).map
    fun (iss, kid, nonce, exp, pkid, sig) => { iss, kid, nonce, exp, pkid, sig }

theorem exampleDecode_code (p : PairingTicketPayload) : exampleDecode (exampleCode p) = some p := by
  rw [exampleDecode, exampleCode, Encodable.encodek]
  rfl

/-- The payload of an object. -/
def exampleRead (value : Json JsString) : Option PairingTicketPayload := do
  let iss ← (value.get? (js "iss")).bind Json.str?
  let kid ← (value.get? (js "kid")).bind Json.str?
  let nonce ← (value.get? (js "nonce")).bind Json.str?
  let exp ← (value.get? (js "exp")).bind Json.int?
  let pkid ← (value.get? (js "pkid")).bind Json.str?
  let sig ← (value.get? (js "sig")).bind Json.str?
  return { iss, kid, nonce, exp, pkid, sig }

def exampleIssuer : Issuer where
  generateUlid _ := some examplePayload.kid
  stringify value := match exampleRead value with
    | some p => if p = examplePayload then exampleText
        else Utf16.encode (List.replicate (exampleCode p + 1) '0')
    | none => []

def examplePlatform : Platform where
  decodePayload text := (Base64url.decode (Utf16.toScalars text)).bind fun bytes =>
    if bytes = [] then none
    else if bytes = utf8Encode exampleText then some examplePayload.toJson
    else (exampleDecode (bytes.length - 1)).map PairingTicketPayload.toJson
  toText
    | .str s => s
    | _ => []
  parseUrl text := if text = examplePayload.iss then some ⟨js "https:", text⟩ else none
  verifySignature _ _ := true

theorem exampleRead_toJson (p : PairingTicketPayload) : exampleRead p.toJson = some p := by
  have hexp : (Json.num (S := JsString) (p.exp : ℚ)).int? = some p.exp := by
    simp [Json.int?, Json.num?]
  have hfield : p.toJson.get? (js "exp") = some (.num p.exp) := rfl
  rw [exampleRead, hfield, Option.bind_some, hexp]
  rfl

theorem utf8Encode_replicate (n : ℕ) :
    utf8Encode (Utf16.encode (List.replicate n '0')) = List.replicate n 0x30 := by
  rw [utf8Encode, Utf16.toScalars_encode]
  induction n with
  | zero => rfl
  | succ n ih =>
      rw [List.replicate_succ, List.replicate_succ, ← ih]
      rfl

theorem exampleText_ne_replicate (n : ℕ) : List.replicate n 0x30 ≠ utf8Encode exampleText := by
  intro h
  have hbrace : (0x7B : UInt8) ∈ utf8Encode exampleText := by decide +kernel
  rw [← h] at hbrace
  exact absurd (List.eq_of_mem_replicate hbrace) (by decide)

theorem toScalars_encodeBase64url (bytes : List UInt8) :
    Utf16.toScalars (encodeBase64url bytes) = Base64url.encode bytes := by
  have hbasic : ∀ c ∈ Base64url.encode bytes, c.toNat < 0x10000 := by
    intro c hc
    have := (Base64url.isDigit_of_mem_encode hc).lt
    omega
  rw [encodeBase64url, ← Utf16.encode_of_basic hbasic, Utf16.toScalars_encode]

theorem exampleDocumented : Documented examplePlatform exampleIssuer where
  toText _ := rfl
  origin text url h _ := by
    simp only [examplePlatform] at h
    split at h
    · rename_i htext
      cases h
      exact ⟨⟨js "https:", text⟩, by simp [examplePlatform, htext],
        (by decide : Url.isHttp ⟨js "https:", []⟩ = true), rfl⟩
    · cases h
  ulid ms id h := by
    cases h
    decide +kernel
  decodePayload payload := by
    simp only [examplePlatform, encodePayload, toScalars_encodeBase64url,
      Base64url.decode_encode, Option.bind_some, exampleIssuer, exampleRead_toJson]
    by_cases h : payload = examplePayload
    · rw [if_pos h, if_neg (by decide +kernel), if_pos rfl, h]
    · rw [if_neg h, utf8Encode_replicate, if_neg (by simp), if_neg (exampleText_ne_replicate _),
        List.length_replicate, Nat.add_sub_cancel, exampleDecode_code, Option.map_some]
  empty := rfl

def exampleInput : CreateTicketInput where
  issuerProxyUrl := js "https://proxy.example"
  expiresAtMs := 1700000900000
  nowMs := 1700000000000
  signingKey :=
    { pkid := js "01HF7YAT00M5H6RVQ6Q6N1W30X"
      sign := fun _ => some (List.replicate 64 0)
      length_signature := fun _ _ h => by
        cases h
        rfl }

def exampleCreated : CreatedTicket where
  ticket := PAIRING_TICKET_PREFIX ++ encodePayload exampleIssuer examplePayload
  payload := examplePayload

/-- A quoted ticket on a line of its own. -/
def exampleQuoted : JsString :=
  js "\n" ++ js "`" ++ exampleCreated.ticket ++ js "`" ++ js "\n"

theorem exampleCreated_eq :
    createPairingTicket examplePlatform exampleIssuer ⟨List.replicate 18 0, rfl⟩ exampleInput =
      .ok exampleCreated := by
  have hexp : ⌊exampleInput.expiresAtMs / 1000⌋ = examplePayload.exp := by
    norm_num [exampleInput, examplePayload]
  have hiss : assertHttpUrl examplePlatform exampleInput.issuerProxyUrl = .ok examplePayload.iss := by
    decide
  have hpkid : normalizeNonEmptyString (some (.str exampleInput.signingKey.pkid)) invalidFormat =
      .ok examplePayload.pkid := by
    decide
  rw [createPairingTicket, hiss, hpkid, hexp]
  rfl

/-- Without the space between them, the second backtick is the first character of the text. -/
theorem not_ticket_text_ok : ¬ ∀ s, TicketTextOk examplePlatform exampleIssuer s := by
  intro h
  have hagain := (h (js "` `x")).1
  exact absurd hagain (by decide)

theorem exampleQuoted_ok :
    createPairingTicket examplePlatform exampleIssuer ⟨List.replicate 18 0, rfl⟩ exampleInput =
        .ok exampleCreated ∧
      TicketTextOk examplePlatform exampleIssuer exampleQuoted := by
  have hplain : Plain exampleCreated.ticket := plain_ticket exampleIssuer examplePayload
  refine ⟨exampleCreated_eq, ?_⟩
  refine (ticket_text_ok_iff examplePlatform exampleIssuer exampleDocumented exampleQuoted).mpr
    ⟨exampleCreated.ticket, ⟨js "\n", js "`", js "`", js "\n", ?_, ?_, ?_, ?_, ?_⟩, ?_⟩
  · rfl
  · exact forall_mem_of_all (by decide)
  · exact forall_mem_of_all (by decide)
  · exact forall_mem_of_all (by decide)
  · exact forall_mem_of_all (by decide)
  · rw [hplain.filter_eq]
    exact hplain.freeEnds

end Clawdentity.PairingTicket
