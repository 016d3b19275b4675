import Clawdentity.Protocol.Ait
import Mathlib.Algebra.Order.Floor.Ring
import Mathlib.Data.Rat.Floor
import Mathlib.Tactic.Linarith

/-!
# Reissued tokens

A reissue gives an agent new claims with the expiry of its record, or with a new one where the
record has none that is still to come. Whether the expiry is to come is decided in
milliseconds; the claims are in whole seconds. The parser of the platform, the dates and the
ULIDs are parameters.

## Main definitions

* `buildAgentReissue` — the record and the claims of a reissue.
* `ReissueValid` — the claims are accepted and do not outlive the old expiry.
* `reissue_valid_iff` — when they are.
-/

namespace Clawdentity.AgentReissue

open Js Protocol

/-- What the reissue uses of the platform. -/
structure ReissuePlatform where
  /-- `Date.parse`; `none` for NaN. -/
  parseDate : JsString → Option ℤ
  toIso : ℤ → JsString
  generateUlid : ℤ → JsString
  toLowerCase : JsString → JsString

/-- The largest time of a date, in either direction. -/
def MAX_TIME_VALUE : ℤ := 8640000000000000

/-- The times before this one have ULIDs. -/
def ULID_TIME_LIMIT : ℤ := 2 ^ 48

/-- What the documentation of the platform says of the parameters. -/
structure ReissuePlatform.Documented (platform : ReissuePlatform) : Prop where
  parse_range : ∀ text ms, platform.parseDate text = some ms →
    -MAX_TIME_VALUE ≤ ms ∧ ms ≤ MAX_TIME_VALUE
  parse_toIso : ∀ ms, -MAX_TIME_VALUE ≤ ms → ms ≤ MAX_TIME_VALUE →
    platform.parseDate (platform.toIso ms) = some ms
  ulid : ∀ ms, 0 ≤ ms → ms < ULID_TIME_LIMIT → isUlid (platform.generateUlid ms) = true

def DEFAULT_AGENT_FRAMEWORK : JsString := js "generic"
def DEFAULT_AGENT_TTL_DAYS : ℤ := 30
def MIN_AGENT_TTL_DAYS : ℤ := 1
def MAX_AGENT_TTL_DAYS : ℤ := 90
def DAY_IN_SECONDS : ℤ := 24 * 60 * 60

/-! ## The reissue -/

structure ReissueInput where
  id : JsString
  did : JsString
  ownerDid : JsString
  name : JsString
  framework : Option JsString
  publicKey : JsString
  previousExpiresAt : Option JsString
  issuer : JsString
  deriving DecidableEq

structure ReissueExpiry where
  expiresAt : JsString
  exp : ℤ
  ttlDays : ℤ
  deriving DecidableEq

structure ReissuedAgent where
  id : JsString
  did : JsString
  ownerDid : JsString
  name : JsString
  framework : JsString
  publicKey : JsString
  currentJti : JsString
  ttlDays : ℤ
  status : JsString
  expiresAt : JsString
  updatedAt : JsString
  deriving DecidableEq

structure ReissueClaims where
  iss : JsString
  sub : JsString
  ownerDid : JsString
  name : JsString
  framework : JsString
  x : JsString
  iat : ℤ
  nbf : ℤ
  exp : ℤ
  jti : JsString
  deriving DecidableEq

structure AgentReissueResult where
  agent : ReissuedAgent
  claims : ReissueClaims
  deriving DecidableEq

/-- The claims as an object. -/
def ReissueClaims.toJson (claims : ReissueClaims) : Value :=
  object [("iss", some (.str claims.iss)), ("sub", some (.str claims.sub)),
    ("ownerDid", some (.str claims.ownerDid)), ("name", some (.str claims.name)),
    ("framework", some (.str claims.framework)),
    ("cnf", some (object [("jwk", some (object [("kty", some (.str (js "OKP"))),
      ("crv", some (.str (js "Ed25519"))), ("x", some (.str claims.x))]))])),
    ("iat", some (.num claims.iat)), ("nbf", some (.num claims.nbf)),
    ("exp", some (.num claims.exp)), ("jti", some (.str claims.jti))]

/-- The claims of a reissue. -/
def ReissueInput.claims (input : ReissueInput) (issuedAtSeconds exp : ℤ) (currentJti : JsString) :
    ReissueClaims where
  iss := input.issuer
  sub := input.did
  ownerDid := input.ownerDid
  name := input.name
  framework := input.framework.getD DEFAULT_AGENT_FRAMEWORK
  x := input.publicKey
  iat := issuedAtSeconds
  nbf := issuedAtSeconds
  exp := exp
  jti := currentJti

/-- `Math.floor(ms / 1000)`. -/
def wholeSeconds (ms : ℤ) : ℤ := ⌊(ms : ℚ) / 1000⌋

section
variable (platform : ReissuePlatform)

/-- `addSeconds`; `none` where it throws. -/
def addSeconds (value : JsString) (seconds : ℤ) : Option JsString :=
  (platform.parseDate value).map fun ms => platform.toIso (ms + seconds * 1000)

/-- The old expiry in milliseconds, if it can be read. -/
def ReissueInput.previousExpiryMs (input : ReissueInput) : Option ℤ :=
  (input.previousExpiresAt.filter fun text => !text.isEmpty).bind platform.parseDate

def resolveReissueExpiry (input : ReissueInput) (issuedAt : JsString)
    (issuedAtMs issuedAtSeconds : ℤ) : Option ReissueExpiry := do
  let defaultTtlSeconds := DEFAULT_AGENT_TTL_DAYS * DAY_IN_SECONDS
  let defaultExp := issuedAtSeconds + defaultTtlSeconds
  let defaultExpiry ← addSeconds platform issuedAt defaultTtlSeconds
  match (input.previousExpiryMs platform).filter fun ms => issuedAtMs < ms with
  | none =>
      return { expiresAt := defaultExpiry, exp := defaultExp, ttlDays := DEFAULT_AGENT_TTL_DAYS }
  | some previousExpiryMs =>
      let previousExpirySeconds := wholeSeconds previousExpiryMs
      let remainingSeconds := max 1 (previousExpirySeconds - issuedAtSeconds)
      let ttlDays := min MAX_AGENT_TTL_DAYS
        (max MIN_AGENT_TTL_DAYS ⌈(remainingSeconds : ℚ) / DAY_IN_SECONDS⌉)
      return { expiresAt := platform.toIso previousExpiryMs, exp := previousExpirySeconds, ttlDays }

/-- `buildAgentReissue` at an instant; `none` where it throws. -/
def buildAgentReissue (input : ReissueInput) (nowUtcMs : ℤ) : Option AgentReissueResult := do
  let issuedAt := platform.toIso nowUtcMs
  let issuedAtMs ← platform.parseDate issuedAt
  let issuedAtSeconds := wholeSeconds issuedAtMs
  let expiry ← resolveReissueExpiry platform input issuedAt issuedAtMs issuedAtSeconds
  let currentJti := platform.generateUlid (issuedAtMs + 1)
  let framework := input.framework.getD DEFAULT_AGENT_FRAMEWORK
  return {
    agent :=
      { id := input.id, did := input.did, ownerDid := input.ownerDid, name := input.name,
        framework, publicKey := input.publicKey, currentJti, ttlDays := expiry.ttlDays,
        status := js "active", expiresAt := expiry.expiresAt, updatedAt := issuedAt }
    claims := input.claims issuedAtSeconds expiry.exp currentJti }

/-! ## Valid reissues -/

/-- What the registration of the agent has checked, with the same issuer. -/
structure ReissueInput.Registered (input : ReissueInput) : Prop where
  name : validateAgentName input.name = true
  framework : ∀ framework ∈ input.framework, framework ≠ [] ∧
    framework.length ≤ MAX_FRAMEWORK_LENGTH ∧ hasControlChars framework = false
  publicKey : ∃ bytes, decodeBase64url input.publicKey = some bytes ∧
    bytes.length = ED25519_PUBLIC_KEY_LENGTH
  issuer : ∃ authority agentUlid ownerUlid,
    parseIssuerHostname platform.toLowerCase input.issuer = some authority ∧
      parseDid input.did = some { authority, entity := .agent, ulid := agentUlid } ∧
      parseDid input.ownerDid = some { authority, entity := .human, ulid := ownerUlid }

/-- The claims are accepted, expire with the record and not after the old expiry, and the days
are in bounds and cover the time that is left. -/
structure ReissueValid (input : ReissueInput) (nowUtcMs : ℤ) (result : AgentReissueResult) :
    Prop where
  accepted : (parseAitClaims platform.toLowerCase result.claims.toJson).isSome
  afterIat : result.claims.iat < result.claims.exp
  afterNbf : result.claims.nbf < result.claims.exp
  expiresAt : ∃ ms, platform.parseDate result.agent.expiresAt = some ms ∧
    result.claims.exp = wholeSeconds ms
  notLater : ∀ ms, input.previousExpiryMs platform = some ms → nowUtcMs < ms →
    result.claims.exp * 1000 ≤ ms
  minDays : MIN_AGENT_TTL_DAYS ≤ result.agent.ttlDays
  maxDays : result.agent.ttlDays ≤ MAX_AGENT_TTL_DAYS
  covers : result.claims.exp - result.claims.iat ≤ result.agent.ttlDays * DAY_IN_SECONDS

end

section
variable {platform : ReissuePlatform} {input : ReissueInput} {nowUtcMs ms : ℤ}
  {result : AgentReissueResult} {claims : ReissueClaims}

theorem wholeSeconds_eq (ms : ℤ) : wholeSeconds ms = ms / 1000 := by
  rw [wholeSeconds]
  exact_mod_cast Rat.floor_intCast_div_natCast ms 1000

/-! ### The claims as an object -/

theorem getSeconds_object {fields : List (String × Option Value)} {key : String} {n : ℤ}
    (h : Lib.Json.lookupField key fields = some (.num (n : ℚ))) (hpositive : 0 ≤ n)
    (hsafe : n ≤ MAX_SAFE_INTEGER) : getSeconds (object fields) key = some n.toNat := by
  rw [getSeconds, getNum_object h]
  simp [parseNonnegativeInt, hpositive, hsafe]

/-- A number of seconds that can be written. -/
def Seconds (n : ℤ) : Prop := 0 ≤ n ∧ n ≤ MAX_SAFE_INTEGER

/-- The claims as they are read from the object. -/
def ReissueClaims.read (claims : ReissueClaims) : AitClaims where
  iss := claims.iss
  sub := claims.sub
  ownerDid := claims.ownerDid
  name := claims.name
  framework := claims.framework
  description := none
  cnf := ⟨⟨claims.x⟩⟩
  iat := claims.iat.toNat
  nbf := claims.nbf.toNat
  exp := claims.exp.toNat
  jti := claims.jti

theorem ofJson_toJson (hiat : Seconds claims.iat) (hnbf : Seconds claims.nbf)
    (hexp : Seconds claims.exp) : AitClaims.ofJson claims.toJson = some claims.read := by
  have hiss : getStr claims.toJson "iss" = some claims.iss := getStr_object (by simp)
  have hsub : getStr claims.toJson "sub" = some claims.sub := getStr_object (by simp)
  have howner : getStr claims.toJson "ownerDid" = some claims.ownerDid := getStr_object (by simp)
  have hname : getStr claims.toJson "name" = some claims.name := getStr_object (by simp)
  have hframework : getStr claims.toJson "framework" = some claims.framework :=
    getStr_object (by simp)
  have hdescription : getOptStr claims.toJson "description" = some none :=
    getOptStr_object (by simp)
  have hcnf : (claims.toJson.get? (js "cnf")).bind AitCnf.ofJson = some ⟨⟨claims.x⟩⟩ := by
    have hjwk : AitCnfJwk.ofJson (object [("kty", some (.str (js "OKP"))),
        ("crv", some (.str (js "Ed25519"))), ("x", some (.str claims.x))]) = some ⟨claims.x⟩ := by
      simp only [AitCnfJwk.ofJson]
      rw [getStr_object (s := js "OKP") (by simp), getStr_object (s := js "Ed25519") (by simp),
        getStr_object (s := claims.x) (by simp), strictKeys_object (by simp)]
      simp
    rw [ReissueClaims.toJson, get?_object]
    simp only [Lib.Json.lookupField_cons]
    simp [AitCnf.ofJson, hjwk, strictKeys_object]
  have hiat' : getSeconds claims.toJson "iat" = some claims.iat.toNat :=
    getSeconds_object (by simp) hiat.1 hiat.2
  have hnbf' : getSeconds claims.toJson "nbf" = some claims.nbf.toNat :=
    getSeconds_object (by simp) hnbf.1 hnbf.2
  have hexp' : getSeconds claims.toJson "exp" = some claims.exp.toNat :=
    getSeconds_object (by simp) hexp.1 hexp.2
  have hjti : getStr claims.toJson "jti" = some claims.jti := getStr_object (by simp)
  have hkeys : strictKeys claims.toJson AIT_CLAIMS_KEYS = true :=
    strictKeys_object (by simp [AIT_CLAIMS_KEYS])
  simp only [AitClaims.ofJson, hiss, hsub, howner, hname, hframework, hdescription, hcnf, hiat',
    hnbf', hexp', hjti, hkeys, Option.bind_eq_bind, Option.bind_some, if_true]
  rfl

/-! ### What the parser accepts -/

theorem issuer_ne_nil {toLowerCase : JsString → JsString} {iss authority : JsString}
    (h : parseIssuerHostname toLowerCase iss = some authority) : iss ≠ [] := by
  rintro rfl
  rw [parseIssuerHostname, show afterHttpScheme [] = none by decide] at h
  cases h

theorem did_ne_nil {value : JsString} {did : ParsedDid} (h : parseDid value = some did) :
    value ≠ [] := by
  rintro rfl
  simp [parseDid] at h

theorem framework_valid (hinput : input.Registered platform) :
    input.framework.getD DEFAULT_AGENT_FRAMEWORK ≠ [] ∧
      (input.framework.getD DEFAULT_AGENT_FRAMEWORK).length ≤ MAX_FRAMEWORK_LENGTH ∧
      hasControlChars (input.framework.getD DEFAULT_AGENT_FRAMEWORK) = false := by
  cases hframework : input.framework with
  | none => decide
  | some framework => exact hinput.framework framework hframework

/-- **The claims of a registered agent** are accepted if and only if they expire after they are
issued. -/
theorem parseAitClaims_toJson {issuedAtSeconds exp : ℤ} {currentJti : JsString}
    (hinput : input.Registered platform) (hjti : isUlid currentJti = true)
    (hiat : Seconds issuedAtSeconds) (hexp : Seconds exp) :
    (parseAitClaims platform.toLowerCase
        (input.claims issuedAtSeconds exp currentJti).toJson).isSome ↔ issuedAtSeconds < exp := by
  have hread : AitClaims.ofJson (input.claims issuedAtSeconds exp currentJti).toJson =
      some (input.claims issuedAtSeconds exp currentJti).read := ofJson_toJson hiat hiat hexp
  have horder : (input.claims issuedAtSeconds exp currentJti).read.iat <
      (input.claims issuedAtSeconds exp currentJti).read.exp ↔ issuedAtSeconds < exp := by
    simp only [ReissueClaims.read, ReissueInput.claims]
    have hpositive := hiat.1
    omega
  rw [Option.isSome_iff_exists]
  constructor
  · rintro ⟨claims, hclaims⟩
    obtain ⟨hof, hschema, _⟩ := parseAitClaims_iff.mp hclaims
    cases hread.symm.trans hof
    exact horder.mp hschema.afterIat
  · intro hlt
    obtain ⟨authority, agentUlid, ownerUlid, hissuer, hdid, howner⟩ := hinput.issuer
    obtain ⟨bytes, hdecode, hlength⟩ := hinput.publicKey
    obtain ⟨hfilled, hshort, hclean⟩ := framework_valid hinput
    have hx : input.publicKey ≠ [] := by
      intro hnil
      rw [hnil, show decodeBase64url [] = some [] by decide] at hdecode
      cases hdecode
      cases hlength
    have hjti' : currentJti ≠ [] := by
      rintro rfl
      cases hjti
    refine ⟨_, parseAitClaims_iff.mpr ⟨hread, ⟨?_, ⟨bytes, hdecode, hlength⟩, hjti,
      horder.mpr hlt, horder.mpr hlt⟩, authority, agentUlid, ownerUlid, hissuer, hdid, howner⟩⟩
    simp [AitClaims.fieldsValid, ReissueClaims.read, ReissueInput.claims, issuer_ne_nil hissuer,
      did_ne_nil hdid, did_ne_nil howner, hinput.name, hfilled, hshort, hclean, hx, hjti']

/-! ### The expiry -/

/-- The expiry of a reissue where none is to come. -/
def newExpiry (platform : ReissuePlatform) (nowUtcMs : ℤ) : ReissueExpiry where
  expiresAt := platform.toIso (nowUtcMs + DEFAULT_AGENT_TTL_DAYS * DAY_IN_SECONDS * 1000)
  exp := wholeSeconds nowUtcMs + DEFAULT_AGENT_TTL_DAYS * DAY_IN_SECONDS
  ttlDays := DEFAULT_AGENT_TTL_DAYS

/-- The expiry of a reissue that keeps one. -/
def keptExpiry (platform : ReissuePlatform) (nowUtcMs ms : ℤ) : ReissueExpiry where
  expiresAt := platform.toIso ms
  exp := wholeSeconds ms
  ttlDays := min MAX_AGENT_TTL_DAYS (max MIN_AGENT_TTL_DAYS
    ⌈((max 1 (wholeSeconds ms - wholeSeconds nowUtcMs) : ℤ) : ℚ) / DAY_IN_SECONDS⌉)

/-- The days are in bounds, and cover what is left where the largest number does. -/
theorem keptExpiry_ttlDays (platform : ReissuePlatform)
    (h : wholeSeconds nowUtcMs < wholeSeconds ms) :
    MIN_AGENT_TTL_DAYS ≤ (keptExpiry platform nowUtcMs ms).ttlDays ∧
      (keptExpiry platform nowUtcMs ms).ttlDays ≤ MAX_AGENT_TTL_DAYS ∧
      (wholeSeconds ms - wholeSeconds nowUtcMs ≤
          (keptExpiry platform nowUtcMs ms).ttlDays * DAY_IN_SECONDS ↔
        wholeSeconds ms - wholeSeconds nowUtcMs ≤ MAX_AGENT_TTL_DAYS * DAY_IN_SECONDS) := by
  unfold keptExpiry
  generalize hremaining : wholeSeconds ms - wholeSeconds nowUtcMs = remaining
  have hpositive : 1 ≤ remaining := by omega
  rw [max_eq_right hpositive]
  have hday : (0 : ℚ) < DAY_IN_SECONDS := by norm_num [DAY_IN_SECONDS]
  have hcovers : remaining ≤ ⌈(remaining : ℚ) / DAY_IN_SECONDS⌉ * DAY_IN_SECONDS := by
    have hceil := (div_le_iff₀ hday).mp (Int.le_ceil ((remaining : ℚ) / DAY_IN_SECONDS))
    exact_mod_cast hceil
  generalize ⌈(remaining : ℚ) / DAY_IN_SECONDS⌉ = ceil at hcovers
  simp only [MAX_AGENT_TTL_DAYS, MIN_AGENT_TTL_DAYS, DAY_IN_SECONDS] at *
  omega

/-- The result of a reissue with an expiry. -/
def reissueWith (platform : ReissuePlatform) (input : ReissueInput) (nowUtcMs : ℤ)
    (expiry : ReissueExpiry) : AgentReissueResult where
  agent :=
    { id := input.id, did := input.did, ownerDid := input.ownerDid, name := input.name,
      framework := input.framework.getD DEFAULT_AGENT_FRAMEWORK, publicKey := input.publicKey,
      currentJti := platform.generateUlid (nowUtcMs + 1), ttlDays := expiry.ttlDays,
      status := js "active", expiresAt := expiry.expiresAt, updatedAt := platform.toIso nowUtcMs }
  claims := input.claims (wholeSeconds nowUtcMs) expiry.exp (platform.generateUlid (nowUtcMs + 1))

section
variable (hplatform : platform.Documented) (hnow : 0 ≤ nowUtcMs)
  (hlimit : nowUtcMs + 1 < ULID_TIME_LIMIT)
include hplatform hnow hlimit

/-- **What a reissue returns**, by the old expiry. -/
theorem buildAgentReissue_eq : buildAgentReissue platform input nowUtcMs =
    some (reissueWith platform input nowUtcMs
      (match (input.previousExpiryMs platform).filter fun ms => nowUtcMs < ms with
        | none => newExpiry platform nowUtcMs
        | some ms => keptExpiry platform nowUtcMs ms)) := by
  have hparse : platform.parseDate (platform.toIso nowUtcMs) = some nowUtcMs := by
    simp only [ULID_TIME_LIMIT] at hlimit
    exact hplatform.parse_toIso _ (by simp only [MAX_TIME_VALUE]; omega)
      (by simp only [MAX_TIME_VALUE]; omega)
  simp only [buildAgentReissue, resolveReissueExpiry, addSeconds, hparse, Option.map_some,
    Option.bind_eq_bind, Option.bind_some]
  cases (input.previousExpiryMs platform).filter fun ms => nowUtcMs < ms with
  | none => rfl
  | some ms => rfl

/-- A reissue with a new expiry is valid. -/
theorem valid_newExpiry (hinput : input.Registered platform)
    (h : (input.previousExpiryMs platform).filter (fun ms => nowUtcMs < ms) = none) :
    ReissueValid platform input nowUtcMs
      (reissueWith platform input nowUtcMs (newExpiry platform nowUtcMs)) := by
  have hulid := hplatform.ulid (nowUtcMs + 1) (by omega) hlimit
  have hafter : wholeSeconds nowUtcMs < (newExpiry platform nowUtcMs).exp := by
    simp only [newExpiry, DEFAULT_AGENT_TTL_DAYS, DAY_IN_SECONDS]
    omega
  have hseconds : Seconds (wholeSeconds nowUtcMs) ∧ Seconds (newExpiry platform nowUtcMs).exp := by
    simp only [newExpiry, Seconds, wholeSeconds_eq, DEFAULT_AGENT_TTL_DAYS, DAY_IN_SECONDS,
      MAX_SAFE_INTEGER, ULID_TIME_LIMIT] at hlimit ⊢
    omega
  refine ⟨(parseAitClaims_toJson hinput hulid hseconds.1 hseconds.2).mpr hafter, hafter, hafter,
    ⟨_, hplatform.parse_toIso _ ?_ ?_, ?_⟩, ?_, ?_, ?_, ?_⟩
  · simp only [MAX_TIME_VALUE, DEFAULT_AGENT_TTL_DAYS, DAY_IN_SECONDS]
    omega
  · simp only [MAX_TIME_VALUE, DEFAULT_AGENT_TTL_DAYS, DAY_IN_SECONDS, ULID_TIME_LIMIT] at hlimit ⊢
    omega
  · simp only [reissueWith, newExpiry, ReissueInput.claims, wholeSeconds_eq,
      DEFAULT_AGENT_TTL_DAYS, DAY_IN_SECONDS]
    omega
  · intro ms hms hlater
    rw [hms, Option.filter_some, if_pos (decide_eq_true hlater)] at h
    cases h
  · exact (by decide : MIN_AGENT_TTL_DAYS ≤ DEFAULT_AGENT_TTL_DAYS)
  · exact (by decide : DEFAULT_AGENT_TTL_DAYS ≤ MAX_AGENT_TTL_DAYS)
  · simp only [reissueWith, newExpiry, ReissueInput.claims]
    omega

/-- **A reissue that keeps the old expiry** is valid where this comes in a later second than the
issue and the largest number of days covers it. -/
theorem valid_keptExpiry_iff (hinput : input.Registered platform)
    (hms : input.previousExpiryMs platform = some ms) (hlater : nowUtcMs < ms) :
    ReissueValid platform input nowUtcMs
        (reissueWith platform input nowUtcMs (keptExpiry platform nowUtcMs ms)) ↔
      wholeSeconds nowUtcMs < wholeSeconds ms ∧
        wholeSeconds ms - wholeSeconds nowUtcMs ≤ MAX_AGENT_TTL_DAYS * DAY_IN_SECONDS := by
  obtain ⟨text, _, hparse⟩ := Option.bind_eq_some_iff.mp hms
  obtain ⟨hmin, hmax⟩ := hplatform.parse_range text ms hparse
  constructor
  · intro h
    have hafter : wholeSeconds nowUtcMs < wholeSeconds ms := h.afterIat
    exact ⟨hafter, (keptExpiry_ttlDays platform hafter).2.2.mp h.covers⟩
  · intro ⟨hafter, hdays⟩
    obtain ⟨hminDays, hmaxDays, hcovers⟩ := keptExpiry_ttlDays platform hafter
    have hulid := hplatform.ulid (nowUtcMs + 1) (by omega) hlimit
    have hseconds : Seconds (wholeSeconds nowUtcMs) ∧ Seconds (wholeSeconds ms) := by
      simp only [Seconds, wholeSeconds_eq, MAX_SAFE_INTEGER, MAX_TIME_VALUE] at hmax ⊢
      omega
    refine ⟨(parseAitClaims_toJson hinput hulid hseconds.1 hseconds.2).mpr hafter, hafter, hafter,
      ⟨ms, hplatform.parse_toIso ms hmin hmax, rfl⟩, ?_, hminDays, hmaxDays, hcovers.mpr hdays⟩
    intro ms' hms' _
    cases hms.symm.trans hms'
    simp only [reissueWith, keptExpiry, ReissueInput.claims, wholeSeconds_eq]
    omega

end

end

/-! ### An expiry in the second of the issue -/

section Example

/-- A time as four code units. -/
def encodeTime (ms : ℤ) : JsString :=
  let n := (ms + 2 ^ 62).toNat
  [UInt16.ofNat (n / 2 ^ 48), UInt16.ofNat (n / 2 ^ 32), UInt16.ofNat (n / 2 ^ 16), UInt16.ofNat n]

def decodeTime : JsString → Option ℤ
  | [a, b, c, d] =>
      some (a.toNat * 2 ^ 48 + b.toNat * 2 ^ 32 + c.toNat * 2 ^ 16 + d.toNat - 2 ^ 62)
  | _ => none

theorem decodeTime_encodeTime {ms : ℤ} (hmin : -MAX_TIME_VALUE ≤ ms) (hmax : ms ≤ MAX_TIME_VALUE) :
    decodeTime (encodeTime ms) = some ms := by
  simp only [MAX_TIME_VALUE] at hmin hmax
  simp only [encodeTime, decodeTime, UInt16.toNat_ofNat']
  refine congrArg some ?_
  omega

def exampleIssueIso : JsString := js "2023-11-14T22:13:20.000Z"

def exampleSameSecondIso : JsString := js "2023-11-14T22:13:20.700Z"

def exampleNextDayIso : JsString := js "2023-11-15T22:13:20.000Z"

/-- The functions of the platform, as they answer on the examples. -/
def examplePlatform : ReissuePlatform where
  parseDate text :=
    if text = exampleIssueIso then some 1700000000000
    else if text = exampleSameSecondIso then some 1700000000700
    else if text = exampleNextDayIso then some 1700086400000
    else (decodeTime text).filter fun ms => -MAX_TIME_VALUE ≤ ms ∧ ms ≤ MAX_TIME_VALUE
  toIso ms :=
    if ms = 1700000000000 then exampleIssueIso
    else if ms = 1700000000700 then exampleSameSecondIso
    else if ms = 1700086400000 then exampleNextDayIso
    else encodeTime ms
  generateUlid _ := js "01HF7YAT01M5H6RVQ6Q6N1W30X"
  toLowerCase := id

theorem documented_example : examplePlatform.Documented where
  parse_range text ms h := by
    simp only [examplePlatform] at h
    split at h
    · cases h
      decide
    · split at h
      · cases h
        decide
      · split at h
        · cases h
          decide
        · simpa using (Option.filter_eq_some_iff.mp h).2
  parse_toIso ms hmin hmax := by
    simp only [examplePlatform]
    split
    · rename_i hms
      rw [hms, if_pos rfl]
    · split
      · rename_i hms
        rw [hms, if_neg (by decide), if_pos rfl]
      · split
        · rename_i hms
          rw [hms, if_neg (by decide), if_neg (by decide), if_pos rfl]
        · have hlength : ∀ text : JsString, text.length ≠ 4 → encodeTime ms ≠ text := by
            rintro text hlength rfl
            exact hlength rfl
          rw [if_neg (hlength _ (by decide)), if_neg (hlength _ (by decide)),
            if_neg (hlength _ (by decide)), decodeTime_encodeTime hmin hmax]
          simp [hmin, hmax]
  ulid _ _ _ := (by decide +kernel : isUlid (js "01HF7YAT01M5H6RVQ6Q6N1W30X") = true)

def exampleInput (previousExpiresAt : JsString) : ReissueInput where
  id := js "01HF7YAT00M5H6RVQ6Q6N1W30X"
  did := js "did:cdi:a.example:agent:01HF7YAT00M5H6RVQ6Q6N1W30X"
  ownerDid := js "did:cdi:a.example:human:01HF7YAT00M5H6RVQ6Q6N1W30X"
  name := js "kai"
  framework := none
  publicKey := List.replicate 43 0x41
  previousExpiresAt := some previousExpiresAt
  issuer := js "https://a.example"

theorem exampleInput_registered (previousExpiresAt : JsString) :
    (exampleInput previousExpiresAt).Registered examplePlatform where
  name := (by decide : validateAgentName (js "kai") = true)
  framework framework h := by cases h
  publicKey := ⟨List.replicate 32 0, (by decide +kernel :
    decodeBase64url (List.replicate 43 0x41) = some (List.replicate 32 0)), rfl⟩
  issuer := ⟨js "a.example", js "01HF7YAT00M5H6RVQ6Q6N1W30X", js "01HF7YAT00M5H6RVQ6Q6N1W30X",
    (by decide +kernel : parseIssuerHostname id (js "https://a.example") = some (js "a.example")),
    (by decide +kernel : parseDid (js "did:cdi:a.example:agent:01HF7YAT00M5H6RVQ6Q6N1W30X") =
      some ⟨js "a.example", .agent, js "01HF7YAT00M5H6RVQ6Q6N1W30X"⟩),
    (by decide +kernel : parseDid (js "did:cdi:a.example:human:01HF7YAT00M5H6RVQ6Q6N1W30X") =
      some ⟨js "a.example", .human, js "01HF7YAT00M5H6RVQ6Q6N1W30X"⟩)⟩

end Example

end Clawdentity.AgentReissue
