import Clawdentity.Js.Text
import Clawdentity.Lib.Fallible
import Clawdentity.Lib.Run
import Clawdentity.Lib.Table

/-!
# Replay protection of signed requests

The proxy accepts a signed request when its timestamp lies within
`maxTimestampSkewSeconds` of the proxy's clock, its hash and signature verify,
and the durable `NonceReplayGuard` has not seen its nonce. The body hash and the
signature are parameters. A run is any sequence of arrivals and of alarm sweeps
on a clock that does not go back.

## Main definitions

* `verifyHttpRequestWithReplayProtection` — the check of one request.
* `NonceReplayGuard.handleTryAccept`, `NonceReplayGuard.alarm` — the durable guard.
* `step` — one arrival or one sweep, with the log of accepted requests.
-/

namespace Clawdentity.NonceReplay

open Js Lib

/-! ## The signed request and its verification -/

/-- The codes of the errors that the check throws. -/
inductive HttpSignatureError
  | missingPublic
  | invalidInput (field : String)
  | invalidTimestamp
  | timestampSkew
  | bodyHashMismatch
  | invalidProof
  | nonceCheckFailed
  | replayDetected
  deriving DecidableEq, Repr

/-- One HTTP request as the middleware hands it over: the AIT's subject and key,
and the four signature headers, each of which may be missing. -/
structure SignedRequest where
  agentDid : JsString
  publicKey : List UInt8
  method : JsString
  pathWithQuery : JsString
  body : List UInt8
  timestamp : Option JsString
  nonce : Option JsString
  bodySha256 : Option JsString
  proof : Option JsString
  deriving DecidableEq

/-- The hash and signature functions, which the check calls and does not define. -/
structure Crypto where
  /-- `hashBodySha256Base64url`. -/
  bodyHash : List UInt8 → JsString
  /-- `canonicalizeRequest`, from method, path, timestamp, nonce and body hash. -/
  canonicalize : JsString → JsString → JsString → JsString → JsString → JsString
  /-- `decodeEd25519SignatureBase64url`; `none` where it throws. -/
  decodeSignature : JsString → Option (List UInt8)
  /-- `verifyEd25519`, from signature, message and public key. -/
  verifyEd25519 : List UInt8 → JsString → List UInt8 → Bool

/-- The four headers after `normalizeSignatureHeaders`. -/
structure ClawSignatureHeaders where
  timestamp : JsString
  nonce : JsString
  bodySha256 : JsString
  proof : JsString

def ensureString (value : Option JsString) (label : String) :
    Except HttpSignatureError JsString :=
  match value with
  | some s => if isNonEmptyString s then .ok s else .error (.invalidInput label)
  | none => .error (.invalidInput label)

def normalizeSignatureHeaders (req : SignedRequest) :
    Except HttpSignatureError ClawSignatureHeaders := do
  let timestamp ← ensureString req.timestamp "X-Claw-Timestamp"
  let nonce ← ensureString req.nonce "X-Claw-Nonce"
  let bodySha256 ← ensureString req.bodySha256 "X-Claw-Body-SHA256"
  let proof ← ensureString req.proof "X-Claw-Proof"
  pure { timestamp, nonce, bodySha256, proof }

/-- The header is one or more decimal digits, read as whole seconds. -/
def parseUnixTimestamp (timestampHeader : JsString) : Except HttpSignatureError ℕ :=
  if !timestampHeader.isEmpty && timestampHeader.all isDigit then
    .ok (digitsToNat timestampHeader)
  else .error .invalidTimestamp

/-- The distance between the clock's whole second and the timestamp. -/
def skewSeconds (nowMs timestampSeconds : ℕ) : ℕ :=
  (((nowMs / 1000 : ℕ) : ℤ) - (timestampSeconds : ℤ)).natAbs

def assertTimestampWithinSkew (nowMs maxTimestampSkewSeconds timestampSeconds : ℕ) :
    Except HttpSignatureError Unit :=
  check (skewSeconds nowMs timestampSeconds ≤ maxTimestampSkewSeconds) .timestampSkew

/-- The part of the check that reads neither the clock nor the guard: the body
hash, then the proof's encoding and length, then the signature. -/
def verifySignature (crypto : Crypto) (req : SignedRequest) (headers : ClawSignatureHeaders) :
    Except HttpSignatureError Unit := do
  check (headers.bodySha256 = crypto.bodyHash req.body) .bodyHashMismatch
  let canonical := crypto.canonicalize req.method req.pathWithQuery headers.timestamp
    headers.nonce headers.bodySha256
  match crypto.decodeSignature headers.proof with
  | none => .error .invalidProof
  | some signature =>
      check (signature.length = 64) .invalidProof
      check (crypto.verifyEd25519 signature canonical req.publicKey) .invalidProof

/-- `verifyHttpRequest`. The source's `resolveNowMs` always passes, as the clock
is a natural number. -/
def verifyHttpRequest (crypto : Crypto) (maxTimestampSkewSeconds nowMs : ℕ)
    (req : SignedRequest) : Except HttpSignatureError Unit := do
  check (req.publicKey.length = 32) .missingPublic
  let _ ← ensureString (some req.method) "method"
  let _ ← ensureString (some req.pathWithQuery) "pathWithQuery"
  let headers ← normalizeSignatureHeaders req
  check (0 < maxTimestampSkewSeconds) (.invalidInput "maxTimestampSkewSeconds")
  let timestampSeconds ← parseUnixTimestamp headers.timestamp
  assertTimestampWithinSkew nowMs maxTimestampSkewSeconds timestampSeconds
  verifySignature crypto req headers

/-! ## The durable nonce guard -/

structure NonceReplayRecord where
  seenAt : ℕ
  expiresAt : ℕ
  deriving DecidableEq, Repr

/-- The guard's durable storage: its records and the alarm that is set. -/
structure NonceReplayGuard where
  records : Table JsString NonceReplayRecord
  alarmAt : Option ℕ

structure NonceReplayTryAcceptRequest where
  agentDid : JsString
  nonce : JsString
  ttlMs : ℕ
  nowMs : ℕ

inductive TryAcceptResult
  | accepted (seenAt expiresAt : ℕ)
  | replay (seenAt expiresAt : ℕ)
  | invalidInput
  deriving DecidableEq, Repr

namespace NonceReplayGuard

def empty : NonceReplayGuard := ⟨∅, none⟩

def parseTryAcceptBody (body : NonceReplayTryAcceptRequest) :
    Option NonceReplayTryAcceptRequest :=
  if isNonEmptyString body.agentDid && isNonEmptyString body.nonce && decide (0 < body.ttlMs) then
    some { body with agentDid := trim body.agentDid, nonce := trim body.nonce }
  else none

/-- `none` where `encodeURIComponent` throws. -/
def toNonceStorageKey (agentDid nonce : JsString) : Option JsString := do
  let agent ← encodeURIComponent agentDid
  let nonce ← encodeURIComponent nonce
  pure (js "nonce:" ++ agent ++ js "|" ++ nonce)

/-- The storage transaction of one accepted input. -/
def acceptKey (guard : NonceReplayGuard) (storageKey : JsString) (ttlMs nowMs : ℕ) :
    TryAcceptResult × NonceReplayGuard :=
  match guard.records.lookup storageKey with
  | some existing =>
      if nowMs < existing.expiresAt then (.replay existing.seenAt existing.expiresAt, guard)
      else put guard storageKey ttlMs nowMs
  | none => put guard storageKey ttlMs nowMs
where
  /-- Record the nonce and keep the alarm no later than its expiry. -/
  put (guard : NonceReplayGuard) (storageKey : JsString) (ttlMs nowMs : ℕ) :
      TryAcceptResult × NonceReplayGuard :=
    let expiresAt := nowMs + ttlMs
    (.accepted nowMs expiresAt,
      { records := guard.records.insert storageKey ⟨nowMs, expiresAt⟩
        alarmAt := match guard.alarmAt with
          | none => some expiresAt
          | some current => if expiresAt < current then some expiresAt else some current })

/-- `handleTryAccept`; `none` is an exception, which the caller sees as a failed check. -/
def handleTryAccept (guard : NonceReplayGuard) (body : NonceReplayTryAcceptRequest) :
    Option (TryAcceptResult × NonceReplayGuard) :=
  match parseTryAcceptBody body with
  | none => some (.invalidInput, guard)
  | some parsed =>
      (toNonceStorageKey parsed.agentDid parsed.nonce).map fun key =>
        acceptKey guard key parsed.ttlMs parsed.nowMs

/-- The earliest expiry among the records. -/
def nextExpiry (records : Table JsString NonceReplayRecord) : Option ℕ :=
  (records.entries.map fun e => e.2.expiresAt).min?

/-- The sweep: drop the expired records and set the next alarm. -/
def alarm (guard : NonceReplayGuard) (nowMs : ℕ) : NonceReplayGuard :=
  let records := guard.records.keep fun _ record => decide (nowMs < record.expiresAt)
  { records := records, alarmAt := nextExpiry records }

end NonceReplayGuard

/-- `verifyHttpRequestWithReplayProtection` as the middleware calls it, with
`nonceTtlMs = maxTimestampSkewSeconds * 1000` and the durable guard behind
`tryAcceptNonce`. -/
def verifyHttpRequestWithReplayProtection (crypto : Crypto) (maxTimestampSkewSeconds nowMs : ℕ)
    (req : SignedRequest) (guard : NonceReplayGuard) :
    Except HttpSignatureError Unit × NonceReplayGuard :=
  match verifyHttpRequest crypto maxTimestampSkewSeconds nowMs req with
  | .error e => (.error e, guard)
  | .ok () =>
    match normalizeSignatureHeaders req, ensureString (some req.agentDid) "agentDid" with
    | .error e, _ => (.error e, guard)
    | _, .error e => (.error e, guard)
    | .ok headers, .ok agentDid =>
      match guard.handleTryAccept
          { agentDid, nonce := headers.nonce, ttlMs := maxTimestampSkewSeconds * 1000, nowMs } with
      | none => (.error .nonceCheckFailed, guard)
      | some (.invalidInput, next) => (.error .nonceCheckFailed, next)
      | some (.replay _ _, next) => (.error .replayDetected, next)
      | some (.accepted _ _, next) => (.ok (), next)

/-! ## Runs -/

/-- An arrival of a request or a sweep, each at a clock value. -/
inductive Event
  | arrive (nowMs : ℕ) (req : SignedRequest)
  | alarm (nowMs : ℕ)
  deriving DecidableEq

/-- The guard, the last clock value and the accepted requests, latest first. -/
structure State where
  guard : NonceReplayGuard
  clock : ℕ
  accepted : List (SignedRequest × ℕ)

def State.init : State := ⟨.empty, 0, []⟩

/-- One event; an event before the last clock value is not enabled. -/
def step (crypto : Crypto) (maxTimestampSkewSeconds : ℕ) (s : State) : Event → Option State
  | .arrive nowMs req =>
      if nowMs < s.clock then none
      else
        match verifyHttpRequestWithReplayProtection crypto maxTimestampSkewSeconds nowMs req
            s.guard with
        | (.ok (), next) => some ⟨next, nowMs, (req, nowMs) :: s.accepted⟩
        | (.error _, next) => some ⟨next, nowMs, s.accepted⟩
  | .alarm nowMs =>
      if nowMs < s.clock then none else some { s with guard := s.guard.alarm nowMs, clock := nowMs }

/-- How often a request was accepted. -/
def State.timesAccepted (s : State) (req : SignedRequest) : ℕ :=
  (s.accepted.map Prod.fst).count req

/-- The request's timestamp lies in a whole second that is over at `nowMs`. -/
def TimestampElapsed (req : SignedRequest) (nowMs : ℕ) : Prop :=
  ∀ header ts, req.timestamp = some header → parseUnixTimestamp header = .ok ts → ts < nowMs / 1000

/-! ## What one check does -/

/-- Everything that `verifyHttpRequest` asks of a request apart from the clock. -/
structure StaticallyValid (crypto : Crypto) (maxTimestampSkewSeconds : ℕ) (req : SignedRequest)
    (headers : ClawSignatureHeaders) (ts : ℕ) : Prop where
  publicKey : req.publicKey.length = 32
  method : isNonEmptyString req.method = true
  path : isNonEmptyString req.pathWithQuery = true
  headers_ok : normalizeSignatureHeaders req = .ok headers
  skew_pos : 0 < maxTimestampSkewSeconds
  timestamp_ok : parseUnixTimestamp headers.timestamp = .ok ts
  signature_ok : verifySignature crypto req headers = .ok ()

theorem ensureString_eq_ok {value : Option JsString} {label : String} {s : JsString} :
    ensureString value label = .ok s ↔ value = some s ∧ isNonEmptyString s = true := by
  cases value with
  | none => simp [ensureString]
  | some v =>
      simp only [ensureString, Option.some.injEq]
      split <;> rename_i h
      · constructor
        · rintro ⟨⟩; exact ⟨rfl, h⟩
        · rintro ⟨rfl, _⟩; rfl
      · constructor
        · rintro ⟨⟩
        · rintro ⟨rfl, hv⟩; exact absurd hv h

theorem timestamp_of_normalize {req : SignedRequest} {headers : ClawSignatureHeaders}
    (h : normalizeSignatureHeaders req = .ok headers) : req.timestamp = some headers.timestamp := by
  simp only [normalizeSignatureHeaders, bind_eq_ok] at h
  obtain ⟨timestamp, ht, nonce, _, sha, _, proof, _, heq⟩ := h
  cases heq
  exact (ensureString_eq_ok.mp ht).1

/-- The clock enters the verification only through the skew. -/
theorem verifyHttpRequest_eq_ok {crypto : Crypto} {m nowMs : ℕ} {req : SignedRequest} :
    verifyHttpRequest crypto m nowMs req = .ok () ↔
      ∃ headers ts, StaticallyValid crypto m req headers ts ∧ skewSeconds nowMs ts ≤ m := by
  simp only [verifyHttpRequest, bind_eq_ok, ensureString_eq_ok, check_eq_ok,
    assertTimestampWithinSkew, decide_eq_true_eq, Option.some.injEq]
  constructor
  · rintro ⟨_, hk, _, ⟨rfl, hm⟩, _, ⟨rfl, hp⟩, headers, hh, _, hs, ts, ht, _, hskew, hsig⟩
    exact ⟨headers, ts, ⟨hk, hm, hp, hh, hs, ht, hsig⟩, hskew⟩
  · rintro ⟨headers, ts, h, hskew⟩
    exact ⟨⟨⟩, h.publicKey, _, ⟨rfl, h.method⟩, _, ⟨rfl, h.path⟩, headers, h.headers_ok, ⟨⟩,
      h.skew_pos, ts, h.timestamp_ok, ⟨⟩, hskew, h.signature_ok⟩

/-- The key under which the guard files a request. -/
def storageKey (req : SignedRequest) : Option JsString :=
  match normalizeSignatureHeaders req, ensureString (some req.agentDid) "agentDid" with
  | .ok headers, .ok agentDid =>
      NonceReplayGuard.toNonceStorageKey (trim agentDid) (trim headers.nonce)
  | _, _ => none

/-- The guard holds no record of the key that is still alive at `nowMs`. -/
def NonceReplayGuard.Unseen (guard : NonceReplayGuard) (key : JsString) (nowMs : ℕ) : Prop :=
  ∀ record, guard.records.lookup key = some record → record.expiresAt ≤ nowMs

theorem acceptKey_of_unseen {guard : NonceReplayGuard} {key : JsString} {ttlMs nowMs : ℕ}
    (h : guard.Unseen key nowMs) :
    guard.acceptKey key ttlMs nowMs = NonceReplayGuard.acceptKey.put guard key ttlMs nowMs := by
  unfold NonceReplayGuard.acceptKey
  cases hl : guard.records.lookup key with
  | none => rfl
  | some existing => simp [Nat.not_lt.mpr (h existing hl)]

theorem acceptKey_of_seen {guard : NonceReplayGuard} {key : JsString} {nowMs : ℕ} (ttlMs : ℕ)
    (h : ¬ guard.Unseen key nowMs) :
    ∃ seenAt expiresAt, guard.acceptKey key ttlMs nowMs = (.replay seenAt expiresAt, guard) := by
  simp only [NonceReplayGuard.Unseen, not_forall, Nat.not_le] at h
  obtain ⟨record, hl, hlt⟩ := h
  exact ⟨record.seenAt, record.expiresAt, by simp [NonceReplayGuard.acceptKey, hl, hlt]⟩

theorem handleTryAccept_of_nonEmpty {guard : NonceReplayGuard} {agentDid nonce : JsString}
    {ttlMs nowMs : ℕ} (hd : isNonEmptyString agentDid = true) (hn : isNonEmptyString nonce = true)
    (ht : 0 < ttlMs) :
    guard.handleTryAccept { agentDid, nonce, ttlMs, nowMs } =
      (NonceReplayGuard.toNonceStorageKey (trim agentDid) (trim nonce)).map fun key =>
        guard.acceptKey key ttlMs nowMs := by
  simp [NonceReplayGuard.handleTryAccept, NonceReplayGuard.parseTryAcceptBody, hd, hn, ht]

theorem nonce_of_normalize {req : SignedRequest} {headers : ClawSignatureHeaders}
    (h : normalizeSignatureHeaders req = .ok headers) : isNonEmptyString headers.nonce = true := by
  simp only [normalizeSignatureHeaders, bind_eq_ok] at h
  obtain ⟨timestamp, _, nonce, hn, sha, _, proof, _, heq⟩ := h
  cases heq
  exact (ensureString_eq_ok.mp hn).2

/-- A verified request whose storage key exists is decided by the guard's transaction. -/
theorem replayProtection_of_verified {crypto : Crypto} {m nowMs : ℕ} {req : SignedRequest}
    {guard : NonceReplayGuard} {key : JsString}
    (hv : verifyHttpRequest crypto m nowMs req = .ok ()) (hk : storageKey req = some key) :
    verifyHttpRequestWithReplayProtection crypto m nowMs req guard =
      match guard.acceptKey key (m * 1000) nowMs with
      | (.invalidInput, next) => (.error .nonceCheckFailed, next)
      | (.replay _ _, next) => (.error .replayDetected, next)
      | (.accepted _ _, next) => (.ok (), next) := by
  obtain ⟨headers, ts, hs, _⟩ := verifyHttpRequest_eq_ok.mp hv
  cases hd : ensureString (some req.agentDid) "agentDid" with
  | error e => simp [storageKey, hs.headers_ok, hd] at hk
  | ok agentDid =>
      have hkey : NonceReplayGuard.toNonceStorageKey (trim agentDid) (trim headers.nonce) =
          some key := by simpa [storageKey, hs.headers_ok, hd] using hk
      have hskew := hs.skew_pos
      simp only [verifyHttpRequestWithReplayProtection, hv, hs.headers_ok, hd,
        handleTryAccept_of_nonEmpty (ensureString_eq_ok.mp hd).2 (nonce_of_normalize hs.headers_ok)
          (show 0 < m * 1000 by omega), hkey, Option.map_some]
      rcases guard.acceptKey key (m * 1000) nowMs with ⟨_ | _ | _, next⟩ <;> rfl

/-- **What one check does.** It accepts a verified request that the guard has not
seen and records its key, or it leaves the guard as it was. -/
theorem replayProtection_cases (crypto : Crypto) (m nowMs : ℕ) (req : SignedRequest)
    (guard : NonceReplayGuard) :
    (∃ key, verifyHttpRequest crypto m nowMs req = .ok () ∧ storageKey req = some key ∧
      guard.Unseen key nowMs ∧
      verifyHttpRequestWithReplayProtection crypto m nowMs req guard =
        (.ok (), (NonceReplayGuard.acceptKey.put guard key (m * 1000) nowMs).2)) ∨
    ∃ e, verifyHttpRequestWithReplayProtection crypto m nowMs req guard = (.error e, guard) := by
  cases hv : verifyHttpRequest crypto m nowMs req with
  | error e => exact .inr ⟨e, by simp [verifyHttpRequestWithReplayProtection, hv]⟩
  | ok u =>
      cases hk : storageKey req with
      | some key =>
          by_cases hu : guard.Unseen key nowMs
          · refine .inl ⟨key, rfl, rfl, hu, ?_⟩
            rw [replayProtection_of_verified hv hk, acceptKey_of_unseen hu]
            rfl
          · obtain ⟨seenAt, expiresAt, h⟩ := acceptKey_of_seen (m * 1000) hu
            exact .inr ⟨.replayDetected, by rw [replayProtection_of_verified hv hk, h]⟩
      | none =>
          obtain ⟨headers, ts, hs, _⟩ := verifyHttpRequest_eq_ok.mp hv
          have hskew := hs.skew_pos
          refine .inr ?_
          cases hd : ensureString (some req.agentDid) "agentDid" with
          | error e =>
              exact ⟨e, by simp [verifyHttpRequestWithReplayProtection, hv, hs.headers_ok, hd]⟩
          | ok agentDid =>
              have hkey : NonceReplayGuard.toNonceStorageKey (trim agentDid)
                  (trim headers.nonce) = none := by
                simpa [storageKey, hs.headers_ok, hd] using hk
              exact ⟨.nonceCheckFailed, by
                simp only [verifyHttpRequestWithReplayProtection, hv, hs.headers_ok, hd,
                  handleTryAccept_of_nonEmpty (ensureString_eq_ok.mp hd).2
                    (nonce_of_normalize hs.headers_ok) (show 0 < m * 1000 by omega), hkey,
                  Option.map_none]⟩

/-- **What one event does.** -/
theorem step_cases {crypto : Crypto} {m : ℕ} {s s' : State} {e : Event}
    (h : step crypto m s e = some s') :
    (∃ nowMs req key, e = .arrive nowMs req ∧ s.clock ≤ nowMs ∧
      verifyHttpRequest crypto m nowMs req = .ok () ∧ storageKey req = some key ∧
      s.guard.Unseen key nowMs ∧
      s' = ⟨(NonceReplayGuard.acceptKey.put s.guard key (m * 1000) nowMs).2, nowMs,
        (req, nowMs) :: s.accepted⟩) ∨
    (∃ nowMs req, e = .arrive nowMs req ∧ s.clock ≤ nowMs ∧ s' = { s with clock := nowMs }) ∨
    (∃ nowMs, e = .alarm nowMs ∧ s.clock ≤ nowMs ∧
      s' = { s with guard := s.guard.alarm nowMs, clock := nowMs }) := by
  cases e with
  | arrive nowMs req =>
      simp only [step] at h
      split at h
      · cases h
      · rename_i hclock
        rcases replayProtection_cases crypto m nowMs req s.guard with
          ⟨key, hv, hk, hu, heq⟩ | ⟨err, heq⟩
        · rw [heq] at h
          cases h
          exact .inl ⟨nowMs, req, key, rfl, Nat.not_lt.mp hclock, hv, hk, hu, rfl⟩
        · rw [heq] at h
          cases h
          exact .inr (.inl ⟨nowMs, req, rfl, Nat.not_lt.mp hclock, rfl⟩)
  | alarm nowMs =>
      simp only [step] at h
      split at h
      · cases h
      · rename_i hclock
        cases h
        exact .inr (.inr ⟨nowMs, rfl, Nat.not_lt.mp hclock, rfl⟩)

/-- A verified request that the guard has not seen is accepted. -/
theorem step_arrive_of_unseen {crypto : Crypto} {m nowMs : ℕ} {s : State} {req : SignedRequest}
    {key : JsString} (hclock : s.clock ≤ nowMs)
    (hv : verifyHttpRequest crypto m nowMs req = .ok ()) (hk : storageKey req = some key)
    (hu : s.guard.Unseen key nowMs) :
    step crypto m s (.arrive nowMs req) =
      some ⟨(NonceReplayGuard.acceptKey.put s.guard key (m * 1000) nowMs).2, nowMs,
        (req, nowMs) :: s.accepted⟩ := by
  simp only [step, Nat.not_lt.mpr hclock, if_false, replayProtection_of_verified hv hk,
    acceptKey_of_unseen hu]
  rfl

/-! ## The guard's memory -/

/-- The guard holds a record of the key that lives at least until `till`. -/
def NonceReplayGuard.Remembers (guard : NonceReplayGuard) (key : JsString) (till : ℕ) : Prop :=
  ∃ record, guard.records.lookup key = some record ∧ till ≤ record.expiresAt

theorem not_unseen_of_remembers {guard : NonceReplayGuard} {key : JsString} {till nowMs : ℕ}
    (h : guard.Remembers key till) (hlt : nowMs < till) : ¬ guard.Unseen key nowMs := by
  obtain ⟨record, hl, hle⟩ := h
  intro hu
  have := hu record hl
  omega

theorem put_records_lookup_self (guard : NonceReplayGuard) (key : JsString) (ttlMs nowMs : ℕ) :
    (NonceReplayGuard.acceptKey.put guard key ttlMs nowMs).2.records.lookup key =
      some ⟨nowMs, nowMs + ttlMs⟩ :=
  AList.lookup_insert _

theorem remembers_put_self (guard : NonceReplayGuard) (key : JsString) (ttlMs nowMs : ℕ) :
    (NonceReplayGuard.acceptKey.put guard key ttlMs nowMs).2.Remembers key (nowMs + ttlMs) :=
  ⟨_, put_records_lookup_self guard key ttlMs nowMs, le_rfl⟩

/-- A later entry never shortens the life of an earlier one, under any key. -/
theorem remembers_put {guard : NonceReplayGuard} {key key' : JsString} {till ttlMs nowMs : ℕ}
    (h : guard.Remembers key till) (hle : till ≤ nowMs + ttlMs) :
    (NonceReplayGuard.acceptKey.put guard key' ttlMs nowMs).2.Remembers key till := by
  by_cases hkey : key = key'
  · subst hkey
    exact ⟨_, put_records_lookup_self guard key ttlMs nowMs, hle⟩
  · obtain ⟨record, hl, hrec⟩ := h
    exact ⟨record, by rw [← hl]; exact AList.lookup_insert_ne hkey, hrec⟩

/-- The sweep keeps what is still alive. -/
theorem remembers_alarm {guard : NonceReplayGuard} {key : JsString} {till nowMs : ℕ}
    (h : guard.Remembers key till) (hlt : nowMs < till) : (guard.alarm nowMs).Remembers key till := by
  obtain ⟨record, hl, hrec⟩ := h
  exact ⟨record, Table.lookup_keep_of_pos hl (by simp; omega), hrec⟩

/-! ## At most one acceptance -/

/-- The bookkeeping of one request: it was accepted at most once, and since its
acceptance at `t₀`, after the second of its timestamp, the guard remembers it
until `t₀ + m * 1000`. -/
structure Inv (crypto : Crypto) (m : ℕ) (req : SignedRequest) (s : State) : Prop where
  once : s.timesAccepted req ≤ 1
  remembered : ∀ t₀, (req, t₀) ∈ s.accepted → ∃ headers ts key,
    StaticallyValid crypto m req headers ts ∧ storageKey req = some key ∧ ts < t₀ / 1000 ∧
    t₀ ≤ s.clock ∧ (s.clock < t₀ + m * 1000 → s.guard.Remembers key (t₀ + m * 1000))

theorem inv_init (crypto : Crypto) (m : ℕ) (req : SignedRequest) : Inv crypto m req .init where
  once := by simp [State.timesAccepted, State.init]
  remembered := by simp [State.init]

/-- The two readings of a request's headers agree. -/
theorem StaticallyValid.ts_unique {crypto : Crypto} {m : ℕ} {req : SignedRequest}
    {headers headers' : ClawSignatureHeaders} {ts ts' : ℕ}
    (h : StaticallyValid crypto m req headers ts)
    (h' : StaticallyValid crypto m req headers' ts') : ts = ts' := by
  have hh : headers = headers' := Except.ok.inj (h.headers_ok.symm.trans h'.headers_ok)
  subst hh
  exact Except.ok.inj (h.timestamp_ok.symm.trans h'.timestamp_ok)

/-- A request accepted after the second of its timestamp is still remembered
whenever its timestamp is within the skew. -/
theorem clock_lt_of_skew {m t₀ nowMs ts : ℕ} (hts : ts < t₀ / 1000)
    (hskew : skewSeconds nowMs ts ≤ m) : nowMs < t₀ + m * 1000 := by
  simp only [skewSeconds] at hskew
  omega

theorem timesAccepted_cons (g : NonceReplayGuard) (c t : ℕ) (r req : SignedRequest)
    (acc : List (SignedRequest × ℕ)) :
    State.timesAccepted ⟨g, c, (r, t) :: acc⟩ req =
      State.timesAccepted ⟨g, c, acc⟩ req + if r = req then 1 else 0 := by
  simp only [State.timesAccepted, List.map_cons, List.count_cons, beq_iff_eq]

theorem timesAccepted_eq_zero {s : State} {req : SignedRequest}
    (h : ∀ t₀, (req, t₀) ∉ s.accepted) : s.timesAccepted req = 0 := by
  rw [State.timesAccepted, List.count_eq_zero]
  rintro hmem
  obtain ⟨⟨r, t₀⟩, hr, rfl⟩ := List.mem_map.mp hmem
  exact h t₀ hr

/-- The condition on one event: an arrival of the request comes after the second
of its timestamp. -/
def ArrivesElapsed (req : SignedRequest) : Event → Prop
  | .arrive nowMs r => r = req → TimestampElapsed req nowMs
  | .alarm _ => True

/-- Every event that meets the condition keeps the bookkeeping. -/
theorem inv_step {crypto : Crypto} {m : ℕ} {req : SignedRequest} {s s' : State} {e : Event}
    (hi : Inv crypto m req s) (hok : ArrivesElapsed req e)
    (h : step crypto m s e = some s') : Inv crypto m req s' := by
  rcases step_cases h with ⟨nowMs, r, key', rfl, hclock, hv, hk', hu, rfl⟩ |
    ⟨nowMs, r, rfl, hclock, rfl⟩ | ⟨nowMs, rfl, hclock, rfl⟩
  · have hold : ∀ t₀, (req, t₀) ∈ s.accepted → r ≠ req := by
      -- a second acceptance would find the record of the first one alive
      rintro t₀ hmem rfl
      obtain ⟨headers, ts, key, hs, hk, hts, hle, hrem⟩ := hi.remembered t₀ hmem
      obtain ⟨headers', ts', hs', hskew⟩ := verifyHttpRequest_eq_ok.mp hv
      rw [← hs.ts_unique hs'] at hskew
      have hlt := clock_lt_of_skew hts hskew
      cases hk.symm.trans hk'
      exact not_unseen_of_remembers (hrem (by omega)) hlt hu
    constructor
    · rw [timesAccepted_cons]
      split
      · rename_i heq
        have hnone : ∀ t₀, (req, t₀) ∉ s.accepted := fun t₀ hmem => hold t₀ hmem heq
        have := timesAccepted_eq_zero hnone
        simp only [State.timesAccepted] at this ⊢
        omega
      · have := hi.once
        simpa [State.timesAccepted] using this
    · intro t₀ hmem
      rcases List.mem_cons.mp hmem with heq | hmem
      · cases heq
        obtain ⟨headers, ts, hs, _⟩ := verifyHttpRequest_eq_ok.mp hv
        exact ⟨headers, ts, key', hs, hk',
          hok rfl headers.timestamp ts (timestamp_of_normalize hs.headers_ok) hs.timestamp_ok,
          le_rfl, fun _ => remembers_put_self _ _ _ _⟩
      · obtain ⟨headers, ts, key, hs, hk, hts, hle, hrem⟩ := hi.remembered t₀ hmem
        refine ⟨headers, ts, key, hs, hk, hts, hle.trans hclock, fun hlt => ?_⟩
        exact remembers_put (hrem (lt_of_le_of_lt hclock hlt)) (by omega)
  · refine ⟨hi.once, fun t₀ hmem => ?_⟩
    obtain ⟨headers, ts, key, hs, hk, hts, hle, hrem⟩ := hi.remembered t₀ hmem
    exact ⟨headers, ts, key, hs, hk, hts, hle.trans hclock,
      fun hlt => hrem (lt_of_le_of_lt hclock hlt)⟩
  · refine ⟨hi.once, fun t₀ hmem => ?_⟩
    obtain ⟨headers, ts, key, hs, hk, hts, hle, hrem⟩ := hi.remembered t₀ hmem
    exact ⟨headers, ts, key, hs, hk, hts, hle.trans hclock,
      fun hlt => remembers_alarm (hrem (lt_of_le_of_lt hclock hlt)) hlt⟩

/-- In a run whose arrivals of a request all come after the second of its
timestamp, the request is accepted at most once. -/
theorem timesAccepted_le_one {crypto : Crypto} {m : ℕ} {req : SignedRequest} {es : List Event}
    {s : State} (hok : Run.AllSteps (step crypto m) (fun _ e => ArrivesElapsed req e) .init es)
    (hrun : Run.exec (step crypto m) .init es = some s) : s.timesAccepted req ≤ 1 :=
  (Run.exec_invariant (Inv crypto m req) (fun _ _ _ hi ho h => inv_step hi ho h)
    (inv_init crypto m req) hok hrun).once

/-- A request accepted in or before the second of its timestamp is accepted again
when its record expires. -/
theorem replay_accepted {crypto : Crypto} {m nowMs : ℕ} {req : SignedRequest} {s s' : State}
    (hstep : step crypto m s (.arrive nowMs req) = some s')
    (hacc : s'.timesAccepted req = s.timesAccepted req + 1)
    (hnot : ¬ TimestampElapsed req nowMs) :
    ∃ s'', step crypto m s' (.arrive (nowMs + m * 1000) req) = some s'' ∧
      s''.timesAccepted req = s.timesAccepted req + 2 := by
  rcases step_cases hstep with ⟨now', r, key, he, hclock, hv, hk, hu, rfl⟩ |
    ⟨now', r, he, hclock, rfl⟩ | ⟨now', he, hclock, rfl⟩
  · cases he
    obtain ⟨headers, ts, hs, hskew⟩ := verifyHttpRequest_eq_ok.mp hv
    have hts : nowMs / 1000 ≤ ts := by
      by_contra hlt
      refine hnot fun header ts' hh hp => ?_
      rw [timestamp_of_normalize hs.headers_ok] at hh
      cases hh
      cases hs.timestamp_ok.symm.trans hp
      omega
    have hskew' : skewSeconds (nowMs + m * 1000) ts ≤ m := by
      simp only [skewSeconds] at hskew ⊢
      omega
    have hunseen : (NonceReplayGuard.acceptKey.put s.guard key (m * 1000) nowMs).2.Unseen key
        (nowMs + m * 1000) := by
      intro record hl
      rw [put_records_lookup_self] at hl
      cases hl
      exact le_rfl
    refine ⟨_, step_arrive_of_unseen (Nat.le_add_right _ _)
      (verifyHttpRequest_eq_ok.mpr ⟨headers, ts, hs, hskew'⟩) hk hunseen, ?_⟩
    rw [timesAccepted_cons, if_pos rfl]
    simp only [State.timesAccepted] at hacc ⊢
    omega
  · simp only [State.timesAccepted] at hacc
    omega
  · cases he

/-- **Replay protection holds exactly for elapsed timestamps.** In every run whose
arrivals of a request all come after the whole second of its timestamp, the
request is accepted at most once; and each acceptance that does not come after it
is followed by a second one at the moment the nonce expires. -/
theorem accepted_at_most_once_of_elapsed (crypto : Crypto) (m : ℕ) (req : SignedRequest) :
    (∀ (es : List Event) (s : State),
      Run.AllSteps (step crypto m) (fun _ e => ArrivesElapsed req e) .init es →
      Run.exec (step crypto m) .init es = some s → s.timesAccepted req ≤ 1) ∧
    (∀ (es : List Event) (s s' : State) (nowMs : ℕ),
      Run.exec (step crypto m) .init es = some s →
      step crypto m s (.arrive nowMs req) = some s' →
      s'.timesAccepted req = s.timesAccepted req + 1 → ¬ TimestampElapsed req nowMs →
      ∃ s'', Run.exec (step crypto m) .init
          (es ++ [.arrive nowMs req, .arrive (nowMs + m * 1000) req]) = some s'' ∧
        s''.timesAccepted req = s.timesAccepted req + 2) := by
  refine ⟨fun es s hok hrun => timesAccepted_le_one hok hrun, ?_⟩
  intro es s s' nowMs hrun hstep hacc hnot
  obtain ⟨s'', hstep', hacc'⟩ := replay_accepted hstep hacc hnot
  refine ⟨s'', ?_, hacc'⟩
  simp only [Run.exec_append, hrun, Option.bind_some, Run.exec, hstep, hstep']

/-! ### A request signed in the second in which it arrives -/

/-- The public key of the example's agent. -/
def examplePublicKey : List UInt8 :=
  [3, 161, 7, 191, 243, 206, 16, 190, 29, 112, 221, 24, 231, 75, 192, 153, 103, 228, 214,
    48, 155, 165, 13, 95, 29, 220, 134, 100, 18, 85, 49, 184]

/-- The agent's signature of the canonical form of `exampleRequest`. -/
def exampleSignature : List UInt8 :=
  [248, 163, 163, 4, 128, 166, 155, 214, 117, 31, 92, 19, 202, 215, 216, 217, 0, 248, 205,
    62, 165, 183, 71, 185, 64, 77, 21, 181, 205, 16, 152, 76, 151, 29, 172, 123, 7, 96, 19,
    133, 0, 193, 0, 169, 124, 247, 158, 240, 230, 233, 105, 59, 217, 73, 23, 201, 219, 178,
    129, 38, 37, 151, 182, 10]

/-- The hash and the signature check, as they answer on `exampleRequest`. -/
def exampleCrypto : Crypto where
  bodyHash _ := js "47DEQpj8HBSa-_TImW-5JCeuQeRkm5NMpJWZG3hSuFU"
  canonicalize method path ts nonce hash :=
    (js "\n").intercalate [js "CLAW-PROOF-V1", method, path, ts, nonce, hash]
  decodeSignature _ := some exampleSignature
  verifyEd25519 signature _ publicKey :=
    signature = exampleSignature && publicKey = examplePublicKey

def exampleRequest : SignedRequest where
  agentDid := js "did:cdi:registry.example.com:agent:01HF7YAT00W6W7CM7N3W5FDXT4"
  publicKey := examplePublicKey
  method := js "POST"
  pathWithQuery := js "/hooks/agent"
  body := []
  timestamp := some (js "1700000000")
  nonce := some (js "n1")
  bodySha256 := some (js "47DEQpj8HBSa-_TImW-5JCeuQeRkm5NMpJWZG3hSuFU")
  proof := some (js
    "-KOjBICmm9Z1H1wTytfY2QD4zT6lt0e5QE0Vtc0QmEyXHax7B2AThQDBAKl8957w5ulpO9lJF8nbsoEmJZe2Cg")

/-- The request arrives in the second of its timestamp and again 300 seconds later. -/
theorem exampleRequest_accepted_twice :
    ((Run.exec (step exampleCrypto 300) .init
      [.arrive 1700000000000 exampleRequest, .arrive 1700000300000 exampleRequest]).map
        fun s => s.timesAccepted exampleRequest) = some 2 := by
  decide

/-- **A signed request can be replayed.** -/
theorem not_accepted_at_most_once :
    ¬ ∀ (crypto : Crypto) (m : ℕ) (req : SignedRequest) (es : List Event) (s : State), 0 < m →
      Run.exec (step crypto m) .init es = some s → s.timesAccepted req ≤ 1 := by
  intro h
  obtain ⟨s, hrun, htwice⟩ := Option.map_eq_some_iff.mp exampleRequest_accepted_twice
  have := h exampleCrypto 300 exampleRequest _ s (by decide) hrun
  omega

/-- The same request, arriving one second after its timestamp and again while it
is within the skew, is accepted once. -/
theorem exampleRequest_elapsed :
    ((Run.exec (step exampleCrypto 300) .init
      [.arrive 1700000001000 exampleRequest, .arrive 1700000300999 exampleRequest]).map
        fun s => s.timesAccepted exampleRequest) = some 1 := by
  decide

theorem exampleRequest_first_acceptance :
    ((step exampleCrypto 300 .init (.arrive 1700000000000 exampleRequest)).map
      fun s => s.timesAccepted exampleRequest) = some 1 := by
  decide

theorem exampleRequest_timestamp : parseUnixTimestamp (js "1700000000") = .ok 1700000000 := by
  decide

theorem exampleRequest_accepted_once :
    (∃ s, Run.exec (step exampleCrypto 300) .init
        [.arrive 1700000001000 exampleRequest, .arrive 1700000300999 exampleRequest] = some s ∧
      s.timesAccepted exampleRequest ≤ 1) ∧
    ∃ s, Run.exec (step exampleCrypto 300) .init
        [.arrive 1700000000000 exampleRequest, .arrive 1700000300000 exampleRequest] = some s ∧
      s.timesAccepted exampleRequest = 2 := by
  obtain ⟨honce, hreplay⟩ := accepted_at_most_once_of_elapsed exampleCrypto 300 exampleRequest
  constructor
  · obtain ⟨s, hrun, _⟩ := Option.map_eq_some_iff.mp exampleRequest_elapsed
    have helapsed : ∀ nowMs, 1700000001000 ≤ nowMs → TimestampElapsed exampleRequest nowMs := by
      intro nowMs hle header ts hh hp
      cases hh
      cases exampleRequest_timestamp.symm.trans hp
      omega
    refine ⟨s, hrun, honce _ s ?_ hrun⟩
    exact ⟨fun _ => helapsed _ (by decide), fun _ _ => ⟨fun _ => helapsed _ (by decide),
      fun _ _ => trivial⟩⟩
  · obtain ⟨s, hstep, hacc⟩ := Option.map_eq_some_iff.mp exampleRequest_first_acceptance
    have hnot : ¬ TimestampElapsed exampleRequest 1700000000000 := by
      intro h
      exact absurd (h _ _ rfl exampleRequest_timestamp) (by decide)
    exact hreplay [] .init s 1700000000000 rfl hstep hacc hnot

end Clawdentity.NonceReplay
