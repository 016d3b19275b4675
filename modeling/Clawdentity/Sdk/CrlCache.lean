import Clawdentity.Lib.Interleave
import Clawdentity.Protocol.Crl

/-!
# The cache of the revocation list

A cache that `createCrlCache` has made. `refreshIfStale` is suspended while it fetches the latest
claims, and `isRevoked` is suspended once more before it reads the claims. The clock of a call is
the one that it reads at its start. The text of the reason in a warning is left out.

## Main definitions

* `createCrlCache` — a cache, from the claims it starts with.
* `program` — the code of a call, cut where it is suspended.
* `isRevoked` — a call that no other call interrupts.
-/

namespace Clawdentity.CrlCache

open Js Lib.Interleave Protocol

inductive StaleBehavior
  | failOpen
  | failClosed
  deriving DecidableEq

def DEFAULT_CRL_REFRESH_INTERVAL_MS : ℕ := 5 * 60 * 1000
def DEFAULT_CRL_MAX_AGE_MS : ℕ := 15 * 60 * 1000

/-- The options that have been checked. -/
structure Options where
  refreshIntervalMs : ℕ
  maxAgeMs : ℕ
  staleBehavior : StaleBehavior
  refresh_pos : 0 < refreshIntervalMs
  maxAge_pos : 0 < maxAgeMs

/-- The defaults, with the given behavior. -/
def defaultOptions (staleBehavior : StaleBehavior) : Options where
  refreshIntervalMs := DEFAULT_CRL_REFRESH_INTERVAL_MS
  maxAgeMs := DEFAULT_CRL_MAX_AGE_MS
  staleBehavior := staleBehavior
  refresh_pos := by decide
  maxAge_pos := by decide

structure Cache where
  claims : Option CrlClaims
  lastSuccessfulRefreshAtMs : Option ℕ
  lastRefreshAttemptAtMs : Option ℕ
  deriving DecidableEq

/-- `none` where it throws. -/
def createCrlCache (toLowerCase : JsString → JsString) (initialClaims : Option Value)
    (initialFetchedAtMs : Option ℕ) (nowMs : ℕ) : Option Cache :=
  match initialClaims with
  | none =>
      if initialFetchedAtMs.isSome then none else some ⟨none, none, none⟩
  | some value =>
      (parseCrlClaims toLowerCase value).map fun claims =>
        ⟨some claims, some (initialFetchedAtMs.getD nowMs), none⟩

section
variable (options : Options) (cache : Cache) (now : ℕ)

/-- `none` where it is infinite. -/
def ageMs : Option ℤ :=
  cache.lastSuccessfulRefreshAtMs.map fun (refreshedAt : ℕ) => (now : ℤ) - refreshedAt

def isStale : Bool :=
  cache.claims.isNone || (ageMs cache now).all fun age => (options.maxAgeMs : ℤ) < age

def shouldRefresh : Bool :=
  cache.claims.isNone || ((ageMs cache now).all fun age => (options.refreshIntervalMs : ℤ) ≤ age) ||
    isStale options cache now

def canAttemptRefresh : Bool :=
  cache.lastRefreshAttemptAtMs.all fun (attemptedAt : ℕ) =>
    (options.refreshIntervalMs : ℤ) ≤ (now : ℤ) - attemptedAt

end

/-! ## Calls -/

inductive Operation
  | refreshIfStale
  | isRevoked (jti : JsString)
  deriving DecidableEq

/-- A call, with the clock at its start. -/
structure Request where
  operation : Operation
  nowMs : ℕ
  deriving DecidableEq

inductive Warning
  | refreshFailed
  | stale (ageMs : Option ℤ) (maxAgeMs : ℕ)
  deriving DecidableEq

structure RefreshResult where
  refreshed : Bool
  stale : Bool
  warnings : List Warning
  fetchedAtMs : Option ℕ
  deriving DecidableEq

inductive Answer
  | refreshed (result : RefreshResult)
  | revoked (isRevoked : Bool)
  /-- `CRL_CACHE_INVALID_INPUT`, 400. -/
  | invalidInput (field : String)
  /-- `CRL_CACHE_STALE`, 503. -/
  | stale (maxAgeMs : ℕ) (lastSuccessfulRefreshAtMs lastRefreshAttemptAtMs : Option ℕ)
  deriving DecidableEq

/-- Where a call is suspended; an answer is kept with the start of the fetch that it rests on. -/
inductive Phase
  | fetching (operation : Operation)
  | reading (jti : JsString)
  | answered (answer : Answer) (restsOn : Option ℕ)
  deriving DecidableEq

structure Call where
  nowMs : ℕ
  /-- Its fetch has set the claims. -/
  refreshed : Bool
  phase : Phase
  deriving DecidableEq

/-- How a call goes on. -/
inductive Choice
  | fetched (payload : Value)
  | fetchFailed
  | next

section
variable (toLowerCase : JsString → JsString) (options : Options)

/-- The end of `refreshIfStale`. -/
def finishRefresh (cache : Cache) (now : ℕ) (operation : Operation) (refreshed : Bool)
    (warnings : List Warning) : Phase :=
  let stale := isStale options cache now
  if stale && options.staleBehavior = .failClosed then
    .answered (.stale options.maxAgeMs cache.lastSuccessfulRefreshAtMs
      cache.lastRefreshAttemptAtMs) none
  else
    match operation with
    | .isRevoked jti => .reading jti
    | .refreshIfStale =>
        .answered
          (.refreshed
            { refreshed, stale
              warnings :=
                warnings ++ if stale then [.stale (ageMs cache now) options.maxAgeMs] else []
              fetchedAtMs := cache.lastSuccessfulRefreshAtMs })
          cache.lastSuccessfulRefreshAtMs

/-- `refreshIfStale`, up to the fetch. -/
def startRefresh (cache : Cache) (now : ℕ) (operation : Operation) : Cache × Call :=
  if shouldRefresh options cache now &&
      (isStale options cache now || canAttemptRefresh options cache now) then
    ({ cache with lastRefreshAttemptAtMs := some now }, ⟨now, false, .fetching operation⟩)
  else (cache, ⟨now, false, finishRefresh options cache now operation false []⟩)

def startCall (cache : Cache) (request : Request) : Cache × Call :=
  match request.operation with
  | .refreshIfStale => startRefresh options cache request.nowMs .refreshIfStale
  | .isRevoked jti =>
      if (trim jti).isEmpty then
        (cache, ⟨request.nowMs, false, .answered (.invalidInput "jti") none⟩)
      else startRefresh options cache request.nowMs (.isRevoked jti)

/-- The code after the fetch; the payload is `none` where it has failed. -/
def finishFetch (cache : Cache) (now : ℕ) (operation : Operation) (payload : Option Value) :
    Cache × Call :=
  match payload.bind (parseCrlClaims toLowerCase) with
  | some nextClaims =>
      let next := { cache with claims := some nextClaims, lastSuccessfulRefreshAtMs := some now }
      (next, ⟨now, true, finishRefresh options next now operation true []⟩)
  | none => (cache, ⟨now, false, finishRefresh options cache now operation false [.refreshFailed]⟩)

/-- The end of `isRevoked`. -/
def readClaims (cache : Cache) (jti : JsString) : Answer :=
  .revoked (cache.claims.any fun claims => jti ∈ claims.revokedJtis)

def resumeCall (cache : Cache) (call : Call) (choice : Choice) : Option (Cache × Call) :=
  match call.phase, choice with
  | .fetching operation, .fetched payload =>
      some (finishFetch toLowerCase options cache call.nowMs operation (some payload))
  | .fetching operation, .fetchFailed =>
      some (finishFetch toLowerCase options cache call.nowMs operation none)
  | .reading jti, .next =>
      some (cache, ⟨call.nowMs, call.refreshed,
        .answered (readClaims cache jti) cache.lastSuccessfulRefreshAtMs⟩)
  | _, _ => none

/-- The two functions of a cache. -/
def program : Program Cache Call Request Choice where
  start cache request := some (startCall options cache request)
  resume := resumeCall toLowerCase options

/-! ## A call that no other call interrupts -/

/-- The answer of a call that is not suspended in a fetch. -/
def answerOf (cache : Cache) (call : Call) : Option Answer :=
  match call.phase with
  | .fetching _ => none
  | .reading jti => some (readClaims cache jti)
  | .answered answer _ => some answer

/-- `isRevoked`, with what `fetchLatest` answers if it is called. -/
def isRevoked (cache : Cache) (jti : JsString) (now : ℕ) (latest : Option Value) :
    Option Answer :=
  let started := startCall options cache ⟨.isRevoked jti, now⟩
  match started.2.phase with
  | .fetching operation =>
      let finished := finishFetch toLowerCase options started.1 now operation latest
      answerOf finished.1 finished.2
  | _ => answerOf started.1 started.2

end

end Clawdentity.CrlCache
