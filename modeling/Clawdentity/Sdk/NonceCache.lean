import Clawdentity.Js.Text
import Clawdentity.Lib.Fallible
import Clawdentity.Lib.Table

/-!
# The nonce cache in memory

The cache keeps, for each agent, the nonces that it has accepted and when each of them expires.
Every call first purges what has expired. The clock is an argument.

## Main definitions

* `NonceCache`, `NonceCache.find?` — the records by agent and nonce.
* `purgeExpiredAt`, `tryAcceptNonce`.
* `tryAcceptNonce_eq` — what a call answers, and what the cache holds after it.
-/

namespace Clawdentity.Sdk

open Js Lib

structure NonceRecord where
  seenAt : ℕ
  expiresAt : ℕ
  deriving DecidableEq, Repr

/-- `seenByAgent`. -/
structure NonceCache where
  seenByAgent : Table JsString (Table JsString NonceRecord)

inductive NonceCacheResult
  | accepted (seenAt expiresAt : ℕ)
  | replay (seenAt expiresAt : ℕ)
  deriving DecidableEq, Repr

/-- The field of `NONCE_CACHE_INVALID_INPUT`. -/
structure NonceCacheError where
  field : String
  deriving DecidableEq, Repr

def ensureNonEmptyString (value : JsString) (field : String) : Except NonceCacheError JsString :=
  if (trim value).isEmpty then .error ⟨field⟩ else .ok value

namespace NonceCache

/-- `createNonceCache`. -/
def empty : NonceCache := ⟨∅⟩

/-- The record of a nonce of an agent. -/
def find? (cache : NonceCache) (agentDid nonce : JsString) : Option NonceRecord :=
  (cache.seenByAgent.lookup agentDid).bind fun agentMap => agentMap.lookup nonce

def pruneExpiredFromAgent (agentMap : Table JsString NonceRecord) (now : ℕ) :
    Table JsString NonceRecord :=
  agentMap.keep fun _ record => !decide (record.expiresAt ≤ now)

/-- The pruned map of an agent, unless it is empty. -/
def pruneAgent (now : ℕ) (agentDid : JsString) (agentMap : Table JsString NonceRecord) :
    Option (JsString × Table JsString NonceRecord) :=
  let pruned := pruneExpiredFromAgent agentMap now
  if pruned.entries.isEmpty then none else some (agentDid, pruned)

def purgeExpiredAt (cache : NonceCache) (now : ℕ) : NonceCache :=
  ⟨cache.seenByAgent.rekey (pruneAgent now)⟩

/-- `agentMap.set(nonce, record)`, in the map of the agent or in a new one. -/
def set (cache : NonceCache) (agentDid nonce : JsString) (record : NonceRecord) : NonceCache :=
  ⟨cache.seenByAgent.insert agentDid
    (((cache.seenByAgent.lookup agentDid).getD ∅).insert nonce record)⟩

/-- A call; a call that throws leaves the cache as it is. -/
def tryAcceptNonce (ttlMs : ℕ) (cache : NonceCache) (agentDid nonce : JsString) (now : ℕ) :
    Except NonceCacheError NonceCacheResult × NonceCache :=
  match ensureNonEmptyString agentDid "agentDid", ensureNonEmptyString nonce "nonce" with
  | .error e, _ => (.error e, cache)
  | _, .error e => (.error e, cache)
  | .ok agentDid, .ok nonce =>
      let purged := cache.purgeExpiredAt now
      match purged.find? agentDid nonce with
      | some existing => (.ok (.replay existing.seenAt existing.expiresAt), purged)
      | none =>
          (.ok (.accepted now (now + ttlMs)), purged.set agentDid nonce ⟨now, now + ttlMs⟩)

/-! ## The records of a cache -/

section
variable {cache : NonceCache} {agentDid nonce : JsString} {now : ℕ}

/-- What is left of the record of a nonce. -/
theorem lookup_pruneExpiredFromAgent (agentMap : Table JsString NonceRecord) (nonce : JsString)
    (now : ℕ) : (pruneExpiredFromAgent agentMap now).lookup nonce =
      (agentMap.lookup nonce).filter fun record => now < record.expiresAt := by
  ext record
  simp [pruneExpiredFromAgent, Table.lookup_keep_eq_some, Option.filter_eq_some_iff]

/-- **A purge drops the expired records** and no others. -/
theorem find?_purgeExpiredAt (cache : NonceCache) (agentDid nonce : JsString) (now : ℕ) :
    (cache.purgeExpiredAt now).find? agentDid nonce =
      (cache.find? agentDid nonce).filter fun record => now < record.expiresAt := by
  have hkeeps : ∀ k agentMap r, cache.seenByAgent.lookup k = some agentMap →
      pruneAgent now k agentMap = some r → r.1 = k := by
    intro k agentMap r _ hr
    simp only [pruneAgent, Option.ite_none_left_eq_some, Option.some.injEq] at hr
    rw [← hr.2]
  simp only [find?, purgeExpiredAt, Table.lookup_rekey_of_keeps hkeeps]
  cases cache.seenByAgent.lookup agentDid with
  | none => rfl
  | some agentMap =>
      simp only [Option.bind_some, ← lookup_pruneExpiredFromAgent, pruneAgent]
      split
      · rename_i hempty
        -- an agent without records is as good as one that is not there
        have hnone : (pruneExpiredFromAgent agentMap now).lookup nonce = none := by
          rw [AList.lookup_eq_none]
          simp [AList.mem_keys, AList.keys, List.isEmpty_iff.mp hempty]
        rw [hnone]
        rfl
      · rfl

theorem find?_set_self (cache : NonceCache) (agentDid nonce : JsString) (record : NonceRecord) :
    (cache.set agentDid nonce record).find? agentDid nonce = some record := by
  simp [find?, set]

theorem find?_set_ne {agentDid' nonce' : JsString} (record : NonceRecord)
    (h : ¬(agentDid' = agentDid ∧ nonce' = nonce)) :
    (cache.set agentDid nonce record).find? agentDid' nonce' = cache.find? agentDid' nonce' := by
  simp only [find?, set]
  by_cases hagent : agentDid' = agentDid
  · subst hagent
    have hnonce : nonce' ≠ nonce := fun heq => h ⟨rfl, heq⟩
    rw [AList.lookup_insert, Option.bind_some, AList.lookup_insert_ne hnonce]
    cases cache.seenByAgent.lookup agentDid' <;> rfl
  · rw [AList.lookup_insert_ne hagent]

/-- **What a call answers**, by the record that has not expired. -/
theorem tryAcceptNonce_eq {ttlMs : ℕ} (hagent : isNonEmptyString agentDid = true)
    (hnonce : isNonEmptyString nonce = true) :
    cache.tryAcceptNonce ttlMs agentDid nonce now =
      match (cache.find? agentDid nonce).filter fun record => now < record.expiresAt with
      | some existing =>
          (.ok (.replay existing.seenAt existing.expiresAt), cache.purgeExpiredAt now)
      | none => (.ok (.accepted now (now + ttlMs)),
          (cache.purgeExpiredAt now).set agentDid nonce ⟨now, now + ttlMs⟩) := by
  simp only [isNonEmptyString, Bool.not_eq_true'] at hagent hnonce
  simp only [tryAcceptNonce, ensureNonEmptyString, hagent, hnonce, Bool.false_eq_true, if_false,
    find?_purgeExpiredAt]

end

end NonceCache

end Clawdentity.Sdk
