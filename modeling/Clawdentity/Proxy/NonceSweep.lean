import Clawdentity.Lib.Timer
import Clawdentity.Proxy.NonceReplay
import Mathlib.Algebra.Order.Ring.Rat

/-!
# The nonce sweep

One object stores the nonces of all agents, and its alarm deletes those that have expired. The
platform deletes at most 128 keys in one call and throws otherwise.

## Main definitions

* `NonceStorage` — what is stored, well formed or not, and the alarm.
* `NonceStorage.alarm` — the sweep; `none` where it throws.
* `Swept` — the stale records are gone, and the alarm is set to the first expiry.
* `nonce_sweep_iff`.
-/

namespace Clawdentity.NonceReplay

open Js Lib Lib.Timer

/-! ## Stored values -/

/-- A field of a stored object. -/
inductive StoredField
  | finite (n : ℚ)
  /-- Missing, not a number, or a number that is not finite. -/
  | other
  deriving DecidableEq

/-- What is stored under the key of a nonce. -/
inductive StoredNonce
  | record (seenAt expiresAt : StoredField)
  /-- `null`, or not an object. -/
  | other
  deriving DecidableEq

/-- The finite number `expiresAt` of an object. -/
def StoredNonce.expiresAt? : StoredNonce → Option ℚ
  | .record _ (.finite n) => some n
  | _ => none

def NONCE_REPLAY_STORAGE_PREFIX : JsString := js "nonce:"

/-- The storage of the object. -/
structure NonceStorage where
  values : Table JsString StoredNonce
  alarmAt : Option ℚ

namespace NonceStorage

/-- How many keys the platform deletes in one call. -/
def MAX_DELETE_KEYS : ℕ := 128

/-- `storage.list({ prefix })`; the order of the keys does not matter here. -/
def list (storage : NonceStorage) (keyPrefix : JsString) :
    List (Sigma fun _ : JsString => StoredNonce) :=
  storage.values.entries.filter fun e => keyPrefix.isPrefixOf e.1

/-- `storage.delete(keys)`; `none` where it throws. -/
def delete (storage : NonceStorage) (keys : List JsString) : Option NonceStorage :=
  if keys.length ≤ MAX_DELETE_KEYS then
    some { storage with values := storage.values.keep fun key _ => decide (key ∉ keys) }
  else none

def setAlarm (storage : NonceStorage) (time : ℚ) : NonceStorage :=
  { storage with alarmAt := some time }

def deleteAlarm (storage : NonceStorage) : NonceStorage := { storage with alarmAt := none }

end NonceStorage

/-! ## The sweep -/

/-- What the loop has collected. -/
structure Sweep where
  expiredKeys : List JsString
  nextExpiry : Option ℚ

def Sweep.visit (nowMs : ℚ) (sweep : Sweep) (entry : Sigma fun _ : JsString => StoredNonce) :
    Sweep :=
  match entry.2.expiresAt? with
  | none => { sweep with expiredKeys := sweep.expiredKeys ++ [entry.1] }
  | some expiresAt =>
      if expiresAt ≤ nowMs then { sweep with expiredKeys := sweep.expiredKeys ++ [entry.1] }
      else
        match sweep.nextExpiry with
        | none => { sweep with nextExpiry := some expiresAt }
        | some next => if expiresAt < next then { sweep with nextExpiry := some expiresAt } else sweep

def NonceStorage.alarm (storage : NonceStorage) (nowMs : ℚ) : Option NonceStorage := do
  let entries := storage.list NONCE_REPLAY_STORAGE_PREFIX
  let sweep := entries.foldl (Sweep.visit nowMs) ⟨[], none⟩
  let storage ←
    if 0 < sweep.expiredKeys.length then storage.delete sweep.expiredKeys else some storage
  match sweep.nextExpiry with
  | none => some storage.deleteAlarm
  | some time => some (storage.setAlarm time)

/-! ## What the loop collects -/

/-- The record is malformed or has expired. -/
def isStale (nowMs : ℚ) (value : StoredNonce) : Bool :=
  value.expiresAt?.all fun expiresAt => expiresAt ≤ nowMs

/-- When the record expires, if that is later. -/
def liveExpiry (nowMs : ℚ) (value : StoredNonce) : Option ℚ :=
  value.expiresAt?.filter fun expiresAt => nowMs < expiresAt

variable {nowMs : ℚ} {storage storage' : NonceStorage}
  {entries : List (Sigma fun _ : JsString => StoredNonce)}

theorem liveExpiry_eq_none_iff {value : StoredNonce} :
    liveExpiry nowMs value = none ↔ isStale nowMs value = true := by
  cases h : value.expiresAt? with
  | none => simp [liveExpiry, isStale, h]
  | some expiresAt => simp [liveExpiry, isStale, h]

theorem liveExpiry_eq_some_iff {value : StoredNonce} {time : ℚ} :
    liveExpiry nowMs value = some time ↔
      value.expiresAt? = some time ∧ isStale nowMs value = false := by
  rw [liveExpiry, isStale, Option.filter_eq_some_iff]
  refine and_congr_right fun h => ?_
  simp [h]

/-- One entry: a stale key, or an expiry. -/
theorem visit_eq (sweep : Sweep) (entry : Sigma fun _ : JsString => StoredNonce) :
    sweep.visit nowMs entry = match liveExpiry nowMs entry.2 with
      | none => { sweep with expiredKeys := sweep.expiredKeys ++ [entry.1] }
      | some expiresAt =>
          { sweep with nextExpiry := (sweep.nextExpiry.toList ++ [expiresAt]).min? } := by
  rw [Sweep.visit]
  cases h : entry.2.expiresAt? with
  | none => simp [liveExpiry, h]
  | some expiresAt =>
      by_cases hstale : expiresAt ≤ nowMs
      · have hnone : liveExpiry nowMs entry.2 = none :=
          liveExpiry_eq_none_iff.mpr (by simp [isStale, h, hstale])
        simp only [hnone, if_pos hstale]
      · have hlive : liveExpiry nowMs entry.2 = some expiresAt := by
          simp [liveExpiry, h, not_le.mp hstale]
        simp only [hlive, if_neg hstale]
        cases hnext : sweep.nextExpiry with
        | none => simp
        | some next =>
            simp only [Option.toList_some, List.singleton_append, List.min?_cons', List.foldl_cons,
              List.foldl_nil]
            by_cases hlt : expiresAt < next
            · rw [if_pos hlt, min_eq_right hlt.le]
            · rw [if_neg hlt, min_eq_left (not_lt.mp hlt), ← hnext]

/-- **The loop** collects the stale keys and the first expiry of the others. -/
theorem foldl_visit (sweep : Sweep) :
    entries.foldl (Sweep.visit nowMs) sweep =
      { expiredKeys := sweep.expiredKeys ++ (entries.filter fun e => isStale nowMs e.2).map (·.1)
        nextExpiry := (sweep.nextExpiry.toList ++
          entries.filterMap fun e => liveExpiry nowMs e.2).min? } := by
  induction entries generalizing sweep with
  | nil => simp [min?_toList]
  | cons e rest ih =>
      rw [List.foldl_cons, ih, visit_eq]
      cases hlive : liveExpiry nowMs e.2 with
      | none =>
          have hstale := liveExpiry_eq_none_iff.mp hlive
          simp [hstale, hlive]
      | some expiresAt =>
          have hstale : isStale nowMs e.2 = false := by
            by_contra h
            rw [liveExpiry_eq_none_iff.mpr (by simpa using h)] at hlive
            cases hlive
          simp only [hlive, hstale, List.filter_cons, List.filterMap_cons, Bool.false_eq_true,
            if_false, min?_append_toList, List.append_assoc, List.singleton_append]

/-! ## What a sweep leaves -/

/-- A stored nonce expires at this time. -/
def NonceExpiry (storage : NonceStorage) (time : ℚ) : Prop :=
  ∃ key value, NONCE_REPLAY_STORAGE_PREFIX.isPrefixOf key = true ∧
    storage.values.lookup key = some value ∧ value.expiresAt? = some time

/-- The key and value are those of a stale nonce. -/
def isStaleNonce (nowMs : ℚ) (key : JsString) (value : StoredNonce) : Bool :=
  NONCE_REPLAY_STORAGE_PREFIX.isPrefixOf key && isStale nowMs value

/-- The stale nonces are gone, everything else is as it was, and the alarm is set to the first
expiry that is left. -/
structure Swept (nowMs : ℚ) (storage storage' : NonceStorage) : Prop where
  values : ∀ key, storage'.values.lookup key =
    (storage.values.lookup key).filter fun value => !isStaleNonce nowMs key value
  alarm : Exact storage'.alarmAt {time | NonceExpiry storage' time}

/-- The keys of the stale nonces. -/
def staleKeys (nowMs : ℚ) (storage : NonceStorage) : List JsString :=
  (storage.values.entries.filter fun e => isStaleNonce nowMs e.1 e.2).map (·.1)

/-- The expiries of the other nonces. -/
def liveExpiries (nowMs : ℚ) (storage : NonceStorage) : List ℚ :=
  (storage.list NONCE_REPLAY_STORAGE_PREFIX).filterMap fun e => liveExpiry nowMs e.2

theorem foldl_list : (storage.list NONCE_REPLAY_STORAGE_PREFIX).foldl (Sweep.visit nowMs) ⟨[], none⟩ =
    ⟨staleKeys nowMs storage, (liveExpiries nowMs storage).min?⟩ := by
  rw [foldl_visit, staleKeys, liveExpiries, NonceStorage.list, List.filter_filter]
  simp [isStaleNonce, Bool.and_comm]

theorem mem_staleKeys {key : JsString} : key ∈ staleKeys nowMs storage ↔
    ∃ value, storage.values.lookup key = some value ∧ isStaleNonce nowMs key value = true := by
  rw [staleKeys, List.mem_map]
  constructor
  · rintro ⟨⟨k, value⟩, he, rfl⟩
    obtain ⟨hmem, hstale⟩ := List.mem_filter.mp he
    exact ⟨value, AList.mem_lookup_iff.mpr hmem, hstale⟩
  · rintro ⟨value, hvalue, hstale⟩
    exact ⟨⟨key, value⟩, List.mem_filter.mpr ⟨AList.mem_lookup_iff.mp hvalue, hstale⟩, rfl⟩

/-- Without its stale nonces. -/
def NonceStorage.dropStale (storage : NonceStorage) (nowMs : ℚ) : NonceStorage :=
  { values := storage.values.keep fun key _ => decide (key ∉ staleKeys nowMs storage)
    alarmAt := (liveExpiries nowMs storage).min? }

/-- **The sweep** throws where there are more stale nonces than the platform deletes at once. -/
theorem alarm_eq : storage.alarm nowMs =
    if (staleKeys nowMs storage).length ≤ NonceStorage.MAX_DELETE_KEYS then
      some (storage.dropStale nowMs)
    else none := by
  have hnone : (staleKeys nowMs storage).length = 0 →
      storage.values.keep (fun key _ => decide (key ∉ staleKeys nowMs storage)) =
        storage.values := by
    intro hlength
    refine Table.keep_eq_self fun key value _ => ?_
    rw [List.length_eq_zero_iff.mp hlength]
    simp
  have hset : ∀ s : NonceStorage, (match (liveExpiries nowMs storage).min? with
      | none => some s.deleteAlarm
      | some time => some (s.setAlarm time)) =
        some { s with alarmAt := (liveExpiries nowMs storage).min? } := by
    intro s
    cases (liveExpiries nowMs storage).min? <;> rfl
  simp only [NonceStorage.alarm, foldl_list, hset]
  by_cases hpos : 0 < (staleKeys nowMs storage).length
  · rw [if_pos hpos, NonceStorage.delete]
    split
    · rfl
    · rfl
  · rw [if_neg hpos, if_pos (by omega), NonceStorage.dropStale, hnone (by omega)]
    rfl

theorem lookup_dropStale (key : JsString) : (storage.dropStale nowMs).values.lookup key =
    (storage.values.lookup key).filter fun value => !isStaleNonce nowMs key value := by
  refine Option.ext fun value => ?_
  rw [NonceStorage.dropStale, Table.lookup_keep_eq_some, Option.filter_eq_some_iff]
  refine and_congr_right fun hvalue => ?_
  rw [decide_eq_true_eq, mem_staleKeys]
  simp only [hvalue, Option.some.injEq, exists_eq_left', Bool.not_eq_true', Bool.not_eq_true]

theorem mem_liveExpiries {time : ℚ} :
    time ∈ liveExpiries nowMs storage ↔ NonceExpiry (storage.dropStale nowMs) time := by
  rw [liveExpiries, List.mem_filterMap]
  constructor
  · rintro ⟨⟨key, value⟩, hmem, hlive⟩
    obtain ⟨hentry, hstarts⟩ := List.mem_filter.mp hmem
    obtain ⟨hexpiry, hstale⟩ := liveExpiry_eq_some_iff.mp hlive
    refine ⟨key, value, hstarts, ?_, hexpiry⟩
    rw [lookup_dropStale, Option.filter_eq_some_iff]
    exact ⟨AList.mem_lookup_iff.mpr hentry, by simp [isStaleNonce, hstale]⟩
  · rintro ⟨key, value, hstarts, hlookup, hexpiry⟩
    rw [lookup_dropStale, Option.filter_eq_some_iff] at hlookup
    have hstale : isStale nowMs value = false := by
      simpa [isStaleNonce, hstarts] using hlookup.2
    exact ⟨⟨key, value⟩, List.mem_filter.mpr ⟨AList.mem_lookup_iff.mp hlookup.1, hstarts⟩,
      liveExpiry_eq_some_iff.mpr ⟨hexpiry, hstale⟩⟩

theorem swept_dropStale : Swept nowMs storage (storage.dropStale nowMs) where
  values := lookup_dropStale
  alarm := exact_min? fun _ => mem_liveExpiries

/-- The sweep does what it is for exactly when at most 128 stored nonces are malformed or have
expired. -/
theorem nonce_sweep_iff (storage : NonceStorage) (nowMs : ℚ) :
    (∃ storage', storage.alarm nowMs = some storage' ∧ Swept nowMs storage storage') ↔
      (staleKeys nowMs storage).length ≤ 128 := by
  rw [alarm_eq]
  constructor
  · rintro ⟨storage', halarm, _⟩
    by_contra h
    have hthrows : ¬ (staleKeys nowMs storage).length ≤ NonceStorage.MAX_DELETE_KEYS := h
    rw [if_neg hthrows] at halarm
    cases halarm
  · exact fun h => ⟨storage.dropStale nowMs, if_pos h, swept_dropStale⟩

/-- A stale record stays stale. -/
theorem isStale_later {later : ℚ} (h : nowMs ≤ later) {value : StoredNonce}
    (hstale : isStale nowMs value = true) : isStale later value = true := by
  rw [isStale] at hstale ⊢
  cases hexpiry : value.expiresAt? with
  | none => rfl
  | some expiresAt =>
      simp only [hexpiry, Option.all_some, decide_eq_true_eq] at hstale ⊢
      exact hstale.trans h

/-- **A sweep that throws** throws again at every later time, and nothing is ever deleted. -/
theorem alarm_fails_later {later : ℚ} (h : nowMs ≤ later) (hfails : storage.alarm nowMs = none) :
    storage.alarm later = none := by
  have hcount : (staleKeys nowMs storage).length ≤ (staleKeys later storage).length := by
    rw [staleKeys, staleKeys, List.length_map, List.length_map]
    refine (List.monotone_filter_right _ fun e he => ?_).length_le
    rw [isStaleNonce, Bool.and_eq_true] at he ⊢
    exact ⟨he.1, isStale_later h he.2⟩
  rw [alarm_eq] at hfails ⊢
  split at hfails
  · cases hfails
  · rename_i hmany
    rw [if_neg fun hfew => hmany (hcount.trans hfew)]

/-! ## A burst of requests -/

/-- The key of a nonce of one letter. -/
def exampleKey (n : ℕ) : JsString := js "nonce:agent|" ++ [UInt16.ofNat (n + 0x21)]

/-- What as many requests, accepted at one time, have stored. -/
def exampleBurst : ℕ → NonceStorage
  | 0 => ⟨∅, none⟩
  | n + 1 =>
      { values := (exampleBurst n).values.insert (exampleKey n)
          (.record (.finite 1700000000000) (.finite 1700000300000))
        alarmAt := some 1700000300000 }

theorem exampleKey_inj {m n : ℕ} (hm : m < 1000) (hn : n < 1000)
    (h : exampleKey m = exampleKey n) : m = n := by
  have hunit := congrArg UInt16.toNat (List.singleton_inj.mp (List.append_cancel_left h))
  rw [UInt16.toNat_ofNat', UInt16.toNat_ofNat'] at hunit
  omega

theorem mem_exampleBurst {n : ℕ} {key : JsString} :
    key ∈ (exampleBurst n).values ↔ ∃ m < n, key = exampleKey m := by
  induction n with
  | zero => simp [exampleBurst]
  | succ n ih =>
      rw [exampleBurst, AList.mem_insert, ih]
      constructor
      · rintro (rfl | ⟨m, hm, rfl⟩)
        · exact ⟨n, Nat.lt_succ_self n, rfl⟩
        · exact ⟨m, Nat.lt_succ_of_lt hm, rfl⟩
      · rintro ⟨m, hm, rfl⟩
        rcases Nat.lt_succ_iff_lt_or_eq.mp hm with hlt | rfl
        · exact .inr ⟨m, hlt, rfl⟩
        · exact .inl rfl

theorem exampleKey_stale (n : ℕ) : isStaleNonce 1700000300000 (exampleKey n)
    (.record (.finite 1700000000000) (.finite 1700000300000)) = true := by
  have hprefix : NONCE_REPLAY_STORAGE_PREFIX.isPrefixOf (exampleKey n) = true := by
    rw [List.isPrefixOf_iff_prefix]
    have hkey : js "nonce:agent|" = NONCE_REPLAY_STORAGE_PREFIX ++ js "agent|" := by decide
    rw [exampleKey, hkey, List.append_assoc]
    exact List.prefix_append _ _
  rw [isStaleNonce, hprefix]
  simp [isStale, StoredNonce.expiresAt?]

/-- All nonces of a burst expire together. -/
theorem length_staleKeys_exampleBurst {n : ℕ} (hn : n ≤ 1000) :
    (staleKeys 1700000300000 (exampleBurst n)).length = n := by
  induction n with
  | zero => rfl
  | succ n ih =>
      have hnew : exampleKey n ∉ (exampleBurst n).values := by
        rw [mem_exampleBurst]
        rintro ⟨m, hm, heq⟩
        have hsame := exampleKey_inj (by omega) (by omega) heq
        omega
      have hrest := ih (by omega)
      rw [staleKeys, List.length_map] at hrest ⊢
      rw [exampleBurst, AList.entries_insert_of_notMem hnew, List.filter_cons,
        if_pos (exampleKey_stale n), List.length_cons, hrest]

/-- The sweep after 129 requests throws. -/
theorem not_nonce_sweep : ¬ ∀ (storage : NonceStorage) (nowMs : ℚ),
    ∃ storage', storage.alarm nowMs = some storage' ∧ Swept nowMs storage storage' := by
  intro h
  have hmany : ¬ (staleKeys 1700000300000 (exampleBurst 129)).length ≤
      NonceStorage.MAX_DELETE_KEYS := by
    rw [length_staleKeys_exampleBurst (by decide)]
    decide
  obtain ⟨storage', halarm, _⟩ := h (exampleBurst 129) 1700000300000
  rw [alarm_eq, if_neg hmany] at halarm
  cases halarm

end Clawdentity.NonceReplay
