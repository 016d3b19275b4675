import Clawdentity.Js.Uri
import Clawdentity.Proxy.NonceReplay
import Clawdentity.Sdk.NonceCache

/-!
# The two nonce stores

The same calls are made to the nonce cache in memory and to the durable guard, on a clock that
does not go back. The cache is purged and the guard's alarm runs at any time in between.

## Main definitions

* `Event`, `step`, `State` — the two stores side by side, with the log of their answers.
* `Remembers` — the stores hold the same records that have not expired.
* `SameAnswer` — the guard answers what the cache answers, or throws at a lone surrogate.
* `nonce_stores_agree` — along every run the answers are the same.
-/

namespace Clawdentity.NonceStores

open Js Lib Sdk NonceReplay

/-! ## The two stores side by side -/

inductive Event
  | tryAcceptNonce (agentDid nonce : JsString) (now : ℕ)
  /-- `purgeExpired` of the cache. -/
  | purgeExpired (now : ℕ)
  /-- The alarm of the guard. -/
  | alarm (now : ℕ)
  deriving DecidableEq

def Event.now : Event → ℕ
  | .tryAcceptNonce _ _ now => now
  | .purgeExpired now => now
  | .alarm now => now

/-- One call and the two answers; the guard's answer is `none` where it throws. -/
structure Answer where
  agentDid : JsString
  nonce : JsString
  cache : Except NonceCacheError NonceCacheResult
  guard : Option TryAcceptResult

structure State where
  cache : NonceCache
  guard : NonceReplayGuard
  clock : ℕ
  answers : List Answer

def State.init : State := ⟨.empty, .empty, 0, []⟩

/-- A call to the guard; a call that throws leaves it as it is. -/
def callGuard (ttlMs : ℕ) (guard : NonceReplayGuard) (agentDid nonce : JsString) (nowMs : ℕ) :
    Option TryAcceptResult × NonceReplayGuard :=
  match guard.handleTryAccept { agentDid, nonce, ttlMs, nowMs } with
  | some (result, guard) => (some result, guard)
  | none => (none, guard)

/-- One event; an event before the last clock value is not enabled. -/
def step (ttlMs : ℕ) (s : State) (e : Event) : Option State :=
  if e.now < s.clock then none
  else
    match e with
    | .tryAcceptNonce agentDid nonce now =>
        let (fromCache, cache) := s.cache.tryAcceptNonce ttlMs agentDid nonce now
        let (fromGuard, guard) := callGuard ttlMs s.guard agentDid nonce now
        some ⟨cache, guard, now, ⟨agentDid, nonce, fromCache, fromGuard⟩ :: s.answers⟩
    | .purgeExpired now => some { s with cache := s.cache.purgeExpiredAt now, clock := now }
    | .alarm now => some { s with guard := s.guard.alarm now, clock := now }

/-- The input of a call is trimmed and not empty. -/
def Event.IsTrimmed : Event → Prop
  | .tryAcceptNonce agentDid nonce _ =>
      (trim agentDid = agentDid ∧ agentDid ≠ []) ∧ trim nonce = nonce ∧ nonce ≠ []
  | _ => True

instance : DecidablePred Event.IsTrimmed
  | .tryAcceptNonce _ _ _ => inferInstanceAs (Decidable (_ ∧ _))
  | .purgeExpired _ => isTrue trivial
  | .alarm _ => isTrue trivial

/-- The answer of the cache, as the guard writes it. -/
def toGuardResult : NonceCacheResult → TryAcceptResult
  | .accepted seenAt expiresAt => .accepted seenAt expiresAt
  | .replay seenAt expiresAt => .replay seenAt expiresAt

/-- Both strings are well-formed: none has a lone surrogate. -/
def IsWellFormed (agentDid nonce : JsString) : Prop :=
  (Utf16.decode agentDid).isSome ∧ (Utf16.decode nonce).isSome

/-- The cache accepts or finds a replay, and the guard answers the same, or it throws, which is
at a lone surrogate. -/
def SameAnswer (answer : Answer) : Prop :=
  ∃ result, answer.cache = .ok result ∧
    (IsWellFormed answer.agentDid answer.nonce → answer.guard = some (toGuardResult result)) ∧
    (¬IsWellFormed answer.agentDid answer.nonce → answer.guard = none)

/-! ## Storage keys -/

section
variable {agentDid nonce agentDid' nonce' key : JsString}

/-- **Each pair has its own key.** -/
theorem toNonceStorageKey_inj (h : NonceReplayGuard.toNonceStorageKey agentDid nonce = some key)
    (h' : NonceReplayGuard.toNonceStorageKey agentDid' nonce' = some key) :
    agentDid' = agentDid ∧ nonce' = nonce := by
  simp only [NonceReplayGuard.toNonceStorageKey, Option.bind_eq_bind, Option.bind_eq_some_iff,
    Option.pure_def, Option.some.injEq] at h h'
  obtain ⟨agent, hagent, text, htext, rfl⟩ := h
  obtain ⟨agent', hagent', text', htext', heq⟩ := h'
  have hbar : js "|" = [0x7C] := by decide
  simp only [hbar, List.append_assoc, List.singleton_append] at heq
  obtain ⟨hsame, hsame'⟩ := Text.append_sep_inj (bar_notMem_encodeURIComponent hagent')
    (bar_notMem_encodeURIComponent hagent) (List.append_cancel_left heq)
  exact ⟨encodeURIComponent_inj (hsame ▸ hagent') hagent,
    encodeURIComponent_inj (hsame' ▸ htext') htext⟩

theorem toNonceStorageKey_eq_none :
    NonceReplayGuard.toNonceStorageKey agentDid nonce = none ↔ ¬IsWellFormed agentDid nonce := by
  have hkey : (NonceReplayGuard.toNonceStorageKey agentDid nonce).isSome =
      ((encodeURIComponent agentDid).isSome && (encodeURIComponent nonce).isSome) := by
    simp only [NonceReplayGuard.toNonceStorageKey]
    cases encodeURIComponent agentDid <;> cases encodeURIComponent nonce <;> rfl
  rw [← Option.not_isSome_iff_eq_none, hkey, encodeURIComponent_eq, encodeURIComponent_eq,
    Option.isSome_map, Option.isSome_map, IsWellFormed, Bool.and_eq_true]

end

/-! ## The simulation -/

/-- A record that has not expired at the time, by its two numbers. -/
def aliveInCache (now : ℕ) (record : Option NonceRecord) : Option (ℕ × ℕ) :=
  (record.filter fun r => now < r.expiresAt).map fun r => (r.seenAt, r.expiresAt)

def aliveInGuard (now : ℕ) (record : Option NonceReplayRecord) : Option (ℕ × ℕ) :=
  (record.filter fun r => now < r.expiresAt).map fun r => (r.seenAt, r.expiresAt)

/-- From the clock on, the stores hold the same records that have not expired. -/
def Remembers (cache : NonceCache) (guard : NonceReplayGuard) (clock : ℕ) : Prop :=
  ∀ agentDid nonce key, NonceReplayGuard.toNonceStorageKey agentDid nonce = some key →
    ∀ now, clock ≤ now →
      aliveInCache now (cache.find? agentDid nonce) = aliveInGuard now (guard.records.lookup key)

section
variable {cache : NonceCache} {guard : NonceReplayGuard} {clock now ttlMs : ℕ}

theorem remembers_init : Remembers .empty .empty 0 := fun _ _ _ _ _ _ => rfl

/-- A record that is dropped once it has expired is not alive later. -/
theorem filter_filter_alive {α : Type*} {expiresAt : α → ℕ} {now later : ℕ} (h : now ≤ later)
    (record : Option α) :
    (record.filter fun r => now < expiresAt r).filter (fun r => later < expiresAt r) =
      record.filter fun r => later < expiresAt r := by
  cases record with
  | none => rfl
  | some r =>
      by_cases hlater : later < expiresAt r
      · simp [Option.filter_some, hlater, Nat.lt_of_le_of_lt h hlater]
      · by_cases hnow : now < expiresAt r <;> simp [Option.filter_some, hlater, hnow]

/-- **A purge of the cache is not noticed.** -/
theorem Remembers.purge (h : Remembers cache guard clock) (hnow : clock ≤ now) :
    Remembers (cache.purgeExpiredAt now) guard now := by
  intro agentDid nonce key hkey later hlater
  rw [← h agentDid nonce key hkey later (hnow.trans hlater), aliveInCache,
    NonceCache.find?_purgeExpiredAt, filter_filter_alive hlater, aliveInCache]

/-- **A sweep of the guard is not noticed.** -/
theorem Remembers.alarm (h : Remembers cache guard clock) (hnow : clock ≤ now) :
    Remembers cache (guard.alarm now) now := by
  intro agentDid nonce key hkey later hlater
  have hlookup : (guard.alarm now).records.lookup key =
      (guard.records.lookup key).filter fun record => now < record.expiresAt := by
    ext record
    simp [NonceReplayGuard.alarm, Table.lookup_keep_eq_some, Option.filter_eq_some_iff]
  rw [h agentDid nonce key hkey later (hnow.trans hlater), aliveInGuard, aliveInGuard, hlookup,
    filter_filter_alive hlater]

/-- **Both stores record an accepted nonce**, the guard under its key. -/
theorem Remembers.put (h : Remembers cache guard clock) {agentDid nonce key : JsString}
    (hkey : NonceReplayGuard.toNonceStorageKey agentDid nonce = some key) (seenAt expiresAt : ℕ)
    {alarmAt : Option ℕ} :
    Remembers (cache.set agentDid nonce ⟨seenAt, expiresAt⟩)
      ⟨guard.records.insert key ⟨seenAt, expiresAt⟩, alarmAt⟩ clock := by
  intro agentDid' nonce' key' hkey' later hlater
  by_cases hpair : agentDid' = agentDid ∧ nonce' = nonce
  · obtain ⟨rfl, rfl⟩ := hpair
    obtain rfl := Option.some.inj (hkey.symm.trans hkey')
    rw [NonceCache.find?_set_self, AList.lookup_insert]
    by_cases hlive : later < expiresAt <;>
      simp [aliveInCache, aliveInGuard, Option.filter_some, hlive]
  · have hne : key' ≠ key := by
      rintro rfl
      exact hpair (toNonceStorageKey_inj hkey hkey')
    rw [NonceCache.find?_set_ne _ hpair, AList.lookup_insert_ne hne]
    exact h agentDid' nonce' key' hkey' later hlater

/-- A record of a pair without a key is none of the guard's. -/
theorem Remembers.set_of_no_key (h : Remembers cache guard clock) {agentDid nonce : JsString}
    (hkey : NonceReplayGuard.toNonceStorageKey agentDid nonce = none) (record : NonceRecord) :
    Remembers (cache.set agentDid nonce record) guard clock := by
  intro agentDid' nonce' key' hkey' later hlater
  have hpair : ¬(agentDid' = agentDid ∧ nonce' = nonce) := by
    rintro ⟨rfl, rfl⟩
    rw [hkey] at hkey'
    cases hkey'
  rw [NonceCache.find?_set_ne _ hpair]
  exact h agentDid' nonce' key' hkey' later hlater

/-- What the guard answers on a trimmed input, by the record that has not expired. -/
theorem callGuard_eq {agentDid nonce : JsString} (httl : 0 < ttlMs)
    (hagent : trim agentDid = agentDid ∧ agentDid ≠ []) (hnonce : trim nonce = nonce ∧ nonce ≠ []) :
    callGuard ttlMs guard agentDid nonce now =
      match NonceReplayGuard.toNonceStorageKey agentDid nonce with
      | none => (none, guard)
      | some key => ((some (guard.acceptKey key ttlMs now).1), (guard.acceptKey key ttlMs now).2) := by
  have hagentNonEmpty : isNonEmptyString agentDid = true := by simp [isNonEmptyString, hagent]
  have hnonceNonEmpty : isNonEmptyString nonce = true := by simp [isNonEmptyString, hnonce]
  simp only [callGuard, handleTryAccept_of_nonEmpty hagentNonEmpty hnonceNonEmpty httl, hagent.1,
    hnonce.1]
  cases NonceReplayGuard.toNonceStorageKey agentDid nonce <;> rfl

/-- What the guard does with a key, by its record that has not expired. -/
theorem acceptKey_eq (guard : NonceReplayGuard) (key : JsString) (ttlMs now : ℕ) :
    guard.acceptKey key ttlMs now =
      match aliveInGuard now (guard.records.lookup key) with
      | some (seenAt, expiresAt) => (.replay seenAt expiresAt, guard)
      | none => NonceReplayGuard.acceptKey.put guard key ttlMs now := by
  unfold NonceReplayGuard.acceptKey aliveInGuard
  cases guard.records.lookup key with
  | none => rfl
  | some record =>
      by_cases hlive : now < record.expiresAt <;> simp [Option.filter_some, hlive]

/-- What the cache does with a trimmed input, by its record that has not expired. -/
theorem tryAcceptNonce_alive {agentDid nonce : JsString}
    (hagent : trim agentDid = agentDid ∧ agentDid ≠ []) (hnonce : trim nonce = nonce ∧ nonce ≠ []) :
    cache.tryAcceptNonce ttlMs agentDid nonce now =
      match aliveInCache now (cache.find? agentDid nonce) with
      | some (seenAt, expiresAt) => (.ok (.replay seenAt expiresAt), cache.purgeExpiredAt now)
      | none => (.ok (.accepted now (now + ttlMs)),
          (cache.purgeExpiredAt now).set agentDid nonce ⟨now, now + ttlMs⟩) := by
  have hagentNonEmpty : isNonEmptyString agentDid = true := by simp [isNonEmptyString, hagent]
  have hnonceNonEmpty : isNonEmptyString nonce = true := by simp [isNonEmptyString, hnonce]
  rw [NonceCache.tryAcceptNonce_eq hagentNonEmpty hnonceNonEmpty, aliveInCache]
  cases (cache.find? agentDid nonce).filter fun record => now < record.expiresAt <;> rfl

/-- **What one call preserves**: the answers are the same, and so are the records after it. -/
theorem Remembers.call (h : Remembers cache guard clock) (httl : 0 < ttlMs) (hnow : clock ≤ now)
    {agentDid nonce : JsString} (hagent : trim agentDid = agentDid ∧ agentDid ≠ [])
    (hnonce : trim nonce = nonce ∧ nonce ≠ []) :
    Remembers (cache.tryAcceptNonce ttlMs agentDid nonce now).2
      (callGuard ttlMs guard agentDid nonce now).2 now ∧
    SameAnswer ⟨agentDid, nonce, (cache.tryAcceptNonce ttlMs agentDid nonce now).1,
      (callGuard ttlMs guard agentDid nonce now).1⟩ := by
  have hpurged := h.purge hnow
  rw [callGuard_eq httl hagent hnonce, tryAcceptNonce_alive hagent hnonce]
  cases hkey : NonceReplayGuard.toNonceStorageKey agentDid nonce with
  | none =>
      have hill := toNonceStorageKey_eq_none.mp hkey
      cases aliveInCache now (cache.find? agentDid nonce) with
      | none => exact ⟨hpurged.set_of_no_key hkey _, _, rfl, fun hw => absurd hw hill, fun _ => rfl⟩
      | some record => exact ⟨hpurged, _, rfl, fun hw => absurd hw hill, fun _ => rfl⟩
  | some key =>
      have hwell : IsWellFormed agentDid nonce := by
        by_contra hill
        rw [toNonceStorageKey_eq_none.mpr hill] at hkey
        cases hkey
      simp only [acceptKey_eq, ← h agentDid nonce key hkey now hnow]
      cases aliveInCache now (cache.find? agentDid nonce) with
      | none => exact ⟨hpurged.put hkey _ _, _, rfl, fun _ => rfl, fun hill => absurd hwell hill⟩
      | some record => exact ⟨hpurged, _, rfl, fun _ => rfl, fun hill => absurd hwell hill⟩

end

/-! ## Runs -/

/-- The stores agree from the clock on, and have agreed so far. -/
structure Inv (s : State) : Prop where
  remembers : Remembers s.cache s.guard s.clock
  answers : ∀ answer ∈ s.answers, SameAnswer answer

section
variable {ttlMs : ℕ} {s s' : State} {e : Event}

theorem inv_init : Inv State.init := ⟨remembers_init, fun _ h => by cases h⟩

theorem inv_step (httl : 0 < ttlMs) (htrim : e.IsTrimmed) (hinv : Inv s)
    (h : step ttlMs s e = some s') : Inv s' := by
  simp only [step, Option.ite_none_left_eq_some, Nat.not_lt] at h
  obtain ⟨hnow, h⟩ := h
  cases e with
  | tryAcceptNonce agentDid nonce now =>
      obtain rfl := Option.some.inj h
      obtain ⟨hremembers, hanswer⟩ := hinv.remembers.call httl hnow htrim.1 htrim.2
      refine ⟨hremembers, ?_⟩
      intro answer hmem
      rcases List.mem_cons.mp hmem with rfl | hmem
      · exact hanswer
      · exact hinv.answers answer hmem
  | purgeExpired now =>
      obtain rfl := Option.some.inj h
      exact ⟨hinv.remembers.purge hnow, hinv.answers⟩
  | alarm now =>
      obtain rfl := Option.some.inj h
      exact ⟨hinv.remembers.alarm hnow, hinv.answers⟩

/-- **The two nonce stores agree.** Along every run they give the same answer to every call with
trimmed inputs that are not empty, apart from the calls with a lone surrogate, at which the guard
throws. -/
theorem nonce_stores_agree (httl : 0 < ttlMs) {events : List Event}
    (htrim : ∀ e ∈ events, e.IsTrimmed) (hrun : Run.exec (step ttlMs) State.init events = some s) :
    ∀ answer ∈ s.answers, SameAnswer answer := by
  have hall : Run.AllSteps (step ttlMs) (fun _ e => e.IsTrimmed) State.init events :=
    Run.allSteps_of_forall (fun e he _ => htrim e he) State.init
  exact (Run.exec_invariant Inv (fun _ _ _ hinv hok hstep => inv_step httl hok hinv hstep) inv_init
    hall hrun).answers

end

/-- A nonce that is used again before it expires and when it expires. -/
def exampleEvents : List Event :=
  [.tryAcceptNonce (js "a") (js "n") 0, .purgeExpired 3, .tryAcceptNonce (js "a") (js "n") 5,
    .alarm 10, .tryAcceptNonce (js "a") (js "n") 10]

/-- The stores agree on it. -/
theorem exampleEvents_agree : ∃ s, Run.exec (step 10) State.init exampleEvents = some s ∧
    ∀ answer ∈ s.answers, SameAnswer answer := by
  have htrim : ∀ e ∈ exampleEvents, e.IsTrimmed := by decide
  obtain ⟨s, hrun⟩ : ∃ s, Run.exec (step 10) State.init exampleEvents = some s := ⟨_, rfl⟩
  exact ⟨s, hrun, nonce_stores_agree (by decide) htrim hrun⟩

/-- **At a lone surrogate** the cache accepts and the guard throws. -/
theorem not_same_answers : ¬∀ (ttlMs : ℕ) (events : List Event) (s : State), 0 < ttlMs →
    (∀ e ∈ events, e.IsTrimmed) → Run.exec (step ttlMs) State.init events = some s →
    ∀ answer ∈ s.answers, ∃ result, answer.cache = .ok result ∧
      answer.guard = some (toGuardResult result) := by
  intro h
  have htrim : ∀ e ∈ [Event.tryAcceptNonce (js "a") [0xD800] 0], e.IsTrimmed := by decide
  obtain ⟨_, _, hguard⟩ := h 1 _ _ (by decide) htrim rfl _ List.mem_cons_self
  cases hguard

end Clawdentity.NonceStores
