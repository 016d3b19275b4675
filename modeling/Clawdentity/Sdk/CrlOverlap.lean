import Clawdentity.Sdk.CrlCache

/-!
# Overlapping refreshes of the revocation list

Any number of calls of one cache, which fetch independently while the cache is empty or stale.
Each sets the claims when its fetch completes, whatever the claims are by then: a slow fetch
overwrites the claims of one that started after it. Where the successful fetches complete in the
order in which they started, the cache never goes back in time.

## Main definitions

* `completesInOrder` — the condition on a completed fetch.
* `NeverGoesBack` — the claims that are cached and the answers, between two states of a run.
* `crl_cache_never_goes_back`.
-/

namespace Clawdentity.CrlOverlap

open Js Lib.Interleave Lib.Run Protocol CrlCache

abbrev State := Pool Cache Call
abbrev Event := Move Request Choice

/-- The clock that is read at an event. -/
def clockOf : Event → Option ℕ
  | .start request => some request.nowMs
  | .resume _ _ => none

/-- The start of the fetch whose claims are cached. -/
def State.fetchedAt (p : State) : Option ℕ := p.shared.lastSuccessfulRefreshAtMs

/-- The condition on one step: where a fetch completes with valid claims, no fetch that has set
the claims before started after it. -/
def completesInOrder (toLowerCase : JsString → JsString) (p : State) : Event → Bool
  | .resume i (.fetched payload) =>
      (p.calls[i]?.all fun c => p.calls.all fun d => !d.refreshed || decide (d.nowMs ≤ c.nowMs)) ||
        (parseCrlClaims toLowerCase payload).isNone
  | _ => true

/-- The call was answered from claims, and these are of the fetch that started at the time. -/
def AnswersFrom (c : Call) (restsOn : Option ℕ) : Prop :=
  (∃ revoked, c.phase = .answered (.revoked revoked) restsOn) ∨
    ∃ result, c.phase = .answered (.refreshed result) restsOn

/-- Between a state and a later one: the start of the fetch whose claims are cached, the answers
given before the first state and those given after it, and the age of the claims of an answer. -/
structure NeverGoesBack (options : Options) (p q : State) : Prop where
  fetchedAt : p.fetchedAt ≤ q.fetchedAt
  answers : ∀ c ∈ p.calls, ∀ restsOn, AnswersFrom c restsOn →
    ∀ (j : ℕ) (d : Call), q.calls[j]? = some d → p.calls[j]? ≠ some d →
      ∀ restsOn', AnswersFrom d restsOn' → restsOn ≤ restsOn'
  age : options.staleBehavior = .failClosed → ∀ c ∈ q.calls, ∀ restsOn,
    AnswersFrom c restsOn → ∃ t, restsOn = some t ∧ c.nowMs ≤ t + options.maxAgeMs

/-! ## Times that may be missing -/

theorem le_refl_option (a : Option ℕ) : a ≤ a := by cases a <;> simp

theorem le_trans_option {a b c : Option ℕ} (hab : a ≤ b) (hbc : b ≤ c) : a ≤ c := by
  cases a with
  | none => exact Option.none_le
  | some a =>
      cases b with
      | none => cases Option.le_none.mp hab
      | some b =>
          cases c with
          | none => cases Option.le_none.mp hbc
          | some c =>
              rw [Option.some_le_some] at hab hbc ⊢
              exact Nat.le_trans hab hbc

/-! ## One piece of code -/

/-- The claims of the cache are young enough for a call that started at the time. -/
def AgeOk (options : Options) (cache : Cache) (now : ℕ) : Prop :=
  options.staleBehavior = .failClosed →
    ∃ t, cache.lastSuccessfulRefreshAtMs = some t ∧ now ≤ t + options.maxAgeMs

/-- What holds of a call that has gone on over a cache: it reads claims that are young enough,
and answers from those of the cache. -/
structure Settled (options : Options) (cache : Cache) (c : Call) : Prop where
  reading : ∀ jti, c.phase = .reading jti → AgeOk options cache c.nowMs
  answered : ∀ restsOn, AnswersFrom c restsOn →
    restsOn = cache.lastSuccessfulRefreshAtMs ∧ AgeOk options cache c.nowMs

section
variable {toLowerCase : JsString → JsString} {options : Options} {cache cache' : Cache} {now : ℕ}
  {operation : Operation} {c c' : Call}

theorem ageOk_of_not_isStale (h : isStale options cache now = false) : AgeOk options cache now := by
  intro _
  simp only [isStale, ageMs, Bool.or_eq_false_iff] at h
  cases hlast : cache.lastSuccessfulRefreshAtMs with
  | none =>
      rw [hlast] at h
      cases h.2
  | some t =>
      rw [hlast, Option.map_some, Option.all_some, decide_eq_false_iff_not] at h
      exact ⟨t, rfl, by omega⟩

theorem finishRefresh_settled (refreshed refreshed' : Bool) (warnings : List Warning) :
    Settled options cache
      ⟨now, refreshed, finishRefresh options cache now operation refreshed' warnings⟩ := by
  have hage : (isStale options cache now && options.staleBehavior = .failClosed) = false →
      AgeOk options cache now := by
    intro hnot hclosed
    rw [decide_eq_true hclosed, Bool.and_true] at hnot
    exact ageOk_of_not_isStale hnot hclosed
  simp only [finishRefresh]
  split
  · exact ⟨nofun, fun restsOn h => by obtain ⟨_, h⟩ | ⟨_, h⟩ := h <;> cases h⟩
  · rename_i hnot
    have hok := hage (Bool.eq_false_iff.mpr hnot)
    cases operation with
    | isRevoked jti =>
        exact ⟨fun _ _ => hok, fun restsOn h => by obtain ⟨_, h⟩ | ⟨_, h⟩ := h <;> cases h⟩
    | refreshIfStale =>
        refine ⟨nofun, ?_⟩
        rintro restsOn (⟨_, h⟩ | ⟨_, h⟩)
        · cases h
        · cases h
          exact ⟨rfl, hok⟩

theorem finishRefresh_not_fetching (refreshed : Bool) (warnings : List Warning)
    (other : Operation) :
    finishRefresh options cache now operation refreshed warnings ≠ .fetching other := by
  simp only [finishRefresh]
  split
  · nofun
  · cases operation <;> nofun

/-- A fetch starts no earlier than that of the claims in the cache. -/
theorem le_of_shouldRefresh (hclaims : cache.claims = none → cache.lastSuccessfulRefreshAtMs = none)
    (h : shouldRefresh options cache now = true) : cache.lastSuccessfulRefreshAtMs ≤ some now := by
  cases hlast : cache.lastSuccessfulRefreshAtMs with
  | none => exact Option.none_le
  | some t =>
      have hsome : cache.claims.isNone = false := by
        cases hnone : cache.claims with
        | none => rw [hclaims hnone] at hlast; cases hlast
        | some claims => rfl
      simp only [shouldRefresh, isStale, ageMs, hlast, hsome, Option.map_some, Option.all_some,
        Bool.false_or, Bool.or_eq_true, decide_eq_true_eq] at h
      rw [Option.some_le_some]
      omega

/-- A call that starts. -/
structure Started (options : Options) (cache cache' : Cache) (c : Call) : Prop where
  claims : cache'.claims = cache.claims
  fetchedAt : cache'.lastSuccessfulRefreshAtMs = cache.lastSuccessfulRefreshAtMs
  not_refreshed : c.refreshed = false
  settled : Settled options cache c
  fetching : ∀ other, c.phase = .fetching other →
    cache.lastSuccessfulRefreshAtMs ≤ some c.nowMs

theorem startRefresh_started
    (hclaims : cache.claims = none → cache.lastSuccessfulRefreshAtMs = none) :
    Started options cache (startRefresh options cache now operation).1
      (startRefresh options cache now operation).2 := by
  unfold startRefresh
  split
  · rename_i hdue
    have hle := le_of_shouldRefresh hclaims (Bool.and_eq_true_iff.mp hdue).1
    exact ⟨rfl, rfl, rfl, ⟨nofun, fun _ h => by obtain ⟨_, h⟩ | ⟨_, h⟩ := h <;> cases h⟩,
      fun _ _ => hle⟩
  · exact ⟨rfl, rfl, rfl, finishRefresh_settled _ _ _,
      fun other h => absurd h (finishRefresh_not_fetching _ _ other)⟩

theorem startCall_started (request : Request)
    (hclaims : cache.claims = none → cache.lastSuccessfulRefreshAtMs = none) :
    Started options cache (startCall options cache request).1
      (startCall options cache request).2 := by
  unfold startCall
  split
  · exact startRefresh_started hclaims
  · split
    · exact ⟨rfl, rfl, rfl, ⟨nofun, fun _ h => by obtain ⟨_, h⟩ | ⟨_, h⟩ := h <;> cases h⟩, nofun⟩
    · exact startRefresh_started hclaims

/-- What a resumed call does to the cache. -/
inductive CacheMove (toLowerCase : JsString → JsString) (cache cache' : Cache) (c c' : Call)
    (choice : Choice) : Prop
  | keep (same : cache' = cache) (refreshed : c'.refreshed = true → c.refreshed = true)
  | refresh (payload : Value) (fetching : ∃ operation, c.phase = .fetching operation)
      (fetched : choice = .fetched payload)
      (valid : (parseCrlClaims toLowerCase payload).isSome = true)
      (claims : cache'.claims.isSome = true)
      (fetchedAt : cache'.lastSuccessfulRefreshAtMs = some c.nowMs)
      (refreshed : c'.refreshed = true)

/-- A call that goes on. -/
structure Resumed (toLowerCase : JsString → JsString) (options : Options) (cache cache' : Cache)
    (c c' : Call) (choice : Choice) : Prop where
  nowMs : c'.nowMs = c.nowMs
  move : CacheMove toLowerCase cache cache' c c' choice
  settled : Settled options cache' c'
  not_fetching : ∀ other, c'.phase ≠ .fetching other
  /-- A call that had set the claims is still known as one that has. -/
  refreshed : (∀ operation, c.phase ≠ .fetching operation) → c'.refreshed = c.refreshed
  /-- An answered call does not go on. -/
  not_answered : ∀ restsOn, ¬AnswersFrom c restsOn

theorem finishFetch_resumed {choice : Choice} {payload : Option Value}
    (hphase : c.phase = .fetching operation)
    (hchoice : ∀ value, payload = some value → choice = .fetched value)
    (h : finishFetch toLowerCase options cache c.nowMs operation payload = (cache', c')) :
    Resumed toLowerCase options cache cache' c c' choice := by
  have hnot : ∀ restsOn, ¬AnswersFrom c restsOn := by
    rintro restsOn (⟨_, h⟩ | ⟨_, h⟩) <;> cases hphase.symm.trans h
  unfold finishFetch at h
  split at h
  · rename_i claims hclaims
    obtain ⟨value, rfl, hvalid⟩ := Option.bind_eq_some_iff.mp hclaims
    cases h
    refine ⟨rfl, .refresh value ⟨_, hphase⟩ (hchoice value rfl) (by rw [hvalid]; rfl) rfl rfl rfl,
      finishRefresh_settled _ _ _, finishRefresh_not_fetching _ _, ?_, hnot⟩
    intro hsuspended
    exact absurd hphase (hsuspended operation)
  · cases h
    refine ⟨rfl, .keep rfl nofun, finishRefresh_settled _ _ _, finishRefresh_not_fetching _ _, ?_,
      hnot⟩
    intro hsuspended
    exact absurd hphase (hsuspended operation)

theorem resumeCall_resumed {choice : Choice}
    (hreading : ∀ jti, c.phase = .reading jti → AgeOk options cache c.nowMs)
    (h : resumeCall toLowerCase options cache c choice = some (cache', c')) :
    Resumed toLowerCase options cache cache' c c' choice := by
  unfold resumeCall at h
  split at h
  · rename_i operation payload hphase
    refine finishFetch_resumed hphase ?_ (Option.some.inj h)
    intro value hvalue
    rw [Option.some.inj hvalue]
  · rename_i operation hphase
    exact finishFetch_resumed hphase (fun _ hvalue => by cases hvalue) (Option.some.inj h)
  · rename_i jti hphase
    cases h
    refine ⟨rfl, .keep rfl id, ⟨nofun, ?_⟩, nofun, fun _ => rfl, ?_⟩
    · rintro restsOn (⟨_, h⟩ | ⟨_, h⟩)
      · cases h
        exact ⟨rfl, hreading jti hphase⟩
      · cases h
    · rintro restsOn (⟨_, h⟩ | ⟨_, h⟩) <;> cases hphase.symm.trans h
  · cases h

end

/-! ## The invariant -/

structure Inv (options : Options) (cache₀ : Cache) (p : State) : Prop where
  empty : p.shared.claims = none → p.fetchedAt = none
  /-- The claims are the first ones, or those of a call that has set them. -/
  source : p.fetchedAt = cache₀.lastSuccessfulRefreshAtMs ∨
    ∃ d ∈ p.calls, d.refreshed = true ∧ p.fetchedAt = some d.nowMs
  first_le : cache₀.lastSuccessfulRefreshAtMs ≤ p.fetchedAt
  fetching : ∀ c ∈ p.calls, ∀ operation, c.phase = .fetching operation →
    c.refreshed = false ∧ cache₀.lastSuccessfulRefreshAtMs ≤ some c.nowMs
  reading : ∀ c ∈ p.calls, ∀ jti, c.phase = .reading jti → AgeOk options p.shared c.nowMs
  answered : ∀ c ∈ p.calls, ∀ restsOn, AnswersFrom c restsOn → restsOn ≤ p.fetchedAt ∧
    (options.staleBehavior = .failClosed → ∃ t, restsOn = some t ∧ c.nowMs ≤ t + options.maxAgeMs)

/-- What one step adds: the claims are no older, and each new answer rests on those of the step
or on newer ones. -/
structure Advances (p q : State) : Prop where
  fetchedAt : p.fetchedAt ≤ q.fetchedAt
  answers : ∀ (j : ℕ) (d : Call), q.calls[j]? = some d → ∀ restsOn, AnswersFrom d restsOn →
    p.calls[j]? = some d ∨ p.fetchedAt ≤ restsOn

section
variable {toLowerCase : JsString → JsString} {options : Options} {cache₀ cache' : Cache}
  {p q : State} {i : ℕ} {c c' : Call}

theorem Advances.refl (p : State) : Advances p p :=
  ⟨le_refl_option _, fun _ _ h _ _ => .inl h⟩

theorem Advances.trans {r : State} (hpq : Advances p q) (hqr : Advances q r) : Advances p r := by
  refine ⟨le_trans_option hpq.fetchedAt hqr.fetchedAt, ?_⟩
  intro j d hd restsOn hanswer
  rcases hqr.answers j d hd restsOn hanswer with hd | hle
  · exact hpq.answers j d hd restsOn hanswer
  · exact .inr (le_trans_option hpq.fetchedAt hle)

theorem AgeOk.mono {cache : Cache} {now : ℕ} (h : AgeOk options cache now)
    (hle : cache.lastSuccessfulRefreshAtMs ≤ cache'.lastSuccessfulRefreshAtMs) :
    AgeOk options cache' now := by
  intro hclosed
  obtain ⟨t, ht, hage⟩ := h hclosed
  rw [ht] at hle
  cases hlast : cache'.lastSuccessfulRefreshAtMs with
  | none =>
      rw [hlast] at hle
      cases Option.le_none.mp hle
  | some t' =>
      rw [hlast, Option.some_le_some] at hle
      exact ⟨t', rfl, by omega⟩

/-- A settled call answers from the claims of the cache, young enough. -/
theorem Settled.answered_le {cache : Cache} (h : Settled options cache c) {restsOn : Option ℕ}
    (hanswer : AnswersFrom c restsOn) :
    restsOn ≤ cache.lastSuccessfulRefreshAtMs ∧
      (options.staleBehavior = .failClosed →
        ∃ t, restsOn = some t ∧ c.nowMs ≤ t + options.maxAgeMs) := by
  obtain ⟨rfl, hage⟩ := h.answered restsOn hanswer
  exact ⟨le_refl_option _, hage⟩

/-- A completed fetch that keeps the order starts no earlier than the claims it replaces. -/
theorem le_of_completesInOrder (hp : Inv options cache₀ p) (hc : p.calls[i]? = some c)
    {payload : Value} (hphase : ∃ operation, c.phase = .fetching operation)
    (hvalid : (parseCrlClaims toLowerCase payload).isSome = true)
    (hok : completesInOrder toLowerCase p (.resume i (.fetched payload)) = true) :
    p.fetchedAt ≤ some c.nowMs := by
  obtain ⟨operation, hphase⟩ := hphase
  have hnone : (parseCrlClaims toLowerCase payload).isNone = false := by
    rw [Option.isNone_eq_false_iff]
    exact hvalid
  rw [completesInOrder, hc, Option.all_some, hnone, Bool.or_false, List.all_eq_true] at hok
  rcases hp.source with hfirst | ⟨d, hd, hrefreshed, hsource⟩
  · rw [hfirst]
    exact (hp.fetching c (List.mem_of_getElem? hc) operation hphase).2
  · have hle := hok d hd
    rw [hrefreshed, Bool.not_true, Bool.false_or, decide_eq_true_eq] at hle
    rw [hsource, Option.some_le_some]
    exact hle

theorem inv_start {cache : Cache} (hp : Inv options cache₀ p)
    (hstarted : Started options p.shared cache c) :
    Inv options cache₀ ⟨cache, p.calls ++ [c]⟩ ∧ Advances p ⟨cache, p.calls ++ [c]⟩ := by
  have hsame : State.fetchedAt ⟨cache, p.calls ++ [c]⟩ = p.fetchedAt := hstarted.fetchedAt
  have hshared : cache.lastSuccessfulRefreshAtMs = p.shared.lastSuccessfulRefreshAtMs :=
    hstarted.fetchedAt
  constructor
  · refine ⟨?_, ?_, ?_, ?_, ?_, ?_⟩
    · intro hnone
      rw [hsame]
      exact hp.empty (hstarted.claims ▸ hnone)
    · rw [hsame]
      exact hp.source.imp_right fun ⟨d, hd, h⟩ => ⟨d, List.mem_append_left _ hd, h⟩
    · rw [hsame]
      exact hp.first_le
    · intro d hd operation hphase
      rcases List.mem_append.mp hd with hd | hd
      · exact hp.fetching d hd operation hphase
      · obtain rfl := List.mem_singleton.mp hd
        exact ⟨hstarted.not_refreshed,
          le_trans_option hp.first_le (hstarted.fetching operation hphase)⟩
    · intro d hd jti hphase
      rcases List.mem_append.mp hd with hd | hd
      · exact (hp.reading d hd jti hphase).mono (hshared ▸ le_refl_option _)
      · obtain rfl := List.mem_singleton.mp hd
        exact (hstarted.settled.reading jti hphase).mono (hshared ▸ le_refl_option _)
    · intro d hd restsOn hanswer
      rw [hsame]
      rcases List.mem_append.mp hd with hd | hd
      · exact hp.answered d hd restsOn hanswer
      · obtain rfl := List.mem_singleton.mp hd
        exact hstarted.settled.answered_le hanswer
  · refine ⟨hsame ▸ le_refl_option _, ?_⟩
    intro j d hd restsOn hanswer
    rcases getElem?_or_eq_of_append hd with hd | rfl
    · exact .inl hd
    · right
      rw [(hstarted.settled.answered restsOn hanswer).1]
      exact le_refl_option _

theorem inv_resume {choice : Choice} (hp : Inv options cache₀ p) (hc : p.calls[i]? = some c)
    (hok : completesInOrder toLowerCase p (.resume i choice) = true)
    (hresumed : Resumed toLowerCase options p.shared cache' c c' choice) :
    Inv options cache₀ ⟨cache', p.calls.set i c'⟩ ∧ Advances p ⟨cache', p.calls.set i c'⟩ := by
  have hmem := List.mem_of_getElem? hc
  have hle : p.shared.lastSuccessfulRefreshAtMs ≤ cache'.lastSuccessfulRefreshAtMs := by
    cases hresumed.move with
    | keep same => rw [same]; exact le_refl_option _
    | refresh payload fetching fetched valid claims fetchedAt =>
        rw [fetchedAt]
        exact le_of_completesInOrder hp hc fetching valid (fetched ▸ hok)
  constructor
  · refine ⟨?_, ?_, le_trans_option hp.first_le hle, ?_, ?_, ?_⟩
    · intro hnone
      cases hresumed.move with
      | keep same =>
          subst same
          exact hp.empty hnone
      | refresh payload fetching fetched valid claims =>
          rw [show cache'.claims = none from hnone] at claims
          cases claims
    · change cache'.lastSuccessfulRefreshAtMs = _ ∨ _
      cases hresumed.move with
      | keep same =>
          subst same
          refine hp.source.imp_right ?_
          rintro ⟨d, hd, hrefreshed, hsource⟩
          rcases mem_set_or_eq hc hd with rfl | hd
          · -- The call that has set the claims is the one that goes on.
            have hsuspended : ∀ operation, d.phase ≠ .fetching operation := by
              intro operation hphase
              rw [(hp.fetching d hmem operation hphase).1] at hrefreshed
              cases hrefreshed
            exact ⟨c', mem_set_self hc, (hresumed.refreshed hsuspended).trans hrefreshed,
              hresumed.nowMs ▸ hsource⟩
          · exact ⟨d, hd, hrefreshed, hsource⟩
      | refresh payload fetching fetched valid claims fetchedAt refreshed =>
          exact .inr ⟨c', mem_set_self hc, refreshed, hresumed.nowMs ▸ fetchedAt⟩
    · intro d hd operation hphase
      rcases List.mem_or_eq_of_mem_set hd with hd | rfl
      · exact hp.fetching d hd operation hphase
      · exact absurd hphase (hresumed.not_fetching operation)
    · intro d hd jti hphase
      rcases List.mem_or_eq_of_mem_set hd with hd | rfl
      · exact (hp.reading d hd jti hphase).mono hle
      · exact hresumed.settled.reading jti hphase
    · intro d hd restsOn hanswer
      rcases List.mem_or_eq_of_mem_set hd with hd | rfl
      · obtain ⟨hrests, hage⟩ := hp.answered d hd restsOn hanswer
        exact ⟨le_trans_option hrests hle, hage⟩
      · exact hresumed.settled.answered_le hanswer
  · refine ⟨hle, ?_⟩
    intro j d hd restsOn hanswer
    rcases getElem?_or_eq_of_set hd with hd | rfl
    · exact .inl hd
    · right
      rw [(hresumed.settled.answered restsOn hanswer).1]
      exact hle

theorem inv_step {e : Event} (hp : Inv options cache₀ p)
    (hok : completesInOrder toLowerCase p e = true)
    (h : (program toLowerCase options).step p e = some q) :
    Inv options cache₀ q ∧ Advances p q := by
  obtain ⟨request, cache, c, rfl, hstart, rfl⟩ | ⟨i, choice, c, cache, c', rfl, hc, hresume, rfl⟩ :=
    Program.step_cases h
  · have hstarted : Started options p.shared (startCall options p.shared request).1
        (startCall options p.shared request).2 := startCall_started request hp.empty
    rw [Option.some.inj hstart] at hstarted
    exact inv_start hp hstarted
  · exact inv_resume hp hc hok
      (resumeCall_resumed (hp.reading c (List.mem_of_getElem? hc)) hresume)

theorem inv_initial {initialClaims : Option Value} {initialFetchedAtMs : Option ℕ} {nowMs : ℕ}
    (h : createCrlCache toLowerCase initialClaims initialFetchedAtMs nowMs = some cache₀) :
    Inv options cache₀ ⟨cache₀, []⟩ := by
  refine ⟨?_, .inl rfl, le_refl_option _, nofun, nofun, nofun⟩
  intro hnone
  unfold createCrlCache at h
  split at h
  · obtain rfl := Option.some.inj (Option.ite_none_left_eq_some.mp h).2
    rfl
  · obtain ⟨claims, -, rfl⟩ := Option.map_eq_some_iff.mp h
    cases hnone

/-- What a run adds, whose fetches complete in order. -/
theorem inv_exec {es : List Event} (hp : Inv options cache₀ p)
    (hok : AllSteps (program toLowerCase options).step (completesInOrder toLowerCase · ·) p es)
    (hrun : exec (program toLowerCase options).step p es = some q) :
    Inv options cache₀ q ∧ Advances p q := by
  refine exec_invariant (fun s => Inv options cache₀ s ∧ Advances p s) ?_ ⟨hp, Advances.refl p⟩
    hok hrun
  intro s e t hs he h
  obtain ⟨hinv, hadvances⟩ := inv_step hs.1 he h
  exact ⟨hinv, hs.2.trans hadvances⟩

/-- **The cache of the revocation list never goes back in time, where its fetches complete in
order.** In every run in which no fetch sets the claims after one that started later, the start
of the fetch whose claims are cached never decreases, no answer rests on an older fetch than an
answer given before it, and a cache that refuses to answer while it is stale only answers from a
fetch that started within the maximal age of the call. -/
theorem crl_cache_never_goes_back {initialClaims : Option Value} {initialFetchedAtMs : Option ℕ}
    {nowMs : ℕ} {es es' : List Event}
    (hcreate : createCrlCache toLowerCase initialClaims initialFetchedAtMs nowMs = some cache₀)
    (hok : AllSteps (program toLowerCase options).step (completesInOrder toLowerCase · ·)
      ⟨cache₀, []⟩ (es ++ es'))
    (hrun : exec (program toLowerCase options).step ⟨cache₀, []⟩ es = some p)
    (hrun' : exec (program toLowerCase options).step p es' = some q) :
    NeverGoesBack options p q := by
  obtain ⟨hbefore, hafter⟩ := allSteps_append.mp hok
  obtain ⟨hp, -⟩ := inv_exec (inv_initial hcreate) hbefore hrun
  obtain ⟨hq, hadvances⟩ := inv_exec hp (hafter p hrun) hrun'
  refine ⟨hadvances.fetchedAt, ?_, ?_⟩
  · intro c hc restsOn hanswer j d hd hnew restsOn' hanswer'
    rcases hadvances.answers j d hd restsOn' hanswer' with hold | hle
    · exact absurd hold hnew
    · exact le_trans_option (hp.answered c hc restsOn hanswer).1 hle
  · intro hclosed c hc restsOn hanswer
    exact (hq.answered c hc restsOn hanswer).2 hclosed

end

/-! ## Two lists -/

def exampleJti : JsString := js "01HF7YAT00W6W7CM7N3W5FDXT5"

/-- A list of tokens of one agent. -/
def exampleList (iat : ℕ) (jtis : List JsString) : Value :=
  CrlClaims.toJson
    { iss := js "https://registry.example.com", jti := js "01HF7YAT00W6W7CM7N3W5FDXR1"
      iat := iat, exp := iat + 390
      revocations := jtis.map fun jti =>
        { jti, agentDid := js "did:cdi:registry.example.com:agent:01HF7YAT00W6W7CM7N3W5FDXT4"
          reason := none, revokedAt := iat } }

def olderList : Value := exampleList 1700000000 [js "01HF7YAT00W6W7CM7N3W5FDXT3"]

/-- The list after the token has been revoked. -/
def newerList : Value :=
  exampleList 1700001000 [exampleJti, js "01HF7YAT00W6W7CM7N3W5FDXT3"]

/-- A cache that refuses to answer while it is stale, before its first call. -/
def exampleState : State := ⟨⟨none, none, none⟩, []⟩

def exampleStep : State → Event → Option State := (program id (defaultOptions .failClosed)).step

/-- Two requests find the cache empty, the second one more than the maximal age after the
first. -/
def exampleStart : List Event :=
  [.start ⟨.isRevoked exampleJti, 1700000000000⟩, .start ⟨.isRevoked exampleJti, 1700001000000⟩]

/-- The fetches complete in order. -/
def orderedRun : List Event := exampleStart ++ [.resume 0 (.fetched olderList), .resume 0 .next]

def orderedRest : List Event := [.resume 1 (.fetched newerList), .resume 1 .next]

theorem orderedRun_result :
    ((exec exampleStep exampleState orderedRun).bind fun p =>
      (exec exampleStep p orderedRest).map fun q =>
        (p.fetchedAt, q.calls.map Call.phase)) =
      some (some 1700000000000,
        [.answered (.revoked false) (some 1700000000000),
          .answered (.revoked true) (some 1700001000000)]) := by decide

theorem orderedRun_never_goes_back : ∃ p q : State,
    exec exampleStep exampleState orderedRun = some p ∧
    exec exampleStep p orderedRest = some q ∧ p.fetchedAt = some 1700000000000 ∧
    NeverGoesBack (defaultOptions .failClosed) p q := by
  obtain ⟨p, hrun, hrest⟩ := Option.bind_eq_some_iff.mp orderedRun_result
  obtain ⟨q, hrun', hresult⟩ := Option.map_eq_some_iff.mp hrest
  have hcreate : createCrlCache id none none 1700000000000 = some exampleState.shared := by decide
  have hok : AllSteps exampleStep (completesInOrder id · ·) exampleState
      (orderedRun ++ orderedRest) := by decide
  exact ⟨p, q, hrun, hrun', (Prod.mk.inj hresult).1,
    crl_cache_never_goes_back hcreate hok hrun hrun'⟩

/-- The second fetch completes first. -/
def overtakenRun : List Event := exampleStart ++ [.resume 1 (.fetched newerList), .resume 1 .next]

/-- The fetch of the first request completes before a third request reads the claims. -/
def overtakenRest : List Event :=
  [.start ⟨.isRevoked exampleJti, 1700001000001⟩, .resume 0 (.fetched olderList), .resume 2 .next]

/-- The token that was reported as revoked is answered from the older list, which is too old. -/
theorem overtakenRun_result :
    ((exec exampleStep exampleState overtakenRun).bind fun p =>
      (exec exampleStep p overtakenRest).map fun q =>
        (p.fetchedAt, q.fetchedAt, q.calls.map Call.phase)) =
      some (some 1700001000000, some 1700000000000,
        [.reading exampleJti, .answered (.revoked true) (some 1700001000000),
          .answered (.revoked false) (some 1700000000000)]) := by decide

/-- A slow fetch takes the cache back in time. -/
theorem not_crl_cache_never_goes_back :
    ¬∀ (toLowerCase : JsString → JsString) (options : Options) (cache₀ : Cache)
      (initialClaims : Option Value) (initialFetchedAtMs : Option ℕ) (nowMs : ℕ)
      (es es' : List Event) (p q : State),
      createCrlCache toLowerCase initialClaims initialFetchedAtMs nowMs = some cache₀ →
      ((es ++ es').filterMap clockOf).Pairwise (· ≤ ·) →
      exec (program toLowerCase options).step ⟨cache₀, []⟩ es = some p →
      exec (program toLowerCase options).step p es' = some q →
      NeverGoesBack options p q := by
  intro h
  obtain ⟨p, hrun, hrest⟩ := Option.bind_eq_some_iff.mp overtakenRun_result
  obtain ⟨q, hrun', hresult⟩ := Option.map_eq_some_iff.mp hrest
  obtain ⟨hp, hresult⟩ := Prod.mk.inj hresult
  have hclock : ((overtakenRun ++ overtakenRest).filterMap clockOf).Pairwise (· ≤ ·) := by decide
  have hback := h id (defaultOptions .failClosed) exampleState.shared none none 1700000000000
    overtakenRun overtakenRest p q (by decide) hclock hrun hrun'
  have hle := hback.fetchedAt
  rw [hp, (Prod.mk.inj hresult).1, Option.some_le_some] at hle
  omega

end Clawdentity.CrlOverlap
