import Clawdentity.Connector.ClientDrivers
import Mathlib.Tactic.NormNum

/-!
# The pace of the connector client's reconnects

A reconnect after a delay counts as an attempt, and the delays grow with the attempts up to a
maximum. Attempts are counted since a socket was last open. After a rejection with 401 the client
tries again at once, but not a second time before a socket has opened.

## Main definitions

* `Paced` — the delays since a socket was open, against the attempts.
* `Paces` — what a piece of code does to them, and to the retries at once.
* `reconnects_run` — the delays of a run, and the retries at once.
-/

namespace Clawdentity.Connector.ClientSession

open Js Lib Lib.Interleave Lib.Run

variable {cfg : Config} {s s' t : Session} {c c' : Call} {choice : Choice} {socket : ℕ}
  {p : Pool Session Call}

/-- The delays of the reconnects that count as attempts. -/
def backoffs (scheduled : List Scheduled) : List ℤ :=
  scheduled.filterMap fun
    | .backoff delayMs => some delayMs
    | .immediate => none

/-- The delays since a socket was open, against the attempts. -/
structure Paced (cfg : Config) (s : Session) : Prop where
  attempt_eq : s.reconnectScheduler.attempt = (backoffs s.scheduled).length
  bounded : ∀ attempt delayMs, (backoffs s.scheduled)[attempt]? = some delayMs →
    ⌊cfg.boundedDelay attempt * (1 - cfg.reconnectJitterRatio)⌋ ≤ delayMs ∧
      delayMs ≤ ⌊cfg.boundedDelay attempt * (1 + cfg.reconnectJitterRatio)⌋

/-- The retries at once since a socket was open. -/
def Session.immediates (s : Session) : ℕ := s.scheduled.count .immediate

/-- A call that is to schedule a retry at once. -/
def Call.immediate : Call → ℕ
  | .rejecting _ _ true => 1
  | .rejecting _ _ false | .loadingQueue | .resolvingHeaders | .finished => 0

/-- What a piece of code does to the pace: a retry at once uses the flag up, and only a current
socket that opens gives it back. -/
structure Paces (cfg : Config) (s : Session) (c : Call) (s' : Session) (c' : Call) : Prop where
  paced : Paced cfg s → Paced cfg s'
  immediates :
    s'.immediates + c'.immediate + s.authUpgradeImmediateRetryUsed.toNat ≤
        s.immediates + c.immediate + s'.authUpgradeImmediateRetryUsed.toNat ∨
      (s.socket.isSome = true ∧ c.weight = 0 ∧ s'.immediates = 0 ∧ c'.immediate = 0)

/-- What the pace depends on. -/
structure SamePace (s s' : Session) : Prop where
  attempt_eq : s'.reconnectScheduler.attempt = s.reconnectScheduler.attempt
  scheduled_eq : s'.scheduled = s.scheduled
  used_eq : s'.authUpgradeImmediateRetryUsed = s.authUpgradeImmediateRetryUsed

theorem SamePace.trans (h : SamePace s t) (h' : SamePace t s') : SamePace s s' :=
  ⟨h'.attempt_eq.trans h.attempt_eq, h'.scheduled_eq.trans h.scheduled_eq,
    h'.used_eq.trans h.used_eq⟩

theorem SamePace.paced (h : SamePace s s') (hs : Paced cfg s) : Paced cfg s' where
  attempt_eq := by
    rw [h.attempt_eq, h.scheduled_eq]
    exact hs.attempt_eq
  bounded := by
    rw [h.scheduled_eq]
    exact hs.bounded

theorem SamePace.immediates (h : SamePace s s') : s'.immediates = s.immediates := by
  rw [Session.immediates, h.scheduled_eq, Session.immediates]

theorem SamePace.paces (h : SamePace s s') (himmediate : c'.immediate ≤ c.immediate) :
    Paces cfg s c s' c' := by
  refine ⟨h.paced, .inl ?_⟩
  rw [h.immediates, h.used_eq]
  omega

theorem backoffs_append_backoff (scheduled : List Scheduled) (delayMs : ℤ) :
    backoffs (scheduled ++ [.backoff delayMs]) = backoffs scheduled ++ [delayMs] := by
  simp [backoffs]

theorem getElem?_append_singleton {α : Type} {l : List α} {a b : α} {k : ℕ}
    (h : (l ++ [a])[k]? = some b) : l[k]? = some b ∨ (k = l.length ∧ b = a) := by
  by_cases hlt : k < l.length
  · rw [List.getElem?_append_left hlt] at h
    exact .inl h
  · rw [List.getElem?_append_right (Nat.le_of_not_lt hlt), List.getElem?_singleton] at h
    split at h
    · cases h
      exact .inr ⟨by omega, rfl⟩
    · cases h

/-- A piece of code that ends with a reconnect after a delay. -/
theorem paces_scheduleReconnect (hsensible : cfg.Sensible) {random : ℚ} (hzero : 0 ≤ random)
    (hone : random ≤ 1) (hsame : SamePace s t) :
    Paces cfg s c (t.scheduleReconnect cfg ⟨none, none⟩ random) .finished := by
  rcases scheduleReconnect_cases cfg t ⟨none, none⟩ random with ⟨_, heq⟩ | ⟨_, heq⟩
  · rw [heq]
    exact hsame.paces (Nat.zero_le _)
  · rw [heq]
    have hdelay := computeJitteredBackoffDelayMs_spec hsensible t.reconnectScheduler.attempt
      hzero hone
    constructor
    · intro hs
      have ht := hsame.paced hs
      constructor
      · simp [ConnectorReconnectScheduler.schedule, Session.scheduledAs, backoffs, ht.attempt_eq]
      · intro attempt delayMs hget
        rw [ht.attempt_eq] at hdelay
        change (backoffs (t.scheduled ++ [.backoff (computeJitteredBackoffDelayMs cfg
          t.reconnectScheduler.attempt random)]))[attempt]? = some delayMs at hget
        rw [backoffs_append_backoff, ht.attempt_eq] at hget
        rcases getElem?_append_singleton hget with hold | ⟨rfl, rfl⟩
        · exact ht.bounded attempt delayMs hold
        · exact hdelay
    · refine .inl ?_
      have hcount : Session.immediates { t with
          reconnectScheduler := t.reconnectScheduler.schedule cfg t.now ⟨none, none⟩ random
          metricsTracker := { t.metricsTracker with
            reconnectCount := t.metricsTracker.reconnectCount + 1 }
          scheduled := t.scheduled ++ [Session.scheduledAs
            (t.reconnectScheduler.delayMs cfg ⟨none, none⟩ random) ⟨none, none⟩] } =
          s.immediates := by
        rw [← hsame.immediates]
        simp [Session.immediates, Session.scheduledAs]
      rw [hcount, ← hsame.used_eq]
      change s.immediates + 0 + t.authUpgradeImmediateRetryUsed.toNat ≤
        s.immediates + c.immediate + t.authUpgradeImmediateRetryUsed.toNat
      omega

theorem samePace_detachSocket (h : s.detachSocket socket = some t) : SamePace s t := by
  obtain ⟨_, rfl⟩ := detachSocket_eq_some.mp h
  exact ⟨rfl, rfl, rfl⟩

theorem samePace_closeSocketQuietly (s : Session) (socket code : ℕ) (reason : JsString) :
    SamePace s (s.closeSocketQuietly socket code reason) := ⟨rfl, rfl, rfl⟩

section
variable (hsensible : cfg.Sensible) (hzero : 0 ≤ choice.random) (hone : choice.random ≤ 1)
include hsensible hzero hone

/-- The socket is lost, and a reconnect is scheduled. -/
theorem paces_lose (hsame : SamePace s t) (code : ℕ) (reason : JsString) :
    Paces cfg s c (t.closeAndReconnect cfg socket code reason ⟨none, none⟩ choice) .finished :=
  paces_scheduleReconnect hsensible hzero hone
    (hsame.trans (samePace_closeSocketQuietly t socket code reason))

theorem paces_createSocket (hsame : SamePace s t) :
    Paces cfg s c (t.createSocket cfg choice) .finished := by
  rw [Session.createSocket]
  split
  · split
    · have hcreated : ∀ connectTimeout, SamePace t { t with
          socket := some t.sockets.length
          sockets := t.sockets ++ [⟨WS_READY_STATE_CONNECTING, t.now⟩]
          replaced := t.replaced ++ t.socket.toList
          connectTimeout } :=
        fun _ => ⟨rfl, rfl, rfl⟩
      simp only [Session.startConnectTimeout]
      split <;> exact (hsame.trans (hcreated _)).paces (Nat.zero_le _)
    · exact paces_scheduleReconnect hsensible hzero hone hsame
  · exact hsame.paces (Nat.zero_le _)

theorem paces_resolveHeaders (hsame : SamePace s t) :
    Paces cfg s c (t.resolveHeaders cfg choice).1 (t.resolveHeaders cfg choice).2 := by
  rw [Session.resolveHeaders]
  split
  · exact hsame.paces (Nat.zero_le _)
  · exact paces_createSocket hsensible hzero hone hsame

theorem paces_connectSocket (hsame : SamePace s t) :
    Paces cfg s c (t.connectSocket cfg choice).1 (t.connectSocket cfg choice).2 := by
  have hcleared : SamePace t { t with
      reconnectScheduler := t.reconnectScheduler.clear
      metricsTracker :=
        { t.metricsTracker with connectAttempts := t.metricsTracker.connectAttempts + 1 } } :=
    ⟨rfl, rfl, rfl⟩
  rw [Session.connectSocket]
  split
  · exact (hsame.trans hcleared).paces (Nat.zero_le _)
  · exact paces_resolveHeaders hsensible hzero hone (hsame.trans hcleared)

theorem paces_onConnectTimeout :
    Paces cfg s .finished (s.onConnectTimeout cfg socket choice) .finished := by
  rw [Session.onConnectTimeout]
  split
  · exact SamePace.paces ⟨rfl, rfl, rfl⟩ (Nat.zero_le _)
  · rename_i hdetach
    exact paces_lose hsensible hzero hone (samePace_detachSocket hdetach) ..

theorem paces_onClose (hsame : SamePace s t) :
    Paces cfg s .finished (t.onClose cfg socket choice) .finished := by
  rw [Session.onClose]
  split
  · exact hsame.paces (Nat.zero_le _)
  · rename_i hdetach
    exact paces_scheduleReconnect hsensible hzero hone
      (hsame.trans (samePace_detachSocket hdetach))

theorem paces_onError : Paces cfg s .finished (s.onError cfg socket choice) .finished := by
  simp only [Session.onError]
  split
  · exact SamePace.paces ⟨rfl, rfl, rfl⟩ (Nat.zero_le _)
  · split
    · exact SamePace.paces ⟨rfl, rfl, rfl⟩ (Nat.zero_le _)
    · rename_i hdetach
      exact paces_lose hsensible hzero hone (samePace_detachSocket hdetach) ..

theorem paces_handleHeartbeatAckTimeout :
    Paces cfg s .finished (s.handleHeartbeatAckTimeout cfg choice) .finished := by
  have hsame : ∀ heartbeatManager, SamePace s { s with heartbeatManager } :=
    fun _ => ⟨rfl, rfl, rfl⟩
  rw [Session.handleHeartbeatAckTimeout]
  split
  · exact (hsame _).paces (Nat.zero_le _)
  · simp only
    split
    · exact (hsame _).paces (Nat.zero_le _)
    · split
      · exact (hsame _).paces (Nat.zero_le _)
      · rename_i hdetach
        exact paces_lose hsensible hzero hone ((hsame _).trans (samePace_detachSocket hdetach)) ..

/-- **A rejected upgrade.** The first 401 since a socket was open is retried at once. -/
theorem paces_handleUnexpectedResponse (statusCode : Option ℕ) :
    Paces cfg s .finished (s.handleUnexpectedResponse cfg socket statusCode choice).1
      (s.handleUnexpectedResponse cfg socket statusCode choice).2 := by
  rw [Session.handleUnexpectedResponse]
  split
  · exact SamePace.paces ⟨rfl, rfl, rfl⟩ (Nat.zero_le _)
  · rename_i lost hdetach
    have hsame := samePace_detachSocket hdetach
    split
    · constructor
      · intro hs
        have hlost := hsame.paced hs
        exact ⟨hlost.attempt_eq, hlost.bounded⟩
      · refine .inl ?_
        have hcount : Session.immediates { lost with authUpgradeImmediateRetryUsed := true } =
            s.immediates := hsame.immediates
        rw [hcount, ← hsame.used_eq]
        cases lost.authUpgradeImmediateRetryUsed <;> simp [Call.immediate]
    · exact paces_lose hsensible hzero hone hsame ..

/-- The hook has run, and the retry that it waited for is scheduled. -/
theorem paces_finishRejection (statusCode : Option ℕ) (status : ℕ) (immediateRetry : Bool) :
    Paces cfg s (.rejecting socket status immediateRetry)
      (s.finishRejection cfg socket statusCode immediateRetry choice) .finished := by
  cases immediateRetry with
  | false => exact paces_lose hsensible hzero hone ⟨rfl, rfl, rfl⟩ ..
  | true =>
      have hsame := samePace_closeSocketQuietly s socket 1000 (Session.rejectionReason statusCode)
      simp only [Session.finishRejection, if_true, Session.closeAndReconnect]
      rcases scheduleReconnect_cases cfg
        (s.closeSocketQuietly socket 1000 (Session.rejectionReason statusCode))
        ⟨some 0, some false⟩ choice.random with ⟨_, heq⟩ | ⟨_, heq⟩
      · rw [heq]
        exact hsame.paces (Nat.zero_le _)
      · rw [heq]
        constructor
        · intro hs
          constructor
          · simpa [ConnectorReconnectScheduler.schedule, Session.scheduledAs, backoffs,
              Session.closeSocketQuietly] using hs.attempt_eq
          · simpa [Session.scheduledAs, backoffs, Session.closeSocketQuietly] using hs.bounded
        · refine .inl ?_
          simp [Session.immediates, Session.scheduledAs, Session.closeSocketQuietly,
            Call.immediate]

end

/-- **The current socket opens**, and the pace starts again. -/
theorem paces_onOpen (hsame : SamePace s t) (hsocket : t.socket = s.socket) :
    Paces cfg s .finished (t.onOpen cfg socket) .finished := by
  rw [Session.onOpen]
  split
  · rename_i hcurrent
    constructor
    · intro _
      exact ⟨rfl, fun attempt delayMs hget => by simp [backoffs] at hget⟩
    · refine .inr ⟨?_, rfl, rfl, rfl⟩
      rw [← hsocket, hcurrent]
      rfl
  · exact hsame.paces (Nat.zero_le _)

theorem start_paces {input : Input} (hsensible : cfg.Sensible) (hzero : 0 ≤ input.choice.random)
    (hone : input.choice.random ≤ 1) (h : start cfg s input = some (s', c')) :
    Paces cfg s .finished s' c' := by
  obtain ⟨event, choice⟩ := input
  have hsame : ∀ t, SamePace s t → Paces cfg s .finished t .finished :=
    fun t ht => ht.paces (Nat.zero_le _)
  cases event with
  | connect =>
      simp only [start] at h
      split at h
      · cases h
        exact hsame _ ⟨rfl, rfl, rfl⟩
      · have hpaces := paces_connectSocket (s := s) (c := .finished)
          (t := { s with started := true, starts := s.starts + 1 }) hsensible hzero hone
          ⟨rfl, rfl, rfl⟩
        rwa [Option.some.inj h] at hpaces
  | disconnect =>
      cases h
      rw [disconnect_eq]
      exact hsame _ ⟨rfl, rfl, rfl⟩
  | advance now =>
      simp only [start] at h
      split at h
      · cases h
        exact hsame _ ⟨rfl, rfl, rfl⟩
      · cases h
  | readyStateChanges socket readyState =>
      simp only [start] at h
      split at h
      · cases h
        exact hsame _ ⟨rfl, rfl, rfl⟩
      · cases h
  | opens socket =>
      simp only [start] at h
      split at h
      · cases h
        exact paces_onOpen ⟨rfl, rfl, rfl⟩ rfl
      · cases h
  | heartbeatAckFrame socket ackId =>
      simp only [start] at h
      split at h
      · cases h
        rw [Session.onHeartbeatAck]
        split
        · exact hsame _ ⟨rfl, rfl, rfl⟩
        · exact hsame _ ⟨rfl, rfl, rfl⟩
      · cases h
  | closes socket =>
      simp only [start] at h
      split at h
      · cases h
        exact paces_onClose hsensible hzero hone ⟨rfl, rfl, rfl⟩
      · cases h
  | errs socket =>
      simp only [start] at h
      split at h
      · cases h
        exact paces_onError hsensible hzero hone
      · cases h
  | unexpectedResponse socket statusCode =>
      simp only [start] at h
      split at h
      · have hpaces := @paces_handleUnexpectedResponse cfg s choice socket hsensible hzero hone
          statusCode
        rwa [Option.some.inj h] at hpaces
      · cases h
  | connectTimeoutFires =>
      simp only [start] at h
      split at h
      · split at h
        · cases h
          exact paces_onConnectTimeout hsensible hzero hone
        · cases h
      · cases h
  | heartbeatIntervalFires id isSent =>
      simp only [start] at h
      split at h
      · cases h
        rw [Session.onHeartbeatInterval]
        split
        · exact hsame _ ⟨rfl, rfl, rfl⟩
        · split <;> exact hsame _ ⟨rfl, rfl, rfl⟩
      · cases h
  | heartbeatAckTimeoutFires =>
      simp only [start] at h
      split at h
      · split at h
        · cases h
          exact paces_handleHeartbeatAckTimeout hsensible hzero hone
        · cases h
      · cases h
  | reconnectFires =>
      simp only [start] at h
      split at h
      · split at h
        · have hpaces := paces_connectSocket (s := s) (c := .finished) (t := s) hsensible hzero
            hone ⟨rfl, rfl, rfl⟩
          rwa [Option.some.inj h] at hpaces
        · cases h
      · cases h

theorem resume_paces (hsensible : cfg.Sensible) (hzero : 0 ≤ choice.random)
    (hone : choice.random ≤ 1) (h : resume cfg s c choice = some (s', c')) :
    Paces cfg s c s' c' := by
  cases c with
  | loadingQueue =>
      have hpaces := paces_resolveHeaders (s := s) (c := .loadingQueue) (t := s) hsensible hzero
        hone ⟨rfl, rfl, rfl⟩
      rwa [Option.some.inj h] at hpaces
  | resolvingHeaders =>
      cases h
      rw [Session.finishHeaders]
      split
      · exact paces_createSocket hsensible hzero hone ⟨rfl, rfl, rfl⟩
      · exact paces_scheduleReconnect hsensible hzero hone ⟨rfl, rfl, rfl⟩
  | rejecting socket status immediateRetry =>
      cases h
      exact paces_finishRejection hsensible hzero hone (some status) status immediateRetry
  | finished => cases h

/-! ### Runs -/

/-- The retries at once, those that suspended calls are to schedule included. -/
def retries (p : Pool Session Call) : ℕ := p.budget Session.immediates Call.immediate

/-- `random()` is between zero and one. -/
def FairMove : Move Input Choice → Prop
  | .start input => 0 ≤ input.choice.random ∧ input.choice.random ≤ 1
  | .resume _ choice => 0 ≤ choice.random ∧ choice.random ≤ 1

/-- The pace of a client that was started once. -/
structure RunPace (cfg : Config) (p : Pool Session Call) : Prop where
  inv : Inv p
  paced : Paced cfg p.shared
  retries_le : p.shared.starts ≤ 1 → retries p ≤ p.shared.authUpgradeImmediateRetryUsed.toNat

/-- While there is a current socket, a client that was started once has no suspended call that is
to schedule anything. -/
theorem Inv.no_immediate (hp : Inv p) (hstarts : p.shared.starts ≤ 1)
    (hsocket : p.shared.socket.isSome = true) : ∀ call ∈ p.calls, call.immediate = 0 := by
  intro call hcall
  have hle := hp.passing.le_made
  have hheld : 1 ≤ p.shared.held := by
    simp [Session.held, hsocket]
  have hmem : call.weight ∈ p.calls.map Call.weight := List.mem_map_of_mem hcall
  have hsum := List.single_le_sum (fun _ _ => Nat.zero_le _) _ hmem
  have hweight : call.weight = 0 := by
    simp only [Pool.budget] at hle
    omega
  cases call with
  | rejecting => cases hweight
  | loadingQueue | resolvingHeaders | finished => rfl

theorem sum_immediate {calls : List Call} (h : ∀ call ∈ calls, call.immediate = 0) :
    (calls.map Call.immediate).sum = 0 := by
  apply List.sum_eq_zero
  intro n hn
  obtain ⟨call, hcall, rfl⟩ := List.mem_map.mp hn
  exact h call hcall

theorem RunPace.start (hp : RunPace cfg p) {q : Pool Session Call} (hq : Inv q)
    (hcalls : q = ⟨s', p.calls ++ [c']⟩) (hstarts : p.shared.starts ≤ q.shared.starts)
    (h : Paces cfg p.shared .finished s' c') : RunPace cfg q := by
  subst hcalls
  refine ⟨hq, h.paced hp.paced, ?_⟩
  intro hone
  have hbefore := hp.retries_le (hstarts.trans hone)
  have hbudget := budget_start Session.immediates Call.immediate p s' c'
  rcases h.immediates with hle | ⟨hsocket, _, hzero, hcall⟩
  · have hfinished : Call.finished.immediate = 0 := rfl
    simp only [retries, hfinished] at hbefore hle ⊢
    omega
  · have hnone := sum_immediate (hp.inv.no_immediate (hstarts.trans hone) hsocket)
    simp [retries, Pool.budget, hzero, hcall, hnone]

theorem RunPace.resume (hp : RunPace cfg p) {q : Pool Session Call} (hq : Inv q) {i : ℕ}
    (hc : p.calls[i]? = some c) (hcalls : q = ⟨s', p.calls.set i c'⟩)
    (hstarts : p.shared.starts ≤ q.shared.starts) (hweight : c.weight = 1)
    (h : Paces cfg p.shared c s' c') : RunPace cfg q := by
  subst hcalls
  refine ⟨hq, h.paced hp.paced, ?_⟩
  intro hone
  have hbefore := hp.retries_le (hstarts.trans hone)
  have hbudget := budget_resume Session.immediates Call.immediate hc s' c'
  rcases h.immediates with hle | ⟨_, hfinished, _⟩
  · simp only [retries] at hbefore ⊢
    omega
  · rw [hweight] at hfinished
    cases hfinished

theorem starts_le_start {input : Input} (hwired : Wired s) (h : start cfg s input = some (s', c')) :
    s.starts ≤ s'.starts := by
  obtain ⟨_, hcarries | ⟨_, hcarries⟩ | ⟨rfl, _⟩⟩ := start_carries hwired h
  · exact hcarries.starts_eq.symm.le
  · rw [hcarries.starts_eq]
    exact Nat.le_succ _
  · rw [disconnect_eq]
    rfl

theorem runPace_step (hsensible : cfg.Sensible) {p q : Pool Session Call} {e : Move Input Choice}
    (hp : RunPace cfg p) (hfair : FairMove e) (h : (client cfg).step p e = some q) :
    RunPace cfg q := by
  have hq := inv_step hp.inv h
  rcases Program.step_cases h with
    ⟨input, s, c, rfl, hstart, rfl⟩ | ⟨i, choice, c, s, c', rfl, hc, hresume, rfl⟩
  · exact hp.start hq rfl (starts_le_start hp.inv.wired hstart)
      (start_paces hsensible hfair.1 hfair.2 hstart)
  · have hcarries := (resume_carries hp.inv.wired hresume).2
    have hweight : c.weight = 1 := by
      cases c with
      | finished => cases hresume
      | loadingQueue | resolvingHeaders | rejecting => rfl
    exact hp.resume hq hc rfl hcarries.starts_eq.symm.le hweight
      (resume_paces hsensible hfair.1 hfair.2 hresume)

/-- Two sockets are rejected with 401, and only the first one is retried at once. -/
def rejectedRun : List (Move Input Choice) :=
  [.start ⟨.connect, exampleChoice⟩, .resume 0 exampleChoice, .resume 0 exampleChoice,
    .start ⟨.unexpectedResponse 0 (some 401), exampleChoice⟩, .resume 1 exampleChoice,
    .start ⟨.reconnectFires, exampleChoice⟩, .resume 2 exampleChoice, .resume 2 exampleChoice,
    .start ⟨.unexpectedResponse 1 (some 401), exampleChoice⟩, .resume 3 exampleChoice]

theorem rejectedRun_result :
    (exec (client exampleConfig).step (fresh 0) rejectedRun).map
      (fun p => (p.shared.starts, p.shared.scheduled.length, p.shared.immediates)) =
        some (1, 2, 1) := by
  decide

/-- **The reconnects of a run.** Since a socket was last open, the delays of the reconnects grow
from the shortest to the longest, within the jitter; and a client that was started once has retried
at most once at once. -/
theorem reconnects_run (hsensible : cfg.Sensible) {es : List (Move Input Choice)} {now : ℤ}
    (hfair : ∀ e ∈ es, FairMove e) (hrun : exec (client cfg).step (fresh now) es = some p) :
    (∀ attempt delayMs, (backoffs p.shared.scheduled)[attempt]? = some delayMs →
      ⌊cfg.boundedDelay attempt * (1 - cfg.reconnectJitterRatio)⌋ ≤ delayMs ∧
        delayMs ≤ ⌊cfg.boundedDelay attempt * (1 + cfg.reconnectJitterRatio)⌋) ∧
    (p.shared.starts ≤ 1 → p.shared.immediates ≤ 1) := by
  have hfresh : RunPace cfg (fresh now) :=
    ⟨inv_fresh now, ⟨rfl, fun _ _ hget => by cases hget⟩, fun _ => Nat.zero_le _⟩
  have hp : RunPace cfg p := exec_invariant (RunPace cfg)
    (fun _ _ _ hp hok h => runPace_step hsensible hp hok h) hfresh
    (allSteps_of_forall (fun e he _ => hfair e he) _) hrun
  refine ⟨hp.paced.bounded, ?_⟩
  intro hone
  have hretries := hp.retries_le hone
  have hflag := Bool.toNat_le p.shared.authUpgradeImmediateRetryUsed
  simp only [retries, Pool.budget] at hretries
  omega

theorem exampleConfig_sensible : exampleConfig.Sensible := by
  constructor <;> norm_num [exampleConfig]

theorem exampleRun_reconnects : ∃ p,
    exec (client exampleConfig).step (fresh 0) rejectedRun = some p ∧
    p.shared.starts = 1 ∧ p.shared.immediates ≤ 1 := by
  obtain ⟨p, hrun, hresult⟩ := Option.map_eq_some_iff.mp rejectedRun_result
  have hfair : ∀ e ∈ rejectedRun, FairMove e := by
    simp [rejectedRun, FairMove, exampleChoice]
  have hstarts : p.shared.starts = 1 := (Prod.mk.inj hresult).1
  exact ⟨p, hrun, hstarts, (reconnects_run exampleConfig_sensible hfair hrun).2 hstarts.le⟩

end Clawdentity.Connector.ClientSession
