import Clawdentity.Connector.ClientSession
import Clawdentity.Lib.Baton

/-!
# What keeps the connector client connected

Whatever is to bring a connection about is a driver: the current socket, the timer for a reconnect,
or a suspended call of `connectSocket` or `handleUnexpectedResponse`. A started client always has
one. `connect` makes a driver; a `disconnect` and a `connect` while `connectSocket` awaits something
give the client two of them, and the second one replaces the socket of the first.

## Main definitions

* `drivers` — the number of drivers.
* `Carries` — what a piece of code does with the drivers and the sockets that it has in hand.
* `Wired` — which timers may be set.
* `drivers_run`, `drivers_alone` — what holds of the drivers in every run.
* `sockets_run` — no socket is lost sight of, but those that were replaced.
-/

namespace Clawdentity.Connector.ClientSession

open Js Lib Lib.Interleave Lib.Run

variable {cfg : Config} {s s' s'' t : Session} {c c' c'' : Call} {choice : Choice} {socket : ℕ}

/-! ## Drivers -/

/-- Suspended calls go on to a socket or a timer. -/
def Call.weight : Call → ℕ
  | .loadingQueue | .resolvingHeaders | .rejecting .. => 1
  | .finished => 0

@[simp] theorem weight_finished : Call.finished.weight = 0 := rfl

/-- The socket that a call is to close. -/
def Call.rejects : Call → Option ℕ
  | .rejecting socket .. => some socket
  | .loadingQueue | .resolvingHeaders | .finished => none

def Session.held (s : Session) : ℕ :=
  s.socket.isSome.toNat + s.reconnectScheduler.timeout.isSome.toNat

def drivers (p : Pool Session Call) : ℕ := p.budget Session.held Call.weight

/-- The client called `close` on the socket, or its `close` event came. -/
def Session.IsClosed (s : Session) (socket : ℕ) : Prop :=
  (∃ call ∈ s.closeCalls, call.socket = socket) ∨ socket ∈ s.reportedClosed

/-- The client or the call still has the socket, or is through with it. -/
def Accounts (s : Session) (c : Call) (socket : ℕ) : Prop :=
  s.socket = some socket ∨ c.rejects = some socket ∨ s.IsClosed socket ∨ socket ∈ s.replaced

/-- A piece of code, with the call as what it has in hand before and after. -/
structure Carries (s : Session) (c : Call) (s' : Session) (c' : Call) : Prop where
  started_eq : s'.started = s.started
  starts_eq : s'.starts = s.starts
  le : s'.held + c'.weight + s'.replaced.length ≤ s.held + c.weight + s.replaced.length
  replaced_le : s.replaced.length ≤ s'.replaced.length
  replaced_eq : s'.replaced = s.replaced ∨ s.started = true
  alive : s.started = true → 0 < s.held + c.weight → 0 < s'.held + c'.weight
  kept : ∀ socket, Accounts s c socket → Accounts s' c' socket
  made : ∀ socket < s'.sockets.length, s.sockets.length ≤ socket → Accounts s' c' socket

theorem Carries.trans (h : Carries s c s' c') (h' : Carries s' c' s'' c'') :
    Carries s c s'' c'' where
  started_eq := h'.started_eq.trans h.started_eq
  starts_eq := h'.starts_eq.trans h.starts_eq
  le := h'.le.trans h.le
  replaced_le := h.replaced_le.trans h'.replaced_le
  replaced_eq := by
    rcases h'.replaced_eq with heq | hon
    · rcases h.replaced_eq with heq' | hon
      · exact .inl (heq.trans heq')
      · exact .inr hon
    · exact .inr (h.started_eq ▸ hon)
  alive hon hpos := h'.alive (h.started_eq.trans hon) (h.alive hon hpos)
  kept socket hmem := h'.kept socket (h.kept socket hmem)
  made socket hlt hle := by
    by_cases hmade : socket < s'.sockets.length
    · exact h'.kept socket (h.made socket hmade hle)
    · exact h'.made socket hlt (Nat.le_of_not_lt hmade)

theorem Carries.handover (h : Carries s c s' c') :
    Handover Session.held (fun s => s.started = true) s c.weight s' c'.weight where
  le := by
    have hle := h.le
    have hreplaced := h.replaced_le
    omega
  alive hon := h.alive (h.started_eq ▸ hon)
  not_turned_on hon := h.started_eq ▸ hon

/-- A piece of code that leaves the connection as it is. -/
structure SameConnection (s s' : Session) : Prop where
  started_eq : s'.started = s.started
  starts_eq : s'.starts = s.starts
  socket_eq : s'.socket = s.socket
  length_eq : s'.sockets.length = s.sockets.length
  timeout_eq : s'.reconnectScheduler.timeout = s.reconnectScheduler.timeout
  closeCalls_subset : s.closeCalls ⊆ s'.closeCalls
  reportedClosed_subset : s.reportedClosed ⊆ s'.reportedClosed
  replaced_eq : s'.replaced = s.replaced

theorem SameConnection.rfl : SameConnection s s :=
  ⟨Eq.refl _, Eq.refl _, Eq.refl _, Eq.refl _, Eq.refl _, fun _ h => h, fun _ h => h, Eq.refl _⟩

theorem SameConnection.accounts (h : SameConnection s s') (c : Call) (socket : ℕ)
    (hmem : Accounts s c socket) : Accounts s' c socket := by
  rcases hmem with hcurrent | hrejects | (⟨call, hcall, heq⟩ | hreported) | hreplaced
  · exact .inl (h.socket_eq.trans hcurrent)
  · exact .inr (.inl hrejects)
  · exact .inr (.inr (.inl (.inl ⟨call, h.closeCalls_subset hcall, heq⟩)))
  · exact .inr (.inr (.inl (.inr (h.reportedClosed_subset hreported))))
  · exact .inr (.inr (.inr (h.replaced_eq ▸ hreplaced)))

theorem SameConnection.carries (h : SameConnection s s') (c : Call) : Carries s c s' c := by
  have hheld : s'.held = s.held := by
    rw [Session.held, Session.held, h.socket_eq, h.timeout_eq]
  exact {
    started_eq := h.started_eq
    starts_eq := h.starts_eq
    le := by rw [hheld, h.replaced_eq]
    replaced_le := by rw [h.replaced_eq]
    replaced_eq := .inl h.replaced_eq
    alive := fun _ hpos => by rwa [hheld]
    kept := h.accounts c
    made := fun socket hlt hle => by
      rw [h.length_eq] at hlt
      exact absurd hlt (Nat.not_lt.mpr hle) }

/-! ## The operations -/

theorem scheduleReconnect_cases (cfg : Config) (s : Session) (options : ScheduleOptions)
    (random : ℚ) :
    (s.started = false ∧ s.scheduleReconnect cfg options random = s) ∨
    (s.started = true ∧ s.scheduleReconnect cfg options random = { s with
      reconnectScheduler := s.reconnectScheduler.schedule cfg s.now options random
      metricsTracker := { s.metricsTracker with
        reconnectCount := s.metricsTracker.reconnectCount + 1 }
      scheduled := s.scheduled ++ [Session.scheduledAs
        (s.reconnectScheduler.delayMs cfg options random) options] }) := by
  rw [Session.scheduleReconnect]
  cases s.started with
  | false => exact .inl ⟨rfl, rfl⟩
  | true => exact .inr ⟨rfl, rfl⟩

/-- The baton goes into the timer. The socket in hand is closed by then. -/
theorem carries_scheduleReconnect (options : ScheduleOptions) (random : ℚ)
    (hweight : c.weight = 1) (hclosed : ∀ socket, c.rejects = some socket → s.IsClosed socket) :
    Carries s c (s.scheduleReconnect cfg options random) .finished := by
  have hkept : ∀ socket, Accounts s c socket → Accounts s .finished socket := by
    intro socket hmem
    rcases hmem with hcurrent | hrejects | hrest
    · exact .inl hcurrent
    · exact .inr (.inr (.inl (hclosed socket hrejects)))
    · exact .inr (.inr hrest)
  rcases scheduleReconnect_cases cfg s options random with ⟨hoff, heq⟩ | ⟨hon, heq⟩
  · rw [heq]
    exact {
      started_eq := rfl
      starts_eq := rfl
      le := by simp [Call.weight]
      replaced_le := Nat.le_refl _
      replaced_eq := .inl rfl
      alive := fun hon => by simp [hoff] at hon
      kept := hkept
      made := fun socket hlt hle => absurd hlt (Nat.not_lt.mpr hle) }
  · rw [heq]
    exact {
      started_eq := rfl
      starts_eq := rfl
      le := by
        simp only [Session.held, ConnectorReconnectScheduler.schedule, Option.isSome_some,
          Bool.toNat_true, weight_finished, hweight]
        omega
      replaced_le := Nat.le_refl _
      replaced_eq := .inl rfl
      alive := fun _ _ => by simp [Session.held, ConnectorReconnectScheduler.schedule]
      kept := hkept
      made := fun socket hlt hle => absurd hlt (Nat.not_lt.mpr hle) }

theorem detachSocket_eq_some :
    s.detachSocket socket = some t ↔ s.socket = some socket ∧ t = ({ s with
      socket := none
      metricsTracker := s.metricsTracker.onSocketDetached s.now } : Session).clearSocketState := by
  rw [Session.detachSocket]
  split
  · rename_i hcurrent
    simp [hcurrent, eq_comm]
  · rename_i hother
    simp [hother]

/-- The socket comes out of the client, and the baton with it. -/
theorem carries_detachSocket (h : s.detachSocket socket = some t) (status : ℕ)
    (immediateRetry : Bool) : Carries s .finished t (.rejecting socket status immediateRetry) := by
  obtain ⟨hcurrent, rfl⟩ := detachSocket_eq_some.mp h
  exact {
    started_eq := rfl
    starts_eq := rfl
    le := by
      simp only [Session.held, Session.clearSocketState, hcurrent, Call.weight, Option.isSome_none,
        Option.isSome_some, Bool.toNat_false, Bool.toNat_true]
      omega
    replaced_le := Nat.le_refl _
    replaced_eq := .inl rfl
    alive := fun _ _ => by simp [Call.weight]
    kept := by
      intro other hmem
      rcases hmem with hsocket | hrejects | hrest
      · rw [hcurrent] at hsocket
        exact .inr (.inl hsocket)
      · cases hrejects
      · exact .inr (.inr hrest)
    made := fun _ hlt hle => absurd hlt (Nat.not_lt.mpr hle) }

theorem sameConnection_closeSocketQuietly (s : Session) (socket code : ℕ) (reason : JsString) :
    SameConnection s (s.closeSocketQuietly socket code reason) :=
  ⟨rfl, rfl, rfl, rfl, rfl, fun _ h => List.mem_append_left _ h, fun _ h => h, rfl⟩

theorem carries_closeAndReconnect (s : Session) (socket code : ℕ) (reason : JsString)
    (options : ScheduleOptions) (choice : Choice) (status : ℕ) (immediateRetry : Bool) :
    Carries s (.rejecting socket status immediateRetry)
      (s.closeAndReconnect cfg socket code reason options choice) .finished := by
  refine (sameConnection_closeSocketQuietly s socket code reason).carries _ |>.trans ?_
  refine carries_scheduleReconnect options choice.random rfl ?_
  intro other hother
  cases hother
  exact .inl ⟨_, List.mem_append_right _ (List.mem_singleton.mpr rfl), rfl⟩

/-- The socket takes the baton. One that was there is replaced. -/
theorem carries_createSocket (hweight : c.weight = 1) (hrejects : c.rejects = none) :
    Carries s c (s.createSocket cfg choice) .finished := by
  have hnone : ∀ socket, c.rejects = some socket → s.IsClosed socket := by
    intro socket hsocket
    rw [hrejects] at hsocket
    cases hsocket
  have hkept : ∀ socket, Accounts s c socket → Accounts s .finished socket := by
    intro socket hmem
    rcases hmem with hcurrent | hheld | hrest
    · exact .inl hcurrent
    · exact .inr (.inr (.inl (hnone socket hheld)))
    · exact .inr (.inr hrest)
  rw [Session.createSocket]
  split
  · rename_i hon
    split
    · have hcarries : ∀ connectTimeout, Carries s c
          { s with
            socket := some s.sockets.length
            sockets := s.sockets ++ [⟨WS_READY_STATE_CONNECTING, s.now⟩]
            replaced := s.replaced ++ s.socket.toList
            connectTimeout } .finished := by
        intro connectTimeout
        exact {
          started_eq := rfl
          starts_eq := rfl
          le := by
            cases hsocket : s.socket <;>
              simp [Session.held, hweight, hsocket] <;> omega
          replaced_le := by simp
          replaced_eq := .inr hon
          alive := fun _ _ => by simp [Session.held]
          kept := by
            intro socket hmem
            rcases hkept socket hmem with hcurrent | hheld | hclosed | hreplaced
            · exact .inr (.inr (.inr (List.mem_append_right _ (by simp [hcurrent]))))
            · cases hheld
            · exact .inr (.inr (.inl hclosed))
            · exact .inr (.inr (.inr (List.mem_append_left _ hreplaced)))
          made := by
            intro socket hlt hle
            simp only [List.length_append, List.length_singleton] at hlt
            exact .inl (congrArg some (by omega)) }
      simp only [Session.startConnectTimeout]
      split
      · exact hcarries none
      · exact hcarries _
    · exact carries_scheduleReconnect _ _ hweight hnone
  · rename_i hoff
    rw [Bool.not_eq_true] at hoff
    exact {
      started_eq := rfl
      starts_eq := rfl
      le := by simp [Call.weight]
      replaced_le := Nat.le_refl _
      replaced_eq := .inl rfl
      alive := fun hon => by simp [hoff] at hon
      kept := hkept
      made := fun socket hlt hle => absurd hlt (Nat.not_lt.mpr hle) }

theorem carries_finishHeaders :
    Carries s .resolvingHeaders (s.finishHeaders cfg choice) .finished := by
  rw [Session.finishHeaders]
  split
  · exact carries_createSocket rfl rfl
  · exact carries_scheduleReconnect _ _ rfl (fun _ h => by cases h)

/-- Which of the awaits of `connectSocket` a call is at does not matter. -/
theorem Carries.of_connecting (h : Carries s c' s' c'') (hweight : c.weight = c'.weight)
    (hrejects : c.rejects = c'.rejects) : Carries s c s' c'' := by
  have hkept : ∀ socket, Accounts s c socket → Accounts s c' socket := by
    intro socket hmem
    rw [Accounts, ← hrejects]
    exact hmem
  exact { h with
    le := hweight ▸ h.le
    alive := hweight ▸ h.alive
    kept := fun socket hmem => h.kept socket (hkept socket hmem) }

theorem carries_resolveHeaders :
    Carries s .loadingQueue (s.resolveHeaders cfg choice).1 (s.resolveHeaders cfg choice).2 := by
  rw [Session.resolveHeaders]
  split
  · exact (SameConnection.rfl.carries .resolvingHeaders).of_connecting rfl rfl
  · exact carries_createSocket rfl rfl

/-- A call of `connectSocket` that has the baton: the timer is cleared. -/
theorem carries_connectSocket (s : Session) (choice : Choice) :
    Carries { s with reconnectScheduler := s.reconnectScheduler.clear } .loadingQueue
      (s.connectSocket cfg choice).1 (s.connectSocket cfg choice).2 := by
  have hcounted : SameConnection { s with reconnectScheduler := s.reconnectScheduler.clear }
      { s with
        reconnectScheduler := s.reconnectScheduler.clear
        metricsTracker :=
          { s.metricsTracker with connectAttempts := s.metricsTracker.connectAttempts + 1 } } :=
    ⟨rfl, rfl, rfl, rfl, rfl, fun _ h => h, fun _ h => h, rfl⟩
  rw [Session.connectSocket]
  split
  · exact hcounted.carries .loadingQueue
  · exact (hcounted.carries .loadingQueue).trans carries_resolveHeaders

/-- The socket is lost, and its baton goes into the timer. -/
theorem carries_lose (h : s.detachSocket socket = some t) (code : ℕ) (reason : JsString)
    (options : ScheduleOptions) (choice : Choice) :
    Carries s .finished (t.closeAndReconnect cfg socket code reason options choice) .finished :=
  (carries_detachSocket h 0 false).trans (carries_closeAndReconnect ..)

theorem carries_onConnectTimeout :
    Carries s .finished (s.onConnectTimeout cfg socket choice) .finished := by
  rw [Session.onConnectTimeout]
  split
  · exact SameConnection.rfl.carries _
  · rename_i hdetach
    exact carries_lose hdetach ..

theorem carries_onClose (hreported : s.IsClosed socket) :
    Carries s .finished (s.onClose cfg socket choice) .finished := by
  rw [Session.onClose]
  split
  · exact SameConnection.rfl.carries _
  · rename_i hdetach
    refine (carries_detachSocket hdetach 0 false).trans ?_
    refine carries_scheduleReconnect _ _ rfl ?_
    intro other hother
    cases hother
    obtain ⟨_, rfl⟩ := detachSocket_eq_some.mp hdetach
    exact hreported

theorem carries_onError : Carries s .finished (s.onError cfg socket choice) .finished := by
  simp only [Session.onError]
  split
  · exact SameConnection.rfl.carries _
  · split
    · exact SameConnection.rfl.carries _
    · rename_i hdetach
      exact carries_lose hdetach ..

theorem carries_handleUnexpectedResponse (statusCode : Option ℕ) :
    Carries s .finished (s.handleUnexpectedResponse cfg socket statusCode choice).1
      (s.handleUnexpectedResponse cfg socket statusCode choice).2 := by
  rw [Session.handleUnexpectedResponse]
  split
  · exact SameConnection.rfl.carries _
  · rename_i lost hdetach
    split
    · refine (carries_detachSocket hdetach 401 (!lost.authUpgradeImmediateRetryUsed)).trans ?_
      have hsame : SameConnection lost { lost with authUpgradeImmediateRetryUsed := true } :=
        ⟨rfl, rfl, rfl, rfl, rfl, fun _ h => h, fun _ h => h, rfl⟩
      exact hsame.carries _
    · exact carries_lose hdetach ..

theorem carries_handleHeartbeatAckTimeout :
    Carries s .finished (s.handleHeartbeatAckTimeout cfg choice) .finished := by
  have hsame : ∀ heartbeatManager, SameConnection s { s with heartbeatManager } :=
    fun _ => ⟨rfl, rfl, rfl, rfl, rfl, fun _ h => h, fun _ h => h, rfl⟩
  rw [Session.handleHeartbeatAckTimeout]
  split
  · exact (hsame _).carries _
  · simp only
    split
    · exact (hsame _).carries _
    · split
      · exact (hsame _).carries _
      · rename_i hdetach
        exact ((hsame _).carries _).trans (carries_lose hdetach ..)

theorem sameConnection_setReadyState (s : Session) (socket readyState : ℕ) :
    SameConnection s (s.setReadyState socket readyState) :=
  ⟨rfl, rfl, rfl, List.length_modify .., rfl, fun _ h => h, fun _ h => h, rfl⟩

theorem sameConnection_onOpen : SameConnection s (s.onOpen cfg socket) := by
  rw [Session.onOpen]
  split
  · exact ⟨rfl, rfl, rfl, rfl, rfl, fun _ h => h, fun _ h => h, rfl⟩
  · exact SameConnection.rfl

theorem sameConnection_onHeartbeatAck (ackId : JsString) :
    SameConnection s (s.onHeartbeatAck cfg socket ackId) := by
  rw [Session.onHeartbeatAck]
  split
  · exact ⟨rfl, rfl, rfl, rfl, rfl, fun _ h => h, fun _ h => h, rfl⟩
  · exact SameConnection.rfl

theorem sameConnection_onHeartbeatInterval (id : JsString) (isSent : Bool) :
    SameConnection s (s.onHeartbeatInterval cfg id isSent) := by
  rw [Session.onHeartbeatInterval]
  split
  · exact SameConnection.rfl
  · split
    · exact ⟨rfl, rfl, rfl, rfl, rfl, fun _ h => h, fun _ h => h, rfl⟩
    · exact SameConnection.rfl

/-- The timer for a reconnect goes off, and its baton goes into the call. -/
theorem carries_clear {due : ℤ} (hdue : s.reconnectScheduler.timeout = some due) :
    Carries s .finished { s with reconnectScheduler := s.reconnectScheduler.clear }
      .loadingQueue where
  started_eq := rfl
  starts_eq := rfl
  le := by
    simp [Session.held, hdue, ConnectorReconnectScheduler.clear, Call.weight]
  replaced_le := Nat.le_refl _
  replaced_eq := .inl rfl
  alive _ _ := by simp [Call.weight]
  kept _ hmem := hmem
  made _ hlt hle := absurd hlt (Nat.not_lt.mpr hle)

/-! ## Timers that are set -/

/-- Which timers may be set. -/
structure Wired (s : Session) : Prop where
  socket_lt : ∀ socket ∈ s.socket, socket < s.sockets.length
  connectTimeout_current : ∀ timer ∈ s.connectTimeout, s.socket = some timer.1
  quiet : s.socket = none → s.heartbeatManager.Quiet
  stopped : s.started = false → s.socket = none ∧ s.reconnectScheduler.timeout = none

theorem wired_new (now : ℤ) : Wired (.new now) where
  socket_lt _ h := by cases h
  connectTimeout_current _ h := by cases h
  quiet _ := ⟨rfl, rfl, rfl⟩
  stopped _ := ⟨rfl, rfl⟩

/-- A session that agrees with a wired one on what the timers depend on. -/
theorem Wired.of_eq (h : Wired s) (hsocket : s'.socket = s.socket)
    (hlength : s.sockets.length ≤ s'.sockets.length)
    (hconnect : ∀ timer ∈ s'.connectTimeout, timer ∈ s.connectTimeout)
    (hquiet : s.socket = none → s'.heartbeatManager.Quiet)
    (hstopped : s'.started = false →
      s.started = false ∧ s'.reconnectScheduler.timeout = s.reconnectScheduler.timeout) :
    Wired s' where
  socket_lt socket hmem := (h.socket_lt socket (hsocket ▸ hmem)).trans_le hlength
  connectTimeout_current timer hmem :=
    hsocket.trans (h.connectTimeout_current timer (hconnect timer hmem))
  quiet hnone := hquiet (hsocket ▸ hnone)
  stopped hoff := by
    obtain ⟨hbefore, htimeout⟩ := hstopped hoff
    rw [hsocket, htimeout]
    exact h.stopped hbefore

theorem Wired.scheduleReconnect (h : Wired s) (options : ScheduleOptions) (random : ℚ) :
    Wired (s.scheduleReconnect cfg options random) := by
  rcases scheduleReconnect_cases cfg s options random with ⟨_, heq⟩ | ⟨hon, heq⟩
  · rwa [heq]
  · rw [heq]
    refine h.of_eq rfl (Nat.le_refl _) (fun _ ht => ht) h.quiet ?_
    intro hoff
    rw [hon] at hoff
    cases hoff

theorem Wired.detachSocket (h : Wired s) (hdetach : s.detachSocket socket = some t) : Wired t := by
  obtain ⟨_, rfl⟩ := detachSocket_eq_some.mp hdetach
  exact {
    socket_lt := fun _ hmem => by cases hmem
    connectTimeout_current := fun _ hmem => by cases hmem
    quiet := fun _ => ConnectorHeartbeatManager.quiet_stop _
    stopped := fun hoff => ⟨rfl, (h.stopped hoff).2⟩ }

theorem Wired.closeAndReconnect (h : Wired s) (socket code : ℕ) (reason : JsString)
    (options : ScheduleOptions) (choice : Choice) :
    Wired (s.closeAndReconnect cfg socket code reason options choice) := by
  have hclosed : Wired (s.closeSocketQuietly socket code reason) :=
    h.of_eq rfl (Nat.le_refl _) (fun _ ht => ht) h.quiet (fun hoff => ⟨hoff, rfl⟩)
  exact hclosed.scheduleReconnect options choice.random

theorem Wired.createSocket (h : Wired s) : Wired (s.createSocket cfg choice) := by
  rw [Session.createSocket]
  split
  · rename_i hon
    split
    · have hwired : ∀ connectTimeout : Option (ℕ × ℤ),
          (∀ timer ∈ connectTimeout, timer.1 = s.sockets.length) → Wired { s with
            socket := some s.sockets.length
            sockets := s.sockets ++ [⟨WS_READY_STATE_CONNECTING, s.now⟩]
            replaced := s.replaced ++ s.socket.toList
            connectTimeout } := by
        intro connectTimeout htimer
        exact {
          socket_lt := fun socket hmem => by
            cases hmem
            simp
          connectTimeout_current := fun timer hmem => congrArg some (htimer timer hmem).symm
          quiet := fun hnone => by cases hnone
          stopped := fun hoff => by
            rw [hon] at hoff
            cases hoff }
      simp only [Session.startConnectTimeout]
      split
      · exact hwired none (fun _ hmem => by cases hmem)
      · exact hwired _ (fun _ hmem => by cases hmem; rfl)
    · exact h.scheduleReconnect _ _
  · exact h

theorem Wired.resolveHeaders (h : Wired s) : Wired (s.resolveHeaders cfg choice).1 := by
  rw [Session.resolveHeaders]
  split
  · exact h
  · exact h.createSocket

theorem Wired.connectSocket (h : Wired s) : Wired (s.connectSocket cfg choice).1 := by
  have hcleared : Wired { s with
      reconnectScheduler := s.reconnectScheduler.clear
      metricsTracker :=
        { s.metricsTracker with connectAttempts := s.metricsTracker.connectAttempts + 1 } } :=
    { h with stopped := fun hoff => ⟨(h.stopped hoff).1, rfl⟩ }
  rw [Session.connectSocket]
  split
  · exact hcleared
  · exact hcleared.resolveHeaders

/-- A client after `disconnect`. -/
def Session.stopped (s : Session) : Session :=
  { s with
    started := false
    socket := none
    connectTimeout := none
    heartbeatManager := s.heartbeatManager.stop
    reconnectScheduler := s.reconnectScheduler.clear
    closeCalls :=
      s.closeCalls ++ s.socket.toList.map fun socket => ⟨socket, 1000, js "client disconnect"⟩ }

theorem disconnect_eq (s : Session) : s.disconnect = s.stopped := by
  rw [Session.disconnect, Session.stopped]
  cases hsocket : s.socket <;>
    simp [Session.clearSocketState, Session.closeSocketQuietly]

theorem wired_disconnect (s : Session) : Wired s.disconnect := by
  rw [disconnect_eq]
  exact {
    socket_lt := fun _ hmem => by cases hmem
    connectTimeout_current := fun _ hmem => by cases hmem
    quiet := fun _ => ConnectorHeartbeatManager.quiet_stop _
    stopped := fun _ => ⟨rfl, rfl⟩ }

/-- With nothing pending the timer for the acknowledgements has nothing to report. -/
theorem quiet_handleHeartbeatAckTimeout {m : ConnectorHeartbeatManager} (h : m.Quiet) (now : ℤ) :
    (m.handleHeartbeatAckTimeout cfg now).1.Quiet := by
  have hnone : ConnectorHeartbeatManager.getOldestPendingSentAtMs
      { m with heartbeatAckTimeout := none } = none := by
    simp [ConnectorHeartbeatManager.getOldestPendingSentAtMs, OrderedMap.values, h.nothing_pending]
  simp only [ConnectorHeartbeatManager.handleHeartbeatAckTimeout, hnone]
  exact ⟨h.interval_off, rfl, h.nothing_pending⟩

theorem Wired.handleHeartbeatAckTimeout (h : Wired s) :
    Wired (s.handleHeartbeatAckTimeout cfg choice) := by
  have hkept : ∀ heartbeatManager : ConnectorHeartbeatManager,
      (s.heartbeatManager.handleHeartbeatAckTimeout cfg s.now).1 = heartbeatManager →
      Wired { s with heartbeatManager } := by
    intro heartbeatManager heq
    refine h.of_eq rfl (Nat.le_refl _) (fun _ ht => ht) ?_ (fun hoff => ⟨hoff, rfl⟩)
    intro hnone
    exact heq ▸ quiet_handleHeartbeatAckTimeout (h.quiet hnone) s.now
  rw [Session.handleHeartbeatAckTimeout]
  split
  · rename_i heq
    exact hkept _ (congrArg Prod.fst heq)
  · rename_i heq
    have hwired := hkept _ (congrArg Prod.fst heq)
    simp only
    split
    · exact hwired
    · split
      · exact hwired
      · rename_i hdetach
        exact (hwired.detachSocket hdetach).closeAndReconnect ..

theorem Wired.onConnectTimeout (h : Wired s) :
    Wired (s.onConnectTimeout cfg socket choice) := by
  rw [Session.onConnectTimeout]
  split
  · exact h
  · rename_i hdetach
    exact (h.detachSocket hdetach).closeAndReconnect ..

theorem Wired.onClose (h : Wired s) : Wired (s.onClose cfg socket choice) := by
  rw [Session.onClose]
  split
  · exact h
  · rename_i hdetach
    exact (h.detachSocket hdetach).scheduleReconnect _ _

theorem Wired.onError (h : Wired s) : Wired (s.onError cfg socket choice) := by
  simp only [Session.onError]
  split
  · exact h
  · split
    · exact h
    · rename_i hdetach
      exact (h.detachSocket hdetach).closeAndReconnect ..

theorem Wired.handleUnexpectedResponse (h : Wired s) (statusCode : Option ℕ) :
    Wired (s.handleUnexpectedResponse cfg socket statusCode choice).1 := by
  rw [Session.handleUnexpectedResponse]
  split
  · exact h
  · rename_i hdetach
    have hlost := h.detachSocket hdetach
    split
    · exact hlost.of_eq rfl (Nat.le_refl _) (fun _ ht => ht) hlost.quiet (fun hoff => ⟨hoff, rfl⟩)
    · exact hlost.closeAndReconnect ..

/-- What a current socket reports about itself. -/
theorem Wired.onSocket (h : Wired s) (hcurrent : s.socket = some socket)
    (hsame : SameConnection s s')
    (hconnect : ∀ timer ∈ s'.connectTimeout, timer ∈ s.connectTimeout) : Wired s' := by
  refine h.of_eq hsame.socket_eq (Nat.le_of_eq hsame.length_eq.symm) hconnect ?_ ?_
  · intro hnone
    rw [hcurrent] at hnone
    cases hnone
  · intro hoff
    exact ⟨hsame.started_eq ▸ hoff, hsame.timeout_eq⟩

theorem Wired.setReadyState (h : Wired s) (socket readyState : ℕ) :
    Wired (s.setReadyState socket readyState) :=
  h.of_eq rfl (Nat.le_of_eq (List.length_modify ..).symm) (fun _ ht => ht) h.quiet
    (fun hoff => ⟨hoff, rfl⟩)

theorem Wired.onOpen (h : Wired s) : Wired (s.onOpen cfg socket) := by
  have hsame : SameConnection s (s.onOpen cfg socket) := sameConnection_onOpen
  by_cases hcurrent : s.socket = some socket
  · refine h.onSocket hcurrent hsame ?_
    simp [Session.onOpen, hcurrent]
  · rwa [Session.onOpen, if_neg hcurrent]

theorem Wired.onHeartbeatAck (h : Wired s) (ackId : JsString) :
    Wired (s.onHeartbeatAck cfg socket ackId) := by
  have hsame : SameConnection s (s.onHeartbeatAck cfg socket ackId) :=
    sameConnection_onHeartbeatAck ackId
  by_cases hcurrent : s.socket = some socket
  · refine h.onSocket hcurrent hsame ?_
    simp [Session.onHeartbeatAck, hcurrent]
  · rwa [Session.onHeartbeatAck, if_neg hcurrent]

theorem Wired.onHeartbeatInterval (h : Wired s) (id : JsString) (isSent : Bool) :
    Wired (s.onHeartbeatInterval cfg id isSent) := by
  have hsame : SameConnection s (s.onHeartbeatInterval cfg id isSent) :=
    sameConnection_onHeartbeatInterval id isSent
  cases hcurrent : s.socket with
  | none =>
      simp only [Session.onHeartbeatInterval, hcurrent]
      exact h
  | some socket =>
      refine h.onSocket hcurrent hsame ?_
      simp only [Session.onHeartbeatInterval, hcurrent]
      split <;> exact fun _ ht => ht

/-! ## Pieces of code -/

/-- `connect` has started the client, and `connectSocket` begins with the baton. -/
def Session.begun (s : Session) : Session :=
  { s with started := true, starts := s.starts + 1, reconnectScheduler := s.reconnectScheduler.clear }

theorem Wired.begun (h : Wired s) : Wired { s with started := true, starts := s.starts + 1 } :=
  h.of_eq rfl (Nat.le_refl _) (fun _ ht => ht) h.quiet (fun hoff => by cases hoff)

/-- **What a piece of code that something starts does.** -/
theorem start_carries {input : Input} (hwired : Wired s)
    (h : start cfg s input = some (s', c')) :
    Wired s' ∧ (Carries s .finished s' c' ∨
      (s.started = false ∧ Carries s.begun .loadingQueue s' c') ∨
      (s' = s.disconnect ∧ c' = .finished)) := by
  obtain ⟨event, choice⟩ := input
  cases event with
  | connect =>
      simp only [start] at h
      split at h
      · cases h
        exact ⟨hwired, .inl (SameConnection.rfl.carries _)⟩
      · rename_i hoff
        rw [Bool.not_eq_true] at hoff
        have hcarries := @carries_connectSocket cfg
          { s with started := true, starts := s.starts + 1 } choice
        have hafter := @Wired.connectSocket cfg _ choice hwired.begun
        rw [Option.some.inj h] at hcarries hafter
        exact ⟨hafter, .inr (.inl ⟨hoff, hcarries⟩)⟩
  | disconnect =>
      cases h
      exact ⟨wired_disconnect s, .inr (.inr ⟨rfl, rfl⟩)⟩
  | advance now =>
      simp only [start] at h
      split at h
      · cases h
        have hsame : SameConnection s { s with now } :=
          ⟨rfl, rfl, rfl, rfl, rfl, fun _ h => h, fun _ h => h, rfl⟩
        exact ⟨hwired.of_eq rfl (Nat.le_refl _) (fun _ ht => ht) hwired.quiet
          (fun hoff => ⟨hoff, rfl⟩), .inl (hsame.carries _)⟩
      · cases h
  | readyStateChanges socket readyState =>
      simp only [start] at h
      split at h
      · cases h
        exact ⟨hwired.setReadyState _ _, .inl ((sameConnection_setReadyState ..).carries _)⟩
      · cases h
  | opens socket =>
      simp only [start] at h
      split at h
      · cases h
        exact ⟨(hwired.setReadyState _ _).onOpen,
          .inl (((sameConnection_setReadyState ..).carries _).trans
            (sameConnection_onOpen.carries _))⟩
      · cases h
  | heartbeatAckFrame socket ackId =>
      simp only [start] at h
      split at h
      · cases h
        exact ⟨hwired.onHeartbeatAck _, .inl ((sameConnection_onHeartbeatAck _).carries _)⟩
      · cases h
  | closes socket =>
      simp only [start] at h
      split at h
      · cases h
        have hreported : SameConnection s
            { s with reportedClosed := s.reportedClosed ++ [socket] } :=
          ⟨rfl, rfl, rfl, rfl, rfl, fun _ h => h, fun _ h => List.mem_append_left _ h, rfl⟩
        have hwired' : Wired { s with reportedClosed := s.reportedClosed ++ [socket] } :=
          hwired.of_eq rfl (Nat.le_refl _) (fun _ ht => ht) hwired.quiet (fun hoff => ⟨hoff, rfl⟩)
        refine ⟨hwired'.onClose, .inl ((hreported.carries _).trans (carries_onClose ?_))⟩
        exact .inr (List.mem_append_right _ (List.mem_singleton.mpr rfl))
      · cases h
  | errs socket =>
      simp only [start] at h
      split at h
      · cases h
        exact ⟨hwired.onError, .inl carries_onError⟩
      · cases h
  | unexpectedResponse socket statusCode =>
      simp only [start] at h
      split at h
      · have hcarries := @carries_handleUnexpectedResponse cfg s choice socket statusCode
        have hafter := @Wired.handleUnexpectedResponse cfg s choice socket hwired statusCode
        rw [Option.some.inj h] at hcarries hafter
        exact ⟨hafter, .inl hcarries⟩
      · cases h
  | connectTimeoutFires =>
      simp only [start] at h
      split at h
      · split at h
        · cases h
          exact ⟨hwired.onConnectTimeout, .inl carries_onConnectTimeout⟩
        · cases h
      · cases h
  | heartbeatIntervalFires id isSent =>
      simp only [start] at h
      split at h
      · cases h
        exact ⟨hwired.onHeartbeatInterval id isSent,
          .inl ((sameConnection_onHeartbeatInterval ..).carries _)⟩
      · cases h
  | heartbeatAckTimeoutFires =>
      simp only [start] at h
      split at h
      · split at h
        · cases h
          exact ⟨hwired.handleHeartbeatAckTimeout, .inl carries_handleHeartbeatAckTimeout⟩
        · cases h
      · cases h
  | reconnectFires =>
      simp only [start] at h
      split at h
      · rename_i hdue
        split at h
        · have hcarries := (carries_clear hdue).trans (@carries_connectSocket cfg s choice)
          have hafter := @Wired.connectSocket cfg s choice hwired
          rw [Option.some.inj h] at hcarries hafter
          exact ⟨hafter, .inl hcarries⟩
        · cases h
      · cases h

/-- **What a piece of code that goes on does.** -/
theorem resume_carries (hwired : Wired s) (h : resume cfg s c choice = some (s', c')) :
    Wired s' ∧ Carries s c s' c' := by
  cases c with
  | loadingQueue =>
      have hcarries := @carries_resolveHeaders cfg s choice
      have hafter := @Wired.resolveHeaders cfg s choice hwired
      rw [Option.some.inj h] at hcarries hafter
      exact ⟨hafter, hcarries⟩
  | resolvingHeaders =>
      cases h
      refine ⟨?_, carries_finishHeaders⟩
      rw [Session.finishHeaders]
      split
      · exact hwired.createSocket
      · exact hwired.scheduleReconnect _ _
  | rejecting socket status immediateRetry =>
      cases h
      exact ⟨hwired.closeAndReconnect .., carries_closeAndReconnect ..⟩
  | finished => cases h

/-! ## Runs -/

/-- The client, a call, or a record still has the socket. -/
def Accounted (p : Pool Session Call) (socket : ℕ) : Prop :=
  p.shared.socket = some socket ∨ (∃ call ∈ p.calls, call.rejects = some socket) ∨
    p.shared.IsClosed socket ∨ socket ∈ p.shared.replaced

structure Inv (p : Pool Session Call) : Prop where
  wired : Wired p.shared
  passing : Passing Session.held Call.weight (fun s => s.started = true) Session.starts p
  replaced_le : p.shared.replaced.length + drivers p ≤ p.shared.starts
  replaced_lt : p.shared.replaced = [] ∨ p.shared.replaced.length < p.shared.starts
  accounted : ∀ socket < p.shared.sockets.length, Accounted p socket

theorem inv_fresh (now : ℤ) : Inv (fresh now) where
  wired := wired_new now
  passing := passing_nil rfl (by simp [Session.new])
  replaced_le := Nat.le_refl 0
  replaced_lt := .inl rfl
  accounted _ hlt := absurd hlt (Nat.not_lt_zero _)

variable {p q : Pool Session Call} {i : ℕ}

/-- A replaced socket leaves a driver behind, so the replaced ones are fewer than the starts. -/
theorem replaced_lt_of_carries (hreplaced : s.replaced = [] ∨ s.replaced.length < s'.starts)
    (h : Carries s c s' c') {total : ℕ} (hle : s'.replaced.length + total ≤ s'.starts)
    (hpos : s'.started = true → 0 < total) :
    s'.replaced = [] ∨ s'.replaced.length < s'.starts := by
  rcases h.replaced_eq with heq | hon
  · rwa [heq]
  · have htotal := hpos (h.started_eq.trans hon)
    exact .inr (by omega)

theorem Inv.resume (hp : Inv p) (hc : p.calls[i]? = some c) (h : Carries p.shared c s' c')
    (hwired : Wired s') : Inv ⟨s', p.calls.set i c'⟩ := by
  have hpassing := hp.passing.resume hc h.handover h.starts_eq
  have hbudget := budget_resume Session.held Call.weight hc s' c'
  have hle := h.le
  have hbefore := hp.replaced_le
  have hreplaced : s'.replaced.length + drivers ⟨s', p.calls.set i c'⟩ ≤ s'.starts := by
    rw [h.starts_eq]
    simp only [drivers] at hbefore ⊢
    omega
  refine ⟨hwired, hpassing, hreplaced, ?_, ?_⟩
  · exact replaced_lt_of_carries (h.starts_eq ▸ hp.replaced_lt) h hreplaced hpassing.alive
  · intro socket hlt
    have hpiece : Accounts s' c' socket ∨ ∃ call ∈ p.calls.set i c', call.rejects = some socket := by
      by_cases hold : socket < p.shared.sockets.length
      · rcases hp.accounted socket hold with hcurrent | ⟨call, hcall, hrejects⟩ | hrest
        · exact .inl (h.kept socket (.inl hcurrent))
        · rcases mem_set_or_eq hc hcall with rfl | hother
          · exact .inl (h.kept socket (.inr (.inl hrejects)))
          · exact .inr ⟨call, hother, hrejects⟩
        · exact .inl (h.kept socket (.inr (.inr hrest)))
      · exact .inl (h.made socket hlt (Nat.le_of_not_lt hold))
    rcases hpiece with (hcurrent | hrejects | hrest) | hother
    · exact .inl hcurrent
    · exact .inr (.inl ⟨c', mem_set_self hc, hrejects⟩)
    · exact .inr (.inr hrest)
    · exact .inr (.inl hother)

/-- The sockets after a new call has started. -/
theorem accounted_start {calls : List Call}
    (hold : ∀ socket < s.sockets.length, Accounted ⟨s, calls⟩ socket) (h : Carries s c s' c') :
    ∀ socket < s'.sockets.length, Accounted ⟨s', calls ++ [c']⟩ socket := by
  intro socket hlt
  have hpiece : Accounts s' c' socket ∨ ∃ call ∈ calls, call.rejects = some socket := by
    by_cases hmade : socket < s.sockets.length
    · rcases hold socket hmade with hcurrent | hother | hrest
      · exact .inl (h.kept socket (.inl hcurrent))
      · exact .inr hother
      · exact .inl (h.kept socket (.inr (.inr hrest)))
    · exact .inl (h.made socket hlt (Nat.le_of_not_lt hmade))
  rcases hpiece with (hcurrent | hheld | hrest) | ⟨call, hcall, hother⟩
  · exact .inl hcurrent
  · exact .inr (.inl ⟨c', List.mem_append_right _ (List.mem_singleton.mpr rfl), hheld⟩)
  · exact .inr (.inr hrest)
  · exact .inr (.inl ⟨call, List.mem_append_left _ hcall, hother⟩)

theorem Inv.start (hp : Inv p) (h : Carries p.shared .finished s' c') (hwired : Wired s') :
    Inv ⟨s', p.calls ++ [c']⟩ := by
  have hpassing := hp.passing.start h.handover h.starts_eq
  have hbudget := budget_start Session.held Call.weight p s' c'
  have hle := h.le
  have hbefore := hp.replaced_le
  have hreplaced : s'.replaced.length + drivers ⟨s', p.calls ++ [c']⟩ ≤ s'.starts := by
    rw [h.starts_eq]
    simp only [drivers, weight_finished] at hle hbefore ⊢
    omega
  refine ⟨hwired, hpassing, hreplaced, ?_, accounted_start hp.accounted h⟩
  exact replaced_lt_of_carries (h.starts_eq ▸ hp.replaced_lt) h hreplaced hpassing.alive

/-- `connect` starts the client and brings a new driver along. -/
theorem Inv.connect (hp : Inv p) (hoff : p.shared.started = false)
    (h : Carries p.shared.begun .loadingQueue s' c') (hwired : Wired s') :
    Inv ⟨s', p.calls ++ [c']⟩ := by
  have hheld : p.shared.begun.held = p.shared.held := by
    simp [Session.begun, Session.held, ConnectorReconnectScheduler.clear, hp.wired.stopped hoff]
  have hmade : s'.starts = p.shared.starts + 1 := h.starts_eq
  have hle := h.le
  have hmono := h.replaced_le
  have hbefore := hp.replaced_le
  have hreplaced_begun : p.shared.begun.replaced = p.shared.replaced := rfl
  have hbudget := budget_start Session.held Call.weight p s' c'
  simp only [hheld, hreplaced_begun, Call.weight.eq_def .loadingQueue] at hle hmono
  have hpassing : Passing Session.held Call.weight (fun s => s.started = true) Session.starts
      ⟨s', p.calls ++ [c']⟩ := by
    refine hp.passing.make (by omega) ?_ hmade
    intro _
    exact h.alive rfl (Nat.lt_of_lt_of_le Nat.zero_lt_one (Nat.le_add_left _ _))
  have hreplaced : s'.replaced.length + drivers ⟨s', p.calls ++ [c']⟩ ≤ s'.starts := by
    simp only [drivers] at hbefore ⊢
    omega
  have hbegun : ∀ socket < p.shared.begun.sockets.length,
      Accounted ⟨p.shared.begun, p.calls⟩ socket := hp.accounted
  refine ⟨hwired, hpassing, hreplaced, ?_, accounted_start hbegun h⟩
  refine replaced_lt_of_carries ?_ h hreplaced hpassing.alive
  rcases hp.replaced_lt with hnil | hlt
  · exact .inl hnil
  · exact .inr (by rw [hmade]; exact Nat.lt_succ_of_lt hlt)

theorem Inv.disconnect (hp : Inv p) : Inv ⟨p.shared.disconnect, p.calls ++ [.finished]⟩ := by
  have hbudget := budget_start Session.held Call.weight p p.shared.disconnect .finished
  have hbefore := hp.replaced_le
  have hwired := wired_disconnect p.shared
  rw [disconnect_eq] at hwired hbudget ⊢
  refine ⟨hwired, ?_, ?_, hp.replaced_lt, ?_⟩
  · exact hp.passing.start (.of_off (Nat.zero_le _) (by simp [Session.stopped])) rfl
  · have hheld : p.shared.stopped.held = 0 := rfl
    change p.shared.replaced.length + drivers ⟨p.shared.stopped, p.calls ++ [.finished]⟩ ≤
      p.shared.starts
    simp only [drivers, hheld, weight_finished] at hbefore hbudget ⊢
    omega
  · intro socket hlt
    rcases hp.accounted socket hlt with hcurrent | ⟨call, hcall, hrejects⟩ | hclosed | hreplaced
    · refine .inr (.inr (.inl (.inl ⟨⟨socket, 1000, js "client disconnect"⟩, ?_, rfl⟩)))
      simp [Session.stopped, hcurrent]
    · exact .inr (.inl ⟨call, List.mem_append_left _ hcall, hrejects⟩)
    · refine .inr (.inr (.inl ?_))
      rcases hclosed with ⟨call, hcall, heq⟩ | hreported
      · exact .inl ⟨call, List.mem_append_left _ hcall, heq⟩
      · exact .inr hreported
    · exact .inr (.inr (.inr hreplaced))

/-- **Every move keeps the invariant.** -/
theorem inv_step {e : Move Input Choice} (hp : Inv p) (h : (client cfg).step p e = some q) :
    Inv q := by
  rcases Program.step_cases h with
    ⟨input, s, c, _, hstart, rfl⟩ | ⟨i, choice, c, s, c', _, hc, hresume, rfl⟩
  · obtain ⟨hwired, hcarries | ⟨hoff, hcarries⟩ | ⟨rfl, rfl⟩⟩ := start_carries hp.wired hstart
    · exact hp.start hcarries hwired
    · exact hp.connect hoff hcarries hwired
    · exact hp.disconnect
  · obtain ⟨hwired, hcarries⟩ := resume_carries hp.wired hresume
    exact hp.resume hc hcarries hwired

theorem inv_run {es : List (Move Input Choice)} {now : ℤ}
    (hrun : exec (client cfg).step (fresh now) es = some p) : Inv p :=
  exec_invariant_of_step Inv (fun _ _ _ hp h => inv_step hp h) (inv_fresh now) hrun

/-- **The drivers of a run.** A started client has at least one, and there are no more than starts.
While the client is stopped it has no socket, and no timer is set. -/
theorem drivers_run {es : List (Move Input Choice)} {now : ℤ}
    (hrun : exec (client cfg).step (fresh now) es = some p) :
    drivers p ≤ p.shared.starts ∧ (p.shared.started = true → 0 < drivers p) ∧
      (p.shared.started = false → p.shared.socket = none ∧ p.shared.dueTimes = [] ∧
        p.shared.heartbeatManager.heartbeatInterval = false) := by
  have hp := inv_run hrun
  refine ⟨hp.passing.le_made, hp.passing.alive, ?_⟩
  intro hoff
  obtain ⟨hsocket, htimeout⟩ := hp.wired.stopped hoff
  have hquiet := hp.wired.quiet hsocket
  have hconnect : p.shared.connectTimeout = none := by
    cases htimer : p.shared.connectTimeout with
    | none => rfl
    | some timer =>
        have hcurrent := hp.wired.connectTimeout_current timer htimer
        rw [hsocket] at hcurrent
        cases hcurrent
  refine ⟨hsocket, ?_, hquiet.interval_off⟩
  simp [Session.dueTimes, hconnect, hquiet.timeout_off, htimeout]

/-- Settings of a client whose queue is kept and whose headers are asked for. -/
def exampleConfig : Config where
  connectTimeoutMs := 15000
  heartbeatIntervalMs := 30000
  heartbeatAckTimeoutMs := 60000
  reconnectMinDelayMs := 1000
  reconnectMaxDelayMs := 30000
  reconnectBackoffFactor := 2
  reconnectJitterRatio := 0
  hasOutboundQueuePersistence := true
  hasConnectionHeadersProvider := true

def exampleChoice : Choice := ⟨0, true, true⟩

/-- The first socket is rejected with 401, and the second one opens. -/
def exampleRun : List (Move Input Choice) :=
  [.start ⟨.connect, exampleChoice⟩, .resume 0 exampleChoice, .resume 0 exampleChoice,
    .start ⟨.unexpectedResponse 0 (some 401), exampleChoice⟩, .resume 1 exampleChoice,
    .start ⟨.reconnectFires, exampleChoice⟩, .resume 2 exampleChoice, .resume 2 exampleChoice,
    .start ⟨.opens 1, exampleChoice⟩]

theorem exampleRun_result :
    (exec (client exampleConfig).step (fresh 0) exampleRun).map
      (fun p => (p.shared.started, p.shared.socket, p.shared.sockets.length, p.shared.starts)) =
        some (true, some 1, 2, 1) := by
  decide

theorem exampleRun_drivers : ∃ p, exec (client exampleConfig).step (fresh 0) exampleRun = some p ∧
    p.shared.started = true ∧ drivers p ≤ p.shared.starts ∧ 0 < drivers p := by
  obtain ⟨p, hrun, hresult⟩ := Option.map_eq_some_iff.mp exampleRun_result
  have hstarted : p.shared.started = true := (Prod.mk.inj hresult).1
  exact ⟨p, hrun, hstarted, (drivers_run hrun).1, (drivers_run hrun).2.1 hstarted⟩

/-- **No socket is lost sight of.** Each one that was made is current, or was closed, or waits in a
call that will close it, or was replaced; and fewer were replaced than the client was started. -/
theorem sockets_run {es : List (Move Input Choice)} {now : ℤ}
    (hrun : exec (client cfg).step (fresh now) es = some p) :
    (∀ socket < p.shared.sockets.length, Accounted p socket) ∧
      p.shared.replaced.length ≤ p.shared.starts - 1 := by
  have hp := inv_run hrun
  refine ⟨hp.accounted, ?_⟩
  rcases hp.replaced_lt with hnil | hlt
  · simp [hnil]
  · omega

theorem exampleRun_sockets : ∃ p, exec (client exampleConfig).step (fresh 0) exampleRun = some p ∧
    Accounted p 0 ∧ p.shared.replaced.length ≤ 0 := by
  obtain ⟨p, hrun, hresult⟩ := Option.map_eq_some_iff.mp exampleRun_result
  simp only [Prod.mk.injEq] at hresult
  obtain ⟨_, _, hlength, hstarts⟩ := hresult
  refine ⟨p, hrun, (sockets_run hrun).1 0 (by omega), ?_⟩
  have hle := (sockets_run hrun).2
  omega

end Clawdentity.Connector.ClientSession
