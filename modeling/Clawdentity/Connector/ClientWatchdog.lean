import Clawdentity.Connector.ClientDrivers

/-!
# How long the connector client waits for a socket

With timers that go off when they are due, the client gives a socket up that does not open in time,
and one on which a heartbeat is not acknowledged in time.

## Main definitions

* `Watched` — the timers cover the current socket and the heartbeats that were sent on it.
* `watched_start`, `watched_resume` — every piece of code keeps it.
* `watchdog_run` — no current socket is silent for longer than its timeouts allow.
-/

namespace Clawdentity.Connector.ClientSession

open Js Lib Lib.Interleave Lib.Run ConnectorHeartbeatManager

variable {cfg : Config} {s s' t : Session} {c c' : Call} {choice : Choice} {socket : ℕ}

/-! ## Sockets and heartbeats under watch -/

/-- The timers cover the current socket and the heartbeats that were sent on it. -/
structure Watched (cfg : Config) (s : Session) : Prop where
  watching : s.heartbeatManager.Watching cfg s.now
  pending_due : ∀ d ∈ s.heartbeatManager.deadlines cfg, s.now ≤ d
  tracked : ∀ h ∈ s.heartbeats, s.socket = some h.socket → h.id ∈ s.acknowledged ∨
    s.heartbeatManager.pendingHeartbeatAcks.get? h.id = some h.sentAt
  sent_open : ∀ h ∈ s.heartbeats, ∃ so, s.sockets[h.socket]? = some so ∧
    so.readyState ≠ WS_READY_STATE_CONNECTING
  connecting : ∀ socket so, s.socket = some socket → s.sockets[socket]? = some so →
    so.readyState = WS_READY_STATE_CONNECTING → 0 < cfg.connectTimeoutMs →
    s.connectTimeout = some (socket, so.createdAt + cfg.connectTimeoutMs)
  connect_due : ∀ timer ∈ s.connectTimeout, s.now ≤ timer.2

/-- What the watch looks at. -/
structure SameWatch (s s' : Session) : Prop where
  now_eq : s'.now = s.now
  socket_eq : s'.socket = s.socket
  sockets_eq : s'.sockets = s.sockets
  connectTimeout_eq : s'.connectTimeout = s.connectTimeout
  heartbeatManager_eq : s'.heartbeatManager = s.heartbeatManager
  heartbeats_eq : s'.heartbeats = s.heartbeats
  acknowledged_eq : s'.acknowledged = s.acknowledged

theorem Watched.of_same (h : Watched cfg s) (hsame : SameWatch s s') : Watched cfg s' := by
  obtain ⟨hnow, hsocket, hsockets, hconnect, hmanager, hheartbeats, hacknowledged⟩ := hsame
  constructor
  · rw [hmanager, hnow]
    exact h.watching
  · rw [hmanager, hnow]
    exact h.pending_due
  · rw [hheartbeats, hsocket, hacknowledged, hmanager]
    exact h.tracked
  · rw [hheartbeats, hsockets]
    exact h.sent_open
  · rw [hsocket, hsockets, hconnect]
    exact h.connecting
  · rw [hconnect, hnow]
    exact h.connect_due

theorem sameWatch_scheduleReconnect (s : Session) (options : ScheduleOptions) (random : ℚ) :
    SameWatch s (s.scheduleReconnect cfg options random) := by
  rcases scheduleReconnect_cases cfg s options random with ⟨_, heq⟩ | ⟨_, heq⟩ <;>
  · rw [heq]
    exact ⟨rfl, rfl, rfl, rfl, rfl, rfl, rfl⟩

theorem deadlines_start (m : ConnectorHeartbeatManager) : (m.start cfg).deadlines cfg = [] := by
  rw [ConnectorHeartbeatManager.start]
  split <;> rfl

/-- A client without a socket has nothing to watch. -/
theorem Watched.of_none (h : Watched cfg s) (hsocket : s'.socket = none)
    (hquiet : s'.heartbeatManager.Quiet) (hconnect : s'.connectTimeout = none)
    (hheartbeats : s'.heartbeats = s.heartbeats) (hsockets : s'.sockets = s.sockets) :
    Watched cfg s' where
  watching := hquiet.watching
  pending_due d hd := by
    rw [hquiet.deadlines] at hd
    cases hd
  tracked _ _ hcurrent := by
    rw [hsocket] at hcurrent
    cases hcurrent
  sent_open := by
    rw [hheartbeats, hsockets]
    exact h.sent_open
  connecting _ _ hcurrent := by
    rw [hsocket] at hcurrent
    cases hcurrent
  connect_due _ htimer := by
    rw [hconnect] at htimer
    cases htimer

theorem Watched.detachSocket (h : Watched cfg s) (hdetach : s.detachSocket socket = some t) :
    Watched cfg t := by
  obtain ⟨_, rfl⟩ := detachSocket_eq_some.mp hdetach
  exact h.of_none rfl (quiet_stop _) rfl rfl rfl

theorem Watched.closeAndReconnect (h : Watched cfg s) (socket code : ℕ) (reason : JsString)
    (options : ScheduleOptions) (choice : Choice) :
    Watched cfg (s.closeAndReconnect cfg socket code reason options choice) := by
  have hclosed : Watched cfg (s.closeSocketQuietly socket code reason) :=
    h.of_same ⟨rfl, rfl, rfl, rfl, rfl, rfl, rfl⟩
  exact hclosed.of_same (sameWatch_scheduleReconnect ..)

/-- No heartbeat was sent on a socket that is yet to be made. -/
theorem Watched.socket_lt (h : Watched cfg s) {b : Heartbeat} (hb : b ∈ s.heartbeats) :
    b.socket < s.sockets.length := by
  obtain ⟨so, hso, _⟩ := h.sent_open b hb
  exact (List.getElem?_eq_some_iff.mp hso).1

theorem Watched.createSocket (h : Watched cfg s) : Watched cfg (s.createSocket cfg choice) := by
  rw [Session.createSocket]
  split
  · split
    · have hcreated : ∀ connectTimeout : Option (ℕ × ℤ),
          (0 < cfg.connectTimeoutMs →
            connectTimeout = some (s.sockets.length, s.now + cfg.connectTimeoutMs)) →
          (∀ timer ∈ connectTimeout, s.now ≤ timer.2) → Watched cfg { s with
            socket := some s.sockets.length
            sockets := s.sockets ++ [⟨WS_READY_STATE_CONNECTING, s.now⟩]
            replaced := s.replaced ++ s.socket.toList
            connectTimeout } := by
        intro connectTimeout hset hdue
        refine ⟨h.watching, h.pending_due, ?_, ?_, ?_, hdue⟩
        · intro b hb hcurrent
          have hlt := h.socket_lt hb
          simp only [Option.some.injEq] at hcurrent
          omega
        · intro b hb
          obtain ⟨so, hso, hopen⟩ := h.sent_open b hb
          exact ⟨so, by rwa [List.getElem?_append_left (h.socket_lt hb)], hopen⟩
        · intro socket so hcurrent hso _ hpos
          simp only [Option.some.injEq] at hcurrent
          subst hcurrent
          simp only [List.getElem?_concat_length, Option.some.injEq] at hso
          subst hso
          exact hset hpos
      simp only [Session.startConnectTimeout]
      split
      · exact hcreated none (fun hpos => absurd hpos (by omega)) (fun _ hmem => by cases hmem)
      · refine hcreated _ (fun _ => rfl) ?_
        intro timer hmem
        cases hmem
        change s.now ≤ s.now + cfg.connectTimeoutMs
        omega
    · exact h.of_same (sameWatch_scheduleReconnect ..)
  · exact h

theorem Watched.resolveHeaders (h : Watched cfg s) :
    Watched cfg (s.resolveHeaders cfg choice).1 := by
  rw [Session.resolveHeaders]
  split
  · exact h
  · exact h.createSocket

theorem Watched.connectSocket (h : Watched cfg s) :
    Watched cfg (s.connectSocket cfg choice).1 := by
  have hcleared : Watched cfg { s with
      reconnectScheduler := s.reconnectScheduler.clear
      metricsTracker :=
        { s.metricsTracker with connectAttempts := s.metricsTracker.connectAttempts + 1 } } :=
    h.of_same ⟨rfl, rfl, rfl, rfl, rfl, rfl, rfl⟩
  rw [Session.connectSocket]
  split
  · exact hcleared
  · exact hcleared.resolveHeaders

/-- **Time passes** up to the first timer. -/
theorem Watched.advance (h : Watched cfg s) {now : ℤ} (hle : s.now ≤ now)
    (hdue : ∀ due ∈ s.dueTimes, now ≤ max s.now due) : Watched cfg { s with now } where
  watching := h.watching.later hle
  pending_due d hd := by
    have hd_now := h.pending_due d hd
    obtain ⟨timer, htimer, hin⟩ := h.watching d hd
    have hmem : timer ∈ s.dueTimes := by
      simp [Session.dueTimes, htimer]
    have hfire := hdue timer hmem
    change now ≤ d
    omega
  tracked := h.tracked
  sent_open := h.sent_open
  connecting := h.connecting
  connect_due timer htimer := by
    have htimer_now := h.connect_due timer htimer
    have hmem : timer.2 ∈ s.dueTimes := by
      have hset : s.connectTimeout = some timer := htimer
      simp [Session.dueTimes, hset]
    have hfire := hdue timer.2 hmem
    change now ≤ timer.2
    omega

/-! ### Sockets that change their state -/

theorem getElem?_setReadyState (s : Session) (socket readyState other : ℕ) :
    (s.setReadyState socket readyState).sockets[other]? =
      if socket = other then s.sockets[other]?.map fun so => { so with readyState }
      else s.sockets[other]? := by
  simp only [Session.setReadyState, List.getElem?_modify]
  split <;> simp

/-- A socket that has left the connecting state does not come back. -/
theorem sent_open_setReadyState (h : Watched cfg s) {readyState : ℕ}
    (hopen : readyState ≠ WS_READY_STATE_CONNECTING) :
    ∀ b ∈ s.heartbeats, ∃ so, (s.setReadyState socket readyState).sockets[b.socket]? = some so ∧
      so.readyState ≠ WS_READY_STATE_CONNECTING := by
  intro b hb
  obtain ⟨so, hso, hold⟩ := h.sent_open b hb
  rw [getElem?_setReadyState, hso]
  split
  · exact ⟨_, rfl, hopen⟩
  · exact ⟨so, rfl, hold⟩

/-- A connecting socket was connecting before, and is not the one that changed. -/
theorem getElem?_of_connecting {readyState other : ℕ} {so : Socket}
    (hopen : readyState ≠ WS_READY_STATE_CONNECTING)
    (hso : (s.setReadyState socket readyState).sockets[other]? = some so)
    (hconnecting : so.readyState = WS_READY_STATE_CONNECTING) :
    socket ≠ other ∧ s.sockets[other]? = some so := by
  rw [getElem?_setReadyState] at hso
  split at hso
  · obtain ⟨old, _, rfl⟩ := Option.map_eq_some_iff.mp hso
    exact absurd hconnecting hopen
  · rename_i hne
    exact ⟨hne, hso⟩

theorem Watched.setReadyState (h : Watched cfg s) {readyState : ℕ}
    (hopen : readyState ≠ WS_READY_STATE_CONNECTING) :
    Watched cfg (s.setReadyState socket readyState) where
  watching := h.watching
  pending_due := h.pending_due
  tracked := h.tracked
  sent_open := sent_open_setReadyState h hopen
  connecting other so hcurrent hso hconnecting :=
    h.connecting other so hcurrent (getElem?_of_connecting hopen hso hconnecting).2 hconnecting
  connect_due := h.connect_due

/-- **The current socket opens.** No heartbeat was sent on it before. -/
theorem Watched.onOpen (h : Watched cfg s)
    (hbefore : s.readyState? socket = some WS_READY_STATE_CONNECTING) :
    Watched cfg ((s.setReadyState socket WS_READY_STATE_OPEN).onOpen cfg socket) := by
  have hopen : WS_READY_STATE_OPEN ≠ WS_READY_STATE_CONNECTING := by decide
  by_cases hcurrent : s.socket = some socket
  · have hcurrent' : (s.setReadyState socket WS_READY_STATE_OPEN).socket = some socket := hcurrent
    rw [Session.onOpen, if_pos hcurrent']
    refine ⟨watching_start, ?_, ?_, sent_open_setReadyState h hopen, ?_, ?_⟩
    · intro d hd
      change d ∈ (s.heartbeatManager.start cfg).deadlines cfg at hd
      rw [deadlines_start] at hd
      cases hd
    · intro b hb hsocket
      have hsame : socket = b.socket := Option.some.inj (hcurrent.symm.trans hsocket)
      obtain ⟨so, hso, hold⟩ := h.sent_open b hb
      rw [Session.readyState?, hsame, hso] at hbefore
      exact absurd (Option.some.inj hbefore) hold
    · intro other so hsocket hso hconnecting _
      have hne := (getElem?_of_connecting hopen hso hconnecting).1
      exact absurd (Option.some.inj (hcurrent.symm.trans hsocket)) hne
    · intro timer htimer
      cases htimer
  · have hcurrent' : (s.setReadyState socket WS_READY_STATE_OPEN).socket ≠ some socket := hcurrent
    rw [Session.onOpen, if_neg hcurrent']
    exact h.setReadyState hopen

/-! ### Heartbeats -/

theorem pending_handleHeartbeatAck {m : ConnectorHeartbeatManager} {now : ℤ} {ackId : JsString} :
    (m.handleHeartbeatAck cfg now ackId).pendingHeartbeatAcks = m.pendingHeartbeatAcks.delete ackId ∨
      (m.handleHeartbeatAck cfg now ackId).pendingHeartbeatAcks = m.pendingHeartbeatAcks := by
  rw [handleHeartbeatAck]
  split
  · exact .inr rfl
  · exact .inl pending_scheduleHeartbeatAckTimeoutCheck

/-- An acknowledgement leaves the other heartbeats pending. -/
theorem get?_handleHeartbeatAck {m : ConnectorHeartbeatManager} {now : ℤ} {ackId id : JsString}
    {sentAt : ℤ} (hne : id ≠ ackId) (h : m.pendingHeartbeatAcks.get? id = some sentAt) :
    (m.handleHeartbeatAck cfg now ackId).pendingHeartbeatAcks.get? id = some sentAt := by
  rcases @pending_handleHeartbeatAck cfg m now ackId with heq | heq
  · rw [heq, OrderedMap.delete, OrderedMap.get?_keep_eq_some]
    exact ⟨h, by simpa using hne⟩
  · rwa [heq]

theorem deadlines_handleHeartbeatAck {m : ConnectorHeartbeatManager} {now : ℤ} {ackId : JsString} :
    ∀ d ∈ (m.handleHeartbeatAck cfg now ackId).deadlines cfg, d ∈ m.deadlines cfg := by
  intro d hd
  rcases @pending_handleHeartbeatAck cfg m now ackId with heq | heq
  · rw [deadlines, heq] at hd
    obtain ⟨sentAt, hsentAt, rfl⟩ := List.mem_map.mp hd
    obtain ⟨entry, hentry, rfl⟩ := List.mem_map.mp hsentAt
    exact List.mem_map_of_mem (List.mem_map_of_mem (List.mem_of_mem_filter hentry))
  · rwa [deadlines, heq] at hd

theorem Watched.onHeartbeatAck (h : Watched cfg s) (hpos : 0 < cfg.heartbeatAckTimeoutMs)
    (ackId : JsString) : Watched cfg (s.onHeartbeatAck cfg socket ackId) := by
  rw [Session.onHeartbeatAck]
  split
  · refine ⟨watching_handleHeartbeatAck hpos h.watching, ?_, ?_, h.sent_open, h.connecting,
      h.connect_due⟩
    · exact fun d hd => h.pending_due d (deadlines_handleHeartbeatAck d hd)
    · intro b hb hcurrent
      by_cases hid : b.id = ackId
      · exact .inl (List.mem_append_right _ (List.mem_singleton.mpr hid))
      · rcases h.tracked b hb hcurrent with hacknowledged | hpending
        · exact .inl (List.mem_append_left _ hacknowledged)
        · exact .inr (get?_handleHeartbeatAck hid hpending)
  · exact h

theorem pending_trackHeartbeatAck {m : ConnectorHeartbeatManager} {now : ℤ} {ackId : JsString}
    (hpos : 0 < cfg.heartbeatAckTimeoutMs) :
    (m.trackHeartbeatAck cfg now ackId).pendingHeartbeatAcks =
      m.pendingHeartbeatAcks.set ackId now := by
  rw [trackHeartbeatAck, if_neg (not_le.mpr hpos)]
  exact pending_scheduleHeartbeatAckTimeoutCheck

/-- **A heartbeat is sent.** Its id is new, so the others stay pending. -/
theorem Watched.onHeartbeatInterval (h : Watched cfg s) (hpos : 0 < cfg.heartbeatAckTimeoutMs)
    {id : JsString} (hnew : ∀ b ∈ s.heartbeats, b.id ≠ id) (isSent : Bool) :
    Watched cfg (s.onHeartbeatInterval cfg id isSent) := by
  rw [Session.onHeartbeatInterval]
  split
  · exact h
  · rename_i current hcurrent
    split
    · rename_i hsent
      obtain ⟨so, hso, hopen⟩ := Option.map_eq_some_iff.mp hsent.1
      have hpending := @pending_trackHeartbeatAck cfg s.heartbeatManager s.now id hpos
      refine ⟨watching_trackHeartbeatAck hpos, ?_, ?_, ?_, h.connecting, h.connect_due⟩
      · intro d hd
        rw [deadlines, hpending] at hd
        obtain ⟨sentAt, hsentAt, rfl⟩ := List.mem_map.mp hd
        obtain ⟨entry, hentry, rfl⟩ := List.mem_map.mp hsentAt
        rcases (OrderedMap.mem_setEntries s.heartbeatManager.pendingHeartbeatAcks.nodup).mp hentry with
          rfl | ⟨hold, _⟩
        · change s.now ≤ s.now + cfg.heartbeatAckTimeoutMs
          omega
        · exact h.pending_due _ (List.mem_map_of_mem (List.mem_map_of_mem hold))
      · intro b hb hsocket
        rcases List.mem_append.mp hb with hold | hlast
        · rcases h.tracked b hold hsocket with hacknowledged | hget
          · exact .inl hacknowledged
          · refine .inr ?_
            rw [hpending, OrderedMap.get?_set_of_ne (hnew b hold)]
            exact hget
        · obtain rfl := List.mem_singleton.mp hlast
          refine .inr ?_
          rw [hpending]
          exact OrderedMap.get?_set_self
      · intro b hb
        rcases List.mem_append.mp hb with hold | hlast
        · exact h.sent_open b hold
        · obtain rfl := List.mem_singleton.mp hlast
          exact ⟨so, hso, by rw [hopen]; decide⟩
    · exact h

/-- **The timer for the acknowledgements goes off.** A report takes the socket away. -/
theorem Watched.handleHeartbeatAckTimeout (h : Watched cfg s) (hwired : Wired s)
    (hpos : 0 < cfg.heartbeatAckTimeoutMs) : Watched cfg (s.handleHeartbeatAckTimeout cfg choice) := by
  have hcases := @handleHeartbeatAckTimeout_cases cfg s.now s.heartbeatManager hpos
  rw [Session.handleHeartbeatAckTimeout]
  split
  · rename_i manager heq
    rw [heq] at hcases
    rcases hcases with ⟨_, hwatching, hpending⟩ | ⟨event, hevent, _⟩
    · refine ⟨hwatching, ?_, ?_, h.sent_open, h.connecting, h.connect_due⟩
      · intro d hd
        change d ∈ manager.deadlines cfg at hd
        rw [deadlines, hpending] at hd
        exact h.pending_due d hd
      · intro b hb hcurrent
        change _ ∨ manager.pendingHeartbeatAcks.get? b.id = some b.sentAt
        rw [hpending]
        exact h.tracked b hb hcurrent
    · cases hevent
  · rename_i manager event heq
    rw [heq] at hcases
    simp only
    split
    · rename_i hnone
      have hquiet := hwired.quiet hnone
      rcases hcases with ⟨hreport, _⟩ | ⟨_, _, d, hd, _⟩
      · cases hreport
      · rw [hquiet.deadlines] at hd
        cases hd
    · rename_i current hcurrent
      split
      · rename_i hdetach
        simp [Session.detachSocket, hcurrent] at hdetach
      · rename_i lost hdetach
        obtain ⟨_, rfl⟩ := detachSocket_eq_some.mp hdetach
        have hlost : Watched cfg ({ s with
            heartbeatManager := manager
            socket := none
            metricsTracker := s.metricsTracker.onSocketDetached s.now } :
              Session).clearSocketState :=
          h.of_none rfl (quiet_stop _) rfl rfl rfl
        exact hlost.closeAndReconnect ..

/-! ### Pieces of code -/

theorem Watched.onConnectTimeout (h : Watched cfg s) :
    Watched cfg (s.onConnectTimeout cfg socket choice) := by
  rw [Session.onConnectTimeout]
  split
  · exact h
  · rename_i hdetach
    exact (h.detachSocket hdetach).closeAndReconnect ..

theorem Watched.onClose (h : Watched cfg s) : Watched cfg (s.onClose cfg socket choice) := by
  rw [Session.onClose]
  split
  · exact h
  · rename_i hdetach
    exact (h.detachSocket hdetach).of_same (sameWatch_scheduleReconnect ..)

theorem Watched.onError (h : Watched cfg s) : Watched cfg (s.onError cfg socket choice) := by
  simp only [Session.onError]
  split
  · exact h
  · split
    · exact h
    · rename_i hdetach
      exact (h.detachSocket hdetach).closeAndReconnect ..

theorem Watched.handleUnexpectedResponse (h : Watched cfg s) (statusCode : Option ℕ) :
    Watched cfg (s.handleUnexpectedResponse cfg socket statusCode choice).1 := by
  rw [Session.handleUnexpectedResponse]
  split
  · exact h
  · rename_i hdetach
    have hlost := h.detachSocket hdetach
    split
    · exact hlost.of_same ⟨rfl, rfl, rfl, rfl, rfl, rfl, rfl⟩
    · exact hlost.closeAndReconnect ..

theorem Watched.disconnect (h : Watched cfg s) : Watched cfg s.disconnect := by
  rw [disconnect_eq]
  exact h.of_none rfl (quiet_stop _) rfl rfl rfl

theorem watched_start {input : Input} (h : Watched cfg s) (hwired : Wired s)
    (hpos : 0 < cfg.heartbeatAckTimeoutMs) (hstart : start cfg s input = some (s', c')) :
    Watched cfg s' := by
  obtain ⟨event, choice⟩ := input
  cases event with
  | connect =>
      simp only [start] at hstart
      split at hstart
      · cases hstart
        exact h
      · have hbegun : Watched cfg { s with started := true, starts := s.starts + 1 } :=
          h.of_same ⟨rfl, rfl, rfl, rfl, rfl, rfl, rfl⟩
        have hafter := @Watched.connectSocket cfg _ choice hbegun
        rwa [Option.some.inj hstart] at hafter
  | disconnect =>
      cases hstart
      exact h.disconnect
  | advance now =>
      simp only [start] at hstart
      split at hstart
      · rename_i hclock
        cases hstart
        exact h.advance hclock.1 hclock.2
      · cases hstart
  | readyStateChanges socket readyState =>
      simp only [start] at hstart
      split at hstart
      · rename_i hclosing
        cases hstart
        exact h.setReadyState (Nat.ne_of_gt (Nat.zero_lt_of_lt hclosing))
      · cases hstart
  | opens socket =>
      simp only [start] at hstart
      split at hstart
      · rename_i hbefore
        cases hstart
        exact h.onOpen hbefore
      · cases hstart
  | heartbeatAckFrame socket ackId =>
      simp only [start] at hstart
      split at hstart
      · cases hstart
        exact h.onHeartbeatAck hpos ackId
      · cases hstart
  | closes socket =>
      simp only [start] at hstart
      split at hstart
      · cases hstart
        have hreported : Watched cfg { s with reportedClosed := s.reportedClosed ++ [socket] } :=
          h.of_same ⟨rfl, rfl, rfl, rfl, rfl, rfl, rfl⟩
        exact hreported.onClose
      · cases hstart
  | errs socket =>
      simp only [start] at hstart
      split at hstart
      · cases hstart
        exact h.onError
      · cases hstart
  | unexpectedResponse socket statusCode =>
      simp only [start] at hstart
      split at hstart
      · have hafter := @Watched.handleUnexpectedResponse cfg s choice socket h statusCode
        rwa [Option.some.inj hstart] at hafter
      · cases hstart
  | connectTimeoutFires =>
      simp only [start] at hstart
      split at hstart
      · split at hstart
        · cases hstart
          exact h.onConnectTimeout
        · cases hstart
      · cases hstart
  | heartbeatIntervalFires id isSent =>
      simp only [start] at hstart
      split at hstart
      · rename_i hnew
        cases hstart
        exact h.onHeartbeatInterval hpos hnew.2 isSent
      · cases hstart
  | heartbeatAckTimeoutFires =>
      simp only [start] at hstart
      split at hstart
      · split at hstart
        · cases hstart
          exact h.handleHeartbeatAckTimeout hwired hpos
        · cases hstart
      · cases hstart
  | reconnectFires =>
      simp only [start] at hstart
      split at hstart
      · split at hstart
        · have hafter := @Watched.connectSocket cfg s choice h
          rwa [Option.some.inj hstart] at hafter
        · cases hstart
      · cases hstart

theorem watched_resume (h : Watched cfg s) (hresume : resume cfg s c choice = some (s', c')) :
    Watched cfg s' := by
  cases c with
  | loadingQueue =>
      have hafter := @Watched.resolveHeaders cfg s choice h
      rwa [Option.some.inj hresume] at hafter
  | resolvingHeaders =>
      cases hresume
      rw [Session.finishHeaders]
      split
      · exact h.createSocket
      · exact h.of_same (sameWatch_scheduleReconnect ..)
  | rejecting socket status immediateRetry =>
      cases hresume
      exact h.closeAndReconnect ..
  | finished => cases hresume

theorem watched_new (now : ℤ) : Watched cfg (.new now) where
  watching := Quiet.watching ⟨rfl, rfl, rfl⟩
  pending_due _ hd := by cases hd
  tracked _ hb := by cases hb
  sent_open _ hb := by cases hb
  connecting _ _ hcurrent := by cases hcurrent
  connect_due _ htimer := by cases htimer

variable {p : Pool Session Call}

theorem watched_run {es : List (Move Input Choice)} {now : ℤ}
    (hpos : 0 < cfg.heartbeatAckTimeoutMs)
    (hrun : exec (client cfg).step (fresh now) es = some p) : Watched cfg p.shared := by
  have hboth := exec_invariant_of_step (fun p => Inv p ∧ Watched cfg p.shared) ?_
    ⟨inv_fresh now, watched_new now⟩ hrun
  · exact hboth.2
  · intro p e q hp h
    refine ⟨inv_step hp.1 h, ?_⟩
    rcases Program.step_cases h with
      ⟨input, s, c, _, hstart, rfl⟩ | ⟨i, choice, c, s, c', _, _, hresume, rfl⟩
    · exact watched_start hp.2 hp.1.wired hpos hstart
    · exact watched_resume hp.2 hresume

/-- **The watchdog.** At any time of a run, a heartbeat that was sent on the current socket is
acknowledged or not yet overdue, and a current socket that has not opened is not overdue either. -/
theorem watchdog_run {es : List (Move Input Choice)} {now : ℤ}
    (hpos : 0 < cfg.heartbeatAckTimeoutMs)
    (hrun : exec (client cfg).step (fresh now) es = some p) :
    (∀ h ∈ p.shared.heartbeats, p.shared.socket = some h.socket →
      h.id ∈ p.shared.acknowledged ∨ p.shared.now ≤ h.sentAt + cfg.heartbeatAckTimeoutMs) ∧
    (∀ socket so, p.shared.socket = some socket → p.shared.sockets[socket]? = some so →
      so.readyState = WS_READY_STATE_CONNECTING → 0 < cfg.connectTimeoutMs →
      p.shared.now ≤ so.createdAt + cfg.connectTimeoutMs) := by
  have hp := watched_run hpos hrun
  constructor
  · intro b hb hcurrent
    rcases hp.tracked b hb hcurrent with hacknowledged | hpending
    · exact .inl hacknowledged
    · refine .inr (hp.pending_due _ ?_)
      have hentry := OrderedMap.get?_eq_some.mp hpending
      exact List.mem_map_of_mem (List.mem_map_of_mem hentry)
  · intro socket so hcurrent hso hconnecting hset
    exact hp.connect_due _ (hp.connecting socket so hcurrent hso hconnecting hset)

/-- The socket opens, and the first heartbeat on it waits for its acknowledgement. -/
def waitingRun : List (Move Input Choice) :=
  [.start ⟨.connect, exampleChoice⟩, .resume 0 exampleChoice, .resume 0 exampleChoice,
    .start ⟨.advance 15000, exampleChoice⟩, .start ⟨.opens 0, exampleChoice⟩,
    .start ⟨.advance 45000, exampleChoice⟩,
    .start ⟨.heartbeatIntervalFires (js "01HF7YAT00W6W7CM7N3W5FDXH1") true, exampleChoice⟩,
    .start ⟨.advance 105000, exampleChoice⟩]

theorem waitingRun_result :
    (exec (client exampleConfig).step (fresh 0) waitingRun).map
      (fun p => (p.shared.socket, p.shared.heartbeats.map Heartbeat.sentAt, p.shared.now)) =
        some (some 0, [45000], 105000) := by
  decide

theorem waitingRun_watched : ∃ p, exec (client exampleConfig).step (fresh 0) waitingRun = some p ∧
    p.shared.now = 105000 ∧
    ∀ h ∈ p.shared.heartbeats, p.shared.socket = some h.socket →
      h.id ∈ p.shared.acknowledged ∨ p.shared.now ≤ h.sentAt + 60000 := by
  obtain ⟨p, hrun, hresult⟩ := Option.map_eq_some_iff.mp waitingRun_result
  exact ⟨p, hrun, (Prod.mk.inj (Prod.mk.inj hresult).2).2, (watchdog_run (by decide) hrun).1⟩

end Clawdentity.Connector.ClientSession
