import Clawdentity.Js.Text
import Clawdentity.Lib.OrderedMap
import Clawdentity.Lib.Timer
import Mathlib.Algebra.Order.Ring.Rat
import Mathlib.Data.Rat.Floor
import Mathlib.Tactic.Linarith
import Mathlib.Tactic.Positivity

/-!
# Heartbeats and reconnects of the connector client

The two parts of the client that run on timers. The heartbeat manager remembers when each heartbeat
without an acknowledgement was sent, and has a timer for the oldest of them. The scheduler starts a
new connection after a delay, which grows with the attempts and is jittered.

A timer is the time at which it goes off. Numbers are exact.

## Main definitions

* `computeJitteredBackoffDelayMs`, `ConnectorReconnectScheduler` — the delays, and their timer.
* `ConnectorHeartbeatManager` — the heartbeats, with the timer for their acknowledgements.
* `Watching` — the timer goes off by the time at which the oldest heartbeat is overdue.
* `watching_scheduleHeartbeatAckTimeoutCheck` — every check sets it so.
-/

namespace Clawdentity.Connector.ClientSession

open Js Lib

/-- What the client computes from its options. -/
structure Config where
  connectTimeoutMs : ℤ
  heartbeatIntervalMs : ℚ
  heartbeatAckTimeoutMs : ℤ
  reconnectMinDelayMs : ℚ
  reconnectMaxDelayMs : ℚ
  reconnectBackoffFactor : ℚ
  reconnectJitterRatio : ℚ
  hasOutboundQueuePersistence : Bool
  hasConnectionHeadersProvider : Bool

def DEFAULT_CONNECT_TIMEOUT_MS : ℚ := 15000
def DEFAULT_HEARTBEAT_INTERVAL_MS : ℚ := 30000
def DEFAULT_HEARTBEAT_ACK_TIMEOUT_MS : ℚ := 60000
def DEFAULT_RECONNECT_MIN_DELAY_MS : ℚ := 1000
def DEFAULT_RECONNECT_MAX_DELAY_MS : ℚ := 30000
def DEFAULT_RECONNECT_BACKOFF_FACTOR : ℚ := 2
def DEFAULT_RECONNECT_JITTER_RATIO : ℚ := 1 / 5

structure ConnectorClientOptions where
  connectTimeoutMs : Option ℚ
  heartbeatIntervalMs : Option ℚ
  heartbeatAckTimeoutMs : Option ℚ
  reconnectMinDelayMs : Option ℚ
  reconnectMaxDelayMs : Option ℚ
  reconnectBackoffFactor : Option ℚ
  reconnectJitterRatio : Option ℚ
  hasOutboundQueuePersistence : Bool
  hasConnectionHeadersProvider : Bool

/-- The constructor of the client. -/
def Config.ofOptions (options : ConnectorClientOptions) : Config where
  connectTimeoutMs := max 0 ⌊options.connectTimeoutMs.getD DEFAULT_CONNECT_TIMEOUT_MS⌋
  heartbeatIntervalMs := options.heartbeatIntervalMs.getD DEFAULT_HEARTBEAT_INTERVAL_MS
  heartbeatAckTimeoutMs :=
    max 0 ⌊options.heartbeatAckTimeoutMs.getD DEFAULT_HEARTBEAT_ACK_TIMEOUT_MS⌋
  reconnectMinDelayMs := options.reconnectMinDelayMs.getD DEFAULT_RECONNECT_MIN_DELAY_MS
  reconnectMaxDelayMs := options.reconnectMaxDelayMs.getD DEFAULT_RECONNECT_MAX_DELAY_MS
  reconnectBackoffFactor := options.reconnectBackoffFactor.getD DEFAULT_RECONNECT_BACKOFF_FACTOR
  reconnectJitterRatio := options.reconnectJitterRatio.getD DEFAULT_RECONNECT_JITTER_RATIO
  hasOutboundQueuePersistence := options.hasOutboundQueuePersistence
  hasConnectionHeadersProvider := options.hasConnectionHeadersProvider

/-! ## Reconnects -/

/-- The delay before the jitter. -/
def Config.boundedDelay (cfg : Config) (attempt : ℕ) : ℚ :=
  min (cfg.reconnectMinDelayMs * cfg.reconnectBackoffFactor ^ attempt) cfg.reconnectMaxDelayMs

/-- `random` is what `random()` answers. -/
def computeJitteredBackoffDelayMs (cfg : Config) (attempt : ℕ) (random : ℚ) : ℤ :=
  let boundedDelay := cfg.boundedDelay attempt
  let jitterRange := boundedDelay * cfg.reconnectJitterRatio
  let jitterOffset := if jitterRange = 0 then 0 else (random * 2 - 1) * jitterRange
  max 0 ⌊boundedDelay + jitterOffset⌋

structure ConnectorReconnectScheduler where
  attempt : ℕ
  timeout : Option ℤ

/-- The options of a call of `schedule`. -/
structure ScheduleOptions where
  delayMs : Option ℚ
  incrementAttempt : Option Bool

/-- The delay that `schedule` takes. -/
def ConnectorReconnectScheduler.delayMs (cfg : Config) (r : ConnectorReconnectScheduler)
    (options : ScheduleOptions) (random : ℚ) : ℤ :=
  match options.delayMs with
  | some delayMs => max 0 ⌊delayMs⌋
  | none => computeJitteredBackoffDelayMs cfg r.attempt random

def ConnectorReconnectScheduler.schedule (cfg : Config) (now : ℤ) (r : ConnectorReconnectScheduler)
    (options : ScheduleOptions) (random : ℚ) : ConnectorReconnectScheduler where
  attempt := if options.incrementAttempt.getD true then r.attempt + 1 else r.attempt
  timeout := some (now + r.delayMs cfg options random)

def ConnectorReconnectScheduler.clear (r : ConnectorReconnectScheduler) :
    ConnectorReconnectScheduler := { r with timeout := none }

def ConnectorReconnectScheduler.resetAttempts (r : ConnectorReconnectScheduler) :
    ConnectorReconnectScheduler := { r with attempt := 0 }

/-- The settings make sense: no number is negative. -/
structure Config.Sensible (cfg : Config) : Prop where
  min_nonneg : 0 ≤ cfg.reconnectMinDelayMs
  max_nonneg : 0 ≤ cfg.reconnectMaxDelayMs
  factor_nonneg : 0 ≤ cfg.reconnectBackoffFactor
  jitter_nonneg : 0 ≤ cfg.reconnectJitterRatio

theorem Config.Sensible.boundedDelay_nonneg {cfg : Config} (h : cfg.Sensible) (attempt : ℕ) :
    0 ≤ cfg.boundedDelay attempt :=
  le_min (mul_nonneg h.min_nonneg (pow_nonneg h.factor_nonneg attempt)) h.max_nonneg

/-- **The jitter keeps the delay** within its ratio of the delay before it. -/
theorem computeJitteredBackoffDelayMs_spec {cfg : Config} (h : cfg.Sensible) (attempt : ℕ)
    {random : ℚ} (hzero : 0 ≤ random) (hone : random ≤ 1) :
    ⌊cfg.boundedDelay attempt * (1 - cfg.reconnectJitterRatio)⌋ ≤
        computeJitteredBackoffDelayMs cfg attempt random ∧
      computeJitteredBackoffDelayMs cfg attempt random ≤
        ⌊cfg.boundedDelay attempt * (1 + cfg.reconnectJitterRatio)⌋ := by
  have hdelay := h.boundedDelay_nonneg attempt
  have hrange : 0 ≤ cfg.boundedDelay attempt * cfg.reconnectJitterRatio :=
    mul_nonneg hdelay h.jitter_nonneg
  have hoffset : ∀ offset, offset = (if cfg.boundedDelay attempt * cfg.reconnectJitterRatio = 0
      then 0 else (random * 2 - 1) * (cfg.boundedDelay attempt * cfg.reconnectJitterRatio)) →
      -(cfg.boundedDelay attempt * cfg.reconnectJitterRatio) ≤ offset ∧
        offset ≤ cfg.boundedDelay attempt * cfg.reconnectJitterRatio := by
    intro offset hoffset
    split at hoffset
    · subst hoffset
      constructor <;> linarith
    · subst hoffset
      constructor <;> nlinarith
  obtain ⟨hlow, hhigh⟩ := hoffset _ rfl
  simp only [computeJitteredBackoffDelayMs]
  constructor
  · apply le_max_of_le_right
    apply Int.floor_le_floor
    linarith
  · apply max_le
    · apply Int.floor_nonneg.mpr
      linarith
    · apply Int.floor_le_floor
      linarith

/-! ## Heartbeats -/

structure HeartbeatAckTimeoutEvent where
  pendingCount : ℕ
  oldestPendingAgeMs : ℤ
  timeoutMs : ℤ
  deriving DecidableEq

structure ConnectorHeartbeatManager where
  /-- Whether the interval runs. -/
  heartbeatInterval : Bool
  heartbeatAckTimeout : Option ℤ
  /-- The ids of the heartbeats, with the times at which they were sent. -/
  pendingHeartbeatAcks : OrderedMap JsString ℤ
  heartbeatRttSampleCount : ℕ
  heartbeatRttTotalMs : ℤ
  heartbeatRttMaxMs : ℤ
  heartbeatRttLastMs : Option ℤ

namespace ConnectorHeartbeatManager

def new : ConnectorHeartbeatManager where
  heartbeatInterval := false
  heartbeatAckTimeout := none
  pendingHeartbeatAcks := .empty
  heartbeatRttSampleCount := 0
  heartbeatRttTotalMs := 0
  heartbeatRttMaxMs := 0
  heartbeatRttLastMs := none

def stop (m : ConnectorHeartbeatManager) : ConnectorHeartbeatManager :=
  { m with heartbeatInterval := false, heartbeatAckTimeout := none, pendingHeartbeatAcks := .empty }

def start (cfg : Config) (m : ConnectorHeartbeatManager) : ConnectorHeartbeatManager :=
  if cfg.heartbeatIntervalMs ≤ 0 then m.stop else { m.stop with heartbeatInterval := true }

/-- There is none only if nothing is pending. -/
def getOldestPendingSentAtMs (m : ConnectorHeartbeatManager) : Option ℤ :=
  m.pendingHeartbeatAcks.values.min?

def scheduleHeartbeatAckTimeoutCheck (cfg : Config) (now : ℤ) (m : ConnectorHeartbeatManager) :
    ConnectorHeartbeatManager :=
  match m.getOldestPendingSentAtMs with
  | none => { m with heartbeatAckTimeout := none }
  | some oldestSentAt =>
    if cfg.heartbeatAckTimeoutMs ≤ 0 then { m with heartbeatAckTimeout := none }
    else
      let elapsedMs := now - oldestSentAt
      let delayMs := max 0 (cfg.heartbeatAckTimeoutMs - elapsedMs)
      { m with heartbeatAckTimeout := some (now + delayMs) }

def trackHeartbeatAck (cfg : Config) (now : ℤ) (m : ConnectorHeartbeatManager) (ackId : JsString) :
    ConnectorHeartbeatManager :=
  if cfg.heartbeatAckTimeoutMs ≤ 0 then m
  else
    { m with pendingHeartbeatAcks := m.pendingHeartbeatAcks.set ackId now
      }.scheduleHeartbeatAckTimeoutCheck cfg now

def handleHeartbeatAck (cfg : Config) (now : ℤ) (m : ConnectorHeartbeatManager) (ackId : JsString) :
    ConnectorHeartbeatManager :=
  match m.pendingHeartbeatAcks.get? ackId with
  | none => m
  | some sentAtMs =>
    let rttMs := max 0 (now - sentAtMs)
    { m with
      pendingHeartbeatAcks := m.pendingHeartbeatAcks.delete ackId
      heartbeatRttSampleCount := m.heartbeatRttSampleCount + 1
      heartbeatRttTotalMs := m.heartbeatRttTotalMs + rttMs
      heartbeatRttMaxMs := max m.heartbeatRttMaxMs rttMs
      heartbeatRttLastMs := some rttMs }.scheduleHeartbeatAckTimeoutCheck cfg now

/-- The timer goes off: `heartbeatAckTimeout` is cleared, and either checked again or reported. -/
def handleHeartbeatAckTimeout (cfg : Config) (now : ℤ) (m : ConnectorHeartbeatManager) :
    ConnectorHeartbeatManager × Option HeartbeatAckTimeoutEvent :=
  let m := { m with heartbeatAckTimeout := none }
  match m.getOldestPendingSentAtMs with
  | none => (m, none)
  | some oldestSentAt =>
    let oldestPendingAgeMs := now - oldestSentAt
    if oldestPendingAgeMs < cfg.heartbeatAckTimeoutMs then
      (m.scheduleHeartbeatAckTimeoutCheck cfg now, none)
    else
      (m, some ⟨m.pendingHeartbeatAcks.size, oldestPendingAgeMs, cfg.heartbeatAckTimeoutMs⟩)

structure MetricsSnapshot where
  pendingAckCount : ℕ
  sampleCount : ℕ
  lastRttMs : Option ℤ
  maxRttMs : Option ℤ
  avgRttMs : Option ℤ

def getMetricsSnapshot (m : ConnectorHeartbeatManager) : MetricsSnapshot where
  pendingAckCount := m.pendingHeartbeatAcks.size
  sampleCount := m.heartbeatRttSampleCount
  lastRttMs := m.heartbeatRttLastMs
  maxRttMs := if 0 < m.heartbeatRttSampleCount then some m.heartbeatRttMaxMs else none
  avgRttMs :=
    if 0 < m.heartbeatRttSampleCount then
      some ⌊(m.heartbeatRttTotalMs : ℚ) / m.heartbeatRttSampleCount⌋
    else none

/-- Nothing is set and nothing is pending. -/
structure Quiet (m : ConnectorHeartbeatManager) : Prop where
  interval_off : m.heartbeatInterval = false
  timeout_off : m.heartbeatAckTimeout = none
  nothing_pending : m.pendingHeartbeatAcks.entries = []

theorem quiet_stop (m : ConnectorHeartbeatManager) : m.stop.Quiet := ⟨rfl, rfl, rfl⟩

/-! ### The timer for the acknowledgements -/

variable {cfg : Config} {now now' : ℤ} {m : ConnectorHeartbeatManager} {ackId : JsString}

/-- When each pending heartbeat is overdue. -/
def deadlines (cfg : Config) (m : ConnectorHeartbeatManager) : List ℤ :=
  m.pendingHeartbeatAcks.values.map (· + cfg.heartbeatAckTimeoutMs)

/-- The timer goes off by the time at which the oldest heartbeat is overdue. -/
def Watching (cfg : Config) (now : ℤ) (m : ConnectorHeartbeatManager) : Prop :=
  Timer.InTime m.heartbeatAckTimeout now (m.deadlines cfg)

theorem Quiet.deadlines (h : m.Quiet) : m.deadlines cfg = [] := by
  simp [ConnectorHeartbeatManager.deadlines, OrderedMap.values, h.nothing_pending]

theorem Quiet.watching (h : m.Quiet) : m.Watching cfg now := by
  intro d hd
  rw [h.deadlines] at hd
  cases hd

theorem Watching.later (h : m.Watching cfg now) (hle : now ≤ now') : m.Watching cfg now' :=
  Timer.InTime.later h hle

@[simp] theorem pending_scheduleHeartbeatAckTimeoutCheck :
    (m.scheduleHeartbeatAckTimeoutCheck cfg now).pendingHeartbeatAcks = m.pendingHeartbeatAcks := by
  rw [scheduleHeartbeatAckTimeoutCheck]
  split
  · rfl
  · split <;> rfl

/-- **Every check sets the timer** for the oldest heartbeat. -/
theorem watching_scheduleHeartbeatAckTimeoutCheck (hpos : 0 < cfg.heartbeatAckTimeoutMs) :
    (m.scheduleHeartbeatAckTimeoutCheck cfg now).Watching cfg now := by
  intro d hd
  rw [deadlines, pending_scheduleHeartbeatAckTimeoutCheck] at hd
  obtain ⟨sentAt, hsentAt, rfl⟩ := List.mem_map.mp hd
  obtain ⟨oldest, holdest, _, hle⟩ := Timer.min?_spec hsentAt
  have hget : m.getOldestPendingSentAtMs = some oldest := holdest
  simp only [scheduleHeartbeatAckTimeoutCheck, hget, if_neg (not_le.mpr hpos)]
  refine ⟨_, rfl, ?_⟩
  omega

theorem watching_start : (m.start cfg).Watching cfg now := by
  have hquiet : (m.start cfg).pendingHeartbeatAcks.entries = [] := by
    rw [start]
    split <;> rfl
  intro d hd
  simp [deadlines, OrderedMap.values, hquiet] at hd

theorem watching_trackHeartbeatAck (hpos : 0 < cfg.heartbeatAckTimeoutMs) :
    (m.trackHeartbeatAck cfg now ackId).Watching cfg now := by
  rw [trackHeartbeatAck, if_neg (not_le.mpr hpos)]
  exact watching_scheduleHeartbeatAckTimeoutCheck hpos

theorem watching_handleHeartbeatAck (hpos : 0 < cfg.heartbeatAckTimeoutMs)
    (h : m.Watching cfg now) : (m.handleHeartbeatAck cfg now ackId).Watching cfg now := by
  rw [handleHeartbeatAck]
  split
  · exact h
  · exact watching_scheduleHeartbeatAckTimeoutCheck hpos

/-- **The timer goes off.** It is set again for what is pending, or there is a report, and then
some heartbeat really is overdue. -/
theorem handleHeartbeatAckTimeout_cases (hpos : 0 < cfg.heartbeatAckTimeoutMs) :
    ((m.handleHeartbeatAckTimeout cfg now).2 = none ∧
      (m.handleHeartbeatAckTimeout cfg now).1.Watching cfg now ∧
      (m.handleHeartbeatAckTimeout cfg now).1.pendingHeartbeatAcks = m.pendingHeartbeatAcks) ∨
    ∃ event, (m.handleHeartbeatAckTimeout cfg now).2 = some event ∧
      ∃ d ∈ m.deadlines cfg, d ≤ now := by
  rw [handleHeartbeatAckTimeout]
  cases holdest : getOldestPendingSentAtMs { m with heartbeatAckTimeout := none } with
  | none =>
      refine .inl ⟨rfl, ?_, rfl⟩
      intro d hd
      obtain ⟨sentAt, hsentAt, _⟩ := List.mem_map.mp hd
      obtain ⟨oldest, hmin, _⟩ := Timer.min?_spec hsentAt
      cases hmin.symm.trans holdest
  | some oldest =>
      simp only
      split
      · exact .inl ⟨rfl, watching_scheduleHeartbeatAckTimeoutCheck hpos,
          pending_scheduleHeartbeatAckTimeoutCheck⟩
      · rename_i hold
        refine .inr ⟨_, rfl, oldest + cfg.heartbeatAckTimeoutMs, ?_, by omega⟩
        exact List.mem_map_of_mem (List.min?_mem holdest)

end ConnectorHeartbeatManager

end Clawdentity.Connector.ClientSession
