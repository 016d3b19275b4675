import Clawdentity.Lib.Timer
import Clawdentity.Proxy.Relay.Exits
import Clawdentity.Proxy.Relay.Idempotence
import Clawdentity.Proxy.Relay.Inputs

/-!
# The wake-up of the queue

The storage of a session has one alarm. The runtime runs `alarm` at its time or later and
clears it, and each piece of code that stores a queue sets it again. The code that answers
from a receipt, that fails, that looks up a receipt or that only prunes leaves it as it
was, and so does a message whose answer cannot be sent.

## Main definitions

* `Operation`, `lifecycle` — everything that runs in a session, with its alarm.
* `Session.WakesUp` — the alarm is in time for every delivery in storage.
* `relay_queue_wakes_up` — it is, whenever every call has returned.
-/

namespace Clawdentity.Relay

open Js Lib Connector Lib.Interleave Lib.Run Lib.Timer

/-! ## Operations -/

/-- What runs in a session. A connection is `drainQueueOnReconnect` and
`drainReceiptFramesOnReconnect`; a closed or broken socket is `scheduleFromStorage`. -/
inductive Operation
  | request (request : Request)
  | drainReceiptFramesOnReconnect (frameIds : ℕ → JsString) (values : List RelayDeliveryReceipt)
  | webSocketMessage (onEnqueueFrame : EnqueueFrame → EnqueueResult) (message : SocketMessage)

/-- The runtime runs the alarm at its time or later, and clears it. -/
def Session.fire (s : Session) (nowMs : ℚ) : Option Session :=
  (s.alarmAt.filter fun t => decide (t ≤ nowMs)).map fun _ => { s with alarmAt := none }

section Code
variable (rt : Runtime) (policy : RelayDeliveryPolicy)

/-- `webSocketMessage`: the message is handled, and the alarm is set from storage, unless
`ws.send` has thrown. An acknowledgement settles the call that waits for it. -/
def webSocketMessage (s : Session) (onEnqueueFrame : EnqueueFrame → EnqueueResult)
    (message : SocketMessage) (env : Env) : Session × Call :=
  match handleRelayWebSocketMessage rt policy onEnqueueFrame message env with
  | .send frame =>
      if frame.isSome ∧ env.sendOk = true then scheduleFromStorage s env
      else (s, .returned .threw)
  | _ => scheduleFromStorage s env

/-- An operation up to its first await. -/
def operate (s : Session) (operation : Operation) (env : Env) : Option (Session × Call) :=
  match operation with
  | .request .alarm => (s.fire env.nowMs).map fun s => handle rt policy s .alarm env
  | .request request => some (handle rt policy s request env)
  | .drainReceiptFramesOnReconnect frameIds values =>
      some (drainReceiptFramesOnReconnect rt s env frameIds values)
  | .webSocketMessage onEnqueueFrame message =>
      some (webSocketMessage rt policy s onEnqueueFrame message env)

/-- The operations of a session, of which the alarm runs when it is due. -/
def lifecycle : Program Session Call (Operation × Env) Choice where
  start s arg := (s.tick arg.2.nowMs).bind fun s => operate rt policy s arg.1 arg.2
  resume := (program rt policy).resume

end Code

/-! ## Wake-ups -/

/-- The times at which the deliveries in the queue are due. -/
def RelayQueueState.dueTimes (q : RelayQueueState) : List ℚ :=
  q.deliveries.map fun d => d.nextAttemptAtMs

/-- The alarm is in time for every delivery in storage. -/
def Session.WakesUp (s : Session) : Prop := InTime s.alarmAt (s.clock + 1) s.queue.dueTimes

/-- A call of the queue's loop, at the end of which the alarm is set. -/
def Call.isProcessing : Call → Bool
  | .processing _ _ => true
  | _ => false

section
variable {rt : Runtime} {policy : RelayDeliveryPolicy} {env : Env} {nowMs : ℚ} {s t : Session}
  {q q' : RelayQueueState} {r : Session × Call} {deliveryId : JsString}

/-- **The alarm that is set for a queue is in time for it.** -/
theorem scheduleNextAlarm_inTime (s : Session) (q : RelayQueueState) (nowMs : ℚ) (sockets : ℕ) :
    InTime (s.scheduleNextAlarm q nowMs sockets).alarmAt (nowMs + 1) q.dueTimes := by
  apply inTime_min?
  intro due hdue
  obtain ⟨d, hd, rfl⟩ := List.mem_map.mp hdue
  have hmem : max (nowMs + 1) d.nextAttemptAtMs ∈
      q.deliveries.map fun d => max (nowMs + 1) d.nextAttemptAtMs := List.mem_map_of_mem hd
  obtain ⟨wake, hwake, _, hle⟩ := min?_spec hmem
  exact ⟨wake, List.mem_append_left _ (Option.mem_toList.mpr hwake), hle⟩

/-- The stored queue is the one that the alarm was set for, perhaps in another order. -/
theorem wakesUp_of_scheduled {s' : Session} {sockets : ℕ}
    (hqueue : ∀ due ∈ s'.queue.dueTimes, due ∈ q.dueTimes)
    (halarm : s'.alarmAt = (s.scheduleNextAlarm q nowMs sockets).alarmAt)
    (hnow : nowMs ≤ s'.clock) : s'.WakesUp := by
  have hintime := scheduleNextAlarm_inTime s q nowMs sockets
  rw [← halarm] at hintime
  exact (hintime.subset hqueue).later (add_le_add hnow (le_refl 1))

/-- Storage with fewer deliveries and a later clock needs no other alarm. -/
theorem Session.WakesUp.mono (hs : s.WakesUp) (halarm : t.alarmAt = s.alarmAt)
    (hclock : s.clock ≤ t.clock) (hqueue : ∀ due ∈ t.queue.dueTimes, due ∈ s.queue.dueTimes) :
    t.WakesUp := by
  have hintime : InTime t.alarmAt (s.clock + 1) s.queue.dueTimes := halarm ▸ hs
  exact (hintime.subset hqueue).later (add_le_add hclock (le_refl 1))

theorem Session.WakesUp.of_stored (hs : s.WakesUp) (hstored : t.stored = s.stored)
    (halarm : t.alarmAt = s.alarmAt) (hclock : s.clock ≤ t.clock) : t.WakesUp := by
  refine hs.mono halarm hclock fun due hdue => ?_
  rwa [Session.queue, hstored] at hdue

theorem load_unchanged (s : Session) (nowMs : ℚ) :
    (s.loadQueueState nowMs).1.alarmAt = s.alarmAt ∧
      (s.loadQueueState nowMs).1.clock = s.clock := by
  unfold Session.loadQueueState
  cases hprunes : (RelayQueueState.decode s.stored).prunes nowMs <;>
    simp [hprunes, Session.saveQueueState]

/-- **Pruning needs no other alarm.** -/
theorem Session.WakesUp.load (hs : s.WakesUp) (nowMs : ℚ) : (s.loadQueueState nowMs).1.WakesUp := by
  obtain ⟨halarm, hclock⟩ := load_unchanged s nowMs
  refine hs.mono halarm hclock.ge fun due hdue => ?_
  rw [Session.queue_load] at hdue
  obtain ⟨d, hd, rfl⟩ := List.mem_map.mp hdue
  exact List.mem_map_of_mem (List.mem_of_mem_filter hd)

/-! ## Moves -/

/-- What a move guarantees from a state, for the call that it goes on with. -/
structure MoveWakes (s : Session) (wakes : Prop) (r : Session × Call) : Prop where
  wakes : wakes → r.1.WakesUp ∨ r.2.isProcessing = true
  clock : r.1.clock = s.clock
  times : ∀ u, r.2.nowMs = some u → u ≤ s.clock

/-- **The loop of the queue ends with the alarm set**, whatever it was before. -/
theorem processed_wakes (he : Processed policy env nowMs s q r) (hnow : nowMs ≤ s.clock) :
    MoveWakes s True r := by
  cases he with
  | saved hedits hstored halarm hclock =>
      refine ⟨fun _ => .inl (wakesUp_of_scheduled ?_ halarm (hclock ▸ hnow)), hclock,
        fun u hu => by cases hu⟩
      rw [Session.queue_of_stored hstored]
      exact fun due hdue => hdue
  | @unsaved s' response q' hloaded hperm hstored halarm hclock =>
      refine ⟨fun _ => .inl (wakesUp_of_scheduled ?_ halarm (hclock ▸ hnow)), hclock,
        fun u hu => by cases hu⟩
      intro due hdue
      have hqueue : s'.queue = q := by rw [← hloaded, Session.queue, Session.queue, hstored]
      rw [hqueue] at hdue
      exact (hperm.map fun d => d.nextAttemptAtMs).mem_iff.mpr hdue
  | @waiting s' call await hedits hcall hstored halarm hclock =>
      refine ⟨fun _ => .inr rfl, hclock, ?_⟩
      intro u hu
      cases hu
      exact hcall ▸ hnow

theorem exit_wakes (he : Exit policy env nowMs deliveryId s q r) (hnow : nowMs ≤ s.clock) :
    MoveWakes s s.WakesUp r := by
  cases he with
  | answered hstored halarm hclock =>
      exact ⟨fun hs => .inl (hs.of_stored hstored halarm hclock.ge), hclock,
        fun u hu => by cases hu⟩
  | written hrewrites hstored halarm hclock =>
      refine ⟨fun _ => .inl (wakesUp_of_scheduled ?_ halarm (hclock ▸ hnow)), hclock,
        fun u hu => by cases hu⟩
      rw [Session.queue_of_stored hstored]
      exact fun due hdue => hdue
  | @delivering s' call await hid hsnapshot hcall hstored halarm hclock =>
      refine ⟨fun hs => .inl (hs.of_stored hstored halarm hclock.ge), hclock, ?_⟩
      intro u hu
      cases hu
      exact hcall ▸ hnow
  | processed h =>
      have hprocessed := processed_wakes h hnow
      exact ⟨fun _ => hprocessed.wakes trivial, hprocessed.clock, hprocessed.times⟩

/-- A piece of code that starts by loading the queue. -/
theorem MoveWakes.of_load (h : MoveWakes (s.loadQueueState nowMs).1
    (s.loadQueueState nowMs).1.WakesUp r) : MoveWakes s s.WakesUp r := by
  have hclock := (load_unchanged s nowMs).2
  refine ⟨fun hs => h.wakes (hs.load nowMs), h.clock.trans hclock, ?_⟩
  rw [← hclock]
  exact h.times

theorem handle_wakes {request : Request} (hnow : env.nowMs = s.clock) :
    MoveWakes s s.WakesUp (handle rt policy s request env) := by
  refine .of_load (exit_wakes (handle_exit rt policy s request env) ?_)
  rw [(load_unchanged s env.nowMs).2, hnow]

/-- The alarm is set at the end of the call that it has started. -/
theorem alarm_wakes (rt : Runtime) (policy : RelayDeliveryPolicy)
    (hnow : env.nowMs = s.clock) : MoveWakes s True (alarm rt policy s env) := by
  have hclock := (load_unchanged s env.nowMs).2
  have hprocessed := processed_wakes (alarm_processed rt policy s env) (by rw [hclock, hnow])
  refine ⟨hprocessed.wakes, hprocessed.clock.trans hclock, ?_⟩
  rw [← hclock]
  exact hprocessed.times

/-- Pushing a frame fails, or it changes only the history. -/
theorem pushReceiptFrame_cases (rt : Runtime) (s : Session) (input : RelayReceiptRecordInput)
    (env : Env) : pushReceiptFrameToActiveSockets rt s input env = (s, .returned .threw) ∨
      ∃ history, pushReceiptFrameToActiveSockets rt s input env =
        ({ s with history }, .returned .done) := by
  unfold pushReceiptFrameToActiveSockets
  split
  · exact .inl rfl
  · exact .inr ⟨_, rfl⟩

theorem drainReceipts_unchanged (rt : Runtime) (env : Env) (values : List RelayDeliveryReceipt) :
    ∀ (frameIds : ℕ → JsString) (s : Session),
      (drainReceipts rt env frameIds values s).1.stored = s.stored ∧
        (drainReceipts rt env frameIds values s).1.alarmAt = s.alarmAt ∧
        (drainReceipts rt env frameIds values s).1.clock = s.clock ∧
        ∃ response, (drainReceipts rt env frameIds values s).2 = .returned response := by
  induction values with
  | nil => exact fun _ _ => ⟨rfl, rfl, rfl, _, rfl⟩
  | cons receipt rest ih =>
      intro frameIds s
      unfold drainReceipts
      cases hstatus : receipt.pushedStatus env.nowMs with
      | none => exact ih frameIds s
      | some status =>
          rcases pushReceiptFrame_cases rt s (receipt.toRecordInput status)
              { env with frameId := frameIds 0 } with hpush | ⟨history, hpush⟩
          · simp only [hpush, if_true]
            exact ⟨trivial, trivial, trivial, _, rfl⟩
          · simp only [hpush, Call.returned.injEq, reduceCtorEq, if_false]
            exact ih _ _

/-- A piece of code that returns and touches neither the storage nor the alarm. -/
theorem moveWakes_unchanged {response : Response} (hstored : r.1.stored = s.stored)
    (halarm : r.1.alarmAt = s.alarmAt) (hclock : r.1.clock = s.clock)
    (hcall : r.2 = .returned response) : MoveWakes s s.WakesUp r := by
  refine ⟨fun hs => .inl (hs.of_stored hstored halarm hclock.ge), hclock, ?_⟩
  intro u hu
  rw [hcall] at hu
  cases hu

theorem drainReceiptFrames_wakes (frameIds : ℕ → JsString) (values : List RelayDeliveryReceipt) :
    MoveWakes s s.WakesUp (drainReceiptFramesOnReconnect rt s env frameIds values) := by
  unfold drainReceiptFramesOnReconnect
  by_cases hsockets : env.sockets = 0
  · rw [if_pos hsockets]
    exact moveWakes_unchanged rfl rfl rfl rfl
  rw [if_neg hsockets]
  obtain ⟨hstored, halarm, hclock, response, hcall⟩ :=
    drainReceipts_unchanged rt env values frameIds (s.loadQueueState env.nowMs).1
  exact .of_load (moveWakes_unchanged hstored halarm hclock hcall)

/-- A message is handled like a request to set the alarm, or it changes nothing. -/
theorem webSocketMessage_cases (rt : Runtime) (policy : RelayDeliveryPolicy) (s : Session)
    (onEnqueueFrame : EnqueueFrame → EnqueueResult) (message : SocketMessage) (env : Env) :
    webSocketMessage rt policy s onEnqueueFrame message env =
        handle rt policy s .scheduleFromStorage env ∨
      webSocketMessage rt policy s onEnqueueFrame message env = (s, .returned .threw) := by
  unfold webSocketMessage
  split
  · split
    · exact .inl rfl
    · exact .inr rfl
  · exact .inl rfl

/-- **An operation up to its first await.** -/
theorem operate_wakes {operation : Operation} (hnow : env.nowMs = s.clock)
    (h : operate rt policy s operation env = some r) : MoveWakes s s.WakesUp r := by
  cases operation with
  | request request =>
      cases request with
      | alarm =>
          obtain ⟨fired, hfire, rfl⟩ := Option.map_eq_some_iff.mp h
          obtain ⟨_, _, rfl⟩ := Option.map_eq_some_iff.mp hfire
          have halarm : MoveWakes { s with alarmAt := none } True
              (alarm rt policy { s with alarmAt := none } env) := alarm_wakes rt policy hnow
          exact ⟨fun _ => halarm.wakes trivial, halarm.clock, halarm.times⟩
      | deliverToConnector input => cases h; exact handle_wakes hnow
      | recordDeliveryReceipt input => cases h; exact handle_wakes hnow
      | getDeliveryReceipt input => cases h; exact handle_wakes hnow
      | drainQueueOnReconnect => cases h; exact handle_wakes hnow
      | scheduleFromStorage => cases h; exact handle_wakes hnow
  | drainReceiptFramesOnReconnect frameIds values =>
      cases h
      exact drainReceiptFrames_wakes frameIds values
  | webSocketMessage onEnqueueFrame message =>
      cases h
      rcases webSocketMessage_cases rt policy s onEnqueueFrame message env with hm | hm <;> rw [hm]
      · exact handle_wakes hnow
      · exact moveWakes_unchanged rfl rfl rfl rfl

theorem tick_wakes (h : s.tick nowMs = some t) (hs : s.WakesUp) : t.WakesUp := by
  obtain ⟨hstored, halarm, hclock, hle⟩ := tick_unchanged h
  exact hs.of_stored hstored halarm (hclock ▸ hle)

/-- **A call after an await.** The loop of the queue need not find the alarm set. -/
theorem resume_wakes {c : Call} {choice : Choice} (htimes : ∀ u, c.nowMs = some u → u ≤ s.clock)
    (h : (program rt policy).resume s c choice = some r) :
    (s.WakesUp ∨ c.isProcessing = true → r.1.WakesUp ∨ r.2.isProcessing = true) ∧
      s.clock ≤ r.1.clock ∧ ∀ u, r.2.nowMs = some u → u ≤ r.1.clock := by
  cases choice with
  | settle outcome =>
      match c, h with
      | .delivering call .waiting, h =>
          cases h
          refine ⟨fun hs => .inl ?_, le_refl _, htimes⟩
          rcases hs with hs | hs
          · exact hs.of_stored rfl rfl (le_refl _)
          · cases hs
      | .processing call .waiting, h =>
          cases h
          exact ⟨fun _ => .inr rfl, le_refl _, htimes⟩
  | proceed env =>
      obtain ⟨t, htick, hproceed⟩ := Option.bind_eq_some_iff.mp h
      obtain ⟨_, _, hclock, hle⟩ := tick_unchanged htick
      have hlater : s.clock ≤ t.clock := hclock ▸ hle
      rcases proceed_exit hproceed with ⟨call, outcome, rfl, he⟩ | ⟨call, outcome, rfl, he⟩
      · have hm := exit_wakes he ((htimes _ rfl).trans hlater)
        refine ⟨fun hs => hm.wakes ?_, hm.clock ▸ hlater, fun u hu => hm.clock ▸ hm.times u hu⟩
        rcases hs with hs | hs
        · exact tick_wakes htick hs
        · cases hs
      · have hm := processed_wakes he ((htimes _ rfl).trans hlater)
        exact ⟨fun _ => hm.wakes trivial, hm.clock ▸ hlater, fun u hu => hm.clock ▸ hm.times u hu⟩

/-! ## Runs -/

/-- The alarm is in time, or a call that will set it is on its way; and the calls were made
in the past. -/
structure PoolWakes (p : Pool Session Call) : Prop where
  wakes : p.shared.WakesUp ∨ ∃ c ∈ p.calls, c.isProcessing = true
  times : ∀ c ∈ p.calls, ∀ u, c.nowMs = some u → u ≤ p.shared.clock

theorem poolWakes_idle : PoolWakes idle := by
  constructor
  · exact .inl fun due hdue => by cases hdue
  · intro c hc
    cases hc

theorem poolWakes_step {p p' : Pool Session Call} {e : Move (Operation × Env) Choice}
    (hp : PoolWakes p) (hstep : (lifecycle rt policy).step p e = some p') : PoolWakes p' := by
  rcases Program.step_cases hstep with
    ⟨⟨operation, env⟩, s', c', rfl, hstart, rfl⟩ | ⟨i, choice, c, s', c', rfl, hi, hresume, rfl⟩
  · obtain ⟨t, htick, hoperate⟩ := Option.bind_eq_some_iff.mp hstart
    obtain ⟨_, _, hclock, hle⟩ := tick_unchanged htick
    have hm := operate_wakes hclock.symm hoperate
    constructor
    · rcases hp.wakes with hs | ⟨d, hd, hprocessing⟩
      · rcases hm.wakes (tick_wakes htick hs) with hs' | hc'
        · exact .inl hs'
        · exact .inr ⟨c', List.mem_append_right _ (List.mem_singleton.mpr rfl), hc'⟩
      · exact .inr ⟨d, List.mem_append_left _ hd, hprocessing⟩
    · intro d hd u hu
      have hlater : p.shared.clock ≤ s'.clock := by rw [hm.clock, hclock]; exact hle
      rcases List.mem_append.mp hd with hd | hd
      · exact (hp.times d hd u hu).trans hlater
      · rw [List.mem_singleton.mp hd] at hu
        exact hm.clock ▸ hm.times u hu
  · obtain ⟨hwakes, hlater, htimes⟩ :=
      resume_wakes (hp.times c (List.mem_of_getElem? hi)) hresume
    have hmine : s'.WakesUp ∨ c'.isProcessing = true →
        s'.WakesUp ∨ ∃ d ∈ p.calls.set i c', d.isProcessing = true :=
      Or.imp_right fun hc' => ⟨c', mem_set_self hi, hc'⟩
    constructor
    · rcases hp.wakes with hs | ⟨d, hd, hprocessing⟩
      · exact hmine (hwakes (.inl hs))
      · rcases mem_set_or_eq hi hd with rfl | hd
        · exact hmine (hwakes (.inr hprocessing))
        · exact .inr ⟨d, hd, hprocessing⟩
    · intro d hd u hu
      rcases List.mem_or_eq_of_mem_set hd with hd | rfl
      · exact (hp.times d hd u hu).trans hlater
      · exact htimes u hu

/-- **A queue that is not empty has a wake-up.** In every run of the operations of a session
that started empty, whenever every call has returned and at any later time: if a delivery is
in storage, the alarm is set, at the earliest time at which a delivery is due or earlier, or
by the next millisecond if that time has passed. -/
theorem relay_queue_wakes_up (rt : Runtime) (policy : RelayDeliveryPolicy)
    (moves : List (Move (Operation × Env) Choice)) (p : Pool Session Call)
    (hrun : exec (lifecycle rt policy).step idle moves = some p)
    (hreturned : ∀ c ∈ p.calls, c.isReturned = true) (nowMs : ℚ) (hnow : p.shared.clock ≤ nowMs)
    (hqueue : p.shared.queue.deliveries ≠ []) :
    ∃ alarmAt due, p.shared.alarmAt = some alarmAt ∧ p.shared.queue.dueTimes.min? = some due ∧
      alarmAt ≤ max (nowMs + 1) due := by
  have hp := exec_invariant_of_step PoolWakes (fun _ _ _ hp hstep => poolWakes_step hp hstep)
    poolWakes_idle hrun
  have hwakes : p.shared.WakesUp := by
    rcases hp.wakes with hs | ⟨c, hc, hprocessing⟩
    · exact hs
    · have hdone := hreturned c hc
      cases c with
      | delivering call await => cases hdone
      | processing call await => cases hdone
      | returned response => cases hprocessing
  have hintime : InTime p.shared.alarmAt (nowMs + 1) p.shared.queue.dueTimes :=
    hwakes.later (add_le_add hnow (le_refl 1))
  obtain ⟨d, hd⟩ := List.exists_mem_of_ne_nil _ hqueue
  exact hintime.le_min? (List.mem_map_of_mem hd)

end

/-! ### A delivery without a connector -/

/-- A delivery is queued, and the alarm finds no connector. -/
def exampleAlarm : List (Move (Operation × Env) Choice) :=
  [.start (.request (.deliverToConnector (exampleInput "01HF7YAT00W6W7CM7N3W5FDXR0" none)),
      exampleOffline 1700000000000 "01HF7YAT00W6W7CM7N3W5FDXD0"),
    .start (.request .alarm, exampleOffline 1700000003000 "01HF7YAT00W6W7CM7N3W5FDXD1")]

theorem exampleAlarm_facts :
    ((exec (lifecycle exampleRuntime defaultPolicy).step idle exampleAlarm).map fun p =>
      (decide (∀ c ∈ p.calls, c.isReturned = true), p.shared.clock,
        decide (p.shared.queue.deliveries ≠ []))) = some (true, 1700000003000, true) := by
  decide +kernel

theorem exampleAlarm_wakes_up :
    ∃ p alarmAt due, exec (lifecycle exampleRuntime defaultPolicy).step idle exampleAlarm = some p ∧
      p.shared.alarmAt = some alarmAt ∧ p.shared.queue.dueTimes.min? = some due ∧
      alarmAt ≤ max (1700000003000 + 1) due := by
  obtain ⟨p, hrun, hfacts⟩ := Option.map_eq_some_iff.mp exampleAlarm_facts
  simp only [Prod.mk.injEq] at hfacts
  obtain ⟨hreturned, hclock, hqueue⟩ := hfacts
  obtain ⟨alarmAt, due, halarm, hdue, hle⟩ := relay_queue_wakes_up exampleRuntime defaultPolicy
    exampleAlarm p hrun (of_decide_eq_true hreturned) 1700000003000 hclock.le
    (of_decide_eq_true hqueue)
  exact ⟨p, alarmAt, due, hrun, halarm, hdue, hle⟩

end Clawdentity.Relay
