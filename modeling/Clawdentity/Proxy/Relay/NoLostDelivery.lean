import Clawdentity.Proxy.Relay.Effects

/-!
# Queued deliveries are not lost while snapshots are current

A call saves the whole queue from the snapshot it loaded, and between the two it
may have waited for the connector. A delivery that another call queued meanwhile
is not in the snapshot, and the save removes it. `Current` is the condition that
this does not happen: where a call goes on after an await, every stored delivery
that has not expired is one that it had loaded. Under it no queued delivery leaves
the storage before it is accepted, expired or out of attempts.

## Main definitions

* `Accounted` — a delivery was accepted, or is expired or out of attempts.
* `NotLost` — the property of a state of the pool.
* `Current` — the condition on a move.
* `queued_delivery_not_lost` — the property in every run under the condition.
-/

namespace Clawdentity.Relay

open Js Lib Connector Lib.Interleave Lib.Run

/-! ## The property -/

/-- The deliveries that calls have queued so far. -/
def History.queuedCores (h : History) : List DeliveryCore := h.queued.map Prod.snd

/-- A frame for the delivery was accepted by the connector, the delivery is
expired, or as many attempts on it have failed as the policy allows. -/
def Accounted (policy : RelayDeliveryPolicy) (h : History) (nowMs : ℚ) (core : DeliveryCore) :
    Prop :=
  core ∈ h.accepted ∨ core.expiresAtMs ≤ nowMs ∨ policy.retryMaxAttempts ≤ h.failed.count core

instance (policy : RelayDeliveryPolicy) (h : History) (nowMs : ℚ) (core : DeliveryCore) :
    Decidable (Accounted policy h nowMs core) :=
  inferInstanceAs (Decidable (_ ∨ _ ∨ _))

/-- Every answer `"queued"` is about a delivery that was put in the queue, and every
such delivery is still stored unless it is accounted for. -/
structure NotLost (policy : RelayDeliveryPolicy) (p : Pool Session Call) : Prop where
  answered : ∀ c ∈ p.calls, ∀ id, c.queuedId = some id →
    ∃ core ∈ p.shared.history.queuedCores, core.deliveryId = id
  stored : ∀ core ∈ p.shared.history.queuedCores,
    core ∈ p.shared.queue.cores ∨ Accounted policy p.shared.history p.shared.clock core

/-- Where a call goes on, it had loaded every stored delivery that is not expired. -/
def Current (p : Pool Session Call) : Move (Request × Env) Choice → Prop
  | .start _ => True
  | .resume _ (.settle _) => True
  | .resume i (.proceed env) =>
      ∀ c ∈ p.calls[i]?, ∀ core ∈ p.shared.queue.cores,
        env.nowMs < core.expiresAtMs → core ∈ c.loaded

instance (p : Pool Session Call) : ∀ e, Decidable (Current p e)
  | .start _ => isTrue trivial
  | .resume _ (.settle _) => isTrue trivial
  | .resume i (.proceed env) =>
      inferInstanceAs (Decidable (∀ c ∈ p.calls[i]?, ∀ core ∈ p.shared.queue.cores,
        env.nowMs < core.expiresAtMs → core ∈ c.loaded))

/-! ## Queues and histories -/

/-- The later of two histories, each with its time. -/
structure Later (h : History) (nowMs : ℚ) (h' : History) (nowMs' : ℚ) : Prop where
  clock : nowMs ≤ nowMs'
  queued : ∀ core ∈ h.queuedCores, core ∈ h'.queuedCores
  accepted : ∀ core ∈ h.accepted, core ∈ h'.accepted
  failed : ∀ core, h.failed.count core ≤ h'.failed.count core

/-- A queue agrees with a history: every counted attempt has failed, and every
queued receipt is about a delivery that was queued. -/
structure Consistent (h : History) (q : RelayQueueState) : Prop where
  attempts : ∀ x ∈ q.counted, x.2 ≤ h.failed.count x.1
  receipts : ∀ id r, q.receipts.lookup id = some r → r.state = .queued →
    ∃ core ∈ h.queuedCores, core.deliveryId = r.deliveryId

/-- The queue has the deliveries that are not accounted for. -/
def Covers (policy : RelayDeliveryPolicy) (h : History) (nowMs : ℚ) (q : RelayQueueState)
    (cores : List DeliveryCore) : Prop :=
  ∀ core ∈ cores, core ∈ q.cores ∨ Accounted policy h nowMs core

/-- A queue that may be stored. -/
structure Sound (policy : RelayDeliveryPolicy) (h : History) (nowMs : ℚ) (q : RelayQueueState) :
    Prop where
  consistent : Consistent h q
  covers : Covers policy h nowMs q h.queuedCores

section
variable {policy : RelayDeliveryPolicy} {h h' : History} {nowMs nowMs' : ℚ}
  {q q' : RelayQueueState} {cores : List DeliveryCore}

theorem Later.refl (h : History) (nowMs : ℚ) : Later h nowMs h nowMs :=
  ⟨le_refl nowMs, fun _ hc => hc, fun _ hc => hc, fun _ => le_refl _⟩

theorem Later.trans {h'' : History} {nowMs'' : ℚ} (h₁ : Later h nowMs h' nowMs')
    (h₂ : Later h' nowMs' h'' nowMs'') : Later h nowMs h'' nowMs'' where
  clock := h₁.clock.trans h₂.clock
  queued core hc := h₂.queued core (h₁.queued core hc)
  accepted core hc := h₂.accepted core (h₁.accepted core hc)
  failed core := (h₁.failed core).trans (h₂.failed core)

theorem Accounted.later {core : DeliveryCore} (hc : Accounted policy h nowMs core)
    (hl : Later h nowMs h' nowMs') : Accounted policy h' nowMs' core := by
  rcases hc with hc | hc | hc
  · exact .inl (hl.accepted core hc)
  · exact .inr (.inl (hc.trans hl.clock))
  · exact .inr (.inr (hc.trans (hl.failed core)))

theorem Consistent.later (hq : Consistent h q) (hl : Later h nowMs h' nowMs') :
    Consistent h' q where
  attempts x hx := (hq.attempts x hx).trans (hl.failed x.1)
  receipts id r hr hstate := by
    obtain ⟨core, hcore, hid⟩ := hq.receipts id r hr hstate
    exact ⟨core, hl.queued core hcore, hid⟩

theorem Covers.later (hq : Covers policy h nowMs q cores) (hl : Later h nowMs h' nowMs') :
    Covers policy h' nowMs' q cores := by
  intro core hcore
  rcases hq core hcore with hc | hc
  · exact .inl hc
  · exact .inr (hc.later hl)

/-- The consistency of a queue is kept by what the code does to it. -/
theorem Consistent.evolves {t : ℚ} (hq : Consistent h q) (he : Evolves policy t q q') :
    Consistent h q' where
  attempts x hx := hq.attempts x (he.back x hx)
  receipts id r hr hstate := hq.receipts id r (he.receipts id r hr hstate) hstate

theorem Covers.evolves {t : ℚ} (hc : Covers policy h nowMs q cores) (hq : Consistent h q)
    (he : Evolves policy t q q') (ht : t ≤ nowMs) : Covers policy h nowMs q' cores := by
  intro core hcore
  rcases hc core hcore with hin | hacc
  · obtain ⟨n, hn⟩ := RelayQueueState.mem_cores.mp hin
    rcases he.forth _ hn with hx | hexpired | hspent
    · exact .inl (RelayQueueState.mem_cores.mpr ⟨n, hx⟩)
    · exact .inr (.inr (.inl (le_trans hexpired ht)))
    · exact .inr (.inr (.inr (hspent.trans (hq.attempts _ hn))))
  · exact .inr hacc

theorem Sound.evolves {t : ℚ} (hq : Sound policy h nowMs q) (he : Evolves policy t q q')
    (ht : t ≤ nowMs) : Sound policy h nowMs q' :=
  ⟨hq.consistent.evolves he, hq.covers.evolves hq.consistent he ht⟩

/-! ## The events of a history -/

theorem later_logQueued (h : History) (nowMs : ℚ) (input : RelayDeliveryInput)
    (core : DeliveryCore) (n : ℕ) : Later h nowMs (h.logQueued input core n) nowMs where
  clock := le_refl nowMs
  queued c hc := by
    simp only [History.queuedCores, History.logQueued, List.map_append]
    exact List.mem_append_left _ hc
  accepted _ hc := hc
  failed c := by
    simp only [History.logQueued, List.count_append]
    exact Nat.le_add_right _ _

theorem later_logAccepted (h : History) (nowMs : ℚ) (core : DeliveryCore) :
    Later h nowMs (h.logAccepted core) nowMs where
  clock := le_refl nowMs
  queued _ hc := hc
  accepted _ hc := List.mem_append_left _ hc
  failed _ := le_refl _

theorem later_logFailed (h : History) (nowMs : ℚ) (core : DeliveryCore) :
    Later h nowMs (h.logFailed core) nowMs where
  clock := le_refl nowMs
  queued _ hc := hc
  accepted _ hc := hc
  failed c := by
    simp only [History.logFailed, List.count_append]
    exact Nat.le_add_right _ _

theorem later_logAttempt (h : History) (nowMs : ℚ) (core : DeliveryCore) (outcome : Outcome) :
    Later h nowMs (h.logAttempt core outcome) nowMs := by
  unfold History.logAttempt
  split
  · exact later_logAccepted h nowMs core
  · exact later_logFailed h nowMs core

theorem mem_queuedCores_logQueued {input : RelayDeliveryInput} {core : DeliveryCore} {n : ℕ} :
    core ∈ (h.logQueued input core n).queuedCores := by
  simp [History.queuedCores, History.logQueued]

/-- A delivery is pushed with its receipt, and its failed attempts are counted. -/
theorem Sound.push {input : RelayDeliveryInput} {d : QueuedRelayDelivery}
    {receipt : RelayDeliveryReceipt} {n : ℕ} (hq : Sound policy h nowMs q)
    (hn : d.attemptCount = n) (hid : receipt.deliveryId = d.deliveryId) :
    Sound policy (h.logQueued input d.toDeliveryCore n) nowMs
      ((q.append [d]).upsertReceipt receipt) := by
  have hl := later_logQueued h nowMs input d.toDeliveryCore n
  constructor
  · constructor
    · intro x hx
      simp only [RelayQueueState.upsertReceipt_counted, RelayQueueState.append_counted,
        List.map_cons, List.map_nil, List.mem_append, List.mem_singleton] at hx
      rcases hx with hx | rfl
      · exact (hq.consistent.attempts x hx).trans (hl.failed x.1)
      · simp only [History.logQueued, List.count_append, List.count_replicate_self, hn]
        exact Nat.le_add_left _ _
    · intro id r hfound hstate
      rcases Receipts.lookup_upsert hfound with rfl | hfound
      · exact ⟨d.toDeliveryCore, mem_queuedCores_logQueued, hid.symm⟩
      · exact (hq.consistent.later hl).receipts id r hfound hstate
  · intro core hcore
    have hold : core ∈ h.queuedCores ∨ core = d.toDeliveryCore := by
      simpa [History.logQueued, History.queuedCores] using hcore
    have hcores : core ∈ q.cores ∨ core = d.toDeliveryCore →
        core ∈ ((q.append [d]).upsertReceipt receipt).cores := by
      intro hc
      simpa [RelayQueueState.cores, RelayQueueState.upsertReceipt, RelayQueueState.append,
        eq_comm] using hc
    rcases hold with hold | hnew
    · rcases hq.covers core hold with hin | hacc
      · exact .inl (hcores (.inl hin))
      · exact .inr (hacc.later hl)
    · exact .inl (hcores (.inr hnew))

variable {call : Processing}

/-- The current delivery was accepted and is taken out. -/
theorem Consistent.accept (hq : Consistent h call.queue) :
    Consistent (h.logAccepted call.current.toDeliveryCore) (call.before.append call.rest) where
  attempts x hx := by
    refine hq.attempts x ?_
    simp only [Processing.queue, RelayQueueState.append_counted, List.map_cons, List.mem_append,
      List.mem_cons] at hx ⊢
    exact hx.imp_right .inr
  receipts id r hfound := hq.receipts id r hfound

theorem Covers.accept (hc : Covers policy h nowMs call.queue cores) :
    Covers policy (h.logAccepted call.current.toDeliveryCore) nowMs (call.before.append call.rest)
      cores := by
  intro core hcore
  rcases hc core hcore with hin | hacc
  · simp only [Processing.queue, RelayQueueState.cores, RelayQueueState.append, List.map_append,
      List.map_cons, List.mem_append, List.mem_cons] at hin ⊢
    rcases hin with hin | rfl | hin
    · exact .inl (.inl hin)
    · exact .inr (.inl (List.mem_append_right _ List.mem_cons_self))
    · exact .inl (.inr hin)
  · exact .inr (hacc.later (later_logAccepted h nowMs _))

/-- The attempt on the current delivery failed and is counted. -/
theorem Consistent.fail (hq : Consistent h call.queue) :
    Consistent (h.logFailed call.current.toDeliveryCore)
      (call.before.append (call.current.tried :: call.rest)) where
  attempts x hx := by
    have hl := later_logFailed h 0 call.current.toDeliveryCore
    have hmem : ∀ y, y ∈ call.queue.counted ↔ y ∈ call.before.counted ∨
        y = (call.current.toDeliveryCore, call.current.attemptCount) ∨
        y ∈ call.rest.map fun d => (d.toDeliveryCore, d.attemptCount) := by
      intro y
      simp only [Processing.queue, RelayQueueState.append_counted, List.map_cons, List.mem_append,
        List.mem_cons]
    simp only [RelayQueueState.append_counted, List.map_cons, List.mem_append, List.mem_cons] at hx
    rcases hx with hx | rfl | hx
    · exact (hq.attempts x ((hmem x).mpr (.inl hx))).trans (hl.failed x.1)
    · have hcurrent : call.current.attemptCount ≤ h.failed.count call.current.toDeliveryCore :=
        hq.attempts _ ((hmem _).mpr (.inr (.inl rfl)))
      simp only [QueuedRelayDelivery.tried, History.logFailed, List.count_append,
        List.count_singleton_self]
      omega
    · exact (hq.attempts x ((hmem x).mpr (.inr (.inr hx)))).trans (hl.failed x.1)
  receipts id r hfound := hq.receipts id r hfound

theorem Covers.fail (hc : Covers policy h nowMs call.queue cores) :
    Covers policy (h.logFailed call.current.toDeliveryCore) nowMs
      (call.before.append (call.current.tried :: call.rest)) cores := by
  intro core hcore
  rcases hc core hcore with hin | hacc
  · left
    simpa [Processing.queue, RelayQueueState.cores, RelayQueueState.append,
      QueuedRelayDelivery.tried] using hin
  · exact .inr (hacc.later (later_logFailed h nowMs _))

/-- An attempt on the current delivery came to its end. -/
theorem Consistent.attempted (hq : Consistent h call.queue) (outcome : Outcome) :
    Consistent (h.logAttempt call.current.toDeliveryCore outcome) (call.attempted outcome) := by
  unfold History.logAttempt Processing.attempted
  by_cases hacked : outcome = .acked true
  · rw [if_pos hacked, if_pos hacked]
    exact hq.accept
  · rw [if_neg hacked, if_neg hacked]
    exact hq.fail

theorem Covers.attempted (hc : Covers policy h nowMs call.queue cores) (outcome : Outcome) :
    Covers policy (h.logAttempt call.current.toDeliveryCore outcome) nowMs
      (call.attempted outcome) cores := by
  unfold History.logAttempt Processing.attempted
  by_cases hacked : outcome = .acked true
  · rw [if_pos hacked, if_pos hacked]
    exact hc.accept
  · rw [if_neg hacked, if_neg hacked]
    exact hc.fail

theorem queuedCores_logAttempt {core : DeliveryCore} {outcome : Outcome} :
    (h.logAttempt core outcome).queuedCores = h.queuedCores := by
  unfold History.logAttempt
  split <;> rfl

end

/-! ## The invariant -/

section
variable {rt : Runtime} {policy : RelayDeliveryPolicy} {s : Session}

/-- What holds of a call: its snapshot agrees with the history and has the deliveries
it had loaded, and an answer `"queued"` is about a delivery that was queued. -/
structure CallOk (policy : RelayDeliveryPolicy) (h : History) (nowMs : ℚ) (c : Call) : Prop where
  consistent : ∀ q, c.queue = some q → Consistent h q
  covers : ∀ q, c.queue = some q → Covers policy h nowMs q c.loaded
  clock : ∀ t, c.nowMs = some t → t ≤ nowMs
  answered : ∀ id, c.queuedId = some id → ∃ core ∈ h.queuedCores, core.deliveryId = id

theorem CallOk.later {h h' : History} {nowMs nowMs' : ℚ} {c : Call}
    (hc : CallOk policy h nowMs c) (hl : Later h nowMs h' nowMs') :
    CallOk policy h' nowMs' c where
  consistent q hq := (hc.consistent q hq).later hl
  covers q hq := (hc.covers q hq).later hl
  clock t ht := (hc.clock t ht).trans hl.clock
  answered id hid := by
    obtain ⟨core, hcore, hcid⟩ := hc.answered id hid
    exact ⟨core, hl.queued core hcore, hcid⟩

/-- A finished call has nothing but its answer. -/
theorem callOk_returned {h : History} {nowMs : ℚ} {response : Response}
    (hr : ∀ id, (Call.returned response).queuedId = some id →
      ∃ core ∈ h.queuedCores, core.deliveryId = id) :
    CallOk policy h nowMs (.returned response) where
  consistent _ hq := by cases hq
  covers _ hq := by cases hq
  clock _ ht := by cases ht
  answered := hr

/-- A sound queue is in storage. -/
def StoredOk (policy : RelayDeliveryPolicy) (s : Session) : Prop :=
  Sound policy s.history s.clock s.queue

structure Inv (policy : RelayDeliveryPolicy) (p : Pool Session Call) : Prop where
  stored : StoredOk policy p.shared
  calls : ∀ c ∈ p.calls, CallOk policy p.shared.history p.shared.clock c

/-- What a move guarantees. -/
structure MoveOk (policy : RelayDeliveryPolicy) (s : Session) (r : Session × Call) : Prop where
  later : Later s.history s.clock r.1.history r.1.clock
  stored : StoredOk policy r.1
  call : CallOk policy r.1.history r.1.clock r.2

theorem MoveOk.after {t : Session} {r : Session × Call}
    (hl : Later s.history s.clock t.history t.clock) (hr : MoveOk policy t r) :
    MoveOk policy s r :=
  ⟨hl.trans hr.later, hr.stored, hr.call⟩

/-- The parts of a history that the invariant reads. -/
theorem later_of_eq {h h' : History} {nowMs nowMs' : ℚ} (hclock : nowMs' = nowMs)
    (hqueued : h'.queued = h.queued) (haccepted : h'.accepted = h.accepted)
    (hfailed : h'.failed = h.failed) : Later h nowMs h' nowMs' where
  clock := hclock.ge
  queued core hc := by rwa [History.queuedCores, hqueued]
  accepted core hc := by rwa [haccepted]
  failed core := by rw [hfailed]

theorem Sound.later {h h' : History} {nowMs nowMs' : ℚ} {q : RelayQueueState}
    (hq : Sound policy h nowMs q) (hl : Later h nowMs h' nowMs')
    (hqueued : h'.queuedCores = h.queuedCores) : Sound policy h' nowMs' q := by
  refine ⟨hq.consistent.later hl, ?_⟩
  rw [hqueued]
  exact hq.covers.later hl

/-- The deliveries that a history knows are the same after a send. -/
theorem Sends.same {env : Env} {request : Option Request} {h h' : History}
    {q : RelayQueueState} (hs : Sends rt env request h q h') :
    h'.queued = h.queued ∧ h'.accepted = h.accepted ∧ h'.failed = h.failed := by
  cases hs with
  | none => exact ⟨rfl, rfl, rfl⟩
  | frame hframe hqueue hdirect => exact ⟨rfl, rfl, rfl⟩

/-- **One piece of code** keeps the invariant, if it works on a queue that may be saved. -/
theorem effect_ok {env : Env} {request : Option Request} {nowMs : ℚ} {q : RelayQueueState}
    {loaded : List DeliveryCore} {r : Session × Call}
    (he : Effect rt policy env request nowMs s q loaded r) (hs : StoredOk policy s)
    (hq : Sound policy s.history s.clock q)
    (hloaded : Covers policy s.history s.clock q loaded) (ht : nowMs ≤ s.clock) :
    MoveOk policy s r := by
  cases he with
  | @answer s' response hstored hclock hhistory hqueued =>
      have hqueue : s'.queue = s.queue := by rw [Session.queue, Session.queue, hstored]
      refine ⟨by rw [hclock, hhistory]; exact Later.refl _ _, ?_, callOk_returned ?_⟩
      · rw [StoredOk, hqueue, hclock, hhistory]
        exact hs
      · intro id hid
        obtain ⟨key, receipt, hfound, hstate, rfl⟩ := hqueued id hid
        rw [hhistory]
        exact hq.consistent.receipts key receipt hfound hstate
  | @save s' response q' pushed he hstored hclock hhistory hpushed hqueued =>
      have hl : Later s.history s.clock s'.history s'.clock :=
        later_of_eq hclock (by rw [hhistory]) (by rw [hhistory]) (by rw [hhistory])
      refine ⟨hl, ?_, callOk_returned ?_⟩
      · rw [StoredOk, Session.queue_of_stored hstored]
        refine (hq.evolves he ht).later hl ?_
        rw [hhistory]
        rfl
      · intro id hid
        rw [hqueued] at hid
        cases hid
  | @push s' response input d receipt hrequest hinput hreceipt hstored hclock hhistory hqueued =>
      refine ⟨?_, ?_, callOk_returned ?_⟩
      · rw [hclock, hhistory]
        exact later_logQueued _ _ _ _ _
      · rw [StoredOk, Session.queue_of_stored hstored, hclock, hhistory]
        exact hq.push rfl hreceipt
      · intro id hid
        rw [hqueued] at hid
        cases hid
        rw [hhistory]
        exact ⟨d.toDeliveryCore, mem_queuedCores_logQueued, rfl⟩
  | @wait s' c q' he hstored hclock hhistory hqueue hrequest hmine hnow =>
      have hsame := hhistory.same
      have hl : Later s.history s.clock s'.history s'.clock :=
        later_of_eq hclock hsame.1 hsame.2.1 hsame.2.2
      have hqueue' : s'.queue = s.queue := by rw [Session.queue, Session.queue, hstored]
      refine ⟨hl, ?_, ?_, ?_, ?_, ?_⟩
      · rw [StoredOk, hqueue']
        exact hs.later hl (by rw [History.queuedCores, hsame.1, History.queuedCores])
      · intro q₁ hq₁
        rw [hqueue] at hq₁
        cases hq₁
        exact (hq.consistent.evolves he).later hl
      · intro q₁ hq₁ core hcore
        rw [hqueue] at hq₁
        cases hq₁
        exact ((hloaded.evolves hq.consistent he ht).later hl) core (hmine core hcore)
      · intro t htime
        rw [hnow] at htime
        cases htime
        exact ht.trans hl.clock
      · intro id hid
        cases c with
        | delivering call await => cases hid
        | processing call await => cases hid
        | returned response => cases hqueue

/-! ## Runs -/

/-- Time passes. -/
theorem storedOk_tick {t : Session} {nowMs : ℚ} (hs : StoredOk policy s)
    (h : s.tick nowMs = some t) :
    StoredOk policy t ∧ Later s.history s.clock t.history t.clock := by
  obtain ⟨hle, _, hhistory, hqueue⟩ := tick_spec h
  have hl : Later s.history s.clock t.history t.clock := by
    rw [hhistory]
    exact ⟨hle, fun _ hc => hc, fun _ hc => hc, fun _ => le_refl _⟩
  refine ⟨?_, hl⟩
  rw [StoredOk, hqueue]
  exact hs.later hl (by rw [hhistory])

/-- A call is made. -/
theorem handle_ok {request : Request} {env : Env} (hs : StoredOk policy s)
    (ht : env.nowMs ≤ s.clock) : MoveOk policy s (handle rt policy s request env) := by
  obtain ⟨hhistory, hclock, hload, hstored⟩ := loadQueueState_spec policy s env.nowMs
  have hq : Sound policy s.history s.clock (s.loadQueueState env.nowMs).2 := hs.evolves hload ht
  have hl : Later s.history s.clock (s.loadQueueState env.nowMs).1.history
      (s.loadQueueState env.nowMs).1.clock := by
    rw [hhistory, hclock]
    exact Later.refl _ _
  have hs' : StoredOk policy (s.loadQueueState env.nowMs).1 := by
    rw [StoredOk, hhistory, hclock]
    rcases hstored with hstored | hstored
    · rw [hstored]
      exact hs
    · rw [hstored]
      exact hq
  have hq' := hq.later hl (by rw [hhistory])
  have heffect := handle_effect rt policy s request env
  exact .after hl (effect_ok heffect hs' hq' (fun _ hcore => .inl hcore) (hclock ▸ ht))

/-- The snapshot of a call that goes on may be saved, if it is current. -/
theorem sound_of_current {q : RelayQueueState} {loaded : List DeliveryCore}
    (hs : StoredOk policy s) (hq : Consistent s.history q)
    (hloaded : Covers policy s.history s.clock q loaded)
    (hcurrent : ∀ core ∈ s.queue.cores, s.clock < core.expiresAtMs → core ∈ loaded) :
    Sound policy s.history s.clock q := by
  refine ⟨hq, ?_⟩
  intro core hcore
  rcases hs.covers core hcore with hin | hacc
  · by_cases hlive : s.clock < core.expiresAtMs
    · exact hloaded core (hcurrent core hin hlive)
    · exact .inr (.inr (.inl (not_lt.mp hlive)))
  · exact .inr hacc

/-- A call goes on. -/
theorem proceed_ok {c : Call} {r : Session × Call} {env : Env} (hs : StoredOk policy s)
    (hc : CallOk policy s.history s.clock c)
    (hcurrent : ∀ core ∈ s.queue.cores, s.clock < core.expiresAtMs → core ∈ c.loaded)
    (hr : proceed rt policy s env c = some r) : MoveOk policy s r := by
  rcases proceed_effect hr with ⟨call, outcome, rfl, he⟩ | ⟨call, outcome, rfl, he⟩
  · have hloaded := hc.covers _ rfl
    have hq := sound_of_current hs (hc.consistent _ rfl) hloaded hcurrent
    exact effect_ok he hs hq hloaded (hc.clock _ rfl)
  · have hloaded := hc.covers _ rfl
    have hq := sound_of_current hs (hc.consistent _ rfl) hloaded hcurrent
    have hl := later_logAttempt s.history s.clock call.current.toDeliveryCore outcome
    refine .after hl (effect_ok he (hs.later hl queuedCores_logAttempt) ⟨?_, ?_⟩ ?_ ?_)
    · exact hq.consistent.attempted outcome
    · rw [queuedCores_logAttempt]
      exact hq.covers.attempted outcome
    · exact hloaded.attempted outcome
    · exact hc.clock _ rfl

/-- A frame is answered. -/
theorem settle_ok {c : Call} {outcome : Outcome} {r : Session × Call} (hs : StoredOk policy s)
    (hc : CallOk policy s.history s.clock c) (hr : settle s outcome c = some r) :
    MoveOk policy s r := by
  obtain ⟨hstored, hclock, hhistory, hqueue, hloaded, hnow, hid, _⟩ := settle_spec hr
  have hqueue' : r.1.queue = s.queue := by rw [Session.queue, Session.queue, hstored]
  refine ⟨by rw [hclock, hhistory]; exact Later.refl _ _, ?_, ?_⟩
  · rw [StoredOk, hqueue', hclock, hhistory]
    exact hs
  · rw [hclock, hhistory]
    refine ⟨?_, ?_, ?_, ?_⟩
    · intro q hq
      exact hc.consistent q (hqueue ▸ hq)
    · intro q hq
      rw [hloaded]
      exact hc.covers q (hqueue ▸ hq)
    · intro t ht
      exact hc.clock t (hnow ▸ ht)
    · intro id hid'
      rw [hid] at hid'
      cases hid'

/-- **One move.** -/
theorem inv_step {p q : Pool Session Call} {e : Move (Request × Env) Choice}
    (hp : Inv policy p) (hcurrent : Current p e) (hstep : (program rt policy).step p e = some q) :
    Inv policy q := by
  rcases Program.step_cases hstep with
    ⟨⟨request, env⟩, s', c', rfl, hstart, rfl⟩ | ⟨i, choice, c, s', c', rfl, hi, hresume, rfl⟩
  · obtain ⟨t, htick, hhandle⟩ := Option.map_eq_some_iff.mp hstart
    obtain ⟨hs, hl⟩ := storedOk_tick hp.stored htick
    have hok : MoveOk policy p.shared (s', c') := by
      rw [← hhandle]
      exact .after hl (handle_ok hs (tick_spec htick).2.1.ge)
    refine ⟨hok.stored, ?_⟩
    intro d hd
    rcases List.mem_append.mp hd with hd | hd
    · exact (hp.calls d hd).later hok.later
    · rw [List.mem_singleton.mp hd]
      exact hok.call
  · have hc := hp.calls c (List.mem_of_getElem? hi)
    have hok : MoveOk policy p.shared (s', c') := by
      cases choice with
      | settle outcome => exact settle_ok hp.stored hc hresume
      | proceed env =>
          obtain ⟨t, htick, hproceed⟩ := Option.bind_eq_some_iff.mp hresume
          obtain ⟨hs, hl⟩ := storedOk_tick hp.stored htick
          obtain ⟨_, hclock, _, hqueue⟩ := tick_spec htick
          refine .after hl (proceed_ok hs (hc.later hl) ?_ hproceed)
          intro core hcore hlive
          rw [hqueue] at hcore
          rw [hclock] at hlive
          exact hcurrent c hi core hcore hlive
    refine ⟨hok.stored, ?_⟩
    intro d hd
    rcases List.mem_or_eq_of_mem_set hd with hd | rfl
    · exact (hp.calls d hd).later hok.later
    · exact hok.call

theorem inv_idle : Inv policy idle := by
  refine ⟨⟨⟨?_, ?_⟩, ?_⟩, ?_⟩
  · intro x hx
    cases hx
  · intro id r hfound
    cases hfound
  · intro core hcore
    cases hcore
  · intro c hc
    cases hc

theorem Inv.notLost {p : Pool Session Call} (hp : Inv policy p) : NotLost policy p where
  answered c hc id hid := (hp.calls c hc).answered id hid
  stored := hp.stored.covers

end

/-- **No queued delivery is lost in a run whose calls go on from current snapshots.**
The run is any interleaving of any calls, from a session that has stored nothing;
the property holds in every state it reaches. -/
theorem queued_delivery_not_lost (rt : Runtime) (policy : RelayDeliveryPolicy)
    (moves : List (Move (Request × Env) Choice)) (p : Pool Session Call)
    (hcurrent : AllSteps (program rt policy).step Current idle moves)
    (hrun : exec (program rt policy).step idle moves = some p) : NotLost policy p :=
  (exec_invariant (Inv policy) (fun _ _ _ hi hok hstep => inv_step hi hok hstep) inv_idle hcurrent
    hrun).notLost

/-! ### Two deliveries -/

/-- The start of the `n`-th call, which delivers a message of its own. -/
def exampleStart : Bool → Move (Request × Env) Choice
  | false => .start (.deliverToConnector (exampleInput "01HF7YAT00W6W7CM7N3W5FDXR0" none),
      exampleEnv 1700000000000 "01HF7YAT00W6W7CM7N3W5FDXD0" "01HF7YAT00W6W7CM7N3W5FDXF0")
  | true => .start (.deliverToConnector (exampleInput "01HF7YAT00W6W7CM7N3W5FDXR1" none),
      exampleEnv 1700000000000 "01HF7YAT00W6W7CM7N3W5FDXD1" "01HF7YAT00W6W7CM7N3W5FDXF1")

/-- The connector answers the frame of the call, and the call goes on. -/
def exampleAck (call : ℕ) (accepted : Bool) : List (Move (Request × Env) Choice) :=
  [.resume call (.settle (.acked accepted)),
    .resume call (.proceed
      (exampleEnv 1700000000000 "01HF7YAT00W6W7CM7N3W5FDXD2" "01HF7YAT00W6W7CM7N3W5FDXF2"))]

/-- The second message is not accepted and queued, while the first call still waits. -/
def exampleOverlap : List (Move (Request × Env) Choice) :=
  [exampleStart false, exampleStart true] ++ exampleAck 1 false ++ exampleAck 0 true

theorem exampleOverlap_loses :
    ((exec (program exampleRuntime defaultPolicy).step idle exampleOverlap).map fun p =>
      decide (∀ core ∈ p.shared.history.queuedCores, core ∈ p.shared.queue.cores ∨
        Accounted defaultPolicy p.shared.history p.shared.clock core)) = some false := by
  decide +kernel

/-- **A save from an old snapshot can remove a queued delivery.** -/
theorem not_queued_delivery_not_lost :
    ¬ ∀ (rt : Runtime) (policy : RelayDeliveryPolicy)
      (moves : List (Move (Request × Env) Choice)) (p : Pool Session Call),
      exec (program rt policy).step idle moves = some p → NotLost policy p := by
  intro h
  obtain ⟨p, hrun, hlost⟩ := Option.map_eq_some_iff.mp exampleOverlap_loses
  have hstored := (h exampleRuntime defaultPolicy exampleOverlap p hrun).stored
  exact of_decide_eq_false hlost hstored

/-- The second message comes after the first one has been delivered. -/
def exampleSequence : List (Move (Request × Env) Choice) :=
  [exampleStart false] ++ exampleAck 0 true ++ [exampleStart true] ++ exampleAck 1 false

theorem exampleSequence_runs :
    (exec (program exampleRuntime defaultPolicy).step idle exampleSequence).isSome = true := by
  decide +kernel

theorem exampleSequence_not_lost :
    ∃ p, exec (program exampleRuntime defaultPolicy).step idle exampleSequence = some p ∧
      NotLost defaultPolicy p := by
  obtain ⟨p, hrun⟩ := Option.isSome_iff_exists.mp exampleSequence_runs
  exact ⟨p, hrun, queued_delivery_not_lost exampleRuntime defaultPolicy exampleSequence p
    (by decide +kernel) hrun⟩

end Clawdentity.Relay
