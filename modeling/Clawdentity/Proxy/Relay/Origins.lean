import Clawdentity.Proxy.Relay.Effects

/-!
# Where the frames of a session come from

Every deliver frame was built, in some piece of code, from the input of a request or
from the record that a request queued, and every receipt frame from a request to record
a receipt. The requests that were made and the environments in which code ran are two
predicates, so that a result about the requests of a run carries over to its frames.

## Main definitions

* `SentFor` — a frame was sent for the delivery of an input.
* `HistoryOk` — where the entries of a history come from.
* `run_history_ok` — every run keeps it.
-/

namespace Clawdentity.Relay

open Js Lib Connector Lib.Interleave Lib.Run

/-- The frame was sent for the delivery of the input, directly or from the queue. -/
def SentFor (h : History) (input : RelayDeliveryInput) (f : SentFrame) : Prop :=
  f.source = .direct input ∨ ∃ core, f.source = .queue core ∧ (input, core) ∈ h.queued

/-- Every delivery in the queue was put there by a call. -/
def Logged (h : History) (q : RelayQueueState) : Prop := ∀ core ∈ q.cores, core ∈ h.queued.map Prod.snd

/-- Where the entries of a history come from: what was queued is a requested input
without its group id, what was sent is the frame of its source, and what was pushed is
the frame of a requested receipt. -/
structure HistoryOk (rt : Runtime) (asked : Request → Prop) (used : Env → Prop) (h : History) :
    Prop where
  queued : ∀ e ∈ h.queued, e.2.toInput = { e.1 with groupId := none } ∧
    asked (.deliverToConnector e.1)
  sent : ∀ f ∈ h.sent, ∃ env, used env ∧
    serializeFrame rt.platform (.deliver (toDeliverFrame rt f.source.input env)) = some f.frame
  known : ∀ f ∈ h.sent, ∀ core, f.source = .queue core → core ∈ h.queued.map Prod.snd
  direct : ∀ f ∈ h.sent, ∀ input, f.source = .direct input → asked (.deliverToConnector input)
  pushed : ∀ frame ∈ h.pushed, ∃ record env, asked (.recordDeliveryReceipt record) ∧ used env ∧
    toReceiptFramePayload rt record env = some frame

/-- A call works on a queue of known deliveries, for a request that was made. -/
structure CallFaithful (asked : Request → Prop) (h : History) (c : Call) : Prop where
  queue : ∀ q, c.queue = some q → Logged h q
  request : ∀ request, c.request = some request → asked request

structure Faithful (rt : Runtime) (asked : Request → Prop) (used : Env → Prop)
    (p : Pool Session Call) : Prop where
  history : HistoryOk rt asked used p.shared.history
  stored : Logged p.shared.history p.shared.queue
  calls : ∀ c ∈ p.calls, CallFaithful asked p.shared.history c

section
variable {rt : Runtime} {policy : RelayDeliveryPolicy} {asked : Request → Prop}
  {used : Env → Prop} {s : Session} {h h' : History} {q q' : RelayQueueState} {nowMs : ℚ}
  {env : Env} {request : Option Request}

/-! ## Histories -/

theorem Logged.mono (hq : Logged h q) (hh : ∀ e ∈ h.queued, e ∈ h'.queued) : Logged h' q := by
  intro core hcore
  obtain ⟨e, he, rfl⟩ := List.mem_map.mp (hq core hcore)
  exact List.mem_map_of_mem (hh e he)

theorem Logged.evolves (hq : Logged h q) (he : Evolves policy nowMs q q') : Logged h q' := by
  intro core hcore
  obtain ⟨n, hn⟩ := RelayQueueState.mem_cores.mp hcore
  exact hq core (RelayQueueState.mem_cores.mpr ⟨n, he.back _ hn⟩)

/-- The deliveries of a call are the same after an attempt, or fewer. -/
theorem Logged.attempted {call : Processing} (hq : Logged h call.queue) (outcome : Outcome) :
    Logged h (call.attempted outcome) := by
  intro core hcore
  apply hq
  unfold Processing.attempted at hcore
  split at hcore
  · simp only [Processing.queue, RelayQueueState.cores, RelayQueueState.append, List.map_append,
      List.map_cons, List.mem_append, List.mem_cons] at hcore ⊢
    exact hcore.imp_right .inr
  · simpa [Processing.queue, RelayQueueState.cores, RelayQueueState.append,
      QueuedRelayDelivery.tried] using hcore

theorem CallFaithful.mono {c : Call} (hc : CallFaithful asked h c)
    (hh : ∀ e ∈ h.queued, e ∈ h'.queued) : CallFaithful asked h' c :=
  ⟨fun q hq => (hc.queue q hq).mono hh, hc.request⟩

theorem HistoryOk.logQueued {input : RelayDeliveryInput} {core : DeliveryCore} {n : ℕ}
    (hh : HistoryOk rt asked used h) (hinput : core.toInput = { input with groupId := none })
    (hasked : asked (.deliverToConnector input)) :
    HistoryOk rt asked used (h.logQueued input core n) where
  queued e he := by
    rcases List.mem_append.mp he with he | he
    · exact hh.queued e he
    · rw [List.mem_singleton.mp he]
      exact ⟨hinput, hasked⟩
  sent := hh.sent
  known f hf core' hsource := by
    simp only [History.logQueued, List.map_append]
    exact List.mem_append_left _ (hh.known f hf core' hsource)
  direct := hh.direct
  pushed := hh.pushed

theorem HistoryOk.sends (hh : HistoryOk rt asked used h) (hq : Logged h q) (henv : used env)
    (hrequest : ∀ r, request = some r → asked r) (hs : Sends rt env request h q h') :
    HistoryOk rt asked used h' ∧ h'.queued = h.queued := by
  cases hs with
  | none => exact ⟨hh, rfl⟩
  | @frame source frame hframe hqueue hdirect =>
      refine ⟨⟨hh.queued, ?_, ?_, ?_, hh.pushed⟩, rfl⟩
      · intro f hf
        rcases List.mem_append.mp hf with hf | hf
        · exact hh.sent f hf
        · rw [List.mem_singleton.mp hf]
          exact ⟨env, henv, hframe⟩
      · intro f hf core hcore
        rcases List.mem_append.mp hf with hf | hf
        · exact hh.known f hf core hcore
        · rw [List.mem_singleton.mp hf] at hcore
          exact hq core (hqueue core hcore)
      · intro f hf input hinput
        rcases List.mem_append.mp hf with hf | hf
        · exact hh.direct f hf input hinput
        · rw [List.mem_singleton.mp hf] at hinput
          exact hrequest _ (hdirect input hinput)

theorem HistoryOk.pushes {pushed : List Value} (hh : HistoryOk rt asked used h) (henv : used env)
    (hrequest : ∀ r, request = some r → asked r) (hs : Pushes rt env request h.pushed pushed) :
    HistoryOk rt asked used { h with pushed } := by
  refine ⟨hh.queued, hh.sent, hh.known, hh.direct, ?_⟩
  cases hs with
  | none => exact hh.pushed
  | @frames record frame n hrecord hframe =>
      intro v hv
      rcases List.mem_append.mp hv with hv | hv
      · exact hh.pushed v hv
      · rw [List.eq_of_mem_replicate hv]
        exact ⟨record, env, hrequest _ hrecord, henv, hframe⟩

theorem HistoryOk.logAttempt (hh : HistoryOk rt asked used h) (core : DeliveryCore)
    (outcome : Outcome) : HistoryOk rt asked used (h.logAttempt core outcome) ∧
      (h.logAttempt core outcome).queued = h.queued := by
  unfold History.logAttempt
  split
  · exact ⟨⟨hh.queued, hh.sent, hh.known, hh.direct, hh.pushed⟩, rfl⟩
  · exact ⟨⟨hh.queued, hh.sent, hh.known, hh.direct, hh.pushed⟩, rfl⟩

/-! ## Pieces of code -/

/-- What a move guarantees. -/
structure MoveFaithful (rt : Runtime) (asked : Request → Prop) (used : Env → Prop) (s : Session)
    (r : Session × Call) : Prop where
  queued : ∀ e ∈ s.history.queued, e ∈ r.1.history.queued
  history : HistoryOk rt asked used r.1.history
  stored : Logged r.1.history r.1.queue
  call : CallFaithful asked r.1.history r.2

theorem callFaithful_returned {response : Response} :
    CallFaithful asked h (.returned response) := by
  refine ⟨?_, ?_⟩
  · intro q hq
    cases hq
  · intro request hrequest
    cases hrequest

/-- **One piece of code.** -/
theorem effect_faithful {loaded : List DeliveryCore} {r : Session × Call}
    (he : Effect rt policy env request nowMs s q loaded r) (henv : used env)
    (hrequest : ∀ r, request = some r → asked r) (hh : HistoryOk rt asked used s.history)
    (hs : Logged s.history s.queue) (hq : Logged s.history q) :
    MoveFaithful rt asked used s r := by
  cases he with
  | @answer s' response hstored hclock hhistory hqueued =>
      have hqueue : s'.queue = s.queue := by rw [Session.queue, Session.queue, hstored]
      refine ⟨?_, hhistory ▸ hh, ?_, callFaithful_returned⟩
      · intro e he
        rwa [hhistory]
      · rw [hqueue, hhistory]
        exact hs
  | @save s' response q' pushed he hstored hclock hhistory hpushed hqueued =>
      refine ⟨?_, ?_, ?_, callFaithful_returned⟩
      · intro e he
        rwa [hhistory]
      · rw [hhistory]
        exact hh.pushes henv hrequest hpushed
      · rw [Session.queue_of_stored hstored, hhistory]
        exact hq.evolves he
  | @push s' response input d receipt hinputs hinput hreceipt hstored hclock hhistory hqueued =>
      have hmono : ∀ e ∈ s.history.queued,
          e ∈ (s.history.logQueued input d.toDeliveryCore d.attemptCount).queued :=
        fun e he => List.mem_append_left _ he
      refine ⟨?_, ?_, ?_, callFaithful_returned⟩
      · rw [hhistory]
        exact hmono
      · rw [hhistory]
        exact hh.logQueued hinput (hrequest _ hinputs)
      · rw [Session.queue_of_stored hstored, hhistory]
        intro core hcore
        have hcases : core ∈ q.cores ∨ core = d.toDeliveryCore := by
          simpa [RelayQueueState.cores, RelayQueueState.upsertReceipt,
            RelayQueueState.append, eq_comm] using hcore
        rcases hcases with hold | rfl
        · exact (hq.mono hmono) core hold
        · simp [History.logQueued]
  | @wait s' c q' he hstored hclock hhistory hqueue hcall hmine hnow =>
      have hq' := hq.evolves he
      obtain ⟨hh', hsame⟩ := hh.sends hq' henv hrequest hhistory
      have hmono : ∀ e ∈ s.history.queued, e ∈ s'.history.queued := fun e he => hsame ▸ he
      have hqueue' : s'.queue = s.queue := by rw [Session.queue, Session.queue, hstored]
      refine ⟨hmono, hh', ?_, ?_, ?_⟩
      · rw [hqueue']
        exact hs.mono hmono
      · intro q₁ hq₁
        rw [hqueue] at hq₁
        cases hq₁
        exact hq'.mono hmono
      · intro r hr
        rcases hcall with hcall | hcall
        · rw [hcall] at hr
          cases hr
        · exact hrequest r (hcall.symm.trans hr)

theorem proceed_faithful {c : Call} {r : Session × Call} (henv : used env)
    (hh : HistoryOk rt asked used s.history) (hs : Logged s.history s.queue)
    (hc : CallFaithful asked s.history c) (hr : proceed rt policy s env c = some r) :
    MoveFaithful rt asked used s r := by
  rcases proceed_effect hr with ⟨call, outcome, rfl, he⟩ | ⟨call, outcome, rfl, he⟩
  · refine effect_faithful he henv ?_ hh hs (hc.queue _ rfl)
    intro request hrequest
    exact hc.request request hrequest
  · obtain ⟨hh', hsame⟩ := hh.logAttempt call.current.toDeliveryCore outcome
    have hmono : ∀ e ∈ s.history.queued,
        e ∈ (s.history.logAttempt call.current.toDeliveryCore outcome).queued :=
      fun e he => hsame ▸ he
    have hlogged := (hc.queue _ rfl : Logged s.history call.queue)
    have hr := effect_faithful he henv (fun request hrequest => by cases hrequest) hh'
      (hs.mono hmono) ((hlogged.attempted outcome).mono hmono)
    exact ⟨fun e he => hr.queued e (hmono e he), hr.history, hr.stored, hr.call⟩

theorem handle_faithful {request : Request} (henv : used env) (hasked : asked request)
    (hh : HistoryOk rt asked used s.history) (hs : Logged s.history s.queue) :
    MoveFaithful rt asked used s (handle rt policy s request env) := by
  obtain ⟨hhistory, _, hload, hstored⟩ := loadQueueState_spec policy s env.nowMs
  have hq := hs.evolves hload
  have hs' : Logged s.history (s.loadQueueState env.nowMs).1.queue := by
    rcases hstored with hstored | hstored
    · rw [hstored]
      exact hs
    · rw [hstored]
      exact hq
  rw [← hhistory] at hh hs' hq
  have hr := effect_faithful (handle_effect rt policy s request env) henv
    (fun r hr => Option.some.inj hr ▸ hasked) hh hs' hq
  exact ⟨fun e he => hr.queued e (hhistory ▸ he), hr.history, hr.stored, hr.call⟩

theorem settle_faithful {c : Call} {outcome : Outcome} {r : Session × Call}
    (hh : HistoryOk rt asked used s.history) (hs : Logged s.history s.queue)
    (hc : CallFaithful asked s.history c) (hr : settle s outcome c = some r) :
    MoveFaithful rt asked used s r := by
  obtain ⟨hstored, _, hhistory, hqueue, _, _, _, hrequest⟩ := settle_spec hr
  have hqueue' : r.1.queue = s.queue := by rw [Session.queue, Session.queue, hstored]
  refine ⟨?_, ?_, ?_, ?_, ?_⟩
  · intro e he
    rwa [hhistory]
  · rw [hhistory]
    exact hh
  · rw [hqueue', hhistory]
    exact hs
  · intro q hq
    rw [hhistory]
    exact hc.queue q (hqueue ▸ hq)
  · intro request hr
    exact hc.request request (hrequest ▸ hr)

/-! ## Runs -/

/-- A move makes one of the requests, in one of the environments. -/
def MoveFrom (asked : Request → Prop) (used : Env → Prop) : Move (Request × Env) Choice → Prop
  | .start (request, env) => asked request ∧ used env
  | .resume _ (.settle _) => True
  | .resume _ (.proceed env) => used env

theorem moveFrom_true (e : Move (Request × Env) Choice) :
    MoveFrom (fun _ => True) (fun _ => True) e := by
  match e with
  | .start (_, _) => exact ⟨trivial, trivial⟩
  | .resume _ (.settle _) => trivial
  | .resume _ (.proceed _) => trivial

/-- **One move.** -/
theorem faithful_step {p p' : Pool Session Call} {e : Move (Request × Env) Choice}
    (hp : Faithful rt asked used p) (hmove : MoveFrom asked used e)
    (hstep : (program rt policy).step p e = some p') : Faithful rt asked used p' := by
  rcases Program.step_cases hstep with
    ⟨⟨request, env⟩, s', c', rfl, hstart, rfl⟩ | ⟨i, choice, c, s', c', rfl, hi, hresume, rfl⟩
  · obtain ⟨t, htick, hhandle⟩ := Option.map_eq_some_iff.mp hstart
    obtain ⟨_, _, hhistory, hqueue⟩ := tick_spec htick
    have hr : MoveFaithful rt asked used t (s', c') := by
      rw [← hhandle]
      exact handle_faithful hmove.2 hmove.1 (hhistory ▸ hp.history)
        (by rw [hhistory, hqueue]; exact hp.stored)
    refine ⟨hr.history, hr.stored, ?_⟩
    intro d hd
    rcases List.mem_append.mp hd with hd | hd
    · exact (hp.calls d hd).mono fun e he => hr.queued e (hhistory ▸ he)
    · rw [List.mem_singleton.mp hd]
      exact hr.call
  · have hc := hp.calls c (List.mem_of_getElem? hi)
    have hr : MoveFaithful rt asked used p.shared (s', c') := by
      cases choice with
      | settle outcome => exact settle_faithful hp.history hp.stored hc hresume
      | proceed env =>
          obtain ⟨t, htick, hproceed⟩ := Option.bind_eq_some_iff.mp hresume
          obtain ⟨_, _, hhistory, hqueue⟩ := tick_spec htick
          have hr := proceed_faithful hmove (hhistory ▸ hp.history)
            (by rw [hhistory, hqueue]; exact hp.stored) (by rw [hhistory]; exact hc) hproceed
          exact ⟨fun e he => hr.queued e (hhistory ▸ he), hr.history, hr.stored, hr.call⟩
    refine ⟨hr.history, hr.stored, ?_⟩
    intro d hd
    rcases List.mem_or_eq_of_mem_set hd with hd | rfl
    · exact (hp.calls d hd).mono hr.queued
    · exact hr.call

theorem faithful_idle : Faithful rt asked used idle := by
  refine ⟨⟨?_, ?_, ?_, ?_, ?_⟩, ?_, ?_⟩
  · intro e he
    cases he
  · intro f hf
    cases hf
  · intro f hf
    cases hf
  · intro f hf
    cases hf
  · intro v hv
    cases hv
  · intro core hcore
    cases hcore
  · intro c hc
    cases hc

/-- **Every run** whose moves make the requests has a history that comes from them. -/
theorem run_history_ok {moves : List (Move (Request × Env) Choice)} {p : Pool Session Call}
    (hmoves : ∀ e ∈ moves, MoveFrom asked used e)
    (hrun : exec (program rt policy).step idle moves = some p) :
    HistoryOk rt asked used p.shared.history := by
  have hp : Faithful rt asked used p :=
    exec_invariant (Faithful rt asked used)
      (fun _ _ _ hi (hmove : MoveFrom asked used _) hstep => faithful_step hi hmove hstep)
      faithful_idle (allSteps_of_forall (fun e he _ => hmoves e he) idle) hrun
  exact hp.history

/-! ## The inputs of a frame -/

/-- Every frame was sent for some input. -/
theorem HistoryOk.exists_sentFor (hh : HistoryOk rt asked used h) {f : SentFrame}
    (hf : f ∈ h.sent) : ∃ input, SentFor h input f := by
  cases hsource : f.source with
  | direct input => exact ⟨input, .inl hsource⟩
  | queue core =>
      obtain ⟨e, he, hcore⟩ := List.mem_map.mp (hh.known f hf core hsource)
      exact ⟨e.1, .inr ⟨core, hsource, hcore ▸ he⟩⟩

/-- An input that a frame was sent for was requested, and the frame is that of the
input, or of the input without its group id. -/
theorem HistoryOk.sentFor (hh : HistoryOk rt asked used h) {f : SentFrame} (hf : f ∈ h.sent)
    {input : RelayDeliveryInput} (hfor : SentFor h input f) :
    asked (.deliverToConnector input) ∧
      ((f.source = .direct input ∧ f.source.input = input) ∨
        ((∃ core, f.source = .queue core) ∧ f.source.input = { input with groupId := none })) := by
  rcases hfor with hsource | ⟨core, hsource, hcore⟩
  · exact ⟨hh.direct f hf input hsource, .inl ⟨hsource, by rw [hsource]; rfl⟩⟩
  · obtain ⟨hinput, hasked⟩ := hh.queued _ hcore
    exact ⟨hasked, .inr ⟨⟨core, hsource⟩, by rw [hsource]; exact hinput⟩⟩

end

end Clawdentity.Relay
