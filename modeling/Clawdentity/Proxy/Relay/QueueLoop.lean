import Clawdentity.Proxy.Relay.QueueUpdates

/-!
# One pass of the loop over the queue

The loop of `processQueueDeliveries` takes entries out of the list that it indexes, has five
ways to treat an entry, and gives up where too many frames are in flight or a send has
failed. Its pass over the sorted queue is described by the entries that it came to, each
with the answer to its attempt, and by those that it did not come to. The answers are any
sequence, and so are the numbers of frames in flight after them.

## Main definitions

* `runLoop` — the loop with the answers to its attempts.
* `Visit` — an entry that the loop came to.
* `Passed` — what the loop has done with the entries.
* `runLoop_finished` — the loop ends, and what it has done then.
-/

namespace Clawdentity.Relay

open Js Lib Connector

/-! ## The loop with its answers -/

/-- The answer to an attempt, and what the loop finds after it. -/
structure Answer where
  outcome : Outcome
  /-- `getPendingDeliveriesCount()`. -/
  pending : ℕ
  /-- The values of `Math.random()`. -/
  random : ℕ → ℚ

/-- The attempts so far, each with its answer. -/
abbrev LoopLog := List (QueuedRelayDelivery × Answer)

section
variable (rt : Runtime) (policy : RelayDeliveryPolicy) (nowMs : ℚ)

/-- The loop goes on with the answer to the attempt at which it stopped. -/
def answerLoop : LoopExit × LoopLog → Answer → LoopExit × LoopLog
  | (.finished queue mutated, log), _ => (.finished queue mutated, log)
  | (.attempt before current rest mutated, log), a =>
      (afterAttempt rt policy a.pending ⟨nowMs, [], before, current, rest, mutated⟩ a.outcome
          a.random,
        log ++ [(current, a)])

/-- The loop with the answers to its attempts. -/
def runLoop (exit : LoopExit) (answers : List Answer) : LoopExit × LoopLog :=
  answers.foldl (answerLoop rt policy nowMs) (exit, [])

/-- Where the loop of `processQueueDeliveries` stops first. -/
def startLoop (pending : ℕ) (mutated : Bool) (queue : RelayQueueState) : LoopExit :=
  processLoop policy pending nowMs { queue with deliveries := [] } mutated
    (queue.deliveries.mergeSort attemptOrder)

end

/-- A session goes on with the loop by the answer to its frame. -/
theorem proceed_processing (rt : Runtime) (policy : RelayDeliveryPolicy) (s : Session) (env : Env)
    (call : Processing) (outcome : Outcome) (log : LoopLog) :
    proceed rt policy s env (.processing call (.settled outcome)) =
      some (continueProcessing rt policy
        { s with history := s.history.logAttempt call.current.toDeliveryCore outcome }
        call.nowMs call.loaded env
        (answerLoop rt policy call.nowMs
          (.attempt call.before call.current call.rest call.mutated, log)
          ⟨outcome, s.pending, env.random⟩).1) := rfl

/-! ## Visits -/

/-- An entry that the loop came to, with the answer if it made an attempt. -/
structure Visit where
  entry : QueuedRelayDelivery
  outcome : Option Outcome

namespace Visit

/-- The attempts on the entry, with that of the loop. -/
def attempts (v : Visit) : ℕ := v.entry.attemptCount + v.outcome.toList.length

/-- The entry is taken out: it was accepted, is expired or is out of attempts. -/
def Goes (policy : RelayDeliveryPolicy) (nowMs : ℚ) (v : Visit) : Prop :=
  v.outcome = some (.acked true) ∨ v.entry.expiresAtMs ≤ nowMs ∨
    policy.retryMaxAttempts ≤ v.attempts

instance (policy : RelayDeliveryPolicy) (nowMs : ℚ) (v : Visit) : Decidable (v.Goes policy nowMs) :=
  inferInstanceAs (Decidable (_ ∨ _ ∨ _))

/-- The attempt of the visit. -/
def attempt (v : Visit) : Option (QueuedRelayDelivery × Outcome) :=
  v.outcome.map fun outcome => (v.entry, outcome)

end Visit

/-- The entry is due, and neither expired nor out of attempts. -/
structure QueuedRelayDelivery.Attemptable (policy : RelayDeliveryPolicy) (nowMs : ℚ)
    (d : QueuedRelayDelivery) : Prop where
  due : d.nextAttemptAtMs ≤ nowMs
  unexpired : nowMs < d.expiresAtMs
  left : d.attemptCount < policy.retryMaxAttempts

/-- An entry with the number of attempts on it. -/
def QueuedRelayDelivery.counted (d : QueuedRelayDelivery) : DeliveryCore × ℕ :=
  (d.toDeliveryCore, d.attemptCount)

/-- The entries that stay, with their numbers of attempts. -/
def keptVisits (policy : RelayDeliveryPolicy) (nowMs : ℚ) (visited : List Visit) :
    List (DeliveryCore × ℕ) :=
  (visited.filter fun v => decide (¬ v.Goes policy nowMs)).map fun v =>
    (v.entry.toDeliveryCore, v.attempts)

/-- The number of frames in flight that the loop has read last. -/
def LoopLog.pending (log : LoopLog) (first : ℕ) : ℕ := (log.getLast?.map (·.2.pending)).getD first

/-- The loop gave up: too many frames were in flight, or its last attempt has failed. -/
def GivesUp (policy : RelayDeliveryPolicy) (first : ℕ) (log : LoopLog) : Prop :=
  policy.maxInFlightDeliveries ≤ log.pending first ∨
    log.getLast?.map (·.2.outcome) = some .error

/-- **What the loop has done** with the entries, in their order: it came to some, made its
attempts on those that were due, and left the others as they were. -/
structure Passed (policy : RelayDeliveryPolicy) (nowMs : ℚ)
    (entries : List QueuedRelayDelivery) (queue : RelayQueueState) (log : LoopLog)
    (visited : List Visit) (unvisited : List QueuedRelayDelivery) : Prop where
  entries : entries = visited.map (·.entry) ++ unvisited
  attempts : log.map (fun x => (x.1, x.2.outcome)) = visited.filterMap Visit.attempt
  attempted : ∀ v ∈ visited, v.outcome.isSome ↔ v.entry.Attemptable policy nowMs
  kept : queue.counted = keptVisits policy nowMs visited ++ unvisited.map (·.counted)

section
variable {rt : Runtime} {policy : RelayDeliveryPolicy} {nowMs : ℚ} {first : ℕ}
  {entries : List QueuedRelayDelivery} {log : LoopLog} {visited : List Visit}
  {d : QueuedRelayDelivery} {answers : List Answer}

/-! ## One entry -/

theorem keptVisits_append (more : List Visit) :
    keptVisits policy nowMs (visited ++ more) =
      keptVisits policy nowMs visited ++ keptVisits policy nowMs more := by
  simp [keptVisits]

theorem keptVisits_goes {v : Visit} (h : v.Goes policy nowMs) : keptVisits policy nowMs [v] = [] := by
  simp [keptVisits, h]

theorem keptVisits_stays {v : Visit} (h : ¬ v.Goes policy nowMs) :
    keptVisits policy nowMs [v] = [(v.entry.toDeliveryCore, v.attempts)] := by
  simp [keptVisits, h]

/-- The loop comes to an entry. -/
theorem Passed.visit {before queue : RelayQueueState} {rest : List QueuedRelayDelivery}
    {log' : LoopLog} (outcome : Option Outcome)
    (h : Passed policy nowMs entries (before.append (d :: rest)) log visited (d :: rest))
    (hlog : log'.map (fun x => (x.1, x.2.outcome)) =
      log.map (fun x => (x.1, x.2.outcome)) ++ (outcome.map fun o => (d, o)).toList)
    (hattempted : outcome.isSome ↔ d.Attemptable policy nowMs)
    (hqueue : queue.counted =
      before.counted ++ keptVisits policy nowMs [⟨d, outcome⟩] ++ rest.map (·.counted)) :
    Passed policy nowMs entries queue log' (visited ++ [⟨d, outcome⟩]) rest where
  entries := by
    rw [h.entries, List.map_append, List.append_assoc]
    rfl
  attempts := by
    rw [hlog, h.attempts, List.filterMap_append]
    cases outcome <;> rfl
  attempted v hv := by
    rcases List.mem_append.mp hv with hv | hv
    · exact h.attempted v hv
    · rw [List.mem_singleton.mp hv]
      exact hattempted
  kept := by
    have hbefore : before.counted = keptVisits policy nowMs visited := by
      have hkept := h.kept
      rw [RelayQueueState.append_counted] at hkept
      exact List.append_cancel_right hkept
    rw [hqueue, hbefore, keptVisits_append]

/-! ## The loop up to an attempt -/

/-- Where the loop stands after its answers, with at most this number of entries left. -/
inductive Stands (policy : RelayDeliveryPolicy) (nowMs : ℚ) (first : ℕ)
    (entries : List QueuedRelayDelivery) (answers : List Answer) (left : ℕ) :
    LoopExit × LoopLog → Prop
  | finished {queue : RelayQueueState} {mutated : Bool} {log : LoopLog} {visited : List Visit}
      {unvisited : List QueuedRelayDelivery}
      (hpassed : Passed policy nowMs entries queue log visited unvisited)
      (hstop : unvisited = [] ∨ GivesUp policy first log)
      (hlog : log.map (·.2) <+: answers) :
      Stands policy nowMs first entries answers left (.finished queue mutated, log)
  | attempt {before : RelayQueueState} {d : QueuedRelayDelivery}
      {rest : List QueuedRelayDelivery} {mutated : Bool} {log : LoopLog} {visited : List Visit}
      (hpassed : Passed policy nowMs entries (before.append (d :: rest)) log visited (d :: rest))
      (hd : d.Attemptable policy nowMs) (hleft : rest.length < left)
      (hlog : log.map (·.2) = answers) :
      Stands policy nowMs first entries answers left (.attempt before d rest mutated, log)

theorem Stands.mono {left left' : ℕ} {r : LoopExit × LoopLog} (hle : left ≤ left')
    (h : Stands policy nowMs first entries answers left r) :
    Stands policy nowMs first entries answers left' r := by
  cases h with
  | finished hpassed hstop hlog => exact .finished hpassed hstop hlog
  | attempt hpassed hd hleft hlog => exact .attempt hpassed hd (hleft.trans_le hle) hlog

/-- An entry that is not attempted stays in the list or goes, with nothing logged. -/
theorem Passed.pass {before queue : RelayQueueState} {rest : List QueuedRelayDelivery}
    (h : Passed policy nowMs entries (before.append (d :: rest)) log visited (d :: rest))
    (hnot : ¬ d.Attemptable policy nowMs)
    (hqueue : queue.counted = before.counted ++ keptVisits policy nowMs [⟨d, none⟩]) :
    Passed policy nowMs entries (queue.append rest) log (visited ++ [⟨d, none⟩]) rest := by
  refine h.visit none (by simp) ?_ ?_
  · simpa using hnot
  · rw [RelayQueueState.append_counted, hqueue]
    rfl

/-- **The loop up to its next attempt.** -/
theorem processLoop_stands {rest : List QueuedRelayDelivery} (hlog : log.map (·.2) = answers) :
    ∀ {before : RelayQueueState} {visited : List Visit} (mutated : Bool),
      Passed policy nowMs entries (before.append rest) log visited rest →
      Stands policy nowMs first entries answers rest.length
        (processLoop policy (log.pending first) nowMs before mutated rest, log) := by
  induction rest with
  | nil =>
      intro before visited mutated h
      have hbefore : before.append [] = before := by simp [RelayQueueState.append]
      rw [hbefore] at h
      exact .finished h (.inl rfl) (hlog ▸ List.prefix_rfl)
  | cons d rest ih =>
      intro before visited mutated h
      have hskip : ∀ {queue : RelayQueueState} (mutated : Bool),
          ¬ d.Attemptable policy nowMs →
          queue.counted = before.counted ++ keptVisits policy nowMs [⟨d, none⟩] →
          Stands policy nowMs first entries answers (d :: rest).length
            (processLoop policy (log.pending first) nowMs queue mutated rest, log) :=
        fun mutated hnot hqueue =>
          (ih mutated (h.pass hnot hqueue)).mono (Nat.le_succ rest.length)
      unfold processLoop
      by_cases hfull : policy.maxInFlightDeliveries ≤ log.pending first
      · rw [if_pos hfull]
        exact .finished h (.inr (.inl hfull)) (hlog ▸ List.prefix_rfl)
      rw [if_neg hfull]
      by_cases hexpired : d.expiresAtMs ≤ nowMs
      · rw [if_pos hexpired]
        refine hskip true (fun hd => absurd hexpired (not_le.mpr hd.unexpired)) ?_
        rw [keptVisits_goes (.inr (.inl hexpired)), List.append_nil,
          RelayQueueState.deleteQueuedReceipt_counted]
      rw [if_neg hexpired]
      by_cases hspent : policy.retryMaxAttempts ≤ d.attemptCount
      · rw [if_pos hspent]
        refine hskip true (fun hd => absurd hspent (not_le.mpr hd.left)) ?_
        rw [keptVisits_goes (.inr (.inr hspent)), List.append_nil,
          RelayQueueState.deleteQueuedReceipt_counted]
      rw [if_neg hspent]
      by_cases hlater : nowMs < d.nextAttemptAtMs
      · rw [if_pos hlater]
        refine hskip mutated (fun hd => absurd hlater (not_lt.mpr hd.due)) ?_
        have hstays : ¬ (⟨d, none⟩ : Visit).Goes policy nowMs := by
          rintro (haccepted | h | h)
          · cases haccepted
          · exact hexpired h
          · exact hspent h
        rw [keptVisits_stays hstays, RelayQueueState.append_counted]
        rfl
      · rw [if_neg hlater]
        exact .attempt h ⟨not_lt.mp hlater, not_le.mp hexpired, not_le.mp hspent⟩
          (Nat.lt_succ_self _) hlog

/-! ## The loop after an attempt -/

/-- An attempted entry leaves the list or stays in it, with its attempt logged. -/
theorem Passed.answer {before queue : RelayQueueState} {rest : List QueuedRelayDelivery}
    {a : Answer}
    (h : Passed policy nowMs entries (before.append (d :: rest)) log visited (d :: rest))
    (hd : d.Attemptable policy nowMs)
    (hqueue : queue.counted = before.counted ++ keptVisits policy nowMs [⟨d, some a.outcome⟩]
      ++ rest.map (·.counted)) :
    Passed policy nowMs entries queue (log ++ [(d, a)]) (visited ++ [⟨d, some a.outcome⟩])
      rest :=
  h.visit (some a.outcome) (by simp) (by simpa using hd) hqueue

theorem attempted_goes_iff (outcome : Outcome) (hd : d.Attemptable policy nowMs) :
    (⟨d, some outcome⟩ : Visit).Goes policy nowMs ↔
      outcome = .acked true ∨ policy.retryMaxAttempts ≤ d.attemptCount + 1 := by
  have hunexpired : ¬ d.expiresAtMs ≤ nowMs := not_le.mpr hd.unexpired
  simp [Visit.Goes, Visit.attempts, hunexpired]

/-- **The loop up to the attempt after an answer.** -/
theorem answerLoop_stands (rt : Runtime) {left : ℕ} {r : LoopExit × LoopLog} (a : Answer)
    (h : Stands policy nowMs first entries answers (left + 1) r) :
    Stands policy nowMs first entries (answers ++ [a]) left (answerLoop rt policy nowMs r a) := by
  cases h with
  | finished hpassed hstop hlog =>
      exact .finished hpassed hstop (hlog.trans (List.prefix_append _ _))
  | @attempt before d rest mutated log visited hpassed hd hleft hlog =>
      have hlog' : (log ++ [(d, a)]).map (·.2) = answers ++ [a] := by
        rw [List.map_append, hlog]
        rfl
      have hpending : (log ++ [(d, a)] : LoopLog).pending first = a.pending := by
        simp [LoopLog.pending]
      have hgoes := attempted_goes_iff a.outcome hd
      have hloop : ∀ {queue : RelayQueueState}, queue.counted =
          before.counted ++ keptVisits policy nowMs [⟨d, some a.outcome⟩] →
          Stands policy nowMs first entries (answers ++ [a]) left
            (processLoop policy a.pending nowMs queue true rest, log ++ [(d, a)]) := by
        intro queue hqueue
        rw [← hpending]
        refine (processLoop_stands hlog' true (hpassed.answer hd ?_)).mono
          (Nat.lt_succ_iff.mp hleft)
        rw [RelayQueueState.append_counted, hqueue]
        rfl
      unfold answerLoop afterAttempt
      by_cases hacked : a.outcome = .acked true
      · simp only [if_pos hacked]
        refine hloop ?_
        rw [keptVisits_goes (hgoes.mpr (.inl hacked)), List.append_nil,
          RelayQueueState.upsertReceipt_counted]
      simp only [if_neg hacked]
      by_cases hspent : policy.retryMaxAttempts ≤ d.attemptCount + 1
      · simp only [if_pos hspent]
        refine hloop ?_
        rw [keptVisits_goes (hgoes.mpr (.inr hspent)), List.append_nil,
          RelayQueueState.deleteQueuedReceipt_counted]
      simp only [if_neg hspent]
      have hstays := keptVisits_stays (mt hgoes.mp (not_or.mpr ⟨hacked, hspent⟩))
      cases houtcome : a.outcome with
      | error =>
          refine .finished (hpassed.answer hd ?_) (.inr (.inr ?_)) (hlog' ▸ List.prefix_rfl)
          · rw [RelayQueueState.append_counted, List.map_cons, postpone_map, hstays,
              List.append_assoc]
            rfl
          · simp [houtcome]
      | acked accepted =>
          simp only
          refine hloop ?_
          rw [RelayQueueState.append_counted, hstays]
          rfl

/-- The loop after a number of answers. -/
theorem runLoop_stands (rt : Runtime) {exit : LoopExit} {left : ℕ}
    (h : ∀ left', left ≤ left' → Stands policy nowMs first entries [] left' (exit, []))
    (answers : List Answer) : ∀ left', left ≤ left' + answers.length →
      Stands policy nowMs first entries answers left' (runLoop rt policy nowMs exit answers) := by
  induction answers using List.reverseRecOn with
  | nil => exact h
  | append_singleton answers a ih =>
      intro left' hle
      rw [List.length_append, List.length_singleton] at hle
      have hlast := answerLoop_stands rt a (ih (left' + 1) (by omega))
      rwa [runLoop, List.foldl_append]

end

section
variable (rt : Runtime) (policy : RelayDeliveryPolicy) (nowMs : ℚ)

/-- **The loop ends.** Whatever the queue, the number of frames in flight and the answers, no
more answers are needed than the queue has entries. It came to some entries in the order of
the queue, and not to the others only where it gave up. -/
theorem runLoop_finished (pending : ℕ) (mutated : Bool) (queue : RelayQueueState)
    (answers : List Answer) (henough : queue.deliveries.length ≤ answers.length) :
    ∃ queue' mutated' log visited unvisited,
      runLoop rt policy nowMs (startLoop policy nowMs pending mutated queue) answers =
        (.finished queue' mutated', log) ∧
      Passed policy nowMs (queue.deliveries.mergeSort attemptOrder) queue' log visited
        unvisited ∧
      (unvisited = [] ∨ GivesUp policy pending log) ∧ log.map (·.2) <+: answers := by
  have hstart : Passed policy nowMs (queue.deliveries.mergeSort attemptOrder)
      (({ queue with deliveries := [] } : RelayQueueState).append
        (queue.deliveries.mergeSort attemptOrder)) [] []
      (queue.deliveries.mergeSort attemptOrder) := by
    refine ⟨rfl, rfl, fun v hv => absurd hv List.not_mem_nil, ?_⟩
    simp [RelayQueueState.counted, RelayQueueState.append, keptVisits,
      QueuedRelayDelivery.counted]
  have hfirst : Stands policy nowMs pending (queue.deliveries.mergeSort attemptOrder) []
      (queue.deliveries.mergeSort attemptOrder).length
      (startLoop policy nowMs pending mutated queue, []) :=
    processLoop_stands rfl mutated hstart
  have hend : Stands policy nowMs pending (queue.deliveries.mergeSort attemptOrder) answers 0
      (runLoop rt policy nowMs (startLoop policy nowMs pending mutated queue) answers) := by
    refine runLoop_stands rt (fun left hle => hfirst.mono hle) answers 0 ?_
    rwa [List.length_mergeSort, Nat.zero_add]
  generalize runLoop rt policy nowMs (startLoop policy nowMs pending mutated queue) answers = r
    at hend ⊢
  cases hend with
  | finished hpassed hstop hlog => exact ⟨_, _, _, _, _, rfl, hpassed, hstop, hlog⟩
  | attempt hpassed hd hleft hlog => exact absurd hleft (Nat.not_lt_zero _)

end

end Clawdentity.Relay
