import Clawdentity.Connector.InboxInvariant
import Mathlib.Algebra.Order.BigOperators.Group.List
import Mathlib.Algebra.Order.Group.Nat

/-!
# The limits of the inbox

An enqueue looks at the limits before it stores a message. A replay of dead letters puts
messages into the pending table as well, and looks at no limit.

## Main definitions

* `Inbox.Capped` — the pending messages are within the limits.
* `Fits` — the dead letters that a replay selects fit beside the pending messages.
* `inbox_capped` — every inbox is within the limits where every replay fits.
* `not_inbox_capped` — a replay goes over them.
-/

namespace Clawdentity.Connector.InboundInbox

open Js Lib.Transaction Lib.Run Lib.Rows

section
variable {options : InboxOptions} {env : Env} {inbox inbox' : Inbox} {s t : Tables}

/-- The sum of the payloads of some messages. -/
def totalBytes (messages : List Message) : ℕ := (messages.map (·.payloadBytes)).sum

/-- The number and the payloads of the pending messages are within the limits. -/
def Inbox.Capped (options : InboxOptions) (inbox : Inbox) : Prop :=
  inbox.tables.pending.length ≤ options.maxPendingMessages ∧
    payloadBytes inbox.tables.pending ≤ options.maxPendingBytes

/-- The dead letters that a replay selects. -/
def selected (s : Tables) : Option (List JsString) → List Message
  | some requestIds => taken (·.requestId) (sanitizeRequestIds requestIds) s.deadMessages
  | none => s.deadMessages

/-- The selected dead letters fit beside the pending messages. -/
def Fits (options : InboxOptions) (s : Tables) (requestIds : Option (List JsString)) : Prop :=
  s.pending.length + (selected s requestIds).length ≤ options.maxPendingMessages ∧
    payloadBytes s.pending + totalBytes (selected s requestIds) ≤ options.maxPendingBytes

/-- A replay is called where what it selects fits. -/
def StepFits (options : InboxOptions) (inbox : Inbox) (call : Operation × Env) : Prop :=
  match call.1 with
  | .replayDeadLetter requestIds => Fits options inbox.tables requestIds
  | _ => True

instance : DecidablePred (Fits options s) := fun _ => inferInstanceAs (Decidable (_ ∧ _))

instance : DecidablePred (StepFits options inbox)
  | (.replayDeadLetter requestIds, _) =>
      inferInstanceAs (Decidable (Fits options inbox.tables requestIds))
  | (.enqueue _, _) => isTrue trivial
  | (.listDuePending _ _, _) => isTrue trivial
  | (.markDelivered _, _) => isTrue trivial
  | (.markReplayFailure _, _) => isTrue trivial
  | (.listDeadLetter _, _) => isTrue trivial
  | (.purgeDeadLetter _, _) => isTrue trivial

/-! ## The messages of the pending table -/

theorem capped_iff : inbox.Capped options ↔
    inbox.tables.pendingMessages.length ≤ options.maxPendingMessages ∧
      totalBytes inbox.tables.pendingMessages ≤ options.maxPendingBytes := by
  simp only [Inbox.Capped, payloadBytes, totalBytes, Tables.pendingMessages, List.length_map,
    List.map_map, Function.comp_def]

theorem totalBytes_append (ms ms' : List Message) :
    totalBytes (ms ++ ms') = totalBytes ms + totalBytes ms' := by
  simp only [totalBytes, List.map_append, List.sum_append]

theorem totalBytes_perm {ms ms' : List Message} (h : ms.Perm ms') :
    totalBytes ms = totalBytes ms' := (h.map _).sum_eq

/-- Messages that leave the table leave it within the limits. -/
theorem Inbox.Capped.of_sublist (h : inbox.Capped options)
    (hsub : inbox'.tables.pendingMessages.Sublist inbox.tables.pendingMessages) :
    inbox'.Capped options := by
  obtain ⟨hcount, hbytes⟩ := capped_iff.mp h
  refine capped_iff.mpr ⟨hsub.length_le.trans hcount, ?_⟩
  exact (List.Sublist.sum_le_sum (hsub.map _) fun _ _ => Nat.zero_le _).trans hbytes

theorem Inbox.Capped.of_pending (h : inbox.Capped options)
    (hpending : inbox'.tables.pending = inbox.tables.pending) : inbox'.Capped options := by
  rw [Inbox.Capped, hpending]
  exact h

/-- A replay that names no ids selects every dead letter. -/
theorem taken_deadLetterRequestIds (s : Tables) :
    taken (·.requestId) s.deadLetterRequestIds s.deadLetter = s.deadLetter := by
  refine taken_eq_self ?_
  intro row hrow
  have hlisted : row ∈ s.deadLetter.insertionSort isListedBefore :=
    (List.mem_insertionSort isListedBefore).mpr hrow
  exact List.mem_map.mpr ⟨row, hlisted, rfl⟩

/-- **What a replay that goes to its end adds** is what it selects. -/
theorem replayDeadLetter_pending {requestIds : Option (List JsString)} {count : ℕ}
    (hids : (s.deadLetter.map (·.requestId)).Nodup)
    (h : Does (replayDeadLetter options requestIds env) s count t) :
    t.pendingMessages.Perm (s.pendingMessages ++ selected s requestIds) := by
  obtain ⟨ids, m, hselect, hloop⟩ := does_bind h
  obtain ⟨rfl, hselect⟩ := selectedIds_spec hselect
  have hpending := (replayLoop_spec hids hloop).1
  cases requestIds with
  | none =>
      rwa [hselect, Option.elim_none, taken_deadLetterRequestIds] at hpending
  | some requestIds =>
      rw [selected, Tables.deadMessages, taken_map]
      rwa [hselect, Option.elim_some] at hpending

/-- A replay that goes to its end is within the limits exactly where what it selects fits. -/
theorem capped_replay_iff {requestIds : Option (List JsString)} {count : ℕ} (h : inbox.Sound)
    (hdoes : Does (replayDeadLetter options requestIds env) inbox.tables count t) :
    ({ inbox with tables := t } : Inbox).Capped options ↔ Fits options inbox.tables requestIds := by
  have hperm := replayDeadLetter_pending h.dead_ids hdoes
  rw [capped_iff, totalBytes_perm hperm, hperm.length_eq, totalBytes_append, List.length_append]
  simp only [Fits, payloadBytes, totalBytes, Tables.pendingMessages, List.length_map, List.map_map,
    Function.comp_def]

/-! ## One operation -/

theorem capped_enqueue (h : inbox.Capped options) (frame : DeliverFrame) :
    (run options (.enqueue frame) env inbox).2.Capped options := by
  simp only [run]
  rcases runInTransaction_cases (enqueue options frame inbox.accepted.length env) env.fault
    inbox.tables with heq | ⟨result, t, hdoes, heq⟩
  · rw [heq]
    exact h
  rw [heq]
  cases enqueue_spec hdoes with
  | refused hnew hkeeps => exact h.of_pending hkeeps.1
  | stored hnew hfree hcount hbytes hpending hdead =>
      simp only [Inbox.Capped, hpending, payloadBytes, List.length_append, List.length_singleton,
        List.map_append, List.map_singleton, List.sum_append, List.sum_singleton]
      exact ⟨hcount, hbytes⟩

theorem capped_markDelivered (h : inbox.Capped options) (requestId : JsString) :
    (run options (.markDelivered requestId) env inbox).2.Capped options := by
  simp only [run]
  rcases runInTransaction_cases (markDelivered options requestId) env.fault inbox.tables with
    heq | ⟨u, t, hdoes, heq⟩
  · rw [heq]
    exact h.of_pending rfl
  rw [heq]
  refine h.of_sublist ?_
  simp only [Tables.pendingMessages, (markDelivered_spec hdoes).1]
  exact List.filter_sublist.map _

theorem capped_markReplayFailure (hsound : inbox.Sound) (h : inbox.Capped options)
    (input : MarkReplayFailureInput) :
    (run options (.markReplayFailure input) env inbox).2.Capped options := by
  simp only [run]
  rcases runInTransaction_cases (markReplayFailure options input env) env.fault inbox.tables with
    heq | ⟨moved, t, hdoes, heq⟩
  · rw [heq]
    exact h
  rw [heq]
  refine h.of_sublist ?_
  cases markReplayFailure_spec hsound.pending_ids hdoes with
  | stays hpending hdead => exact hpending ▸ List.Sublist.refl _
  | moves row hrow hpending hdead =>
      simp only [Tables.pendingMessages, hpending]
      exact List.filter_sublist.map _

theorem capped_replayDeadLetter (hsound : inbox.Sound) (h : inbox.Capped options)
    {requestIds : Option (List JsString)} (hfits : Fits options inbox.tables requestIds) :
    (run options (.replayDeadLetter requestIds) env inbox).2.Capped options := by
  simp only [run]
  rcases runInTransaction_cases (replayDeadLetter options requestIds env) env.fault inbox.tables
    with heq | ⟨count, t, hdoes, heq⟩
  · rw [heq]
    exact h
  · rw [heq]
    exact (capped_replay_iff hsound hdoes).mpr hfits

theorem capped_purgeDeadLetter (h : inbox.Capped options) (requestIds : Option (List JsString)) :
    (run options (.purgeDeadLetter requestIds) env inbox).2.Capped options := by
  simp only [run]
  rcases runInTransaction_cases (purgeDeadLetter options requestIds) env.fault inbox.tables with
    heq | ⟨count, t, hdoes, heq⟩
  · rw [heq]
    exact h.of_pending rfl
  rw [heq]
  obtain ⟨ids, m, hids, hloop⟩ := does_bind hdoes
  obtain ⟨rfl, -⟩ := selectedIds_spec hids
  exact h.of_pending (purgeLoop_spec hloop).1

/-- One operation keeps the inbox within its limits, where it is no replay or the replay fits. -/
theorem capped_step (hsound : inbox.Sound) (h : inbox.Capped options) (call : Operation × Env)
    (hfits : StepFits options inbox call) (hstep : step options inbox call = some inbox') :
    inbox'.Capped options := by
  obtain ⟨op, env⟩ := call
  obtain rfl := Option.some.inj hstep
  cases op with
  | enqueue frame => exact capped_enqueue h frame
  | listDuePending limit nowAt => exact h
  | markDelivered requestId => exact capped_markDelivered h requestId
  | markReplayFailure input => exact capped_markReplayFailure hsound h input
  | listDeadLetter limit => exact h
  | replayDeadLetter requestIds => exact capped_replayDeadLetter hsound h hfits
  | purgeDeadLetter requestIds => exact capped_purgeDeadLetter h requestIds

/-- **The inbox is within its limits** in every run in which the dead letters that a replay
selects fit beside the messages that are pending. -/
theorem inbox_capped {calls : List (Operation × Env)}
    (hfits : AllSteps (step options) (StepFits options) Inbox.empty calls)
    (hrun : exec (step options) Inbox.empty calls = some inbox) :
    inbox.tables.pending.length ≤ options.maxPendingMessages ∧
      payloadBytes inbox.tables.pending ≤ options.maxPendingBytes := by
  have hboth : inbox.Sound ∧ inbox.Capped options := by
    refine exec_invariant (fun inbox => inbox.Sound ∧ inbox.Capped options) ?_
      ⟨sound_empty, Nat.zero_le _, Nat.zero_le _⟩ hfits hrun
    intro inbox call inbox' hs hfits hstep
    exact ⟨sound_step hs.1 call hstep, capped_step hs.1 hs.2 call hfits hstep⟩
  exact hboth.2

end

/-- **A replay goes over the limit**: one message may be pending, and another one came while the
first was a dead letter. -/
theorem not_inbox_capped :
    ¬∀ (options : InboxOptions) (calls : List (Operation × Env)) (inbox : Inbox),
      exec (step options) Inbox.empty calls = some inbox →
        inbox.tables.pending.length ≤ options.maxPendingMessages ∧
          payloadBytes inbox.tables.pending ≤ options.maxPendingBytes := by
  intro h
  have hlength := (h exampleOptions exampleCalls _ rfl).1
  exact absurd hlength (by decide)

/-- Where the other message is delivered before, the replay fits. -/
theorem exampleCalls_capped : ∃ inbox,
    exec (step exampleOptions) .empty (exampleCalls.take 2 ++ exampleCalls.drop 3) = some inbox ∧
      inbox.tables.pending.length ≤ 1 ∧ payloadBytes inbox.tables.pending ≤ 100 := by
  obtain ⟨inbox, hrun⟩ : ∃ inbox, exec (step exampleOptions) .empty
      (exampleCalls.take 2 ++ exampleCalls.drop 3) = some inbox := ⟨_, rfl⟩
  have hfits : AllSteps (step exampleOptions) (StepFits exampleOptions) .empty
      (exampleCalls.take 2 ++ exampleCalls.drop 3) := by decide
  exact ⟨inbox, hrun, inbox_capped hfits hrun⟩

end Clawdentity.Connector.InboundInbox
