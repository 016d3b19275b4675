import Clawdentity.Connector.AcceptedMessages
import Clawdentity.Lib.Interleave
import Mathlib.Algebra.BigOperators.Ring.List

/-!
# Attempts at the webhook

In one pass a message is posted to the webhook as often as the settings allow, and no more: the
attempts after a new token and those after a wait are counted together. What has been posted and
what the lanes of a pass may still post is bounded by one number, which no step increases.

## Main definitions

* `posts` — the requests for a message in a pass.
* `LaneState.left` — the requests that a lane may still make for it.
* `Bounded` — the invariant.
* `posts_run` — the bound in every run.
-/

namespace Clawdentity.Connector.InboundRuntime

open Js Lib Lib.Run InboundInbox InboundReplay

def Entry.isPostOf (pass : ℕ) (requestId : JsString) : Entry → Bool
  | .posted p pending _ _ => decide (p = pass) && decide (pending.requestId = requestId)
  | _ => false

/-- The requests to the webhook for a message in a pass. -/
def posts (history : List Entry) (pass : ℕ) (requestId : JsString) : ℕ :=
  history.countP (Entry.isPostOf pass requestId)

/-- How often a message is among the items. -/
def occurrences (requestId : JsString) (items : List InboxItem) : ℕ :=
  items.countP fun item => decide (item.requestId = requestId)

/-- The attempt that is going on. -/
def Delivery.attempt : Delivery → ℕ
  | .requesting attempt _ | .syncing attempt _ _ | .waiting attempt _ => attempt

section
variable (most : ℕ) (requestId : JsString)

/-- The requests for a message that a lane may still make, if it may make `most` for each. -/
def LaneState.left : LaneState → ℕ
  | .next items => occurrences requestId items * most
  | .delivering pending rest delivery =>
      (if pending.requestId = requestId then most - delivery.attempt else 0) +
        occurrences requestId rest * most
  | .marking _ rest | .failing _ _ rest => occurrences requestId rest * most
  | .returned | .rejected => 0

def Lane.left (pass : ℕ) (lane : Lane) : ℕ :=
  if lane.pass = pass then lane.state.left most requestId else 0

/-- The requests that were made in a pass, and those that its lanes may still make. -/
def Runtime.spent (pass : ℕ) (s : Runtime) : ℕ :=
  posts s.history pass requestId + (s.lanes.map (Lane.left most requestId pass)).sum

end

/-- A lane waits only for an attempt that the settings allow. -/
def LaneState.MayRetry (most : ℕ) : LaneState → Prop
  | .delivering _ _ (.waiting attempt _) => attempt < most
  | _ => True

/-- The passes whose lanes have begun. -/
def Runtime.begun (s : Runtime) : ℕ :=
  match s.phase with
  | .running => s.passes + 1
  | _ => s.passes

/-- `runtimeReplayMaxAttempts`, of which the first attempt is always made. -/
def Config.maxAttempts (c : Config) : ℕ := max 1 c.runtimeReplayMaxAttempts

section
variable {c : Config} {s t : Runtime} {pass : ℕ} {requestId : JsString}

/-! ## A lane -/

theorem posts_cons (e : Entry) (history : List Entry) :
    posts (e :: history) pass requestId =
      posts history pass requestId + if e.isPostOf pass requestId then 1 else 0 :=
  List.countP_cons ..

theorem occurrences_cons (item : InboxItem) (items : List InboxItem) :
    occurrences requestId (item :: items) =
      occurrences requestId items + if item.requestId = requestId then 1 else 0 := by
  simp [occurrences, List.countP_cons]

/-- An attempt takes one from what is left. -/
theorem beginAttempt_left {lane : Lane} {pending : InboxItem} {rest : List InboxItem}
    {attempt most : ℕ} (hattempt : 1 ≤ attempt) (hmost : attempt ≤ most) :
    posts (beginAttempt s lane pending rest attempt).1.history pass requestId +
        Lane.left most requestId pass
          { lane with state := (beginAttempt s lane pending rest attempt).2 } ≤
      posts s.history pass requestId +
        (if lane.pass = pass then
          (if pending.requestId = requestId then most - (attempt - 1) else 0) +
            occurrences requestId rest * most
        else 0) := by
  unfold beginAttempt
  by_cases hstopping : s.runtimeStopping = true
  · simp only [hstopping, if_true, Lane.left, LaneState.left, Delivery.attempt]
    by_cases hpass : lane.pass = pass
    · by_cases hid : pending.requestId = requestId
      · simp only [hpass, hid, if_true]
        omega
      · simp [hpass, hid]
    · simp [hpass]
  · simp only [hstopping, Bool.false_eq_true, if_false, Lane.left, LaneState.left,
      Delivery.attempt, Runtime.record, List.singleton_append, posts_cons, Entry.isPostOf]
    by_cases hpass : lane.pass = pass
    · by_cases hid : pending.requestId = requestId
      · simp only [hpass, hid, if_true, decide_true, Bool.and_self]
        omega
      · simp [hpass, hid]
    · simp [hpass]

/-- An error takes nothing. -/
theorem retryOrFail_left {pending : InboxItem} {rest : List InboxItem} {attempt most : ℕ}
    {error : DeliveryError} {nowMs : ℤ} :
    (retryOrFail c s pending rest attempt error nowMs).left most requestId ≤
      (if pending.requestId = requestId then most - attempt else 0) +
        occurrences requestId rest * most := by
  simp only [retryOrFail]
  split
  · exact Nat.le_add_left _ _
  · exact le_rfl

/-- A wait is for an attempt that the settings allow. -/
theorem retryOrFail_mayRetry {pending : InboxItem} {rest : List InboxItem} {attempt : ℕ}
    {error : DeliveryError} {nowMs : ℤ} :
    (retryOrFail c s pending rest attempt error nowMs).MayRetry c.runtimeReplayMaxAttempts := by
  simp only [retryOrFail]
  split
  · trivial
  · rename_i hretry
    simp only [Bool.or_eq_true, Bool.not_eq_true', decide_eq_false_iff_not, not_or, not_not] at hretry
    exact hretry.1.2

/-- What a lane does to the requests. -/
structure LaneSpends (c : Config) (s t : Runtime) (lane : Lane) (state : LaneState) : Prop where
  mayRetry : state.MayRetry c.runtimeReplayMaxAttempts
  spent : ∀ pass requestId,
    posts t.history pass requestId +
        Lane.left c.maxAttempts requestId pass { lane with state } ≤
      posts s.history pass requestId + Lane.left c.maxAttempts requestId pass lane
  phase : t.phase = s.phase
  passes : t.passes = s.passes

theorem laneSpends_self {lane : Lane} {state : LaneState}
    (hretry : state.MayRetry c.runtimeReplayMaxAttempts) (hposts : t.history = s.history)
    (hphase : t.phase = s.phase) (hpasses : t.passes = s.passes)
    (hleft : ∀ requestId, state.left c.maxAttempts requestId ≤
      lane.state.left c.maxAttempts requestId) : LaneSpends c s t lane state where
  mayRetry := hretry
  spent pass requestId := by
    rw [hposts]
    have h := hleft requestId
    simp only [Lane.left]
    split <;> omega
  phase := hphase
  passes := hpasses

theorem laneSpends_begin (s : Runtime) (lane : Lane) (pending : InboxItem)
    (rest : List InboxItem) {attempt : ℕ}
    (hattempt : 1 ≤ attempt) (hmost : attempt ≤ c.maxAttempts)
    (hleft : ∀ requestId, (if pending.requestId = requestId then c.maxAttempts - (attempt - 1)
      else 0) + occurrences requestId rest * c.maxAttempts ≤
        lane.state.left c.maxAttempts requestId) :
    LaneSpends c s (beginAttempt s lane pending rest attempt).1 lane
      (beginAttempt s lane pending rest attempt).2 where
  mayRetry := by
    unfold beginAttempt
    split <;> trivial
  spent pass requestId := by
    refine (beginAttempt_left hattempt hmost).trans (Nat.add_le_add_left ?_ _)
    simp only [Lane.left]
    split
    · exact hleft requestId
    · exact le_rfl
  phase := by
    unfold beginAttempt
    split <;> rfl
  passes := by
    unfold beginAttempt
    split <;> rfl

theorem one_le_maxAttempts (c : Config) : 1 ≤ c.maxAttempts := le_max_left _ _

/-- **A lane** makes a request only for one that it may still make. -/
theorem resumeLane_spends {lane : Lane} {choice : LaneChoice} {state : LaneState}
    (hretry : lane.state.MayRetry c.runtimeReplayMaxAttempts)
    (hstep : resumeLane c s lane choice = some (t, state)) : LaneSpends c s t lane state := by
  have hmax : c.runtimeReplayMaxAttempts ≤ c.maxAttempts := le_max_right _ _
  cases choice with
  | next =>
      simp only [resumeLane] at hstep
      split at hstep
      · cases hstep
        exact laneSpends_self trivial rfl rfl rfl fun _ => Nat.zero_le _
      · rename_i pending rest hstate
        have hspec := laneSpends_begin s lane pending rest le_rfl (one_le_maxAttempts c) ?_
        · rwa [Option.some.inj hstep] at hspec
        · intro requestId
          rw [hstate]
          simp only [LaneState.left, occurrences_cons]
          split <;> simp [Nat.add_mul, Nat.add_comm]
      · cases hstep
  | fetched result nowMs =>
      simp only [resumeLane] at hstep
      split at hstep
      · rename_i pending rest attempt isSent hstate
        split at hstep
        · cases hstep
        split at hstep
        · cases hstep
          refine ⟨trivial, fun pass requestId => ?_, rfl, rfl⟩
          simp only [Runtime.record, List.singleton_append, posts_cons, Entry.isPostOf, Lane.left,
            LaneState.left, hstate, Bool.false_eq_true, if_false]
          split <;> omega
        · split at hstep
          · cases hstep
            exact laneSpends_self trivial rfl rfl rfl fun _ => Nat.zero_le _
          split at hstep
          · cases hstep
            refine laneSpends_self trivial rfl rfl rfl fun requestId => ?_
            rw [hstate]
            exact le_rfl
          · cases hstep
            refine laneSpends_self retryOrFail_mayRetry rfl rfl rfl
              fun requestId => ?_
            rw [hstate]
            exact retryOrFail_left
      · cases hstep
  | synced diskToken nowMs =>
      simp only [resumeLane] at hstep
      have hsame : (syncDeliveryWebhookHookToken c s diskToken).history = s.history ∧
          (syncDeliveryWebhookHookToken c s diskToken).phase = s.phase ∧
          (syncDeliveryWebhookHookToken c s diskToken).passes = s.passes := by
        unfold syncDeliveryWebhookHookToken
        split <;> exact ⟨rfl, rfl, rfl⟩
      obtain ⟨hhistory, hphase, hpasses⟩ := hsame
      split at hstep
      · rename_i pending rest attempt previousToken error hstate
        split at hstep
        · rename_i hagain
          simp only [Bool.and_eq_true, decide_eq_true_eq] at hagain
          have hspec := laneSpends_begin (syncDeliveryWebhookHookToken c s diskToken) lane
            pending rest (Nat.le_add_left 1 attempt) (hagain.2.trans_le hmax) ?_
          · rw [Option.some.inj hstep] at hspec
            refine ⟨hspec.mayRetry, fun pass requestId => ?_, hspec.phase.trans hphase,
              hspec.passes.trans hpasses⟩
            rw [← hhistory]
            exact hspec.spent pass requestId
          · intro requestId
            rw [hstate]
            exact le_rfl
        · cases hstep
          refine laneSpends_self retryOrFail_mayRetry hhistory hphase hpasses
            fun requestId => ?_
          rw [hstate]
          exact retryOrFail_left
      · cases hstep
  | elapsed =>
      simp only [resumeLane] at hstep
      split at hstep
      · rename_i pending rest attempt delayMs hstate
        rw [hstate] at hretry
        have hagain : attempt < c.runtimeReplayMaxAttempts := hretry
        have hspec := laneSpends_begin s lane pending rest (Nat.le_add_left 1 attempt)
          (hagain.trans_le hmax) ?_
        · rwa [Option.some.inj hstep] at hspec
        · intro requestId
          rw [hstate]
          exact le_rfl
      · cases hstep
  | aborted =>
      simp only [resumeLane] at hstep
      split at hstep
      · split at hstep
        · cases hstep
          exact laneSpends_self trivial rfl rfl rfl fun _ => Nat.zero_le _
        · cases hstep
      · cases hstep
  | marked env reason nowMs =>
      simp only [resumeLane] at hstep
      split at hstep
      · rename_i pending rest hstate
        split at hstep
        · cases hstep
          refine ⟨trivial, fun pass requestId => ?_, rfl, rfl⟩
          simp [Runtime.record, posts_cons, Entry.isPostOf, Lane.left, LaneState.left, hstate]
        · cases hstep
          refine laneSpends_self trivial rfl rfl rfl fun requestId => ?_
          rw [hstate]
          exact le_rfl
      · cases hstep
  | recorded env =>
      simp only [resumeLane] at hstep
      split at hstep
      · rename_i pending input rest hstate
        split at hstep
        · cases hstep
          refine ⟨trivial, fun pass requestId => ?_, rfl, rfl⟩
          simp [Runtime.record, posts_cons, Entry.isPostOf, Lane.left, LaneState.left, hstate]
        · cases hstep
          refine laneSpends_self trivial rfl rfl rfl fun requestId => ?_
          rw [hstate]
          exact le_rfl
        · cases hstep
          exact laneSpends_self trivial rfl rfl rfl fun _ => Nat.zero_le _
      · cases hstep

/-! ## The lanes of a pass -/

/-- The lanes of a pass share the messages of the listing. -/
theorem sum_occurrences_lanes (requestId : JsString) (dueItems : List InboxItem) :
    ((groupDueItemsByLane dueItems).map (occurrences requestId)).sum =
      occurrences requestId dueItems := by
  have hfold : ∀ laneByKey : OrderedMap JsString (List InboxItem),
      ((dueItems.foldl addToLane laneByKey).values.map (occurrences requestId)).sum =
        (laneByKey.values.map (occurrences requestId)).sum + occurrences requestId dueItems := by
    induction dueItems with
    | nil => intro laneByKey; rfl
    | cons pending dueItems ih =>
        intro laneByKey
        rw [List.foldl_cons, ih, occurrences_cons]
        -- the message goes to the end of its lane
        have hadd : ((addToLane laneByKey pending).values.map (occurrences requestId)).sum =
            (laneByKey.values.map (occurrences requestId)).sum +
              if pending.requestId = requestId then 1 else 0 := by
          cases hlane : laneByKey.get? (laneKey pending) with
          | none =>
              have hsum := OrderedMap.sum_set (occurrences requestId) laneByKey (laneKey pending)
                [pending]
              simp only [hlane, Option.elim_none, occurrences_cons] at hsum
              simp only [addToLane, hlane]
              exact hsum.trans (by simp [occurrences])
          | some lane =>
              have hsum := OrderedMap.sum_set (occurrences requestId) laneByKey (laneKey pending)
                (lane ++ [pending])
              have happend : occurrences requestId (lane ++ [pending]) =
                  occurrences requestId lane + if pending.requestId = requestId then 1 else 0 := by
                simp [occurrences, List.countP_append, List.countP_cons]
              simp only [hlane, Option.elim_some, happend] at hsum
              simp only [addToLane, hlane]
              omega
        omega
  have h := hfold .empty
  rwa [show ((OrderedMap.empty : OrderedMap JsString (List InboxItem)).values.map
    (occurrences requestId)).sum = 0 from rfl, Nat.zero_add] at h

theorem occurrences_le_one {items : List InboxItem} (h : (items.map (·.requestId)).Nodup)
    (requestId : JsString) : occurrences requestId items ≤ 1 := by
  have hcount := List.nodup_iff_count_le_one.mp h requestId
  rw [List.count, List.countP_map] at hcount
  refine le_trans (le_of_eq ?_) hcount
  exact List.countP_congr fun item _ => by simp

/-- What the new lanes of a pass may make. -/
theorem sum_left_lanes (most pass number : ℕ) (requestId : JsString)
    (senderProfilesByDid : OrderedMap JsString DeliveryWebhookSenderProfile)
    (dueItems : List InboxItem) :
    (((groupDueItemsByLane dueItems).map fun items =>
        (⟨number, senderProfilesByDid, .next items⟩ : Lane)).map
          (Lane.left most requestId pass)).sum =
      if number = pass then occurrences requestId dueItems * most else 0 := by
  rw [← sum_occurrences_lanes, List.map_map]
  by_cases hpass : number = pass
  · simp only [hpass, if_true, ← List.sum_map_mul_right]
    congr 1
    refine List.map_congr_left fun items _ => ?_
    simp [Lane.left, LaneState.left]
  · simp only [hpass, if_false]
    refine List.sum_eq_zero fun n hn => ?_
    obtain ⟨items, -, rfl⟩ := List.mem_map.mp hn
    simp [Lane.left, hpass]

/-! ## The run -/

/-- The invariant. -/
structure Bounded (c : Config) (s : Runtime) : Prop where
  mayRetry : ∀ lane ∈ s.lanes, lane.state.MayRetry c.runtimeReplayMaxAttempts
  spent : ∀ pass requestId, s.spent c.maxAttempts requestId pass ≤ c.maxAttempts
  unbegun : ∀ pass requestId, s.begun ≤ pass → s.spent c.maxAttempts requestId pass = 0
  listed : (s.phase.items.map (·.requestId)).Nodup

/-- A step that makes no request, and keeps the lanes. -/
theorem Bounded.keep (h : Bounded c s) (hlanes : t.lanes = s.lanes)
    (hposts : ∀ pass requestId, posts t.history pass requestId = posts s.history pass requestId)
    (hbegun : s.begun ≤ t.begun) (hlisted : (t.phase.items.map (·.requestId)).Nodup) :
    Bounded c t := by
  have hspent : ∀ pass requestId, t.spent c.maxAttempts requestId pass =
      s.spent c.maxAttempts requestId pass := by
    intro pass requestId
    simp only [Runtime.spent, hlanes, hposts]
  refine ⟨?_, ?_, ?_, hlisted⟩
  · rw [hlanes]
    exact h.mayRetry
  · intro pass requestId
    rw [hspent]
    exact h.spent pass requestId
  · intro pass requestId hpass
    rw [hspent]
    exact h.unbegun pass requestId (hbegun.trans hpass)

theorem posts_record {e : Entry} (he : ∀ pass requestId, e.isPostOf pass requestId = false)
    (pass : ℕ) (requestId : JsString) :
    posts (e :: s.history) pass requestId = posts s.history pass requestId := by
  rw [posts_cons, he]
  rfl

theorem nodup_listDuePending_ids (h : Inv c s) (limit : ℤ) (nowAt : JsString) :
    ((listDuePending s.inbox.tables limit nowAt).map (·.requestId)).Nodup := by
  rw [listDuePending, List.map_map]
  have hperm := List.perm_insertionSort isDueBefore
    (s.inbox.tables.pending.filter fun row => decide (row.nextAttemptAt ≤ nowAt))
  have hids : ((s.inbox.tables.pending.filter fun row =>
      decide (row.nextAttemptAt ≤ nowAt)).map fun row => row.requestId).Nodup :=
    h.core.sound.pending_ids.sublist (List.filter_sublist.map _)
  have hsorted := ((hperm.map fun row => row.requestId).nodup_iff).mpr hids
  exact hsorted.sublist ((List.take_sublist _ _).map _)

/-- **The step lemma.** -/
theorem bounded_step {e : Event} (hinv : Inv c s) (h : Bounded c s)
    (hstep : step c s e = some t) : Bounded c t := by
  cases e with
  | deliver frame env reason =>
      cases hstep
      have hkeep : ∀ inbox calls, Bounded c { s with inbox, calls } :=
        fun inbox calls => h.keep rfl (fun _ _ => rfl) le_rfl h.listed
      simp only [handleInboundDeliverFrame]
      split
      · split
        · split
          · exact hkeep _ _
          · exact h.keep rfl (posts_record fun _ _ => rfl) le_rfl h.listed
        · exact hkeep _ _
      · exact hkeep _ _
  | acknowledge i isSent =>
      simp only [step] at hstep
      split at hstep
      · cases hstep
        cases isSent with
        | true => exact h.keep rfl (posts_record fun _ _ => rfl) le_rfl h.listed
        | false => exact h.keep rfl (fun _ _ => rfl) le_rfl h.listed
      · cases hstep
  | startPass nowAt =>
      simp only [step] at hstep
      split at hstep
      · rename_i hphase
        split at hstep
        · cases hstep
        · cases hstep
          refine h.keep rfl (fun _ _ => rfl) ?_ List.nodup_nil
          simp [Runtime.begun, hphase]
      · cases hstep
  | listDue =>
      simp only [step] at hstep
      split at hstep
      · rename_i nowAt hphase
        split at hstep
        · cases hstep
          refine h.keep rfl (fun _ _ => rfl) ?_ List.nodup_nil
          simp [Runtime.begun, hphase, endPass]
        · cases hstep
          refine h.keep rfl (fun _ _ => rfl) ?_ (nodup_listDuePending_ids hinv _ nowAt)
          simp [Runtime.begun, hphase]
      · cases hstep
  | syncToken diskToken =>
      simp only [step] at hstep
      split at hstep
      · rename_i dueItems hphase
        have hitems : (dueItems.map (·.requestId)).Nodup := by
          have hlisted := h.listed
          rwa [hphase] at hlisted
        have hsame : (syncDeliveryWebhookHookToken c s diskToken).history = s.history ∧
            (syncDeliveryWebhookHookToken c s diskToken).lanes = s.lanes ∧
            (syncDeliveryWebhookHookToken c s diskToken).passes = s.passes := by
          unfold syncDeliveryWebhookHookToken
          split <;> exact ⟨rfl, rfl, rfl⟩
        obtain ⟨hhistory, hlanes, hpasses⟩ := hsame
        split at hstep
        · cases hstep
          refine h.keep hlanes (fun _ _ => ?_) ?_ hitems
          · rw [← hhistory]
          · simp [Runtime.begun, hphase, hpasses]
        · cases hstep
          refine h.keep hlanes (fun _ _ => ?_) ?_ List.nodup_nil
          · rw [← hhistory]
            rfl
          · simp [Runtime.begun, hphase, endPass, hpasses]
      · cases hstep
  | runLanes senderProfilesByDid =>
      simp only [step] at hstep
      split at hstep
      · rename_i dueItems hphase
        cases hstep
        have hitems : (dueItems.map (·.requestId)).Nodup := by
          have hlisted := h.listed
          rwa [hphase] at hlisted
        have hbegun : s.begun = s.passes := by simp [Runtime.begun, hphase]
        have hspent : ∀ pass requestId, ({ s with
            phase := .running
            lanes := s.lanes ++ (groupDueItemsByLane dueItems).map fun lane =>
              ⟨s.passes, senderProfilesByDid, .next lane⟩ } : Runtime).spent c.maxAttempts requestId
                pass = s.spent c.maxAttempts requestId pass +
                  if s.passes = pass then occurrences requestId dueItems * c.maxAttempts else 0 := by
          intro pass requestId
          rw [← sum_left_lanes c.maxAttempts pass s.passes requestId senderProfilesByDid]
          simp only [Runtime.spent, List.map_append, List.sum_append]
          omega
        refine ⟨?_, ?_, ?_, List.nodup_nil⟩
        · intro lane hlane
          obtain hlane | hlane := List.mem_append.mp hlane
          · exact h.mayRetry lane hlane
          · obtain ⟨items, -, rfl⟩ := List.mem_map.mp hlane
            trivial
        · intro pass requestId
          rw [hspent]
          split
          · rename_i hpass
            rw [h.unbegun pass requestId (hbegun.trans hpass).le, Nat.zero_add]
            have hone := Nat.mul_le_mul_right c.maxAttempts (occurrences_le_one hitems requestId)
            rwa [Nat.one_mul] at hone
          · exact h.spent pass requestId
        · intro pass requestId hpass
          have hlt : s.passes < pass := hpass
          rw [hspent, if_neg hlt.ne, h.unbegun pass requestId (hbegun.trans_le hlt.le)]
      · cases hstep
  | failPass =>
      simp only [step] at hstep
      split at hstep
      · rename_i hphase
        cases hstep
        refine h.keep rfl (fun _ _ => rfl) ?_ List.nodup_nil
        simp [Runtime.begun, hphase, endPass]
      · rename_i hphase
        cases hstep
        refine h.keep rfl (fun _ _ => rfl) ?_ List.nodup_nil
        simp [Runtime.begun, hphase, endPass]
      · cases hstep
  | lane i choice =>
      obtain ⟨lane, hlane, hstep⟩ := Option.bind_eq_some_iff.mp hstep
      obtain ⟨⟨next, state⟩, hresume, rfl⟩ := Option.map_eq_some_iff.mp hstep
      obtain ⟨hretry, hspent, hphase, hpasses⟩ :=
        resumeLane_spends (h.mayRetry lane (List.mem_of_getElem? hlane)) hresume
      have hle : ∀ pass requestId, Runtime.spent c.maxAttempts requestId pass
          { next with lanes := s.lanes.set i { lane with state } } ≤
            s.spent c.maxAttempts requestId pass := by
        intro pass requestId
        have hset := Interleave.sum_set_add (Lane.left c.maxAttempts requestId pass)
          { lane with state } hlane
        have hle := hspent pass requestId
        simp only [Runtime.spent]
        omega
      have hbegun : Runtime.begun { next with lanes := s.lanes.set i { lane with state } } =
          s.begun := by
        simp only [Runtime.begun, hphase, hpasses]
      refine ⟨?_, ?_, ?_, ?_⟩
      · intro other hother
        obtain hother | rfl := List.mem_or_eq_of_mem_set hother
        · exact h.mayRetry other hother
        · exact hretry
      · intro pass requestId
        exact (hle pass requestId).trans (h.spent pass requestId)
      · intro pass requestId hpass
        rw [hbegun] at hpass
        exact Nat.le_zero.mp ((hle pass requestId).trans (h.unbegun pass requestId hpass).le)
      · change (next.phase.items.map _).Nodup
        rw [hphase]
        exact h.listed
  | finishPass =>
      simp only [step] at hstep
      split at hstep
      · rename_i hphase
        split at hstep
        · cases hstep
          refine h.keep rfl (fun _ _ => rfl) ?_ List.nodup_nil
          simp [Runtime.begun, hphase, endPass]
        · cases hstep
      · cases hstep
  | probe reachable =>
      cases hstep
      exact h.keep rfl (fun _ _ => rfl) le_rfl h.listed
  | admin request env =>
      cases hstep
      exact h.keep rfl (posts_record fun _ _ => rfl) le_rfl h.listed
  | stop =>
      cases hstep
      exact h.keep rfl (posts_record fun _ _ => rfl) le_rfl h.listed
  | restart =>
      cases hstep
      have hposts : ∀ pass requestId, posts (.started :: s.history) pass requestId ≤
          s.spent c.maxAttempts requestId pass := by
        intro pass requestId
        rw [posts_record fun _ _ => rfl]
        exact Nat.le_add_right _ _
      have hbegun : s.begun ≤ s.passes + 1 := by
        simp only [Runtime.begun]
        split <;> omega
      refine ⟨by simp, ?_, ?_, List.nodup_nil⟩
      · intro pass requestId
        exact (hposts pass requestId).trans (h.spent pass requestId)
      · intro pass requestId hpass
        have hzero := h.unbegun pass requestId (hbegun.trans hpass)
        have hle := hposts pass requestId
        simp only [Runtime.spent, List.map_nil, List.sum_nil]
        omega

theorem bounded_initial : Bounded c (Runtime.initial c) where
  mayRetry := by simp [Runtime.initial]
  spent pass requestId := by simp [Runtime.spent, Runtime.initial, posts, Entry.isPostOf]
  unbegun pass requestId _ := by simp [Runtime.spent, Runtime.initial, posts, Entry.isPostOf]
  listed := List.nodup_nil

/-- **Attempts are bounded.** In every run of the connector, one pass over the inbox makes at most
`runtimeReplayMaxAttempts` requests to the webhook for a message (and one where the setting is
zero), whatever the webhook answers and however often its token changes. -/
theorem posts_run {events : List Event} {s : Runtime}
    (hrun : exec (step c) (Runtime.initial c) events = some s) (pass : ℕ) (requestId : JsString) :
    posts s.history pass requestId ≤ max 1 c.runtimeReplayMaxAttempts := by
  have h : Inv c s ∧ Bounded c s :=
    exec_invariant_of_step (fun s => Inv c s ∧ Bounded c s)
      (fun _ _ _ hs hstep => ⟨inv_step hs.1 hstep, bounded_step hs.1 hs.2 hstep⟩)
      ⟨inv_initial, bounded_initial⟩ hrun
  exact (Nat.le_add_right _ _).trans (h.2.spent pass requestId)

end

theorem exampleEvents_posts :
    ∃ s, exec (step exampleConfig) (Runtime.initial exampleConfig) exampleEvents = some s ∧
      s.history.length = 9 ∧ posts s.history 1 (js "1") ≤ 2 := by
  obtain ⟨s, hrun, hresult⟩ := Option.map_eq_some_iff.mp exampleEvents_result
  have hlength := congrArg List.length (Prod.mk.inj hresult).1
  rw [List.length_map] at hlength
  exact ⟨s, hrun, hlength, posts_run hrun 1 (js "1")⟩

end Clawdentity.Connector.InboundRuntime
