import Clawdentity.Connector.Replay
import Clawdentity.Lib.Run

/-!
# The order of a conversation in the replay

A lane posts the messages of its conversation one after the other, and a message that could not be
delivered does not stop it: the next one is posted all the same, and the failed one comes back in a
later pass, after its delay. So the order of a conversation is kept exactly as long as nothing waits
behind a message that has to be tried again.

## Main definitions

* `PendingSet` — the messages that are pending at the start.
* `OrderKept` — a message is delivered after the earlier ones of its conversation.
* `StepInOrder` — a retry does not get behind a later message of its conversation.
* `Guard`, `Inv` — a message in a lane has the earlier ones before it.

## Main results

* `queued_listDuePending` — the listing keeps the order.
* `replay_in_order` — the order is kept in every run whose steps meet `StepInOrder`.
-/

namespace Clawdentity.Connector.InboundReplay

open Js Lib Lib.Run Lib.Precedence InboundInbox ReceiptOutbox
open Lib.Transaction

/-! ## The claim about a run -/

/-- The conversation of a row, as the row is read. -/
def conversation (row : InboxItem) : Option JsString := (toPendingItem row).conversationId

def SameConversation (a b : InboxItem) : Prop :=
  conversation a = conversation b ∧ conversation a ≠ none

instance (a b : InboxItem) : Decidable (SameConversation a b) :=
  inferInstanceAs (Decidable (_ ∧ _))

/-- The rows of `inbox_pending`, numbered in the order in which they were put in. -/
structure PendingSet where
  rows : List InboxItem
  ids : (rows.map fun row => row.requestId).Nodup
  numbered : rows.Pairwise fun a b => a.serial < b.serial
  /-- The number of the next message. -/
  next : ℕ
  bounded : ∀ row ∈ rows, row.serial < next

def Replay.start (pending : PendingSet) : Replay :=
  ⟨⟨pending.rows, [], []⟩, pending.next, .idle, 0, [], [], []⟩

/-- The messages of one conversation are due in their order. -/
def InOrder (pending : List InboxItem) (delivered : List ℕ) : Prop :=
  pending.Pairwise fun a b => SameConversation a b → a.serial ∉ delivered → b.serial ∉ delivered →
    isDueBefore a b

instance (pending : List InboxItem) (delivered : List ℕ) : Decidable (InOrder pending delivered) :=
  inferInstanceAs (Decidable (List.Pairwise _ pending))

/-- Every earlier message of the conversation that is pending has been delivered. -/
def EarlierDelivered (s : Replay) (item : InboxItem) : Prop :=
  ∀ row ∈ s.tables.pending, SameConversation row item → row.serial < item.serial →
    row.serial ∈ s.delivered

instance (s : Replay) (item : InboxItem) : Decidable (EarlierDelivered s item) :=
  inferInstanceAs (Decidable (∀ row ∈ s.tables.pending, _))

/-- The message that a lane is posting. -/
def LaneState.posted : LaneState → Option InboxItem
  | .posting item _ => some item
  | _ => none

/-- The failure that a lane is recording, with the messages behind it. -/
def LaneState.recording : LaneState → Option (MarkReplayFailureInput × List InboxItem)
  | .failing _ input rest => some (input, rest)
  | _ => none

/-- A message is delivered after the earlier ones of its conversation. -/
def OrderKept (s : Replay) : Event → Prop
  | .lane i (.posted .delivered _) =>
      ∀ item ∈ s.lanes[i]?.bind fun lane => lane.state.posted, EarlierDelivered s item
  | _ => True

/-- A row with the time of its next attempt. -/
def retriedAt (row : InboxItem) (nextAttemptAt : JsString) : InboxItem := { row with nextAttemptAt }

/-- A message that is to be tried again does not get behind one that was received later: none of its
lane is left, and those in the inbox are not due before it. -/
def RetryInOrder (s : Replay) (input : MarkReplayFailureInput) (rest : List InboxItem) : Prop :=
  ∀ row ∈ s.tables.pending, row.requestId = input.requestId → row.serial ∉ s.delivered →
    (∀ later ∈ rest, SameConversation row later → later.serial ≤ row.serial) ∧
      ∀ other ∈ s.tables.pending, SameConversation row other → other.serial ∉ s.delivered →
        (other.serial < row.serial → isDueBefore other (retriedAt row input.nextAttemptAt)) ∧
          (row.serial < other.serial → isDueBefore (retriedAt row input.nextAttemptAt) other)

section Code
variable (options : InboxOptions) (policy : InboundReplayPolicy) (toIso : ℤ → JsString)

/-- What keeps the order: where the inbox leaves a failed message pending, its retry is in order, and
a message that arrives is not due before those of its conversation that wait. -/
def StepInOrder (s : Replay) : Event → Prop
  | .enqueue frame env =>
      (runInTransaction (enqueue options frame s.accepted env) env.fault s.tables).1.any
          (fun result => result.accepted && !result.duplicate) = true →
        ∀ row ∈ s.tables.pending, row.serial ∉ s.delivered →
          SameConversation row (buildPendingItem options frame s.accepted (env.nowIso 0)) →
            isDueBefore row (buildPendingItem options frame s.accepted (env.nowIso 0))
  | .lane i (.recorded env) =>
      ∀ failure ∈ s.lanes[i]?.bind fun lane => lane.state.recording,
        (runInTransaction (markReplayFailure options failure.1 env) env.fault s.tables).1 =
          some false → RetryInOrder s failure.1 failure.2
  | _ => True

instance (s : Replay) : (e : Event) → Decidable (OrderKept s e)
  | .lane i (.posted .delivered _) =>
      inferInstanceAs (Decidable (∀ item ∈ s.lanes[i]?.bind fun lane => lane.state.posted, _))
  | .lane _ (.posted .stopping _) => inferInstanceAs (Decidable True)
  | .lane _ (.posted (.failed _ _) _) => inferInstanceAs (Decidable True)
  | .lane _ .next => inferInstanceAs (Decidable True)
  | .lane _ (.marked _ _ _) => inferInstanceAs (Decidable True)
  | .lane _ (.recorded _) => inferInstanceAs (Decidable True)
  | .enqueue _ _ => inferInstanceAs (Decidable True)
  | .startPass _ => inferInstanceAs (Decidable True)
  | .skipPass => inferInstanceAs (Decidable True)
  | .runLanes => inferInstanceAs (Decidable True)
  | .finishPass => inferInstanceAs (Decidable True)

instance (s : Replay) (input : MarkReplayFailureInput) (rest : List InboxItem) :
    Decidable (RetryInOrder s input rest) :=
  inferInstanceAs (Decidable (∀ row ∈ s.tables.pending, _ → _ → (∀ later ∈ rest, _) ∧
    ∀ other ∈ s.tables.pending, _))

instance (s : Replay) : (e : Event) → Decidable (StepInOrder options s e)
  | .enqueue _ _ => inferInstanceAs (Decidable (_ → ∀ row ∈ s.tables.pending, _))
  | .lane i (.recorded _) =>
      inferInstanceAs (Decidable (∀ failure ∈ s.lanes[i]?.bind fun lane => lane.state.recording, _))
  | .lane _ .next => inferInstanceAs (Decidable True)
  | .lane _ (.posted _ _) => inferInstanceAs (Decidable True)
  | .lane _ (.marked _ _ _) => inferInstanceAs (Decidable True)
  | .startPass _ => inferInstanceAs (Decidable True)
  | .skipPass => inferInstanceAs (Decidable True)
  | .runLanes => inferInstanceAs (Decidable True)
  | .finishPass => inferInstanceAs (Decidable True)

end Code

/-! ## What the inbox does -/

theorem parseOptionalNonEmptyString_idem (value : Option JsString) :
    parseOptionalNonEmptyString (parseOptionalNonEmptyString value) =
      parseOptionalNonEmptyString value := by
  cases value with
  | none => rfl
  | some text =>
    simp only [parseOptionalNonEmptyString, Option.map_some, Option.filter_some]
    by_cases hempty : (trim text).isEmpty = true
    · simp [hempty]
    · simp [hempty]

@[simp] theorem conversation_toPendingItem (row : InboxItem) :
    conversation (toPendingItem row) = conversation row :=
  parseOptionalNonEmptyString_idem row.conversationId

section
variable {options : InboxOptions} {env : Env} {s t : Tables}

/-- A message that is stored has the time of its transaction. -/
theorem enqueue_stored {frame : DeliverFrame} {serial : ℕ} {result : EnqueueResult}
    (h : Does (enqueue options frame serial env) s result t)
    (hnew : (result.accepted && !result.duplicate) = true) :
    (∀ row ∈ s.pending, row.requestId ≠ frame.id) ∧
      t.pending = s.pending ++ [buildPendingItem options frame serial (env.nowIso 0)] := by
  unfold enqueue at h
  obtain ⟨known, m, hknown, h⟩ := does_bind h
  obtain ⟨rfl, rfl⟩ := does_query hknown
  split at h
  · obtain ⟨totals, m, -, h⟩ := does_bind h
    obtain ⟨_, m', -, h⟩ := does_bind h
    obtain ⟨rfl, -⟩ := does_pure h
    cases hnew
  · obtain ⟨totals, m, htotals, h⟩ := does_bind h
    obtain ⟨rfl, rfl⟩ := does_query htotals
    split at h
    · obtain ⟨rfl, -⟩ := does_pure h
      cases hnew
    split at h
    · obtain ⟨rfl, -⟩ := does_pure h
      cases hnew
    obtain ⟨_, m₁, hinsert, h⟩ := does_bind h
    obtain ⟨_, m₂, hevent, h⟩ := does_bind h
    obtain ⟨-, rfl⟩ := does_pure h
    obtain ⟨hfree, rfl⟩ := insertPending_spec hinsert
    exact ⟨hfree, (appendEvent_spec hevent).1⟩

/-- What `markReplayFailure` does to the pending rows. -/
inductive Records (input : MarkReplayFailureInput) (s t : Tables) : Bool → Prop
  | unknown (habsent : ∀ row ∈ s.pending, row.requestId ≠ input.requestId)
      (hpending : t.pending = s.pending) : Records input s t false
  | stays (row item : InboxItem) (hrow : row ∈ s.pending) (hid : row.requestId = input.requestId)
      (hmessage : item.toMessage = row.toMessage) (hconversation : conversation item = conversation row)
      (hnext : item.nextAttemptAt = input.nextAttemptAt)
      (hpending : t.pending = s.pending.map fun r => if r.requestId = item.requestId then item else r) :
      Records input s t false
  | moves (hpending : t.pending = s.pending.filter fun row => row.requestId ≠ input.requestId) :
      Records input s t true

theorem markReplayFailure_records {input : MarkReplayFailureInput} {moved : Bool}
    (h : Does (markReplayFailure options input env) s moved t) : Records input s t moved := by
  unfold markReplayFailure at h
  obtain ⟨found, m, hfound, h⟩ := does_bind h
  obtain ⟨rfl, rfl⟩ := does_query hfound
  cases hrow : m.pending.find? (fun row => row.requestId = input.requestId) with
  | none =>
    rw [hrow] at h
    obtain ⟨rfl, rfl⟩ := does_pure h
    refine .unknown ?_ rfl
    intro row hmem
    simpa using List.find?_eq_none.mp hrow row hmem
  | some row =>
    rw [hrow] at h
    obtain ⟨hmem, hid⟩ := Rows.key_of_find hrow
    simp only [Option.map_some] at h
    split at h
    · obtain ⟨_, m₁, hdelete, h⟩ := does_bind h
      obtain ⟨_, m₂, hinsert, h⟩ := does_bind h
      obtain ⟨_, m₃, hevent, h⟩ := does_bind h
      obtain ⟨rfl, rfl⟩ := does_pure h
      obtain rfl := deletePending_spec hdelete
      obtain rfl := insertDeadLetter_spec hinsert
      exact .moves (appendEvent_spec hevent).1
    · obtain ⟨_, m₁, hupdate, h⟩ := does_bind h
      obtain ⟨_, m₂, hevent, h⟩ := does_bind h
      obtain ⟨rfl, rfl⟩ := does_pure h
      obtain rfl := (Prod.mk.inj (does_update hupdate)).2
      refine .stays row _ hmem hid ?_ ?_ ?_ (appendEvent_spec hevent).1
      · rfl
      · exact conversation_toPendingItem row
      · rfl

end

/-! ## The messages before a message -/

/-- The message and its conversation are those of another. -/
def SameMessage (a b : InboxItem) : Prop :=
  a.toMessage = b.toMessage ∧ conversation a = conversation b

theorem SameMessage.serial_eq {a b : InboxItem} (h : SameMessage a b) : a.serial = b.serial :=
  congrArg Message.serial h.1

/-- Of the messages before `x`, those that wait and were received earlier are in a list. -/
structure Guard (s : Replay) (before : List InboxItem) (x : InboxItem) : Prop where
  known : x.serial < s.accepted
  same : ∀ row ∈ s.tables.pending, row.serial = x.serial → conversation row = conversation x
  earlier : ∀ row ∈ s.tables.pending, row.serial ∉ s.delivered → SameConversation row x →
    row.serial < x.serial → ∃ z ∈ before, SameMessage z row

/-- Each message of a list has the earlier ones before it, in the list or in `before`. -/
def Queued (s : Replay) : List InboxItem → List InboxItem → Prop
  | _, [] => True
  | before, x :: rest => Guard s before x ∧ Queued s (before ++ [x]) rest

section
variable {s t : Replay} {before after items : List InboxItem} {x : InboxItem}

theorem Queued.imp (h : Queued s before items)
    (hguard : ∀ x ∈ items, ∀ l, Guard s (before ++ l) x → Guard t (after ++ l) x) :
    Queued t after items := by
  induction items generalizing before after with
  | nil => trivial
  | cons x rest ih =>
    constructor
    · have hx := hguard x List.mem_cons_self []
      simp only [List.append_nil] at hx
      exact hx h.1
    · apply ih h.2
      intro y hy l hl
      rw [List.append_assoc] at hl ⊢
      exact hguard y (List.mem_cons_of_mem x hy) _ hl

/-- The messages of one key, where those of a conversation have the same key. -/
theorem Queued.filter {p : InboxItem → Bool} (h : Queued s before items)
    (hp : ∀ a ∈ before ++ items, ∀ b ∈ items, conversation a = conversation b → p a = p b) :
    Queued s (before.filter p) (items.filter p) := by
  induction items generalizing before with
  | nil => trivial
  | cons x rest ih =>
    have hrest := ih h.2 (by
      intro a ha b hb
      rw [List.append_assoc] at ha
      exact hp a ha b (List.mem_cons_of_mem x hb))
    rw [List.filter_append] at hrest
    by_cases hx : p x = true
    · rw [List.filter_cons_of_pos hx]
      refine ⟨⟨h.1.known, h.1.same, ?_⟩, ?_⟩
      · intro row hrow hwaits hsame hlt
        obtain ⟨z, hz, hmessage⟩ := h.1.earlier row hrow hwaits hsame hlt
        refine ⟨z, List.mem_filter.mpr ⟨hz, ?_⟩, hmessage⟩
        rw [hp z (List.mem_append_left _ hz) x List.mem_cons_self (hmessage.2.trans hsame.1)]
        exact hx
      · rwa [List.filter_cons_of_pos hx] at hrest
    · rw [List.filter_cons_of_neg hx]
      rwa [List.filter_cons_of_neg hx, List.filter_nil, List.append_nil] at hrest

/-- The rows come from rows that were there, and deliveries are not taken back. -/
structure Follows (s t : Replay) : Prop where
  accepted : s.accepted ≤ t.accepted
  delivered : ∀ n ∈ s.delivered, n ∈ t.delivered
  rows : ∀ row ∈ t.tables.pending, row.serial < s.accepted →
    ∃ old ∈ s.tables.pending, SameMessage old row

theorem Guard.follows (h : Guard s before x) (hfollows : Follows s t) : Guard t before x where
  known := h.known.trans_le hfollows.accepted
  same row hrow hserial := by
    obtain ⟨old, hold, hmessage⟩ := hfollows.rows row hrow (by rw [hserial]; exact h.known)
    rw [← hmessage.2]
    exact h.same old hold (hmessage.serial_eq.trans hserial)
  earlier row hrow hwaits hsame hlt := by
    obtain ⟨old, hold, hmessage⟩ := hfollows.rows row hrow (hlt.trans h.known)
    have holdWaits : old.serial ∉ s.delivered := by
      intro hmem
      apply hwaits
      rw [← hmessage.serial_eq]
      exact hfollows.delivered _ hmem
    have hconversation : SameConversation old x :=
      ⟨hmessage.2.trans hsame.1, hmessage.2 ▸ hsame.2⟩
    obtain ⟨z, hz, hz'⟩ := h.earlier old hold holdWaits hconversation (by
      rw [hmessage.serial_eq]
      exact hlt)
    exact ⟨z, hz, hz'.1.trans hmessage.1, hz'.2.trans hmessage.2⟩

theorem Queued.follows (h : Queued s before items) (hfollows : Follows s t) :
    Queued t before items :=
  h.imp fun _ _ _ hguard => hguard.follows hfollows

end

/-! ## The listing -/

/-- The rows of the inbox, with what was delivered. -/
structure RowsInv (s : Replay) : Prop where
  ids : (s.tables.pending.map fun row => row.requestId).Nodup
  numbered : s.tables.pending.Pairwise fun a b => a.serial < b.serial
  bounded : ∀ row ∈ s.tables.pending, row.serial < s.accepted
  known : ∀ n ∈ s.delivered, n < s.accepted
  inOrder : InOrder s.tables.pending s.delivered
  down : ∀ x ∈ s.tables.pending, x.serial ∈ s.delivered → EarlierDelivered s x

theorem RowsInv.eq_of_serial {s : Replay} (h : RowsInv s) {a b : InboxItem}
    (ha : a ∈ s.tables.pending) (hb : b ∈ s.tables.pending) (heq : a.serial = b.serial) : a = b := by
  by_contra hne
  obtain hab | hba := precedes_or ha hb hne
  · have hlt := List.pairwise_iff_forall_sublist.mp h.numbered hab
    omega
  · have hlt := List.pairwise_iff_forall_sublist.mp h.numbered hba
    omega

theorem RowsInv.eq_of_id {s : Replay} (h : RowsInv s) {a b : InboxItem}
    (ha : a ∈ s.tables.pending) (hb : b ∈ s.tables.pending) (heq : a.requestId = b.requestId) :
    a = b := List.inj_on_of_nodup_map h.ids ha hb heq

/-- A row that is listed after the earlier ones of its conversation. -/
theorem precedes_listing {s : Replay} {row x : InboxItem} {limit : ℤ} {nowAt : JsString}
    (h : RowsInv s) (hrow : row ∈ s.tables.pending) (hwaits : row.serial ∉ s.delivered)
    (hx : x ∈ ((s.tables.pending.filter fun row => decide (row.nextAttemptAt ≤ nowAt)).insertionSort
      isDueBefore).take (max 1 limit).toNat)
    (hsame : SameConversation row x) (hlt : row.serial < x.serial) :
    Precedes (listDuePending s.tables limit nowAt) (toPendingItem row) (toPendingItem x) := by
  have hdue := (List.mem_insertionSort isDueBefore).mp (List.mem_of_mem_take hx)
  obtain ⟨hxmem, hxdue⟩ := List.mem_filter.mp hdue
  have hxwaits : x.serial ∉ s.delivered := by
    intro hdelivered
    exact hwaits (h.down x hxmem hdelivered row hrow hsame hlt)
  have hne : row ≠ x := by
    rintro rfl
    omega
  have hprecedes := precedes_of_pairwise h.numbered hrow hxmem hne (by omega)
  have hbefore : isDueBefore row x :=
    List.pairwise_iff_forall_sublist.mp h.inOrder hprecedes hsame hwaits hxwaits
  have hrowdue : row.nextAttemptAt ≤ nowAt := by
    have hle : row.nextAttemptAt ≤ x.nextAttemptAt := by
      obtain hlt | heq := hbefore
      · exact List.le_of_lt hlt
      · rw [heq.1]
        exact List.le_refl _
    exact List.le_trans hle (of_decide_eq_true hxdue)
  have hsorted := List.pair_sublist_insertionSort (r := isDueBefore) hbefore
    (hprecedes.filter (p := fun row => decide (row.nextAttemptAt ≤ nowAt))
      (decide_eq_true hrowdue) hxdue)
  have hnodup : ((s.tables.pending.filter fun row =>
      decide (row.nextAttemptAt ≤ nowAt)).insertionSort isDueBefore).Nodup := by
    apply (List.perm_insertionSort isDueBefore _).nodup_iff.mpr
    exact (List.Nodup.of_map _ h.ids).filter _
  exact (Precedes.take hsorted hnodup hx).map toPendingItem

theorem mem_listDuePending {tables : Tables} {limit : ℤ} {nowAt : JsString} {item : InboxItem}
    (h : item ∈ listDuePending tables limit nowAt) :
    ∃ row ∈ tables.pending, row ∈ ((tables.pending.filter fun row =>
        decide (row.nextAttemptAt ≤ nowAt)).insertionSort isDueBefore).take (max 1 limit).toNat ∧
      toPendingItem row = item := by
  obtain ⟨row, hrow, rfl⟩ := List.mem_map.mp h
  have hdue := (List.mem_insertionSort isDueBefore).mp (List.mem_of_mem_take hrow)
  exact ⟨row, (List.mem_filter.mp hdue).1, hrow, rfl⟩

theorem nodup_listDuePending {s : Replay} (h : RowsInv s) (limit : ℤ) (nowAt : JsString) :
    (listDuePending s.tables limit nowAt).Nodup := by
  apply List.Nodup.of_map fun item => item.requestId
  rw [listDuePending, List.map_map]
  have hperm := List.perm_insertionSort isDueBefore
    (s.tables.pending.filter fun row => decide (row.nextAttemptAt ≤ nowAt))
  have hids : ((s.tables.pending.filter fun row =>
      decide (row.nextAttemptAt ≤ nowAt)).map fun row => row.requestId).Nodup :=
    h.ids.sublist (List.filter_sublist.map _)
  have hsorted := ((hperm.map fun row => row.requestId).nodup_iff).mpr hids
  exact hsorted.sublist ((List.take_sublist _ _).map _)

/-- **The listing keeps the order**: in it every message has the earlier ones of its conversation
before it. -/
theorem queued_listDuePending {s : Replay} (h : RowsInv s) (limit : ℤ) (nowAt : JsString) :
    Queued s [] (listDuePending s.tables limit nowAt) := by
  have hnodup := nodup_listDuePending h limit nowAt
  suffices hsplit : ∀ rest before, listDuePending s.tables limit nowAt = before ++ rest →
      Queued s before rest from hsplit _ [] rfl
  intro rest
  induction rest with
  | nil =>
    intro before _
    trivial
  | cons x rest ih =>
    intro before heq
    constructor
    · obtain ⟨row, hmem, hlisted, rfl⟩ :=
        mem_listDuePending (heq ▸ List.mem_append_right before List.mem_cons_self)
      refine ⟨h.bounded row hmem, ?_, ?_⟩
      · intro other hother hserial
        rw [h.eq_of_serial hother hmem hserial, conversation_toPendingItem]
      · intro other hother hwaits hsame hlt
        rw [SameConversation, conversation_toPendingItem] at hsame
        have hprecedes := precedes_listing h hother hwaits hlisted hsame hlt
        rw [heq] at hprecedes hnodup
        exact ⟨toPendingItem other, hprecedes.mem_of_append hnodup, rfl,
          conversation_toPendingItem other⟩
    · apply ih
      rw [heq, List.append_assoc]
      rfl

/-! ## The invariant -/

/-- What a lane still posts has the earlier messages before it. -/
def LaneInv (s : Replay) : LaneState → Prop
  | .next items => Queued s [] items
  | .posting item rest => Guard s [] item ∧ Queued s [item] rest
  | .marking item rest => Queued s [item] rest
  | .failing item input rest => Queued s [item] rest ∧ input.requestId = item.requestId
  | .returned => True
  | .rejected => True

structure Inv (s : Replay) : Prop where
  rows : RowsInv s
  listed : ∀ items, s.phase = .listed items →
    Queued s [] items ∧ ∀ item ∈ items, conversation item = item.conversationId
  lanes : ∀ lane ∈ s.lanes, LaneInv s lane.state

theorem LaneInv.follows {s t : Replay} {state : LaneState} (h : LaneInv s state)
    (hfollows : Follows s t) : LaneInv t state := by
  cases state with
  | next items => exact Queued.follows h hfollows
  | posting item rest => exact ⟨h.1.follows hfollows, h.2.follows hfollows⟩
  | marking item rest => exact Queued.follows h hfollows
  | failing item input rest => exact ⟨h.1.follows hfollows, h.2⟩
  | returned => trivial
  | rejected => trivial

theorem inv_start (pending : PendingSet) (h : InOrder pending.rows []) :
    Inv (.start pending) where
  rows := {
    ids := pending.ids
    numbered := pending.numbered
    bounded := pending.bounded
    known := fun n hn => by cases hn
    inOrder := h
    down := fun x _ hx => by cases hx }
  listed items hitems := by cases hitems
  lanes lane hlane := by cases hlane

/-- The first message of a lane has no other to wait for. -/
theorem Guard.earlierDelivered {s : Replay} {item : InboxItem} (h : Guard s [] item) :
    EarlierDelivered s item := by
  intro row hrow hsame hlt
  by_contra hwaits
  obtain ⟨z, hz, -⟩ := h.earlier row hrow hwaits hsame hlt
  cases hz

/-- The rows that are left, without those of a request. -/
theorem Queued.deleted {s : Replay} {t : Tables} {item : InboxItem} {requestId : JsString}
    {rest : List InboxItem} {receipts : List DeliveryReceiptInput} (h : Queued s [item] rest)
    (hid : requestId = item.requestId)
    (hpending : t.pending = s.tables.pending.filter fun row => row.requestId ≠ requestId) :
    Queued { s with tables := t, receipts } [] rest := by
  apply h.imp
  intro x _ l hguard
  have hmem : ∀ row ∈ t.pending, row ∈ s.tables.pending ∧ row.requestId ≠ requestId := by
    intro row hrow
    rw [hpending, List.mem_filter, decide_eq_true_eq] at hrow
    exact hrow
  refine ⟨hguard.known, fun row hrow => hguard.same row (hmem row hrow).1, ?_⟩
  intro row hrow hwaits hsame hlt
  obtain ⟨z, hz, hmessage⟩ := hguard.earlier row (hmem row hrow).1 hwaits hsame hlt
  obtain rfl | hz := List.mem_cons.mp hz
  · refine absurd ?_ (hmem row hrow).2
    rw [hid]
    exact (congrArg Message.requestId hmessage.1).symm
  · exact ⟨z, hz, hmessage⟩

section
variable {s : Replay} {t : Tables} {receipts : List DeliveryReceiptInput}

theorem RowsInv.filter (h : RowsInv s) (p : InboxItem → Bool)
    (hpending : t.pending = s.tables.pending.filter p) :
    RowsInv { s with tables := t, receipts } := by
  have hsub : List.Sublist t.pending s.tables.pending := by
    rw [hpending]
    exact List.filter_sublist
  exact {
    ids := h.ids.sublist (hsub.map _)
    numbered := h.numbered.sublist hsub
    bounded := fun row hrow => h.bounded row (hsub.subset hrow)
    known := h.known
    inOrder := h.inOrder.sublist hsub
    down := fun x hx hdelivered row hrow =>
      h.down x (hsub.subset hx) hdelivered row (hsub.subset hrow) }

theorem follows_filter (p : InboxItem → Bool)
    (hpending : t.pending = s.tables.pending.filter p) :
    Follows s { s with tables := t, receipts } where
  accepted := le_rfl
  delivered _ hn := hn
  rows row hrow _ := by
    rw [hpending] at hrow
    exact ⟨row, (List.mem_filter.mp hrow).1, rfl, rfl⟩

end

/-! ## A message that is to be tried again -/

section
variable {s : Replay} {t : Tables} {receipts : List DeliveryReceiptInput}
  {input : MarkReplayFailureInput} {rest : List InboxItem} {row item : InboxItem}

theorem isDueBefore_congr_left {a a' b : InboxItem} (hnext : a.nextAttemptAt = a'.nextAttemptAt)
    (hreceived : a.receivedAt = a'.receivedAt) : isDueBefore a b ↔ isDueBefore a' b := by
  rw [isDueBefore, isDueBefore, hnext, hreceived]

theorem isDueBefore_congr_right {a b b' : InboxItem} (hnext : b.nextAttemptAt = b'.nextAttemptAt)
    (hreceived : b.receivedAt = b'.receivedAt) : isDueBefore a b ↔ isDueBefore a b' := by
  rw [isDueBefore, isDueBefore, hnext, hreceived]

/-- A row after its update: it is the message that it was. -/
def updated (item r : InboxItem) : InboxItem := if r.requestId = item.requestId then item else r

theorem updated_eq_or (h : RowsInv s) (hrow : row ∈ s.tables.pending)
    (hmessage : SameMessage item row) {r : InboxItem} (hr : r ∈ s.tables.pending) :
    r = row ∧ updated item r = item ∨ r ≠ row ∧ updated item r = r := by
  have hid : item.requestId = row.requestId := congrArg Message.requestId hmessage.1
  by_cases heq : r.requestId = item.requestId
  · left
    exact ⟨h.eq_of_id hr hrow (heq.trans hid), if_pos heq⟩
  · right
    refine ⟨?_, if_neg heq⟩
    rintro rfl
    exact heq hid.symm

theorem updated_sameMessage (h : RowsInv s) (hrow : row ∈ s.tables.pending)
    (hmessage : SameMessage item row) {r : InboxItem} (hr : r ∈ s.tables.pending) :
    SameMessage r (updated item r) := by
  obtain ⟨rfl, heq⟩ | ⟨-, heq⟩ := updated_eq_or h hrow hmessage hr
  · rw [heq]
    exact ⟨hmessage.1.symm, hmessage.2.symm⟩
  · rw [heq]
    exact ⟨rfl, rfl⟩

theorem SameMessage.sameConversation {a a' b b' : InboxItem} (ha : SameMessage a a')
    (hb : SameMessage b b') (h : SameConversation a' b') : SameConversation a b :=
  ⟨ha.2.trans (h.1.trans hb.2.symm), ha.2 ▸ h.2⟩

/-- A message whose retry is in order keeps its place among the others. -/
theorem isDueBefore_updated (h : RowsInv s) (hrow : row ∈ s.tables.pending)
    (hid : row.requestId = input.requestId) (hmessage : SameMessage item row)
    (hnext : item.nextAttemptAt = input.nextAttemptAt) (hretry : RetryInOrder s input rest)
    {a b : InboxItem} (ha : a ∈ s.tables.pending) (hb : b ∈ s.tables.pending)
    (hlt : a.serial < b.serial) (hconversation : SameConversation a b)
    (hawaits : a.serial ∉ s.delivered) (hbwaits : b.serial ∉ s.delivered)
    (hdue : isDueBefore a b) : isDueBefore (updated item a) (updated item b) := by
  have hnextRetried : item.nextAttemptAt = (retriedAt row input.nextAttemptAt).nextAttemptAt :=
    hnext
  have hreceived : item.receivedAt = (retriedAt row input.nextAttemptAt).receivedAt :=
    congrArg Message.receivedAt hmessage.1
  obtain ⟨rfl, hfa⟩ | ⟨-, hfa⟩ := updated_eq_or h hrow hmessage ha
  · obtain ⟨rfl, -⟩ | ⟨-, hfb⟩ := updated_eq_or h hrow hmessage hb
    · exact absurd hlt (by omega)
    · rw [hfa, hfb, isDueBefore_congr_left hnextRetried hreceived]
      exact ((hretry a hrow hid hawaits).2 b hb hconversation hbwaits).2 hlt
  · obtain ⟨rfl, hfb⟩ | ⟨-, hfb⟩ := updated_eq_or h hrow hmessage hb
    · rw [hfa, hfb, isDueBefore_congr_right hnextRetried hreceived]
      have hsymm : SameConversation b a := ⟨hconversation.1.symm, hconversation.1 ▸ hconversation.2⟩
      exact ((hretry b hrow hid hbwaits).2 a ha hsymm hawaits).1 hlt
    · rwa [hfa, hfb]

/-- The rows after a retry that is in order. -/
theorem RowsInv.update (h : RowsInv s) (hrow : row ∈ s.tables.pending)
    (hid : row.requestId = input.requestId) (hmessage : SameMessage item row)
    (hnext : item.nextAttemptAt = input.nextAttemptAt) (hretry : RetryInOrder s input rest)
    (hpending : t.pending = s.tables.pending.map (updated item)) :
    RowsInv { s with tables := t, receipts } := by
  have hsame : ∀ r ∈ s.tables.pending, SameMessage r (updated item r) :=
    fun r hr => updated_sameMessage h hrow hmessage hr
  have hback : ∀ r' ∈ t.pending, ∃ r ∈ s.tables.pending, SameMessage r r' := by
    intro r' hr'
    rw [hpending] at hr'
    obtain ⟨r, hr, rfl⟩ := List.mem_map.mp hr'
    exact ⟨r, hr, hsame r hr⟩
  constructor
  · have hids : (t.pending.map fun r => r.requestId) =
        s.tables.pending.map fun r => r.requestId := by
      rw [hpending, List.map_map]
      exact List.map_congr_left fun r hr => (congrArg Message.requestId (hsame r hr).1).symm
    exact hids ▸ h.ids
  · change t.pending.Pairwise _
    rw [hpending, List.pairwise_map]
    refine h.numbered.imp_of_mem ?_
    intro a b ha hb hlt
    rwa [← (hsame a ha).serial_eq, ← (hsame b hb).serial_eq]
  · intro r' hr'
    obtain ⟨r, hr, hsame⟩ := hback r' hr'
    rw [← hsame.serial_eq]
    exact h.bounded r hr
  · exact h.known
  · change t.pending.Pairwise _
    rw [hpending, List.pairwise_map]
    refine (h.inOrder.and h.numbered).imp_of_mem ?_
    intro a b ha hb hab hconversation hawaits hbwaits
    have hsameab := (hsame a ha).sameConversation (hsame b hb) hconversation
    rw [← (hsame a ha).serial_eq] at hawaits
    rw [← (hsame b hb).serial_eq] at hbwaits
    exact isDueBefore_updated h hrow hid hmessage hnext hretry ha hb hab.2 hsameab hawaits hbwaits
      (hab.1 hsameab hawaits hbwaits)
  · intro x' hx' hdelivered y' hy' hconversation hlt
    obtain ⟨x, hx, hsamex⟩ := hback x' hx'
    obtain ⟨y, hy, hsamey⟩ := hback y' hy'
    rw [← hsamex.serial_eq] at hdelivered hlt
    rw [← hsamey.serial_eq] at hlt ⊢
    exact h.down x hx hdelivered y hy (hsamey.sameConversation hsamex hconversation) hlt

theorem follows_update (receipts : List DeliveryReceiptInput) (h : RowsInv s)
    (hrow : row ∈ s.tables.pending)
    (hmessage : SameMessage item row)
    (hpending : t.pending = s.tables.pending.map (updated item)) :
    Follows s { s with tables := t, receipts } where
  accepted := le_rfl
  delivered _ hn := hn
  rows r' hr' _ := by
    rw [hpending] at hr'
    obtain ⟨r, hr, rfl⟩ := List.mem_map.mp hr'
    exact ⟨r, hr, updated_sameMessage h hrow hmessage hr⟩

/-- Behind a message that is to be tried again, its lane has none of its conversation. -/
theorem Queued.retried {failed : InboxItem} (h : Queued s [failed] rest) (hinv : RowsInv s)
    (hrow : row ∈ s.tables.pending) (hid : row.requestId = input.requestId)
    (hfailed : input.requestId = failed.requestId) (hretry : RetryInOrder s input rest) :
    Queued s [] rest := by
  apply h.imp
  intro x hx l hguard
  refine ⟨hguard.known, hguard.same, ?_⟩
  intro other hother hwaits hsame hlt
  obtain ⟨z, hz, hmessage⟩ := hguard.earlier other hother hwaits hsame hlt
  obtain rfl | hz := List.mem_cons.mp hz
  · have hother' : other = row := by
      apply hinv.eq_of_id hother hrow
      rw [hid, hfailed]
      exact (congrArg Message.requestId hmessage.1).symm
    subst hother'
    have hle := (hretry other hrow hid hwaits).1 x hx hsame
    omega
  · exact ⟨z, hz, hmessage⟩

end

/-! ## One step -/

section
variable {s t : Replay}

/-- The invariant of the rows does not look at the lanes and the passes. -/
theorem RowsInv.of_eq (h : RowsInv s) (htables : t.tables.pending = s.tables.pending)
    (haccepted : t.accepted = s.accepted) (hdelivered : t.delivered = s.delivered) : RowsInv t where
  ids := htables ▸ h.ids
  numbered := htables ▸ h.numbered
  bounded := htables ▸ haccepted ▸ h.bounded
  known := hdelivered ▸ haccepted ▸ h.known
  inOrder := htables ▸ hdelivered ▸ h.inOrder
  down x hx hdeliveredx row hrow := by
    rw [htables] at hx hrow
    rw [hdelivered] at hdeliveredx ⊢
    exact h.down x hx hdeliveredx row hrow

theorem Follows.of_eq (htables : t.tables.pending = s.tables.pending)
    (haccepted : t.accepted = s.accepted) (hdelivered : t.delivered = s.delivered) :
    Follows s t where
  accepted := haccepted.ge
  delivered _ hn := hdelivered ▸ hn
  rows row hrow _ := ⟨row, htables ▸ hrow, rfl, rfl⟩

/-- The webhook has taken the message that a lane posts. -/
theorem RowsInv.deliver {item : InboxItem} (h : RowsInv s) (hguard : Guard s [] item) :
    RowsInv { s with delivered := s.delivered ++ [item.serial] } where
  ids := h.ids
  numbered := h.numbered
  bounded := h.bounded
  known n hn := by
    obtain hn | hn := List.mem_append.mp hn
    · exact h.known n hn
    · rw [List.mem_singleton.mp hn]
      exact hguard.known
  inOrder := h.inOrder.imp fun hab hsame ha hb =>
    hab hsame (fun hmem => ha (List.mem_append_left _ hmem))
      (fun hmem => hb (List.mem_append_left _ hmem))
  down x hx hdelivered row hrow hsame hlt := by
    apply List.mem_append_left
    obtain hdelivered | hdelivered := List.mem_append.mp hdelivered
    · exact h.down x hx hdelivered row hrow hsame hlt
    · have hserial := List.mem_singleton.mp hdelivered
      have hconversation := hguard.same x hx hserial
      refine hguard.earlierDelivered row hrow ⟨hsame.1.trans hconversation, hsame.2⟩ ?_
      rw [← hserial]
      exact hlt

theorem follows_deliver (n : ℕ) : Follows s { s with delivered := s.delivered ++ [n] } where
  accepted := le_rfl
  delivered _ hn := List.mem_append_left _ hn
  rows row hrow _ := ⟨row, hrow, rfl, rfl⟩

/-- What a lane does to everything but its own state. -/
structure LaneStep (s t : Replay) (state : LaneState) : Prop where
  rows : RowsInv t
  follows : Follows s t
  lane : LaneInv t state
  phase : t.phase = s.phase
  passes : t.passes = s.passes

end

section
variable {options : InboxOptions} {policy : InboundReplayPolicy} {toIso : ℤ → JsString}
  {s t : Replay} {state state' : LaneState}

/-- A lane that goes on without a change to the inbox. -/
theorem laneStep_self (h : RowsInv s) (hlane : LaneInv s state) : LaneStep s s state :=
  ⟨h, Follows.of_eq rfl rfl rfl, hlane, rfl, rfl⟩

/-- A lane whose message is deleted from the pending ones. -/
theorem laneStep_deleted {item : InboxItem} {rest : List InboxItem} {requestId : JsString}
    {tables : Tables} (receipts : List DeliveryReceiptInput) (h : RowsInv s)
    (hlane : Queued s [item] rest) (hid : requestId = item.requestId)
    (hpending : tables.pending = s.tables.pending.filter fun row => row.requestId ≠ requestId) :
    LaneStep s { s with tables, receipts } (.next rest) :=
  ⟨h.filter _ hpending, follows_filter _ hpending, hlane.deleted hid hpending, rfl, rfl⟩

theorem laneStep_recorded {item : InboxItem} {input : MarkReplayFailureInput}
    {rest : List InboxItem} {tables : Tables} {moved : Bool}
    (receipts : List DeliveryReceiptInput) (h : RowsInv s) (hlane : Queued s [item] rest)
    (hid : input.requestId = item.requestId) (hrecords : Records input s.tables tables moved)
    (hretry : moved = false → RetryInOrder s input rest) :
    LaneStep s { s with tables, receipts } (.next rest) := by
  cases hrecords with
  | unknown habsent hpending =>
    refine laneStep_deleted receipts h hlane hid ?_
    rw [hpending]
    refine (List.filter_eq_self.mpr ?_).symm
    intro row hrow
    exact decide_eq_true (habsent row hrow)
  | moves hpending => exact laneStep_deleted receipts h hlane hid hpending
  | stays row updatedRow hrow hrowid hmessage hconversation hnext hpending =>
    have hsame : SameMessage updatedRow row := ⟨hmessage, hconversation⟩
    have hfollows := follows_update receipts h hrow hsame hpending
    have hqueued := (hlane.retried h hrow hrowid hid (hretry rfl)).follows hfollows
    exact ⟨h.update hrow hrowid hsame hnext (hretry rfl) hpending, hfollows, hqueued, rfl, rfl⟩

theorem resumeLane_spec {choice : LaneChoice} (h : RowsInv s) (hlane : LaneInv s state)
    (hretry : ∀ item input rest env, state = .failing item input rest →
      choice = .recorded env →
        (runInTransaction (markReplayFailure options input env) env.fault s.tables).1 = some false →
          RetryInOrder s input rest)
    (hstep : resumeLane options policy toIso s state choice = some (t, state')) :
    LaneStep s t state' := by
  cases state with
  | next items =>
    cases items with
    | nil =>
      cases choice <;> simp only [resumeLane, reduceCtorEq] at hstep
      cases hstep
      exact laneStep_self h trivial
    | cons item rest =>
      cases choice <;> simp only [resumeLane, reduceCtorEq] at hstep
      cases hstep
      exact laneStep_self h hlane
  | posting item rest =>
    cases choice with
    | posted outcome nowMs =>
      cases outcome with
      | delivered =>
        cases hstep
        have hfollows := follows_deliver (s := s) item.serial
        exact ⟨h.deliver hlane.1, hfollows, hlane.2.follows hfollows, rfl, rfl⟩
      | stopping =>
        cases hstep
        exact laneStep_self h trivial
      | failed retryable reason =>
        cases hstep
        exact laneStep_self h ⟨hlane.2, rfl⟩
    | next => cases hstep
    | marked env reason nowMs => cases hstep
    | recorded env => cases hstep
  | marking item rest =>
    cases choice with
    | marked env reason nowMs =>
      simp only [resumeLane] at hstep
      obtain hrun | ⟨_, tables, hdoes, hrun⟩ :=
        runInTransaction_cases (markDelivered options item.requestId) env.fault s.tables
      · rw [hrun] at hstep
        cases hstep
        exact laneStep_self h ⟨hlane, rfl⟩
      · rw [hrun] at hstep
        cases hstep
        exact laneStep_deleted _ h hlane rfl (markDelivered_spec hdoes).1
    | next => cases hstep
    | posted outcome nowMs => cases hstep
    | recorded env => cases hstep
  | failing item input rest =>
    cases choice with
    | recorded env =>
      simp only [resumeLane] at hstep
      obtain hrun | ⟨moved, tables, hdoes, hrun⟩ :=
        runInTransaction_cases (markReplayFailure options input env) env.fault s.tables
      · rw [hrun] at hstep
        cases hstep
        exact laneStep_self h trivial
      · rw [hrun] at hstep
        cases hstep
        refine laneStep_recorded _ h hlane.1 hlane.2 (markReplayFailure_records hdoes) ?_
        rintro rfl
        exact hretry item input rest env rfl rfl (congrArg Prod.fst hrun)
    | next => cases hstep
    | posted outcome nowMs => cases hstep
    | marked env reason nowMs => cases hstep
  | returned => cases choice <;> cases hstep
  | rejected => cases choice <;> cases hstep

end

section
variable {options : InboxOptions} {policy : InboundReplayPolicy} {toIso : ℤ → JsString}
  {s t : Replay}

/-- A message that is not due before those of its conversation. -/
theorem RowsInv.append {item : InboxItem} {tables : Tables} (h : RowsInv s)
    (hid : ∀ row ∈ s.tables.pending, row.requestId ≠ item.requestId)
    (hserial : item.serial = s.accepted)
    (hdue : ∀ row ∈ s.tables.pending, row.serial ∉ s.delivered → SameConversation row item →
      isDueBefore row item)
    (hpending : tables.pending = s.tables.pending ++ [item]) :
    RowsInv { s with tables, accepted := s.accepted + 1 } := by
  have hmem : ∀ row ∈ tables.pending, row ∈ s.tables.pending ∨ row = item := by
    intro row hrow
    rw [hpending] at hrow
    exact (List.mem_append.mp hrow).imp_right List.mem_singleton.mp
  constructor
  · change (tables.pending.map _).Nodup
    rw [hpending, List.map_append]
    refine List.nodup_append.mpr ⟨h.ids, List.nodup_singleton _, ?_⟩
    intro a ha b hb hab
    obtain ⟨row, hrow, rfl⟩ := List.mem_map.mp ha
    exact hid row hrow (hab.trans (List.mem_singleton.mp hb))
  · change tables.pending.Pairwise _
    rw [hpending]
    refine List.pairwise_append.mpr ⟨h.numbered, List.pairwise_singleton _ _, ?_⟩
    intro a ha b hb
    rw [List.mem_singleton.mp hb, hserial]
    exact h.bounded a ha
  · intro row hrow
    obtain hrow | rfl := hmem row hrow
    · exact (h.bounded row hrow).trans (Nat.lt_succ_self _)
    · rw [hserial]
      exact Nat.lt_succ_self _
  · intro n hn
    exact (h.known n hn).trans (Nat.lt_succ_self _)
  · change tables.pending.Pairwise _
    rw [hpending]
    refine List.pairwise_append.mpr ⟨h.inOrder, List.pairwise_singleton _ _, ?_⟩
    intro a ha b hb hsame hwaits _
    rw [List.mem_singleton.mp hb] at hsame ⊢
    exact hdue a ha hwaits hsame
  · intro x hx hdelivered row hrow hsame hlt
    obtain hx | rfl := hmem x hx
    · obtain hrow | rfl := hmem row hrow
      · exact h.down x hx hdelivered row hrow hsame hlt
      · have := h.bounded x hx
        omega
    · have := h.known x.serial hdelivered
      omega

theorem follows_append {item : InboxItem} {tables : Tables}
    (hserial : item.serial = s.accepted)
    (hpending : tables.pending = s.tables.pending ++ [item]) :
    Follows s { s with tables, accepted := s.accepted + 1 } where
  accepted := Nat.le_succ _
  delivered _ hn := hn
  rows row hrow hlt := by
    rw [hpending] at hrow
    obtain hrow | hrow := List.mem_append.mp hrow
    · exact ⟨row, hrow, rfl, rfl⟩
    · rw [List.mem_singleton.mp hrow] at hlt
      omega

/-- What a message that arrives does to the rows. -/
theorem enqueue_step {frame : DeliverFrame} {env : Env} (h : RowsInv s)
    (hok : StepInOrder options s (.enqueue frame env))
    (hstep : step options policy toIso s (.enqueue frame env) = some t) :
    RowsInv t ∧ Follows s t ∧ t.phase = s.phase ∧ t.lanes = s.lanes := by
  simp only [StepInOrder] at hok
  simp only [step, Option.some.injEq] at hstep
  obtain hrun | ⟨result, tables, hdoes, hrun⟩ :=
    runInTransaction_cases (enqueue options frame s.accepted env) env.fault s.tables
  · rw [hrun] at hstep
    subst hstep
    exact ⟨h.of_eq rfl rfl rfl, Follows.of_eq rfl rfl rfl, rfl, rfl⟩
  · rw [hrun] at hstep hok
    by_cases hnew : (result.accepted && !result.duplicate) = true
    · obtain ⟨hfree, hpending⟩ := enqueue_stored hdoes hnew
      simp only [Option.any_some, hnew, if_true] at hstep
      subst hstep
      exact ⟨h.append hfree rfl (hok hnew) hpending, follows_append rfl hpending, rfl, rfl⟩
    · simp only [Option.any_some, hnew, if_false, Bool.false_eq_true] at hstep
      subst hstep
      have hkeeps : tables.pending = s.tables.pending := by
        cases enqueue_spec hdoes with
        | refused _ hkeeps => exact hkeeps.1
        | stored hnew' => exact absurd hnew' hnew
      exact ⟨h.of_eq hkeeps rfl rfl, Follows.of_eq hkeeps rfl rfl, rfl, rfl⟩

/-- A pass that is over leaves the lanes as they are. -/
theorem Inv.idle (h : Inv s) (passes : ℕ) : Inv { s with phase := .idle, passes } where
  rows := h.rows.of_eq rfl rfl rfl
  listed items hitems := by cases hitems
  lanes lane hlane := (h.lanes lane hlane).follows (Follows.of_eq rfl rfl rfl)

/-- The lanes of a pass. -/
theorem Inv.runLanes (h : Inv s) {dueItems : List InboxItem} (hphase : s.phase = .listed dueItems) :
    Inv { s with
      phase := .running
      lanes := s.lanes ++
        (groupDueItemsByLane dueItems).map fun lane => ⟨s.passes, .next lane⟩ } where
  rows := h.rows.of_eq rfl rfl rfl
  listed items hitems := by cases hitems
  lanes lane hlane := by
    have hfollows : Follows s { s with
        phase := .running
        lanes := s.lanes ++
          (groupDueItemsByLane dueItems).map fun lane => ⟨s.passes, .next lane⟩ } :=
      Follows.of_eq rfl rfl rfl
    obtain hlane | hlane := List.mem_append.mp hlane
    · exact (h.lanes lane hlane).follows hfollows
    · obtain ⟨items, hitems, rfl⟩ := List.mem_map.mp hlane
      obtain ⟨key, rfl⟩ := groupDueItemsByLane_spec hitems
      obtain ⟨hqueued, hread⟩ := h.listed dueItems hphase
      refine Queued.follows (hqueued.filter (p := fun item => decide (laneKey item = key)) ?_)
        hfollows
      intro a ha b hb hconversation
      rw [List.nil_append] at ha
      rw [hread a ha, hread b hb] at hconversation
      rw [laneKey_eq_iff.mpr hconversation]

theorem Inv.startPass (h : Inv s) (limit : ℤ) (nowAt : JsString) :
    Inv { s with phase := .listed (listDuePending s.tables limit nowAt) } where
  rows := h.rows.of_eq rfl rfl rfl
  listed items hitems := by
    obtain rfl := Phase.listed.inj hitems
    refine ⟨(queued_listDuePending h.rows limit nowAt).follows (Follows.of_eq rfl rfl rfl), ?_⟩
    intro item hitem
    obtain ⟨row, -, -, rfl⟩ := mem_listDuePending hitem
    exact conversation_toPendingItem row
  lanes lane hlane := (h.lanes lane hlane).follows (Follows.of_eq rfl rfl rfl)

/-- **The step lemma.** -/
theorem inv_step {e : Event} (h : Inv s) (hok : StepInOrder options s e)
    (hstep : step options policy toIso s e = some t) : Inv t := by
  cases e with
  | enqueue frame env =>
    obtain ⟨hrows, hfollows, hphase, hlanes⟩ := enqueue_step h.rows hok hstep
    refine ⟨hrows, ?_, ?_⟩
    · intro items hitems
      obtain ⟨hqueued, hread⟩ := h.listed items (hphase ▸ hitems)
      exact ⟨hqueued.follows hfollows, hread⟩
    · intro lane hlane
      exact (h.lanes lane (hlanes ▸ hlane)).follows hfollows
  | startPass nowAt =>
    simp only [step] at hstep
    split at hstep
    · obtain rfl := Option.some.inj hstep
      exact h.startPass _ nowAt
    · cases hstep
  | skipPass =>
    simp only [step] at hstep
    split at hstep
    · obtain rfl := Option.some.inj hstep
      exact h.idle _
    · cases hstep
  | runLanes =>
    simp only [step] at hstep
    split at hstep
    · rename_i dueItems hphase
      split at hstep
      · cases hstep
      · obtain rfl := Option.some.inj hstep
        exact h.runLanes hphase
    · cases hstep
  | lane i choice =>
    obtain ⟨lane, hlane, hstep⟩ := Option.bind_eq_some_iff.mp hstep
    obtain ⟨⟨next, state⟩, hresume, rfl⟩ := Option.map_eq_some_iff.mp hstep
    have hmem := List.mem_of_getElem? hlane
    have hspec := resumeLane_spec h.rows (h.lanes lane hmem) ?_ hresume
    · have hfollows : Follows s { next with lanes := s.lanes.set i { lane with state } } :=
        ⟨hspec.follows.accepted, hspec.follows.delivered, hspec.follows.rows⟩
      refine ⟨hspec.rows.of_eq rfl rfl rfl, ?_, ?_⟩
      · intro items hitems
        obtain ⟨hqueued, hread⟩ := h.listed items (hspec.phase ▸ hitems)
        exact ⟨hqueued.follows hfollows, hread⟩
      · intro other hother
        obtain hother | rfl := List.mem_or_eq_of_mem_set hother
        · exact (h.lanes other hother).follows hfollows
        · exact hspec.lane.follows (Follows.of_eq rfl rfl rfl)
    · rintro item input rest env hstate rfl hrun
      refine hok (input, rest) ?_ hrun
      rw [hlane, Option.bind_some, hstate]
      rfl
  | finishPass =>
    simp only [step] at hstep
    split at hstep
    · split at hstep
      · obtain rfl := Option.some.inj hstep
        exact h.idle _
      · cases hstep
    · cases hstep

/-- A message that the webhook takes has no earlier one to wait for. -/
theorem orderKept_of_inv (h : Inv s) (e : Event) : OrderKept s e := by
  cases e with
  | lane i choice =>
    cases choice with
    | posted outcome nowMs =>
      cases outcome with
      | delivered =>
        intro item hitem
        obtain ⟨lane, hlane, hposted⟩ := Option.bind_eq_some_iff.mp hitem
        have hinv := h.lanes lane (List.mem_of_getElem? hlane)
        cases hstate : lane.state with
        | posting item' rest =>
          rw [hstate] at hinv hposted
          obtain rfl := Option.some.inj hposted
          exact hinv.1.earlierDelivered
        | next items => simp [hstate, LaneState.posted] at hposted
        | marking item' rest => simp [hstate, LaneState.posted] at hposted
        | failing item' input rest => simp [hstate, LaneState.posted] at hposted
        | returned => simp [hstate, LaneState.posted] at hposted
        | rejected => simp [hstate, LaneState.posted] at hposted
      | stopping => trivial
      | failed retryable reason => trivial
    | next => trivial
    | marked env reason nowMs => trivial
    | recorded env => trivial
  | enqueue frame env => trivial
  | startPass nowAt => trivial
  | skipPass => trivial
  | runLanes => trivial
  | finishPass => trivial

end

section Code
variable (options : InboxOptions) (policy : InboundReplayPolicy) (toIso : ℤ → JsString)

/-- **The order of conversations.** From any set of pending messages whose conversations are due in
their order, in every run whose steps are in order: a message is delivered to the webhook only after
every earlier pending message of its conversation has been delivered or dead-lettered. -/
theorem replay_in_order (pending : PendingSet) (hpending : InOrder pending.rows [])
    (events : List Event)
    (hok : AllSteps (step options policy toIso) (StepInOrder options) (.start pending) events) :
    AllSteps (step options policy toIso) OrderKept (.start pending) events :=
  allSteps_of_invariant Inv (fun _ _ _ h hok hstep => inv_step h hok hstep)
    (fun _ e h _ => orderKept_of_inv h e) (inv_start pending hpending) hok

end Code

/-! ### Two messages of a conversation -/

def exampleItem (requestId receivedAt : JsString) (serial : ℕ) : InboxItem where
  id := requestId
  requestId := requestId
  fromAgentDid := js "a"
  toAgentDid := js "b"
  payload := .null
  payloadBytes := 4
  receivedAt := receivedAt
  serial := serial
  groupId := none
  conversationId := some (js "c")
  replyTo := none
  nextAttemptAt := receivedAt
  attemptCount := 0
  lastAttemptAt := none
  lastError := none

def examplePending : PendingSet where
  rows := [exampleItem (js "m1") (js "1") 0, exampleItem (js "m2") (js "2") 1]
  ids := by decide
  numbered := by decide
  next := 2
  bounded := by decide

def examplePolicy : InboundReplayPolicy := ⟨25, 1, 2000, 60000, 2, 2000, 8000, 2⟩

/-- The clock of the example stands at 3, and a retry is due at 5. -/
def exampleClock : ℤ → JsString := fun _ => js "5"

def exampleRecord : Env := ⟨fun _ => js "3", none⟩

/-- A pass in which the webhook refuses the first message and takes the second one. -/
def exampleEvents (retryable : Bool) : List Event :=
  [.startPass (js "3"), .runLanes, .lane 0 .next,
    .lane 0 (.posted (.failed retryable (js "refused")) 3), .lane 0 (.recorded exampleRecord),
    .lane 0 .next, .lane 0 (.posted .delivered 3)]

/-- The first message becomes a dead letter before the second one is delivered. -/
theorem exampleEvents_in_order :
    AllSteps (step exampleOptions examplePolicy exampleClock) OrderKept (.start examplePending)
      (exampleEvents false) :=
  replay_in_order exampleOptions examplePolicy exampleClock examplePending (by decide)
    (exampleEvents false) (by decide +kernel)

/-- **The order is not kept**: a message is delivered while an earlier one waits for its retry. -/
theorem not_replay_in_order :
    ¬∀ (options : InboxOptions) (policy : InboundReplayPolicy) (toIso : ℤ → JsString)
        (pending : PendingSet) (events : List Event),
      AllSteps (step options policy toIso) OrderKept (.start pending) events := by
  intro h
  have hrun := h exampleOptions examplePolicy exampleClock examplePending (exampleEvents true)
  revert hrun
  decide +kernel

end Clawdentity.Connector.InboundReplay
