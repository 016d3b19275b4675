import Clawdentity.Connector.ReplayOrder

/-!
# The rows of the inbox

What the operations of the inbox keep in a row. The columns of the attempts change; the message,
its group, its conversation and the address for the reply stay what the frame said. A message
leaves the inbox by `markDelivered` or by `purgeDeadLetter`.

## Main definitions

* `SameColumns`, `RowsKept` — what no operation changes in a row.
* `run_rowsKept`, `run_enqueue` — what an operation does to the rows.
-/

namespace Clawdentity.Connector.InboundInbox

open Js Lib.Transaction Lib.Rows InboundReplay

/-! ## The columns of a row -/

/-- Two rows have the same columns, apart from those of the attempts. -/
structure SameColumns (a b : InboxItem) : Prop where
  message : a.toMessage = b.toMessage
  groupId : parseOptionalNonEmptyString a.groupId = parseOptionalNonEmptyString b.groupId
  conversationId :
    parseOptionalNonEmptyString a.conversationId = parseOptionalNonEmptyString b.conversationId
  replyTo : parseOptionalNonEmptyString a.replyTo = parseOptionalNonEmptyString b.replyTo

theorem SameColumns.refl (a : InboxItem) : SameColumns a a := ⟨rfl, rfl, rfl, rfl⟩

theorem SameColumns.trans {a b c : InboxItem} (h : SameColumns a b) (h' : SameColumns b c) :
    SameColumns a c where
  message := h.message.trans h'.message
  groupId := h.groupId.trans h'.groupId
  conversationId := h.conversationId.trans h'.conversationId
  replyTo := h.replyTo.trans h'.replyTo

/-- A row that is written has the columns of the item that was read. -/
theorem SameColumns.of_read {row item : InboxItem} (message : item.toMessage = row.toMessage)
    (groupId : item.groupId = parseOptionalNonEmptyString row.groupId)
    (conversationId : item.conversationId = parseOptionalNonEmptyString row.conversationId)
    (replyTo : item.replyTo = parseOptionalNonEmptyString row.replyTo) : SameColumns item row where
  message := message
  groupId := by rw [groupId, parseOptionalNonEmptyString_idem]
  conversationId := by rw [conversationId, parseOptionalNonEmptyString_idem]
  replyTo := by rw [replyTo, parseOptionalNonEmptyString_idem]

theorem sameColumns_toPendingItem (row : InboxItem) : SameColumns (toPendingItem row) row :=
  .of_read rfl rfl rfl rfl

/-! ## What the operations keep -/

/-- The rows of the two tables. -/
def Tables.rows (s : Tables) : List InboxItem :=
  s.pending ++ s.deadLetter.map fun row => row.toInboxItem

/-- Every row was there before, with the same columns. -/
def RowsKept (s t : Tables) : Prop := ∀ row ∈ t.rows, ∃ old ∈ s.rows, SameColumns row old

section
variable {options : InboxOptions} {env : Env} {s t m : Tables} {requestId : JsString}

theorem RowsKept.trans {u : Tables} (h : RowsKept s t) (h' : RowsKept t u) : RowsKept s u := by
  intro row hrow
  obtain ⟨mid, hmid, hsame⟩ := h' row hrow
  obtain ⟨old, hold, hsame'⟩ := h mid hmid
  exact ⟨old, hold, hsame.trans hsame'⟩

theorem rowsKept_of_subset (h : t.rows ⊆ s.rows) : RowsKept s t :=
  fun row hrow => ⟨row, h hrow, .refl row⟩

theorem rowsKept_of_keeps (h : Keeps s t) : RowsKept s t := by
  apply rowsKept_of_subset
  simp [Tables.rows, h.1, h.2]

theorem rowsKept_markDelivered {u : Unit} (h : Does (markDelivered options requestId) s u t) :
    RowsKept s t := by
  obtain ⟨hpending, hdead⟩ := markDelivered_spec h
  apply rowsKept_of_subset
  intro row hrow
  simp only [Tables.rows, hpending, hdead, List.mem_append, List.mem_filter] at hrow ⊢
  exact hrow.imp_left And.left

/-- A dead letter that is moved from the pending rows. -/
theorem rowsKept_markReplayFailure {input : MarkReplayFailureInput} {moved : Bool}
    (h : Does (markReplayFailure options input env) s moved t) : RowsKept s t := by
  unfold markReplayFailure at h
  obtain ⟨found, m, hfound, h⟩ := does_bind h
  obtain ⟨rfl, rfl⟩ := does_query hfound
  cases hrow : m.pending.find? (fun row => row.requestId = input.requestId) with
  | none =>
      rw [hrow] at h
      obtain ⟨-, rfl⟩ := does_pure h
      exact rowsKept_of_keeps ⟨rfl, rfl⟩
  | some row =>
      rw [hrow] at h
      have hmem : row ∈ m.rows := List.mem_append_left _ (List.mem_of_find?_eq_some hrow)
      simp only [Option.map_some] at h
      split at h
      · obtain ⟨_, m₁, hdelete, h⟩ := does_bind h
        obtain ⟨_, m₂, hinsert, h⟩ := does_bind h
        obtain ⟨_, m₃, hevent, h⟩ := does_bind h
        obtain ⟨-, rfl⟩ := does_pure h
        obtain rfl := deletePending_spec hdelete
        obtain rfl := insertDeadLetter_spec hinsert
        refine RowsKept.trans ?_ (rowsKept_of_keeps (appendEvent_spec hevent))
        intro other hother
        simp only [Tables.rows, List.map_append, List.map_cons, List.map_nil, List.mem_append,
          List.mem_filter, List.mem_singleton] at hother
        obtain hother | hother | rfl := hother
        · exact ⟨other, List.mem_append_left _ hother.1, .refl other⟩
        · exact ⟨other, List.mem_append_right _ hother, .refl other⟩
        · exact ⟨row, hmem, .of_read rfl rfl rfl rfl⟩
      · obtain ⟨_, m₁, hupdate, h⟩ := does_bind h
        obtain ⟨_, m₂, hevent, h⟩ := does_bind h
        obtain ⟨-, rfl⟩ := does_pure h
        obtain rfl := (Prod.mk.inj (does_update hupdate)).2
        refine RowsKept.trans ?_ (rowsKept_of_keeps (appendEvent_spec hevent))
        intro other hother
        simp only [Tables.rows, List.mem_append] at hother
        obtain hother | hother := hother
        · obtain ⟨old, hold, rfl⟩ := List.mem_map.mp hother
          split
          · exact ⟨row, hmem, .of_read rfl rfl rfl rfl⟩
          · exact ⟨old, List.mem_append_left _ hold, .refl old⟩
        · exact ⟨other, List.mem_append_right _ hother, .refl other⟩

theorem rowsKept_replayLoop {ids : List JsString} {n count : ℕ}
    (h : Does (replayLoop options env ids n) s count t) : RowsKept s t := by
  induction ids generalizing s n with
  | nil =>
      obtain ⟨-, rfl⟩ := does_pure h
      exact rowsKept_of_keeps ⟨rfl, rfl⟩
  | cons id rest ih =>
      unfold replayLoop at h
      obtain ⟨found, m, hfound, h⟩ := does_bind h
      obtain ⟨rfl, rfl⟩ := does_query hfound
      cases hrow : m.deadLetter.find? (fun row => row.requestId = id) with
      | none =>
          rw [hrow] at h
          exact ih h
      | some row =>
          rw [hrow] at h
          obtain ⟨_, m₁, hdelete, h⟩ := does_bind h
          obtain rfl := deleteDeadLetter_spec hdelete
          obtain ⟨_, m₂, hinsert, h⟩ := does_bind h
          obtain ⟨_, rfl⟩ := insertPending_spec hinsert
          obtain ⟨_, m₃, hevent, h⟩ := does_bind h
          refine RowsKept.trans ?_ (ih h)
          refine RowsKept.trans ?_ (rowsKept_of_keeps (appendEvent_spec hevent))
          intro other hother
          simp only [Tables.rows, List.mem_append, List.mem_singleton] at hother
          obtain (hother | rfl) | hother := hother
          · exact ⟨other, List.mem_append_left _ hother, .refl other⟩
          · refine ⟨row.toInboxItem, ?_, .of_read rfl rfl rfl rfl⟩
            exact List.mem_append_right _ (List.mem_map_of_mem (List.mem_of_find?_eq_some hrow))
          · obtain ⟨dead, hdead, rfl⟩ := List.mem_map.mp hother
            exact ⟨dead.toInboxItem,
              List.mem_append_right _ (List.mem_map_of_mem (List.mem_filter.mp hdead).1), .refl _⟩

theorem rowsKept_purgeLoop {ids : List JsString} {n count : ℕ}
    (h : Does (purgeLoop options ids n) s count t) : RowsKept s t := by
  obtain ⟨hpending, hdead⟩ := purgeLoop_spec h
  apply rowsKept_of_subset
  intro row hrow
  simp only [Tables.rows, hpending, hdead, List.mem_append, List.mem_map] at hrow ⊢
  refine hrow.imp_right ?_
  rintro ⟨dead, hmem, rfl⟩
  exact ⟨dead, (List.mem_filter.mp hmem).1, rfl⟩

variable {inbox : Inbox}

/-- An operation other than `enqueue` accepts nothing, and keeps the columns of the rows. -/
theorem run_rowsKept {op : Operation} (hop : ∀ frame, op ≠ .enqueue frame) :
    (run options op env inbox).2.accepted = inbox.accepted ∧
      RowsKept inbox.tables (run options op env inbox).2.tables := by
  have hself : RowsKept inbox.tables inbox.tables := rowsKept_of_keeps ⟨rfl, rfl⟩
  cases op with
  | enqueue frame => exact absurd rfl (hop frame)
  | listDuePending | listDeadLetter => exact ⟨rfl, hself⟩
  | markDelivered requestId =>
      refine ⟨rfl, ?_⟩
      simp only [run]
      obtain heq | ⟨u, t, hdoes, heq⟩ :=
        runInTransaction_cases (markDelivered options requestId) env.fault inbox.tables
      · rwa [heq]
      · rw [heq]
        exact rowsKept_markDelivered hdoes
  | markReplayFailure input =>
      refine ⟨rfl, ?_⟩
      simp only [run]
      obtain heq | ⟨moved, t, hdoes, heq⟩ :=
        runInTransaction_cases (markReplayFailure options input env) env.fault inbox.tables
      · rwa [heq]
      · rw [heq]
        exact rowsKept_markReplayFailure hdoes
  | replayDeadLetter requestIds =>
      refine ⟨rfl, ?_⟩
      simp only [run]
      obtain heq | ⟨count, t, hdoes, heq⟩ :=
        runInTransaction_cases (replayDeadLetter options requestIds env) env.fault inbox.tables
      · rwa [heq]
      · rw [heq]
        obtain ⟨ids, m, hids, hloop⟩ := does_bind hdoes
        obtain ⟨rfl, -⟩ := selectedIds_spec hids
        exact rowsKept_replayLoop hloop
  | purgeDeadLetter requestIds =>
      refine ⟨rfl, ?_⟩
      simp only [run]
      obtain heq | ⟨count, t, hdoes, heq⟩ :=
        runInTransaction_cases (purgeDeadLetter options requestIds) env.fault inbox.tables
      · rwa [heq]
      · rw [heq]
        obtain ⟨ids, m, hids, hloop⟩ := does_bind hdoes
        obtain ⟨rfl, -⟩ := selectedIds_spec hids
        exact rowsKept_purgeLoop hloop

/-- What `enqueue` answers: a new message is stored, or a message that is accepted was there
before. -/
inductive Enqueued (options : InboxOptions) (frame : DeliverFrame) (inbox : Inbox) :
    Option Reply → Inbox → Prop
  | stored {next : Inbox} {result : EnqueueResult} (receivedAt : JsString)
      (haccepted : result.accepted = true) (hduplicate : result.duplicate = false)
      (hframes : next.accepted = inbox.accepted ++ [frame])
      (hrows : ∀ row ∈ next.tables.rows, row ∈ inbox.tables.rows ∨
        row = buildPendingItem options frame inbox.accepted.length receivedAt) :
      Enqueued options frame inbox (some (.enqueued result)) next
  | known {next : Inbox} {result : EnqueueResult} (hduplicate : result.duplicate = true)
      (hknown : inbox.tables.hasRequest frame.id = true)
      (hframes : next.accepted = inbox.accepted) (hrows : RowsKept inbox.tables next.tables) :
      Enqueued options frame inbox (some (.enqueued result)) next
  | refused {next : Inbox} {result : EnqueueResult} (haccepted : result.accepted = false)
      (hframes : next.accepted = inbox.accepted) (hrows : RowsKept inbox.tables next.tables) :
      Enqueued options frame inbox (some (.enqueued result)) next
  | threw : Enqueued options frame inbox none inbox

theorem enqueue_answer {frame : DeliverFrame} {serial : ℕ} {result : EnqueueResult}
    (h : Does (enqueue options frame serial env) s result t) :
    (result.accepted = true ∧ result.duplicate = false) ∨
      (result.duplicate = true ∧ s.hasRequest frame.id = true) ∨ result.accepted = false := by
  unfold enqueue at h
  obtain ⟨known, m, hknown, h⟩ := does_bind h
  obtain ⟨rfl, rfl⟩ := does_query hknown
  split at h
  · rename_i hknown
    obtain ⟨totals, m₁, -, h⟩ := does_bind h
    obtain ⟨_, m₂, -, h⟩ := does_bind h
    obtain ⟨rfl, -⟩ := does_pure h
    exact .inr (.inl ⟨rfl, hknown⟩)
  · obtain ⟨totals, m, -, h⟩ := does_bind h
    split at h
    · obtain ⟨rfl, -⟩ := does_pure h
      exact .inr (.inr rfl)
    split at h
    · obtain ⟨rfl, -⟩ := does_pure h
      exact .inr (.inr rfl)
    obtain ⟨_, m₁, -, h⟩ := does_bind h
    obtain ⟨_, m₂, -, h⟩ := does_bind h
    obtain ⟨rfl, -⟩ := does_pure h
    exact .inl ⟨rfl, rfl⟩

theorem run_enqueue (options : InboxOptions) (env : Env) (frame : DeliverFrame) (inbox : Inbox) :
    Enqueued options frame inbox (run options (.enqueue frame) env inbox).1
      (run options (.enqueue frame) env inbox).2 := by
  simp only [run]
  obtain heq | ⟨result, t, hdoes, heq⟩ := runInTransaction_cases
    (enqueue options frame inbox.accepted.length env) env.fault inbox.tables
  · rw [heq]
    exact .threw
  rw [heq]
  cases enqueue_spec hdoes with
  | refused hnew hkeeps =>
      simp only [Option.any_some, hnew, Option.map_some]
      obtain hstored | ⟨hduplicate, hknown⟩ | haccepted := enqueue_answer hdoes
      · simp [hstored.1, hstored.2] at hnew
      · exact .known hduplicate hknown rfl (rowsKept_of_keeps hkeeps)
      · exact .refused haccepted rfl (rowsKept_of_keeps hkeeps)
  | stored hnew hfree hcount hbytes hpending hdead =>
      rename_i receivedAt
      simp only [Option.any_some, hnew, Option.map_some, if_true]
      simp only [Bool.and_eq_true, Bool.not_eq_true'] at hnew
      refine .stored receivedAt hnew.1 hnew.2 rfl ?_
      intro row hrow
      simp only [Tables.rows, hpending, hdead, List.mem_append, List.mem_singleton] at hrow ⊢
      tauto

/-- What `markDelivered` deletes had the request. -/
theorem run_markDelivered_gone {n : ℕ}
    (hn : n ∈ (run options (.markDelivered requestId) env inbox).2.delivered) :
    n ∈ inbox.delivered ∨
      ∃ m ∈ inbox.tables.messages, m.serial = n ∧ m.requestId = requestId := by
  simp only [run, List.mem_append] at hn
  refine hn.imp_right ?_
  intro hgone
  obtain ⟨m, hm, rfl⟩ := List.mem_map.mp hgone
  obtain ⟨hbefore, hafter⟩ := List.mem_filter.mp hm
  refine ⟨m, List.mem_append_left _ hbefore, rfl, ?_⟩
  obtain heq | ⟨u, t, hdoes, heq⟩ :=
    runInTransaction_cases (markDelivered options requestId) env.fault inbox.tables
  · rw [heq] at hafter
    simp [hbefore] at hafter
  · rw [heq] at hafter
    obtain ⟨row, hrow, rfl⟩ := List.mem_map.mp hbefore
    by_contra hid
    simp only [Tables.pendingMessages, (markDelivered_spec hdoes).1, decide_not,
      Bool.not_eq_eq_eq_not, Bool.not_true, decide_eq_false_iff_not] at hafter
    exact hafter (List.mem_map_of_mem (List.mem_filter.mpr ⟨hrow, by simpa using hid⟩))

/-- The other operations deliver nothing, and only `purgeDeadLetter` purges. -/
theorem run_gone {op : Operation} :
    ((∀ requestId, op ≠ .markDelivered requestId) →
      (run options op env inbox).2.delivered = inbox.delivered) ∧
      ((∀ requestIds, op ≠ .purgeDeadLetter requestIds) →
        (run options op env inbox).2.purged = inbox.purged) := by
  cases op with
  | markDelivered requestId => exact ⟨fun h => absurd rfl (h requestId), fun _ => rfl⟩
  | purgeDeadLetter requestIds => exact ⟨fun _ => rfl, fun h => absurd rfl (h requestIds)⟩
  | _ => exact ⟨fun _ => rfl, fun _ => rfl⟩

theorem mem_rows_of_messages {m : Message} (h : m ∈ s.messages) :
    ∃ row ∈ s.rows, row.toMessage = m := by
  simp only [Tables.messages, Tables.pendingMessages, Tables.deadMessages, List.mem_append,
    List.mem_map] at h
  obtain ⟨row, hrow, rfl⟩ | ⟨row, hrow, rfl⟩ := h
  · exact ⟨row, List.mem_append_left _ hrow, rfl⟩
  · exact ⟨row.toInboxItem, List.mem_append_right _ (List.mem_map_of_mem hrow), rfl⟩

end

end Clawdentity.Connector.InboundInbox
