import Clawdentity.Connector.InboundInbox
import Clawdentity.Lib.Rows
import Clawdentity.Lib.Run

/-!
# The invariant of the inbox

A message that the inbox has accepted is in one of its tables until it is delivered or purged.
What an operation does is said once, as the messages of the two tables before and after it; the
invariant of every reachable inbox is read off that.

## Main definitions

* `Enqueues`, `Removes`, `Transfers` — what an operation that goes to its end does.
* `Inbox.Sound` — the invariant.
* `inbox_sound` — it holds in every run, and what an operation that throws leaves.
-/

namespace Clawdentity.Connector.InboundInbox

open Js Lib.Transaction Lib.Run Lib.Rows

/-! ## What the operations do -/

section
variable {options : InboxOptions} {env : Env} {s t m : Tables} {requestId : JsString}

/-- The two tables are as they were. -/
def Keeps (s t : Tables) : Prop := t.pending = s.pending ∧ t.deadLetter = s.deadLetter

theorem appendEvent_spec {type : EventType} {u : Unit}
    (h : Does (appendEvent options type requestId) s u t) : Keeps s t := by
  unfold appendEvent at h
  obtain ⟨_, m₁, hinsert, h⟩ := does_bind h
  obtain ⟨full, m₂, hquery, h⟩ := does_bind h
  have hinsert := (Prod.mk.inj (does_update hinsert)).2
  have hquery := (does_query hquery).2
  subst hinsert hquery
  split at h
  · have hprune := (Prod.mk.inj (does_update h)).2
    subst hprune
    exact ⟨rfl, rfl⟩
  · obtain ⟨_, rfl⟩ := does_pure h
    exact ⟨rfl, rfl⟩

theorem insertPending_spec {item : InboxItem} {u : Unit} (h : Does (insertPending item) s u t) :
    (∀ row ∈ s.pending, row.requestId ≠ item.requestId) ∧
      t = { s with pending := s.pending ++ [item] } := by
  have h := does_statement h
  split at h
  · cases h
  · rename_i hfree
    refine ⟨?_, (Prod.mk.inj (Option.some.inj h)).2.symm⟩
    simpa using hfree

theorem insertDeadLetter_spec {item : DeadLetterItem} {u : Unit}
    (h : Does (insertDeadLetter item) s u t) :
    t = { s with deadLetter := s.deadLetter ++ [item] } := by
  have h := does_statement h
  split at h
  · cases h
  · exact (Prod.mk.inj (Option.some.inj h)).2.symm

theorem deletePending_spec {deleted : Bool} (h : Does (deletePending requestId) s deleted t) :
    t = { s with pending := s.pending.filter fun row => row.requestId ≠ requestId } :=
  (Prod.mk.inj (does_update h)).2

theorem deleteDeadLetter_spec {deleted : Bool} (h : Does (deleteDeadLetter requestId) s deleted t) :
    t = { s with deadLetter := s.deadLetter.filter fun row => row.requestId ≠ requestId } :=
  (Prod.mk.inj (does_update h)).2

/-- **What `enqueue` does**: nothing where the request is known or the inbox is full, and else it
stores the message. -/
inductive Enqueues (options : InboxOptions) (frame : DeliverFrame) (serial : ℕ) (s : Tables) :
    EnqueueResult → Tables → Prop
  | refused {result : EnqueueResult} {t : Tables}
      (hnew : (result.accepted && !result.duplicate) = false) (hkeeps : Keeps s t) :
      Enqueues options frame serial s result t
  | stored {result : EnqueueResult} {t : Tables} {receivedAt : JsString}
      (hnew : (result.accepted && !result.duplicate) = true)
      (hfree : s.hasRequest frame.id = false)
      (hcount : s.pending.length < options.maxPendingMessages)
      (hbytes : payloadBytes s.pending + options.byteLength (frame.payload.getD .null) ≤
        options.maxPendingBytes)
      (hpending : t.pending = s.pending ++ [buildPendingItem options frame serial receivedAt])
      (hdead : t.deadLetter = s.deadLetter) : Enqueues options frame serial s result t

theorem enqueue_spec {frame : DeliverFrame} {serial : ℕ} {result : EnqueueResult}
    (h : Does (enqueue options frame serial env) s result t) :
    Enqueues options frame serial s result t := by
  unfold enqueue at h
  obtain ⟨known, m, hknown, h⟩ := does_bind h
  obtain ⟨rfl, rfl⟩ := does_query hknown
  split at h
  · obtain ⟨totals, m, htotals, h⟩ := does_bind h
    obtain ⟨_, m', hevent, h⟩ := does_bind h
    obtain ⟨rfl, rfl⟩ := does_pure h
    rw [(does_query htotals).2] at hevent
    exact .refused rfl (appendEvent_spec hevent)
  · rename_i hfree
    obtain ⟨totals, m, htotals, h⟩ := does_bind h
    obtain ⟨rfl, rfl⟩ := does_query htotals
    split at h
    · obtain ⟨rfl, rfl⟩ := does_pure h
      exact .refused rfl ⟨rfl, rfl⟩
    rename_i hcount
    split at h
    · obtain ⟨rfl, rfl⟩ := does_pure h
      exact .refused rfl ⟨rfl, rfl⟩
    rename_i hbytes
    obtain ⟨_, m₁, hinsert, h⟩ := does_bind h
    obtain ⟨_, m₂, hevent, h⟩ := does_bind h
    obtain ⟨rfl, rfl⟩ := does_pure h
    obtain ⟨_, rfl⟩ := insertPending_spec hinsert
    obtain ⟨hpending, hdead⟩ := appendEvent_spec hevent
    exact .stored rfl (by simpa using hfree) (by simpa using hcount) (Nat.not_lt.mp hbytes)
      hpending hdead

theorem markDelivered_spec {u : Unit} (h : Does (markDelivered options requestId) s u t) :
    t.pending = (s.pending.filter fun row => row.requestId ≠ requestId) ∧
      t.deadLetter = s.deadLetter := by
  unfold markDelivered at h
  obtain ⟨deleted, m, hdelete, h⟩ := does_bind h
  obtain rfl := deletePending_spec hdelete
  split at h
  · exact appendEvent_spec h
  · obtain ⟨_, rfl⟩ := does_pure h
    exact ⟨rfl, rfl⟩

/-- **What `markReplayFailure` does**: it changes columns that no message has, or it moves a
message. -/
inductive Fails (requestId : JsString) (s : Tables) (t : Tables) : Prop
  | stays (hpending : t.pendingMessages = s.pendingMessages) (hdead : t.deadLetter = s.deadLetter)
  | moves (row : InboxItem)
      (hrow : s.pending.find? (fun row => row.requestId = requestId) = some row)
      (hpending : t.pending = s.pending.filter fun row => row.requestId ≠ requestId)
      (hdead : t.deadMessages = s.deadMessages ++ [row.toMessage])

theorem updatePending_messages {item row : InboxItem} (hids : (s.pending.map (·.requestId)).Nodup)
    (hrow : s.pending.find? (fun r => r.requestId = requestId) = some row)
    (hitem : item.toMessage = row.toMessage) :
    (s.pending.map fun r => if r.requestId = item.requestId then item else r).map (·.toMessage) =
      s.pendingMessages := by
  rw [List.map_map]
  refine List.map_congr_left ?_
  intro r hr
  simp only [Function.comp_apply]
  split
  · rename_i hid
    have hrow := key_of_find hrow
    have hsame : r.requestId = row.requestId :=
      hid.trans (congrArg Message.requestId hitem)
    rw [List.inj_on_of_nodup_map hids hr hrow.1 hsame, hitem]
  · rfl

theorem markReplayFailure_spec {input : MarkReplayFailureInput} {moved : Bool}
    (hids : (s.pending.map (·.requestId)).Nodup)
    (h : Does (markReplayFailure options input env) s moved t) : Fails input.requestId s t := by
  unfold markReplayFailure at h
  obtain ⟨found, m, hfound, h⟩ := does_bind h
  obtain ⟨rfl, rfl⟩ := does_query hfound
  cases hrow : m.pending.find? (fun row => row.requestId = input.requestId) with
  | none =>
      rw [hrow] at h
      obtain ⟨_, rfl⟩ := does_pure h
      exact .stays rfl rfl
  | some row =>
      rw [hrow] at h
      simp only [Option.map_some] at h
      split at h
      · obtain ⟨_, m₁, hdelete, h⟩ := does_bind h
        obtain ⟨_, m₂, hinsert, h⟩ := does_bind h
        obtain ⟨_, m₃, hevent, h⟩ := does_bind h
        obtain ⟨_, rfl⟩ := does_pure h
        obtain rfl := deletePending_spec hdelete
        obtain rfl := insertDeadLetter_spec hinsert
        obtain ⟨hpending, hdead⟩ := appendEvent_spec hevent
        refine .moves row hrow hpending ?_
        rw [Tables.deadMessages, hdead, List.map_append]
        rfl
      · obtain ⟨_, m₁, hupdate, h⟩ := does_bind h
        obtain ⟨_, m₂, hevent, h⟩ := does_bind h
        obtain ⟨_, rfl⟩ := does_pure h
        obtain rfl := (Prod.mk.inj (does_update hupdate)).2
        obtain ⟨hpending, hdead⟩ := appendEvent_spec hevent
        refine .stays ?_ hdead
        rw [Tables.pendingMessages, hpending]
        exact updatePending_messages hids hrow rfl

/-- The loop of `replayDeadLetter` moves the dead letters that have one of the ids. -/
theorem replayLoop_spec {ids : List JsString} {n count : ℕ}
    (hids : (s.deadLetter.map (·.requestId)).Nodup)
    (h : Does (replayLoop options env ids n) s count t) :
    t.pendingMessages.Perm
        (s.pendingMessages ++ (taken (·.requestId) ids s.deadLetter).map (·.toMessage)) ∧
      t.deadLetter = left (·.requestId) ids s.deadLetter := by
  induction ids generalizing s n with
  | nil =>
      obtain ⟨_, rfl⟩ := does_pure h
      simp
  | cons id rest ih =>
      unfold replayLoop at h
      obtain ⟨found, m, hfound, h⟩ := does_bind h
      obtain ⟨rfl, rfl⟩ := does_query hfound
      cases hrow : m.deadLetter.find? (fun row => row.requestId = id) with
      | none =>
          rw [hrow] at h
          rw [taken_of_find_eq_none hrow, ← left_filter, filter_of_find_eq_none hrow]
          exact ih hids h
      | some row =>
          rw [hrow] at h
          obtain ⟨_, m₁, hdelete, h⟩ := does_bind h
          obtain rfl := deleteDeadLetter_spec hdelete
          obtain ⟨_, m₂, hinsert, h⟩ := does_bind h
          obtain ⟨_, rfl⟩ := insertPending_spec hinsert
          obtain ⟨_, m₃, hevent, h⟩ := does_bind h
          obtain ⟨hpending, hdead⟩ := appendEvent_spec hevent
          have hrest := ih (by rw [hdead]; exact nodup_filter hids _) h
          rw [Tables.pendingMessages, Tables.pendingMessages, hpending, hdead] at hrest
          refine ⟨hrest.1.trans ?_, hrest.2.trans (left_filter ..)⟩
          have htaken := (perm_taken hids hrow rest).map fun row => row.toMessage
          rw [List.map_append, List.append_assoc]
          exact htaken.symm.append_left m.pendingMessages

/-- The loop of `purgeDeadLetter` deletes them. -/
theorem purgeLoop_spec {ids : List JsString} {n count : ℕ}
    (h : Does (purgeLoop options ids n) s count t) :
    t.pending = s.pending ∧ t.deadLetter = left (·.requestId) ids s.deadLetter := by
  induction ids generalizing s n with
  | nil =>
      obtain ⟨_, rfl⟩ := does_pure h
      simp
  | cons id rest ih =>
      unfold purgeLoop at h
      obtain ⟨found, m, hfound, h⟩ := does_bind h
      obtain ⟨rfl, rfl⟩ := does_query hfound
      cases hrow : m.deadLetter.find? (fun row => row.requestId = id) with
      | none =>
          rw [hrow] at h
          rw [← left_filter, filter_of_find_eq_none hrow]
          exact ih h
      | some row =>
          rw [hrow] at h
          obtain ⟨_, m₁, hdelete, h⟩ := does_bind h
          obtain rfl := deleteDeadLetter_spec hdelete
          obtain ⟨_, m₂, hevent, h⟩ := does_bind h
          obtain ⟨hpending, hdead⟩ := appendEvent_spec hevent
          have hrest := ih h
          rw [hpending, hdead, left_filter] at hrest
          exact hrest

theorem selectedIds_spec {requestIds : Option (List JsString)} {ids : List JsString}
    (h : Does (selectedIds requestIds) s ids t) : t = s ∧
      ids = requestIds.elim s.deadLetterRequestIds sanitizeRequestIds := by
  cases requestIds with
  | none => exact (does_query h).symm
  | some requestIds => exact (does_pure h).symm

end

/-! ## The invariant -/

/-- The messages of the two tables. -/
def Tables.messages (s : Tables) : List Message := s.pendingMessages ++ s.deadMessages

/-- The columns of the message are those that `buildPendingItem` takes from the frame. -/
def Message.IsOf (m : Message) (frame : DeliverFrame) : Prop :=
  m.id = frame.id ∧ m.requestId = frame.id ∧ m.fromAgentDid = frame.fromAgentDid ∧
    m.toAgentDid = frame.toAgentDid ∧ m.payload = frame.payload.getD .null

/-- The invariant of the inbox. -/
structure Inbox.Sound (inbox : Inbox) : Prop where
  /-- No request is in the tables twice, be it in one of them or in both. -/
  ids : (inbox.tables.messages.map (·.requestId)).Nodup
  /-- Each accepted message is in one of the tables or delivered or purged, and that once. -/
  once : (inbox.tables.messages.map (·.serial) ++ inbox.delivered ++ inbox.purged).Perm
    (List.range inbox.accepted.length)
  /-- A message in the tables is what its frame said. -/
  origin : ∀ m ∈ inbox.tables.messages, ∃ frame, inbox.accepted[m.serial]? = some frame ∧ m.IsOf frame

theorem sound_empty : Inbox.empty.Sound where
  ids := List.nodup_nil
  once := List.Perm.refl _
  origin := by simp [Inbox.empty, Tables.messages, Tables.pendingMessages, Tables.deadMessages]

section
variable {inbox inbox' : Inbox} {s t : Tables}

theorem Inbox.Sound.pending_ids (h : inbox.Sound) :
    (inbox.tables.pending.map (·.requestId)).Nodup := by
  have hids := h.ids
  rw [Tables.messages, List.map_append] at hids
  simpa only [Tables.pendingMessages, List.map_map, Function.comp_def] using
    (List.nodup_append.mp hids).1

theorem Inbox.Sound.dead_ids (h : inbox.Sound) :
    (inbox.tables.deadLetter.map (·.requestId)).Nodup := by
  have hids := h.ids
  rw [Tables.messages, List.map_append] at hids
  simpa only [Tables.deadMessages, List.map_map, Function.comp_def] using
    (List.nodup_append.mp hids).2.1

/-- Messages may move between the tables, and those that leave them are delivered or purged. -/
theorem Inbox.Sound.moved (removed : List Message) (h : inbox.Sound)
    (haccepted : inbox'.accepted = inbox.accepted)
    (hmessages : inbox.tables.messages.Perm (inbox'.tables.messages ++ removed))
    (hgone : (inbox'.delivered ++ inbox'.purged).Perm
      (inbox.delivered ++ inbox.purged ++ removed.map (·.serial))) : inbox'.Sound where
  ids := by
    have hids := (hmessages.map (·.requestId)).nodup_iff.mp h.ids
    rw [List.map_append] at hids
    exact (List.nodup_append.mp hids).1
  once := by
    rw [haccepted]
    refine List.Perm.trans ?_ h.once
    have hserials := hmessages.map (·.serial)
    rw [List.map_append] at hserials
    rw [List.perm_iff_count] at hserials hgone ⊢
    intro n
    have hserials := hserials n
    have hgone := hgone n
    simp only [List.count_append] at hserials hgone ⊢
    omega
  origin := by
    rw [haccepted]
    intro m hm
    exact h.origin m (hmessages.mem_iff.mpr (List.mem_append_left _ hm))

/-- A new message gets the next number. -/
theorem Inbox.Sound.added (m : Message) {frame : DeliverFrame} (h : inbox.Sound)
    (haccepted : inbox'.accepted = inbox.accepted ++ [frame])
    (hmessages : inbox'.tables.messages.Perm (m :: inbox.tables.messages))
    (hserial : m.serial = inbox.accepted.length) (hframe : m.IsOf frame)
    (hfree : m.requestId ∉ inbox.tables.messages.map (·.requestId))
    (hdelivered : inbox'.delivered = inbox.delivered) (hpurged : inbox'.purged = inbox.purged) :
    inbox'.Sound where
  ids := (hmessages.map (·.requestId)).nodup_iff.mpr (List.nodup_cons.mpr ⟨hfree, h.ids⟩)
  once := by
    rw [haccepted, hdelivered, hpurged, List.length_append, List.length_singleton,
      List.range_succ, ← hserial]
    have hserials := hmessages.map (·.serial)
    have honce := h.once
    rw [← hserial] at honce
    rw [List.perm_iff_count] at hserials honce ⊢
    intro n
    have hserials := hserials n
    have honce := honce n
    simp only [List.count_append, List.map_cons, List.count_cons, List.count_nil] at hserials honce ⊢
    omega
  origin := by
    intro m' hm'
    rw [haccepted]
    rcases List.mem_cons.mp (hmessages.mem_iff.mp hm') with rfl | hold
    · refine ⟨frame, ?_, hframe⟩
      rw [hserial, List.getElem?_concat_length]
    · obtain ⟨frame', hget, hframe'⟩ := h.origin m' hold
      refine ⟨frame', ?_, hframe'⟩
      rw [List.getElem?_append_left (List.getElem?_eq_some_iff.mp hget).1]
      exact hget

theorem gone_filter (before : List Message) (p : Message → Bool) :
    gone before (before.filter p) = (before.filter fun m => !p m).map (·.serial) := by
  refine congrArg (List.map _) (List.filter_congr ?_)
  intro m hm
  simp [hm]

theorem gone_left (before : List Message) (ids : List JsString) :
    gone before (left (·.requestId) ids before) =
      (taken (·.requestId) ids before).map (·.serial) := by
  rw [left, gone_filter, taken]
  refine congrArg (List.map _) (List.filter_congr ?_)
  simp

@[simp] theorem gone_self (before : List Message) : gone before before = [] := by
  simp +contextual [gone]

/-! ## One operation -/

variable {options : InboxOptions} {env : Env}

theorem hasRequest_iff {requestId : JsString} :
    s.hasRequest requestId = true ↔ requestId ∈ s.messages.map (·.requestId) := by
  simp only [Tables.hasRequest, Tables.messages, Tables.pendingMessages, Tables.deadMessages,
    Bool.or_eq_true, List.any_eq_true, decide_eq_true_eq, List.map_append, List.map_map,
    List.mem_append, List.mem_map, Function.comp_apply]

theorem sound_enqueue (h : inbox.Sound) (frame : DeliverFrame) :
    (run options (.enqueue frame) env inbox).2.Sound := by
  simp only [run]
  rcases runInTransaction_cases (enqueue options frame inbox.accepted.length env) env.fault
    inbox.tables with heq | ⟨result, t, hdoes, heq⟩
  · rw [heq]
    exact h
  rw [heq]
  cases enqueue_spec hdoes with
  | refused hnew hkeeps =>
      simp only [Option.any_some, hnew]
      refine h.moved [] rfl ?_ (by simp)
      simp [Tables.messages, Tables.pendingMessages, Tables.deadMessages, hkeeps.1, hkeeps.2]
  | stored hnew hfree hcount hbytes hpending hdead =>
      simp only [Option.any_some, hnew]
      rename_i receivedAt
      let item := buildPendingItem options frame inbox.accepted.length receivedAt
      refine h.added item.toMessage rfl ?_ rfl ⟨rfl, rfl, rfl, rfl, rfl⟩ ?_ rfl rfl
      · simp only [Tables.messages, Tables.pendingMessages, Tables.deadMessages, hpending, hdead,
          List.map_append, List.map_cons, List.map_nil, List.append_assoc]
        exact List.perm_middle
      · intro hmem
        exact Bool.false_ne_true (hfree.symm.trans (hasRequest_iff.mpr hmem))

theorem sound_markDelivered (h : inbox.Sound) (requestId : JsString) :
    (run options (.markDelivered requestId) env inbox).2.Sound := by
  simp only [run]
  rcases runInTransaction_cases (markDelivered options requestId) env.fault inbox.tables with
    heq | ⟨u, t, hdoes, heq⟩
  · rw [heq]
    exact h.moved [] rfl (by simp) (by simp [gone_self])
  rw [heq]
  obtain ⟨hpending, hdead⟩ := markDelivered_spec hdoes
  let stays : Message → Bool := fun m => m.requestId ≠ requestId
  have hmessages : t.pendingMessages = inbox.tables.pendingMessages.filter stays := by
    rw [Tables.pendingMessages, hpending, Tables.pendingMessages, List.filter_map]
    rfl
  simp only [hmessages, gone_filter]
  refine h.moved (inbox.tables.pendingMessages.filter fun m => !stays m) rfl ?_ ?_
  · simp only [Tables.messages, hmessages, Tables.deadMessages, hdead]
    have hsplit := (List.filter_append_perm stays inbox.tables.pendingMessages).symm
    refine (hsplit.append_right _).trans ?_
    rw [List.append_assoc, List.append_assoc]
    exact List.perm_append_comm.append_left _
  · simp only [List.append_assoc]
    exact List.perm_append_comm.append_left _

theorem sound_markReplayFailure (h : inbox.Sound) (input : MarkReplayFailureInput) :
    (run options (.markReplayFailure input) env inbox).2.Sound := by
  simp only [run]
  rcases runInTransaction_cases (markReplayFailure options input env) env.fault inbox.tables with
    heq | ⟨result, t, hdoes, heq⟩
  · rw [heq]
    exact h
  rw [heq]
  refine h.moved [] rfl ?_ (by simp)
  rw [List.append_nil]
  cases markReplayFailure_spec h.pending_ids hdoes with
  | stays hpending hdead =>
      simp only [Tables.messages, hpending, Tables.deadMessages, hdead]
      exact List.Perm.refl _
  | moves row hrow hpending hdead =>
      simp only [Tables.messages, hdead, Tables.pendingMessages, hpending]
      have hsplit := (perm_of_find h.pending_ids hrow).map (·.toMessage)
      refine (hsplit.append_right _).trans ?_
      rw [List.map_cons, List.cons_append]
      refine List.Perm.trans ?_ (List.perm_append_comm.append_left _)
      exact List.perm_middle.symm

theorem sound_replayDeadLetter (h : inbox.Sound) (requestIds : Option (List JsString)) :
    (run options (.replayDeadLetter requestIds) env inbox).2.Sound := by
  simp only [run]
  rcases runInTransaction_cases (replayDeadLetter options requestIds env) env.fault inbox.tables
    with heq | ⟨count, t, hdoes, heq⟩
  · rw [heq]
    exact h
  rw [heq]
  refine h.moved [] rfl ?_ (by simp)
  obtain ⟨ids, m, hids, hloop⟩ := does_bind hdoes
  obtain ⟨rfl, -⟩ := selectedIds_spec hids
  obtain ⟨hpending, hdead⟩ := replayLoop_spec h.dead_ids hloop
  simp only [Tables.messages, Tables.deadMessages, hdead, List.append_nil]
  refine List.Perm.trans ?_ (hpending.append_right _).symm
  rw [List.append_assoc, ← List.map_append]
  exact ((taken_append_left ..).map _).symm.append_left _

theorem sound_purgeDeadLetter (h : inbox.Sound) (requestIds : Option (List JsString)) :
    (run options (.purgeDeadLetter requestIds) env inbox).2.Sound := by
  simp only [run]
  rcases runInTransaction_cases (purgeDeadLetter options requestIds) env.fault inbox.tables with
    heq | ⟨count, t, hdoes, heq⟩
  · rw [heq]
    exact h.moved [] rfl (by simp) (by simp [gone_self])
  rw [heq]
  obtain ⟨ids, m, hids, hloop⟩ := does_bind hdoes
  obtain ⟨rfl, -⟩ := selectedIds_spec hids
  obtain ⟨hpending, hdead⟩ := purgeLoop_spec hloop
  have hmessages : t.deadMessages = left (·.requestId) ids inbox.tables.deadMessages := by
    rw [Tables.deadMessages, hdead, Tables.deadMessages, left_map]
  simp only [hmessages, gone_left]
  refine h.moved (taken (·.requestId) ids inbox.tables.deadMessages) rfl ?_ ?_
  · simp only [Tables.messages, hmessages, Tables.pendingMessages, hpending]
    rw [List.append_assoc]
    refine List.Perm.append_left _ ?_
    exact (taken_append_left ..).symm.trans List.perm_append_comm
  · rw [List.append_assoc]

/-- An operation that throws changes nothing. -/
theorem run_of_throws {op : Operation} (hthrows : (run options op env inbox).1 = none) :
    (run options op env inbox).2 = inbox := by
  cases op with
  | listDuePending limit nowAt => rfl
  | listDeadLetter limit => rfl
  | enqueue frame =>
      simp only [run, Option.map_eq_none_iff] at hthrows
      simp [run, runInTransaction_of_throws hthrows]
  | markDelivered requestId =>
      simp only [run, Option.map_eq_none_iff] at hthrows
      simp [run, runInTransaction_of_throws hthrows]
  | markReplayFailure input =>
      simp only [run, Option.map_eq_none_iff] at hthrows
      simp [run, runInTransaction_of_throws hthrows]
  | replayDeadLetter requestIds =>
      simp only [run, Option.map_eq_none_iff] at hthrows
      simp [run, runInTransaction_of_throws hthrows]
  | purgeDeadLetter requestIds =>
      simp only [run, Option.map_eq_none_iff] at hthrows
      simp [run, runInTransaction_of_throws hthrows]

/-- An enqueue of a request that is known adds nothing. -/
theorem run_enqueue_known {frame : DeliverFrame} (hknown : inbox.tables.hasRequest frame.id = true) :
    Keeps inbox.tables (run options (.enqueue frame) env inbox).2.tables ∧
      (run options (.enqueue frame) env inbox).2.accepted = inbox.accepted := by
  simp only [run]
  rcases runInTransaction_cases (enqueue options frame inbox.accepted.length env) env.fault
    inbox.tables with heq | ⟨result, t, hdoes, heq⟩
  · rw [heq]
    exact ⟨⟨rfl, rfl⟩, rfl⟩
  rw [heq]
  cases enqueue_spec hdoes with
  | refused hnew hkeeps =>
      refine ⟨hkeeps, ?_⟩
      simp only [Option.any_some, hnew, Bool.false_eq_true, if_false]
  | stored hnew hfree hcount hbytes hpending hdead =>
      exact absurd (hknown.symm.trans hfree) (by decide)

/-- **One operation keeps the invariant.** -/
theorem sound_step (h : inbox.Sound) (call : Operation × Env)
    (hstep : step options inbox call = some inbox') : inbox'.Sound := by
  obtain ⟨op, env⟩ := call
  obtain rfl := Option.some.inj hstep
  cases op with
  | enqueue frame => exact sound_enqueue h frame
  | listDuePending limit nowAt => exact h
  | markDelivered requestId => exact sound_markDelivered h requestId
  | markReplayFailure input => exact sound_markReplayFailure h input
  | listDeadLetter limit => exact h
  | replayDeadLetter requestIds => exact sound_replayDeadLetter h requestIds
  | purgeDeadLetter requestIds => exact sound_purgeDeadLetter h requestIds

end

section Example

/-- One message may be pending. -/
def exampleOptions : InboxOptions where
  maxPendingMessages := 1
  maxPendingBytes := 100
  eventsMaxRows := 10
  byteLength := fun _ => 4

def exampleEnv : Env := ⟨fun _ => js "2026-01-01T00:00:00.000Z", none⟩

def exampleFrame (id : JsString) : DeliverFrame where
  id := id
  ts := js "2026-01-01T00:00:00.000Z"
  fromAgentDid := js "did:a"
  toAgentDid := js "did:b"
  payload := none
  deliverySource := none
  contentType := none
  groupId := none
  conversationId := none
  replyTo := none

/-- A failure after which a message is a dead letter. -/
def exampleFailure (requestId : JsString) : MarkReplayFailureInput where
  errorMessage := js "gone"
  maxNonRetryableAttempts := 1
  nextAttemptAt := js "2026-01-01T00:01:00.000Z"
  requestId := requestId
  retryable := false

/-- A message becomes a dead letter, another one comes, and the first is replayed. -/
def exampleCalls : List (Operation × Env) :=
  [(.enqueue (exampleFrame (js "1")), exampleEnv),
    (.markReplayFailure (exampleFailure (js "1")), exampleEnv),
    (.enqueue (exampleFrame (js "2")), exampleEnv),
    (.replayDeadLetter none, exampleEnv)]

/-- The numbers of the messages in the tables, and of those delivered and purged. -/
def exampleSerials (calls : List (Operation × Env)) :
    Option (List ℕ × List ℕ × List ℕ × List ℕ) :=
  (exec (step exampleOptions) .empty calls).map fun inbox =>
    (inbox.tables.pendingMessages.map (·.serial), inbox.tables.deadMessages.map (·.serial),
      inbox.delivered, inbox.purged)

example :
    exampleSerials (exampleCalls ++ [(.markDelivered (js "2"), exampleEnv),
      (.markReplayFailure (exampleFailure (js "1")), { exampleEnv with fault := some 3 })]) =
        some ([0], [], [1], []) := by decide

end Example

end Clawdentity.Connector.InboundInbox
