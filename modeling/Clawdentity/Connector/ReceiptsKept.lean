import Clawdentity.Connector.ReceiptOutbox
import Clawdentity.Lib.Run

/-!
# The receipts of the outbox are kept

Whatever the order of the operations and wherever they fail, one of them is under the lock at a
time, and one that fails leaves the file as it found it. The receipts that are owed stay in the file
as long as no `enqueue` that could not read it writes it: such an `enqueue` takes the file for an
empty one.

## Main definitions

* `StoredFile` — a file as the outbox leaves it.
* `SavesRead` — the condition on a step.
* `Inv` — what every step that meets it keeps.
* `outbox_keeps_receipts`.
-/

namespace Clawdentity.Connector.ReceiptOutbox

open Js Lib Lib.Interleave Lib.Run InboundReplay

/-- Whether the operation is under the lock. -/
def OperationState.isInside : OperationState → Bool
  | .loading .. | .sending .. | .saving .. | .settled .. => true
  | .waiting _ | .finished _ => false

/-- The file as it was when the operation took the lock, unless the operation has changed it. -/
def OperationState.unchangedFile : OperationState → Option OutboxFile
  | .loading _ _ before | .sending _ _ _ before | .saving _ _ _ _ before
  | .settled false before => some before
  | .settled true _ | .waiting _ | .finished _ => none

/-- A file whose items are well kept, such as every file that the outbox writes. -/
structure StoredFile where
  file : OutboxFile
  wellKept : WellKept (parseOutbox file)

/-- The outbox at the start of its process, which owes the receipts in the file. -/
def Pool.startOf (stored : StoredFile) : Pool OutboxState OperationState where
  shared := ⟨stored.file, false,
    (parseOutbox stored.file).map DeliveryReceiptOutboxItem.toDeliveryReceiptInput⟩
  calls := []

/-- One operation at most is under the lock, and one that fails leaves the file as it found it. -/
structure Isolated (p : Pool OutboxState OperationState) : Prop where
  one : p.calls.countP OperationState.isInside ≤ 1
  failed : ∀ before, .settled false before ∈ p.calls → p.shared.file = before

/-- The file holds every receipt that is owed. -/
def OwedKept (s : OutboxState) : Prop := Holds (parseOutbox s.file) s.owed

section Code
variable (policy : InboundReplayPolicy)

/-- The step leads to a state whose file holds every receipt that is owed. -/
def KeepsOwed (p : Pool OutboxState OperationState) (e : Move Operation Choice) : Prop :=
  ∀ q, (outbox policy).step p e = some q → OwedKept q.shared

end Code

/-- The step is not the rename of an `enqueue` whose read has failed while another receipt is
owed. -/
def SavesRead (p : Pool OutboxState OperationState) : Move Operation Choice → Prop
  | .resume i (.saved true) =>
      match p.calls[i]? with
      | some (.saving .rename _ (some receipt) false _) =>
          ∀ r ∈ p.shared.owed, SameReceipt r receipt
      | _ => True
  | _ => True

/-! ## What a resumption does -/

/-- An operation that goes on, by what it awaited. -/
inductive Resumed (s : OutboxState) :
    OperationState → Choice → OutboxState → OperationState → Prop
  | wait (operation : Operation) (nowMs : ℤ) (hlocked : s.inFlight = true) :
      Resumed s (.waiting operation) (.wake nowMs) s (.waiting operation)
  | lock (operation : Operation) (nowMs : ℤ) (hfree : s.inFlight = false) :
      Resumed s (.waiting operation) (.wake nowMs) { s with inFlight := true }
        (.loading operation nowMs s.file)
  | add (receipt : DeliveryReceiptInput) (nowMs : ℤ) (isRead : Bool) (before : OutboxFile) :
      Resumed s (.loading (.enqueue receipt) nowMs before) (.loaded isRead) s
        (.saving .mkdir (addReceipt (load s.file isRead) receipt nowMs) (some receipt) isRead before)
  | noItems (nowMs : ℤ) (isRead : Bool) (before : OutboxFile) :
      Resumed s (.loading .flushDue nowMs before) (.loaded isRead) s (.settled true before)
  | flush (nowMs : ℤ) (isRead : Bool) (before : OutboxFile) (hitems : load s.file isRead ≠ []) :
      Resumed s (.loading .flushDue nowMs before) (.loaded isRead) s
        (.sending nowMs (pendingItems (load s.file isRead)) .empty before)
  | flushed (nowMs : ℤ) (retained : OrderedMap JsString DeliveryReceiptOutboxItem)
      (before : OutboxFile) :
      Resumed s (.sending nowMs [] retained before) .next s
        (.saving .mkdir (sortByCreatedAt retained.values) none true before)
  | retain (nowMs : ℤ) (item kept : DeliveryReceiptOutboxItem)
      (rest : List DeliveryReceiptOutboxItem)
      (retained : OrderedMap JsString DeliveryReceiptOutboxItem) (before : OutboxFile)
      (choice : Choice) (hkey : kept.key = item.key)
      (hreceipt : kept.toDeliveryReceiptInput = item.toDeliveryReceiptInput) :
      Resumed s (.sending nowMs (item :: rest) retained before) choice s
        (.sending nowMs rest (retained.set item.key kept) before)
  | send (nowMs : ℤ) (item : DeliveryReceiptOutboxItem) (rest : List DeliveryReceiptOutboxItem)
      (retained : OrderedMap JsString DeliveryReceiptOutboxItem) (before : OutboxFile) :
      Resumed s (.sending nowMs (item :: rest) retained before) (.sent true)
        { s with owed := others s.owed item.toDeliveryReceiptInput }
        (.sending nowMs rest retained before)
  | fail (stage : SaveStage) (items : List DeliveryReceiptOutboxItem)
      (enqueued : Option DeliveryReceiptInput) (isRead : Bool) (before : OutboxFile) :
      Resumed s (.saving stage items enqueued isRead before) (.saved false) s (.settled false before)
  | advance (stage stage' : SaveStage) (items : List DeliveryReceiptOutboxItem)
      (enqueued : Option DeliveryReceiptInput) (isRead : Bool) (before : OutboxFile) :
      Resumed s (.saving stage items enqueued isRead before) (.saved true) s
        (.saving stage' items enqueued isRead before)
  | rename (items : List DeliveryReceiptOutboxItem) (enqueued : Option DeliveryReceiptInput)
      (isRead : Bool) (before : OutboxFile) :
      Resumed s (.saving .rename items enqueued isRead before) (.saved true)
        (saveNext s .rename items enqueued isRead before).1 (.settled true before)
  | release (isFulfilled : Bool) (before : OutboxFile) :
      Resumed s (.settled isFulfilled before) .unlock { s with inFlight := false }
        (.finished isFulfilled)

section
variable {policy : InboundReplayPolicy} {s s' : OutboxState} {c c' : OperationState}
  {choice : Choice}

theorem resumed_of_sendNext {nowMs : ℤ} {pending : List DeliveryReceiptOutboxItem}
    {retained : OrderedMap JsString DeliveryReceiptOutboxItem} {before : OutboxFile}
    (h : sendNext policy s nowMs pending retained before choice = some (s', c')) :
    Resumed s (.sending nowMs pending retained before) choice s' c' := by
  cases pending with
  | nil =>
    cases choice with
    | next =>
      cases h
      exact .flushed nowMs retained before
    | wake | loaded | sent | saved | unlock => cases h
  | cons item rest =>
    cases choice with
    | next =>
      simp only [sendNext] at h
      split at h
      · cases h
        exact .retain nowMs item item rest retained before _ rfl rfl
      · cases h
    | sent isSent =>
      cases isSent with
      | true =>
        simp only [sendNext] at h
        split at h
        · cases h
        · cases h
          exact .send nowMs item rest retained before
      | false =>
        simp only [sendNext] at h
        split at h
        · cases h
        · cases h
          exact .retain nowMs item (retryItem policy nowMs item) rest retained before _ rfl rfl
    | wake | loaded | saved | unlock => cases h

/-- **What a resumption does.** -/
theorem resumed_of_resume (h : resumeOperation policy s c choice = some (s', c')) :
    Resumed s c choice s' c' := by
  cases c with
  | waiting operation =>
    cases choice with
    | wake nowMs =>
      simp only [resumeOperation] at h
      split at h
      · rename_i hlocked
        cases h
        exact .wait operation nowMs hlocked
      · rename_i hfree
        cases h
        exact .lock operation nowMs (Bool.not_eq_true _ ▸ hfree)
    | loaded | next | sent | saved | unlock => cases h
  | loading operation nowMs before =>
    cases choice with
    | loaded isRead =>
      cases operation with
      | enqueue receipt =>
        cases h
        exact .add receipt nowMs isRead before
      | flushDue =>
        simp only [resumeOperation] at h
        split at h
        · cases h
          exact .noItems nowMs isRead before
        · rename_i hitems
          cases h
          exact .flush nowMs isRead before fun hnil => hitems (by rw [hnil]; rfl)
    | wake | next | sent | saved | unlock => cases operation <;> cases h
  | sending nowMs pending retained before => exact resumed_of_sendNext h
  | saving stage items enqueued isRead before =>
    cases choice with
    | saved isSaved =>
      cases isSaved with
      | false =>
        cases h
        exact .fail stage items enqueued isRead before
      | true =>
        cases stage with
        | mkdir =>
          cases h
          exact .advance .mkdir .writeFile items enqueued isRead before
        | writeFile =>
          cases h
          exact .advance .writeFile .rename items enqueued isRead before
        | rename =>
          cases h
          exact .rename items enqueued isRead before
    | wake | loaded | next | sent | unlock => cases h
  | settled isFulfilled before =>
    cases choice with
    | unlock =>
      cases h
      exact .release isFulfilled before
    | wake | loaded | next | sent | saved => cases h
  | finished isFulfilled => cases choice <;> cases h

/-! ## The lock -/

theorem Resumed.holderMove (h : Resumed s c choice s' c') :
    HolderMove (s.inFlight = false) (s'.inFlight = false) c.isInside c'.isInside := by
  cases h with
  | lock operation nowMs hfree => exact .take hfree (by simp)
  | release isFulfilled before => exact .release rfl rfl
  | wait | add | noItems | flush | flushed | retain | send | fail | advance | rename =>
    exact .keep id fun hheld => hheld

/-- An operation outside the lock changes neither the file nor what is owed. -/
theorem Resumed.outside (h : Resumed s c choice s' c') (hout : c.isInside = false) :
    s'.file = s.file ∧ s'.owed = s.owed := by
  cases h with
  | wait | lock => exact ⟨rfl, rfl⟩
  | add | noItems | flush | flushed | retain | send | fail | advance | rename | release =>
    cases hout

theorem Resumed.unchanged (h : Resumed s c choice s' c')
    (hc : ∀ before, c.unchangedFile = some before → s.file = before) :
    ∀ before, c'.unchangedFile = some before → s'.file = before := by
  cases h with
  | lock operation nowMs hfree =>
    rintro before ⟨⟩
    rfl
  | wait | noItems | rename | release => exact nofun
  | add | flush | flushed | retain | send | fail | advance => exact hc

end

/-! ## The invariant -/

/-- The items that are saved hold the receipts that are owed then, if they were read. -/
def SavedKept (owed : List DeliveryReceiptInput) (items : List DeliveryReceiptOutboxItem) :
    Option DeliveryReceiptInput → Bool → Prop
  | some receipt, true => WellKept items ∧ Holds items (others owed receipt ++ [receipt])
  | some receipt, false =>
      WellKept items ∧ items.map DeliveryReceiptOutboxItem.toDeliveryReceiptInput = [receipt]
  | none, _ => WellKept items ∧ Holds items owed

/-- What an operation will write holds the receipts that are owed then. -/
def ItemsKept (owed : List DeliveryReceiptInput) : OperationState → Prop
  | .sending _ pending retained _ =>
      (∀ e ∈ retained.entries, e.1 = e.2.key) ∧ WellKept (retained.values ++ pending) ∧
        Holds (retained.values ++ pending) owed
  | .saving _ items enqueued isRead _ => SavedKept owed items enqueued isRead
  | .waiting _ | .loading .. | .settled .. | .finished _ => True

/-- One operation at most is under the lock, and the file is as the operations there found it unless
they have changed it. -/
structure Alone (p : Pool OutboxState OperationState) : Prop where
  exclusive : Exclusive (fun s : OutboxState => s.inFlight = false) OperationState.isInside p
  unchanged : ∀ c ∈ p.calls, ∀ before, c.unchangedFile = some before → p.shared.file = before

structure Inv (p : Pool OutboxState OperationState) : Prop where
  alone : Alone p
  wellKept : WellKept (parseOutbox p.shared.file)
  owedKept : OwedKept p.shared
  items : ∀ c ∈ p.calls, ItemsKept p.shared.owed c

theorem unchangedFile_of_outside {c : OperationState} (h : c.isInside = false) :
    c.unchangedFile = none := by
  cases c with
  | waiting | finished => rfl
  | loading | sending | saving | settled => cases h

theorem itemsKept_of_outside {c : OperationState} (h : c.isInside = false)
    (owed : List DeliveryReceiptInput) : ItemsKept owed c := by
  cases c with
  | waiting | finished => trivial
  | loading | sending | saving | settled => cases h

section
variable {policy : InboundReplayPolicy} {p q : Pool OutboxState OperationState}
  {s s' : OutboxState} {c c' d : OperationState} {choice : Choice} {i : ℕ}

/-- The other operations at a resumption: either they are outside the lock, or the file and what is
owed stay as they are. -/
theorem Alone.others (h : Alone p) (hc : p.calls[i]? = some c)
    (hr : Resumed p.shared c choice s' c') (hd : d ∈ p.calls.set i c') :
    d = c' ∨ d.isInside = false ∨ d ∈ p.calls ∧ s'.file = p.shared.file ∧ s'.owed = p.shared.owed := by
  obtain ⟨j, hj⟩ := List.mem_iff_getElem?.mp hd
  by_cases hij : i = j
  · subst hij
    obtain ⟨_, hget⟩ := List.getElem?_eq_some_iff.mp hj
    rw [List.getElem_set_self] at hget
    exact .inl hget.symm
  · rw [List.getElem?_set_ne hij] at hj
    cases hin : c.isInside with
    | true => exact .inr (.inl (h.exclusive.alone hc hin hj hij))
    | false =>
      obtain ⟨hfile, howed⟩ := hr.outside hin
      exact .inr (.inr ⟨List.mem_of_getElem? hj, hfile, howed⟩)

theorem alone_step (h : Alone p) {e : Move Operation Choice}
    (hstep : (outbox policy).step p e = some q) : Alone q := by
  rcases Program.step_cases hstep with
    ⟨operation, s, c, rfl, hstart, rfl⟩ | ⟨i, choice, c, s', c', rfl, hc, hresume, rfl⟩
  · cases hstart
    refine ⟨h.exclusive.start id rfl, ?_⟩
    intro d hd before hbefore
    rcases List.mem_append.mp hd with hd | hd
    · exact h.unchanged d hd before hbefore
    · rw [List.mem_singleton.mp hd] at hbefore
      cases hbefore
  · have hr := resumed_of_resume hresume
    refine ⟨h.exclusive.resume hc hr.holderMove, ?_⟩
    intro d hd before hbefore
    rcases h.others hc hr hd with rfl | hout | ⟨hd, hfile, _⟩
    · exact hr.unchanged (h.unchanged c (List.mem_of_getElem? hc)) before hbefore
    · rw [unchangedFile_of_outside hout] at hbefore
      cases hbefore
    · exact hfile.trans (h.unchanged d hd before hbefore)

/-! ## What is owed -/

theorem holds_others {items : List DeliveryReceiptOutboxItem} {owed : List DeliveryReceiptInput}
    (h : Holds items owed) (receipt : DeliveryReceiptInput) : Holds items (others owed receipt) :=
  fun r hr => h r (mem_others.mp hr).1

/-- What is retained of a flush, with one more item of a new key. -/
theorem values_set {retained : OrderedMap JsString DeliveryReceiptOutboxItem}
    {item : DeliveryReceiptOutboxItem} {rest : List DeliveryReceiptOutboxItem}
    (kept : DeliveryReceiptOutboxItem) (hkeyed : ∀ e ∈ retained.entries, e.1 = e.2.key)
    (hwell : WellKept (retained.values ++ item :: rest)) :
    (retained.set item.key kept).entries = retained.entries ++ [(item.key, kept)] := by
  apply OrderedMap.entries_set_of_not_mem
  intro hmem
  obtain ⟨e, he, hkey⟩ := List.mem_map.mp hmem
  have hdistinct := hwell.distinct
  rw [List.map_append] at hdistinct
  refine (List.nodup_append.mp hdistinct).2.2 e.2.key ?_ item.key ?_ ?_
  · exact List.mem_map_of_mem (List.mem_map_of_mem he)
  · exact List.mem_map_of_mem List.mem_cons_self
  · rw [← hkeyed e he, hkey]

theorem itemsKept_retain {owed : List DeliveryReceiptInput} {nowMs : ℤ}
    {item kept : DeliveryReceiptOutboxItem} {rest : List DeliveryReceiptOutboxItem}
    {retained : OrderedMap JsString DeliveryReceiptOutboxItem} {before : OutboxFile}
    (h : ItemsKept owed (.sending nowMs (item :: rest) retained before))
    (hkey : kept.key = item.key)
    (hreceipt : kept.toDeliveryReceiptInput = item.toDeliveryReceiptInput) :
    ItemsKept owed (.sending nowMs rest (retained.set item.key kept) before) := by
  obtain ⟨hkeyed, hwell, hholds⟩ := h
  have hentries := values_set kept hkeyed hwell
  have hvalues : (retained.set item.key kept).values ++ rest = retained.values ++ kept :: rest := by
    simp [OrderedMap.values, hentries]
  refine ⟨?_, ?_, ?_⟩
  · intro e he
    rw [hentries] at he
    rcases List.mem_append.mp he with he | he
    · exact hkeyed e he
    · rw [List.mem_singleton.mp he, hkey]
  · rw [hvalues]
    apply hwell.replace hkey
    rw [hkey, hreceipt]
    exact hwell.keyed item (List.mem_append_right _ List.mem_cons_self)
  · rw [hvalues]
    intro r hr
    obtain ⟨held, hheld, rfl⟩ := hholds r hr
    rcases List.mem_append.mp hheld with hpre | hpost
    · exact ⟨held, List.mem_append_left _ hpre, rfl⟩
    · rcases List.mem_cons.mp hpost with rfl | hpost
      · exact ⟨kept, List.mem_append_right _ List.mem_cons_self, hreceipt⟩
      · exact ⟨held, List.mem_append_right _ (List.mem_cons_of_mem _ hpost), rfl⟩

/-- The items of an `enqueue` that could not read the file. -/
theorem itemsKept_add_unread (receipt : DeliveryReceiptInput) (nowMs : ℤ) :
    WellKept (addReceipt [] receipt nowMs) ∧
      (addReceipt [] receipt nowMs).map DeliveryReceiptOutboxItem.toDeliveryReceiptInput =
        [receipt] :=
  ⟨(addReceipt_spec wellKept_nil receipt nowMs).1, rfl⟩

/-- The rename of items that hold what is owed then. -/
theorem kept_rename {items : List DeliveryReceiptOutboxItem} {enqueued : Option DeliveryReceiptInput}
    {isRead : Bool} (before : OutboxFile)
    (h : SavedKept s.owed items enqueued isRead)
    (hread : ∀ receipt, enqueued = some receipt → isRead = false →
      ∀ r ∈ s.owed, SameReceipt r receipt) :
    WellKept items ∧ Holds items (saveNext s .rename items enqueued isRead before).1.owed := by
  cases enqueued with
  | none => exact h
  | some receipt =>
    cases isRead with
    | true => exact h
    | false =>
      obtain ⟨hwell, hreceipts⟩ := h
      refine ⟨hwell, ?_⟩
      intro r hr
      rcases List.mem_append.mp hr with hr | hr
      · obtain ⟨hr, hother⟩ := mem_others.mp hr
        exact absurd (hread receipt rfl rfl r hr) hother
      · rw [← hreceipts] at hr
        exact holds_self items r hr

/-- **What a resumption keeps.** -/
theorem kept_of_resumed (hr : Resumed s c choice s' c') (hwell : WellKept (parseOutbox s.file))
    (hkept : OwedKept s) (hitems : ItemsKept s.owed c)
    (hread : ∀ items receipt before, c = .saving .rename items (some receipt) false before →
      choice = .saved true → ∀ r ∈ s.owed, SameReceipt r receipt) :
    WellKept (parseOutbox s'.file) ∧ OwedKept s' ∧ ItemsKept s'.owed c' := by
  cases hr with
  | add receipt nowMs isRead before =>
    refine ⟨hwell, hkept, ?_⟩
    cases isRead with
    | true =>
      obtain ⟨hadded, hholds⟩ := addReceipt_spec hwell receipt nowMs
      exact ⟨hadded, hholds _ hkept⟩
    | false => exact itemsKept_add_unread receipt nowMs
  | flush nowMs isRead before hne =>
    refine ⟨hwell, hkept, ?_⟩
    cases isRead with
    | true =>
      have hperm := pendingItems_perm hwell
      exact ⟨nofun, hwell.perm hperm, hkept.perm hperm⟩
    | false => exact absurd rfl hne
  | flushed nowMs retained before =>
    refine ⟨hwell, hkept, ?_⟩
    obtain ⟨_, hvalues, hholds⟩ := hitems
    rw [List.append_nil] at hvalues hholds
    have hperm := sortByCreatedAt_perm retained.values
    exact ⟨hvalues.perm hperm, hholds.perm hperm⟩
  | retain nowMs item kept rest retained before choice hkey hreceipt =>
    exact ⟨hwell, hkept, itemsKept_retain hitems hkey hreceipt⟩
  | send nowMs item rest retained before =>
    obtain ⟨hkeyed, hvalues, hholds⟩ := hitems
    exact ⟨hwell, holds_others hkept _, hkeyed, hvalues.remove, hholds.remove⟩
  | advance stage stage' items enqueued isRead before => exact ⟨hwell, hkept, hitems⟩
  | rename items enqueued isRead before =>
    obtain ⟨hsaved, hholds⟩ := kept_rename before hitems fun receipt henqueued hunread => by
      subst henqueued hunread
      exact hread items receipt before rfl rfl
    refine ⟨?_, ?_, trivial⟩
    · simpa only [saveNext, parseOutbox_save] using hsaved
    · simpa only [OwedKept, saveNext, parseOutbox_save] using hholds
  | wait | lock | noItems | fail | release => exact ⟨hwell, hkept, trivial⟩

theorem inv_step (h : Inv p) {e : Move Operation Choice} (hok : SavesRead p e)
    (hstep : (outbox policy).step p e = some q) : Inv q := by
  have halone := alone_step h.alone hstep
  rcases Program.step_cases hstep with
    ⟨operation, s, c, rfl, hstart, rfl⟩ | ⟨i, choice, c, s', c', rfl, hc, hresume, rfl⟩
  · cases hstart
    refine ⟨halone, h.wellKept, h.owedKept, ?_⟩
    intro d hd
    rcases List.mem_append.mp hd with hd | hd
    · exact h.items d hd
    · rw [List.mem_singleton.mp hd]
      trivial
  · have hr := resumed_of_resume hresume
    obtain ⟨hwell, hkept, hitems⟩ := kept_of_resumed hr h.wellKept h.owedKept
      (h.items c (List.mem_of_getElem? hc)) fun items receipt before hsaving hsaved => by
        subst hsaved
        simpa only [SavesRead, hc, hsaving] using hok
    refine ⟨halone, hwell, hkept, ?_⟩
    intro d hd
    rcases h.alone.others hc hr hd with rfl | hout | ⟨hd, _, howed⟩
    · exact hitems
    · exact itemsKept_of_outside hout _
    · rw [howed]
      exact h.items d hd

theorem alone_startOf (stored : StoredFile) : Alone (Pool.startOf stored) :=
  ⟨exclusive_nil _, nofun⟩

theorem inv_startOf (stored : StoredFile) : Inv (Pool.startOf stored) :=
  ⟨alone_startOf stored, stored.wellKept, holds_self _, nofun⟩

theorem Alone.isolated (h : Alone p) : Isolated p :=
  ⟨h.exclusive.one_holder, fun before hfailed => h.unchanged _ hfailed before rfl⟩

/-- The rename of an `enqueue` that could not read the file loses every other receipt. -/
theorem savesRead_of_keepsOwed (h : Inv p) {e : Move Operation Choice}
    (hkeeps : KeepsOwed policy p e) : SavesRead p e := by
  unfold SavesRead
  split
  · rename_i i
    split
    · rename_i items receipt before hc
      intro r hr
      by_contra hother
      have hstep : (outbox policy).step p (.resume i (.saved true)) =
          some ⟨⟨save items, p.shared.inFlight, ReceiptOutbox.others p.shared.owed receipt ++ [receipt]⟩,
            p.calls.set i (.settled true before)⟩ := by
        simp [Program.step, hc, outbox, resumeOperation, saveNext]
      have hkept := hkeeps _ hstep
      rw [OwedKept, parseOutbox_save] at hkept
      obtain ⟨item, hitem, hreceipt⟩ := hkept r
        (List.mem_append_left _ (mem_others.mpr ⟨hr, hother⟩))
      have hmem := List.mem_map_of_mem (f := DeliveryReceiptOutboxItem.toDeliveryReceiptInput) hitem
      rw [(h.items _ (List.mem_of_getElem? hc)).2, List.mem_singleton, hreceipt] at hmem
      exact hother (hmem ▸ ⟨rfl, rfl⟩)
    · trivial
  · trivial

end

section Code
variable (policy : InboundReplayPolicy)

/-- **The outbox loses nothing.** From any file that the outbox has left, whatever the operations
and wherever reads, writes, renames and sends fail: one operation at most is under the lock, and one
that fails leaves the file as it found it. Every receipt that is owed is in the file all along
exactly if no `enqueue` whose read has failed puts its file in place while another is owed. -/
theorem outbox_keeps_receipts (stored : StoredFile) (moves : List (Move Operation Choice)) :
    (∀ p, exec (outbox policy).step (Pool.startOf stored) moves = some p → Isolated p) ∧
      (AllSteps (outbox policy).step (KeepsOwed policy) (Pool.startOf stored) moves ↔
        AllSteps (outbox policy).step SavesRead (Pool.startOf stored) moves) := by
  constructor
  · intro p hrun
    exact (exec_invariant_of_step Alone (fun _ _ _ h hstep => alone_step h hstep)
      (alone_startOf stored) hrun).isolated
  · apply allSteps_congr Inv (fun _ _ _ h hok hstep => inv_step h hok hstep) ?_ (inv_startOf stored)
    intro p e h
    constructor
    · exact savesRead_of_keepsOwed h
    · intro hok q hstep
      exact (inv_step h hok hstep).owedKept

end Code

/-! ### A file that cannot be read -/

def exampleReceipt (requestId : JsString) : DeliveryReceiptInput where
  reason := none
  recipientAgentDid := js "a"
  requestId := requestId
  senderAgentDid := js "b"
  status := .deliveredToWebhook

def exampleStored : StoredFile where
  file := save [newItem (exampleReceipt (js "r1")) 0]
  wellKept := by
    rw [parseOutbox_save]
    exact (addReceipt_spec wellKept_nil (exampleReceipt (js "r1")) 0).1

/-- An `enqueue` whose `readFile` fails. -/
def exampleMoves : List (Move Operation Choice) :=
  [.start (.enqueue (exampleReceipt (js "r2"))), .resume 0 (.wake 1), .resume 0 (.loaded false),
    .resume 0 (.saved true), .resume 0 (.saved true)]

theorem not_outbox_keeps_receipts :
    ¬∀ (policy : InboundReplayPolicy) (stored : StoredFile) (moves : List (Move Operation Choice)),
      (∀ p, exec (outbox policy).step (Pool.startOf stored) moves = some p → Isolated p) ∧
        AllSteps (outbox policy).step (KeepsOwed policy) (Pool.startOf stored) moves := by
  intro h
  obtain ⟨_, hall⟩ := h ⟨25, 1, 2000, 60000, 2, 2000, 8000, 2⟩ exampleStored
    (exampleMoves ++ [.resume 0 (.saved true)])
  have hlast := (allSteps_append.mp hall).2 _ rfl
  have hkept := hlast.1 _ rfl
  obtain ⟨item, hitem, hreceipt⟩ := hkept (exampleReceipt (js "r1")) (by
    refine List.mem_append_left _ (mem_others.mpr ⟨?_, by decide⟩)
    change _ ∈ (parseOutbox (save _)).map _
    rw [parseOutbox_save]
    exact List.mem_singleton_self _)
  change item ∈ parseOutbox (save [newItem (exampleReceipt (js "r2")) 1]) at hitem
  rw [parseOutbox_save, List.mem_singleton] at hitem
  rw [hitem] at hreceipt
  revert hreceipt
  decide

end Clawdentity.Connector.ReceiptOutbox
