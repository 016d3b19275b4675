import Clawdentity.Rust.Outbound

/-!
# The fan-out of a group message

The handler of a group message inserts a row for each member, and deletes those that it has
inserted where an insertion fails. A flush may take some of these rows in between, and the
deletion of a row may fail.

Beside the pool stands what happened in the run, which no code reads: the recipients of each
group message, and the rows that each call has inserted.

## Main definitions

* `History`, `trace` — the pool and what happened.
* `UndoesAll` — a fan-out that fails is undone without a gap.
* `AllOrNothing` — a message that was refused is not queued or sent, and one that was accepted
  was queued for each recipient.
* `group_send_all_or_nothing`.
-/

namespace Clawdentity.Rust.Outbound

open Js Lib Lib.Interleave Lib.Run
open Inbound (Crates)

/-! ## What happens in a step -/

/-- A row that was inserted: by which call, for whom, and under which id. -/
structure Inserted where
  call : ℕ
  recipient : RString
  frameId : RString
  deriving DecidableEq

structure History where
  /-- The recipients of a group message, by the call of its handler. -/
  recipients : List (ℕ × List RString)
  inserted : List Inserted
  deriving DecidableEq

section
variable (crates : Crates) (policy : OutboundRetryPolicy)

/-- The call that goes on in this step. -/
def resumed (p : Pool Shared Call) : Move (Input × Env) Env → Option (ℕ × Call × Env)
  | .start _ => none
  | .resume i env => p.calls[i]?.map fun call => (i, call, env)

/-- The recipients that a handler finds. -/
def Call.finds (env : Env) : Call → Option (List RString)
  | .resolving _ _ localAgentDid => env.members.bind fun rawMembers =>
      collectRecipients crates.ulidFromString localAgentDid rawMembers []
  | _ => none

/-- The recipient and the id of the row that a handler inserts. -/
def Call.inserts (st : Shared) (env : Env) : Call → Option (RString × RString)
  | .inserting request groupId (recipient :: _) _ =>
      if (enqueueOutboundFrame crates st.queue request groupId recipient env).isOk then
        some (recipient, trim env.frameId)
      else none
  | _ => none

/-- The rows that a handler has inserted before an insertion that fails. -/
def Call.fails (st : Shared) (env : Env) : Call → List RString
  | .inserting request groupId (recipient :: _) frameIds =>
      if (enqueueOutboundFrame crates st.queue request groupId recipient env).isOk then []
      else frameIds.map trim
  | _ => []

/-- The ids that a call is sending. -/
def Call.sendingIds : Call → List RString
  | .sending row _ frame _ _ => [row.value.frameId, frame.id]
  | _ => []

/-- The ids that a flush takes from the queue to send them. -/
def Call.takes (st : Shared) (env : Env) : Call → List RString
  | .flushing maxItems reply => (resumeFlushing crates policy st maxItems reply env).2.sendingIds
  | _ => []

/-- The ids that a call has still to delete. -/
def Call.undoneIds : Call → List RString
  | .undoing frameIds _ => frameIds.map trim
  | _ => []

/-- A deletion fails, and the row is queued. -/
def Call.undoFails (st : Shared) (env : Env) : Call → Bool
  | .undoing (frameId :: _) _ =>
      !env.writeOk && st.queue.any fun row => row.value.frameId = trim frameId
  | _ => false

/-- What has happened after a step. -/
def History.record (history : History) (p : Pool Shared Call) (move : Move (Input × Env) Env) :
    History :=
  match resumed p move with
  | none => history
  | some (i, call, env) =>
      { recipients := history.recipients ++ ((call.finds crates env).map (i, ·)).toList
        inserted := history.inserted ++ ((call.inserts crates p.shared env).map
          fun r => ⟨i, r.1, r.2⟩).toList }

/-- A step of the pool, which is recorded. -/
def trace (server : RuntimeServerState) (s : Pool Shared Call × History)
    (move : Move (Input × Env) Env) : Option (Pool Shared Call × History) :=
  ((outbound crates policy server).step s.1 move).map fun p => (p, s.2.record crates s.1 move)

/-! ## The conditions on a step -/

/-- The ids that have been sent, and those that the calls are sending. -/
def takenIds (p : Pool Shared Call) : List RString :=
  p.shared.sent.map (·.value.id) ++ p.calls.flatMap Call.sendingIds

/-- Where an insertion fails, none of the rows before it has been taken to be sent; none is taken
while they are being deleted; and the deletions succeed. -/
def UndoesAll (s : Pool Shared Call × History) (move : Move (Input × Env) Env) : Prop :=
  ∀ r ∈ resumed s.1 move,
    (∀ frameId ∈ r.2.1.fails crates s.1.shared r.2.2, frameId ∉ takenIds s.1) ∧
    (∀ frameId ∈ r.2.1.takes crates policy s.1.shared r.2.2, ∀ call ∈ s.1.calls,
      frameId ∉ call.undoneIds) ∧
    r.2.1.undoFails s.1.shared r.2.2 = false

instance (s : Pool Shared Call × History) (move : Move (Input × Env) Env) :
    Decidable (UndoesAll crates policy s move) := inferInstanceAs (Decidable (∀ r ∈ _, _))

/-- `Ulid::new` gives an id that it has not given before. -/
def FreshId (s : Pool Shared Call × History) (move : Move (Input × Env) Env) : Prop :=
  ∀ r ∈ resumed s.1 move, ∀ row ∈ r.2.1.inserts crates s.1.shared r.2.2,
    ∀ entry ∈ s.2.inserted, entry.frameId ≠ row.2

instance (s : Pool Shared Call × History) (move : Move (Input × Env) Env) :
    Decidable (FreshId crates s move) := inferInstanceAs (Decidable (∀ r ∈ _, _))

end

/-! ## All or nothing -/

/-- The request is refused. -/
def Reply.isError : Reply → Bool
  | .accepted _ _ => false
  | _ => true

/-- The rows that a call has inserted. -/
def History.insertedBy (history : History) (i : ℕ) : List Inserted :=
  history.inserted.filter fun entry => entry.call = i

/-- The row is not queued, and its frame is not sent. -/
def Absent (p : Pool Shared Call) (frameId : RString) : Prop :=
  (∀ row ∈ p.shared.queue, row.value.frameId ≠ frameId) ∧
    ∀ frame ∈ p.shared.sent, frame.value.id ≠ frameId

/-- A row was inserted for each recipient, and the answer has their ids. -/
def QueuedForAll (history : History) (i : ℕ) (frameIds : List RString) : Prop :=
  ∃ recipients, (i, recipients) ∈ history.recipients ∧
    (history.insertedBy i).map Inserted.recipient = recipients ∧
      (history.insertedBy i).map Inserted.frameId = frameIds.map trim

/-- No row of a message that was refused is queued or sent, and a group message that was accepted
was queued for each recipient. -/
structure AllOrNothing (s : Pool Shared Call × History) : Prop where
  refused : ∀ i reply, s.1.calls[i]? = some (.done (some reply)) → reply.isError = true →
    ∀ entry ∈ s.2.insertedBy i, Absent s.1 entry.frameId
  accepted : ∀ i groupId frameIds,
    s.1.calls[i]? = some (.done (some (.accepted (some groupId) frameIds))) →
      QueuedForAll s.2 i frameIds

/-! ## Where ids are -/

section
variable {crates : Crates} {policy : OutboundRetryPolicy} {server : RuntimeServerState}
  {st st' : Shared} {env : Env} {call call' : Call} {frameId : RString}

/-- A row with the id is queued. -/
def IsQueued (st : Shared) (frameId : RString) : Prop :=
  ∃ row ∈ st.queue, row.value.frameId = frameId

/-- What a piece of code does with the ids: one that is queued after it was queued before, was
inserted, or comes back from the call that was sending it, and one that is sent was being sent. -/
structure Moves (crates : Crates) (policy : OutboundRetryPolicy) (env : Env) (st st' : Shared)
    (call call' : Call) : Prop where
  queued : ∀ frameId, IsQueued st' frameId → IsQueued st frameId ∨
    (∃ recipient, call.inserts crates st env = some (recipient, frameId)) ∨
      frameId ∈ call.sendingIds
  sent : ∀ frame ∈ st'.sent, frame ∈ st.sent ∨ frame.value.id ∈ call.sendingIds
  sending : ∀ frameId ∈ call'.sendingIds, frameId ∈ call.takes crates policy st env

/-- A piece of code that changes nothing and sends nothing. -/
theorem Moves.refl (h : call'.sendingIds = []) : Moves crates policy env st st call call' where
  queued _ h := .inl h
  sent _ h := .inl h
  sending frameId hid := by
    rw [h] at hid
    cases hid

theorem isQueued_append {queue : Queue} {row : Tracked OutboundQueueItem}
    (h : IsQueued { st with queue := queue ++ [row] } frameId) :
    IsQueued { st with queue } frameId ∨ row.value.frameId = frameId := by
  obtain ⟨found, hfound, rfl⟩ := h
  rcases List.mem_append.mp hfound with hfound | hfound
  · exact .inl ⟨found, hfound, rfl⟩
  · exact .inr (by rw [List.mem_singleton.mp hfound])

theorem isQueued_deleteRow {other : RString}
    (h : IsQueued { st with queue := deleteRow other st.queue } frameId) :
    IsQueued st frameId ∧ frameId ≠ other := by
  obtain ⟨row, hrow, rfl⟩ := h
  obtain ⟨hmem, hne⟩ := List.mem_filter.mp hrow
  exact ⟨⟨row, hmem, rfl⟩, by simpa using hne⟩

theorem resumeInserting_moves {request : OutboundRequest} {groupId : Option RString}
    {recipients frameIds : List RString}
    (h : resumeInserting crates server st request groupId recipients frameIds env = (st', call')) :
    Moves crates policy env st st' (.inserting request groupId recipients frameIds) call' := by
  unfold resumeInserting at h
  split at h
  · simp only at h
    split at h <;> (cases h; exact .refl rfl)
  · rename_i recipient rest
    split at h
    · rename_i queue hqueue
      cases h
      obtain ⟨row, rfl, hid, _⟩ := enqueueOutbound_spec hqueue
      refine ⟨fun frameId hqueued => ?_, fun _ h => .inl h, nofun⟩
      rcases isQueued_append hqueued with hold | hnew
      · exact .inl hold
      · refine .inr (.inl ⟨recipient, ?_⟩)
        simp [Call.inserts, hqueue, Except.isOk, Except.toBool, ← hnew, hid]
    · cases h
      exact .refl rfl

theorem resumeUndoing_moves {frameIds : List RString} {reply : Reply}
    (h : resumeUndoing st frameIds reply env = (st', call')) :
    Moves crates policy env st st' (.undoing frameIds reply) call' := by
  unfold resumeUndoing at h
  split at h
  · cases h
    exact .refl rfl
  · cases h
    refine ⟨fun frameId hqueued => ?_, fun _ h => .inl h, nofun⟩
    rw [deleteOutbound] at hqueued
    split at hqueued
    · exact .inl hqueued
    · exact .inl (isQueued_deleteRow hqueued).1

theorem resumeFlushing_moves {maxItems : ℕ} {reply : Option Reply}
    (h : resumeFlushing crates policy st maxItems reply env = (st', call')) :
    Moves crates policy env st st' (.flushing maxItems reply) call' := by
  have hsending : ∀ frameId ∈ call'.sendingIds,
      frameId ∈ (Call.flushing maxItems reply).takes crates policy st env := by
    intro frameId hid
    rwa [Call.takes, h]
  unfold resumeFlushing at h
  split at h
  · cases h
    exact .refl rfl
  · cases h
    exact .refl rfl
  · split at h
    · cases h
      exact .refl rfl
    · cases h
      exact .refl rfl
    · rename_i row queue htake
      obtain ⟨_, rfl⟩ := takeDueOutbound_spec htake
      cases h
      exact ⟨fun frameId hqueued => .inl (isQueued_deleteRow hqueued).1, fun _ h => .inl h,
        hsending⟩

theorem resumeSending_moves {row : Tracked OutboundQueueItem} {nowMs : ℤ} {frame : EnqueueFrame}
    {maxItems : ℕ} {reply : Option Reply}
    (h : resumeSending policy st row nowMs frame maxItems reply env = (st', call')) :
    Moves crates policy env st st' (.sending row nowMs frame maxItems reply) call' := by
  unfold resumeSending at h
  split at h
  · cases h
    refine ⟨fun _ h => .inl h, fun sent hsent => ?_, nofun⟩
    rcases List.mem_append.mp hsent with hsent | hsent
    · exact .inl hsent
    · rw [List.mem_singleton.mp hsent]
      exact .inr (by simp [Call.sendingIds])
  split at h
  · split at h <;> (cases h; exact .refl rfl)
  · split at h
    · rename_i queue hqueue
      cases h
      rw [(insertRow_spec hqueue).1]
      refine ⟨fun frameId hqueued => ?_, fun _ h => .inl h, nofun⟩
      rcases isQueued_append hqueued with hold | hnew
      · exact .inl hold
      · exact .inr (.inr (by simp [Call.sendingIds, ← hnew]))
    · cases h
      exact .refl rfl

theorem sendingIds_ofExcept {result : Except AppErrorResponse Call}
    (h : ∀ call, result = .ok call → call.sendingIds = []) : (Call.ofExcept result).sendingIds = [] := by
  cases result with
  | ok call => exact h call rfl
  | error response => rfl

theorem resumeResolving_sendingIds {queue : Queue} {request : OutboundRequest}
    {groupId localAgentDid : RString}
    (h : resumeResolving crates server queue request groupId localAgentDid env = .ok call) :
    call.sendingIds = [] := by
  obtain ⟨_, _, h⟩ := bind_eq_ok.mp h
  obtain ⟨_, _, h⟩ := bind_eq_ok.mp h
  split at h
  · cases h
    rfl
  · simp only [bind_eq_ok] at h
    obtain ⟨_, _, _, _, heq⟩ := h
    cases heq
    rfl

/-- **Every piece of code** moves ids only in these ways. -/
theorem resumeCall_moves (h : resumeCall crates policy server st call env = some (st', call')) :
    Moves crates policy env st st' call call' := by
  cases call with
  | resolving request groupId localAgentDid =>
      cases h
      exact .refl (sendingIds_ofExcept fun _ => resumeResolving_sendingIds)
  | inserting request groupId recipients frameIds =>
      exact resumeInserting_moves (Option.some.inj h)
  | undoing frameIds reply => exact resumeUndoing_moves (Option.some.inj h)
  | flushing maxItems reply => exact resumeFlushing_moves (Option.some.inj h)
  | sending row nowMs frame maxItems reply => exact resumeSending_moves (Option.some.inj h)
  | done reply => cases h

/-- What a flush takes to send it was queued. -/
theorem isQueued_of_takes (h : frameId ∈ call.takes crates policy st env) : IsQueued st frameId := by
  cases call with
  | flushing maxItems reply =>
      simp only [Call.takes] at h
      unfold resumeFlushing at h
      split at h
      · cases h
      · cases h
      · split at h
        · cases h
        · cases h
        · rename_i row queue htake
          obtain ⟨hmem, _⟩ := takeDueOutbound_spec htake
          unfold flushRow at h
          simp only at h
          split at h
          · split at h <;> cases h
          · split at h
            · cases h
            · simp only [Call.sendingIds, enqueueFrame, List.mem_cons, List.not_mem_nil,
                or_false, or_self] at h
              exact ⟨row, hmem, h.symm⟩
  | resolving | inserting | undoing | sending | done => cases h

/-! ## The invariant -/

/-- The row is neither queued nor on its way to the relay. -/
def Gone (p : Pool Shared Call) (frameId : RString) : Prop :=
  frameId ∉ takenIds p ∧ ¬ IsQueued p.shared frameId

/-- What a reply says about the rows of its call. -/
def ReplyInv (s : Pool Shared Call × History) (i : ℕ) : Reply → Prop
  | .accepted (some _) frameIds => QueuedForAll s.2 i frameIds
  | .accepted none _ => True
  | _ => ∀ entry ∈ s.2.insertedBy i, Gone s.1 entry.frameId

/-- What is known of the rows of a call between two pieces of its code. -/
def CallInv (s : Pool Shared Call × History) (i : ℕ) : Call → Prop
  | .resolving _ _ _ => s.2.insertedBy i = []
  | .inserting _ groupId recipients frameIds =>
      (s.2.insertedBy i).map Inserted.frameId = frameIds.map trim ∧
        (groupId.isSome = true → ∃ found, (i, found) ∈ s.2.recipients ∧
          (s.2.insertedBy i).map Inserted.recipient ++ recipients = found)
  | .undoing frameIds reply => reply.isError = true ∧ ∀ entry ∈ s.2.insertedBy i,
      entry.frameId ∉ takenIds s.1 ∧
        (entry.frameId ∈ frameIds.map trim ∨ ¬ IsQueued s.1.shared entry.frameId)
  | .flushing _ reply => ∀ r ∈ reply, ReplyInv s i r
  | .sending _ _ _ _ reply => ∀ r ∈ reply, ReplyInv s i r
  | .done reply => ∀ r ∈ reply, ReplyInv s i r

structure Inv (s : Pool Shared Call × History) : Prop where
  calls : ∀ i c, s.1.calls[i]? = some c → CallInv s i c
  made : ∀ entry ∈ s.2.inserted, entry.call < s.1.calls.length
  nonempty : ∀ entry ∈ s.2.inserted, entry.frameId ≠ []

theorem replyInv_of_error {s : Pool Shared Call × History} {i : ℕ} {reply : Reply}
    (hreply : reply.isError = true) (h : ∀ entry ∈ s.2.insertedBy i, Gone s.1 entry.frameId) :
    ReplyInv s i reply := by
  cases reply with
  | accepted groupId frameIds => cases hreply
  | rejected | error | persistFailed => exact h

theorem ReplyInv.gone {s : Pool Shared Call × History} {i : ℕ} {reply : Reply}
    (h : ReplyInv s i reply) (hreply : reply.isError = true) :
    ∀ entry ∈ s.2.insertedBy i, Gone s.1 entry.frameId := by
  cases reply with
  | accepted groupId frameIds => cases hreply
  | rejected | error | persistFailed => exact h

section
variable {s s' : Pool Shared Call × History} {i : ℕ}

/-- A reply goes on to be true where the rows of its call stay away. -/
theorem ReplyInv.frame {reply : Reply} (h : ReplyInv s i reply)
    (hby : s'.2.insertedBy i = s.2.insertedBy i)
    (hfound : ∀ r ∈ s.2.recipients, r ∈ s'.2.recipients)
    (hgone : ∀ entry ∈ s.2.insertedBy i, Gone s.1 entry.frameId → Gone s'.1 entry.frameId) :
    ReplyInv s' i reply := by
  cases reply with
  | accepted groupId frameIds =>
      cases groupId with
      | none => trivial
      | some groupId =>
          obtain ⟨recipients, hmem, hrecipients, hids⟩ := h
          exact ⟨recipients, hfound _ hmem, by rw [hby, hrecipients], by rw [hby, hids]⟩
  | rejected | error | persistFailed =>
      intro entry hentry
      rw [hby] at hentry
      exact hgone entry hentry (h entry hentry)

/-- So does what is known of a call that does not go on, where no row that it has to delete is
taken. -/
theorem CallInv.frame {c : Call} (h : CallInv s i c)
    (hby : s'.2.insertedBy i = s.2.insertedBy i)
    (hfound : ∀ r ∈ s.2.recipients, r ∈ s'.2.recipients)
    (hgone : ∀ entry ∈ s.2.insertedBy i, Gone s.1 entry.frameId → Gone s'.1 entry.frameId)
    (hundone : ∀ entry ∈ s.2.insertedBy i, entry.frameId ∈ c.undoneIds →
      entry.frameId ∉ takenIds s.1 → entry.frameId ∉ takenIds s'.1) : CallInv s' i c := by
  cases c with
  | resolving request groupId localAgentDid => exact hby.trans h
  | inserting request groupId recipients frameIds =>
      refine ⟨by rw [hby, h.1], fun hgroup => ?_⟩
      obtain ⟨found, hmem, hrecipients⟩ := h.2 hgroup
      exact ⟨found, hfound _ hmem, by rw [hby, hrecipients]⟩
  | undoing frameIds reply =>
      refine ⟨h.1, fun entry hentry => ?_⟩
      rw [hby] at hentry
      obtain ⟨huntaken, hwhere⟩ := h.2 entry hentry
      rcases hwhere with hid | hqueued
      · exact ⟨hundone entry hentry hid huntaken, .inl hid⟩
      · have hgone' := hgone entry hentry ⟨huntaken, hqueued⟩
        exact ⟨hgone'.1, .inr hgone'.2⟩
  | flushing maxItems reply => exact fun r hr => (h r hr).frame hby hfound hgone
  | sending row nowMs frame maxItems reply => exact fun r hr => (h r hr).frame hby hfound hgone
  | done reply => exact fun r hr => (h r hr).frame hby hfound hgone

/-! ### A call that starts -/

theorem insertedBy_eq_nil (hinv : Inv s) : s.2.insertedBy s.1.calls.length = [] := by
  rw [History.insertedBy, List.filter_eq_nil_iff]
  intro entry hentry
  have := hinv.made entry hentry
  simp only [decide_eq_true_eq]
  omega

/-- A call that starts has inserted nothing, and is sending nothing. -/
theorem startCall_inv {input : Input} (h : s.2.insertedBy i = []) :
    (startCall crates server st input env).2.sendingIds = [] ∧
      CallInv s i (startCall crates server st input env).2 := by
  have hdone : ∀ response, (Call.done (some (.error response))).sendingIds = [] ∧
      CallInv s i (.done (some (.error response))) := by
    refine fun response => ⟨rfl, fun r hr => ?_⟩
    cases hr
    intro entry hentry
    rw [h] at hentry
    cases hentry
  unfold startCall
  split
  · exact ⟨rfl, nofun⟩
  split
  · refine ⟨rfl, fun r hr => ?_⟩
    cases hr
    intro entry hentry
    rw [h] at hentry
    cases hentry
  rename_i request hrequest
  cases hhandler : startHandler crates server st.queue request env with
  | error response => exact hdone response
  | ok call =>
      obtain ⟨routing, _, hrest⟩ := bind_eq_ok.mp hhandler
      cases routing with
      | direct toAgentDid =>
          obtain ⟨_, _, heq⟩ := bind_eq_ok.mp hrest
          cases heq
          exact ⟨rfl, by rw [h]; rfl, nofun⟩
      | group groupId =>
          simp only [bind_eq_ok] at hrest
          obtain ⟨_, _, _, _, _, _, heq⟩ := hrest
          cases heq
          exact ⟨rfl, h⟩

theorem inv_append {c : Call} (hinv : Inv s) (hsending : c.sendingIds = [])
    (hnew : CallInv s s.1.calls.length c) : Inv (⟨s.1.shared, s.1.calls ++ [c]⟩, s.2) := by
  have htaken : takenIds ⟨s.1.shared, s.1.calls ++ [c]⟩ = takenIds s.1 := by
    simp [takenIds, hsending]
  have hframe : ∀ j d, CallInv s j d → CallInv (⟨s.1.shared, s.1.calls ++ [c]⟩, s.2) j d :=
    fun j d hd => hd.frame rfl (fun _ h => h)
      (fun _ _ h => ⟨by rw [htaken]; exact h.1, h.2⟩) (fun _ _ _ h => by rw [htaken]; exact h)
  refine ⟨fun j d hd => ?_, fun entry hentry => ?_, hinv.nonempty⟩
  · by_cases hj : j < s.1.calls.length
    · rw [List.getElem?_append_left hj] at hd
      exact hframe j d (hinv.calls j d hd)
    · obtain ⟨hlt, hget⟩ := List.getElem?_eq_some_iff.mp hd
      have hlast : j = s.1.calls.length := by
        simp only [List.length_append, List.length_singleton] at hlt
        omega
      subst hlast
      have hc : d = c := by simpa using hget.symm
      rw [hc]
      exact hframe _ c hnew
  · have := hinv.made entry hentry
    simp only [List.length_append, List.length_singleton]
    omega

/-! ### A call that goes on -/

section Resume
variable {sh : Shared} {c c' : Call} (hi : s.1.calls[i]? = some c)
  (hr : resumeCall crates policy server s.1.shared c env = some (sh, c'))

/-- What happened after the call has gone on. -/
def after (crates : Crates) (s : Pool Shared Call × History) (i : ℕ) (env : Env) (sh : Shared)
    (c' : Call) : Pool Shared Call × History :=
  (⟨sh, s.1.calls.set i c'⟩, s.2.record crates s.1 (.resume i env))

include hi

theorem resumed_eq : resumed s.1 (.resume i env) = some (i, c, env) := by
  rw [resumed, hi]
  rfl

theorem record_eq : s.2.record crates s.1 (.resume i env) =
    { recipients := s.2.recipients ++ ((c.finds crates env).map (i, ·)).toList
      inserted := s.2.inserted ++ ((c.inserts crates s.1.shared env).map
        fun r => ⟨i, r.1, r.2⟩).toList } := by
  rw [History.record, resumed_eq hi]

theorem mem_recipients_after {r : ℕ × List RString} (h : r ∈ s.2.recipients) :
    r ∈ (after crates s i env sh c').2.recipients := by
  rw [after, record_eq hi]
  exact List.mem_append_left _ h

/-- Only the call that goes on inserts a row. -/
theorem insertedBy_after_ne {j : ℕ} (hj : j ≠ i) :
    (after crates s i env sh c').2.insertedBy j = s.2.insertedBy j := by
  rw [after, record_eq hi, History.insertedBy, List.filter_append]
  cases c.inserts crates s.1.shared env with
  | none => simp [History.insertedBy]
  | some r => simp [History.insertedBy, Ne.symm hj]

theorem insertedBy_after : (after crates s i env sh c').2.insertedBy i =
    s.2.insertedBy i ++ ((c.inserts crates s.1.shared env).map fun r => ⟨i, r.1, r.2⟩).toList := by
  rw [after, record_eq hi, History.insertedBy, List.filter_append]
  cases c.inserts crates s.1.shared env with
  | none => simp [History.insertedBy]
  | some r => simp [History.insertedBy]

include hr

theorem mem_takenIds_after (h : frameId ∈ takenIds (after crates s i env sh c').1) :
    frameId ∈ takenIds s.1 ∨ frameId ∈ c.takes crates policy s.1.shared env := by
  have hmoves := resumeCall_moves hr
  have hcall : ∀ id ∈ c.sendingIds, id ∈ takenIds s.1 := fun id hid =>
    List.mem_append_right _ (List.mem_flatMap.mpr ⟨c, List.mem_of_getElem? hi, hid⟩)
  rcases List.mem_append.mp h with h | h
  · obtain ⟨frame, hframe, rfl⟩ := List.mem_map.mp h
    rcases hmoves.sent frame hframe with hsent | hsending
    · exact .inl (List.mem_append_left _ (List.mem_map.mpr ⟨frame, hsent, rfl⟩))
    · exact .inl (hcall _ hsending)
  · obtain ⟨d, hd, hid⟩ := List.mem_flatMap.mp h
    rcases List.mem_or_eq_of_mem_set hd with hd | rfl
    · exact .inl (List.mem_append_right _ (List.mem_flatMap.mpr ⟨d, hd, hid⟩))
    · exact .inr (hmoves.sending frameId hid)

/-- **A row that is gone stays away**, as no new row has its id. -/
theorem gone_after (hfresh : FreshId crates s (.resume i env)) {entry : Inserted}
    (hentry : entry ∈ s.2.inserted) (h : Gone s.1 entry.frameId) :
    Gone (after crates s i env sh c').1 entry.frameId := by
  refine ⟨fun htaken => ?_, fun hqueued => ?_⟩
  · rcases mem_takenIds_after hi hr htaken with htaken | htakes
    · exact h.1 htaken
    · exact h.2 (isQueued_of_takes htakes)
  · rcases (resumeCall_moves hr).queued _ hqueued with hold | ⟨recipient, hnew⟩ | hsending
    · exact h.2 hold
    · exact hfresh _ (resumed_eq hi) _ hnew entry hentry rfl
    · exact h.1 (List.mem_append_right _
        (List.mem_flatMap.mpr ⟨c, List.mem_of_getElem? hi, hsending⟩))

/-- The other calls keep what is known of them. -/
theorem callInv_after_ne (hfresh : FreshId crates s (.resume i env))
    (hundo : UndoesAll crates policy s (.resume i env)) {j : ℕ} {d : Call} (hj : j ≠ i)
    (hd : s.1.calls[j]? = some d) (h : CallInv s j d) :
    CallInv (after crates s i env sh c') j d := by
  refine h.frame (insertedBy_after_ne hi hj) (fun _ hr => mem_recipients_after hi hr)
    (fun entry hentry hgone => gone_after hi hr hfresh (List.mem_of_mem_filter hentry) hgone) ?_
  intro entry hentry hid huntaken htaken
  rcases mem_takenIds_after hi hr htaken with htaken | htakes
  · exact huntaken htaken
  · exact (hundo _ (resumed_eq hi)).2.1 _ htakes d (List.mem_of_getElem? hd) hid

omit hr in
/-- A call that inserts nothing now has inserted what it had. -/
theorem insertedBy_after_of_none (h : c.inserts crates s.1.shared env = none) :
    (after crates s i env sh c').2.insertedBy i = s.2.insertedBy i := by
  rw [insertedBy_after hi, h]
  simp

/-- The reply of a call that hands frames over goes on to be true. -/
theorem reply_after (hfresh : FreshId crates s (.resume i env))
    (hnone : c.inserts crates s.1.shared env = none) {reply : Reply} (h : ReplyInv s i reply) :
    ReplyInv (after crates s i env sh c') i reply :=
  h.frame (insertedBy_after_of_none hi hnone) (fun _ hr => mem_recipients_after hi hr)
    fun _ hentry hgone => gone_after hi hr hfresh (List.mem_of_mem_filter hentry) hgone

end Resume

section Own
variable {sh : Shared} {c' : Call}

theorem resolving_after {request : OutboundRequest} {groupId localAgentDid : RString}
    (hi : s.1.calls[i]? = some (.resolving request groupId localAgentDid))
    (h : s.2.insertedBy i = []) :
    CallInv (after crates s i env sh (.ofExcept (resumeResolving crates server s.1.shared.queue
      request groupId localAgentDid env))) i (.ofExcept (resumeResolving crates server
        s.1.shared.queue request groupId localAgentDid env)) := by
  have hby : ∀ c' : Call, (after crates s i env sh c').2.insertedBy i = [] := fun c' =>
    (insertedBy_after_of_none hi rfl).trans h
  cases hresolving : resumeResolving crates server s.1.shared.queue request groupId localAgentDid
    env with
  | error response =>
      intro r hr
      cases hr
      intro entry hentry
      rw [hby] at hentry
      cases hentry
  | ok call =>
      obtain ⟨rawMembers, hmembers, hrest⟩ := bind_eq_ok.mp hresolving
      obtain ⟨recipients, hrecipients, hrest⟩ := bind_eq_ok.mp hrest
      have hfound : ∀ c' : Call, (i, recipients) ∈ (after crates s i env sh c').2.recipients := by
        intro c'
        rw [after, record_eq hi, Call.finds, elim_eq_ok.mp hmembers, Option.bind_some,
          elim_eq_ok.mp hrecipients]
        exact List.mem_append_right _ (List.mem_singleton_self _)
      split at hrest
      · rename_i hempty
        cases hrest
        intro r hr
        cases hr
        refine ⟨recipients, hfound _, ?_, ?_⟩
        · rw [hby, List.isEmpty_iff.mp hempty]
          rfl
        · rw [hby]
          rfl
      · simp only [bind_eq_ok] at hrest
        obtain ⟨_, _, _, _, heq⟩ := hrest
        cases heq
        exact ⟨by rw [hby]; rfl, fun _ => ⟨recipients, hfound _, by rw [hby]; rfl⟩⟩

theorem inserting_after {request : OutboundRequest} {groupId : Option RString}
    {recipients frameIds : List RString}
    (hi : s.1.calls[i]? = some (.inserting request groupId recipients frameIds))
    (hr : resumeInserting crates server s.1.shared request groupId recipients frameIds env = (sh, c'))
    (hundo : UndoesAll crates policy s (.resume i env))
    (h : CallInv s i (.inserting request groupId recipients frameIds)) :
    CallInv (after crates s i env sh c') i c' := by
  have hcall : resumeCall crates policy server s.1.shared
      (.inserting request groupId recipients frameIds) env = some (sh, c') := congrArg some hr
  cases recipients with
  | nil =>
      have hby : (after crates s i env sh c').2.insertedBy i = s.2.insertedBy i :=
        insertedBy_after_of_none hi rfl
      have hreply : ReplyInv (after crates s i env sh c') i (.accepted groupId frameIds) := by
        cases groupId with
        | none => trivial
        | some groupId =>
            obtain ⟨found, hfound, hrecipients⟩ := h.2 rfl
            rw [List.append_nil] at hrecipients
            exact ⟨found, mem_recipients_after hi hfound, by rw [hby, hrecipients], by rw [hby, h.1]⟩
      simp only [resumeInserting] at hr
      split at hr
      · cases hr
        intro r hr
        cases hr
        exact hreply
      · cases hr
        intro r hr
        cases hr
        exact hreply
  | cons recipient rest =>
      simp only [resumeInserting] at hr
      split at hr
      · rename_i queue hqueue
        cases hr
        have hinserts : (Call.inserting request groupId (recipient :: rest) frameIds).inserts crates
            s.1.shared env = some (recipient, trim env.frameId) := by
          simp [Call.inserts, hqueue, Except.isOk, Except.toBool]
        have hby : (after crates s i env { s.1.shared with queue }
            (.inserting request groupId rest (frameIds ++ [env.frameId]))).2.insertedBy i =
            s.2.insertedBy i ++ (((Call.inserting request groupId (recipient :: rest)
              frameIds).inserts crates s.1.shared env).map fun r => ⟨i, r.1, r.2⟩).toList :=
          insertedBy_after hi
        rw [hinserts] at hby
        refine ⟨?_, fun hgroup => ?_⟩
        · rw [hby, List.map_append, h.1, List.map_append]
          rfl
        · obtain ⟨found, hfound, hrecipients⟩ := h.2 hgroup
          refine ⟨found, mem_recipients_after hi hfound, ?_⟩
          rw [hby, List.map_append, ← hrecipients, List.append_assoc]
          rfl
      · rename_i error hqueue
        cases hr
        have hinserts : (Call.inserting request groupId (recipient :: rest) frameIds).inserts crates
            s.1.shared env = none := by
          simp [Call.inserts, hqueue, Except.isOk, Except.toBool]
        have hfails : (Call.inserting request groupId (recipient :: rest) frameIds).fails crates
            s.1.shared env = frameIds.map trim := by
          simp [Call.fails, hqueue, Except.isOk, Except.toBool]
        refine ⟨rfl, fun entry hentry => ?_⟩
        rw [insertedBy_after_of_none hi hinserts] at hentry
        have hid : entry.frameId ∈ frameIds.map trim := by
          rw [← h.1]
          exact List.mem_map.mpr ⟨entry, hentry, rfl⟩
        refine ⟨fun htaken => ?_, .inl hid⟩
        rcases mem_takenIds_after hi hcall htaken with htaken | htakes
        · exact (hundo _ (resumed_eq hi)).1 _ (by rw [hfails]; exact hid) htaken
        · cases htakes

theorem undoing_after {frameIds : List RString} {reply : Reply} (hinv : Inv s)
    (hi : s.1.calls[i]? = some (.undoing frameIds reply))
    (hcall : resumeCall crates policy server s.1.shared (.undoing frameIds reply) env =
      some (sh, c'))
    (hfresh : FreshId crates s (.resume i env))
    (hundo : UndoesAll crates policy s (.resume i env)) (h : CallInv s i (.undoing frameIds reply)) :
    CallInv (after crates s i env sh c') i c' := by
  have hr : resumeUndoing s.1.shared frameIds reply env = (sh, c') := Option.some.inj hcall
  have hby : (after crates s i env sh c').2.insertedBy i = s.2.insertedBy i :=
    insertedBy_after_of_none hi rfl
  have huntaken : ∀ entry ∈ s.2.insertedBy i,
      entry.frameId ∉ takenIds (after crates s i env sh c').1 := by
    intro entry hentry htaken
    rcases mem_takenIds_after hi hcall htaken with htaken | htakes
    · exact (h.2 entry hentry).1 htaken
    · cases htakes
  have hgone : ∀ entry ∈ s.2.insertedBy i, ¬ IsQueued s.1.shared entry.frameId →
      ¬ IsQueued sh entry.frameId := fun entry hentry hqueued =>
    (gone_after hi hcall hfresh (List.mem_of_mem_filter hentry) ⟨(h.2 entry hentry).1, hqueued⟩).2
  cases frameIds with
  | nil =>
      cases hr
      intro r hr
      cases hr
      refine replyInv_of_error h.1 fun entry hentry => ?_
      rw [hby] at hentry
      rcases (h.2 entry hentry).2 with hid | hqueued
      · cases hid
      · exact ⟨huntaken entry hentry, hgone entry hentry hqueued⟩
  | cons frameId rest =>
      have hsucceeds := (hundo _ (resumed_eq hi)).2.2
      cases hr
      have hdeleted : ∀ entry ∈ s.2.insertedBy i, entry.frameId = trim frameId →
          ¬ IsQueued { s.1.shared with queue := deleteOutbound s.1.shared.queue frameId env }
            entry.frameId := by
        intro entry hentry hid hqueued
        have hne := hinv.nonempty entry (List.mem_of_mem_filter hentry)
        rw [hid] at hne hqueued
        cases hwrite : env.writeOk with
        | true =>
            rw [deleteOutbound, if_neg (by simp [hwrite, hne])] at hqueued
            exact (isQueued_deleteRow hqueued).2 rfl
        | false =>
            simp only [deleteOutbound, hwrite, Bool.not_false, Bool.or_true, if_true] at hqueued
            obtain ⟨row, hrow, hrowId⟩ := hqueued
            simp only [Call.undoFails, hwrite, Bool.not_false, Bool.true_and,
              List.any_eq_false] at hsucceeds
            exact hsucceeds row hrow (by simpa using hrowId)
      refine ⟨h.1, fun entry hentry => ?_⟩
      rw [hby] at hentry
      refine ⟨huntaken entry hentry, ?_⟩
      rcases (h.2 entry hentry).2 with hid | hqueued
      · rw [List.map_cons, List.mem_cons] at hid
        rcases hid with hid | hid
        · exact .inr (hdeleted entry hentry hid)
        · exact .inl hid
      · exact .inr (hgone entry hentry hqueued)

/-- The reply of a flush is the one that it started with. -/
theorem flushing_after {maxItems : ℕ} {reply : Option Reply}
    (hi : s.1.calls[i]? = some (.flushing maxItems reply))
    (hcall : resumeCall crates policy server s.1.shared (.flushing maxItems reply) env =
      some (sh, c'))
    (hfresh : FreshId crates s (.resume i env)) (h : CallInv s i (.flushing maxItems reply)) :
    CallInv (after crates s i env sh c') i c' := by
  have hreply : ∀ r ∈ reply, ReplyInv (after crates s i env sh c') i r :=
    fun r hr => reply_after hi hcall hfresh rfl (h r hr)
  have hr : resumeFlushing crates policy s.1.shared maxItems reply env = (sh, c') :=
    Option.some.inj hcall
  unfold resumeFlushing at hr
  split at hr
  · cases hr
    exact hreply
  · cases hr
    exact hreply
  · split at hr
    · cases hr
      exact hreply
    · cases hr
      exact hreply
    · cases hr
      revert hreply
      unfold flushRow
      simp only
      split
      · split <;> exact fun hreply => hreply
      · split <;> exact fun hreply => hreply

theorem sending_after {row : Tracked OutboundQueueItem} {nowMs : ℤ} {frame : EnqueueFrame}
    {maxItems : ℕ} {reply : Option Reply}
    (hi : s.1.calls[i]? = some (.sending row nowMs frame maxItems reply))
    (hcall : resumeCall crates policy server s.1.shared (.sending row nowMs frame maxItems reply)
      env = some (sh, c'))
    (hfresh : FreshId crates s (.resume i env))
    (h : CallInv s i (.sending row nowMs frame maxItems reply)) :
    CallInv (after crates s i env sh c') i c' := by
  have hreply : ∀ r ∈ reply, ReplyInv (after crates s i env sh c') i r :=
    fun r hr => reply_after hi hcall hfresh rfl (h r hr)
  have hr : resumeSending policy s.1.shared row nowMs frame maxItems reply env = (sh, c') :=
    Option.some.inj hcall
  unfold resumeSending at hr
  split at hr
  · cases hr
    exact hreply
  split at hr
  · split at hr <;> (cases hr; exact hreply)
  · split at hr <;> (cases hr; exact hreply)

/-- **The call that goes on** keeps what is known of it. -/
theorem callInv_after {c : Call} (hinv : Inv s) (hi : s.1.calls[i]? = some c)
    (hcall : resumeCall crates policy server s.1.shared c env = some (sh, c'))
    (hfresh : FreshId crates s (.resume i env))
    (hundo : UndoesAll crates policy s (.resume i env)) :
    CallInv (after crates s i env sh c') i c' := by
  have h := hinv.calls i c hi
  cases c with
  | resolving request groupId localAgentDid =>
      cases hcall
      exact resolving_after hi h
  | inserting request groupId recipients frameIds =>
      exact inserting_after hi (Option.some.inj hcall) hundo h
  | undoing frameIds reply => exact undoing_after hinv hi hcall hfresh hundo h
  | flushing maxItems reply => exact flushing_after hi hcall hfresh h
  | sending row nowMs frame maxItems reply => exact sending_after hi hcall hfresh h
  | done reply => cases hcall

/-- A row that was inserted has an id. -/
theorem nonempty_of_inserts {c : Call} {row : RString × RString}
    (h : c.inserts crates s.1.shared env = some row) : row.2 ≠ [] := by
  cases c with
  | inserting request groupId recipients frameIds =>
      cases recipients with
      | nil => cases h
      | cons recipient rest =>
          cases hqueue : enqueueOutboundFrame crates s.1.shared.queue request groupId recipient
            env with
          | error error => simp [Call.inserts, hqueue, Except.isOk, Except.toBool] at h
          | ok queue =>
              obtain ⟨_, _, _, hne, _⟩ := enqueueOutbound_spec hqueue
              simp only [Call.inserts, hqueue, Except.isOk, Except.toBool, if_true,
                Option.some.injEq] at h
              rw [← h]
              exact hne
  | resolving | undoing | flushing | sending | done => cases h

theorem inv_after {c : Call} (hinv : Inv s) (hi : s.1.calls[i]? = some c)
    (hcall : resumeCall crates policy server s.1.shared c env = some (sh, c'))
    (hfresh : FreshId crates s (.resume i env))
    (hundo : UndoesAll crates policy s (.resume i env)) : Inv (after crates s i env sh c') := by
  have hmem : ∀ entry ∈ (after crates s i env sh c').2.inserted, entry ∈ s.2.inserted ∨
      entry.call = i ∧ entry.frameId ≠ [] := by
    intro entry hentry
    rw [after, record_eq hi] at hentry
    rcases List.mem_append.mp hentry with hentry | hentry
    · exact .inl hentry
    · obtain ⟨row, hrow, rfl⟩ := Option.map_eq_some_iff.mp (Option.mem_toList.mp hentry)
      exact .inr ⟨rfl, nonempty_of_inserts hrow⟩
  obtain ⟨hlt, _⟩ := List.getElem?_eq_some_iff.mp hi
  refine ⟨fun j d hd => ?_, fun entry hentry => ?_, fun entry hentry => ?_⟩
  · by_cases hj : j = i
    · subst hj
      have hget : (s.1.calls.set j c')[j]? = some c' := by
        rw [List.getElem?_set_self hlt]
      obtain rfl : c' = d := Option.some.inj (hget.symm.trans hd)
      exact callInv_after hinv hi hcall hfresh hundo
    · have hget : s.1.calls[j]? = some d := by
        rw [← List.getElem?_set_ne (Ne.symm hj)]
        exact hd
      exact callInv_after_ne hi hcall hfresh hundo hj hget (hinv.calls j d hget)
  · have hlength : (after crates s i env sh c').1.calls.length = s.1.calls.length :=
      List.length_set
    rcases hmem entry hentry with hold | ⟨hcall, _⟩
    · have := hinv.made entry hold
      omega
    · omega
  · rcases hmem entry hentry with hold | ⟨_, hne⟩
    · exact hinv.nonempty entry hold
    · exact hne

end Own

/-! ## Runs -/

theorem inv_step {move : Move (Input × Env) Env} (hinv : Inv s)
    (hok : FreshId crates s move ∧ UndoesAll crates policy s move)
    (hstep : trace crates policy server s move = some s') : Inv s' := by
  obtain ⟨p, hp, rfl⟩ := Option.map_eq_some_iff.mp hstep
  rcases Program.step_cases hp with
    ⟨⟨input, env⟩, sh, c, rfl, hstart, rfl⟩ | ⟨j, env, c, sh, c', rfl, hj, hresume, rfl⟩
  · have hs : startCall crates server s.1.shared input env = (sh, c) := Option.some.inj hstart
    have hnew : (startCall crates server s.1.shared input env).2.sendingIds = [] ∧
        CallInv s s.1.calls.length (startCall crates server s.1.shared input env).2 :=
      startCall_inv (insertedBy_eq_nil hinv)
    have hshared : (startCall crates server s.1.shared input env).1 = s.1.shared :=
      startCall_shared s.1.shared input env
    rw [hs] at hnew hshared
    rw [show sh = s.1.shared from hshared]
    exact inv_append hinv hnew.1 hnew.2
  · exact inv_after hinv hj hresume hok.1 hok.2

end

/-- No message, and nothing has happened. -/
def untouched : Pool Shared Call × History := (idle, ⟨[], []⟩)

theorem inv_untouched : Inv untouched where
  calls i c h := by simp [untouched, idle] at h
  made entry h := by cases h
  nonempty entry h := by cases h

theorem Inv.allOrNothing {s : Pool Shared Call × History} (hinv : Inv s) : AllOrNothing s where
  refused i reply hreply herror entry hentry := by
    have hgone := (hinv.calls i _ hreply reply rfl).gone herror entry hentry
    refine ⟨fun row hrow hid => hgone.2 ⟨row, hrow, hid⟩, fun frame hframe hid => ?_⟩
    exact hgone.1 (List.mem_append_left _ (List.mem_map.mpr ⟨frame, hframe, hid⟩))
  accepted i groupId frameIds hreply := hinv.calls i _ hreply _ rfl

end

/-- **All or nothing** in every state of a run in which every fan-out that fails is undone without
a gap. -/
theorem group_send_all_or_nothing (crates : Crates) (policy : OutboundRetryPolicy)
    (server : RuntimeServerState) {moves : List (Move (Input × Env) Env)}
    {s : Pool Shared Call × History}
    (hfresh : AllSteps (trace crates policy server) (FreshId crates) untouched moves)
    (hundo : AllSteps (trace crates policy server) (UndoesAll crates policy) untouched moves)
    (hrun : exec (trace crates policy server) untouched moves = some s) : AllOrNothing s :=
  (exec_invariant Inv (fun _ _ _ hi hok h => inv_step hi hok h) inv_untouched
    (allSteps_and hfresh hundo) hrun).allOrNothing

/-- The recorded run is the run of the pool. -/
theorem exec_trace (crates : Crates) (policy : OutboundRetryPolicy) (server : RuntimeServerState)
    (s : Pool Shared Call × History) (moves : List (Move (Input × Env) Env)) :
    (exec (trace crates policy server) s moves).map Prod.fst =
      exec (outbound crates policy server).step s.1 moves := by
  induction moves generalizing s with
  | nil => rfl
  | cons move rest ih =>
      simp only [exec, trace]
      cases (outbound crates policy server).step s.1 move with
      | none => rfl
      | some p => exact ih (p, s.2.record crates s.1 move)

/-! ## A group of two -/

section Example

def fanOutCrates : Crates where
  ulidFromString := exampleUlidFromString
  toString _ := rs "null"
  fromStr _ := some .null

def fanOutPolicy : OutboundRetryPolicy where
  retryDelayMs _ := 1000
  maxAttempts := 30
  maxAgeMs := 86400000

def fanOutServer : RuntimeServerState where
  localAgentDid := some (rs "did:cdi:registry.example.com:agent:01HF7YAT00W6W7CM7N3W5FDXA0")
  hasGroupMembersResolver := true
  hasRelaySender := true
  maxPending := 10000

def fanOutBody : RValue :=
  Json.object rs
    [("groupId", some (.str (rs "grp_01HF7YAT00W6W7CM7N3W5FDXG0"))), ("payload", some .null)]

def fanOutEnv (frameId : String) (writeOk : Bool) : Env where
  nowMs := 1700000000000
  ts := rs "2023-11-14T22:13:20.000000000+00:00"
  frameId := rs frameId
  connected := true
  readOk := true
  writeOk := writeOk
  members := some
    [rs "did:cdi:registry.example.com:agent:01HF7YAT00W6W7CM7N3W5FDXB0",
      rs "did:cdi:registry.example.com:agent:01HF7YAT00W6W7CM7N3W5FDXC0"]
  sendOk := true

/-- The row of the first member is inserted, the given moves follow, and the row of the second
member cannot be inserted. -/
def fanOutRun (between : List (Move (Input × Env) Env)) : List (Move (Input × Env) Env) :=
  [.start (.request fanOutBody, fanOutEnv "" true), .resume 0 (fanOutEnv "" true),
    .resume 0 (fanOutEnv "01HF7YAT00W6W7CM7N3W5FDXR0" true)] ++ between ++
    [.resume 0 (fanOutEnv "01HF7YAT00W6W7CM7N3W5FDXR1" false), .resume 0 (fanOutEnv "" true),
      .resume 0 (fanOutEnv "" true)]

/-- A flush takes the row and sends its frame. -/
def fanOutFlush : List (Move (Input × Env) Env) :=
  [.start (.flush 1, fanOutEnv "" true), .resume 1 (fanOutEnv "" true),
    .resume 1 (fanOutEnv "" true)]

/-- The reply of the handler, what it has inserted, and what was sent. -/
def fanOutOutcome (between : List (Move (Input × Env) Env)) :
    Option (Option Call × List Inserted × List RString × ℕ) :=
  (exec (trace fanOutCrates fanOutPolicy fanOutServer) untouched (fanOutRun between)).map fun s =>
    (s.1.calls[0]?, s.2.inserted, s.1.shared.sent.map (·.value.id), s.1.shared.queue.length)

theorem fanOutOutcome_flush : fanOutOutcome fanOutFlush =
    some (some (.done (some (.persistFailed .sqlite))),
      [⟨0, rs "did:cdi:registry.example.com:agent:01HF7YAT00W6W7CM7N3W5FDXB0",
        rs "01HF7YAT00W6W7CM7N3W5FDXR0"⟩], [rs "01HF7YAT00W6W7CM7N3W5FDXR0"], 0) := by
  decide

/-- **A message that was refused can be sent to one of its recipients.** -/
theorem not_group_send_all_or_nothing :
    ¬ ∀ (crates : Crates) (policy : OutboundRetryPolicy) (server : RuntimeServerState)
      (moves : List (Move (Input × Env) Env)) (s : Pool Shared Call × History),
      AllSteps (trace crates policy server) (FreshId crates) untouched moves →
      exec (trace crates policy server) untouched moves = some s → AllOrNothing s := by
  intro h
  obtain ⟨s, hrun, houtcome⟩ := Option.map_eq_some_iff.mp fanOutOutcome_flush
  simp only [Prod.mk.injEq] at houtcome
  obtain ⟨hcall, hinserted, hsent, _⟩ := houtcome
  have hall := h fanOutCrates fanOutPolicy fanOutServer (fanOutRun fanOutFlush) s (by decide) hrun
  have habsent := hall.refused 0 _ hcall rfl
    ⟨0, rs "did:cdi:registry.example.com:agent:01HF7YAT00W6W7CM7N3W5FDXB0",
      rs "01HF7YAT00W6W7CM7N3W5FDXR0"⟩ (by rw [History.insertedBy, hinserted]; decide)
  obtain ⟨frame, hframe, hid⟩ := List.mem_map.mp
    (by rw [hsent]; exact List.mem_singleton_self _ :
      rs "01HF7YAT00W6W7CM7N3W5FDXR0" ∈ s.1.shared.sent.map (·.value.id))
  exact habsent.2 frame hframe hid

theorem fanOutOutcome_undone : fanOutOutcome [] =
    some (some (.done (some (.persistFailed .sqlite))),
      [⟨0, rs "did:cdi:registry.example.com:agent:01HF7YAT00W6W7CM7N3W5FDXB0",
        rs "01HF7YAT00W6W7CM7N3W5FDXR0"⟩], [], 0) := by
  decide

theorem fanOutRun_all_or_nothing :
    ∃ s, exec (trace fanOutCrates fanOutPolicy fanOutServer) untouched (fanOutRun []) = some s ∧
      s.1.calls[0]? = some (.done (some (.persistFailed .sqlite))) ∧ AllOrNothing s := by
  obtain ⟨s, hrun, houtcome⟩ := Option.map_eq_some_iff.mp fanOutOutcome_undone
  simp only [Prod.mk.injEq] at houtcome
  exact ⟨s, hrun, houtcome.1, group_send_all_or_nothing fanOutCrates fanOutPolicy fanOutServer
    (by decide) (by decide) hrun⟩

end Example

end Clawdentity.Rust.Outbound
