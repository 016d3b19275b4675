import Clawdentity.Connector.OutboundQueue
import Clawdentity.Lib.Run
import Mathlib.Data.List.Nodup

/-!
# The frames of the outbound queue are kept and sent in order

In every run the frames that were sent, and those that wait after them, are the frames that `load`
put into the queue and then those of `enqueueOutbound`, each once. The frames of an earlier run stay
in the backend until they are sent, as long as no `save` is stored after a `load` that failed: such
a `save` has only the frames of this run.

## Main definitions

* `StoredQueue` — a backend as a run leaves it.
* `FreshId` — the ids of new frames are new.
* `SavesLoaded` — the condition on a step.
* `Ordered`, `Kept` — what the steps keep.
* `queued_frames_kept`.
-/

namespace Clawdentity.Connector.OutboundQueue

open Js Lib Lib.Run

def frameIds (frames : List EnqueueFrame) : List JsString := frames.map fun frame => frame.id

/-- A backend whose valid frames have different ids, such as every backend that a run leaves. -/
structure StoredQueue (platform : Platform) where
  candidates : List Value
  distinct : (frameIds (savedFrames platform candidates)).Nodup

/-- The valid frames of an earlier run. -/
def StoredQueue.frames {platform : Platform} (stored : StoredQueue platform) : List EnqueueFrame :=
  savedFrames platform stored.candidates

/-- The client before it is started. -/
def Client.startOf {platform : Platform} (stored : StoredQueue platform) : Client where
  started := false
  socket := none
  sockets := 0
  tasks := []
  queue := []
  load := .notCalled
  saveChain := 0
  saveJob := none
  stored := stored.candidates
  sent := []
  restored := []
  enqueued := []

section Code
variable (platform : Platform) (earlier : List EnqueueFrame)

/-- The id of a new frame is not that of a frame of an earlier run, or of this one. -/
def FreshId (s : Client) : Event → Prop
  | .enqueueOutbound _ id _ _ => id ∉ frameIds (earlier ++ s.enqueued)
  | _ => True

instance (s : Client) : ∀ e, Decidable (FreshId earlier s e)
  | .enqueueOutbound .. => inferInstanceAs (Decidable (_ ∉ _))
  | .connect | .disconnect | .reconnect | .task .. | .socketOpens .. | .detachSocket _
  | .loadSettles _ | .startSaveJob | .callSave | .saveSettles _ => isTrue trivial

/-- The frames that were sent and those that wait are the restored ones and then the enqueued ones,
in their order; none is missing, and none is there twice. -/
structure InOrder (s : Client) : Prop where
  order : s.sent ++ s.queue = s.restored ++ s.enqueued
  restored : s.restored = if s.load = .settled true then earlier else []
  once : (frameIds (s.sent ++ s.queue)).Nodup

/-- The frames of an earlier run are in the backend until they are sent. -/
def SavedKept (s : Client) : Prop :=
  ∀ frame ∈ earlier, frame ∉ s.sent → frame ∈ savedFrames platform s.stored

/-- The step leads to a state whose backend has the frames of an earlier run that are not sent. -/
def KeepsSaved (s : Client) (e : Event) : Prop :=
  ∀ t, step platform s e = some t → SavedKept platform earlier t

/-- The step does not store the queue of a client whose `load` has failed while there were frames of
an earlier run. -/
def SavesLoaded (s : Client) : Event → Prop
  | .saveSettles true =>
      ∀ frames, s.saveJob = some (.saving frames) → s.load = .settled false → earlier = []
  | _ => True

/-! ## The invariants -/

/-- What holds in every run. -/
structure Ordered (s : Client) : Prop where
  order : s.sent ++ s.queue = s.restored ++ s.enqueued
  restored : s.restored = if s.load = .settled true then earlier else []
  fresh : (frameIds (earlier ++ s.enqueued)).Nodup
  valid : ∀ frame ∈ earlier ++ s.enqueued, frame.validate platform = some frame
  saving : ∀ frames, s.saveJob = some (.saving frames) →
    ∀ frame ∈ frames, frame ∈ s.restored ++ s.enqueued
  /-- No socket is made and nothing is saved before `load` has settled. -/
  waits : s.isLoaded = false → s.socket = none ∧ .resolvingHeaders ∉ s.tasks ∧ s.sent = [] ∧
    (∀ frames, s.saveJob ≠ some (.saving frames)) ∧ savedFrames platform s.stored = earlier

/-- What holds as long as every save has the frames of the earlier run. -/
structure Kept (s : Client) : Prop where
  kept : SavedKept platform earlier s
  saving : ∀ frames, s.saveJob = some (.saving frames) → s.load = .settled true →
    ∀ frame ∈ earlier, frame ∉ s.sent → frame ∈ frames

end Code

/-! ## Operations -/

/-- The steps, by what they do. -/
inductive Stepped (platform : Platform) (s : Client) : Event → Client → Prop
  /-- The event does not concern the client as it is. -/
  | ignore (e : Event) : Stepped platform s e s
  | connect : Stepped platform s .connect
      ({ s with started := true }.ensureLoaded.addTask .ensuringLoaded).connectSocket
  | disconnect : Stepped platform s .disconnect { s with started := false, socket := none }
  | enqueueOutbound {input : ConnectorOutboundEnqueueInput} {id ts : JsString} {frame : EnqueueFrame}
      (hframe : outboundFrame platform input id ts = some frame) (sends : List Bool) :
      Stepped platform s (.enqueueOutbound input id ts sends) ((s.enqueue frame).flush sends)
  | reconnect : Stepped platform s .reconnect s.connectSocket
  | task {i : ℕ} {task : Task} {choice : TaskChoice} {t : Client}
      (htask : s.tasks[i]? = some task) (hresume : s.resumeTask i task choice = some t) :
      Stepped platform s (.task i choice) t
  | socketOpens (socket : ℕ) (sends : List Bool) :
      Stepped platform s (.socketOpens socket sends) (s.flush sends)
  | detachSocket (socket : ℕ) :
      Stepped platform s (.detachSocket socket) { s with socket := none }
  | loadSettles (hpending : s.load = .pending) (isFulfilled : Bool) :
      Stepped platform s (.loadSettles isFulfilled) (s.finishLoad platform isFulfilled)
  | startSaveJob (waiting : ℕ) : Stepped platform s .startSaveJob
      { s.ensureLoaded with saveChain := waiting, saveJob := some .ensuringLoaded }
  | callSave (hloaded : s.isLoaded = true) :
      Stepped platform s .callSave { s with saveJob := some (.saving s.queue) }
  | saveSettles {frames : List EnqueueFrame} (hjob : s.saveJob = some (.saving frames))
      (isStored : Bool) : Stepped platform s (.saveSettles isStored) { s with
        saveJob := none
        stored := if isStored then frames.map fun frame => (Frame.enqueue frame).toJson
          else s.stored }

section
variable {platform : Platform} {earlier : List EnqueueFrame} {s t : Client}

theorem stepped_of_step {e : Event} (hstep : step platform s e = some t) :
    Stepped platform s e t := by
  cases e with
  | connect =>
    simp only [step] at hstep
    split at hstep
    · cases hstep
      exact .ignore _
    · cases hstep
      exact .connect
  | disconnect =>
    cases hstep
    exact .disconnect
  | enqueueOutbound input id ts sends =>
    simp only [step] at hstep
    split at hstep
    · cases hstep
      exact .ignore _
    · rename_i frame hframe
      cases hstep
      exact .enqueueOutbound hframe sends
  | reconnect =>
    cases hstep
    exact .reconnect
  | task i choice =>
    obtain ⟨task, htask, hresume⟩ := Option.bind_eq_some_iff.mp hstep
    exact .task htask hresume
  | socketOpens socket sends =>
    simp only [step] at hstep
    split at hstep
    · cases hstep
      exact .socketOpens socket sends
    · cases hstep
      exact .ignore _
  | detachSocket socket =>
    simp only [step] at hstep
    split at hstep
    · cases hstep
      exact .detachSocket socket
    · cases hstep
      exact .ignore _
  | loadSettles isFulfilled =>
    simp only [step] at hstep
    split at hstep
    · rename_i hpending
      cases hstep
      exact .loadSettles hpending isFulfilled
    · cases hstep
    · cases hstep
  | startSaveJob =>
    simp only [step] at hstep
    split at hstep
    · rename_i waiting hjob hchain
      cases hstep
      exact .startSaveJob waiting
    · cases hstep
  | callSave =>
    simp only [step] at hstep
    split at hstep
    · obtain ⟨hloaded, heq⟩ := Option.ite_none_right_eq_some.mp hstep
      cases heq
      exact .callSave hloaded
    · cases hstep
    · cases hstep
  | saveSettles isStored =>
    simp only [step] at hstep
    split at hstep
    · rename_i frames hjob
      cases hstep
      exact .saveSettles hjob isStored
    · cases hstep
    · cases hstep

/-- A flush moves frames from the front of the queue to the end of those that were sent. -/
inductive Flushed (s : Client) : Client → Prop
  | intro (sent queue : List EnqueueFrame) (saveChain : ℕ)
      (hframes : sent ++ queue = s.sent ++ s.queue) (hsent : ∀ frame ∈ s.sent, frame ∈ sent) :
      Flushed s { s with sent, queue, saveChain }

/-- The flush after the first frame. -/
theorem Flushed.after_send {nextFrame : EnqueueFrame} {queue : List EnqueueFrame}
    (hqueue : s.queue = nextFrame :: queue)
    (h : Flushed { s with queue, sent := s.sent ++ [nextFrame] }.persist t) : Flushed s t := by
  cases h with
  | intro sent queue' saveChain hframes hsent =>
    refine .intro sent queue' saveChain ?_ ?_
    · rw [hframes, hqueue]
      simp [Client.persist]
    · intro frame hframe
      exact hsent frame (List.mem_append_left _ hframe)

theorem sendLoop_flushed (s : Client) (sends : List Bool) : Flushed s (s.sendLoop sends) := by
  induction sends generalizing s with
  | nil => exact .intro s.sent s.queue s.saveChain rfl fun _ h => h
  | cons isSent sends ih =>
    cases isSent with
    | false => exact .intro s.sent s.queue s.saveChain rfl fun _ h => h
    | true =>
      rw [Client.sendLoop]
      split
      · exact .intro s.sent s.queue s.saveChain rfl fun _ h => h
      · rename_i nextFrame queue hqueue
        exact (ih _).after_send hqueue

theorem flush_flushed (s : Client) (sends : List Bool) : Flushed s (s.flush sends) := by
  rw [Client.flush]
  split
  · exact .intro s.sent s.queue s.saveChain rfl fun _ h => h
  · exact sendLoop_flushed s sends

theorem Flushed.isLoaded_eq (h : Flushed s t) : t.isLoaded = s.isLoaded := by
  cases h
  rfl

theorem flush_of_no_socket (h : s.socket = none) (sends : List Bool) : s.flush sends = s := by
  rw [Client.flush, h]

theorem Ordered.flushed (h : Ordered platform earlier s) (hflush : Flushed s t)
    (hloaded : s.isLoaded = true) : Ordered platform earlier t := by
  cases hflush with
  | intro sent queue saveChain hframes hsent =>
    refine ⟨hframes.trans h.order, h.restored, h.fresh, h.valid, h.saving, ?_⟩
    intro hwaits
    exact absurd (hloaded.symm.trans hwaits) (by simp)

theorem Ordered.flush (h : Ordered platform earlier s) (sends : List Bool) :
    Ordered platform earlier (s.flush sends) := by
  cases hloaded : s.isLoaded with
  | false => rwa [flush_of_no_socket (h.waits hloaded).1]
  | true => exact h.flushed (flush_flushed s sends) hloaded

theorem Ordered.ensureLoaded (h : Ordered platform earlier s) :
    Ordered platform earlier s.ensureLoaded := by
  rw [Client.ensureLoaded]
  split
  · rename_i hload
    refine ⟨h.order, ?_, h.fresh, h.valid, h.saving, fun _ => h.waits (by rw [Client.isLoaded, hload])⟩
    have hrestored := h.restored
    rw [hload] at hrestored
    exact hrestored
  · exact h
  · exact h

/-- The tasks may change, but before `load` has settled none of them has its socket to make. -/
theorem Ordered.setTasks (h : Ordered platform earlier s) (tasks : List Task)
    (htasks : s.isLoaded = false → .resolvingHeaders ∉ s.tasks → .resolvingHeaders ∉ tasks) :
    Ordered platform earlier { s with tasks } := by
  refine ⟨h.order, h.restored, h.fresh, h.valid, h.saving, ?_⟩
  intro hwaits
  obtain ⟨hsocket, hnone, hrest⟩ := h.waits hwaits
  exact ⟨hsocket, htasks hwaits hnone, hrest⟩

theorem Ordered.addTask (h : Ordered platform earlier s) {task : Task}
    (htask : task ≠ .resolvingHeaders) : Ordered platform earlier (s.addTask task) := by
  apply h.setTasks
  intro _ hnone hmem
  rcases List.mem_append.mp hmem with hmem | hmem
  · exact hnone hmem
  · exact htask (List.mem_singleton.mp hmem).symm

theorem Ordered.connectSocket (h : Ordered platform earlier s) :
    Ordered platform earlier s.connectSocket :=
  h.ensureLoaded.addTask (by simp)

/-- A socket may be gone, or made once `load` has settled. -/
theorem Ordered.setSocket (h : Ordered platform earlier s) (started : Bool) (socket : Option ℕ)
    (sockets : ℕ) (hsocket : s.isLoaded = false → socket = none) :
    Ordered platform earlier { s with started, socket, sockets } := by
  refine ⟨h.order, h.restored, h.fresh, h.valid, h.saving, ?_⟩
  intro hwaits
  obtain ⟨_, hrest⟩ := h.waits hwaits
  exact ⟨hsocket hwaits, hrest⟩

theorem Ordered.enqueue (h : Ordered platform earlier s) {frame : EnqueueFrame}
    (hvalid : frame.validate platform = some frame)
    (hfresh : frame.id ∉ frameIds (earlier ++ s.enqueued)) :
    Ordered platform earlier (s.enqueue frame) := by
  constructor
  · simp only [Client.enqueue, Client.persist, ← List.append_assoc, h.order]
  · exact h.restored
  · change (frameIds (earlier ++ (s.enqueued ++ [frame]))).Nodup
    rw [← List.append_assoc, frameIds, List.map_append]
    refine List.nodup_append.mpr ⟨h.fresh, List.nodup_singleton _, ?_⟩
    intro a ha b hb hab
    rw [List.map_singleton, List.mem_singleton] at hb
    exact hfresh (hb ▸ hab ▸ ha)
  · intro f hf
    change f ∈ earlier ++ (s.enqueued ++ [frame]) at hf
    rw [← List.append_assoc] at hf
    rcases List.mem_append.mp hf with hf | hf
    · exact h.valid f hf
    · rwa [List.mem_singleton.mp hf]
  · intro frames hsaving f hf
    rcases List.mem_append.mp (h.saving frames hsaving f hf) with hf | hf
    · exact List.mem_append_left _ hf
    · exact List.mem_append_right _ (List.mem_append_left _ hf)
  · exact h.waits

/-- A save goes on: it has frames of the client once `load` has settled. -/
theorem Ordered.setSave (h : Ordered platform earlier s) (saveChain : ℕ) (saveJob : Option SaveJob)
    (stored : List Value) (hstored : s.isLoaded = false → stored = s.stored)
    (hsaving : ∀ frames, saveJob = some (.saving frames) → s.isLoaded = true ∧
      ∀ frame ∈ frames, frame ∈ s.restored ++ s.enqueued) :
    Ordered platform earlier { s with saveChain, saveJob, stored } := by
  refine ⟨h.order, h.restored, h.fresh, h.valid, fun frames hjob => (hsaving frames hjob).2, ?_⟩
  intro hwaits
  obtain ⟨hsocket, htasks, hsent, _, hsaved⟩ := h.waits hwaits
  refine ⟨hsocket, htasks, hsent, ?_, ?_⟩
  · intro frames hjob
    exact absurd ((hsaving frames hjob).1.symm.trans hwaits) (by simp)
  · change savedFrames platform stored = earlier
    rwa [hstored hwaits]

/-- `load` answers the frames of the earlier run, as the queue has other ids. -/
theorem Ordered.loaded_eq (h : Ordered platform earlier s) (hwaits : s.isLoaded = false) :
    validLoadedFrames platform (s.queue.map fun item => item.id) s.stored = earlier := by
  obtain ⟨_, _, hsent, _, hsaved⟩ := h.waits hwaits
  have hrestored : s.restored = [] := by
    rw [h.restored, if_neg]
    intro hload
    rw [Client.isLoaded, hload] at hwaits
    cases hwaits
  have hqueue : s.queue = s.enqueued := by
    have horder := h.order
    rwa [hsent, hrestored, List.nil_append, List.nil_append] at horder
  have hfresh := h.fresh
  rw [frameIds, List.map_append] at hfresh
  rw [validLoadedFrames_eq, hsaved]
  rw [hsaved, hqueue]
  exact List.perm_append_comm.nodup_iff.mp hfresh

theorem Ordered.finishLoad (h : Ordered platform earlier s) (hpending : s.load = .pending)
    (isFulfilled : Bool) : Ordered platform earlier (s.finishLoad platform isFulfilled) := by
  have hwaits : s.isLoaded = false := by rw [Client.isLoaded, hpending]
  obtain ⟨_, _, hsent, hjob, _⟩ := h.waits hwaits
  have hrestored := h.restored
  rw [hpending, if_neg (by simp)] at hrestored
  have horder := h.order
  cases isFulfilled with
  | false =>
    refine ⟨horder, ?_, h.fresh, h.valid, h.saving, nofun⟩
    rw [if_neg (by simp [Client.finishLoad])]
    exact hrestored
  | true =>
    have hloaded := h.loaded_eq hwaits
    rw [hsent, hrestored, List.nil_append, List.nil_append] at horder
    refine ⟨?_, ?_, h.fresh, h.valid, fun frames hsaving => absurd hsaving (hjob frames), nofun⟩
    · simp only [Client.finishLoad, if_true, hsent, horder, List.nil_append]
    · simp only [Client.finishLoad, if_true, hloaded]

/-- Once `load` has settled a flush and the tasks after it change as they like. -/
theorem Ordered.flushTasks (h : Ordered platform earlier s) (hloaded : s.isLoaded = true)
    (sends : List Bool) (tasks : List Task) :
    Ordered platform earlier { s.flush sends with tasks } := by
  apply (h.flush sends).setTasks
  intro hwaits
  rw [(flush_flushed s sends).isLoaded_eq, hloaded] at hwaits
  cases hwaits

theorem Ordered.resumeTask (h : Ordered platform earlier s) {i : ℕ} {task : Task}
    {choice : TaskChoice} (htask : s.tasks[i]? = some task)
    (hresume : s.resumeTask i task choice = some t) : Ordered platform earlier t := by
  cases task with
  | ensuringLoaded =>
    cases choice with
    | loaded sends =>
      obtain ⟨hloaded, heq⟩ := Option.ite_none_right_eq_some.mp hresume
      cases heq
      exact h.flushTasks hloaded sends _
    | headers isResolved isCreated => cases hresume
  | connecting =>
    cases choice with
    | loaded sends =>
      obtain ⟨hloaded, heq⟩ := Option.ite_none_right_eq_some.mp hresume
      cases heq
      exact h.flushTasks hloaded sends _
    | headers isResolved isCreated => cases hresume
  | resolvingHeaders =>
    cases choice with
    | loaded sends => cases hresume
    | headers isResolved isCreated =>
      cases hresume
      -- the task had to wait for `load`
      have hloaded : s.isLoaded = true := by
        by_contra hwaits
        rw [Bool.not_eq_true] at hwaits
        exact (h.waits hwaits).2.1 (List.mem_of_getElem? htask)
      have hwaits : s.isLoaded ≠ false := by simp [hloaded]
      rw [Client.createSocket]
      split
      · exact (h.setSocket s.started (some s.sockets) (s.sockets + 1)
          fun hfalse => absurd hfalse hwaits).setTasks _ fun hfalse => absurd hfalse hwaits
      · exact h.setTasks _ fun hfalse => absurd hfalse hwaits
  | finished => cases choice <;> cases hresume

theorem ordered_step (h : Ordered platform earlier s) {e : Event} (hfresh : FreshId earlier s e)
    (hstep : step platform s e = some t) : Ordered platform earlier t := by
  cases stepped_of_step hstep with
  | ignore => exact h
  | connect =>
    have hstarted := h.setSocket true s.socket s.sockets fun hwaits => (h.waits hwaits).1
    exact (hstarted.ensureLoaded.addTask (by simp)).connectSocket
  | disconnect => exact h.setSocket false none s.sockets fun _ => rfl
  | @enqueueOutbound input id ts frame hframe sends =>
    have hvalid := validate_of_validate hframe
    have hid : frame.id = id := by
      obtain ⟨_, rfl⟩ := EnqueueFrame.validate_eq_some.mp hframe
      rfl
    exact (h.enqueue hvalid (hid ▸ hfresh)).flush sends
  | reconnect => exact h.connectSocket
  | task htask hresume => exact h.resumeTask htask hresume
  | socketOpens socket sends => exact h.flush sends
  | detachSocket socket => exact h.setSocket s.started none s.sockets fun _ => rfl
  | loadSettles hpending isFulfilled => exact h.finishLoad hpending isFulfilled
  | startSaveJob waiting =>
    exact h.ensureLoaded.setSave waiting (some .ensuringLoaded) _ (fun _ => rfl) nofun
  | callSave hloaded =>
    refine h.setSave s.saveChain (some (.saving s.queue)) s.stored (fun _ => rfl) ?_
    intro frames hframes
    cases hframes
    refine ⟨hloaded, ?_⟩
    intro frame hframe
    rw [← h.order]
    exact List.mem_append_right _ hframe
  | @saveSettles frames hjob isStored =>
    refine h.setSave s.saveChain none _ ?_ nofun
    intro hwaits
    exact absurd hjob ((h.waits hwaits).2.2.2.1 frames)

/-! ## The frames of the earlier run -/

/-- A step that saves nothing: the backend and the save stay as they are, and no frame that was
sent is forgotten. -/
structure Calm (s t : Client) : Prop where
  stored : t.stored = s.stored
  saveJob : t.saveJob = s.saveJob
  load : t.load = .settled true → s.load = .settled true
  sent : ∀ frame ∈ s.sent, frame ∈ t.sent

theorem Calm.refl (s : Client) : Calm s s := ⟨rfl, rfl, id, fun _ h => h⟩

theorem Calm.trans {u : Client} (h : Calm s t) (h' : Calm t u) : Calm s u :=
  ⟨h'.stored.trans h.stored, h'.saveJob.trans h.saveJob, fun hload => h.load (h'.load hload),
    fun frame hframe => h'.sent frame (h.sent frame hframe)⟩

theorem Flushed.calm (h : Flushed s t) : Calm s t := by
  cases h with
  | intro sent queue saveChain hframes hsent => exact ⟨rfl, rfl, id, hsent⟩

theorem calm_ensureLoaded (s : Client) : Calm s s.ensureLoaded := by
  rw [Client.ensureLoaded]
  split
  · exact ⟨rfl, rfl, nofun, fun _ h => h⟩
  · exact .refl s
  · exact .refl s

theorem calm_addTask (s : Client) (task : Task) : Calm s (s.addTask task) :=
  ⟨rfl, rfl, id, fun _ h => h⟩

theorem calm_connectSocket (s : Client) : Calm s s.connectSocket :=
  (calm_ensureLoaded s).trans (calm_addTask _ _)

theorem calm_resumeTask {i : ℕ} {task : Task} {choice : TaskChoice}
    (h : s.resumeTask i task choice = some t) : Calm s t := by
  have hflush : ∀ (sends : List Bool) (tasks : List Task), Calm s { s.flush sends with tasks } := by
    intro sends tasks
    exact (flush_flushed s sends).calm.trans ⟨rfl, rfl, id, fun _ h => h⟩
  cases task with
  | ensuringLoaded | connecting =>
    cases choice with
    | loaded sends =>
      obtain ⟨_, heq⟩ := Option.ite_none_right_eq_some.mp h
      cases heq
      exact hflush sends _
    | headers isResolved isCreated => cases h
  | resolvingHeaders =>
    cases choice with
    | loaded sends => cases h
    | headers isResolved isCreated =>
      cases h
      rw [Client.createSocket]
      split
      · exact ⟨rfl, rfl, id, fun _ h => h⟩
      · exact ⟨rfl, rfl, id, fun _ h => h⟩
  | finished => cases choice <;> cases h

theorem Kept.calm (h : Kept platform earlier s) (hcalm : Calm s t) : Kept platform earlier t := by
  constructor
  · intro frame hframe hunsent
    rw [hcalm.stored]
    exact h.kept frame hframe fun hsent => hunsent (hcalm.sent frame hsent)
  · intro frames hjob hload frame hframe hunsent
    rw [hcalm.saveJob] at hjob
    exact h.saving frames hjob (hcalm.load hload) frame hframe fun hsent =>
      hunsent (hcalm.sent frame hsent)

/-- Before a save the frames that were not sent are in the queue. -/
theorem Ordered.mem_queue (h : Ordered platform earlier s) (hload : s.load = .settled true)
    {frame : EnqueueFrame} (hframe : frame ∈ earlier) (hunsent : frame ∉ s.sent) :
    frame ∈ s.queue := by
  have hmem : frame ∈ s.sent ++ s.queue := by
    rw [h.order, h.restored, if_pos hload]
    exact List.mem_append_left _ hframe
  exact (List.mem_append.mp hmem).resolve_left hunsent

/-- The frames of a save are read back. -/
theorem Ordered.savedFrames_saving (h : Ordered platform earlier s) {frames : List EnqueueFrame}
    (hjob : s.saveJob = some (.saving frames)) :
    savedFrames platform (frames.map fun frame => (Frame.enqueue frame).toJson) = frames := by
  apply savedFrames_toJson
  intro frame hframe
  apply h.valid
  rcases List.mem_append.mp (h.saving frames hjob frame hframe) with hmem | hmem
  · rw [h.restored] at hmem
    split at hmem
    · exact List.mem_append_left _ hmem
    · cases hmem
  · exact List.mem_append_right _ hmem

/-- A save that is stored has the frames of the earlier run that are not sent, exactly if `load` has
not failed while there were some. -/
theorem Ordered.saved_iff (hord : Ordered platform earlier s) (h : Kept platform earlier s)
    {frames : List EnqueueFrame} (hjob : s.saveJob = some (.saving frames)) :
    (∀ frame ∈ earlier, frame ∉ s.sent → frame ∈ frames) ↔
      (s.load = .settled false → earlier = []) := by
  constructor
  · intro hsaved hload
    have hrestored := hord.restored
    rw [hload, if_neg (by simp)] at hrestored
    have hother : ∀ frame ∈ earlier, frame ∉ s.restored ++ s.enqueued := by
      intro frame hframe hmem
      rw [hrestored, List.nil_append] at hmem
      have hfresh := hord.fresh
      rw [frameIds, List.map_append] at hfresh
      exact (List.nodup_append.mp hfresh).2.2 _ (List.mem_map_of_mem hframe) _
        (List.mem_map_of_mem hmem) rfl
    rw [List.eq_nil_iff_forall_not_mem]
    intro frame hframe
    apply hother frame hframe
    apply hord.saving frames hjob
    apply hsaved frame hframe
    intro hsent
    apply hother frame hframe
    rw [← hord.order]
    exact List.mem_append_left _ hsent
  · intro hload frame hframe hunsent
    cases hstate : s.load with
    | settled isFulfilled =>
      cases isFulfilled with
      | true => exact h.saving frames hjob hstate frame hframe hunsent
      | false =>
        rw [hload hstate] at hframe
        cases hframe
    | notCalled | pending =>
      have hwaits : s.isLoaded = false := by rw [Client.isLoaded, hstate]
      exact absurd hjob ((hord.waits hwaits).2.2.2.1 frames)

theorem kept_step (hord : Ordered platform earlier s) (h : Kept platform earlier s) {e : Event}
    (hok : SavesLoaded earlier s e) (hstep : step platform s e = some t) :
    Kept platform earlier t := by
  cases stepped_of_step hstep with
  | ignore => exact h
  | connect =>
    have hstarted : Calm s { s with started := true } := ⟨rfl, rfl, id, fun _ h => h⟩
    exact h.calm (((hstarted.trans (calm_ensureLoaded _)).trans (calm_addTask _ _)).trans
      (calm_connectSocket _))
  | disconnect => exact h.calm ⟨rfl, rfl, id, fun _ h => h⟩
  | @enqueueOutbound input id ts frame hframe sends =>
    have henqueue : Calm s (s.enqueue frame) := ⟨rfl, rfl, fun hload => hload, fun _ h => h⟩
    exact h.calm (henqueue.trans (flush_flushed _ sends).calm)
  | reconnect => exact h.calm (calm_connectSocket s)
  | task htask hresume => exact h.calm (calm_resumeTask hresume)
  | socketOpens socket sends => exact h.calm (flush_flushed s sends).calm
  | detachSocket socket => exact h.calm ⟨rfl, rfl, id, fun _ h => h⟩
  | loadSettles hpending isFulfilled =>
    have hwaits : s.isLoaded = false := by rw [Client.isLoaded, hpending]
    have hjob := (hord.waits hwaits).2.2.2.1
    cases isFulfilled with
    | true => exact ⟨h.kept, fun frames hsaving => absurd hsaving (hjob frames)⟩
    | false => exact ⟨h.kept, fun frames hsaving => absurd hsaving (hjob frames)⟩
  | startSaveJob waiting =>
    have hensured := h.calm (calm_ensureLoaded s)
    exact ⟨hensured.kept, nofun⟩
  | callSave hloaded =>
    refine ⟨h.kept, ?_⟩
    intro frames hframes hload frame hframe hunsent
    cases hframes
    exact hord.mem_queue hload hframe hunsent
  | @saveSettles frames hjob isStored =>
    refine ⟨?_, nofun⟩
    cases isStored with
    | false => exact h.kept
    | true =>
      intro frame hframe hunsent
      change frame ∈ savedFrames platform (frames.map fun frame => (Frame.enqueue frame).toJson)
      rw [hord.savedFrames_saving hjob]
      exact (hord.saved_iff h hjob).mpr (hok frames hjob) frame hframe hunsent

/-- A save of the frames of this run alone loses those of the earlier run. -/
theorem savesLoaded_of_keepsSaved (hord : Ordered platform earlier s) (h : Kept platform earlier s)
    {e : Event} (hkeeps : KeepsSaved platform earlier s e) : SavesLoaded earlier s e := by
  unfold SavesLoaded
  split
  · intro frames hjob
    apply (hord.saved_iff h hjob).mp
    intro frame hframe hunsent
    have hstep : step platform s (.saveSettles true) = some { s with
        saveJob := none
        stored := frames.map fun frame => (Frame.enqueue frame).toJson } := by
      simp only [step, hjob, if_true]
    have hsaved := hkeeps _ hstep frame hframe hunsent
    rwa [hord.savedFrames_saving hjob] at hsaved
  · trivial

theorem ordered_startOf (stored : StoredQueue platform) :
    Ordered platform stored.frames (Client.startOf stored) := by
  refine ⟨rfl, rfl, ?_, ?_, nofun, fun _ => ⟨rfl, nofun, rfl, nofun, rfl⟩⟩
  · exact (List.append_nil stored.frames).symm ▸ stored.distinct
  · intro frame hframe
    rw [Client.startOf, List.append_nil] at hframe
    obtain ⟨candidate, _, hcandidate⟩ := List.mem_filterMap.mp hframe
    exact validate_of_schema hcandidate

theorem kept_startOf (stored : StoredQueue platform) :
    Kept platform stored.frames (Client.startOf stored) :=
  ⟨fun _ hframe _ => hframe, nofun⟩

theorem Ordered.inOrder (h : Ordered platform earlier s) : InOrder earlier s := by
  refine ⟨h.order, h.restored, ?_⟩
  have hsub : (s.restored ++ s.enqueued).Sublist (earlier ++ s.enqueued) := by
    rw [h.restored]
    split
    · exact List.Sublist.refl _
    · exact List.sublist_append_right _ _
  rw [h.order]
  exact h.fresh.sublist (hsub.map _)

end

section Code
variable (platform : Platform)

/-- **Queued frames are kept.** From any backend that a run has left, in every run whose new ids are
new, with calls, tasks, loads and saves in any order and failing anywhere: the frames are sent in
the order loaded, then enqueued, each one is sent or waits, and none is sent twice. The frames of
the earlier run are in the backend until they are sent, all along, exactly if no `save` is stored
after a `load` that failed while there were some. -/
theorem queued_frames_kept (stored : StoredQueue platform) (events : List Event)
    (hfresh : AllSteps (step platform) (FreshId stored.frames) (.startOf stored) events) :
    (∀ t, exec (step platform) (.startOf stored) events = some t → InOrder stored.frames t) ∧
      (AllSteps (step platform) (KeepsSaved platform stored.frames) (.startOf stored) events ↔
        AllSteps (step platform) (SavesLoaded stored.frames) (.startOf stored) events) := by
  have hord := ordered_startOf stored
  have hstep : ∀ s e t, Ordered platform stored.frames s ∧ Kept platform stored.frames s →
      FreshId stored.frames s e → SavesLoaded stored.frames s e → step platform s e = some t →
      Ordered platform stored.frames t ∧ Kept platform stored.frames t := by
    intro s e t h hid hloads hstep
    exact ⟨ordered_step h.1 hid hstep, kept_step h.1 h.2 hloads hstep⟩
  refine ⟨?_, ?_, ?_⟩
  · intro t hrun
    exact (exec_invariant (Ordered platform stored.frames)
      (fun _ _ _ h hok hstep => ordered_step h hok hstep) hord hfresh hrun).inOrder
  · intro hkeeps
    refine allSteps_of_invariant (fun s => Ordered platform stored.frames s ∧
      Kept platform stored.frames s) ?_ ?_ ⟨hord, kept_startOf stored⟩ (allSteps_and hfresh hkeeps)
    · intro s e t h hok
      exact hstep s e t h hok.1 (savesLoaded_of_keepsSaved h.1 h.2 hok.2)
    · intro s e h hok
      exact savesLoaded_of_keepsSaved h.1 h.2 hok.2
  · intro hloads
    refine allSteps_of_invariant (fun s => Ordered platform stored.frames s ∧
      Kept platform stored.frames s) ?_ ?_ ⟨hord, kept_startOf stored⟩ (allSteps_and hfresh hloads)
    · intro s e t h hok
      exact hstep s e t h hok.1 hok.2
    · intro s e h hok t ht
      exact (hstep s e t h hok.1 hok.2 ht).2.kept

end Code

/-! ### A load, and a save after it -/

def examplePlatform : Platform := ⟨fun _ => true, fun _ => true⟩

def exampleFrame (id : JsString) : EnqueueFrame where
  id := id
  ts := js "2024-01-01T00:00:00Z"
  toAgentDid := js "did:cdi:a.b:agent:01HF7YAT01M5H6RVQ6Q6N1W30X"
  groupId := none
  payload := none
  conversationId := none
  replyTo := none

def exampleId : JsString := js "01HF7YAT01M5H6RVQ6Q6N1W30A"

def exampleNewId : JsString := js "01HF7YAT01M5H6RVQ6Q6N1W30B"

theorem exampleFrame_valid {id : JsString} (hid : Protocol.isUlid id = true) :
    (exampleFrame id).validate examplePlatform = some (exampleFrame id) := by
  have hts : isIsoTimestamp (js "2024-01-01T00:00:00Z") = true := by decide
  have hdid : Protocol.isAgentDid (js "did:cdi:a.b:agent:01HF7YAT01M5H6RVQ6Q6N1W30X") = true := by
    decide
  refine EnqueueFrame.validate_eq_some.mpr ⟨⟨rfl, rfl, rfl, ?_⟩, rfl⟩
  simp [exampleFrame, FrameBase.isValid, hid, hts, hdid, examplePlatform]

theorem exampleFrames_saved :
    savedFrames examplePlatform [(Frame.enqueue (exampleFrame exampleId)).toJson] =
      [exampleFrame exampleId] := by
  refine @savedFrames_toJson _ [exampleFrame exampleId] ?_
  intro frame hframe
  rw [List.mem_singleton.mp hframe]
  exact exampleFrame_valid (by decide)

/-- A backend with one frame. -/
def exampleStored : StoredQueue examplePlatform where
  candidates := [(Frame.enqueue (exampleFrame exampleId)).toJson]
  distinct := by
    rw [exampleFrames_saved]
    exact List.nodup_singleton exampleId

/-- A frame is enqueued, and its save begins once `load` has settled. -/
def exampleEvents (isFulfilled : Bool) : List Event :=
  [.enqueueOutbound ⟨(exampleFrame exampleNewId).toAgentDid, none, none, none⟩ exampleNewId
    (js "2024-01-01T00:00:00Z") [], .startSaveJob, .loadSettles isFulfilled, .callSave]

/-- The client after the events. -/
def exampleClient (restored : List EnqueueFrame) (isFulfilled : Bool) : Client :=
  { Client.startOf exampleStored with
    queue := restored ++ [exampleFrame exampleNewId]
    load := .settled isFulfilled
    saveJob := some (.saving (restored ++ [exampleFrame exampleNewId]))
    restored := restored
    enqueued := [exampleFrame exampleNewId] }

theorem exampleEvents_exec (isFulfilled : Bool) :
    exec (step examplePlatform) (.startOf exampleStored) (exampleEvents isFulfilled) =
      some (exampleClient (if isFulfilled then [exampleFrame exampleId] else []) isFulfilled) := by
  have hframe : outboundFrame examplePlatform
      ⟨(exampleFrame exampleNewId).toAgentDid, none, none, none⟩ exampleNewId
      (js "2024-01-01T00:00:00Z") = some (exampleFrame exampleNewId) :=
    exampleFrame_valid (by decide)
  have hloaded : validLoadedFrames examplePlatform [exampleNewId] exampleStored.candidates =
      [exampleFrame exampleId] := by
    have hsaved : savedFrames examplePlatform exampleStored.candidates = [exampleFrame exampleId] :=
      exampleFrames_saved
    rw [validLoadedFrames_eq, hsaved]
    rw [hsaved]
    decide
  have hid : (exampleFrame exampleNewId).id = exampleNewId := rfl
  cases isFulfilled <;>
    simp [exampleEvents, exec, step, hframe, hid, hloaded, Client.enqueue, Client.flush,
      Client.startOf, Client.ensureLoaded, Client.persist, Client.finishLoad, Client.isLoaded,
      exampleClient]

theorem exampleBackend_fresh (isFulfilled : Bool) :
    AllSteps (step examplePlatform) (FreshId exampleStored.frames) (.startOf exampleStored)
      (exampleEvents isFulfilled ++ [.saveSettles true]) := by
  have hsaved : exampleStored.frames = [exampleFrame exampleId] := exampleFrames_saved
  refine ⟨?_, fun t _ => allSteps_of_forall ?_ t⟩
  · rw [FreshId, hsaved]
    decide
  · intro e he s
    change e ∈ [.startSaveJob, .loadSettles isFulfilled, .callSave, .saveSettles true] at he
    simp only [List.mem_cons, List.not_mem_nil, or_false] at he
    rcases he with rfl | rfl | rfl | rfl <;> trivial

/-- A save after a load that was fulfilled keeps the frame of the earlier run. -/
theorem exampleBackend_kept :
    AllSteps (step examplePlatform) (KeepsSaved examplePlatform exampleStored.frames)
      (.startOf exampleStored) (exampleEvents true ++ [.saveSettles true]) := by
  apply (queued_frames_kept examplePlatform exampleStored _ (exampleBackend_fresh true)).2.mpr
  refine allSteps_append.mpr ⟨allSteps_of_forall ?_ _, ?_⟩
  · intro e he s
    simp only [exampleEvents, List.mem_cons, List.not_mem_nil, or_false] at he
    rcases he with rfl | rfl | rfl | rfl <;> trivial
  · intro t ht
    rw [exampleEvents_exec] at ht
    cases ht
    exact ⟨nofun, fun _ _ => trivial⟩

theorem not_queued_frames_kept :
    ¬∀ (platform : Platform) (stored : StoredQueue platform) (events : List Event),
      AllSteps (step platform) (FreshId stored.frames) (.startOf stored) events →
        (∀ t, exec (step platform) (.startOf stored) events = some t → InOrder stored.frames t) ∧
          AllSteps (step platform) (KeepsSaved platform stored.frames) (.startOf stored) events := by
  intro h
  obtain ⟨_, hkeeps⟩ := h examplePlatform exampleStored _ (exampleBackend_fresh false)
  have hlast := (allSteps_append.mp hkeeps).2 _ (exampleEvents_exec false)
  have hsaved : exampleStored.frames = [exampleFrame exampleId] := exampleFrames_saved
  have hkept := hlast.1 _ rfl (exampleFrame exampleId) (by rw [hsaved]; exact List.mem_singleton_self _)
    nofun
  change _ ∈ savedFrames examplePlatform
    ([exampleFrame exampleNewId].map fun frame => (Frame.enqueue frame).toJson) at hkept
  rw [savedFrames_toJson, List.mem_singleton] at hkept
  · revert hkept
    decide
  · intro frame hframe
    rw [List.mem_singleton.mp hframe]
    exact exampleFrame_valid (by decide)

end Clawdentity.Connector.OutboundQueue
