import Clawdentity.Connector.Frames

/-!
# The outbound queue of the connector client

Frames wait in a list until a socket takes them. The client has a backend: the list of an earlier
run is loaded once and put before the frames that wait by then, and after every change the whole
list is saved, one save at a time. `load` is awaited before a socket is made, and before the first
save. A `load` that fails leaves the list as it is.

## Main definitions

* `validLoadedFrames`, `savedFrames` — the frames in a list of candidates.
* `Client`, `step` — the client with its queue, what its async code awaits, and the backend.
* `Client.sent`, `Client.restored`, `Client.enqueued` — what was done so far.
* `validLoadedFrames_eq` — `load` takes every valid frame of a list without repeated ids.
-/

namespace Clawdentity.Connector.OutboundQueue

open Js Lib

/-- A call of `enqueueOutbound`. -/
structure ConnectorOutboundEnqueueInput where
  toAgentDid : JsString
  payload : Option Value
  conversationId : Option JsString
  replyTo : Option JsString

/-- `loadPromise`, with whether `load` was fulfilled, which no code reads. -/
inductive LoadState
  | notCalled
  | pending
  /-- `loaded` is true. -/
  | settled (isFulfilled : Bool)
  deriving DecidableEq

/-- The job of `saveChain` that runs. -/
inductive SaveJob
  | ensuringLoaded
  /-- `save` is awaited, with the frames that it was called with. -/
  | saving (frames : List EnqueueFrame)

/-- The async code that `connect` and the timer for reconnections start, by what it awaits. -/
inductive Task
  /-- `connect` has called `ensureOutboundQueueLoaded`. -/
  | ensuringLoaded
  /-- `connectSocket` has called `ensureOutboundQueueLoaded`. -/
  | connecting
  /-- `connectSocket` awaits the headers of the connection. -/
  | resolvingHeaders
  | finished
  deriving DecidableEq

structure Client where
  started : Bool
  /-- The number of the current socket. -/
  socket : Option ℕ
  /-- How many sockets were made. -/
  sockets : ℕ
  tasks : List Task
  queue : List EnqueueFrame
  load : LoadState
  /-- How many jobs of `saveChain` wait. -/
  saveChain : ℕ
  saveJob : Option SaveJob
  /-- What the backend holds. -/
  stored : List Value
  /-- The frames that a socket took, those that `load` put into the queue, and those that
  `enqueueOutbound` put there. No code reads them. -/
  sent : List EnqueueFrame
  restored : List EnqueueFrame
  enqueued : List EnqueueFrame

/-- What the environment decides for a task that goes on. -/
inductive TaskChoice
  | loaded (sends : List Bool)
  /-- The headers are resolved or not, and `webSocketFactory` answers a socket or throws. -/
  | headers (isResolved isCreated : Bool)

/-- `sends` says, for each turn of the loop of a flush, whether the socket is open and takes the
frame. -/
inductive Event
  | connect
  | disconnect
  | enqueueOutbound (input : ConnectorOutboundEnqueueInput) (id ts : JsString) (sends : List Bool)
  /-- The timer of a reconnection calls `connectSocket`. -/
  | reconnect
  | task (i : ℕ) (choice : TaskChoice)
  | socketOpens (socket : ℕ) (sends : List Bool)
  /-- The socket is closed, fails or times out. -/
  | detachSocket (socket : ℕ)
  /-- `load` settles; one that answers no list is not fulfilled. -/
  | loadSettles (isFulfilled : Bool)
  | startSaveJob
  | callSave
  /-- `save` settles, having stored the frames or not. -/
  | saveSettles (isStored : Bool)

/-! ## The queue -/

section Code
variable (platform : Platform)

/-- `enqueueFrameSchema.safeParse`. -/
def enqueueFrameSchema (candidate : Value) : Option EnqueueFrame :=
  match parseFrame platform candidate with
  | some (.enqueue frame) => some frame
  | _ => none

/-- The valid frames of a list of candidates. -/
def savedFrames (candidates : List Value) : List EnqueueFrame :=
  candidates.filterMap (enqueueFrameSchema platform)

/-- The loop of `ensureLoaded`: the valid frames, without those whose id is there. -/
def validLoadedFrames : List JsString → List Value → List EnqueueFrame
  | _, [] => []
  | existingIds, candidate :: loadedFrames =>
      match enqueueFrameSchema platform candidate with
      | none => validLoadedFrames existingIds loadedFrames
      | some frame =>
          if frame.id ∈ existingIds then validLoadedFrames existingIds loadedFrames
          else frame :: validLoadedFrames (existingIds ++ [frame.id]) loadedFrames

def Client.isLoaded (s : Client) : Bool :=
  match s.load with
  | .settled _ => true
  | .notCalled | .pending => false

/-- `ensureLoaded`, up to what it awaits. -/
def Client.ensureLoaded (s : Client) : Client :=
  match s.load with
  | .notCalled => { s with load := .pending }
  | .pending | .settled _ => s

def Client.persist (s : Client) : Client := { s with saveChain := s.saveChain + 1 }

/-- The loop of `flush`. -/
def Client.sendLoop (s : Client) : List Bool → Client
  | [] | false :: _ => s
  | true :: sends =>
      match s.queue with
      | [] => s
      | nextFrame :: queue =>
          { s with queue, sent := s.sent ++ [nextFrame] }.persist.sendLoop sends

def Client.flush (s : Client) (sends : List Bool) : Client :=
  match s.socket with
  | none => s
  | some _ => s.sendLoop sends

/-- `load` has settled. -/
def Client.finishLoad (s : Client) (isFulfilled : Bool) : Client :=
  if isFulfilled then
    let restored := validLoadedFrames platform (s.queue.map fun item => item.id) s.stored
    { s with load := .settled true, queue := restored ++ s.queue, restored }
  else { s with load := .settled false }

/-! ## The client -/

/-- The frame of `enqueueOutbound`, unless the schema throws. -/
def outboundFrame (input : ConnectorOutboundEnqueueInput) (id ts : JsString) :
    Option EnqueueFrame :=
  EnqueueFrame.validate platform {
    id, ts
    toAgentDid := input.toAgentDid
    groupId := none
    payload := input.payload
    conversationId := input.conversationId
    replyTo := input.replyTo }

def Client.enqueue (s : Client) (frame : EnqueueFrame) : Client :=
  { s with queue := s.queue ++ [frame], enqueued := s.enqueued ++ [frame] }.persist

def Client.addTask (s : Client) (task : Task) : Client := { s with tasks := s.tasks ++ [task] }

/-- `connectSocket`, up to what it awaits. -/
def Client.connectSocket (s : Client) : Client := s.ensureLoaded.addTask .connecting

/-- `connectSocket` has its headers. -/
def Client.createSocket (s : Client) (isResolved isCreated : Bool) : Client :=
  if isResolved && s.started && isCreated then
    { s with socket := some s.sockets, sockets := s.sockets + 1 }
  else s

def Client.resumeTask (s : Client) (i : ℕ) : Task → TaskChoice → Option Client
  | .ensuringLoaded, .loaded sends =>
      if s.isLoaded then some { s.flush sends with tasks := s.tasks.set i .finished } else none
  | .connecting, .loaded sends =>
      if s.isLoaded then some { s.flush sends with tasks := s.tasks.set i .resolvingHeaders }
      else none
  | .resolvingHeaders, .headers isResolved isCreated =>
      some { s.createSocket isResolved isCreated with tasks := s.tasks.set i .finished }
  | _, _ => none

def step (s : Client) : Event → Option Client
  | .connect =>
      if s.started then some s
      else some ({ s with started := true }.ensureLoaded.addTask .ensuringLoaded).connectSocket
  | .disconnect => some { s with started := false, socket := none }
  | .enqueueOutbound input id ts sends =>
      match outboundFrame platform input id ts with
      | none => some s
      | some frame => some ((s.enqueue frame).flush sends)
  | .reconnect => some s.connectSocket
  | .task i choice => s.tasks[i]?.bind fun task => s.resumeTask i task choice
  | .socketOpens socket sends => if s.socket = some socket then some (s.flush sends) else some s
  | .detachSocket socket => if s.socket = some socket then some { s with socket := none } else some s
  | .loadSettles isFulfilled =>
      match s.load with
      | .pending => some (s.finishLoad platform isFulfilled)
      | .notCalled | .settled _ => none
  | .startSaveJob =>
      match s.saveJob, s.saveChain with
      | none, waiting + 1 =>
          some { s.ensureLoaded with saveChain := waiting, saveJob := some .ensuringLoaded }
      | _, _ => none
  | .callSave =>
      match s.saveJob with
      | some .ensuringLoaded =>
          if s.isLoaded then some { s with saveJob := some (.saving s.queue) } else none
      | some (.saving _) | none => none
  | .saveSettles isStored =>
      match s.saveJob with
      | some (.saving frames) => some { s with
          saveJob := none
          stored := if isStored then frames.map fun frame => (Frame.enqueue frame).toJson
            else s.stored }
      | some .ensuringLoaded | none => none

end Code

/-! ## Frames in the backend -/

section
variable {platform : Platform}

/-- A frame that the schema has answered is valid as it is. -/
theorem validate_of_validate {f g : EnqueueFrame} (h : f.validate platform = some g) :
    g.validate platform = some g := by
  obtain ⟨⟨hgroup, hconversation, hreply, hbase⟩, rfl⟩ := EnqueueFrame.validate_eq_some.mp h
  refine EnqueueFrame.validate_eq_some.mpr ⟨⟨hgroup, ?_, ?_, hbase⟩, ?_⟩
  · cases hvalue : f.conversationId with
    | none => rfl
    | some value => simpa [hvalue, isNonEmptyString] using hconversation
  · cases hvalue : f.replyTo with
    | none => rfl
    | some value => simpa [hvalue] using hreply
  · cases f.conversationId <;> cases f.replyTo <;> simp

theorem validate_of_schema {candidate : Value} {frame : EnqueueFrame}
    (h : enqueueFrameSchema platform candidate = some frame) :
    frame.validate platform = some frame := by
  unfold enqueueFrameSchema at h
  split at h
  · rename_i frame' hparse
    cases h
    obtain ⟨f, _, hvalid⟩ := Option.bind_eq_some_iff.mp hparse
    cases f with
    | enqueue f =>
      obtain ⟨g, hg, heq⟩ := Option.map_eq_some_iff.mp hvalid
      cases heq
      exact validate_of_validate hg
    | heartbeat base => simp [Frame.validate] at hvalid
    | heartbeatAck base ackId => simp [Frame.validate] at hvalid
    | deliver f => simp [Frame.validate] at hvalid
    | deliverAck f => simp [Frame.validate] at hvalid
    | enqueueAck f => simp [Frame.validate] at hvalid
    | receipt f => simp [Frame.validate] at hvalid
  · cases h

/-- A valid frame is read back. -/
theorem schema_toJson {frame : EnqueueFrame} (h : frame.validate platform = some frame) :
    enqueueFrameSchema platform (Frame.enqueue frame).toJson = some frame := by
  simp [enqueueFrameSchema, parseFrame, Frame.ofJson_toJson, Frame.validate, h]

/-- **Round trip.** The valid frames that are saved are loaded, in their order. -/
theorem savedFrames_toJson {frames : List EnqueueFrame}
    (h : ∀ frame ∈ frames, frame.validate platform = some frame) :
    savedFrames platform (frames.map fun frame => (Frame.enqueue frame).toJson) = frames := by
  induction frames with
  | nil => rfl
  | cons frame frames ih =>
    have hframe := schema_toJson (h frame List.mem_cons_self)
    have hrest := ih fun f hf => h f (List.mem_cons_of_mem frame hf)
    rw [savedFrames] at hrest ⊢
    rw [List.map_cons, List.filterMap_cons_some hframe, hrest]

/-- `load` takes every valid frame, where no id is there twice. -/
theorem validLoadedFrames_eq {candidates : List Value} {existingIds : List JsString}
    (h : (existingIds ++ (savedFrames platform candidates).map fun f => f.id).Nodup) :
    validLoadedFrames platform existingIds candidates = savedFrames platform candidates := by
  induction candidates generalizing existingIds with
  | nil => rfl
  | cons candidate candidates ih =>
    rw [validLoadedFrames, savedFrames]
    cases hframe : enqueueFrameSchema platform candidate with
    | none =>
      rw [savedFrames, List.filterMap_cons_none hframe] at h
      rw [List.filterMap_cons_none hframe]
      exact ih h
    | some frame =>
      rw [savedFrames, List.filterMap_cons_some hframe, List.map_cons] at h
      rw [List.filterMap_cons_some hframe]
      have hnew : frame.id ∉ existingIds := by
        intro hmem
        exact (List.nodup_append.mp h).2.2 _ hmem _ List.mem_cons_self rfl
      simp only [if_neg hnew]
      congr 1
      apply ih
      rwa [List.append_assoc, List.singleton_append]

end

end Clawdentity.Connector.OutboundQueue
