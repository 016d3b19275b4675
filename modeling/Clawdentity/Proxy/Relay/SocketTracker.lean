import Clawdentity.Connector.Frames
import Clawdentity.Lib.Table
import Mathlib.Data.Finset.Basic

/-!
# The sockets of a relay session

`RelaySocketTracker` keeps three maps over the sockets of a session: the sockets that it has
asked to close and that are not gone yet, the last acknowledgement of each socket, and the
socket of each heartbeat that is not answered. A socket is an object with an identity, so it
is a value of any type whose values can be compared.

Beside its maps the tracker keeps what it has passed to `closeSocket`, which no code reads.

## Main definitions

* `SocketTracker` — the maps, with their operations under the names of the source.
* `getActiveSockets` — the sockets that are neither closed nor stale.
* `handleRelayWebSocketMessage` — what a frame does to the tracker.
* `getActiveSockets_active` — the sockets that are answered, at once.
-/

namespace Clawdentity.Relay

open Js Lib Connector

/-- `RELAY_HEARTBEAT_ACK_TIMEOUT_MS`. -/
def RELAY_HEARTBEAT_ACK_TIMEOUT_MS : ℚ := 60000

/-- `RELAY_SOCKET_SUPERSEDED_CLOSE_CODE`. -/
def RELAY_SOCKET_SUPERSEDED_CLOSE_CODE : ℕ := 1000

/-- `RELAY_SOCKET_STALE_CLOSE_CODE`. -/
def RELAY_SOCKET_STALE_CLOSE_CODE : ℕ := 1011

/-- A call of `socket.close`. -/
structure SocketClose (W : Type) where
  socket : W
  code : ℕ
  reason : JsString
  deriving DecidableEq

structure SocketTracker (W : Type) where
  heartbeatAckSockets : Table JsString W
  socketLastAckAtMs : Table W ℚ
  socketsPendingClose : Finset W
  /-- The calls of `closeSocket` so far. -/
  closes : List (SocketClose W)

/-- A message of a socket: its size, and its frame if `parseFrame` does not throw. -/
structure SocketInput where
  frameBytes : ℕ
  frame : Option Frame

namespace SocketTracker
variable {W : Type} [DecidableEq W]

def empty : SocketTracker W := ⟨∅, ∅, ∅, []⟩

/-! ## The operations -/

def clearSocketHeartbeatAcks (t : SocketTracker W) (socket : W) : SocketTracker W :=
  { t with heartbeatAckSockets := t.heartbeatAckSockets.keep fun _ s => decide (s ≠ socket) }

def removeSocketTracking (t : SocketTracker W) (socket : W) : SocketTracker W :=
  { t with socketLastAckAtMs := t.socketLastAckAtMs.erase socket }.clearSocketHeartbeatAcks socket

def closeSocket (t : SocketTracker W) (socket : W) (code : ℕ) (reason : JsString) :
    SocketTracker W :=
  { t with
    socketsPendingClose := insert socket t.socketsPendingClose
    closes := t.closes ++ [SocketClose.mk socket code reason] }.removeSocketTracking socket

def touchSocketAck (t : SocketTracker W) (socket : W) (nowMs : ℚ) : SocketTracker W :=
  if socket ∈ t.socketsPendingClose then t
  else { t with socketLastAckAtMs := t.socketLastAckAtMs.insert socket nowMs }

/-- A heartbeat with its frame id, and whether `socket.send` does not throw. -/
def sendHeartbeatFrame (t : SocketTracker W) (socket : W) (frameId : JsString) (sendOk : Bool) :
    SocketTracker W :=
  let t := t.clearSocketHeartbeatAcks socket
  let sent := { t with heartbeatAckSockets := t.heartbeatAckSockets.insert frameId socket }
  if sendOk then sent
  else
    { sent with heartbeatAckSockets := sent.heartbeatAckSockets.erase frameId }.closeSocket socket
      RELAY_SOCKET_STALE_CLOSE_CODE (js "heartbeat_send_failed")

/-- The socket of the heartbeat is touched, or else the one that the answer came on. -/
def handleHeartbeatAck (t : SocketTracker W) (ackId : JsString) (fallbackSocket : W)
    (nowMs : ℚ) : SocketTracker W :=
  let ackedSocket := t.heartbeatAckSockets.lookup ackId
  { t with heartbeatAckSockets := t.heartbeatAckSockets.erase ackId }.touchSocketAck
    (ackedSocket.getD fallbackSocket) nowMs

def onSocketClosed (t : SocketTracker W) (socket : W) : SocketTracker W :=
  let t := t.removeSocketTracking socket
  { t with socketsPendingClose := t.socketsPendingClose.erase socket }

def resolveSocketLastAckAtMs (t : SocketTracker W) (socket : W) (nowMs : ℚ) :
    SocketTracker W × ℚ :=
  match t.socketLastAckAtMs.lookup socket with
  | some existing => (t, existing)
  | none => ({ t with socketLastAckAtMs := t.socketLastAckAtMs.insert socket nowMs }, nowMs)

/-- What is known of sockets that are not listed is forgotten. -/
def pruneSocketTracking (t : SocketTracker W) (sockets : List W) : SocketTracker W where
  heartbeatAckSockets := t.heartbeatAckSockets.keep fun _ s => decide (s ∈ sockets)
  socketLastAckAtMs := t.socketLastAckAtMs.keep fun s _ => decide (s ∈ sockets)
  socketsPendingClose := t.socketsPendingClose.filter fun s => s ∈ sockets
  closes := t.closes

/-- The loop of `getActiveSockets` at one socket. -/
def visitSocket (nowMs : ℚ) (r : SocketTracker W × List W) (socket : W) :
    SocketTracker W × List W :=
  if socket ∈ r.1.socketsPendingClose then r
  else
    let resolved := r.1.resolveSocketLastAckAtMs socket nowMs
    if RELAY_HEARTBEAT_ACK_TIMEOUT_MS < nowMs - resolved.2 then
      (resolved.1.closeSocket socket RELAY_SOCKET_STALE_CLOSE_CODE (js "heartbeat_ack_timeout"),
        r.2)
    else (resolved.1, r.2 ++ [socket])

def getActiveSockets (t : SocketTracker W) (sockets : List W) (nowMs : ℚ) :
    SocketTracker W × List W :=
  sockets.foldl (visitSocket nowMs) (t.pruneSocketTracking sockets, [])

/-! ## Messages -/

/-- `handleRelayWebSocketMessage`, up to its first await. -/
def handleRelayWebSocketMessage (t : SocketTracker W) (maxFrameBytes : ℕ) (ws : W)
    (message : SocketInput) (nowMs : ℚ) : SocketTracker W :=
  if maxFrameBytes < message.frameBytes then t.closeSocket ws 1009 (js "frame_too_large")
  else
    match message.frame with
    | none => t
    | some (.heartbeat _) => t.touchSocketAck ws nowMs
    | some (.deliverAck _) => t.touchSocketAck ws nowMs
    | some (.enqueue _) => t.touchSocketAck ws nowMs
    | some (.heartbeatAck _ ackId) => t.handleHeartbeatAck ackId ws nowMs
    | some (.deliver _) => t
    | some (.enqueueAck _) => t
    | some (.receipt _) => t

/-! ## What the operations change -/

/-- The sockets that were passed to `closeSocket`. -/
def closed (t : SocketTracker W) : List W := t.closes.map (·.socket)

/-- The socket was acknowledged too long ago. -/
def Stale (t : SocketTracker W) (nowMs : ℚ) (socket : W) : Prop :=
  ∃ lastAckAtMs ∈ t.socketLastAckAtMs.lookup socket,
    RELAY_HEARTBEAT_ACK_TIMEOUT_MS < nowMs - lastAckAtMs

instance (t : SocketTracker W) (nowMs : ℚ) (socket : W) : Decidable (t.Stale nowMs socket) :=
  inferInstanceAs (Decidable (∃ lastAckAtMs ∈ t.socketLastAckAtMs.lookup socket, _))

variable {t : SocketTracker W} {socket ws : W} {nowMs : ℚ}

@[simp] theorem removeSocketTracking_pending :
    (t.removeSocketTracking socket).socketsPendingClose = t.socketsPendingClose := rfl

@[simp] theorem removeSocketTracking_closes :
    (t.removeSocketTracking socket).closes = t.closes := rfl

@[simp] theorem closeSocket_pending (code : ℕ) (reason : JsString) :
    (t.closeSocket socket code reason).socketsPendingClose =
      insert socket t.socketsPendingClose := rfl

@[simp] theorem closeSocket_closed (code : ℕ) (reason : JsString) :
    (t.closeSocket socket code reason).closed = t.closed ++ [socket] := by
  simp [closed, closeSocket]

@[simp] theorem touchSocketAck_pending :
    (t.touchSocketAck socket nowMs).socketsPendingClose = t.socketsPendingClose := by
  unfold touchSocketAck
  split <;> rfl

@[simp] theorem touchSocketAck_closed : (t.touchSocketAck socket nowMs).closed = t.closed := by
  unfold touchSocketAck
  split <;> rfl

/-- An answer to a heartbeat closes nothing, whatever socket it names. -/
@[simp] theorem handleHeartbeatAck_pending (ackId : JsString) :
    (t.handleHeartbeatAck ackId ws nowMs).socketsPendingClose = t.socketsPendingClose :=
  touchSocketAck_pending

@[simp] theorem handleHeartbeatAck_closed (ackId : JsString) :
    (t.handleHeartbeatAck ackId ws nowMs).closed = t.closed :=
  touchSocketAck_closed

@[simp] theorem onSocketClosed_pending :
    (t.onSocketClosed socket).socketsPendingClose = t.socketsPendingClose.erase socket := rfl

@[simp] theorem onSocketClosed_closed : (t.onSocketClosed socket).closed = t.closed := rfl

@[simp] theorem onSocketClosed_lastAck :
    (t.onSocketClosed socket).socketLastAckAtMs.lookup socket = none :=
  AList.lookup_erase _ _

/-- The tracker has closed some more sockets: of those that are listed, they are pending now,
and none that was pending is not. -/
structure Marks (listed : List W) (t : SocketTracker W) (more : List W) (t' : SocketTracker W) :
    Prop where
  closed : t'.closed = t.closed ++ more
  kept : ∀ w ∈ listed, w ∈ t.socketsPendingClose → w ∈ t'.socketsPendingClose
  marked : ∀ w ∈ listed, w ∈ more → w ∈ t'.socketsPendingClose
  only : ∀ w ∈ t'.socketsPendingClose, w ∈ t.socketsPendingClose ∨ w ∈ more

section
variable {listed more more' : List W} {t' t'' : SocketTracker W}

omit [DecidableEq W] in
theorem Marks.none (hpending : t'.socketsPendingClose = t.socketsPendingClose)
    (hclosed : t'.closed = t.closed) : Marks listed t [] t' where
  closed := by rw [hclosed, List.append_nil]
  kept w _ hw := hpending ▸ hw
  marked w _ hw := absurd hw List.not_mem_nil
  only w hw := .inl (hpending ▸ hw)

omit [DecidableEq W] in
theorem Marks.trans (h : Marks listed t more t') (h' : Marks listed t' more' t'') :
    Marks listed t (more ++ more') t'' where
  closed := by rw [h'.closed, h.closed, List.append_assoc]
  kept w hw hpending := h'.kept w hw (h.kept w hw hpending)
  marked w hw hmore := by
    rcases List.mem_append.mp hmore with hmore | hmore
    · exact h'.kept w hw (h.marked w hw hmore)
    · exact h'.marked w hw hmore
  only w hw := by
    rcases h'.only w hw with hw | hw
    · exact (h.only w hw).imp_right (List.mem_append_left _)
    · exact .inr (List.mem_append_right _ hw)

omit [DecidableEq W] in
theorem Marks.of_same (hpending : t'.socketsPendingClose = t.socketsPendingClose)
    (hclosed : t'.closed = t.closed) (h : Marks listed t' more t'') :
    Marks listed t more t'' := by
  have h' := (Marks.none hpending hclosed).trans h
  rwa [List.nil_append] at h'

theorem closeSocket_marks (code : ℕ) (reason : JsString) :
    Marks listed t [socket] (t.closeSocket socket code reason) where
  closed := closeSocket_closed code reason
  kept _ _ hw := Finset.mem_insert_of_mem hw
  marked _ _ hw := List.mem_singleton.mp hw ▸ Finset.mem_insert_self _ _
  only _ hw := by
    rcases Finset.mem_insert.mp hw with rfl | hw
    · exact .inr List.mem_cons_self
    · exact .inl hw

/-- **A message** closes the socket that it came on, or none. -/
theorem handleRelayWebSocketMessage_marks (maxFrameBytes : ℕ) (message : SocketInput) :
    ∃ more, (∀ w ∈ more, w = ws) ∧
      Marks listed t more (t.handleRelayWebSocketMessage maxFrameBytes ws message nowMs) := by
  have htouch : ∀ ws : W, Marks listed t [] (t.touchSocketAck ws nowMs) :=
    fun ws => .none touchSocketAck_pending touchSocketAck_closed
  unfold handleRelayWebSocketMessage
  split
  · exact ⟨[ws], fun w hw => List.mem_singleton.mp hw, closeSocket_marks _ _⟩
  · refine ⟨[], fun w hw => absurd hw List.not_mem_nil, ?_⟩
    split
    · exact .none rfl rfl
    · exact htouch ws
    · exact htouch ws
    · exact htouch ws
    · exact .none (handleHeartbeatAck_pending _) (handleHeartbeatAck_closed _)
    · exact .none rfl rfl
    · exact .none rfl rfl
    · exact .none rfl rfl

/-- **A heartbeat** closes its socket if it cannot be sent. -/
theorem sendHeartbeatFrame_marks (frameId : JsString) (sendOk : Bool) :
    ∃ more, (∀ w ∈ more, w = socket) ∧
      Marks listed t more (t.sendHeartbeatFrame socket frameId sendOk) := by
  unfold sendHeartbeatFrame
  cases sendOk with
  | true => exact ⟨[], fun w hw => absurd hw List.not_mem_nil, .none rfl rfl⟩
  | false =>
      refine ⟨[socket], fun w hw => List.mem_singleton.mp hw, ?_⟩
      simp only [Bool.false_eq_true, if_false]
      refine .of_same ?_ ?_ (closeSocket_marks _ _)
      · rfl
      · rfl

omit [DecidableEq W] in
/-- Some code for each of some sockets closes at most these. -/
theorem foldl_marks {f : SocketTracker W → W → SocketTracker W}
    (hf : ∀ t socket, ∃ more, (∀ w ∈ more, w = socket) ∧ Marks listed t more (f t socket)) :
    ∀ (sockets : List W) (t : SocketTracker W),
      ∃ more, (∀ w ∈ more, w ∈ sockets) ∧ Marks listed t more (sockets.foldl f t) := by
  intro sockets
  induction sockets with
  | nil => exact fun t => ⟨[], fun w hw => absurd hw List.not_mem_nil, .none rfl rfl⟩
  | cons d sockets ih =>
      intro t
      obtain ⟨more, hmore, hmarks⟩ := hf t d
      obtain ⟨more', hmore', hmarks'⟩ := ih (f t d)
      refine ⟨more ++ more', fun w hw => ?_, hmarks.trans hmarks'⟩
      rcases List.mem_append.mp hw with hw | hw
      · exact hmore w hw ▸ List.mem_cons_self
      · exact List.mem_cons_of_mem d (hmore' w hw)

theorem foldl_closeSocket_marks (listed : List W) (code : ℕ) (reason : JsString) :
    ∀ (sockets : List W) (t : SocketTracker W),
      Marks listed t sockets (sockets.foldl (fun t socket => t.closeSocket socket code reason) t)
  | [], _ => .none rfl rfl
  | _ :: sockets, _ =>
      (closeSocket_marks code reason).trans (foldl_closeSocket_marks listed code reason sockets _)

end

/-! ## The active sockets -/

/-- The loop of `getActiveSockets` at a socket: it is closed already, it is stale and closed
now, or it is active. -/
inductive Visits (nowMs : ℚ) (t : SocketTracker W) (active : List W) (socket : W) :
    SocketTracker W × List W → Prop
  | closed (hpending : socket ∈ t.socketsPendingClose) : Visits nowMs t active socket (t, active)
  | stale {t' : SocketTracker W} (hpending : socket ∉ t.socketsPendingClose)
      (hstale : t.Stale nowMs socket)
      (hpending' : t'.socketsPendingClose = insert socket t.socketsPendingClose)
      (hclosed' : t'.closed = t.closed ++ [socket])
      (hothers : ∀ s, s ≠ socket → t'.socketLastAckAtMs.lookup s = t.socketLastAckAtMs.lookup s) :
      Visits nowMs t active socket (t', active)
  | active {t' : SocketTracker W} (hpending : socket ∉ t.socketsPendingClose)
      (hstale : ¬ t.Stale nowMs socket)
      (hpending' : t'.socketsPendingClose = t.socketsPendingClose)
      (hclosed' : t'.closed = t.closed)
      (hothers : ∀ s, s ≠ socket → t'.socketLastAckAtMs.lookup s = t.socketLastAckAtMs.lookup s) :
      Visits nowMs t active socket (t', active ++ [socket])

theorem visitSocket_visits (t : SocketTracker W) (nowMs : ℚ) (active : List W) (socket : W) :
    Visits nowMs t active socket (visitSocket nowMs (t, active) socket) := by
  unfold visitSocket
  by_cases hpending : socket ∈ t.socketsPendingClose
  · rw [if_pos hpending]
    exact .closed hpending
  rw [if_neg hpending]
  unfold resolveSocketLastAckAtMs
  cases hlookup : t.socketLastAckAtMs.lookup socket with
  | some lastAckAtMs =>
      have hiff : t.Stale nowMs socket ↔
          RELAY_HEARTBEAT_ACK_TIMEOUT_MS < nowMs - lastAckAtMs := by
        simp [Stale, hlookup]
      by_cases hstale : RELAY_HEARTBEAT_ACK_TIMEOUT_MS < nowMs - lastAckAtMs
      · simp only [if_pos hstale]
        exact .stale hpending (hiff.mpr hstale) rfl (closeSocket_closed _ _)
          fun s hs => AList.lookup_erase_ne hs
      · simp only [if_neg hstale]
        exact .active hpending (fun h => hstale (hiff.mp h)) rfl rfl fun _ _ => rfl
  | none =>
      have hstale : ¬ t.Stale nowMs socket := by simp [Stale, hlookup]
      have hnow : ¬ RELAY_HEARTBEAT_ACK_TIMEOUT_MS < nowMs - nowMs := by
        rw [sub_self, RELAY_HEARTBEAT_ACK_TIMEOUT_MS]
        decide
      simp only [if_neg hnow]
      exact .active hpending hstale rfl rfl fun s hs => AList.lookup_insert_ne hs

/-- What the loop of `getActiveSockets` has done with a list of sockets. -/
structure Visited (nowMs : ℚ) (t : SocketTracker W) (sockets active : List W)
    (r : SocketTracker W × List W) : Prop where
  active : r.2 = active ++
    sockets.filter fun s => decide (s ∉ t.socketsPendingClose ∧ ¬ t.Stale nowMs s)
  pending : ∀ s, s ∈ r.1.socketsPendingClose ↔
    s ∈ t.socketsPendingClose ∨ s ∈ sockets ∧ t.Stale nowMs s
  closed : r.1.closed = t.closed ++
    sockets.filter fun s => decide (s ∉ t.socketsPendingClose ∧ t.Stale nowMs s)

/-- **The loop of `getActiveSockets`**, whose sockets are different ones. -/
theorem foldl_visitSocket (nowMs : ℚ) {sockets : List W} (hnodup : sockets.Nodup) :
    ∀ (t : SocketTracker W) (active : List W),
      Visited nowMs t sockets active (sockets.foldl (visitSocket nowMs) (t, active)) := by
  induction sockets with
  | nil => exact fun t active => ⟨by simp, by simp, by simp⟩
  | cons d sockets ih =>
      intro t active
      obtain ⟨hd, hnodup⟩ := List.nodup_cons.mp hnodup
      have hne : ∀ s ∈ sockets, s ≠ d := fun s hs heq => hd (heq ▸ hs)
      rw [List.foldl_cons]
      have hvisit := visitSocket_visits t nowMs active d
      generalize visitSocket nowMs (t, active) d = r at hvisit ⊢
      have hpend : ∀ s, (s ∈ t.socketsPendingClose ∨ s ∈ d :: sockets ∧ t.Stale nowMs s) ↔
          (s ∈ t.socketsPendingClose ∨ s = d ∧ t.Stale nowMs d) ∨
            s ∈ sockets ∧ t.Stale nowMs s := by
        intro s
        by_cases hs : s = d
        · subst hs
          simp [hd]
        · simp [hs]
      cases hvisit with
      | closed hpending =>
          obtain ⟨hactive, hpending', hclosed⟩ := ih hnodup t active
          refine ⟨?_, fun s => ?_, ?_⟩
          · rw [hactive, List.filter_cons_of_neg (by simp [hpending])]
          · rw [hpending', hpend]
            refine or_congr_left ⟨.inl, ?_⟩
            rintro (h | ⟨rfl, _⟩)
            · exact h
            · exact hpending
          · rw [hclosed, List.filter_cons_of_neg (by simp [hpending])]
      | @stale t' hpending hstale hpending' hclosed' hothers =>
          obtain ⟨hactive, hpending'', hclosed⟩ := ih hnodup t' active
          have hsame : ∀ s ∈ sockets, (s ∉ t'.socketsPendingClose ↔ s ∉ t.socketsPendingClose) ∧
              (t'.Stale nowMs s ↔ t.Stale nowMs s) := by
            intro s hs
            refine ⟨?_, by rw [Stale, hothers s (hne s hs), Stale]⟩
            rw [hpending', Finset.mem_insert, not_or, and_iff_right (hne s hs)]
          refine ⟨?_, fun s => ?_, ?_⟩
          · rw [hactive, List.filter_cons_of_neg (by simp [hstale])]
            congr 1
            exact List.filter_congr fun s hs => decide_eq_decide.mpr
              (and_congr (hsame s hs).1 (not_congr (hsame s hs).2))
          · rw [hpending'', hpend, hpending', Finset.mem_insert]
            have hd' : s = d ∧ t.Stale nowMs d ↔ s = d := and_iff_left hstale
            rw [hd', or_comm (a := s = d)]
            refine or_congr_right (and_congr_right fun hs => (hsame s hs).2)
          · rw [hclosed, hclosed', List.filter_cons_of_pos (by simp [hpending, hstale]),
              List.append_assoc, List.singleton_append]
            congr 2
            exact List.filter_congr fun s hs => decide_eq_decide.mpr
              (and_congr (hsame s hs).1 (hsame s hs).2)
      | @active t' hpending hstale hpending' hclosed' hothers =>
          obtain ⟨hactive, hpending'', hclosed⟩ := ih hnodup t' (active ++ [d])
          have hsame : ∀ s ∈ sockets, (t'.Stale nowMs s ↔ t.Stale nowMs s) := by
            intro s hs
            rw [Stale, hothers s (hne s hs), Stale]
          refine ⟨?_, fun s => ?_, ?_⟩
          · rw [hactive, List.filter_cons_of_pos (by simp [hpending, hstale]),
              List.append_assoc, List.singleton_append]
            congr 2
            exact List.filter_congr fun s hs => decide_eq_decide.mpr
              (and_congr (hpending' ▸ Iff.rfl) (not_congr (hsame s hs)))
          · rw [hpending'', hpend, hpending']
            have hd' : s = d ∧ t.Stale nowMs d ↔ False := by simp [hstale]
            rw [hd', or_false]
            exact or_congr_right (and_congr_right fun hs => hsame s hs)
          · rw [hclosed, hclosed', List.filter_cons_of_neg (by simp [hstale])]
            congr 1
            exact List.filter_congr fun s hs => decide_eq_decide.mpr
              (and_congr (hpending' ▸ Iff.rfl) (hsame s hs))

/-- **`getActiveSockets`** answers the listed sockets that are neither closed nor stale, and
closes the stale ones. What is pending then was closed, and is listed. -/
theorem getActiveSockets_visited (t : SocketTracker W) (nowMs : ℚ) {sockets : List W}
    (hnodup : sockets.Nodup) :
    (t.getActiveSockets sockets nowMs).2 =
        sockets.filter (fun s => decide (s ∉ t.socketsPendingClose ∧ ¬ t.Stale nowMs s)) ∧
      (∀ s, s ∈ (t.getActiveSockets sockets nowMs).1.socketsPendingClose ↔
        s ∈ sockets ∧ (s ∈ t.socketsPendingClose ∨ t.Stale nowMs s)) ∧
      (t.getActiveSockets sockets nowMs).1.closed = t.closed ++
        sockets.filter (fun s => decide (s ∉ t.socketsPendingClose ∧ t.Stale nowMs s)) := by
  obtain ⟨hactive, hpending, hclosed⟩ := foldl_visitSocket nowMs hnodup
    (t.pruneSocketTracking sockets) []
  have hpruned : ∀ s ∈ sockets, (s ∈ (t.pruneSocketTracking sockets).socketsPendingClose ↔
      s ∈ t.socketsPendingClose) ∧
      ((t.pruneSocketTracking sockets).Stale nowMs s ↔ t.Stale nowMs s) := by
    intro s hs
    refine ⟨by simp [pruneSocketTracking, hs], ?_⟩
    have hlookup : (t.pruneSocketTracking sockets).socketLastAckAtMs.lookup s =
        t.socketLastAckAtMs.lookup s := Table.lookup_keep_eq fun _ _ => decide_eq_true hs
    rw [Stale, hlookup, Stale]
  refine ⟨?_, fun s => ?_, ?_⟩
  · rw [getActiveSockets, hactive, List.nil_append]
    exact List.filter_congr fun s hs => decide_eq_decide.mpr
      (and_congr (not_congr (hpruned s hs).1) (not_congr (hpruned s hs).2))
  · rw [getActiveSockets, hpending s]
    by_cases hs : s ∈ sockets
    · rw [(hpruned s hs).1, (hpruned s hs).2, and_iff_right hs, and_iff_right hs]
    · simp [pruneSocketTracking, hs]
  · rw [getActiveSockets, hclosed]
    exact congrArg _ (List.filter_congr fun s hs => decide_eq_decide.mpr
      (and_congr (not_congr (hpruned s hs).1) (hpruned s hs).2))

/-- `getActiveSockets` closes listed sockets. -/
theorem getActiveSockets_marks {sockets : List W} (hnodup : sockets.Nodup) :
    ∃ more, (∀ w ∈ more, w ∈ sockets) ∧
      Marks sockets t more (t.getActiveSockets sockets nowMs).1 := by
  obtain ⟨-, hpending, hclosed⟩ := getActiveSockets_visited t nowMs hnodup
  refine ⟨_, fun w hw => List.mem_of_mem_filter hw, hclosed, ?_, ?_, ?_⟩
  · exact fun w hw hold => (hpending w).mpr ⟨hw, .inl hold⟩
  · intro w hw hmore
    exact (hpending w).mpr ⟨hw, .inr (of_decide_eq_true (List.mem_filter.mp hmore).2).2⟩
  · intro w hw
    obtain ⟨hlisted, hold⟩ := (hpending w).mp hw
    by_cases hbefore : w ∈ t.socketsPendingClose
    · exact .inl hbefore
    · exact .inr (List.mem_filter.mpr ⟨hlisted,
        decide_eq_true ⟨hbefore, hold.resolve_left hbefore⟩⟩)

end SocketTracker

end Clawdentity.Relay
