import Clawdentity.Lib.Run
import Clawdentity.Proxy.Relay.SocketTracker

/-!
# The live socket of a relay session

A connector that connects again replaces its socket: the session closes the sockets that are
active and accepts the new one, while the runtime goes on listing a closed socket until it
reports that the socket is closed. Frames, answers to heartbeats and failed sends arrive in
any order meanwhile. An error of a socket is handled as if it were its end, so the session
forgets that it has closed the socket; where the runtime still lists it, it comes back.

## Main definitions

* `SocketSession` — the tracker, the sockets that the runtime lists, and those it accepted.
* `SocketEvent` — what happens to a session.
* `Live` — at most one socket is active, the last one.
* `Reported` — an error does not leave a closed socket listed.
* `one_live_socket` — under that condition, and only under it, every run keeps `Live`.
-/

namespace Clawdentity.Relay

open Js Lib Lib.Run

/-! ## Sessions -/

structure SocketSession (W : Type) where
  tracker : SocketTracker W
  /-- `state.getWebSockets()`. -/
  listed : List W
  /-- The sockets that were accepted, in their order. -/
  accepted : List W

/-- What happens to a session. -/
inductive SocketEvent (W : Type)
  /-- A connector connects; the runtime has made a new socket. -/
  | connect (server : W) (nowMs : ℚ)
  | message (ws : W) (message : SocketInput) (nowMs : ℚ)
  /-- The heartbeats of `alarm`, with the id of each frame and whether it can be sent. -/
  | alarm (nowMs : ℚ) (frameId : W → JsString) (sendOk : W → Bool)
  /-- Some other code asks for the active sockets. -/
  | activeSockets (nowMs : ℚ)
  /-- The runtime reports that a socket is closed. -/
  | close (ws : W)
  /-- The runtime reports an error of a socket, and may go on listing it. -/
  | error (ws : W) (listed : Bool)

namespace SocketSession
variable {W : Type} [DecidableEq W]

def start : SocketSession W := ⟨.empty, [], []⟩

def getActiveSockets (s : SocketSession W) (nowMs : ℚ) : SocketSession W × List W :=
  let r := s.tracker.getActiveSockets s.listed nowMs
  ({ s with tracker := r.1 }, r.2)

/-- `handleConnect`, after its checks of the request. -/
def handleConnect (s : SocketSession W) (server : W) (nowMs : ℚ) : SocketSession W :=
  let r := s.getActiveSockets nowMs
  let tracker := r.2.foldl (fun t socket => t.closeSocket socket
    RELAY_SOCKET_SUPERSEDED_CLOSE_CODE (js "superseded_by_new_connection")) r.1.tracker
  { tracker := tracker.touchSocketAck server nowMs
    listed := s.listed ++ [server]
    accepted := s.accepted ++ [server] }

/-- The heartbeats of `alarm`. -/
def sendHeartbeats (s : SocketSession W) (nowMs : ℚ) (frameId : W → JsString)
    (sendOk : W → Bool) : SocketSession W :=
  let r := s.getActiveSockets nowMs
  let tracker := r.2.foldl
    (fun t socket => t.sendHeartbeatFrame socket (frameId socket) (sendOk socket)) r.1.tracker
  { r.1 with tracker := tracker }

/-- The socket is not listed any more. -/
def unlist (s : SocketSession W) (ws : W) : SocketSession W :=
  { s with listed := s.listed.filter fun w => decide (w ≠ ws) }

/-- `webSocketClose`. -/
def webSocketClose (s : SocketSession W) (ws : W) : SocketSession W :=
  { s with tracker := s.tracker.onSocketClosed ws }

/-- `webSocketError` is `webSocketClose`. -/
def webSocketError (s : SocketSession W) (ws : W) : SocketSession W := s.webSocketClose ws

/-- One event. A connection has a new socket, and only an accepted socket has others. -/
def step (maxFrameBytes : ℕ) (s : SocketSession W) : SocketEvent W → Option (SocketSession W)
  | .connect server nowMs =>
      if server ∈ s.accepted then none else some (s.handleConnect server nowMs)
  | .message ws message nowMs =>
      if ws ∈ s.accepted then
        some { s with tracker :=
          s.tracker.handleRelayWebSocketMessage maxFrameBytes ws message nowMs }
      else none
  | .alarm nowMs frameId sendOk => some (s.sendHeartbeats nowMs frameId sendOk)
  | .activeSockets nowMs => some (s.getActiveSockets nowMs).1
  | .close ws => if ws ∈ s.accepted then some ((s.unlist ws).webSocketClose ws) else none
  | .error ws listed =>
      if ws ∈ s.accepted then
        some ((if listed then s else s.unlist ws).webSocketError ws)
      else none

/-- The last socket that was accepted, if neither the runtime nor the session has closed it. -/
def lastOpen (s : SocketSession W) : Option W :=
  s.accepted.getLast?.filter fun w => decide (w ∈ s.listed ∧ w ∉ s.tracker.closed)

/-- **At most one socket is active**: the last one, unless it was closed. No socket that the
session has closed is active. -/
structure Live (s : SocketSession W) (nowMs : ℚ) : Prop where
  single : (s.getActiveSockets nowMs).2.length ≤ 1
  last : (s.getActiveSockets nowMs).2 = (s.getActiveSockets nowMs).1.lastOpen.toList
  never : ∀ w ∈ s.tracker.closed, w ∉ (s.getActiveSockets nowMs).2

/-- The runtime does not go on listing a socket after an error, if the session has asked to
close it. -/
def Reported (s : SocketSession W) : SocketEvent W → Prop
  | .error ws true => ¬ (ws ∈ s.listed ∧ ws ∈ s.tracker.socketsPendingClose)
  | _ => True

/-! ## Invariants -/

/-- What holds in every run. -/
structure Kept (s : SocketSession W) : Prop where
  nodup : s.listed.Nodup
  listed : ∀ w ∈ s.listed, w ∈ s.accepted
  pending : ∀ w ∈ s.tracker.socketsPendingClose, w ∈ s.tracker.closed
  closed : ∀ w ∈ s.tracker.closed, w ∈ s.accepted

/-- Of the listed sockets, all but the last one are pending, and all that were closed. -/
structure Superseded (s : SocketSession W) : Prop where
  others : ∀ w ∈ s.listed, s.accepted.getLast? ≠ some w → w ∈ s.tracker.socketsPendingClose
  marked : ∀ w ∈ s.listed, w ∈ s.tracker.closed → w ∈ s.tracker.socketsPendingClose

variable {s : SocketSession W} {nowMs : ℚ} {maxFrameBytes : ℕ}

omit [DecidableEq W] in
/-- Some sockets are closed. -/
theorem Kept.marks {t : SocketTracker W} {more : List W} (hs : s.Kept)
    (hmore : ∀ w ∈ more, w ∈ s.accepted) (h : SocketTracker.Marks s.listed s.tracker more t) :
    Kept { s with tracker := t } where
  nodup := hs.nodup
  listed := hs.listed
  pending w hw := by
    rw [h.closed]
    exact (h.only w hw).elim (fun hw => List.mem_append_left _ (hs.pending w hw))
      (List.mem_append_right _)
  closed w hw := by
    rw [h.closed] at hw
    exact (List.mem_append.mp hw).elim (hs.closed w) (hmore w)

omit [DecidableEq W] in
theorem Superseded.marks {t : SocketTracker W} {more : List W} (hs : s.Superseded)
    (h : SocketTracker.Marks s.listed s.tracker more t) :
    Superseded { s with tracker := t } where
  others w hw hlast := h.kept w hw (hs.others w hw hlast)
  marked w hw hclosed := by
    rw [h.closed] at hclosed
    exact (List.mem_append.mp hclosed).elim (fun hclosed => h.kept w hw (hs.marked w hw hclosed))
      (h.marked w hw)

/-! ## Events -/

/-- Some code has made the session of another tracker. -/
theorem getActiveSockets_marks (nowMs : ℚ) (hs : s.Kept) :
    ∃ more, (∀ w ∈ more, w ∈ s.listed) ∧
      SocketTracker.Marks s.listed s.tracker more (s.getActiveSockets nowMs).1.tracker :=
  SocketTracker.getActiveSockets_marks hs.nodup

/-- Every active socket is listed. -/
theorem listed_of_active (hs : s.Kept) {w : W} (hw : w ∈ (s.getActiveSockets nowMs).2) :
    w ∈ s.listed := by
  have hactive := (SocketTracker.getActiveSockets_visited s.tracker nowMs hs.nodup).1
  have hw' : w ∈ (s.tracker.getActiveSockets s.listed nowMs).2 := hw
  rw [hactive] at hw'
  exact List.mem_of_mem_filter hw'

/-- Every listed socket is active, or it is to be closed. -/
theorem active_or_pending (nowMs : ℚ) (hs : s.Kept) {w : W} (hw : w ∈ s.listed) :
    w ∈ (s.getActiveSockets nowMs).2 ∨
      w ∈ (s.getActiveSockets nowMs).1.tracker.socketsPendingClose := by
  obtain ⟨hactive, hpending, -⟩ := SocketTracker.getActiveSockets_visited s.tracker nowMs
    hs.nodup
  by_cases hold : w ∈ s.tracker.socketsPendingClose ∨ s.tracker.Stale nowMs w
  · exact .inr ((hpending w).mpr ⟨hw, hold⟩)
  · refine .inl (hactive ▸ List.mem_filter.mpr ⟨hw, decide_eq_true ?_⟩)
    exact not_or.mp hold

theorem sendHeartbeats_marks (hs : s.Kept) (frameId : W → JsString) (sendOk : W → Bool) :
    ∃ more, (∀ w ∈ more, w ∈ s.listed) ∧ SocketTracker.Marks s.listed s.tracker more
      (s.sendHeartbeats nowMs frameId sendOk).tracker := by
  obtain ⟨more, hmore, hmarks⟩ := getActiveSockets_marks nowMs hs
  obtain ⟨more', hmore', hmarks'⟩ := SocketTracker.foldl_marks
    (fun t socket => SocketTracker.sendHeartbeatFrame_marks (frameId socket) (sendOk socket))
    (s.getActiveSockets nowMs).2 (s.getActiveSockets nowMs).1.tracker
  refine ⟨more ++ more', fun w hw => ?_, hmarks.trans hmarks'⟩
  rcases List.mem_append.mp hw with hw | hw
  · exact hmore w hw
  · exact listed_of_active hs (hmore' w hw)

/-- **A connection** closes every socket that is listed. -/
theorem handleConnect_marks (nowMs : ℚ) (hs : s.Kept) (server : W) :
    ∃ more, (∀ w ∈ more, w ∈ s.listed) ∧
      SocketTracker.Marks s.listed s.tracker more (s.handleConnect server nowMs).tracker ∧
      ∀ w ∈ s.listed, w ∈ (s.handleConnect server nowMs).tracker.socketsPendingClose := by
  obtain ⟨more, hmore, hmarks⟩ := getActiveSockets_marks nowMs hs
  have hsuperseded : SocketTracker.Marks s.listed (s.getActiveSockets nowMs).1.tracker
      (s.getActiveSockets nowMs).2 (s.handleConnect server nowMs).tracker := by
    have hall := SocketTracker.foldl_closeSocket_marks s.listed
      RELAY_SOCKET_SUPERSEDED_CLOSE_CODE (js "superseded_by_new_connection")
      (s.getActiveSockets nowMs).2 (s.getActiveSockets nowMs).1.tracker
    rw [← List.append_nil (s.getActiveSockets nowMs).2]
    exact hall.trans (.none SocketTracker.touchSocketAck_pending
      SocketTracker.touchSocketAck_closed)
  refine ⟨more ++ (s.getActiveSockets nowMs).2, fun w hw => ?_, hmarks.trans hsuperseded,
    fun w hw => ?_⟩
  · exact (List.mem_append.mp hw).elim (hmore w) (listed_of_active hs)
  · rcases active_or_pending nowMs hs hw with hactive | hpending
    · exact hsuperseded.marked w hw hactive
    · exact hsuperseded.kept w hw hpending

/-- A new socket is listed and accepted. -/
theorem Kept.connect (hs : s.Kept) {server : W} (hnew : server ∉ s.accepted) :
    (s.handleConnect server nowMs).Kept := by
  obtain ⟨more, hmore, hmarks, -⟩ := handleConnect_marks nowMs hs server
  have hkept := hs.marks (fun w hw => hs.listed w (hmore w hw)) hmarks
  refine ⟨?_, ?_, hkept.pending, fun w hw => List.mem_append_left _ (hkept.closed w hw)⟩
  · have hunlisted : server ∉ s.listed := fun hlisted => hnew (hs.listed server hlisted)
    have hnodup := hs.nodup.concat hunlisted
    rwa [List.concat_eq_append] at hnodup
  · intro w hw
    exact (List.mem_append.mp hw).elim (fun hw => List.mem_append_left _ (hs.listed w hw))
      (List.mem_append_right _)

theorem Superseded.connect (hs : s.Kept) {server : W} (hnew : server ∉ s.accepted) :
    (s.handleConnect server nowMs).Superseded := by
  obtain ⟨more, hmore, hmarks, hall⟩ := handleConnect_marks nowMs hs server
  have hkept := hs.marks (fun w hw => hs.listed w (hmore w hw)) hmarks
  refine ⟨fun w hw hlast => ?_, fun w hw hclosed => ?_⟩
  · rcases List.mem_append.mp hw with hw | hw
    · exact hall w hw
    · rw [List.mem_singleton.mp hw] at hlast
      exact absurd List.getLast?_concat hlast
  · rcases List.mem_append.mp hw with hw | hw
    · exact hall w hw
    · rw [List.mem_singleton.mp hw] at hclosed
      exact absurd (hkept.closed server hclosed) hnew

theorem Kept.unlist (hs : s.Kept) (ws : W) : (s.unlist ws).Kept where
  nodup := hs.nodup.filter _
  listed w hw := hs.listed w (List.mem_of_mem_filter hw)
  pending := hs.pending
  closed := hs.closed

/-- A socket that the session does not hear of any more is not listed. -/
theorem Superseded.unlist (hs : s.Superseded) (ws : W) : (s.unlist ws).Superseded where
  others w hw hlast := hs.others w (List.mem_of_mem_filter hw) hlast
  marked w hw hclosed := hs.marked w (List.mem_of_mem_filter hw) hclosed

theorem Kept.webSocketClose (hs : s.Kept) (ws : W) : (s.webSocketClose ws).Kept where
  nodup := hs.nodup
  listed := hs.listed
  pending w hw := hs.pending w (Finset.mem_of_mem_erase hw)
  closed := hs.closed

/-- The end of a socket that is not listed, or that is not pending. -/
theorem Superseded.webSocketClose (hs : s.Superseded) {ws : W}
    (hws : ¬ (ws ∈ s.listed ∧ ws ∈ s.tracker.socketsPendingClose)) :
    (s.webSocketClose ws).Superseded := by
  have hkept : ∀ w ∈ s.listed, w ∈ s.tracker.socketsPendingClose →
      w ∈ (s.webSocketClose ws).tracker.socketsPendingClose := by
    intro w hw hpending
    refine Finset.mem_erase.mpr ⟨?_, hpending⟩
    rintro rfl
    exact hws ⟨hw, hpending⟩
  exact ⟨fun w hw hlast => hkept w hw (hs.others w hw hlast),
    fun w hw hclosed => hkept w hw (hs.marked w hw hclosed)⟩

theorem not_listed_unlist (s : SocketSession W) (ws : W) : ws ∉ (s.unlist ws).listed := by
  simp [SocketSession.unlist]

/-- **What an event does**: a new socket supersedes the others, some accepted sockets are
closed, or the session forgets a socket that the runtime does not list, or still lists. -/
inductive Happens (s : SocketSession W) : SocketEvent W → SocketSession W → Prop
  | connect {server : W} {nowMs : ℚ} (hnew : server ∉ s.accepted) :
      Happens s (.connect server nowMs) (s.handleConnect server nowMs)
  | closes {e : SocketEvent W} {t : SocketTracker W} {more : List W}
      (hmore : ∀ w ∈ more, w ∈ s.accepted)
      (hmarks : SocketTracker.Marks s.listed s.tracker more t) :
      Happens s e { s with tracker := t }
  | gone {e : SocketEvent W} (ws : W) : Happens s e ((s.unlist ws).webSocketClose ws)
  | error {ws : W} : Happens s (.error ws true) (s.webSocketClose ws)

theorem step_happens {s' : SocketSession W} {e : SocketEvent W} (hs : s.Kept)
    (h : s.step maxFrameBytes e = some s') : s.Happens e s' := by
  cases e with
  | connect server nowMs =>
      simp only [step] at h
      split at h
      · cases h
      · rename_i hnew
        cases h
        exact .connect hnew
  | message ws message nowMs =>
      simp only [step] at h
      split at h
      · rename_i hws
        cases h
        obtain ⟨more, hmore, hmarks⟩ :=
          SocketTracker.handleRelayWebSocketMessage_marks (W := W) maxFrameBytes message
        exact .closes (fun w hw => hmore w hw ▸ hws) hmarks
      · cases h
  | alarm nowMs frameId sendOk =>
      cases h
      obtain ⟨more, hmore, hmarks⟩ := sendHeartbeats_marks hs frameId sendOk
      exact .closes (fun w hw => hs.listed w (hmore w hw)) hmarks
  | activeSockets nowMs =>
      cases h
      obtain ⟨more, hmore, hmarks⟩ := getActiveSockets_marks nowMs hs
      exact .closes (fun w hw => hs.listed w (hmore w hw)) hmarks
  | close ws =>
      simp only [step] at h
      split at h
      · cases h
        exact .gone ws
      · cases h
  | error ws listed =>
      simp only [step] at h
      split at h
      · cases h
        cases listed with
        | true => exact .error
        | false => exact .gone ws
      · cases h

/-- **One event** of any run. -/
theorem kept_step {s' : SocketSession W} {e : SocketEvent W} (hs : s.Kept)
    (h : s.step maxFrameBytes e = some s') : s'.Kept := by
  cases step_happens hs h with
  | connect hnew => exact hs.connect hnew
  | closes hmore hmarks => exact hs.marks hmore hmarks
  | gone ws => exact (hs.unlist ws).webSocketClose ws
  | error => exact hs.webSocketClose _

/-- **One event** where no closed socket stays listed after an error. -/
theorem superseded_step {s' : SocketSession W} {e : SocketEvent W} (hk : s.Kept)
    (hs : s.Superseded) (hreported : s.Reported e) (h : s.step maxFrameBytes e = some s') :
    s'.Superseded := by
  cases step_happens hk h with
  | connect hnew => exact .connect hk hnew
  | closes hmore hmarks => exact hs.marks hmarks
  | gone ws =>
      exact (hs.unlist ws).webSocketClose fun h => not_listed_unlist s ws h.1
  | error => exact hs.webSocketClose hreported

omit [DecidableEq W] in
theorem kept_start : (start : SocketSession W).Kept :=
  ⟨List.nodup_nil, fun _ hw => absurd hw List.not_mem_nil,
    fun _ hw => absurd hw (Finset.notMem_empty _), fun _ hw => absurd hw List.not_mem_nil⟩

omit [DecidableEq W] in
theorem superseded_start : (start : SocketSession W).Superseded :=
  ⟨fun _ hw => absurd hw List.not_mem_nil, fun _ hw => absurd hw List.not_mem_nil⟩

/-! ## The active socket -/

/-- Of a list of different values, a test that at most one value passes leaves at most that
one. -/
theorem filter_eq_toList {l : List W} (hnodup : l.Nodup) {p : W → Bool}
    (last : Option W) (hp : ∀ w ∈ l, p w = true → last = some w) :
    l.filter p = (last.filter fun w => decide (w ∈ l) && p w).toList := by
  cases last with
  | none =>
      rw [Option.filter_none, Option.toList_none, List.filter_eq_nil_iff]
      exact fun w hw h => absurd (hp w hw h) (by simp)
  | some w =>
      have honly : ∀ x ∈ l, p x = true → x = w := fun x hx h => (Option.some.inj (hp x hx h)).symm
      by_cases hw : w ∈ l ∧ p w = true
      · have hsame : ∀ x ∈ l, p x = decide (x = w) := by
          intro x hx
          by_cases hx' : x = w
          · rw [hx', hw.2, decide_eq_true rfl]
          · rw [decide_eq_false hx', Bool.eq_false_iff]
            exact fun h => hx' (honly x hx h)
        rw [List.filter_congr hsame, List.filter_eq, List.count_eq_one_of_mem hnodup hw.1]
        rw [Option.filter_some, if_pos (by rw [decide_eq_true hw.1, hw.2]; rfl)]
        rfl
      · have hnone : ∀ x ∈ l, ¬ p x = true := by
          intro x hx h
          have heq := honly x hx h
          exact hw ⟨heq ▸ hx, heq ▸ h⟩
        rw [List.filter_eq_nil_iff.mpr hnone]
        symm
        simpa using hw

/-- **At most one socket is active**, where the others are to be closed. -/
theorem Superseded.live (hk : s.Kept) (hs : s.Superseded) (nowMs : ℚ) : s.Live nowMs := by
  obtain ⟨hactive, hpending, hclosed⟩ := SocketTracker.getActiveSockets_visited s.tracker nowMs
    hk.nodup
  have hopen : ∀ w ∈ s.listed, (w ∉ s.tracker.socketsPendingClose ∧ ¬ s.tracker.Stale nowMs w ↔
      w ∉ (s.getActiveSockets nowMs).1.tracker.closed) := by
    intro w hw
    change _ ↔ w ∉ (s.tracker.getActiveSockets s.listed nowMs).1.closed
    rw [hclosed, List.mem_append, List.mem_filter, decide_eq_true_eq]
    constructor
    · rintro ⟨hnot, hfresh⟩ (h | ⟨_, _, hstale⟩)
      · exact hnot (hs.marked w hw h)
      · exact hfresh hstale
    · intro h
      have hnot : w ∉ s.tracker.socketsPendingClose := fun hp => h (.inl (hk.pending w hp))
      exact ⟨hnot, fun hstale => h (.inr ⟨hw, hnot, hstale⟩)⟩
  have hlast : (s.getActiveSockets nowMs).2 = (s.getActiveSockets nowMs).1.lastOpen.toList := by
    change (s.tracker.getActiveSockets s.listed nowMs).2 = _
    rw [hactive, filter_eq_toList hk.nodup s.accepted.getLast?]
    · unfold lastOpen
      congr 2
      funext w
      change (decide (w ∈ s.listed) && decide _) = decide (w ∈ s.listed ∧ _)
      rw [← Bool.decide_and]
      exact decide_eq_decide.mpr (and_congr_right (hopen w))
    · intro w hw h
      by_contra hother
      exact (of_decide_eq_true h).1 (hs.others w hw hother)
  refine ⟨?_, hlast, ?_⟩
  · rw [hlast]
    exact Option.length_toList_le
  · intro w hw hmem
    have hmem' : w ∈ (s.tracker.getActiveSockets s.listed nowMs).2 := hmem
    rw [hactive, List.mem_filter, decide_eq_true_eq] at hmem'
    exact hmem'.2.1 (hs.marked w hmem'.1 hw)

/-- A closed socket that stays listed after an error is active again. -/
theorem not_live_error {ws : W} (hk : s.Kept) (h : ¬ s.Reported (.error ws true)) (nowMs : ℚ) :
    ¬ (s.webSocketError ws).Live nowMs := by
  obtain ⟨hlisted, hpending⟩ := not_not.mp h
  have hactive := (SocketTracker.getActiveSockets_visited (s.tracker.onSocketClosed ws) nowMs
    hk.nodup).1
  intro hlive
  refine hlive.never ws (hk.pending ws hpending) ?_
  change ws ∈ ((s.tracker.onSocketClosed ws).getActiveSockets s.listed nowMs).2
  rw [hactive, List.mem_filter, decide_eq_true_eq]
  refine ⟨hlisted, Finset.notMem_erase _ _, ?_⟩
  rintro ⟨lastAckAtMs, hlookup, _⟩
  rw [SocketTracker.onSocketClosed_lastAck] at hlookup
  cases hlookup

/-! ## Runs -/

/-- **One live socket in a session.** In every run of connections, messages, heartbeats, closes
and errors in which no error leaves a socket listed that the session has asked to close, at most
one socket is active, the last one if neither side has closed it, and no socket that the session
has closed is active again. Where an error does leave such a socket listed, in whatever run, it
is active again. -/
theorem one_live_socket (maxFrameBytes : ℕ) :
    (∀ (events : List (SocketEvent W)) (s : SocketSession W),
      AllSteps (step maxFrameBytes) Reported start events →
      exec (step maxFrameBytes) start events = some s → ∀ nowMs, s.Live nowMs) ∧
    ∀ (events : List (SocketEvent W)) (s s' : SocketSession W) (e : SocketEvent W),
      exec (step maxFrameBytes) start events = some s → ¬ s.Reported e →
      s.step maxFrameBytes e = some s' → ∀ nowMs, ¬ s'.Live nowMs := by
  constructor
  · intro events s hreported hrun
    have hs := exec_invariant (fun s : SocketSession W => s.Kept ∧ s.Superseded)
      (fun s e t hs hok h => ⟨kept_step hs.1 h, superseded_step hs.1 hs.2 hok h⟩)
      ⟨kept_start, superseded_start⟩ hreported hrun
    exact hs.2.live hs.1
  · intro events s s' e hrun hnot h
    have hk := exec_invariant_of_step (fun s : SocketSession W => s.Kept)
      (fun s e t hs h => kept_step hs h) kept_start hrun
    cases e with
    | error ws listed =>
        cases listed with
        | false => exact absurd trivial hnot
        | true =>
            simp only [step] at h
            split at h
            · cases h
              exact not_live_error hk hnot
            · cases h
    | connect server nowMs => exact absurd trivial hnot
    | message ws message nowMs => exact absurd trivial hnot
    | alarm nowMs frameId sendOk => exact absurd trivial hnot
    | activeSockets nowMs => exact absurd trivial hnot
    | close ws => exact absurd trivial hnot

end SocketSession

/-! ### An error of a superseded socket -/

/-- A connector connects twice, and the frame limit closes nothing. -/
def exampleReconnect : List (SocketEvent ℕ) :=
  [.connect 0 1700000000000, .connect 1 1700000001000]

/-- The runtime reports an error of the first socket, and lists it until it has closed. -/
def exampleError : List (SocketEvent ℕ) := exampleReconnect ++ [.error 0 true]

theorem exampleError_active :
    (exec (SocketSession.step 1048576) SocketSession.start exampleError).map (fun s =>
      (s.tracker.closed, (s.getActiveSockets 1700000002000).2)) = some ([0], [0, 1]) := by
  decide +kernel

/-- **A superseded socket can become active again.** -/
theorem not_one_live_socket :
    ¬ ∀ (maxFrameBytes : ℕ) (events : List (SocketEvent ℕ)) (s : SocketSession ℕ),
      exec (SocketSession.step maxFrameBytes) SocketSession.start events = some s →
      ∀ nowMs, s.Live nowMs := by
  intro h
  obtain ⟨s, hrun, hactive⟩ := Option.map_eq_some_iff.mp exampleError_active
  have hsingle := (h 1048576 exampleError s hrun 1700000002000).single
  rw [(Prod.mk.inj hactive).2] at hsingle
  exact absurd hsingle (by decide)

theorem exampleReconnect_live :
    ∃ s, exec (SocketSession.step 1048576) SocketSession.start exampleReconnect = some s ∧
      ∀ nowMs, s.Live nowMs := by
  obtain ⟨s, hrun⟩ := Option.isSome_iff_exists.mp (show
    (exec (SocketSession.step 1048576) SocketSession.start exampleReconnect).isSome = true by
      decide +kernel)
  refine ⟨s, hrun, (SocketSession.one_live_socket 1048576).1 exampleReconnect s ?_ hrun⟩
  exact ⟨trivial, fun t _ => ⟨trivial, fun u _ => trivial⟩⟩

end Clawdentity.Relay
