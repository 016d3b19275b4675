import Clawdentity.Connector.InboundRuntime
import Clawdentity.Connector.InboxRows
import Clawdentity.Lib.History

/-!
# Accepted messages are kept

A message that the connector has acknowledged is in the inbox until the webhook has taken it or a
local client has purged it, whatever throws and whenever the process ends. What the process posts
and answers on the way is allowed by what it has done before: the webhook gets what the frame
said, and a receipt is for a message that the webhook has taken or that was posted to it in vain.

## Main definitions

* `Entry.Allowed` — when the process may do something.
* `Core`, `LaneOk`, `Inv` — the invariant.
* `accepted_run` — what holds in every run.
-/

namespace Clawdentity.Connector.InboundRuntime

open Js Lib Lib.Run Lib.History InboundInbox InboundReplay

/-- The request to the webhook reads no other columns. -/
theorem hookRequest_congr {a b : InboxItem} (h : SameColumns a b)
    (senderProfile : Option DeliveryWebhookSenderProfile) (token : Option JsString) :
    hookRequest a senderProfile token = hookRequest b senderProfile token := by
  have hpayload : a.payload = b.payload := congrArg Message.payload h.message
  have hrequest : a.requestId = b.requestId := congrArg Message.requestId h.message
  have hfrom : a.fromAgentDid = b.fromAgentDid := congrArg Message.fromAgentDid h.message
  have hto : a.toAgentDid = b.toAgentDid := congrArg Message.toAgentDid h.message
  simp only [hookRequest, buildDeliveryWebhookHookPayload, resolveSenderAgentName,
    resolveSenderDisplayName, hpayload, hrequest, hfrom, hto, h.groupId, h.conversationId,
    h.replyTo]

/-! ## What the process may do -/

/-- The process has been started, and has not been stopped since. -/
def isRunning : List Entry → Bool
  | .started :: _ => true
  | .stopped :: _ => false
  | _ :: past => isRunning past
  | [] => false

/-- An accepted message with the request id. -/
def HasStored (past : List Entry) (requestId : JsString) : Prop :=
  ∃ frame serial, .stored frame serial ∈ past ∧ frame.id = requestId

def HasPosted (past : List Entry) (pending : InboxItem) : Prop :=
  ∃ pass attempt request, .posted pass pending attempt request ∈ past

/-- A local client has purged dead letters. -/
def HasPurged (past : List Entry) : Prop :=
  ∃ request, .admin request (some 200) ∈ past ∧ request.route = .purge

/-- What the process may do, by what it has done before. -/
def Entry.Allowed (c : Config) (past : List Entry) : Entry → Prop
  -- The numbers of the messages increase.
  | .stored _ serial => ∀ frame n, .stored frame n ∈ past → n < serial
  | .acknowledged frame accepted _ => accepted = true → HasStored past frame.id
  -- The request is that of an accepted frame, and a further attempt follows the one before.
  | .posted pass pending attempt request =>
      isRunning past = true ∧
      (attempt = 1 ∨ ∃ before request', attempt = before + 1 ∧
        .posted pass pending before request' ∈ past) ∧
      ∃ frame senderProfile token, .stored frame pending.serial ∈ past ∧
        pending.requestId = frame.id ∧
        request = hookRequest
          (buildPendingItem c.options frame pending.serial pending.receivedAt) senderProfile token
  | .taken pending => HasPosted past pending
  -- The webhook has taken the message, or it was posted in vain.
  | .receipt input => ∃ pending,
      (input = deliveryReceipt pending .deliveredToWebhook none ∧ .taken pending ∈ past) ∨
        ∃ reason, input = deliveryReceipt pending .deadLettered (some reason) ∧
          HasPosted past pending
  | .admin request status => status = some 200 →
      isLoopbackRemoteAddress c.toLowerCase request.remoteAddress = true
  | .stopped | .started => True

/-- A message is in the inbox, or the webhook has taken it, or a local client has purged it. -/
def Runtime.IsKept (s : Runtime) (frame : DeliverFrame) (serial : ℕ) : Prop :=
  (∃ row ∈ s.inbox.tables.rows, row.serial = serial ∧ row.requestId = frame.id) ∨
    (∃ pending, .taken pending ∈ s.history ∧ pending.requestId = frame.id) ∨
      HasPurged s.history

/-! ## The invariant -/

/-- The row has the columns that its frame decides. -/
def ComesFrom (c : Config) (frames : List DeliverFrame) (row : InboxItem) : Prop :=
  ∃ frame, frames[row.serial]? = some frame ∧
    SameColumns row (buildPendingItem c.options frame row.serial row.receivedAt)

/-- The invariant of the inbox and the history. -/
structure Core (c : Config) (s : Runtime) : Prop where
  sound : s.inbox.Sound
  rows : ∀ row ∈ s.inbox.tables.rows, ComesFrom c s.inbox.accepted row
  stored : ∀ frame n, .stored frame n ∈ s.history ↔ s.inbox.accepted[n]? = some frame
  delivered : ∀ n ∈ s.inbox.delivered, ∃ frame pending, s.inbox.accepted[n]? = some frame ∧
    .taken pending ∈ s.history ∧ pending.requestId = frame.id
  purged : s.inbox.purged ≠ [] → HasPurged s.history
  running : isRunning s.history = !s.runtimeStopping
  legal : Legal (Entry.Allowed c) s.history

def LaneState.items : LaneState → List InboxItem
  | .next items => items
  | .delivering pending rest _ | .marking pending rest | .failing pending _ rest => pending :: rest
  | .returned | .rejected => []

/-- What the process has done for the message at the head of a lane. -/
def LaneState.Done (history : List Entry) (pass : ℕ) : LaneState → Prop
  | .delivering pending _ (.requesting attempt isSent) =>
      (isSent = true → ∃ request, .posted pass pending attempt request ∈ history) ∧
        (isSent = false → isRunning history = false)
  | .delivering pending _ (.syncing attempt _ _) | .delivering pending _ (.waiting attempt _) =>
      ∃ request, .posted pass pending attempt request ∈ history
  | .marking pending _ => .taken pending ∈ history
  | .failing pending _ _ => HasPosted history pending
  | _ => True

structure LaneOk (c : Config) (s : Runtime) (pass : ℕ) (state : LaneState) : Prop where
  items : ∀ pending ∈ state.items, ComesFrom c s.inbox.accepted pending
  done : state.Done s.history pass

def Phase.items : Phase → List InboxItem
  | .listed dueItems | .synced dueItems => dueItems
  | _ => []

structure Inv (c : Config) (s : Runtime) : Prop where
  core : Core c s
  listed : ∀ pending ∈ s.phase.items, ComesFrom c s.inbox.accepted pending
  lanes : ∀ lane ∈ s.lanes, LaneOk c s lane.pass lane.state
  calls : ∀ frame reason, .answering frame true reason ∈ s.calls → HasStored s.history frame.id

section
variable {c : Config} {s t : Runtime}

/-- What a step adds to. -/
structure Grows (s t : Runtime) : Prop where
  accepted : ∃ new, t.inbox.accepted = s.inbox.accepted ++ new
  history : s.history ⊆ t.history
  /-- A process that is stopping goes on stopping. -/
  stopping : isRunning s.history = false → isRunning t.history = false

theorem ComesFrom.grows {row : InboxItem} (h : ComesFrom c s.inbox.accepted row)
    (hgrows : Grows s t) : ComesFrom c t.inbox.accepted row := by
  obtain ⟨frame, hframe, hsame⟩ := h
  obtain ⟨new, hnew⟩ := hgrows.accepted
  refine ⟨frame, ?_, hsame⟩
  rw [hnew, List.getElem?_append_left (List.getElem?_eq_some_iff.mp hframe).1]
  exact hframe

theorem HasStored.grows {requestId : JsString} {past later : List Entry}
    (h : HasStored past requestId) (hsub : past ⊆ later) : HasStored later requestId := by
  obtain ⟨frame, serial, hmem, hid⟩ := h
  exact ⟨frame, serial, hsub hmem, hid⟩

theorem HasPosted.grows {pending : InboxItem} {past later : List Entry}
    (h : HasPosted past pending) (hsub : past ⊆ later) : HasPosted later pending := by
  obtain ⟨pass, attempt, request, hmem⟩ := h
  exact ⟨pass, attempt, request, hsub hmem⟩

theorem LaneState.Done.grows {pass : ℕ} {state : LaneState} (h : state.Done s.history pass)
    (hgrows : Grows s t) : state.Done t.history pass := by
  cases state with
  | delivering pending rest delivery =>
      cases delivery with
      | requesting attempt isSent =>
          exact ⟨fun hsent => (h.1 hsent).imp fun _ hmem => hgrows.history hmem,
            fun hsent => hgrows.stopping (h.2 hsent)⟩
      | syncing | waiting => exact Exists.imp (fun _ hmem => hgrows.history hmem) h
  | marking => exact hgrows.history h
  | failing => exact HasPosted.grows h hgrows.history
  | next | returned | rejected => trivial

theorem LaneOk.grows {pass : ℕ} {state : LaneState} (h : LaneOk c s pass state)
    (hgrows : Grows s t) : LaneOk c t pass state where
  items pending hmem := (h.items pending hmem).grows hgrows
  done := h.done.grows hgrows

/-- A message that the webhook has taken was posted. -/
theorem Core.hasPosted (h : Core c s) {pending : InboxItem} (htaken : .taken pending ∈ s.history) :
    HasPosted s.history pending := by
  obtain ⟨later, past, heq, hallowed⟩ := h.legal.allowed_of_mem htaken
  have hposted : HasPosted past pending := hallowed
  apply hposted.grows
  rw [heq]
  exact fun e he => List.mem_append_right _ (List.mem_cons_of_mem _ he)

theorem ComesFrom.hasStored (h : Core c s) {row : InboxItem}
    (hrow : ComesFrom c s.inbox.accepted row) :
    ∃ frame, .stored frame row.serial ∈ s.history ∧ row.requestId = frame.id := by
  obtain ⟨frame, hframe, hsame⟩ := hrow
  exact ⟨frame, (h.stored frame row.serial).mpr hframe, congrArg Message.requestId hsame.message⟩

/-! ## What a step keeps -/

theorem Grows.refl (s : Runtime) : Grows s s :=
  ⟨⟨[], (List.append_nil _).symm⟩, fun _ h => h, id⟩

theorem Grows.trans {u : Runtime} (h : Grows s t) (h' : Grows t u) : Grows s u where
  accepted := by
    obtain ⟨new, hnew⟩ := h.accepted
    obtain ⟨new', hnew'⟩ := h'.accepted
    exact ⟨new ++ new', by rw [hnew', hnew, List.append_assoc]⟩
  history e he := h'.history (h.history he)
  stopping hs := h'.stopping (h.stopping hs)

/-- The invariant is about the inbox and the history. -/
theorem Core.congr (h : Core c s) (hinbox : t.inbox = s.inbox) (hhistory : t.history = s.history)
    (hstopping : t.runtimeStopping = s.runtimeStopping) : Core c t := by
  cases s
  cases t
  simp only at hinbox hhistory hstopping
  subst hinbox hhistory hstopping
  exact ⟨h.sound, h.rows, h.stored, h.delivered, h.purged, h.running, h.legal⟩

theorem Grows.congr {u : Runtime} (h : Grows s t) (hinbox : u.inbox = t.inbox)
    (hhistory : u.history = t.history) : Grows s u := by
  constructor
  · rw [hinbox]
    exact h.accepted
  · rw [hhistory]
    exact h.history
  · rw [hhistory]
    exact h.stopping

/-- An entry that neither stores a message nor starts or stops the process. -/
def Entry.IsPlain : Entry → Prop
  | .stored _ _ | .stopped | .started => False
  | _ => True

theorem isRunning_plain {e : Entry} (he : e.IsPlain) (past : List Entry) :
    isRunning (e :: past) = isRunning past := by
  cases e <;> first | rfl | exact he.elim

theorem grows_record (s : Runtime) (e : Entry) (he : e.IsPlain) : Grows s (s.record [e]) where
  accepted := ⟨[], (List.append_nil _).symm⟩
  history := List.subset_cons_self _ _
  stopping hs := by
    change isRunning (e :: s.history) = false
    rwa [isRunning_plain he]

theorem Core.record (h : Core c s) (e : Entry) (he : e.IsPlain)
    (hallowed : e.Allowed c s.history) : Core c (s.record [e]) where
  sound := h.sound
  rows := h.rows
  stored frame n := by
    refine Iff.trans ?_ (h.stored frame n)
    change .stored frame n ∈ e :: s.history ↔ _
    rw [List.mem_cons]
    refine or_iff_right ?_
    rintro rfl
    exact he
  delivered n hn := by
    obtain ⟨frame, pending, hframe, htaken, hid⟩ := h.delivered n hn
    exact ⟨frame, pending, hframe, List.mem_cons_of_mem _ htaken, hid⟩
  purged hpurged := (h.purged hpurged).imp fun _ hmem => hmem.imp_left (List.mem_cons_of_mem _)
  running := (isRunning_plain he s.history).trans h.running
  legal := ⟨hallowed, h.legal⟩

/-- An operation other than `enqueue` keeps the invariant, if the webhook has taken the message
that it deletes, and a local client has asked for what it purges. -/
theorem Core.run (h : Core c s) {op : Operation} {env : Env}
    (hop : ∀ frame, op ≠ .enqueue frame)
    (hmark : ∀ requestId, op = .markDelivered requestId →
      ∃ pending, .taken pending ∈ s.history ∧ pending.requestId = requestId)
    (hpurge : ∀ requestIds, op = .purgeDeadLetter requestIds → HasPurged s.history) :
    Core c { s with inbox := (run c.options op env s.inbox).2 } := by
  obtain ⟨haccepted, hrows⟩ := @run_rowsKept c.options env s.inbox op hop
  constructor
  · exact sound_step h.sound (op, env) rfl
  · intro row hrow
    obtain ⟨old, hold, hsame⟩ := hrows row hrow
    obtain ⟨frame, hframe, hsame'⟩ := h.rows old hold
    have hserial : row.serial = old.serial := congrArg Message.serial hsame.message
    have hreceived : row.receivedAt = old.receivedAt := congrArg Message.receivedAt hsame.message
    refine ⟨frame, ?_, ?_⟩
    · rw [haccepted, hserial]
      exact hframe
    · rw [hserial, hreceived]
      exact hsame.trans hsame'
  · intro frame n
    rw [haccepted]
    exact h.stored frame n
  · intro n hn
    rw [haccepted]
    by_cases hdelivered : n ∈ s.inbox.delivered
    · exact h.delivered n hdelivered
    · cases op with
      | markDelivered requestId =>
          obtain hold | ⟨m, hm, rfl, hid⟩ := run_markDelivered_gone hn
          · exact absurd hold hdelivered
          · obtain ⟨row, hrow, rfl⟩ := mem_rows_of_messages hm
            obtain ⟨frame, hframe, hsame⟩ := h.rows row hrow
            obtain ⟨pending, htaken, hpending⟩ := hmark requestId rfl
            refine ⟨frame, pending, hframe, htaken, ?_⟩
            rw [hpending, ← hid]
            exact congrArg Message.requestId hsame.message
      | _ =>
          rw [run_gone.1 (by simp)] at hn
          exact absurd hn hdelivered
  · intro hpurged
    cases op with
    | purgeDeadLetter requestIds => exact hpurge requestIds rfl
    | _ =>
        rw [run_gone.2 (by simp)] at hpurged
        exact h.purged hpurged
  · exact h.running
  · exact h.legal

theorem grows_run (s : Runtime) {op : Operation} {env : Env}
    (hop : ∀ frame, op ≠ .enqueue frame) :
    Grows s { s with inbox := (run c.options op env s.inbox).2 } where
  accepted := ⟨[], by rw [(run_rowsKept hop).1, List.append_nil]⟩
  history _ he := he
  stopping := id

/-! ## A lane -/

/-- What a lane does when it goes on. -/
structure LaneStep (c : Config) (s t : Runtime) (pass : ℕ) (state : LaneState) : Prop where
  core : Core c t
  grows : Grows s t
  lane : LaneOk c t pass state
  phase : t.phase = s.phase
  calls : t.calls = s.calls

/-- A lane that changes nothing but itself. -/
theorem laneStep_self (h : Core c s) {pass : ℕ} {state : LaneState} (hlane : LaneOk c s pass state) :
    LaneStep c s s pass state :=
  ⟨h, .refl s, hlane, rfl, rfl⟩

/-- An attempt is the first one, or follows the one before. -/
def Follows (history : List Entry) (pass : ℕ) (pending : InboxItem) (attempt : ℕ) : Prop :=
  attempt = 1 ∨ ∃ before request, attempt = before + 1 ∧
    .posted pass pending before request ∈ history

theorem beginAttempt_spec (h : Core c s) (lane : Lane) {pending : InboxItem}
    {rest : List InboxItem} (attempt : ℕ)
    (hitems : ∀ item ∈ pending :: rest, ComesFrom c s.inbox.accepted item)
    (hfollows : Follows s.history lane.pass pending attempt) :
    LaneStep c s (beginAttempt s lane pending rest attempt).1 lane.pass
      (beginAttempt s lane pending rest attempt).2 := by
  unfold beginAttempt
  by_cases hstopping : s.runtimeStopping = true
  · simp only [hstopping, if_true]
    refine laneStep_self h ⟨hitems, ?_, ?_⟩
    · intro hsent
      cases hsent
    · intro _
      rw [h.running, hstopping, Bool.not_true]
  · simp only [hstopping, Bool.false_eq_true, if_false]
    have hpending := hitems pending List.mem_cons_self
    obtain ⟨frame, hframe, hsame⟩ := hpending
    obtain ⟨senderProfile, hprofile⟩ : ∃ profile,
        lane.senderProfilesByDid.get? pending.fromAgentDid = profile := ⟨_, rfl⟩
    rw [hprofile]
    have hallowed : Entry.Allowed c s.history (.posted lane.pass pending attempt
        (hookRequest pending senderProfile s.currentDeliveryWebhookHookToken)) := by
      refine ⟨?_, ?_, frame, senderProfile, s.currentDeliveryWebhookHookToken, ?_, ?_, ?_⟩
      · simpa [hstopping] using h.running
      · exact hfollows
      · exact (h.stored frame pending.serial).mpr hframe
      · exact congrArg Message.requestId hsame.message
      · exact hookRequest_congr hsame _ _
    have hgrows := grows_record s (.posted lane.pass pending attempt
      (hookRequest pending senderProfile s.currentDeliveryWebhookHookToken)) trivial
    refine ⟨h.record _ trivial hallowed, hgrows, ⟨?_, ?_, ?_⟩, rfl, rfl⟩
    · exact fun item hitem => (hitems item hitem).grows hgrows
    · intro _
      exact ⟨_, List.mem_cons_self⟩
    · intro hsent
      cases hsent

theorem laneOk_retryOrFail {pass : ℕ} {pending : InboxItem} {rest : List InboxItem} {attempt : ℕ}
    {error : DeliveryError} {nowMs : ℤ}
    (hitems : ∀ item ∈ pending :: rest, ComesFrom c s.inbox.accepted item)
    (hposted : ∃ request, .posted pass pending attempt request ∈ s.history) :
    LaneOk c s pass (retryOrFail c s pending rest attempt error nowMs) := by
  simp only [retryOrFail]
  split
  · obtain ⟨request, hmem⟩ := hposted
    exact ⟨hitems, pass, attempt, request, hmem⟩
  · exact ⟨hitems, hposted⟩

/-- The token is no part of the invariant. -/
theorem laneStep_token (h : Core c s) (diskToken : Option JsString) {pass : ℕ} {state : LaneState}
    (hlane : LaneOk c s pass state) :
    LaneStep c s (syncDeliveryWebhookHookToken c s diskToken) pass state := by
  unfold syncDeliveryWebhookHookToken
  split
  · exact laneStep_self h hlane
  · exact ⟨h.congr rfl rfl rfl, (Grows.refl s).congr rfl rfl, ⟨hlane.items, hlane.done⟩, rfl, rfl⟩

theorem LaneStep.trans {u : Runtime} {pass : ℕ} {state state' : LaneState}
    (h : LaneStep c s t pass state) (h' : LaneStep c t u pass state') :
    LaneStep c s u pass state' :=
  ⟨h'.core, h.grows.trans h'.grows, h'.lane, h'.phase.trans h.phase, h'.calls.trans h.calls⟩

/-- A lane changes the inbox, and then records a receipt. -/
theorem laneStep_run (h : Core c s) {op : InboundInbox.Operation} {env : Env} {pass : ℕ}
    {state state' : LaneState} (hlane : LaneOk c s pass state)
    (hop : ∀ frame, op ≠ .enqueue frame)
    (hmark : ∀ requestId, op = .markDelivered requestId →
      ∃ pending, .taken pending ∈ s.history ∧ pending.requestId = requestId)
    (hpurge : ∀ requestIds, op ≠ .purgeDeadLetter requestIds)
    (hstate : ∀ item ∈ state'.items, item ∈ state.items)
    (hdone : state'.Done s.history pass) :
    LaneStep c s { s with inbox := (run c.options op env s.inbox).2 } pass state' := by
  have hgrows : Grows s { s with inbox := (run c.options op env s.inbox).2 } := grows_run s hop
  refine ⟨h.run hop hmark fun ids hids => absurd hids (hpurge ids), hgrows, ⟨?_, hdone⟩, rfl, rfl⟩
  exact fun item hitem => (hlane.items item (hstate item hitem)).grows hgrows

theorem laneStep_record (h : Core c s) {pass : ℕ} {state : LaneState}
    (hlane : LaneOk c s pass state) (e : Entry) (he : e.IsPlain)
    (hallowed : e.Allowed c s.history) : LaneStep c s (s.record [e]) pass state :=
  ⟨h.record e he hallowed, grows_record s e he, hlane.grows (grows_record s e he), rfl, rfl⟩

/-- **A lane keeps the invariant.** -/
theorem resumeLane_spec (h : Core c s) {lane : Lane} {choice : LaneChoice} {state : LaneState}
    (hlane : LaneOk c s lane.pass lane.state)
    (hstep : resumeLane c s lane choice = some (t, state)) : LaneStep c s t lane.pass state := by
  cases choice with
  | next =>
      simp only [resumeLane] at hstep
      split at hstep
      · cases hstep
        exact laneStep_self h ⟨by simp [LaneState.items], trivial⟩
      · rename_i pending rest hstate
        rw [hstate] at hlane
        have hspec := beginAttempt_spec h lane 1 hlane.items (.inl rfl)
        rwa [Option.some.inj hstep] at hspec
      · cases hstep
  | fetched result nowMs =>
      simp only [resumeLane] at hstep
      split at hstep
      · rename_i pending rest attempt isSent hstate
        rw [hstate] at hlane
        obtain ⟨hitems, hsent, hunsent⟩ := hlane
        split at hstep
        · cases hstep
        rename_i hresult
        split at hstep
        · rename_i hok
          cases hstep
          -- the webhook has taken the message, so the request was sent
          have hwasSent : isSent = true := by
            by_contra hsent
            simp only [Bool.not_eq_true] at hsent
            subst hsent
            simp only [Bool.not_false, Bool.true_and, decide_eq_true_eq, ne_eq, not_not] at hresult
            subst hresult
            revert hok
            simp only [deliveryError]
            split <;> simp
          obtain ⟨request, hposted⟩ := hsent hwasSent
          have hlane : LaneOk c s lane.pass (.next (pending :: rest)) := ⟨hitems, trivial⟩
          have hrecord := laneStep_record h hlane (.taken pending) trivial
            ⟨lane.pass, attempt, request, hposted⟩
          exact ⟨hrecord.core, hrecord.grows, ⟨hrecord.lane.items, List.mem_cons_self⟩, rfl, rfl⟩
        · rename_i error herror
          split at hstep
          · cases hstep
            exact laneStep_self h ⟨by simp [LaneState.items], trivial⟩
          rename_i hcode
          have hposted : ∃ request, .posted lane.pass pending attempt request ∈ s.history := by
            apply hsent
            by_contra hnot
            simp only [Bool.not_eq_true] at hnot
            have hstopping : s.runtimeStopping = true := by
              simpa [hunsent hnot] using h.running.symm
            subst hnot
            simp only [Bool.not_false, Bool.true_and, decide_eq_true_eq, ne_eq, not_not] at hresult
            subst hresult
            simp only [deliveryError, hstopping, if_true, Option.some.injEq] at herror
            exact hcode (by rw [← herror])
          split at hstep
          · cases hstep
            exact laneStep_self h ⟨hitems, hposted⟩
          · cases hstep
            exact laneStep_self h (laneOk_retryOrFail hitems hposted)
      · cases hstep
  | synced diskToken nowMs =>
      simp only [resumeLane] at hstep
      split at hstep
      · rename_i pending rest attempt previousToken error hstate
        rw [hstate] at hlane
        obtain ⟨hitems, request, hposted⟩ := hlane
        have hlane : LaneOk c s lane.pass
            (.delivering pending rest (.syncing attempt previousToken error)) :=
          ⟨hitems, request, hposted⟩
        have htoken := laneStep_token h diskToken hlane
        obtain ⟨hitems', request', hposted'⟩ := htoken.lane
        split at hstep
        · have hspec := beginAttempt_spec htoken.core lane (attempt + 1) hitems'
            (.inr ⟨attempt, request', rfl, hposted'⟩)
          rw [Option.some.inj hstep] at hspec
          exact htoken.trans hspec
        · cases hstep
          exact htoken.trans (laneStep_self htoken.core (laneOk_retryOrFail hitems' ⟨_, hposted'⟩))
      · cases hstep
  | elapsed =>
      simp only [resumeLane] at hstep
      split at hstep
      · rename_i pending rest attempt delayMs hstate
        rw [hstate] at hlane
        obtain ⟨hitems, request, hposted⟩ := hlane
        have hspec := beginAttempt_spec h lane (attempt + 1) hitems
          (.inr ⟨attempt, request, rfl, hposted⟩)
        rwa [Option.some.inj hstep] at hspec
      · cases hstep
  | aborted =>
      simp only [resumeLane] at hstep
      split at hstep
      · split at hstep
        · cases hstep
          exact laneStep_self h ⟨by simp [LaneState.items], trivial⟩
        · cases hstep
      · cases hstep
  | marked env reason nowMs =>
      simp only [resumeLane] at hstep
      split at hstep
      · rename_i pending rest hstate
        rw [hstate] at hlane
        have htaken : .taken pending ∈ s.history := hlane.done
        have hrun : ∀ state', (∀ item ∈ state'.items, item ∈ pending :: rest) →
            state'.Done s.history lane.pass → LaneStep c s { s with inbox :=
              (run c.options (.markDelivered pending.requestId) env s.inbox).2 } lane.pass
              state' := by
          intro state' hstate' hdone
          refine laneStep_run h hlane (by simp) ?_ (by simp) hstate' hdone
          intro requestId hid
          exact ⟨pending, htaken, InboundInbox.Operation.markDelivered.inj hid⟩
        split at hstep
        · cases hstep
          have hnext := hrun (.next rest) (fun _ hitem => List.mem_cons_of_mem _ hitem) trivial
          refine hnext.trans (laneStep_record hnext.core hnext.lane _ trivial ?_)
          exact ⟨pending, .inl ⟨rfl, htaken⟩⟩
        · cases hstep
          exact hrun _ (fun _ hitem => hitem) (h.hasPosted htaken)
      · cases hstep
  | recorded env =>
      simp only [resumeLane] at hstep
      split at hstep
      · rename_i pending input rest hstate
        rw [hstate] at hlane
        have hposted : HasPosted s.history pending := hlane.done
        have hrun : ∀ state', (∀ item ∈ state'.items, item ∈ pending :: rest) →
            state'.Done s.history lane.pass → LaneStep c s { s with inbox :=
              (run c.options (.markReplayFailure input) env s.inbox).2 } lane.pass state' :=
          fun state' => laneStep_run h hlane (by simp) (by simp) (by simp)
        have hnext := hrun (.next rest) (fun _ hitem => List.mem_cons_of_mem _ hitem) trivial
        split at hstep
        · cases hstep
          refine hnext.trans (laneStep_record hnext.core hnext.lane _ trivial ?_)
          exact ⟨pending, .inr ⟨input.errorMessage, rfl, hposted⟩⟩
        · cases hstep
          exact hnext
        · cases hstep
          exact hrun .rejected (by simp [LaneState.items]) trivial
      · cases hstep

/-! ## The run -/

/-- A frame that arrives. -/
theorem handleInboundDeliverFrame_spec (h : Core c s) (frame : DeliverFrame) (env : Env)
    (reason : JsString) :
    Core c (handleInboundDeliverFrame c s frame env reason) ∧
      Grows s (handleInboundDeliverFrame c s frame env reason) ∧
      ∃ accepted reason', (handleInboundDeliverFrame c s frame env reason).calls =
          s.calls ++ [.answering frame accepted reason'] ∧
        (accepted = true →
          HasStored (handleInboundDeliverFrame c s frame env reason).history frame.id) := by
  have hsound : (run c.options (.enqueue frame) env s.inbox).2.Sound :=
    sound_step h.sound (.enqueue frame, env) rfl
  have hdelivered : (run c.options (.enqueue frame) env s.inbox).2.delivered = s.inbox.delivered :=
    run_gone.1 (by simp)
  have hpurged : (run c.options (.enqueue frame) env s.inbox).2.purged = s.inbox.purged :=
    run_gone.2 (by simp)
  have hspec := run_enqueue c.options env frame s.inbox
  simp only [handleInboundDeliverFrame]
  generalize (run c.options (.enqueue frame) env s.inbox).1 = answer at hspec ⊢
  generalize (run c.options (.enqueue frame) env s.inbox).2 = inbox at hspec hsound hdelivered hpurged ⊢
  -- nothing is accepted, and the rows keep their columns
  have hkept : inbox.accepted = s.inbox.accepted → RowsKept s.inbox.tables inbox.tables →
      ∀ calls, Core c { s with inbox, calls } ∧ Grows s { s with inbox, calls } := by
    intro haccepted hrows calls
    refine ⟨⟨hsound, ?_, ?_, ?_, ?_, h.running, h.legal⟩, ⟨[], ?_⟩, fun _ he => he, id⟩
    · intro row hrow
      obtain ⟨old, hold, hsame⟩ := hrows row hrow
      obtain ⟨frame', hframe, hsame'⟩ := h.rows old hold
      have hserial : row.serial = old.serial := congrArg Message.serial hsame.message
      have hreceived : row.receivedAt = old.receivedAt :=
        congrArg Message.receivedAt hsame.message
      rw [ComesFrom, haccepted, hserial, hreceived]
      exact ⟨frame', hframe, hsame.trans hsame'⟩
    · rw [haccepted]
      exact h.stored
    · rw [haccepted, hdelivered]
      exact h.delivered
    · rw [hpurged]
      exact h.purged
    · rw [haccepted, List.append_nil]
  cases hspec with
  | stored receivedAt haccepted hduplicate hframes hrows =>
      simp only [haccepted, hduplicate, if_true, Bool.false_eq_true, if_false]
      have hgrows : Grows s ({ s with
          inbox, calls := s.calls ++ [FrameCall.answering frame true none] }.record
            [.stored frame s.inbox.accepted.length]) :=
        ⟨⟨[frame], hframes⟩, List.subset_cons_self _ _, id⟩
      refine ⟨⟨hsound, ?_, ?_, ?_, ?_, h.running, ?_, h.legal⟩, hgrows, true, none, rfl, ?_⟩
      · intro row hrow
        obtain hold | rfl := hrows row hrow
        · exact (h.rows row hold).grows hgrows
        · refine ⟨frame, ?_, .refl _⟩
          change inbox.accepted[s.inbox.accepted.length]? = some frame
          rw [hframes, List.getElem?_concat_length]
      · intro frame' n
        change .stored frame' n ∈ .stored frame s.inbox.accepted.length :: s.history ↔
          inbox.accepted[n]? = some frame'
        rw [hframes, List.mem_cons, h.stored, List.getElem?_append]
        by_cases hn : n < s.inbox.accepted.length
        · simp only [hn, if_true, Entry.stored.injEq]
          exact or_iff_right fun heq => hn.ne heq.2
        · rw [if_neg hn, List.getElem?_eq_none (Nat.not_lt.mp hn), List.getElem?_singleton]
          by_cases heq : n = s.inbox.accepted.length
          · simp [heq, eq_comm]
          · have hpos : n - s.inbox.accepted.length ≠ 0 := by omega
            simp [heq, hpos]
      · intro n hn
        change n ∈ inbox.delivered at hn
        rw [hdelivered] at hn
        obtain ⟨frame', pending, hframe, htaken, hid⟩ := h.delivered n hn
        refine ⟨frame', pending, ?_, List.mem_cons_of_mem _ htaken, hid⟩
        change inbox.accepted[n]? = some frame'
        rw [hframes, List.getElem?_append_left (List.getElem?_eq_some_iff.mp hframe).1]
        exact hframe
      · intro hne
        change inbox.purged ≠ [] at hne
        rw [hpurged] at hne
        exact (h.purged hne).imp fun _ hmem => hmem.imp_left (List.mem_cons_of_mem _)
      · intro frame' n hmem
        exact (List.getElem?_eq_some_iff.mp ((h.stored frame' n).mp hmem)).1
      · intro _
        exact ⟨frame, s.inbox.accepted.length, List.mem_cons_self, rfl⟩
  | @known _ result hduplicate hknown hframes hrows =>
      have hstored : HasStored s.history frame.id := by
        obtain ⟨m, hm, hid⟩ := List.mem_map.mp (hasRequest_iff.mp hknown)
        obtain ⟨row, hrow, rfl⟩ := mem_rows_of_messages hm
        obtain ⟨frame', hmem, hid'⟩ := (h.rows row hrow).hasStored h
        exact ⟨frame', row.serial, hmem, hid'.symm.trans hid⟩
      simp only [hduplicate, if_true]
      cases result.accepted with
      | true =>
          obtain ⟨hcore, hgrows⟩ := hkept hframes hrows (s.calls ++ [.answering frame true none])
          exact ⟨hcore, hgrows, true, none, rfl, fun _ => hstored⟩
      | false =>
          obtain ⟨hcore, hgrows⟩ :=
            hkept hframes hrows (s.calls ++ [.answering frame false (result.reason.map js)])
          exact ⟨hcore, hgrows, false, _, rfl, by simp⟩
  | @refused _ result haccepted hframes hrows =>
      simp only [haccepted, Bool.false_eq_true, if_false]
      obtain ⟨hcore, hgrows⟩ :=
        hkept hframes hrows (s.calls ++ [.answering frame false (result.reason.map js)])
      exact ⟨hcore, hgrows, false, _, rfl, by simp⟩
  | threw =>
      obtain ⟨hcore, hgrows⟩ := hkept rfl (rowsKept_of_keeps ⟨rfl, rfl⟩)
        (s.calls ++ [.answering frame false (some reason)])
      exact ⟨hcore, hgrows, false, _, rfl, by simp⟩

/-- A request on a route for dead letters. -/
theorem admin_spec (h : Core c s) (request : AdminRequest) (env : Env) :
    Core c ({ s with inbox := (deadLetterRoute c s.inbox request env).2 }.record
        [.admin request (deadLetterRoute c s.inbox request env).1]) ∧
      Grows s ({ s with inbox := (deadLetterRoute c s.inbox request env).2 }.record
        [.admin request (deadLetterRoute c s.inbox request env).1]) := by
  simp only [deadLetterRoute]
  split
  · exact ⟨h.record _ trivial (by simp [Entry.Allowed]), grows_record s _ trivial⟩
  split
  · exact ⟨h.record _ trivial (by simp [Entry.Allowed]), grows_record s _ trivial⟩
  rename_i hloopback
  simp only [Bool.not_eq_true', Bool.not_eq_false] at hloopback
  obtain ⟨op, hop⟩ : ∃ op, request.operation = op := ⟨_, rfl⟩
  rw [hop]
  have hnotEnqueue : ∀ frame, op ≠ .enqueue frame := by
    intro frame heq
    cases hroute : request.route <;> simp [AdminRequest.operation, hroute, heq] at hop
  have hnotMark : ∀ requestId, op ≠ .markDelivered requestId := by
    intro requestId heq
    cases hroute : request.route <;> simp [AdminRequest.operation, hroute, heq] at hop
  have hcore := h.record (.admin request ((run c.options op env s.inbox).1.map fun _ => 200))
    trivial fun _ => hloopback
  have hgrows := grows_record s
    (.admin request ((run c.options op env s.inbox).1.map fun _ => 200)) trivial
  cases hanswer : (run c.options op env s.inbox).1 with
  | none =>
      -- the transaction was rolled back
      rw [hanswer] at hcore hgrows
      rw [run_of_throws hanswer]
      exact ⟨hcore, hgrows⟩
  | some reply =>
      rw [hanswer] at hcore hgrows
      refine ⟨hcore.run hnotEnqueue (fun id hid => absurd hid (hnotMark id)) ?_,
        hgrows.trans (grows_run _ hnotEnqueue)⟩
      intro requestIds hpurge
      refine ⟨request, List.mem_cons_self, ?_⟩
      cases hroute : request.route <;> simp [AdminRequest.operation, hroute, hpurge] at hop
      rfl

/-- A step that keeps the lanes and the calls. -/
theorem Inv.grows (h : Inv c s) (hcore : Core c t) (hgrows : Grows s t)
    (hphase : ∀ pending ∈ t.phase.items, pending ∈ s.phase.items) (hlanes : t.lanes = s.lanes)
    (hcalls : ∀ call ∈ t.calls, call ∈ s.calls ∨ call = .answered) : Inv c t where
  core := hcore
  listed pending hpending := (h.listed pending (hphase pending hpending)).grows hgrows
  lanes lane hlane := (h.lanes lane (hlanes ▸ hlane)).grows hgrows
  calls frame reason hcall := by
    obtain hcall | hcall := hcalls _ hcall
    · exact (h.calls frame reason hcall).grows hgrows.history
    · cases hcall

/-- A step that changes neither the inbox nor the history. -/
theorem Inv.keep (h : Inv c s) (hinbox : t.inbox = s.inbox) (hhistory : t.history = s.history)
    (hstopping : t.runtimeStopping = s.runtimeStopping)
    (hphase : ∀ pending ∈ t.phase.items, ComesFrom c s.inbox.accepted pending)
    (hlanes : ∀ lane ∈ t.lanes, lane ∈ s.lanes ∨ LaneOk c s lane.pass lane.state)
    (hcalls : t.calls = s.calls) : Inv c t := by
  have hgrows : Grows s t := (Grows.refl s).congr hinbox hhistory
  refine ⟨h.core.congr hinbox hhistory hstopping, ?_, ?_, ?_⟩
  · intro pending hpending
    exact (hphase pending hpending).grows hgrows
  · intro lane hlane
    obtain hlane | hlane := hlanes lane hlane
    · exact (h.lanes lane hlane).grows hgrows
    · exact hlane.grows hgrows
  · intro frame reason hcall
    rw [hhistory]
    exact h.calls frame reason (hcalls ▸ hcall)

theorem comesFrom_listDuePending (h : Core c s) {limit : ℤ} {nowAt : JsString} {item : InboxItem}
    (hitem : item ∈ listDuePending s.inbox.tables limit nowAt) :
    ComesFrom c s.inbox.accepted item := by
  obtain ⟨row, hrow, -, rfl⟩ := mem_listDuePending hitem
  obtain ⟨frame, hframe, hsame⟩ := h.rows row (List.mem_append_left _ hrow)
  exact ⟨frame, hframe, (sameColumns_toPendingItem row).trans hsame⟩

/-- **The step lemma.** -/
theorem inv_step {e : Event} (h : Inv c s) (hstep : step c s e = some t) : Inv c t := by
  cases e with
  | deliver frame env reason =>
      cases hstep
      obtain ⟨hcore, hgrows, accepted, reason', hcalls, hstored⟩ :=
        handleInboundDeliverFrame_spec h.core frame env reason
      have hsame : (handleInboundDeliverFrame c s frame env reason).phase = s.phase ∧
          (handleInboundDeliverFrame c s frame env reason).lanes = s.lanes := by
        simp only [handleInboundDeliverFrame]
        split
        · split <;> exact ⟨rfl, rfl⟩
        · exact ⟨rfl, rfl⟩
      refine ⟨hcore, ?_, ?_, ?_⟩
      · rw [hsame.1]
        exact fun pending hpending => (h.listed pending hpending).grows hgrows
      · rw [hsame.2]
        exact fun lane hlane => (h.lanes lane hlane).grows hgrows
      · intro frame' reason'' hcall
        rw [hcalls, List.mem_append, List.mem_singleton] at hcall
        obtain hcall | hcall := hcall
        · exact (h.calls frame' reason'' hcall).grows hgrows.history
        · cases hcall
          exact hstored rfl
  | acknowledge i isSent =>
      simp only [step] at hstep
      split at hstep
      · rename_i frame accepted reason hcall
        cases hstep
        have hmem := List.mem_of_getElem? hcall
        have hcalls : ∀ call ∈ s.calls.set i .answered, call ∈ s.calls ∨ call = .answered :=
          fun call hset => List.mem_or_eq_of_mem_set hset
        cases isSent with
        | true =>
            have hallowed : Entry.Allowed c s.history (.acknowledged frame accepted reason) := by
              rintro rfl
              exact h.calls frame reason hmem
            have hcore := h.core.record (.acknowledged frame accepted reason) trivial hallowed
            have hgrows := grows_record s (.acknowledged frame accepted reason) trivial
            exact h.grows (hcore.congr rfl rfl rfl) (hgrows.congr rfl rfl)
              (fun _ hpending => hpending) rfl hcalls
        | false =>
            exact h.grows (h.core.congr rfl rfl rfl) ((Grows.refl s).congr rfl rfl)
              (fun _ hpending => hpending) rfl hcalls
      · cases hstep
  | startPass nowAt =>
      simp only [step] at hstep
      split at hstep
      · split at hstep
        · cases hstep
        · cases hstep
          exact h.keep rfl rfl rfl (by simp [Phase.items]) (fun _ => .inl) rfl
      · cases hstep
  | listDue =>
      simp only [step] at hstep
      split at hstep
      · split at hstep
        · cases hstep
          exact h.keep rfl rfl rfl (by simp [endPass, Phase.items]) (fun _ => .inl) rfl
        · cases hstep
          exact h.keep rfl rfl rfl (fun _ => comesFrom_listDuePending h.core) (fun _ => .inl) rfl
      · cases hstep
  | syncToken diskToken =>
      simp only [step] at hstep
      split at hstep
      · rename_i dueItems hphase
        have hitems : ∀ pending ∈ dueItems, ComesFrom c s.inbox.accepted pending := by
          intro pending hpending
          apply h.listed
          rw [hphase]
          exact hpending
        have hkeep : ∀ token phase passes, (∀ pending ∈ phase.items, pending ∈ dueItems) →
            Inv c { s with currentDeliveryWebhookHookToken := token, phase, passes } :=
          fun token phase passes hsub =>
            h.keep rfl rfl rfl (fun pending hpending => hitems pending (hsub pending hpending))
              (fun _ => .inl) rfl
        simp only [syncDeliveryWebhookHookToken] at hstep
        by_cases hexplicit : c.explicitDeliveryWebhookHookToken.isSome = true
        · simp only [hexplicit, if_true] at hstep
          split at hstep
          · cases hstep
            exact hkeep _ (.synced dueItems) _ (fun _ hpending => hpending)
          · cases hstep
            exact hkeep _ .idle _ (by simp [Phase.items])
        · simp only [hexplicit, if_false, Bool.false_eq_true] at hstep
          split at hstep
          · cases hstep
            exact hkeep _ (.synced dueItems) _ (fun _ hpending => hpending)
          · cases hstep
            exact hkeep _ .idle _ (by simp [Phase.items])
      · cases hstep
  | runLanes senderProfilesByDid =>
      simp only [step] at hstep
      split at hstep
      · rename_i dueItems hphase
        cases hstep
        refine h.keep rfl rfl rfl (by simp [Phase.items]) ?_ rfl
        intro lane hlane
        refine (List.mem_append.mp hlane).imp_right ?_
        intro hnew
        obtain ⟨items, hitems, rfl⟩ := List.mem_map.mp hnew
        obtain ⟨key, rfl⟩ := groupDueItemsByLane_spec hitems
        refine ⟨?_, trivial⟩
        intro pending hpending
        apply h.listed
        rw [hphase]
        exact (List.mem_filter.mp hpending).1
      · cases hstep
  | failPass =>
      simp only [step] at hstep
      split at hstep
      · cases hstep
        exact h.keep rfl rfl rfl (by simp [endPass, Phase.items]) (fun _ => .inl) rfl
      · cases hstep
        exact h.keep rfl rfl rfl (by simp [endPass, Phase.items]) (fun _ => .inl) rfl
      · cases hstep
  | lane i choice =>
      obtain ⟨lane, hlane, hstep⟩ := Option.bind_eq_some_iff.mp hstep
      obtain ⟨⟨next, state⟩, hresume, rfl⟩ := Option.map_eq_some_iff.mp hstep
      obtain ⟨hcore, hgrows, hok, hphase, hcalls⟩ :=
        resumeLane_spec h.core (h.lanes lane (List.mem_of_getElem? hlane)) hresume
      have hgrows' := hgrows.congr (u := { next with lanes := s.lanes.set i { lane with state } })
        rfl rfl
      refine ⟨hcore.congr rfl rfl rfl, ?_, ?_, ?_⟩
      · intro pending hpending
        change pending ∈ next.phase.items at hpending
        rw [hphase] at hpending
        exact (h.listed pending hpending).grows hgrows'
      · intro other hother
        obtain hother | rfl := List.mem_or_eq_of_mem_set hother
        · exact (h.lanes other hother).grows hgrows'
        · exact ⟨hok.items, hok.done⟩
      · intro frame reason hcall
        change .answering frame true reason ∈ next.calls at hcall
        rw [hcalls] at hcall
        exact (h.calls frame reason hcall).grows hgrows.history
  | finishPass =>
      simp only [step] at hstep
      split at hstep
      · split at hstep
        · cases hstep
          exact h.keep rfl rfl rfl (by simp [endPass, Phase.items]) (fun _ => .inl) rfl
        · cases hstep
      · cases hstep
  | probe reachable =>
      cases hstep
      exact h.keep rfl rfl rfl h.listed (fun _ => .inl) rfl
  | admin request env =>
      cases hstep
      obtain ⟨hcore, hgrows⟩ := admin_spec h.core request env
      exact h.grows hcore hgrows (fun _ hpending => hpending) rfl (fun _ hcall => .inl hcall)
  | stop =>
      cases hstep
      have hgrows : Grows s ({ s with runtimeStopping := true }.record [.stopped]) :=
        ⟨⟨[], (List.append_nil _).symm⟩, List.subset_cons_self _ _, fun _ => rfl⟩
      refine h.grows ⟨h.core.sound, h.core.rows, ?_, ?_, ?_, rfl, trivial, h.core.legal⟩ hgrows
        (fun _ hpending => hpending) rfl (fun _ hcall => .inl hcall)
      · intro frame n
        refine Iff.trans ?_ (h.core.stored frame n)
        simp [Runtime.record]
      · intro n hn
        obtain ⟨frame, pending, hframe, htaken, hid⟩ := h.core.delivered n hn
        exact ⟨frame, pending, hframe, List.mem_cons_of_mem _ htaken, hid⟩
      · intro hpurged
        exact (h.core.purged hpurged).imp fun _ hmem => hmem.imp_left (List.mem_cons_of_mem _)
  | restart =>
      cases hstep
      refine ⟨⟨h.core.sound, h.core.rows, ?_, ?_, ?_, rfl, trivial, h.core.legal⟩, ?_, ?_, ?_⟩
      · intro frame n
        refine Iff.trans ?_ (h.core.stored frame n)
        simp
      · intro n hn
        obtain ⟨frame, pending, hframe, htaken, hid⟩ := h.core.delivered n hn
        exact ⟨frame, pending, hframe, List.mem_cons_of_mem _ htaken, hid⟩
      · intro hpurged
        exact (h.core.purged hpurged).imp fun _ hmem => hmem.imp_left (List.mem_cons_of_mem _)
      · simp [Phase.items]
      · simp
      · simp

theorem inv_initial : Inv c (Runtime.initial c) where
  core :=
    { sound := sound_empty
      rows := by simp [Runtime.initial, Inbox.empty, Tables.rows]
      stored := by simp [Runtime.initial, Inbox.empty]
      delivered := by simp [Runtime.initial, Inbox.empty]
      purged := by simp [Runtime.initial, Inbox.empty]
      running := rfl
      legal := ⟨trivial, trivial⟩ }
  listed := by simp [Runtime.initial, Phase.items]
  lanes := by simp [Runtime.initial]
  calls := by simp [Runtime.initial]

/-- A message that was stored is kept. -/
theorem Core.isKept (h : Core c s) {frame : DeliverFrame} {serial : ℕ}
    (hstored : .stored frame serial ∈ s.history) : s.IsKept frame serial := by
  have hframe := (h.stored frame serial).mp hstored
  have hlt := (List.getElem?_eq_some_iff.mp hframe).1
  have hmem := h.sound.once.mem_iff.mpr (List.mem_range.mpr hlt)
  rw [List.mem_append, List.mem_append] at hmem
  obtain (hmem | hmem) | hmem := hmem
  · obtain ⟨m, hm, rfl⟩ := List.mem_map.mp hmem
    obtain ⟨row, hrow, rfl⟩ := mem_rows_of_messages hm
    obtain ⟨frame', hframe', hsame⟩ := h.rows row hrow
    obtain rfl := Option.some.inj (hframe.symm.trans hframe')
    exact .inl ⟨row, hrow, rfl, congrArg Message.requestId hsame.message⟩
  · obtain ⟨frame', pending, hframe', htaken, hid⟩ := h.delivered serial hmem
    obtain rfl := Option.some.inj (hframe.symm.trans hframe')
    exact .inr (.inl ⟨pending, htaken, hid⟩)
  · exact .inr (.inr (h.purged (List.ne_nil_of_mem hmem)))

/-- **Accepted messages are kept.** In every run of the connector, with any failures of the inbox
and of the webhook, stops and restarts, each message whose acceptance was acknowledged has been
stored under its request id, and every message that was stored is in the inbox, or the webhook has
taken a message with its request id, or a local client has purged dead letters. Whatever the
process has done was allowed by what it had done before. -/
theorem accepted_run {events : List Event} {s : Runtime}
    (hrun : exec (step c) (Runtime.initial c) events = some s) :
    Legal (Entry.Allowed c) s.history ∧
      (∀ frame reason, .acknowledged frame true reason ∈ s.history →
        ∃ frame' serial, .stored frame' serial ∈ s.history ∧ frame'.id = frame.id) ∧
      ∀ frame serial, .stored frame serial ∈ s.history → s.IsKept frame serial := by
  have h : Inv c s :=
    exec_invariant_of_step (Inv c) (fun _ _ _ hs => inv_step hs) inv_initial hrun
  refine ⟨h.core.legal, ?_, fun frame serial => h.core.isKept⟩
  intro frame reason hmem
  obtain ⟨later, past, heq, hallowed⟩ := h.core.legal.allowed_of_mem hmem
  have hstored : HasStored past frame.id := hallowed rfl
  refine hstored.grows ?_
  rw [heq]
  exact fun e he => List.mem_append_right _ (List.mem_cons_of_mem _ he)

end

section Example

/-- Two attempts for each message of a pass. -/
def exampleConfig : Config where
  options := exampleOptions
  policy := examplePolicy
  runtimeReplayMaxAttempts := 2
  explicitDeliveryWebhookHookToken := none
  toIso := exampleClock
  toLowerCase := id

/-- A message arrives, and a pass posts it: the webhook rejects the token, and takes the message
with the next one. A duplicate comes while it is pending, and the process is started again. -/
def exampleEvents : List Event :=
  [.deliver (exampleFrame (js "1")) exampleEnv [], .acknowledge 0 true,
    .deliver (exampleFrame (js "1")) exampleEnv [], .acknowledge 1 true, .restart,
    .startPass (js "9"), .listDue, .syncToken none, .runLanes .empty,
    .lane 0 .next, .lane 0 (.fetched (.response 401) 0), .lane 0 (.synced (some (js "token")) 0),
    .lane 0 (.fetched (.response 200) 0), .lane 0 (.marked exampleEnv [] 0), .lane 0 .next,
    .finishPass]

/-- The kinds of the entries, the last one first. -/
def Entry.kind : Entry → String
  | .stored _ _ => "stored"
  | .acknowledged _ _ _ => "acknowledged"
  | .posted _ _ _ _ => "posted"
  | .taken _ => "taken"
  | .receipt _ => "receipt"
  | .admin _ _ => "admin"
  | .stopped => "stopped"
  | .started => "started"

theorem exampleEvents_result :
    (exec (step exampleConfig) (Runtime.initial exampleConfig) exampleEvents).map
        (fun s => (s.history.map Entry.kind, s.inbox.tables.rows.length)) =
      some (["receipt", "taken", "posted", "posted", "started", "acknowledged", "acknowledged",
        "stored", "started"], 0) := by decide

theorem exampleEvents_accepted :
    ∃ s, exec (step exampleConfig) (Runtime.initial exampleConfig) exampleEvents = some s ∧
      s.inbox.tables.rows.length = 0 ∧
      Legal (Entry.Allowed exampleConfig) s.history ∧
      (∀ frame reason, .acknowledged frame true reason ∈ s.history →
        ∃ frame' serial, .stored frame' serial ∈ s.history ∧ frame'.id = frame.id) ∧
      ∀ frame serial, .stored frame serial ∈ s.history → s.IsKept frame serial := by
  obtain ⟨s, hrun, hresult⟩ := Option.map_eq_some_iff.mp exampleEvents_result
  exact ⟨s, hrun, (Prod.mk.inj hresult).2, accepted_run hrun⟩

end Example

end Clawdentity.Connector.InboundRuntime
