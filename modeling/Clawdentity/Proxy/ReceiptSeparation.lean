import Clawdentity.Proxy.ReceiptRoute
import Clawdentity.Proxy.Relay.Receipts

/-!
# The receipts of different recipients

A run of receipt posts to the session of one sender, beside the run in which only one
recipient posts. The receipts are filed under the request id alone: the first recipient
that posts for an id owns it until the receipt expires, the posts of the others are
dropped, and a query finds the receipt of the owner, whichever recipient it names.

## Main definitions

* `ReceiptPost`, `postReceipt` — a post, and what it does to the session of a sender.
* `Separated` — the answer for a recipient depends on its own posts alone.
* `Free` — the id is not held by another recipient.
* `receipts_separated` — what is separated where the id is free.
-/

namespace Clawdentity.ReceiptRoute

open Js Lib Connector Relay Lib.Run

/-! ## Runs of posts -/

/-- A post to the receipt route, and the environment in which it is recorded. -/
structure ReceiptPost where
  options : ReceiptRouteOptions
  /-- The agent that posts. -/
  auth : Option JsString
  body : Option Value
  nowIso : JsString
  env : Env

/-- What a post brings to the session of a sender. -/
def ReceiptPost.record (sender : JsString) (post : ReceiptPost) :
    Option RelayReceiptRecordInput :=
  match createRelayDeliveryReceiptPostHandler post.options post.auth post.body post.nowIso with
  | .error _ => none
  | .ok dispatch => dispatch.recorded.filter fun record => record.senderAgentDid = sender

section
variable (rt : Runtime) (policy : RelayDeliveryPolicy) (sender : JsString)

/-- A post, on the session of a sender. -/
def postReceipt (s : Session) (post : ReceiptPost) : Option Session :=
  match post.record sender with
  | none => some s
  | some record =>
      (s.tick post.env.nowMs).map fun s => (recordDeliveryReceipt rt policy s record post.env).1

/-- The posts of one recipient. -/
def ownPosts (recipient : JsString) (posts : List ReceiptPost) : List ReceiptPost :=
  posts.filter fun post => post.auth = some recipient

/-- The last receipt of a recipient for a request. -/
def latestPost (recipient requestId : JsString) (posts : List ReceiptPost) :
    Option RelayReceiptRecordInput :=
  ((posts.filterMap (ReceiptPost.record sender)).filter fun record =>
    record.requestId = requestId ∧ record.recipientAgentDid = recipient).getLast?

/-- A query of the sender for a request and a recipient finds only a receipt of this
recipient, with the status and the reason of its last post; and it finds the same after
the posts of this recipient alone. -/
def Separated (s₀ : Session) (posts : List ReceiptPost) (s : Session)
    (options : ReceiptRouteOptions) (requestId recipient : JsString) (env : Env) : Prop :=
  ∀ answer, getReceipt options (some sender) (some requestId) (some recipient) s env = .ok answer →
    (∀ receipt, answer = some receipt → receipt.recipientAgentDid = trim recipient ∧
      ∃ record, latestPost sender (trim recipient) (trim requestId) posts = some record ∧
        receipt.state = receiptState record.status ∧ receipt.reason = record.reason) ∧
    ∃ alone, exec (postReceipt rt policy sender) s₀ (ownPosts (trim recipient) posts) = some alone ∧
      getReceipt options (some sender) (some requestId) (some recipient) alone env = .ok answer

end

/-- No receipt of another recipient that is not expired stands under the request id. -/
def FreeAt (recipient requestId : JsString) (s : Session) (nowMs : ℚ) : Prop :=
  ∀ receipt ∈ s.queue.receipts.lookup requestId, nowMs < receipt.expiresAtMs →
    receipt.recipientAgentDid = recipient

instance (recipient requestId : JsString) (s : Session) (nowMs : ℚ) :
    Decidable (FreeAt recipient requestId s nowMs) :=
  inferInstanceAs (Decidable (∀ receipt ∈ s.queue.receipts.lookup requestId, _))

/-- Where the recipient posts for the request, the id is free. -/
def Free (sender recipient requestId : JsString) (s : Session) (post : ReceiptPost) : Prop :=
  ∀ record ∈ post.record sender, record.requestId = requestId →
    record.recipientAgentDid = recipient → FreeAt recipient requestId s post.env.nowMs

instance (sender recipient requestId : JsString) (s : Session) (post : ReceiptPost) :
    Decidable (Free sender recipient requestId s post) :=
  inferInstanceAs (Decidable (∀ record ∈ post.record sender, _))

/-! ## The two runs -/

/-- The session after all posts, beside the one after the posts of the recipient: what is
not expired and of the recipient stands in both, and the second has nothing else. -/
structure Beside (sender recipient requestId : JsString)
    (latest : Option RelayReceiptRecordInput) (s alone : Session) : Prop where
  clock : alone.clock ≤ s.clock
  stored : ∀ receipt, s.queue.receipts.lookup requestId = some receipt → receipt.state ≠ .queued
  own : ∀ receipt, alone.queue.receipts.lookup requestId = some receipt →
    receipt.state ≠ .queued ∧ receipt.senderAgentDid = sender ∧
      receipt.recipientAgentDid = recipient ∧
      ∃ record, latest = some record ∧ receipt.state = receiptState record.status ∧
        receipt.reason = record.reason
  same : ∀ receipt, s.clock < receipt.expiresAtMs → receipt.recipientAgentDid = recipient →
    (s.queue.receipts.lookup requestId = some receipt ↔
      alone.queue.receipts.lookup requestId = some receipt)

section
variable {rt : Runtime} {policy : RelayDeliveryPolicy} {sender recipient requestId : JsString}
  {latest : Option RelayReceiptRecordInput} {s t alone alone' : Session} {post : ReceiptPost}
  {record : RelayReceiptRecordInput} {env : Env} {nowMs : ℚ}

/-- Where the id is free, both sessions load the same receipt. -/
theorem Beside.loaded (h : Beside sender recipient requestId latest s alone)
    (hnow : s.clock ≤ nowMs) (hfree : FreeAt recipient requestId s nowMs) :
    (s.queue.prune nowMs).receipts.lookup requestId =
      (alone.queue.prune nowMs).receipts.lookup requestId := by
  apply Option.ext
  intro receipt
  rw [RelayQueueState.lookup_prune_iff (h.stored receipt),
    RelayQueueState.lookup_prune_iff fun hfound => (h.own receipt hfound).1]
  constructor
  · intro ⟨hfound, hlive⟩
    exact ⟨(h.same receipt (hnow.trans_lt hlive) (hfree receipt hfound hlive)).mp hfound, hlive⟩
  · intro ⟨hfound, hlive⟩
    exact ⟨(h.same receipt (hnow.trans_lt hlive) (h.own receipt hfound).2.2.1).mpr hfound, hlive⟩

/-- A session that gets only receipts of others, and one that only loses expired ones. -/
theorem Beside.pass (h : Beside sender recipient requestId latest s alone)
    (hclock : s.clock ≤ t.clock) (halone : alone'.clock ≤ t.clock)
    (hstored : ∀ receipt, t.queue.receipts.lookup requestId = some receipt →
      receipt.state ≠ .queued ∧ (receipt.recipientAgentDid = recipient →
        s.queue.receipts.lookup requestId = some receipt))
    (hkept : ∀ receipt, t.clock < receipt.expiresAtMs → receipt.recipientAgentDid = recipient →
      s.queue.receipts.lookup requestId = some receipt →
      t.queue.receipts.lookup requestId = some receipt)
    (hown : ∀ receipt, alone'.queue.receipts.lookup requestId = some receipt →
      alone.queue.receipts.lookup requestId = some receipt)
    (hownKept : ∀ receipt, t.clock < receipt.expiresAtMs →
      alone.queue.receipts.lookup requestId = some receipt →
      alone'.queue.receipts.lookup requestId = some receipt) :
    Beside sender recipient requestId latest t alone' := by
  refine ⟨halone, fun receipt hfound => (hstored receipt hfound).1,
    fun receipt hfound => h.own receipt (hown receipt hfound), ?_⟩
  intro receipt hlive hrecipient
  have hsame := h.same receipt (hclock.trans_lt hlive) hrecipient
  constructor
  · intro hfound
    exact hownKept receipt hlive (hsame.mp ((hstored receipt hfound).2 hrecipient))
  · intro hfound
    exact hkept receipt hlive hrecipient (hsame.mpr (hown receipt hfound))

/-! ## One post -/

/-- Who has posted a record. -/
theorem record_eq_some (h : post.record sender = some record) :
    post.auth = some record.recipientAgentDid ∧ record.senderAgentDid = sender := by
  unfold ReceiptPost.record at h
  split at h
  · cases h
  · rename_i dispatch hdispatch
    obtain ⟨hrecorded, hsender⟩ := Option.filter_eq_some_iff.mp h
    obtain ⟨did, _, posted, hauth, _, _, hrecipient, _, hposted⟩ := recorded_of_post hdispatch
    cases hposted.symm.trans hrecorded
    rw [hrecipient]
    exact ⟨hauth, of_decide_eq_true hsender⟩

/-- What recording leaves under another request id. -/
theorem lookup_record_of_ne (h : requestId ≠ record.requestId) :
    (recordDeliveryReceipt rt policy s record env).1.queue.receipts.lookup requestId =
      (s.queue.prune env.nowMs).receipts.lookup requestId := by
  rw [recordDeliveryReceipt_queue]
  split
  · rfl
  · exact Receipts.lookup_upsert_of_ne h

/-- What recording leaves under the request id of the record. -/
theorem lookup_record_self :
    (recordDeliveryReceipt rt policy s record env).1.queue.receipts.lookup record.requestId =
      if (s.queue.prune env.nowMs).heldByOther record = true then
        (s.queue.prune env.nowMs).receipts.lookup record.requestId
      else some (recordedReceipt rt policy
        ((s.queue.prune env.nowMs).receipts.lookup record.requestId) record env) := by
  rw [recordDeliveryReceipt_queue]
  split
  · rfl
  · exact Receipts.lookup_upsert_self

/-- A post of another recipient. -/
theorem Beside.other (h : Beside sender recipient requestId latest s alone)
    (hclock : s.clock ≤ env.nowMs) (hother : record.recipientAgentDid ≠ recipient)
    (htclock : t.clock = env.nowMs)
    (htqueue : t.queue = (recordDeliveryReceipt rt policy s record env).1.queue) :
    Beside sender recipient requestId latest t alone := by
  have hpruned : ∀ receipt, (s.queue.prune env.nowMs).receipts.lookup requestId = some receipt →
      receipt.state ≠ .queued ∧ s.queue.receipts.lookup requestId = some receipt := by
    intro receipt hfound
    have hold := Receipts.lookup_keep hfound
    have hfirst := RelayQueueState.lookup_dropExpiredReceipts s.queue.deliveries hold
    exact ⟨h.stored receipt hfirst, hfirst⟩
  refine h.pass (by rw [htclock]; exact hclock) (by rw [htclock]; exact h.clock.trans hclock)
    ?_ ?_ (fun _ hfound => hfound) (fun _ _ hfound => hfound)
  · intro receipt hfound
    rw [htqueue] at hfound
    by_cases hid : requestId = record.requestId
    · subst hid
      rw [lookup_record_self] at hfound
      split at hfound
      · obtain ⟨hstate, hold⟩ := hpruned receipt hfound
        exact ⟨hstate, fun _ => hold⟩
      · cases hfound
        refine ⟨?_, fun hrecipient => absurd hrecipient hother⟩
        cases hstatus : record.status <;> simp [recordedReceipt, receiptState, hstatus]
    · rw [lookup_record_of_ne hid] at hfound
      obtain ⟨hstate, hold⟩ := hpruned receipt hfound
      exact ⟨hstate, fun _ => hold⟩
  · intro receipt hlive hrecipient hfound
    rw [htclock] at hlive
    have hloaded := (RelayQueueState.lookup_prune_iff (h.stored receipt)).mpr ⟨hfound, hlive⟩
    rw [htqueue]
    by_cases hid : requestId = record.requestId
    · -- The id is held by the recipient, so the post is dropped.
      subst hid
      have hheld : (s.queue.prune env.nowMs).heldByOther record = true := by
        rw [RelayQueueState.heldByOther, hloaded, Option.any_some, decide_eq_true_eq, hrecipient]
        exact .inr (Ne.symm hother)
      rw [lookup_record_self, if_pos hheld]
      exact hloaded
    · rw [lookup_record_of_ne hid]
      exact hloaded

/-- A post of the recipient for another request. -/
theorem Beside.elsewhere (h : Beside sender recipient requestId latest s alone)
    (hclock : s.clock ≤ env.nowMs) (hid : requestId ≠ record.requestId)
    (htclock : t.clock = env.nowMs) (haclock : alone'.clock = env.nowMs)
    (htqueue : t.queue = (recordDeliveryReceipt rt policy s record env).1.queue)
    (haqueue : alone'.queue = (recordDeliveryReceipt rt policy alone record env).1.queue) :
    Beside sender recipient requestId latest t alone' := by
  have hown : ∀ receipt, alone.queue.receipts.lookup requestId = some receipt →
      receipt.state ≠ .queued := fun receipt hfound => (h.own receipt hfound).1
  refine h.pass (by rw [htclock]; exact hclock) (by rw [htclock, haclock]) ?_ ?_ ?_ ?_
  · intro receipt hfound
    rw [htqueue, lookup_record_of_ne hid, RelayQueueState.lookup_prune_iff (h.stored receipt)]
      at hfound
    exact ⟨h.stored receipt hfound.1, fun _ => hfound.1⟩
  · intro receipt hlive _ hfound
    rw [htclock] at hlive
    rw [htqueue, lookup_record_of_ne hid, RelayQueueState.lookup_prune_iff (h.stored receipt)]
    exact ⟨hfound, hlive⟩
  · intro receipt hfound
    rw [haqueue, lookup_record_of_ne hid, RelayQueueState.lookup_prune_iff (hown receipt)] at hfound
    exact hfound.1
  · intro receipt hlive hfound
    rw [htclock] at hlive
    rw [haqueue, lookup_record_of_ne hid, RelayQueueState.lookup_prune_iff (hown receipt)]
    exact ⟨hfound, hlive⟩

/-- A post of the recipient for the request: both sessions write the same receipt. -/
theorem Beside.mine (h : Beside sender record.recipientAgentDid record.requestId latest s alone)
    (hclock : s.clock ≤ env.nowMs) (hsender : record.senderAgentDid = sender)
    (hfree : FreeAt record.recipientAgentDid record.requestId s env.nowMs)
    (htclock : t.clock = env.nowMs) (haclock : alone'.clock = env.nowMs)
    (htqueue : t.queue = (recordDeliveryReceipt rt policy s record env).1.queue)
    (haqueue : alone'.queue = (recordDeliveryReceipt rt policy alone record env).1.queue) :
    Beside sender record.recipientAgentDid record.requestId (some record) t alone' := by
  have hloaded := h.loaded hclock hfree
  have hheld : (alone.queue.prune env.nowMs).heldByOther record = false := by
    unfold RelayQueueState.heldByOther
    cases hfound : (alone.queue.prune env.nowMs).receipts.lookup record.requestId with
    | none => rfl
    | some receipt =>
        have hold := RelayQueueState.lookup_dropExpiredReceipts alone.queue.deliveries
          (Receipts.lookup_keep hfound)
        obtain ⟨_, hreceiptSender, hrecipient, _⟩ := h.own receipt hold
        simp [hreceiptSender, hrecipient, hsender]
  have hheld' : (s.queue.prune env.nowMs).heldByOther record = false := by
    rw [RelayQueueState.heldByOther, hloaded]
    exact hheld
  have hwritten : alone'.queue.receipts.lookup record.requestId =
      some (recordedReceipt rt policy
        ((alone.queue.prune env.nowMs).receipts.lookup record.requestId) record env) := by
    rw [haqueue, lookup_record_self, hheld, if_neg Bool.false_ne_true]
  have hsame : t.queue.receipts.lookup record.requestId =
      alone'.queue.receipts.lookup record.requestId := by
    rw [hwritten, htqueue, lookup_record_self, hheld', if_neg Bool.false_ne_true, hloaded]
  have hstate : receiptState record.status ≠ .queued := by
    cases record.status <;> simp [receiptState]
  refine ⟨by rw [htclock, haclock], ?_, ?_, ?_⟩
  · intro receipt hfound
    rw [hsame, hwritten] at hfound
    cases hfound
    exact hstate
  · intro receipt hfound
    rw [hwritten] at hfound
    cases hfound
    exact ⟨hstate, hsender, rfl, record, rfl, rfl, rfl⟩
  · intro receipt _ _
    rw [hsame]

theorem latestPost_append (done : List ReceiptPost) (post : ReceiptPost) :
    latestPost sender recipient requestId (done ++ [post]) =
      match post.record sender with
      | none => latestPost sender recipient requestId done
      | some record =>
          if record.requestId = requestId ∧ record.recipientAgentDid = recipient then some record
          else latestPost sender recipient requestId done := by
  unfold latestPost
  cases hrecord : post.record sender with
  | none => simp [List.filterMap_append, hrecord]
  | some record =>
      by_cases hmine : record.requestId = requestId ∧ record.recipientAgentDid = recipient
      · simp [List.filterMap_append, hrecord, hmine]
      · simp [List.filterMap_append, List.filter_append, hrecord, hmine]

/-- **One post**, beside the same post where only the recipient posts. -/
theorem beside_step {done : List ReceiptPost}
    (h : Beside sender recipient requestId (latestPost sender recipient requestId done) s alone)
    (hfree : Free sender recipient requestId s post)
    (hstep : postReceipt rt policy sender s post = some t) :
    ∃ alone', exec (postReceipt rt policy sender) alone (ownPosts recipient [post]) = some alone' ∧
      Beside sender recipient requestId
        (latestPost sender recipient requestId (done ++ [post])) t alone' := by
  unfold postReceipt at hstep
  rw [latestPost_append]
  cases hrecord : post.record sender with
  | none =>
      rw [hrecord] at hstep
      cases hstep
      have hsilent : postReceipt rt policy sender alone post = some alone := by
        rw [postReceipt, hrecord]
      refine ⟨alone, ?_, h⟩
      by_cases hown : post.auth = some recipient
      · simp [ownPosts, hown, exec, hsilent]
      · simp [ownPosts, hown]
  | some record =>
      obtain ⟨hauth, hsender⟩ := record_eq_some hrecord
      rw [hrecord] at hstep
      obtain ⟨s₁, htick, rfl⟩ := Option.map_eq_some_iff.mp hstep
      obtain ⟨hclock, hs₁, _, hqueue⟩ := tick_spec htick
      rw [hs₁] at hclock
      have htclock : (recordDeliveryReceipt rt policy s₁ record post.env).1.clock =
          post.env.nowMs := recordDeliveryReceipt_clock.trans hs₁
      have htqueue : (recordDeliveryReceipt rt policy s₁ record post.env).1.queue =
          (recordDeliveryReceipt rt policy s record post.env).1.queue := by
        rw [recordDeliveryReceipt_queue, recordDeliveryReceipt_queue, hqueue]
      by_cases hown : record.recipientAgentDid = recipient
      · subst hown
        have htickAlone : alone.tick post.env.nowMs = some { alone with clock := post.env.nowMs } :=
          if_pos (h.clock.trans hclock)
        have hposted : exec (postReceipt rt policy sender) alone
            (ownPosts record.recipientAgentDid [post]) =
            some (recordDeliveryReceipt rt policy { alone with clock := post.env.nowMs } record
              post.env).1 := by
          simp [ownPosts, hauth, exec, postReceipt, hrecord, htickAlone]
        have haclock : (recordDeliveryReceipt rt policy { alone with clock := post.env.nowMs } record
            post.env).1.clock = post.env.nowMs := recordDeliveryReceipt_clock
        have haqueue : (recordDeliveryReceipt rt policy { alone with clock := post.env.nowMs } record
            post.env).1.queue = (recordDeliveryReceipt rt policy alone record post.env).1.queue := by
          rw [recordDeliveryReceipt_queue, recordDeliveryReceipt_queue]
          rfl
        refine ⟨_, hposted, ?_⟩
        by_cases hid : record.requestId = requestId
        · subst hid
          simp only [and_self, if_true]
          exact h.mine hclock hsender (hfree record hrecord rfl rfl) htclock haclock htqueue haqueue
        · simp only [hid, false_and, if_false]
          exact h.elsewhere hclock (Ne.symm hid) htclock haclock htqueue haqueue
      · have hother : ¬ (record.requestId = requestId ∧ record.recipientAgentDid = recipient) :=
          fun hboth => hown hboth.2
        refine ⟨alone, by simp [ownPosts, hauth, hown], ?_⟩
        simp only [if_neg hother]
        exact h.other hclock hown htclock htqueue

/-- **All posts**, beside those of the recipient. -/
theorem beside_run {posts : List ReceiptPost} : ∀ {done : List ReceiptPost} {s alone : Session},
    Beside sender recipient requestId (latestPost sender recipient requestId done) s alone →
    AllSteps (postReceipt rt policy sender) (Free sender recipient requestId) s posts →
    exec (postReceipt rt policy sender) s posts = some t →
    ∃ alone', exec (postReceipt rt policy sender) alone (ownPosts recipient posts) = some alone' ∧
      Beside sender recipient requestId
        (latestPost sender recipient requestId (done ++ posts)) t alone' := by
  induction posts with
  | nil =>
      intro done s alone h _ hrun
      cases hrun
      exact ⟨alone, rfl, by rwa [List.append_nil]⟩
  | cons post posts ih =>
      intro done s alone h hfree hrun
      obtain ⟨m, hm, hrest⟩ := exec_cons_eq_some.mp hrun
      obtain ⟨mid, hmid, hbeside⟩ := beside_step h hfree.1 hm
      obtain ⟨last, hlast, hend⟩ := ih hbeside (hfree.2 m hm) hrest
      have hsplit : ownPosts recipient (post :: posts) =
          ownPosts recipient [post] ++ ownPosts recipient posts := by
        rw [ownPosts, ownPosts, ownPosts, ← List.filter_append]
        rfl
      refine ⟨last, ?_, by rwa [List.append_assoc] at hend⟩
      rw [hsplit, exec_append, hmid]
      exact hlast

/-! ## Queries -/

/-- **When the receipts of different recipients do not interfere.** In every run of posts to
the session of a sender that starts without a receipt under the request id: where the id is
not held by a receipt of another recipient that is not expired, at each post of the
recipient for it and at the query, the query finds only the last receipt of the recipient,
and the same as after the posts of this recipient alone. -/
theorem receipts_separated (rt : Runtime) (policy : RelayDeliveryPolicy) (sender : JsString)
    (s₀ s : Session) (posts : List ReceiptPost) (options : ReceiptRouteOptions)
    (requestId recipient : JsString) (env : Env)
    (hempty : s₀.queue.receipts.lookup (trim requestId) = none)
    (hrun : exec (postReceipt rt policy sender) s₀ posts = some s) (hclock : s.clock ≤ env.nowMs)
    (hfree : AllSteps (postReceipt rt policy sender)
      (Free sender (trim recipient) (trim requestId)) s₀ posts)
    (hquery : FreeAt (trim recipient) (trim requestId) s env.nowMs) :
    Separated rt policy sender s₀ posts s options requestId recipient env := by
  have hstart : Beside sender (trim recipient) (trim requestId)
      (latestPost sender (trim recipient) (trim requestId) []) s₀ s₀ := by
    refine ⟨le_refl _, ?_, ?_, fun _ _ _ => Iff.rfl⟩
    · intro receipt hfound
      rw [hempty] at hfound
      cases hfound
    · intro receipt hfound
      rw [hempty] at hfound
      cases hfound
  obtain ⟨alone, halone, hbeside⟩ := beside_run hstart hfree hrun
  rw [List.nil_append] at hbeside
  have hloaded := hbeside.loaded hclock hquery
  have hsame : answerLookup s env ⟨trim requestId, sender⟩ =
      answerLookup alone env ⟨trim requestId, sender⟩ := by
    apply answerLookup_congr
    rw [trim_trim]
    exact hloaded
  intro answer hanswer
  obtain ⟨hlookup, rfl⟩ := getReceipt_eq_ok.mp hanswer
  refine ⟨?_, alone, halone, getReceipt_eq_ok.mpr ⟨hlookup, hsame⟩⟩
  intro receipt hfound
  rw [hsame] at hfound
  have hloadedAlone := (answerLookup_spec hfound).1
  rw [trim_trim] at hloadedAlone
  have hstored := RelayQueueState.lookup_dropExpiredReceipts alone.queue.deliveries
    (Receipts.lookup_keep hloadedAlone)
  exact (hbeside.own receipt hstored).2.2

end

/-! ### Two recipients that post for the same request -/

section Example

def exampleA : JsString := js "did:cdi:registry.example.com:agent:01HF7YAT00W6W7CM7N3W5FDXA0"

def exampleB₁ : JsString := js "did:cdi:registry.example.com:agent:01HF7YAT00W6W7CM7N3W5FDXB0"

def exampleB₂ : JsString := js "did:cdi:registry.example.com:agent:01HF7YAT00W6W7CM7N3W5FDXC0"

def exampleRequestId : JsString := js "01HF7YAT00W6W7CM7N3W5FDXR0"

/-- A trust store in which the sender has paired with everyone. -/
def examplePaired : ReceiptRouteOptions where
  isPairAllowed _ _ := some true
  environment := some (js "local")
  hasReceiptQueue := false
  hasSessionNamespace := true

def examplePost (recipient : JsString) (status : ReceiptStatus) (nowMs : ℚ) (ulid : String) :
    ReceiptPost where
  options := examplePaired
  auth := some recipient
  body := some (RelayReceiptRecordInput.toJson
    { requestId := exampleRequestId, senderAgentDid := exampleA, recipientAgentDid := recipient,
      status, reason := none })
  nowIso := js "2023-11-14T22:13:20.000Z"
  env := exampleEnv nowMs ulid "01HF7YAT00W6W7CM7N3W5FDXF0"

def exampleTwo : List ReceiptPost :=
  [examplePost exampleB₁ .deliveredToWebhook 1700000000000 "01HF7YAT00W6W7CM7N3W5FDXD1",
    examplePost exampleB₂ .deadLettered 1700000001000 "01HF7YAT00W6W7CM7N3W5FDXD2"]

def exampleQueryEnv : Env :=
  exampleEnv 1700000002000 "01HF7YAT00W6W7CM7N3W5FDXD3" "01HF7YAT00W6W7CM7N3W5FDXF3"

theorem exampleTwo_answers :
    (exec (postReceipt exampleRuntime defaultPolicy exampleA) .empty exampleTwo).map (fun s =>
      (decide (s.clock ≤ exampleQueryEnv.nowMs),
        (getReceipt examplePaired (some exampleA) (some exampleRequestId) (some exampleB₂) s
          exampleQueryEnv).toOption.map (·.map (·.recipientAgentDid)))) =
      some (true, some (some exampleB₁)) := by
  decide +kernel

/-- **The receipts of different recipients interfere.** -/
theorem not_receipts_separated :
    ¬ ∀ (rt : Runtime) (policy : RelayDeliveryPolicy) (sender : JsString) (s₀ s : Session)
      (posts : List ReceiptPost) (options : ReceiptRouteOptions) (requestId recipient : JsString)
      (env : Env),
      s₀.queue.receipts.lookup (trim requestId) = none →
      exec (postReceipt rt policy sender) s₀ posts = some s → s.clock ≤ env.nowMs →
      Separated rt policy sender s₀ posts s options requestId recipient env := by
  intro h
  obtain ⟨s, hrun, hanswers⟩ := Option.map_eq_some_iff.mp exampleTwo_answers
  obtain ⟨hclock, hfound⟩ := Prod.mk.inj hanswers
  have hseparated := h exampleRuntime defaultPolicy exampleA .empty s exampleTwo examplePaired
    exampleRequestId exampleB₂ exampleQueryEnv (by decide) hrun (of_decide_eq_true hclock)
  cases hget : getReceipt examplePaired (some exampleA) (some exampleRequestId) (some exampleB₂) s
      exampleQueryEnv with
  | error e =>
      rw [hget] at hfound
      cases hfound
  | ok answer =>
      rw [hget] at hfound
      obtain ⟨receipt, hreceipt, hrecipient⟩ := Option.map_eq_some_iff.mp (Option.some.inj hfound)
      have hown := ((hseparated answer hget).1 receipt hreceipt).1
      rw [hrecipient] at hown
      exact absurd hown (by decide)

/-- The recipient that posts first is found with its own receipt. -/
theorem exampleTwo_separated :
    ∃ s, exec (postReceipt exampleRuntime defaultPolicy exampleA) .empty exampleTwo = some s ∧
      Separated exampleRuntime defaultPolicy exampleA .empty exampleTwo s examplePaired
        exampleRequestId exampleB₁ exampleQueryEnv := by
  have hfacts : (exec (postReceipt exampleRuntime defaultPolicy exampleA) .empty exampleTwo).map
      (fun s => (decide (s.clock ≤ exampleQueryEnv.nowMs),
        decide (FreeAt (trim exampleB₁) (trim exampleRequestId) s exampleQueryEnv.nowMs))) =
      some (true, true) := by
    decide +kernel
  obtain ⟨s, hrun, hs⟩ := Option.map_eq_some_iff.mp hfacts
  obtain ⟨hclock, hquery⟩ := Prod.mk.inj hs
  exact ⟨s, hrun, receipts_separated exampleRuntime defaultPolicy exampleA .empty s exampleTwo
    examplePaired exampleRequestId exampleB₁ exampleQueryEnv (by decide) hrun
    (of_decide_eq_true hclock) (by decide) (of_decide_eq_true hquery)⟩

end Example

end Clawdentity.ReceiptRoute
