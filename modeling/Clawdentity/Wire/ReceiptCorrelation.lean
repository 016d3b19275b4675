import Clawdentity.Proxy.ReceiptRoute
import Clawdentity.Rust.Inbound
import Clawdentity.Wire.ProxyToConnector

/-!
# Which message a receipt is for

The id of a message crosses four components: the enqueue frame of the sender, the input
of the relay session, the deliver frame and the receipt that the connector of the
recipient posts. The deliver frame has an id of its own, and the connector posts that one:
the receipt frame that comes back and the receipt that is stored carry the id of the
deliver frame and not the one of the enqueue frame.

## Main definitions

* `Receipted` — a message, from its enqueue frame to a receipt that the proxy records.
* `Correlated` — the sender can match the receipt to its own frame.
* `receipt_correlated_iff` — it can only if the two ids happen to be the same.
-/

namespace Clawdentity.Wire

open Js Lib Connector Relay ReceiptRoute Lib.Interleave Lib.Run
open Rust (Serde RString ofJs toJs)

/-! ## From the message to the receipt -/

/-- The environment of some code of the run. -/
def UsedIn (moves : List (Move (Request × Env) Choice)) (env : Env) : Prop :=
  (∃ request, .start (request, env) ∈ moves) ∨ ∃ i, .resume i (.proceed env) ∈ moves

/-- The message that came as an enqueue frame from the sender was sent to the connector of
the recipient as the frame `f`, which it read; the connector has posted a receipt for that
frame, and the route has passed on the record. -/
inductive Receipted (rt : Runtime) (policy : RelayDeliveryPolicy) (serde : Serde)
    (crates : Rust.Inbound.Crates) (options : ReceiptRouteOptions) (frame : EnqueueFrame)
    (sender : JsString) (moves : List (Move (Request × Env) Choice)) (f : SentFrame)
    (record : RelayReceiptRecordInput) : Prop
  | intro {message : Value} {input : RelayDeliveryInput} {p : Pool Session Call}
      {deliver : Rust.DeliverFrame} {events : List Rust.Inbound.Event} {st : Rust.Inbound.State}
      {payload : Rust.Inbound.DeliveryReceiptPayload} {auth : Option JsString} {nowIso : JsString}
      {dispatch : ReceiptDispatch}
      (hmessage : parseFrame rt.platform message = some (.enqueue frame))
      (hinput : parseDeliveryInput rt.platform
        (toRelayDeliveryInputFromEnqueueFrame frame sender).toJson = some input)
      (hrun : exec (program rt policy).step idle moves = some p)
      (hsent : f ∈ p.shared.history.sent) (hfor : SentFor p.shared.history input f)
      (hreceive : receive serde crates.ulidFromString f.frame = .ok (.deliver deliver))
      (hevents : exec (Rust.Inbound.step crates) .empty events = some st)
      (hposted : ⟨deliver, payload⟩ ∈ st.posted)
      (hpost : createRelayDeliveryReceiptPostHandler options auth (some payload.toJson) nowIso =
        .ok dispatch)
      (hnamespace : options.hasSessionNamespace = true)
      (hrecord : dispatch.recorded = some record) :
      Receipted rt policy serde crates options frame sender moves f record

section
variable (rt : Runtime) (policy : RelayDeliveryPolicy)

/-- The receipt frames that recording a receipt pushes. -/
def pushedBy (s : Session) (record : RelayReceiptRecordInput) (env : Env) : List Value :=
  (recordDeliveryReceipt rt policy s record env).1.history.pushed.drop s.history.pushed.length

/-- A receipt frame names the frame of the sender, and until the receipt expires the sender
finds it under the id of that frame. -/
def Correlated (options : ReceiptRouteOptions) (frame : EnqueueFrame) (sender : JsString)
    (record : RelayReceiptRecordInput) (s : Session) (env : Env) (v : Value) : Prop :=
  getStr v "originalFrameId" = some frame.id ∧
    ∀ later : Env, env.nowMs ≤ later.nowMs → later.nowMs < env.nowMs + policy.queueTtlMs →
      ∃ receipt, getReceipt options (some sender) (some frame.id) (some frame.toAgentDid)
          (recordDeliveryReceipt rt policy s record env).1 later = .ok (some receipt) ∧
        receipt.requestId = record.requestId ∧ receipt.recipientAgentDid = record.recipientAgentDid ∧
        receipt.state = receiptState record.status ∧ receipt.reason = record.reason

end

section
variable {rt : Runtime} {policy : RelayDeliveryPolicy} {serde : Serde}
  {crates : Rust.Inbound.Crates} {options : ReceiptRouteOptions} {frame : EnqueueFrame}
  {sender : JsString} {moves : List (Move (Request × Env) Choice)} {f : SentFrame}
  {record : RelayReceiptRecordInput} {s : Session} {env : Env} {v : Value}

/-! ## The ids on the way -/

/-- What a deliver frame of the proxy carries. -/
theorem serialized_deliver {sent : RelayDeliveryInput}
    (h : serializeFrame rt.platform (.deliver (toDeliverFrame rt sent env)) = some v) :
    ∃ g : DeliverFrame, v = (Frame.deliver g).toJson ∧ g.id = env.frameId ∧
      g.fromAgentDid = sent.senderAgentDid ∧ g.toAgentDid = sent.recipientAgentDid ∧
      g.deliverySource = sent.deliverySource.map trim ∧ Protocol.isUlid g.id = true ∧
      Protocol.isAgentDid g.fromAgentDid = true ∧ Protocol.isAgentDid g.toAgentDid = true := by
  obtain ⟨f, hf, rfl⟩ := Option.map_eq_some_iff.mp h
  obtain ⟨g, hg, rfl⟩ := Option.map_eq_some_iff.mp hf
  obtain ⟨⟨_, _, _, _, _, hvalid⟩, rfl⟩ := DeliverFrame.validate_eq_some.mp hg
  simp only [Bool.and_eq_true, FrameBase.isValid] at hvalid
  exact ⟨_, rfl, rfl, rfl, rfl, rfl, hvalid.1.1.1.1, hvalid.1.2, hvalid.2⟩

/-- The texts of a deliver frame that the client reads. -/
theorem received_deliver {ulidFromString : RString → Bool} {g : DeliverFrame}
    {deliver : Rust.DeliverFrame}
    (h : receive serde ulidFromString (Frame.deliver g).toJson = .ok (.deliver deliver)) :
    ofJs g.id = some deliver.id ∧ ofJs g.fromAgentDid = some deliver.fromAgentDid ∧
      ofJs g.toAgentDid = some deliver.toAgentDid ∧
      Rust.ofJsOpt g.deliverySource = some deliver.deliverySource := by
  obtain ⟨w, hw, hframe, _⟩ := receive_eq_ok.mp h
  obtain ⟨hid, hsender, hrecipient, hsource⟩ :=
    Rust.deliverOfValue_eq_some (Rust.frameOfValue_deliver hframe)
  have hread := read_eq_some hw
  rw [Rust.getString_read hread (s := g.id) (by simp [Frame.fields, FrameBase.fields])] at hid
  rw [Rust.getString_read hread (s := g.fromAgentDid)
    (by simp [Frame.fields, FrameBase.fields])] at hsender
  rw [Rust.getString_read hread (s := g.toAgentDid)
    (by simp [Frame.fields, FrameBase.fields])] at hrecipient
  rw [Rust.getOptString_read hread (s := g.deliverySource)
    (by simp [Frame.fields, FrameBase.fields])] at hsource
  exact ⟨hid, hsender, hrecipient, hsource⟩

/-- A text that the connector keeps or trims comes back as it was. -/
theorem trim_toJs_graphic {text : JsString} (htext : IsGraphic text) {read kept : RString}
    (hread : ofJs text = some read) (hkept : kept = read ∨ kept = Rust.trim read) :
    trim (toJs kept) = text := by
  rw [Rust.ofJs_graphic htext] at hread
  cases hread
  have hsame : kept = text.map Utf16.ofUnit := by
    rcases hkept with hkept | hkept
    · exact hkept
    · rw [hkept, Rust.trim_graphic htext]
  rw [hsame, Rust.toJs_graphic htext, htext.trim_eq]

theorem nonBlank_text {fields : List (String × Option Value)} {key : String} {text got : JsString}
    (hfield : Json.lookupField key fields = some (.str text))
    (h : nonBlank (object fields) key = some got) : got = trim text := by
  obtain ⟨s, hs, _, rfl⟩ := nonBlank_eq_some.mp h
  rw [getStr_object hfield] at hs
  cases hs
  rfl

/-- **The record of a receipt names the deliver frame**: its id was made when the frame was
sent, and its agents are those of the message. -/
theorem Receipted.record_names
    (h : Receipted rt policy serde crates options frame sender moves f record) :
    ∃ sendEnv, UsedIn moves sendEnv ∧ getStr f.frame "id" = some sendEnv.frameId ∧
      record.requestId = sendEnv.frameId ∧ record.senderAgentDid = sender ∧
      record.recipientAgentDid = frame.toAgentDid ∧ Protocol.isAgentDid sender = true ∧
      Protocol.isAgentDid frame.toAgentDid = true ∧
      options.isPairAllowed sender frame.toAgentDid = some true ∧
      options.hasSessionNamespace = true := by
  obtain @⟨_, input, p, _, _, _, _, _, _, _, _, hinput, hrun, hsent, hfor, hreceive, hevents,
    hposted, hpost, hnamespace, hrecord⟩ := h
  -- The frame was built from the input, in some environment of the run.
  have hh : HistoryOk rt (fun _ => True) (UsedIn moves) p.shared.history := by
    refine run_history_ok ?_ hrun
    intro e he
    match e, he with
    | .start (request, env), he => exact ⟨trivial, .inl ⟨request, he⟩⟩
    | .resume _ (.settle _), _ => trivial
    | .resume i (.proceed env), he => exact .inr ⟨i, he⟩
  obtain ⟨sendEnv, hused, hframe⟩ := hh.sent f hsent
  obtain ⟨g, hg, hid, hfrom, hto, _, hulid, hsenderDid, hrecipientDid⟩ := serialized_deliver hframe
  obtain ⟨hparsed, _, _⟩ := parseDeliveryInput_toJson hinput
  have hagents : f.source.input.senderAgentDid = sender ∧
      f.source.input.recipientAgentDid = frame.toAgentDid := by
    obtain ⟨_, ⟨_, hsource⟩ | ⟨_, hsource⟩⟩ := hh.sentFor hsent hfor
    · rw [hsource, hparsed]
      exact ⟨rfl, rfl⟩
    · rw [hsource, hparsed]
      exact ⟨rfl, rfl⟩
  rw [hagents.1] at hfrom
  rw [hagents.2] at hto
  -- The connector reads the frame and posts its texts.
  rw [hg] at hreceive
  obtain ⟨hreadId, hreadFrom, hreadTo, _⟩ := received_deliver hreceive
  obtain ⟨hnameId, hnameFrom, hnameTo⟩ := (Rust.Inbound.run_tracks hevents).posted _ hposted
  obtain ⟨_, _, posted, _, hbody, hparse, _, hpair, hrecorded⟩ := recorded_of_post hpost
  cases hrecorded.symm.trans hrecord
  cases hbody
  obtain ⟨hrequestId, hsender, hrecipient, _⟩ := parseReceiptRecordInput_eq_some.mp hparse
  have hrecordId := (nonBlank_text (by simp) hrequestId).trans
    (trim_toJs_graphic (Protocol.isUlid_graphic hulid) hreadId hnameId)
  have hrecordFrom := (nonBlank_text (by simp) hsender).trans
    (trim_toJs_graphic (Protocol.isAgentDid_graphic hsenderDid) hreadFrom hnameFrom)
  have hrecordTo := (nonBlank_text (by simp) hrecipient).trans
    (trim_toJs_graphic (Protocol.isAgentDid_graphic hrecipientDid) hreadTo hnameTo)
  rw [hid] at hrecordId
  rw [hfrom] at hrecordFrom hsenderDid
  rw [hto] at hrecordTo hrecipientDid
  rw [hrecordFrom, hrecordTo] at hpair
  refine ⟨sendEnv, hused, ?_, hrecordId, hrecordFrom, hrecordTo, hsenderDid, hrecipientDid, hpair,
    hnamespace⟩
  rw [hg, ← hid]
  exact getStr_object (by simp [Frame.fields, FrameBase.fields])

/-! ## The receipt of the sender -/

/-- What recording a receipt leaves behind where it pushes a frame. -/
theorem recordDeliveryReceipt_pushed (h : v ∈ pushedBy rt policy s record env) :
    toReceiptFramePayload rt record env = some v ∧
      ∃ existing, (recordDeliveryReceipt rt policy s record env).1.queue.receipts.lookup
        record.requestId = some (recordedReceipt rt policy existing record env) := by
  have hload := (loadQueueState_spec policy s env.nowMs).1
  unfold pushedBy recordDeliveryReceipt pushReceiptFrameToActiveSockets at h
  unfold recordDeliveryReceipt pushReceiptFrameToActiveSockets
  simp only at h ⊢
  split at h
  · rw [hload, List.drop_length] at h
    cases h
  · rename_i hmine
    simp only [if_neg hmine]
    split at h
    · rename_i hchanged
      simp only [if_pos hchanged]
      split at h
      · simp only [Session.scheduleNextAlarm, Session.saveQueueState, hload,
          List.drop_length] at h
        cases h
      · rename_i frame hframe
        simp only [Session.scheduleNextAlarm, Session.saveQueueState, hload,
          List.drop_left] at h
        rw [List.eq_of_mem_replicate h, hframe]
        refine ⟨rfl, (s.loadQueueState env.nowMs).2.receipts.lookup record.requestId, ?_⟩
        rw [Session.queue_of_stored rfl]
        exact Receipts.lookup_upsert_self
    · simp only [Session.scheduleNextAlarm, Session.saveQueueState, hload,
        List.drop_length] at h
      cases h

/-- A receipt that is stored, not queued and not expired is found by its sender. -/
theorem getReceipt_of_stored {requestId recipient : JsString} {receipt : RelayDeliveryReceipt}
    {later : Env} (hid : IsGraphic requestId ∧ requestId ≠ [])
    (hsender : IsGraphic sender ∧ sender ≠ []) (hrecipient : IsGraphic recipient ∧ recipient ≠ [])
    (hpair : options.isPairAllowed sender recipient = some true)
    (hnamespace : options.hasSessionNamespace = true)
    (hstored : s.queue.receipts.lookup requestId = some receipt)
    (hmine : receipt.senderAgentDid = sender) (hstate : receipt.state ≠ .queued)
    (hlive : later.nowMs < receipt.expiresAtMs) :
    getReceipt options (some sender) (some requestId) (some recipient) s later =
      .ok (some receipt) := by
  have hquery : ∀ {text : JsString} {field : String}, IsGraphic text ∧ text ≠ [] →
      parseRequiredQuery (some text) field = .ok text := by
    intro text field htext
    have hne : isNonEmptyString text = true := by
      rw [isNonEmptyString_iff, htext.1.trim_eq]
      exact htext.2
    have hfilter : Option.map trim (Option.filter isNonEmptyString (some text)) = some text := by
      simp [hne, htext.1.trim_eq]
    rw [parseRequiredQuery, hfilter]
  have hparse : parseReceiptLookupInput (RelayReceiptLookupInput.toJson ⟨requestId, sender⟩) =
      some ⟨requestId, sender⟩ := by
    have hrequest : nonBlank (RelayReceiptLookupInput.toJson ⟨requestId, sender⟩) "requestId" =
        some requestId := nonBlank_object (by simp) ⟨hid.1.trim_eq, hid.2⟩
    have hagent : nonBlank (RelayReceiptLookupInput.toJson ⟨requestId, sender⟩) "senderAgentDid" =
        some sender := nonBlank_object (by simp) ⟨hsender.1.trim_eq, hsender.2⟩
    simp [parseReceiptLookupInput, hrequest, hagent]
  have hfound : (s.loadQueueState later.nowMs).2.receipts.lookup requestId = some receipt :=
    RelayQueueState.lookup_prune_of hstored hlive (.inl hstate)
  simp [getReceipt, createRelayDeliveryReceiptGetHandler, hquery hid, hquery hrecipient,
    ReceiptRoute.assertTrustedPair, hpair, hnamespace, check, bind, Except.bind, pure, Except.pure,
    answerLookup, hparse, getDeliveryReceipt, hfound, hmine]

/-- **When a receipt can be matched to its message.** For every message that was sent as an
enqueue frame and delivered, and every receipt that the connector of the recipient posts
for it: a receipt frame that the proxy pushes to the sender names the enqueue frame, and
the sender finds the receipt under the id of that frame, if and only if the ULID that was
made for the deliver frame is the id of the enqueue frame. -/
theorem receipt_correlated_iff (rt : Runtime) (policy : RelayDeliveryPolicy) (serde : Serde)
    (crates : Rust.Inbound.Crates) (options : ReceiptRouteOptions) (frame : EnqueueFrame)
    (sender : JsString) (moves : List (Move (Request × Env) Choice)) (f : SentFrame)
    (record : RelayReceiptRecordInput)
    (h : Receipted rt policy serde crates options frame sender moves f record) :
    ∃ sendEnv, UsedIn moves sendEnv ∧ getStr f.frame "id" = some sendEnv.frameId ∧
      ∀ s env v, v ∈ pushedBy rt policy s record env →
        (Correlated rt policy options frame sender record s env v ↔
          sendEnv.frameId = frame.id) := by
  obtain ⟨sendEnv, hused, hsent, hid, hsender, hrecipient, hsenderDid, hrecipientDid, hpair,
    hnamespace⟩ := h.record_names
  refine ⟨sendEnv, hused, hsent, ?_⟩
  intro s env v hv
  obtain ⟨hframe, existing, hstored⟩ := recordDeliveryReceipt_pushed hv
  obtain ⟨g, hg, rfl⟩ := Option.map_eq_some_iff.mp hframe
  obtain ⟨r, hr, rfl⟩ := Option.map_eq_some_iff.mp hg
  obtain ⟨⟨_, hvalid⟩, rfl⟩ := ReceiptFrame.validate_eq_some.mp hr
  simp only [Bool.and_eq_true] at hvalid
  have horiginal := hvalid.1.2
  have hnames : ∀ r : ReceiptFrame, getStr (Frame.receipt r).toJson "originalFrameId" =
      some r.originalFrameId := fun r =>
    getStr_object (by simp [Frame.fields, FrameBase.fields])
  unfold Correlated
  rw [hnames]
  simp only [Option.some.injEq, ← hid]
  constructor
  · intro hcorrelated
    exact hcorrelated.1
  · intro hsame
    refine ⟨hsame, ?_⟩
    intro later _ hlive
    rw [← hsame, ← hrecipient]
    rw [← hrecipient] at hpair hrecipientDid
    refine ⟨_, getReceipt_of_stored ⟨Protocol.isUlid_graphic horiginal, Protocol.ne_nil_of_isUlid horiginal⟩
      ⟨Protocol.isAgentDid_graphic hsenderDid, Protocol.ne_nil_of_isAgentDid hsenderDid⟩
      ⟨Protocol.isAgentDid_graphic hrecipientDid, Protocol.ne_nil_of_isAgentDid hrecipientDid⟩ hpair hnamespace
      hstored hsender ?_ hlive, rfl, rfl, rfl, rfl⟩
    cases hstatus : record.status <;> simp [recordedReceipt, receiptState, hstatus]

end

/-! ### A message that is delivered at once -/

section Example

def exampleFrame : EnqueueFrame := exampleEnqueueFrame (some (.str (js "hi")))

def exampleMoves : List (Move (Request × Env) Choice) := exampleRun (some (.str (js "hi")))

/-- The functions of the crates, as they answer on the example. -/
def exampleCrates : Rust.Inbound.Crates where
  ulidFromString := Rust.exampleUlidFromString
  toString _ := [Char.ofNat 0x22, 'h', 'i', Char.ofNat 0x22]
  fromStr _ := some (.str ['h', 'i'])

/-- The deliver frame as the connector reads it. -/
def exampleDeliver : Rust.DeliverFrame where
  v := 1
  id := Rust.rs "01HF7YAT00W6W7CM7N3W5FDXF0"
  ts := Rust.rs "2023-11-14T22:13:20.000Z"
  fromAgentDid := Rust.rs "did:cdi:registry.example.com:agent:01HF7YAT00W6W7CM7N3W5FDXA0"
  toAgentDid := Rust.rs "did:cdi:registry.example.com:agent:01HF7YAT00W6W7CM7N3W5FDXB0"
  payload := .str (Rust.rs "hi")
  deliverySource := some (Rust.rs "agent.enqueue")
  contentType := none
  groupId := none
  conversationId := none
  replyTo := none

/-- The webhook takes the message, and the receipt is posted. -/
def exampleEvents : List Rust.Inbound.Event :=
  [.deliver exampleDeliver
    { nowMs := 1700000001000, deliveryResult := .ok (), eventOk := true, writeOk := true,
      outbox := { nowMs := 1700000002000, enqueueOk := true, saveOk := true,
                  posts := fun _ => .ok } }]

def examplePayload : Rust.Inbound.DeliveryReceiptPayload where
  requestId := exampleDeliver.id
  senderAgentDid := exampleDeliver.fromAgentDid
  recipientAgentDid := exampleDeliver.toAgentDid
  status := .deliveredToWebhook
  reason := none

def exampleOptions : ReceiptRouteOptions where
  isPairAllowed _ _ := some true
  environment := none
  hasReceiptQueue := true
  hasSessionNamespace := true

def exampleRecord : RelayReceiptRecordInput where
  requestId := js "01HF7YAT00W6W7CM7N3W5FDXF0"
  senderAgentDid := exampleSender
  recipientAgentDid := exampleFrame.toAgentDid
  status := .deliveredToWebhook
  reason := none

def exampleRecordEnv : Env :=
  exampleEnv 1700000003000 "01HF7YAT00W6W7CM7N3W5FDXD4" "01HF7YAT00W6W7CM7N3W5FDXF4"

theorem exampleMoves_received :
    ((exec (program exampleRuntime defaultPolicy).step idle exampleMoves).map fun p =>
      p.shared.history.sent.map fun f =>
        (f.source, receive Rust.exampleSerde exampleCrates.ulidFromString f.frame)) =
      some [(.direct (toRelayDeliveryInputFromEnqueueFrame exampleFrame exampleSender),
        .ok (.deliver exampleDeliver))] := by
  decide

theorem exampleEvents_posted :
    (exec (Rust.Inbound.step exampleCrates) .empty exampleEvents).map (·.posted) =
      some [⟨exampleDeliver, examplePayload⟩] := by
  decide +kernel

theorem examplePost_recorded :
    createRelayDeliveryReceiptPostHandler exampleOptions (some exampleFrame.toAgentDid)
      (some examplePayload.toJson) (js "2023-11-14T22:13:22.000Z") =
      .ok (.queue (receiptEvent exampleRecord (js "2023-11-14T22:13:22.000Z"))) := by
  decide

theorem example_receipted :
    ∃ f, Receipted exampleRuntime defaultPolicy Rust.exampleSerde exampleCrates exampleOptions
      exampleFrame exampleSender exampleMoves f exampleRecord := by
  obtain ⟨p, hrun, hsent⟩ := Option.map_eq_some_iff.mp exampleMoves_received
  obtain ⟨st, hevents, hposted⟩ := Option.map_eq_some_iff.mp exampleEvents_posted
  obtain ⟨f, hf, hpair⟩ := List.map_eq_singleton_iff.mp hsent
  obtain ⟨hsource, hreceive⟩ := Prod.mk.inj hpair
  have hmessage : parseFrame exampleRuntime.platform (Frame.enqueue exampleFrame).toJson =
      some (.enqueue exampleFrame) := by decide
  refine ⟨f, .intro hmessage ?_ hrun ?_ (.inl hsource) hreceive hevents ?_ examplePost_recorded
    rfl ?_⟩
  · decide
  · rw [hf]
    exact List.mem_singleton_self f
  · rw [hposted]
    exact List.mem_singleton_self _
  · decide

/-- The frame that is pushed names the deliver frame. -/
theorem example_pushed :
    (pushedBy exampleRuntime defaultPolicy .empty exampleRecord exampleRecordEnv).map
      (fun v => getStr v "originalFrameId") = [some (js "01HF7YAT00W6W7CM7N3W5FDXF0")] := by
  decide

/-- **A sender cannot match a receipt to its message.** -/
theorem not_receipt_correlated :
    ¬ ∀ (rt : Runtime) (policy : RelayDeliveryPolicy) (serde : Serde)
      (crates : Rust.Inbound.Crates) (options : ReceiptRouteOptions) (frame : EnqueueFrame)
      (sender : JsString) (moves : List (Move (Request × Env) Choice)) (f : SentFrame)
      (record : RelayReceiptRecordInput),
      Receipted rt policy serde crates options frame sender moves f record →
      ∀ s env v, v ∈ pushedBy rt policy s record env →
        Correlated rt policy options frame sender record s env v := by
  intro h
  obtain ⟨f, hf⟩ := example_receipted
  obtain ⟨v, hv, hname⟩ := List.map_eq_singleton_iff.mp example_pushed
  have hcorrelated := h _ _ _ _ _ _ _ _ f _ hf .empty exampleRecordEnv v
    (by rw [hv]; exact List.mem_singleton_self v)
  rw [Correlated, hname] at hcorrelated
  exact absurd hcorrelated.1 (by decide)

/-- The receipt of the example is described exactly. -/
theorem example_correlated_iff :
    ∃ f v, Receipted exampleRuntime defaultPolicy Rust.exampleSerde exampleCrates exampleOptions
        exampleFrame exampleSender exampleMoves f exampleRecord ∧
      v ∈ pushedBy exampleRuntime defaultPolicy .empty exampleRecord exampleRecordEnv ∧
      ∃ sendEnv, UsedIn exampleMoves sendEnv ∧
        (Correlated exampleRuntime defaultPolicy exampleOptions exampleFrame exampleSender
          exampleRecord .empty exampleRecordEnv v ↔ sendEnv.frameId = exampleFrame.id) := by
  obtain ⟨f, hf⟩ := example_receipted
  obtain ⟨v, hv, _⟩ := List.map_eq_singleton_iff.mp example_pushed
  have hmem : v ∈ pushedBy exampleRuntime defaultPolicy .empty exampleRecord exampleRecordEnv := by
    rw [hv]
    exact List.mem_singleton_self v
  obtain ⟨sendEnv, hused, _, hiff⟩ := receipt_correlated_iff exampleRuntime defaultPolicy
    Rust.exampleSerde exampleCrates exampleOptions exampleFrame exampleSender exampleMoves f
    exampleRecord hf
  exact ⟨f, v, hf, hmem, sendEnv, hused, hiff .empty exampleRecordEnv v hmem⟩

end Example

end Clawdentity.Wire
