import Clawdentity.Rust.Outbound
import Clawdentity.Wire.ReceiptCorrelation

/-!
# Enqueue frames from the connector to the proxy

The connector checks a request when it takes it, and the proxy checks the frame that was
built for it. The two checks are different: what the connector has accepted may be a frame
that the proxy does not know, and such a frame gets no answer.

## Main definitions

* `proxyReads` — the part of the checks of the proxy that the connector does not make.
* `outbound_frames_read_iff` — a frame is read by the proxy exactly where it passes them.
-/

namespace Clawdentity.Wire

open Js Lib Lib.Interleave Lib.Run
open Connector
open Rust (RString toJs)
open Rust.Inbound (parseOptionalNonEmpty)
open Rust.Outbound

/-! ## The condition -/

/-- The recipient and the group are plain, the conversation id is not blank for JavaScript,
and the reply address is a URL. -/
def proxyReads (platform : Platform) (request : OutboundRequest) (recipient : RString) : Bool :=
  Rust.isPlainDid recipient &&
    (parseOptionalNonEmpty request.groupId).all Rust.isPlainGroupId &&
    (parseOptionalNonEmpty request.conversationId).all
      (fun text => (toJs text).any fun u => !isWhiteSpace u) &&
    (parseOptionalNonEmpty request.replyTo).all fun text => platform.isUrl (trim (toJs text))

/-! ## The frame that JavaScript reads -/

section
variable {number : ℚ → ℚ} {frame : Rust.EnqueueFrame} {platform : Platform}
  {ulidFromString : RString → Bool}

/-- The frame as JavaScript has it. -/
def jsEnqueue (number : ℚ → ℚ) (frame : Rust.EnqueueFrame) : EnqueueFrame where
  id := toJs frame.id
  ts := toJs frame.ts
  toAgentDid := toJs frame.toAgentDid
  groupId := frame.groupId.map toJs
  payload := some (Rust.toJsValue number frame.payload)
  conversationId := frame.conversationId.map toJs
  replyTo := frame.replyTo.map toJs

theorem bind_textField (value : Option RString) :
    value.bind Rust.textField = (value.map toJs).map .str := by
  cases value <;> rfl

/-- **The fields of an enqueue frame** are those that TypeScript expects. -/
theorem ofJson_enqueue (hversion : frame.v = Rust.CONNECTOR_FRAME_VERSION) :
    Frame.ofJson (object ((Rust.ConnectorFrame.enqueue frame).fields number)) =
      some (.enqueue (jsEnqueue number frame)) := by
  have hfields : (Rust.ConnectorFrame.enqueue frame).fields number =
      [("type", some (.str (js "enqueue"))), ("v", some (.num CONNECTOR_FRAME_VERSION)),
        ("id", some (.str (toJs frame.id))), ("ts", some (.str (toJs frame.ts))),
        ("toAgentDid", some (.str (toJs frame.toAgentDid))),
        ("groupId", (frame.groupId.map toJs).map .str),
        ("payload", some (Rust.toJsValue number frame.payload)),
        ("conversationId", (frame.conversationId.map toJs).map .str),
        ("replyTo", (frame.replyTo.map toJs).map .str)] := by
    simp only [Rust.ConnectorFrame.fields, Rust.FrameBase.fields, bind_textField, Rust.textField,
      Rust.toJs_rs, hversion, List.cons_append, List.nil_append, Rust.CONNECTOR_FRAME_VERSION,
      CONNECTOR_FRAME_VERSION, Int.cast_one]
  rw [hfields]
  generalize hobject : object _ = v
  have hstrict : strict v ["toAgentDid", "groupId", "payload", "conversationId", "replyTo"] =
      true := by
    rw [← hobject]
    exact strictKeys_object (by simp)
  have hgroup : getOptStr v "groupId" = some (frame.groupId.map toJs) := by
    rw [← hobject]
    exact getOptStr_object (by simp)
  have hconversation : getOptStr v "conversationId" = some (frame.conversationId.map toJs) := by
    rw [← hobject]
    exact getOptStr_object (by simp)
  have hreply : getOptStr v "replyTo" = some (frame.replyTo.map toJs) := by
    rw [← hobject]
    exact getOptStr_object (by simp)
  simp only [Frame.ofJson, hstrict, hgroup, hconversation, hreply]
  rw [← hobject]
  simp [getStr, Json.str?, jsEnqueue]

/-- A text is blank for JavaScript where all its units are. -/
theorem isNonEmptyString_eq_any (s : JsString) :
    isNonEmptyString s = s.any fun u => !isWhiteSpace u := by
  rw [Bool.eq_iff_iff, isNonEmptyString, Bool.not_eq_true', List.isEmpty_eq_false_iff, ne_eq, trim,
    Text.trim_eq_nil_iff, List.any_eq_true]
  simp

theorem all_map_option {α β : Type} (f : α → β) (q : β → Bool) (o : Option α) :
    (o.map f).all q = o.all fun a => q (f a) := by
  cases o <;> rfl

theorem all_congr_option {α : Type} {q r : α → Bool} {o : Option α}
    (h : ∀ a, o = some a → q a = r a) : o.all q = o.all r := by
  cases o with
  | none => rfl
  | some a => exact h a rfl

/-- **When the schema of TypeScript accepts** a frame of an accepted request. -/
theorem validate_jsEnqueue_isSome (hvisible : Rust.ReadsVisible ulidFromString)
    {sent : Tracked Rust.EnqueueFrame} (h : FrameOk ulidFromString platform sent) :
    ((jsEnqueue number sent.value).validate platform).isSome =
      proxyReads platform sent.request sent.recipient := by
  have hdid := Rust.isAgentDid_toJs h.carries.routed.agent
  have hgroup : (sent.value.groupId.all fun text => Protocol.isGroupId (toJs text)) =
      sent.value.groupId.all Rust.isPlainGroupId := by
    refine all_congr_option ?_
    intro groupId hsome
    have hvalid := h.carries.routed.group
    rw [hsome, Option.all_some] at hvalid
    rw [h.carries.routed.group_eq] at hsome
    exact Rust.isGroupId_toJs hvisible hvalid (parseOptionalNonEmpty_eq_some hsome).1
  have hbase := h.base
  rw [Bool.eq_iff_iff, Option.isSome_iff_exists]
  simp only [EnqueueFrame.validate_eq_some, exists_and_left, exists_eq, and_true, jsEnqueue,
    all_map_option, hbase, Bool.true_and, h.carries.did_eq, hdid, hgroup,
    isNonEmptyString_eq_any, ← h.carries.routed.group_eq, ← h.carries.conversation_eq,
    ← h.carries.reply_eq, proxyReads, Bool.and_eq_true]
  tauto

/-- **A frame of an accepted request is serialised.** -/
theorem serializeFrame_enqueue (hulids : Rust.ReadsUlids ulidFromString)
    {sent : Tracked Rust.EnqueueFrame} (h : FrameOk ulidFromString platform sent) :
    Rust.serializeFrame ulidFromString number (.enqueue sent.value) =
      .ok (object ((Rust.ConnectorFrame.enqueue sent.value).fields number)) := by
  obtain ⟨hid, hts⟩ := isValid_lt h.base
  have hbase : sent.value.toFrameBase = rustBase ⟨toJs sent.value.id, toJs sent.value.ts⟩ := by
    have hid' : sent.value.id = (toJs sent.value.id).map Utf16.ofUnit :=
      Rust.eq_map_of_basic fun u hu => by have := hid u hu; omega
    have hts' : sent.value.ts = (toJs sent.value.ts).map Utf16.ofUnit :=
      Rust.eq_map_of_basic fun u hu => by have := hts u hu; omega
    simp only [rustBase]
    rw [← hid', ← hts', ← h.version]
  have hvalidBase : Rust.validateFrameBase ulidFromString sent.value.toFrameBase = .ok () := by
    rw [hbase]
    exact validate_rustBase hulids h.base
  have hvalid : Rust.validateFrame ulidFromString (.enqueue sent.value) = .ok () := by
    have hagent := h.carries.routed.agent
    rw [← h.carries.did_eq] at hagent
    simp [Rust.validateFrame, Rust.validateEnqueueFrame, hvalidBase, Rust.validateAgentDid, hagent,
      Rust.validateGroupId, h.carries.routed.group, check, bind, Except.bind]
  rw [Rust.serializeFrame, hvalid]
  rfl

end

/-! ## What the proxy answers -/

section
variable (rt : Relay.Runtime) (policy : Relay.RelayDeliveryPolicy) (id : JsString) (v : Value)

/-- A message with this frame, unless it is too large, is answered with an acknowledgement. -/
def Acknowledged : Prop :=
  ∀ onEnqueueFrame message env, message.json = some v → message.bytes ≤ policy.maxFrameBytes →
    ∃ frame, Relay.handleRelayWebSocketMessage rt policy onEnqueueFrame message env =
      .send (Relay.toEnqueueAckFrame rt id (onEnqueueFrame frame) env)

/-- A message with this frame, unless it is too large, is ignored. -/
def Ignored : Prop :=
  ∀ onEnqueueFrame message env, message.json = some v → message.bytes ≤ policy.maxFrameBytes →
    Relay.handleRelayWebSocketMessage rt policy onEnqueueFrame message env = .ignore

variable {rt policy id v}

theorem acknowledged_of_parse {frame : EnqueueFrame}
    (h : parseFrame rt.platform v = some (.enqueue frame)) :
    Acknowledged rt policy frame.id v := by
  intro onEnqueueFrame message env hjson hbytes
  refine ⟨frame, ?_⟩
  simp [Relay.handleRelayWebSocketMessage, hjson, h, Nat.not_lt.mpr hbytes]

theorem ignored_of_parse (h : parseFrame rt.platform v = none) : Ignored rt policy v := by
  intro onEnqueueFrame message env hjson hbytes
  simp [Relay.handleRelayWebSocketMessage, hjson, h, Nat.not_lt.mpr hbytes]

end

/-- **Which enqueue frames the proxy reads.** In every run of handlers and flushes, a frame
that the client has taken is serialised, and the proxy reads it, and acknowledges it, if and
only if the request passes the checks that the connector does not make; else the proxy ignores
it. -/
theorem outbound_frames_read_iff (rt : Relay.Runtime) (relayPolicy : Relay.RelayDeliveryPolicy)
    (crates : Rust.Inbound.Crates) (policy : OutboundRetryPolicy) (server : RuntimeServerState)
    (number : ℚ → ℚ) (hulids : Rust.ReadsUlids crates.ulidFromString)
    (hvisible : Rust.ReadsVisible crates.ulidFromString) :
    ∀ moves p, (∀ e ∈ moves, FreshMove rt.platform e) →
      exec (outbound crates policy server).step idle moves = some p →
      ∀ sent ∈ p.shared.sent, ∃ v,
        Rust.serializeFrame crates.ulidFromString number (.enqueue sent.value) = .ok v ∧
        ((∃ frame, parseFrame rt.platform v = some (.enqueue frame)) ↔
          proxyReads rt.platform sent.request sent.recipient = true) ∧
        (proxyReads rt.platform sent.request sent.recipient = true →
          Acknowledged rt relayPolicy (toJs sent.value.id) v) ∧
        (proxyReads rt.platform sent.request sent.recipient = false →
          Ignored rt relayPolicy v) := by
  intro moves p hfresh hrun sent hsent
  have hframe := outbound_tracks hfresh hrun sent hsent
  refine ⟨_, serializeFrame_enqueue hulids hframe, ?_⟩
  have hparse : parseFrame rt.platform
      (object ((Rust.ConnectorFrame.enqueue sent.value).fields number)) =
        ((jsEnqueue number sent.value).validate rt.platform).map .enqueue := by
    rw [parseFrame, ofJson_enqueue hframe.version]
    rfl
  have hreads : ((jsEnqueue number sent.value).validate rt.platform).isSome =
      proxyReads rt.platform sent.request sent.recipient :=
    validate_jsEnqueue_isSome hvisible hframe
  rw [← hreads]
  cases hvalidate : (jsEnqueue number sent.value).validate rt.platform with
  | none =>
      rw [hvalidate, Option.map_none] at hparse
      rw [hparse]
      refine ⟨by simp, by simp, ?_⟩
      intro _
      exact ignored_of_parse hparse
  | some frame =>
      rw [hvalidate, Option.map_some] at hparse
      refine ⟨⟨fun _ => rfl, fun _ => ⟨frame, hparse⟩⟩, ?_, by simp⟩
      intro _
      have hid : frame.id = toJs sent.value.id := by
        obtain ⟨_, rfl⟩ := EnqueueFrame.validate_eq_some.mp hvalidate
        rfl
      rw [← hid]
      exact acknowledged_of_parse hparse

/-! ### A reply address that is no URL -/

def exampleOutboundBody (replyTo : Option RString) : Rust.RValue :=
  Json.object Rust.rs
    [("toAgentDid",
        some (.str (Rust.rs "did:cdi:registry.example.com:agent:01HF7YAT00W6W7CM7N3W5FDXB0"))),
      ("payload", some (.str (Rust.rs "hi"))), ("replyTo", replyTo.map .str)]

def exampleOutboundPolicy : OutboundRetryPolicy where
  retryDelayMs _ := 1000
  maxAttempts := 30
  maxAgeMs := 86400000

def exampleServer : RuntimeServerState where
  localAgentDid := none
  hasGroupMembersResolver := false
  hasRelaySender := true
  maxPending := 10000

def exampleOutboundEnv : Env where
  nowMs := 1700000000000
  ts := Rust.rs "2023-11-14T22:13:20.000000000+00:00"
  frameId := Rust.rs "01HF7YAT00W6W7CM7N3W5FDXR0"
  connected := true
  readOk := true
  writeOk := true
  members := none
  sendOk := true

/-- The request is accepted, its frame is handed over, and the answer is sent. -/
def exampleOutboundRun (replyTo : Option RString) : List (Move (Input × Env) Env) :=
  [.start (.request (exampleOutboundBody replyTo), exampleOutboundEnv),
    .resume 0 exampleOutboundEnv, .resume 0 exampleOutboundEnv, .resume 0 exampleOutboundEnv,
    .resume 0 exampleOutboundEnv, .resume 0 exampleOutboundEnv]

theorem exampleOutboundRun_fresh (replyTo : Option RString) :
    ∀ e ∈ exampleOutboundRun replyTo, FreshMove Relay.exampleRuntime.platform e := by
  have hfresh : exampleOutboundEnv.IsFresh Relay.exampleRuntime.platform := by
    unfold Env.IsFresh
    decide
  intro e he
  simp only [exampleOutboundRun, List.mem_cons, List.not_mem_nil, or_false] at he
  rcases he with rfl | rfl | rfl | rfl | rfl | rfl <;> exact hfresh

/-- The answers to the requests of a run, and the ids of its frames with what the proxy makes
of each. -/
def exampleOutcome (replyTo : Option RString) :
    Option (List Call × List (RString × Option Bool)) :=
  (exec (outbound exampleCrates exampleOutboundPolicy exampleServer).step idle
    (exampleOutboundRun replyTo)).map fun p =>
      (p.calls, p.shared.sent.map fun sent =>
        (sent.value.id,
          (Rust.serializeFrame Rust.exampleUlidFromString id (.enqueue sent.value)).toOption.map
            fun v => (parseFrame Relay.exampleRuntime.platform v).isSome))

theorem exampleOutcome_reply : exampleOutcome (some (Rust.rs "msg_456")) =
    some ([.done (some (.accepted none [Rust.rs "01HF7YAT00W6W7CM7N3W5FDXR0"]))],
      [(Rust.rs "01HF7YAT00W6W7CM7N3W5FDXR0", some false)]) := by
  decide

/-- **A message that the connector accepts can be ignored by the proxy.** -/
theorem not_outbound_frames_read :
    ¬ ∀ (rt : Relay.Runtime) (crates : Rust.Inbound.Crates) (policy : OutboundRetryPolicy)
      (server : RuntimeServerState) (number : ℚ → ℚ), Rust.ReadsUlids crates.ulidFromString →
      Rust.ReadsVisible crates.ulidFromString →
      ∀ moves p, (∀ e ∈ moves, FreshMove rt.platform e) →
        exec (outbound crates policy server).step idle moves = some p →
        ∀ groupId frameIds, .done (some (.accepted groupId frameIds)) ∈ p.calls →
          ∀ sent ∈ p.shared.sent, sent.value.id ∈ frameIds → ∃ v frame,
            Rust.serializeFrame crates.ulidFromString number (.enqueue sent.value) = .ok v ∧
            parseFrame rt.platform v = some (.enqueue frame) := by
  intro h
  obtain ⟨p, hrun, houtcome⟩ := Option.map_eq_some_iff.mp exampleOutcome_reply
  obtain ⟨hcalls, hsent⟩ := Prod.mk.inj houtcome
  obtain ⟨sent, hsent, hread⟩ := List.map_eq_singleton_iff.mp hsent
  obtain ⟨hid, hread⟩ := Prod.mk.inj hread
  obtain ⟨v, frame, hserialize, hparse⟩ := h Relay.exampleRuntime exampleCrates
    exampleOutboundPolicy exampleServer id Rust.readsUlids_example Rust.readsVisible_example
    (exampleOutboundRun (some (Rust.rs "msg_456"))) p (exampleOutboundRun_fresh _) hrun none
    [Rust.rs "01HF7YAT00W6W7CM7N3W5FDXR0"] (by rw [hcalls]; exact List.mem_singleton_self _) sent
    (by rw [hsent]; exact List.mem_singleton_self _) (by rw [hid]; exact List.mem_singleton_self _)
  rw [show exampleCrates.ulidFromString = Rust.exampleUlidFromString from rfl] at hserialize
  rw [hserialize] at hread
  simp [Except.toOption, hparse] at hread

theorem exampleOutcome_plain : exampleOutcome none =
    some ([.done (some (.accepted none [Rust.rs "01HF7YAT00W6W7CM7N3W5FDXR0"]))],
      [(Rust.rs "01HF7YAT00W6W7CM7N3W5FDXR0", some true)]) := by
  decide

/-- A frame of a plain request is described exactly. -/
theorem exampleOutboundRun_read_iff :
    ∃ p, exec (outbound exampleCrates exampleOutboundPolicy exampleServer).step idle
        (exampleOutboundRun none) = some p ∧ p.shared.sent.length = 1 ∧
      ∀ sent ∈ p.shared.sent, ∃ v,
        Rust.serializeFrame Rust.exampleUlidFromString id (.enqueue sent.value) = .ok v ∧
        ((∃ frame, parseFrame Relay.exampleRuntime.platform v = some (.enqueue frame)) ↔
          proxyReads Relay.exampleRuntime.platform sent.request sent.recipient = true) ∧
        (proxyReads Relay.exampleRuntime.platform sent.request sent.recipient = true →
          Acknowledged Relay.exampleRuntime Relay.defaultPolicy (toJs sent.value.id) v) ∧
        (proxyReads Relay.exampleRuntime.platform sent.request sent.recipient = false →
          Ignored Relay.exampleRuntime Relay.defaultPolicy v) := by
  obtain ⟨p, hrun, houtcome⟩ := Option.map_eq_some_iff.mp exampleOutcome_plain
  obtain ⟨sent, hsent, _⟩ := List.map_eq_singleton_iff.mp (Prod.mk.inj houtcome).2
  exact ⟨p, hrun, by rw [hsent]; rfl, outbound_frames_read_iff Relay.exampleRuntime
    Relay.defaultPolicy exampleCrates exampleOutboundPolicy exampleServer id
    Rust.readsUlids_example Rust.readsVisible_example (exampleOutboundRun none) p
    (exampleOutboundRun_fresh none) hrun⟩

end Clawdentity.Wire
