import Clawdentity.Proxy.HookRoute
import Clawdentity.Proxy.Relay.Fidelity
import Clawdentity.Rust.Frames

/-!
# The frames that the connector reads

Every frame that the proxy sends is validated by its own schema and written as JSON;
the client reads it with `parse_frame` and drops its connection where that fails. The
two sides agree on everything but four points: the schema accepts a frame without a
payload, the text of a frame may have lone surrogates, deep trees and numbers that
`serde_json` does not read as they are, a label of a DID may be longer than 63
characters, and a reason may be blank for Rust alone.

## Main definitions

* `Same` — the fields of a frame of the two languages are the same.
* `Understood` — the client reads a text of the proxy, with the same fields.
* `readable`, `readableReceipt` — the messages whose frames are understood.
* `AcceptedInput` — the inputs of messages that the proxy accepts.
* `frames_understood_iff` — for every frame of every run.
-/

namespace Clawdentity.Wire

open Js Lib Connector
open Rust (Serde RValue RString ofJs ofJsOpt sameValue rs)

/-! ## The two sides -/

/-- What the client makes of a text of the proxy; at an error it drops its connection. -/
def receive (serde : Serde) (ulidFromString : RString → Bool) (v : Value) :
    Except Rust.FrameError Rust.ConnectorFrame :=
  match serde.read v with
  | none => .error .json
  | some w => Rust.parseFrame ulidFromString w

def SameBase (base : FrameBase) (read : Rust.FrameBase) : Prop :=
  read.v = Rust.CONNECTOR_FRAME_VERSION ∧ ofJs base.id = some read.id ∧
    ofJs base.ts = some read.ts

def SameAck (frame : AckFrame) (read : Rust.AckFrame) : Prop :=
  SameBase frame.toFrameBase read.toFrameBase ∧ ofJs frame.ackId = some read.ackId ∧
    frame.accepted = read.accepted ∧ ofJsOpt frame.reason = some read.reason

def SameDeliver (frame : DeliverFrame) (read : Rust.DeliverFrame) : Prop :=
  SameBase frame.toFrameBase read.toFrameBase ∧
    ofJs frame.fromAgentDid = some read.fromAgentDid ∧
    ofJs frame.toAgentDid = some read.toAgentDid ∧
    frame.payload.bind sameValue = some read.payload ∧
    ofJsOpt frame.deliverySource = some read.deliverySource ∧
    ofJsOpt frame.contentType = some read.contentType ∧
    ofJsOpt frame.groupId = some read.groupId ∧
    ofJsOpt frame.conversationId = some read.conversationId ∧
    ofJsOpt frame.replyTo = some read.replyTo

def SameEnqueue (frame : EnqueueFrame) (read : Rust.EnqueueFrame) : Prop :=
  SameBase frame.toFrameBase read.toFrameBase ∧
    ofJs frame.toAgentDid = some read.toAgentDid ∧ ofJsOpt frame.groupId = some read.groupId ∧
    frame.payload.bind sameValue = some read.payload ∧
    ofJsOpt frame.conversationId = some read.conversationId ∧
    ofJsOpt frame.replyTo = some read.replyTo

def SameReceipt (frame : ReceiptFrame) (read : Rust.ReceiptFrame) : Prop :=
  SameBase frame.toFrameBase read.toFrameBase ∧
    ofJs frame.originalFrameId = some read.originalFrameId ∧
    ofJs frame.toAgentDid = some read.toAgentDid ∧ frame.status = read.status ∧
    ofJsOpt frame.reason = some read.reason

/-- The fields of the two frames are the same. -/
def Same : Frame → Rust.ConnectorFrame → Prop
  | .heartbeat base, .heartbeat read => SameBase base read
  | .heartbeatAck base ackId, .heartbeatAck read readId =>
      SameBase base read ∧ ofJs ackId = some readId
  | .deliver frame, .deliver read => SameDeliver frame read
  | .deliverAck frame, .deliverAck read => SameAck frame read
  | .enqueue frame, .enqueue read => SameEnqueue frame read
  | .enqueueAck frame, .enqueueAck read => SameAck frame read
  | .receipt frame, .receipt read => SameReceipt frame read
  | _, _ => False

/-- The client accepts the frame, with the fields that the proxy wrote. -/
def Understood (serde : Serde) (ulidFromString : RString → Bool) (v : Value) : Prop :=
  ∃ frame read, Frame.ofJson v = some frame ∧ receive serde ulidFromString v = .ok read ∧
    Same frame read

/-! ## What can be read -/

/-- `serde_json` reads the payload of a frame as it is. -/
def readsPayload (serde : Serde) (payload : Value) : Bool :=
  decide (payload.depth + 1 ≤ serde.maxDepth) && (sameValue payload).isSome &&
    decide (payload.traverse ofJs serde.number = sameValue payload)

/-- The text has no lone surrogate. -/
def isWellFormed (text : JsString) : Bool := (ofJs text).isSome

/-- Deliveries whose frames are understood. -/
def readable (serde : Serde) (input : Relay.RelayDeliveryInput) : Bool :=
  input.payload.any (readsPayload serde) && input.conversationId.all isWellFormed &&
    input.replyTo.all isWellFormed && Rust.hasShortLabels input.senderAgentDid &&
    Rust.hasShortLabels input.recipientAgentDid

/-- Receipts whose frames are understood: the reason is not blank for Rust either. -/
def readableReceipt (record : Relay.RelayReceiptRecordInput) : Bool :=
  Rust.hasShortLabels record.recipientAgentDid &&
    record.reason.all fun reason =>
      (ofJs (trim reason)).any fun text => !(Rust.trim text).isEmpty

/-! ## Reading an object -/

/-- A value that can stand in a field of an object. -/
def Fits (serde : Serde) (v : Value) : Prop :=
  v.depth + 1 ≤ serde.maxDepth ∧ (v.traverse ofJs serde.number).isSome = true

section
variable {serde : Serde} {ulidFromString : RString → Bool}

theorem read_eq_some {v : Value} {w : RValue} (h : serde.read v = some w) :
    v.traverse ofJs serde.number = some w := by
  unfold Serde.read at h
  by_cases hdepth : v.depth ≤ serde.maxDepth
  · rwa [if_pos hdepth] at h
  · rw [if_neg hdepth] at h
    cases h

theorem read_object_isSome (hdepth : 1 ≤ serde.maxDepth) (fields : List (String × Option Value)) :
    (serde.read (object fields)).isSome = true ↔
      ∀ f ∈ fields, ∀ v, f.2 = some v → Fits serde v := by
  obtain ⟨n, hn⟩ : ∃ n, serde.maxDepth = n + 1 := ⟨serde.maxDepth - 1, by omega⟩
  have hread : (serde.read (object fields)).isSome = true ↔
      (object fields).depth ≤ n + 1 ∧
        ((object fields).traverse ofJs serde.number).isSome = true := by
    unfold Serde.read
    rw [hn]
    by_cases hle : (object fields).depth ≤ n + 1
    · simp [hle]
    · simp [hle]
  rw [hread, object, Json.depth_object_le, Json.traverse_object_isSome Rust.ofJs_js]
  constructor
  · rintro ⟨hle, hsome⟩ f hf v hv
    exact ⟨by rw [hn]; exact Nat.succ_le_succ (hle f hf v hv), hsome f hf v hv⟩
  · intro h
    refine ⟨?_, ?_⟩
    · intro f hf v hv
      have hfit := (h f hf v hv).1
      omega
    · intro f hf v hv
      exact (h f hf v hv).2

theorem fits_str (hdepth : 1 ≤ serde.maxDepth) (s : JsString) :
    Fits serde (.str s) ↔ isWellFormed s = true := by
  simp [Fits, Json.depth, Json.traverse, hdepth, isWellFormed]

theorem fits_bool (hdepth : 1 ≤ serde.maxDepth) (b : Bool) : Fits serde (.bool b) := by
  simp [Fits, Json.depth, Json.traverse, hdepth]

theorem fits_version (hdepth : 1 ≤ serde.maxDepth) (hone : serde.number 1 = some 1) :
    Fits serde (.num CONNECTOR_FRAME_VERSION) := by
  simp [Fits, Json.depth, Json.traverse, hdepth, CONNECTOR_FRAME_VERSION, hone]

theorem fits_optional (hdepth : 1 ≤ serde.maxDepth) (s : Option JsString) :
    (∀ v, s.map Json.str = some v → Fits serde v) ↔ s.all isWellFormed = true := by
  cases s with
  | none => simp
  | some s => simp [fits_str hdepth]

theorem ofJsOpt_isSome (s : Option JsString) :
    s.all isWellFormed = true ↔ ∃ r, ofJsOpt s = some r := by
  cases s with
  | none => simp [ofJsOpt]
  | some s =>
      cases hs : ofJs s <;> simp [ofJsOpt, isWellFormed, hs]

/-! ## The base of a frame -/

theorem ofJs_ascii {s : JsString} (h : ∀ u ∈ s, u.toNat < 0x80) :
    ofJs s = some (s.map Utf16.ofUnit) := by
  refine Utf16.decode_of_basic ?_
  intro u hu
  have := h u hu
  omega

theorem isWellFormed_ascii {s : JsString} (h : ∀ u ∈ s, u.toNat < 0x80) :
    isWellFormed s = true := by
  rw [isWellFormed, ofJs_ascii h]
  rfl

/-- A timestamp is not blank in Rust. -/
theorem trim_timestamp {ts : JsString} (h : isIsoTimestamp ts = true) :
    (Rust.trim (ts.map Utf16.ofUnit)).isEmpty = false := by
  obtain ⟨u, hu, hdigit⟩ := isIsoTimestamp_digit h
  rw [List.isEmpty_eq_false_iff]
  intro hnil
  have hblank := Text.trim_eq_nil_iff.mp hnil _ (List.mem_map_of_mem hu)
  have hlt := isDigit_lt hdigit
  simp only [Rust.isWhitespace, Utf16.ofUnit_toNat (by omega : u.toNat < 0xD800)] at hblank
  simp only [isDigit, Bool.and_eq_true, decide_eq_true_eq] at hdigit
  simp at hblank
  omega

/-- The base of a frame as Rust has it. -/
def rustBase (base : FrameBase) : Rust.FrameBase where
  v := Rust.CONNECTOR_FRAME_VERSION
  id := base.id.map Utf16.ofUnit
  ts := base.ts.map Utf16.ofUnit

section
variable {platform : Platform} {base : FrameBase} {type : String}
  {rest : List (String × Option Value)} {w : RValue}

theorem isValid_lt (h : base.isValid platform = true) :
    (∀ u ∈ base.id, u.toNat < 0x80) ∧ ∀ u ∈ base.ts, u.toNat < 0x80 := by
  simp only [FrameBase.isValid, Bool.and_eq_true] at h
  exact ⟨Protocol.isUlid_lt h.1.1, isIsoTimestamp_lt h.1.2⟩

theorem same_rustBase (h : base.isValid platform = true) : SameBase base (rustBase base) :=
  ⟨rfl, ofJs_ascii (isValid_lt h).1, ofJs_ascii (isValid_lt h).2⟩

theorem validate_rustBase (hulids : Rust.ReadsUlids ulidFromString)
    (h : base.isValid platform = true) :
    Rust.validateFrameBase ulidFromString (rustBase base) = .ok () := by
  simp only [FrameBase.isValid, Bool.and_eq_true] at h
  have hid := hulids base.id h.1.1
  have hts := trim_timestamp h.1.2
  simp [Rust.validateFrameBase, rustBase, hid, hts, check, bind, Except.bind]

/-- The fields of a base are read. -/
theorem base_fits (hdepth : 1 ≤ serde.maxDepth) (hone : serde.number 1 = some 1)
    (h : base.isValid platform = true) :
    ∀ f ∈ base.fields type, ∀ v, f.2 = some v → Fits serde v := by
  have hid := (fits_str hdepth base.id).mpr (isWellFormed_ascii (isValid_lt h).1)
  have hts := (fits_str hdepth base.ts).mpr (isWellFormed_ascii (isValid_lt h).2)
  have htype := (fits_str hdepth (js type)).mpr (by rw [isWellFormed, Rust.ofJs_js]; rfl)
  simp [FrameBase.fields, fits_version hdepth hone, hid, hts, htype]

/-- **The base of a frame is read back**, with the type of the frame. -/
theorem base_read (hone : serde.number 1 = some 1) (h : base.isValid platform = true)
    (hw : (object (base.fields type ++ rest)).traverse ofJs serde.number = some w) :
    Rust.baseOfValue w = some (rustBase base) ∧ Rust.getString w "type" = some (rs type) := by
  have hv : Rust.getI64 w "v" = some 1 := by
    rw [Rust.getI64_read hw (n := CONNECTOR_FRAME_VERSION) (by simp [FrameBase.fields]),
      CONNECTOR_FRAME_VERSION, hone]
    rfl
  have hid : Rust.getString w "id" = some (base.id.map Utf16.ofUnit) := by
    rw [Rust.getString_read hw (s := base.id) (by simp [FrameBase.fields])]
    exact ofJs_ascii (isValid_lt h).1
  have hts : Rust.getString w "ts" = some (base.ts.map Utf16.ofUnit) := by
    rw [Rust.getString_read hw (s := base.ts) (by simp [FrameBase.fields])]
    exact ofJs_ascii (isValid_lt h).2
  refine ⟨?_, ?_⟩
  · simp [Rust.baseOfValue, hv, hid, hts, rustBase, Rust.CONNECTOR_FRAME_VERSION]
  · rw [Rust.getString_read hw (s := js type) (by simp [FrameBase.fields])]
    exact Rust.ofJs_js type

end

variable {platform : Platform}

/-! ## Frame by frame -/

theorem receive_eq_ok {v : Value} {read : Rust.ConnectorFrame} :
    receive serde ulidFromString v = .ok read ↔ ∃ w, serde.read v = some w ∧
      Rust.frameOfValue w = some read ∧ Rust.validateFrame ulidFromString read = .ok () := by
  unfold receive Rust.parseFrame
  cases hread : serde.read v with
  | none => simp
  | some w =>
      cases hframe : Rust.frameOfValue w with
      | none => simp [hframe]
      | some frame =>
          simp only [hframe, bind_eq_ok, Option.some.injEq, exists_eq_left']
          constructor
          · intro ⟨_, hvalid, hreturn⟩
            cases hreturn
            exact ⟨rfl, hvalid⟩
          · intro ⟨hframe, hvalid⟩
            cases hframe
            exact ⟨(), hvalid, rfl⟩

theorem heartbeat_understood (hulids : Rust.ReadsUlids ulidFromString)
    (hone : serde.number 1 = some 1) (hdepth : 1 ≤ serde.maxDepth) {base : FrameBase}
    (h : base.isValid platform = true) :
    Understood serde ulidFromString (Frame.heartbeat base).toJson := by
  obtain ⟨w, hw⟩ := Option.isSome_iff_exists.mp
    ((read_object_isSome hdepth (base.fields "heartbeat")).mpr (base_fits hdepth hone h))
  have htraverse : (object (base.fields "heartbeat" ++ [])).traverse ofJs serde.number = some w := by
    rw [List.append_nil]
    exact read_eq_some hw
  have hread := base_read hone h htraverse
  refine ⟨_, .heartbeat (rustBase base), Frame.ofJson_toJson _, receive_eq_ok.mpr ⟨w, hw, ?_, ?_⟩,
    same_rustBase h⟩
  · simp [Rust.frameOfValue, hread]
  · exact validate_rustBase hulids h

theorem heartbeatAck_understood (hulids : Rust.ReadsUlids ulidFromString)
    (hone : serde.number 1 = some 1) (hdepth : 1 ≤ serde.maxDepth) {base : FrameBase}
    {ackId : JsString} (h : base.isValid platform = true) (hack : Protocol.isUlid ackId = true) :
    Understood serde ulidFromString (Frame.heartbeatAck base ackId).toJson := by
  have hackId := ofJs_ascii (Protocol.isUlid_lt hack)
  have hfields : ∀ f ∈ (Frame.heartbeatAck base ackId).fields, ∀ v, f.2 = some v →
      Fits serde v := by
    intro f hf
    rcases List.mem_append.mp hf with hf | hf
    · exact base_fits hdepth hone h f hf
    · have hfits := (fits_str hdepth ackId).mpr (isWellFormed_ascii (Protocol.isUlid_lt hack))
      rw [List.mem_singleton.mp hf]
      simpa using hfits
  obtain ⟨w, hw⟩ := Option.isSome_iff_exists.mp ((read_object_isSome hdepth _).mpr hfields)
  obtain ⟨hbase, htype⟩ := base_read hone h (read_eq_some hw)
  have hgot : Rust.getString w "ackId" = some (ackId.map Utf16.ofUnit) := by
    rw [Rust.getString_read (read_eq_some hw) (s := ackId) (by simp [Frame.fields, FrameBase.fields])]
    exact hackId
  refine ⟨_, .heartbeatAck (rustBase base) (ackId.map Utf16.ofUnit), Frame.ofJson_toJson _,
    receive_eq_ok.mpr ⟨w, hw, ?_, ?_⟩, same_rustBase h, hackId⟩
  · simp [Rust.frameOfValue, hbase, htype, hgot]
  · simp [Rust.validateFrame, validate_rustBase hulids h, Rust.validateAckId, hulids ackId hack,
      check, bind, Except.bind]

theorem enqueueAck_understood_iff (hulids : Rust.ReadsUlids ulidFromString)
    (hone : serde.number 1 = some 1) (hdepth : 1 ≤ serde.maxDepth) {frame : AckFrame}
    (h : frame.toFrameBase.isValid platform = true) (hack : Protocol.isUlid frame.ackId = true) :
    Understood serde ulidFromString (Frame.enqueueAck frame).toJson ↔
      frame.reason.all isWellFormed = true := by
  have hackId := ofJs_ascii (Protocol.isUlid_lt hack)
  constructor
  · intro ⟨_, read, _, hread, _⟩
    obtain ⟨w, hw, _⟩ := receive_eq_ok.mp hread
    have hfields := (read_object_isSome hdepth _).mp (Option.isSome_of_eq_some hw)
    exact (fits_optional hdepth frame.reason).mp
      (hfields ("reason", frame.reason.map .str) (by simp [Frame.fields, AckFrame.fields]))
  · intro hreason
    have hfields : ∀ f ∈ (Frame.enqueueAck frame).fields, ∀ v, f.2 = some v → Fits serde v := by
      intro f hf
      rcases List.mem_append.mp hf with hf | hf
      · exact base_fits hdepth hone h f hf
      · have hfits := (fits_str hdepth frame.ackId).mpr (isWellFormed_ascii (Protocol.isUlid_lt hack))
        have hreason' := (fits_optional hdepth frame.reason).mpr hreason
        simp only [List.mem_cons, List.not_mem_nil, or_false] at hf
        rcases hf with rfl | rfl | rfl
        · simpa using hfits
        · simpa using fits_bool hdepth frame.accepted
        · exact hreason'
    obtain ⟨w, hw⟩ := Option.isSome_iff_exists.mp ((read_object_isSome hdepth _).mpr hfields)
    have hwt := read_eq_some hw
    obtain ⟨hbase, htype⟩ := base_read hone h hwt
    obtain ⟨reason, hreason⟩ := (ofJsOpt_isSome frame.reason).mp hreason
    have hgot : Rust.getString w "ackId" = some (frame.ackId.map Utf16.ofUnit) := by
      rw [Rust.getString_read hwt (s := frame.ackId)
        (by simp [Frame.fields, AckFrame.fields, FrameBase.fields])]
      exact hackId
    have haccepted : Rust.getBool w "accepted" = some frame.accepted :=
      Rust.getBool_read hwt (by simp [Frame.fields, AckFrame.fields, FrameBase.fields])
    have hgotReason : Rust.getOptString w "reason" = some reason := by
      rw [Rust.getOptString_read hwt (s := frame.reason)
        (by simp [Frame.fields, AckFrame.fields, FrameBase.fields])]
      exact hreason
    refine ⟨_, .enqueueAck ⟨rustBase frame.toFrameBase, frame.ackId.map Utf16.ofUnit,
      frame.accepted, reason⟩, Frame.ofJson_toJson _, receive_eq_ok.mpr ⟨w, hw, ?_, ?_⟩,
      same_rustBase h, hackId, rfl, hreason⟩
    · simp [Rust.frameOfValue, Rust.ackOfValue, hbase, htype, hgot, haccepted, hgotReason]
    · simp [Rust.validateFrame, Rust.validateAckFrame, validate_rustBase hulids h,
        Rust.validateAckId, hulids frame.ackId hack, check, bind, Except.bind]

theorem all_ofJsOpt {s : Option JsString} {r : Option RString} {q : RString → Bool}
    (h : ofJsOpt s = some r) : r.all q = s.all fun text => (ofJs text).any q := by
  cases s with
  | none =>
      cases h
      rfl
  | some text =>
      obtain ⟨t, ht, rfl⟩ := Option.map_eq_some_iff.mp h
      simp [ht]

/-- The status of a receipt as Rust reads it. -/
theorem statusOfText_read (status : ReceiptStatus) :
    (ofJs status.text).bind Rust.statusOfText = some status := by
  cases status <;> simp [ReceiptStatus.text, Rust.ofJs_js, Rust.statusOfText]

/-- A receipt as Rust reads it. -/
def rustReceipt (frame : ReceiptFrame) (reason : Option RString) : Rust.ReceiptFrame :=
  ⟨rustBase frame.toFrameBase, frame.originalFrameId.map Utf16.ofUnit,
    frame.toAgentDid.map Utf16.ofUnit, frame.status, reason⟩

section Receipt
variable {frame : ReceiptFrame} (h : frame.toFrameBase.isValid platform = true)
  (hid : Protocol.isUlid frame.originalFrameId = true)
  (hto : Protocol.isAgentDid frame.toAgentDid = true)
include h hid hto

/-- Whatever is read has the fields of the frame. -/
theorem receipt_read (hone : serde.number 1 = some 1) {w : RValue} {reason : Option RString}
    (hw : (Frame.receipt frame).toJson.traverse ofJs serde.number = some w)
    (hreason : ofJsOpt frame.reason = some reason) :
    Rust.frameOfValue w = some (.receipt (rustReceipt frame reason)) := by
  have hid' := ofJs_ascii (Protocol.isUlid_lt hid)
  have hto' := Rust.ofJs_agentDid hto
  obtain ⟨hbase, htype⟩ := base_read hone h hw
  have hgotId : Rust.getString w "originalFrameId" =
      some (frame.originalFrameId.map Utf16.ofUnit) := by
    rw [Rust.getString_read hw (s := frame.originalFrameId)
      (by simp [Frame.fields, FrameBase.fields])]
    exact hid'
  have hgotTo : Rust.getString w "toAgentDid" = some (frame.toAgentDid.map Utf16.ofUnit) := by
    rw [Rust.getString_read hw (s := frame.toAgentDid) (by simp [Frame.fields, FrameBase.fields])]
    exact hto'
  have hgotStatus : (Rust.getString w "status").bind Rust.statusOfText = some frame.status := by
    rw [Rust.getString_read hw (s := frame.status.text)
      (by simp [Frame.fields, FrameBase.fields])]
    exact statusOfText_read frame.status
  have hgotReason : Rust.getOptString w "reason" = some reason := by
    rw [Rust.getOptString_read hw (s := frame.reason) (by simp [Frame.fields, FrameBase.fields])]
    exact hreason
  simp [Rust.frameOfValue, Rust.receiptOfValue, rustReceipt, hbase, htype, hgotId, hgotTo,
    hgotStatus, hgotReason]

theorem validate_rustReceipt (hulids : Rust.ReadsUlids ulidFromString) (reason : Option RString) :
    Rust.validateFrame ulidFromString (.receipt (rustReceipt frame reason)) = .ok () ↔
      Rust.hasShortLabels frame.toAgentDid = true ∧
        reason.all (fun text => !(Rust.trim text).isEmpty) = true := by
  simp only [Rust.validateFrame, Rust.validateReceiptFrame, rustReceipt, bind_eq_ok,
    validate_rustBase hulids h, Rust.validateAckId, hulids _ hid, Rust.validateAgentDid,
    Rust.isAgentDid_map_iff hulids hto, Rust.validateNotBlank, check_eq_ok]
  simp

theorem receipt_fits (hone : serde.number 1 = some 1) (hdepth : 1 ≤ serde.maxDepth)
    (hwell : frame.reason.all isWellFormed = true) :
    ∀ f ∈ (Frame.receipt frame).fields, ∀ v, f.2 = some v → Fits serde v := by
  intro f hf
  rcases List.mem_append.mp hf with hf | hf
  · exact base_fits hdepth hone h f hf
  · have hfitId := (fits_str hdepth _).mpr (isWellFormed_ascii (Protocol.isUlid_lt hid))
    have hfitTo := (fits_str hdepth _).mpr (isWellFormed_ascii (Protocol.isAgentDid_lt hto))
    have hfitStatus : Fits serde (.str frame.status.text) := by
      rw [fits_str hdepth]
      cases frame.status <;> simp [ReceiptStatus.text, isWellFormed, Rust.ofJs_js]
    simp only [List.mem_cons, List.not_mem_nil, or_false] at hf
    rcases hf with rfl | rfl | rfl | rfl
    · simpa using hfitId
    · simpa using hfitTo
    · simpa using hfitStatus
    · exact (fits_optional hdepth frame.reason).mpr hwell

end Receipt

theorem receipt_understood_iff (hulids : Rust.ReadsUlids ulidFromString)
    (hone : serde.number 1 = some 1) (hdepth : 1 ≤ serde.maxDepth) {frame : ReceiptFrame}
    (h : frame.toFrameBase.isValid platform = true)
    (hid : Protocol.isUlid frame.originalFrameId = true)
    (hto : Protocol.isAgentDid frame.toAgentDid = true) :
    Understood serde ulidFromString (Frame.receipt frame).toJson ↔
      (Rust.hasShortLabels frame.toAgentDid && frame.reason.all fun reason =>
        (ofJs reason).any fun text => !(Rust.trim text).isEmpty) = true := by
  constructor
  · rintro ⟨_, read, _, hread, _⟩
    obtain ⟨w, hw, hf, hv⟩ := receive_eq_ok.mp hread
    have hfields := (read_object_isSome hdepth _).mp (Option.isSome_of_eq_some hw)
    have hwell := (fits_optional hdepth frame.reason).mp
      (hfields ("reason", frame.reason.map .str) (by simp [Frame.fields]))
    obtain ⟨reason, hreason⟩ := (ofJsOpt_isSome frame.reason).mp hwell
    rw [receipt_read h hid hto hone (read_eq_some hw) hreason] at hf
    cases hf
    obtain ⟨hshort, hblank⟩ := (validate_rustReceipt h hid hto hulids reason).mp hv
    rw [all_ofJsOpt hreason] at hblank
    rw [hshort, hblank]
    rfl
  · intro hreadable
    rw [Bool.and_eq_true] at hreadable
    have hwell : frame.reason.all isWellFormed = true := by
      cases hr : frame.reason with
      | none => rfl
      | some text =>
          rw [hr] at hreadable
          cases ht : ofJs text <;> simp [ht, isWellFormed] at hreadable ⊢
    obtain ⟨reason, hreason⟩ := (ofJsOpt_isSome frame.reason).mp hwell
    have hfields := receipt_fits h hid hto hone hdepth hwell
    obtain ⟨w, hw⟩ := Option.isSome_iff_exists.mp ((read_object_isSome hdepth _).mpr hfields)
    refine ⟨_, _, Frame.ofJson_toJson _, receive_eq_ok.mpr ⟨w, hw,
      receipt_read h hid hto hone (read_eq_some hw) hreason,
      (validate_rustReceipt h hid hto hulids reason).mpr ⟨hreadable.1, ?_⟩⟩,
      same_rustBase h, ofJs_ascii (Protocol.isUlid_lt hid), Rust.ofJs_agentDid hto, rfl, hreason⟩
    rw [all_ofJsOpt hreason]
    exact hreadable.2

/-! ## Deliver frames -/

/-- A deliver frame that the proxy builds for a message it has accepted. -/
structure Deliverable (platform : Platform) (frame : DeliverFrame) : Prop where
  base : frame.toFrameBase.isValid platform = true
  sender : Protocol.isAgentDid frame.fromAgentDid = true
  recipient : Protocol.isAgentDid frame.toAgentDid = true
  source : frame.deliverySource = none ∨
    frame.deliverySource = some Relay.RELAY_DELIVERY_SOURCE_AGENT_ENQUEUE
  content : frame.contentType = none
  group : ∀ groupId, frame.groupId = some groupId → Protocol.parseGroupId groupId = some groupId

/-- The frame as Rust has it, for what it reads from the payload and the two texts. -/
def rustDeliver (frame : DeliverFrame) (payload : RValue) (conversationId replyTo : Option RString) :
    Rust.DeliverFrame where
  toFrameBase := rustBase frame.toFrameBase
  fromAgentDid := frame.fromAgentDid.map Utf16.ofUnit
  toAgentDid := frame.toAgentDid.map Utf16.ofUnit
  payload := payload
  deliverySource := frame.deliverySource.map (List.map Utf16.ofUnit)
  contentType := none
  groupId := frame.groupId.map (List.map Utf16.ofUnit)
  conversationId := conversationId
  replyTo := replyTo

variable {frame : DeliverFrame}

theorem Deliverable.ofJs_source (h : Deliverable platform frame) :
    ofJsOpt frame.deliverySource = some (frame.deliverySource.map (List.map Utf16.ofUnit)) := by
  rcases h.source with hsource | hsource
  · rw [hsource]
    rfl
  · rw [hsource]
    simp only [ofJsOpt, Relay.RELAY_DELIVERY_SOURCE_AGENT_ENQUEUE, Rust.ofJs_js, Option.map_some]
    rfl

theorem Deliverable.ofJs_group (hulids : Rust.ReadsUlids ulidFromString)
    (h : Deliverable platform frame) :
    ofJsOpt frame.groupId = some (frame.groupId.map (List.map Utf16.ofUnit)) := by
  cases hgroup : frame.groupId with
  | none => rfl
  | some groupId =>
      rw [ofJsOpt, (Rust.isGroupId_map hulids (h.group groupId hgroup)).1]
      rfl

/-- Which fields of the frame are read. -/
theorem Deliverable.fits_iff (h : Deliverable platform frame)
    (hulids : Rust.ReadsUlids ulidFromString) (hone : serde.number 1 = some 1)
    (hdepth : 1 ≤ serde.maxDepth) :
    (∀ f ∈ (Frame.deliver frame).fields, ∀ v, f.2 = some v → Fits serde v) ↔
      (∀ payload, frame.payload = some payload → Fits serde payload) ∧
      frame.conversationId.all isWellFormed = true ∧ frame.replyTo.all isWellFormed = true := by
  have hfrom := (fits_str hdepth _).mpr (isWellFormed_ascii (Protocol.isAgentDid_lt h.sender))
  have hto := (fits_str hdepth _).mpr (isWellFormed_ascii (Protocol.isAgentDid_lt h.recipient))
  have hsource := (fits_optional hdepth _).mpr ((ofJsOpt_isSome _).mpr ⟨_, h.ofJs_source⟩)
  have hgroup := (fits_optional hdepth _).mpr ((ofJsOpt_isSome _).mpr ⟨_, h.ofJs_group hulids⟩)
  constructor
  · intro hfields
    refine ⟨?_, ?_, ?_⟩
    · intro payload hpayload
      exact hfields ("payload", frame.payload) (by simp [Frame.fields]) payload hpayload
    · exact (fits_optional hdepth _).mp
        (hfields ("conversationId", frame.conversationId.map .str) (by simp [Frame.fields]))
    · exact (fits_optional hdepth _).mp
        (hfields ("replyTo", frame.replyTo.map .str) (by simp [Frame.fields]))
  · rintro ⟨hpayload, hconversation, hreply⟩ f hf
    rcases List.mem_append.mp hf with hf | hf
    · exact base_fits hdepth hone h.base f hf
    · simp only [List.mem_cons, List.not_mem_nil, or_false] at hf
      rcases hf with rfl | rfl | rfl | rfl | rfl | rfl | rfl | rfl
      · simpa using hfrom
      · simpa using hto
      · exact hpayload
      · exact hsource
      · simp [h.content]
      · exact hgroup
      · exact (fits_optional hdepth _).mpr hconversation
      · exact (fits_optional hdepth _).mpr hreply

/-- What is read has the fields of the frame; only the payload may be missing. -/
theorem Deliverable.frameOfValue_read (h : Deliverable platform frame)
    (hulids : Rust.ReadsUlids ulidFromString) (hone : serde.number 1 = some 1) {w : RValue}
    {conversationId replyTo : Option RString}
    (hw : (Frame.deliver frame).toJson.traverse ofJs serde.number = some w)
    (hconversation : ofJsOpt frame.conversationId = some conversationId)
    (hreply : ofJsOpt frame.replyTo = some replyTo) :
    Rust.frameOfValue w = (frame.payload.bind fun payload =>
      payload.traverse ofJs serde.number).map fun payload =>
        .deliver (rustDeliver frame payload conversationId replyTo) := by
  obtain ⟨hbase, htype⟩ := base_read hone h.base hw
  have hfrom : Rust.getString w "fromAgentDid" = some (frame.fromAgentDid.map Utf16.ofUnit) := by
    rw [Rust.getString_read hw (s := frame.fromAgentDid) (by simp [Frame.fields, FrameBase.fields])]
    exact Rust.ofJs_agentDid h.sender
  have hto : Rust.getString w "toAgentDid" = some (frame.toAgentDid.map Utf16.ofUnit) := by
    rw [Rust.getString_read hw (s := frame.toAgentDid) (by simp [Frame.fields, FrameBase.fields])]
    exact Rust.ofJs_agentDid h.recipient
  have hpayload : w.get? (rs "payload") =
      frame.payload.bind fun payload => payload.traverse ofJs serde.number := by
    rw [Rust.get?_read hw]
    simp [Frame.fields, FrameBase.fields]
  have hoptional : ∀ key s, Json.lookupField key (Frame.deliver frame).fields = s.map .str →
      Rust.getOptString w key = ofJsOpt s := fun key s hfield => Rust.getOptString_read hw hfield
  have hsource := hoptional "deliverySource" frame.deliverySource
    (by simp [Frame.fields, FrameBase.fields])
  have hcontent := hoptional "contentType" frame.contentType
    (by simp [Frame.fields, FrameBase.fields])
  have hgroup := hoptional "groupId" frame.groupId (by simp [Frame.fields, FrameBase.fields])
  have hconversation' := hoptional "conversationId" frame.conversationId
    (by simp [Frame.fields, FrameBase.fields])
  have hreply' := hoptional "replyTo" frame.replyTo (by simp [Frame.fields, FrameBase.fields])
  rw [h.ofJs_source] at hsource
  rw [h.content] at hcontent
  rw [h.ofJs_group hulids] at hgroup
  rw [hconversation] at hconversation'
  rw [hreply] at hreply'
  cases hread : frame.payload.bind fun payload => payload.traverse ofJs serde.number with
  | none =>
      simp [Rust.frameOfValue, Rust.deliverOfValue, hbase, htype, hfrom, hto, hpayload, hread]
  | some payload =>
      simp [Rust.frameOfValue, Rust.deliverOfValue, hbase, htype, hfrom, hto, hpayload, hread,
        hsource, hcontent, hgroup, hconversation', hreply', ofJsOpt, rustDeliver]

/-- What Rust checks beyond the schema of the proxy. -/
theorem Deliverable.validateFrame_eq_ok (h : Deliverable platform frame)
    (hulids : Rust.ReadsUlids ulidFromString) {payload : RValue}
    {conversationId replyTo : Option RString} :
    Rust.validateFrame ulidFromString
        (.deliver (rustDeliver frame payload conversationId replyTo)) = .ok () ↔
      Rust.hasShortLabels frame.fromAgentDid = true ∧
        Rust.hasShortLabels frame.toAgentDid = true := by
  have hsource : (frame.deliverySource.map (List.map Utf16.ofUnit)).all
      (fun text => !(Rust.trim text).isEmpty) = true := by
    rcases h.source with hsource | hsource
    · rw [hsource]
      rfl
    · rw [hsource]
      decide
  have hgroup : (frame.groupId.map (List.map Utf16.ofUnit)).all (Rust.isGroupId ulidFromString) =
      true := by
    cases hgroup : frame.groupId with
    | none => rfl
    | some groupId => exact (Rust.isGroupId_map hulids (h.group groupId hgroup)).2
  simp only [Rust.validateFrame, Rust.validateDeliverFrame, rustDeliver, bind_eq_ok,
    validate_rustBase hulids h.base, Rust.validateAgentDid, Rust.isAgentDid_map_iff hulids h.sender,
    Rust.isAgentDid_map_iff hulids h.recipient, Rust.validateNotBlank, Rust.validateGroupId,
    hsource, hgroup, check_eq_ok]
  simp

/-- A payload that is read as it is. -/
theorem readsPayload_iff {payload : Value} {w : RValue} :
    Fits serde payload ∧ payload.traverse ofJs serde.number = some w ∧
        sameValue payload = some w ↔
      readsPayload serde payload = true ∧ sameValue payload = some w := by
  simp only [readsPayload, Fits, Bool.and_eq_true, decide_eq_true_eq]
  constructor
  · intro ⟨⟨hdepth, _⟩, hread, hsame⟩
    exact ⟨⟨⟨hdepth, by rw [hsame]; rfl⟩, by rw [hread, hsame]⟩, hsame⟩
  · intro ⟨⟨⟨hdepth, _⟩, hread⟩, hsame⟩
    rw [hsame] at hread
    exact ⟨⟨hdepth, by rw [hread]; rfl⟩, hread, hsame⟩

/-- **When a deliver frame is understood.** -/
theorem deliver_understood_iff (h : Deliverable platform frame)
    (hulids : Rust.ReadsUlids ulidFromString) (hone : serde.number 1 = some 1)
    (hdepth : 1 ≤ serde.maxDepth) :
    Understood serde ulidFromString (Frame.deliver frame).toJson ↔
      (frame.payload.any (readsPayload serde) && frame.conversationId.all isWellFormed &&
        frame.replyTo.all isWellFormed && Rust.hasShortLabels frame.fromAgentDid &&
        Rust.hasShortLabels frame.toAgentDid) = true := by
  simp only [Bool.and_eq_true]
  constructor
  · intro ⟨parsed, read, hparsed, hread, hsame⟩
    cases (Frame.ofJson_toJson _).symm.trans hparsed
    obtain ⟨w, hw, hframe, hvalid⟩ := receive_eq_ok.mp hread
    obtain ⟨hpayload, hconversation, hreply⟩ := (h.fits_iff hulids hone hdepth).mp
      ((read_object_isSome hdepth _).mp (Option.isSome_of_eq_some hw))
    obtain ⟨conversationId, hconversation'⟩ := (ofJsOpt_isSome _).mp hconversation
    obtain ⟨replyTo, hreply'⟩ := (ofJsOpt_isSome _).mp hreply
    rw [h.frameOfValue_read hulids hone (read_eq_some hw) hconversation' hreply'] at hframe
    obtain ⟨payload, htraverse, rfl⟩ := Option.map_eq_some_iff.mp hframe
    obtain ⟨value, hvalue, htraverse⟩ := Option.bind_eq_some_iff.mp htraverse
    obtain ⟨hfrom, hto⟩ := (h.validateFrame_eq_ok hulids).mp hvalid
    have hsamePayload : frame.payload.bind sameValue = some payload := hsame.2.2.2.1
    rw [hvalue] at hsamePayload
    have hreads := (readsPayload_iff.mp ⟨hpayload value hvalue, htraverse, hsamePayload⟩).1
    exact ⟨⟨⟨⟨by rw [hvalue]; exact hreads, hconversation⟩, hreply⟩, hfrom⟩, hto⟩
  · intro ⟨⟨⟨⟨hpayload, hconversation⟩, hreply⟩, hfrom⟩, hto⟩
    obtain ⟨value, hvalue, hreads⟩ := (Option.any_eq_true _ _).mp hpayload
    obtain ⟨payload, hsame⟩ : ∃ payload, sameValue value = some payload := by
      simp only [readsPayload, Bool.and_eq_true] at hreads
      exact Option.isSome_iff_exists.mp hreads.1.2
    obtain ⟨hfits, htraverse, _⟩ := readsPayload_iff.mpr ⟨hreads, hsame⟩
    obtain ⟨conversationId, hconversation'⟩ := (ofJsOpt_isSome _).mp hconversation
    obtain ⟨replyTo, hreply'⟩ := (ofJsOpt_isSome _).mp hreply
    have hfields := (h.fits_iff hulids hone hdepth).mpr ⟨?_, hconversation, hreply⟩
    · obtain ⟨w, hw⟩ := Option.isSome_iff_exists.mp ((read_object_isSome hdepth _).mpr hfields)
      refine ⟨_, .deliver (rustDeliver frame payload conversationId replyTo),
        Frame.ofJson_toJson _, receive_eq_ok.mpr ⟨w, hw, ?_,
          (h.validateFrame_eq_ok hulids).mpr ⟨hfrom, hto⟩⟩, ?_⟩
      · rw [h.frameOfValue_read hulids hone (read_eq_some hw) hconversation' hreply', hvalue,
          Option.bind_some, htraverse, Option.map_some]
      · refine ⟨same_rustBase h.base, Rust.ofJs_agentDid h.sender, Rust.ofJs_agentDid h.recipient,
          ?_, h.ofJs_source, ?_, h.ofJs_group hulids, hconversation', hreply'⟩
        · rw [hvalue]
          exact hsame
        · rw [h.content]
          rfl
    · intro other hother
      rw [hvalue] at hother
      cases hother
      exact hfits

end

/-! ## Messages that the proxy accepts -/

/-- The session receives the input for an enqueue frame or a hook delivery that the proxy
has accepted. -/
inductive AcceptedInput (platform : Platform) : Relay.RelayDeliveryInput → Prop
  | enqueue {message : Value} {frame : EnqueueFrame} {senderAgentDid : JsString}
      {input : Relay.RelayDeliveryInput}
      (hframe : parseFrame platform message = some (.enqueue frame))
      (hinput : Relay.parseDeliveryInput platform
        (Relay.toRelayDeliveryInputFromEnqueueFrame frame senderAgentDid).toJson = some input) :
      AcceptedInput platform input
  | hook {options : HookRoute.HookOptions} {request : HookRoute.HookRequest}
      {raw input : Relay.RelayDeliveryInput}
      (hhook : HookRoute.createAgentHookHandler options request = .ok raw)
      (hinput : Relay.parseDeliveryInput platform raw.toJson = some input) :
      AcceptedInput platform input

section
variable {platform : Platform} {input : Relay.RelayDeliveryInput}

/-- What is known of an accepted input. -/
structure InputOk (input : Relay.RelayDeliveryInput) : Prop where
  source : input.deliverySource = none ∨
    input.deliverySource = some Relay.RELAY_DELIVERY_SOURCE_AGENT_ENQUEUE
  group : ∀ groupId, input.groupId = some groupId → Protocol.parseGroupId groupId = some groupId
  conversationId : input.conversationId.map trim = input.conversationId
  replyTo : input.replyTo.map trim = input.replyTo

theorem map_trim_map_trim (s : Option JsString) : (s.map trim).map trim = s.map trim := by
  cases s with
  | none => rfl
  | some s => simp

theorem source_trimmed : trim Relay.RELAY_DELIVERY_SOURCE_AGENT_ENQUEUE =
    Relay.RELAY_DELIVERY_SOURCE_AGENT_ENQUEUE := by
  decide

theorem source_nonEmpty :
    isNonEmptyString Relay.RELAY_DELIVERY_SOURCE_AGENT_ENQUEUE = true := by
  decide

/-- What `parseDeliveryInput` guarantees, whatever the source is. -/
theorem inputOk_of_parse {raw : Relay.RelayDeliveryInput}
    (h : Relay.parseDeliveryInput platform raw.toJson = some input)
    (hsource : (raw.deliverySource.filter isNonEmptyString).map trim = none ∨
      (raw.deliverySource.filter isNonEmptyString).map trim =
        some Relay.RELAY_DELIVERY_SOURCE_AGENT_ENQUEUE) : InputOk input := by
  obtain ⟨rfl, _, hgroup⟩ := Relay.parseDeliveryInput_toJson h
  refine ⟨hsource, ?_, map_trim_map_trim _, map_trim_map_trim _⟩
  intro groupId hid
  obtain ⟨text, htext, rfl⟩ := Option.map_eq_some_iff.mp hid
  rw [htext, Option.all_some, Bool.and_eq_true] at hgroup
  obtain ⟨parsed, hparsed⟩ := Option.isSome_iff_exists.mp hgroup.2
  have heq := Protocol.parseGroupId_eq hparsed
  rw [trim_trim] at heq
  rw [hparsed, heq]

theorem AcceptedInput.inputOk (h : AcceptedInput platform input) : InputOk input := by
  cases h with
  | enqueue hframe hinput =>
      refine inputOk_of_parse hinput (.inr ?_)
      simp [Relay.toRelayDeliveryInputFromEnqueueFrame, source_trimmed, source_nonEmpty]
  | hook hhook hinput =>
      refine inputOk_of_parse hinput (.inl ?_)
      rw [(HookRoute.createAgentHookHandler_spec hhook).1]
      rfl

/-- **When the frame of an accepted input is understood**; the queue may have dropped
the group id. -/
theorem sent_understood_iff {serde : Serde} {ulidFromString : RString → Bool} {rt : Relay.Runtime}
    (hulids : Rust.ReadsUlids ulidFromString) (hone : serde.number 1 = some 1)
    (hdepth : 1 ≤ serde.maxDepth) (h : InputOk input) {sent : Relay.RelayDeliveryInput}
    (hsent : sent = input ∨ sent = { input with groupId := none }) {env : Relay.Env} {v : Value}
    (hv : serializeFrame rt.platform (.deliver (Relay.toDeliverFrame rt sent env)) = some v) :
    Understood serde ulidFromString v ↔ readable serde input = true := by
  have hfields : sent.deliverySource = input.deliverySource ∧ sent.payload = input.payload ∧
      sent.conversationId = input.conversationId ∧ sent.replyTo = input.replyTo ∧
      sent.senderAgentDid = input.senderAgentDid ∧
      sent.recipientAgentDid = input.recipientAgentDid ∧
      ∀ groupId, sent.groupId = some groupId → input.groupId = some groupId := by
    rcases hsent with rfl | rfl
    · exact ⟨rfl, rfl, rfl, rfl, rfl, rfl, fun _ hid => hid⟩
    · exact ⟨rfl, rfl, rfl, rfl, rfl, rfl, fun _ hid => by cases hid⟩
  obtain ⟨hsource, hpayload, hconversation, hreply, hsender, hrecipient, hgroup⟩ := hfields
  obtain ⟨f, hf, rfl⟩ := Option.map_eq_some_iff.mp hv
  obtain ⟨g, hg, rfl⟩ := Option.map_eq_some_iff.mp hf
  obtain ⟨hvalid, rfl⟩ := DeliverFrame.validate_eq_some.mp hg
  obtain ⟨_, _, _, _, _, hbase⟩ := hvalid
  simp only [Bool.and_eq_true] at hbase
  obtain ⟨⟨hbase, hfrom⟩, hto⟩ := hbase
  have hdeliverable : Deliverable rt.platform
      { Relay.toDeliverFrame rt sent env with
        deliverySource := sent.deliverySource.map trim
        contentType := none
        conversationId := sent.conversationId.map trim
        replyTo := sent.replyTo.map trim } := by
    refine ⟨hbase, hfrom, hto, ?_, rfl, ?_⟩
    · rw [hsource]
      rcases h.source with hnone | henqueue
      · rw [hnone]
        exact .inl rfl
      · rw [henqueue, Option.map_some, source_trimmed]
        exact .inr rfl
    · intro groupId hid
      exact h.group groupId (hgroup groupId hid)
  refine (deliver_understood_iff hdeliverable hulids hone hdepth).trans ?_
  simp only [Relay.toDeliverFrame, hpayload, hconversation, hreply, hsender, hrecipient,
    h.conversationId, h.replyTo, readable]

end

/-- Every delivery that the session is asked for is that of an accepted message. -/
def AcceptedMoves (platform : Platform)
    (moves : List (Interleave.Move (Relay.Request × Relay.Env) Relay.Choice)) : Prop :=
  ∀ input env, .start (.deliverToConnector input, env) ∈ moves → AcceptedInput platform input

open Relay Lib.Interleave Lib.Run in
/-- **Which frames of the proxy the connector understands.** In every run of a session
whose deliveries are those of accepted messages, a deliver frame is understood if and
only if each message it was sent for is readable; a receipt frame is if its receipt is, an
enqueue acknowledgement if its reason is well formed, and heartbeats always are. -/
theorem frames_understood_iff (rt : Runtime) (policy : RelayDeliveryPolicy) (serde : Serde)
    (ulidFromString : RString → Bool) (hulids : Rust.ReadsUlids ulidFromString)
    (hone : serde.number 1 = some 1) (hdepth : 1 ≤ serde.maxDepth) :
    (∀ moves p, AcceptedMoves rt.platform moves →
      exec (program rt policy).step idle moves = some p →
      ∀ f ∈ p.shared.history.sent, (∃ input, SentFor p.shared.history input f) ∧
        ∀ input, SentFor p.shared.history input f →
          (Understood serde ulidFromString f.frame ↔ readable serde input = true)) ∧
    (∀ record env v, toReceiptFramePayload rt record env = some v →
      (Understood serde ulidFromString v ↔ readableReceipt record = true)) ∧
    (∀ ackId result env v, toEnqueueAckFrame rt ackId result env = some v →
      (Understood serde ulidFromString v ↔
        result.reason.all (fun reason => isWellFormed (trim reason)) = true)) ∧
    (∀ ackId env v, toHeartbeatAckFrame rt ackId env = some v →
      Understood serde ulidFromString v) ∧
    (∀ env v, toHeartbeatFrame rt env = some v → Understood serde ulidFromString v) := by
  refine ⟨?_, ?_, ?_, ?_, ?_⟩
  · intro moves p hmoves hrun f hf
    have hh : HistoryOk rt
        (fun request => ∀ input, request = .deliverToConnector input →
          AcceptedInput rt.platform input)
        (fun _ => True) p.shared.history := by
      refine run_history_ok ?_ hrun
      intro e he
      match e, he with
      | .start (request, env), he =>
          refine ⟨?_, trivial⟩
          intro input hinput
          subst hinput
          exact hmoves input env he
      | .resume _ (.settle _), _ => trivial
      | .resume _ (.proceed _), _ => trivial
    refine ⟨hh.exists_sentFor hf, ?_⟩
    intro input hfor
    obtain ⟨hasked, hsource⟩ := hh.sentFor hf hfor
    obtain ⟨env, _, hframe⟩ := hh.sent f hf
    have hsent : f.source.input = input ∨ f.source.input = { input with groupId := none } := by
      rcases hsource with ⟨_, hinput⟩ | ⟨_, hinput⟩
      · exact .inl hinput
      · exact .inr hinput
    exact sent_understood_iff hulids hone hdepth (hasked input rfl).inputOk hsent hframe
  · intro record env v hv
    obtain ⟨f, hf, rfl⟩ := Option.map_eq_some_iff.mp hv
    obtain ⟨g, hg, rfl⟩ := Option.map_eq_some_iff.mp hf
    obtain ⟨⟨_, hbase⟩, rfl⟩ := ReceiptFrame.validate_eq_some.mp hg
    simp only [Bool.and_eq_true] at hbase
    refine (receipt_understood_iff hulids hone hdepth hbase.1.1 hbase.1.2 hbase.2).trans ?_
    cases hreason : record.reason with
    | none => simp [readableReceipt, hreason]
    | some reason => simp [readableReceipt, hreason]
  · intro ackId result env v hv
    obtain ⟨f, hf, rfl⟩ := Option.map_eq_some_iff.mp hv
    obtain ⟨g, hg, rfl⟩ := Option.map_eq_some_iff.mp hf
    obtain ⟨⟨_, hbase⟩, rfl⟩ := AckFrame.validate_eq_some.mp hg
    simp only [Bool.and_eq_true] at hbase
    refine (enqueueAck_understood_iff hulids hone hdepth hbase.1 hbase.2).trans ?_
    cases hreason : result.reason with
    | none => simp
    | some reason => simp
  · intro ackId env v hv
    obtain ⟨f, hf, rfl⟩ := Option.map_eq_some_iff.mp hv
    simp only [Frame.validate, Option.ite_none_right_eq_some, Option.some.injEq,
      Bool.and_eq_true] at hf
    obtain ⟨⟨hbase, hack⟩, rfl⟩ := hf
    exact heartbeatAck_understood hulids hone hdepth hbase hack
  · intro env v hv
    obtain ⟨f, hf, rfl⟩ := Option.map_eq_some_iff.mp hv
    simp only [Frame.validate, Option.ite_none_right_eq_some, Option.some.injEq] at hf
    obtain ⟨hbase, rfl⟩ := hf
    exact heartbeat_understood hulids hone hdepth hbase

/-! ### A message without a payload -/

section Example
open Relay Lib.Interleave Lib.Run

def exampleEnqueueFrame (payload : Option Value) : EnqueueFrame where
  id := js "01HF7YAT00W6W7CM7N3W5FDXR0"
  ts := js "2023-11-14T22:13:20.000Z"
  toAgentDid := js "did:cdi:registry.example.com:agent:01HF7YAT00W6W7CM7N3W5FDXB0"
  groupId := none
  payload := payload
  conversationId := none
  replyTo := none

def exampleSender : JsString := js "did:cdi:registry.example.com:agent:01HF7YAT00W6W7CM7N3W5FDXA0"

/-- The message is delivered directly. -/
def exampleRun (payload : Option Value) : List (Move (Request × Env) Choice) :=
  [.start (.deliverToConnector
      (toRelayDeliveryInputFromEnqueueFrame (exampleEnqueueFrame payload) exampleSender),
    exampleEnv 1700000000000 "01HF7YAT00W6W7CM7N3W5FDXD0" "01HF7YAT00W6W7CM7N3W5FDXF0")]

theorem exampleRun_accepted {payload : Option Value}
    (hframe : parseFrame exampleRuntime.platform (Frame.enqueue (exampleEnqueueFrame payload)).toJson =
      some (.enqueue (exampleEnqueueFrame payload)))
    (hinput : parseDeliveryInput exampleRuntime.platform
      (toRelayDeliveryInputFromEnqueueFrame (exampleEnqueueFrame payload) exampleSender).toJson =
        some (toRelayDeliveryInputFromEnqueueFrame (exampleEnqueueFrame payload) exampleSender)) :
    AcceptedMoves exampleRuntime.platform (exampleRun payload) := by
  intro input env hmem
  cases List.mem_singleton.mp hmem
  exact .enqueue hframe hinput

/-- The message without a payload is sent, and the client cannot read it. -/
theorem exampleRun_missing_payload :
    ((exec (program exampleRuntime defaultPolicy).step idle (exampleRun none)).map fun p =>
      p.shared.history.sent.map fun f =>
        receive Rust.exampleSerde Rust.exampleUlidFromString f.frame) = some [.error .json] := by
  decide

/-- **A message that the proxy accepts can break the connection of its recipient.** -/
theorem not_frames_understood :
    ¬ ∀ (rt : Runtime) (policy : RelayDeliveryPolicy) (serde : Serde)
      (ulidFromString : RString → Bool), Rust.ReadsUlids ulidFromString →
      serde.number 1 = some 1 → 1 ≤ serde.maxDepth →
      ∀ moves p, AcceptedMoves rt.platform moves →
        exec (program rt policy).step idle moves = some p →
        ∀ f ∈ p.shared.history.sent, Understood serde ulidFromString f.frame := by
  intro h
  obtain ⟨p, hrun, hsent⟩ := Option.map_eq_some_iff.mp exampleRun_missing_payload
  obtain ⟨f, hf, hreceive⟩ := List.map_eq_singleton_iff.mp hsent
  have haccepted : AcceptedMoves exampleRuntime.platform (exampleRun none) :=
    exampleRun_accepted (by decide) (by decide)
  obtain ⟨_, read, _, hread, _⟩ := h exampleRuntime defaultPolicy Rust.exampleSerde
    Rust.exampleUlidFromString Rust.readsUlids_example rfl (by decide) (exampleRun none) p haccepted
    hrun f (by rw [hf]; exact List.mem_singleton_self f)
  rw [hreceive] at hread
  cases hread

theorem exampleRun_sends :
    (exec (program exampleRuntime defaultPolicy).step idle
      (exampleRun (some (.str (js "hi"))))).map (fun p => p.shared.history.sent.length) = some 1 := by
  decide

/-- The frames of a run with a payload are described exactly. -/
theorem exampleRun_understood_iff :
    ∃ p, exec (program exampleRuntime defaultPolicy).step idle
        (exampleRun (some (.str (js "hi")))) = some p ∧ p.shared.history.sent.length = 1 ∧
      ∀ f ∈ p.shared.history.sent, ∀ input, SentFor p.shared.history input f →
        (Understood Rust.exampleSerde Rust.exampleUlidFromString f.frame ↔
          readable Rust.exampleSerde input = true) := by
  obtain ⟨p, hrun, hlength⟩ := Option.map_eq_some_iff.mp exampleRun_sends
  have haccepted : AcceptedMoves exampleRuntime.platform (exampleRun (some (.str (js "hi")))) :=
    exampleRun_accepted (by decide) (by decide)
  refine ⟨p, hrun, hlength, ?_⟩
  intro f hf
  exact ((frames_understood_iff exampleRuntime defaultPolicy Rust.exampleSerde
    Rust.exampleUlidFromString Rust.readsUlids_example rfl (by decide)).1 _ p haccepted hrun f hf).2

end Example

end Clawdentity.Wire
