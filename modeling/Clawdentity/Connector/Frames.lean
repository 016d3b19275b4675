import Clawdentity.Js.Value
import Clawdentity.Protocol.Identifiers

/-!
# Connector frames

The frame schemas of the TypeScript connector package. A schema first reads the
fields of a strict object and then checks them; three of the checks also change
the value, as they trim it. The URL parser and the date parser of the platform are
parameters.

## Main definitions

* `Frame` — the seven kinds of frames.
* `Frame.validate` — the checks and transformations of `connectorFrameSchema`.
* `parseFrame`, `serializeFrame` — from and to the JSON of a frame.
-/

namespace Clawdentity.Connector

open Js Protocol
open Lib (Json)

/-- The functions of the platform that the schemas call. -/
structure Platform where
  /-- `new URL(text)` does not throw. -/
  isUrl : JsString → Bool
  /-- `Date.parse(text)` is not `NaN`. -/
  isDate : JsString → Bool

/-! ## Frames -/

structure FrameBase where
  id : JsString
  ts : JsString
  deriving DecidableEq

structure DeliverFrame extends FrameBase where
  fromAgentDid : JsString
  toAgentDid : JsString
  /-- `undefined` is `none`. -/
  payload : Option (Value)
  deliverySource : Option JsString
  contentType : Option JsString
  groupId : Option JsString
  conversationId : Option JsString
  replyTo : Option JsString
  deriving DecidableEq

structure EnqueueFrame extends FrameBase where
  toAgentDid : JsString
  groupId : Option JsString
  payload : Option (Value)
  conversationId : Option JsString
  replyTo : Option JsString
  deriving DecidableEq

/-- The common shape of `deliver_ack` and `enqueue_ack`. -/
structure AckFrame extends FrameBase where
  ackId : JsString
  accepted : Bool
  reason : Option JsString
  deriving DecidableEq

inductive ReceiptStatus
  | deliveredToWebhook
  | deadLettered
  deriving DecidableEq, Repr

structure ReceiptFrame extends FrameBase where
  originalFrameId : JsString
  toAgentDid : JsString
  status : ReceiptStatus
  reason : Option JsString
  deriving DecidableEq

inductive Frame
  | heartbeat (base : FrameBase)
  | heartbeatAck (base : FrameBase) (ackId : JsString)
  | deliver (frame : DeliverFrame)
  | deliverAck (frame : AckFrame)
  | enqueue (frame : EnqueueFrame)
  | enqueueAck (frame : AckFrame)
  | receipt (frame : ReceiptFrame)
  deriving DecidableEq

/-! ## The checks -/

/-- `ISO_TIMESTAMP_PATTERN`: the fixed positions of the date and time, and a rest
that is an optional fraction of at most nine digits and a zone. -/
def isIsoTimestamp (value : JsString) : Bool :=
  let fixed := js "dddd-dd-ddTdd:dd:dd"
  let rest := value.drop fixed.length
  let fraction := rest.drop 1 |>.takeWhile isDigit
  let zone := if rest.head? = some 0x2E then rest.drop (1 + fraction.length) else rest
  fixed.length ≤ value.length &&
    (List.zipWith (fun p u => if p == 0x64 then isDigit u else p == u) fixed value).all id &&
    (rest.head? ≠ some 0x2E || (1 ≤ fraction.length && fraction.length ≤ 9)) &&
    (zone = js "Z" ||
      (zone.length = 6 && (zone.head? = some 0x2B || zone.head? = some 0x2D) &&
        (List.zipWith (fun p u => if p == 0x64 then isDigit u else p == u) (js "dd:dd")
          (zone.drop 1)).all id))

/-- `nonEmptyStringSchema.optional()`: trimmed, and then not empty. -/
def nonEmpty (value : Option JsString) : Option (Option JsString) :=
  match value with
  | none => some none
  | some s => if isNonEmptyString s then some (some (trim s)) else none

/-- `groupIdSchema.optional()`, which keeps the text as it is. -/
def checkedGroupId (value : Option JsString) : Option (Option JsString) :=
  if value.all isGroupId then some value else none

section Schemas
variable (platform : Platform)

/-- `z.string().url().optional()`, which answers the trimmed text. -/
def checkedUrl (value : Option JsString) : Option (Option JsString) :=
  match value with
  | none => some none
  | some s => if platform.isUrl (trim s) then some (some (trim s)) else none

def FrameBase.isValid (base : FrameBase) : Bool :=
  isUlid base.id && isIsoTimestamp base.ts && platform.isDate base.ts

def DeliverFrame.validate (f : DeliverFrame) : Option DeliverFrame := do
  let deliverySource ← nonEmpty f.deliverySource
  let contentType ← nonEmpty f.contentType
  let groupId ← checkedGroupId f.groupId
  let conversationId ← nonEmpty f.conversationId
  let replyTo ← checkedUrl platform f.replyTo
  if f.toFrameBase.isValid platform && isAgentDid f.fromAgentDid && isAgentDid f.toAgentDid then
    some { f with deliverySource, contentType, groupId, conversationId, replyTo }
  else none

def EnqueueFrame.validate (f : EnqueueFrame) : Option EnqueueFrame := do
  let groupId ← checkedGroupId f.groupId
  let conversationId ← nonEmpty f.conversationId
  let replyTo ← checkedUrl platform f.replyTo
  if f.toFrameBase.isValid platform && isAgentDid f.toAgentDid then
    some { f with groupId, conversationId, replyTo }
  else none

def AckFrame.validate (f : AckFrame) : Option AckFrame := do
  let reason ← nonEmpty f.reason
  if f.toFrameBase.isValid platform && isUlid f.ackId then some { f with reason } else none

def ReceiptFrame.validate (f : ReceiptFrame) : Option ReceiptFrame := do
  let reason ← nonEmpty f.reason
  if f.toFrameBase.isValid platform && isUlid f.originalFrameId && isAgentDid f.toAgentDid then
    some { f with reason }
  else none

/-- `connectorFrameSchema.safeParse` on a frame: `none` where it fails. -/
def Frame.validate : Frame → Option Frame
  | .heartbeat base => if base.isValid platform then some (.heartbeat base) else none
  | .heartbeatAck base ackId =>
      if base.isValid platform && isUlid ackId then some (.heartbeatAck base ackId) else none
  | .deliver f => (f.validate platform).map .deliver
  | .deliverAck f => (f.validate platform).map .deliverAck
  | .enqueue f => (f.validate platform).map .enqueue
  | .enqueueAck f => (f.validate platform).map .enqueueAck
  | .receipt f => (f.validate platform).map .receipt

end Schemas

/-! ## What the checks accept -/

theorem nonEmpty_eq_some {value r : Option JsString} :
    nonEmpty value = some r ↔ value.all isNonEmptyString = true ∧ r = value.map trim := by
  cases value with
  | none => simp [nonEmpty, eq_comm]
  | some s =>
      by_cases hs : isNonEmptyString s = true
      · simp [nonEmpty, hs, eq_comm]
      · simp [nonEmpty, hs]

theorem checkedGroupId_eq_some {value r : Option JsString} :
    checkedGroupId value = some r ↔ value.all isGroupId = true ∧ r = value := by
  by_cases hv : value.all isGroupId = true
  · simp [checkedGroupId, hv, eq_comm]
  · simp [checkedGroupId, hv]

theorem checkedUrl_eq_some {platform : Platform} {value r : Option JsString} :
    checkedUrl platform value = some r ↔
      value.all (fun s => platform.isUrl (trim s)) = true ∧ r = value.map trim := by
  cases value with
  | none => simp [checkedUrl, eq_comm]
  | some s =>
      by_cases hs : platform.isUrl (trim s) = true
      · simp [checkedUrl, hs, eq_comm]
      · simp [checkedUrl, hs]

section
variable {platform : Platform}

/-- **What `deliverFrameSchema` accepts**, and the frame it answers. -/
theorem DeliverFrame.validate_eq_some {f g : DeliverFrame} :
    f.validate platform = some g ↔
      (f.deliverySource.all isNonEmptyString = true ∧ f.contentType.all isNonEmptyString = true ∧
        f.groupId.all isGroupId = true ∧ f.conversationId.all isNonEmptyString = true ∧
        f.replyTo.all (fun s => platform.isUrl (trim s)) = true ∧
        (f.toFrameBase.isValid platform && isAgentDid f.fromAgentDid &&
          isAgentDid f.toAgentDid) = true) ∧
      g = { f with
        deliverySource := f.deliverySource.map trim
        contentType := f.contentType.map trim
        conversationId := f.conversationId.map trim
        replyTo := f.replyTo.map trim } := by
  simp only [DeliverFrame.validate, Option.bind_eq_bind, Option.bind_eq_some_iff, nonEmpty_eq_some,
    checkedGroupId_eq_some, checkedUrl_eq_some, Option.ite_none_right_eq_some, Option.some.injEq]
  constructor
  · rintro ⟨_, ⟨h₁, rfl⟩, _, ⟨h₂, rfl⟩, _, ⟨h₃, rfl⟩, _, ⟨h₄, rfl⟩, _, ⟨h₅, rfl⟩, hbase, rfl⟩
    exact ⟨⟨h₁, h₂, h₃, h₄, h₅, hbase⟩, rfl⟩
  · rintro ⟨⟨h₁, h₂, h₃, h₄, h₅, hbase⟩, rfl⟩
    exact ⟨_, ⟨h₁, rfl⟩, _, ⟨h₂, rfl⟩, _, ⟨h₃, rfl⟩, _, ⟨h₄, rfl⟩, _, ⟨h₅, rfl⟩, hbase, rfl⟩

theorem AckFrame.validate_eq_some {f g : AckFrame} :
    f.validate platform = some g ↔
      (f.reason.all isNonEmptyString = true ∧
        (f.toFrameBase.isValid platform && isUlid f.ackId) = true) ∧
      g = { f with reason := f.reason.map trim } := by
  simp only [AckFrame.validate, Option.bind_eq_bind, Option.bind_eq_some_iff, nonEmpty_eq_some,
    Option.ite_none_right_eq_some, Option.some.injEq]
  constructor
  · rintro ⟨_, ⟨hreason, rfl⟩, hbase, rfl⟩
    exact ⟨⟨hreason, hbase⟩, rfl⟩
  · rintro ⟨⟨hreason, hbase⟩, rfl⟩
    exact ⟨_, ⟨hreason, rfl⟩, hbase, rfl⟩

theorem ReceiptFrame.validate_eq_some {f g : ReceiptFrame} :
    f.validate platform = some g ↔
      (f.reason.all isNonEmptyString = true ∧
        (f.toFrameBase.isValid platform && isUlid f.originalFrameId && isAgentDid f.toAgentDid) =
          true) ∧
      g = { f with reason := f.reason.map trim } := by
  simp only [ReceiptFrame.validate, Option.bind_eq_bind, Option.bind_eq_some_iff, nonEmpty_eq_some,
    Option.ite_none_right_eq_some, Option.some.injEq]
  constructor
  · rintro ⟨_, ⟨hreason, rfl⟩, hbase, rfl⟩
    exact ⟨⟨hreason, hbase⟩, rfl⟩
  · rintro ⟨⟨hreason, hbase⟩, rfl⟩
    exact ⟨_, ⟨hreason, rfl⟩, hbase, rfl⟩

/-- What `enqueueFrameSchema` accepts, and the frame it answers. -/
theorem EnqueueFrame.validate_eq_some {f g : EnqueueFrame} :
    f.validate platform = some g ↔
      (f.groupId.all isGroupId = true ∧ f.conversationId.all isNonEmptyString = true ∧
        f.replyTo.all (fun s => platform.isUrl (trim s)) = true ∧
        (f.toFrameBase.isValid platform && isAgentDid f.toAgentDid) = true) ∧
      g = { f with
        conversationId := f.conversationId.map trim
        replyTo := f.replyTo.map trim } := by
  simp only [EnqueueFrame.validate, Option.bind_eq_bind, Option.bind_eq_some_iff, nonEmpty_eq_some,
    checkedGroupId_eq_some, checkedUrl_eq_some, Option.ite_none_right_eq_some, Option.some.injEq]
  constructor
  · rintro ⟨_, ⟨hgroup, rfl⟩, _, ⟨hconversation, rfl⟩, _, ⟨hreply, rfl⟩, hbase, rfl⟩
    exact ⟨⟨hgroup, hconversation, hreply, hbase⟩, rfl⟩
  · rintro ⟨⟨hgroup, hconversation, hreply, hbase⟩, rfl⟩
    exact ⟨_, ⟨hgroup, rfl⟩, _, ⟨hconversation, rfl⟩, _, ⟨hreply, rfl⟩, hbase, rfl⟩

end

/-! ## Timestamps -/

theorem isDigit_lt {u : UInt16} (h : isDigit u = true) : u.toNat < 0x80 := by
  simp only [isDigit, Bool.and_eq_true, decide_eq_true_eq] at h
  omega

/-- What matches a pattern of ASCII units is ASCII, as far as the pattern goes. -/
theorem matches_lt {pattern : JsString} (hpattern : ∀ p ∈ pattern, p.toNat < 0x80) :
    ∀ {s : JsString},
      (List.zipWith (fun p u => if p == 0x64 then isDigit u else p == u) pattern s).all id = true →
      ∀ u ∈ s.take pattern.length, u.toNat < 0x80 := by
  induction pattern with
  | nil =>
      intro s _ u hu
      simp at hu
  | cons p pattern ih =>
      intro s hs u hu
      cases s with
      | nil => simp at hu
      | cons x s =>
          simp only [List.zipWith_cons_cons, List.all_cons, Bool.and_eq_true, id_eq] at hs
          simp only [List.length_cons, List.take_succ_cons, List.mem_cons] at hu
          rcases hu with rfl | hu
          · by_cases hp : (p == 0x64) = true
            · rw [if_pos hp] at hs
              exact isDigit_lt hs.1
            · rw [if_neg hp, beq_iff_eq] at hs
              rw [← hs.1]
              exact hpattern p List.mem_cons_self
          · exact ih (fun q hq => hpattern q (List.mem_cons_of_mem p hq)) hs.2 u hu

/-- A zone is ASCII. -/
theorem zone_lt {zone : JsString}
    (h : (zone = js "Z" ||
      (zone.length = 6 && (zone.head? = some 0x2B || zone.head? = some 0x2D) &&
        (List.zipWith (fun p u => if p == 0x64 then isDigit u else p == u) (js "dd:dd")
          (zone.drop 1)).all id)) = true) : ∀ u ∈ zone, u.toNat < 0x80 := by
  simp only [Bool.or_eq_true, Bool.and_eq_true, decide_eq_true_eq] at h
  intro u hu
  rcases h with rfl | ⟨⟨hlength, hhead⟩, hrest⟩
  · have hliteral : ∀ v ∈ js "Z", v.toNat < 0x80 :=
      forall_mem_of_all (by decide)
    exact hliteral u hu
  · cases zone with
    | nil => cases hu
    | cons x rest =>
        rcases List.mem_cons.mp hu with rfl | hu
        · rcases hhead with hhead | hhead
          · rw [Option.some.inj hhead]
            decide
          · rw [Option.some.inj hhead]
            decide
        · have hpattern : ∀ p ∈ js "dd:dd", p.toNat < 0x80 :=
            forall_mem_of_all (by decide)
          have htake : rest.take (js "dd:dd").length = rest := by
            refine List.take_of_length_le ?_
            have hfive : (js "dd:dd").length = 5 := by decide
            simp only [List.length_cons] at hlength
            omega
          have hmatch := matches_lt hpattern hrest
          simp only [List.drop_one, List.tail_cons] at hmatch
          rw [htake] at hmatch
          exact hmatch u hu

/-- A timestamp is ASCII. -/
theorem isIsoTimestamp_lt {value : JsString} (h : isIsoTimestamp value = true) :
    ∀ u ∈ value, u.toNat < 0x80 := by
  simp only [isIsoTimestamp, Bool.and_eq_true] at h
  obtain ⟨⟨⟨_, hfixed⟩, _⟩, hzone⟩ := h
  have hpattern : ∀ p ∈ js "dddd-dd-ddTdd:dd:dd", p.toNat < 0x80 :=
    forall_mem_of_all (by decide)
  have hzone' := zone_lt hzone
  intro u hu
  rw [← List.take_append_drop (js "dddd-dd-ddTdd:dd:dd").length value, List.mem_append] at hu
  rcases hu with hu | hu
  · exact matches_lt hpattern hfixed u hu
  · -- the rest is the zone, or a point, a fraction and the zone
    by_cases hpoint : (value.drop (js "dddd-dd-ddTdd:dd:dd").length).head? = some 0x2E
    · rw [if_pos hpoint] at hzone'
      cases hrest : value.drop (js "dddd-dd-ddTdd:dd:dd").length with
      | nil => simp [hrest] at hu
      | cons x rest =>
          rw [hrest] at hu hpoint hzone'
          rcases List.mem_cons.mp hu with rfl | hu
          · rw [Option.some.inj hpoint]
            decide
          · rw [← List.take_append_drop (rest.takeWhile isDigit).length rest, List.mem_append] at hu
            rcases hu with hu | hu
            · rw [← List.prefix_iff_eq_take.mp (List.takeWhile_prefix isDigit)] at hu
              exact isDigit_lt (List.mem_takeWhile_imp hu)
            · refine hzone' u ?_
              simpa [Nat.add_comm 1] using hu
    · rw [if_neg hpoint] at hzone'
      exact hzone' u hu

/-- A timestamp has a digit. -/
theorem isIsoTimestamp_digit {value : JsString} (h : isIsoTimestamp value = true) :
    ∃ u ∈ value, isDigit u = true := by
  simp only [isIsoTimestamp, Bool.and_eq_true, decide_eq_true_eq] at h
  obtain ⟨⟨⟨hlength, hfixed⟩, _⟩, _⟩ := h
  have hpattern : js "dddd-dd-ddTdd:dd:dd" = 0x64 :: js "ddd-dd-ddTdd:dd:dd" := by decide
  rw [hpattern] at hlength hfixed
  cases value with
  | nil => simp at hlength
  | cons u value =>
      simp only [List.zipWith_cons_cons, List.all_cons, Bool.and_eq_true, id_eq] at hfixed
      exact ⟨u, List.mem_cons_self, hfixed.1⟩

/-! ## JSON -/

def CONNECTOR_FRAME_VERSION : ℚ := 1

def FrameBase.fields (base : FrameBase) (type : String) : List (String × Option Value) :=
  [("v", some (.num CONNECTOR_FRAME_VERSION)), ("id", some (.str base.id)),
    ("ts", some (.str base.ts)), ("type", some (.str (js type)))]

def ReceiptStatus.text : ReceiptStatus → JsString
  | .deliveredToWebhook => js "delivered_to_webhook"
  | .deadLettered => js "dead_lettered"

def AckFrame.fields (f : AckFrame) (type : String) : List (String × Option Value) :=
  f.toFrameBase.fields type ++
    [("ackId", some (.str f.ackId)), ("accepted", some (.bool f.accepted)),
      ("reason", f.reason.map .str)]

/-- The fields of a frame, under the names of the source. -/
def Frame.fields : Frame → List (String × Option Value)
  | .heartbeat base => base.fields "heartbeat"
  | .heartbeatAck base ackId => base.fields "heartbeat_ack" ++ [("ackId", some (.str ackId))]
  | .deliver f => f.toFrameBase.fields "deliver" ++
      [("fromAgentDid", some (.str f.fromAgentDid)), ("toAgentDid", some (.str f.toAgentDid)),
        ("payload", f.payload), ("deliverySource", f.deliverySource.map .str),
        ("contentType", f.contentType.map .str), ("groupId", f.groupId.map .str),
        ("conversationId", f.conversationId.map .str), ("replyTo", f.replyTo.map .str)]
  | .deliverAck f => f.fields "deliver_ack"
  | .enqueue f => f.toFrameBase.fields "enqueue" ++
      [("toAgentDid", some (.str f.toAgentDid)), ("groupId", f.groupId.map .str),
        ("payload", f.payload), ("conversationId", f.conversationId.map .str),
        ("replyTo", f.replyTo.map .str)]
  | .enqueueAck f => f.fields "enqueue_ack"
  | .receipt f => f.toFrameBase.fields "receipt" ++
      [("originalFrameId", some (.str f.originalFrameId)), ("toAgentDid", some (.str f.toAgentDid)),
        ("status", some (.str f.status.text)), ("reason", f.reason.map .str)]

/-- The object that `JSON.stringify` writes. -/
def Frame.toJson (f : Frame) : Value := object f.fields

/-- The object has no key outside the list, as `strict()` demands. -/
def strict (v : Value) (keys : List String) : Bool :=
  strictKeys v (["v", "id", "ts", "type"] ++ keys)

def parseStatus (text : JsString) : Option ReceiptStatus :=
  if text = js "delivered_to_webhook" then some .deliveredToWebhook
  else if text = js "dead_lettered" then some .deadLettered
  else none

def ackOfJson (v : Value) (base : FrameBase) : Option AckFrame := do
  if strict v ["ackId", "accepted", "reason"] then
    let ackId ← getStr v "ackId"
    let accepted ← getBool v "accepted"
    let reason ← getOptStr v "reason"
    some { toFrameBase := base, ackId, accepted, reason }
  else none

/-- The fields of a frame, before they are checked. -/
def Frame.ofJson (v : Value) : Option Frame := do
  if v.get? (js "v") = some (.num CONNECTOR_FRAME_VERSION) then
    let id ← getStr v "id"
    let ts ← getStr v "ts"
    let type ← getStr v "type"
    let base : FrameBase := ⟨id, ts⟩
    if type = js "heartbeat" then
      if strict v [] then some (.heartbeat base) else none
    else if type = js "heartbeat_ack" then
      if strict v ["ackId"] then (getStr v "ackId").map (.heartbeatAck base) else none
    else if type = js "deliver" then
      if strict v ["fromAgentDid", "toAgentDid", "payload", "deliverySource", "contentType",
          "groupId", "conversationId", "replyTo"] then
        let fromAgentDid ← getStr v "fromAgentDid"
        let toAgentDid ← getStr v "toAgentDid"
        let deliverySource ← getOptStr v "deliverySource"
        let contentType ← getOptStr v "contentType"
        let groupId ← getOptStr v "groupId"
        let conversationId ← getOptStr v "conversationId"
        let replyTo ← getOptStr v "replyTo"
        some (.deliver { toFrameBase := base, fromAgentDid, toAgentDid,
                         payload := v.get? (js "payload"), deliverySource, contentType, groupId,
                         conversationId, replyTo })
      else none
    else if type = js "deliver_ack" then (ackOfJson v base).map .deliverAck
    else if type = js "enqueue" then
      if strict v ["toAgentDid", "groupId", "payload", "conversationId", "replyTo"] then
        let toAgentDid ← getStr v "toAgentDid"
        let groupId ← getOptStr v "groupId"
        let conversationId ← getOptStr v "conversationId"
        let replyTo ← getOptStr v "replyTo"
        some (.enqueue { toFrameBase := base, toAgentDid, groupId,
                         payload := v.get? (js "payload"), conversationId, replyTo })
      else none
    else if type = js "enqueue_ack" then (ackOfJson v base).map .enqueueAck
    else if type = js "receipt" then
      if strict v ["originalFrameId", "toAgentDid", "status", "reason"] then
        let originalFrameId ← getStr v "originalFrameId"
        let toAgentDid ← getStr v "toAgentDid"
        let status ← (getStr v "status").bind parseStatus
        let reason ← getOptStr v "reason"
        some (.receipt { toFrameBase := base, originalFrameId, toAgentDid, status, reason })
      else none
    else none
  else none

/-- `parseFrame` on the JSON of a message. -/
def parseFrame (platform : Platform) (v : Value) : Option Frame :=
  (Frame.ofJson v).bind (Frame.validate platform)

/-- `serializeFrame`: the JSON of the validated frame; `none` where it throws. -/
def serializeFrame (platform : Platform) (f : Frame) : Option (Value) :=
  (f.validate platform).map Frame.toJson

/-- What is known of an enqueue frame that was parsed. -/
theorem enqueue_of_parseFrame {platform : Platform} {v : Value} {frame : EnqueueFrame}
    (h : parseFrame platform v = some (.enqueue frame)) :
    frame.toFrameBase.isValid platform = true ∧ isAgentDid frame.toAgentDid = true := by
  obtain ⟨f, _, hvalid⟩ := Option.bind_eq_some_iff.mp h
  cases f with
  | enqueue f =>
      obtain ⟨g, hg, heq⟩ := Option.map_eq_some_iff.mp hvalid
      cases heq
      obtain ⟨⟨_, _, _, hbase⟩, rfl⟩ := EnqueueFrame.validate_eq_some.mp hg
      exact Bool.and_eq_true_iff.mp hbase
  | heartbeat base => simp [Frame.validate] at hvalid
  | heartbeatAck base ackId => simp [Frame.validate] at hvalid
  | deliver f => simp [Frame.validate] at hvalid
  | deliverAck f => simp [Frame.validate] at hvalid
  | enqueueAck f => simp [Frame.validate] at hvalid
  | receipt f => simp [Frame.validate] at hvalid

/-! ## The round trip -/

theorem parseStatus_text (status : ReceiptStatus) : parseStatus status.text = some status := by
  cases status <;> simp [parseStatus, ReceiptStatus.text]

theorem ackOfJson_fields (f : AckFrame) (type : String) :
    ackOfJson (object (f.fields type)) f.toFrameBase = some f := by
  have hstrict : strict (object (f.fields type)) ["ackId", "accepted", "reason"] = true :=
    strictKeys_object (by simp [AckFrame.fields, FrameBase.fields])
  have hreason : getOptStr (object (f.fields type)) "reason" = some f.reason :=
    getOptStr_object (by simp [AckFrame.fields, FrameBase.fields])
  simp only [ackOfJson, hstrict, hreason]
  simp [getStr, getBool, AckFrame.fields, FrameBase.fields, Json.str?]

/-- **A frame is read back** from the JSON that is written for it. -/
theorem Frame.ofJson_toJson (f : Frame) : Frame.ofJson f.toJson = some f := by
  cases f with
  | heartbeat base =>
      have hstrict : strict (Frame.heartbeat base).toJson [] = true :=
        strictKeys_object (by simp [Frame.fields, FrameBase.fields])
      simp only [Frame.ofJson, hstrict]
      simp [Frame.toJson, getStr, Frame.fields, FrameBase.fields, Json.str?]
  | heartbeatAck base ackId =>
      have hstrict : strict (Frame.heartbeatAck base ackId).toJson ["ackId"] = true :=
        strictKeys_object (by simp [Frame.fields, FrameBase.fields])
      simp only [Frame.ofJson, hstrict]
      simp [Frame.toJson, getStr, Frame.fields, FrameBase.fields, Json.str?]
  | deliver f =>
      have hstrict : strict (Frame.deliver f).toJson ["fromAgentDid", "toAgentDid", "payload",
          "deliverySource", "contentType", "groupId", "conversationId", "replyTo"] = true :=
        strictKeys_object (by simp [Frame.fields, FrameBase.fields])
      have hsource : getOptStr (Frame.deliver f).toJson "deliverySource" = some f.deliverySource :=
        getOptStr_object (by simp [Frame.fields, FrameBase.fields])
      have hcontent : getOptStr (Frame.deliver f).toJson "contentType" = some f.contentType :=
        getOptStr_object (by simp [Frame.fields, FrameBase.fields])
      have hgroup : getOptStr (Frame.deliver f).toJson "groupId" = some f.groupId :=
        getOptStr_object (by simp [Frame.fields, FrameBase.fields])
      have hconversation : getOptStr (Frame.deliver f).toJson "conversationId" =
          some f.conversationId :=
        getOptStr_object (by simp [Frame.fields, FrameBase.fields])
      have hreply : getOptStr (Frame.deliver f).toJson "replyTo" = some f.replyTo :=
        getOptStr_object (by simp [Frame.fields, FrameBase.fields])
      simp only [Frame.ofJson, hstrict, hsource, hcontent, hgroup, hconversation, hreply]
      simp [Frame.toJson, getStr, Frame.fields, FrameBase.fields, Json.str?]
  | deliverAck f =>
      have hack := ackOfJson_fields f "deliver_ack"
      simp only [Frame.ofJson, Frame.toJson, Frame.fields]
      simp only [AckFrame.fields] at hack ⊢
      simp [getStr, FrameBase.fields, Json.str?] at hack ⊢
      simp [hack]
  | enqueue f =>
      have hstrict : strict (Frame.enqueue f).toJson
          ["toAgentDid", "groupId", "payload", "conversationId", "replyTo"] = true :=
        strictKeys_object (by simp [Frame.fields, FrameBase.fields])
      have hgroup : getOptStr (Frame.enqueue f).toJson "groupId" = some f.groupId :=
        getOptStr_object (by simp [Frame.fields, FrameBase.fields])
      have hconversation : getOptStr (Frame.enqueue f).toJson "conversationId" =
          some f.conversationId :=
        getOptStr_object (by simp [Frame.fields, FrameBase.fields])
      have hreply : getOptStr (Frame.enqueue f).toJson "replyTo" = some f.replyTo :=
        getOptStr_object (by simp [Frame.fields, FrameBase.fields])
      simp only [Frame.ofJson, hstrict, hgroup, hconversation, hreply]
      simp [Frame.toJson, getStr, Frame.fields, FrameBase.fields, Json.str?]
  | enqueueAck f =>
      have hack := ackOfJson_fields f "enqueue_ack"
      simp only [Frame.ofJson, Frame.toJson, Frame.fields]
      simp only [AckFrame.fields] at hack ⊢
      simp [getStr, FrameBase.fields, Json.str?] at hack ⊢
      simp [hack]
  | receipt f =>
      have hstrict : strict (Frame.receipt f).toJson
          ["originalFrameId", "toAgentDid", "status", "reason"] = true :=
        strictKeys_object (by simp [Frame.fields, FrameBase.fields])
      have hreason : getOptStr (Frame.receipt f).toJson "reason" = some f.reason :=
        getOptStr_object (by simp [Frame.fields, FrameBase.fields])
      simp only [Frame.ofJson, hstrict, hreason]
      simp [Frame.toJson, getStr, Frame.fields, FrameBase.fields, Json.str?, parseStatus_text]
end Clawdentity.Connector
