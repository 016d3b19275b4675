import Clawdentity.Proxy.Relay.Origins

/-!
# What the frames of a delivery carry

A deliver frame is built from the input of a call or, for a delivery that was
queued, from the record that the call stored. The record is copied field by field
from the input and has no group id, so a frame from the queue never carries one. The
frame schema trims three of the texts; inputs that come through the parsers of the
proxy are trimmed already.

## Main definitions

* `Carries` — the fields of a frame are those of an input.
* `sent_frame_carries_iff` — when a frame carries the input it was sent for.
-/

namespace Clawdentity.Relay

open Js Lib Connector Lib.Interleave Lib.Run

/-! ## Frames -/

/-- The frame's fields equal those of the input. -/
def Carries (frame : Value) (input : RelayDeliveryInput) : Prop :=
  frame.get? (js "fromAgentDid") = some (.str input.senderAgentDid) ∧
  frame.get? (js "toAgentDid") = some (.str input.recipientAgentDid) ∧
  frame.get? (js "payload") = input.payload ∧
  frame.get? (js "deliverySource") = input.deliverySource.map .str ∧
  frame.get? (js "groupId") = input.groupId.map .str ∧
  frame.get? (js "conversationId") = input.conversationId.map .str ∧
  frame.get? (js "replyTo") = input.replyTo.map .str

instance (frame : Value) (input : RelayDeliveryInput) : Decidable (Carries frame input) :=
  inferInstanceAs (Decidable (_ ∧ _))

/-- No text that the frame schema trims has white space around it. -/
def RelayDeliveryInput.Trimmed (input : RelayDeliveryInput) : Prop :=
  input.deliverySource.map trim = input.deliverySource ∧
  input.conversationId.map trim = input.conversationId ∧
  input.replyTo.map trim = input.replyTo

theorem map_str_inj {a b : Option JsString} :
    (a.map Json.str : Option Value) = b.map .str ↔ a = b := by
  refine (Option.map_injective ?_).eq_iff
  intro x y hxy
  exact Json.str.inj hxy

/-- The JSON of a deliver frame has the fields of the frame. -/
theorem carries_toJson {f : DeliverFrame} {input : RelayDeliveryInput} :
    Carries (Frame.deliver f).toJson input ↔
      f.fromAgentDid = input.senderAgentDid ∧ f.toAgentDid = input.recipientAgentDid ∧
      f.payload = input.payload ∧ f.deliverySource = input.deliverySource ∧
      f.groupId = input.groupId ∧ f.conversationId = input.conversationId ∧
      f.replyTo = input.replyTo := by
  simp [Carries, Frame.toJson, Frame.fields, FrameBase.fields, map_str_inj]

/-- What is sent for an input carries another one where they agree, up to the trimming. -/
theorem carries_serialized {rt : Runtime} {sent input : RelayDeliveryInput} {env : Env}
    {frame : Value}
    (h : serializeFrame rt.platform (.deliver (toDeliverFrame rt sent env)) = some frame) :
    Carries frame input ↔
      sent.senderAgentDid = input.senderAgentDid ∧
      sent.recipientAgentDid = input.recipientAgentDid ∧ sent.payload = input.payload ∧
      sent.deliverySource.map trim = input.deliverySource ∧ sent.groupId = input.groupId ∧
      sent.conversationId.map trim = input.conversationId ∧
      sent.replyTo.map trim = input.replyTo := by
  obtain ⟨f, hf, rfl⟩ := Option.map_eq_some_iff.mp h
  obtain ⟨g, hg, rfl⟩ := Option.map_eq_some_iff.mp hf
  obtain ⟨_, rfl⟩ := DeliverFrame.validate_eq_some.mp hg
  exact carries_toJson

/-- **When a frame carries the input it was sent for.** In every run, every deliver
frame was sent for the delivery of some input, and it carries an input that it was
sent for if and only if the texts of the input are trimmed and the frame was sent
directly or the input has no group id. -/
theorem sent_frame_carries_iff (rt : Runtime) (policy : RelayDeliveryPolicy)
    (moves : List (Move (Request × Env) Choice)) (p : Pool Session Call)
    (hrun : exec (program rt policy).step idle moves = some p) :
    ∀ f ∈ p.shared.history.sent, (∃ input, SentFor p.shared.history input f) ∧
      ∀ input, SentFor p.shared.history input f →
        (Carries f.frame input ↔
          input.Trimmed ∧ (f.source = .direct input ∨ input.groupId = none)) := by
  have hh : HistoryOk rt (fun _ => True) (fun _ => True) p.shared.history :=
    run_history_ok (fun e _ => moveFrom_true e) hrun
  intro f hf
  obtain ⟨env, _, hframe⟩ := hh.sent f hf
  refine ⟨hh.exists_sentFor hf, ?_⟩
  intro input hfor
  rw [carries_serialized hframe]
  obtain ⟨_, ⟨hsource, hinput⟩ | ⟨⟨core, hsource⟩, hinput⟩⟩ := hh.sentFor hf hfor
  · rw [hinput]
    simp [hsource, RelayDeliveryInput.Trimmed]
  · have hgroup : (none : Option JsString) = input.groupId ↔ input.groupId = none := eq_comm
    rw [hinput]
    simp only [hsource, RelayDeliveryInput.Trimmed, hgroup, reduceCtorEq, false_or, true_and]
    constructor
    · intro ⟨hdelivery, hnone, hconversation, hreply⟩
      exact ⟨⟨hdelivery, hconversation, hreply⟩, hnone⟩
    · intro ⟨⟨hdelivery, hconversation, hreply⟩, hnone⟩
      exact ⟨hdelivery, hnone, hconversation, hreply⟩

/-! ### A message to a group -/

/-- A message with a group id is refused by the connector, queued, and sent again
when the alarm comes. -/
def exampleGroupRun : List (Move (Request × Env) Choice) :=
  [.start (.deliverToConnector
      (exampleInput "01HF7YAT00W6W7CM7N3W5FDXR0" (some (js "grp_01HF7YAT00W6W7CM7N3W5FDXG0"))),
      exampleEnv 1700000000000 "01HF7YAT00W6W7CM7N3W5FDXD0" "01HF7YAT00W6W7CM7N3W5FDXF0"),
    .resume 0 (.settle (.acked false)),
    .resume 0 (.proceed
      (exampleEnv 1700000000000 "01HF7YAT00W6W7CM7N3W5FDXD2" "01HF7YAT00W6W7CM7N3W5FDXF2")),
    .start (.alarm,
      exampleEnv 1700000003000 "01HF7YAT00W6W7CM7N3W5FDXD3" "01HF7YAT00W6W7CM7N3W5FDXF3")]

theorem exampleGroupRun_drops_group :
    ((exec (program exampleRuntime defaultPolicy).step idle exampleGroupRun).map fun p =>
      decide (∀ f ∈ p.shared.history.sent, ∀ e ∈ p.shared.history.queued,
        f.source = .queue e.2 → Carries f.frame e.1)) = some false := by
  decide +kernel

/-- **A message from the queue can lose its group id.** -/
theorem not_sent_frame_carries :
    ¬ ∀ (rt : Runtime) (policy : RelayDeliveryPolicy)
      (moves : List (Move (Request × Env) Choice)) (p : Pool Session Call),
      exec (program rt policy).step idle moves = some p →
      ∀ f ∈ p.shared.history.sent, ∀ input, SentFor p.shared.history input f →
        Carries f.frame input := by
  intro h
  obtain ⟨p, hrun, hdrop⟩ := Option.map_eq_some_iff.mp exampleGroupRun_drops_group
  refine of_decide_eq_false hdrop ?_
  intro f hf e he hsource
  exact h exampleRuntime defaultPolicy exampleGroupRun p hrun f hf e.1 (.inr ⟨e.2, hsource, he⟩)

/-- The frames of the example are described exactly. -/
theorem exampleGroupRun_carries_iff :
    ∃ p, exec (program exampleRuntime defaultPolicy).step idle exampleGroupRun = some p ∧
      ∀ f ∈ p.shared.history.sent, ∀ input, SentFor p.shared.history input f →
        (Carries f.frame input ↔
          input.Trimmed ∧ (f.source = .direct input ∨ input.groupId = none)) := by
  obtain ⟨p, hrun, _⟩ := Option.map_eq_some_iff.mp exampleGroupRun_drops_group
  exact ⟨p, hrun, fun f hf =>
    (sent_frame_carries_iff exampleRuntime defaultPolicy exampleGroupRun p hrun f hf).2⟩

end Clawdentity.Relay
