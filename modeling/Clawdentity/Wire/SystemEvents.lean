import Clawdentity.Proxy.QueueConsumers
import Clawdentity.Rust.SystemDelivery
import Clawdentity.Wire.ReceiptCorrelation

/-!
# System events are not forged

Only the queue consumers of the proxy set the source of a delivery to the name of their
queue: an enqueue frame gets a fixed source, and a message to the hook route none. The source
goes through the session, its queue, the frame and the tables of the connector, where it is
at most trimmed. So the connector changes its address book for a pairing event of the proxy
only, and then the record of the responder.

## Main definitions

* `ProxyInput` — the inputs that the code of the proxy makes for a relay session.
* `Handled` — the connector has a frame in hand that the proxy sent for an input.
* `system_events_not_forged`.
-/

namespace Clawdentity.Wire

open Js Lib Connector Relay Lib.Interleave Lib.Run
open Rust (Serde RString ofJs)
open Rust.Inbound (InHand)
open Rust.SystemDelivery (isTrustedPairAcceptedDelivery UrlCrate deliveries MovesFor ChangedBy)
open PairAccepted (PairAcceptedEvent handlePairAcceptedQueueEvent)
open GroupMemberJoined (handleGroupMemberJoinedQueueEvent)

/-! ## The inputs of the proxy -/

/-- The session receives the input for an event of an accepted pairing. -/
inductive PairAcceptedInput (platform : Platform) (event : PairAcceptedEvent) :
    RelayDeliveryInput → Prop
  | intro {queue : PairAccepted.Platform} {payload : Value} {input : RelayDeliveryInput}
      (hevent : PairAccepted.parsePairAcceptedQueueEvent queue payload = .ok event)
      (hinput : parseDeliveryInput platform (handlePairAcceptedQueueEvent event).toJson =
        some input) :
      PairAcceptedInput platform event input

/-- The inputs that a relay session can receive: those of the messages of agents, and those
of the two queue consumers. -/
inductive ProxyInput (platform : Platform) : RelayDeliveryInput → Prop
  | agent {input : RelayDeliveryInput} (h : AcceptedInput platform input) :
      ProxyInput platform input
  | pairAccepted {event : PairAcceptedEvent} {input : RelayDeliveryInput}
      (h : PairAcceptedInput platform event input) : ProxyInput platform input
  | groupMemberJoined {queue : PairAccepted.Platform} {payload : Value}
      {data : GroupMemberJoined.GroupMemberJoinedEventData} {input : RelayDeliveryInput}
      (hdata : GroupMemberJoined.parseGroupMemberJoinedQueueEvent queue payload = .ok data)
      (hinput : parseDeliveryInput platform (handleGroupMemberJoinedQueueEvent data).toJson =
        some input) :
      ProxyInput platform input

/-- Every input that a run delivers comes from the code of the proxy. -/
def ProxyMoves (platform : Platform) (moves : List (Move (Request × Env) Choice)) : Prop :=
  ∀ input env, .start (.deliverToConnector input, env) ∈ moves → ProxyInput platform input

/-- In some run of a session the proxy sent a frame for the input, which the connector has
read; it has the frame in hand, or one that was rebuilt for it. -/
inductive Handled (rt : Runtime) (policy : RelayDeliveryPolicy) (serde : Serde)
    (crates : Rust.Inbound.Crates) (input : RelayDeliveryInput) : Rust.DeliverFrame → Prop
  | intro {moves : List (Move (Request × Env) Choice)} {p : Pool Session Call} {f : SentFrame}
      {deliver frame : Rust.DeliverFrame} (hmoves : ProxyMoves rt.platform moves)
      (hrun : exec (program rt policy).step idle moves = some p)
      (hsent : f ∈ p.shared.history.sent) (hfor : SentFor p.shared.history input f)
      (hreceive : receive serde crates.ulidFromString f.frame = .ok (.deliver deliver))
      (hhand : InHand crates deliver frame) :
      Handled rt policy serde crates input frame

/-! ## The source on the way -/

section
variable {rt : Runtime} {policy : RelayDeliveryPolicy} {serde : Serde}
  {crates : Rust.Inbound.Crates} {input : RelayDeliveryInput} {frame : Rust.DeliverFrame}

/-- **What a frame in hand has of its input.** -/
theorem Handled.spec (h : Handled rt policy serde crates input frame) :
    ProxyInput rt.platform input ∧
      ofJs input.senderAgentDid = some (Rust.trim frame.fromAgentDid) ∧
      ∃ source, Rust.ofJsOpt (input.deliverySource.map trim) = some source ∧
        (frame.deliverySource = source ∨
          frame.deliverySource = Rust.Inbound.parseOptionalNonEmpty source) := by
  obtain @⟨moves, p, f, deliver, _, hmoves, hrun, hsent, hfor, hreceive, hhand⟩ := h
  have hh : HistoryOk rt (fun request => ∀ input, request = .deliverToConnector input →
      ProxyInput rt.platform input) (fun _ => True) p.shared.history := by
    refine run_history_ok ?_ hrun
    intro e he
    match e, he with
    | .start (request, env), he =>
        refine ⟨?_, trivial⟩
        intro input hinput
        subst hinput
        exact hmoves input env he
    | .resume _ (.settle _), _ => trivial
    | .resume _ (.proceed _), _ => trivial
  obtain ⟨sendEnv, _, hframe⟩ := hh.sent f hsent
  obtain ⟨hasked, hsource⟩ := hh.sentFor hsent hfor
  have hfields : f.source.input.senderAgentDid = input.senderAgentDid ∧
      f.source.input.deliverySource = input.deliverySource := by
    rcases hsource with ⟨_, hsource⟩ | ⟨_, hsource⟩
    · rw [hsource]
      exact ⟨rfl, rfl⟩
    · rw [hsource]
      exact ⟨rfl, rfl⟩
  obtain ⟨g, hg, _, hfrom, _, hdelivery, _, hdid, _⟩ := serialized_deliver hframe
  rw [hg] at hreceive
  obtain ⟨_, hreadFrom, _, hreadSource⟩ := received_deliver hreceive
  rw [hfields.1] at hfrom
  rw [hfields.2] at hdelivery
  rw [hdelivery] at hreadSource
  rw [hfrom] at hreadFrom hdid
  obtain ⟨hsender, _, hkept⟩ := hhand.spec
  refine ⟨hasked input rfl, ?_, deliver.deliverySource, hreadSource, hkept⟩
  have hgraphic := Protocol.isAgentDid_graphic hdid
  rw [Rust.ofJs_graphic hgraphic, Option.some.injEq] at hreadFrom ⊢
  rw [hsender, ← hreadFrom, Rust.trim_graphic hgraphic]

theorem Handled.source_none (h : Handled rt policy serde crates input frame)
    (hsource : input.deliverySource = none) : frame.deliverySource = none := by
  obtain ⟨_, _, source, hread, hkept⟩ := h.spec
  rw [hsource] at hread
  cases hread
  rcases hkept with hkept | hkept
  · exact hkept
  · exact hkept

/-- A source that both languages leave as it is arrives unchanged. -/
theorem Handled.source_eq (h : Handled rt policy serde crates input frame) (text : String)
    (hsource : input.deliverySource = some (js text)) (hjs : trim (js text) = js text)
    (hrust : Rust.Inbound.parseOptionalNonEmpty (some (Rust.rs text)) = some (Rust.rs text)) :
    frame.deliverySource = some (Rust.rs text) := by
  obtain ⟨_, _, source, hread, hkept⟩ := h.spec
  rw [hsource, Option.map_some, hjs, Rust.ofJsOpt, Rust.ofJs_js] at hread
  cases hread
  rcases hkept with hkept | hkept
  · exact hkept
  · exact hkept.trans hrust

theorem parsed_source {platform : Platform} {raw : RelayDeliveryInput} (text : String)
    (h : parseDeliveryInput platform raw.toJson = some input)
    (hraw : raw.deliverySource = some (js text)) (hne : isNonEmptyString (js text) = true)
    (htrim : trim (js text) = js text) : input.deliverySource = some (js text) := by
  obtain ⟨rfl, _, _⟩ := parseDeliveryInput_toJson h
  simp [hraw, hne, htrim]

/-- **A message of an agent is never trusted.** -/
theorem Handled.not_trusted_of_agent (h : Handled rt policy serde crates input frame)
    (hinput : AcceptedInput rt.platform input) : isTrustedPairAcceptedDelivery frame = false := by
  rcases hinput.inputOk.source with hsource | hsource
  · simp [isTrustedPairAcceptedDelivery, h.source_none hsource]
  · have hframe := h.source_eq "agent.enqueue" hsource (by decide) (by decide)
    rw [isTrustedPairAcceptedDelivery, hframe]
    decide

/-- **A trusted delivery is one of the pairing queue**, from the responder of its event. -/
theorem Handled.event_of_trusted (h : Handled rt policy serde crates input frame)
    (htrusted : isTrustedPairAcceptedDelivery frame = true) :
    ∃ event, PairAcceptedInput rt.platform event input ∧
      ofJs event.responderAgentDid = some (Rust.trim frame.fromAgentDid) := by
  obtain ⟨hproxy, hsender, _⟩ := h.spec
  cases hproxy with
  | agent hinput =>
      rw [h.not_trusted_of_agent hinput] at htrusted
      cases htrusted
  | @pairAccepted event _ hinput =>
      refine ⟨event, hinput, ?_⟩
      obtain ⟨_, hparse⟩ := hinput
      obtain ⟨rfl, _, _⟩ := parseDeliveryInput_toJson hparse
      exact hsender
  | groupMemberJoined hdata hinput =>
      have hsource := parsed_source "proxy.events.queue.group_member_joined" hinput rfl
        (by decide) (by decide)
      have hframe := h.source_eq _ hsource (by decide) (by decide)
      rw [isTrustedPairAcceptedDelivery, hframe] at htrusted
      exact absurd htrusted (by decide)

end

/-- **System events cannot be forged.** No frame that the connector has in hand for a message
of an agent is trusted. And in every interleaving of deliveries over an address book, a move
for a frame of the proxy, whatever its payload is, changes the address book only if the frame
was sent for an event of an accepted pairing, and then only the record of the responder of
that event. -/
theorem system_events_not_forged (rt : Runtime) (policy : RelayDeliveryPolicy) (serde : Serde)
    (crates : Rust.Inbound.Crates) (pairCrates : Rust.PairAcceptedSystem.Crates) (url : UrlCrate) :
    (∀ input frame, AcceptedInput rt.platform input →
      Handled rt policy serde crates input frame → isTrustedPairAcceptedDelivery frame = false) ∧
    ∀ input frame payload, Handled rt policy serde crates input frame →
      ∀ peers moves p e p', exec (deliveries pairCrates url).step ⟨peers, []⟩ moves = some p →
        (deliveries pairCrates url).step p e = some p' → MovesFor p { frame with payload } e →
        p'.shared ≠ p.shared →
        ∃ event did, PairAcceptedInput rt.platform event input ∧
          ofJs event.responderAgentDid = some did ∧
          Rust.Peers.OnlyRecordOf did p.shared p'.shared := by
  refine ⟨fun input frame hinput h => h.not_trusted_of_agent hinput, ?_⟩
  intro input frame payload h peers moves p e p' hrun hstep hfor hne
  rcases Rust.SystemDelivery.delivery_changes hrun hstep hfor with hsame | ⟨htrusted, _, honly⟩
  · exact absurd hsame hne
  · obtain ⟨event, hevent, hdid⟩ := h.event_of_trusted htrusted
    exact ⟨event, _, hevent, hdid, honly⟩

/-! ### A message that fails at the webhook and is tried again -/

/-- The message is stored, moved to the dead letters, and replayed. -/
def exampleStatements : List Rust.Inbound.Statement :=
  [.upsertPending exampleDeliver exampleDeliver.payload 1700000001000,
    .movePendingToDeadLetter exampleDeliver.id (Rust.rs "max retry attempts exceeded")
      1700000020000 true,
    .replayDeadLetter exampleDeliver.id 1700000030000 true]

/-- The frame that the last attempt is made with. -/
def exampleRebuilt : Rust.DeliverFrame :=
  { exampleDeliver with
    ts := Rust.rs "2023-11-14T22:14:00.000Z", contentType := some (Rust.rs "application/json") }

theorem exampleStatements_rebuilt :
    (exec (Rust.Inbound.Store.step exampleCrates) .empty exampleStatements).map (fun store =>
      store.pending.map fun row => (row.origin, Rust.Inbound.buildDeliverFromPending exampleCrates
        row.value (Rust.rs "2023-11-14T22:14:00.000Z"))) =
      some [(exampleDeliver, some exampleRebuilt)] := by
  decide

theorem exampleRebuilt_handled :
    Handled exampleRuntime defaultPolicy Rust.exampleSerde exampleCrates
      (toRelayDeliveryInputFromEnqueueFrame exampleFrame exampleSender) exampleRebuilt := by
  obtain ⟨p, hrun, hsent⟩ := Option.map_eq_some_iff.mp exampleMoves_received
  obtain ⟨f, hf, hpair⟩ := List.map_eq_singleton_iff.mp hsent
  obtain ⟨hsource, hreceive⟩ := Prod.mk.inj hpair
  obtain ⟨store, hstore, hrows⟩ := Option.map_eq_some_iff.mp exampleStatements_rebuilt
  obtain ⟨row, hrow, hrowPair⟩ := List.map_eq_singleton_iff.mp hrows
  obtain ⟨horigin, hframe⟩ := Prod.mk.inj hrowPair
  have haccepted : AcceptedMoves exampleRuntime.platform exampleMoves :=
    exampleRun_accepted (by decide) (by decide)
  refine .intro (fun input env h => .agent (haccepted input env h)) hrun ?_ (.inl hsource)
    hreceive (.rebuilt hstore ?_ horigin hframe)
  · rw [hf]
    exact List.mem_singleton_self f
  · rw [hrow]
    exact List.mem_singleton_self row

/-- The message of the example is not trusted when it is tried again. -/
theorem exampleRebuilt_not_trusted :
    Handled exampleRuntime defaultPolicy Rust.exampleSerde exampleCrates
        (toRelayDeliveryInputFromEnqueueFrame exampleFrame exampleSender) exampleRebuilt ∧
      isTrustedPairAcceptedDelivery exampleRebuilt = false := by
  have haccepted : AcceptedInput exampleRuntime.platform
      (toRelayDeliveryInputFromEnqueueFrame exampleFrame exampleSender) := by
    have hmessage : parseFrame exampleRuntime.platform (Frame.enqueue exampleFrame).toJson =
        some (.enqueue exampleFrame) := by decide
    have hparse : parseDeliveryInput exampleRuntime.platform
        (toRelayDeliveryInputFromEnqueueFrame exampleFrame exampleSender).toJson =
        some (toRelayDeliveryInputFromEnqueueFrame exampleFrame exampleSender) := by
      decide
    exact .enqueue hmessage hparse
  exact ⟨exampleRebuilt_handled, (system_events_not_forged exampleRuntime defaultPolicy
    Rust.exampleSerde exampleCrates Rust.PairAcceptedSystem.exampleCrates
    ⟨fun text => some (Rust.rs "https", text), fun base path => some (base ++ path)⟩).1 _ _
    haccepted exampleRebuilt_handled⟩

end Clawdentity.Wire
