import Clawdentity.Registry.AgentRegistration

/-!
# The agent limit of an owner

The registrations of one owner, each with a challenge of its own, on a database without
transactions. A request counts the owner's agents in one statement and inserts its agent in a
later one. Two requests that both count before either inserts can register one agent too many.

## Main definitions

* `program` — the route of `AgentRegistration` over all challenges of the owner.
* `notOvertaken` — the condition on the insertion of an agent.
* `agent_limit_kept`.
-/

namespace Clawdentity.AgentQuota

open Js Lib Lib.Interleave
open AgentRegistration (AgentRow ChallengeRow Choice Compensation Crypto EventRow Human Phase
  Registration Request SessionRow checkedLimit)

/-! ## All challenges -/

structure Registry where
  challenges : List ChallengeRow
  agents : List AgentRow
  sessions : List SessionRow
  events : List EventRow
  deriving DecidableEq

/-- The tables as a request on one challenge sees them. -/
def Registry.database (registry : Registry) (challenge : ChallengeRow) :
    AgentRegistration.Database :=
  ⟨challenge, registry.agents, registry.sessions, registry.events⟩

/-- The tables after a statement of such a request. -/
def Registry.store (registry : Registry) (db : AgentRegistration.Database) : Registry where
  challenges := registry.challenges.map fun row =>
    if row.id = db.challenge.id then db.challenge else row
  agents := db.agents
  sessions := db.sessions
  events := db.events

def Registry.challenge? (registry : Registry) (id : JsString) : Option ChallengeRow :=
  registry.challenges.find? fun row => row.id = id

/-- `countAgentsByOwner`. -/
def Registry.countAgentsByOwner (registry : Registry) (human : Human) : ℕ :=
  registry.agents.countP fun agent => agent.ownerId = human.id

/-- A request, and the number of agents that it counted. -/
structure Call where
  call : AgentRegistration.Call
  counted : ℕ
  deriving DecidableEq

/-- The registration of a request that runs its statements. -/
def registration? : AgentRegistration.Call → Option Registration
  | .running reg _ => some reg
  | .compensating reg _ _ _ => some reg
  | .answered _ => none

def isCounting : AgentRegistration.Call → Bool
  | .running _ .countAgents => true
  | _ => false

section
variable (crypto : Crypto) (human : Human)

def start (registry : Registry) (request : Request) : Option (Registry × Call) :=
  match registry.challenge? request.body.challengeId with
  | none =>
      some (registry,
        ⟨.answered (.failed (if request.readFails then .database else .challengeNotFound)), 0⟩)
  | some challenge =>
      (AgentRegistration.start crypto human (registry.database challenge) request).map fun r =>
        (registry.store r.1, ⟨r.2, 0⟩)

def resume (registry : Registry) (c : Call) (choice : Choice) : Option (Registry × Call) :=
  (registration? c.call).bind fun reg =>
    (registry.challenge? reg.challengeId).bind fun challenge =>
      (AgentRegistration.resume human (registry.database challenge) c.call choice).map fun r =>
        (registry.store r.1,
          ⟨r.2, if isCounting c.call then registry.countAgentsByOwner human else c.counted⟩)

/-- The route for all challenges of the owner. -/
def program : Program Registry Call Request Choice := ⟨start crypto human, resume human⟩

end

abbrev State := Pool Registry Call
abbrev Event := Move Request Choice

/-- The condition on one step: where a request inserts its agent, the owner has no more agents
than the request has counted, or fewer than the limit. -/
def notOvertaken (human : Human) (limit : ℕ) (p : State) : Event → Bool
  | .resume i choice =>
      match p.calls[i]? with
      | some ⟨.running _ .insertAgent, counted⟩ =>
          choice.fails || p.shared.countAgentsByOwner human ≤ counted ||
            p.shared.countAgentsByOwner human < limit
      | _ => true
  | .start _ => true

/-! ## One statement -/

/-- The request is about to insert its agent. -/
def isInserting : AgentRegistration.Call → Bool
  | .running _ .insertAgent => true
  | _ => false

/-- The agents after a statement. -/
theorem runPhase_agents (human : Human) (db : AgentRegistration.Database) (reg : Registration)
    (fails : Bool) (phase : Phase) :
    (AgentRegistration.runPhase human db reg fails phase).1.agents = db.agents ∨
      (phase = .insertAgent ∧ fails = false ∧
        (AgentRegistration.runPhase human db reg fails phase).1.agents =
          reg.agent :: db.agents) := by
  cases phase with
  | insertAgent =>
      simp only [AgentRegistration.runPhase]
      split
      · exact .inl rfl
      · rename_i hinsert
        simp only [Bool.or_eq_true, not_or, Bool.not_eq_true] at hinsert
        exact .inr ⟨trivial, hinsert.1, rfl⟩
  | updateChallenge =>
      left
      simp only [AgentRegistration.runPhase]
      split
      · rfl
      · split <;> rfl
  | countAgents =>
      left
      simp only [AgentRegistration.runPhase]
      split
      · rfl
      · split <;> rfl
  | insertSession =>
      left
      simp only [AgentRegistration.runPhase]
      split <;> rfl
  | insertEvent =>
      left
      simp only [AgentRegistration.runPhase]
      split <;> rfl
  | done => exact .inl rfl

/-- With a limit, only the count leads to the insertion, and only below the limit. -/
theorem runPhase_inserting {human : Human} {limit : ℕ}
    (hlimit : human.agentLimit = some (limit : ℤ)) {db : AgentRegistration.Database}
    {reg : Registration} {fails : Bool} {phase : Phase}
    (h : isInserting (AgentRegistration.runPhase human db reg fails phase).2 = true) :
    phase = .countAgents ∧ (db.agents.countP fun agent => agent.ownerId = human.id) < limit := by
  have hchecked : checkedLimit human = some (limit : ℤ) := by
    simp [checkedLimit, hlimit]
  cases phase with
  | countAgents =>
      refine ⟨rfl, ?_⟩
      simp only [AgentRegistration.runPhase, hchecked, Option.any_some] at h
      split at h
      · cases h
      · split at h
        · cases h
        · rename_i hbelow
          simp only [decide_eq_true_eq] at hbelow
          omega
  | updateChallenge =>
      simp only [AgentRegistration.runPhase, hchecked] at h
      split at h
      · cases h
      · split at h <;> cases h
  | insertAgent =>
      simp only [AgentRegistration.runPhase] at h
      split at h <;> cases h
  | insertSession =>
      simp only [AgentRegistration.runPhase] at h
      split at h <;> cases h
  | insertEvent =>
      simp only [AgentRegistration.runPhase] at h
      split at h <;> cases h
  | done => cases h

/-- A statement of the `catch` block only removes agents, and leads to no insertion. -/
theorem runCompensation_agents (human : Human) (db : AgentRegistration.Database)
    (reg : Registration) (updated : Bool) (error : AgentRegistration.RegistrationError)
    (fails : Bool) (nowMs : ℕ) (phase : Compensation) :
    (AgentRegistration.runCompensation human db reg updated error fails nowMs phase).1.agents.Sublist
        db.agents ∧
      isInserting
        (AgentRegistration.runCompensation human db reg updated error fails nowMs phase).2 =
          false := by
  cases phase with
  | deleteSession =>
      simp only [AgentRegistration.runCompensation]
      split <;> exact ⟨List.Sublist.refl _, rfl⟩
  | deleteAgent =>
      simp only [AgentRegistration.runCompensation]
      split
      · exact ⟨List.Sublist.refl _, rfl⟩
      · exact ⟨List.filter_sublist, rfl⟩
  | restoreChallenge =>
      simp only [AgentRegistration.runCompensation]
      split
      · exact ⟨List.Sublist.refl _, rfl⟩
      · split <;> exact ⟨List.Sublist.refl _, rfl⟩

/-! ## The invariant -/

/-- The owner has at most `limit` agents, and a request that is about to insert has counted
fewer. -/
structure Inv (human : Human) (limit : ℕ) (p : State) : Prop where
  count : p.shared.countAgentsByOwner human ≤ limit
  counted : ∀ c ∈ p.calls, isInserting c.call = true → c.counted < limit

section
variable {crypto : Crypto} {human : Human} {limit : ℕ} {p : State}

theorem inv_initial {registry : Registry} (h : registry.countAgentsByOwner human ≤ limit) :
    Inv human limit ⟨registry, []⟩ := ⟨h, by simp⟩

/-- A new request is not about to insert, and changes no agent. -/
theorem start_cases {registry registry' : Registry} {request : Request} {c : Call}
    (h : start crypto human registry request = some (registry', c)) :
    registry'.agents = registry.agents ∧ isInserting c.call = false := by
  unfold start at h
  split at h
  · obtain ⟨rfl, rfl⟩ := Prod.mk.inj (Option.some.inj h)
    exact ⟨rfl, rfl⟩
  · rename_i challenge hchallenge
    obtain ⟨⟨db, call⟩, hstart, hr⟩ := Option.map_eq_some_iff.mp h
    obtain ⟨rfl, rfl⟩ := Prod.mk.inj hr
    simp only [AgentRegistration.start, Option.some.injEq, Prod.mk.injEq] at hstart
    obtain ⟨rfl, rfl⟩ := hstart
    refine ⟨rfl, ?_⟩
    dsimp only
    split
    · rfl
    · split
      · rfl
      · split <;> rfl

/-- **One statement of a request.** -/
theorem inv_resume (hlimit : human.agentLimit = some (limit : ℤ)) (hp : Inv human limit p)
    {i : ℕ} {c c' : Call} {choice : Choice} {registry : Registry} (hc : p.calls[i]? = some c)
    (hok : notOvertaken human limit p (.resume i choice) = true)
    (h : resume human p.shared c choice = some (registry, c')) :
    Inv human limit ⟨registry, p.calls.set i c'⟩ := by
  obtain ⟨reg, -, h⟩ := Option.bind_eq_some_iff.mp h
  obtain ⟨challenge, -, h⟩ := Option.bind_eq_some_iff.mp h
  obtain ⟨⟨db, call⟩, hresume, hr⟩ := Option.map_eq_some_iff.mp h
  obtain ⟨rfl, rfl⟩ := Prod.mk.inj hr
  have hcounted := hp.counted c (List.mem_of_getElem? hc)
  have hcount := hp.count
  -- What the statement does to the count, and whether an insertion comes next.
  have hstep : (db.agents.countP fun agent => agent.ownerId = human.id) ≤ limit ∧
      (isInserting call = true → isCounting c.call = true ∧
        p.shared.countAgentsByOwner human < limit) := by
    obtain ⟨inner, counted⟩ := c
    cases inner with
    | running reg phase =>
        have hrun := Option.some.inj hresume
        have hagents := runPhase_agents human (p.shared.database challenge) reg choice.fails phase
        rw [hrun] at hagents
        refine ⟨?_, ?_⟩
        · rcases hagents with hsame | ⟨rfl, hfails, hinserted⟩
          · rw [hsame]
            exact hcount
          · have hbelow : p.shared.countAgentsByOwner human < limit := by
              have hcountedLt := hcounted rfl
              simp only [notOvertaken, hc, hfails, Bool.false_or, Bool.or_eq_true,
                decide_eq_true_eq] at hok
              dsimp only at hcountedLt
              omega
            rw [hinserted, List.countP_cons]
            simp only [Registry.countAgentsByOwner] at hbelow
            change (p.shared.agents.countP fun agent => agent.ownerId = human.id) + _ ≤ limit
            split <;> omega
        · intro hinserting
          rw [← show (AgentRegistration.runPhase human (p.shared.database challenge) reg
            choice.fails phase).2 = call from congrArg Prod.snd hrun] at hinserting
          obtain ⟨rfl, hbelow⟩ := runPhase_inserting hlimit hinserting
          exact ⟨rfl, hbelow⟩
    | compensating reg updated error phase =>
        have hrun := Option.some.inj hresume
        obtain ⟨hagents, hnot⟩ := runCompensation_agents human (p.shared.database challenge) reg
          updated error choice.fails choice.nowMs phase
        rw [hrun] at hagents hnot
        refine ⟨hagents.countP_le.trans hcount, ?_⟩
        intro hinserting
        rw [hnot] at hinserting
        cases hinserting
    | answered response => cases hresume
  refine ⟨hstep.1, ?_⟩
  intro d hd hinserting
  rcases List.mem_or_eq_of_mem_set hd with hd | rfl
  · exact hp.counted d hd hinserting
  · obtain ⟨hcounting, hbelow⟩ := hstep.2 hinserting
    simp only [hcounting, if_true]
    exact hbelow

theorem inv_step (hlimit : human.agentLimit = some (limit : ℤ)) (hp : Inv human limit p)
    {e : Event} {q : State} (hok : notOvertaken human limit p e = true)
    (h : (program crypto human).step p e = some q) : Inv human limit q := by
  obtain ⟨request, registry, c, rfl, hstart, rfl⟩ |
    ⟨i, choice, c, registry, c', rfl, hc, hresume, rfl⟩ := Program.step_cases h
  · obtain ⟨hagents, hnot⟩ := start_cases hstart
    refine ⟨?_, ?_⟩
    · change registry.agents.countP _ ≤ limit
      rw [hagents]
      exact hp.count
    · intro d hd hinserting
      rcases List.mem_append.mp hd with hd | hd
      · exact hp.counted d hd hinserting
      · rw [List.mem_singleton.mp hd, hnot] at hinserting
        cases hinserting
  · exact inv_resume hlimit hp hc hok hresume

end

open AgentRegistration (exampleProof exampleProofBytes examplePublicKey examplePublicKeyBytes)

/-- An owner who may have one agent. -/
def exampleHuman : Human := { AgentRegistration.exampleHuman with agentLimit := some 1 }

def exampleBody : AgentRegistration.RegistrationBody := AgentRegistration.exampleBody

/-- The text of the proof for the second challenge, and its bytes. -/
def exampleSecondProof : JsString :=
  js "8LiYfcdcn_lMlJ4ZnIgEeQxoERGmUFJuPNm1wPtp6mDf-Xsg8wSoBOz6Vsbd00hGuU8odQVq87Zaa8_ld72uAg"

def exampleSecondProofBytes : List UInt8 :=
  [240, 184, 152, 125, 199, 92, 159, 249, 76, 148, 158, 25, 156, 136, 4, 121, 12, 104, 17, 17,
    166, 80, 82, 110, 60, 217, 181, 192, 251, 105, 234, 96, 223, 249, 123, 32, 243, 4, 168, 4,
    236, 250, 86, 198, 221, 211, 72, 70, 185, 79, 40, 117, 5, 106, 243, 182, 90, 107, 207, 229,
    119, 189, 174, 2]

def exampleSecondBody : AgentRegistration.RegistrationBody :=
  { exampleBody with
    challengeId := js "01HF7YAT00W6W7CM7N3W5FDXC1", challengeSignature := exampleSecondProof }

/-- The decoder and the signature check, as they answer on the two bodies. -/
def exampleCrypto : Crypto where
  decodeBase64url s :=
    [(examplePublicKey, examplePublicKeyBytes), (exampleProof, exampleProofBytes),
      (exampleSecondProof, exampleSecondProofBytes)].lookup s
  verifyEd25519 signature message publicKey :=
    publicKey = examplePublicKeyBytes &&
      ((signature = exampleProofBytes && message =
          AgentRegistration.canonicalizeAgentRegistrationProof (js "01HF7YAT00W6W7CM7N3W5FDXC0")
            (js "bm9uY2U") exampleHuman.did exampleBody) ||
        (signature = exampleSecondProofBytes && message =
          AgentRegistration.canonicalizeAgentRegistrationProof (js "01HF7YAT00W6W7CM7N3W5FDXC1")
            (js "bm9uY2Ux") exampleHuman.did exampleSecondBody))

def exampleChallenge (id nonce : String) : ChallengeRow where
  id := js id
  ownerId := exampleHuman.id
  publicKey := examplePublicKey
  nonce := js nonce
  status := .pending
  expiresAt := 1700000300000
  usedAt := none
  updatedAt := 1700000000000

def exampleRegistry : Registry where
  challenges := [exampleChallenge "01HF7YAT00W6W7CM7N3W5FDXC0" "bm9uY2U",
    exampleChallenge "01HF7YAT00W6W7CM7N3W5FDXC1" "bm9uY2Ux"]
  agents := []
  sessions := []
  events := []

def exampleStart (body : AgentRegistration.RegistrationBody) (tag : String) : Event :=
  .start { AgentRegistration.exampleRequest tag with body }

def exampleResume (i : ℕ) : Event := .resume i ⟨false, 1700000010000⟩

/-- One request after the other: the second one is over the limit. -/
def exampleSequence : List Event :=
  [exampleStart exampleBody "01"] ++ List.replicate 6 (exampleResume 0) ++
    [exampleStart exampleSecondBody "02"] ++ List.replicate 2 (exampleResume 1)

theorem exampleSequence_run :
    (Run.exec (program exampleCrypto exampleHuman).step ⟨exampleRegistry, []⟩
      exampleSequence).map (fun p => p.calls.map fun c => c.call.isCreated) =
        some [true, false] := by decide +kernel

/-- Both requests use their challenges and count no agent, and then both insert one. -/
def exampleRace : List Event :=
  [exampleStart exampleBody "01", exampleStart exampleSecondBody "02"] ++
    List.replicate 2 (exampleResume 0) ++ List.replicate 2 (exampleResume 1) ++
    List.replicate 4 (exampleResume 0) ++ List.replicate 4 (exampleResume 1)

theorem exampleRace_count :
    (Run.exec (program exampleCrypto exampleHuman).step ⟨exampleRegistry, []⟩ exampleRace).map
      (fun p => p.shared.countAgentsByOwner exampleHuman) = some 2 := by decide +kernel

end Clawdentity.AgentQuota
