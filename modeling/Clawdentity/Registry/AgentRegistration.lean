import Clawdentity.Js.Text
import Clawdentity.Lib.Fallible
import Clawdentity.Lib.Interleave

/-!
# Registration of agents with an ownership challenge

The route `POST /v1/agents` for the requests of one owner, on a database without
transactions: each request reads the challenge, checks the proof and runs
`applyRegistrationMutation` statement by statement. Where a statement throws, the
catch block takes the mutation back. Requests interleave between any two
statements, and any statement may fail, in which case it changes nothing.

The base64url decoder and the signature check are parameters, ISO date texts are
their epoch milliseconds, and the generated ULIDs come with the request.

## Main definitions

* `verifyAgentRegistrationOwnershipProof` — the checks on the challenge that was read.
* `program` — the code of a request, cut between its statements.
* `Call.holds` — the request has used the challenge and not given it back.
-/

namespace Clawdentity.AgentRegistration

open Js Lib Lib.Interleave

/-! ## The tables -/

inductive ChallengeStatus
  | pending
  | used
  deriving DecidableEq, Repr

/-- The row of the challenge in `agent_registration_challenges`. -/
structure ChallengeRow where
  id : JsString
  ownerId : JsString
  publicKey : JsString
  nonce : JsString
  status : ChallengeStatus
  expiresAt : ℕ
  usedAt : Option ℕ
  updatedAt : ℕ
  deriving DecidableEq

/-- A row of `agents`, which a registration inserts as active. -/
structure AgentRow where
  id : JsString
  did : JsString
  ownerId : JsString
  name : JsString
  framework : JsString
  publicKey : JsString
  currentJti : JsString
  expiresAt : ℕ
  createdAt : ℕ
  deriving DecidableEq

/-- A row of `agent_auth_sessions`, without the token hashes. -/
structure SessionRow where
  id : JsString
  agentId : JsString
  createdAt : ℕ
  deriving DecidableEq

/-- A row of `agent_auth_events`. -/
structure EventRow where
  agentId : JsString
  sessionId : JsString
  eventType : JsString
  createdAt : ℕ
  deriving DecidableEq

structure Database where
  challenge : ChallengeRow
  agents : List AgentRow
  sessions : List SessionRow
  events : List EventRow
  deriving DecidableEq

/-! ## The ownership proof -/

/-- `AgentRegistrationBody`, as `parseAgentRegistrationBody` answers it. -/
structure RegistrationBody where
  name : JsString
  framework : Option JsString
  publicKey : JsString
  ttlDays : Option ℕ
  challengeId : JsString
  challengeSignature : JsString
  deriving DecidableEq

/-- The owner that the API key belongs to. -/
structure Human where
  id : JsString
  did : JsString
  agentLimit : Option ℤ
  deriving DecidableEq

structure Crypto where
  /-- `decodeBase64url`; `none` where it throws. -/
  decodeBase64url : JsString → Option (List UInt8)
  /-- `verifyEd25519`, from signature, message and public key. -/
  verifyEd25519 : List UInt8 → JsString → List UInt8 → Bool

inductive RegistrationError
  | challengeNotFound
  | challengeReplayed
  | challengeExpired
  | proofMismatch
  | proofInvalid
  | limitReached
  /-- A statement failed. -/
  | database
  deriving DecidableEq, Repr

def normalizeOptionalField (value : Option JsString) : JsString := value.getD []

def canonicalizeAgentRegistrationProof (challengeId nonce ownerDid : JsString)
    (body : RegistrationBody) : JsString :=
  (js "\n").intercalate
    [js "clawdentity.register.v1",
      js "challengeId:" ++ challengeId,
      js "nonce:" ++ nonce,
      js "ownerDid:" ++ ownerDid,
      js "publicKey:" ++ body.publicKey,
      js "name:" ++ body.name,
      js "framework:" ++ normalizeOptionalField body.framework,
      js "ttlDays:" ++ normalizeOptionalField (body.ttlDays.map fun n => js (toString n))]

def verifyAgentRegistrationOwnershipProof (crypto : Crypto) (human : Human)
    (body : RegistrationBody) (challenge : ChallengeRow) (nowMs : ℕ) :
    Except RegistrationError Unit := do
  check (challenge.status = .pending) .challengeReplayed
  check (nowMs < challenge.expiresAt) .challengeExpired
  check (challenge.publicKey = body.publicKey) .proofMismatch
  match crypto.decodeBase64url body.challengeSignature, crypto.decodeBase64url body.publicKey with
  | some signature, some publicKey =>
      let canonical :=
        canonicalizeAgentRegistrationProof challenge.id challenge.nonce human.did body
      check (crypto.verifyEd25519 signature canonical publicKey) .proofInvalid
  | _, _ => .error .proofInvalid

/-! ## The registration -/

def DEFAULT_AGENT_TTL_DAYS : ℕ := 30
def DAY_IN_SECONDS : ℕ := 24 * 60 * 60
def DEFAULT_AGENT_FRAMEWORK : JsString := js "generic"

/-- The values that a request generates: the ULIDs, the authority of its issuer and
the time. -/
structure Fresh where
  agentId : JsString
  currentJti : JsString
  sessionId : JsString
  didAuthority : JsString
  nowMs : ℕ
  deriving DecidableEq

/-- The rows of `buildAgentRegistrationFromParsed` and `issueAgentAuth`. -/
structure Registration where
  challengeId : JsString
  agent : AgentRow
  session : SessionRow
  usedAt : ℕ
  deriving DecidableEq

def buildAgentRegistrationFromParsed (human : Human) (body : RegistrationBody) (fresh : Fresh) :
    AgentRow :=
  let ttlSeconds := body.ttlDays.getD DEFAULT_AGENT_TTL_DAYS * DAY_IN_SECONDS
  { id := fresh.agentId
    did := js "did:cdi:" ++ fresh.didAuthority ++ js ":agent:" ++ fresh.agentId
    ownerId := human.id
    name := body.name
    framework := body.framework.getD DEFAULT_AGENT_FRAMEWORK
    publicKey := body.publicKey
    currentJti := fresh.currentJti
    expiresAt := fresh.nowMs + ttlSeconds * 1000
    createdAt := fresh.nowMs }

/-! ## Requests -/

/-- The statements of `applyRegistrationMutation`, in the order of the source. -/
inductive Phase
  | updateChallenge
  | countAgents
  | insertAgent
  | insertSession
  | insertEvent
  | done
  deriving DecidableEq, Repr

/-- The statements of its catch block. -/
inductive Compensation
  | deleteSession
  | deleteAgent
  | restoreChallenge
  deriving DecidableEq, Repr

inductive Response
  /-- 201, with the agent. -/
  | created (agent : AgentRow)
  | failed (error : RegistrationError)
  deriving DecidableEq

/-- A request before its next statement. In the catch block, `updated` records
whether the request's own update of the challenge had succeeded; the source does
not look at it. -/
inductive Call
  | running (reg : Registration) (phase : Phase)
  | compensating (reg : Registration) (updated : Bool) (error : RegistrationError)
      (phase : Compensation)
  | answered (response : Response)
  deriving DecidableEq

/-- A request: its body, the values it generates, and whether its read fails. -/
structure Request where
  body : RegistrationBody
  fresh : Fresh
  readFails : Bool
  deriving DecidableEq

/-- `findOwnedAgentRegistrationChallenge` on the one challenge. -/
def findOwnedAgentRegistrationChallenge (db : Database) (ownerId challengeId : JsString) :
    Option ChallengeRow :=
  if db.challenge.ownerId = ownerId ∧ db.challenge.id = challengeId then some db.challenge
  else none

section Program
variable (crypto : Crypto) (human : Human)

/-- The first segment: the read of the challenge, the proof and the registration. -/
def start (db : Database) (request : Request) : Option (Database × Call) :=
  some (db,
    if request.readFails then .answered (.failed .database)
    else match findOwnedAgentRegistrationChallenge db human.id request.body.challengeId with
      | none => .answered (.failed .challengeNotFound)
      | some challenge =>
        match verifyAgentRegistrationOwnershipProof crypto human request.body challenge
            request.fresh.nowMs with
        | .error error => .answered (.failed error)
        | .ok () =>
            let agent := buildAgentRegistrationFromParsed human request.body request.fresh
            .running
              { challengeId := challenge.id, agent
                session :=
                  { id := request.fresh.sessionId, agentId := agent.id,
                    createdAt := request.fresh.nowMs }
                usedAt := request.fresh.nowMs }
              .updateChallenge)

/-- The challenge is the registration's own and has the given status: the `where`
clause of both updates. -/
def challengeMatches (db : Database) (reg : Registration) (status : ChallengeStatus) : Bool :=
  db.challenge.id = reg.challengeId ∧ db.challenge.ownerId = human.id ∧
    db.challenge.status = status

/-- The limit check runs only for a limit that is not negative. -/
def checkedLimit : Option ℤ := human.agentLimit.filter fun limit => decide (0 ≤ limit)

/-- One statement of the `try` block. -/
def runPhase (db : Database) (reg : Registration) (fails : Bool) : Phase → Database × Call
  | .updateChallenge =>
      if fails then (db, .compensating reg false .database .deleteSession)
      else if challengeMatches human db reg .pending then
        ({ db with challenge := { db.challenge with
            status := .used, usedAt := some reg.usedAt, updatedAt := reg.usedAt } },
          .running reg (if (checkedLimit human).isSome then .countAgents else .insertAgent))
      else (db, .compensating reg false .challengeReplayed .deleteSession)
  | .countAgents =>
      if fails then (db, .compensating reg true .database .deleteSession)
      else
        let existingAgentCount : ℤ := db.agents.countP fun agent => agent.ownerId = human.id
        if (checkedLimit human).any fun limit => limit ≤ existingAgentCount then
          (db, .compensating reg true .limitReached .deleteSession)
        else (db, .running reg .insertAgent)
  | .insertAgent =>
      if fails || db.agents.any fun agent => agent.id = reg.agent.id || agent.did = reg.agent.did
      then (db, .compensating reg true .database .deleteSession)
      else ({ db with agents := reg.agent :: db.agents }, .running reg .insertSession)
  | .insertSession =>
      if fails || db.sessions.any fun session =>
          session.id = reg.session.id || session.agentId = reg.session.agentId
      then (db, .compensating reg true .database .deleteSession)
      else ({ db with sessions := reg.session :: db.sessions }, .running reg .insertEvent)
  | .insertEvent =>
      if fails then (db, .compensating reg true .database .deleteSession)
      else
        let event :=
          { agentId := reg.agent.id, sessionId := reg.session.id, eventType := js "issued",
            createdAt := reg.session.createdAt }
        ({ db with events := event :: db.events }, .running reg .done)
  | .done => (db, .answered (.created reg.agent))

/-- One statement of the `catch` block; a failure of the two deletions is only logged. -/
def runCompensation (db : Database) (reg : Registration) (updated : Bool)
    (error : RegistrationError) (fails : Bool) (nowMs : ℕ) : Compensation → Database × Call
  | .deleteSession =>
      (if fails then db
        else { db with sessions := db.sessions.filter fun session => session.id ≠ reg.session.id },
        .compensating reg updated error .deleteAgent)
  | .deleteAgent =>
      (if fails then db
        else { db with agents := db.agents.filter fun agent => agent.id ≠ reg.agent.id },
        .compensating reg updated error .restoreChallenge)
  | .restoreChallenge =>
      if fails then (db, .answered (.failed .database))
      else
        (if challengeMatches human db reg .used then
          { db with challenge := { db.challenge with
              status := .pending, usedAt := none, updatedAt := nowMs } }
          else db,
          .answered (.failed error))

/-- How the next statement goes: whether it fails, and the clock that it reads. -/
structure Choice where
  fails : Bool
  nowMs : ℕ
  deriving DecidableEq

/-- The later segments: one statement each. -/
def resume (db : Database) (c : Call) (choice : Choice) : Option (Database × Call) :=
  match c with
  | .running reg phase => some (runPhase human db reg choice.fails phase)
  | .compensating reg updated error phase =>
      some (runCompensation human db reg updated error choice.fails choice.nowMs phase)
  | .answered _ => none

/-- The route on a database without transactions. -/
def program : Program Database Call Request Choice := ⟨start crypto human, resume human⟩

end Program

abbrev State := Pool Database Call
abbrev Event := Move Request Choice

/-- The request answered 201. -/
def Call.isCreated : Call → Bool
  | .answered (.created _) => true
  | _ => false

/-- How many requests answered 201. -/
def State.created (p : State) : ℕ := p.calls.countP Call.isCreated

/-- The condition on one step: where the catch block sets a used challenge back to
pending, the request's own update had succeeded. -/
def restoresOwn (human : Human) (p : State) : Event → Bool
  | .resume i choice =>
      match p.calls[i]? with
      | some (.compensating reg updated _ .restoreChallenge) =>
          choice.fails || updated || !challengeMatches human p.shared reg .used
      | _ => true
  | .start _ => true

/-! ## The challenge as a lock -/

/-- The request has used the challenge and has not given it back. -/
def Call.holds : Call → Bool
  | .running _ .updateChallenge => false
  | .running _ _ => true
  | .compensating _ updated _ _ => updated
  | .answered (.created _) => true
  | .answered (.failed _) => false

/-- How a segment moves the lock: it keeps it as it is, possibly dropping it
without giving the challenge back, or takes a pending challenge, or gives it back. -/
inductive LockMove (status status' : ChallengeStatus) (held held' : Bool) : Prop
  | keep (same : status' = status) (no_new : held' = true → held = true)
  | take (pending : status = .pending) (now_used : status' = .used) (now_held : held' = true)
  | release (was_held : held = true) (not_held : held' = false)

theorem runPhase_lock (human : Human) (db : Database) (reg : Registration) (fails : Bool)
    (phase : Phase) :
    LockMove db.challenge.status (runPhase human db reg fails phase).1.challenge.status
      (Call.running reg phase).holds (runPhase human db reg fails phase).2.holds := by
  cases phase with
  | updateChallenge =>
      simp only [runPhase]
      split
      · exact .keep rfl (by simp [Call.holds])
      · split
        · rename_i hmatch
          simp only [challengeMatches, decide_eq_true_eq] at hmatch
          refine .take hmatch.2.2 rfl ?_
          split <;> rfl
        · exact .keep rfl (by simp [Call.holds])
  | countAgents =>
      refine .keep ?_ (fun _ => rfl)
      simp only [runPhase]
      split
      · rfl
      · split <;> rfl
  | insertAgent =>
      refine .keep ?_ (fun _ => rfl)
      simp only [runPhase]
      split <;> rfl
  | insertSession =>
      refine .keep ?_ (fun _ => rfl)
      simp only [runPhase]
      split <;> rfl
  | insertEvent =>
      refine .keep ?_ (fun _ => rfl)
      simp only [runPhase]
      split <;> rfl
  | done => exact .keep rfl (fun _ => rfl)

theorem runCompensation_lock (human : Human) (db : Database) (reg : Registration)
    (updated : Bool) (error : RegistrationError) (fails : Bool) (nowMs : ℕ) (phase : Compensation)
    (hok : phase = .restoreChallenge →
      (fails || updated || !challengeMatches human db reg .used) = true) :
    LockMove db.challenge.status
      (runCompensation human db reg updated error fails nowMs phase).1.challenge.status updated
      (runCompensation human db reg updated error fails nowMs phase).2.holds := by
  cases phase with
  | deleteSession =>
      refine .keep ?_ id
      simp only [runCompensation]
      split <;> rfl
  | deleteAgent =>
      refine .keep ?_ id
      simp only [runCompensation]
      split <;> rfl
  | restoreChallenge =>
      simp only [runCompensation]
      split
      · exact .keep rfl (by simp [Call.holds])
      · rename_i hfails
        split
        · rename_i hmatch
          -- only the holder may give the challenge back
          have hupdated : updated = true := by simpa [hfails, hmatch] using hok rfl
          exact .release hupdated rfl
        · exact .keep rfl (by simp [Call.holds])

theorem resume_lock {human : Human} {db db' : Database} {c c' : Call} {choice : Choice}
    (hok : ∀ reg updated error, c = .compensating reg updated error .restoreChallenge →
      (choice.fails || updated || !challengeMatches human db reg .used) = true)
    (h : resume human db c choice = some (db', c')) :
    LockMove db.challenge.status db'.challenge.status c.holds c'.holds := by
  cases c with
  | running reg phase =>
      simp only [resume, Option.some.injEq] at h
      have := runPhase_lock human db reg choice.fails phase
      rwa [h] at this
  | compensating reg updated error phase =>
      simp only [resume, Option.some.injEq] at h
      have := runCompensation_lock human db reg updated error choice.fails choice.nowMs phase
        (fun hphase => hok reg updated error (by rw [hphase]))
      rwa [h] at this
  | answered response => cases h

/-- At most one request holds the challenge, and none does while it is pending. -/
structure Inv (p : State) : Prop where
  one_holder : p.calls.countP Call.holds ≤ 1
  pending_free : p.shared.challenge.status = .pending → p.calls.countP Call.holds = 0

theorem inv_resume {p : State} {db : Database} {i : ℕ} {c c' : Call} (hi : Inv p)
    (hc : p.calls[i]? = some c)
    (hlock : LockMove p.shared.challenge.status db.challenge.status c.holds c'.holds) :
    Inv ⟨db, p.calls.set i c'⟩ := by
  have hcount := countP_set_add Call.holds c' hc
  have hone := hi.one_holder
  have hfree := hi.pending_free
  cases hlock with
  | keep same no_new =>
      have hle : (p.calls.set i c').countP Call.holds ≤ p.calls.countP Call.holds := by
        cases hnew : c'.holds with
        | false =>
            simp only [hnew, Bool.false_eq_true, if_false] at hcount
            omega
        | true =>
            simp only [hnew, no_new hnew, if_true] at hcount
            omega
      exact ⟨hle.trans hone, fun hp => Nat.le_zero.mp (hle.trans (hfree (same ▸ hp)).le)⟩
  | take pending now_used now_held =>
      refine ⟨?_, fun hp => by rw [now_used] at hp; cases hp⟩
      have hzero := hfree pending
      simp only [now_held, if_true] at hcount
      change (p.calls.set i c').countP Call.holds ≤ 1
      omega
  | release was_held not_held =>
      simp only [was_held, not_held, if_true, Bool.false_eq_true, if_false] at hcount
      have hzero : (p.calls.set i c').countP Call.holds = 0 := by omega
      exact ⟨by change (p.calls.set i c').countP Call.holds ≤ 1; omega, fun _ => hzero⟩

/-- A new request only reads, and holds nothing. -/
theorem start_cases {crypto : Crypto} {human : Human} {db db' : Database} {request : Request}
    {c : Call} (h : start crypto human db request = some (db', c)) : db' = db ∧ c.holds = false := by
  simp only [start, Option.some.injEq, Prod.mk.injEq] at h
  obtain ⟨rfl, rfl⟩ := h
  refine ⟨rfl, ?_⟩
  split
  · rfl
  · split
    · rfl
    · split <;> rfl

theorem inv_step {crypto : Crypto} {human : Human} {p q : State} {e : Event} (hi : Inv p)
    (hok : restoresOwn human p e = true) (h : (program crypto human).step p e = some q) :
    Inv q := by
  rcases Program.step_cases h with ⟨request, db, c, rfl, hstart, rfl⟩ |
    ⟨i, choice, c, db, c', rfl, hc, hresume, rfl⟩
  · obtain ⟨rfl, hholds⟩ := start_cases hstart
    constructor <;> simp only [List.countP_append, List.countP_singleton, hholds]
    · exact hi.one_holder
    · exact hi.pending_free
  · refine inv_resume hi hc (resume_lock ?_ hresume)
    rintro reg updated error rfl
    simpa only [restoresOwn, hc] using hok

theorem created_le_holders (p : State) : p.created ≤ p.calls.countP Call.holds := by
  refine List.countP_mono_left fun c _ hc => ?_
  match c, hc with
  | .answered (.created _), _ => rfl

/-- **A challenge registers at most one agent when every restoring request had
used it.** In every run in which the catch block sets a used challenge back only
for a request whose own update had succeeded, at most one request answers 201,
and the challenge is not pending in any state after that. -/
theorem challenge_registers_at_most_one {crypto : Crypto} {human : Human} {db : Database}
    {es : List Event} {p : State}
    (hok : Run.AllSteps (program crypto human).step (restoresOwn human · ·) ⟨db, []⟩ es)
    (hrun : Run.exec (program crypto human).step ⟨db, []⟩ es = some p) :
    p.created ≤ 1 ∧ (0 < p.created → p.shared.challenge.status ≠ .pending) := by
  have hi : Inv p := Run.exec_invariant Inv (fun _ _ _ hi ho h => inv_step hi ho h)
    ⟨Nat.zero_le _, fun _ => rfl⟩ hok hrun
  have hle := created_le_holders p
  refine ⟨hle.trans hi.one_holder, fun hpos hpending => ?_⟩
  have := hi.pending_free hpending
  omega

/-! ### Two requests that both read the pending challenge -/

/-- The text of the public key in `exampleBody`, and its bytes. -/
def examplePublicKey : JsString := js "A6EHv_POEL4dcN0Y50vAmWfk1jCbpQ1fHdyGZBJVMbg"

def examplePublicKeyBytes : List UInt8 :=
  [3, 161, 7, 191, 243, 206, 16, 190, 29, 112, 221, 24, 231, 75, 192, 153, 103, 228, 214,
    48, 155, 165, 13, 95, 29, 220, 134, 100, 18, 85, 49, 184]

/-- The text of the proof in `exampleBody`, and its bytes. -/
def exampleProof : JsString :=
  js "MolVBQHrfFlbCIeqcZHokN3kNI6YclZduvqzy30U5q3xCDYtWXN2xPLEt6QBGmlJPQDObog0NTocEIdErIv6Ag"

def exampleProofBytes : List UInt8 :=
  [50, 137, 85, 5, 1, 235, 124, 89, 91, 8, 135, 170, 113, 145, 232, 144, 221, 228, 52, 142,
    152, 114, 86, 93, 186, 250, 179, 203, 125, 20, 230, 173, 241, 8, 54, 45, 89, 115, 118,
    196, 242, 196, 183, 164, 1, 26, 105, 73, 61, 0, 206, 110, 136, 52, 53, 58, 28, 16, 135,
    68, 172, 139, 250, 2]

/-- The decoder and the signature check, as they answer on `exampleBody`. -/
def exampleCrypto : Crypto where
  decodeBase64url s := some (if s = examplePublicKey then examplePublicKeyBytes else exampleProofBytes)
  verifyEd25519 signature _ publicKey :=
    signature = exampleProofBytes && publicKey = examplePublicKeyBytes

def exampleHuman : Human where
  id := js "01HF7YAT00W6W7CM7N3W5FDXT0"
  did := js "did:cdi:registry.example.com:human:01HF7YAT00W6W7CM7N3W5FDXT0"
  agentLimit := none

def exampleDatabase : Database where
  challenge :=
    { id := js "01HF7YAT00W6W7CM7N3W5FDXC0", ownerId := exampleHuman.id,
      publicKey := examplePublicKey, nonce := js "bm9uY2U",
      status := .pending, expiresAt := 1700000300000, usedAt := none, updatedAt := 1700000000000 }
  agents := []
  sessions := []
  events := []

def exampleBody : RegistrationBody where
  name := js "kai"
  framework := none
  publicKey := examplePublicKey
  ttlDays := none
  challengeId := js "01HF7YAT00W6W7CM7N3W5FDXC0"
  challengeSignature := exampleProof

/-- The request with the ULIDs that end in the given characters. -/
def exampleRequest (tag : String) : Request where
  body := exampleBody
  fresh :=
    { agentId := js ("01HF7YAT00W6W7CM7N3W5FDA" ++ tag),
      currentJti := js ("01HF7YAT00W6W7CM7N3W5FDJ" ++ tag),
      sessionId := js ("01HF7YAT00W6W7CM7N3W5FDS" ++ tag),
      didAuthority := js "registry.example.com", nowMs := 1700000010000 }
  readFails := false

def exampleResume (i : ℕ) : Event := .resume i ⟨false, 1700000010000⟩

/-- Both requests read the challenge; the first one registers its agent, the second
one finds the challenge used and restores it, and a third one registers again. -/
def exampleRace : List Event :=
  [.start (exampleRequest "01"), .start (exampleRequest "02")] ++
    List.replicate 5 (exampleResume 0) ++ List.replicate 4 (exampleResume 1) ++
    [.start (exampleRequest "03")] ++ List.replicate 5 (exampleResume 2)

theorem exampleRace_created :
    ((Run.exec (program exampleCrypto exampleHuman).step ⟨exampleDatabase, []⟩ exampleRace).map
      State.created) = some 2 := by
  decide

/-- **A challenge can register two agents.** -/
theorem not_challenge_registers_at_most_one :
    ¬ ∀ (crypto : Crypto) (human : Human) (db : Database) (es : List Event) (p : State),
      Run.exec (program crypto human).step ⟨db, []⟩ es = some p →
      p.created ≤ 1 ∧ (0 < p.created → p.shared.challenge.status ≠ .pending) := by
  intro h
  obtain ⟨p, hrun, hcreated⟩ := Option.map_eq_some_iff.mp exampleRace_created
  have := (h exampleCrypto exampleHuman exampleDatabase exampleRace p hrun).1
  omega

/-- The second request reads the challenge after the first one has answered. -/
def exampleSequence : List Event :=
  [.start (exampleRequest "01")] ++ List.replicate 5 (exampleResume 0) ++
    [.start (exampleRequest "02")]

theorem exampleSequence_created :
    ∃ p : State, Run.exec (program exampleCrypto exampleHuman).step ⟨exampleDatabase, []⟩
        exampleSequence = some p ∧ p.created ≤ 1 ∧ p.shared.challenge.status ≠ .pending := by
  obtain ⟨p, hrun, hpos⟩ : ∃ p : State, Run.exec (program exampleCrypto exampleHuman).step
      ⟨exampleDatabase, []⟩ exampleSequence = some p ∧ 0 < p.created := ⟨_, rfl, by decide⟩
  obtain ⟨hle, hstatus⟩ := challenge_registers_at_most_one (by decide) hrun
  exact ⟨p, hrun, hle, hstatus hpos⟩

end Clawdentity.AgentRegistration
