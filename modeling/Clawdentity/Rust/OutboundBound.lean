import Clawdentity.Rust.Outbound

/-!
# The bound of the outbound queue

A handler compares the number of rows with the bound before it inserts its rows one by one, and
a flush puts a row back whose frame could not be sent. Between a check and the insertions that it
allowed, and between the taking of a row and its return, other handlers may check and insert.

## Main definitions

* `resolveOutboundMaxPending` — the bound.
* `Call.reserved` — the rows that a call may still insert without another check.
* `RoomFor` — a check that passes leaves room for the rows of the other calls.
* `outbound_bounded` — in runs of such checks the queue stays within the bound.
-/

namespace Clawdentity.Rust.Outbound

open Js Lib Lib.Interleave Lib.Run
open Inbound (Crates)

def DEFAULT_OUTBOUND_MAX_PENDING : ℤ := 10000

/-- The bound, from the limit that the server was started with and the environment variable,
where it is an integer. -/
def resolveOutboundMaxPending (overrideLimit envValue : Option ℤ) : ℤ :=
  match overrideLimit with
  | some limit => max limit 1
  | none => (envValue.filter (0 < ·)).getD DEFAULT_OUTBOUND_MAX_PENDING

theorem resolveOutboundMaxPending_pos (overrideLimit envValue : Option ℤ) :
    1 ≤ resolveOutboundMaxPending overrideLimit envValue := by
  cases overrideLimit with
  | some limit => exact Int.le_max_right limit 1
  | none =>
      cases h : envValue.filter (0 < ·) with
      | none => simp [resolveOutboundMaxPending, h, DEFAULT_OUTBOUND_MAX_PENDING]
      | some limit =>
          have hpos : 0 < limit := by simpa using (Option.filter_eq_some_iff.mp h).2
          simp only [resolveOutboundMaxPending, h, Option.getD_some]
          omega

/-! ## Slots -/

section
variable (crates : Crates) (policy : OutboundRetryPolicy) (server : RuntimeServerState)

/-- The rows that a call may still insert without another check: those of its recipients, or the
row that it is sending, if it has attempts left. -/
def Call.reserved : Call → ℕ
  | .inserting _ _ recipients _ => recipients.length
  | .sending row _ _ _ _ => if policy.maxAttempts ≤ row.value.attemptCount + 1 then 0 else 1
  | _ => 0

/-- The rows of the queue, and those that the calls may still insert. -/
def slots (p : Pool Shared Call) : ℕ :=
  p.budget (fun st => st.queue.length) (Call.reserved policy)

/-- The slots for which a piece of code checks the capacity. -/
def slotsAsked (p : Pool Shared Call) : Move (Input × Env) Env → Option (ℕ × Env)
  | .start (.request body, env) =>
      match (requestOfValue body).map (resolveOutboundRouting crates.ulidFromString) with
      | some (.ok (.direct _)) => some (1, env)
      | _ => none
  | .start (.flush _, _) => none
  | .resume i env =>
      match p.calls[i]? with
      | some (.resolving _ _ localAgentDid) =>
          (env.members.bind fun rawMembers =>
            collectRecipients crates.ulidFromString localAgentDid rawMembers []).bind
              fun recipients => if recipients.isEmpty then none else some (recipients.length, env)
      | _ => none

/-- A check of the capacity that passes leaves room for the rows that other calls may still
insert. -/
def RoomFor (p : Pool Shared Call) (move : Move (Input × Env) Env) : Prop :=
  ∀ asked ∈ slotsAsked crates p move,
    (ensureOutboundCapacity server p.shared.queue asked.1 asked.2).isOk = true →
      (slots policy p + asked.1 : ℤ) ≤ server.maxPending

instance (p : Pool Shared Call) (move : Move (Input × Env) Env) :
    Decidable (RoomFor crates policy server p move) :=
  inferInstanceAs (Decidable (∀ asked ∈ slotsAsked crates p move, _ → _))

end

/-! ## The pieces of code -/

section
variable {crates : Crates} {policy : OutboundRetryPolicy} {server : RuntimeServerState}
  {st st' : Shared} {env : Env} {call call' : Call}

theorem deleteOutbound_length_le (queue : Queue) (frameId : RString) (env : Env) :
    (deleteOutbound queue frameId env).length ≤ queue.length := by
  rw [deleteOutbound]
  split
  · exact le_refl _
  · exact List.length_filter_le _ _

theorem deleteRow_length_lt {queue : Queue} {row : Tracked OutboundQueueItem} (h : row ∈ queue) :
    (deleteRow row.value.frameId queue).length < queue.length := by
  rw [deleteRow, List.length_filter_lt_length_iff_exists]
  exact ⟨row, h, by simp⟩

theorem reserved_flushRow_le (row : Tracked OutboundQueueItem) (maxItems : ℕ)
    (reply : Option Reply) :
    (flushRow crates policy row maxItems reply env).reserved policy ≤ 1 := by
  unfold flushRow
  simp only
  split
  · split <;> simp [Call.reserved]
  · split
    · simp [Call.reserved]
    · simp only [Call.reserved]
      split <;> omega

variable (crates policy server st env) in
/-- What a piece of code puts into the queue was reserved. -/
theorem resumeInserting_slots (request : OutboundRequest) (groupId : Option RString)
    (recipients frameIds : List RString) :
    let r := resumeInserting crates server st request groupId recipients frameIds env
    r.1.queue.length + r.2.reserved policy ≤ st.queue.length + recipients.length := by
  unfold resumeInserting
  split
  · simp only
    split <;> simp [Call.reserved]
  · split
    · rename_i queue hqueue
      obtain ⟨row, rfl, _⟩ := enqueueOutbound_spec hqueue
      simp only [Call.reserved, List.length_append, List.length_cons, List.length_nil]
      omega
    · simp [Call.reserved]

variable (crates policy st env) in
theorem resumeUndoing_slots (frameIds : List RString) (reply : Reply) :
    let r := resumeUndoing st frameIds reply env
    r.1.queue.length + r.2.reserved policy ≤ st.queue.length := by
  unfold resumeUndoing
  split
  · simp [Call.reserved]
  · simpa [Call.reserved] using deleteOutbound_length_le st.queue _ env

variable (crates policy st env) in
theorem resumeFlushing_slots (maxItems : ℕ) (reply : Option Reply) :
    let r := resumeFlushing crates policy st maxItems reply env
    r.1.queue.length + r.2.reserved policy ≤ st.queue.length := by
  unfold resumeFlushing
  split
  · simp [Call.reserved]
  · simp [Call.reserved]
  · split
    · simp [Call.reserved]
    · simp [Call.reserved]
    · rename_i maxItems _ _ row queue htake
      obtain ⟨hmem, rfl⟩ := takeDueOutbound_spec htake
      have hlt := deleteRow_length_lt hmem
      have hle : (flushRow crates policy row maxItems reply env).reserved policy ≤ 1 :=
        reserved_flushRow_le row maxItems reply
      simp only
      omega

variable (crates policy st env) in
theorem resumeSending_slots (row : Tracked OutboundQueueItem) (nowMs : ℤ) (frame : EnqueueFrame)
    (maxItems : ℕ) (reply : Option Reply) :
    let r := resumeSending policy st row nowMs frame maxItems reply env
    r.1.queue.length + r.2.reserved policy ≤
      st.queue.length + (Call.sending row nowMs frame maxItems reply).reserved policy := by
  unfold resumeSending
  split
  · simp [Call.reserved]
  split
  · simp only
    split <;> simp [Call.reserved]
  · rename_i hattempts
    split
    · rename_i queue hqueue
      obtain ⟨rfl, _⟩ := insertRow_spec hqueue
      simp only [Call.reserved, if_neg hattempts, List.length_append, List.length_singleton]
      omega
    · simp [Call.reserved]

theorem isOk_of_eq_ok {result : Except AppErrorResponse Unit} {u : Unit} (h : result = .ok u) :
    result.isOk = true := by
  rw [h]
  rfl

/-- A handler that starts reserves the slot that it has asked for. -/
theorem startCall_reserved {p : Pool Shared Call} {input : Input}
    (hroom : RoomFor crates policy server p (.start (input, env)))
    (hslots : (slots policy p : ℤ) ≤ server.maxPending) :
    (slots policy p + (startCall crates server p.shared input env).2.reserved policy : ℤ) ≤
      server.maxPending := by
  have hzero : ∀ call : Call, call.reserved policy ≤ 0 →
      (slots policy p + call.reserved policy : ℤ) ≤ server.maxPending := by
    intro call hcall
    omega
  unfold startCall
  split
  · exact hzero _ (le_refl _)
  rename_i body
  split
  · exact hzero _ (le_refl _)
  rename_i request hrequest
  cases hhandler : startHandler crates server p.shared.queue request env with
  | error response => exact hzero _ (le_refl _)
  | ok call =>
      obtain ⟨routing, hrouting, h⟩ := bind_eq_ok.mp hhandler
      cases routing with
      | direct toAgentDid =>
          obtain ⟨_, hcheck, heq⟩ := bind_eq_ok.mp h
          cases heq
          refine hroom (1, env) ?_ (isOk_of_eq_ok hcheck)
          simp [slotsAsked, hrequest, hrouting]
      | group groupId =>
          simp only [bind_eq_ok] at h
          obtain ⟨_, _, _, _, _, _, heq⟩ := h
          cases heq
          exact hzero _ (le_refl _)

/-- A handler that has the members of its group reserves the slots that it has asked for. -/
theorem resumeResolving_reserved {p : Pool Shared Call} {i : ℕ} {request : OutboundRequest}
    {groupId localAgentDid : RString}
    (hcall : p.calls[i]? = some (.resolving request groupId localAgentDid))
    (hroom : RoomFor crates policy server p (.resume i env))
    (hslots : (slots policy p : ℤ) ≤ server.maxPending) :
    (slots policy p + (Call.ofExcept (resumeResolving crates server p.shared.queue request groupId
      localAgentDid env)).reserved policy : ℤ) ≤ server.maxPending := by
  have hzero : ∀ call : Call, call.reserved policy ≤ 0 →
      (slots policy p + call.reserved policy : ℤ) ≤ server.maxPending := by
    intro call hcall
    omega
  cases hresolving : resumeResolving crates server p.shared.queue request groupId localAgentDid
    env with
  | error response => exact hzero _ (le_refl _)
  | ok call =>
      obtain ⟨rawMembers, hmembers, h⟩ := bind_eq_ok.mp hresolving
      obtain ⟨recipients, hrecipients, h⟩ := bind_eq_ok.mp h
      split at h
      · cases h
        exact hzero _ (le_refl _)
      · rename_i hne
        simp only [bind_eq_ok] at h
        obtain ⟨_, _, _, hcheck, heq⟩ := h
        cases heq
        refine hroom (recipients.length, env) ?_ (isOk_of_eq_ok hcheck)
        simp only [slotsAsked, hcall, elim_eq_ok.mp hmembers, Option.bind_some,
          elim_eq_ok.mp hrecipients, if_neg hne, Option.mem_def]

/-! ## Runs -/

/-- **One step** whose check leaves room keeps the rows and the reserved slots within the bound. -/
theorem slots_step {p p' : Pool Shared Call} {e : Move (Input × Env) Env}
    (hslots : (slots policy p : ℤ) ≤ server.maxPending) (hroom : RoomFor crates policy server p e)
    (hstep : (outbound crates policy server).step p e = some p') :
    (slots policy p' : ℤ) ≤ server.maxPending := by
  rcases Program.step_cases hstep with
    ⟨⟨input, env⟩, s, c, rfl, hstart, rfl⟩ | ⟨i, env, c, s, c', rfl, hi, hresume, rfl⟩
  · have hs : startCall crates server p.shared input env = (s, c) := Option.some.inj hstart
    have hreserved := startCall_reserved hroom hslots
    have hqueue : s = p.shared := by
      have hshared : (startCall crates server p.shared input env).1 = p.shared :=
        startCall_shared p.shared input env
      rw [← hshared, hs]
    have hbudget := budget_start (fun st : Shared => st.queue.length) (Call.reserved policy) p s c
    rw [hs] at hreserved
    simp only [hqueue] at hbudget
    simp only [slots, hqueue] at hreserved ⊢
    omega
  · have hbudget := budget_resume (fun st : Shared => st.queue.length) (Call.reserved policy) hi s c'
    have hkeeps : s.queue.length + c'.reserved policy ≤
        p.shared.queue.length + c.reserved policy →
        (slots policy ⟨s, p.calls.set i c'⟩ : ℤ) ≤ server.maxPending := by
      intro hle
      simp only [slots] at hslots ⊢
      omega
    have hr : resumeCall crates policy server p.shared c env = some (s, c') := hresume
    cases c with
    | resolving request groupId localAgentDid =>
        cases hr
        have hreserved := resumeResolving_reserved hi hroom hslots
        simp only [slots, Call.reserved] at hreserved hbudget ⊢
        omega
    | inserting request groupId recipients frameIds =>
        have hle := resumeInserting_slots crates policy server p.shared env request groupId
          recipients frameIds
        rw [Option.some.inj hr] at hle
        exact hkeeps hle
    | undoing frameIds reply =>
        have hle := resumeUndoing_slots policy p.shared env frameIds reply
        rw [Option.some.inj hr] at hle
        exact hkeeps hle
    | flushing maxItems reply =>
        have hle := resumeFlushing_slots crates policy p.shared env maxItems reply
        rw [Option.some.inj hr] at hle
        exact hkeeps hle
    | sending row nowMs frame maxItems reply =>
        have hle := resumeSending_slots policy p.shared env row nowMs frame maxItems reply
        rw [Option.some.inj hr] at hle
        exact hkeeps hle
    | done reply => cases hr

/-- **The bound holds** in every state of a run in which every check of the capacity that passes
leaves room for the rows that other calls may still insert. -/
theorem outbound_bounded (crates : Crates) (policy : OutboundRetryPolicy)
    (server : RuntimeServerState) (overrideLimit envValue : Option ℤ)
    (hmax : server.maxPending = resolveOutboundMaxPending overrideLimit envValue)
    {moves : List (Move (Input × Env) Env)} {p : Pool Shared Call}
    (hroom : AllSteps (outbound crates policy server).step (RoomFor crates policy server) idle moves)
    (hrun : exec (outbound crates policy server).step idle moves = some p) :
    (p.shared.queue.length : ℤ) ≤ server.maxPending := by
  have hidle : (slots policy idle : ℤ) ≤ server.maxPending := by
    have hpos := resolveOutboundMaxPending_pos overrideLimit envValue
    have hzero : slots policy idle = 0 := rfl
    omega
  have hslots : (slots policy p : ℤ) ≤ server.maxPending :=
    exec_invariant (fun p => (slots policy p : ℤ) ≤ server.maxPending)
      (fun _ _ _ hs hr h => slots_step hs hr h) hidle hroom hrun
  have hle : p.shared.queue.length ≤ slots policy p := Nat.le_add_right _ _
  omega

end

/-! ## Two requests and one slot -/

section Example

def boundCrates : Crates where
  ulidFromString := exampleUlidFromString
  toString _ := rs "null"
  fromStr _ := some .null

def boundPolicy : OutboundRetryPolicy where
  retryDelayMs _ := 1000
  maxAttempts := 30
  maxAgeMs := 86400000

/-- A server with a queue of one row. -/
def boundServer : RuntimeServerState where
  localAgentDid := none
  hasGroupMembersResolver := false
  hasRelaySender := true
  maxPending := resolveOutboundMaxPending (some 1) none

def boundBody : RValue :=
  Json.object rs
    [("toAgentDid", some (.str (rs "did:cdi:registry.example.com:agent:01HF7YAT00W6W7CM7N3W5FDXB0"))),
      ("payload", some .null)]

def boundEnv (frameId : String) : Env where
  nowMs := 1700000000000
  ts := rs "2023-11-14T22:13:20.000000000+00:00"
  frameId := rs frameId
  connected := true
  readOk := true
  writeOk := true
  members := none
  sendOk := true

/-- Both handlers check the capacity before one of them inserts its row. -/
def boundRace : List (Move (Input × Env) Env) :=
  [.start (.request boundBody, boundEnv "01HF7YAT00W6W7CM7N3W5FDXR0"),
    .start (.request boundBody, boundEnv "01HF7YAT00W6W7CM7N3W5FDXR1"),
    .resume 0 (boundEnv "01HF7YAT00W6W7CM7N3W5FDXR0"),
    .resume 1 (boundEnv "01HF7YAT00W6W7CM7N3W5FDXR1")]

theorem boundRace_rows : (exec (outbound boundCrates boundPolicy boundServer).step idle boundRace).map
    (fun p => p.shared.queue.length) = some 2 := by
  decide

/-- **Two requests fill a queue of one row with two.** -/
theorem not_outbound_bounded :
    ¬ ∀ (crates : Crates) (policy : OutboundRetryPolicy) (server : RuntimeServerState)
      (overrideLimit envValue : Option ℤ),
      server.maxPending = resolveOutboundMaxPending overrideLimit envValue →
      ∀ (moves : List (Move (Input × Env) Env)) (p : Pool Shared Call),
        exec (outbound crates policy server).step idle moves = some p →
        (p.shared.queue.length : ℤ) ≤ server.maxPending := by
  intro h
  obtain ⟨p, hrun, hrows⟩ := Option.map_eq_some_iff.mp boundRace_rows
  have hle := h boundCrates boundPolicy boundServer (some 1) none rfl boundRace p hrun
  rw [hrows] at hle
  exact absurd hle (by decide)

/-- The second request comes when the frame of the first has been sent. -/
def boundSequence : List (Move (Input × Env) Env) :=
  [.start (.request boundBody, boundEnv "01HF7YAT00W6W7CM7N3W5FDXR0"),
    .resume 0 (boundEnv "01HF7YAT00W6W7CM7N3W5FDXR0"), .resume 0 (boundEnv ""),
    .resume 0 (boundEnv ""), .resume 0 (boundEnv ""),
    .start (.request boundBody, boundEnv "01HF7YAT00W6W7CM7N3W5FDXR1"),
    .resume 1 (boundEnv "01HF7YAT00W6W7CM7N3W5FDXR1")]

theorem boundSequence_rows :
    (exec (outbound boundCrates boundPolicy boundServer).step idle boundSequence).map
      (fun p => (p.shared.queue.length, p.shared.sent.length)) = some (1, 1) := by
  decide

theorem boundSequence_bounded :
    ∃ p, exec (outbound boundCrates boundPolicy boundServer).step idle boundSequence = some p ∧
      (p.shared.queue.length : ℤ) ≤ boundServer.maxPending := by
  obtain ⟨p, hrun, _⟩ := Option.map_eq_some_iff.mp boundSequence_rows
  exact ⟨p, hrun, outbound_bounded boundCrates boundPolicy boundServer (some 1) none rfl
    (by decide) hrun⟩

end Example

end Clawdentity.Rust.Outbound
