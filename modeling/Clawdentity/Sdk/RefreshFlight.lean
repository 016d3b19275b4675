import Clawdentity.Js.Text
import Clawdentity.Lib.Interleave
import Clawdentity.Lib.JobQueue
import Clawdentity.Lib.Run
import Mathlib.Data.List.Nodup

/-!
# One refresh in flight

Any number of calls of one process that share a key. A call performs with the bundle that is
persisted and, where this fails, once more with the bundle of a refresh; the calls that fail while
a refresh is in flight share it. The code between two promises runs as a job of a queue: a promise
that settles puts the code that awaits it at the end of the queue. A bundle is persisted when
`persistAuth` succeeds, and `getAuth` reads the bundle at any time before it answers.

## Main definitions

* `State`, `step` — the calls, the flights, the queue and what an event does to them.
* `FreshTokens` — the registry issues no refresh token twice.
* `SingleFlight` — what is promised of every state.
* `refresh_single_flight`.
-/

namespace Clawdentity.RefreshFlight

open Js Lib.JobQueue Lib.Run

/-- A bundle, always with the token type `Bearer`. -/
structure AgentAuthBundle where
  accessToken : JsString
  accessExpiresAt : JsString
  refreshToken : JsString
  refreshExpiresAt : JsString
  deriving DecidableEq

/-- A call of `executeWithAgentAuthRefreshRetry`, by what it awaits. -/
inductive CallPhase
  | gettingAuth
  /-- `getAuth` has read and not answered. -/
  | readAuth (currentAuth : AgentAuthBundle)
  /-- `getAuth` has answered; the call is in the queue. -/
  | gotAuth (currentAuth : AgentAuthBundle)
  | performing (currentAuth : AgentAuthBundle)
  /-- `perform` has failed, with what `shouldRetry` says of the error; the call is in the queue. -/
  | performFailed (currentAuth : AgentAuthBundle) (shouldRetry : Bool)
  | refreshing (currentAuth : AgentAuthBundle) (flight : ℕ)
  | retrying (refreshedAuth : AgentAuthBundle)
  | settled
  deriving DecidableEq

/-- A call, with the bundles that it has performed with in their order. -/
structure Call where
  phase : CallPhase
  performed : List AgentAuthBundle
  deriving DecidableEq

/-- A flight of `runRefreshSingleFlight`, by what its `run` awaits. -/
inductive FlightPhase
  | gettingAuth
  | readAuth (latestAuth : AgentAuthBundle)
  /-- `getAuth` has answered; the flight is in the queue. -/
  | gotAuth (latestAuth : AgentAuthBundle)
  | refreshing (latestAuth : AgentAuthBundle)
  /-- The registry has issued the bundle; the flight is in the queue. -/
  | refreshed (nextAuth : AgentAuthBundle)
  | persisting (nextAuth : AgentAuthBundle)
  /-- The bundle is persisted; the flight is in the queue. -/
  | persisted (nextAuth : AgentAuthBundle)
  /-- `run` has returned; its `finally` is in the queue. -/
  | returned (nextAuth : AgentAuthBundle)
  | finished (nextAuth : AgentAuthBundle)
  deriving DecidableEq

/-- The async code that a job goes on with. -/
inductive Job
  | call (i : ℕ)
  | flight (f : ℕ)
  deriving DecidableEq

/-- The state, with the bundles that were issued in their order, and the refresh tokens that were
passed to `refreshAuth`. -/
structure State where
  persisted : AgentAuthBundle
  issued : List AgentAuthBundle
  passed : List JsString
  calls : List Call
  flights : List FlightPhase
  /-- The entry of the key. -/
  refreshSingleFlights : Option ℕ
  jobs : List Job
  deriving DecidableEq

/-- The state before the first call. -/
def State.initial (auth : AgentAuthBundle) : State where
  persisted := auth
  issued := [auth]
  passed := []
  calls := []
  flights := []
  refreshSingleFlights := none
  jobs := []

inductive Event
  | start
  | getAuthReads (job : Job)
  | getAuthResolves (job : Job)
  | performResolves (i : ℕ)
  | performRejects (i : ℕ) (shouldRetry : Bool)
  | refreshAuthResolves (f : ℕ) (nextAuth : AgentAuthBundle)
  | persistAuthResolves (f : ℕ)
  /-- The promise of the flight is fulfilled. -/
  | flightResolves (i : ℕ)
  | runJob
  deriving DecidableEq

/-! ## The steps -/

/-- The flight of the key: the one under way, or a new one, which calls `getAuth`. -/
def runRefreshSingleFlight (s : State) : State × ℕ :=
  match s.refreshSingleFlights with
  | some existing => (s, existing)
  | none =>
      ({ s with
          flights := s.flights ++ [.gettingAuth]
          refreshSingleFlights := some s.flights.length }, s.flights.length)

def State.setCall (s : State) (i : ℕ) (c : Call) : State := { s with calls := s.calls.set i c }

def State.setFlight (s : State) (f : ℕ) (phase : FlightPhase) : State :=
  { s with flights := s.flights.set f phase }

/-- Put a job at the end of the queue. -/
def State.enqueue (s : State) (job : Job) : State := { s with jobs := s.jobs ++ [job] }

/-- The code of a call after what it awaited. -/
def resumeCall (s : State) (i : ℕ) (c : Call) : State :=
  match c.phase with
  | .gotAuth currentAuth =>
      s.setCall i ⟨.performing currentAuth, c.performed ++ [currentAuth]⟩
  | .performFailed _ false => s.setCall i { c with phase := .settled }
  | .performFailed currentAuth true =>
      let (s, flight) := runRefreshSingleFlight s
      s.setCall i { c with phase := .refreshing currentAuth flight }
  | _ => s

/-- The code of a flight after what it awaited. -/
def resumeFlight (s : State) (f : ℕ) : FlightPhase → State
  | .gotAuth latestAuth =>
      { s.setFlight f (.refreshing latestAuth) with
        passed := s.passed ++ [latestAuth.refreshToken] }
  | .refreshed nextAuth => s.setFlight f (.persisting nextAuth)
  | .persisted nextAuth => (s.setFlight f (.returned nextAuth)).enqueue (.flight f)
  | .returned nextAuth =>
      { s.setFlight f (.finished nextAuth) with
        refreshSingleFlights :=
          if s.refreshSingleFlights = some f then none else s.refreshSingleFlights }
  | _ => s

/-- A promise that a call awaits makes progress. -/
def stepCall (s : State) (i : ℕ) (c : Call) : Event → Option State
  | .getAuthReads _ =>
      match c.phase with
      | .gettingAuth => some (s.setCall i { c with phase := .readAuth s.persisted })
      | _ => none
  | .getAuthResolves _ =>
      match c.phase with
      | .readAuth auth => some ((s.setCall i { c with phase := .gotAuth auth }).enqueue (.call i))
      | _ => none
  | .performResolves _ =>
      match c.phase with
      | .performing _ | .retrying _ => some (s.setCall i { c with phase := .settled })
      | _ => none
  | .performRejects _ shouldRetry =>
      match c.phase with
      | .performing auth =>
          some ((s.setCall i { c with phase := .performFailed auth shouldRetry }).enqueue (.call i))
      | .retrying _ => some (s.setCall i { c with phase := .settled })
      | _ => none
  | .flightResolves _ =>
      match c.phase with
      | .refreshing _ f =>
          match s.flights[f]? with
          | some (.finished nextAuth) =>
              some (s.setCall i ⟨.retrying nextAuth, c.performed ++ [nextAuth]⟩)
          | _ => none
      | _ => none
  | _ => none

/-- A promise that a flight awaits makes progress. -/
def stepFlight (s : State) (f : ℕ) (phase : FlightPhase) : Event → Option State
  | .getAuthReads _ =>
      match phase with
      | .gettingAuth => some (s.setFlight f (.readAuth s.persisted))
      | _ => none
  | .getAuthResolves _ =>
      match phase with
      | .readAuth auth => some ((s.setFlight f (.gotAuth auth)).enqueue (.flight f))
      | _ => none
  | .refreshAuthResolves _ nextAuth =>
      match phase with
      | .refreshing _ =>
          some { (s.setFlight f (.refreshed nextAuth)).enqueue (.flight f) with
            issued := s.issued ++ [nextAuth] }
      | _ => none
  | .persistAuthResolves _ =>
      match phase with
      | .persisting nextAuth =>
          some { (s.setFlight f (.persisted nextAuth)).enqueue (.flight f) with
            persisted := nextAuth }
      | _ => none
  | _ => none

def step (s : State) : Event → Option State
  | .start => some { s with calls := s.calls ++ [⟨.gettingAuth, []⟩] }
  | .runJob =>
      match s.jobs with
      | [] => none
      | .call i :: jobs => s.calls[i]?.map fun c => resumeCall { s with jobs } i c
      | .flight f :: jobs => s.flights[f]?.map fun phase => resumeFlight { s with jobs } f phase
  | .getAuthReads (.call i) =>
      s.calls[i]?.bind fun c => stepCall s i c (.getAuthReads (.call i))
  | .getAuthReads (.flight f) =>
      s.flights[f]?.bind fun phase => stepFlight s f phase (.getAuthReads (.flight f))
  | .getAuthResolves (.call i) =>
      s.calls[i]?.bind fun c => stepCall s i c (.getAuthResolves (.call i))
  | .getAuthResolves (.flight f) =>
      s.flights[f]?.bind fun phase => stepFlight s f phase (.getAuthResolves (.flight f))
  | .performResolves i => s.calls[i]?.bind fun c => stepCall s i c (.performResolves i)
  | .performRejects i shouldRetry =>
      s.calls[i]?.bind fun c => stepCall s i c (.performRejects i shouldRetry)
  | .refreshAuthResolves f nextAuth =>
      s.flights[f]?.bind fun phase => stepFlight s f phase (.refreshAuthResolves f nextAuth)
  | .persistAuthResolves f =>
      s.flights[f]?.bind fun phase => stepFlight s f phase (.persistAuthResolves f)
  | .flightResolves i => s.calls[i]?.bind fun c => stepCall s i c (.flightResolves i)

/-! ## What is promised -/

/-- The registry issues no refresh token twice. -/
def FreshTokens (s : State) : Event → Prop
  | .refreshAuthResolves _ nextAuth =>
      nextAuth.refreshToken ∉ s.issued.map AgentAuthBundle.refreshToken
  | _ => True

instance (s : State) : ∀ e, Decidable (FreshTokens s e)
  | .refreshAuthResolves _ _ => inferInstanceAs (Decidable (_ ∉ _))
  | .start | .getAuthReads _ | .getAuthResolves _ | .performResolves _ | .performRejects _ _
  | .persistAuthResolves _ | .flightResolves _ | .runJob => isTrue trivial

/-- The second bundle was issued after the first. -/
def State.IssuedAfter (s : State) (earlier later : AgentAuthBundle) : Prop :=
  [earlier, later].Sublist s.issued

/-- No refresh token is used twice; a call performs at most twice, the second time with a bundle
issued after that of the first. -/
structure SingleFlight (s : State) : Prop where
  issued : s.issued.Nodup
  passed : s.passed.Nodup
  twice : ∀ c ∈ s.calls, c.performed.length ≤ 2
  retries : ∀ c ∈ s.calls, ∀ failed retried, c.performed = [failed, retried] →
    s.IssuedAfter failed retried

/-! ## The invariant -/

/-- The call is in the queue, once. -/
def CallPhase.queued : CallPhase → Bool
  | .gotAuth _ | .performFailed _ _ => true
  | _ => false

/-- The bundle that the call has got and performs with at most once more. -/
def CallPhase.auth? : CallPhase → Option AgentAuthBundle
  | .readAuth auth | .gotAuth auth | .performing auth | .performFailed auth _ => some auth
  | _ => none

/-- The bundle that the call performs or has failed with. -/
def CallPhase.performs? : CallPhase → Option AgentAuthBundle
  | .performing auth | .performFailed auth _ => some auth
  | _ => none

/-- The bundle that the call has failed with. -/
def CallPhase.failed? : CallPhase → Option AgentAuthBundle
  | .performFailed auth _ => some auth
  | _ => none

/-- The bundle that the flight ends with, once it was issued. -/
def FlightPhase.next? : FlightPhase → Option AgentAuthBundle
  | .refreshed next | .persisting next | .persisted next | .returned next | .finished next =>
      some next
  | _ => none

/-- The bundles of a call were issued, and it retries with one that is issued later. -/
def CallOk (issued : List AgentAuthBundle) (flights : List FlightPhase) (c : Call) : Prop :=
  match c.phase with
  | .gettingAuth => c.performed = []
  | .readAuth auth | .gotAuth auth => c.performed = [] ∧ auth ∈ issued
  | .performing auth | .performFailed auth _ => c.performed = [auth] ∧ auth ∈ issued
  | .refreshing auth f => c.performed = [auth] ∧ auth ∈ issued ∧
      ∃ phase, flights[f]? = some phase ∧ ∀ next ∈ phase.next?, [auth, next].Sublist issued
  | .retrying _ | .settled => c.performed.length ≤ 2 ∧
      ∀ failed retried, c.performed = [failed, retried] → [failed, retried].Sublist issued

/-- The call holds no other bundles than these. -/
def HoldsIn (older : List AgentAuthBundle) (c : Call) : Prop := ∀ auth ∈ c.phase.auth?, auth ∈ older

/-- It performs or has failed with no other bundles than these. -/
def PerformsIn (older : List AgentAuthBundle) (c : Call) : Prop :=
  ∀ auth ∈ c.phase.performs?, auth ∈ older

/-- It has failed with no other bundles than these. -/
def FailedIn (older : List AgentAuthBundle) (c : Call) : Prop :=
  ∀ auth ∈ c.phase.failed?, auth ∈ older

/-- A job that goes on with a call goes on with one that has the property. -/
def OfCall (calls : List Call) (P : Call → Prop) (job : Job) : Prop :=
  ∀ i c, job = .call i → calls[i]? = some c → P c

/-- The bundle of a flight under way cannot have failed: until it is persisted no call holds it,
and afterwards the flight ends before a call that holds it can fail. -/
def Unseen (calls : List Call) (jobs : List Job) (f : ℕ) (older : List AgentAuthBundle) :
    FlightPhase → Prop
  | .refreshed _ | .persisting _ => ∀ c ∈ calls, HoldsIn older c
  | .persisted _ => (∀ c ∈ calls, PerformsIn older c) ∧
      RunsAfter (.flight f) (OfCall calls (HoldsIn older)) jobs
  | .returned _ => RunsAfter (.flight f) (OfCall calls (FailedIn older)) jobs
  | _ => True

/-- The store beside a flight under way; the refresh tokens before the latest were used. -/
def StoreAt (persisted : AgentAuthBundle) (passed : List JsString) (older : List AgentAuthBundle)
    (latest : AgentAuthBundle) : FlightPhase → Prop
  | .gettingAuth => persisted = latest ∧ passed = older.map AgentAuthBundle.refreshToken
  | .readAuth auth | .gotAuth auth =>
      persisted = latest ∧ passed = older.map AgentAuthBundle.refreshToken ∧ auth = latest
  | .refreshing auth =>
      persisted = latest ∧ passed = (older ++ [latest]).map AgentAuthBundle.refreshToken ∧
        auth = latest
  | .refreshed next | .persisting next =>
      persisted ∈ older ∧ passed = older.map AgentAuthBundle.refreshToken ∧ next = latest
  | .persisted next | .returned next =>
      persisted = latest ∧ passed = older.map AgentAuthBundle.refreshToken ∧ next = latest
  | .finished _ => False

/-- The flight of the key, if any, and the store beside it. -/
def KeyOk (s : State) (older : List AgentAuthBundle) (latest : AgentAuthBundle) : Prop :=
  match s.refreshSingleFlights with
  | none => s.persisted = latest ∧ s.passed = older.map AgentAuthBundle.refreshToken
  | some f => ∃ phase, s.flights[f]? = some phase ∧
      StoreAt s.persisted s.passed older latest phase ∧ Unseen s.calls s.jobs f older phase

/-- What holds of every state of a run. -/
structure Inv (s : State) : Prop where
  tokens : (s.issued.map AgentAuthBundle.refreshToken).Nodup
  jobs : ∀ i, s.jobs.count (.call i) ≤ if s.calls[i]?.any (·.phase.queued) then 1 else 0
  live : ∀ f phase, s.flights[f]? = some phase →
    s.refreshSingleFlights = some f ∨ ∃ next, phase = .finished next
  calls : ∀ c ∈ s.calls, CallOk s.issued s.flights c
  key : ∃ older latest, s.issued = older ++ [latest] ∧ KeyOk s older latest

theorem inv_initial (auth : AgentAuthBundle) : Inv (.initial auth) where
  tokens := List.nodup_singleton _
  jobs := by simp [State.initial]
  live := by simp [State.initial]
  calls := by simp [State.initial]
  key := ⟨[], auth, rfl, rfl, rfl⟩

/-! ## The calls -/

section
variable {s : State} {i f : ℕ} {c c' : Call} {jobs : List Job} {older : List AgentAuthBundle}
  {latest auth : AgentAuthBundle} {phase : FlightPhase} {P Q : Call → Prop}

theorem HoldsIn.performsIn (h : HoldsIn older c) : PerformsIn older c := by
  intro auth hauth
  refine h auth ?_
  cases hphase : c.phase <;> rw [hphase] at hauth <;> first | exact hauth | cases hauth

theorem PerformsIn.failedIn (h : PerformsIn older c) : FailedIn older c := by
  intro auth hauth
  refine h auth ?_
  cases hphase : c.phase <;> rw [hphase] at hauth <;> first | exact hauth | cases hauth

theorem ofCall_of_forall (h : ∀ c ∈ s.calls, P c) (job : Job) : OfCall s.calls P job :=
  fun _ c _ hc => h c (List.mem_of_getElem? hc)

theorem ofCall_append (hc : P c) {job : Job} (h : OfCall s.calls P job) :
    OfCall (s.calls ++ [c]) P job := by
  intro i d hjob hd
  obtain hd | rfl := Lib.Interleave.getElem?_or_eq_of_append hd
  · exact h i d hjob hd
  · exact hc

theorem ofCall_set {job : Job} (hjob : job ≠ .call i) (h : OfCall s.calls P job) :
    OfCall (s.calls.set i c') P job := by
  rintro j d rfl hd
  rw [List.getElem?_set_ne (by rintro rfl; exact hjob rfl)] at hd
  exact h j d rfl hd

/-- A property of all calls, after one of them has changed. -/
theorem forall_set (h : ∀ c ∈ s.calls, P c) (hc : P c') : ∀ c ∈ s.calls.set i c', P c := by
  intro d hd
  obtain hd | rfl := List.mem_or_eq_of_mem_set hd
  · exact h d hd
  · exact hc

/-- The bundles of a call were issued. -/
theorem CallOk.holdsIn {issued : List AgentAuthBundle} {flights : List FlightPhase}
    (h : CallOk issued flights c) : HoldsIn issued c := by
  intro auth hauth
  cases hphase : c.phase <;> simp only [CallOk, hphase] at h <;>
    simp only [CallPhase.auth?, hphase, Option.mem_def, Option.some.injEq, reduceCtorEq]
      at hauth <;>
    exact hauth ▸ h.2

theorem Inv.notMem_jobs (h : Inv s) (hc : s.calls[i]? = some c) (hidle : c.phase.queued = false) :
    Job.call i ∉ s.jobs := by
  have hcount := h.jobs i
  simp only [hc, Option.any_some, hidle, Bool.false_eq_true, if_false, Nat.le_zero] at hcount
  exact List.count_eq_zero.mp hcount

/-- The call of the next job was in the queue, once. -/
theorem Inv.head_call (h : Inv s) (hjobs : s.jobs = .call i :: jobs)
    (hc : s.calls[i]? = some c) : c.phase.queued = true ∧ Job.call i ∉ jobs := by
  have hcount := h.jobs i
  rw [hjobs, List.count_cons_self, hc, Option.any_some] at hcount
  cases hqueued : c.phase.queued with
  | false => simp [hqueued] at hcount
  | true =>
      rw [hqueued, if_pos rfl] at hcount
      exact ⟨rfl, List.count_eq_zero.mp (by omega)⟩

variable (c') in
/-- The jobs after a call has changed and was put into the queue, if it is to be. -/
theorem count_setCall (hc : s.calls[i]? = some c) (hnot : Job.call i ∉ jobs)
    (hjobs : ∀ j, j ≠ i → jobs.count (.call j) ≤ if s.calls[j]?.any (·.phase.queued) then 1 else 0)
    (j : ℕ) :
    (jobs ++ if c'.phase.queued then [Job.call i] else []).count (.call j) ≤
      if (s.calls.set i c')[j]?.any (·.phase.queued) then 1 else 0 := by
  obtain ⟨hi, _⟩ := List.getElem?_eq_some_iff.mp hc
  by_cases hji : j = i
  · subst hji
    rw [List.count_append, List.count_eq_zero.mpr hnot, List.getElem?_set_self hi, Option.any_some]
    split <;> simp
  · rw [List.getElem?_set_ne (Ne.symm hji), List.count_append]
    have hother : (if c'.phase.queued then [Job.call i] else []).count (.call j) = 0 := by
      split <;> simp [Ne.symm hji]
    rw [hother]
    exact hjobs j hji

/-- **A call goes on** without its job: it gets no other bundle than the persisted one, and
performs with none that it did not perform with. -/
theorem Inv.setCall (h : Inv s) (hc : s.calls[i]? = some c) (hidle : c.phase.queued = false)
    (hok : CallOk s.issued s.flights c')
    (hholds : ∀ older, s.persisted ∈ older → HoldsIn older c → HoldsIn older c')
    (hperforms : ∀ older, PerformsIn older c → PerformsIn older c') :
    Inv { s.setCall i c' with
      jobs := s.jobs ++ if c'.phase.queued then [.call i] else [] } where
  tokens := h.tokens
  jobs := count_setCall c' hc (h.notMem_jobs hc hidle) fun j _ => h.jobs j
  live := h.live
  calls := forall_set h.calls hok
  key := by
    obtain ⟨older, latest, hissued, hkey⟩ := h.key
    refine ⟨older, latest, hissued, ?_⟩
    have hmem := List.mem_of_getElem? hc
    have hwaits : ∀ {f P}, RunsAfter (.flight f) (OfCall s.calls P) s.jobs →
        RunsAfter (.flight f) (OfCall (s.calls.set i c') P)
          (s.jobs ++ if c'.phase.queued then [.call i] else []) := by
      intro f P hafter
      refine (hafter.mono fun job hjob => ofCall_set ?_).append _
      rintro rfl
      exact h.notMem_jobs hc hidle hjob
    cases hentry : s.refreshSingleFlights with
    | none =>
        simp only [KeyOk, hentry, State.setCall] at hkey ⊢
        exact hkey
    | some f =>
        simp only [KeyOk, hentry, State.setCall] at hkey ⊢
        obtain ⟨phase, hphase, hstore, hunseen⟩ := hkey
        refine ⟨phase, hphase, hstore, ?_⟩
        cases phase with
        | gettingAuth | readAuth | gotAuth | refreshing | finished => trivial
        | refreshed | persisting =>
            exact forall_set hunseen (hholds older hstore.1 (hunseen c hmem))
        | persisted =>
            exact ⟨forall_set hunseen.1 (hperforms older (hunseen.1 c hmem)), hwaits hunseen.2⟩
        | returned => exact hwaits hunseen

/-- **A call goes on** with its job. -/
theorem Inv.popCall (h : Inv s) (hjobs : s.jobs = .call i :: jobs) (hc : s.calls[i]? = some c)
    (hidle : c'.phase.queued = false) (hok : CallOk s.issued s.flights c')
    (hholds : ∀ older, HoldsIn older c → HoldsIn older c') :
    Inv ({ s with jobs }.setCall i c') where
  tokens := h.tokens
  jobs := by
    have hcount := count_setCall c' hc (h.head_call hjobs hc).2 fun j hj => ?_
    · simp only [hidle, Bool.false_eq_true, if_false, List.append_nil] at hcount
      exact hcount
    · have hcount := h.jobs j
      rwa [hjobs, List.count_cons_of_ne (by simpa using Ne.symm hj)] at hcount
  live := h.live
  calls := forall_set h.calls hok
  key := by
    obtain ⟨older, latest, hissued, hkey⟩ := h.key
    refine ⟨older, latest, hissued, ?_⟩
    have hmem := List.mem_of_getElem? hc
    have hwaits : ∀ {f P}, RunsAfter (.flight f) (OfCall s.calls P) s.jobs →
        P c ∧ RunsAfter (.flight f) (OfCall (s.calls.set i c') P) jobs := by
      intro f P hafter
      rw [hjobs] at hafter
      obtain heq | ⟨hhead, hafter⟩ := hafter.pop
      · cases heq
      · refine ⟨hhead i c rfl hc, hafter.mono fun job hjob => ofCall_set ?_⟩
        rintro rfl
        exact (h.head_call hjobs hc).2 hjob
    cases hentry : s.refreshSingleFlights with
    | none =>
        simp only [KeyOk, hentry, State.setCall] at hkey ⊢
        exact hkey
    | some f =>
        simp only [KeyOk, hentry, State.setCall] at hkey ⊢
        obtain ⟨phase, hphase, hstore, hunseen⟩ := hkey
        refine ⟨phase, hphase, hstore, ?_⟩
        cases phase with
        | gettingAuth | readAuth | gotAuth | refreshing | finished => trivial
        | refreshed | persisting => exact forall_set hunseen (hholds older (hunseen c hmem))
        | persisted =>
            obtain ⟨hheld, hafter⟩ := hwaits hunseen.2
            exact ⟨forall_set hunseen.1 (hholds older hheld).performsIn, hafter⟩
        | returned => exact (hwaits hunseen).2

/-- **The flight that a failed call joins** ends with a bundle that is issued after that of the
call. -/
theorem Inv.later_flight (h : Inv s) (hjobs : s.jobs = .call i :: jobs)
    (hc : s.calls[i]? = some c) {retry : Bool} (hphase : c.phase = .performFailed auth retry)
    (hentry : s.refreshSingleFlights = some f) :
    ∃ phase, s.flights[f]? = some phase ∧
      ∀ next ∈ phase.next?, [auth, next].Sublist s.issued := by
  obtain ⟨older, latest, hissued, hkey⟩ := h.key
  simp only [KeyOk, hentry] at hkey
  obtain ⟨phase, hf, hstore, hunseen⟩ := hkey
  have hmem := List.mem_of_getElem? hc
  have hlater : FailedIn older c → [auth, latest].Sublist s.issued := by
    intro hold
    rw [hissued]
    have hmem : auth ∈ older := hold auth (by rw [hphase]; rfl)
    exact (List.singleton_sublist.mpr hmem).append (List.Sublist.refl [latest])
  refine ⟨phase, hf, ?_⟩
  cases phase with
  | gettingAuth | readAuth | gotAuth | refreshing => rintro next ⟨⟩
  | refreshed | persisting =>
      rintro next ⟨⟩
      obtain ⟨_, _, rfl⟩ := hstore
      exact hlater (hunseen c hmem).performsIn.failedIn
  | persisted =>
      rintro next ⟨⟩
      obtain ⟨_, _, rfl⟩ := hstore
      exact hlater (hunseen.1 c hmem).failedIn
  | returned =>
      rintro next ⟨⟩
      obtain ⟨_, _, rfl⟩ := hstore
      rw [Unseen, hjobs] at hunseen
      obtain heq | ⟨hhead, _⟩ := hunseen.pop
      · cases heq
      · exact hlater (hhead i c rfl hc)
  | finished => exact hstore.elim

/-! ## The flights -/

/-- A flight under way is the one of the key. -/
theorem Inv.of_flight (h : Inv s) (hf : s.flights[f]? = some phase)
    (hphase : ∀ next, phase ≠ .finished next) :
    s.refreshSingleFlights = some f ∧ ∃ older latest, s.issued = older ++ [latest] ∧
      StoreAt s.persisted s.passed older latest phase ∧ Unseen s.calls s.jobs f older phase := by
  obtain hentry | ⟨next, rfl⟩ := h.live f phase hf
  · obtain ⟨older, latest, hissued, hkey⟩ := h.key
    simp only [KeyOk, hentry] at hkey
    obtain ⟨phase', hf', hstore, hunseen⟩ := hkey
    cases hf.symm.trans hf'
    exact ⟨hentry, older, latest, hissued, hstore, hunseen⟩
  · exact absurd rfl (hphase next)

/-- The bundles of a call, after a flight has gone on. -/
theorem CallOk.setFlight {issued new : List AgentAuthBundle} {flights : List FlightPhase}
    {phase' : FlightPhase} (h : CallOk issued flights c) (hf : flights[f]? = some phase)
    (hnext : ∀ next ∈ phase'.next?, phase.next? = some next ∧ new = [] ∨ new = [next]) :
    CallOk (issued ++ new) (flights.set f phase') c := by
  have hgrows : ∀ {l : List AgentAuthBundle}, l.Sublist issued → l.Sublist (issued ++ new) :=
    fun hl => hl.trans (List.sublist_append_left _ _)
  unfold CallOk at h ⊢
  split at h
  · exact h
  · exact ⟨h.1, List.mem_append_left _ h.2⟩
  · exact ⟨h.1, List.mem_append_left _ h.2⟩
  · exact ⟨h.1, List.mem_append_left _ h.2⟩
  · exact ⟨h.1, List.mem_append_left _ h.2⟩
  · rename_i auth g _
    obtain ⟨hperformed, hauth, phase₀, hg, hlater⟩ := h
    refine ⟨hperformed, List.mem_append_left _ hauth, ?_⟩
    by_cases hgf : g = f
    · subst hgf
      cases hf.symm.trans hg
      obtain ⟨hlt, _⟩ := List.getElem?_eq_some_iff.mp hf
      refine ⟨phase', List.getElem?_set_self hlt, fun next hmem => ?_⟩
      obtain ⟨hold, rfl⟩ | rfl := hnext next hmem
      · exact hgrows (hlater next hold)
      · exact (List.singleton_sublist.mpr hauth).append (List.Sublist.refl [next])
    · exact ⟨phase₀, by rw [List.getElem?_set_ne (Ne.symm hgf), hg],
        fun next hmem => hgrows (hlater next hmem)⟩
  · exact ⟨h.1, fun failed retried hperformed => hgrows (h.2 failed retried hperformed)⟩
  · exact ⟨h.1, fun failed retried hperformed => hgrows (h.2 failed retried hperformed)⟩

/-- **A flight goes on**: what is left to show is the store beside it. -/
theorem Inv.setFlight (h : Inv s) {t : State} (new : List AgentAuthBundle) (phase' : FlightPhase)
    (hf : s.flights[f]? = some phase) (hphase : ∀ next, phase ≠ .finished next)
    (hcalls : t.calls = s.calls) (hflights : t.flights = s.flights.set f phase')
    (hissued : t.issued = s.issued ++ new)
    (htokens : (t.issued.map AgentAuthBundle.refreshToken).Nodup)
    (hnext : ∀ next ∈ phase'.next?, phase.next? = some next ∧ new = [] ∨ new = [next])
    (hlive : t.refreshSingleFlights = some f ∨ ∃ next, phase' = .finished next)
    (hjobs : ∀ i, t.jobs.count (.call i) ≤ s.jobs.count (.call i))
    (hkey : ∃ older latest, t.issued = older ++ [latest] ∧ KeyOk t older latest) : Inv t where
  tokens := htokens
  jobs i := by
    rw [hcalls]
    exact (hjobs i).trans (h.jobs i)
  live := by
    intro g phase₀ hg
    rw [hflights] at hg
    by_cases hgf : g = f
    · subst hgf
      obtain ⟨hlt, _⟩ := List.getElem?_eq_some_iff.mp hf
      rw [List.getElem?_set_self hlt, Option.some.injEq] at hg
      subst hg
      exact hlive
    · rw [List.getElem?_set_ne (Ne.symm hgf)] at hg
      obtain hentry | hfinished := h.live g phase₀ hg
      · rw [(h.of_flight hf hphase).1, Option.some.injEq] at hentry
        exact absurd hentry.symm hgf
      · exact .inr hfinished
  calls := by
    rw [hcalls, hissued, hflights]
    exact fun c hc => (h.calls c hc).setFlight hf hnext
  key := hkey

/-! ## The steps keep the invariant -/

theorem inv_start (h : Inv s) : Inv { s with calls := s.calls ++ [⟨.gettingAuth, []⟩] } where
  tokens := h.tokens
  jobs := by
    intro i
    have hcount := h.jobs i
    by_cases hi : i < s.calls.length
    · rwa [List.getElem?_append_left hi]
    · rw [List.getElem?_eq_none (Nat.not_lt.mp hi)] at hcount
      exact hcount.trans (Nat.zero_le _)
  live := h.live
  calls := by
    intro c hc
    obtain hc | hc := List.mem_append.mp hc
    · exact h.calls c hc
    · rw [List.mem_singleton.mp hc]
      exact rfl
  key := by
    obtain ⟨older, latest, hissued, hkey⟩ := h.key
    refine ⟨older, latest, hissued, ?_⟩
    have hnew : HoldsIn older ⟨.gettingAuth, []⟩ := nofun
    have hall : ∀ {P : Call → Prop}, (∀ c ∈ s.calls, P c) → P ⟨.gettingAuth, []⟩ →
        ∀ c ∈ s.calls ++ [⟨.gettingAuth, []⟩], P c := by
      intro P hP hlast c hc
      obtain hc | hc := List.mem_append.mp hc
      · exact hP c hc
      · rwa [List.mem_singleton.mp hc]
    cases hentry : s.refreshSingleFlights with
    | none =>
        simp only [KeyOk, hentry] at hkey ⊢
        exact hkey
    | some f =>
        simp only [KeyOk, hentry] at hkey ⊢
        obtain ⟨phase, hphase, hstore, hunseen⟩ := hkey
        refine ⟨phase, hphase, hstore, ?_⟩
        cases phase with
        | gettingAuth | readAuth | gotAuth | refreshing | finished => trivial
        | refreshed | persisting => exact hall hunseen hnew
        | persisted =>
            exact ⟨hall hunseen.1 hnew.performsIn, hunseen.2.mono fun _ _ => ofCall_append hnew⟩
        | returned => exact hunseen.mono fun _ _ => ofCall_append hnew.performsIn.failedIn

/-- A new flight of the key. -/
theorem inv_newFlight (h : Inv s) (hentry : s.refreshSingleFlights = none) :
    Inv { s with
      flights := s.flights ++ [.gettingAuth]
      refreshSingleFlights := some s.flights.length } where
  tokens := h.tokens
  jobs := h.jobs
  live := by
    intro f phase hf
    by_cases hlt : f < s.flights.length
    · rw [List.getElem?_append_left hlt] at hf
      obtain hlive | hfinished := h.live f phase hf
      · rw [hentry] at hlive
        cases hlive
      · exact .inr hfinished
    · obtain ⟨hle, _⟩ := List.getElem?_eq_some_iff.mp hf
      rw [List.length_append, List.length_singleton] at hle
      exact .inl (congrArg some (by omega))
  calls := by
    intro c hc
    have hok := h.calls c hc
    unfold CallOk at hok ⊢
    split at hok
    · exact hok
    · exact hok
    · exact hok
    · exact hok
    · exact hok
    · obtain ⟨hperformed, hauth, phase, hf, hlater⟩ := hok
      obtain ⟨hlt, _⟩ := List.getElem?_eq_some_iff.mp hf
      exact ⟨hperformed, hauth, phase, by rw [List.getElem?_append_left hlt, hf], hlater⟩
    · exact hok
    · exact hok
  key := by
    obtain ⟨older, latest, hissued, hkey⟩ := h.key
    simp only [KeyOk, hentry] at hkey
    refine ⟨older, latest, hissued, ?_⟩
    simp only [KeyOk]
    exact ⟨.gettingAuth, by rw [List.getElem?_concat_length], hkey, trivial⟩

theorem inv_resumeCall (h : Inv s) (hjobs : s.jobs = .call i :: jobs)
    (hc : s.calls[i]? = some c) : Inv (resumeCall { s with jobs } i c) := by
  obtain ⟨hqueued, _⟩ := h.head_call hjobs hc
  have hok := h.calls c (List.mem_of_getElem? hc)
  unfold resumeCall
  split
  · rename_i currentAuth hphase
    simp only [CallOk, hphase] at hok
    refine h.popCall hjobs hc rfl ?_ fun older hold auth hauth => hold auth ?_
    · simp only [CallOk, hok.1, List.nil_append, true_and]
      exact hok.2
    · rw [hphase]
      exact hauth
  · rename_i currentAuth hphase
    simp only [CallOk, hphase] at hok
    refine h.popCall hjobs hc rfl ?_ fun older _ _ => nofun
    simp [CallOk, hok.1]
  · rename_i currentAuth hphase
    simp only [CallOk, hphase] at hok
    obtain hentry | ⟨f, hentry⟩ := Option.eq_none_or_eq_some s.refreshSingleFlights
    · have hflight : runRefreshSingleFlight { s with jobs } =
          ({ s with
              jobs
              flights := s.flights ++ [.gettingAuth]
              refreshSingleFlights := some s.flights.length }, s.flights.length) := by
        simp only [runRefreshSingleFlight, hentry]
      rw [hflight]
      refine (inv_newFlight h hentry).popCall hjobs hc rfl ?_ fun older _ _ => nofun
      exact ⟨hok.1, hok.2, .gettingAuth, List.getElem?_concat_length, nofun⟩
    · have hflight : runRefreshSingleFlight { s with jobs } = ({ s with jobs }, f) := by
        simp only [runRefreshSingleFlight, hentry]
      rw [hflight]
      refine h.popCall hjobs hc rfl ?_ fun older _ _ => nofun
      exact ⟨hok.1, hok.2, h.later_flight hjobs hc hphase hentry⟩
  · rename_i hgot hfailed hretried
    cases hphase : c.phase with
    | gotAuth auth => exact absurd hphase (hgot auth)
    | performFailed auth retry =>
        cases retry with
        | false => exact absurd hphase (hfailed auth)
        | true => exact absurd hphase (hretried auth)
    | _ => rw [hphase] at hqueued; cases hqueued

/-- The persisted bundle was issued. -/
theorem Inv.persisted_mem (h : Inv s) : s.persisted ∈ s.issued := by
  obtain ⟨older, latest, hissued, hkey⟩ := h.key
  have hlast : latest ∈ s.issued := by
    rw [hissued]
    exact List.mem_append_right _ List.mem_cons_self
  have hold : s.persisted ∈ older → s.persisted ∈ s.issued := by
    rw [hissued]
    exact List.mem_append_left _
  cases hentry : s.refreshSingleFlights with
  | none =>
      simp only [KeyOk, hentry] at hkey
      rwa [hkey.1]
  | some f =>
      simp only [KeyOk, hentry] at hkey
      obtain ⟨phase, _, hstore, _⟩ := hkey
      cases phase with
      | refreshed | persisting => exact hold hstore.1
      | finished => exact hstore.elim
      | _ => rwa [hstore.1]

/-- What the progress of a promise makes of the call that awaits it. -/
inductive CallStep (s : State) (c : Call) : Call → Prop
  | reads (h : c.phase = .gettingAuth) : CallStep s c { c with phase := .readAuth s.persisted }
  | gets (auth : AgentAuthBundle) (h : c.phase = .readAuth auth) :
      CallStep s c { c with phase := .gotAuth auth }
  | fails (auth : AgentAuthBundle) (retry : Bool) (h : c.phase = .performing auth) :
      CallStep s c { c with phase := .performFailed auth retry }
  | settles (auth : AgentAuthBundle) (h : c.phase = .performing auth ∨ c.phase = .retrying auth) :
      CallStep s c { c with phase := .settled }
  | retries (auth : AgentAuthBundle) (f : ℕ) (next : AgentAuthBundle)
      (h : c.phase = .refreshing auth f) (hf : s.flights[f]? = some (.finished next)) :
      CallStep s c ⟨.retrying next, c.performed ++ [next]⟩

theorem stepCall_cases {e : Event} {t : State} (h : stepCall s i c e = some t) :
    ∃ c', CallStep s c c' ∧
      t = { s.setCall i c' with
        jobs := s.jobs ++ if c'.phase.queued then [.call i] else [] } := by
  have hidle : ∀ c', c'.phase.queued = false → s.setCall i c' =
      { s.setCall i c' with jobs := s.jobs ++ if c'.phase.queued then [.call i] else [] } := by
    intro c' hqueued
    rw [hqueued, if_neg Bool.false_ne_true, List.append_nil]
    rfl
  unfold stepCall at h
  split at h
  · split at h <;> cases h
    exact ⟨_, .reads ‹_›, hidle _ rfl⟩
  · split at h <;> cases h
    exact ⟨_, .gets _ ‹_›, rfl⟩
  · split at h <;> cases h
    · exact ⟨_, .settles _ (.inl ‹_›), hidle _ rfl⟩
    · exact ⟨_, .settles _ (.inr ‹_›), hidle _ rfl⟩
  · split at h <;> cases h
    · exact ⟨_, .fails _ _ ‹_›, rfl⟩
    · exact ⟨_, .settles _ (.inr ‹_›), hidle _ rfl⟩
  · split at h
    · split at h <;> cases h
      exact ⟨_, .retries _ _ _ ‹_› ‹_›, hidle _ rfl⟩
    · cases h
  · cases h

theorem inv_callStep (h : Inv s) (hc : s.calls[i]? = some c) (hstep : CallStep s c c') :
    Inv { s.setCall i c' with
      jobs := s.jobs ++ if c'.phase.queued then [.call i] else [] } := by
  have hok := h.calls c (List.mem_of_getElem? hc)
  cases hstep with
  | reads hphase =>
      simp only [CallOk, hphase] at hok
      refine h.setCall hc (by rw [hphase]; rfl) ⟨hok, h.persisted_mem⟩ ?_ ?_
      · rintro older hmem _ auth ⟨⟩
        exact hmem
      · rintro older _ auth ⟨⟩
  | gets auth hphase =>
      simp only [CallOk, hphase] at hok
      refine h.setCall hc (by rw [hphase]; rfl) hok ?_ ?_
      · rintro older _ hold auth ⟨⟩
        exact hold auth (by rw [hphase]; rfl)
      · rintro older _ auth ⟨⟩
  | fails auth retry hphase =>
      simp only [CallOk, hphase] at hok
      refine h.setCall hc (by rw [hphase]; rfl) hok ?_ ?_
      · rintro older _ hold auth ⟨⟩
        exact hold auth (by rw [hphase]; rfl)
      · rintro older hold auth ⟨⟩
        exact hold auth (by rw [hphase]; rfl)
  | settles auth hphase =>
      refine h.setCall hc (by obtain hphase | hphase := hphase <;> rw [hphase] <;> rfl) ?_ ?_ ?_
      · obtain hphase | hphase := hphase
        · simp only [CallOk, hphase] at hok
          simp [CallOk, hok.1]
        · simp only [CallOk, hphase] at hok
          exact hok
      · rintro older _ _ auth ⟨⟩
      · rintro older _ auth ⟨⟩
  | retries auth f next hphase hf =>
      simp only [CallOk, hphase] at hok
      obtain ⟨hperformed, _, phase, hf', hlater⟩ := hok
      cases hf.symm.trans hf'
      refine h.setCall hc (by rw [hphase]; rfl) ?_ ?_ ?_
      · rw [hperformed]
        refine ⟨le_rfl, fun failed retried hpair => ?_⟩
        cases hpair
        exact hlater next rfl
      · rintro older _ _ auth ⟨⟩
      · rintro older _ auth ⟨⟩

theorem count_flight (jobs : List Job) (i : ℕ) :
    (jobs ++ [Job.flight f]).count (.call i) = jobs.count (.call i) := by
  simp

theorem inv_stepFlight {e : Event} {t : State} (h : Inv s) (hf : s.flights[f]? = some phase)
    (hfresh : FreshTokens s e) (hstep : stepFlight s f phase e = some t) : Inv t := by
  have htokens := h.tokens
  unfold stepFlight at hstep
  split at hstep
  · split at hstep <;> cases hstep
    obtain ⟨hentry, older, latest, hissued, ⟨hpersisted, hpassed⟩, _⟩ := h.of_flight hf nofun
    refine h.setFlight [] _ hf nofun rfl rfl (List.append_nil _).symm htokens nofun
      (.inl hentry) (fun _ => le_rfl) ⟨older, latest, hissued, ?_⟩
    obtain ⟨hlt, _⟩ := List.getElem?_eq_some_iff.mp hf
    simp only [KeyOk, State.setFlight, hentry]
    exact ⟨_, List.getElem?_set_self hlt, ⟨hpersisted, hpassed, hpersisted⟩, trivial⟩
  · split at hstep <;> cases hstep
    obtain ⟨hentry, older, latest, hissued, hstore, _⟩ := h.of_flight hf nofun
    refine h.setFlight [] _ hf nofun rfl rfl (List.append_nil _).symm htokens nofun
      (.inl hentry) (fun i => (count_flight s.jobs i).le) ⟨older, latest, hissued, ?_⟩
    obtain ⟨hlt, _⟩ := List.getElem?_eq_some_iff.mp hf
    simp only [KeyOk, State.setFlight, State.enqueue, hentry]
    exact ⟨_, List.getElem?_set_self hlt, hstore, trivial⟩
  · rename_i nextAuth
    split at hstep <;> cases hstep
    obtain ⟨hentry, older, latest, hissued, ⟨hpersisted, hpassed, _⟩, _⟩ := h.of_flight hf nofun
    refine h.setFlight [nextAuth] (.refreshed nextAuth) hf nofun rfl rfl rfl ?_
      ?_ (.inl hentry) (fun i => (count_flight s.jobs i).le)
      ⟨older ++ [latest], nextAuth, congrArg (· ++ [nextAuth]) hissued, ?_⟩
    · rw [List.map_append, List.map_singleton]
      refine List.nodup_append.mpr ⟨htokens, List.nodup_singleton _, fun token htoken other => ?_⟩
      rintro hother rfl
      rw [List.mem_singleton.mp hother] at htoken
      exact hfresh htoken
    · rintro next ⟨⟩
      exact .inr rfl
    · obtain ⟨hlt, _⟩ := List.getElem?_eq_some_iff.mp hf
      simp only [KeyOk, State.setFlight, State.enqueue, hentry]
      refine ⟨_, List.getElem?_set_self hlt, ⟨?_, hpassed, rfl⟩, fun c hc => ?_⟩
      · rw [hpersisted]
        exact List.mem_append_right _ List.mem_cons_self
      · rw [← hissued]
        exact (h.calls c hc).holdsIn
  · split at hstep <;> cases hstep
    obtain ⟨hentry, older, latest, hissued, ⟨hpersisted, hpassed, hnext⟩, hunseen⟩ :=
      h.of_flight hf nofun
    refine h.setFlight [] _ hf nofun rfl rfl (List.append_nil _).symm htokens
      (fun next hmem => .inl ⟨hmem, rfl⟩) (.inl hentry) (fun i => (count_flight s.jobs i).le)
      ⟨older, latest, hissued, ?_⟩
    obtain ⟨hlt, _⟩ := List.getElem?_eq_some_iff.mp hf
    simp only [KeyOk, State.setFlight, State.enqueue, hentry]
    exact ⟨_, List.getElem?_set_self hlt, ⟨hnext, hpassed, hnext⟩,
      fun c hc => (hunseen c hc).performsIn,
      runsAfter_concat fun job _ => ofCall_of_forall hunseen job⟩
  · cases hstep

/-- A flight that awaits a promise has no code to run. -/
theorem Inv.popFlight (h : Inv s) (hjobs : s.jobs = .flight f :: jobs)
    (hf : s.flights[f]? = some phase) (hpersisted : ∀ next, phase ≠ .persisted next)
    (hreturned : ∀ next, phase ≠ .returned next) : Inv { s with jobs } where
  tokens := h.tokens
  jobs i := by
    have hcount := h.jobs i
    rwa [hjobs, List.count_cons_of_ne (by simp)] at hcount
  live := h.live
  calls := h.calls
  key := by
    obtain ⟨older, latest, hissued, hkey⟩ := h.key
    refine ⟨older, latest, hissued, ?_⟩
    cases hentry : s.refreshSingleFlights with
    | none =>
        simp only [KeyOk, hentry] at hkey ⊢
        exact hkey
    | some g =>
        simp only [KeyOk, hentry] at hkey ⊢
        obtain ⟨phase', hg, hstore, hunseen⟩ := hkey
        refine ⟨phase', hg, hstore, ?_⟩
        have hwaits : ∀ {P}, (∃ next, phase' = .persisted next ∨ phase' = .returned next) →
            RunsAfter (.flight g) (OfCall s.calls P) s.jobs →
            RunsAfter (.flight g) (OfCall s.calls P) jobs := by
          rintro P ⟨next, hphase⟩ hafter
          rw [hjobs] at hafter
          obtain heq | ⟨_, hafter⟩ := hafter.pop
          · cases heq
            cases hf.symm.trans hg
            exact (hphase.elim (hpersisted next) (hreturned next)).elim
          · exact hafter
        cases phase' with
        | gettingAuth | readAuth | gotAuth | refreshing | finished => trivial
        | refreshed | persisting => exact hunseen
        | persisted next => exact ⟨hunseen.1, hwaits ⟨next, .inl rfl⟩ hunseen.2⟩
        | returned next => exact hwaits ⟨next, .inr rfl⟩ hunseen

theorem inv_resumeFlight (h : Inv s) (hjobs : s.jobs = .flight f :: jobs)
    (hf : s.flights[f]? = some phase) : Inv (resumeFlight { s with jobs } f phase) := by
  have htokens := h.tokens
  have hcount : ∀ i, jobs.count (Job.call i) ≤ s.jobs.count (.call i) := by
    intro i
    rw [hjobs, List.count_cons_of_ne (by simp)]
  obtain ⟨hlt, _⟩ := List.getElem?_eq_some_iff.mp hf
  cases phase with
  | gotAuth latestAuth =>
      obtain ⟨hentry, older, latest, hissued, ⟨hpersisted, hpassed, hauth⟩, _⟩ :=
        h.of_flight hf nofun
      refine h.setFlight [] _ hf nofun rfl rfl (List.append_nil _).symm htokens nofun
        (.inl hentry) hcount ⟨older, latest, hissued, ?_⟩
      simp only [KeyOk, resumeFlight, State.setFlight, hentry]
      refine ⟨_, List.getElem?_set_self hlt, ⟨hpersisted, ?_, hauth⟩, trivial⟩
      rw [hpassed, hauth, List.map_append, List.map_singleton]
  | refreshed nextAuth =>
      obtain ⟨hentry, older, latest, hissued, hstore, hunseen⟩ := h.of_flight hf nofun
      refine h.setFlight [] _ hf nofun rfl rfl (List.append_nil _).symm htokens
        (fun next hmem => .inl ⟨hmem, rfl⟩) (.inl hentry) hcount ⟨older, latest, hissued, ?_⟩
      simp only [KeyOk, resumeFlight, State.setFlight, hentry]
      exact ⟨_, List.getElem?_set_self hlt, hstore, hunseen⟩
  | persisted nextAuth =>
      obtain ⟨hentry, older, latest, hissued, hstore, hunseen⟩ := h.of_flight hf nofun
      refine h.setFlight [] _ hf nofun rfl rfl (List.append_nil _).symm htokens
        (fun next hmem => .inl ⟨hmem, rfl⟩) (.inl hentry)
        (fun i => (count_flight jobs i).le.trans (hcount i)) ⟨older, latest, hissued, ?_⟩
      simp only [KeyOk, resumeFlight, State.setFlight, State.enqueue, hentry]
      exact ⟨_, List.getElem?_set_self hlt, hstore,
        runsAfter_concat fun job _ => ofCall_of_forall (fun c hc => (hunseen.1 c hc).failedIn) job⟩
  | returned nextAuth =>
      obtain ⟨hentry, older, latest, hissued, ⟨hpersisted, hpassed, _⟩, _⟩ := h.of_flight hf nofun
      refine h.setFlight [] _ hf nofun rfl rfl (List.append_nil _).symm htokens
        (fun next hmem => .inl ⟨hmem, rfl⟩) (.inr ⟨nextAuth, rfl⟩) hcount
        ⟨older, latest, hissued, ?_⟩
      simp only [KeyOk, resumeFlight, State.setFlight, hentry, if_true]
      exact ⟨hpersisted, hpassed⟩
  | gettingAuth | readAuth | refreshing | persisting | finished =>
      exact h.popFlight hjobs hf nofun nofun

theorem inv_step {e : Event} {t : State} (h : Inv s) (hfresh : FreshTokens s e)
    (hstep : step s e = some t) : Inv t := by
  have hcall : ∀ {i e}, (s.calls[i]?.bind fun c => stepCall s i c e) = some t → Inv t := by
    intro i e hstep
    obtain ⟨c, hc, hstep⟩ := Option.bind_eq_some_iff.mp hstep
    obtain ⟨c', hadvance, rfl⟩ := stepCall_cases hstep
    exact inv_callStep h hc hadvance
  have hflight : ∀ {f e}, FreshTokens s e →
      (s.flights[f]?.bind fun phase => stepFlight s f phase e) = some t → Inv t := by
    intro f e hfresh hstep
    obtain ⟨phase, hf, hstep⟩ := Option.bind_eq_some_iff.mp hstep
    exact inv_stepFlight h hf hfresh hstep
  unfold step at hstep
  split at hstep
  · cases hstep
    exact inv_start h
  · split at hstep
    · cases hstep
    · obtain ⟨c, hc, rfl⟩ := Option.map_eq_some_iff.mp hstep
      exact inv_resumeCall h ‹_› hc
    · obtain ⟨phase, hf, rfl⟩ := Option.map_eq_some_iff.mp hstep
      exact inv_resumeFlight h ‹_› hf
  · exact hcall hstep
  · exact hflight hfresh hstep
  · exact hcall hstep
  · exact hflight hfresh hstep
  · exact hcall hstep
  · exact hcall hstep
  · exact hflight hfresh hstep
  · exact hflight hfresh hstep
  · exact hcall hstep

/-! ## Single flight -/

theorem CallOk.twice {issued : List AgentAuthBundle} {flights : List FlightPhase}
    (h : CallOk issued flights c) : c.performed.length ≤ 2 := by
  unfold CallOk at h
  split at h
  · simp [h]
  · simp [h.1]
  · simp [h.1]
  · simp [h.1]
  · simp [h.1]
  · simp [h.1]
  · exact h.1
  · exact h.1

theorem CallOk.retries {issued : List AgentAuthBundle} {flights : List FlightPhase}
    (h : CallOk issued flights c) {failed retried : AgentAuthBundle}
    (hperformed : c.performed = [failed, retried]) : [failed, retried].Sublist issued := by
  unfold CallOk at h
  split at h
  · simp [h] at hperformed
  · simp [h.1] at hperformed
  · simp [h.1] at hperformed
  · simp [h.1] at hperformed
  · simp [h.1] at hperformed
  · simp [h.1] at hperformed
  · exact h.2 failed retried hperformed
  · exact h.2 failed retried hperformed

/-- The tokens that were used are those of the bundles before the latest, or of all. -/
theorem Inv.passed_sublist (h : Inv s) :
    s.passed.Sublist (s.issued.map AgentAuthBundle.refreshToken) := by
  obtain ⟨older, latest, hissued, hkey⟩ := h.key
  have holder : (older.map AgentAuthBundle.refreshToken).Sublist
      (s.issued.map AgentAuthBundle.refreshToken) := by
    rw [hissued]
    exact (List.sublist_append_left _ _).map _
  cases hentry : s.refreshSingleFlights with
  | none =>
      simp only [KeyOk, hentry] at hkey
      rwa [hkey.2]
  | some f =>
      simp only [KeyOk, hentry] at hkey
      obtain ⟨phase, _, hstore, _⟩ := hkey
      cases phase with
      | gettingAuth => rwa [hstore.2]
      | refreshing => rw [hstore.2.1, hissued]
      | finished => exact hstore.elim
      | _ => rwa [hstore.2.1]

theorem Inv.singleFlight (h : Inv s) : SingleFlight s where
  issued := h.tokens.of_map _
  passed := h.passed_sublist.nodup h.tokens
  twice c hc := (h.calls c hc).twice
  retries c hc _ _ hperformed := (h.calls c hc).retries hperformed

end

section Example

def exampleAuth (n : UInt16) : AgentAuthBundle where
  accessToken := js "clw_agt_" ++ [n]
  accessExpiresAt := js "2026-01-01T00:00:00.000Z"
  refreshToken := js "clw_rft_" ++ [n]
  refreshExpiresAt := js "2026-02-01T00:00:00.000Z"

/-- A flight runs, from the answer of its `getAuth` to its end. -/
def exampleFlight (f : ℕ) (next : AgentAuthBundle) : List Event :=
  [.getAuthReads (.flight f), .getAuthResolves (.flight f), .runJob, .refreshAuthResolves f next,
    .runJob, .persistAuthResolves f, .runJob, .runJob]

/-- Three calls perform with one bundle; two fail while a flight is under way, and one after its
end. -/
def exampleEvents : List Event :=
  [.start, .start, .start, .getAuthReads (.call 0), .getAuthReads (.call 1),
      .getAuthReads (.call 2), .getAuthResolves (.call 0), .getAuthResolves (.call 1),
      .getAuthResolves (.call 2), .runJob, .runJob, .runJob, .performRejects 0 true,
      .performRejects 1 true, .runJob, .runJob] ++
    exampleFlight 0 (exampleAuth 1) ++ [.flightResolves 0, .flightResolves 1] ++
    [.performRejects 2 true, .runJob] ++ exampleFlight 1 (exampleAuth 2) ++ [.flightResolves 2]

end Example

end Clawdentity.RefreshFlight
