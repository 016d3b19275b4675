import Clawdentity.Rust.PeerBook
import Clawdentity.Rust.SystemDelivery

/-!
# The refresh of peer profiles

The refresh reads the peers once, waits for the registry at each of them, and writes back the
record that it has read with the new profile. What pairing and deletion have done to the table
meanwhile is not looked at. Beside the pool stands what they have last done under each alias.

## Main definitions

* `peerTasks` — any interleaving of refreshes, deliveries, calls that save a peer, and deletions.
* `OnlyProfiles` — no record appears or goes, and DIDs, addresses and aliases stay.
* `WritesOverSame` — a refresh finds the DID and the address that it has read.
* `refresh_keeps_pairing_iff` — when a refresh undoes nothing.
-/

namespace Clawdentity.Rust.PeerRefresh

open Lib Lib.Interleave Lib.Run
open Peers PeerBook
open SystemDelivery (UrlCrate RegistryAgentProfile Answer)

/-! ## The code of the refresh -/

/-- `refresh_peer_profiles_once`, between two pieces of its code. -/
inductive Refresh
  /-- It waits for the profile of a peer; the rest come after it. -/
  | waiting (peer : PeerRecord) (rest : List PeerRecord)
  /-- Whether the connector shuts down. -/
  | done (shutdown : Bool)

/-- The head of the loop. -/
def nextPeer (shutdown : Bool) : List PeerRecord → Refresh
  | [] => .done false
  | peer :: rest => if shutdown then .done true else .waiting peer rest

structure RefreshEnv where
  shutdown : Bool
  /-- `list_peers` succeeds. -/
  listOk : Bool
  /-- The flag, when it is read again. -/
  shutdownAtPeer : Bool

def startRefresh (peers : PeerTable) (env : RefreshEnv) : Refresh :=
  if env.shutdown then .done true
  else if env.listOk then nextPeer env.shutdownAtPeer (listPeers peers)
  else .done false

/-- What ends the wait. -/
inductive Wake
  /-- `shutdown_rx` has changed: to true, or to be closed, or to false. -/
  | shutdownChanged (shutdown : Bool)
  | profile (fetched : Option RegistryAgentProfile) (env : StatementEnv)

/-- The record that is written back. -/
def refreshInput (peer : PeerRecord) (profile : RegistryAgentProfile) (nowMs : ℤ) :
    UpsertPeerInput where
  peerAlias := peer.peerAlias
  did := peer.did
  proxyUrl := peer.proxyUrl
  agentName := some profile.agentName
  displayName := some profile.displayName
  framework := profile.framework
  description := none
  lastSyncedAtMs := some nowMs

def resumeRefresh (peers : PeerTable) (peer : PeerRecord) (rest : List PeerRecord) (wake : Wake)
    (shutdown : Bool) : PeerTable × Refresh :=
  match wake with
  | .shutdownChanged true => (peers, .done true)
  | .shutdownChanged false => (peers, nextPeer shutdown rest)
  | .profile none _ => (peers, nextPeer shutdown rest)
  | .profile (some profile) env =>
      match upsertPeer peers (refreshInput peer profile env.nowMs) env with
      | .error _ => (peers, nextPeer shutdown rest)
      | .ok (after, _) => (after, nextPeer shutdown rest)

/-! ## The tasks that write the table -/

inductive Task
  | refresh (refresh : Refresh)
  | delivery (call : SystemDelivery.Call)
  /-- A call that saves or deletes a peer at once. -/
  | returned

inductive Request
  | refresh (env : RefreshEnv)
  | delivery (deliver : DeliverFrame) (env : StatementEnv)
  | peerCall (call : PeerCall)

inductive Choice
  | refresh (wake : Wake) (shutdown : Bool)
  | delivery (answer : Answer)

section
variable (crates : PairAcceptedSystem.Crates) (url : UrlCrate)

/-- The tasks of a connector over its address book. -/
def peerTasks : Program PeerTable Task Request Choice where
  start peers
    | .refresh env => some (peers, .refresh (startRefresh peers env))
    | .delivery deliver env =>
        let r := SystemDelivery.startDelivery crates url peers deliver env
        some (r.1, .delivery r.2)
    | .peerCall call => (step crates.ulidFromString peers call).map (·, .returned)
  resume peers task choice :=
    match task, choice with
    | .refresh (.waiting peer rest), .refresh wake shutdown =>
        let r := resumeRefresh peers peer rest wake shutdown
        some (r.1, .refresh r.2)
    | .delivery (.waiting call), .delivery answer =>
        let r := SystemDelivery.resumeDelivery peers call answer
        some (r.1, .delivery r.2)
    | _, _ => none

/-! ## What pairing has recorded -/

/-- What a record says of the peer beside its profile: its DID and its address. -/
def identity (row : PeerRecord) : RString × RString := (row.did, row.proxyUrl)

def identities (peers : PeerTable) (peerAlias : RString) : Option (RString × RString) :=
  (peers.rows.lookup peerAlias).map identity

/-- The pool, and what the code that pairs and deletes has last left under each alias, which no
code reads. -/
structure Traced where
  pool : Pool PeerTable Task
  paired : RString → Option (RString × RString)

def Traced.empty : Traced := ⟨⟨.empty, []⟩, fun _ => none⟩

/-- The move is one of a refresh. -/
def isRefresh (p : Pool PeerTable Task) : Move Request Choice → Bool
  | .start (.refresh _) => true
  | .start _ => false
  | .resume i _ =>
      match p.calls[i]? with
      | some (.refresh _) => true
      | _ => false

/-- What has been recorded after a move: where the table has changed, what stands there now; a
refresh records nothing. -/
def record (s : Traced) (move : Move Request Choice) (after : PeerTable) (peerAlias : RString) :
    Option (RString × RString) :=
  if isRefresh s.pool move then s.paired peerAlias
  else if after.rows.lookup peerAlias = s.pool.shared.rows.lookup peerAlias then s.paired peerAlias
  else identities after peerAlias

def trace (s : Traced) (move : Move Request Choice) : Option Traced :=
  ((peerTasks crates url).step s.pool move).map fun pool =>
    { pool, paired := record s move pool.shared }

end

/-! ## The property, and its condition -/

/-- Every record has the DID and the address that pairing has recorded under its alias, and every
peer that was recorded and not deleted has one. -/
def Agrees (s : Traced) : Prop := ∀ peerAlias, identities s.pool.shared peerAlias = s.paired peerAlias

/-- Only profile fields have changed: no record appears or goes, and each keeps its alias, its DID,
its address, and the time at which it was created. -/
def OnlyProfiles (before after : PeerTable) : Prop :=
  ∀ peerAlias, after.rows.lookup peerAlias = before.rows.lookup peerAlias ∨
    ∃ old new, before.rows.lookup peerAlias = some old ∧ after.rows.lookup peerAlias = some new ∧
      new.peerAlias = old.peerAlias ∧ identity new = identity old ∧ new.createdAtMs = old.createdAtMs

section
variable (crates : PairAcceptedSystem.Crates) (url : UrlCrate)

/-- The step undoes nothing. -/
def Safe (s : Traced) (move : Move Request Choice) : Prop :=
  ∀ t, trace crates url s move = some t →
    Agrees t ∧ (isRefresh s.pool move = true → OnlyProfiles s.pool.shared t.pool.shared)

end

/-- **The condition on a step.** Where a refresh writes a record back, the DID and the address that
it has read still stand under the alias. -/
def WritesOverSame (s : Traced) : Move Request Choice → Prop
  | .resume i (.refresh (.profile (some _) env) _) =>
      env.succeeds = true → ∀ peer rest,
        s.pool.calls[i]? = some (.refresh (.waiting peer rest)) →
          identities s.pool.shared peer.peerAlias = some (identity peer)
  | _ => True

/-! ### Rows that can be written back -/

/-- A row whose key, DID and address are trimmed and not empty. -/
structure ValidRow (row : PeerRecord) : Prop where
  alias_trim : trim row.peerAlias = row.peerAlias
  alias_ne : row.peerAlias ≠ []
  did_trim : trim row.did = row.did
  did_ne : row.did ≠ []
  proxyUrl_trim : trim row.proxyUrl = row.proxyUrl
  proxyUrl_ne : row.proxyUrl ≠ []

def ValidTable (peers : PeerTable) : Prop :=
  ∀ peerAlias row, peers.rows.lookup peerAlias = some row → ValidRow row

/-- How a call changes the table. -/
inductive Writes (before : PeerTable) : PeerTable → Prop
  | nothing : Writes before before
  | upsert {input : UpsertPeerInput} {env : StatementEnv} {after : PeerTable} {row : PeerRecord}
      (h : upsertPeer before input env = .ok (after, row)) : Writes before after
  | delete {peerAlias : RString} {env : StatementEnv} {after : PeerTable} {found : Bool}
      (h : deletePeer before peerAlias env = .ok (after, found)) : Writes before after

section
variable {crates : PairAcceptedSystem.Crates} {url : UrlCrate} {peers after : PeerTable}
  {row : PeerRecord} {env : StatementEnv}

/-- **When `upsert_peer` writes**, and what. -/
theorem upsertPeer_iff {input : UpsertPeerInput} :
    upsertPeer peers input env = .ok (after, row) ↔
      ((trim input.peerAlias ≠ [] ∧ trim input.did ≠ [] ∧ trim input.proxyUrl ≠ []) ∧
        env.succeeds = true) ∧
      row = upsertedRow (peers.rows.lookup (trim input.peerAlias)) input env.nowMs ∧
        after = peers.write (upsertedRow (peers.rows.lookup (trim input.peerAlias)) input env.nowMs)
          (trim_trim input.peerAlias) := by
  simp only [upsertPeer, bind_eq_ok, check_eq_ok, Bool.not_eq_true', List.isEmpty_eq_false_iff,
    exists_const, pure, Except.pure, Except.ok.injEq, Prod.mk.injEq]
  constructor
  · rintro ⟨halias, hdid, hproxyUrl, hok, hafter, hrow⟩
    exact ⟨⟨⟨halias, hdid, hproxyUrl⟩, hok⟩, hrow.symm, hafter.symm⟩
  · rintro ⟨⟨⟨halias, hdid, hproxyUrl⟩, hok⟩, hrow, hafter⟩
    exact ⟨halias, hdid, hproxyUrl, hok, hafter.symm, hrow.symm⟩

theorem upsertPeer_valid {input : UpsertPeerInput}
    (h : upsertPeer peers input env = .ok (after, row)) : ValidRow row := by
  obtain ⟨⟨⟨halias, hdid, hproxyUrl⟩, _⟩, rfl, _⟩ := upsertPeer_iff.mp h
  exact ⟨trim_trim _, halias, trim_trim _, hdid, trim_trim _, hproxyUrl⟩

theorem Writes.valid (h : Writes peers after) (hvalid : ValidTable peers) : ValidTable after := by
  cases h with
  | nothing => exact hvalid
  | @upsert input env _ row h =>
      intro peerAlias found hfound
      rw [(upsertPeer_eq_ok h).1] at hfound
      by_cases halias : peerAlias = row.peerAlias
      · rw [halias, AList.lookup_insert] at hfound
        rw [← Option.some.inj hfound]
        exact upsertPeer_valid h
      · rw [AList.lookup_insert_ne halias] at hfound
        exact hvalid peerAlias found hfound
  | @delete peerAlias env _ found h =>
      unfold deletePeer at h
      split at h
      · cases h
        exact hvalid
      · obtain ⟨_, _, h⟩ := bind_eq_ok.mp h
        cases h
        intro other row hrow
        by_cases heq : other = trim peerAlias
        · rw [heq, AList.lookup_erase] at hrow
          cases hrow
        · rw [AList.lookup_erase_ne heq] at hrow
          exact hvalid other row hrow

theorem persistPeer_writes {ulidFromString : RString → Bool} {input : PersistPeerInput}
    (h : persistPeer ulidFromString peers input env = .ok (after, row)) : Writes peers after := by
  obtain ⟨_, _, h⟩ := bind_eq_ok.mp h
  exact .upsert h

theorem step_writes {ulidFromString : RString → Bool} {call : PeerCall}
    (h : step ulidFromString peers call = some after) : Writes peers after := by
  cases call with
  | persist input env =>
      simp only [step] at h
      split at h
      · cases h
        exact .nothing
      · rename_i hpersist
        cases h
        exact persistPeer_writes hpersist
  | delete peerAlias env =>
      simp only [step] at h
      split at h
      · cases h
        exact .nothing
      · rename_i hdelete
        cases h
        exact .delete hdelete

theorem startDelivery_writes (deliver : DeliverFrame) (env : StatementEnv) :
    Writes peers (SystemDelivery.startDelivery crates url peers deliver env).1 := by
  unfold SystemDelivery.startDelivery
  split
  · exact .nothing
  · exact .nothing
  · rename_i saved call happly
    unfold SystemDelivery.applyPairAcceptedSystemDelivery at happly
    split at happly
    case isFalse => cases happly
    split at happly
    · cases happly
    · cases happly
    · rename_i event _
      obtain ⟨⟨peers₁, call₁⟩, hevent, heq⟩ := map_eq_ok.mp happly
      cases heq
      simp only [SystemDelivery.applyEvent, bind_eq_ok, mapError_eq_ok] at hevent
      obtain ⟨_, _, _, _, ⟨peers₂, row⟩, hsave, heq⟩ := hevent
      cases heq
      obtain ⟨_, _, hpersist⟩ := bind_eq_ok.mp hsave
      exact persistPeer_writes hpersist

theorem resumeDelivery_writes (call : SystemDelivery.Awaiting) (answer : Answer) :
    Writes peers (SystemDelivery.resumeDelivery peers call answer).1 := by
  unfold SystemDelivery.resumeDelivery
  split
  · exact .nothing
  · rename_i saved frame hresume
    obtain ⟨after, henrich, heq⟩ := bind_eq_ok.mp hresume
    cases heq
    unfold SystemDelivery.enrichPeer at henrich
    split at henrich
    · cases henrich
      exact .nothing
    · rw [mapError_eq_ok] at henrich
      obtain ⟨⟨peers₁, row⟩, hpersist, heq⟩ := map_eq_ok.mp henrich
      cases heq
      obtain ⟨existing, _, hupsert⟩ := bind_eq_ok.mp hpersist
      exact .upsert hupsert

/-! ### What a refresh writes -/

section
variable {peer : PeerRecord} {rest : List PeerRecord} {profile : RegistryAgentProfile}

/-- The record stands under its alias again, with the DID and the address that were read. -/
theorem refresh_writes (hpeer : ValidRow peer)
    (h : upsertPeer peers (refreshInput peer profile env.nowMs) env = .ok (after, row)) :
    after.rows = peers.rows.insert peer.peerAlias row ∧ row.peerAlias = peer.peerAlias ∧
      identity row = identity peer ∧ row.createdAtMs =
        ((peers.rows.lookup peer.peerAlias).map PeerRecord.createdAtMs).getD env.nowMs := by
  obtain ⟨hrows, halias, hdid⟩ := upsertPeer_eq_ok h
  obtain ⟨_, hrow, _⟩ := upsertPeer_iff.mp h
  have hself : row.peerAlias = peer.peerAlias := halias.trans hpeer.alias_trim
  have hproxyUrl : row.proxyUrl = trim peer.proxyUrl := by rw [hrow]; rfl
  have hcreated : row.createdAtMs =
      ((peers.rows.lookup (trim peer.peerAlias)).map PeerRecord.createdAtMs).getD env.nowMs := by
    rw [hrow]
    rfl
  refine ⟨by rw [hrows, hself], hself, ?_, ?_⟩
  · exact Prod.ext (hdid.trans hpeer.did_trim) (hproxyUrl.trans hpeer.proxyUrl_trim)
  · rw [hcreated, hpeer.alias_trim]

/-- What a refresh has read can be written, if the statement succeeds. -/
theorem refresh_succeeds (peers : PeerTable) (profile : RegistryAgentProfile)
    (hpeer : ValidRow peer) (hok : env.succeeds = true) :
    ∃ r, upsertPeer peers (refreshInput peer profile env.nowMs) env = .ok r := by
  have halias : trim peer.peerAlias ≠ [] := by
    rw [hpeer.alias_trim]
    exact hpeer.alias_ne
  have hdid : trim peer.did ≠ [] := by
    rw [hpeer.did_trim]
    exact hpeer.did_ne
  have hproxyUrl : trim peer.proxyUrl ≠ [] := by
    rw [hpeer.proxyUrl_trim]
    exact hpeer.proxyUrl_ne
  exact ⟨(_, _), upsertPeer_iff.mpr ⟨⟨⟨halias, hdid, hproxyUrl⟩, hok⟩, rfl, rfl⟩⟩

/-- A refresh that finds what it has read changes profile fields only. -/
theorem onlyProfiles_of_same (hpeer : ValidRow peer)
    (h : upsertPeer peers (refreshInput peer profile env.nowMs) env = .ok (after, row))
    (hsame : identities peers peer.peerAlias = some (identity peer)) :
    OnlyProfiles peers after := by
  obtain ⟨hrows, halias, hidentity, hcreated⟩ := refresh_writes hpeer h
  obtain ⟨old, hold, heq⟩ := Option.map_eq_some_iff.mp hsame
  intro peerAlias
  by_cases ha : peerAlias = peer.peerAlias
  · subst ha
    refine .inr ⟨old, row, hold, by rw [hrows, AList.lookup_insert], ?_, ?_, ?_⟩
    · exact halias.trans (peers.keyed _ _ hold).1.symm
    · exact hidentity.trans heq.symm
    · rw [hcreated, hold]
      rfl
  · left
    rw [hrows, AList.lookup_insert_ne ha]

/-- And one that does not changes more. -/
theorem same_of_onlyProfiles (hpeer : ValidRow peer)
    (h : upsertPeer peers (refreshInput peer profile env.nowMs) env = .ok (after, row))
    (honly : OnlyProfiles peers after) :
    identities peers peer.peerAlias = some (identity peer) := by
  obtain ⟨hrows, _, hidentity, _⟩ := refresh_writes hpeer h
  have hafter : after.rows.lookup peer.peerAlias = some row := by rw [hrows, AList.lookup_insert]
  rcases honly peer.peerAlias with hsame | ⟨old, new, hold, hnew, _, hkept, _⟩
  · rw [identities, ← hsame, hafter, Option.map_some, hidentity]
  · rw [hafter] at hnew
    rw [identities, hold, Option.map_some, ← hkept, ← Option.some.inj hnew, hidentity]

theorem OnlyProfiles.refl (peers : PeerTable) : OnlyProfiles peers peers := fun _ => .inl rfl

theorem OnlyProfiles.identities (h : OnlyProfiles peers after) (peerAlias : RString) :
    identities after peerAlias = identities peers peerAlias := by
  unfold PeerRefresh.identities
  rcases h peerAlias with hsame | ⟨old, new, hold, hnew, _, hkept, _⟩
  · rw [hsame]
  · rw [hold, hnew, Option.map_some, Option.map_some, hkept]

/-- **A piece of a refresh** changes profile fields only, exactly where it finds what it has read,
if it writes. -/
theorem resumeRefresh_iff (hpeer : ValidRow peer) (wake : Wake) (shutdown : Bool) :
    OnlyProfiles peers (resumeRefresh peers peer rest wake shutdown).1 ↔
      ∀ profile env, wake = .profile (some profile) env → env.succeeds = true →
        identities peers peer.peerAlias = some (identity peer) := by
  have hidle : (∀ profile env, wake ≠ .profile (some profile) env) →
      (resumeRefresh peers peer rest wake shutdown).1 = peers →
      (OnlyProfiles peers (resumeRefresh peers peer rest wake shutdown).1 ↔
        ∀ profile env, wake = .profile (some profile) env → env.succeeds = true →
          identities peers peer.peerAlias = some (identity peer)) := by
    intro hne hsame
    rw [hsame]
    exact ⟨fun _ profile env heq => absurd heq (hne profile env), fun _ => .refl peers⟩
  rcases wake with shutdown' | ⟨_ | profile, env⟩
  · cases shutdown' with
    | true => exact hidle nofun rfl
    | false => exact hidle nofun rfl
  · exact hidle nofun rfl
  · unfold resumeRefresh
    dsimp only
    split
    · -- the statement has failed
      rename_i error herror
      refine ⟨?_, fun _ => .refl peers⟩
      intro _ profile' env' heq hok
      cases heq
      obtain ⟨r, hwrites⟩ := refresh_succeeds peers profile hpeer hok
      rw [herror] at hwrites
      cases hwrites
    · rename_i saved record hupsert
      constructor
      · intro honly _ _ _ _
        exact same_of_onlyProfiles hpeer hupsert honly
      · intro hcond
        obtain ⟨⟨_, hok⟩, _⟩ := upsertPeer_iff.mp hupsert
        exact onlyProfiles_of_same hpeer hupsert (hcond profile env rfl hok)

end

/-! ### Runs -/

/-- The records that a refresh still has to look up. -/
def Refresh.pending : Refresh → List PeerRecord
  | .waiting peer rest => peer :: rest
  | .done _ => []

/-- **The invariant**: pairing has recorded what stands in the table, and every record there or in
the hands of a refresh can be written back. -/
structure Inv (s : Traced) : Prop where
  agrees : Agrees s
  valid : ValidTable s.pool.shared
  pending : ∀ refresh, .refresh refresh ∈ s.pool.calls → ∀ peer ∈ refresh.pending, ValidRow peer

theorem inv_empty : Inv .empty where
  agrees _ := rfl
  valid := by
    intro peerAlias row h
    cases h
  pending := by
    intro refresh h
    cases h

theorem pending_nextPeer {shutdown : Bool} {rows : List PeerRecord} :
    (nextPeer shutdown rows).pending ⊆ rows := by
  cases rows with
  | nil => exact List.nil_subset _
  | cons peer rest =>
      cases shutdown with
      | true => exact List.nil_subset _
      | false => exact List.Subset.refl _

theorem pending_startRefresh (peers : PeerTable) (env : RefreshEnv) :
    (startRefresh peers env).pending ⊆ listPeers peers := by
  unfold startRefresh
  split
  · exact List.nil_subset _
  · split
    · exact pending_nextPeer
    · exact List.nil_subset _

theorem pending_resumeRefresh (peers : PeerTable) (peer : PeerRecord) (rest : List PeerRecord)
    (wake : Wake) (shutdown : Bool) :
    (resumeRefresh peers peer rest wake shutdown).2.pending ⊆ rest := by
  unfold resumeRefresh
  split
  · exact List.nil_subset _
  · exact pending_nextPeer
  · exact pending_nextPeer
  · split
    · exact pending_nextPeer
    · exact pending_nextPeer

theorem resumeRefresh_writes (peers : PeerTable) (peer : PeerRecord) (rest : List PeerRecord)
    (wake : Wake) (shutdown : Bool) :
    Writes peers (resumeRefresh peers peer rest wake shutdown).1 := by
  unfold resumeRefresh
  split
  · exact .nothing
  · exact .nothing
  · exact .nothing
  · split
    · exact .nothing
    · rename_i hupsert
      exact .upsert hupsert

variable {s t : Traced} {move : Move Request Choice}

/-- What the other tasks leave is what is recorded. -/
theorem agrees_record (h : Agrees s) (hother : isRefresh s.pool move = false)
    (pool : Pool PeerTable Task) : Agrees ⟨pool, record s move pool.shared⟩ := by
  intro peerAlias
  simp only [record, hother, Bool.false_eq_true, if_false]
  split
  · rename_i hsame
    rw [← h peerAlias, identities, identities, hsame]
  · rfl

/-- A refresh that changes profile fields only leaves what is recorded. -/
theorem agrees_refresh (h : Agrees s) (hrefresh : isRefresh s.pool move = true)
    {pool : Pool PeerTable Task} (honly : OnlyProfiles s.pool.shared pool.shared) :
    Agrees ⟨pool, record s move pool.shared⟩ := by
  intro peerAlias
  simp only [record, hrefresh, if_true]
  exact (honly.identities peerAlias).trans (h peerAlias)

/-- **What a move does**: how it writes the table, and that of a refresh it changes profile fields
only exactly where the condition holds. -/
structure MoveOk (s : Traced) (move : Move Request Choice) (pool : Pool PeerTable Task) : Prop where
  writes : Writes s.pool.shared pool.shared
  pending : ∀ refresh, .refresh refresh ∈ pool.calls → ∀ peer ∈ refresh.pending, ValidRow peer
  only_iff : isRefresh s.pool move = true →
    (OnlyProfiles s.pool.shared pool.shared ↔ WritesOverSame s move)
  other : isRefresh s.pool move = false → WritesOverSame s move

theorem moveOk_start (h : Inv s) {request : Request} {peers : PeerTable} {task : Task}
    (hstart : (peerTasks crates url).start s.pool.shared request = some (peers, task)) :
    MoveOk s (.start request) ⟨peers, s.pool.calls ++ [task]⟩ := by
  have hpending : (∀ refresh, task = .refresh refresh →
      refresh.pending ⊆ listPeers s.pool.shared) →
      ∀ refresh, .refresh refresh ∈ s.pool.calls ++ [task] →
        ∀ peer ∈ refresh.pending, ValidRow peer := by
    intro hnew refresh hmem peer hpeer
    rcases List.mem_append.mp hmem with hold | heq
    · exact h.pending refresh hold peer hpeer
    · have hlisted := hnew refresh (List.mem_singleton.mp heq).symm hpeer
      exact h.valid _ peer (mem_listPeers.mp hlisted)
  cases request with
  | refresh env =>
      cases hstart
      refine ⟨.nothing, hpending ?_, fun _ => ⟨fun _ => trivial, fun _ => .refl _⟩, nofun⟩
      intro refresh heq
      cases heq
      exact pending_startRefresh _ env
  | delivery deliver env =>
      cases hstart
      exact ⟨startDelivery_writes deliver env, hpending nofun, nofun, fun _ => trivial⟩
  | peerCall call =>
      obtain ⟨after, hafter, heq⟩ := Option.map_eq_some_iff.mp hstart
      cases heq
      exact ⟨step_writes hafter, hpending nofun, nofun, fun _ => trivial⟩

theorem moveOk_resume (h : Inv s) {i : ℕ} {choice : Choice} {task task' : Task} {peers : PeerTable}
    (hi : s.pool.calls[i]? = some task)
    (hresume : (peerTasks crates url).resume s.pool.shared task choice = some (peers, task')) :
    MoveOk s (.resume i choice) ⟨peers, s.pool.calls.set i task'⟩ := by
  have hpending : (∀ refresh, task' = .refresh refresh → ∀ peer ∈ refresh.pending, ValidRow peer) →
      ∀ refresh, .refresh refresh ∈ s.pool.calls.set i task' →
        ∀ peer ∈ refresh.pending, ValidRow peer := by
    intro hnew refresh hmem
    rcases List.mem_or_eq_of_mem_set hmem with hold | heq
    · exact h.pending refresh hold
    · exact hnew refresh heq.symm
  simp only [peerTasks] at hresume
  split at hresume
  · rename_i peer rest wake shutdown
    cases hresume
    have hvalid := h.pending _ (List.mem_of_getElem? hi)
    refine ⟨resumeRefresh_writes _ _ _ _ _, hpending ?_, fun _ => ?_, ?_⟩
    · intro refresh heq other hother
      cases heq
      exact hvalid other
        (List.mem_cons_of_mem peer (pending_resumeRefresh _ _ _ _ _ hother))
    · rw [resumeRefresh_iff (hvalid peer List.mem_cons_self)]
      rcases wake with shutdown' | ⟨_ | profile, env⟩
      · exact ⟨fun _ => trivial, fun _ => nofun⟩
      · exact ⟨fun _ => trivial, fun _ => nofun⟩
      · constructor
        · intro hcond hok peer' rest' hi'
          cases hi.symm.trans hi'
          exact hcond profile env rfl hok
        · intro hcond profile' env' heq hok
          cases heq
          exact hcond hok peer rest hi
    · intro hother
      simp [isRefresh, hi] at hother
  · rename_i call answer
    cases hresume
    refine ⟨resumeDelivery_writes call answer, hpending nofun, ?_, fun _ => trivial⟩
    intro hrefresh
    simp [isRefresh, hi] at hrefresh
  · cases hresume

theorem moveOk (h : Inv s) {pool : Pool PeerTable Task}
    (hstep : (peerTasks crates url).step s.pool move = some pool) : MoveOk s move pool := by
  rcases Program.step_cases hstep with
    ⟨request, peers, task, rfl, hstart, rfl⟩ | ⟨i, choice, task, peers, task', rfl, hi, hresume, rfl⟩
  · exact moveOk_start h hstart
  · exact moveOk_resume h hi hresume

theorem MoveOk.safe {pool : Pool PeerTable Task} (hmove : MoveOk s move pool) (h : Inv s)
    (hcond : WritesOverSame s move) : Agrees ⟨pool, record s move pool.shared⟩ ∧
      (isRefresh s.pool move = true → OnlyProfiles s.pool.shared pool.shared) := by
  cases hrefresh : isRefresh s.pool move with
  | false => exact ⟨agrees_record h.agrees hrefresh pool, nofun⟩
  | true =>
      have honly := (hmove.only_iff hrefresh).mpr hcond
      exact ⟨agrees_refresh h.agrees hrefresh honly, fun _ => honly⟩

/-- **One step** under the condition. -/
theorem inv_step (h : Inv s) (hcond : WritesOverSame s move)
    (hstep : trace crates url s move = some t) : Inv t := by
  obtain ⟨pool, hpool, rfl⟩ := Option.map_eq_some_iff.mp hstep
  have hmove := moveOk h hpool
  exact ⟨(hmove.safe h hcond).1, hmove.writes.valid h.valid, hmove.pending⟩

/-- A step that no task can take is no write of a refresh. -/
theorem writesOverSame_of_none (hnone : trace crates url s move = none) : WritesOverSame s move := by
  have hstep : (peerTasks crates url).step s.pool move = none := Option.map_eq_none_iff.mp hnone
  unfold WritesOverSame
  split
  · intro _ peer rest hi
    simp [Program.step, hi, peerTasks] at hstep
  · trivial

/-- **A step is safe** exactly where the condition holds. -/
theorem safe_iff (h : Inv s) : Safe crates url s move ↔ WritesOverSame s move := by
  cases ht : trace crates url s move with
  | none =>
      refine ⟨fun _ => writesOverSame_of_none ht, fun _ t ht' => ?_⟩
      cases ht.symm.trans ht'
  | some t =>
      obtain ⟨pool, hpool, rfl⟩ := Option.map_eq_some_iff.mp ht
      have hmove := moveOk h hpool
      constructor
      · intro hsafe
        cases hrefresh : isRefresh s.pool move with
        | false => exact hmove.other hrefresh
        | true => exact (hmove.only_iff hrefresh).mp ((hsafe _ ht).2 hrefresh)
      · intro hcond t' ht'
        cases ht.symm.trans ht'
        exact hmove.safe h hcond

/-- **The refresh undoes nothing** in a run, exactly where each of its writes finds the DID and the
address that it has read. In every state of such a run the records are those that pairing and
deletion have left, up to profile fields. -/
theorem refresh_keeps_pairing_iff (crates : PairAcceptedSystem.Crates) (url : UrlCrate)
    (moves : List (Move Request Choice)) :
    AllSteps (trace crates url) (Safe crates url) .empty moves ↔
      AllSteps (trace crates url) WritesOverSame .empty moves :=
  allSteps_congr Inv (fun _ _ _ h hcond hstep => inv_step h hcond hstep)
    (fun _ _ h => safe_iff h) inv_empty

/-- The recorded run is the run of the pool. -/
theorem exec_trace (crates : PairAcceptedSystem.Crates) (url : UrlCrate) (s : Traced)
    (moves : List (Move Request Choice)) :
    (exec (trace crates url) s moves).map Traced.pool =
      exec (peerTasks crates url).step s.pool moves := by
  induction moves generalizing s with
  | nil => rfl
  | cons move rest ih =>
      simp only [exec, trace]
      cases (peerTasks crates url).step s.pool move with
      | none => rfl
      | some pool => exact ih ⟨pool, record s move pool.shared⟩

end

/-! ## A peer that is paired again while its profile is fetched -/

section Example

def exampleUrl : UrlCrate := ⟨fun _ => none, fun _ _ => none⟩

def exampleDid : RString := rs "did:cdi:registry.example.com:agent:01HF7YAT00W6W7CM7N3W5FDXT4"

/-- The second pairing, with another proxy. -/
def exampleMoved : PersistPeerInput :=
  { exampleInput exampleDid with proxyUrl := rs "https://other.example.com/hooks/message" }

def exampleProfile : RegistryAgentProfile where
  agentDid := exampleDid
  agentName := rs "kai"
  displayName := rs "Ravi"
  framework := none

/-- The peer is saved, a refresh reads it, it is paired again, and the refresh writes. -/
def exampleMoves : List (Move Request Choice) :=
  [.start (.peerCall (.persist (exampleInput exampleDid) exampleEnv)),
    .start (.refresh ⟨false, true, false⟩),
    .start (.peerCall (.persist exampleMoved exampleEnv)),
    .resume 1 (.refresh (.profile (some exampleProfile) exampleEnv) false)]

theorem persistPeer_proxyUrl {ulidFromString : RString → Bool} {peers after : PeerTable}
    {row : PeerRecord} {input : PersistPeerInput} {env : StatementEnv}
    (h : persistPeer ulidFromString peers input env = .ok (after, row)) :
    row.proxyUrl = trim input.proxyUrl := by
  obtain ⟨_, _, h⟩ := bind_eq_ok.mp h
  obtain ⟨_, rfl, _⟩ := upsertPeer_iff.mp h
  rfl

theorem persist_step {ulidFromString : RString → Bool} {peers after : PeerTable} {row : PeerRecord}
    {input : PersistPeerInput} {env : StatementEnv}
    (h : persistPeer ulidFromString peers input env = .ok (after, row)) :
    step ulidFromString peers (.persist input env) = some after := by
  simp only [step, h]

theorem trace_peerCall {crates : PairAcceptedSystem.Crates} {url : UrlCrate} {s : Traced}
    {call : PeerCall} {after : PeerTable}
    (h : step crates.ulidFromString s.pool.shared call = some after) :
    trace crates url s (.start (.peerCall call)) =
      some ⟨⟨after, s.pool.calls ++ [.returned]⟩,
        record s (.start (.peerCall call)) after⟩ := by
  simp [trace, Program.step, peerTasks, h]

/-- **A refresh restores the address** that a second pairing has replaced. -/
theorem not_refresh_keeps_pairing :
    ¬∀ (crates : PairAcceptedSystem.Crates) (url : UrlCrate) (moves : List (Move Request Choice)),
      AllSteps (trace crates url) (Safe crates url) .empty moves := by
  intro hall
  have hcond : AllSteps (trace PairAcceptedSystem.exampleCrates exampleUrl) WritesOverSame .empty
      exampleMoves :=
    (allSteps_congr Inv (fun _ _ _ h hcond hstep => inv_step h hcond hstep)
      (fun _ _ h => safe_iff h) inv_empty).mp (hall _ _ _)
  have hempty : listPeers .empty = [] := by simp [listPeers, PeerTable.empty]
  have hfirst : resolvePeerAlias exampleUlidFromString .empty exampleDid =
      rs "peer-3w5fdxt4" := by
    simp only [resolvePeerAlias, hempty]
    decide
  obtain ⟨peers, old, hsaved, halias⟩ := persistPeer_ok
    (show (trim (exampleInput exampleDid).did).isEmpty = false by decide) (by decide) hfirst
    (by decide) rfl (show exampleEnv.succeeds = true from rfl)
  obtain ⟨hrows, hdid, _⟩ := persistPeer_spec hsaved rfl
  have hlist : listPeers peers = [old] := by simp [listPeers, hrows, PeerTable.empty]
  have hold : peers.rows.lookup old.peerAlias = some old := by rw [hrows, AList.lookup_insert]
  have hsecond : resolvePeerAlias exampleUlidFromString peers (trim exampleMoved.did) =
      old.peerAlias :=
    resolvePeerAlias_of_mem (distinctDids_persist distinctDids_empty hsaved rfl) hold hdid
  obtain ⟨after, new, hmoved, hkept⟩ := persistPeer_ok (by decide) (by decide) hsecond
    (by rw [halias]; decide) rfl (show exampleEnv.succeeds = true from rfl)
  obtain ⟨hrows', _, _⟩ := persistPeer_spec hmoved rfl
  have hafter : identities after old.peerAlias = some (identity new) := by
    rw [(peers.keyed _ _ hold).2] at hkept
    rw [identities, ← hkept, hrows', AList.lookup_insert]
    rfl
  have hchanged : new.proxyUrl ≠ old.proxyUrl := by
    rw [persistPeer_proxyUrl hmoved, persistPeer_proxyUrl hsaved]
    decide
  -- the three steps before the refresh writes
  have hcond := hcond.2 _ (trace_peerCall (persist_step hsaved))
  have hcond := hcond.2 _ rfl
  have hcond := hcond.2 _ (trace_peerCall (persist_step hmoved))
  have hwaiting : startRefresh peers ⟨false, true, false⟩ = .waiting old [] := by
    simp [startRefresh, hlist, nextPeer]
  have hsame := hcond.1 rfl old [] (congrArg (fun refresh => some (Task.refresh refresh)) hwaiting)
  exact hchanged (congrArg Prod.snd (Option.some.inj (hafter.symm.trans hsame)))

end Example

end Clawdentity.Rust.PeerRefresh
