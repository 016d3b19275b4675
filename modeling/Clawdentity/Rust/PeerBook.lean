import Clawdentity.Lib.Run
import Clawdentity.Rust.Peers

/-!
# The address book over many calls

Only the alias is a key of the table `peers`. That a DID has one record rests on the search of
`resolve_peer_alias`, which finds the alias of a known peer, and looks for a free one otherwise.
Here peers are saved without an alias and deleted in any order, from an empty table.

## Main definitions

* `resolvePeerAliasWithin` — the search, with a limit on the iterations of its loop.
* `PeerCall`, `step` — the calls that write the table.
* `Persisted` — what a call that succeeds leaves.
* `persist_peer_safe` — the address book after every sequence of calls.
-/

namespace Clawdentity.Rust.PeerBook

open Lib Lib.Run
open Peers

/-! ## The search for an alias -/

/-- The loop of `resolve_peer_alias` from an index on, for a number of iterations. -/
def searchAlias (base : RString) (taken : List RString) : ℕ → ℕ → Option RString
  | 0, _ => none
  | fuel + 1, index =>
      if candidateAlias base index ∉ taken then some (candidateAlias base index)
      else searchAlias base taken fuel (index + 1)

section
variable (ulidFromString : RString → Bool)

/-- `resolve_peer_alias`, which is cut off after a number of iterations of its loop. -/
def resolvePeerAliasWithin (fuel : ℕ) (peers : PeerTable) (peerDid : RString) : Option RString :=
  let existing := listPeers peers
  match existing.find? fun peer => peer.did = peerDid with
  | some peer => some peer.peerAlias
  | none =>
      let base := derivePeerAliasBase ulidFromString peerDid
      if base ∈ existing.map PeerRecord.peerAlias then
        searchAlias base (existing.map PeerRecord.peerAlias) fuel 2
      else some base

/-! ## The calls -/

/-- `delete_peer`, and whether there was a row. -/
def deletePeer (peers : PeerTable) (peerAlias : RString) (env : StatementEnv) :
    Except PeerError (PeerTable × Bool) := do
  if (trim peerAlias).isEmpty then return (peers, false)
  check env.succeeds .sqlite
  return ({
    rows := peers.rows.erase (trim peerAlias)
    keyed := by
      intro other row h
      by_cases heq : other = trim peerAlias
      · rw [heq, AList.lookup_erase] at h
        cases h
      · rw [AList.lookup_erase_ne heq] at h
        exact peers.keyed other row h },
    (peers.rows.lookup (trim peerAlias)).isSome)

inductive PeerCall
  | persist (input : PersistPeerInput) (env : StatementEnv)
  | delete (peerAlias : RString) (env : StatementEnv)

/-- The table after a call; one that fails has written nothing. -/
def step (peers : PeerTable) : PeerCall → Option PeerTable
  | .persist input env =>
      match persistPeer ulidFromString peers input env with
      | .error _ => some peers
      | .ok (after, _) => some after
  | .delete peerAlias env =>
      match deletePeer peers peerAlias env with
      | .error _ => some peers
      | .ok (after, _) => some after

end

/-- The peer is saved without an alias. -/
def PeerCall.WithoutAlias : PeerCall → Prop
  | .persist input _ => input.peerAlias = none
  | .delete _ _ => True

/-! ## What a call leaves -/

/-- The alias search ends, and its result is that of the model. -/
def SearchEnds (ulidFromString : RString → Bool) (peers : PeerTable) (did : RString) : Prop :=
  ∃ n, ∀ fuel, n ≤ fuel → resolvePeerAliasWithin ulidFromString fuel peers did =
    some (resolvePeerAlias ulidFromString peers did)

/-- The peer has one record, under the alias that it had; the records of others are as before. -/
structure Persisted (before after : PeerTable) (did : RString) (row : PeerRecord) : Prop where
  only : (listPeers after).filter (fun r => r.did = did) = [row]
  alias_kept : ∀ old ∈ listPeers before, old.did = did → row.peerAlias = old.peerAlias
  others : ∀ r, r.did ≠ did → (r ∈ listPeers after ↔ r ∈ listPeers before)

/-- No DID has two records, and no alias. -/
structure OneRecordEach (peers : PeerTable) : Prop where
  dids : ((listPeers peers).map PeerRecord.did).Nodup
  aliases : ((listPeers peers).map PeerRecord.peerAlias).Nodup

/-- The rows of one DID are one row. -/
def DistinctDids (peers : PeerTable) : Prop :=
  ∀ a b r s, peers.rows.lookup a = some r → peers.rows.lookup b = some s → r.did = s.did → a = b

/-! ### The search ends -/

section
variable {ulidFromString : RString → Bool} {peers after : PeerTable} {row : PeerRecord}
  {did : RString} {env : StatementEnv}

theorem searchAlias_eq (base : RString) (taken : List RString) (fuel index : ℕ) :
    searchAlias base taken fuel index =
      ((List.range fuel).map fun i => candidateAlias base (i + index)).find?
        (fun peerAlias => peerAlias ∉ taken) := by
  induction fuel generalizing index with
  | zero => rfl
  | succ fuel ih =>
      have hshift : (fun i => candidateAlias base (i + (index + 1))) =
          (fun i => candidateAlias base (i + index)) ∘ Nat.succ := by
        funext i
        exact congrArg (candidateAlias base) (by simp only [Nat.succ_eq_add_one]; omega)
      rw [searchAlias, ih, List.range_succ_eq_map, List.map_cons, List.map_map, List.find?_cons,
        hshift, Nat.zero_add]
      by_cases htaken : candidateAlias base index ∉ taken
      · rw [if_pos htaken]
        simp [htaken]
      · rw [if_neg htaken]
        simp [htaken]

/-- **The loop ends** after as many iterations as there are aliases, and one. -/
theorem searchAlias_ends (base : RString) (taken : List RString) {fuel : ℕ}
    (hfuel : taken.length + 1 ≤ fuel) :
    searchAlias base taken fuel 2 = some (nextFreeAlias base taken) := by
  obtain ⟨more, rfl⟩ := Nat.exists_eq_add_of_le hfuel
  have hfirst : (candidateAliases base taken).find? (fun peerAlias => peerAlias ∉ taken) =
      some (nextFreeAlias base taken) := (Option.some_get _).symm
  rw [searchAlias_eq, List.range_add, List.map_append, List.find?_append]
  show Option.or ((candidateAliases base taken).find? _) _ = _
  rw [hfirst, Option.some_or]

theorem searchEnds (ulidFromString : RString → Bool) (peers : PeerTable) (did : RString) :
    SearchEnds ulidFromString peers did := by
  refine ⟨((listPeers peers).map PeerRecord.peerAlias).length + 1, ?_⟩
  intro fuel hfuel
  unfold resolvePeerAliasWithin resolvePeerAlias
  dsimp only
  cases (listPeers peers).find? fun peer => decide (peer.did = did) with
  | some peer => rfl
  | none =>
      dsimp only
      split
      · exact searchAlias_ends _ _ hfuel
      · rfl

/-! ### One call -/

theorem nodup_aliases (peers : PeerTable) : ((listPeers peers).map PeerRecord.peerAlias).Nodup := by
  have hkeys : (peers.rows.entries.map fun e => e.2.peerAlias) = peers.rows.entries.map (·.1) := by
    refine List.map_congr_left ?_
    intro e he
    exact (peers.keyed e.1 e.2 (AList.mem_lookup_iff.mpr he)).1
  have hperm : ((listPeers peers).map PeerRecord.peerAlias).Perm
      (peers.rows.entries.map fun e => e.2.peerAlias) := by
    have hsort := (List.mergeSort_perm (peers.rows.entries.map fun e => e.2)
      fun a b => decide (a.peerAlias ≤ b.peerAlias)).map PeerRecord.peerAlias
    rwa [List.map_map] at hsort
  rw [hperm.nodup_iff, hkeys]
  exact peers.rows.nodupKeys

theorem oneRecordEach (h : DistinctDids peers) : OneRecordEach peers := by
  refine ⟨?_, nodup_aliases peers⟩
  refine (List.Nodup.of_map _ (nodup_aliases peers)).map_on ?_
  intro r hr s hs hdid
  have hr := mem_listPeers.mp hr
  have hs := mem_listPeers.mp hs
  have halias := h _ _ r s hr hs hdid
  rw [halias, hs] at hr
  exact (Option.some.inj hr).symm

/-- A peer that is in the table keeps its alias. -/
theorem resolvePeerAlias_of_mem (h : DistinctDids peers) {peerAlias : RString}
    (hrow : peers.rows.lookup peerAlias = some row) (hdid : row.did = did) :
    resolvePeerAlias ulidFromString peers did = peerAlias := by
  have hlisted : row ∈ listPeers peers := by
    rw [mem_listPeers, (peers.keyed _ _ hrow).1]
    exact hrow
  unfold resolvePeerAlias
  dsimp only
  split
  · rename_i peer hfind
    have hown := List.find?_some hfind
    exact h _ _ peer row (mem_listPeers.mp (List.mem_of_find?_eq_some hfind)) hrow
      ((of_decide_eq_true hown).trans hdid.symm)
  · rename_i hfind
    exact absurd (List.find?_eq_none.mp hfind row hlisted) (by simp [hdid])

/-- What a call that succeeds writes, and where. -/
theorem persistPeer_spec {input : PersistPeerInput}
    (h : persistPeer ulidFromString peers input env = .ok (after, row))
    (halias : input.peerAlias = none) :
    after.rows = peers.rows.insert row.peerAlias row ∧ row.did = trim input.did ∧
      row.peerAlias = trim (resolvePeerAlias ulidFromString peers (trim input.did)) := by
  simp only [persistPeer, bind_eq_ok] at h
  obtain ⟨_, _, h⟩ := h
  simp only [halias, Option.map_none, Option.filter_none, Option.getD_none] at h
  obtain ⟨hrows, hself, hdid⟩ := upsertPeer_eq_ok h
  exact ⟨hrows, hdid.trans (trim_trim _), hself⟩

/-- The row is written where a record of its DID was, if there was one. -/
theorem persistPeer_alias (hdistinct : DistinctDids peers) {input : PersistPeerInput}
    (h : persistPeer ulidFromString peers input env = .ok (after, row))
    (halias : input.peerAlias = none) {peerAlias : RString} {old : PeerRecord}
    (hold : peers.rows.lookup peerAlias = some old) (hdid : old.did = trim input.did) :
    row.peerAlias = peerAlias := by
  obtain ⟨_, _, hself⟩ := persistPeer_spec h halias
  rw [hself, resolvePeerAlias_of_mem hdistinct hold hdid]
  exact (peers.keyed _ _ hold).2

/-- **Saving a peer** keeps the DIDs distinct. -/
theorem distinctDids_persist (hdistinct : DistinctDids peers) {input : PersistPeerInput}
    (h : persistPeer ulidFromString peers input env = .ok (after, row))
    (halias : input.peerAlias = none) : DistinctDids after := by
  obtain ⟨hrows, hdid, _⟩ := persistPeer_spec h halias
  -- every row of the table has the alias of the new one, or is an old one
  have hcases : ∀ a r, after.rows.lookup a = some r → a = row.peerAlias ∧ r = row ∨
      peers.rows.lookup a = some r := by
    intro a r hr
    rw [hrows] at hr
    by_cases ha : a = row.peerAlias
    · rw [ha, AList.lookup_insert] at hr
      exact .inl ⟨ha, (Option.some.inj hr).symm⟩
    · rw [AList.lookup_insert_ne ha] at hr
      exact .inr hr
  intro a b r s hr hs hsame
  rcases hcases a r hr with ⟨rfl, rfl⟩ | hr
  · rcases hcases b s hs with ⟨rfl, rfl⟩ | hs
    · rfl
    · exact persistPeer_alias hdistinct h halias hs (hsame.symm.trans hdid)
  · rcases hcases b s hs with ⟨rfl, rfl⟩ | hs
    · exact (persistPeer_alias hdistinct h halias hr (hsame.trans hdid)).symm
    · exact hdistinct a b r s hr hs hsame

theorem distinctDids_delete (hdistinct : DistinctDids peers) {peerAlias : RString} {found : Bool}
    (h : deletePeer peers peerAlias env = .ok (after, found)) : DistinctDids after := by
  unfold deletePeer at h
  split at h
  · cases h
    exact hdistinct
  · obtain ⟨_, _, h⟩ := bind_eq_ok.mp h
    cases h
    have hkept : ∀ a r, (peers.rows.erase (trim peerAlias)).lookup a = some r →
        peers.rows.lookup a = some r := by
      intro a r hr
      by_cases ha : a = trim peerAlias
      · rw [ha, AList.lookup_erase] at hr
        cases hr
      · rwa [AList.lookup_erase_ne ha] at hr
    intro a b r s hr hs hsame
    exact hdistinct a b r s (hkept a r hr) (hkept b s hs) hsame

/-- **What a call that succeeds leaves.** -/
theorem persisted (hdistinct : DistinctDids peers) {input : PersistPeerInput}
    (h : persistPeer ulidFromString peers input env = .ok (after, row))
    (halias : input.peerAlias = none) : Persisted peers after (trim input.did) row := by
  obtain ⟨honly, hdid, hself⟩ := persistPeer_changes h halias
  have hafter := distinctDids_persist hdistinct h halias
  have hone := oneRecordEach hafter
  refine ⟨?_, ?_, ?_⟩
  · -- the rows of the DID are without duplicates, and all of them are the new one
    have hnodup : ((listPeers after).filter fun r => r.did = trim input.did).Nodup :=
      (List.Nodup.of_map _ hone.aliases).filter _
    refine List.perm_singleton.mp ((List.perm_ext_iff_of_nodup hnodup
      (List.nodup_singleton row)).mpr ?_)
    intro r
    rw [List.mem_filter, decide_eq_true_eq, List.mem_singleton, mem_listPeers]
    constructor
    · intro ⟨hr, hrdid⟩
      have heq := hafter _ _ r row hr hself (hrdid.trans hdid.symm)
      rw [heq, hself] at hr
      exact (Option.some.inj hr).symm
    · intro heq
      rw [heq]
      exact ⟨hself, hdid⟩
  · intro old hold holdDid
    exact persistPeer_alias hdistinct h halias (mem_listPeers.mp hold) holdDid
  · intro r hne
    rw [mem_listPeers, mem_listPeers]
    rcases honly r.peerAlias with hsame | ⟨⟨new, hnew, hnewDid⟩, hold⟩
    · rw [hsame]
    · constructor
      · intro hr
        rw [hnew] at hr
        exact absurd ((congrArg PeerRecord.did (Option.some.inj hr)).symm.trans hnewDid) hne
      · intro hr
        exact absurd (hold r hr) hne

/-! ### Runs -/

theorem distinctDids_empty : DistinctDids .empty := by
  intro a b r s hr
  cases hr

/-- **One call.** -/
theorem distinctDids_step {call : PeerCall} (h : DistinctDids peers) (halias : call.WithoutAlias)
    (hstep : step ulidFromString peers call = some after) : DistinctDids after := by
  cases call with
  | persist input env =>
      simp only [step] at hstep
      split at hstep
      · cases hstep
        exact h
      · rename_i saved row hpersist
        cases hstep
        exact distinctDids_persist h hpersist halias
  | delete peerAlias env =>
      simp only [step] at hstep
      split at hstep
      · cases hstep
        exact h
      · rename_i left found hdelete
        cases hstep
        exact distinctDids_delete h hdelete

/-- **The address book after every sequence of calls.** No DID and no alias has two records, the
search for an alias ends, a call that succeeds leaves one record of its peer and those of the
others, and one that fails leaves the table as it is. -/
theorem persist_peer_safe {calls : List PeerCall} (halias : ∀ call ∈ calls, call.WithoutAlias)
    (hrun : exec (step ulidFromString) .empty calls = some peers) :
    OneRecordEach peers ∧ (∀ did, SearchEnds ulidFromString peers did) ∧
      ∀ input env, input.peerAlias = none →
        (∀ after row, persistPeer ulidFromString peers input env = .ok (after, row) →
          step ulidFromString peers (.persist input env) = some after ∧
            Persisted peers after (trim input.did) row) ∧
        ∀ error, persistPeer ulidFromString peers input env = .error error →
          step ulidFromString peers (.persist input env) = some peers := by
  have hdistinct : DistinctDids peers :=
    exec_invariant DistinctDids (fun _ _ _ h halias hstep => distinctDids_step h halias hstep)
      distinctDids_empty (allSteps_of_forall (fun call hcall _ => halias call hcall) _) hrun
  refine ⟨oneRecordEach hdistinct, searchEnds ulidFromString peers, ?_⟩
  intro input env hnone
  refine ⟨?_, ?_⟩
  · intro after row hpersist
    refine ⟨?_, persisted hdistinct hpersist hnone⟩
    simp only [step, hpersist]
  · intro error hpersist
    simp only [step, hpersist]

end

/-! ## Two peers whose aliases begin alike -/

section Example

def exampleInput (did : RString) : PersistPeerInput where
  peerAlias := none
  did := did
  proxyUrl := rs "https://proxy.example.com/hooks/message"
  agentName := none
  displayName := none
  framework := none
  description := none
  lastSyncedAtMs := none

def exampleEnv : StatementEnv := ⟨1700000000000, true⟩

/-- A call whose fields are there succeeds, under the alias that was found. -/
theorem persistPeer_ok {ulidFromString : RString → Bool} {peers : PeerTable}
    {input : PersistPeerInput} {env : StatementEnv} {peerAlias : RString}
    (hdid : (trim input.did).isEmpty = false) (hproxy : (trim input.proxyUrl).isEmpty = false)
    (halias : resolvePeerAlias ulidFromString peers (trim input.did) = peerAlias)
    (hne : (trim peerAlias).isEmpty = false) (hnone : input.peerAlias = none)
    (henv : env.succeeds = true) :
    ∃ after row, persistPeer ulidFromString peers input env = .ok (after, row) ∧
      row.peerAlias = trim peerAlias := by
  simp [persistPeer, upsertPeer, hdid, hproxy, henv, halias, hnone, hne, check, bind, Except.bind,
    trim_trim, upsertedRow, pure, Except.pure]

/-- The DIDs of the two peers do not parse, and both aliases start out as `peer`; the second
becomes `peer-2`, and the first peer keeps its record. -/
theorem exampleCalls_safe :
    ∃ peers after row, exec (step exampleUlidFromString) .empty
        [.persist (exampleInput (rs "alice")) exampleEnv] = some peers ∧
      persistPeer exampleUlidFromString peers (exampleInput (rs "bob")) exampleEnv =
        .ok (after, row) ∧
      row.peerAlias = rs "peer-2" ∧ Persisted peers after (rs "bob") row := by
  have hempty : listPeers .empty = [] := by simp [listPeers, PeerTable.empty]
  have hfirst : resolvePeerAlias exampleUlidFromString .empty (rs "alice") = rs "peer" := by
    simp only [resolvePeerAlias, hempty]
    decide
  obtain ⟨peers, alice, hpersist, halice⟩ := persistPeer_ok
    (show (trim (exampleInput (rs "alice")).did).isEmpty = false by decide) (by decide) hfirst
    (by decide) rfl (show exampleEnv.succeeds = true from rfl)
  obtain ⟨hrows, hdid, _⟩ := persistPeer_spec hpersist rfl
  have hlist : listPeers peers = [alice] := by simp [listPeers, hrows, PeerTable.empty]
  have hsecond : resolvePeerAlias exampleUlidFromString peers (rs "bob") = rs "peer-2" := by
    have hother : decide (trim (exampleInput (rs "alice")).did = rs "bob") = false := by decide
    simp only [resolvePeerAlias, hlist, List.find?_cons, List.find?_nil, hdid, hother,
      List.map_cons, List.map_nil, halice]
    decide
  obtain ⟨after, bob, hpersist', hbob⟩ := persistPeer_ok
    (show (trim (exampleInput (rs "bob")).did).isEmpty = false by decide) (by decide) hsecond
    (by decide) rfl (show exampleEnv.succeeds = true from rfl)
  have hrun : exec (step exampleUlidFromString) .empty
      [.persist (exampleInput (rs "alice")) exampleEnv] = some peers := by
    simp [exec, step, hpersist]
  refine ⟨peers, after, bob, hrun, hpersist', hbob, ?_⟩
  exact (((persist_peer_safe (by simp [PeerCall.WithoutAlias, exampleInput]) hrun).2.2 _ exampleEnv
    rfl).1 after bob hpersist').2

end Example

end Clawdentity.Rust.PeerBook
