import Clawdentity.Lib.Fallible
import Clawdentity.Lib.Table
import Clawdentity.Rust.Identifiers
import Mathlib.Data.Char
import Mathlib.Data.List.Lex

/-!
# The address book of the connector

The table `peers` has a row for each alias. A peer that is saved without an alias keeps the
alias it has, or gets one that is not in use.

## Main definitions

* `PeerTable` — the rows by alias; `upsertPeer` is the only statement that writes them.
* `resolvePeerAlias`, `persistPeer`.
* `OnlyRecordOf` — two tables that differ in the rows of one agent only.
-/

namespace Clawdentity.Rust.Peers

open Lib

/-! ## Rows -/

structure PeerRecord where
  peerAlias : RString
  did : RString
  proxyUrl : RString
  agentName : Option RString
  displayName : Option RString
  framework : Option RString
  description : Option RString
  lastSyncedAtMs : Option ℤ
  createdAtMs : ℤ
  updatedAtMs : ℤ
  deriving DecidableEq

/-- The rows are filed under their aliases, which are trimmed. -/
structure PeerTable where
  rows : Table RString PeerRecord
  keyed : ∀ peerAlias row, rows.lookup peerAlias = some row →
    row.peerAlias = peerAlias ∧ trim peerAlias = peerAlias

def PeerTable.empty : PeerTable := ⟨∅, fun _ _ h => by cases h⟩

structure UpsertPeerInput where
  peerAlias : RString
  did : RString
  proxyUrl : RString
  agentName : Option RString
  displayName : Option RString
  framework : Option RString
  description : Option RString
  lastSyncedAtMs : Option ℤ

inductive PeerError
  | required (field : String)
  | proxyUrlInvalid
  | aliasNotFound
  /-- The statement failed. -/
  | sqlite
  deriving DecidableEq

/-- What the environment decides for a statement. -/
structure StatementEnv where
  nowMs : ℤ
  succeeds : Bool

def parseOptionalNonEmpty (value : Option RString) : Option RString :=
  (value.map trim).filter fun text => !text.isEmpty

/-- The row that `upsert_peer` writes over an old one. -/
def upsertedRow (old : Option PeerRecord) (input : UpsertPeerInput) (nowMs : ℤ) : PeerRecord where
  peerAlias := trim input.peerAlias
  did := trim input.did
  proxyUrl := trim input.proxyUrl
  agentName := parseOptionalNonEmpty input.agentName
  displayName := parseOptionalNonEmpty input.displayName
  framework := parseOptionalNonEmpty input.framework
  description := parseOptionalNonEmpty input.description
  lastSyncedAtMs := input.lastSyncedAtMs.or (some nowMs)
  createdAtMs := (old.map PeerRecord.createdAtMs).getD nowMs
  updatedAtMs := nowMs

/-- The table with a row. -/
def PeerTable.write (peers : PeerTable) (row : PeerRecord) (h : trim row.peerAlias = row.peerAlias) :
    PeerTable where
  rows := peers.rows.insert row.peerAlias row
  keyed peerAlias found hfound := by
    by_cases halias : peerAlias = row.peerAlias
    · subst halias
      cases hfound.symm.trans (AList.lookup_insert _)
      exact ⟨rfl, h⟩
    · rw [AList.lookup_insert_ne halias] at hfound
      exact peers.keyed peerAlias found hfound

def upsertPeer (peers : PeerTable) (input : UpsertPeerInput) (env : StatementEnv) :
    Except PeerError (PeerTable × PeerRecord) := do
  check (!(trim input.peerAlias).isEmpty) (.required "alias")
  check (!(trim input.did).isEmpty) (.required "did")
  check (!(trim input.proxyUrl).isEmpty) (.required "proxyUrl")
  check env.succeeds .sqlite
  let row := upsertedRow (peers.rows.lookup (trim input.peerAlias)) input env.nowMs
  return (peers.write row (trim_trim input.peerAlias), row)

def getPeerByAlias (peers : PeerTable) (peerAlias : RString) : Option PeerRecord :=
  if (trim peerAlias).isEmpty then none else peers.rows.lookup (trim peerAlias)

/-- `list_peers`: the rows in the order of their aliases. -/
def listPeers (peers : PeerTable) : List PeerRecord :=
  (peers.rows.entries.map fun e => e.2).mergeSort fun a b => decide (a.peerAlias ≤ b.peerAlias)

/-! ## Aliases -/

section
variable (ulidFromString : RString → Bool)

def derivePeerAliasBase (peerDid : RString) : RString :=
  match parseAgentDid ulidFromString peerDid with
  | some parsed => rs "peer-" ++ (parsed.ulid.rtake 8).map toAsciiLowercase
  | none => rs "peer"

/-- `format!("{base}-{index}")`. -/
def candidateAlias (base : RString) (index : ℕ) : RString := base ++ rs "-" ++ Nat.toDigits 10 index

theorem candidateAlias_injective (base : RString) : Function.Injective (candidateAlias base) := by
  intro i j h
  have hdigits : Nat.toDigits 10 i = Nat.toDigits 10 j := List.append_cancel_left h
  rw [← Nat.ofDigitChars_ten_toDigits (n := i), hdigits, Nat.ofDigitChars_ten_toDigits]

/-- The candidates that the loop of `resolve_peer_alias` needs at most. -/
def candidateAliases (base : RString) (taken : List RString) : List RString :=
  (List.range (taken.length + 1)).map fun i => candidateAlias base (i + 2)

theorem exists_free_candidate (base : RString) (taken : List RString) :
    ((candidateAliases base taken).find? fun peerAlias => peerAlias ∉ taken).isSome = true := by
  by_contra hnone
  have hall : candidateAliases base taken ⊆ taken := by
    intro peerAlias halias
    simp only [Bool.not_eq_true, Option.isSome_eq_false_iff, Option.isNone_iff_eq_none,
      List.find?_eq_none] at hnone
    simpa using hnone peerAlias halias
  have hnodup : (candidateAliases base taken).Nodup := by
    refine List.Nodup.map ?_ List.nodup_range
    intro i j h
    exact Nat.add_right_cancel (candidateAlias_injective base h)
  have hlength := (List.subperm_of_subset hnodup hall).length_le
  simp only [candidateAliases, List.length_map, List.length_range] at hlength
  omega

/-- The loop: the first candidate that is not in use. -/
def nextFreeAlias (base : RString) (taken : List RString) : RString :=
  ((candidateAliases base taken).find? fun peerAlias => peerAlias ∉ taken).get
    (exists_free_candidate base taken)

def resolvePeerAlias (peers : PeerTable) (peerDid : RString) : RString :=
  let existing := listPeers peers
  match existing.find? fun peer => peer.did = peerDid with
  | some peer => peer.peerAlias
  | none =>
      let base := derivePeerAliasBase ulidFromString peerDid
      if base ∈ existing.map PeerRecord.peerAlias then
        nextFreeAlias base (existing.map PeerRecord.peerAlias)
      else base

structure PersistPeerInput where
  peerAlias : Option RString
  did : RString
  proxyUrl : RString
  agentName : Option RString
  displayName : Option RString
  framework : Option RString
  description : Option RString
  lastSyncedAtMs : Option ℤ

def persistPeer (peers : PeerTable) (input : PersistPeerInput) (env : StatementEnv) :
    Except PeerError (PeerTable × PeerRecord) := do
  check (!(trim input.did).isEmpty) (.required "did")
  let peerAlias := ((input.peerAlias.map trim).filter fun peerAlias => !peerAlias.isEmpty).getD
    (resolvePeerAlias ulidFromString peers (trim input.did))
  upsertPeer peers
    { peerAlias, did := trim input.did, proxyUrl := input.proxyUrl, agentName := input.agentName,
      displayName := input.displayName, framework := input.framework,
      description := input.description, lastSyncedAtMs := input.lastSyncedAtMs } env

end

/-! ## What is changed -/

/-- The two tables differ in rows of one agent only; no row of another agent was replaced. -/
def OnlyRecordOf (did : RString) (peers peers' : PeerTable) : Prop :=
  ∀ peerAlias, peers'.rows.lookup peerAlias = peers.rows.lookup peerAlias ∨
    (∃ row, peers'.rows.lookup peerAlias = some row ∧ row.did = did) ∧
      ∀ row, peers.rows.lookup peerAlias = some row → row.did = did

section
variable {ulidFromString : RString → Bool} {peers peers' : PeerTable} {env : StatementEnv}
  {row : PeerRecord} {did : RString}

theorem OnlyRecordOf.refl (did : RString) (peers : PeerTable) : OnlyRecordOf did peers peers :=
  fun _ => .inl rfl

/-- A row stays under its alias, with its DID. -/
theorem OnlyRecordOf.did_kept (h : OnlyRecordOf did peers peers') {peerAlias : RString}
    (hrow : peers.rows.lookup peerAlias = some row) :
    ∃ row', peers'.rows.lookup peerAlias = some row' ∧ row'.did = row.did := by
  rcases h peerAlias with hsame | ⟨⟨row', hrow', hdid⟩, hold⟩
  · exact ⟨row, hsame.trans hrow, rfl⟩
  · exact ⟨row', hrow', hdid.trans (hold row hrow).symm⟩

/-- What `upsert_peer` writes. -/
theorem upsertPeer_eq_ok {input : UpsertPeerInput}
    (h : upsertPeer peers input env = .ok (peers', row)) :
    peers'.rows = peers.rows.insert row.peerAlias row ∧ row.peerAlias = trim input.peerAlias ∧
      row.did = trim input.did := by
  simp only [upsertPeer, bind_eq_ok] at h
  obtain ⟨_, _, _, _, _, _, _, _, h⟩ := h
  cases h
  exact ⟨rfl, rfl, rfl⟩

/-- **A row is written over one of the same agent** where the alias is free or its own. -/
theorem upsertPeer_changes {input : UpsertPeerInput}
    (h : upsertPeer peers input env = .ok (peers', row))
    (hown : ∀ old, peers.rows.lookup (trim input.peerAlias) = some old →
      old.did = trim input.did) :
    OnlyRecordOf (trim input.did) peers peers' ∧ row.did = trim input.did ∧
      peers'.rows.lookup row.peerAlias = some row := by
  obtain ⟨hrows, halias, hdid⟩ := upsertPeer_eq_ok h
  have hself : peers'.rows.lookup row.peerAlias = some row := by
    rw [hrows, AList.lookup_insert]
  refine ⟨?_, hdid, hself⟩
  intro peerAlias
  by_cases heq : peerAlias = row.peerAlias
  · subst heq
    rw [halias] at hself ⊢
    exact .inr ⟨⟨row, hself, hdid⟩, hown⟩
  · left
    rw [hrows, AList.lookup_insert_ne heq]

theorem mem_listPeers {peer : PeerRecord} :
    peer ∈ listPeers peers ↔ peers.rows.lookup peer.peerAlias = some peer := by
  rw [listPeers, List.mem_mergeSort, List.mem_map]
  constructor
  · intro ⟨e, he, hpeer⟩
    have hlookup : peers.rows.lookup e.1 = some peer := by
      rw [← hpeer]
      exact AList.mem_lookup_iff.mpr he
    rw [(peers.keyed _ _ hlookup).1]
    exact hlookup
  · intro h
    exact ⟨⟨peer.peerAlias, peer⟩, AList.mem_lookup_iff.mp h, rfl⟩

/-- An alias that no listed peer has is not in the table. -/
theorem lookup_of_not_listed {peerAlias : RString}
    (h : peerAlias ∉ (listPeers peers).map PeerRecord.peerAlias) :
    peers.rows.lookup peerAlias = none := by
  by_contra hsome
  obtain ⟨peer, hpeer⟩ := Option.ne_none_iff_exists'.mp hsome
  refine h (List.mem_map.mpr ⟨peer, ?_, (peers.keyed _ _ hpeer).1⟩)
  rw [mem_listPeers, (peers.keyed _ _ hpeer).1]
  exact hpeer

/-! ### Fresh aliases are trimmed -/

theorem isWhitespace_toAsciiLowercase {c : Char} (h : isWhitespace c = false) :
    isWhitespace (toAsciiLowercase c) = false := by
  unfold toAsciiLowercase
  split
  · rename_i hupper
    simp only [Bool.and_eq_true, decide_eq_true_eq] at hupper
    have hvalid : Nat.isValidChar (c.toNat + 0x20) := .inl (by omega)
    have hn : (Char.ofNat (c.toNat + 0x20)).toNat = c.toNat + 0x20 := by
      rw [Char.ofNat, dif_pos hvalid]
      rfl
    simp only [isWhitespace, hn]
    simp
    omega
  · exact h

/-- The ULID of a DID stands at its end. -/
theorem getLast?_of_parseAgentDid {parsed : ParsedDid}
    (h : parseAgentDid ulidFromString did = some parsed) {c : Char}
    (hc : parsed.ulid.getLast? = some c) : did.getLast? = some c := by
  obtain ⟨hparse, _⟩ := Option.filter_eq_some_iff.mp h
  unfold parseDid at hparse
  split at hparse
  · rename_i scheme method rawAuthority rawEntity rawUlid hsplit
    have hdid : did = scheme ++ [':'] ++ method ++ [':'] ++ rawAuthority ++ [':'] ++ rawEntity ++
        [':'] ++ rawUlid := by
      have hjoin : [':'].intercalate (did.splitOn ':') = did := List.intercalate_splitOn ':'
      rw [← hjoin, hsplit]
      simp [List.intercalate]
    have hulid : parsed.ulid = rawUlid := by
      simp only [Option.ite_none_right_eq_some, Option.bind_eq_bind,
        Option.bind_eq_some_iff] at hparse
      obtain ⟨_, _, _, _, _, _, _, hparsed⟩ := hparse
      cases hparsed
      rfl
    rw [hulid] at hc
    rw [hdid, List.getLast?_append, hc, Option.some_or]
  · cases hparse

theorem head?_derivePeerAliasBase (did : RString) :
    (derivePeerAliasBase ulidFromString did).head? = some 'p' := by
  unfold derivePeerAliasBase
  split
  · rfl
  · rfl

theorem trim_derivePeerAliasBase (hdid : trim did = did) :
    trim (derivePeerAliasBase ulidFromString did) = derivePeerAliasBase ulidFromString did := by
  refine Text.trim_eq_self_of_ends ?_ ?_
  · intro c hc
    rw [head?_derivePeerAliasBase] at hc
    cases hc
    rfl
  · intro c hc
    unfold derivePeerAliasBase at hc
    split at hc
    · rename_i parsed hparsed
      rw [List.getLast?_append] at hc
      cases hlast : ((parsed.ulid.rtake 8).map toAsciiLowercase).getLast? with
      | none =>
          rw [hlast, Option.none_or] at hc
          cases hc
          rfl
      | some d =>
          rw [hlast, Option.some_or] at hc
          cases hc
          rw [List.getLast?_map] at hlast
          obtain ⟨d, hd, rfl⟩ := Option.map_eq_some_iff.mp hlast
          have hulid : parsed.ulid.getLast? = some d := by
            obtain ⟨front, hfront⟩ : ∃ front, parsed.ulid = front ++ parsed.ulid.rtake 8 :=
              ⟨_, (List.take_append_drop _ _).symm⟩
            rw [hfront, List.getLast?_append, hd, Option.some_or]
          exact isWhitespace_toAsciiLowercase
            (Text.getLast_not_blank hdid (getLast?_of_parseAgentDid hparsed hulid))
    · cases hc
      rfl

theorem trim_candidateAlias {base : RString} (hhead : base.head? = some 'p') (index : ℕ) :
    trim (candidateAlias base index) = candidateAlias base index := by
  refine Text.trim_eq_self_of_ends ?_ ?_
  · intro c hc
    rw [candidateAlias, List.append_assoc, List.head?_append, hhead, Option.some_or] at hc
    cases hc
    rfl
  · intro c hc
    have hdigits : (Nat.toDigits 10 index).getLast? = some c := by
      rw [candidateAlias, List.getLast?_append] at hc
      cases hlast : (Nat.toDigits 10 index).getLast? with
      | none => exact absurd (List.getLast?_eq_none_iff.mp hlast) Nat.toDigits_ne_nil
      | some d => rwa [hlast, Option.some_or] at hc
    have hdigit := Nat.isDigit_of_mem_toDigits (by decide) (by decide)
      (List.mem_of_getLast? hdigits)
    have hrange : 0x30 ≤ c.toNat ∧ c.toNat ≤ 0x39 := Char.isDigit_iff_toNat.mp hdigit
    simp only [isWhitespace]
    simp
    omega

/-! ### Saving a peer -/

theorem nextFreeAlias_spec (base : RString) (taken : List RString) :
    nextFreeAlias base taken ∉ taken ∧
      ∃ index, nextFreeAlias base taken = candidateAlias base index := by
  have hfind : (candidateAliases base taken).find? (fun peerAlias => peerAlias ∉ taken) =
      some (nextFreeAlias base taken) := (Option.some_get _).symm
  refine ⟨of_decide_eq_true (List.find?_some (p := fun peerAlias => peerAlias ∉ taken) hfind), ?_⟩
  obtain ⟨i, _, hi⟩ := List.mem_map.mp (List.mem_of_find?_eq_some hfind)
  exact ⟨i + 2, hi.symm⟩

/-- The alias that is chosen: that of the peer, or one that is trimmed and not in use. -/
theorem resolvePeerAlias_cases (ulidFromString : RString → Bool) (peers : PeerTable)
    (hdid : trim did = did) :
    (∃ peer ∈ listPeers peers, peer.did = did ∧
      resolvePeerAlias ulidFromString peers did = peer.peerAlias) ∨
    (trim (resolvePeerAlias ulidFromString peers did) =
        resolvePeerAlias ulidFromString peers did ∧
      resolvePeerAlias ulidFromString peers did ∉ (listPeers peers).map PeerRecord.peerAlias) := by
  unfold resolvePeerAlias
  dsimp only
  split
  · rename_i peer hfind
    have hown := List.find?_some hfind
    exact .inl ⟨peer, List.mem_of_find?_eq_some hfind, of_decide_eq_true hown, rfl⟩
  · split
    · obtain ⟨hfree, index, hindex⟩ := nextFreeAlias_spec (derivePeerAliasBase ulidFromString did)
        ((listPeers peers).map PeerRecord.peerAlias)
      refine .inr ⟨?_, hfree⟩
      rw [hindex, trim_candidateAlias (head?_derivePeerAliasBase did)]
    · rename_i hbase
      exact .inr ⟨trim_derivePeerAliasBase hdid, hbase⟩

/-- The alias of a peer that is saved without one is its own or free. -/
theorem lookup_resolvePeerAlias (hdid : trim did = did)
    (h : peers.rows.lookup (trim (resolvePeerAlias ulidFromString peers did)) = some row) :
    row.did = did := by
  rcases resolvePeerAlias_cases ulidFromString peers hdid with
    ⟨peer, hpeer, hown, halias⟩ | ⟨htrim, hfree⟩
  · have hlookup := mem_listPeers.mp hpeer
    rw [halias, (peers.keyed _ _ hlookup).2, hlookup] at h
    cases h
    exact hown
  · rw [htrim, lookup_of_not_listed hfree] at h
    cases h

/-- **Saving a peer without an alias** changes the record of that peer only. -/
theorem persistPeer_changes {input : PersistPeerInput}
    (h : persistPeer ulidFromString peers input env = .ok (peers', row))
    (halias : input.peerAlias = none) :
    OnlyRecordOf (trim input.did) peers peers' ∧ row.did = trim input.did ∧
      peers'.rows.lookup row.peerAlias = some row := by
  simp only [persistPeer, bind_eq_ok] at h
  obtain ⟨_, _, h⟩ := h
  simp only [halias, Option.map_none, Option.filter_none, Option.getD_none] at h
  have hchanges := upsertPeer_changes h (fun old hold => by
    rw [trim_trim]
    exact lookup_resolvePeerAlias (trim_trim input.did) hold)
  rwa [trim_trim] at hchanges

end

end Clawdentity.Rust.Peers
