import Mathlib.Data.List.AList

/-!
# Finite tables

A table is Mathlib's association list without duplicate keys, with one value
type for all keys. The operations added here keep the entries that pass a test,
and read a table anew, entry by entry, under keys computed from the entries.
-/

namespace Lib

universe u v

/-- A finite map from keys to values. -/
abbrev Table (κ : Type u) (α : Type v) := AList fun _ : κ => α

namespace Table
variable {κ : Type u} {α : Type v}

/-- Keep the entries whose key and value pass the test. -/
def keep (p : κ → α → Bool) (m : Table κ α) : Table κ α :=
  ⟨m.entries.filter fun e => p e.1 e.2,
    m.nodupKeys.sublist List.filter_sublist⟩

variable [DecidableEq κ]

theorem keep_eq_self {p : κ → α → Bool} {m : Table κ α}
    (h : ∀ k v, m.lookup k = some v → p k v = true) : m.keep p = m := by
  apply AList.ext
  exact List.filter_eq_self.mpr fun e he => h e.1 e.2 (AList.mem_lookup_iff.mpr he)

theorem lookup_keep_eq_some {p : κ → α → Bool} {m : Table κ α} {k : κ} {v : α} :
    (m.keep p).lookup k = some v ↔ m.lookup k = some v ∧ p k v = true := by
  change v ∈ (m.keep p).lookup k ↔ v ∈ m.lookup k ∧ _
  rw [AList.mem_lookup_iff, AList.mem_lookup_iff]
  simp [keep]

theorem lookup_keep_of_pos {p : κ → α → Bool} {m : Table κ α} {k : κ} {v : α}
    (h : m.lookup k = some v) (hp : p k v = true) : (m.keep p).lookup k = some v :=
  lookup_keep_eq_some.mpr ⟨h, hp⟩

theorem lookup_keep_eq {p : κ → α → Bool} {m : Table κ α} {k : κ}
    (hp : ∀ v, m.lookup k = some v → p k v = true) : (m.keep p).lookup k = m.lookup k := by
  cases hk : m.lookup k with
  | none =>
      refine Option.eq_none_iff_forall_ne_some.mpr ?_
      intro v hv
      have hold := (lookup_keep_eq_some.mp hv).1
      rw [hk] at hold
      cases hold
  | some v => exact lookup_keep_of_pos hk (hp v hk)

/-- Insert the reading of one entry; `f` may drop the entry, change it and move it
to another key. -/
def readEntry (f : κ → α → Option (κ × α)) (m : Table κ α) (e : Sigma fun _ : κ => α) :
    Table κ α :=
  match f e.1 e.2 with
  | none => m
  | some r => m.insert r.1 r.2

/-- The table of the readings of all entries. -/
def rekey (f : κ → α → Option (κ × α)) (m : Table κ α) : Table κ α :=
  m.entries.foldl (readEntry f) ∅

variable {f : κ → α → Option (κ × α)} {m : Table κ α} {k : κ} {v : α}

theorem lookup_readEntry {e : Sigma fun _ : κ => α} (h : (readEntry f m e).lookup k = some v) :
    m.lookup k = some v ∨ f e.1 e.2 = some (k, v) := by
  unfold readEntry at h
  split at h
  · exact .inl h
  · rename_i r hf
    by_cases hk : k = r.1
    · subst hk
      rw [AList.lookup_insert] at h
      cases h
      exact .inr hf
    · rw [AList.lookup_insert_ne hk] at h
      exact .inl h

theorem lookup_foldl_readEntry (l : List (Sigma fun _ : κ => α)) :
    ∀ {m : Table κ α}, (l.foldl (readEntry f) m).lookup k = some v →
      m.lookup k = some v ∨ ∃ e ∈ l, f e.1 e.2 = some (k, v) := by
  induction l with
  | nil => intro m h; exact .inl h
  | cons e l ih =>
      intro m h
      rcases ih h with h | ⟨e', he', hf⟩
      · rcases lookup_readEntry h with h | hf
        · exact .inl h
        · exact .inr ⟨e, List.mem_cons_self, hf⟩
      · exact .inr ⟨e', List.mem_cons_of_mem _ he', hf⟩

/-- Whatever the table of the readings holds was read from some entry. -/
theorem lookup_rekey (h : (m.rekey f).lookup k = some v) :
    ∃ k₀ v₀, m.lookup k₀ = some v₀ ∧ f k₀ v₀ = some (k, v) := by
  rcases lookup_foldl_readEntry m.entries h with h | ⟨e, he, hf⟩
  · simp at h
  · exact ⟨e.1, e.2, AList.mem_lookup_iff.mpr he, hf⟩

/-- Entries that are read to other keys do not change the reading of a key. -/
theorem lookup_foldl_readEntry_of_ne (l : List (Sigma fun _ : κ => α))
    (h : ∀ e ∈ l, ∀ r, f e.1 e.2 = some r → r.1 ≠ k) :
    ∀ m : Table κ α, (l.foldl (readEntry f) m).lookup k = m.lookup k := by
  induction l with
  | nil => intro m; rfl
  | cons e l ih =>
      intro m
      rw [List.foldl_cons, ih fun e' he' => h e' (List.mem_cons_of_mem e he')]
      unfold readEntry
      cases hf : f e.1 e.2 with
      | none => rfl
      | some r => exact AList.lookup_insert_ne (h e List.mem_cons_self r hf).symm

/-- **A reading that leaves every entry under its key** is one of the values. -/
theorem lookup_rekey_of_keeps (h : ∀ k v r, m.lookup k = some v → f k v = some r → r.1 = k) :
    (m.rekey f).lookup k = (m.lookup k).bind fun v => (f k v).map Prod.snd := by
  have hkeys : ∀ e ∈ m.entries, ∀ r, f e.1 e.2 = some r → r.1 = e.1 :=
    fun e he r hr => h e.1 e.2 r (AList.mem_lookup_iff.mpr he) hr
  cases hk : m.lookup k with
  | none =>
      refine (lookup_foldl_readEntry_of_ne m.entries ?_ ∅).trans ?_
      · intro e he r hr heq
        have hread : m.lookup k = some e.2 := by
          rw [← heq, hkeys e he r hr]
          exact AList.mem_lookup_iff.mpr he
        rw [hk] at hread
        cases hread
      · rfl
  | some v =>
      obtain ⟨before, after, hsplit⟩ := List.append_of_mem (AList.mem_lookup_iff.mp hk)
      have hnodup := m.nodupKeys
      rw [hsplit] at hkeys hnodup
      have hother : ∀ e ∈ before ++ after, ∀ r, f e.1 e.2 = some r → r.1 ≠ k := by
        intro e he r hr heq
        have hmem : e ∈ before ++ ⟨k, v⟩ :: after := by
          rcases List.mem_append.mp he with he | he
          · exact List.mem_append_left _ he
          · exact List.mem_append_right _ (List.mem_cons_of_mem _ he)
        rw [hkeys e hmem r hr] at heq
        have hkey : e.1 ∈ (before ++ after).keys := List.mem_keys_of_mem he
        rw [heq] at hkey
        exact (List.nodupKeys_cons.mp (List.nodupKeys_middle.mp hnodup)).1 hkey
      have hbefore := lookup_foldl_readEntry_of_ne before
        (fun e he => hother e (List.mem_append_left _ he)) ∅
      unfold rekey
      rw [hsplit, List.foldl_append, List.foldl_cons,
        lookup_foldl_readEntry_of_ne after fun e he => hother e (List.mem_append_right _ he),
        Option.bind_some]
      cases hf : f k v with
      | none =>
          rw [readEntry, hf]
          exact hbefore
      | some r =>
          have hr : r.1 = k := h k v r hk hf
          subst hr
          rw [readEntry, hf]
          exact AList.lookup_insert _

/-! ## Entries that were lost -/

/-- The second table is the first one without some entries, all of which may go. -/
def Loses (gone : α → Prop) (m m' : Table κ α) : Prop :=
  ∀ k, m'.lookup k = m.lookup k ∨ m'.lookup k = none ∧ ∃ v, m.lookup k = some v ∧ gone v

variable {gone : α → Prop} {m' : Table κ α}

theorem Loses.refl (gone : α → Prop) (m : Table κ α) : Loses gone m m := fun _ => .inl rfl

theorem Loses.trans {m'' : Table κ α} (h : Loses gone m m') (h' : Loses gone m' m'') :
    Loses gone m m'' := by
  intro k
  rcases h' k with hsame | ⟨hnone, v, hv, hgone⟩
  · rcases h k with hsame' | ⟨hnone, hgone⟩
    · exact .inl (hsame.trans hsame')
    · exact .inr ⟨hsame.trans hnone, hgone⟩
  · rcases h k with hsame' | ⟨hnone', _⟩
    · exact .inr ⟨hnone, v, hsame' ▸ hv, hgone⟩
    · rw [hv] at hnone'
      cases hnone'

theorem Loses.erase (hk : ∀ v, m.lookup k = some v → gone v) : Loses gone m (m.erase k) := by
  intro key
  by_cases hkey : key = k
  · subst hkey
    rw [AList.lookup_erase]
    cases hv : m.lookup key with
    | none => exact .inl rfl
    | some v => exact .inr ⟨rfl, v, rfl, hk v hv⟩
  · exact .inl (AList.lookup_erase_ne hkey)

theorem Loses.keep {p : κ → α → Bool} (hp : ∀ k v, p k v = false → gone v) :
    Loses gone m (m.keep p) := by
  intro key
  cases hv : m.lookup key with
  | none =>
      refine .inl (Option.eq_none_iff_forall_ne_some.mpr ?_)
      intro v h
      have hold := (lookup_keep_eq_some.mp h).1
      rw [hv] at hold
      cases hold
  | some v =>
      cases hpv : p key v with
      | true => exact .inl (lookup_keep_of_pos hv hpv)
      | false =>
          refine .inr ⟨Option.eq_none_iff_forall_ne_some.mpr ?_, v, rfl, hp key v hpv⟩
          intro w h
          obtain ⟨hold, hpw⟩ := lookup_keep_eq_some.mp h
          rw [hv] at hold
          cases hold
          rw [hpv] at hpw
          cases hpw

/-- What is left was there before. -/
theorem Loses.lookup (h : Loses gone m m') (hv : m'.lookup k = some v) : m.lookup k = some v := by
  rcases h k with hsame | ⟨hnone, _⟩
  · rw [← hsame, hv]
  · rw [hnone] at hv
    cases hv

/-- An entry that may not go is still there. -/
theorem Loses.kept (h : Loses gone m m') (hv : m.lookup k = some v) (hkeep : ¬ gone v) :
    m'.lookup k = some v := by
  rcases h k with hsame | ⟨_, w, hw, hgone⟩
  · rw [hsame, hv]
  · rw [hv] at hw
    cases hw
    exact absurd hgone hkeep

/-! ## Tables that agree up to lost entries -/

/-- The two tables agree, or one of them lacks an entry of the other that may go. -/
def AgreeUpTo (gone : α → Prop) (m m' : Table κ α) : Prop :=
  ∀ k, m.lookup k = m'.lookup k ∨ (m'.lookup k = none ∧ ∃ v, m.lookup k = some v ∧ gone v) ∨
    (m.lookup k = none ∧ ∃ v, m'.lookup k = some v ∧ gone v)

theorem AgreeUpTo.refl (gone : α → Prop) (m : Table κ α) : AgreeUpTo gone m m := fun _ => .inl rfl

theorem AgreeUpTo.symm (h : AgreeUpTo gone m m') : AgreeUpTo gone m' m := by
  intro k
  rcases h k with hsame | hleft | hright
  · exact .inl hsame.symm
  · exact .inr (.inr hleft)
  · exact .inr (.inl hright)

theorem AgreeUpTo.mono {gone' : α → Prop} (h : AgreeUpTo gone m m')
    (hgone : ∀ v, gone v → gone' v) : AgreeUpTo gone' m m' := by
  intro k
  rcases h k with hsame | ⟨hnone, v, hv, hgo⟩ | ⟨hnone, v, hv, hgo⟩
  · exact .inl hsame
  · exact .inr (.inl ⟨hnone, v, hv, hgone v hgo⟩)
  · exact .inr (.inr ⟨hnone, v, hv, hgone v hgo⟩)

/-- One of the tables may lose entries that may go. -/
theorem AgreeUpTo.loses {n : Table κ α} (h : AgreeUpTo gone m n) (hloses : Loses gone m m') :
    AgreeUpTo gone m' n := by
  intro k
  rcases hloses k with hkept | ⟨hnone, v, hv, hgo⟩
  · rw [hkept]
    exact h k
  · rcases h k with hsame | ⟨hother, _⟩ | ⟨hown, _⟩
    · exact .inr (.inr ⟨hnone, v, hsame ▸ hv, hgo⟩)
    · exact .inl (hnone.trans hother.symm)
    · rw [hv] at hown
      cases hown

theorem AgreeUpTo.insert (h : AgreeUpTo gone m m') (key : κ) (value : α) :
    AgreeUpTo gone (m.insert key value) (m'.insert key value) := by
  intro k
  by_cases hk : k = key
  · subst hk
    rw [AList.lookup_insert, AList.lookup_insert]
    exact .inl rfl
  · rw [AList.lookup_insert_ne hk, AList.lookup_insert_ne hk]
    exact h k

theorem AgreeUpTo.erase (h : AgreeUpTo gone m m') (key : κ) :
    AgreeUpTo gone (m.erase key) (m'.erase key) := by
  intro k
  by_cases hk : k = key
  · subst hk
    rw [AList.lookup_erase, AList.lookup_erase]
    exact .inl rfl
  · rw [AList.lookup_erase_ne hk, AList.lookup_erase_ne hk]
    exact h k

/-- An entry that may not go is in both tables. -/
theorem AgreeUpTo.kept (h : AgreeUpTo gone m m') (hv : m.lookup k = some v) (hkeep : ¬ gone v) :
    m'.lookup k = some v := by
  rcases h k with hsame | ⟨_, w, hw, hgone⟩ | ⟨hnone, _⟩
  · rw [← hsame, hv]
  · rw [hv] at hw
    cases hw
    exact absurd hgone hkeep
  · rw [hv] at hnone
    cases hnone

/-! ## Tables from lists of entries -/

theorem mem_of_mem_toAList {l : List (Sigma fun _ : κ => α)} {e : Sigma fun _ : κ => α}
    (h : e ∈ l.toAList.entries) : e ∈ l := by
  have hlookup : e.2 ∈ l.toAList.lookup e.1 := AList.mem_lookup_iff.mpr h
  rw [AList.lookup_to_alist] at hlookup
  exact List.of_mem_dlookup hlookup

theorem dedupKeys_of_nodupKeys {l : List (Sigma fun _ : κ => α)} (h : l.NodupKeys) :
    l.dedupKeys = l := by
  induction l with
  | nil => rfl
  | cons e l ih =>
      obtain ⟨k, v⟩ := e
      rw [List.nodupKeys_cons] at h
      rw [List.dedupKeys_cons, ih h.2, List.kinsert_def, List.kerase_of_notMem_keys h.1]

/-- Reading the entries of a table back gives the table. -/
theorem toAList_entries (m : Table κ α) : m.entries.toAList = m := by
  apply AList.ext
  rw [AList.entries_toAList, dedupKeys_of_nodupKeys m.nodupKeys]

end Table
end Lib
