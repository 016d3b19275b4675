import Mathlib.Algebra.GroupWithZero.Nat
import Mathlib.Data.List.Nodup

/-!
# Maps that keep the order of insertion

A map whose entries are in the order in which their keys were inserted. A new value of a key that
is there takes the place of the old one.

## Main definitions

* `OrderedMap` — the entries, with no key twice.
* `get?`, `set`, `delete`, `keep` — its operations.
-/

namespace Lib

universe u v

/-- The entries of a map, in the order of insertion. -/
structure OrderedMap (κ : Type u) (α : Type v) where
  entries : List (κ × α)
  nodup : (entries.map Prod.fst).Nodup

namespace OrderedMap
variable {κ : Type u} {α : Type v}

def empty : OrderedMap κ α := ⟨[], List.nodup_nil⟩

def size (m : OrderedMap κ α) : ℕ := m.entries.length

def keys (m : OrderedMap κ α) : List κ := m.entries.map Prod.fst

def values (m : OrderedMap κ α) : List α := m.entries.map Prod.snd

/-- Keep the entries that pass the test. -/
def keep (p : κ × α → Bool) (m : OrderedMap κ α) : OrderedMap κ α :=
  ⟨m.entries.filter p, m.nodup.sublist (List.filter_sublist.map _)⟩

variable [DecidableEq κ]

def get? (m : OrderedMap κ α) (k : κ) : Option α :=
  (m.entries.find? fun e => decide (e.1 = k)).map Prod.snd

def delete (m : OrderedMap κ α) (k : κ) : OrderedMap κ α := m.keep fun e => decide (e.1 ≠ k)

/-- The entries with a new value of a key. -/
def setEntries (k : κ) (v : α) : List (κ × α) → List (κ × α)
  | [] => [(k, v)]
  | e :: rest => if e.1 = k then (k, v) :: rest else e :: setEntries k v rest

theorem keys_setEntries (k : κ) (v : α) (entries : List (κ × α)) :
    (setEntries k v entries).map Prod.fst =
      if k ∈ entries.map Prod.fst then entries.map Prod.fst else entries.map Prod.fst ++ [k] := by
  induction entries with
  | nil => simp [setEntries]
  | cons e rest ih =>
      by_cases hk : e.1 = k
      · simp [setEntries, hk]
      · have hne : k ≠ e.1 := Ne.symm hk
        simp only [setEntries, if_neg hk, List.map_cons, ih, List.mem_cons, hne, false_or]
        split <;> rfl

def set (m : OrderedMap κ α) (k : κ) (v : α) : OrderedMap κ α where
  entries := setEntries k v m.entries
  nodup := by
    rw [keys_setEntries]
    split
    · exact m.nodup
    · rename_i hk
      exact List.nodup_append.mpr ⟨m.nodup, List.nodup_singleton k, fun a ha b hb => by
        rw [List.mem_singleton.mp hb]
        rintro rfl
        exact hk ha⟩

variable {m : OrderedMap κ α} {k k' : κ} {v v' : α} {p : κ × α → Bool}

theorem get?_eq_some : m.get? k = some v ↔ (k, v) ∈ m.entries := by
  unfold get?
  constructor
  · intro h
    obtain ⟨e, he, rfl⟩ := Option.map_eq_some_iff.mp h
    have hkey : e.1 = k := by simpa using List.find?_some he
    subst hkey
    exact List.mem_of_find?_eq_some he
  · intro h
    cases hfind : m.entries.find? fun e => decide (e.1 = k) with
    | none =>
        have hnot := List.find?_eq_none.mp hfind (k, v) h
        simp at hnot
    | some e =>
        have hkey : e.1 = k := by simpa using List.find?_some hfind
        have heq : e = (k, v) :=
          List.inj_on_of_nodup_map m.nodup (List.mem_of_find?_eq_some hfind) h hkey
        rw [heq]
        rfl

theorem get?_eq_none : m.get? k = none ↔ k ∉ m.keys := by
  rw [Option.eq_none_iff_forall_ne_some, keys, List.mem_map]
  constructor
  · rintro h ⟨⟨k, v⟩, he, rfl⟩
    exact h v (get?_eq_some.mpr he)
  · intro h v hv
    exact h ⟨_, get?_eq_some.mp hv, rfl⟩

theorem get?_keep_eq_some : (m.keep p).get? k = some v ↔ m.get? k = some v ∧ p (k, v) = true := by
  rw [get?_eq_some, get?_eq_some]
  exact List.mem_filter

theorem mem_setEntries {e : κ × α} {entries : List (κ × α)} (hnodup : (entries.map Prod.fst).Nodup) :
    e ∈ setEntries k v entries ↔ e = (k, v) ∨ e ∈ entries ∧ e.1 ≠ k := by
  induction entries with
  | nil => simp [setEntries]
  | cons a rest ih =>
      obtain ⟨ha, hrest⟩ := List.nodup_cons.mp hnodup
      by_cases hk : a.1 = k
      · have hother : ∀ e ∈ rest, e.1 ≠ k := by
          rintro e he rfl
          exact ha (hk ▸ List.mem_map_of_mem he)
        simp only [setEntries, if_pos hk, List.mem_cons]
        constructor
        · rintro (he | he)
          · exact .inl he
          · exact .inr ⟨.inr he, hother e he⟩
        · rintro (he | ⟨rfl | he, hne⟩)
          · exact .inl he
          · exact absurd hk hne
          · exact .inr he
      · simp only [setEntries, if_neg hk, List.mem_cons, ih hrest]
        constructor
        · rintro (rfl | rfl | ⟨he, hne⟩)
          · exact .inr ⟨.inl rfl, hk⟩
          · exact .inl rfl
          · exact .inr ⟨.inr he, hne⟩
        · rintro (rfl | ⟨rfl | he, hne⟩)
          · exact .inr (.inl rfl)
          · exact .inl rfl
          · exact .inr (.inr ⟨he, hne⟩)

@[simp] theorem get?_set_self : (m.set k v).get? k = some v :=
  get?_eq_some.mpr ((mem_setEntries m.nodup).mpr (.inl rfl))

theorem get?_set_of_ne (h : k' ≠ k) : (m.set k v).get? k' = m.get? k' := by
  refine Option.ext fun w => ?_
  rw [get?_eq_some, get?_eq_some, set, mem_setEntries m.nodup]
  simp [h]

/-- A new key goes to the end. -/
theorem entries_set_of_not_mem (h : k ∉ m.keys) : (m.set k v).entries = m.entries ++ [(k, v)] := by
  have hentries : ∀ entries : List (κ × α), k ∉ entries.map Prod.fst →
      setEntries k v entries = entries ++ [(k, v)] := by
    intro entries
    induction entries with
    | nil => exact fun _ => rfl
    | cons e rest ih =>
        intro hk
        rw [List.map_cons, List.mem_cons, not_or] at hk
        rw [setEntries, if_neg (Ne.symm hk.1), ih hk.2, List.cons_append]
  exact hentries m.entries h

/-! ## Sizes -/

theorem keys_set : (m.set k v).keys = if k ∈ m.keys then m.keys else m.keys ++ [k] :=
  keys_setEntries k v m.entries

omit [DecidableEq κ] in
theorem size_eq (m : OrderedMap κ α) : m.size = m.keys.length := (List.length_map _).symm

theorem size_set_of_mem (h : k ∈ m.keys) : (m.set k v).size = m.size := by
  rw [size_eq, size_eq, keys_set, if_pos h]

theorem size_set_le : (m.set k v).size ≤ m.size + 1 := by
  rw [size_eq, size_eq, keys_set]
  split <;> simp

omit [DecidableEq κ] in
theorem size_keep_le : (m.keep p).size ≤ m.size := List.length_filter_le _ _

theorem size_delete_lt (h : k ∈ m.keys) : (m.delete k).size < m.size := by
  obtain ⟨e, he, rfl⟩ := List.mem_map.mp h
  exact List.length_filter_lt_length_iff_exists.mpr ⟨e, he, by simp⟩

/-- A sum over the values changes by what a new value adds to the one in its place. -/
theorem sum_set (f : α → ℕ) (m : OrderedMap κ α) (k : κ) (v : α) :
    ((m.set k v).values.map f).sum + (m.get? k).elim 0 f = (m.values.map f).sum + f v := by
  obtain ⟨entries, hnodup⟩ := m
  simp only [set, values, get?]
  clear hnodup
  induction entries with
  | nil => simp [setEntries]
  | cons e rest ih =>
      by_cases hk : e.1 = k
      · simp [setEntries, hk]
        omega
      · simp only [setEntries, hk, if_false, List.map_cons, List.sum_cons, List.find?_cons_of_neg,
          decide_false, Bool.false_eq_true, not_false_eq_true]
        omega

end OrderedMap

end Lib
