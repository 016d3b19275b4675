import Mathlib.Data.List.Nodup

/-!
# Rows with a primary key

The rows of a table are a list, and no two of them have one key.

## Main definitions

* `perm_of_find` — a row, and the rows that a `DELETE` by its key leaves, are the table.
* `taken`, `left` — the rows that have one of some keys, and the others.
-/

namespace Lib.Rows

variable {α κ : Type} [DecidableEq κ] {key : α → κ} {rows : List α} {k : κ} {row : α}

theorem filter_of_find_eq_none (h : rows.find? (fun r => key r = k) = none) :
    (rows.filter fun r => key r ≠ k) = rows := by
  refine List.filter_eq_self.mpr ?_
  intro r hr
  simpa using List.find?_eq_none.mp h r hr

theorem key_of_find (h : rows.find? (fun r => key r = k) = some row) : row ∈ rows ∧ key row = k :=
  ⟨List.mem_of_find?_eq_some h, by simpa using List.find?_some h⟩

omit [DecidableEq κ] in
theorem nodup_filter (h : (rows.map key).Nodup) (p : α → Bool) : ((rows.filter p).map key).Nodup :=
  h.sublist (List.filter_sublist.map key)

/-- A row, and the rows that a `DELETE` by its key leaves, are the table. -/
theorem perm_of_find (h : (rows.map key).Nodup)
    (hfind : rows.find? (fun r => key r = k) = some row) :
    rows.Perm (row :: rows.filter fun r => key r ≠ k) := by
  induction rows with
  | nil => cases hfind
  | cons r rest ih =>
      obtain ⟨hr, hrest⟩ := List.nodup_cons.mp h
      by_cases hk : key r = k
      · rw [List.find?_cons_of_pos (by simpa using hk)] at hfind
        obtain rfl := Option.some.inj hfind
        have hothers : (rest.filter fun r' => key r' ≠ k) = rest := by
          refine List.filter_eq_self.mpr ?_
          intro r' hr'
          have hne : key r' ≠ k := by
            intro h'
            exact hr (List.mem_map.mpr ⟨r', hr', h'.trans hk.symm⟩)
          simpa using hne
        rw [List.filter_cons_of_neg (by simpa using hk), hothers]
      · rw [List.find?_cons_of_neg (by simpa using hk)] at hfind
        rw [List.filter_cons_of_pos (by simpa using hk)]
        exact ((ih hrest hfind).cons r).trans (List.Perm.swap _ _ _)

/-! ## The rows of some keys -/

/-- The rows that have one of the keys. -/
def taken (key : α → κ) (ks : List κ) (rows : List α) : List α := rows.filter fun r => key r ∈ ks

/-- The rows that have none of the keys. -/
def left (key : α → κ) (ks : List κ) (rows : List α) : List α := rows.filter fun r => key r ∉ ks

@[simp] theorem taken_nil : taken key [] rows = [] := by simp [taken]

@[simp] theorem left_nil : left key [] rows = rows := by simp [left]

theorem taken_eq_self {ks : List κ} (h : ∀ r ∈ rows, key r ∈ ks) : taken key ks rows = rows :=
  List.filter_eq_self.mpr fun r hr => decide_eq_true (h r hr)

theorem taken_map {β : Type} (f : β → α) (ks : List κ) (rows : List β) :
    taken key ks (rows.map f) = (taken (fun r => key (f r)) ks rows).map f :=
  List.filter_map ..

theorem left_map {β : Type} (f : β → α) (ks : List κ) (rows : List β) :
    left key ks (rows.map f) = (left (fun r => key (f r)) ks rows).map f :=
  List.filter_map ..

theorem taken_append_left (key : α → κ) (ks : List κ) (rows : List α) :
    (taken key ks rows ++ left key ks rows).Perm rows := by
  have hperm := List.filter_append_perm (fun r => decide (key r ∈ ks)) rows
  simpa only [taken, left, decide_not] using hperm

/-- The row that has the first key is taken before those that have one of the others. -/
theorem perm_taken (h : (rows.map key).Nodup)
    (hfind : rows.find? (fun r => key r = k) = some row) (ks : List κ) :
    (taken key (k :: ks) rows).Perm (row :: taken key ks (rows.filter fun r => key r ≠ k)) := by
  have hfirst : key row = k := (key_of_find hfind).2
  have hothers : (rows.filter fun r => key r ≠ k).filter (fun r => key r ∈ k :: ks) =
      taken key ks (rows.filter fun r => key r ≠ k) := by
    refine List.filter_congr ?_
    intro r hr
    have hne : key r ≠ k := by simpa using (List.mem_filter.mp hr).2
    simp [hne]
  have hperm := (perm_of_find h hfind).filter fun r => key r ∈ k :: ks
  rwa [List.filter_cons_of_pos (by simp [hfirst]), hothers] at hperm

/-- Where no row has the first key, only the others select. -/
theorem taken_of_find_eq_none (h : rows.find? (fun r => key r = k) = none) (ks : List κ) :
    taken key (k :: ks) rows = taken key ks rows := by
  refine List.filter_congr ?_
  intro r hr
  have hne : key r ≠ k := by simpa using List.find?_eq_none.mp h r hr
  simp [hne]

/-- The rows are deleted key by key. -/
theorem left_filter (key : α → κ) (k : κ) (ks : List κ) (rows : List α) :
    left key ks (rows.filter fun r => key r ≠ k) = left key (k :: ks) rows := by
  rw [left, List.filter_filter]
  refine List.filter_congr ?_
  intro r _
  simp [Bool.and_comm]

/-! ## A row after a statement -/

theorem find_of_mem (h : (rows.map key).Nodup) (hrow : row ∈ rows) :
    rows.find? (fun r => key r = key row) = some row := by
  cases hfind : rows.find? fun r => key r = key row with
  | none => simpa using List.find?_eq_none.mp hfind row hrow
  | some other =>
      obtain ⟨hother, hkey⟩ := key_of_find hfind
      rw [List.inj_on_of_nodup_map h hother hrow hkey]

theorem nodup_insert (h : (rows.map key).Nodup)
    (hnone : rows.find? (fun r => key r = key row) = none) : ((rows ++ [row]).map key).Nodup := by
  rw [List.map_append, List.nodup_append]
  refine ⟨h, List.nodup_singleton _, ?_⟩
  intro k hk k' hk'
  obtain ⟨r, hr, rfl⟩ := List.mem_map.mp hk
  obtain rfl := List.mem_singleton.mp hk'
  simpa using List.find?_eq_none.mp hnone r hr

omit [DecidableEq κ] in
theorem nodup_update {f : α → α} (hkey : ∀ r, key (f r) = key r) (h : (rows.map key).Nodup) :
    ((rows.map f).map key).Nodup := by
  rw [List.map_map]
  simpa only [Function.comp_def, hkey] using h

theorem find_insert (h : rows.find? (fun r => key r = key row) = none) :
    (rows ++ [row]).find? (fun r => key r = k) =
      if key row = k then some row else rows.find? fun r => key r = k := by
  rw [List.find?_append]
  split
  · rename_i heq
    rw [← heq, h]
    simp
  · rename_i hne
    simp [hne]

/-- An `UPDATE` that keeps the keys. -/
theorem find_update (key : α → κ) {f : α → α} (hkey : ∀ r, key (f r) = key r) (rows : List α) (k : κ) :
    (rows.map f).find? (fun r => key r = k) = (rows.find? fun r => key r = k).map f := by
  rw [List.find?_map]
  simp only [Function.comp_def, hkey]

theorem find_delete (key : α → κ) (rows : List α) (j k : κ) :
    (rows.filter fun r => key r ≠ j).find? (fun r => key r = k) =
      if k = j then none else rows.find? fun r => key r = k := by
  rw [List.find?_filter]
  split
  · rename_i heq
    subst heq
    rw [List.find?_eq_none]
    simp
  · rename_i hne
    congr 1
    funext r
    by_cases hr : key r = k <;> simp [hr, hne]

end Lib.Rows
