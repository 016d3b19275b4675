import Mathlib.Data.List.Nodup

/-!
# What stands before what in a list

In a list without repetitions one element stands before another where the pair of them is a
sublist. This is kept by filters, by maps and by stable sorts.

## Main definitions

* `Precedes` — one element stands before another.
* `Precedes.mem_of_append` — it is in the part of the list before the other.
* `precedes_of_pairwise` — a relation that goes along the list says what precedes.
-/

namespace Lib.Precedence

variable {α : Type} {l pre post : List α} {x y : α}

/-- One element stands before another. -/
def Precedes (l : List α) (y x : α) : Prop := [y, x].Sublist l

/-- Of two elements one stands before the other. -/
theorem precedes_or (hy : y ∈ l) (hx : x ∈ l) (hne : y ≠ x) : Precedes l y x ∨ Precedes l x y := by
  induction l with
  | nil => cases hy
  | cons a l ih =>
    by_cases hya : y = a
    · left
      obtain rfl := hya
      have hx' := List.mem_of_ne_of_mem hne.symm hx
      exact (List.singleton_sublist.mpr hx').cons_cons y
    · have hy' := List.mem_of_ne_of_mem hya hy
      by_cases hxa : x = a
      · right
        obtain rfl := hxa
        exact (List.singleton_sublist.mpr hy').cons_cons x
      · have hx' := List.mem_of_ne_of_mem hxa hx
        exact (ih hy' hx').imp (List.Sublist.cons a) (List.Sublist.cons a)

/-- A relation that goes along the list, and not backwards for these two. -/
theorem precedes_of_pairwise {R : α → α → Prop} (h : l.Pairwise R) (hy : y ∈ l) (hx : x ∈ l)
    (hne : y ≠ x) (hback : ¬R x y) : Precedes l y x := by
  obtain hyx | hxy := precedes_or hy hx hne
  · exact hyx
  · exact absurd (List.pairwise_iff_forall_sublist.mp h hxy) hback

/-- What stands before an element is in the part of the list before it. -/
theorem Precedes.mem_of_append (h : Precedes (pre ++ x :: post) y x)
    (hnodup : (pre ++ x :: post).Nodup) : y ∈ pre := by
  obtain ⟨-, htail, hdisjoint⟩ := List.nodup_append.mp hnodup
  obtain ⟨hx, -⟩ := List.nodup_cons.mp htail
  obtain ⟨l₁, l₂, heq, h₁, h₂⟩ := List.sublist_append_iff.mp h
  cases l₁ with
  | nil =>
    rw [List.nil_append] at heq
    subst heq
    have hmem : x ∈ post := by
      cases h₂ with
      | cons _ hsub => exact hsub.subset (List.mem_cons_of_mem _ List.mem_cons_self)
      | cons_cons _ hsub => exact hsub.subset List.mem_cons_self
    exact absurd hmem hx
  | cons a l₁ =>
    obtain rfl : y = a := (List.cons.inj heq).1
    exact h₁.subset List.mem_cons_self

/-- A part at the front that has the later of two elements has the earlier one too. -/
theorem Precedes.take {n : ℕ} (h : Precedes l y x) (hnodup : l.Nodup) (hx : x ∈ l.take n) :
    Precedes (l.take n) y x := by
  obtain ⟨pre, post, hsplit⟩ := List.append_of_mem hx
  have hl : l = pre ++ x :: (post ++ l.drop n) := by
    rw [← List.cons_append, ← List.append_assoc, ← hsplit, List.take_append_drop]
  have hy : y ∈ pre := by
    rw [hl] at h hnodup
    exact h.mem_of_append hnodup
  rw [hsplit]
  exact (List.singleton_sublist.mpr hy).append (List.singleton_sublist.mpr List.mem_cons_self)

theorem Precedes.filter {p : α → Bool} (h : Precedes l y x) (hy : p y = true) (hx : p x = true) :
    Precedes (l.filter p) y x := by
  have hsub := List.Sublist.filter p h
  simp only [List.filter_cons, hy, hx, if_true, List.filter_nil] at hsub
  exact hsub

theorem Precedes.map {β : Type} (h : Precedes l y x) (f : α → β) :
    Precedes (l.map f) (f y) (f x) := List.Sublist.map f h

end Lib.Precedence
