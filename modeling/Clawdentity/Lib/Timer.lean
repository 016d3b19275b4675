import Mathlib.Order.Bounds.Basic
import Mathlib.Order.MinMax

/-!
# Timers and deadlines

A timer is in time for deadlines when it goes off by each of them; for one before the floor
it may go off at the floor. The smallest of several candidates is in time for the deadlines
that each have a candidate in time. A timer is exact when it is set just where there is a
deadline, to the first one.

## Main definitions

* `InTime` — the timer goes off by every deadline.
* `inTime_min?` — the smallest candidate is.
* `InTime.le_min?` — what it means for the smallest deadline.
* `Exact` — the timer is set to the first deadline, if any.
-/

namespace Lib.Timer

universe u
variable {α : Type u} [LinearOrder α] {timer : Option α} {floor floor' d : α}
  {deadlines deadlines' candidates : List α}

/-- The timer is set, and in time, if there is a deadline. -/
def InTime (timer : Option α) (floor : α) (deadlines : List α) : Prop :=
  ∀ d ∈ deadlines, ∃ t, timer = some t ∧ t ≤ max floor d

theorem InTime.later (h : InTime timer floor deadlines) (hfloor : floor ≤ floor') :
    InTime timer floor' deadlines := by
  intro d hd
  obtain ⟨t, ht, hle⟩ := h d hd
  exact ⟨t, ht, hle.trans (max_le_max hfloor (le_refl d))⟩

theorem InTime.subset (h : InTime timer floor deadlines)
    (hsubset : ∀ d ∈ deadlines', d ∈ deadlines) : InTime timer floor deadlines' :=
  fun d hd => h d (hsubset d hd)

/-- A list with an element has a smallest one, and that is in it. -/
theorem min?_spec {candidates : List α} (h : d ∈ candidates) :
    ∃ m, candidates.min? = some m ∧ m ∈ candidates ∧ m ≤ d := by
  have : Std.LawfulOrderMin α := { le_min_iff := fun _ _ _ => le_min_iff, min_eq_or := min_choice }
  obtain ⟨m, hm⟩ := Option.isSome_iff_exists.mp (List.isSome_min?_of_mem h)
  obtain ⟨hmem, hle⟩ := List.min?_eq_some_iff.mp hm
  exact ⟨m, hm, hmem, hle d h⟩

theorem min?_toList (timer : Option α) : timer.toList.min? = timer := by
  cases timer <;> rfl

/-- The smallest candidate stands for all those it was taken from. -/
theorem min?_append_toList (candidates candidates' : List α) :
    (candidates.min?.toList ++ candidates').min? = (candidates ++ candidates').min? := by
  cases candidates with
  | nil => rfl
  | cons c rest =>
      rw [List.min?_cons', Option.toList_some, List.singleton_append, List.min?_cons',
        List.cons_append, List.min?_cons', List.foldl_append]

/-- **The smallest candidate is in time** for the deadlines that each have one. -/
theorem inTime_min? (h : ∀ d ∈ deadlines, ∃ c ∈ candidates, c ≤ max floor d) :
    InTime candidates.min? floor deadlines := by
  intro d hd
  obtain ⟨c, hc, hle⟩ := h d hd
  obtain ⟨m, hm, _, hmin⟩ := min?_spec hc
  exact ⟨m, hm, hmin.trans hle⟩

/-- A timer is in time for the smallest deadline. -/
theorem InTime.le_min? (h : InTime timer floor deadlines) (hd : d ∈ deadlines) :
    ∃ t m, timer = some t ∧ deadlines.min? = some m ∧ t ≤ max floor m := by
  obtain ⟨m, hm, hmem, _⟩ := min?_spec hd
  obtain ⟨t, ht, hle⟩ := h m hmem
  exact ⟨t, m, ht, hm, hle⟩

/-! ## Exact timers -/

/-- The timer is set if and only if there is a deadline, and then to the first one. -/
def Exact (timer : Option α) (deadlines : Set α) : Prop :=
  (timer.isSome ↔ deadlines.Nonempty) ∧ ∀ t ∈ timer, IsLeast deadlines t

/-- **The smallest of all deadlines** is exact. -/
theorem exact_min? {deadlines : Set α} (h : ∀ d, d ∈ candidates ↔ d ∈ deadlines) :
    Exact candidates.min? deadlines := by
  constructor
  · constructor
    · intro hset
      obtain ⟨d, hd⟩ := List.exists_mem_of_ne_nil _ (List.isSome_min?_iff.mp hset)
      exact ⟨d, (h d).mp hd⟩
    · intro ⟨d, hd⟩
      exact List.isSome_min?_of_mem ((h d).mpr hd)
  · intro t ht
    obtain ⟨d, hd⟩ := List.exists_mem_of_ne_nil _
      (List.isSome_min?_iff.mp (Option.isSome_of_mem ht))
    obtain ⟨m, hm, hmem, _⟩ := min?_spec hd
    cases hm.symm.trans ht
    refine ⟨(h t).mp hmem, fun d hd => ?_⟩
    obtain ⟨m', hm', _, hle⟩ := min?_spec ((h d).mpr hd)
    cases hm'.symm.trans hm
    exact hle

end Lib.Timer
