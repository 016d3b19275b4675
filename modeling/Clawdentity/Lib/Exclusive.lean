import Clawdentity.Lib.Interleave

/-!
# Calls that hold something alone

In a pool of interleaved calls, some of the calls hold a thing that only one may hold, and
the shared state says whether it is free. A piece of code leaves the thing alone, takes it
while it is free, or gives back what its call holds.

## Main definitions

* `HolderMove` — what a piece of code does to the thing.
* `Exclusive` — at most one call holds it, and none while it is free.
-/

namespace Lib.Interleave

universe u v
variable {σ : Type u} {κ : Type v}

/-- What a piece of code does: whether the thing is free before and after, and whether the
call holds it before and after. -/
inductive HolderMove (free free' : Prop) (held held' : Bool) : Prop
  | keep (not_freed : free' → free) (no_new : held' = true → held = true)
  | take (was_free : free) (now_taken : ¬free')
  | release (was_held : held = true) (not_held : held' = false)

/-- At most one call holds the thing, and none while it is free. -/
structure Exclusive (free : σ → Prop) (holds : κ → Bool) (p : Pool σ κ) : Prop where
  one_holder : p.calls.countP holds ≤ 1
  free_none : free p.shared → p.calls.countP holds = 0

variable {free : σ → Prop} {holds : κ → Bool} {p : Pool σ κ} {s' : σ} {i : ℕ} {c c' : κ}

theorem exclusive_nil (s : σ) : Exclusive free holds (⟨s, []⟩ : Pool σ κ) :=
  ⟨Nat.zero_le _, fun _ => rfl⟩

/-- A resumed call. -/
theorem Exclusive.resume (hp : Exclusive free holds p) (hc : p.calls[i]? = some c)
    (hmove : HolderMove (free p.shared) (free s') (holds c) (holds c')) :
    Exclusive free holds ⟨s', p.calls.set i c'⟩ := by
  have hcount := countP_set_add holds c' hc
  have hone := hp.one_holder
  have hnone := hp.free_none
  cases hmove with
  | keep not_freed no_new =>
      have hle : (p.calls.set i c').countP holds ≤ p.calls.countP holds := by
        cases hnew : holds c' with
        | false =>
            simp only [hnew, Bool.false_eq_true, if_false] at hcount
            omega
        | true =>
            simp only [hnew, no_new hnew, if_true] at hcount
            omega
      refine ⟨Nat.le_trans hle hone, ?_⟩
      intro hfree
      exact Nat.le_zero.mp (Nat.le_trans hle (Nat.le_of_eq (hnone (not_freed hfree))))
  | take was_free now_taken =>
      refine ⟨?_, fun hfree => absurd hfree now_taken⟩
      have hzero := hnone was_free
      change (p.calls.set i c').countP holds ≤ 1
      split at hcount <;> split at hcount <;> omega
  | release was_held not_held =>
      simp only [was_held, not_held, if_true, Bool.false_eq_true, if_false] at hcount
      have hzero : (p.calls.set i c').countP holds = 0 := by omega
      exact ⟨Nat.le_trans (Nat.le_of_eq hzero) (Nat.zero_le 1), fun _ => hzero⟩

/-- A new call, which holds nothing. -/
theorem Exclusive.start (hp : Exclusive free holds p) (hfreed : free s' → free p.shared)
    (hc : holds c = false) : Exclusive free holds ⟨s', p.calls ++ [c]⟩ := by
  have hcount : (p.calls ++ [c]).countP holds = p.calls.countP holds := by
    simp [hc]
  refine ⟨Nat.le_trans (Nat.le_of_eq hcount) hp.one_holder, ?_⟩
  intro hfree
  exact hcount.trans (hp.free_none (hfreed hfree))

/-- Two calls that hold the thing count as two. -/
theorem two_le_countP {calls : List κ} {j : ℕ} {d : κ} (hc : calls[i]? = some c)
    (hd : calls[j]? = some d) (hlt : i < j) (hheld : holds c = true) (hother : holds d = true) :
    2 ≤ calls.countP holds := by
  have hpre : 0 < (calls.take j).countP holds := by
    apply List.countP_pos_iff.mpr
    refine ⟨c, List.mem_iff_getElem?.mpr ⟨i, ?_⟩, hheld⟩
    rw [List.getElem?_take_of_lt hlt, hc]
  have hpost : 0 < (calls.drop j).countP holds := by
    apply List.countP_pos_iff.mpr
    refine ⟨d, List.mem_iff_getElem?.mpr ⟨0, ?_⟩, hother⟩
    rw [List.getElem?_drop, Nat.add_zero, hd]
  have hsplit : calls.countP holds = (calls.take j).countP holds + (calls.drop j).countP holds := by
    rw [← List.countP_append, List.take_append_drop]
  omega

/-- While a call holds the thing, no other one does. -/
theorem Exclusive.alone {j : ℕ} {d : κ} (hp : Exclusive free holds p) (hc : p.calls[i]? = some c)
    (hheld : holds c = true) (hd : p.calls[j]? = some d) (hne : i ≠ j) : holds d = false := by
  by_contra hother
  rw [Bool.not_eq_false] at hother
  have hone := hp.one_holder
  rcases Nat.lt_or_gt_of_ne hne with hlt | hgt
  · have htwo := two_le_countP hc hd hlt hheld hother
    omega
  · have htwo := two_le_countP hd hc hgt hother hheld
    omega

/-! ## A thing that is never left behind -/

/-- A resumed call that does not drop the thing: if it is taken afterwards, then by the call, or it
was taken before by another one. -/
theorem exists_holder_resume (hp : ¬free p.shared → ∃ d ∈ p.calls, holds d = true)
    (hc : p.calls[i]? = some c)
    (hmove : ¬free s' → holds c' = true ∨ ¬free p.shared ∧ holds c = false) (htaken : ¬free s') :
    ∃ d ∈ p.calls.set i c', holds d = true := by
  rcases hmove htaken with hheld | ⟨hbefore, hnot⟩
  · exact ⟨c', mem_set_self hc, hheld⟩
  · obtain ⟨d, hd, hheld⟩ := hp hbefore
    rcases mem_set_or_eq hc hd with rfl | hother
    · rw [hheld] at hnot
      cases hnot
    · exact ⟨d, hother, hheld⟩

end Lib.Interleave
