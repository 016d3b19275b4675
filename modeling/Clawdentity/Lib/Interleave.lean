import Clawdentity.Lib.Run
import Mathlib.Algebra.GroupWithZero.Nat
import Mathlib.Data.List.Basic

/-!
# Interleaved calls over a shared state

A program is the code of one call: how a call starts on the shared state, and how
a suspended call goes on from it. A pool holds the shared state and every call
made so far; a move starts a new call or resumes the one at an index. A run of
moves is then any interleaving of any number of calls, with a switch wherever the
code of a call is cut into two.

## Main definitions

* `Program` — the code of a call, cut at its points of suspension.
* `Program.step` — one move of the pool, for the runs of `Lib.Run`.
* `Program.step_cases` — everything a move can do.
-/

namespace Lib.Interleave

universe u v w x
variable {σ : Type u} {κ : Type v} {ι : Type w} {χ : Type x}

/-- The shared state and the calls, in the order in which they started. -/
structure Pool (σ : Type u) (κ : Type v) where
  shared : σ
  calls : List κ

/-- Start a call with its argument, or resume the call at an index; the choice
carries what the environment decides there. -/
inductive Move (ι : Type w) (χ : Type x)
  | start (arg : ι)
  | resume (i : ℕ) (choice : χ)

/-- The code of a call. A segment answers the new shared state and the call as it
is suspended or finished, or `none` when it is not enabled. -/
structure Program (σ : Type u) (κ : Type v) (ι : Type w) (χ : Type x) where
  start : σ → ι → Option (σ × κ)
  resume : σ → κ → χ → Option (σ × κ)

/-- One move of the pool. -/
def Program.step (P : Program σ κ ι χ) (p : Pool σ κ) : Move ι χ → Option (Pool σ κ)
  | .start arg => (P.start p.shared arg).map fun r => ⟨r.1, p.calls ++ [r.2]⟩
  | .resume i choice =>
      p.calls[i]?.bind fun c =>
        (P.resume p.shared c choice).map fun r => ⟨r.1, p.calls.set i r.2⟩

/-- **What one move does.** -/
theorem Program.step_cases {P : Program σ κ ι χ} {p q : Pool σ κ} {e : Move ι χ}
    (h : P.step p e = some q) :
    (∃ arg s c, e = .start arg ∧ P.start p.shared arg = some (s, c) ∧
      q = ⟨s, p.calls ++ [c]⟩) ∨
    (∃ i choice c s c', e = .resume i choice ∧ p.calls[i]? = some c ∧
      P.resume p.shared c choice = some (s, c') ∧ q = ⟨s, p.calls.set i c'⟩) := by
  cases e with
  | start arg =>
      obtain ⟨⟨s, c⟩, hs, rfl⟩ := Option.map_eq_some_iff.mp h
      exact .inl ⟨arg, s, c, rfl, hs, rfl⟩
  | resume i choice =>
      obtain ⟨c, hc, h⟩ := Option.bind_eq_some_iff.mp h
      obtain ⟨⟨s, c'⟩, hs, rfl⟩ := Option.map_eq_some_iff.mp h
      exact .inr ⟨i, choice, c, s, c', rfl, hc, hs, rfl⟩

/-! ## The calls after a resumption -/

variable {calls : List κ} {i : ℕ} {c c' d : κ}

/-- The resumed call stands in its place. -/
theorem mem_set_self (h : calls[i]? = some c) : c' ∈ calls.set i c' := by
  obtain ⟨hi, _⟩ := List.getElem?_eq_some_iff.mp h
  exact List.mem_set hi c'

/-- Every other call is still there. -/
theorem mem_set_or_eq (h : calls[i]? = some c) (hd : d ∈ calls) : d = c ∨ d ∈ calls.set i c' := by
  obtain ⟨j, hj⟩ := List.mem_iff_getElem?.mp hd
  by_cases hij : i = j
  · subst hij
    exact .inl (Option.some.inj (hj.symm.trans h))
  · exact .inr (List.mem_iff_getElem?.mpr ⟨j, by rw [List.getElem?_set_ne hij, hj]⟩)

/-- The call at an index after a call has started. -/
theorem getElem?_or_eq_of_append {j : ℕ} (h : (calls ++ [c])[j]? = some d) :
    calls[j]? = some d ∨ d = c := by
  by_cases hj : j < calls.length
  · rw [List.getElem?_append_left hj] at h
    exact .inl h
  · rw [List.getElem?_append_right (Nat.not_lt.mp hj)] at h
    exact .inr (List.mem_singleton.mp (List.mem_of_getElem? h))

/-- The call at an index after a resumption. -/
theorem getElem?_or_eq_of_set {j : ℕ} (h : (calls.set i c')[j]? = some d) :
    calls[j]? = some d ∨ d = c' := by
  by_cases hij : i = j
  · subst hij
    obtain ⟨_, hget⟩ := List.getElem?_eq_some_iff.mp h
    rw [List.getElem_set_self] at hget
    exact .inr hget.symm
  · rw [List.getElem?_set_ne hij] at h
    exact .inl h

/-- What the calls keep over a resumption. -/
theorem filterMap_set {β : Type*} (f : κ → Option β) (h : calls[i]? = some c) (hf : f c' = f c) :
    (calls.set i c').filterMap f = calls.filterMap f := by
  induction calls generalizing i with
  | nil => rfl
  | cons d rest ih =>
      cases i with
      | zero =>
          cases h
          simp only [List.set_cons_zero, List.filterMap_cons, hf]
      | succ i =>
          have hrest := ih h
          simp only [List.set_cons_succ, List.filterMap_cons, hrest]

/-- How a resumption changes the number of calls with a property. -/
theorem countP_set_add (q : κ → Bool) (c' : κ) (h : calls[i]? = some c) :
    (calls.set i c').countP q + (if q c then 1 else 0) =
      calls.countP q + (if q c' then 1 else 0) := by
  obtain ⟨hi, hget⟩ := List.getElem?_eq_some_iff.mp h
  have hle : (if q c then 1 else 0) ≤ calls.countP q := by
    split
    · exact List.countP_pos_iff.mpr ⟨c, List.mem_of_getElem? h, by assumption⟩
    · exact Nat.zero_le _
  rw [List.countP_set hi, hget]
  omega

/-! ## What the shared state and the calls hold together -/

section
variable (size : σ → ℕ) (weight : κ → ℕ)

/-- The size of the shared state, and what the calls may still add to it. -/
def Pool.budget (p : Pool σ κ) : ℕ := size p.shared + (p.calls.map weight).sum

theorem budget_start (p : Pool σ κ) (s : σ) (c : κ) :
    Pool.budget size weight ⟨s, p.calls ++ [c]⟩ + size p.shared =
      p.budget size weight + size s + weight c := by
  simp only [Pool.budget, List.map_append, List.sum_append, List.map_cons, List.map_nil,
    List.sum_cons, List.sum_nil]
  omega

theorem sum_set_add (weight : κ → ℕ) (c' : κ) (h : calls[i]? = some c) :
    ((calls.set i c').map weight).sum + weight c = (calls.map weight).sum + weight c' := by
  induction calls generalizing i with
  | nil => cases h
  | cons d rest ih =>
      cases i with
      | zero =>
          cases h
          simp only [List.set_cons_zero, List.map_cons, List.sum_cons]
          omega
      | succ i =>
          have hrest := ih h
          simp only [List.set_cons_succ, List.map_cons, List.sum_cons]
          omega

theorem budget_resume {p : Pool σ κ} (h : p.calls[i]? = some c) (s : σ) (c' : κ) :
    Pool.budget size weight ⟨s, p.calls.set i c'⟩ + size p.shared + weight c =
      p.budget size weight + size s + weight c' := by
  have hsum := sum_set_add weight c' h
  simp only [Pool.budget]
  omega

end

end Lib.Interleave
