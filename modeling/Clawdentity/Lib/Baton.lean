import Clawdentity.Lib.Interleave
import Mathlib.Algebra.Order.BigOperators.Group.List
import Mathlib.Algebra.Order.Group.Nat

/-!
# Batons that pieces of code hand on

In a pool of interleaved calls, a job is kept alive by batons. The shared state holds some of them,
and each suspended call may hold some. A piece of code takes over the batons of the shared state
and of its call, and leaves no more of them behind; and it leaves at least one, if it had one and
the job is still on.

## Main definitions

* `Handover` — what a piece of code does to the batons that it has in hand.
* `Handover.of_off` — the batons are laid down when the job is off.
* `Passing` — no more batons than were made, and at least one while the job is on.
* `Passing.start`, `Passing.resume`, `Passing.make` — the moves of a pool keep it.
-/

namespace Lib.Interleave

universe u v
variable {σ : Type u} {κ : Type v} {hold : σ → ℕ} {on : σ → Prop} {s s' : σ} {n n' : ℕ}

/-- A piece of code on the shared state, with the batons in hand before and after. -/
structure Handover (hold : σ → ℕ) (on : σ → Prop) (s : σ) (n : ℕ) (s' : σ) (n' : ℕ) : Prop where
  le : hold s' + n' ≤ hold s + n
  alive : on s' → 0 < hold s + n → 0 < hold s' + n'
  not_turned_on : on s' → on s

/-- The batons are laid down: the job is off. -/
theorem Handover.of_off (hle : hold s' + n' ≤ hold s + n) (hoff : ¬on s') :
    Handover hold on s n s' n' :=
  ⟨hle, fun hon => absurd hon hoff, fun hon => absurd hon hoff⟩

/-! ## The pool -/

variable {weight : κ → ℕ} {made : σ → ℕ} {p : Pool σ κ} {i : ℕ} {c c' : κ}

/-- No more batons than were made, and at least one while the job is on. -/
structure Passing (hold : σ → ℕ) (weight : κ → ℕ) (on : σ → Prop) (made : σ → ℕ)
    (p : Pool σ κ) : Prop where
  le_made : p.budget hold weight ≤ made p.shared
  alive : on p.shared → 0 < p.budget hold weight

theorem passing_nil (hhold : hold s = 0) (hoff : ¬on s) :
    Passing hold weight on made ⟨s, []⟩ := by
  refine ⟨?_, fun hon => absurd hon hoff⟩
  simp [Pool.budget, hhold]

/-- A resumed call hands its batons on. -/
theorem Passing.resume (hp : Passing hold weight on made p) (hc : p.calls[i]? = some c)
    (h : Handover hold on p.shared (weight c) s' (weight c')) (hmade : made s' = made p.shared) :
    Passing hold weight on made ⟨s', p.calls.set i c'⟩ := by
  have hbudget := budget_resume hold weight hc s' c'
  have hmade_le := hp.le_made
  have hle := h.le
  constructor
  · change Pool.budget hold weight ⟨s', p.calls.set i c'⟩ ≤ made s'
    omega
  · intro hon
    have hbefore := hp.alive (h.not_turned_on hon)
    by_cases hpos : 0 < hold p.shared + weight c
    · have hafter := h.alive hon hpos
      have hin : hold s' ≤ Pool.budget hold weight ⟨s', p.calls.set i c'⟩ := Nat.le_add_right _ _
      have hmem : weight c' ∈ (p.calls.set i c').map weight :=
        List.mem_map_of_mem (mem_set_self hc)
      have hsum := List.single_le_sum (fun _ _ => Nat.zero_le _) _ hmem
      have hle' : hold s' + weight c' ≤ Pool.budget hold weight ⟨s', p.calls.set i c'⟩ :=
        Nat.add_le_add_left hsum _
      omega
    · omega

/-- A new call works with the batons of the shared state. -/
theorem Passing.start (hp : Passing hold weight on made p)
    (h : Handover hold on p.shared 0 s' (weight c)) (hmade : made s' = made p.shared) :
    Passing hold weight on made ⟨s', p.calls ++ [c]⟩ := by
  have hbudget := budget_start hold weight p s' c
  have hmade_le := hp.le_made
  have hle := h.le
  have hheld : hold p.shared ≤ p.budget hold weight := Nat.le_add_right _ _
  constructor
  · change Pool.budget hold weight ⟨s', p.calls ++ [c]⟩ ≤ made s'
    omega
  · intro hon
    have hbefore := hp.alive (h.not_turned_on hon)
    by_cases hpos : 0 < hold p.shared
    · have hafter := h.alive hon hpos
      omega
    · omega

/-- A new call brings a new baton along. -/
theorem Passing.make (hp : Passing hold weight on made p)
    (hle : hold s' + weight c ≤ hold p.shared + 1) (hpos : on s' → 0 < hold s' + weight c)
    (hmade : made s' = made p.shared + 1) :
    Passing hold weight on made ⟨s', p.calls ++ [c]⟩ := by
  have hbudget := budget_start hold weight p s' c
  have hmade_le := hp.le_made
  have hheld : hold p.shared ≤ p.budget hold weight := Nat.le_add_right _ _
  constructor
  · change Pool.budget hold weight ⟨s', p.calls ++ [c]⟩ ≤ made s'
    omega
  · intro hon
    have hafter := hpos hon
    omega

end Lib.Interleave
