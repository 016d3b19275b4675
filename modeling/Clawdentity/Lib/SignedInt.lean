import Mathlib.Algebra.Order.Group.Int
import Mathlib.Algebra.Order.Ring.Int
import Mathlib.Tactic.Ring

/-!
# Signed integers of a fixed width

Arithmetic on signed integers of a width: an operation saturates at the bounds, or its overflow is
checked, and then panics or wraps around.

## Main definitions

* `saturate` — the nearest value in the range.
* `checked` — the value of an operation whose overflow is checked.
* `checked_two_pow` — the powers of two.
-/

namespace Lib.SignedInt

def minValue (w : ℕ) : ℤ := -2 ^ (w - 1)
def maxValue (w : ℕ) : ℤ := 2 ^ (w - 1) - 1

/-- The nearest value in the range. -/
def saturate (w : ℕ) (n : ℤ) : ℤ := max (minValue w) (min n (maxValue w))

/-- The value in the range that differs by a multiple of `2 ^ w`. -/
def wrap (w : ℕ) (n : ℤ) : ℤ := n.bmod (2 ^ w)

/-- The value of an operation: where it is out of the range it panics, or it wraps around. -/
def checked (panics : Bool) (w : ℕ) (n : ℤ) : Option ℤ :=
  if minValue w ≤ n ∧ n ≤ maxValue w then some n else if panics then none else some (wrap w n)

/-- The lowest bits of a number. -/
def truncate (w : ℕ) (n : ℤ) : ℕ := (n % 2 ^ w).toNat

section
variable {w e : ℕ} {n : ℤ} {panics : Bool}

theorem minValue_nonpos (w : ℕ) : minValue w ≤ 0 := by
  have hpow := pow_pos (show (0 : ℤ) < 2 by decide) (w - 1)
  simp only [minValue]
  omega

theorem saturate_of_nonneg (h : 0 ≤ n) : saturate w n = min n (maxValue w) := by
  have hmin := minValue_nonpos w
  have hmax : 0 ≤ maxValue w := by
    have hpow := pow_pos (show (0 : ℤ) < 2 by decide) (w - 1)
    simp only [maxValue]
    omega
  exact max_eq_right (hmin.trans (le_min h hmax))

theorem saturate_of_le (hmin : minValue w ≤ n) (hmax : n ≤ maxValue w) : saturate w n = n := by
  rw [saturate, min_eq_left hmax, max_eq_right hmin]

/-- **Powers of two**: those in the range, and the first that is not. -/
theorem checked_two_pow_of_lt (h : e + 1 < w) : checked panics w (2 ^ e) = some (2 ^ e) := by
  have hpow := pow_pos (show (0 : ℤ) < 2 by decide) e
  have hle : (2 : ℤ) ^ (e + 1) ≤ 2 ^ (w - 1) := pow_le_pow_right₀ (by decide) (by omega)
  rw [pow_succ] at hle
  refine if_pos ⟨(minValue_nonpos w).trans hpow.le, ?_⟩
  simp only [maxValue]
  omega

theorem not_inRange_two_pow (h : w ≤ e + 1) : ¬(minValue w ≤ 2 ^ e ∧ (2 : ℤ) ^ e ≤ maxValue w) := by
  have hle : (2 : ℤ) ^ (w - 1) ≤ 2 ^ e := pow_le_pow_right₀ (by decide) (by omega)
  intro hrange
  have hmax := hrange.2
  simp only [maxValue] at hmax
  omega

/-- **A power of two out of the range** wraps around to a value that is not positive. -/
theorem wrap_two_pow_nonpos (hw : 0 < w) (h : w ≤ e + 1) : wrap w (2 ^ e) ≤ 0 := by
  obtain heq | hlt := Nat.eq_or_lt_of_le h
  · obtain rfl : w = e + 1 := heq
    have hmod : (2 : ℤ) ^ e % 2 ^ (e + 1) = 2 ^ e := by
      rw [pow_succ]
      have hpow := pow_pos (show (0 : ℤ) < 2 by decide) e
      exact Int.emod_eq_of_lt hpow.le (by omega)
    have hpow := pow_pos (show (0 : ℤ) < 2 by decide) e
    simp only [wrap, Int.bmod_def, Nat.cast_pow, Nat.cast_ofNat, hmod]
    rw [if_neg, pow_succ]
    · omega
    · rw [pow_succ]
      omega
  · have hdvd : (2 : ℤ) ^ w ∣ 2 ^ e := pow_dvd_pow 2 (by omega)
    have hmod : (2 : ℤ) ^ e % 2 ^ w = 0 := Int.emod_eq_zero_of_dvd hdvd
    have hpow := pow_pos (show (0 : ℤ) < 2 by decide) w
    simp only [wrap, Int.bmod_def, Nat.cast_pow, Nat.cast_ofNat, hmod]
    split <;> omega

end

end Lib.SignedInt
