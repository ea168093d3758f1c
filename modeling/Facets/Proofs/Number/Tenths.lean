import Facets.Proofs.Number.Grid

/-!
Ten times a tenth. A grid point has a step eight or sixteen times that of its tenth, which errs by half
of its step, so that ten tenths are as far apart from the whole as half a step of the whole at most.
-/

namespace Facets.Number

variable {q : ℚ}

/-- A rational next to an even multiple of its step, the middle to a neighbour included. -/
theorem rounded_eq_of_even {m j : ℤ} (exponent : stepExponent q = j)
    (near : |q - m * 2 ^ j| ≤ 2 ^ j / 2) (even : Even m) : rounded q = m * 2 ^ j := by
  have step : (0 : ℚ) < 2 ^ j := by positivity
  have close : |q / 2 ^ j - m| ≤ 1 / 2 := by
    rw [← mul_le_mul_iff_left₀ step, ← abs_mul_step, sub_mul, div_mul_step]
    linarith
  rw [rounded, exponent, roundHalfEven_eq close fun _ => even]

/-- The tenth of a number that is not small is not rounded at the finest step. -/
theorem lt_stepExponent_tenth (one : 1 ≤ q) : -1074 < stepExponent (q / 10) := by
  have bits := abs_lt_of_stepExponent (q / 10)
  rw [abs_of_pos (by linarith)] at bits
  refine lt_of_le_of_ne (least_le_stepExponent _) fun fine => ?_
  have tiny : (2 : ℚ) ^ 53 * 2 ^ (-1074 : ℤ) ≤ 2 ^ 53 * 2 ^ (-57 : ℤ) := by gcongr <;> norm_num
  have small : (2 : ℚ) ^ 53 * 2 ^ (-57 : ℤ) = 1 / 16 := by norm_num
  rw [← fine] at bits
  linarith only [one, (bits.trans_le tiny).trans_eq small]

/-- A number has a step eight or sixteen times that of its tenth. -/
theorem stepExponent_eq_tenth (positive : 0 < q) (coarse : -1074 < stepExponent (q / 10)) :
    stepExponent q = stepExponent (q / 10) + 3 ∨ stepExponent q = stepExponent (q / 10) + 4 := by
  have tenth : 0 < q / 10 := by linarith
  have bits := abs_lt_of_stepExponent (q / 10)
  have full := le_abs_of_stepExponent tenth.ne' coarse
  rw [abs_of_pos tenth] at bits full
  generalize stepExponent (q / 10) = k at bits coarse full ⊢
  have eight : (2 : ℚ) ^ (k + 3) = 8 * 2 ^ k := by
    rw [zpow_add₀ two_ne_zero]
    ring
  have sixteen : (2 : ℚ) ^ (k + 4) = 16 * 2 ^ k := by
    rw [zpow_add₀ two_ne_zero]
    ring
  have size : |q| = q := abs_of_pos positive
  rcases lt_or_ge q (2 ^ 53 * 2 ^ (k + 3)) with less | reached
  · refine Or.inl (stepExponent_eq ?_ (by rwa [size]) (by omega))
    rw [size, eight]
    linarith
  · rw [eight] at reached
    refine Or.inr (stepExponent_eq ?_ ?_ (by omega)) <;> rw [size, sixteen] <;> linarith

section Whole

variable (grid : OnGrid q) (one : 1 ≤ q)

include grid one

theorem abs_ten_tenths_sub_le : |10 * rounded (q / 10) - q| ≤ 2 ^ stepExponent q / 2 := by
  have coarse := lt_stepExponent_tenth one
  have steps := stepExponent_eq_tenth (by linarith) coarse
  have near := abs_sub_rounded_le_half (q / 10)
  obtain ⟨m, whole, -⟩ := grid.exists_steps
  obtain ⟨w, tenth⟩ : ∃ w : ℤ, rounded (q / 10) = w * 2 ^ stepExponent (q / 10) := ⟨_, rfl⟩
  generalize stepExponent (q / 10) = k at coarse steps near tenth
  have step : (0 : ℚ) < 2 ^ k := by positivity
  have five : |10 * rounded (q / 10) - q| ≤ 5 * 2 ^ k := by
    rw [abs_le] at near ⊢
    constructor <;> linarith
  rcases steps with eight | sixteen
  · have eighth : (2 : ℚ) ^ stepExponent q = 8 * 2 ^ k := by
      rw [eight, zpow_add₀ two_ne_zero]
      ring
    -- the difference is an even number of steps of the tenth, so it is not five of them
    have counted : 10 * rounded (q / 10) - q = (10 * w - 8 * m : ℤ) * 2 ^ k := by
      rw [eighth] at whole
      push_cast
      linear_combination 10 * tenth - whole
    rw [counted, abs_mul_step] at five ⊢
    rw [mul_le_mul_iff_left₀ step, ← Int.cast_abs] at five
    have few : |10 * w - 8 * m| ≤ 5 := by exact_mod_cast five
    have even : |10 * w - 8 * m| ≤ 4 := by
      rw [abs_le] at few ⊢
      omega
    have four : |((10 * w - 8 * m : ℤ) : ℚ)| ≤ 4 := by exact_mod_cast even
    rw [eighth]
    linarith [mul_le_mul_of_nonneg_right four step.le]
  · have sixteenth : (2 : ℚ) ^ stepExponent q = 16 * 2 ^ k := by
      rw [sixteen, zpow_add₀ two_ne_zero]
      ring
    rw [sixteenth]
    linarith

/-- Ten tenths are rounded up to the next grid point at most. -/
theorem rounded_ten_tenths_le_add_step :
    rounded (10 * rounded (q / 10)) ≤ q + 2 ^ stepExponent q := by
  have near := le_of_abs_le (abs_ten_tenths_sub_le grid one)
  have step : (0 : ℚ) < 2 ^ stepExponent q := by positivity
  exact grid.add_step.rounded_le (by linarith)

/-- They are not rounded up if the whole is an even number of steps. -/
theorem rounded_ten_tenths_le {m : ℤ} (value : q = m * 2 ^ stepExponent q) (even : Even m) :
    rounded (10 * rounded (q / 10)) ≤ q := by
  rcases le_or_gt (10 * rounded (q / 10)) q with below | above
  · exact grid.rounded_le below
  have near := abs_ten_tenths_sub_le grid one
  have coarse := lt_stepExponent_tenth one
  have steps := stepExponent_eq_tenth (by linarith) coarse
  have full := le_abs_of_stepExponent (q := q) (by linarith) (by omega)
  have next := grid.add_step_le_bits
  rw [abs_of_pos (by linarith)] at full
  have size : |10 * rounded (q / 10)| = 10 * rounded (q / 10) := abs_of_pos (by linarith)
  have exponent : stepExponent (10 * rounded (q / 10)) = stepExponent q := by
    have upper := le_of_abs_le near
    have step : (0 : ℚ) < 2 ^ stepExponent q := by positivity
    refine stepExponent_eq ?_ ?_ (by omega) <;> rw [size] <;> linarith
  rw [rounded_eq_of_even exponent ?_ even, ← value]
  rwa [← value]

end Whole

end Facets.Number
