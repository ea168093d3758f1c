import Mathlib

/-!
Rounding on the rationals. The doubles, were there no largest one, are a grid on the line, and every
rational has a nearest grid point. Rounding to it keeps the order and the grid points, and errs by at
most half a step of the grid.
-/

namespace Facets.Number

variable {q r z : ℚ}

/-- The nearest whole number, the even one of two. -/
def roundHalfEven (q : ℚ) : ℤ := if Int.fract q = 1 / 2 ∧ Even ⌊q⌋ then ⌊q⌋ else round q

theorem abs_sub_roundHalfEven_le (q : ℚ) : |q - roundHalfEven q| ≤ 1 / 2 := by
  unfold roundHalfEven
  split
  · rename_i tie
    rw [Int.self_sub_floor, tie.1]
    norm_num
  · exact abs_sub_round q

theorem even_roundHalfEven (tie : |q - roundHalfEven q| = 1 / 2) : Even (roundHalfEven q) := by
  unfold roundHalfEven at tie ⊢
  split
  · rename_i half
    exact half.2
  · rename_i other
    rw [if_neg other, abs_sub_round_eq_min] at tie
    have half : Int.fract q = 1 / 2 := by
      rcases min_cases (Int.fract q) (1 - Int.fract q) with ⟨same, _⟩ | ⟨same, _⟩ <;> linarith
    have up : round q = ⌊q⌋ + 1 := by
      rw [round_eq, Int.floor_eq_iff]
      have parts := Int.floor_add_fract q
      push_cast
      constructor <;> linarith
    have odd := not_and.mp other half
    rw [up]
    exact Int.even_add_one.mpr odd

theorem abs_sub_roundHalfEven_le_abs_sub (q : ℚ) (n : ℤ) : |q - roundHalfEven q| ≤ |q - n| := by
  by_cases same : n = roundHalfEven q
  · rw [same]
  · have near := abs_sub_roundHalfEven_le q
    have apart : (1 : ℚ) ≤ |(n : ℚ) - roundHalfEven q| := by
      exact_mod_cast Int.one_le_abs (sub_ne_zero.mpr same)
    have around := abs_sub_le (n : ℚ) q (roundHalfEven q)
    rw [abs_sub_comm (n : ℚ) q] at around
    linarith

/-- There is one nearest whole number, or one that is even among two. -/
theorem roundHalfEven_eq {n : ℤ} (near : |q - n| ≤ 1 / 2) (tie : |q - n| = 1 / 2 → Even n) :
    roundHalfEven q = n := by
  have close := abs_sub_roundHalfEven_le q
  have around := abs_sub_le (roundHalfEven q : ℚ) q n
  rw [abs_sub_comm (roundHalfEven q : ℚ) q] at around
  by_contra other
  have apart : (1 : ℚ) ≤ |(roundHalfEven q : ℚ) - n| := by
    exact_mod_cast Int.one_le_abs (sub_ne_zero.mpr other)
  have even := even_roundHalfEven (q := q) (by linarith)
  have evens := tie (by linarith)
  have next : |roundHalfEven q - n| = 1 := by
    have value : |(roundHalfEven q : ℚ) - n| = 1 := by linarith
    exact_mod_cast value
  obtain ⟨k, twice⟩ := even.sub evens
  rcases (abs_eq zero_le_one).mp next with up | down <;> omega

@[simp] theorem roundHalfEven_intCast (n : ℤ) : roundHalfEven n = n :=
  roundHalfEven_eq (by simp) (by simp)

@[simp] theorem roundHalfEven_zero : roundHalfEven 0 = 0 := by
  exact_mod_cast roundHalfEven_intCast 0

@[simp] theorem roundHalfEven_neg (q : ℚ) : roundHalfEven (-q) = -roundHalfEven q := by
  have mirrored : |-q - ((-roundHalfEven q : ℤ) : ℚ)| = |q - roundHalfEven q| := by
    rw [← abs_neg]
    push_cast
    ring_nf
  refine roundHalfEven_eq (mirrored.trans_le (abs_sub_roundHalfEven_le q)) fun tie => ?_
  exact (even_roundHalfEven (mirrored.symm.trans tie)).neg

/-- The exponent of the step at which a rational is rounded: it leaves fifty-three bits, or fewer
where the grid is not any finer. -/
def stepExponent (q : ℚ) : ℤ := max (Int.log 2 |q| - 52) (-1074)

/-- The grid point a rational is rounded to. -/
def rounded (q : ℚ) : ℚ := roundHalfEven (q / 2 ^ stepExponent q) * 2 ^ stepExponent q

/-- The grid of the doubles, whatever their size. -/
def OnGrid (q : ℚ) : Prop := ∃ (c : ℕ) (j : ℤ), |q| = c * 2 ^ j ∧ c ≤ 2 ^ 53 ∧ -1074 ≤ j

theorem least_le_stepExponent (q : ℚ) : -1074 ≤ stepExponent q := le_max_right _ _

@[simp] theorem stepExponent_neg (q : ℚ) : stepExponent (-q) = stepExponent q := by
  rw [stepExponent, abs_neg, stepExponent]

@[simp] theorem rounded_neg (q : ℚ) : rounded (-q) = -rounded q := by
  simp [rounded, neg_div]

@[simp] theorem rounded_zero : rounded 0 = 0 := by simp [rounded]

/-- In steps a rational has at most fifty-three bits. -/
theorem abs_lt_of_stepExponent (q : ℚ) : |q| < 2 ^ 53 * 2 ^ stepExponent q := by
  have below : |q| < 2 ^ (Int.log 2 |q| + 1) := Int.lt_zpow_succ_log_self Nat.one_lt_two _
  have most : Int.log 2 |q| - 52 ≤ stepExponent q := le_max_left _ _
  calc |q| < 2 ^ (Int.log 2 |q| + 1) := below
    _ ≤ 2 ^ (53 + stepExponent q) := zpow_le_zpow_right₀ one_le_two (by omega)
    _ = 2 ^ 53 * 2 ^ stepExponent q := by
      rw [zpow_add₀ two_ne_zero]
      norm_cast

/-- It has all of them, unless the step is the finest. -/
theorem le_abs_of_stepExponent (nonzero : q ≠ 0) (coarse : -1074 < stepExponent q) :
    2 ^ 52 * 2 ^ stepExponent q ≤ |q| := by
  have exponent : stepExponent q = Int.log 2 |q| - 52 := by
    unfold stepExponent at coarse ⊢
    omega
  have least : (2 : ℚ) ^ Int.log 2 |q| ≤ |q| :=
    Int.zpow_log_le_self Nat.one_lt_two (abs_pos.mpr nonzero)
  calc (2 : ℚ) ^ 52 * 2 ^ stepExponent q = 2 ^ (52 + stepExponent q) := by
        rw [zpow_add₀ two_ne_zero]
        norm_cast
    _ = 2 ^ Int.log 2 |q| := by
      rw [exponent]
      congr 1
      ring
    _ ≤ |q| := least

theorem stepExponent_eq {k : ℤ} (full : 2 ^ 52 * 2 ^ k ≤ |q|) (bounded : |q| < 2 ^ 53 * 2 ^ k)
    (least : -1074 ≤ k) : stepExponent q = k := by
  have step : (0 : ℚ) < 2 ^ k := by positivity
  have positive : 0 < |q| := lt_of_lt_of_le (by positivity) full
  have low : 52 + k ≤ Int.log 2 |q| := by
    refine (Int.zpow_le_iff_le_log Nat.one_lt_two positive).mp ?_
    rw [zpow_add₀ (by norm_num)]
    exact_mod_cast full
  have high : Int.log 2 |q| < 53 + k := by
    refine (Int.lt_zpow_iff_log_lt Nat.one_lt_two positive).mp ?_
    rw [zpow_add₀ (by norm_num)]
    exact_mod_cast bounded
  unfold stepExponent
  omega

theorem stepExponent_le {k : ℤ} (nonzero : q ≠ 0) (bounded : |q| < 2 ^ 53 * 2 ^ k)
    (least : -1074 ≤ k) : stepExponent q ≤ k := by
  by_contra! coarse
  have full := le_abs_of_stepExponent nonzero (by omega)
  have next : (2 : ℚ) ^ (k + 1) ≤ 2 ^ stepExponent q := zpow_le_zpow_right₀ one_le_two (by omega)
  rw [zpow_add_one₀ two_ne_zero] at next
  linarith

theorem abs_mul_step (x : ℚ) (k : ℤ) : |x * 2 ^ k| = |x| * 2 ^ k := by
  rw [abs_mul, abs_of_pos (a := (2 : ℚ) ^ k) (by positivity)]

theorem div_mul_step (q : ℚ) (k : ℤ) : q / 2 ^ k * 2 ^ k = q := div_mul_cancel₀ q (by positivity)

theorem abs_sub_rounded (q : ℚ) : |q - rounded q| =
    |q / 2 ^ stepExponent q - roundHalfEven (q / 2 ^ stepExponent q)| * 2 ^ stepExponent q := by
  rw [← abs_mul_step, sub_mul, div_mul_step, rounded]

/-- Rounding errs by at most half a step. -/
theorem abs_sub_rounded_le_half (q : ℚ) : |q - rounded q| ≤ 2 ^ stepExponent q / 2 := by
  have near := abs_sub_roundHalfEven_le (q / 2 ^ stepExponent q)
  have step : (0 : ℚ) < 2 ^ stepExponent q := by positivity
  rw [abs_sub_rounded]
  calc _ ≤ 1 / 2 * (2 : ℚ) ^ stepExponent q := mul_le_mul_of_nonneg_right near step.le
    _ = _ := by ring

/-- Rounding errs by at most half a unit in the fifty-third bit, unless the step is the finest. -/
theorem abs_sub_rounded_le (normal : 2 ^ (-1022 : ℤ) ≤ |q|) : |q - rounded q| ≤ |q| / 2 ^ 53 := by
  have positive : 0 < |q| := lt_of_lt_of_le (by positivity) normal
  have large : -1022 ≤ Int.log 2 |q| := by
    refine (Int.zpow_le_iff_le_log Nat.one_lt_two positive).mp ?_
    exact_mod_cast normal
  have exponent : stepExponent q = Int.log 2 |q| - 52 := by
    unfold stepExponent
    omega
  have least : (2 : ℚ) ^ Int.log 2 |q| ≤ |q| := Int.zpow_log_le_self Nat.one_lt_two positive
  have step : (2 : ℚ) ^ stepExponent q = 2 ^ Int.log 2 |q| / 2 ^ 52 := by
    rw [exponent, zpow_sub₀ two_ne_zero]
    norm_cast
  have half := abs_sub_rounded_le_half q
  rw [step] at half
  linarith

theorem onGrid_neg : OnGrid (-q) ↔ OnGrid q := by
  unfold OnGrid
  rw [abs_neg]

theorem onGrid_zero : OnGrid 0 := ⟨0, 0, by simp, by positivity, by decide⟩

theorem onGrid_mul_step {n : ℤ} {k : ℤ} (bounded : n.natAbs ≤ 2 ^ 53) (least : -1074 ≤ k) :
    OnGrid (n * 2 ^ k) := by
  refine ⟨n.natAbs, k, ?_, bounded, least⟩
  rw [abs_mul_step, Nat.cast_natAbs, Int.cast_abs]

theorem onGrid_intCast {n : ℤ} (bounded : n.natAbs ≤ 2 ^ 53) : OnGrid n := by
  have whole := onGrid_mul_step bounded (k := 0) (by decide)
  rwa [zpow_zero, mul_one] at whole

theorem onGrid_natCast {n : ℕ} (bounded : n ≤ 2 ^ 53) : OnGrid n := by
  exact_mod_cast onGrid_intCast (n := n) (by omega)

theorem onGrid_rounded (q : ℚ) : OnGrid (rounded q) := by
  refine onGrid_mul_step ?_ (least_le_stepExponent q)
  have step : (0 : ℚ) < 2 ^ stepExponent q := by positivity
  have bits := abs_lt_of_stepExponent q
  have most : |q / 2 ^ stepExponent q| < 2 ^ 53 := by
    rwa [← mul_lt_mul_iff_left₀ step, ← abs_mul_step, div_mul_step]
  have near := abs_sub_roundHalfEven_le (q / 2 ^ stepExponent q)
  have size : |(roundHalfEven (q / 2 ^ stepExponent q) : ℚ)| < (2 ^ 53 + 1 : ℤ) := by
    rw [abs_sub_comm] at near
    have around := abs_sub_abs_le_abs_sub (roundHalfEven (q / 2 ^ stepExponent q) : ℚ)
      (q / 2 ^ stepExponent q)
    push_cast
    linarith
  rw [← Int.cast_abs, Int.cast_lt, Int.abs_eq_natAbs] at size
  omega

theorem exists_multiple_of_abs {c : ℕ} {j k : ℤ} (size : |z| = c * 2 ^ j) (fine : k ≤ j) :
    ∃ n : ℤ, z = n * 2 ^ k := by
  have split : (2 : ℚ) ^ j = 2 ^ (j - k).toNat * 2 ^ k := by
    rw [← zpow_natCast, Int.toNat_of_nonneg (by omega), ← zpow_add₀ two_ne_zero, sub_add_cancel]
  rw [split, ← mul_assoc] at size
  rcases abs_choice z with same | opposite
  · refine ⟨c * 2 ^ (j - k).toNat, ?_⟩
    push_cast
    rw [← size, same]
  · refine ⟨-(c * 2 ^ (j - k).toNat), ?_⟩
    push_cast
    rw [neg_mul, ← size, opposite, neg_neg]

theorem OnGrid.exists_multiple_least (grid : OnGrid z) : ∃ n : ℤ, z = n * 2 ^ (-1074 : ℤ) := by
  obtain ⟨c, j, size, -, least⟩ := grid
  exact exists_multiple_of_abs size least

/-- A grid point whose fifty-three bits reach down to a power of two is a multiple of it. -/
theorem OnGrid.exists_multiple (grid : OnGrid z) {k : ℤ} (large : 2 ^ 52 * 2 ^ k ≤ |z|) :
    ∃ n : ℤ, z = n * 2 ^ k := by
  obtain ⟨c, j, size, bounded, -⟩ := grid
  rcases le_or_gt k j with fine | coarse
  · exact exists_multiple_of_abs size fine
  -- with a smaller exponent the mantissa has to be the largest
  · have most : (c : ℚ) ≤ 2 ^ 53 := by exact_mod_cast bounded
    have halves : (2 : ℚ) ^ j ≤ 2 ^ k / 2 :=
      calc (2 : ℚ) ^ j ≤ 2 ^ (k - 1) := zpow_le_zpow_right₀ one_le_two (by omega)
        _ = 2 ^ k / 2 := by rw [zpow_sub_one₀ two_ne_zero, div_eq_mul_inv]
    have top : |z| = (2 ^ 52 : ℕ) * 2 ^ k := by
      refine le_antisymm ?_ (by exact_mod_cast large)
      calc |z| = c * 2 ^ j := size
        _ ≤ 2 ^ 53 * (2 ^ k / 2) := by gcongr
        _ = (2 ^ 52 : ℕ) * 2 ^ k := by
          push_cast
          ring
    exact exists_multiple_of_abs top le_rfl

/-- No multiple of the step is nearer than the one a rational is rounded to. -/
theorem abs_sub_rounded_le_abs_sub_mul (q : ℚ) (n : ℤ) :
    |q - rounded q| ≤ |q - n * 2 ^ stepExponent q| := by
  have step : (0 : ℚ) < 2 ^ stepExponent q := by positivity
  have nearest := abs_sub_roundHalfEven_le_abs_sub (q / 2 ^ stepExponent q) n
  rw [abs_sub_rounded]
  calc _ ≤ |q / 2 ^ stepExponent q - n| * 2 ^ stepExponent q :=
        mul_le_mul_of_nonneg_right nearest step.le
    _ = |q - n * 2 ^ stepExponent q| := by rw [← abs_mul_step, sub_mul, div_mul_step]

/-- No grid point is nearer than the one a rational is rounded to. -/
theorem abs_sub_rounded_le_abs_sub (grid : OnGrid z) : |q - rounded q| ≤ |q - z| := by
  by_cases zero : q = 0
  · rw [zero, rounded_zero, sub_self, abs_zero]
    exact abs_nonneg _
  rcases le_or_gt (2 ^ 52 * 2 ^ stepExponent q) |z| with large | small
  · obtain ⟨n, rfl⟩ := grid.exists_multiple large
    exact abs_sub_rounded_le_abs_sub_mul q n
  rcases (least_le_stepExponent q).lt_or_eq with coarse | fine
  -- a smaller point is behind the power of two that the rational has reached
  · have full := le_abs_of_stepExponent zero coarse
    obtain ⟨least, most⟩ := abs_lt.mp small
    rcases le_or_gt 0 q with nonneg | negative
    · rw [abs_of_nonneg nonneg] at full
      calc |q - rounded q| ≤ |q - (2 ^ 52 : ℤ) * 2 ^ stepExponent q| :=
            abs_sub_rounded_le_abs_sub_mul q (2 ^ 52)
        _ = q - 2 ^ 52 * 2 ^ stepExponent q := by
          push_cast
          exact abs_of_nonneg (sub_nonneg.mpr full)
        _ ≤ q - z := by linarith
        _ ≤ |q - z| := le_abs_self _
    · rw [abs_of_neg negative] at full
      calc |q - rounded q| ≤ |q - (-2 ^ 52 : ℤ) * 2 ^ stepExponent q| :=
            abs_sub_rounded_le_abs_sub_mul q (-2 ^ 52)
        _ = -q - 2 ^ 52 * 2 ^ stepExponent q := by
          push_cast
          rw [abs_of_nonpos (by linarith)]
          ring
        _ ≤ -(q - z) := by linarith
        _ ≤ |q - z| := neg_le_abs _
  · obtain ⟨n, rfl⟩ := grid.exists_multiple_least
    rw [fine]
    exact abs_sub_rounded_le_abs_sub_mul q n

/-- Rounding keeps the grid points. -/
theorem rounded_eq_self (grid : OnGrid q) : rounded q = q := by
  have near := abs_sub_rounded_le_abs_sub (q := q) grid
  rw [sub_self, abs_zero, abs_nonpos_iff, sub_eq_zero] at near
  exact near.symm

/-- Rounding keeps the order. -/
theorem rounded_mono : Monotone rounded := by
  intro q r le
  rcases le.eq_or_lt with rfl | less
  · exact le_rfl
  by_contra! swapped
  have left := abs_sub_rounded_le_abs_sub (q := q) (onGrid_rounded r)
  have right := abs_sub_rounded_le_abs_sub (q := r) (onGrid_rounded q)
  -- each is as near to its own point as to the other's, so both lie beyond the middle
  have before : (rounded q + rounded r) / 2 ≤ q := by
    rcases abs_cases (q - rounded q) with ⟨first, _⟩ | ⟨first, _⟩ <;>
      rcases abs_cases (q - rounded r) with ⟨second, _⟩ | ⟨second, _⟩ <;> linarith
  have after : r ≤ (rounded q + rounded r) / 2 := by
    rcases abs_cases (r - rounded r) with ⟨first, _⟩ | ⟨first, _⟩ <;>
      rcases abs_cases (r - rounded q) with ⟨second, _⟩ | ⟨second, _⟩ <;> linarith
  linarith

theorem OnGrid.le_rounded (grid : OnGrid z) (le : z ≤ q) : z ≤ rounded q :=
  (rounded_eq_self grid).symm.trans_le (rounded_mono le)

theorem OnGrid.rounded_le (grid : OnGrid z) (le : q ≤ z) : rounded q ≤ z :=
  (rounded_mono le).trans_eq (rounded_eq_self grid)

theorem rounded_nonneg (nonneg : 0 ≤ q) : 0 ≤ rounded q := onGrid_zero.le_rounded nonneg

theorem abs_rounded_le {n : ℕ} (within : |q| ≤ 2 ^ n) : |rounded q| ≤ 2 ^ n := by
  have grid : OnGrid (2 ^ n) := by
    have power := onGrid_mul_step (n := 1) (k := n) (by decide) (by omega)
    rwa [Int.cast_one, one_mul, zpow_natCast] at power
  obtain ⟨least, most⟩ := abs_le.mp within
  exact abs_le.mpr ⟨(onGrid_neg.mpr grid).le_rounded least, grid.rounded_le most⟩

/-- A rational is not rounded further than to the mirror image of a grid point below it. -/
theorem OnGrid.rounded_le_reflected (grid : OnGrid z) (le : z ≤ q) : rounded q ≤ 2 * q - z := by
  have near := abs_sub_rounded_le_abs_sub (q := q) grid
  rw [abs_of_nonneg (sub_nonneg.mpr le)] at near
  linarith [neg_le_of_abs_le near]

/-- Between a multiple of a power of two that fills fifty-three bits and the next one there is no grid
point, unless the multiple is the power of two where finer steps begin. -/
theorem OnGrid.add_step_le {n k : ℤ} (full : 2 ^ 52 * 2 ^ k ≤ |(n : ℚ) * 2 ^ k|) (edge : n ≠ -2 ^ 52)
    (grid : OnGrid z) (less : n * 2 ^ k < z) : (n + 1) * 2 ^ k ≤ z := by
  have step : (0 : ℚ) < 2 ^ k := by positivity
  rcases le_or_gt (2 ^ 52 * 2 ^ k) |z| with large | small
  · obtain ⟨m, rfl⟩ := grid.exists_multiple large
    rw [mul_lt_mul_iff_left₀ step, Int.cast_lt] at less
    refine mul_le_mul_of_nonneg_right ?_ step.le
    exact_mod_cast Int.add_one_le_iff.mpr less
  · have bounds := abs_lt.mp small
    have filled : 2 ^ 52 ≤ |n| := by
      rw [abs_mul_step, mul_le_mul_iff_left₀ step] at full
      exact_mod_cast full
    have below : (n : ℚ) < 2 ^ 52 := by
      rw [← mul_lt_mul_iff_left₀ step]
      exact less.trans bounds.2
    have under : n + 1 ≤ -2 ^ 52 := by
      have most : n < 2 ^ 52 := by exact_mod_cast below
      rcases abs_cases n with ⟨same, _⟩ | ⟨opposite, _⟩ <;> omega
    have edges : ((n : ℚ) + 1) ≤ -2 ^ 52 := by exact_mod_cast under
    calc ((n : ℚ) + 1) * 2 ^ k ≤ -2 ^ 52 * 2 ^ k := mul_le_mul_of_nonneg_right edges step.le
      _ ≤ z := by linarith

/-- Above a power of two of the negative half the steps are half as long as below it. -/
theorem OnGrid.add_half_step_le {k : ℤ} (grid : OnGrid z) (less : -2 ^ 52 * 2 ^ k < z) :
    -2 ^ 52 * 2 ^ k + 2 ^ (k - 1) ≤ z := by
  have half : (2 : ℚ) ^ k = 2 * 2 ^ (k - 1) := by
    rw [zpow_sub_one₀ two_ne_zero]
    ring
  have step : (0 : ℚ) < 2 ^ (k - 1) := by positivity
  have finer : (-2 ^ 52 * 2 ^ k : ℚ) = (-2 ^ 53 : ℤ) * 2 ^ (k - 1) := by
    rw [half]
    push_cast
    ring
  rw [finer] at less ⊢
  have gap := add_step_le (n := -2 ^ 53) (k := k - 1) ?_ (by decide) grid less
  · rwa [add_one_mul] at gap
  · rw [abs_of_neg (by rw [← finer]; linarith [half])]
    push_cast
    linarith

/-- A grid point is a multiple of its own step, of fifty-three bits. -/
theorem OnGrid.exists_steps (grid : OnGrid q) :
    ∃ m : ℤ, q = m * 2 ^ stepExponent q ∧ m.natAbs < 2 ^ 53 := by
  have step : (0 : ℚ) < 2 ^ stepExponent q := by positivity
  obtain ⟨m, value⟩ : ∃ m : ℤ, q = m * 2 ^ stepExponent q := by
    by_cases zero : q = 0
    · exact ⟨0, by rw [zero, Int.cast_zero, zero_mul]⟩
    rcases (least_le_stepExponent q).lt_or_eq with coarse | fine
    · exact grid.exists_multiple (le_abs_of_stepExponent zero coarse)
    · rw [← fine]
      exact grid.exists_multiple_least
  refine ⟨m, value, ?_⟩
  have bits := abs_lt_of_stepExponent q
  rw [congrArg abs value, abs_mul_step, mul_lt_mul_iff_left₀ step, ← Int.cast_abs,
    Int.abs_eq_natAbs] at bits
  exact_mod_cast bits

/-- One step further there is a grid point again. -/
theorem OnGrid.add_step (grid : OnGrid q) : OnGrid (q + 2 ^ stepExponent q) := by
  obtain ⟨m, value, bounded⟩ := grid.exists_steps
  have next := onGrid_mul_step (n := m + 1) (by omega) (least_le_stepExponent q)
  rwa [Int.cast_add, Int.cast_one, add_one_mul, ← value] at next

/-- In between there is none. -/
theorem OnGrid.next_le (grid : OnGrid q) (positive : 0 < q) (other : OnGrid z) (less : q < z) :
    q + 2 ^ stepExponent q ≤ z := by
  obtain ⟨m, value, -⟩ := grid.exists_steps
  have step : (0 : ℚ) < 2 ^ stepExponent q := by positivity
  rw [value, mul_pos_iff_of_pos_right step] at positive
  have edge : m ≠ -2 ^ 52 := by
    have counted : 0 < m := by exact_mod_cast positive
    omega
  have next : (m + 1) * 2 ^ stepExponent q ≤ z := by
    rcases (least_le_stepExponent q).lt_or_eq with coarse | fine
    · have full := le_abs_of_stepExponent (q := q) (by rw [value]; positivity) coarse
      refine add_step_le ?_ edge other ?_ <;> rwa [← value]
    · obtain ⟨n, multiple⟩ := other.exists_multiple_least
      rw [fine] at multiple
      rw [value, multiple, mul_lt_mul_iff_left₀ step] at less
      rw [multiple]
      refine mul_le_mul_of_nonneg_right ?_ step.le
      exact_mod_cast less
  rwa [add_one_mul, ← value] at next

theorem OnGrid.add_step_le_bits (grid : OnGrid q) :
    q + 2 ^ stepExponent q ≤ 2 ^ 53 * 2 ^ stepExponent q := by
  obtain ⟨m, value, bounded⟩ := grid.exists_steps
  have step : (0 : ℚ) < 2 ^ stepExponent q := by positivity
  have most : (m : ℚ) + 1 ≤ 2 ^ 53 := by exact_mod_cast (by omega : m + 1 ≤ 2 ^ 53)
  calc q + 2 ^ stepExponent q = (m + 1) * 2 ^ stepExponent q := by
        rw [add_one_mul, ← value]
    _ ≤ _ := mul_le_mul_of_nonneg_right most step.le

end Facets.Number
