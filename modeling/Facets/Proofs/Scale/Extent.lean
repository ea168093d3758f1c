import Facets.Proofs.Number.Line
import Facets.Proofs.Number.Tenths
import Facets.Proofs.Scale.Span

/-!
Ten widths between any two doubles. Where the span between them does not overflow, no boundary of the
ten buckets does either, unless the high end is among the largest doubles; and the high end has reached
the last but one boundary, unless the span is one of eight that the finest step is too coarse for.
-/

namespace Facets

open Number

/-- The spans, in finest steps, whose tenths are rounded up so far that nine of them are too long. -/
def shortSpans : List ℤ := [6, 7, 8, 15, 16, 17, 26, 35]

theorem nine_tenths_cases {n w : ℤ} (positive : 0 < n) (near : |(n : ℚ) / 10 - w| ≤ 1 / 2)
    (tie : |(n : ℚ) / 10 - w| = 1 / 2 → Even w) :
    (9 * w ≤ n ∧ n ∉ shortSpans) ∨ (4 * n ≤ 35 * w ∧ n ∈ shortSpans) := by
  have size : |(n : ℚ) / 10 - w| = (|n - 10 * w| : ℤ) / 10 := by
    have tenths : (n : ℚ) / 10 - w = (n - 10 * w : ℤ) / 10 := by
      push_cast
      ring
    rw [tenths, abs_div, abs_of_pos (a := (10 : ℚ)) (by norm_num), Int.cast_abs]
  have close : |n - 10 * w| ≤ 5 := by
    have bound : ((|n - 10 * w| : ℤ) : ℚ) ≤ 5 := by linarith
    exact_mod_cast bound
  have even (far : |n - 10 * w| = 5) : w % 2 = 0 := by
    refine Int.even_iff.mp (tie ?_)
    rw [size, far]
    norm_num
  have above (far : n - 10 * w = 5) := even (by rw [far]; rfl)
  have below (far : n - 10 * w = -5) := even (by rw [far]; rfl)
  rw [abs_le] at close
  simp only [shortSpans, List.mem_cons, List.not_mem_nil, or_false]
  rcases le_or_gt 45 n with long | short
  · omega
  · have few : 0 ≤ w ∧ w ≤ 4 := by omega
    obtain ⟨least, most⟩ := few
    interval_cases w <;> omega

section Ends

variable {low high : ℚ} (gridLow : OnGrid low) (gridHigh : OnGrid high) (less : low < high)

include gridLow gridHigh less

theorem exists_span : ∃ n : ℤ, 0 < n ∧ high - low = n * 2 ^ (-1074 : ℤ) := by
  obtain ⟨first, lowest⟩ := gridLow.exists_multiple_least
  obtain ⟨last, highest⟩ := gridHigh.exists_multiple_least
  have step : (0 : ℚ) < 2 ^ (-1074 : ℤ) := by positivity
  rw [lowest, highest, mul_lt_mul_iff_left₀ step, Int.cast_lt] at less
  refine ⟨last - first, by omega, ?_⟩
  rw [lowest, highest, ← sub_mul, Int.cast_sub]

theorem rounded_span_pos : 0 < rounded (high - low) := by
  obtain ⟨n, positive, span⟩ := exists_span gridLow gridHigh less
  have step : (0 : ℚ) < 2 ^ (-1074 : ℤ) := by positivity
  have one : OnGrid ((1 : ℤ) * 2 ^ (-1074 : ℤ)) := onGrid_mul_step (by decide) le_rfl
  refine lt_of_lt_of_le (by positivity) (one.le_rounded ?_)
  rw [span]
  exact mul_le_mul_of_nonneg_right (by exact_mod_cast positive) step.le

/-- A short span is not rounded, and no other span is rounded to it. -/
theorem rounded_span_eq_iff {n : ℤ} (small : n.natAbs < 2 ^ 53) :
    rounded (high - low) = n * 2 ^ (-1074 : ℤ) ↔ high - low = n * 2 ^ (-1074 : ℤ) := by
  obtain ⟨m, positive, span⟩ := exists_span gridLow gridHigh less
  have step : (0 : ℚ) < 2 ^ (-1074 : ℤ) := by positivity
  have top : OnGrid ((2 ^ 53 : ℤ) * 2 ^ (-1074 : ℤ)) := onGrid_mul_step (by decide) le_rfl
  rw [span]
  rcases le_or_gt m (2 ^ 53) with bounded | beyond
  · rw [rounded_eq_self (onGrid_mul_step (by omega) le_rfl)]
  · have far : ((2 ^ 53 : ℤ) : ℚ) * 2 ^ (-1074 : ℤ) ≤ m * 2 ^ (-1074 : ℤ) :=
      mul_le_mul_of_nonneg_right (by exact_mod_cast beyond.le) step.le
    have reached := top.le_rounded far
    have less : (n : ℚ) * 2 ^ (-1074 : ℤ) < (2 ^ 53 : ℤ) * 2 ^ (-1074 : ℤ) :=
      mul_lt_mul_of_pos_right (by exact_mod_cast (by omega : n < 2 ^ 53)) step
    exact iff_of_false (fun same => (less.trans_le reached).ne' same)
      fun same => (less.trans_le far).ne' same

/-- Nine widths are no longer than the span, or the span is a short one. -/
theorem nine_strides_cases :
    (9 * strideOf low high ≤ rounded (high - low) ∧
      ∀ n ∈ shortSpans, high - low ≠ n * 2 ^ (-1074 : ℤ)) ∨
    (4 * rounded (high - low) ≤ 35 * strideOf low high ∧
      ∃ n ∈ shortSpans, high - low = n * 2 ^ (-1074 : ℤ)) := by
  have bounded : ∀ n ∈ shortSpans, 0 < n ∧ n ≤ 35 := by decide
  have step : (0 : ℚ) < 2 ^ (-1074 : ℤ) := by positivity
  have short {n : ℤ} (member : n ∈ shortSpans) := rounded_span_eq_iff gridLow gridHigh less (n := n)
    (by have bounds := bounded n member; omega)
  have positive := rounded_span_pos gridLow gridHigh less
  obtain ⟨n, value⟩ := (onGrid_rounded (high - low)).exists_multiple_least
  rcases (least_le_stepExponent (rounded (high - low) / 10)).lt_or_eq with coarse | fine
  · have near := neg_le_of_abs_le (abs_sub_rounded_le_half (rounded (high - low) / 10))
    have full := le_abs_of_stepExponent (by linarith) coarse
    rw [abs_of_pos (by linarith)] at full
    refine Or.inl ⟨by unfold strideOf; linarith, fun d member same => ?_⟩
    have least : (2 : ℚ) ^ (-1074 : ℤ) ≤ 2 ^ stepExponent (rounded (high - low) / 10) :=
      zpow_le_zpow_right₀ one_le_two coarse.le
    have most : (d : ℚ) * 2 ^ (-1074 : ℤ) ≤ 35 * 2 ^ (-1074 : ℤ) :=
      mul_le_mul_of_nonneg_right (by exact_mod_cast (bounded d member).2) step.le
    have equal := (short member).mpr same
    linarith
  · have tenth : strideOf low high = roundHalfEven ((n : ℚ) / 10) * 2 ^ (-1074 : ℤ) := by
      rw [strideOf, rounded, ← fine, value, div_right_comm, mul_div_cancel_right₀ _ step.ne']
    have counted : 0 < n := by
      rw [value, mul_pos_iff_of_pos_right step] at positive
      exact_mod_cast positive
    rcases nine_tenths_cases counted (abs_sub_roundHalfEven_le _) even_roundHalfEven with
      ⟨nine, other⟩ | ⟨beyond, member⟩
    · refine Or.inl ⟨?_, fun d member same => other ?_⟩
      · have widths : (9 : ℚ) * roundHalfEven ((n : ℚ) / 10) ≤ n := by exact_mod_cast nine
        rw [tenth, value, ← mul_assoc]
        exact mul_le_mul_of_nonneg_right widths step.le
      · have equal := (short member).mpr same
        rw [value, mul_left_inj' step.ne', Int.cast_inj] at equal
        rwa [equal]
    · refine Or.inr ⟨?_, n, member, (short member).mp value⟩
      have widths : (4 : ℚ) * n ≤ 35 * roundHalfEven ((n : ℚ) / 10) := by exact_mod_cast beyond
      rw [tenth, value, ← mul_assoc, ← mul_assoc]
      exact mul_le_mul_of_nonneg_right widths step.le

/-- Two grid points that are closer than a power of two are not longer than fifty-three bits of it. -/
theorem bits_or_apart (k : ℤ) :
    (|low| ≤ 2 ^ 53 * 2 ^ k ∧ |high| ≤ 2 ^ 53 * 2 ^ k) ∨ 2 ^ k ≤ high - low := by
  have step : (0 : ℚ) < 2 ^ k := by positivity
  refine or_iff_not_imp_right.mpr fun close => ?_
  by_contra! long
  have around := abs_abs_sub_abs_le high low
  rw [abs_of_pos (sub_pos.mpr less), abs_le] at around
  have both : 2 ^ 52 * 2 ^ k ≤ |low| ∧ 2 ^ 52 * 2 ^ k ≤ |high| := by
    rcases le_or_gt |low| (2 ^ 53 * 2 ^ k) with short | long
    · have other := long short
      constructor <;> linarith
    · constructor <;> linarith
  obtain ⟨m, lowest⟩ := gridLow.exists_multiple both.1
  obtain ⟨n, highest⟩ := gridHigh.exists_multiple both.2
  rw [lowest, highest, mul_lt_mul_iff_left₀ step, Int.cast_lt] at less
  refine close ?_
  have one : (1 : ℚ) ≤ (n - m : ℤ) := by exact_mod_cast (by omega : 1 ≤ n - m)
  rw [lowest, highest, ← sub_mul, ← Int.cast_sub]
  linarith [mul_le_mul_of_nonneg_right one step.le]

theorem strideOf_le_span : 0 ≤ strideOf low high ∧ strideOf low high ≤ rounded (high - low) := by
  have positive := rounded_span_pos gridLow gridHigh less
  exact ⟨rounded_nonneg (by linarith), (onGrid_rounded _).rounded_le (by linarith)⟩

omit gridLow gridHigh less in
theorem abs_rounded_lt_lineEnd {q : ℚ} (within : |q| ≤ 2 ^ 60) : |rounded q| < lineEnd :=
  (abs_rounded_le within).trans_lt (two_pow_lt_lineEnd (by decide))

variable (within : rounded (high - low) < lineEnd) (lowest : |low| < lineEnd)
  (highest : |high| < lineEnd)

/-- Between ends of fifty-three bits nothing overflows. -/
theorem abs_boundary_lt_of_bits (short : |low| ≤ 2 ^ 53 ∧ |high| ≤ 2 ^ 53) {i : ℕ} (few : i ≤ 10) :
    |rounded (i * strideOf low high)| < lineEnd ∧
      |rounded (low + rounded (i * strideOf low high))| < lineEnd := by
  obtain ⟨nonneg, most⟩ := strideOf_le_span gridLow gridHigh less
  obtain ⟨first, last⟩ := abs_le.mp short.1
  obtain ⟨onset, finish⟩ := abs_le.mp short.2
  have span := le_of_abs_le (abs_rounded_le (q := high - low) (n := 54)
    (abs_le.mpr ⟨by linarith, by linarith⟩))
  have product : |(i : ℚ) * strideOf low high| ≤ 2 ^ 58 := by
    have count : (i : ℚ) ≤ 10 := by exact_mod_cast few
    rw [abs_of_nonneg (by positivity)]
    linarith [mul_le_mul_of_nonneg_right count nonneg]
  have sum := abs_add_le low (rounded (i * strideOf low high))
  have summand := abs_rounded_le product
  exact ⟨abs_rounded_lt_lineEnd (by linarith), abs_rounded_lt_lineEnd (by linarith)⟩

include within lowest highest in
/-- The boundaries up to the last but one lie between the ends. -/
theorem abs_boundary_lt {i : ℕ} (few : i ≤ 9) : |rounded (i * strideOf low high)| < lineEnd ∧
    |rounded (low + rounded (i * strideOf low high))| < lineEnd := by
  rcases bits_or_apart gridLow gridHigh less 0 with short | apart
  · rw [zpow_zero, mul_one] at short
    exact abs_boundary_lt_of_bits gridLow gridHigh less short (by omega)
  rw [zpow_zero] at apart
  obtain ⟨wide, narrow, positive⟩ := strideOf_bounds apart
  have span := (rounded_near (q := high - low) (by linarith)).1
  have product : 0 ≤ rounded (i * strideOf low high) ∧
      rounded (i * strideOf low high) ≤ 92 / 100 * (high - low) := by
    rcases Nat.eq_zero_or_pos i with rfl | later
    · rw [Nat.cast_zero, zero_mul, rounded_zero]
      exact ⟨le_rfl, by linarith⟩
    · have least : (1 : ℚ) ≤ i := by exact_mod_cast later
      have most : (i : ℚ) ≤ 9 := by exact_mod_cast few
      have below := mul_le_mul_of_nonneg_right least positive.le
      have above := mul_le_mul_of_nonneg_right most positive.le
      have near := rounded_near (q := i * strideOf low high) (by linarith)
      constructor <;> linarith
  have inside := gridLow.le_rounded (q := low + rounded (i * strideOf low high)) (by linarith)
  have outside := gridHigh.rounded_le (q := low + rounded (i * strideOf low high)) (by linarith)
  rw [abs_lt] at lowest highest ⊢
  rw [abs_lt]
  exact ⟨⟨by linarith, by linarith⟩, by linarith, by linarith⟩

omit lowest highest in
include within in
theorem stepExponent_span_le : high - low < lineEnd ∧
    2 ^ stepExponent (high - low) ≤ endStep ∧
    2 ^ stepExponent (rounded (high - low)) ≤ endStep := by
  have bits : 2 ^ 53 * 2 ^ (971 : ℤ) = lineEnd := bits_mul_endStep
  have short : high - low < lineEnd := by
    by_contra! long
    exact within.not_ge (onGrid_lineEnd.le_rounded long)
  have positive := rounded_span_pos gridLow gridHigh less
  refine ⟨short, zpow_le_zpow_right₀ one_le_two ?_, zpow_le_zpow_right₀ one_le_two ?_⟩
  · exact stepExponent_le (by linarith) (by rwa [bits, abs_of_pos (by linarith)]) (by decide)
  · exact stepExponent_le positive.ne' (by rwa [bits, abs_of_pos positive]) (by decide)

omit lowest highest in
include within in
/-- Ten widths do not overflow if the span is not the largest double. -/
theorem abs_ten_strides_lt (other : rounded (high - low) ≠ lineEnd - endStep) :
    |rounded (10 * strideOf low high)| < lineEnd := by
  rcases bits_or_apart gridLow gridHigh less 0 with short | apart
  · rw [zpow_zero, mul_one] at short
    exact_mod_cast (abs_boundary_lt_of_bits gridLow gridHigh less short (i := 10) le_rfl).1
  rw [zpow_zero] at apart
  have nonneg := (strideOf_le_span gridLow gridHigh less).1
  have one : 1 ≤ rounded (high - low) := by
    exact_mod_cast (onGrid_natCast (n := 1) (by decide)).le_rounded (by exact_mod_cast apart)
  have grid := onGrid_rounded (high - low)
  have next := rounded_ten_tenths_le_add_step grid one
  have largest := lt_of_le_of_ne (le_largest grid within) other
  have last := grid.next_le (by linarith) onGrid_largest largest
  have step := endStep_pos
  rw [abs_of_nonneg (rounded_nonneg (by linarith))]
  exact (next.trans last).trans_lt (by linarith)

include within lowest in
/-- The last boundary does not overflow either if the high end is not one of the two largest doubles. -/
theorem abs_last_boundary_lt (roomy : high ≤ lineEnd - 3 * endStep) :
    |rounded (low + rounded (10 * strideOf low high))| < lineEnd := by
  rcases bits_or_apart gridLow gridHigh less 0 with short | apart
  · rw [zpow_zero, mul_one] at short
    exact_mod_cast (abs_boundary_lt_of_bits gridLow gridHigh less short (i := 10) le_rfl).2
  rw [zpow_zero] at apart
  obtain ⟨-, fine, coarse⟩ := stepExponent_span_le gridLow gridHigh less within
  have nonneg := (strideOf_le_span gridLow gridHigh less).1
  have one : 1 ≤ rounded (high - low) := by
    exact_mod_cast (onGrid_natCast (n := 1) (by decide)).le_rounded (by exact_mod_cast apart)
  have next := rounded_ten_tenths_le_add_step (onGrid_rounded (high - low)) one
  have near := neg_le_of_abs_le (abs_sub_rounded_le_half (high - low))
  have least := rounded_nonneg (q := 10 * strideOf low high) (by linarith)
  have step := endStep_pos
  have inside := gridLow.le_rounded (q := low + rounded (10 * strideOf low high)) (by linarith)
  have outside : rounded (low + rounded (10 * strideOf low high)) ≤ lineEnd - endStep := by
    refine onGrid_largest.rounded_le ?_
    unfold strideOf
    linarith
  rw [abs_lt] at lowest ⊢
  constructor <;> linarith

end Ends

end Facets
