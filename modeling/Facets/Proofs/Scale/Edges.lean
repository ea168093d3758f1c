import Facets.Proofs.Scale.Extent
import Facets.Proofs.Scale.Fitting

/-!
The edges of a linear scale between two finite ends. The low end is in the first bucket, the high end in
the last one and all edges are finite, unless the difference of the ends overflows or is so small that
its tenth is rounded to a multiple of the finest step, or the last edge passes the largest double.
-/

namespace Facets

open Number
open Float.Model (UnpackedFloat)

namespace LinearScale

/-- Where the buckets before an ordinal end, as numbers are shown. -/
def boundaryOf (scale : LinearScale) (i : ℕ) : Float := scale.low + ofInt i * scale.width

/-- What the edges of a bucket are like if the span does not overflow. The last edge is the low end and
ten rounded tenths of the span: beside the two largest doubles it may pass the end of the line. -/
structure EdgesFit (scale : LinearScale) (ordinal : Ordinal) (specials : Specials)
    (start stop : Float) : Prop where
  first : start.isFinite = false → ordinal = 0 ∧ specials.negativeInfinity = true ∧
    Specials.isNegativeInfinity start = true
  last : stop.isFinite = false → ordinal = 9 ∧
    (specials.nan = true ∧ stop.isNaN = true ∨
      specials.positiveInfinity = true ∧ Specials.isPositiveInfinity stop = true ∨
      lineEnd - 3 * endStep < toRat scale.high ∧ Specials.isPositiveInfinity stop = true)
  ordered : start.isFinite = true → stop.isFinite = true → start ≤ stop

variable {scale : LinearScale}

/-- What a special value makes of the edge of an outermost bucket. -/
theorem widened_eq : ((1.0 / 0.0 : Float).isFinite = false ∧
      Specials.isPositiveInfinity (1.0 / 0.0) = true) ∧
    ((-(1.0 / 0.0) : Float).isFinite = false ∧
      Specials.isNegativeInfinity (-(1.0 / 0.0)) = true) ∧
    (0.0 / 0.0 : Float).isFinite = false ∧ (0.0 / 0.0 : Float).isNaN = true := by
  decide +kernel

theorem boundariesReached_eq_zero {distance : Float} (none : lineOf distance = 0) :
    boundariesReached distance = 0 := by
  rw [boundariesReached_eq, none]
  refine Nat.eq_zero_of_not_pos fun some => ?_
  have reached := (lt_boundariesAt_iff.mp some).2
  norm_num at reached

theorem boundariesReached_eq_nine_iff {distance : Float} :
    boundariesReached distance = 9 ↔ 9 ≤ lineOf distance := by
  have most := boundariesAt_le (lineOf distance)
  have last : 8 < boundariesAt (lineOf distance) ↔ 8 < 9 ∧ ((8 + 1 : ℕ) : ℚ) ≤ lineOf distance :=
    lt_boundariesAt_iff
  norm_num at last
  rw [boundariesReached_eq, ← last]
  exact ⟨fun same => same ▸ Nat.lt_succ_self 8, fun above => le_antisymm most above⟩

section Ends

variable (low : scale.low.isFinite = true) (high : scale.high.isFinite = true)
  (less : scale.low < scale.high) (bounded : (scale.high - scale.low).isFinite = true)
  (fractional : scale.kind ≠ .integer)

include fractional low in
/-- The low end is in the first bucket, whatever the width is. -/
theorem bucketOf_low : scale.bucketOf scale.low = 0 := by
  have difference := roundsTo_sub low low
  rw [sub_self] at difference
  obtain ⟨finite, zero⟩ := difference.finite (by
    rw [rounded_zero, abs_zero]
    exact lineEnd_pos)
  rw [bucketOf_of_fractional fractional, positionOf_of_isFinite low]
  exact boundariesReached_eq_zero
    (lineOf_div_of_toRat_eq_zero finite (zero.trans rounded_zero) scale.signOf_width)

include low high less bounded in
theorem nine_le_distance_high_iff : 9 ≤ lineOf ((scale.high - scale.low) / scale.width) ↔
    ∀ n ∈ shortSpans, toRat scale.high - toRat scale.low ≠ n * 2 ^ (-1074 : ℤ) := by
  have apart := (double_lt_iff_toRat low high).mp less
  obtain ⟨fixed, width⟩ := toRat_width low high less bounded
  have span := (roundsTo_sub high low).toRat_eq bounded
  have positive := rounded_span_pos (onGrid_toRat low) (onGrid_toRat high) apart
  have nonneg := (strideOf_le_span (onGrid_toRat low) (onGrid_toRat high) apart).1
  have cases := nine_strides_cases (onGrid_toRat low) (onGrid_toRat high) apart
  rw [← span] at positive cases
  rw [← width] at nonneg cases
  have large : (16 : ℚ) < lineEnd := by
    exact_mod_cast two_pow_lt_lineEnd (n := 4) (by decide)
  rcases nonneg.eq_or_lt with zero | wide
  · have line := lineOf_of_isFinite bounded
    have place : lineOf ((scale.high - scale.low) / scale.width) = lineEnd := by
      rcases lineOf_div_of_zero (unpack_of_toRat_eq_zero fixed zero.symm scale.signOf_width)
        (isNaN_of_isFinite bounded) with ⟨-, place⟩ | ⟨below, -⟩ | ⟨none, -⟩
      · exact place
      · linarith
      · linarith
    rcases cases with ⟨-, other⟩ | ⟨beyond, -⟩
    · exact iff_of_true (by linarith) other
    · linarith
  · rw [(roundsTo_div bounded fixed wide.ne').line, le_clamped_iff (by rw [abs_of_pos] <;> linarith)]
    rcases cases with ⟨nine, other⟩ | ⟨beyond, n, member, same⟩
    · refine iff_of_true ?_ other
      exact_mod_cast (onGrid_natCast (n := 9) (by decide)).le_rounded
        ((le_div_iff₀ wide).mpr (by exact_mod_cast nine))
    · have grid : OnGrid (35 / 4) := by
        have quarters := onGrid_mul_step (n := 35) (k := -2) (by decide) (by decide)
        norm_num at quarters
        exact quarters
      refine iff_of_false (fun reached => ?_) fun other => other n member same
      have few : toRat (scale.high - scale.low) / toRat scale.width ≤ 35 / 4 :=
        (div_le_iff₀ wide).mpr (by linarith)
      linarith [grid.rounded_le few]

include low high less in
/-- Of a scale with an extent special values only widen the outer edges. -/
theorem edges_eq (ordinal : Ordinal) (specials : Specials) : scale.edges ordinal specials =
    (if ordinal = 0 ∧ specials.negativeInfinity = true then -(1.0 / 0.0) else scale.boundaryOf ordinal,
      if ordinal = 9 ∧ specials.nan = true then 0.0 / 0.0
      else if ordinal = 9 ∧ specials.positiveInfinity = true then 1.0 / 0.0
      else scale.boundaryOf (ordinal + 1)) := by
  unfold edges
  simp only [not_collapsed low high less, Bool.false_eq_true, if_false]
  by_cases first : ordinal = 0 ∧ specials.negativeInfinity = true
  · have other (p : Prop) : ¬ (ordinal = 9 ∧ p) := fun last =>
      absurd (first.1.symm.trans last.1) (by decide)
    rw [if_pos first, if_pos first, if_neg (other _), if_neg (other _)]
    rfl
  · rw [if_neg first, if_neg first]
    split_ifs <;> rfl

section Overflow

variable (overflow : (scale.high - scale.low).isFinite = false)

include low high less overflow

/-- Where the difference of the ends overflows the width is infinite. -/
theorem unpack_width_of_overflow : scale.width.toModel.unpack = .infinity .positive := by
  have apart : ¬ scale.high ≤ scale.low := decide_eq_false_iff_not.mp (not_collapsed low high less)
  have sign := signOf_sub apart
  have width : scale.width = (scale.high - scale.low) / 10.0 := by
    rw [LinearScale.width, not_collapsed low high less]
    rfl
  rcases number_cases (roundsTo_sub high low).number with finite | ⟨s, infinite⟩
  · exact absurd (overflow.symm.trans finite) Bool.false_ne_true
  · rw [infinite] at sign
    cases (sign : s = .positive)
    have ten : 0 < toRat 10.0 := by rw [toRat_ten.2]; norm_num
    rw [width, unpack_div_of_infinity infinite toRat_ten.1 ((roundsTo_self toRat_ten.1).signOf_eq ten)]
    rfl

theorem isFinite_width_of_overflow : scale.width.isFinite = false :=
  congrArg UnpackedFloat.isFinite (unpack_width_of_overflow low high less overflow)

include fractional in
/-- All finite numbers are in the first bucket then. -/
theorem bucketOf_of_overflow {x : Float} (finite : x.isFinite = true) : scale.bucketOf x = 0 := by
  rw [bucketOf_of_fractional fractional, positionOf_of_isFinite finite]
  exact boundariesReached_eq_zero
    (lineOf_div_of_not_isFinite (isFinite_width_of_overflow low high less overflow))

/-- The edges of the first bucket are not finite then, whether special values were met or not. -/
theorem edges_of_overflow (specials : Specials) : (scale.edges 0 specials).1.isFinite = false ∧
    (scale.edges 0 specials).2.isFinite = false := by
  have width := unpack_width_of_overflow low high less overflow
  have nan : (ofInt (0 : ℕ) * scale.width).toModel.unpack = .notANumber :=
    unpack_mul_of_fits (by rw [width]; rfl) trivial
  have point : (ofInt (1 : ℕ) * scale.width).toModel.unpack = .infinity .positive :=
    unpack_mul_of_fits (by rw [width]; rfl) trivial
  have start : (scale.boundaryOf 0).toModel.unpack = .notANumber :=
    unpack_add_of_fits (by rw [nan]; cases scale.low.toModel.unpack <;> rfl) trivial
  have stop : (scale.boundaryOf 1).toModel.unpack = .infinity .positive := by
    refine unpack_add_of_fits ?_ trivial
    rcases finite_cases low with ⟨s, left⟩ | ⟨s, m, e, filled, left⟩ <;> rw [point, left] <;> rfl
  have inner (p : Prop) : ¬ ((0 : Ordinal) = 9 ∧ p) := fun last => absurd last.1 (by decide)
  rw [edges_eq low high less, if_neg (inner _), if_neg (inner _)]
  refine ⟨?_, congrArg UnpackedFloat.isFinite stop⟩
  split_ifs
  · exact widened_eq.2.1.1
  · exact congrArg UnpackedFloat.isFinite start

end Overflow

include low high less fractional in
/-- The high end is in the last bucket if the span does not overflow, but for eight short spans. -/
theorem bucketOf_high_iff : scale.bucketOf scale.high = 9 ↔
    (scale.high - scale.low).isFinite = true ∧
      ∀ n ∈ shortSpans, toRat scale.high - toRat scale.low ≠ n * 2 ^ (-1074 : ℤ) := by
  by_cases bounded : (scale.high - scale.low).isFinite = true
  · rw [bucketOf_of_fractional fractional, positionOf_of_isFinite high, boundariesReached_eq_nine_iff,
      nine_le_distance_high_iff low high less bounded]
    exact (and_iff_right bounded).symm
  · rw [bucketOf_of_overflow low high less fractional (by simpa using bounded) high]
    exact iff_of_false (by decide) fun both => bounded both.1

section Bounded

include low high less bounded

/-- Ten widths overflow less than the span does. -/
theorem isFinite_ten_widths : (ofInt 10 * scale.width).isFinite = true := by
  have apart := (double_lt_iff_toRat low high).mp less
  have span := (roundsTo_sub high low).toRat_eq bounded
  by_cases largest : rounded (toRat scale.high - toRat scale.low) = lineEnd - endStep
  · have value : toRat 1.7976931348623157e308 = lineEnd - endStep := by
      unfold lineEnd endStep
      decide +kernel
    have nothing : toRat (-0.0) = 0 := by decide +kernel
    have same : scale.high - scale.low = 1.7976931348623157e308 := by
      refine eq_of_toRat_eq bounded (by decide +kernel) ?_ (by decide +kernel)
        (span.trans (largest.trans value.symm))
      intro zero
      have positive := rounded_span_pos (onGrid_toRat low) (onGrid_toRat high) apart
      rw [← span, zero, nothing] at positive
      exact positive.false
    rw [LinearScale.width, not_collapsed low high less, same]
    decide +kernel
  · obtain ⟨fixed, width⟩ := toRat_width low high less bounded
    obtain ⟨ten, counted⟩ := toRat_ofInt (n := 10) (isDouble_of_le (by decide)) (by decide)
    have product := roundsTo_mul counted fixed
    have within := abs_toRat_lt bounded
    rw [span] at within
    rw [ten, width] at product
    exact (product.finite (abs_ten_strides_lt (onGrid_toRat low) (onGrid_toRat high) apart
      (lt_of_abs_lt within) largest)).1

theorem roundsTo_boundaryOf {i : ℕ} (few : i ≤ 10) :
    RoundsTo (toRat scale.low + rounded (i * strideOf (toRat scale.low) (toRat scale.high)))
      (scale.boundaryOf i) := by
  have apart := (double_lt_iff_toRat low high).mp less
  have span := (roundsTo_sub high low).toRat_eq bounded
  obtain ⟨count, counted⟩ := toRat_ofInt (n := i) (isDouble_of_le (by omega)) (by omega)
  obtain ⟨fixed, width⟩ := toRat_width low high less bounded
  have product := roundsTo_mul counted fixed
  rw [count, width, Int.cast_natCast] at product
  have finite : (ofInt i * scale.width).isFinite = true := by
    rcases few.lt_or_eq with fewer | rfl
    · have within := abs_toRat_lt bounded
      rw [span] at within
      exact (product.finite (abs_boundary_lt (onGrid_toRat low) (onGrid_toRat high) apart
        (lt_of_abs_lt within) (abs_toRat_lt low) (abs_toRat_lt high) (by omega)).1).1
    · exact isFinite_ten_widths low high less bounded
  have sum := roundsTo_add low finite
  rwa [product.toRat_eq finite] at sum

/-- The edges before the last one are finite. -/
theorem isFinite_boundaryOf {i : ℕ} (few : i ≤ 9) : (scale.boundaryOf i).isFinite = true := by
  have apart := (double_lt_iff_toRat low high).mp less
  have within := abs_toRat_lt bounded
  rw [(roundsTo_sub high low).toRat_eq bounded] at within
  exact ((roundsTo_boundaryOf low high less bounded (by omega)).finite
    (abs_boundary_lt (onGrid_toRat low) (onGrid_toRat high) apart (lt_of_abs_lt within)
      (abs_toRat_lt low) (abs_toRat_lt high) few).2).1

/-- So is the last one, unless the high end is one of the two largest doubles. -/
theorem isFinite_boundaryOf_ten (roomy : toRat scale.high ≤ lineEnd - 3 * endStep) :
    (scale.boundaryOf 10).isFinite = true := by
  have apart := (double_lt_iff_toRat low high).mp less
  have within := abs_toRat_lt bounded
  rw [(roundsTo_sub high low).toRat_eq bounded] at within
  have last := abs_last_boundary_lt (onGrid_toRat low) (onGrid_toRat high) apart
    (lt_of_abs_lt within) (abs_toRat_lt low) roomy
  exact ((roundsTo_boundaryOf low high less bounded le_rfl).finite (by exact_mod_cast last)).1

theorem boundaryOf_mono {i j : ℕ} (le : i ≤ j) (few : j ≤ 10) :
    lineOf (scale.boundaryOf i) ≤ lineOf (scale.boundaryOf j) := by
  have nonneg := (strideOf_le_span (onGrid_toRat low) (onGrid_toRat high)
    ((double_lt_iff_toRat low high).mp less)).1
  refine (roundsTo_boundaryOf low high less bounded (le.trans few)).line_le
    (roundsTo_boundaryOf low high less bounded few) (add_le_add_right (rounded_mono ?_) _)
  exact mul_le_mul_of_nonneg_right (by exact_mod_cast le) nonneg

/-- Where the last edge overflows it does so upwards. -/
theorem isPositiveInfinity_boundaryOf_ten (infinite : (scale.boundaryOf 10).isFinite = false) :
    Specials.isPositiveInfinity (scale.boundaryOf 10) = true := by
  have finite := isFinite_boundaryOf low high less bounded (Nat.zero_le 9)
  have above := boundaryOf_mono low high less bounded (Nat.zero_le 10) le_rfl
  have near := (abs_lt.mp (abs_toRat_lt finite)).1
  rw [← lineOf_of_isFinite finite] at near
  rw [Specials.isPositiveInfinity_iff]
  rcases number_cases (roundsTo_boundaryOf low high less bounded le_rfl).number with finites | ⟨s, point⟩
  · exact absurd (infinite.symm.trans finites) Bool.false_ne_true
  · cases s with
    | positive => exact point
    | negative =>
      have place : lineOf (scale.boundaryOf 10) = -lineEnd := by
        rw [lineOf, point]
        rfl
      linarith

/-- If the span does not overflow, an edge is not finite only where a special value widens it or the
last edge passes the largest double, and edges are in order. -/
theorem edgesFit {ordinal : ℕ} (small : ordinal < 10) (specials : Specials) :
    scale.EdgesFit ordinal specials (scale.edges ordinal specials).1
      (scale.edges ordinal specials).2 := by
  have finite := isFinite_boundaryOf low high less bounded (Nat.le_of_lt_succ small)
  obtain ⟨infinity, negative, nan⟩ := widened_eq
  rw [edges_eq low high less]
  dsimp only
  by_cases first : ordinal = 0 ∧ specials.negativeInfinity = true
  · have next := isFinite_boundaryOf low high less bounded (i := ordinal + 1) (by omega)
    have other (p : Prop) : ¬ (ordinal = 9 ∧ p) := fun last =>
      absurd (first.1.symm.trans last.1) (by decide)
    rw [if_pos first, if_neg (other _), if_neg (other _)]
    exact ⟨fun _ => ⟨first.1, first.2, negative.2⟩, fun infinite => by simp [next] at infinite,
      fun finites => by simp [negative.1] at finites⟩
  rw [if_neg first]
  by_cases last : ordinal = 9 ∧ specials.nan = true
  · rw [if_pos last]
    exact ⟨fun infinite => by simp [finite] at infinite, fun _ => ⟨last.1, Or.inl ⟨last.2, nan.2⟩⟩,
      fun _ finites => by simp [nan.1] at finites⟩
  rw [if_neg last]
  by_cases top : ordinal = 9 ∧ specials.positiveInfinity = true
  · rw [if_pos top]
    exact ⟨fun infinite => by simp [finite] at infinite,
      fun _ => ⟨top.1, Or.inr (Or.inl ⟨top.2, infinity.2⟩)⟩,
      fun _ finites => by simp [infinity.1] at finites⟩
  rw [if_neg top]
  refine ⟨fun infinite => by simp [finite] at infinite, fun infinite => ?_, fun _ finites => ?_⟩
  · by_cases ten : ordinal = 9
    · subst ten
      refine ⟨rfl, Or.inr (Or.inr ⟨?_, isPositiveInfinity_boundaryOf_ten low high less bounded infinite⟩)⟩
      by_contra! roomy
      exact absurd (infinite.symm.trans (isFinite_boundaryOf_ten low high less bounded roomy))
        Bool.false_ne_true
    · have next := isFinite_boundaryOf low high less bounded (i := ordinal + 1) (by omega)
      exact absurd (infinite.symm.trans next) Bool.false_ne_true
  · rw [line_le_iff (isNaN_of_isFinite finite) (isNaN_of_isFinite finites)]
    exact boundaryOf_mono low high less bounded ordinal.le_succ (by omega)

end Bounded

end Ends

end LinearScale

end Facets
