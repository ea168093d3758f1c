import Facets.Proofs.Number.Arithmetic
import Facets.Proofs.Number.Whole
import Facets.Proofs.Scale
import Facets.Proofs.Scale.Span

/-!
Where a linear scale puts a number. The position counts the boundaries that lie below a distance, the
distance is a difference over a width that is never negative, and both keep the order, whatever the
ends of the scale are.
-/

namespace Facets

open Number
open Float.Model (UnpackedFloat)

namespace Specials

variable {x : Float}

theorem lineOf_zero : (0.0 : Float).isNaN = false ∧ lineOf 0.0 = 0 := by
  decide +kernel

theorem zero_lt_iff (number : x.isNaN = false) : 0.0 < x ↔ 0 < lineOf x := by
  rw [line_lt_iff lineOf_zero.1 number, lineOf_zero.2]

theorem isPositiveInfinity_iff :
    isPositiveInfinity x = true ↔ x.toModel.unpack = .infinity .positive := by
  have size := lineEnd_pos
  have infinite : x.isInf = x.toModel.unpack.isInf := rfl
  rw [isPositiveInfinity, Bool.and_eq_true, decide_eq_true_iff, infinite]
  cases unpacked : x.toModel.unpack with
  | infinity sign =>
    have number : x.isNaN = false := congrArg UnpackedFloat.isNaN unpacked
    rw [zero_lt_iff number, lineOf, unpacked]
    cases sign
    · exact iff_of_false (fun above => above.2.not_gt (neg_neg_of_pos size)) (by simp)
    · exact iff_of_true ⟨rfl, size⟩ rfl
  | _ => simp [UnpackedFloat.isInf]

theorem isNegativeInfinity_iff :
    isNegativeInfinity x = true ↔ x.toModel.unpack = .infinity .negative := by
  have size := lineEnd_pos
  have infinite : x.isInf = x.toModel.unpack.isInf := rfl
  rw [isNegativeInfinity, Bool.and_eq_true, decide_eq_true_iff, infinite]
  cases unpacked : x.toModel.unpack with
  | infinity sign =>
    have number : x.isNaN = false := congrArg UnpackedFloat.isNaN unpacked
    rw [line_lt_iff number lineOf_zero.1, lineOf_zero.2, lineOf, unpacked]
    cases sign
    · exact iff_of_true ⟨rfl, neg_neg_of_pos size⟩ rfl
    · exact iff_of_false (fun below => below.2.not_gt size) (by simp)
  | _ => simp [UnpackedFloat.isInf]

end Specials

namespace LinearScale

variable {scale : LinearScale} {x y : Float}

theorem lineOf_ofInt_boundary (i : ℕ) (small : i < 9) :
    (ofInt (i + 1)).isNaN = false ∧ lineOf (ofInt (i + 1)) = i + 1 := by
  obtain ⟨value, finite⟩ := toRat_ofInt (n := i + 1) (isDouble_of_le (by omega)) (by omega)
  refine ⟨isNaN_of_isFinite finite, ?_⟩
  rw [lineOf_of_isFinite finite, value]
  norm_cast

/-- The boundaries reached are those at or below the distance on the line. -/
theorem boundariesReached_eq (distance : Float) :
    boundariesReached distance = boundariesAt (lineOf distance) := by
  refine List.countP_congr fun i inside => ?_
  obtain ⟨number, value⟩ := lineOf_ofInt_boundary i (List.mem_range.mp inside)
  rw [decide_eq_true_iff, decide_eq_true_iff]
  by_cases nan : distance.isNaN = true
  · have nowhere : lineOf distance = 0 := by
      rw [lineOf, (isNaN_iff _).mp nan]
      rfl
    rw [nowhere]
    refine iff_of_false (fun le => ?_) (by positivity : (0 : ℚ) < (i + 1 : ℕ)).not_ge
    rw [(isNaN_of_le le).2] at nan
    cases nan
  · rw [line_le_iff number (by simpa using nan), value]
    push_cast
    rfl

theorem boundariesReached_mono (le : lineOf x ≤ lineOf y) :
    boundariesReached x ≤ boundariesReached y := by
  rw [boundariesReached_eq, boundariesReached_eq]
  exact boundariesAt_mono le

/-- The number of buckets, as the float that a span is divided by. -/
theorem toRat_ten : (10.0 : Float).isFinite = true ∧ toRat 10.0 = 10 := by
  decide +kernel

theorem signOf_width (scale : LinearScale) : signOf scale.width.toModel.unpack = .positive := by
  unfold width
  split
  · rfl
  · rename_i apart
    rw [collapsed, decide_eq_true_iff] at apart
    exact signOf_div (signOf_sub apart) toRat_ten.1 (by rw [toRat_ten.2]; norm_num)

theorem positionOf_of_positiveInfinity (infinite : x.toModel.unpack = .infinity .positive) :
    scale.positionOf x = 9 :=
  if_pos (Bool.or_eq_true _ _ ▸ Or.inr (Specials.isPositiveInfinity_iff.mpr infinite))

theorem positionOf_eq_of_bounded (number : x.isNaN = false)
    (below : x.toModel.unpack ≠ .infinity .positive) : scale.positionOf x =
      if Specials.isNegativeInfinity x then 0
      else boundariesReached ((x - scale.low) / scale.width) := by
  refine if_neg ?_
  rw [number, Bool.false_or, Specials.isPositiveInfinity_iff]
  exact below

theorem positionOf_of_negativeInfinity (infinite : x.toModel.unpack = .infinity .negative) :
    scale.positionOf x = 0 := by
  rw [positionOf_eq_of_bounded (congrArg UnpackedFloat.isNaN infinite) (by simp [infinite])]
  exact if_pos (Specials.isNegativeInfinity_iff.mpr infinite)

theorem positionOf_of_isFinite (finite : x.isFinite = true) :
    scale.positionOf x = boundariesReached ((x - scale.low) / scale.width) := by
  have bounded (sign : UnpackedFloat.Sign) : x.toModel.unpack ≠ .infinity sign := by
    intro infinite
    change x.toModel.unpack.isFinite = true at finite
    rw [infinite] at finite
    cases finite
  rw [positionOf_eq_of_bounded (isNaN_of_isFinite finite) (bounded _)]
  exact if_neg ((not_congr Specials.isNegativeInfinity_iff).mpr (bounded _))

/-- From an end of a scale that is not finite all finite numbers are equally far. -/
theorem sub_eq_sub (infinite : scale.low.isFinite = false) (finite : x.isFinite = true)
    (finites : y.isFinite = true) : x - scale.low = y - scale.low := by
  change scale.low.toModel.unpack.isFinite = false at infinite
  have far {z : Float} (bounded : z.isFinite = true) : (z - scale.low).toModel.unpack =
      UnpackedFloat.neg scale.low.toModel.unpack := by
    cases low : scale.low.toModel.unpack with
    | notANumber =>
      refine unpack_sub_of_fits ?_ trivial
      rw [low]
      cases z.toModel.unpack <;> rfl
    | infinity sign =>
      refine unpack_sub_of_fits ?_ trivial
      rw [low]
      rcases finite_cases bounded with ⟨s, left⟩ | ⟨s, m, e, filled, left⟩ <;> rw [left] <;> rfl
    | zero sign =>
      rw [low] at infinite
      cases infinite
    | finite sign m e positive =>
      rw [low] at infinite
      cases infinite
  exact eq_of_unpack ((far finite).trans (far finites).symm)

/-- The distance from the low end, in widths, keeps the order. -/
theorem lineOf_distance_mono (scale : LinearScale) (finite : x.isFinite = true) (finites : y.isFinite = true)
    (le : toRat x ≤ toRat y) :
    lineOf ((x - scale.low) / scale.width) ≤ lineOf ((y - scale.low) / scale.width) := by
  by_cases fixed : scale.low.isFinite = true
  · exact line_div_mono (roundsTo_sub finite fixed).number (roundsTo_sub finites fixed).number
      scale.signOf_width (line_sub_mono finite finites fixed le)
  · rw [sub_eq_sub (by simpa using fixed) finite finites]

theorem positionOf_mono (scale : LinearScale) (le : x ≤ y) :
    scale.positionOf x ≤ scale.positionOf y := by
  obtain ⟨number, numbers⟩ := isNaN_of_le le
  rw [line_le_iff number numbers] at le
  have near {z : Float} (finite : z.isFinite = true) := abs_lt.mp (abs_toRat_lt finite)
  rcases number_cases number with finite | ⟨s, infinite⟩
  · rcases number_cases numbers with finites | ⟨t, infinites⟩
    · rw [lineOf_of_isFinite finite, lineOf_of_isFinite finites] at le
      rw [positionOf_of_isFinite finite, positionOf_of_isFinite finites]
      exact boundariesReached_mono (scale.lineOf_distance_mono finite finites le)
    · cases t with
      | negative =>
        rw [lineOf_of_isFinite finite, lineOf, infinites] at le
        exact absurd le (near finite).1.not_ge
      | positive =>
        rw [positionOf_of_positiveInfinity infinites]
        exact Nat.le_of_lt_succ (scale.positionOf_lt x)
  · cases s with
    | negative =>
      rw [positionOf_of_negativeInfinity infinite]
      exact Nat.zero_le _
    | positive =>
      rcases number_cases numbers with finites | ⟨t, infinites⟩
      · rw [lineOf_of_isFinite finites, lineOf, infinite] at le
        exact absurd le (near finites).2.not_ge
      · cases t with
        | negative =>
          rw [lineOf, lineOf, infinite, infinites] at le
          exact absurd le (neg_lt_self lineEnd_pos).not_ge
        | positive =>
          rw [positionOf_of_positiveInfinity infinite, positionOf_of_positiveInfinity infinites]

/-- What rounds to a distance has reached the boundaries that the rounded distance has. -/
theorem boundariesReached_of_roundsTo {q : ℚ} {distance : Float} (rounds : RoundsTo q distance) :
    boundariesReached distance = boundariesAt (rounded q) := by
  rw [boundariesReached_eq, rounds.line]
  refine List.countP_congr fun i inside => ?_
  have small : ((i + 1 : ℕ) : ℚ) ≤ 9 := by exact_mod_cast List.mem_range.mp inside
  have wide : (9 : ℚ) < lineEnd := lt_trans (by norm_num) (two_pow_lt_lineEnd (n := 4) (by decide))
  rw [decide_eq_true_iff, decide_eq_true_iff, le_clamped_iff]
  rw [abs_of_nonneg (Nat.cast_nonneg _)]
  exact small.trans_lt wide

section Finite

variable (low : scale.low.isFinite = true) (high : scale.high.isFinite = true)
  (less : scale.low < scale.high) (bounded : (scale.high - scale.low).isFinite = true)

include low high less

theorem not_collapsed : scale.collapsed = false := by
  have apart := (double_lt_iff_toRat low high).mp less
  refine decide_eq_false fun ge => ?_
  rw [ge_iff_le, line_le_iff (isNaN_of_isFinite high) (isNaN_of_isFinite low),
    lineOf_of_isFinite low, lineOf_of_isFinite high] at ge
  exact apart.not_ge ge

include bounded in
/-- The width of a scale between finite ends whose difference does not overflow. -/
theorem toRat_width : scale.width.isFinite = true ∧
    toRat scale.width = strideOf (toRat scale.low) (toRat scale.high) := by
  have width : scale.width = (scale.high - scale.low) / 10.0 := by
    rw [LinearScale.width, not_collapsed low high less]
    rfl
  have difference := (roundsTo_sub high low).toRat_eq bounded
  have quotient := roundsTo_div bounded toRat_ten.1 (by rw [toRat_ten.2]; norm_num)
  have apart := (double_lt_iff_toRat low high).mp less
  have within := abs_toRat_lt bounded
  rw [difference] at within quotient
  have above : 0 ≤ rounded (toRat scale.high - toRat scale.low) := rounded_nonneg (by linarith)
  have most : rounded (rounded (toRat scale.high - toRat scale.low) / 10) ≤
      rounded (toRat scale.high - toRat scale.low) := (onGrid_rounded _).rounded_le (by linarith)
  rw [abs_of_nonneg above] at within
  rw [toRat_ten.2] at quotient
  rw [width]
  refine quotient.finite ?_
  rw [abs_of_nonneg (rounded_nonneg (by linarith))]
  exact most.trans_lt within

end Finite

theorem bucketOf_of_fractional (fractional : scale.kind ≠ .integer) (x : Float) :
    scale.bucketOf x = scale.positionOf x := if_neg fun both => fractional both.1

/-- On a field without whole numbers the buckets of a linear scale are ordered as the numbers are, and
there are ten of them, whatever two floats the scale was built from. -/
theorem bucketOf_ordered (low high : Float) {kind : NumberKind} (fractional : kind ≠ .integer)
    {a b : Float} (le : a ≤ b) :
    (LinearScale.mk low high kind).bucketOf a ≤ (LinearScale.mk low high kind).bucketOf b ∧
      (LinearScale.mk low high kind).bucketOf b ≤ 9 := by
  rw [bucketOf_of_fractional fractional, bucketOf_of_fractional fractional]
  exact ⟨positionOf_mono _ le, Nat.le_of_lt_succ (positionOf_lt _ b)⟩

/-- The width of a scale between opposite ends of the doubles overflows. -/
theorem bucketOf_ordered_overflow :
    (NumberKind.double ≠ .integer ∧ (0.5 : Float) ≤ 1.0 / 0.0) ∧
      (LinearScale.mk (-1.5e308) 1.5e308 .double).bucketOf 0.5 ≤
        (LinearScale.mk (-1.5e308) 1.5e308 .double).bucketOf (1.0 / 0.0) ∧
      (LinearScale.mk (-1.5e308) 1.5e308 .double).bucketOf (1.0 / 0.0) ≤ 9 :=
  ⟨⟨by decide, by decide +kernel⟩,
    bucketOf_ordered (-1.5e308) 1.5e308 (by decide) (by decide +kernel)⟩

end LinearScale

end Facets
