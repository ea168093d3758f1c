import Facets.Proofs.Scale.Position

/-!
The buckets of whole numbers. A number is moved to the range that contains it only if that range
belongs to the bucket of its position or to a neighbour of that bucket, and to the first one if the
ends of the ranges are cut off at 64 bits. The buckets are ordered as the numbers are in spite of it.
-/

namespace Facets

open Number

theorem toInt_ofIntClamp (n : ℤ) :
    (Int64.ofIntClamp n).toInt = max (-2 ^ 63) (min n (2 ^ 63 - 1)) := by
  have low : Int64.minValue.toInt = -2 ^ 63 := rfl
  have high : Int64.maxValue.toInt = 2 ^ 63 - 1 := rfl
  unfold Int64.ofIntClamp
  split
  · split
    · rw [Int64.toInt_ofIntLE]
      omega
    · omega
  · omega

namespace Number

/-- Right below the end of the range of words there is no grid point. -/
theorem OnGrid.two_pow_le {z : ℚ} (grid : OnGrid z) (above : 2 ^ 63 - 2 < z) : 2 ^ 63 ≤ z := by
  obtain ⟨m, rfl⟩ := grid.exists_multiple (k := 10) (by
    rw [abs_of_pos (by linarith)]
    norm_num
    linarith)
  have less : (2 ^ 63 - 2 : ℤ) < m * 2 ^ 10 := by exact_mod_cast above
  have most : (2 ^ 63 : ℤ) ≤ m * 2 ^ 10 := by omega
  exact_mod_cast most

end Number

namespace WholeSpan

variable (span : WholeSpan)

/-- The boundaries that a number has reached. -/
def position (n : ℤ) : ℕ := boundariesAt (span.distance n)

/-- The ranges that end before a number. -/
def passed (n : ℤ) : ℕ := (List.range 10).countP fun i : ℕ => span.lastOf i ≤ (n : ℚ) - 1

variable {span : WholeSpan} {u v n : ℤ} {i : ℕ}

theorem lt_position_iff : i < span.position n ↔ i < 9 ∧ ((i + 1 : ℕ) : ℚ) ≤ span.distance n :=
  lt_boundariesAt_iff

theorem boundary_mono (span : WholeSpan) : Monotone span.boundary := by
  intro i j le
  refine rounded_mono (mul_le_mul_of_nonneg_right ?_ span.width_bounds.2.2.le)
  exact_mod_cast Nat.succ_le_succ le

theorem lastOf_mono (span : WholeSpan) : Monotone span.lastOf :=
  fun _ _ le => rounded_mono (add_le_add_left (span.boundary_mono le) _)

theorem low_le_ceil_lastOf (span : WholeSpan) (i : ℕ) : span.low ≤ (span.lastOf i).ceil := by
  have positive := span.width_bounds.2.2
  have above : 0 ≤ span.boundary i := rounded_nonneg (by positivity)
  have behind : (span.low : ℚ) ≤ span.lastOf i := span.gridLow.le_rounded (by linarith)
  rw [← Int.sub_one_lt_iff, Rat.lt_ceil_iff]
  push_cast
  linarith

theorem lt_passed_iff : i < span.passed n ↔ i < 10 ∧ span.lastOf i ≤ (n : ℚ) - 1 := by
  rw [passed, lt_countP_range, decide_eq_true_iff]
  intro i ends
  rw [decide_eq_true_iff] at ends ⊢
  exact (span.lastOf_mono i.le_succ).trans ends

/-- The greatest word is not a double. -/
theorem Holds.ne_greatest (held : span.Holds n) : n ≠ 2 ^ 63 - 1 := by
  rintro rfl
  have beyond := held.grid.two_pow_le (by norm_num)
  norm_num at beyond

theorem lt_passed_iff_ceil (span : WholeSpan) (n : ℤ) (small : i < 10) :
    i < span.passed n ↔ (span.lastOf i).ceil ≤ n - 1 := by
  rw [lt_passed_iff, Rat.ceil_le_iff]
  push_cast
  exact and_iff_right small

theorem position_le (span : WholeSpan) (n : ℤ) : span.position n ≤ 9 := boundariesAt_le _

theorem passed_le (span : WholeSpan) (n : ℤ) : span.passed n ≤ 10 := by
  simpa [passed] using List.countP_le_length (l := List.range 10)

theorem position_mono (le : u ≤ v) : span.position u ≤ span.position v := by
  have positive := span.width_bounds.2.2
  refine boundariesAt_mono (rounded_mono (div_le_div_of_nonneg_right (rounded_mono ?_) positive.le))
  exact_mod_cast Int.sub_le_sub_right le _

theorem passed_mono (le : u ≤ v) : span.passed u ≤ span.passed v := by
  refine List.countP_mono_left fun i _ ends => ?_
  rw [decide_eq_true_iff] at ends ⊢
  refine ends.trans ?_
  exact_mod_cast Int.sub_le_sub_right le 1

/-- A position is at most one range short of the range that contains a number. -/
theorem passed_le_position (held : span.Holds n) : span.passed n ≤ span.position n + 1 := by
  by_contra! far
  have most := span.passed_le n
  have short : span.distance n < (span.position n + 1 : ℕ) := by
    by_contra! reached
    exact (lt_position_iff.mpr ⟨by omega, reached⟩).false
  have behind := le_lastOf held (by omega) short
  have before := (lt_passed_iff.mp far).2
  linarith

/-- It is at most one range ahead, where two numbers have the position. -/
theorem position_le_passed (heldU : span.Holds u) (heldV : span.Holds v) (less : u < v)
    (same : span.position u = span.position v) : span.position u ≤ span.passed u + 1 := by
  by_contra! far
  have most := span.position_le u
  obtain ⟨k, place⟩ : ∃ k, span.position u = k + 2 := ⟨span.position u - 2, by omega⟩
  have reached : ((k + 2 : ℕ) : ℚ) ≤ span.distance u :=
    (lt_position_iff.mp (by omega : k + 1 < span.position u)).2
  have short : k = 7 ∨ span.distance v < (k + 3 : ℕ) := by
    by_contra! both
    have inside := lt_position_iff.mpr ⟨by omega, both.2⟩
    omega
  have ends := lastOf_le heldU heldV less (by omega) reached short
  have ahead := lt_passed_iff.mpr ⟨by omega, ends⟩
  omega

theorem position_high (span : WholeSpan) : span.position span.high = 9 := by
  have most := span.position_le span.high
  have apart : (span.low : ℚ) + 1 ≤ span.high := by exact_mod_cast span.less
  obtain ⟨-, narrow, positive⟩ := span.width_bounds
  have off := (offset_bounds (v := span.high) span.less.le).1
  have far : ((8 + 1 : ℕ) : ℚ) ≤ span.distance span.high := by
    refine (onGrid_natCast (by decide)).le_rounded ((le_div_iff₀ positive).mpr ?_)
    push_cast
    linarith
  have reached := lt_position_iff.mpr ⟨by decide, far⟩
  omega

/-- The bucket of a whole number: that of the range that contains it, unless the position is too far
ahead of it. The end of the 64-bit range may be in several ranges and belongs to the first that the
last position sees. -/
def bucket (span : WholeSpan) (n : ℤ) : ℕ :=
  if n = 2 ^ 63 then max 8 (min (span.passed n) 9)
  else if span.position n ≤ span.passed n + 1 then min (span.passed n) 9
  else span.position n

/-- Buckets are ordered as the numbers are. -/
theorem bucket_mono (heldU : span.Holds u) (heldV : span.Holds v) (high : span.high ≤ 2 ^ 63)
    (le : u ≤ v) : span.bucket u ≤ span.bucket v := by
  rcases le.eq_or_lt with rfl | less
  · exact le_rfl
  have within := heldV.le_high
  have passed : span.passed u ≤ span.passed v := passed_mono le
  have position : span.position u ≤ span.position v := position_mono le
  have most := span.position_le u
  have tied := position_le_passed heldU heldV less
  have early : u ≠ 2 ^ 63 := by omega
  unfold bucket
  rw [if_neg early]
  by_cases last : v = 2 ^ 63
  · have full : span.position v = 9 := by
      have same : v = span.high := by omega
      rw [same, span.position_high]
    rw [if_pos last]
    split <;> omega
  · rw [if_neg last]
    split <;> split <;> omega

end WholeSpan

namespace LinearScale

/-- A scale between two whole numbers that words can hold, the end of their range included. -/
structure Spans (scale : LinearScale) (span : WholeSpan) : Prop where
  lowFinite : scale.low.isFinite = true
  highFinite : scale.high.isFinite = true
  low : toRat scale.low = span.low
  high : toRat scale.high = span.high
  least : -2 ^ 63 ≤ span.low
  most : span.high ≤ 2 ^ 63

variable {scale : LinearScale} {span : WholeSpan} {x : Float} {n : ℤ}

section Spans

variable (spans : scale.Spans span)

include spans

theorem less_of_spans : scale.low < scale.high := by
  rw [double_lt_iff_toRat spans.lowFinite spans.highFinite, spans.low, spans.high]
  exact_mod_cast span.less

theorem span_bounds : (-2 ^ 63 : ℚ) ≤ span.low ∧ (span.high : ℚ) ≤ 2 ^ 63 :=
  ⟨by exact_mod_cast spans.least, by exact_mod_cast spans.most⟩

theorem toRat_offset (finite : x.isFinite = true) (whole : toRat x = n) (held : span.Holds n) :
    (x - scale.low).isFinite = true ∧ toRat (x - scale.low) = span.offset n := by
  have difference := roundsTo_sub finite spans.lowFinite
  rw [whole, spans.low] at difference
  obtain ⟨least, most⟩ := span_bounds spans
  have low : (span.low : ℚ) ≤ n := by exact_mod_cast held.low_le
  have high : (n : ℚ) ≤ span.high := by exact_mod_cast held.le_high
  refine difference.finite (lt_of_le_of_lt (abs_rounded_le (n := 64) ?_) (two_pow_lt_lineEnd (by decide)))
  rw [abs_of_nonneg (by linarith)]
  linarith

theorem toRat_spanWidth : scale.width.isFinite = true ∧ toRat scale.width = span.width := by
  have bounded := (toRat_offset spans spans.highFinite spans.high
    ⟨span.less.le, le_rfl, span.gridHigh⟩).1
  have width := toRat_width spans.lowFinite spans.highFinite (less_of_spans spans) bounded
  rwa [spans.low, spans.high] at width

theorem positionOf_eq (finite : x.isFinite = true) (whole : toRat x = n) (held : span.Holds n) :
    scale.positionOf x = span.position n := by
  obtain ⟨bounded, offset⟩ := toRat_offset spans finite whole held
  obtain ⟨fixed, width⟩ := toRat_spanWidth spans
  have positive := span.width_bounds.2.2
  have quotient := roundsTo_div bounded fixed (width ▸ positive.ne')
  rw [offset, width] at quotient
  rw [positionOf_of_isFinite finite, boundariesReached_of_roundsTo quotient]
  rfl

theorem lastOf_eq {i : ℕ} (small : i < 10) :
    scale.lastOf i = Int64.ofIntClamp (span.lastOf i).ceil := by
  obtain ⟨count, counted⟩ := toRat_ofInt (n := i + 1) (isDouble_of_le (by omega)) (by omega)
  obtain ⟨fixed, width⟩ := toRat_spanWidth spans
  obtain ⟨wide, narrow, positive⟩ := span.width_bounds
  obtain ⟨least, most⟩ := span_bounds spans
  have apart : (span.low : ℚ) + 1 ≤ span.high := by exact_mod_cast span.less
  have few : (i : ℚ) + 1 ≤ 10 := by exact_mod_cast small
  have product := roundsTo_mul counted fixed
  rw [count, width] at product
  push_cast at product
  have nonneg : 0 ≤ ((i : ℚ) + 1) * span.width := by positivity
  have size : |rounded (((i : ℚ) + 1) * span.width)| ≤ 2 ^ 65 := by
    refine abs_rounded_le ?_
    rw [abs_of_nonneg nonneg]
    calc ((i : ℚ) + 1) * span.width ≤ 10 * span.width := mul_le_mul_of_nonneg_right few positive.le
      _ ≤ 2 ^ 65 := by linarith
  obtain ⟨finite, value⟩ := product.finite (size.trans_lt (two_pow_lt_lineEnd (by decide)))
  have sum := roundsTo_add finite spans.lowFinite
  rw [value, spans.low] at sum
  have total : |rounded (((i : ℚ) + 1) * span.width) + span.low| ≤ 2 ^ 66 := by
    obtain ⟨below, above⟩ := abs_le.mp size
    exact abs_le.mpr ⟨by linarith, by linarith⟩
  obtain ⟨bounded, ends⟩ := sum.finite ((abs_rounded_le total).trans_lt (two_pow_lt_lineEnd (by decide)))
  rw [LinearScale.lastOf, toInt64_of_isFinite bounded, ends]
  rfl

theorem toInt_lastOf {i : ℕ} (small : i < 10) :
    (scale.lastOf i).toInt = min (span.lastOf i).ceil (2 ^ 63 - 1) := by
  have above := span.low_le_ceil_lastOf i
  have least := spans.least
  rw [lastOf_eq spans small, toInt_ofIntClamp]
  omega

theorem toInt_firstOf_zero : (scale.firstOf 0).toInt = span.low := by
  have least := spans.least
  have most := spans.most
  have less := span.less
  rw [firstOf, toInt64_of_isFinite spans.lowFinite, spans.low, Rat.floor_intCast, toInt_ofIntClamp]
  omega

/-- A range ends at a number or behind it unless the number has passed it. Cutting the ends off at the
greatest word makes no difference, since that one is no double. -/
theorem le_toInt_lastOf_iff (held : span.Holds n) {i : ℕ} (small : i < 10) :
    (Int64.ofIntClamp n).toInt ≤ (scale.lastOf i).toInt ↔ span.passed n ≤ i := by
  have least := spans.least
  have most := spans.most
  have low := held.low_le
  have high := held.le_high
  have skipped := held.ne_greatest
  have gap : 2 ^ 63 - 1 ≤ (span.lastOf i).ceil → 2 ^ 63 ≤ (span.lastOf i).ceil := by
    intro reached
    have behind : (2 ^ 63 - 2 : ℤ) < (span.lastOf i).ceil := by omega
    rw [Rat.lt_ceil_iff] at behind
    push_cast at behind
    have far := (onGrid_rounded _).two_pow_le (z := span.lastOf i) (by linarith)
    rw [← Int.sub_one_lt_iff, Rat.lt_ceil_iff]
    push_cast
    linarith
  have current := span.lt_passed_iff_ceil n small
  rw [toInt_lastOf spans small, toInt_ofIntClamp]
  omega

/-- A range starts at a number or before it if the number has passed all ranges before, and at the end of
the 64-bit range in any case. -/
theorem toInt_firstOf_le_iff (held : span.Holds n) {i : ℕ} (small : i < 10) :
    (scale.firstOf i).toInt ≤ (Int64.ofIntClamp n).toInt ↔ i ≤ span.passed n ∨ n = 2 ^ 63 := by
  have least := spans.least
  have most := spans.most
  have low := held.low_le
  have high := held.le_high
  have less := span.less
  have skipped := held.ne_greatest
  cases i with
  | zero =>
    rw [toInt_firstOf_zero spans, toInt_ofIntClamp]
    omega
  | succ k =>
    have bound : k < 10 := by omega
    have previous := span.lt_passed_iff_ceil n bound
    have above := span.low_le_ceil_lastOf k
    rw [firstOf, toInt_ofIntClamp, toInt_lastOf spans bound, toInt_ofIntClamp]
    omega

/-- The ranges up to the one with a number are those that end before the number; only the end of the
64-bit range is in all ranges from there on. -/
theorem contains_iff (held : span.Holds n) {i : ℕ} (small : i < 10) :
    (scale.rangeOf i).contains (Int64.ofIntClamp n) = true ↔
      (i ≤ span.passed n ∨ n = 2 ^ 63) ∧ span.passed n ≤ i := by
  rw [WholeRange.contains, Bool.and_eq_true, decide_eq_true_iff, decide_eq_true_iff,
    Int64.le_iff_toInt_le, Int64.le_iff_toInt_le]
  exact and_congr (toInt_firstOf_le_iff spans held small) (le_toInt_lastOf_iff spans held small)

theorem bucketOf_eq (integer : scale.kind = .integer) (finite : x.isFinite = true)
    (whole : toRat x = n) (held : span.Holds n) : scale.bucketOf x = span.bucket n := by
  have word : toInt64 truncate x = Int64.ofIntClamp n := by
    rw [toInt64_of_isFinite finite, whole, truncate_intCast]
  have most := spans.most
  have high := held.le_high
  have place := span.position_le n
  have far := WholeSpan.passed_le_position held
  have last : n = 2 ^ 63 → span.position n = 9 := by
    intro same
    have top : n = span.high := by omega
    rw [top, span.position_high]
  have test (i : ℕ) (small : i < 10) : (scale.rangeOf i).contains (Int64.ofIntClamp n) =
      decide ((i ≤ span.passed n ∨ n = 2 ^ 63) ∧ span.passed n ≤ i) := by
    rw [Bool.eq_iff_iff, contains_iff spans held small, decide_eq_true_iff]
  rw [LinearScale.bucketOf, if_pos ⟨integer, finite⟩, word, positionOf_eq spans finite whole held,
    snap, List.find?_cons, List.find?_cons, List.find?_cons, List.find?_nil, test _ (by omega),
    test _ (by omega), test _ (by omega)]
  unfold WholeSpan.bucket
  by_cases first : (span.position n - 1 ≤ span.passed n ∨ n = 2 ^ 63) ∧
      span.passed n ≤ span.position n - 1
  · rw [decide_eq_true first]
    simp only [Ordinal, Option.getD_some]
    split_ifs <;> omega
  rw [decide_eq_false first]
  by_cases second : (span.position n ≤ span.passed n ∨ n = 2 ^ 63) ∧ span.passed n ≤ span.position n
  · rw [decide_eq_true second]
    simp only [Ordinal, Option.getD_some]
    split_ifs <;> omega
  rw [decide_eq_false second]
  by_cases third : (min (span.position n + 1) 9 ≤ span.passed n ∨ n = 2 ^ 63) ∧
      span.passed n ≤ min (span.position n + 1) 9
  · rw [decide_eq_true third]
    simp only [Ordinal, Option.getD_some]
    split_ifs <;> omega
  · rw [decide_eq_false third]
    simp only [Ordinal, Option.getD_none]
    split_ifs <;> omega

end Spans

end LinearScale

end Facets
