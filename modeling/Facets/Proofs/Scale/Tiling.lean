import Facets.Proofs.Number.Tenths
import Facets.Proofs.Scale.Snapping

/-!
The ranges of a linear scale whose buckets are at least one unit wide. They lie side by side, and a
whole number moves to the one that contains it, as long as the ends of the scale are small enough for
the doubles around them to be told apart by quarters.
-/

namespace Facets

open Number

/-- Ranges that lie side by side from one whole number to another. -/
inductive WholeRange.Tiles : List WholeRange → ℤ → ℤ → Prop
  | single {range : WholeRange} : range.first ≤ range.last →
      Tiles [range] range.first.toInt range.last.toInt
  | cons {range : WholeRange} {rest : List WholeRange} {high : ℤ} : range.first ≤ range.last →
      Tiles rest (range.last.toInt + 1) high → Tiles (range :: rest) range.first.toInt high

namespace WholeRange

theorem contains_iff {range : WholeRange} {word : Int64} : range.contains word = true ↔
    range.first.toInt ≤ word.toInt ∧ word.toInt ≤ range.last.toInt := by
  rw [contains, Bool.and_eq_true, decide_eq_true_iff, decide_eq_true_iff, Int64.le_iff_toInt_le,
    Int64.le_iff_toInt_le]

theorem Tiles.le {ranges : List WholeRange} {low high : ℤ} (tiles : Tiles ranges low high) :
    low ≤ high := by
  induction tiles with
  | single less => exact Int64.le_iff_toInt_le.mp less
  | cons less _ ih =>
    rw [Int64.le_iff_toInt_le] at less
    omega

/-- Ranges side by side hold the words from the first one of them to the last. -/
theorem Tiles.exists_contains_iff {ranges : List WholeRange} {low high : ℤ}
    (tiles : Tiles ranges low high) (word : Int64) :
    (∃ range ∈ ranges, range.contains word = true) ↔ low ≤ word.toInt ∧ word.toInt ≤ high := by
  induction tiles with
  | single less => simp [contains_iff]
  | cons less rest ih =>
    have later := rest.le
    rw [Int64.le_iff_toInt_le] at less
    rw [List.exists_mem_cons_iff, ih, contains_iff]
    omega

/-- Ranges are side by side if each starts right behind the one before. -/
theorem tiles_of_succ {ranges : ℕ → WholeRange} {n : ℕ} (start : ℕ)
    (filled : ∀ i ≤ start + n, (ranges i).first ≤ (ranges i).last)
    (next : ∀ i < start + n, (ranges (i + 1)).first.toInt = (ranges i).last.toInt + 1) :
    Tiles ((List.range' start (n + 1)).map ranges) (ranges start).first.toInt
      (ranges (start + n)).last.toInt := by
  induction n generalizing start with
  | zero => exact .single (filled start le_rfl)
  | succ n ih =>
    have rest := ih (start + 1) (fun i le => filled i (by omega)) (fun i less => next i (by omega))
    rw [next start (by omega), Nat.add_right_comm] at rest
    exact .cons (filled start (by omega)) rest

end WholeRange

namespace Number

variable {q : ℚ}

/-- The next multiple of an eighth is a grid point where a whole number is small enough. -/
theorem le_of_rounded_le {n : ℤ} (small : (8 * n + 1).natAbs ≤ 2 ^ 53) (le : rounded q ≤ n) :
    q ≤ n + 1 / 16 := by
  have next : OnGrid (n + 1 / 8) := by
    have grid := onGrid_mul_step small (k := -3) (by decide)
    have same : ((8 * n + 1 : ℤ) : ℚ) * 2 ^ (-3 : ℤ) = n + 1 / 8 := by
      push_cast
      norm_num
      ring
    rwa [same] at grid
  by_contra! beyond
  have short : q < n + 1 / 8 := by
    by_contra! reached
    linarith [next.le_rounded reached]
  have near := abs_sub_rounded_le_abs_sub (q := q) next
  rw [abs_of_pos (by linarith), abs_of_neg (by linarith)] at near
  linarith

theorem onGrid_sub_three_quarters {n : ℤ} (small : (4 * n - 3).natAbs ≤ 2 ^ 53) :
    OnGrid (n - 3 / 4) := by
  have grid := onGrid_mul_step small (k := -2) (by decide)
  have same : ((4 * n - 3 : ℤ) : ℚ) * 2 ^ (-2 : ℤ) = n - 3 / 4 := by
    push_cast
    norm_num
    ring
  rwa [same] at grid

section Tenths

variable {n : ℤ} (positive : 0 < n) (small : n ≤ 2 ^ 51)

include positive small

theorem stepExponent_le_of_small : 2 ^ stepExponent (n : ℚ) ≤ (1 / 2 : ℚ) := by
  have one : (1 : ℚ) ≤ n := by exact_mod_cast positive
  have most : (n : ℚ) ≤ 2 ^ 51 := by exact_mod_cast small
  have steps := stepExponent_eq_tenth (by linarith) (lt_stepExponent_tenth one)
  have full := le_abs_of_stepExponent (q := n) (by linarith)
    (by have coarse := lt_stepExponent_tenth one; omega)
  rw [abs_of_pos (by linarith)] at full
  linarith

/-- A whole number of up to fifty-one bits is an even number of steps. -/
theorem rounded_ten_tenths_le_of_small : rounded (10 * rounded ((n : ℚ) / 10)) ≤ n := by
  have one : (1 : ℚ) ≤ n := by exact_mod_cast positive
  have grid : OnGrid n := onGrid_intCast (by omega)
  have half := stepExponent_le_of_small positive small
  obtain ⟨m, value, -⟩ := grid.exists_steps
  refine rounded_ten_tenths_le grid one value ?_
  generalize stepExponent (n : ℚ) = j at half value
  have negative : j ≤ -1 := by
    by_contra! coarse
    have unit : (1 : ℚ) ≤ 2 ^ j := one_le_zpow₀ one_le_two (by omega)
    linarith
  obtain ⟨i, rfl⟩ : ∃ i : ℕ, j = -(i + 1 : ℕ) := ⟨(-j - 1).toNat, by omega⟩
  rw [zpow_neg, zpow_natCast, eq_mul_inv_iff_mul_eq₀ (by positivity)] at value
  have product : n * 2 ^ (i + 1) = m := by exact_mod_cast value
  rw [← product, pow_succ]
  exact ⟨n * 2 ^ i, by ring⟩

theorem le_rounded_ten_tenths_of_small : n - 3 / 4 ≤ rounded (10 * rounded ((n : ℚ) / 10)) := by
  have one : (1 : ℚ) ≤ n := by exact_mod_cast positive
  have near := neg_le_of_abs_le (abs_ten_tenths_sub_le (onGrid_intCast (by omega)) one)
  have half := stepExponent_le_of_small positive small
  exact (onGrid_sub_three_quarters (by omega)).le_rounded (by linarith)

end Tenths

end Number

namespace WholeSpan

/-- Whether the ends of a span are ten or more units apart, but not far from zero. -/
structure Wide (span : WholeSpan) : Prop where
  low : span.low.natAbs ≤ 2 ^ 50
  high : span.high.natAbs ≤ 2 ^ 50
  apart : span.low + 10 ≤ span.high

variable {span : WholeSpan} {n : ℤ} {i : ℕ}

section Wide

variable (wide : span.Wide)

include wide

theorem width_of_wide : span.width = rounded (((span.high - span.low : ℤ) : ℚ) / 10) := by
  have low := wide.low
  have high := wide.high
  have apart := wide.apart
  rw [width, strideOf, ← Int.cast_sub, rounded_eq_self (onGrid_intCast (by omega))]

/-- The last boundary is hardly short of the end of the span, and never beyond it. -/
theorem boundary_nine_bounds : (span.high : ℚ) - 3 / 4 ≤ span.boundary 9 + span.low ∧
    span.boundary 9 + span.low ≤ span.high := by
  have low := wide.low
  have high := wide.high
  have apart := wide.apart
  have least := le_rounded_ten_tenths_of_small (n := span.high - span.low) (by omega) (by omega)
  have most := rounded_ten_tenths_le_of_small (n := span.high - span.low) (by omega) (by omega)
  have ten : ((9 : ℕ) : ℚ) + 1 = 10 := by norm_num
  rw [← width_of_wide wide, Int.cast_sub] at least most
  rw [boundary, ten]
  constructor <;> linarith

/-- The last range ends at the end of the span. -/
theorem ceil_lastOf_nine : (span.lastOf 9).ceil = span.high := by
  have high := wide.high
  obtain ⟨below, above⟩ := boundary_nine_bounds wide
  have least : (span.high : ℚ) - 3 / 4 ≤ span.lastOf 9 :=
    (onGrid_sub_three_quarters (by omega)).le_rounded below
  have most : span.lastOf 9 ≤ span.high := span.gridHigh.rounded_le above
  refine le_antisymm (Rat.ceil_le_iff.mpr most) ?_
  rw [← Int.sub_one_lt_iff, Rat.lt_ceil_iff]
  push_cast
  linarith

theorem ceil_lastOf_le (small : i ≤ 9) : (span.lastOf i).ceil ≤ span.high := by
  rw [← ceil_lastOf_nine wide]
  exact Rat.ceil_le_iff.mpr ((span.lastOf_mono small).trans (Rat.ceil_le_iff.mp le_rfl))

theorem position_le_passed_of_wide (held : span.Holds n) : span.position n ≤ span.passed n + 1 := by
  by_contra! far
  have most := span.position_le n
  have low := wide.low
  have high := wide.high
  have apart := wide.apart
  have least := held.low_le
  have within := held.le_high
  obtain ⟨k, place⟩ : ∃ k, span.position n = k + 2 := ⟨span.position n - 2, by omega⟩
  have reached : ((k + 2 : ℕ) : ℚ) ≤ span.distance n :=
    (lt_position_iff.mp (by omega : k + 1 < span.position n)).2
  have ends : span.lastOf k ≤ (n : ℚ) - 1 := by
    rcases apart.eq_or_lt with ten | eleven
    · exact lastOf_le_of_ten held (by omega) reached (by omega) (by omega)
    · refine lastOf_le_of_wide held (by omega) reached (by omega) ?_
      have bounds := span.width_bounds.1
      have eleven : (span.low : ℚ) + 11 ≤ span.high := by
        exact_mod_cast (by omega : span.low + 11 ≤ span.high)
      linarith
  have ahead := lt_passed_iff.mpr ⟨by omega, ends⟩
  omega

theorem passed_le_nine (held : span.Holds n) : span.passed n ≤ 9 := by
  by_contra! all
  have ends := (lt_passed_iff.mp all).2
  have last := ceil_lastOf_nine wide
  have within := held.le_high
  have before : (span.lastOf 9).ceil ≤ n - 1 := by
    rw [Rat.ceil_le_iff]
    exact_mod_cast ends
  omega

/-- A whole number is in the bucket whose range contains it. -/
theorem bucket_of_wide (held : span.Holds n) : span.bucket n = span.passed n := by
  have high := wide.high
  have within := held.le_high
  have place := position_le_passed_of_wide wide held
  have few := passed_le_nine wide held
  unfold bucket
  rw [if_neg (by omega), if_pos place]
  omega

omit wide in
/-- Where the widths are one, the ranges end a unit apart. -/
theorem ceil_lastOf_of_ten (ten : span.high - span.low = 10) (bounded : span.low.natAbs ≤ 2 ^ 50)
    (small : i ≤ 9) : (span.lastOf i).ceil = span.low + (i + 1) := by
  have ends : (span.high : ℚ) - span.low = 10 * 2 ^ (0 : ℤ) := by
    rw [zpow_zero]
    exact_mod_cast ten
  have whole : (i : ℚ) + 1 + span.low = ((span.low + (i + 1) : ℤ) : ℚ) := by
    push_cast
    ring
  rw [lastOf, boundary_of_unit ends small, whole, rounded_eq_self (onGrid_intCast (by omega)), Rat.ceil_intCast]

omit wide in
/-- Where the widths are longer, so are the distances between the boundaries. -/
theorem boundary_add_le (long : span.low + 11 ≤ span.high) (small : i < 9) :
    span.boundary i + 17 / 16 < span.boundary (i + 1) := by
  obtain ⟨least, -, positive⟩ := span.width_bounds
  have eleven : (span.low : ℚ) + 11 ≤ span.high := by exact_mod_cast long
  have few : ((i : ℚ) + 1) * span.width ≤ 9 * span.width :=
    mul_le_mul_of_nonneg_right (by exact_mod_cast small) positive.le
  have one : span.width ≤ (i + 1) * span.width := by
    have nonneg : 0 ≤ i * span.width := mul_nonneg i.cast_nonneg positive.le
    linarith
  have next : (((i + 1 : ℕ) : ℚ) + 1) * span.width = (i + 1) * span.width + span.width := by
    push_cast
    ring
  have here := (rounded_near (q := (i + 1) * span.width) (by linarith)).2
  have there := (rounded_near (q := (i + 1) * span.width + span.width) (by linarith)).1
  rw [boundary, boundary, next]
  linarith

/-- Every range ends behind the one before. -/
theorem ceil_lastOf_lt (small : i < 9) : (span.lastOf i).ceil < (span.lastOf (i + 1)).ceil := by
  have low := wide.low
  have high := wide.high
  rcases wide.apart.eq_or_lt with ten | long
  · rw [ceil_lastOf_of_ten (by omega) low (by omega), ceil_lastOf_of_ten (by omega) low (by omega)]
    push_cast
    omega
  have apart : span.boundary i + 17 / 16 < span.boundary (i + 1) := boundary_add_le (by omega) small
  have least := span.low_le_ceil_lastOf i
  have most := ceil_lastOf_le wide small.le
  by_contra! same
  -- the boundary before is beyond the unit at which both ranges end, and the one after hardly behind it
  have before : (((span.lastOf i).ceil - 1 : ℤ) : ℚ) < span.boundary i + span.low := by
    by_contra! short
    have ends := (onGrid_intCast (n := (span.lastOf i).ceil - 1) (by omega)).rounded_le short
    have ceiled : (span.lastOf i).ceil ≤ (span.lastOf i).ceil - 1 := Rat.ceil_le_iff.mpr ends
    omega
  have after : span.boundary (i + 1) + span.low ≤ (span.lastOf i).ceil + 1 / 16 := by
    rcases most.eq_or_lt with last | inside
    · have most := (boundary_nine_bounds wide).2
      have within := span.boundary_mono (Nat.succ_le_of_lt small)
      rw [last]
      linarith
    · exact le_of_rounded_le (by omega) (Rat.ceil_le_iff.mp same)
  push_cast at before
  linarith

end Wide

end WholeSpan

namespace LinearScale

variable {scale : LinearScale} {span : WholeSpan}

section Wide

variable (spans : scale.Spans span) (wide : span.Wide)

include spans wide

theorem toInt_lastOf_of_wide {i : ℕ} (small : i ≤ 9) :
    (scale.lastOf i).toInt = (span.lastOf i).ceil := by
  have high := wide.high
  have most := WholeSpan.ceil_lastOf_le wide small
  rw [toInt_lastOf spans (by omega)]
  omega

/-- Every range starts right behind the one before. -/
theorem toInt_firstOf_succ {i : ℕ} (small : i < 9) :
    (scale.firstOf (i + 1)).toInt = (scale.lastOf i).toInt + 1 := by
  have high := wide.high
  have most := WholeSpan.ceil_lastOf_le wide small.le
  have least := span.low_le_ceil_lastOf i
  have low := wide.low
  rw [firstOf, toInt_ofIntClamp, toInt_lastOf_of_wide spans wide small.le]
  omega

theorem tiles_of_wide :
    WholeRange.Tiles ((List.range size).map scale.rangeOf) span.low span.high := by
  have filled : ∀ i : ℕ, i ≤ 9 → (scale.rangeOf i).first ≤ (scale.rangeOf i).last := by
    rintro (_ | i) small <;> rw [Int64.le_iff_toInt_le, rangeOf, toInt_lastOf_of_wide spans wide small]
    · rw [toInt_firstOf_zero spans]
      exact span.low_le_ceil_lastOf 0
    · rw [toInt_firstOf_succ spans wide (by omega), toInt_lastOf_of_wide spans wide (by omega)]
      exact WholeSpan.ceil_lastOf_lt wide (by omega)
  have tiles := WholeRange.tiles_of_succ (n := 9) 0 (fun i small => filled i (by omega))
    fun i small => toInt_firstOf_succ spans wide (by omega)
  rwa [← List.range_eq_range', rangeOf, rangeOf, toInt_firstOf_zero spans,
    toInt_lastOf_of_wide spans wide (by omega), Nat.zero_add, WholeSpan.ceil_lastOf_nine wide] at tiles

end Wide

/-- Between whole numbers ten or more units apart, and not too far from zero, the ranges of a linear
scale lie side by side, and the bucket of a whole number is that of the one range that contains it. -/
theorem ranges_tile {low high : ℤ} (least : low.natAbs ≤ 2 ^ 50) (most : high.natAbs ≤ 2 ^ 50)
    (apart : low + 10 ≤ high) :
    let scale : LinearScale := ⟨ofInt low, ofInt high, .integer⟩
    ∃ ranges, scale.ranges? = some ranges ∧ ranges.length = 10 ∧ WholeRange.Tiles ranges low high ∧
      (∀ word : Int64, (∃ range ∈ ranges, range.contains word = true) ↔
        low ≤ word.toInt ∧ word.toInt ≤ high) ∧
      ∀ word : Int64, low ≤ word.toInt → word.toInt ≤ high →
        scale.bucketOf (ofInt word.toInt) < 10 ∧ ∀ i, (bound : i < ranges.length) →
          (ranges[i].contains word = true ↔ i = scale.bucketOf (ofInt word.toInt)) := by
  intro scale
  let span : WholeSpan := ⟨low, high, by omega, onGrid_intCast (by omega), onGrid_intCast (by omega)⟩
  have wide : span.Wide := ⟨least, most, apart⟩
  have whole {n : ℤ} (small : n.natAbs ≤ 2 ^ 50) := toRat_ofInt (isDouble_of_le (n := n) (by omega))
    (by omega)
  have spans : scale.Spans span := ⟨(whole least).2, (whole most).2, (whole least).1, (whole most).1,
    by simp only [span]; omega, by simp only [span]; omega⟩
  have tiles := tiles_of_wide spans wide
  refine ⟨_, if_pos rfl, by simp [size], tiles, tiles.exists_contains_iff, fun word above below => ?_⟩
  have small : word.toInt.natAbs ≤ 2 ^ 50 := by omega
  have held : span.Holds word.toInt := ⟨above, below, onGrid_intCast (by omega)⟩
  have few := WholeSpan.passed_le_nine wide held
  have clamped : Int64.ofIntClamp word.toInt = word := Int64.ofIntClamp_toInt word
  rw [bucketOf_eq spans rfl (whole small).2 (whole small).1 held, WholeSpan.bucket_of_wide wide held]
  refine ⟨Nat.lt_succ_of_le few, fun i bound => ?_⟩
  rw [List.length_map, List.length_range] at bound
  rw [List.getElem_map, List.getElem_range, ← clamped, contains_iff spans held bound, clamped]
  exact ⟨fun both => le_antisymm (both.1.resolve_right (by omega)) both.2,
    fun same => ⟨Or.inl same.le, same.ge⟩⟩

/-- The high end may be as large as the bound on the ends. -/
theorem ranges_tile_limit :
    ((-3 : ℤ).natAbs ≤ 2 ^ 50 ∧ (2 ^ 50 : ℤ).natAbs ≤ 2 ^ 50 ∧ (-3 : ℤ) + 10 ≤ 2 ^ 50) ∧
      let scale : LinearScale := ⟨ofInt (-3), ofInt (2 ^ 50), .integer⟩
      ∃ ranges, scale.ranges? = some ranges ∧ ranges.length = 10 ∧
        WholeRange.Tiles ranges (-3) (2 ^ 50) ∧ ∀ i, (bound : i < ranges.length) →
          (ranges[i].contains 112589990684260 = true ↔ i = scale.bucketOf (ofInt 112589990684260)) := by
  refine ⟨by decide, ?_⟩
  obtain ⟨ranges, listed, ten, tiles, -, moved⟩ :=
    @ranges_tile (-3) (2 ^ 50) (by decide) (by decide) (by decide)
  exact ⟨ranges, listed, ten, tiles, (moved 112589990684260 (by decide) (by decide)).2⟩

end LinearScale

end Facets
