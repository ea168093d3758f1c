import Facets.Proofs.Number.Grid

/-!
Rounded positions between two whole numbers. Everything a linear scale computes for whole numbers
lies within a millionth of the exact value, which settles all but the cases where the boundaries of
the buckets are about as far apart as the grid points are.
-/

namespace Facets

open Number

/-- The width of the ten buckets between two ends, rounded twice. -/
def strideOf (low high : ℚ) : ℚ := rounded (rounded (high - low) / 10)

theorem rounded_near {q : ℚ} (large : 1 / 32 ≤ q) :
    999999 / 1000000 * q ≤ rounded q ∧ rounded q ≤ 1000001 / 1000000 * q := by
  have tiny : (2 : ℚ) ^ (-1022 : ℤ) ≤ 1 / 32 := by
    have power : (2 : ℚ) ^ (-5 : ℤ) = 1 / 32 := by norm_num
    rw [← power]
    exact zpow_le_zpow_right₀ one_le_two (by decide)
  have positive : 0 < q := by linarith
  have near := abs_sub_rounded_le (q := q) (by rw [abs_of_pos positive]; linarith)
  rw [abs_of_pos positive] at near
  have bounds := abs_le.mp near
  constructor <;> linarith

theorem strideOf_bounds {low high : ℚ} (apart : 1 ≤ high - low) :
    99999 / 1000000 * (high - low) ≤ strideOf low high ∧
      strideOf low high ≤ 100001 / 1000000 * (high - low) ∧ 0 < strideOf low high := by
  have difference := rounded_near (q := high - low) (by linarith)
  have tenth := rounded_near (q := rounded (high - low) / 10) (by linarith)
  unfold strideOf
  refine ⟨?_, ?_, ?_⟩ <;> linarith

/-- Of a property that is passed down, those who have it make an initial segment. -/
theorem lt_countP_range {p : ℕ → Bool} (closed : ∀ i, p (i + 1) = true → p i = true) (n : ℕ) {i : ℕ} :
    i < (List.range n).countP p ↔ i < n ∧ p i = true := by
  have below : ∀ j i, i ≤ j → p j = true → p i = true := fun j i le held =>
    Nat.decreasingInduction (fun k _ => closed k) held le
  induction n generalizing i with
  | zero => simp
  | succ n ih =>
    rw [List.range_succ, List.countP_append, List.countP_singleton]
    by_cases held : p n = true
    · have full : (List.range n).countP p = n := by
        refine le_antisymm (by simpa using List.countP_le_length (l := List.range n)) ?_
        by_contra! short
        exact (ih.mpr ⟨short, below n _ short.le held⟩).false
      rw [full, if_pos held]
      exact ⟨fun less => ⟨less, below n i (Nat.le_of_lt_succ less) held⟩, fun both => both.1⟩
    · rw [if_neg held, Nat.add_zero]
      refine ih.trans ⟨fun both => ⟨both.1.trans n.lt_succ_self, both.2⟩, fun both => ⟨?_, both.2⟩⟩
      refine lt_of_le_of_ne (Nat.le_of_lt_succ both.1) ?_
      rintro rfl
      exact held both.2

/-- How many of the boundaries 1 to 9 a distance has reached. -/
def boundariesAt (q : ℚ) : ℕ := (List.range 9).countP fun i : ℕ => ((i + 1 : ℕ) : ℚ) ≤ q

theorem lt_boundariesAt_iff {q : ℚ} {i : ℕ} :
    i < boundariesAt q ↔ i < 9 ∧ ((i + 1 : ℕ) : ℚ) ≤ q := by
  rw [boundariesAt, lt_countP_range, decide_eq_true_iff]
  intro i reached
  rw [decide_eq_true_iff] at reached ⊢
  exact le_trans (by exact_mod_cast Nat.le_succ _) reached

theorem boundariesAt_le (q : ℚ) : boundariesAt q ≤ 9 := by
  simpa [boundariesAt] using List.countP_le_length (l := List.range 9)

theorem boundariesAt_mono : Monotone boundariesAt := by
  intro q r le
  refine List.countP_mono_left fun i _ reached => ?_
  rw [decide_eq_true_iff] at reached ⊢
  exact reached.trans le

/-- A span between two whole numbers of the grid. -/
structure WholeSpan where
  low : ℤ
  high : ℤ
  less : low < high
  gridLow : OnGrid low
  gridHigh : OnGrid high

namespace WholeSpan

/-- Whether a whole number of the grid lies in a span. -/
structure Holds (span : WholeSpan) (n : ℤ) : Prop where
  low_le : span.low ≤ n
  le_high : n ≤ span.high
  grid : OnGrid n

variable (span : WholeSpan)

def width : ℚ := strideOf span.low span.high

/-- How far a number is from the low end. -/
def offset (n : ℤ) : ℚ := rounded (n - span.low)

/-- How far it is in widths. -/
def distance (n : ℤ) : ℚ := rounded (span.offset n / span.width)

/-- How far from the low end the range of a bucket ends. -/
def boundary (i : ℕ) : ℚ := rounded ((i + 1) * span.width)

/-- Where the range of a bucket ends before it is made whole. -/
def lastOf (i : ℕ) : ℚ := rounded (span.boundary i + span.low)

variable {span : WholeSpan} {u v : ℤ} {n : ℕ}

theorem width_bounds (span : WholeSpan) : 99999 / 1000000 * ((span.high : ℚ) - span.low) ≤ span.width ∧
    span.width ≤ 100001 / 1000000 * ((span.high : ℚ) - span.low) ∧ 0 < span.width := by
  have apart : (span.low : ℚ) + 1 ≤ span.high := by exact_mod_cast span.less
  exact strideOf_bounds (by linarith)

theorem offset_bounds (above : span.low ≤ v) :
    999999 / 1000000 * ((v : ℚ) - span.low) ≤ span.offset v ∧
      span.offset v ≤ 1000001 / 1000000 * ((v : ℚ) - span.low) := by
  rcases above.eq_or_lt with rfl | less
  · simp [offset]
  · have apart : (span.low : ℚ) + 1 ≤ v := by exact_mod_cast less
    exact rounded_near (by linarith)

/-- A number that has reached a boundary is hardly short of it. -/
theorem le_of_le_distance (positive : 0 < n) (reached : n ≤ span.distance v) :
    n * span.width ≤ 1000001 / 1000000 * span.offset v := by
  obtain ⟨-, -, wide⟩ := span.width_bounds
  have one : (1 : ℚ) ≤ n := by exact_mod_cast positive
  have large : 1 / 32 ≤ span.offset v / span.width := by
    by_contra! small
    have grid : OnGrid (1 / 32) := ⟨1, -5, by norm_num, by norm_num, by norm_num⟩
    have below : span.distance v ≤ 1 / 32 := grid.rounded_le small.le
    linarith
  have near := reached.trans (rounded_near large).2
  calc n * span.width ≤ 1000001 / 1000000 * (span.offset v / span.width) * span.width :=
        mul_le_mul_of_nonneg_right near wide.le
    _ = 1000001 / 1000000 * span.offset v := by field_simp

/-- A number that has not reached a boundary is short of it. -/
theorem lt_of_distance_lt (small : n ≤ 2 ^ 53) (short : span.distance v < n) :
    span.offset v < n * span.width := by
  obtain ⟨-, -, wide⟩ := span.width_bounds
  by_contra! reached
  have far : (n : ℚ) ≤ span.offset v / span.width := (le_div_iff₀ wide).mpr reached
  exact short.not_ge ((onGrid_natCast small).le_rounded far)

/-- The range two buckets behind a number that has not reached a boundary ends behind the number. -/
theorem le_lastOf (held : span.Holds v) (small : n < 9) (short : span.distance v < (n + 1 : ℕ)) :
    v ≤ span.lastOf (n + 1) := by
  obtain ⟨wide, -, -⟩ := span.width_bounds
  have apart : (span.low : ℚ) + 1 ≤ span.high := by exact_mod_cast span.less
  have off := lt_of_distance_lt (by omega) short
  have near := (offset_bounds held.low_le).1
  have most : (n : ℚ) * span.width ≤ 8 * span.width :=
    mul_le_mul_of_nonneg_right (by exact_mod_cast Nat.le_of_lt_succ small) (by linarith)
  have least : 0 ≤ (n : ℚ) * span.width := mul_nonneg n.cast_nonneg (by linarith)
  push_cast at off
  have next : (((n + 1 : ℕ) : ℚ) + 1) * span.width = n * span.width + 2 * span.width := by
    push_cast
    ring
  have product := (rounded_near (q := n * span.width + 2 * span.width) (by linarith)).1
  refine held.grid.le_rounded ?_
  rw [boundary, next]
  linarith

section Reached

variable (heldU : span.Holds u) (heldV : span.Holds v) (few : n ≤ 7)
  (reached : (n + 2 : ℕ) ≤ span.distance u) (short : n = 7 ∨ span.distance v < (n + 3 : ℕ))

include heldU heldV few reached short in
/-- Two numbers between the same boundaries are hardly further apart than the boundaries are. -/
theorem sub_le_width : (v : ℚ) - u ≤ 101 / 100 * span.width := by
  obtain ⟨wide, -, positive⟩ := span.width_bounds
  have from_u := le_of_le_distance (by omega) reached
  have near := (offset_bounds heldU.low_le).2
  have most : (n : ℚ) * span.width ≤ 7 * span.width :=
    mul_le_mul_of_nonneg_right (by exact_mod_cast few) positive.le
  push_cast at from_u
  rcases short with rfl | short
  · have high : (v : ℚ) ≤ span.high := by exact_mod_cast heldV.le_high
    push_cast at from_u
    linarith
  · have to_v := lt_of_distance_lt (by omega) short
    have far := (offset_bounds heldV.low_le).1
    push_cast at to_v
    linarith

include heldU few reached in
/-- A number that has reached a boundary lies behind the one before by about a width. -/
theorem boundary_le : span.boundary n + span.low + 99 / 100 * span.width ≤ u := by
  obtain ⟨wide, -, positive⟩ := span.width_bounds
  have apart : (span.low : ℚ) + 1 ≤ span.high := by exact_mod_cast span.less
  have from_u := le_of_le_distance (by omega) reached
  have near := (offset_bounds heldU.low_le).2
  have most : (n : ℚ) * span.width ≤ 7 * span.width :=
    mul_le_mul_of_nonneg_right (by exact_mod_cast few) positive.le
  have least : 0 ≤ (n : ℚ) * span.width := mul_nonneg n.cast_nonneg positive.le
  push_cast at from_u
  have product := (rounded_near (q := (n + 1) * span.width) (by linarith)).2
  unfold boundary
  linarith

end Reached

section Unit

variable {j : ℤ} (least : -1074 ≤ j) (ten : (span.high : ℚ) - span.low = 10 * 2 ^ j)

include least ten

/-- Where the ends are ten grid steps apart nothing is rounded. -/
theorem width_of_unit : span.width = 2 ^ j := by
  have wide : OnGrid (10 * 2 ^ j) := by
    exact_mod_cast onGrid_mul_step (n := 10) (by decide) least
  have step : OnGrid (2 ^ j) := by
    have one := onGrid_mul_step (n := 1) (by decide) least
    rwa [Int.cast_one, one_mul] at one
  rw [width, strideOf, ten, rounded_eq_self wide, mul_div_cancel_left₀ _ (by norm_num),
    rounded_eq_self step]

theorem distance_of_unit {m : ℤ} (off : (v : ℚ) - span.low = m * 2 ^ j) (small : m.natAbs ≤ 2 ^ 53) :
    span.distance v = m := by
  have step : (2 : ℚ) ^ j ≠ 0 := by positivity
  rw [distance, offset, off, width_of_unit least ten, rounded_eq_self (onGrid_mul_step small least),
    mul_div_cancel_right₀ _ step, rounded_eq_self (onGrid_intCast small)]

omit least ten in
/-- Widths of one are not rounded either when they are added up. -/
theorem boundary_of_unit (ten : (span.high : ℚ) - span.low = 10 * 2 ^ (0 : ℤ)) (small : n ≤ 9) :
    span.boundary n = n + 1 := by
  rw [boundary, width_of_unit (by decide) ten, zpow_zero, mul_one]
  exact_mod_cast rounded_eq_self (onGrid_natCast (n := n + 1) (by omega))

end Unit

section Short

variable (heldU : span.Holds u) (few : n ≤ 7) (reached : (n + 2 : ℕ) ≤ span.distance u)
  (small : u.natAbs < 2 ^ 53)

include heldU few reached small

theorem lastOf_le_of_wide (long : 1 ≤ 99 / 100 * span.width) : span.lastOf n ≤ (u : ℚ) - 1 := by
  have before := boundary_le heldU few reached
  have grid : OnGrid ((u : ℚ) - 1) := by exact_mod_cast onGrid_intCast (n := u - 1) (by omega)
  exact grid.rounded_le (by linarith)

/-- A width of one is not rounded, nor is a distance in such widths. -/
theorem lastOf_le_of_ten (ten : span.high - span.low = 10) : span.lastOf n ≤ (u : ℚ) - 1 := by
  have grid : OnGrid ((u : ℚ) - 1) := by exact_mod_cast onGrid_intCast (n := u - 1) (by omega)
  have ends : (span.high : ℚ) - span.low = 10 * 2 ^ (0 : ℤ) := by
    rw [zpow_zero]
    exact_mod_cast ten
  have high := heldU.le_high
  have low := heldU.low_le
  have exact : span.distance u = (u - span.low : ℤ) :=
    distance_of_unit (by decide) ends (by simp) (by omega)
  rw [exact] at reached
  have inside : (n : ℤ) + 2 ≤ u - span.low := by exact_mod_cast reached
  have whole : (n : ℚ) + 2 ≤ u - span.low := by exact_mod_cast inside
  refine grid.rounded_le ?_
  rw [boundary_of_unit ends (by omega)]
  linarith

end Short

section Between

variable (heldU : span.Holds u) (heldV : span.Holds v) (less : u < v) (few : n ≤ 7)
  (reached : (n + 2 : ℕ) ≤ span.distance u) (short : n = 7 ∨ span.distance v < (n + 3 : ℕ))

include heldU heldV less few reached short

theorem lastOf_le_of_small (small : u.natAbs < 2 ^ 53) : span.lastOf n ≤ (u : ℚ) - 1 := by
  have apart := sub_le_width heldU heldV few reached short
  obtain ⟨wide, narrow, -⟩ := span.width_bounds
  have next : (u : ℚ) + 1 ≤ v := by exact_mod_cast less
  rcases le_or_gt 1 (99 / 100 * span.width) with long | close
  · exact lastOf_le_of_wide heldU few reached small long
  -- a width of about one is one, since the ends are whole numbers
  · refine lastOf_le_of_ten heldU few reached small ?_
    have least : (9 : ℚ) < span.high - span.low := by linarith
    have most : (span.high : ℚ) - span.low < 11 := by linarith
    norm_cast at least most
    omega

theorem lastOf_le_of_step {m k : ℤ} (coarse : 1 ≤ k) (value : (u : ℚ) = m * 2 ^ k)
    (full : 2 ^ 52 * 2 ^ k ≤ |(u : ℚ)|) (bounded : m.natAbs < 2 ^ 53) (edge : m ≠ -2 ^ 52) :
    span.lastOf n ≤ (u : ℚ) - 1 := by
  have apart := sub_le_width heldU heldV few reached short
  have before := boundary_le heldU few reached
  have step : (2 : ℚ) ≤ 2 ^ k := by
    simpa using zpow_le_zpow_right₀ (one_le_two (α := ℚ)) coarse
  have next : (u : ℚ) + 2 ^ k ≤ v := by
    have above : (u : ℚ) < v := by exact_mod_cast less
    rw [value] at full above
    have gap := OnGrid.add_step_le full edge heldV.grid above
    rwa [add_one_mul, ← value] at gap
  have grid : OnGrid ((u : ℚ) - 2 ^ k) := by
    have previous := onGrid_mul_step (n := m - 1) (k := k) (by omega) (by omega)
    rwa [Int.cast_sub, sub_mul, Int.cast_one, one_mul, ← value] at previous
  rcases le_or_gt ((u : ℚ) - 2 ^ k) (span.boundary n + span.low) with le | gt
  · have mirrored := grid.rounded_le_reflected le
    unfold lastOf
    linarith
  · have under : span.lastOf n ≤ (u : ℚ) - 2 ^ k := grid.rounded_le gt.le
    linarith

omit heldV less short in
/-- Below a power of two under zero the steps are twice as long as above it. Where the widths are longer
than the steps above, the boundary before is still beyond the middle of the step below. -/
theorem lastOf_le_of_long {k : ℤ} (coarse : 1 ≤ k) (value : (u : ℚ) = -2 ^ 52 * 2 ^ k)
    (long : 2 ^ (k - 1) < 99 / 100 * span.width) : span.lastOf n ≤ (u : ℚ) - 1 := by
  have before := boundary_le heldU few reached
  have step : (2 : ℚ) ≤ 2 ^ k := by
    simpa using zpow_le_zpow_right₀ (one_le_two (α := ℚ)) coarse
  have half : (2 : ℚ) ^ (k - 1) = 2 ^ k / 2 := by rw [zpow_sub_one₀ two_ne_zero, div_eq_mul_inv]
  have grid : OnGrid ((u : ℚ) - 2 ^ k) := by
    have previous := onGrid_mul_step (n := -2 ^ 52 - 1) (k := k) (by decide) (by omega)
    have same : ((-2 ^ 52 - 1 : ℤ) : ℚ) * 2 ^ k = u - 2 ^ k := by
      rw [value]
      push_cast
      ring
    rwa [same] at previous
  have under : span.lastOf n < u := by
    rcases le_or_gt ((u : ℚ) - 2 ^ k) (span.boundary n + span.low) with le | gt
    · have mirrored := grid.rounded_le_reflected le
      unfold lastOf
      linarith
    · have below : span.lastOf n ≤ (u : ℚ) - 2 ^ k := grid.rounded_le gt.le
      linarith
  -- no grid point lies within the step below
  obtain ⟨m, multiple⟩ := (onGrid_rounded _).exists_multiple (z := span.lastOf n) (k := k) (by
    rw [abs_of_neg (by linarith)]
    linarith)
  have less : m < -2 ^ 52 := by
    rw [multiple, value, mul_lt_mul_iff_left₀ (by positivity)] at under
    exact_mod_cast under
  have most : (m : ℚ) ≤ -2 ^ 52 - 1 := by exact_mod_cast Int.le_sub_one_of_lt less
  calc span.lastOf n = m * 2 ^ k := multiple
    _ ≤ (-2 ^ 52 - 1) * 2 ^ k := mul_le_mul_of_nonneg_right most (by positivity)
    _ ≤ (u : ℚ) - 1 := by
      rw [value, sub_mul]
      linarith

/-- Of a number at an even distance, in widths that are steps, the next one has reached the boundary
right behind it. -/
theorem not_short_of_unit {i j m : ℤ} (least : -1074 ≤ j)
    (ten : (span.high : ℚ) - span.low = 10 * 2 ^ j)
    (even : (u : ℚ) - span.low = (2 * i : ℤ) * 2 ^ j) (other : (v : ℚ) - span.low = m * 2 ^ j) :
    False := by
  have step : (0 : ℚ) < 2 ^ j := by positivity
  have low : (span.low : ℚ) ≤ u := by exact_mod_cast heldU.low_le
  have above : (u : ℚ) < v := by exact_mod_cast less
  have high : (v : ℚ) ≤ span.high := by exact_mod_cast heldV.le_high
  have nonneg : 0 ≤ 2 * i := by
    have off : 0 ≤ ((2 * i : ℤ) : ℚ) * 2 ^ j := by linarith
    exact_mod_cast nonneg_of_mul_nonneg_left off step
  have later : 2 * i < m := by
    have off : ((2 * i : ℤ) : ℚ) * 2 ^ j < m * 2 ^ j := by linarith
    rw [mul_lt_mul_iff_left₀ step] at off
    exact_mod_cast off
  have most : m ≤ 10 := by
    have off : (m : ℚ) * 2 ^ j ≤ 10 * 2 ^ j := by linarith
    rw [mul_le_mul_iff_left₀ step] at off
    exact_mod_cast off
  rw [distance_of_unit least ten even (by omega)] at reached
  have beyond : ((n + 2 : ℕ) : ℤ) ≤ 2 * i := by exact_mod_cast reached
  rcases short with rfl | short
  · omega
  · rw [distance_of_unit least ten other (by omega)] at short
    have behind : m < (n + 3 : ℕ) := by exact_mod_cast short
    omega

/-- Where the widths are as long as the steps above, the ends are ten such steps apart. -/
theorem not_short_of_edge {k : ℤ} (coarse : 1 ≤ k) (value : (u : ℚ) = -2 ^ 52 * 2 ^ k)
    (close : 99 / 100 * span.width ≤ 2 ^ (k - 1)) : False := by
  have apart := sub_le_width heldU heldV few reached short
  obtain ⟨wide, narrow, positive⟩ := span.width_bounds
  have half : (2 : ℚ) ^ k = 2 * 2 ^ (k - 1) := by
    rw [zpow_sub_one₀ two_ne_zero]
    ring
  have step : (0 : ℚ) < 2 ^ (k - 1) := by positivity
  have low : (span.low : ℚ) ≤ u := by exact_mod_cast heldU.low_le
  have above : (u : ℚ) < v := by exact_mod_cast less
  have high : (v : ℚ) ≤ span.high := by exact_mod_cast heldV.le_high
  have next : (u : ℚ) + 2 ^ (k - 1) ≤ v := by
    rw [value] at above ⊢
    exact heldV.grid.add_half_step_le above
  obtain ⟨first, lowest⟩ := span.gridLow.exists_multiple (k := k) (by
    rw [abs_of_neg (by linarith)]
    linarith)
  obtain ⟨last, highest⟩ := span.gridHigh.exists_multiple (k := k - 1) (by
    rw [abs_of_neg (by linarith)]
    linarith)
  obtain ⟨other, multiple⟩ := heldV.grid.exists_multiple (k := k - 1) (by
    rw [abs_of_neg (by linarith)]
    linarith)
  rw [half] at lowest value
  have count : last - 2 * first = 10 := by
    have least : 9 * (2 : ℚ) ^ (k - 1) < (last - 2 * first : ℤ) * 2 ^ (k - 1) := by
      push_cast
      linarith
    have most : ((last - 2 * first : ℤ) : ℚ) * 2 ^ (k - 1) < 11 * 2 ^ (k - 1) := by
      push_cast
      linarith
    rw [mul_lt_mul_iff_left₀ step] at least most
    norm_cast at least most
    omega
  have counted : (last : ℚ) - 2 * first = 10 := by exact_mod_cast count
  refine not_short_of_unit heldU heldV less few reached short (j := k - 1) (i := -2 ^ 52 - first)
    (m := other - 2 * first) (by omega) ?_ ?_ ?_
  · rw [highest, lowest]
    linear_combination counted * (2 : ℚ) ^ (k - 1)
  · rw [value, lowest]
    push_cast
    ring
  · rw [multiple, lowest]
    push_cast
    ring

/-- The range two buckets before a number that has reached a boundary ends before the number, if there
is another number before the next boundary. -/
theorem lastOf_le : span.lastOf n ≤ (u : ℚ) - 1 := by
  by_cases small : u.natAbs < 2 ^ 53
  · exact lastOf_le_of_small heldU heldV less few reached short small
  have nonzero : (u : ℚ) ≠ 0 := by
    have whole : u ≠ 0 := by omega
    exact_mod_cast whole
  have size : (2 : ℚ) ^ 53 ≤ |(u : ℚ)| := by
    rw [← Int.cast_abs, Int.abs_eq_natAbs]
    exact_mod_cast not_lt.mp small
  -- the step of the number is two or more
  have coarse : 1 ≤ stepExponent u := by
    have bits := abs_lt_of_stepExponent (u : ℚ)
    by_contra! fine
    have unit : (2 : ℚ) ^ stepExponent u ≤ 1 := zpow_le_one_of_nonpos₀ one_le_two (by omega)
    linarith
  have full := le_abs_of_stepExponent nonzero (by omega)
  obtain ⟨m, value, bounded⟩ := heldU.grid.exists_steps
  by_cases edge : m = -2 ^ 52
  · rw [edge] at value
    push_cast at value
    rcases lt_or_ge (2 ^ (stepExponent u - 1)) (99 / 100 * span.width) with long | close
    · exact lastOf_le_of_long heldU few reached coarse value long
    · exact (not_short_of_edge heldU heldV less few reached short coarse value close).elim
  · exact lastOf_le_of_step heldU heldV less few reached short coarse value full bounded edge

end Between

end WholeSpan

end Facets
