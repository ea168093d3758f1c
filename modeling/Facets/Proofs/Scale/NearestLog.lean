import Facets.Proofs.Scale.Logarithm

/-!
Correctly rounded logarithms. The common logarithm of a number from one on is a real number, and one
that is correctly rounded is a float nearest to it. Whole numbers stay in the decade of their digits
under it, but for the last few below some powers of ten: the logarithms of these are nearer to the
power's than to any float before it.
-/

namespace Facets

open Number

namespace Number

section Nearest

/-- A grid point before the end of the line is a double. -/
theorem OnGrid.exists_double {z : ℚ} (grid : OnGrid z) (within : |z| < lineEnd) :
    ∃ x : Float, x.isFinite = true ∧ toRat x = z := by
  obtain ⟨m, value, -⟩ := grid.exists_steps
  have rounds := roundsTo_normalize m (stepExponent z) .positive
  have held := rounds.finite
  rw [← value, rounded_eq_self grid] at held
  exact ⟨_, held within⟩

/-- A finite double with none nearer to a real number. -/
structure Nearest (r : ℝ) (x : Float) : Prop where
  isFinite : x.isFinite = true
  least : ∀ y : Float, y.isFinite = true → |r - toRat x| ≤ |r - toRat y|

instance finite_double : Finite Float :=
  have : Finite UInt64 := .of_injective UInt64.toBitVec fun _ _ => UInt64.toBitVec_inj.mp
  .of_injective Float.toBits (Function.LeftInverse.injective ofBits_toBits)

theorem exists_nearest (r : ℝ) : ∃ x, Nearest r x := by
  obtain ⟨x, finite, least⟩ := Set.exists_min_image {x : Float | x.isFinite = true}
    (fun x => |r - toRat x|) (Set.toFinite _) ⟨0.0, LogScale.ends_eq.2.1.1⟩
  exact ⟨x, finite, least⟩

variable {r : ℝ} {z w : ℚ} {x : Float} (nearest : Nearest r x) (grid : OnGrid z)
  (within : |z| < lineEnd)

include nearest grid within

theorem Nearest.abs_sub_le : |r - toRat x| ≤ |r - z| := by
  obtain ⟨y, finite, rfl⟩ := grid.exists_double within
  exact nearest.least y finite

theorem Nearest.le_of_le (le : z ≤ r) : z ≤ toRat x := by
  have near := nearest.abs_sub_le grid within
  rw [abs_of_nonneg (sub_nonneg.mpr le)] at near
  have apart := (le_abs_self _).trans near
  exact_mod_cast (by linarith : (z : ℝ) ≤ toRat x)

theorem Nearest.le_of_ge (le : r ≤ z) : toRat x ≤ z := by
  have near := nearest.abs_sub_le grid within
  rw [abs_of_nonpos (sub_nonpos.mpr le)] at near
  have apart := (neg_le_abs _).trans near
  exact_mod_cast (by linarith : (toRat x : ℝ) ≤ z)

/-- What lies before the middle of two grid points has its nearest double before the second. -/
theorem Nearest.lt_of_lt_middle (less : z < w) (before : 2 * r < z + w) : toRat x < w := by
  have near := nearest.abs_sub_le grid within
  have order : (z : ℝ) < w := by exact_mod_cast less
  have short : |r - z| < w - r := abs_lt.mpr ⟨by linarith, by linarith⟩
  have apart := (neg_le_abs _).trans_lt (near.trans_lt short)
  exact_mod_cast (by linarith : (toRat x : ℝ) < w)

/-- What lies behind the middle of two neighbours has its nearest double no earlier than the second. -/
theorem Nearest.le_of_middle_lt (less : w < z) (neighbours : ∀ q, OnGrid q → w < q → z ≤ q)
    (behind : w + z < 2 * r) : z ≤ toRat x := by
  have near := nearest.abs_sub_le grid within
  have order : (w : ℝ) < z := by exact_mod_cast less
  have short : |r - z| < r - w := abs_lt.mpr ⟨by linarith, by linarith⟩
  have apart := (le_abs_self _).trans_lt (near.trans_lt short)
  refine neighbours _ (onGrid_toRat nearest.isFinite) ?_
  exact_mod_cast (by linarith : (w : ℝ) < toRat x)

end Nearest

end Number

namespace LogScale

section Reals

theorem log_ten_bounds : 2.3025 < Real.log 10 ∧ Real.log 10 < 2.3027 := by
  have low : (17 : ℕ) * ((17 : ℕ) * Real.log 2) < (87 : ℕ) * Real.log 10 := by
    rw [← Real.log_pow, ← Real.log_pow, ← Real.log_pow]
    exact Real.log_lt_log (by positivity) (by norm_num)
  have high : (59 : ℕ) * Real.log 10 < (196 : ℕ) * Real.log 2 := by
    rw [← Real.log_pow, ← Real.log_pow]
    exact Real.log_lt_log (by positivity) (by norm_num)
  push_cast at low high
  exact ⟨by linarith [Real.log_two_gt_d9], by linarith [Real.log_two_lt_d9]⟩

theorem logb_pow_self (k : ℕ) : Real.logb 10 (10 ^ k) = k := by
  rw [Real.logb_pow, Real.logb_self_eq_one (by norm_num), mul_one]

/-- The logarithm of a whole number lies between those of the powers of ten around it. -/
theorem le_logb {d n : ℕ} (low : 10 ^ d ≤ n) : d ≤ Real.logb 10 n := by
  have passed : (10 : ℝ) ^ d ≤ n := by exact_mod_cast low
  have logs := Real.logb_le_logb_of_le (by norm_num : (1 : ℝ) < 10) (by positivity) passed
  rwa [logb_pow_self] at logs

theorem logb_le {k n : ℕ} (positive : 0 < n) (below : n ≤ 10 ^ k) : Real.logb 10 n ≤ k := by
  have short : (n : ℝ) ≤ 10 ^ k := by exact_mod_cast below
  have logs := Real.logb_le_logb_of_le (by norm_num : (1 : ℝ) < 10)
    (by exact_mod_cast positive) short
  rwa [logb_pow_self] at logs

variable {q s : ℝ} {k : ℕ} (positive : 0 < q) (wide : 0 < s)

include positive

theorem log_eq_pow_add (k : ℕ) : Real.log q = k * Real.log 10 + Real.log (q / 10 ^ k) := by
  rw [Real.log_div positive.ne' (by positivity), Real.log_pow]
  ring

include wide

/-- The logarithm of what is far enough below a power of ten lies before the middle of the last step to
the power's. -/
theorem logb_lt_middle (short : 23027 * (s * 10 ^ k) ≤ 20000 * (10 ^ k - q)) :
    2 * Real.logb 10 q < k - s + k := by
  have ten := log_ten_bounds
  have power : (0 : ℝ) < 10 ^ k := by positivity
  have least : 0 < Real.log 10 := by linarith
  have rest := Real.log_le_sub_one_of_pos (div_pos positive power)
  have share : 2.3027 * s ≤ 2 * (1 - q / 10 ^ k) := by
    refine le_of_mul_le_mul_right ?_ power
    calc 2.3027 * s * 10 ^ k ≤ 2 * (10 ^ k - q) := by linarith
      _ = 2 * (1 - q / 10 ^ k) * 10 ^ k := by
        field_simp
  have less : s * Real.log 10 < s * 2.3027 := mul_lt_mul_of_pos_left ten.2 wide
  rw [Real.logb, ← mul_div_assoc, div_lt_iff₀ least, log_eq_pow_add positive k]
  linarith

/-- The logarithm of what is near enough to a power of ten lies behind that middle. -/
theorem middle_lt_logb (near : 20000 * (10 ^ k - q) ≤ 23025 * (s * q)) :
    k - s + k < 2 * Real.logb 10 q := by
  have ten := log_ten_bounds
  have power : (0 : ℝ) < 10 ^ k := by positivity
  have least : 0 < Real.log 10 := by linarith
  have rest := Real.one_sub_inv_le_log_of_pos (div_pos positive power)
  rw [inv_div] at rest
  have share : 2 * (10 ^ k / q - 1) ≤ 2.3025 * s := by
    refine le_of_mul_le_mul_right ?_ positive
    calc 2 * (10 ^ k / q - 1) * q = 2 * (10 ^ k - q) := by
          field_simp
      _ ≤ 2.3025 * s * q := by linarith
  have less : s * 2.3025 < s * Real.log 10 := mul_lt_mul_of_pos_left ten.1 wide
  rw [Real.logb, ← mul_div_assoc, lt_div_iff₀ least, log_eq_pow_add positive k]
  linarith

end Reals

/-- A common logarithm of floats that, from one on, is correctly rounded. Which of two floats equally near
it takes makes no difference here. -/
def CorrectlyRounded (log10 : Float → Float) : Prop :=
  ∀ x, x.isFinite = true → 1.0 ≤ x → Nearest (Real.logb 10 (toRat x)) (log10 x)

/-- The correctly rounded logarithm. -/
noncomputable def nearestLog (x : Float) : Float := (exists_nearest (Real.logb 10 (toRat x))).choose

theorem correctlyRounded_nearestLog : CorrectlyRounded nearestLog :=
  fun x _ _ => (exists_nearest (Real.logb 10 (toRat x))).choose_spec

theorem onGrid_whole {k : ℕ} (few : k ≤ 309) : OnGrid k ∧ |(k : ℚ)| < lineEnd := by
  refine ⟨onGrid_natCast (by omega), ?_⟩
  rw [abs_of_nonneg (Nat.cast_nonneg k)]
  calc (k : ℚ) ≤ 309 := by exact_mod_cast few
    _ < 2 ^ 9 := by norm_num
    _ < lineEnd := two_pow_lt_lineEnd (by norm_num)

section Rounded

variable {log10 : Float → Float} {x : Float} (correct : CorrectlyRounded log10)

include correct

theorem CorrectlyRounded.bounded : Bounded log10 where
  nonneg x finite above := by
    have nearest := correct x finite above
    rw [one_le_iff finite] at above
    rw [zero_le_iff nearest.isFinite]
    refine nearest.le_of_le onGrid_zero (by simpa using lineEnd_pos) ?_
    rw [Rat.cast_zero]
    exact Real.logb_nonneg (by norm_num) (by exact_mod_cast above)
  lt x finite above := by
    have nearest := correct x finite above
    rw [one_le_iff finite] at above
    rw [lt_end_iff nearest.isFinite]
    obtain ⟨grid, within⟩ := onGrid_whole (k := 308) (by decide)
    refine nearest.lt_of_lt_middle grid within (by norm_num) ?_
    have size : (toRat x : ℝ) < lineEnd := by exact_mod_cast (abs_lt.mp (abs_toRat_lt finite)).2
    have log := Real.log_lt_log (by exact_mod_cast zero_lt_one.trans_le above) size
    rw [lineEnd, Rat.cast_pow, Real.log_pow] at log
    have ten := log_ten_bounds
    have two := Real.log_two_lt_d9
    rw [Real.logb, ← mul_div_assoc, div_lt_iff₀ (by linarith)]
    push_cast at log ⊢
    linarith

end Rounded

/-- How many of the whole numbers just below a power of ten have a logarithm that is rounded up to the
power's. Floats are 16 apart below the seventeenth power and 128 below the eighteenth, so that of them the
first to be rounded up are 400 and 3968 below the power. -/
def margin : ℕ → ℕ
  | 15 => 2
  | 16 => 20
  | 17 => 409
  | 18 => 4090
  | _ => 0

/-- A whole number just below one of the first powers of ten whose logarithm is rounded up to the
power's. -/
def RoundedUp (powers : ℕ) (q : ℚ) : Prop := ∃ k ≤ powers, 10 ^ k - margin k ≤ q ∧ q < 10 ^ k

section Decade

/-- The margins end where the middles of the last steps to the powers' logarithms do. -/
theorem margins_fit : ∀ d < 18,
    23027 * (spacing d * 10 ^ (d + 1)) ≤ 20000 * (margin (d + 1) + 1) ∧
      20000 * margin (d + 1) ≤ 23025 * (spacing d * (10 ^ (d + 1) - margin (d + 1))) ∧
      (10 : ℚ) ^ d ≤ 10 ^ (d + 1) - margin (d + 1) := by
  decide +kernel

theorem spacing_pos (n : ℕ) : 0 < spacing n := zpow_pos two_pos _

variable {d : ℕ} (bits : Nat.log2 d < 52)

include bits

theorem spacing_le_one : spacing d ≤ 1 := zpow_le_one_of_nonpos₀ one_le_two (by omega)

/-- The last step to a whole number starts at a double. -/
theorem onGrid_sub_spacing : OnGrid ((d + 1 : ℕ) - spacing d) := by
  have next : d + 1 ≤ 2 ^ (Nat.log2 d + 1) := Nat.lt_log2_self
  have steps : (d + 1) * 2 ^ (52 - Nat.log2 d) ≤ 2 ^ 53 :=
    calc (d + 1) * 2 ^ (52 - Nat.log2 d) ≤ 2 ^ (Nat.log2 d + 1) * 2 ^ (52 - Nat.log2 d) :=
          Nat.mul_le_mul_right _ next
      _ = 2 ^ 53 := by
        rw [← pow_add]
        congr 1
        omega
  have some : 0 < (d + 1) * 2 ^ (52 - Nat.log2 d) := by positivity
  have grid := onGrid_mul_step (n := ((d + 1) * 2 ^ (52 - Nat.log2 d) : ℕ) - 1)
    (k := Nat.log2 d - 52) (by omega) (by omega)
  have whole : (2 : ℚ) ^ (52 - Nat.log2 d) * 2 ^ (Nat.log2 d - 52 : ℤ) = 1 := by
    rw [← zpow_natCast, ← zpow_add₀ two_ne_zero, Nat.cast_sub bits.le]
    norm_num
  push_cast at grid
  rw [sub_mul, mul_assoc, whole, mul_one, one_mul] at grid
  exact_mod_cast grid

theorem stepExponent_sub_spacing (pos : d ≠ 0) :
    stepExponent ((d + 1 : ℕ) - spacing d) = Nat.log2 d - 52 := by
  have first : ((2 ^ Nat.log2 d : ℕ) : ℚ) ≤ d := by exact_mod_cast Nat.log2_self_le pos
  have next : ((d + 1 : ℕ) : ℚ) ≤ (2 ^ (Nat.log2 d + 1) : ℕ) := by exact_mod_cast Nat.lt_log2_self
  have filled : (2 : ℚ) ^ 52 * 2 ^ (Nat.log2 d - 52 : ℤ) = 2 ^ Nat.log2 d := by
    rw [← zpow_natCast, ← zpow_natCast, ← zpow_add₀ two_ne_zero]
    norm_num
  have twice : (2 : ℚ) ^ 53 * 2 ^ (Nat.log2 d - 52 : ℤ) = 2 ^ (Nat.log2 d + 1) := by
    rw [pow_succ 2 52, mul_right_comm, filled, pow_succ]
  have small := spacing_le_one bits
  have step := spacing_pos d
  push_cast at first next
  have least : (d : ℚ) ≤ ((d + 1 : ℕ) : ℚ) - spacing d := by
    push_cast
    linarith
  refine stepExponent_eq ?_ ?_ (by omega) <;> rw [abs_of_nonneg ((Nat.cast_nonneg d).trans least)]
  · rw [filled]
    exact first.trans least
  · rw [twice]
    push_cast
    linarith

/-- There is no double in that step. -/
theorem le_of_sub_spacing_lt (pos : d ≠ 0) {q : ℚ} (grid : OnGrid q)
    (behind : ((d + 1 : ℕ) : ℚ) - spacing d < q) : ((d + 1 : ℕ) : ℚ) ≤ q := by
  have positive : 0 < ((d + 1 : ℕ) : ℚ) - spacing d := by
    have one : (1 : ℚ) ≤ d := by exact_mod_cast Nat.one_le_iff_ne_zero.mpr pos
    have small := spacing_le_one bits
    push_cast
    linarith
  have step := (onGrid_sub_spacing bits).next_le positive grid behind
  rw [stepExponent_sub_spacing bits pos] at step
  exact (sub_add_cancel _ (spacing d)).symm.trans_le step

end Decade

section Level

variable {log10 : Float → Float} {x : Float} {d n powers : ℕ}

/-- The numbers that are rounded up, by their digits. -/
theorem roundedUp_iff (few : powers ≤ 18) (pos : n ≠ 0) :
    RoundedUp powers n ↔ Nat.log 10 n < powers ∧
      10 ^ (Nat.log 10 n + 1) ≤ n + margin (Nat.log 10 n + 1) := by
  constructor
  · rintro ⟨k, within, near, below⟩
    have short : n < 10 ^ k := by exact_mod_cast below
    rcases k with - | d
    · omega
    have least := (margins_fit d (by omega)).2.2.trans near
    have digits : Nat.log 10 n = d :=
      Nat.log_eq_of_pow_le_of_lt_pow (by exact_mod_cast least) short
    rw [sub_le_iff_le_add] at near
    rw [digits]
    exact ⟨within, by exact_mod_cast near⟩
  · rintro ⟨within, near⟩
    refine ⟨Nat.log 10 n + 1, within, ?_, ?_⟩
    · rw [sub_le_iff_le_add]
      exact_mod_cast near
    · exact_mod_cast Nat.lt_pow_succ_log_self (by decide) n

theorem level_eq_of_lt (low : d ≤ toRat (log10 x)) (high : toRat (log10 x) < (d + 1 : ℕ)) :
    level log10 x = d := by
  have least : (d : ℤ) ≤ (toRat (log10 x)).floor := Rat.le_floor_iff.mpr (by exact_mod_cast low)
  have most : (toRat (log10 x)).floor < (d + 1 : ℕ) :=
    Rat.floor_lt_iff.mpr (by exact_mod_cast high)
  rw [level]
  omega

theorem short_of_plain (few : d < 19) (small : n ≤ 2 ^ 63)
    (plain : n + margin (d + 1) < 10 ^ (d + 1)) :
    23027 * (spacing d * 10 ^ (d + 1)) ≤ 20000 * (10 ^ (d + 1) - n) := by
  rcases Nat.lt_succ_iff_lt_or_eq.mp few with fewer | rfl
  · have most : (n : ℚ) + margin (d + 1) + 1 ≤ 10 ^ (d + 1) := by exact_mod_cast plain
    linarith [(margins_fit d fewer).1]
  -- of the last power only the numbers of 63 bits are reached
  · have most : (n : ℚ) ≤ 2 ^ 63 := by exact_mod_cast small
    have last : 23027 * (spacing 18 * 10 ^ (18 + 1)) ≤ 20000 * (10 ^ (18 + 1) - 2 ^ 63) := by
      decide +kernel
    linarith

theorem close_of_near (few : d < 18) (near : 10 ^ (d + 1) ≤ n + margin (d + 1)) :
    20000 * (10 ^ (d + 1) - n) ≤ 23025 * (spacing d * n) := by
  have least : (10 : ℚ) ^ (d + 1) ≤ n + margin (d + 1) := by exact_mod_cast near
  have step := spacing_pos d
  calc 20000 * ((10 : ℚ) ^ (d + 1) - n) ≤ 20000 * margin (d + 1) := by linarith
    _ ≤ 23025 * (spacing d * (10 ^ (d + 1) - margin (d + 1))) := (margins_fit d few).2.1
    _ ≤ 23025 * (spacing d * n) := by
      gcongr
      linarith

variable (correct : CorrectlyRounded log10) (finite : x.isFinite = true) (whole : toRat x = n)
  (low : 10 ^ d ≤ n)

include correct finite whole low

theorem CorrectlyRounded.nearest_whole : Nearest (Real.logb 10 n) (log10 x) := by
  have least : 1 ≤ n := le_trans (Nat.one_le_pow _ _ (by decide)) low
  have nearest := correct x finite ((one_le_iff finite).mpr (by rw [whole]; exact_mod_cast least))
  rwa [whole, Rat.cast_natCast] at nearest

/-- A whole number's logarithm does not fall below that of the power of ten it has passed. -/
theorem CorrectlyRounded.le_log (few : d < 19) : d ≤ toRat (log10 x) := by
  obtain ⟨grid, within⟩ := onGrid_whole (k := d) (by omega)
  refine (correct.nearest_whole finite whole low).le_of_le grid within ?_
  exact_mod_cast le_logb low

/-- Outside of the margin it stays below that of the next power. -/
theorem CorrectlyRounded.level_eq_of_plain (few : d < 19) (small : n ≤ 2 ^ 63)
    (plain : n + margin (d + 1) < 10 ^ (d + 1)) : level log10 x = d := by
  have nearest := correct.nearest_whole finite whole low
  have bits : Nat.log2 d < 52 := (by decide : ∀ d < 19, Nat.log2 d < 52) d few
  have grid := onGrid_sub_spacing bits
  have step := spacing_pos d
  have within : |((d + 1 : ℕ) : ℚ) - spacing d| < lineEnd := by
    obtain ⟨-, size⟩ := onGrid_whole (k := d + 1) (by omega)
    have small := spacing_le_one bits
    rw [abs_lt] at size ⊢
    push_cast at size ⊢
    exact ⟨by linarith [lineEnd_pos, (Nat.cast_nonneg d : (0 : ℚ) ≤ d)], by linarith⟩
  refine level_eq_of_lt (correct.le_log finite whole low few)
    (nearest.lt_of_lt_middle grid within (sub_lt_self _ step) ?_)
  have positive : 0 < n := (pow_pos (by decide) d).trans_le low
  have before := logb_lt_middle (q := n) (s := spacing d) (k := d + 1) (by exact_mod_cast positive)
    (by exact_mod_cast step) (by exact_mod_cast short_of_plain few small plain)
  exact_mod_cast before

/-- Within the margin it is rounded up. -/
theorem CorrectlyRounded.level_eq_of_near (few : d < 18) (below : n < 10 ^ (d + 1))
    (near : 10 ^ (d + 1) ≤ n + margin (d + 1)) : level log10 x = d + 1 := by
  have nearest := correct.nearest_whole finite whole low
  have bits : Nat.log2 d < 52 := (by decide : ∀ d < 18, Nat.log2 d < 52) d few
  have pos : d ≠ 0 := by
    rintro rfl
    exact absurd near below.not_ge
  have positive : 0 < n := (pow_pos (by decide) d).trans_le low
  obtain ⟨grid, within⟩ := onGrid_whole (k := d + 1) (by omega)
  have step := spacing_pos d
  refine level_eq_of_lt (nearest.le_of_middle_lt grid within (sub_lt_self _ step)
    (fun q => le_of_sub_spacing_lt bits pos) ?_) ?_
  · have behind := middle_lt_logb (q := n) (s := spacing d) (k := d + 1)
      (by exact_mod_cast positive) (by exact_mod_cast step)
      (by exact_mod_cast close_of_near few near)
    exact_mod_cast behind
  · have most := nearest.le_of_ge grid within (by exact_mod_cast logb_le positive below.le)
    refine most.trans_lt ?_
    exact_mod_cast Nat.lt_succ_self (d + 1)

omit low

/-- The logarithm of a whole number is that of its digits, or the next power's if it is rounded up. -/
theorem CorrectlyRounded.level_eq (pos : n ≠ 0) (small : n ≤ 2 ^ 63) :
    (RoundedUp 18 n → level log10 x = Nat.log 10 n + 1) ∧
      (¬ RoundedUp 18 n → level log10 x = Nat.log 10 n) := by
  have low : 10 ^ Nat.log 10 n ≤ n := Nat.pow_log_le_self 10 pos
  have below : n < 10 ^ (Nat.log 10 n + 1) := Nat.lt_pow_succ_log_self (by decide) n
  have few : Nat.log 10 n < 19 := Nat.log_lt_of_lt_pow pos (small.trans_lt (by decide))
  rw [roundedUp_iff le_rfl pos]
  refine ⟨fun up => correct.level_eq_of_near finite whole low up.1 below up.2, fun plain => ?_⟩
  refine correct.level_eq_of_plain finite whole low few small ?_
  rcases Nat.lt_succ_iff_lt_or_eq.mp few with fewer | last
  · exact not_le.mp fun near => plain ⟨fewer, near⟩
  · rw [last]
    exact small.trans_lt (by decide)

/-- Unless it is rounded up, a number has passed the powers of ten that its logarithm names, and it
never reaches the next one. -/
theorem CorrectlyRounded.level_spec (pos : n ≠ 0) (small : n ≤ 2 ^ 63) (within : powers ≤ 18)
    (plain : ¬ RoundedUp powers n) :
    10 ^ min (level log10 x) powers ≤ n ∧ n < 10 ^ (level log10 x + 1) := by
  have low : 10 ^ Nat.log 10 n ≤ n := Nat.pow_log_le_self 10 pos
  have below : n < 10 ^ (Nat.log 10 n + 1) := Nat.lt_pow_succ_log_self (by decide) n
  obtain ⟨up, digits⟩ := correct.level_eq finite whole pos small
  rw [roundedUp_iff le_rfl pos] at up digits
  rw [roundedUp_iff within pos] at plain
  by_cases rounded : Nat.log 10 n < 18 ∧ 10 ^ (Nat.log 10 n + 1) ≤ n + margin (Nat.log 10 n + 1)
  · have many : powers ≤ Nat.log 10 n := not_lt.mp fun fewer => plain ⟨fewer, rounded.2⟩
    rw [up rounded, min_eq_right (by omega)]
    exact ⟨(Nat.pow_le_pow_right (by decide) many).trans low,
      below.trans (Nat.pow_lt_pow_right (by decide) (Nat.lt_succ_self _))⟩
  · rw [digits rounded]
    exact ⟨(Nat.pow_le_pow_right (by decide) (min_le_left _ _)).trans low, below⟩

end Level

end LogScale

end Facets
