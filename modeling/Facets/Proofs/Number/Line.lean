import Facets.Proofs.Number.Grid
import Facets.Proofs.Number.Nearest

/-!
The line of the doubles. Infinity stands at the power of two behind the largest double, every finite
double at its exact value, and numbers compare as they stand.
-/

namespace Facets.Number

open Float.Model (UnpackedFloat)
open Float.Model.UnpackedFloat

/-- The power of two behind the largest double. -/
def lineEnd : ℚ := 2 ^ 1024

/-- How far apart the largest doubles are. -/
def endStep : ℚ := 2 ^ (971 : ℤ)

/-- A rational with a sign put before it. -/
def signed : Sign → ℚ → ℚ
  | .negative, q => -q
  | .positive, q => q

/-- A rational cut off where the doubles end. -/
def clamped (q : ℚ) : ℚ := max (-lineEnd) (min q lineEnd)

/-- Where a float stands on the line. NaN stands nowhere and counts as zero. -/
def pointOf : UnpackedFloat → ℚ
  | .infinity sign => signed sign lineEnd
  | u => ratOf u

def lineOf (x : Float) : ℚ := pointOf x.toModel.unpack

section Line

variable {q r : ℚ}

theorem lineEnd_pos : 0 < lineEnd := by
  unfold lineEnd
  positivity

theorem two_pow_lt_lineEnd {n : ℕ} (small : n < 1024) : 2 ^ n < lineEnd :=
  pow_lt_pow_right₀ one_lt_two small

theorem endStep_pos : 0 < endStep := by
  unfold endStep
  positivity

theorem bits_mul_endStep : 2 ^ 53 * endStep = lineEnd := by
  rw [lineEnd, endStep, ← zpow_natCast, ← zpow_natCast, ← zpow_add₀ two_ne_zero]
  rfl

theorem onGrid_lineEnd : OnGrid lineEnd := by
  have grid : OnGrid ((2 ^ 53 : ℤ) * endStep) := onGrid_mul_step (by decide) (by decide)
  rwa [Int.cast_pow, Int.cast_ofNat, bits_mul_endStep] at grid

/-- The largest double is one step before the end. -/
theorem largest_eq : lineEnd - endStep = (2 ^ 53 - 1 : ℤ) * endStep := by
  rw [← bits_mul_endStep]
  push_cast
  ring

theorem onGrid_largest : OnGrid (lineEnd - endStep) := by
  rw [largest_eq]
  exact onGrid_mul_step (by decide) (by decide)

theorem le_largest (grid : OnGrid q) (within : q < lineEnd) : q ≤ lineEnd - endStep := by
  by_contra! beyond
  rw [largest_eq] at beyond
  have reached := OnGrid.add_step_le (k := 971) ?_ (by decide) grid beyond
  · change _ * endStep ≤ q at reached
    rw [← bits_mul_endStep] at within
    push_cast at reached
    linarith
  · change _ * endStep ≤ |_ * endStep|
    have positive := endStep_pos
    rw [abs_mul, abs_of_pos positive]
    refine mul_le_mul_of_nonneg_right ?_ positive.le
    norm_num

theorem clamped_mono : Monotone clamped := fun _ _ le =>
  max_le_max le_rfl (min_le_min le le_rfl)

theorem clamped_le (q : ℚ) : clamped q ≤ lineEnd :=
  max_le (neg_le_self lineEnd_pos.le) (min_le_right _ _)

theorem le_clamped (q : ℚ) : -lineEnd ≤ clamped q := le_max_left _ _

theorem le_clamped_iff (inside : |r| < lineEnd) : r ≤ clamped q ↔ r ≤ q := by
  obtain ⟨least, most⟩ := abs_lt.mp inside
  rw [clamped, le_max_iff, le_min_iff]
  exact ⟨fun either => either.elim (fun below => absurd below least.not_ge) And.left,
    fun le => Or.inr ⟨le, most.le⟩⟩

theorem clamped_of_abs_le (within : |q| ≤ lineEnd) : clamped q = q := by
  obtain ⟨least, most⟩ := abs_le.mp within
  rw [clamped, min_eq_left most, max_eq_right least]

theorem clamped_of_le (beyond : lineEnd ≤ q) : clamped q = lineEnd := by
  rw [clamped, min_eq_right beyond]
  exact max_eq_right (neg_le_self lineEnd_pos.le)

theorem clamped_zero : clamped 0 = 0 :=
  clamped_of_abs_le (by
    rw [abs_zero]
    exact lineEnd_pos.le)

theorem clamped_of_le_neg (beyond : q ≤ -lineEnd) : clamped q = -lineEnd :=
  max_eq_left ((min_le_left q lineEnd).trans beyond)

theorem clamped_eq_of_abs_lt (within : |clamped q| < lineEnd) : clamped q = q := by
  obtain ⟨least, most⟩ := abs_lt.mp within
  refine clamped_of_abs_le (abs_le.mpr ⟨?_, ?_⟩) <;> by_contra! beyond
  · rw [clamped_of_le_neg beyond.le] at least
    exact least.false
  · rw [clamped_of_le beyond.le] at most
    exact most.false

theorem clamped_neg (q : ℚ) : clamped (-q) = -clamped q := by
  rcases le_or_gt |q| lineEnd with within | beyond
  · rw [clamped_of_abs_le within, clamped_of_abs_le ((abs_neg q).trans_le within)]
  · rcases lt_abs.mp beyond with above | below
    · rw [clamped_of_le above.le, clamped_of_le_neg (neg_le_neg above.le)]
    · rw [clamped_of_le below.le, clamped_of_le_neg (le_neg_of_le_neg below.le), neg_neg]

theorem signed_zero (sign : Sign) : signed sign 0 = 0 := by
  cases sign
  · exact neg_zero
  · rfl

theorem abs_signed (sign : Sign) (nonneg : 0 ≤ q) : |signed sign q| = q := by
  cases sign
  · rw [signed, abs_neg, abs_of_nonneg nonneg]
  · exact abs_of_nonneg nonneg

theorem rounded_signed (sign : Sign) (q : ℚ) : rounded (signed sign q) = signed sign (rounded q) := by
  cases sign
  · exact rounded_neg q
  · rfl

theorem clamped_signed (sign : Sign) (q : ℚ) : clamped (signed sign q) = signed sign (clamped q) := by
  cases sign
  · exact clamped_neg q
  · rfl

theorem signed_neg_iff (sign : Sign) (positive : 0 < q) : signed sign q < 0 ↔ sign = .negative := by
  cases sign
  · exact iff_of_true (neg_neg_of_pos positive) rfl
  · exact iff_of_false positive.not_gt (by simp)

theorem ratOf_finite {sign : Sign} {m : ℕ} {e : ℤ} (positive : 0 < m) :
    ratOf (.finite sign m e positive) = signed sign (m * 2 ^ e) := by
  cases sign
  · exact ratOf_negative positive
  · exact ratOf_positive positive

theorem signed_apply (sign : Sign) (n : ℕ) (e : ℤ) :
    ((sign.apply n : ℤ) : ℚ) * 2 ^ e = signed sign (n * 2 ^ e) := by
  cases sign <;> simp [Sign.apply, signed]

theorem pointOf_finite {sign : Sign} {m : ℕ} {e : ℤ} (positive : 0 < m) :
    pointOf (.finite sign m e positive) = signed sign (m * 2 ^ e) := ratOf_finite positive

theorem ratOf_zero (sign : Sign) : ratOf (.zero sign) = 0 := rfl

theorem finite_cases {u : UnpackedFloat} (finite : u.isFinite = true) :
    (∃ sign, u = .zero sign) ∨ ∃ sign m e, ∃ positive : 0 < m, u = .finite sign m e positive := by
  cases u with
  | notANumber => cases finite
  | infinity sign => cases finite
  | zero sign => exact Or.inl ⟨sign, rfl⟩
  | finite sign m e positive => exact Or.inr ⟨sign, m, e, positive, rfl⟩

theorem pointOf_of_isFinite {u : UnpackedFloat} (finite : u.isFinite = true) : pointOf u = ratOf u := by
  rcases finite_cases finite with ⟨sign, rfl⟩ | ⟨sign, m, e, positive, rfl⟩ <;> rfl

theorem onGrid_ratOf {u : UnpackedFloat} (fits : Fits .binary64 u) (finite : u.isFinite = true) :
    OnGrid (ratOf u) := by
  obtain ⟨c, j, bounded, least, size⟩ := exists_size fits finite
  exact ⟨c, j, size, bounded.le, least⟩

theorem abs_ratOf_lt {u : UnpackedFloat} (fits : Fits .binary64 u) (finite : u.isFinite = true) :
    |ratOf u| < lineEnd := by
  rcases finite_cases finite with ⟨sign, rfl⟩ | ⟨sign, m, e, positive, rfl⟩
  · rw [ratOf_zero, abs_zero]
    exact lineEnd_pos
  · rw [abs_ratOf_finite]
    exact (rankOf_lt_topRank_iff fits.1).mp fits.2

theorem number_cases {u : UnpackedFloat} (number : u.isNaN = false) :
    u.isFinite = true ∨ ∃ sign, u = .infinity sign := by
  cases u with
  | notANumber => cases number
  | infinity sign => exact Or.inr ⟨sign, rfl⟩
  | _ => exact Or.inl rfl

theorem abs_placeOf_lt {u : UnpackedFloat} (fits : Fits .binary64 u) (finite : u.isFinite = true) :
    |placeOf .binary64 u| < topRank .binary64 := by
  have top := topRank_pos .binary64
  rcases finite_cases finite with ⟨sign, rfl⟩ | ⟨sign, m, e, positive, rfl⟩
  · cases sign <;> simpa [placeOf, signOf, distanceOf, Sign.apply] using top
  · have within := fits.2
    cases sign <;> simpa [placeOf, signOf, distanceOf, Sign.apply] using within

/-- Numbers stand on the line in the order of their places. -/
theorem pointOf_lt_iff {u v : UnpackedFloat} (fits : Fits .binary64 u) (others : Fits .binary64 v)
    (number : u.isNaN = false) (numbers : v.isNaN = false) :
    pointOf u < pointOf v ↔ placeOf .binary64 u < placeOf .binary64 v := by
  have size := lineEnd_pos
  have top : 0 < (topRank .binary64 : ℤ) := by exact_mod_cast topRank_pos .binary64
  have infinite (sign : Sign) : placeOf .binary64 (.infinity sign) = sign.apply (topRank .binary64) := rfl
  have point (sign : Sign) : pointOf (.infinity sign) = signed sign lineEnd := rfl
  rcases number_cases number with finite | ⟨s, rfl⟩ <;>
    rcases number_cases numbers with finites | ⟨t, rfl⟩
  · rw [pointOf_of_isFinite finite, pointOf_of_isFinite finites]
    exact ratOf_lt_iff fits others finite finites
  · have near := abs_lt.mp (abs_ratOf_lt fits finite)
    have low := abs_lt.mp (abs_placeOf_lt fits finite)
    rw [pointOf_of_isFinite finite, infinite, point]
    cases t
    · exact iff_of_false near.1.not_gt low.1.not_gt
    · exact iff_of_true near.2 low.2
  · have near := abs_lt.mp (abs_ratOf_lt others finites)
    have low := abs_lt.mp (abs_placeOf_lt others finites)
    rw [pointOf_of_isFinite finites, infinite, point]
    cases s
    · exact iff_of_true near.1 low.1
    · exact iff_of_false near.2.not_gt low.2.not_gt
  · rw [infinite, infinite, point, point]
    cases s <;> cases t <;> simp only [signed, Sign.apply, lt_self_iff_false]
    · exact iff_of_true (by linarith) (by omega)
    · exact iff_of_false (by linarith) (by omega)

variable {x y : Float}

theorem line_lt_iff (number : x.isNaN = false) (numbers : y.isNaN = false) :
    x < y ↔ lineOf x < lineOf y := by
  rw [double_lt_iff number numbers, lineOf, lineOf,
    pointOf_lt_iff (fits_double x) (fits_double y) number numbers]

theorem double_le_iff_le (x y : Float) : x ≤ y ↔ x.toModel.unpack.le y.toModel.unpack = true :=
  decide_eq_true_iff

theorem le_iff_placeOf {u v : UnpackedFloat} (fits : Fits .binary64 u) (others : Fits .binary64 v)
    (number : u.isNaN = false) (numbers : v.isNaN = false) :
    u.le v ↔ placeOf .binary64 u ≤ placeOf .binary64 v := by
  have compared := compare_eq fits others (by rintro rfl; cases number) (by rintro rfl; cases numbers)
  rw [UnpackedFloat.le, compared, Option.any_some, Std.LawfulOrderOrd.isLE_compare]

theorem line_le_iff (number : x.isNaN = false) (numbers : y.isNaN = false) :
    x ≤ y ↔ lineOf x ≤ lineOf y := by
  rw [double_le_iff_le, le_iff_placeOf (fits_double x) (fits_double y) number numbers, ← not_lt,
    ← not_lt, lineOf, lineOf, pointOf_lt_iff (fits_double y) (fits_double x) numbers number]

/-- NaN is not compared. -/
theorem isNaN_of_le (le : x ≤ y) : x.isNaN = false ∧ y.isNaN = false := by
  rw [double_le_iff_le] at le
  change x.toModel.unpack.isNaN = false ∧ y.toModel.unpack.isNaN = false
  cases left : x.toModel.unpack with
  | notANumber =>
    rw [left] at le
    cases le
  | _ =>
    cases right : y.toModel.unpack with
    | notANumber =>
      rw [left, right] at le
      cases le
    | _ => exact ⟨rfl, rfl⟩

theorem lineOf_of_isFinite (finite : x.isFinite = true) : lineOf x = toRat x :=
  (pointOf_of_isFinite finite).trans (toRat_eq x).symm

theorem le_iff_toRat (finite : x.isFinite = true) (finites : y.isFinite = true) :
    x ≤ y ↔ toRat x ≤ toRat y := by
  rw [line_le_iff (isNaN_of_isFinite finite) (isNaN_of_isFinite finites), lineOf_of_isFinite finite,
    lineOf_of_isFinite finites]

theorem abs_toRat_lt (finite : x.isFinite = true) : |toRat x| < lineEnd := by
  rw [toRat_eq]
  exact abs_ratOf_lt (fits_double x) finite

theorem onGrid_toRat (finite : x.isFinite = true) : OnGrid (toRat x) := by
  rw [toRat_eq]
  exact onGrid_ratOf (fits_double x) finite

theorem isFinite_iff_abs_lineOf_lt (number : x.isNaN = false) :
    x.isFinite = true ↔ |lineOf x| < lineEnd := by
  refine ⟨fun finite => (lineOf_of_isFinite finite).symm ▸ abs_toRat_lt finite, fun within => ?_⟩
  refine (number_cases number).resolve_right ?_
  rintro ⟨sign, infinite⟩
  rw [lineOf, infinite, pointOf, abs_signed sign lineEnd_pos.le] at within
  exact within.false

end Line

end Facets.Number
