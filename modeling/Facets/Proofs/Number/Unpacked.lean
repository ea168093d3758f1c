import Facets.Number.Exact
import Mathlib

/-!
Floats as a format keeps them. The numbers of a format that are not negative are ranked from zero
up to infinity, the rank of a finite one can be read off its mantissa and exponent, and both its
exact value and the comparison of floats follow the ranks.
-/

namespace Facets.Number

open Float.Model Float.Model.UnpackedFloat

/-- The form in which a format keeps a finite number: the mantissa fills its bits, unless the exponent
is the smallest there is. -/
structure Canonical (spec : Format) (mantissa : ℕ) (exponent : ℤ) : Prop where
  bounded : mantissa < 2 * 2 ^ spec.mantissaBitsWithoutImplicit
  least : spec.minExponent ≤ exponent
  normal : 2 ^ spec.mantissaBitsWithoutImplicit ≤ mantissa ∨ exponent = spec.minExponent

/-- How many numbers of a format lie between zero and a canonical one. -/
def rankOf (spec : Format) (mantissa : ℕ) (exponent : ℤ) : ℕ :=
  (exponent - spec.minExponent).toNat * 2 ^ spec.mantissaBitsWithoutImplicit + mantissa

/-- Where infinity stands among the ranks. -/
def topRank (spec : Format) : ℕ :=
  (2 ^ spec.exponentBits - 1) * 2 ^ spec.mantissaBitsWithoutImplicit

section Rank

variable {spec : Format} {m n : ℕ} {e f : ℤ}

theorem rankOf_lt_of_exponent_lt (first : Canonical spec m e) (second : Canonical spec n f)
    (less : e < f) : rankOf spec m e < rankOf spec n f := by
  have bounded := first.bounded
  have least := first.least
  have normal := second.normal.resolve_right (by omega)
  have steps : ((e - spec.minExponent).toNat + 1) * 2 ^ spec.mantissaBitsWithoutImplicit ≤
      (f - spec.minExponent).toNat * 2 ^ spec.mantissaBitsWithoutImplicit :=
    Nat.mul_le_mul_right _ (by omega)
  rw [Nat.succ_mul] at steps
  unfold rankOf
  omega

theorem value_lt_of_exponent_lt (first : Canonical spec m e) (second : Canonical spec n f)
    (less : e < f) : (m : ℚ) * 2 ^ e < n * 2 ^ f := by
  have bounded : (m : ℚ) < 2 * 2 ^ spec.mantissaBitsWithoutImplicit := by
    exact_mod_cast first.bounded
  have least := first.least
  have normal : (2 : ℚ) ^ spec.mantissaBitsWithoutImplicit ≤ n := by
    exact_mod_cast second.normal.resolve_right (by omega)
  calc (m : ℚ) * 2 ^ e < 2 * 2 ^ spec.mantissaBitsWithoutImplicit * 2 ^ e := by gcongr
    _ = 2 ^ spec.mantissaBitsWithoutImplicit * 2 ^ (e + 1) := by
      rw [zpow_add_one₀ two_ne_zero]
      ring
    _ ≤ n * 2 ^ f := by
      gcongr
      · norm_num
      · omega

theorem rankOf_lt_iff (first : Canonical spec m e) (second : Canonical spec n f) :
    rankOf spec m e < rankOf spec n f ↔ e < f ∨ e = f ∧ m < n := by
  rcases lt_trichotomy e f with less | rfl | greater
  · exact iff_of_true (rankOf_lt_of_exponent_lt first second less) (Or.inl less)
  · unfold rankOf
    omega
  · have above := rankOf_lt_of_exponent_lt second first greater
    omega

theorem value_lt_iff (first : Canonical spec m e) (second : Canonical spec n f) :
    (m : ℚ) * 2 ^ e < n * 2 ^ f ↔ rankOf spec m e < rankOf spec n f := by
  rw [rankOf_lt_iff first second]
  rcases lt_trichotomy e f with less | rfl | greater
  · exact iff_of_true (value_lt_of_exponent_lt first second less) (Or.inl less)
  · have positive : (0 : ℚ) < 2 ^ e := by positivity
    simp [mul_lt_mul_iff_left₀ positive]
  · have above := value_lt_of_exponent_lt second first greater
    refine iff_of_false above.not_gt ?_
    omega

theorem rankOf_injective (first : Canonical spec m e) (second : Canonical spec n f)
    (same : rankOf spec m e = rankOf spec n f) : m = n ∧ e = f := by
  have below := rankOf_lt_iff first second
  have above := rankOf_lt_iff second first
  omega

theorem eq_of_value (first : Canonical spec m e) (second : Canonical spec n f)
    (same : (m : ℚ) * 2 ^ e = n * 2 ^ f) : m = n ∧ e = f := by
  have below := value_lt_iff first second
  have above := value_lt_iff second first
  rw [same] at below above
  have ranks : rankOf spec m e = rankOf spec n f := by
    have notBelow := (not_congr below).mp (lt_irrefl _)
    have notAbove := (not_congr above).mp (lt_irrefl _)
    omega
  exact rankOf_injective first second ranks

theorem compare_rankOf (first : Canonical spec m e) (second : Canonical spec n f) :
    (compare e f).then (compare m n) = compare (rankOf spec m e) (rankOf spec n f) := by
  have below := rankOf_lt_iff first second
  have above := rankOf_lt_iff second first
  rcases lt_trichotomy (rankOf spec m e) (rankOf spec n f) with less | same | greater
  · rw [compare_lt_iff_lt.mpr less]
    rcases below.mp less with exponents | ⟨rfl, mantissas⟩
    · rw [compare_lt_iff_lt.mpr exponents]
      rfl
    · rw [compare_eq_iff_eq.mpr rfl, compare_lt_iff_lt.mpr mantissas]
      rfl
  · obtain ⟨rfl, rfl⟩ := rankOf_injective first second same
    rw [compare_eq_iff_eq.mpr rfl, compare_eq_iff_eq.mpr rfl, compare_eq_iff_eq.mpr rfl]
    rfl
  · rw [compare_gt_iff_gt.mpr greater]
    rcases above.mp greater with exponents | ⟨rfl, mantissas⟩
    · rw [compare_gt_iff_gt.mpr exponents]
      rfl
    · rw [compare_eq_iff_eq.mpr rfl, compare_gt_iff_gt.mpr mantissas]
      rfl

end Rank

/-- Whether a format has a float. -/
def Fits (spec : Format) : UnpackedFloat → Prop
  | .finite _ mantissa exponent _ =>
    Canonical spec mantissa exponent ∧ rankOf spec mantissa exponent < topRank spec
  | _ => True

/-- The sign of a float. NaN has none and counts as positive. -/
def signOf : UnpackedFloat → Sign
  | .finite sign .. | .infinity sign | .zero sign => sign
  | .notANumber => .positive

/-- How far a float stands from zero in its format. NaN stands behind infinity. -/
def distanceOf (spec : Format) : UnpackedFloat → ℕ
  | .finite _ mantissa exponent _ => rankOf spec mantissa exponent
  | .infinity _ => topRank spec
  | .zero _ => 0
  | .notANumber => topRank spec + 2 ^ (spec.mantissaBitsWithoutImplicit - 1)

/-- The place of a float in its format, counted from zero. -/
def placeOf (spec : Format) (u : UnpackedFloat) : ℤ := (signOf u).apply (distanceOf spec u)

theorem compare_natCast (m n : ℕ) : compare (m : ℤ) n = compare m n := by
  rcases lt_trichotomy m n with less | rfl | greater
  · rw [compare_lt_iff_lt.mpr less, compare_lt_iff_lt.mpr (Int.ofNat_lt.mpr less)]
  · rw [compare_eq_iff_eq.mpr rfl, compare_eq_iff_eq.mpr rfl]
  · rw [compare_gt_iff_gt.mpr greater, compare_gt_iff_gt.mpr (Int.ofNat_lt.mpr greater)]

theorem compare_neg_neg (m n : ℕ) : compare (-m : ℤ) (-n) = (compare m n).swap := by
  rcases lt_trichotomy m n with less | rfl | greater
  · rw [compare_lt_iff_lt.mpr less, compare_gt_iff_gt.mpr (by omega)]
    rfl
  · rw [compare_eq_iff_eq.mpr rfl, compare_eq_iff_eq.mpr rfl]
    rfl
  · rw [compare_gt_iff_gt.mpr greater, compare_lt_iff_lt.mpr (by omega)]
    rfl

section Format

variable (spec : Format)

theorem two_pow_exponentBits : 2 ^ spec.exponentBits = 2 * spec.exponentBias + 2 := by
  have positive := Nat.one_le_two_pow (n := spec.exponentBits - 1)
  have split : 2 ^ spec.exponentBits = 2 * 2 ^ (spec.exponentBits - 1) := by
    rw [← pow_succ', Nat.sub_add_cancel spec.he]
  unfold Format.exponentBias
  omega

theorem minExponent_eq :
    spec.minExponent = 1 - spec.exponentBias - spec.mantissaBitsWithoutImplicit := by
  have positive := Nat.one_le_two_pow (n := spec.exponentBits - 1)
  unfold Format.minExponent Format.exponentBias Format.mantissaBits
  push_cast [positive]
  omega

theorem topRank_eq :
    topRank spec = (2 * spec.exponentBias + 1) * 2 ^ spec.mantissaBitsWithoutImplicit := by
  rw [topRank, two_pow_exponentBits]
  rfl

theorem topRank_pos : 0 < topRank spec := by
  rw [topRank_eq]
  positivity

theorem rankOf_pos {m : ℕ} (e : ℤ) (positive : 0 < m) : 0 < rankOf spec m e :=
  Nat.lt_add_left _ positive

variable {spec}

/-- A format ends at the power of two after its largest exponent. -/
theorem rankOf_lt_topRank_iff {m : ℕ} {e : ℤ} (canonical : Canonical spec m e) :
    rankOf spec m e < topRank spec ↔ (m : ℚ) * 2 ^ e < 2 ^ (spec.exponentBias + 1) := by
  have smallest := minExponent_eq spec
  have step := Nat.two_pow_pos spec.mantissaBitsWithoutImplicit
  -- infinity has the rank that one more number after the last one would have
  have last : Canonical spec (2 ^ spec.mantissaBitsWithoutImplicit)
      (spec.exponentBias + 1 - spec.mantissaBitsWithoutImplicit) :=
    ⟨by omega, by omega, Or.inl le_rfl⟩
  have rank : rankOf spec (2 ^ spec.mantissaBitsWithoutImplicit)
      (spec.exponentBias + 1 - spec.mantissaBitsWithoutImplicit) = topRank spec := by
    have steps : (spec.exponentBias + 1 - spec.mantissaBitsWithoutImplicit - spec.minExponent).toNat =
      2 * spec.exponentBias := by omega
    rw [rankOf, steps, topRank_eq]
    ring
  have value : ((2 ^ spec.mantissaBitsWithoutImplicit : ℕ) : ℚ) *
      2 ^ (spec.exponentBias + 1 - spec.mantissaBitsWithoutImplicit : ℤ) =
        2 ^ (spec.exponentBias + 1) := by
    rw [Nat.cast_pow, Nat.cast_ofNat, ← zpow_natCast, ← zpow_add₀ two_ne_zero, ← zpow_natCast]
    congr 1
    push_cast
    ring
  rw [← rank, ← value_lt_iff canonical last, value]

/-- Floats of a format compare as their places do. -/
theorem compare_eq {u v : UnpackedFloat} (fits : Fits spec u) (others : Fits spec v)
    (number : u ≠ .notANumber) (numbers : v ≠ .notANumber) :
    u.compare v = some (compare (placeOf spec u) (placeOf spec v)) := by
  have top := topRank_pos spec
  cases u with
  | notANumber => exact absurd rfl number
  | infinity s =>
    cases v with
    | notANumber => exact absurd rfl numbers
    | infinity t =>
      cases s <;> cases t <;> refine congrArg some (Eq.symm ?_) <;>
        simp only [placeOf, signOf, distanceOf, Sign.apply]
      · exact compare_eq_iff_eq.mpr rfl
      · exact compare_lt_iff_lt.mpr (by omega)
      · exact compare_gt_iff_gt.mpr (by omega)
      · exact compare_eq_iff_eq.mpr rfl
    | zero t =>
      cases s <;> refine congrArg some (Eq.symm ?_) <;> cases t <;>
        simp only [placeOf, signOf, distanceOf, Sign.apply, compare_lt_iff_lt, compare_gt_iff_gt] <;>
        omega
    | finite t n f positive =>
      have bound := others.2
      cases s <;> refine congrArg some (Eq.symm ?_) <;> cases t <;>
        simp only [placeOf, signOf, distanceOf, Sign.apply, compare_lt_iff_lt, compare_gt_iff_gt] <;>
        omega
  | zero s =>
    cases v with
    | notANumber => exact absurd rfl numbers
    | infinity t =>
      cases t <;> refine congrArg some (Eq.symm ?_) <;> cases s <;>
        simp only [placeOf, signOf, distanceOf, Sign.apply, compare_lt_iff_lt, compare_gt_iff_gt] <;>
        omega
    | zero t =>
      cases s <;> cases t <;> exact congrArg some (compare_eq_iff_eq.mpr rfl).symm
    | finite t n f positive =>
      have above := rankOf_pos spec f positive
      cases t <;> refine congrArg some (Eq.symm ?_) <;> cases s <;>
        simp only [placeOf, signOf, distanceOf, Sign.apply, compare_lt_iff_lt, compare_gt_iff_gt] <;>
        omega
  | finite s m e positive =>
    have bound := fits.2
    have above := rankOf_pos spec e positive
    cases v with
    | notANumber => exact absurd rfl numbers
    | infinity t =>
      cases t <;> refine congrArg some (Eq.symm ?_) <;> cases s <;>
        simp only [placeOf, signOf, distanceOf, Sign.apply, compare_lt_iff_lt, compare_gt_iff_gt] <;>
        omega
    | zero t =>
      cases s <;> refine congrArg some (Eq.symm ?_) <;> cases t <;>
        simp only [placeOf, signOf, distanceOf, Sign.apply, compare_lt_iff_lt, compare_gt_iff_gt] <;>
        omega
    | finite t n f positive =>
      have ranks := compare_rankOf fits.1 others.1
      have higher := rankOf_pos spec f positive
      cases s <;> cases t <;> refine congrArg some (Eq.symm ?_)
      · rw [ranks]
        exact compare_neg_neg _ _
      · simp only [placeOf, signOf, distanceOf, Sign.apply, compare_lt_iff_lt]
        omega
      · simp only [placeOf, signOf, distanceOf, Sign.apply, compare_gt_iff_gt]
        omega
      · rw [ranks]
        exact compare_natCast _ _

/-- The exact value of a float. Infinities and NaN have none and give zero. -/
def ratOf : UnpackedFloat → ℚ
  | .finite sign mantissa exponent _ => (sign.apply mantissa : ℤ) * (2 : ℚ) ^ exponent
  | _ => 0

theorem ratOf_negative {m : ℕ} {e : ℤ} (positive : 0 < m) :
    ratOf (.finite .negative m e positive) = -(m * 2 ^ e) := by
  simp [ratOf, Sign.apply]

theorem ratOf_positive {m : ℕ} {e : ℤ} (positive : 0 < m) :
    ratOf (.finite .positive m e positive) = m * 2 ^ e := by
  simp [ratOf, Sign.apply]

theorem abs_ratOf_finite {sign : Sign} {m : ℕ} {e : ℤ} (positive : 0 < m) :
    |ratOf (.finite sign m e positive)| = m * 2 ^ e := by
  have size : (0 : ℚ) ≤ m * 2 ^ e := by positivity
  cases sign
  · rw [ratOf_negative, abs_neg, abs_of_nonneg size]
  · rw [ratOf_positive, abs_of_nonneg size]

/-- The values of finite floats are ordered as their places are. -/
theorem ratOf_lt_iff {u v : UnpackedFloat} (fits : Fits spec u) (others : Fits spec v)
    (finite : u.isFinite) (finites : v.isFinite) :
    ratOf u < ratOf v ↔ placeOf spec u < placeOf spec v := by
  cases u with
  | notANumber => cases finite
  | infinity s => cases finite
  | zero s =>
    cases v with
    | notANumber => cases finites
    | infinity t => cases finites
    | zero t => cases s <;> cases t <;> exact iff_of_false (lt_irrefl 0) (lt_irrefl 0)
    | finite t n f positive =>
      have above := rankOf_pos spec f positive
      have size : (0 : ℚ) < n * 2 ^ f := by positivity
      cases t
      · rw [ratOf_negative]
        cases s <;> simp only [ratOf, placeOf, signOf, distanceOf, Sign.apply] <;>
          exact iff_of_false (by linarith) (by omega)
      · rw [ratOf_positive]
        cases s <;> simp only [ratOf, placeOf, signOf, distanceOf, Sign.apply] <;>
          exact iff_of_true (by linarith) (by omega)
  | finite s m e positive =>
    have above := rankOf_pos spec e positive
    have size : (0 : ℚ) < m * 2 ^ e := by positivity
    cases v with
    | notANumber => cases finites
    | infinity t => cases finites
    | zero t =>
      cases s
      · rw [ratOf_negative]
        cases t <;> simp only [ratOf, placeOf, signOf, distanceOf, Sign.apply] <;>
          exact iff_of_true (by linarith) (by omega)
      · rw [ratOf_positive]
        cases t <;> simp only [ratOf, placeOf, signOf, distanceOf, Sign.apply] <;>
          exact iff_of_false (by linarith) (by omega)
    | finite t n f positives =>
      have higher := rankOf_pos spec f positives
      have sizes : (0 : ℚ) < n * 2 ^ f := by positivity
      cases s <;> cases t <;>
        simp only [ratOf_negative, ratOf_positive, placeOf, signOf, distanceOf, Sign.apply]
      · rw [neg_lt_neg_iff, neg_lt_neg_iff, value_lt_iff others.1 fits.1, Nat.cast_lt]
      · exact iff_of_true (by linarith) (by omega)
      · exact iff_of_false (by linarith) (by omega)
      · rw [value_lt_iff fits.1 others.1, Nat.cast_lt]

end Format

theorem toRat_eq (x : Float) : toRat x = ratOf x.toModel.unpack := by
  unfold toRat ratOf
  cases x.toModel.unpack <;> rfl

end Facets.Number
