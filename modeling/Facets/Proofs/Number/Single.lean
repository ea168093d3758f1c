import Facets.Proofs.Number.Rounding
import Facets.Proofs.Number.Sortable

/-!
Singles among the doubles. Two formats hold one number at different exponents; the order of numbers
does not depend on the format, so widening a single keeps its place among the others, and narrowing
brings back the single it came from.
-/

namespace Facets.Number

open Float.Model (Format UnpackedFloat)
open Float.Model.UnpackedFloat

/-- Where a float lies: below the finite ones, among them or above them. -/
def wingOf : UnpackedFloat → ℤ
  | .infinity sign => sign.apply 1
  | _ => 0

theorem placeOf_infinity (spec : Format) (sign : Sign) :
    placeOf spec (.infinity sign) = sign.apply (topRank spec) := rfl

theorem placeOf_finite {spec : Format} {u : UnpackedFloat} (fits : Fits spec u)
    (finite : u.isFinite) : -topRank spec < placeOf spec u ∧ placeOf spec u < topRank spec := by
  have top := topRank_pos spec
  have below : distanceOf spec u < topRank spec := by
    cases u with
    | infinity sign => cases finite
    | notANumber => cases finite
    | zero sign => exact top
    | finite sign m e positive => exact fits.2
  unfold placeOf
  cases signOf u <;> simp only [Sign.apply] <;> omega

theorem finite_or_infinite {u : UnpackedFloat} (number : u.isNaN = false) :
    u.isFinite ∧ wingOf u = 0 ∨ ∃ sign, u = .infinity sign := by
  cases u with
  | infinity sign => exact Or.inr ⟨sign, rfl⟩
  | notANumber => cases number
  | zero sign => exact Or.inl ⟨rfl, rfl⟩
  | finite sign m e positive => exact Or.inl ⟨rfl, rfl⟩

/-- The order of floats as numbers, whatever their format. -/
theorem placeOf_lt_iff {spec : Format} {u v : UnpackedFloat} (fits : Fits spec u)
    (others : Fits spec v) (number : u.isNaN = false) (numbers : v.isNaN = false) :
    placeOf spec u < placeOf spec v ↔
      wingOf u < wingOf v ∨ wingOf u = wingOf v ∧ ratOf u < ratOf v := by
  have top := topRank_pos spec
  -- among finite floats the value decides, otherwise the wings do
  rcases finite_or_infinite number with ⟨finite, wing⟩ | ⟨s, rfl⟩
  · have within := placeOf_finite fits finite
    rcases finite_or_infinite numbers with ⟨finites, wings⟩ | ⟨t, rfl⟩
    · rw [ratOf_lt_iff fits others finite finites, wing, wings]
      simp only [lt_self_iff_false, false_or, true_and]
    · rw [wing]
      cases t <;> simp only [wingOf, placeOf_infinity, Sign.apply] <;> omega
  · rcases finite_or_infinite numbers with ⟨finites, wings⟩ | ⟨t, rfl⟩
    · have within := placeOf_finite others finites
      rw [wings]
      cases s <;> simp only [wingOf, placeOf_infinity, Sign.apply] <;> omega
    · cases s <;> cases t <;>
        simp only [wingOf, ratOf, placeOf_infinity, Sign.apply, lt_self_iff_false, and_false,
          or_false] <;> omega

/-- The same float, of one format and of another. -/
inductive Agrees : UnpackedFloat → UnpackedFloat → Prop
  | infinity (sign : Sign) : Agrees (.infinity sign) (.infinity sign)
  | zero (sign : Sign) : Agrees (.zero sign) (.zero sign)
  | notANumber : Agrees .notANumber .notANumber
  | finite (sign : Sign) {m n : ℕ} {e f : ℤ} (positive : 0 < m) (other : 0 < n)
      (same : (m : ℚ) * 2 ^ e = n * 2 ^ f) :
      Agrees (.finite sign m e positive) (.finite sign n f other)

namespace Agrees

variable {u v : UnpackedFloat}

theorem ratOf_eq (agrees : Agrees u v) : ratOf u = ratOf v := by
  cases agrees with
  | infinity sign => rfl
  | zero sign => rfl
  | notANumber => rfl
  | finite sign positive other same =>
    cases sign
    · rw [ratOf_negative, ratOf_negative, same]
    · rw [ratOf_positive, ratOf_positive, same]

theorem wingOf_eq (agrees : Agrees u v) : wingOf u = wingOf v := by
  cases agrees <;> rfl

theorem isNaN_eq (agrees : Agrees u v) : u.isNaN = v.isNaN := by
  cases agrees <;> rfl

theorem isFinite_eq (agrees : Agrees u v) : u.isFinite = v.isFinite := by
  cases agrees <;> rfl

theorem isInf_eq (agrees : Agrees u v) : u.isInf = v.isInf := by
  cases agrees <;> rfl

theorem eq_zero_iff (agrees : Agrees u v) {sign : Sign} : u = .zero sign ↔ v = .zero sign := by
  cases agrees <;> simp

end Agrees

/-- Rounding to a format agrees with a number that the format has. -/
theorem round_agrees {spec : Format} {sign : Sign} {m c : ℕ} {e j : ℤ} (positive : 0 < m)
    (filled : 0 < c) (canonical : Canonical spec c j) (same : (m : ℚ) * 2 ^ e = c * 2 ^ j) :
    UnpackedFloat.round spec sign m e = .finite sign c j filled := by
  obtain ⟨n, f, other, rounded, kept, value⟩ :=
    round_exact spec sign positive canonical.bounded canonical.least same
  obtain ⟨rfl, rfl⟩ := eq_of_value kept canonical (value.trans same)
  exact rounded

theorem widen_agrees (pattern : UInt32) :
    Agrees (Float32.ofBits pattern).toModel.unpack (widen pattern).toModel.unpack := by
  have fits := fits_single pattern
  unfold widen
  cases unpacked : (Float32.ofBits pattern).toModel.unpack with
  | infinity sign =>
    rw [unpack_ofModel (.infinity sign) trivial]
    exact .infinity sign
  | notANumber =>
    rw [unpack_ofModel .notANumber trivial]
    exact .notANumber
  | zero sign =>
    rw [unpack_ofModel (.zero sign) trivial]
    exact .zero sign
  | finite sign m e positive =>
    rw [unpacked] at fits
    have bounded := fits.1.bounded
    have least := fits.1.least
    have below := (rankOf_lt_topRank_iff fits.1).mp fits.2
    obtain ⟨n, f, other, rounded, value⟩ := unpack_rounded sign positive
      (bounded.trans (by decide)) (le_trans (by decide) least) rfl
      (below.trans (pow_lt_pow_right₀ one_lt_two (by decide)))
    dsimp only
    rw [rounded]
    exact .finite sign positive other value.symm

theorem isNaN_widen (pattern : UInt32) :
    (widen pattern).isNaN = (Float32.ofBits pattern).isNaN :=
  (widen_agrees pattern).isNaN_eq.symm

theorem isFinite_widen (pattern : UInt32) :
    (widen pattern).isFinite = (Float32.ofBits pattern).isFinite :=
  (widen_agrees pattern).isFinite_eq.symm

/-- Widening keeps the order of the singles. -/
theorem widen_lt_iff {p q : UInt32} (number : (Float32.ofBits p).isNaN = false)
    (numbers : (Float32.ofBits q).isNaN = false) :
    widen p < widen q ↔ Float32.ofBits p < Float32.ofBits q := by
  have first := widen_agrees p
  have second := widen_agrees q
  have wide : (widen p).isNaN = false := (isNaN_widen p).trans number
  have wides : (widen q).isNaN = false := (isNaN_widen q).trans numbers
  rw [double_lt_iff wide wides, single_lt_iff number numbers,
    placeOf_lt_iff (fits_double _) (fits_double _) wide wides,
    placeOf_lt_iff (fits_single _) (fits_single _) number numbers, first.ratOf_eq, second.ratOf_eq,
    first.wingOf_eq, second.wingOf_eq]

/-- What a float becomes at the precision of singles. -/
def singleOf : UnpackedFloat → UnpackedFloat
  | .finite sign mantissa exponent _ => .round .binary32 sign mantissa exponent
  | special => special

theorem narrow_eq (x : Float) :
    narrow x = UInt32.ofBitVec (pack .binary32 (singleOf x.toModel.unpack)) := by
  unfold narrow singleOf
  cases x.toModel.unpack <;> rfl

theorem unpack_narrow {x : Float} (fits : Fits .binary32 (singleOf x.toModel.unpack)) :
    (Float32.ofBits (narrow x)).toModel.unpack = singleOf x.toModel.unpack := by
  rw [unpack_single, narrow_eq]
  exact unpack_pack (by decide) fits

theorem eq_of_unpack_single {p q : UInt32} (number : (Float32.ofBits p).isNaN = false)
    (same : (Float32.ofBits p).toModel.unpack = (Float32.ofBits q).toModel.unpack) : p = q := by
  have numbers : (Float32.ofBits q).isNaN = false := by
    rw [← number]
    exact congrArg UnpackedFloat.isNaN same.symm
  rw [← UInt32.toNat_inj, toNat_single number, toNat_single numbers, same]

theorem singleOf_of_agrees {u v : UnpackedFloat} (fits : Fits .binary32 u) (agrees : Agrees u v) :
    singleOf v = u := by
  cases agrees with
  | infinity sign => rfl
  | zero sign => rfl
  | notANumber => rfl
  | finite sign positive other same => exact round_agrees other positive fits.1 same.symm

/-- Narrowing brings back the single that was widened. -/
theorem narrow_widen {pattern : UInt32} (number : (Float32.ofBits pattern).isNaN = false) :
    narrow (widen pattern) = pattern := by
  have same := singleOf_of_agrees (fits_single pattern) (widen_agrees pattern)
  refine (eq_of_unpack_single number ?_).symm
  rw [unpack_narrow (by rw [same]; exact fits_single pattern), same]

end Facets.Number
