import Facets.Proofs.Number.Arithmetic

/-!
Decimals as doubles: digits with a decimal exponent are read as the nearest double.
-/

namespace Facets.Number

open Float.Model (Format UnpackedFloat)
open Float.Model.UnpackedFloat

/-- No finite double is nearer to a rational than its rounded form. -/
theorem RoundsTo.nearest {q : ℚ} {x other : Float} (rounds : RoundsTo q x)
    (finite : x.isFinite = true) (finites : other.isFinite = true) :
    |q - toRat x| ≤ |q - toRat other| := by
  rw [rounds.toRat_eq finite]
  exact abs_sub_rounded_le_abs_sub (onGrid_toRat finites)

/-- A number is not rounded to the same double as its half. -/
theorem RoundsTo.ne_of_le_half {n : ℕ} {q : ℚ} {x y : Float} (first : RoundsTo q x)
    (second : RoundsTo n y) (positive : 0 < n) (small : n ≤ 2 ^ 52) (le : q ≤ n / 2) : x ≠ y := by
  rintro rfl
  have whole : rounded n = n := rounded_eq_self (onGrid_natCast (by omega))
  have grid : OnGrid ((n : ℚ) / 2) := by
    have half := onGrid_mul_step (n := n) (k := -1) (by omega) (by omega)
    rwa [Int.cast_natCast, zpow_neg_one, ← div_eq_mul_inv] at half
  have size : (0 : ℚ) < n := by exact_mod_cast positive
  have bound : (n : ℚ) < lineEnd := by
    refine lt_of_le_of_lt ?_ (two_pow_lt_lineEnd (n := 52) (by decide))
    exact_mod_cast small
  have halved := clamped_mono (grid.rounded_le le)
  rw [← first.line, second.line, whole, clamped_of_abs_le, clamped_of_abs_le] at halved
  · linarith
  · rw [abs_of_pos (by linarith)]
    linarith
  · rw [abs_of_pos size]
    exact bound.le

variable {digits : ℕ}

theorem ofDecimal_zero (exponent : ℤ) : ofDecimal 0 exponent = .ofModel (.pack (.zero .positive)) := rfl

/-- Digits without decimals. -/
theorem roundsTo_ofScientific_whole (positive : 0 < digits) :
    RoundsTo digits (.ofModel (.pack (ofScientific .binary64 digits 0))) := by
  have limit : (2 : ℤ) ^ Format.binary64.exponentBits = 2048 := rfl
  have shifted : 0 < digits <<< 53 := by
    rw [Nat.shiftLeft_eq]
    positivity
  have wide : 2 ^ 52 ≤ digits <<< 53 * 10 ^ 0 := by
    rw [Nat.shiftLeft_eq]
    omega
  have value : ((digits <<< 53 : ℕ) : ℚ) * 2 ^ (-53 : ℤ) * ((10 ^ 0 : ℕ) * 2 ^ (0 : ℤ)) = digits := by
    rw [Nat.shiftLeft_eq, zpow_zero, mul_one, pow_zero, Nat.cast_one, mul_one, Nat.cast_mul,
      mul_assoc, zpow_neg]
    norm_num
  have product := roundsTo_product .positive .positive shifted (by decide)
    (le_stepExponent_of_wide wide (-53 + 0))
  rw [ratOf_positive, ratOf_positive, value] at product
  rw [ofScientific, dif_neg positive.ne', if_neg (by omega), if_neg (by omega), if_pos le_rfl]
  exact product

/-- Digits that reach behind the decimal mark. -/
theorem roundsTo_ofScientific_fraction (positive : 0 < digits) {places : ℕ} (some : 0 < places)
    (few : places ≤ 2048) :
    RoundsTo (digits / 10 ^ places) (.ofModel (.pack (ofScientific .binary64 digits (-places)))) := by
  have limit : (2 : ℤ) ^ Format.binary64.exponentBits = 2048 := rfl
  have tens : 0 < 10 ^ places := by positivity
  have value : (digits : ℚ) * 2 ^ (0 : ℤ) / ((10 ^ places : ℕ) * 2 ^ (0 : ℤ)) =
      digits / 10 ^ places := by
    rw [zpow_zero, mul_one, mul_one]
    push_cast
    rfl
  have quotient := roundsTo_pack_div (u := .finite .positive digits 0 positive)
    (v := .finite .positive (10 ^ places) 0 tens) rfl rfl (by
      rw [ratOf_positive]
      positivity)
  rw [ratOf_positive, ratOf_positive, value] at quotient
  rw [ofScientific, dif_neg positive.ne', if_neg (by omega), if_neg (by omega),
    if_neg (by omega)]
  simp only [neg_neg, Int.toNat_natCast]
  exact quotient

/-- Digits with a decimal mark among them are read as the nearest double. -/
theorem roundsTo_ofDecimal (digits : ℕ) {places : ℕ} (few : places ≤ 2048) :
    RoundsTo (digits / 10 ^ places) (ofDecimal digits (-places)) := by
  have read : ofDecimal digits (-places) =
    .ofModel (.pack (ofScientific .binary64 digits (-places))) := rfl
  rw [read]
  rcases Nat.eq_zero_or_pos digits with rfl | positive
  · rw [Nat.cast_zero, zero_div]
    exact roundsTo_zero .positive
  rcases Nat.eq_zero_or_pos places with rfl | some
  · rw [pow_zero, div_one]
    exact roundsTo_ofScientific_whole positive
  · exact roundsTo_ofScientific_fraction positive some few

/-- Such digits are never read with a negative sign. -/
theorem signOf_ofDecimal (digits : ℕ) {places : ℕ} (few : places ≤ 2048) :
    signOf (ofDecimal digits (-places)).toModel.unpack = .positive := by
  rcases Nat.eq_zero_or_pos digits with rfl | positive
  · have unpacked : (ofDecimal 0 (-places)).toModel.unpack = .zero .positive :=
      unpack_ofModel _ trivial
    rw [unpacked]
    rfl
  · exact (roundsTo_ofDecimal digits few).signOf_eq (by positivity)

end Facets.Number
