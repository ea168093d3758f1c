import Facets.Proofs.Number.Floats
import Facets.Proofs.Number.Key

/-!
The order of the sortable forms. Flipping the bits below a set sign bit turns a word into its place
in the format, with one place inserted for negative zero, so the forms are ordered as the numbers
are, negative zero coming before positive zero.
-/

namespace Facets.Number

open Float.Model (Format UnpackedFloat)
open Float.Model.UnpackedFloat

/-- The place of a float once negative zero has one of its own. -/
def codeOf (spec : Format) (u : UnpackedFloat) : ℤ :=
  match signOf u with
  | .positive => distanceOf spec u
  | .negative => -distanceOf spec u - 1

theorem distanceOf_eq_zero (spec : Format) (u : UnpackedFloat) :
    distanceOf spec u = 0 ↔ u = .zero (signOf u) := by
  have top := topRank_pos spec
  cases u with
  | zero sign => exact iff_of_true rfl rfl
  | infinity sign => exact iff_of_false top.ne' (fun same => by cases same)
  | notANumber => exact iff_of_false (Nat.lt_add_right _ top).ne' (fun same => by cases same)
  | finite sign m e positive =>
    exact iff_of_false (rankOf_pos spec e positive).ne' (fun same => by cases same)

theorem codeOf_lt_iff {spec : Format} {u v : UnpackedFloat} :
    codeOf spec u < codeOf spec v ↔ placeOf spec u < placeOf spec v ∨
      u = .zero .negative ∧ v = .zero .positive := by
  have first := distanceOf_eq_zero spec u
  have second := distanceOf_eq_zero spec v
  have negative : u = .zero .negative → signOf u = .negative := by rintro rfl; rfl
  have positive : v = .zero .positive → signOf v = .positive := by rintro rfl; rfl
  unfold codeOf placeOf
  cases left : signOf u <;> cases right : signOf v <;>
    simp only [left, right, Sign.apply, reduceCtorEq, imp_false] at first second negative positive ⊢
  · simp only [positive, and_false, or_false]
    omega
  · rw [← first, ← second]
    omega
  · simp only [negative, false_and, or_false]
    omega
  · simp only [negative, false_and, or_false]

theorem two_pow_add_xor {w n : ℕ} (below : n < 2 ^ w) :
    (2 ^ w + n) ^^^ (2 ^ w - 1) = 2 ^ w + (2 ^ w - 1 - n) := by
  refine Nat.eq_of_testBit_eq fun i => ?_
  have flipped : 2 ^ w - 1 - n = 2 ^ w - (n + 1) := by omega
  rw [Nat.testBit_xor, Nat.testBit_two_pow_sub_one, flipped]
  rcases lt_trichotomy i w with low | rfl | high
  · rw [Nat.testBit_two_pow_add_gt low, Nat.testBit_two_pow_add_gt low,
      Nat.testBit_two_pow_sub_succ below]
    simp [low]
  · rw [Nat.testBit_two_pow_add_eq, Nat.testBit_two_pow_add_eq, Nat.testBit_two_pow_sub_succ below,
      Nat.testBit_lt_two_pow below]
    simp
  · have short : 2 ^ w + 2 ^ w ≤ 2 ^ i := by
      rw [← two_mul, ← pow_succ']
      exact Nat.pow_le_pow_right Nat.two_pos high
    rw [Nat.testBit_lt_two_pow (by omega), Nat.testBit_lt_two_pow (by omega)]
    simp [high.le]

/-- What flipping the bits below a set sign bit makes of a word, read as a signed number. -/
theorem signed_flipped {w n m : ℕ} (bound : n < 2 * 2 ^ w)
    (flipped : m = if 2 ^ w ≤ n then n ^^^ (2 ^ w - 1) else n) :
    (if m < 2 ^ w then (m : ℤ) else m - 2 * 2 ^ w) =
      if n < 2 ^ w then (n : ℤ) else -(n - 2 ^ w) - 1 := by
  subst flipped
  by_cases high : 2 ^ w ≤ n
  · obtain ⟨low, rfl⟩ := Nat.exists_eq_add_of_le high
    rw [if_pos high, two_pow_add_xor (by omega), if_neg (by omega), if_neg (by omega)]
    push_cast [show low ≤ 2 ^ w - 1 by omega, Nat.one_le_two_pow (n := w)]
    ring
  · rw [if_neg high, if_pos (not_le.mp high), if_pos (not_le.mp high)]

theorem toInt_toInt64 (word : UInt64) : word.toInt64.toInt =
    if word.toNat < 2 ^ 63 then (word.toNat : ℤ) else word.toNat - 2 * 2 ^ 63 := by
  change word.toBitVec.toInt = _
  rw [BitVec.toInt_eq_toNat_cond]
  change (if 2 * word.toNat < 2 ^ 64 then (word.toNat : ℤ) else word.toNat - (2 ^ 64 : ℕ)) = _
  split <;> split <;> omega

theorem toInt_toInt32 (word : UInt32) : word.toInt32.toInt =
    if word.toNat < 2 ^ 31 then (word.toNat : ℤ) else word.toNat - 2 * 2 ^ 31 := by
  change word.toBitVec.toInt = _
  rw [BitVec.toInt_eq_toNat_cond]
  change (if 2 * word.toNat < 2 ^ 32 then (word.toNat : ℤ) else word.toNat - (2 ^ 32 : ℕ)) = _
  split <;> split <;> omega

theorem toNat_flipNegative64 (word : UInt64) : (flipNegative64 word).toNat =
    if 2 ^ 63 ≤ word.toNat then word.toNat ^^^ (2 ^ 63 - 1) else word.toNat := by
  have bound := word.toNat_lt
  have signed : word >>> 63 = 1 ↔ 2 ^ 63 ≤ word.toNat := by
    rw [← UInt64.toNat_inj, UInt64.toNat_shiftRight, Nat.shiftRight_eq_div_pow]
    change word.toNat / 2 ^ 63 = 1 ↔ _
    omega
  rw [flipNegative64, apply_ite UInt64.toNat, UInt64.toNat_xor]
  exact if_congr signed rfl rfl

theorem toNat_flipNegative32 (word : UInt32) : (flipNegative32 word).toNat =
    if 2 ^ 31 ≤ word.toNat then word.toNat ^^^ (2 ^ 31 - 1) else word.toNat := by
  have bound := word.toNat_lt
  have signed : word >>> 31 = 1 ↔ 2 ^ 31 ≤ word.toNat := by
    rw [← UInt32.toNat_inj, UInt32.toNat_shiftRight, Nat.shiftRight_eq_div_pow]
    change word.toNat / 2 ^ 31 = 1 ↔ _
    omega
  rw [flipNegative32, apply_ite UInt32.toNat, UInt32.toNat_xor]
  exact if_congr signed rfl rfl

theorem toInt_sortable64 (bits : UInt64) : (sortable64 bits).toInt =
    if bits.toNat < 2 ^ 63 then (bits.toNat : ℤ) else -(bits.toNat - 2 ^ 63) - 1 := by
  rw [sortable64, toInt_toInt64]
  exact signed_flipped bits.toNat_lt (toNat_flipNegative64 bits)

theorem toInt_sortable32 (bits : UInt32) : (sortable32 bits).toInt =
    if bits.toNat < 2 ^ 31 then (bits.toNat : ℤ) else -(bits.toNat - 2 ^ 31) - 1 := by
  rw [sortable32, Int32.toInt_toInt64, toInt_toInt32]
  exact signed_flipped bits.toNat_lt (toNat_flipNegative32 bits)

/-- Flipping makes the word of a float its place. -/
theorem codeOf_eq {spec : Format} {u : UnpackedFloat} {size : ℕ}
    (below : distanceOf spec u < size)
    (bits : 2 ^ (spec.mantissaBitsWithoutImplicit + spec.exponentBits) = size) :
    (if wordOf spec u < size then (wordOf spec u : ℤ) else -(wordOf spec u - size) - 1) =
      codeOf spec u := by
  unfold wordOf codeOf
  rw [bits]
  cases signOf u with
  | negative =>
    have one : Sign.negative.toBitVec.toNat = 1 := rfl
    rw [one, if_neg (by omega)]
    push_cast
    ring
  | positive =>
    have none : Sign.positive.toBitVec.toNat = 0 := rfl
    rw [none, if_pos (by omega)]
    push_cast
    ring

theorem toInt_encode64 (x : Float) : (encode64 x).toInt = codeOf .binary64 x.toModel.unpack := by
  rw [encode64, toInt_sortable64, toNat_toBits]
  exact codeOf_eq (distanceOf_lt (fits_double x)) rfl

theorem toInt_sortable32_of_number {pattern : UInt32}
    (number : (Float32.ofBits pattern).isNaN = false) :
    (sortable32 pattern).toInt = codeOf .binary32 (Float32.ofBits pattern).toModel.unpack := by
  rw [toInt_sortable32, toNat_single number]
  exact codeOf_eq (distanceOf_lt (fits_single pattern)) rfl

theorem codeOf_lt_notANumber {spec : Format} {u : UnpackedFloat} (fits : Fits spec u)
    (number : u.isNaN = false) : codeOf spec u < codeOf spec .notANumber := by
  have beyond := Nat.two_pow_pos (spec.mantissaBitsWithoutImplicit - 1)
  have within := distanceOf_le fits number
  have nan : codeOf spec .notANumber =
    topRank spec + (2 ^ (spec.mantissaBitsWithoutImplicit - 1) : ℕ) := rfl
  rw [nan]
  unfold codeOf
  split <;> omega

/-- The order in which exact values are listed: as numbers, negative zero before positive zero, and
NaN after everything else. -/
def Precedes (x y : Float) : Prop :=
  x < y ∨ x = -0.0 ∧ y = 0.0 ∨ x.isNaN = false ∧ y.isNaN = true

theorem eq_negativeZero_iff (x : Float) : x = -0.0 ↔ x.toModel.unpack = .zero .negative :=
  ⟨fun same => same ▸ rfl, fun same => eq_of_unpack same⟩

theorem eq_positiveZero_iff (x : Float) : x = 0.0 ↔ x.toModel.unpack = .zero .positive :=
  ⟨fun same => same ▸ rfl, fun same => eq_of_unpack same⟩

/-- Sortable forms are ordered as the values they stand for. -/
theorem encode64_lt_iff (x y : Float) : encode64 x < encode64 y ↔ Precedes x y := by
  rw [Int64.lt_iff_toInt_lt, toInt_encode64, toInt_encode64]
  have zeros : x = -0.0 → x.isNaN = false := by rintro rfl; rfl
  unfold Precedes
  cases left : x.isNaN
  · cases right : y.isNaN
    · rw [codeOf_lt_iff, ← double_lt_iff left right, ← eq_negativeZero_iff, ← eq_positiveZero_iff]
      simp only [Bool.false_eq_true, and_false, or_false]
    · have nan : y.toModel.unpack = .notANumber := (isNaN_iff _).mp right
      rw [nan]
      exact iff_of_true (codeOf_lt_notANumber (fits_double x) left) (Or.inr (Or.inr ⟨rfl, rfl⟩))
  -- nothing comes after NaN, in the numeric order or in that of the forms
  · have nan : x.toModel.unpack = .notANumber := (isNaN_iff _).mp left
    have unordered : ¬x < y := by
      rw [double_lt_iff_lt, lt_of_isNaN (Or.inl left)]
      exact Bool.false_ne_true
    refine iff_of_false ?_ ?_
    · rw [nan]
      cases right : y.isNaN
      · exact (codeOf_lt_notANumber (fits_double y) right).not_gt
      · rw [(isNaN_iff y.toModel.unpack).mp right]
        exact lt_irrefl _
    · rintro (less | ⟨zero, -⟩ | ⟨number, -⟩)
      · exact unordered less
      · exact Bool.false_ne_true ((zeros zero).symm.trans left)
      · cases number

theorem unsortable64_sortable64 (bits : UInt64) : unsortable64 (sortable64 bits) = bits := by
  rw [unsortable64, sortable64, UInt64.toUInt64_toInt64, flipNegative64_flipNegative64]

theorem sortable64_unsortable64 (code : Int64) : sortable64 (unsortable64 code) = code := by
  rw [unsortable64, sortable64, flipNegative64_flipNegative64, Int64.toInt64_toUInt64]

theorem decode_encode64 (x : Float) : NumberKind.double.decode (encode64 x) = x := by
  rw [NumberKind.decode, NumberKind.decodeBits, encode64, unsortable64_sortable64, ofBits_toBits]

end Facets.Number

namespace Facets.ValueKey

open Number

theorem value_ofValue (x : Float) : (ofValue x).value = x := by
  rw [value, bits, code_ofValue]
  exact decode_encode64 x

/-- Keys are ordered as the values they stand for. -/
theorem ofValue_lt_iff (x y : Float) : ofValue x < ofValue y ↔ Precedes x y := by
  rw [lt_iff, code_ofValue, code_ofValue, ← Int64.lt_iff_toInt_lt]
  exact encode64_lt_iff x y

/-- A key keeps nothing of the bits but the value. -/
theorem ofBits_eq (bits : UInt64) : ofBits bits = ofValue (Float.ofBits bits) := by
  cases nan : (Float.ofBits bits).isNaN with
  | true => rw [ofValue, toBits_of_isNaN nan, ofBits, isNaN64_eq, nan]; rfl
  | false => rw [ofValue, toBits_ofBits nan]

end Facets.ValueKey
