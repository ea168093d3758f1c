import Facets.Number.Kind
import Facets.Proofs.Number.Packed
import Facets.Proofs.Number.Rounding

/-!
Floats by their places. Doubles and singles are the words of two formats, so whatever holds of the
places of a format holds of them: floats of one place and sign are equal, and the others compare as
their places do.
-/

namespace Facets.Number

open Float.Model (Format UnpackedFloat)
open Float.Model.UnpackedFloat

theorem lt_iff_placeOf {spec : Format} {u v : UnpackedFloat} (fits : Fits spec u)
    (others : Fits spec v) (number : u.isNaN = false) (numbers : v.isNaN = false) :
    u.lt v ↔ placeOf spec u < placeOf spec v := by
  have compared := compare_eq fits others (by rintro rfl; cases number) (by rintro rfl; cases numbers)
  rw [UnpackedFloat.lt, compared, ← compare_lt_iff_lt]
  cases compare (placeOf spec u) (placeOf spec v) <;> decide

theorem isNaN_iff (u : UnpackedFloat) : u.isNaN = true ↔ u = .notANumber := by
  cases u <;> simp [UnpackedFloat.isNaN]

theorem lt_of_isNaN {u v : UnpackedFloat} (nan : u.isNaN = true ∨ v.isNaN = true) : u.lt v = false := by
  rw [isNaN_iff, isNaN_iff] at nan
  rcases nan with rfl | rfl
  · rfl
  · cases u <;> rfl

section Double

theorem fits_double (x : Float) : Fits .binary64 x.toModel.unpack := fits_unpack _

theorem unpack_ofModel (u : UnpackedFloat) (fits : Fits .binary64 u) :
    (Float.ofModel (.pack u)).toModel.unpack = u :=
  unpack_pack (by decide) fits

/-- A number with few enough significant bits is a double, whatever exponent it is given with. -/
theorem unpack_rounded (sign : Sign) {m c : ℕ} {e j : ℤ} (positive : 0 < m)
    (bounded : c < 2 ^ 53) (least : -1074 ≤ j) (same : (m : ℚ) * 2 ^ e = c * 2 ^ j)
    (within : (m : ℚ) * 2 ^ e < 2 ^ 1024) :
    ∃ n f, ∃ filled : 0 < n,
      (Float.ofModel (.pack (.round .binary64 sign m e))).toModel.unpack = .finite sign n f filled ∧
        (n : ℚ) * 2 ^ f = m * 2 ^ e := by
  obtain ⟨n, f, filled, rounded, canonical, value⟩ :=
    round_exact .binary64 sign positive (bounded.trans_eq (by decide)) least same
  have fits : Fits .binary64 (.finite sign n f filled) := by
    refine ⟨canonical, ?_⟩
    rw [rankOf_lt_topRank_iff canonical, value]
    exact within
  refine ⟨n, f, filled, ?_, value⟩
  rw [rounded, unpack_ofModel _ fits]

theorem ofModel_pack_unpack (x : Float) : Float.ofModel (.pack x.toModel.unpack) = x := by
  obtain ⟨⟨bits, valid⟩⟩ := x
  have same : UInt64.ofBitVec (pack .binary64 (UnpackedFloat.unpack .binary64 bits.toBitVec)) = bits := by
    rw [pack_unpack (by decide) valid]
  simp only [Float.Model.pack, Float.Model.unpack, same]

theorem eq_of_unpack {x y : Float} (same : x.toModel.unpack = y.toModel.unpack) : x = y := by
  rw [← ofModel_pack_unpack x, same, ofModel_pack_unpack]

theorem ofBits_toBits (x : Float) : Float.ofBits x.toBits = x := ofModel_pack_unpack x

theorem unpack_ofBits (bits : UInt64) :
    (Float.ofBits bits).toModel.unpack = UnpackedFloat.unpack .binary64 bits.toBitVec :=
  unpack_pack (by decide) (fits_unpack _)

theorem toBits_ofBits {bits : UInt64} (number : (Float.ofBits bits).isNaN = false) :
    (Float.ofBits bits).toBits = bits := by
  have valid : Format.binary64.Valid bits.toBitVec := by
    refine valid_of_number fun nan => ?_
    rw [← unpack_ofBits] at nan
    simp [Float.isNaN, Float.Model.isNaN, nan, UnpackedFloat.isNaN] at number
  exact congrArg UInt64.ofBitVec (pack_unpack (by decide) valid)

theorem toNat_toBits (x : Float) : x.toBits.toNat = wordOf .binary64 x.toModel.unpack :=
  toNat_eq_wordOf x.toModel.valid

theorem toBits_of_isNaN {x : Float} (nan : x.isNaN = true) : x.toBits = nan64 := by
  have unpacked : x.toModel.unpack = .notANumber := (isNaN_iff _).mp nan
  rw [← UInt64.toNat_inj, toNat_toBits, unpacked]
  rfl

theorem isNaN64_eq (bits : UInt64) : isNaN64 bits = (Float.ofBits bits).isNaN := by
  have beyond : (bits &&& 0x7fffffffffffffff).toNat = bits.toNat % 2 ^ 63 :=
    (UInt64.toNat_and _ _).trans (Nat.and_two_pow_sub_one_eq_mod _ 63)
  rw [Bool.eq_iff_iff, isNaN64, decide_eq_true_iff, UInt64.lt_iff_toNat_lt, beyond]
  change _ ↔ (Float.ofBits bits).toModel.unpack.isNaN = true
  rw [isNaN_iff, unpack_ofBits, unpack_eq_notANumber_iff]
  rfl

theorem double_lt_iff_lt (x y : Float) : x < y ↔ x.toModel.unpack.lt y.toModel.unpack = true :=
  decide_eq_true_iff

theorem double_lt_iff {x y : Float} (number : x.isNaN = false) (numbers : y.isNaN = false) :
    x < y ↔ placeOf .binary64 x.toModel.unpack < placeOf .binary64 y.toModel.unpack :=
  (double_lt_iff_lt x y).trans (lt_iff_placeOf (fits_double x) (fits_double y) number numbers)

theorem isNaN_of_isFinite {u : UnpackedFloat} (finite : u.isFinite = true) : u.isNaN = false := by
  cases u <;> first | rfl | cases finite

/-- Finite doubles are ordered as their exact values are. -/
theorem double_lt_iff_toRat {x y : Float} (finite : x.isFinite = true) (finites : y.isFinite = true) :
    x < y ↔ toRat x < toRat y := by
  rw [double_lt_iff (isNaN_of_isFinite finite) (isNaN_of_isFinite finites), toRat_eq, toRat_eq,
    ratOf_lt_iff (fits_double x) (fits_double y) finite finites]

end Double

section Single

theorem unpack_single (pattern : UInt32) : (Float32.ofBits pattern).toModel.unpack =
    UnpackedFloat.unpack .binary32 pattern.toBitVec :=
  unpack_pack (by decide) (fits_unpack _)

theorem fits_single (pattern : UInt32) :
    Fits .binary32 (Float32.ofBits pattern).toModel.unpack := fits_unpack _

theorem eq_of_unpack_float32 {x y : Float32} (same : x.toModel.unpack = y.toModel.unpack) :
    x = y := by
  obtain ⟨⟨bits, valid⟩⟩ := x
  obtain ⟨⟨others, alike⟩⟩ := y
  have words : bits.toBitVec = others.toBitVec := by
    rw [← pack_unpack (by decide) valid, ← pack_unpack (by decide) alike]
    exact congrArg (pack .binary32) same
  have patterns : bits = others := UInt32.toBitVec_inj.mp words
  subst patterns
  rfl

theorem toNat_single {pattern : UInt32} (number : (Float32.ofBits pattern).isNaN = false) :
    pattern.toNat = wordOf .binary32 (Float32.ofBits pattern).toModel.unpack := by
  have valid : Format.binary32.Valid pattern.toBitVec := by
    refine valid_of_number fun nan => ?_
    rw [← unpack_single] at nan
    simp [Float32.isNaN, Float32.Model.isNaN, nan, UnpackedFloat.isNaN] at number
  rw [unpack_single]
  exact toNat_eq_wordOf valid

theorem single_lt_iff {p q : UInt32} (number : (Float32.ofBits p).isNaN = false)
    (numbers : (Float32.ofBits q).isNaN = false) :
    Float32.ofBits p < Float32.ofBits q ↔
      placeOf .binary32 (Float32.ofBits p).toModel.unpack <
        placeOf .binary32 (Float32.ofBits q).toModel.unpack :=
  decide_eq_true_iff.trans (lt_iff_placeOf (fits_single p) (fits_single q) number numbers)

end Single

end Facets.Number

namespace Facets.NumberKind

open Number

theorem decode_integer (raw : Int64) : NumberKind.integer.decode raw = ofInt raw.toInt :=
  ofBits_toBits _

theorem decode_single (raw : Int64) : NumberKind.single.decode raw = widen (unsortable32 raw) :=
  ofBits_toBits _

theorem encode_integer (x : Float) : NumberKind.integer.encode x = toInt64 truncate x := by
  rw [encode, encodeBits, ofBits_toBits]

theorem encode_single (x : Float) : NumberKind.single.encode x = sortable32 (narrow x) := by
  rw [encode, encodeBits, ofBits_toBits]

end Facets.NumberKind
