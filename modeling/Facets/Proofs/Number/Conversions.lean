import Facets.Proofs.Number.Kinds
import Facets.Proofs.Number.Nearest
import Facets.Proofs.Number.Whole

/-!
What a column gives back for the numbers it was given. Doubles come back as they are, singles as the
nearest single and integers without their fraction; the stored words are ordered as the numbers that
are read for them.
-/

namespace Facets

namespace Number

/-- Words of singles are ordered as the singles are among the doubles. -/
theorem widen_precedes_iff {p q : UInt32} (number : (widen p).isNaN = false)
    (numbers : (widen q).isNaN = false) :
    Precedes (widen p) (widen q) ↔ sortable32 p < sortable32 q := by
  have single := (isNaN_widen p).symm.trans number
  have singles := (isNaN_widen q).symm.trans numbers
  have negative : widen p = -0.0 ↔ Float32.ofBits p = -0.0 := by
    rw [eq_negativeZero_iff, ← (widen_agrees p).eq_zero_iff, eq_negativeZero32_iff]
  have positive : widen q = 0.0 ↔ Float32.ofBits q = 0.0 := by
    rw [eq_positiveZero_iff, ← (widen_agrees q).eq_zero_iff, eq_positiveZero32_iff]
  rw [sortable32_lt_iff single singles, ← widen_lt_iff single singles, Precedes, negative, positive,
    numbers]
  simp only [Bool.false_eq_true, and_false, or_false]

/-- Finite numbers precede each other as their values do, the zeros apart. -/
theorem precedes_iff_lt {x y : Float} (nonzero : x ≠ -0.0) (number : y.isNaN = false) :
    Precedes x y ↔ x < y := by
  simp only [Precedes, nonzero, number, Bool.false_eq_true, false_and, and_false, or_false]

end Number

namespace NumberKind

open Number

variable {x y : Float}

/-- The number a column gives back for one it was given. -/
def converted (kind : NumberKind) (x : Float) : Float := kind.decode (kind.encode x)

/-- What a number is converted to: as a double to itself, as a single to the nearest single, and as an
integer, within the range of words, to its whole part, towards zero and never to negative zero. -/
def Converts : NumberKind → Float → Float → Prop
  | .double, x, y => y = x
  | .single, x, y => ∃ pattern, RoundsToSingle x pattern ∧ y = widen pattern
  | .integer, x, y => y.isFinite = true ∧ y ≠ -0.0 ∧ (x.isFinite = true → |toRat x| < 2 ^ 63 →
      toRat y = ((if 0 ≤ toRat x then ⌊toRat x⌋ else ⌈toRat x⌉ : ℤ) : ℚ))

theorem converted_single (x : Float) : NumberKind.single.converted x = widen (narrow x) := by
  rw [converted, encode_single, decode_single, unsortable32_sortable32]

theorem converted_double (x : Float) : NumberKind.double.converted x = x := decode_encode64 x

theorem converted_integer (x : Float) :
    NumberKind.integer.converted x = ofInt (toInt64 truncate x).toInt := by
  rw [converted, encode_integer, decode_integer]

theorem converts_converted (kind : NumberKind) (number : x.isNaN = false) :
    kind.Converts x (kind.converted x) := by
  cases kind with
  | double => exact converted_double x
  | single => exact ⟨narrow x, narrow_rounds number, converted_single x⟩
  | integer =>
    have stored := isStored_truncated x
    rw [Converts, converted_integer]
    refine ⟨(toRat_stored stored).1, ofInt_ne_negativeZero stored, fun finite within => ?_⟩
    have word : (toInt64 truncate x).toInt = truncate (toRat x) := toInt_truncated finite within
    have size : (truncate (toRat x)).natAbs ≤ 2 ^ 63 := word ▸ natAbs_toInt_le _
    rw [word, (toRat_ofInt (isDouble_truncate x) size).1, truncate_eq]

theorem isNaN_converted (kind : NumberKind) (number : x.isNaN = false) :
    (kind.converted x).isNaN = false := by
  cases kind with
  | double => rwa [converted_double]
  | single =>
    rw [converted_single]
    exact (narrow_rounds number).number
  | integer =>
    rw [converted_integer]
    exact isNaN_of_isFinite (toRat_stored (isStored_truncated x)).1

theorem stores_encode (kind : NumberKind) (x : Float) : kind.stores (kind.encode x) = true := by
  cases kind with
  | single => simp only [stores, encode_single, sortable32, Int32.toInt32_toInt64, beq_self_eq_true]
  | integer => rfl
  | double => rfl

/-- The words of a column are ordered as the numbers it gives back. -/
theorem converted_precedes_iff (kind : NumberKind) (number : x.isNaN = false)
    (numbers : y.isNaN = false) :
    Precedes (kind.converted x) (kind.converted y) ↔ kind.encode x < kind.encode y := by
  cases kind with
  | double =>
    rw [converted_double, converted_double]
    exact (encode64_lt_iff x y).symm
  | single =>
    rw [converted_single, converted_single, encode_single, encode_single]
    exact widen_precedes_iff (narrow_rounds number).number (narrow_rounds numbers).number
  | integer =>
    have nonzero : NumberKind.integer.converted x ≠ -0.0 := by
      rw [converted_integer]
      exact ofInt_ne_negativeZero (isStored_truncated x)
    rw [precedes_iff_lt nonzero (NumberKind.integer.isNaN_converted numbers), converted_integer,
      converted_integer, encode_integer, encode_integer]
    exact ofInt_lt_iff (isStored_truncated x) (isStored_truncated y)

end NumberKind

end Facets
