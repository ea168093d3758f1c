import Facets.Proofs.Number.Nearest

/-!
Whole numbers among the doubles. An integer with few enough significant bits is a double, and reading
a double as an integer takes it back.
-/

namespace Facets.Number

open Float.Model (Format UnpackedFloat)
open Float.Model.UnpackedFloat

/-- An integer with no more significant bits than a mantissa has. -/
def IsDouble (n : ℤ) : Prop := ∃ c j : ℕ, n.natAbs = c * 2 ^ j ∧ c < 2 ^ 53

theorem isDouble_of_le {n : ℤ} (bounded : n.natAbs ≤ 2 ^ 53) : IsDouble n := by
  rcases bounded.lt_or_eq with less | last
  · exact ⟨n.natAbs, 0, (Nat.mul_one _).symm, less⟩
  · exact ⟨1, 53, last.trans (Nat.one_mul _).symm, by decide⟩

/-- An integer becomes a double by its sign and its size. -/
theorem ofInt_eq_round {n : ℤ} (nonzero : n ≠ 0) : ∃ sign : Sign, sign.apply n.natAbs = n ∧
    ofInt n = .ofModel (.pack (.round .binary64 sign n.natAbs 0)) := by
  have normalized : ofInt n = .ofModel (.pack (UnpackedFloat.normalize .binary64 n 0 .positive)) :=
    rfl
  rw [normalized]
  unfold UnpackedFloat.normalize
  rcases lt_or_gt_of_ne nonzero with negative | positive
  · have size : (-n).toNat = n.natAbs := by omega
    rw [compare_lt_iff_lt.mpr negative, ← size]
    refine ⟨.negative, ?_, rfl⟩
    simp only [Sign.apply]
    omega
  · have size : n.toNat = n.natAbs := by omega
    rw [compare_gt_iff_gt.mpr positive, ← size]
    refine ⟨.positive, ?_, rfl⟩
    simp only [Sign.apply]
    omega

theorem ratOf_of_size {sign : Sign} {m c : ℕ} {e : ℤ} {positive : 0 < m}
    (size : (m : ℚ) * 2 ^ e = c) :
    ratOf (.finite sign m e positive) = ((sign.apply c : ℤ) : ℚ) := by
  cases sign
  · rw [ratOf_negative, size]
    exact (Int.cast_neg _).symm
  · rw [ratOf_positive, size]
    rfl

/-- Such an integer is a double itself. -/
theorem toRat_ofInt {n : ℤ} (held : IsDouble n) (within : n.natAbs ≤ 2 ^ 63) :
    toRat (ofInt n) = n ∧ (ofInt n).isFinite = true := by
  obtain ⟨c, j, size, bounded⟩ := held
  by_cases zero : n = 0
  · rw [zero]
    exact ⟨rfl, rfl⟩
  have value : (n.natAbs : ℚ) * 2 ^ (0 : ℤ) = c * 2 ^ (j : ℤ) := by
    rw [zpow_zero, mul_one, zpow_natCast]
    exact_mod_cast size
  have below : (n.natAbs : ℚ) * 2 ^ (0 : ℤ) < 2 ^ 1024 := by
    rw [zpow_zero, mul_one]
    have most : (n.natAbs : ℚ) ≤ 2 ^ 63 := by exact_mod_cast within
    exact most.trans_lt (pow_lt_pow_right₀ one_lt_two (by decide))
  obtain ⟨sign, signed, rounded⟩ := ofInt_eq_round zero
  obtain ⟨m, f, filled, unpacked, kept⟩ :=
    unpack_rounded sign (by omega) bounded (by omega) value below
  rw [zpow_zero, mul_one] at kept
  change _ ∧ (ofInt n).toModel.unpack.isFinite = true
  rw [toRat_eq, rounded, unpacked, ratOf_of_size kept, signed]
  exact ⟨rfl, rfl⟩

/-- An integer with more bits is rounded to another integer. -/
theorem exists_whole_ofInt {n : ℤ} (within : n.natAbs ≤ 2 ^ 63) :
    (ofInt n).isFinite = true ∧ ∃ k : ℤ, toRat (ofInt n) = k := by
  by_cases held : IsDouble n
  · obtain ⟨value, finite⟩ := toRat_ofInt held within
    exact ⟨finite, n, value⟩
  have large : 2 ^ 53 < n.natAbs := by
    by_contra! small
    exact held (isDouble_of_le small)
  have bits : 53 ≤ n.natAbs.log2 := (Nat.le_log2 (by omega)).mpr large.le
  -- so many bits leave no room for a fraction
  have whole : 0 ≤ keptExponent .binary64 n.natAbs 0 := by
    refine le_trans ?_ (le_max_left _ _)
    unfold Float.Model.totalExponent
    have wide : (Format.binary64.mantissaBits : ℤ) = 53 := rfl
    omega
  obtain ⟨sign, -, rounded⟩ := ofInt_eq_round (n := n) (by omega)
  obtain ⟨q, rounds, outcome⟩ := round_cases .binary64 sign (m := n.natAbs) (by omega) 0
  have far : (n.natAbs : ℚ) * 2 ^ (0 : ℤ) < 2 ^ (Format.binary64.exponentBias + 1) -
      2 ^ (Format.binary64.exponentBias - Format.binary64.mantissaBitsWithoutImplicit - 1 : ℤ) := by
    have most : (n.natAbs : ℚ) ≤ 2 ^ 63 := by exact_mod_cast within
    have small : (2 : ℚ) ^ 63 < 2 ^ Format.binary64.exponentBias :=
      pow_lt_pow_right₀ one_lt_two (by decide)
    have half : (2 : ℚ) ^ (Format.binary64.exponentBias -
        Format.binary64.mantissaBitsWithoutImplicit - 1 : ℤ) ≤ 2 ^ (Format.binary64.exponentBias : ℤ) :=
      zpow_le_zpow_right₀ one_le_two (by omega)
    rw [zpow_natCast] at half
    rw [zpow_zero, mul_one, pow_succ]
    linarith
  change (ofInt n).toModel.unpack.isFinite = true ∧ _
  rw [toRat_eq, rounded]
  rcases outcome with ⟨-, zero⟩ | ⟨m, f, filled, settled, canonical, value, -⟩
  · rw [zero, unpack_ofModel (.zero sign) trivial]
    exact ⟨rfl, 0, rfl⟩
  · have size : (m : ℚ) * 2 ^ f = (q * 2 ^ (keptExponent .binary64 n.natAbs 0).toNat : ℕ) := by
      have scaled := scaled_whole q whole
      rw [sub_zero] at scaled
      rw [value, scaled]
    have fits : Fits .binary64 (.finite sign m f filled) := by
      refine ⟨canonical, ?_⟩
      rw [rankOf_lt_topRank_iff canonical, value]
      exact not_le.mp fun beyond => far.not_ge ((rounded_overflows _ (by decide) (by omega) rounds).mp beyond)
    rw [settled, unpack_ofModel _ fits, ratOf_of_size size]
    exact ⟨rfl, _, rfl⟩

/-- Truncation goes towards zero. -/
theorem truncate_eq (q : ℚ) : truncate q = if 0 ≤ q then ⌊q⌋ else ⌈q⌉ := by
  unfold truncate
  split
  · rename_i above
    rw [Int.tdiv_eq_ediv_of_nonneg (Rat.num_nonneg.mpr above), Rat.floor_def']
  · rename_i below
    have numerator : 0 ≤ -q.num := Int.neg_nonneg.mpr (Rat.num_nonpos.mpr (not_le.mp below).le)
    rw [Rat.ceil_def', ← Int.tdiv_eq_ediv_of_nonneg numerator, Int.neg_tdiv, neg_neg]

theorem truncate_intCast (n : ℤ) : truncate n = n := by
  rw [truncate_eq, Int.floor_intCast, Int.ceil_intCast, ite_self]

theorem natAbs_truncate (q : ℚ) : (truncate q).natAbs = ⌊|q|⌋₊ := by
  rw [truncate_eq]
  split
  · rename_i above
    have whole := Int.floor_nonneg.mpr above
    rw [abs_of_nonneg above, ← Int.floor_toNat]
    omega
  · rename_i below
    have whole := Int.ceil_nonpos.mpr (not_le.mp below).le
    rw [abs_of_neg (not_le.mp below), ← Int.floor_toNat, Int.floor_neg]
    omega

theorem roundHalfAway_intCast (n : ℤ) : roundHalfAway n = n := by
  have up : ⌊(n : ℚ) + 1 / 2⌋ = n := Int.floor_eq_iff.mpr ⟨by linarith, by linarith⟩
  have down : ⌊(1 : ℚ) / 2 - n⌋ = -n :=
    Int.floor_eq_iff.mpr ⟨by push_cast; linarith, by push_cast; linarith⟩
  unfold roundHalfAway
  split
  · exact up
  · exact (congrArg Neg.neg down).trans (neg_neg n)

/-- The whole part of a double is a double. -/
theorem isDouble_truncate (x : Float) : IsDouble (truncate (toRat x)) := by
  have fits := fits_double x
  unfold IsDouble
  rw [natAbs_truncate, toRat_eq]
  cases unpacked : x.toModel.unpack with
  | infinity sign => exact ⟨0, 0, by simp [ratOf], by decide⟩
  | notANumber => exact ⟨0, 0, by simp [ratOf], by decide⟩
  | zero sign => exact ⟨0, 0, by simp [ratOf], by decide⟩
  | finite sign m e positive =>
    rw [unpacked] at fits
    have bounded : m < 2 ^ 53 := fits.1.bounded.trans_eq (by decide)
    rw [abs_ratOf_finite]
    rcases le_or_gt 0 e with whole | small
    · refine ⟨m, e.toNat, ?_, bounded⟩
      have scaled := scaled_whole m whole
      rw [sub_zero] at scaled
      rw [scaled, Nat.floor_natCast]
    · have less : ⌊(m : ℚ) * 2 ^ e⌋₊ ≤ m := by
        refine Nat.floor_le_of_le ?_
        have unit : (2 : ℚ) ^ e ≤ 1 := zpow_le_one_of_nonpos₀ one_le_two small.le
        exact mul_le_of_le_one_right (Nat.cast_nonneg m) unit
      exact ⟨_, 0, (Nat.mul_one _).symm, less.trans_lt bounded⟩

theorem toInt64_of_isFinite {x : Float} (finite : x.isFinite = true) (toInt : ℚ → ℤ) :
    toInt64 toInt x = Int64.ofIntClamp (toInt (toRat x)) := by
  have bounded : x.toModel.unpack.isFinite = true := finite
  have value := toRat_eq x
  unfold toInt64
  cases unpacked : x.toModel.unpack with
  | infinity sign =>
    rw [unpacked] at bounded
    cases bounded
  | notANumber =>
    rw [unpacked] at bounded
    cases bounded
  | zero sign =>
    rw [unpacked] at value
    rw [value]
    rfl
  | finite sign m e positive => rfl

/-- Within the range of words a number is stored without its fraction. -/
theorem toInt_truncated {x : Float} (finite : x.isFinite = true) (within : |toRat x| < 2 ^ 63) :
    (toInt64 truncate x).toInt = truncate (toRat x) := by
  have size : (truncate (toRat x)).natAbs < 2 ^ 63 := by
    rw [natAbs_truncate, Nat.floor_lt (abs_nonneg _)]
    exact_mod_cast within
  have low : Int64.minValue.toInt = -2 ^ 63 := rfl
  have high : Int64.maxValue.toInt = 2 ^ 63 - 1 := rfl
  rw [toInt64_of_isFinite finite, Int64.toInt_ofIntClamp] <;> omega

/-- A word that some number is stored as: a double, or the end of the range. -/
def IsStored (word : Int64) : Prop := word = Int64.maxValue ∨ IsDouble word.toInt

theorem isStored_truncated (x : Float) : IsStored (toInt64 truncate x) := by
  have least : IsDouble Int64.minValue.toInt := ⟨1, 63, rfl, by decide⟩
  have whole := isDouble_truncate x
  unfold toInt64
  split
  · exact Or.inr (isDouble_of_le (by decide))
  · exact Or.inl rfl
  · exact Or.inr least
  · exact Or.inr (isDouble_of_le (by decide))
  · unfold Int64.ofIntClamp
    split
    · split
      · rw [IsStored, Int64.toInt_ofIntLE]
        exact Or.inr whole
      · exact Or.inl rfl
    · exact Or.inr least

theorem natAbs_toInt_le (word : Int64) : word.toInt.natAbs ≤ 2 ^ 63 := by
  have low := word.le_toInt
  have high := word.toInt_lt
  omega

/-- The end of the range is read as the power of two behind it. -/
theorem toRat_stored {word : Int64} (stored : IsStored word) :
    (ofInt word.toInt).isFinite = true ∧ toRat (ofInt word.toInt) =
      ((if word.toInt = 2 ^ 63 - 1 then 2 ^ 63 else word.toInt : ℤ) : ℚ) := by
  by_cases last : word.toInt = 2 ^ 63 - 1
  · rw [if_pos last, last]
    exact ⟨by decide +kernel, by decide +kernel⟩
  · have held := stored.resolve_left fun same => last (by rw [same]; rfl)
    obtain ⟨value, finite⟩ := toRat_ofInt held (natAbs_toInt_le word)
    rw [if_neg last]
    exact ⟨finite, value⟩

/-- Stored words are ordered as what is read for them. -/
theorem ofInt_lt_iff {v w : Int64} (first : IsStored v) (second : IsStored w) :
    ofInt v.toInt < ofInt w.toInt ↔ v < w := by
  obtain ⟨finite, value⟩ := toRat_stored first
  obtain ⟨finites, values⟩ := toRat_stored second
  have most := v.toInt_lt
  have bound := w.toInt_lt
  rw [double_lt_iff_toRat finite finites, value, values, Int.cast_lt, Int64.lt_iff_toInt_lt]
  split <;> split <;> omega

/-- Numbers are stored as words that are told apart when they are read. -/
theorem ofInt_word_inj {v w : Int64} (first : IsStored v) (second : IsStored w) :
    ofInt v.toInt = ofInt w.toInt ↔ v = w := by
  refine ⟨fun same => ?_, fun same => same ▸ rfl⟩
  have values := congrArg toRat same
  rw [(toRat_stored first).2, (toRat_stored second).2, Int.cast_inj] at values
  have most := v.toInt_lt
  have bound := w.toInt_lt
  rw [← Int64.toInt_inj]
  split at values <;> split at values <;> omega

/-- No word is read as negative zero. -/
theorem ofInt_ne_negativeZero {word : Int64} (stored : IsStored word) :
    ofInt word.toInt ≠ -0.0 := by
  intro zero
  have value := (toRat_stored stored).2
  have nothing : toRat (-0.0) = ((0 : ℤ) : ℚ) := by decide +kernel
  rw [zero, nothing, Int.cast_inj] at value
  have none : word.toInt = 0 := by
    split at value
    · cases value
    · exact value.symm
  rw [none] at zero
  have bits : (ofInt 0).toBits ≠ (-0.0 : Float).toBits := by decide +kernel
  exact bits (congrArg Float.toBits zero)

end Facets.Number
