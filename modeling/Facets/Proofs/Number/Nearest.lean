import Facets.Proofs.Number.Single

/-!
Narrowing takes the nearest single. The rounded mantissa is the nearest one at its exponent, and a
number of the format with a smaller exponent lies too far off to be nearer. A number that would be
rounded to the power of two after the last single becomes infinity.
-/

namespace Facets.Number

open Float.Model (Format UnpackedFloat)
open Float.Model.UnpackedFloat

theorem Rounds.nearest {x : ℚ} {q : ℕ} (rounds : Rounds x q) (n : ℕ) :
    |x - q| ≤ |x - n| ∧ (|x - q| = |x - n| → n = q ∨ Even q) := by
  have near := rounds.near
  by_cases same : n = q
  · rw [same]
    exact ⟨le_rfl, fun _ => Or.inl rfl⟩
  · have apart : (1 : ℚ) ≤ |(n : ℚ) - q| := by
      have distinct : (n : ℤ) - q ≠ 0 := by omega
      exact_mod_cast Int.one_le_abs distinct
    have around : |(n : ℚ) - q| ≤ |x - q| + |x - n| := by
      rw [abs_sub_comm x n, add_comm]
      exact abs_sub_le _ _ _
    refine ⟨by linarith, fun tie => Or.inr (rounds.tie ?_)⟩
    linarith

theorem abs_mul_sub_mul {scale : ℚ} (positive : 0 < scale) (x y : ℚ) :
    |x * scale - y * scale| = |x - y| * scale := by
  rw [← sub_mul, abs_mul, abs_of_pos positive]

theorem mul_zpow_eq (x : ℚ) (e k : ℤ) : x * 2 ^ e = x * 2 ^ (e - k) * 2 ^ k := by
  rw [mul_assoc, ← zpow_add₀ two_ne_zero, sub_add_cancel]

section Format

variable (spec : Format) {m : ℕ} {e : ℤ} {q : ℕ}

/-- No number of the format is nearer than the rounded one, and of two equally near ones it is the
one with an even mantissa. -/
theorem rounded_nearest (positive : 0 < m)
    (rounds : Rounds (m * 2 ^ (e - keptExponent spec m e)) q) {c : ℕ} {j : ℤ}
    (bounded : c < 2 * 2 ^ spec.mantissaBitsWithoutImplicit) (least : spec.minExponent ≤ j) :
    |(m : ℚ) * 2 ^ e - q * 2 ^ keptExponent spec m e| ≤ |(m : ℚ) * 2 ^ e - c * 2 ^ j| ∧
      (|(m : ℚ) * 2 ^ e - q * 2 ^ keptExponent spec m e| = |(m : ℚ) * 2 ^ e - c * 2 ^ j| →
        (c : ℚ) * 2 ^ j = q * 2 ^ keptExponent spec m e ∨ Even q) := by
  have scale : (0 : ℚ) < 2 ^ keptExponent spec m e := by positivity
  rw [mul_zpow_eq m e (keptExponent spec m e), mul_zpow_eq c j (keptExponent spec m e),
    abs_mul_sub_mul scale, abs_mul_sub_mul scale, mul_le_mul_iff_left₀ scale,
    mul_left_inj' scale.ne', mul_left_inj' scale.ne']
  by_cases kept : keptExponent spec m e ≤ j
  · rw [scaled_whole c kept, Nat.cast_inj]
    exact rounds.nearest _
  -- a number with a smaller exponent lies below the power of two that the rounded one may not pass
  · have filled := le_kept spec positive (least.trans_lt (not_le.mp kept))
    have below := scaled_lt spec bounded (not_le.mp kept)
    have whole := (rounds.nearest (2 ^ spec.mantissaBitsWithoutImplicit)).1
    rw [Nat.cast_pow, Nat.cast_ofNat, abs_of_nonneg (a := _ - (2 : ℚ) ^ _) (by linarith)] at whole
    rw [abs_of_pos (a := _ - (c : ℚ) * _) (by linarith)]
    exact ⟨by linarith, fun tie => by linarith⟩

theorem two_mul_zpow_le {j k : ℤ} (less : j < k) : 2 * (2 : ℚ) ^ j ≤ 2 ^ k := by
  rw [← zpow_one_add₀ two_ne_zero]
  exact zpow_le_zpow_right₀ one_le_two (by omega)

/-- At the last exponent a mantissa is rounded up to one bit more from a half below that. -/
theorem Rounds.carries_iff {x : ℚ} {b : ℕ} (rounds : Rounds x q) :
    2 * (b : ℚ) ≤ q ↔ 2 * (b : ℚ) - 1 / 2 ≤ x := by
  have near := abs_le.mp rounds.near
  constructor
  · intro carried
    linarith
  · intro close
    by_contra! short
    have least : ((2 * b : ℕ) : ℚ) ≤ (q + 1 : ℕ) := by
      push_cast
      linarith
    have less : q < 2 * b := by exact_mod_cast short
    have last : q + 1 = 2 * b := le_antisymm less (Nat.cast_le.mp least)
    have cast : (q : ℚ) + 1 = 2 * b := by exact_mod_cast last
    have even := Nat.even_iff.mp (rounds.tie (le_antisymm rounds.near (by
      rw [abs_of_nonneg] <;> linarith)))
    omega

/-- The rounded number leaves the format from half a step below its end. -/
theorem rounded_overflows (wide : 0 < spec.exponentBias) (positive : 0 < m)
    (rounds : Rounds (m * 2 ^ (e - keptExponent spec m e)) q) :
    (2 : ℚ) ^ (spec.exponentBias + 1) ≤ q * 2 ^ keptExponent spec m e ↔
      (2 : ℚ) ^ (spec.exponentBias + 1) -
        2 ^ (spec.exponentBias - spec.mantissaBitsWithoutImplicit - 1 : ℤ) ≤ m * 2 ^ e := by
  have least := minExponent_eq spec
  have below := kept_lt spec m e
  have most : q ≤ 2 * 2 ^ spec.mantissaBitsWithoutImplicit := rounds.le (by exact_mod_cast below.le)
  have bound : (q : ℚ) ≤ 2 * 2 ^ spec.mantissaBitsWithoutImplicit := by exact_mod_cast most
  have filled := le_kept spec (e := e) positive
  obtain ⟨last, lastEq⟩ : ∃ last : ℤ, last = spec.exponentBias - spec.mantissaBitsWithoutImplicit :=
    ⟨_, rfl⟩
  have full : (1 : ℚ) ≤ 2 ^ spec.mantissaBitsWithoutImplicit := one_le_pow₀ one_le_two
  have step : (0 : ℚ) < 2 ^ last := by positivity
  have scale : (0 : ℚ) < 2 ^ keptExponent spec m e := by positivity
  have stop : (2 : ℚ) ^ (spec.exponentBias + 1) =
      2 * 2 ^ spec.mantissaBitsWithoutImplicit * 2 ^ last := by
    rw [← zpow_natCast, ← zpow_natCast, ← zpow_one_add₀ two_ne_zero, ← zpow_add₀ two_ne_zero, lastEq]
    congr 1
    push_cast
    ring
  rw [mul_zpow_eq m e (keptExponent spec m e), stop, ← lastEq, zpow_sub_one₀ two_ne_zero]
  rcases lt_trichotomy (keptExponent spec m e) last with short | same | long
  · have halves := two_mul_zpow_le short
    have small : 2 * (2 : ℚ) ^ spec.mantissaBitsWithoutImplicit * 2 ^ keptExponent spec m e ≤
        2 ^ spec.mantissaBitsWithoutImplicit * 2 ^ last := by
      rw [mul_comm 2, mul_assoc]
      gcongr
    have unit : (2 : ℚ) ^ last ≤ 2 ^ spec.mantissaBitsWithoutImplicit * 2 ^ last :=
      le_mul_of_one_le_left step.le full
    have rounded := mul_le_mul_of_nonneg_right bound scale.le
    have value := mul_lt_mul_of_pos_right below scale
    exact iff_of_false (by linarith) (by linarith)
  · have carries := rounds.carries_iff (b := 2 ^ spec.mantissaBitsWithoutImplicit)
    rw [same] at carries ⊢
    push_cast at carries
    rw [mul_le_mul_iff_left₀ step, carries, ← mul_le_mul_iff_left₀ step]
    ring_nf
  · have doubles := two_mul_zpow_le long
    have above := filled (by omega)
    have rounded : (2 : ℚ) ^ spec.mantissaBitsWithoutImplicit ≤ q := by
      exact_mod_cast rounds.ge (by exact_mod_cast above)
    have large : 2 * (2 : ℚ) ^ spec.mantissaBitsWithoutImplicit * 2 ^ last ≤
        2 ^ spec.mantissaBitsWithoutImplicit * 2 ^ keptExponent spec m e := by
      rw [mul_comm 2, mul_assoc]
      gcongr
    have first := mul_le_mul_of_nonneg_right rounded scale.le
    have second := mul_le_mul_of_nonneg_right above scale.le
    exact iff_of_true (by linarith) (by linarith)

end Format

/-- A pattern is the single nearest to a float: infinite from half a step below the power of two
after the last single, else as near as any single, and with an even mantissa if another is as near. -/
structure RoundsToSingle (x : Float) (pattern : UInt32) : Prop where
  number : (widen pattern).isNaN = false
  sign : pattern.toNat / 2 ^ 31 = x.toBits.toNat / 2 ^ 63
  overflow : (widen pattern).isInf = true ↔ x.isInf = true ∨ 2 ^ 128 - 2 ^ 103 ≤ |toRat x|
  nearest : x.isFinite = true → (widen pattern).isFinite = true →
    ∀ other, (widen other).isFinite = true →
      |toRat x - toRat (widen pattern)| ≤ |toRat x - toRat (widen other)| ∧
        (|toRat x - toRat (widen pattern)| = |toRat x - toRat (widen other)| →
          toRat (widen other) = toRat (widen pattern) ∨ Even pattern.toNat)

theorem ratOf_nonneg_or_nonpos {u : UnpackedFloat} :
    signOf u = .positive ∧ 0 ≤ ratOf u ∨ signOf u = .negative ∧ ratOf u ≤ 0 := by
  cases u with
  | infinity sign => cases sign <;> simp [signOf, ratOf]
  | notANumber => exact Or.inl ⟨rfl, le_rfl⟩
  | zero sign => cases sign <;> simp [signOf, ratOf]
  | finite sign m e positive =>
    have size : (0 : ℚ) ≤ m * 2 ^ e := by positivity
    cases sign
    · rw [ratOf_negative]
      exact Or.inr ⟨rfl, neg_nonpos.mpr size⟩
    · rw [ratOf_positive]
      exact Or.inl ⟨rfl, size⟩

theorem abs_sub_of_signs {u v : UnpackedFloat} (signs : signOf u = signOf v) :
    |ratOf u - ratOf v| = |(|ratOf u| - |ratOf v|)| := by
  rcases ratOf_nonneg_or_nonpos (u := u) with ⟨sign, above⟩ | ⟨sign, below⟩ <;>
    rcases ratOf_nonneg_or_nonpos (u := v) with ⟨other, greater⟩ | ⟨other, under⟩
  · rw [abs_of_nonneg above, abs_of_nonneg greater]
  · rw [sign, other] at signs
    cases signs
  · rw [sign, other] at signs
    cases signs
  · rw [abs_of_nonpos below, abs_of_nonpos under, neg_sub_neg, abs_sub_comm]

/-- The size of a finite number of a format. -/
theorem exists_size {spec : Format} {u : UnpackedFloat} (fits : Fits spec u) (finite : u.isFinite) :
    ∃ (c : ℕ) (j : ℤ), c < 2 * 2 ^ spec.mantissaBitsWithoutImplicit ∧ spec.minExponent ≤ j ∧
      |ratOf u| = c * 2 ^ j := by
  cases u with
  | infinity sign => cases finite
  | notANumber => cases finite
  | zero sign =>
    have none : |ratOf (.zero sign)| = ((0 : ℕ) : ℚ) * 2 ^ spec.minExponent := by simp [ratOf]
    exact ⟨0, spec.minExponent, by positivity, le_rfl, none⟩
  | finite sign m e positive =>
    exact ⟨m, e, fits.1.bounded, fits.1.least, abs_ratOf_finite positive⟩

/-- What narrowing makes of a finite number that is not zero. -/
theorem narrow_cases {x : Float} {sign : Sign} {m : ℕ} {e : ℤ} {positive : 0 < m}
    (unpacked : x.toModel.unpack = .finite sign m e positive) :
    ∃ q, Rounds (m * 2 ^ (e - keptExponent .binary32 m e)) q ∧
      (2 ^ 128 ≤ (q : ℚ) * 2 ^ keptExponent .binary32 m e ∧
          (Float32.ofBits (narrow x)).toModel.unpack = .infinity sign ∨
        ∃ w, (Float32.ofBits (narrow x)).toModel.unpack = w ∧ w.isFinite ∧ signOf w = sign ∧
          |ratOf w| = q * 2 ^ keptExponent .binary32 m e ∧ |ratOf w| < 2 ^ 128 ∧
          (Even q → Even (distanceOf .binary32 w))) := by
  obtain ⟨q, rounds, outcome⟩ := round_cases .binary32 sign positive e
  refine ⟨q, rounds, ?_⟩
  have single : singleOf x.toModel.unpack = UnpackedFloat.round .binary32 sign m e := by
    rw [unpacked]
    rfl
  rcases outcome with ⟨rfl, zero⟩ | ⟨n, f, filled, rounded, canonical, value, even⟩
  · have fits : Fits .binary32 (singleOf x.toModel.unpack) := by
      rw [single, zero]
      trivial
    rw [unpack_narrow fits, single, zero]
    exact Or.inr ⟨_, rfl, rfl, rfl, by simp [ratOf], by simp [ratOf], fun _ => Even.zero⟩
  · by_cases overflow : topRank .binary32 ≤ rankOf .binary32 n f
    · have beyond := mt (rankOf_lt_topRank_iff canonical).mpr overflow.not_gt
      rw [value, not_lt] at beyond
      refine Or.inl ⟨beyond, ?_⟩
      rw [unpack_single, narrow_eq, single, rounded]
      exact unpack_pack_overflow (by decide) filled canonical overflow
    · have below := not_le.mp overflow
      have fits : Fits .binary32 (singleOf x.toModel.unpack) := by
        rw [single, rounded]
        exact ⟨canonical, below⟩
      rw [unpack_narrow fits, single, rounded]
      have size : |ratOf (.finite sign n f filled)| = n * 2 ^ f := abs_ratOf_finite filled
      refine Or.inr ⟨_, rfl, rfl, rfl, size.trans value, ?_, fun half => ?_⟩
      · rw [size]
        exact (rankOf_lt_topRank_iff canonical).mp below
      · have step : Even (2 ^ Format.binary32.mantissaBitsWithoutImplicit) := by decide
        exact (step.mul_left _).add (even half)

theorem wordOf_div {spec : Format} {u : UnpackedFloat} (fits : Fits spec u) :
    wordOf spec u / 2 ^ (spec.mantissaBitsWithoutImplicit + spec.exponentBits) =
      (signOf u).toBitVec.toNat := by
  have below := distanceOf_lt fits
  rw [wordOf, Nat.add_comm, Nat.add_mul_div_right _ _ (Nat.two_pow_pos _), Nat.div_eq_of_lt below,
    Nat.zero_add]

theorem toRat_widen (pattern : UInt32) :
    toRat (widen pattern) = ratOf (Float32.ofBits pattern).toModel.unpack := by
  rw [toRat_eq, (widen_agrees pattern).ratOf_eq]

theorem isInf_widen (pattern : UInt32) :
    (widen pattern).isInf = (Float32.ofBits pattern).toModel.unpack.isInf :=
  (widen_agrees pattern).isInf_eq.symm

theorem narrow_special {x : Float} {u : UnpackedFloat} (unpacked : x.toModel.unpack = u)
    (single : singleOf u = u) (fits : Fits .binary32 u) :
    (Float32.ofBits (narrow x)).toModel.unpack = u := by
  have same : singleOf x.toModel.unpack = u := by rw [unpacked, single]
  rw [unpack_narrow (by rw [same]; exact fits), same]

/-- Of numbers as far from a number as its rounding is, the one of the same size is the rounding. -/
theorem eq_of_abs_eq {x y z : ℚ} (nonzero : x ≠ 0) (sizes : |z| = |y|) (tie : |x - y| = |x - z|) :
    z = y := by
  rcases abs_eq_abs.mp sizes with same | opposite
  · exact same
  · rw [opposite, sub_neg_eq_add] at tie
    rcases abs_eq_abs.mp tie with equal | equal
    · linarith
    · exact absurd (by linarith) nonzero

theorem nearest_of_sizes {u w v : UnpackedFloat} {even : Prop} (nonzero : ratOf u ≠ 0)
    (signs : signOf u = signOf w)
    (sizes : |(|ratOf u| - |ratOf w|)| ≤ |(|ratOf u| - |ratOf v|)| ∧
      (|(|ratOf u| - |ratOf w|)| = |(|ratOf u| - |ratOf v|)| → |ratOf v| = |ratOf w| ∨ even)) :
    |ratOf u - ratOf w| ≤ |ratOf u - ratOf v| ∧
      (|ratOf u - ratOf w| = |ratOf u - ratOf v| → ratOf v = ratOf w ∨ even) := by
  have direct := abs_sub_of_signs signs
  have most := abs_abs_sub_abs_le (ratOf u) (ratOf v)
  refine ⟨direct.trans_le (sizes.1.trans most), fun tie => ?_⟩
  have sized := sizes.2 (le_antisymm sizes.1 (by rw [← direct, tie]; exact most))
  exact sized.imp_left fun same => eq_of_abs_eq nonzero same tie

theorem single_overflows {m q : ℕ} {e : ℤ} (positive : 0 < m)
    (rounds : Rounds (m * 2 ^ (e - keptExponent .binary32 m e)) q) :
    (2 : ℚ) ^ 128 ≤ q * 2 ^ keptExponent .binary32 m e ↔
      (2 : ℚ) ^ 128 - 2 ^ 103 ≤ m * 2 ^ e :=
  rounded_overflows .binary32 (by decide) positive rounds

theorem narrow_keeps {x : Float} {w : UnpackedFloat}
    (single : (Float32.ofBits (narrow x)).toModel.unpack = w) (number : w.isNaN = false)
    (signs : signOf w = signOf x.toModel.unpack) :
    (widen (narrow x)).isNaN = false ∧ (narrow x).toNat / 2 ^ 31 = x.toBits.toNat / 2 ^ 63 := by
  have real : (Float32.ofBits (narrow x)).isNaN = false := by
    rw [← number, ← single]
    rfl
  refine ⟨(isNaN_widen _).trans real, ?_⟩
  rw [toNat_single real, toNat_toBits]
  refine (wordOf_div (fits_single _)).trans (Eq.trans ?_ (wordOf_div (fits_double x)).symm)
  rw [single, signs]

section Finite

variable {x : Float} {sign : Sign} {m q : ℕ} {e : ℤ} {positive : 0 < m}
  (unpacked : x.toModel.unpack = .finite sign m e positive)
  (rounds : Rounds (m * 2 ^ (e - keptExponent .binary32 m e)) q)

include unpacked

theorem abs_toRat_of_finite : |toRat x| = m * 2 ^ e := by
  rw [toRat_eq, unpacked, abs_ratOf_finite]

theorem toRat_ne_zero : toRat x ≠ 0 := by
  rw [← abs_pos, abs_toRat_of_finite unpacked]
  positivity

include rounds

/-- A finite number that is narrowed to infinity was too large for a single. -/
theorem infinite_rounds (single : (Float32.ofBits (narrow x)).toModel.unpack = .infinity sign)
    (beyond : 2 ^ 128 ≤ (q : ℚ) * 2 ^ keptExponent .binary32 m e) : RoundsToSingle x (narrow x) := by
  obtain ⟨real, same⟩ := narrow_keeps single rfl (by rw [unpacked]; rfl)
  refine ⟨real, same, ?_, fun _ finite => ?_⟩
  · rw [isInf_widen, single, abs_toRat_of_finite unpacked]
    exact iff_of_true rfl (Or.inr ((single_overflows positive rounds).mp beyond))
  · have unbounded : (widen (narrow x)).isFinite = false :=
      (isFinite_widen _).trans (congrArg UnpackedFloat.isFinite single)
    exact absurd (unbounded.symm.trans finite) Bool.false_ne_true

/-- Elsewhere a finite number is narrowed to the nearest single. -/
theorem finite_rounds {w : UnpackedFloat}
    (single : (Float32.ofBits (narrow x)).toModel.unpack = w) (finite : w.isFinite = true)
    (signs : signOf w = sign) (rounded : |ratOf w| = q * 2 ^ keptExponent .binary32 m e)
    (within : |ratOf w| < 2 ^ 128) (even : Even q → Even (distanceOf .binary32 w)) :
    RoundsToSingle x (narrow x) := by
  have size := abs_toRat_of_finite unpacked
  have nonzero := toRat_ne_zero unpacked
  have short : w.isInf = false := by cases w <;> first | rfl | cases finite
  have bounded : x.isInf = false := congrArg UnpackedFloat.isInf unpacked
  have start : signOf x.toModel.unpack = signOf w := by rw [unpacked, signs]; rfl
  obtain ⟨real, same⟩ := narrow_keeps single (isNaN_of_isFinite finite) start.symm
  refine ⟨real, same, ?_, fun _ _ other finites => ?_⟩
  · rw [isInf_widen, single, short, bounded, size, ← single_overflows positive rounds, ← rounded]
    exact iff_of_false Bool.false_ne_true (not_or.mpr ⟨Bool.false_ne_true, within.not_ge⟩)
  · have bounds : (Float32.ofBits other).toModel.unpack.isFinite = true :=
      (isFinite_widen other).symm.trans finites
    obtain ⟨c, j, most, least, spread⟩ := exists_size (fits_single other) bounds
    have nearest := rounded_nearest .binary32 positive rounds most least
    have parity : Even q → Even (narrow x).toNat := by
      intro half
      rw [toNat_single ((isNaN_widen _).symm.trans real), single]
      have step : Even (2 ^ (Format.binary32.mantissaBitsWithoutImplicit +
        Format.binary32.exponentBits)) := by decide
      exact (step.mul_left _).add (even half)
    rw [toRat_widen, single, toRat_widen other]
    rw [toRat_eq] at nonzero size ⊢
    refine nearest_of_sizes nonzero start ?_
    rw [size, rounded, spread]
    exact ⟨nearest.1, fun tie => (nearest.2 tie).imp_right parity⟩

end Finite

/-- Narrowing takes the nearest single, and keeps the sign. -/
theorem narrow_rounds {x : Float} (number : x.isNaN = false) : RoundsToSingle x (narrow x) := by
  have value := toRat_eq x
  cases unpacked : x.toModel.unpack with
  | notANumber =>
    have nan : x.isNaN = true := (isNaN_iff _).mpr unpacked
    exact absurd (number.symm.trans nan) Bool.false_ne_true
  | infinity sign =>
    have single := narrow_special unpacked rfl trivial
    have infinite : x.isInf = true := congrArg UnpackedFloat.isInf unpacked
    have unbounded : x.isFinite = false := congrArg UnpackedFloat.isFinite unpacked
    obtain ⟨real, same⟩ := narrow_keeps single rfl (by rw [unpacked])
    refine ⟨real, same, ?_, fun finite => ?_⟩
    · rw [isInf_widen, single]
      exact iff_of_true rfl (Or.inl infinite)
    · exact absurd (unbounded.symm.trans finite) Bool.false_ne_true
  | zero sign =>
    have single := narrow_special unpacked rfl trivial
    have bounded : x.isInf = false := congrArg UnpackedFloat.isInf unpacked
    have none : toRat x = 0 := by
      rw [value, unpacked]
      rfl
    have still : toRat (widen (narrow x)) = 0 := by
      rw [toRat_widen, single]
      rfl
    obtain ⟨real, same⟩ := narrow_keeps single rfl (by rw [unpacked])
    refine ⟨real, same, ?_, fun _ _ other _ => ?_⟩
    · rw [isInf_widen, single, bounded, none]
      exact iff_of_false Bool.false_ne_true (by norm_num)
    · rw [none, still, sub_zero, abs_zero, zero_sub, abs_neg]
      exact ⟨abs_nonneg _, fun tie => Or.inl (abs_eq_zero.mp tie.symm)⟩
  | finite sign m e positive =>
    obtain ⟨q, rounds, ⟨beyond, single⟩ | ⟨w, single, finite, signs, rounded, within, even⟩⟩ :=
      narrow_cases unpacked
    · exact infinite_rounds unpacked rounds single beyond
    · exact finite_rounds unpacked rounds single finite signs rounded within even

end Facets.Number
