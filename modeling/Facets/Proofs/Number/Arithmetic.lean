import Facets.Proofs.Number.Line

/-!
Arithmetic on doubles, as rounding on the rationals: sum, difference, product and quotient of finite
doubles are the exact ones, rounded to the grid and cut off at the ends of the line.
-/

namespace Facets.Number

open Float.Model (Format UnpackedFloat totalExponent)
open Float.Model.UnpackedFloat

/-- A float is the correctly rounded form of a rational. -/
structure RoundsTo (q : ℚ) (x : Float) : Prop where
  number : x.isNaN = false
  line : lineOf x = clamped (rounded q)
  sign : q ≠ 0 → (signOf x.toModel.unpack = .negative ↔ q < 0)

section Round

variable {em : ExtendedMantissa} {x : ℚ} {e : ℤ}

theorem Rounds.roundHalfEven_eq {q : ℕ} (rounds : Rounds x q) : roundHalfEven x = q := by
  refine Number.roundHalfEven_eq (by exact_mod_cast rounds.near) fun tie => ?_
  exact_mod_cast rounds.tie (by exact_mod_cast tie)

theorem Represents.mantissa_le (represents : Represents em x) : em.mantissa ≤ x := by
  have rest := represents.nonneg
  have bit : (0 : ℚ) ≤ em.roundBit.toNat / 2 := by positivity
  unfold restOf at rest
  linarith

theorem Represents.lt_mantissa (represents : Represents em x) : x < em.mantissa + 1 := by
  have rest := represents.below
  have bit : (em.roundBit.toNat : ℚ) ≤ 1 := by exact_mod_cast Bool.toNat_le em.roundBit
  unfold restOf at rest
  linarith

theorem represents_ofMantissaAndAccuracy_exact (m : ℕ) :
    Represents (.ofMantissaAndAccuracy m .exact) m := represents_natCast m

theorem Represents.stepExponent_eq (represents : Represents em x) (filled : em.mantissa ≠ 0) (e : ℤ) :
    stepExponent (x * 2 ^ e) = Format.binary64.targetExponent (totalExponent em.mantissa e) := by
  have least : (2 : ℚ) ^ em.mantissa.log2 ≤ x :=
    le_trans (by exact_mod_cast Nat.log2_self_le filled) represents.mantissa_le
  have most : x < 2 ^ (em.mantissa.log2 + 1) :=
    represents.lt_mantissa.trans_le (by exact_mod_cast Nat.lt_log2_self (n := em.mantissa))
  have positive : 0 < x := lt_of_lt_of_le (by positivity) least
  have scaled : 0 < x * 2 ^ e := by positivity
  have low : em.mantissa.log2 + e ≤ Int.log 2 (x * 2 ^ e) := by
    refine (Int.zpow_le_iff_le_log Nat.one_lt_two scaled).mp ?_
    rw [zpow_add₀ (by norm_num), zpow_natCast]
    exact mul_le_mul_of_nonneg_right least (by positivity)
  have high : Int.log 2 (x * 2 ^ e) < (em.mantissa.log2 + 1 : ℕ) + e := by
    refine (Int.lt_zpow_iff_log_lt Nat.one_lt_two scaled).mp ?_
    rw [zpow_add₀ (by norm_num), zpow_natCast]
    exact mul_lt_mul_of_pos_right most (by positivity)
  have target : Format.binary64.targetExponent (totalExponent em.mantissa e) =
      max (em.mantissa.log2 + 1 + e - 53) (-1074) := rfl
  rw [target, stepExponent, abs_of_pos scaled]
  omega

/-- The format aims at the exponent of the step, if the exponent at hand is not above it. -/
theorem Represents.targetExponent_eq (represents : Represents em x) (positive : 0 < x)
    (fine : e ≤ stepExponent (x * 2 ^ e)) :
    Format.binary64.targetExponent (totalExponent em.mantissa e) = stepExponent (x * 2 ^ e) := by
  by_cases empty : em.mantissa = 0
  · have scaled : 0 < x * 2 ^ e := by positivity
    have small : Int.log 2 (x * 2 ^ e) < e := by
      have most := represents.lt_mantissa
      refine (Int.lt_zpow_iff_log_lt Nat.one_lt_two scaled).mp ?_
      rw [empty, Nat.cast_zero, zero_add] at most
      exact mul_lt_of_lt_one_left (by positivity) most
    have target : Format.binary64.targetExponent (totalExponent 0 e) =
        max (((0 : ℕ).log2 : ℤ) + 1 + e - 53) (-1074) := rfl
    rw [empty, target, Nat.log2_zero]
    unfold stepExponent at fine ⊢
    rw [abs_of_pos scaled] at fine ⊢
    omega
  · exact (represents.stepExponent_eq empty e).symm

theorem ofMantissaAndAccuracy_mantissa (m : ℕ) (accuracy : Accuracy) :
    (ExtendedMantissa.ofMantissaAndAccuracy m accuracy).mantissa = m := by
  rcases accuracy with _ | _ | _ | _ <;> rfl

/-- The float of a canonical mantissa stands where its exact value is cut off. -/
theorem lineOf_canonical (sign : Sign) {n : ℕ} {f : ℤ} (positive : 0 < n)
    (canonical : Canonical .binary64 n f) :
    ∃ u, (Float.ofModel (.pack (.finite sign n f positive))).toModel.unpack = u ∧
      u.isNaN = false ∧ signOf u = sign ∧ pointOf u = clamped (signed sign (n * 2 ^ f)) := by
  have size : (0 : ℚ) ≤ n * 2 ^ f := by positivity
  rcases lt_or_ge (rankOf .binary64 n f) (topRank .binary64) with within | overflow
  · refine ⟨_, unpack_ofModel _ ⟨canonical, within⟩, rfl, rfl, ?_⟩
    have bound : (n : ℚ) * 2 ^ f < lineEnd := (rankOf_lt_topRank_iff canonical).mp within
    rw [pointOf_finite, clamped_of_abs_le ((abs_signed sign size).trans_le bound.le)]
  · refine ⟨_, unpack_pack_overflow (by decide) positive canonical overflow, rfl, rfl, ?_⟩
    have bound : lineEnd ≤ n * 2 ^ f :=
      not_lt.mp ((not_congr (rankOf_lt_topRank_iff canonical)).mp overflow.not_gt)
    rw [clamped_signed, clamped_of_le bound]
    rfl

/-- A settled mantissa is the rounded form of a number with its sign. -/
theorem roundsTo_floatOf (sign : Sign) {r : ℚ} (positive : 0 < r) {q : ℕ}
    (rounds : Rounds (r / 2 ^ stepExponent r) q) :
    RoundsTo (signed sign r) (.ofModel (.pack
      (floatOf sign (shiftToTargetExponent .binary64 q (stepExponent r) .exact)))) := by
  have step : (0 : ℚ) < 2 ^ stepExponent r := by positivity
  have value : rounded r = q * 2 ^ stepExponent r := by
    rw [rounded, rounds.roundHalfEven_eq, Int.cast_natCast]
  have bounded : q ≤ 2 * 2 ^ Format.binary64.mantissaBitsWithoutImplicit := by
    refine rounds.le ((div_le_iff₀ step).mpr ?_)
    have bits := abs_lt_of_stepExponent r
    rw [abs_of_pos positive] at bits
    exact_mod_cast bits.le
  have filled (coarse : Format.binary64.minExponent < stepExponent r) :
      2 ^ Format.binary64.mantissaBitsWithoutImplicit ≤ q := by
    refine rounds.ge ((le_div_iff₀ step).mpr ?_)
    have bits := le_abs_of_stepExponent positive.ne' coarse
    rw [abs_of_pos positive] at bits
    exact_mod_cast bits
  have negative := signed_neg_iff sign positive
  rcases floatOf_cases .binary64 sign bounded (least_le_stepExponent r) filled with
    ⟨zero, settled⟩ | ⟨n, f, some, settled, canonical, same, -⟩
  · rw [settled]
    have unpacked : (Float.ofModel (.pack (.zero sign))).toModel.unpack = .zero sign :=
      unpack_ofModel _ trivial
    refine ⟨congrArg UnpackedFloat.isNaN unpacked, ?_, fun _ => ?_⟩
    · rw [lineOf, unpacked, rounded_signed, value, zero, Nat.cast_zero, zero_mul, signed_zero,
        clamped_zero]
      rfl
    · rw [unpacked, negative]
      rfl
  · rw [settled]
    obtain ⟨u, unpacked, number, same_sign, point⟩ := lineOf_canonical sign some canonical
    refine ⟨(congrArg UnpackedFloat.isNaN unpacked).trans number, ?_, fun _ => ?_⟩
    · rw [lineOf, unpacked, point, rounded_signed, value, same]
    · rw [unpacked, negative, same_sign]

/-- A mantissa with residual bits that stand for a number is rounded as the number is. -/
theorem roundsTo_roundWithAccuracy (sign : Sign) {m : ℕ} {accuracy : Accuracy}
    (represents : Represents (.ofMantissaAndAccuracy m accuracy) x) (positive : 0 < x)
    (fine : e ≤ stepExponent (x * 2 ^ e)) :
    RoundsTo (signed sign (x * 2 ^ e))
      (.ofModel (.pack (roundWithAccuracy .binary64 sign m e accuracy))) := by
  have scaled : 0 < x * 2 ^ e := by positivity
  have target := represents.targetExponent_eq positive fine
  rw [ofMantissaAndAccuracy_mantissa] at target
  have amount : ((stepExponent (x * 2 ^ e) - e).toNat : ℤ) = stepExponent (x * 2 ^ e) - e :=
    Int.toNat_of_nonneg (by omega)
  have shifted : x / 2 ^ (stepExponent (x * 2 ^ e) - e).toNat =
      x * 2 ^ e / 2 ^ stepExponent (x * 2 ^ e) := by
    rw [← zpow_natCast, amount, zpow_sub₀ two_ne_zero, div_div_eq_mul_div]
  have rounds := (represents.shiftRight (stepExponent (x * 2 ^ e) - e).toNat).rounds
  rw [shifted] at rounds
  have settled := roundsTo_floatOf sign scaled rounds
  have aimed : roundWithAccuracy .binary64 sign m e accuracy =
      floatOf sign (shiftToTargetExponent .binary64
        (ExtendedMantissa.ofMantissaAndAccuracy m accuracy >>>
          (stepExponent (x * 2 ^ e) - e).toNat).roundedMantissa
        (e + (stepExponent (x * 2 ^ e) - e).toNat) .exact) := by
    rw [← target]
    rfl
  rw [aimed, amount, add_sub_cancel]
  exact settled

end Round

section Operations

variable {m n : ℕ} {e f : ℤ} {x y : Float}

/-- A smaller exponent is made up for by the mantissa. -/
theorem decreaseExponent_value {target : ℤ} (le : target ≤ e) :
    ((decreaseExponent m e target).1 : ℚ) * 2 ^ target = m * 2 ^ e := by
  have split : (2 : ℚ) ^ e = 2 ^ (e - target).toNat * 2 ^ target := by
    rw [← zpow_natCast, Int.toNat_of_nonneg (by omega), ← zpow_add₀ two_ne_zero, sub_add_cancel]
  have shifted : (decreaseExponent m e target).1 = m * 2 ^ (e - target).toNat := Nat.shiftLeft_eq _ _
  rw [shifted, split]
  push_cast
  ring

theorem roundsTo_round (sign : Sign) (positive : 0 < m) (e : ℤ) :
    RoundsTo (signed sign (m * 2 ^ e)) (.ofModel (.pack (.round .binary64 sign m e))) := by
  have step := (represents_natCast m).stepExponent_eq positive.ne' e
  have value : ((m <<< (e - stepExponent (m * 2 ^ e)).toNat : ℕ) : ℚ) *
      2 ^ (e - (e - stepExponent (m * 2 ^ e)).toNat : ℤ) = m * 2 ^ e := by
    rw [Nat.shiftLeft_eq, zpow_sub₀ two_ne_zero, zpow_natCast]
    push_cast
    field_simp
  have filled : (0 : ℚ) < (m <<< (e - stepExponent (m * 2 ^ e)).toNat : ℕ) := by
    rw [Nat.shiftLeft_eq]
    positivity
  have kept := roundsTo_roundWithAccuracy sign (represents_ofMantissaAndAccuracy_exact _) filled
    (e := e - (e - stepExponent (m * 2 ^ e)).toNat) (by
      rw [value]
      omega)
  rw [value, step] at kept
  exact kept

theorem roundsTo_zero (sign : Sign) : RoundsTo 0 (.ofModel (.pack (.zero sign))) := by
  have unpacked : (Float.ofModel (.pack (.zero sign))).toModel.unpack = .zero sign :=
    unpack_ofModel _ trivial
  refine ⟨congrArg UnpackedFloat.isNaN unpacked, ?_, fun nonzero => absurd rfl nonzero⟩
  rw [lineOf, unpacked, rounded_zero, clamped_zero]
  rfl

theorem roundsTo_normalize (n : ℤ) (e : ℤ) (sign : Sign) :
    RoundsTo (n * 2 ^ e) (.ofModel (.pack (.normalize .binary64 n e sign))) := by
  unfold UnpackedFloat.normalize
  rcases lt_trichotomy n 0 with negative | rfl | positive
  · have size : (n : ℚ) = -((-n).toNat : ℕ) := by
      have cast : ((-n).toNat : ℤ) = -n := Int.toNat_of_nonneg (by omega)
      rw [← Int.cast_natCast, cast, Int.cast_neg, neg_neg]
    rw [compare_lt_iff_lt.mpr negative, size, neg_mul]
    exact roundsTo_round .negative (by omega) e
  · rw [compare_eq_iff_eq.mpr rfl, Int.cast_zero, zero_mul]
    exact roundsTo_zero sign
  · have size : (n : ℚ) = (n.toNat : ℕ) := by
      rw [← Int.cast_natCast, Int.toNat_of_nonneg positive.le]
    rw [compare_gt_iff_gt.mpr positive, size]
    exact roundsTo_round .positive (by omega) e

theorem roundsTo_ofInt (n : ℤ) : RoundsTo n (ofInt n) := by
  have whole := roundsTo_normalize n 0 .positive
  rw [zpow_zero, mul_one] at whole
  exact whole

theorem roundsTo_of_fits {u : UnpackedFloat} (fits : Fits .binary64 u) (finite : u.isFinite = true) :
    RoundsTo (ratOf u) (.ofModel (.pack u)) := by
  have unpacked := unpack_ofModel u fits
  refine ⟨(congrArg UnpackedFloat.isNaN unpacked).trans (isNaN_of_isFinite finite), ?_, ?_⟩
  · rw [lineOf, unpacked, pointOf_of_isFinite finite, rounded_eq_self (onGrid_ratOf fits finite),
      clamped_of_abs_le (abs_ratOf_lt fits finite).le]
  · rw [unpacked]
    rcases finite_cases finite with ⟨sign, rfl⟩ | ⟨sign, m, e, positive, rfl⟩
    · exact fun nonzero => absurd (ratOf_zero sign) nonzero
    · intro
      rw [ratOf_finite, signed_neg_iff sign (by positivity)]
      rfl

theorem roundsTo_self (finite : x.isFinite = true) : RoundsTo (toRat x) x := by
  have same := roundsTo_of_fits (fits_double x) finite
  rwa [ofModel_pack_unpack, ← toRat_eq] at same

/-- Subtraction is addition of the opposite. -/
theorem sub_eq_add_neg (spec : Format) (u v : UnpackedFloat) : sub spec u v = add spec u v.neg := by
  cases u with
  | notANumber => rfl
  | infinity s =>
    cases v <;> rfl
  | zero s =>
    cases v <;> rfl
  | finite s m e positive =>
    cases v with
    | finite t n f filled =>
      have opposite (k : ℕ) : (-t).apply k = -t.apply k := by
        cases t
        · exact (neg_neg _).symm
        · rfl
      simp only [sub, add, neg, opposite, Int.sub_eq_add_neg]
    | _ => rfl

theorem isFinite_neg (u : UnpackedFloat) : u.neg.isFinite = u.isFinite := by
  cases u <;> rfl

theorem isNaN_neg (u : UnpackedFloat) : u.neg.isNaN = u.isNaN := by
  cases u <;> rfl

theorem fits_neg {spec : Format} {u : UnpackedFloat} (fits : Fits spec u) : Fits spec u.neg := by
  cases u <;> exact fits

theorem ratOf_neg (u : UnpackedFloat) : ratOf u.neg = -ratOf u := by
  cases u with
  | finite sign m e positive =>
    rw [neg, ratOf_finite, ratOf_finite]
    cases sign
    · exact (neg_neg _).symm
    · rfl
  | _ => exact neg_zero.symm

theorem unpack_neg (x : Float) : (-x).toModel.unpack = x.toModel.unpack.neg :=
  unpack_ofModel _ (fits_neg (fits_double x))

theorem toRat_neg (x : Float) : toRat (-x) = -toRat x := by
  rw [toRat_eq, toRat_eq, unpack_neg, ratOf_neg]

theorem isFinite_opposite (x : Float) : (-x).isFinite = x.isFinite := by
  change (-x).toModel.unpack.isFinite = x.toModel.unpack.isFinite
  rw [unpack_neg, isFinite_neg]

theorem isNaN_opposite (x : Float) : (-x).isNaN = x.isNaN := by
  change (-x).toModel.unpack.isNaN = x.toModel.unpack.isNaN
  rw [unpack_neg, isNaN_neg]

theorem sum_value (s t : Sign) (m n : ℕ) (e f : ℤ) :
    (((s.apply (decreaseExponent m e (min e f)).1 + t.apply (decreaseExponent n f (min e f)).1 : ℤ)) : ℚ)
      * 2 ^ min e f = signed s (m * 2 ^ e) + signed t (n * 2 ^ f) := by
  rw [Int.cast_add, add_mul, signed_apply, signed_apply, decreaseExponent_value (min_le_left e f),
    decreaseExponent_value (min_le_right e f)]

theorem roundsTo_pack_add {u v : UnpackedFloat} (fits : Fits .binary64 u) (others : Fits .binary64 v)
    (finite : u.isFinite = true) (finites : v.isFinite = true) :
    RoundsTo (ratOf u + ratOf v) (.ofModel (.pack (.add .binary64 u v))) := by
  have first := roundsTo_of_fits fits finite
  have second := roundsTo_of_fits others finites
  rcases finite_cases finite with ⟨s, rfl⟩ | ⟨s, m, e, positive, rfl⟩ <;>
    rcases finite_cases finites with ⟨t, rfl⟩ | ⟨t, n, f, filled, rfl⟩
  · rw [ratOf_zero, ratOf_zero, add_zero]
    cases s <;> cases t <;> exact roundsTo_zero _
  · rw [ratOf_zero, zero_add]
    exact second
  · rw [ratOf_zero, add_zero]
    exact first
  · rw [ratOf_finite, ratOf_finite, ← sum_value]
    exact roundsTo_normalize _ _ _

/-- A sum is rounded once. -/
theorem roundsTo_add (finite : x.isFinite = true) (finites : y.isFinite = true) :
    RoundsTo (toRat x + toRat y) (x + y) := by
  rw [toRat_eq, toRat_eq]
  exact roundsTo_pack_add (fits_double x) (fits_double y) finite finites

/-- A difference is rounded once. -/
theorem roundsTo_sub (finite : x.isFinite = true) (finites : y.isFinite = true) :
    RoundsTo (toRat x - toRat y) (x - y) := by
  have difference : x - y = .ofModel (.pack (.add .binary64 x.toModel.unpack y.toModel.unpack.neg)) := by
    rw [← sub_eq_add_neg]
    rfl
  rw [difference, toRat_eq, toRat_eq, Rat.sub_eq_add_neg, ← ratOf_neg]
  exact roundsTo_pack_add (fits_double x) (fits_neg (fits_double y)) finite
    ((isFinite_neg _).trans finites)

theorem signed_mul (s t : Sign) (q r : ℚ) : signed (s * t) (q * r) = signed s q * signed t r := by
  cases s <;> cases t
  · exact (neg_mul_neg q r).symm
  · exact (neg_mul q r).symm
  · exact (mul_neg q r).symm
  · rfl

theorem signed_div (s t : Sign) (q r : ℚ) : signed (s / t) (q / r) = signed s q / signed t r := by
  cases s <;> cases t
  · exact (neg_div_neg_eq q r).symm
  · exact (neg_div r q).symm
  · exact (div_neg q).symm
  · rfl

/-- A mantissa that fills its bits reaches down to the step. -/
theorem le_stepExponent_of_wide {k : ℕ} (wide : 2 ^ 52 ≤ k) (e : ℤ) : e ≤ stepExponent (k * 2 ^ e) := by
  have filled : k ≠ 0 := by omega
  have bits : 52 ≤ k.log2 := (Nat.le_log2 filled).mpr wide
  have target : Format.binary64.targetExponent (totalExponent k e) =
      max (k.log2 + 1 + e - 53) (-1074) := rfl
  have step := (represents_natCast k).stepExponent_eq filled e
  rw [step, target]
  omega

/-- The product of two mantissas reaches down to the step, since one of them fills its bits unless
both exponents are the smallest. -/
theorem add_le_stepExponent (first : Canonical .binary64 m e) (second : Canonical .binary64 n f)
    (positive : 0 < m) (filled : 0 < n) : e + f ≤ stepExponent ((m * n : ℕ) * 2 ^ (e + f)) := by
  have least : -1074 ≤ stepExponent ((m * n : ℕ) * 2 ^ (e + f)) := least_le_stepExponent _
  by_cases small : e + f ≤ -1074
  · exact small.trans least
  have smallest : Format.binary64.minExponent = -1074 := rfl
  refine le_stepExponent_of_wide ?_ _
  rcases first.normal with full | exponent
  · exact full.trans (Nat.le_mul_of_pos_right m filled)
  · have full := second.normal.resolve_right fun other => small (by omega)
    exact full.trans (Nat.le_mul_of_pos_left n positive)

/-- The product of two mantissas is rounded once, if it reaches down to the step. -/
theorem roundsTo_product (s t : Sign) (positive : 0 < m) (filled : 0 < n)
    (fine : e + f ≤ stepExponent ((m * n : ℕ) * 2 ^ (e + f))) :
    RoundsTo (ratOf (.finite s m e positive) * ratOf (.finite t n f filled))
      (.ofModel (.pack (.mul .binary64 (.finite s m e positive) (.finite t n f filled)))) := by
  have both : 0 < m * n := Nat.mul_pos positive filled
  have value : ((m * n : ℕ) : ℚ) * 2 ^ (e + f) = m * 2 ^ e * (n * 2 ^ f) := by
    rw [zpow_add₀ two_ne_zero]
    push_cast
    ring
  rw [ratOf_finite, ratOf_finite, ← signed_mul, ← value]
  exact roundsTo_roundWithAccuracy _ (represents_ofMantissaAndAccuracy_exact _)
    (by exact_mod_cast both) fine

theorem roundsTo_pack_mul {u v : UnpackedFloat} (fits : Fits .binary64 u) (others : Fits .binary64 v)
    (finite : u.isFinite = true) (finites : v.isFinite = true) :
    RoundsTo (ratOf u * ratOf v) (.ofModel (.pack (.mul .binary64 u v))) := by
  rcases finite_cases finite with ⟨s, rfl⟩ | ⟨s, m, e, positive, rfl⟩ <;>
    rcases finite_cases finites with ⟨t, rfl⟩ | ⟨t, n, f, filled, rfl⟩
  · rw [ratOf_zero, zero_mul]
    exact roundsTo_zero _
  · rw [ratOf_zero, zero_mul]
    exact roundsTo_zero _
  · rw [ratOf_zero, mul_zero]
    exact roundsTo_zero _
  · exact roundsTo_product s t positive filled
      (add_le_stepExponent fits.1 others.1 positive filled)

/-- A product is rounded once. -/
theorem roundsTo_mul (finite : x.isFinite = true) (finites : y.isFinite = true) :
    RoundsTo (toRat x * toRat y) (x * y) := by
  rw [toRat_eq, toRat_eq]
  exact roundsTo_pack_mul (fits_double x) (fits_double y) finite finites

theorem represents_fraction (m : ℕ) (filled : 0 < n) :
    Represents (.ofMantissaAndAccuracy (m / n) (accuracyOfFraction (m % n) n)) ((m : ℚ) / n) := by
  have divisor : (0 : ℚ) < n := by exact_mod_cast filled
  have less : ((m % n : ℕ) : ℚ) < n := by exact_mod_cast Nat.mod_lt m filled
  have parts : (m : ℚ) / n = (m / n : ℕ) + (m % n : ℕ) / n := by
    rw [eq_comm, add_div_eq_mul_add_div _ _ divisor.ne', mul_comm]
    exact_mod_cast congrArg (fun k : ℕ => (k : ℚ) / n) (Nat.div_add_mod m n)
  unfold accuracyOfFraction
  by_cases exact : m % n = 0
  · rw [if_pos exact, parts, exact, Nat.cast_zero, zero_div, add_zero]
    exact represents_natCast _
  · have rest : (0 : ℚ) < (m % n : ℕ) := by exact_mod_cast Nat.pos_of_ne_zero exact
    have some : (0 : ℚ) < (m % n : ℕ) / n := div_pos rest divisor
    have below : ((m % n : ℕ) : ℚ) / n < 1 := (div_lt_one divisor).mpr less
    rw [if_neg exact]
    rcases lt_trichotomy (2 * (m % n)) n with short | half | long
    · have bound : ((m % n : ℕ) : ℚ) / n < 1 / 2 := by
        rw [div_lt_div_iff₀ divisor two_pos, one_mul, mul_comm]
        exact_mod_cast short
      rw [compare_lt_iff_lt.mpr short]
      constructor <;> simp [restOf, ExtendedMantissa.ofMantissaAndAccuracy, parts] <;> linarith
    · have bound : ((m % n : ℕ) : ℚ) / n = 1 / 2 := by
        rw [div_eq_div_iff divisor.ne' two_ne_zero, one_mul, mul_comm]
        exact_mod_cast half
      rw [compare_eq_iff_eq.mpr half]
      constructor <;> simp [restOf, ExtendedMantissa.ofMantissaAndAccuracy, parts] <;> linarith
    · have bound : 1 / 2 < ((m % n : ℕ) : ℚ) / n := by
        rw [div_lt_div_iff₀ two_pos divisor, one_mul, mul_comm]
        exact_mod_cast long
      rw [compare_gt_iff_gt.mpr long]
      constructor <;> simp [restOf, ExtendedMantissa.ofMantissaAndAccuracy, parts] <;> linarith

/-- The exponent of the quotient is low enough for the step. -/
theorem targetExponent_le_stepExponent (positive : 0 < m) (filled : 0 < n) (e f : ℤ) :
    Format.binary64.targetExponent (totalExponent m e - totalExponent n f) ≤
      stepExponent ((m * 2 ^ e) / (n * 2 ^ f)) := by
  have target : Format.binary64.targetExponent (totalExponent m e - totalExponent n f) =
      max (m.log2 + 1 + e - (n.log2 + 1 + f) - 53) (-1074) := rfl
  have dividend : (2 : ℚ) ^ (m.log2 + e) ≤ m * 2 ^ e := by
    rw [zpow_add₀ two_ne_zero, zpow_natCast]
    refine mul_le_mul_of_nonneg_right ?_ (by positivity)
    exact_mod_cast Nat.log2_self_le positive.ne'
  have divisor : (n : ℚ) * 2 ^ f ≤ 2 ^ (n.log2 + 1 + f) := by
    rw [zpow_add₀ two_ne_zero, zpow_add_one₀ two_ne_zero, zpow_natCast, ← pow_succ]
    refine mul_le_mul_of_nonneg_right ?_ (by positivity)
    exact_mod_cast (Nat.lt_log2_self (n := n)).le
  have quotient : 0 < (m : ℚ) * 2 ^ e / (n * 2 ^ f) := by positivity
  have low : m.log2 + e - (n.log2 + 1 + f) ≤ Int.log 2 ((m : ℚ) * 2 ^ e / (n * 2 ^ f)) := by
    refine (Int.zpow_le_iff_le_log Nat.one_lt_two quotient).mp ?_
    rw [zpow_sub₀ (by norm_num)]
    push_cast
    exact div_le_div₀ (by positivity) dividend (by positivity) divisor
  rw [target, stepExponent, abs_of_pos quotient]
  omega

theorem roundsTo_pack_div {u v : UnpackedFloat} (finite : u.isFinite = true)
    (finites : v.isFinite = true) (nonzero : ratOf v ≠ 0) :
    RoundsTo (ratOf u / ratOf v) (.ofModel (.pack (.div .binary64 u v))) := by
  rcases finite_cases finites with ⟨t, rfl⟩ | ⟨t, n, f, filled, rfl⟩
  · exact absurd (ratOf_zero t) nonzero
  rcases finite_cases finite with ⟨s, rfl⟩ | ⟨s, m, e, positive, rfl⟩
  · rw [ratOf_zero, zero_div]
    exact roundsTo_zero _
  set target := min (e - f)
    (Format.binary64.targetExponent (totalExponent m e - totalExponent n f)) with lower
  have amount : ((e - f - target).toNat : ℤ) = e - f - target :=
    Int.toNat_of_nonneg (by omega)
  have value : ((m <<< (e - f - target).toNat : ℕ) : ℚ) / n * 2 ^ target = m * 2 ^ e / (n * 2 ^ f) := by
    have split : (2 : ℚ) ^ e = 2 ^ (e - f - target).toNat * 2 ^ f * 2 ^ target := by
      rw [← zpow_natCast, amount, ← zpow_add₀ two_ne_zero, ← zpow_add₀ two_ne_zero]
      congr 1
      ring
    rw [Nat.shiftLeft_eq, split]
    push_cast
    field_simp
  have filling : (0 : ℚ) < (m <<< (e - f - target).toNat : ℕ) / n := by
    rw [Nat.shiftLeft_eq]
    positivity
  have fine : target ≤ stepExponent (((m <<< (e - f - target).toNat : ℕ) : ℚ) / n * 2 ^ target) := by
    rw [value]
    exact (min_le_right _ _).trans (targetExponent_le_stepExponent positive filled e f)
  have quotient := roundsTo_roundWithAccuracy (s / t) (represents_fraction _ filled) filling fine
  rw [value, signed_div, ← ratOf_finite positive, ← ratOf_finite filled] at quotient
  exact quotient

/-- A quotient is rounded once. -/
theorem roundsTo_div (finite : x.isFinite = true) (finites : y.isFinite = true)
    (nonzero : toRat y ≠ 0) : RoundsTo (toRat x / toRat y) (x / y) := by
  rw [toRat_eq] at nonzero
  rw [toRat_eq, toRat_eq]
  exact roundsTo_pack_div finite finites nonzero

end Operations

section Results

variable {q r : ℚ} {x y w : Float}

/-- A result that does not pass the largest double is finite. -/
theorem RoundsTo.finite (rounds : RoundsTo q x) (within : |rounded q| < lineEnd) :
    x.isFinite = true ∧ toRat x = rounded q := by
  have line := rounds.line
  rw [clamped_of_abs_le within.le] at line
  have finite := (isFinite_iff_abs_lineOf_lt rounds.number).mpr (line.symm ▸ within)
  exact ⟨finite, (lineOf_of_isFinite finite).symm.trans line⟩

theorem RoundsTo.toRat_eq (rounds : RoundsTo q x) (finite : x.isFinite = true) :
    toRat x = rounded q := by
  have line := (lineOf_of_isFinite finite).symm.trans rounds.line
  have within := abs_toRat_lt finite
  rw [line] at within
  exact line.trans (clamped_eq_of_abs_lt within)

theorem RoundsTo.line_le (first : RoundsTo q x) (second : RoundsTo r y) (le : q ≤ r) :
    lineOf x ≤ lineOf y := by
  rw [first.line, second.line]
  exact clamped_mono (rounded_mono le)

/-- Subtraction of a finite double keeps the order. -/
theorem line_sub_mono (finite : x.isFinite = true) (finites : y.isFinite = true)
    (fixed : w.isFinite = true) (le : toRat x ≤ toRat y) : lineOf (x - w) ≤ lineOf (y - w) :=
  (roundsTo_sub finite fixed).line_le (roundsTo_sub finites fixed) (sub_le_sub_right le _)

theorem unpack_sub_of_fits {u : UnpackedFloat}
    (difference : sub .binary64 x.toModel.unpack y.toModel.unpack = u) (fits : Fits .binary64 u) :
    (x - y).toModel.unpack = u := by
  have same : x - y = .ofModel (.pack (sub .binary64 x.toModel.unpack y.toModel.unpack)) := rfl
  rw [same, difference, unpack_ofModel u fits]

theorem unpack_add_of_fits {u : UnpackedFloat}
    (sum : add .binary64 x.toModel.unpack y.toModel.unpack = u) (fits : Fits .binary64 u) :
    (x + y).toModel.unpack = u := by
  have same : x + y = .ofModel (.pack (add .binary64 x.toModel.unpack y.toModel.unpack)) := rfl
  rw [same, sum, unpack_ofModel u fits]

theorem unpack_mul_of_fits {u : UnpackedFloat}
    (product : mul .binary64 x.toModel.unpack y.toModel.unpack = u) (fits : Fits .binary64 u) :
    (x * y).toModel.unpack = u := by
  have same : x * y = .ofModel (.pack (mul .binary64 x.toModel.unpack y.toModel.unpack)) := rfl
  rw [same, product, unpack_ofModel u fits]

theorem unpack_div_of_fits {u : UnpackedFloat}
    (quotient : div .binary64 x.toModel.unpack y.toModel.unpack = u) (fits : Fits .binary64 u) :
    (x / y).toModel.unpack = u := by
  have same : x / y = .ofModel (.pack (div .binary64 x.toModel.unpack y.toModel.unpack)) := rfl
  rw [same, quotient, unpack_ofModel u fits]

theorem lineOf_div_of_fits {u : UnpackedFloat}
    (quotient : div .binary64 x.toModel.unpack w.toModel.unpack = u) (fits : Fits .binary64 u) :
    lineOf (x / w) = pointOf u := congrArg pointOf (unpack_div_of_fits quotient fits)

/-- Over infinity and over NaN every quotient stands at zero. -/
theorem lineOf_div_of_not_isFinite (infinite : w.isFinite = false) : lineOf (x / w) = 0 := by
  change w.toModel.unpack.isFinite = false at infinite
  cases divisor : w.toModel.unpack with
  | notANumber =>
    refine lineOf_div_of_fits (u := .notANumber) ?_ trivial
    rw [divisor]
    cases x.toModel.unpack <;> rfl
  | infinity sign =>
    cases under : x.toModel.unpack with
    | notANumber => exact lineOf_div_of_fits (u := .notANumber) (by rw [divisor, under]; rfl) trivial
    | infinity s => exact lineOf_div_of_fits (u := .notANumber) (by rw [divisor, under]; rfl) trivial
    | zero s => exact lineOf_div_of_fits (u := .zero (s / sign)) (by rw [divisor, under]; rfl) trivial
    | finite s m e positive =>
      exact lineOf_div_of_fits (u := .zero (s / sign)) (by rw [divisor, under]; rfl) trivial
  | zero sign =>
    rw [divisor] at infinite
    cases infinite
  | finite sign m e positive =>
    rw [divisor] at infinite
    cases infinite

/-- Over positive zero a quotient stands at the end its sign points to. -/
theorem lineOf_div_of_zero (zero : w.toModel.unpack = .zero .positive) (number : x.isNaN = false) :
    0 < lineOf x ∧ lineOf (x / w) = lineEnd ∨ lineOf x < 0 ∧ lineOf (x / w) = -lineEnd ∨
      lineOf x = 0 ∧ lineOf (x / w) = 0 := by
  have size := lineEnd_pos
  have infinite (s : Sign) (quotient : div .binary64 x.toModel.unpack (.zero .positive) =
      .infinity (s / .positive)) : lineOf (x / w) = signed s lineEnd := by
    rw [lineOf_div_of_fits (u := .infinity (s / .positive)) (by rw [zero, quotient]) trivial]
    cases s <;> rfl
  change x.toModel.unpack.isNaN = false at number
  cases under : x.toModel.unpack with
  | notANumber =>
    rw [under] at number
    cases number
  | infinity s =>
    rw [infinite s (by rw [under]; rfl), lineOf, under, pointOf]
    cases s
    · exact Or.inr (Or.inl ⟨neg_neg_of_pos size, rfl⟩)
    · exact Or.inl ⟨size, rfl⟩
  | zero s =>
    refine Or.inr (Or.inr ⟨?_, ?_⟩)
    · rw [lineOf, under]
      rfl
    · exact lineOf_div_of_fits (u := .notANumber) (by rw [zero, under]; rfl) trivial
  | finite s m e positive =>
    have filled : (0 : ℚ) < m * 2 ^ e := by positivity
    rw [infinite s (by rw [under]; rfl), lineOf, under, pointOf_finite]
    cases s
    · exact Or.inr (Or.inl ⟨neg_neg_of_pos filled, rfl⟩)
    · exact Or.inl ⟨filled, rfl⟩

theorem unpack_of_toRat_eq_zero (finite : w.isFinite = true) (zero : toRat w = 0)
    (positive : signOf w.toModel.unpack = .positive) : w.toModel.unpack = .zero .positive := by
  rcases finite_cases finite with ⟨sign, unpacked⟩ | ⟨sign, m, e, filled, unpacked⟩ <;>
    rw [unpacked] at positive
  · cases (positive : sign = .positive)
    exact unpacked
  · have size : (0 : ℚ) < m * 2 ^ e := by positivity
    cases (positive : sign = .positive)
    rw [toRat_eq, unpacked, ratOf_finite] at zero
    exact absurd zero size.ne'

/-- Over a number that is not negative zero keeps its place. -/
theorem lineOf_div_of_toRat_eq_zero (finite : x.isFinite = true) (zero : toRat x = 0)
    (positive : signOf w.toModel.unpack = .positive) : lineOf (x / w) = 0 := by
  by_cases fixed : w.isFinite = true
  · by_cases nothing : toRat w = 0
    · have line := (lineOf_of_isFinite finite).trans zero
      rcases lineOf_div_of_zero (unpack_of_toRat_eq_zero fixed nothing positive)
        (isNaN_of_isFinite finite) with ⟨above, -⟩ | ⟨below, -⟩ | ⟨-, place⟩
      · exact absurd line above.ne'
      · exact absurd line below.ne
      · exact place
    · rw [(roundsTo_div finite fixed nothing).line, zero, zero_div, rounded_zero, clamped_zero]
  · exact lineOf_div_of_not_isFinite (by simpa using fixed)

/-- Over a positive number infinities stay where they are. -/
theorem unpack_div_of_infinity {s : Sign} (infinite : x.toModel.unpack = .infinity s)
    (finite : w.isFinite = true) (positive : signOf w.toModel.unpack = .positive) :
    (x / w).toModel.unpack = .infinity (s / .positive) := by
  refine unpack_div_of_fits ?_ trivial
  rcases finite_cases finite with ⟨t, divisor⟩ | ⟨t, n, f, filled, divisor⟩ <;>
    rw [divisor] at positive <;> rw [infinite, divisor, ← positive] <;> rfl

theorem lineOf_div_of_infinity {s : Sign} (infinite : x.toModel.unpack = .infinity s)
    (finite : w.isFinite = true) (positive : signOf w.toModel.unpack = .positive) :
    lineOf (x / w) = signed s lineEnd := by
  rw [lineOf, unpack_div_of_infinity infinite finite positive]
  cases s <;> rfl

theorem line_div_mono_of_pos (number : x.isNaN = false) (numbers : y.isNaN = false)
    (fixed : w.isFinite = true) (positive : signOf w.toModel.unpack = .positive) (above : 0 < toRat w)
    (le : lineOf x ≤ lineOf y) : lineOf (x / w) ≤ lineOf (y / w) := by
  rcases number_cases number with finite | ⟨s, infinite⟩ <;>
    rcases number_cases numbers with finites | ⟨r, infinites⟩
  · have first := roundsTo_div finite fixed above.ne'
    have second := roundsTo_div finites fixed above.ne'
    rw [lineOf_of_isFinite finite, lineOf_of_isFinite finites] at le
    exact first.line_le second (div_le_div_of_nonneg_right le above.le)
  · have first := roundsTo_div finite fixed above.ne'
    have near := (abs_lt.mp (abs_toRat_lt finite)).1
    rw [first.line, lineOf_div_of_infinity infinites fixed positive]
    rw [lineOf_of_isFinite finite, lineOf, infinites] at le
    cases r
    · exact absurd le near.not_ge
    · exact clamped_le _
  · have second := roundsTo_div finites fixed above.ne'
    have near := (abs_lt.mp (abs_toRat_lt finites)).2
    rw [second.line, lineOf_div_of_infinity infinite fixed positive]
    rw [lineOf_of_isFinite finites, lineOf, infinite] at le
    cases s
    · exact le_clamped _
    · exact absurd le near.not_ge
  · rw [lineOf_div_of_infinity infinite fixed positive,
      lineOf_div_of_infinity infinites fixed positive]
    rw [lineOf, lineOf, infinite, infinites] at le
    exact le

/-- Division by a number that is not negative keeps the order, whatever the number is: where it has no
quotient, at NaN or zero over zero, the quotient counts as zero. -/
theorem line_div_mono (number : x.isNaN = false) (numbers : y.isNaN = false)
    (positive : signOf w.toModel.unpack = .positive) (le : lineOf x ≤ lineOf y) :
    lineOf (x / w) ≤ lineOf (y / w) := by
  by_cases fixed : w.isFinite = true
  · rcases finite_cases fixed with ⟨t, zero⟩ | ⟨t, n, f, filled, divisor⟩
    · rw [zero] at positive
      cases (positive : t = .positive)
      have size := lineEnd_pos
      rcases lineOf_div_of_zero zero number with ⟨above, first⟩ | ⟨below, first⟩ | ⟨none, first⟩ <;>
        rcases lineOf_div_of_zero zero numbers with ⟨more, second⟩ | ⟨less, second⟩ | ⟨nil, second⟩ <;>
        linarith
    · have value : toRat w = n * 2 ^ f := by
        have plain : t = .positive := by rwa [divisor] at positive
        rw [toRat_eq, divisor, ratOf_finite, plain]
        rfl
      exact line_div_mono_of_pos number numbers fixed positive (value ▸ by positivity) le
  · have infinite : w.isFinite = false := by simpa using fixed
    rw [lineOf_div_of_not_isFinite infinite, lineOf_div_of_not_isFinite infinite]

theorem RoundsTo.signOf_eq (rounds : RoundsTo q x) (positive : 0 < q) :
    signOf x.toModel.unpack = .positive := by
  have sign := (not_congr (rounds.sign positive.ne')).mpr positive.not_gt
  cases signs : signOf x.toModel.unpack with
  | positive => rfl
  | negative => exact absurd signs sign

/-- A difference does not get a negative sign unless it is taken from the smaller number. -/
theorem signOf_sub (apart : ¬ x ≤ y) : signOf (x - y).toModel.unpack = .positive := by
  have size := lineEnd_pos
  by_cases number : x.isNaN = false ∧ y.isNaN = false
  · rw [line_le_iff number.1 number.2, not_le] at apart
    rcases number_cases number.1 with finite | ⟨s, infinite⟩ <;>
      rcases number_cases number.2 with finites | ⟨t, infinites⟩
    · rw [lineOf_of_isFinite finite, lineOf_of_isFinite finites] at apart
      exact (roundsTo_sub finite finites).signOf_eq (sub_pos.mpr apart)
    · rw [lineOf_of_isFinite finite, lineOf, infinites] at apart
      cases t
      · rw [unpack_sub_of_fits (u := .infinity .positive) ?_ trivial]
        · rfl
        · rw [infinites]
          rcases finite_cases finite with ⟨s, left⟩ | ⟨s, m, e, filled, left⟩ <;> rw [left] <;> rfl
      · exact absurd apart (abs_lt.mp (abs_toRat_lt finite)).2.not_gt
    · rw [lineOf_of_isFinite finites, lineOf, infinite] at apart
      cases s
      · exact absurd apart (abs_lt.mp (abs_toRat_lt finites)).1.not_gt
      · rw [unpack_sub_of_fits (u := .infinity .positive) ?_ trivial]
        · rfl
        · rw [infinite]
          rcases finite_cases finites with ⟨t, right⟩ | ⟨t, n, f, filled, right⟩ <;> rw [right] <;> rfl
    · rw [lineOf, lineOf, infinite, infinites] at apart
      cases s <;> cases t
      · exact absurd apart (lt_irrefl _)
      · exact absurd apart (neg_lt_self size).not_gt
      · rw [unpack_sub_of_fits (u := .infinity .positive) (by rw [infinite, infinites]; rfl) trivial]
        rfl
      · exact absurd apart (lt_irrefl _)
  · have nan : sub .binary64 x.toModel.unpack y.toModel.unpack = .notANumber := by
      rw [not_and_or, Bool.not_eq_false, Bool.not_eq_false] at number
      rcases number with first | second
      · rw [(isNaN_iff _).mp first]
        rfl
      · rw [(isNaN_iff _).mp second]
        cases x.toModel.unpack <;> rfl
    rw [unpack_sub_of_fits nan trivial]
    rfl

/-- A quotient of numbers that have no negative sign has none. -/
theorem signOf_div (positive : signOf x.toModel.unpack = .positive) (finite : y.isFinite = true)
    (above : 0 < toRat y) : signOf (x / y).toModel.unpack = .positive := by
  obtain ⟨n, f, filled, divisor⟩ : ∃ n f, ∃ filled : 0 < n,
      y.toModel.unpack = .finite .positive n f filled := by
    rw [toRat_eq] at above
    rcases finite_cases finite with ⟨t, right⟩ | ⟨t, n, f, filled, right⟩ <;> rw [right] at above
    · exact absurd above (lt_irrefl _)
    · cases t
      · rw [ratOf_finite] at above
        exact absurd above (neg_neg_of_pos (by positivity)).not_gt
      · exact ⟨n, f, filled, right⟩
  cases dividend : x.toModel.unpack with
  | notANumber =>
    rw [unpack_div_of_fits (u := .notANumber) (by rw [dividend]; rfl) trivial]
    rfl
  | infinity s =>
    rw [dividend] at positive
    rw [unpack_div_of_fits (u := .infinity (s / .positive)) (by rw [dividend, divisor]; rfl) trivial]
    cases (positive : s = .positive)
    rfl
  | zero s =>
    rw [dividend] at positive
    rw [unpack_div_of_fits (u := .zero (s / .positive)) (by rw [dividend, divisor]; rfl) trivial]
    cases (positive : s = .positive)
    rfl
  | finite s m e some =>
    rw [dividend] at positive
    cases (positive : s = .positive)
    have finites : x.isFinite = true := congrArg UnpackedFloat.isFinite dividend
    have more : 0 < toRat x := by
      rw [toRat_eq, dividend, ratOf_positive]
      positivity
    exact (roundsTo_div finites finite above.ne').signOf_eq (div_pos more above)

end Results

end Facets.Number
