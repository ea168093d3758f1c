import Facets.Proofs.Number.Unpacked

/-!
What rounding to a format does. Shifting a mantissa keeps a round bit and a sticky bit, which say
enough about the part shifted out to choose the nearest whole mantissa, the even one of two.
-/

namespace Facets.Number

open Float.Model (Format UnpackedFloat totalExponent)
open Float.Model.UnpackedFloat

/-- A whole number nearest to `x`, the even one if there are two. -/
structure Rounds (x : ℚ) (q : ℕ) : Prop where
  near : |x - q| ≤ 1 / 2
  tie : |x - q| = 1 / 2 → Even q

/-- What a number has beyond its mantissa and its round bit. -/
def restOf (em : ExtendedMantissa) (x : ℚ) : ℚ :=
  x - em.mantissa - em.roundBit.toNat / 2

/-- A mantissa with its residual bits stands for a number: the sticky bit says whether anything is
left beyond the round bit. -/
structure Represents (em : ExtendedMantissa) (x : ℚ) : Prop where
  nonneg : 0 ≤ restOf em x
  below : restOf em x < 1 / 2
  sticky : em.stickyBit = true ↔ 0 < restOf em x

theorem represents_natCast (mantissa : ℕ) : Represents ⟨mantissa, false, false⟩ mantissa := by
  have none : restOf ⟨mantissa, false, false⟩ mantissa = 0 := by simp [restOf]
  exact ⟨none.ge, by rw [none]; norm_num, by rw [none]; simp⟩

theorem Represents.shiftRightOne {em : ExtendedMantissa} {x : ℚ} (represents : Represents em x) :
    Represents em.shiftRightOne (x / 2) := by
  obtain ⟨nonneg, below, sticky⟩ := represents
  have halves : restOf em.shiftRightOne (x / 2) = restOf em x / 2 + em.roundBit.toNat / 4 := by
    have bit : (em.mantissa % 2 != 0).toNat = em.mantissa % 2 := by
      rcases Nat.mod_two_eq_zero_or_one em.mantissa with even | odd
      · rw [even]
        rfl
      · rw [odd]
        rfl
    have parts : (em.mantissa : ℚ) = 2 * (em.mantissa / 2 : ℕ) + (em.mantissa % 2 : ℕ) := by
      exact_mod_cast (Nat.div_add_mod em.mantissa 2).symm
    simp only [restOf, ExtendedMantissa.shiftRightOne, bit]
    rw [parts]
    ring
  have stuck : em.shiftRightOne.stickyBit = (em.roundBit || em.stickyBit) := rfl
  cases bit : em.roundBit <;> rw [bit] at halves stuck
  · rw [Bool.toNat_false, Nat.cast_zero, zero_div, add_zero] at halves
    refine ⟨by linarith, by linarith, ?_⟩
    rw [stuck, Bool.false_or, sticky, halves]
    constructor <;> intro rest <;> linarith
  · rw [Bool.toNat_true, Nat.cast_one] at halves
    refine ⟨by linarith, by linarith, ?_⟩
    rw [stuck, Bool.true_or, halves]
    exact iff_of_true rfl (by linarith)

theorem Represents.shiftRight {em : ExtendedMantissa} {x : ℚ} (represents : Represents em x)
    (n : ℕ) : Represents (em >>> n) (x / 2 ^ n) := by
  induction n with
  | zero =>
    rw [pow_zero, div_one]
    exact represents
  | succ n ih =>
    rw [pow_succ, ← div_div]
    exact ih.shiftRightOne

theorem rounds_of_near {x : ℚ} {q : ℕ} (near : |x - q| < 1 / 2) : Rounds x q :=
  ⟨near.le, fun tie => absurd tie near.ne⟩

/-- The residual bits choose the mantissa nearest to the number. -/
theorem Represents.rounds {em : ExtendedMantissa} {x : ℚ} (represents : Represents em x) :
    Rounds x em.roundedMantissa := by
  obtain ⟨nonneg, below, sticky⟩ := represents
  obtain ⟨mantissa, round, stuck⟩ := em
  cases round <;> cases stuck <;>
    simp only [restOf, Bool.toNat_false, Bool.toNat_true, Nat.cast_zero, Nat.cast_one, zero_div,
      sub_zero, Bool.false_eq_true, false_iff, true_iff] at nonneg below sticky
  case false.false =>
    change Rounds x mantissa
    exact rounds_of_near (abs_lt.mpr ⟨by linarith, by linarith⟩)
  case false.true =>
    change Rounds x mantissa
    exact rounds_of_near (abs_lt.mpr ⟨by linarith, by linarith⟩)
  case true.true =>
    change Rounds x (mantissa + 1 : ℕ)
    refine rounds_of_near (abs_lt.mpr ?_)
    have up : ((mantissa + 1 : ℕ) : ℚ) = mantissa + 1 := Nat.cast_succ mantissa
    exact ⟨by linarith, by linarith⟩
  case true.false =>
    have half : x = mantissa + 1 / 2 := by linarith
    change Rounds x (mantissa + mantissa % 2)
    rcases Nat.mod_two_eq_zero_or_one mantissa with even | odd
    · rw [even, half]
      refine ⟨?_, fun _ => Nat.even_iff.mpr even⟩
      norm_num
    · rw [odd, half]
      refine ⟨?_, fun _ => Nat.even_iff.mpr (by omega)⟩
      norm_num [abs_of_neg]

theorem Rounds.le {x : ℚ} {q n : ℕ} (rounds : Rounds x q) (below : x ≤ n) : q ≤ n := by
  by_contra above
  have apart : ((n + 1 : ℕ) : ℚ) ≤ q := Nat.cast_le.mpr (by omega)
  have near := abs_le.mp rounds.near
  push_cast at apart
  linarith

theorem Rounds.ge {x : ℚ} {q n : ℕ} (rounds : Rounds x q) (above : n ≤ x) : n ≤ q := by
  by_contra below
  have apart : ((q + 1 : ℕ) : ℚ) ≤ n := Nat.cast_le.mpr (by omega)
  have near := abs_le.mp rounds.near
  push_cast at apart
  linarith

section Format

variable (spec : Format) {m : ℕ} {e : ℤ}

theorem log2_shiftLeft (positive : 0 < m) (n : ℕ) : (m <<< n).log2 = m.log2 + n := by
  have steps := Nat.two_pow_pos n
  rw [Nat.shiftLeft_eq, Nat.log2_eq_iff (Nat.mul_pos positive steps).ne']
  constructor
  · rw [pow_add]
    exact Nat.mul_le_mul_right _ (Nat.log2_self_le positive.ne')
  · rw [Nat.add_right_comm, pow_add]
    exact Nat.mul_lt_mul_of_pos_right Nat.lt_log2_self steps

theorem totalExponent_decreased (positive : 0 < m) (n : ℕ) :
    totalExponent (m <<< n) (e - n) = totalExponent m e := by
  unfold totalExponent
  rw [log2_shiftLeft positive]
  push_cast
  ring

theorem shiftToTargetExponent_exact (m : ℕ) (e : ℤ) :
    shiftToTargetExponent spec m e .exact =
      ((⟨m, false, false⟩ : ExtendedMantissa) >>> (spec.targetExponent (totalExponent m e) - e).toNat,
        e + (spec.targetExponent (totalExponent m e) - e).toNat) := rfl

theorem shiftRight_zero (em : ExtendedMantissa) : em >>> 0 = em := rfl

/-- A mantissa that rounding up made one bit too long is shifted once more, and nothing is lost. -/
theorem shiftToTargetExponent_rounded {q : ℕ} {k : ℤ}
    (bounded : q ≤ 2 * 2 ^ spec.mantissaBitsWithoutImplicit) (least : spec.minExponent ≤ k) :
    shiftToTargetExponent spec q k .exact =
      if q < 2 * 2 ^ spec.mantissaBitsWithoutImplicit then (⟨q, false, false⟩, k)
      else (⟨2 ^ spec.mantissaBitsWithoutImplicit, false, false⟩, k + 1) := by
  rw [shiftToTargetExponent_exact]
  split
  case isTrue short =>
    have still : spec.targetExponent (totalExponent q k) - k ≤ 0 := by
      have bits : q.log2 ≤ spec.mantissaBitsWithoutImplicit := by
        by_cases zero : q = 0
        · rw [zero]
          exact Nat.zero_le _
        · rw [← pow_succ'] at short
          exact Nat.lt_succ_iff.mp ((Nat.log2_lt zero).mpr short)
      unfold Format.targetExponent totalExponent Format.mantissaBits
      omega
    rw [Int.toNat_of_nonpos still, shiftRight_zero, Nat.cast_zero, add_zero]
  -- rounding up reached the next power of two, which is even, so the bit shifted out is zero
  case isFalse long =>
    have carried : q = 2 ^ (spec.mantissaBitsWithoutImplicit + 1) := by
      rw [pow_succ']
      omega
    have once : (spec.targetExponent (totalExponent q k) - k).toNat = 1 := by
      rw [carried]
      unfold Format.targetExponent totalExponent Format.mantissaBits
      rw [Nat.log2_two_pow]
      omega
    have halved : (⟨q, false, false⟩ : ExtendedMantissa) >>> 1 =
        ⟨2 ^ spec.mantissaBitsWithoutImplicit, false, false⟩ := by
      change ExtendedMantissa.shiftRightOne ⟨q, false, false⟩ = _
      rw [carried, pow_succ']
      simp [ExtendedMantissa.shiftRightOne]
    rw [once, halved, Nat.cast_one]

/-- The exponent at which a format keeps a number. -/
def keptExponent (m : ℕ) (e : ℤ) : ℤ := spec.targetExponent (totalExponent m e)

theorem minExponent_le_keptExponent : spec.minExponent ≤ keptExponent spec m e :=
  le_max_right _ _

/-- At that exponent the mantissa fits, and fills its bits unless the exponent is the smallest. -/
theorem kept_lt (m : ℕ) (e : ℤ) :
    (m : ℚ) * 2 ^ (e - keptExponent spec m e) < 2 * 2 ^ spec.mantissaBitsWithoutImplicit := by
  have bits : (m : ℚ) < 2 ^ (m.log2 + 1) := by
    exact_mod_cast Nat.lt_log2_self (n := m)
  have room : m.log2 + 1 + (e - keptExponent spec m e) ≤ spec.mantissaBitsWithoutImplicit + 1 := by
    have most : m.log2 + 1 + e - spec.mantissaBits ≤ keptExponent spec m e := le_max_left _ _
    unfold Format.mantissaBits at most
    push_cast at most
    omega
  calc (m : ℚ) * 2 ^ (e - keptExponent spec m e)
      < 2 ^ (m.log2 + 1) * 2 ^ (e - keptExponent spec m e) := by gcongr
    _ = 2 ^ (m.log2 + 1 + (e - keptExponent spec m e)) := by
      rw [zpow_add₀ two_ne_zero, zpow_add_one₀ two_ne_zero, zpow_natCast, pow_succ]
    _ ≤ 2 ^ (spec.mantissaBitsWithoutImplicit + 1 : ℤ) := zpow_le_zpow_right₀ one_le_two room
    _ = 2 * 2 ^ spec.mantissaBitsWithoutImplicit := by
      rw [zpow_add_one₀ two_ne_zero, zpow_natCast, mul_comm]

theorem le_kept (positive : 0 < m) (above : spec.minExponent < keptExponent spec m e) :
    (2 : ℚ) ^ spec.mantissaBitsWithoutImplicit ≤ m * 2 ^ (e - keptExponent spec m e) := by
  have bits : (2 : ℚ) ^ m.log2 ≤ m := by
    exact_mod_cast Nat.log2_self_le positive.ne'
  have full : (spec.mantissaBitsWithoutImplicit : ℤ) = m.log2 + (e - keptExponent spec m e) := by
    have kept : keptExponent spec m e = m.log2 + 1 + e - spec.mantissaBits :=
      (max_cases _ _).resolve_right (fun least => above.ne' least.1) |>.1
    unfold Format.mantissaBits at kept
    push_cast at kept
    omega
  calc
    (2 : ℚ) ^ spec.mantissaBitsWithoutImplicit = 2 ^ m.log2 * 2 ^ (e - keptExponent spec m e) := by
      rw [← zpow_natCast, full, zpow_add₀ two_ne_zero, zpow_natCast]
    _ ≤ m * 2 ^ (e - keptExponent spec m e) := by gcongr

/-- The float of a mantissa that has settled. -/
def floatOf (sign : Sign) (settled : ExtendedMantissa × ℤ) : UnpackedFloat :=
  if filled : settled.1.mantissa = 0 then .zero sign
  else .finite sign settled.1.mantissa settled.2 (Nat.pos_of_ne_zero filled)

/-- How far to the left a mantissa is shifted to get to the kept exponent. -/
def leftShift (m : ℕ) (e : ℤ) : ℕ := (e - keptExponent spec m e).toNat

/-- How far to the right a mantissa is shifted then. -/
def rightShift (m : ℕ) (e : ℤ) : ℕ := (keptExponent spec m e - (e - leftShift spec m e)).toNat

/-- The kept mantissa before it is rounded, with its residual bits. -/
def keptMantissa (m : ℕ) (e : ℤ) : ExtendedMantissa :=
  (⟨m <<< leftShift spec m e, false, false⟩ : ExtendedMantissa) >>> rightShift spec m e

theorem keptMantissa_represents (m : ℕ) (e : ℤ) :
    Represents (keptMantissa spec m e) (m * 2 ^ (e - keptExponent spec m e)) := by
  have shifts : e - keptExponent spec m e = leftShift spec m e - rightShift spec m e := by
    unfold rightShift leftShift
    omega
  have kept : Represents (keptMantissa spec m e)
      ((m <<< leftShift spec m e : ℕ) / 2 ^ rightShift spec m e) :=
    (represents_natCast _).shiftRight _
  rw [Nat.shiftLeft_eq, Nat.cast_mul, Nat.cast_pow, Nat.cast_ofNat] at kept
  rwa [shifts, zpow_sub₀ two_ne_zero, zpow_natCast, zpow_natCast, ← mul_div_assoc]

theorem shiftToTargetExponent_kept (positive : 0 < m) (e : ℤ) :
    shiftToTargetExponent spec (m <<< leftShift spec m e) (e - leftShift spec m e) .exact =
      (keptMantissa spec m e, keptExponent spec m e) := by
  have same : spec.targetExponent (totalExponent (m <<< leftShift spec m e)
      (e - leftShift spec m e)) = keptExponent spec m e :=
    congrArg spec.targetExponent (totalExponent_decreased positive _)
  have lands : e - leftShift spec m e + rightShift spec m e = keptExponent spec m e := by
    unfold rightShift leftShift
    omega
  rw [shiftToTargetExponent_exact, same]
  exact congrArg (Prod.mk _) lands

/-- Rounding shifts once to the kept exponent, rounds there and settles the result. -/
theorem round_eq (sign : Sign) (positive : 0 < m) (e : ℤ) :
    UnpackedFloat.round spec sign m e =
      floatOf sign (shiftToTargetExponent spec (keptMantissa spec m e).roundedMantissa
        (keptExponent spec m e) .exact) := by
  have first := shiftToTargetExponent_kept spec positive e
  have decreased : decreaseExponent m e (keptExponent spec m e) =
      (m <<< leftShift spec m e, e - leftShift spec m e) := rfl
  unfold UnpackedFloat.round roundWithAccuracy
  dsimp only
  rw [← keptExponent, decreased, first]
  rfl

theorem floatOf_cases (sign : Sign) {q : ℕ} {k : ℤ}
    (bounded : q ≤ 2 * 2 ^ spec.mantissaBitsWithoutImplicit) (least : spec.minExponent ≤ k)
    (filled : spec.minExponent < k → 2 ^ spec.mantissaBitsWithoutImplicit ≤ q) :
    q = 0 ∧ floatOf sign (shiftToTargetExponent spec q k .exact) = .zero sign ∨
      ∃ n f, ∃ positive : 0 < n,
        floatOf sign (shiftToTargetExponent spec q k .exact) = .finite sign n f positive ∧
          Canonical spec n f ∧ (n : ℚ) * 2 ^ f = q * 2 ^ k ∧ (Even q → Even n) := by
  rw [shiftToTargetExponent_rounded spec bounded least]
  by_cases short : q < 2 * 2 ^ spec.mantissaBitsWithoutImplicit
  · rw [if_pos short]
    by_cases zero : q = 0
    · exact Or.inl ⟨zero, dif_pos zero⟩
    · have normal : 2 ^ spec.mantissaBitsWithoutImplicit ≤ q ∨ k = spec.minExponent :=
        (least.lt_or_eq.imp filled Eq.symm)
      exact Or.inr ⟨q, k, Nat.pos_of_ne_zero zero, dif_neg zero, ⟨short, least, normal⟩, rfl, id⟩
  · have carried : q = 2 * 2 ^ spec.mantissaBitsWithoutImplicit := by omega
    have step := Nat.two_pow_pos spec.mantissaBitsWithoutImplicit
    rw [if_neg short]
    refine Or.inr ⟨_, _, step, dif_neg step.ne', ⟨by omega, by omega, Or.inl le_rfl⟩, ?_,
      fun _ => ?_⟩
    · rw [carried, zpow_add_one₀ two_ne_zero]
      push_cast
      ring
    · exact Even.pow_of_ne_zero even_two spec.hm.ne'

theorem round_cases (sign : Sign) (positive : 0 < m) (e : ℤ) :
    ∃ q, Rounds (m * 2 ^ (e - keptExponent spec m e)) q ∧
      (q = 0 ∧ UnpackedFloat.round spec sign m e = .zero sign ∨
        ∃ n f, ∃ positive : 0 < n, UnpackedFloat.round spec sign m e = .finite sign n f positive ∧
          Canonical spec n f ∧ (n : ℚ) * 2 ^ f = q * 2 ^ keptExponent spec m e ∧
            (Even q → Even n)) := by
  have rounds := (keptMantissa_represents spec m e).rounds
  refine ⟨_, rounds, ?_⟩
  rw [round_eq spec sign positive]
  refine floatOf_cases spec sign (rounds.le ?_) (minExponent_le_keptExponent spec) fun above => ?_
  · exact_mod_cast (kept_lt spec m e).le
  · refine rounds.ge ?_
    exact_mod_cast le_kept spec positive above

/-- A smaller exponent keeps a number below every mantissa that fills its bits. -/
theorem scaled_lt {c : ℕ} {j k : ℤ} (bounded : c < 2 * 2 ^ spec.mantissaBitsWithoutImplicit)
    (smaller : j < k) : (c : ℚ) * 2 ^ (j - k) < 2 ^ spec.mantissaBitsWithoutImplicit := by
  have small : (c : ℚ) < 2 * 2 ^ spec.mantissaBitsWithoutImplicit := by exact_mod_cast bounded
  have half : (2 : ℚ) ^ (j - k) ≤ 2 ^ (-1 : ℤ) := zpow_le_zpow_right₀ one_le_two (by omega)
  have below : (c : ℚ) * 2 ^ (j - k) ≤ c * 2 ^ (-1 : ℤ) := by gcongr
  norm_num at below
  linarith

/-- A greater exponent leaves a number whole. -/
theorem scaled_whole (c : ℕ) {j k : ℤ} (kept : k ≤ j) :
    (c : ℚ) * 2 ^ (j - k) = (c * 2 ^ (j - k).toNat : ℕ) := by
  rw [Nat.cast_mul, Nat.cast_pow, Nat.cast_ofNat, ← zpow_natCast, Int.toNat_of_nonneg (by omega)]

theorem Rounds.eq_natCast {n q : ℕ} (rounds : Rounds n q) : q = n :=
  Nat.le_antisymm (rounds.le le_rfl) (rounds.ge le_rfl)

/-- Rounding keeps a number that the format has. -/
theorem round_exact (sign : Sign) (positive : 0 < m) {c : ℕ} {j : ℤ}
    (bounded : c < 2 * 2 ^ spec.mantissaBitsWithoutImplicit) (least : spec.minExponent ≤ j)
    (same : (m : ℚ) * 2 ^ e = c * 2 ^ j) :
    ∃ n f, ∃ positive : 0 < n, UnpackedFloat.round spec sign m e = .finite sign n f positive ∧
      Canonical spec n f ∧ (n : ℚ) * 2 ^ f = m * 2 ^ e := by
  obtain ⟨q, rounds, outcome⟩ := round_cases spec sign positive e
  have value : (m : ℚ) * 2 ^ (e - keptExponent spec m e) = c * 2 ^ (j - keptExponent spec m e) := by
    rw [zpow_sub₀ two_ne_zero, zpow_sub₀ two_ne_zero, ← mul_div_assoc, same, mul_div_assoc]
  -- a greater kept exponent would need a mantissa that fills its bits there
  have kept : keptExponent spec m e ≤ j := by
    by_contra! above
    have filled := le_kept spec positive (least.trans_lt above)
    rw [value] at filled
    exact (scaled_lt spec bounded above).not_ge filled
  have whole := value.trans (scaled_whole c kept)
  have scale : (q : ℚ) * 2 ^ keptExponent spec m e = m * 2 ^ e := by
    rw [whole] at rounds
    rw [rounds.eq_natCast, ← whole, zpow_sub₀ two_ne_zero]
    field_simp
  rcases outcome with ⟨rfl, -⟩ | ⟨n, f, filled, rounded, canonical, kept, -⟩
  · have size : (0 : ℚ) < m * 2 ^ e := by positivity
    rw [Nat.cast_zero, zero_mul] at scale
    exact absurd scale size.ne
  · exact ⟨n, f, filled, rounded, canonical, kept.trans scale⟩

end Format

end Facets.Number
