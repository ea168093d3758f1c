import Facets.Proofs.Number.Unpacked

/-!
The words of a format. But for its sign bit, the word of a float is its distance from zero, so
packing and unpacking undo each other.
-/

namespace Facets.Number

open Float.Model (Format UnpackedFloat)
open Float.Model.UnpackedFloat

section Format

variable {spec : Format}

/-- The word of a float of a format. -/
def wordOf (spec : Format) (u : UnpackedFloat) : ℕ :=
  (signOf u).toBitVec.toNat * 2 ^ (spec.mantissaBitsWithoutImplicit + spec.exponentBits) +
    distanceOf spec u

theorem toNat_eq_fields (b : BitVec spec.numBits) :
    b.toNat = (unpackSign b).toNat * 2 ^ (spec.mantissaBitsWithoutImplicit + spec.exponentBits) +
      ((unpackExponent b).toNat * 2 ^ spec.mantissaBitsWithoutImplicit +
        (unpackMantissa b).toNat) := by
  have short := spec.hm
  have narrow := spec.he
  have mantissa : (unpackMantissa b).toNat = b.toNat % 2 ^ spec.mantissaBitsWithoutImplicit := by
    simp only [unpackMantissa, BitVec.toNat_cast, BitVec.extractLsb_toNat, Nat.shiftRight_zero]
    congr 2
    omega
  have exponent : (unpackExponent b).toNat =
      b.toNat / 2 ^ spec.mantissaBitsWithoutImplicit % 2 ^ spec.exponentBits := by
    simp only [unpackExponent, BitVec.toNat_cast, BitVec.extractLsb_toNat, Nat.shiftRight_eq_div_pow]
    congr 2
    omega
  have sign : (unpackSign b).toNat =
      b.toNat / 2 ^ spec.mantissaBitsWithoutImplicit / 2 ^ spec.exponentBits := by
    simp only [unpackSign, BitVec.toNat_cast, BitVec.extractLsb_toNat, Nat.shiftRight_eq_div_pow,
      Nat.sub_self, Nat.div_div_eq_div_mul, ← pow_add]
    refine Nat.mod_eq_of_lt (Nat.div_lt_of_lt_mul (b.isLt.trans_eq ?_))
    rw [← pow_add]
    exact congrArg _ (by unfold Format.numBits; omega)
  calc b.toNat = b.toNat / 2 ^ spec.mantissaBitsWithoutImplicit *
        2 ^ spec.mantissaBitsWithoutImplicit + b.toNat % 2 ^ spec.mantissaBitsWithoutImplicit :=
      (Nat.div_add_mod' _ _).symm
    _ = ((unpackSign b).toNat * 2 ^ spec.exponentBits + (unpackExponent b).toNat) *
        2 ^ spec.mantissaBitsWithoutImplicit + (unpackMantissa b).toNat := by
      rw [sign, exponent, mantissa, Nat.div_add_mod' (b.toNat / 2 ^ spec.mantissaBitsWithoutImplicit)]
    _ = _ := by
      rw [pow_add]
      ring

theorem toNat_packComponents (sign : Sign) (exponent : BitVec spec.exponentBits)
    (mantissa : BitVec spec.mantissaBitsWithoutImplicit) :
    (packComponents spec sign exponent mantissa).toNat =
      sign.toBitVec.toNat * 2 ^ (spec.mantissaBitsWithoutImplicit + spec.exponentBits) +
        (exponent.toNat * 2 ^ spec.mantissaBitsWithoutImplicit + mantissa.toNat) := by
  rw [packComponents, BitVec.toNat_append, BitVec.toNat_append,
    ← Nat.shiftLeft_add_eq_or_of_lt mantissa.isLt, ← Nat.shiftLeft_add_eq_or_of_lt exponent.isLt,
    Nat.shiftLeft_eq, Nat.shiftLeft_eq, pow_add]
  ring

theorem toBitVec_ofBitVec (bit : BitVec 1) : (Sign.ofBitVec bit).toBitVec = bit := by
  obtain ⟨⟨digit, bound⟩⟩ := bit
  interval_cases digit <;> rfl

variable (spec) in
theorem topRank_add : topRank spec + 2 ^ spec.mantissaBitsWithoutImplicit =
    2 ^ spec.exponentBits * 2 ^ spec.mantissaBitsWithoutImplicit := by
  rw [topRank, ← Nat.succ_mul, Nat.succ_eq_add_one, Nat.sub_add_cancel Nat.one_le_two_pow]

theorem toNat_neg_one : (-1#_ : BitVec spec.exponentBits).toNat = 2 ^ spec.exponentBits - 1 := by
  rw [BitVec.neg_one_eq_allOnes, BitVec.toNat_allOnes]

/-- Unpacking reads the sign and the distance off a word; what lies beyond infinity is NaN. -/
theorem unpack_cases (b : BitVec spec.numBits) :
    unpack spec b = .notANumber ∧ unpackExponent b = -1#_ ∧ unpackMantissa b ≠ 0#_ ∨
      Fits spec (unpack spec b) ∧ signOf (unpack spec b) = Sign.ofBitVec (unpackSign b) ∧
        distanceOf spec (unpack spec b) =
          (unpackExponent b).toNat * 2 ^ spec.mantissaBitsWithoutImplicit +
            (unpackMantissa b).toNat := by
  have smallest := minExponent_eq spec
  have size := two_pow_exponentBits spec
  have bound := (unpackMantissa b).isLt
  have below := (unpackExponent b).isLt
  have partly : unpackExponent b ≠ -1#_ →
      ((unpackExponent b).toNat + 2) * 2 ^ spec.mantissaBitsWithoutImplicit ≤
        2 ^ spec.exponentBits * 2 ^ spec.mantissaBitsWithoutImplicit := by
    intro partly
    have apart : (unpackExponent b).toNat ≠ 2 ^ spec.exponentBits - 1 := by
      rw [← toNat_neg_one]
      exact fun same => partly (BitVec.eq_of_toNat_eq same)
    exact Nat.mul_le_mul_right _ (by omega)
  have top := topRank_add spec
  fun_cases unpack spec b with
  | case1 mantissa exponent _ sign full empty =>
    have full : unpackExponent b = -1#_ := full
    have empty : unpackMantissa b = 0#_ := empty
    rw [full, empty, toNat_neg_one]
    exact Or.inr ⟨trivial, rfl, rfl⟩
  | case2 mantissa exponent full marked => exact Or.inl ⟨rfl, full, marked⟩
  | case3 mantissa exponent _ sign _ least empty =>
    have least : unpackExponent b = 0#_ := least
    have empty : unpackMantissa b = 0#_ := empty
    rw [least, empty]
    exact Or.inr ⟨trivial, rfl, by simp [distanceOf]⟩
  | case4 mantissa exponent power _ sign unfilled least marked =>
    have steps := partly unfilled
    have least : unpackExponent b = 0#_ := least
    have lowest : power + 1 = spec.minExponent := by
      have power_eq : power = (unpackExponent b).toNat -
        (spec.exponentBias + spec.mantissaBitsWithoutImplicit : ℤ) := rfl
      rw [power_eq, least, smallest, BitVec.toNat_zero]
      ring
    have rank : rankOf spec mantissa.toNat (power + 1) = (unpackMantissa b).toNat := by
      rw [rankOf, lowest, Int.sub_self, Int.toNat_zero, Nat.zero_mul, Nat.zero_add]
    rw [least, BitVec.toNat_zero] at steps ⊢
    refine Or.inr ⟨⟨⟨?_, lowest.ge, Or.inr lowest⟩, ?_⟩, rfl, ?_⟩
    · change (unpackMantissa b).toNat < _
      omega
    · omega
    · rw [distanceOf, rank, Nat.zero_mul, Nat.zero_add]
  | case5 mantissa exponent power _ sign unfilled normal =>
    have steps := partly unfilled
    have power_eq : power = (unpackExponent b).toNat -
      (spec.exponentBias + spec.mantissaBitsWithoutImplicit : ℤ) := rfl
    have positive : 0 < (unpackExponent b).toNat := by
      rw [BitVec.toNat_pos, BitVec.pos_iff_ne_zero]
      exact normal
    have whole : (1#1 ++ mantissa).toNat =
        2 ^ spec.mantissaBitsWithoutImplicit + (unpackMantissa b).toNat := by
      rw [BitVec.toNat_append, ← Nat.shiftLeft_add_eq_or_of_lt mantissa.isLt, Nat.shiftLeft_eq,
        BitVec.toNat_one Nat.one_pos, Nat.one_mul]
    have rank : rankOf spec (1#1 ++ mantissa).toNat power =
        (unpackExponent b).toNat * 2 ^ spec.mantissaBitsWithoutImplicit +
          (unpackMantissa b).toNat := by
      have before : (power - spec.minExponent).toNat + 1 = (unpackExponent b).toNat := by omega
      rw [rankOf, whole, ← before]
      ring
    rw [Nat.add_mul] at steps
    refine Or.inr ⟨⟨⟨?_, ?_, Or.inl ?_⟩, ?_⟩, rfl, rank⟩ <;> omega

theorem fits_unpack (b : BitVec spec.numBits) : Fits spec (unpack spec b) := by
  rcases unpack_cases b with ⟨nan, -, -⟩ | ⟨fits, -, -⟩
  · rw [nan]
    trivial
  · exact fits

theorem toNat_packedNaN : (packedNaN spec).toNat = wordOf spec .notANumber := by
  have short := spec.hm
  have marked : ((1#_ : BitVec spec.mantissaBitsWithoutImplicit) <<<
      (spec.mantissaBitsWithoutImplicit - 1)).toNat =
      2 ^ (spec.mantissaBitsWithoutImplicit - 1) := by
    rw [BitVec.toNat_shiftLeft, BitVec.toNat_one short, Nat.shiftLeft_eq, Nat.one_mul]
    exact Nat.mod_eq_of_lt (Nat.pow_lt_pow_right Nat.one_lt_two (by omega))
  rw [packedNaN, toNat_packComponents, toNat_neg_one, marked]
  rfl

/-- The word of a float follows from what it unpacks to. -/
theorem toNat_eq_wordOf {b : BitVec spec.numBits} (valid : spec.Valid b) :
    b.toNat = wordOf spec (unpack spec b) := by
  rcases unpack_cases b with ⟨nan, full, marked⟩ | ⟨-, sign, distance⟩
  · rw [nan, ← toNat_packedNaN, ← valid.eq_packedNaN full marked]
  · rw [wordOf, sign, distance, toBitVec_ofBitVec, ← toNat_eq_fields]

theorem valid_of_number {b : BitVec spec.numBits} (number : UnpackedFloat.unpack spec b ≠ .notANumber) :
    spec.Valid b := by
  refine ⟨fun full marked => absurd ?_ number⟩
  unfold UnpackedFloat.unpack
  rw [if_pos full, if_neg marked]

theorem toNat_packedInfinity (sign : Sign) :
    (packedInfinity spec sign).toNat = wordOf spec (.infinity sign) := by
  rw [packedInfinity, toNat_packComponents, toNat_neg_one]
  rfl

theorem toNat_packedZero (sign : Sign) : (packedZero spec sign).toNat = wordOf spec (.zero sign) := by
  rw [packedZero, toNat_packComponents, wordOf]
  simp [signOf, distanceOf]

/-- Packing a canonical number gives its place in the format, and infinity where the format ends. -/
theorem toNat_pack_finite (wide : 1 < spec.exponentBits) {sign : Sign} {m : ℕ} {e : ℤ}
    (positive : 0 < m) (canonical : Canonical spec m e) :
    (pack spec (.finite sign m e positive)).toNat =
      sign.toBitVec.toNat * 2 ^ (spec.mantissaBitsWithoutImplicit + spec.exponentBits) +
        min (rankOf spec m e) (topRank spec) := by
  have bounded := canonical.bounded
  have least := canonical.least
  have normal := canonical.normal
  have smallest := minExponent_eq spec
  have size := two_pow_exponentBits spec
  have top : topRank spec + 2 ^ spec.mantissaBitsWithoutImplicit =
      2 ^ spec.exponentBits * 2 ^ spec.mantissaBitsWithoutImplicit := topRank_add spec
  have roomy : 4 ≤ 2 ^ spec.exponentBits := Nat.pow_le_pow_right Nat.two_pos wide
  have full : m.log2 + 1 = spec.mantissaBits ↔ 2 ^ spec.mantissaBitsWithoutImplicit ≤ m := by
    rw [← pow_succ'] at bounded
    have above := (Nat.log2_lt positive.ne').mpr bounded
    rw [← Nat.le_log2 positive.ne', Format.mantissaBits]
    omega
  have biased : (e + spec.exponentBias + spec.mantissaBitsWithoutImplicit).toNat =
      (e - spec.minExponent).toNat + 1 := by omega
  simp only [pack, full, biased]
  generalize above : (e - spec.minExponent).toNat = steps
  have rank : rankOf spec m e = steps * 2 ^ spec.mantissaBitsWithoutImplicit + m := by
    rw [rankOf, above]
  split
  case isTrue overflow =>
    have most : 2 ^ spec.exponentBits * 2 ^ spec.mantissaBitsWithoutImplicit ≤
      (steps + 2) * 2 ^ spec.mantissaBitsWithoutImplicit := Nat.mul_le_mul_right _ overflow
    rw [Nat.add_mul] at most
    rw [toNat_packedInfinity, wordOf, signOf, distanceOf, min_eq_right]
    omega
  case isFalse within =>
    have most : (steps + 3) * 2 ^ spec.mantissaBitsWithoutImplicit ≤
      2 ^ spec.exponentBits * 2 ^ spec.mantissaBitsWithoutImplicit :=
      Nat.mul_le_mul_right _ (by omega)
    rw [Nat.add_mul] at most
    rw [min_eq_left (by omega), rank]
    split
    case isTrue filled =>
      have mantissa : m % 2 ^ spec.mantissaBitsWithoutImplicit =
          m - 2 ^ spec.mantissaBitsWithoutImplicit := by
        rw [Nat.mod_eq_sub_mod filled, Nat.mod_eq_of_lt (by omega)]
      rw [toNat_packComponents, BitVec.toNat_ofNat, BitVec.toNat_ofNat, mantissa,
        Nat.mod_eq_of_lt (by omega), Nat.succ_mul]
      omega
    case isFalse unfilled =>
      have lowest : steps = 0 := by omega
      rw [toNat_packComponents, BitVec.toNat_ofNat, BitVec.toNat_ofNat, Nat.zero_mod, lowest,
        Nat.mod_eq_of_lt (by omega)]

theorem toNat_pack (wide : 1 < spec.exponentBits) {u : UnpackedFloat} (fits : Fits spec u) :
    (pack spec u).toNat = wordOf spec u := by
  cases u with
  | infinity sign => exact toNat_packedInfinity sign
  | notANumber => exact toNat_packedNaN
  | zero sign => exact toNat_packedZero sign
  | finite sign m e positive =>
    rw [toNat_pack_finite wide positive fits.1, min_eq_left fits.2.le]
    rfl

/-- A float is known by its sign and its distance from zero. -/
theorem eq_of_distance {u v : UnpackedFloat} (fits : Fits spec u) (others : Fits spec v)
    (signs : signOf u = signOf v) (distances : distanceOf spec u = distanceOf spec v) : u = v := by
  have top := topRank_pos spec
  have beyond := Nat.two_pow_pos (spec.mantissaBitsWithoutImplicit - 1)
  cases u <;> cases v <;> simp only [signOf, distanceOf] at signs distances
  case finite.finite s m e positive t n f positives =>
    obtain ⟨rfl, rfl⟩ := rankOf_injective fits.1 others.1 distances
    rw [signs]
  case infinity.infinity => rw [signs]
  case zero.zero => rw [signs]
  case notANumber.notANumber => rfl
  -- Everything else lies apart: zero, the finite numbers, infinity and NaN follow one another.
  case finite.zero s m e positive t =>
    have above := rankOf_pos spec e positive
    omega
  case zero.finite s t n f positive =>
    have above := rankOf_pos spec f positive
    omega
  case finite.infinity s m e positive t =>
    have below := fits.2
    omega
  case infinity.finite s t n f positive =>
    have below := others.2
    omega
  case finite.notANumber s m e positive =>
    have below := fits.2
    omega
  case notANumber.finite t n f positive =>
    have below := others.2
    omega
  all_goals omega

theorem distanceOf_lt {u : UnpackedFloat} (fits : Fits spec u) :
    distanceOf spec u < 2 ^ (spec.mantissaBitsWithoutImplicit + spec.exponentBits) := by
  have top := topRank_add spec
  have half : 2 ^ (spec.mantissaBitsWithoutImplicit - 1) < 2 ^ spec.mantissaBitsWithoutImplicit :=
    Nat.pow_lt_pow_right Nat.one_lt_two (Nat.sub_one_lt spec.hm.ne')
  have step := Nat.two_pow_pos spec.mantissaBitsWithoutImplicit
  rw [pow_add, Nat.mul_comm, ← top]
  cases u with
  | infinity sign => simp only [distanceOf]; omega
  | notANumber => simp only [distanceOf]; omega
  | zero sign => simp only [distanceOf]; omega
  | finite sign m e positive =>
    have below := fits.2
    simp only [distanceOf]
    omega

theorem distanceOf_le {u : UnpackedFloat} (fits : Fits spec u) (number : u.isNaN = false) :
    distanceOf spec u ≤ topRank spec := by
  cases u with
  | infinity sign => exact le_rfl
  | notANumber => cases number
  | zero sign => exact Nat.zero_le _
  | finite sign m e positive => exact fits.2.le

theorem eq_of_wordOf {u v : UnpackedFloat} (fits : Fits spec u) (others : Fits spec v)
    (words : wordOf spec u = wordOf spec v) : u = v := by
  have below := distanceOf_lt fits
  have above := distanceOf_lt others
  unfold wordOf at words
  generalize 2 ^ (spec.mantissaBitsWithoutImplicit + spec.exponentBits) = size at words below above
  have same : signOf u = signOf v ∧ distanceOf spec u = distanceOf spec v := by
    revert words
    cases signOf u <;> cases signOf v <;> simp [Sign.toBitVec] <;> omega
  exact eq_of_distance fits others same.1 same.2

theorem unpack_pack (wide : 1 < spec.exponentBits) {u : UnpackedFloat} (fits : Fits spec u) :
    unpack spec (pack spec u) = u := by
  refine eq_of_wordOf (fits_unpack _) fits ?_
  rw [← toNat_eq_wordOf valid_pack, toNat_pack wide fits]

theorem pack_unpack (wide : 1 < spec.exponentBits) {b : BitVec spec.numBits} (valid : spec.Valid b) :
    pack spec (unpack spec b) = b := by
  refine BitVec.eq_of_toNat_eq ?_
  rw [toNat_pack wide (fits_unpack b), toNat_eq_wordOf valid]

/-- Past the end of a format there is infinity. -/
theorem unpack_pack_overflow (wide : 1 < spec.exponentBits) {sign : Sign} {m : ℕ} {e : ℤ}
    (positive : 0 < m) (canonical : Canonical spec m e) (overflow : topRank spec ≤ rankOf spec m e) :
    unpack spec (pack spec (.finite sign m e positive)) = .infinity sign := by
  refine eq_of_wordOf (fits_unpack _) trivial ?_
  rw [← toNat_eq_wordOf valid_pack, toNat_pack_finite wide positive canonical, min_eq_right overflow]
  rfl

/-- But for the sign, the words of NaN are those beyond infinity. -/
theorem unpack_eq_notANumber_iff (b : BitVec spec.numBits) : unpack spec b = .notANumber ↔
    topRank spec < b.toNat % 2 ^ (spec.mantissaBitsWithoutImplicit + spec.exponentBits) := by
  have mantissa := (unpackMantissa b).isLt
  have exponent := (unpackExponent b).isLt
  have top := topRank_add spec
  have below : (unpackExponent b).toNat * 2 ^ spec.mantissaBitsWithoutImplicit +
      (unpackMantissa b).toNat < 2 ^ (spec.mantissaBitsWithoutImplicit + spec.exponentBits) := by
    have most := Nat.mul_le_mul_right (2 ^ spec.mantissaBitsWithoutImplicit) exponent
    rw [Nat.succ_mul] at most
    rw [pow_add, Nat.mul_comm _ (2 ^ spec.exponentBits)]
    omega
  rw [toNat_eq_fields b, Nat.mul_add_mod_self_right, Nat.mod_eq_of_lt below]
  rcases unpack_cases b with ⟨nan, full, marked⟩ | ⟨fits, -, distance⟩
  · have positive : 0 < (unpackMantissa b).toNat := by
      rwa [BitVec.toNat_pos, BitVec.pos_iff_ne_zero]
    rw [full, toNat_neg_one, topRank]
    exact iff_of_true nan (Nat.lt_add_of_pos_right positive)
  · rw [← distance]
    constructor
    · intro nan
      rw [nan]
      exact Nat.lt_add_of_pos_right (Nat.two_pow_pos _)
    · intro beyond
      by_contra number
      refine absurd (distanceOf_le fits ?_) beyond.not_ge
      cases same : unpack spec b with
      | notANumber => exact absurd same number
      | _ => rfl

end Format
end Facets.Number
