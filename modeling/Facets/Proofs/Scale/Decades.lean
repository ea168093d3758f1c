import Facets.Proofs.Scale.NearestLog

/-!
What the logarithmic scale shows of whole numbers. A bucket names the decade from its power of ten to
one below the next, and under a correctly rounded logarithm the whole numbers it holds lie in that
decade, with two exceptions: the last bucket also holds all that is larger, and some numbers just below
a power of ten have a logarithm that is rounded up to the power's. The scale's own logarithm is as good
as a correctly rounded one for all whole numbers but one on each side.
-/

namespace Facets.LogScale

open Number

/-- A whole number in the bucket of a decade that it only reaches when its logarithm is rounded. On the
right the last decade is shown together with the power of ten behind it. -/
def Misplaced (q : ℚ) : Prop := RoundedUp 17 q ∨ RoundedUp 18 (-q)

/-- The decades that the buckets show. On the left they run from one above a power of ten to the power
before it, and on the right from a power to one below the next. The bucket in the middle shows both of its
sides, and the last one ends at the power itself, which has no double one below it. -/
theorem shown_decades :
    (∀ d < 19, (edges (19 - d)).1.isFinite = true ∧ (edges (19 - d)).2.isFinite = true ∧
      toRat (edges (19 - d)).1 ≤ 1 - 10 ^ (d + 1) ∧ toRat (edges (19 - d)).2 = -10 ^ d) ∧
    (∀ d < 18, (edges (20 + d)).1.isFinite = true ∧ (edges (20 + d)).2.isFinite = true ∧
      toRat (edges (20 + d)).1 ≤ 10 ^ d ∧ 10 ^ (d + 1) - 1 ≤ toRat (edges (20 + d)).2) ∧
    (toRat (edges 20).1 = (-1 : ℤ) ∧ toRat (edges 20).2 = (9 : ℤ)) ∧
    (1e18 : Float).isFinite = true ∧ toRat 1e18 = (10 ^ 18 : ℤ) ∧
      toRat (edges 37).2 = (10 ^ 18 : ℤ) := by
  decide +kernel

section Whole

variable {log10 : Float → Float} {x : Float} {n : ℕ} (correct : CorrectlyRounded log10)
  (finite : x.isFinite = true) (small : n ≤ 2 ^ 63)

include correct finite small

/-- The whole numbers of a bucket on the left are those it shows. -/
theorem within_left (whole : toRat x = -n) (pos : n ≠ 0) (plain : ¬ RoundedUp 18 n) :
    (edges (bucketBy log10 x)).1 ≤ x ∧ x ≤ (edges (bucketBy log10 x)).2 := by
  have opposite : toRat (-x) = n := by rw [toRat_neg, whole, neg_neg]
  obtain ⟨passed, short⟩ := correct.level_spec ((isFinite_opposite x).trans finite) opposite pos small
    le_rfl plain
  have least : (1 : ℚ) ≤ n := by exact_mod_cast Nat.one_le_iff_ne_zero.mpr pos
  have bucket : bucketBy log10 x = 19 - min (level log10 (-x)) 18 := by
    rw [bucketBy_of_le correct.bounded finite (by linarith)]
    exact Nat.sub_max_sub_left 19 _ 18
  obtain ⟨first, last, start, stop⟩ :=
    shown_decades.1 (min (level log10 (-x)) 18) (Nat.lt_succ_of_le (min_le_right _ _))
  have next : n + 1 ≤ 10 ^ (min (level log10 (-x)) 18 + 1) := by
    rcases le_total (level log10 (-x)) 18 with few | many
    · rwa [min_eq_left few]
    · rw [min_eq_right many]
      exact (Nat.add_le_add_right small 1).trans (by decide)
  have beyond : (10 : ℚ) ^ min (level log10 (-x)) 18 ≤ n := by exact_mod_cast passed
  have below : (n : ℚ) + 1 ≤ 10 ^ (min (level log10 (-x)) 18 + 1) := by exact_mod_cast next
  rw [bucket, le_iff_toRat first finite, le_iff_toRat finite last, whole, stop]
  exact ⟨by linarith, by linarith⟩

/-- So are those of a bucket on the right, up to the last power of ten that is shown. What is larger is
in the last bucket. -/
theorem within_right (whole : toRat x = n) (above : 1 < n) (plain : ¬ RoundedUp 17 n) :
    (edges (bucketBy log10 x)).1 ≤ x ∧ (n ≤ 10 ^ 18 → x ≤ (edges (bucketBy log10 x)).2) ∧
      (10 ^ 18 < n → bucketBy log10 x = 37 ∧ (edges (bucketBy log10 x)).2 < x) := by
  obtain ⟨passed, short⟩ := correct.level_spec finite whole (by omega) small (by decide) plain
  have bucket : bucketBy log10 x = 20 + min (level log10 x) 17 := by
    rw [bucketBy_of_gt correct.bounded finite (by rw [whole]; exact_mod_cast above)]
    exact Nat.add_min_add_left 20 _ 17
  obtain ⟨-, decades, -, -, -, final⟩ := shown_decades
  obtain ⟨first, last, start, stop⟩ := decades (min (level log10 x) 17) (Nat.lt_succ_of_le (min_le_right _ _))
  have beyond : (10 : ℚ) ^ min (level log10 x) 17 ≤ n := by exact_mod_cast passed
  rw [bucket, le_iff_toRat first finite, le_iff_toRat finite last, double_lt_iff_toRat last finite,
    whole]
  refine ⟨start.trans beyond, fun within => ?_, fun far => ?_⟩
  · rcases Nat.lt_or_ge (level log10 x) 17 with fewer | most
    · have below : (n : ℚ) + 1 ≤ 10 ^ (level log10 x + 1) := by exact_mod_cast short
      rw [min_eq_left fewer.le] at stop ⊢
      linarith
    · rw [min_eq_right most, final]
      exact_mod_cast within
  · have most : 17 ≤ level log10 x := by
      by_contra! fewer
      have less : 10 ^ (level log10 x + 1) ≤ 10 ^ 18 := Nat.pow_le_pow_right (by decide) (by omega)
      omega
    rw [min_eq_right most, final]
    exact ⟨rfl, by exact_mod_cast far⟩

end Whole

/-- The double nearest to a stored integer is a whole number of at most 63 bits or the power of two behind
them. -/
theorem exists_whole_decode (raw : Int64) : (NumberKind.integer.decode raw).isFinite = true ∧
    ∃ n : ℤ, toRat (NumberKind.integer.decode raw) = n ∧ n.natAbs ≤ 2 ^ 63 := by
  rw [NumberKind.decode_integer]
  obtain ⟨finite, n, whole⟩ := exists_whole_ofInt (natAbs_toInt_le raw)
  refine ⟨finite, n, whole, ?_⟩
  have size : |(raw.toInt : ℚ)| ≤ 2 ^ 63 := by
    rw [← Int.cast_abs, ← Int.natCast_natAbs, Int.cast_natCast]
    exact_mod_cast natAbs_toInt_le raw
  have near := abs_rounded_le size
  rw [← (roundsTo_ofInt raw.toInt).toRat_eq finite, whole, ← Int.cast_abs, Int.abs_eq_natAbs] at near
  exact_mod_cast near

/-- Under a correctly rounded logarithm a stored integer lies in the range shown for its bucket, but for
what is larger than the last power of ten that is shown: that collapses into the last bucket, whose range
starts before it and ends before it. Nothing is said here of integers whose logarithm is rounded up to
the next power of ten. -/
theorem integers_within_shown_decades (log10 : Float → Float) (correct : CorrectlyRounded log10)
    (raw : Int64) (placed : ¬ Misplaced (toRat (NumberKind.integer.decode raw))) :
    let x := NumberKind.integer.decode raw
    let shown := edges (bucketBy log10 x)
    shown.1 ≤ x ∧ (x ≤ 1e18 → x ≤ shown.2) ∧
      (1e18 < x → bucketBy log10 x = 37 ∧ shown.2 < x) := by
  intro x shown
  obtain ⟨finite, n, whole, size⟩ := exists_whole_decode raw
  obtain ⟨right, left⟩ := not_or.mp placed
  obtain ⟨-, decades, ⟨start, stop⟩, fixed, power, -⟩ := shown_decades
  rw [le_iff_toRat finite fixed, double_lt_iff_toRat fixed finite, power, whole, Int.cast_le,
    Int.cast_lt]
  rcases le_or_gt n (-1) with below | above
  · have opposite : -(n : ℚ) = n.natAbs := by
      rw [Nat.cast_natAbs, abs_of_nonpos (by omega), Int.cast_neg]
    rw [whole, opposite] at left
    obtain ⟨first, last⟩ := within_left correct finite size (by rw [whole, ← opposite, neg_neg])
      (by omega) left
    exact ⟨first, fun _ => last, fun beyond => by omega⟩
  rcases le_or_gt n 1 with near | far
  · have middle : bucketBy log10 x = 20 := by
      refine bucketBy_of_near log10 finite ?_ ?_ <;> rw [whole]
      · exact_mod_cast above
      · exact_mod_cast near
    obtain ⟨first, last, -⟩ := decades 0 (by decide)
    simp only [shown, middle]
    rw [le_iff_toRat first finite, le_iff_toRat finite last, start, stop, whole, Int.cast_le,
      Int.cast_le]
    exact ⟨by omega, fun _ => by omega, fun beyond => by omega⟩
  · lift n to ℕ using by omega
    rw [whole, Int.cast_natCast] at right
    obtain ⟨first, last, beyond⟩ := within_right correct finite size whole (by omega) right
    exact ⟨first, fun within => last (by omega), fun less => beyond (by omega)⟩

/-- -999 is shown from -999 to -100, and 2 · 10^18 in the bucket from 10^17 to 10^18. -/
theorem integers_within_shown_decades_far :
    let near := NumberKind.integer.decode (-999)
    let far := NumberKind.integer.decode 2000000000000000000
    CorrectlyRounded nearestLog ∧
      (¬ Misplaced (toRat near) ∧ (edges (bucketBy nearestLog near)).1 ≤ near ∧
        near ≤ (edges (bucketBy nearestLog near)).2) ∧
      ¬ Misplaced (toRat far) ∧ (edges (bucketBy nearestLog far)).1 ≤ far ∧
        bucketBy nearestLog far = 37 ∧ (edges (bucketBy nearestLog far)).2 < far := by
  have evaluated : (¬ Misplaced (toRat (NumberKind.integer.decode (-999))) ∧
      NumberKind.integer.decode (-999) ≤ 1e18) ∧
      ¬ Misplaced (toRat (NumberKind.integer.decode 2000000000000000000)) ∧
      1e18 < NumberKind.integer.decode 2000000000000000000 := by
    unfold Misplaced RoundedUp
    decide +kernel
  obtain ⟨⟨placed, small⟩, collapsed, large⟩ := evaluated
  have correct := correctlyRounded_nearestLog
  have within := integers_within_shown_decades nearestLog correct (-999) placed
  have beyond := integers_within_shown_decades nearestLog correct 2000000000000000000 collapsed
  exact ⟨correct, ⟨placed, within.1, within.2.1 small⟩, collapsed, beyond.1, beyond.2.2 large⟩

/-- The range of the last bucket excludes 2 · 10^18, and that of the bucket from 10^15 on excludes
999999999999999, whose logarithm is rounded up to 15. -/
theorem integer_outside_shown_decade :
    let far := NumberKind.integer.decode 2000000000000000000
    let near := NumberKind.integer.decode 999999999999999
    CorrectlyRounded nearestLog ∧
      ¬ ((edges (bucketBy nearestLog far)).1 ≤ far ∧ far ≤ (edges (bucketBy nearestLog far)).2) ∧
      ¬ ((edges (bucketBy nearestLog near)).1 ≤ near ∧ near ≤ (edges (bucketBy nearestLog near)).2) := by
  intro far near
  have evaluated : (far.isFinite = true ∧ toRat far = (2000000000000000000 : ℕ) ∧
      ¬ far ≤ (edges 37).2) ∧
      near.isFinite = true ∧ toRat near = (999999999999999 : ℕ) ∧ ¬ (edges 35).1 ≤ near := by
    decide +kernel
  obtain ⟨⟨finite, whole, after⟩, finites, wholes, before⟩ := evaluated
  have correct := correctlyRounded_nearestLog
  have last : bucketBy nearestLog far = 37 := by
    rw [bucketBy_of_gt correct.bounded finite (by rw [whole]; norm_num),
      correct.level_eq_of_plain (d := 18) finite whole (by decide) (by decide) (by decide) (by decide)]
    rfl
  have next : bucketBy nearestLog near = 35 := by
    rw [bucketBy_of_gt correct.bounded finites (by rw [wholes]; norm_num),
      correct.level_eq_of_near (d := 14) finites wholes (by decide) (by decide) (by decide) (by decide)]
    rfl
  rw [last, next]
  exact ⟨correct, fun shown => after shown.2, fun shown => before shown.1⟩

section Measured

variable {log10 : Float → Float} {x : Float} {q : ℚ} {d i n : ℕ}

theorem lowest_le_pow (k : ℕ) : lowest k ≤ 10 ^ k := by
  have spread : 0 ≤ (roundedUp.getD (k - 1) 0 : ℚ) * spacing (Nat.pow 10 k) :=
    mul_nonneg (Nat.cast_nonneg _) (spacing_pos _).le
  have power : ((Nat.pow 10 k : ℕ) : ℚ) = 10 ^ k := Nat.cast_pow 10 k
  rw [lowest, power]
  linarith

/-- Where the numbers begin that count as having reached a power of ten. -/
theorem lowest_eq : (∀ d < 14, 10 ^ (d + 1) - 1 < lowest (d + 1) ∧ margin (d + 1) = 0) ∧
    lowest 15 = 10 ^ 15 - 2 ∧ lowest 16 = 10 ^ 16 - 20 ∧ lowest 17 = 10 ^ 17 - 400 ∧
    lowest 18 = 10 ^ 18 - 4096 := by
  decide +kernel

theorem spacing_le {n : ℕ} (pos : n ≠ 0) : spacing n ≤ n / 2 ^ 52 := by
  have log : (2 : ℚ) ^ Nat.log2 n ≤ n := by exact_mod_cast Nat.log2_self_le pos
  calc spacing n = 2 ^ Nat.log2 n / 2 ^ (52 : ℤ) := by
        rw [spacing, zpow_sub₀ two_ne_zero, zpow_natCast]
    _ ≤ n / 2 ^ 52 := div_le_div_of_nonneg_right log (by positivity)

/-- What is rounded up to a power of ten lies in the decade before it. -/
theorem pow_le_lowest (k : ℕ) : 10 ^ k ≤ lowest (k + 1) := by
  have power : ((Nat.pow 10 (k + 1) : ℕ) : ℚ) = 10 ^ k * 10 :=
    (Nat.cast_pow 10 (k + 1)).trans (pow_succ 10 k)
  have close : spacing (Nat.pow 10 (k + 1)) ≤ 10 ^ k * 10 / 2 ^ 52 :=
    power ▸ spacing_le (pow_ne_zero (k + 1) (by decide : 10 ≠ 0))
  have few : (roundedUp.getD k 0 : ℚ) ≤ 32 := by
    have all : ∀ count ∈ roundedUp, count ≤ 32 := by decide
    rw [List.getD_eq_getElem?_getD]
    cases held : roundedUp[k]? with
    | none => exact Nat.cast_zero.trans_le (by norm_num)
    | some count => exact_mod_cast all count (List.mem_of_getElem? held)
  have spread := mul_le_mul few close (zpow_nonneg zero_le_two _) (by norm_num)
  have whole : (0 : ℚ) < 10 ^ k := by positivity
  rw [lowest, Nat.add_sub_cancel, power]
  linarith

theorem lowest_mono (i : ℕ) : lowest (i + 1) ≤ lowest (i + 2) :=
  (lowest_le_pow (i + 1)).trans (pow_le_lowest (i + 1))

theorem lt_decade_iff : i < decade q ↔ i < 18 ∧ lowest (i + 1) ≤ q := by
  rw [decade, lt_countP_range, reaches, decide_eq_true_iff]
  intro i reached
  rw [reaches, decide_eq_true_iff] at reached ⊢
  exact (lowest_mono i).trans reached

/-- Among the whole numbers that are doubles, those that count as having reached a power of ten are
those with a logarithm that is rounded up to the power's, but for the first before the eighteenth. -/
theorem lowest_le_iff (few : d < 18) (grid : OnGrid n) (low : 10 ^ d ≤ n) (below : n < 10 ^ (d + 1))
    (apart : n ≠ 10 ^ 18 - 4096) : lowest (d + 1) ≤ n ↔ 10 ^ (d + 1) ≤ n + margin (d + 1) := by
  obtain ⟨small, first, second, third, fourth⟩ := lowest_eq
  rcases Nat.lt_or_ge d 14 with fewer | many
  · obtain ⟨late, none⟩ := small d fewer
    have next : (n : ℚ) + 1 ≤ 10 ^ (d + 1) := by exact_mod_cast below
    rw [none]
    exact iff_of_false (by linarith) below.not_ge
  -- doubles of that size are multiples of their distance
  have multiple (k : ℕ) (large : 2 ^ 52 * 2 ^ k ≤ n) : ∃ m : ℤ, (n : ℤ) = m * 2 ^ k := by
    have size : (2 : ℚ) ^ 52 * 2 ^ (k : ℤ) ≤ |(n : ℚ)| := by
      rw [zpow_natCast, Nat.abs_cast]
      exact_mod_cast large
    obtain ⟨m, value⟩ := grid.exists_multiple size
    exact ⟨m, by exact_mod_cast value⟩
  have counted (k c : ℕ) : (10 : ℚ) ^ k - c ≤ n ↔ 10 ^ k ≤ n + c := by
    rw [sub_le_iff_le_add]
    exact_mod_cast Iff.rfl
  obtain rfl | rfl | rfl | rfl : d = 14 ∨ d = 15 ∨ d = 16 ∨ d = 17 := by omega
  · rw [first]
    exact counted 15 2
  · rw [second]
    exact counted 16 20
  · rw [third]
    refine (counted 17 400).trans ?_
    rw [margin]
    rcases Nat.lt_or_ge n (2 ^ 52 * 2 ^ 4) with far | near
    · omega
    · obtain ⟨m, value⟩ := multiple 4 near
      omega
  · rw [fourth]
    refine (counted 18 4096).trans ?_
    rw [margin]
    rcases Nat.lt_or_ge n (2 ^ 52 * 2 ^ 7) with far | near
    · omega
    · obtain ⟨m, value⟩ := multiple 7 near
      omega

/-- By the number of powers of ten that it has reached a whole number is in the decade of a correctly
rounded logarithm. -/
theorem decade_eq_level (correct : CorrectlyRounded log10) (finite : x.isFinite = true)
    (whole : toRat x = n) (pos : n ≠ 0) (small : n ≤ 2 ^ 63) (apart : n ≠ 10 ^ 18 - 4096) :
    decade n = level log10 x := by
  have low : 10 ^ Nat.log 10 n ≤ n := Nat.pow_log_le_self 10 pos
  have below : n < 10 ^ (Nat.log 10 n + 1) := Nat.lt_pow_succ_log_self (by decide) n
  have grid : OnGrid n := whole ▸ onGrid_toRat finite
  obtain ⟨up, digits⟩ := correct.level_eq finite whole pos small
  rw [roundedUp_iff le_rfl pos] at up digits
  have few : Nat.log 10 n < 19 := Nat.log_lt_of_lt_pow pos (small.trans_lt (by decide))
  have reached : Nat.log 10 n ≤ decade n := by
    cases logs : Nat.log 10 n with
    | zero => exact Nat.zero_le _
    | succ d =>
      rw [logs] at low few
      refine lt_decade_iff.mpr ⟨by omega, (lowest_le_pow (d + 1)).trans ?_⟩
      exact_mod_cast low
  have last : decade n ≤ Nat.log 10 n + 1 := by
    by_contra! beyond
    have passed := (pow_le_lowest _).trans (lt_decade_iff.mp beyond).2
    exact below.not_ge (by exact_mod_cast passed)
  by_cases rounded : Nat.log 10 n < 18 ∧ 10 ^ (Nat.log 10 n + 1) ≤ n + margin (Nat.log 10 n + 1)
  · rw [up rounded]
    have next := lt_decade_iff.mpr ⟨rounded.1,
      (lowest_le_iff rounded.1 grid low below apart).mpr rounded.2⟩
    omega
  · rw [digits rounded]
    refine reached.antisymm' (not_lt.mp fun next => rounded ?_)
    obtain ⟨few, passed⟩ := lt_decade_iff.mp next
    exact ⟨few, (lowest_le_iff few grid low below apart).mp passed⟩

/-- So the scale puts whole numbers where a correctly rounded logarithm does. -/
theorem bucketOf_eq_of_whole (correct : CorrectlyRounded log10) (finite : x.isFinite = true) {n : ℤ}
    (whole : toRat x = n) (small : n.natAbs ≤ 2 ^ 63) (apart : n.natAbs ≠ 10 ^ 18 - 4096) :
    bucketOf x = bucketBy log10 x := by
  rw [bucketOf_of_isFinite finite, bucketOfRat]
  rcases le_or_gt n (-1) with below | above
  · have opposite : -toRat x = n.natAbs := by
      rw [whole, Nat.cast_natAbs, abs_of_nonpos (by omega), Int.cast_neg]
    have decades := decade_eq_level correct ((isFinite_opposite x).trans finite)
      ((toRat_neg x).trans opposite) (by omega) small apart
    have left : toRat x ≤ -1 := by
      rw [whole]
      exact_mod_cast below
    have few := decade_le n.natAbs
    rw [if_pos left, bucketBy_of_le correct.bounded finite left, opposite, ← decades,
      max_eq_left (by omega)]
  have outside : ¬ toRat x ≤ -1 := by
    rw [whole]
    exact_mod_cast above.not_ge
  rw [if_neg outside]
  rcases le_or_gt n 1 with near | far
  · have middle : toRat x ≤ 1 := by
      rw [whole]
      exact_mod_cast near
    rw [if_neg middle.not_gt, bucketBy_of_near log10 finite (not_le.mp outside) middle]
  · lift n to ℕ using by omega
    have right : 1 < toRat x := by
      rw [whole]
      exact_mod_cast far
    rw [if_pos right, bucketBy_of_gt correct.bounded finite right, whole, Int.cast_natCast,
      decade_eq_level correct finite whole (by omega) small apart]
    exact (Nat.add_min_add_left 20 _ 17).symm

end Measured

end Facets.LogScale
