import Facets.Proofs.Scale.Snapping

/-!
Logarithms and the logarithmic scale. A number belongs to the decade of its common logarithm, and that
logarithm is a float itself. Whichever one is taken, as long as it does not fall, is zero at one and
stays below 309, the buckets are ordered as the numbers are, and the buckets of the infinities and of
NaN hold nothing else. The buckets of the scale are those of such a logarithm.
-/

namespace Facets

open Number
open Float.Model (UnpackedFloat)

namespace Number

variable {x y : Float}

theorem double_le_of_lt (less : x < y) : x ≤ y := by
  rw [double_lt_iff_lt, UnpackedFloat.lt] at less
  rw [double_le_iff_le, UnpackedFloat.le, eq_of_beq less]
  rfl

/-- What lies between two finite floats is finite. -/
theorem isFinite_of_between {low high : Float} (first : low.isFinite = true)
    (last : high.isFinite = true) (above : low ≤ x) (below : x ≤ high) : x.isFinite = true := by
  have number := (isNaN_of_le above).2
  rw [line_le_iff (isNaN_of_isFinite first) number, lineOf_of_isFinite first] at above
  rw [line_le_iff number (isNaN_of_isFinite last), lineOf_of_isFinite last] at below
  rw [isFinite_iff_abs_lineOf_lt number, abs_lt]
  exact ⟨(abs_lt.mp (abs_toRat_lt first)).1.trans_le above,
    below.trans_lt (abs_lt.mp (abs_toRat_lt last)).2⟩

end Number

namespace LogScale

/-- A common logarithm of floats that, from one on, is not negative and stays below 309. -/
structure Bounded (log10 : Float → Float) : Prop where
  nonneg : ∀ x, x.isFinite = true → 1.0 ≤ x → 0.0 ≤ log10 x
  lt : ∀ x, x.isFinite = true → 1.0 ≤ x → log10 x < 309.0

/-- A common logarithm of floats that, from one on, does not fall, starts at zero and stays below
309. -/
structure Logarithm (log10 : Float → Float) : Prop where
  mono : ∀ x y, y.isFinite = true → 1.0 ≤ x → x ≤ y → log10 x ≤ log10 y
  one : log10 1.0 = 0.0
  lt : ∀ x, x.isFinite = true → 1.0 ≤ x → log10 x < 309.0

/-- The whole part of a logarithm, as a 32-bit integer. -/
def magnitude (log10 : Float → Float) (x : Float) : Int32 :=
  .ofIntClamp (toInt64 Rat.floor (log10 x)).toInt

/-- The bucket of a number by its logarithm, counted in 32 bits. -/
def bucketBy (log10 : Float → Float) (x : Float) : Ordinal :=
  if Specials.isNegativeInfinity x then 0
  else if Specials.isPositiveInfinity x then 38
  else if x.isNaN then 39
  else
    let ordinal : Int32 :=
      if x ≤ -1.0 then max (19 - magnitude log10 (-x)) 1
      else if 1.0 < x then min (20 + magnitude log10 x) 37
      else 20
    ordinal.toUInt32.toNat

/-- The decade of a number by its logarithm. -/
def level (log10 : Float → Float) (x : Float) : ℕ := (toRat (log10 x)).floor.toNat

section Bounded

variable {log10 : Float → Float} {x y : Float}

/-- The ends of the regions of the scale and of its logarithms, as numbers. -/
theorem ends_eq : ((-1.0 : Float).isFinite = true ∧ toRat (-1.0) = -1) ∧
    ((0.0 : Float).isFinite = true ∧ toRat 0.0 = 0) ∧
    ((1.0 : Float).isFinite = true ∧ toRat 1.0 = 1) ∧
    (309.0 : Float).isFinite = true ∧ toRat 309.0 = 309 := by
  decide +kernel

theorem le_neg_one_iff (finite : x.isFinite = true) : x ≤ -1.0 ↔ toRat x ≤ -1 := by
  rw [le_iff_toRat finite ends_eq.1.1, ends_eq.1.2]

theorem neg_one_lt_iff (finite : x.isFinite = true) : -1.0 < x ↔ -1 < toRat x := by
  rw [double_lt_iff_toRat ends_eq.1.1 finite, ends_eq.1.2]

theorem zero_le_iff (finite : x.isFinite = true) : 0.0 ≤ x ↔ 0 ≤ toRat x := by
  rw [le_iff_toRat ends_eq.2.1.1 finite, ends_eq.2.1.2]

theorem le_one_iff (finite : x.isFinite = true) : x ≤ 1.0 ↔ toRat x ≤ 1 := by
  rw [le_iff_toRat finite ends_eq.2.2.1.1, ends_eq.2.2.1.2]

theorem one_le_iff (finite : x.isFinite = true) : 1.0 ≤ x ↔ 1 ≤ toRat x := by
  rw [le_iff_toRat ends_eq.2.2.1.1 finite, ends_eq.2.2.1.2]

theorem one_lt_iff (finite : x.isFinite = true) : 1.0 < x ↔ 1 < toRat x := by
  rw [double_lt_iff_toRat ends_eq.2.2.1.1 finite, ends_eq.2.2.1.2]

theorem lt_end_iff (finite : x.isFinite = true) : x < 309.0 ↔ toRat x < 309 := by
  rw [double_lt_iff_toRat finite ends_eq.2.2.2.1, ends_eq.2.2.2.2]

theorem Logarithm.bounded (logarithm : Logarithm log10) : Bounded log10 where
  nonneg x finite above := by
    have self : (1.0 : Float) ≤ 1.0 := (one_le_iff ends_eq.2.2.1.1).mpr ends_eq.2.2.1.2.ge
    exact logarithm.one ▸ logarithm.mono 1.0 x finite self above
  lt := logarithm.lt

theorem Bounded.isFinite (bounded : Bounded log10) (finite : x.isFinite = true) (above : 1.0 ≤ x) :
    (log10 x).isFinite = true :=
  isFinite_of_between ends_eq.2.1.1 ends_eq.2.2.2.1 (bounded.nonneg x finite above)
    (double_le_of_lt (bounded.lt x finite above))

/-- In the range of whole parts nothing is lost in 32 bits. -/
theorem counted_in_words : ∀ k < 309, Int32.ofIntClamp ((k : ℕ) : ℤ) = .ofNat k ∧
    (max (19 - Int32.ofNat k) 1).toUInt32.toNat = max (19 - k) 1 ∧
    (min (20 + Int32.ofNat k) 37).toUInt32.toNat = min (20 + k) 37 := by
  decide +kernel

/-- No bits of the whole part of a logarithm are lost. -/
theorem magnitude_eq (bounded : Bounded log10) (finite : x.isFinite = true) (above : 1.0 ≤ x) :
    level log10 x < 309 ∧ magnitude log10 x = .ofNat (level log10 x) := by
  have least := bounded.nonneg x finite above
  have most := bounded.lt x finite above
  have held := bounded.isFinite finite above
  rw [zero_le_iff held] at least
  rw [lt_end_iff held] at most
  have positive : 0 ≤ (toRat (log10 x)).floor := Rat.le_floor_iff.mpr (by simpa using least)
  have small : (toRat (log10 x)).floor < 309 := Rat.floor_lt_iff.mpr (by simpa using most)
  have cast : ((level log10 x : ℕ) : ℤ) = (toRat (log10 x)).floor := Int.toNat_of_nonneg positive
  have below : level log10 x < 309 := by omega
  refine ⟨below, ?_⟩
  rw [magnitude, toInt64_of_isFinite held, toInt_ofIntClamp, ← cast, min_eq_left (by omega),
    max_eq_right (by omega), (counted_in_words _ below).1]

theorem special_of_isFinite (finite : x.isFinite = true) :
    Specials.isNegativeInfinity x = false ∧ Specials.isPositiveInfinity x = false ∧
      x.isNaN = false := by
  change x.toModel.unpack.isFinite = true at finite
  refine ⟨?_, ?_, isNaN_of_isFinite finite⟩ <;>
    rw [Bool.eq_false_iff, ne_eq]
  · rw [Specials.isNegativeInfinity_iff]
    intro infinite
    rw [infinite] at finite
    cases finite
  · rw [Specials.isPositiveInfinity_iff]
    intro infinite
    rw [infinite] at finite
    cases finite

theorem bucketBy_of_le (bounded : Bounded log10) (finite : x.isFinite = true)
    (below : toRat x ≤ -1) : bucketBy log10 x = max (19 - level log10 (-x)) 1 := by
  obtain ⟨low, high, number⟩ := special_of_isFinite finite
  have opposite : 1.0 ≤ -x := by
    rw [one_le_iff ((isFinite_opposite x).trans finite), toRat_neg]
    linarith
  obtain ⟨small, whole⟩ := magnitude_eq bounded ((isFinite_opposite x).trans finite) opposite
  simp only [bucketBy, low, high, number, (le_neg_one_iff finite).mpr below, if_true, whole,
    Bool.false_eq_true, if_false]
  exact (counted_in_words _ small).2.1

theorem bucketBy_of_gt (bounded : Bounded log10) (finite : x.isFinite = true)
    (above : 1 < toRat x) : bucketBy log10 x = min (20 + level log10 x) 37 := by
  obtain ⟨low, high, number⟩ := special_of_isFinite finite
  have apart : ¬ x ≤ -1.0 := by
    rw [le_neg_one_iff finite]
    linarith
  obtain ⟨small, whole⟩ := magnitude_eq bounded finite ((one_le_iff finite).mpr above.le)
  simp only [bucketBy, low, high, number, apart, (one_lt_iff finite).mpr above, if_true, whole,
    Bool.false_eq_true, if_false]
  exact (counted_in_words _ small).2.2

theorem bucketBy_of_near (log10 : Float → Float) (finite : x.isFinite = true)
    (above : -1 < toRat x) (below : toRat x ≤ 1) : bucketBy log10 x = 20 := by
  obtain ⟨low, high, number⟩ := special_of_isFinite finite
  have apart : ¬ x ≤ -1.0 := by
    rw [le_neg_one_iff finite]
    linarith
  have near : ¬ 1.0 < x := by
    rw [one_lt_iff finite]
    linarith
  simp only [bucketBy, low, high, number, apart, near, Bool.false_eq_true, if_false]
  rfl

end Bounded

/-- What a division of the numbers into forty buckets keeps of their order: no bucket comes before that
of a lesser number, the infinities and NaN have their buckets to themselves, and of finite numbers those
up to -1 are on the left of the middle bucket and those above it in the middle bucket or on its right. -/
structure Ordered (bucketOf : Float → Ordinal) : Prop where
  mono : ∀ {a b : Float}, a ≤ b → bucketOf a ≤ bucketOf b
  bottom : ∀ x, bucketOf x = 0 ↔ Specials.isNegativeInfinity x = true
  top : ∀ x, bucketOf x = 38 ↔ Specials.isPositiveInfinity x = true
  nan : ∀ x, bucketOf x = 39 ↔ x.isNaN = true
  negative : ∀ x, x.isFinite = true → (1 ≤ bucketOf x ∧ bucketOf x ≤ 19 ↔ x ≤ -1.0)
  middle : ∀ x, x.isFinite = true → -1.0 < x → x ≤ 1.0 → bucketOf x = 20
  positive : ∀ x, x.isFinite = true → (20 ≤ bucketOf x ∧ bucketOf x ≤ 37 ↔ -1.0 < x)

section Ordered

variable {log10 : Float → Float} {x y : Float}

/-- The bucket of an infinity. -/
def bucketAtEnd : UnpackedFloat.Sign → Ordinal
  | .negative => 0
  | .positive => 38

theorem bucketBy_of_unpack_infinity {sign : UnpackedFloat.Sign} (log10 : Float → Float)
    (infinite : x.toModel.unpack = .infinity sign) :
    bucketBy log10 x = bucketAtEnd sign := by
  cases sign with
  | negative => exact if_pos (Specials.isNegativeInfinity_iff.mpr infinite)
  | positive =>
    have apart : ¬ Specials.isNegativeInfinity x = true := by
      rw [Specials.isNegativeInfinity_iff, infinite]
      simp
    exact (if_neg apart).trans (if_pos (Specials.isPositiveInfinity_iff.mpr infinite))

theorem bucketBy_of_isNaN (log10 : Float → Float) (nan : x.isNaN = true) :
    bucketBy log10 x = 39 := by
  have unpacked := (isNaN_iff _).mp nan
  have low : ¬ Specials.isNegativeInfinity x = true := by
    rw [Specials.isNegativeInfinity_iff, unpacked]
    simp
  have high : ¬ Specials.isPositiveInfinity x = true := by
    rw [Specials.isPositiveInfinity_iff, unpacked]
    simp
  exact (if_neg low).trans ((if_neg high).trans (if_pos nan))

/-- A float is NaN, an infinity, or finite and in one of the three regions of the scale. -/
theorem region_cases (x : Float) : x.isNaN = true ∨
    (∃ sign, x.toModel.unpack = .infinity sign) ∨
    x.isFinite = true ∧ (toRat x ≤ -1 ∨ -1 < toRat x ∧ toRat x ≤ 1 ∨ 1 < toRat x) := by
  cases number : x.isNaN with
  | true => exact Or.inl rfl
  | false =>
    rcases number_cases number with finite | infinite
    · refine Or.inr (Or.inr ⟨finite, ?_⟩)
      rcases le_or_gt (toRat x) (-1) with below | above
      · exact Or.inl below
      · exact Or.inr ((le_or_gt (toRat x) 1).imp_left fun below => ⟨above, below⟩)
    · exact Or.inr (Or.inl infinite)

/-- The finite buckets of each region. -/
theorem bucketBy_bounds (bounded : Bounded log10) (finite : x.isFinite = true) :
    (toRat x ≤ -1 → 1 ≤ bucketBy log10 x ∧ bucketBy log10 x ≤ 19) ∧
      (-1 < toRat x → 20 ≤ bucketBy log10 x ∧ bucketBy log10 x ≤ 37) := by
  refine ⟨fun below => ?_, fun above => ?_⟩
  · rw [bucketBy_of_le bounded finite below]
    exact ⟨le_max_right _ _, max_le (Nat.sub_le _ _) (by decide)⟩
  · rcases le_or_gt (toRat x) 1 with near | far
    · rw [bucketBy_of_near log10 finite above near]
      exact ⟨le_rfl, by decide⟩
    · rw [bucketBy_of_gt bounded finite far]
      exact ⟨le_min (Nat.le_add_right _ _) (by decide), min_le_right _ _⟩

theorem level_mono (logarithm : Logarithm log10) (finite : x.isFinite = true)
    (finites : y.isFinite = true) (above : 1 ≤ toRat x) (le : toRat x ≤ toRat y) :
    level log10 x ≤ level log10 y := by
  have first := (one_le_iff finite).mpr above
  have second := (one_le_iff finites).mpr (above.trans le)
  have grows := logarithm.mono x y finites first ((le_iff_toRat finite finites).mpr le)
  rw [le_iff_toRat (logarithm.bounded.isFinite finite first)
    (logarithm.bounded.isFinite finites second)] at grows
  exact Int.toNat_le_toNat (Rat.floor_monotone grows)

theorem bucketBy_mono_of_isFinite (logarithm : Logarithm log10) (finite : x.isFinite = true)
    (finites : y.isFinite = true) (le : toRat x ≤ toRat y) :
    bucketBy log10 x ≤ bucketBy log10 y := by
  have bounded := logarithm.bounded
  rcases le_or_gt (toRat y) (-1) with below | above
  · have levels := level_mono logarithm ((isFinite_opposite y).trans finites)
      ((isFinite_opposite x).trans finite) (by rw [toRat_neg]; linarith)
      (by rw [toRat_neg, toRat_neg]; linarith)
    rw [bucketBy_of_le bounded finite (le.trans below), bucketBy_of_le bounded finites below]
    exact max_le_max_right _ (Nat.sub_le_sub_left levels _)
  have right := ((bucketBy_bounds bounded finites).2 above).1
  rcases le_or_gt (toRat x) (-1) with left | near
  · exact (((bucketBy_bounds bounded finite).1 left).2.trans (by decide)).trans right
  rcases le_or_gt (toRat x) 1 with inner | outer
  · rw [bucketBy_of_near log10 finite near inner]
    exact right
  · rw [bucketBy_of_gt bounded finite outer, bucketBy_of_gt bounded finites (outer.trans_le le)]
    exact min_le_min_right _ (Nat.add_le_add_left (level_mono logarithm finite finites outer.le le) _)

/-- Only the infinities and NaN are outside of the finite buckets. -/
theorem bucketBy_mem_finite (bounded : Bounded log10) (finite : x.isFinite = true) :
    1 ≤ bucketBy log10 x ∧ bucketBy log10 x ≤ 37 := by
  rcases le_or_gt (toRat x) (-1) with below | above
  · exact ((bucketBy_bounds bounded finite).1 below).imp_right fun le => le.trans (by decide)
  · exact ((bucketBy_bounds bounded finite).2 above).imp_left fun le => le_trans (by decide) le

/-- A float is NaN, an infinity, or in a finite bucket. -/
theorem bucketBy_cases (bounded : Bounded log10) (x : Float) :
    (x.isNaN = true ∧ bucketBy log10 x = 39) ∨
    (∃ sign, x.toModel.unpack = .infinity sign ∧ bucketBy log10 x = bucketAtEnd sign) ∨
    (1 ≤ bucketBy log10 x ∧ bucketBy log10 x ≤ 37) := by
  rcases region_cases x with nan | ⟨sign, infinite⟩ | ⟨finite, -⟩
  · exact Or.inl ⟨nan, bucketBy_of_isNaN log10 nan⟩
  · exact Or.inr (Or.inl ⟨sign, infinite, bucketBy_of_unpack_infinity log10 infinite⟩)
  · exact Or.inr (Or.inr (bucketBy_mem_finite bounded finite))

theorem bucketBy_eq_zero_iff (bounded : Bounded log10) (x : Float) :
    bucketBy log10 x = 0 ↔ Specials.isNegativeInfinity x = true := by
  refine ⟨fun zero => ?_, fun infinite => if_pos infinite⟩
  rcases bucketBy_cases bounded x with ⟨-, bucket⟩ | ⟨sign, infinite, bucket⟩ | ⟨least, -⟩
  · cases zero.symm.trans bucket
  · cases sign with
    | negative => exact Specials.isNegativeInfinity_iff.mpr infinite
    | positive => cases zero.symm.trans bucket
  · cases least.trans_eq zero

theorem bucketBy_eq_top_iff (bounded : Bounded log10) (x : Float) :
    bucketBy log10 x = 38 ↔ Specials.isPositiveInfinity x = true := by
  refine ⟨fun last => ?_, fun infinite =>
    bucketBy_of_unpack_infinity log10 (Specials.isPositiveInfinity_iff.mp infinite)⟩
  rcases bucketBy_cases bounded x with ⟨-, bucket⟩ | ⟨sign, infinite, bucket⟩ | ⟨-, most⟩
  · cases last.symm.trans bucket
  · cases sign with
    | negative => cases last.symm.trans bucket
    | positive => exact Specials.isPositiveInfinity_iff.mpr infinite
  · exact absurd (last.symm.trans_le most) (by decide)

theorem bucketBy_eq_nan_iff (bounded : Bounded log10) (x : Float) :
    bucketBy log10 x = 39 ↔ x.isNaN = true := by
  refine ⟨fun last => ?_, bucketBy_of_isNaN log10⟩
  rcases bucketBy_cases bounded x with ⟨nan, -⟩ | ⟨sign, -, bucket⟩ | ⟨-, most⟩
  · exact nan
  · cases sign <;> cases last.symm.trans bucket
  · exact absurd (last.symm.trans_le most) (by decide)

/-- There are forty buckets by any logarithm within bounds. -/
theorem bucketBy_lt (bounded : Bounded log10) (x : Float) : bucketBy log10 x < size := by
  rcases bucketBy_cases bounded x with ⟨-, bucket⟩ | ⟨sign, -, bucket⟩ | ⟨-, most⟩
  · exact bucket.trans_lt (by decide)
  · exact bucket.trans_lt (by cases sign <;> decide)
  · exact most.trans_lt (by decide)

theorem bucketBy_mono (logarithm : Logarithm log10) (le : x ≤ y) :
    bucketBy log10 x ≤ bucketBy log10 y := by
  obtain ⟨number, numbers⟩ := isNaN_of_le le
  rw [line_le_iff number numbers] at le
  rcases number_cases number with finite | ⟨sign, infinite⟩
  · rcases number_cases numbers with finites | ⟨other, infinites⟩
    · rw [lineOf_of_isFinite finite, lineOf_of_isFinite finites] at le
      exact bucketBy_mono_of_isFinite logarithm finite finites le
    · cases other with
      | negative =>
        rw [lineOf_of_isFinite finite, lineOf, infinites] at le
        exact absurd le (abs_lt.mp (abs_toRat_lt finite)).1.not_ge
      | positive =>
        rw [bucketBy_of_unpack_infinity log10 infinites]
        exact (bucketBy_mem_finite logarithm.bounded finite).2.trans (by decide)
  · cases sign with
    | negative =>
      rw [bucketBy_of_unpack_infinity log10 infinite]
      exact Nat.zero_le _
    | positive =>
      -- nothing else lies at the upper end of the line
      rcases number_cases numbers with finites | ⟨other, infinites⟩
      · rw [lineOf_of_isFinite finites, lineOf, infinite] at le
        exact absurd le (abs_lt.mp (abs_toRat_lt finites)).2.not_ge
      · cases other with
        | negative =>
          rw [lineOf, lineOf, infinite, infinites] at le
          exact absurd le (neg_lt_self lineEnd_pos).not_ge
        | positive =>
          rw [bucketBy_of_unpack_infinity log10 infinite,
            bucketBy_of_unpack_infinity log10 infinites]

theorem ordered_bucketBy (logarithm : Logarithm log10) : Ordered (bucketBy log10) where
  mono := bucketBy_mono logarithm
  bottom := bucketBy_eq_zero_iff logarithm.bounded
  top := bucketBy_eq_top_iff logarithm.bounded
  nan := bucketBy_eq_nan_iff logarithm.bounded
  negative x finite := by
    obtain ⟨left, right⟩ := bucketBy_bounds logarithm.bounded finite
    rw [le_neg_one_iff finite]
    refine ⟨fun inside => ?_, left⟩
    by_contra! above
    exact absurd ((right above).1.trans inside.2) (by decide)
  middle x finite above below := by
    rw [neg_one_lt_iff finite] at above
    rw [le_one_iff finite] at below
    exact bucketBy_of_near log10 finite above below
  positive x finite := by
    obtain ⟨left, right⟩ := bucketBy_bounds logarithm.bounded finite
    rw [neg_one_lt_iff finite]
    refine ⟨fun inside => ?_, right⟩
    by_contra! below
    exact absurd (inside.1.trans (left below).2) (by decide)

end Ordered

section Decade

/-- The decade of a number, as a logarithm without its fraction. -/
def wholeLog (x : Float) : Float := ofInt (decade (toRat x))

variable {x : Float} {q r : ℚ}

theorem decade_le (q : ℚ) : decade q ≤ 18 :=
  List.countP_le_length.trans_eq List.length_range

theorem decade_mono (le : q ≤ r) : decade q ≤ decade r := by
  refine List.countP_mono_left fun k _ reached => ?_
  simp only [reaches, decide_eq_true_eq] at reached ⊢
  exact reached.trans le

theorem toRat_wholeLog (x : Float) : toRat (wholeLog x) = decade (toRat x) ∧
    (wholeLog x).isFinite = true := by
  have most := decade_le (toRat x)
  exact toRat_ofInt (isDouble_of_le (by omega)) (by omega)

theorem logarithm_wholeLog : Logarithm wholeLog where
  mono x y finites above le := by
    have finite := isFinite_of_between ends_eq.2.2.1.1 finites above le
    rw [le_iff_toRat finite finites] at le
    rw [le_iff_toRat (toRat_wholeLog x).2 (toRat_wholeLog y).2, (toRat_wholeLog x).1,
      (toRat_wholeLog y).1, Nat.cast_le]
    exact decade_mono le
  one := by decide +kernel
  lt x _ _ := by
    have most : (decade (toRat x) : ℚ) ≤ 18 := by exact_mod_cast decade_le (toRat x)
    rw [lt_end_iff (toRat_wholeLog x).2, (toRat_wholeLog x).1]
    linarith

theorem level_wholeLog (x : Float) : level wholeLog x = decade (toRat x) := by
  rw [level, (toRat_wholeLog x).1, ← Int.cast_natCast, Rat.floor_intCast, Int.toNat_natCast]

theorem bucketOf_of_isFinite (finite : x.isFinite = true) : bucketOf x = bucketOfRat (toRat x) := by
  change x.toModel.unpack.isFinite = true at finite
  unfold bucketOf
  rcases finite_cases finite with ⟨sign, zero⟩ | ⟨sign, m, e, filled, value⟩
  · rw [zero]
  · rw [value]

/-- The scale divides numbers by a logarithm. -/
theorem bucketOf_eq_bucketBy : bucketOf = bucketBy wholeLog := by
  funext x
  rcases region_cases x with nan | ⟨sign, infinite⟩ | ⟨finite, region⟩
  · rw [bucketBy_of_isNaN wholeLog nan, bucketOf, (isNaN_iff _).mp nan]
  · cases sign <;>
      simp only [bucketBy_of_unpack_infinity wholeLog infinite, bucketOf, infinite, bucketAtEnd]
  have bounded := logarithm_wholeLog.bounded
  rw [bucketOf_of_isFinite finite, bucketOfRat]
  rcases region with below | ⟨above, near⟩ | above
  · have most := decade_le (-toRat x)
    have left : 1 ≤ 19 - decade (-toRat x) := by omega
    rw [if_pos below, bucketBy_of_le bounded finite below, level_wholeLog, toRat_neg, max_eq_left left]
  · rw [if_neg above.not_ge, if_neg near.not_gt, bucketBy_of_near wholeLog finite above near]
  · rw [if_neg (by linarith), if_pos above, bucketBy_of_gt bounded finite above, level_wholeLog]
    exact (Nat.add_min_add_left 20 _ 17).symm

end Decade

/-- The buckets of the logarithmic scale are ordered as the numbers are and keep apart what is no
decade, and so would the buckets by any other logarithm that does not fall, is zero at one and stays
below 309. -/
theorem buckets_ordered :
    Ordered bucketOf ∧ ∀ log10, Logarithm log10 → Ordered (bucketBy log10) :=
  ⟨bucketOf_eq_bucketBy ▸ ordered_bucketBy logarithm_wholeLog, fun _ => ordered_bucketBy⟩

/-- By the logarithm without its fraction -250 comes before 999.5, each in the third decade of its
side. -/
theorem buckets_ordered_wholeLog :
    Logarithm wholeLog ∧ (-250.0 : Float) ≤ 999.5 ∧
      bucketBy wholeLog (-250.0) ≤ bucketBy wholeLog 999.5 ∧
      bucketOf (-250.0) = 17 ∧ bucketOf 999.5 = 22 := by
  have evaluated : (-250.0 : Float) ≤ 999.5 ∧ bucketOf (-250.0) = 17 ∧ bucketOf 999.5 = 22 := by
    decide +kernel
  exact ⟨logarithm_wholeLog, evaluated.1,
    (buckets_ordered.2 wholeLog logarithm_wholeLog).mono evaluated.1, evaluated.2⟩

end LogScale

end Facets
