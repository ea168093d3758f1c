import Facets.Proofs.Number.Sortable
import Facets.Proofs.Scale.Snapping

/-!
What a linear scale is fitted to. Its ends are the lowest and the highest finite value of a pass, and
on whole numbers its buckets are ordered as the values are, one value or many.
-/

namespace Facets

/-- An operation that selects the better of two elements selects the best of a list. -/
theorem foldl_selects {α : Type} {op : α → α → α} {r : α → α → Prop} (refl : ∀ a, r a a)
    (trans : ∀ {a b c}, r a b → r b c → r a c)
    (selects : ∀ a b, op a b = a ∨ op a b = b)
    (improves : ∀ a b, r (op a b) a ∧ r (op a b) b) (a : α) (xs : List α) :
    xs.foldl op a ∈ a :: xs ∧ ∀ b ∈ a :: xs, r (xs.foldl op a) b := by
  induction xs generalizing a with
  | nil => exact ⟨List.mem_cons_self, fun b member => List.mem_singleton.mp member ▸ refl b⟩
  | cons c rest ih =>
    obtain ⟨member, best⟩ := ih (op a c)
    obtain ⟨first, second⟩ := improves a c
    have better := best _ List.mem_cons_self
    simp only [List.foldl_cons, List.mem_cons] at member best ⊢
    refine ⟨?_, ?_⟩
    · rcases member with same | later
      · rw [same]
        exact (selects a c).imp_right Or.inl
      · exact Or.inr (Or.inr later)
    · rintro b (rfl | rfl | later)
      · exact trans better first
      · exact trans better second
      · exact best b (Or.inr later)

namespace Number

variable {x y : Float}

theorem foldl_lower_spec (x : Float) (xs : List Float) : xs.foldl lower x ∈ x :: xs ∧
    ∀ y ∈ x :: xs, ValueKey.ofValue (xs.foldl lower x) ≤ ValueKey.ofValue y := by
  refine foldl_selects (r := fun a b => ValueKey.ofValue a ≤ ValueKey.ofValue b) ?_ ?_ ?_ ?_ x xs
  all_goals grind [lower, ValueKey.le_iff]

theorem foldl_higher_spec (x : Float) (xs : List Float) : xs.foldl higher x ∈ x :: xs ∧
    ∀ y ∈ x :: xs, ValueKey.ofValue y ≤ ValueKey.ofValue (xs.foldl higher x) := by
  refine foldl_selects (r := fun a b => ValueKey.ofValue b ≤ ValueKey.ofValue a) ?_ ?_ ?_ ?_ x xs
  all_goals grind [higher, ValueKey.le_iff]

/-- The extremes of a list are members of it, and no member lies outside them. -/
theorem extremes?_spec {xs : List Float} {low high : Float} (ends : extremes? xs = some (low, high)) :
    low ∈ xs ∧ high ∈ xs ∧ ∀ x ∈ xs,
      ValueKey.ofValue low ≤ ValueKey.ofValue x ∧ ValueKey.ofValue x ≤ ValueKey.ofValue high := by
  cases xs with
  | nil => cases ends
  | cons x rest =>
    cases ends
    obtain ⟨first, least⟩ := foldl_lower_spec x rest
    obtain ⟨last, most⟩ := foldl_higher_spec x rest
    exact ⟨first, last, fun y member => ⟨least y member, most y member⟩⟩

theorem exists_extremes {xs : List Float} (member : x ∈ xs) :
    ∃ low high, extremes? xs = some (low, high) := by
  cases xs with
  | nil => cases member
  | cons y rest => exact ⟨_, _, rfl⟩

theorem toRat_le_of_ofValue_le (finite : x.isFinite = true) (finites : y.isFinite = true)
    (le : ValueKey.ofValue x ≤ ValueKey.ofValue y) : toRat x ≤ toRat y := by
  by_contra! less
  have after : ValueKey.ofValue y < ValueKey.ofValue x :=
    (ValueKey.ofValue_lt_iff y x).mpr (Or.inl ((double_lt_iff_toRat finites finite).mpr less))
  rw [ValueKey.le_iff] at le
  rw [ValueKey.lt_iff] at after
  omega

/-- Doubles are told apart by their values, negative zero apart. -/
theorem eq_of_toRat_eq (finite : x.isFinite = true) (finites : y.isFinite = true) (first : x ≠ -0.0)
    (second : y ≠ -0.0) (same : toRat x = toRat y) : x = y := by
  have unordered {x y : Float} (finite : x.isFinite = true) (finites : y.isFinite = true)
      (plain : x ≠ -0.0) (same : toRat x = toRat y) : ¬ encode64 x < encode64 y := by
    rw [encode64_lt_iff]
    rintro (less | ⟨zero, -⟩ | ⟨-, nan⟩)
    · exact ((double_lt_iff_toRat finite finites).mp less).ne same
    · exact plain zero
    · exact Bool.false_ne_true ((isNaN_of_isFinite finites).symm.trans nan)
  have below := unordered finite finites first same
  have above := unordered finites finite second same.symm
  rw [Int64.lt_iff_toInt_lt] at below above
  exact encode64_injective (Int64.toInt_inj.mp (by omega))

/-- A word is read as a whole number that words can hold, the end of their range included. -/
theorem ofInt_word (word : Int64) : (ofInt word.toInt).isFinite = true ∧
    toRat (ofInt word.toInt) = rounded word.toInt ∧ ∃ k : ℤ, toRat (ofInt word.toInt) = k ∧
      -2 ^ 63 ≤ k ∧ k ≤ 2 ^ 63 := by
  obtain ⟨finite, k, whole⟩ := exists_whole_ofInt (natAbs_toInt_le word)
  have value := (roundsTo_ofInt word.toInt).toRat_eq finite
  have size : |(word.toInt : ℚ)| ≤ 2 ^ 63 := by
    rw [← Int.cast_abs, Int.abs_eq_natAbs]
    exact_mod_cast natAbs_toInt_le word
  have within := abs_le.mp (abs_rounded_le size)
  rw [← value, whole] at within
  exact ⟨finite, value, k, whole, by exact_mod_cast within.1, by exact_mod_cast within.2⟩

theorem ofInt_word_ne_negativeZero (word : Int64) : ofInt word.toInt ≠ -0.0 := by
  by_cases zero : word.toInt = 0
  · have bits : (ofInt 0).toBits ≠ (-0.0 : Float).toBits := by decide +kernel
    rw [zero]
    exact fun same => bits (congrArg Float.toBits same)
  · intro same
    have nothing : toRat (-0.0) = 0 := by decide +kernel
    have value := (ofInt_word word).2.1
    rw [same, nothing] at value
    rcases lt_or_gt_of_ne zero with below | above
    · have one : OnGrid (-1) := by exact_mod_cast onGrid_intCast (n := -1) (by decide)
      have less : (word.toInt : ℚ) ≤ -1 := by exact_mod_cast Int.le_sub_one_of_lt below
      linarith [one.rounded_le less]
    · have one : OnGrid 1 := by exact_mod_cast onGrid_intCast (n := 1) (by decide)
      have more : (1 : ℚ) ≤ word.toInt := by exact_mod_cast above
      linarith [one.le_rounded more]

end Number

open Number

namespace LinearScale

variable {xs : List Float} {x y : Float}

/-- A scale fitted to values with a finite one among them spans the finite ones. -/
theorem ofValues_spec (kind : NumberKind) (member : x ∈ xs) (finite : x.isFinite = true) :
    ∃ low high, ofValues kind xs = ⟨low, high, kind⟩ ∧
      (low ∈ xs ∧ low.isFinite = true) ∧ (high ∈ xs ∧ high.isFinite = true) ∧
      ∀ y ∈ xs, y.isFinite = true → toRat low ≤ toRat y ∧ toRat y ≤ toRat high := by
  obtain ⟨low, high, ends⟩ := exists_extremes (List.mem_filter.mpr ⟨member, finite⟩)
  obtain ⟨first, last, within⟩ := extremes?_spec ends
  rw [List.mem_filter] at first last
  refine ⟨low, high, by rw [ofValues, ends], first, last, fun y held bounded => ?_⟩
  obtain ⟨least, most⟩ := within y (List.mem_filter.mpr ⟨held, bounded⟩)
  exact ⟨toRat_le_of_ofValue_le first.2 bounded least, toRat_le_of_ofValue_le bounded last.2 most⟩

/-- The buckets of integers are ordered as the integers are, on the scale that is fitted to them. -/
theorem bucketOf_mono_of_words (words : ∀ x ∈ xs, ∃ word : Int64, x = ofInt word.toInt)
    (first : x ∈ xs) (second : y ∈ xs) (le : x ≤ y) :
    (ofValues .integer xs).bucketOf x ≤ (ofValues .integer xs).bucketOf y := by
  have whole : ∀ z ∈ xs, z.isFinite = true ∧ z ≠ -0.0 ∧
      ∃ k : ℤ, toRat z = k ∧ -2 ^ 63 ≤ k ∧ k ≤ 2 ^ 63 := by
    intro z member
    obtain ⟨word, rfl⟩ := words z member
    obtain ⟨finite, -, k, value⟩ := ofInt_word word
    exact ⟨finite, ofInt_word_ne_negativeZero word, k, value⟩
  obtain ⟨finite, plain, m, value, -⟩ := whole x first
  obtain ⟨finites, plains, n, values, -⟩ := whole y second
  rw [le_iff_toRat finite finites] at le
  rcases le.eq_or_lt with same | less
  · rw [eq_of_toRat_eq finite finites plain plains same]
  obtain ⟨low, high, fitted, ⟨lowest, lowFinite⟩, ⟨highest, highFinite⟩, within⟩ :=
    ofValues_spec .integer first finite
  obtain ⟨-, -, a, lowValue, least, -⟩ := whole low lowest
  obtain ⟨-, -, b, highValue, -, most⟩ := whole high highest
  have start := within x first finite
  have stop := within y second finites
  rw [value, values, Int.cast_lt] at less
  rw [lowValue, highValue, value, Int.cast_le, Int.cast_le] at start
  rw [lowValue, highValue, values, Int.cast_le, Int.cast_le] at stop
  let span : WholeSpan := ⟨a, b, by omega, lowValue ▸ onGrid_toRat lowFinite,
    highValue ▸ onGrid_toRat highFinite⟩
  have spans : LinearScale.Spans ⟨low, high, .integer⟩ span :=
    ⟨lowFinite, highFinite, lowValue, highValue, least, most⟩
  have heldX : span.Holds m := ⟨start.1, start.2, value ▸ onGrid_toRat finite⟩
  have heldY : span.Holds n := ⟨stop.1, stop.2, values ▸ onGrid_toRat finites⟩
  rw [fitted, bucketOf_eq spans rfl finite value heldX, bucketOf_eq spans rfl finites values heldY]
  exact WholeSpan.bucket_mono heldX heldY most less.le

end LinearScale

end Facets
