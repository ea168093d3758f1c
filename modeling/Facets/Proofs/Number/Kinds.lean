import Facets.Proofs.Number.Single
import Facets.Reading

/-!
What the kinds of numeric fields store. The words of doubles and singles carry the bits and the
order of the numbers they stand for.
-/

namespace Facets

namespace Number

theorem flipNegative32_flipNegative32 (word : UInt32) :
    flipNegative32 (flipNegative32 word) = word := by
  by_cases signed : word >>> 31 = 1
  · have still : (word ^^^ 0x7fffffff) >>> 31 = 1 := by
      rw [UInt32.shiftRight_xor, signed]
      decide
    simp only [flipNegative32, signed, still, if_true]
    rw [UInt32.xor_assoc, UInt32.xor_self, UInt32.xor_zero]
  · simp only [flipNegative32, signed, if_false]

theorem unsortable32_sortable32 (bits : UInt32) : unsortable32 (sortable32 bits) = bits := by
  rw [unsortable32, sortable32, Int32.toInt32_toInt64, UInt32.toUInt32_toInt32,
    flipNegative32_flipNegative32]

theorem sortable32_unsortable32 (code : Int64) :
    sortable32 (unsortable32 code) = code.toInt32.toInt64 := by
  rw [unsortable32, sortable32, flipNegative32_flipNegative32, Int32.toInt32_toUInt32]

theorem eq_negativeZero32_iff (x : Float32) : x = -0.0 ↔ x.toModel.unpack = .zero .negative :=
  ⟨fun same => same ▸ rfl, fun same => eq_of_unpack_float32 same⟩

theorem eq_positiveZero32_iff (x : Float32) : x = 0.0 ↔ x.toModel.unpack = .zero .positive :=
  ⟨fun same => same ▸ rfl, fun same => eq_of_unpack_float32 same⟩

/-- Sortable forms of singles are ordered as the singles are, negative zero before positive zero. -/
theorem sortable32_lt_iff {p q : UInt32} (number : (Float32.ofBits p).isNaN = false)
    (numbers : (Float32.ofBits q).isNaN = false) :
    sortable32 p < sortable32 q ↔ Float32.ofBits p < Float32.ofBits q ∨
      Float32.ofBits p = -0.0 ∧ Float32.ofBits q = 0.0 := by
  rw [Int64.lt_iff_toInt_lt, toInt_sortable32_of_number number, toInt_sortable32_of_number numbers,
    codeOf_lt_iff, ← single_lt_iff number numbers, eq_negativeZero32_iff, eq_positiveZero32_iff]

end Number

namespace NumberKind

open Number

theorem stores_single_iff (raw : Int64) :
    NumberKind.single.stores raw = true ↔ -2 ^ 31 ≤ raw.toInt ∧ raw.toInt < 2 ^ 31 := by
  have low : raw.toInt32.toInt64.toInt = raw.toInt.bmod (2 ^ 32) := by
    rw [Int32.toInt_toInt64, Int64.toInt_toInt32]
  simp only [stores, beq_iff_eq]
  rw [← Int64.toInt_inj, low, Int.bmod_def]
  split <;> omega

/-- A word is refused if and only if it is the word of a single that does not fit into 32 bits. -/
theorem decodeBits?_eq (kind : NumberKind) (raw : Int64) :
    kind.decodeBits? raw =
      if kind = .single ∧ ¬(-2 ^ 31 ≤ raw.toInt ∧ raw.toInt < 2 ^ 31) then .error (.malformed raw kind)
      else .ok (kind.decodeBits raw) := by
  unfold decodeBits?
  cases kind with
  | single =>
    by_cases short : -2 ^ 31 ≤ raw.toInt ∧ raw.toInt < 2 ^ 31
    · rw [if_pos ((stores_single_iff raw).mpr short), if_neg fun long => long.2 short]
    · rw [if_neg (mt (stores_single_iff raw).mp short), if_pos ⟨rfl, short⟩]
  | integer => rfl
  | double => rfl

theorem encode_decode_single {raw : Int64} (short : -2 ^ 31 ≤ raw.toInt ∧ raw.toInt < 2 ^ 31)
    (number : (NumberKind.single.decode raw).isNaN = false) :
    sortable32 (narrow (NumberKind.single.decode raw)) = raw := by
  have stored : raw = raw.toInt32.toInt64 :=
    eq_of_beq ((stores_single_iff raw).mpr short)
  rw [decode_single] at number ⊢
  have single : (Float32.ofBits (unsortable32 raw)).isNaN = false := by
    rw [← isNaN_widen]
    exact number
  rw [narrow_widen single, sortable32_unsortable32, ← stored]

theorem decodeBits_sortable32 (pattern : UInt32) :
    NumberKind.single.decodeBits (sortable32 pattern) = (widen pattern).toBits := by
  rw [decodeBits, unsortable32_sortable32]

end NumberKind

namespace Number

/-- Sortable forms of doubles are ordered as the doubles are, negative zero before positive zero. -/
theorem sortable64_lt_iff {p q : UInt64} (number : (Float.ofBits p).isNaN = false)
    (numbers : (Float.ofBits q).isNaN = false) :
    sortable64 p < sortable64 q ↔ Float.ofBits p < Float.ofBits q ∨
      Float.ofBits p = -0.0 ∧ Float.ofBits q = 0.0 := by
  have order := encode64_lt_iff (Float.ofBits p) (Float.ofBits q)
  rw [encode64, encode64, toBits_ofBits number, toBits_ofBits numbers] at order
  simpa only [Precedes, numbers, Bool.false_eq_true, and_false, or_false] using order

/-- A key forgets what the bits of a NaN are, and nothing else. -/
theorem ofBits_eq_ofBits_iff (p q : UInt64) : ValueKey.ofBits p = ValueKey.ofBits q ↔
    p = q ∨ (Float.ofBits p).isNaN = true ∧ (Float.ofBits q).isNaN = true := by
  constructor
  · intro same
    rw [ValueKey.ofBits_eq, ValueKey.ofBits_eq] at same
    have values := ValueKey.ofValue_injective same
    cases number : (Float.ofBits p).isNaN with
    | true => exact Or.inr ⟨rfl, values ▸ number⟩
    | false =>
      rw [← toBits_ofBits number, values, toBits_ofBits (values ▸ number)]
      exact Or.inl rfl
  · rintro (rfl | ⟨nan, other⟩)
    · rfl
    · rw [ValueKey.ofBits, ValueKey.ofBits, isNaN64_eq, isNaN64_eq, nan, other]
      rfl

/-- The sortable forms of doubles and of singles are their bits over again. Going to a form and back
loses nothing, as far as the word has a form at all, and the signed order of the forms is the order of
the numbers, which puts negative zero before positive zero. The keys of doubles have that order too,
with one key for all NaNs behind the others. -/
theorem sortable_forms_keep_bits_and_order :
    (∀ bits : UInt64, NumberKind.double.decodeBits (sortable64 bits) = bits) ∧
    (∀ raw : Int64, sortable64 (NumberKind.double.decodeBits raw) = raw) ∧
    (∀ raw : Int64, -2 ^ 31 ≤ raw.toInt ∧ raw.toInt < 2 ^ 31 →
      (Float.ofBits (NumberKind.single.decodeBits raw)).isNaN = false →
        sortable32 (narrow (Float.ofBits (NumberKind.single.decodeBits raw))) = raw) ∧
    (∀ pattern : UInt32, (Float32.ofBits pattern).isNaN = false →
      NumberKind.single.decodeBits (sortable32 pattern) = (widen pattern).toBits ∧
        narrow (widen pattern) = pattern) ∧
    (∀ (kind : NumberKind) (raw : Int64), kind.decodeBits? raw =
      if kind = .single ∧ ¬(-2 ^ 31 ≤ raw.toInt ∧ raw.toInt < 2 ^ 31) then
        .error (.malformed raw kind)
      else .ok (kind.decodeBits raw)) ∧
    (∀ p q : UInt64, (Float.ofBits p).isNaN = false → (Float.ofBits q).isNaN = false →
      (sortable64 p < sortable64 q ↔ Float.ofBits p < Float.ofBits q ∨
        Float.ofBits p = -0.0 ∧ Float.ofBits q = 0.0)) ∧
    (∀ p q : UInt32, (Float32.ofBits p).isNaN = false → (Float32.ofBits q).isNaN = false →
      (sortable32 p < sortable32 q ↔ Float32.ofBits p < Float32.ofBits q ∨
        Float32.ofBits p = -0.0 ∧ Float32.ofBits q = 0.0)) ∧
    ∀ p q : UInt64, (ValueKey.ofBits p < ValueKey.ofBits q ↔ Float.ofBits p < Float.ofBits q ∨
        Float.ofBits p = -0.0 ∧ Float.ofBits q = 0.0 ∨
        (Float.ofBits p).isNaN = false ∧ (Float.ofBits q).isNaN = true) ∧
      (ValueKey.ofBits p = ValueKey.ofBits q ↔
        p = q ∨ (Float.ofBits p).isNaN = true ∧ (Float.ofBits q).isNaN = true) := by
  refine ⟨unsortable64_sortable64, sortable64_unsortable64,
    fun raw => NumberKind.encode_decode_single,
    fun pattern number => ⟨NumberKind.decodeBits_sortable32 pattern, narrow_widen number⟩,
    NumberKind.decodeBits?_eq, fun p q => sortable64_lt_iff, fun p q => sortable32_lt_iff,
    fun p q => ⟨?_, ofBits_eq_ofBits_iff p q⟩⟩
  rw [ValueKey.ofBits_eq, ValueKey.ofBits_eq]
  exact ValueKey.ofValue_lt_iff _ _

/-- The bits of a NaN survive and lose their key, the word of minus zero comes just before that of zero,
and one and a half survives as a single. -/
theorem sortable_forms_keep_bits_and_order_zeros :
    NumberKind.double.decodeBits (sortable64 0x7ff0000000000001) = 0x7ff0000000000001 ∧
      sortable64 0x8000000000000000 < sortable64 0 ∧
      sortable32 (narrow (Float.ofBits (NumberKind.single.decodeBits 0x3fc00000))) = 0x3fc00000 ∧
      narrow (widen 0x3fc00000) = 0x3fc00000 ∧
      sortable32 0x80000000 < sortable32 0 ∧
      ValueKey.ofBits 0x7ff0000000000001 = ValueKey.ofBits 0xfff8000000000002 ∧
      ValueKey.ofBits 0x7ff0000000000000 < ValueKey.ofBits 0xfff8000000000002 := by
  obtain ⟨bits, -, word, pattern, -, doubles, singles, keys⟩ := sortable_forms_keep_bits_and_order
  exact ⟨bits _, (doubles _ _ rfl rfl).mpr (Or.inr ⟨rfl, rfl⟩), word _ (by decide) (by decide +kernel),
    (pattern _ (by decide +kernel)).2,
    (singles _ _ (by decide +kernel) (by decide +kernel)).mpr (Or.inr (by decide +kernel)),
    (keys _ _).2.mpr (Or.inr (by decide +kernel)),
    (keys _ _).1.mpr (Or.inr (Or.inr (by decide +kernel)))⟩

end Number

end Facets
