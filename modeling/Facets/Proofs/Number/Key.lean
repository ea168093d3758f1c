import Facets.Number.Key
import Facets.Proofs.Number.Floats

namespace Facets

namespace Number

theorem flipNegative64_flipNegative64 (word : UInt64) :
    flipNegative64 (flipNegative64 word) = word := by
  by_cases signed : word >>> 63 = 1
  · have still : (word ^^^ 0x7fffffffffffffff) >>> 63 = 1 := by
      rw [UInt64.shiftRight_xor, signed]
      decide
    simp only [flipNegative64, signed, still, if_true]
    rw [UInt64.xor_assoc, UInt64.xor_self, UInt64.xor_zero]
  · simp only [flipNegative64, signed, if_false]

theorem encode64_injective {x y : Float} (same : encode64 x = encode64 y) : x = y := by
  have flipped : flipNegative64 x.toBits = flipNegative64 y.toBits := by
    simpa [encode64, sortable64] using congrArg Int64.toUInt64 same
  have bits : x.toBits = y.toBits := by
    rw [← flipNegative64_flipNegative64 x.toBits, flipped, flipNegative64_flipNegative64]
  obtain ⟨⟨_, _⟩⟩ := x
  obtain ⟨⟨_, _⟩⟩ := y
  simpa [Float.toBits] using bits

end Number

namespace ValueKey

theorem lt_iff {a b : ValueKey} : a < b ↔ a.code.toInt < b.code.toInt := Int64.lt_iff_toInt_lt

theorem le_iff {a b : ValueKey} : a ≤ b ↔ a.code.toInt ≤ b.code.toInt := Int64.le_iff_toInt_le

theorem eq_iff {a b : ValueKey} : a = b ↔ a.code.toInt = b.code.toInt := by
  rw [Int64.toInt_inj]
  exact ⟨congrArg code, fun same => by cases a; cases b; simpa using same⟩

instance : IsStrictTotalOrder ValueKey (· < ·) where
  irrefl a := by simp only [lt_iff]; omega
  trans a b c := by simp only [lt_iff]; omega
  trichotomous a b := by simp only [lt_iff, eq_iff]; omega

/-- The value of a double has the bits of the one NaN already. -/
theorem code_ofValue (x : Float) : (ofValue x).code = Number.encode64 x := by
  rw [ofValue, ofBits, Number.isNaN64_eq, Number.ofBits_toBits, Number.encode64]
  split
  · rename_i nan
    rw [Number.toBits_of_isNaN nan]
  · rfl

theorem ofValue_injective {x y : Float} (same : ofValue x = ofValue y) : x = y := by
  refine Number.encode64_injective ?_
  rw [← code_ofValue, ← code_ofValue, same]

end ValueKey

namespace Number

theorem lower_comm (x y : Float) : lower x y = lower y x := by
  unfold lower
  split <;> split <;> rename_i left right <;> rw [ValueKey.le_iff] at left right
  · exact ValueKey.ofValue_injective (ValueKey.eq_iff.mpr (by omega))
  · omega

theorem higher_comm (x y : Float) : higher x y = higher y x := by
  unfold higher
  split <;> split <;> rename_i left right <;> rw [ValueKey.le_iff] at left right
  · exact ValueKey.ofValue_injective (ValueKey.eq_iff.mpr (by omega))
  · omega

theorem lower_assoc (x y z : Float) : lower (lower x y) z = lower x (lower y z) := by
  grind [lower, ValueKey.le_iff]

theorem higher_assoc (x y z : Float) : higher (higher x y) z = higher x (higher y z) := by
  grind [higher, ValueKey.le_iff]

instance : Std.Commutative lower := ⟨lower_comm⟩

instance : Std.Associative lower := ⟨lower_assoc⟩

instance : Std.Commutative higher := ⟨higher_comm⟩

instance : Std.Associative higher := ⟨higher_assoc⟩

/-- The extremes of a list do not depend on its order. -/
theorem extremes?_perm {xs ys : List Float} (same : xs.Perm ys) : extremes? xs = extremes? ys := by
  induction same with
  | nil => rfl
  | cons x rest _ =>
    simp only [extremes?, rest.foldl_op_eq]
  | swap x y rest => simp only [extremes?, List.foldl_cons, lower_comm x y, higher_comm x y]
  | trans _ _ first second => exact first.trans second

end Number

end Facets
