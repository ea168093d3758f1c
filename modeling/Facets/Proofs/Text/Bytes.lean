import Mathlib

/-!
The order of texts is that of their bytes in UTF-8.
-/

namespace Facets.Text

/-- The bytes of a text in UTF-8. -/
def bytes (text : String) : List UInt8 := text.toUTF8.data.toList

theorem bytes_eq_flatMap (text : String) : bytes text = text.toList.flatMap String.utf8EncodeChar := by
  rw [bytes, String.toUTF8_eq_toByteArray, ← String.utf8Encode_toList, List.utf8Encode,
    List.data_toByteArray]

theorem byte_lt_iff {m n : Nat} (first : m < 256) (second : n < 256) :
    UInt8.ofNat m < UInt8.ofNat n ↔ m < n := by
  rw [UInt8.lt_iff_toNat_lt, UInt8.toNat_ofNat', UInt8.toNat_ofNat']
  omega

theorem byte_eq_iff {m n : Nat} (first : m < 256) (second : n < 256) :
    UInt8.ofNat m = UInt8.ofNat n ↔ m = n := by
  rw [← UInt8.toNat_inj, UInt8.toNat_ofNat', UInt8.toNat_ofNat']
  omega

/-- Numbers compare as their four digits do. -/
theorem digits_lt_digits {m n : Nat} (less : m < n) (bound : n < 2097152) :
    m / 262144 % 8 < n / 262144 % 8 ∨ m / 262144 % 8 = n / 262144 % 8 ∧
      (m / 4096 % 64 < n / 4096 % 64 ∨ m / 4096 % 64 = n / 4096 % 64 ∧
        (m / 64 % 64 < n / 64 % 64 ∨ m / 64 % 64 = n / 64 % 64 ∧ m % 64 < n % 64)) := by
  have value : ∀ k < 2097152, k = k / 262144 % 8 * 262144 + k / 4096 % 64 * 4096 +
      k / 64 % 64 * 64 + k % 64 := by
    intro k within
    omega
  have first := value m (by omega)
  have second := value n bound
  have small : ∀ k, k / 4096 % 64 < 64 ∧ k / 64 % 64 < 64 ∧ k % 64 < 64 := by
    intro k
    omega
  have firstSmall := small m
  have secondSmall := small n
  generalize m / 262144 % 8 = a at *
  generalize n / 262144 % 8 = a' at *
  generalize m / 4096 % 64 = b at *
  generalize n / 4096 % 64 = b' at *
  generalize m / 64 % 64 = c at *
  generalize n / 64 % 64 = c' at *
  generalize m % 64 = d at *
  generalize n % 64 = d' at *
  omega

/-- Of two characters, the smaller one has smaller bytes, whatever comes after them. -/
theorem utf8EncodeChar_append_lt {c d : Char} (less : c < d) (after others : List UInt8) :
    String.utf8EncodeChar c ++ after < String.utf8EncodeChar d ++ others := by
  have codes : c.val.toNat < d.val.toNat := UInt32.lt_iff_toNat_lt.mp less
  have bound : d.val.toNat < 1114112 := by
    have valid := d.valid
    simp only [UInt32.isValidChar, Nat.isValidChar] at valid
    omega
  unfold String.utf8EncodeChar
  dsimp only
  generalize c.val.toNat = v at codes ⊢
  generalize d.val.toNat = w at codes bound ⊢
  have digits := digits_lt_digits codes (by omega)
  -- The first byte grows with the number of bytes, and of two codes with as many bytes the smaller
  -- one has the smaller digits.
  repeat' split
  all_goals
    simp (disch := omega) only [List.cons_append, List.nil_append, List.cons_lt_cons_iff,
      byte_lt_iff, byte_eq_iff]
    omega

theorem flatMap_utf8EncodeChar_lt {xs ys : List Char} (less : xs < ys) :
    xs.flatMap String.utf8EncodeChar < ys.flatMap String.utf8EncodeChar := by
  induction less with
  | @nil d ys =>
    rw [List.flatMap_cons, List.flatMap_nil]
    cases shape : String.utf8EncodeChar d with
    | nil => cases String.utf8EncodeChar_ne_nil shape
    | cons byte rest => exact List.nil_lt_cons _ _
  | cons tail ih => exact List.append_left_lt ih
  | rel first => exact utf8EncodeChar_append_lt first _ _

theorem bytes_lt_bytes {s t : String} (less : s < t) : bytes s < bytes t := by
  rw [bytes_eq_flatMap, bytes_eq_flatMap]
  exact flatMap_utf8EncodeChar_lt less

end Facets.Text
