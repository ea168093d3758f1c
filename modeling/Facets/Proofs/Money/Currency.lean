import Facets.Proofs.Money

/-!
Text before the first digit of a label, such as a currency. It leaves the amount alone unless a mark
in it turns the one or two digits behind it into decimals, and makes it negative if a minus sign is the
first of its characters, but nowhere else.
-/

namespace Facets

namespace Number

open Float.Model.UnpackedFloat

theorem signOf_neg {u : Float.Model.UnpackedFloat} (number : u.isNaN = false) :
    signOf u.neg = -signOf u := by
  cases u with
  | notANumber => cases number
  | _ => rfl

theorem neg_injective : Function.Injective fun x : Float => -x := by
  intro x y same
  refine eq_of_unpack ?_
  have unpacked := congrArg (fun z : Float => z.toModel.unpack.neg) same
  simp only [unpack_neg] at unpacked
  have twice (u : Float.Model.UnpackedFloat) : u.neg.neg = u := by
    cases u with
    | notANumber => rfl
    | infinity sign => cases sign <;> rfl
    | zero sign => cases sign <;> rfl
    | finite sign => cases sign <;> rfl
  rwa [twice, twice] at unpacked

end Number

namespace Money

open Number
open Float.Model.UnpackedFloat

/-- The text before the first digit does not move the decimal mark: it has no mark, or the amount has
one itself, or more digits than decimals can have. -/
def KeepsMark (before rest : List Char) : Prop :=
  (∀ c ∈ before, ¬ IsMark c) ∨ (∃ c ∈ rest, IsMark c) ∨ 3 ≤ (rest.filter Char.isDigit).length

section Parts

variable {before rest text : List Char}

theorem isSpace_of_isDigit {c : Char} (digit : c.isDigit = true) : Text.isSpace c = false := by
  obtain ⟨least, most⟩ := Char.isDigit_iff_toNat.mp digit
  have zero : '0'.toNat = 48 := rfl
  have nine : '9'.toNat = 57 := rfl
  simp only [Text.isSpace, Bool.or_eq_false_iff, Bool.and_eq_false_iff, decide_eq_false_iff_not,
    beq_eq_false_iff_ne]
  omega

/-- The sign of a label stands before its first digit. -/
theorem isNegative_append (before : List Char) {digit : Char} {tail : List Char}
    (first : digit.isDigit = true) : isNegative (before ++ digit :: tail) = isNegative before := by
  have kept : ¬ Text.isSpace digit = true := by
    rw [isSpace_of_isDigit first]
    exact Bool.false_ne_true
  rw [isNegative, isNegative, List.dropWhile_append]
  split
  case isTrue blank =>
    have apart : digit ≠ '-' := by
      rintro rfl
      exact absurd first (by decide)
    rw [List.dropWhile_cons_of_neg kept, List.isEmpty_iff.mp blank]
    simpa using apart
  case isFalse led =>
    rw [List.isEmpty_iff] at led
    rw [List.head?_append_of_ne_nil _ led]

theorem mem_spelled {label : List Char} {c : Char} :
    c ∈ spelled label ↔ c ∈ label ∧ (c.isDigit = true ∨ IsMark c) := by
  rw [spelled, List.mem_filter, kept_iff]

theorem own_spelled (label : List Char) : ∀ c ∈ spelled label, c.isDigit = true ∨ IsMark c :=
  fun _ member => (mem_spelled.mp member).2

theorem mark_of_mem_spelled (plain : ∀ c ∈ before, c.isDigit = false) {c : Char}
    (member : c ∈ spelled before) : IsMark c := by
  obtain ⟨inside, digit | isMark⟩ := mem_spelled.mp member
  · rw [plain c inside] at digit
    exact absurd digit Bool.false_ne_true
  · exact isMark

/-- A spelled amount is all digits, or digits follow its last mark. -/
theorem digits_or_marked (own : ∀ c ∈ text, c.isDigit = true ∨ IsMark c) :
    Digits text ∨ ∃ start mark group, text = start ++ mark :: group ∧ IsMark mark ∧ Digits group := by
  induction text with
  | nil => exact Or.inl (List.forall_mem_nil _)
  | cons c text ih =>
    obtain ⟨here, later⟩ := List.forall_mem_cons.mp own
    rcases ih later with digits | ⟨start, mark, group, rfl, isMark, digits⟩
    · rcases here with digit | isMark
      · exact Or.inl (List.forall_mem_cons.mpr ⟨digit, digits⟩)
      · exact Or.inr ⟨[], c, text, rfl, isMark, digits⟩
    · exact Or.inr ⟨c :: start, mark, group, rfl, isMark, digits⟩

/-- The amount has its decimal mark itself, or none: what stands before it changes nothing. -/
theorem decimals_append_of_keeps (plain : ∀ c ∈ before, c.isDigit = false)
    (keeps : KeepsMark before rest) :
    decimals (spelled before ++ spelled rest) = decimals (spelled rest) := by
  rcases digits_or_marked (own_spelled rest) with digits | ⟨start, mark, group, parts, isMark, digits⟩
  · rcases List.eq_nil_or_concat (spelled before) with empty | ⟨marks, mark, ends⟩
    · rw [empty, List.nil_append]
    · have isMark : IsMark mark := mark_of_mem_spelled plain (ends ▸ by simp)
      have long : 3 ≤ (spelled rest).length := by
        rcases keeps with none | ⟨c, member, comma⟩ | long
        · have inside : mark ∈ before := (mem_spelled.mp (ends ▸ by simp)).1
          exact absurd isMark (none mark inside)
        · have digit := digits c (mem_spelled.mpr ⟨member, Or.inr comma⟩)
          rw [comma.not_digit] at digit
          exact absurd digit Bool.false_ne_true
        · rwa [← filter_spelled, digits.filter_eq] at long
      rw [ends, List.concat_eq_append, List.append_assoc, List.singleton_append,
        decimals_of_mark _ isMark digits, decimals_of_digits digits, if_neg (by omega)]
  · rw [parts, ← List.append_assoc, decimals_of_mark _ isMark digits,
      decimals_of_mark _ isMark digits]

/-- A mark before one or two digits makes them decimals. -/
theorem decimals_append_of_moves (plain : ∀ c ∈ before, c.isDigit = false)
    (filled : rest.filter Char.isDigit ≠ []) (moves : ¬ KeepsMark before rest) :
    decimals (spelled before ++ spelled rest) = (rest.filter Char.isDigit).length ∧
      decimals (spelled rest) = 0 ∧ 1 ≤ (rest.filter Char.isDigit).length ∧
        (rest.filter Char.isDigit).length ≤ 2 := by
  unfold KeepsMark at moves
  push Not at moves
  obtain ⟨⟨mark, inside, isMark⟩, none, few⟩ := moves
  have digits : Digits (spelled rest) := fun c member =>
    (own_spelled rest c member).resolve_right (none c (mem_spelled.mp member).1)
  have length : (spelled rest).length = (rest.filter Char.isDigit).length := by
    rw [← filter_spelled, digits.filter_eq]
  have some := List.length_pos_iff.mpr filled
  have member : mark ∈ spelled before := mem_spelled.mpr ⟨inside, Or.inr isMark⟩
  rcases List.eq_nil_or_concat (spelled before) with empty | ⟨marks, last, ends⟩
  · rw [empty] at member
    cases member
  · have isMark : IsMark last := mark_of_mem_spelled plain (ends ▸ by simp)
    rw [ends, List.concat_eq_append, List.append_assoc, List.singleton_append,
      decimals_of_mark _ isMark digits, length, if_pos (by omega)]
    exact ⟨rfl, decimals_of_digits digits, some, by omega⟩

theorem filter_append_spelled (plain : ∀ c ∈ before, c.isDigit = false) :
    (spelled before ++ spelled rest).filter Char.isDigit = rest.filter Char.isDigit := by
  have none : before.filter Char.isDigit = [] := by
    rw [List.filter_eq_nil_iff]
    exact fun c member => by rw [plain c member]; exact Bool.false_ne_true
  rw [List.filter_append, filter_spelled, filter_spelled, none, List.nil_append]

end Parts

section Sizes

variable {before rest : List Char}

theorem sizeOf_append_of_keeps (plain : ∀ c ∈ before, c.isDigit = false)
    (keeps : KeepsMark before rest) :
    sizeOf (spelled before ++ spelled rest) = sizeOf (spelled rest) := by
  rw [sizeOf, sizeOf, filter_append_spelled plain, filter_spelled,
    decimals_append_of_keeps plain keeps]

/-- What a moved mark makes of an amount. -/
theorem sizeOf_append_of_moves (plain : ∀ c ∈ before, c.isDigit = false)
    (filled : rest.filter Char.isDigit ≠ []) (moves : ¬ KeepsMark before rest) :
    RoundsTo (numeral (rest.filter Char.isDigit)) (sizeOf (spelled rest)) ∧
      RoundsTo (numeral (rest.filter Char.isDigit) / 10 ^ (rest.filter Char.isDigit).length)
        (sizeOf (spelled before ++ spelled rest)) := by
  obtain ⟨moved, still, -, -⟩ := decimals_append_of_moves plain filled moves
  have amount := sizeOf_roundsTo (spelled rest)
  have size := sizeOf_roundsTo (spelled before ++ spelled rest)
  rw [still, pow_zero, div_one, filter_spelled] at amount
  rw [moved, filter_append_spelled plain] at size
  exact ⟨amount, size⟩

theorem numeral_lt {digits : List Char} (all : Digits digits) :
    numeral digits < 10 ^ digits.length := by
  rw [numeral, ← List.length_reverse, ← List.length_map fun c : Char => c.toNat - '0'.toNat]
  refine Nat.ofDigits_lt_base_pow_length (by decide) fun n member => ?_
  obtain ⟨c, inside, rfl⟩ := List.mem_map.mp member
  have most := (Char.isDigit_iff_toNat.mp (all.reverse c inside)).2
  have zero : '0'.toNat = 48 := rfl
  have nine : '9'.toNat = 57 := rfl
  omega

/-- The text before the first digit leaves the size of the amount alone unless it moves the decimal
mark of an amount that is not zero. -/
theorem sizeOf_append_eq_iff (plain : ∀ c ∈ before, c.isDigit = false)
    (filled : rest.filter Char.isDigit ≠ []) :
    sizeOf (spelled before ++ spelled rest) = sizeOf (spelled rest) ↔
      KeepsMark before rest ∨ numeral (rest.filter Char.isDigit) = 0 := by
  constructor
  · contrapose!
    rintro ⟨moves, nonzero⟩
    obtain ⟨amount, size⟩ := sizeOf_append_of_moves plain filled moves
    obtain ⟨-, -, some, few⟩ := decimals_append_of_moves plain filled moves
    have bound : numeral (rest.filter Char.isDigit) < 10 ^ 2 :=
      (numeral_lt fun c member => (List.mem_filter.mp member).2).trans_le
        (Nat.pow_le_pow_right (by decide) few)
    refine size.ne_of_le_half amount (Nat.pos_of_ne_zero nonzero) (by omega) ?_
    have tens : (2 : ℚ) ≤ 10 ^ (rest.filter Char.isDigit).length :=
      le_trans (by norm_num) (pow_le_pow_right₀ (by norm_num) some)
    gcongr
  · rintro (keeps | zero)
    · exact sizeOf_append_of_keeps plain keeps
    · rw [sizeOf, sizeOf, filter_append_spelled plain, filter_spelled, zero, ofDecimal_zero,
        ofDecimal_zero]

end Sizes

theorem LedByMinus.mem {label : List Char} (led : LedByMinus label) : '-' ∈ label := by
  obtain ⟨blank, rest, rfl, -⟩ := led
  simp

/-- The text before the first digit of a label keeps the size of its amount unless a mark in it moves
the decimal mark, and the sign is that of the minus sign that leads it. It is ignored, but for the
minus signs in it, in these cases and no others. -/
theorem amount_behind_text (before rest : String) {digit : Char} {tail : List Char}
    (plain : ∀ c ∈ before.toList, c.isDigit = false) (starts : rest.toList = digit :: tail)
    (first : digit.isDigit = true) :
    ∃ amount size : Float, amount? rest = some amount ∧
      (LedByMinus before.toList → amount? (before ++ rest) = some (-size)) ∧
      (¬ LedByMinus before.toList → amount? (before ++ rest) = some size) ∧
      (KeepsMark before.toList rest.toList → size = amount) ∧
      (¬ KeepsMark before.toList rest.toList →
        RoundsTo (numeral (rest.toList.filter Char.isDigit)) amount ∧
        RoundsTo (numeral (rest.toList.filter Char.isDigit) /
          10 ^ (rest.toList.filter Char.isDigit).length) size) ∧
      (amount? (before ++ rest) =
          (amount? rest).map (fun x => if '-' ∈ before.toList then -x else x) ↔
        ('-' ∈ before.toList → LedByMinus before.toList) ∧
          (KeepsMark before.toList rest.toList ∨ numeral (rest.toList.filter Char.isDigit) = 0)) := by
  have filled : rest.toList.filter Char.isDigit ≠ [] := by
    rw [starts, List.filter_cons_of_pos first]
    exact List.cons_ne_nil _ _
  have whole : (before ++ rest).toList.filter Char.isDigit ≠ [] := by
    rw [String.toList_append, List.filter_append]
    exact List.append_ne_nil_of_right_ne_nil _ filled
  have signs : LedByMinus (before ++ rest).toList ↔ LedByMinus before.toList := by
    rw [← isNegative_iff, ← isNegative_iff, String.toList_append, starts, isNegative_append _ first]
  have unsigned : ¬ LedByMinus rest.toList := by
    rw [← isNegative_iff, starts, ← List.nil_append (digit :: tail), isNegative_append _ first]
    exact Bool.false_ne_true
  obtain ⟨negative, positive⟩ := amount?_of_digit whole
  rw [signs, String.toList_append, spelled, List.filter_append] at negative positive
  have amount := (amount?_of_digit filled).2 unsigned
  have sizes := sizeOf_append_eq_iff plain filled
  refine ⟨_, _, amount, negative, positive, sizeOf_append_of_keeps plain,
    sizeOf_append_of_moves plain filled, ?_⟩
  rw [amount, Option.map_some]
  by_cases led : LedByMinus before.toList
  · rw [negative led, if_pos led.mem, Option.some_inj, neg_injective.eq_iff]
    exact sizes.trans (and_iff_right fun _ => led).symm
  · rw [positive led, Option.some_inj]
    by_cases minus : '-' ∈ before.toList
    · rw [if_pos minus]
      refine iff_of_false (fun same => ?_) fun both => led (both.1 minus)
      have signs := congrArg (fun x : Float => signOf x.toModel.unpack) same
      simp only [unpack_neg, signOf_neg (sizeOf_roundsTo _).number, signOf_sizeOf] at signs
      cases signs
    · rw [if_neg minus]
      exact sizes.trans (and_iff_right fun inside => absurd inside minus).symm

/-- The point of a currency takes two digits as decimals, and a minus sign before it counts. -/
theorem amount_behind_text_rupees :
    ((∀ c ∈ "-Rs. ".toList, c.isDigit = false) ∧ "50".toList = '5' :: ['0'] ∧
      '5'.isDigit = true ∧ LedByMinus "-Rs. ".toList ∧ ¬ KeepsMark "-Rs. ".toList "50".toList) ∧
      ∃ size : Float, amount? ("-Rs. " ++ "50") = some (-size) ∧ RoundsTo (1 / 2) size := by
  have plain : ∀ c ∈ "-Rs. ".toList, c.isDigit = false := by
    simp
  have starts : "50".toList = '5' :: ['0'] := by decide
  have led : LedByMinus "-Rs. ".toList := ⟨[], "Rs. ".toList, by decide, by simp⟩
  have moves : ¬ KeepsMark "-Rs. ".toList "50".toList := by
    simp [KeepsMark, IsMark, Char.isDigit]
  obtain ⟨amount, size, -, negative, -, -, moved, -⟩ := amount_behind_text "-Rs. " "50" plain starts rfl
  have digits : "50".toList.filter Char.isDigit = ['5', '0'] := by decide
  have fifty : numeral ['5', '0'] = 50 := by decide
  have half : ((50 : ℕ) : ℚ) / 10 ^ 2 = 1 / 2 := by norm_num
  have rounds := (moved moves).2
  rw [digits, fifty, List.length_cons, List.length_singleton, half] at rounds
  exact ⟨⟨plain, starts, rfl, led, moves⟩, size, negative led, rounds⟩

/-- A minus sign behind the currency is lost, and the point of a currency is taken for a decimal
mark. -/
theorem currency_text_changes_amount :
    amount? ("$-" ++ "20") = some 20.0 ∧ amount? "20" = some 20.0 ∧
      amount? ("Rs. " ++ "50") = some 0.5 ∧ amount? "50" = some 50.0 ∧
      ¬ ∀ before rest : String, (∀ c ∈ before.toList, c.isDigit = false) →
        (∃ digit tail, rest.toList = digit :: tail ∧ digit.isDigit = true) →
        amount? (before ++ rest) =
          (amount? rest).map fun x => if '-' ∈ before.toList then -x else x := by
  refine ⟨by decide +kernel, by decide +kernel, by decide +kernel, by decide +kernel, fun ignored => ?_⟩
  have same := ignored "$-" "20" (by simp) ⟨'2', ['0'], by decide, rfl⟩
  revert same
  decide +kernel

end Money

end Facets
