import Facets.Money
import Facets.Proofs.Number.Decimal

/-!
Amounts of money as they are written: digits in groups with a mark between each two, decimals behind
a last mark, and any other characters in between. Such an amount is read as the nearest double,
whichever of the two marks stands where.
-/

namespace Facets.Money

open Number
open Float.Model.UnpackedFloat

/-- A point or a comma. -/
def IsMark (c : Char) : Prop := c = '.' ∨ c = ','

def Digits (text : List Char) : Prop := ∀ c ∈ text, c.isDigit = true

/-- The number that digits spell. -/
def numeral (digits : List Char) : ℕ :=
  Nat.ofDigits 10 (digits.reverse.map fun c => c.toNat - '0'.toNat)

/-- Digits in groups with a mark between each two: the text, its digits, and those of its last
group. -/
inductive Grouped : List Char → List Char → List Char → Prop
  | first {group : List Char} : Digits group → Grouped group group group
  | next {text digits last group : List Char} {mark : Char} : Grouped text digits last →
      IsMark mark → Digits group → Grouped (text ++ mark :: group) (digits ++ group) group

/-- An amount as it is written, and its value. Without decimals the last of several groups is at least
three digits long. -/
inductive Written : List Char → ℚ → Prop
  | plain {digits : List Char} : Digits digits → digits ≠ [] → Written digits (numeral digits)
  | grouped {text digits last : List Char} : Grouped text digits last → 3 ≤ last.length →
      Written text (numeral digits)
  | decimal {text digits last decimals : List Char} {mark : Char} : Grouped text digits last →
      IsMark mark → Digits decimals → decimals.length = 1 ∨ decimals.length = 2 →
      Written (text ++ mark :: decimals) (numeral digits + numeral decimals / 10 ^ decimals.length)

/-- A label shows a text if it has the characters of the text in order, with others before, between and
behind them that are neither digits nor marks. -/
inductive Shows : List Char → List Char → Prop
  | done : Shows [] []
  | own {c : Char} {label text : List Char} : Shows label text → Shows (c :: label) (c :: text)
  | other {c : Char} {label text : List Char} : c.isDigit = false → ¬ IsMark c →
      Shows label text → Shows (c :: label) text

/-- A minus sign is the first character of a label that is not white space. -/
def LedByMinus (label : List Char) : Prop :=
  ∃ blank rest, label = blank ++ '-' :: rest ∧ ∀ c ∈ blank, Text.isSpace c = true

section Digits

variable {text group digits : List Char} {mark : Char}

theorem IsMark.not_digit (isMark : IsMark mark) : mark.isDigit = false := by
  rcases isMark with rfl | rfl <;> rfl

theorem Digits.reverse (digits : Digits group) : Digits group.reverse := fun c member =>
  digits c (List.mem_reverse.mp member)

theorem Digits.filter_eq (digits : Digits group) : group.filter Char.isDigit = group :=
  List.filter_eq_self.mpr digits

theorem digitsValue_eq (digits : List Char) : digitsValue digits = numeral digits := by
  rw [digitsValue, numeral, Nat.ofDigits_eq_foldr, List.foldr_map, List.foldr_reverse]
  congr 1
  funext n c
  rw [Nat.cast_id, add_comm]
  rfl

theorem numeral_append (digits more : List Char) :
    numeral (digits ++ more) = numeral digits * 10 ^ more.length + numeral more := by
  rw [numeral, List.reverse_append, List.map_append, Nat.ofDigits_append, List.length_map,
    List.length_reverse, add_comm, mul_comm]
  rfl

theorem decimals_of_digits (digits : Digits group) : decimals group = 0 := by
  have all : (group.reverse.takeWhile Char.isDigit).length = group.length := by
    rw [List.takeWhile_eq_self_iff.mpr digits.reverse, List.length_reverse]
  rw [decimals, all, if_neg (fun some => lt_irrefl _ some.1)]

/-- What follows the last mark are decimals if it is one or two digits. -/
theorem decimals_of_mark (start : List Char) (isMark : IsMark mark) (digits : Digits group) :
    decimals (start ++ mark :: group) =
      if 1 ≤ group.length ∧ group.length ≤ 2 then group.length else 0 := by
  have after : ((start ++ mark :: group).reverse.takeWhile Char.isDigit).length = group.length := by
    rw [List.reverse_append, List.reverse_cons, List.append_assoc,
      List.takeWhile_append_of_pos digits.reverse, List.singleton_append,
      List.takeWhile_cons_of_neg (by rw [isMark.not_digit]; exact Bool.false_ne_true),
      List.append_nil, List.length_reverse]
  have less : group.length < (start ++ mark :: group).length := by
    rw [List.length_append, List.length_cons]
    omega
  rw [decimals, after]
  simp only [less, true_and]

theorem decimals_le (text : List Char) : decimals text ≤ 2 := by
  rw [decimals]
  split
  · rename_i few
    exact few.2.2
  · exact Nat.zero_le 2

theorem Grouped.of_mem {last : List Char} (grouped : Grouped text digits last) :
    ∀ c ∈ text, c.isDigit = true ∨ IsMark c := by
  induction grouped with
  | first group => exact fun c member => Or.inl (group c member)
  | next _ isMark group ih =>
    intro c member
    rcases List.mem_append.mp member with earlier | later
    · exact ih c earlier
    · rcases List.mem_cons.mp later with rfl | inside
      · exact Or.inr isMark
      · exact Or.inl (group c inside)

theorem filter_append_mark (text : List Char) (isMark : IsMark mark) (digits : Digits group) :
    (text ++ mark :: group).filter Char.isDigit = text.filter Char.isDigit ++ group := by
  rw [List.filter_append, List.filter_cons_of_neg (by rw [isMark.not_digit]; exact Bool.false_ne_true),
    digits.filter_eq]

theorem Grouped.filter_eq {last : List Char} (grouped : Grouped text digits last) :
    text.filter Char.isDigit = digits := by
  induction grouped with
  | first group => exact group.filter_eq
  | next _ isMark group ih => rw [filter_append_mark _ isMark group, ih]

theorem Grouped.decimals_eq {last : List Char} (grouped : Grouped text digits last)
    (long : 3 ≤ last.length) : decimals text = 0 := by
  cases grouped with
  | first group => exact decimals_of_digits group
  | next _ isMark group => rw [decimals_of_mark _ isMark group, if_neg (by omega)]

theorem Grouped.filled {last : List Char} (grouped : Grouped text digits last)
    (long : 3 ≤ last.length) : digits ≠ [] := by
  rw [← List.length_pos_iff]
  cases grouped with
  | first group => omega
  | next _ _ group =>
    rw [List.length_append]
    omega

/-- The value of a written amount is its digits with the decimals taken off. -/
theorem Written.spec {value : ℚ} (written : Written text value) :
    (∀ c ∈ text, c.isDigit = true ∨ IsMark c) ∧ text.filter Char.isDigit ≠ [] ∧
      value = numeral (text.filter Char.isDigit) / 10 ^ decimals text := by
  cases written with
  | plain digits filled =>
    refine ⟨fun c member => Or.inl (digits c member), ?_, ?_⟩
    · rwa [digits.filter_eq]
    · rw [digits.filter_eq, decimals_of_digits digits, pow_zero, div_one]
  | grouped grouped long =>
    refine ⟨grouped.of_mem, ?_, ?_⟩
    · rw [grouped.filter_eq]
      exact grouped.filled long
    · rw [grouped.filter_eq, grouped.decimals_eq long, pow_zero, div_one]
  | @decimal text digits last decimals mark grouped isMark behind few =>
    have places : Money.decimals (text ++ mark :: decimals) = decimals.length := by
      rw [decimals_of_mark _ isMark behind, if_pos (by omega)]
    refine ⟨(Grouped.next grouped isMark behind).of_mem, ?_, ?_⟩
    · rw [filter_append_mark _ isMark behind]
      intro empty
      rw [(List.append_eq_nil_iff.mp empty).2] at few
      simp at few
    · rw [filter_append_mark _ isMark behind, grouped.filter_eq, places, numeral_append]
      push_cast
      field_simp

end Digits

section Label

variable {label text : List Char}

theorem spelled_cons (c : Char) (label : List Char) : spelled (c :: label) =
    if (c.isDigit || c == '.' || c == ',') = true then c :: spelled label else spelled label :=
  List.filter_cons

theorem kept_iff (c : Char) :
    (c.isDigit || c == '.' || c == ',') = true ↔ c.isDigit = true ∨ IsMark c := by
  rw [Bool.or_eq_true, Bool.or_eq_true, beq_iff_eq, beq_iff_eq, or_assoc]
  rfl

/-- Only the text is left of a label that shows it. -/
theorem Shows.spelled_eq (shows : Shows label text)
    (own : ∀ c ∈ text, c.isDigit = true ∨ IsMark c) : spelled label = text := by
  induction shows with
  | done => rfl
  | own _ ih =>
    obtain ⟨here, later⟩ := List.forall_mem_cons.mp own
    rw [spelled_cons, if_pos ((kept_iff _).mpr here), ih later]
  | other noDigit noMark _ ih =>
    have left : ¬ (_ : Bool) = true := mt (kept_iff _).mp (by
      rw [noDigit]
      exact not_or.mpr ⟨Bool.false_ne_true, noMark⟩)
    rw [spelled_cons, if_neg left, ih own]

theorem shows_spelled (label : List Char) : Shows label (spelled label) := by
  induction label with
  | nil => exact .done
  | cons c label ih =>
    rw [spelled_cons]
    split
    case isTrue own => exact .own ih
    case isFalse other =>
      obtain ⟨noDigit, noMark⟩ := not_or.mp (mt (kept_iff c).mpr other)
      exact .other (Bool.eq_false_of_not_eq_true noDigit) noMark ih

/-- The digits of a label are those of its spelled amount. -/
theorem filter_spelled (label : List Char) :
    (spelled label).filter Char.isDigit = label.filter Char.isDigit := by
  rw [spelled, List.filter_filter]
  refine List.filter_congr fun c _ => ?_
  cases c.isDigit <;> rfl

theorem isNegative_iff (label : List Char) : isNegative label = true ↔ LedByMinus label := by
  rw [isNegative, beq_iff_eq]
  constructor
  · intro led
    obtain ⟨rest, behind⟩ := List.head?_eq_some_iff.mp led
    refine ⟨label.takeWhile Text.isSpace, rest, ?_, fun c => List.mem_takeWhile_imp⟩
    rw [← behind, List.takeWhile_append_dropWhile]
  · rintro ⟨blank, rest, rfl, white⟩
    rw [List.dropWhile_append_of_pos white, List.dropWhile_cons_of_neg (by decide), List.head?_cons]

end Label

section Amount

variable {label : String} {text : List Char}

/-- The size of the amount that a text of digits and marks spells. -/
def sizeOf (text : List Char) : Float :=
  ofDecimal (numeral (text.filter Char.isDigit)) (-(decimals text : ℤ))

theorem sizeOf_roundsTo (text : List Char) :
    RoundsTo (numeral (text.filter Char.isDigit) / 10 ^ decimals text) (sizeOf text) :=
  roundsTo_ofDecimal _ ((decimals_le text).trans (by decide))

theorem signOf_sizeOf (text : List Char) : signOf (sizeOf text).toModel.unpack = .positive :=
  signOf_ofDecimal _ ((decimals_le text).trans (by decide))

theorem amount?_eq (label : String) : amount? label =
    if label.toList.filter Char.isDigit = [] then none
    else some (if isNegative label.toList then -sizeOf (spelled label.toList)
      else sizeOf (spelled label.toList)) := by
  rw [amount?, digitsValue_eq, filter_spelled]
  simp only [List.isEmpty_iff, sizeOf, filter_spelled]

theorem filter_digits_ne_nil_iff (label : List Char) :
    label.filter Char.isDigit ≠ [] ↔ ∃ c ∈ label, c.isDigit = true := by
  rw [Ne, List.filter_eq_nil_iff]
  push Not
  rfl

/-- Labels without a digit name no amount, and all others do. -/
theorem amount?_isSome_iff (label : String) :
    (amount? label).isSome = true ↔ ∃ c ∈ label.toList, c.isDigit = true := by
  rw [amount?_eq, ← filter_digits_ne_nil_iff]
  split
  case isTrue empty => exact iff_of_false Bool.false_ne_true (not_not.mpr empty)
  case isFalse filled => exact iff_of_true rfl filled

/-- An amount is negative if a minus sign leads its label. -/
theorem amount?_of_digit (filled : label.toList.filter Char.isDigit ≠ []) :
    (LedByMinus label.toList → amount? label = some (-sizeOf (spelled label.toList))) ∧
      (¬ LedByMinus label.toList → amount? label = some (sizeOf (spelled label.toList))) := by
  rw [amount?_eq, if_neg filled, ← isNegative_iff]
  exact ⟨fun negative => by rw [if_pos negative], fun positive => by rw [if_neg positive]⟩

end Amount

/-- Every label with a digit names an amount, and an amount that is written with decimals behind its
last mark, or none, is read as the double nearest to it, below zero if a minus sign leads the label. -/
theorem amounts_read_by_last_mark (label : String) :
    ((amount? label).isSome = true ↔ ∃ c ∈ label.toList, c.isDigit = true) ∧
      ∀ text value, Written text value → Shows label.toList text →
        ∃ size : Float, RoundsTo value size ∧ signOf size.toModel.unpack = .positive ∧
          (size.isFinite = true → ∀ other : Float, other.isFinite = true →
            |value - toRat size| ≤ |value - toRat other|) ∧
          (LedByMinus label.toList → amount? label = some (-size)) ∧
          (¬ LedByMinus label.toList → amount? label = some size) := by
  refine ⟨amount?_isSome_iff label, fun text value written shows => ?_⟩
  obtain ⟨own, filled, worth⟩ := written.spec
  have spells := shows.spelled_eq own
  have rounds := sizeOf_roundsTo text
  rw [← worth] at rounds
  rw [← spells, filter_spelled] at filled
  obtain ⟨negative, positive⟩ := amount?_of_digit filled
  rw [spells] at negative positive
  exact ⟨sizeOf text, rounds, signOf_sizeOf text, fun finite _ finites => rounds.nearest finite finites,
    negative, positive⟩

/-- The comma is the decimal mark where the points separate groups. -/
theorem amounts_read_by_last_mark_reais :
    (Written "1.234,50".toList (2469 / 2) ∧ Shows " -R$ 1.234,50".toList "1.234,50".toList ∧
      LedByMinus " -R$ 1.234,50".toList) ∧
      ∃ size : Float, RoundsTo (2469 / 2) size ∧ amount? " -R$ 1.234,50" = some (-size) := by
  have written : Written "1.234,50".toList (2469 / 2) := by
    have ofDigits {text : List Char} (digits : text.all Char.isDigit = true) : Digits text :=
      List.all_eq_true.mp digits
    have thousands : Grouped (['1'] ++ '.' :: ['2', '3', '4']) (['1'] ++ ['2', '3', '4'])
        ['2', '3', '4'] :=
      .next (.first (ofDigits rfl)) (.inl rfl) (ofDigits rfl)
    have amount : Written ((['1'] ++ '.' :: ['2', '3', '4']) ++ ',' :: ['5', '0'])
        (numeral ['1', '2', '3', '4'] + numeral ['5', '0'] / 10 ^ 2) :=
      .decimal thousands (.inr rfl) (ofDigits rfl) (.inr rfl)
    have value : ((numeral ['1', '2', '3', '4'] : ℚ) + numeral ['5', '0'] / 10 ^ 2) = 2469 / 2 := by
      have whole : numeral ['1', '2', '3', '4'] = 1234 := by decide
      have behind : numeral ['5', '0'] = 50 := by decide
      rw [whole, behind]
      norm_num
    rw [← value]
    exact amount
  have shows := shows_spelled " -R$ 1.234,50".toList
  have led : LedByMinus " -R$ 1.234,50".toList :=
    ⟨[' '], "R$ 1.234,50".toList, by decide, List.all_eq_true.mp rfl⟩
  obtain ⟨size, rounds, -, -, negative, -⟩ :=
    (amounts_read_by_last_mark " -R$ 1.234,50").2 _ _ written shows
  exact ⟨⟨written, shows, led⟩, size, rounds, negative led⟩

end Facets.Money
