import Facets.Proofs.Histogram
import Facets.Proofs.Money
import Facets.Proofs.Number.Key

/-!
Sorting a histogram by amounts. The labels of money are looked up first, in the order of the buckets.
If all of them resolve, the buckets are sorted in descending order of their amounts, and those of one
amount or of none keep their order; if one does not, every bucket stays where it is.
-/

namespace Facets

theorem Money.isNaN_of_amount? {label : String} {x : Float} (named : amount? label = some x) :
    x.isNaN = false := by
  have number : (sizeOf (spelled label.toList)).isNaN = false := (sizeOf_roundsTo _).number
  rw [amount?_eq] at named
  split at named <;> cases named
  split
  · rw [Number.isNaN_opposite, number]
  · exact number

theorem mergeSort_pair {α : Type} {le : α → α → Bool} {a b : α} (later : le a b = false) :
    [a, b].mergeSort le = [b, a] := by
  simp [List.mergeSort, List.MergeSort.Internal.splitInTwo, later]

section Order

variable {α : Type} {le : α → α → Bool} (trans : ∀ a b c, le a b = true → le b c = true → le a c = true)
  (total : ∀ a b, (le a b || le b a) = true)

include trans total

/-- Sorting keeps the order among elements that may stand in any order. -/
theorem filter_mergeSort {p : α → Bool} (tied : ∀ a b, p a = true → p b = true → le a b = true)
    (xs : List α) : (xs.mergeSort le).filter p = xs.filter p := by
  have sorted : (xs.filter p).Pairwise fun a b => le a b = true :=
    List.pairwise_of_forall_mem_list fun a ha b hb =>
      tied a b (List.mem_filter.mp ha).2 (List.mem_filter.mp hb).2
  have kept := (List.sublist_mergeSort trans total sorted List.filter_sublist).filter p
  rw [List.filter_filter, List.filter_congr fun a _ => Bool.and_self (p a)] at kept
  exact (kept.eq_of_length ((List.mergeSort_perm xs le).filter p).length_eq.symm).symm

end Order

namespace Bucket

def isMoney (bucket : Bucket) : Bool := bucket.label?.any (·.style = .money)

/-- The amount that a bucket's label names, as far as the label was looked up. -/
def named? (bucket : Bucket) : Option Float :=
  if bucket.isMoney then bucket.text?.bind Money.amount? else none

variable {dictionary : Dictionary} {bucket : Bucket}

theorem isNaN_of_named? {x : Float} (named : bucket.named? = some x) : x.isNaN = false := by
  unfold named? at named
  split at named
  · obtain ⟨text, _, amount⟩ := Option.bind_eq_some_iff.mp named
    exact Money.isNaN_of_amount? amount
  · cases named

theorem isMoney_asked : (bucket.asked dictionary).isMoney = bucket.isMoney := by
  rw [isMoney, isMoney, label?_asked]
  cases bucket.label? <;> rfl

theorem isMoney_askedIf {needs : Bucket → Bool} :
    (bucket.askedIf needs dictionary).isMoney = bucket.isMoney := by
  unfold askedIf
  split
  · exact isMoney_asked
  · rfl

/-- The amount of a bucket is what is made of the answer of its label, if that is of money. -/
theorem amount?_eq (dictionary : Dictionary) (bucket : Bucket) : bucket.amount? dictionary =
    if bucket.isMoney then (bucket.ask dictionary).map fun text => text.bind Money.amount?
    else .succeed bucket none := by
  obtain ⟨ordinal, descriptor, count⟩ := bucket
  cases descriptor with
  | range | value => rfl
  | label label =>
    by_cases money : label.style = .money
    · simp only [amount?, ask, isMoney, label?, Option.any_some, Label.amount?, money, decide_true,
        if_true, Attempt.map, Attempt.mapAfter]
      cases (label.resolve dictionary).result <;> rfl
    · simp only [amount?, isMoney, label?, Option.any_some, Label.amount?, money, decide_false, if_false,
        Bool.false_eq_true]
      rfl

theorem asks_amount? (dictionary : Dictionary) :
    Asks dictionary isMoney (Bucket.amount? dictionary) := by
  have amounts : Asks dictionary (fun _ => true) fun bucket =>
      (bucket.ask dictionary).map fun text => text.bind Money.amount? :=
    (asks_ask dictionary).map (fun _ text => text.bind Money.amount?) fun _ => rfl
  simpa only [Bool.and_true, ← amount?_eq] using amounts.only isMoney none

theorem named?_of_amount? {amount : Option Float}
    (answer : (bucket.amount? dictionary).result = .ok amount) :
    (bucket.askedIf isMoney dictionary).named? = amount := by
  rw [amount?_eq] at answer
  rw [named?, isMoney_askedIf, askedIf]
  cases money : bucket.isMoney with
  | false =>
    rw [money] at answer
    exact Except.ok.inj answer
  | true =>
    rw [money] at answer
    obtain ⟨text, answered, rfl⟩ := exists_of_map_ok answer
    simp only [if_true, text?_of_ask answered]

theorem amount?_of_clear (clear : bucket.isMoney = true → bucket.refusal? dictionary = none) :
    (bucket.amount? dictionary).result = .ok (bucket.askedIf isMoney dictionary).named? := by
  cases answer : (bucket.amount? dictionary).result with
  | ok amount => rw [named?_of_amount? answer]
  | error error =>
    obtain ⟨money, refused⟩ := ((asks_amount? dictionary).error_iff bucket error).mp answer
    rw [clear money] at refused
    cases refused

end Bucket

namespace Histogram

theorem mayPrecede_trans (a b c : Option Float) (first : mayPrecede a b = true)
    (next : mayPrecede b c = true) : mayPrecede a c = true := by
  cases a <;> cases b <;> cases c <;> simp_all only [mayPrecede, decide_eq_true_eq, ValueKey.le_iff,
    Bool.false_eq_true]
  omega

theorem mayPrecede_total (a b : Option Float) : (mayPrecede a b || mayPrecede b a) = true := by
  cases a <;> cases b <;> simp only [mayPrecede, Bool.or_eq_true, decide_eq_true_eq, ValueKey.le_iff,
    Bool.or_true, Bool.true_or]
  omega

theorem mayPrecede_self (a : Option Float) : mayPrecede a a = true := by
  simpa using mayPrecede_total a a

/-- What precedes an amount is an amount, and no smaller. -/
theorem le_of_mayPrecede {a : Option Float} {y : Float} (number : y.isNaN = false)
    (numbers : ∀ x, a = some x → x.isNaN = false) (precedes : mayPrecede a (some y) = true) :
    ∃ x, a = some x ∧ y ≤ x ∧ ¬ (x = -0.0 ∧ y = 0.0) := by
  cases a with
  | none => cases precedes
  | some x =>
    have later : ¬ Number.Precedes x y := by
      rw [← ValueKey.ofValue_lt_iff, ValueKey.lt_iff]
      exact not_lt.mpr (ValueKey.le_iff.mp (of_decide_eq_true precedes))
    refine ⟨x, rfl, ?_, fun zeros => later (Or.inr (Or.inl zeros))⟩
    rw [Number.line_le_iff number (numbers x rfl), ← not_lt,
      ← Number.line_lt_iff (numbers x rfl) number]
    exact fun less => later (Or.inl less)

theorem orderByAmount_eq (shows : Bucket → Option Float) (buckets : List Bucket) :
    orderByAmount (buckets.map shows) buckets =
      buckets.mergeSort fun a b => mayPrecede (shows a) (shows b) := by
  have paired : (buckets.map shows).zip buckets = buckets.map fun bucket => (shows bucket, bucket) := by
    induction buckets with
    | nil => rfl
    | cons bucket rest ih => rw [List.map_cons, List.zip_cons_cons, ih, List.map_cons]
  rw [orderByAmount, paired, ← List.map_mergeSort (f := fun bucket => (shows bucket, bucket))
    (r := fun a b => mayPrecede (shows a) (shows b)) fun _ _ _ _ => rfl, List.map_map]
  exact List.map_id _

end Histogram

namespace Bucket

/-- Whether one bucket may stand before another by the amounts their labels name. -/
def mayPrecede (a b : Bucket) : Bool := Histogram.mayPrecede a.named? b.named?

theorem mayPrecede_trans (a b c : Bucket) : a.mayPrecede b = true → b.mayPrecede c = true →
    a.mayPrecede c = true :=
  Histogram.mayPrecede_trans _ _ _

theorem mayPrecede_total (a b : Bucket) : (a.mayPrecede b || b.mayPrecede a) = true :=
  Histogram.mayPrecede_total _ _

end Bucket

namespace Histogram

/-- Buckets in descending order of their amounts, zero before negative zero, and those without an
amount last. Buckets of the same amount keep their order, and so do those without one. -/
structure ByAmount (before after : List Bucket) : Prop where
  perm : after.Perm before
  descending : after.Pairwise fun a b => ∀ y, b.named? = some y →
    ∃ x, a.named? = some x ∧ y ≤ x ∧ ¬ (x = -0.0 ∧ y = 0.0)
  stable : ∀ amount : Option Float,
    after.filter (fun bucket => bucket.named? = amount) =
      before.filter (fun bucket => bucket.named? = amount)

theorem byAmount_mergeSort (buckets : List Bucket) :
    ByAmount buckets (buckets.mergeSort Bucket.mayPrecede) where
  perm := List.mergeSort_perm _ _
  descending := by
    refine (List.pairwise_mergeSort Bucket.mayPrecede_trans Bucket.mayPrecede_total buckets).imp
      fun {a b} precedes y named => ?_
    rw [Bucket.mayPrecede, named] at precedes
    exact le_of_mayPrecede (Bucket.isNaN_of_named? named) (fun _ => Bucket.isNaN_of_named?) precedes
  stable amount := by
    refine filter_mergeSort Bucket.mayPrecede_trans Bucket.mayPrecede_total
      (fun a b first second => ?_) buckets
    rw [Bucket.mayPrecede, of_decide_eq_true first, of_decide_eq_true second]
    exact mayPrecede_self amount

/-- Without amounts nothing moves. -/
theorem ByAmount.eq_of_none {before after : List Bucket} (sorted : ByAmount before after)
    (none : ∀ bucket ∈ before, bucket.named? = Option.none) : after = before := by
  have all {buckets : List Bucket} (none : ∀ bucket ∈ buckets, bucket.named? = Option.none) :
      buckets.filter (fun bucket => bucket.named? = Option.none) = buckets :=
    List.filter_eq_self.mpr fun bucket member => decide_eq_true (none bucket member)
  have same := sorted.stable Option.none
  rwa [all none, all fun bucket member => none bucket (sorted.perm.mem_iff.mp member)] at same

section Sorted

variable {histogram : Histogram} {dictionary : Dictionary}

theorem sortByMoney_of_clear (clear : Clear dictionary Bucket.isMoney histogram.buckets) :
    histogram.sortByMoney dictionary =
      ⟨.ok (), { histogram with
          buckets := (histogram.buckets.map (Bucket.askedIf Bucket.isMoney dictionary)).mergeSort
            Bucket.mayPrecede },
        reports dictionary Bucket.isMoney histogram.buckets⟩ := by
  have asks := Bucket.asks_amount? dictionary
  obtain ⟨amounts, through⟩ := asks.each_of_clear clear
  have named : amounts.map id = (Attempt.each (Bucket.amount? dictionary)
      histogram.buckets).after.map Bucket.named? := by
    refine Attempt.each_values (fun bucket amount answer => ?_) (by rw [through])
    rw [asks.after_eq, Bucket.named?_of_amount? answer]
    rfl
  rw [List.map_id, through] at named
  simp only [sortByMoney, through]
  rw [named, orderByAmount_eq]
  rfl

theorem sortByMoney_of_refused {reached rest : List Bucket} {bucket : Bucket} {error : LabelError}
    (split : histogram.buckets = reached ++ bucket :: rest)
    (clear : Clear dictionary Bucket.isMoney reached)
    (needed : bucket.isMoney = true) (refused : bucket.refusal? dictionary = some error) :
    histogram.sortByMoney dictionary =
      ⟨.error error, { histogram with
          buckets := reached.map (Bucket.askedIf Bucket.isMoney dictionary) ++ bucket :: rest },
        reports dictionary Bucket.isMoney reached⟩ := by
  have stopped := (Bucket.asks_amount? dictionary).each_of_refused clear needed refused rest
  simp only [sortByMoney, split, stopped]

/-- Sorting a histogram whose labels of money are known and that is sorted changes nothing. -/
theorem sortByMoney_of_sorted
    (known : ∀ bucket ∈ histogram.buckets, bucket.isMoney = true → bucket.text?.isSome = true)
    (sorted : histogram.buckets.mergeSort Bucket.mayPrecede = histogram.buckets) :
    histogram.sortByMoney dictionary = ⟨.ok (), histogram, []⟩ := by
  rw [sortByMoney_of_clear fun bucket member needed =>
    Bucket.refusal?_of_known (known bucket member needed)]
  have same : histogram.buckets.map (Bucket.askedIf Bucket.isMoney dictionary) = histogram.buckets :=
    (List.map_congr_left fun bucket member =>
      Bucket.askedIf_of_known (known bucket member)).trans (List.map_id' _)
  have silent : histogram.buckets.countP
      (fun bucket => bucket.isMoney && bucket.resolvesAnew dictionary) = 0 := by
    refine List.countP_eq_zero.mpr fun bucket member both => ?_
    obtain ⟨needed, anew⟩ := Bool.and_eq_true_iff.mp both
    rw [Bucket.resolvesAnew_of_known (known bucket member needed)] at anew
    cases anew
  rw [same, sorted, reports, silent, List.replicate_zero]

/-- The buckets of a histogram after its labels of money were looked up. -/
def looked (dictionary : Dictionary) (histogram : Histogram) : List Bucket :=
  histogram.buckets.map (Bucket.askedIf Bucket.isMoney dictionary)

/-- If the labels of money resolve, sorting puts the buckets in descending order of the amounts that
these name, leaves those of one amount and those without one in their order, and changes nothing else.
If one does not resolve, the first that does not is the answer, and no bucket moves. -/
theorem sorted_by_amount (dictionary : Dictionary) (histogram : Histogram) :
    (Clear dictionary Bucket.isMoney histogram.buckets →
      ∃ sorted : Histogram, (histogram.sortByMoney dictionary).result = .ok () ∧
        (histogram.sortByMoney dictionary).after = sorted ∧
        sorted = { histogram with buckets := sorted.buckets } ∧
        (∀ bucket ∈ histogram.buckets, (bucket.amount? dictionary).result =
          .ok (bucket.askedIf Bucket.isMoney dictionary).named?) ∧
        ByAmount (histogram.looked dictionary) sorted.buckets ∧
        ((∀ bucket ∈ histogram.looked dictionary, bucket.named? = none) →
          sorted.buckets = histogram.looked dictionary) ∧
        sorted.total = histogram.total ∧ sorted.ordinals = histogram.ordinals ∧
        (histogram.Distinct → ∀ ordinal, sorted.bucket? ordinal =
          (histogram.bucket? ordinal).map (Bucket.askedIf Bucket.isMoney dictionary)) ∧
        ∀ other, sorted.sortByMoney other = ⟨.ok (), sorted, []⟩) ∧
    ∀ reached bucket rest error, histogram.buckets = reached ++ bucket :: rest →
      Clear dictionary Bucket.isMoney reached → bucket.isMoney = true →
      bucket.refusal? dictionary = some error →
      (histogram.sortByMoney dictionary).result = .error error ∧
        (histogram.sortByMoney dictionary).after = { histogram with
          buckets := reached.map (Bucket.askedIf Bucket.isMoney dictionary) ++ bucket :: rest } ∧
        (histogram.sortByMoney dictionary).after.buckets.map
            (fun bucket => (bucket.ordinal, bucket.count)) =
          histogram.buckets.map fun bucket => (bucket.ordinal, bucket.count) := by
  refine ⟨fun clear => ?_, ?_⟩
  · have byAmount := byAmount_mergeSort (histogram.looked dictionary)
    rw [sortByMoney_of_clear clear]
    refine ⟨_, rfl, rfl, rfl, fun bucket member => ?_, byAmount, byAmount.eq_of_none, ?_, ?_,
      fun distinct => ?_, fun other => ?_⟩
    · exact Bucket.amount?_of_clear (clear bucket member)
    · refine total_congr ((byAmount.perm.map _).trans (List.Perm.of_eq ?_))
      rw [looked, List.map_map]
      exact List.map_congr_left fun _ _ => Bucket.count_askedIf
    · refine ordinals_congr ((byAmount.perm.map _).trans (List.Perm.of_eq ?_))
      rw [looked, List.map_map]
      exact List.map_congr_left fun _ _ => Bucket.ordinal_askedIf
    · exact distinct.bucket?_of_perm_map (fun _ => Bucket.ordinal_askedIf) byAmount.perm
    · refine sortByMoney_of_sorted (fun bucket member needed => ?_) ?_
      · obtain ⟨before, listed, rfl⟩ := List.mem_map.mp (byAmount.perm.mem_iff.mp member)
        rw [Bucket.isMoney_askedIf] at needed
        rw [Bucket.askedIf, if_pos needed]
        exact Bucket.isSome_text?_asked (Option.isSome_of_any needed) (clear before listed needed)
      · exact List.mergeSort_of_pairwise
          (List.pairwise_mergeSort Bucket.mayPrecede_trans Bucket.mayPrecede_total _)
  · intro reached bucket rest error split clear needed refused
    rw [sortByMoney_of_refused split clear needed refused]
    refine ⟨rfl, rfl, ?_⟩
    rw [split, List.map_append, List.map_append, List.map_map]
    congr 1
    exact List.map_congr_left fun _ _ => by simp

end Sorted

/-- A histogram of the first terms of a field of money, each in one document. -/
def ofPrices (terms : Nat) : Histogram where
  field := "price"
  mode := .linear
  buckets := (List.range terms).map fun ordinal => ⟨ordinal, .label (.fresh ordinal .money), 1⟩
  format := ⟨false, " - "⟩

/-- Three terms are sorted; a fourth one that the dictionary lacks leaves all where they are. -/
theorem sorted_by_amount_prices :
    ((ofPrices 3).sortByMoney (.ofTerms ["$5", "sold", "$7"])).result = .ok () ∧
      ByAmount ((ofPrices 3).looked (.ofTerms ["$5", "sold", "$7"]))
        ((ofPrices 3).sortByMoney (.ofTerms ["$5", "sold", "$7"])).after.buckets ∧
      ((ofPrices 4).sortByMoney (.ofTerms ["$5", "sold", "$7"])).result =
        .error (.value (.ordinalOutOfRange 3 3)) := by
  obtain ⟨_, resolved, rfl, _, _, sorted, _⟩ :=
    (sorted_by_amount (.ofTerms ["$5", "sold", "$7"]) (ofPrices 3)).1 (by decide)
  obtain ⟨refused, _⟩ := (sorted_by_amount (.ofTerms ["$5", "sold", "$7"]) (ofPrices 4)).2
    (ofPrices 3).buckets ⟨3, .label (.fresh 3 .money), 1⟩ [] _ rfl (by decide) rfl rfl
  exact ⟨resolved, sorted, refused⟩

/-- Zero and negative zero are equal numbers, but sorting puts zero first. -/
theorem zeros_change_places :
    Clear (.ofTerms ["-0", "0"]) Bucket.isMoney (ofPrices 2).buckets ∧
    ∃ first second x y, (ofPrices 2).looked (.ofTerms ["-0", "0"]) = [first, second] ∧
      first.named? = some x ∧ second.named? = some y ∧ (x == y) = true ∧
      first.ordinal ≠ second.ordinal ∧
      ((ofPrices 2).sortByMoney (.ofTerms ["-0", "0"])).after.buckets = [second, first] := by
  have clear : Clear (.ofTerms ["-0", "0"]) Bucket.isMoney (ofPrices 2).buckets := by decide
  refine ⟨clear, ⟨0, .label ⟨0, .money, some "-0"⟩, 1⟩, ⟨1, .label ⟨1, .money, some "0"⟩, 1⟩, -0.0, 0.0,
    rfl, by decide +kernel, by decide +kernel, by decide +kernel, by decide, ?_⟩
  rw [sortByMoney_of_clear clear]
  have later : Bucket.mayPrecede ⟨0, .label ⟨0, .money, some "-0"⟩, 1⟩
      ⟨1, .label ⟨1, .money, some "0"⟩, 1⟩ = false := by decide +kernel
  exact mergeSort_pair later

end Histogram

end Facets
