import Facets.Proofs.Facet.Integers
import Facets.Proofs.Scale.Fitting

/-!
Linear facets of integers. Every bucket shows the lowest and the highest value it holds. Since the
buckets of a pass are ordered as its values are, the ranges shown are disjoint and ascend, and a value
lies in the range of its own bucket alone.
-/

namespace Facets

open Number

namespace Descriptor

/-- Whether a descriptor is a range that a number lies in. -/
def Holds (x : Float) : Descriptor → Prop
  | .range start stop => start ≤ x ∧ x ≤ stop
  | _ => False

/-- Whether two descriptors are ranges, the first of which ends before the second starts. -/
def Before : Descriptor → Descriptor → Prop
  | .range _ stop, .range start _ => stop < start
  | _, _ => False

end Descriptor

namespace Facet

variable {facet : Facet} {reader : Reader Int64} {rows : RowAnswers} {hits : Hits}

section Linear

variable (numeric : facet.source = .numeric reader) (linear : facet.mode = .linear)

include numeric linear

theorem mem_bucketsAmong_linear {scale : LinearScale} {item : Item} {ordinal : Ordinal} :
    ordinal ∈ facet.bucketsAmong rows scale hits item ↔
      ∃ x ∈ facet.numbersOf rows item, scale.bucketOf x = ordinal := by
  simp only [bucketsAmong, bucketsOf, numeric, bucketOf, linear, List.mem_toFinset, List.mem_map]

/-- The buckets of a linear facet are those its scale puts the values of the result set into. -/
theorem value_of_mem_rowHistogram {bucket : Bucket}
    (listed : bucket ∈ (facet.rowHistogram rows hits).buckets) :
    (∃ x ∈ facet.rowValues rows hits, (facet.rowFit rows hits).bucketOf x = bucket.ordinal) ∧
      bucket.descriptor = .range
        ((NumberScale.linear (facet.rowFit rows hits)).shown facet.traits.kind
          (facet.rowValues rows hits) bucket.ordinal).1
        ((NumberScale.linear (facet.rowFit rows hits)).shown facet.traits.kind
          (facet.rowValues rows hits) bucket.ordinal).2 := by
  obtain ⟨filled, described, counted⟩ := Bucket.mem_listOf.mp listed
  constructor
  · rw [counted, List.countP_pos_iff] at filled
    obtain ⟨set, member, held⟩ := filled
    obtain ⟨hit, within, rfl⟩ := List.mem_map.mp member
    rw [decide_eq_true_iff, mem_bucketsAmong_linear numeric linear] at held
    obtain ⟨x, value, place⟩ := held
    exact ⟨x, mem_rowValues within value, place⟩
  · simp only [describes, numeric, linear, Option.some.injEq] at described
    exact described.symm

theorem exists_bucket_of_value {x : Float} (value : x ∈ facet.rowValues rows hits) :
    ∃ bucket ∈ (facet.rowHistogram rows hits).buckets,
      bucket.ordinal = (facet.rowFit rows hits).bucketOf x := by
  obtain ⟨hit, within, held⟩ := List.mem_flatMap.mp value
  have filled : 0 < (facet.bucketSets (fun _ => rows) (facet.rowFit rows hits) hits).countP fun set =>
      (facet.rowFit rows hits).bucketOf x ∈ set := by
    rw [bucketSets_rows]
    refine List.countP_pos_iff.mpr ⟨_, List.mem_map.mpr ⟨hit, within, rfl⟩, ?_⟩
    exact decide_eq_true ((mem_bucketsAmong_linear numeric linear).mpr ⟨x, held, rfl⟩)
  obtain ⟨descriptor, described⟩ := Option.isSome_iff_exists.mp (described_of_filled _ filled)
  rw [bucketSets_rows] at filled
  rw [values_rows] at described
  exact ⟨⟨_, descriptor, _⟩, Bucket.mem_listOf.mpr ⟨filled, described, rfl⟩, rfl⟩

/-- Where its cursors open, counting a linear facet answers the histogram on the scale that spans the
result set, and remembers the scale. -/
theorem count_linear (steady : facet.AnswersBy rows) {memory : FacetMemory}
    (opened : facet.countOpens memory = .ok ()) (hits : Hits) :
    (facet.count memory hits).result = .ok (facet.rowHistogram rows hits) ∧
      (facet.count memory hits).memory.scale = some (facet.rowFit rows hits) := by
  have fitted : facet.isFitted = true := by simp only [isFitted, numeric, linear]
  constructor
  · rw [count_result_of_steady (faithful_of_numeric numeric memory) steady, opened]
    rfl
  · rw [count_scale, fit?_of_steady steady fitted, (opens_of_countOpens opened).1]
    rfl

end Linear

section Integer

variable {xs : List Float}

/-- A bucket of integers shows the lowest and the highest value it holds. -/
theorem shown_integer (scale : LinearScale) (finite : ∀ x ∈ xs, x.isFinite = true) {x : Float} (member : x ∈ xs) :
    ∃ low high, (NumberScale.linear scale).shown .integer xs (scale.bucketOf x) = (low, high) ∧
      (low ∈ xs ∧ scale.bucketOf low = scale.bucketOf x) ∧
      (high ∈ xs ∧ scale.bucketOf high = scale.bucketOf x) ∧
      ∀ y ∈ xs, scale.bucketOf y = scale.bucketOf x → low ≤ y ∧ y ≤ high := by
  have held {y : Float} : y ∈ xs.filter (fun z => z.isFinite && scale.bucketOf z == scale.bucketOf x) ↔
      y ∈ xs ∧ scale.bucketOf y = scale.bucketOf x := by
    rw [List.mem_filter, Bool.and_eq_true, beq_iff_eq]
    exact and_congr_right fun inside => and_iff_right (finite y inside)
  obtain ⟨low, high, ends⟩ := exists_extremes (held.mpr ⟨member, rfl⟩)
  obtain ⟨first, last, within⟩ := extremes?_spec ends
  rw [held] at first last
  refine ⟨low, high, ?_, first, last, fun y inside place => ?_⟩
  · simp only [NumberScale.shown, ends]
  · obtain ⟨least, most⟩ := within y (held.mpr ⟨inside, place⟩)
    rw [le_iff_toRat (finite low first.1) (finite y inside),
      le_iff_toRat (finite y inside) (finite high last.1)]
    exact ⟨toRat_le_of_ofValue_le (finite low first.1) (finite y inside) least,
      toRat_le_of_ofValue_le (finite y inside) (finite high last.1) most⟩

variable (numeric : facet.source = .numeric reader) (linear : facet.mode = .linear)
  (integer : facet.traits.kind = .integer)

include integer in
theorem exists_word_of_rowValues {x : Float} (value : x ∈ facet.rowValues rows hits) :
    ∃ word : Int64, x = ofInt word.toInt := by
  obtain ⟨hit, -, held⟩ := List.mem_flatMap.mp value
  rw [numbersOf_integer integer] at held
  obtain ⟨word, -, same⟩ := List.mem_map.mp held
  exact ⟨word, same.symm⟩

include integer in
theorem isFinite_of_rowValues {x : Float} (value : x ∈ facet.rowValues rows hits) :
    x.isFinite = true := by
  obtain ⟨word, rfl⟩ := exists_word_of_rowValues integer value
  exact (ofInt_word word).1

include integer in
theorem rowFit_mono {x y : Float} (first : x ∈ facet.rowValues rows hits)
    (second : y ∈ facet.rowValues rows hits) (le : x ≤ y) :
    (facet.rowFit rows hits).bucketOf x ≤ (facet.rowFit rows hits).bucketOf y := by
  rw [rowFit, integer]
  exact LinearScale.bucketOf_mono_of_words (fun _ => exists_word_of_rowValues integer) first second le

include numeric linear integer in
/-- A bucket of integers shows a range from one of its values to another that contains all of them. -/
theorem range_of_mem_rowHistogram {bucket : Bucket}
    (listed : bucket ∈ (facet.rowHistogram rows hits).buckets) :
    ∃ start ∈ facet.rowValues rows hits, ∃ stop ∈ facet.rowValues rows hits,
      bucket.descriptor = .range start stop ∧
        (facet.rowFit rows hits).bucketOf start = bucket.ordinal ∧
        (facet.rowFit rows hits).bucketOf stop = bucket.ordinal ∧
        ∀ y ∈ facet.rowValues rows hits, (facet.rowFit rows hits).bucketOf y = bucket.ordinal →
          start ≤ y ∧ y ≤ stop := by
  obtain ⟨⟨x, value, place⟩, described⟩ := value_of_mem_rowHistogram numeric linear listed
  obtain ⟨start, stop, shown, ⟨first, here⟩, ⟨last, there⟩, within⟩ :=
    shown_integer (facet.rowFit rows hits) (fun _ => isFinite_of_rowValues integer) value
  rw [integer, ← place, shown] at described
  rw [place] at here there within
  exact ⟨start, first, stop, last, described, here, there, within⟩

include numeric linear integer in
/-- Ranges are apart in the order of their buckets, since a value that reached back would be put no later
than the ones before it. -/
theorem before_of_ordinal_lt {earlier later : Bucket}
    (listed : earlier ∈ (facet.rowHistogram rows hits).buckets)
    (present : later ∈ (facet.rowHistogram rows hits).buckets)
    (less : earlier.ordinal < later.ordinal) : earlier.descriptor.Before later.descriptor := by
  obtain ⟨start, first, stop, last, described, -, there, -⟩ :=
    range_of_mem_rowHistogram numeric linear integer listed
  obtain ⟨onset, next, finish, -, shown, here, -⟩ :=
    range_of_mem_rowHistogram numeric linear integer present
  rw [described, shown]
  change stop < onset
  have finite := isFinite_of_rowValues integer last
  have finites := isFinite_of_rowValues integer next
  by_contra reaches
  rw [double_lt_iff_toRat finite finites, not_lt, ← le_iff_toRat finites finite] at reaches
  have ordinals := rowFit_mono integer next last reaches
  rw [here, there] at ordinals
  exact less.not_ge ordinals

include numeric linear integer in
/-- The range of a bucket contains a value of the result set exactly if the value is in the bucket. -/
theorem holds_iff_bucketOf {bucket : Bucket} (listed : bucket ∈ (facet.rowHistogram rows hits).buckets)
    {x : Float} (value : x ∈ facet.rowValues rows hits) :
    bucket.descriptor.Holds x ↔ (facet.rowFit rows hits).bucketOf x = bucket.ordinal := by
  obtain ⟨start, first, stop, last, described, here, there, within⟩ :=
    range_of_mem_rowHistogram numeric linear integer listed
  rw [described]
  constructor
  · rintro ⟨after, before⟩
    have low := rowFit_mono integer first value after
    have high := rowFit_mono integer value last before
    rw [here] at low
    rw [there] at high
    exact high.antisymm low
  · exact within x value

end Integer

/-- The histogram of a linear facet of integers shows disjoint ranges in ascending order, each from a
value of the result set to another. A value lies in the range of the bucket its scale puts it into
and in no other, and the buckets are ordered as the values are. -/
theorem integer_ranges_ascend (numeric : facet.source = .numeric reader)
    (linear : facet.mode = .linear) (integer : facet.traits.kind = .integer)
    (steady : facet.AnswersBy rows) {memory : FacetMemory}
    (opened : facet.countOpens memory = .ok ()) (hits : Hits) :
    let values := facet.rowValues rows hits
    ∃ histogram scale, (facet.count memory hits).result = .ok histogram ∧
      (facet.count memory hits).memory.scale = some scale ∧
      (∀ bucket ∈ histogram.buckets, ∃ start ∈ values, ∃ stop ∈ values,
        bucket.descriptor = .range start stop ∧ start ≤ stop) ∧
      (histogram.buckets.Pairwise fun earlier later => earlier.ordinal < later.ordinal ∧
        earlier.descriptor.Before later.descriptor) ∧
      (∀ x ∈ values, ∃ bucket ∈ histogram.buckets, bucket.ordinal = scale.bucketOf x ∧
        ∀ other ∈ histogram.buckets, other.descriptor.Holds x ↔ other = bucket) ∧
      ∀ x ∈ values, ∀ y ∈ values, x ≤ y → scale.bucketOf x ≤ scale.bucketOf y := by
  intro values
  obtain ⟨counted, remembered⟩ := count_linear numeric linear steady opened hits
  refine ⟨_, _, counted, remembered, fun bucket listed => ?_, ?_, fun x value => ?_,
    fun x first y second le => rowFit_mono integer first second le⟩
  · obtain ⟨start, first, stop, last, described, -, there, within⟩ :=
      range_of_mem_rowHistogram numeric linear integer listed
    exact ⟨start, first, stop, last, described, (within stop last there).1⟩
  · exact (List.pairwise_map.mp Bucket.listOf_pairwise).imp_of_mem fun listed present less =>
      ⟨less, before_of_ordinal_lt numeric linear integer listed present less⟩
  · obtain ⟨bucket, listed, place⟩ := exists_bucket_of_value numeric linear value
    have distinct : ((facet.rowHistogram rows hits).buckets.map (·.ordinal)).Nodup :=
      Bucket.listOf_pairwise.imp ne_of_lt
    refine ⟨bucket, listed, place, fun other present => ?_⟩
    rw [holds_iff_bucketOf numeric linear integer present value, ← place]
    exact ⟨fun same => List.inj_on_of_nodup_map distinct present listed same.symm,
      fun same => same ▸ rfl⟩

/-- The ranges of the prices that the hits have are apart. -/
theorem integer_ranges_ascend_market :
    let rows := TableIndex.market.answers "price"
    ∃ (facet : Facet) (reader : Reader Int64),
      TableIndex.market.toIndex.facet .default "price" .linear = .ok facet ∧
      (facet.source = .numeric reader ∧ facet.mode = .linear ∧ facet.traits.kind = .integer ∧
        facet.AnswersBy rows ∧ facet.countOpens .fresh = .ok ()) ∧
      TableIndex.marketHits.flatMap (facet.wordsOf rows ·.item) = [50, 1, 90, 50, 1, 90] ∧
      ∃ histogram, (facet.count .fresh TableIndex.marketHits).result = .ok histogram ∧
        histogram.buckets.Pairwise fun earlier later => earlier.ordinal < later.ordinal ∧
          earlier.descriptor.Before later.descriptor := by
  intro rows
  obtain ⟨facet, opened, reader, numeric, linear, integer, values⟩ : ∃ facet : Facet,
      TableIndex.market.toIndex.facet .default "price" .linear = .ok facet ∧
        ∃ reader, facet.source = .numeric reader ∧ facet.mode = .linear ∧
          facet.traits.kind = .integer ∧
          TableIndex.marketHits.flatMap (facet.wordsOf rows ·.item) = [50, 1, 90, 50, 1, 90] :=
    ⟨_, rfl, _, rfl, rfl, rfl, by decide +kernel⟩
  obtain ⟨steady, opening⟩ := TableIndex.facet_answersBy opened
  have opens := countOpens_of_opening opening .fresh
  obtain ⟨histogram, -, counted, -, -, ascending, -⟩ :=
    integer_ranges_ascend numeric linear integer steady opens TableIndex.marketHits
  exact ⟨facet, reader, opened, ⟨numeric, linear, integer, steady, opens⟩, values, histogram,
    counted, ascending⟩

end Facet

end Facets
