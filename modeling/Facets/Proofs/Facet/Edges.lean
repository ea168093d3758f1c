import Facets.Proofs.Facet.Ranges
import Facets.Proofs.Scale.Edges

/-!
Linear facets of fractions. The scale spans the finite values of a pass, with the lowest one in the first
bucket and, unless the span overflows or is one of eight short ones, the highest in the last; and the
edges shown are finite but where special values widen them, unless the span or the last edge overflows.
-/

namespace Facets

open Number

namespace Facet

variable {facet : Facet} {reader : Reader Int64} {rows : RowAnswers} {hits : Hits} {x y : Float}

/-- Buckets of fractions show the edges of the scale. -/
theorem shown_fractional {kind : NumberKind} (fractional : kind ≠ .integer) (scale : LinearScale)
    (xs : List Float) (ordinal : Ordinal) : (NumberScale.linear scale).shown kind xs ordinal =
      scale.edges ordinal (.ofValues xs) := by
  cases kind with
  | integer => exact absurd rfl fractional
  | single => rfl
  | double => rfl

/-- The scale of a pass with a finite value spans the finite values. -/
theorem rowFit_spans (first : x ∈ facet.rowValues rows hits) (finite : x.isFinite = true) :
    ∃ scale : LinearScale, facet.rowFit rows hits = scale ∧ scale.kind = facet.traits.kind ∧
      (scale.low ∈ facet.rowValues rows hits ∧ scale.low.isFinite = true) ∧
      (scale.high ∈ facet.rowValues rows hits ∧ scale.high.isFinite = true) ∧
      ∀ z ∈ facet.rowValues rows hits, z.isFinite = true →
        scale.low ≤ z ∧ z ≤ scale.high := by
  obtain ⟨low, high, fitted, lowest, highest, within⟩ :=
    LinearScale.ofValues_spec facet.traits.kind first finite
  refine ⟨_, fitted, rfl, lowest, highest, fun z held bounded => ?_⟩
  rw [le_iff_toRat lowest.2 bounded, le_iff_toRat bounded highest.2]
  exact within z held bounded

/-- The histogram of a linear facet of fractions two of which differ spans them: the lowest value is in
the first bucket, and the highest in the last one exactly if the span neither overflows nor is one of
the short ones. If it does not overflow, every edge shown is finite, special values and a last edge
beyond the largest double apart. If it does, all finite values are in one bucket without finite edges. -/
theorem fractional_histogram_spans (numeric : facet.source = .numeric reader)
    (linear : facet.mode = .linear) (fractional : facet.traits.kind ≠ .integer)
    (steady : facet.AnswersBy rows) {memory : FacetMemory}
    (opened : facet.countOpens memory = .ok ()) (first : x ∈ facet.rowValues rows hits)
    (second : y ∈ facet.rowValues rows hits) (finite : x.isFinite = true)
    (finites : y.isFinite = true) (less : x < y) :
    let values := facet.rowValues rows hits
    ∃ histogram scale, (facet.count memory hits).result = .ok histogram ∧
      (facet.count memory hits).memory.scale = some scale ∧
      (scale.low ∈ values ∧ scale.high ∈ values ∧
        ∀ z ∈ values, z.isFinite = true → scale.low ≤ z ∧ z ≤ scale.high) ∧
      scale.bucketOf scale.low = 0 ∧
      (scale.bucketOf scale.high = 9 ↔ (scale.high - scale.low).isFinite = true ∧
        ∀ n ∈ shortSpans, toRat scale.high - toRat scale.low ≠ n * 2 ^ (-1074 : ℤ)) ∧
      ((scale.high - scale.low).isFinite = true → ∀ bucket ∈ histogram.buckets, ∃ start stop,
        bucket.descriptor = .range start stop ∧
          scale.EdgesFit bucket.ordinal (.ofValues values) start stop) ∧
      ((scale.high - scale.low).isFinite = false →
        (∀ z ∈ values, z.isFinite = true → scale.bucketOf z = 0) ∧
        ∀ bucket ∈ histogram.buckets, bucket.ordinal = 0 → ∃ start stop,
          bucket.descriptor = .range start stop ∧ start.isFinite = false ∧ stop.isFinite = false) := by
  intro values
  obtain ⟨counted, remembered⟩ := count_linear numeric linear steady opened hits
  obtain ⟨scale, fitted, kind, ⟨lowest, low⟩, ⟨highest, high⟩, within⟩ := rowFit_spans first finite
  have start := (within x first finite).1
  have stop := (within y second finites).2
  rw [le_iff_toRat low finite] at start
  rw [le_iff_toRat finites high] at stop
  have apart : scale.low < scale.high := (double_lt_iff_toRat low high).mpr
    (start.trans_lt (((double_lt_iff_toRat finite finites).mp less).trans_le stop))
  have shown {bucket : Bucket} (listed : bucket ∈ (facet.rowHistogram rows hits).buckets) :
      bucket.ordinal < 10 ∧ bucket.descriptor = .range
        (scale.edges bucket.ordinal (.ofValues values)).1
        (scale.edges bucket.ordinal (.ofValues values)).2 := by
    obtain ⟨⟨z, -, place⟩, described⟩ := value_of_mem_rowHistogram numeric linear listed
    rw [shown_fractional fractional, fitted] at described
    exact ⟨place ▸ LinearScale.bucketOf_lt _ z, described⟩
  rw [fitted] at remembered
  rw [← kind] at fractional
  refine ⟨_, scale, counted, remembered, ⟨lowest, highest, within⟩, LinearScale.bucketOf_low low fractional,
    LinearScale.bucketOf_high_iff low high apart fractional, fun bounded bucket listed => ?_,
    fun overflow => ⟨fun z _ bounded => ?_, fun bucket listed zero => ?_⟩⟩
  · obtain ⟨small, described⟩ := shown listed
    exact ⟨_, _, described, LinearScale.edgesFit low high apart bounded small _⟩
  · exact LinearScale.bucketOf_of_overflow low high apart fractional overflow bounded
  · obtain ⟨-, described⟩ := shown listed
    rw [zero] at described
    obtain ⟨start, stop⟩ := LinearScale.edges_of_overflow low high apart overflow (.ofValues values)
    exact ⟨_, _, described, start, stop⟩

theorem mem_numbersOf_double (double : facet.traits.kind = .double) {item : Item} {word : Int64}
    (held : word ∈ facet.wordsOf rows item) :
    NumberKind.double.decode word ∈ facet.numbersOf rows item := by
  unfold wordsOf at held
  unfold numbersOf NumberKind.numbers
  rw [double]
  cases row : facet.rowOf item with
  | none => simp [row] at held
  | some row =>
    simp only [row] at held ⊢
    split_ifs at held with whole
    · rw [if_pos ⟨whole, fun _ _ => rfl⟩]
      exact List.mem_map_of_mem held
    · cases held

/-- A special value between two others makes no difference to the bucket of the lowest one. -/
theorem fractional_histogram_spans_special :
    let table := (TableIndex.new 3).withNumbers "size" .double [some 1.0, some (0.0 / 0.0), some 10.0]
    let rows := table.answers "size"
    let hits : Hits := [⟨⟨0, 2, none⟩, 0⟩, ⟨⟨0, 1, none⟩, 0⟩, ⟨⟨0, 0, none⟩, 0⟩]
    ∃ (facet : Facet) (reader : Reader Int64) (x y : Float),
      table.toIndex.facet .default "size" .linear = .ok facet ∧
      (facet.source = .numeric reader ∧ facet.mode = .linear ∧ facet.traits.kind ≠ .integer ∧
        facet.AnswersBy rows ∧ facet.countOpens .fresh = .ok () ∧ x ∈ facet.rowValues rows hits ∧
        y ∈ facet.rowValues rows hits ∧ x.isFinite = true ∧ y.isFinite = true ∧ x < y) ∧
      ∃ scale, (facet.count .fresh hits).memory.scale = some scale ∧
        scale.bucketOf scale.low = 0 := by
  intro table rows hits
  obtain ⟨facet, opened, reader, numeric, linear, double, first, second⟩ : ∃ facet : Facet,
      table.toIndex.facet .default "size" .linear = .ok facet ∧
        ∃ reader, facet.source = .numeric reader ∧ facet.mode = .linear ∧
          facet.traits.kind = .double ∧
          4607182418800017408 ∈ facet.wordsOf rows ⟨0, 0, none⟩ ∧
          4621819117588971520 ∈ facet.wordsOf rows ⟨0, 2, none⟩ :=
    ⟨_, rfl, _, rfl, rfl, rfl, by decide +kernel, by decide +kernel⟩
  obtain ⟨steady, opening⟩ := TableIndex.facet_answersBy opened
  have opens := countOpens_of_opening opening .fresh
  have fractional : facet.traits.kind ≠ .integer := by
    rw [double]
    decide
  have low := mem_rowValues (show (⟨⟨0, 0, none⟩, 0⟩ : Hit) ∈ hits by decide)
    (mem_numbersOf_double double first)
  have high := mem_rowValues (show (⟨⟨0, 2, none⟩, 0⟩ : Hit) ∈ hits by decide)
    (mem_numbersOf_double double second)
  have ends : (NumberKind.double.decode 4607182418800017408).isFinite = true ∧
      (NumberKind.double.decode 4621819117588971520).isFinite = true ∧
      NumberKind.double.decode 4607182418800017408 < NumberKind.double.decode 4621819117588971520 := by
    decide +kernel
  obtain ⟨histogram, scale, -, remembered, -, start, -⟩ := fractional_histogram_spans numeric linear
    fractional steady opens low high ends.1 ends.2.1 ends.2.2
  exact ⟨facet, reader, _, _, opened,
    ⟨numeric, linear, fractional, steady, opens, low, high, ends⟩, scale, remembered, start⟩

/-- A span that overflows puts the highest value into the first bucket, without finite edges. -/
theorem overflowing_span_is_degenerate :
    let table := (TableIndex.new 2).withNumbers "size" .double [some (-1.5e308), some 1.5e308]
    let hits : Hits := [⟨⟨0, 0, none⟩, 0⟩, ⟨⟨0, 1, none⟩, 0⟩]
    let scale : LinearScale := ⟨-1.5e308, 1.5e308, .double⟩
    scale.bucketOf scale.high = 0 ∧
      ∃ facet, table.toIndex.facet .default "size" .linear = .ok facet ∧
        ((facet.narrow .fresh hits [9]).result = .ok []) ∧
        ((facet.count .fresh hits).result.toOption.map fun histogram =>
          (histogram.renderAll .empty).result) = some (.ok ["NaN - Infinity (2)"]) := by
  intro table hits scale
  exact ⟨by decide +kernel, _, rfl, by decide +kernel, by decide +kernel⟩

end Facet

end Facets
