import Facets.Proofs.Facet.Calls
import Facets.Proofs.Index.Table

namespace Facets

theorem Hits.length_within (hits : Hits) (bucketsOf : Item → Finset Ordinal)
    (ordinals : List Ordinal) : (hits.within bucketsOf ordinals).length =
      hits.countP fun hit => ∃ ordinal ∈ ordinals, ordinal ∈ bucketsOf hit.item := by
  rw [Hits.within, List.countP_eq_length_filter]

namespace Facet

variable {facet : Facet} {rows : RowAnswers} {hits : Hits} {memory : FacetMemory}

theorem rows_described (facet : Facet) (rows : RowAnswers) (hits : Hits) (ordinal : Ordinal)
    (filled : 0 < (hits.map fun hit =>
      facet.bucketsAmong rows (facet.rowFit rows hits) hits hit.item).countP
        fun set => ordinal ∈ set) :
    (facet.describes (facet.rowFit rows hits) (facet.rowValues rows hits) ordinal).isSome := by
  rw [← bucketSets_rows] at filled
  rw [← values_rows]
  exact described_of_filled ordinal filled

theorem count_rowHistogram (facet : Facet) (rows : RowAnswers) (hits : Hits) (ordinal : Ordinal) :
    (facet.rowHistogram rows hits).count ordinal = hits.countP fun hit =>
      ordinal ∈ facet.bucketsAmong rows (facet.rowFit rows hits) hits hit.item := by
  rw [Bucket.count_of_listOf (facet.rows_described rows hits) rfl, List.countP_map]
  rfl

theorem mem_ordinals_rowHistogram {ordinal : Ordinal} :
    ordinal ∈ (facet.rowHistogram rows hits).ordinals ↔ ∃ hit ∈ hits,
      ordinal ∈ facet.bucketsAmong rows (facet.rowFit rows hits) hits hit.item := by
  rw [Bucket.mem_ordinals_of_listOf (facet.rows_described rows hits) rfl, List.countP_map,
    List.countP_pos_iff]
  simp only [Function.comp_apply, decide_eq_true_eq]

/-- All buckets of a histogram together hold the hits that are in some bucket. -/
theorem length_within_ordinals (facet : Facet) (rows : RowAnswers) (hits : Hits) :
    (hits.within (facet.bucketsAmong rows (facet.rowFit rows hits) hits)
      (facet.rowHistogram rows hits).ordinals).length =
      (hits.map fun hit => facet.bucketsAmong rows (facet.rowFit rows hits) hits hit.item).countP
        fun set => set.Nonempty := by
  rw [Hits.length_within, List.countP_map]
  refine List.countP_congr fun hit member => ?_
  simp only [Function.comp_apply, decide_eq_true_eq]
  constructor
  · rintro ⟨ordinal, _, held⟩
    exact ⟨ordinal, held⟩
  · rintro ⟨ordinal, held⟩
    exact ⟨ordinal, mem_ordinals_rowHistogram.mpr ⟨hit, member, held⟩, held⟩

theorem eq_rowHistogram_of_counted (faithful : facet.Faithful memory)
    (steady : facet.AnswersBy rows) {histogram : Histogram}
    (counted : (facet.count memory hits).result = .ok histogram) :
    facet.countOpens memory = .ok () ∧ histogram = facet.rowHistogram rows hits := by
  obtain ⟨opened, rfl⟩ := eq_reference_of_counted faithful counted
  obtain ⟨first, second⟩ := opens_of_countOpens opened
  exact ⟨opened, reference_heard steady first second⟩

theorem eq_within_of_narrowed (faithful : facet.Faithful memory) (steady : facet.AnswersBy rows)
    {ordinals : List Ordinal} {picked : Hits}
    (narrowed : (facet.narrow memory hits ordinals).result = .ok picked) :
    picked = hits.within
      (facet.bucketsAmong rows (memory.scale.getD (facet.rowFit rows hits)) hits) ordinals := by
  rw [narrow_result faithful steady] at narrowed
  obtain ⟨_, _, answered⟩ := exists_of_map_ok narrowed
  exact answered.symm

/-- The scale remembered after a count is the one the count was made on. -/
theorem bucketsAmong_after_count (steady : facet.AnswersBy rows)
    (opened : facet.opens memory.openings = .ok ()) :
    facet.bucketsAmong rows
      ((facet.count memory hits).memory.scale.getD (facet.rowFit rows hits)) hits =
      facet.bucketsAmong rows (facet.rowFit rows hits) hits := by
  refine bucketsOf_congr (fun fitted => ?_) (fun _ _ => rfl) rows
  rw [count_scale, fit?_of_steady steady fitted, opened]
  rfl

/-- After a count, narrowing picks the hits that were counted under one of the given ordinals: under
one ordinal as many as its bucket holds, under all of them as many as the count reported. Without a
count before, it picks the same. -/
theorem narrow_agrees_with_count (steady : facet.AnswersBy rows) (present : facet.source ≠ .absent)
    (calls : List Call) {histogram : Histogram}
    (counted : (facet.count (facet.after calls) hits).result = .ok histogram) :
    let buckets := facet.bucketsAmong rows (facet.rowFit rows hits) hits
    let narrow := facet.narrow (facet.count (facet.after calls) hits).memory hits
    (∀ ordinal, histogram.count ordinal = hits.countP fun hit => ordinal ∈ buckets hit.item) ∧
    (∀ ordinals picked, (narrow ordinals).result = .ok picked →
      picked = hits.within buckets ordinals) ∧
    (∀ ordinal picked, (narrow [ordinal]).result = .ok picked →
      picked.length = histogram.count ordinal) ∧
    (∀ picked, (narrow histogram.ordinals).result = .ok picked →
      (facet.count (facet.after calls) hits).trace.getLast? =
        some (.event (.finished .counting facet.field hits.length picked.length))) ∧
    (∀ ordinals picked, (facet.narrow .fresh hits ordinals).result = .ok picked →
      picked = hits.within buckets ordinals) := by
  intro buckets narrow
  have faithful := facet.faithful_after calls
  obtain ⟨opens, rfl⟩ := eq_rowHistogram_of_counted faithful steady counted
  obtain ⟨first, second⟩ := opens_of_countOpens opens
  have counts := facet.count_rowHistogram rows hits
  have picks : ∀ ordinals picked, (narrow ordinals).result = .ok picked →
      picked = hits.within buckets ordinals := by
    intro ordinals picked narrowed
    rw [eq_within_of_narrowed (faithful.count hits) steady narrowed,
      bucketsAmong_after_count steady first]
  refine ⟨counts, picks, ?_, ?_, ?_⟩
  · intro ordinal picked narrowed
    rw [picks _ _ narrowed, Hits.length_within, counts]
    simp only [List.mem_singleton, exists_eq_left, buckets]
  · intro picked narrowed
    rw [count_finishes faithful present opens, picks _ _ narrowed,
      bucketSets_heard steady first second, length_within_ordinals]
  · intro ordinals picked narrowed
    exact eq_within_of_narrowed facet.faithful_fresh steady narrowed

theorem narrow_agrees_with_count_market : ∃ facet histogram picked,
    TableIndex.market.toIndex.facet .default "price" .linear = .ok facet ∧
    (facet.count (facet.after []) TableIndex.marketHits).result = .ok histogram ∧
    (facet.narrow (facet.count (facet.after []) TableIndex.marketHits).memory
      TableIndex.marketHits [9]).result = .ok picked ∧
    picked.length = histogram.count 9 ∧ histogram.count 9 = 2 := by
  refine ⟨_, _, _, rfl, rfl, rfl, ?_, by decide +kernel⟩
  have steady := (@TableIndex.facet_answersBy TableIndex.market .default "price" .linear _ rfl).1
  exact (narrow_agrees_with_count steady (by intro absent; cases absent) [] rfl).2.2.1 9 _ rfl

end Facet

end Facets
