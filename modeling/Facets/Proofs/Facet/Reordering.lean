import Facets.Proofs.Facet.Calls

namespace Facets.Facet

variable {facet : Facet} {rows : RowAnswers} {hits others : Hits} (same : hits.Perm others)

include same

theorem rowValues_perm : (facet.rowValues rows hits).Perm (facet.rowValues rows others) :=
  same.flatMap_right _

theorem rowFit_perm : facet.rowFit rows hits = facet.rowFit rows others :=
  LinearScale.ofValues_perm _ (rowValues_perm same)

theorem bucketSpace_rowValues_perm :
    facet.bucketSpace (facet.rowValues rows hits) =
      facet.bucketSpace (facet.rowValues rows others) :=
  bucketSpace_perm fun _ _ => rowValues_perm same

/-- An item falls into the same buckets among hits in any order, on a stored scale or on the one that
spans the hits. -/
theorem bucketsAmong_perm (stored : Option LinearScale) :
    facet.bucketsAmong rows (stored.getD (facet.rowFit rows hits)) hits =
      facet.bucketsAmong rows (stored.getD (facet.rowFit rows others)) others :=
  bucketsOf_perm (fun _ => by rw [rowFit_perm same]) (fun _ _ => rowValues_perm same) rows

theorem rowHistogram_perm : facet.rowHistogram rows hits = facet.rowHistogram rows others := by
  have sets : facet.bucketsAmong rows (facet.rowFit rows hits) hits =
      facet.bucketsAmong rows (facet.rowFit rows others) others := bucketsAmong_perm same none
  have descriptors : facet.describes (facet.rowFit rows hits) (facet.rowValues rows hits) =
      facet.describes (facet.rowFit rows others) (facet.rowValues rows others) :=
    describes_perm (fun _ => rowFit_perm same) fun _ _ => rowValues_perm same
  rw [rowHistogram, rowHistogram, sets, descriptors]
  congr 1
  exact Bucket.listOf_congr (fun ordinal => (same.map _).countP_eq _) fun _ => rfl

theorem fit?_perm (steady : facet.AnswersBy rows) (memory : FacetMemory) :
    facet.fit? memory hits = facet.fit? memory others := by
  cases fitted : facet.isFitted with
  | true => rw [fit?_of_steady steady fitted, fit?_of_steady steady fitted, rowFit_perm same]
  | false => rw [fit?_of_unfitted fitted, fit?_of_unfitted fitted]

/-- The order of a result set shows in no histogram and in no fitted scale. Narrowing decides item by
item, whatever the order: it keeps the same occurrences of hits, each list in its own order. -/
theorem answers_ignore_order (steady : facet.AnswersBy rows) (calls : List Call)
    (ordinals : List Ordinal) :
    let memory := facet.after calls
    let opens := facet.narrowOpens memory (facet.bucketSpace (facet.rowValues rows hits)) ordinals
    let buckets := facet.bucketsAmong rows (memory.scale.getD (facet.rowFit rows hits)) hits
    (facet.count memory hits).result = (facet.count memory others).result ∧
    (facet.count memory hits).memory.scale = (facet.count memory others).memory.scale ∧
    (facet.narrow memory hits ordinals).result =
      opens.map (fun _ => hits.within buckets ordinals) ∧
    (facet.narrow memory others ordinals).result =
      opens.map (fun _ => others.within buckets ordinals) ∧
    (hits.within buckets ordinals).Perm (others.within buckets ordinals) ∧
    (facet.narrow memory hits ordinals).memory.scale =
      (facet.narrow memory others ordinals).memory.scale := by
  intro memory opens buckets
  have faithful := facet.faithful_after calls
  refine ⟨?_, ?_, narrow_result faithful steady hits ordinals, ?_, same.filter _, ?_⟩
  · rw [count_result_of_steady faithful steady, count_result_of_steady faithful steady,
      rowHistogram_perm same]
  · rw [count_scale, count_scale, fit?_perm same steady]
  · rw [narrow_result faithful steady, ← bucketSpace_rowValues_perm same,
      ← bucketsAmong_perm same]
  · rw [narrow_scale, narrow_scale, fit?_perm same steady]

omit same in
theorem answers_ignore_order_market :
    let hits := TableIndex.marketHits
    ∃ facet, TableIndex.market.toIndex.facet .default "price" .linear = .ok facet ∧
      (facet.count (facet.after [.narrow hits [0]]) hits).result =
        (facet.count (facet.after [.narrow hits [0]]) hits.reverse).result ∧
      (facet.narrow (facet.after [.narrow hits [0]]) hits.reverse [0, 5]).result =
        .ok [⟨⟨0, 0, none⟩, 4⟩, ⟨⟨0, 2, none⟩, 7⟩, ⟨⟨0, 0, some 1⟩, 2⟩, ⟨⟨0, 2, none⟩, 3⟩] := by
  intro hits
  have steady := (@TableIndex.facet_answersBy TableIndex.market .default "price" .linear _ rfl).1
  have reversed : hits.Perm hits.reverse := (List.reverse_perm hits).symm
  refine ⟨_, rfl, (answers_ignore_order reversed steady [.narrow hits [0]] [0, 5]).1, ?_⟩
  decide +kernel

end Facets.Facet
