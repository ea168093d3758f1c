import Facets.Proofs.Facet.Agreement
import Facets.Proofs.Index.Terms
import Facets.Proofs.Text.Bytes

/-!
Counting a column of given terms. The buckets of the histogram are the terms that documents of the
result set list, under their own labels and in the order of their bytes, and narrowing to a bucket
picks the documents that list its label.
-/

namespace Facets

theorem Dictionary.label_ofTerms {terms : List String} {ordinal : Ordinal} {term : String}
    (known : terms[ordinal]? = some term) : (ofTerms terms).label ordinal = .ok term := by
  have within : ordinal < terms.length := (List.getElem?_eq_some_iff.mp known).1
  simp only [label, ofTerms, within, if_true, known, Except.mapError]

theorem Label.resolve_fresh {dictionary : Dictionary} {ordinal : Ordinal} {term : String}
    (known : dictionary.label ordinal = .ok term) (style : LabelStyle) :
    ((fresh ordinal style).resolve dictionary).result = .ok term := by
  simp only [resolve, fresh, Dictionary.resolve, known]

namespace Facet

variable {table : TableIndex} {given : GivenTerms} {settings : Settings} {field : String}
  {mode : Mode} {facet : Facet} {hits : Hits}

section Given

variable (opened : (table.withGiven field given).toIndex.facet settings field mode = .ok facet)
  (still : facet.isEvent = false)

include opened still

/-- Where an ordinal stands for a term, the items of its bucket are those that list the term. -/
theorem mem_bucketsAmong_iff_listed {ordinal : Ordinal} {term : String}
    (stands : given.dictionary[ordinal]? = some term) (scale : LinearScale) (item : Item) :
    ordinal ∈ facet.bucketsAmong ((table.withGiven field given).answers field) scale hits item ↔
      term ∈ table.listed given item := by
  rw [TableIndex.mem_bucketsAmong_withGiven opened still]
  constructor
  · rintro ⟨other, listed, here⟩
    rw [stands] at here
    cases here
    exact listed
  · intro listed
    exact ⟨term, listed, stands⟩

/-- A bucket of the histogram has a term that resolves from its label, counts the hits that list the
term, and is listed by one of them. -/
theorem bucket_stands_for_term {bucket : Bucket}
    (member : bucket ∈ (facet.rowHistogram ((table.withGiven field given).answers field) hits).buckets) :
    ∃ term, given.dictionary[bucket.ordinal]? = some term ∧
      (∃ label, bucket.descriptor = .label label ∧ label.ordinal = bucket.ordinal ∧
        (label.resolve facet.dictionary).result = .ok term) ∧
      bucket.count = hits.countP (fun hit => term ∈ table.listed given hit.item) ∧
      ∃ hit ∈ hits, term ∈ table.listed given hit.item := by
  obtain ⟨column, style, source, _⟩ := TableIndex.source_withGiven opened still
  obtain ⟨filled, described, counted⟩ := Bucket.mem_listOf.mp member
  rw [counted, List.countP_map, List.countP_pos_iff] at filled
  obtain ⟨hit, within, held⟩ := filled
  simp only [Function.comp_apply, decide_eq_true_eq] at held
  obtain ⟨term, listed, stands⟩ :=
    (TableIndex.mem_bucketsAmong_withGiven opened still).mp held
  refine ⟨term, stands, ⟨.fresh bucket.ordinal style, ?_, rfl, ?_⟩, ?_, hit, within, listed⟩
  · simp only [describes, source, Option.some.injEq] at described
    exact described.symm
  · have book : facet.dictionary = .ofTerms given.dictionary := by
      simp only [dictionary, source]
    rw [book]
    exact Label.resolve_fresh (Dictionary.label_ofTerms stands) style
  · rw [counted, List.countP_map]
    refine List.countP_congr fun hit _ => ?_
    simp only [Function.comp_apply, decide_eq_true_eq]
    exact mem_bucketsAmong_iff_listed opened still stands _ _

/-- A term that some hit lists has a bucket. -/
theorem exists_bucket_of_listed {hit : Hit} (within : hit ∈ hits) {term : String}
    (listed : term ∈ table.listed given hit.item) :
    ∃ bucket ∈ (facet.rowHistogram ((table.withGiven field given).answers field) hits).buckets,
      given.dictionary[bucket.ordinal]? = some term := by
  have known : term ∈ given.dictionary := by
    unfold TableIndex.listed at listed
    split at listed
    · exact GivenTerms.mem_dictionary_of_mem_ofRow listed
    · cases listed
  obtain ⟨ordinal, stands⟩ := List.mem_iff_getElem?.mp known
  have held : ordinal ∈ facet.bucketsAmong ((table.withGiven field given).answers field)
      (facet.rowFit ((table.withGiven field given).answers field) hits) hits hit.item :=
    (mem_bucketsAmong_iff_listed opened still stands _ _).mpr listed
  have filled := mem_ordinals_rowHistogram.mpr ⟨hit, within, held⟩
  simp only [Histogram.ordinals, Ascending.mem_ofList, List.mem_map] at filled
  obtain ⟨bucket, member, rfl⟩ := filled
  exact ⟨bucket, member, stands⟩

theorem narrow_to_term (calls : List Call) {ordinal : Ordinal} {term : String}
    (stands : given.dictionary[ordinal]? = some term) :
    (facet.narrow (facet.after calls) hits [ordinal]).result =
      .ok (hits.filter fun hit => term ∈ table.listed given hit.item) := by
  have ⟨steady, opening⟩ := TableIndex.facet_answersBy opened
  rw [narrow_result_after steady opening, Hits.within]
  congr 1
  refine List.filter_congr fun hit _ => ?_
  simp only [List.mem_singleton, exists_eq_left, decide_eq_decide]
  exact mem_bucketsAmong_iff_listed opened still stands _ _

end Given

/-- Counting a column of given terms groups the hits by term: the labels of the histogram all resolve,
to the terms that some hit's document lists, in the order of their bytes, and each bucket counts the
hits whose document lists its term, which are also the hits that narrowing to the bucket picks. -/
theorem counts_group_by_term
    (opened : (table.withGiven field given).toIndex.facet settings field mode = .ok facet)
    (still : facet.isEvent = false) (calls later : List Call) (hits : Hits) :
    ∃ histogram terms, (facet.count (facet.after calls) hits).result = .ok histogram ∧
      terms.Pairwise (fun a b => Text.bytes a < Text.bytes b) ∧
      (∀ term, term ∈ terms ↔ ∃ hit ∈ hits, term ∈ table.listed given hit.item) ∧
      List.Forall₂ (fun bucket term =>
        (∃ label, bucket.descriptor = .label label ∧ label.ordinal = bucket.ordinal ∧
          (label.resolve facet.dictionary).result = .ok term) ∧
        bucket.count = hits.countP (fun hit => term ∈ table.listed given hit.item) ∧
        (facet.narrow (facet.after later) hits [bucket.ordinal]).result =
          .ok (hits.filter fun hit => term ∈ table.listed given hit.item))
        histogram.buckets terms := by
  have ⟨steady, opening⟩ := TableIndex.facet_answersBy opened
  have counted := count_result_of_opening steady opening (facet.faithful_after calls) hits
  let histogram := facet.rowHistogram ((table.withGiven field given).answers field) hits
  let termOf (bucket : Bucket) : String := given.dictionary.getD bucket.ordinal ""
  have stands : ∀ bucket ∈ histogram.buckets,
      given.dictionary[bucket.ordinal]? = some (termOf bucket) := by
    intro bucket member
    obtain ⟨term, here, _⟩ := bucket_stands_for_term opened still member
    simp only [termOf, List.getD_eq_getElem?_getD, here, Option.getD_some]
  have ofBucket : ∀ bucket ∈ histogram.buckets, ∀ term,
      given.dictionary[bucket.ordinal]? = some term → term = termOf bucket := by
    intro bucket member term here
    exact Option.some.inj (here.symm.trans (stands bucket member))
  refine ⟨histogram, histogram.buckets.map termOf, counted, ?_, ?_, ?_⟩
  · have ordinals : (histogram.buckets.map (·.ordinal)).Pairwise (· < ·) := Bucket.listOf_pairwise
    rw [List.pairwise_map] at ordinals ⊢
    refine ordinals.imp_of_mem fun {a b} inA inB less => ?_
    obtain ⟨_, first⟩ := List.getElem?_eq_some_iff.mp (stands a inA)
    obtain ⟨_, second⟩ := List.getElem?_eq_some_iff.mp (stands b inB)
    rw [← first, ← second]
    exact Text.bytes_lt_bytes
      (List.pairwise_iff_getElem.mp given.dictionary_pairwise _ _ _ _ less)
  · intro term
    rw [List.mem_map]
    constructor
    · rintro ⟨bucket, member, rfl⟩
      obtain ⟨term, here, _, _, listed⟩ := bucket_stands_for_term opened still member
      rwa [ofBucket bucket member term here] at listed
    · rintro ⟨hit, within, listed⟩
      obtain ⟨bucket, member, here⟩ := exists_bucket_of_listed opened still within listed
      exact ⟨bucket, member, (ofBucket bucket member term here).symm⟩
  · rw [List.forall₂_map_right_iff, List.forall₂_same]
    intro bucket member
    obtain ⟨term, here, resolved, count, _⟩ := bucket_stands_for_term opened still member
    rw [← ofBucket bucket member term here]
    exact ⟨resolved, count, narrow_to_term opened still later here⟩

theorem counts_group_by_term_market :
    let given := GivenTerms.sets [["red", "blue", "red"], [], ["green"], ["blue", "white"]]
    let table := (TableIndex.new 3).withGiven "colour" given
    ∃ (facet : Facet) (histogram : Histogram) (terms : List String),
      table.toIndex.facet .default "colour" .linear = .ok facet ∧
      (facet.count .fresh TableIndex.marketHits).result = .ok histogram ∧
      histogram.buckets.map (fun bucket => (bucket.ordinal, bucket.count)) =
        [(0, 2), (1, 2), (2, 2)] ∧
      terms.Pairwise (fun a b => Text.bytes a < Text.bytes b) ∧ "white" ∉ terms := by
  intro given table
  have opened : table.toIndex.facet .default "colour" .linear = .ok _ := rfl
  obtain ⟨histogram, terms, counted, ascending, listed, _⟩ :=
    counts_group_by_term opened rfl [] [] TableIndex.marketHits
  refine ⟨_, histogram, terms, opened, counted, ?_, ascending, ?_⟩
  · have run := congrArg (Except.map fun histogram : Histogram =>
      histogram.buckets.map fun bucket => (bucket.ordinal, bucket.count)) counted
    refine (Except.ok.inj (run.symm.trans ?_))
    decide +kernel
  · rw [listed]
    decide +kernel

end Facet

end Facets
