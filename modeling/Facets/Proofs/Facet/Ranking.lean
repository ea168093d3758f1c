import Facets.Proofs.Facet.Narrowing
import Facets.Proofs.Facet.Totals
import Facets.Proofs.Number.Sortable

/-!
Exact facets. Their buckets are the distinct values of a result set in ascending order, and counting
and narrowing number them alike.
-/

namespace Facets

open Number (Precedes)

namespace RankTable

/-- The distinct values of a table in its order. -/
def values (table : RankTable) : List Float := table.keys.map ValueKey.value

variable {xs : List Float}

theorem getElem?_values (table : RankTable) (ordinal : Ordinal) :
    table.values[ordinal]? = table.valueAt? ordinal := List.getElem?_map ..

theorem mem_values {x : Float} : x ∈ (ofValues xs).values ↔ x ∈ xs := by
  simp only [values, List.mem_map, mem_keys]
  constructor
  · rintro ⟨_, ⟨y, member, rfl⟩, rfl⟩
    rwa [ValueKey.value_ofValue]
  · exact fun member => ⟨_, ⟨x, member, rfl⟩, ValueKey.value_ofValue x⟩

theorem values_pairwise (xs : List Float) : (ofValues xs).values.Pairwise Precedes := by
  refine List.pairwise_map.mpr ((keys_pairwise xs).imp_of_mem fun {a b} first second less => ?_)
  obtain ⟨x, _, rfl⟩ := mem_keys.mp first
  obtain ⟨y, _, rfl⟩ := mem_keys.mp second
  rw [ValueKey.value_ofValue, ValueKey.value_ofValue]
  exact (ValueKey.ofValue_lt_iff x y).mp less

/-- Reading a value off its rank and ranking it are inverse to each other. -/
theorem valueAt?_eq_some_iff {ordinal : Ordinal} {x : Float} :
    (ofValues xs).valueAt? ordinal = some x ↔ (ofValues xs).rank? x = some ordinal := by
  have distinct : (ofValues xs).keys.Nodup := Ascending.ofList_nodup _
  have placed : (ofValues xs).rank? x = some ordinal ↔
      (ofValues xs).keys[ordinal]? = some (ValueKey.ofValue x) := by
    rw [rank?, List.idxOf?_eq_some_iff, List.getElem?_eq_some_iff]
    constructor
    · rintro ⟨within, here, _⟩
      exact ⟨within, here⟩
    · rintro ⟨within, here⟩
      refine ⟨within, here, fun earlier less same => ?_⟩
      have places := distinct.getElem_inj_iff.mp (same.trans here.symm)
      omega
  rw [placed, valueAt?, Option.map_eq_some_iff]
  constructor
  · rintro ⟨key, here, rfl⟩
    obtain ⟨y, _, rfl⟩ := mem_keys.mp (List.mem_of_getElem? here)
    rw [here, ValueKey.value_ofValue]
  · exact fun here => ⟨_, here, ValueKey.value_ofValue x⟩

theorem rankAmong_eq_iff {ordinal : Ordinal} {x : Float} (member : x ∈ xs) :
    rankAmong xs x = ordinal ↔ (ofValues xs).values[ordinal]? = some x := by
  rw [getElem?_values, valueAt?_eq_some_iff, rank?_ofValues member, Option.some_inj]

end RankTable

/-- Membership goes by identity: it tells the zeros apart, and NaN is a member like any other. -/
instance decidableMemFloat (x : Float) (xs : List Float) : Decidable (x ∈ xs) :=
  decidable_of_iff (∃ y ∈ xs, y = x)
    ⟨fun ⟨_, member, same⟩ => same ▸ member, fun member => ⟨x, member, rfl⟩⟩

/-- One bucket for each value in the order of the values, with the number of documents that hold it. -/
def Bucket.ofValues (values : List Float) (documents : List (List Float)) : List Bucket :=
  values.zipIdx.map fun place =>
    ⟨place.2, .value place.1, documents.countP fun document => place.1 ∈ document⟩

/-- Buckets in the order of their ordinals are known by their members. -/
theorem Bucket.eq_of_mem_iff {xs ys : List Bucket} (first : (xs.map (·.ordinal)).Pairwise (· < ·))
    (second : (ys.map (·.ordinal)).Pairwise (· < ·)) (same : ∀ bucket, bucket ∈ xs ↔ bucket ∈ ys) :
    xs = ys := by
  have irreflexive : Std.Irrefl fun a b : Bucket => a.ordinal < b.ordinal :=
    ⟨fun bucket => lt_irrefl bucket.ordinal⟩
  have asymmetric : Std.Asymm fun a b : Bucket => a.ordinal < b.ordinal :=
    ⟨fun _ _ less => less.asymm⟩
  exact (List.pairwise_map.mp first).eq_of_mem_iff (List.pairwise_map.mp second) same

theorem Bucket.ofValues_pairwise (values : List Float) (documents : List (List Float)) :
    ((ofValues values documents).map (·.ordinal)).Pairwise (· < ·) := by
  have ordinals : (ofValues values documents).map (·.ordinal) = List.range values.length := by
    rw [ofValues, List.map_map, List.range_eq_range', ← List.zipIdx_map_snd 0 values]
    rfl
  rw [ordinals]
  exact List.pairwise_lt_range

theorem Bucket.mem_ofValues {values : List Float} {documents : List (List Float)} {bucket : Bucket} :
    bucket ∈ ofValues values documents ↔ ∃ x, values[bucket.ordinal]? = some x ∧
      bucket.descriptor = .value x ∧
        bucket.count = documents.countP fun document => x ∈ document := by
  simp only [ofValues, List.mem_map, Prod.exists, List.mem_zipIdx_iff_getElem?]
  constructor
  · rintro ⟨x, ordinal, here, rfl⟩
    exact ⟨x, here, rfl, rfl⟩
  · rintro ⟨x, here, shown, counted⟩
    refine ⟨x, bucket.ordinal, here, ?_⟩
    rw [← shown, ← counted]

/-- What counts of a document are the values it holds, not their order or repetition. -/
theorem Bucket.ofValues_congr (values : List Float) {hits : Hits} {f g : Hit → List Float}
    (same : ∀ hit x, x ∈ f hit ↔ x ∈ g hit) :
    ofValues values (hits.map f) = ofValues values (hits.map g) := by
  refine List.map_congr_left fun place _ => ?_
  have counts : ((hits.map f).countP fun document => place.1 ∈ document) =
      (hits.map g).countP fun document => place.1 ∈ document := by
    rw [List.countP_map, List.countP_map]
    refine List.countP_congr fun hit _ => ?_
    simp only [Function.comp_apply, decide_eq_true_eq, same]
  rw [counts]

namespace Facet

variable {facet : Facet} {reader : Reader Int64}

theorem mem_bucketsOf_exact (numeric : facet.source = .numeric reader) (exact : facet.mode = .exact)
    {rows : RowAnswers} {scale : LinearScale} {values : List Float} {item : Item} {ordinal : Ordinal}
    (contained : ∀ x ∈ facet.numbersOf rows item, x ∈ values) :
    ordinal ∈ facet.bucketsOf rows scale values item ↔
      ∃ x, (RankTable.ofValues values).values[ordinal]? = some x ∧
        x ∈ facet.numbersOf rows item := by
  have rule : facet.bucketOf scale values = RankTable.rankAmong values := by
    simp only [bucketOf, exact]
  simp only [bucketsOf, numeric, rule, List.mem_toFinset, List.mem_map]
  constructor
  · rintro ⟨x, held, ranked⟩
    exact ⟨x, (RankTable.rankAmong_eq_iff (contained x held)).mp ranked, held⟩
  · rintro ⟨x, here, held⟩
    exact ⟨x, held, (RankTable.rankAmong_eq_iff (contained x held)).mpr here⟩

/-- The buckets of an exact facet are those of the distinct values, in their order. -/
theorem listOf_exact (numeric : facet.source = .numeric reader) (exact : facet.mode = .exact)
    (heard : Nat → RowAnswers) (scale : LinearScale) (hits : Hits) :
    Bucket.listOf (facet.bucketSets heard scale hits)
        (facet.describes scale (facet.values heard hits)) =
      Bucket.ofValues (RankTable.ofValues (facet.values heard hits)).values
        (hits.zipIdx.map fun place => facet.numbersOf (heard place.2) place.1.item) := by
  have described : ∀ ordinal, facet.describes scale (facet.values heard hits) ordinal =
      ((RankTable.ofValues (facet.values heard hits)).values[ordinal]?).map .value := by
    intro ordinal
    rw [RankTable.getElem?_values]
    simp only [describes, numeric, exact]
  -- the values of one document are among those of the pass, so their ranks are those of the table
  have counted : ∀ ordinal x,
      (RankTable.ofValues (facet.values heard hits)).values[ordinal]? = some x →
      (facet.bucketSets heard scale hits).countP (fun set => ordinal ∈ set) =
        (hits.zipIdx.map fun place => facet.numbersOf (heard place.2) place.1.item).countP
          fun document => x ∈ document := by
    intro ordinal x here
    rw [bucketSets, List.countP_map, List.countP_map]
    refine List.countP_congr fun place member => ?_
    have contained : ∀ y ∈ facet.numbersOf (heard place.2) place.1.item,
        y ∈ facet.values heard hits :=
      fun y held => List.mem_flatMap.mpr ⟨place, member, held⟩
    simp only [Function.comp_apply, decide_eq_true_eq]
    rw [mem_bucketsOf_exact numeric exact contained, here]
    simp only [Option.some_inj, exists_eq_left']
  refine Bucket.eq_of_mem_iff Bucket.listOf_pairwise (Bucket.ofValues_pairwise _ _) fun bucket => ?_
  rw [Bucket.mem_listOf, Bucket.mem_ofValues, described]
  constructor
  · rintro ⟨_, shown, counts⟩
    obtain ⟨x, here, same⟩ := Option.map_eq_some_iff.mp shown
    exact ⟨x, here, same.symm, counts.trans (counted _ _ here)⟩
  · rintro ⟨x, here, shown, counts⟩
    refine ⟨?_, ?_, counts.trans (counted _ _ here).symm⟩
    · rw [counts, List.countP_pos_iff]
      have held := RankTable.mem_values.mp (List.mem_of_getElem? here)
      obtain ⟨place, member, inside⟩ := List.mem_flatMap.mp held
      exact ⟨_, List.mem_map.mpr ⟨place, member, rfl⟩, decide_eq_true inside⟩
    · rw [here, shown]
      rfl

/-- Counting an exact facet ranks the distinct values of the documents. -/
theorem count_exact (numeric : facet.source = .numeric reader) (exact : facet.mode = .exact)
    (memory : FacetMemory) (hits : Hits) :
    let documents := hits.zipIdx.map fun place =>
      facet.numbersOf (facet.heard memory.openings hits place.2) place.1.item
    (facet.count memory hits).result = (facet.opens memory.openings).map fun _ =>
      facet.histogram (Bucket.ofValues (RankTable.ofValues documents.flatten).values documents) := by
  intro documents
  have unfitted : facet.isFitted = false := by simp only [isFitted, numeric, exact]
  rw [count_result (faithful_of_numeric numeric memory), countOpens_of_unfitted unfitted,
    countingCursor_of_unfitted unfitted, reference, listOf_exact numeric exact]
  rfl

/-- Where rows always answer the same, the documents of a result set hold the numbers of its rows. -/
theorem documents_heard (numeric : facet.source = .numeric reader) {rows : RowAnswers}
    (steady : facet.AnswersBy rows) {n : Nat} (opened : facet.opens n = .ok ()) (hits : Hits) :
    (hits.zipIdx.map fun place => facet.numbersOf (facet.heard n hits place.2) place.1.item) =
      hits.map fun hit => facet.numbersOf rows hit.item := by
  rw [← hits.map_zipIdx]
  refine List.map_congr_left fun place _ => ?_
  exact numbersOf_congr (words_heard numeric steady opened place.2) place.1.item

/-- On a column with at most one value a row, the buckets count every document with a value once. -/
theorem total_numeric (numeric : facet.source = .numeric reader)
    (single : facet.shape? = some .numericSingle) (n : Nat) (scale : LinearScale) (hits : Hits)
    {histogram : Histogram}
    (listed : histogram.buckets = Bucket.listOf (facet.bucketSets (facet.heard n hits) scale hits)
      (facet.describes scale (facet.values (facet.heard n hits) hits))) :
    histogram.total = (hits.zipIdx.map fun place =>
      facet.numbersOf (facet.heard n hits place.2) place.1.item).countP
        fun document => !document.isEmpty := by
  have still : facet.isEvent = false := by simp only [isEvent, numeric]
  have small : ∀ set ∈ facet.bucketSets (facet.heard n hits) scale hits, set.card ≤ 1 := by
    intro set member
    obtain ⟨place, _, rfl⟩ := List.mem_map.mp member
    exact card_bucketsOf_le_one (Or.inl single) still n place.2 scale _ place.1.item
  rw [Bucket.total_of_listOf described_of_filled listed, sum_card_of_le_one small, bucketSets,
    List.countP_map, List.countP_map]
  refine List.countP_congr fun place _ => ?_
  simp only [Function.comp_apply, decide_eq_true_eq, bucketsOf, numeric, List.toFinset_nonempty_iff,
    ne_eq, List.map_eq_nil_iff, Bool.not_eq_true', List.isEmpty_eq_false_iff]

/-- Narrowing an exact facet takes the hits that hold the values of the given ranks. -/
theorem narrow_exact (numeric : facet.source = .numeric reader) (exact : facet.mode = .exact)
    {rows : RowAnswers} (steady : facet.AnswersBy rows) (memory : FacetMemory) (hits : Hits)
    (ordinals : List Ordinal) :
    let values := (RankTable.ofValues (facet.rowValues rows hits)).values
    (facet.narrow memory hits ordinals).result =
      (facet.narrowOpens memory values.length ordinals).map fun _ =>
        hits.filter fun hit => ∃ ordinal ∈ ordinals, ∃ x ∈ values[ordinal]?,
          x ∈ facet.numbersOf rows hit.item := by
  intro values
  have space : facet.bucketSpace (facet.rowValues rows hits) = values.length := by
    simp only [bucketSpace, numeric, exact]
    exact (List.length_map _).symm
  have kept : hits.within (facet.bucketsAmong rows (memory.scale.getD (facet.rowFit rows hits)) hits)
      ordinals = hits.filter fun hit => ∃ ordinal ∈ ordinals, ∃ x ∈ values[ordinal]?,
        x ∈ facet.numbersOf rows hit.item := by
    refine List.filter_congr fun hit member => ?_
    have contained : ∀ x ∈ facet.numbersOf rows hit.item, x ∈ facet.rowValues rows hits :=
      fun x held => mem_rowValues member held
    simp only [decide_eq_decide, bucketsAmong, mem_bucketsOf_exact numeric exact contained,
      Option.mem_def]
    rfl
  rw [narrow_result (faithful_of_numeric numeric memory) steady, space, kept]

/-- An exact facet is a rank table of the distinct values of a result set: they are its buckets in
ascending order, numbered from zero, each with the number of positions that hold it. Narrowing numbers
the values of the result set anew and alike. -/
theorem exact_facet_ranks_values (numeric : facet.source = .numeric reader)
    (exact : facet.mode = .exact) (memory : FacetMemory) (hits : Hits) :
    let documents := hits.zipIdx.map fun place =>
      facet.numbersOf (facet.heard memory.openings hits place.2) place.1.item
    let table := RankTable.ofValues documents.flatten
    ∃ values : List Float,
      values.Pairwise Precedes ∧
      (∀ x, x ∈ values ↔ ∃ document ∈ documents, x ∈ document) ∧
      (∀ ordinal, table.valueAt? ordinal = values[ordinal]?) ∧
      (∀ ordinal x, table.rank? x = some ordinal ↔ table.valueAt? ordinal = some x) ∧
      (facet.count memory hits).result = (facet.opens memory.openings).map
        (fun _ => facet.histogram (Bucket.ofValues values documents)) ∧
      (∀ bucket ∈ Bucket.ofValues values documents, 1 ≤ bucket.count) ∧
      (facet.shape? = some .numericSingle →
        (facet.histogram (Bucket.ofValues values documents)).total =
          documents.countP fun document => !document.isEmpty) ∧
      ∀ rows, facet.AnswersBy rows → facet.opens memory.openings = .ok () →
        ∀ (later : FacetMemory) (ordinals : List Ordinal),
          (facet.narrow later hits ordinals).result =
            (facet.narrowOpens later values.length ordinals).map fun _ =>
              hits.filter fun hit => ∃ ordinal ∈ ordinals, ∃ x ∈ values[ordinal]?,
                x ∈ facet.numbersOf rows hit.item := by
  intro documents table
  have buckets : Bucket.listOf
      (facet.bucketSets (facet.heard memory.openings hits)
        (facet.fit (facet.heard memory.openings hits) hits) hits)
      (facet.describes (facet.fit (facet.heard memory.openings hits) hits)
        (facet.values (facet.heard memory.openings hits) hits)) =
      Bucket.ofValues table.values documents := listOf_exact numeric exact _ _ hits
  refine ⟨table.values, RankTable.values_pairwise _, fun x => ?_,
    fun ordinal => (table.getElem?_values ordinal).symm,
    fun ordinal x => RankTable.valueAt?_eq_some_iff.symm, ?_, fun bucket member => ?_,
    fun single => ?_, fun rows steady opened later ordinals => ?_⟩
  · rw [RankTable.mem_values, List.mem_flatten]
  · exact count_exact numeric exact memory hits
  · rw [← buckets] at member
    exact (Bucket.mem_listOf.mp member).1
  · exact total_numeric numeric single _ _ hits buckets.symm
  · have same : documents.flatten = facet.rowValues rows hits :=
      values_heard numeric steady opened
    have narrowed := narrow_exact numeric exact steady later hits ordinals
    rwa [← same] at narrowed

/-- The prices of the market are ranked, and no price has rank seven. -/
theorem exact_facet_ranks_values_market :
    let hits := TableIndex.marketHits
    ∃ (facet : Facet) (reader : Reader Int64) (values : List Float),
      TableIndex.market.toIndex.facet .default "price" .exact = .ok facet ∧
      facet.source = .numeric reader ∧ facet.mode = .exact ∧ values.Pairwise Precedes ∧
      (∀ x, x ∈ values ↔ ∃ document ∈ hits.zipIdx.map (fun place =>
        facet.numbersOf (facet.heard 0 hits place.2) place.1.item), x ∈ document) ∧
      (facet.narrow .fresh hits [1, 7]).result =
        (facet.narrowOpens .fresh values.length [1, 7]).map fun _ =>
          hits.filter fun hit => ∃ ordinal ∈ [1, 7], ∃ x ∈ values[ordinal]?,
            x ∈ facet.numbersOf (TableIndex.market.answers "price") hit.item := by
  intro hits
  obtain ⟨facet, opened, ⟨reader, numeric⟩, exact⟩ : ∃ facet : Facet,
      TableIndex.market.toIndex.facet .default "price" .exact = .ok facet ∧
        (∃ reader, facet.source = .numeric reader) ∧ facet.mode = .exact :=
    ⟨_, rfl, ⟨_, rfl⟩, rfl⟩
  obtain ⟨steady, opening⟩ := TableIndex.facet_answersBy opened
  obtain ⟨values, ascending, complete, -, -, -, -, -, narrowed⟩ :=
    exact_facet_ranks_values numeric exact .fresh hits
  exact ⟨facet, reader, values, opened, numeric, exact, ascending, complete,
    narrowed _ steady (opening 0) .fresh [1, 7]⟩

end Facet

end Facets
