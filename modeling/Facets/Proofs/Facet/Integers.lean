import Facets.Proofs.Facet.Calls
import Facets.Proofs.Facet.Ranking
import Facets.Proofs.Number.Whole

/-!
Exact facets of integers. Stored words are read as doubles, so it is by their doubles that documents
share a bucket; only words that are doubles themselves are told apart and shown as they are.
-/

namespace Facets

open Number

/-- The integers that are shown for words are those nearest to them among the doubles. -/
theorem NumberFormat.number_ofInt {format : NumberFormat} (integer : format.integer = true)
    (word : Int64) : ∃ k : ℤ, toRat (ofInt word.toInt) = k ∧
      format.number (ofInt word.toInt) = toString (Int64.ofIntClamp k).toInt := by
  obtain ⟨finite, k, value⟩ := exists_whole_ofInt (natAbs_toInt_le word)
  refine ⟨k, value, ?_⟩
  simp only [number, integer, finite, Bool.and_self, if_true]
  rw [toInt64_of_isFinite finite, value, roundHalfAway_intCast]

/-- A word is shown as it is if and only if some number is stored as it. -/
theorem NumberFormat.number_ofInt_iff {format : NumberFormat} (integer : format.integer = true)
    (word : Int64) :
    format.number (ofInt word.toInt) = toString word.toInt ↔ IsStored word := by
  obtain ⟨k, value, shown⟩ := number_ofInt integer word
  have least : IsDouble Int64.minValue.toInt := ⟨1, 63, rfl, by decide⟩
  rw [shown]
  constructor
  · intro same
    have words := Int64.toInt_inj.mp (Int.repr_inj.mp same)
    unfold Int64.ofIntClamp at words
    split at words
    · split at words
      · have whole := isDouble_truncate (ofInt word.toInt)
        rw [value, truncate_intCast] at whole
        rw [IsStored, ← words, Int64.toInt_ofIntLE]
        exact Or.inr whole
      · exact Or.inl words.symm
    · exact Or.inr (words ▸ least)
  · intro stored
    rw [(toRat_stored stored).2, Int.cast_inj] at value
    rw [← value]
    split
    · rename_i last
      rw [last]
      rfl
    · rw [Int64.ofIntClamp_toInt]

theorem NumberKind.numbers_integer (delivery : Delivery Int64) :
    NumberKind.integer.numbers delivery =
      if delivery.complaint = none then delivery.values.map fun word => ofInt word.toInt else [] := by
  simp only [numbers, stores, implies_true, and_true, ← funext decode_integer]

namespace Facet

/-- The words stored for an item: those of its row, and none without a row that can be read. -/
def wordsOf (facet : Facet) (rows : RowAnswers) (item : Item) : List Int64 :=
  match facet.rowOf item with
  | some row => if (rows.words row).complaint = none then (rows.words row).values else []
  | none => []

variable {facet : Facet} {reader : Reader Int64} {rows : RowAnswers}

theorem numbersOf_integer (integer : facet.traits.kind = .integer) (rows : RowAnswers) (item : Item) :
    facet.numbersOf rows item = (facet.wordsOf rows item).map fun word => ofInt word.toInt := by
  unfold numbersOf wordsOf
  cases facet.rowOf item with
  | none => rfl
  | some row =>
    dsimp only
    rw [integer, NumberKind.numbers_integer]
    split <;> rfl

/-- Two hits are picked by one bucket of an exact facet if and only if they hold one value. -/
theorem exists_bucket_iff (numeric : facet.source = .numeric reader) (exact : facet.mode = .exact)
    (steady : facet.AnswersBy rows) (opening : ∀ n, facet.opens n = .ok ()) (memory : FacetMemory)
    {hits : Hits} {first second : Hit} (listed : first ∈ hits) (other : second ∈ hits) :
    (∃ ordinal picked, (facet.narrow memory hits [ordinal]).result = .ok picked ∧
        first ∈ picked ∧ second ∈ picked) ↔
      ∃ x ∈ facet.numbersOf rows first.item, x ∈ facet.numbersOf rows second.item := by
  have narrowed (ordinal : Ordinal) := narrow_exact numeric exact steady memory hits [ordinal]
  simp only [narrowOpens_of_opening opening, Except.map, List.mem_singleton, exists_eq_left,
    Option.mem_def] at narrowed
  simp only [narrowed, Except.ok.injEq, exists_eq_left', List.mem_filter, decide_eq_true_eq, listed,
    other, true_and]
  constructor
  -- one rank names one value
  · rintro ⟨ordinal, ⟨x, here, held⟩, y, there, holds⟩
    cases here.symm.trans there
    exact ⟨x, held, holds⟩
  · rintro ⟨x, held, holds⟩
    obtain ⟨ordinal, here⟩ := List.mem_iff_getElem?.mp
      (RankTable.mem_values.mpr (mem_rowValues listed held))
    exact ⟨ordinal, ⟨x, here, held⟩, x, here, holds⟩

theorem value_of_mem_count (numeric : facet.source = .numeric reader) (exact : facet.mode = .exact)
    (steady : facet.AnswersBy rows) (opening : ∀ n, facet.opens n = .ok ()) {memory : FacetMemory}
    {hits : Hits} {histogram : Histogram} (counted : (facet.count memory hits).result = .ok histogram)
    {bucket : Bucket} (listed : bucket ∈ histogram.buckets) :
    ∃ hit ∈ hits, ∃ x ∈ facet.numbersOf rows hit.item, bucket.descriptor = .value x := by
  rw [count_exact numeric exact, documents_heard numeric steady (opening _), opening] at counted
  cases counted
  obtain ⟨x, here, shown, _⟩ := Bucket.mem_ofValues.mp listed
  have held := RankTable.mem_values.mp (List.mem_of_getElem? here)
  obtain ⟨document, member, inside⟩ := List.mem_flatten.mp held
  obtain ⟨hit, within, rfl⟩ := List.mem_map.mp member
  exact ⟨hit, within, x, inside, shown⟩

/-- Exact facets of integers sort documents by the doubles nearest to their words: two hits share a
bucket if and only if they hold words with one nearest double. Words that some number is stored as
are told apart, and they alone are shown as they are; all words up to two to the fifty-third are such
words. -/
theorem integers_share_exact_buckets_as_doubles {index : Index} {settings : Settings} {field : String}
    (opened : index.facet settings field .exact = .ok facet) (numeric : facet.source = .numeric reader)
    (integer : (index.traits field).kind = .integer) (steady : facet.AnswersBy rows)
    (opening : ∀ n, facet.opens n = .ok ()) :
    (∀ (memory : FacetMemory) (hits : Hits), ∀ first ∈ hits, ∀ second ∈ hits,
      (∃ ordinal picked, (facet.narrow memory hits [ordinal]).result = .ok picked ∧
          first ∈ picked ∧ second ∈ picked) ↔
        ∃ v ∈ facet.wordsOf rows first.item, ∃ w ∈ facet.wordsOf rows second.item,
          ofInt v.toInt = ofInt w.toInt) ∧
    (∀ word : Int64, word.toInt.natAbs ≤ 2 ^ 53 → IsStored word) ∧
    (∀ v w : Int64, IsStored v → IsStored w → (ofInt v.toInt = ofInt w.toInt ↔ v = w)) ∧
    ∀ (memory : FacetMemory) (hits : Hits) (histogram : Histogram),
      (facet.count memory hits).result = .ok histogram → ∀ bucket ∈ histogram.buckets,
        (∃ hit ∈ hits, ∃ word ∈ facet.wordsOf rows hit.item,
          bucket.descriptor = .value (ofInt word.toInt)) ∧
        ∀ word : Int64, bucket.descriptor = .value (ofInt word.toInt) →
          ((bucket.renderValue facet.dictionary histogram.format).result =
            .ok (toString word.toInt) ↔ IsStored word) := by
  have exact := Index.mode_of_facet opened
  have kind : facet.traits.kind = .integer := by rw [Index.traits_of_facet opened, integer]
  have whole : facet.format.integer = true := by
    rw [Index.integer_of_facet opened, kind]
    rfl
  refine ⟨fun memory hits first listed second other => ?_, fun word bound => ?_,
    fun v w => ofInt_word_inj, fun memory hits histogram counted bucket listed => ?_⟩
  · rw [exists_bucket_iff numeric exact steady opening memory listed other,
      numbersOf_integer kind, numbersOf_integer kind]
    simp only [List.mem_map, exists_exists_and_eq_and]
    simp only [eq_comm]
  · exact Or.inr (isDouble_of_le bound)
  · obtain ⟨hit, within, x, held, shown⟩ :=
      value_of_mem_count numeric exact steady opening counted listed
    rw [numbersOf_integer kind] at held
    obtain ⟨word, stored, rfl⟩ := List.mem_map.mp held
    refine ⟨⟨hit, within, word, stored, shown⟩, fun other described => ?_⟩
    have format : histogram.format = facet.format := by
      rw [count_exact numeric exact, opening] at counted
      cases counted
      rfl
    rw [← NumberFormat.number_ofInt_iff whole, Bucket.renderValue, described, format]
    exact (Except.ok.injEq _ _).to_iff

/-- The two hits of the document with the lowest and the highest price share a bucket. -/
theorem integers_share_exact_buckets_as_doubles_market :
    let hits := TableIndex.marketHits
    ∃ (facet : Facet) (reader : Reader Int64),
      TableIndex.market.toIndex.facet .default "price" .exact = .ok facet ∧
      facet.source = .numeric reader ∧ (TableIndex.market.toIndex.traits "price").kind = .integer ∧
      (∃ ordinal picked, (facet.narrow .fresh hits [ordinal]).result = .ok picked ∧
        ⟨⟨0, 0, some 1⟩, 2⟩ ∈ picked ∧ ⟨⟨0, 0, none⟩, 4⟩ ∈ picked) ∧
      (ofInt 90 = ofInt 50 ↔ (90 : Int64) = 50) := by
  intro hits
  obtain ⟨facet, opened, reader, numeric, words⟩ : ∃ facet : Facet,
      TableIndex.market.toIndex.facet .default "price" .exact = .ok facet ∧
        ∃ reader, facet.source = .numeric reader ∧
          facet.wordsOf (TableIndex.market.answers "price") ⟨0, 0, some 1⟩ = [1, 90] ∧
          facet.wordsOf (TableIndex.market.answers "price") ⟨0, 0, none⟩ = [1, 90] :=
    ⟨_, rfl, _, rfl, by decide +kernel⟩
  obtain ⟨steady, opening⟩ := TableIndex.facet_answersBy opened
  obtain ⟨shared, stored, apart, -⟩ :=
    integers_share_exact_buckets_as_doubles opened numeric rfl steady opening
  refine ⟨facet, reader, opened, numeric, rfl,
    (shared .fresh hits _ (by decide) _ (by decide)).mpr ?_,
    apart 90 50 (stored 90 (by decide)) (stored 50 (by decide))⟩
  rw [words.1, words.2]
  exact ⟨1, by decide, 1, by decide, rfl⟩

/-- Two adjacent integers that no double tells apart share a bucket, which shows the even one. -/
theorem adjacent_integers_share_exact_bucket :
    let table := (TableIndex.new 2).withWords "size" .integer
      [some 9007199254740992, some 9007199254740993]
    let first : Item := ⟨0, 0, none⟩
    let second : Item := ⟨0, 1, none⟩
    let hits : Hits := [⟨first, 0⟩, ⟨second, 0⟩]
    ∃ facet, table.toIndex.facet .default "size" .exact = .ok facet ∧
      facet.wordsOf (table.answers "size") first = [9007199254740992] ∧
      facet.wordsOf (table.answers "size") second = [9007199254740993] ∧
      (facet.narrow .fresh hits [0]).result = .ok hits ∧
      ((facet.count .fresh hits).result.toOption.map fun histogram =>
        (histogram.renderAll .empty).result) = some (.ok ["9007199254740992 (2)"]) := by
  intro table first second hits
  exact ⟨_, rfl, by decide +kernel, by decide +kernel, by decide +kernel, by decide +kernel⟩

end Facet

end Facets
